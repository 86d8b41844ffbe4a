import ElmAssist.Toml.Token

/-!
# Toml — Documents

The table that a document of TOML 1.0 writes, or nothing when the text is not one.
-/

namespace ElmAssist.Toml

/-- The rest after blanks, line breaks and comments between the items of an array. -/
def skipBetween : Nat → List Char → List Char
  | 0, cs => cs
  | fuel + 1, cs =>
    match skipSpace cs with
    | '#' :: rest => skipBetween fuel (skipComment ('#' :: rest))
    | cs => cs

mutual

/-- The value at the front, with `depth` containers around it. -/
def value? : Nat → Nat → List Char → Option (Value × List Char)
  | 0, _, _ | _, _, [] => none
  | fuel + 1, depth, c :: cs =>
    if c = '"' || c = '\x27' then
      (string? (c :: cs)).map fun r => (.string (String.ofList r.1), r.2)
    else if c = '[' then
      if depth + 1 < depthBound then
        (items? fuel (depth + 1) (skipBetween cs.length cs)).map fun r => (.array r.1, r.2)
      else none
    else if c = '\x7b' then
      if depth + 1 < depthBound then
        match skipBlanks cs with
        | '\x7d' :: rest => some (.table .braces [], rest)
        | cs =>
          (members? fuel (depth + 1) (.empty .braces) cs).map fun r => (.table r.1.1 r.1.2, r.2)
      else none
    else if c = 't' then (word? ['r', 'u', 'e'] cs).map (.boolean true, ·)
    else if c = 'f' then (word? ['a', 'l', 's', 'e'] cs).map (.boolean false, ·)
    else quantity? (c :: cs)

/-- The items of an array up to its closing bracket. A comma may follow the last one. -/
def items? : Nat → Nat → List Char → Option (List Value × List Char)
  | 0, _, _ => none
  | _ + 1, _, ']' :: rest => some ([], rest)
  | fuel + 1, depth, cs => do
    let (v, cs) ← value? fuel depth cs
    match skipBetween cs.length cs with
    | ',' :: cs =>
      (items? fuel depth (skipBetween cs.length cs)).map fun r => (v :: r.1, r.2)
    | ']' :: cs => return ([v], cs)
    | _ => none

/-- The members of a table up to its closing brace, put into those before them. -/
def members? : Nat → Nat → Table → List Char → Option (Table × List Char)
  | 0, _, _, _ => none
  | fuel + 1, depth, t, cs => do
    let (path, name, cs) ← key? cs
    let (v, cs) ← value? fuel depth (skipBlanks (← skipChar? '=' cs))
    let t ← t.put path name v
    match skipBlanks cs with
    | ',' :: cs => members? fuel depth t cs
    | '\x7d' :: cs => return (t, cs)
    | _ => none

end

/-- The rest after the end of a line, where blanks and a comment may stand. -/
def lineEnd? (cs : List Char) : Option (List Char) :=
  match skipComment (skipBlanks cs) with
  | [] => some []
  | cs => newline? cs

/-- A document being read: all its tables, and the path of the one that lines are put into. -/
structure Draft where
  document : Table
  path : List String

/-- Reads a header, after its first bracket. -/
def header? (d : Draft) (cs : List Char) : Option (Draft × List Char) :=
  match cs with
  | '[' :: cs => do
    let (path, name, cs) ← key? cs
    let cs ← lineEnd? (← skipChar? ']' (← skipChar? ']' cs))
    let document ← d.document.modify false (Table.openNext name) path
    return (⟨document, path ++ [name]⟩, cs)
  | cs => do
    let (path, name, cs) ← key? cs
    let cs ← lineEnd? (← skipChar? ']' cs)
    let document ← d.document.modify false (Table.openTable name) path
    return (⟨document, path ++ [name]⟩, cs)

/-- Reads a key and its value. -/
def assignment? (d : Draft) (cs : List Char) : Option (Draft × List Char) := do
  let (path, name, cs) ← key? cs
  let cs := skipBlanks (← skipChar? '=' cs)
  let (v, cs) ← value? (2 * cs.length + 2) 0 cs
  let cs ← lineEnd? cs
  let document ← d.document.modify false (Table.put path name v) d.path
  return ({ d with document }, cs)

/-- Reads a line. -/
def line? (d : Draft) (cs : List Char) : Option (Draft × List Char) :=
  match skipBlanks cs with
  | [] => some (d, [])
  | '[' :: cs => header? d cs
  | c :: cs =>
    if c = '#' || c = '\n' || c = '\r' then (lineEnd? (c :: cs)).map (d, ·)
    else assignment? d (c :: cs)

/-- Reads all lines. -/
def lines? : Nat → Draft → List Char → Option Table
  | _, d, [] => some d.document
  | 0, _, _ => none
  | fuel + 1, d, cs => (line? d cs).bind fun r => lines? fuel r.1 r.2

/-- How messages speak of a text that cannot be read as settings. -/
def unreadableDetail : String := "<toml error>"

/-- The characters after a byte order mark. -/
def skipMark : List Char → List Char
  | '\ufeff' :: cs => cs
  | cs => cs

/-- The table of a document. -/
def read? (text : String) : Option Value :=
  let cs := skipMark text.toList
  (lines? (cs.length + 1) ⟨.empty .header, []⟩ cs).map fun t => .table t.1 t.2

end ElmAssist.Toml
