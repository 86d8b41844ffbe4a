import ElmAssist.Project.Glob
import ElmAssist.Text.Blank
import ElmAssist.Text.Utf8

/-!
# Project — Ignore patterns

The lines of an ignore file. A line is a pattern for the paths below the file's directory: with a
slash inside or in front it stands for the whole path, else for its end. `!` in front keeps what
earlier lines leave out, a slash at the end restricts the pattern to directories. The last line
that fits a path decides.

Patterns are about bytes: a question mark stands for one byte of a character, and brackets hold the
bytes of their characters.
-/

namespace ElmAssist

/-- A part of a pattern. -/
inductive Piece where
  | plain (glob : Glob)
  /-- Two asterisks and a slash in front: any directories, or none. -/
  | anywhere
  /-- A slash and two asterisks at the end: anything below. -/
  | below
  /-- Two asterisks between slashes: a slash, with any directories before it. -/
  | between
  deriving DecidableEq, Repr

namespace Piece

/-- A slash. -/
def slash : Glob := .one (.only 0x2F)

/-- Any bytes. -/
def anything : Glob := .many .any

/-- The glob of a part. -/
def glob : Piece → Glob
  | .plain s => s
  | .anywhere => .choice [.nothing, slash, .both anything slash]
  | .below => .both slash anything
  | .between => .either slash (.both slash (.both anything slash))

/-- The character itself. -/
def char (c : Char) : Piece :=
  .plain (.bytes (Text.encode (String.singleton c)))

/-- A question mark: any byte but a slash. -/
def one : Piece := .plain (.one (.without 0x2F))

/-- An asterisk: any bytes but slashes. -/
def many : Piece := .plain (.many (.without 0x2F))

end Piece

/-- What begins with an opening bracket. -/
inductive Brackets where
  | unclosed
  /-- A range ends before it starts. -/
  | wrong
  /-- The ranges, and how many characters they take with the closing bracket. -/
  | closed (ranges : List (Char × Char)) (length : Nat)
  deriving DecidableEq, Repr

namespace Brackets

/-- Reads what stands in brackets. `ranges` are those so far, last first; `dash` says that a dash
follows them, which moves the end of the last one. The first character stands for itself. -/
def read (ranges : List (Char × Char)) (dash : Bool) (length : Nat) : List Char → Brackets
  | [] => .unclosed
  | c :: cs =>
    match ranges with
    | [] => read [(c, c)] false (length + 1) cs
    | last :: before =>
      if c = ']' then
        .closed (if dash then ('-', '-') :: ranges else ranges).reverse (length + 1)
      else if dash then
        if c < last.1 then .wrong else read ((last.1, c) :: before) false (length + 1) cs
      else if c = '-' then read ranges true (length + 1) cs
      else read ((c, c) :: ranges) false (length + 1) cs

/-- The bytes of a range of characters: from the last byte of the first one to the first byte of the
last one, and their other bytes. -/
def bytes (range : Char × Char) : List (UInt8 × UInt8) :=
  let low := Text.encode (String.singleton range.1)
  let high := Text.encode (String.singleton range.2)
  if range.1 = range.2 then low.map fun b => (b, b)
  else match low.getLast?, high with
    | some a, b :: rest => (low.dropLast ++ rest).map (fun b => (b, b)) ++ [(a, b)]
    | _, _ => []

end Brackets

/-- A pattern being read. Lists are last first. -/
structure Draft where
  pieces : List Piece
  /-- For every open brace, the innermost first: its branches so far, and what stands before it. -/
  braces : List (List Glob × List Piece)
  deriving DecidableEq, Repr

namespace Draft

/-- The pattern with one more piece. -/
def push (d : Draft) (p : Piece) : Draft :=
  { d with pieces := p :: d.pieces }

/-- The glob of the branch being read. -/
def branch (d : Draft) : Glob :=
  .chain (d.pieces.reverse.map Piece.glob)

/-- An opening brace. -/
def openBrace (d : Draft) : Draft :=
  ⟨[], ([], d.pieces) :: d.braces⟩

/-- A comma, which separates branches within braces. -/
def comma (d : Draft) : Draft :=
  match d.braces with
  | [] => d.push (.char ',')
  | (branches, before) :: outer => ⟨[], (d.branch :: branches, before) :: outer⟩

/-- A closing brace. Branches of nothing do not count. -/
def closeBrace? (d : Draft) : Option Draft :=
  match d.braces with
  | [] => none
  | (branches, before) :: outer =>
    let branches := (d.branch :: branches).reverse.filter (· != .nothing)
    some ⟨.plain (.choice branches) :: before, outer⟩

/-- Two asterisks between the character `before` and `rest`, and how many characters of `rest` they
take. They mean more than one asterisk only as a whole step of the path. -/
def stars (d : Draft) (before : Option Char) (rest : List Char) : Draft × Nat :=
  let two := ((d.push .many).push .many, 0)
  match d.pieces with
  | [] =>
    match rest.head? with
    | none => (d.push .anywhere, 0)
    | some '/' => (d.push .anywhere, 1)
    | some _ => two
  | last :: front =>
    let replaced (p : Piece) : Draft :=
      if last = .anywhere || last = .below then d else { d with pieces := p :: front }
    let starts := before = some '/' ||
      (d.braces != [] && (before = some ',' || before = some '\x7b'))
    if !starts then two
    else match rest.head? with
      | none => (replaced .below, 0)
      | some '/' => (replaced .between, 1)
      | some c =>
        if d.braces != [] && (c = ',' || c = '\x7d') then (replaced .below, 0) else two

/-- Reads a pattern's text. The next `skip` characters are read already, `before` is the last one
read, and `brackets` says that brackets still mean something: from one that is not closed they stand
for themselves. -/
def read? (skip : Nat) (before : Option Char) (brackets : Bool) (d : Draft) :
    List Char → Option Draft
  | [] => some d
  | c :: cs =>
    match skip with
    | skip + 1 => read? skip (some c) brackets d cs
    | 0 =>
      if c = '?' then read? 0 (some c) brackets (d.push .one) cs
      else if c = '*' then
        if cs.head? = some '*' then
          let r := d.stars before cs.tail
          read? (r.2 + 1) (some c) brackets r.1 cs
        else read? 0 (some c) brackets (d.push .many) cs
      else if c = '[' && brackets then
        let negated := cs.head? = some '!' || cs.head? = some '^'
        match Brackets.read [] false 0 (if negated then cs.tail else cs) with
        | .wrong => none
        | .unclosed => read? 0 (some c) false (d.push (.char c)) cs
        | .closed ranges length =>
          let set : ByteSet := ⟨negated, ranges.flatMap Brackets.bytes⟩
          read? (if negated then length + 1 else length) (some c) brackets
            (d.push (.plain (.one set))) cs
      else if c = '\x7b' then read? 0 (some c) brackets d.openBrace cs
      else if c = '\x7d' then
        match d.closeBrace? with
        | some d => read? 0 (some c) brackets d cs
        | none => none
      else if c = ',' then read? 0 (some c) brackets d.comma cs
      else if c = '\\' then
        match cs.head? with
        | some e => read? 1 (some c) brackets (d.push (.char e)) cs
        | none => none
      else read? 0 (some c) brackets (d.push (.char c)) cs

end Draft

/-- The glob that a pattern's text stands for, if it is a pattern. -/
def Glob.ofPattern? (text : List Char) : Option Glob :=
  match Draft.read? 0 none true ⟨[], []⟩ text with
  | some d =>
    if d.braces != [] then none
    else if d.pieces = [.anywhere] then some Piece.anything
    else some d.branch
  | none => none

/-- A line of an ignore file. -/
structure Pattern where
  glob : Glob
  /-- The line keeps what it fits. -/
  keeps : Bool
  /-- The line is for directories only. -/
  onlyDirectories : Bool
  deriving DecidableEq, Repr

namespace Pattern

/-- The text of a pattern that fits at any depth. -/
def anywhere (cs : List Char) : List Char :=
  if cs = ['*', '*'] then cs else '*' :: '*' :: '/' :: cs

/-- The line without blanks at its end, unless the last one is escaped. -/
def trimLine (line : List Char) : List Char :=
  if ['\\', ' '].isSuffixOf line then line
  else (line.reverse.dropWhile Text.isBlank).reverse

/-- The text after the sign `!` and the slash in front, and whether they were there. -/
def openLine (line : List Char) : List Char × Bool × Bool :=
  match line with
  | '\\' :: '!' :: cs => ('!' :: cs, false, false)
  | '\\' :: '#' :: cs => ('#' :: cs, false, false)
  | '!' :: '/' :: cs => (cs, true, true)
  | '!' :: cs => (cs, true, false)
  | '/' :: cs => (cs, false, true)
  | cs => (cs, false, false)

/-- The text before the slash at the end, and whether it was there. -/
def closeLine (cs : List Char) : List Char × Bool :=
  match cs.reverse with
  | '/' :: '\\' :: back => (back.reverse, true)
  | '/' :: back => (back.reverse, true)
  | _ => (cs, false)

/-- The pattern of a line; none for a comment, a blank line or one that is no pattern. -/
def ofLine? (line : List Char) : Option Pattern :=
  let trimmed := trimLine line
  if line.head? = some '#' || trimmed = [] then none
  else
    let (cs, keeps, anchored) := openLine trimmed
    let (cs, onlyDirectories) := closeLine cs
    let cs := if anchored || cs.contains '/' then cs else anywhere cs
    let cs := if ['/', '*', '*'].isSuffixOf cs then cs ++ ['/', '*'] else cs
    (Glob.ofPattern? cs).map fun glob => ⟨glob, keeps, onlyDirectories⟩

/-- What a list of patterns says of a path below its directory: keep it (`true`), leave it out
(`false`), or nothing. -/
def verdict? (patterns : List Pattern) (path : List UInt8) (isDirectory : Bool) : Option Bool :=
  (patterns.reverse.find? fun p =>
    (!p.onlyDirectories || isDirectory) && p.glob.fits path).map Pattern.keeps

end Pattern

end ElmAssist
