/-!
# Command — Words

How the words of a command line are taken apart, for any set of options.

* An option is written `--name` or `-n`. Its value follows as the next word, after `=`, or right
  after the letter; letters of options without values may stand in one word.
* After `--` no word is an option.
* A value is looked at when the next option or word that fits comes, or at the end. What does not
  fit counts at once, before a bad value that is still to be looked at.
* The words of a subcommand count before a value left open in front of it.
-/

namespace ElmAssist.Command

/-- Why the words of a command line are no request. -/
inductive Usage where
  /-- Help was asked for. -/
  | help
  /-- The version was asked for. -/
  | version
  /-- There are no words at all. -/
  | nothing
  | missingSubcommand
  | unknownSubcommand
  | unknownWord
  /-- An option without its value, or a value that is not one of those allowed. -/
  | badValue
  /-- A value that cannot be read. -/
  | unreadableValue
  /-- A value for an option that takes none. -/
  | unneededValue
  | repeated
  | missingWord
  deriving DecidableEq, Repr

namespace Usage

/-- The exit code: help that was asked for is a success. -/
def exitCode : Usage → Nat
  | .help | .version => 0
  | _ => 2

end Usage

/-- What an option does. -/
inductive Role where
  | flag
  /-- It takes a value, which has to pass the check. -/
  | value (check : String → Option Usage)
  /-- It ends everything. -/
  | stop (reason : Usage)

/-- An option. Its long name also names what it sets. -/
structure Opt where
  name : String
  letter : Option Char
  role : Role

/-- What a (sub)command takes: options, and a word of its own if it has one. -/
structure Shape where
  options : List Opt
  word : Option Opt
  /-- The names of subcommands. -/
  subcommands : List String

/-- A command line being read. -/
structure Scan where
  /-- The names set so far and their values. -/
  settled : List (String × String)
  /-- The option or word seen last and its value, still to be looked at. -/
  pending : Option (Opt × Option String)
  /-- How many words of its own there were. -/
  words : Nat

namespace Scan

/-- Before the first word. -/
def start : Scan := ⟨[], none, 0⟩

/-- Sets a name, which may be set once. -/
def set (s : Scan) (o : Opt) (value : String) : Except Usage Scan :=
  if (s.settled.lookup o.name).isSome then .error .repeated
  else
    let bad := match o.role with
      | .value check => check value
      | _ => none
    match bad with
    | some e => .error e
    | none => .ok { s with settled := s.settled ++ [(o.name, value)] }

/-- Looks at what was seen last. -/
def resolve (s : Scan) : Except Usage Scan :=
  match s.pending with
  | none => .ok s
  | some (_, none) => .error .badValue
  | some (o, some value) => { s with pending := none }.set o value

/-- The option seen last still waits for its value. -/
def waits (s : Scan) : Bool :=
  match s.pending with
  | some (_, none) => true
  | _ => false

/-- Takes in an option, with the value written to it if there is one. -/
def takeOption (s : Scan) (o : Opt) (attached : Option String) : Except Usage Scan := do
  let s ← s.resolve
  match o.role, attached with
  | .stop reason, none => throw reason
  | .flag, none => s.set o "true"
  | .value _, some value => s.set o value
  | .value _, none => return { s with pending := some (o, none) }
  | _, some _ => throw .unneededValue

/-- The letters of a word after its dash. -/
def takeLetters (shape : Shape) (s : Scan) : List Char → Except Usage Scan
  | [] => .ok s
  | c :: rest =>
    match shape.options.find? fun o => o.letter = some c with
    | none => .error .unknownWord
    | some o =>
      match o.role, rest with
      | .value _, [] => s.takeOption o none
      | .value _, '=' :: value => s.takeOption o (some (String.ofList value))
      | .value _, value => s.takeOption o (some (String.ofList value))
      | _, _ => (s.takeOption o none).bind fun s => takeLetters shape s rest

/-- A long option, after its dashes. -/
def takeLong (shape : Shape) (s : Scan) (cs : List Char) : Except Usage Scan :=
  let name := cs.takeWhile (· != '=')
  let attached := match cs.drop name.length with
    | _ :: value => some (String.ofList value)
    | [] => none
  match shape.options.find? fun o => o.name = String.ofList name with
  | none => .error .unknownWord
  | some o =>
    match o.role, attached with
    | .value _, _ | _, none => s.takeOption o attached
    | _, some _ => .error .unneededValue

/-- A word that is no option. `trailing` says that it stands after `--`. -/
def takeWord (shape : Shape) (trailing : Bool) (s : Scan) (w : String) : Except Usage Scan :=
  match shape.word with
  | some o =>
    if s.words = 0 then s.resolve.map fun s => { s with pending := some (o, some w), words := 1 }
    else .error .unknownWord
  | none =>
    if shape.subcommands = [] || trailing && shape.subcommands.contains w then .error .unknownWord
    else .error .unknownSubcommand

/-- Reads words up to the name of a subcommand. Gives what was read, and the subcommand with the
words after it. -/
def read (shape : Shape) (trailing : Bool) (s : Scan) :
    List String → Except Usage (Scan × Option (String × List String))
  | [] => .ok (s, none)
  | w :: rest =>
    if trailing then (s.takeWord shape true w).bind (read shape true · rest)
    else if !s.waits && shape.subcommands.contains w then .ok (s, some (w, rest))
    else match w.toList with
      | ['-', '-'] => read shape true s rest
      | '-' :: '-' :: cs => (s.takeLong shape cs).bind (read shape false · rest)
      | '-' :: c :: cs => (s.takeLetters shape (c :: cs)).bind (read shape false · rest)
      | _ =>
        match s.pending with
        | some (o, none) => read shape false { s with pending := some (o, some w) } rest
        | _ => (s.takeWord shape false w).bind (read shape false · rest)

/-- The value of a name. -/
def value? (s : Scan) (name : String) : Option String :=
  s.settled.lookup name

/-- The name is set. -/
def has (s : Scan) (name : String) : Bool :=
  (s.value? name).isSome

end Scan

end ElmAssist.Command
