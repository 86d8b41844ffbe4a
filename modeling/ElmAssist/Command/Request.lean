import ElmAssist.Command.Usage
import ElmAssist.Disk.Path
import ElmAssist.Text.Point

/-!
# Command — Requests

What can be asked on the command line, and how it is written.
-/

namespace ElmAssist

/-- How an answer is written. -/
inductive Format where
  | text
  | json
  deriving DecidableEq, Repr

/-- What is asked about one project. -/
inductive Inquiry where
  /-- The modules, or only those that several files declare. -/
  | modules (root : Option Path) (duplicates : Bool)
  /-- The definition of the name at a position of a file. -/
  | definition (file : Path) (position : Position)
  /-- The hint of the name at a position of a file. -/
  | hover (file : Path) (position : Position)
  /-- The problems. -/
  | diagnostics (root : Option Path) (withCompiler withLinter asMessages : Bool)
  deriving DecidableEq, Repr

/-- What is asked. -/
inductive Question where
  /-- The projects at or below a directory. -/
  | roots (path : Option Path)
  | about (inquiry : Inquiry)
  deriving DecidableEq, Repr

/-- A question, and what holds for all questions. -/
structure Request where
  question : Question
  format : Format
  verbose : Bool
  /-- A file with an editor's settings. -/
  settings : Option Path
  deriving DecidableEq, Repr

namespace Request

open Command

/-- The format of a name. -/
def formatOfName? (name : String) : Option Format :=
  if name = "text" || name = "pretty" then some .text
  else if name = "json" then some .json
  else none

/-- A format has a name that is known. -/
def checkFormat (value : String) : Option Usage :=
  if (formatOfName? value).isSome then none else some .badValue

/-- A path is not empty. -/
def checkPath (value : String) : Option Usage :=
  if value = "" then some .badValue else none

/-- The number of decimal digits, one or more. -/
def naturalOf? (cs : List Char) : Option Nat :=
  if cs = [] || !cs.all Char.isDigit then none
  else some (cs.foldl (fun n c => n * 10 + (c.toNat - 48)) 0)

/-- A line or character: a number of 32 bits, a plus before it or not. A minus goes with zero. -/
def number? (value : String) : Option Nat :=
  let n := match value.toList with
    | '+' :: cs => naturalOf? cs
    | '-' :: cs => (naturalOf? cs).filter (· == 0)
    | cs => naturalOf? cs
  n.filter (· < Nat.pow 2 32)

/-- A number can be read. -/
def checkNumber (value : String) : Option Usage :=
  if (number? value).isSome then none else some .unreadableValue

/-- The options of every command. -/
def common : List Opt :=
  [⟨"format", some 'f', .value checkFormat⟩, ⟨"verbose", some 'v', .flag⟩,
    ⟨"settings", none, .value checkPath⟩, ⟨"help", some 'h', .stop .help⟩,
    ⟨"version", some 'V', .stop .version⟩]

/-- A word that is a path. -/
def pathWord : Opt := ⟨"path", none, .value checkPath⟩

/-- A flag without a letter. -/
def longFlag (name : String) : Opt := ⟨name, none, .flag⟩

/-- The options of a position. -/
def positionOptions : List Opt :=
  [⟨"line", some 'l', .value checkNumber⟩, ⟨"character", some 'c', .value checkNumber⟩]

/-- The subcommands. -/
inductive Verb where
  | roots
  | modules
  | definition
  | hover
  | diagnostics
  deriving DecidableEq, Repr

namespace Verb

/-- The names of the subcommands, short ones included. -/
def names : List (String × Verb) :=
  [("roots", .roots), ("modules", .modules), ("m", .modules), ("definition", .definition),
    ("def", .definition), ("hover", .hover), ("diagnostics", .diagnostics), ("d", .diagnostics)]

/-- The options of a subcommand alone. -/
def options : Verb → List Opt
  | .roots => []
  | .modules => [longFlag "duplicates"]
  | .definition | .hover => positionOptions
  | .diagnostics => [longFlag "no-compiler", longFlag "no-linter", longFlag "lsp"]

/-- What a subcommand takes. -/
def shape (v : Verb) : Shape := ⟨v.options ++ common, some pathWord, []⟩

/-- The question of a subcommand. -/
def question (v : Verb) (s : Scan) : Except Usage Question :=
  let path := (s.value? "path").map Path.ofString
  let position : Option Position := do
    return ⟨← (s.value? "line").bind number?, ← (s.value? "character").bind number?⟩
  match v with
  | .roots => .ok (.roots path)
  | .modules => .ok (.about (.modules path (s.has "duplicates")))
  | .diagnostics =>
    .ok (.about (.diagnostics path (!s.has "no-compiler") (!s.has "no-linter") (s.has "lsp")))
  | .definition | .hover =>
    match path, position with
    | some file, some p =>
      .ok (.about (if v = .hover then .hover file p else .definition file p))
    | _, _ => .error .missingWord

end Verb

/-- The name of the subcommand that shows help. -/
def helpName : String := "help"

/-- What stands before the subcommand. -/
def shape : Shape := ⟨common, none, helpName :: Verb.names.map Prod.fst⟩

/-- Help about the subcommand that is named, if one is. -/
def helpAbout : List String → Usage
  | [] => .help
  | [name] => if shape.subcommands.contains name then .help else .unknownSubcommand
  | _ => .unknownSubcommand

/-- The value of an option that may stand before or after the subcommand. The one after it counts
first. -/
def either (outer inner : Scan) (name : String) : Option String :=
  (inner.value? name).or (outer.value? name)

/-- The request of a command line. -/
def parse (words : List String) : Except Usage Request := do
  let (outer, sub) ← Scan.start.read shape false words
  match sub with
  | none =>
    let outer ← outer.resolve
    throw (if outer.settled = [] then .nothing else .missingSubcommand)
  | some (name, rest) =>
    match Verb.names.lookup name with
    | none => throw (helpAbout rest)
    | some v =>
      let (inner, _) ← Scan.start.read v.shape false rest
      let inner ← inner.resolve
      let question ← v.question inner
      let outer ← outer.resolve
      return {
        question
        format := ((either outer inner "format").bind formatOfName?).getD .text
        verbose := (either outer inner "verbose").isSome
        settings := (either outer inner "settings").map Path.ofString }

end Request

end ElmAssist
