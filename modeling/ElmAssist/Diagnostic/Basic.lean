import ElmAssist.Text.Point

/-!
# Diagnostic — Diagnostics

A problem at a range of a file, as one of three channels found it.
-/

namespace ElmAssist

/-- How bad a problem is. -/
inductive Severity where
  | error
  | warning
  deriving DecidableEq, Repr

namespace Severity

/-- The severity a tool writes; a word that is not known is an error. -/
def ofTool (word : String) : Severity :=
  if word = "warning" then .warning else .error

/-- The word for a severity. -/
def word : Severity → String
  | .error => "error"
  | .warning => "warning"

/-- The number editors use. -/
def code : Severity → Nat
  | .error => 1
  | .warning => 2

end Severity

/-- Who finds problems. -/
inductive Channel where
  | linter
  /-- The check of the trees themselves, as a file is edited. -/
  | live
  | compiler
  deriving DecidableEq, Repr

namespace Channel

/-- The order in which lists are merged. -/
def all : List Channel := [.linter, .live, .compiler]

/-- The place in the order. -/
def index : Channel → Nat
  | .linter => 0
  | .live => 1
  | .compiler => 2

/-- The name under which an editor shows the channel's problems. -/
def source : Channel → String
  | .linter => "elm-review"
  | .live => "elm-intel"
  | .compiler => "Elm"

/-- The name of a channel. -/
def name : Channel → String
  | .linter => "linter"
  | .live => "syntax"
  | .compiler => "compiler"

/-- The channel of a name. -/
def ofName? (name : String) : Option Channel :=
  all.find? fun c => c.name == name

end Channel

/-- A problem. -/
structure Diagnostic where
  channel : Channel
  range : Range
  severity : Severity
  message : String
  deriving DecidableEq, Repr

end ElmAssist
