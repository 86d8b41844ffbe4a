import ElmAssist.Json.Written
import ElmAssist.Json.Writer
import ElmAssist.Text.Blank
import ElmAssist.Text.Hidden

/-!
# Tool — Reports

What the reports of the compiler and the linter have in common: blank output finds nothing, any
other output has to be JSON, and the member `type` of an object says which report it is.
-/

namespace ElmAssist.ToolReport

/-- Why a report cannot be read. -/
inductive Unreadable where
  | notJson
  /-- The report is of a type that is not known, or has none. -/
  | unknownType (type : Option String)
  /-- The linter says that it could not run. -/
  | failed (title : String)
  deriving DecidableEq, Repr

/-- A character between quotes in a message: quotes, backslashes and line breaks are escaped, and
hidden characters by their code. -/
def showChar (c : Char) : List Char :=
  if c == '"' then ['\\', '"']
  else if c == '\\' then ['\\', '\\']
  else if c == '\n' then ['\\', 'n']
  else if c == '\r' then ['\\', 'r']
  else if c == '\t' then ['\\', 't']
  else if c == '\x00' then ['\\', '0']
  else if Text.isHidden c then
    ['\\', 'u', '\x7b'] ++ Nat.toDigits 16 c.toNat ++ ['\x7d']
  else [c]

/-- A type as messages show it. -/
def showType : Option String → String
  | none => "None"
  | some s => "Some(\"" ++ String.ofList (s.toList.flatMap showChar) ++ "\")"

namespace Unreadable

/-- The text for a report that cannot be read. -/
def message : Unreadable → String
  | .notJson => Json.unreadableDetail
  | .unknownType type => "unexpected report type " ++ showType type
  | .failed title => "linter error: " ++ title

end Unreadable

/-- The JSON of an output, or none when the output is blank. -/
def read (output : String) : Except Unreadable (Option Json) :=
  let body := Text.trim output
  if body = "" then .ok none
  else match Json.read? body with
    | none => .error .notJson
    | some j => .ok (some j)

/-- The text of a member; empty when it is not there or no string. -/
def textField (j : Json) (name : String) : String :=
  ((j.get? name).bind Json.string?).getD ""

/-- The items of a member; none when it is not there or no array. -/
def itemsField (j : Json) (name : String) : List Json :=
  ((j.get? name).bind Json.items?).getD []

/-- The text of a member, if it is there. -/
def textField? (j : Json) (name : String) : Option String :=
  (j.get? name).bind Json.string?

end ElmAssist.ToolReport
