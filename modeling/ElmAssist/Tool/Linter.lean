import ElmAssist.Diagnostic.Basic
import ElmAssist.Tool.Region
import ElmAssist.Tool.Report

/-!
# Tool — Linter reports

The linter reports the errors of each file. Errors that the project suppresses are left out.
-/

namespace ElmAssist

/-- An error of a linter report. -/
structure LintIssue where
  path : Option String
  rule : String
  message : String
  region : Region
  deriving DecidableEq, Repr

namespace LintIssue

/-- The project suppresses the error. -/
def isSuppressed (j : Json) : Bool :=
  (j.get? "suppressed").bind Json.bool? == some true

/-- An error of a file. -/
def ofError (path : Option String) (j : Json) : LintIssue :=
  ⟨path, ToolReport.textField j "rule", ToolReport.textField j "message",
    .ofJson (j.get? "region")⟩

/-- The errors of a file. -/
def ofFile (j : Json) : List LintIssue :=
  ((ToolReport.itemsField j "errors").filter (!isSuppressed ·)).map
    (ofError (ToolReport.textField? j "path"))

/-- The errors of a report's JSON. -/
def ofJson (j : Json) : Except ToolReport.Unreadable (List LintIssue) :=
  match ToolReport.textField? j "type" with
  | some "review-errors" => .ok ((ToolReport.itemsField j "errors").flatMap ofFile)
  | some "error" => .error (.failed ((ToolReport.textField? j "title").getD "unknown"))
  | type => .error (.unknownType type)

/-- The errors of a linter's output. -/
def parse (output : String) : Except ToolReport.Unreadable (List LintIssue) := do
  match ← ToolReport.read output with
  | none => return []
  | some j => ofJson j

/-- The message of an error, after its rule if it has one. -/
def fullMessage (i : LintIssue) : String :=
  if i.rule = "" then i.message else i.rule ++ ": " ++ i.message

/-- The diagnostic of an error. -/
def diagnostic (i : LintIssue) : Diagnostic :=
  ⟨.linter, i.region.toRange, .warning, i.fullMessage⟩

end LintIssue

end ElmAssist
