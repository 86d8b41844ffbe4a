import ElmAssist.Catalog
import ElmAssist.Diagnostic.Basic
import ElmAssist.Text.Ansi
import ElmAssist.Tool.Region
import ElmAssist.Tool.Report
import ElmAssist.Uri.File

/-!
# Tool — Compiler reports

The compiler reports in one of three shapes: the problems of each module, one problem of the whole
project, or (in old versions) a list of problems. Each problem becomes one diagnostic of one file.
-/

namespace ElmAssist

/-- A problem of a compiler report. -/
structure CompilerIssue where
  /-- The file as the compiler names it. -/
  path : Option String
  title : String
  details : String
  severity : String
  region : Region
  deriving DecidableEq, Repr

namespace CompilerIssue

/-- One piece of a message: plain text, or text with a style. -/
def pieceText : Json → String
  | .string s => s
  | j => ToolReport.textField j "string"

/-- The text of a message. -/
def messageText : Option Json → String
  | some (.string s) => s
  | some (.array pieces) => String.join (pieces.map pieceText)
  | _ => ""

/-- A problem of a module. -/
def ofProblem (path : Option String) (j : Json) : CompilerIssue :=
  ⟨path, ToolReport.textField j "title", messageText (j.get? "message"), "error",
    .ofJson (j.get? "region")⟩

/-- The problems of a module. -/
def ofModule (j : Json) : List CompilerIssue :=
  (ToolReport.itemsField j "problems").map (ofProblem (ToolReport.textField? j "path"))

/-- The problem of a project. -/
def ofProject (j : Json) : CompilerIssue :=
  ⟨ToolReport.textField? j "path", ToolReport.textField j "title", messageText (j.get? "message"),
    "error", .unknown⟩

/-- A problem of an old version's list. -/
def ofOld (j : Json) : CompilerIssue :=
  ⟨ToolReport.textField? j "file", ToolReport.textField j "overview",
    ToolReport.textField j "details", ToolReport.textField j "type", .ofJson (j.get? "region")⟩

/-- The problems of a report's JSON. -/
def ofJson (j : Json) : Except ToolReport.Unreadable (List CompilerIssue) :=
  match j.items? with
  | some issues => .ok (issues.map ofOld)
  | none =>
    match ToolReport.textField? j "type" with
    | some "compile-errors" => .ok ((ToolReport.itemsField j "errors").flatMap ofModule)
    | some "error" => .ok [ofProject j]
    | type => .error (.unknownType type)

/-- The problems of a compiler's output. -/
def parse (output : String) : Except ToolReport.Unreadable (List CompilerIssue) := do
  match ← ToolReport.read output with
  | none => return []
  | some j => ofJson j

/-- The diagnostic of a problem. -/
def diagnostic (i : CompilerIssue) : Diagnostic :=
  ⟨.compiler, i.region.toRange, .ofTool i.severity,
    i.title ++ " - " ++ Text.stripColours i.details⟩

/-- The uri a problem belongs to; a problem without a file belongs to the manifest. Relative paths
start from the root, and that from the working directory. -/
def uri (cwd root : Path) (i : CompilerIssue) : String :=
  Uri.ofPath (Uri.absolute cwd (root.child (i.path.getD "elm.json")))

/-- The diagnostics of each file, in the order of the report. -/
def byUri (cwd root : Path) (issues : List CompilerIssue) : Catalog String (List Diagnostic) :=
  issues.foldl (fun c i => c.append (i.uri cwd root) i.diagnostic) .empty

end CompilerIssue

end ElmAssist
