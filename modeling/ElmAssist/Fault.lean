/-!
# Faults

What keeps an operation from being done, the text that says so, and the exit code it ends a command
with. A reference without a definition and a tool that finds problems are no faults.
-/

namespace ElmAssist

/-- Why an operation was not done. -/
inductive Fault where
  | fileNotFound (path : String)
  /-- No directory at or above the path is a project. -/
  | noProject (path : String)
  | manifest (path detail : String)
  | unparsed (detail : String)
  | invalidUri (uri : String)
  | tool (program detail : String)
  | configuration (detail : String)
  | storage (path detail : String)
  | io (detail : String)
  deriving DecidableEq, Repr

namespace Fault

/-- The text of a fault. -/
def message : Fault → String
  | .fileNotFound path => "File not found: " ++ path
  | .noProject path => "No elm.json found for " ++ path
  | .manifest path detail => "Invalid elm.json at " ++ path ++ ": " ++ detail
  | .unparsed detail => "Failed to parse file: " ++ detail
  | .invalidUri uri => "Invalid document uri: " ++ uri
  | .tool program detail => "Failed to run " ++ program ++ ": " ++ detail
  | .configuration detail => "Configuration error: " ++ detail
  | .storage path detail => "IO error at " ++ path ++ ": " ++ detail
  | .io detail => "IO error: " ++ detail

/-- The exit code: 1 for files, 2 for projects, 3 for parsing, 4 for tools, 5 for settings and
uris. -/
def exitCode : Fault → Nat
  | .fileNotFound _ | .storage .. | .io _ => 1
  | .noProject _ | .manifest .. => 2
  | .unparsed _ => 3
  | .tool .. => 4
  | .configuration _ | .invalidUri _ => 5

end Fault

end ElmAssist
