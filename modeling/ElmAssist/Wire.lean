import ElmAssist.Diagnostic.Board
import ElmAssist.Fault
import ElmAssist.Json.Basic
import ElmAssist.Navigation
import ElmAssist.Uri.Reference

/-!
# Wire

The JSON that editors are sent. A uri is checked only here: one that is not a uri reference is a
fault.
-/

namespace ElmAssist.Wire

/-- A position. -/
def position (p : Position) : Json :=
  .object [("line", .ofNat p.line), ("character", .ofNat p.character)]

/-- A range. -/
def range (r : Range) : Json :=
  .object [("start", position r.start), ("end", position r.stop)]

/-- A uri that editors accept. -/
def uri (uri : String) : Except Fault Json :=
  if Uri.isReference uri then .ok (.string uri) else .error (.invalidUri uri)

/-- A diagnostic. -/
def diagnostic (d : Diagnostic) : Json :=
  .object [("range", range d.range), ("severity", .ofNat d.severity.code),
    ("source", .string d.channel.source), ("message", .string d.message)]

/-- The list of one file. -/
def fileParams (file : FileDiagnostics) : Except Fault Json := do
  return .object
    [("uri", ← uri file.uri), ("diagnostics", .array (file.diagnostics.map diagnostic))]

/-- The notifications of a publication: the list of each file, then an empty one for each cleared
file. -/
def publishParams (p : Publication) : Except Fault (List Json) :=
  (p.files ++ p.cleared.map (FileDiagnostics.mk · [])).mapM fileParams

/-- The members of a location. -/
def locationMembers (l : Location) : Except Fault (List (String × Json)) := do
  return [("uri", ← uri l.uri), ("range", range l.range)]

/-- A location. -/
def location (l : Location) : Except Fault Json :=
  (locationMembers l).map .object

/-- A hover text. -/
def hover (markdown : String) : Json :=
  .object [("contents", .object [("kind", .string "markdown"), ("value", .string markdown)])]

/-- A diagnostic in listings. -/
def listedDiagnostic (d : Diagnostic) : Json :=
  .object [("range", range d.range), ("severity", .string d.severity.word),
    ("message", .string d.message), ("source", .string d.channel.source)]

/-- The members of a publication in listings. -/
def publicationMembers (p : Publication) : List (String × Json) :=
  ("files", .array (p.files.map fun f =>
    .object [("uri", .string f.uri), ("diagnostics", .array (f.diagnostics.map listedDiagnostic))]))
  :: if p.cleared = [] then [] else [("cleared", .array (p.cleared.map .string))]

end ElmAssist.Wire
