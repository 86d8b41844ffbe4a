import ElmAssist.Command.Request
import ElmAssist.Json.Writer
import ElmAssist.Project.Sources
import ElmAssist.Text.Blank
import ElmAssist.Wire
import ElmAssist.Workspace.Basic

/-!
# Command — Listings

How answers are written: as lines for readers, or as pretty JSON for programs. Every answer ends
with a line break.
-/

namespace ElmAssist

namespace Listing

/-- Lines, each with its end. -/
def ofLines (lines : List String) : String :=
  String.join (lines.map (· ++ "\n"))

/-- Pretty JSON. -/
def ofJson (j : Json) : String :=
  ofLines [j.pretty]

/-- Compact JSON values, one a line. -/
def ofMessages (js : List Json) : String :=
  ofLines (js.map Json.compact)

/-- A line further in. -/
def indented (line : String) : String :=
  "  " ++ line

/-- Paths in JSON. -/
def pathsJson (ps : List Path) : Json :=
  .array (ps.map fun p => .string p.display)

/-- A number of things. -/
def counted (n : Nat) (things : String) : String :=
  toString n ++ " " ++ things

/-- A place in a file, separated by colons. -/
def placeText (p : Position) : String :=
  toString p.line ++ ":" ++ toString p.character

end Listing

open Listing

/-- A project that was found: its source directories, or why it cannot be opened. -/
structure FoundProject where
  root : Path
  sources : Except Fault (List Path)

namespace FoundProject

/-- The project in a directory. -/
def of (m : Machine) (root : Path) : FoundProject :=
  ⟨root, (Manifest.load m root).map (·.sourcePaths root)⟩

/-- The source directories; none when the project cannot be opened. -/
def directories (p : FoundProject) : List Path :=
  p.sources.toOption.getD []

/-- Why the project cannot be opened. -/
def problem? (p : FoundProject) : Option String :=
  match p.sources with
  | .ok _ => none
  | .error e => some e.message

/-- The lines of a project. -/
def lines (verbose : Bool) (p : FoundProject) : List String :=
  let remark := match p.problem? with
    | some text => "  (" ++ text ++ ")"
    | none => ""
  (p.root.display ++ remark) ::
    if verbose then p.directories.map fun dir => indented dir.display else []

/-- The JSON of a project. -/
def json (p : FoundProject) : Json :=
  .object ([("root", .string p.root.display), ("source_directories", pathsJson p.directories)] ++
    p.problem?.toList.map fun text => ("error", .string text))

/-- The listing of projects. -/
def listing (format : Format) (verbose : Bool) (ps : List FoundProject) : String :=
  match format with
  | .json => ofJson (.array (ps.map json))
  | .text => ofLines (if ps = [] then ["No elm.json found"] else ps.flatMap (lines verbose))

end FoundProject

/-- A module name, the files that declare it, and what the first of them imports. -/
structure ListedModule where
  name : String
  uris : List String
  imports : List String

namespace ListedModule

/-- The modules that the first file of several imports, as it is written there. -/
def importsOf (s : Forest) (uris : List String) : List String :=
  match uris.head?.bind s.get? with
  | some f => f.module.writtenImports.map Import.module
  | none => []

/-- The modules of a forest in order, or only those that several files declare. -/
def all (s : Forest) (duplicates : Bool) : List ListedModule :=
  (if duplicates then s.modules.duplicates else s.modules.entries).map fun e =>
    ⟨e.1, e.2, importsOf s e.2⟩

/-- The lines of a module. -/
def lines (verbose : Bool) (m : ListedModule) : List String :=
  let remark := if 1 < m.uris.length then "  (declared " ++ counted m.uris.length "times)" else ""
  (m.name ++ remark) :: m.uris.map indented ++
    if verbose && !m.imports.isEmpty then
      [indented ("imports: " ++ String.intercalate ", " m.imports)]
    else []

/-- The JSON of a module. -/
def json (m : ListedModule) : Json :=
  .object ([("name", .string m.name), ("uris", .array (m.uris.map .string))] ++
    if m.imports.isEmpty then [] else [("imports", .array (m.imports.map .string))])

/-- How many modules a forest has. -/
def countLine (s : Forest) : String :=
  counted s.modules.entries.length "modules, " ++ counted s.modules.duplicates.length "duplicated"

/-- The listing of the modules of a forest. -/
def listing (format : Format) (verbose : Bool) (s : Forest) (duplicates : Bool) : String :=
  let ms := all s duplicates
  match format with
  | .json => ofJson (.array (ms.map json))
  | .text => ofLines (ms.flatMap (lines verbose) ++ [countLine s])

end ListedModule

namespace Location

/-- The line of a location: its path if it has one, and its range. -/
def line (l : Location) : String :=
  let place := ((Uri.path? l.uri).map Path.display).getD l.uri
  place ++ ":" ++ placeText l.range.start ++ "-" ++ placeText l.range.stop

/-- The JSON of a location: as editors are sent it, with its path if it has one. -/
def json (l : Location) : Except Fault Json := do
  let path := (Uri.path? l.uri).map fun p => ("path", Json.string p.display)
  return .object ((← Wire.locationMembers l) ++ path.toList)

/-- The listing of a definition. -/
def listing (format : Format) (l : Option Location) : Except Fault String :=
  match format, l with
  | .json, some l => l.json.map ofJson
  | .json, none => .ok (ofJson .null)
  | .text, some l => .ok (ofLines [l.line])
  | .text, none => .ok (ofLines ["No definition found"])

end Location

namespace Hint

/-- The listing of a hint. -/
def listing (format : Format) (hint : Option String) : String :=
  match format, hint with
  | .json, some h => ofJson (Wire.hover h)
  | .json, none => ofJson .null
  | .text, some h => ofLines [Text.trim h]
  | .text, none => ofLines ["No hover information"]

end Hint

/-- How many problems were found, and which tools had a part in it. -/
structure Summary where
  /-- The files with a problem. -/
  files : Nat
  errors : Nat
  warnings : Nat
  compiler : Bool
  linter : Bool
  deriving DecidableEq, Repr

namespace Summary

/-- The files with a problem. -/
def troubled (p : Publication) : List FileDiagnostics :=
  p.files.filter fun f => !f.diagnostics.isEmpty

/-- How many problems of a severity there are. -/
def count (p : Publication) (severity : Severity) : Nat :=
  (p.files.flatMap FileDiagnostics.diagnostics).countP (·.severity = severity)

/-- The summary of what is published for a workspace. -/
def of (w : Workspace) (p : Publication) : Summary :=
  ⟨(troubled p).length, count p .error, count p .warning, w.compiler.isSome, w.linter.isSome⟩

/-- The tools that had no part. -/
def skipped (s : Summary) : List String :=
  (if s.compiler then [] else ["compiler"]) ++ (if s.linter then [] else ["linter"])

/-- The line of a summary. -/
def line (s : Summary) : String :=
  counted s.errors "errors, " ++ counted s.warnings "warnings in " ++ counted s.files "files" ++
    if s.skipped = [] then "" else " (" ++ String.intercalate ", " s.skipped ++ " not run)"

/-- The JSON of a summary. -/
def json (s : Summary) : Json :=
  .object [("files", .ofNat s.files), ("errors", .ofNat s.errors), ("warnings", .ofNat s.warnings),
    ("compiler", .bool s.compiler), ("linter", .bool s.linter)]

end Summary

namespace Publication

/-- The path of a uri, below the project if it is there. -/
def placeIn (root : Path) (uri : String) : String :=
  match Uri.path? uri with
  | some p => ((p.below? root).getD p).display
  | none => uri

/-- The line of a diagnostic; lines and characters count from one here. -/
def line (place : String) (d : Diagnostic) : String :=
  let start := d.range.start
  place ++ ":" ++ placeText ⟨start.line + 1, start.character + 1⟩ ++ ": " ++ d.severity.word ++
    " [" ++ d.channel.source ++ "] " ++ d.message

/-- The lines of a file. -/
def fileLines (root : Path) (f : FileDiagnostics) : List String :=
  f.diagnostics.map (line (placeIn root f.uri))

/-- The listing of what is published for a workspace. -/
def listing (format : Format) (w : Workspace) (p : Publication) : String :=
  let summary := Summary.of w p
  match format with
  | .json => ofJson (.object (("summary", summary.json) :: Wire.publicationMembers p))
  | .text => ofLines (p.files.flatMap (fileLines w.root) ++ [summary.line])

end Publication

end ElmAssist
