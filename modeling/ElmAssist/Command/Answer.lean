import ElmAssist.Command.Listing
import ElmAssist.Workspace.Session

/-!
# Command — Answers

A question is answered from the disk as it is. For an inquiry the project is found, opened and
loaded first; tools run only when it is about problems.

The faults of a request come in this order: those of the editor's settings file, of the place that
the inquiry names, of the project's settings, of the settings sent, of the manifest, and last those
of the inquiry itself.
-/

namespace ElmAssist

namespace Inquiry

/-- The path whose project the inquiry is about; none for that of the working directory. -/
def start (m : Machine) : Inquiry → Except Fault (Option Path)
  | .modules path _ | .diagnostics path .. => .ok path
  | .definition file _ | .hover file _ => (m.canonical file).map Path.parent?

/-- The settings as the inquiry needs them: without the tools that are not asked for. -/
def adjust : Inquiry → Settings → Settings
  | .diagnostics _ withCompiler withLinter _, s =>
    let s := if withCompiler then s else s.withoutCompiler
    if withLinter then s else s.withoutLinter
  | _, s => s.offline

/-- The root of the project at or above a path. -/
def rootFrom (m : Machine) (given : Option Path) : Except Fault Path := do
  let start ← match given with
    | some p => m.canonical p
    | none => pure m.cwd
  match Project.rootOf? m start with
  | some root => return root
  | none => throw (.noProject start.display)

/-- The workspace of an inquiry, before its sources are loaded. -/
def workspace (m : Machine) (sent : Option Json) (q : Inquiry) : Except Fault Workspace := do
  let root ← rootFrom m (← q.start m)
  let settings ← (← Settings.load m root).mergeSent sent
  Workspace.openWith m root (q.adjust settings)

/-- The workspace with a file in it, and the file's uri. A file that is not among the sources is
looked at as it is on disk. -/
def withFile (parse : Parser) (m : Machine) (w : Workspace) (file : Path) :
    Except Fault (Workspace × String) := do
  let file ← m.canonical file
  let uri := Project.uriOf m file
  if (w.forest.get? uri).isSome then return (w, uri)
  let t := w.openFile parse uri (← m.readText file) 0
  match t.fault with
  | some e => throw e
  | none => return (t.workspace, uri)

/-- The problems that are known once every channel has looked at every file. -/
def problems {m : Type → Type} [Monad m] (runner : Tool.Runner m) (machine : Machine)
    (format : Format) (asMessages : Bool) (w : Workspace) : m (Except Fault String) := do
  let (s, _) ← (Session.start w).diagnoseAll runner machine
  let p := s.board.current
  return if asMessages then (Wire.publishParams p).map Listing.ofMessages
    else .ok (p.listing format s.workspace)

/-- The answer of a loaded workspace. -/
def answer {m : Type → Type} [Monad m] (runner : Tool.Runner m) (parse : Parser)
    (machine : Machine) (format : Format) (verbose : Bool) (w : Workspace) :
    Inquiry → m (Except Fault String)
  | .modules _ duplicates =>
    return .ok (ListedModule.listing format verbose w.forest duplicates)
  | .definition file p =>
    return (withFile parse machine w file).bind fun (w, uri) =>
      Location.listing format (w.forest.locate? w.settings.access uri p)
  | .hover file p =>
    return (withFile parse machine w file).map fun (w, uri) =>
      Hint.listing format (w.forest.hover? w.settings.access uri p)
  | .diagnostics _ _ _ asMessages => problems runner machine format asMessages w

end Inquiry

namespace Request

/-- What an editor would send, if a file with it is given. -/
def sent (m : Machine) (r : Request) : Except Fault (Option Json) :=
  match r.settings with
  | none => .ok none
  | some p => (Settings.readSent m p).map some

/-- The projects at or below a directory. -/
def projects (m : Machine) (path : Option Path) : Except Fault (List FoundProject) :=
  let dir := path.getD m.cwd
  if m.disk.isDirectory m.cwd dir then .ok ((Project.discover m dir).map (.of m))
  else .error (.fileNotFound dir.display)

/-- What is said of a project that was loaded. -/
def loadedRemark (count : Nat) (root : Path) : String :=
  "Loaded " ++ toString count ++ " files from " ++ root.display

/-- The answer to a request. `remark` takes what is said besides it. -/
def answer {m : Type → Type} [Monad m] (runner : Tool.Runner m) (remark : String → m Unit)
    (parse : Parser) (machine : Machine) (r : Request) : m (Except Fault String) := do
  match r.sent machine, r.question with
  | .error e, _ => return .error e
  | .ok _, .roots path =>
    return (projects machine path).map (FoundProject.listing r.format r.verbose)
  | .ok sent, .about q =>
    match q.workspace machine sent with
    | .error e => return .error e
    | .ok w =>
      let (w, count) := w.load parse machine
      if r.verbose then remark (loadedRemark count w.root)
      q.answer runner parse machine r.format r.verbose w

end Request

end ElmAssist
