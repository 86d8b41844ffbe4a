import ElmAssist.Channel.Compiler
import ElmAssist.Channel.Linter
import ElmAssist.Diagnostic.Check
import ElmAssist.Project.Sources
import ElmAssist.Settings.File
import ElmAssist.Text.Change

/-!
# Workspace — One project

A project as an editor works on it: its files, its settings and its channels. An event changes the
workspace, sends messages to the board and starts jobs in the background; all three are in the
`Turn` that the event gives.

Every change takes a new sequence number, so that the board can tell old reports from new ones.
-/

namespace ElmAssist

/-- A project in work. -/
structure Workspace where
  root : Path
  manifest : Manifest
  settings : Settings
  forest : Forest
  /-- The sequence number taken last. -/
  sequence : Nat
  /-- None when it is switched off or there is no compiler. -/
  compiler : Option CompilerChannel
  /-- None when it is switched off or there is no linter. -/
  linter : Option LinterChannel

/-- Work in the background. -/
inductive Job where
  /-- The timer of a compiler trigger. -/
  | compile (sequence : Nat)
  /-- A run of the linter. -/
  | lint (sequence : Nat) (uri : String)
  deriving DecidableEq, Repr

namespace Job

/-- Linting starts at once; compiling waits for quiet. -/
def isImmediate : Job → Bool
  | .lint .. => true
  | .compile _ => false

end Job

/-- What an event leaves: the workspace after it, the messages it sent, the jobs it started, and
the fault that it met. -/
structure Turn where
  workspace : Workspace
  messages : List Message
  jobs : List Job
  fault : Option Fault

namespace Turn

/-- Nothing happened yet. -/
def start (w : Workspace) : Turn := ⟨w, [], [], none⟩

/-- A message is sent. -/
def send (t : Turn) (m : Message) : Turn :=
  { t with messages := t.messages ++ [m] }

/-- The workspace is left as it is, for a fault. -/
def failed (w : Workspace) (e : Fault) : Turn := ⟨w, [], [], some e⟩

/-- A job is started. -/
def begin (t : Turn) (j : Job) : Turn :=
  { t with jobs := t.jobs ++ [j] }

/-- One turn, then another from the workspace that it left. -/
def andThen (t : Turn) (next : Workspace → Turn) : Turn :=
  let u := next t.workspace
  ⟨u.workspace, t.messages ++ u.messages, t.jobs ++ u.jobs, u.fault⟩

/-- The jobs in the order in which they come to run. -/
def inOrder (t : Turn) : List Job :=
  t.jobs.filter Job.isImmediate ++ t.jobs.filter (!Job.isImmediate ·)

end Turn

namespace Workspace

/-- The compiler channel that settings ask for. -/
def compilerFor? (m : Machine) (root : Path) (s : Settings) : Option CompilerChannel :=
  if s.compiler.enabled then (m.findProgram? s.compilerCommand).map (.start m.cwd root) else none

/-- The linter channel that settings ask for. -/
def linterFor? (m : Machine) (root : Path) (s : Settings) : Option LinterChannel :=
  if s.linter.enabled then
    (m.findProgram? s.linter.command).map fun p =>
      .start m.cwd root p s.linter.args s.linter.perFile
  else none

/-- Opens a project with settings. -/
def openWith (m : Machine) (root : Path) (s : Settings) : Except Fault Workspace := do
  let manifest ← Manifest.load m root
  return ⟨root, manifest, s, .empty, 0, compilerFor? m root s, linterFor? m root s⟩

/-- Opens a project with the settings found there. -/
def openAt (m : Machine) (root : Path) : Except Fault Workspace := do
  openWith m root (← Settings.load m root)

/-- The sources on disk that can be read, with their uris. -/
def sourceTexts (m : Machine) (w : Workspace) : List (String × String) :=
  (Project.sources m w.manifest w.root).filterMap fun p =>
    ((m.disk.readText m.cwd p).toOption).map fun text => (Project.uriOf m p, text)

/-- Parses the sources on disk; gives how many were parsed. -/
def load (parse : Parser) (m : Machine) (w : Workspace) : Workspace × Nat :=
  let texts := w.sourceTexts m
  ({ w with forest := w.forest.load parse texts }, (Forest.parsable parse texts).length)

/-- The uri is that of a path in the project. -/
def contains (w : Workspace) (uri : String) : Bool :=
  (Uri.path? uri).any (·.startsWith w.root)

/-- Takes a new sequence number. -/
def advance (w : Workspace) : Workspace :=
  { w with sequence := w.sequence + 1 }

/-- What the live check says after a change to a file, for the sequence taken last. -/
def liveReport? (w : Workspace) (uri : String) : Option Report :=
  w.forest.checkAround? w.settings.access w.sequence uri

/-- Checks a file, under a new sequence number. -/
def recheck (w : Workspace) (uri : String) : Turn :=
  let w := w.advance
  ⟨w, (w.liveReport? uri).toList.map .report, [], none⟩

/-- Tells the compiler channel of a change to a file; other uris than those of local files do not
concern it. -/
def triggerCompiler (t : Turn) (uri : String) : Turn :=
  let w := t.workspace
  match w.compiler, Uri.path? uri with
  | some c, some p =>
    { t with workspace := { w with compiler := some (c.trigger w.sequence p) } }.begin
      (.compile w.sequence)
  | _, _ => t

/-- Tells the linter channel of a change to a file. -/
def triggerLinter (t : Turn) (uri : String) : Turn :=
  match t.workspace.linter with
  | some _ => t.begin (.lint t.workspace.sequence uri)
  | none => t

/-- All channels look at a file. -/
def trigger (w : Workspace) (uri : String) : Turn :=
  triggerLinter (triggerCompiler (w.recheck uri) uri) uri

/-- The workspace after a change to the linter channel. -/
def withLinter (w : Workspace) (f : LinterChannel → LinterChannel) : Workspace :=
  { w with linter := w.linter.map f }

/-- The workspace whose tools have forgotten a file. -/
def forget (w : Workspace) (uri : String) : Workspace :=
  { w with
    compiler := w.compiler.map (CompilerChannel.forget · uri)
    linter := w.linter.map (LinterChannel.forget · uri) }

/-- A text of a file is stored, and all channels look at the file. -/
def store (parse : Parser) (w : Workspace) (uri text : String) (version : Int) : Turn :=
  match w.forest.set parse uri text version with
  | (.error e, _) => .failed w e
  | (.ok _, forest) => { w with forest }.trigger uri

/-- The text of a file; empty when there is none. -/
def textOf (w : Workspace) (uri : String) : String :=
  ((w.forest.get? uri).map SourceFile.text).getD ""

/-- The version of a file; zero when there is none. -/
def versionOf (w : Workspace) (uri : String) : Int :=
  ((w.forest.get? uri).map SourceFile.version).getD 0

/-- The editor opens a file. The linter has the text before it is stored, as with any change. -/
def openFile (parse : Parser) (w : Workspace) (uri text : String) (version : Int) : Turn :=
  (w.withLinter (·.update uri text)).store parse uri text version

/-- The editor changes a file. The linter's copy has the changes made to it for itself. -/
def changeFile (parse : Parser) (w : Workspace) (uri : String) (changes : List Change)
    (version : Int) : Turn :=
  let current := w.textOf uri
  let w := w.withLinter fun l =>
    l.update uri (Change.applyAll ((l.text? uri).getD current) changes)
  w.store parse uri (Change.applyAll current changes) version

/-- The editor saves a file; the text it sends along replaces what is held, at the same version. -/
def saveFile (parse : Parser) (w : Workspace) (uri : String) (text : Option String) : Turn :=
  match text with
  | none => w.trigger uri
  | some text => (w.withLinter (·.update uri text)).store parse uri text (w.versionOf uri)

/-- Checks files one after the other, each under a new sequence number. -/
def recheckAll (w : Workspace) : List String → Turn
  | [] => .start w
  | uri :: uris => (w.recheck uri).andThen (recheckAll · uris)

/-- A file is gone. What imports its module is checked again. -/
def deleteFile (w : Workspace) (uri : String) : Turn :=
  let w := w.forget uri
  match w.forest.get? uri with
  | none => .start w
  | some f =>
    let w := { w with forest := w.forest.remove uri }.advance
    ((Turn.start w).send (.forget uri w.sequence)).andThen
      (recheckAll · (w.forest.importers f.module.name))

/-- The editor closes a file. A file that is still on disk counts as it is there; another one is
gone. -/
def closeFile (parse : Parser) (m : Machine) (w : Workspace) (uri : String) : Turn :=
  let w := w.withLinter (·.forget uri)
  match (Uri.path? uri).filter (m.disk.isFile m.cwd ·) with
  | none => w.deleteFile uri
  | some p =>
    match m.readText p with
    | .error e => .failed w e
    | .ok text =>
      match w.forest.reload parse uri text 0 with
      | (.error e, _) => .failed w e
      | (.ok _, forest) => { w with forest }.recheck uri

/-- What an editor does. -/
inductive Event where
  | opened (uri text : String) (version : Int)
  | changed (uri : String) (changes : List Change) (version : Int)
  | saved (uri : String) (text : Option String)
  | closed (uri : String)
  | deleted (uri : String)
  | triggered (uri : String)

/-- The turn of an event. -/
def handle (parse : Parser) (m : Machine) (w : Workspace) : Event → Turn
  | .opened uri text version => w.openFile parse uri text version
  | .changed uri changes version => w.changeFile parse uri changes version
  | .saved uri text => w.saveFile parse uri text
  | .closed uri => w.closeFile parse m uri
  | .deleted uri => w.deleteFile uri
  | .triggered uri => w.trigger uri

end Workspace

end ElmAssist
