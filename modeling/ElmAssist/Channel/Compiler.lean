import ElmAssist.Diagnostic.Board
import ElmAssist.Tool.Command
import ElmAssist.Tool.Compiler

/-!
# Channel — The compiler

Compiles files of a project after a while of quiet. Every trigger starts a timer; when it runs out,
only the timer of the newest trigger starts a run, and that run takes all files that are waiting.

A trigger comes to the newest sequence first and to the files that wait then (`mark`, `queue`), and
so does a timer that runs out (`isNewest`, `takeWaiting`). Others may come in between.

A run's report names the files it compiled and those the last report had problems for, so that a
problem that is gone leaves the table.
-/

namespace ElmAssist

/-- The compiler channel of a project. -/
structure CompilerChannel where
  /-- The working directory, which relative paths start from. -/
  cwd : Path
  root : Path
  program : Path
  /-- The newest sequence of a trigger. -/
  latest : Nat
  /-- The files that wait for a run. -/
  pending : Catalog Path Unit
  /-- The uris for which the last finished run found problems. -/
  flagged : List String

namespace CompilerChannel

/-- The channel before the first trigger. -/
def start (cwd root program : Path) : CompilerChannel := ⟨cwd, root, program, 0, .empty, []⟩

/-- A trigger has a sequence. -/
def mark (c : CompilerChannel) (sequence : Nat) : CompilerChannel :=
  { c with latest := max c.latest sequence }

/-- A file waits. -/
def queue (c : CompilerChannel) (file : Path) : CompilerChannel :=
  { c with pending := c.pending.insertNew file () }

/-- A file changed: it waits, and a timer starts for the sequence. -/
def trigger (c : CompilerChannel) (sequence : Nat) (file : Path) : CompilerChannel :=
  (c.mark sequence).queue file

/-- No trigger is newer than a sequence. -/
def isNewest (c : CompilerChannel) (sequence : Nat) : Bool :=
  c.latest == sequence

/-- All files that wait are taken to be compiled, if there are any. -/
def takeWaiting (c : CompilerChannel) : CompilerChannel × Option (List Path) :=
  ({ c with pending := .empty }, if c.pending.isEmpty then none else some c.pending.keys)

/-- The timer of a sequence runs out. Gives the files to compile now, if it is the newest and any
file waits. -/
def timeUp (c : CompilerChannel) (sequence : Nat) : CompilerChannel × Option (List Path) :=
  if c.isNewest sequence then c.takeWaiting else (c, none)

/-- The path of a file as seen from the project. -/
def fromRoot (c : CompilerChannel) (p : Path) : List Path :=
  (p.below? c.root).toList

/-- A file is gone: it does not wait any more, and no later report names it for its problems. -/
def forget (c : CompilerChannel) (uri : String) : CompilerChannel :=
  let gone := ((Uri.path? uri).toList.flatMap fun p => p :: c.fromRoot p)
  { c with
    pending := gone.foldl Catalog.erase c.pending
    flagged := c.flagged.filter (· != uri) }

/-- The command that compiles files. -/
def command (c : CompilerChannel) (files : List Path) : Tool.Command :=
  ⟨c.program, "make" :: files.map Path.display ++ ["--report=json", "--output=/dev/null"], none⟩

/-- The report in an output: on the error stream unless nothing stands there. -/
def reportText (o : Tool.Output) : String :=
  if Text.blank o.stderr then o.stdout else o.stderr

/-- The problems of an output by file. An output that cannot be read counts as no problem when the
compiler succeeded. -/
def readOutput (c : CompilerChannel) (o : Tool.Output) : Except Fault Findings :=
  match CompilerIssue.parse (reportText o) with
  | .ok issues => .ok (CompilerIssue.byUri c.cwd c.root issues)
  | .error e =>
    if o.succeeded then .ok .empty
    else .error (.tool c.program.display ("unreadable report: " ++ e.message))

/-- The uri of a file. -/
def uriOf (c : CompilerChannel) (file : Path) : String :=
  Uri.ofPath (Uri.absolute c.cwd (c.root.join file))

/-- A run is finished: the report, and the channel after it. -/
def finish (c : CompilerChannel) (sequence : Nat) (files : List Path)
    (found : Findings) : CompilerChannel × Report :=
  ({ c with flagged := found.troubled },
    ⟨.compiler, sequence, found.withCleared (c.flagged ++ files.map c.uriOf)⟩)

/-- Compiles files. -/
def compile [Monad m] (runner : Tool.Runner m) (c : CompilerChannel) (files : List Path) :
    m (Except Fault Findings) := do
  return (← Tool.run runner c.root (c.command files)).bind c.readOutput

/-- Compiles files and reports. A run that fails finds nothing. -/
def run [Monad m] (runner : Tool.Runner m) (c : CompilerChannel) (sequence : Nat)
    (files : List Path) : m (CompilerChannel × Report) := do
  let found ← compile runner c files
  return c.finish sequence files (found.toOption.getD .empty)

end CompilerChannel

end ElmAssist
