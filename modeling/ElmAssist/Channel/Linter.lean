import ElmAssist.Diagnostic.Board
import ElmAssist.Machine
import ElmAssist.Text.Lines
import ElmAssist.Tool.Command
import ElmAssist.Tool.Linter
import ElmAssist.Uri.File

/-!
# Channel — The linter

Lints a project as a whole, or one file at a time with its text as input. The channel has its own
copy of every open text; ranges are moved into it.

* A run over the whole project is dropped when a newer one has been reported.
* A report clears what earlier ones flagged: everything, or only the file that was linted.
-/

namespace ElmAssist

/-- The linter channel of a project. -/
structure LinterChannel where
  /-- The working directory, which relative paths start from. -/
  cwd : Path
  root : Path
  program : Path
  args : List String
  /-- Files are linted one at a time. -/
  perFile : Bool
  texts : Catalog String String
  /-- The uris for which reports found problems. -/
  flagged : List String
  /-- The sequence of the newest project run that was reported. -/
  completed : Nat

namespace LinterChannel

/-- The channel before the first run. -/
def start (cwd root program : Path) (args : List String) (perFile : Bool) : LinterChannel :=
  ⟨cwd, root, program, args, perFile, .empty, [], 0⟩

/-- The channel's copy of a text. -/
def text? (c : LinterChannel) (uri : String) : Option String :=
  c.texts.get? uri

/-- Sets the channel's copy of a text. -/
def update (c : LinterChannel) (uri text : String) : LinterChannel :=
  { c with texts := c.texts.insert uri text }

/-- Forgets a file. -/
def forget (c : LinterChannel) (uri : String) : LinterChannel :=
  { c with texts := c.texts.erase uri, flagged := c.flagged.filter (· != uri) }

/-- The text of a file: the channel's copy, else what the disk holds. None when the uri is that of
no local file. -/
def input (m : Machine) (c : LinterChannel) (uri : String) : Except Fault (Option String) :=
  match c.text? uri with
  | some text => .ok (some text)
  | none =>
    match Uri.path? uri with
    | none => .ok none
    | some p => (m.readText p).map some

/-- The command that lints, or none when there is nothing to lint. -/
def command (m : Machine) (c : LinterChannel) (target : Option String) :
    Except Fault (Option Tool.Command) :=
  if c.perFile then
    match target with
    | none => .ok none
    | some uri => (c.input m uri).map fun text => text.map fun t => ⟨c.program, c.args, some t⟩
  else .ok (some ⟨c.program, c.args, none⟩)

/-- The uri of a file as the linter names it. -/
def uriOf (c : LinterChannel) (path : String) : String :=
  Uri.ofPath (Uri.absolute c.cwd (c.root.child path))

/-- The uri of an issue: the linted file, or the one that the issue names. -/
def uriOf? (c : LinterChannel) (target : Option String) (i : LintIssue) : Option String :=
  match c.perFile, target with
  | true, some uri => some uri
  | _, _ => i.path.map c.uriOf

/-- The diagnostic of an issue, inside the text if the channel has it. -/
def diagnostic (c : LinterChannel) (uri : String) (i : LintIssue) : Diagnostic :=
  let d := i.diagnostic
  match c.text? uri with
  | some text => { d with range := (Lines.ofText text).clamp d.range }
  | none => d

/-- Issues by uri, in the order of the report. -/
def byUri (c : LinterChannel) (target : Option String) (issues : List LintIssue) : Findings :=
  issues.foldl (fun found i =>
    match c.uriOf? target i with
    | some uri => found.append uri (c.diagnostic uri i)
    | none => found) .empty

/-- The problems of an output by file. -/
def readOutput (c : LinterChannel) (target : Option String) (o : Tool.Output) :
    Except Fault Findings :=
  match LintIssue.parse o.stdout with
  | .ok issues => .ok (c.byUri target issues)
  | .error e => .error (.tool c.program.display e.message)

/-- The uris that a report clears. -/
def stale (c : LinterChannel) (target : Option String) : List String :=
  match c.perFile, target with
  | true, some uri => c.flagged.filter (· == uri)
  | _, _ => c.flagged

/-- A newer run over the project has been reported. -/
def isOvertaken (c : LinterChannel) (sequence : Nat) : Bool :=
  !c.perFile && sequence < c.completed

/-- A run is finished: the channel after it, and its report unless it is overtaken. -/
def finish (c : LinterChannel) (sequence : Nat) (target : Option String)
    (found : Findings) : LinterChannel × Option Report :=
  if c.isOvertaken sequence then (c, none)
  else
    let stale := c.stale target
    let kept := c.flagged.filter (!stale.contains ·)
    ({ c with
        completed := if c.perFile then c.completed else sequence
        flagged := kept ++ found.troubled.filter (!kept.contains ·) },
      some ⟨.linter, sequence, found.withCleared (stale ++ target.toList)⟩)

/-- Lints a file or the project. -/
def lint [Monad m] (runner : Tool.Runner m) (machine : Machine) (c : LinterChannel)
    (target : Option String) : m (Except Fault Findings) := do
  match c.command machine target with
  | .error e => return .error e
  | .ok none => return .ok .empty
  | .ok (some command) =>
    return (← Tool.run runner c.root command).bind (c.readOutput target)

/-- Lints and reports. A run that fails finds nothing. -/
def run [Monad m] (runner : Tool.Runner m) (machine : Machine) (c : LinterChannel)
    (sequence : Nat) (target : Option String) : m (LinterChannel × Option Report) := do
  let found ← lint runner machine c target
  return c.finish sequence target (found.toOption.getD .empty)

end LinterChannel

end ElmAssist
