import ElmAssist.Workspace.Basic

/-!
# Workspace — Running tools

The jobs that events start, and the check of a whole project. What a tool answers comes from a
`Tool.Runner`; each run gives the workspace after it and the messages it sent.
-/

namespace ElmAssist.Workspace

variable {m : Type → Type} [Monad m]

/-- Compiles files and reports. -/
def compileNow (runner : Tool.Runner m) (w : Workspace) (sequence : Nat) (files : List Path) :
    m (Workspace × List Message) := do
  match w.compiler with
  | none => return (w, [])
  | some c =>
    let (c, report) ← c.run runner sequence files
    return ({ w with compiler := some c }, [.report report])

/-- Lints and reports. -/
def lintNow (runner : Tool.Runner m) (machine : Machine) (w : Workspace) (sequence : Nat)
    (target : Option String) : m (Workspace × List Message) := do
  match w.linter with
  | none => return (w, [])
  | some l =>
    let (l, report) ← l.run runner machine sequence target
    return ({ w with linter := some l }, report.toList.map .report)

/-- Does a job. -/
def perform (runner : Tool.Runner m) (machine : Machine) (w : Workspace) :
    Job → m (Workspace × List Message)
  | .lint sequence uri => lintNow runner machine w sequence (some uri)
  | .compile sequence =>
    match w.compiler.map (·.timeUp sequence) with
    | none => return (w, [])
    | some (c, none) => return ({ w with compiler := some c }, [])
    | some (c, some files) => compileNow runner { w with compiler := some c } sequence files

/-- Does one thing after the other, and collects the messages. -/
def inTurn (act : Workspace → α → m (Workspace × List Message)) (w : Workspace) :
    List α → m (Workspace × List Message)
  | [] => return (w, [])
  | a :: as => do
    let (w, sent) ← act w a
    let (w, more) ← inTurn act w as
    return (w, sent ++ more)

/-- Does jobs one after the other. -/
def performAll (runner : Tool.Runner m) (machine : Machine) (w : Workspace) (jobs : List Job) :
    m (Workspace × List Message) :=
  inTurn (perform runner machine) w jobs

/-- The live report of all files. -/
def liveReport (w : Workspace) : Report :=
  w.forest.checkAll w.settings.access w.sequence w.forest.uris

/-- What the linter is to run on for a whole project. -/
def lintTargets (w : Workspace) : List (Option String) :=
  if w.settings.linter.perFile then w.forest.uris.map some else [none]

/-- The local files among all files. -/
def localFiles (w : Workspace) : List Path :=
  w.forest.uris.filterMap Uri.path?

/-- All channels look at all files. -/
def diagnoseAll (runner : Tool.Runner m) (machine : Machine) (w : Workspace) :
    m (Workspace × List Message) := do
  let w := w.advance
  let (w, compiled) ←
    if w.localFiles.isEmpty then pure (w, [])
    else compileNow runner w w.sequence w.localFiles
  let (w, linted) ←
    inTurn (fun w target => lintNow runner machine w w.sequence target) w w.lintTargets
  return (w, .report w.liveReport :: compiled ++ linted)

end ElmAssist.Workspace
