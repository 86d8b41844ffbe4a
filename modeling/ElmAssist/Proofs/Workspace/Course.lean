import ElmAssist.Proofs.Forest.Edits
import ElmAssist.Proofs.Workspace.Turns

/-!
# Workspace — Courses

What becomes of a workspace. Events come in, and the jobs that they start end in any order
(`course`); besides, the sources are read from disk and the whole project is looked at (`history`).
All messages go to one board.

* `ToolRun`: a run of the tools leaves all but their channels, and sends no live list.
* `Handled`, `handle_handled`: what an event does to the files, and what it has checked.
* `act_cases`: what any act does.
* `sound_history`: the forest of a workspace that was opened is sound.
-/

namespace ElmAssist.Workspace

/-! ### Moves -/

/-- What happens to a workspace: an event, or the end of a job in the background. What the tools
answer is open. -/
inductive Move where
  | event (machine : Machine) (e : Event)
  | finish (machine : Machine) (runner : Tool.Runner Id) (job : Job)

/-- A workspace, the jobs that were started and have not finished, and the messages sent to the
board. -/
structure Course where
  workspace : Workspace
  waiting : List Job
  sent : List Message

namespace Course

/-- The board when all messages have been delivered. -/
def board (c : Course) : Board :=
  .after c.sent

variable (parse : Parser)

/-- The course after a move. A job that is not waiting does not finish. -/
def step (c : Course) : Move → Course
  | .event machine e =>
    let t := c.workspace.handle parse machine e
    ⟨t.workspace, c.waiting ++ t.jobs, c.sent ++ t.messages⟩
  | .finish machine runner job =>
    if job ∈ c.waiting then
      let done := Id.run (c.workspace.perform runner machine job)
      ⟨done.1, c.waiting.erase job, c.sent ++ done.2⟩
    else c

end Course

/-- The course of a workspace after moves, the latest one first. -/
def course (parse : Parser) (w : Workspace) : List Move → Course
  | [] => ⟨w, [], []⟩
  | move :: earlier => (course parse w earlier).step parse move

/-! ### Acts -/

/-- What is done with a workspace. -/
inductive Act where
  | move (m : Move)
  /-- The sources on disk are read. -/
  | load (machine : Machine)
  /-- All channels look at all files. -/
  | diagnoseAll (machine : Machine) (runner : Tool.Runner Id)

/-- The course after an act. -/
def Course.act (parse : Parser) (c : Course) : Act → Course
  | .move m => c.step parse m
  | .load machine => { c with workspace := (c.workspace.load parse machine).1 }
  | .diagnoseAll machine runner =>
    let done := Id.run (c.workspace.diagnoseAll runner machine)
    ⟨done.1, c.waiting, c.sent ++ done.2⟩

/-- The course of a workspace after acts, the latest one first. -/
def history (parse : Parser) (w : Workspace) : List Act → Course
  | [] => ⟨w, [], []⟩
  | act :: earlier => (history parse w earlier).act parse act

variable {parse : Parser} {machine : Machine} {w v u : Workspace}

/-! ### Tools -/

/-- Two workspaces differ in the channels of the tools at most. -/
def SameButTools (w v : Workspace) : Prop :=
  v = { w with compiler := v.compiler, linter := v.linter }

theorem SameButTools.trans (h : w.SameButTools v) (g : v.SameButTools u) : w.SameButTools u := by
  unfold SameButTools at *
  rw [g, h]

theorem SameButTools.forest (h : w.SameButTools v) : v.forest = w.forest :=
  (congrArg Workspace.forest h).trans rfl

theorem SameButTools.settings (h : w.SameButTools v) : v.settings = w.settings :=
  (congrArg Workspace.settings h).trans rfl

theorem SameButTools.sequence (h : w.SameButTools v) : v.sequence = w.sequence :=
  (congrArg Workspace.sequence h).trans rfl

/-- What runs of tools leave: the rest of the workspace as it was, and reports of the tools. -/
structure ToolRun (w : Workspace) (done : Workspace × List Message) : Prop where
  rest : w.SameButTools done.1
  messages : ∀ m ∈ done.2, ∃ r, m = .report r ∧ r.channel ≠ .live

namespace ToolRun

theorem refl (w : Workspace) : ToolRun w (w, []) :=
  ⟨rfl, nofun⟩

theorem trans {d e : Workspace × List Message} (h : ToolRun w d) (g : ToolRun d.1 e) :
    ToolRun w (e.1, d.2 ++ e.2) :=
  ⟨h.rest.trans g.rest, fun m mem => (List.mem_append.mp mem).elim (h.messages m) (g.messages m)⟩

theorem compileNow (runner : Tool.Runner Id) (w : Workspace) (sequence : Nat) (files : List Path) :
    ToolRun w (Id.run (w.compileNow runner sequence files)) := by
  unfold Workspace.compileNow
  split
  · exact refl w
  · refine ⟨rfl, fun m mem => ?_⟩
    exact ⟨_, List.mem_singleton.mp mem, nofun⟩

theorem lintNow (runner : Tool.Runner Id) (machine : Machine) (w : Workspace) (sequence : Nat)
    (target : Option String) : ToolRun w (Id.run (w.lintNow runner machine sequence target)) := by
  unfold Workspace.lintNow
  split
  · exact refl w
  · refine ⟨rfl, fun m mem => ?_⟩
    obtain ⟨r, report, rfl⟩ := List.mem_map.mp mem
    have channel : r.channel = .linter :=
      LinterChannel.channel_of_finish (Option.mem_toList.mp report)
    exact ⟨r, rfl, fun live => nomatch channel.symm.trans live⟩

theorem perform (runner : Tool.Runner Id) (machine : Machine) (w : Workspace) (job : Job) :
    ToolRun w (Id.run (w.perform runner machine job)) := by
  cases job with
  | lint sequence uri => exact lintNow runner machine w sequence (some uri)
  | compile sequence =>
    unfold Workspace.perform
    dsimp only
    split
    · exact refl w
    · exact ⟨rfl, nofun⟩
    · rename_i c files _
      exact trans (d := ({ w with compiler := some c }, [])) ⟨rfl, nofun⟩
        (compileNow runner _ sequence files)

theorem inTurn {α : Type} {act : Workspace → α → Id (Workspace × List Message)}
    (each : ∀ w a, ToolRun w (Id.run (act w a))) :
    ∀ (as : List α) (w : Workspace), ToolRun w (Id.run (inTurn act w as))
  | [], w => refl w
  | a :: as, w => trans (each w a) (inTurn each as _)

end ToolRun

/-- The whole project is looked at under a new sequence number. The live check comes first. -/
theorem diagnoseAll_eq (runner : Tool.Runner Id) (machine : Machine) (w : Workspace) :
    ∃ d, Id.run (w.diagnoseAll runner machine) = (d.1, .report d.1.liveReport :: d.2) ∧
      ToolRun w.advance d := by
  have linted (v : Workspace) : ToolRun v (Id.run (Workspace.inTurn
      (fun w target => w.lintNow runner machine w.sequence target) v v.lintTargets)) :=
    .inTurn (fun w target => .lintNow runner machine w w.sequence target) v.lintTargets v
  unfold diagnoseAll
  dsimp only
  split
  · exact ⟨_, rfl, linted w.advance⟩
  · exact ⟨_, rfl, (ToolRun.compileNow runner ..).trans (linted _)⟩

/-! ### Checks -/

theorem recheck_of_missing {uri : String} (missing : w.forest.get? uri = none) :
    (w.recheck uri).messages = [] := by
  simp [recheck, liveReport?, Forest.checkAround?, advance, missing]

theorem recheck_messages {uri : String} {f : SourceFile} (held : w.forest.get? uri = some f) :
    (w.recheck uri).messages =
      [.report (w.forest.checkAll w.settings.access (w.sequence + 1) (w.forest.affectedBy f))] := by
  simp [recheck, liveReport?, Forest.checkAround?, advance, held]

theorem recheckAll_messages_cons (w : Workspace) (uri : String) (uris : List String) :
    (w.recheckAll (uri :: uris)).messages =
      (w.recheck uri).messages ++ ((w.recheck uri).workspace.recheckAll uris).messages := rfl

/-! ### Events -/

/-- The second forest is the first one, or has another text stored for the file. -/
def Stores (parse : Parser) (uri : String) (s t : Forest) : Prop :=
  t = s ∨ ∃ text version, t = s.put (.build parse uri text version)

theorem Stores.of_set {uri text : String} {version : Int} {s t : Forest} {f : SourceFile}
    (set : s.set parse uri text version = (.ok f, t)) : Stores parse uri s t := by
  have stored := Forest.set_eq_or parse s uri text version
  rw [set] at stored
  exact stored.imp_right fun put => ⟨text, version, put⟩

theorem Stores.of_reload {uri text : String} {version : Int} {s t : Forest} {f : SourceFile}
    (set : s.reload parse uri text version = (.ok f, t)) : Stores parse uri s t := by
  have stored := Forest.reload_eq_or parse s uri text version
  rw [set] at stored
  exact stored.imp_right fun put => ⟨text, version, put⟩

/-- What an event does, apart from the tools. -/
inductive Handled (parse : Parser) (w : Workspace) (t : Turn) : Prop where
  | silent (rest : w.SameButTools t.workspace) (messages : t.messages = [])
  /-- A text of a file may be stored, and the file is checked. -/
  | checked {v : Workspace} {uri : String} (stored : Stores parse uri w.forest v.forest)
      (before : { w with forest := v.forest }.SameButTools v)
      (rest : v.advance.SameButTools t.workspace) (messages : t.messages = (v.recheck uri).messages)
  /-- A file is removed, and those that import its module are checked. -/
  | removed {v : Workspace} {uri : String} {f : SourceFile} (held : w.forest.get? uri = some f)
      (before : { w with forest := w.forest.remove uri }.SameButTools v)
      (turn : t = ((Turn.start v.advance).send (.forget uri v.advance.sequence)).andThen
        (recheckAll · (v.forest.importers f.module.name)))

/-- A trigger takes one number; its other work is for the tools. -/
theorem trigger_rest (w : Workspace) (uri : String) :
    w.advance.SameButTools (w.trigger uri).workspace := by
  unfold trigger triggerCompiler
  dsimp only
  rw [triggerLinter_workspace]
  split <;> rfl

theorem trigger_forest (w : Workspace) (uri : String) :
    (w.trigger uri).workspace.forest = w.forest :=
  (trigger_rest w uri).forest

theorem Handled.trigger {uri : String} (stored : Stores parse uri w.forest v.forest)
    (before : { w with forest := v.forest }.SameButTools v) : Handled parse w (v.trigger uri) :=
  .checked stored before (trigger_rest v uri) (by simp [Workspace.trigger])

theorem Handled.failed (before : w.SameButTools v) (e : Fault) : Handled parse w (.failed v e) :=
  .silent before rfl

/-- A text that comes in is stored, unless the forest keeps what it has or the parser gives it up. -/
theorem Handled.store (before : w.SameButTools v) (uri text : String) (version : Int) :
    Handled parse w (v.store parse uri text version) := by
  have came := store_stored parse v uri text version
  generalize v.store parse uri text version = t at came ⊢
  cases came with
  | failed => exact .failed before _
  | held set =>
    refine .trigger (before.forest ▸ .of_set set) ?_
    unfold SameButTools at *
    rw [before]

/-- A text that is read when a file is closed is stored, unless the parser gives it up. -/
theorem Handled.reload (before : w.SameButTools v) (uri text : String) {forest : Forest}
    {f : SourceFile} (stored : v.forest.reload parse uri text 0 = (.ok f, forest)) :
    Handled parse w ({ v with forest }.recheck uri) := by
  refine .checked (v := { v with forest }) (before.forest ▸ .of_reload stored) ?_ rfl rfl
  unfold SameButTools at *
  rw [before]

theorem Handled.deleteFile (before : w.SameButTools v) (uri : String) :
    Handled parse w (v.deleteFile uri) := by
  unfold Workspace.deleteFile
  dsimp only
  split
  · exact .silent (before.trans rfl) rfl
  · rename_i f held
    refine .removed (v := { v.forget uri with forest := (v.forget uri).forest.remove uri }) ?_ ?_ rfl
    · exact before.forest ▸ held
    · unfold SameButTools at *
      rw [before]
      rfl

/-- **What an event does.** It is silent, or stores and checks one file, or removes one. -/
theorem handle_handled (parse : Parser) (machine : Machine) (w : Workspace) (e : Event) :
    Handled parse w (w.handle parse machine e) := by
  cases e with
  | opened uri text version => exact .store (v := w.withLinter _) rfl uri text version
  | changed uri changes version => exact .store (v := w.withLinter _) rfl uri _ version
  | saved uri text =>
    cases text with
    | none => exact .trigger (Or.inl rfl) rfl
    | some text => exact .store (v := w.withLinter _) rfl uri text _
  | closed uri =>
    rw [handle]
    have forgotten : w.SameButTools (w.withLinter (·.forget uri)) := rfl
    have came := closeFile_closed parse machine w uri
    generalize w.closeFile parse machine uri = t at came ⊢
    cases came with
    | deleted => exact .deleteFile forgotten uri
    | unread | failed => exact .failed forgotten _
    | reloaded _ _ set => exact .reload forgotten uri _ set
  | deleted uri => exact .deleteFile (v := w) rfl uri
  | triggered uri => exact .trigger (Or.inl rfl) rfl

/-! ### Files -/

/-- What opening a project gives. -/
theorem openWith_eq_ok {root : Path} {settings : Settings}
    (opened : openWith machine root settings = .ok w) :
    ∃ manifest, w = ⟨root, manifest, settings, .empty, 0, compilerFor? machine root settings,
      linterFor? machine root settings⟩ := by
  unfold openWith at opened
  cases found : Manifest.load machine root with
  | error e =>
    rw [found] at opened
    cases opened
  | ok manifest =>
    rw [found] at opened
    exact ⟨manifest, (Except.ok.inj opened).symm⟩

theorem forest_of_openWith {root : Path} {settings : Settings}
    (opened : openWith machine root settings = .ok w) : w.forest = .empty := by
  obtain ⟨manifest, rfl⟩ := openWith_eq_ok opened
  rfl

@[simp] theorem recheckAll_forest : ∀ (uris : List String) (w : Workspace),
    (w.recheckAll uris).workspace.forest = w.forest
  | [], _ => rfl
  | uri :: uris, w => recheckAll_forest uris (w.recheck uri).workspace

theorem Stores.sound {uri : String} {s t : Forest} (stored : Stores parse uri s t)
    (h : s.Sound parse) : t.Sound parse := by
  rcases stored with rfl | ⟨text, version, rfl⟩
  · exact h
  · exact h.put uri text version

theorem Handled.sound {t : Turn} (h : Handled parse w t) (sound : w.forest.Sound parse) :
    t.workspace.forest.Sound parse := by
  cases h with
  | silent rest => exact rest.forest ▸ sound
  | checked stored _ rest => exact rest.forest ▸ stored.sound sound
  | removed _ before turn =>
    rw [turn, Turn.andThen, recheckAll_forest]
    exact before.forest ▸ sound.remove _

/-- **What an act does.** An event comes in, or the sources are read; any other act leaves all but
the tools, and takes a number at most. -/
theorem act_cases (parse : Parser) (c : Course) (a : Act) :
    (∃ machine e, a = .move (.event machine e) ∧
      (c.act parse a).workspace = (c.workspace.handle parse machine e).workspace) ∨
    (∃ machine, a = .load machine ∧
      (c.act parse a).workspace = (c.workspace.load parse machine).1) ∨
    ∃ v, (v = c.workspace ∨ v = c.workspace.advance) ∧
      v.SameButTools (c.act parse a).workspace := by
  cases a with
  | load machine => exact Or.inr (Or.inl ⟨machine, rfl, rfl⟩)
  | diagnoseAll machine runner =>
    obtain ⟨d, done, run⟩ := diagnoseAll_eq runner machine c.workspace
    refine Or.inr (Or.inr ⟨_, Or.inr rfl, ?_⟩)
    rw [Course.act, done]
    exact run.rest
  | move m =>
    cases m with
    | event machine e => exact Or.inl ⟨machine, e, rfl, rfl⟩
    | finish machine runner job =>
      refine Or.inr (Or.inr ⟨_, Or.inl rfl, ?_⟩)
      rw [Course.act, Course.step]
      split
      · exact (ToolRun.perform runner machine c.workspace job).rest
      · rfl

theorem act_sound (a : Act) {c : Course} (sound : c.workspace.forest.Sound parse) :
    (c.act parse a).workspace.forest.Sound parse := by
  rcases act_cases parse c a with ⟨machine, e, -, after⟩ | ⟨machine, -, after⟩ | ⟨v, same, rest⟩
  · rw [after]
    exact (handle_handled parse machine c.workspace e).sound sound
  · rw [after]
    exact sound.edit (.load (c.workspace.sourceTexts machine))
  · rw [rest.forest]
    rcases same with rfl | rfl <;> exact sound

/-- **The forest of a workspace that was opened is sound.** -/
theorem sound_history {root : Path} {settings : Settings}
    (opened : openWith machine root settings = .ok w) (acts : List Act) :
    (history parse w acts).workspace.forest.Sound parse := by
  induction acts with
  | nil => exact forest_of_openWith opened ▸ Forest.sound_after []
  | cons a earlier ih => exact act_sound a ih

/-! ### A project -/

/-- A machine with a package, without sources and without tools. -/
def packageMachine : Machine :=
  ⟨Disk.empty.put ["p".toUTF8.toList, "elm.json".toUTF8.toList]
    (.file "\x7b\"type\":\"package\"\x7d".toUTF8.toList false), .ofString "/", [], .ofString "/"⟩

/-- What opening the package gives. -/
def package? : Option Workspace :=
  (openWith packageMachine (.ofString "/p") .usual).toOption

theorem exists_opened {root : Path} {settings : Settings}
    (present : (openWith machine root settings).toOption.isSome = true) :
    ∃ w, openWith machine root settings = .ok w ∧ w ∈ (openWith machine root settings).toOption := by
  cases opened : openWith machine root settings with
  | error e =>
    rw [opened] at present
    cases present
  | ok w => exact ⟨w, rfl, rfl⟩

theorem exists_package : ∃ w, openWith packageMachine (.ofString "/p") .usual = .ok w ∧
    w ∈ package? :=
  exists_opened (by decide +kernel)

end ElmAssist.Workspace
