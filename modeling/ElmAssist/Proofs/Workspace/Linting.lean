import ElmAssist.Proofs.Board.Arrival
import ElmAssist.Proofs.Workspace.Course
import ElmAssist.Proofs.Workspace.Turns

/-!
# Workspace — The linter's findings on the board

What the board shows of a linter that looks at the whole project, as files are opened, changed,
saved, closed and deleted and the runs that this started finish in any order. The channel keeps its
own account of the files with findings, and clears them with the next report. A file that is closed
or deleted leaves that account; if the board is not told that the file is gone, it keeps its
findings, and they are in nobody's account.

* `Kept`, `Stray`: the files whose findings are in the channel's account, and those left over.
* `Stray.exists_event`: a file is left over only after an event that let go of it silently.
* `tracks`: the board shows findings in these files and in no others.
* `reported_findings_iff`: what it shows once a run has reported, and when that is what the run
  found.
* `closed_file_stays_flagged`: a run that finds nothing, after which it still shows findings.
-/

namespace ElmAssist.Workspace

/-! ### Files with findings -/

namespace Course

/-- The file was removed at a sequence or later. -/
def RemovedSince (c : Course) (uri : String) (sequence : Nat) : Prop :=
  ∃ s, sequence ≤ s ∧ .forget uri s ∈ c.sent

/-- A run of the linter that was started may finish with a report: no newer run has reported. -/
structure Reports (c : Course) (l : LinterChannel) (sequence : Nat) (target : String) : Prop where
  waits : .lint sequence target ∈ c.waiting
  held : c.workspace.linter = some l
  current : l.completed ≤ sequence

end Course

variable (parse : Parser) (w : Workspace)

/-- The last report of the linter has findings for the file, which the board took, and the file has
been neither closed nor deleted since. -/
inductive Kept : List Move → String → Prop
  | found {earlier : List Move} {machine : Machine} {runner : Tool.Runner Id} {sequence : Nat}
      {target uri : String} {l : LinterChannel} :
      (course parse w earlier).Reports l sequence target → l.FindsIn runner uri →
      ¬ (course parse w earlier).board.isRemovedSince uri sequence = true →
      Kept (.finish machine runner (.lint sequence target) :: earlier) uri
  | event {earlier : List Move} {machine : Machine} {e : Event} {uri : String} :
      Kept earlier uri → e.letsGo ≠ some uri → Kept (.event machine e :: earlier) uri
  | other {earlier : List Move} {machine : Machine} {runner : Tool.Runner Id} {job : Job}
      {uri : String} : Kept earlier uri →
      (∀ l sequence target, job = .lint sequence target →
        ¬ (course parse w earlier).Reports l sequence target) →
      Kept (.finish machine runner job :: earlier) uri

/-- The file had findings when it was closed or deleted, the board was not told that it is gone, and
no report of the linter has named it since. -/
inductive Stray : List Move → String → Prop
  | released {earlier : List Move} {machine : Machine} {e : Event} {uri : String} :
      Kept parse w earlier uri → e.letsGo = some uri →
      (∀ s, .forget uri s ∉ ((course parse w earlier).workspace.handle parse machine e).messages) →
      Stray (.event machine e :: earlier) uri
  | event {earlier : List Move} {machine : Machine} {e : Event} {uri : String} :
      Stray earlier uri →
      (∀ s, .forget uri s ∉ ((course parse w earlier).workspace.handle parse machine e).messages) →
      Stray (.event machine e :: earlier) uri
  | other {earlier : List Move} {machine : Machine} {runner : Tool.Runner Id} {job : Job}
      {uri : String} : Stray earlier uri →
      (∀ l sequence target, job = .lint sequence target →
        ¬ (course parse w earlier).Reports l sequence target) →
      Stray (.finish machine runner job :: earlier) uri
  | unnamed {earlier : List Move} {machine : Machine} {runner : Tool.Runner Id} {sequence : Nat}
      {target uri : String} {l : LinterChannel} : Stray earlier uri →
      (course parse w earlier).Reports l sequence target → uri ≠ target →
      ¬ l.FindsIn runner uri → Stray (.finish machine runner (.lint sequence target) :: earlier) uri

/-- A file is left over only after an event that let go of it while it had findings, and did not tell
the board. -/
theorem Stray.exists_event {parse : Parser} {w : Workspace} {moves : List Move} {uri : String}
    (stray : Stray parse w moves uri) : ∃ later machine e earlier,
      moves = later ++ .event machine e :: earlier ∧ Kept parse w earlier uri ∧
        e.letsGo = some uri ∧ ∀ s, .forget uri s ∉
          ((course parse w earlier).workspace.handle parse machine e).messages := by
  induction stray with
  | released kept letsGo untold => exact ⟨[], _, _, _, rfl, kept, letsGo, untold⟩
  | event _ _ ih | other _ _ ih | unnamed _ _ _ _ ih =>
    obtain ⟨later, machine, e, earlier, rfl, had⟩ := ih
    exact ⟨_ :: later, machine, e, earlier, rfl, had⟩

/-- The channel's account and the board, after moves. -/
structure Tracks (moves : List Move) (l : LinterChannel) : Prop where
  held : (course parse w moves).workspace.linter = some l
  project : l.perFile = false
  /-- No list of the linter is from a run later than the newest one reported. -/
  reported : ∀ uri slot, (course parse w moves).board.slot? uri .linter = some slot →
    slot.sequence ≤ l.completed
  kept : ∀ uri, (course parse w moves).board.Flags uri .linter ∧ uri ∈ l.flagged ↔
    Kept parse w moves uri
  stray : ∀ uri, (course parse w moves).board.Flags uri .linter ∧ uri ∉ l.flagged ↔
    Stray parse w moves uri

variable {parse : Parser} {w : Workspace} {earlier : List Move} {l : LinterChannel}

/-! ### Events -/

/-- An event leaves the findings of a file on the board, unless it tells that the file is gone. -/
theorem flags_event (held : (course parse w earlier).workspace.linter = some l) (machine : Machine)
    (e : Event) (uri : String) (slot : Slot) :
    (course parse w (.event machine e :: earlier)).board.slot? uri .linter = some slot ↔
      (course parse w earlier).board.slot? uri .linter = some slot ∧ ∀ s, .forget uri s ∉
        ((course parse w earlier).workspace.handle parse machine e).messages := by
  have leaves : Leaves l e.letsGo ((course parse w earlier).workspace.handle parse machine e) :=
    handle_leaves held e
  exact Board.slot?_append_other _ (fun m mem => leaves.slot?_linter mem uri) slot

theorem Tracks.event (h : Tracks parse w earlier l) (machine : Machine) (e : Event) :
    ∃ l', Tracks parse w (.event machine e :: earlier) l' := by
  have leaves : Leaves l e.letsGo ((course parse w earlier).workspace.handle parse machine e) :=
    handle_leaves h.held e
  obtain ⟨texts, held⟩ := leaves.linter
  have slots := flags_event h.held machine e
  have flags : ∀ uri, (course parse w (.event machine e :: earlier)).board.Flags uri .linter ↔
      (course parse w earlier).board.Flags uri .linter ∧ ∀ s, .forget uri s ∉
        ((course parse w earlier).workspace.handle parse machine e).messages := fun uri => by
    simp only [Board.Flags, slots]
    tauto
  refine ⟨_, held, h.project, fun uri slot there =>
    h.reported uri slot ((slots uri slot).mp there).1, fun uri => ?_, fun uri => ?_⟩
  · rw [flags, List.mem_filter, bne_iff_ne]
    constructor
    · rintro ⟨⟨flagged, -⟩, mem, stays⟩
      exact .event ((h.kept uri).mp ⟨flagged, mem⟩) stays
    · intro kept
      cases kept with
      | event kept stays =>
        obtain ⟨flagged, mem⟩ := (h.kept uri).mpr kept
        exact ⟨⟨flagged, fun s told => stays (leaves.eq_of_forget told)⟩, mem, stays⟩
  · rw [flags, List.mem_filter, bne_iff_ne]
    constructor
    · rintro ⟨⟨flagged, untold⟩, out⟩
      -- The channel has just dropped it from its account, or it was left over before.
      by_cases mem : uri ∈ l.flagged
      · have letsGo : e.letsGo = some uri := by
          by_contra stays
          exact out ⟨mem, stays⟩
        exact .released ((h.kept uri).mp ⟨flagged, mem⟩) letsGo untold
      · exact .event ((h.stray uri).mp ⟨flagged, mem⟩) untold
    · intro stray
      cases stray with
      | released kept letsGo untold =>
        obtain ⟨flagged, -⟩ := (h.kept uri).mpr kept
        exact ⟨⟨flagged, untold⟩, fun inside => inside.2 letsGo⟩
      | event stray untold =>
        obtain ⟨flagged, out⟩ := (h.stray uri).mpr stray
        exact ⟨⟨flagged, untold⟩, fun inside => out inside.1⟩

/-! ### Jobs -/

/-- A job of the compiler leaves the linter's channel and its findings on the board. -/
theorem finish_compile (machine : Machine) (runner : Tool.Runner Id) {sequence : Nat}
    (waits : .compile sequence ∈ (course parse w earlier).waiting) :
    (course parse w (.finish machine runner (.compile sequence) :: earlier)).workspace.linter =
        (course parse w earlier).workspace.linter ∧
      ∀ uri slot, (course parse w (.finish machine runner (.compile sequence) :: earlier)).board.slot?
        uri .linter = some slot ↔ (course parse w earlier).board.slot? uri .linter = some slot := by
  obtain ⟨w', ms, done, held, compiled⟩ :=
    perform_compile machine runner (course parse w earlier).workspace sequence
  have step : course parse w (.finish machine runner (.compile sequence) :: earlier) =
      ⟨w', (course parse w earlier).waiting.erase (.compile sequence),
        (course parse w earlier).sent ++ ms⟩ := by
    rw [course, Course.step, if_pos waits, done]
    rfl
  rw [step]
  refine ⟨held, fun uri slot => ?_⟩
  have other : ∀ m ∈ ms, m.slot? uri .linter = none := by
    intro m mem
    obtain ⟨r, rfl, channel⟩ := compiled m mem
    simp [Message.slot?, Report.slot?, channel]
  refine (Board.slot?_append_other _ other slot).trans (and_iff_left fun s mem => ?_)
  obtain ⟨r, same, -⟩ := compiled _ mem
  cases same

/-- A job that does not report for the linter leaves its channel and its findings on the board. -/
theorem finish_other (h : Tracks parse w earlier l) (machine : Machine) (runner : Tool.Runner Id)
    (job : Job) (silent : ∀ l sequence target, job = .lint sequence target →
      ¬ (course parse w earlier).Reports l sequence target) :
    (course parse w (.finish machine runner job :: earlier)).workspace.linter = some l ∧
      ∀ uri slot, (course parse w (.finish machine runner job :: earlier)).board.slot? uri .linter =
        some slot ↔ (course parse w earlier).board.slot? uri .linter = some slot := by
  by_cases waits : job ∈ (course parse w earlier).waiting
  · cases job with
    | compile sequence =>
      obtain ⟨held, slots⟩ := finish_compile machine runner waits
      exact ⟨held.trans h.held, slots⟩
    | lint sequence target =>
      have overtaken : sequence < l.completed := by
        by_contra current
        exact silent l sequence target rfl ⟨waits, h.held, Nat.le_of_not_lt current⟩
      have step : course parse w (.finish machine runner (.lint sequence target) :: earlier) =
          ⟨{ (course parse w earlier).workspace with linter := some l },
            (course parse w earlier).waiting.erase (.lint sequence target),
            (course parse w earlier).sent ++ []⟩ := by
        rw [course, Course.step, if_pos waits, perform_lint h.held h.project,
          LinterChannel.finish_project h.project, if_pos overtaken]
        rfl
      rw [step, List.append_nil]
      exact ⟨rfl, fun uri slot => Iff.rfl⟩
  · have step :
        course parse w (.finish machine runner job :: earlier) = course parse w earlier := by
      rw [course, Course.step, if_neg waits]
    rw [step]
    exact ⟨h.held, fun uri slot => Iff.rfl⟩

theorem Tracks.other (h : Tracks parse w earlier l) (machine : Machine) (runner : Tool.Runner Id)
    (job : Job) (silent : ∀ l sequence target, job = .lint sequence target →
      ¬ (course parse w earlier).Reports l sequence target) :
    Tracks parse w (.finish machine runner job :: earlier) l := by
  obtain ⟨held, slots⟩ := finish_other h machine runner job silent
  have flags : ∀ uri, (course parse w (.finish machine runner job :: earlier)).board.Flags uri
      .linter ↔ (course parse w earlier).board.Flags uri .linter := fun uri => by
    simp only [Board.Flags, slots]
  refine ⟨held, h.project, fun uri slot there => h.reported uri slot ((slots uri slot).mp there),
    fun uri => ?_, fun uri => ?_⟩
  · rw [flags, h.kept]
    constructor
    · intro kept
      exact .other kept silent
    · intro kept
      cases kept with
      | found reports => exact absurd reports (silent _ _ _ rfl)
      | other kept => exact kept
  · rw [flags, h.stray]
    constructor
    · intro stray
      exact .other stray silent
    · intro stray
      cases stray with
      | other stray => exact stray
      | unnamed _ reports => exact absurd reports (silent _ _ _ rfl)

/-- The report of a run that is not overtaken. -/
def reportOf (l : LinterChannel) (runner : Tool.Runner Id) (sequence : Nat) (target : String) :
    Report :=
  ⟨.linter, sequence, (l.found runner (some target)).withCleared (l.flagged ++ [target])⟩

/-- **A run that is not overtaken reports**, and flags what it found. -/
theorem finish_reports (project : l.perFile = false) (machine : Machine)
    (runner : Tool.Runner Id) {sequence : Nat} {target : String}
    (reports : (course parse w earlier).Reports l sequence target) :
    course parse w (.finish machine runner (.lint sequence target) :: earlier) =
      ⟨{ (course parse w earlier).workspace with linter := some { l with
            completed := sequence, flagged := (l.found runner (some target)).troubled } },
        (course parse w earlier).waiting.erase (.lint sequence target),
        (course parse w earlier).sent ++ [.report (reportOf l runner sequence target)]⟩ := by
  rw [course, Course.step, if_pos reports.waits, perform_lint reports.held project,
    LinterChannel.finish_project project, if_neg (Nat.not_lt_of_le reports.current)]
  rfl

theorem board_finish (project : l.perFile = false) (machine : Machine) (runner : Tool.Runner Id)
    {sequence : Nat} {target : String}
    (reports : (course parse w earlier).Reports l sequence target) :
    (course parse w (.finish machine runner (.lint sequence target) :: earlier)).board =
      ((course parse w earlier).board.apply (reportOf l runner sequence target)).1 := by
  rw [finish_reports project machine runner reports]
  exact Board.after_concat ..

theorem get?_reportOf (project : l.perFile = false) (runner : Tool.Runner Id) (sequence : Nat)
    (target uri : String) (ds : List Diagnostic) :
    (reportOf l runner sequence target).files.get? uri = some ds ↔
      (l.FindsIn runner uri ∨ uri ∈ l.flagged ∨ uri = target) ∧
        ds = (l.found runner (some target)).listOf uri := by
  refine Findings.get?_withCleared_eq_some_iff.trans (and_congr_left fun _ => ?_)
  rw [(LinterChannel.found_spec project runner (some target) uri).1, List.mem_append,
    List.mem_singleton]

/-- What a report leaves in the slot of a file: nothing if it names the file and the file was
removed since, else the list of the run if it names the file, else what was there. -/
theorem slot?_finish_cases (h : Tracks parse w earlier l) (machine : Machine)
    (runner : Tool.Runner Id) {sequence : Nat} {target : String}
    (reports : (course parse w earlier).Reports l sequence target) (uri : String) :
    let before := (course parse w earlier).board
    let now := (course parse w (.finish machine runner (.lint sequence target) :: earlier)).board
    let Named := l.FindsIn runner uri ∨ uri ∈ l.flagged ∨ uri = target
    Named ∧ before.isRemovedSince uri sequence = true ∧ now.slot? uri .linter = none ∨
      Named ∧ ¬ before.isRemovedSince uri sequence = true ∧ now.slot? uri .linter =
        some ⟨sequence, (l.found runner (some target)).listOf uri⟩ ∨
      ¬ Named ∧
        ∀ slot, now.slot? uri .linter = some slot ↔ before.slot? uri .linter = some slot := by
  intro before now Named
  have sound : (before.standing uri).Sound := Board.sound_after _ uri
  have arrival : now = (before.apply (reportOf l runner sequence target)).1 :=
    board_finish h.project machine runner reports
  have list := get?_reportOf h.project runner sequence target uri
  by_cases named : Named
  · by_cases removed : before.isRemovedSince uri sequence = true
    · refine Or.inl ⟨named, removed, ?_⟩
      rw [arrival]
      exact Board.slot?_report_removed sound removed
    · refine Or.inr (Or.inl ⟨named, removed, ?_⟩)
      rw [arrival]
      exact Board.slot?_report ((list _).mpr ⟨named, rfl⟩) removed fun slot there =>
        Nat.le_trans (h.reported uri slot there) reports.current
  · have unnamed :
        (Message.report (reportOf l runner sequence target)).slot? uri .linter = none := by
      cases there : (reportOf l runner sequence target).files.get? uri with
      | none => simp [Message.slot?, Report.slot?, there]
      | some ds => exact absurd ((list ds).mp there).1 named
    refine Or.inr (Or.inr ⟨named, fun slot => ?_⟩)
    rw [arrival]
    refine (Board.slot?_receive_other before unnamed slot).trans (and_iff_left fun s same => ?_)
    cases same

/-- **What the board shows of a file once a run has reported**: what the run found there, unless the
file was removed since; and what was left over, unless the report names the file. -/
theorem flags_finish (h : Tracks parse w earlier l) (machine : Machine) (runner : Tool.Runner Id)
    {sequence : Nat} {target : String}
    (reports : (course parse w earlier).Reports l sequence target) (uri : String) :
    (course parse w (.finish machine runner (.lint sequence target) :: earlier)).board.Flags uri
        .linter ↔
      l.FindsIn runner uri ∧ ¬ (course parse w earlier).board.isRemovedSince uri sequence = true ∨
        Stray parse w earlier uri ∧ uri ≠ target ∧ ¬ l.FindsIn runner uri := by
  have list := (LinterChannel.found_spec h.project runner (some target) uri).2
  rw [Board.Flags, ← h.stray uri]
  rcases slot?_finish_cases h machine runner reports uri with
    ⟨-, removed, gone⟩ | ⟨named, present, taken⟩ | ⟨unnamed, same⟩
  · -- A file that counts as removed showed nothing before either.
    have vacant : ¬ (course parse w earlier).board.Flags uri .linter := by
      rintro ⟨slot, there, -⟩
      exact nomatch (Board.slot?_of_removed (Board.sound_after _ uri) removed).symm.trans there
    simp [gone, removed, vacant]
  · simp only [taken, Option.some_inj, exists_eq_left', list]
    tauto
  · simp only [same]
    change (course parse w earlier).board.Flags uri .linter ↔ _
    tauto

theorem Tracks.lint (h : Tracks parse w earlier l) (machine : Machine) (runner : Tool.Runner Id)
    {sequence : Nat} {target : String}
    (reports : (course parse w earlier).Reports l sequence target) :
    ∃ l', Tracks parse w (.finish machine runner (.lint sequence target) :: earlier) l' := by
  have flags := flags_finish h machine runner reports
  have step := finish_reports h.project machine runner reports
  have found : ∀ uri, uri ∈ (l.found runner (some target)).troubled ↔ l.FindsIn runner uri :=
    fun uri => Findings.mem_troubled_iff.trans
      (LinterChannel.found_spec h.project runner (some target) uri).2
  refine ⟨{ l with completed := sequence, flagged := (l.found runner (some target)).troubled },
    congrArg (·.workspace.linter) step, h.project, fun uri slot there => ?_, fun uri => ?_,
    fun uri => ?_⟩
  · rcases slot?_finish_cases h machine runner reports uri with
      ⟨-, -, gone⟩ | ⟨-, -, taken⟩ | ⟨-, same⟩
    · exact nomatch gone.symm.trans there
    · cases Option.some.inj (taken.symm.trans there)
      exact Nat.le_refl sequence
    · exact Nat.le_trans (h.reported uri slot ((same slot).mp there)) reports.current
  · rw [flags, found]
    constructor
    · rintro ⟨⟨finds, present⟩ | ⟨-, -, misses⟩, finds'⟩
      · exact .found reports finds present
      · exact absurd finds' misses
    · intro kept
      cases kept with
      | found reports' finds present =>
        cases Option.some.inj (reports.held.symm.trans reports'.held)
        exact ⟨Or.inl ⟨finds, present⟩, finds⟩
      | other _ silent => exact absurd reports (silent _ _ _ rfl)
  · rw [flags, found]
    constructor
    · rintro ⟨⟨finds, -⟩ | ⟨stray, apart, -⟩, misses⟩
      · exact absurd finds misses
      · exact .unnamed stray reports apart misses
    · intro stray
      cases stray with
      | other _ silent => exact absurd reports (silent _ _ _ rfl)
      | unnamed stray reports' apart misses =>
        cases Option.some.inj (reports.held.symm.trans reports'.held)
        exact ⟨Or.inr ⟨stray, apart, misses⟩, misses⟩

/-! ### Runs -/

/-- A fresh channel accounts for nothing, and the board shows nothing. -/
theorem Tracks.start {cwd root program : Path} {args : List String}
    (fresh : w.linter = some (.start cwd root program args false)) :
    Tracks parse w [] (.start cwd root program args false) where
  held := fresh
  project := rfl
  reported _ _ there := nomatch there
  kept _ := ⟨fun flagged => (nomatch flagged.2), nofun⟩
  stray _ := ⟨fun ⟨⟨_, there, _⟩, _⟩ => (nomatch there), nofun⟩

/-- **The board shows findings in the files of the channel's account and in those left over**, after
all moves. -/
theorem tracks (parse : Parser) {cwd root program : Path} {args : List String}
    (fresh : w.linter = some (.start cwd root program args false)) :
    ∀ moves : List Move, ∃ l, Tracks parse w moves l
  | [] => ⟨_, .start fresh⟩
  | .event machine e :: earlier => by
    obtain ⟨l, h⟩ := tracks parse fresh earlier
    exact h.event machine e
  | .finish machine runner job :: earlier => by
    obtain ⟨l, h⟩ := tracks parse fresh earlier
    by_cases reports : ∃ l' sequence target, job = .lint sequence target ∧
        (course parse w earlier).Reports l' sequence target
    · obtain ⟨l', sequence, target, rfl, reports⟩ := reports
      cases Option.some.inj (h.held.symm.trans reports.held)
      exact h.lint machine runner reports
    · exact ⟨l, h.other machine runner job fun l' sequence target same again =>
        reports ⟨l', sequence, target, same, again⟩⟩

theorem Course.RemovedSince.of_isRemovedSince {c : Course} {uri : String} {sequence : Nat}
    (removed : c.board.isRemovedSince uri sequence = true) : c.RemovedSince uri sequence := by
  unfold Board.isRemovedSince at removed
  cases marked : c.board.removed.get? uri with
  | none =>
    rw [marked] at removed
    cases removed
  | some mark =>
    rw [marked] at removed
    exact ⟨mark, of_decide_eq_true removed, Board.mem_of_marked marked⟩

/-- **When the findings on the board are those of the run that has just reported.** After its report
the board shows findings where the run found something, unless the file was removed since, and in
the files left over that the report does not name. So apart from files that were removed since, they
are those of the run exactly when every file left over is the run's target or has findings again; in
particular they are when no file with findings was closed or deleted without the board being told
(`Stray.exists_event`). -/
theorem reported_findings_iff (parse : Parser) {cwd root program : Path} {args : List String}
    (fresh : w.linter = some (.start cwd root program args false)) (earlier : List Move)
    {sequence : Nat} {target : String}
    (reports : (course parse w earlier).Reports l sequence target) (machine : Machine)
    (runner : Tool.Runner Id) :
    let before := course parse w earlier
    let now := course parse w (.finish machine runner (.lint sequence target) :: earlier)
    (∀ uri, now.board.Flags uri .linter ↔
      l.FindsIn runner uri ∧ ¬ before.board.isRemovedSince uri sequence = true ∨
        Stray parse w earlier uri ∧ uri ≠ target ∧ ¬ l.FindsIn runner uri) ∧
    ((∀ uri, ¬ before.RemovedSince uri sequence →
        (now.board.Flags uri .linter ↔ l.FindsIn runner uri)) ↔
      ∀ uri, ¬ before.RemovedSince uri sequence → Stray parse w earlier uri →
        uri = target ∨ l.FindsIn runner uri) := by
  intro before now
  obtain ⟨l', h⟩ := tracks parse fresh earlier
  cases Option.some.inj (h.held.symm.trans reports.held)
  have flags := flags_finish h machine runner reports
  refine ⟨flags, forall_congr' fun uri => forall_congr' fun present => ?_⟩
  have unmarked : ¬ before.board.isRemovedSince uri sequence = true := fun removed =>
    present (.of_isRemovedSince removed)
  rw [flags uri]
  tauto

/-- A project of which nothing is loaded, with a linter. -/
def lintedProject : Workspace :=
  ⟨.ofString "/p", ⟨.package, []⟩, .usual, .empty, 0, none,
    some (.start (.ofString "/") (.ofString "/p") (.ofString "elm-review") [] false)⟩

/-- A disk with a file of the project. -/
def machineWithFile : Machine :=
  ⟨Disk.empty.put ["p".toUTF8.toList, "A.elm".toUTF8.toList] (.file [] false), .ofString "/", [],
    .ofString "/"⟩

/-- A linter that finds an error in the file, of which it says no more. -/
def strictLinter : Tool.Runner Id := fun _ _ =>
  .ok ⟨1, "\x7b\"type\":\"review-errors\",\"errors\":[" ++
    "\x7b\"path\":\"A.elm\",\"errors\":[\x7b\x7d]\x7d]\x7d", ""⟩

/-- A linter that finds nothing. -/
def contentLinter : Tool.Runner Id := fun _ _ => .ok ⟨0, "", ""⟩

/-- The file is opened. -/
def openedFile : List Move :=
  [.event machineWithFile (.opened "file:///p/A.elm" "" 1)]

/-- The file is opened and linted, closed, and then another one is opened. -/
def closedFile : List Move :=
  .event machineWithFile (.opened "file:///p/B.elm" "" 1) ::
    .event machineWithFile (.closed "file:///p/A.elm") ::
    .finish machineWithFile strictLinter (.lint 1 "file:///p/A.elm") :: openedFile

/-- Once the file is linted, the board shows what was found in it. -/
theorem opened_file_flagged :
    (course (.constant []) lintedProject
      (.finish machineWithFile strictLinter (.lint 1 "file:///p/A.elm") :: openedFile)).board.Flags
        "file:///p/A.elm" .linter := by
  obtain ⟨l, h⟩ := tracks (.constant []) (w := lintedProject) rfl openedFile
  have answers : ∀ l ∈ (course (.constant []) lintedProject openedFile).workspace.linter,
      l.completed ≤ 1 ∧ (l.found strictLinter (some "file:///p/A.elm")).contains
        "file:///p/A.elm" = true := by decide +kernel
  obtain ⟨current, named⟩ := answers l h.held
  have reports : (course (.constant []) lintedProject openedFile).Reports l 1 "file:///p/A.elm" :=
    ⟨by decide +kernel, h.held, current⟩
  have finds := (LinterChannel.found_spec h.project strictLinter _ _).1.mp named
  have shown := (reported_findings_iff (.constant []) rfl openedFile reports machineWithFile
    strictLinter).1 "file:///p/A.elm"
  exact shown.mpr (Or.inl ⟨finds, by decide +kernel⟩)

/-- **Findings of a file that was closed stay on the board.** A file with a finding is closed; it is
still on disk, so it is not gone. The next run over the project finds nothing, and the file keeps
its finding. -/
theorem closed_file_stays_flagged :
    ¬ ∀ (parse : Parser) (w : Workspace) (cwd root program : Path) (args : List String),
      w.linter = some (.start cwd root program args false) →
      ∀ (earlier : List Move) (l : LinterChannel) (sequence : Nat) (target : String),
      (course parse w earlier).Reports l sequence target →
      ∀ (machine : Machine) (runner : Tool.Runner Id) (uri : String),
      ¬ (course parse w earlier).RemovedSince uri sequence →
      ((course parse w (.finish machine runner (.lint sequence target) :: earlier)).board.Flags uri
        .linter ↔ l.FindsIn runner uri) := by
  intro cleared
  obtain ⟨l, h⟩ := tracks (.constant []) (w := lintedProject) rfl closedFile
  have answers : ∀ l ∈ (course (.constant []) lintedProject closedFile).workspace.linter,
      l.completed ≤ 3 ∧ (l.found contentLinter (some "file:///p/B.elm")).contains
        "file:///p/A.elm" = false := by decide +kernel
  obtain ⟨current, unnamed⟩ := answers l h.held
  have reports : (course (.constant []) lintedProject closedFile).Reports l 3 "file:///p/B.elm" :=
    ⟨by decide +kernel, h.held, current⟩
  have untold : ∀ m ∈ (course (.constant []) lintedProject closedFile).sent,
      (m matches .forget ..) = false := by decide +kernel
  have present : ¬ (course (.constant []) lintedProject closedFile).RemovedSince
      "file:///p/A.elm" 3 := fun ⟨s, _, told⟩ => nomatch untold _ told
  have shown : (course (.constant []) lintedProject (.finish machineWithFile contentLinter
      (.lint 3 "file:///p/B.elm") :: closedFile)).board.slot? "file:///p/A.elm" .linter =
      some ⟨1, [⟨.linter, ⟨⟨0, 0⟩, ⟨0, 0⟩⟩, .warning, ""⟩]⟩ := by decide +kernel
  have finds : l.FindsIn contentLinter "file:///p/A.elm" :=
    (cleared (.constant []) lintedProject _ _ _ _ rfl closedFile l 3 "file:///p/B.elm" reports
      machineWithFile contentLinter "file:///p/A.elm" present).mp ⟨_, shown, nofun⟩
  have named := (LinterChannel.found_spec h.project contentLinter (some "file:///p/B.elm") _).1.mpr
    finds
  exact nomatch unnamed.symm.trans named

end ElmAssist.Workspace
