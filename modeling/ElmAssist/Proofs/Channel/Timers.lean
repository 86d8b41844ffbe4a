import ElmAssist.Proofs.Catalog
import ElmAssist.Proofs.Channel.Compiler
import ElmAssist.Proofs.Disk.Path
import Mathlib.Order.Bounds.Basic

/-!
# Channel — Compiler timers

A trigger takes its sequence, then has its file wait and starts a timer; triggers come one after
the other. The timers run out in any order. One that runs out looks for a newer trigger, to which
it would leave its file; if there is none, it takes all files that wait and starts a run on them.
Each of these is a move of its own, and others may come between two moves of one trigger or one
timer.

* `Watch.step`: one move. `channel_mark_queue` and `step_look_take`: when nothing comes in
  between, the moves of a trigger are `trigger`, and those of a timer `timeUp`.
* `Watch.Tracks`: what holds between the channel, the timers and the runs after any moves.
* `triggers_settle`: when all timers have come to an end, no file waits, and each file was handed
  to a run after its last trigger, unless it was forgotten since.
* `run_without_compiler_or_sequence`: a run whose compiler does not start, and one that has the
  file of a trigger that came after its timer had looked.
-/

namespace ElmAssist.CompilerChannel

/-! ### Moves -/

/-- What happens to a channel. -/
inductive Move where
  /-- A file changed: a trigger takes its sequence. -/
  | mark (sequence : Nat)
  /-- The file of the trigger waits, and its timer starts. -/
  | queue (sequence : Nat) (file : Path)
  /-- The timer of a trigger runs out, and looks for a newer trigger. -/
  | look (sequence : Nat)
  /-- A timer that found none takes the files that wait. -/
  | take (sequence : Nat)
  /-- A file is gone. -/
  | forget (uri : String)
  /-- A run ends, whatever started it. -/
  | conclude (r : Run)

/-- The sequences that triggers have taken. -/
def marked (moves : List Move) : List Nat :=
  moves.filterMap fun
    | .mark sequence => some sequence
    | _ => none

/-- The sequences of triggers whose file came to wait. -/
def queued (moves : List Move) : List Nat :=
  moves.filterMap fun
    | .queue sequence _ => some sequence
    | _ => none

/-- Triggers come one after the other, with increasing sequences, each with one file. -/
def Orderly : List Move → Prop
  | [] => True
  | .mark sequence :: earlier =>
    (∀ s ∈ marked earlier, s < sequence ∧ s ∈ queued earlier) ∧ Orderly earlier
  | .queue sequence _ :: earlier =>
    (sequence ∈ marked earlier ∧ sequence ∉ queued earlier) ∧ Orderly earlier
  | .look _ :: earlier | .take _ :: earlier | .forget _ :: earlier | .conclude _ :: earlier =>
    Orderly earlier

/-- A run that a timer starts. -/
structure Launch where
  sequence : Nat
  /-- The newest sequence of a trigger when the files are taken. -/
  newest : Nat
  files : List Path
  deriving DecidableEq, Repr

/-- The run is on a file, however that is spelled. -/
def Launch.On (l : Launch) (file : Path) : Prop :=
  ∃ p ∈ l.files, file.same p = true

/-- A channel, the timers that have not run out, those that have found no newer trigger and are to
take the files, and the runs that timers started. -/
structure Watch where
  channel : CompilerChannel
  timers : List Nat
  passed : List Nat
  launches : List Launch

/-- The watch after a move. A timer runs out once. -/
def Watch.step (w : Watch) : Move → Watch
  | .mark sequence => { w with channel := w.channel.mark sequence }
  | .queue sequence file =>
    { w with channel := w.channel.queue file, timers := sequence :: w.timers }
  | .look sequence =>
    if sequence ∈ w.timers then
      { w with
        timers := w.timers.erase sequence
        passed := if w.channel.isNewest sequence then sequence :: w.passed else w.passed }
    else w
  | .take sequence =>
    if sequence ∈ w.passed then
      let taken := w.channel.takeWaiting
      ⟨taken.1, w.timers, w.passed.erase sequence,
        (taken.2.map (Launch.mk sequence w.channel.latest)).toList ++ w.launches⟩
    else w
  | .forget uri => { w with channel := w.channel.forget uri }
  | .conclude r => { w with channel := (w.channel.conclude r).1 }

/-- The watch over a channel after moves, the latest one first. -/
def watch (c : CompilerChannel) : List Move → Watch
  | [] => ⟨c, [], [], []⟩
  | move :: earlier => (watch c earlier).step move

/-- All triggers have had their files wait, and all timers have come to an end. -/
structure Quiet (c : CompilerChannel) (moves : List Move) : Prop where
  through : ∀ s ∈ marked moves, s ∈ queued moves
  timers : (watch c moves).timers = []
  passed : (watch c moves).passed = []

/-- A uri means a file: it is that of the uri, by its path or as seen from the project. -/
def Means (root : Path) (uri : String) (file : Path) : Prop :=
  ∃ p, Uri.path? uri = some p ∧
    (file.same p = true ∨ ∃ q, p.below? root = some q ∧ file.same q = true)

variable {cwd root program : Path} {c : CompilerChannel} {w old : Watch}
  {moves earlier : List Move} {file p : Path} {sequence s : Nat} {uri : String}

theorem Orderly.tail {move : Move} (ordered : Orderly (move :: earlier)) : Orderly earlier := by
  cases move with
  | mark | queue => exact ordered.2
  | look | take | forget | conclude => exact ordered

/-- Nothing comes between the moves of a trigger. -/
theorem channel_mark_queue (w : Watch) (sequence : Nat) (file : Path) :
    ((w.step (.mark sequence)).step (.queue sequence file)).channel =
      w.channel.trigger sequence file := rfl

/-- Nothing comes between the moves of a timer. -/
theorem step_look_take (running : sequence ∈ w.timers) (once : sequence ∉ w.passed) :
    (w.step (.look sequence)).step (.take sequence) =
      ⟨(w.channel.timeUp sequence).1, w.timers.erase sequence, w.passed,
        ((w.channel.timeUp sequence).2.map (Launch.mk sequence w.channel.latest)).toList ++
          w.launches⟩ := by
  by_cases newest : w.channel.isNewest sequence = true
  · simp [Watch.step, timeUp, running, newest]
  · simp [Watch.step, timeUp, running, newest, once]

/-! ### What waits -/

theorem waits_queue_iff :
    (c.queue file).pending.contains p = true ↔
      p.same file = true ∨ c.pending.contains p = true := by
  rw [← Path.compare_eq_iff_same]
  exact Catalog.contains_insertNew_iff

theorem contains_foldl_erase_iff {pending : Catalog Path Unit} {gone : List Path} :
    (gone.foldl Catalog.erase pending).contains file = true ↔
      pending.contains file = true ∧ ∀ p ∈ gone, ¬ file.same p = true := by
  induction gone generalizing pending with
  | nil => simp
  | cons p gone ih =>
    rw [List.foldl_cons, ih, Catalog.contains_erase_iff, ne_eq, Path.compare_eq_iff_same,
      List.forall_mem_cons]
    tauto

theorem forget_latest (c : CompilerChannel) (uri : String) : (c.forget uri).latest = c.latest := by
  rw [forget]

theorem forget_root (c : CompilerChannel) (uri : String) : (c.forget uri).root = c.root := by
  rw [forget]

/-- A file waits on when the uri of another one is forgotten. -/
theorem waits_forget_iff :
    (c.forget uri).pending.contains file = true ↔
      c.pending.contains file = true ∧ ¬ Means c.root uri file := by
  rw [forget]
  dsimp only
  rw [contains_foldl_erase_iff]
  refine and_congr_right fun _ => ?_
  unfold Means fromRoot
  cases Uri.path? uri with
  | none => simp
  | some p => cases p.below? c.root <;> simp

/-! ### One move -/

theorem isNewest_iff : c.isNewest sequence = true ↔ c.latest = sequence :=
  beq_iff_eq

/-- What the timer of a sequence does when it looks. -/
inductive Looked (w : Watch) (sequence : Nat) : Watch → Prop
  /-- It has run out before. -/
  | out (out : sequence ∉ w.timers) : Looked w sequence w
  | passed (running : sequence ∈ w.timers) (newest : w.channel.latest = sequence) :
      Looked w sequence
        { w with timers := w.timers.erase sequence, passed := sequence :: w.passed }
  /-- There is a newer trigger. -/
  | ended (running : sequence ∈ w.timers) (older : w.channel.latest ≠ sequence) :
      Looked w sequence { w with timers := w.timers.erase sequence }

theorem step_looked (w : Watch) (sequence : Nat) : Looked w sequence (w.step (.look sequence)) := by
  rw [Watch.step]
  by_cases running : sequence ∈ w.timers
  · rw [if_pos running]
    by_cases newest : w.channel.latest = sequence
    · rw [if_pos (isNewest_iff.mpr newest)]
      exact .passed running newest
    · rw [if_neg (mt isNewest_iff.mp newest)]
      exact .ended running newest
  · rw [if_neg running]
    exact .out running

/-- What the timer of a sequence does when it takes the files. -/
inductive Took (w : Watch) (sequence : Nat) : Watch → Prop
  /-- It is not to take any. -/
  | out (out : sequence ∉ w.passed) : Took w sequence w
  /-- No file waits. -/
  | idle (due : sequence ∈ w.passed) (empty : w.channel.pending.isEmpty = true) :
      Took w sequence
        ⟨{ w.channel with pending := .empty }, w.timers, w.passed.erase sequence, w.launches⟩
  | started (due : sequence ∈ w.passed) :
      Took w sequence
        ⟨{ w.channel with pending := .empty }, w.timers, w.passed.erase sequence,
          ⟨sequence, w.channel.latest, w.channel.pending.keys⟩ :: w.launches⟩

theorem step_took (w : Watch) (sequence : Nat) : Took w sequence (w.step (.take sequence)) := by
  rw [Watch.step]
  by_cases due : sequence ∈ w.passed
  · rw [if_pos due]
    unfold takeWaiting
    by_cases empty : w.channel.pending.isEmpty = true
    · rw [if_pos empty]
      exact .idle due empty
    · rw [if_neg empty]
      exact .started due
  · rw [if_neg due]
    exact .out due

/-- No move changes what the project is. -/
theorem root_watch (c : CompilerChannel) (moves : List Move) :
    (watch c moves).channel.root = c.root := by
  induction moves with
  | nil => rfl
  | cons move earlier ih =>
    rw [watch, ← ih]
    generalize watch c earlier = w
    cases move with
    | mark | queue | conclude => rfl
    | forget uri => exact forget_root w.channel uri
    | look sequence =>
      have did := step_looked w sequence
      generalize w.step (.look sequence) = v at did ⊢
      cases did <;> rfl
    | take sequence =>
      have did := step_took w sequence
      generalize w.step (.take sequence) = v at did ⊢
      cases did <;> rfl

/-! ### Any moves -/

/-- The timers that have not come to an end. -/
def Watch.running (w : Watch) : List Nat :=
  w.timers ++ w.passed

/-- What holds of a watch when triggers have taken the given sequences, and the files of those given
next have come to wait. -/
structure Watch.Tracks (w : Watch) (taken through : List Nat) : Prop where
  /-- No trigger is newer than the channel has seen. -/
  newest : ∀ s ∈ taken, s ≤ w.channel.latest
  latest : w.channel.latest = 0 ∨ w.channel.latest ∈ taken
  begun : ∀ s ∈ through, s ∈ taken
  /-- The newest trigger alone may not have had its file wait. -/
  whole : ∀ s ∈ taken, s ∈ through ∨ s = w.channel.latest
  /-- Timers are those of triggers, each at most once. -/
  started : ∀ s ∈ w.running, s ∈ through
  once : w.running.Nodup
  /-- As long as a file waits, there is a timer that will take it, or a trigger that is about to
  start one. -/
  waits : ∀ file, w.channel.pending.contains file = true →
    w.channel.latest ∈ taken ∧ w.channel.latest ∉ through ∨
      w.channel.latest ∈ w.timers ∨ w.passed ≠ []
  /-- The timer that started a run has come to an end. -/
  past : ∀ l ∈ w.launches, l.sequence ∈ through ∧ l.sequence ∉ w.running
  apart : (w.launches.map Launch.sequence).Nodup

namespace Watch.Tracks

variable {taken through : List Nat}

/-- The newest sequence that was taken. -/
theorem isGreatest (h : w.Tracks taken through) (some_ : s ∈ taken) :
    IsGreatest {t | t ∈ taken} w.channel.latest := by
  refine ⟨?_, h.newest⟩
  rcases h.latest with zero | mem
  · obtain rfl : s = w.channel.latest := by
      have := h.newest s some_
      omega
    exact some_
  · exact mem

/-- A trigger comes, newer than all before, which have had their files wait. -/
theorem mark (h : w.Tracks taken through) (newer : ∀ s ∈ taken, s < sequence ∧ s ∈ through) :
    (w.step (.mark sequence)).Tracks (sequence :: taken) through := by
  have le : w.channel.latest ≤ sequence := by
    rcases h.latest with zero | mem
    · omega
    · exact Nat.le_of_lt (newer _ mem).1
  have latest : (w.step (.mark sequence)).channel.latest = sequence := Nat.max_eq_right le
  have fresh : sequence ∉ through := fun mem => Nat.lt_irrefl _ (newer _ (h.begun _ mem)).1
  have begins : sequence ∈ sequence :: taken := List.mem_cons_self
  constructor
  case newest =>
    rw [latest]
    exact List.forall_mem_cons.mpr ⟨Nat.le_refl _, fun s mem => Nat.le_of_lt (newer s mem).1⟩
  case latest =>
    rw [latest]
    exact Or.inr begins
  case begun => exact fun s mem => List.mem_cons_of_mem _ (h.begun s mem)
  case whole =>
    rw [latest]
    exact List.forall_mem_cons.mpr ⟨Or.inr rfl, fun s mem => Or.inl (newer s mem).2⟩
  case started => exact h.started
  case once => exact h.once
  case waits =>
    rw [latest]
    exact fun _ _ => Or.inl ⟨begins, fresh⟩
  case past => exact h.past
  case apart => exact h.apart

/-- The file of the trigger waits. -/
theorem queue (h : w.Tracks taken through) (begun : sequence ∈ taken) (fresh : sequence ∉ through)
    (file : Path) : (w.step (.queue sequence file)).Tracks taken (sequence :: through) := by
  have latest : sequence = w.channel.latest := (h.whole sequence begun).resolve_left fresh
  constructor
  case newest => exact h.newest
  case latest => exact h.latest
  case begun => exact List.forall_mem_cons.mpr ⟨begun, h.begun⟩
  case whole => exact fun s mem => (h.whole s mem).imp_left (List.mem_cons_of_mem _)
  case started =>
    exact List.forall_mem_cons.mpr
      ⟨List.mem_cons_self, fun s mem => List.mem_cons_of_mem _ (h.started s mem)⟩
  case once => exact List.nodup_cons.mpr ⟨fun mem => fresh (h.started _ mem), h.once⟩
  case waits => exact fun _ _ => Or.inr (Or.inl (latest ▸ List.mem_cons_self))
  case past =>
    intro l mem
    obtain ⟨before, ended⟩ := h.past l mem
    refine ⟨List.mem_cons_of_mem _ before, fun now => ?_⟩
    rcases List.mem_cons.mp now with same | now
    · exact fresh (same ▸ before)
    · exact ended now
  case apart => exact h.apart

/-- A timer looks. -/
theorem look (h : w.Tracks taken through) (sequence : Nat) :
    (w.step (.look sequence)).Tracks taken through := by
  have did := step_looked w sequence
  generalize w.step (.look sequence) = v at did ⊢
  cases did with
  | out => exact h
  | passed running newest =>
    -- The timer only goes from those that run to those that are to take the files.
    have same : (w.timers.erase sequence ++ sequence :: w.passed).Perm w.running :=
      List.perm_middle.trans ((List.perm_cons_erase running).symm.append_right _)
    refine ⟨h.newest, h.latest, h.begun, h.whole, fun s mem => h.started s (same.subset mem),
      same.nodup_iff.mpr h.once, fun _ _ => Or.inr (Or.inr (List.cons_ne_nil _ _)), ?_, h.apart⟩
    exact fun l mem => (h.past l mem).imp_right fun ended now => ended (same.subset now)
  | ended running older =>
    have fewer : (w.timers.erase sequence ++ w.passed).Sublist w.running :=
      List.erase_sublist.append_right _
    refine ⟨h.newest, h.latest, h.begun, h.whole, fun s mem => h.started s (fewer.subset mem),
      h.once.sublist fewer, fun p waiting => ?_, ?_, h.apart⟩
    · exact (h.waits p waiting).imp_right (Or.imp_left (List.mem_erase_of_ne older).mpr)
    · exact fun l mem => (h.past l mem).imp_right fun ended now => ended (fewer.subset now)

/-- A timer takes the files. -/
theorem take (h : w.Tracks taken through) (sequence : Nat) :
    (w.step (.take sequence)).Tracks taken through := by
  have fewer : (w.timers ++ w.passed.erase sequence).Sublist w.running :=
    List.erase_sublist.append_left _
  have started (s : Nat) (mem : s ∈ w.timers ++ w.passed.erase sequence) : s ∈ through :=
    h.started s (fewer.subset mem)
  have past (l : Launch) (mem : l ∈ w.launches) :
      l.sequence ∈ through ∧ l.sequence ∉ w.timers ++ w.passed.erase sequence :=
    (h.past l mem).imp_right fun ended now => ended (fewer.subset now)
  have did := step_took w sequence
  generalize w.step (.take sequence) = v at did ⊢
  cases did with
  | out => exact h
  | idle =>
    exact ⟨h.newest, h.latest, h.begun, h.whole, started, h.once.sublist fewer, nofun, past,
      h.apart⟩
  | started due =>
    have runs : sequence ∈ w.running := List.mem_append_right _ due
    have ended : sequence ∉ w.timers ++ w.passed.erase sequence := by
      have rest : (sequence :: (w.timers ++ w.passed.erase sequence)).Perm w.running :=
        List.perm_middle.symm.trans ((List.perm_cons_erase due).symm.append_left _)
      exact (List.nodup_cons.mp (rest.nodup_iff.mpr h.once)).1
    refine ⟨h.newest, h.latest, h.begun, h.whole, started, h.once.sublist fewer, nofun,
      List.forall_mem_cons.mpr ⟨⟨h.started _ runs, ended⟩, past⟩, ?_⟩
    -- The timer had not come to an end until now, so it has started no run before.
    refine List.nodup_cons.mpr ⟨fun before => ?_, h.apart⟩
    obtain ⟨l, mem, same⟩ := List.mem_map.mp before
    exact (h.past l mem).2 (same ▸ runs)

/-- The channel becomes another one, with the same newest sequence and no file that did not wait
before. -/
theorem withChannel (h : w.Tracks taken through) (latest : c.latest = w.channel.latest)
    (fewer : ∀ p, c.pending.contains p = true → w.channel.pending.contains p = true) :
    ({ w with channel := c } : Watch).Tracks taken through where
  newest := by simpa only [latest] using h.newest
  latest := by simpa only [latest] using h.latest
  begun := h.begun
  whole := by simpa only [latest] using h.whole
  started := h.started
  once := h.once
  waits p waiting := by simpa only [latest] using h.waits p (fewer p waiting)
  past := h.past
  apart := h.apart

end Watch.Tracks

/-- **After any moves**, when triggers come one after the other. -/
theorem tracks_watch (cwd root program : Path) (ordered : Orderly moves) :
    (watch (start cwd root program) moves).Tracks (marked moves) (queued moves) := by
  induction moves with
  | nil => exact ⟨nofun, Or.inl rfl, nofun, nofun, nofun, .nil, nofun, nofun, .nil⟩
  | cons move earlier ih =>
    have tracks := ih ordered.tail
    cases move with
    | mark sequence => exact tracks.mark ordered.1
    | queue sequence file => exact tracks.queue ordered.1.1 ordered.1.2 file
    | look sequence => exact tracks.look sequence
    | take sequence => exact tracks.take sequence
    | forget uri =>
      exact tracks.withChannel (forget_latest _ uri) fun p waiting =>
        (waits_forget_iff.mp waiting).1
    | conclude r => exact tracks.withChannel rfl fun p waiting => waiting

/-! ### The files of triggers -/

/-- A file is taken care of since a trigger, when the watch was another one: it waits, or a run
has it that was started since. -/
def Watch.Cares (w old : Watch) (sequence : Nat) (file : Path) : Prop :=
  ∃ newer, w.launches = newer ++ old.launches ∧
    (w.channel.pending.contains file = true ∨
      ∃ l ∈ newer, sequence ≤ l.newest ∧ l.On file)

/-- A file that is taken care of stays so in a move by which it is not forgotten. -/
theorem Watch.Cares.step (h : w.Cares old sequence file) (seen : sequence ≤ w.channel.latest)
    (move : Move) (kept : ∀ uri, move = .forget uri → ¬ Means w.channel.root uri file) :
    (w.step move).Cares old sequence file := by
  obtain ⟨newer, launches, cared⟩ := h
  cases move with
  | mark | conclude => exact ⟨newer, launches, cared⟩
  | queue s p =>
    exact ⟨newer, launches, cared.imp_left fun waiting => waits_queue_iff.mpr (Or.inr waiting)⟩
  | forget uri =>
    refine ⟨newer, launches, cared.imp_left fun waiting => ?_⟩
    exact waits_forget_iff.mpr ⟨waiting, kept uri rfl⟩
  | look s =>
    have did := step_looked w s
    generalize w.step (.look s) = v at did ⊢
    cases did <;> exact ⟨newer, launches, cared⟩
  | take s =>
    have did := step_took w s
    generalize w.step (.take s) = v at did ⊢
    cases did with
    | out => exact ⟨newer, launches, cared⟩
    | idle _ empty =>
      exact ⟨newer, launches, Or.inr (cared.resolve_left (Catalog.isEmpty_iff.mp empty file))⟩
    | started =>
      refine ⟨_ :: newer, congrArg (List.cons _) launches, Or.inr ?_⟩
      rcases cared with waiting | ⟨l, mem, later⟩
      · obtain ⟨p, mem, same⟩ := Catalog.exists_mem_keys waiting
        exact ⟨_, List.mem_cons_self, seen, p, mem, Path.compare_eq_iff_same.mp same⟩
      · exact ⟨l, List.mem_cons_of_mem _ mem, later⟩

/-- **A file that is triggered** waits for a run or has had one since, unless it was forgotten. -/
theorem cares_watch {later : List Move}
    (ordered : Orderly (later ++ .queue sequence file :: earlier))
    (kept : ∀ uri, .forget uri ∈ later → ¬ Means root uri file) :
    (watch (start cwd root program) (later ++ .queue sequence file :: earlier)).Cares
      (watch (start cwd root program) (.queue sequence file :: earlier)) sequence file := by
  -- On what came after the trigger: the file waits first, and each move keeps it cared for.
  induction later with
  | nil => exact ⟨[], rfl, Or.inl (waits_queue_iff.mpr (Or.inl (decide_eq_true rfl)))⟩
  | cons move later ih =>
    have before : Orderly (later ++ .queue sequence file :: earlier) := ordered.tail
    have tracks := tracks_watch cwd root program before
    have mem : sequence ∈ queued (later ++ .queue sequence file :: earlier) :=
      List.mem_filterMap.mpr ⟨_, List.mem_append_right _ List.mem_cons_self, rfl⟩
    have cares := ih before fun uri mem => kept uri (List.mem_cons_of_mem _ mem)
    refine cares.step (tracks.newest _ (tracks.begun _ mem)) move fun uri same => ?_
    rw [root_watch]
    exact kept uri (same ▸ List.mem_cons_self)

/-! ### The runs that timers start -/

/-- A timer that is to take the files has looked, and its sequence was the newest one then. -/
theorem exists_looked (ordered : Orderly moves) :
    ∀ s ∈ (watch (start cwd root program) moves).passed, ∃ between before,
      moves = between ++ .look s :: before ∧
        s ∈ (watch (start cwd root program) before).timers ∧
        IsGreatest {t | t ∈ marked before} s := by
  induction moves with
  | nil => nofun
  | cons move earlier ih =>
    intro s mem
    have old (mem : s ∈ (watch (start cwd root program) earlier).passed) : ∃ between before,
        move :: earlier = between ++ .look s :: before ∧
          s ∈ (watch (start cwd root program) before).timers ∧
          IsGreatest {t | t ∈ marked before} s := by
      obtain ⟨between, before, split, looked⟩ := ih ordered.tail s mem
      exact ⟨move :: between, before, by rw [split, List.cons_append], looked⟩
    rw [watch] at mem
    cases move with
    | mark | queue | forget | conclude => exact old mem
    | look sequence =>
      have tracks := tracks_watch cwd root program ordered.tail
      have did := step_looked (watch (start cwd root program) earlier) sequence
      generalize (watch (start cwd root program) earlier).step (.look sequence) = v at did mem
      cases did with
      | out | ended => exact old mem
      | passed running newest =>
        -- It has looked just now, or it had before.
        rcases List.mem_cons.mp mem with rfl | mem
        · have begun := tracks.begun _ (tracks.started _ (List.mem_append_left _ running))
          exact ⟨[], earlier, rfl, running, newest ▸ tracks.isGreatest begun⟩
        · exact old mem
    | take sequence =>
      have did := step_took (watch (start cwd root program) earlier) sequence
      generalize (watch (start cwd root program) earlier).step (.take sequence) = v at did mem
      cases did with
      | out => exact old mem
      | idle | started => exact old (List.mem_of_mem_erase mem)

/-- A run was started by a timer that looked after some moves, and took the files after some more. -/
structure Launch.Began (l : Launch) (c : CompilerChannel) (between before : List Move) : Prop where
  running : l.sequence ∈ (watch c before).timers
  due : l.sequence ∈ (watch c (between ++ .look l.sequence :: before)).passed
  looked : IsGreatest {s | s ∈ marked before} l.sequence
  taken : IsGreatest {s | s ∈ marked (between ++ before)} l.newest
  /-- It still was the newest one, if no trigger came in between. -/
  current : marked between = [] → l.sequence = l.newest

theorem launches_began (ordered : Orderly moves) :
    ∀ l ∈ (watch (start cwd root program) moves).launches, ∃ after between before,
      moves = after ++ .take l.sequence :: (between ++ .look l.sequence :: before) ∧
        l.Began (start cwd root program) between before := by
  induction moves with
  | nil => nofun
  | cons move earlier ih =>
    intro l mem
    have old (mem : l ∈ (watch (start cwd root program) earlier).launches) :
        ∃ after between before,
          move :: earlier = after ++ .take l.sequence :: (between ++ .look l.sequence :: before) ∧
            l.Began (start cwd root program) between before := by
      obtain ⟨after, between, before, split, began⟩ := ih ordered.tail l mem
      exact ⟨move :: after, between, before, by rw [split, List.cons_append], began⟩
    rw [watch] at mem
    cases move with
    | mark | queue | forget | conclude => exact old mem
    | look sequence =>
      have did := step_looked (watch (start cwd root program) earlier) sequence
      generalize (watch (start cwd root program) earlier).step (.look sequence) = v at did mem
      cases did <;> exact old mem
    | take sequence =>
      have tracks := tracks_watch cwd root program ordered.tail
      have did := step_took (watch (start cwd root program) earlier) sequence
      generalize (watch (start cwd root program) earlier).step (.take sequence) = v at did mem
      cases did with
      | out | idle => exact old mem
      | started due =>
        rcases List.mem_cons.mp mem with rfl | mem
        · obtain ⟨between, before, split, running, looked⟩ :=
            exists_looked ordered.tail sequence due
          have begun := tracks.begun _ (tracks.started _ (List.mem_append_right _ due))
          have taken := tracks.isGreatest begun
          -- Between the look and now only the moves in between can have taken a sequence.
          have all : marked earlier = marked between ++ marked before := by
            simp [split, marked]
          refine ⟨[], between, before, by rw [split]; rfl, running, split ▸ due, looked, ?_, ?_⟩
          · rw [marked, List.filterMap_append]
            exact all ▸ taken
          · intro none_
            rw [all, none_] at taken
            exact looked.unique taken
        · exact old mem

/-- **What triggers come to.** Triggers come one after the other in the order of their sequences,
and timers run out, files are forgotten and runs end whenever they will.

* When all timers have come to an end, no file waits.
* Then each file of a trigger has been handed to a run that was started since, unless it was
  forgotten. The trigger is not newer than the newest one at the time when the run took its files.
* A run has the newest sequence that was taken when its timer looked. If no trigger came between
  that and the taking of the files, it still was the newest one then.
* No two runs have the same sequence. -/
theorem triggers_settle (cwd root program : Path) (moves : List Move) (ordered : Orderly moves) :
    let c := start cwd root program
    let w := watch c moves
    (Quiet c moves → w.channel.pending.isEmpty = true) ∧
    (Quiet c moves → ∀ later sequence file earlier,
      moves = later ++ .queue sequence file :: earlier →
      (∀ uri, .forget uri ∈ later → ¬ Means root uri file) →
      ∃ newer, w.launches = newer ++ (watch c (.queue sequence file :: earlier)).launches ∧
        ∃ l ∈ newer, sequence ≤ l.newest ∧ l.On file) ∧
    (∀ l ∈ w.launches, ∃ after between before,
      moves = after ++ .take l.sequence :: (between ++ .look l.sequence :: before) ∧
        l.Began c between before) ∧
    (w.launches.map Launch.sequence).Nodup := by
  intro c w
  have tracks : w.Tracks (marked moves) (queued moves) := tracks_watch cwd root program ordered
  have none_ (quiet : Quiet c moves) (file : Path) :
      ¬ w.channel.pending.contains file = true := by
    intro waiting
    -- None of those that would take the file is left.
    rcases tracks.waits file waiting with ⟨begun, fresh⟩ | running | due
    · exact fresh (quiet.through _ begun)
    · exact List.ne_nil_of_mem running quiet.timers
    · exact due quiet.passed
  refine ⟨fun quiet => Catalog.isEmpty_iff.mpr (none_ quiet), ?_, launches_began ordered,
    tracks.apart⟩
  rintro quiet later sequence file earlier rfl kept
  obtain ⟨newer, launches, cared⟩ : w.Cares (watch c (.queue sequence file :: earlier)) sequence
    file := cares_watch ordered kept
  exact ⟨newer, launches, cared.resolve_left (none_ quiet file)⟩

/-- Two files change, the second one is deleted, and the newer timer runs out first. -/
def deletedMeanwhile : List Move :=
  [.look 1, .take 2, .look 2, .forget "file:///p/src/B.elm", .queue 2 (.ofString "src/B.elm"),
    .mark 2, .queue 1 (.ofString "src/A.elm"), .mark 1]

/-- The timer of the deleted file starts the run on the other one. -/
theorem kept_file_taken :
    let c := start (.ofString "/") (.ofString "/p") (.ofString "elm")
    let w := watch c deletedMeanwhile
    Orderly deletedMeanwhile ∧ Quiet c deletedMeanwhile ∧
      ¬ Means (.ofString "/p") "file:///p/src/B.elm" (.ofString "src/A.elm") ∧
      w.channel.pending.isEmpty = true ∧
      ∃ l ∈ w.launches, 1 ≤ l.newest ∧ l.On (.ofString "src/A.elm") := by
  intro c w
  have ordered : Orderly deletedMeanwhile := by
    simp [deletedMeanwhile, Orderly, marked, queued]
  have quiet : Quiet c deletedMeanwhile :=
    ⟨by decide, by decide +kernel, by decide +kernel⟩
  have other : ¬ Means (.ofString "/p") "file:///p/src/B.elm" (.ofString "src/A.elm") := by
    rintro ⟨p, path, apart⟩
    have known : Uri.path? "file:///p/src/B.elm" = some (.ofString "/p/src/B.elm") := by
      decide +kernel
    have below : (Path.ofString "/p/src/B.elm").below? (.ofString "/p") =
        some (.ofString "src/B.elm") := by decide +kernel
    obtain rfl := Option.some.inj (known.symm.trans path)
    rcases apart with same | ⟨q, seen, same⟩
    · revert same
      decide +kernel
    · obtain rfl := Option.some.inj (below.symm.trans seen)
      revert same
      decide +kernel
  obtain ⟨empty, handed, -⟩ := triggers_settle (.ofString "/") (.ofString "/p") (.ofString "elm") _
    ordered
  obtain ⟨newer, launches, l, mem, later, on⟩ := handed quiet [.look 1, .take 2, .look 2,
    .forget "file:///p/src/B.elm", .queue 2 (.ofString "src/B.elm"), .mark 2] 1 _ [.mark 1] rfl
    fun uri mem => by
      obtain rfl : uri = "file:///p/src/B.elm" := by simpa using mem
      exact other
  refine ⟨ordered, quiet, other, empty quiet, l, ?_, later, on⟩
  rw [launches]
  exact List.mem_append_left _ mem

/-! ### Runs that do not compile, and runs that are late -/

/-- The compiler was run for a launch. -/
def Launch.Ran (l : Launch) (runner : Tool.Runner Id) (c : CompilerChannel) : Prop :=
  ∃ o, Id.run (Tool.run runner c.root (c.command l.files)) = .ok o

/-- Each file of a trigger, unless it was forgotten since, is on a run of its sequence or a newer
one that has a property. -/
def Served (c : CompilerChannel) (moves : List Move) (P : Launch → Prop) : Prop :=
  ∀ later sequence file earlier, moves = later ++ .queue sequence file :: earlier →
    (∀ uri, .forget uri ∈ later → ¬ Means c.root uri file) →
    ∃ l ∈ (watch c moves).launches, sequence ≤ l.sequence ∧ l.On file ∧ P l

/-- Runs commands where no tool can be started. -/
def runAbsent : Tool.Runner Id :=
  fun _ _ => .error "No such file or directory (os error 2)"

theorem run_runAbsent (directory : Path) (k : Tool.Command) :
    ∃ fault, Id.run (Tool.run runAbsent directory k) = .error fault := by
  unfold Tool.run
  split <;> exact ⟨_, rfl⟩

/-- A file changes, and its timer runs out. -/
def uninterrupted : List Move :=
  [.take 1, .look 1, .queue 1 (.ofString "src/A.elm"), .mark 1]

/-- Another file changes between the two moves of the timer. -/
def interrupted : List Move :=
  [.take 2, .look 2, .take 1, .queue 2 (.ofString "src/B.elm"), .mark 2, .look 1,
    .queue 1 (.ofString "src/A.elm"), .mark 1]

/-- **A file may be on no run that compiles it, and on none with its sequence.** A run whose
compiler does not start compiles nothing, and is not repeated. A run that takes the file of a
trigger that came after its timer had looked has an older sequence than the trigger. -/
theorem run_without_compiler_or_sequence :
    (¬ ∀ (runner : Tool.Runner Id) (cwd root program : Path) (moves : List Move), Orderly moves →
      Quiet (start cwd root program) moves →
      Served (start cwd root program) moves fun l => l.Ran runner (start cwd root program)) ∧
    (¬ ∀ (cwd root program : Path) (moves : List Move), Orderly moves →
      Quiet (start cwd root program) moves → Served (start cwd root program) moves fun _ => True) ∧
    ¬ ∀ (cwd root program : Path) (moves : List Move), Orderly moves →
      ∀ l ∈ (watch (start cwd root program) moves).launches, l.newest = l.sequence := by
  have ordered : Orderly interrupted := by
    simp [interrupted, Orderly, marked, queued]
  refine ⟨fun claimed => ?_, fun claimed => ?_, fun claimed => ?_⟩
  · have quiet : Quiet (start (.ofString "/") (.ofString "/p") (.ofString "elm")) uninterrupted :=
      ⟨by decide, by decide +kernel, by decide +kernel⟩
    obtain ⟨l, -, -, -, o, ran⟩ := claimed runAbsent _ _ _ uninterrupted
      (by simp [uninterrupted, Orderly, marked, queued]) quiet [.take 1, .look 1] 1 _ [.mark 1] rfl
      (by simp)
    obtain ⟨fault, absent⟩ := run_runAbsent (.ofString "/p")
      ((start (.ofString "/") (.ofString "/p") (.ofString "elm")).command l.files)
    cases absent.symm.trans ran
  · have quiet : Quiet (start (.ofString "/") (.ofString "/p") (.ofString "elm")) interrupted :=
      ⟨by decide, by decide +kernel, by decide +kernel⟩
    obtain ⟨l, mem, newer, -⟩ := claimed _ _ _ interrupted ordered quiet
      [.take 2, .look 2, .take 1] 2 _ [.mark 2, .look 1, .queue 1 (.ofString "src/A.elm"), .mark 1]
      rfl (by simp)
    have older : ∀ l ∈ (watch (start (.ofString "/") (.ofString "/p") (.ofString "elm"))
        interrupted).launches, l.sequence < 2 := by decide +kernel
    exact absurd newer (Nat.not_le_of_lt (older l mem))
  · have late : ∃ l ∈ (watch (start (.ofString "/") (.ofString "/p") (.ofString "elm"))
        interrupted).launches, l.newest ≠ l.sequence := by decide +kernel
    obtain ⟨l, mem, newer⟩ := late
    exact newer (claimed _ _ _ interrupted ordered l mem)

end ElmAssist.CompilerChannel
