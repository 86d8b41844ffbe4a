import ElmAssist.Channel.Compiler
import ElmAssist.Proofs.Board.Convergence
import ElmAssist.Proofs.Channel.Findings
import Mathlib.Data.List.Nodup

/-!
# Channel — Compiler runs that overlap

A run may take longer than the quiet that the next one waits for, so runs finish in any order, and
their reports arrive in any order. A report clears the files that its run compiled and those in
which the run that finished before it found something; of those the board keeps the list of the
latest run that names them.

* `mem_reports_iff`: the reports of runs that finish one after the other.
* `slot?_eq_some_iff`: a file has the list of the latest run that names it.
* `newest_run_shown_iff`: exactly when the files with problems are those of the newest run. They are
  if runs finish in the order in which they were started.
* `late_run_shown`: two runs of which the older one finishes last, after which they are not.
-/

namespace ElmAssist

/-- The reports of a channel among messages. -/
def Message.reports (c : Channel) (ms : List Message) : List Report :=
  ms.filterMap fun
    | .report r => if r.channel = c then some r else none
    | _ => none

theorem Message.lists_eq (uri : String) (c : Channel) (ms : List Message) :
    Message.lists uri c ms = (Message.reports c ms).filterMap (·.slot? uri c) := by
  rw [Message.lists, Message.reports, List.filterMap_filterMap]
  refine congrArg (List.filterMap · ms) (funext fun m => ?_)
  cases m with
  | report r =>
    by_cases same : r.channel = c
    · simp [Message.slot?, same]
    · simp [Message.slot?, Report.slot?, same]
  | forget | snapshot => rfl

namespace CompilerChannel

/-! ### Runs -/

/-- A run of the compiler: what it was started on, and what came of it. -/
structure Run where
  sequence : Nat
  files : List Path
  result : Except Fault Findings

/-- What a run found. A run that failed found nothing. -/
def Run.found (r : Run) : Findings :=
  r.result.toOption.getD .empty

/-- A run found problems in a file. -/
def Run.FindsIn (r : Run) (uri : String) : Prop :=
  r.found.listOf uri ≠ []

/-- A run finishes. -/
def conclude (c : CompilerChannel) (r : Run) : CompilerChannel × Report :=
  c.finish r.sequence r.files r.found

/-- To run is to compile, however long that takes, and then to finish with the channel as it is. -/
theorem run_eq_conclude {m : Type → Type} [Monad m] (runner : Tool.Runner m)
    (c : CompilerChannel) (sequence : Nat) (files : List Path) :
    c.run runner sequence files = do
      let result ← compile runner c files
      return c.conclude ⟨sequence, files, result⟩ := rfl

/-- The reports of runs that finish one after the other. -/
def reports (c : CompilerChannel) : List Run → List Report
  | [] => []
  | r :: rs => (c.conclude r).2 :: reports (c.conclude r).1 rs

/-- The files that the next report clears, after runs that finished. -/
def clears (c : CompilerChannel) (before : List Run) : List String :=
  (before.getLast?.map fun p => p.found.troubled).getD c.flagged

theorem clears_cons (c : CompilerChannel) (r : Run) (before : List Run) :
    c.clears (r :: before) = (c.conclude r).1.clears before := by
  unfold clears
  rw [List.getLast?_cons]
  cases before.getLast? <;> rfl

/-- **Each run reports what it found**, and clears the files it compiled and those of the run that
finished before it. -/
theorem mem_reports_iff {report : Report} : ∀ {runs : List Run} {c : CompilerChannel},
    report ∈ c.reports runs ↔ ∃ before r later, runs = before ++ r :: later ∧
      report = ⟨.compiler, r.sequence,
        r.found.withCleared (c.clears before ++ r.files.map c.uriOf)⟩
  | [], c => by simp [reports]
  | r :: rs, c => by
    rw [reports, List.mem_cons, mem_reports_iff]
    constructor
    · rintro (rfl | ⟨before, q, later, rfl, rfl⟩)
      · exact ⟨[], r, rs, rfl, rfl⟩
      · exact ⟨r :: before, q, later, rfl, by rw [clears_cons]; rfl⟩
    · rintro ⟨before, q, later, split, rfl⟩
      cases before with
      | nil =>
        obtain ⟨rfl, rfl⟩ := List.cons.inj split
        exact Or.inl rfl
      | cons p before =>
        obtain ⟨rfl, rfl⟩ := List.cons.inj split
        exact Or.inr ⟨before, q, later, rfl, by rw [clears_cons]; rfl⟩

/-- Of runs that finish one after the other, one names a file in its report: it found something
there, or compiled the file, or the run that finished before it found something there. -/
def Names (c : CompilerChannel) (runs : List Run) (r : Run) (uri : String) : Prop :=
  ∃ before later, runs = before ++ r :: later ∧
    (r.found.contains uri = true ∨ uri ∈ r.files.map c.uriOf ∨
      ∃ p, before.getLast? = some p ∧ p.FindsIn uri)

/-- The latest of the runs that name a file. -/
structure LatestToName (c : CompilerChannel) (runs : List Run) (r : Run) (uri : String) :
    Prop where
  names : c.Names runs r uri
  latest : ∀ q, c.Names runs q uri → q.sequence ≤ r.sequence

variable {cwd root program : Path} {runs : List Run} {r : Run} {uri : String}

theorem Names.mem {c : CompilerChannel} (names : c.Names runs r uri) : r ∈ runs := by
  obtain ⟨before, later, rfl, -⟩ := names
  exact List.mem_append_right _ List.mem_cons_self

/-- A run names the files in which it finds something. -/
theorem names_of_findsIn {c : CompilerChannel} (mem : r ∈ runs) (finds : r.FindsIn uri) :
    c.Names runs r uri := by
  obtain ⟨before, later, split⟩ := List.append_of_mem mem
  exact ⟨before, later, split, Or.inl (Findings.contains_of_listOf finds)⟩

/-- The list that a run's report has for a file. -/
theorem slot?_of_reports (slot : Slot) :
    (∃ report ∈ (start cwd root program).reports runs, report.slot? uri .compiler = some slot) ↔
      ∃ r, (start cwd root program).Names runs r uri ∧ slot = ⟨r.sequence, r.found.listOf uri⟩ := by
  have cleared : ∀ before : List Run, uri ∈ (start cwd root program).clears before ↔
      ∃ p, before.getLast? = some p ∧ p.FindsIn uri := fun before => by
    unfold clears
    cases before.getLast? with
    | none => simp [start]
    | some p => simp [Findings.mem_troubled_iff, Run.FindsIn]
  obtain ⟨sequence, ds⟩ := slot
  simp only [mem_reports_iff, Report.slot?_eq_some_iff]
  constructor
  · rintro ⟨_, ⟨before, r, later, split, rfl⟩, -, rfl, list⟩
    obtain ⟨named, rfl⟩ := Findings.get?_withCleared_eq_some_iff.mp list
    rw [List.mem_append, cleared] at named
    exact ⟨r, ⟨before, later, split, named.imp_right Or.symm⟩, rfl⟩
  · rintro ⟨r, ⟨before, later, split, named⟩, same⟩
    obtain ⟨rfl, rfl⟩ := Slot.mk.inj same
    refine ⟨_, ⟨before, r, later, split, rfl⟩, rfl, rfl, ?_⟩
    refine Findings.get?_withCleared_eq_some_iff.mpr ⟨?_, rfl⟩
    rw [List.mem_append, cleared]
    exact named.imp_right Or.symm

/-! ### All reports have arrived -/

/-- Runs of a channel that finish in the order of the list, and messages with their reports, in any
order and between those of other channels. No file is removed. -/
structure Delivered (c : CompilerChannel) (runs : List Run) (ms : List Message) : Prop where
  distinct : (runs.map Run.sequence).Nodup
  arrived : (Message.reports .compiler ms).Perm (c.reports runs)
  stays : ∀ uri s, .forget uri s ∉ ms

variable {ms : List Message}

section Delivered

variable (h : (start cwd root program).Delivered runs ms)
include h

theorem Delivered.eq {q : Run} (hr : r ∈ runs) (hq : q ∈ runs) (same : r.sequence = q.sequence) :
    r = q :=
  List.inj_on_of_nodup_map h.distinct hr hq same

/-- **A file has the list of the latest run that names it.** -/
theorem slot?_eq_some_iff {slot : Slot} :
    (Board.after ms).slot? uri .compiler = some slot ↔
      ∃ r, (start cwd root program).LatestToName runs r uri ∧
        slot = ⟨r.sequence, r.found.listOf uri⟩ := by
  have unmarked : ((Board.after []).standing uri).mark = none := rfl
  have offered : (Board.after ms).slot? uri .compiler =
      newest (Message.lists uri .compiler ms) := by
    have slots := (Board.slot?_append unmarked (h.stays uri)).2 .compiler
    rwa [List.nil_append] at slots
  have mem : ∀ l, l ∈ Message.lists uri .compiler ms ↔
      ∃ r, (start cwd root program).Names runs r uri ∧ l = ⟨r.sequence, r.found.listOf uri⟩ := by
    intro l
    rw [Message.lists_eq, List.mem_filterMap, ← slot?_of_reports]
    simp only [h.arrived.mem_iff]
  -- Runs have one report each, so lists of one sequence are of one run.
  have distinct : ∀ l ∈ Message.lists uri .compiler ms,
      ∀ k ∈ Message.lists uri .compiler ms, l.sequence = k.sequence → l = k := by
    intro l hl k hk same
    obtain ⟨r, hr, rfl⟩ := (mem l).mp hl
    obtain ⟨q, hq, rfl⟩ := (mem k).mp hk
    rw [h.eq hr.mem hq.mem same]
  rw [offered, newest_eq_some_iff distinct, mem]
  constructor
  · rintro ⟨⟨r, names, rfl⟩, last⟩
    exact ⟨r, ⟨names, fun q hq => last ⟨_, _⟩ ((mem _).mpr ⟨q, hq, rfl⟩)⟩, rfl⟩
  · rintro ⟨r, ⟨names, latest⟩, rfl⟩
    refine ⟨⟨r, names, rfl⟩, fun l hl => ?_⟩
    obtain ⟨q, hq, rfl⟩ := (mem l).mp hl
    exact latest q hq

theorem flags_iff : (Board.after ms).Flags uri .compiler ↔
    ∃ r, (start cwd root program).LatestToName runs r uri ∧ r.FindsIn uri := by
  unfold Board.Flags
  simp only [slot?_eq_some_iff h]
  constructor
  · rintro ⟨_, ⟨r, latest, rfl⟩, finds⟩
    exact ⟨r, latest, finds⟩
  · rintro ⟨r, latest, finds⟩
    exact ⟨_, ⟨r, latest, rfl⟩, finds⟩

/-- If runs finish in the order of their sequences, the latest run to name a file in which it finds
something is the last one: the next run would have named the file again. -/
theorem last_of_ordered (ordered : runs.Pairwise fun r q => r.sequence < q.sequence)
    (latest : (start cwd root program).LatestToName runs r uri) (finds : r.FindsIn uri) :
    ∀ q ∈ runs, q.sequence ≤ r.sequence := by
  obtain ⟨⟨before, later, rfl, -⟩, latest⟩ := latest
  cases later with
  | nil =>
    intro q hq
    rcases List.mem_append.mp hq with hq | hq
    · exact Nat.le_of_lt ((List.pairwise_append.mp ordered).2.2 q hq r List.mem_cons_self)
    · exact List.mem_singleton.mp hq ▸ Nat.le_refl _
  | cons next later =>
    have names : (start cwd root program).Names (before ++ r :: next :: later) next uri :=
      ⟨before ++ [r], later, by simp, Or.inr (Or.inr ⟨r, by simp, finds⟩)⟩
    have after : r.sequence < next.sequence :=
      (List.pairwise_cons.mp (List.pairwise_append.mp ordered).2.1).1 next List.mem_cons_self
    exact absurd (latest next names) (Nat.not_le_of_lt after)

end Delivered

/-- **When the newest run decides.** Once all runs have reported, the files in which the newest one
found something have its list. They are all the files with problems exactly when no other run found
something in a file and is the latest to name it; so it is if runs finish in the order of their
sequences. -/
theorem newest_run_shown_iff (h : (start cwd root program).Delivered runs ms) {newest : Run}
    (mem : newest ∈ runs) (last : ∀ r ∈ runs, r.sequence ≤ newest.sequence) :
    (∀ uri, newest.FindsIn uri → (Board.after ms).slot? uri .compiler =
      some ⟨newest.sequence, newest.found.listOf uri⟩) ∧
    ((∀ uri, (Board.after ms).Flags uri .compiler ↔ newest.FindsIn uri) ↔
      ∀ uri r, (start cwd root program).LatestToName runs r uri → r.FindsIn uri → r = newest) ∧
    ((runs.Pairwise fun r q => r.sequence < q.sequence) →
      ∀ uri, (Board.after ms).Flags uri .compiler ↔ newest.FindsIn uri) := by
  have latest : ∀ uri, newest.FindsIn uri →
      (start cwd root program).LatestToName runs newest uri := fun uri finds =>
    ⟨names_of_findsIn mem finds, fun q names => last q names.mem⟩
  have only : (∀ uri r, (start cwd root program).LatestToName runs r uri → r.FindsIn uri →
      r = newest) → ∀ uri, (Board.after ms).Flags uri .compiler ↔ newest.FindsIn uri := by
    intro others uri
    rw [flags_iff h]
    constructor
    · rintro ⟨r, latest, finds⟩
      exact others uri r latest finds ▸ finds
    · intro finds
      exact ⟨newest, latest uri finds, finds⟩
  refine ⟨fun uri finds => (slot?_eq_some_iff h).mpr ⟨newest, latest uri finds, rfl⟩,
    ⟨fun shown uri r other finds => ?_, only⟩, fun ordered => only fun uri r other finds => ?_⟩
  · -- What is shown is found by the newest run too, which then names the file.
    have finds' : newest.FindsIn uri := (shown uri).mp ((flags_iff h).mpr ⟨r, other, finds⟩)
    have le := other.latest newest (latest uri finds').names
    exact h.eq other.names.mem mem (Nat.le_antisymm (last r other.names.mem) le)
  · have le := last_of_ordered h ordered other finds newest mem
    exact h.eq other.names.mem mem (Nat.le_antisymm (last r other.names.mem) le)

/-- A run on one file that finds a problem in another one. -/
def findingRun : Run :=
  ⟨1, [.ofString "src/A.elm"],
    .ok (.ofList [("file:///p/src/C.elm", [⟨.compiler, ⟨⟨0, 0⟩, ⟨0, 1⟩⟩, .error, "T - m"⟩])])⟩

/-- A later run on the same file that finds nothing. -/
def cleanRun : Run :=
  ⟨2, [.ofString "src/A.elm"], .ok .empty⟩

/-- When the older run finishes first, the newer one clears what it found. -/
theorem finding_cleared :
    let c := start (.ofString "/") (.ofString "/p") (.ofString "elm")
    let ms := (c.reports [findingRun, cleanRun]).map Message.report
    c.Delivered [findingRun, cleanRun] ms ∧ ∀ uri, ¬ (Board.after ms).Flags uri .compiler := by
  intro c ms
  have delivered : c.Delivered [findingRun, cleanRun] ms :=
    ⟨by decide, .of_eq rfl, fun uri s mem => by simp [ms] at mem⟩
  have mem : cleanRun ∈ [findingRun, cleanRun] := List.mem_cons_of_mem _ List.mem_cons_self
  have shown := (newest_run_shown_iff delivered mem (by decide)).2.2 (by simp; decide)
  exact ⟨delivered, fun uri flags => (shown uri).mp flags rfl⟩

/-- **The files with problems are not always those of the newest run.** The older run finishes last:
the newer one knew nothing of its problem and cleared only the file it compiled. -/
theorem late_run_shown :
    ¬ ∀ (cwd root program : Path) (runs : List Run) (ms : List Message),
      (start cwd root program).Delivered runs ms →
      ∀ newest ∈ runs, (∀ r ∈ runs, r.sequence ≤ newest.sequence) →
        ∀ uri, (Board.after ms).Flags uri .compiler ↔ newest.FindsIn uri := by
  intro decided
  let runs : List Run := [cleanRun, findingRun]
  let ms : List Message :=
    ((start (.ofString "/") (.ofString "/p") (.ofString "elm")).reports runs).map .report
  have delivered : (start (.ofString "/") (.ofString "/p") (.ofString "elm")).Delivered runs ms :=
    ⟨by decide, .of_eq rfl, fun uri s mem => by simp [ms] at mem⟩
  have shown : (Board.after ms).slot? "file:///p/src/C.elm" .compiler =
      some ⟨1, [⟨.compiler, ⟨⟨0, 0⟩, ⟨0, 1⟩⟩, .error, "T - m"⟩]⟩ := by decide +kernel
  have last : ∀ r ∈ runs, r.sequence ≤ cleanRun.sequence := by decide
  have finds := (decided _ _ _ runs ms delivered cleanRun List.mem_cons_self last
    "file:///p/src/C.elm").mp ⟨_, shown, nofun⟩
  exact finds rfl

end CompilerChannel

end ElmAssist
