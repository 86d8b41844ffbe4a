import ElmAssist.Proofs.Board.Newest
import ElmAssist.Proofs.Board.Table

/-!
# Board — Reports in any order

Three channels report at their own times, so the order in which reports arrive is open. As long as
no file is removed and no two reports have a list for the same slot from the same run, the order
makes no difference, and neither does a report that arrives again.

* `applyAll_eq_of_mem_iff`: the board depends on which reports arrived, and on nothing else.
* `Settled`: what the board holds and shows once the reports have arrived.
* `applyAll_settles`: in every order, the reports lead to the same, settled board.
-/

namespace ElmAssist

namespace Board

/-! ### Reports -/

/-- The board after reports, from one that has seen none. -/
def applyAll (reports : List Report) : Board :=
  reports.foldl (fun b r => (b.apply r).1) empty

theorem applyAll_concat (reports : List Report) (r : Report) :
    applyAll (reports ++ [r]) = ((applyAll reports).apply r).1 := by
  unfold applyAll
  rw [List.foldl_append]
  rfl

theorem applyAll_eq_after (reports : List Report) :
    applyAll reports = after (reports.map .report) := by
  induction reports using List.reverseRecOn with
  | nil => rfl
  | append_singleton reports r ih =>
    rw [applyAll_concat, ih, List.map_append, List.map_cons, List.map_nil, after_concat]
    rfl

/-- Reports mark no file, and offer their lists to the slots. -/
theorem slot?_applyAll (reports : List Report) (uri : String) :
    ((applyAll reports).standing uri).mark = none ∧
      ∀ c, (applyAll reports).slot? uri c = newest (reports.filterMap (·.slot? uri c)) := by
  have unmarked : ((after []).standing uri).mark = none := rfl
  have stays : ∀ t, .forget uri t ∉ reports.map Message.report := by simp
  have h := slot?_append unmarked stays
  rw [List.nil_append, ← applyAll_eq_after] at h
  refine ⟨h.1, fun c => (h.2 c).trans ?_⟩
  rw [Message.lists, List.filterMap_map]
  exact congrArg (fun held => List.foldl Slot.over held _) (Slots.get_empty c)

theorem sound_applyAll (reports : List Report) (uri : String) :
    ((applyAll reports).standing uri).Sound :=
  applyAll_eq_after reports ▸ sound_after ..

/-- No two of the reports have a list for the same slot of a file from the same run. -/
def Distinct (reports : List Report) : Prop :=
  reports.Pairwise fun r q => r.channel = q.channel → r.sequence = q.sequence →
    ∀ uri, ¬ (r.files.contains uri = true ∧ q.files.contains uri = true)

end Board

namespace Report

theorem slot?_eq_some_iff {r : Report} {uri : String} {c : Channel} {slot : Slot} :
    r.slot? uri c = some slot ↔
      r.channel = c ∧ r.sequence = slot.sequence ∧ r.files.get? uri = some slot.diagnostics := by
  obtain ⟨sequence, ds⟩ := slot
  unfold slot?
  split
  · rename_i same
    simp only [Option.map_eq_some_iff, Slot.mk.injEq, same, true_and]
    exact ⟨fun ⟨_, e, s, d⟩ => ⟨s, d ▸ e⟩, fun ⟨s, e⟩ => ⟨ds, e, s, rfl⟩⟩
  · rename_i other
    simp only [reduceCtorEq, other, false_and]

/-- Where both reports have a list for a slot, it is one list or they are of different runs. -/
def Agrees (r q : Report) : Prop :=
  ∀ uri c l k, r.slot? uri c = some l → q.slot? uri c = some k → l.sequence = k.sequence → l = k

theorem Agrees.refl (r : Report) : r.Agrees r :=
  fun _ _ _ _ hl hk _ => Option.some.inj (hl.symm.trans hk)

theorem Agrees.symm {r q : Report} (h : r.Agrees q) : q.Agrees r :=
  fun uri c l k hl hk e => (h uri c k l hk hl e.symm).symm

end Report

namespace Board

/-- Any two of the reports agree. -/
def Agree (reports : List Report) : Prop :=
  ∀ r ∈ reports, ∀ q ∈ reports, r.Agrees q

theorem Agree.lists {reports : List Report} (h : Agree reports) (uri : String) (c : Channel) :
    ∀ l ∈ reports.filterMap (·.slot? uri c), ∀ k ∈ reports.filterMap (·.slot? uri c),
      l.sequence = k.sequence → l = k := by
  intro l hl k hk e
  obtain ⟨r, hr, hl⟩ := List.mem_filterMap.mp hl
  obtain ⟨q, hq, hk⟩ := List.mem_filterMap.mp hk
  exact h r hr q hq uri c l k hl hk e

theorem Distinct.agree {reports : List Report} (h : Distinct reports) : Agree reports := by
  have pairs : reports.Pairwise Report.Agrees := h.imp fun {r q} apart uri c l k hl hk e => by
    obtain ⟨rc, rs, rf⟩ := Report.slot?_eq_some_iff.mp hl
    obtain ⟨qc, qs, qf⟩ := Report.slot?_eq_some_iff.mp hk
    exact absurd ⟨Catalog.contains_of_get? rf, Catalog.contains_of_get? qf⟩
      (apart (rc.trans qc.symm) (rs.trans (e.trans qs.symm)) uri)
  have turned : reports.Pairwise (flip Report.Agrees) := pairs.imp fun h => h.symm
  exact pairs.forall_of_forall_of_flip (fun r _ => .refl r) turned

/-- **The board depends on which reports arrived**, not on their order or on how often. -/
theorem applyAll_eq_of_mem_iff {reports delivered : List Report} (agree : Agree reports)
    (same : ∀ r, r ∈ delivered ↔ r ∈ reports) : applyAll delivered = applyAll reports := by
  have members : ∀ uri c l, l ∈ delivered.filterMap (·.slot? uri c) ↔
      l ∈ reports.filterMap (·.slot? uri c) := fun uri c l => by
    simp only [List.mem_filterMap, same]
  -- Without removals no file is marked, so sound standings are told apart by their slots alone.
  refine ext_standing fun uri => ?_
  obtain ⟨unmarked, slots⟩ := slot?_applyAll delivered uri
  obtain ⟨unmarked', slots'⟩ := slot?_applyAll reports uri
  refine (sound_applyAll ..).ext (sound_applyAll ..) (unmarked.trans unmarked'.symm) fun c => ?_
  rw [← slot?_eq_standing, ← slot?_eq_standing, slots c, slots' c]
  refine Option.ext fun slot => ?_
  rw [newest_eq_some_iff (agree.lists uri c), newest_eq_some_iff fun l hl k hk =>
    agree.lists uri c l ((members uri c l).mp hl) k ((members uri c k).mp hk)]
  simp only [members]

/-! ### The settled board -/

/-- What a board holds and shows once the reports have arrived.
* A slot has the list of the channel's latest report that names the file, and is empty if there is
  none.
* Exactly the files that some report names are shown, each once, in the byte order of their uris.
* A file is shown with the lists of the linter, of the live check and of the compiler, in turn. -/
structure Settled (reports : List Report) (b : Board) : Prop where
  held : ∀ uri c slot, b.slot? uri c = some slot ↔
    ∃ r ∈ reports, r.channel = c ∧ r.files.get? uri = some slot.diagnostics ∧
      r.sequence = slot.sequence ∧
      ∀ q ∈ reports, q.channel = c → q.files.contains uri = true → q.sequence ≤ r.sequence
  vacant : ∀ uri c, b.slot? uri c = none ↔
    ∀ r ∈ reports, r.channel = c → r.files.contains uri = false
  order : (b.merged.map FileDiagnostics.uri).Pairwise fun u v => Text.encode u < Text.encode v
  shown : ∀ uri, uri ∈ b.merged.map FileDiagnostics.uri ↔
    ∃ r ∈ reports, r.files.contains uri = true
  merged : ∀ f ∈ b.merged, f.diagnostics =
    ((b.slot? f.uri .linter).map Slot.diagnostics).getD [] ++
      ((b.slot? f.uri .live).map Slot.diagnostics).getD [] ++
      ((b.slot? f.uri .compiler).map Slot.diagnostics).getD []

/-- A slot is empty exactly when no report has a list for it. -/
theorem slot?_applyAll_eq_none_iff (reports : List Report) (uri : String) (c : Channel) :
    (applyAll reports).slot? uri c = none ↔
      ∀ r ∈ reports, r.channel = c → r.files.contains uri = false := by
  rw [(slot?_applyAll reports uri).2 c, newest_eq_none_iff, List.filterMap_eq_nil_iff]
  refine forall₂_congr fun r _ => ?_
  rw [Report.slot?, Catalog.contains_eq_isSome]
  by_cases same : r.channel = c
  · cases r.files.get? uri <;> simp [same]
  · simp [same]

theorem settled_applyAll {reports : List Report} (agree : Agree reports) :
    Settled reports (applyAll reports) where
  held uri c slot := by
    rw [(slot?_applyAll reports uri).2 c, newest_eq_some_iff (agree.lists uri c)]
    simp only [List.mem_filterMap, Report.slot?_eq_some_iff]
    constructor
    · rintro ⟨⟨r, hr, rc, rs, rf⟩, last⟩
      refine ⟨r, hr, rc, rf, rs, fun q hq qc named => ?_⟩
      obtain ⟨ds, qf⟩ := Option.isSome_iff_exists.mp named
      exact rs ▸ last ⟨q.sequence, ds⟩ ⟨q, hq, qc, rfl, qf⟩
    · rintro ⟨r, hr, rc, rf, rs, last⟩
      refine ⟨⟨r, hr, rc, rs, rf⟩, ?_⟩
      rintro l ⟨q, hq, qc, qs, qf⟩
      rw [← qs, ← rs]
      exact last q hq qc (Catalog.contains_of_get? qf)
  vacant uri c := slot?_applyAll_eq_none_iff reports uri c
  order := merged_increasing _
  shown uri := by
    have sound := sound_applyAll reports uri
    rw [mem_uris_merged_iff sound, Ne, sound.slots_eq_none_iff]
    simp only [← slot?_eq_standing, slot?_applyAll_eq_none_iff]
    constructor
    · intro some_
      by_contra none_
      refine some_ fun c r hr _ => ?_
      exact Bool.eq_false_iff.mpr fun named => none_ ⟨r, hr, named⟩
    · rintro ⟨r, hr, named⟩ vacant
      exact Bool.false_ne_true ((vacant r.channel r hr rfl).symm.trans named)
  merged f mem := by
    obtain ⟨slots, held, -, e⟩ := mem_merged_iff.mp mem
    rw [← e, Slots.merge_eq, slot?, slot?, slot?, slotsOf, held]
    rfl

/-- **Every order settles.** Reports of which no two have a list for the same slot from the same
run lead to the same board in every order, and that board is settled. A report that arrives again,
after however many of the others and however often each of them came, changes nothing. -/
theorem applyAll_settles {reports : List Report} (distinct : Distinct reports) :
    (∀ delivered, delivered.Perm reports →
      applyAll delivered = applyAll reports ∧ Settled reports (applyAll delivered)) ∧
    ∀ delivered, (∀ r ∈ delivered, r ∈ reports) → ∀ r ∈ delivered,
      ((applyAll delivered).apply r).1 = applyAll delivered := by
  have agree := distinct.agree
  constructor
  · intro delivered perm
    have same : applyAll delivered = applyAll reports :=
      applyAll_eq_of_mem_iff agree fun _ => perm.mem_iff
    exact ⟨same, same ▸ settled_applyAll agree⟩
  · intro delivered among r again
    have agree' : Agree delivered := fun p hp q hq => agree p (among p hp) q (among q hq)
    rw [← applyAll_concat]
    refine applyAll_eq_of_mem_iff agree' fun q => ?_
    rw [List.mem_append, List.mem_singleton]
    exact ⟨fun h => h.elim id (· ▸ again), Or.inl⟩

/-- A run of the compiler that takes its time, on two files. -/
def slowCompile : Report :=
  ⟨.compiler, 3, .ofList [("file:///A.elm",
    [⟨.compiler, ⟨⟨0, 0⟩, ⟨0, 1⟩⟩, .error, "slow"⟩]), ("file:///B.elm", [])]⟩

/-- A later run, on one of the files. -/
def quickCompile : Report :=
  ⟨.compiler, 5, .ofList [("file:///B.elm",
    [⟨.compiler, ⟨⟨0, 0⟩, ⟨0, 1⟩⟩, .error, "quick"⟩])]⟩

/-- The slow run counts for the one file and is late for the other. -/
theorem slow_compile_settles :
    Distinct [slowCompile, quickCompile] ∧
      applyAll [quickCompile, slowCompile] = applyAll [slowCompile, quickCompile] ∧
      Settled [slowCompile, quickCompile] (applyAll [quickCompile, slowCompile]) ∧
      ((applyAll [quickCompile, slowCompile]).apply slowCompile).1 =
        applyAll [quickCompile, slowCompile] := by
  have distinct : Distinct [slowCompile, quickCompile] := by
    rw [Distinct, List.pairwise_pair]
    exact fun _ e => absurd e (by decide)
  obtain ⟨inEveryOrder, again⟩ := applyAll_settles distinct
  obtain ⟨same, settled⟩ := inEveryOrder _ (.swap slowCompile quickCompile [])
  exact ⟨distinct, same, settled, again _ (by simp) _ (by simp)⟩

end Board

end ElmAssist
