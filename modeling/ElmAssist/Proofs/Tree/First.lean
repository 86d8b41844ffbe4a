import ElmAssist.Proofs.Tree.Walk
import Mathlib.Data.Nat.Find
import Mathlib.Order.Bounds.Basic

/-!
# Tree — First nodes

A search goes through nodes in source order and stops at the first that counts. `GivesFirst` says so
without saying how the search goes: it finds the least node of a set, and nothing only if the set is
empty. Searches are put together from smaller ones:

* `GivesFirst.or`: one search, and another one of later nodes if the first finds nothing.
* `givesFirst_find?`: a list of nodes in order, for those that pass a check.
* `givesFirst_findSome?`: a search for each of some nodes that stand one before the other, each
  within the subtree of its node.
-/

namespace ElmAssist.Tree

/-- A search finds the first node of a set. -/
def GivesFirst (found : Option NodeId) (s : Set Nat) : Prop :=
  ∀ b, found = some b ↔ IsLeast s b

namespace GivesFirst

variable {found : Option NodeId} {r s : Set Nat}

theorem congr (h : GivesFirst found s) (same : ∀ b, b ∈ r ↔ b ∈ s) : GivesFirst found r :=
  Set.ext same ▸ h

theorem mem (h : GivesFirst found s) {b : NodeId} (here : found = some b) : b ∈ s :=
  ((h b).mp here).1

/-- Nothing is found only when there is nothing to find. -/
theorem eq_none_iff (h : GivesFirst found s) : found = none ↔ ∀ b, b ∉ s := by
  classical
  constructor
  · intro nothing b hb
    have least : IsLeast s (Nat.find (p := (· ∈ s)) ⟨b, hb⟩) :=
      ⟨Nat.find_spec (p := (· ∈ s)) ⟨b, hb⟩, fun c hc => Nat.find_min' _ hc⟩
    exact nomatch nothing.symm.trans ((h _).mpr least)
  · intro empty
    cases here : found with
    | none => rfl
    | some b => exact absurd (h.mem here) (empty b)

/-- What the first search finds stands before all that the second one may find. -/
theorem or {other : Option NodeId} (hr : GivesFirst found r) (hs : GivesFirst other s)
    (before : ∀ b ∈ r, ∀ c ∈ s, b < c) : GivesFirst (found.or other) (r ∪ s) := by
  intro b
  cases here : found with
  | some c =>
    have first : IsLeast r c := (hr c).mp here
    have both : IsLeast (r ∪ s) c := by
      refine ⟨Or.inl first.1, fun d hd => ?_⟩
      rcases hd with hd | hd
      · exact first.2 hd
      · exact Nat.le_of_lt (before c first.1 d hd)
    rw [Option.some_or, Option.some_inj]
    constructor
    · rintro rfl
      exact both
    · intro least
      exact both.unique least
  | none =>
    have empty : r = ∅ := Set.eq_empty_iff_forall_notMem.mpr (hr.eq_none_iff.mp here)
    rw [Option.none_or, hs b, empty, Set.empty_union]

end GivesFirst

theorem givesFirst_none : GivesFirst none ∅ := fun b => by
  simp [IsLeast]

theorem givesFirst_some (b : NodeId) : GivesFirst (some b) {b} := fun c => by
  rw [Option.some_inj]
  constructor
  · rintro rfl
    exact isLeast_singleton
  · intro least
    exact (Set.mem_singleton_iff.mp least.1).symm

theorem givesFirst_ite {p : Prop} [Decidable p] (b : NodeId) :
    GivesFirst (if p then some b else none) {c | c = b ∧ p} := by
  split
  · rename_i holds
    exact (givesFirst_some b).congr fun c => and_iff_left holds
  · rename_i fails
    exact givesFirst_none.congr fun c => ⟨fun hc => absurd hc.2 fails, fun hc => absurd hc id⟩

/-- **The first of some nodes in order that passes a check.** -/
theorem givesFirst_find? {check : NodeId → Bool} : ∀ {nodes : List Nat},
    nodes.Pairwise (fun i j : Nat => i < j) →
      GivesFirst (nodes.find? check) {b | b ∈ nodes ∧ check b = true}
  | [], _ => givesFirst_none.congr (by simp)
  | i :: rest, order => by
    obtain ⟨first, later⟩ := List.pairwise_cons.mp order
    have split : (i :: rest).find? check = (if check i = true then some i else none).or
        (rest.find? check) := by
      rw [List.find?_cons]
      cases check i <;> rfl
    rw [split]
    refine ((givesFirst_ite i).or (givesFirst_find? later) ?_).congr fun b => ?_
    · rintro b ⟨rfl, -⟩ c ⟨hc, -⟩
      exact first c hc
    · have here : b = i ∧ check b = true ↔ b = i ∧ check i = true :=
        and_congr_right fun same => by rw [same]
      simp only [List.mem_cons, Set.mem_union, Set.mem_ofPred_eq, or_and_right, here]

/-- **The first that is found below any of some nodes**, when what is found for a node is in its
subtree. -/
theorem givesFirst_findSome? {t : Tree} (h : t.Linked) {search : NodeId → Option NodeId}
    {s : Nat → Set Nat} : ∀ {nodes : List Nat}, nodes.Pairwise t.Before →
      (∀ i ∈ nodes, GivesFirst (search i) (s i)) → (∀ i ∈ nodes, ∀ b ∈ s i, t.AtOrBelow i b) →
      GivesFirst (nodes.findSome? search) {b | ∃ i ∈ nodes, b ∈ s i}
  | [], _, _, _ => givesFirst_none.congr (by simp)
  | i :: rest, apart, gives, within => by
    obtain ⟨first, later⟩ := List.pairwise_cons.mp apart
    have split : (i :: rest).findSome? search = (search i).or (rest.findSome? search) := by
      rw [List.findSome?_cons]
      cases search i <;> rfl
    have next := givesFirst_findSome? h later (fun j hj => gives j (List.mem_cons_of_mem _ hj))
      fun j hj => within j (List.mem_cons_of_mem _ hj)
    rw [split]
    refine ((gives i List.mem_cons_self).or next ?_).congr (by simp)
    rintro b hb c ⟨j, hj, hc⟩
    have before : b < j := first j hj b (within i List.mem_cons_self b hb)
    exact Nat.lt_of_lt_of_le before
      (h.le_of_atOrBelow (within j (List.mem_cons_of_mem _ hj) c hc))

end ElmAssist.Tree
