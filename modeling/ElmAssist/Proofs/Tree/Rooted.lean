import ElmAssist.Proofs.Tree.Walk
import Mathlib.Data.List.Sort

/-!
# Tree — Trees with one root

A parser lists the root of its tree first, and everything else deeper. All nodes are then at or
below the root, so a walk from the root visits each of them once.

* `Rooted`: rows of which the first is the root of all.
* `atOrBelow_root`: every node is at or below the root.
* `all_eq_range`: a walk from the root visits the nodes in the order of their indices.
* `mem_ancestors_iff`: the ancestors of a node are the nodes above it.
-/

namespace ElmAssist.Tree

variable {t : Tree} {text : String} {rows : List Row}

/-- The first row is the root: all others are deeper. -/
def Rooted : List Row → Prop
  | [] => False
  | r :: rest => ∀ q ∈ rest, r.depth < q.depth

instance : DecidablePred Rooted
  | [] => inferInstanceAs (Decidable False)
  | r :: rest => inferInstanceAs (Decidable (∀ q ∈ rest, r.depth < q.depth))

theorem size_ofRows (text : String) (rows : List Row) : (ofRows text rows).size = rows.length := by
  simp [size, ofRows, parents_eq]

/-- **The ancestors of a node are the nodes above it.** -/
theorem Linked.mem_ancestors_iff (h : t.Linked) {a : NodeId} (i : Nat) :
    a ∈ t.ancestors i ↔ t.Above a i := by
  -- A parent stands before its children.
  induction i using Nat.strong_induction_on with
  | _ i ih =>
    rw [h.ancestors_eq, above_iff]
    cases up : t.parent? i with
    | none => simp
    | some p => simp [ih p (h.parent_lt up)]

/-- Of two nodes at or above one, the first is at or above the second, or the second above the
first. -/
theorem AtOrBelow.chain {m n i : NodeId} (hm : t.AtOrBelow m i) (hn : t.AtOrBelow n i) :
    t.AtOrBelow m n ∨ t.Above n m := by
  rcases hm with rfl | above
  · exact hn.imp (fun same => Or.inl same.symm) id
  · rcases hn with rfl | above'
    · exact Or.inl (Or.inr above)
    · rcases above.chain above' with rfl | upper | upper
      · exact Or.inl (Or.inl rfl)
      · exact Or.inl (Or.inr upper)
      · exact Or.inr upper

namespace Rooted

theorem pos (rooted : Rooted rows) : 0 < rows.length := by
  cases rows with
  | nil => exact absurd rooted id
  | cons => exact Nat.succ_pos _

theorem depth_lt (rooted : Rooted rows) {i : Nat} (later : 0 < i) (inside : i < rows.length) :
    depthIn rows root < depthIn rows i := by
  cases rows with
  | nil => exact absurd rooted id
  | cons r rest =>
    obtain ⟨j, rfl⟩ := Nat.exists_eq_succ_of_ne_zero (Nat.ne_of_gt later)
    have within : j < rest.length := Nat.lt_of_succ_lt_succ inside
    simpa [depthIn, root, within] using rooted rest[j] (List.getElem_mem within)

/-- Only the root is without a parent. -/
theorem exists_parent (rooted : Rooted rows) {i : Nat} (later : 0 < i)
    (inside : i < rows.length) : ∃ p, (ofRows text rows).parent? i = some p := by
  obtain ⟨p, near, -⟩ := exists_nearest (rooted.depth_lt later inside) later
  refine ⟨p, ?_⟩
  have row : rows[i]? = some rows[i] := List.getElem?_eq_getElem inside
  rw [parent?_ofRows, parentIn, row, Option.bind_some, depth_eq row]
  exact near

/-- **Every node is at or below the root.** -/
theorem atOrBelow_root (rooted : Rooted rows) (i : Nat) (inside : i < rows.length) :
    (ofRows text rows).AtOrBelow root i := by
  induction i using Nat.strong_induction_on with
  | _ i ih =>
    rcases Nat.eq_zero_or_pos i with rfl | later
    · exact Or.inl rfl
    · obtain ⟨p, up⟩ := rooted.exists_parent later inside
      have before : p < i := (linked_ofRows text rows).parent_lt up
      rcases ih p before (Nat.lt_trans before inside) with rfl | above
      · exact Or.inr (.parent up)
      · exact Or.inr (.further up above)

/-- **A walk from the root visits the nodes in the order of their indices.** -/
theorem all_eq_range (rooted : Rooted rows) :
    (ofRows text rows).all = List.range (ofRows text rows).size := by
  have linked := linked_ofRows text rows
  refine List.Pairwise.eq_of_mem_iff (linked.descendants_increasing root) List.pairwise_lt_range ?_
  intro i
  rw [all, linked.mem_descendants_iff, List.mem_range, size_ofRows]
  constructor
  · rintro ⟨inside, rfl | above⟩
    · exact inside
    · exact size_ofRows text rows ▸ above.lt_size
  · exact fun inside => ⟨rooted.pos, rooted.atOrBelow_root i inside⟩

end Rooted

end ElmAssist.Tree
