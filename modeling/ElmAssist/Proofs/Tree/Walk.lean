import ElmAssist.Proofs.Tree.Links
import ElmAssist.Tree.Walk

/-!
# Tree — What walks visit

The walks of a tree take fuel, one unit for each node of the tree. In a linked tree that is enough:

* `ancestors_eq`: the nodes around a node are its parent and the nodes around that.
* `mem_descendants_iff`: the nodes of a subtree are its root and all that has it above.
* `descendants_increasing`: they are visited in source order, which is the order of their indices.

What stands above a node is a chain (`Above.chain`), and a subtree has no gaps (`Above.between`), so
the subtree of a child ends before the next child (`children_before`).
-/

namespace ElmAssist.Tree

variable {t : Tree}

/-! ### Above and below -/

/-- `a` is around `i`, at some distance. -/
inductive Above (t : Tree) (a : NodeId) : NodeId → Prop
  | parent {i : NodeId} : t.parent? i = some a → Above t a i
  | further {i p : NodeId} : t.parent? i = some p → Above t a p → Above t a i

/-- `d` is `i` or below it. -/
def AtOrBelow (t : Tree) (i d : NodeId) : Prop :=
  d = i ∨ t.Above i d

theorem above_iff {a i : NodeId} :
    t.Above a i ↔ ∃ p, t.parent? i = some p ∧ (a = p ∨ t.Above a p) := by
  constructor
  · rintro (up | ⟨up, further⟩)
    · exact ⟨a, up, Or.inl rfl⟩
    · exact ⟨_, up, Or.inr further⟩
  · rintro ⟨p, up, rfl | further⟩
    · exact .parent up
    · exact .further up further

theorem Above.trans {a b i : NodeId} (upper : t.Above a b) (lower : t.Above b i) : t.Above a i := by
  induction lower with
  | parent up => exact .further up upper
  | further up _ ih => exact .further up ih

theorem Above.lt_size {a i : Nat} (above : t.Above a i) : i < t.size := by
  cases above with
  | parent up | further up => exact lt_size_of_parent? up

/-- Of two nodes around one, one is around the other. -/
theorem Above.chain {a b i : NodeId} (ha : t.Above a i) (hb : t.Above b i) :
    a = b ∨ t.Above a b ∨ t.Above b a := by
  induction ha with
  | parent up =>
    obtain ⟨p, up', rfl | further⟩ := above_iff.mp hb
    · exact Or.inl (Option.some.inj (up.symm.trans up'))
    · exact Or.inr (Or.inr (Option.some.inj (up.symm.trans up') ▸ further))
  | further up above ih =>
    obtain ⟨p, up', same⟩ := above_iff.mp hb
    cases Option.some.inj (up.symm.trans up')
    rcases same with rfl | further
    · exact Or.inr (Or.inl above)
    · exact ih further

namespace Linked

variable (h : t.Linked)
include h

theorem lt_of_above {a i : Nat} (above : t.Above a i) : a < i := by
  induction above with
  | parent up => exact h.parent_lt up
  | further up _ ih => exact Nat.lt_trans ih (h.parent_lt up)

theorem le_of_atOrBelow {i d : Nat} (below : t.AtOrBelow i d) : i ≤ d := by
  rcases below with rfl | above
  · exact Nat.le_refl _
  · exact Nat.le_of_lt (h.lt_of_above above)

theorem above_of_mem_children {c p : NodeId} (child : c ∈ t.children p) : t.Above p c :=
  .parent (h.mem_children_iff.mp child)

/-- What stands between a node and its parent is below the parent. -/
theorem above_of_between_parent {p d : Nat} (up : t.parent? d = some p) :
    ∀ j : Nat, p < j → j < d → t.Above p j := by
  intro j
  induction j using Nat.strong_induction_on with
  | _ j ih =>
    intro after earlier
    -- The parent of what stands in between is `p`, or stands in between itself.
    obtain ⟨q, up', le⟩ := h.nested up after earlier
    rcases Nat.eq_or_lt_of_le le with rfl | less
    · exact .parent up'
    · have before : q < j := h.parent_lt up'
      exact .further up' (ih q before less (Nat.lt_trans before earlier))

/-- **A subtree has no gaps.** -/
theorem above_of_between {a d : Nat} (above : t.Above a d) :
    ∀ j : Nat, a < j → j < d → t.Above a j := by
  induction above with
  | parent up => exact h.above_of_between_parent up
  | @further d p up above ih =>
    intro j after earlier
    rcases Nat.lt_trichotomy j p with less | rfl | more
    · exact ih j after less
    · exact above
    · exact above.trans (h.above_of_between_parent up j more earlier)

end Linked

/-! ### Around a node -/

namespace Linked

variable (h : t.Linked)
include h

/-- More fuel than there are nodes before this one makes no difference. -/
theorem climb_eq : ∀ {n m i : Nat}, i ≤ n → i ≤ m → t.climb n i = t.climb m i
  | 0, 0, _, _, _ => rfl
  | 0, m + 1, i, le, _ => by
    obtain rfl : i = 0 := Nat.le_zero.mp le
    rw [climb, climb]
    cases up : t.parent? 0 with
    | none => rfl
    | some p => exact absurd (h.parent_lt up) (Nat.not_lt_zero p)
  | n + 1, 0, i, _, le => by
    obtain rfl : i = 0 := Nat.le_zero.mp le
    rw [climb, climb]
    cases up : t.parent? 0 with
    | none => rfl
    | some p => exact absurd (h.parent_lt up) (Nat.not_lt_zero p)
  | n + 1, m + 1, i, hn, hm => by
    rw [climb, climb]
    cases up : t.parent? i with
    | none => rfl
    | some p =>
      have before := h.parent_lt up
      exact congrArg (p :: ·) (climb_eq (by omega) (by omega))

/-- **Around a node are its parent and what is around that.** -/
theorem ancestors_eq (i : NodeId) :
    t.ancestors i = ((t.parent? i).map fun p => p :: t.ancestors p).getD [] := by
  cases up : t.parent? i with
  | none =>
    unfold ancestors
    cases t.size with
    | zero => rfl
    | succ n => rw [climb, up]; rfl
  | some p =>
    have within := lt_size_of_parent? up
    have before := h.parent_lt up
    obtain ⟨n, size⟩ : ∃ n, t.size = n + 1 := ⟨t.size - 1, by omega⟩
    have rest : t.climb n p = t.climb (n + 1) p := h.climb_eq (by omega) (by omega)
    show t.climb t.size i = p :: t.climb t.size p
    rw [size, climb, up, ← rest]

end Linked

/-! ### Below a node -/

/-- The whole subtree of `i` stands before `j`. -/
def Before (t : Tree) (i j : NodeId) : Prop :=
  ∀ d, t.AtOrBelow i d → d < j

namespace Linked

variable (h : t.Linked)
include h

theorem atOrBelow_iff {i d : NodeId} :
    t.AtOrBelow i d ↔ d = i ∨ ∃ c ∈ t.children i, t.AtOrBelow c d := by
  constructor
  · rintro (rfl | above)
    · exact Or.inl rfl
    · refine Or.inr ?_
      induction above with
      | parent up => exact ⟨_, h.mem_children_iff.mpr up, Or.inl rfl⟩
      | further up _ ih =>
        obtain ⟨c, child, rfl | further⟩ := ih
        · exact ⟨_, child, Or.inr (.parent up)⟩
        · exact ⟨c, child, Or.inr (.further up further)⟩
  · rintro (rfl | ⟨c, child, rfl | above⟩)
    · exact Or.inl rfl
    · exact Or.inr (h.above_of_mem_children child)
    · exact Or.inr ((h.above_of_mem_children child).trans above)

/-- **The subtree of a child ends before the next child.** Otherwise the next child, or what lies
between, would have the first one above it. -/
theorem before_of_children {p c d : Nat} (hc : c ∈ t.children p) (hd : d ∈ t.children p)
    (less : c < d) : t.Before c d := by
  intro x below
  by_contra beyond
  have apart : ¬ t.Above c d := fun above => by
    obtain ⟨q, up, upper⟩ := above_iff.mp above
    cases Option.some.inj (up.symm.trans (h.mem_children_iff.mp hd))
    have first := h.lt_of_above (h.above_of_mem_children hc)
    rcases upper with rfl | upper
    · exact Nat.lt_irrefl _ first
    · exact Nat.lt_asymm first (h.lt_of_above upper)
  rcases below with rfl | above
  · exact beyond less
  · rcases Nat.eq_or_lt_of_le (Nat.le_of_not_lt beyond) with rfl | further
    · exact apart above
    · exact apart (h.above_of_between above d less further)

theorem children_before (p : NodeId) : (t.children p).Pairwise t.Before :=
  (h.increasing p).imp_of_mem fun hc hd less => h.before_of_children hc hd less

theorem before_of_child {i c j : NodeId} (before : t.Before i j) (child : c ∈ t.children i) :
    t.Before c j :=
  fun d below => before d (h.atOrBelow_iff.mpr (Or.inr ⟨c, child, below⟩))

/-- A walk visits the subtrees of the nodes it was given, in order. The fuel lasts: each node that
is visited stands after those before it, so at most as many are left as there are nodes from the
first on. -/
theorem preorder_spec : ∀ (fuel : Nat) (nodes : List Nat), nodes.Pairwise t.Before →
    (∀ i ∈ nodes, i < t.size) → (∀ i ∈ nodes.head?, t.size ≤ i + fuel) →
    (∀ d, d ∈ t.preorder fuel nodes ↔ ∃ i ∈ nodes, t.AtOrBelow i d) ∧
      (t.preorder fuel nodes).Pairwise fun a b : Nat => a < b
  | 0, [], _, _, _ => by simp [preorder]
  | 0, i :: rest, _, within, enough => by
    have := within i List.mem_cons_self
    have := enough i rfl
    omega
  | fuel + 1, [], _, _, _ => by simp [preorder]
  | fuel + 1, i :: rest, apart, within, enough => by
    obtain ⟨first, later⟩ := List.pairwise_cons.mp apart
    have next : (t.children i ++ rest).Pairwise t.Before :=
      List.pairwise_append.mpr ⟨h.children_before i, later, fun c child j hj =>
        h.before_of_child (first j hj) child⟩
    have after : ∀ j ∈ t.children i ++ rest, i < j := fun j hj => by
      rcases List.mem_append.mp hj with child | hj
      · exact h.lt_of_above (h.above_of_mem_children child)
      · exact first j hj i (Or.inl rfl)
    have inside : ∀ j ∈ t.children i ++ rest, j < t.size := fun j hj => by
      rcases List.mem_append.mp hj with child | hj
      · exact (h.above_of_mem_children child).lt_size
      · exact within j (List.mem_cons_of_mem _ hj)
    have lasts : ∀ j ∈ (t.children i ++ rest).head?, t.size ≤ j + fuel := fun j hj => by
      have := after j (List.mem_of_mem_head? hj)
      have := enough i rfl
      omega
    obtain ⟨visited, sorted⟩ := preorder_spec fuel (t.children i ++ rest) next inside lasts
    rw [preorder]
    constructor
    · intro d
      have split : (∃ j ∈ i :: rest, t.AtOrBelow j d) ↔
          t.AtOrBelow i d ∨ ∃ j ∈ rest, t.AtOrBelow j d := by simp
      rw [List.mem_cons, visited, split, h.atOrBelow_iff]
      simp only [List.mem_append, or_and_right, exists_or, or_assoc]
    · refine List.pairwise_cons.mpr ⟨fun d hd => ?_, sorted⟩
      obtain ⟨j, hj, below⟩ := (visited d).mp hd
      exact Nat.lt_of_lt_of_le (after j hj) (h.le_of_atOrBelow below)

theorem descendants_spec {i : Nat} (within : i < t.size) :
    (∀ d, d ∈ t.descendants i ↔ t.AtOrBelow i d) ∧
      (t.descendants i).Pairwise fun a b : Nat => a < b := by
  have spec := h.preorder_spec t.size [i] (List.pairwise_singleton ..)
    (fun j hj => List.mem_singleton.mp hj ▸ within) (fun j _ => Nat.le_add_left ..)
  rw [descendants, if_pos within]
  simpa using spec

/-- **A subtree has a node and all that has it above.** -/
theorem mem_descendants_iff {i d : Nat} : d ∈ t.descendants i ↔ i < t.size ∧ t.AtOrBelow i d := by
  by_cases within : i < t.size
  · rw [(h.descendants_spec within).1, and_iff_right within]
  · simp [descendants, within]

/-- Subtrees are listed in source order. -/
theorem descendants_increasing (i : NodeId) :
    (t.descendants i).Pairwise fun a b : Nat => a < b := by
  by_cases within : i < t.size
  · exact (h.descendants_spec within).2
  · simp [descendants, within]

end Linked

end ElmAssist.Tree
