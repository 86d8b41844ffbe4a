import ElmAssist.Proofs.Tree.Walk

/-!
# Tree — Siblings

The sibling after a node and the one before it are read off a cut of the children of their parent. In
a linked tree no child is listed twice, so a cut is fixed by the node at which it is made:

* `siblings?_eq_some_iff`: the siblings around a node are what its parent lists before and after it.
* `next?_eq_some_iff`, `previous?_eq_some_iff`: of two siblings one is next to the other when their
  parent lists them side by side.
* `next?_eq_some_iff_previous?`: the two walks are inverse to each other.
-/

namespace ElmAssist.Tree

variable {t : Tree} {i a b p : NodeId} {x y : List NodeId}

theorem around?_eq_some_iff : ∀ {l x : List NodeId},
    around? i l = some (x, y) ↔ l = x ++ i :: y ∧ i ∉ x
  | [], x => by simp [around?]
  | c :: l, [] => by
    rw [around?]
    by_cases same : c = i <;> simp [same]
  | c :: l, d :: x => by
    rw [around?]
    by_cases same : c = i
    · subst same
      simp only [if_pos, Option.some.injEq, Prod.mk.injEq, List.cons_append, List.cons.injEq,
        List.mem_cons, not_or]
      constructor
      · rintro ⟨empty, -⟩
        cases empty
      · rintro ⟨⟨rfl, -⟩, apart, -⟩
        exact absurd rfl apart
    · have later := around?_eq_some_iff (l := l) (x := x)
      rw [if_neg same, Option.map_eq_some_iff]
      constructor
      · rintro ⟨⟨x', y'⟩, found, pair⟩
        cases pair
        obtain ⟨rfl, apart⟩ := later.mp found
        exact ⟨rfl, by simp [Ne.symm same, apart]⟩
      · rintro ⟨cut, apart⟩
        obtain ⟨rfl, rfl⟩ := List.cons.inj cut
        exact ⟨(x, y), later.mpr ⟨rfl, fun mem => apart (List.mem_cons_of_mem _ mem)⟩, rfl⟩

namespace Linked

variable (h : t.Linked)
include h

/-- **The siblings around a node are what its parent lists before and after it.** -/
theorem siblings?_eq_some_iff : t.siblings? i = some (x, y) ↔ ∃ p, t.children p = x ++ i :: y := by
  rw [siblings?, Option.bind_eq_some_iff]
  constructor
  · rintro ⟨p, -, found⟩
    exact ⟨p, (around?_eq_some_iff.mp found).1⟩
  · rintro ⟨p, cut⟩
    have child : i ∈ t.children p := cut ▸ List.mem_append_right x List.mem_cons_self
    refine ⟨p, h.mem_children_iff.mp child, around?_eq_some_iff.mpr ⟨cut, fun earlier => ?_⟩⟩
    have increasing := h.increasing p
    rw [cut] at increasing
    exact Nat.lt_irrefl i ((List.pairwise_append.mp increasing).2.2 i earlier i List.mem_cons_self)

/-- The next sibling is listed right after the node. -/
theorem next?_eq_some_iff : t.next? a = some b ↔ ∃ p x y, t.children p = x ++ a :: b :: y := by
  rw [next?, Option.bind_eq_some_iff]
  constructor
  · rintro ⟨⟨x, y⟩, around, first⟩
    obtain ⟨p, cut⟩ := h.siblings?_eq_some_iff.mp around
    obtain ⟨y, rfl⟩ := List.head?_eq_some_iff.mp first
    exact ⟨p, x, y, cut⟩
  · rintro ⟨p, x, y, cut⟩
    exact ⟨(x, b :: y), h.siblings?_eq_some_iff.mpr ⟨p, cut⟩, rfl⟩

/-- The previous sibling is listed right before the node. -/
theorem previous?_eq_some_iff :
    t.previous? b = some a ↔ ∃ p x y, t.children p = x ++ a :: b :: y := by
  rw [previous?, Option.bind_eq_some_iff]
  constructor
  · rintro ⟨⟨x, y⟩, around, last⟩
    obtain ⟨p, cut⟩ := h.siblings?_eq_some_iff.mp around
    obtain ⟨x, rfl⟩ := List.getLast?_eq_some_iff.mp last
    exact ⟨p, x, y, by simpa using cut⟩
  · rintro ⟨p, x, y, cut⟩
    exact ⟨(x ++ [a], y), h.siblings?_eq_some_iff.mpr ⟨p, by simpa using cut⟩, by simp⟩

/-- **The walk back undoes the walk on.** -/
theorem next?_eq_some_iff_previous? : t.next? a = some b ↔ t.previous? b = some a :=
  h.next?_eq_some_iff.trans h.previous?_eq_some_iff.symm

end Linked

end ElmAssist.Tree
