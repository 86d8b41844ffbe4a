import ElmAssist.Proofs.Tree.Rooted
import ElmAssist.Tree.Cursor
import Mathlib.Data.Prod.Lex

/-!
# Tree — The smallest node at a point

The search for the node at a point goes down from the root: at each node into a child that holds the
point, its end excluded, else into one that ends there. Where the spans of a tree nest, at most one
child holds the point, and a node that holds it has only such nodes above it. So a step into a child
that merely ends at the point is taken only where nothing below holds it, and loses nothing.

* `SpansNest`: no node ends before it starts, and children stand apart and inside of their parent.
* `childAt?_eq_some_of_holds`, `childAt?_eq_none_iff`: where one step of the search leads.
* `Linked.childAt?_descend`: the search stops, and with fuel to spare.
* `SpansNest.atOrBelow_descend`: it passes through every node that holds the point.
* `smallest_node_at_point`: what is found contains the point and has no child that does, and all
  that holds the point is the node found or above it.
-/

namespace ElmAssist

/-! ### Reading order -/

/-- Points by row, then by column. -/
instance : LinearOrder Point :=
  LinearOrder.lift' (fun p => toLex (p.row, p.column)) fun p q same => by
    cases p
    cases q
    simpa using same

namespace Point

variable {p q : Point}

theorem le_iff : p.le q = true ↔ p ≤ q := by
  show _ ↔ toLex (p.row, p.column) ≤ toLex (q.row, q.column)
  simp [Point.le, Prod.Lex.toLex_le_toLex]

theorem lt_iff : p.lt q = true ↔ p < q := by
  show _ ↔ toLex (p.row, p.column) < toLex (q.row, q.column)
  simp [Point.lt, Prod.Lex.toLex_lt_toLex]

end Point

theorem Span.contains_iff {s : Span} {p : Point} :
    s.contains p = true ↔ s.start ≤ p ∧ p ≤ s.stop := by
  rw [Span.contains, Bool.and_eq_true, Point.le_iff, Point.le_iff]

namespace Tree

variable {t : Tree} {p : Point} {i c : NodeId}

theorem holds_iff : t.holds p i = true ↔ (t.span i).start ≤ p ∧ p < (t.span i).stop := by
  rw [holds, Bool.and_eq_true, Point.le_iff, Point.lt_iff]

/-! ### Spans that nest -/

/-- The spans of a tree nest. -/
structure SpansNest (t : Tree) : Prop where
  /-- No node ends before it starts. -/
  ordered : ∀ i < t.size, (t.span i).start ≤ (t.span i).stop
  /-- A child stands inside of its parent. -/
  inside : ∀ i < t.size, ∀ c ∈ t.children i,
    (t.span i).start ≤ (t.span c).start ∧ (t.span c).stop ≤ (t.span i).stop
  /-- Children do not overlap, and stand in order. -/
  apart : ∀ i < t.size, (t.children i).Pairwise fun c d => (t.span c).stop ≤ (t.span d).start

instance (t : Tree) : Decidable t.SpansNest :=
  decidable_of_iff
    ((∀ i < t.size, (t.span i).start ≤ (t.span i).stop) ∧
      (∀ i < t.size, ∀ c ∈ t.children i,
        (t.span i).start ≤ (t.span c).start ∧ (t.span c).stop ≤ (t.span i).stop) ∧
      ∀ i < t.size, (t.children i).Pairwise fun c d => (t.span c).stop ≤ (t.span d).start)
    ⟨fun ⟨ordered, inside, apart⟩ => ⟨ordered, inside, apart⟩,
      fun ⟨ordered, inside, apart⟩ => ⟨ordered, inside, apart⟩⟩

theorem children_eq_nil (beyond : t.size ≤ i) : t.children i = [] := by
  rw [children, get?_eq_none_iff.mpr beyond]
  rfl

theorem lt_size_of_mem_children (child : c ∈ t.children i) : i < t.size := by
  by_contra beyond
  rw [children_eq_nil (Nat.le_of_not_lt beyond)] at child
  cases child

/-! ### One step down -/

theorem mem_children_of_childAt? (next : t.childAt? p i = some c) : c ∈ t.children i := by
  unfold childAt? at next
  split at next
  · rename_i found
    cases next
    exact List.mem_of_find?_eq_some found
  · exact List.mem_of_find?_eq_some next

namespace SpansNest

variable (nest : t.SpansNest) (h : t.Linked)
include nest h

theorem ordered_child (child : c ∈ t.children i) : (t.span c).start ≤ (t.span c).stop :=
  nest.ordered c (h.above_of_mem_children child).lt_size

/-- **A step leads to a node that contains the point.** -/
theorem contains_of_childAt? (next : t.childAt? p i = some c) : (t.span c).contains p = true := by
  have ordered := nest.ordered_child h (mem_children_of_childAt? next)
  rw [Span.contains_iff]
  unfold childAt? at next
  split at next
  · rename_i found
    cases next
    obtain ⟨start, stop⟩ := holds_iff.mp (List.find?_some found)
    exact ⟨start, le_of_lt stop⟩
  · have touches : (t.span c).stop = p :=
      beq_iff_eq.mp (List.find?_some (p := fun c => (t.span c).stop == p) next)
    exact ⟨touches ▸ ordered, touches.ge⟩

/-- There is no step exactly when no child contains the point. -/
theorem childAt?_eq_none_iff :
    t.childAt? p i = none ↔ ∀ c ∈ t.children i, ¬ (t.span c).contains p = true := by
  constructor
  · intro stops c child contains
    obtain ⟨start, stop⟩ := Span.contains_iff.mp contains
    unfold childAt? at stops
    split at stops
    · cases stops
    · rename_i none_holds
      have not_held := List.find?_eq_none.mp none_holds c child
      have not_touched := List.find?_eq_none.mp stops c child
      rw [holds_iff] at not_held
      -- What starts before the point and does not hold it, but contains it, ends there.
      rcases lt_or_eq_of_le stop with within | touches
      · exact not_held ⟨start, within⟩
      · exact not_touched (beq_iff_eq.mpr touches.symm)
  · intro outside
    cases next : t.childAt? p i with
    | none => rfl
    | some c =>
      exact absurd (nest.contains_of_childAt? h next) (outside c (mem_children_of_childAt? next))

omit h in
/-- **A step leads to the child that holds the point**, which is the only one. -/
theorem childAt?_eq_some_of_holds (child : c ∈ t.children i) (held : t.holds p c = true) :
    t.childAt? p i = some c := by
  obtain ⟨start, stop⟩ := holds_iff.mp held
  have found : (t.children i).find? (t.holds p) = some c := by
    obtain ⟨before, after, split⟩ := List.append_of_mem child
    have apart := nest.apart i (lt_size_of_mem_children child)
    rw [split, List.pairwise_append] at apart
    refine List.find?_eq_some_iff_append.mpr ⟨held, before, after, split, fun d earlier => ?_⟩
    -- An earlier child ends before this one starts, so before the point.
    have less : (t.span d).stop ≤ (t.span c).start := apart.2.2 d earlier c List.mem_cons_self
    rw [Bool.not_eq_true', ← Bool.not_eq_true, holds_iff]
    exact fun ⟨_, later⟩ => absurd (lt_of_lt_of_le later (le_trans less start)) (lt_irrefl p)
  rw [childAt?, found]

/-- A node stands inside of all that is above it. -/
theorem inside_of_above {a m : NodeId} (above : t.Above a m) :
    (t.span a).start ≤ (t.span m).start ∧ (t.span m).stop ≤ (t.span a).stop := by
  have step : ∀ {c q}, t.parent? c = some q →
      (t.span q).start ≤ (t.span c).start ∧ (t.span c).stop ≤ (t.span q).stop := fun up => by
    have child := h.mem_children_iff.mpr up
    exact nest.inside _ (lt_size_of_mem_children child) _ child
  induction above with
  | parent up => exact step up
  | further up _ ih =>
    exact ⟨le_trans ih.1 (step up).1, le_trans (step up).2 ih.2⟩

/-- What is above a node that holds the point holds it too. -/
theorem holds_of_above {a m : NodeId} (above : t.Above a m) (held : t.holds p m = true) :
    t.holds p a = true := by
  obtain ⟨start, stop⟩ := holds_iff.mp held
  obtain ⟨starts, stops⟩ := nest.inside_of_above h above
  exact holds_iff.mpr ⟨le_trans starts start, lt_of_lt_of_le stop stops⟩

end SpansNest

/-! ### All the way down -/

/-- **The search stops where there is no step.** Each step leads to a later node, so as much fuel is
enough as there are nodes from the first on. -/
theorem Linked.childAt?_descend (h : t.Linked) (p : Point) : ∀ {fuel i : Nat},
    t.size ≤ i + fuel → t.childAt? p (t.descend p fuel i) = none
  | 0, i, enough => by
    have beyond : t.children i = [] := children_eq_nil enough
    rw [descend, childAt?, beyond]
    rfl
  | fuel + 1, i, enough => by
    rw [descend]
    cases next : t.childAt? p i with
    | none => exact next
    | some c =>
      have later := h.lt_of_above (h.above_of_mem_children (mem_children_of_childAt? next))
      exact h.childAt?_descend p (by omega)

/-- Where there is no step, more fuel makes no difference. -/
theorem descend_add (p : Point) (more : Nat) : ∀ {fuel : Nat} {i : NodeId},
    t.childAt? p (t.descend p fuel i) = none → t.descend p (fuel + more) i = t.descend p fuel i
  | 0, i, stops => by
    rw [descend] at stops ⊢
    cases more with
    | zero => rfl
    | succ more => rw [Nat.zero_add, descend, stops]
  | fuel + 1, i, stops => by
    rw [Nat.succ_add]
    rw [descend] at stops ⊢
    rw [descend]
    cases next : t.childAt? p i with
    | none => rfl
    | some c =>
      rw [next] at stops
      exact descend_add p more stops

/-- The search only goes down. -/
theorem Linked.atOrBelow_of_descend (h : t.Linked) (p : Point) : ∀ (fuel i : Nat),
    t.AtOrBelow i (t.descend p fuel i)
  | 0, i => Or.inl rfl
  | fuel + 1, i => by
    rw [descend]
    cases next : t.childAt? p i with
    | none => exact Or.inl rfl
    | some c =>
      exact h.atOrBelow_iff.mpr
        (Or.inr ⟨c, mem_children_of_childAt? next, h.atOrBelow_of_descend p fuel c⟩)

namespace SpansNest

variable (nest : t.SpansNest) (h : t.Linked)
include nest h

/-- What the search comes to contains the point if the first node does. -/
theorem contains_descend : ∀ (fuel : Nat) {i : NodeId}, (t.span i).contains p = true →
    (t.span (t.descend p fuel i)).contains p = true
  | 0, i, contains => contains
  | fuel + 1, i, contains => by
    rw [descend]
    cases next : t.childAt? p i with
    | none => exact contains
    | some c => exact contains_descend fuel (nest.contains_of_childAt? h next)

/-- **The search passes through every node that holds the point.** -/
theorem atOrBelow_descend {m : NodeId} (held : t.holds p m = true) : ∀ {fuel i : Nat},
    t.AtOrBelow i m → t.size ≤ i + fuel → t.AtOrBelow m (t.descend p fuel i)
  | fuel, i, .inl same, _ => same ▸ h.atOrBelow_of_descend p fuel i
  | 0, i, .inr above, enough => by
    have := h.lt_of_above above
    have := above.lt_size
    omega
  | fuel + 1, i, .inr above, enough => by
    -- The child on the way to the node holds the point too, so the step leads there.
    obtain ⟨c, child, below⟩ : ∃ c ∈ t.children i, t.AtOrBelow c m := by
      refine (h.atOrBelow_iff.mp (Or.inr above)).resolve_left ?_
      exact Nat.ne_of_gt (h.lt_of_above above)
    have held' : t.holds p c = true := by
      rcases below with rfl | above
      · exact held
      · exact nest.holds_of_above h above held
    have later := h.lt_of_above (h.above_of_mem_children child)
    rw [descend, nest.childAt?_eq_some_of_holds child held']
    exact atOrBelow_descend held below (by omega)

/-- A node that ends where another one goes on is not passed through with that one, unless it is
inside of it. -/
theorem not_atOrBelow_of_ends {m n i : NodeId} (below : t.AtOrBelow n i)
    (ends : (t.span m).stop = p) (covers : p < (t.span n).stop) (apart : ¬ t.Above n m) :
    ¬ t.AtOrBelow m i := by
  intro below'
  -- Both are on the way to one node, so either of them is above the other, or they are the same.
  rcases below'.chain below with same | inner
  · have within : (t.span n).stop ≤ (t.span m).stop := by
      rcases same with rfl | above
      · exact le_rfl
      · exact (nest.inside_of_above h above).2
    exact absurd (lt_of_lt_of_le covers (ends ▸ within)) (lt_irrefl p)
  · exact apart inner

end SpansNest

theorem nodeAt?_ofRows (text : String) {rows : List Row} (rooted : Rooted rows) (p : Point) :
    (ofRows text rows).nodeAt? p = if ((ofRows text rows).span root).contains p then
      some ((ofRows text rows).descend p (ofRows text rows).size root) else none := by
  have inside : root < (ofRows text rows).nodes.size :=
    rooted.pos.trans_eq (size_ofRows text rows).symm
  have there : (ofRows text rows).get? root = some (ofRows text rows).nodes[root] :=
    Array.getElem?_eq_getElem inside
  rw [nodeAt?, span, there]
  rfl

/-- **The smallest node at a point.** In a tree whose spans nest the search for the node at a point
ends, with fuel to spare. It finds nothing exactly when the point is outside of the root, whose both
ends count. What it finds is a node of the tree that contains the point, with no child that does;
every node that holds the point, its end excluded, is the node found or above it. So a leaf is found
everywhere in it, and of two nodes that touch at the point, the second of which covers anything, the
search goes to the second. -/
theorem smallest_node_at_point (text : String) {rows : List Row} (rooted : Rooted rows)
    (nest : (ofRows text rows).SpansNest) (p : Point) :
    let t := ofRows text rows
    (∀ more, t.descend p (t.size + more) root = t.descend p t.size root) ∧
      (t.nodeAt? p = none ↔ ¬ ((t.span root).start ≤ p ∧ p ≤ (t.span root).stop)) ∧
      ∀ i, t.nodeAt? p = some i →
        i < t.size ∧ ((t.span i).start ≤ p ∧ p ≤ (t.span i).stop) ∧
          (∀ c ∈ t.children i, ¬ ((t.span c).start ≤ p ∧ p ≤ (t.span c).stop)) ∧
          (∀ m < t.size, (t.span m).start ≤ p → p < (t.span m).stop →
            m = i ∨ m ∈ t.ancestors i) ∧
          (∀ m < t.size, t.children m = [] → (t.span m).start ≤ p → p < (t.span m).stop → i = m) ∧
          ∀ m < t.size, ∀ n < t.size, (t.span m).stop = p → (t.span n).start = p →
            p < (t.span n).stop → n ∉ t.ancestors m →
              (n = i ∨ n ∈ t.ancestors i) ∧ ¬ (m = i ∨ m ∈ t.ancestors i) := by
  intro t
  have h : t.Linked := linked_ofRows text rows
  have stops : t.childAt? p (t.descend p t.size root) = none :=
    h.childAt?_descend p (Nat.le_add_left ..)
  have found : t.nodeAt? p =
      if (t.span root).contains p then some (t.descend p t.size root) else none :=
    nodeAt?_ofRows text rooted p
  refine ⟨fun more => descend_add p more stops, ?_, fun i here => ?_⟩
  · rw [found, ← Span.contains_iff]
    simp
  · rw [found, Option.ite_none_right_eq_some, Option.some_inj] at here
    obtain ⟨contains, rfl⟩ := here
    have through : ∀ m < t.size, (t.span m).start ≤ p → p < (t.span m).stop →
        t.AtOrBelow m (t.descend p t.size root) := fun m within start stop =>
      nest.atOrBelow_descend h (holds_iff.mpr ⟨start, stop⟩)
        (rooted.atOrBelow_root m (size_ofRows text rows ▸ within)) (Nat.le_add_left ..)
    have around : ∀ m j, m = j ∨ m ∈ t.ancestors j ↔ t.AtOrBelow m j := fun m j => by
      rw [h.mem_ancestors_iff, AtOrBelow, eq_comm]
    simp only [around, ← Span.contains_iff]
    refine ⟨?_, nest.contains_descend h t.size contains,
      (nest.childAt?_eq_none_iff h).mp stops, through, ?_, ?_⟩
    · rcases h.atOrBelow_of_descend p t.size root with same | above
      · rw [same, size_ofRows]
        exact rooted.pos
      · exact above.lt_size
    · intro m within leaf start stop
      rcases h.atOrBelow_iff.mp (through m within start stop) with same | ⟨c, child, -⟩
      · exact same
      · rw [leaf] at child
        cases child
    · intro m within n within' ends starts covers apart
      have below := through n within' starts.le covers
      exact ⟨below, nest.not_atOrBelow_of_ends h below ends covers fun above =>
        apart ((h.mem_ancestors_iff m).mpr above)⟩

/-- The rows of `x=(1`, where the closing parenthesis is missing. -/
def unclosedRows : List Row :=
  [⟨0, .file, "file", ⟨⟨0, 0⟩, ⟨0, 4⟩, 0, 4⟩⟩,
    ⟨1, .valueDeclaration, "value_declaration", ⟨⟨0, 0⟩, ⟨0, 4⟩, 0, 4⟩⟩,
    ⟨2, .functionDeclarationLeft, "function_declaration_left", ⟨⟨0, 0⟩, ⟨0, 1⟩, 0, 1⟩⟩,
    ⟨3, .lowerCaseIdentifier, "lower_case_identifier", ⟨⟨0, 0⟩, ⟨0, 1⟩, 0, 1⟩⟩,
    ⟨2, .other, "eq", ⟨⟨0, 1⟩, ⟨0, 2⟩, 1, 2⟩⟩,
    ⟨2, .other, "parenthesized_expr", ⟨⟨0, 2⟩, ⟨0, 4⟩, 2, 4⟩⟩,
    ⟨3, .other, "number_constant_expr", ⟨⟨0, 3⟩, ⟨0, 4⟩, 3, 4⟩⟩,
    ⟨3, .missing, ")", ⟨⟨0, 4⟩, ⟨0, 4⟩, 4, 4⟩⟩]

/-- Between the name and the equals sign the search finds the sign, and not the name. -/
theorem sign_found_after_name :
    let t := ofRows "x=(1" unclosedRows
    let p : Point := ⟨0, 1⟩
    Rooted unclosedRows ∧ t.SpansNest ∧ t.nodeAt? p = some 4 ∧ ¬ t.nodeAt? p = none ∧
      (∀ c ∈ t.children 4, ¬ ((t.span c).start ≤ p ∧ p ≤ (t.span c).stop)) ∧
      ¬ (3 = 4 ∨ 3 ∈ t.ancestors 4) := by
  intro t p
  have rooted : Rooted unclosedRows := by decide
  have nest : t.SpansNest := by decide +kernel
  obtain ⟨-, outside, found⟩ := smallest_node_at_point "x=(1" rooted nest p
  have here : t.nodeAt? p = some 4 := by decide +kernel
  obtain ⟨-, -, childless, -, -, second⟩ := found 4 here
  have inside : (t.span root).start ≤ p ∧ p ≤ (t.span root).stop := by decide +kernel
  exact ⟨rooted, nest, here, fun none => absurd inside (outside.mp none), childless,
    (second 3 (by decide) 4 (by decide) (by decide +kernel) (by decide +kernel)
      (by decide +kernel) (by decide +kernel)).2⟩

end Tree

end ElmAssist
