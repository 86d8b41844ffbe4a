import ElmAssist.Proofs.Tree.Rooted
import ElmAssist.Proofs.Tree.Siblings

/-!
# Tree — How the walks fit together

A tree answers for each node what is above, below and beside it, each by a walk of its own. In a
linked tree the answers are about one and the same tree:

* `isAncestor_iff`: a node is above another one when that is in its subtree and is not itself.
* `descendants_eq`: a subtree is a node and then all that have it among their ancestors, in order.
* `isChain_ancestors`, `getLast?_ancestors`: the ancestors of a node go from parent to parent, up to
  the root.
* `Linked.isAlone`: a node that is not there has no relatives.
* `coherent_of_rooted`: all of it, for the rows of any parser.
-/

namespace ElmAssist.Tree

variable {t : Tree} {text : String} {rows : List Row} {a b : NodeId}

/-! ### Above and below -/

namespace Linked

variable (h : t.Linked)
include h

/-- **Up and down.** A node is above another one when that is in its subtree and is not itself. -/
theorem isAncestor_iff : t.isAncestor a b = true ↔ b ∈ t.descendants a ∧ b ≠ a := by
  rw [isAncestor, List.contains_iff_mem, h.mem_ancestors_iff, h.mem_descendants_iff]
  constructor
  · intro above
    have before := h.lt_of_above above
    exact ⟨⟨Nat.lt_trans before above.lt_size, Or.inr above⟩, Nat.ne_of_gt before⟩
  · rintro ⟨⟨-, same | above⟩, other⟩
    · exact absurd same other
    · exact above

/-- **A subtree is a node and then all that have it among their ancestors**, in order. -/
theorem descendants_eq {i : Nat} (inside : i < t.size) :
    t.descendants i = i :: (List.range t.size).filter fun d => i ∈ t.ancestors d := by
  have later : ∀ d ∈ (List.range t.size).filter (fun d => i ∈ t.ancestors d), i < d := by
    intro d hd
    have up := of_decide_eq_true (List.mem_filter.mp hd).2
    exact h.lt_of_above ((h.mem_ancestors_iff d).mp up)
  refine List.Pairwise.eq_of_mem_iff (h.descendants_increasing i)
    (List.pairwise_cons.mpr ⟨later, List.pairwise_lt_range.filter _⟩) ?_
  intro d
  rw [h.mem_descendants_iff, List.mem_cons, List.mem_filter, List.mem_range, decide_eq_true_eq,
    h.mem_ancestors_iff, AtOrBelow]
  constructor
  · rintro ⟨-, same | above⟩
    · exact Or.inl same
    · exact Or.inr ⟨above.lt_size, above⟩
  · rintro (same | ⟨-, above⟩)
    · exact ⟨inside, Or.inl same⟩
    · exact ⟨inside, Or.inr above⟩

/-- The ancestors of a node go from parent to parent. -/
theorem isChain_ancestors (i : Nat) :
    (i :: t.ancestors i).IsChain fun c p => t.parent? c = some p := by
  induction i using Nat.strong_induction_on with
  | _ i ih =>
    rw [h.ancestors_eq]
    cases up : t.parent? i with
    | none => exact List.IsChain.singleton i
    | some p => exact List.isChain_cons_cons.mpr ⟨up, ih p (h.parent_lt up)⟩

end Linked

namespace Rooted

/-- Only the root is without a parent. -/
theorem parent?_eq_none_iff (rooted : Rooted rows) {i : Nat} :
    (ofRows text rows).parent? i = none ↔ i = root ∨ (ofRows text rows).size ≤ i := by
  constructor
  · intro top
    by_contra below
    obtain ⟨other, inside⟩ := not_or.mp below
    rw [size_ofRows, Nat.not_le] at inside
    obtain ⟨p, up⟩ : ∃ p, (ofRows text rows).parent? i = some p :=
      rooted.exists_parent (Nat.pos_of_ne_zero other) inside
    exact nomatch top.symm.trans up
  · intro top
    refine Option.eq_none_iff_forall_ne_some.mpr fun p up => ?_
    rcases top with rfl | beyond
    · exact Nat.not_lt_zero p ((linked_ofRows text rows).parent_lt up)
    · exact Nat.not_lt_of_le beyond (lt_size_of_parent? up)

/-- The way up from a node ends at the root. -/
theorem getLast?_ancestors (rooted : Rooted rows) (i : Nat) (inside : i < rows.length) :
    (i :: (ofRows text rows).ancestors i).getLast? = some root := by
  have linked := linked_ofRows text rows
  induction i using Nat.strong_induction_on with
  | _ i ih =>
    rw [linked.ancestors_eq]
    cases up : (ofRows text rows).parent? i with
    | none =>
      rcases rooted.parent?_eq_none_iff.mp up with rfl | beyond
      · rfl
      · exact absurd inside (Nat.not_lt_of_le (size_ofRows text rows ▸ beyond))
    | some p =>
      have before : p < i := linked.parent_lt up
      rw [Option.map_some, Option.getD_some, List.getLast?_cons_cons]
      exact ih p before (Nat.lt_trans before inside)

end Rooted

/-! ### Nodes that are not there -/

/-- A node without relatives. -/
structure IsAlone (t : Tree) (i : NodeId) : Prop where
  parent : t.parent? i = none
  children : t.children i = []
  ancestors : t.ancestors i = []
  descendants : t.descendants i = []
  next : t.next? i = none
  previous : t.previous? i = none
  above : ∀ b, t.isAncestor i b = false
  below : ∀ a, t.isAncestor a i = false

/-- **A node that is not there is alone.** -/
theorem Linked.isAlone (h : t.Linked) {i : Nat} (beyond : t.size ≤ i) : t.IsAlone i := by
  have missing : t.get? i = none := get?_eq_none_iff.mpr beyond
  have parent : t.parent? i = none := by rw [parent?, missing]; rfl
  have ancestors : t.ancestors i = [] := by rw [h.ancestors_eq, parent]; rfl
  have descendants : t.descendants i = [] := if_neg (Nat.not_lt_of_le beyond)
  exact {
    parent := parent
    children := by rw [Tree.children, missing]; rfl
    ancestors := ancestors
    descendants := descendants
    next := by rw [next?, siblings?, parent]; rfl
    previous := by rw [previous?, siblings?, parent]; rfl
    above := fun b => Bool.eq_false_iff.mpr fun up => by
      have mem := (h.isAncestor_iff.mp up).1
      rw [descendants] at mem
      cases mem
    below := fun a => by rw [isAncestor, ancestors]; rfl }

/-! ### All of it -/

/-- The walks of a tree fit together.
* A parent stands before its children, which are the nodes that it is the parent of, in order.
* All but the root have a parent, and the way up from a node leads from parent to parent to the
  root.
* A subtree is a node and then the nodes that have it among their ancestors, each once, in order;
  that of the root is everything. So a node is above another one when that is in its subtree and is
  not itself.
* Of two siblings one is next to the other when their parent lists them side by side, and the walk
  back undoes the walk on.
* A node that is not there is alone. -/
structure Coherent (t : Tree) : Prop extends t.Linked where
  parent?_eq_none_iff : ∀ {i : Nat}, t.parent? i = none ↔ i = root ∨ t.size ≤ i
  isChain_ancestors : ∀ i, (i :: t.ancestors i).IsChain fun c p => t.parent? c = some p
  getLast?_ancestors : ∀ {i : Nat}, i < t.size → (i :: t.ancestors i).getLast? = some root
  descendants_eq : ∀ {i : Nat}, i < t.size →
    t.descendants i = i :: (List.range t.size).filter fun d => i ∈ t.ancestors d
  descendants_root : t.descendants root = List.range t.size
  isAncestor_iff : ∀ {a b}, t.isAncestor a b = true ↔ b ∈ t.descendants a ∧ b ≠ a
  next?_eq_some_iff : ∀ {a b}, t.next? a = some b ↔ ∃ p x y, t.children p = x ++ a :: b :: y
  next?_eq_some_iff_previous? : ∀ {a b}, t.next? a = some b ↔ t.previous? b = some a
  isAlone : ∀ {i : Nat}, t.size ≤ i → t.IsAlone i

/-- **The walks of every tree fit together.** The rows are those of a parser: the root comes first
and all others are deeper, by however much. Each row is a node, and its parent is the nearest
earlier row that is less deep. -/
theorem coherent_of_rooted (text : String) {rows : List Row} (rooted : Rooted rows) :
    let t := ofRows text rows
    t.Coherent ∧ t.size = rows.length ∧
      ∀ {i p : Nat}, t.parent? i = some p ↔ i < rows.length ∧ p < i ∧
        depthIn rows p < depthIn rows i ∧ ∀ j, p < j → j < i → depthIn rows i ≤ depthIn rows j := by
  intro t
  have linked : t.Linked := linked_ofRows text rows
  have coherent : t.Coherent := {
    toLinked := linked
    parent?_eq_none_iff := rooted.parent?_eq_none_iff
    isChain_ancestors := linked.isChain_ancestors
    getLast?_ancestors := fun {i} inside =>
      rooted.getLast?_ancestors i (size_ofRows text rows ▸ inside)
    descendants_eq := linked.descendants_eq
    descendants_root := rooted.all_eq_range
    isAncestor_iff := linked.isAncestor_iff
    next?_eq_some_iff := linked.next?_eq_some_iff
    next?_eq_some_iff_previous? := linked.next?_eq_some_iff_previous?
    isAlone := linked.isAlone }
  refine ⟨coherent, size_ofRows text rows, fun {i p} => ?_⟩
  rw [parent?_ofRows]
  exact parentIn_eq_some_iff

/-- The rows of a module declaration. -/
def moduleRows : List Row :=
  let row depth kind start stop : Row :=
    ⟨depth, kind, kind.label, ⟨⟨0, start⟩, ⟨0, stop⟩, start, stop⟩⟩
  [row 0 .file 0 22, row 1 .moduleDeclaration 0 22, row 2 .other 0 6, row 2 .upperCaseQid 7 8,
    row 3 .upperCaseIdentifier 7 8, row 2 .exposingList 9 22, row 3 .other 9 17,
    row 3 .doubleDot 19 21]

/-- The subtree of the exposing list ends with the dots, which are below the module declaration. -/
theorem dots_below_module :
    let t := ofRows "module A exposing (..)" moduleRows
    Rooted moduleRows ∧ t.descendants 5 = [5, 6, 7] ∧ t.parent? 7 = some 5 ∧
      t.isAncestor 1 7 = true ∧ t.previous? 7 = some 6 := by
  intro t
  have rooted : Rooted moduleRows := by decide
  obtain ⟨coherent, -, parents⟩ := coherent_of_rooted "module A exposing (..)" rooted
  have parent : t.parent? 7 = some 5 := by
    refine parents.mpr ⟨by decide, by decide, by decide, fun j after before => ?_⟩
    obtain rfl : j = 6 := by omega
    decide
  have below : 7 ∈ t.descendants 1 := by decide +kernel
  have next : t.next? 6 = some 7 := by decide +kernel
  exact ⟨rooted, by decide +kernel, parent,
    coherent.isAncestor_iff.mpr ⟨below, by decide⟩, coherent.next?_eq_some_iff_previous?.mp next⟩

end ElmAssist.Tree
