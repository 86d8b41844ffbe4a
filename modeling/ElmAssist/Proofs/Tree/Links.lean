import ElmAssist.Tree.Basic
import Mathlib.Data.List.TakeWhile

/-!
# Tree — How nodes are linked

A parser gives its tree as rows with depths; `Tree.ofRows` finds the parent of each row with a stack
of the rows around the next one, and the children from the parents. Whatever the rows, well nested
or not, the links are those of a tree in pre-order:

* `getElem?_parents`: the parent of a row is the nearest earlier row of smaller depth.
* `Linked`: a parent stands before its children, the children of a node are those it is the parent
  of, in order, and what stands between a node and its parent is below that parent.
* `linked_ofRows`: every tree there is is linked.
-/

namespace ElmAssist.Tree

/-! ### Parents -/

/-- The nearest index before `n` with a depth less than `d`. -/
def nearest (depth : Nat → Nat) (d : Nat) : Nat → Option Nat
  | 0 => none
  | n + 1 => if depth n < d then some n else nearest depth d n

theorem nearest_eq_some_iff {depth : Nat → Nat} {d p : Nat} : ∀ {n : Nat},
    nearest depth d n = some p ↔ p < n ∧ depth p < d ∧ ∀ j, p < j → j < n → d ≤ depth j
  | 0 => by simp [nearest]
  | n + 1 => by
    rw [nearest]
    split
    · rename_i small
      rw [Option.some_inj]
      constructor
      · rintro rfl
        exact ⟨Nat.lt_succ_self _, small, by omega⟩
      · rintro ⟨before, -, between⟩
        by_contra apart
        exact absurd (between n (by omega) (Nat.lt_succ_self n)) (by omega)
    · rename_i large
      rw [nearest_eq_some_iff]
      constructor
      · rintro ⟨before, small, between⟩
        refine ⟨by omega, small, fun j after upTo => ?_⟩
        rcases Nat.lt_succ_iff_lt_or_eq.mp upTo with earlier | rfl
        · exact between j after earlier
        · omega
      · rintro ⟨before, small, between⟩
        have : p ≠ n := fun same => large (same ▸ small)
        exact ⟨by omega, small, fun j after earlier => between j after (by omega)⟩

/-- An index of smaller depth is found, or one after it. -/
theorem exists_nearest {depth : Nat → Nat} {d p : Nat} (small : depth p < d) : ∀ {n : Nat},
    p < n → ∃ q, nearest depth d n = some q ∧ p ≤ q
  | n + 1, before => by
    rw [nearest]
    split
    · exact ⟨n, rfl, Nat.le_of_lt_succ before⟩
    · rename_i large
      have : p ≠ n := fun same => large (same ▸ small)
      exact exists_nearest small (by omega)

/-- Taking away what is too deep at the front does not change what is found further up. -/
theorem find?_dropWhile_depth {d e : Nat} (le : d ≤ e) : ∀ around : List (Nat × NodeId),
    (around.dropWhile fun o => e ≤ o.1).find? (fun o => o.1 < d) = around.find? fun o => o.1 < d
  | [] => rfl
  | o :: around => by
    by_cases deep : e ≤ o.1
    · rw [List.dropWhile_cons_of_pos (by simpa using deep), find?_dropWhile_depth le around,
        List.find?_cons_of_neg (by simp; omega)]
    · rw [List.dropWhile_cons_of_neg (by simpa using deep)]

/-- **The parent of a row is the nearest earlier row of smaller depth.** The stack answers for every
depth as all the rows before it would. -/
theorem getElem?_parents (depth : Nat → Nat) : ∀ (rows : List Row) (around : List (Nat × NodeId))
    (next : NodeId), (∀ k r, rows[k]? = some r → r.depth = depth (next + k)) →
    (∀ d, (around.find? fun o => o.1 < d).map Prod.snd = nearest depth d next) →
    ∀ k, (parents around next rows)[k]? =
      rows[k]?.map fun r => nearest depth r.depth (next + k)
  | [], _, _, _, _, k => by simp [parents]
  | r :: rows, around, next, depths, stack, k => by
    have here : r.depth = depth next := depths 0 r rfl
    cases k with
    | zero =>
      have top : ((around.dropWhile fun o => r.depth ≤ o.1).head?.map Prod.snd) =
          nearest depth r.depth next := by
        rw [← stack, ← List.find?_not_eq_head?_dropWhile]
        simp only [← decide_not, Nat.not_le]
      simp [parents, top]
    | succ k =>
      have later : ∀ j q, rows[j]? = some q → q.depth = depth (next + 1 + j) := fun j q h => by
        rw [depths (j + 1) q h, Nat.add_right_comm, Nat.add_assoc]
      -- What the row takes off the stack is no shallower than the row, so nobody misses it.
      have pushed : ∀ d, (((r.depth, next) :: around.dropWhile fun o => r.depth ≤ o.1).find?
          fun o => o.1 < d).map Prod.snd = nearest depth d (next + 1) := fun d => by
        rw [nearest, ← here, List.find?_cons]
        by_cases small : r.depth < d
        · simp [small]
        · simp only [small, decide_false, if_false]
          rw [find?_dropWhile_depth (Nat.not_lt.mp small), stack]
      rw [parents, List.getElem?_cons_succ, getElem?_parents depth rows _ _ later pushed,
        List.getElem?_cons_succ, Nat.add_right_comm, Nat.add_assoc]

/-! ### Children -/

/-- Each link puts its node in front of what its parent has already. -/
theorem getElem?_foldr_links (p : NodeId) : ∀ (links : List (Option NodeId × NodeId))
    (lists : Array (List NodeId)), p < lists.size →
    (links.foldr (fun link lists =>
      match link.1 with
      | some p => lists.modify p (link.2 :: ·)
      | none => lists) lists)[p]? =
      lists[p]?.map (((links.filter fun link => link.1 == some p).map Prod.snd) ++ ·)
  | [], lists, _ => by simp
  | (up, c) :: links, lists, inside => by
    have ih := getElem?_foldr_links p links lists inside
    rw [List.foldr_cons]
    cases up with
    | none => simpa using ih
    | some q =>
      dsimp only
      rw [Array.getElem?_modify, ih]
      by_cases same : q = p
      · simp [same, Function.comp_def]
      · simp [same]

/-- The children of a node are the indices that it is the parent of, in order. -/
theorem getElem?_childLists {count : Nat} (up : List (Option NodeId)) {p : NodeId}
    (inside : p < count) :
    (childLists count up)[p]? =
      some ((up.zipIdx.filter fun link => link.1 == some p).map Prod.snd) := by
  refine (getElem?_foldr_links p up.zipIdx _ (by simpa using inside)).trans ?_
  simp [inside]

/-! ### Linked trees -/

/-- The links of a tree in pre-order. -/
structure Linked (t : Tree) : Prop where
  /-- A parent stands before its children. -/
  parent_lt : ∀ {i p : Nat}, t.parent? i = some p → p < i
  /-- The children of a node are those that it is the parent of. -/
  mem_children_iff : ∀ {c p}, c ∈ t.children p ↔ t.parent? c = some p
  /-- Children are in order. -/
  increasing : ∀ p, (t.children p).Pairwise fun c d : Nat => c < d
  /-- What stands between a node and its parent has a parent no earlier than that. -/
  nested : ∀ {i p j : Nat}, t.parent? i = some p → p < j → j < i → ∃ q, t.parent? j = some q ∧ p ≤ q

/-- A node that is there has a kind, a text and relatives; another one has none. -/
theorem get?_eq_none_iff {t : Tree} {i : Nat} : t.get? i = none ↔ t.size ≤ i :=
  Array.getElem?_eq_none_iff

theorem lt_size_of_kind {t : Tree} {i : Nat} (known : t.kind i ≠ .other) : i < t.size := by
  by_contra beyond
  refine known ?_
  rw [kind, get?_eq_none_iff.mpr (Nat.le_of_not_lt beyond)]
  rfl

theorem lt_size_of_parent? {t : Tree} {i p : Nat} (up : t.parent? i = some p) : i < t.size := by
  by_contra beyond
  rw [parent?, get?_eq_none_iff.mpr (Nat.le_of_not_lt beyond)] at up
  cases up

/-! ### Trees of rows -/

/-- The depth of each row. -/
def depthIn (rows : List Row) (i : NodeId) : Nat :=
  (rows[i]?.map Row.depth).getD 0

/-- The parent of each row of a tree. -/
def parentIn (rows : List Row) (i : NodeId) : Option NodeId :=
  rows[i]?.bind fun r => nearest (depthIn rows) r.depth i

theorem depth_eq {rows : List Row} {i : Nat} {r : Row} (row : rows[i]? = some r) :
    r.depth = depthIn rows i := by
  simp [depthIn, row]

theorem parents_eq (rows : List Row) :
    parents [] 0 rows = (List.range rows.length).map (parentIn rows) := by
  have depths : ∀ k r, rows[k]? = some r → r.depth = depthIn rows (0 + k) := fun k r row => by
    rw [depth_eq row, Nat.zero_add]
  refine List.ext_getElem? fun i => ?_
  rw [getElem?_parents (depthIn rows) rows [] 0 depths fun _ => rfl]
  cases row : rows[i]? with
  | none => simp [List.getElem?_eq_none_iff.mp row]
  | some r =>
    obtain ⟨inside, rfl⟩ := List.getElem?_eq_some_iff.mp row
    simp [parentIn, inside]

/-- The children of each row of a tree. -/
def childrenIn (rows : List Row) (p : NodeId) : List NodeId :=
  (List.range rows.length).filter fun c => parentIn rows c == some p

theorem getElem?_childLists_parents (rows : List Row) {p : NodeId} (inside : p < rows.length) :
    (childLists rows.length (parents [] 0 rows))[p]? = some (childrenIn rows p) := by
  have links : ((List.range rows.length).map (parentIn rows)).zipIdx =
      (List.range rows.length).map fun c => (parentIn rows c, c) := by
    refine List.ext_getElem? fun i => ?_
    by_cases within : i < rows.length <;> simp [within]
  rw [getElem?_childLists _ inside, parents_eq, links, List.filter_map, List.map_map]
  simp [childrenIn, Function.comp_def]

theorem get?_ofRows (text : String) (rows : List Row) (i : NodeId) :
    (ofRows text rows).get? i = rows[i]?.map fun r =>
      ⟨r.kind, r.grammar, r.span, cover text.toList r.span, parentIn rows i,
        childrenIn rows i⟩ := by
  cases row : rows[i]? with
  | none => simp [ofRows, get?, parents_eq, List.getElem?_eq_none_iff.mp row]
  | some r =>
    have inside : i < rows.length := (List.getElem?_eq_some_iff.mp row).1
    have pair : (rows.zip (parents [] 0 rows))[i]? = some (r, parentIn rows i) :=
      List.getElem?_zip_eq_some.mpr ⟨row, by simp [parents_eq, inside]⟩
    simp [ofRows, get?, pair, getElem?_childLists_parents rows inside]

theorem parent?_ofRows (text : String) (rows : List Row) (i : NodeId) :
    (ofRows text rows).parent? i = parentIn rows i := by
  rw [parent?, get?_ofRows]
  cases row : rows[i]? <;> simp [parentIn, row]

/-- **The parent of a row is the nearest earlier row of smaller depth.** -/
theorem parentIn_eq_some_iff {rows : List Row} {i p : Nat} :
    parentIn rows i = some p ↔ i < rows.length ∧ p < i ∧ depthIn rows p < depthIn rows i ∧
      ∀ j, p < j → j < i → depthIn rows i ≤ depthIn rows j := by
  rw [parentIn, Option.bind_eq_some_iff]
  constructor
  · rintro ⟨r, row, near⟩
    exact ⟨(List.getElem?_eq_some_iff.mp row).1, depth_eq row ▸ nearest_eq_some_iff.mp near⟩
  · rintro ⟨inside, near⟩
    have row : rows[i]? = some rows[i] := List.getElem?_eq_getElem inside
    exact ⟨rows[i], row, depth_eq row ▸ nearest_eq_some_iff.mpr near⟩

theorem children_ofRows (text : String) (rows : List Row) (p : Nat) :
    (ofRows text rows).children p = childrenIn rows p := by
  rw [children, get?_ofRows]
  cases row : rows[p]? with
  | some r => rfl
  | none =>
    have outside : ∀ c ∈ List.range rows.length, ¬ (parentIn rows c == some p) = true := by
      intro c within up
      obtain ⟨-, before, -⟩ := parentIn_eq_some_iff.mp (eq_of_beq up)
      have := List.getElem?_eq_none_iff.mp row
      have := List.mem_range.mp within
      omega
    exact (List.filter_eq_nil_iff.mpr outside).symm

/-- **Every tree of rows is linked.** -/
theorem linked_ofRows (text : String) (rows : List Row) : (ofRows text rows).Linked where
  parent_lt up := (parentIn_eq_some_iff.mp (parent?_ofRows text rows _ ▸ up)).2.1
  mem_children_iff {c p} := by
    rw [children_ofRows, parent?_ofRows, childrenIn, List.mem_filter, List.mem_range, beq_iff_eq,
      and_iff_right_iff_imp]
    exact fun up => (parentIn_eq_some_iff.mp up).1
  increasing p := by
    rw [children_ofRows]
    exact List.Pairwise.filter _ List.pairwise_lt_range
  nested {i p j} up after earlier := by
    -- The parent is shallower than all that stands in between, so there it is found at the latest.
    rw [parent?_ofRows] at up ⊢
    obtain ⟨inside, -, small, between⟩ := parentIn_eq_some_iff.mp up
    have row : rows[j]? = some rows[j] := List.getElem?_eq_getElem (by omega)
    have deeper : depthIn rows p < rows[j].depth :=
      depth_eq row ▸ Nat.lt_of_lt_of_le small (between j after earlier)
    obtain ⟨q, near, le⟩ := exists_nearest deeper after
    exact ⟨q, by rw [parentIn, row]; exact near, le⟩

end ElmAssist.Tree
