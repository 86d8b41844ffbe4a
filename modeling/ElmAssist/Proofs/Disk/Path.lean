import ElmAssist.Disk.Path
import Mathlib.Data.List.Induction

/-!
# Disk — Direct paths

A path is direct when it starts at the root and goes down only, from name to name.

* `compare_eq_iff_same`: paths compare equal when their steps are the same.
* `cut_append_slash`: what a slash between two runs of bytes does to their pieces.
* `IsDirect.exists_names`: the steps of a direct path are the root and names.
* `steps_join`: the steps of a path with a name below it.
* `isDirect_normalize`: the plain spelling of an absolute path is direct.
-/

namespace ElmAssist.Path

/-! ### Spellings -/

/-- Components that compare equal are equal: their kind tells their form. -/
instance : Std.LawfulEqOrd Component where
  eq_of_compare {a b} same := by
    obtain ⟨kinds, written⟩ := Ordering.then_eq_eq.mp same
    have rank : a.rank = b.rank := Std.LawfulEqOrd.eq_of_compare kinds
    have bytes : a.bytes = b.bytes := Std.LawfulEqOrd.eq_of_compare written
    cases a <;> cases b <;> simp_all [Component.rank, Component.bytes]

/-- Paths compare equal when they are spellings of one sequence of steps. -/
theorem compare_eq_iff_same {p q : Path} : compare p q = .eq ↔ p.same q = true := by
  have steps : compare p q = compare p.components q.components := rfl
  rw [steps, Std.LawfulEqCmp.compare_eq_iff_eq, same, decide_eq_true_iff]

/-! ### Pieces -/

theorem cut_ne_nil (bs : List UInt8) : cut bs ≠ [] := by
  cases bs with
  | nil => simp [cut]
  | cons b bs =>
    rw [cut]
    split
    · simp
    · split <;> simp

/-- A byte that is no slash is put before the first piece of the others. -/
theorem cut_cons_of_ne {b : UInt8} (other : b ≠ slash) (bs : List UInt8) :
    ∃ s ss, cut bs = s :: ss ∧ cut (b :: bs) = (b :: s) :: ss := by
  obtain ⟨s, ss, pieces⟩ := List.exists_cons_of_ne_nil (cut_ne_nil bs)
  exact ⟨s, ss, pieces, by rw [cut, if_neg other, pieces]⟩

theorem cut_append_slash (a b : List UInt8) : cut (a ++ slash :: b) = cut a ++ cut b := by
  induction a with
  | nil =>
    have start : cut (slash :: b) = [] :: cut b := if_pos rfl
    rw [List.nil_append, start]
    rfl
  | cons x a ih =>
    by_cases cuts : x = slash
    · rw [List.cons_append, cut, if_pos cuts, ih, cut, if_pos cuts, List.cons_append]
    · obtain ⟨s, ss, pieces, all⟩ := cut_cons_of_ne cuts a
      rw [List.cons_append, cut, if_neg cuts, ih, pieces, all]
      rfl

theorem cut_of_no_slash {bs : List UInt8} (whole : slash ∉ bs) : cut bs = [bs] := by
  induction bs with
  | nil => rfl
  | cons b bs ih =>
    obtain ⟨other, rest⟩ := not_or.mp (List.mem_cons.not.mp whole)
    rw [cut, if_neg (Ne.symm other), ih rest]

theorem no_slash_of_mem_cut {s : List UInt8} : ∀ {bs : List UInt8}, s ∈ cut bs → slash ∉ s
  | [], mem => by
    obtain rfl := List.mem_singleton.mp mem
    simp
  | b :: bs, mem => by
    by_cases cuts : b = slash
    · rw [cut, if_pos cuts] at mem
      rcases List.mem_cons.mp mem with rfl | mem
      · simp
      · exact no_slash_of_mem_cut mem
    · obtain ⟨t, ts, pieces, all⟩ := cut_cons_of_ne cuts bs
      have inside {u : List UInt8} (also : u ∈ t :: ts) : slash ∉ u :=
        no_slash_of_mem_cut (pieces ▸ also)
      rw [all] at mem
      rcases List.mem_cons.mp mem with rfl | mem
      · exact List.mem_cons.not.mpr (not_or.mpr ⟨Ne.symm cuts, inside List.mem_cons_self⟩)
      · exact inside (List.mem_cons_of_mem _ mem)

/-! ### Names -/

/-- The bytes may be the name of an entry. -/
structure IsName (bs : List UInt8) : Prop where
  nonempty : bs ≠ []
  ne_current : bs ≠ Component.current.bytes
  ne_parent : bs ≠ Component.parent.bytes
  no_slash : slash ∉ bs

instance (bs : List UInt8) : Decidable (IsName bs) :=
  decidable_of_iff (bs ≠ [] ∧ bs ≠ Component.current.bytes ∧ bs ≠ Component.parent.bytes ∧ slash ∉ bs)
    ⟨fun ⟨a, b, c, d⟩ => ⟨a, b, c, d⟩, fun ⟨a, b, c, d⟩ => ⟨a, b, c, d⟩⟩

theorem IsName.component? {n : List UInt8} (h : IsName n) : component? n = some (.name n) := by
  simp [Path.component?, h.nonempty, h.ne_current, h.ne_parent]

/-- What a piece stands for: nothing, the directory above, or a name. -/
theorem component?_cases (s : List UInt8) (whole : slash ∉ s) :
    component? s = none ∨ component? s = some .parent ∨
      IsName s ∧ component? s = some (.name s) := by
  unfold component?
  split
  · exact Or.inl rfl
  · rename_i nonempty
    split
    · exact Or.inl rfl
    · rename_i ne_current
      split
      · exact Or.inr (Or.inl rfl)
      · rename_i ne_parent
        exact Or.inr (Or.inr ⟨⟨nonempty, ne_current, ne_parent, whole⟩, rfl⟩)

/-- The steps of a path behind its start. -/
def steps (p : Path) : List Component :=
  p.segments.filterMap Path.component?

variable {p : Path}

theorem mem_steps {c : Component} (mem : c ∈ p.steps) : c = .parent ∨ ∃ n, IsName n ∧ c = .name n := by
  obtain ⟨s, piece, stands⟩ := List.mem_filterMap.mp mem
  rcases component?_cases s (no_slash_of_mem_cut piece) with none | parent | ⟨name, named⟩
  · cases none.symm.trans stands
  · obtain rfl := Option.some.inj (parent.symm.trans stands)
    exact Or.inl rfl
  · obtain rfl := Option.some.inj (named.symm.trans stands)
    exact Or.inr ⟨s, name, rfl⟩

theorem components_of_absolute (absolute : p.isAbsolute = true) :
    p.components = .root :: p.steps := by
  simp [components, steps, absolute]

theorem components_of_relative (relative : ¬ p.isAbsolute = true) :
    p.components = p.steps ∨ p.components = .current :: p.steps := by
  unfold components
  dsimp only
  rw [if_neg relative]
  split
  · exact Or.inr rfl
  · exact Or.inl rfl

/-- A step up is no start. -/
theorem parent_mem_components_iff : .parent ∈ p.components ↔ .parent ∈ p.steps := by
  by_cases absolute : p.isAbsolute = true
  · simp [components_of_absolute absolute]
  · rcases components_of_relative absolute with same | same <;> simp [same]

/-! ### Direct paths -/

/-- The path is absolute and does not go up. -/
structure IsDirect (p : Path) : Prop where
  absolute : p.isAbsolute = true
  no_parent : .parent ∉ p.components

/-- The steps of a path that does not go up are names. -/
theorem exists_names_of_down (down : .parent ∉ p.components) :
    ∃ names : List (List UInt8), (∀ n ∈ names, IsName n) ∧ p.steps = names.map .name := by
  have named : ∀ c ∈ p.steps, ∃ n, IsName n ∧ .name n = c := by
    intro c mem
    rcases mem_steps mem with rfl | ⟨n, name, rfl⟩
    · exact absurd (parent_mem_components_iff.mpr mem) down
    · exact ⟨n, name, rfl⟩
  generalize p.steps = cs at named
  induction cs with
  | nil => exact ⟨[], nofun, rfl⟩
  | cons c cs ih =>
    obtain ⟨⟨n, name, rfl⟩, later⟩ := List.forall_mem_cons.mp named
    obtain ⟨names, all, rfl⟩ := ih later
    exact ⟨n :: names, List.forall_mem_cons.mpr ⟨name, all⟩, rfl⟩

/-- **The steps of a direct path** are the root and names. -/
theorem IsDirect.exists_names (h : p.IsDirect) :
    ∃ names : List (List UInt8),
      (∀ n ∈ names, IsName n) ∧ p.components = .root :: names.map .name := by
  obtain ⟨names, all, steps⟩ := exists_names_of_down h.no_parent
  exact ⟨names, all, by rw [components_of_absolute h.absolute, steps]⟩

theorem IsDirect.of_names (absolute : p.isAbsolute = true) {names : List (List UInt8)}
    (components : p.components = .root :: names.map .name) : p.IsDirect := by
  refine ⟨absolute, ?_⟩
  rw [components]
  simp

theorem join_absolute (absolute : p.isAbsolute = true) (q : Path) :
    (p.join q).isAbsolute = true := by
  unfold join
  split
  · assumption
  · obtain ⟨bytes⟩ := p
    cases bytes with
    | nil => simp [isAbsolute] at absolute
    | cons b bytes =>
      split
      · rename_i empty
        simp at empty
      · split <;> simpa [isAbsolute] using absolute

/-! ### Names below a path -/

/-- The steps of a path with a relative one below it. -/
theorem steps_join_of_relative {q : Path} (relative : q.isAbsolute = false) (p : Path) :
    (p.join q).steps = p.steps ++ q.steps := by
  have empty : (cut []).filterMap Path.component? = [] := rfl
  obtain ⟨bytes⟩ := p
  unfold join
  rw [relative]
  cases final : bytes.getLast? with
  | none =>
    obtain rfl := List.getLast?_eq_none_iff.mp final
    simp [steps, segments, empty]
  | some b =>
    obtain ⟨front, rfl⟩ := List.getLast?_eq_some_iff.mp final
    by_cases cuts : b = slash
    · -- The slash at the end is the one between the two.
      subst cuts
      simp [steps, segments, List.append_assoc, cut_append_slash, empty]
    · have pieces := congrArg (List.filterMap Path.component?)
        (cut_append_slash (front ++ [b]) q.bytes)
      simpa [cuts, steps, segments] using pieces

theorem IsName.relative {n : List UInt8} (name : IsName n) : (Path.mk n).isAbsolute = false := by
  cases n with
  | nil => rfl
  | cons b n =>
    have other := (not_or.mp (List.mem_cons.not.mp name.no_slash)).1
    simpa [isAbsolute] using Ne.symm other

theorem IsName.steps {n : List UInt8} (name : IsName n) : (Path.mk n).steps = [.name n] := by
  simp [Path.steps, segments, cut_of_no_slash name.no_slash, name.component?]

/-- The steps of a path with a name below it. -/
theorem steps_join {n : List UInt8} (name : IsName n) (p : Path) :
    (p.join ⟨n⟩).steps = p.steps ++ [.name n] := by
  rw [steps_join_of_relative name.relative, name.steps]

/-- A path stays one that does not go up when a name is put below it. -/
theorem parent_notMem_join {n : List UInt8} (name : IsName n) (down : .parent ∉ p.components) :
    .parent ∉ (p.join ⟨n⟩).components := by
  rw [parent_mem_components_iff] at down ⊢
  rw [steps_join name]
  simpa using down

/-! ### The plain spelling -/

/-- The path of the root and names has these steps. -/
theorem ofComponents_names (names : List (List UInt8)) (all : ∀ n ∈ names, IsName n) :
    (ofComponents (.root :: names.map .name)).isAbsolute = true ∧
      (ofComponents (.root :: names.map .name)).components = .root :: names.map .name := by
  induction names using List.reverseRecOn with
  | nil => exact ⟨rfl, rfl⟩
  | append_singleton names n ih =>
    obtain ⟨before, last⟩ := List.forall_mem_append.mp all
    obtain ⟨absolute, components⟩ := ih before
    have joined : ofComponents (.root :: (names ++ [n]).map .name) =
        (ofComponents (.root :: names.map .name)).join ⟨n⟩ := by
      simp [ofComponents, List.foldl_append, Component.bytes]
    have stays := join_absolute absolute ⟨n⟩
    rw [components_of_absolute absolute] at components
    rw [joined, components_of_absolute stays, steps_join (last n List.mem_cons_self)]
    exact ⟨stays, by simp [(List.cons.inj components).2]⟩

/-- Folding steps onto the root and names leaves the root and names, which were there or come in. -/
theorem foldl_fold (steps : List Component) (kept : List (List UInt8)) :
    ∃ names : List (List UInt8),
      steps.foldl fold (kept.map .name ++ [.root]) = names.map .name ++ [.root] ∧
      ∀ n ∈ names, n ∈ kept ∨ .name n ∈ steps := by
  induction steps generalizing kept with
  | nil => exact ⟨kept, rfl, fun n => Or.inl⟩
  | cons c steps ih =>
    obtain ⟨next, stack, here⟩ : ∃ next : List (List UInt8),
        fold (kept.map .name ++ [.root]) c = next.map .name ++ [.root] ∧
          ∀ n ∈ next, n ∈ kept ∨ c = .name n := by
      cases c with
      | root => exact ⟨[], by cases kept <;> rfl, nofun⟩
      | current => exact ⟨kept, rfl, fun n => Or.inl⟩
      | parent =>
        cases kept with
        | nil => exact ⟨[], rfl, nofun⟩
        | cons m kept => exact ⟨kept, rfl, fun n mem => Or.inl (List.mem_cons_of_mem _ mem)⟩
      | name m =>
        refine ⟨m :: kept, by cases kept <;> rfl, fun n mem => ?_⟩
        rcases List.mem_cons.mp mem with rfl | mem
        · exact Or.inr rfl
        · exact Or.inl mem
    obtain ⟨names, folded, later⟩ := ih next
    refine ⟨names, ?_, fun n mem => ?_⟩
    · rw [List.foldl_cons, stack, folded]
    · rcases later n mem with mem | mem
      · rcases here n mem with mem | rfl
        · exact Or.inl mem
        · exact Or.inr List.mem_cons_self
      · exact Or.inr (List.mem_cons_of_mem _ mem)

/-- **The plain spelling of an absolute path is direct.** -/
theorem isDirect_normalize (absolute : p.isAbsolute = true) : p.normalize.IsDirect := by
  obtain ⟨names, folded, all⟩ := foldl_fold p.steps []
  have name : ∀ n ∈ names.reverse, IsName n := by
    intro n mem
    rcases all n (List.mem_reverse.mp mem) with none | mem
    · cases none
    · rcases mem_steps mem with same | ⟨m, name, same⟩
      · cases same
      · cases same
        exact name
  have plain : foldAll p.components = .root :: names.reverse.map .name := by
    rw [foldAll, components_of_absolute absolute, List.foldl_cons]
    have start : fold [] .root = ([] : List (List UInt8)).map .name ++ [.root] := rfl
    rw [start, folded]
    simp
  obtain ⟨stays, components⟩ := ofComponents_names names.reverse name
  rw [normalize, plain]
  exact .of_names stays components

end ElmAssist.Path
