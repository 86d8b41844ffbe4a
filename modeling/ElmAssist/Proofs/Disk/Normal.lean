import ElmAssist.Proofs.Disk.Path
import Mathlib.Data.List.Basic
import Mathlib.Logic.Relation

/-!
# Disk — Plain spellings

`normalize` goes over the steps of a path with a stack. Names are put on it, and a step up takes one
off, as long as there is one; at the root it does nothing, and in a relative path it stays.

* `Stack`: the stacks there are. `stack_kept`: going over a path leaves one of them.
* `Stack.spelled`: the path with the steps of a stack leaves that stack.
* `components_normalize`, `normalize_normalize`: so the plain spelling has the steps of the stack, and
  is the plain spelling of itself.
* `normalize_join`: what is joined to a path can as well be joined to its plain spelling.
* `Respelled.normalize_join`: `.` between two pieces, or a name and `..`, change nothing.
-/

namespace ElmAssist.Path

variable {p q : Path} {absolute : Bool} {cs : List Component}

/-! ### Joined paths -/

theorem isAbsolute_join (p q : Path) : (p.join q).isAbsolute = (p.isAbsolute || q.isAbsolute) := by
  by_cases other : q.isAbsolute = true
  · simp [join, other]
  · by_cases here : p.isAbsolute = true
    · rw [join_absolute here, here, Bool.true_or]
    · obtain ⟨bytes⟩ := p
      cases bytes with
      | nil => simp [join, isAbsolute]
      | cons b bytes =>
        have first : b ≠ slash := by simpa [isAbsolute] using here
        unfold join
        rw [if_neg other]
        split
        · simp_all
        · split <;> simp_all [isAbsolute]

/-- The first piece of a path stays when something is put below it. -/
theorem head?_segments_join (some : p.bytes ≠ []) (relative : q.isAbsolute = false) :
    (p.join q).segments.head? = p.segments.head? := by
  have front (as bs : List UInt8) : (cut (as ++ slash :: bs)).head? = (cut as).head? := by
    rw [cut_append_slash, List.head?_append_of_ne_nil (cut as) (cut_ne_nil as)]
  obtain ⟨bytes⟩ := p
  unfold join
  rw [relative]
  cases final : bytes.getLast? with
  | none => exact absurd (List.getLast?_eq_none_iff.mp final) some
  | some b =>
    obtain ⟨before, rfl⟩ := List.getLast?_eq_some_iff.mp final
    by_cases cuts : b = slash
    · subst cuts
      simp [segments, front]
    · have kept := front (before ++ [b]) q.bytes
      simpa [cuts, segments] using kept

/-! ### Stacks -/

/-- The stacks of `normalize`, last step first: names on the root, or on steps up. -/
inductive Stack : Bool → List Component → Prop
  | root : Stack true [.root]
  | up (k : Nat) : Stack false (List.replicate k .parent)
  | down {absolute : Bool} {cs : List Component} {n : List UInt8} (name : IsName n)
      (below : Stack absolute cs) : Stack absolute (.name n :: cs)

/-- The stack before the first step. -/
def base (absolute : Bool) : List Component :=
  if absolute then [.root] else []

/-- The stack behind the last step. -/
def kept (p : Path) : List Component :=
  p.steps.foldl fold (base p.isAbsolute)

/-- A name is put on any stack. -/
theorem fold_name (cs : List Component) (n : List UInt8) : fold cs (.name n) = .name n :: cs := by
  rcases cs with _ | ⟨_ | _ | _ | _, _⟩ <;> rfl

/-- A name and the step back leave a stack as it was. -/
theorem fold_back (cs : List Component) (n : List UInt8) : fold (fold cs (.name n)) .parent = cs := by
  rw [fold_name]
  rfl

theorem stack_base : ∀ absolute, Stack absolute (base absolute)
  | true => .root
  | false => .up 0

/-- **A step leads from stack to stack.** -/
theorem Stack.next (stack : Stack absolute cs) {c : Component}
    (step : c = .parent ∨ ∃ n, IsName n ∧ c = .name n) : Stack absolute (fold cs c) := by
  rcases step with rfl | ⟨n, name, rfl⟩
  · cases stack with
    | root => exact .root
    | up k =>
      cases k with
      | zero => exact .up 1
      | succ k => exact .up (k + 2)
    | down name below => exact below
  · rw [fold_name]
    exact .down name stack

/-- Going over a path leaves a stack. -/
theorem stack_kept (p : Path) : Stack p.isAbsolute p.kept := by
  have run : ∀ {steps : List Component} {cs : List Component}, Stack p.isAbsolute cs →
      (∀ c ∈ steps, c = .parent ∨ ∃ n, IsName n ∧ c = .name n) →
      Stack p.isAbsolute (steps.foldl Path.fold cs) := by
    intro steps
    induction steps with
    | nil => exact fun stack _ => stack
    | cons c steps ih =>
      intro cs stack all
      obtain ⟨first, later⟩ := List.forall_mem_cons.mp all
      exact ih (stack.next first) later
  exact run (stack_base _) fun c => mem_steps

/-- What `normalize` keeps are the steps of the stack. The `.` at the start of a path does not
count. -/
theorem foldAll_components (p : Path) : foldAll p.components = p.kept.reverse := by
  have start : fold [] .root = base true := rfl
  have skip : fold [] .current = base false := rfl
  unfold foldAll kept
  by_cases absolute : p.isAbsolute = true
  · rw [components_of_absolute absolute, List.foldl_cons, absolute, start]
  · rw [Bool.eq_false_iff.mpr absolute]
    rcases components_of_relative absolute with same | same
    · rw [same]
      rfl
    · rw [same, List.foldl_cons, skip]

theorem normalize_eq (p : Path) : p.normalize = ofComponents p.kept.reverse :=
  congrArg ofComponents (foldAll_components p)

/-! ### The path of a stack -/

/-- The path goes the steps of a stack, and is not spelled with a `.` at its start. -/
structure Spells (p : Path) (absolute : Bool) (cs : List Component) : Prop where
  start : p.isAbsolute = absolute
  plain : p.segments.head? ≠ some Component.current.bytes
  kept : p.kept = cs
  steps : base absolute ++ p.steps = cs.reverse

theorem Spells.components (h : Spells p absolute cs) : p.components = cs.reverse := by
  rw [← h.steps, ← h.start]
  unfold Path.components
  dsimp only
  by_cases absolute : p.isAbsolute = true
  · rw [if_pos absolute, absolute]
    rfl
  · rw [if_neg absolute, if_neg h.plain, Bool.eq_false_iff.mpr absolute]
    rfl

/-- A step that is put on the stack is written behind the path. -/
theorem Spells.join (h : Spells p absolute cs) {c : Component}
    (step : c = .parent ∨ ∃ n, IsName n ∧ c = .name n) (push : fold cs c = c :: cs) :
    Spells (p.join ⟨c.bytes⟩) absolute (c :: cs) := by
  obtain ⟨relative, written, first⟩ : (Path.mk c.bytes).isAbsolute = false ∧
      (Path.mk c.bytes).steps = [c] ∧
      (Path.mk c.bytes).segments.head? ≠ some Component.current.bytes := by
    rcases step with rfl | ⟨n, name, rfl⟩
    · decide
    · refine ⟨name.relative, name.steps, ?_⟩
      have whole : (Path.mk n).segments = [n] := cut_of_no_slash name.no_slash
      change (Path.mk n).segments.head? ≠ some Component.current.bytes
      rw [whole]
      exact fun same => name.ne_current (Option.some.inj same)
  have start : (p.join ⟨c.bytes⟩).isAbsolute = p.isAbsolute := by
    rw [isAbsolute_join, relative, Bool.or_false]
  have steps := steps_join_of_relative relative p
  rw [written] at steps
  refine ⟨start.trans h.start, ?_, ?_, ?_⟩
  · by_cases empty : p.bytes = []
    · have alone : p.join ⟨c.bytes⟩ = ⟨c.bytes⟩ := by simp [Path.join, empty]
      rw [alone]
      exact first
    · rw [head?_segments_join empty relative]
      exact h.plain
  · have before : p.steps.foldl fold (base p.isAbsolute) = cs := h.kept
    rw [Path.kept, start, steps, List.foldl_append, before]
    exact push
  · rw [steps, ← List.append_assoc, h.steps, List.reverse_cons]

/-- **The path with the steps of a stack** leaves that stack. -/
theorem Stack.spelled (stack : Stack absolute cs) : Spells (ofComponents cs.reverse) absolute cs := by
  have written (cs : List Component) (c : Component) :
      ofComponents (c :: cs).reverse = (ofComponents cs.reverse).join ⟨c.bytes⟩ := by
    rw [List.reverse_cons, ofComponents, List.foldl_append]
    rfl
  induction stack with
  | root => exact ⟨rfl, by decide, rfl, rfl⟩
  | up k =>
    induction k with
    | zero => exact ⟨rfl, by decide, rfl, rfl⟩
    | succ k ih =>
      have push : fold (List.replicate k .parent) .parent = .parent :: List.replicate k .parent := by
        cases k <;> rfl
      rw [List.replicate_succ, written]
      exact ih.join (Or.inl rfl) push
  | @down absolute cs n name below ih =>
    rw [written]
    exact ih.join (Or.inr ⟨n, name, rfl⟩) (fold_name cs n)

/-! ### The plain spelling -/

theorem spells_normalize (p : Path) : Spells p.normalize p.isAbsolute p.kept :=
  normalize_eq p ▸ (stack_kept p).spelled

/-- **The steps of the plain spelling** are those of the stack. -/
theorem components_normalize (p : Path) : p.normalize.components = p.kept.reverse :=
  (spells_normalize p).components

/-- Paths that leave one stack have one plain spelling. -/
theorem normalize_congr (same : p.kept = q.kept) : p.normalize = q.normalize := by
  rw [normalize_eq, normalize_eq, same]

/-- **The plain spelling is that of itself.** -/
theorem normalize_normalize (p : Path) : p.normalize.normalize = p.normalize :=
  normalize_congr (spells_normalize p).kept

/-- A stack from below: the root, or steps up, and then names. -/
theorem Stack.exists_names (stack : Stack absolute cs) :
    ∃ (k : Nat) (names : List (List UInt8)), (∀ n ∈ names, IsName n) ∧
      cs.reverse = (if absolute then [.root] else List.replicate k .parent) ++ names.map .name := by
  induction stack with
  | root => exact ⟨0, [], nofun, rfl⟩
  | up k => exact ⟨k, [], nofun, by simp⟩
  | @down absolute cs n name below ih =>
    obtain ⟨k, names, all, spelled⟩ := ih
    refine ⟨k, names ++ [n], ?_, ?_⟩
    · exact List.forall_mem_append.mpr ⟨all, List.forall_mem_singleton.mpr name⟩
    · rw [List.reverse_cons, spelled, List.map_append, List.append_assoc]
      rfl

/-! ### Joining to the plain spelling -/

/-- A relative path that is joined goes on from the stack. -/
theorem kept_join (relative : q.isAbsolute = false) (p : Path) :
    (p.join q).kept = q.steps.foldl fold p.kept := by
  rw [kept, isAbsolute_join, relative, Bool.or_false, steps_join_of_relative relative,
    List.foldl_append]
  rfl

/-- **What is joined to a path can be joined to its plain spelling.** -/
theorem normalize_join (p q : Path) : (p.join q).normalize = (p.normalize.join q).normalize := by
  by_cases absolute : q.isAbsolute = true
  · simp [join, absolute]
  · have relative := Bool.eq_false_iff.mpr absolute
    refine normalize_congr ?_
    rw [kept_join relative, kept_join relative, (spells_normalize p).kept]

/-! ### Detours -/

/-- The second path is the first with a detour between two of its pieces, and starts where the first
does. -/
inductive Detour (p q : Path) : Prop
  /-- A `.`, where one stays. -/
  | stay {before after : List (List UInt8)} (start : q.isAbsolute = p.isAbsolute)
      (short : p.segments = before ++ after)
      (long : q.segments = before ++ Component.current.bytes :: after)
  /-- A name and `..`, where one comes back. -/
  | back {before after : List (List UInt8)} {n : List UInt8} (name : IsName n)
      (start : q.isAbsolute = p.isAbsolute) (short : p.segments = before ++ after)
      (long : q.segments = before ++ n :: Component.parent.bytes :: after)

/-- The second path is the first with any number of detours, also within detours. -/
def Respelled : Path → Path → Prop :=
  Relation.ReflTransGen Detour

/-- A detour leads from each stack to the same. -/
theorem Detour.foldl_steps (h : Detour p q) (cs : List Component) :
    q.steps.foldl fold cs = p.steps.foldl fold cs := by
  cases h with
  | @stay before after start short long =>
    have none : component? Component.current.bytes = none := rfl
    rw [steps, steps, short, long, List.filterMap_append, List.filterMap_cons_none none,
      List.filterMap_append]
  | @back before after n name start short long =>
    have up : component? Component.parent.bytes = some .parent := rfl
    rw [steps, steps, short, long, List.filterMap_append, List.filterMap_cons_some name.component?,
      List.filterMap_cons_some up, List.filterMap_append, List.foldl_append, List.foldl_append,
      List.foldl_cons, List.foldl_cons, fold_back]

theorem Detour.start (h : Detour p q) : q.isAbsolute = p.isAbsolute := by
  cases h <;> assumption

/-- A detour in what is joined does not count. -/
theorem Detour.normalize_join (h : Detour p q) (root : Path) :
    (root.join q).normalize = (root.join p).normalize := by
  by_cases absolute : p.isAbsolute = true
  · have alone : root.join q = q ∧ root.join p = p := by simp [join, h.start, absolute]
    rw [alone.1, alone.2]
    refine normalize_congr ?_
    rw [kept, kept, h.start, h.foldl_steps]
  · have relative := Bool.eq_false_iff.mpr absolute
    refine normalize_congr ?_
    rw [kept_join (h.start.trans relative), kept_join relative, h.foldl_steps]

/-- **All spellings with detours are one place**, below any root. -/
theorem Respelled.normalize_join (h : Respelled p q) (root : Path) :
    (root.join q).normalize = (root.join p).normalize := by
  induction h with
  | refl => rfl
  | tail _ detour ih => exact (detour.normalize_join root).trans ih

theorem Respelled.normalize (h : Respelled p q) : q.normalize = p.normalize := by
  have empty (r : Path) : (Path.mk []).join r = r := by simp [join]
  have below := h.normalize_join ⟨[]⟩
  rwa [empty, empty] at below

end ElmAssist.Path
