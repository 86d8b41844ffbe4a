import ElmAssist.Name.Resolution
import ElmAssist.Proofs.Forest.Edits
import ElmAssist.Proofs.Module.Declarations

/-!
# Name — Values in their scopes

What a value means that stands without a qualifier. Four kinds of nodes around it may bind its name,
and of two bindings the one in the inner scope counts, in one scope the first in source order.

* `Binds`: a scope binds a name at a node.
* `binding_givesFirst`: what is found for a scope is the first of its bindings.
* `lookup?_eq_some_iff`: what is found for a node is the first binding of the innermost scope around
  it that has one.
* `Forest.unqualified_value_resolved`: a value is what the innermost scope binds; else what the top
  of its file declares; else what the imports say.
-/

namespace ElmAssist.Scope

open ElmAssist.Tree (GivesFirst givesFirst_find? givesFirst_findSome? givesFirst_ite
  givesFirst_none)

variable {t : Tree} {name : String}

/-! ### Bindings -/

/-- A pattern variable of the name, at or below a node. -/
structure PatternVariable (t : Tree) (name : String) (i b : NodeId) : Prop where
  below : t.AtOrBelow i b
  kind : t.kind b = .lowerPattern
  text : t.textOf b = name

/-- A scope binds a name at a node. -/
inductive Binds (t : Tree) (name : String) (scope : NodeId) : NodeId → Prop
  /-- A branch binds what its pattern, its first child, has. -/
  | branch {c b : NodeId} : t.kind scope = .caseOfBranch →
      (t.codeChildren scope).head? = some c → PatternVariable t name c b → Binds t name scope b
  /-- A let expression binds what it declares. -/
  | declaration {d : NodeId} : t.kind scope = .letInExpr → d ∈ t.children scope →
      t.kind d = .valueDeclaration → Module.declaredValue? t d = some name → Binds t name scope d
  /-- A let expression binds what the pattern of a declaration has. -/
  | destructuring {d p b : NodeId} : t.kind scope = .letInExpr → d ∈ t.children scope →
      t.kind d = .valueDeclaration → t.childOfKind? d .pattern = some p →
      PatternVariable t name p b → Binds t name scope b
  /-- An anonymous function binds what its arguments have, all its children but the body. -/
  | argument {c b : NodeId} : t.kind scope = .anonymousFunctionExpr →
      c ∈ (t.codeChildren scope).dropLast → PatternVariable t name c b → Binds t name scope b
  /-- A declaration binds what its parameters have, the children after the name on its left. -/
  | parameter {left c b : NodeId} : t.kind scope = .valueDeclaration →
      t.childOfKind? scope .functionDeclarationLeft = some left →
      c ∈ (t.codeChildren left).tail → PatternVariable t name c b → Binds t name scope b

variable (h : t.Linked)
include h

theorem patternVariable_givesFirst (i : NodeId) :
    GivesFirst (patternVariable? t i name) {b | PatternVariable t name i b} := by
  have order := (h.descendants_increasing i).filter fun d => t.kind d == .lowerPattern
  refine (givesFirst_find? order).congr fun b => ⟨fun ⟨below, kind, text⟩ => ?_, ?_⟩
  · -- A node of a kind is in the tree, and so is all above it.
    have inside : b < t.size := Tree.lt_size_of_kind (by rw [kind]; nofun)
    have start := Nat.lt_of_le_of_lt (h.le_of_atOrBelow below) inside
    refine ⟨List.mem_filter.mpr ⟨h.mem_descendants_iff.mpr ⟨start, below⟩, ?_⟩, ?_⟩
    · exact beq_iff_eq.mpr kind
    · exact beq_iff_eq.mpr text
  · rintro ⟨mem, text⟩
    obtain ⟨visited, kind⟩ := List.mem_filter.mp mem
    exact ⟨(h.mem_descendants_iff.mp visited).2, beq_iff_eq.mp kind, beq_iff_eq.mp text⟩

/-- A declaration of a let expression is its own first binding. -/
theorem letBinding_givesFirst (d : NodeId) :
    GivesFirst (letBinding? t name d) {b | b = d ∧ Module.declaredValue? t d = some name ∨
      ∃ p, t.childOfKind? d .pattern = some p ∧ PatternVariable t name p b} := by
  have pattern : GivesFirst ((t.childOfKind? d .pattern).bind (patternVariable? t · name))
      {b | ∃ p, t.childOfKind? d .pattern = some p ∧ PatternVariable t name p b} := by
    cases t.childOfKind? d .pattern with
    | none => exact givesFirst_none.congr (by simp)
    | some p => exact (patternVariable_givesFirst h p).congr (by simp)
  have split : letBinding? t name d =
      (if Module.declaredValue? t d = some name then some d else none).or
        ((t.childOfKind? d .pattern).bind (patternVariable? t · name)) := by
    unfold letBinding?
    split <;> rfl
  rw [split]
  refine (givesFirst_ite d).or pattern ?_
  rintro b ⟨rfl, -⟩ c ⟨p, child, below, -, -⟩
  have first := h.lt_of_above (h.above_of_mem_children (List.mem_of_find?_eq_some child))
  exact Nat.lt_of_lt_of_le first (h.le_of_atOrBelow below)

omit h in
/-- Other scopes bind what their patterns have. -/
theorem binds_iff {scope b : NodeId} (other : t.kind scope ≠ .letInExpr) :
    Binds t name scope b ↔ ∃ c ∈ patterns t scope, PatternVariable t name c b := by
  unfold patterns
  constructor
  · rintro (⟨kind, first, var⟩ | ⟨kind, -⟩ | ⟨kind, -⟩ | ⟨kind, argument, var⟩ |
      ⟨kind, left, parameter, var⟩)
    · refine ⟨_, ?_, var⟩
      rw [kind]
      obtain ⟨rest, children⟩ := List.head?_eq_some_iff.mp first
      simp [children]
    · exact absurd kind other
    · exact absurd kind other
    · exact ⟨_, by rw [kind]; exact argument, var⟩
    · refine ⟨_, ?_, var⟩
      rw [kind]
      simpa [left] using parameter
  · rintro ⟨c, mem, var⟩
    split at mem
    · rename_i kind
      refine .branch kind ?_ var
      cases children : t.codeChildren scope with
      | nil => simp [children] at mem
      | cons d rest => simpa [children, eq_comm] using mem
    · rename_i kind
      exact .argument kind mem var
    · rename_i kind
      split at mem
      · rename_i left found
        exact .parameter kind found (by simpa using mem) var
      · cases mem
    · cases mem

/-- The patterns of a scope stand one before the other. -/
theorem patterns_before (scope : NodeId) : (patterns t scope).Pairwise t.Before := by
  have code : ∀ i, (t.codeChildren i).Pairwise t.Before := fun i => (h.children_before i).filter _
  unfold patterns
  split
  · exact (code scope).sublist (List.take_sublist ..)
  · exact (code scope).sublist (List.dropLast_sublist ..)
  · split
    · exact (code _).sublist (List.drop_sublist ..)
    · exact .nil
  · exact .nil

/-- **What is found for a scope is the first of its bindings.** -/
theorem binding_givesFirst (scope : NodeId) :
    GivesFirst (binding? t name scope) {b | Binds t name scope b} := by
  unfold binding?
  split
  · rename_i kind
    have apart : (t.childrenOfKind scope .valueDeclaration).Pairwise t.Before :=
      (h.children_before scope).filter _
    refine (givesFirst_findSome? h apart (fun d _ => letBinding_givesFirst h d) ?_).congr
      fun b => ?_
    · rintro d - b (⟨rfl, -⟩ | ⟨p, child, below, -, -⟩)
      · exact Or.inl rfl
      · exact h.atOrBelow_iff.mpr (Or.inr ⟨p, List.mem_of_find?_eq_some child, below⟩)
    · constructor
      · rintro (⟨other, -⟩ | ⟨-, child, declares, named⟩ | ⟨-, child, declares, pattern, var⟩ |
          ⟨other, -⟩ | ⟨other, -⟩)
        · exact nomatch kind.symm.trans other
        · exact ⟨b, List.mem_filter.mpr ⟨child, beq_iff_eq.mpr declares⟩, Or.inl ⟨rfl, named⟩⟩
        · exact ⟨_, List.mem_filter.mpr ⟨child, beq_iff_eq.mpr declares⟩,
            Or.inr ⟨_, pattern, var⟩⟩
        · exact nomatch kind.symm.trans other
        · exact nomatch kind.symm.trans other
      · rintro ⟨d, mem, binds⟩
        obtain ⟨child, declares⟩ := List.mem_filter.mp mem
        rcases binds with ⟨rfl, named⟩ | ⟨p, pattern, var⟩
        · exact .declaration kind child (beq_iff_eq.mp declares) named
        · exact .destructuring kind child (beq_iff_eq.mp declares) pattern var
  · rename_i other
    refine (givesFirst_findSome? h (patterns_before h scope)
      (fun c _ => patternVariable_givesFirst h c) fun c _ b var => var.below).congr fun b => ?_
    exact binds_iff other

/-! ### The innermost scope -/

omit h

/-- A scope around a node that binds a name, with no other such scope in between. -/
structure Innermost (t : Tree) (name : String) (i scope : NodeId) : Prop where
  around : t.Above scope i
  binds : ∃ b, Binds t name scope b
  nearest : ∀ other, t.Above other i → (∃ b, Binds t name other b) →
    other = scope ∨ t.Above other scope

include h

/-- The innermost scope is the parent if it binds the name; else it is that of the parent. -/
theorem innermost_iff {i p scope : NodeId} (up : t.parent? i = some p) :
    Innermost t name i scope ↔ (∃ b, Binds t name p b) ∧ scope = p ∨
      (¬ ∃ b, Binds t name p b) ∧ Innermost t name p scope := by
  have around : ∀ other, t.Above other i ↔ other = p ∨ t.Above other p := fun other => by
    rw [Tree.above_iff, up]
    simp
  constructor
  · rintro ⟨above, binds, nearest⟩
    rcases (around scope).mp above with rfl | further
    · exact Or.inl ⟨binds, rfl⟩
    · refine Or.inr ⟨fun inner => ?_, further, binds, fun other upper => ?_⟩
      · -- The scope is around the parent, so the parent is not around the scope.
        have outside := h.lt_of_above further
        rcases nearest p (.parent up) inner with rfl | upper
        · exact Nat.lt_irrefl _ outside
        · exact Nat.lt_asymm outside (h.lt_of_above upper)
      · exact nearest other ((around other).mpr (Or.inr upper))
  · rintro (⟨binds, rfl⟩ | ⟨free, further, binds, nearest⟩)
    · exact ⟨.parent up, binds, fun other above _ => (around other).mp above⟩
    · refine ⟨(around scope).mpr (Or.inr further), binds, fun other above inner => ?_⟩
      rcases (around other).mp above with rfl | upper
      · exact absurd inner free
      · exact nearest other upper inner

/-- What is found for a node is what its parent binds, or what is found for the parent. -/
theorem lookup?_eq (i : NodeId) :
    lookup? t i name = (t.parent? i).bind fun p => (binding? t name p).or (lookup? t p name) := by
  unfold lookup?
  rw [h.ancestors_eq i]
  cases t.parent? i with
  | none => rfl
  | some p =>
    rw [Option.map_some, Option.getD_some, List.findSome?_cons, Option.bind_some]
    cases binding? t name p <;> rfl

/-- **What is found for a node is the first binding of the innermost scope that has one.** -/
theorem lookup?_eq_some_iff (i : Nat) {b : NodeId} :
    lookup? t i name = some b ↔
      ∃ scope, Innermost t name i scope ∧ IsLeast {c | Binds t name scope c} b := by
  -- A parent stands before its children.
  induction i using Nat.strong_induction_on with
  | _ i ih =>
    rw [lookup?_eq h]
    cases up : t.parent? i with
    | none =>
      rw [Option.bind_none]
      refine ⟨nofun, fun ⟨scope, inner, _⟩ => ?_⟩
      obtain ⟨p, up', -⟩ := Tree.above_iff.mp inner.around
      exact nomatch up.symm.trans up'
    | some p =>
      have first : GivesFirst (binding? t name p) {b | Binds t name p b} :=
        binding_givesFirst h p
      simp only [Option.bind_some, innermost_iff h up]
      cases found : binding? t name p with
      | some c =>
        have binds : ∃ c, Binds t name p c := ⟨c, first.mem found⟩
        rw [Option.some_or, ← found, first b]
        simp [binds]
      | none =>
        have free : ¬ ∃ c, Binds t name p c := fun ⟨c, binds⟩ => first.eq_none_iff.mp found c binds
        rw [Option.none_or, ih p (h.parent_lt up)]
        simp only [free, false_and, not_false_eq_true, true_and, false_or]

/-- Nothing is found for a node when nothing around it binds the name. -/
theorem lookup?_eq_none_iff (i : Nat) :
    lookup? t i name = none ↔ ∀ scope, t.Above scope i → ∀ b, ¬ Binds t name scope b := by
  induction i using Nat.strong_induction_on with
  | _ i ih =>
    rw [lookup?_eq h]
    cases up : t.parent? i with
    | none =>
      refine ⟨fun _ scope above => ?_, fun _ => rfl⟩
      obtain ⟨p, up', -⟩ := Tree.above_iff.mp above
      exact nomatch up.symm.trans up'
    | some p =>
      have first : GivesFirst (binding? t name p) {b | Binds t name p b} :=
        binding_givesFirst h p
      rw [Option.bind_some, Option.or_eq_none_iff, first.eq_none_iff, ih p (h.parent_lt up)]
      constructor
      · rintro ⟨here, further⟩ scope above
        obtain ⟨q, up', rfl | upper⟩ := Tree.above_iff.mp above
        · cases Option.some.inj (up.symm.trans up')
          exact here
        · cases Option.some.inj (up.symm.trans up')
          exact further scope upper
      · intro free
        exact ⟨free p (.parent up), fun scope upper => free scope (.further up upper)⟩

end ElmAssist.Scope

/-! ### Values -/

namespace ElmAssist.Forest

variable {parse : Parser}

/-- What a value means that stands at a node of a file without a qualifier. -/
inductive ValueMeaning (s : Forest) (uri : String) (f : SourceFile) (i : NodeId) (name : String) :
    Resolution → Prop
  /-- The first binding of the innermost scope that has one. -/
  | bound {scope b : NodeId} : Scope.Innermost f.tree name i scope →
      IsLeast {c | Scope.Binds f.tree name scope c} b → ValueMeaning s uri f i name (.ok ⟨uri, b⟩)
  /-- The first declaration at the top of the file, if no scope binds the name. -/
  | declared {d : NodeId} :
      (∀ scope, f.tree.Above scope i → ∀ b, ¬ Scope.Binds f.tree name scope b) →
      IsLeast {c | Module.Declares f.tree name .value c} d →
      ValueMeaning s uri f i name (.ok ⟨uri, d⟩)
  /-- What the imports say, if the file has no declaration either. -/
  | imported : (∀ scope, f.tree.Above scope i → ∀ b, ¬ Scope.Binds f.tree name scope b) →
      (∀ d, ¬ Module.Declares f.tree name .value d) →
      ValueMeaning s uri f i name (s.throughImports f.module name .value)

/-- Each file of a sound forest has a linked tree and the module of that tree. -/
theorem Sound.file {s : Forest} (h : Sound parse s) {uri : String} {f : SourceFile}
    (held : s.get? uri = some f) : f.uri = uri ∧ f.tree.Linked ∧ f.module = .ofTree f.tree := by
  obtain ⟨text, version, rfl⟩ := h.built uri f held
  exact ⟨rfl, Tree.linked_ofRows .., rfl⟩

theorem unqualified_value_iff {s : Forest} (h : Sound parse s) {uri : String} {f : SourceFile}
    (held : s.get? uri = some f) (i : NodeId) (name : String) (answer : Resolution) :
    s.unqualified f i name .value = answer ↔ ValueMeaning s uri f i name answer := by
  obtain ⟨rfl, linked, ofTree⟩ := h.file held
  have bound : ∀ b, Scope.lookup? f.tree i name = some b ↔ ∃ scope,
      Scope.Innermost f.tree name i scope ∧ IsLeast {c | Scope.Binds f.tree name scope c} b :=
    fun _ => Scope.lookup?_eq_some_iff linked i
  have free : Scope.lookup? f.tree i name = none ↔
      ∀ scope, f.tree.Above scope i → ∀ b, ¬ Scope.Binds f.tree name scope b :=
    Scope.lookup?_eq_none_iff linked i
  have top : Tree.GivesFirst (f.module.declaration? name .value) _ :=
    ofTree ▸ Module.declaration_givesFirst linked name .value
  constructor
  · rintro rfl
    unfold unqualified
    dsimp only
    cases found : Scope.lookup? f.tree i name with
    | some b =>
      obtain ⟨scope, inner, first⟩ := (bound b).mp found
      exact .bound inner first
    | none =>
      have unbound := free.mp found
      cases declared : f.module.declaration? name .value with
      | some d => exact .declared unbound ((top d).mp declared)
      | none => exact .imported unbound (top.eq_none_iff.mp declared)
  · intro meaning
    unfold unqualified
    cases meaning with
    | bound inner first => simp [(bound _).mpr ⟨_, inner, first⟩]
    | declared unbound first => simp [free.mpr unbound, (top _).mpr first]
    | imported unbound missing => simp [free.mpr unbound, top.eq_none_iff.mpr missing]

/-- **A value without a qualifier is what the innermost scope around it binds**; if none binds it,
what the top of its file declares; if that does not, what the imports say. So a name means the same
at all nodes that have the same innermost scope for it. -/
theorem unqualified_value_resolved (parse : Parser) (edits : List Edit) (access : Access)
    {uri name : String} {f : SourceFile} {i : NodeId}
    (held : (after parse edits).get? uri = some f)
    (value : Reference.ofNode f.tree i = .unqualified name .value) :
    (∀ answer, (after parse edits).resolve access uri i = answer ↔
      ValueMeaning (after parse edits) uri f i name answer) ∧
    ∀ j, Reference.ofNode f.tree j = .unqualified name .value →
      (∀ scope, Scope.Innermost f.tree name i scope ↔ Scope.Innermost f.tree name j scope) →
      (after parse edits).resolve access uri j = (after parse edits).resolve access uri i := by
  obtain ⟨-, linked, -⟩ := (sound_after edits).file held
  have resolve : ∀ j, Reference.ofNode f.tree j = .unqualified name .value →
      (after parse edits).resolve access uri j =
        (after parse edits).unqualified f j name .value := fun j value => by
    rw [Forest.resolve, held]
    dsimp only
    rw [value, resolveReference]
  refine ⟨fun answer => ?_, fun j same scopes => ?_⟩
  · rw [resolve i value]
    exact unqualified_value_iff (sound_after edits) held i name answer
  · have lookup : Scope.lookup? f.tree j name = Scope.lookup? f.tree i name :=
      Option.ext fun b => by
        rw [Scope.lookup?_eq_some_iff linked, Scope.lookup?_eq_some_iff linked]
        simp only [scopes]
    rw [resolve i value, resolve j same, unqualified, unqualified, lookup]

/-- The rows of `f x = x`. -/
def identityRows : List Row :=
  let row depth kind start stop : Row :=
    ⟨depth, kind, kind.label, ⟨⟨0, start⟩, ⟨0, stop⟩, start, stop⟩⟩
  [row 0 .file 0 7, row 1 .valueDeclaration 0 7, row 2 .functionDeclarationLeft 0 3,
    row 3 .lowerCaseIdentifier 0 1, row 3 .lowerPattern 2 3, row 4 .lowerCaseIdentifier 2 3,
    row 2 .valueExpr 6 7, row 3 .valueQid 6 7, row 4 .lowerCaseIdentifier 6 7]

/-- In `f x = x` the result is the parameter. -/
theorem parameter_resolved :
    let parse : Parser := .constant identityRows
    let s := after parse [.set "file:///A.elm" "f x = x" 1]
    s.resolve .exposedOnly "file:///A.elm" 8 = .ok ⟨"file:///A.elm", 4⟩ ∧
      ValueMeaning s "file:///A.elm" (.build parse "file:///A.elm" "f x = x" 1) 8 "x"
        (.ok ⟨"file:///A.elm", 4⟩) := by
  intro parse s
  have resolved : s.resolve .exposedOnly "file:///A.elm" 8 = .ok ⟨"file:///A.elm", 4⟩ := by
    decide +kernel
  have held : s.get? "file:///A.elm" = some (.build parse "file:///A.elm" "f x = x" 1) :=
    Catalog.get?_insert_self ..
  have value : Reference.ofNode (SourceFile.build parse "file:///A.elm" "f x = x" 1).tree 8 =
      .unqualified "x" .value := by decide +kernel
  exact ⟨resolved, ((unqualified_value_resolved parse _ .exposedOnly held value).1 _).mp resolved⟩

end ElmAssist.Forest
