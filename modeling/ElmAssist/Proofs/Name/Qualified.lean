import ElmAssist.Proofs.Forest.Index
import ElmAssist.Proofs.Name.Definition
import ElmAssist.Proofs.Text.Places

/-!
# Name — Qualified names

What `Q.name` means, and `Q` in it. Several imports may have the qualifier `Q`, as alias or as name
of their module; they are asked in order. An import *qualifies* when its module is that of one file,
which declares the name and, where only exposed names are reached, exposes it.

* `ofNode_segment`: the parts of a qualified name before its last refer to the qualifier.
* `judged_qualified`: the first import that qualifies decides. If none does, the first one of a
  module that is not known is to blame, and if there is none of these either, the name is missing;
  without imports the qualifier is unknown.
* `judged_resolveQualifier`: the qualifier alone is the module of its first import that is known.
* `qualified_and_segment_judged`: both, for every forest that edits lead to, and what the answer for
  the one says of the other.
* `exposed_answer_kept_iff`: a name that is reached where it is exposed means the same where all
  names are reached, unless an import before hides a declaration of it.
-/

namespace ElmAssist

variable {name q : String} {ns : Namespace}

/-! ### The parts of a qualified name -/

theorem qualify_eq_qualified {parts : List String} {n : String} {k : Namespace}
    (qualified : Reference.qualify parts n k = .qualified q name ns) : Module.dotted parts = q := by
  unfold Reference.qualify at qualified
  split at qualified <;> cases qualified
  rfl

theorem entry_ne_qualified {t : Tree} {e : NodeId} {n : String} {k : Namespace} :
    Reference.entry t e n k ≠ .qualified q name ns := by
  unfold Reference.entry
  split
  · nofun
  · split
    · nofun
    · split <;> nofun
    · nofun

theorem ofUpperPart_segment {t : Tree} {i j qid : NodeId} {k : Namespace} (apart : j ≠ i)
    (qualified : Reference.ofUpperPart t i qid k = .qualified q name ns) :
    Reference.ofUpperPart t j qid k = .qualifier q := by
  unfold Reference.ofUpperPart at qualified ⊢
  dsimp only at qualified ⊢
  cases found : (t.childrenOfKind qid .upperCaseIdentifier).getLast? with
  | none =>
    rw [found] at qualified
    cases qualified
  | some last =>
    rw [found] at qualified
    dsimp only at qualified ⊢
    split at qualified
    · cases qualified
    · rename_i same
      rw [not_not] at same
      rw [if_pos (same ▸ apart.symm), qualify_eq_qualified qualified]

theorem ofUpper_segment {t : Tree} {i j around : NodeId} (apart : j ≠ i)
    (qualified : Reference.ofUpper t i around = .qualified q name ns) :
    Reference.ofUpper t j around = .qualifier q := by
  unfold Reference.ofUpper at qualified ⊢
  cases kind : t.kind around <;> rw [kind] at qualified <;> dsimp only at qualified ⊢
  case upperCaseQid =>
    cases up : t.parent? around with
    | none =>
      rw [up] at qualified
      cases qualified
    | some context =>
      rw [up] at qualified
      dsimp only at qualified ⊢
      cases kind : t.kind context <;> rw [kind] at qualified <;> dsimp only at qualified ⊢
      case typeRef | valueExpr | unionPattern => exact ofUpperPart_segment apart qualified
      all_goals cases qualified
  case asClause => split at qualified <;> cases qualified
  case exposedType => exact absurd qualified entry_ne_qualified
  all_goals cases qualified

theorem ofLower_segment {t : Tree} {i j around : NodeId}
    (qualified : Reference.ofLower t i around = .qualified q name ns) :
    Reference.ofUpper t j around = .qualifier q := by
  unfold Reference.ofLower at qualified
  cases kind : t.kind around <;> rw [kind] at qualified <;> dsimp only at qualified
  case valueQid =>
    rw [Reference.ofUpper, kind]
    exact congrArg _ (qualify_eq_qualified qualified)
  case functionDeclarationLeft =>
    split at qualified
    · split at qualified <;> cases qualified
    · cases qualified
  case exposedValue => exact absurd qualified entry_ne_qualified
  all_goals cases qualified

/-- **The parts of a qualified name before its last refer to its qualifier.** -/
theorem ofNode_segment {t : Tree} {i j around : NodeId} (up : t.parent? i = some around)
    (up' : t.parent? j = some around) (part : t.kind j = .upperCaseIdentifier)
    (last : t.kind i = .lowerCaseIdentifier ∨ t.kind i = .upperCaseIdentifier) (apart : j ≠ i)
    (qualified : Reference.ofNode t i = .qualified q name ns) :
    Reference.ofNode t j = .qualifier q := by
  have segment : Reference.ofNode t j = Reference.ofUpper t j around := by
    simp [Reference.ofNode, Reference.ofIdentifier, up', part]
  rw [segment]
  rcases last with lower | upper
  · refine ofLower_segment (?_ : Reference.ofLower t i around = .qualified q name ns)
    simpa [Reference.ofNode, Reference.ofIdentifier, up, lower] using qualified
  · refine ofUpper_segment apart (?_ : Reference.ofUpper t i around = .qualified q name ns)
    simpa [Reference.ofNode, Reference.ofIdentifier, up, upper] using qualified

namespace Forest

variable {parse : Parser} {s : Forest} {access : Access} {m : Module} {f : SourceFile}
  {i : Import} {is : List Import} {d : Definition} {module : String} {why : Unresolved}
  {answer : Resolution}

/-! ### What one import says -/

/-- An import provides a definition: its module is that of one file, the definition is the first
declaration of the name at the top of the file and, where only exposed names are reached, the file
exposes it. -/
def Provides (s : Forest) (access : Access) (name : String) (ns : Namespace) (i : Import)
    (d : Definition) : Prop :=
  ∃ f, s.IsOnlyFileOf i.module f ∧
    (access = .exposedOnly → f.module.exposing.Shows f.module f.tree name ns) ∧
    d.uri = f.uri ∧ IsLeast {n | Module.Declares f.tree name ns n} d.node

/-- An import provides some definition. -/
def Qualifies (s : Forest) (access : Access) (name : String) (ns : Namespace) (i : Import) : Prop :=
  ∃ d, s.Provides access name ns i d

/-- An import hides the name: its module is that of one file, which declares the name and does not
expose it. -/
def Hides (s : Forest) (name : String) (ns : Namespace) (i : Import) : Prop :=
  ∃ f, s.IsOnlyFileOf i.module f ∧ (∃ n, Module.Declares f.tree name ns n) ∧
    ¬ f.module.exposing.Shows f.module f.tree name ns

/-- A definition is the declaration of a module, or the root of its file if there is none. -/
def IsModule (s : Forest) (module : String) (d : Definition) : Prop :=
  ∃ f, s.IsOnlyFileOf module f ∧ d.uri = f.uri ∧
    (f.module.declaration = some d.node ∧ f.tree.kind d.node = .moduleDeclaration ∨
      f.module.declaration = none ∧ d.node = Tree.root)

/-- The first of some imports that count. -/
def FirstOf (is : List Import) (Counts : Import → Prop) (i : Import) : Prop :=
  ∃ before later, is = before ++ i :: later ∧ Counts i ∧ ∀ j ∈ before, ¬ Counts j

theorem FirstOf.mem {Counts : Import → Prop} (first : FirstOf is Counts i) : i ∈ is := by
  obtain ⟨before, later, rfl, -, -⟩ := first
  exact List.mem_append_right _ List.mem_cons_self

theorem FirstOf.counts {Counts : Import → Prop} (first : FirstOf is Counts i) : Counts i := by
  obtain ⟨before, later, -, counts, -⟩ := first
  exact counts

theorem firstOf_iff_find? {Counts : Import → Prop} [DecidablePred Counts] :
    FirstOf is Counts i ↔ is.find? (Counts ·) = some i := by
  rw [List.find?_eq_some_iff_append, decide_eq_true_iff]
  constructor
  · rintro ⟨before, later, split, counts, others⟩
    exact ⟨counts, before, later, split, fun j mem => by simpa using others j mem⟩
  · rintro ⟨counts, before, later, split, others⟩
    exact ⟨before, later, split, counts, fun j mem => by simpa using others j mem⟩

theorem FirstOf.unique {Counts : Import → Prop} {j : Import} (hi : FirstOf is Counts i)
    (hj : FirstOf is Counts j) : i = j := by
  classical
  exact Option.some.inj ((firstOf_iff_find?.mp hi).symm.trans (firstOf_iff_find?.mp hj))

theorem exists_firstOf (Counts : Import → Prop) (mem : i ∈ is) (counts : Counts i) :
    ∃ j, FirstOf is Counts j := by
  classical
  have found : (is.find? (Counts ·)).isSome := List.find?_isSome.mpr ⟨i, mem, by simpa using counts⟩
  obtain ⟨j, found⟩ := Option.isSome_iff_exists.mp found
  exact ⟨j, firstOf_iff_find?.mpr found⟩

/-- A search of the imports stops at the first for which it gives something. -/
theorem findSome?_eq_some_iff_firstOf {α : Type} {search : Import → Option α} {a : α} :
    is.findSome? search = some a ↔
      ∃ i, FirstOf is (fun j => ∃ b, search j = some b) i ∧ search i = some a := by
  rw [List.findSome?_eq_some_iff]
  constructor
  · rintro ⟨before, i, later, split, gives, others⟩
    exact ⟨i, ⟨before, later, split, ⟨a, gives⟩, fun j mem ⟨b, gives'⟩ =>
      nomatch (others j mem).symm.trans gives'⟩, gives⟩
  · rintro ⟨i, ⟨before, later, split, -, others⟩, gives⟩
    exact ⟨before, i, later, split, gives, fun j mem =>
      Option.eq_none_iff_forall_ne_some.mpr fun b gives' => others j mem ⟨b, gives'⟩⟩

/-! ### The search -/

/-- What an import provides. -/
def provided? (s : Forest) (access : Access) (name : String) (ns : Namespace) (i : Import) :
    Option Definition :=
  match s.moduleFile i.module with
  | .ok target => (member? access target name ns).map (⟨target.uri, ·⟩)
  | .error _ => none

/-- Why the module of an import has no file. -/
def blame? (s : Forest) (i : Import) : Option Unresolved :=
  match s.moduleFile i.module with
  | .ok _ => none
  | .error why => some why

theorem qualified_eq (s : Forest) (access : Access) (m : Module) (q name : String)
    (ns : Namespace) :
    s.qualified access m q name ns =
      match (importsOf m q).findSome? (s.provided? access name ns),
        (importsOf m q).findSome? s.blame?, importsOf m q with
      | some d, _, _ => .ok d
      | none, some why, _ => .error why
      | none, none, i :: _ => .error (.missingMember i.module name)
      | none, none, [] => .error (.unknownQualifier q) := by
  unfold qualified provided? blame?
  simp only [List.findSome?_map, Function.comp_def]
  generalize List.findSome? _ (importsOf m q) = found
  generalize List.findSome? _ (importsOf m q) = unknown
  cases found with
  | some d => rfl
  | none =>
    cases unknown with
    | some why => rfl
    | none => cases importsOf m q <;> rfl

theorem member?_eq_some_iff (h : Sound parse s) (held : s.get? f.uri = some f) {n : NodeId} :
    member? access f name ns = some n ↔
      (access = .exposedOnly → f.module.exposing.Shows f.module f.tree name ns) ∧
        IsLeast {n | Module.Declares f.tree name ns n} n := by
  obtain ⟨-, linked, ofTree⟩ := h.file held
  have declared : f.module.declaration? name ns = some n ↔
      IsLeast {n | Module.Declares f.tree name ns n} n :=
    ofTree ▸ Module.declaration_givesFirst linked name ns n
  rw [← declared]
  cases access with
  | anyTopLevel => simp [member?]
  | exposedOnly =>
    simp only [member?, Option.ite_none_right_eq_some, Module.exposes_iff, forall_const]
    exact ⟨fun ⟨⟨_, shown⟩, declared⟩ => ⟨shown, declared⟩,
      fun ⟨shown, declared⟩ => ⟨⟨⟨n, declared⟩, shown⟩, declared⟩⟩

theorem provided?_eq_some_iff (h : Sound parse s) :
    s.provided? access name ns i = some d ↔ s.Provides access name ns i d := by
  unfold provided? Provides
  simp only [← moduleFile_eq_ok_iff h]
  cases file : s.moduleFile i.module with
  | error why => simp
  | ok f =>
    have held := ((moduleFile_eq_ok_iff h).mp file).held
    simp only [Option.map_eq_some_iff, member?_eq_some_iff h held, Except.ok.injEq]
    constructor
    · rintro ⟨n, ⟨shown, first⟩, rfl⟩
      exact ⟨f, rfl, shown, rfl, first⟩
    · rintro ⟨_, rfl, shown, uri, first⟩
      exact ⟨d.node, ⟨shown, first⟩, by rw [← uri]⟩

/-- An import provides one definition at most. -/
theorem Provides.unique {other : Access} {c : Definition} (hd : s.Provides access name ns i d)
    (hc : s.Provides other name ns i c) : d = c := by
  obtain ⟨f, known, -, uri, first⟩ := hd
  obtain ⟨g, known', -, uri', first'⟩ := hc
  cases known.unique known'
  obtain ⟨u, n⟩ := d
  obtain ⟨v, k⟩ := c
  cases uri.trans uri'.symm
  cases first.unique first'
  rfl

theorem Provides.isKnown (provides : s.Provides access name ns i d) : s.IsKnown i.module := by
  obtain ⟨f, known, -⟩ := provides
  exact ⟨f, known⟩

/-- Why a module is not that of one file: no file declares it, or several do. -/
def Blames (s : Forest) (module : String) (why : Unresolved) : Prop :=
  why = .external module ∧ (∀ uri, ¬ s.Declares uri module) ∨
    why = .duplicateModule module ∧
      ∃ uri other, uri ≠ other ∧ s.Declares uri module ∧ s.Declares other module

theorem moduleFile_eq_error_iff (h : Sound parse s) :
    s.moduleFile module = .error why ↔ s.Blames module why := by
  have several : s.modules.isDuplicate module = true ↔
      ∃ uri other, uri ≠ other ∧ s.Declares uri module ∧ s.Declares other module :=
    isDuplicate_iff h
  unfold moduleFile
  cases file : s.fileOf? module with
  | some f =>
    obtain ⟨held, named, only⟩ := (fileOf?_eq_some_iff h).mp file
    refine iff_of_false nofun ?_
    rintro (⟨-, none_⟩ | ⟨-, uri, other, apart, ⟨g, hg, also⟩, k, hk, also'⟩)
    · exact none_ f.uri ⟨f, held, named⟩
    · exact apart ((only uri g hg also).trans (only other k hk also').symm)
  | none =>
    dsimp only
    split
    · rename_i duplicate
      have apart := several.mp duplicate
      obtain ⟨uri, -, -, declares, -⟩ := id apart
      have some_ : ¬ ∀ uri, ¬ s.Declares uri module := fun none_ => none_ uri declares
      simp only [Except.error.injEq, Blames, some_, and_false, false_or, apart, and_true, eq_comm]
    · rename_i single
      have one := single ∘ several.mpr
      -- A file that were alone in declaring the module would be its file.
      have none_ : ∀ uri, ¬ s.Declares uri module := by
        rintro uri ⟨f, held, named⟩
        obtain rfl := h.uri_eq held
        have only : s.IsOnlyFileOf module f := ⟨held, named, fun other g hg also => by
          by_contra apart
          exact one ⟨other, f.uri, apart, ⟨g, hg, also⟩, f, held, named⟩⟩
        exact nomatch file.symm.trans ((fileOf?_eq_some_iff h).mpr only)
      simp only [Except.error.injEq, Blames, none_, not_false_eq_true, implies_true, and_true,
        exists_false, and_false, or_false, eq_comm]

theorem blame?_eq_some_iff (h : Sound parse s) :
    s.blame? i = some why ↔ s.Blames i.module why := by
  rw [← moduleFile_eq_error_iff h, blame?]
  cases s.moduleFile i.module <;> simp

theorem exists_blames_iff (h : Sound parse s) :
    (∃ why, s.Blames module why) ↔ ¬ s.IsKnown module := by
  simp only [← moduleFile_eq_error_iff h, exists_moduleFile_error_iff h]

theorem Blames.unique (h : Sound parse s) {other : Unresolved} (one : s.Blames module why)
    (two : s.Blames module other) : why = other :=
  Except.error.inj <| ((moduleFile_eq_error_iff h).mpr one).symm.trans <|
    (moduleFile_eq_error_iff h).mpr two

theorem Blames.module_eq {other : String} (one : s.Blames module why) (two : s.Blames other why) :
    module = other := by
  rcases one with ⟨rfl, -⟩ | ⟨rfl, -⟩ <;> rcases two with ⟨same, -⟩ | ⟨same, -⟩ <;>
    cases same <;> rfl

theorem firstProvided_eq_some_iff (h : Sound parse s) :
    is.findSome? (s.provided? access name ns) = some d ↔
      ∃ i, FirstOf is (s.Qualifies access name ns) i ∧ s.Provides access name ns i d := by
  rw [findSome?_eq_some_iff_firstOf]
  simp only [provided?_eq_some_iff h]
  rfl

theorem firstProvided_eq_none_iff (h : Sound parse s) :
    is.findSome? (s.provided? access name ns) = none ↔
      ∀ i ∈ is, ¬ s.Qualifies access name ns i := by
  rw [List.findSome?_eq_none_iff]
  simp only [Option.eq_none_iff_forall_ne_some, ne_eq, provided?_eq_some_iff h, Qualifies,
    not_exists]

theorem firstBlame_eq_some_iff (h : Sound parse s) :
    is.findSome? s.blame? = some why ↔
      ∃ i, FirstOf is (fun j => ¬ s.IsKnown j.module) i ∧ s.Blames i.module why := by
  rw [findSome?_eq_some_iff_firstOf]
  simp only [blame?_eq_some_iff h, exists_blames_iff h]

theorem firstBlame_eq_none_iff (h : Sound parse s) :
    is.findSome? s.blame? = none ↔ ∀ i ∈ is, s.IsKnown i.module := by
  rw [List.findSome?_eq_none_iff]
  refine forall₂_congr fun i _ => ?_
  simp only [Option.eq_none_iff_forall_ne_some, ne_eq, blame?_eq_some_iff h, ← not_exists,
    exists_blames_iff h, not_not]

/-! ### The answer -/

/-- The answer for a name after a qualifier that some imports have.

* The qualifier is unknown, when there are no imports.
* A definition, when it is what the first import provides that provides one.
* A missing member, when there are imports, all of known modules, and none qualifies; of the module
  of the first import.
* A module that is not known is to blame, when no import qualifies and it is the first such module:
  it is external when no file declares it, a duplicate when several do. -/
structure Judged (s : Forest) (access : Access) (is : List Import) (q name : String)
    (ns : Namespace) (answer : Resolution) : Prop where
  unknownQualifier : answer = .error (.unknownQualifier q) ↔ is = []
  found : ∀ d, answer = .ok d ↔
    ∃ i, FirstOf is (s.Qualifies access name ns) i ∧ s.Provides access name ns i d
  missing : ∀ module, answer = .error (.missingMember module name) ↔
    (∃ i, is.head? = some i ∧ i.module = module) ∧
      ∀ i ∈ is, s.IsKnown i.module ∧ ¬ s.Qualifies access name ns i
  blamed : ∀ module why, s.Blames module why → (answer = .error why ↔
    (∀ i ∈ is, ¬ s.Qualifies access name ns i) ∧
      ∃ i, FirstOf is (fun j => ¬ s.IsKnown j.module) i ∧ i.module = module)
  otherwise : ∀ why, answer = .error why → why = .unknownQualifier q ∨
    ∃ i ∈ is, why = .missingMember i.module name ∨ s.Blames i.module why

theorem Blames.ne_unknownQualifier (blames : s.Blames module why) : why ≠ .unknownQualifier q := by
  rcases blames with ⟨rfl, -⟩ | ⟨rfl, -⟩ <;> nofun

theorem Blames.ne_missingMember {other : String} (blames : s.Blames module why) :
    why ≠ .missingMember other name := by
  rcases blames with ⟨rfl, -⟩ | ⟨rfl, -⟩ <;> nofun

theorem judged_unknownQualifier : s.Judged access [] q name ns (.error (.unknownQualifier q)) where
  unknownQualifier := by simp
  found d := by
    refine iff_of_false nofun ?_
    rintro ⟨i, first, -⟩
    cases first.mem
  missing module := by simp
  blamed module why blames := by
    refine iff_of_false (fun same => blames.ne_unknownQualifier (Except.error.inj same).symm) ?_
    rintro ⟨-, i, first, -⟩
    cases first.mem
  otherwise why same := Or.inl (Except.error.inj same).symm

theorem judged_found (first : FirstOf is (s.Qualifies access name ns) i)
    (provides : s.Provides access name ns i d) : s.Judged access is q name ns (.ok d) where
  unknownQualifier := iff_of_false nofun (List.ne_nil_of_mem first.mem)
  found c := by
    rw [Except.ok.injEq]
    constructor
    · rintro rfl
      exact ⟨i, first, provides⟩
    · rintro ⟨j, first', provides'⟩
      cases first.unique first'
      exact provides.unique provides'
  missing module := iff_of_false nofun fun ⟨_, none_⟩ => (none_ i first.mem).2 first.counts
  blamed module why _ := iff_of_false nofun fun ⟨none_, _⟩ => none_ i first.mem first.counts
  otherwise := nofun

theorem judged_blamed (h : Sound parse s) (none_ : ∀ i ∈ is, ¬ s.Qualifies access name ns i)
    (first : FirstOf is (fun j => ¬ s.IsKnown j.module) i) (blames : s.Blames i.module why) :
    s.Judged access is q name ns (.error why) where
  unknownQualifier := iff_of_false
    (fun same => blames.ne_unknownQualifier (Except.error.inj same)) (List.ne_nil_of_mem first.mem)
  found d := iff_of_false nofun fun ⟨j, first', _⟩ => none_ j first'.mem first'.counts
  missing module := iff_of_false
    (fun same => blames.ne_missingMember (Except.error.inj same))
    fun ⟨_, known⟩ => first.counts (known i first.mem).1
  blamed module other blames' := by
    rw [Except.error.injEq]
    constructor
    · rintro rfl
      exact ⟨none_, i, first, blames.module_eq blames'⟩
    · rintro ⟨-, j, first', rfl⟩
      cases first.unique first'
      exact blames.unique h blames'
  otherwise other same := by
    cases same
    exact Or.inr ⟨i, first.mem, Or.inr blames⟩

theorem judged_missing {rest : List Import}
    (none_ : ∀ j ∈ i :: rest, s.IsKnown j.module ∧ ¬ s.Qualifies access name ns j) :
    s.Judged access (i :: rest) q name ns (.error (.missingMember i.module name)) where
  unknownQualifier := iff_of_false nofun nofun
  found d := iff_of_false nofun fun ⟨j, first, _⟩ => (none_ j first.mem).2 first.counts
  missing module := by
    rw [Except.error.injEq, Unresolved.missingMember.injEq]
    constructor
    · rintro ⟨rfl, -⟩
      exact ⟨⟨i, rfl, rfl⟩, none_⟩
    · rintro ⟨⟨j, head, rfl⟩, -⟩
      cases head
      exact ⟨rfl, rfl⟩
  blamed module why blames := by
    refine iff_of_false (fun same => blames.ne_missingMember (Except.error.inj same).symm) ?_
    rintro ⟨-, j, first, -⟩
    exact first.counts (none_ j first.mem).1
  otherwise why same := by
    cases same
    exact Or.inr ⟨i, List.mem_cons_self, Or.inl rfl⟩

/-- **The imports of a qualifier decide.** -/
theorem judged_qualified (h : Sound parse s) (access : Access) (m : Module) (q name : String)
    (ns : Namespace) :
    s.Judged access (importsOf m q) q name ns (s.qualified access m q name ns) := by
  rw [qualified_eq]
  generalize importsOf m q = is
  -- What is found comes before what is to blame, wherever the two stand among the imports.
  cases found : is.findSome? (s.provided? access name ns) with
  | some d =>
    obtain ⟨i, first, provides⟩ := (firstProvided_eq_some_iff h).mp found
    exact judged_found first provides
  | none =>
    have none_ := (firstProvided_eq_none_iff h).mp found
    cases unknown : is.findSome? s.blame? with
    | some why =>
      obtain ⟨i, first, blames⟩ := (firstBlame_eq_some_iff h).mp unknown
      exact judged_blamed h none_ first blames
    | none =>
      have known := (firstBlame_eq_none_iff h).mp unknown
      cases is with
      | nil => exact judged_unknownQualifier
      | cons i rest => exact judged_missing fun j mem => ⟨known j mem, none_ j mem⟩

/-! ### The qualifier alone -/

theorem resolveModule_eq_ok_iff (h : Sound parse s) :
    s.resolveModule module = .ok d ↔ s.IsModule module d := by
  unfold resolveModule IsModule
  simp only [← moduleFile_eq_ok_iff h]
  cases file : s.moduleFile module with
  | error why => simp
  | ok f =>
    obtain ⟨-, linked, ofTree⟩ := h.file ((moduleFile_eq_ok_iff h).mp file).held
    obtain ⟨u, n⟩ := d
    cases declared : f.module.declaration with
    | none => simp [declared, eq_comm]
    | some k =>
      have kind : f.tree.kind k = .moduleDeclaration := by
        rw [ofTree] at declared
        exact (childOfKind?_spec linked declared).2
      simp only [Except.ok.injEq, Definition.mk.injEq, exists_eq_left', declared, Option.getD_some,
        Option.some_inj, reduceCtorEq, false_and, or_false]
      constructor
      · rintro ⟨rfl, rfl⟩
        exact ⟨rfl, rfl, kind⟩
      · rintro ⟨rfl, rfl, -⟩
        exact ⟨rfl, rfl⟩

theorem exists_isModule_iff (h : Sound parse s) :
    (∃ d, s.IsModule module d) ↔ s.IsKnown module := by
  simp only [← resolveModule_eq_ok_iff h, IsKnown, ← moduleFile_eq_ok_iff h, resolveModule]
  cases s.moduleFile module <;> simp

/-- The answer for a qualifier that some imports have: it is unknown when there are none, and the
module of the first import whose module is known, if there is one. -/
structure JudgedAlone (s : Forest) (is : List Import) (q : String) (answer : Resolution) :
    Prop where
  unknownQualifier : answer = .error (.unknownQualifier q) ↔ is = []
  found : ∀ d, answer = .ok d ↔
    ∃ i, FirstOf is (fun j => s.IsKnown j.module) i ∧ s.IsModule i.module d

theorem firstModule_eq_some_iff (h : Sound parse s) :
    (is.findSome? fun j => (s.resolveModule j.module).toOption) = some d ↔
      ∃ i, FirstOf is (fun j => s.IsKnown j.module) i ∧ s.IsModule i.module d := by
  have gives : ∀ (i : Import) (c : Definition),
      (s.resolveModule i.module).toOption = some c ↔ s.IsModule i.module c := by
    intro i c
    rw [← resolveModule_eq_ok_iff h]
    cases s.resolveModule i.module <;> simp [Except.toOption]
  rw [findSome?_eq_some_iff_firstOf]
  simp only [gives, exists_isModule_iff h]

theorem judged_resolveQualifier (h : Sound parse s) (m : Module) (q : String) :
    s.JudgedAlone (importsOf m q) q (s.resolveQualifier m q) := by
  unfold resolveQualifier
  generalize importsOf m q = is
  cases is with
  | nil =>
    refine ⟨by simp, fun d => iff_of_false nofun ?_⟩
    rintro ⟨i, first, -⟩
    cases first.mem
  | cons i rest =>
    dsimp only
    cases found : (i :: rest).findSome? fun j => (s.resolveModule j.module).toOption with
    | some d =>
      refine ⟨iff_of_false nofun nofun, fun c => ?_⟩
      rw [← firstModule_eq_some_iff h, found, Option.some_inj, Except.ok.injEq]
    | none =>
      have none_ : ∀ d, ¬ ∃ j, FirstOf (i :: rest) (fun j => s.IsKnown j.module) j ∧
          s.IsModule j.module d := by
        intro d
        rw [← firstModule_eq_some_iff h, found]
        nofun
      -- Then the first import is of a module that is not known, and says why.
      cases file : s.resolveModule i.module with
      | ok d => simp [file, Except.toOption] at found
      | error why =>
        have blames : s.Blames i.module why := by
          rw [← moduleFile_eq_error_iff h]
          unfold resolveModule at file
          split at file
          · cases file
          · rename_i blames
            cases file
            exact blames
        exact ⟨iff_of_false (fun same => blames.ne_unknownQualifier (Except.error.inj same)) nofun,
          fun d => iff_of_false nofun (none_ d)⟩

/-- **What a qualified name means, and its qualifier.** In every forest that edits lead to, the
imports of a qualifier decide what a name after it means and what it means alone. It is unknown for
both or for neither, and it is a module where the name is found or missing. -/
theorem qualified_and_segment_judged (parse : Parser) (edits : List Edit) (access : Access)
    (f : SourceFile) (i j : NodeId) (q name : String) (ns : Namespace) :
    let s := after parse edits
    let is := importsOf f.module q
    let member := s.resolveReference access f i (.qualified q name ns)
    let segment := s.resolveReference access f j (.qualifier q)
    s.Judged access is q name ns member ∧ s.JudgedAlone is q segment ∧
      (segment = .error (.unknownQualifier q) ↔ member = .error (.unknownQualifier q)) ∧
      ((∃ d, member = .ok d) ∨ (∃ module, member = .error (.missingMember module name)) →
        ∃ i ∈ is, ∃ d, segment = .ok d ∧ s.IsModule i.module d) := by
  intro s is member segment
  have h : Sound parse s := sound_after edits
  have judged : s.Judged access is q name ns member := judged_qualified h access f.module q name ns
  have alone : s.JudgedAlone is q segment := judged_resolveQualifier h f.module q
  refine ⟨judged, alone, alone.unknownQualifier.trans judged.unknownQualifier.symm,
    fun answer => ?_⟩
  -- Either answer needs an import of a module that is known, and the first such is the module.
  have known : ∃ i ∈ is, s.IsKnown i.module := by
    rcases answer with ⟨d, found⟩ | ⟨module, missing⟩
    · obtain ⟨i, first, provides⟩ := (judged.found d).mp found
      exact ⟨i, first.mem, provides.isKnown⟩
    · obtain ⟨⟨i, head, -⟩, all⟩ := (judged.missing module).mp missing
      have mem := List.mem_of_mem_head? head
      exact ⟨i, mem, (all i mem).1⟩
  obtain ⟨i, mem, known⟩ := known
  obtain ⟨k, first⟩ := exists_firstOf (fun j => s.IsKnown j.module) mem known
  obtain ⟨d, so⟩ := (exists_isModule_iff h).mpr first.counts
  exact ⟨k, first.mem, d, (alone.found d).mpr ⟨k, first, so⟩, so⟩

/-! ### Exposed names -/

theorem Provides.reached (provides : s.Provides .exposedOnly name ns i d) :
    s.Provides .anyTopLevel name ns i d := by
  obtain ⟨f, known, -, uri, first⟩ := provides
  exact ⟨f, known, nofun, uri, first⟩

/-- What an import provides where all names are reached is exposed, or it hides it. -/
theorem Qualifies.exposed_or_hides (qualifies : s.Qualifies .anyTopLevel name ns i) :
    s.Qualifies .exposedOnly name ns i ∨ s.Hides name ns i := by
  obtain ⟨d, f, known, -, uri, first⟩ := qualifies
  by_cases shown : f.module.exposing.Shows f.module f.tree name ns
  · exact Or.inl ⟨d, f, known, fun _ => shown, uri, first⟩
  · exact Or.inr ⟨f, known, ⟨d.node, first.1⟩, shown⟩

theorem Hides.qualifies (hides : s.Hides name ns i) : s.Qualifies .anyTopLevel name ns i := by
  classical
  obtain ⟨f, known, some_, -⟩ := hides
  exact ⟨⟨f.uri, Nat.find some_⟩, f, known, nofun, rfl, Nat.find_spec some_,
    fun _ declares => Nat.find_min' some_ declares⟩

/-- What is hidden in one file is no definition that another import provides as exposed. -/
theorem Hides.apart {j : Import} {c : Definition} (hides : s.Hides name ns j)
    (hidden : s.Provides .anyTopLevel name ns j c)
    (provides : s.Provides .exposedOnly name ns i d) : c ≠ d := by
  rintro rfl
  obtain ⟨f, known, -, shown⟩ := hides
  obtain ⟨g, known', -, uri, -⟩ := hidden
  obtain ⟨k, other, exposed, uri', -⟩ := provides
  cases known.unique known'
  obtain rfl : f = k :=
    Option.some.inj <| known.held.symm.trans <| (uri.symm.trans uri') ▸ other.held
  exact shown (exposed rfl)

/-- **A qualified name that is reached where it is exposed.** It is reached too where all names are,
and it means the same exactly when none of the imports before the one that decides hides a
declaration of it. Otherwise it means what the first of those declares. -/
theorem exposed_answer_kept_iff (parse : Parser) (edits : List Edit) (f : SourceFile) (n : NodeId)
    (q name : String) (ns : Namespace) (d : Definition)
    (exposed : (after parse edits).resolveReference .exposedOnly f n (.qualified q name ns) =
      .ok d) :
    let s := after parse edits
    let reached := s.resolveReference .anyTopLevel f n (.qualified q name ns)
    ∃ before i later, importsOf f.module q = before ++ i :: later ∧
      s.Provides .exposedOnly name ns i d ∧
      (∀ j ∈ before, ¬ s.Qualifies .exposedOnly name ns j) ∧
      (∃ c, reached = .ok c) ∧
      (reached = .ok d ↔ ∀ j ∈ before, ¬ s.Hides name ns j) ∧
      ∀ j, FirstOf before (s.Hides name ns) j →
        ∃ c, reached = .ok c ∧ s.Provides .anyTopLevel name ns j c := by
  intro s reached
  have h : Sound parse s := sound_after edits
  have strict := judged_qualified h .exposedOnly f.module q name ns
  have open_ : s.Judged .anyTopLevel (importsOf f.module q) q name ns reached :=
    judged_qualified h .anyTopLevel f.module q name ns
  obtain ⟨i, ⟨before, later, split, -, others⟩, provides⟩ := (strict.found d).mp exposed
  -- Where an import exposes no declaration, it qualifies only if it hides one.
  have skipped : ∀ j ∈ before, ¬ s.Hides name ns j → ¬ s.Qualifies .anyTopLevel name ns j :=
    fun j mem plain qualifies => qualifies.exposed_or_hides.elim (others j mem) plain
  have hidden : ∀ j, FirstOf before (s.Hides name ns) j →
      ∃ c, reached = .ok c ∧ s.Provides .anyTopLevel name ns j c := by
    rintro j ⟨earlier, rest, rfl, hides, plain⟩
    obtain ⟨c, provides'⟩ := hides.qualifies
    have first : FirstOf (importsOf f.module q) (s.Qualifies .anyTopLevel name ns) j :=
      ⟨earlier, rest ++ i :: later, by rw [split, List.append_assoc, List.cons_append],
        ⟨c, provides'⟩, fun k mem => skipped k (List.mem_append_left _ mem) (plain k mem)⟩
    exact ⟨c, (open_.found c).mpr ⟨j, first, provides'⟩, provides'⟩
  have kept (plain : ∀ j ∈ before, ¬ s.Hides name ns j) : reached = .ok d :=
    (open_.found d).mpr ⟨i, ⟨before, later, split, ⟨d, provides.reached⟩,
      fun j mem => skipped j mem (plain j mem)⟩, provides.reached⟩
  refine ⟨before, i, later, split, provides, others, ?_, ⟨fun same j mem hides => ?_, kept⟩, hidden⟩
  · by_cases some_ : ∃ j ∈ before, s.Hides name ns j
    · obtain ⟨j, mem, hides⟩ := some_
      obtain ⟨k, first⟩ := exists_firstOf (s.Hides name ns) mem hides
      obtain ⟨c, other, -⟩ := hidden k first
      exact ⟨c, other⟩
    · exact ⟨d, kept fun j mem hides => some_ ⟨j, mem, hides⟩⟩
  · obtain ⟨k, first⟩ := exists_firstOf (s.Hides name ns) mem hides
    obtain ⟨c, other, provides'⟩ := hidden k first
    exact first.counts.apart provides' provides (Except.ok.inj (other.symm.trans same))

/-- A module that declares `x` and does not expose it. -/
def hidingText : String := "module A exposing (y)\n\nx = 1\n\ny = 2\n"

/-- A module that declares `x` and exposes it. -/
def exposingText : String := "module B exposing (x)\n\nx = 3\n"

/-- A module that imports both under one name. -/
def sharingText : String := "module M exposing (..)\n\nimport A as Q\nimport B as Q\n\nv = Q.x\n"

/-- What these three texts parse to. -/
def sharedQualifierRows (text : String) : List Row :=
  if text = hidingText then rowsAt text
    [(0, .file, 0, 36), (1, .moduleDeclaration, 0, 21), (2, .other, 0, 6),
      (2, .upperCaseQid, 7, 8), (3, .upperCaseIdentifier, 7, 8), (2, .exposingList, 9, 21),
      (3, .other, 9, 17), (3, .exposedValue, 19, 20), (4, .lowerCaseIdentifier, 19, 20),
      (1, .valueDeclaration, 23, 28), (2, .functionDeclarationLeft, 23, 24),
      (3, .lowerCaseIdentifier, 23, 24), (2, .other, 25, 26), (2, .other, 27, 28),
      (3, .other, 27, 28), (1, .valueDeclaration, 30, 35), (2, .functionDeclarationLeft, 30, 31),
      (3, .lowerCaseIdentifier, 30, 31), (2, .other, 32, 33), (2, .other, 34, 35),
      (3, .other, 34, 35)]
  else if text = exposingText then rowsAt text
    [(0, .file, 0, 29), (1, .moduleDeclaration, 0, 21), (2, .other, 0, 6),
      (2, .upperCaseQid, 7, 8), (3, .upperCaseIdentifier, 7, 8), (2, .exposingList, 9, 21),
      (3, .other, 9, 17), (3, .exposedValue, 19, 20), (4, .lowerCaseIdentifier, 19, 20),
      (1, .valueDeclaration, 23, 28), (2, .functionDeclarationLeft, 23, 24),
      (3, .lowerCaseIdentifier, 23, 24), (2, .other, 25, 26), (2, .other, 27, 28),
      (3, .other, 27, 28)]
  else if text = sharingText then rowsAt text
    [(0, .file, 0, 61), (1, .moduleDeclaration, 0, 22), (2, .other, 0, 6),
      (2, .upperCaseQid, 7, 8), (3, .upperCaseIdentifier, 7, 8), (2, .exposingList, 9, 22),
      (3, .other, 9, 17), (3, .doubleDot, 19, 21), (1, .importClause, 24, 37), (2, .other, 24, 30),
      (2, .upperCaseQid, 31, 32), (3, .upperCaseIdentifier, 31, 32), (2, .asClause, 33, 37),
      (3, .other, 33, 35), (3, .upperCaseIdentifier, 36, 37), (1, .importClause, 38, 51),
      (2, .other, 38, 44), (2, .upperCaseQid, 45, 46), (3, .upperCaseIdentifier, 45, 46),
      (2, .asClause, 47, 51), (3, .other, 47, 49), (3, .upperCaseIdentifier, 50, 51),
      (1, .valueDeclaration, 53, 60), (2, .functionDeclarationLeft, 53, 54),
      (3, .lowerCaseIdentifier, 53, 54), (2, .other, 55, 56), (2, .valueExpr, 57, 60),
      (3, .valueQid, 57, 60), (4, .upperCaseIdentifier, 57, 58), (4, .other, 58, 59),
      (4, .lowerCaseIdentifier, 59, 60)]
  else []

/-- Where both modules are in the forest, `Q.x` has one meaning as an exposed name and another one
where all names are reached. -/
theorem exposed_answer_not_kept :
    ¬ ∀ (parse : Parser) (edits : List Edit) (uri : String) (i : NodeId) (q name : String)
        (ns : Namespace) (d : Definition),
      ((after parse edits).get? uri).map (fun f => Reference.ofNode f.tree i) =
        some (.qualified q name ns) →
      (after parse edits).resolve .exposedOnly uri i = .ok d →
      (after parse edits).resolve .anyTopLevel uri i = .ok d := by
  intro kept
  have same := kept sharedQualifierRows [.set "file:///A.elm" hidingText 1,
    .set "file:///B.elm" exposingText 1, .set "file:///M.elm" sharingText 1] "file:///M.elm" 30
    "Q" "x" .value ⟨"file:///B.elm", 9⟩ (by decide +kernel) (by decide +kernel)
  have other : (after sharedQualifierRows [.set "file:///A.elm" hidingText 1,
      .set "file:///B.elm" exposingText 1, .set "file:///M.elm" sharingText 1]).resolve
      .anyTopLevel "file:///M.elm" 30 = .ok ⟨"file:///A.elm", 9⟩ := by decide +kernel
  exact absurd (same.symm.trans other) (by decide)

/-- Where the module that hides `x` is not in the forest, nothing hides it. -/
theorem lone_answer_kept :
    let s := after sharedQualifierRows
      [.set "file:///B.elm" exposingText 1, .set "file:///M.elm" sharingText 1]
    let f := SourceFile.build sharedQualifierRows "file:///M.elm" sharingText 1
    s.resolveReference .exposedOnly f 30 (.qualified "Q" "x" .value) =
        .ok ⟨"file:///B.elm", 9⟩ ∧
      s.resolveReference .anyTopLevel f 30 (.qualified "Q" "x" .value) =
        .ok ⟨"file:///B.elm", 9⟩ ∧
      ∃ before i later, importsOf f.module "Q" = before ++ i :: later ∧
        ∀ j ∈ before, ¬ s.Hides "x" .value j := by
  intro s f
  have exposed : s.resolveReference .exposedOnly f 30 (.qualified "Q" "x" .value) =
      .ok ⟨"file:///B.elm", 9⟩ := by decide +kernel
  have reached : s.resolveReference .anyTopLevel f 30 (.qualified "Q" "x" .value) =
      .ok ⟨"file:///B.elm", 9⟩ := by decide +kernel
  obtain ⟨before, i, later, split, -, -, -, kept, -⟩ :=
    exposed_answer_kept_iff _ _ f 30 "Q" "x" .value _ exposed
  exact ⟨exposed, reached, before, i, later, split, kept.mp reached⟩

end Forest

end ElmAssist
