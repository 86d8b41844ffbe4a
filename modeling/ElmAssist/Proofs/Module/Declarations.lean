import ElmAssist.Module.Basic
import ElmAssist.Proofs.Tree.First

/-!
# Module — Top-level declarations

What the top of a file declares, and what a module finds there for a name.

* `Gives`: a node at the top gives a name, at the node that is found for it.
* `Declares`: some node at the top does.
* `declaration_givesFirst`: a module finds the first declaration of a name, in each namespace.
-/

namespace ElmAssist.Module

open ElmAssist.Tree (GivesFirst givesFirst_find? givesFirst_findSome? givesFirst_ite
  givesFirst_none)

variable {t : Tree} {name : String} {ns : Namespace}

/-! ### Declarations -/

/-- An alias of a record type: the first child of its type that is no comment is one. -/
def IsRecordAlias (t : Tree) (a : NodeId) : Prop :=
  ∃ body first, t.childOfKind? a .typeExpression = some body ∧
    (t.codeChildren body).head? = some first ∧ t.grammar? first = some "record_type"

/-- A node at the top gives a name; `d` is the node that declares it. -/
inductive Gives (t : Tree) (name : String) (top : NodeId) : Namespace → NodeId → Prop
  | value : t.kind top = .valueDeclaration → declaredValue? t top = some name →
      Gives t name top .value top
  | port : t.kind top = .portDeclaration → nameOf? t top .lowerCaseIdentifier = some name →
      Gives t name top .value top
  | type : t.kind top = .typeDeclaration → nameOf? t top .upperCaseIdentifier = some name →
      Gives t name top .type top
  | synonym : t.kind top = .typeAliasDeclaration → nameOf? t top .upperCaseIdentifier = some name →
      Gives t name top .type top
  | variant {v : NodeId} : t.kind top = .typeDeclaration → v ∈ t.children top →
      t.kind v = .unionVariant → nameOf? t v .upperCaseIdentifier = some name →
      Gives t name top .constructor v
  | record : t.kind top = .typeAliasDeclaration → IsRecordAlias t top →
      nameOf? t top .upperCaseIdentifier = some name → Gives t name top .constructor top

/-- The node declares a name for the whole file. -/
def Declares (t : Tree) (name : String) (ns : Namespace) (d : NodeId) : Prop :=
  ∃ top ∈ t.children Tree.root, Gives t name top ns d

theorem isRecordAlias_iff {a : NodeId} : isRecordAlias t a = true ↔ IsRecordAlias t a := by
  unfold isRecordAlias IsRecordAlias
  cases t.childOfKind? a .typeExpression with
  | none => simp
  | some body =>
    dsimp only
    cases head : (t.codeChildren body).head? with
    | none => simp [head]
    | some first => simp [head]

theorem Gives.not_isComment {top d : NodeId} (gives : Gives t name top ns d) :
    (t.kind top).isComment = false := by
  cases gives with
  | value kind | port kind | type kind | synonym kind | variant kind | record kind =>
    rw [kind]
    rfl

/-- What a node at the top gives is that node, or below it. -/
theorem Gives.atOrBelow (h : t.Linked) {top d : NodeId} (gives : Gives t name top ns d) :
    t.AtOrBelow top d := by
  cases gives with
  | value | port | type | synonym | record => exact Or.inl rfl
  | variant _ child => exact Or.inr (h.above_of_mem_children child)

/-! ### What is found -/

theorem lookup_flatMap {α : Type} (give : NodeId → List (String × α)) : ∀ tops : List NodeId,
    (tops.flatMap give).lookup name = tops.findSome? fun top => (give top).lookup name
  | [] => rfl
  | top :: tops => by
    rw [List.flatMap_cons, List.lookup_append, List.findSome?_cons, lookup_flatMap give tops]
    cases (give top).lookup name <;> rfl

/-- A list that has at most one name. -/
theorem lookup_toList {α : Type} (own : Option String) (a : α) :
    ((own.map (·, a)).toList).lookup name = if own = some name then some a else none := by
  cases own with
  | none => rfl
  | some other =>
    by_cases same : name = other
    · simp [same]
    · simp [same, Ne.symm same]

/-- A list with the names that some of its nodes have. -/
theorem lookup_filterMap {α : Type} (name : String) (own : NodeId → Option String)
    (make : NodeId → α) :
    ∀ nodes : List NodeId,
      (nodes.filterMap fun v => (own v).map (·, make v)).lookup name =
        (nodes.find? fun v => own v == some name).map make
  | [] => rfl
  | v :: nodes => by
    rw [List.find?_cons, List.filterMap_cons]
    cases named : own v with
    | none => simpa using lookup_filterMap name own make nodes
    | some other =>
      by_cases same : name = other
      · simp [same]
      · simpa [List.lookup_cons, beq_eq_false_iff_ne.mpr same,
          beq_eq_false_iff_ne.mpr (Ne.symm same)] using lookup_filterMap name own make nodes

theorem values_givesFirst (top : NodeId) :
    GivesFirst ((valuesOf t top).lookup name) {d | Gives t name top .value d} := by
  unfold valuesOf
  split
  · rename_i kind
    rw [lookup_toList]
    refine (givesFirst_ite top).congr fun d => ⟨fun gives => ?_, ?_⟩
    · cases gives with
      | value _ named => exact ⟨rfl, named⟩
      | port other => exact nomatch kind.symm.trans other
    · rintro ⟨rfl, named⟩
      exact .value kind named
  · rename_i kind
    rw [lookup_toList]
    refine (givesFirst_ite top).congr fun d => ⟨fun gives => ?_, ?_⟩
    · cases gives with
      | value other => exact nomatch kind.symm.trans other
      | port _ named => exact ⟨rfl, named⟩
    · rintro ⟨rfl, named⟩
      exact .port kind named
  · rename_i noValue noPort
    refine givesFirst_none.congr fun d => ⟨fun gives => ?_, False.elim⟩
    cases gives with
    | value kind => exact noValue kind
    | port kind => exact noPort kind

theorem types_givesFirst (top : NodeId) :
    GivesFirst ((typesOf t top).lookup name) {d | Gives t name top .type d} := by
  unfold typesOf
  split
  · rename_i kind
    rw [lookup_toList]
    refine (givesFirst_ite top).congr fun d => ⟨fun gives => ?_, ?_⟩
    · cases gives with
      | type _ named | synonym _ named => exact ⟨rfl, named⟩
    · rintro ⟨rfl, named⟩
      exact .type kind named
  · rename_i kind
    rw [lookup_toList]
    refine (givesFirst_ite top).congr fun d => ⟨fun gives => ?_, ?_⟩
    · cases gives with
      | type _ named | synonym _ named => exact ⟨rfl, named⟩
    · rintro ⟨rfl, named⟩
      exact .synonym kind named
  · rename_i noType noAlias
    refine givesFirst_none.congr fun d => ⟨fun gives => ?_, False.elim⟩
    cases gives with
    | type kind => exact noType kind
    | synonym kind => exact noAlias kind

/-- A type gives its variants, in order; a record alias gives itself. -/
theorem constructors_givesFirst (h : t.Linked) (top : NodeId) :
    GivesFirst (((constructorsOf t top).lookup name).map Constructor.node)
      {d | Gives t name top .constructor d} := by
  unfold constructorsOf
  split
  · rename_i kind
    have variants := lookup_filterMap name (nameOf? t · .upperCaseIdentifier)
      (Constructor.mk · top) (t.childrenOfKind top .unionVariant)
    have order := (h.increasing top).filter fun c => t.kind c == .unionVariant
    rw [variants, Option.map_map, show Constructor.node ∘ (Constructor.mk · top) = id from rfl,
      Option.map_id]
    refine (givesFirst_find? order).congr fun d => ⟨fun gives => ?_, ?_⟩
    · cases gives with
      | variant _ child variant named =>
        exact ⟨List.mem_filter.mpr ⟨child, beq_iff_eq.mpr variant⟩, beq_iff_eq.mpr named⟩
      | record other => exact nomatch kind.symm.trans other
    · rintro ⟨mem, named⟩
      obtain ⟨child, variant⟩ := List.mem_filter.mp mem
      exact .variant kind child (beq_iff_eq.mp variant) (beq_iff_eq.mp named)
  · rename_i kind
    split
    · rename_i record
      rw [lookup_toList, apply_ite (Option.map Constructor.node)]
      refine (givesFirst_ite top).congr fun d => ⟨fun gives => ?_, ?_⟩
      · cases gives with
        | variant other => exact nomatch kind.symm.trans other
        | record _ _ named => exact ⟨rfl, named⟩
      · rintro ⟨rfl, named⟩
        exact .record kind (isRecordAlias_iff.mp record) named
    · rename_i noRecord
      refine givesFirst_none.congr fun d => ⟨fun gives => ?_, False.elim⟩
      cases gives with
      | variant other => exact nomatch kind.symm.trans other
      | record _ record => exact noRecord (isRecordAlias_iff.mpr record)
  · rename_i noType noAlias
    refine givesFirst_none.congr fun d => ⟨fun gives => ?_, False.elim⟩
    cases gives with
    | variant kind => exact noType kind
    | record kind => exact noAlias kind

/-- **A module finds the first declaration of a name.** -/
theorem declaration_givesFirst (h : t.Linked) (name : String) (ns : Namespace) :
    GivesFirst ((ofTree t).declaration? name ns) {d | Declares t name ns d} := by
  have apart : (t.codeChildren Tree.root).Pairwise t.Before :=
    (h.children_before Tree.root).filter _
  have gather : ∀ search : NodeId → Option NodeId,
      (∀ top, GivesFirst (search top) {d | Gives t name top ns d}) →
      GivesFirst ((t.codeChildren Tree.root).findSome? search) {d | Declares t name ns d} := by
    intro search gives
    refine (givesFirst_findSome? h apart (fun top _ => gives top) fun top _ d given =>
      given.atOrBelow h).congr fun d => ⟨?_, ?_⟩
    · rintro ⟨top, child, given⟩
      exact ⟨top, List.mem_filter.mpr ⟨child, by simp [given.not_isComment]⟩, given⟩
    · rintro ⟨top, mem, given⟩
      exact ⟨top, (List.mem_filter.mp mem).1, given⟩
  cases ns with
  | value =>
    have found := gather _ values_givesFirst
    rwa [← lookup_flatMap] at found
  | type =>
    have found := gather _ types_givesFirst
    rwa [← lookup_flatMap] at found
  | constructor =>
    have found : GivesFirst (((t.codeChildren Tree.root).findSome? fun top =>
        (constructorsOf t top).lookup name).map Constructor.node)
        {d | Declares t name .constructor d} := by
      rw [List.map_findSome?]
      exact gather _ (constructors_givesFirst h)
    rwa [← lookup_flatMap] at found

end ElmAssist.Module
