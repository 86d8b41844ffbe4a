import ElmAssist.Module.Basic

/-!
# Module — What exposing lists show

An exposing list shows a name because it shows everything, or because of the entries written in it:
a value by its name, a type by its name with or without constructors, a constructor by an entry
that opens its type. The constructor of a record alias has the name of the alias and comes with it.

Each check of a list is given its meaning here: `listsValue_iff`, `listsType_iff`,
`listsConstructorsOf_iff`, `hasOpenTypes_iff`, and for the names of a module `exposes_iff`.
-/

namespace ElmAssist

namespace Exposing

/-- The entries of a list. A list that exposes everything has none. -/
def written : Exposing → List Exposed
  | .everything => []
  | .only names => names

/-- An entry names the value or type. No entry names a constructor. -/
def Names (e : Exposing) (name : String) : Namespace → Prop
  | .value => .value name ∈ e.written
  | .type => ∃ constructors, .type name constructors ∈ e.written
  | .constructor => False

/-- An entry has the constructors of the type, and none before it is for the same type: of several
entries for a type, the first counts. -/
def Opens (e : Exposing) (type : String) : Prop :=
  ∃ before later, e.written = before ++ .type type true :: later ∧
    ∀ constructors, .type type constructors ∉ before

theorem isEverything_iff {e : Exposing} : e.isEverything = true ↔ e = .everything := by
  cases e <;> simp [isEverything]

theorem isTypeEntry_iff {name : String} {entry : Exposed} :
    isTypeEntry name entry = true ↔ ∃ constructors, entry = .type name constructors := by
  cases entry with
  | value | operator => simp [isTypeEntry]
  | type n constructors => simp [isTypeEntry]

theorem isOpen_iff {entry : Exposed} : isOpen entry = true ↔ ∃ name, entry = .type name true := by
  cases entry <;> simp [isOpen]

theorem listsValue_iff {e : Exposing} {name : String} :
    e.listsValue name = true ↔ e = .everything ∨ e.Names name .value := by
  cases e with
  | everything => exact ⟨fun _ => Or.inl rfl, fun _ => rfl⟩
  | only names => simp [listsValue, Names, written]

theorem listsType_iff {e : Exposing} {name : String} :
    e.listsType name = true ↔ e = .everything ∨ e.Names name .type := by
  cases e with
  | everything => exact ⟨fun _ => Or.inl rfl, fun _ => rfl⟩
  | only names =>
    simp only [listsType, isEverything, typeEntry?, Bool.false_or, List.find?_isSome,
      isTypeEntry_iff, Names, written, reduceCtorEq, false_or]
    constructor
    · rintro ⟨_, mem, c, rfl⟩
      exact ⟨c, mem⟩
    · rintro ⟨c, mem⟩
      exact ⟨_, mem, c, rfl⟩

theorem listsConstructorsOf_iff {e : Exposing} {type : String} :
    e.listsConstructorsOf type = true ↔ e = .everything ∨ e.Opens type := by
  cases e with
  | everything => exact ⟨fun _ => Or.inl rfl, fun _ => rfl⟩
  | only names =>
    simp only [listsConstructorsOf, typeEntry?, Option.any_eq_true, List.find?_eq_some_iff_append,
      Bool.not_eq_true', reduceCtorEq, false_or]
    constructor
    · rintro ⟨entry, ⟨so, before, later, rfl, others⟩, opened⟩
      obtain ⟨c, rfl⟩ := isTypeEntry_iff.mp so
      obtain rfl : c = true := opened
      refine ⟨before, later, rfl, fun c mem => ?_⟩
      exact Bool.false_ne_true ((others _ mem).symm.trans (isTypeEntry_iff.mpr ⟨c, rfl⟩))
    · rintro ⟨before, later, e, others⟩
      refine ⟨.type type true, ⟨isTypeEntry_iff.mpr ⟨true, rfl⟩, before, later, e,
        fun entry mem => Bool.eq_false_iff.mpr fun so => ?_⟩, rfl⟩
      obtain ⟨c, rfl⟩ := isTypeEntry_iff.mp so
      exact others c mem

theorem hasOpenTypes_iff {e : Exposing} :
    e.hasOpenTypes = true ↔ e = .everything ∨ ∃ type, .type type true ∈ e.written := by
  cases e with
  | everything => exact ⟨fun _ => Or.inl rfl, fun _ => rfl⟩
  | only names =>
    simp only [hasOpenTypes, List.any_eq_true, isOpen_iff, written, reduceCtorEq, false_or]
    constructor
    · rintro ⟨_, mem, type, rfl⟩
      exact ⟨type, mem⟩
    · rintro ⟨type, mem⟩
      exact ⟨_, mem, type, rfl⟩

/-- The list shows a constructor of a module: it opens the owner, or has it when that is a record
alias. -/
def ShowsConstructor (e : Exposing) (m : Module) (t : Tree) (name : String) : Prop :=
  ∃ c owner, m.constructor? name = some c ∧
    Module.nameOf? t c.owner .upperCaseIdentifier = some owner ∧
    (e = .everything ∨
      if t.kind c.owner = .typeAliasDeclaration then e.Names owner .type else e.Opens owner)

/-- The list shows a name of a module. -/
def Shows (e : Exposing) (m : Module) (t : Tree) (name : String) : Namespace → Prop
  | .value => e = .everything ∨ e.Names name .value
  | .type => e = .everything ∨ e.Names name .type
  | .constructor => e.ShowsConstructor m t name

end Exposing

namespace Module

theorem showsConstructor_iff {m : Module} {t : Tree} {e : Exposing} {name : String} :
    m.showsConstructor t e name = true ↔ e.ShowsConstructor m t name := by
  unfold showsConstructor
  split
  · rename_i none_
    exact ⟨nofun, fun ⟨_, _, held, _⟩ => nomatch none_.symm.trans held⟩
  · rename_i c held
    split
    · rename_i none_
      refine ⟨nofun, fun ⟨d, _, held', named, _⟩ => ?_⟩
      cases Option.some.inj (held.symm.trans held')
      exact nomatch none_.symm.trans named
    · rename_i owner named
      have : (if t.kind c.owner = .typeAliasDeclaration then e.listsType owner
          else e.listsConstructorsOf owner) = true ↔ (e = .everything ∨
          if t.kind c.owner = .typeAliasDeclaration then e.Names owner .type
            else e.Opens owner) := by
        split
        · exact Exposing.listsType_iff
        · exact Exposing.listsConstructorsOf_iff
      refine this.trans ⟨fun shown => ⟨c, owner, held, named, shown⟩, ?_⟩
      rintro ⟨d, owner', held', named', shown⟩
      cases Option.some.inj (held.symm.trans held')
      cases Option.some.inj (named.symm.trans named')
      exact shown

/-- **A module exposes what it declares and its list shows.** -/
theorem exposes_iff {m : Module} {t : Tree} {name : String} {ns : Namespace} :
    m.exposes t name ns = true ↔
      (∃ d, m.declaration? name ns = some d) ∧ m.exposing.Shows m t name ns := by
  unfold exposes
  rw [Bool.and_eq_true, Option.isSome_iff_exists]
  refine and_congr_right fun _ => ?_
  cases ns with
  | value => exact Exposing.listsValue_iff
  | type => exact Exposing.listsType_iff
  | constructor => exact showsConstructor_iff

end Module

end ElmAssist
