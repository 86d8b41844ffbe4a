import ElmAssist.Proofs.Name.Imports
import ElmAssist.Proofs.Name.Scope

/-!
# Name — Definitions

Where a name leads that is looked up. Whichever way it goes, by a qualifier, through an import, the
top of a file or the scopes of one, it ends at a declaration of that name, and the name in that
declaration leads there again.

* `IsDeclaration`: a node of a tree declares a name.
* `ofNode_nameNode`: the name in a declaration refers to the declaration.
* `Forest.Leads`: a definition is such a node of a file of the forest.
* `Forest.definition_fixed`: what a name leads to declares it, and its own name leads to it.
-/

namespace ElmAssist

variable {t : Tree} {name : String} {ns : Namespace}

/-! ### Declarations of a name -/

/-- A node of a tree declares a name, for its file or for a part of it. -/
inductive IsDeclaration (t : Tree) (name : String) (d : NodeId) : Namespace → Prop
  | pattern : t.kind d = .lowerPattern → t.textOf d = name → IsDeclaration t name d .value
  | value : t.kind d = .valueDeclaration → Module.declaredValue? t d = some name →
      IsDeclaration t name d .value
  | port : t.kind d = .portDeclaration → Module.nameOf? t d .lowerCaseIdentifier = some name →
      IsDeclaration t name d .value
  | type : t.kind d = .typeDeclaration → Module.nameOf? t d .upperCaseIdentifier = some name →
      IsDeclaration t name d .type
  | synonym : t.kind d = .typeAliasDeclaration →
      Module.nameOf? t d .upperCaseIdentifier = some name → IsDeclaration t name d .type
  | variant : t.kind d = .unionVariant → Module.nameOf? t d .upperCaseIdentifier = some name →
      IsDeclaration t name d .constructor
  | record : t.kind d = .typeAliasDeclaration → Module.IsRecordAlias t d →
      Module.nameOf? t d .upperCaseIdentifier = some name → IsDeclaration t name d .constructor

theorem IsDeclaration.lt_size {d : Nat} (declares : IsDeclaration t name d ns) : d < t.size := by
  refine Tree.lt_size_of_kind ?_
  cases declares with
  | pattern kind | value kind | port kind | type kind | synonym kind | variant kind
  | record kind =>
    rw [kind]
    nofun

theorem Module.Declares.isDeclaration {d : NodeId} (declares : Module.Declares t name ns d) :
    IsDeclaration t name d ns := by
  obtain ⟨top, -, gives⟩ := declares
  cases gives with
  | value kind named => exact .value kind named
  | port kind named => exact .port kind named
  | type kind named => exact .type kind named
  | synonym kind named => exact .synonym kind named
  | variant _ _ kind named => exact .variant kind named
  | record kind record named => exact .record kind record named

theorem Scope.PatternVariable.isDeclaration {i b : NodeId} (var : PatternVariable t name i b) :
    IsDeclaration t name b .value :=
  .pattern var.kind var.text

theorem Scope.Binds.isDeclaration {scope b : NodeId} (binds : Binds t name scope b) :
    IsDeclaration t name b .value := by
  cases binds with
  | declaration _ _ kind named => exact .value kind named
  | branch _ _ var | destructuring _ _ _ _ var | argument _ _ var | parameter _ _ _ var =>
    exact var.isDeclaration

/-! ### The name in a declaration -/

/-- The identifier that is the name in a declaration. -/
def nameNode? (t : Tree) (d : NodeId) : Option NodeId :=
  match t.kind d with
  | .valueDeclaration =>
    (t.childOfKind? d .functionDeclarationLeft).bind (t.childOfKind? · .lowerCaseIdentifier)
  | .lowerPattern | .portDeclaration => t.childOfKind? d .lowerCaseIdentifier
  | .typeDeclaration | .typeAliasDeclaration | .unionVariant =>
    t.childOfKind? d .upperCaseIdentifier
  | _ => none

theorem childOfKind?_spec (h : t.Linked) {i c : NodeId} {k : Kind}
    (found : t.childOfKind? i k = some c) : t.parent? c = some i ∧ t.kind c = k :=
  ⟨h.mem_children_iff.mp (List.mem_of_find?_eq_some found),
    beq_iff_eq.mp (List.find?_some (p := fun c => t.kind c == k) found)⟩

/-- **The name in a declaration refers to the declaration.** -/
theorem ofNode_nameNode (h : t.Linked) {d i : NodeId} (own : nameNode? t d = some i) :
    Reference.ofNode t i = .site d := by
  have lower : ∀ around, t.parent? i = some around → t.kind i = .lowerCaseIdentifier →
      Reference.ofNode t i = Reference.ofLower t i around := by
    intro around up kind
    simp [Reference.ofNode, Reference.ofIdentifier, up, kind]
  have upper : ∀ around, t.parent? i = some around → t.kind i = .upperCaseIdentifier →
      Reference.ofNode t i = Reference.ofUpper t i around := by
    intro around up kind
    simp [Reference.ofNode, Reference.ofIdentifier, up, kind]
  unfold nameNode? at own
  split at own
  · -- The name of a value is one level further down than the others, and the first of its kind.
    obtain ⟨left, found, first⟩ := Option.bind_eq_some_iff.mp own
    obtain ⟨up, kind⟩ := childOfKind?_spec h first
    obtain ⟨up', kind'⟩ := childOfKind?_spec h found
    rw [lower left up kind]
    simp [Reference.ofLower, kind', up', first]
  · rename_i pattern
    obtain ⟨up, kind⟩ := childOfKind?_spec h own
    rw [lower d up kind]
    simp [Reference.ofLower, pattern]
  · rename_i port
    obtain ⟨up, kind⟩ := childOfKind?_spec h own
    rw [lower d up kind]
    simp [Reference.ofLower, port]
  · rename_i type
    obtain ⟨up, kind⟩ := childOfKind?_spec h own
    rw [upper d up kind]
    simp [Reference.ofUpper, type]
  · rename_i synonym
    obtain ⟨up, kind⟩ := childOfKind?_spec h own
    rw [upper d up kind]
    simp [Reference.ofUpper, synonym]
  · rename_i variant
    obtain ⟨up, kind⟩ := childOfKind?_spec h own
    rw [upper d up kind]
    simp [Reference.ofUpper, variant]
  · cases own

/-- A declaration has its name in it; only a variable is its own name as a whole. -/
theorem IsDeclaration.exists_nameNode {d : NodeId} (declares : IsDeclaration t name d ns) :
    t.kind d = .lowerPattern ∨ ∃ i, nameNode? t d = some i ∧ t.textOf i = name := by
  cases declares with
  | pattern kind => exact Or.inl kind
  | value kind named =>
    obtain ⟨left, found, i, first, text⟩ : ∃ left, t.childOfKind? d .functionDeclarationLeft =
        some left ∧ ∃ i, t.childOfKind? left .lowerCaseIdentifier = some i ∧ t.textOf i = name := by
      simpa [Module.declaredValue?, Option.bind_eq_some_iff] using named
    exact Or.inr ⟨i, by simp [nameNode?, kind, found, first], text⟩
  | port kind named | type kind named | synonym kind named | variant kind named
  | record kind _ named =>
    obtain ⟨i, first, text⟩ := Option.map_eq_some_iff.mp named
    exact Or.inr ⟨i, by simpa [nameNode?, kind] using first, text⟩

/-- The name that a reference looks up, and where. -/
def Reference.sought? : Reference → Option (String × Namespace)
  | .unqualified name ns | .qualified _ name ns | .exposedHere name ns | .exposedBy _ name ns =>
    some (name, ns)
  | _ => Option.none

/-! ### Where a name leads -/

namespace Forest

variable {parse : Parser} {s : Forest} {d : Definition}

/-- A definition of a name: the node of a file of the forest that declares it. -/
def Leads (s : Forest) (name : String) (ns : Namespace) (d : Definition) : Prop :=
  ∃ f, s.get? d.uri = some f ∧ IsDeclaration f.tree name d.node ns

/-- What a module declares is a definition. -/
theorem Leads.of_declaration (h : Sound parse s) {f : SourceFile} (held : s.get? f.uri = some f)
    {i : NodeId} (declared : f.module.declaration? name ns = some i) :
    s.Leads name ns ⟨f.uri, i⟩ := by
  obtain ⟨-, linked, ofTree⟩ := h.file held
  have first := Module.declaration_givesFirst linked name ns
  rw [ofTree] at declared
  exact ⟨f, held, (first.mem declared).isDeclaration⟩

theorem Leads.of_moduleFile (h : Sound parse s) {module : String} {f : SourceFile}
    (file : s.moduleFile module = .ok f) {i : NodeId}
    (declared : f.module.declaration? name ns = some i) : s.Leads name ns ⟨f.uri, i⟩ :=
  .of_declaration h ((moduleFile_eq_ok_iff h).mp file).held declared

theorem Leads.of_throughImports (h : Sound parse s) {m : Module}
    (found : s.throughImports m name ns = .ok d) : s.Leads name ns d := by
  have alone := ((decided_throughImports h).found d).mp found
  obtain ⟨i, -, e, f, -, known, -, -, uri, declared⟩ : d ∈ s.offered m name ns := by
    rw [alone.1]
    rfl
  obtain ⟨v, n⟩ := d
  cases uri
  exact .of_declaration h known.held declared

theorem Leads.of_unqualified (h : Sound parse s) {f : SourceFile} (held : s.get? f.uri = some f)
    {i : NodeId} (found : s.unqualified f i name ns = .ok d) : s.Leads name ns d := by
  cases ns with
  | value =>
    have meaning := (unqualified_value_iff h held i name _).mp found
    -- The last case is about a search, whose answer `cases` cannot match with `.ok d`.
    generalize answer : Except.ok d = a at meaning
    cases meaning with
    | bound _ first =>
      cases answer
      exact ⟨f, held, first.1.isDeclaration⟩
    | declared _ first =>
      cases answer
      exact ⟨f, held, first.1.isDeclaration⟩
    | imported => exact .of_throughImports h answer.symm
  | type | constructor =>
    unfold unqualified at found
    dsimp only at found
    split at found
    · rename_i declared
      cases found
      exact .of_declaration h held declared
    · exact .of_throughImports h found

theorem Leads.of_qualified (h : Sound parse s) {access : Access} {m : Module} {q : String}
    (found : s.qualified access m q name ns = .ok d) : s.Leads name ns d := by
  unfold qualified at found
  dsimp only at found
  split at found
  · rename_i first
    cases found
    obtain ⟨⟨module, file⟩, mem, member⟩ := List.exists_of_findSome?_eq_some first
    obtain ⟨i, -, same⟩ := List.mem_map.mp mem
    cases same
    dsimp only at member
    split at member
    · rename_i target file
      obtain ⟨n, declared, rfl⟩ := Option.map_eq_some_iff.mp member
      refine .of_moduleFile h file ?_
      cases access with
      | anyTopLevel => exact declared
      | exposedOnly => exact (Option.ite_none_right_eq_some.mp declared).2
    · cases member
  · cases found
  · cases found
  · cases found

theorem Leads.of_resolveReference (h : Sound parse s) {access : Access} {f : SourceFile}
    (held : s.get? f.uri = some f) {i : NodeId} {r : Reference}
    (sought : r.sought? = some (name, ns))
    (found : s.resolveReference access f i r = .ok d) : s.Leads name ns d := by
  cases r with
  | unqualified n k =>
    cases sought
    exact .of_unqualified h held found
  | qualified q n k =>
    cases sought
    exact .of_qualified h found
  | exposedHere n k =>
    cases sought
    rw [resolveReference] at found
    split at found
    · rename_i declared
      cases found
      exact .of_declaration h held declared
    · cases found
  | exposedBy module n k =>
    cases sought
    rw [resolveReference] at found
    split at found
    · cases found
    · rename_i target file
      split at found
      · rename_i declared
        cases found
        exact .of_moduleFile h file declared
      · cases found
  | site | qualifier | module | none => cases sought

/-- The name in a definition leads to the definition. -/
theorem resolve_nameNode (h : Sound parse s) (access : Access) {f : SourceFile}
    (held : s.get? d.uri = some f) {i : NodeId} (own : nameNode? f.tree d.node = some i) :
    s.resolve access d.uri i = .ok d := by
  obtain ⟨uri, linked, -⟩ := h.file held
  rw [resolve, held]
  dsimp only
  rw [ofNode_nameNode linked own, resolveReference, uri]

/-- **What a name leads to declares it, and its own name leads to it.** Wherever a name is looked up
in a forest that edits lead to, what is found is a node of a file of the forest that declares this
name; unless it is a variable as a whole, the name stands in it; and the name in it is resolved to
the same definition, whatever qualified names reach. -/
theorem definition_fixed (parse : Parser) (edits : List Edit) (access : Access) {uri : String}
    {f : SourceFile} {i : NodeId} (held : (after parse edits).get? uri = some f)
    (sought : (Reference.ofNode f.tree i).sought? = some (name, ns))
    (found : (after parse edits).resolve access uri i = .ok d) :
    ∃ g, (after parse edits).get? d.uri = some g ∧ d.node < g.tree.size ∧
      IsDeclaration g.tree name d.node ns ∧
      (g.tree.kind d.node = .lowerPattern ∨
        ∃ n, nameNode? g.tree d.node = some n ∧ g.tree.textOf n = name) ∧
      ∀ n, nameNode? g.tree d.node = some n →
        ∀ reach, (after parse edits).resolve reach d.uri n = .ok d := by
  have h : Sound parse (after parse edits) := sound_after edits
  obtain ⟨rfl, -, -⟩ := h.file held
  have reference : (after parse edits).resolveReference access f i (.ofNode f.tree i) = .ok d := by
    rwa [resolve, held] at found
  obtain ⟨g, there, declares⟩ := Leads.of_resolveReference h held sought reference
  exact ⟨g, there, declares.lt_size, declares, declares.exists_nameNode,
    fun n own reach => resolve_nameNode h reach there own⟩

/-- In `f x = x` the name of the parameter leads to the parameter, as the result does. -/
theorem parameter_fixed :
    let s := after (.constant identityRows) [.set "file:///A.elm" "f x = x" 1]
    s.resolve .exposedOnly "file:///A.elm" 8 = .ok ⟨"file:///A.elm", 4⟩ ∧
      s.resolve .anyTopLevel "file:///A.elm" 5 = .ok ⟨"file:///A.elm", 4⟩ := by
  intro s
  have held : s.get? "file:///A.elm" =
      some (.build (.constant identityRows) "file:///A.elm" "f x = x" 1) :=
    Catalog.get?_insert_self ..
  have found : s.resolve .exposedOnly "file:///A.elm" 8 = .ok ⟨"file:///A.elm", 4⟩ := by
    decide +kernel
  have sought : (Reference.ofNode (SourceFile.build (.constant identityRows) "file:///A.elm"
      "f x = x" 1).tree 8).sought? = some ("x", .value) := by decide +kernel
  obtain ⟨g, there, -, -, -, fixed⟩ := definition_fixed _ _ _ held sought found
  cases Option.some.inj (held.symm.trans there)
  exact ⟨found, fixed 5 (by decide +kernel) .anyTopLevel⟩

end Forest

end ElmAssist
