import ElmAssist.Module.Import
import ElmAssist.Text.Blank

/-!
# Module — Modules

What binding names needs to know about one file: the name of its module, what it exposes and
imports, and where its top level declares values, types and constructors. Of two declarations of a
name the first counts. Declarations that are not whole are left out; a module there always is.
-/

namespace ElmAssist

/-- A variant of a type, or the constructor of a record alias. -/
structure Constructor where
  node : NodeId
  /-- The declaration of its type; for a record alias, the alias. -/
  owner : NodeId
  deriving DecidableEq, Repr

/-- What one file declares. -/
structure Module where
  name : String
  /-- The module declaration, if the file has one. -/
  declaration : Option NodeId
  exposing : Exposing
  /-- The imports of the file, then those of every module. -/
  imports : List Import
  values : List (String × NodeId)
  types : List (String × NodeId)
  constructors : List (String × Constructor)
  deriving DecidableEq, Repr

namespace Module

/-- The name of a module without a declaration. -/
def implicitName : String := "Main"

/-- The name a value declaration gives. -/
def declaredValue? (t : Tree) (declaration : NodeId) : Option String := do
  let left ← t.childOfKind? declaration .functionDeclarationLeft
  let id ← t.childOfKind? left .lowerCaseIdentifier
  return t.textOf id

/-- The upper-case parts of a qualified name. -/
def upperParts (t : Tree) (qid : NodeId) : List String :=
  (t.childrenOfKind qid .upperCaseIdentifier).map t.textOf

/-- Parts of a name with dots between them. -/
def dotted (parts : List String) : String :=
  String.intercalate "." parts

/-- The dotted name of a qualified name's upper-case parts. -/
def qualifiedName (t : Tree) (qid : NodeId) : String :=
  dotted (upperParts t qid)

/-- The text of the first child of a kind. -/
def nameOf? (t : Tree) (i : NodeId) (k : Kind) : Option String :=
  (t.childOfKind? i k).map t.textOf

/-- The character is dropped around the name of an exposed operator. -/
def isAroundOperator (c : Char) : Bool :=
  c == '(' || c == ')' || Text.isBlank c

/-- One entry of an exposing list, if it is whole. -/
def exposed? (t : Tree) (entry : NodeId) : Option Exposed :=
  match t.kind entry with
  | .exposedValue => some (.value (Text.trim (t.textOf entry)))
  | .exposedOperator =>
    some (.operator (String.ofList (Text.stripChars isAroundOperator (t.textOf entry).toList)))
  | .exposedType =>
    (nameOf? t entry .upperCaseIdentifier).map fun name =>
      .type name (t.childOfKind? entry .exposedUnionConstructors).isSome
  | _ => none

/-- An exposing list. -/
def exposingOf (t : Tree) (list : NodeId) : Exposing :=
  if (t.childOfKind? list .doubleDot).isSome then .everything
  else .only ((t.codeChildren list).filterMap (exposed? t))

/-- An import clause, if it names a module. -/
def import? (t : Tree) (clause : NodeId) : Option Import :=
  match t.childOfKind? clause .upperCaseQid with
  | none => none
  | some qid =>
    let module := qualifiedName t qid
    if module = "" then none
    else some
      ⟨module,
        (t.childOfKind? clause .asClause).bind (nameOf? t · .upperCaseIdentifier),
        (t.childOfKind? clause .exposingList).map (exposingOf t),
        some clause⟩

/-- An alias whose type is a record type. -/
def isRecordAlias (t : Tree) (a : NodeId) : Bool :=
  match t.childOfKind? a .typeExpression with
  | none => false
  | some e =>
    match (t.codeChildren e).head? with
    | none => false
    | some first => t.grammar? first == some "record_type"

/-- The values a top-level declaration gives. -/
def valuesOf (t : Tree) (d : NodeId) : List (String × NodeId) :=
  match t.kind d with
  | .valueDeclaration => ((declaredValue? t d).map (·, d)).toList
  | .portDeclaration => ((nameOf? t d .lowerCaseIdentifier).map (·, d)).toList
  | _ => []

/-- The types a top-level declaration gives. -/
def typesOf (t : Tree) (d : NodeId) : List (String × NodeId) :=
  match t.kind d with
  | .typeDeclaration | .typeAliasDeclaration =>
    ((nameOf? t d .upperCaseIdentifier).map (·, d)).toList
  | _ => []

/-- The constructors a top-level declaration gives. -/
def constructorsOf (t : Tree) (d : NodeId) : List (String × Constructor) :=
  match t.kind d with
  | .typeDeclaration =>
    (t.childrenOfKind d .unionVariant).filterMap fun v =>
      (nameOf? t v .upperCaseIdentifier).map (·, ⟨v, d⟩)
  | .typeAliasDeclaration =>
    if isRecordAlias t d then
      ((nameOf? t d .upperCaseIdentifier).map (·, ⟨d, d⟩)).toList
    else []
  | _ => []

/-- The module's name: that of its declaration, if it has one that is not empty. -/
def moduleName (t : Tree) (declaration : Option NodeId) : String :=
  match declaration.bind (t.childOfKind? · .upperCaseQid) with
  | none => implicitName
  | some qid =>
    let name := qualifiedName t qid
    if name = "" then implicitName else name

/-- What a module exposes: nothing when its declaration has no list, everything when it has no
declaration. -/
def moduleExposing (t : Tree) (declaration : Option NodeId) : Exposing :=
  match declaration with
  | none => .everything
  | some d =>
    match t.childOfKind? d .exposingList with
    | none => .only []
    | some list => exposingOf t list

/-- The module of a parsed file. -/
def ofTree (t : Tree) : Module :=
  let declaration := t.childOfKind? Tree.root .moduleDeclaration
  let top := t.codeChildren Tree.root
  { name := moduleName t declaration
    declaration := declaration
    exposing := moduleExposing t declaration
    imports := (t.childrenOfKind Tree.root .importClause).filterMap (import? t) ++ Import.everywhere
    values := top.flatMap (valuesOf t)
    types := top.flatMap (typesOf t)
    constructors := top.flatMap (constructorsOf t) }

/-- The constructor of a name. -/
def constructor? (m : Module) (name : String) : Option Constructor :=
  m.constructors.lookup name

/-- The first top-level declaration of a name. -/
def declaration? (m : Module) (name : String) (ns : Namespace) : Option NodeId :=
  match ns with
  | .value => m.values.lookup name
  | .type => m.types.lookup name
  | .constructor => (m.constructor? name).map Constructor.node

/-- An exposing list shows a constructor: for a record alias by listing the alias, else by listing
its type with constructors. -/
def showsConstructor (m : Module) (t : Tree) (e : Exposing) (name : String) : Bool :=
  match m.constructor? name with
  | none => false
  | some c =>
    match nameOf? t c.owner .upperCaseIdentifier with
    | none => false
    | some owner =>
      if t.kind c.owner = .typeAliasDeclaration then e.listsType owner
      else e.listsConstructorsOf owner

/-- The module declares a name and shows it to others. -/
def exposes (m : Module) (t : Tree) (name : String) (ns : Namespace) : Bool :=
  (m.declaration? name ns).isSome &&
    match ns with
    | .value => m.exposing.listsValue name
    | .type => m.exposing.listsType name
    | .constructor => m.showsConstructor t m.exposing name

/-- The imports that are written in the file. -/
def writtenImports (m : Module) : List Import :=
  m.imports.filter fun i => !i.isImplied

/-- The file imports a module by name. -/
def importsModule (m : Module) (module : String) : Bool :=
  m.writtenImports.any fun i => i.module == module

end Module

end ElmAssist
