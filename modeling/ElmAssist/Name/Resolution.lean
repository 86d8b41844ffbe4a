import ElmAssist.Forest.Basic
import ElmAssist.Name.Reference
import ElmAssist.Name.Scope
import ElmAssist.Tree.Cursor

/-!
# Name — Resolution

From a reference to the node that defines it, over one forest.

* A site is its own definition.
* An unqualified value is looked up in the scopes around it, then at the top of its file, then
  through the imports that expose it. Types and constructors have no local scopes.
* A qualified name goes through the imports of its qualifier to the top of their modules.

A reference without a definition is no fault; `Unresolved` says why there is none.
-/

namespace ElmAssist

/-- Which declarations a qualified name reaches. -/
inductive Access where
  /-- All at the top of the module. -/
  | anyTopLevel
  /-- Those that the module exposes. -/
  | exposedOnly
  deriving DecidableEq, Repr, Inhabited

/-- A node of a file. -/
structure Definition where
  uri : String
  node : NodeId
  deriving DecidableEq, Repr

/-- Why a reference has no definition. -/
inductive Unresolved where
  | notAReference
  /-- No scope and no import has the name. -/
  | notFound (name : String)
  /-- The name comes from a module outside the forest. -/
  | external (module : String)
  /-- Several imports expose the name. -/
  | ambiguous (name : String) (modules : List String)
  | unknownQualifier (qualifier : String)
  /-- The module is in the forest and does not have the name. -/
  | missingMember (module name : String)
  /-- Several files declare the module. -/
  | duplicateModule (module : String)
  deriving DecidableEq, Repr

/-- A definition, or why there is none. -/
abbrev Resolution := Except Unresolved Definition

/-- What an import offers for a name. -/
inductive Candidate where
  /-- A declaration in a file of the forest, whose module has the given name. -/
  | inside (definition : Definition) (module : String)
  /-- A module outside the forest. -/
  | outside (module : String)
  deriving DecidableEq, Repr

namespace Candidate

/-- The module that offers the name. -/
def module : Candidate → String
  | .inside _ m => m
  | .outside m => m

end Candidate

namespace Forest

/-- The only file that declares a module, or why there is none. -/
def moduleFile (s : Forest) (module : String) : Except Unresolved SourceFile :=
  match s.fileOf? module with
  | some f => .ok f
  | none =>
    if s.modules.isDuplicate module then .error (.duplicateModule module)
    else .error (.external module)

/-- A module's declaration; the root of a file that has none. -/
def resolveModule (s : Forest) (module : String) : Resolution :=
  match s.moduleFile module with
  | .ok f => .ok ⟨f.uri, f.module.declaration.getD Tree.root⟩
  | .error why => .error why

/-- An import's exposing list takes in a name from a file of the forest. -/
def takesIn (target : SourceFile) (e : Exposing) (name : String) (ns : Namespace) : Bool :=
  match ns with
  | .value => e.listsValue name
  | .type => e.listsType name
  | .constructor => target.module.showsConstructor target.tree e name

/-- The name is written in an exposing list. Constructors are not written by name. -/
def names (e : Exposing) (name : String) (ns : Namespace) : Bool :=
  !e.isEverything &&
    match ns with
    | .value => e.listsValue name
    | .type => e.listsType name
    | .constructor => false

/-- What an import offers for a name. -/
def candidate? (s : Forest) (name : String) (ns : Namespace) (i : Import) : Option Candidate :=
  match i.exposing? with
  | none => none
  | some e =>
    match s.moduleFile i.module with
    | .ok target =>
      if takesIn target e name ns && target.module.exposes target.tree name ns then
        (target.module.declaration? name ns).map fun d => .inside ⟨target.uri, d⟩ i.module
      else none
    | .error _ => if names e name ns then some (.outside i.module) else none

/-- The import may expose the name, from a module whose declarations are not known. -/
def mayExpose (s : Forest) (name : String) (ns : Namespace) (i : Import) : Bool :=
  match i.exposing?, s.moduleFile i.module with
  | some e, .error _ =>
    !names e name ns && (e.isEverything || (ns == .constructor && e.hasOpenTypes))
  | _, _ => false

/-- The items without later repetitions. -/
def distinct (cs : List Candidate) : List Candidate :=
  cs.foldl (fun seen c => if seen.contains c then seen else seen ++ [c]) []

/-- A name that its file neither binds nor declares. -/
def throughImports (s : Forest) (m : Module) (name : String) (ns : Namespace) : Resolution :=
  match distinct (m.imports.filterMap (s.candidate? name ns)) with
  | [.inside d _] => .ok d
  | [.outside module] => .error (.external module)
  | [] =>
    match m.imports.find? (s.mayExpose name ns) with
    | some i => .error (.external i.module)
    | none => .error (.notFound name)
  | many => .error (.ambiguous name (many.map Candidate.module))

/-- The imports of a qualifier. -/
def importsOf (m : Module) (qualifier : String) : List Import :=
  m.imports.filter fun i => i.qualifier == qualifier

/-- A file gives a qualified name a declaration. -/
def member? (access : Access) (target : SourceFile) (name : String) (ns : Namespace) :
    Option NodeId :=
  match access with
  | .anyTopLevel => target.module.declaration? name ns
  | .exposedOnly =>
    if target.module.exposes target.tree name ns then target.module.declaration? name ns else none

/-- A qualified name: the declaration in the first module that has one; else the first module that
is not in the forest is to blame, else the first one that is. -/
def qualified (s : Forest) (access : Access) (m : Module) (qualifier name : String)
    (ns : Namespace) : Resolution :=
  let files := (importsOf m qualifier).map fun i => (i.module, s.moduleFile i.module)
  let found := files.findSome? fun e =>
    match e.2 with
    | .ok target => (member? access target name ns).map (⟨target.uri, ·⟩)
    | .error _ => none
  let unknown := files.findSome? fun e =>
    match e.2 with
    | .ok _ => none
    | .error why => some why
  match found, unknown, files with
  | some d, _, _ => .ok d
  | none, some why, _ => .error why
  | none, none, (module, _) :: _ => .error (.missingMember module name)
  | none, none, [] => .error (.unknownQualifier qualifier)

/-- A qualifier: the first of its modules that is in the forest. -/
def resolveQualifier (s : Forest) (m : Module) (qualifier : String) : Resolution :=
  match importsOf m qualifier with
  | [] => .error (.unknownQualifier qualifier)
  | i :: rest =>
    match (i :: rest).findSome? fun j => (s.resolveModule j.module).toOption with
    | some d => .ok d
    | none => s.resolveModule i.module

/-- A name that stands at a node, without a qualifier. -/
def unqualified (s : Forest) (f : SourceFile) (i : NodeId) (name : String) (ns : Namespace) :
    Resolution :=
  let here := match ns with
    | .value => Scope.lookup? f.tree i name
    | _ => none
  match here.orElse fun _ => f.module.declaration? name ns with
  | some d => .ok ⟨f.uri, d⟩
  | none => s.throughImports f.module name ns

/-- What a reference at a node of a file refers to. -/
def resolveReference (s : Forest) (access : Access) (f : SourceFile) (i : NodeId) :
    Reference → Resolution
  | .site d => .ok ⟨f.uri, d⟩
  | .unqualified name ns => s.unqualified f i name ns
  | .qualified q name ns => s.qualified access f.module q name ns
  | .qualifier q => s.resolveQualifier f.module q
  | .module m => s.resolveModule m
  | .exposedHere name ns =>
    match f.module.declaration? name ns with
    | some d => .ok ⟨f.uri, d⟩
    | none => .error (.notFound name)
  | .exposedBy m name ns =>
    match s.moduleFile m with
    | .error why => .error why
    | .ok target =>
      match target.module.declaration? name ns with
      | some d => .ok ⟨target.uri, d⟩
      | none => .error (.missingMember m name)
  | .none => .error .notAReference

/-- What a node of a file refers to. -/
def resolve (s : Forest) (access : Access) (uri : String) (i : NodeId) : Resolution :=
  match s.get? uri with
  | none => .error .notAReference
  | some f => s.resolveReference access f i (.ofNode f.tree i)

/-- What the smallest node at a point of a file refers to. -/
def resolveAt (s : Forest) (access : Access) (uri : String) (p : Point) : Resolution :=
  match (s.get? uri).bind fun f => f.tree.nodeAt? p with
  | none => .error .notAReference
  | some i => s.resolve access uri i

/-- The range of a definition in its file. -/
def rangeOf? (s : Forest) (d : Definition) : Option Range :=
  (s.get? d.uri).map fun f => f.rangeOf d.node

end Forest

end ElmAssist
