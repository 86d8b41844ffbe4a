import ElmAssist.Module.Basic
import ElmAssist.Tree.Walk

/-!
# Name — References

What a node of a tree refers to, read off the node and those around it. Nothing is looked up yet.
-/

namespace ElmAssist

/-- What a node refers to. -/
inductive Reference where
  /-- The node names a declaration or binding of its own file. -/
  | site (node : NodeId)
  | unqualified (name : String) (ns : Namespace)
  | qualified (qualifier name : String) (ns : Namespace)
  /-- The part of a qualified name before its last dot. -/
  | qualifier (name : String)
  /-- A module, in an import. -/
  | module (name : String)
  /-- An entry of the file's own exposing list. -/
  | exposedHere (name : String) (ns : Namespace)
  /-- An entry of an import's exposing list. -/
  | exposedBy (module name : String) (ns : Namespace)
  | none
  deriving DecidableEq, Repr

namespace Reference

/-- The node uses a name that is defined elsewhere. -/
def isUse : Reference → Bool
  | .unqualified .. | .qualified .. | .qualifier _ => true
  | _ => false

/-- A name after a qualifier, which may be empty. -/
def qualify (qualifier : List String) (name : String) (ns : Namespace) : Reference :=
  if qualifier = [] then .unqualified name ns
  else .qualified (Module.dotted qualifier) name ns

/-- An entry of an exposing list, by what the list belongs to. -/
def entry (t : Tree) (e : NodeId) (name : String) (ns : Namespace) : Reference :=
  match (t.parent? e).bind t.parent? with
  | Option.none => .none
  | some owner =>
    match t.kind owner with
    | .moduleDeclaration => .exposedHere name ns
    | .importClause =>
      match t.childOfKind? owner .upperCaseQid with
      | some qid => .exposedBy (Module.qualifiedName t qid) name ns
      | Option.none => .none
    | _ => .none

/-- The declaration that a type signature belongs to: one of its name among the next two
siblings. -/
def signed? (t : Tree) (signature : NodeId) (name : String) : Option NodeId :=
  let next := t.next? signature
  (next.toList ++ (next.bind t.next?).toList).find? fun s =>
    t.kind s == .valueDeclaration && Module.declaredValue? t s == some name

/-- A lower-case identifier, by the node around it. -/
def ofLower (t : Tree) (i around : NodeId) : Reference :=
  let name := t.textOf i
  match t.kind around with
  | .valueQid => qualify (Module.upperParts t around) name .value
  | .recordBaseIdentifier => .unqualified name .value
  | .functionDeclarationLeft =>
    match t.parent? around with
    | some d => if t.childOfKind? around .lowerCaseIdentifier = some i then .site d else .none
    | Option.none => .none
  | .typeSignature => .site ((signed? t around name).getD around)
  | .portDeclaration => .site around
  | .lowerPattern => .site around
  | .exposedValue => entry t around name .value
  | _ => .none

/-- A part of a qualified upper-case name. The last part is the name, those before it the
qualifier. -/
def ofUpperPart (t : Tree) (i qid : NodeId) (ns : Namespace) : Reference :=
  let parts := t.childrenOfKind qid .upperCaseIdentifier
  match parts.getLast? with
  | Option.none => .none
  | some last =>
    let before := parts.dropLast.map t.textOf
    if last ≠ i then .qualifier (Module.dotted before)
    else qualify before (t.textOf last) ns

/-- An upper-case identifier, by the node around it. -/
def ofUpper (t : Tree) (i around : NodeId) : Reference :=
  match t.kind around with
  | .upperCaseQid =>
    match t.parent? around with
    | Option.none => .none
    | some context =>
      match t.kind context with
      | .moduleDeclaration => .site context
      | .importClause => .module (Module.qualifiedName t around)
      | .typeRef => ofUpperPart t i around .type
      | .valueExpr | .unionPattern => ofUpperPart t i around .constructor
      | _ => .none
  | .valueQid => .qualifier (Module.qualifiedName t around)
  | .typeDeclaration | .typeAliasDeclaration | .unionVariant => .site around
  | .exposedType => entry t around (t.textOf i) .type
  | .asClause =>
    match (t.parent? around).bind (t.childOfKind? · .upperCaseQid) with
    | some qid => .module (Module.qualifiedName t qid)
    | Option.none => .none
  | _ => .none

/-- What an identifier refers to. -/
def ofIdentifier (t : Tree) (i : NodeId) : Reference :=
  match t.parent? i with
  | Option.none => .none
  | some around =>
    match t.kind i with
    | .lowerCaseIdentifier => ofLower t i around
    | .upperCaseIdentifier => ofUpper t i around
    | _ => .none

/-- What a node refers to. A qualified name as a whole, as under a cursor on its dot, means what its
last part means. -/
def ofNode (t : Tree) (i : NodeId) : Reference :=
  match t.parent? i with
  | Option.none => .none
  | some _ =>
    match t.kind i with
    | .valueQid =>
      match (t.childrenOfKind i .lowerCaseIdentifier).getLast? with
      | some last => ofIdentifier t last
      | Option.none => .none
    | .upperCaseQid =>
      match (t.childrenOfKind i .upperCaseIdentifier).getLast? with
      | some last => ofIdentifier t last
      | Option.none => .none
    | _ => ofIdentifier t i

end Reference

end ElmAssist
