import ElmAssist.Diagnostic.Board
import ElmAssist.Name.Resolution

/-!
# Diagnostic — The live check

What can be said of a file from the trees alone: source that does not parse, a module that another
file declares too, and names that have no definition although all that could define them is known.
-/

namespace ElmAssist.Forest

/-- A problem at a node. -/
def problemAt (f : SourceFile) (i : NodeId) (severity : Severity) (message : String) :
    Diagnostic :=
  ⟨.live, f.rangeOf i, severity, message⟩

/-- Source that does not parse stands around the node around this one. -/
def isInsideError (t : Tree) (i : NodeId) : Bool :=
  ((t.ancestors i).drop 1).any fun a => t.kind a == .error

/-- The text for a node that the parser did not find in order. -/
def defectMessage? (t : Tree) (i : NodeId) : Option String :=
  match t.kind i with
  | .error => some "Syntax error"
  | .missing => some ("Missing " ++ (t.grammar? i).getD "token")
  | _ => none

/-- The nodes that the parser did not find in order. -/
def defects (f : SourceFile) : List Diagnostic :=
  f.tree.all.filterMap fun i =>
    if isInsideError f.tree i then none
    else (defectMessage? f.tree i).map (problemAt f i .error)

/-- Other files declare the same module. -/
def duplications (s : Forest) (f : SourceFile) : List Diagnostic :=
  match f.module.declaration with
  | none => []
  | some d =>
    if s.modules.isDuplicate f.module.name then
      let others := (s.modules.urisOf f.module.name).filter (· ≠ f.uri)
      [problemAt f d .warning
        ("Module `" ++ f.module.name ++ "` is also declared in " ++
          String.intercalate ", " others)]
    else []

/-- The text for a name without a definition. A name that may come from outside the forest, or a
type that is not found, has none. -/
def unresolvedMessage? (ns : Namespace) : Unresolved → Option String
  | .ambiguous name modules =>
    some ("`" ++ name ++ "` is exposed by several imports: " ++ String.intercalate ", " modules)
  | .unknownQualifier q => some ("No import is named `" ++ q ++ "`")
  | .missingMember module name =>
    some ("Module `" ++ module ++ "` does not expose `" ++ name ++ "`")
  | .notFound name => if ns = .value then some ("Cannot find `" ++ name ++ "`") else none
  | _ => none

/-- A name at an identifier that has no definition. Of a qualified name the whole is marked. -/
def unresolvedAt? (s : Forest) (access : Access) (f : SourceFile) (i : NodeId) :
    Option Diagnostic :=
  let r := Reference.ofNode f.tree i
  let subject := match r with
    | .unqualified _ ns => some (ns, i)
    | .qualified _ _ ns => some (ns, (f.tree.parent? i).getD i)
    | _ => none
  match subject, s.resolveReference access f i r with
  | some (ns, marked), .error why =>
    (unresolvedMessage? ns why).map (problemAt f marked .warning)
  | _, _ => none

/-- The names without a definition. -/
def unresolved (s : Forest) (access : Access) (f : SourceFile) : List Diagnostic :=
  (f.tree.all.filter fun i => (f.tree.kind i).isIdentifier).filterMap (s.unresolvedAt? access f)

/-- All that the live check says of a file. -/
def check (s : Forest) (access : Access) (uri : String) : List Diagnostic :=
  match s.get? uri with
  | none => []
  | some f => defects f ++ s.duplications f ++ s.unresolved access f

/-- The live lists of the given files. -/
def checkAll (s : Forest) (access : Access) (sequence : Nat) (uris : List String) : Report :=
  ⟨.live, sequence, .ofList (uris.map fun uri => (uri, s.check access uri))⟩

/-- The files whose live lists can change with a file: itself and those that import its module. -/
def affectedBy (s : Forest) (f : SourceFile) : List String :=
  f.uri :: s.importers f.module.name

/-- The live report after a change to a file; none when the file is not in the forest. -/
def checkAround? (s : Forest) (access : Access) (sequence : Nat) (uri : String) : Option Report :=
  (s.get? uri).map fun f => s.checkAll access sequence (s.affectedBy f)

end ElmAssist.Forest
