import ElmAssist.Module.Basic
import ElmAssist.Tree.Walk

/-!
# Name — Local scopes

The nodes around a reference that bind names, and what they bind. All names that a scope binds are
visible everywhere in it, so a reference may stand before its binding.
-/

namespace ElmAssist.Scope

/-- The first pattern variable of a name in a subtree. -/
def patternVariable? (t : Tree) (i : NodeId) (name : String) : Option NodeId :=
  (t.descendantsOfKind i .lowerPattern).find? fun v => t.textOf v == name

/-- What a declaration of a let expression binds a name to: the declaration, or a variable of its
pattern. -/
def letBinding? (t : Tree) (name : String) (d : NodeId) : Option NodeId :=
  if Module.declaredValue? t d = some name then some d
  else (t.childOfKind? d .pattern).bind (patternVariable? t · name)

/-- The patterns whose variables a scope binds; a let expression binds otherwise. -/
def patterns (t : Tree) (scope : NodeId) : List NodeId :=
  match t.kind scope with
  | .caseOfBranch => (t.codeChildren scope).take 1
  | .anonymousFunctionExpr => (t.codeChildren scope).dropLast
  | .valueDeclaration =>
    match t.childOfKind? scope .functionDeclarationLeft with
    | some left => (t.codeChildren left).drop 1
    | none => []
  | _ => []

/-- What a node binds a name to, for the nodes below it. -/
def binding? (t : Tree) (name : String) (scope : NodeId) : Option NodeId :=
  match t.kind scope with
  | .letInExpr => (t.childrenOfKind scope .valueDeclaration).findSome? (letBinding? t name)
  | _ => (patterns t scope).findSome? (patternVariable? t · name)

/-- The innermost binding of a name around a node. -/
def lookup? (t : Tree) (i : NodeId) (name : String) : Option NodeId :=
  (t.ancestors i).findSome? (binding? t name)

end ElmAssist.Scope
