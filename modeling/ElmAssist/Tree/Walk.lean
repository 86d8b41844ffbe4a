import ElmAssist.Tree.Basic

/-!
# Tree — Walks

The nodes above, below and beside a node.
-/

namespace ElmAssist.Tree

/-- The nodes around a node, nearest first, at most `fuel` of them. -/
def climb (t : Tree) : Nat → NodeId → List NodeId
  | 0, _ => []
  | fuel + 1, i =>
    match t.parent? i with
    | none => []
    | some p => p :: climb t fuel p

/-- The nodes around a node, nearest first. -/
def ancestors (t : Tree) (i : NodeId) : List NodeId :=
  t.climb t.size i

/-- The listed nodes in order, each followed by those below it, at most `fuel` in all. -/
def preorder (t : Tree) : Nat → List NodeId → List NodeId
  | 0, _ => []
  | _ + 1, [] => []
  | fuel + 1, i :: rest => i :: preorder t fuel (t.children i ++ rest)

/-- A node and all below it, in source order. -/
def descendants (t : Tree) (i : NodeId) : List NodeId :=
  if i < t.size then t.preorder t.size [i] else []

/-- Every node below the root, and the root, in source order. -/
def all (t : Tree) : List NodeId :=
  t.descendants root

/-- The nodes of a kind among a node and all below it. -/
def descendantsOfKind (t : Tree) (i : NodeId) (k : Kind) : List NodeId :=
  (t.descendants i).filter fun d => t.kind d == k

/-- `a` is around `i`. -/
def isAncestor (t : Tree) (a i : NodeId) : Bool :=
  (t.ancestors i).contains a

/-- The items before and after the first occurrence of one. -/
def around? (i : NodeId) : List NodeId → Option (List NodeId × List NodeId)
  | [] => none
  | c :: cs => if c = i then some ([], cs) else (around? i cs).map fun r => (c :: r.1, r.2)

/-- The siblings before and after a node. -/
def siblings? (t : Tree) (i : NodeId) : Option (List NodeId × List NodeId) :=
  (t.parent? i).bind fun p => around? i (t.children p)

/-- The sibling right after a node. -/
def next? (t : Tree) (i : NodeId) : Option NodeId :=
  (t.siblings? i).bind fun s => s.2.head?

/-- The sibling right before a node. -/
def previous? (t : Tree) (i : NodeId) : Option NodeId :=
  (t.siblings? i).bind fun s => s.1.getLast?

end ElmAssist.Tree
