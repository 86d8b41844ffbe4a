import ElmAssist.Tree.Walk

/-!
# Tree — The node at a point

The smallest node at a point. Between two nodes that touch, it is the one that starts there.
-/

namespace ElmAssist.Tree

/-- The point lies in the node, its end excluded. -/
def holds (t : Tree) (p : Point) (i : NodeId) : Bool :=
  (t.span i).start.le p && p.lt (t.span i).stop

/-- The child to go on with at a point: the first that holds it, else the first that ends there. -/
def childAt? (t : Tree) (p : Point) (i : NodeId) : Option NodeId :=
  match (t.children i).find? (t.holds p) with
  | some c => some c
  | none => (t.children i).find? fun c => (t.span c).stop == p

/-- Goes down from a node, at most `fuel` levels. -/
def descend (t : Tree) (p : Point) : Nat → NodeId → NodeId
  | 0, i => i
  | fuel + 1, i =>
    match t.childAt? p i with
    | some c => descend t p fuel c
    | none => i

/-- The smallest node at a point of the text. -/
def nodeAt? (t : Tree) (p : Point) : Option NodeId :=
  match t.get? root with
  | none => none
  | some n => if n.span.contains p then some (t.descend p t.size root) else none

end ElmAssist.Tree
