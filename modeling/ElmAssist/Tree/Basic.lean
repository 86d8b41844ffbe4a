import ElmAssist.Text.Measure
import ElmAssist.Text.Point
import ElmAssist.Tree.Kind

/-!
# Tree — Syntax trees

The nodes of a parsed text in an array. A node is named by its index; the root is node 0.

A parser gives its tree as rows in pre-order, each with its depth. `Tree.ofRows` links them: the
parent of a row is the nearest earlier row of smaller depth. A node that does not belong to the
tree has kind `other`, no text and no relatives.
-/

namespace ElmAssist

/-- The index of a node in its tree. -/
abbrev NodeId := Nat

/-- A node as a parser gives it. -/
structure Row where
  depth : Nat
  kind : Kind
  /-- The name of the kind in the grammar; for a missing token, of what is missing. -/
  grammar : String
  span : Span
  deriving Repr

/-- A node of a tree. -/
structure Node where
  kind : Kind
  grammar : String
  span : Span
  /-- The source the node covers. -/
  text : String
  parent : Option NodeId
  children : List NodeId
  deriving Repr, Inhabited

/-- A parsed text. -/
structure Tree where
  text : String
  nodes : Array Node
  deriving Inhabited

namespace Tree

/-- The parent of each row. `around` holds the depth and index of the rows around the next one,
nearest first. -/
def parents (around : List (Nat × NodeId)) (next : NodeId) : List Row → List (Option NodeId)
  | [] => []
  | r :: rows =>
    let outer := around.dropWhile fun o => r.depth ≤ o.1
    (outer.head?.map Prod.snd) :: parents ((r.depth, next) :: outer) (next + 1) rows

/-- The children of each of `count` nodes, in increasing order, from the parent of each. -/
def childLists (count : Nat) (parents : List (Option NodeId)) : Array (List NodeId) :=
  parents.zipIdx.foldr
    (fun link lists =>
      match link.1 with
      | some p => lists.modify p (link.2 :: ·)
      | none => lists)
    (Array.replicate count [])

/-- The source between two byte offsets; nothing when they do not cut it between characters. -/
def cover (source : List Char) (s : Span) : String :=
  String.ofList ((Text.slice? source s.startByte s.stopByte).getD [])

/-- The tree of a text from the rows of its parser. -/
def ofRows (text : String) (rows : List Row) : Tree :=
  let up := parents [] 0 rows
  let down := childLists rows.length up
  let source := text.toList
  ⟨text, ((rows.zip up).zipIdx.map fun e =>
    let r := e.1.1
    ⟨r.kind, r.grammar, r.span, cover source r.span, e.1.2, down[e.2]?.getD []⟩).toArray⟩

/-- The node all others are below. -/
def root : NodeId := 0

/-- How many nodes there are. -/
def size (t : Tree) : Nat :=
  t.nodes.size

/-- The node of an index. -/
def get? (t : Tree) (i : NodeId) : Option Node :=
  t.nodes[i]?

/-- The kind of a node. -/
def kind (t : Tree) (i : NodeId) : Kind :=
  ((t.get? i).map Node.kind).getD .other

/-- The grammar name of a node. -/
def grammar? (t : Tree) (i : NodeId) : Option String :=
  (t.get? i).map Node.grammar

/-- The stretch of source a node covers. -/
def span (t : Tree) (i : NodeId) : Span :=
  ((t.get? i).map Node.span).getD .zero

/-- The source a node covers. -/
def textOf (t : Tree) (i : NodeId) : String :=
  ((t.get? i).map Node.text).getD ""

/-- The node around a node. -/
def parent? (t : Tree) (i : NodeId) : Option NodeId :=
  (t.get? i).bind Node.parent

/-- The nodes directly below a node, in source order. -/
def children (t : Tree) (i : NodeId) : List NodeId :=
  ((t.get? i).map Node.children).getD []

/-- The children that are not comments. -/
def codeChildren (t : Tree) (i : NodeId) : List NodeId :=
  (t.children i).filter fun c => !(t.kind c).isComment

/-- The children of a kind. -/
def childrenOfKind (t : Tree) (i : NodeId) (k : Kind) : List NodeId :=
  (t.children i).filter fun c => t.kind c == k

/-- The first child of a kind. -/
def childOfKind? (t : Tree) (i : NodeId) (k : Kind) : Option NodeId :=
  (t.children i).find? fun c => t.kind c == k

/-- The parser did not understand all of the text. -/
def hasErrors (t : Tree) : Bool :=
  t.nodes.any fun n => n.kind.isDefect

end Tree

end ElmAssist
