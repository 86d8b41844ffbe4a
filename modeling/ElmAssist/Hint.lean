import ElmAssist.Text.Blank
import ElmAssist.Tree.Walk

/-!
# Hints

The markdown shown for a declaration: its type signature and its doc comment. The comment of a
module declaration follows it; that of any other declaration stands before it, or before the
signature right before it.
-/

namespace ElmAssist.Hint

/-- What follows a beginning, or everything when the characters begin otherwise. -/
def withoutStart (start cs : List Char) : List Char :=
  (Text.dropStart? start cs).getD cs

/-- What stands before an ending, or everything when the characters end otherwise. -/
def withoutEnd (ending cs : List Char) : List Char :=
  (Text.dropEnd? ending cs).getD cs

/-- The text of a comment without its delimiters and the blanks around it. A doc comment that opens
a second time loses both openings. -/
def commentBody (comment : String) : String :=
  let inner := withoutStart ['\x7b', '-', '|'] comment.toList
  let inner := withoutStart ['\x7b', '-'] inner
  let inner := withoutEnd ['-', '\x7d'] inner
  String.ofList (Text.stripChars Text.isBlank inner)

/-- A signature as a block of code. -/
def fenced (signature : String) : String :=
  "\n```elm\n" ++ signature ++ "\n```\n"

/-- The line between signature and comment. -/
def rule : String := "\n\n---\n\n"

/-- The hint of a signature and a comment; empty ones count as absent. -/
def render (signature comment : Option String) : String :=
  let front := ((signature.filter (· ≠ "")).map fenced).getD ""
  match comment.filter (· ≠ "") with
  | none => front
  | some c => front ++ (if front = "" then "" else rule) ++ commentBody c

/-- The text of a node that is a block comment. -/
def blockComment? (t : Tree) (i : Option NodeId) : Option String :=
  match i with
  | some i => if t.kind i = .blockComment then some (t.textOf i) else none
  | none => none

/-- The signature and the comment of a declaration. -/
def parts (t : Tree) (d : NodeId) : Option String × Option String :=
  match t.kind d with
  | .moduleDeclaration => (none, blockComment? t (t.next? d))
  | _ =>
    match t.previous? d with
    | none => (none, none)
    | some before =>
      match t.kind before with
      | .typeSignature => (some (t.textOf before), blockComment? t (t.previous? before))
      | _ => (none, blockComment? t (some before))

/-- The hint of a declaration, if there is anything to show. -/
def of? (t : Tree) (d : NodeId) : Option String :=
  let p := parts t d
  let hint := render p.1 p.2
  if hint = "" then none else some hint

end ElmAssist.Hint
