import ElmAssist.Json.Basic
import ElmAssist.Text.Blank
import ElmAssist.Text.Utf8
import ElmAssist.Tree.Heading
import ElmAssist.Tree.Parser

/-!
# Tree — Outlines

The JSON form in which a parser hands over its trees:

    [{"text": source, "nodes": [[depth, kind, start, stop], ...]}, ...]

A kind `MISSING x` is a token `x` that is not in the source. Offsets are in bytes; a fifth item
`[row, column, row, column]` gives the points where they do not follow from the offsets.
-/

namespace ElmAssist

namespace Outline

/-- The point of each byte offset of a text, its end included. -/
def points (bs : List UInt8) : Array Point :=
  (bs.foldl
    (fun (acc : Array Point × Point) b => let q := acc.2.advance b; (acc.1.push q, q))
    (#[Point.origin], Point.origin)).1

/-- The kind and grammar name of a written kind. -/
def kindOf (written : String) : Kind × String :=
  match Text.dropStart? ['M', 'I', 'S', 'S', 'I', 'N', 'G', ' '] written.toList with
  | some rest => (.missing, String.ofList rest)
  | none => (.ofGrammar written, written)

/-- The row of a written node. -/
def row? (table : Array Point) : Json → Option Row
  | .array (depth :: kind :: start :: stop :: more) => do
    let depth ← depth.natural?
    let (kind, grammar) := kindOf (← kind.string?)
    let start ← start.natural?
    let stop ← stop.natural?
    match more with
    | .array [a, b, c, d] :: _ =>
      return ⟨depth, kind, grammar,
        ⟨⟨← a.natural?, ← b.natural?⟩, ⟨← c.natural?, ← d.natural?⟩, start, stop⟩⟩
    | _ =>
      let pointOf := fun n => (table[n]?).getD .origin
      return ⟨depth, kind, grammar, ⟨pointOf start, pointOf stop, start, stop⟩⟩
  | _ => none

/-- A text and its rows. -/
def entry? (j : Json) : Option (String × List Row) := do
  let text ← (← j.get? "text").string?
  let nodes ← (← j.get? "nodes").items?
  let rows ← nodes.mapM (row? (points (Text.encode text)))
  return (text, rows)

/-- The parser that knows the listed texts; of other texts it reads the heading. -/
def parser (j : Json) : Parser :=
  let entries := (j.items?.getD []).filterMap entry?
  ((fun text => (entries.lookup text).getD (Heading.rows text)) : String → List Row)

end Outline

end ElmAssist
