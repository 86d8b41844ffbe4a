import ElmAssist.Json.Written
import ElmAssist.Machine
import ElmAssist.Tree.Outline

/-!
# Snapshot

A machine, and the trees of its sources, as JSON:

    {"cwd": path, "home": path, "files": [{"path": path, "text": text}, ...],
     "trees": [tree, ...]}

Paths are absolute; without a working directory or a home the root stands for it. Instead of a text
a file can have `hex`, the digits of its bytes; an object with `link` is a link to that path, and
one with none of the three is a directory. Files are written in their order, with the directories
that lead to them. The trees are those of an outline. A snapshot has no programs.
-/

namespace ElmAssist

/-- A machine at one moment, and a parser that knows the sources on it. -/
structure Snapshot where
  machine : Machine
  parse : Parser

namespace Snapshot

/-- The bytes of hexadecimal digits, two a byte. Another character counts as zero. -/
def bytesOfHex : List Char → List UInt8
  | a :: b :: cs =>
    let digit := fun c => ((Json.Written.hex? c).getD 0).toUInt8
    (digit a * 16 + digit b) :: bytesOfHex cs
  | _ => []

/-- The entry of a written file. -/
def entryOf (j : Json) : Entry :=
  let member := fun name => (j.get? name).bind Json.string?
  match member "text", member "hex", member "link" with
  | some text, _, _ => .file (Text.encode text) false
  | none, some digits, _ => .file (bytesOfHex digits.toList) false
  | none, none, some target => .link (.ofString target)
  | none, none, none => .emptyDirectory

/-- The place that a path names when no links are followed. -/
def placeOf (p : Path) : Place :=
  p.normalize.components.filterMap fun
    | .name n => some n
    | _ => none

/-- The path under a name. -/
def pathAt (j : Json) (name : String) : Path :=
  .ofString (((j.get? name).bind Json.string?).getD "/")

/-- Writes a file. -/
def write (d : Disk) (j : Json) : Disk :=
  d.put (placeOf (pathAt j "path")) (entryOf j)

/-- The snapshot of a JSON value. -/
def ofJson (j : Json) : Snapshot :=
  let files := ((j.get? "files").bind Json.items?).getD []
  ⟨⟨files.foldl write .empty, pathAt j "cwd", [], pathAt j "home"⟩,
    Outline.parser ((j.get? "trees").getD .null)⟩

end Snapshot

end ElmAssist
