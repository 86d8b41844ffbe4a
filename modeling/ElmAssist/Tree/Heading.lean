import ElmAssist.Text.Lines
import ElmAssist.Tree.Basic

/-!
# Tree — Headings

The tree of a text that has not been parsed, as far as its heading goes: the name of its module and
the modules it imports, each on a line of its own. It is enough to say who imports whom.
-/

namespace ElmAssist.Heading

/-- The words a line of a heading begins with, and what they begin. -/
def openings : List (List Char × Kind) :=
  [("module ".toList, .moduleDeclaration), ("port module ".toList, .moduleDeclaration),
    ("effect module ".toList, .moduleDeclaration), ("import ".toList, .importClause)]

/-- The character may stand in a dotted name. -/
def isNameChar (c : Char) : Bool :=
  c.isAlphanum || c == '_' || c == '.'

/-- The columns between which the parts of a dotted name stand. -/
def columns (start : Nat) : List (List Char) → List (Nat × Nat)
  | [] => []
  | part :: parts => (start, start + part.length) :: columns (start + part.length + 1) parts

/-- A row for columns of a line. -/
def row (number : Nat) (line : Line) (depth : Nat) (kind : Kind) (start stop : Nat) : Row :=
  ⟨depth, kind, kind.label,
    ⟨⟨number, start⟩, ⟨number, stop⟩, line.start + start, line.start + stop⟩⟩

/-- The rows of a line that begins with one of the words. -/
def lineRows (number : Nat) (line : Line) : List Row :=
  match openings.find? fun o => o.1.isPrefixOf line.chars with
  | none => []
  | some (word, kind) =>
    let rest := line.chars.drop word.length
    let start := word.length + (rest.takeWhile (· == ' ')).length
    let name := (line.chars.drop start).takeWhile isNameChar
    let stop := start + name.length
    row number line 1 kind 0 stop :: row number line 2 .upperCaseQid start stop ::
      (columns start (name.splitOnP (· == '.'))).map fun c =>
        row number line 3 .upperCaseIdentifier c.1 c.2

/-- The rows of a text's heading. -/
def rows (text : String) : List Row :=
  let lines := Lines.ofText text
  let whole : Span := ⟨.origin, ⟨lines.final.1, Text.bytes lines.final.2⟩, 0, lines.size⟩
  ⟨0, .file, Kind.file.label, whole⟩ :: lines.toList.zipIdx.flatMap fun l => lineRows l.2 l.1

end ElmAssist.Heading
