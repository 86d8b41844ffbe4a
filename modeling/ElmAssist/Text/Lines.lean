import ElmAssist.Text.Measure
import ElmAssist.Text.Point

/-!
# Text — Lines

A text cut at its newlines, and the ways between byte offsets, points and positions.

* `Lines.offset`, `Lines.point`: from a position; a character past the end of its line is the end
  of that line, a line past the last one is the end of the text.
* `Lines.position`, `Lines.range`: from points; a column inside a character counts as before it.
* `Lines.clamp`: the nearest range whose ends lie in the text.

A line is shown without its newline and without one carriage return before it.
-/

namespace ElmAssist

/-- One line of a text: the byte offset of its first character, and its characters up to the
newline. -/
structure Line where
  start : Nat
  chars : List Char
  deriving DecidableEq, Repr

namespace Line

/-- The line as shown: one carriage return at its end is part of the line break. -/
def visible (l : Line) : List Char :=
  if l.chars.getLast? = some '\r' then l.chars.dropLast else l.chars

end Line

/-- The lines of a text, at least one. -/
structure Lines where
  toList : List Line
  deriving DecidableEq, Repr

namespace Lines

/-- The pieces between newlines. -/
def pieces : List Char → List (List Char)
  | [] => [[]]
  | c :: cs =>
    if c = '\n' then [] :: pieces cs
    else match pieces cs with
      | [] => [[c]]
      | l :: ls => (c :: l) :: ls

/-- Each piece with its byte offset, the first at `start`. -/
def number : Nat → List (List Char) → List Line
  | _, [] => []
  | start, l :: ls => ⟨start, l⟩ :: number (start + Text.bytes l + 1) ls

/-- The lines of a run of characters. -/
def ofChars (cs : List Char) : Lines :=
  ⟨number 0 (pieces cs)⟩

/-- The lines of a text. -/
def ofText (text : String) : Lines :=
  ofChars text.toList

/-- How many lines there are. -/
def count (ls : Lines) : Nat :=
  ls.toList.length

/-- The characters of line `i` as shown. -/
def visible? (ls : Lines) (i : Nat) : Option (List Char) :=
  ls.toList[i]?.map Line.visible

/-- The byte length of the whole text. -/
def size (ls : Lines) : Nat :=
  match ls.toList.getLast? with
  | some l => l.start + Text.bytes l.chars
  | none => 0

/-- The byte offset a position names. -/
def offset (ls : Lines) (p : Position) : Nat :=
  match ls.toList[p.line]? with
  | some l => l.start + Text.bytesBeforeUnit l.visible p.character
  | none => ls.size

/-- The end of the last line as shown, as a row and the characters of that row. -/
def final (ls : Lines) : Nat × List Char :=
  (ls.count - 1, (ls.visible? (ls.count - 1)).getD [])

/-- The point a position names. -/
def point (ls : Lines) (p : Position) : Point :=
  match ls.visible? p.line with
  | some cs => ⟨p.line, Text.bytesBeforeUnit cs p.character⟩
  | none => ⟨ls.final.1, Text.bytes ls.final.2⟩

/-- The position of a point. -/
def position (ls : Lines) (p : Point) : Position :=
  match ls.visible? p.row with
  | some cs => ⟨p.row, Text.unitsBeforeByte cs p.column⟩
  | none => ⟨ls.final.1, Text.units ls.final.2⟩

/-- The range of a span. -/
def range (ls : Lines) (s : Span) : Range :=
  ⟨ls.position s.start, ls.position s.stop⟩

/-- The range with both ends moved into the text. -/
def clamp (ls : Lines) (r : Range) : Range :=
  ⟨ls.position (ls.point r.start), ls.position (ls.point r.stop)⟩

end Lines

end ElmAssist
