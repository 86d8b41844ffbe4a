/-!
# Text — Points and positions

Two ways to name a place in a text. Syntax trees use a *point*: a row and a column counted in
bytes. Editors use a *position*: a line and a character counted in UTF-16 units. Both count from
zero. `Lines` leads from one to the other.
-/

namespace ElmAssist

/-- A row and a column in bytes. -/
structure Point where
  row : Nat
  column : Nat
  deriving DecidableEq, Repr, Inhabited

namespace Point

/-- Reading order: by row, then by column. -/
def le (p q : Point) : Bool :=
  p.row < q.row || (p.row == q.row && p.column ≤ q.column)

/-- Strictly before in reading order. -/
def lt (p q : Point) : Bool :=
  p.row < q.row || (p.row == q.row && p.column < q.column)

/-- Where a text begins. -/
def origin : Point := ⟨0, 0⟩

/-- The point one byte further: a newline byte starts the next row. -/
def advance (p : Point) (b : UInt8) : Point :=
  if b = 10 then ⟨p.row + 1, 0⟩ else ⟨p.row, p.column + 1⟩

/-- The point right after the bytes `bs`. -/
def after (bs : List UInt8) : Point :=
  bs.foldl advance origin

end Point

/-- A line and a character in UTF-16 units, as editors count. -/
structure Position where
  line : Nat
  character : Nat
  deriving DecidableEq, Repr, Inhabited

/-- The stretch between two positions, the second excluded. -/
structure Range where
  start : Position
  stop : Position
  deriving DecidableEq, Repr, Inhabited

/-- The stretch of source a syntax node covers, as points and as byte offsets. -/
structure Span where
  start : Point
  stop : Point
  startByte : Nat
  stopByte : Nat
  deriving DecidableEq, Repr

namespace Span

/-- The span of a node that is not there. -/
def zero : Span := ⟨.origin, .origin, 0, 0⟩

instance : Inhabited Span := ⟨zero⟩

/-- Both ends belong to the span. -/
def contains (s : Span) (p : Point) : Bool :=
  s.start.le p && p.le s.stop

/-- The byte stretch of `t` lies inside that of `s`. -/
def containsSpan (s t : Span) : Bool :=
  s.startByte ≤ t.startByte && t.stopByte ≤ s.stopByte

/-- No byte is covered. -/
def isEmpty (s : Span) : Bool :=
  s.startByte == s.stopByte

end Span

end ElmAssist
