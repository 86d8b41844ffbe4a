import ElmAssist.Json.Basic
import ElmAssist.Text.Point

/-!
# Tool — Regions

The places in tool reports: lines and columns counted from one. A value that is missing or no
natural number is zero, and a value is cut to 32 bits.
-/

namespace ElmAssist

/-- A place in a report. -/
structure Region where
  startLine : Nat
  startColumn : Nat
  stopLine : Nat
  stopColumn : Nat
  deriving DecidableEq, Repr

namespace Region

/-- The place of a report that names none. -/
def unknown : Region := ⟨0, 0, 0, 0⟩

/-- A value cut to 32 bits. -/
def cut (n : Nat) : Nat := n % Nat.pow 2 32

/-- One value of a region. -/
def value (region : Option Json) (edge key : String) : Nat :=
  cut ((((region.bind (·.get? edge)).bind (·.get? key)).bind Json.natural?).getD 0)

/-- The region of a report's JSON. -/
def ofJson (region : Option Json) : Region :=
  ⟨value region "start" "line", value region "start" "column", value region "end" "line",
    value region "end" "column"⟩

/-- A value counted from zero; zero stays zero. -/
def fromZero (n : Nat) : Nat := n - 1

/-- The range of a region. -/
def toRange (r : Region) : Range :=
  ⟨⟨fromZero r.startLine, fromZero r.startColumn⟩, ⟨fromZero r.stopLine, fromZero r.stopColumn⟩⟩

end Region

end ElmAssist
