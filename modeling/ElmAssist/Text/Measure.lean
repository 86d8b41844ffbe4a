/-!
# Text — Measures

The size of a run of characters in UTF-8 bytes and in UTF-16 units, and cuts at a byte offset. A
cut inside a character does not exist.
-/

namespace ElmAssist.Text

/-- UTF-16 units of a character: two beyond the basic plane. -/
def charUnits (c : Char) : Nat :=
  if c.toNat < 0x10000 then 1 else 2

/-- UTF-8 bytes of a run of characters. -/
def bytes : List Char → Nat
  | [] => 0
  | c :: cs => c.utf8Size + bytes cs

/-- UTF-16 units of a run of characters. -/
def units : List Char → Nat
  | [] => 0
  | c :: cs => charUnits c + units cs

/-- The bytes before UTF-16 unit `n`. Past the end it is the whole run; the middle of a surrogate
pair counts as after the pair. -/
def bytesBeforeUnit : List Char → Nat → Nat
  | [], _ => 0
  | _ :: _, 0 => 0
  | c :: cs, n + 1 => c.utf8Size + bytesBeforeUnit cs (n + 1 - charUnits c)

/-- The UTF-16 units of the whole characters within the first `n` bytes. -/
def unitsBeforeByte : List Char → Nat → Nat
  | [], _ => 0
  | c :: cs, n => if c.utf8Size ≤ n then charUnits c + unitsBeforeByte cs (n - c.utf8Size) else 0

/-- What follows the first `n` bytes, when `n` is a character boundary. -/
def dropBytes? : List Char → Nat → Option (List Char)
  | cs, 0 => some cs
  | [], _ + 1 => none
  | c :: cs, n => if c.utf8Size ≤ n then dropBytes? cs (n - c.utf8Size) else none

/-- The first `n` bytes, when `n` is a character boundary. -/
def takeBytes? : List Char → Nat → Option (List Char)
  | _, 0 => some []
  | [], _ + 1 => none
  | c :: cs, n =>
    if c.utf8Size ≤ n then (takeBytes? cs (n - c.utf8Size)).map (c :: ·) else none

/-- The characters between two byte offsets, when both are character boundaries in order. -/
def slice? (cs : List Char) (start stop : Nat) : Option (List Char) :=
  if start ≤ stop then (dropBytes? cs start).bind (takeBytes? · (stop - start)) else none

end ElmAssist.Text
