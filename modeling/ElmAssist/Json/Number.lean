import ElmAssist.Double

/-!
# Json — Numbers

Integers of 64 bits are kept as such. Any other number is a significand and a power of ten, and is
refused when it is too large for a double.
-/

namespace ElmAssist.Json

/-- A number of a JSON text. -/
inductive Number where
  /-- An integer between -2^63 and 2^64 - 1. -/
  | integer (value : Int)
  /-- Any other number: `significand` times ten to the power `exponent`, or its opposite. -/
  | decimal (negative : Bool) (significand : Nat) (exponent : Int)
  deriving DecidableEq, Repr

namespace Number

/-- One more than the largest unsigned 64-bit integer. -/
def wordBound : Nat := Nat.pow 2 64

/-- The double nearest to the product of the doubles of significand and power is finite. -/
def fitsDouble (significand : Nat) (exponent : Int) : Bool :=
  if significand = 0 then true
  else if exponent < 0 then true
  else if 308 < exponent then false
  else Double.round significand * Double.round (Nat.pow 10 exponent.toNat) < Double.overflow

/-- The number with an integer literal's sign and digits. -/
def ofInteger (negative : Bool) (n : Nat) : Number :=
  if negative then
    if 0 < n && n ≤ Nat.pow 2 63 then .integer (-(n : Int)) else .decimal true n 0
  else .integer n

/-- The value of an unsigned 64-bit integer. -/
def natural? : Number → Option Nat
  | .integer (.ofNat n) => some n
  | _ => none

end Number

end ElmAssist.Json
