/-!
# Doubles

Which whole numbers a double can hold. All else about doubles is left open: numbers are kept as
they are written, and only those too large for a double matter.
-/

namespace ElmAssist.Double

/-- The nearest number with 53 significant bits, ties to the even one. -/
def round (n : Nat) : Nat :=
  if n < Nat.pow 2 53 then n
  else
    let unit := Nat.pow 2 (n.log2 - 52)
    let q := n / unit
    let r := n % unit
    if 2 * r > unit || (2 * r == unit && q % 2 == 1) then (q + 1) * unit else q * unit

/-- The least number that rounds to infinity. -/
def overflow : Nat := Nat.pow 2 1024 - Nat.pow 2 970

end ElmAssist.Double
