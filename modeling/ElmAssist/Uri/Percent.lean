import ElmAssist.Text.Utf8

/-!
# Uri — Percent escapes

A byte written as `%` and two hexadecimal digits.
-/

namespace ElmAssist.Uri

/-- A hexadecimal digit in upper case. -/
def hexUpper (n : UInt8) : Char :=
  if n < 10 then Char.ofNat (48 + n.toNat) else Char.ofNat (55 + n.toNat)

/-- A byte as an escape. -/
def escape (b : UInt8) : List Char :=
  ['%', hexUpper (b / 16), hexUpper (b % 16)]

/-- The visible bytes that are escaped all the same: the double quote, `#%/<>?\`, the backtick and
braces. -/
def reserved : List UInt8 :=
  [0x22, 0x23, 0x25, 0x2F, 0x3C, 0x3E, 0x3F, 0x5C, 0x60, 0x7B, 0x7D]

/-- The bytes that stand for themselves in a segment of a file uri. -/
def isPlain (b : UInt8) : Bool :=
  0x21 ≤ b && b ≤ 0x7E && !reserved.contains b

/-- Bytes as a segment of a file uri. -/
def encodeSegment (bs : List UInt8) : List Char :=
  bs.flatMap fun b => if isPlain b then [Char.ofNat b.toNat] else escape b

/-- The value of a hexadecimal digit. -/
def hexValue? (b : UInt8) : Option UInt8 :=
  if 0x30 ≤ b && b ≤ 0x39 then some (b - 0x30)
  else if 0x41 ≤ b && b ≤ 0x46 then some (b - 0x37)
  else if 0x61 ≤ b && b ≤ 0x66 then some (b - 0x57)
  else none

/-- Bytes with every escape replaced by its byte. A `%` without two digits stands for itself. -/
def decodeEscapes : List UInt8 → List UInt8
  | 0x25 :: a :: b :: rest =>
    match hexValue? a, hexValue? b with
    | some x, some y => (x * 16 + y) :: decodeEscapes rest
    | _, _ => 0x25 :: decodeEscapes (a :: b :: rest)
  | b :: rest => b :: decodeEscapes rest
  | [] => []

end ElmAssist.Uri
