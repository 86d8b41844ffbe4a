/-!
# Text — UTF-8

Reading bytes as UTF-8. `decode?` accepts exactly the well-formed sequences; `decodeLossy` puts the
replacement character where a longest part of a character, or a byte that begins none, stands.
-/

namespace ElmAssist.Text

/-- The replacement character. -/
def replacement : Char := Char.ofNat 0xFFFD

/-- A byte of the form `10xxxxxx`. -/
def isTail (b : UInt8) : Bool := 0x80 ≤ b && b ≤ 0xBF

/-- How many bytes follow first byte `b`, and the least and greatest second byte. -/
def lead (b : UInt8) : Option (Nat × UInt8 × UInt8) :=
  if 0xC2 ≤ b && b ≤ 0xDF then some (1, 0x80, 0xBF)
  else if b == 0xE0 then some (2, 0xA0, 0xBF)
  else if b == 0xED then some (2, 0x80, 0x9F)
  else if 0xE1 ≤ b && b ≤ 0xEF then some (2, 0x80, 0xBF)
  else if b == 0xF0 then some (3, 0x90, 0xBF)
  else if b == 0xF4 then some (3, 0x80, 0x8F)
  else if 0xF1 ≤ b && b ≤ 0xF3 then some (3, 0x80, 0xBF)
  else none

/-- The payload of a first byte that announces `n` more bytes. -/
def leadBits (b : UInt8) (n : Nat) : Nat :=
  b.toNat % Nat.pow 2 (6 - n)

/-- Reads up to `n` tail bytes, the first within `low` and `high`: the code point and how many were
read. -/
def tails : Nat → UInt8 → UInt8 → Nat → List UInt8 → Nat × Nat
  | 0, _, _, code, _ => (code, 0)
  | _ + 1, _, _, code, [] => (code, 0)
  | n + 1, low, high, code, b :: bs =>
    if low ≤ b && b ≤ high then
      let r := tails n 0x80 0xBF (code * 64 + b.toNat % 64) bs
      (r.1, r.2 + 1)
    else (code, 0)

/-- The character at the front, if one is complete there, and the number of bytes it (or the part
of it that is there) takes. -/
def front (b : UInt8) (bs : List UInt8) : Option Char × Nat :=
  if b < 0x80 then (some (Char.ofNat b.toNat), 1)
  else match lead b with
    | none => (none, 1)
    | some (n, low, high) =>
      let r := tails n low high (leadBits b n) bs
      (if r.2 = n then some (Char.ofNat r.1) else none, r.2 + 1)

/-- `decode?` and `decodeLossy` in one: each character, or none for a part that is not one. At most
`fuel` bytes are read. -/
def characters : Nat → List UInt8 → List (Option Char)
  | 0, _ => []
  | _ + 1, [] => []
  | fuel + 1, b :: bs =>
    let r := front b bs
    r.1 :: characters fuel (bs.drop (r.2 - 1))

/-- The text of well-formed UTF-8. -/
def decode? (bs : List UInt8) : Option String :=
  (((characters bs.length bs).mapM id : Option (List Char))).map String.ofList

/-- The text of bytes, with a replacement character for each part that is not a character. -/
def decodeLossy (bs : List UInt8) : String :=
  String.ofList ((characters bs.length bs).map (·.getD replacement))

/-- The UTF-8 bytes of a text. -/
def encode (s : String) : List UInt8 :=
  s.toUTF8.toList

end ElmAssist.Text
