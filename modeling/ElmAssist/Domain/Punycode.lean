/-!
# Domain — Punycode

Text written with ASCII characters only. The ASCII characters of the text come first, with a dash
behind the last of them; letters and digits after that say which other characters stand where. They
are numbers with 36 digits, each of which says how far it is to the next insertion, over all places
of the text and from one code point to the next.
-/

namespace ElmAssist.Domain.Punycode

/-- The value of a digit. -/
def digit? (c : Char) : Option Nat :=
  if 'a' ≤ c && c ≤ 'z' then some (c.toNat - 0x61)
  else if 'A' ≤ c && c ≤ 'Z' then some (c.toNat - 0x41)
  else if '0' ≤ c && c ≤ '9' then some (c.toNat - 0x30 + 26)
  else none

/-- Digits from this value on are followed by more, at a place of the number. -/
def threshold (bias place : Nat) : Nat :=
  if place ≤ bias then 1 else if bias + 26 ≤ place then 26 else place - bias

/-- The bias for a distance that has been made small. -/
def settle (delta bias : Nat) : Nat :=
  if delta > 455 then settle (delta / 35) (bias + 36) else bias + 36 * delta / (delta + 38)
termination_by delta
decreasing_by omega

/-- The bias after an insertion: the distance to it, the length of the text with it, and whether it
was the first one. -/
def nextBias (delta length : Nat) (first : Bool) : Nat :=
  let delta := if first then delta / 700 else delta / 2
  settle (delta + delta / length) 0

/-- A text being read. -/
structure Reading where
  text : List Char
  /-- The code point and the place in the text reached. -/
  code : Nat
  place : Nat
  /-- The place from which the number being read counts. -/
  start : Nat
  bias : Nat
  /-- What the next digit counts, and its place in the number. -/
  weight : Nat
  digits : Nat

namespace Reading

/-- Numbers stay below this one. -/
def limit : Nat := 0x100000000

/-- Insertions start behind the ASCII characters. -/
def ofPlain (text : List Char) : Reading :=
  ⟨text, 0x80, 0, 0, 72, 1, 36⟩

/-- The code point is that of a character. -/
def isCharacter (n : Nat) : Bool :=
  n < 0xD800 || (0xDFFF < n && n < 0x110000)

/-- A number is complete: a character is inserted. -/
def insert? (r : Reading) (place : Nat) : Option Reading :=
  let length := r.text.length + 1
  let code := r.code + place / length
  let k := place % length
  if isCharacter code then
    some ⟨r.text.take k ++ Char.ofNat code :: r.text.drop k, code, k + 1, k + 1,
      nextBias (place - r.start) length (r.start == 0), 1, 36⟩
  else none

/-- One more digit. -/
def add? (r : Reading) (c : Char) : Option Reading :=
  match digit? c with
  | none => none
  | some d =>
    let place := r.place + d * r.weight
    let t := threshold r.bias r.digits
    let weight := r.weight * (36 - t)
    if limit ≤ place then none
    else if d < t then r.insert? place
    else if limit ≤ weight then none
    else some { r with place, weight, digits := r.digits + 36 }

/-- The digits of a number have been read to the end. -/
def isComplete (r : Reading) : Bool :=
  r.digits == 36

end Reading

/-- The text of a Punycode. -/
def decode? (cs : List Char) : Option (List Char) :=
  let digits := (cs.reverse.takeWhile (· != '-')).reverse
  let plain := cs.take (cs.length - digits.length - 1)
  match digits.foldlM Reading.add? (.ofPlain plain) with
  | some r => if r.isComplete then some r.text else none
  | none => none

end ElmAssist.Domain.Punycode
