import ElmAssist.Domain.Label
import ElmAssist.Uri.Percent
import ElmAssist.Uri.Reference

/-!
# Uri — Hosts

What stands for a machine in a uri: an address of the sixth version between brackets, an address of
the fourth version as up to four numbers, or a domain name. Escapes and other ways to write a
character do not count. A host whose last part is a number has to be an address.
-/

namespace ElmAssist.Uri

/-- What a host says about where a path is. -/
inductive Host where
  | here
  | elsewhere
  | malformed
  deriving DecidableEq, Repr

namespace Host

/-- The character may not stand in a host. -/
def isForbidden (c : Char) : Bool :=
  c ≤ ' ' || c.toNat == 0x7F ||
    ['#', '/', ':', '<', '>', '?', '@', '[', '\\', ']', '^', '|', '%'].contains c

/-- The value of a number's digits in a base up to sixteen. -/
def value? (base : Nat) (digits : List Char) : Option Nat :=
  digits.foldlM (fun n c => do
    let d ← hexValue? (Char.toUInt8 c)
    if c.toNat < 0x80 && d.toNat < base then some (n * base + d.toNat) else none) 0

/-- The value of a number: hexadecimal after `0x`, octal after another zero. -/
def number? (cs : List Char) : Option Nat :=
  match cs with
  | [] => none
  | '0' :: 'x' :: digits => value? 16 digits
  | '0' :: d :: digits => value? 8 (d :: digits)
  | _ => value? 10 cs

/-- The parts of a host without an empty one at the end. -/
def withoutEnd (parts : List (List Char)) : List (List Char) :=
  if parts.getLast? == some [] then parts.dropLast else parts

/-- The last part is a number, or would be one with other digits. -/
def endsInNumber (parts : List (List Char)) : Bool :=
  match (withoutEnd parts).getLast? with
  | none => false
  | some last => (last != [] && last.all Char.isDigit) || (number? last).isSome

/-- Up to four numbers are an address: each but the last is one byte, and the last one fills the rest
of four bytes. -/
def isAddress4 (parts : List (List Char)) : Bool :=
  let parts := withoutEnd parts
  match parts.mapM number? with
  | none => false
  | some numbers =>
    parts.length ≤ 4 && numbers.dropLast.all (· < 256) &&
      numbers.getLast?.any fun last => last < Nat.pow 256 (5 - numbers.length)

/-- The name of this machine. -/
def localName : List Char := "localhost".toList

/-- What a host that is not empty says. -/
def ofChars (cs : List Char) : Host :=
  if cs.head? = some '[' then
    if cs.getLast? = some ']' && isAddress6 cs.tail.dropLast then .elsewhere else .malformed
  else
    let name := Text.decodeLossy (decodeEscapes (Text.encode (String.ofList cs)))
    match Domain.labels? name.toList with
    | none => .malformed
    | some labels =>
      let parts := labels.map Domain.Label.written
      if parts = [[]] || parts.any (·.any isForbidden) then .malformed
      else if endsInNumber parts then if isAddress4 parts then .elsewhere else .malformed
      else if parts = [localName] then .here
      else .elsewhere

end Host

end ElmAssist.Uri
