/-!
# Text — Blanks

The characters of the Unicode property `White_Space`, and trimming by a class of characters.
-/

namespace ElmAssist.Text

/-- The character has the property `White_Space`. -/
def isBlank (c : Char) : Bool :=
  let n := c.toNat
  (0x09 ≤ n && n ≤ 0x0D) || n == 0x20 || n == 0x85 || n == 0xA0 || n == 0x1680 ||
    (0x2000 ≤ n && n ≤ 0x200A) || n == 0x2028 || n == 0x2029 || n == 0x202F || n == 0x205F ||
    n == 0x3000

/-- The characters left when those of a class are dropped at both ends. -/
def stripChars (cls : Char → Bool) (cs : List Char) : List Char :=
  ((cs.dropWhile cls).reverse.dropWhile cls).reverse

/-- The text without blanks at its ends. -/
def trim (s : String) : String :=
  String.ofList (stripChars isBlank s.toList)

/-- There is nothing but blanks. -/
def blank (s : String) : Bool :=
  s.toList.all isBlank

/-- What follows `start`, when the characters begin with it. -/
def dropStart? : List Char → List Char → Option (List Char)
  | [], cs => some cs
  | _ :: _, [] => none
  | p :: ps, c :: cs => if p = c then dropStart? ps cs else none

/-- What stands before `ending`, when the characters end with it. -/
def dropEnd? (ending cs : List Char) : Option (List Char) :=
  (dropStart? ending.reverse cs.reverse).map List.reverse

end ElmAssist.Text
