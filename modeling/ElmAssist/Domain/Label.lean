import ElmAssist.Domain.Direction
import ElmAssist.Domain.Form
import ElmAssist.Domain.Joiner
import ElmAssist.Domain.Normal
import ElmAssist.Domain.Punycode

/-!
# Domain — Labels

An internationalised domain name is brought into its written form and cut at the dots into labels.
A label with other than ASCII characters can be written with these only, as `xn--` and a Punycode;
`Label.ofWritten?` reads such a label and refuses it when its text could not be written there as it
is.
-/

namespace ElmAssist.Domain

/-- A part of a domain name. -/
structure Label where
  /-- The label as it is written. -/
  written : List Char
  /-- Its text. -/
  text : List Char
  deriving DecidableEq, Repr

namespace Label

/-- What a label with a Punycode starts with. -/
def codeMark : List Char := ['x', 'n', '-', '-']

/-- The characters are ASCII. -/
def isPlain (cs : List Char) : Bool :=
  cs.all (·.toNat < 0x80)

/-- The characters of the longest text that is not ASCII, and of the longest Punycode. -/
def maxText : Nat := 1000
@[inherit_doc maxText] def maxCode : Nat := 2000

/-- A written text is a label: it does not start with a mark, and its joiners have their place. -/
def isText (cs : List Char) : Bool :=
  !cs.head?.any isMark && joinersFit [] cs

/-- The text of a Punycode, if it is other than ASCII, written as itself, and in normal form. -/
def textOfCode? (code : List Char) : Option (List Char) := do
  if code.getLast? == some '-' || maxCode < code.length then failure
  let text ← Punycode.decode? code
  if isPlain text || codeMark.isPrefixOf text then failure
  if text.all (fun c => form? c == some [c]) && normalForm text == text && isText text then
    return text
  failure

/-- The label of a written form. -/
def ofWritten? (cs : List Char) : Option Label :=
  if codeMark.isPrefixOf cs then
    if isPlain cs then (textOfCode? (cs.drop codeMark.length)).map fun text => ⟨cs, text⟩ else none
  else if isPlain cs || (cs.length ≤ maxText && isText cs) then some ⟨cs, cs⟩
  else none

end Label

/-- Characters cut at every dot: always at least one piece. -/
def cutDots (cs : List Char) : List (List Char) :=
  cs.splitOnP (· == '.')

/-- The labels of a domain name, if it is one. -/
def labels? (cs : List Char) : Option (List Label) := do
  let forms ← cs.mapM form?
  let labels ← (cutDots (normalForm forms.flatten)).mapM Label.ofWritten?
  let texts := labels.map Label.text
  if texts.any runsLeft && !texts.all isOneWay then failure
  return labels

end ElmAssist.Domain
