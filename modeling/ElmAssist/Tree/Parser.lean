import ElmAssist.Fault
import ElmAssist.Text.Splice
import ElmAssist.Tree.Basic

/-!
# Tree — Parsers

What gives the rows of a text. It comes from outside, and is asked again for a text after the one
that it has parsed before, unless they are the same.

* The rows depend on the text alone, not on the way to it.
* A parser may give a text up. A text with errors is no reason for it: that has a tree too.
-/

namespace ElmAssist

/-- A parser. -/
structure Parser where
  /-- The rows of each text. -/
  rows : String → List Row
  /-- The texts that it gives up, each after the text it has parsed before, if any. -/
  givesUp : Option String → String → Bool

namespace Parser

/-- The parser that gives up no text. -/
instance : Coe (String → List Row) Parser := ⟨fun rows => ⟨rows, fun _ _ => false⟩⟩

instance : CoeFun Parser fun _ => String → List Row := ⟨rows⟩

/-- The parser that gives all texts the same rows. -/
def constant (rows : List Row) : Parser := ⟨fun _ => rows, fun _ _ => false⟩

/-- The fault of parsing a text after another one, or in full. -/
def fault? (p : Parser) (previous : Option String) (text : String) : Option Fault :=
  if p.givesUp previous text then ((Reparse.plan previous text).failure?).map .unparsed else none

end Parser

end ElmAssist
