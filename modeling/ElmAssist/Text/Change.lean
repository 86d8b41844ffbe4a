import ElmAssist.Text.Lines

/-!
# Text — Changes

What an editor sends when a document is edited: a new text for a range, or for the whole document.
Changes of one list are applied one after the other, each to the result of those before it.
-/

namespace ElmAssist

/-- A replacement of a range, or of the whole text when no range is given. -/
structure Change where
  range : Option Range
  text : String
  deriving DecidableEq, Repr

namespace Change

/-- The characters after replacing those between the byte offsets `start` and `stop`. -/
def splice (cs : List Char) (start stop : Nat) (inserted : List Char) : List Char :=
  (Text.takeBytes? cs start).getD [] ++ inserted ++ (Text.dropBytes? cs stop).getD []

/-- The characters after one change. A range that ends before it starts is empty. -/
def applyTo (cs : List Char) (change : Change) : List Char :=
  match change.range with
  | none => change.text.toList
  | some r =>
    let ls := Lines.ofChars cs
    let start := ls.offset r.start
    splice cs start (max (ls.offset r.stop) start) change.text.toList

/-- The text after a list of changes. -/
def applyAll (text : String) (changes : List Change) : String :=
  String.ofList (changes.foldl applyTo text.toList)

end Change

end ElmAssist
