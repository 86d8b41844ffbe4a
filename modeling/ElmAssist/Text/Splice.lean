import ElmAssist.Text.Point

/-!
# Text — Splices

The smallest single replacement that turns one byte sequence into another: what is left between
their longest common beginning and the longest common ending of the rest.
-/

namespace ElmAssist

/-- The bytes from `start` to `oldStop` of the old text become those from `start` to `newStop` of
the new one. -/
structure Splice where
  start : Nat
  oldStop : Nat
  newStop : Nat
  startPoint : Point
  oldStopPoint : Point
  newStopPoint : Point
  deriving DecidableEq, Repr

namespace Splice

/-- The length of the longest common beginning. -/
def commonLength : List UInt8 → List UInt8 → Nat
  | a :: as, b :: bs => if a = b then commonLength as bs + 1 else 0
  | _, _ => 0

/-- The smallest replacement between two byte sequences. -/
def ofBytes (old new : List UInt8) : Splice :=
  let start := commonLength old new
  let ending := commonLength (old.drop start).reverse (new.drop start).reverse
  let oldStop := old.length - ending
  let newStop := new.length - ending
  ⟨start, oldStop, newStop, .after (old.take start), .after (old.take oldStop),
    .after (new.take newStop)⟩

/-- The smallest replacement between two texts. -/
def between (old new : String) : Splice :=
  ofBytes old.toUTF8.toList new.toUTF8.toList

end Splice

/-- How much of a text a parser has to look at again. -/
inductive Reparse where
  /-- There is no earlier text. -/
  | full
  /-- The text is the one parsed before. -/
  | unchanged
  /-- The earlier text with one stretch replaced. -/
  | spliced (s : Splice)
  deriving DecidableEq, Repr

namespace Reparse

/-- What to parse again for `text` after `previous`. -/
def plan (previous : Option String) (text : String) : Reparse :=
  match previous with
  | none => .full
  | some old => if old = text then .unchanged else .spliced (.between old text)

/-- What is said when the work is given up. Where nothing is parsed nothing can fail. -/
def failure? : Reparse → Option String
  | .full => some "Full parse failed"
  | .unchanged => none
  | .spliced _ => some "Incremental parse failed"

/-- The plans for a sequence of texts, each after the one before it. -/
def plans : Option String → List String → List Reparse
  | _, [] => []
  | previous, text :: rest => plan previous text :: plans (some text) rest

end Reparse

end ElmAssist
