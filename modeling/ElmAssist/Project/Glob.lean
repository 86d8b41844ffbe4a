/-!
# Project — Globs

What a pattern says of the bytes of a path. A glob is read along the bytes with a mark for every
place between them: `Glob.reach` moves the marks from where the glob may start to where it may end,
so that reading costs the same whatever the glob leaves open.
-/

namespace ElmAssist

/-- Some of the bytes: those in one of the ranges, or all others. -/
structure ByteSet where
  negated : Bool
  ranges : List (UInt8 × UInt8)
  deriving DecidableEq, Repr

namespace ByteSet

/-- The byte is one of the set. -/
def has (s : ByteSet) (b : UInt8) : Bool :=
  (s.ranges.any fun r => r.1 ≤ b && b ≤ r.2) != s.negated

/-- One byte alone. -/
def only (b : UInt8) : ByteSet := ⟨false, [(b, b)]⟩

/-- All bytes but one. -/
def without (b : UInt8) : ByteSet := ⟨true, [(b, b)]⟩

/-- All bytes. -/
def any : ByteSet := ⟨true, []⟩

end ByteSet

/-- A set of byte sequences. -/
inductive Glob where
  /-- Nothing at all. -/
  | nothing
  /-- One byte of a set. -/
  | one (set : ByteSet)
  /-- Bytes of a set, any number. -/
  | many (set : ByteSet)
  | both (first second : Glob)
  | either (first second : Glob)
  deriving DecidableEq, Repr

namespace Glob

/-- Two globs after each other. -/
def append : Glob → Glob → Glob
  | .nothing, s => s
  | s, .nothing => s
  | s, t => .both s t

/-- Globs after each other. -/
def chain (globs : List Glob) : Glob :=
  globs.foldr append .nothing

/-- One of some globs, or nothing when there are none. -/
def choice : List Glob → Glob
  | [] => .nothing
  | [s] => s
  | s :: t :: rest => .either s (choice (t :: rest))

/-- These bytes. -/
def bytes (bs : List UInt8) : Glob :=
  chain (bs.map fun b => .one (.only b))

/-- Marks moved over one byte of a set. -/
def step (s : ByteSet) (marks : List Bool) (bs : List UInt8) : List Bool :=
  false :: List.zipWith (fun mark b => mark && s.has b) marks bs

/-- Marks spread over bytes of a set; `carried` says that the place in front is marked and leads
here. -/
def spread (s : ByteSet) (carried : Bool) : List Bool → List UInt8 → List Bool
  | mark :: marks, b :: bs =>
    (mark || carried) :: spread s ((mark || carried) && s.has b) marks bs
  | mark :: _, [] => [mark || carried]
  | [], _ => []

/-- Where a glob may end that starts at a mark. -/
def reach (bs : List UInt8) : Glob → List Bool → List Bool
  | .nothing, marks => marks
  | .one s, marks => step s marks bs
  | .many s, marks => spread s false marks bs
  | .both s t, marks => reach bs t (reach bs s marks)
  | .either s t, marks => List.zipWith (· || ·) (reach bs s marks) (reach bs t marks)

/-- The glob fits all of the bytes together. -/
def fits (s : Glob) (bs : List UInt8) : Bool :=
  (s.reach bs (true :: bs.map fun _ => false)).getLast? == some true

end Glob

end ElmAssist
