import ElmAssist.Text.Utf8

/-!
# Disk — Paths

A path is a sequence of bytes; a slash stands between its parts. The text is kept as it was given:
two spellings of one place are two paths with the same components.

* `Path.components` leaves out empty parts, and `.` except at the start of a relative path.
* `Path.normalize` folds `..` into the part before it without looking at the disk.
-/

namespace ElmAssist

/-- The bytes of a path. -/
structure Path where
  bytes : List UInt8
  deriving DecidableEq, Repr, Inhabited

namespace Path

/-- The byte between parts. -/
def slash : UInt8 := 0x2F

/-- One step of a path. -/
inductive Component where
  | root
  | current
  | parent
  | name (bytes : List UInt8)
  deriving DecidableEq, Repr

namespace Component

/-- How a component is written. -/
def bytes : Component → List UInt8
  | .root => [slash]
  | .current => [0x2E]
  | .parent => [0x2E, 0x2E]
  | .name bs => bs

/-- Sort rank of the kinds of component. -/
def rank : Component → Nat
  | .root => 0
  | .current => 1
  | .parent => 2
  | .name _ => 3

/-- By kind, names by their bytes. -/
instance : Ord Component where
  compare a b := (compare a.rank b.rank).then (compare a.bytes b.bytes)

instance : Std.TransOrd Component :=
  inferInstanceAs (Std.TransCmp (compareLex (compareOn rank) (compareOn Component.bytes)))

end Component

/-- The path written as a text. -/
def ofString (s : String) : Path :=
  ⟨Text.encode s⟩

/-- The path as a text, with replacement characters where it is not one. -/
def display (p : Path) : String :=
  Text.decodeLossy p.bytes

/-- Bytes cut at every slash: always at least one piece. -/
def cut : List UInt8 → List (List UInt8)
  | [] => [[]]
  | b :: bs =>
    if b = slash then [] :: cut bs
    else match cut bs with
      | [] => [[b]]
      | s :: ss => (b :: s) :: ss

/-- The pieces between slashes, empty ones included. -/
def segments (p : Path) : List (List UInt8) :=
  cut p.bytes

/-- The path starts at the root. -/
def isAbsolute (p : Path) : Bool :=
  p.bytes.head? == some slash

/-- The component of a piece that is neither empty nor `.`. -/
def component? (segment : List UInt8) : Option Component :=
  if segment = [] then none
  else if segment = Component.current.bytes then none
  else if segment = Component.parent.bytes then some .parent
  else some (.name segment)

/-- The steps of a path. -/
def components (p : Path) : List Component :=
  let steps := p.segments.filterMap component?
  if p.isAbsolute then .root :: steps
  else if p.segments.head? = some Component.current.bytes then .current :: steps
  else steps

/-- Paths compare by their components. -/
instance : Ord Path where
  compare p q := compare p.components q.components

instance : Std.TransOrd Path :=
  inferInstanceAs (Std.TransCmp (compareOn components))

/-- The steps have the same components. -/
def same (p q : Path) : Bool :=
  p.components = q.components

/-- A path and what is below it. An absolute second path stands alone. -/
def join (p q : Path) : Path :=
  if q.isAbsolute then q
  else match p.bytes.getLast? with
    | none => q
    | some b => if b = slash then ⟨p.bytes ++ q.bytes⟩ else ⟨p.bytes ++ slash :: q.bytes⟩

/-- The path of a text below a path. -/
def child (p : Path) (name : String) : Path :=
  p.join (ofString name)

/-- The path with the given steps. -/
def ofComponents (cs : List Component) : Path :=
  cs.foldl (fun p c => p.join ⟨c.bytes⟩) ⟨[]⟩

/-- One step of `normalize`, over the steps kept so far, last first. -/
def fold : List Component → Component → List Component
  | kept, .current => kept
  | .name _ :: kept, .parent => kept
  | .root :: kept, .parent => .root :: kept
  | kept, .parent => .parent :: kept
  | _, .root => [.root]
  | kept, .name bs => .name bs :: kept

/-- The steps without `.`, and with `..` folded into the name before it. -/
def foldAll (cs : List Component) : List Component :=
  (cs.foldl fold []).reverse

/-- The plain spelling of a path. -/
def normalize (p : Path) : Path :=
  ofComponents (foldAll p.components)

/-- The bytes without slashes and `/.` at their end; a lone slash and a lone `.` stay. Takes and
gives the bytes last first. -/
def trimEnd : List UInt8 → List UInt8
  | [] => []
  | [b] => [b]
  | b :: c :: rest =>
    if b = slash then trimEnd (c :: rest)
    else if b = 0x2E && c = slash then trimEnd (c :: rest)
    else b :: c :: rest

/-- The directory a path is in. -/
def parent? (p : Path) : Option Path :=
  let back := trimEnd p.bytes.reverse
  if back = [] || back = [slash] then none
  else some ⟨(trimEnd (back.dropWhile (· != slash))).reverse⟩

/-- Above `p`, at most `fuel` directories. -/
def parents : Nat → Path → List Path
  | 0, _ => []
  | fuel + 1, p =>
    match p.parent? with
    | none => []
    | some q => q :: parents fuel q

/-- A path and every directory above it, nearest first. -/
def ancestors (p : Path) : List Path :=
  p :: parents p.bytes.length p

/-- The last step, when it is a name. -/
def fileName? (p : Path) : Option (List UInt8) :=
  match p.components.getLast? with
  | some (.name bs) => some bs
  | _ => none

/-- What follows the last dot of the name, when something stands before that dot. -/
def extension? (p : Path) : Option (List UInt8) :=
  match p.fileName? with
  | none => none
  | some bs =>
    let back := bs.reverse
    let ending := back.takeWhile (· != 0x2E)
    match back.drop ending.length with
    | _ :: _ :: _ => some ending.reverse
    | _ => none

/-- The steps of `base` come first in those of `p`. -/
def startsWith (p base : Path) : Bool :=
  base.components.isPrefixOf p.components

/-- Drops from pieces those of the first `n` steps, then empty ones and `.`. -/
def dropSteps : Nat → List (List UInt8) → List (List UInt8)
  | _, [] => []
  | n, s :: rest =>
    if (component? s).isNone then dropSteps n rest
    else match n with
      | 0 => s :: rest
      | n + 1 => dropSteps n rest

/-- What is left of `p` below `base`. -/
def below? (p base : Path) : Option Path :=
  if p.startsWith base then
    let steps := base.components.filter fun c => c != .root && c != .current
    let rest := dropSteps steps.length p.segments
    some ⟨(trimEnd (List.intercalate [slash] rest).reverse).reverse⟩
  else none

end Path

end ElmAssist
