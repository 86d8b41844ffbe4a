import ElmAssist.Machine

/-!
# Project — Repositories

What a machine says about repositories: which directories are the top of one, and where the ignore
files lie that are kept out of its tree, those of the repository and those of its user.
-/

namespace ElmAssist.Repository

/-- The lines of a file, without their ends. -/
def lines (content : List UInt8) : List (List UInt8) :=
  let pieces := content.splitOnP (· == 0x0A)
  let whole := pieces.dropLast.map fun line =>
    if line.getLast? == some 0x0D then line.dropLast else line
  whole ++ (pieces.getLast?.filter (!·.isEmpty)).toList

/-- The first line of a file, if that is a text. -/
def firstLine? (m : Machine) (p : Path) : Option (List UInt8) := do
  let content ← (m.disk.read m.cwd p).toOption
  let line ← (lines content).head?
  if (Text.decode? line).isSome then some line else none

/-- The directory is the top of a repository. -/
def isTop (m : Machine) (dir : Path) : Bool :=
  m.disk.exists? m.cwd (dir.child ".git") || m.disk.exists? m.cwd (dir.child ".jj")

/-- What follows a text, when the bytes begin with it. -/
def after? (start : String) (bs : List UInt8) : Option (List UInt8) :=
  let start := Text.encode start
  if start.isPrefixOf bs then some (bs.drop start.length) else none

/-- The directory with what all trees of a repository share. A file instead of the directory leads to
that of one tree, in which another file leads on. -/
def shared? (m : Machine) (dir : Path) : Option Path :=
  let own := dir.child ".git"
  if m.disk.isFile m.cwd own then do
    let tree : Path := ⟨← after? "gitdir: " (← firstLine? m own)⟩
    let target : Path := ⟨← firstLine? m (tree.child "commondir")⟩
    if target.bytes.head? == some 0x2E then some (tree.join target) else some target
  else some own

/-- The ignore file of the repository with a directory at its top. -/
def excludes? (m : Machine) (dir : Path) : Option Path :=
  (shared? m dir).map (·.child "info/exclude")

/-- A blank of the settings file: a space or a control character that moves on. -/
def isBlank (b : UInt8) : Bool :=
  b == 0x20 || (0x09 ≤ b && b ≤ 0x0D)

/-- Nothing but blanks stands before the end of a line. -/
def lineEnds (bs : List UInt8) : Bool :=
  let blanks := bs.takeWhile isBlank
  blanks.contains 0x0A || blanks.length == bs.length

/-- A value ends here, perhaps with a quotation mark. -/
def valueEnds (bs : List UInt8) : Bool :=
  lineEnds bs || match bs.dropWhile isBlank with
    | 0x22 :: rest => lineEnds rest
    | _ => false

/-- The shortest value at the front. There are no blanks in it. -/
def value? : List UInt8 → Option (List UInt8)
  | [] => none
  | b :: bs =>
    if isBlank b then none
    else if valueEnds bs then some [b]
    else (value? bs).map (b :: ·)

/-- The value of the setting `excludesfile`, when the line is about it. -/
def valueOfLine? (line : List UInt8) : Option (List UInt8) := do
  let line := line.dropWhile isBlank
  let name := Text.encode "excludesfile"
  let lower := fun (b : UInt8) => if 0x41 ≤ b && b ≤ 0x5A then b + 0x20 else b
  if (line.take name.length).map lower != name then none
  else match (line.drop name.length).dropWhile isBlank with
    | 0x3D :: rest =>
      let rest := rest.dropWhile isBlank
      let quoted := match rest with
        | 0x22 :: rest => value? (rest.dropWhile isBlank)
        | _ => none
      quoted.or (value? rest)
    | _ => none

/-- The value of the setting `excludesfile`. `start` says that a line starts here. -/
def setting? (start : Bool) : List UInt8 → Option (List UInt8)
  | [] => none
  | b :: bs =>
    (if start then valueOfLine? (b :: bs) else none).or (setting? (b == 0x0A) bs)

/-- The ignore file that a settings file names; `~` in it is the home of the user. -/
def named? (m : Machine) (settings : Path) : Option Path := do
  let content ← (m.disk.read m.cwd settings).toOption
  let value ← setting? true content
  if (Text.decode? value).isSome then
    some ⟨value.flatMap fun b => if b == 0x7E then m.home.bytes else [b]⟩
  else none

/-- The ignore file of the user, for all repositories. -/
def userExcludes (m : Machine) : Path :=
  let settings := m.home.child ".config/git"
  ((named? m (m.home.child ".gitconfig")).or (named? m (settings.child "config"))).getD
    (settings.child "ignore")

end ElmAssist.Repository
