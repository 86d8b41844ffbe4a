import ElmAssist.Project.Pattern
import ElmAssist.Project.Repository

/-!
# Project — Ignore files

The ignore files that count in a search, and what they say of an entry. Those next to the entry come
before those further up. Of one directory, files for every search come before those of a
repository, and the file of the user is last. What is for repositories counts only inside one, up
to its top.

Patterns are compared with paths as they are spelled: of an entry's path, what stands before the
spelling of the ignore file's directory is cut off, and where the spellings differ, nothing is.
-/

namespace ElmAssist

namespace Path

/-- What follows the bytes of another path, when the path begins with them. -/
def after? (p start : Path) : Option Path :=
  if start.bytes.isPrefixOf p.bytes then some ⟨p.bytes.drop start.bytes.length⟩ else none

/-- The path without the bytes of another one in front. -/
def cutFront (p start : Path) : Path :=
  (p.after? start).getD p

/-- The path without `./` in front. -/
def dropHere (p : Path) : Path :=
  p.cutFront (.ofString "./")

/-- The path without a slash in front. -/
def dropSlash (p : Path) : Path :=
  p.cutFront ⟨[slash]⟩

/-- The path leads nowhere but to the working directory. -/
def isHere (p : Path) : Bool :=
  p.same (.ofString ".")

end Path

namespace Project

/-- The patterns for the paths below a directory. -/
structure Rules where
  root : Path
  patterns : List Pattern

namespace Rules

/-- The character that may stand in front of a text to show its byte order. -/
def byteOrderMark : Char := Char.ofNat 0xFEFF

/-- The patterns of an ignore file; lines count up to the first that is no text. -/
def patternsAt (m : Machine) (file : Path) : List Pattern :=
  match m.disk.read m.cwd file with
  | .error _ => []
  | .ok content =>
    let texts := ((Repository.lines content).map Text.decode?).takeWhile Option.isSome
    match texts.map fun text => (text.getD "").toList with
    | [] => []
    | first :: rest => (first.dropWhile (· = byteOrderMark) :: rest).filterMap Pattern.ofLine?

/-- The rules of an ignore file for a directory. -/
def ofFile (m : Machine) (root : Path) (file : Option Path) : Rules :=
  ⟨root.dropHere, (file.map (patternsAt m)).getD []⟩

/-- The part of a path that the patterns are for. -/
def relative (r : Rules) (p : Path) : Path :=
  let p := p.dropHere
  if r.root.isHere || !p.bytes.contains Path.slash then p
  else match p.after? r.root with
    | some rest => rest.dropSlash
    | none => p

/-- What the rules say of an entry. -/
def verdict? (r : Rules) (p : Path) (isDirectory : Bool) : Option Bool :=
  Pattern.verdict? r.patterns (r.relative p).bytes isDirectory

end Rules

/-- The rules of a directory. -/
structure Level where
  general : Rules
  /-- Those in the tree of a repository. -/
  tracked : Rules
  /-- Those kept out of its tree. -/
  untracked : Rules
  /-- The directory is the top of a repository. -/
  isRepository : Bool

/-- The rules of a directory of a machine. -/
def Level.of (m : Machine) (dir : Path) : Level :=
  ⟨.ofFile m dir (dir.child ".ignore"), .ofFile m dir (dir.child ".gitignore"),
    .ofFile m dir (Repository.excludes? m dir), Repository.isTop m dir⟩

/-- The rules that count in a directory of a search, nearest first. -/
structure Scope where
  /-- The path from which the search started. -/
  start : Path
  /-- The same without links and detours. -/
  place : Path
  /-- The directories of the search. -/
  levels : List Level
  /-- The directories above it, by their paths without links and detours. -/
  above : List Level
  /-- The rules of the user. -/
  user : Rules

namespace Scope

/-- The scope in which a search starts. -/
def ofStart (m : Machine) (start : Path) : Scope :=
  let places := match m.disk.locate m.cwd start with
    | .error _ => []
    | .ok place => (List.range place.length).reverse.map fun k => Disk.pathOf (place.take k)
  let excludes := Repository.userExcludes m
  { start
    place := (m.disk.canonical m.cwd start).toOption.getD start
    levels := []
    above := places.map (Level.of m)
    user := .ofFile m m.cwd
      (if m.disk.isFile m.cwd excludes then some excludes else none) }

/-- The scope in a directory of the search. -/
def enter (s : Scope) (m : Machine) (dir : Path) : Scope :=
  { s with levels := .of m dir :: s.levels }

/-- The path of an entry behind the place where the search started. -/
def placed (s : Scope) (p : Path) : Path :=
  s.place.join (if s.start.isHere then p else (p.cutFront s.start.dropHere).dropSlash)

/-- The levels with the path of an entry for each of them. -/
def sights (s : Scope) (p : Path) : List (Level × Path) :=
  s.levels.map (·, p) ++ s.above.map (·, s.placed p)

/-- Up to the nearest top of a repository. -/
def upToTop : List (Level × Path) → List (Level × Path)
  | [] => []
  | l :: ls => if l.1.isRepository then [l] else l :: upToTop ls

/-- What the ignore files say of an entry in the directory of the scope. -/
def verdict? (s : Scope) (p : Path) (isDirectory : Bool) : Option Bool :=
  let p := p.dropHere
  let sights := s.sights p
  let first := fun (rules : Level → Rules) (sights : List (Level × Path)) =>
    sights.findSome? fun l => (rules l.1).verdict? l.2 isDirectory
  (first Level.general sights).or <|
    if sights.any (·.1.isRepository) then
      let inside := upToTop sights
      ((first Level.tracked inside).or (first Level.untracked inside)).or
        (s.user.verdict? p isDirectory)
    else none

end Scope

end Project

end ElmAssist
