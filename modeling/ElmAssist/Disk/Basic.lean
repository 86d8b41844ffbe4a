import ElmAssist.Disk.Entry

/-!
# Disk — Looking things up

A disk is its root directory. Paths are followed step by step as an operating system does: links
are replaced by their targets, at most forty on one way, and only a directory has something below
it, be it `.` or `..` or nothing after a slash.
-/

namespace ElmAssist

/-- The root directory of a disk. -/
structure Disk where
  root : Entry
  deriving Inhabited

/-- Why the disk does not give what is asked for. -/
inductive DiskError where
  | notFound
  | notDirectory
  | isDirectory
  | denied
  | nameTooLong
  | tooManyLinks
  /-- A path with a zero byte. -/
  | zeroByte
  /-- The content is no text. -/
  | notText
  deriving DecidableEq, Repr

namespace DiskError

/-- The text of an error. -/
def message : DiskError → String
  | .notFound => "No such file or directory (os error 2)"
  | .denied => "Permission denied (os error 13)"
  | .notDirectory => "Not a directory (os error 20)"
  | .isDirectory => "Is a directory (os error 21)"
  | .nameTooLong => "File name too long (os error 36)"
  | .tooManyLinks => "Too many levels of symbolic links (os error 40)"
  | .zeroByte => "file name contained an unexpected NUL byte"
  | .notText => "stream did not contain valid UTF-8"

end DiskError

namespace Disk

/-- The disk with nothing on it. -/
def empty : Disk := ⟨.emptyDirectory⟩

/-- The entry at a place. -/
def entry? (d : Disk) (place : Place) : Option Entry :=
  d.root.at? place

/-- The place of a directory. -/
def isDirectoryAt (d : Disk) (place : Place) : Bool :=
  (d.entry? place).any Entry.isDirectory

/-- The bytes of the longest name. -/
def maxName : Nat := 255

/-- The bytes of the longest path. -/
def maxPath : Nat := 4095

/-- How far a path could be followed without following a link. -/
inductive Stop where
  | arrived (place : Place)
  /-- At a link in the directory `place`, with steps left. -/
  | link (target : Path) (place : Place) (rest : List Name)
  | failed (error : DiskError)

/-- Follows steps from a place up to the first link. -/
def advance (d : Disk) (place : Place) : List Name → Stop
  | [] => .arrived place
  | step :: rest =>
    if !d.isDirectoryAt place then .failed .notDirectory
    else if maxName < step.length then .failed .nameTooLong
    else match Path.component? step with
      | none => d.advance place rest
      | some .parent => d.advance place.dropLast rest
      | some _ =>
        match d.entry? (place ++ [step]) with
        | none => .failed .notFound
        | some (.link target) => .link target place rest
        | some _ => d.advance (place ++ [step]) rest

/-- Follows steps from a place, through at most `links` links. -/
def follow (d : Disk) : Nat → Place → List Name → Except DiskError Place
  | links, place, steps =>
    match d.advance place steps with
    | .arrived place => .ok place
    | .failed e => .error e
    | .link target place rest =>
      match links with
      | 0 => .error .tooManyLinks
      | links + 1 =>
        d.follow links (if target.isAbsolute then [] else place) (target.segments ++ rest)

/-- How many links may stand on one way. -/
def maxLinks : Nat := 40

/-- The place that a path leads to from a working directory. -/
def locate (d : Disk) (cwd p : Path) : Except DiskError Place :=
  if p.bytes = [] then .error .notFound
  else if p.bytes.contains 0 then .error .zeroByte
  else if maxPath < p.bytes.length then .error .nameTooLong
  else d.follow maxLinks [] (cwd.join p).segments

/-- The entry that a path leads to. -/
def lookup? (d : Disk) (cwd p : Path) : Option Entry :=
  (d.locate cwd p).toOption.bind d.entry?

/-- The path leads to something. -/
def exists? (d : Disk) (cwd p : Path) : Bool :=
  (d.lookup? cwd p).isSome

/-- The path leads to a file. -/
def isFile (d : Disk) (cwd p : Path) : Bool :=
  (d.lookup? cwd p).any Entry.isFile

/-- The path leads to a directory. -/
def isDirectory (d : Disk) (cwd p : Path) : Bool :=
  (d.lookup? cwd p).any Entry.isDirectory

/-- The path of a place. -/
def pathOf (place : Place) : Path :=
  .ofComponents (.root :: place.map .name)

/-- The path without links and detours. -/
def canonical (d : Disk) (cwd p : Path) : Except DiskError Path :=
  (d.locate cwd p).map pathOf

/-- The bytes of a file. -/
def read (d : Disk) (cwd p : Path) : Except DiskError (List UInt8) := do
  let place ← d.locate cwd p
  match d.entry? place with
  | some (.file content _) => return content
  | some _ => throw .isDirectory
  | none => throw .notFound

/-- The text of a file. -/
def readText (d : Disk) (cwd p : Path) : Except DiskError String := do
  match Text.decode? (← d.read cwd p) with
  | some text => return text
  | none => throw .notText

/-- The place of a program that a path leads to. -/
def program (d : Disk) (cwd p : Path) : Except DiskError Place := do
  let place ← d.locate cwd p
  match d.entry? place with
  | some (.file _ true) => return place
  | _ => throw .denied

/-- Puts an entry at a place. -/
def put (d : Disk) (place : Place) (e : Entry) : Disk :=
  ⟨Entry.put e place d.root⟩

/-- Takes away what is at a place. -/
def erase (d : Disk) (place : Place) : Disk :=
  ⟨Entry.erase place d.root⟩

end Disk

end ElmAssist
