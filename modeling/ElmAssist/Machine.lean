import ElmAssist.Disk.Basic
import ElmAssist.Fault

/-!
# Machine

What lies around the assistant: a disk, a working directory, the directories in which programs are
looked for by name, and the home of its user.
-/

namespace ElmAssist

/-- The surroundings of a session. -/
structure Machine where
  disk : Disk
  cwd : Path
  searchPath : List Path
  home : Path
  deriving Inhabited

namespace Machine

/-- The text of a file. -/
def readText (m : Machine) (p : Path) : Except Fault String :=
  (m.disk.readText m.cwd p).mapError fun e => .storage p.display e.message

/-- The path of something on disk, without links and detours. -/
def canonical (m : Machine) (p : Path) : Except Fault Path :=
  (m.disk.canonical m.cwd p).mapError fun _ => .fileNotFound p.display

/-- The path leads to a program that may be run. -/
def isProgram (m : Machine) (p : Path) : Bool :=
  (m.disk.program m.cwd p).toOption.isSome

/-- A path of several steps, made absolute; steps of a relative one stand behind the working
directory. -/
def beside (m : Machine) (p : Path) : Path :=
  if p.isAbsolute then p
  else (p.components.dropWhile (· = .current)).foldl (fun q c => q.join ⟨c.bytes⟩) m.cwd

/-- The program of a name or path. A single step is looked for in the search path. -/
def findProgram? (m : Machine) (program : String) : Option Path :=
  let p := Path.ofString program
  let candidates :=
    if 1 < p.components.length then [m.beside p] else m.searchPath.map (·.join p)
  candidates.find? m.isProgram

/-- Of attempts to run a program, the first that succeeds. If none does, a refused permission
counts before anything else, then the last error. -/
def firstStart (attempts : List (Except DiskError Place)) : Except DiskError Place :=
  match attempts.findSome? Except.toOption with
  | some place => .ok place
  | none =>
    let errors := attempts.filterMap fun
      | .error e => some e
      | .ok _ => none
    if errors.contains .denied then .error .denied else .error (errors.getLast?.getD .notFound)

/-- The place of the program that a command in a directory starts. -/
def start (m : Machine) (directory program : Path) : Except DiskError Place :=
  if program.bytes = [] then .error .notFound
  else if program.bytes.contains Path.slash then m.disk.program directory program
  else firstStart (m.searchPath.map fun dir => m.disk.program directory (dir.join program))

end Machine

end ElmAssist
