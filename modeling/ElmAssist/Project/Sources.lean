import ElmAssist.Project.Ignore
import ElmAssist.Project.Manifest
import ElmAssist.Uri.File

/-!
# Project — Searching directories

The files below a directory, and what is found among them: the projects and the sources of a
project.

Hidden entries, the directories of dependencies and what ignore files name are left out, and links
are not followed; all this does not hold for the directory in which a search starts. Ignore files
above that directory count too. Those of a repository count only inside one.
-/

namespace ElmAssist.Project

/-- The directories of dependencies. -/
def dependencyDirectories : List Name :=
  [Text.encode "elm-stuff", Text.encode "node_modules"]

/-- The name starts with a dot and does not end with one. -/
def isHidden (n : Name) : Bool :=
  n.head? == some 0x2E && n.getLast? != some 0x2E

/-- A search goes past an entry. -/
def isSkipped (scope : Scope) (n : Name) (p : Path) (isDirectory : Bool) : Bool :=
  dependencyDirectories.contains n ||
    match scope.verdict? p isDirectory with
    | some keep => !keep
    | none => isHidden n

mutual

/-- The files at or below an entry with the given path. -/
def filesBelow (m : Machine) (scope : Scope) (p : Path) : Entry → List Path
  | .file .. => [p]
  | .link _ => []
  | .directory es => filesAmong m (scope.enter m p) p es

/-- The files at or below the entries of a directory. -/
def filesAmong (m : Machine) (scope : Scope) (dir : Path) : List (Name × Entry) → List Path
  | [] => []
  | (n, e) :: rest =>
    (if isSkipped scope n (dir.join ⟨n⟩) e.isDirectory then []
      else filesBelow m scope (dir.join ⟨n⟩) e) ++
    filesAmong m scope dir rest

end

/-- All files that a search from a path comes to. -/
def search (m : Machine) (start : Path) : List Path :=
  match m.disk.lookup? m.cwd start with
  | none => []
  | some e => filesBelow m (.ofStart m start) start e

/-- Paths in order. -/
def sorted (ps : List Path) : List Path :=
  ps.mergeSort fun p q => compare p q != .gt

/-- The list without neighbours that have the same components. -/
def withoutRepeats : List Path → List Path
  | [] => []
  | p :: ps => p :: withoutRepeatsAfter p ps
where
  /-- The list after a path, without its repeats. -/
  withoutRepeatsAfter (last : Path) : List Path → List Path
    | [] => []
    | p :: ps =>
      if last.same p then withoutRepeatsAfter last ps else p :: withoutRepeatsAfter p ps

/-- Every directory with a manifest at or below a path, in order. -/
def discover (m : Machine) (start : Path) : List Path :=
  let manifests := (search m start).filter fun p =>
    p.fileName? = some (Text.encode Manifest.fileName)
  sorted (manifests.filterMap Path.parent?)

/-- The directory has a manifest. -/
def isRoot (m : Machine) (dir : Path) : Bool :=
  m.disk.isFile m.cwd (dir.child Manifest.fileName)

/-- The nearest directory with a manifest at or above a path. -/
def rootOf? (m : Machine) (p : Path) : Option Path :=
  p.ancestors.find? (isRoot m)

/-- Every source of a project, in order. -/
def sources (m : Machine) (manifest : Manifest) (root : Path) : List Path :=
  let directories := (manifest.sourcePaths root).filter (m.disk.isDirectory m.cwd ·)
  let files := (directories.flatMap (search m)).filter fun p =>
    p.extension? = some (Text.encode "elm")
  withoutRepeats (sorted files)

/-- The uri of a path. -/
def uriOf (m : Machine) (p : Path) : String :=
  Uri.ofPath (Uri.absolute m.cwd p)

end ElmAssist.Project
