import ElmAssist.Module.Index
import ElmAssist.Text.Lines
import ElmAssist.Tree.Outline

/-!
# Forest — Parsed files

The files of a project at one moment, each parsed, with the index of their modules. Storing a file
gives a new forest; the old one stays what it was, so whoever reads it is not disturbed.

* `Forest.set` keeps a file that has a newer version than the one offered.
* `Forest.reload` does not look at versions: the file on disk counts again.
* `Forest.load` adds files that are not there yet.

A text that the parser gives up is not stored; the forest stays as it was.
-/

namespace ElmAssist

/-- A file and what follows from its text. -/
structure SourceFile where
  uri : String
  version : Int
  tree : Tree
  module : Module
  lines : Lines

namespace SourceFile

/-- The file with the given text. -/
def build (parse : Parser) (uri text : String) (version : Int) : SourceFile :=
  let tree := Tree.ofRows text (parse text)
  ⟨uri, version, tree, .ofTree tree, .ofText text⟩

/-- The source of the file. -/
def text (f : SourceFile) : String :=
  f.tree.text

/-- The file with the given text, parsed after a previous file of its uri. -/
def parsed (parse : Parser) (previous : Option SourceFile) (uri text : String) (version : Int) :
    Except Fault SourceFile :=
  match parse.fault? (previous.map SourceFile.text) text with
  | some e => .error e
  | none => .ok (.build parse uri text version)

/-- The range of a node. -/
def rangeOf (f : SourceFile) (i : NodeId) : Range :=
  f.lines.range (f.tree.span i)

end SourceFile

/-- Files by uri, and their modules by name. -/
structure Forest where
  files : Catalog String SourceFile
  modules : ModuleIndex
  deriving Inhabited

namespace Forest

/-- The forest of the given files. -/
def ofFiles (files : Catalog String SourceFile) : Forest :=
  ⟨files, .ofModules (files.entries.map fun e => (e.1, e.2.module))⟩

/-- The forest without files. -/
def empty : Forest := ofFiles .empty

/-- The file of a uri. -/
def get? (s : Forest) (uri : String) : Option SourceFile :=
  s.files.get? uri

/-- The uris of all files in order. -/
def uris (s : Forest) : List String :=
  s.files.keys

/-- The only file that declares a module. -/
def fileOf? (s : Forest) (module : String) : Option SourceFile :=
  (s.modules.uri? module).bind s.get?

/-- The uris of the files that import a module by name, in order. -/
def importers (s : Forest) (module : String) : List String :=
  (s.files.values.filter fun f => f.module.importsModule module).map SourceFile.uri

/-- The file held for a uri, when its version is newer than the given one. -/
def newer? (s : Forest) (uri : String) (version : Int) : Option SourceFile :=
  (s.get? uri).filter fun f => version < f.version

/-- The forest with a file in place of any of its uri. -/
def put (s : Forest) (f : SourceFile) : Forest :=
  ofFiles (s.files.insert f.uri f)

/-- Puts a parsed file in, unless a newer version is held by now. Gives the file that is held. -/
def publish (s : Forest) (f : SourceFile) : SourceFile × Forest :=
  match s.newer? f.uri f.version with
  | some held => (held, s)
  | none => (f, s.put f)

/-- Stores a text, unless a newer version is held. Gives the file that is held. -/
def set (parse : Parser) (s : Forest) (uri text : String) (version : Int) :
    Except Fault SourceFile × Forest :=
  match s.newer? uri version with
  | some held => (.ok held, s)
  | none =>
    match SourceFile.parsed parse (s.get? uri) uri text version with
    | .error e => (.error e, s)
    | .ok f =>
      let (held, s) := s.publish f
      (.ok held, s)

/-- Stores a text whatever version is held. -/
def reload (parse : Parser) (s : Forest) (uri text : String) (version : Int) :
    Except Fault SourceFile × Forest :=
  match SourceFile.parsed parse (s.get? uri) uri text version with
  | .error e => (.error e, s)
  | .ok f => (.ok f, s.put f)

/-- The forest without a file. -/
def remove (s : Forest) (uri : String) : Forest :=
  if s.files.contains uri then ofFiles (s.files.erase uri) else s

/-- Texts by uri without those that the parser gives up. -/
def parsable (parse : Parser) (texts : List (String × String)) : List (String × String) :=
  texts.filter fun e => (parse.fault? none e.2).isNone

/-- Adds texts read from disk, in order, for the uris that have no file yet. -/
def load (parse : Parser) (s : Forest) (texts : List (String × String)) : Forest :=
  ofFiles ((parsable parse texts).foldl
    (fun files e => files.insertNew e.1 (.build parse e.1 e.2 0)) s.files)

end Forest

end ElmAssist
