import ElmAssist.Catalog
import ElmAssist.Module.Basic

/-!
# Module — The index

Which files declare a module of which name. A name that several files declare is a duplicate and
names none of them.
-/

namespace ElmAssist

/-- The uris of the files that declare each module name, each list in increasing order. -/
structure ModuleIndex where
  byName : Catalog String (List String)
  deriving DecidableEq, Repr, Inhabited

namespace ModuleIndex

/-- The index of modules in increasing order of their uris. -/
def ofModules (modules : List (String × Module)) : ModuleIndex :=
  ⟨modules.foldl (fun c m => c.append m.2.name m.1) .empty⟩

/-- The files that declare a name. -/
def urisOf (x : ModuleIndex) (name : String) : List String :=
  (x.byName.get? name).getD []

/-- The only file that declares a name. -/
def uri? (x : ModuleIndex) (name : String) : Option String :=
  match x.urisOf name with
  | [uri] => some uri
  | _ => none

/-- Some file declares a name. -/
def contains (x : ModuleIndex) (name : String) : Bool :=
  x.byName.contains name

/-- Several files declare a name. -/
def isDuplicate (x : ModuleIndex) (name : String) : Bool :=
  1 < (x.urisOf name).length

/-- The names in order, each with its files. -/
def entries (x : ModuleIndex) : List (String × List String) :=
  x.byName.entries

/-- The names that several files declare. -/
def duplicates (x : ModuleIndex) : List (String × List String) :=
  x.entries.filter fun e => 1 < e.2.length

end ModuleIndex

end ElmAssist
