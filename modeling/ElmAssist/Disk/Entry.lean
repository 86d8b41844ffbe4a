import ElmAssist.Disk.Path

/-!
# Disk — Entries

What a disk holds: a tree of named entries. A place in it is the list of the names that lead there
from the root.

* `Entry.at?` looks up a place without following links.
* `Entry.put` and `Entry.erase` change one place; looking it up afterwards shows the change.
-/

namespace ElmAssist

/-- The name of an entry. -/
abbrev Name := List UInt8

/-- The names that lead to an entry from the root. -/
abbrev Place := List Name

/-- A file, a link to another path, or a directory. -/
inductive Entry where
  | file (content : List UInt8) (runnable : Bool)
  | link (target : Path)
  | directory (entries : List (Name × Entry))
  deriving Inhabited

namespace Entry

/-- The directory without entries. -/
def emptyDirectory : Entry := .directory []

/-- The entries of a directory; other entries have none. -/
def entries : Entry → List (Name × Entry)
  | .directory es => es
  | _ => []

/-- The entry is a directory. -/
def isDirectory : Entry → Bool
  | .directory _ => true
  | _ => false

/-- The entry is a file. -/
def isFile : Entry → Bool
  | .file .. => true
  | _ => false

/-- The entry at a place below this one. -/
def at? (e : Entry) : Place → Option Entry
  | [] => some e
  | n :: place => (e.entries.lookup n).bind (·.at? place)

/-- The entries with one set: in place when its name is there, else at the end. -/
def setEntry (es : List (Name × Entry)) (n : Name) (e : Entry) : List (Name × Entry) :=
  match es with
  | [] => [(n, e)]
  | (m, f) :: rest => if m = n then (n, e) :: rest else (m, f) :: setEntry rest n e

/-- Sets the entry at a place, making the directories that lead there. A file or link on the way is
left as it is, and nothing is set. -/
def put (new : Entry) : Place → Entry → Entry
  | [], _ => new
  | n :: place, .directory es =>
    .directory (setEntry es n (put new place ((es.lookup n).getD emptyDirectory)))
  | _ :: _, e => e

/-- Takes away the entry at a place. -/
def erase : Place → Entry → Entry
  | [], e => e
  | [n], .directory es => .directory (es.filter fun e => e.1 != n)
  | n :: m :: place, .directory es =>
    match es.lookup n with
    | some e => .directory (setEntry es n (erase (m :: place) e))
    | none => .directory es
  | _ :: _, e => e

end Entry

end ElmAssist
