import ElmAssist.Catalog

/-!
# Toml — Tables

The values of a TOML document, and the rules by which its headers and dotted keys build tables. The
members of a table are pairs in increasing order of their names.

* A table is written once: by its header, by dotted keys, or between braces.
* A header may lead through tables that have none yet; a later header may still write those.
* A name has one value.
-/

namespace ElmAssist.Toml

/-- How a table came to be. -/
inductive Origin where
  /-- By its own header; also the document as a whole. -/
  | header
  /-- On the way of a header to a table further down. -/
  | passed
  /-- By a dotted key. -/
  | dotted
  /-- Between braces. -/
  | braces
  deriving DecidableEq, Repr

/-- A value. Floats and moments are kept as they are written. -/
inductive Value where
  | string (text : String)
  | integer (value : Int)
  | float (text : String)
  | boolean (value : Bool)
  /-- A date, a time, or both. -/
  | moment (text : String)
  | array (items : List Value)
  | table (origin : Origin) (members : List (String × Value))
  /-- The tables that headers in double brackets write. -/
  | tables (items : List (Origin × List (String × Value)))

/-- A table: its origin and its members. -/
abbrev Table := Origin × List (String × Value)

namespace Table

/-- The table of an origin without members. -/
def empty (origin : Origin) : Table := (origin, [])

/-- The table with one member set. -/
def set (t : Table) (name : String) (v : Value) : Table :=
  (t.1, Pairs.place name v t.2)

/-- Headers and dotted keys may go through a table: not when it stands between braces, and dotted
keys not when it has a header. -/
def isOpen (dotted : Bool) (origin : Origin) : Bool :=
  match origin with
  | .braces => false
  | .header => !dotted
  | .passed | .dotted => true

/-- Changes the table at the end of a path, making the tables on the way that are not there. Of
tables in double brackets the last counts. -/
def modify (dotted : Bool) (change : Table → Option Table) : List String → Table → Option Table
  | [], t => change t
  | name :: path, t =>
    match Pairs.find name t.2 with
    | none =>
      (modify dotted change path (empty (if dotted then .dotted else .passed))).map fun c =>
        t.set name (.table c.1 c.2)
    | some (.table origin members) =>
      if isOpen dotted origin then
        (modify dotted change path (origin, members)).map fun c => t.set name (.table c.1 c.2)
      else none
    | some (.tables items) =>
      match items.getLast? with
      | none => none
      | some last =>
        (modify dotted change path last).map fun c => t.set name (.tables (items.dropLast ++ [c]))
    | some _ => none

/-- Sets a member that is not there yet. -/
def setNew (name : String) (v : Value) (t : Table) : Option Table :=
  if (Pairs.find name t.2).isSome then none else some (t.set name v)

/-- Sets the value of a dotted key: `path` leads to the table, `name` is its last part. Only a
table that dotted keys made can be reached by one. -/
def put (path : List String) (name : String) (v : Value) (t : Table) : Option Table :=
  match path with
  | [] => setNew name v t
  | _ :: _ =>
    modify true (fun c => if c.1 = .dotted then setNew name v c else none) path t

/-- Writes the header of a table. -/
def openTable (name : String) (t : Table) : Option Table :=
  match Pairs.find name t.2 with
  | none => some (t.set name (.table .header []))
  | some (.table .passed members) => some (t.set name (.table .header members))
  | some _ => none

/-- Writes a header in double brackets. -/
def openNext (name : String) (t : Table) : Option Table :=
  match Pairs.find name t.2 with
  | none => some (t.set name (.tables [empty .header]))
  | some (.tables items) => some (t.set name (.tables (items ++ [empty .header])))
  | some _ => none

end Table

end ElmAssist.Toml
