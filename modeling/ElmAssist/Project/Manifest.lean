import ElmAssist.Json.Written
import ElmAssist.Machine

/-!
# Project — Manifests

A directory with an `elm.json` is a project. Of the manifest two members count: its type and, for
an application, the directories of its sources.

A manifest is read as it is written: a member that counts may stand once only, all others are
passed over whatever they hold. An array of the two values in order is a manifest too.
-/

namespace ElmAssist

/-- What a project makes. -/
inductive ProjectKind where
  | application
  | package
  deriving DecidableEq, Repr

/-- What counts of a manifest. -/
structure Manifest where
  kind : ProjectKind
  sourceDirectories : List String
  deriving DecidableEq, Repr

namespace Manifest

open Json (Written Quoted)

/-- The name of the manifest. -/
def fileName : String := "elm.json"

/-- The text of a string that is sound. -/
def text? : Written → Option String
  | .string q => if q.sound then some q.text else none
  | _ => none

/-- The kind of a name. -/
def kindOfName? (name : String) : Option ProjectKind :=
  if name = "application" then some .application
  else if name = "package" then some .package
  else none

/-- A kind: its name, or an object with `null` under its name. -/
def kind? : Written → Option ProjectKind
  | .object [(name, .null)] => if name.sound then kindOfName? name.text else none
  | w => (text? w).bind kindOfName?

/-- A list of directories. -/
def directories? : Written → Option (List String)
  | .array items => items.mapM text?
  | _ => none

/-- The value of a member that may stand once. None when there are more; `some none` when there is
no such member. -/
def only? (name : String) (members : List (Quoted × Written)) : Option (Option Written) :=
  match members.filter fun m => m.1.text = name with
  | [] => some none
  | [m] => some (some m.2)
  | _ => none

/-- The manifest of a JSON text. -/
def ofWritten? : Written → Option Manifest
  | .object members => do
    if members.any fun m => !m.1.sound then none
    else
      let kind ← kind? (← ← only? "type" members)
      match ← only? "source-directories" members with
      | none => return ⟨kind, []⟩
      | some w => return ⟨kind, ← directories? w⟩
  | .array [kind] => do return ⟨← kind? kind, []⟩
  | .array [kind, directories] => do return ⟨← kind? kind, ← directories? directories⟩
  | _ => none

/-- The manifest of a file's text. -/
def parse? (text : String) : Option Manifest :=
  (Written.scan? text).bind ofWritten?

/-- The manifest of a project. -/
def load (m : Machine) (root : Path) : Except Fault Manifest :=
  let p := root.child fileName
  if m.disk.exists? m.cwd p then do
    match parse? (← m.readText p) with
    | some manifest => return manifest
    | none => throw (.manifest p.display Json.unreadableDetail)
  else .error (.noProject root.display)

/-- Where the sources are: for a package always in `src`. -/
def sourcePaths (manifest : Manifest) (root : Path) : List Path :=
  match manifest.kind with
  | .package => [root.child "src"]
  | .application => manifest.sourceDirectories.map fun dir => (root.child dir).normalize

end Manifest

end ElmAssist
