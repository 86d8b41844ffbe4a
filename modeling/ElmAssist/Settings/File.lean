import ElmAssist.Json.Written
import ElmAssist.Machine
import ElmAssist.Settings.Client
import ElmAssist.Toml.Reader

/-!
# Settings — Files

The settings file of a project is TOML. Every section and every key may be left out, and keys that
are not known do not count. A section may also be written as an array, with its values in order.
-/

namespace ElmAssist.Settings

open Toml (Value)

/-- The values of named fields: by name in a table, by position in an array. A date counts as a
table with none of them. -/
def fields? (names : List String) : Value → Option (List (Option Value))
  | .table _ members => some (names.map (Pairs.find · members))
  | .array items => some (names.mapIdx fun i _ => items[i]?)
  | .tables items =>
    some (names.mapIdx fun i _ => (items[i]?).map fun t => .table t.1 t.2)
  | .moment _ => some (names.map fun _ => none)
  | _ => none

/-- The value that a reader makes of a field; `usual` when the field is not there. -/
def field (read? : Value → Option α) (usual : α) : Option Value → Option α
  | none => some usual
  | some v => read? v

/-- A truth value. -/
def boolean? : Value → Option Bool
  | .boolean b => some b
  | _ => none

/-- A text. -/
def text? : Value → Option String
  | .string s => some s
  | _ => none

/-- A natural number. -/
def natural? : Value → Option Nat
  | .integer (.ofNat n) => some n
  | _ => none

/-- A list of texts. -/
def texts? : Value → Option (List String)
  | .array items => items.mapM text?
  | _ => none

/-- A container with nothing in it. -/
def isEmpty : Value → Bool
  | .table _ members => members.isEmpty
  | .array items => items.isEmpty
  | .tables items => items.isEmpty
  | _ => false

/-- The access of a name. -/
def accessOfName? (name : String) : Option Access :=
  if name = "open" then some .anyTopLevel
  else if name = "exposed-only" then some .exposedOnly
  else none

/-- An access: its name, or a table with its name and nothing under it. -/
def access? : Value → Option Access
  | .string name => accessOfName? name
  | .table _ [(name, v)] => if isEmpty v then accessOfName? name else none
  | _ => none

/-- The compiler section. -/
def compiler? (v : Value) : Option CompilerSettings := do
  match ← fields? ["enabled", "path", "debounce_ms"] v with
  | [enabled, path, delay] =>
    return {
      enabled := ← field boolean? CompilerSettings.usual.enabled enabled
      path := ← field (fun v => (text? v).map some) CompilerSettings.usual.path path
      delay := ← field natural? CompilerSettings.usual.delay delay }
  | _ => none

/-- The linter section. -/
def linter? (v : Value) : Option LinterSettings := do
  match ← fields? ["enabled", "command", "args", "stdin"] v with
  | [enabled, command, args, perFile] =>
    return {
      enabled := ← field boolean? LinterSettings.usual.enabled enabled
      command := ← field text? LinterSettings.usual.command command
      args := ← field texts? LinterSettings.usual.args args
      perFile := ← field boolean? LinterSettings.usual.perFile perFile }
  | _ => none

/-- The section of the search for definitions. -/
def resolver? (v : Value) : Option Access := do
  match ← fields? ["qualified_access"] v with
  | [access] => field access? usual.access access
  | _ => none

/-- The section of the log. -/
def logging? (v : Value) : Option String := do
  match ← fields? ["level"] v with
  | [level] => field text? usual.logLevel level
  | _ => none

/-- The settings of a document. -/
def ofToml? (v : Value) : Option Settings := do
  match ← fields? ["compiler", "linter", "resolver", "logging"] v with
  | [compiler, linter, resolver, logging] =>
    return {
      compiler := ← field compiler? usual.compiler compiler
      linter := ← field linter? usual.linter linter
      access := ← field resolver? usual.access resolver
      logLevel := ← field logging? usual.logLevel logging }
  | _ => none

/-- The settings of a file's text. -/
def parse? (text : String) : Option Settings :=
  (Toml.read? text).bind ofToml?

/-- The name of the settings file of a project. -/
def fileName : String := ".elm-intel.toml"

/-- The fault of a file that is not what it should be. -/
def unreadable (p : Path) (detail : String) : Fault :=
  .configuration ("Failed to parse " ++ p.display ++ ": " ++ detail)

/-- The settings of a project. Without a settings file the usual ones hold. -/
def load (m : Machine) (root : Path) : Except Fault Settings :=
  let p := root.child fileName
  if m.disk.exists? m.cwd p then do
    match parse? (← m.readText p) with
    | some s => return s
    | none => throw (unreadable p Toml.unreadableDetail)
  else .ok usual

/-- What an editor would send, from a file. -/
def readSent (m : Machine) (p : Path) : Except Fault Json := do
  match Json.read? (← m.readText p) with
  | some j => return j
  | none => throw (unreadable p Json.unreadableDetail)

end ElmAssist.Settings
