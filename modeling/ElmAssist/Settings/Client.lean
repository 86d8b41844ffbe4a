import ElmAssist.Fault
import ElmAssist.Json.Written
import ElmAssist.Settings.Basic

/-!
# Settings — The editor's section

An editor sends its settings as a JSON object, either the section itself or an object that holds
it under `elmLS`. A key that is there and not `null` counts; a value that is no object sets
nothing.

* `ClientSettings.merge` fails exactly when one of the three keys has a value that is no text.
* `Settings.merge` gives settings only together with the section that was merged.
-/

namespace ElmAssist

/-- The editor's section. -/
structure ClientSettings where
  compilerPath : String
  formatterPath : String
  linterPath : String
  deriving DecidableEq, Repr

namespace ClientSettings

/-- The section when nothing is set. -/
def usual : ClientSettings := ⟨"elm", "elm-format", "elm-review"⟩

/-- The text a section gives for a key, or the one that held before. None when it gives something
else than a text. -/
def choose? (given : Json) (key current : String) : Option String :=
  match given.get? key with
  | none | some .null => some current
  | some v => v.string?

/-- The section with the values that another one gives. -/
def merge? (base : ClientSettings) (given : Json) : Option ClientSettings := do
  return {
    compilerPath := ← choose? given "elmPath" base.compilerPath
    formatterPath := ← choose? given "elmFormatPath" base.formatterPath
    linterPath := ← choose? given "elmReviewPath" base.linterPath }

/-- `merge?`, where failing is a fault. -/
def merge (base : ClientSettings) (given : Json) : Except Fault ClientSettings :=
  match base.merge? given with
  | some merged => .ok merged
  | none => .error (.configuration ("Invalid client settings: " ++ Json.unreadableDetail))

end ClientSettings

namespace Settings

/-- The section that says what these settings say. -/
def client (s : Settings) : ClientSettings :=
  { ClientSettings.usual with
    compilerPath := s.compilerCommand
    linterPath := s.linter.command }

/-- The settings with the programs of a section. -/
def withClient (s : Settings) (c : ClientSettings) : Settings :=
  { s with
    compiler := { s.compiler with path := some c.compilerPath }
    linter := { s.linter with command := c.linterPath } }

/-- The section of what an editor sends. -/
def sectionOf (sent : Json) : Json :=
  (sent.get? "elmLS").getD sent

/-- The settings with what an editor sends, and the merged section. -/
def merge (s : Settings) (sent : Json) : Except Fault (ClientSettings × Settings) := do
  let merged ← s.client.merge (sectionOf sent)
  return (merged, s.withClient merged)

/-- The settings with what an editor sends, if it sends anything. -/
def mergeSent (s : Settings) : Option Json → Except Fault Settings
  | none => .ok s
  | some sent => (s.merge sent).map Prod.snd

end Settings

end ElmAssist
