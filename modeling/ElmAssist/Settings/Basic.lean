import ElmAssist.Name.Resolution

/-!
# Settings

What can be set for a project, and what holds when nothing is.
-/

namespace ElmAssist

/-- The settings of the compiler channel. -/
structure CompilerSettings where
  enabled : Bool
  /-- The program; looked for by its usual name when there is none. -/
  path : Option String
  /-- Milliseconds of quiet before a run. -/
  delay : Nat
  deriving DecidableEq, Repr

/-- The settings of the linter channel. -/
structure LinterSettings where
  enabled : Bool
  command : String
  args : List String
  /-- Files are linted one at a time, each text given to the linter as its input. -/
  perFile : Bool
  deriving DecidableEq, Repr

/-- The settings of a project. -/
structure Settings where
  compiler : CompilerSettings
  linter : LinterSettings
  /-- What qualified names may refer to. -/
  access : Access
  /-- How much is logged. -/
  logLevel : String
  deriving DecidableEq, Repr

/-- The compiler channel as it is when nothing is set. -/
def CompilerSettings.usual : CompilerSettings := ⟨true, none, 300⟩

/-- The linter channel as it is when nothing is set. -/
def LinterSettings.usual : LinterSettings := ⟨true, "elm-review", ["--report=json"], false⟩

/-- The settings that hold when nothing is set. -/
def Settings.usual : Settings := ⟨.usual, .usual, .anyTopLevel, "info"⟩

instance : Inhabited Settings := ⟨.usual⟩

namespace Settings

/-- The name under which the compiler is looked for. -/
def compilerCommand (s : Settings) : String :=
  s.compiler.path.getD "elm"

/-- The settings without the compiler channel. -/
def withoutCompiler (s : Settings) : Settings :=
  { s with compiler := { s.compiler with enabled := false } }

/-- The settings without the linter channel. -/
def withoutLinter (s : Settings) : Settings :=
  { s with linter := { s.linter with enabled := false } }

/-- The settings without any tool. -/
def offline (s : Settings) : Settings :=
  s.withoutCompiler.withoutLinter

end Settings

end ElmAssist
