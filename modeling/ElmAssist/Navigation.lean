import ElmAssist.Hint
import ElmAssist.Name.Resolution

/-!
# Navigation

Questions an editor asks about a position: where the name there is defined, and what to show about
it.
-/

namespace ElmAssist

/-- A range of a file. -/
structure Location where
  uri : String
  range : Range
  deriving DecidableEq, Repr

namespace Forest

/-- What the name at a position refers to. None when the file is not in the forest. -/
def resolvePosition? (s : Forest) (access : Access) (uri : String) (p : Position) :
    Option Resolution :=
  (s.get? uri).map fun f => s.resolveAt access uri (f.lines.point p)

/-- The definition of the name at a position. -/
def definitionAt? (s : Forest) (access : Access) (uri : String) (p : Position) :
    Option Definition :=
  (s.resolvePosition? access uri p).bind Except.toOption

/-- Where the name at a position is defined. -/
def locate? (s : Forest) (access : Access) (uri : String) (p : Position) : Option Location :=
  (s.definitionAt? access uri p).bind fun d => (s.rangeOf? d).map (⟨d.uri, ·⟩)

/-- The hint of the name at a position. -/
def hover? (s : Forest) (access : Access) (uri : String) (p : Position) : Option String :=
  (s.definitionAt? access uri p).bind fun d =>
    (s.get? d.uri).bind fun f => Hint.of? f.tree d.node

end Forest

end ElmAssist
