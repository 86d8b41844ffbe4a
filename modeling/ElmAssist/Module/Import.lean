import ElmAssist.Module.Exposing
import ElmAssist.Tree.Basic

/-!
# Module — Imports

An import of a module, written in a file or implied in every one. The values of `Basics` are listed
by name, since its source is not among the files of a project.
-/

namespace ElmAssist

/-- An import. -/
structure Import where
  module : String
  alias? : Option String
  exposing? : Option Exposing
  /-- The import clause; none when the import is implied. -/
  clause? : Option NodeId
  deriving DecidableEq, Repr

namespace Import

/-- The name by which qualified names mean this import. -/
def qualifier (i : Import) : String :=
  i.alias?.getD i.module

/-- The import is implied. -/
def isImplied (i : Import) : Bool :=
  i.clause?.isNone

/-- An implied import. -/
def implied (module : String) (alias? : Option String) (exposing? : Option (List Exposed)) :
    Import :=
  ⟨module, alias?, exposing?.map .only, none⟩

/-- The values that `Basics` exposes. -/
def basicsValues : List String :=
  ["toFloat", "round", "floor", "ceiling", "truncate", "max", "min", "compare", "not", "xor",
    "modBy", "remainderBy", "negate", "abs", "clamp", "sqrt", "logBase", "e", "pi", "cos", "sin",
    "tan", "acos", "asin", "atan", "atan2", "degrees", "radians", "turns", "toPolar", "fromPolar",
    "isNaN", "isInfinite", "identity", "always", "never"]

/-- The types that `Basics` exposes. -/
def basicsTypes : List Exposed :=
  [.type "Int" false, .type "Float" false, .type "Order" true, .type "Bool" true,
    .type "Never" false]

/-- The imports of every module. -/
def everywhere : List Import :=
  [implied "Basics" none (some (basicsValues.map .value ++ basicsTypes)),
    implied "List" none (some [.type "List" false, .operator "::"]),
    implied "Maybe" none (some [.type "Maybe" true]),
    implied "Result" none (some [.type "Result" true]),
    implied "String" none (some [.type "String" false]),
    implied "Char" none (some [.type "Char" false]),
    implied "Tuple" none none,
    implied "Debug" none none,
    implied "Platform" none (some [.type "Program" false]),
    implied "Platform.Cmd" (some "Cmd") (some [.type "Cmd" false]),
    implied "Platform.Sub" (some "Sub") (some [.type "Sub" false])]

end Import

end ElmAssist
