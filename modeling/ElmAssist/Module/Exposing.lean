/-!
# Module — Exposing lists

What a module shows to others, or takes in from another: everything, or the names of a list. A type
is listed with its constructors (`Type(..)`) or without.
-/

namespace ElmAssist

/-- Where a name is looked up. -/
inductive Namespace where
  /-- Functions, constants and ports. -/
  | value
  /-- Types and type aliases. -/
  | type
  /-- Variants of types, and the constructors of record aliases. -/
  | constructor
  deriving DecidableEq, Repr

/-- One entry of an exposing list. -/
inductive Exposed where
  | value (name : String)
  | operator (name : String)
  | type (name : String) (constructors : Bool)
  deriving DecidableEq, Repr

/-- What is exposed. -/
inductive Exposing where
  /-- Everything: `exposing (..)`. -/
  | everything
  | only (names : List Exposed)
  deriving DecidableEq, Repr

namespace Exposing

/-- Everything is exposed. -/
def isEverything : Exposing → Bool
  | .everything => true
  | .only _ => false

/-- A value is exposed. -/
def listsValue (e : Exposing) (name : String) : Bool :=
  match e with
  | .everything => true
  | .only names => names.contains (.value name)

/-- The entry is one for a type of the given name. -/
def isTypeEntry (name : String) : Exposed → Bool
  | .type n _ => n == name
  | _ => false

/-- The first entry for a type. -/
def typeEntry? (e : Exposing) (name : String) : Option Exposed :=
  match e with
  | .everything => none
  | .only names => names.find? (isTypeEntry name)

/-- A type is exposed. -/
def listsType (e : Exposing) (name : String) : Bool :=
  e.isEverything || (e.typeEntry? name).isSome

/-- The entry is for a type with its constructors. -/
def isOpen : Exposed → Bool
  | .type _ constructors => constructors
  | _ => false

/-- The constructors of a type are exposed. -/
def listsConstructorsOf (e : Exposing) (typeName : String) : Bool :=
  match e with
  | .everything => true
  | .only _ => (e.typeEntry? typeName).any isOpen

/-- The constructors of some type are exposed. -/
def hasOpenTypes (e : Exposing) : Bool :=
  match e with
  | .everything => true
  | .only names => names.any isOpen

end Exposing

end ElmAssist
