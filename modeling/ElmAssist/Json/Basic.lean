import ElmAssist.Json.Number

/-!
# Json — Values

JSON values. Members of an object keep their order, and a name stands once.
-/

namespace ElmAssist

/-- A JSON value. -/
inductive Json where
  | null
  | bool (value : Bool)
  | number (value : Json.Number)
  | string (value : String)
  | array (items : List Json)
  | object (members : List (String × Json))
  deriving Inhabited

namespace Json

/-- The value of a member; none for values that are not objects. -/
def get? (j : Json) (name : String) : Option Json :=
  match j with
  | .object members => members.lookup name
  | _ => none

/-- The text of a string. -/
def string? : Json → Option String
  | .string s => some s
  | _ => none

/-- The truth value of a boolean. -/
def bool? : Json → Option Bool
  | .bool b => some b
  | _ => none

/-- The items of an array. -/
def items? : Json → Option (List Json)
  | .array items => some items
  | _ => none

/-- The members of an object. -/
def members? : Json → Option (List (String × Json))
  | .object members => some members
  | _ => none

/-- The value of an unsigned 64-bit integer. -/
def natural? : Json → Option Nat
  | .number n => n.natural?
  | _ => none

/-- The value is `null`. -/
def isNull : Json → Bool
  | .null => true
  | _ => false

/-- The JSON number of a natural number. -/
def ofNat (n : Nat) : Json :=
  .number (.integer n)

/-- The JSON string of a text, or `null`. -/
def ofString? (s : Option String) : Json :=
  match s with
  | some s => .string s
  | none => .null

/-- Members with one value set: in place when the name is there, else at the end. -/
def setMember (members : List (String × Json)) (name : String) (value : Json) :
    List (String × Json) :=
  match members with
  | [] => [(name, value)]
  | (n, v) :: rest =>
    if n = name then (n, value) :: rest else (n, v) :: setMember rest name value

/-- Members written in order, where a later one replaces an earlier one of its name in place. -/
def settle (members : List (String × Json)) : List (String × Json) :=
  members.foldl (fun ms m => setMember ms m.1 m.2) []

end Json

end ElmAssist
