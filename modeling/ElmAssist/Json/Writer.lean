import ElmAssist.Json.Basic

/-!
# Json — Writing

The compact form on one line, and the pretty form with two blanks for each level. Empty containers
stay closed up in both.
-/

namespace ElmAssist.Json

/-- A hexadecimal digit in lower case. -/
def hexDigit (n : Nat) : Char :=
  if n < 10 then Char.ofNat (48 + n) else Char.ofNat (87 + n)

/-- A character inside quotes. Only quotes, backslashes and control characters are escaped. -/
def escapeChar (c : Char) : List Char :=
  if c == '"' then ['\\', '"']
  else if c == '\\' then ['\\', '\\']
  else if c == '\n' then ['\\', 'n']
  else if c == '\r' then ['\\', 'r']
  else if c == '\t' then ['\\', 't']
  else if c == '\x08' then ['\\', 'b']
  else if c == '\x0c' then ['\\', 'f']
  else if c.toNat < 0x20 then
    ['\\', 'u', '0', '0', hexDigit (c.toNat / 16), hexDigit (c.toNat % 16)]
  else [c]

/-- A text between quotes. -/
def quote (s : String) : String :=
  String.ofList ('"' :: (s.toList.flatMap escapeChar ++ ['"']))

/-- A number in digits. -/
def Number.render : Number → String
  | .integer i => toString i
  | .decimal negative n e => (if negative then "-" else "") ++ toString n ++ "e" ++ toString e

mutual

/-- The compact form. -/
def compact : Json → String
  | .null => "null"
  | .bool b => if b then "true" else "false"
  | .number n => n.render
  | .string s => quote s
  | .array items => "[" ++ compactItems items ++ "]"
  | .object members => "\x7b" ++ compactMembers members ++ "\x7d"

/-- Items with commas between them. -/
def compactItems : List Json → String
  | [] => ""
  | [j] => compact j
  | j :: k :: rest => compact j ++ "," ++ compactItems (k :: rest)

/-- Members with commas between them. -/
def compactMembers : List (String × Json) → String
  | [] => ""
  | [(n, v)] => quote n ++ ":" ++ compact v
  | (n, v) :: m :: rest => quote n ++ ":" ++ compact v ++ "," ++ compactMembers (m :: rest)

end

/-- A line break and the blanks of a level. -/
def newline (level : Nat) : String :=
  String.ofList ('\n' :: List.replicate (2 * level) ' ')

mutual

/-- The pretty form at a level of nesting. -/
def prettyAt (level : Nat) : Json → String
  | .null => "null"
  | .bool b => if b then "true" else "false"
  | .number n => n.render
  | .string s => quote s
  | .array [] => "[]"
  | .array (j :: rest) =>
    "[" ++ newline (level + 1) ++ prettyAt (level + 1) j ++ prettyItems (level + 1) rest ++
      newline level ++ "]"
  | .object [] => "\x7b\x7d"
  | .object ((n, v) :: rest) =>
    "\x7b" ++ newline (level + 1) ++ quote n ++ ": " ++ prettyAt (level + 1) v ++
      prettyMembers (level + 1) rest ++ newline level ++ "\x7d"

/-- The items after the first. -/
def prettyItems (level : Nat) : List Json → String
  | [] => ""
  | j :: rest => "," ++ newline level ++ prettyAt level j ++ prettyItems level rest

/-- The members after the first. -/
def prettyMembers (level : Nat) : List (String × Json) → String
  | [] => ""
  | (n, v) :: rest =>
    "," ++ newline level ++ quote n ++ ": " ++ prettyAt level v ++ prettyMembers level rest

end

/-- The pretty form. -/
def pretty (j : Json) : String :=
  prettyAt 0 j

end ElmAssist.Json
