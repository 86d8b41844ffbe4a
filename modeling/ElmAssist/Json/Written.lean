import ElmAssist.Json.Basic

/-!
# Json — Written values

A JSON text as it is written: member names may repeat, an escape may be half of a surrogate pair,
a number may be out of range. `Written.scan?` accepts every text of the grammar; `Written.value?`
gives its value when it has one.
-/

namespace ElmAssist.Json

/-- A string between quotes. `sound` fails when an escape is half of a surrogate pair; the text is
then unspecified. -/
structure Quoted where
  text : String
  sound : Bool
  deriving DecidableEq, Repr

/-- A JSON text as written. -/
inductive Written where
  | null
  | bool (value : Bool)
  /-- None when the number is too large for a double. -/
  | number (value : Option Number)
  | string (value : Quoted)
  | array (items : List Written)
  | object (members : List (Quoted × Written))
  deriving Inhabited

namespace Written

/-- The four characters between tokens. -/
def isSpace (c : Char) : Bool :=
  c == ' ' || c == '\n' || c == '\t' || c == '\r'

/-- What follows the spaces. -/
def skip (cs : List Char) : List Char :=
  cs.dropWhile isSpace

/-- The value of a hexadecimal digit. -/
def hex? (c : Char) : Option Nat :=
  if '0' ≤ c && c ≤ '9' then some (c.toNat - 48)
  else if 'a' ≤ c && c ≤ 'f' then some (c.toNat - 87)
  else if 'A' ≤ c && c ≤ 'F' then some (c.toNat - 55)
  else none

/-- Four hexadecimal digits and what follows them. -/
def unit? : List Char → Option (Nat × List Char)
  | a :: b :: c :: d :: rest => do
    return (((← hex? a) * 16 + (← hex? b)) * 256 + (← hex? c) * 16 + (← hex? d), rest)
  | _ => none

/-- The character of an escape of one letter. -/
def escape? : Char → Option Char
  | '"' => some '"'
  | '\\' => some '\\'
  | '/' => some '/'
  | 'b' => some '\x08'
  | 'f' => some '\x0c'
  | 'n' => some '\n'
  | 'r' => some '\r'
  | 't' => some '\t'
  | _ => none

/-- The unit is the first of a surrogate pair. -/
def isHighUnit (n : Nat) : Bool := 0xD800 ≤ n && n ≤ 0xDBFF

/-- The unit is the second of a surrogate pair. -/
def isLowUnit (n : Nat) : Bool := 0xDC00 ≤ n && n ≤ 0xDFFF

/-- What stands before the closing quote, last first onto `seen`, and what follows it. A character
after a backslash does not close. -/
def body? (seen : List Char) : List Char → Option (List Char × List Char)
  | [] => none
  | '"' :: cs => some (seen.reverse, cs)
  | ['\\'] => none
  | '\\' :: c :: cs => body? (c :: '\\' :: seen) cs
  | c :: cs => if c.toNat < 0x20 then none else body? (c :: seen) cs

/-- The characters that the body of a string stands for, last first onto `seen`. -/
def unescape? : Nat → List Char → Bool → List Char → Option Quoted
  | 0, _, _, _ => none
  | _ + 1, seen, sound, [] => some ⟨String.ofList seen.reverse, sound⟩
  | fuel + 1, seen, sound, '\\' :: 'u' :: cs =>
    match unit? cs with
    | none => none
    | some (n, rest) =>
      if isHighUnit n then
        match rest with
        | '\\' :: 'u' :: more =>
          match unit? more with
          | none => none
          | some (m, after) =>
            if isLowUnit m then
              let code := 0x10000 + (n - 0xD800) * 0x400 + (m - 0xDC00)
              unescape? fuel (Char.ofNat code :: seen) sound after
            else unescape? fuel seen false rest
        | _ => unescape? fuel seen false rest
      else if isLowUnit n then unescape? fuel seen false rest
      else unescape? fuel (Char.ofNat n :: seen) sound rest
  | fuel + 1, seen, sound, '\\' :: e :: cs =>
    match escape? e with
    | none => none
    | some x => unescape? fuel (x :: seen) sound cs
  | fuel + 1, seen, sound, c :: cs => unescape? fuel (c :: seen) sound cs

/-- The rest of a string after its opening quote. -/
def quoted? (cs : List Char) : Option (Quoted × List Char) :=
  match body? [] cs with
  | none => none
  | some (body, rest) => (unescape? (body.length + 1) [] true body).map (·, rest)

/-- Digits taken into a significand while it fits 64 bits: the significand, the digits left out,
and the digits taken. -/
def takeDigits (significand : Nat) : List Char → Nat × List Char × Nat
  | [] => (significand, [], 0)
  | d :: ds =>
    let next := significand * 10 + (d.toNat - 48)
    if next < Number.wordBound then
      let r := takeDigits next ds
      (r.1, r.2.1, r.2.2 + 1)
    else (significand, d :: ds, 0)

/-- The value of a run of decimal digits. -/
def natOfDigits (ds : List Char) : Nat :=
  ds.foldl (fun n d => n * 10 + (d.toNat - 48)) 0

/-- The number with these parts: sign, integer digits, fraction digits if there is a point, and
sign and digits of the power if there is one. Digits past 64 bits of significand count as zeros
before the point and are dropped after it. -/
def numberOf (negative : Bool) (whole : List Char) (fraction : Option (List Char))
    (power : Option (Bool × List Char)) : Option Number :=
  let w := takeDigits 0 whole
  match fraction, power, w.2.1 with
  | none, none, [] => some (.ofInteger negative w.1)
  | _, _, left =>
    let f := takeDigits w.1 (fraction.getD [])
    let exponent : Int := (left.length : Int) - (f.2.2 : Int)
    match power with
    | none => if Number.fitsDouble f.1 exponent then some (.decimal negative f.1 exponent) else none
    | some (down, ds) =>
      let p := natOfDigits ds
      let exponent := if down then exponent - p else exponent + p
      if Number.fitsDouble f.1 exponent then some (.decimal negative f.1 exponent) else none

/-- The digits at the front, and what follows them. -/
def digits (cs : List Char) : List Char × List Char :=
  cs.span Char.isDigit

/-- The power part of a number, when an `e` stands at the front. -/
def power? (cs : List Char) : Option (Option (Bool × List Char) × List Char) :=
  match cs with
  | e :: rest =>
    if e == 'e' || e == 'E' then
      let (down, rest) := match rest with
        | '+' :: r => (false, r)
        | '-' :: r => (true, r)
        | r => (false, r)
      match digits rest with
      | ([], _) => none
      | (ds, rest) => some (some (down, ds), rest)
    else some (none, cs)
  | [] => some (none, [])

/-- The fraction part of a number, when a point stands at the front. -/
def fraction? (cs : List Char) : Option (Option (List Char) × List Char) :=
  match cs with
  | '.' :: rest =>
    match digits rest with
    | ([], _) => none
    | (ds, rest) => some (some ds, rest)
  | _ => some (none, cs)

/-- A number after its sign. No digit follows a leading zero. -/
def number? (negative : Bool) (cs : List Char) : Option (Option Number × List Char) :=
  match digits cs with
  | ([], _) => none
  | ('0' :: _ :: _, _) => none
  | (whole, rest) =>
    match fraction? rest with
    | none => none
    | some (fraction, rest) =>
      match power? rest with
      | none => none
      | some (power, rest) => some (numberOf negative whole fraction power, rest)

/-- What follows a word, when the characters begin with it. -/
def word? (w cs : List Char) : Option (List Char) :=
  match w, cs with
  | [], cs => some cs
  | _ :: _, [] => none
  | a :: as, c :: cs => if a = c then word? as cs else none

mutual

/-- The value at the front, after spaces. -/
def value? : Nat → List Char → Option (Written × List Char)
  | 0, _ => none
  | fuel + 1, cs =>
    match skip cs with
    | [] => none
    | c :: rest =>
      if c == 'n' then (word? ['u', 'l', 'l'] rest).map (.null, ·)
      else if c == 't' then (word? ['r', 'u', 'e'] rest).map (.bool true, ·)
      else if c == 'f' then (word? ['a', 'l', 's', 'e'] rest).map (.bool false, ·)
      else if c == '-' then (number? true rest).map fun r => (.number r.1, r.2)
      else if c.isDigit then (number? false (c :: rest)).map fun r => (.number r.1, r.2)
      else if c == '"' then (quoted? rest).map fun r => (.string r.1, r.2)
      else if c == '[' then
        match skip rest with
        | ']' :: rest => some (.array [], rest)
        | _ => (items? fuel rest).map fun r => (.array r.1, r.2)
      else if c == '\x7b' then
        match skip rest with
        | '\x7d' :: rest => some (.object [], rest)
        | _ => (members? fuel rest).map fun r => (.object r.1, r.2)
      else none

/-- The items up to the closing bracket. -/
def items? : Nat → List Char → Option (List Written × List Char)
  | 0, _ => none
  | fuel + 1, cs =>
    match value? fuel cs with
    | none => none
    | some (v, rest) =>
      match skip rest with
      | ',' :: rest => (items? fuel rest).map fun r => (v :: r.1, r.2)
      | ']' :: rest => some ([v], rest)
      | _ => none

/-- The members up to the closing brace. -/
def members? : Nat → List Char → Option (List (Quoted × Written) × List Char)
  | 0, _ => none
  | fuel + 1, cs =>
    match skip cs with
    | '"' :: rest =>
      match quoted? rest with
      | none => none
      | some (name, rest) =>
        match skip rest with
        | ':' :: rest =>
          match value? fuel rest with
          | none => none
          | some (v, rest) =>
            match skip rest with
            | ',' :: rest => (members? fuel rest).map fun r => ((name, v) :: r.1, r.2)
            | '\x7d' :: rest => some ([(name, v)], rest)
            | _ => none
        | _ => none
    | _ => none

end

/-- The one value a text consists of. -/
def scan? (text : String) : Option Written :=
  let cs := text.toList
  match value? (2 * cs.length + 2) cs with
  | some (v, rest) => if skip rest = [] then some v else none
  | none => none

mutual

/-- The value of a written one, with at most `depth` containers around any part. Nothing when a
string is not sound or a number out of range. -/
def settle? (depth : Nat) : Written → Option Json
  | .null => some .null
  | .bool b => some (.bool b)
  | .number n => n.map .number
  | .string q => if q.sound then some (.string q.text) else none
  | .array items =>
    match depth with
    | 0 => none
    | depth + 1 => (settleItems? depth items).map .array
  | .object members =>
    match depth with
    | 0 => none
    | depth + 1 => (settleMembers? depth members).map fun ms => .object (Json.settle ms)

/-- The values of the items of an array. -/
def settleItems? (depth : Nat) : List Written → Option (List Json)
  | [] => some []
  | w :: ws => do
    let v ← settle? depth w
    let vs ← settleItems? depth ws
    return v :: vs

/-- The values of the members of an object. -/
def settleMembers? (depth : Nat) : List (Quoted × Written) → Option (List (String × Json))
  | [] => some []
  | (name, w) :: ws =>
    if name.sound then do
      let v ← settle? depth w
      let vs ← settleMembers? depth ws
      return (name.text, v) :: vs
    else none

end

end Written

/-- How messages speak of a text that cannot be read as JSON. -/
def unreadableDetail : String := "<json error>"

/-- How many containers may stand around a value. -/
def maxDepth : Nat := 127

/-- The value of a JSON text. -/
def read? (text : String) : Option Json :=
  (Written.scan? text).bind (Written.settle? maxDepth)

end ElmAssist.Json
