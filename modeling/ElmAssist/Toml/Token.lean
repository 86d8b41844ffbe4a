import ElmAssist.Double
import ElmAssist.Toml.Table

/-!
# Toml — Tokens

Strings, numbers, dates and keys, read from the front of a list of characters. Each reader gives
what it read and the rest.
-/

namespace ElmAssist.Toml

/-- A blank inside a line. -/
def isBlank (c : Char) : Bool := c == ' ' || c == '\t'

/-- The rest after blanks. -/
def skipBlanks (cs : List Char) : List Char := cs.dropWhile isBlank

/-- The rest after a line break. -/
def newline? : List Char → Option (List Char)
  | '\n' :: cs => some cs
  | '\r' :: '\n' :: cs => some cs
  | _ => none

/-- The rest after blanks and line breaks. -/
def skipSpace : List Char → List Char
  | '\n' :: cs => skipSpace cs
  | '\r' :: '\n' :: cs => skipSpace cs
  | c :: cs => if isBlank c then skipSpace cs else c :: cs
  | [] => []

/-- The character stands for itself in strings and comments: no control character but the tab. -/
def isPlain (c : Char) : Bool :=
  c == '\t' || (' ' ≤ c && c.toNat != 0x7F)

/-- The rest after a comment, if one stands at the front. -/
def skipComment : List Char → List Char
  | '#' :: cs => cs.dropWhile isPlain
  | cs => cs

/-! ### Strings -/

/-- The value of a hexadecimal digit. -/
def hex? (c : Char) : Option Nat :=
  if '0' ≤ c && c ≤ '9' then some (c.toNat - 48)
  else if 'a' ≤ c && c ≤ 'f' then some (c.toNat - 87)
  else if 'A' ≤ c && c ≤ 'F' then some (c.toNat - 55)
  else none

/-- The value of `n` hexadecimal digits, after the value of those before them. -/
def hexRun? : Nat → Nat → List Char → Option (Nat × List Char)
  | 0, value, cs => some (value, cs)
  | n + 1, value, c :: cs => (hex? c).bind fun d => hexRun? n (value * 16 + d) cs
  | _ + 1, _, [] => none

/-- The character of a code in `n` digits. -/
def code? (n : Nat) (cs : List Char) : Option (Char × List Char) :=
  (hexRun? n 0 cs).bind fun r =>
    if r.1.isValidChar then some (Char.ofNat r.1, r.2) else none

/-- The character of an escape, after its backslash. -/
def escape? : List Char → Option (Char × List Char)
  | 'b' :: cs => some ('\x08', cs)
  | 't' :: cs => some ('\t', cs)
  | 'n' :: cs => some ('\n', cs)
  | 'f' :: cs => some ('\x0c', cs)
  | 'r' :: cs => some ('\r', cs)
  | '"' :: cs => some ('"', cs)
  | '\\' :: cs => some ('\\', cs)
  | 'u' :: cs => code? 4 cs
  | 'U' :: cs => code? 8 cs
  | _ => none

/-- The rest of a string in quotes. -/
def quoted? : Nat → List Char → Option (List Char × List Char)
  | 0, _ | _, [] => none
  | _ + 1, '"' :: cs => some ([], cs)
  | fuel + 1, '\\' :: cs => do
    let (c, cs) ← escape? cs
    let (text, cs) ← quoted? fuel cs
    return (c :: text, cs)
  | fuel + 1, c :: cs =>
    if isPlain c then (quoted? fuel cs).map fun r => (c :: r.1, r.2) else none

/-- The quotes at the front that belong to a string of several lines, after the three that close
it: at most two. -/
def lastQuotes (quote : Char) : List Char → List Char × List Char
  | a :: b :: cs =>
    if a = quote then if b = quote then ([a, b], cs) else ([a], b :: cs) else ([], a :: b :: cs)
  | [a] => if a = quote then ([a], []) else ([], [a])
  | [] => ([], [])

/-- The rest after the backslash at the end of a line, with the blank start of the next ones. -/
def lineJoin? (cs : List Char) : Option (List Char) :=
  (newline? (skipBlanks cs)).map skipSpace

/-- The rest of a string in three quotes. -/
def quotedLines? : Nat → List Char → Option (List Char × List Char)
  | 0, _ | _, [] => none
  | _ + 1, '"' :: '"' :: '"' :: cs => some (lastQuotes '"' cs)
  | fuel + 1, '\\' :: cs =>
    match lineJoin? cs with
    | some cs => quotedLines? fuel cs
    | none => do
      let (c, cs) ← escape? cs
      let (text, cs) ← quotedLines? fuel cs
      return (c :: text, cs)
  | fuel + 1, c :: cs =>
    match newline? (c :: cs) with
    | some cs => (quotedLines? fuel cs).map fun r => ('\n' :: r.1, r.2)
    | none => if isPlain c then (quotedLines? fuel cs).map fun r => (c :: r.1, r.2) else none

/-- The rest of a string in apostrophes. -/
def literal? : List Char → Option (List Char × List Char)
  | [] => none
  | c :: cs =>
    if c = '\x27' then some ([], cs)
    else if isPlain c then (literal? cs).map fun r => (c :: r.1, r.2)
    else none

/-- The rest of a string in three apostrophes. -/
def literalLines? : Nat → List Char → Option (List Char × List Char)
  | 0, _ | _, [] => none
  | _ + 1, '\x27' :: '\x27' :: '\x27' :: cs => some (lastQuotes '\x27' cs)
  | fuel + 1, c :: cs =>
    match newline? (c :: cs) with
    | some cs => (literalLines? fuel cs).map fun r => ('\n' :: r.1, r.2)
    | none => if isPlain c then (literalLines? fuel cs).map fun r => (c :: r.1, r.2) else none

/-- The rest after a line break, if one stands at the front. -/
def skipNewline (cs : List Char) : List Char :=
  (newline? cs).getD cs

/-- A string of any of the four forms. -/
def string? (cs : List Char) : Option (List Char × List Char) :=
  match cs with
  | '"' :: '"' :: '"' :: cs => quotedLines? (cs.length + 1) (skipNewline cs)
  | '"' :: cs => quoted? (cs.length + 1) cs
  | '\x27' :: '\x27' :: '\x27' :: cs => literalLines? (cs.length + 1) (skipNewline cs)
  | '\x27' :: cs => literal? cs
  | _ => none

/-! ### Numbers -/

/-- Digits, where one underscore may stand between two of them. The characters before the run are
digits. -/
def digitsAfter? (isDigit : Char → Bool) : List Char → Option (List Char × List Char)
  | '_' :: d :: cs =>
    if isDigit d then (digitsAfter? isDigit cs).map fun r => (d :: r.1, r.2) else none
  | ['_'] => none
  | c :: cs =>
    if isDigit c then (digitsAfter? isDigit cs).map fun r => (c :: r.1, r.2)
    else some ([], c :: cs)
  | [] => some ([], [])

/-- One or more digits, where one underscore may stand between two of them. -/
def digits? (isDigit : Char → Bool) : List Char → Option (List Char × List Char)
  | c :: cs =>
    if isDigit c then (digitsAfter? isDigit cs).map fun r => (c :: r.1, r.2) else none
  | [] => none

/-- The digits of a whole number in tens: a leading zero stands alone. -/
def whole? : List Char → Option (List Char × List Char)
  | '0' :: cs => some (['0'], cs)
  | cs => digits? Char.isDigit cs

/-- The value of digits in a base. -/
def valueOf (base : Nat) (ds : List Char) : Nat :=
  ds.foldl (fun n d => n * base + (hex? d).getD 0) 0

/-- A sign at the front: whether it is a minus, and whether there is one. -/
def sign : List Char → Bool × Bool × List Char
  | '+' :: cs => (false, true, cs)
  | '-' :: cs => (true, true, cs)
  | cs => (false, false, cs)

/-- The digits after a point, if one stands at the front. -/
def fraction? : List Char → Option (List Char × List Char)
  | '.' :: cs => digits? Char.isDigit cs
  | cs => some ([], cs)

/-- The power after an `e`, if one stands at the front. -/
def power? : List Char → Option (Option Int × List Char)
  | e :: cs =>
    if e = 'e' || e = 'E' then
      let (negative, _, cs) := sign cs
      (digits? Char.isDigit cs).map fun r =>
        let n : Int := valueOf 10 r.1
        (some (if negative then -n else n), r.2)
    else some (none, e :: cs)
  | [] => some (none, [])

/-- The decimal is finite as a double: `digits` times ten to the power. -/
def isFinite (digits : Nat) (power : Int) : Bool :=
  if digits = 0 || power < -400 && digits < Nat.pow 10 400 then true
  else if 400 < power then false
  else digits * Nat.pow 10 power.toNat < Double.overflow * Nat.pow 10 (-power).toNat

/-- The integer of 64 bits with a sign. -/
def integer? (negative : Bool) (n : Nat) : Option Value :=
  if negative then if n ≤ Nat.pow 2 63 then some (.integer (-(n : Int))) else none
  else if n < Nat.pow 2 63 then some (.integer n) else none

/-- The digits of a base and its letter after a zero. -/
def baseOf? : Char → Option (Nat × (Char → Bool))
  | 'x' => some (16, fun c => (hex? c).isSome)
  | 'o' => some (8, fun c => '0' ≤ c && c ≤ '7')
  | 'b' => some (2, fun c => c == '0' || c == '1')
  | _ => none

/-- The value ends the text or is followed by something else. -/
def word? (word : List Char) (cs : List Char) : Option (List Char) :=
  if word.isPrefixOf cs then some (cs.drop word.length) else none

/-- A number in tens, after its sign. A positive float has to be finite. -/
def decimal? (negative : Bool) (cs : List Char) : Option (Value × List Char) := do
  let (whole, rest) ← whole? cs
  let (places, rest) ← fraction? rest
  let (power, rest) ← power? rest
  if places = [] && power.isNone then
    let v ← integer? negative (valueOf 10 whole)
    return (v, rest)
  else
    let finite := isFinite (valueOf 10 (whole ++ places)) (power.getD 0 - places.length)
    if negative || finite then
      return (.float (String.ofList (cs.take (cs.length - rest.length))), rest)
    else none

/-- A number. -/
def number? (cs : List Char) : Option (Value × List Char) :=
  let (negative, signed, rest) := sign cs
  match word? ['i', 'n', 'f'] rest, word? ['n', 'a', 'n'] rest with
  | some after, _ => some (.float "inf", after)
  | _, some after => some (.float "nan", after)
  | none, none =>
    match rest with
    | '0' :: letter :: ds =>
      match if signed then none else baseOf? letter with
      | some (base, isDigit) => do
        let (ds, after) ← digits? isDigit ds
        let v ← integer? false (valueOf base ds)
        return (v, after)
      | none => decimal? negative rest
    | _ => decimal? negative rest

/-! ### Dates and times -/

/-- A number of two digits within bounds. -/
def two? (low high : Nat) : List Char → Option (Nat × List Char)
  | a :: b :: cs =>
    let n := (a.toNat - 48) * 10 + (b.toNat - 48)
    if a.isDigit && b.isDigit && low ≤ n && n ≤ high then some (n, cs) else none
  | _ => none

/-- The rest after one character. -/
def skipChar? (c : Char) : List Char → Option (List Char)
  | d :: cs => if c = d then some cs else none
  | [] => none

/-- The days of a month. -/
def daysOf (year month : Nat) : Nat :=
  if month = 2 then
    if year % 4 = 0 && (year % 100 != 0 || year % 400 = 0) then 29 else 28
  else if month = 4 || month = 6 || month = 9 || month = 11 then 30
  else 31

/-- The rest after a time of day. -/
def time? (cs : List Char) : Option (List Char) := do
  let (_, cs) ← two? 0 23 cs
  let (_, cs) ← two? 0 59 (← skipChar? ':' cs)
  let (_, cs) ← two? 0 60 (← skipChar? ':' cs)
  match cs with
  | '.' :: c :: rest => if c.isDigit then some (rest.dropWhile Char.isDigit) else none
  | ['.'] => none
  | _ => some cs

/-- The rest after the offset of a time, if one stands at the front. -/
def skipOffset (cs : List Char) : List Char :=
  match cs with
  | c :: rest =>
    if c = 'Z' || c = 'z' then rest
    else if c = '+' || c = '-' then
      ((two? 0 23 rest).bind fun h => (skipChar? ':' h.2).bind fun m =>
        (two? 0 59 m).map Prod.snd).getD cs
    else cs
  | [] => []

/-- The rest after a date, and the time of day after it if there is one. -/
def dateAndTime? (year : Nat) (cs : List Char) : Option (List Char) := do
  let (month, cs) ← two? 1 12 cs
  let (day, cs) ← two? 1 31 (← skipChar? '-' cs)
  if daysOf year month < day then none
  else match cs with
    | c :: rest =>
      if c = 'T' || c = 't' || c = ' ' then
        match rest with
        | h :: m :: ':' :: _ =>
          if h.isDigit && m.isDigit then (time? rest).map skipOffset else some cs
        | _ => some cs
      else some cs
    | [] => some []

/-- A date or a time at the front, when the characters begin like one. -/
def moment? (cs : List Char) : Option (Option (List Char)) :=
  match cs with
  | a :: b :: ':' :: _ => if a.isDigit && b.isDigit then some (time? cs) else none
  | a :: b :: c :: d :: '-' :: rest =>
    let year := [a, b, c, d]
    if year.all Char.isDigit then some (dateAndTime? (valueOf 10 year) rest) else none
  | _ => none

/-- A number, a date or a time. -/
def quantity? (cs : List Char) : Option (Value × List Char) :=
  match moment? cs with
  | some rest => rest.map fun rest =>
      (.moment (String.ofList (cs.take (cs.length - rest.length))), rest)
  | none => number? cs

/-! ### Keys -/

/-- The character may stand in a key without quotes. -/
def isBare (c : Char) : Bool :=
  c.isAlphanum || c == '_' || c == '-'

/-- One part of a key. -/
def keyPart? (cs : List Char) : Option (String × List Char) :=
  match cs with
  | '"' :: rest => (quoted? (rest.length + 1) rest).map fun r => (String.ofList r.1, r.2)
  | '\x27' :: rest => (literal? rest).map fun r => (String.ofList r.1, r.2)
  | _ =>
    let part := cs.takeWhile isBare
    if part = [] then none else some (String.ofList part, cs.drop part.length)

/-- The parts of a key, with points between them. -/
def keyParts? : Nat → List Char → Option (List String × List Char)
  | 0, _ => none
  | fuel + 1, cs => do
    let (part, cs) ← keyPart? (skipBlanks cs)
    match skipBlanks cs with
    | '.' :: cs => (keyParts? fuel cs).map fun r => (part :: r.1, r.2)
    | cs => return ([part], cs)

/-- One more than the greatest number of parts of a key, and of containers around a value. -/
def depthBound : Nat := 80

/-- The parts of a key before its last one, and the last one. -/
def key? (cs : List Char) : Option (List String × String × List Char) := do
  let (parts, cs) ← keyParts? depthBound cs
  if parts.length < depthBound then
    let name ← parts.getLast?
    return (parts.dropLast, name, cs)
  else none

end ElmAssist.Toml
