import ElmAssist.Text.Digit

/-!
# Text — Colour escapes

Tools colour their output with `ESC [ digits m`. Removing the escapes goes from left to right once;
the escape character itself may be missing.
-/

namespace ElmAssist.Text

/-- What follows `digits m`, when there is at least one digit. -/
def afterColour? (cs : List Char) : Option (List Char) :=
  match cs with
  | [] => none
  | d :: rest =>
    if isDecimalDigit d then
      match rest.dropWhile isDecimalDigit with
      | 'm' :: rest => some rest
      | _ => none
    else none

/-- What follows an escape at the front. -/
def afterEscape? (cs : List Char) : Option (List Char) :=
  match cs with
  | '\x1b' :: '[' :: rest => afterColour? rest
  | '[' :: rest => afterColour? rest
  | _ => none

/-- The characters without escapes, looking at no more than `fuel` of them. -/
def dropEscapes : Nat → List Char → List Char
  | 0, cs => cs
  | _ + 1, [] => []
  | fuel + 1, c :: cs =>
    match afterEscape? (c :: cs) with
    | some rest => dropEscapes fuel rest
    | none => c :: dropEscapes fuel cs

/-- The text without colour escapes. -/
def stripColours (s : String) : String :=
  String.ofList (dropEscapes s.toList.length s.toList)

end ElmAssist.Text
