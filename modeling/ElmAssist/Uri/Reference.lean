/-!
# Uri — References

The generic grammar of uri references, absolute and relative. Only ASCII characters stand in one;
any other has to be escaped. Between brackets stands an address of the sixth version; no later one
is known.
-/

namespace ElmAssist.Uri

/-- Letters, digits and `-._~`. -/
def isUnreserved (c : Char) : Bool :=
  c.isAlphanum || c == '-' || c == '.' || c == '_' || c == '~'

/-- The characters `!$&'()*+,;=`. -/
def isSubDelim (c : Char) : Bool :=
  ['!', '$', '&', '\'', '(', ')', '*', '+', ',', ';', '='].contains c

/-- A hexadecimal digit. -/
def isHex (c : Char) : Bool :=
  c.isDigit || ('a' ≤ c && c ≤ 'f') || ('A' ≤ c && c ≤ 'F')

/-- Every character is of the class, or part of a whole escape. -/
def escapedAll (cls : Char → Bool) : List Char → Bool
  | [] => true
  | '%' :: a :: b :: rest => isHex a && isHex b && escapedAll cls rest
  | c :: rest => c != '%' && cls c && escapedAll cls rest

/-- A character of a path segment. -/
def isPathChar (c : Char) : Bool :=
  isUnreserved c || isSubDelim c || c == ':' || c == '@'

/-- The characters of a query or fragment are well formed. -/
def isTail (cs : List Char) : Bool :=
  escapedAll (fun c => isPathChar c || c == '/' || c == '?') cs

/-- The characters of a path are well formed. -/
def isPath (cs : List Char) : Bool :=
  escapedAll (fun c => isPathChar c || c == '/') cs

/-- Pieces between occurrences of a character: always at least one. -/
def splitAt (x : Char) : List Char → List (List Char)
  | [] => [[]]
  | c :: cs =>
    if c = x then [] :: splitAt x cs
    else match splitAt x cs with
      | [] => [[c]]
      | p :: ps => (c :: p) :: ps

/-- One to four hexadecimal digits. -/
def isGroup (cs : List Char) : Bool :=
  1 ≤ cs.length && cs.length ≤ 4 && cs.all isHex

/-- A number from 0 to 255 without leading zeros. -/
def isOctet (cs : List Char) : Bool :=
  match cs with
  | [] => false
  | ['0'] => true
  | c :: _ =>
    c != '0' && cs.length ≤ 3 && cs.all Char.isDigit &&
      cs.foldl (fun n d => n * 10 + (d.toNat - 48)) 0 ≤ 255

/-- Four numbers with dots between them. -/
def isDotted (cs : List Char) : Bool :=
  let parts := splitAt '.' cs
  parts.length == 4 && parts.all isOctet

/-- The 16-bit groups that pieces between colons stand for; the last may be a dotted address of two
groups when `tail` holds. -/
def groupCount? (tail : Bool) : List (List Char) → Option Nat
  | [] => some 0
  | [p] => if isGroup p then some 1 else if tail && isDotted p then some 2 else none
  | p :: rest => if isGroup p then (groupCount? tail rest).map (· + 1) else none

/-- The groups on one side of a double colon. -/
def sideCount? (tail : Bool) (cs : List Char) : Option Nat :=
  if cs = [] then some 0 else groupCount? tail (splitAt ':' cs)

/-- What stands before and after the first double colon. -/
def splitDouble : List Char → Option (List Char × List Char)
  | ':' :: ':' :: rest => some ([], rest)
  | c :: rest => (splitDouble rest).map fun r => (c :: r.1, r.2)
  | [] => none

/-- An address of eight groups; a double colon stands for one or more groups of zeros. -/
def isAddress6 (cs : List Char) : Bool :=
  match splitDouble cs with
  | none => sideCount? true cs == some 8
  | some (before, after) =>
    match sideCount? false before, sideCount? true after with
    | some a, some b => a + b ≤ 7
    | _, _ => false

/-- A host and an optional port. -/
def isHostPort (cs : List Char) : Bool :=
  match cs with
  | '[' :: rest =>
    let address := rest.takeWhile (· != ']')
    isAddress6 address &&
      match rest.drop address.length with
      | [']'] => true
      | ']' :: ':' :: port => port.all Char.isDigit
      | _ => false
  | _ =>
    let host := cs.takeWhile (· != ':')
    escapedAll (fun c => isUnreserved c || isSubDelim c) host &&
      match cs.drop host.length with
      | [] => true
      | _ :: port => port.all Char.isDigit

/-- An authority: optional user information before an at sign, host and port. -/
def isAuthority (cs : List Char) : Bool :=
  if cs.contains '@' then
    let user := cs.takeWhile (· != '@')
    escapedAll (fun c => isUnreserved c || isSubDelim c || c == ':') user &&
      isHostPort (cs.drop (user.length + 1))
  else isHostPort cs

/-- The part before a query or fragment, after the scheme. `bare` when there is no scheme: then no
colon stands in the first segment of a relative path. -/
def isHierarchy (bare : Bool) (cs : List Char) : Bool :=
  match cs with
  | '/' :: '/' :: rest =>
    let authority := rest.takeWhile (· != '/')
    isAuthority authority && isPath (rest.drop authority.length)
  | _ => isPath cs && !(bare && (cs.takeWhile (· != '/')).contains ':')

/-- A scheme: a letter, then letters, digits and `+-.`. -/
def isScheme (cs : List Char) : Bool :=
  match cs with
  | c :: rest => c.isAlpha && rest.all fun c => c.isAlphanum || c == '+' || c == '-' || c == '.'
  | [] => false

/-- A text is a uri reference. -/
def isReference (uri : String) : Bool :=
  let cs := uri.toList
  let main := cs.takeWhile (· != '#')
  let fragment := (cs.drop main.length).drop 1
  let front := main.takeWhile (· != '?')
  let query := (main.drop front.length).drop 1
  let scheme := front.takeWhile fun c => c != ':' && c != '/'
  isTail fragment && isTail query &&
    match front.drop scheme.length with
    | ':' :: rest => isScheme scheme && isHierarchy false rest
    | _ => isHierarchy true front

end ElmAssist.Uri
