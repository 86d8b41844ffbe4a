import ElmAssist.Disk.Path
import ElmAssist.Text.Blank
import ElmAssist.Uri.Host

/-!
# Uri — File uris

The uri of a local path, and the local path of a uri.

`path?` reads as browsers do: control characters and blanks around the uri and line breaks in it do
not count, a backslash is a slash, dot segments are folded (also when their dots are escaped), and
a first segment such as `C:` is a drive that `..` does not leave. The host has to be absent or
`localhost`, but for a path on a drive, where any will do.
-/

namespace ElmAssist.Uri

/-- The text of an absolute path's uri: dots are kept, other spellings of a path fall together. -/
def ofPath (p : Path) : String :=
  let segments := p.components.filter (· != .root)
  let body := segments.flatMap fun c => '/' :: encodeSegment c.bytes
  "file://" ++ String.ofList (if body = [] then ['/'] else body)

/-- The absolute path a path names from a working directory. The empty path names the root. -/
def absolute (cwd p : Path) : Path :=
  if p.isAbsolute then p
  else if p.bytes = [] then ⟨[Path.slash]⟩
  else .ofComponents (cwd.components ++ p.components.filter (· != .current))

/-- The character is skipped wherever it stands. -/
def isSkipped (c : Char) : Bool :=
  c == '\t' || c == '\n' || c == '\r'

/-- The characters from the first that is not skipped. -/
def dropSkipped (cs : List Char) : List Char :=
  cs.dropWhile isSkipped

/-- What follows a word in lower case, which may be in any case. -/
def afterWord? : List Char → List Char → Option (List Char)
  | [], cs => some cs
  | _ :: _, [] => none
  | w :: word, c :: cs =>
    if isSkipped c then afterWord? (w :: word) cs
    else if c.toLower = w then afterWord? word cs
    else none

/-- What follows the scheme `file`. -/
def afterFileScheme? (uri : String) : Option (List Char) :=
  afterWord? ['f', 'i', 'l', 'e', ':'] (Text.stripChars (· ≤ ' ') uri.toList)

/-- The character separates segments. -/
def isSeparator (c : Char) : Bool :=
  c == '/' || c == '\\'

/-- The character ends the path. -/
def endsPath (c : Char) : Bool :=
  c == '?' || c == '#'

/-- A letter and a colon or bar. -/
def isDrive (segment : List Char) : Bool :=
  match segment with
  | [a, b] => a.isAlpha && (b == ':' || b == '|')
  | _ => false

/-- A letter and a colon. -/
def isPlainDrive (segment : List Char) : Bool :=
  isDrive segment && segment.getLast? == some ':'

/-- A segment with each escaped dot as a dot. -/
def plainDots : List Char → List Char
  | '%' :: '2' :: e :: rest =>
    if e == 'e' || e == 'E' then '.' :: plainDots rest
    else '%' :: '2' :: plainDots (e :: rest)
  | c :: rest => c :: plainDots rest
  | [] => []

/-- A path being read: its characters so far, last first, and whether a drive at its front made the
host irrelevant. -/
structure Trail where
  back : List Char
  drive : Bool

namespace Trail

/-- The path ends with a slash that separates two segments, of which the first is no drive. -/
def slashIsFree (back : List Char) : Bool :=
  match back with
  | '/' :: before =>
    before.contains '/' && !isDrive (before.takeWhile (· != '/')).reverse
  | _ => false

/-- The path without what stands after its last slash, unless that is a drive. -/
def pop (back : List Char) : List Char :=
  if isPlainDrive (back.takeWhile (· != '/')).reverse then back else back.dropWhile (· != '/')

/-- There is nothing but one character, the first slash. -/
def isFresh (back : List Char) : Bool :=
  match back with
  | [_] => true
  | _ => false

/-- The path ends with a slash. -/
def closed (back : List Char) : Bool :=
  back.head? == some '/'

/-- The path after a whole segment. `literal` segments are not dots nor drives. -/
def add (t : Trail) (segment : List Char) (literal slash : Bool) : Trail :=
  let dots := plainDots segment
  if !literal && dots == ['.', '.'] then
    let back := pop (if slashIsFree t.back then t.back.tail else t.back)
    { t with back := if slash && !closed back then '/' :: back else back }
  else if !literal && dots == ['.'] then
    { t with back := if closed t.back then t.back else '/' :: t.back }
  else if !literal && isFresh t.back && isDrive segment then
    let back := ':' :: segment.take 1 ++ t.back
    ⟨if slash then '/' :: back else back, true⟩
  else
    let back := segment.reverse ++ t.back
    { t with back := if slash then '/' :: back else back }

/-- Reads the path up to its end. `segment` holds the characters since the last slash, last first,
and `gap` says that a skipped character stands behind them: then a drive ends here, even without a
slash. -/
def read (t : Trail) (segment : List Char) (literal gap : Bool) : List Char → Trail
  | [] => t.add segment.reverse literal false
  | c :: cs =>
    if isSkipped c then read t segment literal true cs
    else if endsPath c then t.add segment.reverse literal false
    else if isSeparator c then read (t.add segment.reverse literal true) [] false false cs
    else if gap && isFresh t.back && isPlainDrive segment.reverse then
      read t (c :: '/' :: segment) true false cs
    else read t (c :: segment) literal false cs

/-- The path that starts with some characters, last first, and goes on with others. -/
def of (back cs : List Char) : Trail :=
  read ⟨back, false⟩ [] false false cs

/-- The path read, with one slash at its front. -/
def path (t : Trail) : List Char :=
  '/' :: t.back.reverse.dropWhile (· == '/')

end Trail

/-- The path after two slashes, when it is on this machine. -/
def hostPath? (cs : List Char) : Option (List Char) :=
  let front := cs.takeWhile fun c => !isSeparator c && !endsPath c
  let host := front.filter (!isSkipped ·)
  let after := cs.drop front.length
  if host = [] then some (Trail.of ['/'] after).path
  else if isDrive host then some (Trail.of ['/'] cs).path
  else match Host.ofChars host with
    | .malformed => none
    | .here => some (Trail.of ['/'] after).path
    | .elsewhere =>
      let t := Trail.of ['/'] (if after.head?.any isSeparator then after.tail else after)
      if t.drive then some t.path else none

/-- The path after the scheme, when it is on this machine. -/
def localPath? (cs : List Char) : Option (List Char) :=
  match dropSkipped cs with
  | [] => some (Trail.of ['/'] []).path
  | a :: rest =>
    if !isSeparator a then some (Trail.of ['/'] cs).path
    else match dropSkipped rest with
      | [] => some (Trail.of [] cs).path
      | b :: rest => if isSeparator b then hostPath? rest else some (Trail.of [] cs).path

/-- A drive at the end of a path is followed by a slash. -/
def closeDrive (bs : List UInt8) : List UInt8 :=
  match bs.reverse with
  | b :: a :: _ :: _ =>
    if (Char.ofNat a.toNat).isAlpha && (b == 0x3A || b == 0x7C) then bs ++ [Path.slash] else bs
  | _ => bs

/-- The local path of a file uri. -/
def path? (uri : String) : Option Path := do
  let rest ← afterFileScheme? uri
  let chars ← localPath? rest
  return ⟨closeDrive (decodeEscapes (Text.encode (String.ofList chars)))⟩

end ElmAssist.Uri
