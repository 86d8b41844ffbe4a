import ElmAssist.Domain.Mark

/-!
# Domain — Normal form

A letter and its marks can be written as one character or as several. In the normal form marks are in
the order of their classes, and what one character stands for is written as that character
(Unicode 17). Only what is written as itself in a domain name is considered.
-/

namespace ElmAssist.Domain

/-- The pairs that one character stands for: the second one of each, the first ones, and what stands
for them. -/
def pairs : List (Nat × String × String) :=
  [(0x300, "aeinouwyâêôüăēōơưαεηιουωϊϋеиἀἁἐἑἠἡἰἱὀὁὐὑ", "àèìǹòùẁỳầềồǜằḕṑờừὰὲὴὶὸὺὼῒῢѐѝἂἃἒἓἢἣἲἳὂὃὒὓ"),
   (0x300, "ὠὡ", "ὢὣ"),
   (0x301, "acegiklmnoprsuwyzâåæçêïôõøüăēōũơưαεηιουω", "áćéǵíḱĺḿńóṕŕśúẃýźấǻǽḉếḯốṍǿǘắḗṓṹớứάέήίόύώ"),
   (0x301, "ϊϋгкἀἁἐἑἠἡἰἱὀὁὐὑὠὡ", "ΐΰѓќἄἅἔἕἤἥἴἵὄὅὔὕὤὥ"),
   (0x302, "aceghijosuwyzạẹọ", "âĉêĝĥîĵôŝûŵŷẑậệộ"), (0x303, "aeinouvyâêôăơư", "ãẽĩñõũṽỹẫễỗẵỡữ"),
   (0x304, "aegiouyäæõöüǫȧȯαιυиуḷṛ", "āēḡīōūȳǟǣȭȫǖǭǡȱᾱῑῡӣӯḹṝ"),
   (0x306, "aegiouȩαιυаежиуạ", "ăĕğĭŏŭḝᾰῐῠӑӗӂйўặ"),
   (0x307, "abcdefghmnoprstwxyzśšṣ𐗒𐗚", "ȧḃċḋėḟġḣṁṅȯṗṙṡṫẇẋẏżṥṧṩ𐗉𐗤"),
   (0x308, "aehiotuwxyõūιυаежзиоучыэіәө", "äëḧïöẗüẅẍÿṏṻϊϋӓёӝӟӥӧӱӵӹӭїӛӫ"),
   (0x309, "aeiouyâêôăơư", "ảẻỉỏủỷẩểổẳởử"), (0x30A, "auwy", "åůẘẙ"), (0x30B, "ouу", "őűӳ"),
   (0x30C, "acdeghijklnorstuzüʒ", "ǎčďěǧȟǐǰǩľňǒřšťǔžǚǯ"), (0x30F, "aeioruѵ", "ȁȅȉȍȑȕѷ"),
   (0x311, "aeioru", "ȃȇȋȏȓȗ"), (0x313, "αεηιορυω", "ἀἐἠἰὀῤὐὠ"), (0x314, "αεηιορυω", "ἁἑἡἱὁῥὑὡ"),
   (0x31B, "ou", "ơư"), (0x323, "abdehiklmnorstuvwyzơư", "ạḅḍẹḥịḳḷṃṇọṛṣṭụṿẉỵẓợự"),
   (0x324, "u", "ṳ"), (0x325, "a", "ḁ"), (0x326, "st", "șț"), (0x327, "cdeghklnrst", "çḑȩģḩķļņŗşţ"),
   (0x328, "aeiou", "ąęįǫų"), (0x32D, "delntu", "ḓḙḽṋṱṷ"), (0x32E, "h", "ḫ"), (0x330, "eiu", "ḛḭṵ"),
   (0x331, "bdhklnrtz", "ḇḏẖḵḻṉṟṯẕ"),
   (0x338, "<=>←→↔⇐⇒⇔∃∈∋∣∥∼≃≅≈≍≡≤≥≲≳≶≷≺≻≼≽⊂⊃⊆⊇⊑⊒⊢⊨⊩⊫", "≮≠≯↚↛↮⇍⇏⇎∄∉∌∤∦≁≄≇≉≭≢≰≱≴≵≸≹⊀⊁⋠⋡⊄⊅⊈⊉⋢⋣⊬⊭⊮⊯"),
   (0x338, "⊲⊳⊴⊵", "⋪⋫⋬⋭"), (0x342, "αηιυωϊϋἀἁἠἡἰἱὐὑὠὡ", "ᾶῆῖῦῶῗῧἆἇἦἧἶἷὖὗὦὧ"),
   (0x653, "\u0627", "\u0622"),
   (0x654, "\u0627\u0648\u064a\u06c1\u06d2\u06d5", "\u0623\u0624\u0626\u06c2\u06d3\u06c0"),
   (0x655, "\u0627", "\u0625"), (0x93C, "नरळ", "ऩऱऴ"), (0x9BE, "\u09c7", "\u09cb"),
   (0x9D7, "\u09c7", "\u09cc"), (0xB3E, "\u0b47", "\u0b4b"), (0xB56, "\u0b47", "\u0b48"),
   (0xB57, "\u0b47", "\u0b4c"), (0xBBE, "\u0bc6\u0bc7", "\u0bca\u0bcb"),
   (0xBD7, "ஒ\u0bc6", "ஔ\u0bcc"), (0xC56, "\u0c46", "\u0c48"), (0xCC2, "\u0cc6", "\u0cca"),
   (0xCD5, "\u0cbf\u0cc6\u0cca", "\u0cc0\u0cc7\u0ccb"), (0xCD6, "\u0cc6", "\u0cc8"),
   (0xD3E, "\u0d46\u0d47", "\u0d4a\u0d4b"), (0xD57, "\u0d46", "\u0d4c"),
   (0xDCA, "\u0dd9\u0ddc", "\u0dda\u0ddd"), (0xDCF, "\u0dd9", "\u0ddc"),
   (0xDDF, "\u0dd9", "\u0dde"), (0x102E, "ဥ", "ဦ"),
   (0x1B35, "ᬅᬇᬉᬋᬍᬑ\u1b3a\u1b3c\u1b3e\u1b3f\u1b42", "ᬆᬈᬊᬌᬎᬒ\u1b3b\u1b3d\u1b40\u1b41\u1b43"),
   (0x3099, "うかきくけこさしすせそたちつてとはひふへほゝウカキクケコサシスセソタチツテトハヒ", "ゔがぎぐげござじずぜぞだぢづでどばびぶべぼゞヴガギグゲゴザジズゼゾダヂヅデドバビ"),
   (0x3099, "フヘホワヰヱヲヽ", "ブベボヷヸヹヺヾ"), (0x309A, "はひふへほハヒフヘホ", "ぱぴぷぺぽパピプペポ"), (0x110BA, "𑂙𑂛𑂥", "𑂚𑂜𑂫"),
   (0x11127, "𑄱𑄲", "𑄮𑄯"), (0x1133E, "𑍇", "𑍋"), (0x11357, "𑍇", "𑍌"), (0x113B8, "𑏂", "𑏇"),
   (0x113BB, "𑎄", "𑎅"), (0x113C2, "𑎎", "𑎎𑏅"), (0x113C9, "𑎂𑎐𑏂", "𑎃𑎑𑏈"), (0x114B0, "𑒹", "𑒼"),
   (0x114BA, "𑒹", "𑒻"), (0x114BD, "𑒹", "𑒾"), (0x115AF, "𑖸𑖹", "𑖺𑖻"), (0x11930, "𑤵", "𑤸"),
   (0x1611E, "𖄞", "𖄡"), (0x1611F, "𖄡𖄡𖄩𖄩", "𖄣𖄦𖄧𖄤"), (0x16120, "𖄡𖄞", "𖄥𖄨"), (0x16129, "𖄞", "𖄢"),
   (0x16D67, "𖵩𖵩", "𖵪𖵧𖵪")]

/-- First leading consonant, vowel and trailing consonant of the Korean syllables, and the first
syllable. -/
def koreanLead : Nat := 0x1100
@[inherit_doc koreanLead] def koreanVowel : Nat := 0x1161
@[inherit_doc koreanLead] def koreanTail : Nat := 0x11A7
@[inherit_doc koreanLead] def koreanSyllable : Nat := 0xAC00

/-- How many leading consonants, vowels and trailing consonants there are, no trailing one being the
first of them. -/
def koreanLeads : Nat := 19
@[inherit_doc koreanLeads] def koreanVowels : Nat := 21
@[inherit_doc koreanLeads] def koreanTails : Nat := 28

/-- The syllable of two numbers of code points: a consonant and a vowel, or such a syllable and a
trailing consonant. -/
def joinKorean? (a b : Nat) : Option Nat :=
  let syllables := koreanLeads * koreanVowels * koreanTails
  if koreanLead ≤ a && a < koreanLead + koreanLeads &&
      koreanVowel ≤ b && b < koreanVowel + koreanVowels then
    some (koreanSyllable +
      ((a - koreanLead) * koreanVowels + (b - koreanVowel)) * koreanTails)
  else if koreanSyllable ≤ a && a < koreanSyllable + syllables &&
      (a - koreanSyllable) % koreanTails == 0 &&
      koreanTail < b && b < koreanTail + koreanTails then
    some (a + (b - koreanTail))
  else none

/-- The two parts of a Korean syllable. -/
def partKorean? (n : Nat) : Option (Nat × Nat) :=
  let k := n - koreanSyllable
  if n < koreanSyllable || koreanLeads * koreanVowels * koreanTails ≤ k then none
  else if k % koreanTails == 0 then
    some (koreanLead + k / koreanTails / koreanVowels,
      koreanVowel + k / koreanTails % koreanVowels)
  else some (n - k % koreanTails, koreanTail + k % koreanTails)

/-- The character that stands for two. -/
def join? (a b : Char) : Option Char :=
  match joinKorean? a.toNat b.toNat with
  | some n => some (Char.ofNat n)
  | none =>
    (pairs.filter (·.1 == b.toNat)).findSome? fun (_, firsts, wholes) =>
      ((firsts.toList.zip wholes.toList).find? (·.1 == a)).map (·.2)

/-- The two characters that one stands for. -/
def part? (c : Char) : Option (Char × Char) :=
  match partKorean? c.toNat with
  | some (a, b) => some (Char.ofNat a, Char.ofNat b)
  | none =>
    pairs.findSome? fun (second, firsts, wholes) =>
      ((firsts.toList.zip wholes.toList).find? (·.2 == c)).map (·.1, Char.ofNat second)

/-- The most times that a character can be taken apart. -/
def maxParts : Nat := 4

/-- A character taken apart, at most `fuel` times. -/
def partsOf : Nat → Char → List Char
  | 0, c => [c]
  | fuel + 1, c =>
    match part? c with
    | some (a, b) => partsOf fuel a ++ partsOf fuel b
    | none => [c]

/-- Puts a mark behind characters in order, which are last first. -/
def putMark (c : Char) : List Char → List Char
  | [] => [c]
  | b :: back =>
    if combiningClass c != 0 && combiningClass c < combiningClass b then b :: putMark c back
    else c :: b :: back

/-- Marks in the order of their classes. -/
def inOrder (cs : List Char) : List Char :=
  (cs.foldl (fun back c => putMark c back) []).reverse

/-- A text being put together. Lists are last first. -/
structure Joining where
  /-- What is finished. -/
  done : List Char
  /-- The last letter, to which marks may still be joined. -/
  letter : Option Char
  /-- The marks that stay behind it. -/
  marks : List Char

namespace Joining

/-- Everything, last first. -/
def text (j : Joining) : List Char :=
  j.marks ++ j.letter.toList ++ j.done

/-- A mark of the class, or a letter, is cut off from the last letter. -/
def isCutOff (j : Joining) (k : Nat) : Bool :=
  match j.marks with
  | [] => false
  | m :: _ => k ≤ combiningClass m

/-- One more character. -/
def add (j : Joining) (c : Char) : Joining :=
  let joined := if j.isCutOff (combiningClass c) then none else j.letter.bind (join? · c)
  match joined with
  | some whole => { j with letter := some whole }
  | none =>
    if combiningClass c = 0 then ⟨j.text, some c, []⟩ else { j with marks := c :: j.marks }

end Joining

/-- The normal form of a text. -/
def normalForm (cs : List Char) : List Char :=
  ((inOrder (cs.flatMap (partsOf maxParts))).foldl Joining.add ⟨[], none, []⟩).text.reverse

end ElmAssist.Domain
