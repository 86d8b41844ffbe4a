import ElmAssist.Proofs.Disk.Path
import ElmAssist.Proofs.Text.ByteOrder
import ElmAssist.Uri.File

/-!
# Uri — Plain spellings

A path has many uris: what may stand for itself may be escaped, dot segments may be put in, the host
may be named. One of them is the plain one, which `ofPath` gives.

* `decodeEscapes_encodeSegment`: what is written for bytes is read back as the bytes.
* `read_body`: a reader that meets only names keeps every character.
* `path?_ofPath`: the plain uri of a direct path leads back to the steps of the path.
* `IsPlain`, `isPlain_ofPath`: the uris that are the plain ones of their paths.
* `IsPlain.unique`: two plain uris of one path are the same.
-/

namespace ElmAssist.Uri

open ElmAssist.Path (IsName slash)

/-! ### Escapes -/

/-- What stands for a byte in a segment. -/
def encodeByte (b : UInt8) : List Char :=
  if isPlain b then [Char.ofNat b.toNat] else escape b

theorem encodeSegment_cons (b : UInt8) (bs : List UInt8) :
    encodeSegment (b :: bs) = encodeByte b ++ encodeSegment bs := rfl

/-- The bytes of characters below 128. -/
def ascii (cs : List Char) : List UInt8 :=
  cs.map fun c => UInt8.ofNat c.toNat

theorem ascii_append (cs ds : List Char) : ascii (cs ++ ds) = ascii cs ++ ascii ds :=
  List.map_append

/-- A character that may stand in a segment: visible, and no sign of the reader's. -/
structure IsOrdinary (c : Char) : Prop where
  visible : ' ' < c
  small : c.toNat < 128
  joins : isSeparator c = false
  goes_on : endsPath c = false

instance (c : Char) : Decidable (IsOrdinary c) :=
  decidable_of_iff (' ' < c ∧ c.toNat < 128 ∧ isSeparator c = false ∧ endsPath c = false)
    ⟨fun ⟨a, b, c, d⟩ => ⟨a, b, c, d⟩, fun ⟨a, b, c, d⟩ => ⟨a, b, c, d⟩⟩

/-- What holds of each number below 256 holds of each byte. -/
theorem forall_byte {P : UInt8 → Prop} [DecidablePred P]
    (all : (List.range 256).all (fun n => P (UInt8.ofNat n)) = true) (b : UInt8) : P b := by
  have holds := List.all_eq_true.mp all b.toNat (List.mem_range.mpr b.toNat_lt)
  rw [UInt8.ofNat_toNat] at holds
  exact of_decide_eq_true holds

theorem ordinary_of_mem_encodeByte {b : UInt8} {c : Char} (mem : c ∈ encodeByte b) : IsOrdinary c := by
  have all : ∀ b, (encodeByte b).all (fun c => IsOrdinary c) = true := forall_byte (by decide +kernel)
  exact of_decide_eq_true (List.all_eq_true.mp (all b) c mem)

theorem ordinary_of_mem_encodeSegment {bs : List UInt8} {c : Char} (mem : c ∈ encodeSegment bs) :
    IsOrdinary c := by
  obtain ⟨b, -, mem⟩ := List.mem_flatMap.mp mem
  exact ordinary_of_mem_encodeByte mem

/-- A byte stands for itself, and is no sign of an escape, or is written as its two halves. -/
theorem encodeByte_cases : ∀ b : UInt8,
    ascii (encodeByte b) = [b] ∧ b ≠ 0x25 ∨
      ∃ x y, ascii (encodeByte b) = [0x25, x, y] ∧
        hexValue? x = some (b / 16) ∧ hexValue? y = some (b % 16) ∧ b / 16 * 16 + b % 16 = b := by
  have whole : ∀ b : UInt8,
      ascii (encodeByte b) = [b] ∧ b ≠ 0x25 ∨
        ascii (encodeByte b) = ascii (escape b) ∧
          hexValue? (UInt8.ofNat (hexUpper (b / 16)).toNat) = some (b / 16) ∧
          hexValue? (UInt8.ofNat (hexUpper (b % 16)).toNat) = some (b % 16) ∧
          b / 16 * 16 + b % 16 = b :=
    forall_byte (by decide +kernel)
  intro b
  rcases whole b with itself | ⟨written, high, low, sum⟩
  · exact Or.inl itself
  · exact Or.inr ⟨_, _, written, high, low, sum⟩

theorem encodeByte_ne_nil : ∀ b : UInt8, encodeByte b ≠ [] :=
  forall_byte (by decide +kernel)

theorem decodeEscapes_of_ne {b : UInt8} (other : b ≠ 0x25) (rest : List UInt8) :
    decodeEscapes (b :: rest) = b :: decodeEscapes rest := by
  rw [decodeEscapes]
  rintro x y rest rfl
  exact absurd rfl other

theorem decodeEscapes_escape {x y v w : UInt8} (high : hexValue? x = some v)
    (low : hexValue? y = some w) (rest : List UInt8) :
    decodeEscapes (0x25 :: x :: y :: rest) = (v * 16 + w) :: decodeEscapes rest := by
  rw [decodeEscapes]
  simp [high, low]

/-- **What is written for bytes is read back as the bytes.** -/
theorem decodeEscapes_encodeSegment (bs rest : List UInt8) :
    decodeEscapes (ascii (encodeSegment bs) ++ rest) = bs ++ decodeEscapes rest := by
  induction bs with
  | nil => rfl
  | cons b bs ih =>
    rw [encodeSegment_cons, ascii_append, List.append_assoc]
    rcases encodeByte_cases b with ⟨itself, other⟩ | ⟨x, y, written, high, low, sum⟩
    · rw [itself, List.singleton_append, decodeEscapes_of_ne other, ih, List.cons_append]
    · rw [written]
      simp only [List.cons_append, List.nil_append]
      rw [decodeEscapes_escape high low, sum, ih]

/-! ### Dots -/

/-- A segment that is read as dots is one that stands for them. -/
theorem decodeEscapes_of_dots (cs : List Char) (dots : ∀ c ∈ plainDots cs, c = '.') :
    decodeEscapes (ascii cs) = ascii (plainDots cs) := by
  fun_induction plainDots cs with
  | case1 e rest escaped ih =>
    have digit : hexValue? (UInt8.ofNat e.toNat) = some 0xE := by
      rcases Bool.or_eq_true_iff.mp escaped with same | same <;> obtain rfl := beq_iff_eq.mp same <;> rfl
    have decoded : decodeEscapes (ascii ('%' :: '2' :: e :: rest)) =
        (2 * 16 + 0xE) :: decodeEscapes (ascii rest) :=
      decodeEscapes_escape rfl digit _
    rw [decoded, ih fun c mem => dots c (List.mem_cons_of_mem _ mem)]
    rfl
  | case2 e rest =>
    exact absurd (dots '%' List.mem_cons_self) (by decide)
  | case3 c rest _ ih =>
    obtain rfl : c = '.' := dots c List.mem_cons_self
    have decoded : decodeEscapes (ascii ('.' :: rest)) = 0x2E :: decodeEscapes (ascii rest) :=
      decodeEscapes_of_ne (by decide) _
    rw [decoded, ih fun c mem => dots c (List.mem_cons_of_mem _ mem)]
    rfl
  | case4 => rfl

/-- What is written for a name is not read as dots. -/
theorem plainDots_encodeSegment {n : List UInt8} (name : IsName n) :
    plainDots (encodeSegment n) ≠ ['.'] ∧ plainDots (encodeSegment n) ≠ ['.', '.'] := by
  have decoded : decodeEscapes (ascii (encodeSegment n)) = n := by
    have all := decodeEscapes_encodeSegment n []
    rwa [List.append_nil, decodeEscapes, List.append_nil] at all
  constructor
  · intro dot
    have stands := decodeEscapes_of_dots (encodeSegment n) (by simp [dot])
    rw [decoded, dot] at stands
    exact name.ne_current stands
  · intro dots
    have stands := decodeEscapes_of_dots (encodeSegment n) (by simp [dots])
    rw [decoded, dots] at stands
    exact name.ne_parent stands

/-! ### Reading names -/

theorem IsOrdinary.not_skipped {c : Char} (h : IsOrdinary c) : isSkipped c = false := by
  have no {d : Char} (low : d ≤ ' ') : (c == d) = false :=
    beq_false_of_ne fun same => absurd (same ▸ h.visible) (by simpa using low)
  simp [isSkipped, no (d := '\t') (by decide), no (d := '\n') (by decide), no (d := '\r') (by decide)]

namespace Trail

/-- Ordinary characters are put behind those of the segment. -/
theorem read_ordinary (t : Trail) (literal : Bool) {cs : List Char} (all : ∀ c ∈ cs, IsOrdinary c)
    (segment rest : List Char) :
    read t segment literal false (cs ++ rest) = read t (cs.reverse ++ segment) literal false rest := by
  induction cs generalizing segment with
  | nil => rfl
  | cons c cs ih =>
    obtain ⟨ordinary, later⟩ := List.forall_mem_cons.mp all
    rw [List.cons_append, read, ordinary.not_skipped, ordinary.goes_on, ordinary.joins]
    simp [ih later]

/-- A segment that is no dots is put behind a path that has more than its first slash. -/
theorem add_segment {back segment : List Char} (begun : isFresh back = false)
    (dot : plainDots segment ≠ ['.']) (dots : plainDots segment ≠ ['.', '.']) (drive literal slash : Bool) :
    add ⟨back, drive⟩ segment literal slash =
      ⟨if slash then '/' :: (segment.reverse ++ back) else segment.reverse ++ back, drive⟩ := by
  simp [add, dot, dots, begun]

theorem isFresh_eq_false {back : List Char} (long : 2 ≤ back.length) : isFresh back = false := by
  match back with
  | [] | _ :: _ :: _ => rfl
  | [_] => simp at long

end Trail

/-- Names as the path of a uri. -/
def body (names : List (List UInt8)) : List Char :=
  names.flatMap fun n => '/' :: encodeSegment n

theorem body_cons (n : List UInt8) (names : List (List UInt8)) :
    body (n :: names) = '/' :: (encodeSegment n ++ body names) := rfl

/-- **A reader that meets only names keeps every character.** -/
theorem Trail.read_body {n : List UInt8} {names : List (List UInt8)} {back : List Char}
    (long : 2 ≤ back.length) (name : IsName n) (all : ∀ n ∈ names, IsName n) (drive : Bool) :
    read ⟨back, drive⟩ [] false false (encodeSegment n ++ body names) =
      ⟨(encodeSegment n ++ body names).reverse ++ back, drive⟩ := by
  induction names generalizing n back with
  | nil =>
    obtain ⟨dot, dots⟩ := plainDots_encodeSegment name
    rw [read_ordinary _ _ fun _ => ordinary_of_mem_encodeSegment]
    simp [body, read, add_segment (isFresh_eq_false long) dot dots]
  | cons m names ih =>
    obtain ⟨dot, dots⟩ := plainDots_encodeSegment name
    obtain ⟨next, later⟩ := List.forall_mem_cons.mp all
    have longer : 2 ≤ ('/' :: ((encodeSegment n).reverse ++ back)).length := by
      simp only [List.length_cons, List.length_append]
      omega
    have cut : isSeparator '/' = true ∧ isSkipped '/' = false ∧ endsPath '/' = false := by decide
    rw [read_ordinary _ _ fun _ => ordinary_of_mem_encodeSegment, body_cons, read, cut.1, cut.2.1,
      cut.2.2]
    simp [add_segment (isFresh_eq_false long) dot dots, ih longer next later]

/-! ### From a path to its uri and back -/

/-- The uri of names. -/
def written (names : List (List UInt8)) : List Char :=
  if body names = [] then ['/'] else body names

theorem ofPath_of_names {p : Path} {names : List (List UInt8)}
    (components : p.components = .root :: names.map .name) :
    ofPath p = "file://" ++ String.ofList (written names) := by
  have steps : (p.components.filter (· != .root)).flatMap (fun c => '/' :: encodeSegment c.bytes) =
      body names := by
    rw [components]
    have kept : (names.map Path.Component.name).filter (· != .root) = names.map .name := by
      simp [List.filter_eq_self]
    simp [kept, body, List.flatMap_map, Path.Component.bytes]
  unfold ofPath
  dsimp only
  rw [steps]
  rfl

/-- The uri of a path is a matter of its steps. -/
theorem ofPath_congr {p q : Path} (same : p.components = q.components) : ofPath p = ofPath q := by
  unfold ofPath
  rw [same]

theorem ordinary_or_slash {names : List (List UInt8)} {c : Char} (mem : c ∈ written names) :
    c = '/' ∨ IsOrdinary c := by
  unfold written at mem
  split at mem
  · exact Or.inl (List.mem_singleton.mp mem)
  · obtain ⟨n, -, mem⟩ := List.mem_flatMap.mp mem
    rcases List.mem_cons.mp mem with slash | inside
    · exact Or.inl slash
    · exact Or.inr (ordinary_of_mem_encodeSegment inside)

theorem written_eq_cons (names : List (List UInt8)) : ∃ cs, written names = '/' :: cs := by
  cases names with
  | nil => exact ⟨[], rfl⟩
  | cons n names => exact ⟨_, if_neg (by simp [body_cons])⟩

/-- The reader of a uri's path gives it back. -/
theorem path_of_written {names : List (List UInt8)} (all : ∀ n ∈ names, IsName n) :
    (Trail.of ['/'] (written names)).path = written names := by
  cases names with
  | nil => decide
  | cons n names =>
    obtain ⟨name, later⟩ := List.forall_mem_cons.mp all
    have shape : written (n :: names) = '/' :: (encodeSegment n ++ body names) :=
      if_neg (by simp [body_cons])
    have start : Trail.of ['/'] (written (n :: names)) =
        Trail.read ⟨['/', '/'], false⟩ [] false false (encodeSegment n ++ body names) := by
      rw [shape]
      rfl
    rw [start, Trail.read_body (by decide) name later]
    -- The two slashes at the front are dropped, and no other.
    obtain ⟨b, bs, rfl⟩ := List.exists_cons_of_ne_nil name.nonempty
    obtain ⟨c, cs, first⟩ := List.exists_cons_of_ne_nil (encodeByte_ne_nil b)
    have ordinary : IsOrdinary c := ordinary_of_mem_encodeByte (first ▸ List.mem_cons_self)
    have other : (c == '/') = false := (Bool.or_eq_false_iff.mp ordinary.joins).1
    rw [shape, Trail.path]
    simp [encodeSegment_cons, first, other]

theorem localPath?_written {names : List (List UInt8)} (all : ∀ n ∈ names, IsName n) :
    localPath? ('/' :: '/' :: written names) = some (written names) := by
  obtain ⟨cs, shape⟩ := written_eq_cons names
  have here : localPath? ('/' :: '/' :: written names) = hostPath? (written names) := by
    rw [shape]
    rfl
  have empty : hostPath? (written names) = some (Trail.of ['/'] (written names)).path := by
    rw [shape]
    rfl
  rw [here, empty, path_of_written all]

theorem stripChars_of_visible {cs : List Char} (visible : ∀ c ∈ cs, ' ' < c) :
    Text.stripChars (· ≤ ' ') cs = cs := by
  have kept {ds : List Char} (visible : ∀ c ∈ ds, ' ' < c) : ds.dropWhile (· ≤ ' ') = ds := by
    cases ds with
    | nil => rfl
    | cons c ds =>
      have stays : ¬c ≤ ' ' := Char.not_le.mpr (visible c List.mem_cons_self)
      exact List.dropWhile_cons_of_neg (by simpa using stays)
  unfold Text.stripChars
  rw [kept visible, kept fun c mem => visible c (List.mem_reverse.mp mem), List.reverse_reverse]

theorem afterFileScheme?_written (names : List (List UInt8)) :
    afterFileScheme? ("file://" ++ String.ofList (written names)) = some ('/' :: '/' :: written names) := by
  have chars : ("file://" ++ String.ofList (written names)).toList = "file://".toList ++ written names := by
    simp
  have scheme : "file://".toList.all (fun c => ' ' < c) = true := by decide +kernel
  have visible : ∀ c ∈ "file://".toList ++ written names, ' ' < c := by
    intro c mem
    rcases List.mem_append.mp mem with front | mem
    · exact of_decide_eq_true (List.all_eq_true.mp scheme c front)
    · rcases ordinary_or_slash mem with rfl | ordinary
      · decide
      · exact ordinary.visible
  unfold afterFileScheme?
  rw [chars, stripChars_of_visible visible]
  rfl

theorem encode_ofList {cs : List Char} (small : ∀ c ∈ cs, c.toNat < 128) :
    Text.encode (String.ofList cs) = ascii cs := by
  have one : ∀ c ∈ cs, String.utf8EncodeChar c = [UInt8.ofNat c.toNat] := by
    intro c mem
    have bound : c.val.toNat ≤ 0x7F := Nat.le_of_lt_succ (small c mem)
    exact if_pos bound
  rw [Text.encode_eq_flatMap, String.toList_ofList, List.flatMap_congr one, ascii,
    List.map_eq_flatMap]

/-- Names as the bytes of an absolute path. -/
def bytesOf (names : List (List UInt8)) : List UInt8 :=
  if names = [] then [slash] else names.flatMap (slash :: ·)

theorem decodeEscapes_body (names : List (List UInt8)) :
    decodeEscapes (ascii (body names)) = names.flatMap (slash :: ·) := by
  induction names with
  | nil => rfl
  | cons n names ih =>
    have first : ascii (body (n :: names)) = slash :: (ascii (encodeSegment n) ++ ascii (body names)) := by
      rw [← ascii_append]
      rfl
    rw [first, decodeEscapes_of_ne (by decide), decodeEscapes_encodeSegment, ih]
    rfl

theorem decodeEscapes_written (names : List (List UInt8)) :
    decodeEscapes (ascii (written names)) = bytesOf names := by
  cases names with
  | nil => decide
  | cons n names =>
    have shape : written (n :: names) = body (n :: names) := if_neg (by simp [body_cons])
    rw [shape, decodeEscapes_body]
    rfl

/-- The steps of names below the root. -/
theorem components_bytesOf {names : List (List UInt8)} (all : ∀ n ∈ names, IsName n) :
    (Path.mk (bytesOf names)).components = .root :: names.map .name := by
  have absolute : (Path.mk (bytesOf names)).isAbsolute = true := by
    cases names <;> rfl
  have steps : (Path.cut (names.flatMap (slash :: ·))).filterMap Path.component? = names.map .name := by
    induction names using List.reverseRecOn with
    | nil => rfl
    | append_singleton names n ih =>
      obtain ⟨before, last⟩ := List.forall_mem_append.mp all
      have name : IsName n := last n List.mem_cons_self
      have rest := ih before (by cases names <;> rfl)
      simp [List.flatMap_append, Path.cut_append_slash, Path.cut_of_no_slash name.no_slash,
        name.component?, rest]
  rw [Path.components_of_absolute absolute]
  cases names with
  | nil => rfl
  | cons n names => exact congrArg _ steps

/-- A slash put at the end of a drive is no step. -/
theorem components_closeDrive {bs : List UInt8} (absolute : (Path.mk bs).isAbsolute = true) :
    (Path.mk (closeDrive bs)).components = (Path.mk bs).components := by
  have closed : closeDrive bs = bs ∨ closeDrive bs = bs ++ [slash] := by
    unfold closeDrive
    split
    · split
      · exact Or.inr rfl
      · exact Or.inl rfl
    · exact Or.inl rfl
  rcases closed with same | slashed
  · rw [same]
  · have stays : (Path.mk (bs ++ [slash])).isAbsolute = true := by
      cases bs with
      | nil => rfl
      | cons b bs => exact absolute
    rw [slashed, Path.components_of_absolute stays, Path.components_of_absolute absolute]
    have empty : (Path.cut []).filterMap Path.component? = [] := rfl
    simp [Path.steps, Path.segments, Path.cut_append_slash, empty]

/-- **The plain uri of a direct path leads back** to the steps of the path. -/
theorem path?_ofPath {p : Path} (direct : p.IsDirect) :
    ∃ q, path? (ofPath p) = some q ∧ q.components = p.components := by
  obtain ⟨names, all, components⟩ := direct.exists_names
  have small : ∀ c ∈ written names, c.toNat < 128 := by
    intro c mem
    rcases ordinary_or_slash mem with rfl | ordinary
    · decide
    · exact ordinary.small
  refine ⟨⟨closeDrive (bytesOf names)⟩, ?_, ?_⟩
  · rw [ofPath_of_names components]
    simp [path?, afterFileScheme?_written, localPath?_written all, encode_ofList small,
      decodeEscapes_written]
  · rw [components_closeDrive, components_bytesOf all, components]
    cases names <;> rfl

/-- A path that does not go up is direct from a working directory with a direct path. -/
theorem isDirect_absolute {cwd p : Path} (from_cwd : cwd.IsDirect) (down : .parent ∉ p.components) :
    (absolute cwd p).IsDirect := by
  unfold absolute
  split
  · rename_i stays
    exact ⟨stays, down⟩
  · split
    · exact ⟨rfl, by decide⟩
    · rename_i relative _
      obtain ⟨above, aboveNames, cwdSteps⟩ := from_cwd.exists_names
      obtain ⟨below, belowNames, steps⟩ := Path.exists_names_of_down down
      have kept : p.components.filter (· != .current) = below.map .name := by
        have names : (below.map Path.Component.name).filter (· != .current) = below.map .name := by
          simp [List.filter_eq_self]
        rcases Path.components_of_relative relative with same | same
        · rw [same, steps, names]
        · rw [same, steps, List.filter_cons_of_neg (by decide), names]
      have both := Path.ofComponents_names (above ++ below)
        (List.forall_mem_append.mpr ⟨aboveNames, belowNames⟩)
      rw [cwdSteps, kept, List.cons_append, ← List.map_append]
      exact .of_names both.1 both.2

/-! ### Plain uris -/

/-- The uri is the plain one of its path, when it has one. -/
def IsPlain (uri : String) : Prop :=
  ∀ p, path? uri = some p → ofPath p = uri

/-- **The uri of a direct path is plain.** -/
theorem isPlain_ofPath {p : Path} (direct : p.IsDirect) : IsPlain (ofPath p) := by
  intro q back
  obtain ⟨r, read, same⟩ := path?_ofPath direct
  obtain rfl := Option.some.inj (read.symm.trans back)
  exact ofPath_congr same

/-- **Two plain uris of one path are the same.** -/
theorem IsPlain.unique {u v : String} {p q : Path} (first : IsPlain u) (second : IsPlain v)
    (left : path? u = some p) (right : path? v = some q) (same : p.components = q.components) :
    u = v := by
  rw [← first p left, ← second q right, ofPath_congr same]

end ElmAssist.Uri
