import ElmAssist.Proofs.Text.Measure

/-!
# Text — UTF-16 units

A text as the sequence of UTF-16 units that editors count in.

* `utf16`: the units of a run of characters. There are as many as `units` says (`length_utf16`), and
  they are those of no other run (`utf16_injective`).
* `utf16Char_cases`: a character is one unit that is no surrogate, or a high and a low one.
* `splitsPair`: an index in the middle of a surrogate pair; `within`: where a character of a line is.
* `upToUnit`: the whole characters up to a unit, whose bytes are `bytesBeforeUnit` and whose units end
  where `within` says (`units_upToUnit`).
* `exists_prefix_iff`: the indexes that are not in the middle of a pair are those between characters.
-/

namespace ElmAssist.Text

variable {a b cs : List Char} {c : Char} {u v : UInt16} {us : List UInt16} {m n : Nat}

/-! ### Units -/

/-- The UTF-16 units of a character: its own number, or a surrogate pair beyond the basic plane. -/
def utf16Char (c : Char) : List UInt16 :=
  if c.toNat < 0x10000 then [.ofNat c.toNat]
  else [.ofNat (0xD800 + (c.toNat - 0x10000) / 0x400), .ofNat (0xDC00 + (c.toNat - 0x10000) % 0x400)]

/-- The UTF-16 units of a run of characters. -/
def utf16 (cs : List Char) : List UInt16 :=
  cs.flatMap utf16Char

/-- The first unit of a surrogate pair. -/
def isHigh (u : UInt16) : Bool :=
  0xD800 ≤ u.toNat && u.toNat < 0xDC00

/-- The second unit of a surrogate pair. -/
def isLow (u : UInt16) : Bool :=
  0xDC00 ≤ u.toNat && u.toNat < 0xE000

theorem isHigh_of_isLow (low : isLow u = true) : isHigh u = false := by
  simp only [isLow, isHigh, Bool.and_eq_true, decide_eq_true_eq, Bool.and_eq_false_iff,
    decide_eq_false_iff_not] at *
  omega

/-- **A character is one unit, which is no surrogate, or a surrogate pair**, and known by it. -/
theorem utf16Char_cases (c : Char) :
    (∃ u, utf16Char c = [u] ∧ charUnits c = 1 ∧ isHigh u = false ∧ isLow u = false ∧
        c.toNat = u.toNat) ∨
      ∃ u v, utf16Char c = [u, v] ∧ charUnits c = 2 ∧ isHigh u = true ∧ isLow v = true ∧
        c.toNat = 0x10000 + (u.toNat - 0xD800) * 0x400 + (v.toNat - 0xDC00) := by
  have valid : c.toNat < 0xD800 ∨ 0xDFFF < c.toNat ∧ c.toNat < 0x110000 := c.valid
  have toNat : ∀ k < 0x10000, (UInt16.ofNat k).toNat = k := fun k less =>
    Nat.mod_eq_of_lt less
  unfold utf16Char charUnits
  by_cases basic : c.toNat < 0x10000
  · refine Or.inl ⟨.ofNat c.toNat, if_pos basic, if_pos basic, ?_⟩
    simp only [isHigh, isLow, toNat _ basic, Bool.and_eq_false_iff, decide_eq_false_iff_not,
      and_true]
    omega
  · refine Or.inr ⟨_, _, if_neg basic, if_neg basic, ?_⟩
    rw [isHigh, isLow, toNat _ (by omega), toNat _ (by omega)]
    simp only [Bool.and_eq_true, decide_eq_true_eq]
    omega

theorem length_utf16Char (c : Char) : (utf16Char c).length = charUnits c := by
  obtain ⟨u, eq, one, -⟩ | ⟨u, v, eq, two, -⟩ := utf16Char_cases c
  · rw [eq, one, List.length_singleton]
  · rw [eq, two, List.length_cons, List.length_singleton]

theorem utf16Char_ne_nil (c : Char) : utf16Char c ≠ [] :=
  List.ne_nil_of_length_pos ((length_utf16Char c).symm ▸ charUnits_pos c)

theorem utf16_cons (c : Char) (cs : List Char) : utf16 (c :: cs) = utf16Char c ++ utf16 cs :=
  List.flatMap_cons

theorem utf16_append (a b : List Char) : utf16 (a ++ b) = utf16 a ++ utf16 b :=
  List.flatMap_append

theorem length_utf16 (cs : List Char) : (utf16 cs).length = units cs := by
  induction cs with
  | nil => rfl
  | cons c cs ih => rw [utf16_cons, List.length_append, length_utf16Char, ih, units]

/-- The units of a text say where its first character ends, and which one it is. -/
theorem utf16Char_append_inj {xs ys : List UInt16} {d : Char}
    (same : utf16Char c ++ xs = utf16Char d ++ ys) : c = d ∧ xs = ys := by
  obtain ⟨u, eq, -, high, -, number⟩ | ⟨u, v, eq, -, high, -, number⟩ := utf16Char_cases c <;>
    obtain ⟨x, eq', -, high', -, number'⟩ | ⟨x, y, eq', -, high', -, number'⟩ :=
      utf16Char_cases d <;>
    rw [eq, eq'] at same <;> simp only [List.cons_append, List.nil_append, List.cons.injEq] at same
  · obtain ⟨rfl, rest⟩ := same
    exact ⟨Char.toNat_inj.mp (number.trans number'.symm), rest⟩
  · simp [same.1, high'] at high
  · simp [same.1, high'] at high
  · obtain ⟨rfl, rfl, rest⟩ := same
    exact ⟨Char.toNat_inj.mp (number.trans number'.symm), rest⟩

/-- **A text is known by its UTF-16 units.** -/
theorem utf16_injective {a b : List Char} (same : utf16 a = utf16 b) : a = b := by
  have no_units : ∀ c cs, utf16 (c :: cs) ≠ [] := fun c cs =>
    List.append_ne_nil_of_left_ne_nil (utf16Char_ne_nil c) (utf16 cs)
  induction a generalizing b with
  | nil =>
    cases b with
    | nil => rfl
    | cons d b => exact (no_units d b same.symm).elim
  | cons c a ih =>
    cases b with
    | nil => exact (no_units c a same).elim
    | cons d b =>
      rw [utf16_cons, utf16_cons] at same
      obtain ⟨rfl, rest⟩ := utf16Char_append_inj same
      rw [ih rest]

/-! ### Characters of one unit -/

/-- A unit that is a character by itself is in no other one. -/
theorem mem_utf16Char_iff {d : Char} (single : utf16Char d = [u]) : u ∈ utf16Char c ↔ c = d := by
  refine ⟨fun mem => ?_, fun same => by rw [same, single]; exact List.mem_singleton_self u⟩
  obtain ⟨x, eq, -, high, low, number⟩ | ⟨x, y, eq, two, -⟩ := utf16Char_cases d
  · obtain rfl : x = u := by simpa [eq] using single
    obtain ⟨v, eq', -, -, -, number'⟩ | ⟨v, w, eq', -, high', low', -⟩ := utf16Char_cases c
    · obtain rfl : x = v := by simpa [eq'] using mem
      exact Char.toNat_inj.mp (number'.trans number.symm)
    · rw [eq', List.mem_cons, List.mem_singleton] at mem
      rcases mem with rfl | rfl
      · simp [high'] at high
      · simp [low'] at low
  · simp [eq] at single

theorem mem_utf16_iff {d : Char} (single : utf16Char d = [u]) : u ∈ utf16 cs ↔ d ∈ cs := by
  simp only [utf16, List.mem_flatMap, mem_utf16Char_iff single, exists_eq_right]

theorem count_utf16 {d : Char} (single : utf16Char d = [u]) (cs : List Char) :
    (utf16 cs).count u = cs.count d := by
  induction cs with
  | nil => rfl
  | cons c cs ih =>
    rw [utf16_cons, List.count_append, ih]
    by_cases same : c = d
    · rw [same, single, List.count_singleton_self, List.count_cons_self, Nat.add_comm]
    · rw [List.count_eq_zero.mpr (mt (mem_utf16Char_iff single).mp same),
        List.count_cons_of_ne same, Nat.zero_add]

theorem getLast?_utf16_iff {d : Char} (single : utf16Char d = [u]) :
    (utf16 cs).getLast? = some u ↔ cs.getLast? = some d := by
  constructor
  · intro last
    rcases cs.eq_nil_or_concat' with rfl | ⟨front, c, rfl⟩
    · simp [utf16] at last
    · rw [utf16_append, utf16_cons, show utf16 [] = [] from rfl, List.append_nil,
        List.getLast?_append_of_ne_nil _ (utf16Char_ne_nil c)] at last
      rw [List.getLast?_concat, (mem_utf16Char_iff single).mp (List.mem_of_getLast? last)]
  · intro last
    obtain ⟨front, rfl⟩ := List.getLast?_eq_some_iff.mp last
    rw [utf16_append, utf16_cons, single]
    simp [utf16]

/-! ### Indexes -/

/-- An index in the middle of a surrogate pair. -/
def splitsPair (us : List UInt16) : Nat → Bool
  | 0 => false
  | n + 1 => us[n]?.any isHigh && us[n + 1]?.any isLow

/-- Where index `n` is in a line: past the end it is the end, and the middle of a surrogate pair is
just after the pair. -/
def within (us : List UInt16) (n : Nat) : Nat :=
  if us.length ≤ n then us.length else if splitsPair us n then n + 1 else n

/-- The indexes that stay where they are. -/
theorem within_eq_self_iff : within us n = n ↔ n ≤ us.length ∧ splitsPair us n = false := by
  have at_end : us.length = n → splitsPair us n = false := by
    rintro rfl
    cases us <;> simp [splitsPair]
  unfold within
  split_ifs with ends splits
  · exact ⟨fun same => ⟨same.ge, at_end same⟩, fun ⟨le, _⟩ => Nat.le_antisymm ends le⟩
  · exact iff_of_false (by omega) fun ⟨_, whole⟩ => absurd (splits.symm.trans whole) (by decide)
  · exact iff_of_true rfl ⟨by omega, by simpa using splits⟩

/-- A unit that is not the first of a pair does not matter for the indexes after it. -/
theorem splitsPair_cons (whole : isHigh u = false ∨ n ≠ 0) :
    splitsPair (u :: us) (n + 1) = splitsPair us n := by
  cases n with
  | zero => simp_all [splitsPair]
  | succ n => rfl

theorem within_cons (whole : isHigh u = false ∨ n ≠ 0) :
    within (u :: us) (n + 1) = within us n + 1 := by
  rw [within, within, splitsPair_cons whole, List.length_cons]
  split_ifs <;> omega

/-- The whole characters up to UTF-16 unit `n`; the middle of a surrogate pair counts as after the
pair. -/
def upToUnit : List Char → Nat → List Char
  | [], _ => []
  | _ :: _, 0 => []
  | c :: cs, n + 1 => c :: upToUnit cs (n + 1 - charUnits c)

theorem upToUnit_zero (cs : List Char) : upToUnit cs 0 = [] := by
  cases cs <;> rfl

theorem upToUnit_isPrefix (cs : List Char) (n : Nat) : upToUnit cs n <+: cs := by
  fun_induction upToUnit cs n with
  | case1 | case2 => exact List.nil_prefix
  | case3 c cs n ih => exact (List.prefix_cons_inj c).mpr ih

theorem bytes_upToUnit (cs : List Char) (n : Nat) :
    bytes (upToUnit cs n) = bytesBeforeUnit cs n := by
  fun_induction upToUnit cs n with
  | case1 | case2 => rfl
  | case3 c cs n ih => rw [bytes, bytesBeforeUnit, ih]

theorem upToUnit_append (a b : List Char) : upToUnit (a ++ b) (units a) = a := by
  induction a with
  | nil => exact upToUnit_zero b
  | cons c a ih =>
    obtain ⟨n, units_eq⟩ := Nat.exists_eq_add_of_lt (charUnits_pos c)
    rw [List.cons_append, units, show charUnits c + units a = (n + units a) + 1 by omega,
      upToUnit, show n + units a + 1 - charUnits c = units a by omega, ih]

/-- Up to a later unit there is more. -/
theorem upToUnit_mono (le : m ≤ n) : upToUnit cs m <+: upToUnit cs n := by
  induction cs generalizing m n with
  | nil => exact List.prefix_rfl
  | cons c cs ih =>
    cases m with
    | zero => exact List.nil_prefix
    | succ m =>
      obtain ⟨n, rfl⟩ := Nat.exists_eq_succ_of_ne_zero (show n ≠ 0 by omega)
      exact (List.prefix_cons_inj c).mpr (ih (by omega))

/-- **The whole characters up to a unit end where the unit is in the line.** -/
theorem units_upToUnit (cs : List Char) (n : Nat) :
    units (upToUnit cs n) = within (utf16 cs) n := by
  fun_induction upToUnit cs n with
  | case1 n => simp [units, within, utf16]
  | case2 c cs =>
    have := charUnits_pos c
    rw [within, length_utf16, units, if_neg (by rw [units]; omega)]
    rfl
  | case3 c cs n ih =>
    rw [units, ih, utf16_cons]
    obtain ⟨u, eq, one, high, -⟩ | ⟨u, v, eq, two, high, low, -⟩ := utf16Char_cases c
    · rw [eq, one, List.singleton_append, within_cons (Or.inl high), Nat.add_sub_cancel, Nat.add_comm]
    · rw [eq, two, List.cons_append, List.singleton_append]
      cases n with
      | zero => simp [within, splitsPair, high, low]
      | succ n =>
        rw [within_cons (Or.inr n.succ_ne_zero), within_cons (Or.inl (isHigh_of_isLow low)),
          show n + 1 + 1 - 2 = n by omega]
        omega

/-- **The indexes between characters are those that split no surrogate pair.** -/
theorem exists_prefix_iff :
    (∃ pre, pre <+: cs ∧ units pre = n) ↔ n ≤ units cs ∧ splitsPair (utf16 cs) n = false := by
  rw [← length_utf16, ← within_eq_self_iff, ← units_upToUnit]
  constructor
  · rintro ⟨pre, ⟨rest, rfl⟩, rfl⟩
    rw [upToUnit_append]
  · exact fun here => ⟨upToUnit cs n, upToUnit_isPrefix cs n, here⟩

end ElmAssist.Text
