import ElmAssist.Proofs.Text.ByteOrder
import ElmAssist.Text.Measure
import ElmAssist.Text.Point
import Mathlib.Data.List.Induction

/-!
# Text — Measures of a cut text

A text that is cut in two has the bytes and the UTF-16 units of its parts, and each way of counting
finds the cut again.

* `bytes_append`, `units_append`: the measures of a cut text.
* `bytesBeforeUnit_append`, `unitsBeforeByte_append`: from one measure of what is before a cut to
  the other.
* `eq_of_bytes_eq`, `exists_append_of_bytes_le`: a cut is where its bytes are, and of two cuts the
  one with fewer bytes comes first.
* `slice?_append`: what is between two cuts.
* `pointAt_eq`: the point of a byte offset, in rows and bytes; `pointAt_append`: the point of a cut.
-/

namespace ElmAssist.Text

variable {s : String} {a b c d : List Char}

/-! ### Sums -/

theorem charUnits_pos (c : Char) : 0 < charUnits c := by
  unfold charUnits
  split <;> omega

theorem bytes_append (a b : List Char) : bytes (a ++ b) = bytes a + bytes b := by
  induction a with
  | nil => simp [bytes]
  | cons c a ih => rw [List.cons_append, bytes, bytes, ih, Nat.add_assoc]

theorem units_append (a b : List Char) : units (a ++ b) = units a + units b := by
  induction a with
  | nil => simp [units]
  | cons c a ih => rw [List.cons_append, units, units, ih, Nat.add_assoc]

theorem bytes_pos (ne : a ≠ []) : 0 < bytes a := by
  obtain ⟨c, a, rfl⟩ := List.exists_cons_of_ne_nil ne
  exact Nat.lt_of_lt_of_le c.utf8Size_pos (Nat.le_add_right ..)

theorem units_pos (ne : a ≠ []) : 0 < units a := by
  obtain ⟨c, a, rfl⟩ := List.exists_cons_of_ne_nil ne
  exact Nat.lt_of_lt_of_le (charUnits_pos c) (Nat.le_add_right ..)

theorem bytes_eq_length (cs : List Char) :
    bytes cs = (cs.flatMap String.utf8EncodeChar).length := by
  induction cs with
  | nil => rfl
  | cons c cs ih =>
    rw [bytes, List.flatMap_cons, List.length_append, String.length_utf8EncodeChar, ih]

/-! ### From one measure to the other -/

theorem bytesBeforeUnit_append (a b : List Char) :
    bytesBeforeUnit (a ++ b) (units a) = bytes a := by
  induction a with
  | nil => cases b <;> rfl
  | cons c a ih =>
    obtain ⟨n, units_eq⟩ := Nat.exists_eq_add_of_lt (charUnits_pos c)
    rw [List.cons_append, units, bytes, show charUnits c + units a = (n + units a) + 1 by omega,
      bytesBeforeUnit, show n + units a + 1 - charUnits c = units a by omega, ih]

theorem unitsBeforeByte_append (a b : List Char) :
    unitsBeforeByte (a ++ b) (bytes a) = units a := by
  induction a with
  | nil =>
    cases b with
    | nil => rfl
    | cons c b =>
      have := c.utf8Size_pos
      rw [List.nil_append, bytes, unitsBeforeByte, if_neg (by omega), units]
  | cons c a ih =>
    rw [List.cons_append, bytes, unitsBeforeByte, if_pos (Nat.le_add_right ..),
      Nat.add_sub_cancel_left, ih, units]

/-! ### Cuts -/

/-- **A cut is where its bytes are.** -/
theorem eq_of_bytes_eq (same : a ++ b = c ++ d) (bytes_eq : bytes a = bytes c) : a = c := by
  rcases List.append_eq_append_iff.mp same with ⟨e, rfl, rfl⟩ | ⟨e, rfl, rfl⟩
  · by_contra apart
    have := bytes_pos (a := e) (by rintro rfl; simp at apart)
    rw [bytes_append] at bytes_eq
    omega
  · by_contra apart
    have := bytes_pos (a := e) (by rintro rfl; simp at apart)
    rw [bytes_append] at bytes_eq
    omega

/-- Of two cuts, the one with fewer bytes has the other one after it. -/
theorem exists_append_of_bytes_le (same : a ++ b = c ++ d) (le : bytes a ≤ bytes c) :
    ∃ e, c = a ++ e := by
  rcases List.append_eq_append_iff.mp same with ⟨e, eq, -⟩ | ⟨e, rfl, -⟩
  · exact ⟨e, eq⟩
  · rw [bytes_append] at le
    cases e with
    | nil => exact ⟨[], by simp⟩
    | cons x e =>
      have := bytes_pos (List.cons_ne_nil x e)
      omega

theorem dropBytes?_cons (c : Char) (cs : List Char) (n : Nat) :
    dropBytes? (c :: cs) (c.utf8Size + n) = dropBytes? cs n := by
  rw [dropBytes?]
  · rw [if_pos (Nat.le_add_right ..), Nat.add_sub_cancel_left]
  · have := c.utf8Size_pos
    omega

theorem takeBytes?_cons (c : Char) (cs : List Char) (n : Nat) :
    takeBytes? (c :: cs) (c.utf8Size + n) = (takeBytes? cs n).map (c :: ·) := by
  rw [takeBytes?]
  · rw [if_pos (Nat.le_add_right ..), Nat.add_sub_cancel_left]
  · have := c.utf8Size_pos
    omega

theorem dropBytes?_append (a b : List Char) : dropBytes? (a ++ b) (bytes a) = some b := by
  induction a with
  | nil => cases b <;> rfl
  | cons c a ih => rw [List.cons_append, bytes, dropBytes?_cons, ih]

theorem takeBytes?_append (a b : List Char) : takeBytes? (a ++ b) (bytes a) = some a := by
  induction a with
  | nil => cases b <;> rfl
  | cons c a ih => rw [List.cons_append, bytes, takeBytes?_cons, ih, Option.map_some]

/-- **What is between two cuts.** -/
theorem slice?_append (a b c : List Char) :
    slice? (a ++ b ++ c) (bytes a) (bytes (a ++ b)) = some b := by
  rw [slice?, bytes_append, if_pos (Nat.le_add_right ..), List.append_assoc, dropBytes?_append,
    Option.bind_some, Nat.add_sub_cancel_left, takeBytes?_append]

/-! ### Points -/

/-- The point of a byte offset. -/
def pointAt (s : String) (n : Nat) : Point :=
  .after ((encode s).take n)

theorem after_eq (bs : List UInt8) :
    Point.after bs = ⟨bs.count 10, (bs.reverse.takeWhile (· ≠ 10)).length⟩ := by
  induction bs using List.reverseRecOn with
  | nil => rfl
  | append_singleton bs b ih =>
    -- One byte more begins a row or makes the last one longer.
    rw [Point.after, List.foldl_append, ← Point.after, ih, List.reverse_concat]
    by_cases newline : b = 10
    · simp [Point.advance, newline]
    · simp [Point.advance, newline]

/-- **The row of a byte offset counts the newlines before it, the column the bytes since the last of
them.** -/
theorem pointAt_eq (s : String) (n : Nat) :
    pointAt s n = ⟨((encode s).take n).count 10,
      (((encode s).take n).reverse.takeWhile (· ≠ 10)).length⟩ :=
  after_eq _

/-- Only a newline has the byte of a newline: the bytes of characters beyond ASCII have their first
bit set. -/
theorem newline_mem_utf8EncodeChar {c : Char} (mem : 10 ∈ String.utf8EncodeChar c) : c = '\n' := by
  have ten : UInt8.toNat 10 = 10 := rfl
  have value : c.val.toNat = 10 := by
    unfold String.utf8EncodeChar at mem
    dsimp only at mem
    split_ifs at mem
    all_goals
      simp only [List.mem_cons, List.not_mem_nil, ← UInt8.toNat_inj, UInt8.toNat_ofNat', ten,
        or_false] at mem
      omega
  exact Char.ext (UInt32.toNat_inj.mp value)

theorem foldl_advance {bs : List UInt8} (none_ : 10 ∉ bs) (p : Point) :
    bs.foldl Point.advance p = ⟨p.row, p.column + bs.length⟩ := by
  induction bs generalizing p with
  | nil => rfl
  | cons b bs ih =>
    obtain ⟨other, none_⟩ := List.ne_and_not_mem_of_not_mem_cons none_
    rw [List.foldl_cons, Point.advance, if_neg other.symm, ih none_, List.length_cons,
      Nat.add_assoc, Nat.add_comm 1]

/-- Where a run of characters leads from a point. -/
def pointAfter (p : Point) (cs : List Char) : Point :=
  (cs.flatMap String.utf8EncodeChar).foldl Point.advance p

theorem pointAfter_append (p : Point) (a b : List Char) :
    pointAfter p (a ++ b) = pointAfter (pointAfter p a) b := by
  simp only [pointAfter, List.flatMap_append, List.foldl_append]

/-- Within a line the row stays. -/
theorem pointAfter_of_notMem (p : Point) {cs : List Char} (none_ : '\n' ∉ cs) :
    pointAfter p cs = ⟨p.row, p.column + bytes cs⟩ := by
  have bytes_none : 10 ∉ cs.flatMap String.utf8EncodeChar := by
    intro mem
    obtain ⟨c, inside, byte⟩ := List.mem_flatMap.mp mem
    exact none_ (newline_mem_utf8EncodeChar byte ▸ inside)
  rw [pointAfter, foldl_advance bytes_none, bytes_eq_length]

theorem pointAfter_newline (p : Point) : pointAfter p ['\n'] = ⟨p.row + 1, 0⟩ := by
  rw [pointAfter, List.flatMap_singleton, show String.utf8EncodeChar '\n' = [10] by decide]
  rfl

theorem row_pointAfter (p : Point) (cs : List Char) :
    (pointAfter p cs).row = p.row + cs.count '\n' := by
  induction cs generalizing p with
  | nil => rfl
  | cons c cs ih =>
    rw [← List.singleton_append, pointAfter_append, ih]
    by_cases newline : c = '\n'
    · subst newline
      rw [pointAfter_newline, List.singleton_append, List.count_cons_self]
      dsimp only
      omega
    · rw [pointAfter_of_notMem p (by simpa using Ne.symm newline), List.singleton_append,
        List.count_cons_of_ne newline]

/-- **The point of a cut** is where the characters before it lead to. -/
theorem pointAt_append (split : s.toList = a ++ b) :
    pointAt s (bytes a) = pointAfter .origin a := by
  rw [pointAt, encode_eq_flatMap, split, List.flatMap_append, bytes_eq_length, List.take_left]
  rfl

end ElmAssist.Text
