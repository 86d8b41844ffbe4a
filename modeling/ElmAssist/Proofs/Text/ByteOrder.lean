import ElmAssist.Text.Utf8
import Mathlib.Data.List.Lex

/-!
# Text — The order of bytes

Texts in the order of their characters are in the order of their UTF-8 bytes (`encode_lt_encode`),
so a catalog of texts lists them in byte order.
-/

namespace ElmAssist.Text

/-- The bytes of an array from an index on, after those collected. -/
theorem toList_loop (bs : ByteArray) (i : Nat) (seen : List UInt8) :
    ByteArray.toList.loop bs i seen = seen.reverse ++ bs.data.toList.drop i := by
  fun_induction ByteArray.toList.loop bs i seen with
  | case1 i seen inside ih =>
    have next : bs.data.toList.drop i = bs.get! i :: bs.data.toList.drop (i + 1) := by
      rw [List.drop_eq_getElem_cons (show i < bs.data.toList.length from inside)]
      exact congrArg (· :: _) (getElem!_pos bs.data i inside).symm
    rw [ih, next, List.reverse_cons, List.append_assoc, List.singleton_append]
  | case2 i seen outside =>
    rw [List.drop_of_length_le (Nat.le_of_not_lt outside), List.append_nil]

/-- The bytes of a text are those of its characters. -/
theorem encode_eq_flatMap (s : String) : encode s = s.toList.flatMap String.utf8EncodeChar := by
  unfold encode ByteArray.toList
  rw [toList_loop, List.reverse_nil, List.nil_append, List.drop_zero]
  change s.toByteArray.data.toList = _
  rw [← String.utf8Encode_toList, List.utf8Encode, List.toList_data_toByteArray]

/-- A smaller character has smaller bytes, whatever follows. -/
theorem encodeChar_append_lt {c d : Char} (h : c < d) (xs ys : List UInt8) :
    String.utf8EncodeChar c ++ xs < String.utf8EncodeChar d ++ ys := by
  have less : c.val.toNat < d.val.toNat := h
  have bound : d.val.toNat < 0x110000 := by
    have := d.valid
    simp only [UInt32.isValidChar, Nat.isValidChar] at this
    omega
  -- No part of a byte is lost: what follows the leading bits is smaller than they are.
  have whole : ∀ x n base : Nat, 0 < n → n + base ≤ 256 → (x % n + base) % 2 ^ 8 = x % n + base :=
    fun x n base pos fits =>
      Nat.mod_eq_of_lt (Nat.lt_of_lt_of_le (Nat.add_lt_add_right (Nat.mod_lt x pos) base) fits)
  -- The bits that one byte leaves out are those of the bytes before it.
  have parts : ∀ x < 0x110000,
      x / 64 / 64 = x / 4096 ∧ x / 4096 / 64 = x / 262144 ∧ x / 262144 / 8 = 0 := by omega
  obtain ⟨c₁, c₂, c₃⟩ := parts c.val.toNat (Nat.lt_trans less bound)
  obtain ⟨d₁, d₂, d₃⟩ := parts d.val.toNat bound
  unfold String.utf8EncodeChar
  dsimp only
  split_ifs
  all_goals
    simp (disch := decide) only [List.cons_append, List.nil_append, List.cons_lt_cons_iff,
      UInt8.lt_iff_toNat_lt, ← UInt8.toNat_inj, UInt8.toNat_ofNat', whole]
    omega

/-- Characters in order have bytes in order. -/
theorem flatMap_encodeChar_lt {l m : List Char} (h : l < m) :
    l.flatMap String.utf8EncodeChar < m.flatMap String.utf8EncodeChar := by
  induction h with
  | @nil c m =>
    rw [List.flatMap_nil, List.flatMap_cons]
    obtain ⟨b, bs, e⟩ := List.exists_cons_of_ne_nil (String.utf8EncodeChar_ne_nil (c := c))
    rw [e]
    exact List.nil_lt_cons ..
  | rel less =>
    rw [List.flatMap_cons, List.flatMap_cons]
    exact encodeChar_append_lt less ..
  | cons _ ih =>
    rw [List.flatMap_cons, List.flatMap_cons]
    exact List.append_left_lt ih

/-- **The order of texts is the order of their bytes.** -/
theorem encode_lt_encode (s t : String) : encode s < encode t ↔ s < t := by
  rw [encode_eq_flatMap, encode_eq_flatMap]
  constructor
  · intro less
    by_contra more
    rcases String.le_total s t with le | le
    · obtain rfl : s = t := String.le_antisymm le (String.not_lt.mp more)
      exact List.lt_irrefl _ less
    · have less' : t < s := by
        rcases eq_or_ne s t with rfl | apart
        · exact absurd less (List.lt_irrefl _)
        · exact String.not_le.mp fun h => apart (String.le_antisymm h le)
      exact List.lt_asymm less (flatMap_encodeChar_lt less')
  · exact flatMap_encodeChar_lt

/-- A text is known by its bytes. -/
theorem encode_injective {s t : String} (same : encode s = encode t) : s = t := by
  have not_lt : ∀ {s t : String}, encode s = encode t → ¬ s < t := fun same less =>
    List.lt_irrefl _ (same ▸ (encode_lt_encode _ _).mpr less)
  exact String.le_antisymm (String.not_lt.mp (not_lt same.symm)) (String.not_lt.mp (not_lt same))

end ElmAssist.Text
