import ElmAssist.Proofs.Text.Places
import ElmAssist.Proofs.Text.Utf16

/-!
# Text — Positions outside of the text

Editors and tools may name positions that a text does not have: a character past the end of its
line, a line past the last one, the middle of a surrogate pair.

* `Lines.byteOf?`: the byte offset of a point. `Lines.offset_agrees_iff`: the offset of a position is
  that of its point, except behind a text that ends with a carriage return.
* `isPosition_iff_units`: the positions of a text, in UTF-16 units.
* `Lines.clampPosition`: a position moved into the text. It is one of the text
  (`isPosition_clampPosition`), the same for those that are (`clampPosition_eq_self`), and what comes
  first stays first (`clampPosition_mono`).
-/

namespace ElmAssist

variable {text : String} {cs before line shown : List Char} {ls : Lines} {p q : Position}

namespace Lines

open Text

theorem visible?_eq_none_iff {i : Nat} : ls.visible? i = none ↔ ls.count ≤ i := by
  rw [visible?, Option.map_eq_none_iff, List.getElem?_eq_none_iff]
  rfl

/-- The end of a text as it is shown is that of its last line. -/
theorem final_ofChars (last : LineAt cs before line []) :
    (ofChars cs).final = (before.count '\n', Line.visible ⟨bytes before, line⟩) := by
  rw [final, last.count_eq, Nat.add_sub_cancel, last.visible?, Option.getD_some]

/-! ### Offsets and points -/

/-- The byte offset of a point: where its row starts, and its column. -/
def byteOf? (ls : Lines) (p : Point) : Option Nat :=
  ls.toList[p.row]?.map (·.start + p.column)

/-- On a line of the text, the offset of a position is that of its point. -/
theorem byteOf?_point_of_lt (inside : p.line < ls.count) :
    ls.byteOf? (ls.point p) = some (ls.offset p) := by
  have found : ls.toList[p.line]? = some ls.toList[p.line] := List.getElem?_eq_getElem inside
  rw [byteOf?, point, visible?, offset, found]
  dsimp only [Option.map_some]
  rw [found, Option.map_some]

/-- Past the last line, the offset is the end of the text, and the point the end of what is shown of
it. -/
theorem byteOf?_point_of_le (last : LineAt cs before line [])
    (outside : (ofChars cs).count ≤ p.line) :
    (ofChars cs).byteOf? ((ofChars cs).point p) =
      some (bytes before + bytes (Line.visible ⟨bytes before, line⟩)) ∧
      (ofChars cs).offset p = bytes before + bytes line := by
  constructor
  · rw [point, visible?_eq_none_iff.mpr outside]
    dsimp only
    rw [final_ofChars last, byteOf?, getElem?_ofChars last, Option.map_some]
  · have missing : (ofChars cs).toList[p.line]? = none := List.getElem?_eq_none_iff.mpr outside
    rw [offset, missing, ← bytes_append]
    dsimp only
    rw [size_ofChars, last.split, List.append_nil]

/-- All of a last line is shown but a carriage return at its end. -/
theorem bytes_line (last : LineAt cs before line []) :
    bytes line = bytes (Line.visible ⟨bytes before, line⟩) +
      if cs.getLast? = some '\r' then 1 else 0 := by
  have ends : cs.getLast? = some '\r' ↔ line.getLast? = some '\r' := by
    rw [last.split, List.append_nil]
    exact last.getLast?_eq_return_iff
  unfold Line.visible
  dsimp only
  simp only [ends]
  split
  · rename_i ret
    obtain ⟨front, rfl⟩ := List.getLast?_eq_some_iff.mp ret
    rw [List.dropLast_concat, bytes_append]
    rfl
  · rfl

/-- **Offset and point of a position agree**, except for one past the last line of a text that ends
with a carriage return. That one has its point in front of the carriage return and its offset
behind it. -/
theorem offset_agrees_iff (text : String) (p : Position) :
    let lines := ofText text
    (lines.byteOf? (lines.point p) = some (lines.offset p) ↔
        ¬ (lines.count ≤ p.line ∧ text.toList.getLast? = some '\r')) ∧
      (lines.count ≤ p.line → text.toList.getLast? = some '\r' →
        ∃ n, lines.byteOf? (lines.point p) = some n ∧ lines.offset p = n + 1) := by
  intro lines
  rcases Nat.lt_or_ge p.line lines.count with inside | outside
  · refine ⟨iff_of_true (byteOf?_point_of_lt inside) ?_, fun outside => ?_⟩ <;> omega
  obtain ⟨before, line, last⟩ := exists_lineAt_end text.toList
  obtain ⟨point, offset⟩ := byteOf?_point_of_le last outside
  change lines.byteOf? (lines.point p) = _ at point
  change lines.offset p = _ at offset
  rw [point, offset, bytes_line last, Option.some_inj]
  by_cases ret : text.toList.getLast? = some '\r'
  · rw [if_pos ret]
    exact ⟨iff_of_false (by omega) fun agrees => agrees ⟨outside, ret⟩, fun _ _ => ⟨_, rfl, rfl⟩⟩
  · rw [if_neg ret]
    exact ⟨iff_of_true rfl fun ends => ret ends.2, fun _ ret' => (ret ret').elim⟩

/-- The offset behind a carriage return that ends a text is not that of the point, which is in front
of it. -/
theorem offset_parts_from_point :
    ¬ ∀ (text : String) (p : Position),
      (ofText text).byteOf? ((ofText text).point p) = some ((ofText text).offset p) := by
  intro agrees
  have point : (ofText "\r").byteOf? ((ofText "\r").point ⟨1, 0⟩) = some 0 := by decide
  have offset : (ofText "\r").offset ⟨1, 0⟩ = 1 := by decide
  have := agrees "\r" ⟨1, 0⟩
  rw [point, offset] at this
  cases this

/-! ### Positions moved into the text -/

/-- The position moved into the text: that of its point. -/
def clampPosition (ls : Lines) (p : Position) : Position :=
  ls.position (ls.point p)

theorem position_of_isPrefix {pre : List Char} {row : Nat} (found : ls.visible? row = some shown)
    (inside : pre <+: shown) : ls.position ⟨row, bytes pre⟩ = ⟨row, units pre⟩ := by
  obtain ⟨rest, rfl⟩ := inside
  rw [position, found]
  dsimp only
  rw [unitsBeforeByte_append]

/-- On a line, a position is moved to whole characters of what is shown of it. -/
theorem clampPosition_of_visible (found : ls.visible? p.line = some shown) :
    ls.clampPosition p = ⟨p.line, units (upToUnit shown p.character)⟩ := by
  rw [clampPosition, point, found]
  dsimp only
  rw [← bytes_upToUnit, position_of_isPrefix found (upToUnit_isPrefix ..)]

/-- Past the last line, a position is moved to the end of what is shown of the text. -/
theorem clampPosition_of_le (last : LineAt cs before line [])
    (outside : (ofChars cs).count ≤ p.line) :
    (ofChars cs).clampPosition p =
      ⟨before.count '\n', units (Line.visible ⟨bytes before, line⟩)⟩ := by
  rw [clampPosition, point, visible?_eq_none_iff.mpr outside]
  dsimp only
  rw [final_ofChars last, position_of_isPrefix last.visible? List.prefix_rfl]

end Lines

open Text

/-! ### Positions of the text -/

/-- Reading order. -/
instance : LE Position where
  le p q := p.line < q.line ∨ p.line = q.line ∧ p.character ≤ q.character

theorem Position.line_le (le : p ≤ q) : p.line ≤ q.line :=
  le.elim Nat.le_of_lt fun same => same.1.le

theorem isPosition_iff_visible :
    IsPosition text p ↔ ∃ shown, (Lines.ofText text).visible? p.line = some shown ∧
      ∃ pre, pre <+: shown ∧ units pre = p.character := by
  constructor
  · rintro ⟨before, line, after, at_, row, here⟩
    exact ⟨_, row ▸ at_.visible?, here⟩
  · rintro ⟨shown, found, here⟩
    obtain ⟨⟨start, line⟩, line_found, rfl⟩ := Option.map_eq_some_iff.mp found
    obtain ⟨before, after, at_, row, rfl⟩ := Lines.getElem?_ofChars_iff.mp line_found
    exact ⟨before, line, after, at_, row, here⟩

/-- **The positions of a text**: they are on one of its lines, not past the end of what is shown of
it, and not in the middle of a surrogate pair. -/
theorem isPosition_iff_units :
    IsPosition text p ↔ p.line < (Lines.ofText text).count ∧
      ∃ shown, (Lines.ofText text).visible? p.line = some shown ∧ p.character ≤ units shown ∧
        splitsPair (utf16 shown) p.character = false := by
  rw [isPosition_iff_visible]
  simp only [exists_prefix_iff]
  refine (and_iff_right_of_imp ?_).symm
  rintro ⟨shown, found, -⟩
  by_contra outside
  rw [Lines.visible?_eq_none_iff.mpr (Nat.le_of_not_lt outside)] at found
  cases found

theorem Lines.exists_visible {i : Nat} (inside : i < ls.count) :
    ∃ shown, ls.visible? i = some shown := by
  refine Option.ne_none_iff_exists'.mp fun none_ => ?_
  exact absurd (Lines.visible?_eq_none_iff.mp none_) (Nat.not_le.mpr inside)

/-- **A position is moved to one of the text.** -/
theorem isPosition_clampPosition (text : String) (p : Position) :
    IsPosition text ((Lines.ofText text).clampPosition p) := by
  rw [isPosition_iff_visible]
  rcases Nat.lt_or_ge p.line (Lines.ofText text).count with inside | outside
  · obtain ⟨shown, found⟩ := Lines.exists_visible inside
    rw [Lines.clampPosition_of_visible found]
    exact ⟨shown, found, _, upToUnit_isPrefix .., rfl⟩
  · obtain ⟨before, line, last⟩ := exists_lineAt_end text.toList
    rw [Lines.ofText, Lines.clampPosition_of_le last outside]
    exact ⟨_, last.visible?, _, List.prefix_rfl, rfl⟩

/-- **A position of the text is not moved.** -/
theorem clampPosition_eq_self (h : IsPosition text p) :
    (Lines.ofText text).clampPosition p = p := by
  obtain ⟨shown, found, pre, ⟨rest, rfl⟩, character⟩ := isPosition_iff_visible.mp h
  rw [Lines.clampPosition_of_visible found, ← character, upToUnit_append, character]

theorem units_le_of_isPrefix {a b : List Char} (inside : a <+: b) : units a ≤ units b := by
  obtain ⟨rest, rfl⟩ := inside
  rw [units_append]
  exact Nat.le_add_right ..

/-- **Positions are moved in order.** -/
theorem clampPosition_mono (le : p ≤ q) :
    (Lines.ofChars cs).clampPosition p ≤ (Lines.ofChars cs).clampPosition q := by
  obtain ⟨before, line, last⟩ := exists_lineAt_end cs
  have count := last.count_eq
  have rows := Position.line_le le
  rcases Nat.lt_or_ge p.line (Lines.ofChars cs).count with inside | outside
  · obtain ⟨shown, found⟩ := Lines.exists_visible inside
    rw [Lines.clampPosition_of_visible found]
    rcases Nat.lt_or_ge q.line (Lines.ofChars cs).count with inside' | outside'
    · obtain ⟨shown', found'⟩ := Lines.exists_visible inside'
      rw [Lines.clampPosition_of_visible found']
      refine le.imp_right fun ⟨same, characters⟩ => ⟨same, ?_⟩
      -- On one line, there is more up to a later character.
      obtain rfl : shown = shown' := Option.some.inj (found.symm.trans (same ▸ found'))
      exact units_le_of_isPrefix (upToUnit_mono characters)
    · rw [Lines.clampPosition_of_le last outside']
      rcases Nat.lt_or_ge p.line (before.count '\n') with earlier | there
      · exact Or.inl earlier
      · have row : p.line = before.count '\n' := by omega
        obtain rfl := Option.some.inj (found.symm.trans (row ▸ last.visible?))
        exact Or.inr ⟨row, units_le_of_isPrefix (upToUnit_isPrefix ..)⟩
  · rw [Lines.clampPosition_of_le last outside,
      Lines.clampPosition_of_le last (Nat.le_trans outside rows)]
    exact Or.inr ⟨rfl, Nat.le_refl _⟩

end ElmAssist
