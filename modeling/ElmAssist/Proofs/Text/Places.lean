import ElmAssist.Forest.Basic
import ElmAssist.Proofs.Text.Lines
import ElmAssist.Proofs.Tree.Links
import Mathlib.Data.Set.Function

/-!
# Text — Places

Byte offsets, points and positions are three names for a place in a text. Not every offset has a
position: none is inside a character, or between a carriage return and the line break that it
belongs to.

* `IsAddressable`: the byte offsets that have one; `IsPosition`: the positions of a text.
* `PlaceAt`: a line cut in two where it is shown, with the offset, the point and the position of the
  cut (`offset_eq`, `pointAt_eq`, `position_eq`, `point_eq`).
* `positionAt`: from an offset to its position; `bijOn_positionAt`, `positionAt_before`,
  `offset_and_point_positionAt`.
* `places_correspond`: the offsets that can be addressed and the positions of a text correspond, in
  order, and each way back leads to where one came from. So the range of a node cuts the text of the
  node out of its file.
-/

namespace ElmAssist

variable {cs before line after a b pre post : List Char}

/-! ### Places -/

/-- A place in a text: its line is cut in two where it is shown, short of the line break. -/
structure PlaceAt (cs before pre post after : List Char) : Prop
    extends LineAt cs before (pre ++ post) after where
  shown : pre <+: Line.visible ⟨Text.bytes before, pre ++ post⟩

/-- A byte offset that can be addressed: it is between characters, and not between a carriage return
and the newline or end of text that follows it. -/
def IsAddressable (text : String) (n : Nat) : Prop :=
  ∃ a b, text.toList = a ++ b ∧ Text.bytes a = n ∧
    ¬ (a.getLast? = some '\r' ∧ (b = [] ∨ b.head? = some '\n'))

/-- A position of a text: its character counts some characters that the line begins with as it is
shown, without the newline and without one carriage return at its end. -/
def IsPosition (text : String) (p : Position) : Prop :=
  ∃ before line after, LineAt text.toList before line after ∧ before.count '\n' = p.line ∧
    ∃ pre, pre <+: Line.visible ⟨Text.bytes before, line⟩ ∧ Text.units pre = p.character

/-- Reading order, strictly before. -/
def Position.Before (p q : Position) : Prop :=
  p.line < q.line ∨ p.line = q.line ∧ p.character < q.character

/-- A carriage return that ends a line is all that is not shown. -/
theorem prefix_visible_iff {start : Nat} :
    pre <+: Line.visible ⟨start, pre ++ post⟩ ↔ ¬ (pre.getLast? = some '\r' ∧ post = []) := by
  unfold Line.visible
  dsimp only
  rcases eq_or_ne post [] with rfl | some_
  · -- The cut is at the end of the line, where a carriage return would be left out.
    rw [List.append_nil]
    split
    · rename_i ends
      refine iff_of_false (fun shown => ?_) (by simp [ends])
      obtain ⟨c, front, rfl⟩ := List.getLast?_eq_some_iff.mp ends
      have shorter := shown.length_le
      rw [List.dropLast_concat, List.length_append, List.length_singleton] at shorter
      omega
    · rename_i ends
      exact iff_of_true List.prefix_rfl fun ⟨ends', _⟩ => ends ends'
  · refine iff_of_true ?_ fun ⟨_, none_⟩ => some_ none_
    split
    · rw [List.dropLast_append_of_ne_nil some_]
      exact List.prefix_append ..
    · exact List.prefix_append ..

namespace LineAt

/-- Where a cut of a line can be addressed, it is a place. -/
theorem placeAt_iff (at_ : LineAt cs before (pre ++ post) after) :
    PlaceAt cs before pre post after ↔ ¬ ((before ++ pre).getLast? = some '\r' ∧
      (post ++ after = [] ∨ (post ++ after).head? = some '\n')) := by
  have next : post ++ after = [] ∨ (post ++ after).head? = some '\n' ↔ post = [] := by
    cases post with
    | nil =>
      refine iff_of_true ?_ rfl
      rcases eq_nil_or_newline at_.ends with rfl | ⟨rest, rfl⟩
      · exact Or.inl rfl
      · exact Or.inr rfl
    | cons c post =>
      refine iff_of_false ?_ (List.cons_ne_nil c post)
      rintro (none_ | newline)
      · cases none_
      · obtain rfl := Option.some.inj newline
        exact at_.whole (List.mem_append_right _ List.mem_cons_self)
  rw [at_.getLast?_eq_return_iff, next, ← prefix_visible_iff]
  exact ⟨PlaceAt.shown, fun shown => ⟨at_, shown⟩⟩

end LineAt

theorem exists_placeAt {text : String} {n : Nat} (h : IsAddressable text n) :
    ∃ before pre post after, PlaceAt text.toList before pre post after ∧
      Text.bytes (before ++ pre) = n := by
  obtain ⟨a, b, split, rfl, between⟩ := h
  obtain ⟨before, pre, post, after, rfl, rfl, at_⟩ := exists_lineAt a b
  exact ⟨before, pre, post, after, split ▸ at_.placeAt_iff.mpr between, rfl⟩

namespace PlaceAt

variable {text : String}

theorem isAddressable (place : PlaceAt text.toList before pre post after) :
    IsAddressable text (Text.bytes (before ++ pre)) :=
  ⟨_, _, place.split_cut, rfl, place.toLineAt.placeAt_iff.mp place⟩

/-- The shown part of the line goes on after the place. -/
theorem exists_visible (place : PlaceAt cs before pre post after) :
    ∃ rest, (Lines.ofChars cs).visible? (before.count '\n') = some (pre ++ rest) := by
  obtain ⟨rest, shown⟩ := place.shown
  exact ⟨rest, shown ▸ place.visible?⟩

theorem position_eq (place : PlaceAt cs before pre post after) :
    (Lines.ofChars cs).position ⟨before.count '\n', Text.bytes pre⟩ =
      ⟨before.count '\n', Text.units pre⟩ := by
  obtain ⟨rest, shown⟩ := place.exists_visible
  rw [Lines.position, shown]
  dsimp only
  rw [Text.unitsBeforeByte_append]

theorem point_eq (place : PlaceAt cs before pre post after) :
    (Lines.ofChars cs).point ⟨before.count '\n', Text.units pre⟩ =
      ⟨before.count '\n', Text.bytes pre⟩ := by
  obtain ⟨rest, shown⟩ := place.exists_visible
  rw [Lines.point, shown]
  dsimp only
  rw [Text.bytesBeforeUnit_append]

theorem offset_eq (place : PlaceAt cs before pre post after) :
    (Lines.ofChars cs).offset ⟨before.count '\n', Text.units pre⟩ =
      Text.bytes (before ++ pre) := by
  obtain ⟨rest, shown⟩ := place.shown
  rw [Lines.offset, Lines.getElem?_ofChars place.toLineAt]
  dsimp only
  rw [← shown, Text.bytesBeforeUnit_append, Text.bytes_append]

/-- The point of a place has the lines before it and the bytes before it in its line. -/
theorem pointAt_eq (place : PlaceAt text.toList before pre post after) :
    Text.pointAt text (Text.bytes (before ++ pre)) = ⟨before.count '\n', Text.bytes pre⟩ := by
  rw [Text.pointAt_append place.split_cut, Text.pointAfter_append,
    Text.pointAfter_of_notMem _ place.notMem_pre, place.pointAfter_before, Nat.zero_add]

/-- Of two places of a text, the one with fewer bytes before it has the smaller position. -/
theorem before_of_bytes_lt {before' pre' post' after' : List Char}
    (place : PlaceAt cs before pre post after) (place' : PlaceAt cs before' pre' post' after')
    (less : Text.bytes (before ++ pre) < Text.bytes (before' ++ pre')) :
    Position.Before ⟨before.count '\n', Text.units pre⟩ ⟨before'.count '\n', Text.units pre'⟩ := by
  have same : (before ++ pre) ++ (post ++ after) = (before' ++ pre') ++ (post' ++ after') :=
    place.split_cut.symm.trans place'.split_cut
  obtain ⟨between, longer⟩ := Text.exists_append_of_bytes_le same less.le
  have rows : before'.count '\n' = before.count '\n' + between.count '\n' := by
    have := congrArg (List.count '\n') longer
    simpa [List.count_append, List.count_eq_zero.mpr place.notMem_pre,
      List.count_eq_zero.mpr place'.notMem_pre] using this
  rcases Nat.eq_zero_or_pos (between.count '\n') with none_ | some_
  · -- In one line, what is between the two has units as it has bytes.
    have row : before.count '\n' = before'.count '\n' := by omega
    obtain rfl := place.before_unique place'.toLineAt row
    obtain rfl : pre' = pre ++ between := by simpa using longer
    refine Or.inr ⟨rfl, ?_⟩
    have ne : between ≠ [] := by
      rintro rfl
      simp at less
    rw [Text.units_append]
    exact Nat.lt_add_of_pos_right (Text.units_pos ne)
  · -- A newline between the two puts the second one on a later line.
    refine Or.inl ?_
    dsimp only
    omega

end PlaceAt

/-- A position of a text is that of a place. -/
theorem isPosition_iff {text : String} {p : Position} :
    IsPosition text p ↔ ∃ before pre post after, PlaceAt text.toList before pre post after ∧
      p = ⟨before.count '\n', Text.units pre⟩ := by
  constructor
  · rintro ⟨before, line, after, at_, row, pre, shown, character⟩
    obtain ⟨post, rfl⟩ := shown.trans (Line.visible_prefix _)
    exact ⟨before, pre, post, after, ⟨at_, shown⟩, by rw [row, character]⟩
  · rintro ⟨before, pre, post, after, place, rfl⟩
    exact ⟨before, _, after, place.toLineAt, rfl, pre, place.shown, rfl⟩

/-! ### From offsets to positions -/

/-- The position of a byte offset, by way of its point. -/
def positionAt (text : String) (n : Nat) : Position :=
  (Lines.ofText text).position (Text.pointAt text n)

variable {text : String}

theorem PlaceAt.positionAt_eq (place : PlaceAt text.toList before pre post after) :
    positionAt text (Text.bytes (before ++ pre)) = ⟨before.count '\n', Text.units pre⟩ := by
  rw [positionAt, place.pointAt_eq]
  exact place.position_eq

/-- The position of an offset leads back to its offset and to its point. -/
theorem offset_and_point_positionAt {n : Nat} (h : IsAddressable text n) :
    (Lines.ofText text).offset (positionAt text n) = n ∧
      (Lines.ofText text).point (positionAt text n) = Text.pointAt text n := by
  obtain ⟨before, pre, post, after, place, rfl⟩ := exists_placeAt h
  rw [place.positionAt_eq, place.pointAt_eq]
  exact ⟨place.offset_eq, place.point_eq⟩

theorem bijOn_positionAt (text : String) :
    Set.BijOn (positionAt text) {n | IsAddressable text n}
      {p | p.line < (Lines.ofText text).count ∧ IsPosition text p} := by
  refine ⟨?_, ?_, ?_⟩
  · intro n h
    obtain ⟨before, pre, post, after, place, rfl⟩ := exists_placeAt h
    rw [place.positionAt_eq]
    exact ⟨place.lt_count, isPosition_iff.mpr ⟨before, pre, post, after, place, rfl⟩⟩
  · -- An offset is found again from its position.
    intro m hm n hn same
    rw [← (offset_and_point_positionAt hm).1, ← (offset_and_point_positionAt hn).1, same]
  · rintro p ⟨-, h⟩
    obtain ⟨before, pre, post, after, place, rfl⟩ := isPosition_iff.mp h
    exact ⟨_, place.isAddressable, place.positionAt_eq⟩

theorem positionAt_before {m n : Nat} (hm : IsAddressable text m) (hn : IsAddressable text n)
    (less : m < n) : (positionAt text m).Before (positionAt text n) := by
  obtain ⟨before, pre, post, after, place, rfl⟩ := exists_placeAt hm
  obtain ⟨before', pre', post', after', place', rfl⟩ := exists_placeAt hn
  rw [place.positionAt_eq, place'.positionAt_eq]
  exact place.before_of_bytes_lt place' less

/-! ### Nodes -/

/-- The stretch between two byte offsets, as a parser gives it. -/
def Span.between (text : String) (start stop : Nat) : Span :=
  ⟨Text.pointAt text start, Text.pointAt text stop, start, stop⟩

/-- The rows of a text from the depths, kinds and ends of its nodes. -/
def rowsAt (text : String) (nodes : List (Nat × Kind × Nat × Nat)) : List Row :=
  nodes.map fun (depth, kind, start, stop) => ⟨depth, kind, kind.label, .between text start stop⟩

theorem offset_range {span : Span} (points : span = .between text span.startByte span.stopByte)
    (start : IsAddressable text span.startByte) (stop : IsAddressable text span.stopByte) :
    (Lines.ofText text).offset ((Lines.ofText text).range span).start = span.startByte ∧
      (Lines.ofText text).offset ((Lines.ofText text).range span).stop = span.stopByte := by
  rw [Lines.range, points]
  exact ⟨(offset_and_point_positionAt start).1, (offset_and_point_positionAt stop).1⟩

theorem Tree.textOf_ofRows (text : String) (rows : List Row) (i : NodeId) :
    (ofRows text rows).textOf i = cover text.toList ((ofRows text rows).span i) := by
  rw [textOf, span, get?_ofRows]
  cases rows[i]? with
  | some r => rfl
  | none => cases text.toList <;> rfl

theorem Tree.exists_slice? {rows : List Row} {i : NodeId}
    (start : IsAddressable text ((ofRows text rows).span i).startByte)
    (stop : IsAddressable text ((ofRows text rows).span i).stopByte)
    (le : ((ofRows text rows).span i).startByte ≤ ((ofRows text rows).span i).stopByte) :
    ∃ part, Text.slice? text.toList ((ofRows text rows).span i).startByte
      ((ofRows text rows).span i).stopByte = some part ∧
        (ofRows text rows).textOf i = String.ofList part := by
  obtain ⟨a, b, split, bytes, -⟩ := start
  obtain ⟨c, d, split', bytes', -⟩ := stop
  obtain ⟨part, rfl⟩ := Text.exists_append_of_bytes_le (split.symm.trans split')
    (by rw [bytes, bytes']; exact le)
  have slice := Text.slice?_append a part d
  rw [← split', bytes, bytes'] at slice
  exact ⟨part, slice, by rw [textOf_ofRows, cover, slice, Option.getD_some]⟩

/-- **Byte offsets, points and positions name the same places.** The way from an offset over its
point to its position is a bijection from the offsets that can be addressed to the positions of the
text. It keeps the order, and offset and point of a position are those that it came from. So the
text between the offsets of the range of a node is the text of the node. -/
theorem places_correspond (text : String) :
    let lines := Lines.ofText text
    Set.BijOn (positionAt text) {n | IsAddressable text n}
        {p | p.line < lines.count ∧ IsPosition text p} ∧
      (∀ m n, IsAddressable text m → IsAddressable text n → m < n →
        (positionAt text m).Before (positionAt text n)) ∧
      (∀ n, IsAddressable text n → lines.offset (positionAt text n) = n ∧
        lines.point (positionAt text n) = Text.pointAt text n) ∧
      ∀ (parse : Parser) (uri : String) (version : Int) (i : NodeId),
        let f := SourceFile.build parse uri text version
        let span := f.tree.span i
        let range := f.rangeOf i
        span = .between text span.startByte span.stopByte →
        IsAddressable text span.startByte → IsAddressable text span.stopByte →
          f.lines.offset range.start = span.startByte ∧ f.lines.offset range.stop = span.stopByte ∧
          (span.startByte ≤ span.stopByte → ∃ part, Text.slice? text.toList
            (f.lines.offset range.start) (f.lines.offset range.stop) = some part ∧
            f.tree.textOf i = String.ofList part) := by
  intro lines
  refine ⟨bijOn_positionAt text, fun m n => positionAt_before,
    fun n => offset_and_point_positionAt, ?_⟩
  intro parse uri version i f span range points start stop
  obtain ⟨first, last⟩ : f.lines.offset range.start = span.startByte ∧
      f.lines.offset range.stop = span.stopByte := offset_range points start stop
  rw [first, last]
  exact ⟨rfl, rfl, Tree.exists_slice? start stop⟩

/-- In a line that ends with `\r\n`, a string with a character of four bytes and two units. -/
theorem string_cut_out :
    let text := "s = \"😀\"\r\n"
    let parse : Parser := .constant (rowsAt text
      [(0, .file, 0, 12), (1, .valueDeclaration, 0, 10), (2, .functionDeclarationLeft, 0, 1),
        (3, .lowerCaseIdentifier, 0, 1), (2, .other, 2, 3), (2, .other, 4, 10)])
    let f := SourceFile.build parse "file:///A.elm" text 1
    f.rangeOf 5 = ⟨⟨0, 4⟩, ⟨0, 8⟩⟩ ∧
      ∃ part, Text.slice? text.toList (f.lines.offset ⟨0, 4⟩) (f.lines.offset ⟨0, 8⟩) =
        some part ∧ f.tree.textOf 5 = String.ofList part := by
  intro text parse f
  have range : f.rangeOf 5 = ⟨⟨0, 4⟩, ⟨0, 8⟩⟩ := by decide +kernel
  have span : f.tree.span 5 = .between text 4 10 := by decide +kernel
  have start : IsAddressable text 4 := ⟨"s = ".toList, "\"😀\"\r\n".toList, by decide +kernel⟩
  have stop : IsAddressable text 10 := ⟨"s = \"😀\"".toList, "\r\n".toList, by decide +kernel⟩
  have nodes := (places_correspond text).2.2.2 parse "file:///A.elm" 1 5
  dsimp only at nodes
  rw [range, span] at nodes
  obtain ⟨-, -, part⟩ := nodes rfl start stop
  exact ⟨range, part (by decide)⟩

end ElmAssist
