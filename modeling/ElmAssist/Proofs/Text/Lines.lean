import ElmAssist.Proofs.Text.Measure
import ElmAssist.Text.Lines

/-!
# Text — Lines

A text is cut at its newlines. `LineAt` says what a line of a text is, without the search that finds
it: what is before it, its characters, and what is after it.

* `exists_lineAt`: every cut of a text is in a line.
* `Lines.getElem?_ofChars_iff`: line `i` is the one that `i` newlines are before, and it starts
  after the bytes before it.
* `LineAt.before_unique`: a line is where its number is.
* `LineAt.pointAfter_before`: the point where a line begins.
* `exists_lineAt_end`: the last line, where the text ends (`Lines.size_ofChars`).
-/

namespace ElmAssist

variable {cs before line after a b pre post : List Char}

/-! ### Lines -/

/-- A line of a text: there is no newline in it, what is before it ends with one, and what is after
it begins with one, where there is anything. -/
structure LineAt (cs before line after : List Char) : Prop where
  split : cs = before ++ line ++ after
  whole : '\n' ∉ line
  begins : ∀ c, before.getLast? = some c → c = '\n'
  ends : ∀ c, after.head? = some c → c = '\n'

/-- A text has a first line. -/
theorem exists_firstLine (b : List Char) :
    ∃ post after, b = post ++ after ∧ '\n' ∉ post ∧ ∀ c, after.head? = some c → c = '\n' := by
  induction b with
  | nil => exact ⟨[], [], rfl, List.not_mem_nil, nofun⟩
  | cons c b ih =>
    by_cases newline : c = '\n'
    · exact ⟨[], c :: b, rfl, List.not_mem_nil, fun d head => Option.some.inj head ▸ newline⟩
    · obtain ⟨post, after, rfl, whole, ends⟩ := ih
      exact ⟨c :: post, after, rfl, by simpa [Ne.symm newline] using whole, ends⟩

/-- A text has a last line. -/
theorem exists_lastLine (a : List Char) :
    ∃ before pre, a = before ++ pre ∧ '\n' ∉ pre ∧ ∀ c, before.getLast? = some c → c = '\n' := by
  induction a using List.reverseRecOn with
  | nil => exact ⟨[], [], rfl, List.not_mem_nil, nofun⟩
  | append_singleton a c ih =>
    by_cases newline : c = '\n'
    · refine ⟨a ++ [c], [], by simp, List.not_mem_nil, fun d last => ?_⟩
      rw [List.getLast?_concat] at last
      exact Option.some.inj last ▸ newline
    · obtain ⟨before, pre, rfl, whole, begins⟩ := ih
      refine ⟨before, pre ++ [c], by simp, fun mem => ?_, begins⟩
      rcases List.mem_append.mp mem with mem | mem
      · exact whole mem
      · exact newline (List.mem_singleton.mp mem).symm

/-- **Every cut of a text is in a line.** -/
theorem exists_lineAt (a b : List Char) :
    ∃ before pre post after, a = before ++ pre ∧ b = post ++ after ∧
      LineAt (a ++ b) before (pre ++ post) after := by
  obtain ⟨before, pre, rfl, whole, begins⟩ := exists_lastLine a
  obtain ⟨post, after, rfl, whole', ends⟩ := exists_firstLine b
  refine ⟨before, pre, post, after, rfl, rfl, by simp, fun mem => ?_, begins, ends⟩
  exact (List.mem_append.mp mem).elim whole whole'

/-- What follows a line is nothing, or a newline and more lines. -/
theorem eq_nil_or_newline (ends : ∀ c, after.head? = some c → c = '\n') :
    after = [] ∨ ∃ rest, after = '\n' :: rest := by
  cases after with
  | nil => exact Or.inl rfl
  | cons c rest => exact Or.inr ⟨rest, by rw [ends c rfl]⟩

theorem getLast?_append_newline (l before : List Char) :
    (l ++ '\n' :: before).getLast? = some (before.getLast?.getD '\n') := by
  simp [List.getLast?_append, List.getLast?_cons]

/-- A line put in front moves the lines of a text by one. -/
theorem LineAt.cons {rest l : List Char} (at_ : LineAt rest before line after) :
    LineAt (l ++ '\n' :: rest) (l ++ '\n' :: before) line after where
  split := by simp [at_.split]
  whole := at_.whole
  begins c last := by
    rw [getLast?_append_newline, Option.some_inj] at last
    cases found : before.getLast? with
    | none => simpa [found] using last.symm
    | some d =>
      rw [found, Option.getD_some] at last
      exact at_.begins c (last ▸ found)
  ends := at_.ends

namespace Lines

open Text

theorem length_pieces (cs : List Char) : (pieces cs).length = cs.count '\n' + 1 := by
  induction cs with
  | nil => rfl
  | cons c cs ih =>
    rw [pieces]
    by_cases newline : c = '\n'
    · rw [if_pos newline, newline, List.length_cons, ih, List.count_cons_self]
    · rw [if_neg newline, List.count_cons_of_ne newline]
      cases found : pieces cs with
      | nil => simp [found] at ih
      | cons l ls => rw [← ih, found, List.length_cons, List.length_cons]

theorem pieces_of_notMem (none_ : '\n' ∉ line) : pieces line = [line] := by
  induction line with
  | nil => rfl
  | cons c line ih =>
    obtain ⟨other, none_⟩ := List.ne_and_not_mem_of_not_mem_cons none_
    rw [pieces, if_neg other.symm, ih none_]

theorem pieces_append_newline (none_ : '\n' ∉ line) (rest : List Char) :
    pieces (line ++ '\n' :: rest) = line :: pieces rest := by
  induction line with
  | nil => rfl
  | cons c line ih =>
    obtain ⟨other, none_⟩ := List.ne_and_not_mem_of_not_mem_cons none_
    rw [List.cons_append, pieces, if_neg other.symm, ih none_]

theorem exists_lineAt_of_lt {i : Nat} (lt : i < (pieces cs).length) :
    ∃ before line after, LineAt cs before line after ∧ before.count '\n' = i := by
  induction i generalizing cs with
  | zero =>
    obtain ⟨line, after, split, whole, ends⟩ := exists_firstLine cs
    exact ⟨[], line, after, ⟨split, whole, nofun, ends⟩, rfl⟩
  | succ i ih =>
    obtain ⟨l, after, rfl, whole, ends⟩ := exists_firstLine cs
    rcases eq_nil_or_newline ends with rfl | ⟨rest, rfl⟩
    · rw [List.append_nil, pieces_of_notMem whole, List.length_singleton] at lt
      omega
    · rw [pieces_append_newline whole, List.length_cons, Nat.add_lt_add_iff_right] at lt
      obtain ⟨before, line, after, at_, row⟩ := ih lt
      exact ⟨_, line, after, at_.cons, by simp [List.count_eq_zero.mpr whole, row]⟩

theorem getElem?_number {k : Nat} (at_ : LineAt cs before line after)
    (row : before.count '\n' = k) (start : Nat) :
    (number start (pieces cs))[k]? = some ⟨start + bytes before, line⟩ := by
  induction k generalizing cs before start with
  | zero =>
    -- What is before a line and has no newline is nothing.
    obtain rfl : before = [] := by
      by_contra some_
      obtain ⟨c, last⟩ := Option.isSome_iff_exists.mp (List.getLast?_isSome.mpr some_)
      exact List.count_eq_zero.mp row (at_.begins c last ▸ List.mem_of_getLast? last)
    rw [at_.split, List.nil_append]
    rcases eq_nil_or_newline at_.ends with rfl | ⟨rest, rfl⟩
    · rw [List.append_nil, pieces_of_notMem at_.whole]
      rfl
    · rw [pieces_append_newline at_.whole]
      rfl
  | succ k ih =>
    obtain ⟨l, later, rfl, whole, ends⟩ := exists_firstLine before
    rcases eq_nil_or_newline ends with rfl | ⟨before, rfl⟩
    · rw [List.append_nil, List.count_eq_zero.mpr whole] at row
      omega
    · -- Without its first line the text has one line less before this one.
      rw [List.count_append, List.count_eq_zero.mpr whole, List.count_cons_self] at row
      have begins : ∀ c, before.getLast? = some c → c = '\n' := fun c last =>
        at_.begins c (by rw [getLast?_append_newline, last, Option.getD_some])
      have rest : LineAt (before ++ line ++ after) before line after :=
        ⟨rfl, at_.whole, begins, at_.ends⟩
      rw [at_.split, List.append_assoc, List.append_assoc, List.cons_append,
        pieces_append_newline whole, number, List.getElem?_cons_succ, ← List.append_assoc,
        ih rest (by omega), bytes_append, bytes, show Char.utf8Size '\n' = 1 from rfl]
      congr 2
      omega

theorem length_number (start : Nat) (ls : List (List Char)) :
    (number start ls).length = ls.length := by
  induction ls generalizing start with
  | nil => rfl
  | cons l ls ih => rw [number, List.length_cons, List.length_cons, ih]

theorem getElem?_ofChars (at_ : LineAt cs before line after) :
    (ofChars cs).toList[before.count '\n']? = some ⟨bytes before, line⟩ := by
  have here := getElem?_number at_ rfl 0
  rwa [Nat.zero_add] at here

theorem count_ofChars (cs : List Char) : (ofChars cs).count = cs.count '\n' + 1 :=
  (length_number 0 (pieces cs)).trans (length_pieces cs)

/-- **Line `i` is the one that `i` newlines are before.** -/
theorem getElem?_ofChars_iff {i : Nat} {l : Line} :
    (ofChars cs).toList[i]? = some l ↔ ∃ before after, LineAt cs before l.chars after ∧
      before.count '\n' = i ∧ bytes before = l.start := by
  constructor
  · intro found
    have lt : i < (pieces cs).length := by
      rw [← length_number 0]
      exact (List.getElem?_eq_some_iff.mp found).1
    obtain ⟨before, line, after, at_, row⟩ := exists_lineAt_of_lt lt
    obtain rfl := Option.some.inj (found.symm.trans (row ▸ getElem?_ofChars at_))
    exact ⟨before, after, at_, row, rfl⟩
  · rintro ⟨before, after, at_, row, start⟩
    rw [← row, getElem?_ofChars at_, start]

end Lines

/-! ### What is shown -/

theorem Line.visible_prefix (l : Line) : l.visible <+: l.chars := by
  unfold visible
  split
  · exact List.dropLast_prefix _
  · exact List.prefix_rfl

namespace LineAt

theorem visible? (at_ : LineAt cs before line after) :
    (Lines.ofChars cs).visible? (before.count '\n') =
      some (Line.visible ⟨Text.bytes before, line⟩) := by
  rw [Lines.visible?, Lines.getElem?_ofChars at_, Option.map_some]

theorem lt_count (at_ : LineAt cs before line after) :
    before.count '\n' < (Lines.ofChars cs).count := by
  exact (List.getElem?_eq_some_iff.mp (Lines.getElem?_ofChars at_)).1

/-- A line is where its number is. -/
theorem before_unique {before' line' after' : List Char} (at_ : LineAt cs before line after)
    (at' : LineAt cs before' line' after') (row : before.count '\n' = before'.count '\n') :
    before = before' := by
  have here := Lines.getElem?_ofChars at_
  rw [row, Lines.getElem?_ofChars at'] at here
  have bytes_eq : Text.bytes before' = Text.bytes before :=
    congrArg Line.start (Option.some.inj here)
  have same : before ++ (line ++ after) = before' ++ (line' ++ after') := by
    rw [← List.append_assoc, ← List.append_assoc, ← at_.split, ← at'.split]
  exact Text.eq_of_bytes_eq same bytes_eq.symm

theorem split_cut (at_ : LineAt cs before (pre ++ post) after) :
    cs = (before ++ pre) ++ (post ++ after) := by
  simpa using at_.split

/-- The row of a line is its number. -/
theorem pointAfter_before (at_ : LineAt cs before line after) :
    Text.pointAfter .origin before = ⟨before.count '\n', 0⟩ := by
  rcases before.eq_nil_or_concat' with rfl | ⟨front, c, rfl⟩
  · rfl
  · obtain rfl := at_.begins c List.getLast?_concat
    rw [Text.pointAfter_append, Text.pointAfter_newline, Text.row_pointAfter, List.count_append,
      List.count_singleton_self]
    exact congrArg (Point.mk · 0) (by rw [Point.origin, Nat.zero_add])

/-- What is before a line ends with its newline, so a carriage return in front of a cut is one of the
line. -/
theorem getLast?_eq_return_iff (at_ : LineAt cs before line after) :
    (before ++ pre).getLast? = some '\r' ↔ pre.getLast? = some '\r' := by
  rw [List.getLast?_append, Option.or_eq_some_iff]
  refine or_iff_left ?_
  rintro ⟨-, last⟩
  exact absurd (at_.begins _ last) (by decide)

/-- A line that nothing follows is the last one. -/
theorem count_eq (last : LineAt cs before line []) :
    (Lines.ofChars cs).count = before.count '\n' + 1 := by
  rw [Lines.count_ofChars, last.split, List.append_nil, List.count_append,
    List.count_eq_zero.mpr last.whole, Nat.add_zero]

theorem getLast? (last : LineAt cs before line []) :
    (Lines.ofChars cs).toList.getLast? = some ⟨Text.bytes before, line⟩ := by
  have count : (Lines.ofChars cs).toList.length = before.count '\n' + 1 := last.count_eq
  rw [List.getLast?_eq_getElem?, count, Nat.add_sub_cancel, Lines.getElem?_ofChars last]

theorem notMem_pre (at_ : LineAt cs before (pre ++ post) after) : '\n' ∉ pre :=
  fun mem => at_.whole (List.mem_append_left _ mem)

end LineAt

/-- **A text has a last line.** -/
theorem exists_lineAt_end (cs : List Char) : ∃ before line, LineAt cs before line [] := by
  obtain ⟨before, pre, post, after, -, ends, at_⟩ := exists_lineAt cs []
  obtain ⟨rfl, rfl⟩ := List.append_eq_nil_iff.mp ends.symm
  rw [List.append_nil, List.append_nil] at at_
  exact ⟨before, pre, at_⟩

/-- The size of a text is where its last line ends. -/
theorem Lines.size_ofChars (cs : List Char) : (ofChars cs).size = Text.bytes cs := by
  obtain ⟨before, line, last⟩ := exists_lineAt_end cs
  rw [size, last.getLast?, last.split, List.append_nil, Text.bytes_append]

end ElmAssist
