import ElmAssist.Proofs.Text.Lines
import ElmAssist.Proofs.Text.Utf16
import ElmAssist.Text.Change

/-!
# Text — Changes as an editor makes them

An editor sees a text as a sequence of UTF-16 units and replaces units between two indexes.
`Utf16.edit` is that edit, with no bytes and no characters in it.

* `Utf16.index`: the unit index that a position names.
* `exists_cut`: a position names a cut of the text between characters, the same one by its byte
  offset and by its unit index.
* `utf16_applyTo`: one change is one edit of the units.
* `applyAll_edits_units`: a list of changes is the edits one after the other, and every byte offset
  on the way is between characters.
-/

namespace ElmAssist

variable {cs before line after : List Char}

/-! ### The edit of an editor -/

namespace Utf16

/-- Where line `i` starts: after `i` newlines, if there are so many. -/
def lineStart : List UInt16 → Nat → Option Nat
  | _, 0 => some 0
  | [], _ + 1 => none
  | u :: us, i + 1 => (lineStart us (if u = 10 then i else i + 1)).map (· + 1)

/-- The line that begins here, without its newline and without one carriage return that ends it. -/
def lineOf (us : List UInt16) : List UInt16 :=
  let line := us.takeWhile (· ≠ 10)
  if line.getLast? = some 13 then line.dropLast else line

/-- The unit index that a position names. A line past the last one is the end of the text, a
character past the end of its line the end of the line, and the middle of a surrogate pair is just
after the pair. -/
def index (us : List UInt16) (p : Position) : Nat :=
  match lineStart us p.line with
  | none => us.length
  | some start => start + Text.within (lineOf (us.drop start)) p.character

/-- The units after one change: those from the start of its range to the end are replaced, none
where the end is before the start. Without a range all units are. -/
def edit (us : List UInt16) (change : Change) : List UInt16 :=
  match change.range with
  | none => Text.utf16 change.text.toList
  | some r =>
    let start := index us r.start
    let stop := max (index us r.stop) start
    us.take start ++ Text.utf16 change.text.toList ++ us.drop stop

/-! ### Lines in units -/

theorem lineStart_append {before : List UInt16} (begins : ∀ u, before.getLast? = some u → u = 10)
    (rest : List UInt16) :
    lineStart (before ++ rest) (before.count 10) = some before.length := by
  induction before with
  | nil => cases rest <;> rfl
  | cons u before ih =>
    have begins' : ∀ v, before.getLast? = some v → v = 10 := fun v last =>
      begins v (by rw [List.getLast?_cons, last, Option.getD_some])
    by_cases newline : u = 10
    · rw [newline, List.count_cons_self, List.cons_append, lineStart, if_pos rfl, ih begins']
      rfl
    · -- What is before a line ends with a newline, so there is one behind `u`.
      have some_ : before ≠ [] := by
        rintro rfl
        exact newline (begins u rfl)
      have inside : 0 < before.count 10 := by
        obtain ⟨v, last⟩ := Option.isSome_iff_exists.mp (List.getLast?_isSome.mpr some_)
        exact List.count_pos_iff.mpr (begins' v last ▸ List.mem_of_getLast? last)
      obtain ⟨i, count⟩ := Nat.exists_eq_succ_of_ne_zero inside.ne'
      rw [List.count_cons_of_ne newline, count, List.cons_append, lineStart, if_neg newline,
        ← Nat.succ_eq_add_one, ← count, ih begins']
      rfl

theorem lineStart_eq_none {us : List UInt16} {i : Nat} (less : us.count 10 < i) :
    lineStart us i = none := by
  fun_induction lineStart us i with
  | case1 => omega
  | case2 => rfl
  | case3 u us i ih =>
    rw [ih, Option.map_none]
    split_ifs with newline
    · rw [newline, List.count_cons_self] at less
      omega
    · rwa [List.count_cons_of_ne newline] at less

open Text

theorem newline_single : utf16Char '\n' = [10] := by decide

theorem return_single : utf16Char '\r' = [13] := by decide

/-- What ends with a newline ends with one in units. -/
theorem newline_of_getLast? (begins : ∀ c, before.getLast? = some c → c = '\n') (u : UInt16)
    (last : (utf16 before).getLast? = some u) : u = 10 := by
  rcases before.eq_nil_or_concat' with rfl | ⟨front, c, rfl⟩
  · simp [utf16] at last
  · obtain rfl := begins c List.getLast?_concat
    have ends : (utf16 (front ++ ['\n'])).getLast? = some 10 :=
      (getLast?_utf16_iff newline_single).mpr List.getLast?_concat
    exact Option.some.inj (last.symm.trans ends)

/-- The line that begins in a text is shown without its line break. -/
theorem lineOf_utf16 (at_ : LineAt cs before line after) :
    lineOf (utf16 (line ++ after)) = utf16 (Line.visible ⟨Text.bytes before, line⟩) := by
  have taken : (utf16 (line ++ after)).takeWhile (· ≠ 10) = utf16 line := by
    have whole : ∀ u ∈ utf16 line, decide (u ≠ 10) = true := fun u mem => by
      refine decide_eq_true fun newline => ?_
      exact at_.whole ((mem_utf16_iff newline_single).mp (newline ▸ mem))
    rw [utf16_append, List.takeWhile_append_of_pos whole]
    rcases eq_nil_or_newline at_.ends with rfl | ⟨rest, rfl⟩
    · rw [show utf16 [] = [] from rfl, List.takeWhile_nil, List.append_nil]
    · rw [utf16_cons, newline_single, List.singleton_append, List.takeWhile_cons_of_neg (by decide),
        List.append_nil]
  unfold lineOf Line.visible
  rw [taken]
  dsimp only
  simp only [getLast?_utf16_iff return_single]
  split
  · rename_i ends
    obtain ⟨front, rfl⟩ := List.getLast?_eq_some_iff.mp ends
    rw [utf16_append, utf16_cons, return_single, List.dropLast_concat]
    simp [utf16]
  · rfl

end Utf16

/-! ### Cuts of the text -/

open Text

/-- **A position names a cut between characters**: its byte offset and its unit index are those of
the same characters. -/
theorem exists_cut (cs : List Char) (p : Position) :
    ∃ a b, cs = a ++ b ∧ (Lines.ofChars cs).offset p = bytes a ∧
      Utf16.index (utf16 cs) p = units a := by
  unfold Lines.offset Utf16.index
  cases found : (Lines.ofChars cs).toList[p.line]? with
  | none =>
    have missing : cs.count '\n' + 1 ≤ p.line := by
      rw [← Lines.count_ofChars]
      exact List.getElem?_eq_none_iff.mp found
    have none_ : Utf16.lineStart (utf16 cs) p.line = none :=
      Utf16.lineStart_eq_none (by rw [count_utf16 Utf16.newline_single]; omega)
    rw [none_]
    exact ⟨cs, [], (List.append_nil cs).symm, Lines.size_ofChars cs, length_utf16 cs⟩
  | some l =>
    obtain ⟨before, after, at_, row, start⟩ := Lines.getElem?_ofChars_iff.mp found
    obtain ⟨post, split⟩ := (upToUnit_isPrefix l.visible p.character).trans l.visible_prefix
    have first : Utf16.lineStart (utf16 cs) p.line = some (units before) := by
      rw [at_.split, List.append_assoc, utf16_append, ← row, ← count_utf16 Utf16.newline_single,
        Utf16.lineStart_append, length_utf16]
      exact Utf16.newline_of_getLast? at_.begins
    have rest : (utf16 cs).drop (units before) = utf16 (l.chars ++ after) := by
      rw [at_.split, List.append_assoc, utf16_append, ← length_utf16, List.drop_left]
    refine ⟨before ++ upToUnit l.visible p.character, post ++ after, ?_, ?_, ?_⟩
    · rw [at_.split, ← split]
      simp
    · dsimp only
      rw [bytes_append, bytes_upToUnit, start]
    · rw [first]
      dsimp only
      rw [rest, Utf16.lineOf_utf16 at_, start, ← units_upToUnit, units_append]

/-- **The two ends of a range name a stretch of the text**, which is empty where the second one
comes before the first. -/
theorem exists_stretch (cs : List Char) (r : Range) :
    let lines := Lines.ofChars cs
    ∃ kept removed later, cs = kept ++ removed ++ later ∧
      bytes kept = lines.offset r.start ∧
      bytes (kept ++ removed) = max (lines.offset r.stop) (lines.offset r.start) ∧
      units kept = Utf16.index (utf16 cs) r.start ∧
      units (kept ++ removed) =
        max (Utf16.index (utf16 cs) r.stop) (Utf16.index (utf16 cs) r.start) := by
  intro lines
  obtain ⟨a, b, split, start, start'⟩ := exists_cut cs r.start
  obtain ⟨c, d, split', stop, stop'⟩ := exists_cut cs r.stop
  change lines.offset r.start = _ at start
  change lines.offset r.stop = _ at stop
  have same : a ++ b = c ++ d := split.symm.trans split'
  rw [start, start', stop, stop']
  rcases Nat.le_total (bytes a) (bytes c) with le | le
  · obtain ⟨removed, rfl⟩ := exists_append_of_bytes_le same le
    refine ⟨a, removed, d, split', rfl, (Nat.max_eq_left le).symm, rfl, ?_⟩
    rw [units_append, Nat.max_eq_left (Nat.le_add_right ..)]
  · obtain ⟨between, rfl⟩ := exists_append_of_bytes_le same.symm le
    refine ⟨c ++ between, [], b, by rw [List.append_nil, split], rfl, ?_, rfl, ?_⟩
    · rw [List.append_nil, Nat.max_eq_right le]
    · rw [List.append_nil, units_append, Nat.max_eq_right (Nat.le_add_right ..)]

/-- The byte offsets from `start` to `stop` are in order, in the text and between characters. -/
def IsStretch (cs : List Char) (start stop : Nat) : Prop :=
  ∃ kept removed later, cs = kept ++ removed ++ later ∧ bytes kept = start ∧
    bytes (kept ++ removed) = stop

/-- A line is a stretch of its text. -/
theorem isStretch_line {l : Line} (mem : l ∈ (Lines.ofChars cs).toList) :
    IsStretch cs l.start (l.start + bytes l.chars) := by
  obtain ⟨i, found⟩ := List.mem_iff_getElem?.mp mem
  obtain ⟨before, after, at_, -, start⟩ := Lines.getElem?_ofChars_iff.mp found
  exact ⟨before, l.chars, after, at_.split, start, by rw [bytes_append, start]⟩

namespace Change

/-- **One change is one edit of the units.** -/
theorem utf16_applyTo (cs : List Char) (change : Change) :
    utf16 (applyTo cs change) = Utf16.edit (utf16 cs) change := by
  unfold applyTo Utf16.edit
  cases change.range with
  | none => rfl
  | some r =>
    obtain ⟨kept, removed, later, split, start, stop, start', stop'⟩ := exists_stretch cs r
    dsimp only
    rw [← stop, ← start, ← stop', ← start', splice, ← length_utf16, ← length_utf16]
    have kept_eq : takeBytes? cs (bytes kept) = some kept := by
      rw [split, List.append_assoc, takeBytes?_append]
    have later_eq : dropBytes? cs (bytes (kept ++ removed)) = some later := by
      rw [split, dropBytes?_append]
    have kept_units : (utf16 cs).take (utf16 kept).length = utf16 kept := by
      rw [split, List.append_assoc, utf16_append, List.take_left]
    have later_units : (utf16 cs).drop (utf16 (kept ++ removed)).length = utf16 later := by
      rw [split, utf16_append (kept ++ removed), List.drop_left]
    rw [kept_eq, later_eq, kept_units, later_units, utf16_append, utf16_append]
    rfl

theorem utf16_foldl_applyTo (cs : List Char) (changes : List Change) :
    utf16 (changes.foldl applyTo cs) = changes.foldl Utf16.edit (utf16 cs) := by
  induction changes generalizing cs with
  | nil => rfl
  | cons change changes ih => rw [List.foldl_cons, List.foldl_cons, ih, utf16_applyTo]

/-- **Changes are applied as an editor applies them.** On the way, every line of a text is a stretch
of it, and so is what the next change replaces, whatever its range. The result is the text whose
UTF-16 units are those after the edits, one after the other. -/
theorem applyAll_edits_units (text : String) (changes : List Change) :
    (∀ (n : Nat) (r : Range),
      let now := (applyAll text (changes.take n)).toList
      let lines := Lines.ofChars now
      (∀ l ∈ lines.toList, IsStretch now l.start (l.start + bytes l.chars)) ∧
        IsStretch now (lines.offset r.start) (max (lines.offset r.stop) (lines.offset r.start))) ∧
      ∀ s, s = applyAll text changes ↔
        utf16 s.toList = changes.foldl Utf16.edit (utf16 text.toList) := by
  constructor
  · intro n r now lines
    obtain ⟨kept, removed, later, split, start, stop, -⟩ := exists_stretch now r
    exact ⟨fun l mem => isStretch_line mem, kept, removed, later, split, start, stop⟩
  · intro s
    rw [← utf16_foldl_applyTo, applyAll]
    constructor
    · rintro rfl
      rw [String.toList_ofList]
    · intro same
      rw [← utf16_injective same, String.ofList_toList]

/-- A range from the middle of a surrogate pair to past the end of a line with a carriage return. -/
example : applyAll "a😀bc\r\nd" [⟨some ⟨⟨0, 2⟩, ⟨0, 9⟩⟩, "!"⟩, ⟨some ⟨⟨7, 7⟩, ⟨0, 0⟩⟩, "."⟩] =
    "a😀!\r\nd." := by
  decide +kernel

end Change

end ElmAssist
