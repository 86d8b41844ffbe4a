import ElmAssist.Tool.Compiler
import Mathlib.Data.List.Infix
import Mathlib.Data.List.TakeWhile

/-!
# Text — Colour escapes that stay

Escapes are removed from left to right, once. What is removed are the escapes of the text as it is; when
the parts around one make another, that one stays. And of the two texts that a message is made of, only
the second has its escapes removed.

* `IsEscape`, `Coloured`: escapes, and the texts that have one.
* `plain`: the characters that are left, with one equation for an escape and one for a character that
  stays.
* `plain_eq_self_iff`: removing escapes leaves the texts that have none, and only these.
* `Mixed`, `Rejoins`: digits with escapes put between them, and the texts with an escape whose digits are
  like that. `coloured_plain_iff`: what is left has an escape when there was one of these.
* `escapes_of_message`: the messages that have an escape. `escapes_stay`: one by its title, and one by an
  escape put together in its details.
-/

namespace ElmAssist

namespace Text

/-! ### Escapes -/

/-- Decimal digits, at least one. -/
def IsNumber (ds : List Char) : Prop :=
  ds ≠ [] ∧ ∀ d ∈ ds, isDecimalDigit d = true

/-- An escape: `ESC`, which may be missing, then `[`, a number and `m`. -/
inductive IsEscape : List Char → Prop
  | short {ds : List Char} (number : IsNumber ds) : IsEscape ('[' :: (ds ++ ['m']))
  | full {ds : List Char} (number : IsNumber ds) : IsEscape ('\x1b' :: '[' :: (ds ++ ['m']))

/-- There is an escape among the characters. -/
def Coloured (cs : List Char) : Prop :=
  ∃ e, IsEscape e ∧ e <:+: cs

/-- An escape is at the front of the characters. -/
def Starts (cs : List Char) : Prop :=
  ∃ e, IsEscape e ∧ e <+: cs

variable {cs rest e ds : List Char} {c : Char}

/-- Digits up to an `m` are those of the text. -/
theorem dropWhile_digits_iff :
    cs.dropWhile isDecimalDigit = 'm' :: rest ↔
      ∃ ds, (∀ d ∈ ds, isDecimalDigit d = true) ∧ cs = ds ++ 'm' :: rest := by
  constructor
  · intro dropped
    refine ⟨cs.takeWhile isDecimalDigit, fun d mem => List.mem_takeWhile_imp mem, ?_⟩
    rw [← dropped, List.takeWhile_append_dropWhile]
  · rintro ⟨ds, digits, rfl⟩
    rw [List.dropWhile_append_of_pos digits, List.dropWhile_cons_of_neg (by decide)]

theorem afterColour?_eq_some_iff :
    afterColour? cs = some rest ↔ ∃ ds, IsNumber ds ∧ cs = ds ++ 'm' :: rest := by
  cases cs with
  | nil => simp [afterColour?]
  | cons d cs =>
    by_cases digit : isDecimalDigit d = true
    · have read : afterColour? (d :: cs) = some rest ↔
          cs.dropWhile isDecimalDigit = 'm' :: rest := by
        rw [afterColour?, if_pos digit]
        split
        · rename_i found
          simp [found]
        · rename_i other
          constructor
          · nofun
          · exact fun found => absurd found (other rest)
      rw [read, dropWhile_digits_iff]
      constructor
      · rintro ⟨ds, digits, rfl⟩
        exact ⟨d :: ds, ⟨nofun, List.forall_mem_cons.mpr ⟨digit, digits⟩⟩, rfl⟩
      · rintro ⟨ds, ⟨some, digits⟩, split⟩
        obtain ⟨d', ds, rfl⟩ := List.exists_cons_of_ne_nil some
        obtain ⟨rfl, rfl⟩ := List.cons.inj split
        exact ⟨ds, (List.forall_mem_cons.mp digits).2, rfl⟩
    · rw [afterColour?, if_neg digit]
      constructor
      · nofun
      · rintro ⟨ds, ⟨some, digits⟩, split⟩
        obtain ⟨d', ds, rfl⟩ := List.exists_cons_of_ne_nil some
        obtain ⟨rfl, rfl⟩ := List.cons.inj split
        exact absurd ((List.forall_mem_cons.mp digits).1) digit

/-- **What follows an escape at the front.** -/
theorem afterEscape?_eq_some_iff :
    afterEscape? cs = some rest ↔ ∃ e, IsEscape e ∧ cs = e ++ rest := by
  constructor
  · intro found
    unfold afterEscape? at found
    split at found
    · obtain ⟨ds, number, rfl⟩ := afterColour?_eq_some_iff.mp found
      exact ⟨_, .full number, by simp⟩
    · obtain ⟨ds, number, rfl⟩ := afterColour?_eq_some_iff.mp found
      exact ⟨_, .short number, by simp⟩
    · cases found
  · rintro ⟨e, escape, rfl⟩
    cases escape with
    | @short ds number =>
      have colour : afterColour? (ds ++ 'm' :: rest) = some rest :=
        afterColour?_eq_some_iff.mpr ⟨ds, number, rfl⟩
      simpa [afterEscape?] using colour
    | @full ds number =>
      have colour : afterColour? (ds ++ 'm' :: rest) = some rest :=
        afterColour?_eq_some_iff.mpr ⟨ds, number, rfl⟩
      simpa [afterEscape?] using colour

theorem IsEscape.length_pos (escape : IsEscape e) : 0 < e.length := by
  cases escape <;> simp

/-! ### What is left -/

/-- The characters that are left without escapes. -/
def plain (cs : List Char) : List Char :=
  dropEscapes cs.length cs

theorem stripColours_eq (s : String) : stripColours s = String.ofList (plain s.toList) :=
  rfl

/-- As many steps as there are characters are enough. -/
theorem dropEscapes_of_le : ∀ {fuel : Nat} {cs : List Char}, cs.length ≤ fuel →
    dropEscapes fuel cs = plain cs
  | 0, cs, short => by
    obtain rfl := List.eq_nil_of_length_eq_zero (Nat.le_zero.mp short)
    rfl
  | fuel + 1, [], _ => rfl
  | fuel + 1, c :: cs, short => by
    have step : cs.length ≤ fuel := Nat.le_of_succ_le_succ short
    rw [plain, List.length_cons, dropEscapes, dropEscapes]
    cases found : afterEscape? (c :: cs) with
    | none => exact congrArg (c :: ·) (dropEscapes_of_le step)
    | some rest =>
      obtain ⟨e, escape, split⟩ := afterEscape?_eq_some_iff.mp found
      have shorter : rest.length ≤ cs.length := by
        have lengths := congrArg List.length split
        have := escape.length_pos
        simp only [List.length_cons, List.length_append] at lengths
        omega
      exact (dropEscapes_of_le (Nat.le_trans shorter step)).trans (dropEscapes_of_le shorter).symm

theorem plain_escape (escape : IsEscape e) (cs : List Char) : plain (e ++ cs) = plain cs := by
  have found : afterEscape? (e ++ cs) = some cs := afterEscape?_eq_some_iff.mpr ⟨e, escape, rfl⟩
  have some := escape.length_pos
  cases e with
  | nil => cases some
  | cons c e =>
    rw [List.cons_append] at found ⊢
    rw [plain, List.length_cons, dropEscapes, found]
    exact dropEscapes_of_le (by simp)

theorem plain_keep (kept : ¬ Starts (c :: cs)) : plain (c :: cs) = c :: plain cs := by
  have none : afterEscape? (c :: cs) = none := by
    refine Option.eq_none_iff_forall_ne_some.mpr fun rest found => kept ?_
    obtain ⟨e, escape, split⟩ := afterEscape?_eq_some_iff.mp found
    exact ⟨e, escape, rest, split.symm⟩
  rw [plain, List.length_cons, dropEscapes, none]
  rfl

/-- Characters are none, begin with an escape, or begin with a character that stays. -/
theorem plain_induction {P : List Char → Prop} (nil : P [])
    (escape : ∀ {e cs}, IsEscape e → P cs → P (e ++ cs))
    (keep : ∀ {c cs}, ¬ Starts (c :: cs) → P cs → P (c :: cs)) (cs : List Char) : P cs := by
  induction size : cs.length using Nat.strong_induction_on generalizing cs with
  | h n ih =>
    cases cs with
    | nil => exact nil
    | cons c rest =>
      by_cases starts : Starts (c :: rest)
      · obtain ⟨e, isEscape, after, split⟩ := starts
        have shorter : after.length < n := by
          have some := isEscape.length_pos
          rw [← size, ← split, List.length_append]
          omega
        rw [← split]
        exact escape isEscape (ih _ shorter after rfl)
      · exact keep starts (ih _ (by simp [← size]) rest rfl)

/-! ### What stays as it is -/

theorem coloured_cons : Coloured (c :: cs) ↔ Starts (c :: cs) ∨ Coloured cs := by
  simp only [Coloured, Starts, List.infix_cons_iff, and_or_left, exists_or]

/-- The character in front of the bracket makes no difference. -/
theorem coloured_iff : Coloured cs ↔ ∃ ds, IsNumber ds ∧ '[' :: (ds ++ ['m']) <:+: cs := by
  constructor
  · rintro ⟨e, escape, inside⟩
    cases escape with
    | @short ds number => exact ⟨ds, number, inside⟩
    | @full ds number => exact ⟨ds, number, (List.suffix_cons ..).isInfix.trans inside⟩
  · rintro ⟨ds, number, inside⟩
    exact ⟨_, .short number, inside⟩

theorem not_coloured_nil : ¬ Coloured [] := by
  rintro ⟨e, escape, inside⟩
  have some := escape.length_pos
  rw [List.eq_nil_of_infix_nil inside] at some
  exact Nat.lt_irrefl 0 some

theorem length_plain_le (cs : List Char) : (plain cs).length ≤ cs.length := by
  induction cs using plain_induction with
  | nil => exact Nat.le_refl 0
  | escape escape ih =>
    rw [plain_escape escape, List.length_append]
    omega
  | keep kept ih =>
    rw [plain_keep kept]
    exact Nat.succ_le_succ ih

/-- **Removing escapes leaves the texts without one, and only these.** -/
theorem plain_eq_self_iff : plain cs = cs ↔ ¬ Coloured cs := by
  induction cs using plain_induction with
  | nil => exact iff_of_true rfl not_coloured_nil
  | @escape e cs escape ih =>
    have coloured : Coloured (e ++ cs) := ⟨e, escape, List.infix_append_left ..⟩
    refine iff_of_false (fun same => ?_) (fun none => none coloured)
    have shorter := length_plain_le cs
    have some := escape.length_pos
    rw [plain_escape escape] at same
    rw [same, List.length_append] at shorter
    omega
  | keep kept ih =>
    rw [plain_keep kept, List.cons.injEq, coloured_cons, ih]
    exact ⟨fun same => not_or.mpr ⟨kept, same.2⟩, fun kept => ⟨rfl, (not_or.mp kept).2⟩⟩

theorem stripColours_eq_self_iff {s : String} : stripColours s = s ↔ ¬ Coloured s.toList := by
  rw [← plain_eq_self_iff, stripColours_eq, ← String.toList_inj, String.toList_ofList]

/-! ### Escapes that are put together -/

/-- The digits with escapes put between them, in front of them and after them. -/
inductive Mixed : List Char → List Char → Prop
  | nil : Mixed [] []
  | digit {d : Char} {ds body : List Char} (digit : isDecimalDigit d = true)
      (rest : Mixed ds body) : Mixed (d :: ds) (d :: body)
  | escape {e ds body : List Char} (escape : IsEscape e) (rest : Mixed ds body) :
      Mixed ds (e ++ body)

/-- An escape among whose digits there are other escapes, one or more. -/
def IsTorn (w : List Char) : Prop :=
  ∃ ds body, Mixed ds body ∧ ds ≠ [] ∧ ds ≠ body ∧ w = '[' :: (body ++ ['m'])

/-- There is a torn escape among the characters. -/
def Rejoins (cs : List Char) : Prop :=
  ∃ w, IsTorn w ∧ w <:+: cs

theorem not_starts_of_ne (bracket : c ≠ '[') (esc : c ≠ '\x1b') : ¬ Starts (c :: cs) := by
  rintro ⟨e, escape, rest, split⟩
  cases escape with
  | short _ => exact bracket (List.cons.inj split).1.symm
  | full _ => exact esc (List.cons.inj split).1.symm

theorem not_starts_of_digit (digit : isDecimalDigit c = true) : ¬ Starts (c :: cs) := by
  refine not_starts_of_ne ?_ ?_
  · rintro rfl
    exact absurd digit (by decide)
  · rintro rfl
    exact absurd digit (by decide)

/-- An escape that starts at a bracket. -/
theorem starts_bracket_iff :
    Starts ('[' :: cs) ↔ ∃ ds rest, IsNumber ds ∧ cs = ds ++ 'm' :: rest := by
  constructor
  · rintro ⟨e, escape, rest, split⟩
    cases escape with
    | @short ds number =>
      refine ⟨ds, rest, number, ?_⟩
      simpa using split.symm
    | full _ => exact absurd (List.cons.inj split).1 (by decide)
  · rintro ⟨ds, rest, number, rfl⟩
    exact ⟨_, .short number, rest, by simp⟩

theorem Mixed.digits {body : List Char} (mixed : Mixed ds body) :
    ∀ d ∈ ds, isDecimalDigit d = true := by
  induction mixed with
  | nil => nofun
  | digit digit _ ih => exact List.forall_mem_cons.mpr ⟨digit, ih⟩
  | escape _ _ ih => exact ih

/-- What is left of digits mixed with escapes are the digits. -/
theorem Mixed.plain_append {body : List Char} (mixed : Mixed ds body) (rest : List Char) :
    plain (body ++ 'm' :: rest) = ds ++ 'm' :: plain rest := by
  induction mixed with
  | nil => exact plain_keep (not_starts_of_ne (by decide) (by decide))
  | @digit d ds body digit _ ih =>
    rw [List.cons_append, plain_keep (not_starts_of_digit digit), ih]
    rfl
  | @escape e ds body escape _ ih => rw [List.append_assoc, plain_escape escape, ih]

/-- What digits up to an `m` are left of is digits mixed with escapes. -/
theorem exists_mixed {left : List Char} (digits : ∀ d ∈ ds, isDecimalDigit d = true)
    (plain_eq : plain cs = ds ++ 'm' :: left) :
    ∃ body rest, Mixed ds body ∧ cs = body ++ 'm' :: rest := by
  induction cs using plain_induction generalizing ds with
  | nil => exact absurd plain_eq (by cases ds <;> nofun)
  | @escape e cs escape ih =>
    rw [plain_escape escape] at plain_eq
    obtain ⟨body, rest, mixed, rfl⟩ := ih digits plain_eq
    exact ⟨e ++ body, rest, .escape escape mixed, by simp⟩
  | @keep c cs kept ih =>
    rw [plain_keep kept] at plain_eq
    cases ds with
    | nil =>
      obtain ⟨rfl, _⟩ := List.cons.inj plain_eq
      exact ⟨[], cs, .nil, rfl⟩
    | cons d ds =>
      obtain ⟨rfl, after⟩ := List.cons.inj plain_eq
      obtain ⟨digit, digits⟩ := List.forall_mem_cons.mp digits
      obtain ⟨body, rest, mixed, rfl⟩ := ih digits after
      exact ⟨c :: body, rest, .digit digit mixed, rfl⟩

/-- Digits that are mixed with escapes do not go on to the `m`. -/
theorem Mixed.eq_of_digits {body ds' rest rest' : List Char} (mixed : Mixed ds body)
    (digits : ∀ d ∈ ds', isDecimalDigit d = true)
    (split : body ++ 'm' :: rest = ds' ++ 'm' :: rest') : ds = body := by
  induction mixed generalizing ds' with
  | nil => rfl
  | @digit d ds body digit _ ih =>
    cases ds' with
    | nil =>
      obtain ⟨rfl, _⟩ := List.cons.inj split
      exact absurd digit (by decide)
    | cons d' ds' =>
      obtain ⟨rfl, after⟩ := List.cons.inj split
      exact congrArg (d :: ·) (ih (List.forall_mem_cons.mp digits).2 after)
  | @escape e ds body escape _ ih =>
    -- the text starts with an escape, and so neither with a digit nor with the `m`
    have starts : Starts (ds' ++ 'm' :: rest') :=
      ⟨e, escape, body ++ 'm' :: rest, by rw [← split, List.append_assoc]⟩
    cases ds' with
    | nil => exact absurd starts (not_starts_of_ne (by decide) (by decide))
    | cons d' ds' =>
      exact absurd starts (not_starts_of_digit (List.forall_mem_cons.mp digits).1)

/-- **A character that is left was in the text, and what follows it is left of what followed it.** -/
theorem exists_cut {front left : List Char} (plain_eq : plain cs = front ++ c :: left) :
    ∃ before after, cs = before ++ c :: after ∧ plain after = left ∧ ¬ Starts (c :: after) := by
  induction cs using plain_induction generalizing front with
  | nil => exact absurd plain_eq (by cases front <;> nofun)
  | @escape e cs escape ih =>
    rw [plain_escape escape] at plain_eq
    obtain ⟨before, after, rfl, rest⟩ := ih plain_eq
    exact ⟨e ++ before, after, by simp, rest⟩
  | @keep c' cs kept ih =>
    rw [plain_keep kept] at plain_eq
    cases front with
    | nil =>
      obtain ⟨rfl, rfl⟩ := List.cons.inj plain_eq
      exact ⟨[], cs, rfl, rfl, kept⟩
    | cons _ front =>
      obtain ⟨_, tail⟩ := List.cons.inj plain_eq
      obtain ⟨before, after, rfl, rest⟩ := ih tail
      exact ⟨c' :: before, after, rfl, rest⟩

theorem IsNumber.bracket_notMem (number : IsNumber ds) : '[' ∉ ds ++ ['m'] := by
  intro mem
  rcases List.mem_append.mp mem with mem | mem
  · exact absurd (number.2 _ mem) (by decide)
  · exact absurd (List.mem_singleton.mp mem) (by decide)

/-- An escape in front of a bracket that starts none has ended at the bracket. -/
theorem IsEscape.ends_before_bracket {front after : List Char} (escape : IsEscape e)
    (split : e ++ rest = front ++ '[' :: after) (some : front ≠ [])
    (kept : ¬ Starts ('[' :: after)) : ∃ front', rest = front' ++ '[' :: after := by
  obtain ⟨front', _, behind⟩ | ⟨excess, covers, behind⟩ := List.append_eq_append_iff.mp split
  · exact ⟨front', behind⟩
  cases excess with
  | nil => exact ⟨[], behind.symm⟩
  | cons _ excess =>
    -- the escape goes over the bracket: it is its own bracket, or there is one after it
    obtain ⟨rfl, rfl⟩ := List.cons.inj behind
    obtain ⟨f, front, rfl⟩ := List.exists_cons_of_ne_nil some
    cases escape with
    | short number =>
      obtain ⟨_, inside⟩ := List.cons.inj covers
      exact absurd (inside ▸ List.mem_append_right front List.mem_cons_self) number.bracket_notMem
    | full number =>
      obtain ⟨_, inside⟩ := List.cons.inj covers
      cases front with
      | nil =>
        obtain ⟨_, rfl⟩ := List.cons.inj inside
        exact absurd ⟨_, .short number, rest, by simp⟩ kept
      | cons _ front =>
        obtain ⟨_, inside⟩ := List.cons.inj inside
        exact absurd (inside ▸ List.mem_append_right front List.mem_cons_self)
          number.bracket_notMem

/-- What is left from a bracket on does not depend on what is in front of it. -/
theorem exists_plain_append {after : List Char} (kept : ¬ Starts ('[' :: after))
    (front : List Char) : ∃ left, plain (front ++ '[' :: after) = left ++ plain ('[' :: after) := by
  generalize text : front ++ '[' :: after = cs
  induction cs using plain_induction generalizing front with
  | nil => exact absurd text (by simp)
  | @escape e cs escape ih =>
    by_cases some : front = []
    · subst some
      exact ⟨[], by rw [← text]; rfl⟩
    · obtain ⟨front', rfl⟩ := escape.ends_before_bracket text.symm some kept
      rw [plain_escape escape]
      exact ih front' rfl
  | @keep c cs keep ih =>
    cases front with
    | nil => exact ⟨[], by rw [← text]; rfl⟩
    | cons f front =>
      obtain ⟨rfl, rest⟩ := List.cons.inj text
      obtain ⟨left, plain_eq⟩ := ih front rest
      exact ⟨f :: left, by rw [plain_keep keep, plain_eq]; rfl⟩

/-- **What is left has an escape when there was a torn one.** -/
theorem coloured_plain_iff : Coloured (plain cs) ↔ Rejoins cs := by
  constructor
  · intro coloured
    obtain ⟨ds, number, front, left, plain_eq⟩ := coloured_iff.mp coloured
    obtain ⟨before, after, rfl, after_eq, kept⟩ := exists_cut (by simpa using plain_eq.symm)
    obtain ⟨body, rest, mixed, rfl⟩ := exists_mixed number.2 after_eq
    refine ⟨_, ⟨ds, body, mixed, number.1, ?_, rfl⟩, before, rest, by simp⟩
    rintro rfl
    exact kept (starts_bracket_iff.mpr ⟨ds, rest, number, rfl⟩)
  · rintro ⟨w, ⟨ds, body, mixed, some, torn, rfl⟩, front, rest, rfl⟩
    have kept : ¬ Starts ('[' :: (body ++ 'm' :: rest)) := by
      intro starts
      obtain ⟨ds', rest', number, split⟩ := starts_bracket_iff.mp starts
      exact torn (mixed.eq_of_digits number.2 split)
    obtain ⟨left, plain_eq⟩ := exists_plain_append kept front
    rw [plain_keep kept, mixed.plain_append] at plain_eq
    refine coloured_iff.mpr ⟨ds, ⟨some, mixed.digits⟩, left, plain rest, ?_⟩
    simpa using plain_eq.symm

theorem stripColours_stripColours_eq_iff {s : String} :
    stripColours (stripColours s) = stripColours s ↔ ¬ Rejoins s.toList := by
  rw [stripColours_eq_self_iff, stripColours_eq s, String.toList_ofList, coloured_plain_iff]

/-! ### Messages -/

/-- A word does not go over a character that is not in it. -/
theorem infix_append_cons_iff {front after w : List Char} (foreign : c ∉ w) :
    w <:+: front ++ c :: after ↔ w <:+: front ∨ w <:+: after := by
  have nil_of_begins : ∀ {v : List Char}, c ∉ v → v <+: c :: after → v = [] := by
    intro v foreign before
    rcases List.prefix_cons_iff.mp before with nil | ⟨t, rfl, _⟩
    · exact nil
    · exact absurd List.mem_cons_self foreign
  constructor
  · intro inside
    rcases List.infix_append_iff.mp inside with inFront | inside | ⟨v, v', rfl, ends, begins⟩
    · exact .inl inFront
    · rcases List.infix_cons_iff.mp inside with begins | inAfter
      · exact .inl (nil_of_begins foreign begins ▸ List.nil_infix)
      · exact .inr inAfter
    · obtain rfl := nil_of_begins (fun mem => foreign (List.mem_append_right v mem)) begins
      exact .inl (by simpa using ends.isInfix)
  · rintro (inFront | inAfter)
    · exact List.infix_append_iff.mpr (.inl inFront)
    · exact List.infix_append_iff.mpr (.inr (.inl (List.infix_cons inAfter)))

theorem IsEscape.blank_notMem (escape : IsEscape e) : ' ' ∉ e := by
  have foreign : ∀ {ds}, IsNumber ds → ' ' ∉ ds := fun number mem =>
    absurd (number.2 _ mem) (by decide)
  cases escape with
  | short number => simpa using foreign number
  | full number => simpa using foreign number

/-- No escape goes over a blank. -/
theorem coloured_append_blank {front after : List Char} :
    Coloured (front ++ ' ' :: after) ↔ Coloured front ∨ Coloured after := by
  simp only [Coloured, ← exists_or, ← and_or_left]
  exact exists_congr fun e => and_congr_right fun escape =>
    infix_append_cons_iff escape.blank_notMem

end Text

namespace CompilerIssue

open Text

/-- What stands between the two texts is in no escape. -/
theorem coloured_message_iff (i : CompilerIssue) :
    Coloured i.diagnostic.message.toList ↔
      Coloured i.title.toList ∨ Rejoins i.details.toList := by
  have message : i.diagnostic.message.toList =
      i.title.toList ++ ' ' :: '-' :: ' ' :: plain i.details.toList := by
    simp [diagnostic, stripColours_eq]
  have dash : ∀ {cs}, ¬ Starts ('-' :: cs) := not_starts_of_ne (by decide) (by decide)
  have blank : ∀ {cs}, ¬ Starts (' ' :: cs) := not_starts_of_ne (by decide) (by decide)
  rw [message, coloured_append_blank, coloured_cons, or_iff_right dash, coloured_cons,
    or_iff_right blank, coloured_plain_iff]

/-- **A message has an escape when the title has one, or when removing those of the details puts one
together.** Removing escapes leaves a message as it is when it has none; and doing it a second time
changes nothing for the texts in which none is put together, and only for these. -/
theorem escapes_of_message (i : CompilerIssue) :
    (Coloured i.diagnostic.message.toList ↔
        Coloured i.title.toList ∨ Rejoins i.details.toList) ∧
      (stripColours i.diagnostic.message = i.diagnostic.message ↔
        ¬ Coloured i.diagnostic.message.toList) ∧
      ∀ s, stripColours (stripColours s) = stripColours s ↔ ¬ Rejoins s.toList :=
  ⟨i.coloured_message_iff, stripColours_eq_self_iff, fun _ => stripColours_stripColours_eq_iff⟩

/-- A title in red. -/
def red : CompilerIssue :=
  ⟨some "src/A.elm", "\x1b[31mNAMING ERROR", "I cannot find it.", "error", ⟨1, 1, 1, 2⟩⟩

/-- Details in which an escape stands among the digits of another. -/
def torn : CompilerIssue :=
  ⟨some "src/A.elm", "NAMING ERROR", "[3[31m1mI cannot find it.", "error", ⟨1, 1, 1, 2⟩⟩

/-- The message of `red` begins with an escape. Removing those of the details of `torn` leaves one, so
that its message has it and doing it a second time removes more. -/
theorem escapes_stay :
    (Coloured red.diagnostic.message.toList ∧
        stripColours red.diagnostic.message ≠ red.diagnostic.message) ∧
      (Coloured torn.diagnostic.message.toList ∧
        stripColours torn.diagnostic.message ≠ torn.diagnostic.message) ∧
      stripColours (stripColours torn.details) ≠ stripColours torn.details := by
  have number : IsNumber ['3', '1'] := ⟨nofun, List.all_eq_true.mp (by decide)⟩
  have coloured : Coloured red.title.toList :=
    ⟨_, .full number, [], "NAMING ERROR".toList, by decide +kernel⟩
  have mixed : Mixed ['3', '1'] ('3' :: (['[', '3', '1', 'm'] ++ ['1'])) :=
    .digit (by decide) (.escape (.short number) (.digit (by decide) .nil))
  have rejoins : Rejoins torn.details.toList :=
    ⟨_, ⟨_, _, mixed, nofun, by decide, rfl⟩, [], "I cannot find it.".toList, by decide +kernel⟩
  have redMessage := red.coloured_message_iff.mpr (.inl coloured)
  have tornMessage := torn.coloured_message_iff.mpr (.inr rejoins)
  exact ⟨⟨redMessage, fun same => stripColours_eq_self_iff.mp same redMessage⟩,
    ⟨tornMessage, fun same => stripColours_eq_self_iff.mp same tornMessage⟩,
    fun same => stripColours_stripColours_eq_iff.mp same rejoins⟩

end CompilerIssue

end ElmAssist
