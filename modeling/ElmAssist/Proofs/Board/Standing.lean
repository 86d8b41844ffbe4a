import ElmAssist.Diagnostic.Board
import ElmAssist.Proofs.Catalog
import Mathlib.Data.List.Induction

/-!
# Board — One file

What a board holds for one file, and how messages change it. A board is the standings of its files
(`ext_standing`), and a message changes the standing of a file by what it says about that file alone
(`standing_receive`), so the laws of boards are laws of one standing.

* `Standing.Sound`: a file with an entry has no mark, and some slot of the entry is filled.
* `sound_after`: every standing of every board that messages lead to is sound.
-/

namespace ElmAssist

/-! ### The slots of a file -/

namespace Slots

/-- The slots after a list of a channel is offered: a list of a later run stays. -/
def offer (s : Slots) (c : Channel) (slot : Slot) : Slots :=
  if (s.get c).any (slot.sequence < ·.sequence) then s else s.set c slot

@[simp] theorem get_empty (c : Channel) : Slots.empty.get c = none := by
  cases c <;> rfl

theorem get_set (s : Slots) (c d : Channel) (slot : Slot) :
    (s.set c slot).get d = if d = c then some slot else s.get d := by
  cases c <;> cases d <;> rfl

theorem ext_get {s t : Slots} (h : ∀ c, s.get c = t.get c) : s = t := by
  obtain ⟨a, b, c⟩ := s
  obtain ⟨a', b', c'⟩ := t
  obtain rfl : a = a' := h .linter
  obtain rfl : b = b' := h .live
  obtain rfl : c = c' := h .compiler
  rfl

theorem isFilled_iff {s : Slots} : s.isFilled = true ↔ ∃ c, s.get c ≠ none := by
  simp only [isFilled, List.any_eq_true, Option.isSome_iff_ne_none]
  refine ⟨fun ⟨c, _, h⟩ => ⟨c, h⟩, fun ⟨c, h⟩ => ⟨c, ?_, h⟩⟩
  cases c <;> decide

/-- Once a list is offered to a channel, the channel has one. -/
theorem isFilled_offer (s : Slots) (c : Channel) (slot : Slot) :
    (s.offer c slot).isFilled = true := by
  refine isFilled_iff.mpr ⟨c, ?_⟩
  unfold offer
  cases held : s.get c with
  | none => rw [if_neg nofun, get_set, if_pos rfl]; nofun
  | some _ =>
    split
    · rw [held]; nofun
    · rw [get_set, if_pos rfl]; nofun

end Slots

/-! ### The standing of a file -/

/-- What a board holds for one file: its entry, and the mark of its removal. -/
structure Standing where
  slots : Option Slots
  mark : Option Nat
  deriving DecidableEq, Repr

namespace Standing

/-- The slot of a channel. -/
def slot? (f : Standing) (c : Channel) : Option Slot :=
  (f.slots.getD .empty).get c

/-- The list of a run is taken, unless the file was removed since or has a list of a later run. -/
def accepts (f : Standing) (c : Channel) (slot : Slot) : Bool :=
  !f.mark.any (slot.sequence ≤ ·) && !(f.slot? c).any (slot.sequence < ·.sequence)

/-- The standing after a list of a channel. -/
def take (f : Standing) (c : Channel) (slot : Slot) : Standing :=
  if f.mark.any (slot.sequence ≤ ·) then f
  else ⟨some ((f.slots.getD .empty).offer c slot), none⟩

/-- The standing after a removal. -/
def remove (f : Standing) (sequence : Nat) : Standing :=
  ⟨none, some (max (f.mark.getD sequence) sequence)⟩

/-- The standing of a file after a message. -/
def receive (uri : String) (f : Standing) : Message → Standing
  | .report r =>
    match r.files.get? uri with
    | some ds => f.take r.channel ⟨r.sequence, ds⟩
    | none => f
  | .forget gone sequence => if uri = gone then f.remove sequence else f
  | .snapshot => f

/-- A file with an entry is not marked as removed, and a channel has a list in the entry. -/
structure Sound (f : Standing) : Prop where
  unmarked : ∀ slots, f.slots = some slots → f.mark = none
  filled : ∀ slots, f.slots = some slots → slots.isFilled = true

theorem Sound.slots_eq_none {f : Standing} (h : f.Sound) {sequence : Nat}
    (marked : f.mark = some sequence) : f.slots = none := by
  cases held : f.slots with
  | none => rfl
  | some slots => rw [h.unmarked slots held] at marked; cases marked

theorem Sound.slots_eq_none_iff {f : Standing} (h : f.Sound) :
    f.slots = none ↔ ∀ c, f.slot? c = none := by
  constructor
  · intro e c
    rw [slot?, e]
    exact Slots.get_empty c
  · intro vacant
    cases e : f.slots with
    | none => rfl
    | some slots =>
      obtain ⟨c, filled⟩ := Slots.isFilled_iff.mp (h.filled slots e)
      have := vacant c
      rw [slot?, e] at this
      exact absurd this filled

/-- Sound standings with the same mark and the same lists are the same. -/
theorem Sound.ext {f g : Standing} (hf : f.Sound) (hg : g.Sound) (mark : f.mark = g.mark)
    (h : ∀ c, f.slot? c = g.slot? c) : f = g := by
  obtain ⟨s, m⟩ := f
  obtain ⟨t, n⟩ := g
  obtain rfl : m = n := mark
  congr 1
  cases s with
  | none => exact (hg.slots_eq_none_iff.mpr fun c => (h c).symm.trans (Slots.get_empty c)).symm
  | some s =>
    cases t with
    | none => exact hf.slots_eq_none_iff.mpr fun c => (h c).trans (Slots.get_empty c)
    | some t => exact congrArg some (Slots.ext_get h)

theorem Sound.take {f : Standing} (h : f.Sound) (c : Channel) (slot : Slot) :
    (f.take c slot).Sound := by
  unfold Standing.take
  split
  · exact h
  · exact ⟨fun _ _ => rfl, fun slots e => Option.some.inj e ▸ Slots.isFilled_offer ..⟩

/-- **A list is taken, and its slot has it then, or nothing changes.** A list that is not taken is
refused by a mark, and then there are no lists, or by a later list in its slot; so it is not in the
slot. -/
theorem Sound.take_cases {f : Standing} (h : f.Sound) (c : Channel) (slot : Slot) :
    f.accepts c slot = true ∧ (f.take c slot).slot? c = some slot ∨
      f.accepts c slot = false ∧ f.take c slot = f ∧ f.slot? c ≠ some slot := by
  by_cases removed : f.mark.any (slot.sequence ≤ ·) = true
  · obtain ⟨mark, marked, -⟩ := (Option.any_eq_true ..).mp removed
    have vacant : f.slot? c = none := by
      rw [slot?, h.slots_eq_none marked]
      exact Slots.get_empty c
    exact Or.inr ⟨by simp [accepts, removed], if_pos removed, by rw [vacant]; nofun⟩
  · have offered : f.take c slot = ⟨some ((f.slots.getD .empty).offer c slot), none⟩ :=
      if_neg removed
    by_cases outdated : (f.slot? c).any (slot.sequence < ·.sequence) = true
    · obtain ⟨later, held, less⟩ := (Option.any_eq_true ..).mp outdated
      have kept : (f.slots.getD .empty).offer c slot = f.slots.getD .empty := if_pos outdated
      refine Or.inr ⟨by simp [accepts, outdated], ?_, ?_⟩
      · obtain ⟨slots, mark⟩ := f
        cases slots with
        | none => exact nomatch (Slots.get_empty c).symm.trans held
        | some s =>
          obtain rfl : mark = none := h.unmarked s rfl
          rw [offered, kept]
          rfl
      · rw [held, Ne, Option.some_inj]
        rintro rfl
        exact absurd less (by simp)
    · have filled : (f.slots.getD .empty).offer c slot = (f.slots.getD .empty).set c slot :=
        if_neg outdated
      refine Or.inl ⟨by simp [accepts, removed, outdated], ?_⟩
      rw [offered, filled]
      exact (Slots.get_set ..).trans (if_pos rfl)

theorem Sound.remove (f : Standing) (sequence : Nat) : (f.remove sequence).Sound :=
  ⟨nofun, nofun⟩

theorem Sound.receive {f : Standing} (h : f.Sound) (uri : String) (m : Message) :
    (f.receive uri m).Sound := by
  cases m with
  | report r =>
    rw [Standing.receive]
    split
    · exact h.take ..
    · exact h
  | forget gone sequence =>
    rw [Standing.receive]
    split
    · exact .remove ..
    · exact h
  | snapshot => exact h

end Standing

namespace Board

/-- What a board holds for a file. -/
def standing (b : Board) (uri : String) : Standing :=
  ⟨b.files.get? uri, b.removed.get? uri⟩

/-- **A board is the standings of its files.** -/
theorem ext_standing {b d : Board} (h : ∀ uri, b.standing uri = d.standing uri) : b = d := by
  obtain ⟨files, removed⟩ := b
  obtain ⟨files', removed'⟩ := d
  obtain rfl : files = files' := Catalog.ext_get? fun uri => congrArg Standing.slots (h uri)
  obtain rfl : removed = removed' := Catalog.ext_get? fun uri => congrArg Standing.mark (h uri)
  rfl

theorem slot?_eq_standing (b : Board) (uri : String) (c : Channel) :
    b.slot? uri c = (b.standing uri).slot? c := rfl

/-! ### Operations, file by file -/

theorem standing_reopen (b : Board) (uri v : String) :
    (b.reopen uri).standing v = if v = uri then ⟨some (b.slotsOf uri), none⟩ else b.standing v := by
  unfold reopen standing
  rw [Catalog.get?_insertNew, Catalog.get?_erase]
  split <;> rfl

theorem slotsOf_reopen (b : Board) (uri : String) :
    (b.reopen uri).slotsOf uri = b.slotsOf uri := by
  unfold reopen slotsOf
  rw [Catalog.get?_insertNew, if_pos rfl]
  rfl

theorem standing_fill (b : Board) (uri v : String) (c : Channel) (slot : Slot) :
    (b.fill uri c slot).standing v =
      if v = uri then ⟨some ((b.slotsOf uri).set c slot), b.removed.get? uri⟩
      else b.standing v := by
  unfold fill standing
  rw [Catalog.get?_insert]
  split
  · rename_i same; rw [same]
  · rfl

theorem standing_take (c : Channel) (sequence : Nat) (b : Board × Nat)
    (file : String × List Diagnostic) (v : String) :
    (take c sequence b file).1.standing v =
      if v = file.1 then (b.1.standing v).take c ⟨sequence, file.2⟩ else b.1.standing v := by
  obtain ⟨b, n⟩ := b
  obtain ⟨uri, ds⟩ := file
  have unmarked : (b.reopen uri).removed.get? uri = none := Catalog.get?_erase_self ..
  unfold take
  dsimp only
  by_cases same : v = uri
  · subst same
    rw [if_pos rfl]
    by_cases gone : b.isRemovedSince v sequence = true
    · rw [if_pos gone]
      exact (if_pos gone).symm
    · -- Taken or outdated, the list finds the file open: with an entry, and without a mark.
      have taken : (b.standing v).take c ⟨sequence, ds⟩ =
          ⟨some ((b.slotsOf v).offer c ⟨sequence, ds⟩), none⟩ := if_neg gone
      rw [if_neg gone, taken, isOutdated, slot?, slotsOf_reopen, Slots.offer]
      split
      · rw [standing_reopen, if_pos rfl]
      · rw [standing_fill, if_pos rfl, slotsOf_reopen, unmarked]
  · rw [if_neg same]
    split
    · rfl
    · split
      · rw [standing_reopen, if_neg same]
      · rw [standing_fill, if_neg same, standing_reopen, if_neg same]

/-- The lists of a report each change the standing of their own file. -/
theorem standing_takes (c : Channel) (sequence : Nat) (v : String) :
    ∀ {files : List (String × List Diagnostic)} (b : Board × Nat), Pairs.Increasing files →
      (files.foldl (take c sequence) b).1.standing v =
        match Pairs.find v files with
        | some ds => (b.1.standing v).take c ⟨sequence, ds⟩
        | none => b.1.standing v
  | [], _, _ => rfl
  | (uri, ds) :: rest, b, order => by
    obtain ⟨first, later⟩ := List.pairwise_cons.mp order
    rw [List.foldl_cons, standing_takes c sequence v _ later, standing_take, Pairs.find_cons]
    by_cases same : v = uri
    · subst same
      rw [Pairs.find_eq_none first, if_pos rfl, if_pos Std.ReflOrd.compare_self]
    · rw [if_neg same, if_neg fun h => same (Std.LawfulEqOrd.eq_of_compare h)]

theorem standing_apply (b : Board) (r : Report) (uri : String) :
    (b.apply r).1.standing uri = (b.standing uri).receive uri (.report r) :=
  standing_takes r.channel r.sequence uri (b, 0) r.files.increasing

theorem standing_remove (b : Board) (gone uri : String) (sequence : Nat) :
    (b.remove gone sequence).standing uri =
      if uri = gone then (b.standing uri).remove sequence else b.standing uri := by
  unfold remove standing
  rw [Catalog.get?_erase, Catalog.get?_insert]
  split
  · rename_i same; rw [same]; rfl
  · rfl

/-- **A message changes a file by what it says about that file.** -/
theorem standing_receive (b : Board) (m : Message) (uri : String) :
    (b.receive m).1.standing uri = (b.standing uri).receive uri m := by
  cases m with
  | report r => exact standing_apply b r uri
  | forget gone sequence => exact standing_remove b gone uri sequence
  | snapshot => rfl

/-! ### Runs -/

/-- The board after messages, from one that has seen none. -/
def after (ms : List Message) : Board :=
  (empty.receiveAll ms).1

theorem receiveAll_append (b : Board) (ms ns : List Message) :
    (b.receiveAll (ms ++ ns)) =
      (((b.receiveAll ms).1.receiveAll ns).1,
        (b.receiveAll ms).2 ++ ((b.receiveAll ms).1.receiveAll ns).2) := by
  induction ms generalizing b with
  | nil => rfl
  | cons m ms ih => simp only [List.cons_append, receiveAll, ih, List.append_assoc]

theorem after_concat (ms : List Message) (m : Message) :
    after (ms ++ [m]) = ((after ms).receive m).1 := by
  unfold after
  rw [receiveAll_append]
  rfl

theorem sound_after (ms : List Message) (uri : String) : ((after ms).standing uri).Sound := by
  induction ms using List.reverseRecOn with
  | nil => exact ⟨nofun, nofun⟩
  | append_singleton ms m ih =>
    rw [after_concat, standing_receive]
    exact ih.receive uri m

end Board

end ElmAssist
