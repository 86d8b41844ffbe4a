import ElmAssist.Proofs.Board.Arrival
import ElmAssist.Proofs.Board.Table

/-!
# Board — What a report counts

A report gives back how many of its lists were taken, and nothing else tells which. The number can be
read off the board that the report leaves: a list was taken when its slot carries it then, for a list
that is refused leaves neither itself nor anything of its run in the slot.

* `Consistent`, `consistent_of_sound`: which files a board has, marks and shows.
* `Tallies`, `tallies_of_sound`: what a report counts, changes and leaves.
* `reports_tallied`: all of it, whatever came before.
-/

namespace ElmAssist.Board

variable {b : Board}

/-! ### Files -/

/-- What a board has, marks and shows.
* No file that it has is marked as removed, and each has a list of some channel.
* Exactly the files that it has are shown, each once, in the byte order of their uris and with its
  merged list.
* Its size is the number of files that are shown. -/
structure Consistent (b : Board) : Prop where
  unmarked : ∀ uri, b.files.contains uri = true → b.removed.contains uri = false
  filled : ∀ uri, b.files.contains uri = true → ∃ c slot, b.slot? uri c = some slot
  shown : ∀ uri, uri ∈ b.merged.map FileDiagnostics.uri ↔ b.files.contains uri = true
  order : (b.merged.map FileDiagnostics.uri).Pairwise fun u v => Text.encode u < Text.encode v
  merged : ∀ f ∈ b.merged, b.mergedFor? f.uri = some f.diagnostics
  size : b.size = b.merged.length

theorem consistent_of_sound (sound : ∀ uri, (b.standing uri).Sound) : b.Consistent where
  unmarked uri held := by
    obtain ⟨slots, held⟩ := Option.isSome_iff_exists.mp held
    have unmarked : b.removed.get? uri = none := (sound uri).unmarked slots held
    rw [Catalog.contains_eq_isSome, unmarked, Option.isSome_none]
  filled uri held := by
    obtain ⟨slots, held⟩ := Option.isSome_iff_exists.mp held
    obtain ⟨c, filled⟩ := Slots.isFilled_iff.mp ((sound uri).filled slots held)
    obtain ⟨slot, shown⟩ := Option.ne_none_iff_exists'.mp filled
    exact ⟨c, slot, by rw [slot?, slotsOf, held]; exact shown⟩
  shown uri := by
    rw [mem_uris_merged_iff (sound uri), Catalog.contains_eq_isSome, Option.isSome_iff_ne_none]
    rfl
  order := b.merged_increasing
  merged f shown := (mem_merged_iff_mergedFor? (sound f.uri)).mp shown
  size := by
    have all : b.files.entries.filter (fun e => e.2.isFilled) = b.files.entries :=
      List.filter_eq_self.mpr fun e held =>
        (sound e.1).filled e.2 (Catalog.mem_entries_iff.mp held)
    rw [Board.merged, all, List.length_map]
    rfl

/-! ### Reports -/

/-- What a report counts, changes and leaves.
* It counts its lists that are in their slots afterwards.
* If there is none, the board is as before, with all its marks.
* A slot of its channel is as before, or has the report's list for the file.
* The slots of other channels are as before. -/
structure Tallies (b : Board) (r : Report) : Prop where
  counted : (b.apply r).2 = r.files.entries.countP fun file =>
    (b.apply r).1.slot? file.1 r.channel = some ⟨r.sequence, file.2⟩
  quiet : (b.apply r).2 = 0 → (b.apply r).1 = b
  own : ∀ uri, (b.apply r).1.slot? uri r.channel = b.slot? uri r.channel ∨
    ∃ ds, r.files.get? uri = some ds ∧
      (b.apply r).1.slot? uri r.channel = some ⟨r.sequence, ds⟩
  others : ∀ uri c, c ≠ r.channel → (b.apply r).1.slot? uri c = b.slot? uri c

/-- The slots of a file that a report names. -/
theorem slot?_apply {r : Report} {uri : String} {ds : List Diagnostic}
    (named : r.files.get? uri = some ds) (c : Channel) :
    (b.apply r).1.slot? uri c =
      ((b.standing uri).take r.channel ⟨r.sequence, ds⟩).slot? c := by
  rw [slot?_eq_standing, standing_apply, Standing.receive, named]

/-- A report leaves the slots of a file that it does not name. -/
theorem slot?_apply_unnamed {r : Report} {uri : String} (unnamed : r.files.get? uri = none)
    (c : Channel) : (b.apply r).1.slot? uri c = b.slot? uri c := by
  rw [slot?_eq_standing, standing_apply, Standing.receive, unnamed]
  rfl

/-- **A list is taken exactly when its slot carries it afterwards.** -/
theorem accepts_iff_slot? (sound : ∀ uri, (b.standing uri).Sound) {r : Report} {uri : String}
    {ds : List Diagnostic} (named : r.files.get? uri = some ds) :
    (b.standing uri).accepts r.channel ⟨r.sequence, ds⟩ = true ↔
      (b.apply r).1.slot? uri r.channel = some ⟨r.sequence, ds⟩ := by
  rw [slot?_apply named]
  rcases (sound uri).take_cases r.channel ⟨r.sequence, ds⟩ with
    ⟨taken, has⟩ | ⟨refused, same, hasNot⟩
  · exact iff_of_true taken has
  · rw [same]
    exact iff_of_false (Bool.eq_false_iff.mp refused) hasNot

theorem tallies_of_sound (sound : ∀ uri, (b.standing uri).Sound) (r : Report) : b.Tallies r where
  counted := by
    have taken := snd_takes r.channel r.sequence b 0 r.files.increasing
    rw [Nat.zero_add] at taken
    refine taken.trans (List.countP_congr fun file mem => ?_)
    have named : r.files.get? file.1 = some file.2 := Catalog.mem_entries_iff.mp mem
    rw [accepts_iff_slot? sound named, decide_eq_true_iff]
  quiet := apply_eq_of_none_taken sound
  own uri := by
    cases named : r.files.get? uri with
    | none => exact Or.inl (slot?_apply_unnamed named r.channel)
    | some ds =>
      rw [slot?_apply named]
      rcases (sound uri).take_cases r.channel ⟨r.sequence, ds⟩ with ⟨-, has⟩ | ⟨-, same, -⟩
      · exact Or.inr ⟨ds, rfl, has⟩
      · exact Or.inl (by rw [same]; rfl)
  others uri c other := by
    cases named : r.files.get? uri with
    | none => exact slot?_apply_unnamed named c
    | some ds =>
      rw [slot?_apply named, Standing.slot?_take_other _ (Ne.symm other)]
      rfl

/-- **What a board has, and what a report does to it**, after any reports and removals. The board
has no file that it marks as removed, and shows exactly the files that it has, each of which has a
list. The number that the next report gives back is that of its lists that are in their slots then.
A report that gives back nothing changes nothing, and none changes a slot of another channel. -/
theorem reports_tallied (ms : List Message) :
    (after ms).Consistent ∧ ∀ r, (after ms).Tallies r :=
  ⟨consistent_of_sound (sound_after ms), tallies_of_sound (sound_after ms)⟩

end ElmAssist.Board
