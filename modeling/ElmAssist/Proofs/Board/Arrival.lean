import ElmAssist.Proofs.Board.Removal

/-!
# Board — What an arrival leaves in a slot

The slot of a channel, after a message of another channel and after a report of its own.

* `slot?_append_other`: messages without a list for a slot leave it, unless they remove the file.
* `mergedFor?_append_eq_none_iff`: so do the entries of files stay.
* `slot?_report_removed`: a file that was removed since a run gets no list of that run.
* `slot?_report`: a list of no earlier run fills the slot, unless the file was removed since.
* `mem_of_marked`: a file that counts as removed was removed by one of the messages.
-/

namespace ElmAssist

/-- A list of another channel leaves a slot. -/
theorem Standing.slot?_take_other (f : Standing) {c d : Channel} (other : d ≠ c) (slot : Slot) :
    (f.take d slot).slot? c = f.slot? c := by
  unfold take
  split
  · rfl
  · exact (Slots.get_offer ..).trans (if_neg other)

namespace Board

variable {uri : String} {c : Channel}

/-- A message that has no list for a slot leaves it, unless it removes the file. -/
theorem slot?_receive_other (b : Board) {m : Message} (other : m.slot? uri c = none) (slot : Slot) :
    (b.receive m).1.slot? uri c = some slot ↔
      b.slot? uri c = some slot ∧ ∀ s, m ≠ .forget uri s := by
  rw [slot?_eq_standing, standing_receive, slot?_eq_standing]
  cases m with
  | snapshot => simp [Standing.receive]
  | forget gone s =>
    rw [Standing.receive]
    split
    · rename_i same
      simp [same, Standing.remove, Standing.slot?]
    · rename_i apart
      simp [Ne.symm apart]
  | report r =>
    have kept : ((b.standing uri).receive uri (.report r)).slot? c = (b.standing uri).slot? c := by
      rw [Standing.receive]
      cases named : r.files.get? uri with
      | none => rfl
      | some ds =>
        refine Standing.slot?_take_other _ (fun same => ?_) _
        rw [Message.slot?, Report.slot?, if_pos same, named] at other
        cases other
    simp [kept]

theorem slot?_append_other (ms : List Message) {late : List Message}
    (other : ∀ m ∈ late, m.slot? uri c = none) (slot : Slot) :
    (after (ms ++ late)).slot? uri c = some slot ↔
      (after ms).slot? uri c = some slot ∧ ∀ s, .forget uri s ∉ late := by
  induction late using List.reverseRecOn with
  | nil => simp
  | append_singleton late m ih =>
    have earlier := ih fun n mem => other n (List.mem_append_left _ mem)
    have last := other m (List.mem_append_right _ List.mem_cons_self)
    rw [← List.append_assoc, after_concat, slot?_receive_other _ last, earlier]
    simp only [List.mem_append, List.mem_singleton, not_or, forall_and, and_assoc, ne_eq, eq_comm]

/-- A file has no entry when no channel has a list for it. -/
theorem mergedFor?_eq_none_iff (ms : List Message) :
    (after ms).mergedFor? uri = none ↔ ∀ c, (after ms).slot? uri c = none := by
  rw [mergedFor?, Option.map_eq_none_iff]
  exact (sound_after ms uri).slots_eq_none_iff

/-- Messages that have no list for a file leave its entry, unless they remove it. -/
theorem mergedFor?_append_eq_none_iff (ms : List Message) {late : List Message}
    (unlisted : ∀ m ∈ late, ∀ c, m.slot? uri c = none) :
    (after (ms ++ late)).mergedFor? uri = none ↔
      (∃ s, .forget uri s ∈ late) ∨ (after ms).mergedFor? uri = none := by
  have slots (c : Channel) (slot : Slot) := slot?_append_other ms (fun m mem => unlisted m mem c) slot
  rw [mergedFor?_eq_none_iff, mergedFor?_eq_none_iff]
  by_cases removed : ∃ s, .forget uri s ∈ late
  · refine iff_of_true (fun c => ?_) (Or.inl removed)
    obtain ⟨s, mem⟩ := removed
    exact Option.eq_none_iff_forall_ne_some.mpr fun slot shown => ((slots c slot).mp shown).2 s mem
  · have same (c : Channel) : (after (ms ++ late)).slot? uri c = (after ms).slot? uri c :=
      Option.ext fun slot => (slots c slot).trans (and_iff_left fun s mem => removed ⟨s, mem⟩)
    simp [removed, same]

/-- A file that was removed since has no lists. -/
theorem slot?_of_removed {b : Board} (sound : (b.standing uri).Sound) {q : Nat}
    (removed : b.isRemovedSince uri q = true) : b.slot? uri c = none := by
  have marked : (b.standing uri).mark.any (q ≤ ·) = true := removed
  cases held : (b.standing uri).mark with
  | none =>
    rw [held] at marked
    cases marked
  | some mark =>
    rw [slot?_eq_standing, Standing.slot?, sound.slots_eq_none held]
    exact Slots.get_empty c

/-- Nor has it after a report of the run. -/
theorem slot?_report_removed {b : Board} (sound : (b.standing uri).Sound) {r : Report}
    (removed : b.isRemovedSince uri r.sequence = true) : (b.apply r).1.slot? uri c = none := by
  have marked : (b.standing uri).mark.any (r.sequence ≤ ·) = true := removed
  have gone := slot?_of_removed (c := c) sound removed
  rw [slot?_eq_standing, standing_apply, Standing.receive]
  split
  · rw [Standing.take, if_pos marked]
    exact gone
  · exact gone

/-- A list of no earlier run than the one in the slot is taken, unless the file was removed since. -/
theorem slot?_report {b : Board} {r : Report} {ds : List Diagnostic}
    (named : r.files.get? uri = some ds) (present : ¬ b.isRemovedSince uri r.sequence = true)
    (newer : ∀ slot, b.slot? uri r.channel = some slot → slot.sequence ≤ r.sequence) :
    (b.apply r).1.slot? uri r.channel = some ⟨r.sequence, ds⟩ := by
  have unmarked : ¬ (b.standing uri).mark.any (r.sequence ≤ ·) = true := present
  rw [slot?_eq_standing, standing_apply, Standing.receive, named]
  dsimp only
  rw [Standing.take, if_neg unmarked]
  refine (Slots.get_offer ..).trans ?_
  rw [if_pos rfl]
  change Slot.over (b.slot? uri r.channel) _ = _
  rcases Slot.over_cases (b.slot? uri r.channel) ⟨r.sequence, ds⟩ with
    ⟨held, e, later, -⟩ | ⟨-, taken⟩
  · exact absurd (newer held e) (Nat.not_le_of_lt later)
  · exact taken

/-- A message that does not remove a file gives it no mark. -/
theorem marked_of_receive {b : Board} {m : Message} (stays : ∀ t, m ≠ .forget uri t) {mark : Nat}
    (marked : (b.receive m).1.removed.get? uri = some mark) : b.removed.get? uri = some mark := by
  have after' : ((b.receive m).1.standing uri).mark = some mark := marked
  rw [standing_receive] at after'
  cases m with
  | snapshot => exact marked
  | forget gone t =>
    have other : uri ≠ gone := fun same => stays t (same ▸ rfl)
    rw [Standing.receive, if_neg other] at after'
    exact after'
  | report r =>
    rw [Standing.receive] at after'
    split at after'
    · unfold Standing.take at after'
      split at after'
      · exact after'
      · cases after'
    · exact after'

/-- A file is marked with the sequence of one of its removals. -/
theorem mem_of_marked {ms : List Message} {mark : Nat}
    (marked : (after ms).removed.get? uri = some mark) : .forget uri mark ∈ ms := by
  induction ms using List.reverseRecOn generalizing mark with
  | nil => cases marked
  | append_singleton ms m ih =>
    by_cases forgotten : ∃ t, m = .forget uri t
    · obtain ⟨t, rfl⟩ := forgotten
      rw [mark_forget] at marked
      cases held : (after ms).removed.get? uri with
      | none =>
        obtain rfl : t = mark := by simpa [held] using marked
        exact List.mem_append_right _ List.mem_cons_self
      | some earlier =>
        rw [held, Option.getD_some, Option.some_inj] at marked
        -- The mark is the later one of the two removals.
        rcases Nat.le_total earlier t with le | le
        · obtain rfl : t = mark := (Nat.max_eq_right le).symm.trans marked
          exact List.mem_append_right _ List.mem_cons_self
        · obtain rfl : earlier = mark := (Nat.max_eq_left le).symm.trans marked
          exact List.mem_append_left _ (ih held)
    · have stays : ∀ t, m ≠ .forget uri t := fun t e => forgotten ⟨t, e⟩
      rw [after_concat] at marked
      exact List.mem_append_left _ (ih (marked_of_receive stays marked))

end Board

end ElmAssist
