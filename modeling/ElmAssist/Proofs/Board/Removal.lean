import ElmAssist.Proofs.Board.Newest

/-!
# Board — Removed files

What a removal keeps out, and for how long. The mark of a removal keeps out the lists of all runs up
to it, of every channel. The first list of a later run brings the file back and takes the mark away,
for all channels at once. From then on each channel goes by its own slot, which is empty: the list
of a run from before the removal is taken in again.

* `slot?_brought_back`: since a file was brought back, a slot holds the newest of the lists that
  came for it, the first included.
* `holds_list_up_to_removal_iff`: exactly when a list of a run up to a removal is held after it.
* `late_list_restored`: a run in which that happens.
-/

namespace ElmAssist.Board

/-- A report brings a removed file back: it names the file, and its run is later than the mark. -/
def BroughtBackBy (b : Board) (uri : String) (r : Report) : Prop :=
  ∃ mark ds, b.removed.get? uri = some mark ∧ mark < r.sequence ∧ r.files.get? uri = some ds

/-- The report that brings a file back takes the mark away. The slot of its channel has its list,
the others are empty. -/
theorem standing_broughtBack {ms : List Message} {uri : String} {r : Report}
    (back : (after ms).BroughtBackBy uri r) :
    ((after (ms ++ [.report r])).standing uri).mark = none ∧
      ∀ c, (after (ms ++ [.report r])).slot? uri c =
        newest (Message.lists uri c [.report r]) := by
  obtain ⟨mark, ds, marked, later, named⟩ := back
  have gone : ((after ms).standing uri).slots = none := (sound_after ms uri).slots_eq_none marked
  have open_ : ¬ ((after ms).standing uri).mark.any (r.sequence ≤ ·) = true := by
    rw [show ((after ms).standing uri).mark = some mark from marked]
    simpa using later
  have now : (after (ms ++ [.report r])).standing uri =
      ⟨some (Slots.empty.offer r.channel ⟨r.sequence, ds⟩), none⟩ := by
    rw [after_concat, standing_receive, Standing.receive, named]
    dsimp only
    rw [Standing.take, if_neg open_, gone]
    rfl
  refine ⟨by rw [now], fun c => ?_⟩
  rw [slot?_eq_standing, now]
  change (Slots.empty.offer r.channel ⟨r.sequence, ds⟩).get c = _
  rw [Slots.get_offer, Slots.get_empty, Message.lists, List.filterMap_cons, Message.slot?,
    Report.slot?, named]
  split <;> rfl

/-- **Since it was brought back**, each slot of a file holds the newest of the lists for it. -/
theorem slot?_brought_back {ms late : List Message} {uri : String} {r : Report}
    (back : (after ms).BroughtBackBy uri r) (stays : ∀ t, .forget uri t ∉ late) (c : Channel) :
    (after (ms ++ .report r :: late)).slot? uri c =
      newest (Message.lists uri c (.report r :: late)) := by
  obtain ⟨unmarked, slots⟩ := standing_broughtBack back
  rw [List.append_cons, (slot?_append unmarked stays).2 c, slots c]
  unfold newest Message.lists
  rw [← List.foldl_append, ← List.filterMap_append]
  rfl

theorem mark_forget (ms : List Message) (uri : String) (s : Nat) :
    (after (ms ++ [.forget uri s])).removed.get? uri =
      some (max (((after ms).removed.get? uri).getD s) s) := by
  rw [after_concat]
  exact Catalog.get?_insert_self ..

/-- A mark stays, unless the message removes the file again or brings it back. -/
theorem marked_receive {b : Board} {uri : String} {mark : Nat}
    (marked : b.removed.get? uri = some mark) {m : Message} (stays : ∀ t, m ≠ .forget uri t) :
    (b.receive m).1.removed.get? uri = some mark ∨ ∃ r, m = .report r ∧ b.BroughtBackBy uri r := by
  change ((b.receive m).1.standing uri).mark = some mark ∨ _
  have marked' : (b.standing uri).mark = some mark := marked
  rw [standing_receive]
  cases m with
  | snapshot => exact Or.inl marked
  | forget gone t =>
    have other : uri ≠ gone := fun same => stays t (same ▸ rfl)
    rw [Standing.receive, if_neg other]
    exact Or.inl marked
  | report r =>
    rw [Standing.receive]
    cases named : r.files.get? uri with
    | none => exact Or.inl marked
    | some ds =>
      dsimp only
      rw [Standing.take, marked']
      by_cases kept : r.sequence ≤ mark
      · rw [if_pos (by simpa using kept)]
        exact Or.inl marked
      · exact Or.inr ⟨r, rfl, mark, ds, marked, Nat.lt_of_not_le kept, named⟩

/-- A file that was marked is marked again, or a report has brought it back and it was not removed
since. -/
theorem marked_or_brought_back {ms : List Message} {uri : String} {mark : Nat}
    (marked : (after ms).removed.get? uri = some mark) (ns : List Message) :
    (∃ mark', (after (ms ++ ns)).removed.get? uri = some mark') ∨
      ∃ mid r late, ns = mid ++ .report r :: late ∧ (after (ms ++ mid)).BroughtBackBy uri r ∧
        ∀ t, .forget uri t ∉ late := by
  -- Each message since keeps the mark, raises it, brings the file back, or comes after that.
  induction ns using List.reverseRecOn with
  | nil => exact Or.inl ⟨mark, by rw [List.append_nil]; exact marked⟩
  | append_singleton ns m ih =>
    rw [← List.append_assoc]
    by_cases forgotten : ∃ t, m = .forget uri t
    · obtain ⟨t, rfl⟩ := forgotten
      exact Or.inl ⟨_, mark_forget ..⟩
    · have stays : ∀ t, m ≠ .forget uri t := fun t e => forgotten ⟨t, e⟩
      rcases ih with ⟨mark', marked'⟩ | ⟨mid, r, late, rfl, back, others⟩
      · rcases marked_receive marked' stays with still | ⟨r, rfl, back⟩
        · exact Or.inl ⟨mark', by rw [after_concat]; exact still⟩
        · exact Or.inr ⟨ns, r, [], rfl, back, fun _ h => nomatch h⟩
      · refine Or.inr ⟨mid, r, late ++ [m], by simp, back, fun t h => ?_⟩
        rcases List.mem_append.mp h with h | h
        · exact others t h
        · exact stays t (List.mem_singleton.mp h).symm

/-- **When a list from before a removal is held after it**: exactly when a report has brought the
file back, the file was not removed since, and all lists of the channel that came since are of runs
up to the removal, and there is one. -/
theorem holds_list_up_to_removal_iff (before after' : List Message) (uri : String) (s : Nat)
    (c : Channel) :
    (∃ slot, (after (before ++ .forget uri s :: after')).slot? uri c = some slot ∧
        slot.sequence ≤ s) ↔
      ∃ mid r late, after' = mid ++ .report r :: late ∧
        (after (before ++ .forget uri s :: mid)).BroughtBackBy uri r ∧
        (∀ t, .forget uri t ∉ late) ∧
        Message.lists uri c (.report r :: late) ≠ [] ∧
        ∀ list ∈ Message.lists uri c (.report r :: late), list.sequence ≤ s := by
  constructor
  · rintro ⟨slot, held, old⟩
    rw [List.append_cons] at held
    rcases marked_or_brought_back (mark_forget before uri s) after' with
      ⟨mark, marked⟩ | ⟨mid, r, late, rfl, back, stays⟩
    · rw [slot?_eq_standing, Standing.slot?, (sound_after _ uri).slots_eq_none marked] at held
      cases c <;> cases held
    · rw [← List.append_assoc, slot?_brought_back back stays] at held
      obtain ⟨mem, last⟩ := newest_spec held
      refine ⟨mid, r, late, rfl, by rw [List.append_cons]; exact back, stays,
        List.ne_nil_of_mem mem, fun list h => Nat.le_trans (last list h) old⟩
  · rintro ⟨mid, r, late, rfl, back, stays, some_, old⟩
    obtain ⟨slot, held⟩ := Option.ne_none_iff_exists'.mp (mt newest_eq_none_iff.mp some_)
    refine ⟨slot, ?_, old slot (newest_spec held).1⟩
    rw [← List.cons_append, ← List.append_assoc, slot?_brought_back back stays, held]

/-- **A list from before a removal comes back.** A file removed at 5 is looked at again at 6; then
the compiler, started at 3, is done with the text that was removed. -/
theorem late_list_restored :
    ¬ ∀ (before after' : List Message) (uri : String) (s : Nat) (c : Channel) (slot : Slot),
      (after (before ++ .forget uri s :: after')).slot? uri c = some slot → s < slot.sequence := by
  intro newer
  have held : (after ([.report ⟨.live, 4, .ofList [("file:///A.elm", [])]⟩] ++
      .forget "file:///A.elm" 5 ::
        [.report ⟨.live, 6, .ofList [("file:///A.elm", [])]⟩,
          .report ⟨.compiler, 3, .ofList [("file:///A.elm",
            [⟨.compiler, ⟨⟨0, 0⟩, ⟨0, 1⟩⟩, .error, "late"⟩])]⟩])).slot? "file:///A.elm" .compiler =
      some ⟨3, [⟨.compiler, ⟨⟨0, 0⟩, ⟨0, 1⟩⟩, .error, "late"⟩]⟩ := by
    decide +kernel
  exact absurd (newer _ _ _ _ _ _ held) (by decide)

end ElmAssist.Board
