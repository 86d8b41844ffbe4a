import ElmAssist.Proofs.Board.Standing

/-!
# Board — The newest list

Of the lists that arrive for one slot, in any order, the one of the latest run is kept.

* `newest`: what a slot holds after lists were offered to it in turn.
* `newest_eq_some_iff`: where no two lists are of one run, that is the list of the latest run.
* `slot?_append`: while a file is neither marked nor removed, each of its slots is offered the lists
  that messages have for it.
-/

namespace ElmAssist

/-! ### Lists offered to one slot -/

/-- What a slot holds after one more list is offered: a list of a later run stays. -/
def Slot.over (held : Option Slot) (slot : Slot) : Option Slot :=
  if held.any (slot.sequence < ·.sequence) then held else some slot

/-- What an empty slot holds after lists are offered in turn. -/
def newest (lists : List Slot) : Option Slot :=
  lists.foldl Slot.over none

theorem newest_concat (lists : List Slot) (slot : Slot) :
    newest (lists ++ [slot]) = Slot.over (newest lists) slot := by
  unfold newest
  rw [List.foldl_append]
  rfl

theorem Slot.over_cases (held : Option Slot) (slot : Slot) :
    (∃ h, held = some h ∧ slot.sequence < h.sequence ∧ Slot.over held slot = some h) ∨
      (∀ h, held = some h → h.sequence ≤ slot.sequence) ∧ Slot.over held slot = some slot := by
  unfold Slot.over
  cases held with
  | none => exact Or.inr ⟨nofun, rfl⟩
  | some h =>
    by_cases later : slot.sequence < h.sequence
    · exact Or.inl ⟨h, rfl, later, if_pos (by simpa using later)⟩
    · refine Or.inr ⟨?_, if_neg (by simpa using later)⟩
      rintro _ ⟨⟩
      exact Nat.le_of_not_lt later

theorem newest_eq_none_iff {lists : List Slot} : newest lists = none ↔ lists = [] := by
  refine ⟨fun h => ?_, fun h => h ▸ rfl⟩
  cases lists using List.reverseRecOn with
  | nil => rfl
  | append_singleton rest last =>
    rw [newest_concat] at h
    rcases Slot.over_cases (newest rest) last with ⟨_, _, _, o⟩ | ⟨_, o⟩ <;> rw [o] at h <;> cases h

/-- The newest list is one of those offered, and none of them is of a later run. -/
theorem newest_spec {lists : List Slot} {slot : Slot} (h : newest lists = some slot) :
    slot ∈ lists ∧ ∀ l ∈ lists, l.sequence ≤ slot.sequence := by
  induction lists using List.reverseRecOn generalizing slot with
  | nil => cases h
  | append_singleton lists l ih =>
    rw [newest_concat] at h
    rcases Slot.over_cases (newest lists) l with ⟨held, e, later, o⟩ | ⟨earlier, o⟩
    · obtain rfl : held = slot := Option.some.inj (o.symm.trans h)
      obtain ⟨mem, le⟩ := ih e
      refine ⟨List.mem_append_left _ mem, fun k hk => ?_⟩
      rcases List.mem_append.mp hk with hk | hk
      · exact le k hk
      · exact List.mem_singleton.mp hk ▸ Nat.le_of_lt later
    · obtain rfl : l = slot := Option.some.inj (o.symm.trans h)
      refine ⟨List.mem_append_right _ List.mem_cons_self, fun k hk => ?_⟩
      rcases List.mem_append.mp hk with hk | hk
      · cases e : newest lists with
        | none => rw [newest_eq_none_iff.mp e] at hk; cases hk
        | some held => exact Nat.le_trans ((ih e).2 k hk) (earlier held e)
      · exact List.mem_singleton.mp hk ▸ Nat.le_refl _

/-- **The list of the latest run is kept**, where no two lists are of one run. -/
theorem newest_eq_some_iff {lists : List Slot}
    (distinct : ∀ l ∈ lists, ∀ k ∈ lists, l.sequence = k.sequence → l = k) {slot : Slot} :
    newest lists = some slot ↔ slot ∈ lists ∧ ∀ l ∈ lists, l.sequence ≤ slot.sequence := by
  refine ⟨newest_spec, fun ⟨mem, last⟩ => ?_⟩
  cases e : newest lists with
  | none => rw [newest_eq_none_iff.mp e] at mem; cases mem
  | some held =>
    obtain ⟨memHeld, lastHeld⟩ := newest_spec e
    rw [distinct held memHeld slot mem (Nat.le_antisymm (last held memHeld) (lastHeld slot mem))]

/-! ### The lists of messages -/

/-- The list a report has for a slot of a file. -/
def Report.slot? (r : Report) (uri : String) (c : Channel) : Option Slot :=
  if r.channel = c then (r.files.get? uri).map (⟨r.sequence, ·⟩) else none

/-- The list a message has for a slot of a file. -/
def Message.slot? (uri : String) (c : Channel) : Message → Option Slot
  | .report r => r.slot? uri c
  | _ => none

/-- The lists that messages have for a slot of a file, in order. -/
def Message.lists (uri : String) (c : Channel) (ms : List Message) : List Slot :=
  ms.filterMap (slot? uri c)

theorem Slots.get_offer (s : Slots) (c d : Channel) (slot : Slot) :
    (s.offer c slot).get d = if c = d then Slot.over (s.get d) slot else s.get d := by
  unfold offer Slot.over
  by_cases same : c = d
  · subst same
    rw [if_pos rfl]
    split
    · rfl
    · rw [get_set, if_pos rfl]
  · rw [if_neg same]
    split
    · rfl
    · rw [get_set, if_neg (Ne.symm same)]

namespace Standing

/-- A list for a file without a mark is offered to the slot of its channel. -/
theorem slot?_take {f : Standing} (unmarked : f.mark = none) (c d : Channel) (slot : Slot) :
    (f.take c slot).slot? d = if c = d then Slot.over (f.slot? d) slot else f.slot? d := by
  unfold take slot?
  rw [unmarked, if_neg nofun]
  exact Slots.get_offer ..

theorem mark_take {f : Standing} (unmarked : f.mark = none) (c : Channel) (slot : Slot) :
    (f.take c slot).mark = none := by
  unfold take
  rw [unmarked, if_neg nofun]

/-- A message that does not remove a file without a mark leaves it so, and its slots are offered
what the message has for them. -/
theorem receive_unmarked {uri : String} {f : Standing} (unmarked : f.mark = none) {m : Message}
    (stays : ∀ s, m ≠ .forget uri s) :
    (f.receive uri m).mark = none ∧
      ∀ c, (f.receive uri m).slot? c = (m.slot? uri c).elim (f.slot? c) (Slot.over (f.slot? c)) := by
  cases m with
  | snapshot => exact ⟨unmarked, fun _ => rfl⟩
  | forget gone s =>
    have other : uri ≠ gone := fun same => stays s (same ▸ rfl)
    rw [receive, if_neg other]
    exact ⟨unmarked, fun _ => rfl⟩
  | report r =>
    rw [receive]
    cases named : r.files.get? uri with
    | none =>
      refine ⟨unmarked, fun c => ?_⟩
      dsimp only
      rw [Message.slot?, Report.slot?, named]
      split <;> rfl
    | some ds =>
      refine ⟨mark_take unmarked .., fun c => ?_⟩
      dsimp only
      rw [slot?_take unmarked, Message.slot?, Report.slot?, named]
      split <;> rfl

end Standing

namespace Board

/-- While a file is neither marked nor removed, its slots are offered the lists of the messages. -/
theorem slot?_append {ms : List Message} {uri : String}
    (unmarked : ((after ms).standing uri).mark = none) {late : List Message}
    (stays : ∀ s, .forget uri s ∉ late) :
    ((after (ms ++ late)).standing uri).mark = none ∧
      ∀ c, (after (ms ++ late)).slot? uri c =
        (Message.lists uri c late).foldl Slot.over ((after ms).slot? uri c) := by
  induction late using List.reverseRecOn with
  | nil => rw [List.append_nil]; exact ⟨unmarked, fun _ => rfl⟩
  | append_singleton late m ih =>
    obtain ⟨mark, slots⟩ := ih fun s h => stays s (List.mem_append_left _ h)
    have kept : ∀ s, m ≠ .forget uri s := fun s e =>
      stays s (List.mem_append_right _ (e ▸ List.mem_cons_self))
    obtain ⟨mark', slots'⟩ := Standing.receive_unmarked mark kept
    rw [← List.append_assoc, after_concat, standing_receive]
    refine ⟨mark', fun c => ?_⟩
    rw [slot?_eq_standing, standing_receive, slots' c, ← slot?_eq_standing, slots c,
      Message.lists, Message.lists, List.filterMap_append, List.foldl_append]
    cases e : m.slot? uri c <;> simp [e]

end Board

end ElmAssist
