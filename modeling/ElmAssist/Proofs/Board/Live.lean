import ElmAssist.Diagnostic.Check
import ElmAssist.Proofs.Board.Arrival
import ElmAssist.Proofs.Forest.Index

/-!
# Board — Lists of the live check

What a report of the live check lists, and how long the board shows what the check says.

`InLine b s access sequence stale`: the live lists on the board `b` are of files of the forest `s`,
from runs up to the sequence, and each says what the check says of the file now, but for the files
in `stale`.

* `InLine.change`: with another forest, files become stale of which the check says something else.
* `InLine.check`: a live report of the next sequence number mends the lists of the files in it.
* `InLine.forget`: a file that is removed at the next sequence number has no live list.
* `InLine.others`: reports of the other channels change nothing.
-/

namespace ElmAssist

namespace Forest

variable {parse : Parser} {s : Forest} {access : Access} {sequence : Nat} {uri : String}

/-! ### Reports -/

/-- A live report lists the files it is asked for. -/
theorem slot?_checkAll (s : Forest) (access : Access) (sequence : Nat) (uris : List String)
    (uri : String) (c : Channel) :
    (s.checkAll access sequence uris).slot? uri c =
      if c = .live ∧ uri ∈ uris then some ⟨sequence, s.check access uri⟩ else none := by
  have listed : (s.checkAll access sequence uris).files.get? uri =
      if uri ∈ uris then some (s.check access uri) else none :=
    Catalog.get?_ofList_map (s.check access) uris uri
  rw [Report.slot?, listed]
  by_cases mem : uri ∈ uris <;> by_cases live : c = .live <;>
    simp [mem, live, checkAll, Ne.symm]

/-- The stale files when one forest takes the place of another: those that were stale, and those of
which the check says something else now. -/
def Unsettled (s t : Forest) (access : Access) (stale : String → Prop) (uri : String) : Prop :=
  stale uri ∨ ∃ f, s.get? uri = some f ∧ s.check access uri ≠ t.check access uri

/-- The files that are checked with a file are in the forest. -/
theorem held_of_mem_affectedBy (h : Sound parse s) {v : String} {f : SourceFile}
    (held : s.get? v = some f) (mem : uri ∈ s.affectedBy f) : ∃ g, s.get? uri = some g := by
  rcases List.mem_cons.mp mem with rfl | mem
  · exact ⟨f, h.uri_eq held ▸ held⟩
  · obtain ⟨g, there, -⟩ := (mem_importers_iff h).mp mem
    exact ⟨g, there⟩

end Forest

namespace Board

/-! ### The board in line with a forest -/

/-- The live lists on a board are those of files of a forest, from runs up to a sequence, and say
what the check says, but for the stale files. -/
structure InLine (b : Board) (s : Forest) (access : Access) (sequence : Nat)
    (stale : String → Prop) : Prop where
  bounded : ∀ uri slot, b.slot? uri .live = some slot → slot.sequence ≤ sequence
  marked : ∀ uri mark, b.removed.get? uri = some mark → mark ≤ sequence
  held : ∀ uri slot, b.slot? uri .live = some slot → ∃ f, s.get? uri = some f
  checked : ∀ uri slot, b.slot? uri .live = some slot →
    stale uri ∨ slot.diagnostics = s.check access uri

namespace InLine

variable {b : Board} {s t : Forest} {access : Access} {sequence : Nat} {stale : String → Prop}

theorem empty (s : Forest) (access : Access) (sequence : Nat) :
    Board.empty.InLine s access sequence fun _ => False :=
  ⟨nofun, nofun, nofun, nofun⟩

theorem mono (h : b.InLine s access sequence stale) {stale' : String → Prop}
    (more : ∀ uri f, s.get? uri = some f → stale uri → stale' uri) :
    b.InLine s access sequence stale' where
  bounded := h.bounded
  marked := h.marked
  held := h.held
  checked uri slot shown := by
    obtain ⟨f, held⟩ := h.held uri slot shown
    exact (h.checked uri slot shown).imp_left (more uri f held)

/-- The forest changes, and with it what the check says of some files. -/
theorem change (h : b.InLine s access sequence stale)
    (stays : ∀ uri slot, b.slot? uri .live = some slot → ∃ f, t.get? uri = some f) :
    b.InLine t access sequence (Forest.Unsettled s t access stale) where
  bounded := h.bounded
  marked := h.marked
  held := stays
  checked uri slot shown := by
    obtain ⟨f, held⟩ := h.held uri slot shown
    rcases h.checked uri slot shown with old | same
    · exact Or.inl (Or.inl old)
    · by_cases differs : s.check access uri = t.check access uri
      · exact Or.inr (same.trans differs)
      · exact Or.inl (Or.inr ⟨f, held, differs⟩)

/-- A number is taken. -/
theorem advance (h : b.InLine s access sequence stale) :
    b.InLine s access (sequence + 1) stale where
  bounded uri slot shown := Nat.le_succ_of_le (h.bounded uri slot shown)
  marked uri mark marked := Nat.le_succ_of_le (h.marked uri mark marked)
  held := h.held
  checked := h.checked

theorem not_isRemovedSince (h : b.InLine s access sequence stale) (uri : String) :
    ¬ b.isRemovedSince uri (sequence + 1) = true := by
  unfold isRemovedSince
  cases marked : b.removed.get? uri with
  | none => nofun
  | some mark =>
    have := h.marked uri mark marked
    rw [Option.any_some, decide_eq_true_iff]
    omega

/-- A report marks no file. -/
theorem marked_report (h : b.InLine s access sequence stale) {r : Report} {uri : String} {mark : Nat}
    (marked : (b.receive (.report r)).1.removed.get? uri = some mark) : mark ≤ sequence :=
  h.marked uri mark (marked_of_receive (m := .report r) (fun _ => nofun) marked)

/-- Reports of others change nothing. -/
theorem other (h : b.InLine s access sequence stale) {r : Report} (other : r.channel ≠ .live) :
    (b.receive (.report r)).1.InLine s access sequence stale := by
  have kept (uri : String) (slot : Slot)
      (shown : (b.receive (.report r)).1.slot? uri .live = some slot) :
      b.slot? uri .live = some slot := by
    have unlisted : (Message.report r).slot? uri .live = none := if_neg other
    exact ((slot?_receive_other b unlisted slot).mp shown).1
  exact ⟨fun uri slot shown => h.bounded uri slot (kept uri slot shown),
    fun _ _ => h.marked_report,
    fun uri slot shown => h.held uri slot (kept uri slot shown),
    fun uri slot shown => h.checked uri slot (kept uri slot shown)⟩

theorem others : ∀ {ms : List Message}, (∀ m ∈ ms, ∃ r, m = .report r ∧ r.channel ≠ .live) →
    ∀ {b : Board}, b.InLine s access sequence stale →
      (b.receiveAll ms).1.InLine s access sequence stale
  | [], _, _, h => h
  | m :: ms, all, b, h => by
    obtain ⟨r, rfl, tool⟩ := all m List.mem_cons_self
    exact others (fun m mem => all m (List.mem_cons_of_mem _ mem)) (h.other tool)

/-- A live report of the next sequence number mends the files that it lists. -/
theorem check (h : b.InLine s access sequence stale) {uris : List String}
    (held : ∀ uri ∈ uris, ∃ f, s.get? uri = some f) :
    (b.receive (.report (s.checkAll access (sequence + 1) uris))).1.InLine s access (sequence + 1)
      fun uri => stale uri ∧ uri ∉ uris := by
  have slots (uri : String) (slot : Slot)
      (shown : (b.receive (.report (s.checkAll access (sequence + 1) uris))).1.slot? uri .live =
        some slot) :
      uri ∈ uris ∧ slot = ⟨sequence + 1, s.check access uri⟩ ∨
        uri ∉ uris ∧ b.slot? uri .live = some slot := by
    -- The number is new: the board has no later list, and no removal that late.
    by_cases mem : uri ∈ uris
    · have named : (s.checkAll access (sequence + 1) uris).files.get? uri =
          some (s.check access uri) :=
        (Catalog.get?_ofList_map ..).trans (if_pos mem)
      have taken := slot?_report named (h.not_isRemovedSince uri) fun slot old =>
        Nat.le_succ_of_le (h.bounded uri slot old)
      exact Or.inl ⟨mem, Option.some.inj (shown.symm.trans taken)⟩
    · have unlisted : (Message.report (s.checkAll access (sequence + 1) uris)).slot? uri .live =
          none :=
        (Forest.slot?_checkAll ..).trans (if_neg fun both => mem both.2)
      exact Or.inr ⟨mem, ((slot?_receive_other b unlisted slot).mp shown).1⟩
  exact {
    bounded := fun uri slot shown => by
      rcases slots uri slot shown with ⟨-, rfl⟩ | ⟨-, old⟩
      · exact Nat.le_refl _
      · exact Nat.le_succ_of_le (h.bounded uri slot old)
    marked := fun _ _ marked => Nat.le_succ_of_le (h.marked_report marked)
    held := fun uri slot shown => by
      rcases slots uri slot shown with ⟨mem, -⟩ | ⟨-, old⟩
      · exact held uri mem
      · exact h.held uri slot old
    checked := fun uri slot shown => by
      rcases slots uri slot shown with ⟨-, rfl⟩ | ⟨unlisted, old⟩
      · exact Or.inr rfl
      · exact (h.checked uri slot old).imp_left fun before => ⟨before, unlisted⟩ }

/-- A file that is removed at the next sequence number has no live list. -/
theorem forget (h : b.InLine s access sequence stale) (gone : String) :
    (b.receive (.forget gone (sequence + 1))).1.InLine s access (sequence + 1) stale ∧
      (b.receive (.forget gone (sequence + 1))).1.slot? gone .live = none := by
  have slots (uri : String) (slot : Slot) :
      (b.receive (.forget gone (sequence + 1))).1.slot? uri .live = some slot ↔
        b.slot? uri .live = some slot ∧ ∀ n, Message.forget gone (sequence + 1) ≠ .forget uri n :=
    slot?_receive_other b rfl slot
  refine ⟨⟨fun uri slot shown => ?_, fun uri mark marked => ?_, fun uri slot shown => ?_,
    fun uri slot shown => ?_⟩, Option.eq_none_iff_forall_ne_some.mpr fun slot shown => ?_⟩
  · exact Nat.le_succ_of_le (h.bounded uri slot ((slots uri slot).mp shown).1)
  · replace marked : (b.removed.insert gone _).get? uri = some mark := marked
    rw [Catalog.get?_insert] at marked
    split at marked
    · obtain rfl := Option.some.inj marked
      refine Nat.max_le.mpr ⟨?_, Nat.le_refl _⟩
      cases earlier : b.removed.get? gone with
      | none => exact Nat.le_refl _
      | some mark => exact Nat.le_succ_of_le (h.marked gone mark earlier)
    · exact Nat.le_succ_of_le (h.marked uri mark marked)
  · exact h.held uri slot ((slots uri slot).mp shown).1
  · exact h.checked uri slot ((slots uri slot).mp shown).1
  · exact ((slots gone slot).mp shown).2 _ rfl

end InLine

end Board

end ElmAssist
