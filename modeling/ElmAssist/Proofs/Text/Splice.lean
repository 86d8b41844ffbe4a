import ElmAssist.Proofs.Text.Measure
import ElmAssist.Text.Splice

/-!
# Text — Splices

The replacement between two texts keeps their longest common beginning and, of what follows it, the
longest common ending. `Apart` says what is left between the two, without the search for it.

* `commonLength_split`: two sequences begin alike, then they differ or one of them ends.
* `exists_apart`: the stretches of a splice.
* `Apart.length_le`: no other single replacement takes less away or puts less in.
* `between_isLeast`: a splice is the least replacement that turns the old text into the new one, and
  its points are those of its offsets (`IsLeast`).
-/

namespace ElmAssist.Splice

variable {old new before taken put after front behind a b : List UInt8}

/-! ### What is left between -/

/-- Two sequences are the same in front and behind; what is left between differs in its first byte
and in its last one, where there is something left of both. -/
structure Apart (old new before taken put after : List UInt8) : Prop where
  old_eq : old = before ++ taken ++ after
  new_eq : new = before ++ put ++ after
  first : taken ≠ [] → put ≠ [] → taken.head? ≠ put.head?
  last : taken ≠ [] → put ≠ [] → taken.getLast? ≠ put.getLast?

/-- Two sequences are not the same any longer than to the first difference. -/
theorem length_le_of_isPrefix (in_old : front <+: before ++ a) (in_new : front <+: before ++ b)
    (some_a : a ≠ []) (some_b : b ≠ []) (differ : a.head? ≠ b.head?) :
    front.length ≤ before.length := by
  obtain ⟨x, a, rfl⟩ := List.exists_cons_of_ne_nil some_a
  obtain ⟨y, b, rfl⟩ := List.exists_cons_of_ne_nil some_b
  by_contra longer
  -- One byte more than what is before would belong to both.
  have with_x : before ++ [x] <+: front :=
    List.prefix_of_prefix_length_le (by simp) in_old (by simp; omega)
  have with_y : before ++ [y] <+: front :=
    List.prefix_of_prefix_length_le (by simp) in_new (by simp; omega)
  have same : before ++ [x] = before ++ [y] :=
    (List.prefix_of_prefix_length_le with_x with_y (by simp)).eq_of_length (by simp)
  exact differ (congrArg some (by simpa using same))

namespace Apart

theorem reverse (h : Apart old new before taken put after) :
    Apart old.reverse new.reverse after.reverse taken.reverse put.reverse before.reverse where
  old_eq := by simp [h.old_eq]
  new_eq := by simp [h.new_eq]
  first := by simpa using h.last
  last := by simpa using h.first

theorem length_front_le (h : Apart old new before taken put after) (some_ : taken ≠ [])
    (some' : put ≠ []) (in_old : front <+: old) (in_new : front <+: new) :
    front.length ≤ before.length := by
  rw [h.old_eq, List.append_assoc] at in_old
  rw [h.new_eq, List.append_assoc] at in_new
  refine length_le_of_isPrefix in_old in_new (by simp [some_]) (by simp [some']) ?_
  rw [List.head?_append_of_ne_nil _ some_, List.head?_append_of_ne_nil _ some']
  exact h.first some_ some'

/-- **No other single replacement is smaller.** -/
theorem length_le (h : Apart old new before taken put after)
    (old_eq : old = front ++ a ++ behind) (new_eq : new = front ++ b ++ behind) :
    taken.length ≤ a.length ∧ put.length ≤ b.length := by
  have old_length := congrArg List.length (old_eq.symm.trans h.old_eq)
  have new_length := congrArg List.length (new_eq.symm.trans h.new_eq)
  simp only [List.length_append] at old_length new_length
  -- With nothing left of one sequence, all of it is kept, and none can keep more.
  rcases eq_or_ne taken [] with rfl | some_
  · simp only [List.length_nil] at old_length ⊢
    omega
  rcases eq_or_ne put [] with rfl | some'
  · simp only [List.length_nil] at new_length ⊢
    omega
  have in_front : front.length ≤ before.length :=
    h.length_front_le some_ some' (by simp [old_eq]) (by simp [new_eq])
  have in_back : behind.reverse.length ≤ after.reverse.length :=
    h.reverse.length_front_le (by simpa using some_) (by simpa using some') (by simp [old_eq])
      (by simp [new_eq])
  simp only [List.length_reverse] at in_back
  omega

/-- Nothing is replaced between a sequence and itself. -/
theorem eq_nil_iff (h : Apart old new before taken put after) :
    taken = [] ∧ put = [] ↔ old = new := by
  constructor
  · rintro ⟨rfl, rfl⟩
    exact h.old_eq.trans h.new_eq.symm
  · rintro rfl
    have whole : old = old ++ [] ++ [] := by simp
    simpa using h.length_le whole whole

end Apart

/-! ### The stretches of a splice -/

theorem commonLength_split (a b : List UInt8) :
    ∃ front x y, a = front ++ x ∧ b = front ++ y ∧ front.length = commonLength a b ∧
      (x ≠ [] → y ≠ [] → x.head? ≠ y.head?) := by
  fun_induction commonLength a b with
  | case1 a as bs ih =>
    obtain ⟨front, x, y, rfl, rfl, length, differ⟩ := ih
    exact ⟨_ :: front, x, y, rfl, rfl, congrArg (· + 1) length, differ⟩
  | case2 a as b bs apart =>
    exact ⟨[], a :: as, b :: bs, rfl, rfl, rfl, fun _ _ same => apart (Option.some.inj same)⟩
  | case3 a b ends =>
    refine ⟨[], a, b, rfl, rfl, rfl, fun some_a some_b => ?_⟩
    obtain ⟨x, a, rfl⟩ := List.exists_cons_of_ne_nil some_a
    obtain ⟨y, b, rfl⟩ := List.exists_cons_of_ne_nil some_b
    exact (ends x a y b rfl rfl).elim

theorem exists_apart (old new : List UInt8) :
    ∃ before taken put after, Apart old new before taken put after ∧
      (ofBytes old new).start = before.length ∧
      (ofBytes old new).oldStop = (before ++ taken).length ∧
      (ofBytes old new).newStop = (before ++ put).length := by
  obtain ⟨before, x, y, old_eq, new_eq, start, first⟩ := commonLength_split old new
  obtain ⟨back, u, v, x_eq, y_eq, ending, last⟩ := commonLength_split x.reverse y.reverse
  rw [List.reverse_eq_iff, List.reverse_append] at x_eq y_eq
  have rest : old.drop (commonLength old new) = x ∧ new.drop (commonLength old new) = y := by
    rw [← start, old_eq, new_eq, List.drop_left, List.drop_left]
    exact ⟨rfl, rfl⟩
  have apart : Apart old new before u.reverse v.reverse back.reverse :=
    { old_eq := by rw [old_eq, x_eq, List.append_assoc]
      new_eq := by rw [new_eq, y_eq, List.append_assoc]
      first := fun some_ some' => by
        rw [x_eq, y_eq, List.head?_append_of_ne_nil _ some_,
          List.head?_append_of_ne_nil _ some'] at first
        exact first (by simp [some_]) (by simp [some'])
      last := by simpa using last }
  refine ⟨before, u.reverse, v.reverse, back.reverse, apart, start.symm, ?_, ?_⟩
  · rw [ofBytes, rest.1, rest.2, ← ending, apart.old_eq]
    simp only [List.length_append, List.length_reverse]
    omega
  · rw [ofBytes, rest.1, rest.2, ← ending, apart.new_eq]
    simp only [List.length_append, List.length_reverse]
    omega

/-! ### Texts -/

/-- The bytes of the old text that are replaced. -/
def removed (s : Splice) (old : String) : List UInt8 :=
  ((Text.encode old).take s.oldStop).drop s.start

/-- The bytes of the new text that stand in their place. -/
def inserted (s : Splice) (new : String) : List UInt8 :=
  ((Text.encode new).take s.newStop).drop s.start

/-- The place where `bs` ends: the row counts its newlines, the column the bytes since the last of
them. -/
def endOf (bs : List UInt8) : Point :=
  ⟨bs.count 10, (bs.reverse.takeWhile (· ≠ 10)).length⟩

/-- A splice is the least replacement that turns a text into another one.

* Its offsets are in order and within the texts.
* The texts are the same before its start and from its stops on, so the bytes inserted in place of
  those removed turn the old text into the new one.
* What is removed and what is inserted differ in their first and in their last byte, no other
  replacement removes or inserts less, and both are empty exactly where the texts are the same.
* The points are those of the offsets, and the start has the same one in both texts. -/
structure IsLeast (s : Splice) (old new : String) : Prop where
  start_le_oldStop : s.start ≤ s.oldStop
  oldStop_le : s.oldStop ≤ (Text.encode old).length
  start_le_newStop : s.start ≤ s.newStop
  newStop_le : s.newStop ≤ (Text.encode new).length
  before_eq : (Text.encode old).take s.start = (Text.encode new).take s.start
  after_eq : (Text.encode old).drop s.oldStop = (Text.encode new).drop s.newStop
  replaced_eq : (Text.encode old).take s.start ++ s.inserted new ++
    (Text.encode old).drop s.oldStop = Text.encode new
  first_ne : s.removed old ≠ [] → s.inserted new ≠ [] →
    (s.removed old).head? ≠ (s.inserted new).head?
  last_ne : s.removed old ≠ [] → s.inserted new ≠ [] →
    (s.removed old).getLast? ≠ (s.inserted new).getLast?
  least : ∀ front a b behind, Text.encode old = front ++ a ++ behind →
    Text.encode new = front ++ b ++ behind →
      (s.removed old).length ≤ a.length ∧ (s.inserted new).length ≤ b.length
  empty_iff : s.removed old = [] ∧ s.inserted new = [] ↔ old = new
  startPoint_eq : s.startPoint = endOf ((Text.encode old).take s.start)
  startPoint_eq' : s.startPoint = endOf ((Text.encode new).take s.start)
  oldStopPoint_eq : s.oldStopPoint = endOf ((Text.encode old).take s.oldStop)
  newStopPoint_eq : s.newStopPoint = endOf ((Text.encode new).take s.newStop)

/-- **The splice between two texts is the least one.** -/
theorem between_isLeast (old new : String) : (between old new).IsLeast old new := by
  obtain ⟨before, x, y, after, apart, start, oldStop, newStop⟩ :=
    exists_apart (Text.encode old) (Text.encode new)
  change (between old new).start = _ at start
  change (between old new).oldStop = _ at oldStop
  change (between old new).newStop = _ at newStop
  have before_old : (Text.encode old).take (between old new).start = before := by
    rw [start, apart.old_eq, List.append_assoc, List.take_left]
  have before_new : (Text.encode new).take (between old new).start = before := by
    rw [start, apart.new_eq, List.append_assoc, List.take_left]
  have after_old : (Text.encode old).drop (between old new).oldStop = after := by
    rw [oldStop, apart.old_eq, List.drop_left]
  have after_new : (Text.encode new).drop (between old new).newStop = after := by
    rw [newStop, apart.new_eq, List.drop_left]
  have removed_eq : (between old new).removed old = x := by
    rw [removed, start, oldStop, apart.old_eq, List.take_left, List.drop_left]
  have inserted_eq : (between old new).inserted new = y := by
    rw [inserted, start, newStop, apart.new_eq, List.take_left, List.drop_left]
  have startPoint : (between old new).startPoint = endOf before := before_old ▸ Text.after_eq _
  exact
    { start_le_oldStop := by simp [start, oldStop]
      oldStop_le := by simp [oldStop, apart.old_eq]
      start_le_newStop := by simp [start, newStop]
      newStop_le := by simp [newStop, apart.new_eq]
      before_eq := before_old.trans before_new.symm
      after_eq := after_old.trans after_new.symm
      replaced_eq := by rw [before_old, inserted_eq, after_old, apart.new_eq]
      first_ne := by rw [removed_eq, inserted_eq]; exact apart.first
      last_ne := by rw [removed_eq, inserted_eq]; exact apart.last
      least := fun front a b behind => by
        rw [removed_eq, inserted_eq]
        exact apart.length_le
      empty_iff := by
        rw [removed_eq, inserted_eq, apart.eq_nil_iff]
        exact ⟨Text.encode_injective, congrArg Text.encode⟩
      startPoint_eq := by rw [startPoint, before_old]
      startPoint_eq' := by rw [startPoint, before_new]
      oldStopPoint_eq := Text.after_eq _
      newStopPoint_eq := Text.after_eq _ }

/-- Two characters that begin with the same byte: the splice starts inside of them. -/
theorem accent_replaced :
    let s := between "é = 1\n" "è = 12\n"
    s = ⟨1, 6, 7, ⟨0, 1⟩, ⟨0, 6⟩, ⟨0, 7⟩⟩ ∧
      (s.removed "é = 1\n").head? ≠ (s.inserted "è = 12\n").head? := by
  intro s
  have least := between_isLeast "é = 1\n" "è = 12\n"
  exact ⟨by decide +kernel, least.first_ne (by decide +kernel) (by decide +kernel)⟩

end ElmAssist.Splice
