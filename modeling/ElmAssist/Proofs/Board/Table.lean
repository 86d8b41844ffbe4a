import ElmAssist.Proofs.Board.Standing
import ElmAssist.Proofs.Text.ByteOrder

/-!
# Board — The table

What a board shows, and when it shows the same as before.

* `mem_merged_iff`, `merged_increasing`: the table lists each file that has a filled slot, once, in
  the byte order of the uris.
* `snd_takes`: a report counts the lists that are taken, each by what its file has before the report.
* `apply_eq_of_none_taken`: a report of which no list is taken leaves the board as it is.

The last needs sound standings, in which a list that is not taken leaves no trace
(`Standing.Sound.take_cases`).
-/

namespace ElmAssist

/-- The lists of the channels stand in their order. -/
theorem Slots.merge_eq (s : Slots) :
    s.merge = (s.linter.map Slot.diagnostics).getD [] ++ (s.live.map Slot.diagnostics).getD [] ++
      (s.compiler.map Slot.diagnostics).getD [] := by
  simp [merge, Channel.all, get]

namespace Board

/-! ### What is shown -/

theorem mem_merged_iff {b : Board} {f : FileDiagnostics} :
    f ∈ b.merged ↔
      ∃ slots, b.files.get? f.uri = some slots ∧ slots.isFilled = true ∧
        slots.merge = f.diagnostics := by
  obtain ⟨uri, ds⟩ := f
  unfold merged
  simp only [List.mem_map, List.mem_filter, FileDiagnostics.mk.injEq, Prod.exists]
  constructor
  · rintro ⟨_, slots, ⟨mem, filled⟩, rfl, e⟩
    exact ⟨slots, Catalog.mem_entries_iff.mp mem, filled, e⟩
  · rintro ⟨slots, held, filled, e⟩
    exact ⟨uri, slots, ⟨Catalog.mem_entries_iff.mpr held, filled⟩, rfl, e⟩

/-- What is shown is in the byte order of the uris, each of which stands once. -/
theorem merged_increasing (b : Board) :
    (b.merged.map FileDiagnostics.uri).Pairwise fun u v => Text.encode u < Text.encode v := by
  unfold merged
  rw [List.map_map, List.pairwise_map]
  refine (b.files.increasing.filter _).imp fun {e f} less => ?_
  exact (Text.encode_lt_encode ..).mpr (compareOfLessAndEq_eq_lt.mp less)

theorem merged_nodup (b : Board) : (b.merged.map FileDiagnostics.uri).Nodup := by
  refine b.merged_increasing.imp fun {u v} less => ?_
  rintro rfl
  exact List.lt_irrefl _ less

/-- A file of sound standing is in the table with its merged list, if it has an entry. -/
theorem mem_merged_iff_mergedFor? {b : Board} {f : FileDiagnostics}
    (sound : (b.standing f.uri).Sound) :
    f ∈ b.merged ↔ b.mergedFor? f.uri = some f.diagnostics := by
  rw [mem_merged_iff, mergedFor?, Option.map_eq_some_iff]
  exact ⟨fun ⟨slots, held, _, e⟩ => ⟨slots, held, e⟩,
    fun ⟨slots, held, e⟩ => ⟨slots, held, sound.filled slots held, e⟩⟩

theorem mem_uris_merged_iff {b : Board} {uri : String} (sound : (b.standing uri).Sound) :
    uri ∈ b.merged.map FileDiagnostics.uri ↔ (b.standing uri).slots ≠ none := by
  rw [List.mem_map]
  constructor
  · rintro ⟨f, mem, rfl⟩
    obtain ⟨slots, held, -⟩ := mem_merged_iff.mp mem
    exact fun e => nomatch held.symm.trans e
  · intro some_
    obtain ⟨slots, held⟩ := Option.ne_none_iff_exists'.mp some_
    exact ⟨⟨uri, slots.merge⟩, mem_merged_iff.mpr ⟨slots, held, sound.filled slots held, rfl⟩, rfl⟩

/-! ### What is taken -/

/-- A list that is taken is counted. -/
theorem snd_take (c : Channel) (sequence : Nat) (b : Board) (n : Nat)
    (file : String × List Diagnostic) :
    (take c sequence (b, n) file).2 =
      n + if (b.standing file.1).accepts c ⟨sequence, file.2⟩ = true then 1 else 0 := by
  have late : (b.reopen file.1).isOutdated file.1 c sequence =
      ((b.standing file.1).slot? c).any (sequence < ·.sequence) := by
    rw [isOutdated, slot?, slotsOf_reopen]
    rfl
  have accepts : (b.standing file.1).accepts c ⟨sequence, file.2⟩ =
      (!b.isRemovedSince file.1 sequence && !(b.reopen file.1).isOutdated file.1 c sequence) := by
    rw [late]
    rfl
  rw [accepts, take]
  dsimp only
  cases b.isRemovedSince file.1 sequence with
  | true => rfl
  | false => cases (b.reopen file.1).isOutdated file.1 c sequence <;> rfl

/-- Each file is asked as it stands before the report: no list of another file changes it. -/
theorem snd_takes (c : Channel) (sequence : Nat) :
    ∀ {files : List (String × List Diagnostic)} (b : Board) (n : Nat), Pairs.Increasing files →
      (files.foldl (take c sequence) (b, n)).2 =
        n + files.countP fun file => (b.standing file.1).accepts c ⟨sequence, file.2⟩
  | [], _, _, _ => rfl
  | file :: rest, b, n, order => by
    obtain ⟨first, later⟩ := List.pairwise_cons.mp order
    have others : ∀ e ∈ rest,
        (take c sequence (b, n) file).1.standing e.1 = b.standing e.1 := fun e he => by
      rw [standing_take, if_neg]
      intro same
      have less := first e he
      rw [same, Std.ReflOrd.compare_self] at less
      cases less
    have asked : rest.countP (fun e => ((take c sequence (b, n) file).1.standing e.1).accepts c
        ⟨sequence, e.2⟩) = rest.countP fun e => (b.standing e.1).accepts c ⟨sequence, e.2⟩ :=
      List.countP_congr fun e he => by rw [others e he]
    rw [List.foldl_cons, snd_takes c sequence _ _ later, snd_take, asked, List.countP_cons]
    omega

/-- **A report of which no list is taken changes nothing.** -/
theorem apply_eq_of_none_taken {b : Board} (sound : ∀ uri, (b.standing uri).Sound) {r : Report}
    (none_ : (b.apply r).2 = 0) : (b.apply r).1 = b := by
  have refused : ∀ file ∈ r.files.entries,
      ¬ (b.standing file.1).accepts r.channel ⟨r.sequence, file.2⟩ = true := by
    rw [apply, snd_takes r.channel r.sequence b 0 r.files.increasing, Nat.zero_add] at none_
    exact List.countP_eq_zero.mp none_
  refine ext_standing fun uri => ?_
  rw [standing_apply, Standing.receive]
  cases named : r.files.get? uri with
  | none => rfl
  | some ds =>
    rcases (sound uri).take_cases r.channel ⟨r.sequence, ds⟩ with ⟨taken, -⟩ | ⟨-, same, -⟩
    · exact absurd taken (refused (uri, ds) (Catalog.mem_entries_iff.mpr named))
    · exact same

end Board

end ElmAssist
