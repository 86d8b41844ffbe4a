import ElmAssist.Proofs.Board.Live
import ElmAssist.Proofs.Workspace.Course
import ElmAssist.Tree.Heading

/-!
# Workspace — What a deletion leaves on the board

A file that is deleted is taken out of the forest, and the board is told that it is gone. If the
forest does not hold it, there is nothing to take out, and nothing is told: whatever the tools have
reported of it stays on the board. They report files that are never held, such as the tests of a
project and its manifest.

* `recheckAll_unlisted`: no check lists a file that is not held.
* `deleted_entry_gone_iff`: the board has no entry for a deleted file exactly when the file was held,
  or there was none before.
* `unheld_file_stays`: a file with an error of the compiler, which keeps it when it is deleted.
-/

namespace ElmAssist.Workspace

variable {parse : Parser} {machine : Machine} {w : Workspace} {uri : String} {c : Channel}

/-! ### What is told -/

/-- A check lists files of the forest only. -/
theorem recheck_unlisted (sound : w.forest.Sound parse) (missing : w.forest.get? uri = none)
    (checked : String) : ∀ m ∈ (w.recheck checked).messages, m.slot? uri c = none := by
  cases held : w.forest.get? checked with
  | none =>
    rw [recheck_of_missing held]
    exact List.forall_mem_nil _
  | some f =>
    rw [recheck_messages held]
    refine List.forall_mem_singleton.mpr ((Forest.slot?_checkAll ..).trans (if_neg fun listed => ?_))
    obtain ⟨g, there⟩ := Forest.held_of_mem_affectedBy sound held listed.2
    cases missing.symm.trans there

theorem recheckAll_unlisted (uris : List String) (sound : w.forest.Sound parse)
    (missing : w.forest.get? uri = none) :
    ∀ m ∈ (w.recheckAll uris).messages, m.slot? uri c = none := by
  induction uris generalizing w with
  | nil => exact List.forall_mem_nil _
  | cons checked uris ih =>
    rw [recheckAll_messages_cons]
    exact List.forall_mem_append.mpr
      ⟨recheck_unlisted sound missing checked, ih (w := (w.recheck checked).workspace) sound missing⟩

/-- A deletion tells that the file is gone if the forest held it, and lists it in no case. -/
theorem deleteFile_told (sound : w.forest.Sound parse) (uri : String) :
    ((∃ sequence, .forget uri sequence ∈ (w.deleteFile uri).messages) ↔
        ∃ f, w.forest.get? uri = some f) ∧
      ∀ m ∈ (w.deleteFile uri).messages, ∀ c, m.slot? uri c = none := by
  have forest : (w.forget uri).forest = w.forest := rfl
  unfold deleteFile
  dsimp only
  rw [forest]
  cases held : w.forest.get? uri with
  | none => simp [Turn.start]
  | some f =>
    refine ⟨iff_of_true ⟨_, List.mem_cons_self⟩ ⟨f, rfl⟩, fun m mem c => ?_⟩
    rcases List.mem_cons.mp mem with rfl | mem
    · rfl
    · have missing : (w.forest.remove uri).get? uri = none :=
        (Forest.get?_remove ..).trans (if_pos rfl)
      exact recheckAll_unlisted _ (sound.remove uri) missing m mem

/-! ### What is left -/

/-- **When a deletion leaves no entry on the board**: exactly when the forest held the file, or the
board had none for it before. -/
theorem deleted_entry_gone_iff (parse : Parser) {machine : Machine} {root : Path}
    {settings : Settings} {w : Workspace} (opened : openWith machine root settings = .ok w)
    (acts : List Act) (before : List Message) (uri : String) :
    let now := (history parse w acts).workspace
    (Board.after (before ++ (now.deleteFile uri).messages)).mergedFor? uri = none ↔
      (∃ f, now.forest.get? uri = some f) ∨ (Board.after before).mergedFor? uri = none := by
  intro now
  have sound : now.forest.Sound parse := sound_history opened acts
  obtain ⟨told, unlisted⟩ := deleteFile_told sound uri
  rw [Board.mergedFor?_append_eq_none_iff before unlisted, told]

/-- A file is opened. -/
def openedSource : List Act :=
  [.move (.event packageMachine (.opened "file:///p/src/A.elm" "module A" 1))]

/-- The file that was opened has an entry on the board, and none once it is deleted. -/
theorem opened_file_gone :
    ∃ w, openWith packageMachine (.ofString "/p") .usual = .ok w ∧
      let now := history Heading.rows w openedSource
      now.board.mergedFor? "file:///p/src/A.elm" = some [] ∧
        (Board.after (now.sent ++ (now.workspace.deleteFile "file:///p/src/A.elm").messages)).mergedFor?
          "file:///p/src/A.elm" = none := by
  obtain ⟨w, opened, mem⟩ := exists_package
  have shown : ∀ w ∈ package?, (history Heading.rows w openedSource).board.mergedFor?
      "file:///p/src/A.elm" = some [] := by decide +kernel
  have held : ∀ w ∈ package?, ((history Heading.rows w openedSource).workspace.forest.get?
      "file:///p/src/A.elm").isSome = true := by decide +kernel
  refine ⟨w, opened, shown w mem, ?_⟩
  exact (deleted_entry_gone_iff Heading.rows opened openedSource _ _).mpr
    (Or.inl (Option.isSome_iff_exists.mp (held w mem)))

/-- The compiler has an error in a test, which is no source of the package. -/
def testError : Message :=
  .report ⟨.compiler, 1,
    .ofList [("file:///p/tests/T.elm", [⟨.compiler, ⟨⟨0, 0⟩, ⟨0, 1⟩⟩, .error, "T"⟩])]⟩

/-- **A file that is not held stays on the board.** The test is deleted and keeps its error. -/
theorem unheld_file_stays :
    ¬ ∀ (machine : Machine) (root : Path) (settings : Settings) (w : Workspace),
      openWith machine root settings = .ok w →
      ∀ (parse : Parser) (acts : List Act) (before : List Message) (uri : String),
      (Board.after (before ++ ((history parse w acts).workspace.deleteFile uri).messages)).mergedFor?
        uri = none := by
  intro gone
  obtain ⟨w, opened, mem⟩ := exists_package
  have stays : ∀ w ∈ package?, ((Board.after ([testError] ++
      ((history Heading.rows w []).workspace.deleteFile "file:///p/tests/T.elm").messages)).mergedFor?
        "file:///p/tests/T.elm").isSome = true := by decide +kernel
  have kept := stays w mem
  rw [gone _ _ _ w opened Heading.rows [] [testError] "file:///p/tests/T.elm"] at kept
  cases kept

end ElmAssist.Workspace
