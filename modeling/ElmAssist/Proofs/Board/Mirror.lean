import ElmAssist.Proofs.Board.Table
import ElmAssist.Wire

/-!
# Board — What editors see

An editor shows for each file the list it was sent last. It never sees the board, only the
notifications of each publication, and a publication says nothing of a file that left the table
unless the file is cleared. Still the editor shows what the board has (`editor_mirrors_board`): a
report takes no file out of the table, a removal clears the one file it takes out, and a message
without a publication leaves the table as it was.

The proof is a simulation: `Mirrors` relates an editor to a board, and `mirrors_receive` carries it
over one message.
-/

namespace ElmAssist

/-! ### Editors -/

/-- What an editor shows for each uri, as it was sent. -/
def Editor : Type := String → List Json

namespace Editor

/-- An editor that was sent nothing. -/
def blank : Editor := fun _ => []

/-- The editor shows a list for a uri, in place of the one before. -/
def put (e : Editor) (uri : String) (list : List Json) : Editor :=
  fun v => if v = uri then list else e v

/-- The editor is sent a notification. -/
def notify (e : Editor) (params : Json) : Editor :=
  match (params.get? "uri").bind Json.string?, (params.get? "diagnostics").bind Json.items? with
  | some uri, some list => e.put uri list
  | _, _ => e

/-- The editor is sent the notifications of a publication, in order. -/
def publish (e : Editor) (p : Publication) : Except Fault Editor :=
  (Wire.publishParams p).map (List.foldl notify e)

/-- The editor is sent publications, in order. -/
def publishAll (e : Editor) (ps : List Publication) : Except Fault Editor :=
  ps.foldlM publish e

end Editor

/-! ### Notifications -/

namespace Wire

/-- The notification of a file whose uri is one. -/
theorem fileParams_eq {f : FileDiagnostics} (valid : Uri.isReference f.uri = true) :
    fileParams f = .ok (.object
      [("uri", .string f.uri), ("diagnostics", .array (f.diagnostics.map diagnostic))]) := by
  unfold fileParams uri
  rw [if_pos valid]
  rfl

/-- What an editor shows after the notifications of files: the list of each file named, provided
none is named twice; else what it showed before. -/
theorem notify_files : ∀ {files : List FileDiagnostics},
    (∀ f ∈ files, Uri.isReference f.uri = true) → (files.map FileDiagnostics.uri).Nodup →
      ∀ e : Editor, ∃ e', (files.mapM fileParams).map (List.foldl Editor.notify e) = .ok e' ∧
        (∀ f ∈ files, e' f.uri = f.diagnostics.map diagnostic) ∧
        ∀ uri, uri ∉ files.map FileDiagnostics.uri → e' uri = e uri
  | [], _, _, e => ⟨e, rfl, nofun, fun _ _ => rfl⟩
  | f :: files, valid, nodup, e => by
    obtain ⟨fresh, nodup⟩ := List.nodup_cons.mp nodup
    obtain ⟨e', sent, shown, others⟩ := notify_files
      (fun g hg => valid g (List.mem_cons_of_mem _ hg)) nodup
      (e.put f.uri (f.diagnostics.map diagnostic))
    refine ⟨e', ?_, fun g hg => ?_, fun uri out => ?_⟩
    · rw [List.mapM_cons, fileParams_eq (valid f List.mem_cons_self), ← sent]
      cases files.mapM fileParams <;> rfl
    · rcases List.mem_cons.mp hg with rfl | hg
      · rw [others g.uri fresh]
        exact if_pos rfl
      · exact shown g hg
    · rw [List.map_cons, List.mem_cons, not_or] at out
      rw [others uri out.2]
      exact if_neg out.1

end Wire

namespace Message

/-- The uris a message names. -/
def uris : Message → List String
  | .report r => r.files.keys
  | .forget uri _ => [uri]
  | .snapshot => []

end Message

namespace Board

/-! ### The simulation -/

/-- What an editor is to show for a file: its merged list, or nothing if it has no entry. -/
def display (b : Board) (uri : String) : List Json :=
  ((b.mergedFor? uri).getD []).map Wire.diagnostic

/-- The editor shows what the board has. -/
def Mirrors (e : Editor) (b : Board) : Prop :=
  ∀ uri, e uri = b.display uri

/-- An entry comes from a report that names the file. -/
theorem named_of_receive {b : Board} {m : Message} {uri : String}
    (held : ((b.receive m).1.standing uri).slots ≠ none) :
    (b.standing uri).slots ≠ none ∨ uri ∈ m.uris := by
  rw [standing_receive] at held
  cases m with
  | snapshot => exact Or.inl held
  | forget gone s =>
    rw [Standing.receive] at held
    split at held
    · exact absurd rfl held
    · exact Or.inl held
  | report r =>
    rw [Standing.receive] at held
    split at held
    · rename_i ds named
      exact Or.inr (List.mem_map.mpr ⟨(uri, ds), Catalog.mem_entries_iff.mpr named, rfl⟩)
    · exact Or.inl held

theorem named_of_after {ms : List Message} {uri : String}
    (held : ((after ms).standing uri).slots ≠ none) : ∃ m ∈ ms, uri ∈ m.uris := by
  induction ms using List.reverseRecOn with
  | nil => exact absurd rfl held
  | append_singleton ms m ih =>
    rw [after_concat] at held
    rcases named_of_receive held with before | named
    · obtain ⟨n, hn, named⟩ := ih before
      exact ⟨n, List.mem_append_left _ hn, named⟩
    · exact ⟨m, List.mem_append_right _ List.mem_cons_self, named⟩

/-- A report takes no file out of the table. -/
theorem slots_receive_report {b : Board} {r : Report} {uri : String}
    (gone : ((b.receive (.report r)).1.standing uri).slots = none) :
    (b.standing uri).slots = none := by
  rw [standing_receive, Standing.receive] at gone
  split at gone
  · rw [Standing.take] at gone
    split at gone
    · exact gone
    · cases gone
  · exact gone

theorem display_eq_nil {b : Board} {uri : String} (h : (b.standing uri).slots = none) :
    b.display uri = [] := by
  rw [display, mergedFor?, show b.files.get? uri = none from h]
  rfl

/-- A publication lists the table, and clears a file at most that is not in it. -/
theorem publication_eq {b : Board} {m : Message} {p : Publication}
    (published : (b.receive m).2 = some p) :
    p.files = (b.receive m).1.merged ∧
      ((∃ r, m = .report r ∧ p.cleared = []) ∨ ∃ uri s, m = .forget uri s ∧ p.cleared = [uri]) := by
  cases m with
  | snapshot => cases published
  | report r =>
    rw [receive] at published ⊢
    dsimp only at published ⊢
    split at published
    · cases published; exact ⟨rfl, Or.inl ⟨r, rfl, rfl⟩⟩
    · cases published
  | forget uri s =>
    rw [receive] at published ⊢
    dsimp only at published ⊢
    split at published
    · cases published; exact ⟨rfl, Or.inr ⟨uri, s, rfl, rfl⟩⟩
    · cases published

/-- No file is both listed and cleared. -/
theorem cleared_not_listed {b : Board} {m : Message} {p : Publication}
    (published : (b.receive m).2 = some p) {uri : String} (cleared : uri ∈ p.cleared) :
    uri ∉ p.files.map FileDiagnostics.uri := by
  obtain ⟨files, ⟨r, rfl, none_⟩ | ⟨gone, s, rfl, one⟩⟩ := publication_eq published
  · rw [none_] at cleared; cases cleared
  · rw [one, List.mem_singleton] at cleared
    subst cleared
    rw [files, List.mem_map]
    rintro ⟨f, mem, rfl⟩
    obtain ⟨slots, held, -⟩ := mem_merged_iff.mp mem
    have gone : ((b.receive (.forget f.uri s)).1.standing f.uri).slots = none := by
      rw [standing_receive, Standing.receive, if_pos rfl]
      rfl
    cases held.symm.trans gone

/-- **A message without a publication leaves every list as it was.** -/
theorem files_eq_of_unpublished {b : Board} (sound : ∀ uri, (b.standing uri).Sound) {m : Message}
    (quiet : (b.receive m).2 = none) : (b.receive m).1.files = b.files := by
  cases m with
  | snapshot => rfl
  | report r =>
    rw [receive] at quiet ⊢
    dsimp only at quiet ⊢
    split at quiet
    · cases quiet
    · rename_i taken
      rw [apply_eq_of_none_taken sound (Nat.eq_zero_of_not_pos taken)]
  | forget gone s =>
    rw [receive] at quiet
    dsimp only at quiet
    split at quiet
    · cases quiet
    · rename_i absent
      rw [Catalog.contains_eq_isSome, Option.not_isSome_iff_eq_none] at absent
      refine Catalog.ext_get? fun uri => ?_
      change (b.files.erase gone).get? uri = _
      rw [Catalog.get?_erase]
      split
      · rename_i same; rw [same, absent]
      · rfl

/-- What a publication sends: the lists of its files, and an empty one for each cleared file. -/
def sent (p : Publication) : List FileDiagnostics :=
  p.files ++ p.cleared.map (FileDiagnostics.mk · [])

theorem uris_sent (p : Publication) :
    (sent p).map FileDiagnostics.uri = p.files.map FileDiagnostics.uri ++ p.cleared := by
  simp [sent, Function.comp_def]

theorem nodup_uris_sent {b : Board} {m : Message} {p : Publication}
    (published : (b.receive m).2 = some p) : ((sent p).map FileDiagnostics.uri).Nodup := by
  obtain ⟨files, kinds⟩ := publication_eq published
  rw [uris_sent, List.nodup_append]
  refine ⟨files ▸ merged_nodup _, ?_, fun u hu v hv same => ?_⟩
  · obtain ⟨_, _, none_⟩ | ⟨_, _, _, one⟩ := kinds
    · rw [none_]; exact .nil
    · rw [one]; exact List.pairwise_singleton ..
  · exact cleared_not_listed published (same ▸ hv) hu

/-- What is sent are lists of files with an entry, and of a file that the message names. -/
theorem references_sent {b : Board} {m : Message} {p : Publication}
    (published : (b.receive m).2 = some p) (sound : ∀ uri, ((b.receive m).1.standing uri).Sound)
    (valid : ∀ uri, ((b.receive m).1.standing uri).slots ≠ none → Uri.isReference uri = true)
    (named : ∀ uri ∈ m.uris, Uri.isReference uri = true) :
    ∀ f ∈ sent p, Uri.isReference f.uri = true := by
  obtain ⟨files, kinds⟩ := publication_eq published
  intro f hf
  rcases List.mem_append.mp hf with hf | hf
  · rw [files] at hf
    exact valid f.uri ((mem_uris_merged_iff (sound f.uri)).mp (List.mem_map_of_mem hf))
  · obtain ⟨uri, cleared, rfl⟩ := List.mem_map.mp hf
    obtain ⟨_, _, none_⟩ | ⟨gone, s, rfl, one⟩ := kinds
    · rw [none_] at cleared; cases cleared
    · rw [one] at cleared
      exact named uri cleared

/-- A file that leaves the table is cleared; of any other file without an entry nothing was shown. -/
theorem display_eq_nil_of_not_sent {b : Board} {m : Message} {p : Publication}
    (published : (b.receive m).2 = some p) {uri : String}
    (gone : ((b.receive m).1.standing uri).slots = none) (kept : uri ∉ p.cleared) :
    b.display uri = [] := by
  refine display_eq_nil ?_
  obtain ⟨-, ⟨r, rfl, -⟩ | ⟨v, s, rfl, one⟩⟩ := publication_eq published
  · exact slots_receive_report gone
  · have apart : uri ≠ v := fun same => kept (one ▸ same ▸ List.mem_singleton_self _)
    rw [standing_receive, Standing.receive, if_neg apart] at gone
    exact gone

/-- **One message.** An editor that shows what the board has is sent the publication of the next
message, if there is one, without a fault, and shows what the board has then. -/
theorem mirrors_receive {e : Editor} {b : Board} (mirrors : Mirrors e b) (m : Message)
    (sound : ∀ uri, (b.standing uri).Sound)
    (valid : ∀ uri, ((b.receive m).1.standing uri).slots ≠ none → Uri.isReference uri = true)
    (named : ∀ uri ∈ m.uris, Uri.isReference uri = true) :
    ∃ e', e.publishAll (b.receive m).2.toList = .ok e' ∧ Mirrors e' (b.receive m).1 := by
  have sound' : ∀ uri, ((b.receive m).1.standing uri).Sound := fun uri =>
    standing_receive b m uri ▸ (sound uri).receive uri m
  cases published : (b.receive m).2 with
  | none =>
    refine ⟨e, rfl, fun uri => (mirrors uri).trans ?_⟩
    rw [display, display, mergedFor?, mergedFor?, files_eq_of_unpublished sound published]
  | some p =>
    have files : p.files = (b.receive m).1.merged := (publication_eq published).1
    obtain ⟨e', done, shown, others⟩ := Wire.notify_files
      (references_sent published sound' valid named) (nodup_uris_sent published) e
    refine ⟨e', ?_, fun uri => ?_⟩
    · rw [Option.toList_some, Editor.publishAll, List.foldlM_cons]
      exact (bind_pure _).trans done
    · cases held : ((b.receive m).1.mergedFor? uri) with
      | some ds =>
        have mem : (⟨uri, ds⟩ : FileDiagnostics) ∈ p.files :=
          files ▸ (mem_merged_iff_mergedFor? (sound' uri)).mpr held
        rw [display, held, shown _ (List.mem_append_left _ mem)]
        rfl
      | none =>
        have gone : ((b.receive m).1.standing uri).slots = none := Option.map_eq_none_iff.mp held
        rw [display_eq_nil gone]
        by_cases cleared : uri ∈ p.cleared
        · exact shown ⟨uri, []⟩ (List.mem_append_right _ (List.mem_map_of_mem cleared))
        · have out : uri ∉ (sent p).map FileDiagnostics.uri := by
            rw [uris_sent, List.mem_append, not_or, files, mem_uris_merged_iff (sound' uri)]
            exact ⟨fun h => h gone, cleared⟩
          rw [others uri out, mirrors uri]
          exact display_eq_nil_of_not_sent published gone cleared

/-- An editor that was sent all publications shows what the board has. -/
theorem mirrors_after {ms : List Message}
    (valid : ∀ m ∈ ms, ∀ uri ∈ m.uris, Uri.isReference uri = true) :
    ∃ e, Editor.blank.publishAll (empty.receiveAll ms).2 = .ok e ∧ Mirrors e (after ms) := by
  induction ms using List.reverseRecOn with
  | nil => exact ⟨Editor.blank, rfl, fun _ => rfl⟩
  | append_singleton ms m ih =>
    obtain ⟨e, sent, mirrors⟩ := ih fun n hn => valid n (List.mem_append_left _ hn)
    have references : ∀ uri, ((after (ms ++ [m])).standing uri).slots ≠ none →
        Uri.isReference uri = true := fun uri held => by
      obtain ⟨n, hn, named⟩ := named_of_after held
      exact valid n hn uri named
    rw [after_concat] at references ⊢
    obtain ⟨e', sent', mirrors'⟩ := mirrors_receive mirrors m (sound_after ms) references
      (valid m (List.mem_append_right _ List.mem_cons_self))
    refine ⟨e', ?_, mirrors'⟩
    rw [receiveAll_append, Editor.publishAll, List.foldlM_append, ← Editor.publishAll, sent]
    change e.publishAll (((after ms).receive m).2.toList ++ []) = .ok e'
    rw [List.append_nil, sent']

theorem cleared_not_listed_of_mem (ms : List Message) {p : Publication}
    (sent : p ∈ (empty.receiveAll ms).2) {uri : String} (cleared : uri ∈ p.cleared) :
    uri ∉ p.files.map FileDiagnostics.uri := by
  induction ms using List.reverseRecOn with
  | nil => cases sent
  | append_singleton ms m ih =>
    rw [receiveAll_append] at sent
    rcases List.mem_append.mp sent with before | last
    · exact ih before
    · change p ∈ ((after ms).receive m).2.toList ++ [] at last
      rw [List.append_nil, Option.mem_toList] at last
      exact cleared_not_listed last cleared

/-- **Editors mirror the board.** Messages of which each names uris only are published without a
fault. An editor that is sent all of it, in order, shows for every uri the merged list that the
board has after them. A message without a publication has not changed the table, and no publication
both lists and clears a file. -/
theorem editor_mirrors_board (ms : List Message)
    (valid : ∀ m ∈ ms, ∀ uri ∈ m.uris, Uri.isReference uri = true) :
    (∃ e, Editor.blank.publishAll (empty.receiveAll ms).2 = .ok e ∧
      ∀ uri, e uri = (((after ms).mergedFor? uri).getD []).map Wire.diagnostic) ∧
    (∀ m, ((after ms).receive m).2 = none → (after (ms ++ [m])).merged = (after ms).merged) ∧
    ∀ p ∈ (empty.receiveAll ms).2, ∀ uri ∈ p.cleared, uri ∉ p.files.map FileDiagnostics.uri := by
  refine ⟨mirrors_after valid, fun m quiet => ?_, fun p sent uri cleared =>
    cleared_not_listed_of_mem ms sent cleared⟩
  rw [after_concat, merged, merged, files_eq_of_unpublished (sound_after ms) quiet]

/-- A file is removed while the compiler is at it. -/
def removedMeanwhile : List Message :=
  [.report ⟨.live, 4, .ofList [("file:///A.elm", [])]⟩, .forget "file:///A.elm" 5, .snapshot,
    .report ⟨.compiler, 3, .ofList [("file:///A.elm",
      [⟨.compiler, ⟨⟨0, 0⟩, ⟨0, 1⟩⟩, .error, "late"⟩])]⟩]

/-- The editor is told that the file has nothing, and is not told of the late list. -/
theorem editor_shows_no_removed_file :
    (∀ m ∈ removedMeanwhile, ∀ uri ∈ m.uris, Uri.isReference uri = true) ∧
      ∃ e, Editor.blank.publishAll (empty.receiveAll removedMeanwhile).2 = .ok e ∧
        e "file:///A.elm" = [] := by
  have valid : ∀ m ∈ removedMeanwhile, ∀ uri ∈ m.uris, Uri.isReference uri = true := by
    decide +kernel
  obtain ⟨⟨e, sent, mirrors⟩, -⟩ := editor_mirrors_board removedMeanwhile valid
  have gone : (after removedMeanwhile).mergedFor? "file:///A.elm" = none := by decide +kernel
  exact ⟨valid, e, sent, by rw [mirrors, gone]; rfl⟩

end Board

end ElmAssist
