import ElmAssist.Proofs.Board.Live
import ElmAssist.Proofs.Name.Locality
import ElmAssist.Proofs.Workspace.Course
import ElmAssist.Tree.Heading

/-!
# Workspace — How current the live lists are

Another file can change what the check says of a file. An event has checked the file that it is
about and those that import its module by name, so most of these changes are seen at once. Some are
not: of a file that declares the same module, of a module that is imported by implication, of files
that are read from disk, and of the module that a file declares.

* `Shifts`: a change of the forest that is not looked for.
* `shifts_of_one`, `shifts_of_added`: if the check says something else of a file that was not checked,
  the forest has shifted for its module.
* `act_inLine`: what one act makes stale and mends.
* `shown_check_current`: a live list on the board is what the check says of the file now, unless the
  file was overlooked.
* `rival_overlooked`: a file is overlooked when another one comes to declare its module.
-/

namespace ElmAssist

/-! ### What the check depends on -/

namespace Forest

/-- A change of the forest by which the check may say something else of a file of the module, and
which the checks of events do not look for. -/
inductive Shifts (s t : Forest) (m : Module) : Prop where
  /-- Another file begins or ceases to declare the same module. -/
  | rival {uri : String} (declared : m.declaration ≠ none)
      (changed : ¬ (s.Declares uri m.name ↔ t.Declares uri m.name))
  /-- A file changes whose module is imported by implication only. -/
  | implied {i : Import} (mem : i ∈ m.imports) (unwritten : m.importsModule i.module = false)
      (changed : ¬ s.SameFilesOf t i.module)
  /-- A file that declared an imported module now declares another one. -/
  | renamed {module uri : String} {g : SourceFile} (imported : m.importsModule module = true)
      (before : s.Declares uri module) (now : t.get? uri = some g) (other : g.module.name ≠ module)
  /-- A file that was not there declares an imported module. -/
  | added {module uri : String} (imported : m.importsModule module = true)
      (before : s.get? uri = none) (now : t.Declares uri module)

variable {parse : Parser} {s t : Forest} {access : Access} {uri : String} {f : SourceFile}

/-- A file of which the check says something else has a rival, or sees another file change. -/
theorem exists_changed (hs : Sound parse s) (ht : Sound parse t) (before : s.get? uri = some f)
    (now : t.get? uri = some f) (differs : s.check access uri ≠ t.check access uri) :
    s.Shifts t f.module ∨ ∃ u g, f.module.importsModule g.module.name = true ∧
      ¬ (s.get? u = some g ↔ t.get? u = some g) := by
  by_contra nothing
  obtain ⟨still, same⟩ := not_or.mp nothing
  refine differs (ImportsAlike.check_eq ⟨fun i mem => ?_⟩ access before now ?_)
  · -- An import that is written and sees no file change looks the same.
    refine moduleFile_congr hs ht ?_
    by_contra changed
    cases written : f.module.importsModule i.module with
    | false => exact still (.implied mem written changed)
    | true =>
      refine changed fun u g named => ?_
      by_contra apart
      exact same ⟨u, g, named ▸ written, apart⟩
  · unfold duplications
    cases declared : f.module.declaration with
    | none => rfl
    | some d =>
      have listed : s.modules.urisOf f.module.name = t.modules.urisOf f.module.name :=
        urisOf_congr hs ht fun u => by
          by_contra changed
          exact still (.rival (declared ▸ nofun) changed)
      dsimp only
      rw [ModuleIndex.isDuplicate, ModuleIndex.isDuplicate, listed]

/-- One file changes. If the check says something else of another one, that imports neither what
the changed file declares nor, if it is gone, what it declared. -/
theorem shifts_of_one (hs : Sound parse s) (ht : Sound parse t) {changed : String}
    (elsewhere : ∀ u, u ≠ changed → s.get? u = t.get? u) (apart : uri ≠ changed)
    (before : s.get? uri = some f) (differs : s.check access uri ≠ t.check access uri)
    (unread : ∀ g, t.get? changed = some g → f.module.importsModule g.module.name = false)
    (unreadGone : ∀ g, s.get? changed = some g → t.get? changed = none →
      f.module.importsModule g.module.name = false) : s.Shifts t f.module := by
  rcases exists_changed hs ht before ((elsewhere uri apart).symm.trans before) differs with
    shifts | ⟨u, g, imported, moved⟩
  · exact shifts
  · obtain rfl : u = changed := by
      by_contra other
      exact moved (by rw [elsewhere u other])
    -- The module was there to import before the change only.
    have kept : t.get? u ≠ some g := fun there => by
      rw [unread g there] at imported
      cases imported
    have had : s.get? u = some g := by
      by_contra missing
      exact moved (iff_of_false missing kept)
    cases now : t.get? u with
    | none =>
      rw [unreadGone g had now] at imported
      cases imported
    | some g' =>
      refine .renamed imported ⟨g, had, rfl⟩ now fun again => ?_
      rw [← again, unread g' now] at imported
      cases imported

/-- Files are added. -/
theorem shifts_of_added (hs : Sound parse s) (ht : Sound parse t)
    (stays : ∀ u g, s.get? u = some g → t.get? u = some g) (before : s.get? uri = some f)
    (differs : s.check access uri ≠ t.check access uri) : s.Shifts t f.module := by
  rcases exists_changed hs ht before (stays uri f before) differs with
    shifts | ⟨u, g, imported, moved⟩
  · exact shifts
  · have now : t.get? u = some g := by
      by_contra missing
      exact moved (iff_of_false (fun had => missing (stays u g had)) missing)
    refine .added imported (Option.eq_none_iff_forall_ne_some.mpr fun g' had => ?_) ⟨g, now, rfl⟩
    cases (stays u g' had).symm.trans now
    exact moved (iff_of_true had now)

end Forest

namespace Workspace

variable {parse : Parser} {w v : Workspace} {b : Board} {stale : String → Prop} {uri : String}

/-! ### Turns -/

/-- None of the messages has a live list for the file. -/
def LeavesOut (ms : List Message) (uri : String) : Prop :=
  ∀ m ∈ ms, m.slot? uri .live = none

instance (ms : List Message) (uri : String) : Decidable (LeavesOut ms uri) :=
  inferInstanceAs (Decidable (∀ m ∈ ms, m.slot? uri .live = none))

theorem leavesOut_nil (uri : String) : LeavesOut [] uri :=
  List.forall_mem_nil _

theorem leavesOut_append {ms ns : List Message} :
    LeavesOut (ms ++ ns) uri ↔ LeavesOut ms uri ∧ LeavesOut ns uri :=
  List.forall_mem_append

/-- The live lists on a board are in line with a workspace, but for the stale files. -/
def InLine (w : Workspace) (b : Board) (stale : String → Prop) : Prop :=
  b.InLine w.forest w.settings.access w.sequence stale

/-- A check of a file lists it, and those that import its module. -/
theorem recheck_lists {f : SourceFile} (held : w.forest.get? uri = some f) {u : String}
    (affected : u ∈ w.forest.affectedBy f) : ¬ LeavesOut (w.recheck uri).messages u := by
  intro unlisted
  rw [recheck_messages held] at unlisted
  have listed := (Forest.slot?_checkAll w.forest w.settings.access (w.sequence + 1) _ u .live).trans
    (if_pos ⟨rfl, affected⟩)
  cases (unlisted _ List.mem_cons_self).symm.trans listed

/-- A check of files lists each of them. -/
theorem recheckAll_lists {f : SourceFile} {uris : List String} (mem : uri ∈ uris)
    (held : w.forest.get? uri = some f) (sound : w.forest.Sound parse) :
    ¬ LeavesOut (w.recheckAll uris).messages uri := by
  induction uris generalizing w with
  | nil => cases mem
  | cons first uris ih =>
    rw [recheckAll_messages_cons, leavesOut_append]
    rintro ⟨now, later⟩
    rcases List.mem_cons.mp mem with rfl | mem
    · refine recheck_lists held ?_ now
      exact List.mem_cons.mpr (Or.inl (sound.uri_eq held).symm)
    · exact ih (w := (w.recheck first).workspace) mem held sound later

/-- A check of a file mends the lists that it sends. -/
theorem InLine.recheck (h : w.InLine b stale) (sound : w.forest.Sound parse) (uri : String) :
    (w.recheck uri).workspace.InLine (b.receiveAll (w.recheck uri).messages).1
      fun u => stale u ∧ LeavesOut (w.recheck uri).messages u := by
  cases held : w.forest.get? uri with
  | none =>
    rw [recheck_of_missing held]
    exact (Board.InLine.advance h).mono fun u _ _ old => ⟨old, leavesOut_nil u⟩
  | some f =>
    rw [recheck_messages held]
    refine (Board.InLine.check h fun u => Forest.held_of_mem_affectedBy sound held).mono ?_
    rintro u - - ⟨old, unlisted⟩
    refine ⟨old, fun m mem => ?_⟩
    rw [List.mem_singleton.mp mem]
    exact (Forest.slot?_checkAll ..).trans (if_neg fun listed => unlisted listed.2)

theorem InLine.recheckAll : ∀ (uris : List String) {w : Workspace} {b : Board}
    {stale : String → Prop}, w.InLine b stale → w.forest.Sound parse →
      (w.recheckAll uris).workspace.InLine (b.receiveAll (w.recheckAll uris).messages).1
        fun u => stale u ∧ LeavesOut (w.recheckAll uris).messages u
  | [], w, b, stale, h, _ => h.mono fun u _ _ old => ⟨old, leavesOut_nil u⟩
  | uri :: uris, w, b, stale, h, sound => by
    rw [recheckAll_messages_cons, Board.receiveAll_append]
    refine (InLine.recheckAll uris (h.recheck sound uri) sound).mono fun u _ _ old => ?_
    exact ⟨old.1.1, leavesOut_append.mpr ⟨old.1.2, old.2⟩⟩

/-! ### Events -/

/-- The stale files after a change of the forest and messages: those that were stale and those for
which the forest shifted, but for those that the messages list. -/
def Outdated (stale : String → Prop) (s t : Forest) (ms : List Message) (uri : String) : Prop :=
  (stale uri ∨ ∃ f, s.get? uri = some f ∧ s.Shifts t f.module) ∧ LeavesOut ms uri

theorem Stores.elsewhere {s t : Forest} (stored : Stores parse uri s t) {u : String}
    (apart : u ≠ uri) : s.get? u = t.get? u := by
  rcases stored with rfl | ⟨text, version, rfl⟩
  · rfl
  · exact ((Forest.get?_put ..).trans (if_neg apart)).symm

theorem Stores.stays {s t : Forest} (stored : Stores parse uri s t) {u : String} {f : SourceFile}
    (held : s.get? u = some f) : ∃ g, t.get? u = some g := by
  by_cases same : u = uri
  · rcases stored with rfl | ⟨text, version, rfl⟩
    · exact ⟨f, held⟩
    · exact ⟨_, (Forest.get?_put ..).trans (if_pos same)⟩
  · exact ⟨f, (stored.elsewhere same).symm.trans held⟩

/-- A file is stored and checked. -/
theorem InLine.store (h : w.InLine b stale) (sound : w.forest.Sound parse) {changed : String}
    (stored : Stores parse changed w.forest v.forest)
    (before : { w with forest := v.forest }.SameButTools v) :
    v.advance.InLine (b.receiveAll (v.recheck changed).messages).1
      (Outdated stale w.forest v.forest (v.recheck changed).messages) := by
  have sound' : v.forest.Sound parse := stored.sound sound
  have unsettled : v.InLine b (w.forest.Unsettled v.forest w.settings.access stale) := by
    unfold Workspace.InLine
    rw [before.settings, before.sequence]
    refine Board.InLine.change h fun u slot shown => ?_
    obtain ⟨f, held⟩ := h.held u slot shown
    exact stored.stays held
  refine (unsettled.recheck sound' changed).mono fun u f held now => ?_
  replace held : v.forest.get? u = some f := held
  obtain ⟨old | ⟨_, -, differs⟩, unlisted⟩ := now
  · exact ⟨Or.inl old, unlisted⟩
  · -- The check lists the file itself and those that import its module, so this one is neither.
    have apart : u ≠ changed := by
      rintro rfl
      exact recheck_lists held (List.mem_cons.mpr (Or.inl (sound'.uri_eq held).symm)) unlisted
    have had : w.forest.get? u = some f := (stored.elsewhere apart).trans held
    refine ⟨Or.inr ⟨f, had, Forest.shifts_of_one sound sound' (fun _ => stored.elsewhere) apart had
      differs (fun g there => ?_) fun g was gone => ?_⟩, unlisted⟩
    · refine Bool.eq_false_iff.mpr fun imports => recheck_lists there ?_ unlisted
      exact List.mem_cons_of_mem _ ((Forest.mem_importers_iff sound').mpr ⟨f, held, imports⟩)
    · obtain ⟨g', there⟩ := stored.stays was
      cases gone.symm.trans there

/-- A file is taken out of the forest, and the board is told that it is gone. -/
theorem InLine.takeOut (h : w.InLine b stale) {gone : String}
    (before : { w with forest := w.forest.remove gone }.SameButTools v) :
    v.advance.InLine (b.receive (.forget gone v.advance.sequence)).1
      (w.forest.Unsettled v.forest w.settings.access stale) := by
  have forest : v.advance.forest = w.forest.remove gone := before.forest
  have sequence : v.advance.sequence = w.sequence + 1 := congrArg (· + 1) before.sequence
  have settings : v.advance.settings = w.settings := before.settings
  obtain ⟨forgotten, vacant⟩ := Board.InLine.forget h gone
  unfold Workspace.InLine
  rw [sequence, settings]
  refine forgotten.change fun u slot shown => ?_
  obtain ⟨f, held⟩ := forgotten.held u slot shown
  have apart : u ≠ gone := by
    rintro rfl
    cases vacant.symm.trans shown
  rw [forest, Forest.get?_remove, if_neg apart]
  exact ⟨f, held⟩

/-- A file is taken out, and those that import its module are checked. -/
theorem InLine.remove (h : w.InLine b stale) (sound : w.forest.Sound parse) {gone : String}
    {f : SourceFile} (held : w.forest.get? gone = some f)
    (before : { w with forest := w.forest.remove gone }.SameButTools v) :
    let t := ((Turn.start v.advance).send (.forget gone v.advance.sequence)).andThen
      (Workspace.recheckAll · (v.forest.importers f.module.name))
    t.workspace.InLine (b.receiveAll t.messages).1
      (Outdated stale w.forest t.workspace.forest t.messages) := by
  intro t
  have remains (u : String) : v.forest.get? u = if u = gone then none else w.forest.get? u := by
    rw [before.forest]
    exact Forest.get?_remove ..
  have sound' : v.forest.Sound parse := before.forest ▸ sound.remove gone
  have forest : t.workspace.forest = v.forest := recheckAll_forest ..
  rw [forest]
  refine ((h.takeOut before).recheckAll (v.forest.importers f.module.name) sound').mono
    fun u g there now => ?_
  obtain ⟨old, unlisted⟩ := now
  refine ⟨old.imp_right ?_, leavesOut_append.mpr ⟨fun m mem => List.mem_singleton.mp mem ▸ rfl,
    unlisted⟩⟩
  rintro ⟨_, -, differs⟩
  replace there : v.forest.get? u = some g := forest ▸ there
  have apart : u ≠ gone := by
    rintro rfl
    cases ((remains u).trans (if_pos rfl)).symm.trans there
  have had : w.forest.get? u = some g := ((remains u).trans (if_neg apart)).symm.trans there
  -- Nothing is there to import any more, and those that import what was there are listed.
  refine ⟨g, had, Forest.shifts_of_one sound sound'
    (fun u apart => ((remains u).trans (if_neg apart)).symm) apart had differs (fun g' back => ?_)
    fun f' was _ => ?_⟩
  · cases ((remains gone).trans (if_pos rfl)).symm.trans back
  · cases held.symm.trans was
    refine Bool.eq_false_iff.mpr fun imports => ?_
    exact recheckAll_lists (w := v.advance)
      ((Forest.mem_importers_iff sound').mpr ⟨g, there, imports⟩) there sound' unlisted

theorem Handled.inLine {t : Turn} (handled : Handled parse w t) (sound : w.forest.Sound parse)
    (h : w.InLine b stale) : t.workspace.InLine (b.receiveAll t.messages).1
      (Outdated stale w.forest t.workspace.forest t.messages) := by
  cases handled with
  | silent rest messages =>
    unfold Workspace.InLine
    rw [rest.forest, rest.settings, rest.sequence, messages]
    exact Board.InLine.mono h fun u _ _ old => ⟨Or.inl old, leavesOut_nil u⟩
  | checked stored before rest messages =>
    unfold Workspace.InLine
    rw [rest.forest, rest.settings, rest.sequence, messages]
    exact h.store sound stored before
  | removed held before turn =>
    rw [turn]
    exact h.remove sound held before

/-! ### Acts -/

/-- The messages sent since an earlier point of a course. -/
def Course.since (c earlier : Course) : List Message :=
  c.sent.drop earlier.sent.length

theorem ToolRun.inLine {d : Workspace × List Message} (run : ToolRun w d) (h : w.InLine b stale) :
    d.1.InLine (b.receiveAll d.2).1 stale := by
  unfold Workspace.InLine
  rw [run.rest.forest, run.rest.settings, run.rest.sequence]
  exact Board.InLine.others run.messages h

theorem ToolRun.leavesOut {d : Workspace × List Message} (run : ToolRun w d) (uri : String) :
    LeavesOut d.2 uri := by
  intro m mem
  obtain ⟨r, rfl, tool⟩ := run.messages m mem
  exact if_neg tool

theorem InLine.diagnoseAll (h : w.InLine b stale) (runner : Tool.Runner Id) (machine : Machine) :
    let d := Id.run (w.diagnoseAll runner machine)
    d.1.InLine (b.receiveAll d.2).1 fun u => stale u ∧ LeavesOut d.2 u := by
  obtain ⟨d, done, run⟩ := diagnoseAll_eq runner machine w
  rw [done]
  have live : d.1.liveReport = w.forest.checkAll w.settings.access (w.sequence + 1) w.forest.uris := by
    unfold liveReport
    rw [run.rest.forest, run.rest.settings, run.rest.sequence]
    rfl
  have checked : w.advance.InLine (b.receive (.report d.1.liveReport)).1 _ :=
    live ▸ Board.InLine.check h fun u => Forest.mem_uris_iff.mp
  refine (run.inLine checked).mono fun u f _ now => ⟨now.1, fun m mem => ?_⟩
  rcases List.mem_cons.mp mem with rfl | mem
  · rw [live]
    exact (Forest.slot?_checkAll ..).trans (if_neg fun listed => now.2 listed.2)
  · exact run.leavesOut u m mem

/-- Sources that are read from disk are not checked. -/
theorem InLine.load (h : w.InLine b stale) (sound : w.forest.Sound parse) (machine : Machine) :
    (w.load parse machine).1.InLine b
      (Outdated stale w.forest (w.load parse machine).1.forest []) := by
  have stays (u : String) (g : SourceFile) (held : w.forest.get? u = some g) :
      (w.load parse machine).1.forest.get? u = some g :=
    Forest.get?_load (w.sourceTexts machine) held
  have sound' : (w.load parse machine).1.forest.Sound parse :=
    sound.edit (.load (w.sourceTexts machine))
  have unsettled := Board.InLine.change (t := (w.load parse machine).1.forest) h fun u slot shown => by
    obtain ⟨f, held⟩ := h.held u slot shown
    exact ⟨f, stays u f held⟩
  refine unsettled.mono fun u _ _ now => ⟨now.imp_right ?_, leavesOut_nil u⟩
  rintro ⟨f, had, differs⟩
  exact ⟨f, had, Forest.shifts_of_added sound sound' stays had differs⟩

/-- **One act.** The files that it makes stale are those for which the forest shifts, but for those
that its messages list. -/
theorem act_inLine (a : Act) {c : Course} (sound : c.workspace.forest.Sound parse)
    (h : c.workspace.InLine c.board stale) : ∃ ms, (c.act parse a).sent = c.sent ++ ms ∧
      (c.act parse a).workspace.InLine (c.board.receiveAll ms).1
        (Outdated stale c.workspace.forest (c.act parse a).workspace.forest ms) := by
  cases a with
  | load machine => exact ⟨[], (List.append_nil _).symm, h.load sound machine⟩
  | diagnoseAll machine runner =>
    exact ⟨_, rfl, (h.diagnoseAll runner machine).mono fun u _ _ now => ⟨Or.inl now.1, now.2⟩⟩
  | move m =>
    cases m with
    | event machine e =>
      exact ⟨_, rfl, (handle_handled parse machine c.workspace e).inLine sound h⟩
    | finish machine runner job =>
      rw [Course.act, Course.step]
      split
      · have run := ToolRun.perform runner machine c.workspace job
        exact ⟨_, rfl, (run.inLine h).mono fun u _ _ old => ⟨Or.inl old, run.leavesOut u⟩⟩
      · exact ⟨[], (List.append_nil _).symm, h.mono fun u _ _ old => ⟨Or.inl old, leavesOut_nil u⟩⟩

/-! ### Histories -/

/-- An act came by which the check may say something else of the file, and neither it nor a later
one had the file checked. -/
inductive Overlooked (parse : Parser) (w : Workspace) : List Act → String → Prop
  | now {a : Act} {earlier : List Act} {uri : String} {f : SourceFile}
      (held : (history parse w earlier).workspace.forest.get? uri = some f)
      (shifts : (history parse w earlier).workspace.forest.Shifts
        (history parse w (a :: earlier)).workspace.forest f.module)
      (unlisted : LeavesOut ((history parse w (a :: earlier)).since (history parse w earlier)) uri) :
      Overlooked parse w (a :: earlier) uri
  | still {a : Act} {earlier : List Act} {uri : String} (before : Overlooked parse w earlier uri)
      (unlisted : LeavesOut ((history parse w (a :: earlier)).since (history parse w earlier)) uri) :
      Overlooked parse w (a :: earlier) uri

/-- **Any acts.** The live lists on the board are in line, but for the files overlooked. -/
theorem history_inLine {machine : Machine} {root : Path} {settings : Settings}
    (opened : openWith machine root settings = .ok w) (acts : List Act) :
    (history parse w acts).workspace.InLine (history parse w acts).board
      (Overlooked parse w acts) := by
  induction acts with
  | nil => exact (Board.InLine.empty ..).mono fun _ _ _ => False.elim
  | cons a earlier ih =>
    obtain ⟨ms, sent, inLine⟩ := act_inLine a (sound_history opened earlier) ih
    have board : (history parse w (a :: earlier)).board =
        ((history parse w earlier).board.receiveAll ms).1 := by
      rw [Course.board, history, sent, Board.after, Board.receiveAll_append]
      rfl
    have since : (history parse w (a :: earlier)).since (history parse w earlier) = ms := by
      rw [Course.since, history, sent, List.drop_left]
    rw [board]
    refine inLine.mono fun u f _ out => ?_
    obtain ⟨old | ⟨f, held, shifts⟩, unlisted⟩ := out
    · exact .still old (since ▸ unlisted)
    · exact .now held shifts (since ▸ unlisted)

/-- **How current the live lists are.** Whatever is done with a workspace, a live list on its board
is what the check says of the file now, unless the file was overlooked. -/
theorem shown_check_current (parse : Parser) {machine : Machine} {root : Path} {settings : Settings}
    {w : Workspace} (opened : openWith machine root settings = .ok w) (acts : List Act)
    {uri : String} {slot : Slot}
    (shown : (history parse w acts).board.slot? uri .live = some slot)
    (seen : ¬ Overlooked parse w acts uri) :
    let now := (history parse w acts).workspace
    slot.diagnostics = now.forest.check now.settings.access uri :=
  ((history_inLine opened acts).checked uri slot shown).resolve_left seen

/-- Two files of one module are opened. -/
def rivals : List Act :=
  [.move (.event packageMachine (.opened "file:///p/src/N.elm" "module M" 1)),
    .move (.event packageMachine (.opened "file:///p/src/M.elm" "module M" 1))]

/-- The first of them is saved, which has it checked. -/
def savedRival : List Act :=
  .move (.event packageMachine (.saved "file:///p/src/M.elm" none)) :: rivals

/-- Once it is saved, the list of the first file is what the check says: it has a rival. -/
theorem saved_rival_current :
    ∃ w slot, openWith packageMachine (.ofString "/p") .usual = .ok w ∧
      let c := history Heading.rows w savedRival
      c.board.slot? "file:///p/src/M.elm" .live = some slot ∧ slot.diagnostics ≠ [] ∧
        slot.diagnostics = c.workspace.forest.check c.workspace.settings.access
          "file:///p/src/M.elm" := by
  obtain ⟨w, opened, mem⟩ := exists_package
  have listed : ∀ w ∈ package?, ∃ slot ∈ (history Heading.rows w savedRival).board.slot?
      "file:///p/src/M.elm" .live, slot.diagnostics ≠ [] := by decide +kernel
  have checked : ∀ w ∈ package?, ¬ LeavesOut ((history Heading.rows w savedRival).since
      (history Heading.rows w rivals)) "file:///p/src/M.elm" := by decide +kernel
  obtain ⟨slot, shown, some_⟩ := listed w mem
  refine ⟨w, slot, opened, shown, some_, shown_check_current Heading.rows opened _ shown ?_⟩
  intro overlooked
  cases overlooked with
  | now _ _ unlisted => exact checked w mem unlisted
  | still _ unlisted => exact checked w mem unlisted

/-- **A file is overlooked when another one comes to declare its module.** The live list of the
first file stays empty when the second one is opened. -/
theorem rival_overlooked :
    ¬ ∀ (machine : Machine) (root : Path) (settings : Settings) (w : Workspace),
      openWith machine root settings = .ok w →
      ∀ (parse : Parser) (acts : List Act) (uri : String) (f : SourceFile) (slot : Slot),
      let c := history parse w acts
      c.workspace.forest.get? uri = some f → c.board.slot? uri .live = some slot →
      slot.diagnostics = c.workspace.forest.check c.workspace.settings.access uri := by
  intro current
  obtain ⟨w, opened, mem⟩ := exists_package
  have held : ∀ w ∈ package?, ((history Heading.rows w rivals).workspace.forest.get?
      "file:///p/src/M.elm").isSome = true := by decide +kernel
  have differs : ∀ w ∈ package?, ∃ slot ∈ (history Heading.rows w rivals).board.slot?
      "file:///p/src/M.elm" .live, slot.diagnostics ≠
        (history Heading.rows w rivals).workspace.forest.check
          (history Heading.rows w rivals).workspace.settings.access "file:///p/src/M.elm" := by
    decide +kernel
  obtain ⟨f, there⟩ := Option.isSome_iff_exists.mp (held w mem)
  obtain ⟨slot, shown, apart⟩ := differs w mem
  exact apart (current _ _ _ w opened Heading.rows rivals _ f slot there shown)

end Workspace

end ElmAssist
