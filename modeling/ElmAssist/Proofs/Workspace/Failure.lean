import ElmAssist.Proofs.Workspace.Copies

/-!
# Workspace — Events that fail

An event fails when the parser gives up the text that it brings, or when it closes a file that is
on disk and cannot be read or parsed. By then the linter has updated its copy of the file or let go
of it, as it does first with every event. The rest of the workspace is as it was, and nothing is
sent or started.

* `Fails`, `handle_fault_iff`: when an event fails.
* `handle_of_fails`: what it has done by then.
* `failed_event_leaves`: what an event leaves that fails.
* `failed_events_change_copies`: a file with an invalid byte, whose copy is gone though closing it
  fails, and texts that the linter has though the parser gives them up.
-/

namespace ElmAssist

/-! ### Forests -/

namespace Forest

variable {parse : Parser} {s : Forest} {o : Offer} {err : Fault}

/-- Storing a text fails when no newer one is held and the parser gives it up. -/
theorem set_eq_error_iff :
    (s.set parse o.uri o.text o.version).1 = .error err ↔
      s.newerThan? o = none ∧ s.unparsed? parse o = some err := by
  cases newer : s.newerThan? o with
  | some held => simp [set_of_newer newer]
  | none =>
    cases unparsed : s.unparsed? parse o with
    | some e => simp [set_of_unparsed newer unparsed]
    | none => simp [set_of_current newer unparsed]

/-- Reading a text again does nothing when the parser gives it up, -/
theorem reload_of_unparsed (unparsed : s.unparsed? parse o = some err) :
    s.reload parse o.uri o.text o.version = (.error err, s) := by
  simp [reload, parsed_offer_of_unparsed unparsed]

/-- and fails in no other case. -/
theorem reload_eq_error_iff :
    (s.reload parse o.uri o.text o.version).1 = .error err ↔ s.unparsed? parse o = some err := by
  cases unparsed : s.unparsed? parse o with
  | some e => simp [reload_of_unparsed unparsed]
  | none => simp [reload, parsed_offer unparsed]

end Forest

namespace Workspace

variable {parse : Parser} {machine : Machine} {w v : Workspace} {e : Event} {uri : String}
  {err : Fault}

/-! ### Faults -/

@[simp] theorem recheck_fault (w : Workspace) (uri : String) : (w.recheck uri).fault = none := rfl

@[simp] theorem triggerCompiler_fault (t : Turn) (uri : String) :
    (triggerCompiler t uri).fault = t.fault := by
  unfold triggerCompiler
  dsimp only
  split <;> rfl

@[simp] theorem triggerLinter_fault (t : Turn) (uri : String) :
    (triggerLinter t uri).fault = t.fault := by
  unfold triggerLinter
  split <;> rfl

@[simp] theorem trigger_fault (w : Workspace) (uri : String) : (w.trigger uri).fault = none := by
  simp [trigger]

@[simp] theorem recheckAll_fault : ∀ (uris : List String) (w : Workspace),
    (w.recheckAll uris).fault = none
  | [], _ => rfl
  | uri :: uris, w => recheckAll_fault uris (w.recheck uri).workspace

@[simp] theorem deleteFile_fault (w : Workspace) (uri : String) :
    (w.deleteFile uri).fault = none := by
  unfold deleteFile
  dsimp only
  split
  · rfl
  · exact recheckAll_fault _ _

/-- An event fails. -/
inductive Fails (parse : Parser) (machine : Machine) (w : Workspace) : Event → Fault → Prop
  /-- The parser gives up the text that the event has for its file, and no newer one is held. -/
  | unparsed {e : Event} {o : Forest.Offer} {err : Fault} (has : e.offer? w = some o)
      (current : w.forest.newerThan? o = none) (given : w.forest.unparsed? parse o = some err) :
      Fails parse machine w e err
  /-- The file that is closed is on disk and cannot be read. -/
  | unread {uri : String} {p : Path} {err : Fault} (there : onDisk? machine uri = some p)
      (unreadable : machine.readText p = .error err) : Fails parse machine w (.closed uri) err
  /-- The parser gives up the text that the file has on disk. -/
  | reread {uri text : String} {p : Path} {err : Fault} (there : onDisk? machine uri = some p)
      (read : machine.readText p = .ok text)
      (given : w.forest.unparsed? parse ⟨uri, text, 0⟩ = some err) :
      Fails parse machine w (.closed uri) err

/-- What the linter does first with its copies when an event comes in. -/
def Event.copying (w : Workspace) : Event → LinterChannel → LinterChannel
  | .opened uri text _, l | .saved uri (some text), l => l.update uri text
  | .changed uri changes _, l =>
    l.update uri (Change.applyAll ((l.text? uri).getD (w.textOf uri)) changes)
  | .closed uri, l | .deleted uri, l => l.forget uri
  | .saved _ none, l | .triggered _, l => l

/-- The workspace when the linter has done it. -/
def copying (w : Workspace) (e : Event) : Workspace :=
  w.withLinter (e.copying w)

theorem store_fails {o : Forest.Offer}
    (failed : (w.store parse o.uri o.text o.version).fault = some err) :
    w.forest.newerThan? o = none ∧ w.forest.unparsed? parse o = some err := by
  have came := store_stored parse w o.uri o.text o.version
  generalize w.store parse o.uri o.text o.version = t at came failed
  cases came with
  | failed given =>
    obtain rfl := Option.some.inj failed
    exact Forest.set_eq_error_iff.mp (congrArg Prod.fst given)
  | held => cases (trigger_fault ..).symm.trans failed

theorem closeFile_fails (failed : (w.closeFile parse machine uri).fault = some err) :
    w.Fails parse machine (.closed uri) err := by
  have came := closeFile_closed parse machine w uri
  generalize w.closeFile parse machine uri = t at came failed
  cases came with
  | deleted => cases (deleteFile_fault ..).symm.trans failed
  | unread there unreadable =>
    obtain rfl := Option.some.inj failed
    exact .unread there unreadable
  | failed there read given =>
    obtain rfl := Option.some.inj failed
    exact .reread there read
      ((Forest.reload_eq_error_iff (o := ⟨uri, _, 0⟩)).mp (congrArg Prod.fst given))
  | reloaded => cases (recheck_fault ..).symm.trans failed

/-- An event whose turn ends with a fault is one that fails, -/
theorem fails_of_fault (failed : (w.handle parse machine e).fault = some err) :
    w.Fails parse machine e err := by
  cases e with
  | opened uri text version =>
    obtain ⟨current, given⟩ := store_fails (o := ⟨uri, text, version⟩) failed
    exact .unparsed rfl current given
  | changed uri changes version =>
    obtain ⟨current, given⟩ := store_fails (o := ⟨uri, _, version⟩) failed
    exact .unparsed rfl current given
  | saved uri text =>
    cases text with
    | none => cases (trigger_fault ..).symm.trans failed
    | some text =>
      obtain ⟨current, given⟩ := store_fails (o := ⟨uri, text, _⟩) failed
      exact .unparsed rfl current given
  | closed uri => exact closeFile_fails failed
  | deleted uri => cases (deleteFile_fault ..).symm.trans failed
  | triggered uri => cases (trigger_fault ..).symm.trans failed

theorem store_of_unparsed {o : Forest.Offer} (current : w.forest.newerThan? o = none)
    (given : w.forest.unparsed? parse o = some err) :
    w.store parse o.uri o.text o.version = .failed w err := by
  unfold store
  rw [Forest.set_of_unparsed current given]

/-- and of an event that fails the linter alone has taken note. -/
theorem handle_of_fails (fails : w.Fails parse machine e err) :
    w.handle parse machine e = .failed (w.copying e) err := by
  cases fails with
  | unparsed has current given =>
    have stored := store_of_unparsed (w := w.copying e) current given
    rcases Event.cases_of_offer has with rfl | ⟨changes, rfl, text⟩ | ⟨rfl, version⟩
    · exact stored
    · rw [text] at stored
      exact stored
    · rw [version] at stored
      exact stored
  | unread there unreadable =>
    unfold onDisk? at there
    simp only [handle, closeFile, there, unreadable]
    rfl
  | @reread uri text p err there read given =>
    have given : (w.withLinter (·.forget uri)).forest.reload parse uri text 0 =
        (.error err, w.forest) := Forest.reload_of_unparsed given
    unfold onDisk? at there
    simp only [handle, closeFile, there, read, given]
    rfl

/-- **When an event fails.** -/
theorem handle_fault_iff :
    (w.handle parse machine e).fault = some err ↔ w.Fails parse machine e err := by
  constructor
  · exact fails_of_fault
  · intro fails
    rw [handle_of_fails fails, Turn.failed]

/-! ### What is left -/

/-- The linter flags a file. -/
def Flags (w : Workspace) (uri : String) : Prop :=
  ∃ l, w.linter = some l ∧ uri ∈ l.flagged

/-- The second workspace is the first one, but for the linter's copy of the file of an event. Whether
a file is flagged that the event lets go of is left open. -/
structure Spares (w : Workspace) (e : Event) (v : Workspace) : Prop where
  rest : v = { w with linter := v.linter }
  copied : ∀ u, v.copy? u = if u = e.uri then w.copyAfter? e else w.copy? u
  flags_iff : ∀ u, e.letsGo ≠ some u → (v.Flags u ↔ w.Flags u)

theorem flags_copying_iff {u : String} (keeps : e.letsGo ≠ some u) :
    (w.copying e).Flags u ↔ w.Flags u := by
  cases held : w.linter with
  | none => simp [Flags, copying, withLinter, held]
  | some l =>
    have same : u ∈ (e.copying w l).flagged ↔ u ∈ l.flagged := by
      cases e with
      | opened | changed | triggered => rfl
      | saved uri text => cases text <;> rfl
      | closed uri | deleted uri =>
        have other : u ≠ uri := fun same => keeps (congrArg some same.symm)
        simp [Event.copying, LinterChannel.forget, other]
    simpa [Flags, copying, withLinter, held] using same

/-- **An event that fails** brings a text that the parser gives up, or closes a file that is on disk
and cannot be read or parsed. It leaves the forest, the other channels, the board and the jobs as
they were. The linter's copy of the file has become what the event makes of it; those of the other
files stay, and so does what the linter flags, but for a file that is closed. -/
theorem failed_event_leaves (parse : Parser) (c : Course) (machine : Machine) (e : Event)
    (err : Fault) (failed : (c.workspace.handle parse machine e).fault = some err) :
    c.workspace.Fails parse machine e err ∧
      let after := c.step parse (.event machine e)
      c.workspace.Spares e after.workspace ∧ after.board = c.board ∧ after.waiting = c.waiting := by
  have fails := fails_of_fault failed
  have after : c.step parse (.event machine e) =
      { c with workspace := c.workspace.copying e } := by
    rw [Course.step, handle_of_fails fails]
    simp [Turn.failed]
  have copied (u : String) : (c.workspace.copying e).copy? u =
      if u = e.uri then c.workspace.copyAfter? e else c.workspace.copy? u := by
    rw [← copy?_handle parse machine, handle_of_fails fails, Turn.failed]
  refine ⟨fails, ?_⟩
  rw [after]
  exact ⟨⟨rfl, copied, fun _ => flags_copying_iff⟩, rfl, rfl⟩

/-! ### A file that is no text, and a text that is given up -/

/-- A machine with a linter and a package, a file of which has a byte that is no text. -/
def brokenMachine : Machine :=
  { linterMachine with
    disk := linterMachine.disk.put ["p".toUTF8.toList, "src".toUTF8.toList, "A.elm".toUTF8.toList]
      (.file [0xFF] false) }

/-- A parser that gives up one text. -/
def givingUp : Parser :=
  ⟨Heading.rows, fun _ text => text == "module B"⟩

/-- The file is opened. -/
def openedBroken : List Act :=
  [.move (.event brokenMachine (.opened "file:///p/src/A.elm" "module A" 1))]

/-- The package whose file is open. -/
def brokenPackage (w : Workspace) : Workspace :=
  (history givingUp w openedBroken).workspace

/-- The file is closed again, -/
def closeBroken : Event :=
  .closed "file:///p/src/A.elm"

/-- and here another one is opened, with the text that is given up. -/
def openGivenUp : Event :=
  .opened "file:///p/src/B.elm" "module B" 1

/-- The file is changed to the text that is given up. -/
def changeGivenUp : Event :=
  .changed "file:///p/src/A.elm" [⟨none, "module B"⟩] 2

/-- The file is saved with it. -/
def saveGivenUp : Event :=
  .saved "file:///p/src/A.elm" (some "module B")

/-- The fault of an event on the package whose file is open. -/
def faultOf (w : Workspace) (e : Event) : Option Fault :=
  ((brokenPackage w).handle givingUp brokenMachine e).fault

/-- Why the file cannot be closed. -/
def brokenText : Fault :=
  .storage "/p/src/A.elm" "stream did not contain valid UTF-8"

theorem close_broken_fails : ∀ w ∈ lintedPackage?, faultOf w closeBroken = some brokenText := by
  decide +kernel

theorem open_given_up_fails : ∀ w ∈ lintedPackage?,
    faultOf w openGivenUp = some (.unparsed "Full parse failed") := by
  decide +kernel

/-- A close that fails leaves all but the copy of the file, and so does an open. -/
theorem failed_close_and_open_leave :
    ∃ w, openWith linterMachine (.ofString "/p") .usual = .ok w ∧
      let before := history givingUp w openedBroken
      let closed := before.step givingUp (.event brokenMachine closeBroken)
      let opened := before.step givingUp (.event brokenMachine openGivenUp)
      before.workspace.copy? "file:///p/src/A.elm" = some "module A" ∧
        faultOf w closeBroken = some brokenText ∧
        before.workspace.Spares closeBroken closed.workspace ∧
        closed.workspace.copy? "file:///p/src/A.elm" = none ∧ closed.board = before.board ∧
        faultOf w openGivenUp = some (.unparsed "Full parse failed") ∧
        before.workspace.Spares openGivenUp opened.workspace ∧
        opened.workspace.copy? "file:///p/src/A.elm" = some "module A" ∧
        opened.board = before.board := by
  obtain ⟨w, start, mem, -⟩ := exists_lintedPackage
  have copied : ∀ w ∈ lintedPackage?, (brokenPackage w).copy? "file:///p/src/A.elm" =
      some "module A" := by decide +kernel
  have closeFails := close_broken_fails w mem
  have openFails := open_given_up_fails w mem
  obtain ⟨-, closes, closedBoard, -⟩ := failed_event_leaves givingUp
    (history givingUp w openedBroken) brokenMachine closeBroken brokenText closeFails
  obtain ⟨-, opens, openedBoard, -⟩ := failed_event_leaves givingUp
    (history givingUp w openedBroken) brokenMachine openGivenUp _ openFails
  refine ⟨w, start, copied w mem, closeFails, closes, ?_, closedBoard, openFails, opens, ?_,
    openedBoard⟩
  · exact (closes.copied _).trans (if_pos rfl)
  · exact (opens.copied _).trans ((if_neg (by decide)).trans (copied w mem))

/-- An event leaves all copies whenever it fails. -/
def LeavesCopies (e : Event) : Prop :=
  ∀ (machine : Machine) (root : Path) (settings : Settings) (w : Workspace),
    openWith machine root settings = .ok w →
    ∀ (parse : Parser) (acts : List Act) (machine : Machine) (err : Fault),
      let before := (history parse w acts).workspace
      let turn := before.handle parse machine e
      turn.fault = some err → ∀ uri, turn.workspace.copy? uri = before.copy? uri

theorem not_leavesCopies (e : Event) (uri : String)
    (fails : ∀ w ∈ lintedPackage?, (faultOf w e).isSome = true)
    (changed : ∀ w ∈ lintedPackage?, ((brokenPackage w).handle givingUp brokenMachine
      e).workspace.copy? uri ≠ (brokenPackage w).copy? uri) : ¬ LeavesCopies e := by
  intro leaves
  obtain ⟨w, start, mem, -⟩ := exists_lintedPackage
  obtain ⟨err, fault⟩ := Option.isSome_iff_exists.mp (fails w mem)
  exact changed w mem (leaves _ _ _ w start givingUp openedBroken brokenMachine err fault uri)

/-- **An event that fails changes a copy**, be it a close, an open, a change or a save. -/
theorem failed_events_change_copies :
    ¬ LeavesCopies closeBroken ∧ ¬ LeavesCopies openGivenUp ∧ ¬ LeavesCopies changeGivenUp ∧
      ¬ LeavesCopies saveGivenUp := by
  refine ⟨?_, ?_, ?_, ?_⟩
  · exact not_leavesCopies _ "file:///p/src/A.elm" (by decide +kernel) (by decide +kernel)
  · exact not_leavesCopies _ "file:///p/src/B.elm" (by decide +kernel) (by decide +kernel)
  · exact not_leavesCopies _ "file:///p/src/A.elm" (by decide +kernel) (by decide +kernel)
  · exact not_leavesCopies _ "file:///p/src/A.elm" (by decide +kernel) (by decide +kernel)

end Workspace

end ElmAssist
