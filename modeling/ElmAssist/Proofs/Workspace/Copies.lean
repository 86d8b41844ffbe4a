import ElmAssist.Proofs.Forest.Race
import ElmAssist.Proofs.Workspace.Course
import ElmAssist.Tree.Heading

/-!
# Workspace — The linter's copies of texts

The linter has a copy of its own of every text that the editor has open. An event changes the copy
of its file first, and then it has a text for the forest, which may refuse it. Nothing else that
is done with a workspace changes a copy.

* `copyAfter?`, `copy?_handle`: what an event makes of the linter's copies.
* `Event.offer?`, `Forest.Takes`, `forest_handle_of_offer`: the text that an event has for the
  forest, and what becomes of it.
* `get?_handle_of_ne`: an event leaves the entries of all files but its own.
* `copies_act`: an act other than an event leaves the copies.
-/

namespace ElmAssist

/-! ### Offers -/

namespace Forest

variable {parse : Parser} {s : Forest} {o : Offer}

/-- The forest stores what is offered: nothing newer is held, and the parser does not give it up. -/
def Takes (parse : Parser) (s : Forest) (o : Offer) : Prop :=
  s.newerThan? o = none ∧ s.unparsed? parse o = none

theorem set_of_takes (takes : s.Takes parse o) :
    (s.set parse o.uri o.text o.version).2 = s.put (o.file parse) := by
  rw [set_of_current takes.1 takes.2]

theorem set_of_refuses (refuses : ¬ s.Takes parse o) :
    (s.set parse o.uri o.text o.version).2 = s := by
  cases newer : s.newerThan? o with
  | some held => rw [set_of_newer newer]
  | none =>
    cases unparsed : s.unparsed? parse o with
    | some e => rw [set_of_unparsed newer unparsed]
    | none => exact absurd ⟨newer, unparsed⟩ refuses

end Forest

namespace Workspace

/-- The file that an event is about. -/
def Event.uri : Event → String
  | .opened uri .. | .changed uri .. | .saved uri _ => uri
  | .closed uri | .deleted uri | .triggered uri => uri

/-- The text that an event has for a file, and the version it has it at. A change is made to the
text that the forest holds; a text that is saved has the version that the forest holds. -/
def Event.offer? (w : Workspace) : Event → Option Forest.Offer
  | .opened uri text version => some ⟨uri, text, version⟩
  | .changed uri changes version => some ⟨uri, Change.applyAll (w.textOf uri) changes, version⟩
  | .saved uri (some text) => some ⟨uri, text, w.versionOf uri⟩
  | .saved _ none | .closed _ | .deleted _ | .triggered _ => none

variable {parse : Parser} {machine : Machine} {w v : Workspace} {uri : String} {l : LinterChannel}
  {e : Event} {o : Forest.Offer}

/-- The events that have a text. -/
theorem Event.cases_of_offer (has : e.offer? w = some o) :
    e = .opened o.uri o.text o.version ∨
      (∃ changes, e = .changed o.uri changes o.version ∧
        o.text = Change.applyAll (w.textOf o.uri) changes) ∨
      e = .saved o.uri (some o.text) ∧ o.version = w.versionOf o.uri := by
  cases e with
  | opened uri text version =>
    obtain rfl := Option.some.inj has
    exact Or.inl rfl
  | changed uri changes version =>
    obtain rfl := Option.some.inj has
    exact Or.inr (Or.inl ⟨changes, rfl, rfl⟩)
  | saved uri text =>
    cases text with
    | none => cases has
    | some text =>
      obtain rfl := Option.some.inj has
      exact Or.inr (Or.inr ⟨rfl, rfl⟩)
  | closed | deleted | triggered => cases has

theorem Event.uri_of_offer (has : e.offer? w = some o) : o.uri = e.uri := by
  rcases Event.cases_of_offer has with rfl | ⟨changes, rfl, -⟩ | ⟨rfl, -⟩ <;> rfl

/-! ### Copies -/

/-- The texts that the linter has copies of, if there is a linter. -/
def copies (w : Workspace) : Option (Catalog String String) :=
  w.linter.map LinterChannel.texts

/-- The linter's copy of a text. -/
def copy? (w : Workspace) (uri : String) : Option String :=
  w.copies.bind (·.get? uri)

/-- The linter's copy of the file of an event, after it. A change is made to the copy, if there is
one. -/
def copyAfter? (w : Workspace) : Event → Option String
  | .opened _ text _ | .saved _ (some text) => w.linter.map fun _ => text
  | .changed uri changes _ =>
    w.linter.map fun l => Change.applyAll ((l.text? uri).getD (w.textOf uri)) changes
  | .saved uri none | .triggered uri => w.copy? uri
  | .closed _ | .deleted _ => none

theorem copy?_of_linter (held : w.linter = some l) (uri : String) :
    w.copy? uri = l.text? uri := by
  simp [copy?, copies, held, LinterChannel.text?]

theorem copy?_congr (same : v.linter = w.linter) (uri : String) : v.copy? uri = w.copy? uri := by
  simp [copy?, copies, same]

theorem copy?_withLinter_update (w : Workspace) (text : LinterChannel → String) (uri u : String) :
    (w.withLinter fun l => l.update uri (text l)).copy? u =
      if u = uri then w.linter.map text else w.copy? u := by
  cases held : w.linter with
  | none => simp [copy?, copies, withLinter, held]
  | some l =>
    have after : (w.withLinter fun l => l.update uri (text l)).linter =
        some (l.update uri (text l)) := by
      simp [withLinter, held]
    rw [copy?_of_linter after, copy?_of_linter held]
    exact Catalog.get?_insert ..

theorem copy?_withLinter_forget (w : Workspace) (uri u : String) :
    (w.withLinter (·.forget uri)).copy? u = if u = uri then none else w.copy? u := by
  cases held : w.linter with
  | none => simp [copy?, copies, withLinter, held]
  | some l =>
    have after : (w.withLinter (·.forget uri)).linter = some (l.forget uri) := by
      simp [withLinter, held]
    rw [copy?_of_linter after, copy?_of_linter held]
    exact Catalog.get?_erase ..

/-! ### Tools -/

theorem copies_compileNow (runner : Tool.Runner Id) (w : Workspace) (sequence : Nat)
    (files : List Path) : (Id.run (w.compileNow runner sequence files)).1.copies = w.copies := by
  unfold compileNow
  split <;> rfl

/-- A run of the linter leaves its texts. -/
theorem run_texts (runner : Tool.Runner Id) (machine : Machine) (l : LinterChannel)
    (sequence : Nat) (target : Option String) :
    (Id.run (l.run runner machine sequence target)).1.texts = l.texts := by
  have finish (found : Findings) : (l.finish sequence target found).1.texts = l.texts := by
    unfold LinterChannel.finish
    split <;> rfl
  exact finish _

theorem copies_lintNow (runner : Tool.Runner Id) (machine : Machine) (w : Workspace)
    (sequence : Nat) (target : Option String) :
    (Id.run (w.lintNow runner machine sequence target)).1.copies = w.copies := by
  unfold lintNow
  split
  · rfl
  · rename_i l held
    simpa [copies, held] using run_texts runner machine l sequence target

theorem copies_perform (runner : Tool.Runner Id) (machine : Machine) (w : Workspace) (job : Job) :
    (Id.run (w.perform runner machine job)).1.copies = w.copies := by
  cases job with
  | lint sequence uri => exact copies_lintNow runner machine w sequence (some uri)
  | compile sequence =>
    unfold perform
    dsimp only
    split
    · rfl
    · rfl
    · exact copies_compileNow runner _ sequence _

theorem copies_inTurn {α : Type} {act : Workspace → α → Id (Workspace × List Message)}
    (each : ∀ w a, (Id.run (act w a)).1.copies = w.copies) :
    ∀ (as : List α) (w : Workspace), (Id.run (inTurn act w as)).1.copies = w.copies
  | [], _ => rfl
  | a :: as, w => (copies_inTurn each as (Id.run (act w a)).1).trans (each w a)

theorem copies_diagnoseAll (runner : Tool.Runner Id) (machine : Machine) (w : Workspace) :
    (Id.run (w.diagnoseAll runner machine)).1.copies = w.copies := by
  have linted (v : Workspace) : (Id.run (inTurn
      (fun w target => w.lintNow runner machine w.sequence target) v v.lintTargets)).1.copies =
        v.copies :=
    copies_inTurn (fun w target => copies_lintNow runner machine w w.sequence target)
      v.lintTargets v
  unfold diagnoseAll
  dsimp only
  split
  · exact linted w.advance
  · exact (linted _).trans (copies_compileNow runner w.advance _ _)

/-! ### Events -/

theorem store_linter (parse : Parser) (w : Workspace) (uri text : String) (version : Int) :
    (w.store parse uri text version).workspace.linter = w.linter := by
  have came := store_stored parse w uri text version
  generalize w.store parse uri text version = t at came ⊢
  cases came with
  | failed => rfl
  | held => exact trigger_linter ..

theorem copy?_deleteFile (w : Workspace) (uri u : String) :
    (w.deleteFile uri).workspace.copy? u = if u = uri then none else w.copy? u := by
  rw [← copy?_withLinter_forget w uri u]
  refine copy?_congr ?_ u
  unfold deleteFile
  dsimp only
  split
  · rfl
  · exact recheckAll_linter ..

theorem copy?_closeFile (parse : Parser) (machine : Machine) (w : Workspace) (uri u : String) :
    (w.closeFile parse machine uri).workspace.copy? u = if u = uri then none else w.copy? u := by
  rw [← copy?_withLinter_forget w uri u]
  have came := closeFile_closed parse machine w uri
  generalize w.closeFile parse machine uri = t at came ⊢
  cases came with
  | deleted =>
    rw [copy?_deleteFile, copy?_withLinter_forget]
    split <;> rfl
  | unread | failed | reloaded => rfl

/-- **What an event makes of the copies.** It changes that of its file at most. -/
theorem copy?_handle (parse : Parser) (machine : Machine) (w : Workspace) (e : Event) (u : String) :
    (w.handle parse machine e).workspace.copy? u =
      if u = e.uri then w.copyAfter? e else w.copy? u := by
  have unchanged (uri : String) : w.copy? u = if u = uri then w.copy? uri else w.copy? u := by
    split
    · rename_i same
      rw [same]
    · rfl
  have stored (text : LinterChannel → String) (uri offered : String) (version : Int) :
      ((w.withLinter fun l => l.update uri (text l)).store parse uri offered
        version).workspace.copy? u = if u = uri then w.linter.map text else w.copy? u :=
    (copy?_congr (store_linter ..) u).trans (copy?_withLinter_update w text uri u)
  cases e with
  | opened uri text version => exact stored (fun _ => text) uri text version
  | changed uri changes version => exact stored _ uri _ version
  | saved uri text =>
    cases text with
    | none => exact (copy?_congr (trigger_linter ..) u).trans (unchanged uri)
    | some text => exact stored (fun _ => text) uri text _
  | closed uri => exact copy?_closeFile parse machine w uri u
  | deleted uri => exact copy?_deleteFile w uri u
  | triggered uri => exact (copy?_congr (trigger_linter ..) u).trans (unchanged uri)

theorem forest_store (parse : Parser) (w : Workspace) (uri text : String) (version : Int) :
    (w.store parse uri text version).workspace.forest =
      (w.forest.set parse uri text version).2 := by
  have came := store_stored parse w uri text version
  generalize w.store parse uri text version = t at came ⊢
  cases came with
  | failed given =>
    rw [given]
    exact (Forest.eq_of_set_error parse given).symm
  | held set =>
    rw [set]
    exact trigger_forest ..

/-- **A text that an event has for a file is stored**, unless the forest refuses it. -/
theorem forest_handle_of_offer (parse : Parser) (machine : Machine) (has : e.offer? w = some o) :
    (w.handle parse machine e).workspace.forest =
      (w.forest.set parse o.uri o.text o.version).2 := by
  rcases Event.cases_of_offer has with rfl | ⟨changes, rfl, text⟩ | ⟨rfl, version⟩
  · exact forest_store ..
  · rw [text]
    exact forest_store ..
  · rw [version]
    exact forest_store ..

/-- An event without a text, that lets go of no file, leaves the forest. -/
theorem forest_handle_of_silent (parse : Parser) (machine : Machine) (none_ : e.offer? w = none)
    (keeps : e.letsGo = none) : (w.handle parse machine e).workspace.forest = w.forest := by
  cases e with
  | opened | changed => cases none_
  | saved uri text =>
    cases text with
    | none => exact trigger_forest w uri
    | some text => cases none_
  | closed | deleted => cases keeps
  | triggered uri => exact trigger_forest w uri

theorem Stores.get?_of_ne {s t : Forest} {stored : String} (h : Stores parse stored s t)
    (other : uri ≠ stored) : t.get? uri = s.get? uri := by
  rcases h with rfl | ⟨text, version, rfl⟩
  · rfl
  · exact (Forest.get?_put ..).trans (if_neg other)

theorem get?_deleteFile_of_ne {gone : String} (other : uri ≠ gone) :
    (w.deleteFile gone).workspace.forest.get? uri = w.forest.get? uri := by
  unfold deleteFile
  dsimp only
  split
  · rfl
  · rw [Turn.andThen, recheckAll_forest]
    exact (Forest.get?_remove ..).trans (if_neg other)

/-- **An event leaves the entries of all files but its own.** -/
theorem get?_handle_of_ne (parse : Parser) (machine : Machine) (other : uri ≠ e.uri) :
    (w.handle parse machine e).workspace.forest.get? uri = w.forest.get? uri := by
  cases has : e.offer? w with
  | some o =>
    rw [forest_handle_of_offer parse machine has]
    rw [← Event.uri_of_offer has] at other
    rcases Forest.set_eq_or parse w.forest o.uri o.text o.version with same | put
    · rw [same]
    · rw [put]
      exact (Forest.get?_put ..).trans (if_neg other)
  | none =>
    cases e with
    | opened | changed => cases has
    | saved uri text =>
      exact congrArg (Forest.get? · _) (forest_handle_of_silent parse machine has rfl)
    | closed closed =>
      rw [handle]
      have came := closeFile_closed parse machine w closed
      generalize w.closeFile parse machine closed = t at came ⊢
      cases came with
      | deleted => exact get?_deleteFile_of_ne (w := w.withLinter (·.forget closed)) other
      | unread | failed => rfl
      | reloaded _ _ set => exact (Stores.of_reload set).get?_of_ne other
    | deleted gone => exact get?_deleteFile_of_ne other
    | triggered uri =>
      exact congrArg (Forest.get? · _) (forest_handle_of_silent parse machine has rfl)

/-! ### Acts -/

theorem copies_isSome_handle (held : w.copies.isSome = true) (e : Event) :
    (w.handle parse machine e).workspace.copies.isSome = true := by
  obtain ⟨l, linter⟩ := Option.isSome_iff_exists.mp (Option.isSome_map ▸ held)
  have left : Leaves l e.letsGo (w.handle parse machine e) := handle_leaves linter e
  obtain ⟨texts, after⟩ := left.linter
  simp [copies, after]

/-- An act other than an event leaves the copies, -/
theorem copies_act (c : Course) {a : Act} (silent : ∀ machine e, a ≠ .move (.event machine e)) :
    (c.act parse a).workspace.copies = c.workspace.copies := by
  cases a with
  | load machine => rfl
  | diagnoseAll machine runner => exact copies_diagnoseAll runner machine c.workspace
  | move m =>
    cases m with
    | event machine e => exact absurd rfl (silent machine e)
    | finish machine runner job =>
      rw [Course.act, Course.step]
      split
      · exact copies_perform runner machine c.workspace job
      · rfl

/-- and every file that the forest holds. -/
theorem held_act {c : Course} {a : Act} (silent : ∀ machine e, a ≠ .move (.event machine e))
    {f : SourceFile} (there : c.workspace.forest.get? uri = some f) :
    (c.act parse a).workspace.forest.get? uri = some f := by
  rcases act_cases parse c a with ⟨machine, e, event, -⟩ | ⟨machine, -, after⟩ | ⟨v, same, rest⟩
  · exact absurd event (silent machine e)
  · rw [after]
    exact Forest.get?_load _ there
  · rw [rest.forest]
    rcases same with rfl | rfl <;> exact there

theorem copies_isSome_act (c : Course) (held : c.workspace.copies.isSome = true) (a : Act) :
    (c.act parse a).workspace.copies.isSome = true := by
  by_cases event : ∃ machine e, a = .move (.event machine e)
  · obtain ⟨machine, e, rfl⟩ := event
    exact copies_isSome_handle held e
  · simp only [not_exists] at event
    rw [copies_act c event]
    exact held

/-- A workspace with a linter keeps one. -/
theorem copies_isSome_history (linted : w.copies.isSome = true) (acts : List Act) :
    (history parse w acts).workspace.copies.isSome = true := by
  induction acts with
  | nil => exact linted
  | cons a earlier ih => exact copies_isSome_act _ ih a

/-- A linter has no copies when a project is opened. -/
theorem copy?_of_openWith {root : Path} {settings : Settings}
    (opened : openWith machine root settings = .ok w) (uri : String) : w.copy? uri = none := by
  obtain ⟨manifest, rfl⟩ := openWith_eq_ok opened
  unfold copy? copies linterFor?
  dsimp only
  split
  · cases machine.findProgram? settings.linter.command <;> rfl
  · rfl

/-! ### A project with a linter -/

/-- A machine with a package and a linter. -/
def linterMachine : Machine :=
  { packageMachine with
    disk := packageMachine.disk.put ["bin".toUTF8.toList, "elm-review".toUTF8.toList]
      (.file [] true)
    searchPath := [.ofString "/bin"] }

/-- What opening the package gives. -/
def lintedPackage? : Option Workspace :=
  (openWith linterMachine (.ofString "/p") .usual).toOption

theorem exists_lintedPackage : ∃ w, openWith linterMachine (.ofString "/p") .usual = .ok w ∧
    w ∈ lintedPackage? ∧ w.linter.isSome = true := by
  have linted : ∀ w ∈ lintedPackage?, w.linter.isSome = true := by decide +kernel
  have present : lintedPackage?.isSome = true := by decide +kernel
  obtain ⟨w, opened, mem⟩ := exists_opened present
  exact ⟨w, opened, mem, linted w mem⟩

end Workspace

end ElmAssist
