import ElmAssist.Proofs.Forest.Index
import ElmAssist.Proofs.Project.Sources
import ElmAssist.Proofs.Workspace.Course
import ElmAssist.Tree.Heading

/-!
# Workspace — One entry for each file

The forest holds files by their uris, and takes a uri as it comes. Reading the sources gives each file
its plain uri. An editor that uses the plain uris too meets the entries that were read; for another
spelling of a uri there is an entry of its own, next to that of the plain one.

* `SameFile`, `Respelled`: uris of one file, and the uris that the editor spells in another way.
* `held_of_handle`, `held_of_load`: the entries that come in with an event and with the sources.
* `plain_or_respelled`: all entries have plain uris but those that the editor respells.
* `one_entry_per_file`: so a file has one entry, unless the editor respells one of its uris.
* `respelled_file_twice`: a file that was read, and is opened under an escaped letter.
-/

namespace ElmAssist

namespace Forest

variable {parse : Parser}

/-- A file that is held once texts have been read was held before, or is one of those read. -/
theorem held_of_load {s : Forest} {texts : List (String × String)} {uri : String} {f : SourceFile}
    (held : (s.load parse texts).get? uri = some f) :
    (∃ g, s.get? uri = some g) ∨ ∃ text, (uri, text) ∈ texts := by
  unfold load at held
  change ((parsable parse texts).foldl _ s.files).get? uri = some f at held
  change (∃ g, s.files.get? uri = some g) ∨ _
  suffices known : (∃ g, s.files.get? uri = some g) ∨ ∃ text, (uri, text) ∈ parsable parse texts from
    known.imp_right fun ⟨text, mem⟩ => ⟨text, List.mem_of_mem_filter mem⟩
  generalize s.files = files at held ⊢
  generalize parsable parse texts = read at held ⊢
  induction read generalizing files with
  | nil => exact Or.inl ⟨f, held⟩
  | cons e texts ih =>
    rcases ih _ held with ⟨g, before⟩ | ⟨text, mem⟩
    · rw [Catalog.get?_insertNew] at before
      split at before
      · rename_i same
        exact Or.inr ⟨e.2, same ▸ List.mem_cons_self⟩
      · exact Or.inl ⟨g, before⟩
    · exact Or.inr ⟨text, List.mem_cons_of_mem _ mem⟩

end Forest

namespace Workspace

/-! ### Uris of one file -/

/-- Two uris have paths with the same steps. -/
def SameFile (u v : String) : Prop :=
  ∃ p q, Uri.path? u = some p ∧ Uri.path? v = some q ∧ p.same q = true

/-- The file that an event may bring in: one that it has a text of, or one that counts again as it is
on disk. -/
def Event.source? : Event → Option String
  | .opened uri .. | .changed uri .. | .closed uri => some uri
  | .saved uri text => text.map fun _ => uri
  | .deleted _ | .triggered _ => none

/-- The editor brings in a file under a uri that is not a plain one. -/
def Respelled (acts : List Act) (uri : String) : Prop :=
  ¬ Uri.IsPlain uri ∧ ∃ machine e, .move (.event machine e) ∈ acts ∧ e.source? = some uri

/-- No two of the uris are of one file, but for those that the editor respells. -/
def Apart (acts : List Act) (uris : List String) : Prop :=
  ∀ u ∈ uris, ∀ v ∈ uris, SameFile u v → u = v ∨ Respelled acts u ∨ Respelled acts v

variable {parse : Parser} {machine : Machine} {w v : Workspace} {uri : String} {f : SourceFile}

theorem Respelled.later {acts : List Act} (h : Respelled acts uri) (a : Act) :
    Respelled (a :: acts) uri := by
  obtain ⟨odd, machine, e, mem, brings⟩ := h
  exact ⟨odd, machine, e, List.mem_cons_of_mem _ mem, brings⟩

/-! ### Directories of sources -/

/-- The directories of the sources. -/
def directories (w : Workspace) : List Path :=
  w.manifest.sourcePaths w.root

theorem SameButTools.directories (h : w.SameButTools v) : v.directories = w.directories :=
  (congrArg Workspace.directories h).trans rfl

@[simp] theorem recheckAll_directories : ∀ (uris : List String) (w : Workspace),
    (w.recheckAll uris).workspace.directories = w.directories
  | [], _ => rfl
  | uri :: uris, w => recheckAll_directories uris (w.recheck uri).workspace

theorem Handled.directories {t : Turn} (h : Handled parse w t) :
    t.workspace.directories = w.directories := by
  cases h with
  | silent rest => exact rest.directories
  | checked _ before rest => exact rest.directories.trans before.directories
  | removed _ before turn =>
    rw [turn, Turn.andThen, recheckAll_directories]
    exact before.directories

theorem act_directories (c : Course) (a : Act) :
    (c.act parse a).workspace.directories = c.workspace.directories := by
  rcases act_cases parse c a with ⟨machine, e, -, after⟩ | ⟨machine, -, after⟩ | ⟨v, same, rest⟩
  · rw [after]
    exact (handle_handled parse machine c.workspace e).directories
  · rw [after]
    rfl
  · rw [rest.directories]
    rcases same with rfl | rfl <;> rfl

/-- The directories of the sources stay as they are. -/
theorem history_directories (w : Workspace) (acts : List Act) :
    (history parse w acts).workspace.directories = w.directories := by
  induction acts with
  | nil => rfl
  | cons a earlier ih => exact (act_directories _ a).trans ih

/-! ### Entries that come in -/

/-- A file that is held once a file is put in was held before, or is that file. -/
theorem held_of_put {s : Forest} {g : SourceFile} (held : (s.put g).get? uri = some f) :
    (∃ g, s.get? uri = some g) ∨ g.uri = uri := by
  rw [Forest.get?_put] at held
  split at held
  · rename_i same
    exact Or.inr same.symm
  · exact Or.inl ⟨f, held⟩

/-- A file that is held once a text is stored was held before, or is that of the text. -/
theorem held_of_stores {s t : Forest} {stored : String} (stores : Stores parse stored s t)
    (held : t.get? uri = some f) : (∃ g, s.get? uri = some g) ∨ stored = uri := by
  rcases stores with rfl | ⟨text, version, rfl⟩
  · exact Or.inl ⟨f, held⟩
  · exact held_of_put held

theorem held_of_store {stored text : String} {version : Int}
    (held : (w.store parse stored text version).workspace.forest.get? uri = some f) :
    (∃ g, w.forest.get? uri = some g) ∨ stored = uri := by
  have came := store_stored parse w stored text version
  generalize w.store parse stored text version = t at came held
  cases came with
  | failed => exact Or.inl ⟨f, held⟩
  | held set =>
    rw [trigger_forest] at held
    exact held_of_stores (.of_set set) held

theorem held_of_deleteFile {gone : String}
    (held : (w.deleteFile gone).workspace.forest.get? uri = some f) :
    ∃ g, w.forest.get? uri = some g := by
  unfold deleteFile at held
  dsimp only at held
  split at held
  · exact ⟨f, held⟩
  · rw [Turn.andThen, recheckAll_forest] at held
    replace held : (w.forest.remove gone).get? uri = some f := held
    rw [Forest.get?_remove] at held
    split at held
    · cases held
    · exact ⟨f, held⟩

theorem held_of_closeFile {closed : String}
    (held : (w.closeFile parse machine closed).workspace.forest.get? uri = some f) :
    (∃ g, w.forest.get? uri = some g) ∨ closed = uri := by
  have came := closeFile_closed parse machine w closed
  generalize w.closeFile parse machine closed = t at came held
  cases came with
  | deleted => exact Or.inl (held_of_deleteFile (w := w.withLinter (·.forget closed)) held)
  | unread | failed => exact Or.inl ⟨f, held⟩
  | reloaded _ _ set => exact held_of_stores (.of_reload set) held

/-- **A file that is held after an event** was held before, or is the one that the event brings in. -/
theorem held_of_handle {e : Event}
    (held : (w.handle parse machine e).workspace.forest.get? uri = some f) :
    (∃ g, w.forest.get? uri = some g) ∨ e.source? = some uri := by
  cases e with
  | opened stored text version =>
    exact (held_of_store (w := w.withLinter _) held).imp_right (congrArg some)
  | changed stored changes version =>
    exact (held_of_store (w := w.withLinter _) held).imp_right (congrArg some)
  | saved stored text =>
    cases text with
    | none => exact Or.inl ⟨f, trigger_forest w stored ▸ held⟩
    | some text => exact (held_of_store (w := w.withLinter _) held).imp_right (congrArg some)
  | closed stored => exact (held_of_closeFile held).imp_right (congrArg some)
  | deleted gone => exact Or.inl (held_of_deleteFile held)
  | triggered checked => exact Or.inl ⟨f, trigger_forest w checked ▸ held⟩

/-- **A file that is held once the sources have been read** was held before, or is a source. -/
theorem held_of_load (held : (w.load parse machine).1.forest.get? uri = some f) :
    (∃ g, w.forest.get? uri = some g) ∨
      ∃ p ∈ Project.sources machine w.manifest w.root, Project.uriOf machine p = uri := by
  refine (Forest.held_of_load held).imp_right fun ⟨text, read⟩ => ?_
  obtain ⟨p, source, entry⟩ := List.mem_filterMap.mp read
  obtain ⟨content, -, same⟩ := Option.map_eq_some_iff.mp entry
  exact ⟨p, source, congrArg Prod.fst same⟩

/-! ### Histories -/

/-- **Every entry has a plain uri, but for those that the editor respells.** -/
theorem plain_or_respelled {root : Path} {settings : Settings}
    (opened : openWith machine root settings = .ok w)
    (down : ∀ dir ∈ w.directories, .parent ∉ dir.components) {acts : List Act}
    (machines : ∀ machine, .load machine ∈ acts → machine.WellFormed)
    (held : (history parse w acts).workspace.forest.get? uri = some f) :
    Uri.IsPlain uri ∨ Respelled acts uri := by
  induction acts generalizing f with
  | nil =>
    replace held : w.forest.get? uri = some f := held
    rw [forest_of_openWith opened] at held
    cases held
  | cons a earlier ih =>
    have before (g : SourceFile) (there : (history parse w earlier).workspace.forest.get? uri = some g) :
        Uri.IsPlain uri ∨ Respelled (a :: earlier) uri :=
      (ih (fun m mem => machines m (List.mem_cons_of_mem _ mem)) there).imp_right (·.later a)
    rw [history] at held
    rcases act_cases parse (history parse w earlier) a with
      ⟨machine, e, rfl, after⟩ | ⟨machine, rfl, after⟩ | ⟨v, same, rest⟩
    · rw [after] at held
      rcases held_of_handle held with ⟨g, there⟩ | brings
      · exact before g there
      · by_cases plain : Uri.IsPlain uri
        · exact Or.inl plain
        · exact Or.inr ⟨plain, machine, e, List.mem_cons_self, brings⟩
    · rw [after] at held
      rcases held_of_load held with ⟨g, there⟩ | ⟨p, source, rfl⟩
      · exact before g there
      · have stay : (history parse w earlier).workspace.directories = w.directories :=
          history_directories w earlier
        rw [← stay] at down
        exact Or.inl (Project.isPlain_uriOf_source (machines machine List.mem_cons_self) down source)
    · rw [rest.forest] at held
      rcases same with rfl | rfl <;> exact before f held

/-- **A file has one entry**, and counts once among those that declare a module, unless the editor
brings it in under a uri that is not a plain one. The directories of the sources do not go up. -/
theorem one_entry_per_file (parse : Parser) {machine : Machine} {root : Path} {settings : Settings}
    {w : Workspace} (opened : openWith machine root settings = .ok w)
    (down : ∀ dir ∈ w.directories, .parent ∉ dir.components) (acts : List Act)
    (machines : ∀ machine, .load machine ∈ acts → machine.WellFormed) :
    let now := (history parse w acts).workspace.forest
    Apart acts now.uris ∧ ∀ module, Apart acts (now.modules.urisOf module) := by
  intro now
  have entries : ∀ u f, now.get? u = some f → ∀ v g, now.get? v = some g → SameFile u v →
      u = v ∨ Respelled acts u ∨ Respelled acts v := by
    rintro u f first v g second ⟨p, q, left, right, same⟩
    rcases plain_or_respelled opened down machines first with plain | respelled
    · rcases plain_or_respelled opened down machines second with also | respelled
      · exact Or.inl (plain.unique also left right (of_decide_eq_true same))
      · exact Or.inr (Or.inr respelled)
    · exact Or.inr (Or.inl respelled)
  have sound : now.Sound parse := sound_history opened acts
  constructor
  · intro u first v second
    obtain ⟨f, first⟩ := Forest.mem_uris_iff.mp first
    obtain ⟨g, second⟩ := Forest.mem_uris_iff.mp second
    exact entries u f first v g second
  · intro module u first v second
    obtain ⟨f, first, -⟩ := (Forest.mem_urisOf_iff sound).mp first
    obtain ⟨g, second, -⟩ := (Forest.mem_urisOf_iff sound).mp second
    exact entries u f first v g second

/-! ### A project with a source -/

/-- A machine with a package that has a source, and with another directory. -/
def sourceMachine : Machine :=
  { packageMachine with
    disk := (packageMachine.disk.put ["p".toUTF8.toList, "src".toUTF8.toList, "A.elm".toUTF8.toList]
      (.file "module A".toUTF8.toList false)).put ["q".toUTF8.toList] .emptyDirectory }

theorem sourceMachine_wellFormed : sourceMachine.WellFormed where
  cwd := ⟨by decide +kernel, by decide +kernel⟩
  disk := by
    have empty : Entry.emptyDirectory.WellNamed := .directory nofun nofun
    have package : packageMachine.disk.root.WellNamed := by
      refine .put (.file ..) ?_ empty
      decide +kernel
    refine .put empty ?_ (.put (.file ..) ?_ package)
    · decide +kernel
    · decide +kernel

/-- What opening the package gives, by the path of its root. -/
def sourcePackage? (root : Path) : Option Workspace :=
  (openWith sourceMachine root .usual).toOption

/-- The sources are read, and a file is opened. -/
def readAndOpened (uri : String) : List Act :=
  [.move (.event sourceMachine (.opened uri "module A" 1)), .load sourceMachine]

/-- A source that is opened under its plain uri keeps its one entry. -/
theorem read_source_once :
    ∃ w, openWith sourceMachine (.ofString "/p") .usual = .ok w ∧
      let acts := readAndOpened "file:///p/src/A.elm"
      let now := (history Heading.rows w acts).workspace.forest
      now.uris = ["file:///p/src/A.elm"] ∧ now.modules.urisOf "A" = ["file:///p/src/A.elm"] ∧
        Apart acts now.uris ∧ ∀ module, Apart acts (now.modules.urisOf module) := by
  have present : (sourcePackage? (.ofString "/p")).isSome = true := by decide +kernel
  obtain ⟨w, opened, mem⟩ := exists_opened present
  have held : ∀ w ∈ sourcePackage? (.ofString "/p"),
      let now := (history Heading.rows w (readAndOpened "file:///p/src/A.elm")).workspace.forest
      now.uris = ["file:///p/src/A.elm"] ∧ now.modules.urisOf "A" = ["file:///p/src/A.elm"] := by
    decide +kernel
  have root : ∀ w ∈ sourcePackage? (.ofString "/p"),
      w.root.isAbsolute = true ∧ .parent ∉ w.root.components := by decide +kernel
  have down : ∀ dir ∈ w.directories, .parent ∉ dir.components :=
    Project.parent_notMem_sourcePaths (root w mem).1 fun _ => (root w mem).2
  refine ⟨w, opened, (held w mem).1, (held w mem).2, ?_⟩
  refine one_entry_per_file Heading.rows opened down (readAndOpened "file:///p/src/A.elm") ?_
  intro machine read
  obtain rfl : machine = sourceMachine := by simpa [readAndOpened] using read
  exact sourceMachine_wellFormed

theorem sameFile_source {u v : String} (left : Uri.path? u = some (.ofString "/p/src/A.elm"))
    (right : Uri.path? v = some (.ofString "/p/src/A.elm")) : SameFile u v :=
  ⟨_, _, left, right, decide_eq_true rfl⟩

/-- **A file is held twice** when the editor escapes a letter in its uri. It is so too when the root
of a package goes up, and the editor spells the uri plainly. -/
theorem respelled_file_twice :
    (¬ ∀ (machine : Machine) (root : Path) (settings : Settings) (w : Workspace),
      openWith machine root settings = .ok w → ∀ (parse : Parser) (acts : List Act),
        let now := (history parse w acts).workspace.forest
        ∀ u ∈ now.uris, ∀ v ∈ now.uris, SameFile u v → u = v) ∧
    ¬ ∀ (machine : Machine) (root : Path) (settings : Settings) (w : Workspace),
      openWith machine root settings = .ok w → ∀ (parse : Parser) (acts : List Act),
        Apart acts (history parse w acts).workspace.forest.uris := by
  constructor
  · intro once
    have present : (sourcePackage? (.ofString "/p")).isSome = true := by decide +kernel
    obtain ⟨w, opened, mem⟩ := exists_opened present
    have uris : ∀ w ∈ sourcePackage? (.ofString "/p"),
        (history Heading.rows w (readAndOpened "file:///p/src/%41.elm")).workspace.forest.uris =
          ["file:///p/src/%41.elm", "file:///p/src/A.elm"] := by decide +kernel
    have same := sameFile_source (u := "file:///p/src/%41.elm") (v := "file:///p/src/A.elm")
      (by decide +kernel) (by decide +kernel)
    refine absurd (once _ _ _ w opened Heading.rows (readAndOpened "file:///p/src/%41.elm")
      _ ?_ _ ?_ same) (by decide)
    · simp [uris w mem]
    · simp [uris w mem]
  · intro apart
    have present : (sourcePackage? (.ofString "/q/../p")).isSome = true := by decide +kernel
    obtain ⟨w, opened, mem⟩ := exists_opened present
    have uris : ∀ w ∈ sourcePackage? (.ofString "/q/../p"),
        (history Heading.rows w (readAndOpened "file:///p/src/A.elm")).workspace.forest.uris =
          ["file:///p/src/A.elm", "file:///q/../p/src/A.elm"] := by decide +kernel
    have same := sameFile_source (u := "file:///p/src/A.elm") (v := "file:///q/../p/src/A.elm")
      (by decide +kernel) (by decide +kernel)
    have plain : Uri.ofPath (.ofString "/p/src/A.elm") = "file:///p/src/A.elm" := by decide +kernel
    have twice := apart _ _ _ w opened Heading.rows (readAndOpened "file:///p/src/A.elm")
      _ (by simp [uris w mem]) _ (by simp [uris w mem]) same
    rcases twice with one | ⟨odd, -⟩ | ⟨-, machine, e, act, brings⟩
    · exact absurd one (by decide)
    · have direct : (Path.ofString "/p/src/A.elm").IsDirect := ⟨by decide +kernel, by decide +kernel⟩
      exact odd (plain ▸ Uri.isPlain_ofPath direct)
    · simp only [readAndOpened, List.mem_cons, Act.move.injEq, Move.event.injEq, reduceCtorEq,
        List.not_mem_nil, or_false] at act
      obtain ⟨-, rfl⟩ := act
      exact absurd (Option.some.inj brings) (by decide)

end Workspace

end ElmAssist
