import ElmAssist.Proofs.Channel.Linter
import ElmAssist.Workspace.Run

/-!
# Workspace — What a turn does to the linter

An event tells the board what the live check says of some files, and that a file is gone; it starts
runs of the linter but finishes none. Of the linter's channel it changes the texts, and what is
flagged if it lets go of a file.

* `store_stored`, `closeFile_closed`: what comes of a text, and of closing a file.
* `Event.letsGo`: the file that an event lets go of.
* `handle_leaves`: what an event leaves of the linter, and the messages it sends.
* `perform_compile`: a run of the compiler leaves the linter as it is.
* `perform_lint`: a run of the linter over the project finishes with what it finds.
-/

namespace ElmAssist

/-- Messages of the live check only. -/
def OnlyLive (ms : List Message) : Prop :=
  ∀ m ∈ ms, ∃ r, m = .report r ∧ r.channel = .live

theorem OnlyLive.append {ms ns : List Message} (hm : OnlyLive ms) (hn : OnlyLive ns) :
    OnlyLive (ms ++ ns) := by
  intro m mem
  rcases List.mem_append.mp mem with mem | mem
  · exact hm m mem
  · exact hn m mem

namespace Workspace

variable {parse : Parser} {machine : Machine} {w : Workspace} {l : LinterChannel}

/-! ### Checks -/

@[simp] theorem recheck_linter (w : Workspace) (uri : String) :
    (w.recheck uri).workspace.linter = w.linter := rfl

theorem recheck_onlyLive (w : Workspace) (uri : String) : OnlyLive (w.recheck uri).messages := by
  intro m mem
  obtain ⟨r, report, rfl⟩ := List.mem_map.mp mem
  obtain ⟨f, -, rfl⟩ := Option.map_eq_some_iff.mp (Option.mem_toList.mp report)
  exact ⟨_, rfl, rfl⟩

@[simp] theorem triggerCompiler_linter (t : Turn) (uri : String) :
    (triggerCompiler t uri).workspace.linter = t.workspace.linter := by
  unfold triggerCompiler
  dsimp only
  split <;> rfl

@[simp] theorem triggerCompiler_messages (t : Turn) (uri : String) :
    (triggerCompiler t uri).messages = t.messages := by
  unfold triggerCompiler
  dsimp only
  split <;> rfl

@[simp] theorem triggerLinter_workspace (t : Turn) (uri : String) :
    (triggerLinter t uri).workspace = t.workspace := by
  unfold triggerLinter
  split <;> rfl

@[simp] theorem triggerLinter_messages (t : Turn) (uri : String) :
    (triggerLinter t uri).messages = t.messages := by
  unfold triggerLinter
  split <;> rfl

@[simp] theorem trigger_linter (w : Workspace) (uri : String) :
    (w.trigger uri).workspace.linter = w.linter := by
  simp [trigger]

theorem trigger_onlyLive (w : Workspace) (uri : String) : OnlyLive (w.trigger uri).messages := by
  simpa [trigger] using recheck_onlyLive w uri

@[simp] theorem recheckAll_linter : ∀ (uris : List String) (w : Workspace),
    (w.recheckAll uris).workspace.linter = w.linter
  | [], _ => rfl
  | uri :: uris, w => by
    rw [recheckAll, Turn.andThen]
    exact recheckAll_linter uris (w.recheck uri).workspace

theorem recheckAll_onlyLive : ∀ (uris : List String) (w : Workspace),
    OnlyLive (w.recheckAll uris).messages
  | [], _ => nofun
  | uri :: uris, w => by
    rw [recheckAll, Turn.andThen]
    exact (recheck_onlyLive w uri).append (recheckAll_onlyLive uris _)

/-! ### Texts that come in -/

/-- What comes of a text for a file. -/
inductive Stored (parse : Parser) (w : Workspace) (uri text : String) (version : Int) : Turn → Prop
  /-- The parser gives it up. -/
  | failed {e : Fault} {forest : Forest}
      (given : w.forest.set parse uri text version = (.error e, forest)) :
      Stored parse w uri text version (.failed w e)
  /-- The forest has it now, or a newer one. -/
  | held {f : SourceFile} {forest : Forest}
      (set : w.forest.set parse uri text version = (.ok f, forest)) :
      Stored parse w uri text version ({ w with forest }.trigger uri)

theorem store_stored (parse : Parser) (w : Workspace) (uri text : String) (version : Int) :
    Stored parse w uri text version (w.store parse uri text version) := by
  unfold store
  split
  · rename_i given
    exact .failed given
  · rename_i set
    exact .held set

/-- The file on disk that a uri stands for. -/
def onDisk? (machine : Machine) (uri : String) : Option Path :=
  (Uri.path? uri).filter (machine.disk.isFile machine.cwd ·)

/-- What comes of closing a file, once the linter has let go of it. -/
inductive Closed (parse : Parser) (machine : Machine) (w : Workspace) (uri : String) : Turn → Prop
  /-- It is not on disk. -/
  | deleted (missing : onDisk? machine uri = none) : Closed parse machine w uri (w.deleteFile uri)
  /-- It cannot be read. -/
  | unread {p : Path} {e : Fault} (there : onDisk? machine uri = some p)
      (unreadable : machine.readText p = .error e) : Closed parse machine w uri (.failed w e)
  /-- The parser gives its text up. -/
  | failed {p : Path} {text : String} {e : Fault} {forest : Forest}
      (there : onDisk? machine uri = some p) (read : machine.readText p = .ok text)
      (given : w.forest.reload parse uri text 0 = (.error e, forest)) :
      Closed parse machine w uri (.failed w e)
  | reloaded {p : Path} {text : String} {f : SourceFile} {forest : Forest}
      (there : onDisk? machine uri = some p) (read : machine.readText p = .ok text)
      (set : w.forest.reload parse uri text 0 = (.ok f, forest)) :
      Closed parse machine w uri ({ w with forest }.recheck uri)

theorem closeFile_closed (parse : Parser) (machine : Machine) (w : Workspace) (uri : String) :
    Closed parse machine (w.withLinter (·.forget uri)) uri (w.closeFile parse machine uri) := by
  unfold closeFile
  dsimp only
  split
  · rename_i missing
    exact .deleted missing
  · rename_i there
    split
    · rename_i unreadable
      exact .unread there unreadable
    · rename_i read
      split
      · rename_i given
        exact .failed there read given
      · rename_i set
        exact .reloaded there read set

/-! ### Events -/

/-- The file that an event lets go of. -/
def Event.letsGo : Event → Option String
  | .closed uri | .deleted uri => some uri
  | _ => none

/-- What a turn leaves that lets go of a file, or of none: the linter's channel has other texts and
does not flag the file any more. The messages are those of the live check, and maybe one that the
file is gone, before them. -/
structure Leaves (l : LinterChannel) (gone : Option String) (t : Turn) : Prop where
  linter : ∃ texts, t.workspace.linter =
    some { l with texts, flagged := l.flagged.filter fun uri => gone != some uri }
  messages : ∃ removals live, t.messages = removals ++ live ∧ OnlyLive live ∧
    ∀ m ∈ removals, ∃ uri s, gone = some uri ∧ m = .forget uri s

/-- Only the file that is let go of is gone. -/
theorem Leaves.eq_of_forget {gone : Option String} {t : Turn} (h : Leaves l gone t) {uri : String}
    {s : Nat} (told : .forget uri s ∈ t.messages) : gone = some uri := by
  obtain ⟨removals, live, messages, onlyLive, removed⟩ := h.messages
  rw [messages] at told
  rcases List.mem_append.mp told with told | told
  · obtain ⟨_, _, same, message⟩ := removed _ told
    cases message
    exact same
  · obtain ⟨r, message, -⟩ := onlyLive _ told
    cases message

/-- No message has a list of the linter. -/
theorem Leaves.slot?_linter {gone : Option String} {t : Turn} (h : Leaves l gone t) {m : Message}
    (mem : m ∈ t.messages) (uri : String) : m.slot? uri .linter = none := by
  obtain ⟨removals, live, messages, onlyLive, removed⟩ := h.messages
  rw [messages] at mem
  rcases List.mem_append.mp mem with mem | mem
  · obtain ⟨_, s, -, rfl⟩ := removed m mem
    rfl
  · obtain ⟨r, rfl, channel⟩ := onlyLive m mem
    simp [Message.slot?, Report.slot?, channel]

/-- A check of a file, whatever the texts. -/
theorem Leaves.of_trigger (held : ∃ texts, w.linter = some { l with texts }) (uri : String) :
    Leaves l none (w.trigger uri) where
  linter := by
    have all : l.flagged.filter (fun uri => none != some uri) = l.flagged :=
      List.filter_eq_self.mpr fun _ _ => rfl
    rwa [trigger_linter, all]
  messages := ⟨[], _, rfl, trigger_onlyLive w uri, nofun⟩

/-- A fault, whatever the texts. -/
theorem Leaves.of_failed (held : ∃ texts, w.linter = some { l with texts }) (e : Fault) :
    Leaves l none (.failed w e) where
  linter := by
    have all : l.flagged.filter (fun uri => none != some uri) = l.flagged :=
      List.filter_eq_self.mpr fun _ _ => rfl
    rw [all]
    exact held
  messages := ⟨[], [], rfl, nofun, nofun⟩

/-- A text that comes in. -/
theorem Leaves.of_store (held : ∃ texts, w.linter = some { l with texts }) (uri text : String)
    (version : Int) : Leaves l none (w.store parse uri text version) := by
  have came := store_stored parse w uri text version
  generalize w.store parse uri text version = t at came ⊢
  cases came with
  | failed => exact .of_failed held _
  | held =>
    refine .of_trigger ?_ uri
    exact held

theorem filter_gone (uri : String) (flagged : List String) :
    flagged.filter (fun u => some uri != some u) = flagged.filter (· != uri) :=
  List.filter_congr fun u _ => by
    rw [bne, bne, Option.some_beq_some, BEq.comm]

/-- The tools forget a file that is deleted; it may be forgotten already. -/
theorem Leaves.of_deleteFile {texts : Catalog String String} {flagged : List String}
    (uri : String) (held : w.linter = some { l with texts, flagged })
    (same : flagged.filter (· != uri) = l.flagged.filter (· != uri)) :
    Leaves l (some uri) (w.deleteFile uri) := by
  have forgotten : (w.forget uri).linter =
      some { l with texts := texts.erase uri, flagged := l.flagged.filter (· != uri) } := by
    rw [forget, held, Option.map_some, LinterChannel.forget, same]
  unfold deleteFile
  dsimp only
  split
  · refine ⟨⟨texts.erase uri, ?_⟩, [], [], rfl, nofun, nofun⟩
    rw [filter_gone]
    exact forgotten
  · refine ⟨⟨texts.erase uri, ?_⟩, [_], _, rfl, recheckAll_onlyLive _ _, fun m mem => ?_⟩
    · rw [filter_gone, Turn.andThen, recheckAll_linter]
      exact forgotten
    · exact ⟨uri, _, rfl, List.mem_singleton.mp mem⟩

theorem Leaves.of_closeFile (held : w.linter = some l) (uri : String) :
    Leaves l (some uri) (w.closeFile parse machine uri) := by
  have forgotten : (w.withLinter (·.forget uri)).linter =
      some { l with texts := l.texts.erase uri, flagged := l.flagged.filter (· != uri) } := by
    rw [withLinter, held]
    rfl
  have came := closeFile_closed parse machine w uri
  generalize w.closeFile parse machine uri = t at came ⊢
  cases came with
  | deleted =>
    refine .of_deleteFile uri forgotten ?_
    rw [List.filter_filter]
    simp
  | unread | failed =>
    refine ⟨⟨l.texts.erase uri, ?_⟩, [], [], rfl, nofun, nofun⟩
    rw [filter_gone]
    exact forgotten
  | reloaded =>
    refine ⟨⟨l.texts.erase uri, ?_⟩, [], _, rfl, recheck_onlyLive _ _, nofun⟩
    rw [filter_gone, recheck_linter]
    exact forgotten

/-- **What an event leaves.** -/
theorem handle_leaves (held : w.linter = some l) (e : Event) :
    Leaves l e.letsGo (w.handle parse machine e) := by
  have updated : ∀ f, (w.withLinter f).linter = some (f l) := fun f => by
    rw [withLinter, held]
    rfl
  cases e with
  | opened uri text version => exact .of_store ⟨_, updated _⟩ uri text version
  | changed uri changes version => exact .of_store ⟨_, updated _⟩ uri _ version
  | saved uri text =>
    cases text with
    | none => exact .of_trigger ⟨l.texts, held⟩ uri
    | some text => exact .of_store ⟨_, updated _⟩ uri text _
  | closed uri => exact .of_closeFile held uri
  | deleted uri => exact .of_deleteFile uri held rfl
  | triggered uri => exact .of_trigger ⟨l.texts, held⟩ uri

/-! ### Jobs -/

/-- A compiler job leaves the linter as it is, and sends the report of the compiler, if any. -/
theorem perform_compile (machine : Machine) (runner : Tool.Runner Id) (w : Workspace)
    (sequence : Nat) :
    ∃ w' ms, w.perform runner machine (.compile sequence) = (pure (w', ms) : Id _) ∧
      w'.linter = w.linter ∧ ∀ m ∈ ms, ∃ r, m = .report r ∧ r.channel = .compiler := by
  unfold perform
  dsimp only
  split
  · exact ⟨w, [], rfl, rfl, nofun⟩
  · exact ⟨_, [], rfl, rfl, nofun⟩
  · rename_i c files _
    refine ⟨_, _, rfl, rfl, fun m mem => ?_⟩
    exact ⟨_, List.mem_singleton.mp mem, rfl⟩

/-- A linter job finishes with what the linter finds in the project. -/
theorem perform_lint (held : w.linter = some l) (project : l.perFile = false)
    (runner : Tool.Runner Id) (sequence : Nat) (uri : String) :
    w.perform runner machine (.lint sequence uri) =
      let finished := l.finish sequence (some uri) (l.found runner (some uri))
      (pure ({ w with linter := some finished.1 }, finished.2.toList.map .report) : Id _) := by
  unfold perform lintNow
  dsimp only
  rw [held]
  dsimp only
  rw [l.run_project project]
  rfl

end Workspace

end ElmAssist
