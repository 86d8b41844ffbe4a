import ElmAssist.Forest.Basic
import ElmAssist.Proofs.Module.Index
import Mathlib.Data.List.Induction

/-!
# Forest — Edits

The forests that there are: those that edits lead to, from the one without files.

* `Sound`: each file is what its text parses to, under its own uri, and the index is that of the
  modules of the files.
* `sound_after`: every forest that edits lead to is sound.
* `fileOf?_eq_some_iff`: a sound forest has a file for a module when one file declares it.
-/

namespace ElmAssist.Forest

/-! ### Edits -/

/-- What happens to a forest. -/
inductive Edit where
  /-- An editor has a text at a version. -/
  | set (uri text : String) (version : Int)
  /-- The text on disk counts again. -/
  | reload (uri text : String) (version : Int)
  | remove (uri : String)
  /-- Texts by uri are read from disk. -/
  | load (texts : List (String × String))
  deriving DecidableEq, Repr

variable (parse : Parser)

/-- The forest after an edit. -/
def edit (s : Forest) : Edit → Forest
  | .set uri text version => (s.set parse uri text version).2
  | .reload uri text version => (s.reload parse uri text version).2
  | .remove uri => s.remove uri
  | .load texts => s.load parse texts

/-- The forest after edits, from the one without files. -/
def after (edits : List Edit) : Forest :=
  edits.foldl (edit parse) empty

theorem after_concat (edits : List Edit) (e : Edit) :
    after parse (edits ++ [e]) = edit parse (after parse edits) e := by
  unfold after
  rw [List.foldl_append]
  rfl

/-- A text is parsed to its file, unless the parser gives it up. -/
theorem parsed_eq_ok {previous : Option SourceFile} {uri text : String} {version : Int}
    {f : SourceFile} (parsed : SourceFile.parsed parse previous uri text version = .ok f) :
    f = .build parse uri text version := by
  unfold SourceFile.parsed at parsed
  split at parsed
  · cases parsed
  · exact (Except.ok.inj parsed).symm

/-- A text is stored, unless a newer version is held or the parser gives it up. -/
theorem set_eq_or (s : Forest) (uri text : String) (version : Int) :
    (s.set parse uri text version).2 = s ∨
      (s.set parse uri text version).2 = s.put (.build parse uri text version) := by
  unfold Forest.set
  split
  · exact Or.inl rfl
  · split
    · exact Or.inl rfl
    · rename_i parsed
      rw [parsed_eq_ok parse parsed]
      unfold publish
      dsimp only
      split
      · exact Or.inl rfl
      · exact Or.inr rfl

/-- A text that the parser gives up leaves the forest. -/
theorem eq_of_set_error {s t : Forest} {uri text : String} {version : Int} {e : Fault}
    (given : s.set parse uri text version = (.error e, t)) : t = s := by
  unfold Forest.set at given
  split at given
  · cases given
  · split at given
    · exact (congrArg Prod.snd given).symm
    · cases given

/-- A text is stored whatever is held, unless the parser gives it up. -/
theorem reload_eq_or (s : Forest) (uri text : String) (version : Int) :
    (s.reload parse uri text version).2 = s ∨
      (s.reload parse uri text version).2 = s.put (.build parse uri text version) := by
  unfold reload
  split
  · exact Or.inl rfl
  · rename_i parsed
    rw [parsed_eq_ok parse parsed]
    exact Or.inr rfl

/-! ### Soundness -/

/-- Each file is what some text of its uri parses to. -/
def Built (files : Catalog String SourceFile) : Prop :=
  ∀ uri f, files.get? uri = some f → ∃ text version, f = .build parse uri text version

/-- Each file is built from its text, and the index is that of the files. -/
structure Sound (s : Forest) : Prop where
  built : Built parse s.files
  indexed : s = ofFiles s.files

variable {parse}

theorem Built.insert {files : Catalog String SourceFile} (h : Built parse files)
    (uri text : String) (version : Int) :
    Built parse (files.insert uri (.build parse uri text version)) := by
  intro v f held
  rw [Catalog.get?_insert] at held
  split at held
  · rename_i same
    cases held
    exact ⟨text, version, same ▸ rfl⟩
  · exact h v f held

theorem Built.insertNew {files : Catalog String SourceFile} (h : Built parse files)
    (uri text : String) (version : Int) :
    Built parse (files.insertNew uri (.build parse uri text version)) := by
  unfold Catalog.insertNew
  split
  · exact h
  · exact h.insert uri text version

theorem Built.erase {files : Catalog String SourceFile} (h : Built parse files) (uri : String) :
    Built parse (files.erase uri) := by
  intro v f held
  rw [Catalog.get?_erase] at held
  split at held
  · cases held
  · exact h v f held

theorem Built.load {files : Catalog String SourceFile} (h : Built parse files)
    (texts : List (String × String)) :
    Built parse (texts.foldl (fun files e => files.insertNew e.1 (.build parse e.1 e.2 0)) files) := by
  induction texts generalizing files with
  | nil => exact h
  | cons e texts ih => exact ih (h.insertNew e.1 e.2 0)

theorem Built.sound {files : Catalog String SourceFile} (h : Built parse files) :
    Sound parse (ofFiles files) :=
  ⟨h, rfl⟩

namespace Sound

variable {s : Forest}

theorem uri_eq (h : Sound parse s) {uri : String} {f : SourceFile} (held : s.get? uri = some f) :
    f.uri = uri := by
  obtain ⟨text, version, rfl⟩ := h.built uri f held
  rfl

theorem put (h : Sound parse s) (uri text : String) (version : Int) :
    Sound parse (s.put (.build parse uri text version)) :=
  (h.built.insert uri text version).sound

/-- A text is stored, or the forest stays as it is. -/
theorem store (h : Sound parse s) {t : Forest} {uri text : String} {version : Int}
    (stored : t = s ∨ t = s.put (.build parse uri text version)) : Sound parse t := by
  rcases stored with rfl | rfl
  · exact h
  · exact h.put uri text version

theorem remove (h : Sound parse s) (uri : String) : Sound parse (s.remove uri) := by
  unfold Forest.remove
  split
  · exact (h.built.erase uri).sound
  · exact h

/-- One edit. -/
theorem edit (h : Sound parse s) : ∀ e : Edit, Sound parse (s.edit parse e)
  | .set uri text version => h.store (set_eq_or parse s uri text version)
  | .reload uri text version => h.store (reload_eq_or parse s uri text version)
  | .remove uri => h.remove uri
  | .load texts => (h.built.load (parsable parse texts)).sound

end Sound

/-- **Edits lead to sound forests.** -/
theorem sound_after (edits : List Edit) : Sound parse (after parse edits) := by
  induction edits using List.reverseRecOn with
  | nil => exact Built.sound nofun
  | append_singleton edits e ih => exact after_concat parse edits e ▸ ih.edit e

/-! ### The file of a module -/

/-- The file is in the forest and declares the module, and no other file of the forest does. -/
structure IsOnlyFileOf (s : Forest) (module : String) (f : SourceFile) : Prop where
  held : s.get? f.uri = some f
  named : f.module.name = module
  only : ∀ uri g, s.get? uri = some g → g.module.name = module → uri = f.uri

/-- **A forest has a file for a module when one file declares it.** -/
theorem fileOf?_eq_some_iff {s : Forest} (h : Sound parse s) {module : String} {f : SourceFile} :
    s.fileOf? module = some f ↔ s.IsOnlyFileOf module f := by
  have apart : ((s.files.entries.map fun e => (e.1, e.2.module)).map Prod.fst).Nodup := by
    rw [List.map_map]
    exact s.files.nodup_keys
  have index : s.modules = .ofModules (s.files.entries.map fun e => (e.1, e.2.module)) :=
    congrArg Forest.modules h.indexed
  rw [fileOf?, Option.bind_eq_some_iff, index]
  simp only [ModuleIndex.uri?_ofModules_eq_some_iff apart, List.mem_map]
  constructor
  · rintro ⟨uri, ⟨_, ⟨⟨v, g⟩, mem, same⟩, named, only⟩, held⟩
    cases same
    obtain rfl : g = f := Option.some.inj ((Catalog.mem_entries_iff.mp mem).symm.trans held)
    obtain rfl : g.uri = v := h.uri_eq held
    exact ⟨held, named, fun u k hk also => only (u, k.module)
      ⟨(u, k), Catalog.mem_entries_iff.mpr hk, rfl⟩ also⟩
  · rintro ⟨held, named, only⟩
    refine ⟨f.uri, ⟨f.module, ⟨(f.uri, f), Catalog.mem_entries_iff.mpr held, rfl⟩, named, ?_⟩, held⟩
    rintro _ ⟨⟨u, k⟩, hk, rfl⟩ also
    exact only u k (Catalog.mem_entries_iff.mp hk) also

/-- A file is the only one of its module, if of any. -/
theorem IsOnlyFileOf.unique {s : Forest} {module : String} {f g : SourceFile}
    (hf : s.IsOnlyFileOf module f) (hg : s.IsOnlyFileOf module g) : f = g :=
  Option.some.inj (hf.held.symm.trans (hg.only f.uri f hf.held hf.named ▸ hg.held))

end ElmAssist.Forest
