import ElmAssist.Proofs.Forest.Edits
import ElmAssist.Proofs.Text.ByteOrder
import Mathlib.Data.Finset.Card

/-!
# Forest — The index and the files

The index of modules is made anew with every edit. It says of a module name what the files say that
declare it.

* `SourceFile.IsParsed`: a file is what its text parses to, under the uri that it is held for.
* `IndexAgrees`: what the index says of a name, by the files that declare it.
* `parsed_and_indexed_after`: both hold of every forest that edits lead to. Reading files from disk
  changes none that is held, and a removal none but the one removed.
* `fileOf?_congr`, `urisOf_congr`: of a name, two forests say the same when they hold the same files
  that declare it.
-/

namespace ElmAssist

/-- The file is what its text parses to, under a uri. -/
structure SourceFile.IsParsed (parse : Parser) (uri : String) (f : SourceFile) : Prop where
  uri_eq : f.uri = uri
  tree_eq : f.tree = .ofRows f.text (parse f.text)
  module_eq : f.module = .ofTree f.tree
  lines_eq : f.lines = .ofText f.text

namespace Forest

variable {parse : Parser} {s t : Forest} {uri module : String}

/-- The file of a uri declares a module. -/
def Declares (s : Forest) (uri module : String) : Prop :=
  ∃ f, s.get? uri = some f ∧ f.module.name = module

/-- The index says of a module name what the files of the forest say. -/
structure IndexAgrees (s : Forest) (module : String) : Prop where
  /-- A uri stands for the name when its file is the only one to declare it. -/
  uri_iff : ∀ uri, s.modules.uri? module = some uri ↔
    s.Declares uri module ∧ ∀ other, s.Declares other module → other = uri
  duplicate_iff : s.modules.isDuplicate module = true ↔
    ∃ uri other, uri ≠ other ∧ s.Declares uri module ∧ s.Declares other module
  contains_iff : s.modules.contains module = true ↔ ∃ uri, s.Declares uri module
  /-- The list for the name has the uris of all files that declare it, and no other, -/
  mem_iff : ∀ uri, uri ∈ s.modules.urisOf module ↔ s.Declares uri module
  /-- each once, in the order of their bytes. -/
  increasing : (s.modules.urisOf module).Pairwise fun u v => Text.encode u < Text.encode v
  file_iff : ∀ f, s.fileOf? module = some f ↔ s.IsOnlyFileOf module f

/-! ### What is listed -/

theorem urisOf_eq (h : Sound parse s) (module : String) :
    s.modules.urisOf module =
      (s.files.entries.filter fun e => e.2.module.name == module).map Prod.fst := by
  have index : s.modules = .ofModules (s.files.entries.map fun e => (e.1, e.2.module)) :=
    congrArg Forest.modules h.indexed
  rw [index, ModuleIndex.urisOf_ofModules, List.filter_map, List.map_map]
  rfl

theorem mem_urisOf_iff (h : Sound parse s) : uri ∈ s.modules.urisOf module ↔ s.Declares uri module := by
  rw [urisOf_eq h, List.mem_map]
  constructor
  · rintro ⟨⟨v, f⟩, mem, rfl⟩
    obtain ⟨held, named⟩ := List.mem_filter.mp mem
    exact ⟨f, Catalog.mem_entries_iff.mp held, beq_iff_eq.mp named⟩
  · rintro ⟨f, held, named⟩
    exact ⟨(uri, f), List.mem_filter.mpr ⟨Catalog.mem_entries_iff.mpr held, beq_iff_eq.mpr named⟩,
      rfl⟩

theorem urisOf_increasing (h : Sound parse s) (module : String) :
    (s.modules.urisOf module).Pairwise fun u v => Text.encode u < Text.encode v := by
  rw [urisOf_eq h, List.pairwise_map]
  refine (s.files.increasing.filter _).imp fun {e f} less => ?_
  exact (Text.encode_lt_encode ..).mpr (compareOfLessAndEq_eq_lt.mp less)

theorem urisOf_nodup (h : Sound parse s) (module : String) : (s.modules.urisOf module).Nodup := by
  refine (urisOf_increasing h module).imp fun {u v} less => ?_
  rintro rfl
  exact List.lt_irrefl _ less

/-! ### What the index says of a name -/

theorem uri?_iff (h : Sound parse s) :
    s.modules.uri? module = some uri ↔
      s.Declares uri module ∧ ∀ other, s.Declares other module → other = uri := by
  simp only [ModuleIndex.uri?_eq_some_iff, ← mem_urisOf_iff h]
  constructor
  · intro one
    simp [one]
  · rintro ⟨mem, only⟩
    refine List.perm_singleton.mp ((List.perm_ext_iff_of_nodup (urisOf_nodup h module)
      (List.nodup_singleton uri)).mpr fun v => ?_)
    rw [List.mem_singleton]
    exact ⟨only v, fun same => same ▸ mem⟩

theorem isDuplicate_iff (h : Sound parse s) :
    s.modules.isDuplicate module = true ↔
      ∃ uri other, uri ≠ other ∧ s.Declares uri module ∧ s.Declares other module := by
  simp only [← mem_urisOf_iff h]
  rw [ModuleIndex.isDuplicate, decide_eq_true_iff,
    ← List.toFinset_card_of_nodup (urisOf_nodup h module), Finset.one_lt_card]
  simp only [List.mem_toFinset]
  constructor
  · rintro ⟨u, hu, v, hv, apart⟩
    exact ⟨u, v, apart, hu, hv⟩
  · rintro ⟨u, v, apart, hu, hv⟩
    exact ⟨u, hu, v, hv, apart⟩

theorem contains_iff (h : Sound parse s) :
    s.modules.contains module = true ↔ ∃ uri, s.Declares uri module := by
  have index : s.modules = .ofModules (s.files.entries.map fun e => (e.1, e.2.module)) :=
    congrArg Forest.modules h.indexed
  rw [index, ModuleIndex.contains_ofModules_iff]
  constructor
  · rintro ⟨_, mem, named⟩
    obtain ⟨⟨uri, f⟩, held, rfl⟩ := List.mem_map.mp mem
    exact ⟨uri, f, Catalog.mem_entries_iff.mp held, named⟩
  · rintro ⟨uri, f, held, named⟩
    exact ⟨_, List.mem_map_of_mem (Catalog.mem_entries_iff.mpr held), named⟩

theorem Sound.indexAgrees (h : Sound parse s) (module : String) : s.IndexAgrees module where
  uri_iff _ := uri?_iff h
  duplicate_iff := isDuplicate_iff h
  contains_iff := contains_iff h
  mem_iff _ := mem_urisOf_iff h
  increasing := urisOf_increasing h module
  file_iff _ := fileOf?_eq_some_iff h

/-! ### Files -/

theorem Sound.isParsed (h : Sound parse s) {f : SourceFile} (held : s.get? uri = some f) :
    f.IsParsed parse uri := by
  obtain ⟨text, version, rfl⟩ := h.built uri f held
  exact ⟨rfl, rfl, rfl, rfl⟩

theorem get?_put (s : Forest) (f : SourceFile) (uri : String) :
    (s.put f).get? uri = if uri = f.uri then some f else s.get? uri :=
  Catalog.get?_insert ..

theorem get?_remove (s : Forest) (gone uri : String) :
    (s.remove gone).get? uri = if uri = gone then none else s.get? uri := by
  unfold remove
  split
  · exact Catalog.get?_erase ..
  · rename_i missing
    split
    · rename_i same
      rw [Catalog.contains_eq_isSome] at missing
      rw [same]
      exact Option.not_isSome_iff_eq_none.mp missing
    · rfl

theorem mem_uris_iff : uri ∈ s.uris ↔ ∃ f, s.get? uri = some f := by
  unfold uris Catalog.keys
  rw [List.mem_map]
  constructor
  · rintro ⟨⟨uri, f⟩, entry, rfl⟩
    exact ⟨f, Catalog.mem_entries_iff.mp entry⟩
  · rintro ⟨f, held⟩
    exact ⟨(uri, f), Catalog.mem_entries_iff.mpr held, rfl⟩

theorem mem_importers_iff (h : Sound parse s) :
    uri ∈ s.importers module ↔ ∃ f, s.get? uri = some f ∧ f.module.importsModule module = true := by
  unfold importers Catalog.values
  rw [List.mem_map]
  constructor
  · rintro ⟨f, mem, rfl⟩
    obtain ⟨listed, imports⟩ := List.mem_filter.mp mem
    obtain ⟨⟨uri, f⟩, entry, rfl⟩ := List.mem_map.mp listed
    have held : s.get? uri = some f := Catalog.mem_entries_iff.mp entry
    exact ⟨f, h.uri_eq held ▸ held, imports⟩
  · rintro ⟨f, held, imports⟩
    have listed : f ∈ s.files.entries.map Prod.snd :=
      List.mem_map_of_mem (Catalog.mem_entries_iff.mpr held)
    exact ⟨f, List.mem_filter.mpr ⟨listed, imports⟩, h.uri_eq held⟩

/-- Reading files from disk changes none that is held. -/
theorem get?_load {f : SourceFile} (texts : List (String × String)) (held : s.get? uri = some f) :
    (s.load parse texts).get? uri = some f := by
  unfold load
  change ((parsable parse texts).foldl _ s.files).get? uri = some f
  replace held : s.files.get? uri = some f := held
  generalize s.files = files at held
  induction parsable parse texts generalizing files with
  | nil => exact held
  | cons e texts ih =>
    refine ih _ ?_
    rw [Catalog.get?_insertNew]
    split
    · rename_i same
      rw [← same, held]
      rfl
    · exact held

/-- **Every file is what its text parses to, and the index is that of the files**, after any edits.
Reading files from disk changes none that is held, and a removal none but the one removed. -/
theorem parsed_and_indexed_after (parse : Parser) (edits : List Edit) :
    let s := after parse edits
    (∀ uri f, s.get? uri = some f → f.IsParsed parse uri) ∧
    (∀ module, s.IndexAgrees module) ∧
    (∀ texts uri f, s.get? uri = some f → (s.load parse texts).get? uri = some f) ∧
    ∀ gone uri, (s.remove gone).get? uri = if uri = gone then none else s.get? uri := by
  intro s
  have h : Sound parse s := sound_after edits
  exact ⟨fun uri f held => h.isParsed held, h.indexAgrees, fun texts uri f held => get?_load texts held,
    get?_remove s⟩

/-! ### Forests that say the same of a module -/

/-- Two forests hold the same files that declare a module. -/
def SameFilesOf (s t : Forest) (module : String) : Prop :=
  ∀ uri f, f.module.name = module → (s.get? uri = some f ↔ t.get? uri = some f)

theorem SameFilesOf.declares_iff (same : s.SameFilesOf t module) :
    s.Declares uri module ↔ t.Declares uri module :=
  exists_congr fun f => and_congr_left fun named => same uri f named

/-- Forests that differ in one file hold the same files that declare a module which that file
declares in neither. -/
theorem SameFilesOf.of_apart {changed : String} (elsewhere : ∀ u, u ≠ changed → s.get? u = t.get? u)
    (hs : ¬ s.Declares changed module) (ht : ¬ t.Declares changed module) :
    s.SameFilesOf t module := by
  intro u f named
  by_cases same : u = changed
  · subst same
    exact iff_of_false (fun held => hs ⟨f, held, named⟩) fun held => ht ⟨f, held, named⟩
  · rw [elsewhere u same]

theorem urisOf_congr (hs : Sound parse s) (ht : Sound parse t)
    (same : ∀ uri, s.Declares uri module ↔ t.Declares uri module) :
    s.modules.urisOf module = t.modules.urisOf module := by
  refine List.Perm.eq_of_pairwise (fun u v _ _ less more => absurd more (List.lt_asymm less))
    (urisOf_increasing hs module) (urisOf_increasing ht module) ?_
  refine (List.perm_ext_iff_of_nodup (urisOf_nodup hs module) (urisOf_nodup ht module)).mpr
    fun uri => ?_
  rw [mem_urisOf_iff hs, mem_urisOf_iff ht, same]

theorem fileOf?_congr (hs : Sound parse s) (ht : Sound parse t) (same : s.SameFilesOf t module) :
    s.fileOf? module = t.fileOf? module := by
  refine Option.ext fun f => ?_
  rw [fileOf?_eq_some_iff hs, fileOf?_eq_some_iff ht]
  constructor
  · rintro ⟨held, named, only⟩
    exact ⟨(same _ f named).mp held, named, fun uri g hg also =>
      only uri g ((same uri g also).mpr hg) also⟩
  · rintro ⟨held, named, only⟩
    exact ⟨(same _ f named).mpr held, named, fun uri g hg also =>
      only uri g ((same uri g also).mp hg) also⟩

end Forest

end ElmAssist
