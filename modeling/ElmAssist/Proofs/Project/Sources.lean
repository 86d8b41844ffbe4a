import ElmAssist.Project.Sources
import ElmAssist.Proofs.Uri.File

/-!
# Project — Where sources are found

A search goes down from its start, from name to name. So a source has a path that does not go up when
the directories of the sources have such paths, and its uri is a plain one.

* `Entry.WellNamed`: the entries of a disk have names.
* `GoesDown.search`: a search goes down, from name to name.
* `parent_notMem_sourcePaths`: the projects with directories of sources that do not go up.
* `pairwise_sources`, `countP_sources`: the sources are in order, and each stands once.
* `isPlain_uriOf_source`: the uris of the sources.
-/

namespace ElmAssist

/-! ### Disks -/

/-- Every entry at or below has a name that an entry may have. -/
inductive Entry.WellNamed : Entry → Prop
  | file (content : List UInt8) (runnable : Bool) : WellNamed (.file content runnable)
  | link (target : Path) : WellNamed (.link target)
  | directory {entries : List (Name × Entry)} (named : ∀ e ∈ entries, Path.IsName e.1)
      (below : ∀ e ∈ entries, WellNamed e.2) : WellNamed (.directory entries)

namespace Entry

theorem WellNamed.lookup {entries : List (Name × Entry)} {n : Name} {e : Entry}
    (h : (Entry.directory entries).WellNamed) (found : entries.lookup n = some e) : e.WellNamed := by
  cases h with
  | directory _ below =>
    obtain ⟨before, after, split, -⟩ := List.lookup_eq_some_iff.mp found
    have mem : (n, e) ∈ entries := by
      rw [split]
      exact List.mem_append_right _ List.mem_cons_self
    exact below (n, e) mem

theorem WellNamed.at? {place : Place} {e f : Entry} (h : e.WellNamed)
    (there : e.at? place = some f) : f.WellNamed := by
  induction place generalizing e with
  | nil =>
    obtain rfl := Option.some.inj there
    exact h
  | cons n place ih =>
    obtain ⟨g, found, rest⟩ := Option.bind_eq_some_iff.mp there
    cases e with
    | file | link => cases found
    | directory entries => exact ih (h.lookup found) rest

theorem mem_setEntry {n : Name} {e : Entry} {x : Name × Entry} : ∀ {entries : List (Name × Entry)},
    x ∈ setEntry entries n e → x = (n, e) ∨ x ∈ entries
  | [], mem => Or.inl (List.mem_singleton.mp mem)
  | (m, f) :: rest, mem => by
    rw [setEntry] at mem
    split at mem
    · exact (List.mem_cons.mp mem).imp_right (List.mem_cons_of_mem _)
    · rcases List.mem_cons.mp mem with rfl | mem
      · exact Or.inr List.mem_cons_self
      · exact (mem_setEntry mem).imp_right (List.mem_cons_of_mem _)

/-- What is put at a place of names leaves a disk whose entries have names. -/
theorem WellNamed.put {new : Entry} (hnew : new.WellNamed) {place : Place}
    (names : ∀ n ∈ place, Path.IsName n) {e : Entry} (h : e.WellNamed) :
    (Entry.put new place e).WellNamed := by
  induction place generalizing e with
  | nil => exact hnew
  | cons n place ih =>
    obtain ⟨name, later⟩ := List.forall_mem_cons.mp names
    cases e with
    | file | link => exact h
    | directory entries =>
      have inner : ((entries.lookup n).getD emptyDirectory).WellNamed := by
        cases found : entries.lookup n with
        | none => exact .directory nofun nofun
        | some e => exact h.lookup found
      obtain ⟨named, below⟩ : (∀ e ∈ entries, Path.IsName e.1) ∧ ∀ e ∈ entries, e.2.WellNamed := by
        cases h with
        | directory named below => exact ⟨named, below⟩
      refine .directory (fun x mem => ?_) fun x mem => ?_
      · rcases mem_setEntry mem with rfl | mem
        · exact name
        · exact named x mem
      · rcases mem_setEntry mem with rfl | mem
        · exact ih later inner
        · exact below x mem

end Entry

/-- A machine as its system shows it: the working directory has a direct path, and entries have
names. -/
structure Machine.WellFormed (m : Machine) : Prop where
  cwd : m.cwd.IsDirect
  disk : m.disk.root.WellNamed

namespace Project

variable {m : Machine}

/-! ### Searches -/

/-- What holds of a path holds of all paths that go down from it, from name to name. -/
def GoesDown (P : Path → Prop) : Prop :=
  ∀ {p : Path} {n : Name}, Path.IsName n → P p → P (p.join ⟨n⟩)

variable {P : Path → Prop}

mutual

theorem GoesDown.filesBelow (down : GoesDown P) {scope : Scope} {p q : Path} (start : P p) :
    ∀ {e : Entry}, e.WellNamed → q ∈ filesBelow m scope p e → P q
  | .file .., _, mem => by
    obtain rfl := List.mem_singleton.mp mem
    exact start
  | .directory entries, .directory named below, mem => down.filesAmong start named below mem

theorem GoesDown.filesAmong (down : GoesDown P) {scope : Scope} {dir q : Path} (start : P dir) :
    ∀ {entries : List (Name × Entry)}, (∀ e ∈ entries, Path.IsName e.1) →
      (∀ e ∈ entries, e.2.WellNamed) → q ∈ filesAmong m scope dir entries → P q
  | (n, e) :: rest, named, below, mem => by
    obtain ⟨name, names⟩ := List.forall_mem_cons.mp named
    obtain ⟨first, later⟩ := List.forall_mem_cons.mp below
    rw [Project.filesAmong] at mem
    rcases List.mem_append.mp mem with mem | mem
    · split at mem
      · cases mem
      · exact down.filesBelow (down name start) first mem
    · exact down.filesAmong start names later mem

end

/-- **A search goes down** from its start. -/
theorem GoesDown.search (down : GoesDown P) {start q : Path} (disk : m.disk.root.WellNamed)
    (holds : P start) (mem : q ∈ search m start) : P q := by
  unfold Project.search at mem
  split at mem
  · cases mem
  · rename_i e found
    obtain ⟨place, -, there⟩ := Option.bind_eq_some_iff.mp found
    exact down.filesBelow holds (disk.at? there) mem

/-- What a search finds is not found by going up. -/
theorem parent_notMem_search {start q : Path} (disk : m.disk.root.WellNamed)
    (down : .parent ∉ start.components) (mem : q ∈ search m start) : .parent ∉ q.components :=
  GoesDown.search (P := fun p => .parent ∉ p.components) Path.parent_notMem_join disk down mem

/-! ### Sources -/

theorem mem_of_mem_withoutRepeatsAfter {q : Path} (last : Path) : ∀ {ps : List Path},
    q ∈ withoutRepeats.withoutRepeatsAfter last ps → q ∈ ps
  | p :: ps, mem => by
    rw [withoutRepeats.withoutRepeatsAfter] at mem
    split at mem
    · exact List.mem_cons_of_mem _ (mem_of_mem_withoutRepeatsAfter last mem)
    · rcases List.mem_cons.mp mem with rfl | mem
      · exact List.mem_cons_self
      · exact List.mem_cons_of_mem _ (mem_of_mem_withoutRepeatsAfter p mem)

theorem mem_of_mem_withoutRepeats {q : Path} {ps : List Path} (mem : q ∈ withoutRepeats ps) :
    q ∈ ps := by
  cases ps with
  | nil => cases mem
  | cons p ps =>
    rcases List.mem_cons.mp mem with rfl | mem
    · exact List.mem_cons_self
    · exact List.mem_cons_of_mem _ (mem_of_mem_withoutRepeatsAfter p mem)

/-- The directories of the sources do not go up when the project has an absolute path, which for a
package does not go up either. -/
theorem parent_notMem_sourcePaths {manifest : Manifest} {root : Path}
    (absolute : root.isAbsolute = true)
    (package : manifest.kind = .package → .parent ∉ root.components) :
    ∀ dir ∈ manifest.sourcePaths root, .parent ∉ dir.components := by
  intro dir mem
  unfold Manifest.sourcePaths at mem
  split at mem
  · rename_i kind
    obtain rfl := List.mem_singleton.mp mem
    have name : Path.IsName (Text.encode "src") := by decide +kernel
    exact Path.parent_notMem_join name (package kind)
  · obtain ⟨name, -, rfl⟩ := List.mem_map.mp mem
    exact (Path.isDirect_normalize (Path.join_absolute absolute _)).no_parent

/-- No source is found by going up when no directory of sources is. -/
theorem parent_notMem_sources {manifest : Manifest} {root p : Path} (disk : m.disk.root.WellNamed)
    (down : ∀ dir ∈ manifest.sourcePaths root, .parent ∉ dir.components)
    (mem : p ∈ sources m manifest root) : .parent ∉ p.components := by
  have found := List.mem_mergeSort.mp (mem_of_mem_withoutRepeats mem)
  obtain ⟨searched, -⟩ := List.mem_filter.mp found
  obtain ⟨dir, directory, mem⟩ := List.mem_flatMap.mp searched
  obtain ⟨listed, -⟩ := List.mem_filter.mp directory
  exact parent_notMem_search disk (down dir listed) mem

/-! ### Sources stand once -/

/-- Behind a path, in a list in order, only later ones stay. -/
theorem pairwise_withoutRepeatsAfter {ps : List Path} {last : Path}
    (inOrder : (last :: ps).Pairwise fun p q => (compare p q).isLE = true) :
    (last :: withoutRepeats.withoutRepeatsAfter last ps).Pairwise fun p q => compare p q = .lt := by
  induction ps generalizing last with
  | nil => exact List.pairwise_singleton _ _
  | cons p ps ih =>
    rw [withoutRepeats.withoutRepeatsAfter]
    by_cases repeated : last.same p = true
    · rw [if_pos repeated]
      exact ih (inOrder.sublist ((List.sublist_cons_self p ps).cons_cons last))
    · have later := ih (List.pairwise_cons.mp inOrder).2
      have first : compare last p = .lt := by
        have notAfter := (List.pairwise_cons.mp inOrder).1 p List.mem_cons_self
        cases order : compare last p with
        | lt => rfl
        | eq => exact absurd (Path.compare_eq_iff_same.mp order) repeated
        | gt => simp [order] at notAfter
      rw [if_neg repeated]
      refine List.pairwise_cons.mpr ⟨fun q mem => ?_, later⟩
      rcases List.mem_cons.mp mem with rfl | mem
      · exact first
      · exact Std.TransCmp.lt_trans first ((List.pairwise_cons.mp later).1 q mem)

/-- What is left out is repeated. -/
theorem exists_same_withoutRepeatsAfter {ps : List Path} {f last : Path} (mem : f ∈ last :: ps) :
    ∃ g ∈ last :: withoutRepeats.withoutRepeatsAfter last ps, f.same g = true := by
  have self (p : Path) : p.same p = true := decide_eq_true rfl
  induction ps generalizing last with
  | nil =>
    obtain rfl := List.mem_singleton.mp mem
    exact ⟨f, List.mem_cons_self, self f⟩
  | cons p ps ih =>
    rw [withoutRepeats.withoutRepeatsAfter]
    rcases List.mem_cons.mp mem with rfl | mem
    · exact ⟨f, List.mem_cons_self, self f⟩
    · by_cases repeated : last.same p = true
      · rw [if_pos repeated]
        rcases List.mem_cons.mp mem with rfl | mem
        · exact ⟨last, List.mem_cons_self, decide_eq_true (of_decide_eq_true repeated).symm⟩
        · exact ih (List.mem_cons_of_mem _ mem)
      · rw [if_neg repeated]
        obtain ⟨g, stays, same⟩ := ih mem
        exact ⟨g, List.mem_cons_of_mem _ stays, same⟩

theorem pairwise_sorted (files : List Path) :
    (sorted files).Pairwise fun p q => (compare p q).isLE = true := by
  have bool (p q : Path) : (compare p q != .gt) = (compare p q).isLE := by
    cases compare p q <;> rfl
  unfold sorted
  simp only [bool]
  refine List.pairwise_mergeSort (fun p q r => Std.TransCmp.isLE_trans) (fun p q => ?_) files
  rw [Std.OrientedOrd.eq_swap (a := q)]
  cases compare p q <;> rfl

/-- **The sources are in order**, and no two are spellings of one path. -/
theorem pairwise_sources (m : Machine) (manifest : Manifest) (root : Path) :
    (sources m manifest root).Pairwise fun p q => compare p q = .lt := by
  have inOrder (files : List Path) :
      (withoutRepeats (sorted files)).Pairwise fun p q => compare p q = .lt := by
    cases list : sorted files with
    | nil => exact .nil
    | cons p ps => exact pairwise_withoutRepeatsAfter (list ▸ pairwise_sorted files)
  exact inOrder _

/-- A file with an Elm name below a directory of sources is a source. -/
theorem exists_source {manifest : Manifest} {root dir f : Path}
    (listed : dir ∈ manifest.sourcePaths root) (directory : m.disk.isDirectory m.cwd dir = true)
    (found : f ∈ search m dir) (elm : f.extension? = some (Text.encode "elm")) :
    ∃ g ∈ sources m manifest root, f.same g = true := by
  have mem : f ∈ sorted ((((manifest.sourcePaths root).filter (m.disk.isDirectory m.cwd ·)).flatMap
      (search m)).filter fun p => p.extension? = some (Text.encode "elm")) :=
    List.mem_mergeSort.mpr (List.mem_filter.mpr ⟨List.mem_flatMap.mpr
      ⟨dir, List.mem_filter.mpr ⟨listed, directory⟩, found⟩, decide_eq_true elm⟩)
  unfold sources
  dsimp only
  generalize sorted _ = files at mem
  cases files with
  | nil => cases mem
  | cons p ps => exact exists_same_withoutRepeatsAfter mem

/-- **A file is one source**, whatever number of directories of sources lead to it. -/
theorem countP_sources {manifest : Manifest} {root dir f : Path}
    (listed : dir ∈ manifest.sourcePaths root) (directory : m.disk.isDirectory m.cwd dir = true)
    (found : f ∈ search m dir) (elm : f.extension? = some (Text.encode "elm")) :
    (sources m manifest root).countP (f.same ·) = 1 := by
  obtain ⟨g, mem, same⟩ := exists_source listed directory found elm
  obtain ⟨before, after, split⟩ := List.append_of_mem mem
  have inOrder := pairwise_sources m manifest root
  rw [split] at inOrder ⊢
  obtain ⟨-, later, earlier⟩ := List.pairwise_append.mp inOrder
  have other {h : Path} (apart : compare h g = .lt ∨ compare g h = .lt) : ¬ f.same h = true := by
    intro again
    have together : g.same h = true :=
      decide_eq_true ((of_decide_eq_true same).symm.trans (of_decide_eq_true again))
    have equal := Path.compare_eq_iff_same.mpr together
    rcases apart with lt | lt
    · rw [Std.OrientedCmp.eq_comm.mp equal] at lt
      cases lt
    · rw [equal] at lt
      cases lt
  have noneBefore : before.countP (f.same ·) = 0 :=
    List.countP_eq_zero.mpr fun h mem => other (Or.inl (earlier h mem g List.mem_cons_self))
  have noneAfter : after.countP (f.same ·) = 0 :=
    List.countP_eq_zero.mpr fun h mem => other (Or.inr ((List.pairwise_cons.mp later).1 h mem))
  rw [List.countP_append, List.countP_cons_of_pos same, noneBefore, noneAfter]

/-! ### Uris of sources -/

/-- **The uri of a source is a plain one.** -/
theorem isPlain_uriOf_source {manifest : Manifest} {root p : Path} (h : m.WellFormed)
    (down : ∀ dir ∈ manifest.sourcePaths root, .parent ∉ dir.components)
    (mem : p ∈ sources m manifest root) : Uri.IsPlain (uriOf m p) :=
  Uri.isPlain_ofPath (Uri.isDirect_absolute h.cwd (parent_notMem_sources h.disk down mem))

end Project

end ElmAssist
