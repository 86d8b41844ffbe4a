import ElmAssist.Proofs.Disk.Normal
import ElmAssist.Proofs.Workspace.Entries

/-!
# Workspace — Directories spelled in different ways

A manifest names directories as its author spells them: with `.`, or with a way down and back up. The
plain spelling takes both out, so that a directory is one place, and a file below it one source, however
often and by whatever ways the manifest comes to it. The disk is not asked: a link is a place of its own,
whatever it leads to.

* `sourcePaths_respelled`: detours in a manifest do not change the directories of the sources.
* `nodup_sourceTexts`: no uri is read twice.
* `spellings_fall_together`: the laws of the plain spelling, and what follows for manifests.
* `respelled_source_read_once`: an application that names its directory in three ways.
-/

namespace ElmAssist

/-- **Detours in a manifest** do not change the directories of the sources. -/
theorem Manifest.sourcePaths_respelled {dirs spelled : List String} (root : Path)
    (respelled : List.Forall₂ (fun d s => Path.Respelled (.ofString d) (.ofString s)) dirs spelled) :
    sourcePaths ⟨.application, spelled⟩ root = sourcePaths ⟨.application, dirs⟩ root := by
  have each : spelled.map (fun s => (root.child s).normalize) =
      dirs.map fun d => (root.child d).normalize := by
    induction respelled with
    | nil => rfl
    | cons h _ ih => exact congrArg₂ List.cons (h.normalize_join root) ih
  exact each

namespace Workspace

variable {machine : Machine} {w : Workspace}

/-- What is found below an absolute root is absolute. -/
theorem isAbsolute_source (h : machine.WellFormed) (absolute : w.root.isAbsolute = true) {p : Path}
    (mem : p ∈ Project.sources machine w.manifest w.root) : p.isAbsolute = true := by
  have found := List.mem_mergeSort.mp (Project.mem_of_mem_withoutRepeats mem)
  obtain ⟨searched, -⟩ := List.mem_filter.mp found
  obtain ⟨dir, directory, mem⟩ := List.mem_flatMap.mp searched
  obtain ⟨listed, -⟩ := List.mem_filter.mp directory
  have start : dir.isAbsolute = true := by
    unfold Manifest.sourcePaths at listed
    split at listed
    · obtain rfl := List.mem_singleton.mp listed
      exact Path.join_absolute absolute _
    · obtain ⟨name, -, rfl⟩ := List.mem_map.mp listed
      exact (Path.isDirect_normalize (Path.join_absolute absolute _)).absolute
  exact Project.GoesDown.search (P := fun p => p.isAbsolute = true)
    (fun _ holds => Path.join_absolute holds _) h.disk start mem

/-- **No uri is read twice** when the root is absolute and the directories of the sources do not go
up. -/
theorem nodup_sourceTexts (h : machine.WellFormed) (absolute : w.root.isAbsolute = true)
    (down : ∀ dir ∈ w.directories, .parent ∉ dir.components) :
    ((w.sourceTexts machine).map Prod.fst).Nodup := by
  have apart : (Project.sources machine w.manifest w.root).Pairwise fun p q =>
      Project.uriOf machine p ≠ Project.uriOf machine q := by
    refine (Project.pairwise_sources machine w.manifest w.root).imp_of_mem fun {p q} first second lt => ?_
    intro same
    have direct {r : Path} (mem : r ∈ Project.sources machine w.manifest w.root) : r.IsDirect :=
      ⟨isAbsolute_source h absolute mem, Project.parent_notMem_sources h.disk down mem⟩
    have uri {r : Path} (mem : r ∈ Project.sources machine w.manifest w.root) :
        Project.uriOf machine r = Uri.ofPath r := by
      unfold Project.uriOf Uri.absolute
      rw [if_pos (direct mem).absolute]
    rw [uri first, uri second] at same
    obtain ⟨r, left, steps⟩ := Uri.path?_ofPath (direct first)
    obtain ⟨s, right, others⟩ := Uri.path?_ofPath (direct second)
    obtain rfl := Option.some.inj ((same ▸ left).symm.trans right)
    have equal := Path.compare_eq_iff_same.mpr (decide_eq_true (steps.symm.trans others))
    rw [equal] at lt
    cases lt
  unfold List.Nodup sourceTexts
  rw [List.pairwise_map, List.pairwise_filterMap]
  refine apart.imp fun {p q} ne => ?_
  intro e first f second
  obtain ⟨-, -, rfl⟩ := Option.map_eq_some_iff.mp first
  obtain ⟨-, -, rfl⟩ := Option.map_eq_some_iff.mp second
  exact ne

end Workspace

open Project in
/-- **All spellings of a place are one.** The plain spelling is that of itself, has no `.`, and has
`..` only at the start of a relative path; and it does not matter whether a path is joined to it or to
another spelling. So detours in a manifest do not count, and each file below a directory that is named
any number of times is listed once, and read once. -/
theorem spellings_fall_together (a b : Path) :
    a.normalize.normalize = a.normalize ∧
    (∃ (k : Nat) (names : List (List UInt8)), (∀ n ∈ names, Path.IsName n) ∧
      a.normalize.components =
        (if a.isAbsolute then [.root] else List.replicate k .parent) ++ names.map .name) ∧
    (a.join b).normalize = (a.normalize.join b).normalize ∧
    (∀ spelled : Path, a.Respelled spelled → spelled.normalize = a.normalize) ∧
    (∀ (root : Path) (dirs spelled : List String),
      List.Forall₂ (fun d s => Path.Respelled (.ofString d) (.ofString s)) dirs spelled →
      Manifest.sourcePaths ⟨.application, spelled⟩ root =
        Manifest.sourcePaths ⟨.application, dirs⟩ root) ∧
    (∀ (m : Machine) (manifest : Manifest) (root dir file : Path),
      dir ∈ manifest.sourcePaths root → m.disk.isDirectory m.cwd dir = true →
      file ∈ search m dir → file.extension? = some (Text.encode "elm") →
      (sources m manifest root).countP (file.same ·) = 1) ∧
    ∀ (m : Machine) (w : Workspace), m.WellFormed → w.manifest.kind = .application →
      w.root.isAbsolute = true → ((w.sourceTexts m).map Prod.fst).Nodup := by
  refine ⟨a.normalize_normalize, ?_, a.normalize_join b, fun _ => Path.Respelled.normalize, ?_, ?_, ?_⟩
  · obtain ⟨k, names, all, spelled⟩ := (Path.stack_kept a).exists_names
    exact ⟨k, names, all, a.components_normalize.trans spelled⟩
  · exact fun root dirs spelled => Manifest.sourcePaths_respelled root
  · exact fun m manifest root dir file => countP_sources
  · intro m w wellFormed application absolute
    refine Workspace.nodup_sourceTexts wellFormed absolute ?_
    refine parent_notMem_sourcePaths absolute fun package => ?_
    rw [application] at package
    cases package

/-- An application that names one directory in three ways. -/
def threeWays : Workspace :=
  ⟨.ofString "/p", ⟨.application, ["src", "./src", "lib/../src"]⟩, .usual, .empty, 0, none, none⟩

/-- The file in the directory that has three names is one source. -/
theorem respelled_source_read_once :
    let machine := Workspace.sourceMachine
    let file := Path.ofString "/p/src/A.elm"
    let dir := Path.ofString "/p/src"
    (Path.ofString "src").Respelled (.ofString "lib/../src") ∧
    (Path.ofString "lib/../src").normalize = (Path.ofString "src").normalize ∧
    threeWays.manifest.sourcePaths threeWays.root =
      Manifest.sourcePaths ⟨.application, ["src", "src", "src"]⟩ threeWays.root ∧
    threeWays.manifest.sourcePaths threeWays.root = [dir, dir, dir] ∧
    file ∈ Project.search machine dir ∧
    (Project.sources machine threeWays.manifest threeWays.root).countP (file.same ·) = 1 ∧
    ((threeWays.sourceTexts machine).map Prod.fst).Nodup := by
  intro machine file dir
  have stay : (Path.ofString "src").Respelled (.ofString "./src") :=
    .single (@Path.Detour.stay _ _ [] ["src".toUTF8.toList] (by decide +kernel) (by decide +kernel)
      (by decide +kernel))
  have back : (Path.ofString "src").Respelled (.ofString "lib/../src") :=
    .single (@Path.Detour.back _ _ [] ["src".toUTF8.toList] "lib".toUTF8.toList (by decide +kernel)
      (by decide +kernel) (by decide +kernel) (by decide +kernel))
  obtain ⟨-, -, -, one, directories, once, twice⟩ :=
    spellings_fall_together (.ofString "src") (.ofString "A.elm")
  have named : threeWays.manifest.sourcePaths threeWays.root = [dir, dir, dir] := by decide +kernel
  have found : file ∈ Project.search machine dir := by decide +kernel
  refine ⟨back, one _ back, ?_, named, found, ?_, ?_⟩
  · exact directories _ _ _ (.cons .refl (.cons stay (.cons back .nil)))
  · refine once machine threeWays.manifest threeWays.root dir file ?_ (by decide +kernel) found
      (by decide +kernel)
    rw [named]
    exact List.mem_cons_self
  · exact twice machine threeWays Workspace.sourceMachine_wellFormed rfl (by decide +kernel)

end ElmAssist
