import ElmAssist.Diagnostic.Check
import ElmAssist.Proofs.Forest.Index
import ElmAssist.Tree.Heading

/-!
# Name — What a file sees of other files

A file sees other files only through the modules that it imports, and through the list of those that
declare its own. Nothing further away counts: not what an imported file imports in turn, and not how
many files there are.

`LooksAlike s t m` says that two forests look alike from a file of module `m`: for each import of
`m`, the implied ones included, they have the same file or the same reason why there is none
(`ImportsAlike`), and for the name of `m` they list the same uris.

**Locality** (`check_and_resolve_local`). If two forests hold the same file and look alike from it,
the live check says the same of it in both, and every node of it has the same definition in both.
Left out are nodes that name a module themselves, in an import, where this is none of the recorded
imports of the file: an import that stands below source that does not parse is not recorded.

* `moduleFile_congr`: forests that hold the same files of a module answer the same for it.
-/

namespace ElmAssist

/-- The module that a reference in an import names itself. -/
def Reference.moduleNamed? : Reference → Option String
  | .module m => some m
  | .exposedBy m _ _ => some m
  | _ => Option.none

namespace Forest

/-- Two forests answer the same for each module that is imported. -/
structure ImportsAlike (s t : Forest) (m : Module) : Prop where
  imported : ∀ i ∈ m.imports, s.moduleFile i.module = t.moduleFile i.module

/-- From a file of the given module, two forests look alike: they also list the same uris for that
module itself. -/
structure LooksAlike (s t : Forest) (m : Module) : Prop extends ImportsAlike s t m where
  declared : s.modules.urisOf m.name = t.modules.urisOf m.name

variable {parse : Parser} {s t : Forest} {m : Module} {f : SourceFile} {module name : String}
  {ns : Namespace} {i : Import}

/-! ### Modules -/

theorem moduleFile_congr (hs : Sound parse s) (ht : Sound parse t)
    (same : s.SameFilesOf t module) : s.moduleFile module = t.moduleFile module := by
  have listed : s.modules.urisOf module = t.modules.urisOf module :=
    urisOf_congr hs ht fun _ => same.declares_iff
  have duplicate : s.modules.isDuplicate module = t.modules.isDuplicate module := by
    rw [ModuleIndex.isDuplicate, ModuleIndex.isDuplicate, listed]
  unfold moduleFile
  rw [fileOf?_congr hs ht same, duplicate]

theorem resolveModule_congr (same : s.moduleFile module = t.moduleFile module) :
    s.resolveModule module = t.resolveModule module := by
  unfold resolveModule
  rw [same]

/-! ### One import -/

theorem candidate?_congr (same : s.moduleFile i.module = t.moduleFile i.module) :
    s.candidate? name ns i = t.candidate? name ns i := by
  unfold candidate?
  rw [same]

theorem mayExpose_congr (same : s.moduleFile i.module = t.moduleFile i.module) :
    s.mayExpose name ns i = t.mayExpose name ns i := by
  unfold mayExpose
  rw [same]

/-! ### All imports -/

namespace ImportsAlike

variable (h : s.ImportsAlike t m)
include h

theorem throughImports_eq (name : String) (ns : Namespace) :
    s.throughImports m name ns = t.throughImports m name ns := by
  have offered : m.imports.filterMap (s.candidate? name ns) =
      m.imports.filterMap (t.candidate? name ns) :=
    List.filterMap_congr fun i mem => candidate?_congr (h.imported i mem)
  have first : m.imports.find? (s.mayExpose name ns) = m.imports.find? (t.mayExpose name ns) := by
    rw [← List.head?_filter, ← List.head?_filter,
      List.filter_congr fun i mem => mayExpose_congr (h.imported i mem)]
  unfold throughImports
  rw [offered, first]

theorem importsOf_moduleFile {q : String} (mem : i ∈ importsOf m q) :
    s.moduleFile i.module = t.moduleFile i.module :=
  h.imported i (List.mem_of_mem_filter mem)

theorem qualified_eq (access : Access) (q name : String) (ns : Namespace) :
    s.qualified access m q name ns = t.qualified access m q name ns := by
  have files : (importsOf m q).map (fun i => (i.module, s.moduleFile i.module)) =
      (importsOf m q).map fun i => (i.module, t.moduleFile i.module) :=
    List.map_congr_left fun i mem => by rw [h.importsOf_moduleFile mem]
  unfold qualified
  rw [files]

theorem resolveQualifier_eq (q : String) : s.resolveQualifier m q = t.resolveQualifier m q := by
  have modules : ∀ i ∈ importsOf m q, s.resolveModule i.module = t.resolveModule i.module :=
    fun i mem => resolveModule_congr (h.importsOf_moduleFile mem)
  unfold resolveQualifier
  generalize importsOf m q = imports at modules
  cases imports with
  | nil => rfl
  | cons i rest =>
    have found : (i :: rest).findSome? (fun j => (s.resolveModule j.module).toOption) =
        (i :: rest).findSome? fun j => (t.resolveModule j.module).toOption := by
      rw [← List.head?_filterMap, ← List.head?_filterMap,
        List.filterMap_congr fun j mem => by rw [modules j mem]]
    dsimp only
    rw [found, modules i List.mem_cons_self]

end ImportsAlike

/-! ### One file -/

section

variable (h : s.ImportsAlike t f.module) (access : Access)
include h

/-- A reference has the same definition in both forests; one that names a module itself, when that
is imported. -/
theorem ImportsAlike.resolveReference_eq (i : NodeId) {r : Reference}
    (known : ∀ module, r.moduleNamed? = some module → ∃ j ∈ f.module.imports, j.module = module) :
    s.resolveReference access f i r = t.resolveReference access f i r := by
  have answers : ∀ module, r.moduleNamed? = some module →
      s.moduleFile module = t.moduleFile module := fun module named => by
    obtain ⟨j, mem, rfl⟩ := known module named
    exact h.imported j mem
  cases r with
  | unqualified name ns =>
    change s.unqualified f i name ns = t.unqualified f i name ns
    unfold unqualified
    rw [h.throughImports_eq]
  | qualified q name ns => exact h.qualified_eq access q name ns
  | qualifier q => exact h.resolveQualifier_eq q
  | module m => exact resolveModule_congr (answers m rfl)
  | exposedBy m name ns => rw [resolveReference, resolveReference, answers m rfl]
  | site | exposedHere | none => rfl

/-- The live check looks at names without a definition only, and at none that an import names. -/
theorem ImportsAlike.unresolvedAt?_eq (i : NodeId) :
    s.unresolvedAt? access f i = t.unresolvedAt? access f i := by
  have same : ∀ r : Reference, r.moduleNamed? = none →
      s.resolveReference access f i r = t.resolveReference access f i r := fun r unnamed =>
    h.resolveReference_eq access i fun module named => nomatch unnamed.symm.trans named
  unfold unresolvedAt?
  cases Reference.ofNode f.tree i with
  | unqualified name ns =>
    dsimp only
    rw [same (.unqualified name ns) rfl]
  | qualified q name ns =>
    dsimp only
    rw [same (.qualified q name ns) rfl]
  | site | qualifier | module | exposedHere | exposedBy | none => rfl

theorem ImportsAlike.check_eq {uri : String} (hs : s.get? uri = some f) (ht : t.get? uri = some f)
    (declared : s.duplications f = t.duplications f) : s.check access uri = t.check access uri := by
  have names : s.unresolved access f = t.unresolved access f :=
    List.filterMap_congr fun i _ => h.unresolvedAt?_eq access i
  unfold check
  rw [hs, ht]
  dsimp only
  rw [declared, names]

end

theorem duplications_congr (same : s.modules.urisOf f.module.name = t.modules.urisOf f.module.name) :
    s.duplications f = t.duplications f := by
  unfold duplications ModuleIndex.isDuplicate
  rw [same]

/-- **Locality.** If two forests hold the same file and look alike from it, the live check says the
same of it in both, and every node of it has the same definition in both, unless it stands in an
unrecorded import and names a module there. -/
theorem check_and_resolve_local {s t : Forest} {uri : String} {f : SourceFile}
    (hs : s.get? uri = some f) (ht : t.get? uri = some f) (alike : s.LooksAlike t f.module)
    (access : Access) :
    s.check access uri = t.check access uri ∧
    ∀ i, (∀ module, (Reference.ofNode f.tree i).moduleNamed? = some module →
        ∃ j ∈ f.module.imports, j.module = module) →
      s.resolve access uri i = t.resolve access uri i := by
  refine ⟨alike.check_eq access hs ht (duplications_congr alike.declared), fun i known => ?_⟩
  unfold resolve
  rw [hs, ht]
  exact alike.resolveReference_eq access i known

/-- A file that imports `B`. -/
def importsB : SourceFile :=
  .build Heading.rows "file:///A.elm" "module A\nimport B" 1

/-- `A` imports `B`, which imports `C`: from the file of `A` it makes no difference that `C` comes. -/
theorem far_file_unseen :
    let s := after Heading.rows
      [.set "file:///A.elm" "module A\nimport B" 1, .set "file:///B.elm" "module B\nimport C" 1]
    let t := s.edit Heading.rows (.set "file:///C.elm" "module C" 1)
    s.check .exposedOnly "file:///A.elm" = t.check .exposedOnly "file:///A.elm" ∧
      s.resolve .exposedOnly "file:///A.elm" 5 = t.resolve .exposedOnly "file:///A.elm" 5 := by
  intro s t
  have hs : Sound Heading.rows s := sound_after _
  have held : s.get? "file:///A.elm" = some importsB := rfl
  have stored : t = s.put (.build Heading.rows "file:///C.elm" "module C" 1) := rfl
  have elsewhere (uri : String) (apart : uri ≠ "file:///C.elm") : s.get? uri = t.get? uri := by
    rw [stored, get?_put]
    exact (if_neg apart).symm
  have alike : s.LooksAlike t importsB.module := by
    have apart {module : String} (other : "C" ≠ module) : s.SameFilesOf t module := by
      refine .of_apart elsewhere ?_ ?_
      · rintro ⟨f, there, -⟩
        exact nomatch (rfl : s.get? "file:///C.elm" = none).symm.trans there
      · rintro ⟨f, there, named⟩
        cases there
        exact other named
    refine ⟨⟨fun i mem => ?_⟩, urisOf_congr hs (hs.edit _) fun uri => ?_⟩
    · have others : ∀ i ∈ importsB.module.imports, "C" ≠ i.module := by decide +kernel
      exact moduleFile_congr hs (hs.edit _) (apart (others i mem))
    · exact (apart (by decide +kernel)).declares_iff
  obtain ⟨check, resolve⟩ :=
    check_and_resolve_local held ((elsewhere _ (by decide)).symm.trans held) alike .exposedOnly
  have named : (Reference.ofNode importsB.tree 5).moduleNamed? = some "B" := by decide +kernel
  have recorded : ∃ j ∈ importsB.module.imports, j.module = "B" := by decide +kernel
  exact ⟨check, resolve 5 fun module is => Option.some.inj (named.symm.trans is) ▸ recorded⟩

end Forest

end ElmAssist
