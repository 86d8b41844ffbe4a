import ElmAssist.Name.Resolution
import ElmAssist.Proofs.Forest.Edits
import ElmAssist.Proofs.Module.Exposing
import Mathlib.Data.Set.Image

/-!
# Name — Names through imports

What a name that its file neither binds nor declares means. Two sets decide it. `offered` has the
definitions that an import shows and their own module exposes; `promised` has the modules of which
nothing is known, since no file or several declare them, and that an import names the name from.

* One definition and no promise: that definition.
* Two or more of both together: ambiguous, and the message has their modules.
* One promise and no definition: the module that promised.
* Neither: the first unknown module that may have the name, if there is one.

`throughImports_decided` states this of every forest that edits lead to. There a module has at most
one file, so what an import offers is known from the module alone, and an import that is written
twice offers no more than one.
-/

namespace ElmAssist.Forest

variable {parse : Parser} {s : Forest} {m : Module} {name : String} {ns : Namespace} {i : Import}

/-! ### The two sets -/

/-- Exactly one file of the forest declares the module. -/
def IsKnown (s : Forest) (module : String) : Prop :=
  ∃ f, s.IsOnlyFileOf module f

/-- An import offers a definition: its list shows the name, its module is that of one file, that
file exposes the name too, and the definition is the file's declaration of it. -/
def Offers (s : Forest) (name : String) (ns : Namespace) (i : Import) (d : Definition) : Prop :=
  ∃ e f, i.exposing? = some e ∧ s.IsOnlyFileOf i.module f ∧
    e.Shows f.module f.tree name ns ∧ f.module.exposing.Shows f.module f.tree name ns ∧
    d.uri = f.uri ∧ f.module.declaration? name ns = some d.node

/-- An import promises the name: its list names it, its module is not known. -/
def Promises (s : Forest) (name : String) (ns : Namespace) (i : Import) : Prop :=
  ¬ s.IsKnown i.module ∧ ∃ e, i.exposing? = some e ∧ e.Names name ns

/-- An import may have the name: its list shows everything or, for a constructor, has a type with
its constructors; its module is not known. -/
def MayHave (s : Forest) (ns : Namespace) (i : Import) : Prop :=
  ¬ s.IsKnown i.module ∧ ∃ e, i.exposing? = some e ∧
    (e = .everything ∨ ns = .constructor ∧ ∃ type, .type type true ∈ e.written)

/-- The definitions that the imports of a module offer. -/
def offered (s : Forest) (m : Module) (name : String) (ns : Namespace) : Set Definition :=
  {d | ∃ i ∈ m.imports, s.Offers name ns i d}

/-- The modules that the imports of a module promise the name from. -/
def promised (s : Forest) (m : Module) (name : String) (ns : Namespace) : Set String :=
  {module | ∃ i ∈ m.imports, i.module = module ∧ s.Promises name ns i}

/-- Both sets together. -/
def sources (s : Forest) (m : Module) (name : String) (ns : Namespace) :
    Set (Definition ⊕ String) :=
  Sum.inl '' s.offered m name ns ∪ Sum.inr '' s.promised m name ns

/-- The module of the file that a definition is in. -/
def moduleOf? (s : Forest) (d : Definition) : Option String :=
  (s.get? d.uri).map fun f => f.module.name

variable {e : Exposing} {f : SourceFile} {d : Definition} {module : String}

/-! ### Known modules -/

theorem moduleFile_eq_ok_iff (h : Sound parse s) :
    s.moduleFile module = .ok f ↔ s.IsOnlyFileOf module f := by
  rw [← fileOf?_eq_some_iff h, moduleFile]
  cases s.fileOf? module with
  | some g => simp
  | none => dsimp only; split <;> simp

theorem exists_moduleFile_error_iff (h : Sound parse s) :
    (∃ why, s.moduleFile module = .error why) ↔ ¬ s.IsKnown module := by
  unfold IsKnown
  simp only [← moduleFile_eq_ok_iff h]
  cases s.moduleFile module <;> simp

/-! ### Candidates -/

theorem takesIn_iff :
    takesIn f e name ns = true ↔ e.Shows f.module f.tree name ns := by
  cases ns with
  | value => exact Exposing.listsValue_iff
  | type => exact Exposing.listsType_iff
  | constructor => exact Module.showsConstructor_iff

theorem names_iff : names e name ns = true ↔ e.Names name ns := by
  cases e with
  | everything => cases ns <;> simp [names, Exposing.isEverything, Exposing.Names, Exposing.written]
  | only entries =>
    have some_ : Exposing.only entries ≠ .everything := by simp
    cases ns with
    | value => exact Exposing.listsValue_iff.trans (or_iff_right some_)
    | type => exact Exposing.listsType_iff.trans (or_iff_right some_)
    | constructor => simp [names, Exposing.Names]

/-! ### One import -/

theorem offers_iff (listed : i.exposing? = some e) (known : s.IsOnlyFileOf i.module f) :
    s.Offers name ns i d ↔ e.Shows f.module f.tree name ns ∧
      f.module.exposing.Shows f.module f.tree name ns ∧ d.uri = f.uri ∧
      f.module.declaration? name ns = some d.node := by
  constructor
  · rintro ⟨e', f', listed', known', offers⟩
    cases Option.some.inj (listed.symm.trans listed')
    cases known.unique known'
    exact offers
  · intro offers
    exact ⟨e, f, listed, known, offers⟩

theorem promises_iff (listed : i.exposing? = some e) (unknown : ¬ s.IsKnown i.module) :
    s.Promises name ns i ↔ e.Names name ns := by
  simp [Promises, unknown, listed]

theorem mayHave_iff (listed : i.exposing? = some e) (unknown : ¬ s.IsKnown i.module) :
    s.MayHave ns i ↔ e = .everything ∨ ns = .constructor ∧ ∃ type, .type type true ∈ e.written := by
  simp [MayHave, unknown, listed]

theorem candidate?_eq_inside_iff (h : Sound parse s) :
    s.candidate? name ns i = some (.inside d module) ↔ module = i.module ∧ s.Offers name ns i d := by
  unfold candidate?
  cases listed : i.exposing? with
  | none => simp [Offers, listed]
  | some e =>
    cases found : s.moduleFile i.module with
    | error why =>
      have unknown := (exists_moduleFile_error_iff h).mp ⟨why, found⟩
      have never : ¬ s.Offers name ns i d := by
        rintro ⟨_, f, -, known, -⟩
        exact unknown ⟨f, known⟩
      simp [never]
    | ok f =>
      rw [offers_iff listed ((moduleFile_eq_ok_iff h).mp found)]
      simp only [Option.ite_none_right_eq_some, Bool.and_eq_true, takesIn_iff, Module.exposes_iff,
        Option.map_eq_some_iff, Candidate.inside.injEq]
      constructor
      · rintro ⟨⟨shown, -, exposed⟩, node, declared, rfl, rfl⟩
        exact ⟨rfl, shown, exposed, rfl, declared⟩
      · rintro ⟨rfl, shown, exposed, uri, declared⟩
        exact ⟨⟨shown, ⟨_, declared⟩, exposed⟩, d.node, declared, by rw [← uri], rfl⟩

theorem candidate?_eq_outside_iff (h : Sound parse s) :
    s.candidate? name ns i = some (.outside module) ↔
      module = i.module ∧ s.Promises name ns i := by
  unfold candidate?
  cases listed : i.exposing? with
  | none => simp [Promises, listed]
  | some e =>
    cases found : s.moduleFile i.module with
    | error why =>
      rw [promises_iff listed ((exists_moduleFile_error_iff h).mp ⟨why, found⟩)]
      simp only [Option.ite_none_right_eq_some, names_iff, Option.some.injEq,
        Candidate.outside.injEq]
      rw [and_comm, eq_comm]
    | ok f =>
      have known : s.IsKnown i.module := ⟨f, (moduleFile_eq_ok_iff h).mp found⟩
      simp [Promises, known]

theorem mayExpose_iff (h : Sound parse s) :
    s.mayExpose name ns i = true ↔ s.MayHave ns i ∧ ¬ s.Promises name ns i := by
  unfold mayExpose
  cases listed : i.exposing? with
  | none => simp [MayHave, listed]
  | some e =>
    cases found : s.moduleFile i.module with
    | ok f =>
      have known : s.IsKnown i.module := ⟨f, (moduleFile_eq_ok_iff h).mp found⟩
      simp [MayHave, known]
    | error why =>
      have unknown := (exists_moduleFile_error_iff h).mp ⟨why, found⟩
      rw [mayHave_iff listed unknown, promises_iff listed unknown, ← names_iff, and_comm]
      simp only [Bool.and_eq_true, Bool.not_eq_true', Bool.not_eq_true, Bool.or_eq_true,
        beq_iff_eq, Exposing.isEverything_iff, Exposing.hasOpenTypes_iff]
      refine and_congr_right fun _ => ⟨?_, Or.imp_right (And.imp_right Or.inr)⟩
      rintro (all | ⟨ctor, all | opened⟩)
      · exact Or.inl all
      · exact Or.inl all
      · exact Or.inr ⟨ctor, opened⟩

/-! ### Distinct candidates -/

theorem distinct_concat (cs : List Candidate) (c : Candidate) :
    distinct (cs ++ [c]) =
      if (distinct cs).contains c then distinct cs else distinct cs ++ [c] := by
  unfold distinct
  rw [List.foldl_append]
  rfl

theorem mem_distinct {cs : List Candidate} {c : Candidate} : c ∈ distinct cs ↔ c ∈ cs := by
  induction cs using List.reverseRecOn with
  | nil => exact Iff.rfl
  | append_singleton cs b ih =>
    rw [distinct_concat, List.mem_append, List.mem_singleton, ← ih]
    split
    · rename_i seen
      exact ⟨Or.inl, fun h => h.elim id fun same => same ▸ List.contains_iff_mem.mp seen⟩
    · rw [List.mem_append, List.mem_singleton]

theorem nodup_distinct (cs : List Candidate) : (distinct cs).Nodup := by
  induction cs using List.reverseRecOn with
  | nil => exact .nil
  | append_singleton cs c ih =>
    rw [distinct_concat]
    split
    · exact ih
    · rename_i fresh
      refine List.nodup_append.mpr ⟨ih, List.pairwise_singleton .., fun a ha b hb same => ?_⟩
      rw [List.mem_singleton.mp hb] at same
      exact fresh (List.contains_iff_mem.mpr (same ▸ ha))

/-- The candidates that the imports of a module give. -/
def candidates (s : Forest) (m : Module) (name : String) (ns : Namespace) : List Candidate :=
  distinct (m.imports.filterMap (s.candidate? name ns))

/-- A definition that an import offers is in a file of its module. -/
theorem Offers.moduleOf?_eq (offers : s.Offers name ns i d) :
    s.moduleOf? d = some i.module := by
  obtain ⟨e, f, -, known, -, -, uri, -⟩ := offers
  rw [moduleOf?, uri, known.held, Option.map_some, known.named]

theorem mem_candidates_inside (h : Sound parse s) :
    .inside d module ∈ s.candidates m name ns ↔
      d ∈ s.offered m name ns ∧ s.moduleOf? d = some module := by
  rw [candidates, mem_distinct, List.mem_filterMap]
  simp only [candidate?_eq_inside_iff h]
  -- The module of a candidate is that of the file, so a definition has one candidate at most.
  constructor
  · rintro ⟨i, mem, rfl, offers⟩
    exact ⟨⟨i, mem, offers⟩, offers.moduleOf?_eq⟩
  · rintro ⟨⟨i, mem, offers⟩, so⟩
    exact ⟨i, mem, Option.some.inj (so.symm.trans offers.moduleOf?_eq), offers⟩

theorem mem_candidates_outside (h : Sound parse s) :
    .outside module ∈ s.candidates m name ns ↔ module ∈ s.promised m name ns := by
  rw [candidates, mem_distinct, List.mem_filterMap]
  simp only [candidate?_eq_outside_iff h]
  exact ⟨fun ⟨i, mem, same, promises⟩ => ⟨i, mem, same.symm, promises⟩,
    fun ⟨i, mem, same, promises⟩ => ⟨i, mem, same.symm, promises⟩⟩

/-- Two definitions offered from one module are one. -/
theorem Offers.eq {j : Import} {c : Definition} (hd : s.Offers name ns i d)
    (hc : s.Offers name ns j c) (same : i.module = j.module) : d = c := by
  obtain ⟨-, f, -, known, -, -, uri, declared⟩ := hd
  obtain ⟨-, g, -, known', -, -, uri', declared'⟩ := hc
  cases known.unique (same ▸ known')
  obtain ⟨u, n⟩ := d
  obtain ⟨v, k⟩ := c
  cases uri.trans uri'.symm
  cases Option.some.inj (declared.symm.trans declared')
  rfl

/-- **A candidate is known by its module.** -/
theorem candidates_module_inj (h : Sound parse s) {b c : Candidate}
    (hb : b ∈ s.candidates m name ns) (hc : c ∈ s.candidates m name ns)
    (same : b.module = c.module) : b = c := by
  rw [candidates, mem_distinct, List.mem_filterMap] at hb hc
  obtain ⟨i, -, hb⟩ := hb
  obtain ⟨j, -, hc⟩ := hc
  cases b with
  | inside d module =>
    obtain ⟨rfl, offers⟩ := (candidate?_eq_inside_iff h).mp hb
    -- A known module is no unknown one: a definition and a promise are of different modules.
    cases c with
    | inside c module =>
      obtain ⟨rfl, offers'⟩ := (candidate?_eq_inside_iff h).mp hc
      exact congr (congrArg _ (offers.eq offers' same)) same
    | outside module =>
      obtain ⟨rfl, unknown, -⟩ := (candidate?_eq_outside_iff h).mp hc
      obtain ⟨-, f, -, known, -⟩ := offers
      exact absurd ⟨f, (show i.module = j.module from same) ▸ known⟩ unknown
  | outside module =>
    obtain ⟨rfl, unknown, -⟩ := (candidate?_eq_outside_iff h).mp hb
    cases c with
    | inside c module =>
      obtain ⟨rfl, -, f, -, known, -⟩ := (candidate?_eq_inside_iff h).mp hc
      exact absurd ⟨f, (show i.module = j.module from same) ▸ known⟩ unknown
    | outside module => exact congrArg _ same

theorem nodup_modules (h : Sound parse s) :
    ((s.candidates m name ns).map Candidate.module).Nodup :=
  List.pairwise_map.mpr <| (nodup_distinct _).imp_of_mem fun hb hc apart same =>
    apart (candidates_module_inj h hb hc same)

/-! ### The answer -/

/-- What a candidate is a source of. -/
def sourceOf : Candidate → Definition ⊕ String
  | .inside d _ => .inl d
  | .outside module => .inr module

theorem sourceOf_inj (h : Sound parse s) {b c : Candidate} (hb : b ∈ s.candidates m name ns)
    (hc : c ∈ s.candidates m name ns) (same : sourceOf b = sourceOf c) : b = c := by
  cases b with
  | inside d module =>
    cases c with
    | inside c module' =>
      cases Sum.inl.inj same
      have first := ((mem_candidates_inside h).mp hb).2
      rw [Option.some.inj (first.symm.trans ((mem_candidates_inside h).mp hc).2)]
    | outside => cases same
  | outside module =>
    cases c with
    | inside => cases same
    | outside module' => rw [Sum.inr.inj same]

theorem offered_eq (h : Sound parse s) :
    s.offered m name ns = {d | ∃ module, .inside d module ∈ s.candidates m name ns} := by
  ext d
  simp only [Set.mem_ofPred_eq, mem_candidates_inside h]
  constructor
  · rintro ⟨i, mem, offers⟩
    exact ⟨i.module, ⟨i, mem, offers⟩, offers.moduleOf?_eq⟩
  · rintro ⟨_, mem, -⟩
    exact mem

theorem promised_eq (h : Sound parse s) :
    s.promised m name ns = {module | .outside module ∈ s.candidates m name ns} := by
  ext module
  exact (mem_candidates_outside h).symm

theorem sourceOf_mem (h : Sound parse s) {c : Candidate} (hc : c ∈ s.candidates m name ns) :
    sourceOf c ∈ s.sources m name ns := by
  cases c with
  | inside d module => exact Or.inl ⟨d, ((mem_candidates_inside h).mp hc).1, rfl⟩
  | outside module => exact Or.inr ⟨module, (mem_candidates_outside h).mp hc, rfl⟩

/-- The modules of the candidates are those of the definitions offered, and those promised. -/
theorem mem_modules_iff (h : Sound parse s) :
    module ∈ (s.candidates m name ns).map Candidate.module ↔
      (∃ d ∈ s.offered m name ns, s.moduleOf? d = some module) ∨
        module ∈ s.promised m name ns := by
  rw [List.mem_map]
  constructor
  · rintro ⟨c, mem, rfl⟩
    cases c with
    | inside d module => exact Or.inl ⟨d, (mem_candidates_inside h).mp mem⟩
    | outside module => exact Or.inr ((mem_candidates_outside h).mp mem)
  · rintro (⟨d, mem, so⟩ | mem)
    · exact ⟨.inside d module, (mem_candidates_inside h).mpr ⟨mem, so⟩, rfl⟩
    · exact ⟨.outside module, (mem_candidates_outside h).mpr mem, rfl⟩

/-- The first import of a module that may have the name. -/
def FirstToHave (s : Forest) (m : Module) (ns : Namespace) (i : Import) : Prop :=
  ∃ before later, m.imports = before ++ i :: later ∧ s.MayHave ns i ∧
    ∀ j ∈ before, ¬ s.MayHave ns j

/-- An answer to what a name means, decided by what the imports offer and promise.
* A definition, when it alone is offered and nothing is promised.
* Ambiguous, when there are two or more of both together; the message has their modules, each
  once.
* An unknown module, when no definition is offered and one module promises the name, or none does
  and an import may have it: the module that promises, else that of the first such import.
* Not found, when nothing is offered, nothing promised, and no import may have the name. -/
structure Decided (s : Forest) (m : Module) (name : String) (ns : Namespace)
    (answer : Resolution) : Prop where
  found : ∀ d, answer = .ok d ↔ s.offered m name ns = {d} ∧ s.promised m name ns = ∅
  ambiguous : (∃ modules, answer = .error (.ambiguous name modules)) ↔
    (s.sources m name ns).Nontrivial
  modules : ∀ modules, answer = .error (.ambiguous name modules) → modules.Nodup ∧
    ∀ module, module ∈ modules ↔
      (∃ d ∈ s.offered m name ns, s.moduleOf? d = some module) ∨ module ∈ s.promised m name ns
  external : (∃ module, answer = .error (.external module)) ↔ s.offered m name ns = ∅ ∧
    ((∃ module, s.promised m name ns = {module}) ∨
      s.promised m name ns = ∅ ∧ ∃ i ∈ m.imports, s.MayHave ns i)
  module : ∀ module, answer = .error (.external module) → s.promised m name ns = {module} ∨
    s.promised m name ns = ∅ ∧ ∃ i, s.FirstToHave m ns i ∧ i.module = module
  notFound : answer = .error (.notFound name) ↔ s.offered m name ns = ∅ ∧
    s.promised m name ns = ∅ ∧ ∀ i ∈ m.imports, ¬ s.MayHave ns i

theorem offered_eq_empty (h : Sound parse s) (none_ : s.candidates m name ns = []) :
    s.offered m name ns = ∅ ∧ s.promised m name ns = ∅ := by
  rw [offered_eq h, promised_eq h, none_]
  simp

theorem offered_eq_singleton (h : Sound parse s)
    (one : s.candidates m name ns = [.inside d module]) :
    s.offered m name ns = {d} ∧ s.promised m name ns = ∅ := by
  rw [offered_eq h, promised_eq h, one]
  simp

theorem promised_eq_singleton (h : Sound parse s)
    (one : s.candidates m name ns = [.outside module]) :
    s.offered m name ns = ∅ ∧ s.promised m name ns = {module} := by
  rw [offered_eq h, promised_eq h, one]
  simp

theorem sources_nontrivial (h : Sound parse s) {b c : Candidate} {rest : List Candidate}
    (several : s.candidates m name ns = b :: c :: rest) : (s.sources m name ns).Nontrivial := by
  have hb : b ∈ s.candidates m name ns := several ▸ List.mem_cons_self
  have hc : c ∈ s.candidates m name ns :=
    several ▸ List.mem_cons_of_mem _ List.mem_cons_self
  have nodup : (b :: c :: rest).Nodup := several ▸ nodup_distinct _
  refine ⟨_, sourceOf_mem h hb, _, sourceOf_mem h hc, fun same => ?_⟩
  exact (List.nodup_cons.mp nodup).1 (sourceOf_inj h hb hc same ▸ List.mem_cons_self)

/-- Where nothing is promised, the first import that counts is the first that may have the name. -/
theorem find?_mayExpose (h : Sound parse s) (none_ : s.promised m name ns = ∅) :
    (∀ i, m.imports.find? (s.mayExpose name ns) = some i → s.FirstToHave m ns i) ∧
      (m.imports.find? (s.mayExpose name ns) = none → ∀ i ∈ m.imports, ¬ s.MayHave ns i) := by
  -- The check leaves out imports that promise the name; here there are none.
  have counts : ∀ i ∈ m.imports, s.mayExpose name ns i = true ↔ s.MayHave ns i := by
    intro i mem
    have unpromised : ¬ s.Promises name ns i := fun promises =>
      Set.eq_empty_iff_forall_notMem.mp none_ i.module ⟨i, mem, rfl, promises⟩
    rw [mayExpose_iff h, and_iff_left unpromised]
  constructor
  · intro i first
    obtain ⟨may, before, later, split, others⟩ := List.find?_eq_some_iff_append.mp first
    have among : ∀ j ∈ before ++ i :: later, j ∈ m.imports := fun j mem => split ▸ mem
    refine ⟨before, later, split, (counts i (among i (by simp))).mp may, fun j mem may => ?_⟩
    have counted := (counts j (among j (List.mem_append_left _ mem))).mpr may
    have skipped := others j mem
    rw [counted] at skipped
    cases skipped
  · intro none_ i mem may
    exact List.find?_eq_none.mp none_ i mem ((counts i mem).mpr may)

/-! ### Each answer -/

theorem decided_found (offered : s.offered m name ns = {d})
    (promised : s.promised m name ns = ∅) : s.Decided m name ns (.ok d) := by
  constructor <;> simp [offered, promised, sources]

theorem decided_promised (offered : s.offered m name ns = ∅)
    (promised : s.promised m name ns = {module}) :
    s.Decided m name ns (.error (.external module)) := by
  constructor <;> simp [offered, promised, sources]

theorem decided_external (offered : s.offered m name ns = ∅) (promised : s.promised m name ns = ∅)
    (first : s.FirstToHave m ns i) : s.Decided m name ns (.error (.external i.module)) := by
  have some_ : ∃ j ∈ m.imports, s.MayHave ns j := by
    obtain ⟨before, later, split, may, -⟩ := first
    exact ⟨i, split ▸ List.mem_append_right _ List.mem_cons_self, may⟩
  have named : ∃ j, s.FirstToHave m ns j ∧ j.module = i.module := ⟨i, first, rfl⟩
  constructor <;> simp [offered, promised, sources, some_, named]

theorem decided_notFound (offered : s.offered m name ns = ∅) (promised : s.promised m name ns = ∅)
    (none_ : ∀ i ∈ m.imports, ¬ s.MayHave ns i) :
    s.Decided m name ns (.error (.notFound name)) := by
  constructor <;> simp [offered, promised, sources]
  · exact none_
  · exact none_

theorem decided_ambiguous {modules : List String} (several : (s.sources m name ns).Nontrivial)
    (nodup : modules.Nodup)
    (mem : ∀ module, module ∈ modules ↔
      (∃ d ∈ s.offered m name ns, s.moduleOf? d = some module) ∨ module ∈ s.promised m name ns) :
    s.Decided m name ns (.error (.ambiguous name modules)) where
  found d := by
    refine ⟨nofun, fun ⟨offered, promised⟩ => absurd several ?_⟩
    simp [sources, offered, promised]
  ambiguous := ⟨fun _ => several, fun _ => ⟨modules, rfl⟩⟩
  modules other same := by
    cases same
    exact ⟨nodup, mem⟩
  external := by
    refine ⟨nofun, fun ⟨offered, few⟩ => absurd several ?_⟩
    rcases few with ⟨module, promised⟩ | ⟨promised, -⟩ <;> simp [sources, offered, promised]
  module _ := nofun
  notFound := by
    refine ⟨nofun, fun ⟨offered, promised, _⟩ => absurd several ?_⟩
    simp [sources, offered, promised]

theorem decided_throughImports (h : Sound parse s) :
    s.Decided m name ns (s.throughImports m name ns) := by
  rw [throughImports, ← candidates]
  rcases held : s.candidates m name ns with _ | ⟨b, _ | ⟨c, rest⟩⟩
  · obtain ⟨offered, promised⟩ := offered_eq_empty h held
    obtain ⟨first, none_⟩ := find?_mayExpose h promised
    dsimp only
    cases may : m.imports.find? (s.mayExpose name ns) with
    | none => exact decided_notFound offered promised (none_ may)
    | some i => exact decided_external offered promised (first i may)
  · cases b with
    | inside d module =>
      obtain ⟨offered, promised⟩ := offered_eq_singleton h held
      exact decided_found offered promised
    | outside module =>
      obtain ⟨offered, promised⟩ := promised_eq_singleton h held
      exact decided_promised offered promised
  · have decided := decided_ambiguous (sources_nontrivial h held) (nodup_modules h)
      fun _ => mem_modules_iff h
    rw [held] at decided
    cases b <;> exact decided

/-- So it is for a name at a node of a file that neither binds it there nor declares it. -/
theorem decided_unqualified (h : Sound parse s) {node : NodeId}
    (unbound : ns = .value → Scope.lookup? f.tree node name = none)
    (undeclared : f.module.declaration? name ns = none) :
    s.Decided f.module name ns (s.unqualified f node name ns) := by
  have through : s.unqualified f node name ns = s.throughImports f.module name ns := by
    unfold unqualified
    cases ns with
    | value => rw [unbound rfl, undeclared]; rfl
    | type | constructor => rw [undeclared]; rfl
  exact through ▸ decided_throughImports h

/-- **What a name means through imports.** In every forest that edits lead to, whatever a module
imports, the answer for a name is decided by the definitions and modules that its imports offer and
promise. -/
theorem throughImports_decided (parse : Parser) (edits : List Edit) (m : Module) (name : String)
    (ns : Namespace) :
    (after parse edits).Decided m name ns ((after parse edits).throughImports m name ns) :=
  decided_throughImports (sound_after edits)

end ElmAssist.Forest
