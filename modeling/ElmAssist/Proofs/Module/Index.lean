import ElmAssist.Module.Index
import ElmAssist.Proofs.Catalog

/-!
# Module — What the index lists

The index of modules lists for a name the uris of the modules so named, in the order they came in
(`urisOf_ofModules`), and knows the names that some module has (`contains_ofModules_iff`). When no
two modules have one uri, a name has a uri exactly when one module is so named
(`uri?_ofModules_eq_some_iff`).
-/

namespace ElmAssist

namespace ModuleIndex

/-- The uris of the modules so named come after those a catalog has already. -/
theorem getD_foldl_append (name : String) : ∀ (modules : List (String × Module))
    (c : Catalog String (List String)),
    ((modules.foldl (fun c m => c.append m.2.name m.1) c).get? name).getD [] =
      (c.get? name).getD [] ++ (modules.filter fun m => m.2.name == name).map Prod.fst
  | [], c => (List.append_nil _).symm
  | m :: modules, c => by
    rw [List.foldl_cons, getD_foldl_append name modules, Catalog.get?_append]
    by_cases same : name = m.2.name
    · subst same
      rw [if_pos rfl, List.filter_cons, if_pos (beq_iff_eq.mpr rfl), List.map_cons,
        Option.getD_some, List.append_assoc, List.singleton_append]
    · rw [if_neg same, List.filter_cons, if_neg fun h => same (beq_iff_eq.mp h).symm]

theorem urisOf_ofModules (modules : List (String × Module)) (name : String) :
    (ofModules modules).urisOf name = (modules.filter fun m => m.2.name == name).map Prod.fst :=
  (getD_foldl_append name modules .empty).trans (List.nil_append _)

/-- A name is known when a catalog knows it already or some module is so named. -/
theorem contains_foldl_append_iff (name : String) : ∀ (modules : List (String × Module))
    (c : Catalog String (List String)),
    (modules.foldl (fun c m => c.append m.2.name m.1) c).contains name = true ↔
      c.contains name = true ∨ ∃ m ∈ modules, m.2.name = name
  | [], c => by simp
  | m :: modules, c => by
    have first : (c.append m.2.name m.1).contains name = true ↔
        c.contains name = true ∨ m.2.name = name := by
      rw [Catalog.contains_eq_isSome, Catalog.get?_append, Catalog.contains_eq_isSome]
      split
      · rename_i same
        simp [same]
      · rename_i other
        simp [Ne.symm other]
    rw [List.foldl_cons, contains_foldl_append_iff name modules, first]
    simp only [List.mem_cons, exists_eq_or_imp, or_assoc]

theorem contains_ofModules_iff {modules : List (String × Module)} {name : String} :
    (ofModules modules).contains name = true ↔ ∃ m ∈ modules, m.2.name = name :=
  (contains_foldl_append_iff name modules .empty).trans (or_iff_right nofun)

theorem uri?_eq_some_iff {x : ModuleIndex} {name uri : String} :
    x.uri? name = some uri ↔ x.urisOf name = [uri] := by
  unfold uri?
  split
  · rename_i v one
    rw [one, List.singleton_inj, Option.some_inj]
  · rename_i several
    exact ⟨nofun, fun one => absurd one (several uri)⟩

/-- **A name has a uri when one module is so named.** -/
theorem uri?_ofModules_eq_some_iff {modules : List (String × Module)}
    (apart : (modules.map Prod.fst).Nodup) {name uri : String} :
    (ofModules modules).uri? name = some uri ↔
      ∃ m, (uri, m) ∈ modules ∧ m.name = name ∧ ∀ e ∈ modules, e.2.name = name → e.1 = uri := by
  rw [uri?_eq_some_iff, urisOf_ofModules]
  have named : ∀ e, e ∈ (modules.filter fun m => m.2.name == name) ↔
      e ∈ modules ∧ e.2.name = name := fun e => by
    rw [List.mem_filter, beq_iff_eq]
  constructor
  · intro one
    obtain ⟨⟨v, m⟩, only, rfl⟩ := List.map_eq_singleton_iff.mp one
    obtain ⟨mem, so⟩ := (named _).mp (only ▸ List.mem_cons_self)
    refine ⟨m, mem, so, fun e he also => ?_⟩
    have : e ∈ [(v, m)] := only ▸ (named e).mpr ⟨he, also⟩
    rw [List.mem_singleton.mp this]
  · rintro ⟨m, mem, so, only⟩
    have nodup : ((modules.filter fun m => m.2.name == name).map Prod.fst).Nodup :=
      apart.sublist (List.filter_sublist.map Prod.fst)
    refine List.perm_singleton.mp ((List.perm_ext_iff_of_nodup nodup
      (List.pairwise_singleton ..)).mpr fun v => ?_)
    rw [List.mem_map, List.mem_singleton]
    constructor
    · rintro ⟨e, he, rfl⟩
      obtain ⟨he, also⟩ := (named e).mp he
      exact only e he also
    · rintro rfl
      exact ⟨(v, m), (named _).mpr ⟨mem, so⟩, rfl⟩

end ModuleIndex

end ElmAssist
