import ElmAssist.Catalog

/-!
# Catalog — Looking up

What a catalog holds for a key after each operation.

* `contains_insertNew_iff`, `contains_erase_iff`: which keys are there, up to keys that compare
  equal.
* `get?_insert`, `get?_erase`: an operation changes what is held for its key and for no other.
* `mem_entries_iff`: the listing has exactly the pairs that are found.
* `ext_get?`: two catalogs that hold the same for every key are equal.

Keys that compare equal are one key; from `get?_insert` on, they are equal.
-/

namespace ElmAssist

/-! ### Lists of pairs -/

namespace Pairs

variable {κ α : Type} [Ord κ]

theorem find_cons (k j : κ) (a : α) (rest : List (κ × α)) :
    find k ((j, a) :: rest) = if compare k j = .eq then some a else find k rest := by
  rw [find]
  split
  · rename_i same; rw [if_pos same]
  · rename_i other; rw [if_neg other]

/-- No pair stands before the first of a list in order. -/
theorem find_eq_none [Std.TransOrd κ] {k : κ} {entries : List (κ × α)}
    (h : ∀ e ∈ entries, compare k e.1 = .lt) : find k entries = none := by
  induction entries with
  | nil => rfl
  | cons e rest ih =>
    rw [find_cons, if_neg (by rw [h e List.mem_cons_self]; nofun)]
    exact ih fun f hf => h f (List.mem_cons_of_mem _ hf)

variable [Std.TransOrd κ]

theorem find_place (j k : κ) (a : α) : ∀ entries : List (κ × α),
    find j (place k a entries) = if compare j k = .eq then some a else find j entries
  | [] => find_cons ..
  | (i, b) :: rest => by
    unfold place
    split
    · exact find_cons ..
    · rename_i same
      rw [find_cons, find_cons, Std.TransCmp.congr_right (a := j) same]
      split <;> rfl
    · rename_i more
      rw [find_cons, find_cons, find_place j k a rest]
      by_cases same : compare j i = .eq
      · have apart : compare j k ≠ .eq := fun h => by
          rw [Std.TransCmp.congr_left (Std.OrientedCmp.eq_symm h), same] at more
          cases more
        rw [if_pos same, if_neg apart, if_pos same]
      · rw [if_neg same, if_neg same]

theorem find_drop (j k : κ) : ∀ entries : List (κ × α),
    find j (drop k entries) = if compare j k = .eq then none else find j entries
  | [] => by split <;> rfl
  | (i, b) :: rest => by
    have ih := find_drop j k rest
    unfold drop at ih ⊢
    by_cases gone : compare k i = .eq
    · rw [List.filter_cons_of_neg (by simp [gone]), ih, find_cons,
        ← Std.TransCmp.congr_right (a := j) gone]
      split <;> rfl
    · rw [List.filter_cons_of_pos (by simpa using gone), find_cons, find_cons, ih]
      by_cases same : compare j i = .eq
      · have apart : compare j k ≠ .eq := fun h =>
          gone (Std.TransCmp.eq_trans (Std.OrientedCmp.eq_symm h) same)
        rw [if_pos same, if_neg apart, if_pos same]
      · rw [if_neg same, if_neg same]

/-- Keys that compare equal find the same. -/
theorem find_congr {j k : κ} (same : compare j k = .eq) (entries : List (κ × α)) :
    find j entries = find k entries := by
  induction entries with
  | nil => rfl
  | cons e rest ih => rw [find_cons, find_cons, ih, Std.TransCmp.congr_left same]

variable [Std.LawfulEqOrd κ]

omit [Std.TransOrd κ] in
theorem mem_of_find {k : κ} {a : α} : ∀ {entries : List (κ × α)},
    find k entries = some a → (k, a) ∈ entries
  | [], h => nomatch h
  | (j, b) :: rest, h => by
    rw [find_cons] at h
    split at h
    · rename_i same
      cases Std.LawfulEqOrd.eq_of_compare same
      cases h
      exact List.mem_cons_self
    · exact List.mem_cons_of_mem _ (mem_of_find h)

theorem find_of_mem {k : κ} {a : α} : ∀ {entries : List (κ × α)},
    Increasing entries → (k, a) ∈ entries → find k entries = some a
  | [], _, h => nomatch h
  | (j, b) :: rest, order, h => by
    obtain ⟨first, later⟩ := List.pairwise_cons.mp order
    rw [find_cons]
    rcases List.mem_cons.mp h with same | below
    · cases same
      rw [if_pos Std.ReflOrd.compare_self]
    · have less : compare j k = .lt := first (k, a) below
      have apart : compare k j ≠ .eq := fun same => by
        rw [Std.OrientedCmp.eq_symm same] at less
        cases less
      rw [if_neg apart]
      exact find_of_mem later below

omit [Std.LawfulEqOrd κ] in
theorem Increasing.nodup_keys {entries : List (κ × α)} (h : Increasing entries) :
    (entries.map Prod.fst).Nodup :=
  List.pairwise_map.mpr <| h.imp fun {e f} less same => by
    rw [same, Std.ReflOrd.compare_self] at less
    cases less

/-- Lists in order with the same pairs are the same list. -/
theorem eq_of_find {l m : List (κ × α)} (hl : Increasing l) (hm : Increasing m)
    (h : ∀ k, find k l = find k m) : l = m := by
  have anti : ∀ e f : κ × α, compare e.1 f.1 = .lt → compare f.1 e.1 = .lt → e = f :=
    fun e f less more => absurd more (Std.OrientedCmp.not_lt_of_lt less)
  refine List.Perm.eq_of_pairwise (fun e f _ _ => anti e f) hl hm ?_
  have nodup : ∀ {n : List (κ × α)}, Increasing n → n.Nodup := fun hn =>
    (List.pairwise_map.mp hn.nodup_keys).imp fun apart same => apart (congrArg Prod.fst same)
  refine (List.perm_ext_iff_of_nodup (nodup hl) (nodup hm)).mpr fun e => ⟨fun he => ?_, fun he => ?_⟩
  · exact mem_of_find ((h e.1).symm.trans (find_of_mem hl he))
  · exact mem_of_find ((h e.1).trans (find_of_mem hm he))

end Pairs

/-! ### Catalogs -/

namespace Catalog

variable {κ α : Type} [Ord κ]

@[simp] theorem get?_empty (k : κ) : (empty : Catalog κ α).get? k = none := rfl

@[simp] theorem contains_eq_isSome (c : Catalog κ α) (k : κ) :
    c.contains k = (c.get? k).isSome := rfl

theorem contains_of_get? {c : Catalog κ α} {k : κ} {a : α} (held : c.get? k = some a) :
    c.contains k = true := by
  rw [contains_eq_isSome, held, Option.isSome_some]

theorem isEmpty_iff [Std.ReflOrd κ] {c : Catalog κ α} :
    c.isEmpty = true ↔ ∀ k, ¬ c.contains k = true := by
  unfold isEmpty
  simp only [contains_eq_isSome, get?]
  cases c.entries with
  | nil => simp [Pairs.find]
  | cons e rest =>
    have first : (Pairs.find e.1 (e :: rest)).isSome = true := by
      rw [Pairs.find_cons, if_pos Std.ReflOrd.compare_self, Option.isSome_some]
    exact iff_of_false (by simp) fun none_ => none_ e.1 first

theorem exists_mem_keys {c : Catalog κ α} {k : κ} (held : c.contains k = true) :
    ∃ j ∈ c.keys, compare k j = .eq := by
  rw [contains_eq_isSome, get?] at held
  unfold keys
  generalize c.entries = entries at held
  induction entries with
  | nil => cases held
  | cons e rest ih =>
    rw [Pairs.find_cons] at held
    by_cases same : compare k e.1 = .eq
    · exact ⟨e.1, List.mem_cons_self, same⟩
    · rw [if_neg same] at held
      obtain ⟨j, mem, same⟩ := ih held
      exact ⟨j, List.mem_cons_of_mem _ mem, same⟩

section Contains

variable [Std.TransOrd κ]

theorem contains_insertNew_iff {c : Catalog κ α} {j k : κ} {a : α} :
    (c.insertNew k a).contains j = true ↔ compare j k = .eq ∨ c.contains j = true := by
  unfold insertNew
  split
  · rename_i held
    refine ⟨Or.inr, fun h => h.elim (fun same => ?_) id⟩
    rw [contains_eq_isSome, get?, Pairs.find_congr same]
    exact held
  · rw [contains_eq_isSome, contains_eq_isSome, get?, insert, Pairs.find_place]
    split
    · rename_i same
      simp [same]
    · rename_i other
      simp [other, get?]

theorem contains_erase_iff {c : Catalog κ α} {j k : κ} :
    (c.erase k).contains j = true ↔ compare j k ≠ .eq ∧ c.contains j = true := by
  rw [contains_eq_isSome, contains_eq_isSome, get?, erase, Pairs.find_drop]
  split
  · rename_i same
    simp [same]
  · rename_i other
    simp [other, get?]

end Contains

variable [Std.TransOrd κ] [Std.LawfulEqOrd κ] [DecidableEq κ]

theorem get?_insert (c : Catalog κ α) (j k : κ) (a : α) :
    (c.insert k a).get? j = if j = k then some a else c.get? j := by
  refine (Pairs.find_place j k a c.entries).trans ?_
  simp only [Std.LawfulEqCmp.compare_eq_iff_eq]
  rfl

@[simp] theorem get?_insert_self (c : Catalog κ α) (k : κ) (a : α) :
    (c.insert k a).get? k = some a := by
  rw [get?_insert, if_pos rfl]

theorem get?_append (c : Catalog κ (List α)) (j k : κ) (a : α) :
    (c.append k a).get? j = if j = k then some ((c.get? k).getD [] ++ [a]) else c.get? j :=
  get?_insert ..

theorem get?_insertNew (c : Catalog κ α) (j k : κ) (a : α) :
    (c.insertNew k a).get? j = if j = k then some ((c.get? k).getD a) else c.get? j := by
  unfold insertNew
  rw [contains_eq_isSome]
  cases held : c.get? k with
  | some b =>
    rw [if_pos (Option.isSome_some ..)]
    split
    · rename_i same; rw [same, held]; rfl
    · rfl
  | none => exact get?_insert c j k a

theorem get?_erase (c : Catalog κ α) (j k : κ) :
    (c.erase k).get? j = if j = k then none else c.get? j := by
  refine (Pairs.find_drop j k c.entries).trans ?_
  simp only [Std.LawfulEqCmp.compare_eq_iff_eq]
  rfl

@[simp] theorem get?_erase_self (c : Catalog κ α) (k : κ) : (c.erase k).get? k = none := by
  rw [get?_erase, if_pos rfl]

/-- Pairs in order put into a catalog: each is found, over what was there. -/
theorem get?_insertAll (k : κ) : ∀ {pairs : List (κ × α)} (c : Catalog κ α),
    Pairs.Increasing pairs → (c.insertAll pairs).get? k = (Pairs.find k pairs).or (c.get? k)
  | [], _, _ => rfl
  | (j, a) :: rest, c, order => by
    obtain ⟨first, later⟩ := List.pairwise_cons.mp order
    have step : c.insertAll ((j, a) :: rest) = (c.insert j a).insertAll rest := rfl
    rw [step, get?_insertAll k _ later, get?_insert, Pairs.find_cons]
    simp only [Std.LawfulEqCmp.compare_eq_iff_eq]
    by_cases same : k = j
    · subst same
      rw [Pairs.find_eq_none first, if_pos rfl, if_pos rfl]
      rfl
    · rw [if_neg same, if_neg same]

/-- The values of a function put in for several keys. -/
theorem get?_insertAll_map (g : κ → α) (k : κ) : ∀ (keys : List κ) (c : Catalog κ α),
    (c.insertAll (keys.map fun j => (j, g j))).get? k = if k ∈ keys then some (g k) else c.get? k
  | [], _ => rfl
  | j :: keys, c => by
    have step : c.insertAll ((j :: keys).map fun j => (j, g j)) =
        (c.insert j (g j)).insertAll (keys.map fun j => (j, g j)) := rfl
    rw [step, get?_insertAll_map g k keys, get?_insert]
    by_cases mem : k ∈ keys
    · simp [mem]
    · by_cases same : k = j
      · simp [same]
      · simp [mem, same]

theorem get?_ofList_map (g : κ → α) (keys : List κ) (k : κ) :
    (ofList (keys.map fun j => (j, g j))).get? k = if k ∈ keys then some (g k) else none :=
  get?_insertAll_map g k keys empty

omit [DecidableEq κ] in
theorem mem_entries_iff {c : Catalog κ α} {k : κ} {a : α} :
    (k, a) ∈ c.entries ↔ c.get? k = some a :=
  ⟨Pairs.find_of_mem c.increasing, Pairs.mem_of_find⟩

omit [Std.LawfulEqOrd κ] [DecidableEq κ] in
theorem nodup_keys (c : Catalog κ α) : c.keys.Nodup :=
  c.increasing.nodup_keys

omit [DecidableEq κ] in
/-- **Catalogs are what they hold.** -/
theorem ext_get? {c d : Catalog κ α} (h : ∀ k, c.get? k = d.get? k) : c = d := by
  obtain ⟨l, hl⟩ := c
  obtain ⟨m, hm⟩ := d
  obtain rfl : l = m := Pairs.eq_of_find hl hm h
  rfl

end Catalog

end ElmAssist
