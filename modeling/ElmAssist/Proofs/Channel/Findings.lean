import ElmAssist.Proofs.Board.Newest
import Mathlib.Data.List.Induction
import Mathlib.Data.List.Perm.Basic

/-!
# Channel — Findings

What the reports of tools say file by file. A report names the files that something was found in and
those that it clears; the list of a file that is only cleared is empty.

* `get?_withCleared_eq_some_iff`: what a report names, and the lists in it.
* `Files`: each problem of a report has one diagnostic in one list, in the order of the report.
* `files_ofProblems`: findings to which problems are added one by one are such.
-/

namespace ElmAssist

namespace Findings

variable {found : Findings} {uri : String}

/-- What was found in a file; nothing when it is not named. -/
def listOf (found : Findings) (uri : String) : List Diagnostic :=
  (found.get? uri).getD []

theorem mem_troubled_iff : uri ∈ found.troubled ↔ found.listOf uri ≠ [] := by
  unfold troubled listOf
  simp only [List.mem_map, List.mem_filter, Prod.exists, exists_and_right, exists_eq_right,
    Catalog.mem_entries_iff]
  cases found.get? uri with
  | none => simp
  | some ds => cases ds <;> simp

theorem contains_of_listOf (some_ : found.listOf uri ≠ []) : found.contains uri = true := by
  rw [Catalog.contains_eq_isSome]
  unfold listOf at some_
  cases held : found.get? uri with
  | none => simp [held] at some_
  | some ds => rfl

/-- **A report names what was found and what is cleared**, with what was found. -/
theorem get?_withCleared_eq_some_iff {uris : List String} {ds : List Diagnostic} :
    (found.withCleared uris).get? uri = some ds ↔
      (found.contains uri = true ∨ uri ∈ uris) ∧ ds = found.listOf uri := by
  have cleared : (Catalog.ofList (uris.map fun u => (u, ([] : List Diagnostic)))).get? uri =
      if uri ∈ uris then some [] else none := Catalog.get?_ofList_map ..
  have all : (found.withCleared uris).get? uri =
      (found.get? uri).or (if uri ∈ uris then some [] else none) := by
    unfold withCleared
    rw [Catalog.get?_insertAll uri _ found.increasing, cleared]
    rfl
  rw [all, Catalog.contains_eq_isSome, listOf]
  cases found.get? uri with
  | some found => simp [eq_comm]
  | none => by_cases mem : uri ∈ uris <;> simp [mem, eq_comm]

/-! ### Filing -/

/-- The diagnostics of all lists, each with the uri of its list. -/
def pairsOf (entries : List (String × List Diagnostic)) : List (String × Diagnostic) :=
  entries.flatMap fun e => e.2.map (e.1, ·)

theorem pairsOf_cons (u : String) (ds : List Diagnostic)
    (rest : List (String × List Diagnostic)) :
    pairsOf ((u, ds) :: rest) = ds.map (u, ·) ++ pairsOf rest := rfl

theorem pairsOf_place (d : Diagnostic) : ∀ {entries : List (String × List Diagnostic)},
    Pairs.Increasing entries →
    (pairsOf (Pairs.place uri ((Pairs.find uri entries).getD [] ++ [d]) entries)).Perm
      (pairsOf entries ++ [(uri, d)])
  | [], _ => .refl _
  | (u, ds) :: rest, order => by
    obtain ⟨first, later⟩ := List.pairwise_cons.mp order
    unfold Pairs.place
    split
    · rename_i less
      have none_ : Pairs.find uri ((u, ds) :: rest) = none := by
        refine Pairs.find_eq_none fun e mem => ?_
        rcases List.mem_cons.mp mem with rfl | mem
        · exact less
        · exact Std.TransCmp.lt_trans less (first e mem)
      rw [none_, pairsOf_cons]
      exact List.perm_append_comm
    · rename_i same
      obtain rfl := Std.LawfulEqOrd.eq_of_compare same
      rw [Pairs.find_cons, if_pos same, pairsOf_cons, pairsOf_cons, Option.getD_some,
        List.map_append, List.append_assoc, List.append_assoc]
      exact List.perm_append_comm.append_left _
    · rename_i more
      have other : compare uri u ≠ .eq := by
        rw [more]
        nofun
      rw [Pairs.find_cons, if_neg other, pairsOf_cons, pairsOf_cons, List.append_assoc]
      exact (pairsOf_place d later).append_left _

/-- A diagnostic that is added is there once more, with its uri. -/
theorem pairsOf_append (found : Findings) (uri : String) (d : Diagnostic) :
    (pairsOf (found.append uri d).entries).Perm (pairsOf found.entries ++ [(uri, d)]) :=
  pairsOf_place d found.increasing

variable {α : Type} {uri? : α → Option String} {diagnostic : String → α → Diagnostic}

/-- Findings to which the diagnostics of problems are added one by one. Problems without a uri are
left out. -/
def ofProblems (uri? : α → Option String) (diagnostic : String → α → Diagnostic)
    (problems : List α) : Findings :=
  problems.foldl (fun found p =>
    match uri? p with
    | some uri => found.append uri (diagnostic uri p)
    | none => found) .empty

/-- Each problem that has a uri has one diagnostic, which is in the list of this uri, and the lists
are in the order of the problems. -/
structure Files (found : Findings) (problems : List α) (uri? : α → Option String)
    (diagnostic : String → α → Diagnostic) : Prop where
  /-- The diagnostics that there are, with their uris, are those of the problems that have a uri. -/
  once : (pairsOf found.entries).Perm
    (problems.filterMap fun p => (uri? p).map fun uri => (uri, diagnostic uri p))
  /-- A list has the diagnostics of the problems of its uri, in order. -/
  inOrder : ∀ uri, found.listOf uri =
    (problems.filter fun p => uri? p == some uri).map (diagnostic uri)
  /-- Only the uris of problems have a list. -/
  named : ∀ uri, found.contains uri = true ↔ ∃ p ∈ problems, uri? p = some uri

/-- One problem more stands at the end of the list of its uri. -/
theorem ofProblems_concat (problems : List α) (p : α) :
    ofProblems uri? diagnostic (problems ++ [p]) =
      match uri? p with
      | some uri => (ofProblems uri? diagnostic problems).append uri (diagnostic uri p)
      | none => ofProblems uri? diagnostic problems := by
  rw [ofProblems, List.foldl_append]
  rfl

/-- **Findings file each problem once.** -/
theorem files_ofProblems (problems : List α) :
    (ofProblems uri? diagnostic problems).Files problems uri? diagnostic := by
  induction problems using List.reverseRecOn with
  | nil => exact ⟨.refl _, fun uri => rfl, fun uri => by simp [ofProblems]⟩
  | append_singleton problems p ih =>
    obtain ⟨once, inOrder, named⟩ := ih
    rw [ofProblems_concat]
    cases here : uri? p with
    | none =>
      refine ⟨by simpa [here] using once, fun uri => ?_, fun uri => ?_⟩
      · simpa [here] using inOrder uri
      · simpa [here] using named uri
    | some u =>
      dsimp only
      refine ⟨?_, fun uri => ?_, fun uri => ?_⟩
      · rw [List.filterMap_append]
        simpa [here] using (pairsOf_append _ u (diagnostic u p)).trans (once.append_right _)
      · unfold listOf at inOrder ⊢
        rw [Catalog.get?_append, List.filter_append, List.map_append, ← inOrder]
        by_cases same : uri = u
        · simp [same, here]
        · simp [same, here, Ne.symm same]
      · simp only [Catalog.contains_eq_isSome] at named ⊢
        rw [Catalog.get?_append]
        by_cases same : uri = u
        · simp [same, here]
        · simpa [same, here, Ne.symm same] using named uri

/-- What is filed of the images of problems is filed of the problems. -/
theorem Files.of_map {β : Type} {g : β → α} {problems : List β}
    (h : found.Files (problems.map g) uri? diagnostic) :
    found.Files problems (fun p => uri? (g p)) fun uri p => diagnostic uri (g p) := by
  obtain ⟨once, inOrder, named⟩ := h
  refine ⟨?_, fun uri => ?_, fun uri => ?_⟩
  · rwa [List.filterMap_map] at once
  · rw [inOrder, List.filter_map, List.map_map]
    rfl
  · rw [named]
    simp

/-- The lists that there are, are not empty. -/
theorem Files.listOf_ne_nil_iff {problems : List α} (h : found.Files problems uri? diagnostic) :
    found.listOf uri ≠ [] ↔ found.contains uri = true := by
  rw [h.inOrder, h.named, Ne, List.map_eq_nil_iff, List.filter_eq_nil_iff]
  simp

end Findings

/-- The board shows problems of a channel in a file. -/
def Board.Flags (b : Board) (uri : String) (c : Channel) : Prop :=
  ∃ slot, b.slot? uri c = some slot ∧ slot.diagnostics ≠ []

end ElmAssist
