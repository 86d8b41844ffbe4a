import ElmAssist.Diagnostic.Check
import ElmAssist.Proofs.Name.Scope
import ElmAssist.Proofs.Tree.Rooted

/-!
# Diagnostic — Source that does not parse

The live check reports nodes that the parser did not find in order, as errors, and leaves out those
around which source does not parse. It looks for such source from the parent of the parent on: what
stands directly below an outermost error is reported beside it.

* `IsReported`: a node that is out of order, with no error above its parent.
* `errors_check`: the errors of a check are those of these nodes, once each and in source order.
* `errors_reported_iff`: they are those of the outermost nodes exactly when nothing directly below an
  outermost error is out of order. A file that has errors at all has one that is reported.
* `direct_children_reported`: a file of which two nodes inside of an error are reported.
-/

namespace ElmAssist.Forest

variable {parse : Parser} {s : Forest} {access : Access} {uri : String} {f : SourceFile} {t : Tree}

/-! ### Nodes that count -/

/-- Nothing above a node fails to parse. -/
def IsOutermost (t : Tree) (i : NodeId) : Prop :=
  ∀ a ∈ t.ancestors i, t.kind a ≠ .error

/-- A node is out of order, and nothing above its parent fails to parse. -/
def IsReported (t : Tree) (i : NodeId) : Prop :=
  (t.kind i).isDefect = true ∧ ∀ p ∈ t.parent? i, IsOutermost t p

instance (t : Tree) (i : NodeId) : Decidable (IsOutermost t i) :=
  inferInstanceAs (Decidable (∀ a ∈ t.ancestors i, t.kind a ≠ .error))

instance (t : Tree) (i : NodeId) : Decidable (IsReported t i) :=
  inferInstanceAs (Decidable (_ ∧ ∀ p ∈ t.parent? i, IsOutermost t p))

/-- The error that is reported for a node. -/
def errorAt (f : SourceFile) (i : NodeId) : Diagnostic :=
  problemAt f i .error (if f.tree.kind i = .missing
    then "Missing " ++ (f.tree.grammar? i).getD "token" else "Syntax error")

theorem isOutermost_iff (h : t.Linked) (i : NodeId) :
    IsOutermost t i ↔ ∀ p ∈ t.parent? i, t.kind p ≠ .error ∧ IsOutermost t p := by
  rw [IsOutermost, h.ancestors_eq]
  cases t.parent? i <;> simp [IsOutermost]

theorem isInsideError_eq_false_iff (h : t.Linked) (i : NodeId) :
    isInsideError t i = false ↔ ∀ p ∈ t.parent? i, IsOutermost t p := by
  rw [isInsideError, h.ancestors_eq]
  cases t.parent? i <;> simp [IsOutermost]

/-- **Which nodes are reported**, by the rule that leaves out what is inside of an error: they are
the outermost ones, and those directly below an error that is outermost. -/
theorem isReported_iff (h : t.Linked) (i : NodeId) :
    IsReported t i ↔ (t.kind i).isDefect = true ∧ (IsOutermost t i ∨
      ∃ p, t.parent? i = some p ∧ t.kind p = .error ∧ IsOutermost t p) := by
  rw [IsReported, isOutermost_iff h]
  cases t.parent? i with
  | none => simp
  | some p => by_cases broken : t.kind p = .error <;> simp [broken]

/-! ### What is reported -/

theorem defects_eq (h : f.tree.Linked) :
    defects f = (f.tree.all.filter fun i => IsReported f.tree i).map (errorAt f) := by
  have counts : ∀ i, IsReported f.tree i ↔
      (f.tree.kind i).isDefect = true ∧ isInsideError f.tree i = false := fun i => by
    rw [isInsideError_eq_false_iff h]
    rfl
  rw [← List.filterMap_eq_map, List.filterMap_filter, defects]
  congr 1
  funext i
  simp only [counts]
  cases isInsideError f.tree i with
  | true => simp
  | false =>
    cases kind : f.tree.kind i <;> simp [defectMessage?, errorAt, kind, Kind.isDefect]

theorem severity_of_mem_duplications {d : Diagnostic} (mem : d ∈ s.duplications f) :
    d.severity = .warning := by
  unfold duplications at mem
  split at mem
  · cases mem
  · split at mem
    · cases List.mem_singleton.mp mem
      rfl
    · cases mem

theorem severity_of_mem_unresolved {d : Diagnostic} (mem : d ∈ s.unresolved access f) :
    d.severity = .warning := by
  obtain ⟨i, -, found⟩ := List.mem_filterMap.mp mem
  unfold unresolvedAt? at found
  dsimp only at found
  split at found
  · obtain ⟨message, -, rfl⟩ := Option.map_eq_some_iff.mp found
    rfl
  · cases found

/-- **The errors of a check are those of the reported nodes**, once each and in source order; all
else is a warning. -/
theorem errors_check (h : Sound parse s) (rooted : Tree.Rooted (parse f.text))
    (held : s.get? uri = some f) :
    (s.check access uri).filter (fun d => d.severity = .error) =
      ((List.range f.tree.size).filter fun i => IsReported f.tree i).map (errorAt f) := by
  obtain ⟨-, linked, -⟩ := h.file held
  have all : f.tree.all = List.range f.tree.size := by
    obtain ⟨text, version, rfl⟩ := h.built uri f held
    exact rooted.all_eq_range
  have defects_ : (defects f).filter (fun d => d.severity = .error) = defects f := by
    rw [defects_eq linked]
    refine List.filter_eq_self.mpr fun d mem => ?_
    obtain ⟨i, -, rfl⟩ := List.mem_map.mp mem
    rfl
  have others : ∀ {ds : List Diagnostic}, (∀ d ∈ ds, d.severity = .warning) →
      ds.filter (fun d => d.severity = .error) = [] := fun warnings =>
    List.filter_eq_nil_iff.mpr fun d mem => by simp [warnings d mem]
  rw [check, held]
  dsimp only
  rw [List.filter_append, List.filter_append, defects_,
    others fun d => severity_of_mem_duplications, others fun d => severity_of_mem_unresolved,
    List.append_nil, List.append_nil, defects_eq linked, all]

/-- The first node that is out of order has none above it that is. -/
theorem exists_outermost (h : t.Linked) (broken : t.hasErrors = true) :
    ∃ i < t.size, (t.kind i).isDefect = true ∧ IsOutermost t i := by
  have some_ : ∃ i, i < t.size ∧ (t.kind i).isDefect = true := by
    obtain ⟨i, inside, defect⟩ := Array.any_eq_true.mp broken
    refine ⟨i, inside, ?_⟩
    rw [Tree.kind, Tree.get?, Array.getElem?_eq_getElem inside]
    exact defect
  classical
  obtain ⟨inside, defect⟩ := Nat.find_spec some_
  refine ⟨Nat.find some_, inside, defect, fun a above broken => ?_⟩
  have before : a < Nat.find some_ := h.lt_of_above ((h.mem_ancestors_iff _).mp above)
  exact Nat.find_min some_ before ⟨Nat.lt_trans before inside, by rw [broken]; rfl⟩

/-- Of two checks, the second of which lets less through, the same is listed exactly when it lets
through all that the first does. -/
theorem map_filter_eq_iff {α β : Type} {l : List α} {g : α → β} {p q : α → Bool}
    (less : ∀ a, q a = true → p a = true) :
    (l.filter p).map g = (l.filter q).map g ↔ ∀ a ∈ l, p a = true → q a = true := by
  constructor
  · intro same a mem here
    have sub : (l.filter q).Sublist (l.filter p) := List.monotone_filter_right l less
    have length : (l.filter q).length = (l.filter p).length := by
      simpa using (congrArg List.length same).symm
    have listed : a ∈ l.filter q := sub.eq_of_length length ▸ List.mem_filter.mpr ⟨mem, here⟩
    exact (List.mem_filter.mp listed).2
  · intro more
    have same : l.filter p = l.filter q := List.filter_congr fun a mem =>
      Bool.eq_iff_iff.mpr ⟨more a mem, less a⟩
    rw [same]

/-- **Which errors are reported.** The errors of a check of a file are those of the nodes that are
out of order and have nothing above their parent that fails to parse, once each and in source order.
They are those of the outermost such nodes, with nothing above them that fails to parse, exactly when
nothing is out of order that stands directly below an outermost error. There is one as soon as the
parser did not find everything in order. -/
theorem errors_reported_iff (parse : Parser) (edits : List Edit) (access : Access) {uri : String}
    {f : SourceFile} (held : (after parse edits).get? uri = some f)
    (rooted : Tree.Rooted (parse f.text)) :
    let t := f.tree
    let errors := ((after parse edits).check access uri).filter fun d => d.severity = .error
    errors = ((List.range t.size).filter fun i => (t.kind i).isDefect ∧
        ∀ p ∈ t.parent? i, ∀ a ∈ t.ancestors p, t.kind a ≠ .error).map (errorAt f) ∧
      (errors = ((List.range t.size).filter fun i => (t.kind i).isDefect ∧
          ∀ a ∈ t.ancestors i, t.kind a ≠ .error).map (errorAt f) ↔
        ∀ i p, (t.kind i).isDefect = true → t.parent? i = some p → t.kind p = .error →
          ∃ a ∈ t.ancestors p, t.kind a = .error) ∧
      (t.hasErrors = true → errors ≠ []) := by
  intro t errors
  have h : Sound parse (after parse edits) := sound_after edits
  obtain ⟨-, linked, -⟩ := h.file held
  have reported : errors = ((List.range t.size).filter fun i => IsReported t i).map (errorAt f) :=
    errors_check h rooted held
  refine ⟨reported, ?_, fun broken => ?_⟩
  · rw [reported]
    refine (map_filter_eq_iff fun i outermost => ?_).trans ?_
    · obtain ⟨defect, outermost⟩ := of_decide_eq_true outermost
      exact decide_eq_true ((isReported_iff linked i).mpr ⟨defect, Or.inl outermost⟩)
    simp only [List.mem_range, decide_eq_true_eq]
    constructor
    · intro only i p defect up broken
      by_contra outermost
      have outermost : IsOutermost t p := fun a mem error => outermost ⟨a, mem, error⟩
      have counts := (isReported_iff linked i).mpr ⟨defect, Or.inr ⟨p, up, broken, outermost⟩⟩
      have above := (linked.mem_ancestors_iff i).mpr (.parent up)
      exact (only i (Tree.lt_size_of_parent? up) counts).2 p above broken
    · intro none_below i inside counts
      obtain ⟨defect, outermost | ⟨p, up, broken, outermost⟩⟩ := (isReported_iff linked i).mp counts
      · exact ⟨defect, outermost⟩
      · obtain ⟨a, mem, error⟩ := none_below i p defect up broken
        exact absurd error (outermost a mem)
  · obtain ⟨i, inside, defect, outermost⟩ := exists_outermost linked broken
    have listed : errorAt f i ∈ errors := by
      rw [reported]
      refine List.mem_map_of_mem (List.mem_filter.mpr ⟨List.mem_range.mpr inside, ?_⟩)
      exact decide_eq_true ((isReported_iff linked i).mpr ⟨defect, Or.inl outermost⟩)
    exact List.ne_nil_of_mem listed

/-- The rows of a text that is no source at all: an error with two more directly below it. -/
def scatteredRows : List Row :=
  let row depth kind start stop : Row :=
    ⟨depth, kind, kind.label, ⟨⟨0, start⟩, ⟨0, stop⟩, start, stop⟩⟩
  [row 0 .file 0 21, row 1 .error 0 21, row 2 .error 4 5, row 2 .error 7 10, row 2 .other 11 13,
    row 2 .other 13 15]

/-- The text of the rows. -/
def scatteredText : String := "\x7d\x7b)(][ ;;; ->-> :: =="

/-- The file of the text. -/
def scatteredFile : SourceFile :=
  .build (.constant scatteredRows) "file:///M.elm" scatteredText 1

/-- The forest of the file. -/
def scattered : Forest :=
  after (.constant scatteredRows) [.set "file:///M.elm" scatteredText 1]

theorem scattered_held : scattered.get? "file:///M.elm" = some scatteredFile :=
  Catalog.get?_insert_self ..

/-- All three errors of the text are reported. -/
theorem scattered_reported :
    scattered.get? "file:///M.elm" = some scatteredFile ∧
      Tree.Rooted (Parser.constant scatteredRows scatteredFile.text) ∧
      (scattered.check .anyTopLevel "file:///M.elm").filter (fun d => d.severity = .error) =
        [errorAt scatteredFile 1, errorAt scatteredFile 2, errorAt scatteredFile 3] := by
  have rooted : Tree.Rooted (Parser.constant scatteredRows scatteredFile.text) := by decide
  refine ⟨scattered_held, rooted, ?_⟩
  obtain ⟨reported, -⟩ := errors_reported_iff (.constant scatteredRows)
    [.set "file:///M.elm" scatteredText 1] .anyTopLevel scattered_held rooted
  have nodes : ((List.range scatteredFile.tree.size).filter fun i =>
      (scatteredFile.tree.kind i).isDefect ∧ ∀ p ∈ scatteredFile.tree.parent? i,
        ∀ a ∈ scatteredFile.tree.ancestors p, scatteredFile.tree.kind a ≠ .error) = [1, 2, 3] := by
    decide +kernel
  exact reported.trans (congrArg (List.map (errorAt scatteredFile)) nodes)

/-- **What stands directly below an error is reported beside it.** Of the three errors of the text
only the first has none above it. -/
theorem direct_children_reported :
    ¬ ∀ (parse : Parser) (edits : List Edit) (access : Access) (uri : String) (f : SourceFile),
      (after parse edits).get? uri = some f → Tree.Rooted (parse f.text) →
      ((after parse edits).check access uri).filter (fun d => d.severity = .error) =
        ((List.range f.tree.size).filter fun i => (f.tree.kind i).isDefect ∧
          ∀ a ∈ f.tree.ancestors i, f.tree.kind a ≠ .error).map (errorAt f) := by
  intro outermost
  have claimed := outermost (.constant scatteredRows) [.set "file:///M.elm" scatteredText 1]
    .anyTopLevel "file:///M.elm" scatteredFile scattered_held (by decide)
  have three : ((scattered.check .anyTopLevel "file:///M.elm").filter
      fun d => d.severity = .error).length = 3 := by decide +kernel
  have one : (((List.range scatteredFile.tree.size).filter fun i =>
      (scatteredFile.tree.kind i).isDefect ∧
        ∀ a ∈ scatteredFile.tree.ancestors i, scatteredFile.tree.kind a ≠ .error).map
          (errorAt scatteredFile)).length = 1 := by decide +kernel
  have length := three.symm.trans ((congrArg List.length claimed).trans one)
  exact absurd length (by decide)

end ElmAssist.Forest
