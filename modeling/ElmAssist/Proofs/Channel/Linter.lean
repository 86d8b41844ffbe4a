import ElmAssist.Channel.Linter
import ElmAssist.Proofs.Channel.Findings

/-!
# Channel — Linter runs over a project

What a run over a whole project finds, and what finishing it does.

* `FindsIn`: the output of the linter has an error in a file that is not suppressed.
* `listOf_byUri`: the list of a file is that of its issues.
* `found_spec`: the findings of a run name exactly the files in which it finds something.
* `finish_project`: a run is dropped when it is overtaken; else it reports what it found, clears
  what was flagged, and flags the files in which it found something.
-/

namespace ElmAssist

namespace LinterChannel

variable {l : LinterChannel}

/-! ### What a run finds -/

/-- What the linter answers when it is run over the project. -/
def answer (l : LinterChannel) (runner : Tool.Runner Id) : Except Fault Tool.Output :=
  Tool.run runner l.root ⟨l.program, l.args, none⟩

/-- A run over the project finds an error in a file: the output has one that is not suppressed, of
the path of the file. -/
def FindsIn (l : LinterChannel) (runner : Tool.Runner Id) (uri : String) : Prop :=
  ∃ output issues, l.answer runner = .ok output ∧ LintIssue.parse output.stdout = .ok issues ∧
    ∃ i ∈ issues, ∃ p, i.path = some p ∧ l.uriOf p = uri

/-- The findings of a run over the project. A run that fails finds nothing. -/
def found (l : LinterChannel) (runner : Tool.Runner Id) (target : Option String) : Findings :=
  ((l.answer runner).bind (l.readOutput target)).toOption.getD .empty

/-- Issues are filed under the uris that they belong to. -/
theorem files_byUri (target : Option String) (issues : List LintIssue) :
    (l.byUri target issues).Files issues (l.uriOf? target) l.diagnostic :=
  Findings.files_ofProblems issues

/-- The lists of issues are not empty, and are those of the files of the issues. -/
theorem byUri_spec (target : Option String) (uri : String) (issues : List LintIssue) :
    ((l.byUri target issues).contains uri = true ↔ ∃ i ∈ issues, l.uriOf? target i = some uri) ∧
      ((l.byUri target issues).contains uri = true ↔ (l.byUri target issues).listOf uri ≠ []) :=
  ⟨(files_byUri target issues).named uri, (files_byUri target issues).listOf_ne_nil_iff.symm⟩

/-- **The list of a file has the diagnostics of its issues**, in the order of the report. -/
theorem listOf_byUri (target : Option String) (uri : String) (issues : List LintIssue) :
    (l.byUri target issues).listOf uri =
      (issues.filter fun i => l.uriOf? target i == some uri).map (l.diagnostic uri) :=
  (files_byUri target issues).inOrder uri

/-- **A run names the files in which it finds something**, and no list of its is empty. -/
theorem found_spec (project : l.perFile = false) (runner : Tool.Runner Id)
    (target : Option String) (uri : String) :
    ((l.found runner target).contains uri = true ↔ l.FindsIn runner uri) ∧
      ((l.found runner target).listOf uri ≠ [] ↔ l.FindsIn runner uri) := by
  have path : ∀ i, l.uriOf? target i = some uri ↔
      ∃ p, i.path = some p ∧ l.uriOf p = uri := fun i => by
    simp [uriOf?, project]
  unfold found FindsIn
  cases l.answer runner with
  | error e => simp [Except.bind, Except.toOption, Findings.listOf]
  | ok output =>
    cases parsed : LintIssue.parse output.stdout with
    | error e => simp [Except.bind, Except.toOption, readOutput, parsed, Findings.listOf]
    | ok issues =>
      have spec := byUri_spec (l := l) target uri issues
      simp only [path] at spec
      simpa [Except.bind, Except.toOption, readOutput, parsed, ← spec.2] using spec.1

/-- To run over a project is to finish with what is found, whatever the target. -/
theorem run_project (project : l.perFile = false) (runner : Tool.Runner Id) (machine : Machine)
    (sequence : Nat) (target : Option String) :
    l.run runner machine sequence target =
      (pure (l.finish sequence target (l.found runner target)) : Id _) := by
  have command : l.command machine target = .ok (some ⟨l.program, l.args, none⟩) := by
    simp [LinterChannel.command, project]
  unfold run lint
  rw [command]
  rfl

/-- The report of a run is one of the linter. -/
theorem channel_of_finish {sequence : Nat} {target : Option String} {found : Findings} {r : Report}
    (report : (l.finish sequence target found).2 = some r) : r.channel = .linter := by
  unfold finish at report
  split at report
  · cases report
  · cases report
    rfl

/-- **A run over the project finishes.** -/
theorem finish_project (project : l.perFile = false) (sequence : Nat) (target : Option String)
    (found : Findings) :
    l.finish sequence target found =
      if sequence < l.completed then (l, none)
      else ({ l with completed := sequence, flagged := found.troubled },
        some ⟨.linter, sequence, found.withCleared (l.flagged ++ target.toList)⟩) := by
  obtain ⟨cwd, root, program, args, perFile, texts, flagged, completed⟩ := l
  cases project
  -- All that was flagged is cleared, so nothing of it is kept and everything found is new.
  have kept : flagged.filter (fun uri => !decide (uri ∈ flagged)) = [] :=
    List.filter_eq_nil_iff.mpr fun uri mem => by simp [mem]
  have fresh : found.troubled.filter (fun _ => true) = found.troubled :=
    List.filter_eq_self.mpr fun _ _ => rfl
  simp [finish, isOvertaken, stale, kept, fresh]

end LinterChannel

end ElmAssist
