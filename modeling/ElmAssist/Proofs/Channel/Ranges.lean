import ElmAssist.Proofs.Channel.Linter
import ElmAssist.Proofs.Text.Clamp

/-!
# Channel — Ranges of lint reports

A linter reports places of the text that it read, by lines and columns that may be any numbers. The
channel moves them into its own copy of the text.

* `LinterChannel.eq_diagnostic_of_mem_report`: what a run reports are the diagnostics of issues.
* `clamp_moves_into_text`: moving a range into a text gives a range of the text, keeps those that are
  one already, and keeps the order of positions. So the ranges that a run reports for a file whose
  text the channel has are ranges of that text.
-/

namespace ElmAssist

/-- Both ends are positions of the text. -/
def Range.Inside (text : String) (r : Range) : Prop :=
  IsPosition text r.start ∧ IsPosition text r.stop

namespace LinterChannel

variable {l : LinterChannel} {uri text : String} {ds : List Diagnostic} {d : Diagnostic}

/-- What is read from an output are the diagnostics of issues; what cannot be read has none. -/
theorem exists_readOutput_eq (l : LinterChannel) (target : Option String)
    (answer : Except Fault Tool.Output) :
    ∃ issues, (answer.bind (l.readOutput target)).toOption.getD .empty = l.byUri target issues := by
  cases answer with
  | error e => exact ⟨[], rfl⟩
  | ok output =>
    rw [Except.bind, readOutput]
    cases LintIssue.parse output.stdout with
    | error e => exact ⟨[], rfl⟩
    | ok issues => exact ⟨issues, rfl⟩

/-- **A run finishes with the findings of some issues**, none when it fails. -/
theorem exists_run_eq (l : LinterChannel) (runner : Tool.Runner Id) (machine : Machine)
    (sequence : Nat) (target : Option String) :
    ∃ issues, Id.run (l.run runner machine sequence target) =
      l.finish sequence target (l.byUri target issues) := by
  have found : ∃ issues, (Id.run (l.lint runner machine target)).toOption.getD .empty =
      l.byUri target issues := by
    unfold lint
    cases l.command machine target with
    | error e => exact ⟨[], rfl⟩
    | ok command =>
      cases command with
      | none => exact ⟨[], rfl⟩
      | some command => exact l.exists_readOutput_eq target (Id.run (Tool.run runner l.root command))
  obtain ⟨issues, eq⟩ := found
  exact ⟨issues, congrArg (l.finish sequence target) eq⟩

/-- What a run reports for a file are diagnostics of issues. -/
theorem eq_diagnostic_of_mem_report {runner : Tool.Runner Id} {machine : Machine} {sequence : Nat}
    {target : Option String} {report : Report}
    (sent : (Id.run (l.run runner machine sequence target)).2 = some report)
    (listed : report.files.get? uri = some ds) (mem : d ∈ ds) : ∃ i, d = l.diagnostic uri i := by
  obtain ⟨issues, run⟩ := l.exists_run_eq runner machine sequence target
  rw [run, finish] at sent
  split at sent
  · cases sent
  · cases sent
    obtain ⟨-, rfl⟩ := Findings.get?_withCleared_eq_some_iff.mp listed
    rw [listOf_byUri] at mem
    obtain ⟨i, -, rfl⟩ := List.mem_map.mp mem
    exact ⟨i, rfl⟩

/-- The range of a diagnostic is moved into the text that the channel has. -/
theorem diagnostic_of_held (held : l.text? uri = some text) (i : LintIssue) :
    l.diagnostic uri i =
      { i.diagnostic with range := (Lines.ofText text).clamp i.diagnostic.range } := by
  rw [diagnostic, held]

end LinterChannel

/-- **Ranges are moved into the text.** The ends of a range that was moved are positions of the text:
on one of its lines, not past the end of what is shown of it, and not in the middle of a surrogate
pair. Moving it again changes nothing, nor does moving a range of the text, and positions stay in
order. So the ranges that a lint run reports for a file whose text the channel has are ranges of
that text. -/
theorem clamp_moves_into_text (text : String) :
    let lines := Lines.ofText text
    (∀ p, IsPosition text p ↔ p.line < lines.count ∧ ∃ shown, lines.visible? p.line = some shown ∧
        p.character ≤ Text.units shown ∧
        Text.splitsPair (Text.utf16 shown) p.character = false) ∧
      (∀ r, (lines.clamp r).Inside text) ∧
      (∀ r, lines.clamp (lines.clamp r) = lines.clamp r) ∧
      (∀ r, r.Inside text → lines.clamp r = r) ∧
      (∀ r, lines.clamp r = ⟨lines.clampPosition r.start, lines.clampPosition r.stop⟩) ∧
      (∀ p q, p ≤ q → lines.clampPosition p ≤ lines.clampPosition q) ∧
      (∀ r, r.start ≤ r.stop → (lines.clamp r).start ≤ (lines.clamp r).stop) ∧
      ∀ (l : LinterChannel) (runner : Tool.Runner Id) (machine : Machine) (sequence : Nat)
        (target : Option String) (report : Report) (uri : String) (ds : List Diagnostic)
        (d : Diagnostic),
        (Id.run (l.run runner machine sequence target)).2 = some report →
        report.files.get? uri = some ds → d ∈ ds → l.text? uri = some text →
          d.range.Inside text ∧
            ∃ i : LintIssue, d = { i.diagnostic with range := lines.clamp i.diagnostic.range } := by
  intro lines
  have inside : ∀ r, (lines.clamp r).Inside text := fun r =>
    ⟨isPosition_clampPosition text r.start, isPosition_clampPosition text r.stop⟩
  have same : ∀ r, r.Inside text → lines.clamp r = r := fun r within =>
    congrArg₂ Range.mk (clampPosition_eq_self within.1) (clampPosition_eq_self within.2)
  have ordered : ∀ p q, p ≤ q → lines.clampPosition p ≤ lines.clampPosition q := fun p q =>
    clampPosition_mono
  refine ⟨fun p => isPosition_iff_units, inside, fun r => same _ (inside r), same, fun r => rfl,
    ordered, fun r => ordered r.start r.stop, ?_⟩
  intro l runner machine sequence target report uri ds d sent listed mem held
  obtain ⟨i, rfl⟩ := LinterChannel.eq_diagnostic_of_mem_report sent listed mem
  rw [LinterChannel.diagnostic_of_held held]
  exact ⟨inside _, i, rfl⟩

/-- A channel with the text of an open file. -/
def holdingChannel : LinterChannel :=
  (LinterChannel.start (.ofString "/") (.ofString "/p") (.ofString "elm-review") [] false).update
    "file:///p/A.elm"
    "s = \"😀\"\r\n"

/-- A linter that finds an error from the middle of a surrogate pair to far behind the text. -/
def farLinter : Tool.Runner Id := fun _ _ =>
  .ok ⟨1, "\x7b\"type\":\"review-errors\",\"errors\":[\x7b\"path\":\"A.elm\",\"errors\":[" ++
    "\x7b\"region\":\x7b\"start\":\x7b\"column\":7\x7d,\"end\":\x7b\"line\":99\x7d\x7d\x7d]\x7d]\x7d", ""⟩

/-- The range is moved to where the pair ends and to the end of the text, where it stays. -/
theorem far_range_moved :
    let text := "s = \"😀\"\r\n"
    let d : Diagnostic := ⟨.linter, ⟨⟨0, 7⟩, ⟨1, 0⟩⟩, .warning, ""⟩
    ∃ report, (Id.run (holdingChannel.run farLinter default 1 none)).2 = some report ∧
      report.files.get? "file:///p/A.elm" = some [d] ∧ d.range.Inside text ∧
        (Lines.ofText text).clamp d.range = d.range := by
  intro text d
  obtain ⟨-, -, -, same, -, -, -, reported⟩ := clamp_moves_into_text text
  let report : Report := ⟨.linter, 1, .ofList [("file:///p/A.elm", [d])]⟩
  have sent : (Id.run (holdingChannel.run farLinter default 1 none)).2 = some report := by
    decide +kernel
  have listed : report.files.get? "file:///p/A.elm" = some [d] := by decide +kernel
  obtain ⟨inside, -⟩ := reported _ _ _ _ _ _ _ _ d sent listed List.mem_cons_self
    (by decide +kernel)
  exact ⟨report, sent, listed, inside, same _ inside⟩

end ElmAssist
