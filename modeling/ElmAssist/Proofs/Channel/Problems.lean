import ElmAssist.Channel.Compiler
import ElmAssist.Proofs.Channel.Linter

/-!
# Channel — Problems of tool reports

A report is JSON in which members may be missing or hold something else than they should. What it
lists as problems, in whatever form, is filed without loss.

* `CompilerIssue.problems`, `LintIssue.problems`: the problems that a report lists, in order.
* `CompilerIssue.ofJson_eq_map`, `LintIssue.ofJson_eq_map`: a report that is read has an issue for
  each of them, but for errors that are suppressed.
* `Region.counts_toRange`: a range counts from zero what a region counts from one.
* `problems_filed_once`: each problem is one diagnostic in the list of one file, in the order of the
  report. Only errors of the linter that name no file are left out, in a run over the project.
-/

namespace ElmAssist

open ToolReport (textField textField? itemsField)

/-! ### Ranges -/

namespace Region

/-- A value of a region as it is written; zero when it is missing or no natural number. -/
def written (region : Option Json) (edge key : String) : Nat :=
  (((region.bind (·.get? edge)).bind (·.get? key)).bind Json.natural?).getD 0

/-- A range counts from zero what a region counts from one. The values are cut to 32 bits, and a
zero counts as a one. -/
structure Counts (region : Option Json) (r : Range) : Prop where
  startLine : r.start.line + 1 = max (cut (written region "start" "line")) 1
  startColumn : r.start.character + 1 = max (cut (written region "start" "column")) 1
  stopLine : r.stop.line + 1 = max (cut (written region "end" "line")) 1
  stopColumn : r.stop.character + 1 = max (cut (written region "end" "column")) 1

theorem fromZero_add_one (n : Nat) : fromZero n + 1 = max n 1 := by
  unfold fromZero
  omega

/-- **The range of a region**, whatever the region is. -/
theorem counts_toRange (region : Option Json) : Counts region (ofJson region).toRange :=
  ⟨fromZero_add_one _, fromZero_add_one _, fromZero_add_one _, fromZero_add_one _⟩

end Region

/-! ### What a report lists -/

namespace ToolReport

/-- A problem as a report lists it. -/
structure Problem where
  /-- The file that it is listed for. -/
  path : Option String
  /-- What is said of it. -/
  json : Json
  /-- Where it is said to be. -/
  region : Option Json

/-- A problem of the file of a path. -/
def problem (path : Option String) (j : Json) : Problem :=
  ⟨path, j, j.get? "region"⟩

/-- The uri of a path in a report. The path is taken from the root unless it is absolute, and a root
that is not absolute from the working directory. -/
def uriOf (cwd root : Path) (path : String) : String :=
  let p := Path.ofString path
  Uri.ofPath (Uri.absolute cwd (if p.isAbsolute then p else root.join p))

theorem uriOf_eq (cwd root : Path) (path : String) :
    uriOf cwd root path = Uri.ofPath (Uri.absolute cwd (root.child path)) := by
  unfold uriOf Path.child Path.join
  by_cases absolute : (Path.ofString path).isAbsolute = true <;> simp [absolute]

end ToolReport

open ToolReport (Problem problem uriOf uriOf_eq)

namespace CompilerIssue

variable {j : Json} {issues : List CompilerIssue}

/-- The problems of a compiler report: the items of an old version's list, those of each module in
turn, or the report itself as the one problem of the project, which has no region. -/
def problems (j : Json) : List Problem :=
  match j.items? with
  | some items => items.map fun p => problem (textField? p "file") p
  | none =>
    if textField? j "type" = some "compile-errors" then
      (itemsField j "errors").flatMap fun m =>
        (itemsField m "problems").map (problem (textField? m "path"))
    else [⟨textField? j "path", j, none⟩]

/-- The issue of a problem. Old versions have other words for its parts. -/
def ofListed (old : Bool) (p : Problem) : CompilerIssue :=
  if old then ⟨p.path, textField p.json "overview", textField p.json "details",
    textField p.json "type", .ofJson p.region⟩
  else ⟨p.path, textField p.json "title", messageText (p.json.get? "message"), "error",
    .ofJson p.region⟩

theorem path_ofListed (old : Bool) (p : Problem) : (ofListed old p).path = p.path := by
  cases old <;> rfl

theorem region_ofListed (old : Bool) (p : Problem) :
    (ofListed old p).region = .ofJson p.region := by
  cases old <;> rfl

theorem parse_of_read {output : String} (read : ToolReport.read output = .ok (some j)) :
    parse output = ofJson j := by
  rw [parse, read]
  rfl

/-- **A compiler report has an issue for each of its problems.** -/
theorem ofJson_eq_map (accepted : ofJson j = .ok issues) :
    issues = (problems j).map (ofListed j.items?.isSome) := by
  unfold ofJson at accepted
  unfold problems
  cases items : j.items? with
  | some items_ =>
    rw [items] at accepted
    cases accepted
    rw [List.map_map]
    rfl
  | none =>
    rw [items] at accepted
    dsimp only at accepted ⊢
    split at accepted
    · rename_i type
      cases accepted
      rw [if_pos type, List.map_flatMap]
      simp only [List.map_map]
      rfl
    · rename_i type
      cases accepted
      rw [if_neg (by rw [type]; decide)]
      rfl
    · cases accepted

end CompilerIssue

namespace LintIssue

variable {j : Json} {issues : List LintIssue}

/-- The errors of a linter report, of each file in turn. -/
def problems (j : Json) : List Problem :=
  (itemsField j "errors").flatMap fun f =>
    (itemsField f "errors").map (problem (textField? f "path"))

/-- The issue of an error. -/
def ofListed (p : Problem) : LintIssue :=
  ⟨p.path, textField p.json "rule", textField p.json "message", .ofJson p.region⟩

theorem parse_of_read {output : String} (read : ToolReport.read output = .ok (some j)) :
    parse output = ofJson j := by
  rw [parse, read]
  rfl

/-- **A linter report has an issue for each of its errors that is not suppressed.** -/
theorem ofJson_eq_map (accepted : ofJson j = .ok issues) :
    issues = ((problems j).filter fun p => !isSuppressed p.json).map ofListed := by
  unfold ofJson at accepted
  split at accepted
  · cases accepted
    unfold problems
    rw [List.filter_flatMap, List.map_flatMap]
    simp only [List.filter_map, List.map_map]
    rfl
  · cases accepted
  · cases accepted

end LintIssue

/-! ### What is filed -/

theorem CompilerIssue.files_byUri (cwd root : Path) (issues : List CompilerIssue) :
    Findings.Files (byUri cwd root issues) issues (fun i => some (i.uri cwd root))
      fun _ i => i.diagnostic := by
  have eq : byUri cwd root issues =
      Findings.ofProblems (fun i => some (i.uri cwd root)) (fun _ i => i.diagnostic) issues := rfl
  rw [eq]
  exact Findings.files_ofProblems issues

/-- The uri of an error is the linted file, or in a run over the project that of its path. -/
theorem LinterChannel.uriOf?_ofListed {l : LinterChannel} {target : Option String}
    (mode : l.perFile = true → target ≠ none) (p : Problem) :
    l.uriOf? target (.ofListed p) =
      if l.perFile then target else p.path.map (ToolReport.uriOf l.cwd l.root) := by
  unfold uriOf?
  cases perFile : l.perFile with
  | true =>
    cases target with
    | none => exact absurd rfl (mode perFile)
    | some uri => rfl
  | false =>
    have named : l.uriOf = ToolReport.uriOf l.cwd l.root :=
      funext fun path => (uriOf_eq l.cwd l.root path).symm
    simp only [LintIssue.ofListed, named, Bool.false_eq_true, if_false]

/-- A diagnostic of the linter is moved into the text that the channel has, if any. -/
theorem LinterChannel.diagnostic_eq (l : LinterChannel) (uri : String) (i : LintIssue) :
    l.diagnostic uri i =
      ⟨.linter, ((l.text? uri).map fun text => (Lines.ofText text).clamp i.region.toRange).getD
        i.region.toRange, .warning, i.fullMessage⟩ := by
  unfold diagnostic
  cases l.text? uri <;> rfl

/-- **Each problem of a report is filed once.** Of a report that is read, whatever its members hold:
each problem of the compiler is one diagnostic in the list of one file, which is that of its path, or
the manifest if it has none; each error of the linter that is not suppressed is one in the list of
the linted file or, in a run over the project, of the file of its path, and errors without a path are
left out there, and only those. Lists are in the order of the report. A range counts from zero what
the region of the problem counts from one, before the linter's channel moves it into its text. -/
theorem problems_filed_once :
    (∀ (c : CompilerChannel) (j : Json) (issues : List CompilerIssue),
      CompilerIssue.ofJson j = .ok issues →
      let found : Findings := CompilerIssue.byUri c.cwd c.root issues
      let diagnostic p := (CompilerIssue.ofListed j.items?.isSome p).diagnostic
      found.Files (CompilerIssue.problems j)
          (fun p => some (uriOf c.cwd c.root (p.path.getD "elm.json"))) (fun _ => diagnostic) ∧
        (∀ p, Region.Counts p.region (diagnostic p).range) ∧
        ∀ o, ToolReport.read (CompilerChannel.reportText o) = .ok (some j) →
          c.readOutput o = .ok found) ∧
    ∀ (l : LinterChannel) (target : Option String) (j : Json) (issues : List LintIssue),
      LintIssue.ofJson j = .ok issues → (l.perFile = true → target ≠ none) →
      let found : Findings := l.byUri target issues
      found.Files ((LintIssue.problems j).filter fun p => !LintIssue.isSuppressed p.json)
          (fun p => if l.perFile then target else p.path.map (uriOf l.cwd l.root))
          (fun uri p => l.diagnostic uri (.ofListed p)) ∧
        (∀ uri p, ∃ r, Region.Counts p.region r ∧ l.diagnostic uri (.ofListed p) =
          ⟨.linter, ((l.text? uri).map fun text => (Lines.ofText text).clamp r).getD r, .warning,
            (LintIssue.ofListed p).fullMessage⟩) ∧
        ∀ o, ToolReport.read o.stdout = .ok (some j) → l.readOutput target o = .ok found := by
  refine ⟨fun c j issues accepted => ?_, fun l target j issues accepted mode => ?_⟩
  · intro found diagnostic
    refine ⟨?_, fun p => ?_, fun o read => ?_⟩
    · have files : found.Files issues _ _ := CompilerIssue.files_byUri c.cwd c.root issues
      rw [CompilerIssue.ofJson_eq_map accepted] at files
      simpa only [CompilerIssue.uri, CompilerIssue.path_ofListed, ← uriOf_eq] using files.of_map
    · have range : (diagnostic p).range = (Region.ofJson p.region).toRange :=
        congrArg Region.toRange (CompilerIssue.region_ofListed ..)
      exact range ▸ Region.counts_toRange p.region
    · rw [CompilerChannel.readOutput, CompilerIssue.parse_of_read read, accepted]
  · intro found
    refine ⟨?_, fun uri p => ?_, fun o read => ?_⟩
    · have files : found.Files issues _ _ := LinterChannel.files_byUri target issues
      rw [LintIssue.ofJson_eq_map accepted] at files
      simpa only [LinterChannel.uriOf?_ofListed mode] using files.of_map
    · exact ⟨_, Region.counts_toRange p.region, l.diagnostic_eq uri (.ofListed p)⟩
    · rw [LinterChannel.readOutput, LintIssue.parse_of_read read, accepted]

/-- A compiler report with a region that is not in order, and problems and modules that are none. -/
def oddCompilerReport : Json :=
  .object [("type", .string "compile-errors"), ("errors", .array [
    .object [("path", .string "A.elm"), ("problems", .array [
      .object [("title", .string "T"), ("region", .object [
        ("start", .object [("line", .ofNat 0), ("column", .ofNat 4294967298)]),
        ("end", .object [("line", .string "3")])])],
      .null])],
    .ofNat 7,
    .object [("path", .null), ("problems", .array [.string "x"])]])]

/-- A linter report with an error that is suppressed, and one that names no file. -/
def oddLinterReport : Json :=
  .object [("type", .string "review-errors"), ("errors", .array [
    .object [("path", .string "A.elm"), ("errors", .array [
      .object [("rule", .string "R"), ("message", .string "m")],
      .object [("suppressed", .bool true)]])],
    .object [("errors", .array [.object [("suppressed", .string "true")]])]])]

/-- What does not name its file belongs to the manifest for the compiler, and is left out for the
linter. -/
theorem odd_problems_filed :
    (∃ issues, CompilerIssue.ofJson oddCompilerReport = .ok issues ∧
      let found : Findings := CompilerIssue.byUri (.ofString "/") (.ofString "/p") issues
      found.listOf "file:///p/A.elm" = [⟨.compiler, ⟨⟨0, 1⟩, ⟨0, 0⟩⟩, .error, "T - "⟩,
          ⟨.compiler, ⟨⟨0, 0⟩, ⟨0, 0⟩⟩, .error, " - "⟩] ∧
        found.listOf "file:///p/elm.json" = [⟨.compiler, ⟨⟨0, 0⟩, ⟨0, 0⟩⟩, .error, " - "⟩]) ∧
    ∃ issues, LintIssue.ofJson oddLinterReport = .ok issues ∧
      let l := LinterChannel.start (.ofString "/") (.ofString "/p") (.ofString "elm-review") [] false
      (l.perFile = true → (none : Option String) ≠ none) ∧
      Findings.pairsOf (l.byUri none issues).entries =
        [("file:///p/A.elm", ⟨.linter, ⟨⟨0, 0⟩, ⟨0, 0⟩⟩, .warning, "R: m"⟩)] := by
  obtain ⟨compiler, linter⟩ := problems_filed_once
  refine ⟨⟨_, rfl, ?_⟩, _, rfl, ?_⟩
  · intro found
    obtain ⟨files, -⟩ :=
      compiler (.start (.ofString "/") (.ofString "/p") (.ofString "elm")) oddCompilerReport _ rfl
    refine ⟨(files.inOrder _).trans ?_, (files.inOrder _).trans ?_⟩
    · decide +kernel
    · decide +kernel
  · intro l
    have mode : l.perFile = true → (none : Option String) ≠ none := nofun
    obtain ⟨files, -⟩ := linter l none oddLinterReport _ rfl mode
    refine ⟨mode, List.perm_singleton.mp (files.once.trans (.of_eq ?_))⟩
    decide +kernel

end ElmAssist
