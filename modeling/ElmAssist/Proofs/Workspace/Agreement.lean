import ElmAssist.Proofs.Workspace.Copies

/-!
# Workspace — When a copy is the text of the forest

The linter's copy of a file and the entry of the forest are changed side by side, from one event
to the next. They part when the forest refuses the text of an event and holds another one than the
copy then has. They are joined again when the linter lets go of its copy, or when what comes in
makes them the same. All this is about one file; what happens to others has no part in it.

* `Agrees`: the copy of a file is the text of its entry.
* `Refuses`, `Joins`: what parts the two and what joins them, and `Parted`, where nothing has
  joined them since they parted.
* `Agrees.act`, `Refuses.parts`, `Joins.agrees`, `joins_of_agrees`: one act.
* `agrees_iff_not_parted`: after any acts the copy of a file is the text of its entry, unless they
  are parted.
* `late_change_parts_copy`: a change that comes late, which the linter alone takes.
-/

namespace ElmAssist.Workspace

/-- The forest holds a file with a text. -/
def Holds (w : Workspace) (uri text : String) : Prop :=
  ∃ f, w.forest.get? uri = some f ∧ f.text = text

/-- The linter's copy of a file, if there is one, is the text of its entry. -/
def Agrees (w : Workspace) (uri : String) : Prop :=
  ∀ text, w.copy? uri = some text → w.Holds uri text

/-- The forest has a text for the file of an offer, when the offer has been made. -/
def HoldsAfter (parse : Parser) (w : Workspace) (o : Forest.Offer) (text : String) : Prop :=
  w.forest.Takes parse o ∧ o.text = text ∨ ¬ w.forest.Takes parse o ∧ w.Holds o.uri text

/-- The forest refuses the text that an event has for a file, and what it holds is not what the
linter has then. -/
def Refuses (parse : Parser) (w : Workspace) (e : Event) (uri : String) : Prop :=
  ∃ o text, e.offer? w = some o ∧ o.uri = uri ∧ w.copyAfter? e = some text ∧
    ¬ w.forest.Takes parse o ∧ ¬ w.Holds uri text

/-- An act joins the copy of a file and its entry. -/
inductive Joins (parse : Parser) (w : Workspace) (uri : String) : Act → Prop
  /-- The linter lets go of its copy. -/
  | letsGo {machine : Machine} {e : Event} (gone : e.letsGo = some uri) :
      Joins parse w uri (.move (.event machine e))
  /-- A text comes in, after which the forest has the one that the linter has. -/
  | offered {machine : Machine} {e : Event} {o : Forest.Offer} {text : String}
      (has : e.offer? w = some o) (own : o.uri = uri) (copied : w.copyAfter? e = some text)
      (holds : w.HoldsAfter parse o text) : Joins parse w uri (.move (.event machine e))
  /-- The file is read from disk, where it has the text of the copy. -/
  | read {machine : Machine} {text : String} (copied : w.copy? uri = some text)
      (holds : (w.load parse machine).1.Holds uri text) : Joins parse w uri (.load machine)

/-- The forest has refused an event of a file, and nothing has joined the two since. -/
inductive Parted (parse : Parser) (w : Workspace) (uri : String) : List Act → Prop
  | refused {machine : Machine} {e : Event} {earlier : List Act}
      (refuses : (history parse w earlier).workspace.Refuses parse e uri) :
      Parted parse w uri (.move (.event machine e) :: earlier)
  | still {a : Act} {earlier : List Act} (parted : Parted parse w uri earlier)
      (apart : ¬ (history parse w earlier).workspace.Joins parse uri a) :
      Parted parse w uri (a :: earlier)

/-- An event has the text of its file as a whole, whatever is held. -/
def Event.IsWhole : Event → Prop
  | .opened .. | .saved _ (some _) => True
  | .changed _ changes _ => ∀ s t, Change.applyAll s changes = Change.applyAll t changes
  | .saved _ none | .closed _ | .deleted _ | .triggered _ => False

variable {parse : Parser} {machine : Machine} {w v : Workspace} {uri text : String} {e : Event}
  {o : Forest.Offer} {c : Course} {a : Act}

/-- Only an event of its own file parts a copy. -/
theorem Parted.exists_refused {acts : List Act} (h : Parted parse w uri acts) :
    ∃ machine e earlier, .move (.event machine e) :: earlier <:+ acts ∧
      (history parse w earlier).workspace.Refuses parse e uri := by
  induction h with
  | @refused machine e earlier refuses => exact ⟨machine, e, earlier, List.suffix_rfl, refuses⟩
  | still _ _ ih =>
    obtain ⟨machine, e, earlier, part, refuses⟩ := ih
    exact ⟨machine, e, earlier, part.trans (List.suffix_cons ..), refuses⟩

/-! ### Events -/

theorem Agrees.congr (h : w.Agrees uri) (copy : v.copy? uri = w.copy? uri)
    (entry : v.forest.get? uri = w.forest.get? uri) : v.Agrees uri := by
  intro text copied
  obtain ⟨f, there, same⟩ := h text (copy.symm.trans copied)
  exact ⟨f, entry.trans there, same⟩

theorem agrees_iff_of_copied (copied : w.copy? uri = some text) :
    w.Agrees uri ↔ w.Holds uri text := by
  constructor
  · exact fun h => h text copied
  · rintro h other also
    obtain rfl := Option.some.inj (copied.symm.trans also)
    exact h

theorem Event.uri_of_letsGo (gone : e.letsGo = some uri) : e.uri = uri := by
  cases e with
  | closed | deleted => exact Option.some.inj gone
  | opened | changed | saved | triggered => cases gone

/-- What an event is for a file. -/
inductive Concerns (w : Workspace) (e : Event) (uri : String) (v : Workspace) : Prop
  | letsGo (gone : e.letsGo = some uri) (dropped : v.copy? uri = none)
  | offers {o : Forest.Offer} (has : e.offer? w = some o) (own : o.uri = uri)
  /-- It leaves the file as it is. -/
  | passes (keeps : e.letsGo ≠ some uri) (silent : ∀ o, e.offer? w = some o → o.uri ≠ uri)
      (copy : v.copy? uri = w.copy? uri) (entry : v.forest.get? uri = w.forest.get? uri)

theorem handle_concerns (parse : Parser) (machine : Machine) (w : Workspace) (e : Event)
    (uri : String) : Concerns w e uri (w.handle parse machine e).workspace := by
  have copied := copy?_handle parse machine w e uri
  by_cases own : uri = e.uri
  · rw [if_pos own] at copied
    cases has : e.offer? w with
    | some o => exact .offers has ((Event.uri_of_offer has).trans own.symm)
    | none =>
      have silent (o : Forest.Offer) (also : e.offer? w = some o) : o.uri ≠ uri :=
        nomatch has.symm.trans also
      cases e with
      | closed | deleted => exact .letsGo (congrArg some own.symm) copied
      | opened | changed => cases has
      | triggered checked =>
        exact .passes nofun silent (copied.trans (congrArg w.copy? own.symm))
          (congrArg (Forest.get? · _) (forest_handle_of_silent parse machine has rfl))
      | saved saved text =>
        cases text with
        | none =>
          exact .passes nofun silent (copied.trans (congrArg w.copy? own.symm))
            (congrArg (Forest.get? · _) (forest_handle_of_silent parse machine has rfl))
        | some text => cases has
  · rw [if_neg own] at copied
    refine .passes (fun gone => own (Event.uri_of_letsGo gone).symm) (fun o has same => ?_) copied
      (get?_handle_of_ne parse machine own)
    exact own (same.symm.trans (Event.uri_of_offer has))

theorem holds_handle_iff (parse : Parser) (machine : Machine) (has : e.offer? w = some o) :
    (w.handle parse machine e).workspace.Holds o.uri text ↔ w.HoldsAfter parse o text := by
  unfold Holds HoldsAfter
  rw [forest_handle_of_offer parse machine has]
  by_cases takes : w.forest.Takes parse o
  · rw [Forest.set_of_takes takes, Forest.get?_put,
      if_pos (show o.uri = (o.file parse).uri from rfl)]
    have text : (o.file parse).text = o.text := rfl
    simp [takes, text]
  · rw [Forest.set_of_refuses takes]
    simp [takes, Holds]

theorem agrees_handle_iff (parse : Parser) (machine : Machine) (has : e.offer? w = some o)
    (copied : w.copyAfter? e = some text) :
    (w.handle parse machine e).workspace.Agrees o.uri ↔ w.HoldsAfter parse o text := by
  rw [← holds_handle_iff parse machine has]
  refine agrees_iff_of_copied ?_
  rw [copy?_handle, if_pos (Event.uri_of_offer has), copied]

/-- The linter has a text of the file when an event has one for the forest. -/
theorem exists_copyAfter? (linted : w.copies.isSome = true) (has : e.offer? w = some o) :
    ∃ text, w.copyAfter? e = some text := by
  obtain ⟨l, held⟩ := Option.isSome_iff_exists.mp (Option.isSome_map ▸ linted)
  rw [← Option.isSome_iff_exists]
  rcases Event.cases_of_offer has with rfl | ⟨changes, rfl, -⟩ | ⟨rfl, -⟩ <;>
    simp [copyAfter?, held]

/-- Where the two agree, an event makes the same of both. -/
theorem Agrees.copyAfter?_eq (linted : w.copies.isSome = true) (has : e.offer? w = some o)
    (h : w.Agrees o.uri) : w.copyAfter? e = some o.text := by
  obtain ⟨l, held⟩ := Option.isSome_iff_exists.mp (Option.isSome_map ▸ linted)
  rcases Event.cases_of_offer has with rfl | ⟨changes, rfl, text⟩ | ⟨rfl, -⟩
  · simp [copyAfter?, held]
  · -- The copy that the changes are made to is the text of the forest.
    have base : (l.text? o.uri).getD (w.textOf o.uri) = w.textOf o.uri := by
      cases copied : l.text? o.uri with
      | none => rfl
      | some text =>
        obtain ⟨f, there, same⟩ := h text ((copy?_of_linter held o.uri).trans copied)
        simp [textOf, there, same]
    simp [copyAfter?, held, base, text]
  · simp [copyAfter?, held]

/-! ### One act -/

/-- **A text that is refused parts the two.** -/
theorem Refuses.parts (h : w.Refuses parse e uri) (machine : Machine) :
    ¬ (w.handle parse machine e).workspace.Agrees uri := by
  obtain ⟨o, text, has, rfl, copied, refused, other⟩ := h
  rw [agrees_handle_iff parse machine has copied]
  rintro (⟨takes, -⟩ | ⟨-, holds⟩)
  · exact refused takes
  · exact other holds

/-- **What joins the two makes them agree.** -/
theorem Joins.agrees (h : c.workspace.Joins parse uri a) :
    (c.act parse a).workspace.Agrees uri := by
  cases h with
  | @letsGo machine e gone =>
    intro text copied
    cases handle_concerns parse machine c.workspace e uri with
    | letsGo _ dropped => cases dropped.symm.trans copied
    | offers has own =>
      cases e with
      | closed | deleted => cases has
      | opened | changed | saved | triggered => cases gone
    | passes keeps => exact absurd gone keeps
  | @offered machine e o text has own copied holds =>
    subst own
    exact (agrees_handle_iff parse machine has copied).mpr holds
  | @read machine text copied holds =>
    exact (agrees_iff_of_copied (w := (c.workspace.load parse machine).1) copied).mpr holds

/-- An act other than an event makes of a file what reading it from disk makes of it, or nothing. -/
theorem get?_act_of_silent (silent : ∀ machine e, a ≠ .move (.event machine e)) :
    (∃ machine, a = .load machine) ∨
      (c.act parse a).workspace.forest.get? uri = c.workspace.forest.get? uri := by
  rcases act_cases parse c a with ⟨machine, e, event, -⟩ | ⟨machine, load, -⟩ | ⟨v, same, rest⟩
  · exact absurd event (silent machine e)
  · exact Or.inl ⟨machine, load⟩
  · rw [rest.forest]
    rcases same with rfl | rfl <;> exact Or.inr rfl

/-- **Two that agree still do**, unless a text is refused. -/
theorem Agrees.act (h : c.workspace.Agrees uri) (linted : c.workspace.copies.isSome = true)
    (accepted : ∀ machine e, a = .move (.event machine e) → ¬ c.workspace.Refuses parse e uri) :
    (c.act parse a).workspace.Agrees uri := by
  by_cases event : ∃ machine e, a = .move (.event machine e)
  · obtain ⟨machine, e, rfl⟩ := event
    cases handle_concerns parse machine c.workspace e uri with
    | letsGo _ dropped => exact fun text copied => nomatch dropped.symm.trans copied
    | passes _ _ copy entry => exact h.congr copy entry
    | @offers o has own =>
      subst own
      have copied := h.copyAfter?_eq linted has
      refine (agrees_handle_iff parse machine has copied).mpr ?_
      by_cases takes : c.workspace.forest.Takes parse o
      · exact Or.inl ⟨takes, rfl⟩
      · refine Or.inr ⟨takes, ?_⟩
        by_contra other
        exact accepted machine e rfl ⟨o, o.text, has, rfl, copied, takes, other⟩
  · simp only [not_exists] at event
    intro text copied
    rw [copy?, copies_act c event] at copied
    obtain ⟨f, there, same⟩ := h text copied
    exact ⟨f, held_act event there, same⟩

/-- **Two that are apart agree only when they are joined.** -/
theorem joins_of_agrees (before : ¬ c.workspace.Agrees uri)
    (linted : c.workspace.copies.isSome = true) (now : (c.act parse a).workspace.Agrees uri) :
    c.workspace.Joins parse uri a := by
  by_cases event : ∃ machine e, a = .move (.event machine e)
  · obtain ⟨machine, e, rfl⟩ := event
    cases handle_concerns parse machine c.workspace e uri with
    | letsGo gone => exact .letsGo gone
    | passes _ _ copy entry =>
      exact absurd (Agrees.congr (w := (c.workspace.handle parse machine e).workspace) now copy.symm
        entry.symm) before
    | @offers o has own =>
      subst own
      obtain ⟨text, copied⟩ := exists_copyAfter? linted has
      exact .offered has rfl copied ((agrees_handle_iff parse machine has copied).mp now)
  · simp only [not_exists] at event
    have copy : (c.act parse a).workspace.copy? uri = c.workspace.copy? uri := by
      rw [copy?, copies_act c event]
      rfl
    rcases get?_act_of_silent event with ⟨machine, rfl⟩ | entry
    · cases copied : c.workspace.copy? uri with
      | none =>
        refine absurd (fun text there => ?_) before
        cases copied.symm.trans there
      | some text => exact .read copied (now text (copy.trans copied))
    · exact absurd (now.congr copy.symm entry.symm) before

/-- A text that comes in as a whole joins the two when the forest takes it. -/
theorem joins_of_whole (linted : w.copies.isSome = true) (whole : e.IsWhole)
    (has : e.offer? w = some o) (takes : w.forest.Takes parse o) :
    w.Joins parse o.uri (.move (.event machine e)) := by
  obtain ⟨l, held⟩ := Option.isSome_iff_exists.mp (Option.isSome_map ▸ linted)
  have copied : w.copyAfter? e = some o.text := by
    rcases Event.cases_of_offer has with rfl | ⟨changes, rfl, text⟩ | ⟨rfl, -⟩
    · simp [copyAfter?, held]
    · simpa [copyAfter?, held, text] using whole _ _
    · simp [copyAfter?, held]
  exact .offered has rfl copied (Or.inl ⟨takes, rfl⟩)

/-! ### Histories -/

/-- **When the linter's copy of a file is the text of the forest.** In every state of a history it
is, unless the two are parted: the forest has refused an event of the file, which was older than
what it held or was given up by the parser, and since then nothing has joined them. A text that
comes in as a whole joins them when the forest takes it. -/
theorem agrees_iff_not_parted (parse : Parser) {machine : Machine} {root : Path}
    {settings : Settings} {w : Workspace} (opened : openWith machine root settings = .ok w)
    (linted : w.linter.isSome = true) (acts : List Act) (uri : String) :
    let now := (history parse w acts).workspace
    (now.Agrees uri ↔ ¬ Parted parse w uri acts) ∧
      ∀ machine e o, e.IsWhole → e.offer? now = some o → o.uri = uri → now.forest.Takes parse o →
        now.Joins parse uri (.move (.event machine e)) := by
  intro now
  have present (earlier : List Act) : (history parse w earlier).workspace.copies.isSome = true :=
    copies_isSome_history (Option.isSome_map.trans linted) earlier
  constructor
  · -- On the acts: what agrees stays so unless it is refused, what is parted unless it is joined.
    induction acts with
    | nil =>
      refine iff_of_true (fun text copied => ?_) nofun
      cases (copy?_of_openWith opened uri).symm.trans copied
    | cons a earlier ih =>
      constructor
      · intro agrees parted
        cases parted with
        | @refused machine e _ refuses => exact refuses.parts machine agrees
        | still parted apart =>
          exact apart (joins_of_agrees (fun before => ih.mp before parted) (present earlier) agrees)
      · intro whole
        by_cases before : (history parse w earlier).workspace.Agrees uri
        · refine before.act (present earlier) fun machine e event refuses => ?_
          subst event
          exact whole (.refused refuses)
        · have parted : Parted parse w uri earlier := not_not.mp fun none_ => before (ih.mpr none_)
          exact (not_not.mp fun apart => whole (.still parted apart)).agrees
  · rintro machine e o whole has rfl takes
    exact joins_of_whole (present acts) whole has takes

/-! ### A change that comes late -/

/-- A file is opened at its second version, -/
def openedFirst : List Act :=
  [.move (.event linterMachine (.opened "file:///p/src/A.elm" "module A" 2))]

/-- and then another one. -/
def openedLate : List Act :=
  .move (.event linterMachine (.opened "file:///p/src/B.elm" "module B" 1)) :: openedFirst

/-- A change of its first version comes in, which has been overtaken. -/
def changedLate : List Act :=
  .move (.event linterMachine (.changed "file:///p/src/A.elm" [⟨none, "module C"⟩] 1)) :: openedLate

/-- It is saved with its text. -/
def savedAfter : List Act :=
  .move (.event linterMachine (.saved "file:///p/src/A.elm" (some "module D"))) :: changedLate

/-- The forest of the history that the acts give the package. -/
def lateForest (w : Workspace) (acts : List Act) : Forest :=
  (history Heading.rows w acts).workspace.forest

/-- The late change goes into the copy, and not into the forest. -/
theorem late_change_refused : ∀ w ∈ lintedPackage?,
    (history Heading.rows w openedLate).workspace.Refuses Heading.rows
      (.changed "file:///p/src/A.elm" [⟨none, "module C"⟩] 1) "file:///p/src/A.elm" := by
  intro w mem
  have copied : ∀ w ∈ lintedPackage?, (history Heading.rows w openedLate).workspace.copyAfter?
      (.changed "file:///p/src/A.elm" [⟨none, "module C"⟩] 1) = some "module C" := by decide +kernel
  have newer : ∀ w ∈ lintedPackage?, ((lateForest w openedLate).newerThan?
      ⟨"file:///p/src/A.elm", "module C", 1⟩).isSome = true := by decide +kernel
  have held : ∀ w ∈ lintedPackage?, ∀ f ∈ (lateForest w openedLate).get? "file:///p/src/A.elm",
      f.text = "module A" := by decide +kernel
  refine ⟨_, "module C", rfl, rfl, copied w mem, fun takes => ?_, ?_⟩
  · have none_ : (lateForest w openedLate).newerThan? ⟨"file:///p/src/A.elm", "module C", 1⟩ =
        none := takes.1
    have some_ := newer w mem
    rw [none_] at some_
    cases some_
  · rintro ⟨f, there, text⟩
    exact absurd ((held w mem f there).symm.trans text) (by decide)

/-- The late change parts the copy of its file from the forest until the file is saved, and leaves
that of the other one. -/
theorem parted_until_saved :
    ∃ w, openWith linterMachine (.ofString "/p") .usual = .ok w ∧ w.linter.isSome = true ∧
      let late := (history Heading.rows w changedLate).workspace
      let saved := (history Heading.rows w savedAfter).workspace
      late.copy? "file:///p/src/B.elm" = some "module B" ∧ late.Agrees "file:///p/src/B.elm" ∧
        ¬ late.Agrees "file:///p/src/A.elm" ∧
        saved.copy? "file:///p/src/A.elm" = some "module D" ∧
        saved.Agrees "file:///p/src/A.elm" := by
  obtain ⟨w, opened, mem, linted⟩ := exists_lintedPackage
  have other : ∀ w ∈ lintedPackage?, (history Heading.rows w changedLate).workspace.copy?
      "file:///p/src/B.elm" = some "module B" := by decide +kernel
  have own : ∀ w ∈ lintedPackage?, (history Heading.rows w savedAfter).workspace.copy?
      "file:///p/src/A.elm" = some "module D" := by decide +kernel
  have takesOther : ∀ w ∈ lintedPackage?, ((lateForest w openedFirst).newerThan?
      ⟨"file:///p/src/B.elm", "module B", 1⟩).isNone = true := by decide +kernel
  have takesOwn : ∀ w ∈ lintedPackage?, ((lateForest w changedLate).newerThan?
      ⟨"file:///p/src/A.elm", "module D", (history Heading.rows w changedLate).workspace.versionOf
        "file:///p/src/A.elm"⟩).isNone = true := by decide +kernel
  refine ⟨w, opened, linted, other w mem, ?_, ?_, own w mem, ?_⟩
  · refine (agrees_iff_not_parted Heading.rows opened linted changedLate _).1.mpr fun parted => ?_
    obtain ⟨machine, e, earlier, part, o, text, has, named, -, refused, -⟩ := parted.exists_refused
    have same := (Event.uri_of_offer has).symm.trans named
    simp only [changedLate, openedLate, openedFirst, List.suffix_cons_iff, List.cons.injEq,
      Act.move.injEq, Move.event.injEq, List.suffix_nil, reduceCtorEq, or_false] at part
    rcases part with ⟨⟨-, rfl⟩, -⟩ | ⟨⟨-, rfl⟩, rfl⟩ | ⟨⟨-, rfl⟩, -⟩
    · exact absurd same (by decide)
    · obtain rfl := Option.some.inj has
      exact refused ⟨Option.isNone_iff_eq_none.mp (takesOther w mem), rfl⟩
    · exact absurd same (by decide)
  · intro agrees
    refine (agrees_iff_not_parted Heading.rows opened linted changedLate _).1.mp agrees ?_
    exact .refused (late_change_refused w mem)
  · refine (agrees_iff_not_parted Heading.rows opened linted savedAfter _).1.mpr fun parted => ?_
    have takes := Option.isNone_iff_eq_none.mp (takesOwn w mem)
    cases parted with
    | refused refuses =>
      obtain ⟨o, text, has, -, -, refused, -⟩ := refuses
      obtain rfl := Option.some.inj has
      exact refused ⟨takes, rfl⟩
    | still _ apart =>
      exact apart ((agrees_iff_not_parted Heading.rows opened linted changedLate _).2 linterMachine
        (.saved "file:///p/src/A.elm" (some "module D")) _ trivial rfl rfl ⟨takes, rfl⟩)

/-- **A change that comes late goes into the copy, and not into the forest.** -/
theorem late_change_parts_copy :
    ¬ ∀ (machine : Machine) (root : Path) (settings : Settings) (w : Workspace),
      openWith machine root settings = .ok w → w.linter.isSome = true →
      ∀ (parse : Parser) (acts : List Act) (uri : String),
        (history parse w acts).workspace.Agrees uri := by
  intro agree
  obtain ⟨w, opened, mem, linted⟩ := exists_lintedPackage
  exact (late_change_refused w mem).parts linterMachine
    (agree _ _ _ w opened linted Heading.rows changedLate "file:///p/src/A.elm")

end ElmAssist.Workspace
