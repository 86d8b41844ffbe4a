import ElmAssist.Machine
import ElmAssist.Settings.Client
import Mathlib.Data.List.Forall2

/-!
# Settings — Sections merged one after the other

An editor sends its section again whenever its user changes something. Merging reads the programs that
are set, puts the section over them, and writes all programs back; so a program that was never set is
written too, by the name it is looked for anyway.

* `Json.overlay`: the members of an object over those of another.
* `Settings.Sends`: the values with which an editor sends a section.
* `Settings.merge_eq_error_iff`: merging fails when one of three keys has a value that is no text.
* `Settings.merge_overlay`: two merges are one of the second section over the first.
* `Settings.mergeAll_overlay`: so are any number of merges, one after the other.
* `Settings.programs_of_merge`: the names of the programs after a merge.
* `Settings.runInPlace_eq`: settings that are changed in place are changed by a merge that succeeds,
  and stay as they are in one that fails.
* `merges_as_overlay`: two merges as one, a key that is never given, and when the settings stay.
-/

namespace ElmAssist

/-! ### Objects over each other -/

namespace Json

/-- The value of a member, when there is one that is not `null`. -/
def given? (j : Json) (key : String) : Option Json :=
  (j.get? key).filter (!·.isNull)

/-- The members of an object with those of another over them. A `null` is not put over anything. -/
def overlay (base upper : List (String × Json)) : List (String × Json) :=
  upper.foldl (fun members m => if m.2.isNull then members else setMember members m.1 m.2) base

variable {base upper : List (String × Json)}

theorem lookup_cons_eq (name : String) (value : Json) (members : List (String × Json))
    (key : String) :
    ((name, value) :: members).lookup key = if key = name then some value else members.lookup key := by
  rw [List.lookup_cons]
  by_cases same : key = name
  · simp [same]
  · rw [beq_eq_false_iff_ne.mpr same, if_neg same]

theorem lookup_setMember (members : List (String × Json)) (name : String) (value : Json)
    (key : String) :
    (setMember members name value).lookup key =
      if key = name then some value else members.lookup key := by
  induction members with
  | nil => exact lookup_cons_eq name value [] key
  | cons m rest ih =>
    obtain ⟨n, v⟩ := m
    rw [setMember]
    by_cases there : n = name
    · subst there
      by_cases same : key = n <;> simp [lookup_cons_eq, same]
    · by_cases same : key = n
      · subst same
        simp [there]
      · simp [lookup_cons_eq, there, same, ih]

/-- **What an object gives that lies over another**: what it gives itself, and else what the other
gives. A name stands once in it. -/
theorem given?_overlay (once : (upper.map Prod.fst).Nodup) (key : String) :
    (object (overlay base upper)).given? key =
      ((object upper).given? key).or ((object base).given? key) := by
  unfold overlay
  induction upper generalizing base with
  | nil => rfl
  | cons m upper ih =>
    obtain ⟨name, value⟩ := m
    obtain ⟨fresh, later⟩ := List.nodup_cons.mp once
    rw [List.foldl_cons, ih later]
    by_cases same : key = name
    · subst same
      -- The name does not come again.
      have none : upper.lookup key = none := by
        refine List.lookup_eq_none_iff.mpr fun m mem => bne_iff_ne.mpr fun again => ?_
        exact fresh (List.mem_map.mpr ⟨m, mem, again.symm⟩)
      by_cases null : value.isNull = true <;>
        simp [given?, get?, none, null, lookup_setMember, Option.filter]
    · by_cases null : value.isNull = true <;>
        simp [given?, get?, null, lookup_cons_eq, lookup_setMember, same]

end Json

/-! ### Keys -/

namespace ClientSettings

/-- A key that is not given leaves what holds; a given one has to be a text. -/
theorem choose?_eq (given : Json) (key current : String) :
    choose? given key current = ((given.given? key).elim (some current) Json.string?) := by
  unfold choose? Json.given?
  rcases given.get? key with _ | v
  · rfl
  · cases v <;> rfl

/-- A key cannot be read when it is given something that is no text. -/
theorem choose?_eq_none_iff (given : Json) (key current : String) :
    choose? given key current = none ↔ ∃ v, given.given? key = some v ∧ v.string? = none := by
  rw [choose?_eq]
  cases given.given? key <;> simp

/-- Whether the value of a key can be read does not depend on what holds. -/
theorem choose?_of_some {given : Json} {key current text : String}
    (read : choose? given key current = some text) (other : String) :
    ∃ chosen, choose? given key other = some chosen := by
  rw [choose?_eq] at read
  simp only [choose?_eq]
  cases value : given.given? key with
  | none => exact ⟨other, rfl⟩
  | some v =>
    rw [value] at read
    exact ⟨text, read⟩

/-- What one object and then another one say of a key says the second over the first. -/
theorem choose?_overlay {base upper : List (String × Json)} {key current text : String}
    (once : (upper.map Prod.fst).Nodup) (read : choose? (.object base) key current = some text) :
    choose? (.object (Json.overlay base upper)) key current = choose? (.object upper) key text := by
  rw [choose?_eq] at read
  rw [choose?_eq, choose?_eq, Json.given?_overlay once]
  cases (Json.object upper).given? key with
  | none => exact read
  | some v => rfl

/-- A section is merged when its three keys can be read. -/
theorem merge_eq_ok_iff {c merged : ClientSettings} {given : Json} :
    c.merge given = .ok merged ↔
      choose? given "elmPath" c.compilerPath = some merged.compilerPath ∧
      choose? given "elmFormatPath" c.formatterPath = some merged.formatterPath ∧
      choose? given "elmReviewPath" c.linterPath = some merged.linterPath := by
  have read : c.merge given = .ok merged ↔ c.merge? given = some merged := by
    unfold merge
    cases c.merge? given <;> simp
  obtain ⟨compiler, formatter, linter⟩ := merged
  rw [read, merge?]
  cases choose? given "elmPath" c.compilerPath <;>
    cases choose? given "elmFormatPath" c.formatterPath <;>
    cases choose? given "elmReviewPath" c.linterPath <;>
    simp

/-- A section is not merged when one of its three keys cannot be read. -/
theorem merge_eq_error_iff {c : ClientSettings} {given : Json} :
    (∃ f, c.merge given = .error f) ↔
      ∃ key ∈ ["elmPath", "elmFormatPath", "elmReviewPath"], ∃ v,
        given.given? key = some v ∧ v.string? = none := by
  have unread : (∃ f, c.merge given = .error f) ↔ c.merge? given = none := by
    unfold merge
    cases c.merge? given <;> simp
  simp only [List.mem_cons, List.not_mem_nil, or_false, exists_eq_or_imp, exists_eq_left]
  rw [unread, ← choose?_eq_none_iff given "elmPath" c.compilerPath,
    ← choose?_eq_none_iff given "elmFormatPath" c.formatterPath,
    ← choose?_eq_none_iff given "elmReviewPath" c.linterPath, merge?]
  cases choose? given "elmPath" c.compilerPath <;>
    cases choose? given "elmFormatPath" c.formatterPath <;>
    cases choose? given "elmReviewPath" c.linterPath <;>
    simp

end ClientSettings

namespace Settings

/-- An editor sends the members of its section as they are, or under `elmLS`. -/
inductive Sends (members : List (String × Json)) : Json → Prop
  | bare (unwrapped : members.lookup "elmLS" = none) : Sends members (.object members)
  | wrapped {outer : List (String × Json)} (inner : outer.lookup "elmLS" = some (.object members)) :
      Sends members (.object outer)

variable {base upper : List (String × Json)} {sent sent₁ sent₂ : Json} {s t : Settings}
  {c c₁ c₂ : ClientSettings}

theorem Sends.sectionOf (h : Sends base sent) : sectionOf sent = .object base := by
  cases h with
  | bare unwrapped => simp [Settings.sectionOf, Json.get?, unwrapped]
  | wrapped inner => simp [Settings.sectionOf, Json.get?, inner]

/-! ### One merge -/

/-- **What a merge that succeeds leaves**: the settings with the programs of the merged section. -/
theorem merge_eq_ok_iff :
    s.merge sent = .ok (c, t) ↔ s.client.merge (sectionOf sent) = .ok c ∧ t = s.withClient c := by
  unfold merge
  cases s.client.merge (sectionOf sent) with
  | error f => simp [bind, Except.bind]
  | ok merged =>
    simp only [bind, Except.bind, pure, Except.pure, Except.ok.injEq, Prod.mk.injEq]
    constructor
    · rintro ⟨rfl, rfl⟩
      exact ⟨rfl, rfl⟩
    · rintro ⟨rfl, rfl⟩
      exact ⟨rfl, rfl⟩

/-- The section of settings with the programs of a section names these programs. -/
theorem client_withClient (s : Settings) (c : ClientSettings) :
    (s.withClient c).client = { ClientSettings.usual with
      compilerPath := c.compilerPath
      linterPath := c.linterPath } :=
  rfl

/-- **A merge fails** when a key has a value that is neither `null` nor a text. -/
theorem merge_eq_error_iff :
    (∃ f, s.merge sent = .error f) ↔
      ∃ key ∈ ["elmPath", "elmFormatPath", "elmReviewPath"], ∃ v,
        (sectionOf sent).given? key = some v ∧ v.string? = none := by
  rw [← ClientSettings.merge_eq_error_iff (c := s.client)]
  unfold merge
  cases s.client.merge (sectionOf sent) <;> simp [bind, Except.bind, pure, Except.pure]

/-! ### Merges one after the other -/

/-- **Two merges are one** of the second section over the first. -/
theorem merge_overlay {u : Settings} (once : (upper.map Prod.fst).Nodup) (first : Sends base sent₁)
    (second : Sends upper sent₂) (merged : s.merge sent₁ = .ok (c₁, t))
    (again : t.merge sent₂ = .ok (c₂, u)) (both : Sends (Json.overlay base upper) sent) :
    ∃ c, s.merge sent = .ok (c, u) := by
  obtain ⟨read₁, rfl⟩ := merge_eq_ok_iff.mp merged
  obtain ⟨read₂, rfl⟩ := merge_eq_ok_iff.mp again
  rw [first.sectionOf, ClientSettings.merge_eq_ok_iff] at read₁
  rw [second.sectionOf, ClientSettings.merge_eq_ok_iff, client_withClient] at read₂
  obtain ⟨compiler₁, formatter₁, linter₁⟩ := read₁
  obtain ⟨compiler₂, formatter₂, linter₂⟩ := read₂
  -- What formats is read, but not kept from one merge to the next.
  obtain ⟨formatter, formatted⟩ := ClientSettings.choose?_of_some formatter₂ c₁.formatterPath
  refine ⟨⟨c₂.compilerPath, formatter, c₂.linterPath⟩, merge_eq_ok_iff.mpr ⟨?_, rfl⟩⟩
  rw [both.sectionOf, ClientSettings.merge_eq_ok_iff]
  refine ⟨?_, ?_, ?_⟩
  · rw [ClientSettings.choose?_overlay once compiler₁]
    exact compiler₂
  · rw [ClientSettings.choose?_overlay once formatter₁]
    exact formatted
  · rw [ClientSettings.choose?_overlay once linter₁]
    exact linter₂

/-- Merges one after the other, up to the first that fails. -/
def mergeAll (s : Settings) (sent : List Json) : Except Fault Settings :=
  sent.foldlM (fun s j => (s.merge j).map Prod.snd) s

theorem mergeAll_cons_eq_ok_iff {rest : List Json} {u : Settings} :
    mergeAll s (sent :: rest) = .ok u ↔ ∃ c t, s.merge sent = .ok (c, t) ∧ mergeAll t rest = .ok u := by
  unfold mergeAll
  rw [List.foldlM_cons]
  cases s.merge sent with
  | error f => simp [Except.map, bind, Except.bind]
  | ok merged =>
    obtain ⟨c, t⟩ := merged
    simp [Except.map, bind, Except.bind]

/-- **Any number of merges are one**, of each section over those before it. -/
theorem mergeAll_overlay {sections : List (List (String × Json))} {values : List Json} {u : Settings}
    (once : ∀ members ∈ sections, (members.map Prod.fst).Nodup)
    (sends : List.Forall₂ Sends sections values) (first : Sends base sent₁)
    (merged : mergeAll s (sent₁ :: values) = .ok u)
    (all : Sends (sections.foldl Json.overlay base) sent) : ∃ c, s.merge sent = .ok (c, u) := by
  induction sends generalizing base sent₁ with
  | nil =>
    obtain ⟨c, t, here, rest⟩ := mergeAll_cons_eq_ok_iff.mp merged
    obtain rfl : t = u := Except.ok.inj rest
    refine ⟨c, merge_eq_ok_iff.mpr ?_⟩
    rw [all.sectionOf]
    rwa [merge_eq_ok_iff, first.sectionOf] at here
  | @cons upper sent₂ sections values second _ ih =>
    obtain ⟨c₁, t, here, later⟩ := mergeAll_cons_eq_ok_iff.mp merged
    obtain ⟨c₂, v, again, rest⟩ := mergeAll_cons_eq_ok_iff.mp later
    obtain ⟨now, others⟩ := List.forall_mem_cons.mp once
    have both : Sends (Json.overlay base upper) (.object [("elmLS", .object (Json.overlay base upper))]) :=
      .wrapped rfl
    obtain ⟨c, one⟩ := merge_overlay now first second here again both
    exact ih others both (mergeAll_cons_eq_ok_iff.mpr ⟨c, v, one, rest⟩) all

/-! ### The programs after a merge -/

/-- **After a merge** the compiler and the linter are looked for by the names that the section gives, and
else by those of before. -/
theorem programs_of_merge (merged : s.merge sent = .ok (c, t)) :
    ((sectionOf sent).given? "elmPath").elim (some s.compilerCommand) Json.string? =
        some t.compilerCommand ∧
      ((sectionOf sent).given? "elmReviewPath").elim (some s.linter.command) Json.string? =
        some t.linter.command := by
  obtain ⟨read, rfl⟩ := merge_eq_ok_iff.mp merged
  obtain ⟨compiler, -, linter⟩ := ClientSettings.merge_eq_ok_iff.mp read
  rw [ClientSettings.choose?_eq] at compiler linter
  exact ⟨compiler, linter⟩

/-- A key of the compiler that is not given leaves its name. -/
theorem compilerCommand_of_merge (merged : s.merge sent = .ok (c, t))
    (absent : (sectionOf sent).given? "elmPath" = none) : t.compilerCommand = s.compilerCommand := by
  have compiler := (programs_of_merge merged).1
  rw [absent] at compiler
  exact (Option.some.inj compiler).symm

/-- So does one of the linter. -/
theorem linterCommand_of_merge (merged : s.merge sent = .ok (c, t))
    (absent : (sectionOf sent).given? "elmReviewPath" = none) :
    t.linter.command = s.linter.command := by
  have linter := (programs_of_merge merged).2
  rw [absent] at linter
  exact (Option.some.inj linter).symm

/-! ### Settings in place -/

/-- The programs of a section are written to settings, one by one. -/
def writePrograms (c : ClientSettings) : ExceptT Fault (StateM Settings) Unit := do
  modify fun s => { s with compiler := { s.compiler with path := some c.compilerPath } }
  modify fun s => { s with linter := { s.linter with command := c.linterPath } }

/-- Settings as a variable: what an editor sends is merged with what they say, and the programs are
written to them. A fault ends it there, and takes nothing back. -/
def mergeInPlace (sent : Json) : ExceptT Fault (StateM Settings) ClientSettings := do
  let s ← get
  let merged ← ofExcept (s.client.merge (sectionOf sent))
  writePrograms merged
  return merged

/-- What a merge in place gives, and the settings after it. -/
def runInPlace (s : Settings) (sent : Json) : Except Fault ClientSettings × Settings :=
  (mergeInPlace sent).run.run s

/-- **Settings in place are those of a merge that succeeds**, and stay as they are when it fails. -/
theorem runInPlace_eq (s : Settings) (sent : Json) :
    s.runInPlace sent =
      match s.merge sent with
      | .ok (c, t) => (.ok c, t)
      | .error f => (.error f, s) := by
  have read : s.runInPlace sent = (do
      let merged ← ofExcept (s.client.merge (sectionOf sent))
      writePrograms merged
      return merged : ExceptT Fault (StateM Settings) ClientSettings).run.run s := rfl
  rw [read, merge]
  cases s.client.merge (sectionOf sent) <;> rfl

end Settings

open Settings in
/-- **Merging one section after another is merging one section**, that of the first with what the second
gives over it. A key that neither gives leaves the program that is found. A merge takes over what is
given; it fails when one of three keys has no text, and leaves settings in place as they were then. -/
theorem merges_as_overlay (s : Settings) :
    (∀ (base upper : List (String × Json)) (sent₁ sent₂ : Json) (c₁ c₂ : ClientSettings)
      (t u : Settings), (upper.map Prod.fst).Nodup → Sends base sent₁ → Sends upper sent₂ →
      s.merge sent₁ = .ok (c₁, t) → t.merge sent₂ = .ok (c₂, u) →
      (∀ sent, Sends (Json.overlay base upper) sent → ∃ c, s.merge sent = .ok (c, u)) ∧
      ((Json.object base).given? "elmPath" = none → (Json.object upper).given? "elmPath" = none →
        ∀ m : Machine, m.findProgram? u.compilerCommand = m.findProgram? s.compilerCommand) ∧
      ((Json.object base).given? "elmReviewPath" = none →
        (Json.object upper).given? "elmReviewPath" = none →
        ∀ m : Machine, m.findProgram? u.linter.command = m.findProgram? s.linter.command)) ∧
    ∀ sent : Json,
      (∀ c t, s.merge sent = .ok (c, t) → s.runInPlace sent = (.ok c, t) ∧
        (∀ text, (sectionOf sent).given? "elmPath" = some (.string text) →
          t.compilerCommand = text) ∧
        ∀ text, (sectionOf sent).given? "elmReviewPath" = some (.string text) →
          t.linter.command = text) ∧
      (∀ f, s.merge sent = .error f → s.runInPlace sent = (.error f, s)) ∧
      ((∃ f, s.merge sent = .error f) ↔
        ∃ key ∈ ["elmPath", "elmFormatPath", "elmReviewPath"], ∃ v,
          (sectionOf sent).given? key = some v ∧ v.string? = none) := by
  constructor
  · intro base upper sent₁ sent₂ c₁ c₂ t u once first second merged again
    refine ⟨fun sent => merge_overlay once first second merged again, ?_, ?_⟩
    · intro neither nor m
      rw [compilerCommand_of_merge again (by rw [second.sectionOf, nor]),
        compilerCommand_of_merge merged (by rw [first.sectionOf, neither])]
    · intro neither nor m
      rw [linterCommand_of_merge again (by rw [second.sectionOf, nor]),
        linterCommand_of_merge merged (by rw [first.sectionOf, neither])]
  · intro sent
    refine ⟨fun c t merged => ⟨?_, ?_, ?_⟩, fun f failed => ?_, merge_eq_error_iff⟩
    · rw [runInPlace_eq, merged]
    · intro text given
      have compiler := (programs_of_merge merged).1
      rw [given] at compiler
      exact (Option.some.inj compiler).symm
    · intro text given
      have linter := (programs_of_merge merged).2
      rw [given] at linter
      exact (Option.some.inj linter).symm
    · rw [runInPlace_eq, failed]

/-! ### Sections of an editor -/

/-- Settings with a linter of another name. -/
def reviewed : Settings :=
  { Settings.usual with linter := { LinterSettings.usual with command := "review" } }

/-- A linter is sent bare, then a compiler under `elmLS`, with keys that do not count; and a section
that cannot be read is turned down. -/
theorem sections_merged_in_turn :
    let base := [("elmReviewPath", Json.string "/opt/review"), ("elmPath", .null)]
    let upper := [("elmPath", Json.string "/opt/elm"), ("elmReviewPath", .null), ("trace", .bool true)]
    let outer := Json.object [("other", .null), ("elmLS", .object upper)]
    let unread := Json.object [("elmPath", .string "/bin/elm"), ("elmFormatPath", .bool false)]
    ∃ c₁ c₂ t u, reviewed.merge (.object base) = .ok (c₁, t) ∧ t.merge outer = .ok (c₂, u) ∧
      t.compiler.path = some "elm" ∧ u.compiler.path = some "/opt/elm" ∧
      u.linter.command = "/opt/review" ∧
      (∃ c, reviewed.merge (.object (Json.overlay base upper)) = .ok (c, u)) ∧
      ∃ f, reviewed.merge unread = .error f ∧ reviewed.runInPlace unread = (.error f, reviewed) := by
  intro base upper outer unread
  obtain ⟨merges, failures⟩ := merges_as_overlay reviewed
  refine ⟨_, _, _, _, rfl, rfl, rfl, rfl, rfl, ?_, _, rfl, (failures unread).2.1 _ rfl⟩
  refine (merges base upper (.object base) outer _ _ _ _ ?_ ?_ ?_ rfl rfl).1 _ ?_
  · decide
  · exact .bare rfl
  · exact .wrapped rfl
  · exact .bare rfl

end ElmAssist
