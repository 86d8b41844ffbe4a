import ElmAssist.Proofs.Forest.Index

/-!
# Forest — Calls at the same time

Any number of calls may store texts in one forest at the same time. Each takes two steps, and any
steps of others may come between them: it looks whether a newer version is held and, if not, parses
its text; then it puts the parsed file in, unless a newer version is held by now. A call whose text
the parser gives up fails, and leaves nothing.

* `Race.step`: one step of one call; two without a step between them are `Forest.set`.
* `step_stepped`: what a step does. It changes the entry of its own uri at most.
* `Leading`: the file that some calls and the file at the start leave for a uri.
* `versions_settle`: whatever the order of the steps, no version goes back, and what is held is what
  the calls that are answered leave.
-/

namespace ElmAssist.Forest

/-- A text offered for a uri at a version. -/
structure Offer where
  uri : String
  text : String
  version : Int
  deriving DecidableEq, Repr

/-- The file that an offer is parsed to. -/
def Offer.file (parse : Parser) (o : Offer) : SourceFile :=
  .build parse o.uri o.text o.version

/-- The parser gives up what is offered, after one text or another. -/
def Offer.GivenUp (parse : Parser) (o : Offer) (e : Fault) : Prop :=
  ∃ previous, parse.fault? previous o.text = some e

/-- The fault of parsing what is offered after what is held. -/
def unparsed? (parse : Parser) (s : Forest) (o : Offer) : Option Fault :=
  parse.fault? ((s.get? o.uri).map SourceFile.text) o.text

/-- The file held for the uri of an offer, when it is newer than the offer. -/
def newerThan? (s : Forest) (o : Offer) : Option SourceFile :=
  s.newer? o.uri o.version

theorem newerThan?_eq_some_iff {s : Forest} {o : Offer} {f : SourceFile} :
    s.newerThan? o = some f ↔ s.get? o.uri = some f ∧ o.version < f.version := by
  simp [newerThan?, newer?, Option.filter_eq_some_iff]

/-- What is held is not newer than an offer that is current. -/
theorem version_le_of_current {s : Forest} {o : Offer} (current : s.newerThan? o = none)
    {f : SourceFile} (held : s.get? o.uri = some f) : f.version ≤ o.version := by
  simpa [newerThan?, newer?, held, Option.filter_eq_none_iff] using current

theorem publish_of_newer {parse : Parser} {s : Forest} {o : Offer} {held : SourceFile}
    (newer : s.newerThan? o = some held) : s.publish (o.file parse) = (held, s) := by
  have also : s.newer? (o.file parse).uri (o.file parse).version = some held := newer
  simp [publish, also]

theorem publish_of_current {parse : Parser} {s : Forest} {o : Offer}
    (current : s.newerThan? o = none) :
    s.publish (o.file parse) = (o.file parse, s.put (o.file parse)) := by
  have also : s.newer? (o.file parse).uri (o.file parse).version = none := current
  simp [publish, also]

/-- What is offered is parsed to its file, -/
theorem parsed_offer {parse : Parser} {s : Forest} {o : Offer} (fine : s.unparsed? parse o = none) :
    SourceFile.parsed parse (s.get? o.uri) o.uri o.text o.version = .ok (o.file parse) := by
  have none_ : parse.fault? ((s.get? o.uri).map SourceFile.text) o.text = none := fine
  simp [SourceFile.parsed, none_, Offer.file]

/-- unless the parser gives it up. -/
theorem parsed_offer_of_unparsed {parse : Parser} {s : Forest} {o : Offer} {e : Fault}
    (unparsed : s.unparsed? parse o = some e) :
    SourceFile.parsed parse (s.get? o.uri) o.uri o.text o.version = .error e := by
  have some_ : parse.fault? ((s.get? o.uri).map SourceFile.text) o.text = some e := unparsed
  simp [SourceFile.parsed, some_]

/-- Storing what is offered does nothing when a newer version is held, -/
theorem set_of_newer {parse : Parser} {s : Forest} {o : Offer} {held : SourceFile}
    (newer : s.newerThan? o = some held) : s.set parse o.uri o.text o.version = (.ok held, s) := by
  have also : s.newer? o.uri o.version = some held := newer
  simp [Forest.set, also]

/-- fails when the parser gives it up, -/
theorem set_of_unparsed {parse : Parser} {s : Forest} {o : Offer} {e : Fault}
    (current : s.newerThan? o = none) (unparsed : s.unparsed? parse o = some e) :
    s.set parse o.uri o.text o.version = (.error e, s) := by
  have also : s.newer? o.uri o.version = none := current
  simp [Forest.set, also, parsed_offer_of_unparsed unparsed]

/-- and else puts its file in. -/
theorem set_of_current {parse : Parser} {s : Forest} {o : Offer} (current : s.newerThan? o = none)
    (fine : s.unparsed? parse o = none) :
    s.set parse o.uri o.text o.version = (.ok (o.file parse), s.put (o.file parse)) := by
  have also : s.newer? o.uri o.version = none := current
  simp [Forest.set, also, parsed_offer fine, publish_of_current current]

/-! ### Calls -/

/-- How far a call has come. -/
inductive Progress where
  | waiting
  /-- It has seen no newer version, and has parsed its text. -/
  | parsed (f : SourceFile)
  /-- It has given a file. -/
  | answered (f : SourceFile)
  /-- Its text was given up. -/
  | failed (e : Fault)

/-- A forest, and how far each call on it has come. -/
structure Race (ι : Type) where
  forest : Forest
  progress : ι → Progress

variable {ι : Type} [DecidableEq ι]

namespace Race

/-- The call has given a file. -/
def Answered (r : Race ι) (i : ι) : Prop :=
  ∃ f, r.progress i = .answered f

/-- The call has failed, for its text was given up. -/
def Failed (parse : Parser) (offers : ι → Offer) (r : Race ι) (i : ι) : Prop :=
  ∃ e, r.progress i = .failed e ∧ (offers i).GivenUp parse e

/-- The race after a call came further. -/
def note (r : Race ι) (i : ι) (p : Progress) : Race ι :=
  { r with progress := Function.update r.progress i p }

/-- One step of a call. A call that is done stays so. -/
def step (parse : Parser) (offers : ι → Offer) (r : Race ι) (i : ι) : Race ι :=
  match r.progress i with
  | .waiting =>
    match r.forest.newerThan? (offers i) with
    | some held => r.note i (.answered held)
    | none =>
      match SourceFile.parsed parse (r.forest.get? (offers i).uri) (offers i).uri (offers i).text
          (offers i).version with
      | .error e => r.note i (.failed e)
      | .ok f => r.note i (.parsed f)
  | .parsed f =>
    let (held, forest) := r.forest.publish f
    { r with forest }.note i (.answered held)
  | .answered _ | .failed _ => r

end Race

/-- The race of calls on a forest after steps, the latest one first. -/
def race (parse : Parser) (offers : ι → Offer) (s : Forest) : List ι → Race ι
  | [] => ⟨s, fun _ => .waiting⟩
  | i :: earlier => (race parse offers s earlier).step parse offers i

variable {parse : Parser} {offers : ι → Offer} {r : Race ι} {i : ι}

/-! ### One step -/

namespace Race

@[simp] theorem note_forest (r : Race ι) (i : ι) (p : Progress) :
    (r.note i p).forest = r.forest := rfl

@[simp] theorem note_progress_self (r : Race ι) (i : ι) (p : Progress) :
    (r.note i p).progress i = p := by
  simp [note]

theorem note_progress_of_ne {j : ι} (other : j ≠ i) (r : Race ι) (p : Progress) :
    (r.note i p).progress j = r.progress j := by
  simp [note, other]

theorem answered_note_answered {j : ι} (f : SourceFile) :
    (r.note i (.answered f)).Answered j ↔ j = i ∨ r.Answered j := by
  by_cases same : j = i
  · subst same
    simp [Answered]
  · simp [Answered, note_progress_of_ne same, same]

/-- A call that comes further without giving a file leaves those that have given one. -/
theorem answered_note_iff {j : ι} (undone : ¬ r.Answered i) {p : Progress}
    (silent : ∀ f, p ≠ .answered f) : (r.note i p).Answered j ↔ r.Answered j := by
  by_cases same : j = i
  · subst same
    simpa [Answered, silent] using undone
  · simp [Answered, note_progress_of_ne same]

/-- What a call has parsed is what it offers, and a call that failed had its text given up. -/
structure Prepared (parse : Parser) (offers : ι → Offer) (r : Race ι) : Prop where
  parsed : ∀ i f, r.progress i = .parsed f → f = (offers i).file parse
  failed : ∀ i e, r.progress i = .failed e → (offers i).GivenUp parse e

omit [DecidableEq ι] in
theorem not_answered_of_waiting (waiting : r.progress i = .waiting) : ¬ r.Answered i := by
  simp [Answered, waiting]

omit [DecidableEq ι] in
theorem not_answered_of_parsed {f : SourceFile} (parsed : r.progress i = .parsed f) :
    ¬ r.Answered i := by
  simp [Answered, parsed]

theorem step_of_newer_waiting {held : SourceFile} (waiting : r.progress i = .waiting)
    (newer : r.forest.newerThan? (offers i) = some held) :
    r.step parse offers i = r.note i (.answered held) := by
  unfold step
  simp only [waiting, newer]

theorem step_of_current_waiting (waiting : r.progress i = .waiting)
    (current : r.forest.newerThan? (offers i) = none)
    (fine : r.forest.unparsed? parse (offers i) = none) :
    r.step parse offers i = r.note i (.parsed ((offers i).file parse)) := by
  unfold step
  simp only [waiting, current, parsed_offer fine]

theorem step_of_unparsed {e : Fault} (waiting : r.progress i = .waiting)
    (current : r.forest.newerThan? (offers i) = none)
    (unparsed : r.forest.unparsed? parse (offers i) = some e) :
    r.step parse offers i = r.note i (.failed e) := by
  unfold step
  simp only [waiting, current, parsed_offer_of_unparsed unparsed]

theorem step_of_parsed {f : SourceFile} (parsed : r.progress i = .parsed f) :
    r.step parse offers i =
      { r with forest := (r.forest.publish f).2 }.note i (.answered (r.forest.publish f).1) := by
  unfold step
  simp only [parsed]

theorem step_of_answered (done : r.Answered i) : r.step parse offers i = r := by
  obtain ⟨f, answered⟩ := done
  unfold step
  simp only [answered]

theorem step_of_failed {e : Fault} (failed : r.progress i = .failed e) :
    r.step parse offers i = r := by
  unfold step
  simp only [failed]

/-- What a step of a call does. -/
inductive Stepped (parse : Parser) (offers : ι → Offer) (r : Race ι) (i : ι) : Race ι → Prop
  /-- The call sees a newer version, be it when it looks or when it would put its file in. -/
  | refused {held : SourceFile} (undone : ¬ r.Answered i)
      (newer : r.forest.newerThan? (offers i) = some held) :
      Stepped parse offers r i (r.note i (.answered held))
  | looked (waiting : r.progress i = .waiting)
      (current : r.forest.newerThan? (offers i) = none) :
      Stepped parse offers r i (r.note i (.parsed ((offers i).file parse)))
  | failed {e : Fault} (waiting : r.progress i = .waiting)
      (unparsed : r.forest.unparsed? parse (offers i) = some e)
      (current : r.forest.newerThan? (offers i) = none) :
      Stepped parse offers r i (r.note i (.failed e))
  | published (parsed : r.progress i = .parsed ((offers i).file parse))
      (current : r.forest.newerThan? (offers i) = none) :
      Stepped parse offers r i
        ({ r with forest := r.forest.put ((offers i).file parse) }.note i
          (.answered ((offers i).file parse)))
  | idle (done : r.Answered i ∨ r.Failed parse offers i) : Stepped parse offers r i r

theorem step_stepped (prepared : r.Prepared parse offers) (i : ι) :
    r.Stepped parse offers i (r.step parse offers i) := by
  cases stage : r.progress i with
  | waiting =>
    cases newer : r.forest.newerThan? (offers i) with
    | some held =>
      rw [step_of_newer_waiting stage newer]
      exact .refused (not_answered_of_waiting stage) newer
    | none =>
      cases unparsed : r.forest.unparsed? parse (offers i) with
      | some e =>
        rw [step_of_unparsed stage newer unparsed]
        exact .failed stage unparsed newer
      | none =>
        rw [step_of_current_waiting stage newer unparsed]
        exact .looked stage newer
  | parsed f =>
    obtain rfl := prepared.parsed i f stage
    rw [step_of_parsed stage]
    cases newer : r.forest.newerThan? (offers i) with
    | some held =>
      rw [publish_of_newer newer]
      exact .refused (not_answered_of_parsed stage) newer
    | none =>
      rw [publish_of_current newer]
      exact .published stage newer
  | answered f =>
    have done : r.Answered i := ⟨f, stage⟩
    rw [step_of_answered done]
    exact .idle (Or.inl done)
  | failed e =>
    rw [step_of_failed stage]
    exact .idle (Or.inr ⟨e, stage, prepared.failed i e stage⟩)

theorem Stepped.prepared {r' : Race ι} (h : r.Stepped parse offers i r')
    (before : r.Prepared parse offers) : r'.Prepared parse offers := by
  -- A call that is noted as parsed has parsed what it offers.
  have noted {r : Race ι} (before : r.Prepared parse offers) (p : Progress)
      (own : ∀ f, p = .parsed f → f = (offers i).file parse)
      (given : ∀ e, p = .failed e → (offers i).GivenUp parse e) :
      (r.note i p).Prepared parse offers := by
    constructor
    · intro j f parsed
      by_cases same : j = i
      · subst same
        exact own f (by simpa using parsed)
      · exact before.parsed j f (by simpa [note_progress_of_ne same] using parsed)
    · intro j e failed
      by_cases same : j = i
      · subst same
        exact given e (by simpa using failed)
      · exact before.failed j e (by simpa [note_progress_of_ne same] using failed)
  cases h with
  | refused => exact noted before _ (by simp) (by simp)
  | looked => exact noted before _ (by simp) (by simp)
  | failed _ unparsed =>
    refine noted before _ (by simp) fun e same => ?_
    cases same
    exact ⟨_, unparsed⟩
  | published =>
    refine noted (r := { r with forest := r.forest.put ((offers i).file parse) })
      ⟨before.parsed, before.failed⟩ _ ?_ ?_ <;> simp
  | idle => exact before

/-- A step leaves the entries of all other uris. -/
theorem Stepped.get?_of_ne {r' : Race ι} (h : r.Stepped parse offers i r') {uri : String}
    (other : uri ≠ (offers i).uri) : r'.forest.get? uri = r.forest.get? uri := by
  cases h with
  | refused | looked | failed | idle => rfl
  | published => exact (get?_put ..).trans (if_neg other)

/-- A step leaves how far all other calls have come. -/
theorem Stepped.progress_of_ne {r' : Race ι} (h : r.Stepped parse offers i r') {j : ι}
    (other : j ≠ i) : r'.progress j = r.progress j := by
  cases h with
  | refused | looked | failed | published => exact note_progress_of_ne other ..
  | idle => rfl

/-- A call does not wait after a step, and is done after one more. -/
theorem Stepped.comes_further {r' : Race ι} (h : r.Stepped parse offers i r') :
    r'.progress i ≠ .waiting ∧
      (r.progress i ≠ .waiting → r'.Answered i ∨ r'.Failed parse offers i) := by
  cases h with
  | refused | published => simp [Answered]
  | looked waiting | failed waiting => simp [waiting]
  | idle done =>
    refine ⟨?_, fun _ => done⟩
    rcases done with ⟨f, stage⟩ | ⟨e, stage, -⟩ <;> simp [stage]

/-- A newer version is given, and the forest stays as it is. -/
theorem Stepped.of_newer {r' : Race ι} (h : r.Stepped parse offers i r')
    (undone : ¬ (r.Answered i ∨ r.Failed parse offers i)) {held : SourceFile}
    (newer : r.forest.newerThan? (offers i) = some held) :
    r'.forest = r.forest ∧ r'.progress i = .answered held := by
  cases h with
  | refused _ also =>
    obtain rfl : held = _ := Option.some.inj (newer.symm.trans also)
    simp
  | looked _ current | failed _ _ current | published _ current =>
    cases newer.symm.trans current
  | idle done => exact absurd done undone

/-- A call that fails leaves the forest. -/
theorem Stepped.of_failed {r' : Race ι} (h : r.Stepped parse offers i r') {e : Fault}
    (failed : r'.progress i = .failed e) : r'.forest = r.forest := by
  cases h with
  | refused | looked | failed | idle => rfl
  | published => simp at failed

end Race

/-- **A version never goes back** in one step. -/
theorem Race.Stepped.rises {r' : Race ι} (h : r.Stepped parse offers i r') {uri : String}
    {f : SourceFile} (held : r.forest.get? uri = some f) :
    ∃ g, r'.forest.get? uri = some g ∧ f.version ≤ g.version := by
  by_cases own : uri = (offers i).uri
  · subst own
    cases h with
    | refused | looked | failed | idle => exact ⟨f, held, le_refl _⟩
    | published _ current =>
      exact ⟨(offers i).file parse, (get?_put ..).trans (if_pos rfl),
        version_le_of_current current held⟩
  · exact ⟨f, (h.get?_of_ne own).trans held, le_refl _⟩

/-! ### Two steps -/

/-- How far a call has come that is done. -/
def Progress.ofStored : Except Fault SourceFile → Progress
  | .ok held => .answered held
  | .error e => .failed e

/-- **A call that none comes between stores its text**, and gives what storing it gives. -/
theorem step_step_eq_set (waits : r.progress i = .waiting) :
    let stored := r.forest.set parse (offers i).uri (offers i).text (offers i).version
    let done := (r.step parse offers i).step parse offers i
    done.forest = stored.2 ∧ done.progress i = .ofStored stored.1 := by
  cases newer : r.forest.newerThan? (offers i) with
  | some held =>
    have answered : (r.note i (.answered held)).Answered i := ⟨held, Race.note_progress_self ..⟩
    rw [set_of_newer newer, Race.step_of_newer_waiting waits newer, Race.step_of_answered answered]
    simp [Progress.ofStored]
  | none =>
    cases unparsed : r.forest.unparsed? parse (offers i) with
    | some e =>
      rw [set_of_unparsed newer unparsed, Race.step_of_unparsed waits newer unparsed,
        Race.step_of_failed (Race.note_progress_self ..)]
      simp [Progress.ofStored]
    | none =>
      rw [set_of_current newer unparsed, Race.step_of_current_waiting waits newer unparsed,
        Race.step_of_parsed (Race.note_progress_self ..), Race.note_forest,
        publish_of_current newer]
      simp [Progress.ofStored]

/-! ### What calls leave -/

/-- What is held of a uri when some calls are done: the text of one of the highest version, unless
the file that was held at the start is newer than all of them. -/
inductive Leading (parse : Parser) (offers : ι → Offer) (done : ι → Prop)
    (start : Option SourceFile) (uri : String) : Option SourceFile → Prop
  | offered {i : ι} (called : done i) (named : (offers i).uri = uri)
      (highest : ∀ j, done j → (offers j).uri = uri → (offers j).version ≤ (offers i).version)
      (passed : ∀ f, start = some f → f.version ≤ (offers i).version) :
      Leading parse offers done start uri (some ((offers i).file parse))
  | kept {f : SourceFile} (held : start = some f)
      (newest : ∀ j, done j → (offers j).uri = uri → (offers j).version < f.version) :
      Leading parse offers done start uri (some f)
  | absent (missing : start = none) (unnamed : ∀ j, done j → (offers j).uri ≠ uri) :
      Leading parse offers done start uri none

namespace Leading

variable {done now : ι → Prop} {start held : Option SourceFile} {uri : String}

omit [DecidableEq ι] in
/-- Only the calls for the uri count. -/
theorem congr (h : Leading parse offers done start uri held)
    (same : ∀ j, (offers j).uri = uri → (now j ↔ done j)) :
    Leading parse offers now start uri held := by
  cases h with
  | offered called named highest passed =>
    exact .offered ((same _ named).mpr called) named
      (fun j also there => highest j ((same j there).mp also) there) passed
  | kept held newest =>
    exact .kept held fun j also there => newest j ((same j there).mp also) there
  | absent missing unnamed =>
    exact .absent missing fun j also there => unnamed j ((same j there).mp also) there

omit [DecidableEq ι] in
/-- One more call is done, which is older than what is held. -/
theorem refuse {f : SourceFile} (h : Leading parse offers done start uri (some f))
    (older : (offers i).version < f.version) (more : ∀ j, now j ↔ j = i ∨ done j) :
    Leading parse offers now start uri (some f) := by
  cases h with
  | offered called named highest passed =>
    refine .offered ((more _).mpr (Or.inr called)) named (fun j also there => ?_) passed
    rcases (more j).mp also with rfl | also
    · exact le_of_lt older
    · exact highest j also there
  | kept held newest =>
    refine .kept held fun j also there => ?_
    rcases (more j).mp also with rfl | also
    · exact older
    · exact newest j also there

omit [DecidableEq ι] in
/-- One more call is done, than which nothing held is newer. -/
theorem publish (h : Leading parse offers done start (offers i).uri held)
    (current : ∀ f, held = some f → f.version ≤ (offers i).version)
    (more : ∀ j, now j ↔ j = i ∨ done j) :
    Leading parse offers now start (offers i).uri (some ((offers i).file parse)) := by
  have counted : now i := (more i).mpr (Or.inl rfl)
  cases h with
  | offered called named highest passed =>
    have higher := current _ rfl
    refine .offered counted rfl (fun j also there => ?_) fun f start => (passed f start).trans higher
    rcases (more j).mp also with rfl | also
    · exact le_refl _
    · exact (highest j also there).trans higher
  | kept start newest =>
    have higher := current _ rfl
    refine .offered counted rfl (fun j also there => ?_) fun f also => ?_
    · rcases (more j).mp also with rfl | also
      · exact le_refl _
      · exact (le_of_lt (newest j also there)).trans higher
    · obtain rfl := Option.some.inj (start.symm.trans also)
      exact higher
  | absent missing unnamed =>
    refine .offered counted rfl (fun j also there => ?_) fun f start => ?_
    · rcases (more j).mp also with rfl | also
      · exact le_refl _
      · exact absurd there (unnamed j also)
    · cases missing.symm.trans start

end Leading

/-- One step. -/
theorem Race.Stepped.leading {r' : Race ι} (h : r.Stepped parse offers i r')
    {start : Option SourceFile} {uri : String}
    (before : Leading parse offers r.Answered start uri (r.forest.get? uri)) :
    Leading parse offers r'.Answered start uri (r'.forest.get? uri) := by
  cases h with
  | idle => exact before
  | looked waiting | failed waiting =>
    exact before.congr fun j _ =>
      Race.answered_note_iff (Race.not_answered_of_waiting waiting) (by simp)
  | @refused held undone newer =>
    have more : ∀ j, (r.note i (.answered held)).Answered j ↔ j = i ∨ r.Answered j :=
      fun j => Race.answered_note_answered held
    by_cases own : (offers i).uri = uri
    · subst own
      obtain ⟨there, older⟩ := newerThan?_eq_some_iff.mp newer
      rw [there] at before
      exact there.symm ▸ before.refuse older more
    · refine before.congr fun j named => (more j).trans (or_iff_right ?_)
      rintro rfl
      exact own named
  | published _ current =>
    have more (j : ι) := Race.answered_note_answered (i := i) (j := j)
      (r := { r with forest := r.forest.put ((offers i).file parse) }) ((offers i).file parse)
    rw [Race.note_forest, get?_put]
    by_cases own : uri = (offers i).uri
    · subst own
      rw [if_pos (show (offers i).uri = ((offers i).file parse).uri from rfl)]
      exact before.publish (fun f held => version_le_of_current current held) more
    · rw [if_neg (show ¬ uri = ((offers i).file parse).uri from own)]
      refine before.congr fun j named => (more j).trans (or_iff_right ?_)
      rintro rfl
      exact own named.symm

/-! ### All steps -/

theorem prepared_race (s : Forest) (schedule : List ι) :
    (race parse offers s schedule).Prepared parse offers := by
  induction schedule with
  | nil => exact ⟨nofun, nofun⟩
  | cons i earlier ih => exact (Race.step_stepped ih i).prepared ih

theorem leading_race (s : Forest) (schedule : List ι) (uri : String) :
    let now := race parse offers s schedule
    Leading parse offers now.Answered (s.get? uri) uri (now.forest.get? uri) := by
  induction schedule with
  | nil =>
    intro now
    have undone (j : ι) : ¬ now.Answered j := nofun
    have held : now.forest.get? uri = s.get? uri := rfl
    rw [held]
    cases start : s.get? uri with
    | none => exact .absent rfl fun j done => absurd done (undone j)
    | some f => exact .kept rfl fun j done => absurd done (undone j)
  | cons i earlier ih => exact (Race.step_stepped (prepared_race s earlier) i).leading ih

/-- How far a call has come after its first step, and after its second. -/
theorem stages_race (s : Forest) (schedule : List ι) (i : ι) :
    let now := race parse offers s schedule
    (1 ≤ schedule.count i → now.progress i ≠ .waiting) ∧
      (2 ≤ schedule.count i → now.Answered i ∨ now.Failed parse offers i) := by
  induction schedule with
  | nil => simp
  | cons j earlier ih =>
    obtain ⟨begun, finished⟩ := ih
    have stepped : Race.Stepped parse offers _ j (race parse offers s (j :: earlier)) :=
      Race.step_stepped (prepared_race s earlier) j
    by_cases own : j = i
    · subst own
      rw [List.count_cons_self]
      obtain ⟨first, second⟩ := stepped.comes_further
      exact ⟨fun _ => first, fun two => second (begun (Nat.le_of_succ_le_succ two))⟩
    · have same := stepped.progress_of_ne (Ne.symm own)
      rw [List.count_cons_of_ne own]
      refine ⟨fun one => same ▸ begun one, fun two => (finished two).imp ?_ ?_⟩
      · rintro ⟨f, answered⟩
        exact ⟨f, same.trans answered⟩
      · rintro ⟨e, failed, given⟩
        exact ⟨e, same.trans failed, given⟩

theorem race_rises {s : Forest} {earlier : List ι} {uri : String} {f : SourceFile}
    (held : (race parse offers s earlier).forest.get? uri = some f) (later : List ι) :
    ∃ g, (race parse offers s (later ++ earlier)).forest.get? uri = some g ∧
      f.version ≤ g.version := by
  induction later with
  | nil => exact ⟨f, held, le_refl _⟩
  | cons i later ih =>
    obtain ⟨g, there, rose⟩ := ih
    obtain ⟨h, now, more⟩ := (Race.step_stepped (prepared_race s (later ++ earlier)) i).rises there
    exact ⟨h, now, rose.trans more⟩

/-- **What calls at the same time leave**, whatever the order of their steps.

* No version that is held goes back, however the calls go on.
* A call is done after two steps of its own: it has given a file, unless the parser gave its text up.
* What is held of a uri is the text of a call of the highest version among those that have given a
  file for it, unless what was held at the start is newer than all of them; once all calls are done,
  those are all calls but the ones whose text was given up.
* A step of a call leaves the entries of all uris but its own.
* A call that finds a newer version, be it when it looks or when it would put its file in, gives that
  one and leaves the forest as it is.
* A call that fails leaves the forest as it is. -/
theorem versions_settle (parse : Parser) (offers : ι → Offer) (s : Forest) (schedule : List ι) :
    let now := race parse offers s schedule
    (∀ later uri f, now.forest.get? uri = some f →
      ∃ g, (race parse offers s (later ++ schedule)).forest.get? uri = some g ∧
        f.version ≤ g.version) ∧
    (∀ i, 2 ≤ schedule.count i → now.Answered i ∨ now.Failed parse offers i) ∧
    (∀ uri, Leading parse offers now.Answered (s.get? uri) uri (now.forest.get? uri)) ∧
    (∀ i uri, uri ≠ (offers i).uri →
      (now.step parse offers i).forest.get? uri = now.forest.get? uri) ∧
    (∀ i held, ¬ (now.Answered i ∨ now.Failed parse offers i) →
      now.forest.get? (offers i).uri = some held → (offers i).version < held.version →
      (now.step parse offers i).forest = now.forest ∧
        (now.step parse offers i).progress i = .answered held) ∧
    ∀ i e, (now.step parse offers i).progress i = .failed e →
      (now.step parse offers i).forest = now.forest := by
  intro now
  have stepped (i : ι) : now.Stepped parse offers i (now.step parse offers i) :=
    Race.step_stepped (prepared_race s schedule) i
  refine ⟨fun later uri f held => race_rises held later, fun i => (stages_race s schedule i).2,
    leading_race s schedule, fun i uri other => (stepped i).get?_of_ne other, ?_,
    fun i e failed => (stepped i).of_failed failed⟩
  intro i held undone there newer
  exact (stepped i).of_newer undone (newerThan?_eq_some_iff.mpr ⟨there, newer⟩)

/-- A call that looked first and comes back late does not put its older text over a newer one. -/
example :
    let offers : Bool → Offer := fun late => ⟨"A", "x", if late then 2 else 1⟩
    let now := race (.constant []) offers .empty [false, true, true, false]
    (now.forest.get? "A").map SourceFile.version = some 2 := by decide +kernel

end ElmAssist.Forest
