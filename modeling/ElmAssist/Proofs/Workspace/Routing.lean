import ElmAssist.Proofs.Disk.Normal
import ElmAssist.Workspace.Session
import Mathlib.Data.List.Nodup

/-!
# Workspace — The session of a uri

Sessions stand in the order of how long their roots are written, and a uri goes to the first whose root
is at or above its path. Roots at or above one path lie one below the other, so for roots in their plain
spelling the one that is written longest is the deepest.

* `Path.length_lt_of_below`: of two plain roots, the lower one is written longer.
* `Workspaces.ordered_ofList`, `Workspaces.perm_ofList`: what is inserted stands in order, whatever the
  order in which it came.
* `Session.Owns`: the session with the deepest root at or above a path.
* `routed_to_deepest`: the session that a uri goes to.
* `nested_root_routed`: roots within each other, and next to each other.
-/

namespace ElmAssist

namespace Path

variable {p q : Path}

/-- The path starts at the root of the disk and is spelled plainly. -/
structure IsPlainRoot (p : Path) : Prop where
  absolute : p.isAbsolute = true
  plain : p.normalize = p

theorem IsPlainRoot.isDirect (h : p.IsPlainRoot) : p.IsDirect :=
  h.plain ▸ isDirect_normalize h.absolute

theorem IsPlainRoot.ofComponents (h : p.IsPlainRoot) : Path.ofComponents p.components = p := by
  have steps := components_normalize p
  rw [h.plain] at steps
  rw [steps, ← normalize_eq, h.plain]

/-- Plain roots with the same steps are the same. -/
theorem IsPlainRoot.eq (first : p.IsPlainRoot) (second : q.IsPlainRoot)
    (same : p.components = q.components) : p = q := by
  rw [← first.ofComponents, ← second.ofComponents, same]

theorem length_lt_join {n : List UInt8} (name : IsName n) (p : Path) :
    p.bytes.length < (p.join ⟨n⟩).bytes.length := by
  have some : 0 < n.length := List.length_pos_iff.mpr name.nonempty
  unfold join
  rw [name.relative, if_neg Bool.false_ne_true]
  split
  · rename_i none
    rw [List.getLast?_eq_none_iff.mp none]
    exact some
  · split <;> simp only [List.length_append, List.length_cons] <;> omega

/-- Each name makes a path longer. -/
theorem length_le_ofComponents_append (cs : List Component) (names : List (List UInt8))
    (all : ∀ n ∈ names, IsName n) :
    (Path.ofComponents cs).bytes.length + names.length ≤
      (Path.ofComponents (cs ++ names.map .name)).bytes.length := by
  induction names using List.reverseRecOn with
  | nil => simp
  | append_singleton names n ih =>
    obtain ⟨before, last⟩ := List.forall_mem_append.mp all
    have joined : Path.ofComponents (cs ++ (names ++ [n]).map .name) =
        (Path.ofComponents (cs ++ names.map .name)).join ⟨n⟩ := by
      simp [Path.ofComponents, List.foldl_append, Component.bytes]
    have longer := length_lt_join (last n List.mem_cons_self) (Path.ofComponents (cs ++ names.map .name))
    have shorter := ih before
    rw [joined, List.length_append, List.length_singleton]
    omega

/-- **Of two plain roots the lower one is written longer.** -/
theorem length_lt_of_below (upper : p.IsPlainRoot) (lower : q.IsPlainRoot)
    (below : p.components <+: q.components) (deeper : p.components.length < q.components.length) :
    p.bytes.length < q.bytes.length := by
  obtain ⟨names, all, steps⟩ := lower.isDirect.exists_names
  obtain ⟨others, -, start⟩ := upper.isDirect.exists_names
  obtain ⟨rest, split⟩ := below
  -- Behind the root of the disk the lower path has names only.
  rw [start, steps, List.cons_append, List.cons.injEq] at split
  obtain ⟨above, last, rfl, -, rfl⟩ := List.map_eq_append_iff.mp split.2.symm
  have longer := length_le_ofComponents_append p.components last (List.forall_mem_append.mp all).2
  have whole : p.components ++ last.map .name = q.components := by
    rw [start, steps, List.cons_append, split.2]
  rw [whole, upper.ofComponents, lower.ofComponents] at longer
  rw [← whole, List.length_append, List.length_map] at deeper
  omega

end Path

/-! ### Roots above a path -/

namespace Session

/-- The uri is that of a path at or below the root of the session. -/
def Covers (s : Session) (uri : String) : Prop :=
  ∃ p, Uri.path? uri = some p ∧ s.workspace.root.components <+: p.components

/-- How many steps lead to the root of the session. -/
def depth (s : Session) : Nat :=
  s.workspace.root.components.length

/-- The session is the one whose root is the deepest at or above the path of a uri. -/
structure Owns (sessions : List Session) (uri : String) (s : Session) : Prop where
  mem : s ∈ sessions
  covers : s.Covers uri
  deepest : ∀ t ∈ sessions, t.Covers uri → t ≠ s → t.depth < s.depth

theorem contains_iff {s : Session} {uri : String} :
    s.workspace.contains uri = true ↔ s.Covers uri := by
  unfold Workspace.contains Covers
  rw [Option.any_eq_true]
  simp only [Path.startsWith, List.isPrefixOf_iff_prefix]

/-- Roots above one path lie one below the other. -/
theorem Covers.below {s t : Session} {uri : String} (upper : s.Covers uri) (lower : t.Covers uri)
    (shallow : s.depth ≤ t.depth) : s.workspace.root.components <+: t.workspace.root.components := by
  obtain ⟨p, path, above⟩ := upper
  obtain ⟨q, again, also⟩ := lower
  obtain rfl := Option.some.inj (path.symm.trans again)
  exact List.prefix_of_prefix_length_le above also shallow

end Session

namespace Workspaces

open Session (Owns)

/-! ### Sessions in order -/

/-- Sessions that were inserted one after the other. -/
def ofList (sessions : List Session) : Workspaces :=
  sessions.foldl insert empty

/-- The roots are written shorter and shorter, or as long as before. -/
def Ordered (sessions : List Session) : Prop :=
  sessions.Pairwise fun s t => rootLength t ≤ rootLength s

theorem perm_place (s : Session) : ∀ sessions, (place s sessions).Perm (s :: sessions)
  | [] => .refl _
  | t :: rest => by
    rw [place]
    split
    · exact .refl _
    · exact ((perm_place s rest).cons t).trans (.swap s t rest)

theorem Ordered.place {s : Session} {sessions : List Session} (h : Ordered sessions) :
    Ordered (place s sessions) := by
  induction sessions with
  | nil => exact List.pairwise_singleton _ s
  | cons t rest ih =>
    obtain ⟨first, later⟩ := List.pairwise_cons.mp h
    rw [Workspaces.place]
    split
    · rename_i shorter
      refine List.pairwise_cons.mpr ⟨fun u mem => ?_, h⟩
      rcases List.mem_cons.mp mem with rfl | mem
      · exact Nat.le_of_lt shorter
      · exact Nat.le_trans (first u mem) (Nat.le_of_lt shorter)
    · rename_i longer
      refine List.pairwise_cons.mpr ⟨fun u mem => ?_, ih later⟩
      rcases List.mem_cons.mp ((perm_place s rest).mem_iff.mp mem) with rfl | mem
      · exact Nat.le_of_not_lt longer
      · exact first u mem

theorem foldl_insert (sessions : List Session) (ws : Workspaces) (h : Ordered ws.sessions) :
    Ordered (sessions.foldl insert ws).sessions ∧
      (sessions.foldl insert ws).sessions.Perm (sessions ++ ws.sessions) := by
  induction sessions generalizing ws with
  | nil => exact ⟨h, .refl _⟩
  | cons s sessions ih =>
    obtain ⟨ordered, perm⟩ := ih (ws.insert s) h.place
    exact ⟨ordered, (perm.trans ((perm_place s ws.sessions).append_left sessions)).trans
      List.perm_middle⟩

/-- **What was inserted stands in order.** -/
theorem ordered_ofList (sessions : List Session) : Ordered (ofList sessions).sessions :=
  (foldl_insert sessions empty .nil).1

theorem mem_ofList {sessions : List Session} {s : Session} :
    s ∈ (ofList sessions).sessions ↔ s ∈ sessions := by
  have perm := (foldl_insert sessions empty .nil).2
  rw [show empty.sessions = [] from rfl, List.append_nil] at perm
  exact perm.mem_iff

/-! ### Routing -/

/-- The session that a uri goes to is written longest of those that cover it. -/
theorem longest_of_forUri? {sessions : List Session} {uri : String} {s : Session}
    (found : (ofList sessions).forUri? uri = some s) :
    s ∈ sessions ∧ s.Covers uri ∧
      ∀ t ∈ sessions, t.Covers uri → rootLength t ≤ rootLength s := by
  obtain ⟨covers, before, after, split, others⟩ := List.find?_eq_some_iff_append.mp found
  have mem {t : Session} : t ∈ sessions ↔ t ∈ before ++ s :: after := by rw [← split, mem_ofList]
  refine ⟨mem.mpr (List.mem_append_right _ List.mem_cons_self), Session.contains_iff.mp covers, ?_⟩
  intro t there also
  have order := ordered_ofList sessions
  rw [split] at order
  rcases List.mem_append.mp (mem.mp there) with earlier | later
  · have not := others t earlier
    rw [Session.contains_iff.mpr also] at not
    cases not
  · rcases List.mem_cons.mp later with rfl | later
    · exact Nat.le_refl _
    · exact (List.pairwise_cons.mp (List.pairwise_append.mp order).2.1).1 t later

section

variable {sessions : List Session} {uri : String} {s : Session}

/-- Of sessions with plain roots that cover a uri, a deeper one is written longer. -/
theorem rootLength_lt {t : Session} (upper : s.workspace.root.IsPlainRoot)
    (lower : t.workspace.root.IsPlainRoot) (covers : s.Covers uri) (also : t.Covers uri)
    (deeper : s.depth < t.depth) : rootLength s < rootLength t :=
  Path.length_lt_of_below upper lower (covers.below also (Nat.le_of_lt deeper)) deeper

theorem owns_of_forUri? (plain : ∀ s ∈ sessions, s.workspace.root.IsPlainRoot)
    (distinct : (sessions.map (·.workspace.root)).Nodup)
    (found : (ofList sessions).forUri? uri = some s) : Owns sessions uri s := by
  obtain ⟨mem, covers, longest⟩ := longest_of_forUri? found
  refine ⟨mem, covers, fun t there also other => ?_⟩
  rcases Nat.lt_trichotomy t.depth s.depth with shallower | level | deeper
  · exact shallower
  · -- Roots above one path at one depth are the same root.
    have same : t.workspace.root = s.workspace.root := by
      refine (plain t there).eq (plain s mem) ?_
      exact (also.below covers (Nat.le_of_eq level)).eq_of_length level
    exact absurd (List.inj_on_of_nodup_map distinct there mem same) other
  · have longer := rootLength_lt (plain s mem) (plain t there) covers also deeper
    exact absurd (longest t there also) (Nat.not_le_of_lt longer)

theorem exists_forUri? (mem : s ∈ sessions) (covers : s.Covers uri) :
    ∃ t, (ofList sessions).forUri? uri = some t := by
  rw [← Option.isSome_iff_exists, forUri?, List.find?_isSome]
  exact ⟨s, mem_ofList.mpr mem, Session.contains_iff.mpr covers⟩

/-- Only one session owns a uri. -/
theorem owns_unique {t : Session} (first : Owns sessions uri s) (second : Owns sessions uri t) :
    s = t := by
  by_contra other
  have below := first.deepest t second.mem second.covers (Ne.symm other)
  have above := second.deepest s first.mem first.covers other
  exact Nat.lt_asymm below above

/-- A uri goes to the session that owns it. -/
theorem forUri?_eq_some_iff (plain : ∀ s ∈ sessions, s.workspace.root.IsPlainRoot)
    (distinct : (sessions.map (·.workspace.root)).Nodup) :
    (ofList sessions).forUri? uri = some s ↔ Owns sessions uri s := by
  refine ⟨owns_of_forUri? plain distinct, fun owns => ?_⟩
  obtain ⟨t, found⟩ := exists_forUri? owns.mem owns.covers
  rw [found, owns_unique (owns_of_forUri? plain distinct found) owns]

end

/-- **A uri goes to the session with the deepest root above its path**, and to none when it is not that
of a local file below a root, whatever the order in which the sessions came. The roots differ and are
spelled plainly. A root whose name is another than the one in the path, be it longer or shorter, is not
above the path. -/
theorem routed_to_deepest {sessions : List Session}
    (plain : ∀ s ∈ sessions, s.workspace.root.IsPlainRoot)
    (distinct : (sessions.map (·.workspace.root)).Nodup) (uri : String) :
    (∀ s, (ofList sessions).forUri? uri = some s ↔ Owns sessions uri s) ∧
    ((∃ s, (ofList sessions).forUri? uri = some s) ↔
      ∃ p, Uri.path? uri = some p ∧
        ∃ s ∈ sessions, s.workspace.root.components <+: p.components) ∧
    (∀ others, others.Perm sessions →
      (ofList others).forUri? uri = (ofList sessions).forUri? uri) ∧
    ∀ (s : Session) (p : Path) (dir rest : List Path.Component) (m n : List UInt8),
      Uri.path? uri = some p → p.components = dir ++ .name m :: rest →
      s.workspace.root.components = dir ++ [.name n] → n ≠ m →
      (ofList sessions).forUri? uri ≠ some s := by
  refine ⟨fun s => forUri?_eq_some_iff plain distinct, ⟨?_, ?_⟩, ?_, ?_⟩
  · rintro ⟨s, found⟩
    obtain ⟨mem, ⟨p, path, above⟩, -⟩ := longest_of_forUri? found
    exact ⟨p, path, s, mem, above⟩
  · rintro ⟨p, path, s, mem, above⟩
    exact exists_forUri? mem ⟨p, path, above⟩
  · intro others perm
    have owner (s : Session) : Owns others uri s ↔ Owns sessions uri s :=
      ⟨fun h => ⟨perm.mem_iff.mp h.mem, h.covers, fun t there => h.deepest t (perm.mem_iff.mpr there)⟩,
        fun h => ⟨perm.mem_iff.mpr h.mem, h.covers, fun t there => h.deepest t (perm.mem_iff.mp there)⟩⟩
    have alike := (perm.map (·.workspace.root)).nodup_iff.mpr distinct
    refine Option.ext fun s => ?_
    rw [forUri?_eq_some_iff plain distinct, ← owner]
    exact forUri?_eq_some_iff (fun s mem => plain s (perm.mem_iff.mp mem)) alike
  · intro s p dir rest m n path steps root other found
    obtain ⟨-, ⟨q, again, above⟩, -⟩ := longest_of_forUri? found
    obtain rfl := Option.some.inj (path.symm.trans again)
    rw [root, steps, List.prefix_append_right_inj, List.cons_prefix_cons] at above
    exact other (Path.Component.name.inj above.1)

/-! ### Roots within and next to each other -/

/-- A session of a project at a path. -/
def sessionAt (root : String) : Session :=
  .start ⟨.ofString root, ⟨.application, []⟩, .usual, .empty, 0, none, none⟩

/-- A project, one within it, and one next to that with a longer name that starts alike. -/
def nestedSessions : List Session :=
  ["/p", "/p/application", "/p/app"].map sessionAt

/-- A uri below the inner root goes there, and the root with the longer name is passed over. -/
theorem nested_root_routed :
    (∀ s ∈ nestedSessions, s.workspace.root.IsPlainRoot) ∧
    (nestedSessions.map (·.workspace.root)).Nodup ∧
    (ofList nestedSessions).forUri? "file:///p/app/src/A.elm" = some (sessionAt "/p/app") ∧
    (ofList nestedSessions).forUri? "file:///p/apple/src/A.elm" = some (sessionAt "/p") ∧
    (ofList nestedSessions).forUri? "file:///q/A.elm" = none := by
  have plain : ∀ s ∈ nestedSessions, s.workspace.root.IsPlainRoot := by
    intro s mem
    have kept : s.workspace.root.isAbsolute = true ∧ s.workspace.root.normalize = s.workspace.root := by
      revert s
      decide +kernel
    exact ⟨kept.1, kept.2⟩
  have distinct : (nestedSessions.map (·.workspace.root)).Nodup := by decide +kernel
  have owner {uri : String} {s : Session} (mem : s ∈ nestedSessions)
      (covers : s.workspace.contains uri = true)
      (deepest : ∀ t ∈ nestedSessions, t.workspace.contains uri = true →
        t.workspace.root ≠ s.workspace.root → t.depth < s.depth) :
      (ofList nestedSessions).forUri? uri = some s := by
    refine ((routed_to_deepest plain distinct uri).1 s).mpr ⟨mem, Session.contains_iff.mp covers, ?_⟩
    intro t there also other
    refine deepest t there (Session.contains_iff.mpr also) fun same => other ?_
    exact List.inj_on_of_nodup_map distinct there mem same
  refine ⟨plain, distinct, ?_, ?_, ?_⟩
  · exact owner (by simp [nestedSessions]) (by decide +kernel) (by decide +kernel)
  · exact owner (by simp [nestedSessions]) (by decide +kernel) (by decide +kernel)
  · have off : ∀ s ∈ nestedSessions, s.workspace.contains "file:///q/A.elm" = false := by
      decide +kernel
    refine Option.eq_none_iff_forall_ne_some.mpr fun s found => ?_
    obtain ⟨mem, covers, -⟩ := longest_of_forUri? found
    exact absurd (Session.contains_iff.mpr covers) (Bool.eq_false_iff.mp (off s mem))

/-- A root that is spelled with more slashes comes first, and takes what belongs to one within it. -/
example :
    let spelled := [sessionAt "/p/////", sessionAt "/p/app"]
    ((ofList spelled).forUri? "file:///p/app/A.elm").map (·.workspace.root) =
      some (.ofString "/p/////") := by
  decide +kernel

end Workspaces

end ElmAssist
