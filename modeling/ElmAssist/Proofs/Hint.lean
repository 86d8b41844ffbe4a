import ElmAssist.Hint
import ElmAssist.Name.Reference
import ElmAssist.Proofs.Tree.Siblings

/-!
# Hints — Whose signature a hint shows

A signature and the declaration it belongs to are found from either side. The hint of a declaration
looks back: it shows the signature right before it, of whatever name. The name in a signature looks
on: it refers to a declaration of this name among the next two siblings, so that something may stand
in between.

* `ShowsSignature`: the hint of a declaration begins with the text of a signature, whatever that is.
* `showsSignature_iff`: it does when the declaration is the sibling right after the signature.
* `ofNode_signature_eq_site_iff`: when the name in a signature refers to a declaration.
* `signature_shown_iff`: the signature that is shown has the name of the declaration exactly when its
  name refers to the declaration and nothing stands in between.
* `parted_signature`: a signature that is shown for another name, and not for its own.
-/

namespace ElmAssist

variable {t : Tree} {a d i : NodeId} {s name : String}

/-! ### Another text for a node -/

namespace Tree

/-- The tree with another text for a node. -/
def retext (t : Tree) (a : NodeId) (s : String) : Tree :=
  { t with nodes := t.nodes.modify a fun n => { n with text := s } }

theorem get?_retext (t : Tree) (a i : NodeId) (s : String) :
    (t.retext a s).get? i =
      (t.get? i).map fun n => if a = i then { n with text := s } else n := by
  rw [get?, retext, Array.getElem?_modify, ← get?]
  split <;> simp

/-- What is read of a node, but for its text, stays the same. -/
theorem map_get?_retext {α : Type} {g : Node → α} (same : ∀ n, g { n with text := s } = g n)
    (t : Tree) (a i : NodeId) : ((t.retext a s).get? i).map g = (t.get? i).map g := by
  rw [get?_retext, Option.map_map]
  congr 1
  funext n
  by_cases here : a = i
  · simpa [here] using same n
  · simp [here]

@[simp] theorem kind_retext (t : Tree) (a i : NodeId) (s : String) :
    (t.retext a s).kind i = t.kind i := by
  rw [kind, map_get?_retext fun _ => rfl, kind]

theorem children_retext (t : Tree) (a i : NodeId) (s : String) :
    (t.retext a s).children i = t.children i := by
  rw [children, map_get?_retext fun _ => rfl, children]

theorem parent?_retext (t : Tree) (a i : NodeId) (s : String) :
    (t.retext a s).parent? i = t.parent? i := by
  have flat : ∀ n? : Option Node, n?.bind Node.parent = (n?.map Node.parent).join := by
    intro n?
    cases n? <;> rfl
  rw [parent?, flat, map_get?_retext fun _ => rfl, ← flat, parent?]

@[simp] theorem previous?_retext (t : Tree) (a i : NodeId) (s : String) :
    (t.retext a s).previous? i = t.previous? i := by
  simp only [previous?, siblings?, parent?_retext, children_retext]

theorem textOf_retext_self (inside : a < t.size) (s : String) : (t.retext a s).textOf a = s := by
  have there : t.get? a = some t.nodes[a] := Array.getElem?_eq_getElem inside
  simp [textOf, get?_retext, there]

theorem textOf_retext_of_ne (other : i ≠ a) (s : String) :
    (t.retext a s).textOf i = t.textOf i := by
  simp [textOf, get?_retext, Ne.symm other]

/-- With the text that it has, the tree is the same. -/
theorem retext_textOf (t : Tree) (a : NodeId) : t.retext a (t.textOf a) = t := by
  have nodes : (t.retext a (t.textOf a)).nodes = t.nodes := by
    apply Array.ext_getElem?
    intro i
    have here := get?_retext t a i (t.textOf a)
    by_cases same : a = i
    · subst same
      cases there : t.get? a <;> simp_all [get?, textOf]
    · simpa [same, get?] using here
  cases t
  exact congrArg (Tree.mk _) nodes

end Tree

/-! ### The hint of a declaration -/

namespace Hint

/-- The hint of a declaration shows the text of a node as its signature, whatever that text is. -/
def ShowsSignature (t : Tree) (d a : NodeId) : Prop :=
  ∀ s, s ≠ "" → ∃ rest, of? (t.retext a s) d = some (fenced s ++ rest)

/-- So it begins with the text that there is. -/
theorem ShowsSignature.hint (shows : ShowsSignature t d a) (text : t.textOf a ≠ "") :
    ∃ rest, of? t d = some (fenced (t.textOf a) ++ rest) := by
  simpa only [Tree.retext_textOf] using shows (t.textOf a) text

theorem fenced_ne_empty (s : String) : fenced s ≠ "" := fun empty => by
  have chars := congrArg String.toList empty
  simp [fenced] at chars

/-- Where there is a signature, a hint begins with it. -/
theorem of?_of_parts {comment : Option String} (text : s ≠ "")
    (shown : parts t d = (some s, comment)) : ∃ rest, of? t d = some (fenced s ++ rest) := by
  obtain ⟨rest, hint⟩ : ∃ rest, render (some s) comment = fenced s ++ rest := by
    have kept : (some s).filter (· ≠ "") = some s := by simp [text]
    rw [render, kept]
    cases comment.filter (· ≠ "") with
    | none => exact ⟨"", by simp⟩
    | some c => exact ⟨_, String.append_assoc⟩
  have front : fenced s ++ rest ≠ "" := by simp [fenced_ne_empty]
  refine ⟨rest, ?_⟩
  rw [of?, shown]
  dsimp only
  rw [hint, if_neg front]

theorem blockComment?_retext (signature : t.kind a = .typeSignature) (i : Option NodeId)
    (s : String) : blockComment? (t.retext a s) i = blockComment? t i := by
  cases i with
  | none => rfl
  | some i =>
    simp only [blockComment?, Tree.kind_retext]
    split
    · rename_i comment
      have other : i ≠ a := by
        rintro rfl
        exact nomatch comment.symm.trans signature
      rw [Tree.textOf_retext_of_ne other]
    · rfl

/-- A signature that does not stand right before the declaration has no part in its hint. -/
theorem of?_retext (value : t.kind d = .valueDeclaration) (signature : t.kind a = .typeSignature)
    (apart : t.previous? d ≠ some a) (s : String) : of? (t.retext a s) d = of? t d := by
  have same : parts (t.retext a s) d = parts t d := by
    simp only [parts, Tree.kind_retext, value, Tree.previous?_retext]
    cases back : t.previous? d with
    | none => rfl
    | some before =>
      have other : before ≠ a := by
        rintro rfl
        exact apart back
      simp only [Tree.textOf_retext_of_ne other, blockComment?_retext signature]
  rw [of?, of?, same]

/-- **A hint shows the signature right before the declaration.** -/
theorem showsSignature_iff (h : t.Linked) (value : t.kind d = .valueDeclaration)
    (signature : t.kind a = .typeSignature) : ShowsSignature t d a ↔ t.next? a = some d := by
  rw [h.next?_eq_some_iff_previous?]
  constructor
  · intro shows
    by_contra apart
    -- Of two texts the hint would begin with either, but it is the same hint.
    obtain ⟨r, first⟩ := shows "a" (by decide)
    obtain ⟨q, second⟩ := shows "b" (by decide)
    rw [of?_retext value signature apart] at first second
    have same := congrArg String.toList (Option.some.inj (first.symm.trans second))
    simp [fenced] at same
  · intro back s text
    have inside : a < t.size := Tree.lt_size_of_kind (by rw [signature]; nofun)
    have shown : parts (t.retext a s) d =
        (some s, blockComment? (t.retext a s) (t.previous? a)) := by
      simp only [parts, Tree.kind_retext, value, Tree.previous?_retext, back, signature,
        Tree.textOf_retext_self inside]
    exact of?_of_parts text shown

end Hint

/-! ### The name in a signature -/

/-- A node is the declaration of a value of a name. -/
def DeclaresValue (t : Tree) (name : String) (d : NodeId) : Prop :=
  t.kind d = .valueDeclaration ∧ Module.declaredValue? t d = some name

namespace Reference

/-- **The declaration that a signature belongs to** is the first of its name among the next two
siblings. -/
theorem signed?_eq_some_iff : signed? t a name = some d ↔ DeclaresValue t name d ∧
    (t.next? a = some d ∨
      ∃ b, t.next? a = some b ∧ t.next? b = some d ∧ ¬ DeclaresValue t name b) := by
  have listed : ∀ (check : NodeId → Bool) (x : Option NodeId),
      x.toList.find? check = x.filter check := fun check x => by
    cases x with
    | none => rfl
    | some b => cases passes : check b <;> simp [Option.filter, passes]
  rw [signed?, List.find?_append, listed, listed, Option.or_eq_some_iff, Option.filter_eq_some_iff,
    Option.filter_eq_none_iff, Option.filter_eq_some_iff, Option.bind_eq_some_iff]
  simp only [Bool.and_eq_true, beq_iff_eq]
  constructor
  · rintro (⟨first, declares⟩ | ⟨others, ⟨b, first, second⟩, declares⟩)
    · exact ⟨declares, Or.inl first⟩
    · exact ⟨declares, Or.inr ⟨b, first, second, others b first⟩⟩
  · rintro ⟨declares, first | ⟨b, first, second, other⟩⟩
    · exact Or.inl ⟨first, declares⟩
    · refine Or.inr ⟨fun c here => ?_, ⟨b, first, second⟩, declares⟩
      cases Option.some.inj (first.symm.trans here)
      exact other

/-- The name in a signature refers to the declaration that the signature belongs to, and to the
signature itself if there is none. -/
theorem ofNode_signature (h : t.Linked) (signature : t.kind a = .typeSignature)
    (own : i ∈ t.childrenOfKind a .lowerCaseIdentifier) :
    ofNode t i = .site ((signed? t a (t.textOf i)).getD a) := by
  obtain ⟨child, kind⟩ := List.mem_filter.mp own
  have up : t.parent? i = some a := h.mem_children_iff.mp child
  simp [ofNode, ofIdentifier, ofLower, up, beq_iff_eq.mp kind, signature]

/-- **When the name in a signature refers to a declaration.** -/
theorem ofNode_signature_eq_site_iff (h : t.Linked) (value : t.kind d = .valueDeclaration)
    (signature : t.kind a = .typeSignature) (own : i ∈ t.childrenOfKind a .lowerCaseIdentifier) :
    ofNode t i = .site d ↔ DeclaresValue t (t.textOf i) d ∧ (t.next? a = some d ∨
      ∃ b, t.next? a = some b ∧ t.next? b = some d ∧ ¬ DeclaresValue t (t.textOf i) b) := by
  have other : a ≠ d := by
    rintro rfl
    exact nomatch signature.symm.trans value
  rw [ofNode_signature h signature own, ← signed?_eq_some_iff, site.injEq]
  cases signed? t a (t.textOf i) with
  | none => simp [other]
  | some b => simp

end Reference

/-! ### Both sides -/

/-- **Which signature a hint shows.** The hint of a declaration takes its block of code from a
signature exactly when the declaration is the sibling right after the signature, whatever the name.
The name in the signature refers to the declaration exactly when that is a declaration of this name,
right after the signature or after one sibling that is not. So the two agree on a signature of the
declaration's name unless something stands in between: a signature of the name is shown exactly when
its name refers to the declaration right after it. -/
theorem Hint.signature_shown_iff (text : String) (rows : List Row) {a d i : NodeId}
    (value : (Tree.ofRows text rows).kind d = .valueDeclaration)
    (signature : (Tree.ofRows text rows).kind a = .typeSignature)
    (own : i ∈ (Tree.ofRows text rows).childrenOfKind a .lowerCaseIdentifier) :
    let t := Tree.ofRows text rows
    (ShowsSignature t d a ↔ t.next? a = some d) ∧
      (Reference.ofNode t i = .site d ↔ DeclaresValue t (t.textOf i) d ∧ (t.next? a = some d ∨
        ∃ b, t.next? a = some b ∧ t.next? b = some d ∧ ¬ DeclaresValue t (t.textOf i) b)) ∧
      (ShowsSignature t d a ∧ DeclaresValue t (t.textOf i) d ↔
        Reference.ofNode t i = .site d ∧ t.next? a = some d) := by
  intro t
  have linked : t.Linked := Tree.linked_ofRows text rows
  have shows : ShowsSignature t d a ↔ t.next? a = some d :=
    showsSignature_iff linked value signature
  have leads := Reference.ofNode_signature_eq_site_iff linked value signature own
  refine ⟨shows, leads, ?_⟩
  rw [shows, leads]
  constructor
  · rintro ⟨next, declares⟩
    exact ⟨⟨declares, Or.inl next⟩, next⟩
  · rintro ⟨⟨declares, -⟩, next⟩
    exact ⟨next, declares⟩

/-- The rows of a signature and its declaration. -/
def signedRows : List Row :=
  let row depth kind line base start stop : Row :=
    ⟨depth, kind, kind.label, ⟨⟨line, start - base⟩, ⟨line, stop - base⟩, start, stop⟩⟩
  [⟨0, .file, "file", ⟨⟨0, 0⟩, ⟨1, 5⟩, 0, 11⟩⟩, row 1 .typeSignature 0 0 0 5,
    row 2 .lowerCaseIdentifier 0 0 0 1, row 2 .other 0 0 2 3, row 2 .typeExpression 0 0 4 5,
    row 3 .typeRef 0 0 4 5, row 4 .upperCaseQid 0 0 4 5, row 5 .upperCaseIdentifier 0 0 4 5,
    row 1 .valueDeclaration 1 6 6 11, row 2 .functionDeclarationLeft 1 6 6 7,
    row 3 .lowerCaseIdentifier 1 6 6 7, row 2 .other 1 6 8 9, row 2 .valueExpr 1 6 10 11,
    row 3 .valueQid 1 6 10 11, row 4 .lowerCaseIdentifier 1 6 10 11]

/-- In `x : A` and `x = y` the signature is shown for the declaration, and leads to it. -/
theorem Hint.own_signature_shown :
    let t := Tree.ofRows "x : A\nx = y" signedRows
    t.kind 8 = .valueDeclaration ∧ t.kind 1 = .typeSignature ∧
      2 ∈ t.childrenOfKind 1 .lowerCaseIdentifier ∧ ShowsSignature t 8 1 ∧
      Reference.ofNode t 2 = .site 8 := by
  intro t
  have value : t.kind 8 = .valueDeclaration := by decide +kernel
  have signature : t.kind 1 = .typeSignature := by decide +kernel
  have own : 2 ∈ t.childrenOfKind 1 .lowerCaseIdentifier := by decide +kernel
  have next : t.next? 1 = some 8 := by decide +kernel
  have declares : DeclaresValue t (t.textOf 2) 8 := ⟨value, by decide +kernel⟩
  obtain ⟨shows, leads, -⟩ := signature_shown_iff "x : A\nx = y" signedRows value signature own
  exact ⟨value, signature, own, shows.mpr next, leads.mpr ⟨declares, Or.inl next⟩⟩

/-- The text of a signature that another declaration parts from its own. -/
def partedText : String :=
  "module M exposing (..)\n\ninc : Int\ndec = 1\n\ninc = 2\n"

/-- The rows of the text. -/
def partedRows : List Row :=
  let row depth kind line base start stop : Row :=
    ⟨depth, kind, kind.label, ⟨⟨line, start - base⟩, ⟨line, stop - base⟩, start, stop⟩⟩
  [⟨0, .file, "file", ⟨⟨0, 0⟩, ⟨6, 0⟩, 0, 51⟩⟩, row 1 .moduleDeclaration 0 0 0 22,
    row 2 .other 0 0 0 6, row 2 .upperCaseQid 0 0 7 8, row 3 .upperCaseIdentifier 0 0 7 8,
    row 2 .exposingList 0 0 9 22, row 3 .other 0 0 9 17, row 3 .doubleDot 0 0 19 21,
    row 1 .typeSignature 2 24 24 33, row 2 .lowerCaseIdentifier 2 24 24 27,
    row 2 .other 2 24 28 29, row 2 .typeExpression 2 24 30 33, row 3 .typeRef 2 24 30 33,
    row 4 .upperCaseQid 2 24 30 33, row 5 .upperCaseIdentifier 2 24 30 33,
    row 1 .valueDeclaration 3 34 34 41, row 2 .functionDeclarationLeft 3 34 34 37,
    row 3 .lowerCaseIdentifier 3 34 34 37, row 2 .other 3 34 38 39, row 2 .other 3 34 40 41,
    row 3 .other 3 34 40 41, row 1 .valueDeclaration 5 43 43 50,
    row 2 .functionDeclarationLeft 5 43 43 46, row 3 .lowerCaseIdentifier 5 43 43 46,
    row 2 .other 5 43 47 48, row 2 .other 5 43 49 50, row 3 .other 5 43 49 50]

/-- **A signature is shown where its name does not lead, and not where it does.** With `dec` between
the signature of `inc` and `inc`, the hint of `dec` shows the signature, the name of which refers to
`inc`, and the hint of `inc` does not. -/
theorem Hint.parted_signature :
    let t := Tree.ofRows partedText partedRows
    t.kind 8 = .typeSignature ∧ 9 ∈ t.childrenOfKind 8 .lowerCaseIdentifier ∧
      (t.kind 15 = .valueDeclaration ∧ t.parent? 15 = t.parent? 8 ∧ ShowsSignature t 15 8 ∧
        Reference.ofNode t 9 ≠ .site 15) ∧
      (t.kind 21 = .valueDeclaration ∧ t.parent? 21 = t.parent? 8 ∧ ¬ ShowsSignature t 21 8 ∧
        Reference.ofNode t 9 = .site 21) := by
  intro t
  have linked : t.Linked := Tree.linked_ofRows partedText partedRows
  have signature : t.kind 8 = .typeSignature := by decide +kernel
  have between : t.kind 15 = .valueDeclaration := by decide +kernel
  have after : t.kind 21 = .valueDeclaration := by decide +kernel
  have next : t.next? 8 = some 15 := by decide +kernel
  have leads : Reference.ofNode t 9 = .site 21 := by decide +kernel
  have hidden : ¬ ShowsSignature t 21 8 := by
    rw [showsSignature_iff linked after signature, next]
    decide
  refine ⟨signature, by decide +kernel, ⟨between, by decide +kernel, ?_, ?_⟩, after,
    by decide +kernel, hidden, leads⟩
  · exact (showsSignature_iff linked between signature).mpr next
  · rw [leads]
    decide

end ElmAssist
