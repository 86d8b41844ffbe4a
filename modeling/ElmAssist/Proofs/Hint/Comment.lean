import ElmAssist.Proofs.Hint
import Mathlib.Data.List.TakeWhile

/-!
# Hints — What is shown of a doc comment

The hint of a declaration shows its doc comment without the delimiters and without the blanks around
what is left. The opening of a doc comment is tried first and that of a plain comment after it, on
what the first one has left. So a body that begins with an opening of its own, as one that begins
with a comment in the comment does, loses that too; every other body comes through whole.

* `Documents`: the comment of a declaration, and the signature that stands between the two.
* `of?_eq_shown`: the hint is the signature, the rule and what is left of the comment.
* `commentBody_docComment`, `commentBody_opening`, `commentBody_brace`: what is left of a body, by
  how it begins.
* `doc_comment_shown_iff`: the hint shows the trimmed body exactly when it does not open again.
* `nested_comment_torn`: a hint that shows the end of a comment without its beginning.
-/

namespace ElmAssist

/-! ### Delimiters and blanks -/

namespace Text

theorem dropStart?_append (start rest : List Char) :
    dropStart? start (start ++ rest) = some rest := by
  induction start with
  | nil => rfl
  | cons p ps ih => rwa [List.cons_append, dropStart?, if_pos rfl]

theorem eq_append_of_dropStart? : ∀ {start cs rest : List Char},
    dropStart? start cs = some rest → cs = start ++ rest
  | [], _, _, found => Option.some.inj found
  | p :: ps, [], _, found => nomatch found
  | p :: ps, c :: cs, rest, found => by
    rw [dropStart?] at found
    split at found
    · rename_i same
      rw [← same, eq_append_of_dropStart? found, List.cons_append]
    · cases found

theorem dropEnd?_append (front ending : List Char) :
    dropEnd? ending (front ++ ending) = some front := by
  rw [dropEnd?, List.reverse_append, dropStart?_append, Option.map_some, List.reverse_reverse]

/-- Trimming takes away nothing but what it is to take away. -/
theorem countP_stripChars (cls : Char → Bool) (cs : List Char) :
    (stripChars cls cs).countP (fun c => !cls c) = cs.countP fun c => !cls c := by
  have kept (ds : List Char) :
      (ds.dropWhile cls).countP (fun c => !cls c) = ds.countP fun c => !cls c := by
    have none_ : (ds.takeWhile cls).countP (fun c => !cls c) = 0 := by
      refine List.countP_eq_zero.mpr fun c hc => ?_
      simp [List.mem_takeWhile_imp hc]
    have cut := congrArg (List.countP fun c => !cls c)
      (List.takeWhile_append_dropWhile (p := cls) (l := ds))
    rwa [List.countP_append, none_, Nat.zero_add] at cut
  rw [stripChars, List.countP_reverse, kept, List.countP_reverse, kept]

theorem countP_trim (s : String) :
    (trim s).toList.countP (fun c => !isBlank c) = s.toList.countP fun c => !isBlank c := by
  rw [trim, String.toList_ofList, countP_stripChars]

end Text

namespace Hint

variable {t : Tree} {d c : NodeId} {a : Option NodeId} {body : String}

theorem withoutStart_append (start rest : List Char) :
    withoutStart start (start ++ rest) = rest := by
  rw [withoutStart, Text.dropStart?_append]
  rfl

theorem withoutStart_of_apart {start cs : List Char} (apart : ∀ rest, cs ≠ start ++ rest) :
    withoutStart start cs = cs := by
  cases found : Text.dropStart? start cs with
  | none => rw [withoutStart, found]; rfl
  | some rest => exact absurd (Text.eq_append_of_dropStart? found) (apart rest)

theorem withoutEnd_append (front ending : List Char) :
    withoutEnd ending (front ++ ending) = front := by
  rw [withoutEnd, Text.dropEnd?_append]
  rfl

/-! ### The body of a doc comment -/

/-- A doc comment with a body. -/
def docComment (body : String) : String :=
  "\x7b-|" ++ body ++ "-\x7d"

/-- The body of a doc comment opens a comment again: with an opening of its own, or with a brace
alone, which the dash of the closing makes one. -/
def OpensAgain (body : String) : Prop :=
  body = "\x7b" ∨ ∃ rest, body = "\x7b-" ++ rest

theorem toList_docComment (body : String) :
    (docComment body).toList = ['\x7b', '-', '|'] ++ (body.toList ++ ['-', '\x7d']) := by
  simp [docComment]

/-- A body that does not open again comes through whole. -/
theorem commentBody_docComment (once : ¬ OpensAgain body) :
    commentBody (docComment body) = Text.trim body := by
  have apart (rest : List Char) : body.toList ++ ['-', '\x7d'] ≠ ['\x7b', '-'] ++ rest := by
    intro opens
    match chars : body.toList with
    | [] => simp [chars] at opens
    | [x] =>
      obtain ⟨rfl, -⟩ : x = '\x7b' ∧ _ := by simpa [chars] using opens
      exact once (Or.inl (String.ext chars))
    | x :: y :: more =>
      obtain ⟨rfl, rfl, -⟩ : x = '\x7b' ∧ y = '-' ∧ _ := by simpa [chars] using opens
      exact once (Or.inr ⟨String.ofList more, String.ext (by simp [chars])⟩)
  rw [commentBody, toList_docComment, withoutStart_append, withoutStart_of_apart apart,
    withoutEnd_append]
  rfl

/-- A body that opens a comment loses the opening. -/
theorem commentBody_opening (rest : String) :
    commentBody (docComment ("\x7b-" ++ rest)) = Text.trim rest := by
  have chars : ("\x7b-" ++ rest).toList ++ ['-', '\x7d'] =
      ['\x7b', '-'] ++ (rest.toList ++ ['-', '\x7d']) := by
    simp
  rw [commentBody, toList_docComment, withoutStart_append, chars, withoutStart_append,
    withoutEnd_append]
  rfl

/-- Of a brace alone the opening leaves nothing, and the brace of the closing is left. -/
theorem commentBody_brace : commentBody (docComment "\x7b") = "\x7d" := by
  decide

/-- A brace and a dash are no blanks: they are still there after trimming. -/
theorem countP_trim_opening (rest : String) :
    (Text.trim ("\x7b-" ++ rest)).toList.countP (fun c => !Text.isBlank c) =
      2 + (Text.trim rest).toList.countP fun c => !Text.isBlank c := by
  have opening : "\x7b-".toList.countP (fun c => !Text.isBlank c) = 2 := by decide
  rw [Text.countP_trim, Text.countP_trim, String.toList_append, List.countP_append, opening]

/-- **What does not open again comes through whole**, and nothing else does. -/
theorem commentBody_eq_trim_iff :
    commentBody (docComment body) = Text.trim body ↔ ¬ OpensAgain body := by
  refine ⟨?_, commentBody_docComment⟩
  rintro whole (rfl | ⟨rest, rfl⟩)
  · exact absurd whole (by decide)
  · have visible := countP_trim_opening rest
    rw [← whole, commentBody_opening] at visible
    omega

/-- Nothing is left of a comment of blanks, and of one that has only another opening. -/
theorem commentBody_eq_empty_iff : commentBody (docComment body) = "" ↔
    Text.trim body = "" ∨ ∃ rest, body = "\x7b-" ++ rest ∧ Text.trim rest = "" := by
  by_cases again : OpensAgain body
  · rcases again with rfl | ⟨rest, rfl⟩
    · have brace : Text.trim "\x7b" ≠ "" := by decide
      have short (rest : String) : "\x7b" ≠ "\x7b-" ++ rest := fun same => by
        have chars := congrArg String.toList same
        simp at chars
      simp [commentBody_brace, brace, short]
    · have kept : Text.trim ("\x7b-" ++ rest) ≠ "" := fun empty => by
        have visible := countP_trim_opening rest
        rw [empty, String.toList_empty, List.countP_nil] at visible
        omega
      rw [commentBody_opening, or_iff_right kept]
      constructor
      · exact fun empty => ⟨rest, rfl, empty⟩
      · rintro ⟨rest', same, empty⟩
        rwa [String.append_right_inj _ |>.mp same]
  · have unopened (rest : String) : body ≠ "\x7b-" ++ rest := fun opens =>
      again (Or.inr ⟨rest, opens⟩)
    simp [commentBody_docComment again, unopened]

/-! ### The comment of a declaration -/

/-- `c` is the doc comment of `d`: it follows a module declaration, and stands before any other
declaration, or before the signature right before that. The signature is given where there is
one. -/
inductive Documents (t : Tree) (d : NodeId) : Option NodeId → NodeId → Prop
  | heading {c : NodeId} : t.kind d = .moduleDeclaration → t.next? d = some c →
      t.kind c = .blockComment → Documents t d none c
  | plain {c : NodeId} : t.kind d ≠ .moduleDeclaration → t.previous? d = some c →
      t.kind c = .blockComment → Documents t d none c
  | signed {a c : NodeId} : t.kind d ≠ .moduleDeclaration → t.previous? d = some a →
      t.kind a = .typeSignature → t.previous? a = some c → t.kind c = .blockComment →
      Documents t d (some a) c

/-- The hint that shows a text: after the signature and the rule, if there is a signature. -/
def shown (signature text : String) : Option String :=
  if signature = "" then if text = "" then none else some text
  else some (fenced signature ++ rule ++ text)

theorem shown_eq_none_iff {signature text : String} :
    shown signature text = none ↔ signature = "" ∧ text = "" := by
  unfold shown
  split
  · rename_i unsigned
    simp [unsigned]
  · rename_i signed
    simp [signed]

theorem shown_inj {signature x y : String} : shown signature x = shown signature y ↔ x = y := by
  refine ⟨fun same => ?_, congrArg _⟩
  unfold shown at same
  split at same
  · by_cases hx : x = "" <;> by_cases hy : y = "" <;> simp_all
  · simpa using same

/-- The parts of a hint are found where the comment of the declaration stands. -/
theorem parts_eq (documents : Documents t d a c) :
    parts t d = (a.map t.textOf, some (t.textOf c)) := by
  unfold parts
  cases documents with
  | heading module_ next comment =>
    simp only [module_, next, blockComment?, comment, if_true, Option.map_none]
  | plain other before comment =>
    split
    · rename_i module_
      exact absurd module_ other
    · simp only [before, comment, blockComment?, if_true, Option.map_none]
  | signed other before signature further comment =>
    split
    · rename_i module_
      exact absurd module_ other
    · simp only [before, signature, further, comment, blockComment?, if_true, Option.map_some]

/-- A comment that is there stands behind the signature and the rule. -/
theorem render_comment (signature : Option String) {comment : String} (there : comment ≠ "") :
    render signature (some comment) =
      (if signature.getD "" = "" then "" else fenced (signature.getD "") ++ rule) ++
        commentBody comment := by
  have kept {s : String} (text : s ≠ "") : (some s).filter (· ≠ "") = some s := by simp [text]
  rw [render, kept there]
  cases signature with
  | none => simp
  | some s =>
    by_cases empty : s = ""
    · have absent : (some s).filter (· ≠ "") = none := by rw [empty]; rfl
      rw [absent]
      simp [empty]
    · rw [kept empty]
      simp [empty, fenced_ne_empty]

/-- **A hint is made of the signature and of what is left of the comment.** -/
theorem of?_eq_shown (documents : Documents t d a c) (there : t.textOf c ≠ "") :
    of? t d = shown ((a.map t.textOf).getD "") (commentBody (t.textOf c)) := by
  rw [of?, parts_eq documents]
  dsimp only
  rw [render_comment _ there, shown]
  by_cases unsigned : (a.map t.textOf).getD "" = ""
  · simp [unsigned]
  · simp [unsigned, fenced_ne_empty]

theorem docComment_ne_empty (body : String) : docComment body ≠ "" := fun empty => by
  have chars := congrArg String.toList empty
  simp [docComment] at chars

/-- **What a hint shows of a doc comment.** The hint of a declaration shows the body of its doc
comment, trimmed, after the signature that stands in between, exactly when the body does not open a
comment again. A body that begins with an opening is shown without it, and a brace alone as that of
the closing. There is no hint only where there is neither a signature nor anything left to show. -/
theorem doc_comment_shown_iff (documents : Documents t d a c)
    (text : t.textOf c = docComment body) :
    let signature := (a.map t.textOf).getD ""
    (of? t d = shown signature (Text.trim body) ↔ ¬ OpensAgain body) ∧
      (∀ rest, body = "\x7b-" ++ rest → of? t d = shown signature (Text.trim rest)) ∧
      (body = "\x7b" → of? t d = shown signature "\x7d") ∧
      (of? t d = none ↔ signature = "" ∧
        (Text.trim body = "" ∨ ∃ rest, body = "\x7b-" ++ rest ∧ Text.trim rest = "")) := by
  intro signature
  have hint : of? t d = shown signature (commentBody (docComment body)) :=
    text ▸ of?_eq_shown documents (text ▸ docComment_ne_empty body)
  rw [hint, shown_inj, shown_eq_none_iff, commentBody_eq_empty_iff]
  refine ⟨commentBody_eq_trim_iff, ?_, ?_, Iff.rfl⟩
  · rintro rest rfl
    rw [commentBody_opening]
  · rintro rfl
    rw [commentBody_brace]

/-- The rows of a documented declaration with a signature. -/
def documentedRows : List Row :=
  let row depth kind line base start stop : Row :=
    ⟨depth, kind, kind.label, ⟨⟨line, start - base⟩, ⟨line, stop - base⟩, start, stop⟩⟩
  [⟨0, .file, "file", ⟨⟨0, 0⟩, ⟨2, 5⟩, 0, 32⟩⟩, row 1 .blockComment 0 0 0 20,
    row 1 .typeSignature 1 21 21 26, row 2 .lowerCaseIdentifier 1 21 21 22,
    row 2 .other 1 21 23 24, row 2 .typeExpression 1 21 25 26, row 3 .typeRef 1 21 25 26,
    row 4 .upperCaseQid 1 21 25 26, row 5 .upperCaseIdentifier 1 21 25 26,
    row 1 .valueDeclaration 2 27 27 32, row 2 .functionDeclarationLeft 2 27 27 28,
    row 3 .lowerCaseIdentifier 2 27 27 28, row 2 .other 2 27 29 30, row 2 .valueExpr 2 27 31 32,
    row 3 .valueQid 2 27 31 32, row 4 .lowerCaseIdentifier 2 27 31 32]

/-- A comment in the middle of a body is shown with its delimiters, after the signature. -/
theorem comment_shown_after_signature :
    let t := Tree.ofRows "\x7b-| A \x7b- b -\x7d or |-\x7d\nx : A\nx = y" documentedRows
    Documents t 9 (some 2) 1 ∧ t.textOf 1 = docComment " A \x7b- b -\x7d or |" ∧
      of? t 9 = some "\n```elm\nx : A\n```\n\n\n---\n\nA \x7b- b -\x7d or |" := by
  intro t
  have documents : Documents t 9 (some 2) 1 :=
    .signed (by decide +kernel) (by decide +kernel) (by decide +kernel) (by decide +kernel)
      (by decide +kernel)
  have text : t.textOf 1 = docComment " A \x7b- b -\x7d or |" := by decide +kernel
  have once : ¬ OpensAgain " A \x7b- b -\x7d or |" := by
    rintro (same | ⟨rest, same⟩)
    · exact absurd same (by decide)
    · have chars := congrArg String.toList same
      simp at chars
  have hint := (doc_comment_shown_iff documents text).1.mpr once
  have expected : shown (t.textOf 2) (Text.trim " A \x7b- b -\x7d or |") =
      some "\n```elm\nx : A\n```\n\n\n---\n\nA \x7b- b -\x7d or |" := by
    decide +kernel
  exact ⟨documents, text, hint.trans expected⟩

/-- A text with a comment at the beginning of a doc comment. -/
def nestedText : String :=
  "module M exposing (..)\n\n\x7b-|\x7b- nested -\x7d -\x7d\na = 1\n"

/-- The rows of the text. -/
def nestedRows : List Row :=
  let row depth kind line base start stop : Row :=
    ⟨depth, kind, kind.label, ⟨⟨line, start - base⟩, ⟨line, stop - base⟩, start, stop⟩⟩
  [⟨0, .file, "file", ⟨⟨0, 0⟩, ⟨4, 0⟩, 0, 49⟩⟩, row 1 .moduleDeclaration 0 0 0 22,
    row 2 .other 0 0 0 6, row 2 .upperCaseQid 0 0 7 8, row 3 .upperCaseIdentifier 0 0 7 8,
    row 2 .exposingList 0 0 9 22, row 3 .other 0 0 9 17, row 3 .doubleDot 0 0 19 21,
    row 1 .blockComment 2 24 24 42, row 1 .valueDeclaration 3 43 43 48,
    row 2 .functionDeclarationLeft 3 43 43 44, row 3 .lowerCaseIdentifier 3 43 43 44,
    row 2 .other 3 43 45 46, row 2 .other 3 43 47 48, row 3 .other 3 43 47 48]

/-- **A comment in a comment is torn.** The body begins with a comment. The hint, of the declaration
after it and of the module before it, shows the end of that comment and not its beginning. -/
theorem nested_comment_torn :
    let t := Tree.ofRows nestedText nestedRows
    Documents t 9 none 8 ∧ Documents t 1 none 8 ∧
      t.textOf 8 = docComment "\x7b- nested -\x7d " ∧
      shown "" (Text.trim "\x7b- nested -\x7d ") = some "\x7b- nested -\x7d" ∧
      of? t 9 = some "nested -\x7d" ∧ of? t 1 = some "nested -\x7d" := by
  intro t
  have plain : Documents t 9 none 8 :=
    .plain (by decide +kernel) (by decide +kernel) (by decide +kernel)
  have heading : Documents t 1 none 8 :=
    .heading (by decide +kernel) (by decide +kernel) (by decide +kernel)
  exact ⟨plain, heading, by decide +kernel, by decide +kernel, by decide +kernel,
    by decide +kernel⟩

end Hint

end ElmAssist
