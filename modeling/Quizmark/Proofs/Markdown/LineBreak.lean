import Quizmark.Proofs.Markdown.Prose
import Quizmark.Proofs.Markdown.TokenText
import Quizmark.Proofs.Section.Criteria

/-!
# Line breaks between criteria

A paragraph has two kinds of line breaks. A soft one becomes a line feed in its text, a hard one
becomes a node without text. So only a soft break parts two criteria.

* `fused`: the criteria of a paragraph, where what stands behind a hard break belongs to the
  criterion before it.
* `written_fused`: the text of the paragraph has these criteria in its lines.
* `scoring_fused`: these are the criteria that are read. They are the ones that were written exactly
  if no break is hard (`hard_break_fuses`).
-/

namespace Quizmark.Markdown

open Node Section

/-! ## Paragraphs of criteria -/

/-- A line break in a paragraph. -/
inductive Break where
  | soft
  | hard
  deriving DecidableEq

namespace Break

/-- The type of the token for a break. -/
def type : Break → String
  | soft => "softbreak"
  | hard => "hardbreak"

/-- What a break contributes to the text of a paragraph. -/
def text : Break → String
  | soft => "\n"
  | hard => ""

end Break

/-- The inline tokens for criteria, each but the first with the break before it. -/
def criteriaTokens (first : Criterion) (more : List (Break × Criterion)) : List Token :=
  leafToken "text" first.line.toList ::
    more.flatMap fun entry =>
      [leafToken entry.1.type [], leafToken "text" entry.2.line.toList]

/-- The tokens of a paragraph with inline tokens in it. -/
def paragraphTokens (inlines : List Token) : List Token :=
  [.mk { type := "paragraph_open", tag := "p" } 1 [], .mk { type := "inline" } 0 inlines,
    .mk { type := "paragraph_close", tag := "p" } (-1) []]

/-- The criteria of a paragraph: what stands behind a hard break goes to the description before
it. -/
def fused (first : Criterion) : List (Break × Criterion) → List Criterion
  | [] => [first]
  | (.soft, next) :: rest => first :: fused next rest
  | (.hard, next) :: rest => fused ⟨first.points, first.description ++ next.line⟩ rest

theorem fused_ne_nil (first : Criterion) (more : List (Break × Criterion)) :
    fused first more ≠ [] := by
  fun_induction fused first more with
  | case1 => exact List.cons_ne_nil _ _
  | case2 => exact List.cons_ne_nil _ _
  | case3 first next rest ih => exact ih

/-- There is one criterion more than there are soft breaks. -/
theorem length_fused (first : Criterion) (more : List (Break × Criterion)) :
    (fused first more).length = more.countP (fun entry => entry.1 = .soft) + 1 := by
  fun_induction fused first more with
  | case1 => rfl
  | case2 first next rest ih => simp [ih]
  | case3 first next rest ih => simp [ih]

/-- Soft breaks keep all criteria apart. -/
theorem fused_of_soft (first : Criterion) {more : List (Break × Criterion)}
    (h : ∀ entry ∈ more, entry.1 = .soft) : fused first more = first :: more.map Prod.snd := by
  fun_induction fused first more with
  | case1 => rfl
  | case2 first next rest ih => rw [ih (List.forall_mem_cons.mp h).2, List.map_cons]
  | case3 first next rest ih => cases (List.forall_mem_cons.mp h).1

/-- The criteria that were written are there exactly if no break is hard. -/
theorem fused_eq_iff {first : Criterion} {more : List (Break × Criterion)} :
    fused first more = first :: more.map Prod.snd ↔ ∀ entry ∈ more, entry.1 = .soft := by
  constructor
  · intro h entry hentry
    have hlength := length_fused first more
    rw [h, List.length_cons, List.length_map, Nat.add_right_cancel_iff] at hlength
    exact of_decide_eq_true (List.countP_eq_length.mp hlength.symm entry hentry)
  · exact fused_of_soft first

theorem isPhrase_append {xs ys : List Char} (hx : IsPhrase xs) (hy : IsPhrase ys) :
    IsPhrase (xs ++ ys) := by
  refine ⟨List.append_ne_nil_of_left_ne_nil hx.ne ys, ?_, ?_, ?_⟩
  · rw [List.head?_append_of_ne_nil xs hx.ne]
    exact hx.first
  · rw [List.getLast?_append_of_ne_nil xs hy.ne]
    exact hy.last
  · rw [List.mem_append, not_or]
    exact ⟨hx.inLine, hy.inLine⟩

theorem isWritable_fused {first : Criterion} {more : List (Break × Criterion)}
    (hfirst : first.IsWritable) (hmore : ∀ entry ∈ more, entry.2.IsWritable) :
    ∀ item ∈ fused first more, item.IsWritable := by
  fun_induction fused first more with
  | case1 first => simpa using hfirst
  | case2 first next rest ih =>
    obtain ⟨hnext, hrest⟩ := List.forall_mem_cons.mp hmore
    exact List.forall_mem_cons.mpr ⟨hfirst, ih hnext hrest⟩
  | case3 first next rest ih =>
    obtain ⟨hnext, hrest⟩ := List.forall_mem_cons.mp hmore
    refine ih ⟨hfirst.fits, ?_⟩ hrest
    rw [String.toList_append]
    exact isPhrase_append hfirst.phrase (Criterion.isPhrase_line hnext.phrase)

/-! ## The text of the paragraph -/

/-- A paragraph of criteria has the fused criteria in its lines. -/
theorem written_fused (first : Criterion) (more : List (Break × Criterion)) :
    written (fused first more) =
      first.line ++ String.join (more.map fun entry => entry.1.text ++ entry.2.line) := by
  fun_induction fused first more with
  | case1 first => simp [written]
  | case2 first next rest ih =>
    have hne : (fused next rest).map Criterion.line ≠ [] := by simpa using fused_ne_nil next rest
    rw [written] at ih ⊢
    rw [List.map_cons, String.intercalate_cons_of_ne_nil hne, ih, List.map_cons, String.join_cons]
    simp only [Break.text, String.append_assoc]
  | case3 first next rest ih =>
    rw [ih, List.map_cons, String.join_cons]
    simp only [Criterion.line, Break.text, String.append_assoc, String.empty_append]

/-- The text of the nodes: the lines, and between them what the breaks leave of themselves. -/
theorem textAll_convertInlines_criteria (first : Criterion) (more : List (Break × Criterion)) :
    textAll (convertInlines ((criteriaTokens first more).map fun token => .mk token.head [])) =
      first.line ++ String.join (more.map fun entry => entry.1.text ++ entry.2.line) := by
  have htext (criterion : Criterion) :
      convertInline (.mk (leafToken "text" criterion.line.toList).head []) =
        .ofText .text criterion.line := by
    simp [convertInline, inlineNode, leafToken, Token.head]
  have hbreak (kind : Break) : (convertInline (.mk (leafToken kind.type []).head [])).text =
      kind.text := by
    cases kind <;> simp [convertInline, inlineNode, leafToken, Token.head, Break.type, Break.text,
      ofText, text]
  rw [criteriaTokens, List.map_cons, convertInlines, textAll, htext, ofText, text]
  -- The first line stands alone; each further one has its break in front.
  congr 1
  induction more with
  | nil => rfl
  | cons entry rest ih =>
    rw [List.flatMap_cons, List.map_append, List.map_cons, List.map_cons, List.map_nil]
    simp only [List.cons_append, List.nil_append]
    rw [convertInlines, convertInlines, textAll, textAll, hbreak, htext, ofText, text, ih,
      List.map_cons, String.join_cons, String.append_assoc]

theorem elements_criteriaTokens (first : Criterion) (more : List (Break × Criterion)) :
    ∀ token ∈ criteriaTokens first more, ∃ type cs, token = leafToken type cs := by
  intro token htoken
  rw [criteriaTokens, List.mem_cons, List.mem_flatMap] at htoken
  rcases htoken with rfl | ⟨entry, -, htoken⟩
  · exact ⟨_, _, rfl⟩
  · simp only [List.mem_cons, List.not_mem_nil, or_false] at htoken
    rcases htoken with rfl | rfl
    · exact ⟨_, _, rfl⟩
    · exact ⟨_, _, rfl⟩

/-- The document for a paragraph whose inline tokens are elements by themselves. -/
theorem rootOfTokens_paragraph {inlines : List Token}
    (h : ∀ token ∈ inlines, ∃ type cs, token = leafToken type cs) :
    rootOfTokens (paragraphTokens inlines) =
      .ok ⟨[.ofKind .paragraph (mergeTexts (convertInlines
        (inlines.map fun token => .mk token.head [])))], none, []⟩ := by
  have hopened : openedType "paragraph_open" = "paragraph" := by decide
  have helements : Element.ofTokens? (paragraphTokens inlines) =
      some [.mk { type := "paragraph", tag := "p" }
        [.mk { type := "inline" } (inlines.map fun token => .mk token.head [])]] := by
    simp [Element.ofTokens?, paragraphTokens, Element.nest?, Element.ofToken?, Token.nesting,
      Token.head, Frame.close, hopened, nest?_leaves h]
  have hcontent (elements : List Element) :
      inlineChildren [.mk { type := "inline" } elements] =
        mergeTexts (convertInlines elements) := by
    rw [inlineChildren_cons rfl]
    exact List.append_nil _
  rw [rootOfTokens, helements]
  simp only [rootOfElements, blockNodes, blockNode, leafNode?, hcontent]
  rfl

/-- A paragraph of criteria is converted, and the fused criteria are read from it. -/
theorem scoring_criteriaParagraph {first : Criterion} {more : List (Break × Criterion)}
    (hfirst : first.IsWritable) (hmore : ∀ entry ∈ more, entry.2.IsWritable) :
    ∃ root, rootOfTokens (paragraphTokens (criteriaTokens first more)) = .ok root ∧
      scoring root.children = .ok (fused first more) := by
  refine ⟨_, rootOfTokens_paragraph (elements_criteriaTokens first more), ?_⟩
  have htext : [ofKind .paragraph (mergeTexts (convertInlines
      ((criteriaTokens first more).map fun token => .mk token.head [])))].map Node.text =
        [fused first more].map written := by
    rw [List.map_singleton, List.map_singleton, text_ofKind, textAll_mergeTexts,
      textAll_convertInlines_criteria, written_fused]
  rw [scoring_written htext, List.flatten_singleton]
  rw [List.forall_mem_singleton]
  exact isWritable_fused hfirst hmore

/-- **Only soft line breaks part criteria.** In a paragraph with criteria of its own, what stands
behind a hard break is read as part of the description before it. So the criteria that were written
are read exactly if no break is hard. -/
theorem scoring_fused {first : Criterion} {more : List (Break × Criterion)}
    (hfirst : first.IsWritable) (hmore : ∀ entry ∈ more, entry.2.IsWritable) :
    ∃ root, rootOfTokens (paragraphTokens (criteriaTokens first more)) = .ok root ∧
      scoring root.children = .ok (fused first more) ∧
      (scoring root.children = .ok (first :: more.map Prod.snd) ↔
        ∀ entry ∈ more, entry.1 = .soft) := by
  obtain ⟨root, hroot, hscoring⟩ := scoring_criteriaParagraph hfirst hmore
  refine ⟨root, hroot, hscoring, ?_⟩
  rw [hscoring, Except.ok.injEq, fused_eq_iff]

/-- Criteria of which a soft break parts two, and a hard one two. -/
def mixedBreaks : List (Break × Criterion) := [(.soft, ⟨2, "short"⟩), (.hard, ⟨1, "new"⟩)]

theorem scoring_fused_mixedBreaks :
    (Criterion.IsWritable ⟨3, "clear"⟩ ∧ ∀ entry ∈ mixedBreaks, entry.2.IsWritable) ∧
    ∃ root, rootOfTokens (paragraphTokens (criteriaTokens ⟨3, "clear"⟩ mixedBreaks)) = .ok root ∧
      scoring root.children = .ok [⟨3, "clear"⟩, ⟨2, "short1: new"⟩] ∧
      scoring root.children ≠ .ok [⟨3, "clear"⟩, ⟨2, "short"⟩, ⟨1, "new"⟩] := by
  have hfirst : Criterion.IsWritable ⟨3, "clear"⟩ := by decide +kernel
  have hmore : ∀ entry ∈ mixedBreaks, entry.2.IsWritable := by decide +kernel
  obtain ⟨root, hroot, hscoring, hsame⟩ := scoring_fused hfirst hmore
  exact ⟨⟨hfirst, hmore⟩, root, hroot, hscoring, mt hsame.mp (by decide)⟩

/-- Two criteria with a hard break between them are read as one. -/
theorem hard_break_fuses :
    ∃ root, rootOfTokens (paragraphTokens
        (criteriaTokens ⟨3, "clear"⟩ [(.hard, ⟨2, "short"⟩)])) = .ok root ∧
      scoring root.children = .ok [⟨3, "clear2: short"⟩] ∧
      scoring root.children ≠ .ok [⟨3, "clear"⟩, ⟨2, "short"⟩] := by
  have hfirst : Criterion.IsWritable ⟨3, "clear"⟩ := by decide +kernel
  have hmore : ∀ entry ∈ [(Break.hard, Criterion.mk 2 "short")], entry.2.IsWritable := by
    decide +kernel
  obtain ⟨root, hroot, hscoring⟩ := scoring_criteriaParagraph hfirst hmore
  refine ⟨root, hroot, hscoring, fun hboth => ?_⟩
  rw [hscoring] at hboth
  have hlength := congrArg List.length (Except.ok.inj hboth)
  rw [length_fused] at hlength
  exact absurd hlength (by decide)

end Quizmark.Markdown
