import Quizmark.Proofs.Markdown.TokenText
import Quizmark.Proofs.Text.Blank

/-!
# Checkboxes of tasks

The converter takes a checkbox out of the nodes of an item, and trims the text behind it when
adjacent texts are joined already. Among the tokens this is a run of text that may end in the middle
of the content.

* `textAll_trimFirstText_cons`, `textAll_trimFirstText`: the first text of joined nodes, trimmed, is
  the run of text tokens, trimmed.
* `content_cases`: the content of a block is empty, or it begins with an inline element.
* `popCheckbox_content`: what is taken out of a paragraph.
* `textAll_popCheckbox_paragraph`: the text of an item that begins with a paragraph.
-/

namespace Quizmark.Markdown

open Node

/-! ## Runs of text -/

theorem mergeTexts_cons_of_ne {node : Node}
    (h : ∀ data value extra, node ≠ .literal .text data value extra) (rest : List Node) :
    mergeTexts (node :: rest) = node :: mergeTexts rest := by
  rw [mergeTexts]
  exact h

theorem trimFirstText_of_ne {node : Node}
    (h : ∀ data value extra, node ≠ .literal .text data value extra) (rest : List Node) :
    trimFirstText (node :: rest) = node :: rest := by
  unfold trimFirstText
  split
  next data value extra _ heq => exact absurd (List.cons.inj heq).1 (h data value extra)
  next => rfl

/-- Joining texts keeps the type of the first node. -/
theorem mergeTexts_cons (node : Node) (rest : List Node) :
    ∃ first others, mergeTexts (node :: rest) = first :: others ∧ first.type = node.type := by
  by_cases h : ∀ data value extra, node ≠ .literal .text data value extra
  · exact ⟨node, mergeTexts rest, mergeTexts_cons_of_ne h rest, rfl⟩
  · simp only [ne_eq, not_forall, not_not] at h
    obtain ⟨data, value, extra, rfl⟩ := h
    rw [mergeTexts]
    split
    · exact ⟨_, _, rfl, rfl⟩
    · exact ⟨_, _, rfl, rfl⟩

theorem trimFirstText_append {xs : List Node} (h : xs ≠ []) (ys : List Node) :
    trimFirstText (xs ++ ys) = trimFirstText xs ++ ys := by
  cases xs with
  | nil => exact absurd rfl h
  | cons node rest =>
    rw [List.cons_append]
    unfold trimFirstText
    split
    next heq =>
      cases heq
      rfl
    next hno =>
      split
      next data value extra rest heq =>
        obtain ⟨rfl, rfl⟩ := List.cons.inj heq
        exact absurd rfl (hno data value extra _)
      next => rfl

/-- Trimming reaches into the second part only through a blank first part. -/
theorem trimLeft_append (xs ys : List Char) :
    Text.trimLeft (xs ++ ys) =
      if Text.allBlank xs then Text.trimLeft ys else Text.trimLeft xs ++ ys := by
  rw [Text.trimLeft, List.dropWhile_append, Text.isEmpty_dropWhile]
  rfl

/-- A text in front of other nodes, joined with those and then trimmed. -/
theorem textAll_trimFirstText_cons (data : Option Fields) (value : String) (extra : Fields)
    (rest : List Node) :
    textAll (trimFirstText (mergeTexts (.literal .text data value extra :: rest))) =
      if Text.allBlank value.toList then textAll (trimFirstText (mergeTexts rest))
      else String.ofList (Text.trimLeft value.toList) ++ textAll rest := by
  rw [mergeTexts]
  split
  -- The text is joined with the next one, and trimming may reach into that.
  next _ more _ others heq =>
    rw [← textAll_mergeTexts rest, heq]
    simp only [trimFirstText, textAll, text, String.toList_append, trimLeft_append]
    split
    · rfl
    · rw [String.ofList_append, String.ofList_toList, String.append_assoc]
  next hno =>
    have hkept : trimFirstText (mergeTexts rest) = mergeTexts rest := by
      unfold trimFirstText
      split
      next data value extra others heq => exact absurd heq (hno data value extra others)
      next => rfl
    rw [trimFirstText, textAll, text, hkept, textAll_mergeTexts]
    split
    next hblank =>
      have hnil : Text.trimLeft value.toList = [] := by
        rw [← List.isEmpty_iff, Text.trimLeft, Text.isEmpty_dropWhile]
        exact hblank
      rw [hnil]
      exact String.empty_append
    next => rfl

/-- There is nothing inside a text. -/
theorem children_of_isText {head : Head} {inside : Place} {children : List Element}
    (htext : head.isText = true) (hinside : (head.type, inside) ∈ Place.inlines.inner)
    (hchildren : Element.fitsAll inside children = true) : children = [] := by
  simp only [Head.isText, List.contains_eq_mem, List.mem_cons, List.not_mem_nil, or_false,
    decide_eq_true_eq] at htext
  have hnothing : inside = .nothing := by
    rcases htext with htype | htype | htype <;> simpa [htype, Place.inner] using hinside
  rw [hnothing] at hchildren
  exact Element.eq_nil_of_fits_nothing hchildren

/-- A text that is not blank is trimmed in the token as in the node. -/
theorem ownText_trimmed {head : Head} (htext : head.isText = true)
    (hblank : ¬ Text.allBlank head.ownText.toList = true) :
    Head.ownText { head with content := String.ofList (Text.trimLeft head.content.toList) } =
      String.ofList (Text.trimLeft head.ownText.toList) := by
  simp only [Head.isText, List.contains_eq_mem, List.mem_cons, List.not_mem_nil, or_false,
    decide_eq_true_eq] at htext
  rcases htext with htype | htype | htype
  · simp [Head.ownText, htype]
  · simp [Head.ownText, htype]
  · -- A line break is blank.
    have hown : head.ownText = "\n" := by simp [Head.ownText, htype]
    exact absurd (by rw [hown]; decide) hblank

/-- Only HTML in a line becomes HTML. -/
theorem type_of_inlineNode_html {head : Head} {inside : Place}
    (hinside : (head.type, inside) ∈ Place.inlines.inner) {nodes : List Node}
    (h : (inlineNode head nodes).type = "html") : head.type = "html_inline" := by
  revert h
  simp only [Place.inner, List.mem_cons, Prod.mk.injEq, List.not_mem_nil, or_false] at hinside
  rcases hinside with ⟨htype, -⟩ | ⟨htype, -⟩ | ⟨htype, -⟩ | ⟨htype, -⟩ | ⟨htype, -⟩ |
    ⟨htype, -⟩ | ⟨htype, -⟩ | ⟨htype, -⟩ | ⟨htype, -⟩ | ⟨htype, -⟩ | ⟨htype, -⟩ <;>
    simp [inlineNode, ofText, parentNode, Node.type, LiteralKind.type, htype]

/-- A run of text at the front of inline elements, trimmed. -/
theorem textAll_trimFirstText {elements : List Element}
    (h : Element.fitsAll .inlines elements = true) :
    textAll (trimFirstText (mergeTexts (convertInlines elements))) =
      contents (trimRun (Element.headsAll Head.isOpen elements)) := by
  induction elements with
  | nil => rfl
  | cons element rest ih =>
    obtain ⟨head, children⟩ := element
    obtain ⟨hfirst, hrest⟩ := Element.fitsAll_cons.mp h
    obtain ⟨inside, hinside, hchildren, -⟩ := Element.fits_mk hfirst
    have htype : head.type ≠ "list_item" := by
      intro heq
      simp [heq, Place.inner] at hinside
    rw [convertInlines, convertInline, Element.headsAll, heads_of_ne htype]
    -- Only texts in front are trimmed; the first element of another type ends that.
    by_cases htext : head.isText = true
    · obtain rfl := children_of_isText htext hinside hchildren
      have hheads : (if head.isOpen = true then Element.headsAll Head.isOpen [] else []) = [] := by
        cases head.isOpen <;> rfl
      rw [inlineNode_eq_ofText htext, ofText, textAll_trimFirstText_cons, hheads,
        List.singleton_append, trimRun, if_pos htext]
      split
      · exact ih hrest
      next hblank => rw [contents, ownText_trimmed htext hblank, textAll_convertInlines hrest]
    · have hne := inlineNode_ne_of_not_text (Bool.eq_false_iff.mpr htext)
        (mergeTexts (convertInlines children))
      have htexts := textAll_convertInlines h
      rw [convertInlines, convertInline, Element.headsAll, heads_of_ne htype] at htexts
      rw [mergeTexts_cons_of_ne hne, trimFirstText_of_ne hne, textAll, textAll_mergeTexts,
        List.cons_append, trimRun, if_neg htext]
      exact htexts

/-! ## Checkboxes -/

section Checkbox

variable {elements : List Element} {head : Head} {children rest : List Element}

theorem head?_headsAll (opened : Head → Bool) (head : Head) (children rest : List Element) :
    (Element.headsAll opened (.mk head children :: rest)).head? = some head := by
  rw [Element.headsAll, Element.heads]
  split
  · rfl
  · cases opened head <;> rfl

/-- Neither blocks nor inline elements begin with the token of some content. -/
theorem dropWhile_headsAll {place : Place} (h : Element.fitsAll place (.mk head children :: rest))
    (hplace : place ≠ .content) (after : List Head) :
    (Element.headsAll Head.isOpen (.mk head children :: rest) ++ after).dropWhile Head.isInline =
      Element.headsAll Head.isOpen (.mk head children :: rest) ++ after := by
  obtain ⟨tail, htail⟩ :=
    List.head?_eq_some_iff.mp (head?_headsAll Head.isOpen head children rest)
  obtain ⟨inside, hinside, -⟩ := Element.fits_mk (Element.fitsAll_cons.mp h).1
  have hinline : head.isInline = false := by
    rw [Head.isInline, beq_eq_false_iff_ne]
    intro htype
    rw [htype] at hinside
    revert hinside hplace
    cases place <;> simp [Place.inner]
  rw [htail, List.cons_append, List.dropWhile_cons, hinline, if_neg Bool.false_ne_true]

theorem dropWhile_content_cons (h : head.type = "inline") (children rest : List Element)
    (after : List Head) :
    (Element.headsAll Head.isOpen (.mk head children :: rest) ++ after).dropWhile Head.isInline =
      (Element.headsAll Head.isOpen children ++
        (Element.headsAll Head.isOpen rest ++ after)).dropWhile Head.isInline := by
  rw [Element.headsAll, heads_of_ne (by simp [h])]
  simp [Head.isOpen, Head.isInline, h]

/-- The content of a block is empty, or it begins with an inline element. -/
theorem content_cases (h : Element.fitsAll .content elements = true) :
    (inlineChildren elements = [] ∧ ∀ after,
      (Element.headsAll Head.isOpen elements ++ after).dropWhile Head.isInline =
        after.dropWhile Head.isInline) ∨
    ∃ box inner more others, Element.fitsAll .inlines (.mk box inner :: more) = true ∧
      Element.fitsAll .content others = true ∧
      inlineChildren elements =
        mergeTexts (convertInlines (.mk box inner :: more)) ++ inlineChildren others ∧
      ∀ after, (Element.headsAll Head.isOpen elements ++ after).dropWhile Head.isInline =
        Element.headsAll Head.isOpen (.mk box inner :: more) ++
          (Element.headsAll Head.isOpen others ++ after) := by
  induction elements with
  | nil => exact .inl ⟨rfl, fun _ => rfl⟩
  | cons element others ih =>
    obtain ⟨head, inlines⟩ := element
    obtain ⟨hfirst, hothers⟩ := Element.fitsAll_cons.mp h
    obtain ⟨inside, hinside, hinlines, -⟩ := Element.fits_mk hfirst
    obtain ⟨htype, rfl⟩ := Place.mem_content.mp hinside
    have hnodes := inlineChildren_cons htype inlines others
    have hheads := dropWhile_content_cons htype inlines others
    -- An empty line shows nothing, so the search goes on behind it.
    cases inlines with
    | nil =>
      rw [hnodes]
      rcases ih hothers with ⟨hempty, hdrop⟩ | ⟨box, inner, more, last, hbox, hlast, hfound, hdrop⟩
      · exact .inl ⟨hempty, fun after => (hheads after).trans (hdrop after)⟩
      · exact .inr ⟨box, inner, more, last, hbox, hlast, hfound,
          fun after => (hheads after).trans (hdrop after)⟩
    | cons element more =>
      obtain ⟨box, inner⟩ := element
      refine .inr ⟨box, inner, more, others, hinlines, hothers, hnodes, fun after => ?_⟩
      rw [hheads, dropWhile_headsAll hinlines (by decide)]

/-- A run of texts that ends within the first part is trimmed within it. -/
theorem trimRun_append {after : List Head} (h : ∀ head ∈ after.head?, ¬ head.isText = true)
    (heads : List Head) : trimRun (heads ++ after) = trimRun heads ++ after := by
  induction heads with
  | nil =>
    cases after with
    | nil => rfl
    | cons head after =>
      have hkept : trimRun (head :: after) = head :: after := by rw [trimRun, if_neg (h head rfl)]
      exact hkept
  | cons head heads ih =>
    rw [List.cons_append, trimRun, trimRun]
    split
    · split
      · exact ih
      · rfl
    · rfl

/-- The content behind a checkbox, trimmed, and what comes behind the block. -/
theorem textAll_trimFirstText_content {after : List Head}
    (h : Element.fitsAll .content elements = true)
    (hafter : ∀ head ∈ after.head?, ¬ head.isText = true ∧ ¬ head.isInline = true) :
    textAll (trimFirstText (inlineChildren elements)) ++ contents after =
      contents (trimRun ((Element.headsAll Head.isOpen elements ++ after).dropWhile
        Head.isInline)) := by
  rcases content_cases h with ⟨hempty, hdrop⟩ | ⟨box, inner, more, others, hbox, hothers, hnodes,
    hdrop⟩
  · have hkept : after.dropWhile Head.isInline = after := by
      cases after with
      | nil => rfl
      | cons head after => rw [List.dropWhile_cons, if_neg (hafter head rfl).2]
    have htrimmed := trimRun_append (fun head hhead => (hafter head hhead).1) []
    rw [List.nil_append, trimRun, List.nil_append] at htrimmed
    rw [hempty, hdrop, hkept, htrimmed]
    exact String.empty_append
  · have hrest : ∀ head ∈ (Element.headsAll Head.isOpen others ++ after).head?,
        ¬ head.isText = true := by
      intro head hhead
      cases others with
      | nil => exact (hafter head hhead).1
      | cons element others =>
        obtain ⟨first, inlines⟩ := element
        obtain ⟨inside, hinside, -⟩ := Element.fits_mk (Element.fitsAll_cons.mp hothers).1
        rw [List.head?_append, head?_headsAll, Option.some_or, Option.mem_some] at hhead
        rw [← hhead, Head.isText, (Place.mem_content.mp hinside).1]
        decide
    obtain ⟨first, joined, hjoined, -⟩ :=
      mergeTexts_cons (convertInline (.mk box inner)) (convertInlines more)
    have hne : mergeTexts (convertInlines (.mk box inner :: more)) ≠ [] := by
      rw [convertInlines, hjoined]
      exact List.cons_ne_nil _ _
    rw [hnodes, hdrop, trimFirstText_append hne, textAll_append, textAll_trimFirstText hbox,
      trimRun_append hrest, contents_append, contents_append, textAll_inlineChildren hothers,
      String.append_assoc]

theorem popCheckbox_of_ne {first : Node} (h : first.type ≠ "paragraph") (others : List Node) :
    popCheckbox (first :: others) = (none, first :: others) := by
  unfold popCheckbox
  split
  next heq =>
    cases heq
    exact absurd rfl h
  next => rfl

theorem popCheckbox_of_content_ne {first : Node} (h : first.type ≠ "html")
    (inlines others : List Node) :
    popCheckbox (.ofKind .paragraph (first :: inlines) :: others) =
      (none, .ofKind .paragraph (first :: inlines) :: others) := by
  unfold popCheckbox
  split
  next heq =>
    cases heq
    exact absurd rfl h
  next => rfl

/-- Nothing is left out of an item that does not begin with a checkbox. -/
theorem withoutCheckbox_eq_self {first : Head} {heads : List Head}
    (h : ∀ box ∈ (heads.dropWhile Head.isInline).head?, ¬ (first.type = "paragraph" ∧
      box.type = "html_inline" ∧ checkboxOpening.toList.isPrefixOf box.content.toList = true)) :
    withoutCheckbox (first :: heads) = first :: heads := by
  rw [withoutCheckbox]
  cases hdrop : heads.dropWhile Head.isInline with
  | nil => rfl
  | cons box after =>
    rw [hdrop] at h
    simp only [if_neg (h box rfl)]

/-- What is taken out of a paragraph, by its first inline element. -/
theorem popCheckbox_content {box : Head} {inner more : List Element}
    (h : Element.fitsAll .inlines (.mk box inner :: more) = true) (last others : List Node) :
    (popCheckbox (.ofKind .paragraph
      (mergeTexts (convertInlines (.mk box inner :: more)) ++ last) :: others)).2 =
      if box.type = "html_inline" ∧
          checkboxOpening.toList.isPrefixOf box.content.toList = true then
        .ofKind .paragraph (trimFirstText (mergeTexts (convertInlines more) ++ last)) :: others
      else
        .ofKind .paragraph (mergeTexts (convertInlines (.mk box inner :: more)) ++ last) ::
          others := by
  obtain ⟨inside, hinside, -⟩ := Element.fits_mk (Element.fitsAll_cons.mp h).1
  rw [convertInlines, convertInline]
  by_cases htype : box.type = "html_inline"
  · have hnode (nodes : List Node) :
        inlineNode box nodes = .other "html" none (.str box.content) none [] := by
      simp [inlineNode, htype]
    rw [hnode, mergeTexts_cons_of_ne (by simp), List.cons_append]
    by_cases hbox : checkboxOpening.toList.isPrefixOf box.content.toList = true
    · simp only [popCheckbox, ofKind, if_pos hbox, if_pos (And.intro htype hbox)]
    · simp only [popCheckbox, ofKind, if_neg hbox, if_neg (fun h => hbox (And.right h))]
  · have hne : (inlineNode box (mergeTexts (convertInlines inner))).type ≠ "html" :=
      mt (type_of_inlineNode_html hinside) htype
    obtain ⟨first, joined, hjoined, hfirst⟩ :=
      mergeTexts_cons (inlineNode box (mergeTexts (convertInlines inner))) (convertInlines more)
    rw [hjoined, if_neg (fun h => htype (And.left h)), List.cons_append,
      popCheckbox_of_content_ne (fun hhtml => hne (hfirst.symm.trans hhtml))]

/-- No block begins with a token of text, of some content or of HTML in a line. -/
theorem head_of_blocks (h : Element.fitsAll .blocks elements = true) :
    ∀ first ∈ (Element.headsAll Head.isOpen elements).head?,
      ¬ first.isText = true ∧ ¬ first.isInline = true ∧ first.type ≠ "html_inline" := by
  intro first hfirst
  cases elements with
  | nil => cases hfirst
  | cons element rest =>
    obtain ⟨head, children⟩ := element
    obtain ⟨inside, hinside, -⟩ := Element.fits_mk (Element.fitsAll_cons.mp h).1
    rw [head?_headsAll, Option.mem_some] at hfirst
    have htypes : ∀ entry ∈ Place.blocks.inner,
        ¬ ["text", "text_special", "softbreak"].contains entry.1 = true ∧
          ¬ (entry.1 == "inline") = true ∧ entry.1 ≠ "html_inline" := by decide
    exact hfirst ▸ htypes _ hinside

/-- The text of an item that begins with a paragraph. -/
theorem textAll_popCheckbox_paragraph {others : List Node} (hparagraph : head.type = "paragraph")
    (hcontent : Element.fitsAll .content children = true)
    (hrest : Element.fitsAll .blocks rest = true)
    (hothers : textAll others = contents (Element.headsAll Head.isOpen rest)) :
    textAll (popCheckbox (.ofKind .paragraph (inlineChildren children) :: others)).2 =
      contents (withoutCheckbox (head ::
        (Element.headsAll Head.isOpen children ++ Element.headsAll Head.isOpen rest))) := by
  have htext (inlines : List Node) (heads : List Head)
      (hinlines : textAll inlines ++ textAll others = contents heads) :
      textAll (.ofKind .paragraph inlines :: others) = contents (head :: heads) := by
    rw [textAll, text_ofKind, hinlines, contents]
    simp [Head.ownText, hparagraph]
  have hplain : textAll (.ofKind .paragraph (inlineChildren children) :: others) =
      contents (head ::
        (Element.headsAll Head.isOpen children ++ Element.headsAll Head.isOpen rest)) := by
    refine htext _ _ ?_
    rw [contents_append, textAll_inlineChildren hcontent, hothers]
  have hafter := head_of_blocks hrest
  rcases content_cases hcontent with ⟨hempty, hdrop⟩ | ⟨box, inner, more, last, hbox, hlast, hnodes,
    hdrop⟩
  · -- There is nothing in the paragraph, and no block begins with a checkbox.
    have hself : withoutCheckbox (head :: (Element.headsAll Head.isOpen children ++
        Element.headsAll Head.isOpen rest)) = head :: (Element.headsAll Head.isOpen children ++
        Element.headsAll Head.isOpen rest) := by
      refine withoutCheckbox_eq_self fun box hbox hmatch => ?_
      rw [hdrop] at hbox
      cases rest with
      | nil => cases hbox
      | cons element rest =>
        obtain ⟨first, blocks⟩ := element
        have hkept := dropWhile_headsAll hrest (by decide) []
        rw [List.append_nil] at hkept
        rw [hkept] at hbox
        exact (hafter box hbox).2.2 hmatch.2.1
    rw [hself, ← hplain, hempty]
    rfl
  · rw [hnodes, popCheckbox_content hbox]
    by_cases hmatch : box.type = "html_inline" ∧
        checkboxOpening.toList.isPrefixOf box.content.toList = true
    · -- What is behind the checkbox is a content of its own.
      obtain ⟨hfirst, hmore⟩ := Element.fitsAll_cons.mp hbox
      have hbehind : Element.fitsAll .content (.mk { type := "inline" } more :: last) = true := by
        refine Element.fitsAll_cons.mpr ⟨?_, hlast⟩
        simp [Element.fits, Place.inner, hmore]
      have htrimmed := textAll_trimFirstText_content hbehind
        fun first hfirst => ⟨(hafter first hfirst).1, (hafter first hfirst).2.1⟩
      rw [inlineChildren_cons rfl, dropWhile_content_cons rfl, ← hothers] at htrimmed
      have hheads : Element.headsAll Head.isOpen (.mk box inner :: more) =
          box :: Element.headsAll Head.isOpen more := by
        obtain ⟨inside, hinside, hinner, -⟩ := Element.fits_mk hfirst
        obtain rfl : inside = .nothing := by simpa [hmatch.1, Place.inner] using hinside
        rw [Element.eq_nil_of_fits_nothing hinner, Element.headsAll,
          heads_of_ne (by simp [hmatch.1])]
        cases box.isOpen <;> rfl
      rw [if_pos hmatch, withoutCheckbox, hdrop, hheads, List.cons_append]
      simp only [if_pos (And.intro hparagraph hmatch)]
      exact htext _ _ htrimmed
    · have hself : withoutCheckbox (head :: (Element.headsAll Head.isOpen children ++
          Element.headsAll Head.isOpen rest)) = head :: (Element.headsAll Head.isOpen children ++
          Element.headsAll Head.isOpen rest) := by
        refine withoutCheckbox_eq_self fun found hfound hbad => ?_
        rw [hdrop, List.head?_append, head?_headsAll, Option.some_or, Option.mem_some] at hfound
        exact hmatch (hfound ▸ hbad.2)
      rw [if_neg hmatch, hself, ← hplain, hnodes]

end Checkbox

end Quizmark.Markdown
