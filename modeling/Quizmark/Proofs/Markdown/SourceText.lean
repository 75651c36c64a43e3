import Quizmark.Markdown.TaskItem
import Quizmark.Proofs.Markdown.Checkbox

/-!
# The text of a converted document

A document says what its source says: its text is put together from the tokens, in their order, and
each of them contributes once.

* `text_blockNode`, `text_convertItem`, `textAll_blockNodes`: the text of blocks and of items.
* `text_rootOfTokens`: the text of the document.
-/

namespace Quizmark.Markdown

open Node

/-! ## Blocks -/

theorem text_listNode {head : Head} {elements : List Element} {items : List Node} {node : Node}
    (h : listNode head elements items = .ok node) :
    node.text = textAll items ∧ node.type = "list" := by
  unfold listNode at h
  dsimp only at h
  split at h
  · obtain ⟨start, -, hnode⟩ := bind_ok h
    cases hnode
    exact ⟨by rw [text]; rfl, rfl⟩
  · cases h
    exact ⟨by rw [text]; rfl, rfl⟩

/-- A paragraph alone becomes a paragraph. -/
theorem Becomes.type_ne {head : Head} {children : List Element} {node : Node}
    (h : Becomes head children node) (hne : head.type ≠ "paragraph") : node.type ≠ "paragraph" := by
  cases h with
  | paragraph htype => exact absurd htype hne
  | list _ _ _ hnode => simp [(text_listNode hnode).2]
  | heading | directive => simp [directiveNode, ofKind, Node.type, BranchKind.type]
  | fence | code | frontMatter => simp [fenceNode, ofText, Node.type, LiteralKind.type]
  | quotation | table | html | rule => simp [parentNode, tableNode, Node.type]

theorem Becomes.of_paragraph {head : Head} {children : List Element} {node : Node}
    (h : Becomes head children node) (hparagraph : head.type = "paragraph") :
    node = .ofKind .paragraph (inlineChildren children) ∧
      Element.fitsAll .content children = true := by
  cases h with
  | paragraph _ hchildren => exact ⟨rfl, hchildren⟩
  | _ => simp_all

/-- The text of a block, once the text of what is inside it is known. -/
theorem text_blockNode {head : Head} {children : List Element} {node : Node}
    (hfits : (Element.mk head children).fits .blocks = true)
    (hblocks : ∀ nodes, Element.fitsAll .blocks children = true →
      blockNodes children = .ok nodes →
        textAll nodes = contents (Element.headsAll Head.isOpen children))
    (hitems : ∀ nodes, Element.fitsAll .items children = true →
      itemNodes children = .ok nodes →
        textAll nodes = contents (Element.headsAll Head.isOpen children))
    (h : blockNode (.mk head children) = .ok node) :
    node.text = contents ((Element.mk head children).heads Head.isOpen) := by
  obtain ⟨place, hplace, -⟩ := Element.fits_mk hfits
  have hheads := contents_heads hplace (by decide) children
  -- A block that opens shows what is inside, and a leaf shows its own text.
  have hinner (hempty : head.ownText = "" ∧ head.isOpen = true) :
      contents ((Element.mk head children).heads Head.isOpen) =
        contents (Element.headsAll Head.isOpen children) := by
    rw [hheads, hempty.1, if_pos hempty.2, String.empty_append]
  have hleaf (hnil : children = []) :
      contents ((Element.mk head children).heads Head.isOpen) = head.ownText := by
    rw [hheads, hnil, Element.headsAll, contents, ite_self, String.append_empty]
  cases becomes_of_blockNode hfits h with
  | heading depth htype hchildren =>
    rw [hinner (by simp [Head.ownText, Head.isOpen, htype]), text_ofKind,
      textAll_inlineChildren hchildren]
  | paragraph htype hchildren =>
    rw [hinner (by simp [Head.ownText, Head.isOpen, htype]), text_ofKind,
      textAll_inlineChildren hchildren]
  | list htype hchildren hnodes hnode =>
    have hempty : head.ownText = "" ∧ head.isOpen = true := by
      rcases htype with htype | htype <;> simp [Head.ownText, Head.isOpen, htype]
    rw [hinner hempty, (text_listNode hnode).1, hitems _ hchildren hnodes]
  | quotation htype hchildren hnodes =>
    rw [hinner (by simp [Head.ownText, Head.isOpen, htype]), text_parentNode,
      hblocks _ hchildren hnodes]
  | directive directive htype hchildren hnodes =>
    rw [hinner (by simp [Head.ownText, Head.isOpen, htype]), directiveNode, text_ofKind,
      hblocks _ hchildren hnodes]
  | table htype hchildren =>
    rw [hinner (by simp [Head.ownText, Head.isOpen, htype]), text_tableNode hchildren]
  | fence htype hnil =>
    rw [hleaf hnil]
    simp [fenceNode, ofText, text, Head.ownText, htype, dropFinalNewline_eq]
  | code htype hnil | html htype hnil =>
    rw [hleaf hnil]
    simp [ofText, text, Head.ownText, htype, dropFinalNewline_eq]
  | rule htype hnil =>
    rw [hleaf hnil]
    simp [text, Head.ownText, htype]
  | frontMatter htype hnil =>
    rw [hleaf hnil]
    simp [ofText, text, Head.ownText, htype, dropFinalNewlines_eq]

/-- The text of an item, whose checkbox is left out. -/
theorem text_convertItem {head : Head} {children : List Element} {node : Node}
    (hfits : (Element.mk head children).fits .items = true)
    (hblocks : ∀ nodes, Element.fitsAll .blocks children = true →
      blockNodes children = .ok nodes →
        textAll nodes = contents (Element.headsAll Head.isOpen children))
    (h : convertItem (.mk head children) = .ok node) :
    node.text = contents ((Element.mk head children).heads Head.isOpen) := by
  obtain ⟨inside, hinside, hchildren, -⟩ := Element.fits_mk hfits
  obtain ⟨htype, rfl⟩ := Place.mem_items.mp hinside
  obtain ⟨below, hbelow, hnode⟩ := bind_ok h
  cases hnode
  have hitem : (itemNode children below).text = textAll (popCheckbox below).2 := by
    rw [itemNode, text_ofKind]
  have hown : head.ownText = "" := by simp [Head.ownText, htype]
  rw [hitem, Element.heads, if_pos htype, contents, hown, String.empty_append]
  have htext := hblocks below hchildren hbelow
  cases children with
  | nil =>
    cases hbelow
    rfl
  | cons element rest =>
    obtain ⟨first, inner⟩ := element
    obtain ⟨hfirst, hrest⟩ := Element.fitsAll_cons.mp hchildren
    obtain ⟨node, hnode, hbelow⟩ := bind_ok hbelow
    obtain ⟨others, hothers, hbelow⟩ := bind_ok hbelow
    cases hbelow
    have hbecomes := becomes_of_blockNode hfirst hnode
    obtain ⟨place, hplace, -⟩ := Element.fits_mk hfirst
    have hne : first.type ≠ "list_item" := by
      intro heq
      simp [heq, Place.inner] at hplace
    have hheads : Element.headsAll Head.isOpen (.mk first inner :: rest) =
        first :: ((if first.isOpen = true then Element.headsAll Head.isOpen inner else []) ++
          Element.headsAll Head.isOpen rest) := by
      rw [Element.headsAll, heads_of_ne hne, List.cons_append]
    by_cases hparagraph : first.type = "paragraph"
    · obtain ⟨rfl, hcontent⟩ := hbecomes.of_paragraph hparagraph
      have hopen : first.isOpen = true := by simp [Head.isOpen, hparagraph]
      rw [hheads, if_pos hopen] at htext ⊢
      refine textAll_popCheckbox_paragraph hparagraph hcontent hrest ?_
      -- The text of the paragraph is known, and so is that of all blocks.
      have hempty : first.ownText = "" := by simp [Head.ownText, hparagraph]
      rw [textAll, text_ofKind, textAll_inlineChildren hcontent, contents, hempty,
        String.empty_append, contents_append] at htext
      exact (String.append_right_inj _).mp htext
    · rw [popCheckbox_of_ne (hbecomes.type_ne hparagraph), htext, hheads,
        withoutCheckbox_eq_self fun _ _ hmatch => hparagraph hmatch.1]

/-- The text of blocks, and that of the items of a list. -/
theorem textAll_blockNodes {elements : List Element} :
    (∀ nodes, Element.fitsAll .blocks elements = true → blockNodes elements = .ok nodes →
      textAll nodes = contents (Element.headsAll Head.isOpen elements)) ∧
    (∀ nodes, Element.fitsAll .items elements = true → itemNodes elements = .ok nodes →
      textAll nodes = contents (Element.headsAll Head.isOpen elements)) := by
  induction elements using Element.forest_induction with
  | nil =>
    constructor <;>
    · intro nodes _ h
      cases h
      rfl
  | cons head children rest ihc ihr =>
    obtain ⟨hblocks, hitems⟩ := ihc
    constructor
    · intro nodes hfits h
      obtain ⟨hfirst, hrest⟩ := Element.fitsAll_cons.mp hfits
      obtain ⟨node, hnode, h⟩ := bind_ok h
      obtain ⟨others, hothers, h⟩ := bind_ok h
      cases h
      rw [textAll, text_blockNode hfirst hblocks hitems hnode, ihr.1 others hrest hothers,
        Element.headsAll, contents_append]
    · intro nodes hfits h
      obtain ⟨hfirst, hrest⟩ := Element.fitsAll_cons.mp hfits
      obtain ⟨item, hitem, h⟩ := bind_ok h
      obtain ⟨others, hothers, h⟩ := bind_ok h
      cases h
      rw [textAll, text_convertItem hfirst hblocks hitem, ihr.2 others hrest hothers,
        Element.headsAll, contents_append]

/-! ## Documents -/

/-- **A document says what its source says.** Let the elements of Markdown tokens nest as a parser
nests them. If they can be converted, then the text of the document is what its tokens contribute,
one after the other. The tokens inside images and the checkboxes of tasks are left out. -/
theorem text_rootOfTokens {tokens : List Token} {elements : List Element} {root : Root}
    (htokens : Element.ofTokens? tokens = some elements)
    (hfits : Element.fitsAll .blocks elements = true) (hroot : rootOfTokens tokens = .ok root) :
    root.toNode.text = contents (Element.headsAll Head.isOpen elements) := by
  rw [rootOfTokens, htokens] at hroot
  obtain ⟨nodes, hnodes, hroot⟩ := bind_ok hroot
  cases hroot
  rw [Root.toNode, text]
  exact textAll_blockNodes.1 nodes hfits hnodes

/-- Front matter, a list with a task that is done, and code. Behind the checkbox there are blanks on
two lines, and behind the words of the task there is an image. -/
def errands : List Token :=
  [.mk { type := "front_matter", content := "title: Errands\n\n" } 0 [],
    .mk { type := "bullet_list_open" } 1 [],
    .mk { type := "list_item_open" } 1 [],
    .mk { type := "paragraph_open", hidden := true } 1 [],
    .mk { type := "inline" } 0
      [.mk { type := "html_inline", content := checkboxSource true ' ' } 0 [],
        .mk { type := "text", content := " " } 0 [],
        .mk { type := "softbreak" } 0 [],
        .mk { type := "text", content := " Buy " } 0 [],
        .mk { type := "strong_open" } 1 [],
        .mk { type := "text", content := "milk" } 0 [],
        .mk { type := "strong_close" } (-1) [],
        .mk { type := "image", content := "a cow" } 0
          [.mk { type := "text", content := "a cow" } 0 []]],
    .mk { type := "paragraph_close" } (-1) [],
    .mk { type := "list_item_close" } (-1) [],
    .mk { type := "bullet_list_close" } (-1) [],
    .mk { type := "fence", content := "1 + 1\n\n" } 0 []]

theorem text_rootOfTokens_errands :
    ∃ elements root, Element.ofTokens? errands = some elements ∧
      Element.fitsAll .blocks elements = true ∧ rootOfTokens errands = .ok root ∧
      root.toNode.text = contents (Element.headsAll Head.isOpen elements) ∧
      contents (Element.headsAll Head.isOpen elements) = "title: ErrandsBuy milk1 + 1\n" := by
  have hnest : (Element.ofTokens? errands).any (fun elements =>
      Element.fitsAll .blocks elements && contents (Element.headsAll Head.isOpen elements) ==
        "title: ErrandsBuy milk1 + 1\n") = true := by decide +kernel
  have hruns : (rootOfTokens errands).toBool = true := by decide +kernel
  obtain ⟨elements, htokens, helements⟩ := (Option.any_eq_true _ _).mp hnest
  obtain ⟨hfits, hcontents⟩ := Bool.and_eq_true_iff.mp helements
  obtain ⟨root, hroot⟩ := ok_of_toBool hruns
  exact ⟨elements, root, htokens, hfits, hroot, text_rootOfTokens htokens hfits hroot,
    beq_iff_eq.mp hcontents⟩

/-- A paragraph with an image in it. -/
def picture : List Token :=
  [.mk { type := "paragraph_open" } 1 [],
    .mk { type := "inline" } 0
      [.mk { type := "image", attrs := [("src", .text "x.png")], content := "sunset" } 0
        [.mk { type := "text", content := "sunset" } 0 []]],
    .mk { type := "paragraph_close" } (-1) []]

/-- The text inside an image is no text of the document: it is there as its description alone. -/
theorem picture_is_not_read :
    ∃ elements root, Element.ofTokens? picture = some elements ∧
      Element.fitsAll .blocks elements = true ∧ rootOfTokens picture = .ok root ∧
      root.toNode.text = "" ∧ contents (Element.headsAll (fun _ => true) elements) = "sunset" := by
  have hnest : (Element.ofTokens? picture).any (fun elements =>
      Element.fitsAll .blocks elements && contents (Element.headsAll (fun _ => true) elements) ==
        "sunset") = true := by decide +kernel
  have htext : (rootOfTokens picture).toOption.map (fun root => root.toNode.text) = some "" := by
    decide +kernel
  obtain ⟨elements, htokens, helements⟩ := (Option.any_eq_true _ _).mp hnest
  obtain ⟨hfits, hcontents⟩ := Bool.and_eq_true_iff.mp helements
  cases hroot : rootOfTokens picture with
  | error fault =>
    rw [hroot] at htext
    cases htext
  | ok root =>
    rw [hroot] at htext
    exact ⟨elements, root, htokens, hfits, rfl, Option.some.inj htext, beq_iff_eq.mp hcontents⟩

end Quizmark.Markdown
