import Quizmark.Proofs.Markdown.TextRuns

/-!
# The content of blocks

Runs of text end with the inline token that they are in. So the content of a block with one inline
token has no texts side by side, and a checkbox that is taken out of it leaves none.

* `ContentNode`: the nodes with the content of a heading, a paragraph or a cell.
  `apart_of_contentNode`: with one inline token the content is `Apart`.
* `opens_of_blockNode`: what is inside the node for a block.
* `all_accounted_blockNodes`: in a document texts can only stand side by side in the content of a
  block with several inline tokens.
* `inlineNodes_merged`: what becomes of texts, from inline elements to documents.
-/

namespace Quizmark

namespace Node

/-- The node is a paragraph. -/
def isParagraph : Node → Bool
  | branch .paragraph .. => true
  | _ => false

end Node

namespace Markdown

open Node

/-! ## The content of blocks -/

namespace Element

/-- A block has one inline token at most. -/
def OneLine (element : Element) : Prop :=
  element.children.countP (fun child => child.type == "inline") ≤ 1

instance (element : Element) : Decidable element.OneLine :=
  inferInstanceAs (Decidable (_ ≤ 1))

mutual

/-- An element and all elements inside it, in document order. -/
def inOrder : Element → List Element
  | mk head children => mk head children :: inOrderAll children
  termination_by structural element => element

/-- Elements and all elements inside them, in document order. -/
def inOrderAll : List Element → List Element
  | [] => []
  | element :: rest => element.inOrder ++ inOrderAll rest
  termination_by structural elements => elements

end

theorem inOrder_subset {element : Element} {elements : List Element} (h : element ∈ elements) :
    element.inOrder ⊆ inOrderAll elements := by
  induction elements with
  | nil => cases h
  | cons first rest ih =>
    rw [inOrderAll]
    rcases List.mem_cons.mp h with rfl | h
    · exact List.subset_append_left _ _
    · exact List.subset_append_of_subset_right _ (ih h)

theorem mem_inOrder (element : Element) : element ∈ element.inOrder := by
  cases element
  rw [inOrder]
  exact List.mem_cons_self

theorem inOrderAll_children_subset (element : Element) :
    inOrderAll element.children ⊆ element.inOrder := by
  cases element
  rw [inOrder]
  exact List.subset_cons_self _ _

theorem inOrder_subset_of_child {element child : Element} (h : child ∈ element.children) :
    child.inOrder ⊆ element.inOrder :=
  List.Subset.trans (inOrder_subset h) (inOrderAll_children_subset element)

end Element

/-- The node holds the content of a heading, of a paragraph or of a cell. If the paragraph is the
first one of an item, its checkbox is taken out. -/
inductive ContentNode (block : Element) : Node → Prop where
  | leaf {node : Node} : block.type = "heading" ∨ block.type = "paragraph" →
    blockNode block = .ok node → ContentNode block node
  | cell {row : Element} {node : Node} :
    (block, node) ∈ row.children.zip (rowNode row).children → ContentNode block node
  | task {head : Head} {rest : List Element} {item node : Node} : block.type = "paragraph" →
    convertItem (.mk head (block :: rest)) = .ok item → node ∈ item.children.head? →
    ContentNode block node

theorem inlineChildren_of_countP_eq_zero {elements : List Element}
    (h : elements.countP (fun child => child.type == "inline") = 0) :
    inlineChildren elements = [] := by
  rw [List.countP_eq_zero] at h
  refine List.flatMap_eq_nil_iff.mpr fun element hmem => ?_
  rw [if_neg (fun htype => h element hmem (beq_iff_eq.mpr htype))]

/-- A block with one line of inline elements at most gives texts that stand apart, because they were
joined within the line. -/
theorem apart_inlineChildren {elements : List Element}
    (h : elements.countP (fun child => child.type == "inline") ≤ 1) :
    Apart (inlineChildren elements) := by
  induction elements with
  | nil => exact apart_nil
  | cons element rest ih =>
    obtain ⟨head, children⟩ := element
    rw [List.countP_cons] at h
    by_cases htype : head.type = "inline"
    · have hfirst : (Element.mk head children).type = "inline" := htype
      rw [if_pos (beq_iff_eq.mpr hfirst)] at h
      -- This is the one line, so no other part adds texts behind it.
      have hrest : rest.countP (fun child => child.type == "inline") = 0 := by omega
      rw [inlineChildren_cons htype, inlineChildren_of_countP_eq_zero hrest, List.append_nil]
      exact apart_mergeTexts _
    · have hskip : inlineChildren (.mk head children :: rest) = inlineChildren rest := by
        simp [inlineChildren, Element.type, Element.head, htype]
      rw [hskip]
      exact ih (by omega)

theorem apart_trimFirstText {nodes : List Node} (h : Apart nodes) :
    Apart (trimFirstText nodes) := by
  unfold trimFirstText
  split
  · obtain ⟨hfirst, hrest⟩ := apart_cons.mp h
    exact apart_cons.mpr ⟨fun next hnext htexts => hfirst next hnext ⟨rfl, htexts.2⟩, hrest⟩
  · exact h

/-- What is left of a paragraph at the front of an item. -/
theorem popCheckbox_paragraph (inlines others : List Node) :
    ∃ left, (popCheckbox (.ofKind .paragraph inlines :: others)).2 =
        .ofKind .paragraph left :: others ∧
      (left = inlines ∨ ∃ box more, inlines = box :: more ∧ left = trimFirstText more) := by
  unfold popCheckbox
  split
  next data hd value hc he more extra rest heq =>
    cases heq
    split
    · exact ⟨_, rfl, .inr ⟨_, _, rfl, rfl⟩⟩
    · exact ⟨_, rfl, .inl rfl⟩
  next => exact ⟨inlines, rfl, .inl rfl⟩

theorem blockNode_paragraph {block : Element} (h : block.type = "paragraph") :
    blockNode block = .ok (.ofKind .paragraph (inlineChildren block.children)) := by
  obtain ⟨head, children⟩ := block
  have htype : head.type = "paragraph" := h
  simp [blockNode, leafNode?, htype, Element.children]

theorem rowNode_children (row : Element) :
    row.children.zip (rowNode row).children =
      row.children.map fun cell => (cell, parentNode "tableCell" (inlineChildren cell.children)) :=
  List.map_prod_left_eq_zip.symm

theorem itemNode_children (elements : List Element) (children : List Node) :
    (itemNode elements children).children = (popCheckbox children).2 := rfl

/-- The children of such a node are the content of the block, or what a checkbox leaves of it. -/
theorem ContentNode.children_eq {block : Element} {node : Node} (h : ContentNode block node) :
    node.children = inlineChildren block.children ∨
      ∃ box more, inlineChildren block.children = box :: more ∧
        node.children = trimFirstText more := by
  cases h with
  | leaf htype hnode =>
    obtain ⟨head, children⟩ := block
    have hcase : head.type = "heading" ∨ head.type = "paragraph" := htype
    rcases hcase with htype | htype <;> simp only [blockNode, leafNode?, htype] at hnode
    · obtain ⟨depth, -, hnode⟩ := bind_ok hnode
      cases hnode
      exact .inl rfl
    · cases hnode
      exact .inl rfl
  | cell hmem =>
    rw [rowNode_children] at hmem
    obtain ⟨cell, -, heq⟩ := List.mem_map.mp hmem
    cases heq
    exact .inl rfl
  | task htype hitem hnode =>
    obtain ⟨below, hbelow, hitem⟩ := bind_ok hitem
    obtain ⟨first, hfirst, hbelow⟩ := bind_ok hbelow
    obtain ⟨others, -, hbelow⟩ := bind_ok hbelow
    rw [blockNode_paragraph htype] at hfirst
    cases hfirst
    cases hbelow
    cases hitem
    -- The paragraph of a task keeps its line, or loses the checkbox at its front.
    obtain ⟨left, hleft, hcase⟩ := popCheckbox_paragraph (inlineChildren block.children) others
    rw [itemNode_children, hleft] at hnode
    cases hnode
    rcases hcase with rfl | ⟨box, more, hcontent, rfl⟩
    · exact .inl rfl
    · exact .inr ⟨box, more, hcontent, rfl⟩

/-- **The content of a block with one inline token has no texts side by side.** -/
theorem apart_of_contentNode {block : Element} {node : Node} (hline : block.OneLine)
    (h : ContentNode block node) : Apart node.children := by
  have hcontent := apart_inlineChildren hline
  rcases h.children_eq with hchildren | ⟨box, more, hbox, hchildren⟩
  · rw [hchildren]
    exact hcontent
  · rw [hbox] at hcontent
    rw [hchildren]
    exact apart_trimFirstText (apart_cons.mp hcontent).2

/-! ## Documents -/

/-- What a block becomes, by what is inside its node. -/
inductive Opens (head : Head) (children : List Element) (node : Node) : Prop where
  | content : head.type = "heading" ∨ head.type = "paragraph" →
    node.children = inlineChildren children → Opens head children node
  | table : node = tableNode children → Opens head children node
  | leaf : node.children = [] → Opens head children node
  | items : itemNodes children = .ok node.children → Opens head children node
  | blocks : blockNodes children = .ok node.children → Opens head children node

/-- Whatever its flags are, the node of a list holds the items. -/
theorem listNode_eq {head : Head} {elements : List Element} {items : List Node} {node : Node}
    (h : listNode head elements items = .ok node) :
    ∃ ordered spread extra, node = .branch (.list ordered spread) none items extra := by
  unfold listNode at h
  dsimp only at h
  split at h
  · obtain ⟨start, -, hnode⟩ := bind_ok h
    cases hnode
    exact ⟨_, _, _, rfl⟩
  · cases h
    exact ⟨_, _, _, rfl⟩

theorem otherBlock_children (type : String) (nodes : List Node) :
    (otherBlock type nodes).children = nodes := by
  cases nodes <;> rfl

/-- The node of a block is no text, and only a paragraph becomes one. -/
structure StandsFor (head : Head) (node : Node) : Prop where
  text : node.isText = false
  paragraph : node.isParagraph = true → head.type = "paragraph"

theorem standsFor_of_not_paragraph {head : Head} {node : Node} (htext : node.isText = false)
    (h : node.isParagraph = false) : StandsFor head node :=
  ⟨htext, fun hparagraph => absurd hparagraph (by simp [h])⟩

/-- The node of a block, by the branches of `blockNode`. -/
theorem opens_of_blockNode {head : Head} {children : List Element} {node : Node}
    (h : blockNode (.mk head children) = .ok node) :
    Opens head children node ∧ StandsFor head node := by
  rw [blockNode] at h
  split at h
  next result hleaf =>
    unfold leafNode? at hleaf
    split at hleaf <;> cases hleaf
    case h_2 htype =>
      obtain ⟨depth, -, hnode⟩ := bind_ok h
      cases hnode
      exact ⟨.content (.inl htype) rfl, standsFor_of_not_paragraph rfl rfl⟩
    case h_3 htype =>
      cases h
      exact ⟨.content (.inr htype) rfl, rfl, fun _ => htype⟩
    case h_6 =>
      cases h
      exact ⟨.table rfl, standsFor_of_not_paragraph rfl rfl⟩
    -- The other leaves have no children.
    all_goals
      cases h
      exact ⟨.leaf rfl, standsFor_of_not_paragraph rfl rfl⟩
  next =>
    split at h
    · obtain ⟨items, hitems, hnode⟩ := bind_ok h
      obtain ⟨ordered, spread, extra, rfl⟩ := listNode_eq hnode
      exact ⟨.items hitems, standsFor_of_not_paragraph rfl rfl⟩
    split at h
    · obtain ⟨directive, -, hrest⟩ := bind_ok h
      obtain ⟨nodes, hnodes, hnode⟩ := bind_ok hrest
      cases hnode
      exact ⟨.blocks hnodes, standsFor_of_not_paragraph rfl rfl⟩
    split at h
    · obtain ⟨nodes, hnodes, hnode⟩ := bind_ok h
      cases hnode
      exact ⟨.blocks hnodes, standsFor_of_not_paragraph rfl rfl⟩
    · obtain ⟨nodes, hnodes, hnode⟩ := bind_ok h
      cases hnode
      have hchildren := otherBlock_children head.type nodes
      exact ⟨.blocks (hchildren.symm ▸ hnodes), standsFor_of_not_paragraph rfl rfl⟩

/-- Blocks are no texts, and neither are items. -/
theorem isText_blocks {elements : List Element} {nodes : List Node}
    (h : blockNodes elements = .ok nodes ∨ itemNodes elements = .ok nodes) :
    ∀ node ∈ nodes, node.isText = false := by
  induction elements generalizing nodes with
  | nil => rcases h with h | h <;> cases h <;> exact List.forall_mem_nil _
  | cons element rest ih =>
    obtain ⟨head, children⟩ := element
    rcases h with h | h
    · obtain ⟨node, hnode, h⟩ := bind_ok h
      obtain ⟨others, hothers, h⟩ := bind_ok h
      cases h
      exact List.forall_mem_cons.mpr ⟨(opens_of_blockNode hnode).2.text, ih (.inl hothers)⟩
    · obtain ⟨item, hitem, h⟩ := bind_ok h
      obtain ⟨others, hothers, h⟩ := bind_ok h
      cases h
      obtain ⟨below, -, hitem⟩ := bind_ok hitem
      cases hitem
      exact List.forall_mem_cons.mpr ⟨rfl, ih (.inr hothers)⟩

/-- An item that does not begin with a paragraph has the nodes of its blocks. -/
theorem popCheckbox_of_not_paragraph {head : Head} {children : List Element} {first : Node}
    (htype : head.type ≠ "paragraph") (h : blockNode (.mk head children) = .ok first)
    (others : List Node) : (popCheckbox (first :: others)).2 = first :: others := by
  unfold popCheckbox
  split
  next heq =>
    obtain ⟨rfl, rfl⟩ := List.cons.inj heq
    exact absurd ((opens_of_blockNode h).2.paragraph rfl) htype
  next => rfl

/-- No two texts stand side by side among the children of a node, unless it holds the content of a
block with several inline tokens. -/
def Accounted (elements : List Element) (node : Node) : Prop :=
  Apart node.children ∨
    ∃ block ∈ Element.inOrderAll elements, ContentNode block node ∧ ¬ block.OneLine

theorem Accounted.mono {xs ys : List Element} (hsub : Element.inOrderAll xs ⊆ Element.inOrderAll ys)
    {node : Node} (h : Accounted xs node) : Accounted ys node :=
  h.imp_right fun ⟨block, hblock, hcrowded⟩ => ⟨block, hsub hblock, hcrowded⟩

/-- A node that holds the content of a block is accounted for by that block. -/
theorem accounted_of_contentNode {elements : List Element} {block : Element} {node : Node}
    (hblock : block ∈ Element.inOrderAll elements) (h : ContentNode block node) :
    Accounted elements node := by
  by_cases hline : block.OneLine
  · exact .inl (apart_of_contentNode hline h)
  · exact .inr ⟨block, hblock, h, hline⟩

theorem all_singleton_iff {P : Node → Prop} {node : Node} :
    All P [node] ↔ P node ∧ All P node.children := by
  cases node with
  | branch kind data children extra => exact all_branch
  | literal kind data value extra =>
    exact all_literal.trans (and_iff_left all_nil).symm
  | other type data value children extra =>
    cases children with
    | none => exact all_leaf.trans (and_iff_left all_nil).symm
    | some children => exact all_parent

/-- Below a line of inline elements there are no nodes of blocks to account for. -/
theorem all_accounted_content (elements contents : List Element) :
    All (Accounted elements) (inlineChildren contents) := by
  refine all_flatMap.mpr fun element _ => ?_
  split
  · exact (all_apart_inlineNodes element.children).imp fun _ => .inl
  · exact all_nil

/-- The cells of a table are among the elements inside it. -/
theorem all_accounted_table (head : Head) (sections : List Element) :
    All (Accounted [.mk head sections]) [tableNode sections] := by
  have hparts : Element.inOrderAll sections ⊆ Element.inOrderAll [.mk head sections] :=
    List.Subset.trans (Element.inOrderAll_children_subset (.mk head sections))
      (Element.inOrder_subset (List.mem_singleton_self _))
  have hrows (part : Element) : ∀ node ∈ part.children.map rowNode, node.isText = false :=
    List.forall_mem_map.mpr fun _ _ => rfl
  have hcells (row : Element) : ∀ node ∈ (rowNode row).children, node.isText = false :=
    List.forall_mem_map.mpr fun _ _ => rfl
  refine all_parent.mpr ⟨.inl (apart_of_no_text ?_), ?_⟩
  · intro node hnode
    obtain ⟨part, -, hmem⟩ := List.mem_flatMap.mp hnode
    exact hrows part node hmem
  refine all_flatMap.mpr fun part hpart => all_map.mpr fun row hrow => ?_
  refine all_parent.mpr ⟨.inl (apart_of_no_text (hcells row)), all_map.mpr fun cell hcell => ?_⟩
  have hinside : cell ∈ Element.inOrderAll [.mk head sections] :=
    hparts (Element.inOrder_subset hpart (Element.inOrder_subset_of_child hrow
      (Element.inOrder_subset_of_child hcell cell.mem_inOrder)))
  have hzip : (cell, parentNode "tableCell" (inlineChildren cell.children)) ∈
      row.children.zip (rowNode row).children := by
    rw [rowNode_children]
    exact List.mem_map_of_mem hcell
  exact all_parent.mpr ⟨accounted_of_contentNode hinside (.cell hzip), all_accounted_content _ _⟩

/-- An item and what is inside it. A checkbox is only taken out of a paragraph it begins with. -/
theorem all_accounted_item {head : Head} {children : List Element} {node : Node}
    (hblocks : ∀ nodes, blockNodes children = .ok nodes → All (Accounted children) nodes)
    (h : convertItem (.mk head children) = .ok node) : All (Accounted children) [node] := by
  obtain ⟨below, hbelow, hnode⟩ := bind_ok h
  cases hnode
  have hall := hblocks below hbelow
  have htexts := isText_blocks (.inl hbelow)
  rw [all_singleton_iff, itemNode_children]
  cases children with
  | nil =>
    cases hbelow
    exact ⟨.inl apart_nil, all_nil⟩
  | cons block rest =>
    obtain ⟨first, hfirst, hbelow⟩ := bind_ok hbelow
    obtain ⟨others, hothers, hbelow⟩ := bind_ok hbelow
    cases hbelow
    obtain ⟨hfirstAll, hothersAll⟩ := all_cons.mp hall
    -- Only a paragraph in front can lose a checkbox; any other block stays as it is.
    by_cases htype : block.type = "paragraph"
    · rw [blockNode_paragraph htype] at hfirst
      cases hfirst
      obtain ⟨left, hleft, hcase⟩ := popCheckbox_paragraph (inlineChildren block.children) others
      have hcontent : ContentNode block (.ofKind .paragraph left) := by
        refine .task htype h ?_
        rw [itemNode_children, hleft]
        exact rfl
      have hblock : block ∈ Element.inOrderAll (block :: rest) :=
        Element.inOrder_subset List.mem_cons_self block.mem_inOrder
      have hleftAll : All (Accounted (block :: rest)) left := by
        have hinlines := (all_branch.mp hfirstAll).2
        rcases hcase with rfl | ⟨box, more, hbox, rfl⟩
        · exact hinlines
        · rw [hbox] at hinlines
          exact all_trimFirstText (fun _ _ _ _ _ => .inl apart_nil) (all_cons.mp hinlines).2
      refine ⟨.inl ?_, ?_⟩
      · rw [itemNode_children, hleft]
        exact apart_of_no_text (List.forall_mem_cons.mpr ⟨rfl, (List.forall_mem_cons.mp htexts).2⟩)
      · rw [hleft]
        exact all_cons.mpr
          ⟨all_branch.mpr ⟨accounted_of_contentNode hblock hcontent, hleftAll⟩, hothersAll⟩
    · obtain ⟨blockHead, inside⟩ := block
      have hkept := popCheckbox_of_not_paragraph htype hfirst others
      refine ⟨.inl ?_, ?_⟩
      · rw [itemNode_children, hkept]
        exact apart_of_no_text htexts
      · rw [hkept]
        exact hall

/-- A block and what is inside it. -/
theorem all_accounted_blockNode {head : Head} {children : List Element} {node : Node}
    (hblocks : ∀ nodes, blockNodes children = .ok nodes → All (Accounted children) nodes)
    (hitems : ∀ nodes, itemNodes children = .ok nodes → All (Accounted children) nodes)
    (h : blockNode (.mk head children) = .ok node) :
    All (Accounted [.mk head children]) [node] := by
  have hself : Element.mk head children ∈ Element.inOrderAll [.mk head children] :=
    Element.inOrder_subset (List.mem_singleton_self _) (Element.mem_inOrder _)
  have hbelow : Element.inOrderAll children ⊆ Element.inOrderAll [.mk head children] :=
    List.Subset.trans (Element.inOrderAll_children_subset (.mk head children))
      (Element.inOrder_subset (List.mem_singleton_self _))
  cases (opens_of_blockNode h).1 with
  | content htype hchildren =>
    refine all_singleton_iff.mpr ⟨accounted_of_contentNode hself (.leaf htype h), ?_⟩
    rw [hchildren]
    exact all_accounted_content _ _
  | table hnode =>
    rw [hnode]
    exact all_accounted_table head children
  | leaf hnone =>
    refine all_singleton_iff.mpr ⟨.inl ?_, ?_⟩ <;> rw [hnone]
    · exact apart_nil
    · exact all_nil
  | items hnodes =>
    exact all_singleton_iff.mpr ⟨.inl (apart_of_no_text (isText_blocks (.inr hnodes))),
      (hitems _ hnodes).imp fun _ => .mono hbelow⟩
  | blocks hnodes =>
    exact all_singleton_iff.mpr ⟨.inl (apart_of_no_text (isText_blocks (.inl hnodes))),
      (hblocks _ hnodes).imp fun _ => .mono hbelow⟩

/-- The nodes for blocks, and those for the items of a list. -/
theorem all_accounted_blockNodes (elements : List Element) :
    (∀ nodes, blockNodes elements = .ok nodes → All (Accounted elements) nodes) ∧
    (∀ nodes, itemNodes elements = .ok nodes → All (Accounted elements) nodes) := by
  induction elements using Element.forest_induction with
  | nil =>
    constructor <;>
    · intro nodes h
      cases h
      exact all_nil
  | cons head children rest ihc ihr =>
    obtain ⟨hblocks, hitems⟩ := ihc
    -- Both claims are needed at once, as items hold blocks and blocks hold items.
    have hfirst : Element.inOrderAll [.mk head children] ⊆
        Element.inOrderAll (.mk head children :: rest) := by
      simp [Element.inOrderAll]
    have hrest : Element.inOrderAll rest ⊆ Element.inOrderAll (.mk head children :: rest) := by
      simp [Element.inOrderAll]
    constructor
    · intro nodes h
      obtain ⟨node, hnode, h⟩ := bind_ok h
      obtain ⟨others, hothers, h⟩ := bind_ok h
      cases h
      exact all_cons.mpr
        ⟨(all_accounted_blockNode hblocks hitems hnode).imp fun _ => .mono hfirst,
          (ihr.1 others hothers).imp fun _ => .mono hrest⟩
    · intro nodes h
      obtain ⟨item, hitem, h⟩ := bind_ok h
      obtain ⟨others, hothers, h⟩ := bind_ok h
      cases h
      have hbelow : Element.inOrderAll children ⊆
          Element.inOrderAll (.mk head children :: rest) :=
        List.Subset.trans (Element.inOrderAll_children_subset (.mk head children))
          (Element.inOrder_subset List.mem_cons_self)
      exact all_cons.mpr
        ⟨(all_accounted_item hblocks hitem).imp fun _ => .mono hbelow,
          (ihr.2 others hothers).imp fun _ => .mono hrest⟩

/-! ## All together -/

/-- **Adjacent texts become one, and nothing is lost.** The nodes for inline elements are those of
their runs, at every level. In the content of a block with one inline token no texts stand side by
side, and in a document they do so only in the content of blocks with more. -/
theorem inlineNodes_merged :
    (∀ elements nodes, Merged elements nodes ↔ nodes = inlineNodes elements) ∧
    (∀ elements, Apart (inlineNodes elements) ∧
      All (fun node => Apart node.children) (inlineNodes elements)) ∧
    (∀ elements, (inlineNodes elements).filter (fun node => !node.isText) =
      (elements.filter fun element => !element.head.isText).map convertInline) ∧
    (∀ (block : Element) node, block.OneLine → ContentNode block node → Apart node.children) ∧
    (∀ elements nodes, blockNodes elements = .ok nodes → All (Accounted elements) nodes) :=
  ⟨fun _ _ => merged_iff,
    fun elements => ⟨apart_mergeTexts _, all_apart_inlineNodes elements⟩,
    filter_inlineNodes,
    fun _ _ => apart_of_contentNode,
    fun elements => (all_accounted_blockNodes elements).1⟩

/-- A checkbox, a text over two lines with an escaped star, and emphasis. -/
def taskLine : List Element :=
  [.mk { type := "html_inline", content := checkboxOpening ++ ">" } [],
    .mk { type := "text", content := " all" } [], .mk { type := "softbreak" } [],
    .mk { type := "text_special", content := "*" } [],
    .mk { type := "em" } [.mk { type := "text", content := "a" } [],
      .mk { type := "text", content := "b" } []]]

/-- A paragraph with this line. -/
def taskParagraph : Element := .mk { type := "paragraph" } [.mk { type := "inline" } taskLine]

/-- A list with one item, which is this paragraph. -/
def taskList : Element :=
  .mk { type := "bullet_list" } [.mk { type := "list_item" } [taskParagraph]]

/-- What is left of the paragraph behind its checkbox. -/
def taskText : Node :=
  .ofKind .paragraph [.ofText .text "all\n*", parentNode "emphasis" [.ofText .text "ab"]]

theorem inlineNodes_merged_task :
    Merged taskLine (.other "html" none (.str (checkboxOpening ++ ">")) none [] ::
      [.ofText .text " all\n*", parentNode "emphasis" [.ofText .text "ab"]]) ∧
    taskParagraph.OneLine ∧ ContentNode taskParagraph taskText ∧ Apart taskText.children ∧
    ∃ nodes, blockNodes [taskList] = .ok nodes ∧ taskText ∈ Node.inOrderAll nodes ∧
      All (Accounted [taskList]) nodes := by
  obtain ⟨hmerged, -, -, hcontent, hblocks⟩ := inlineNodes_merged
  have hline : taskParagraph.OneLine := by decide
  have hitem : convertItem (.mk { type := "list_item" } [taskParagraph]) =
      .ok (.ofKind (.item (some true) (some false)) [taskText]) := rfl
  have htask : ContentNode taskParagraph taskText := .task rfl hitem rfl
  refine ⟨(hmerged _ _).mpr rfl, hline, htask, hcontent _ _ hline htask, ?_⟩
  refine ⟨[.branch (.list (some false) (some true)) none
    [.ofKind (.item (some true) (some false)) [taskText]] []], rfl, ?_, hblocks _ _ rfl⟩
  simp [Node.inOrderAll, Node.inOrder, Node.ofKind, taskText]

end Markdown

end Quizmark
