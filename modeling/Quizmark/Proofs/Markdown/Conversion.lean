import Quizmark.Markdown.Conversion
import Quizmark.Proofs.Admonition
import Quizmark.Proofs.Error
import Quizmark.Proofs.Markdown.Grammar
import Quizmark.Proofs.Node.RoundTrip

/-!
# Converted documents are sound

* `Node.Sound`: a node by itself comes back from its payload as it is but for null fields, and has
  no loose children.
* `all_sound_convertInlines`, `all_sound_tableNode`, `all_sound_blockNodes`: the nodes for elements
  that nest as a parser nests them are sound, one lemma for each level of the converter.
* `becomes_of_blockNode`: the node for a block, by the type of the block.
* `all_sound_rootOfElements`: so is the document.
-/

namespace Quizmark

namespace Node

/-- The node by itself comes back from its payload as it is but for null fields, and every pass can
go through it. -/
structure Sound (node : Node) : Prop where
  readable : node.tidy.IsReadable
  flags : node.HasFlags
  plain : node.IsPlain

theorem sound_branch {kind : BranchKind} {data : Option Fields} {children : List Node}
    {extra : Fields} (hkind : kind.tidy.IsReadable) (hflags : kind.HasFlags)
    (hextra : extra.present.IsExtra (["type", "data", "children"] ++ kind.names)) :
    Sound (.branch kind data children extra) :=
  ⟨⟨hkind, by rwa [BranchKind.names_tidy]⟩, hflags, trivial⟩

theorem all_sound_ofKind {kind : BranchKind} {children : List Node} (hkind : kind.tidy.IsReadable)
    (hflags : kind.HasFlags) (all : All Sound children) : All Sound [.ofKind kind children] :=
  all_branch.mpr ⟨sound_branch hkind hflags Fields.isExtra_nil, all⟩

theorem sound_ofText (kind : LiteralKind) (value : String) : Sound (.ofText kind value) :=
  ⟨Fields.isExtra_nil, trivial, rfl⟩

theorem all_sound_ofText (kind : LiteralKind) (value : String) :
    All Sound [.ofText kind value] := all_literal.mpr (sound_ofText kind value)

theorem sound_other {type : String} {value : Json} {children : Option (List Node)} {extra : Fields}
    (htype : type ∉ kindTypes)
    (hextra : extra.present.IsExtra ["type", "data", "value", "children"]) :
    Sound (.other type none value children extra) := by
  cases children <;> exact ⟨⟨htype, hextra⟩, trivial, trivial⟩

end Node

namespace Markdown

open Node

/-! ## Inline elements -/

/-- What holds of a text whatever its value is kept when texts are joined. -/
theorem all_mergeTexts {P : Node → Prop}
    (htext : ∀ data value extra more, P (.literal .text data value extra) →
      P (.literal .text data (value ++ more) extra)) {nodes : List Node} (all : All P nodes) :
    All P (mergeTexts nodes) := by
  fun_induction mergeTexts nodes with
  | case1 => exact all_nil
  | case2 data value extra rest _ more _ others hmerge ih =>
    obtain ⟨hnode, hrest⟩ := all_cons.mp all
    have hmore := ih hrest
    rw [hmerge] at hmore
    exact all_cons.mpr ⟨all_literal.mpr (htext _ _ _ _ (all_literal.mp hnode)),
      (all_cons.mp hmore).2⟩
  | case3 data value extra rest hno ih =>
    obtain ⟨hnode, hrest⟩ := all_cons.mp all
    exact all_cons.mpr ⟨hnode, ih hrest⟩
  | case4 node rest hno ih =>
    obtain ⟨hnode, hrest⟩ := all_cons.mp all
    exact all_cons.mpr ⟨hnode, ih hrest⟩

theorem all_sound_mergeTexts {nodes : List Node} (all : All Sound nodes) :
    All Sound (mergeTexts nodes) :=
  all_mergeTexts (fun _ _ _ _ hsound => ⟨hsound.readable, trivial, hsound.plain⟩) all

/-- A missing title is null, and null fields are not written. -/
theorem isExtra_titleField {names : List String} (head : Head) (h : "title" ∉ names) :
    (titleField head).present.IsExtra names := by
  unfold titleField
  cases head.attr? "title" with
  | none => exact Fields.isExtra_nil
  | some title => cases title <;> simp [h, Fields.present, AttrValue.toJson, Json.isNull]

theorem all_sound_inlineNode {head : Head} {inside : Place} {children : List Node}
    (h : (head.type, inside) ∈ Place.inlines.inner) (all : All Sound children) :
    All Sound [inlineNode head children] := by
  have hparent {type : String} {extra : Fields} (htype : type ∉ kindTypes)
      (hextra : extra.present.IsExtra ["type", "data", "value", "children"]) :
      All Sound [.other type none .null (some children) extra] :=
    all_parent.mpr ⟨sound_other htype hextra, all⟩
  have hleaf {type : String} {value : Json} {extra : Fields} (htype : type ∉ kindTypes)
      (hextra : extra.present.IsExtra ["type", "data", "value", "children"]) :
      All Sound [.other type none value none extra] :=
    all_leaf.mpr (sound_other htype hextra)
  have htitle : (titleField head).present.IsExtra ["type", "data", "value", "children"] :=
    isExtra_titleField head (by simp)
  unfold inlineNode
  split
  case h_12 hno =>
    simp [Place.inner] at h
    simp_all
  case h_1 | h_2 | h_3 | h_5 => exact all_sound_ofText _ _
  case h_4 => exact hleaf (by simp [kindTypes]) Fields.isExtra_nil
  case h_6 | h_7 | h_8 => exact hparent (by simp [kindTypes]) Fields.isExtra_nil
  case h_9 => exact hparent (by simp [kindTypes]) (by simp [htitle])
  case h_10 => exact hleaf (by simp [kindTypes]) (by simp [htitle])
  case h_11 => exact hleaf (by simp [kindTypes]) Fields.isExtra_nil

theorem all_sound_convertInlines {elements : List Element}
    (h : Element.fitsAll .inlines elements = true) : All Sound (convertInlines elements) := by
  induction elements using Element.forest_induction with
  | nil => exact all_nil
  | cons head children rest ihc ihr =>
    obtain ⟨hfirst, hrest⟩ := Element.fitsAll_cons.mp h
    obtain ⟨inside, hinside, hchildren, -⟩ := Element.fits_mk hfirst
    rw [convertInlines, convertInline]
    refine all_cons.mpr ⟨?_, ihr hrest⟩
    -- Only some types have inline elements inside, the others have none.
    have hplace : inside = .inlines ∨ inside = .nothing := by
      have htable : ∀ entry ∈ Place.inlines.inner, entry.2 = .inlines ∨ entry.2 = .nothing := by
        decide
      exact htable _ hinside
    have hmerged : All Sound (mergeTexts (convertInlines children)) := by
      rcases hplace with rfl | rfl
      · exact all_sound_mergeTexts (ihc hchildren)
      · rw [Element.eq_nil_of_fits_nothing hchildren]
        exact all_nil
    exact all_sound_inlineNode hinside hmerged

theorem all_sound_inlineChildren {elements : List Element}
    (h : Element.fitsAll .content elements = true) : All Sound (inlineChildren elements) := by
  refine all_flatMap.mpr fun element hmem => ?_
  split
  · obtain ⟨head, children⟩ := element
    obtain ⟨inside, hinside, hchildren, -⟩ := Element.fits_mk (Element.fits_of_mem h hmem)
    obtain ⟨-, rfl⟩ := Place.mem_content.mp hinside
    exact all_sound_mergeTexts (all_sound_convertInlines hchildren)
  · exact all_nil

/-! ## Tables -/

theorem all_sound_parentNode {type : String} {children : List Node} (htype : type ∉ kindTypes)
    (all : All Sound children) : All Sound [parentNode type children] :=
  all_parent.mpr ⟨sound_other htype Fields.isExtra_nil, all⟩

theorem all_sound_rowNode {row : Element} (h : Element.fitsAll .cells row.children = true) :
    All Sound [rowNode row] := by
  refine all_sound_parentNode (by simp [kindTypes]) (all_map.mpr fun cell hmem => ?_)
  obtain ⟨head, children⟩ := cell
  obtain ⟨inside, hinside, hchildren, -⟩ := Element.fits_mk (Element.fits_of_mem h hmem)
  have hplace : ∀ entry ∈ Place.cells.inner, entry.2 = .content := by decide
  obtain rfl : inside = .content := hplace _ hinside
  exact all_sound_parentNode (by simp [kindTypes]) (all_sound_inlineChildren hchildren)

/-- A table names its alignments as an extra field, which is never null as a whole. -/
theorem all_sound_tableNode {sections : List Element}
    (h : Element.fitsAll .tableParts sections = true) : All Sound [tableNode sections] := by
  have hextra : Fields.IsExtra ["type", "data", "value", "children"]
      (Fields.present [("align", .arr (columnAlignments sections))]) := by simp
  refine all_parent.mpr ⟨sound_other (by simp [kindTypes]) hextra, ?_⟩
  refine all_flatMap.mpr fun part hpart => all_map.mpr fun row hrow => ?_
  obtain ⟨partHead, rows⟩ := part
  obtain ⟨inside, hinside, hrows, -⟩ := Element.fits_mk (Element.fits_of_mem h hpart)
  have hplace : ∀ entry ∈ Place.tableParts.inner, entry.2 = .rows := by decide
  obtain rfl : inside = .rows := hplace _ hinside
  obtain ⟨rowHead, cells⟩ := row
  obtain ⟨inside, hinside, hcells, -⟩ := Element.fits_mk (Element.fits_of_mem hrows hrow)
  have hplace : ∀ entry ∈ Place.rows.inner, entry.2 = .cells := by decide
  obtain rfl : inside = .cells := hplace _ hinside
  exact all_sound_rowNode hcells

/-! ## Lists -/

/-- What holds of a text whatever its value is kept when the first text is trimmed. -/
theorem all_trimFirstText {P : Node → Prop}
    (htext : ∀ data value extra trimmed, P (.literal .text data value extra) →
      P (.literal .text data trimmed extra)) {nodes : List Node} (all : All P nodes) :
    All P (trimFirstText nodes) := by
  unfold trimFirstText
  split
  · obtain ⟨hnode, hrest⟩ := all_cons.mp all
    exact all_cons.mpr ⟨all_literal.mpr (htext _ _ _ _ (all_literal.mp hnode)), hrest⟩
  · exact all

theorem all_sound_trimFirstText {nodes : List Node} (all : All Sound nodes) :
    All Sound (trimFirstText nodes) :=
  all_trimFirstText (fun _ _ _ _ hsound => ⟨hsound.readable, trivial, hsound.plain⟩) all

/-- Taking out a checkbox leaves a paragraph with one node less and a trimmed text. -/
theorem all_sound_popCheckbox {children : List Node} (all : All Sound children) :
    All Sound (popCheckbox children).2 := by
  unfold popCheckbox
  split
  · split
    · obtain ⟨hparagraph, hrest⟩ := all_cons.mp all
      obtain ⟨hsound, hinlines⟩ := all_branch.mp hparagraph
      have htrimmed := all_sound_trimFirstText (all_cons.mp hinlines).2
      exact all_cons.mpr
        ⟨all_branch.mpr ⟨⟨hsound.readable, hsound.flags, trivial⟩, htrimmed⟩, hrest⟩
    · exact all
  · exact all

theorem all_sound_itemNode {elements : List Element} {children : List Node}
    (all : All Sound children) : All Sound [itemNode elements children] :=
  all_sound_ofKind trivial (by simp [BranchKind.HasFlags]) (all_sound_popCheckbox all)

/-- The flags of a list from Markdown are never null. -/
theorem all_sound_listNode {head : Head} {elements : List Element} {items : List Node} {node : Node}
    (h : listNode head elements items = .ok node) (all : All Sound items) : All Sound [node] := by
  have hlist {extra : Fields}
      (hextra : extra.present.IsExtra ["type", "data", "children", "ordered", "spread"]) :
      All Sound [.branch (.list (some (head.type == "ordered_list"))
        (some (elements.any fun item => isLoose item.children))) none items extra] :=
    all_branch.mpr ⟨sound_branch trivial (by simp [BranchKind.HasFlags]) hextra, all⟩
  unfold listNode at h
  dsimp only at h
  split at h
  · obtain ⟨start, -, hnode⟩ := bind_ok h
    cases hnode
    exact hlist (by simp [Json.isNull])
  · cases h
    exact hlist Fields.isExtra_nil

/-! ## Blocks -/

/-- The node that a block becomes, by the type of the block, and what fits inside the block. -/
inductive Becomes (head : Head) (children : List Element) : Node → Prop where
  | heading (depth : Depth) : head.type = "heading" → Element.fitsAll .content children = true →
    Becomes head children (.ofKind (.heading depth) (inlineChildren children))
  | paragraph : head.type = "paragraph" → Element.fitsAll .content children = true →
    Becomes head children (.ofKind .paragraph (inlineChildren children))
  | list {items : List Node} {node : Node} :
    head.type = "bullet_list" ∨ head.type = "ordered_list" →
    Element.fitsAll .items children = true → itemNodes children = .ok items →
    listNode head children items = .ok node → Becomes head children node
  | quotation {nodes : List Node} : head.type = "blockquote" →
    Element.fitsAll .blocks children = true → blockNodes children = .ok nodes →
    Becomes head children (parentNode "blockquote" nodes)
  | directive (directive : Directive) {nodes : List Node} : head.type = "container_directive" →
    Element.fitsAll .blocks children = true → blockNodes children = .ok nodes →
    Becomes head children (directiveNode directive nodes)
  | table : head.type = "table" → Element.fitsAll .tableParts children = true →
    Becomes head children (tableNode children)
  | fence : head.type = "fence" → children = [] → Becomes head children (fenceNode head)
  | code : head.type = "code_block" → children = [] →
    Becomes head children (.ofText (.code none none) (dropFinalNewline head.content))
  | html : head.type = "html_block" → children = [] →
    Becomes head children (.other "html" none (.str (dropFinalNewline head.content)) none [])
  | rule : head.type = "hr" → children = [] →
    Becomes head children (.other "thematicBreak" none .null none [])
  | frontMatter : head.type = "front_matter" → children = [] →
    Becomes head children (.ofText .yaml (dropFinalNewlines head.content))

/-- Every block that a parser gives becomes one of these nodes. -/
theorem becomes_of_blockNode {head : Head} {children : List Element} {node : Node}
    (hfits : (Element.mk head children).fits .blocks = true)
    (h : blockNode (.mk head children) = .ok node) : Becomes head children node := by
  obtain ⟨inside, hinside, hchildren, -⟩ := Element.fits_mk hfits
  simp only [Place.inner, List.mem_cons, Prod.mk.injEq, List.not_mem_nil, or_false] at hinside
  rcases hinside with ⟨htype, rfl⟩ | ⟨htype, rfl⟩ | ⟨htype, rfl⟩ | ⟨htype, rfl⟩ | ⟨htype, rfl⟩ |
    ⟨htype, rfl⟩ | ⟨htype, rfl⟩ | ⟨htype, rfl⟩ | ⟨htype, rfl⟩ | ⟨htype, rfl⟩ | ⟨htype, rfl⟩ |
    ⟨htype, rfl⟩ <;> simp only [blockNode, leafNode?, htype] at h
  · -- heading
    obtain ⟨depth, -, hnode⟩ := bind_ok h
    cases hnode
    exact .heading depth htype hchildren
  · -- paragraph
    cases h
    exact .paragraph htype hchildren
  · -- bullet list
    simp only [true_or, if_true] at h
    obtain ⟨items, hnodes, hnode⟩ := bind_ok h
    exact .list (.inl htype) hchildren hnodes hnode
  · -- ordered list
    simp only [or_true, if_true] at h
    obtain ⟨items, hnodes, hnode⟩ := bind_ok h
    exact .list (.inr htype) hchildren hnodes hnode
  · -- quotation
    simp +decide only [if_false, if_true] at h
    obtain ⟨nodes, hnodes, hnode⟩ := bind_ok h
    cases hnode
    exact .quotation htype hchildren hnodes
  · -- directive
    simp +decide only [if_false, if_true] at h
    obtain ⟨directive, -, hrest⟩ := bind_ok h
    obtain ⟨nodes, hnodes, hnode⟩ := bind_ok hrest
    cases hnode
    exact .directive directive htype hchildren hnodes
  · -- table
    cases h
    exact .table htype hchildren
  · -- fenced code
    cases h
    exact .fence htype (Element.eq_nil_of_fits_nothing hchildren)
  · -- indented code
    cases h
    exact .code htype (Element.eq_nil_of_fits_nothing hchildren)
  · -- HTML
    cases h
    exact .html htype (Element.eq_nil_of_fits_nothing hchildren)
  · -- thematic break
    cases h
    exact .rule htype (Element.eq_nil_of_fits_nothing hchildren)
  · -- front matter
    cases h
    exact .frontMatter htype (Element.eq_nil_of_fits_nothing hchildren)

/-- A block and what is inside it, once what is inside is known to be sound. -/
theorem all_sound_blockNode {head : Head} {children : List Element} {node : Node}
    (hfits : (Element.mk head children).fits .blocks = true)
    (hblocks : ∀ nodes, Element.fitsAll .blocks children = true →
      blockNodes children = .ok nodes → All Sound nodes)
    (hitems : ∀ nodes, Element.fitsAll .items children = true →
      itemNodes children = .ok nodes → All Sound nodes)
    (h : blockNode (.mk head children) = .ok node) : All Sound [node] := by
  cases becomes_of_blockNode hfits h with
  | heading depth _ hchildren =>
    exact all_sound_ofKind trivial trivial (all_sound_inlineChildren hchildren)
  | paragraph _ hchildren =>
    exact all_sound_ofKind trivial trivial (all_sound_inlineChildren hchildren)
  | list _ hchildren hnodes hnode => exact all_sound_listNode hnode (hitems _ hchildren hnodes)
  | quotation _ hchildren hnodes =>
    exact all_sound_parentNode (by simp [kindTypes]) (hblocks _ hchildren hnodes)
  | directive directive _ hchildren hnodes =>
    exact all_sound_ofKind trivial trivial (hblocks _ hchildren hnodes)
  | table _ hchildren => exact all_sound_tableNode hchildren
  | fence | code | frontMatter => exact all_sound_ofText _ _
  | html | rule => exact all_leaf.mpr (sound_other (by simp [kindTypes]) Fields.isExtra_nil)

/-- The nodes for blocks, and those for the items of a list. -/
theorem all_sound_blockNodes {elements : List Element} :
    (∀ nodes, Element.fitsAll .blocks elements = true → blockNodes elements = .ok nodes →
      All Sound nodes) ∧
    (∀ nodes, Element.fitsAll .items elements = true → itemNodes elements = .ok nodes →
      All Sound nodes) := by
  induction elements using Element.forest_induction with
  | nil =>
    constructor <;>
    · intro nodes _ h
      cases h
      exact all_nil
  | cons head children rest ihc ihr =>
    obtain ⟨hblocks, hitems⟩ := ihc
    constructor
    · intro nodes hfits h
      obtain ⟨hfirst, hrest⟩ := Element.fitsAll_cons.mp hfits
      obtain ⟨node, hnode, h⟩ := bind_ok h
      obtain ⟨others, hothers, h⟩ := bind_ok h
      cases h
      exact all_cons.mpr
        ⟨all_sound_blockNode hfirst hblocks hitems hnode, ihr.1 others hrest hothers⟩
    · intro nodes hfits h
      obtain ⟨hfirst, hrest⟩ := Element.fitsAll_cons.mp hfits
      obtain ⟨item, hitem, h⟩ := bind_ok h
      obtain ⟨others, hothers, h⟩ := bind_ok h
      cases h
      obtain ⟨inside, hinside, hchildren, -⟩ := Element.fits_mk hfirst
      obtain ⟨-, rfl⟩ := Place.mem_items.mp hinside
      obtain ⟨below, hbelow, hitem⟩ := bind_ok hitem
      cases hitem
      exact all_cons.mpr
        ⟨all_sound_itemNode (hblocks below hchildren hbelow), ihr.2 others hrest hothers⟩

/-- **Converted documents are sound.** -/
theorem all_sound_rootOfElements {elements : List Element} {root : Root}
    (hfits : Element.fitsAll .blocks elements = true) (h : rootOfElements elements = .ok root) :
    All Sound [root.toNode] := by
  obtain ⟨nodes, hnodes, hroot⟩ := bind_ok h
  cases hroot
  exact all_sound_ofKind trivial trivial (all_sound_blockNodes.1 nodes hfits hnodes)

end Markdown

end Quizmark
