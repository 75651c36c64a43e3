import Mathlib.Data.List.DropRight
import Quizmark.Node.Text
import Quizmark.Proofs.Markdown.Conversion

/-!
# The texts of tokens

* `Head.ownText`: what a token contributes to the text of a document.
* `Element.headsAll`: the tokens in document order, without the checkboxes of tasks.
* `textAll_convertInlines`, `textAll_inlineChildren`, `text_tableNode`: the nodes for inline
  elements, for the content of a block and for a table say what their tokens say.
-/

namespace Quizmark

namespace Node

/-- The node is a text. -/
def isText : Node → Bool
  | literal .text .. => true
  | _ => false

theorem isText_eq_true_iff {node : Node} :
    node.isText = true ↔ ∃ data value extra, node = .literal .text data value extra := by
  constructor
  · intro h
    unfold isText at h
    split at h
    · exact ⟨_, _, _, rfl⟩
    · cases h
  · rintro ⟨data, value, extra, rfl⟩
    rfl

end Node

namespace Markdown

open Node

/-! ## Tokens in document order -/

/-- A text without one line feed at its end, if there is one. -/
def withoutLineEnd (s : String) : String :=
  if s.toList.getLast? = some '\n' then String.ofList s.toList.dropLast else s

/-- A text without the line feeds at its end. -/
def withoutLineEnds (s : String) : String :=
  String.ofList (s.toList.rdropWhile (· == '\n'))

namespace Head

/-- What a token contributes to the text of a document. -/
def ownText (head : Head) : String :=
  match head.type with
  | "text" | "text_special" | "code_inline" | "html_inline" => head.content
  | "softbreak" => "\n"
  | "fence" | "code_block" | "html_block" => withoutLineEnd head.content
  | "front_matter" => withoutLineEnds head.content
  | _ => ""

/-- Whether a token is part of a run of text. -/
def isText (head : Head) : Bool := ["text", "text_special", "softbreak"].contains head.type

/-- Whether a token stands for the content of a block. -/
def isInline (head : Head) : Bool := head.type == "inline"

/-- Whether the tokens inside a token are part of the document. Those inside an image are not: they
are its description. -/
def isOpen (head : Head) : Bool := head.type != "image"

end Head

/-- The texts of tokens one after the other. -/
def contents : List Head → String
  | [] => ""
  | head :: rest => head.ownText ++ contents rest

/-- Tokens without the blanks at the front of the run of text that they begin with. -/
def trimRun : List Head → List Head
  | [] => []
  | head :: rest =>
    if head.isText then
      if Text.allBlank head.ownText.toList then trimRun rest
      else { head with content := String.ofList (Text.trimLeft head.content.toList) } :: rest
    else head :: rest

/-- The tokens of an item without its checkbox and without the blanks behind it. Only a paragraph in
front of all other blocks has a checkbox, at its beginning. -/
def withoutCheckbox : List Head → List Head
  | [] => []
  | first :: rest =>
    match rest.dropWhile Head.isInline with
    | [] => first :: rest
    | box :: after =>
      if first.type = "paragraph" ∧ box.type = "html_inline" ∧
          checkboxOpening.toList.isPrefixOf box.content.toList = true then
        first :: trimRun (after.dropWhile Head.isInline)
      else first :: rest

namespace Element

mutual

/-- An element and what is inside it, in document order and without checkboxes. The elements inside
those that are not `opened` are left out. -/
def heads (opened : Head → Bool) : Element → List Head
  | mk head children =>
    if head.type = "list_item" then head :: withoutCheckbox (headsAll opened children)
    else if opened head then head :: headsAll opened children
    else [head]
  termination_by structural element => element

/-- Elements and what is inside them, in document order and without checkboxes. -/
def headsAll (opened : Head → Bool) : List Element → List Head
  | [] => []
  | element :: rest => element.heads opened ++ headsAll opened rest
  termination_by structural elements => elements

end

end Element

/-! ## Texts of tokens and of nodes -/

theorem contents_append (xs ys : List Head) : contents (xs ++ ys) = contents xs ++ contents ys := by
  induction xs with
  | nil => simp [contents]
  | cons head rest ih => rw [List.cons_append, contents, contents, ih, String.append_assoc]

theorem textAll_append (xs ys : List Node) : textAll (xs ++ ys) = textAll xs ++ textAll ys := by
  induction xs with
  | nil => simp [textAll]
  | cons node rest ih => rw [List.cons_append, textAll, textAll, ih, String.append_assoc]

theorem text_ofKind (kind : BranchKind) (children : List Node) :
    (ofKind kind children).text = textAll children := by
  rw [ofKind, text]
  rfl

/-- The converter takes one line end off, as the specification says. -/
theorem dropFinalNewline_eq (s : String) : dropFinalNewline s = withoutLineEnd s := by
  unfold dropFinalNewline withoutLineEnd
  rw [← List.head?_reverse]
  split
  next cs heq =>
    have hlast : s.toList = cs.reverse ++ ['\n'] := by
      rw [← List.reverse_reverse s.toList, heq, List.reverse_cons]
    simp [hlast]
  next hno =>
    rw [if_neg]
    intro hhead
    obtain ⟨cs, heq⟩ := List.head?_eq_some_iff.mp hhead
    exact hno cs heq

theorem dropFinalNewlines_eq (s : String) : dropFinalNewlines s = withoutLineEnds s := rfl

/-! ## Inline elements -/

/-- Joining texts changes no text. -/
theorem textAll_mergeTexts (nodes : List Node) : textAll (mergeTexts nodes) = textAll nodes := by
  fun_induction mergeTexts nodes with
  | case1 => rfl
  | case2 data value extra rest _ more _ others hmerge ih =>
    rw [hmerge, textAll, text] at ih
    rw [textAll, text, textAll, text, ← ih, String.append_assoc]
  | case3 data value extra rest hno ih => rw [textAll, textAll, ih]
  | case4 node rest hno ih => rw [textAll, textAll, ih]

/-- An inline element becomes a text if its token is one. -/
theorem isText_inlineNode (head : Head) (nodes : List Node) :
    (inlineNode head nodes).isText = head.isText := by
  unfold inlineNode
  split <;> simp_all [Head.isText, Node.isText, ofText, parentNode]

theorem inlineNode_eq_ofText {head : Head} (h : head.isText = true) (nodes : List Node) :
    inlineNode head nodes = .ofText .text head.ownText := by
  simp only [Head.isText, List.contains_eq_mem, List.mem_cons, List.not_mem_nil, or_false,
    decide_eq_true_eq] at h
  rcases h with htype | htype | htype <;> simp [inlineNode, Head.ownText, htype]

/-- An element that is not text-like never becomes a text. -/
theorem inlineNode_ne_of_not_text {head : Head} (h : head.isText = false) (nodes : List Node)
    (data : Option Fields) (value : String) (extra : Fields) :
    inlineNode head nodes ≠ .literal .text data value extra := by
  intro heq
  rw [← isText_inlineNode head nodes, heq] at h
  cases h

/-- A node has the text of its element, and of what is inside if the element opens. -/
theorem text_inlineNode {head : Head} {inside : Place} {children : List Node}
    (h : (head.type, inside) ∈ Place.inlines.inner) :
    (inlineNode head children).text =
      head.ownText ++ if inside = .inlines ∧ head.isOpen = true then textAll children else "" := by
  simp only [Place.inner, List.mem_cons, Prod.mk.injEq, List.not_mem_nil, or_false] at h
  rcases h with ⟨htype, rfl⟩ | ⟨htype, rfl⟩ | ⟨htype, rfl⟩ | ⟨htype, rfl⟩ | ⟨htype, rfl⟩ |
    ⟨htype, rfl⟩ | ⟨htype, rfl⟩ | ⟨htype, rfl⟩ | ⟨htype, rfl⟩ | ⟨htype, rfl⟩ | ⟨htype, rfl⟩ <;>
    simp [inlineNode, Head.ownText, Head.isOpen, htype, ofText, parentNode, text]

theorem heads_of_ne {opened : Head → Bool} {head : Head} {children : List Element}
    (h : head.type ≠ "list_item") :
    (Element.mk head children).heads opened =
      head :: if opened head then Element.headsAll opened children else [] := by
  rw [Element.heads, if_neg h]
  cases opened head <;> rfl

/-- The elements of a place inside lists have no checkbox to leave out. -/
theorem contents_heads {place inside : Place} {head : Head}
    (hinside : (head.type, inside) ∈ place.inner) (hplace : place ≠ .items)
    (children : List Element) :
    contents ((Element.mk head children).heads Head.isOpen) =
      head.ownText ++
        if head.isOpen = true then contents (Element.headsAll Head.isOpen children) else "" := by
  have htype : head.type ≠ "list_item" := by
    intro heq
    rw [heq] at hinside
    revert hinside hplace
    cases place <;> simp [Place.inner]
  rw [heads_of_ne htype, contents]
  cases head.isOpen <;> rfl

/-- The texts of inline nodes are the contents of the tokens, but for those inside images. -/
theorem textAll_convertInlines {elements : List Element}
    (h : Element.fitsAll .inlines elements = true) :
    textAll (convertInlines elements) = contents (Element.headsAll Head.isOpen elements) := by
  induction elements using Element.forest_induction with
  | nil => rfl
  | cons head children rest ihc ihr =>
    obtain ⟨hfirst, hrest⟩ := Element.fitsAll_cons.mp h
    obtain ⟨inside, hinside, hchildren, -⟩ := Element.fits_mk hfirst
    rw [convertInlines, textAll, convertInline, text_inlineNode hinside, ihr hrest,
      Element.headsAll, contents_append, contents_heads hinside (by decide)]
    congr 2
    -- Only some types have inline elements inside, the others have none.
    have hplace : inside = .inlines ∨ inside = .nothing := by
      have htable : ∀ entry ∈ Place.inlines.inner, entry.2 = .inlines ∨ entry.2 = .nothing := by
        decide
      exact htable _ hinside
    rcases hplace with rfl | rfl
    · simp only [true_and, textAll_mergeTexts, ihc hchildren]
    · rw [Element.eq_nil_of_fits_nothing hchildren]
      cases head.isOpen <;> rfl

theorem inlineChildren_cons {head : Head} (h : head.type = "inline")
    (children rest : List Element) :
    inlineChildren (.mk head children :: rest) =
      mergeTexts (convertInlines children) ++ inlineChildren rest := by
  simp [inlineChildren, inlineNodes, Element.type, Element.head, Element.children, h]

theorem textAll_inlineChildren {elements : List Element}
    (h : Element.fitsAll .content elements = true) :
    textAll (inlineChildren elements) = contents (Element.headsAll Head.isOpen elements) := by
  induction elements with
  | nil => rfl
  | cons element rest ih =>
    obtain ⟨head, children⟩ := element
    obtain ⟨hfirst, hrest⟩ := Element.fitsAll_cons.mp h
    obtain ⟨inside, hinside, hchildren, -⟩ := Element.fits_mk hfirst
    rw [Element.headsAll, contents_append, contents_heads hinside (by decide), ← ih hrest]
    obtain ⟨htype, rfl⟩ := Place.mem_content.mp hinside
    rw [inlineChildren_cons htype, textAll_append, textAll_mergeTexts,
      textAll_convertInlines hchildren]
    simp [Head.ownText, Head.isOpen, htype]

/-! ## Tables -/

theorem text_parentNode (type : String) (children : List Node) :
    (parentNode type children).text = textAll children := by
  simp [parentNode, text]

/-- The parts of a table have no text but that of their cells. -/
theorem contents_heads_part {place inside : Place} {head : Head} {children : List Element}
    (hplace : place = .tableParts ∨ place = .rows ∨ place = .cells)
    (hinside : (head.type, inside) ∈ place.inner) :
    contents ((Element.mk head children).heads Head.isOpen) =
      contents (Element.headsAll Head.isOpen children) := by
  have hempty : head.ownText = "" ∧ head.isOpen = true := by
    rcases hplace with rfl | rfl | rfl <;>
      simp only [Place.inner, List.mem_cons, Prod.mk.injEq, List.not_mem_nil, or_false] at hinside
    · rcases hinside with ⟨htype, -⟩ | ⟨htype, -⟩ <;> simp [Head.ownText, Head.isOpen, htype]
    · simp [Head.ownText, Head.isOpen, hinside.1]
    · rcases hinside with ⟨htype, -⟩ | ⟨htype, -⟩ <;> simp [Head.ownText, Head.isOpen, htype]
  have hitems : place ≠ .items := by rcases hplace with rfl | rfl | rfl <;> decide
  rw [contents_heads hinside hitems, hempty.1, if_pos hempty.2, String.empty_append]

/-- The text of the nodes for parts of a table, once it is known for what is inside each part. -/
theorem textAll_parts {place : Place} (inside : Place) {elements : List Element}
    {convert : Element → List Node} (h : Element.fitsAll place elements = true)
    (hplace : place = .tableParts ∨ place = .rows ∨ place = .cells)
    (hinner : ∀ entry ∈ place.inner, entry.2 = inside)
    (hconvert : ∀ element : Element, Element.fitsAll inside element.children = true →
      textAll (convert element) = contents (Element.headsAll Head.isOpen element.children)) :
    textAll (elements.flatMap convert) = contents (Element.headsAll Head.isOpen elements) := by
  induction elements with
  | nil => rfl
  | cons element rest ih =>
    obtain ⟨head, children⟩ := element
    obtain ⟨hfirst, hrest⟩ := Element.fitsAll_cons.mp h
    obtain ⟨found, hfound, hchildren, -⟩ := Element.fits_mk hfirst
    obtain rfl : found = inside := hinner _ hfound
    rw [List.flatMap_cons, textAll_append, ih hrest, hconvert (.mk head children) hchildren,
      Element.headsAll, contents_append, contents_heads_part hplace hfound]
    rfl

theorem text_rowNode {row : Element} (h : Element.fitsAll .cells row.children = true) :
    (rowNode row).text = contents (Element.headsAll Head.isOpen row.children) := by
  rw [rowNode, text_parentNode, List.map_eq_flatMap]
  refine textAll_parts .content h (by simp) (by decide) fun cell hcell => ?_
  rw [textAll, textAll, text_parentNode, String.append_empty, textAll_inlineChildren hcell]

theorem text_tableNode {sections : List Element}
    (h : Element.fitsAll .tableParts sections = true) :
    (tableNode sections).text = contents (Element.headsAll Head.isOpen sections) := by
  have htext : (tableNode sections).text =
      textAll (sections.flatMap fun part => part.children.map rowNode) := by simp [tableNode, text]
  rw [htext]
  refine textAll_parts .rows h (by simp) (by decide) fun part hpart => ?_
  rw [List.map_eq_flatMap]
  refine textAll_parts .cells hpart (by simp) (by decide) fun row hrow => ?_
  rw [textAll, textAll, String.append_empty, text_rowNode hrow]

end Markdown

end Quizmark
