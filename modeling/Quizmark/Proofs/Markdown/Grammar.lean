import Quizmark.Markdown.Token

/-!
# How elements nest

A Markdown parser puts each type of element in one kind of place only: blocks into blocks, items
into lists, the parts of a table into each other, and inline elements into the content of headings,
paragraphs and cells.

* `Place.inner`: the types that a place takes, and what each of them is a place for.
* `Element.fits`: an element nests as a parser nests it.
* `Element.forest_induction`: induction over a list of elements, by its first one.
-/

namespace Quizmark.Markdown

/-- A kind of place in a document. -/
inductive Place where
  /-- For blocks. -/
  | blocks
  /-- For the items of a list. -/
  | items
  /-- For the head and the body of a table. -/
  | tableParts
  /-- For the rows of a part of a table. -/
  | rows
  /-- For the cells of a row. -/
  | cells
  /-- For the content of a heading, a paragraph or a cell. -/
  | content
  /-- For what stands in a line. -/
  | inlines
  /-- For nothing. -/
  | nothing
  deriving DecidableEq

/-- The types that a place takes, each with the place that it has inside. -/
def Place.inner : Place → List (String × Place)
  | blocks => [("heading", content), ("paragraph", content), ("bullet_list", items),
      ("ordered_list", items), ("blockquote", blocks), ("container_directive", blocks),
      ("table", tableParts), ("fence", nothing), ("code_block", nothing), ("html_block", nothing),
      ("hr", nothing), ("front_matter", nothing)]
  | items => [("list_item", blocks)]
  | tableParts => [("thead", rows), ("tbody", rows)]
  | rows => [("tr", cells)]
  | cells => [("th", content), ("td", content)]
  | content => [("inline", inlines)]
  | inlines => [("text", nothing), ("text_special", nothing), ("softbreak", nothing),
      ("hardbreak", nothing), ("code_inline", nothing), ("html_inline", nothing),
      ("em", inlines), ("strong", inlines), ("s", inlines), ("link", inlines), ("image", inlines)]
  | nothing => []

/-- The content of a block has inline elements in it. -/
theorem Place.mem_content {type : String} {inside : Place} :
    (type, inside) ∈ content.inner ↔ type = "inline" ∧ inside = inlines := by
  simp [inner]

/-- The items of a list have blocks in them. -/
theorem Place.mem_items {type : String} {inside : Place} :
    (type, inside) ∈ items.inner ↔ type = "list_item" ∧ inside = blocks := by
  simp [inner]

/-- The tags of headings. -/
def headingTags : List String := ["h1", "h2", "h3", "h4", "h5", "h6"]

namespace Element

mutual

/-- The element may stand at a place, and so on inside. -/
def fits (place : Place) : Element → Bool
  | mk head children =>
    match place.inner.lookup head.type with
    | some inside =>
      (head.type != "heading" || headingTags.contains head.tag) && fitsAll inside children
    | none => false
  termination_by structural element => element

/-- The elements may stand at a place, and so on inside. -/
def fitsAll (place : Place) : List Element → Bool
  | [] => true
  | element :: rest => element.fits place && fitsAll place rest
  termination_by structural elements => elements

end

/-- What it takes to fit: a type for the place, and inside what fits there. -/
theorem fits_mk {place : Place} {head : Head} {children : List Element}
    (h : (mk head children).fits place = true) :
    ∃ inside, (head.type, inside) ∈ place.inner ∧ fitsAll inside children = true ∧
      (head.type = "heading" → head.tag ∈ headingTags) := by
  rw [fits] at h
  cases hlookup : place.inner.lookup head.type with
  | none => simp [hlookup] at h
  | some inside =>
    simp only [hlookup, Bool.and_eq_true, Bool.or_eq_true, bne_iff_ne, ne_eq,
      List.contains_iff_mem] at h
    obtain ⟨htag, hinside⟩ := h
    have hmem : (head.type, inside) ∈ place.inner := by
      obtain ⟨before, after, htable, -⟩ := List.lookup_eq_some_iff.mp hlookup
      rw [htable]
      exact List.mem_append_right before List.mem_cons_self
    refine ⟨inside, hmem, hinside, fun hheading => ?_⟩
    rcases htag with hno | htag
    · exact absurd hheading hno
    · exact htag

theorem fitsAll_cons {place : Place} {element : Element} {rest : List Element} :
    fitsAll place (element :: rest) = true ↔
      element.fits place = true ∧ fitsAll place rest = true := by
  rw [fitsAll, Bool.and_eq_true]

theorem fits_of_mem {place : Place} {elements : List Element}
    (h : fitsAll place elements = true) {element : Element} (hmem : element ∈ elements) :
    element.fits place = true := by
  induction elements with
  | nil => cases hmem
  | cons first rest ih =>
    obtain ⟨hfirst, hrest⟩ := fitsAll_cons.mp h
    rcases List.mem_cons.mp hmem with rfl | hmem
    · exact hfirst
    · exact ih hrest hmem

theorem eq_nil_of_fits_nothing {elements : List Element}
    (h : fitsAll .nothing elements = true) : elements = [] := by
  cases elements with
  | nil => rfl
  | cons element rest =>
    obtain ⟨head, children⟩ := element
    obtain ⟨inside, hinside, -⟩ := fits_mk (fitsAll_cons.mp h).1
    exact absurd hinside List.not_mem_nil

/-- Induction over a list of elements, by its first one. -/
theorem forest_induction {motive : List Element → Prop} (nil : motive [])
    (cons : ∀ head children rest, motive children → motive rest →
      motive (mk head children :: rest))
    (elements : List Element) : motive elements := by
  refine Element.rec_1 (motive_1 := fun element => ∀ rest, motive rest → motive (element :: rest))
    (motive_2 := motive) ?_ nil ?_ elements
  · intro head children ih rest hrest
    exact cons head children rest ih hrest
  · intro element rest ih hrest
    exact ih rest hrest

end Element

end Quizmark.Markdown
