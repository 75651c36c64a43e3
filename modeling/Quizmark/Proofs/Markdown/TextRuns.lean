import Mathlib.Data.List.Chain
import Quizmark.Proofs.Markdown.Checkbox

/-!
# Runs of text

Adjacent texts of a line become one node. A run of text is as long as it can be, so no two texts
stand side by side.

* `Merged`: inline elements and their nodes, run by run. `merged_iff`: these are the nodes that
  `inlineNodes` gives.
* `Node.Apart`: no two of the nodes that stand side by side are texts.
* `all_apart_inlineNodes`: this holds at every level of the nodes for inline elements.
-/

namespace Quizmark

namespace Node

/-- No two texts stand side by side. -/
def Apart (nodes : List Node) : Prop :=
  nodes.IsChain fun first next => ¬ (first.isText = true ∧ next.isText = true)

@[simp] theorem apart_nil : Apart [] := List.isChain_nil

theorem apart_cons {node : Node} {rest : List Node} :
    Apart (node :: rest) ↔
      (∀ next ∈ rest.head?, ¬ (node.isText = true ∧ next.isText = true)) ∧ Apart rest :=
  List.isChain_cons

/-- Nodes without texts among them. -/
theorem apart_of_no_text {nodes : List Node} (h : ∀ node ∈ nodes, node.isText = false) :
    Apart nodes := by
  induction nodes with
  | nil => exact apart_nil
  | cons node rest ih =>
    obtain ⟨hnode, hrest⟩ := List.forall_mem_cons.mp h
    exact apart_cons.mpr ⟨fun next _ htexts => by simp [hnode] at htexts, ih hrest⟩

end Node

namespace Markdown

open Node

/-! ## Inline elements -/

/-- Joining texts leaves none side by side. -/
theorem apart_mergeTexts (nodes : List Node) : Apart (mergeTexts nodes) := by
  fun_induction mergeTexts nodes with
  | case1 => exact apart_nil
  | case2 data value extra rest _ more _ others hmerge ih =>
    -- The joined text stands where the next one stood, so it has the same neighbour.
    rw [hmerge] at ih
    obtain ⟨hfirst, hrest⟩ := apart_cons.mp ih
    exact apart_cons.mpr ⟨fun next hnext htexts => hfirst next hnext ⟨rfl, htexts.2⟩, hrest⟩
  | case3 data value extra rest hno ih =>
    refine apart_cons.mpr ⟨?_, ih⟩
    rintro next hnext ⟨-, htext⟩
    obtain ⟨data, value, extra, rfl⟩ := isText_eq_true_iff.mp htext
    obtain ⟨others, hothers⟩ := List.head?_eq_some_iff.mp hnext
    exact hno _ _ _ _ hothers
  | case4 node rest hno ih =>
    refine apart_cons.mpr ⟨?_, ih⟩
    rintro next - ⟨htext, -⟩
    obtain ⟨data, value, extra, rfl⟩ := isText_eq_true_iff.mp htext
    exact hno _ _ _ rfl

/-- Joining texts touches only texts. -/
theorem filter_mergeTexts (nodes : List Node) :
    (mergeTexts nodes).filter (fun node => !node.isText) =
      nodes.filter fun node => !node.isText := by
  fun_induction mergeTexts nodes with
  | case1 => rfl
  | case2 data value extra rest _ more _ others hmerge ih =>
    rw [hmerge] at ih
    simpa [Node.isText] using ih
  | case3 data value extra rest hno ih => simpa [Node.isText] using ih
  | case4 node rest hno ih => rw [List.filter_cons, List.filter_cons, ih]

theorem convertInlines_eq_map (elements : List Element) :
    convertInlines elements = elements.map convertInline := by
  induction elements with
  | nil => rfl
  | cons element rest ih => rw [convertInlines, ih, List.map_cons]

theorem isText_convertInline (element : Element) :
    (convertInline element).isText = element.head.isText := by
  obtain ⟨head, children⟩ := element
  exact isText_inlineNode head _

/-- The nodes that are no texts are those of the elements that are none. -/
theorem filter_inlineNodes (elements : List Element) :
    (inlineNodes elements).filter (fun node => !node.isText) =
      (elements.filter fun element => !element.head.isText).map convertInline := by
  rw [inlineNodes, filter_mergeTexts, convertInlines_eq_map, List.filter_map]
  simp only [Function.comp_def, isText_convertInline]

/-! ## Run by run -/

/-- Inline elements and nodes for them. Each run of text, which goes on as far as it can, has one
text with all that it says; each other element has a node of its own. -/
inductive Merged : List Element → List Node → Prop where
  | nil : Merged [] []
  | single {element : Element} {rest : List Element} {nodes : List Node} :
    element.head.isText = false → Merged rest nodes →
    Merged (element :: rest) (convertInline element :: nodes)
  | run {run rest : List Element} {nodes : List Node} : run ≠ [] →
    (∀ element ∈ run, element.head.isText = true) →
    (∀ element ∈ rest.head?, element.head.isText = false) → Merged rest nodes →
    Merged (run ++ rest) (.ofText .text (contents (run.map Element.head)) :: nodes)

theorem inlineNodes_cons_of_not_text {element : Element} (h : element.head.isText = false)
    (rest : List Element) :
    inlineNodes (element :: rest) = convertInline element :: inlineNodes rest := by
  obtain ⟨head, children⟩ := element
  exact mergeTexts_cons_of_ne (inlineNode_ne_of_not_text h _) (convertInlines rest)

theorem inlineNodes_cons_of_text {element : Element} (h : element.head.isText = true)
    (rest : List Element) :
    inlineNodes (element :: rest) =
      mergeTexts (.ofText .text element.head.ownText :: convertInlines rest) := by
  obtain ⟨head, children⟩ := element
  have hnode := inlineNode_eq_ofText h (mergeTexts (convertInlines children))
  rw [inlineNodes, convertInlines, convertInline]
  exact congrArg (fun node => mergeTexts (node :: convertInlines rest)) hnode

/-- A text in front of a text is joined with it. -/
theorem inlineNodes_cons_joined {element : Element} (h : element.head.isText = true)
    {rest : List Element} {more : String} {others : List Node}
    (hrest : inlineNodes rest = .ofText .text more :: others) :
    inlineNodes (element :: rest) = .ofText .text (element.head.ownText ++ more) :: others := by
  rw [inlineNodes_cons_of_text h, ofText, mergeTexts, ← inlineNodes, hrest]
  rfl

/-- A text in front of something else stands by itself. -/
theorem inlineNodes_cons_alone {element : Element} (h : element.head.isText = true)
    {rest : List Element} (hrest : ∀ next ∈ rest.head?, next.head.isText = false) :
    inlineNodes (element :: rest) = .ofText .text element.head.ownText :: inlineNodes rest := by
  rw [inlineNodes_cons_of_text h, ofText, mergeTexts, ← inlineNodes]
  cases rest with
  | nil => rfl
  | cons next rest =>
    rw [inlineNodes_cons_of_not_text (hrest next rfl)]
    split
    next heq =>
      have htext := isText_convertInline next
      rw [(List.cons.inj heq).1, hrest next rfl] at htext
      cases htext
    next => rfl

/-- A whole run of texts becomes one node. -/
theorem inlineNodes_run {run rest : List Element} (hne : run ≠ [])
    (hrun : ∀ element ∈ run, element.head.isText = true)
    (hrest : ∀ element ∈ rest.head?, element.head.isText = false) :
    inlineNodes (run ++ rest) =
      .ofText .text (contents (run.map Element.head)) :: inlineNodes rest := by
  induction run with
  | nil => exact absurd rfl hne
  | cons element run ih =>
    obtain ⟨helement, hrun⟩ := List.forall_mem_cons.mp hrun
    rw [List.cons_append, List.map_cons, contents]
    cases run with
    | nil =>
      rw [List.nil_append, inlineNodes_cons_alone helement hrest, List.map_nil, contents,
        String.append_empty]
    | cons next run =>
      exact inlineNodes_cons_joined helement (ih (List.cons_ne_nil next run) hrun)

theorem Merged.eq {elements : List Element} {nodes : List Node} (h : Merged elements nodes) :
    nodes = inlineNodes elements := by
  induction h with
  | nil => rfl
  | single helement _ ih => rw [inlineNodes_cons_of_not_text helement, ih]
  | run hne hrun hrest _ ih => rw [inlineNodes_run hne hrun hrest, ih]

/-- A text before merged elements begins a run, or goes in front of the run they begin with. -/
theorem Merged.cons_text {element : Element} (helement : element.head.isText = true)
    {elements : List Element} {nodes : List Node} (h : Merged elements nodes) :
    ∃ more, Merged (element :: elements) more := by
  have halone : ∀ other ∈ [element], other.head.isText = true := by simpa using helement
  cases h with
  | nil => exact ⟨_, .run (List.cons_ne_nil element []) halone (by simp) .nil⟩
  | @single first rest nodes hfirst hrest =>
    have hends : ∀ other ∈ (first :: rest).head?, other.head.isText = false := by
      simpa using hfirst
    exact ⟨_, .run (List.cons_ne_nil element []) halone hends (.single hfirst hrest)⟩
  | @run run rest nodes hne hrun hends hrest =>
    exact ⟨_, .run (List.cons_ne_nil element run) (List.forall_mem_cons.mpr ⟨helement, hrun⟩) hends
      hrest⟩

/-- Every list of elements falls into runs of texts and other elements. -/
theorem exists_merged (elements : List Element) : ∃ nodes, Merged elements nodes := by
  induction elements with
  | nil => exact ⟨[], .nil⟩
  | cons element rest ih =>
    obtain ⟨nodes, hrest⟩ := ih
    cases helement : element.head.isText with
    | true => exact hrest.cons_text helement
    | false => exact ⟨_, .single helement hrest⟩

/-- **The nodes for inline elements are those of their runs.** -/
theorem merged_iff {elements : List Element} {nodes : List Node} :
    Merged elements nodes ↔ nodes = inlineNodes elements := by
  constructor
  · exact Merged.eq
  · rintro rfl
    obtain ⟨nodes, hmerged⟩ := exists_merged elements
    exact hmerged.eq ▸ hmerged

/-! ## At every level -/

/-- What is inside an inline element was joined before. -/
theorem all_apart_inlineNode {head : Head} {nodes : List Node} (hapart : Apart nodes)
    (all : All (fun node => Apart node.children) nodes) :
    All (fun node => Apart node.children) [inlineNode head nodes] := by
  unfold inlineNode
  split
  case h_1 | h_2 | h_3 | h_5 => exact all_literal.mpr apart_nil
  case h_6 | h_7 | h_8 | h_9 => exact all_parent.mpr ⟨hapart, all⟩
  case h_4 | h_10 | h_11 | h_12 => exact all_leaf.mpr apart_nil

theorem all_apart_mergeTexts {nodes : List Node}
    (all : All (fun node => Apart node.children) nodes) :
    All (fun node => Apart node.children) (mergeTexts nodes) :=
  all_mergeTexts (fun _ _ _ _ _ => apart_nil) all

/-- No two texts stand side by side inside the nodes for inline elements. -/
theorem all_apart_convertInlines (elements : List Element) :
    All (fun node => Apart node.children) (convertInlines elements) := by
  induction elements using Element.forest_induction with
  | nil => exact all_nil
  | cons head children rest ihc ihr =>
    exact all_cons.mpr
      ⟨all_apart_inlineNode (apart_mergeTexts _) (all_apart_mergeTexts ihc), ihr⟩

theorem all_apart_inlineNodes (elements : List Element) :
    All (fun node => Apart node.children) (inlineNodes elements) :=
  all_apart_mergeTexts (all_apart_convertInlines elements)

end Markdown

end Quizmark
