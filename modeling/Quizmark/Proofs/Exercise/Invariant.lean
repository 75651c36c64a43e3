import Quizmark.Proofs.Exercise.Stages

/-!
# What a compilation keeps of all nodes

* `Node.IsKept P`: what `P` says of a node does not depend on its data and children or on the cloze
  markers in it, and holds of the nodes that a compilation adds.
* `Root.compile_all`: then a compilation keeps it of all nodes.
-/

namespace Quizmark

/-- A compilation keeps `P`: the passes over the parts do, and the element of the exercise is built
of nodes for which it holds. -/
structure Node.IsKept (P : Node → Prop) : Prop where
  cloze : ∀ node, P node → P (node.edit Cloze.edit)
  ids : ∀ node data children, P node → P ((node.withData data).withChildren children)
  element : ∀ name attributes children, (∀ attr ∈ attributes, attr.extra = []) →
    P (.ofElement name attributes children)
  list : ∀ children, P (.ofKind (.list (some false) (some false)) children)
  item : ∀ children, P (.ofKind (.item (some false) none) children)
  paragraph : ∀ children, P (.ofKind .paragraph children)
  text : ∀ value, P (.ofText .text value)

namespace QuestionSpec

variable {P : Node → Prop} {options : QuestionOptions} {path : String} {root : Root}
  {spec first : QuestionSpec}

/-- All nodes of the parts are as `P` says. -/
structure All (P : Node → Prop) (spec : QuestionSpec) : Prop where
  prompt : Node.All P spec.prompt
  examTip : Node.All P spec.examTip
  choices : Node.All P spec.choices
  explanation : Node.All P spec.explanation

/-- The parts of a question come from the document, so what holds of all its nodes holds of them. -/
theorem WrittenFrom.all (h : WrittenFrom options path root spec)
    (all : Node.All P root.children) : spec.All P := by
  have hunder (title : String) : Node.All P (root.under title) := by
    unfold Root.under
    cases hlast : Section.lastUnder title root.children with
    | none => exact Node.all_nil
    | some nodes => exact all.of_subset (Section.lastUnder_subset hlast)
  constructor
  · rw [h.prompt]
    exact (hunder "Prompt").of_subset (Section.keepBy_subset ..)
  · rw [h.examTip]
    exact (hunder "Prompt").of_subset (Section.keepBy_subset ..)
  · rw [h.choices]
    exact hunder "Options"
  · rw [h.explanation]
    exact hunder "Explanation"

theorem All.cloze (kept : Node.IsKept P) (all : spec.All P) : (spec.edit Cloze.edit).All P :=
  ⟨all.prompt.edit kept.cloze, all.examTip.edit kept.cloze, all.choices.edit kept.cloze,
    all.explanation.edit kept.cloze⟩

theorem IdsFrom.all {shares : Bool} (kept : Node.IsKept P) (h : IdsFrom shares first spec)
    (all : first.All P) : spec.All P := by
  obtain ⟨_, _, _, _, hprompt, htip, hchoices, hexplanation⟩ := h.passes
  exact ⟨hprompt.all kept.ids Node.idStep_withData all.prompt,
    htip.all kept.ids Node.idStep_withData all.examTip,
    hchoices.all kept.ids Node.idStep_withData all.choices,
    hexplanation.all kept.ids Node.idStep_withData all.explanation⟩

/-! ## The exercise -/

theorem all_element (kept : Node.IsKept P) {name : String} {attributes : List Attribute}
    {children : List Node} (hattributes : ∀ attr ∈ attributes, attr.extra = [])
    (all : Node.All P children) : Node.All P [.ofElement name attributes children] :=
  Node.all_branch.mpr ⟨kept.element name attributes children hattributes, all⟩

theorem all_admonition (kept : Node.IsKept P) {kind title : String} {children : List Node}
    (all : Node.All P children) : Node.All P [admonition kind title children] :=
  all_element kept (by simp [Admonition.attributes]) all

theorem all_criteriaList (kept : Node.IsKept P) (criteria : List Section.Criterion) :
    Node.All P [criteriaList criteria] := by
  have hitem (criterion : Section.Criterion) : Node.All P [criterionItem criterion] := by
    have htext := Node.all_literal.mpr
      (kept.text (criterion.description ++ "：" ++ toString criterion.points ++ "点"))
    exact Node.all_branch.mpr ⟨kept.item _, Node.all_branch.mpr ⟨kept.paragraph _, htext⟩⟩
  exact Node.all_branch.mpr ⟨kept.list _, Node.all_map.mpr fun criterion _ => hitem criterion⟩

theorem extra_exerciseAttributes : ∀ attr ∈ spec.exerciseAttributes, attr.extra = [] := by
  unfold exerciseAttributes
  split <;> simp

/-- Putting the exercise together keeps it: what is new is an element, a list of criteria or a text.
-/
theorem All.exercise (kept : Node.IsKept P) (all : spec.All P) :
    Node.All P [spec.exercise options] := by
  have htip : Node.All P (spec.examTipPart options) := by
    unfold examTipPart
    split
    · exact Node.all_nil
    · exact all_admonition kept all.examTip
  have hscoring : Node.All P (spec.scoringPart options) := by
    unfold scoringPart
    split
    · exact Node.all_nil
    · exact all_admonition kept (all_criteriaList kept _)
  have hsolution : Node.All P [.ofElement "Solution" [] spec.explanation] :=
    all_element kept (by simp) all.explanation
  refine all_element kept extra_exerciseAttributes ?_
  simp only [Node.all_append]
  exact ⟨⟨⟨⟨all.prompt, all.choices⟩, htip⟩, hscoring⟩, hsolution⟩

end QuestionSpec

/-- The root keeps what it is beside its children. -/
theorem Root.all_toNode {P : Node → Prop} {root : Root} (kept : Node.IsKept P)
    (all : Node.All P [root.toNode]) {children : List Node} (hchildren : Node.All P children) :
    Node.All P [{ root with children := children }.toNode] := by
  have hroot : P root.toNode := (Node.all_branch.mp all).1
  exact Node.all_branch.mpr ⟨kept.ids root.toNode root.data children hroot, hchildren⟩

/-- **A compilation keeps what its stages keep.** -/
theorem Root.compile_all {P : Node → Prop} {options : QuestionOptions} {path : String}
    {root result : Root} (kept : Node.IsKept P) (all : Node.All P [root.toNode])
    (h : root.compile options path = .ok result) : Node.All P [result.toNode] := by
  cases hadmits : options.admits path with
  | false =>
    unfold compile compile? at h
    simp only [hadmits, Bool.false_eq_true, if_false] at h
    cases h
    exact all
  | true =>
    obtain ⟨spec, hspec, rfl⟩ := compile_ok hadmits h
    obtain ⟨first, hfirst, hids⟩ := QuestionSpec.ofRoot_ok hspec
    have hall := hfirst.all (Node.all_branch.mp all).2
    refine all_toNode kept all ((hids.all kept ?_).exercise kept)
    split
    · exact hall.cloze kept
    · exact hall

end Quizmark
