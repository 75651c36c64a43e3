import Mathlib.Data.List.Forall2
import Quizmark.Proofs.Exercise.Stages

/-!
# What a compiled document holds

A compilation takes what stands under the titles of a document and puts it into an exercise. It
loses nothing of it, doubles nothing and changes nothing but cloze markers and the ids of headings.

* `Node.WithIds`: a tree is as another one, with ids on its headings.
* `Carried`: nodes are as those of the document, after one cloze pass if the document is a cloze,
  and with ids on their headings.
* `Root.Conserves`: one document is the other one compiled, with each part carried to its place.
  So it is whenever a compilation succeeds (`compile_conserves`).
-/

namespace Quizmark

namespace Node

open HeadingId

/-! ## Ids and nothing else -/

/-- The second tree is the first with ids on its headings: each heading that takes an id has it in
its data, where it is made of the title of the first; all else is the same. -/
inductive WithIds (idPrefix : String) : Node → Node → Prop where
  | heading {kind : BranchKind} {data : Option Fields} {data' : Fields} {extra : Fields}
      {children children' : List Node} (seen : Nat) :
    (Node.branch kind data children extra).takesId = true →
    withId? (numbered ((Node.branch kind data children extra).baseId idPrefix) seen) data =
      some data' →
    List.Forall₂ (WithIds idPrefix) children children' →
    WithIds idPrefix (.branch kind data children extra) (.branch kind (some data') children' extra)
  | branch {kind : BranchKind} {data : Option Fields} {extra : Fields}
      {children children' : List Node} :
    (Node.branch kind data children extra).takesId = false →
    List.Forall₂ (WithIds idPrefix) children children' →
    WithIds idPrefix (.branch kind data children extra) (.branch kind data children' extra)
  | literal {kind : LiteralKind} {data : Option Fields} {value : String} {extra : Fields} :
    WithIds idPrefix (.literal kind data value extra) (.literal kind data value extra)
  | parent {type : String} {data : Option Fields} {value : Json} {extra : Fields}
      {children children' : List Node} :
    List.Forall₂ (WithIds idPrefix) children children' →
    WithIds idPrefix (.other type data value (some children) extra)
      (.other type data value (some children') extra)
  | leaf {type : String} {data : Option Fields} {value : Json} {extra : Fields} :
    WithIds idPrefix (.other type data value none extra) (.other type data value none extra)

variable {idPrefix : String} {c c' : Counter}

/-- The id pass gives ids and changes nothing else. -/
theorem forall₂_withIds {nodes nodes' : List Node} (hc : c.Natural)
    (h : Passes (idStep idPrefix) c nodes c' nodes') :
    List.Forall₂ (WithIds idPrefix) nodes nodes' := by
  induction h with
  | nil => exact .nil
  | @branch _ _ _ _ kind data extra head children rest children' rest' hstep hch _ ihc ihr =>
    rcases idStep_cases hstep with ⟨hno, rfl, rfl⟩ | ⟨hyes, rfl, data', hdata, rfl⟩
    · exact .cons (.branch hno (ihc hc)) (ihr (hch.natural hc))
    -- The counter is natural, so the heading gets the number of a count.
    · obtain ⟨seen, hseen⟩ := hc ((Node.branch kind data children extra).baseId idPrefix)
      rw [hseen] at hdata
      have hc₁ := hc.addAll [(Node.branch kind data children extra).baseId idPrefix]
      exact .cons (.heading seen hyes hdata (ihc hc₁)) (ihr (hch.natural hc₁))
  | literal hstep _ _ ihr =>
    obtain ⟨rfl, rfl⟩ := idStep_id rfl hstep
    exact .cons .literal (ihr hc)
  | parent hstep hch _ ihc ihr =>
    obtain ⟨rfl, rfl⟩ := idStep_id rfl hstep
    exact .cons (.parent (ihc hc)) (ihr (hch.natural hc))
  | leaf hstep _ ihr =>
    obtain ⟨rfl, rfl⟩ := idStep_id rfl hstep
    exact .cons .leaf (ihr hc)

end Node

/-! ## Carried parts -/

/-- The second nodes are the first as a compiled document holds them. -/
def Carried (idPrefix : String) (isCloze : Bool) (nodes nodes' : List Node) : Prop :=
  List.Forall₂ (Node.WithIds idPrefix)
    (if isCloze then nodes.map (Node.edit Cloze.edit) else nodes) nodes'

theorem Carried.isEmpty_eq {idPrefix : String} {isCloze : Bool} {nodes nodes' : List Node}
    (h : Carried idPrefix isCloze nodes nodes') : nodes'.isEmpty = nodes.isEmpty := by
  have hlength := h.length_eq
  cases isCloze <;> cases nodes <;> cases nodes' <;> simp_all

namespace QuestionSpec

variable {shares : Bool} {first spec : QuestionSpec}

theorem nextCounter_natural {c : HeadingId.Counter} (hc : c.Natural) :
    (nextCounter shares c).Natural := by
  cases shares with
  | true => exact hc
  | false => exact .nil

theorem ite_edit (e : Edit) (b : Bool) (spec : QuestionSpec) :
    (if b then spec.edit e else spec) = { spec with
      prompt := if b then spec.prompt.map (Node.edit e) else spec.prompt
      examTip := if b then spec.examTip.map (Node.edit e) else spec.examTip
      choices := if b then spec.choices.map (Node.edit e) else spec.choices
      explanation := if b then spec.explanation.map (Node.edit e) else spec.explanation } := by
  cases b <;> rfl

/-- The passes carry each part to its place and leave all else as it is written. -/
theorem carried_of_idsFrom
    (h : IdsFrom shares (if first.isCloze then first.edit Cloze.edit else first) spec) :
    Carried first.idPrefix first.isCloze first.prompt spec.prompt ∧
      Carried first.idPrefix first.isCloze first.examTip spec.examTip ∧
      Carried first.idPrefix first.isCloze first.choices spec.choices ∧
      Carried first.idPrefix first.isCloze first.explanation spec.explanation ∧
      spec.title = first.title ∧ spec.isCloze = first.isCloze ∧ spec.scoring = first.scoring := by
  rw [ite_edit] at h
  obtain ⟨c₁, c₂, c₃, c₄, hprompt, htip, hchoices, hexplanation⟩ := h.passes
  have hc₁ : (nextCounter shares c₁).Natural := nextCounter_natural (hprompt.natural .nil)
  have hc₂ : (nextCounter shares c₂).Natural := nextCounter_natural (htip.natural hc₁)
  have hc₃ : (nextCounter shares c₃).Natural := nextCounter_natural (hchoices.natural hc₂)
  exact ⟨Node.forall₂_withIds .nil hprompt, Node.forall₂_withIds hc₁ htip,
    Node.forall₂_withIds hc₂ hchoices, Node.forall₂_withIds hc₃ hexplanation, h.title, h.isCloze,
    h.scoring⟩

end QuestionSpec

/-! ## The compiled document -/

namespace Root

/-- The second document is the first with one exercise in the place of its children. The exercise
holds the prompt without its exam tip, the options, the exam tip if there is one, the scoring
criteria if there are any, and the explanation. -/
def Conserves (options : QuestionOptions) (path : String) (root result : Root) : Prop :=
  let isCloze := QuestionSpec.isClozeType (Text.trimmed (nodesText (root.under "Type")))
  let carried := Carried (DocPath.idPrefix path options.specSuffix) isCloze
  let rest := Section.restNodes options.examMarkers (root.under "Prompt")
  let tip := Section.tipNodes options.examMarkers (root.under "Prompt")
  ∃ title prompt choices tip' criteria explanation,
    root.children.head?.map Node.title = some title ∧
    carried rest prompt ∧
    carried (root.under "Options") choices ∧
    carried tip tip' ∧
    Section.scoring (root.under "Scoring") = .ok criteria ∧
    carried (root.under "Explanation") explanation ∧
    result = { root with
      children := [.ofElement "Exercise"
        (⟨"title", some title, []⟩ :: if isCloze then [⟨"enableBlanks", none, []⟩] else [])
        (prompt ++ choices ++
          (if tip.isEmpty then [] else
            [.ofElement "Admonition"
              [⟨"type", some "tip", []⟩, ⟨"title", some options.examTipTitle, []⟩] tip']) ++
          (if criteria.isEmpty then [] else
            [.ofElement "Admonition"
              [⟨"type", some "info", []⟩, ⟨"title", some options.scoringTitle, []⟩]
              [.ofKind (.list (some false) (some false)) (criteria.map fun criterion =>
                .ofKind (.item (some false) none)
                  [.ofKind .paragraph [.ofText .text
                    (criterion.description ++ "：" ++ toString criterion.points ++ "点")]])]]) ++
          [.ofElement "Solution" [] explanation])] }

/-- **Compiling conserves content.** -/
theorem compile_conserves {options : QuestionOptions} {path : String} {root result : Root}
    (admitted : options.admits path = true) (h : root.compile options path = .ok result) :
    root.Conserves options path result := by
  obtain ⟨spec, hspec, rfl⟩ := compile_ok admitted h
  obtain ⟨first, hfirst, hids⟩ := QuestionSpec.ofRoot_ok hspec
  obtain ⟨hprompt, htip, hchoices, hexplanation, htitle, hcloze, hscoring⟩ :=
    QuestionSpec.carried_of_idsFrom hids
  rw [hfirst.isCloze, hfirst.idPrefix] at hprompt htip hchoices hexplanation
  rw [hfirst.prompt] at hprompt
  rw [hfirst.examTip] at htip
  rw [hfirst.choices] at hchoices
  rw [hfirst.explanation] at hexplanation
  obtain ⟨head, hhead, hfirstTitle⟩ := hfirst.title
  refine ⟨head.title, spec.prompt, spec.choices, spec.examTip, spec.scoring, spec.explanation,
    ?_, hprompt, hchoices, htip, hscoring ▸ hfirst.scoring, hexplanation, ?_⟩
  · rw [Option.mem_def.mp hhead]
    rfl
  · rw [← htip.isEmpty_eq, ← hfirst.isCloze, ← hcloze]
    rw [hfirstTitle] at htitle
    simp only [withExercise, QuestionSpec.exercise, QuestionSpec.exerciseAttributes,
      QuestionSpec.examTipPart, QuestionSpec.scoringPart, QuestionSpec.admonition, htitle]
    rfl

/-- A cloze with a prompt that is started over, an exam tip and a repeated heading. -/
def rivers : Root where
  children := [
    .ofTitle 1 "Rivers",
    .ofTitle 2 "Type",
    .ofText .text "cloze",
    .ofTitle 2 "Prompt",
    .ofText .text "To be written.",
    .ofTitle 2 "Prompt",
    .ofText .text "The \x7b\x7bNile\x7d\x7d is long.",
    .ofTitle 3 "Exam",
    .ofText .text "Read it twice.",
    .ofTitle 3 "Hint",
    .ofText .text "Think of Africa.",
    .ofTitle 2 "Scoring",
    .ofText .text "5: the name",
    .ofTitle 2 "Explanation",
    .ofTitle 3 "Hint"]

theorem compile_conserves_rivers :
    ∃ result, rivers.compile {} "rivers.qspec.md" = .ok result ∧
      rivers.Conserves {} "rivers.qspec.md" result := by
  obtain ⟨result, h⟩ := ok_of_toBool
    (by decide +kernel : (rivers.compile {} "rivers.qspec.md").toBool = true)
  exact ⟨result, h, compile_conserves (by decide +kernel) h⟩

end Root

end Quizmark
