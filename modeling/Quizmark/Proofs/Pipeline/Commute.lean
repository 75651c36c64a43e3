import Quizmark.Pipeline
import Quizmark.Proofs.Admonition
import Quizmark.Proofs.Exercise.Invariant

/-!
# Admonitions and exercises

The pipeline rewrites admonitions and then compiles the document. The order does not matter, as long
as no literal has loose children.

* `written_admonition`, `withCloze_admonition`, `withIds_admonition`, `exercise_admonition`: each
  stage of a compilation commutes with the edit of admonitions, also where it fails.
* `compile_admonition`: so does the compilation.
* `process_eq_compile_rewrite`: the pipeline gives what compiling and then rewriting gives.
-/

namespace Quizmark

/-- The document with an edit of its nodes. -/
def Root.edit (e : Edit) (root : Root) : Root :=
  { root with children := root.children.map (Node.edit e) }

namespace QuestionSpec

variable (options : QuestionOptions) (path : String) (root : Root) (spec : QuestionSpec)

/-! ## Reading the document -/

/-- The rewriter keeps the title, and what follows it is rewritten. -/
theorem titleOf_admonition :
    titleOf path (root.edit Admonition.edit) =
      (titleOf path root).map fun read => (read.1, read.2.map (Node.edit Admonition.edit)) := by
  unfold titleOf Root.edit
  cases root.children with
  | nil => rfl
  | cons first body =>
    simp only [List.map_cons, Node.isFrontmatter_admonition, Node.isHeadingAt_admonition,
      Node.title_admonition]
    split
    · rfl
    split
    · rfl
    split <;> rfl

/-- Sections are rewritten one by one, because headings stay. -/
theorem get_partition_admonition (body : List Node) (title : String) :
    Section.get (Section.partition (body.map (Node.edit Admonition.edit))) title =
      (Section.get (Section.partition body) title).map (Node.edit Admonition.edit) := by
  rw [Section.get_partition, Section.get_partition,
    Section.lastUnder_map Node.isHeadingAt_admonition Node.title_admonition]
  cases Section.lastUnder title body <;> rfl

theorem typeOf_admonition (body : List Node) :
    typeOf path (Section.partition (body.map (Node.edit Admonition.edit))) =
      typeOf path (Section.partition body) := by
  rw [typeOf, typeOf, get_partition_admonition, Node.nodesText_admonition]

theorem promptOf_admonition (body : List Node) :
    promptOf path (Section.partition (body.map (Node.edit Admonition.edit))) =
      (promptOf path (Section.partition body)).map (List.map (Node.edit Admonition.edit)) := by
  rw [promptOf, promptOf, get_partition_admonition]
  cases Section.get (Section.partition body) "Prompt" <;> rfl

/-- Splitting a tip off looks at headings alone. -/
theorem splitTip_admonition (markers : List String) (nodes : List Node) :
    Section.splitTip markers (nodes.map (Node.edit Admonition.edit)) =
      ⟨(Section.splitTip markers nodes).rest.map (Node.edit Admonition.edit),
        (Section.splitTip markers nodes).tip.map (Node.edit Admonition.edit)⟩ := by
  rw [Section.splitTip_eq, Section.splitTip_eq,
    Section.restNodes_map Node.isHeadingAt_admonition Node.title_admonition,
    Section.tipNodes_map Node.isHeadingAt_admonition Node.title_admonition]

/-- The first stage goes with the rewriter, errors included. -/
theorem written_admonition :
    written options path (root.edit Admonition.edit) =
      (written options path root).map (edit Admonition.edit) := by
  unfold written
  dsimp only
  rw [titleOf_admonition]
  -- The stages fail alike, so they are compared in the order in which they may fail.
  cases titleOf (DocPath.normalize path) root with
  | error fault => rfl
  | ok read =>
    obtain ⟨title, body⟩ := read
    simp only [Except.map, bind, Except.bind, typeOf_admonition, promptOf_admonition]
    cases typeOf (DocPath.normalize path) (Section.partition body) with
    | error fault => rfl
    | ok type =>
      cases promptOf (DocPath.normalize path) (Section.partition body) with
      | error fault => rfl
      | ok prompt =>
        simp only [Section.scoring, get_partition_admonition,
          Node.nodesText_admonition, splitTip_admonition]
        cases Section.criteria
            (Text.lines (nodesText (Section.get (Section.partition body) "Scoring")).toList) with
        | error fault => rfl
        | ok criteria => rfl

/-! ## The passes -/

theorem clozeStep_admonition (u : Unit) (node : Node) :
    Node.clozeStep u (node.edit Admonition.edit) =
      (Node.clozeStep u node).map (Node.edit Admonition.edit) := by
  cases node with
  | other type data value children extra => cases children <;> rfl
  | _ => rfl

theorem cloze_admonition (nodes : List Node) :
    finished (Node.cloze (nodes.map (Node.edit Admonition.edit))) =
      (finished (Node.cloze nodes)).map (List.map (Node.edit Admonition.edit)) := by
  rw [Node.cloze, Node.visitAll_edit clozeStep_admonition, finished_map]
  rfl

/-- The cloze pass goes with it, because it changes only texts. -/
theorem withCloze_admonition :
    (spec.edit Admonition.edit).withCloze = spec.withCloze.map (edit Admonition.edit) := by
  unfold withCloze
  simp only [edit, cloze_admonition]
  cases finished (Node.cloze spec.prompt) with
  | error fault => rfl
  | ok prompt =>
    cases finished (Node.cloze spec.examTip) with
    | error fault => rfl
    | ok tip =>
      cases finished (Node.cloze spec.choices) with
      | error fault => rfl
      | ok choices => cases finished (Node.cloze spec.explanation) <;> rfl

theorem assignIds_admonition (idPrefix : String) (c : HeadingId.Counter) (nodes : List Node) :
    Node.assignIds idPrefix c (nodes.map (Node.edit Admonition.edit)) =
      (Node.assignIds idPrefix c nodes).map (List.map (Node.edit Admonition.edit)) := by
  refine Node.assignIds_edit Node.takesId_admonition (fun node => ?_) c nodes
  rw [Node.baseId, Node.baseId, Node.title_admonition]

/-- Giving ids goes with it, because it changes only data of headings. -/
theorem withIds_admonition (shares : Bool) :
    (spec.edit Admonition.edit).withIds shares =
      (spec.withIds shares).map (edit Admonition.edit) := by
  unfold withIds
  simp only [edit, assignIds_admonition, finished_map, Outcome.map_state]
  generalize Node.assignIds spec.idPrefix [] spec.prompt = prompt
  cases finished prompt with
  | error fault => rfl
  | ok promptNodes =>
    generalize Node.assignIds spec.idPrefix (nextCounter shares prompt.state) spec.examTip = tip
    cases finished tip with
    | error fault => rfl
    | ok tipNodes =>
      generalize Node.assignIds spec.idPrefix (nextCounter shares tip.state) spec.choices = choices
      cases finished choices with
      | error fault => rfl
      | ok choiceNodes =>
        cases finished (Node.assignIds spec.idPrefix (nextCounter shares choices.state)
          spec.explanation) <;> rfl

theorem ofRoot_admonition :
    ofRoot options path (root.edit Admonition.edit) =
      (ofRoot options path root).map (edit Admonition.edit) := by
  unfold ofRoot
  rw [written_admonition]
  cases written options path root with
  | error fault => rfl
  | ok first =>
    simp only [Except.map, bind, Except.bind]
    have hcloze : (edit Admonition.edit first).isCloze = first.isCloze := rfl
    rw [hcloze, withCloze_admonition]
    cases first.isCloze with
    | false => exact withIds_admonition first _
    | true =>
      simp only [if_true]
      cases first.withCloze with
      | error fault => rfl
      | ok second => exact withIds_admonition second _

/-! ## The exercise -/

theorem ofElement_admonition (name : String) (attributes : List Attribute)
    (children : List Node) :
    (Node.ofElement name attributes children).edit Admonition.edit =
      .ofElement name attributes (children.map (Node.edit Admonition.edit)) := by
  rw [Node.ofElement, Node.ofKind, Node.edit, Node.editAll_eq_map]
  rfl

theorem criteriaList_admonition (criteria : List Section.Criterion) :
    (criteriaList criteria).edit Admonition.edit = criteriaList criteria := by
  have hitems : (criteria.map criterionItem).map (Node.edit Admonition.edit) =
      criteria.map criterionItem := by
    rw [List.map_map]
    rfl
  rw [criteriaList, Node.ofKind, Node.edit, Node.editAll_eq_map, hitems]
  rfl

/-- The exercise itself is an element already, and so is a tip in it: only the parts are rewritten.
-/
theorem exercise_admonition :
    (spec.edit Admonition.edit).exercise options =
      (spec.exercise options).edit Admonition.edit := by
  have htip : (spec.edit Admonition.edit).examTipPart options =
      (spec.examTipPart options).map (Node.edit Admonition.edit) := by
    simp only [examTipPart, edit, List.isEmpty_map]
    split
    · rfl
    · rw [admonition, admonition, List.map_singleton, ofElement_admonition]
  have hscoring : (spec.scoringPart options).map (Node.edit Admonition.edit) =
      spec.scoringPart options := by
    unfold scoringPart
    split
    · rfl
    · rw [List.map_singleton, admonition, ofElement_admonition, List.map_singleton,
        criteriaList_admonition]
  rw [exercise, exercise, htip, ofElement_admonition]
  simp only [List.map_append, List.map_singleton, hscoring, ofElement_admonition]
  rfl

end QuestionSpec

/-! ## The compilation -/

variable {options : QuestionOptions} {path : String} {root : Root}

/-- Compiling a rewritten document is rewriting the compiled one. -/
theorem Root.compile_admonition :
    (root.edit Admonition.edit).compile options path =
      (root.compile options path).map (Root.edit Admonition.edit) := by
  unfold compile compile?
  split
  · rw [QuestionSpec.ofRoot_admonition]
    cases QuestionSpec.ofRoot options path root with
    | error fault => rfl
    | ok spec =>
      simp only [Except.map, bind, Except.bind, pure, Except.pure, Option.getD_some, withExercise,
        QuestionSpec.exercise_admonition]
      rfl
  · rfl

/-! ## Compiled documents are plain -/

theorem Node.isKept_isPlain : Node.IsKept Node.IsPlain where
  cloze node hnode := by
    cases node with
    | other type data value children extra => cases children <;> trivial
    | _ => exact hnode
  ids node data children hnode := by cases node <;> exact hnode
  element _ _ _ _ := trivial
  list _ := trivial
  item _ := trivial
  paragraph _ := trivial
  text _ := rfl

namespace Root

theorem compile_plain {result : Root} (plain : Node.Plain root.children)
    (h : root.compile options path = .ok result) : Node.Plain result.children :=
  Node.plain_branch.mp (compile_all Node.isKept_isPlain (Node.plain_branch.mpr plain) h)

/-! ## The pipeline -/

theorem rewriteAdmonitions_plain (plain : Node.Plain root.children) :
    root.rewriteAdmonitions = .ok (root.edit Admonition.edit) := by
  rw [rewriteAdmonitions, Node.rewriteAll_plain plain]
  rfl

/-- Logging changes no result. -/
theorem compileLogged_result :
    (root.compileLogged options path).result = root.compile options path := by
  unfold compileLogged compile compile?
  split
  · cases QuestionSpec.ofRoot options path root <;> rfl
  · rfl

theorem finishLogged_result (pipeline : PipelineOptions) :
    (root.finishLogged pipeline path).result = root.compile pipeline.question path := by
  rw [← compileLogged_result]
  unfold finishLogged
  dsimp only
  cases (root.compileLogged pipeline.question path).result <;> rfl

theorem compile_normalize :
    root.compile options (DocPath.normalize path) = root.compile options path := by
  simp only [compile, compile?, QuestionSpec.ofRoot, QuestionSpec.written,
    QuestionOptions.admits_normalize, DocPath.normalize_normalize, DocPath.idPrefix_normalize]

/-- The pipeline is the rewriting of admonitions and then the compilation. -/
theorem process_eq :
    root.process ⟨true, options⟩ path =
      root.rewriteAdmonitions >>= fun rewritten => rewritten.compile options path := by
  unfold process processLogged
  cases root.rewriteAdmonitions with
  | error fault => rfl
  | ok rewritten =>
    simp only [if_true, finishLogged_result, compile_normalize]
    rfl

theorem process_eq_compile :
    root.process ⟨false, options⟩ path = root.compile options path := by
  rw [← compile_normalize, process, processLogged]
  exact finishLogged_result ⟨false, options⟩

/-- **The two passes commute**, for documents without loose children. -/
theorem process_eq_compile_rewrite (plain : Node.Plain root.children) :
    root.process ⟨true, options⟩ path =
      (root.rewriteAdmonitions >>= fun rewritten => rewritten.compile options path) ∧
    (root.rewriteAdmonitions >>= fun rewritten => rewritten.compile options path) =
      (root.compile options path >>= fun compiled => compiled.rewriteAdmonitions) := by
  refine ⟨process_eq, ?_⟩
  rw [rewriteAdmonitions_plain plain]
  change (root.edit Admonition.edit).compile options path = _
  rw [compile_admonition]
  cases hcompile : root.compile options path with
  | error fault => rfl
  | ok compiled => exact (rewriteAdmonitions_plain (compile_plain plain hcompile)).symm

/-- A cloze whose prompt holds an admonition with a heading and a marker in it. -/
def tides : Root where
  children := [
    .ofTitle 1 "Tides",
    .ofTitle 2 "Type",
    .ofText .text "cloze",
    .ofTitle 2 "Prompt",
    .ofKind (.directive "tip" (some "Moon") none) [
      .ofTitle 3 "Cause",
      .ofText .text "The \x7b\x7bMoon\x7d\x7d pulls."]]

theorem process_eq_compile_rewrite_tides :
    Node.Plain tides.children ∧
      (tides.process ⟨true, {}⟩ "tides.qspec.md").toBool = true ∧
      tides.process ⟨true, {}⟩ "tides.qspec.md" =
        (tides.compile {} "tides.qspec.md" >>= fun compiled => compiled.rewriteAdmonitions) := by
  have hplain : Node.Plain tides.children := by
    simp [tides, Node.Plain, Node.inOrderAll, Node.inOrder, Node.IsPlain, Node.ofTitle, Node.ofKind,
      Node.ofText]
  have hboth := @process_eq_compile_rewrite {} "tides.qspec.md" tides hplain
  exact ⟨hplain, by decide +kernel, hboth.1.trans hboth.2⟩

end Root

end Quizmark
