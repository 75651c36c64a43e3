import Quizmark.Proofs.Cloze.Tree
import Quizmark.Proofs.Error
import Quizmark.Proofs.Exercise.Shape
import Quizmark.Proofs.HeadingId.Walk

/-!
# The stages of a compilation

A compilation that succeeds went through three stages. For each there is one lemma that says all it
did, so that no proof about compiled documents opens the stages again.

* `written_ok`: the parts of the document as they are written, in terms of what stands under its
  titles (`Root.under`).
* `withCloze_ok`: the cloze pass over the parts.
* `withIds_ok`: the id pass over the parts, one after the other.
* `compile_ok`: the exercise takes the place of the document's children.

A pass over the parts that fails is stopped by a node of them: `withCloze_error_iff` and
`withIds_error_iff` say by which one, and `passed_error_iff` for both passes together.
-/

namespace Quizmark

namespace QuestionSpec

variable {options : QuestionOptions} {path : String} {root : Root} {spec spec' : QuestionSpec}

/-! ## The parts as they are written -/

/-- What the parts of a document are as they are written. -/
structure WrittenFrom (options : QuestionOptions) (path : String) (root : Root)
    (spec : QuestionSpec) : Prop where
  title : ∃ first ∈ root.children.head?, spec.title = some first.title
  isCloze : spec.isCloze = isClozeType (Text.trimmed (nodesText (root.under "Type")))
  idPrefix : spec.idPrefix = DocPath.idPrefix path options.specSuffix
  prompt : spec.prompt = Section.restNodes options.examMarkers (root.under "Prompt")
  examTip : spec.examTip = Section.tipNodes options.examMarkers (root.under "Prompt")
  choices : spec.choices = root.under "Options"
  explanation : spec.explanation = root.under "Explanation"
  scoring : Section.scoring (root.under "Scoring") = .ok spec.scoring

/-- The first stage: what the parts of a question are if the document has no flaw. -/
theorem written_ok (h : written options path root = .ok spec) :
    WrittenFrom options path root spec := by
  rw [written_eq] at h
  cases hflaw : root.flaw? with
  | some flaw => simp [hflaw] at h
  | none =>
    obtain ⟨first, hfirst⟩ := Root.exists_head?_of_flaw? hflaw
    cases hscoring : Section.scoring (root.under "Scoring") with
    | error fault => simp [hflaw, hscoring, Except.map] at h
    | ok criteria =>
      simp only [hflaw, hscoring, Except.map, Except.ok.injEq] at h
      subst h
      exact {
        title := ⟨first, hfirst, by simp [Root.parts, hfirst]⟩
        isCloze := rfl
        idPrefix := rfl
        prompt := rfl
        examTip := rfl
        choices := rfl
        explanation := rfl
        scoring := hscoring }

/-! ## The passes over the parts -/

theorem finished_ok {σ α : Type} {outcome : Outcome σ α} {value : α}
    (h : finished outcome = .ok value) : outcome.fault = none ∧ outcome.value = value := by
  unfold finished at h
  split at h
  · cases h
  · rename_i hfault
    cases h
    exact ⟨hfault, rfl⟩

theorem finished_of_fault {σ α : Type} {outcome : Outcome σ α} (h : outcome.fault = none) :
    finished outcome = .ok outcome.value := by
  rw [finished, h]

theorem finished_map {σ α β : Type} (f : α → β) (outcome : Outcome σ α) :
    finished (outcome.map f) = (finished outcome).map f := by
  unfold finished
  rw [Outcome.map_fault]
  cases outcome.fault <;> rfl

/-- The parts with an edit of their nodes. -/
def edit (e : Edit) (spec : QuestionSpec) : QuestionSpec :=
  { spec with
    prompt := spec.prompt.map (Node.edit e)
    examTip := spec.examTip.map (Node.edit e)
    choices := spec.choices.map (Node.edit e)
    explanation := spec.explanation.map (Node.edit e) }

/-- The cloze stage edits all parts, if it goes through. -/
theorem withCloze_ok (h : spec.withCloze = .ok spec') : spec' = spec.edit Cloze.edit := by
  unfold withCloze at h
  obtain ⟨prompt, hprompt, h⟩ := bind_ok h
  obtain ⟨tip, htip, h⟩ := bind_ok h
  obtain ⟨choices, hchoices, h⟩ := bind_ok h
  obtain ⟨explanation, hexplanation, h⟩ := bind_ok h
  cases h
  have key {nodes nodes' : List Node} (h : finished (Node.cloze nodes) = .ok nodes') :
      nodes' = nodes.map (Node.edit Cloze.edit) := by
    obtain ⟨hfault, rfl⟩ := finished_ok h
    exact Node.cloze_ok hfault
  rw [key hprompt, key htip, key hchoices, key hexplanation]
  rfl

/-- What the id pass over the parts did: it went through the four parts, each with the counter that
`nextCounter` chooses. -/
structure IdsFrom (shares : Bool) (spec spec' : QuestionSpec) : Prop where
  passes : ∃ c₁ c₂ c₃ c₄ : HeadingId.Counter,
    Node.Passes (Node.idStep spec.idPrefix) [] spec.prompt c₁ spec'.prompt ∧
    Node.Passes (Node.idStep spec.idPrefix) (nextCounter shares c₁) spec.examTip c₂
      spec'.examTip ∧
    Node.Passes (Node.idStep spec.idPrefix) (nextCounter shares c₂) spec.choices c₃
      spec'.choices ∧
    Node.Passes (Node.idStep spec.idPrefix) (nextCounter shares c₃) spec.explanation c₄
      spec'.explanation
  path : spec'.path = spec.path
  title : spec'.title = spec.title
  isCloze : spec'.isCloze = spec.isCloze
  idPrefix : spec'.idPrefix = spec.idPrefix
  scoring : spec'.scoring = spec.scoring

/-- The stage of ids goes through the parts one after the other, each with the counter that the last
one left if they share it. -/
theorem withIds_ok {shares : Bool} (h : spec.withIds shares = .ok spec') :
    IdsFrom shares spec spec' := by
  unfold withIds at h
  obtain ⟨prompt, hprompt, h⟩ := bind_ok h
  obtain ⟨tip, htip, h⟩ := bind_ok h
  obtain ⟨choices, hchoices, h⟩ := bind_ok h
  obtain ⟨explanation, hexplanation, h⟩ := bind_ok h
  cases h
  have key {c : HeadingId.Counter} {nodes nodes' : List Node}
      (h : finished (Node.assignIds spec.idPrefix c nodes) = .ok nodes') :
      Node.Passes (Node.idStep spec.idPrefix) c nodes
        (Node.assignIds spec.idPrefix c nodes).state nodes' := by
    obtain ⟨hfault, rfl⟩ := finished_ok h
    exact Node.passes_visitAll nodes c hfault
  exact {
    passes := ⟨_, _, _, _, key hprompt, key htip, key hchoices, key hexplanation⟩
    path := rfl
    title := rfl
    isCloze := rfl
    idPrefix := rfl
    scoring := rfl }

/-! ## What stops the passes -/

/-- The nodes of all parts, in the order in which the passes go through them. -/
def nodes (spec : QuestionSpec) : List Node :=
  spec.prompt ++ spec.examTip ++ spec.choices ++ spec.explanation

theorem nodes_edit (e : Edit) : (spec.edit e).nodes = spec.nodes.map (Node.edit e) := by
  simp [nodes, edit]

theorem finished_bind_eq_error {σ α β : Type} {outcome : Outcome σ α} {next : α → Except Error β}
    {fault : Error} :
    finished outcome >>= next = .error fault ↔
      outcome.fault = some fault ∨ outcome.fault = none ∧ next outcome.value = .error fault := by
  unfold finished
  cases outcome.fault <;> simp [bind, Except.bind]

/-- What stops the cloze stage: the first node of all parts with loose children that cannot be
walked through. -/
theorem withCloze_error_iff {fault : Error} :
    spec.withCloze = .error fault ↔
      (Node.inOrderAll spec.nodes).findSome? Node.looseFault? = some fault := by
  simp only [withCloze, finished_bind_eq_error, Node.fault_cloze, nodes, Node.inOrderAll_append,
    List.findSome?_append, Option.or_eq_some_iff, Option.or_eq_none_iff, pure, Except.pure,
    reduceCtorEq, and_false, or_false, or_assoc, and_assoc, and_or_left]

/-- What stops the stage of ids: the first node that is such a node, or a heading whose properties
cannot take an id. -/
theorem withIds_error_iff {shares : Bool} {fault : Error} :
    spec.withIds shares = .error fault ↔
      ((Node.inOrderAll spec.nodes).findSome? fun node => node.idFault?.or node.looseFault?) =
        some fault := by
  simp only [withIds, finished_bind_eq_error, Node.fault_assignIds, nodes, Node.inOrderAll_append,
    List.findSome?_append, Option.or_eq_some_iff, Option.or_eq_none_iff, pure, Except.pure,
    reduceCtorEq, and_false, or_false, or_assoc, and_assoc, and_or_left]

/-- What stops the passes over nodes: in a cloze, first whatever stops the cloze pass; then whatever
stops the id pass. -/
def obstacle? (isCloze : Bool) (nodes : List Node) : Option Error :=
  (if isCloze then (Node.inOrderAll nodes).findSome? Node.looseFault? else none).or
    ((Node.inOrderAll nodes).findSome? fun node => node.idFault?.or node.looseFault?)

/-- The passes over the parts: the cloze pass if they are a cloze, and the id pass. -/
def passed (shares : Bool) (spec : QuestionSpec) : Except Error QuestionSpec :=
  (if spec.isCloze then spec.withCloze else .ok spec) >>= withIds shares

/-- What stops either stage is what stops the passes in the order in which they run. -/
theorem passed_error_iff {shares : Bool} {fault : Error} :
    spec.passed shares = .error fault ↔ obstacle? spec.isCloze spec.nodes = some fault := by
  unfold passed obstacle?
  cases spec.isCloze with
  | false =>
    simp only [Bool.false_eq_true, if_false, Option.none_or]
    exact withIds_error_iff
  | true =>
    simp only [if_true, bind_eq_error_iff, withCloze_error_iff, Option.or_eq_some_iff]
    refine or_congr_right ?_
    cases hcloze : spec.withCloze with
    | error fault => simp [withCloze_error_iff.mp hcloze]
    | ok second =>
      have hnone : (Node.inOrderAll spec.nodes).findSome? Node.looseFault? = none := by
        refine Option.eq_none_iff_forall_not_mem.mpr fun fault hfault => ?_
        rw [withCloze_error_iff.mpr hfault] at hcloze
        cases hcloze
      -- The edit of the cloze pass keeps what may stop the id pass.
      simp only [Except.ok.injEq, exists_eq_left', withIds_error_iff, withCloze_ok hcloze,
        nodes_edit, Node.inOrderAll_edit, List.findSome?_map, Function.comp_def,
        Node.idFault?_edit Node.takesId_cloze, Node.looseFault?_edit, hnone, true_and]

/-! ## All stages -/

/-- The compiler is its stages, one after the other. -/
theorem ofRoot_eq :
    ofRoot options path root = written options path root >>= passed options.sharesCounter := by
  unfold ofRoot
  refine congrArg _ (funext fun spec => ?_)
  unfold passed
  cases spec.isCloze <;> rfl

theorem ofRoot_ok (h : ofRoot options path root = .ok spec) :
    ∃ first, WrittenFrom options path root first ∧
      IdsFrom options.sharesCounter
        (if first.isCloze then first.edit Cloze.edit else first) spec := by
  rw [ofRoot_eq] at h
  obtain ⟨first, hfirst, h⟩ := bind_ok h
  obtain ⟨second, hsecond, h⟩ := bind_ok h
  refine ⟨first, written_ok hfirst, ?_⟩
  cases hcloze : first.isCloze with
  | true =>
    rw [if_pos hcloze] at hsecond
    rw [if_pos rfl, ← withCloze_ok hsecond]
    exact withIds_ok h
  | false =>
    simp only [hcloze, Bool.false_eq_true, if_false, Except.ok.injEq] at hsecond ⊢
    rw [hsecond]
    exact withIds_ok h

end QuestionSpec

/-- An admitted document that compiles holds the exercise of its question. -/
theorem Root.compile_ok {options : QuestionOptions} {path : String} {root result : Root}
    (admitted : options.admits path = true) (h : root.compile options path = .ok result) :
    ∃ spec, QuestionSpec.ofRoot options path root = .ok spec ∧
      result = root.withExercise options spec := by
  unfold compile compile? at h
  rw [if_pos admitted] at h
  obtain ⟨result?, h?, h⟩ := bind_ok h
  obtain ⟨spec, hspec, h?⟩ := bind_ok h?
  cases h?
  cases h
  exact ⟨spec, hspec, rfl⟩

end Quizmark
