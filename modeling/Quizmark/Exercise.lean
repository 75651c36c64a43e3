import Quizmark.Admonition
import Quizmark.Cloze
import Quizmark.HeadingId
import Quizmark.Section
import Quizmark.Settings

/-!
# Exercises

A question spec is a document with a title and sections for its type, prompt, options, scoring and
explanation. It is compiled to a document with a single `Exercise` element.

* `QuestionSpec.ofRoot`: the parts of a question spec, with cloze markers replaced if it is of the
  type `cloze`, and with ids on the headings. A document of the wrong shape is refused with the
  first `Flaw` that it has.
* `QuestionSpec.exercise`: the element for the parts.
* `Root.compile?`: both, for the documents that the gate admits.
-/

namespace Quizmark

/-- The parts of a question spec. -/
structure QuestionSpec where
  path : String
  title : Option String
  isCloze : Bool
  idPrefix : String
  prompt : List Node := []
  examTip : List Node := []
  choices : List Node := []
  scoring : List Section.Criterion := []
  explanation : List Node := []

namespace QuestionSpec

/-! ## The shape of a document -/

/-- The title of a document and the nodes below it. -/
def titleOf (path : String) (root : Root) : Except Error (String × List Node) :=
  match root.children with
  | [] => .error (.malformed .missingTitle path)
  | first :: body =>
    if first.isFrontmatter then .error (.malformed .frontmatter path)
    else if !first.isHeadingAt 1 then .error (.malformed .missingTitle path)
    else if first.title.isEmpty then .error (.malformed .emptyTitle path)
    else .ok (first.title, body)

/-- The type that a section names, without the blanks around it. -/
def typeOf (path : String) (sections : Section.Sections Node) : Except Error String :=
  let type := Text.trimmed (nodesText (Section.get sections "Type"))
  if type.isEmpty then .error (.malformed .missingType path) else .ok type

/-- The nodes of the prompt. -/
def promptOf (path : String) (sections : Section.Sections Node) : Except Error (List Node) :=
  match Section.get sections "Prompt" with
  | [] => .error (.malformed .missingPrompt path)
  | nodes => .ok nodes

/-- Whether a type asks for cloze markers to be replaced. -/
def isClozeType (type : String) : Bool := type.toLower == "cloze"

/-- The parts of a document as they are written. -/
def written (options : QuestionOptions) (path : String) (root : Root) :
    Except Error QuestionSpec := do
  let path := DocPath.normalize path
  let (title, body) ← titleOf path root
  let sections := Section.partition body
  let type ← typeOf path sections
  let prompt ← promptOf path sections
  let split := Section.splitTip options.examMarkers prompt
  let scoring ← Section.scoring (Section.get sections "Scoring")
  return {
    path, scoring
    title := some title
    isCloze := isClozeType type
    idPrefix := DocPath.idPrefix path options.specSuffix
    prompt := split.rest
    examTip := split.tip
    choices := Section.get sections "Options"
    explanation := Section.get sections "Explanation" }

/-! ## The passes over the parts -/

/-- The value of a pass that was not stopped. -/
def finished {σ α : Type} (outcome : Outcome σ α) : Except Error α :=
  match outcome.fault with
  | some fault => .error fault
  | none => .ok outcome.value

/-- The parts with their cloze markers replaced. -/
def withCloze (spec : QuestionSpec) : Except Error QuestionSpec := do
  let prompt ← finished (Node.cloze spec.prompt)
  let examTip ← finished (Node.cloze spec.examTip)
  let choices ← finished (Node.cloze spec.choices)
  let explanation ← finished (Node.cloze spec.explanation)
  return { spec with prompt, examTip, choices, explanation }

/-- The counter for the next part: the same one if the parts share it, else a new one. -/
def nextCounter (shares : Bool) (counter : HeadingId.Counter) : HeadingId.Counter :=
  if shares then counter else []

/-- The parts with ids on their headings. -/
def withIds (shares : Bool) (spec : QuestionSpec) : Except Error QuestionSpec := do
  let prompt := Node.assignIds spec.idPrefix [] spec.prompt
  let promptNodes ← finished prompt
  let examTip := Node.assignIds spec.idPrefix (nextCounter shares prompt.state) spec.examTip
  let examTipNodes ← finished examTip
  let choices := Node.assignIds spec.idPrefix (nextCounter shares examTip.state) spec.choices
  let choiceNodes ← finished choices
  let explanation :=
    Node.assignIds spec.idPrefix (nextCounter shares choices.state) spec.explanation
  let explanationNodes ← finished explanation
  return { spec with
    prompt := promptNodes
    examTip := examTipNodes
    choices := choiceNodes
    explanation := explanationNodes }

/-- The parts of a question spec, ready to be put together. -/
def ofRoot (options : QuestionOptions) (path : String) (root : Root) :
    Except Error QuestionSpec := do
  let spec ← written options path root
  let spec ← if spec.isCloze then spec.withCloze else .ok spec
  spec.withIds options.sharesCounter

/-! ## The element -/

/-- The title of an exercise that a payload holds. It may be null. -/
def titleOfJson : Json → Except Error (Option String)
  | .null => .ok none
  | .str title => .ok (some title)
  | _ => .error (.invalid [⟨[.field "value"], .notString⟩])

/-- An admonition with a kind and a title. -/
def admonition (kind title : String) (children : List Node) : Node :=
  .ofElement Admonition.elementName (Admonition.attributes kind title) children

/-- The list item for a scoring criterion. -/
def criterionItem (criterion : Section.Criterion) : Node :=
  .ofKind (.item (some false) none)
    [.ofKind .paragraph
      [.ofText .text (criterion.description ++ "：" ++ toString criterion.points ++ "点")]]

/-- The list of scoring criteria. -/
def criteriaList (criteria : List Section.Criterion) : Node :=
  .ofKind (.list (some false) (some false)) (criteria.map criterionItem)

/-- The exam tip, if there is one. -/
def examTipPart (options : QuestionOptions) (spec : QuestionSpec) : List Node :=
  if spec.examTip.isEmpty then []
  else [admonition "tip" options.examTipTitle spec.examTip]

/-- The scoring criteria, if there are any. -/
def scoringPart (options : QuestionOptions) (spec : QuestionSpec) : List Node :=
  if spec.scoring.isEmpty then []
  else [admonition "info" options.scoringTitle [criteriaList spec.scoring]]

/-- The attributes of the exercise: its title, and a flag if it is a cloze. -/
def exerciseAttributes (spec : QuestionSpec) : List Attribute :=
  ⟨"title", spec.title, []⟩ ::
    if spec.isCloze then [⟨"enableBlanks", none, []⟩] else []

/-- The element for a question spec: prompt, options, exam tip, scoring and the solution. -/
def exercise (options : QuestionOptions) (spec : QuestionSpec) : Node :=
  .ofElement "Exercise" spec.exerciseAttributes
    (spec.prompt ++ spec.choices ++ spec.examTipPart options ++ spec.scoringPart options ++
      [.ofElement "Solution" [] spec.explanation])

end QuestionSpec

/-! ## Compiling a document -/

/-- A document whose only child is the exercise for a question spec. -/
def Root.withExercise (options : QuestionOptions) (root : Root) (spec : QuestionSpec) : Root :=
  { root with children := [spec.exercise options] }

/-- The compiled document, or `none` if its path shows that it is no question spec. -/
def Root.compile? (options : QuestionOptions) (path : String) (root : Root) :
    Except Error (Option Root) := do
  if options.admits path then
    let spec ← QuestionSpec.ofRoot options path root
    return some (root.withExercise options spec)
  else return none

/-- The compiled document, or the document itself if it is no question spec. -/
def Root.compile (options : QuestionOptions) (path : String) (root : Root) : Except Error Root := do
  return (← root.compile? options path).getD root

end Quizmark
