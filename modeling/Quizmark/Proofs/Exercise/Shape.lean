import Quizmark.Exercise
import Quizmark.Proofs.DocPath
import Quizmark.Proofs.Section.ExamTip
import Quizmark.Proofs.Section.Partition
import Quizmark.Proofs.Text.Blank

/-!
# The shape of a question spec

A document is looked through for flaws before anything else is done with it. Here each flaw is said
of the document as it stands, without the sections that the checks make on their way.

* `Root.under`: the nodes under a title of a document.
* `Root.has`: a document has a flaw, whatever other flaws it has. `Root.flaw?` is the first flaw, in
  the order of the checks.
* `Root.parts`: the parts of a document as they are written.
* `written_eq`: a document with a flaw is refused with its first one. The parts of all others are
  read, which fails only where their scoring criteria cannot be read.
-/

namespace Quizmark

/-- The flaws in the order in which a document is checked for them. -/
def Flaw.checks : List Flaw :=
  [.frontmatter, .missingTitle, .emptyTitle, .missingType, .missingPrompt]

namespace Root

/-- The nodes under the last section heading of a document with a title; none if there is no such
heading. -/
def under (root : Root) (title : String) : List Node :=
  (Section.lastUnder title root.children).getD []

/-- A document has a flaw, whatever other flaws it has. -/
def has (root : Root) : Flaw → Bool
  | .frontmatter => root.children.head?.any Node.isFrontmatter
  | .missingTitle => !root.children.head?.any (Node.isHeadingAt 1)
  | .emptyTitle => root.children.head?.any fun first => first.title.isEmpty
  | .missingType =>
    (Section.lastUnder "Type" root.children).all fun nodes =>
      Text.allBlank (nodesText nodes).toList
  | .missingPrompt => (Section.lastUnder "Prompt" root.children).all List.isEmpty

/-- The first flaw of a document. -/
def flaw? (root : Root) : Option Flaw := Flaw.checks.find? root.has

/-- A document without flaws is not empty. -/
theorem exists_head?_of_flaw? {root : Root} (h : root.flaw? = none) :
    ∃ first, root.children.head? = some first := by
  have htitle := List.find?_eq_none.mp h .missingTitle (by decide)
  cases hhead : root.children.head? with
  | none => simp [has, hhead] at htitle
  | some first => exact ⟨first, rfl⟩

/-- Whether the type of a document asks for cloze markers to be replaced. -/
def isCloze (root : Root) : Bool :=
  QuestionSpec.isClozeType (Text.trimmed (nodesText (root.under "Type")))

/-- The parts of a document as they are written, with its scoring criteria. -/
def parts (options : QuestionOptions) (path : String) (root : Root)
    (criteria : List Section.Criterion) : QuestionSpec where
  path := DocPath.normalize path
  title := root.children.head?.map Node.title
  isCloze := root.isCloze
  idPrefix := DocPath.idPrefix path options.specSuffix
  prompt := Section.restNodes options.examMarkers (root.under "Prompt")
  examTip := Section.tipNodes options.examMarkers (root.under "Prompt")
  choices := root.under "Options"
  scoring := criteria
  explanation := root.under "Explanation"

end Root

namespace QuestionSpec

variable {options : QuestionOptions} {path : String} {root : Root}

/-- A heading of depth one opens no section. -/
theorem not_isOpening {node : Node} (h : node.isHeadingAt 1 = true) :
    Section.isOpening node = false := by
  unfold Section.isOpening Node.isHeadingAt at *
  cases hd : node.depth? with
  | none => rfl
  | some d => simp_all [Section.depth]

/-- What stands under a title behind the first heading is what stands under it in the whole
document. -/
theorem get_partition_eq_under {first : Node} {body : List Node}
    (hchildren : root.children = first :: body) (hhead : first.isHeadingAt 1 = true)
    (title : String) : Section.get (Section.partition body) title = root.under title := by
  rw [Section.get_partition, Root.under, hchildren,
    Section.lastUnder_of_not_opening (not_isOpening hhead)]

/-! ## The checks one by one -/

/-- The first three flaws can be told from the first node alone. -/
theorem has_of_children {first : Node} {body : List Node}
    (hchildren : root.children = first :: body) :
    root.has .frontmatter = first.isFrontmatter ∧
      root.has .missingTitle = (!first.isHeadingAt 1) ∧
      root.has .emptyTitle = first.title.isEmpty := by
  simp [Root.has, hchildren]

/-- The check of the type fails exactly for that flaw. -/
theorem typeOf_eq {sections : Section.Sections Node}
    (hget : Section.get sections "Type" = root.under "Type") :
    typeOf path sections =
      if root.has .missingType then .error (.malformed .missingType path)
      else .ok (Text.trimmed (nodesText (root.under "Type"))) := by
  have hhas : root.has .missingType =
      (Text.trimmed (nodesText (root.under "Type"))).isEmpty := by
    rw [Root.has, Text.isEmpty_trimmed, Root.under]
    cases Section.lastUnder "Type" root.children <;> rfl
  rw [typeOf, hget, hhas]

theorem promptOf_eq {sections : Section.Sections Node}
    (hget : Section.get sections "Prompt" = root.under "Prompt") :
    promptOf path sections =
      if root.has .missingPrompt then .error (.malformed .missingPrompt path)
      else .ok (root.under "Prompt") := by
  have hhas : root.has .missingPrompt = (root.under "Prompt").isEmpty := by
    rw [Root.has, Root.under]
    cases Section.lastUnder "Prompt" root.children <;> rfl
  rw [promptOf, hget, hhas]
  cases root.under "Prompt" <;> rfl

/-! ## All checks -/

/-- **A document is refused with its first flaw.** If it has none, its parts are read. -/
theorem written_eq :
    written options path root =
      match root.flaw? with
      | some flaw => .error (.malformed flaw (DocPath.normalize path))
      | none => (Section.scoring (root.under "Scoring")).map (root.parts options path) := by
  unfold written Root.flaw? Flaw.checks
  cases hchildren : root.children with
  | nil => simp [titleOf, Root.has, hchildren, bind, Except.bind]
  | cons first body =>
    obtain ⟨hfrontmatter, hmissing, hempty⟩ := has_of_children hchildren
    simp only [List.find?_cons, titleOf, hchildren, hfrontmatter, hmissing, hempty]
    -- The checks in the order in which they are made, each with the earlier ones passed.
    cases first.isFrontmatter with
    | true => rfl
    | false =>
    cases hhead : first.isHeadingAt 1 with
    | false => rfl
    | true =>
    cases first.title.isEmpty with
    | true => rfl
    | false =>
    have hget := get_partition_eq_under hchildren hhead
    simp only [Bool.false_eq_true, if_false, Bool.not_true, bind, Except.bind,
      typeOf_eq (hget "Type"), promptOf_eq (hget "Prompt"), hget, Section.splitTip_eq]
    cases root.has .missingType with
    | true => rfl
    | false =>
    cases root.has .missingPrompt with
    | true => rfl
    | false =>
    cases Section.scoring (root.under "Scoring") with
    | error fault => rfl
    | ok criteria => simp [Except.map, Root.parts, Root.isCloze, hchildren, pure, Except.pure]

end QuestionSpec

end Quizmark
