import Quizmark.Node.Reader
import Quizmark.Node.Text
import Quizmark.Text.Digit

/-!
# Sections

The body of a question spec is a list of nodes that headings divide. The functions that divide it
work on any items that show nodes.

* `Section.partition`: the sections under headings of depth two, by title. What stands before the
  first of them belongs to none, and a title that comes again starts its section over.
* `Section.splitTip`: takes the subsections with certain titles out of a section.
* `Section.scoring`: the scoring criteria in the lines of a section.
-/

namespace Quizmark.Section

/-- The depth of the headings that open a section. -/
def depth : Nat := 2

/-- The depth of the headings that open a subsection. -/
def subDepth : Nat := 3

variable {α : Type}

/-! ## Sections by title -/

/-- Sections by title, in the order in which the titles first came. -/
abbrev Sections (α : Type) := List (String × List α)

/-- Empties a section, or opens it at the end. -/
def restart : Sections α → String → Sections α
  | [], name => [(name, [])]
  | (k, items) :: rest, name =>
    if k = name then (k, []) :: rest else (k, items) :: restart rest name

/-- Puts an item at the end of a section. -/
def append (item : α) : Sections α → String → Sections α
  | [], name => [(name, [item])]
  | (k, items) :: rest, name =>
    if k = name then (k, items ++ [item]) :: rest else (k, items) :: append item rest name

/-- The items of a section, none if there is no such section. -/
def get (sections : Sections α) (name : String) : List α := (sections.lookup name).getD []

/-- Goes on with the sections where `current` is the open one. -/
def partitionFrom (view : α → Node) (current : Option String) (sections : Sections α) :
    List α → Sections α
  | [] => sections
  | item :: rest =>
    if (view item).isHeadingAt depth then
      let title := (view item).title
      partitionFrom view (some title) (restart sections title) rest
    else match current with
      | none => partitionFrom view none sections rest
      | some name => partitionFrom view (some name) (append item sections name) rest

/-- The sections of a list of items, each of which shows a node. -/
def partitionBy (view : α → Node) (items : List α) : Sections α := partitionFrom view none [] items

/-- The sections of a body. -/
def partition (nodes : List Node) : Sections Node := partitionBy id nodes

/-! ## Exam tips -/

/-- A section divided in two. -/
structure Split (α : Type) where
  /-- What stays in the section. -/
  rest : List α
  /-- What stands under the headings that were asked for. -/
  tip : List α

/-- Divides a section where `inTip` tells whether a marker heading is open. -/
def splitFrom (view : α → Node) (markers : List String) : Bool → List α → Split α
  | _, [] => ⟨[], []⟩
  | inTip, item :: items =>
    if (view item).isHeadingAt subDepth then
      if markers.contains (view item).title then splitFrom view markers true items
      else
        let below := splitFrom view markers false items
        ⟨item :: below.rest, below.tip⟩
    else
      let below := splitFrom view markers inTip items
      if inTip then ⟨below.rest, item :: below.tip⟩ else ⟨item :: below.rest, below.tip⟩

/-- Takes the subsections whose titles are markers out of a list of items, each of which shows a
node, and drops their headings. -/
def splitTipBy (view : α → Node) (markers : List String) (items : List α) : Split α :=
  splitFrom view markers false items

/-- Takes the subsections whose titles are markers out of a section and drops their headings. -/
def splitTip (markers : List String) (nodes : List Node) : Split Node :=
  splitTipBy id markers nodes

/-! ## Scoring criteria -/

/-- A scoring criterion. -/
structure Criterion where
  points : Nat
  description : String

/-- A number of points in a payload. -/
def readPoints (path : List Step) (value : Json) : Reading Nat :=
  match readInteger path value with
  | .failed issues => .failed issues
  | .done n => if n < 0 then .issue path .tooSmall else .done n.toNat

/-- The criterion that a payload holds; its points are no less than zero. -/
def Criterion.ofJson : Json → Except Error Criterion
  | .obj fields =>
    (Criterion.mk <$> required readPoints [] fields "points" <*>
      required readString [] fields "description").toExcept
  | _ => .error (.invalid [⟨[], .notModel⟩])

/-- The criterion in a line without blanks at its ends: digits, a colon and a description, with
blanks around the colon. -/
def criterion? (line : List Char) : Except Error (Option Criterion) :=
  let digits := line.takeWhile Text.isDigit
  match digits, Text.trimLeft (line.dropWhile Text.isDigit) with
  | _ :: _, ':' :: description =>
    if description.isEmpty then .ok none
    else if digits.length > Text.maxDigits then .error .numberTooLong
    else .ok (some ⟨Text.ofDigits (digits.map Text.digitValue),
      String.ofList (Text.trim description)⟩)
  | _, _ => .ok none

/-- The criteria in lines. Lines without one are ignored. -/
def criteria : List (List Char) → Except Error (List Criterion)
  | [] => .ok []
  | line :: rest => do
    match ← criterion? (Text.trim line) with
    | some criterion => return criterion :: (← criteria rest)
    | none => criteria rest

/-- The scoring criteria in the text of nodes. -/
def scoring (nodes : List Node) : Except Error (List Criterion) :=
  criteria (Text.lines (nodesText nodes).toList)

end Quizmark.Section
