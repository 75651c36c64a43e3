import Quizmark.Cloze
import Quizmark.HeadingId
import Quizmark.Proofs.Node.Visit

/-!
# Cloze markers in trees

The pass over a forest is an edit: it rewrites the texts of text, code and inline code nodes and
leaves all else alone.

* `Cloze.edit`: the edit.
* `cloze_ok`: a pass that is not stopped makes it.
* `fault_cloze`: a pass is stopped by loose children only.
-/

namespace Quizmark

/-- The edit that replaces the markers in texts, code and inline code. -/
def Cloze.edit : Edit where
  value kind value := if kind.hasCloze then Cloze.rewrite value else value

namespace Node

/-- A pass that goes through is the edit of the tree, in which every text is rewritten. -/
theorem edit_of_clozePass {u u' : Unit} {nodes nodes' : List Node}
    (h : Passes clozeStep u nodes u' nodes') : nodes' = nodes.map (edit Cloze.edit) := by
  induction h with
  | nil => rfl
  | branch hstep _ _ ihc ihr =>
    cases hstep
    simp [withChildren, edit, Cloze.edit, ihc, ihr]
  | literal hstep _ _ ihr =>
    cases hstep
    simp [edit, Cloze.edit, ihr]
  | parent hstep _ _ ihc ihr =>
    cases hstep
    simp [withChildren, edit, ihc, ihr]
  | leaf hstep _ ihr =>
    cases hstep
    simp [edit, ihr]

theorem cloze_ok {nodes : List Node} (h : (cloze nodes).fault = none) :
    (cloze nodes).value = nodes.map (edit Cloze.edit) :=
  edit_of_clozePass (passes_visitAll nodes () h)

theorem takesId_cloze (node : Node) : (node.edit Cloze.edit).takesId = node.takesId := by
  cases node with
  | branch kind data children extra => cases kind <;> rfl
  | literal kind data value extra => rfl
  | other type data value children extra => cases children <;> rfl

theorem fault_clozeStep (u : Unit) (node : Node) : (clozeStep u node).fault = none := by
  cases node <;> rfl

/-- The pass stops at the first node, in document order, whose loose children cannot be walked
through. -/
theorem fault_cloze (nodes : List Node) :
    (cloze nodes).fault = (inOrderAll nodes).findSome? looseFault? := by
  rw [cloze, fault_visitAll fault_clozeStep]
  rfl

end Node

end Quizmark
