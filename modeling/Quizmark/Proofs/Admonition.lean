import Quizmark.Admonition
import Quizmark.HeadingId
import Quizmark.Proofs.Node.Visit

/-!
# Admonitions as an edit

* `Admonition.edit`: the edit of branch kinds that puts elements in the place of admonitions. It
  keeps headings, texts and data.
* `Node.Plain`: no literal of a forest has loose children.
* `rewriteAll_plain`: in plain forests, rewriting the admonitions does not fail and is the edit.
* `plain_edit`: edits keep forests plain.
-/

namespace Quizmark

@[simp] theorem Fields.children?_nil : children? [] = none := rfl

/-- The edit that puts elements in the place of admonitions. -/
def Admonition.edit : Edit where
  kind := Admonition.rewriteKind

namespace Node

/-! ## What the edit keeps -/

/-- No directive is a heading, and no element is one, so headings keep their depth. -/
theorem depth?_admonition (node : Node) : (node.edit Admonition.edit).depth? = node.depth? := by
  cases node with
  | branch kind data children extra =>
    cases kind with
    | directive name label attributes =>
      simp only [edit, Admonition.edit, Admonition.rewriteKind]
      split <;> rfl
    | _ => rfl
  | literal kind data value extra => rfl
  | other type data value children extra => cases children <;> rfl

theorem isHeadingAt_admonition (n : Nat) (node : Node) :
    (node.edit Admonition.edit).isHeadingAt n = node.isHeadingAt n := by
  rw [isHeadingAt, isHeadingAt, depth?_admonition]

theorem title_admonition (node : Node) : (node.edit Admonition.edit).title = node.title := by
  rw [title, title, text_edit fun _ _ => rfl]

theorem isFrontmatter_admonition (node : Node) :
    (node.edit Admonition.edit).isFrontmatter = node.isFrontmatter := by
  cases node with
  | other type data value children extra => cases children <;> rfl
  | _ => rfl

theorem takesId_admonition (node : Node) : (node.edit Admonition.edit).takesId = node.takesId := by
  rw [takesId, takesId, depth?_admonition]

/-- Only the kinds of branches change, and the text of a branch does not depend on its kind. -/
theorem nodesText_admonition (nodes : List Node) :
    nodesText (nodes.map (edit Admonition.edit)) = nodesText nodes := by
  have htext (node : Node) : (node.edit Admonition.edit).text = node.text :=
    text_edit (fun _ _ => rfl) node
  induction nodes with
  | nil => rfl
  | cons node rest ih =>
    cases rest with
    | nil => simp [nodesText, htext]
    | cons next rest =>
      rw [List.map_cons] at ih
      simp [nodesText, htext, ih]

/-! ## Plain forests -/

/-- A literal has no loose children. -/
def IsPlain : Node → Prop
  | literal _ _ _ extra => extra.children? = none
  | _ => True

/-- No literal of a forest has loose children. -/
def Plain (nodes : List Node) : Prop := ∀ node ∈ inOrderAll nodes, node.IsPlain

theorem plain_cons {node : Node} {rest : List Node} :
    Plain (node :: rest) ↔ Plain [node] ∧ Plain rest := all_cons

@[simp] theorem plain_branch {kind : BranchKind} {data : Option Fields} {children : List Node}
    {extra : Fields} : Plain [.branch kind data children extra] ↔ Plain children :=
  all_branch.trans (by simp [IsPlain, Plain, All])

@[simp] theorem plain_literal {kind : LiteralKind} {data : Option Fields} {value : String}
    {extra : Fields} :
    Plain [.literal kind data value extra] ↔ extra.children? = none := all_literal

@[simp] theorem plain_parent {type : String} {data : Option Fields} {value : Json}
    {children : List Node} {extra : Fields} :
    Plain [.other type data value (some children) extra] ↔ Plain children :=
  all_parent.trans (by simp [IsPlain, Plain, All])

/-! ## Rewriting plain forests -/

/-- Where no loose children are in the way, the rewriter goes through and makes its edit everywhere.
-/
theorem rewriteAll_plain {nodes : List Node} (h : Plain nodes) :
    rewriteAll nodes = .ok (nodes.map (edit Admonition.edit)) := by
  induction nodes using forest_induction with
  | nil => rfl
  | branch kind data children extra rest ihc ihr =>
    obtain ⟨hc, hr⟩ := plain_cons.mp h
    rw [rewriteAll, rewriteAdmonitions, ihc (plain_branch.mp hc), ihr hr]
    simp [edit, Admonition.edit, bind, Except.bind, pure, Except.pure]
  | literal kind data value extra rest ihr =>
    obtain ⟨hc, hr⟩ := plain_cons.mp h
    rw [rewriteAll, rewriteAdmonitions, loosened, plain_literal.mp hc, ihr hr]
    rfl
  | parent type data value children extra rest ihc ihr =>
    obtain ⟨hc, hr⟩ := plain_cons.mp h
    rw [rewriteAll, rewriteAdmonitions, ihc (plain_parent.mp hc), ihr hr]
    simp [edit, bind, Except.bind, pure, Except.pure]
  | leaf type data value extra rest ihr =>
    obtain ⟨-, hr⟩ := plain_cons.mp h
    rw [rewriteAll, rewriteAdmonitions, ihr hr]
    rfl

/-- Edits keep extra fields. -/
theorem plain_edit {e : Edit} {nodes : List Node} (h : Plain nodes) :
    Plain (nodes.map (edit e)) := by
  refine All.edit (fun node hnode => ?_) h
  cases node with
  | literal kind data value extra => exact hnode
  | branch kind data children extra => exact trivial
  | other type data value children extra => cases children <;> exact trivial

end Node

end Quizmark
