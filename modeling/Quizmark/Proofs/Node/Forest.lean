import Quizmark.Node.Text

/-!
# Forests

A list of nodes with all that is below them is a forest. What the passes do is stated of forests, as
they go on from a node to its children and from there to the next node.

* `Node.forest_induction`: one case for each kind of first node. A node with children has the claim
  for its children and for the nodes behind it. `Node.children_induction` has one case for all.
* `Node.inOrder`, `Node.inOrderAll`: all nodes of a tree or of a forest, in document order.
* `Node.All P nodes`: all nodes of a forest are as `P` says. What `P` says of a node, an edit or a
  pass can keep node by node (`All.edit`).
* `Edit`: a change that each branch kind and each text of a literal undergoes by itself;
  `Node.edit` makes it in a whole tree. What it makes of the text of a node follows from what it
  makes of the texts of literals (`Node.text_edit_rel`).
* `Node.ofTitle`: a heading, for documents that are written out.
-/

namespace Quizmark

/-! ## Induction -/

/-- Induction over a forest, by its first node. -/
theorem Node.forest_induction {motive : List Node → Prop} (nil : motive [])
    (branch : ∀ kind data children extra rest, motive children → motive rest →
      motive (.branch kind data children extra :: rest))
    (literal : ∀ kind data value extra rest, motive rest →
      motive (.literal kind data value extra :: rest))
    (parent : ∀ type data value children extra rest, motive children → motive rest →
      motive (.other type data value (some children) extra :: rest))
    (leaf : ∀ type data value extra rest, motive rest →
      motive (.other type data value none extra :: rest))
    (nodes : List Node) : motive nodes := by
  -- The claim for a node is that it may be put in front of any forest that has the claim.
  refine Node.rec_1 (motive_1 := fun node => ∀ rest, motive rest → motive (node :: rest))
    (motive_2 := motive) (motive_3 := fun children => ∀ cs, children = some cs → motive cs)
    ?_ ?_ ?_ nil ?_ ?_ ?_ nodes
  · intro kind data children extra ih rest hrest
    exact branch kind data children extra rest ih hrest
  · intro kind data value extra rest hrest
    exact literal kind data value extra rest hrest
  · intro type data value children extra ih rest hrest
    cases children with
    | none => exact leaf type data value extra rest hrest
    | some cs => exact parent type data value cs extra rest (ih cs rfl) hrest
  · intro node rest ih hrest
    exact ih rest hrest
  · intro cs h
    cases h
  · intro children ih cs h
    cases h
    exact ih

namespace Node

/-- Induction over a forest by the children of its first node, where the kind of that node does not
matter. -/
theorem children_induction {motive : List Node → Prop} (nil : motive [])
    (cons : ∀ node rest, motive node.children → motive rest → motive (node :: rest))
    (nodes : List Node) : motive nodes := by
  induction nodes using forest_induction with
  | nil => exact nil
  | branch kind data children extra rest ihc ihr => exact cons _ rest ihc ihr
  | literal kind data value extra rest ihr => exact cons _ rest nil ihr
  | parent type data value children extra rest ihc ihr => exact cons _ rest ihc ihr
  | leaf type data value extra rest ihr => exact cons _ rest nil ihr

/-! ## All nodes in document order -/

mutual

/-- A node and all nodes below it, in document order. -/
def inOrder : Node → List Node
  | branch kind data children extra =>
    branch kind data children extra :: inOrderAll children
  | literal kind data value extra => [literal kind data value extra]
  | other type data value (some children) extra =>
    other type data value (some children) extra :: inOrderAll children
  | other type data value none extra => [other type data value none extra]
  termination_by structural node => node

/-- All nodes of a forest, in document order. -/
def inOrderAll : List Node → List Node
  | [] => []
  | node :: rest => node.inOrder ++ inOrderAll rest
  termination_by structural nodes => nodes

end

/-- A node comes before what is below it. -/
theorem inOrder_eq (node : Node) : node.inOrder = node :: inOrderAll node.children := by
  cases node with
  | branch kind data children extra => rfl
  | literal kind data value extra => simp [inOrder, children, inOrderAll]
  | other type data value children extra =>
    cases children with
    | none => simp [inOrder, children, inOrderAll]
    | some children => rfl

theorem inOrderAll_cons (node : Node) (rest : List Node) :
    inOrderAll (node :: rest) = node :: (inOrderAll node.children ++ inOrderAll rest) := by
  rw [inOrderAll, inOrder_eq, List.cons_append]

theorem inOrderAll_append (xs ys : List Node) :
    inOrderAll (xs ++ ys) = inOrderAll xs ++ inOrderAll ys := by
  induction xs with
  | nil => simp [inOrderAll]
  | cons x xs ih => simp [inOrderAll, ih]

/-- What goes on from a node to its children takes every node of a forest to a node that stands at
the same place. -/
theorem inOrderAll_map {f : Node → Node} (h : ∀ node, (f node).children = node.children.map f)
    (nodes : List Node) : inOrderAll (nodes.map f) = (inOrderAll nodes).map f := by
  induction nodes using children_induction with
  | nil => rfl
  | cons node rest ihc ihr => simp [inOrderAll_cons, h, ihc, ihr]

/-! ## What holds of all nodes -/

/-- All nodes of a forest are as `P` says. -/
def All (P : Node → Prop) (nodes : List Node) : Prop := ∀ node ∈ inOrderAll nodes, P node

section All

variable {P : Node → Prop} {data : Option Fields} {extra : Fields} {children : List Node}

@[simp] theorem all_nil : All P [] := by simp [All, inOrderAll]

theorem all_append {xs ys : List Node} : All P (xs ++ ys) ↔ All P xs ∧ All P ys := by
  simp [All, inOrderAll_append, or_imp, forall_and]

theorem all_cons {node : Node} {rest : List Node} :
    All P (node :: rest) ↔ All P [node] ∧ All P rest := @all_append P [node] rest

@[simp] theorem all_branch {kind : BranchKind} :
    All P [.branch kind data children extra] ↔
      P (.branch kind data children extra) ∧ All P children := by
  simp [All, inOrderAll, inOrder]

@[simp] theorem all_literal {kind : LiteralKind} {value : String} :
    All P [.literal kind data value extra] ↔ P (.literal kind data value extra) := by
  simp [All, inOrderAll, inOrder]

@[simp] theorem all_parent {type : String} {value : Json} :
    All P [.other type data value (some children) extra] ↔
      P (.other type data value (some children) extra) ∧ All P children := by
  simp [All, inOrderAll, inOrder]

@[simp] theorem all_leaf {type : String} {value : Json} :
    All P [.other type data value none extra] ↔ P (.other type data value none extra) := by
  simp [All, inOrderAll, inOrder]

theorem All.imp {Q : Node → Prop} (h : ∀ node, P node → Q node) {nodes : List Node}
    (all : All P nodes) : All Q nodes := fun node hmem => h node (all node hmem)

/-- What a change that goes from a node to its children keeps node by node, it keeps of all nodes.
-/
theorem All.map {Q : Node → Prop} {f : Node → Node}
    (hf : ∀ node, (f node).children = node.children.map f) (h : ∀ node, P node → Q (f node))
    {nodes : List Node} (all : All P nodes) : All Q (nodes.map f) := by
  intro node hnode
  rw [inOrderAll_map hf] at hnode
  obtain ⟨before, hbefore, rfl⟩ := List.mem_map.mp hnode
  exact h before (all before hbefore)

theorem All.of_subset {xs ys : List Node} (all : All P ys) (hsub : xs ⊆ ys) : All P xs := by
  induction xs with
  | nil => exact all_nil
  | cons x xs ih =>
    rw [List.cons_subset] at hsub
    obtain ⟨before, after, rfl⟩ := List.append_of_mem hsub.1
    rw [all_append, all_cons] at all
    exact all_cons.mpr ⟨all.2.1, ih hsub.2⟩

theorem all_flatMap {α : Type} {f : α → List Node} {items : List α} :
    All P (items.flatMap f) ↔ ∀ item ∈ items, All P (f item) := by
  induction items with
  | nil => simp
  | cons item items ih => simp [List.flatMap_cons, all_append, ih]

theorem all_map {α : Type} {f : α → Node} {items : List α} :
    All P (items.map f) ↔ ∀ item ∈ items, All P [f item] := by
  rw [List.map_eq_flatMap, all_flatMap]

end All

end Node

/-! ## Edits -/

/-- A change of the kinds of branches and of the texts of literals. -/
structure Edit where
  kind : BranchKind → BranchKind := id
  value : LiteralKind → String → String := fun _ value => value

namespace Node

variable (e : Edit)

mutual

/-- A tree after an edit. -/
def edit (e : Edit) : Node → Node
  | branch kind data children extra => branch (e.kind kind) data (editAll e children) extra
  | literal kind data value extra => literal kind data (e.value kind value) extra
  | other type data value (some children) extra =>
    other type data value (some (editAll e children)) extra
  | other type data value none extra => other type data value none extra
  termination_by structural node => node

/-- A forest after an edit. -/
def editAll (e : Edit) : List Node → List Node
  | [] => []
  | node :: rest => node.edit e :: editAll e rest
  termination_by structural nodes => nodes

end

@[simp] theorem editAll_eq_map (nodes : List Node) : editAll e nodes = nodes.map (edit e) := by
  induction nodes with
  | nil => rfl
  | cons node rest ih => rw [editAll, ih, List.map_cons]

@[simp] theorem edit_data (node : Node) : (node.edit e).data = node.data := by
  cases node with
  | other type data value children extra => cases children <;> rfl
  | _ => rfl

theorem edit_withData (d : Option Fields) (node : Node) :
    (node.withData d).edit e = (node.edit e).withData d := by
  cases node with
  | other type data value children extra => cases children <;> rfl
  | _ => rfl

theorem edit_withChildren (cs : List Node) (node : Node) :
    (node.withChildren cs).edit e = (node.edit e).withChildren (cs.map (edit e)) := by
  cases node with
  | branch kind data children extra => simp [withChildren, edit]
  | literal kind data value extra => rfl
  | other type data value children extra => cases children <;> simp [withChildren, edit]

theorem children_edit (node : Node) : (node.edit e).children = node.children.map (edit e) := by
  cases node with
  | branch kind data children extra => simp [edit, Node.children]
  | literal kind data value extra => rfl
  | other type data value children extra => cases children <;> simp [edit, Node.children]

theorem inOrderAll_edit (nodes : List Node) :
    inOrderAll (nodes.map (edit e)) = (inOrderAll nodes).map (edit e) :=
  inOrderAll_map (children_edit e) nodes

/-- An edit keeps what it keeps of every single node. -/
theorem All.edit {P Q : Node → Prop} {e : Edit} (h : ∀ node, P node → Q (node.edit e))
    {nodes : List Node} (all : All P nodes) : All Q (nodes.map (Node.edit e)) :=
  all.map (children_edit e) h

/-! ## Edits and texts -/

variable {e}

/-- What holds between the text of every literal and its edited text holds between the texts of
whole forests, if it goes over to texts put one after the other. -/
theorem textAll_edit_rel {R : String → String → Prop} (hrefl : ∀ s, R s s)
    (happend : ∀ {s s' t t'}, R s s' → R t t' → R (s ++ t) (s' ++ t'))
    (hvalue : ∀ kind value, R (e.value kind value) value) (nodes : List Node) :
    R (textAll (nodes.map (edit e))) (textAll nodes) := by
  induction nodes using forest_induction with
  | nil => exact hrefl _
  | branch kind data children extra rest ihc ihr =>
    refine happend ?_ ihr
    rw [edit, editAll_eq_map, text, text]
    split
    · exact hrefl _
    · exact ihc
  | literal kind data value extra rest ihr => exact happend (hvalue kind value) ihr
  | parent type data value children extra rest ihc ihr =>
    refine happend ?_ ihr
    rw [edit, editAll_eq_map]
    cases value with
    | str value => exact hrefl value
    | _ => exact ihc
  | leaf type data value extra rest ihr => exact happend (hrefl _) ihr

theorem text_edit_rel {R : String → String → Prop} (hrefl : ∀ s, R s s)
    (happend : ∀ {s s' t t'}, R s s' → R t t' → R (s ++ t) (s' ++ t'))
    (hvalue : ∀ kind value, R (e.value kind value) value) (node : Node) :
    R (node.edit e).text node.text := by
  simpa [textAll] using textAll_edit_rel hrefl happend hvalue [node]

/-- An edit that keeps the texts of literals keeps the text of every node. -/
theorem text_edit (hvalue : ∀ kind value, e.value kind value = value) (node : Node) :
    (node.edit e).text = node.text :=
  text_edit_rel (fun _ => rfl) (fun h k => h ▸ k ▸ rfl) hvalue node

end Node

/-! ## Documents written out -/

/-- A heading with a text. Its depth is brought into the range from one to six. -/
def Node.ofTitle (depth : Nat) (title : String) : Node :=
  .ofKind (.heading ⟨max 1 (min depth 6), by omega, by omega⟩) [.ofText .text title]

end Quizmark
