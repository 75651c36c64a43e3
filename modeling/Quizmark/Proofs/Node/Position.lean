import Quizmark.Proofs.Node.Replacing
import Quizmark.Proofs.Node.Visit

/-!
# Positions in a tree

A position leads from a node down to something that a walk over it meets: each number tells which of
the things directly below to take next. Equal nodes may stand at several positions, so it is a
position, and not a node, that has something above it: what stands at its beginnings.

* `Visit.get?`: what stands at a position.
* `Node.positions`: the positions of a tree, which are those at which something stands
  (`mem_positions`), in the order of their numbers (`positions_pairwise`).
* `Node.standing`: what stands at them.
* `walkAll_broken`: a listing walk breaks off exactly if loose children have no items to give, which
  also stops every pass.
* `follows_walkAll`: until it breaks off, the walk comes to what stands at the positions, one after
  the other.
-/

namespace Quizmark

namespace Visit

/-- What stands directly below something. -/
def below : Visit → List Visit
  | node n => n.children.map node ++ n.looseValues.map raw
  | raw _ => []

/-- What stands at a position. -/
def get? : Visit → List Nat → Option Visit
  | top, [] => some top
  | top, i :: position => top.below[i]?.bind fun next => next.get? position

@[simp] theorem get?_nil (top : Visit) : top.get? [] = some top := rfl

@[simp] theorem get?_cons (top : Visit) (i : Nat) (position : List Nat) :
    top.get? (i :: position) = top.below[i]?.bind fun next => next.get? position := rfl

end Visit

/-- A walk comes to these things one after the other, and to all if it does not break off. -/
structure Walk.Follows (walk : Walk) (things : List Visit) : Prop where
  begins : walk.visits <+: things
  whole : walk.broken = false → walk.visits = things

namespace Node

/-! ## The positions of a tree -/

mutual

/-- The positions of a tree in document order. -/
def positions : Node → List (List Nat)
  | branch _ _ children _ => [] :: positionsFrom 0 children
  | literal kind data value extra =>
    [] :: (List.range (literal kind data value extra).looseValues.length).map fun i => [i]
  | other _ _ _ (some children) _ => [] :: positionsFrom 0 children
  | other _ _ _ none _ => [[]]
  termination_by structural node => node

/-- The positions of nodes that stand side by side, from number `i` on. -/
def positionsFrom (i : Nat) : List Node → List (List Nat)
  | [] => []
  | node :: rest => node.positions.map (i :: ·) ++ positionsFrom (i + 1) rest
  termination_by structural nodes => nodes

end

theorem positions_eq (node : Node) :
    node.positions =
      [] :: (positionsFrom 0 node.children ++
        (List.range node.looseValues.length).map fun i => [i]) := by
  cases node with
  | branch kind data children extra =>
    simp [positions, Node.children, looseValues, looseChildren?]
  | literal kind data value extra => rfl
  | other type data value children extra =>
    cases children <;>
      simp [positions, Node.children, positionsFrom, looseValues, looseChildren?]

/-- A position in a forest is the number of a tree and a position in that. -/
theorem mem_positionsFrom {i : Nat} {nodes : List Node} {position : List Nat} :
    position ∈ positionsFrom i nodes ↔
      ∃ j node inner, nodes[j]? = some node ∧ inner ∈ node.positions ∧
        position = (i + j) :: inner := by
  induction nodes generalizing i with
  | nil => simp [positionsFrom]
  | cons first rest ih =>
    rw [positionsFrom, List.mem_append, List.mem_map, ih]
    constructor
    · rintro (⟨inner, hinner, rfl⟩ | ⟨j, node, inner, hnode, hinner, rfl⟩)
      · exact ⟨0, first, inner, rfl, hinner, rfl⟩
      · exact ⟨j + 1, node, inner, hnode, hinner, by rw [Nat.add_right_comm, Nat.add_assoc]⟩
    · rintro ⟨j, node, inner, hnode, hinner, rfl⟩
      cases j with
      | zero =>
        cases hnode
        exact .inl ⟨inner, hinner, rfl⟩
      | succ j =>
        exact .inr ⟨j, node, inner, hnode, hinner, by rw [Nat.add_right_comm, Nat.add_assoc]⟩

/-- The positions below a node lead over the things directly below it. -/
theorem cons_mem_positions {node : Node} {i : Nat} {inner : List Nat} :
    i :: inner ∈ node.positions ↔
      (∃ child, node.children[i]? = some child ∧ inner ∈ child.positions) ∨
        i < node.looseValues.length ∧ inner = [] := by
  rw [positions_eq, List.mem_cons, List.mem_append, mem_positionsFrom]
  simp [and_comm]

/-- A node with children has no loose ones. -/
theorem looseValues_of_children_ne_nil {node : Node} (h : node.children ≠ []) :
    node.looseValues = [] :=
  (looseValues_eq_nil_or node).resolve_right h

/-- What stands directly below a node: its children, or the items of its loose children. -/
theorem getElem?_below (node : Node) (i : Nat) :
    (Visit.node node).below[i]? =
      (node.children[i]?.map Visit.node).or (node.looseValues[i]?.map Visit.raw) := by
  rcases looseValues_eq_nil_or node with hnone | hnone <;> simp [Visit.below, hnone]

/-- The law of `mem_positions` for all trees of a forest, since the induction is over forests. -/
theorem mem_positions_of_mem (nodes : List Node) :
    ∀ node ∈ nodes, ∀ position,
      position ∈ node.positions ↔ ((Visit.node node).get? position).isSome = true := by
  induction nodes using children_induction with
  | nil => simp
  | cons node rest ihc ihr =>
    intro n hn position
    rcases List.mem_cons.mp hn with rfl | hn
    · cases position with
      | nil => simp [positions_eq]
      | cons i inner =>
        rw [cons_mem_positions, Visit.get?_cons, getElem?_below]
        cases hchild : n.children[i]? with
        | some child =>
          have hmem : child ∈ n.children := List.mem_of_getElem? hchild
          have hloose := looseValues_of_children_ne_nil (List.ne_nil_of_mem hmem)
          simp [hloose, ihc child hmem inner]
        | none =>
          -- Only a raw value can stand there, and nothing stands below it.
          cases inner with
          | nil => simp
          | cons j inner => simp [Visit.below]
    · exact ihr n hn position

/-- The positions of a tree are those at which something stands. -/
theorem mem_positions {node : Node} {position : List Nat} :
    position ∈ node.positions ↔ ((Visit.node node).get? position).isSome = true :=
  mem_positions_of_mem [node] node (List.mem_singleton_self node) position

/-! ## The order of the positions -/

/-- In document order positions ascend, from tree to tree and within each. -/
theorem positionsFrom_pairwise {nodes : List Node}
    (h : ∀ node ∈ nodes, node.positions.Pairwise (List.Lex (· < ·))) (i : Nat) :
    (positionsFrom i nodes).Pairwise (List.Lex (· < ·)) := by
  induction nodes generalizing i with
  | nil => exact .nil
  | cons node rest ih =>
    rw [List.forall_mem_cons] at h
    obtain ⟨hnode, hrest⟩ := h
    rw [positionsFrom, List.pairwise_append, List.pairwise_map]
    refine ⟨hnode.imp .cons, ih hrest (i + 1), ?_⟩
    intro first hfirst later hlater
    obtain ⟨inner, -, rfl⟩ := List.mem_map.mp hfirst
    obtain ⟨j, other, inner', -, -, rfl⟩ := mem_positionsFrom.mp hlater
    exact .rel (by omega)

theorem positions_pairwise_of_mem (nodes : List Node) :
    ∀ node ∈ nodes, node.positions.Pairwise (List.Lex (· < ·)) := by
  induction nodes using children_induction with
  | nil => simp
  | cons node rest ihc ihr =>
    rw [List.forall_mem_cons]
    refine ⟨?_, ihr⟩
    rw [positions_eq, List.pairwise_cons]
    constructor
    · intro position hposition
      obtain ⟨i, inner, rfl⟩ : ∃ i inner, position = i :: inner := by
        rw [List.mem_append, mem_positionsFrom, List.mem_map] at hposition
        rcases hposition with ⟨j, child, inner, -, -, rfl⟩ | ⟨i, -, rfl⟩
        · exact ⟨_, _, rfl⟩
        · exact ⟨_, _, rfl⟩
      exact .nil
    -- No node has both children and loose values, so one of the two lists is empty.
    · rcases looseValues_eq_nil_or node with hnone | hnone
      · simpa [hnone] using positionsFrom_pairwise ihc 0
      · rw [hnone, positionsFrom, List.nil_append, List.pairwise_map]
        exact List.pairwise_lt_range.imp .rel

/-- A position comes before those below it, and these come before those further on. -/
theorem positions_pairwise (node : Node) : node.positions.Pairwise (List.Lex (· < ·)) :=
  positions_pairwise_of_mem [node] node (List.mem_singleton_self node)

/-! ## What is found at the positions -/

section Look

variable {α : Type} {look : List Nat → Option α} {inner : Visit → List Nat → Option α}

theorem filterMap_positionsFrom {nodes : List Node} {i : Nat}
    (h : ∀ j node, nodes[j]? = some node →
      ∀ position, look ((i + j) :: position) = inner (.node node) position) :
    (positionsFrom i nodes).filterMap look =
      nodes.flatMap fun node => node.positions.filterMap (inner (.node node)) := by
  induction nodes generalizing i with
  | nil => rfl
  | cons node rest ih =>
    have hfirst : ∀ position, look (i :: position) = inner (.node node) position := h 0 node rfl
    have hrest := ih (i := i + 1) fun j later hlater position => by
      rw [Nat.add_right_comm, Nat.add_assoc]
      exact h (j + 1) later hlater position
    rw [positionsFrom, List.filterMap_append, List.filterMap_map, hrest, List.flatMap_cons]
    congr 2
    funext position
    exact hfirst position

theorem filterMap_range {β : Type} (values : List β) (f : β → Option α) :
    ((List.range values.length).filterMap fun i => values[i]?.bind f) = values.filterMap f := by
  induction values with
  | nil => rfl
  | cons value rest ih =>
    rw [List.length_cons, List.range_succ_eq_map, List.filterMap_cons, List.filterMap_map,
      List.filterMap_cons, ← ih]
    rfl

/-- A search that looks at each position below a node from the thing below it on finds what searches
from these things find. -/
theorem filterMap_positions {node : Node}
    (h : ∀ i position, look (i :: position) =
      (Visit.node node).below[i]?.bind fun next => inner next position) :
    node.positions.filterMap look =
      (look []).toList ++
        (node.children.flatMap (fun child => child.positions.filterMap (inner (.node child))) ++
          node.looseValues.filterMap fun value => inner (.raw value) []) := by
  have hchildren : (positionsFrom 0 node.children).filterMap look =
      node.children.flatMap fun child => child.positions.filterMap (inner (.node child)) := by
    apply filterMap_positionsFrom
    intro j child hchild position
    rw [Nat.zero_add, h, getElem?_below, hchild]
    rfl
  -- Loose values count from zero, as no children stand before them.
  have hloose : ((List.range node.looseValues.length).map fun i => [i]).filterMap look =
      node.looseValues.filterMap fun value => inner (.raw value) [] := by
    rcases looseValues_eq_nil_or node with hnone | hnone
    · rw [hnone]
      rfl
    · rw [List.filterMap_map, ← filterMap_range node.looseValues]
      apply List.filterMap_congr
      intro i _
      show look [i] = _
      rw [h, Visit.below, hnone, List.map_nil, List.nil_append, List.getElem?_map, Option.bind_map]
      rfl
  rw [positions_eq, ← hchildren, ← hloose, List.filterMap_cons, List.filterMap_append]
  cases look [] <;> rfl

end Look

/-- What stands at the positions of a tree. -/
def standing (node : Node) : List Visit := node.positions.filterMap (Visit.node node).get?

theorem standing_eq (node : Node) :
    node.standing =
      .node node :: (node.children.flatMap standing ++ node.looseValues.map .raw) := by
  rw [standing, filterMap_positions fun i position => (Visit.node node).get?_cons i position]
  simp only [Visit.get?_nil, List.filterMap_eq_map', Option.toList_some, List.singleton_append]
  rfl

/-- At each position there stands exactly one thing. -/
theorem map_standing (node : Node) :
    node.standing.map some = node.positions.map (Visit.node node).get? := by
  have hall : ∀ position ∈ node.positions, ((Visit.node node).get? position).isSome = true :=
    fun position => mem_positions.mp
  rw [standing]
  generalize node.positions = positions at hall
  induction positions with
  | nil => rfl
  | cons position rest ih =>
    rw [List.forall_mem_cons, Option.isSome_iff_exists] at hall
    obtain ⟨⟨visit, hvisit⟩, hrest⟩ := hall
    rw [List.filterMap_cons, hvisit, List.map_cons, List.map_cons, ih hrest, hvisit]

/-! ## The walk along the positions -/

theorem looseValues_literal (kind : LiteralKind) (data : Option Fields) (value : String)
    (extra : Fields) :
    (literal kind data value extra).looseValues = (looseItems? extra).getD [] := by
  rw [looseValues, looseChildren?, looseItems?]
  cases extra.children? with
  | none => rfl
  | some loose =>
    cases hloose : loose.isTruthy with
    | true => simp [hloose]
    | false => cases loose <;> simp_all [Json.isTruthy, Json.items?]

/-- A walk goes through a node, its children and its loose values, and breaks where the loose
children cannot be walked through. -/
theorem walk_eq (node : Node) :
    node.walk =
      ⟨.node node :: ((walkAll node.children).visits ++ node.looseValues.map .raw),
        (walkAll node.children).broken || node.looseFault?.isSome⟩ := by
  cases node with
  | branch kind data children extra =>
    simp [walk, Node.children, looseValues, looseChildren?, looseFault?]
  | literal kind data value extra =>
    rw [looseValues_literal, walk, looseFault?]
    cases looseItems? extra <;> simp [Node.children, walkAll]
  | other type data value children extra =>
    cases children <;>
      simp [walk, walkAll, Node.children, looseValues, looseChildren?, looseFault?]

/-- A listing walk breaks off exactly at loose children that have no items to give. -/
theorem walkAll_broken (nodes : List Node) :
    (walkAll nodes).broken = (inOrderAll nodes).any fun node => node.looseFault?.isSome := by
  induction nodes using children_induction with
  | nil => rfl
  | cons node rest ihc ihr =>
    rw [inOrderAll_cons, List.any_cons, List.any_append, ← ihc, ← ihr, walkAll, walk_eq]
    cases (walkAll node.children).broken <;> cases node.looseFault?.isSome <;> simp

/-- A walk through a node follows what stands in it, if the walk through its children does. -/
theorem follows_walk {node : Node}
    (h : (walkAll node.children).Follows (node.children.flatMap standing)) :
    node.walk.Follows node.standing := by
  rw [walk_eq, standing_eq]
  cases hbroken : (walkAll node.children).broken with
  | false =>
    rw [h.whole hbroken]
    exact ⟨List.prefix_rfl, fun _ => rfl⟩
  | true =>
    -- The walk has broken off below the node, so there are children, and no loose ones behind.
    have hchildren : node.children ≠ [] := by
      intro hnil
      rw [hnil] at hbroken
      cases hbroken
    rw [looseValues_of_children_ne_nil hchildren, List.map_nil, List.append_nil, List.append_nil]
    exact ⟨List.cons_prefix_cons.mpr ⟨rfl, h.begins⟩, fun hwhole => by cases hwhole⟩

/-- A listing walk comes to what stands at the positions of the nodes. -/
theorem follows_walkAll (nodes : List Node) :
    (walkAll nodes).Follows (nodes.flatMap standing) := by
  induction nodes using children_induction with
  | nil => exact ⟨List.prefix_rfl, fun _ => rfl⟩
  | cons node rest ihc ihr =>
    have hnode := follows_walk ihc
    rw [List.flatMap_cons]
    cases hbroken : node.walk.broken with
    | true =>
      rw [walkAll, if_pos hbroken]
      refine ⟨hnode.begins.trans (List.prefix_append _ _), fun hwhole => ?_⟩
      rw [hbroken] at hwhole
      cases hwhole
    | false =>
      rw [walkAll_cons hbroken, hnode.whole hbroken]
      refine ⟨(List.prefix_append_right_inj _).mpr ihr.begins, fun hwhole => ?_⟩
      rw [ihr.whole hwhole]

end Node

end Quizmark
