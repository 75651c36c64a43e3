import Quizmark.Node.Reader
import Quizmark.Proofs.Node.Position

/-!
# The text of a node, read off a walk

`Node.text` goes down a tree until it comes to a text; a listing walk always goes on. What they have
in common is told by positions.

* `Visit.Hidden`: something above the position holds a text itself.
* `Visit.shown?`: the text held at a position, unless it is hidden.
* `join_shown`: the text of a node is what its positions show, one after the other.
* `Node.met`: the positions that a listing walk comes to before it breaks off.
* `text_eq_join_shown`: what the text of a node is in terms of the walk over it.
-/

namespace Quizmark

namespace Visit

/-- The text that something holds itself. Raw values hold none. -/
def ownText? : Visit → Option String
  | node n => n.ownText?
  | raw _ => none

/-- Something above the position holds a text. -/
def Hidden (top : Visit) (position : List Nat) : Prop :=
  ∃ n < position.length, ((top.get? (position.take n)).bind ownText?).isSome = true

instance (top : Visit) (position : List Nat) : Decidable (top.Hidden position) :=
  inferInstanceAs (Decidable (∃ n < position.length, _))

/-- The text held at a position, unless something above hides it. -/
def shown? (top : Visit) (position : List Nat) : Option String :=
  if top.Hidden position then none else (top.get? position).bind ownText?

@[simp] theorem shown?_nil (top : Visit) : top.shown? [] = top.ownText? := by
  simp [shown?, Hidden]

theorem hidden_cons {top : Visit} {i : Nat} {position : List Nat} :
    top.Hidden (i :: position) ↔
      top.ownText?.isSome = true ∨ ∃ next, top.below[i]? = some next ∧ next.Hidden position := by
  rw [Hidden, List.length_cons, Nat.exists_lt_succ_left]
  refine or_congr Iff.rfl ?_
  simp only [List.take_succ_cons, get?_cons]
  cases top.below[i]? with
  | none => simp
  | some next => simp [Hidden]

/-- What holds a text shows it alone; elsewhere, each thing directly below shows what it would by
itself. -/
theorem shown?_cons (top : Visit) (i : Nat) (position : List Nat) :
    top.shown? (i :: position) =
      top.below[i]?.bind fun next =>
        if top.ownText?.isSome then none else next.shown? position := by
  rw [shown?, get?_cons]
  simp only [hidden_cons]
  cases top.below[i]? with
  | none => simp
  | some next =>
    by_cases hown : top.ownText?.isSome = true
    · simp [hown]
    · simp [hown, shown?]

end Visit

namespace Node

/-! ## The text of a node -/

theorem text_eq (node : Node) : node.text = node.ownText?.getD (textAll node.children) := by
  cases node with
  | branch kind data children extra =>
    rw [text, ownText?]
    cases (extra.get? "value").bind Json.str? <;> rfl
  | literal kind data value extra => rfl
  | other type data value children extra => cases value <;> cases children <;> rfl

/-- What the positions of a tree show: the text of its top, or all that is shown below. -/
theorem filterMap_shown? (node : Node) :
    node.positions.filterMap (Visit.node node).shown? =
      match node.ownText? with
      | some value => [value]
      | none => node.children.flatMap fun child =>
          child.positions.filterMap (Visit.node child).shown? := by
  rw [filterMap_positions fun i position => (Visit.node node).shown?_cons i position]
  cases hown : node.ownText? with
  | some value => simp [Visit.ownText?, hown]
  | none => simp [Visit.ownText?, hown]

/-- What is shown in a forest, tree by tree, is its text. -/
theorem join_shown_flatMap (nodes : List Node) :
    String.join (nodes.flatMap fun node => node.positions.filterMap (Visit.node node).shown?) =
      textAll nodes := by
  induction nodes using children_induction with
  | nil => rfl
  | cons node rest ihc ihr =>
    rw [List.flatMap_cons, String.join_append, ihr, textAll, text_eq, filterMap_shown?]
    congr 1
    cases node.ownText? with
    | some value => simp
    | none => exact ihc

/-- The text of a node is what its positions show, one after the other. -/
theorem join_shown (node : Node) :
    String.join (node.positions.filterMap (Visit.node node).shown?) = node.text := by
  simpa [textAll] using join_shown_flatMap [node]

/-! ## The text and the walk -/

/-- The positions that a listing walk comes to. -/
def met (node : Node) : List (List Nat) := node.positions.take node.walk.visits.length

/-- The positions behind those, if the walk breaks off. -/
def unmet (node : Node) : List (List Nat) := node.positions.drop node.walk.visits.length

theorem met_append_unmet (node : Node) : node.met ++ node.unmet = node.positions :=
  List.take_append_drop _ _

theorem follows_standing (node : Node) : node.walk.Follows node.standing := by
  simpa [walkAll_singleton] using follows_walkAll [node]

/-- The walk meets what stands at the first positions. -/
theorem map_met (node : Node) :
    node.met.map (Visit.node node).get? = node.walk.visits.map some := by
  have hvisits := List.prefix_iff_eq_take.mp (follows_standing node).begins
  rw [met, List.map_take, ← map_standing, ← List.map_take, ← hvisits]

/-- A walk that does not break meets every position. -/
theorem met_eq_positions {node : Node} (h : node.walk.broken = false) :
    node.met = node.positions := by
  have hlength := congrArg List.length (map_standing node)
  rw [List.length_map, List.length_map, ← (follows_standing node).whole h] at hlength
  rw [met, hlength, List.take_length]

/-- A walk breaks exactly if some node has loose children that cannot be walked through. -/
theorem walk_broken_eq_false_iff (node : Node) :
    node.walk.broken = false ↔ ∀ below ∈ node.inOrder, below.looseFault? = none := by
  have hall := walkAll_broken [node]
  rw [walkAll_singleton, inOrderAll, inOrderAll, List.append_nil] at hall
  rw [hall]
  simp

theorem join_eq_empty_iff {texts : List String} :
    String.join texts = "" ↔ ∀ text ∈ texts, text = "" := by
  induction texts with
  | nil => simp
  | cons text rest ih => simp [ih]

/-- The text can be read off what the walk met if only empty texts are shown behind. -/
theorem text_eq_join_met_iff (node : Node) :
    node.text = String.join (node.met.filterMap (Visit.node node).shown?) ↔
      ∀ position ∈ node.unmet, ∀ value,
        (Visit.node node).shown? position = some value → value = "" := by
  rw [← join_shown, ← met_append_unmet, List.filterMap_append, String.join_append,
    String.append_eq_left_iff, join_eq_empty_iff]
  simp only [List.mem_filterMap]
  constructor
  · intro h position hposition value hvalue
    exact h value ⟨position, hposition, hvalue⟩
  · rintro h value ⟨position, hposition, hvalue⟩
    exact h position hposition value hvalue

/-- **The text of a node is what a walk over it shows.** The positions of a tree are those at which
something stands, in order, and a listing walk meets what stands at the first of them, one after the
other. The text consists of the texts held at the positions that nothing above hides.

A walk that does not break off comes to all positions, so what it meets gives the text. A walk
breaks off exactly at loose children that have no items to give. What was met then gives the text
only if no text, or none but empty ones, is shown behind. -/
theorem text_eq_join_shown (node : Node) :
    (node.positions.Pairwise (List.Lex (· < ·)) ∧
      ∀ position, position ∈ node.positions ↔
        ((Visit.node node).get? position).isSome = true) ∧
    node.met.map (Visit.node node).get? = node.walk.visits.map some ∧
    node.text = String.join (node.positions.filterMap (Visit.node node).shown?) ∧
    if ∀ below ∈ node.inOrder, below.looseFault? = none then
      node.walk.broken = false ∧ node.met = node.positions ∧
        node.text = String.join (node.met.filterMap (Visit.node node).shown?)
    else
      node.walk.broken = true ∧
        (node.text = String.join (node.met.filterMap (Visit.node node).shown?) ↔
          ∀ position ∈ node.unmet, ∀ value,
            (Visit.node node).shown? position = some value → value = "") := by
  refine ⟨⟨positions_pairwise node, fun _ => mem_positions⟩, map_met node,
    (join_shown node).symm, ?_⟩
  split
  · next hall =>
    have hbroken := (walk_broken_eq_false_iff node).mpr hall
    have hmet := met_eq_positions hbroken
    exact ⟨hbroken, hmet, by rw [hmet, join_shown]⟩
  · next hloose =>
    rw [← walk_broken_eq_false_iff, Bool.not_eq_false] at hloose
    exact ⟨hloose, text_eq_join_met_iff node⟩

/-- A generic node with a value and children, a paragraph with an extra value, and a leaf. -/
def shadowed : Node :=
  .ofKind .root [
    .other "link" none (.str "Ebb") (some [.ofText .text "hidden"]) [],
    .branch .paragraph none [.ofText .text "hidden"] [("value", .str " and ")],
    .ofText .text "flood"]

example : shadowed.walk.visits.length = 6 ∧
    shadowed.met.filterMap (Visit.node shadowed).shown? = ["Ebb", " and ", "flood"] := by
  decide

/-- A root over two leaves, the first with loose children that have no items. -/
def brittlePayload : Json :=
  .obj [("type", .str "root"), ("children", .arr [
    .obj [("type", .str "text"), ("value", .str "Ebb"), ("children", .num 5)],
    .obj [("type", .str "text"), ("value", .str "Flood")]])]

/-- The text of a node goes on where a walk over it breaks off. -/
theorem text_behind_break :
    ∃ node, ofJson brittlePayload = .ok node ∧ node.walk.broken = true ∧
      node.text ≠ String.join (node.met.filterMap (Visit.node node).shown?) :=
  ⟨_, rfl, by decide, by decide⟩

end Node

end Quizmark
