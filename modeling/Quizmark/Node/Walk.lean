import Quizmark.Error
import Quizmark.Node.Text

/-!
# Walks over a tree

All walks are in document order: a node before its children, a child before the next one.

* `Node.walk` lists what a walk meets. Where an extra field `children` of a literal is a list, a
  text or an object, the walk meets its items too, as raw values; if it has no items to give, the
  walk breaks off there. If it is null, it counts as absent.
* `Node.visit` changes nodes one by one along the walk and carries a state. When a step fails, what
  was changed before stays changed and the rest stays as it was.
* `Node.mapFrom` replaces nodes and goes on in the children of the replacement.
-/

namespace Quizmark

/-- What a walk meets. -/
inductive Visit where
  | node (n : Node)
  | raw (value : Json)

/-- The type of what a walk meets; raw values have none. -/
def Visit.type? : Visit → Option String
  | node n => some n.type
  | raw _ => none

/-- The items of a value: those of an array, the characters of a text, the names of the fields of
an object. Other values have none to give. -/
def Json.items? : Json → Option (List Json)
  | arr items => some items
  | str s => some (s.toList.map fun c => str (String.singleton c))
  | obj fields => some (fields.map fun f => str f.1)
  | _ => none

/-- The extra field that stands in the place of children, if it is there and not null. -/
def Fields.children? (extra : Fields) : Option Json :=
  (extra.get? "children").filter fun value => !value.isNull

/-- The raw values that a walk meets below a literal with these extra fields, or `none` if it breaks
off there. -/
def looseItems? (extra : Fields) : Option (List Json) :=
  match extra.children? with
  | none => some []
  | some value => if value.isTruthy then value.items? else some []

/-! ## Listing -/

/-- What a walk met, and whether it broke off. -/
structure Walk where
  visits : List Visit
  broken : Bool := false

namespace Node

mutual

/-- The walk over a node and all below it. -/
def walk : Node → Walk
  | branch kind data children extra =>
    let below := walkAll children
    ⟨.node (branch kind data children extra) :: below.visits, below.broken⟩
  | literal kind data value extra =>
    let here := Visit.node (literal kind data value extra)
    match looseItems? extra with
    | some items => ⟨here :: items.map .raw, false⟩
    | none => ⟨[here], true⟩
  | other type data value (some children) extra =>
    let below := walkAll children
    ⟨.node (other type data value (some children) extra) :: below.visits, below.broken⟩
  | other type data value none extra => ⟨[.node (other type data value none extra)], false⟩
  termination_by structural node => node

/-- The walk over nodes one after the other. -/
def walkAll : List Node → Walk
  | [] => ⟨[], false⟩
  | node :: rest =>
    let first := node.walk
    if first.broken then first
    else
      let others := walkAll rest
      ⟨first.visits ++ others.visits, others.broken⟩
  termination_by structural nodes => nodes

end

/-- The text of what stands directly below a node, each on a line of its own. Raw values have no
text. -/
def childrenText : Node → String
  | literal _ _ _ extra =>
    "\n".intercalate (((looseItems? extra).getD []).map fun _ => "")
  | node => nodesText node.children

end Node

/-! ## Changing nodes in place -/

/-- What a pass over nodes leaves: the nodes, the state, and what stopped the pass. -/
structure Outcome (σ α : Type) where
  value : α
  state : σ
  fault : Option Error := none

namespace Node

mutual

/-- Applies `step` to a node and to all below it. A step keeps the children of its node. -/
def visit {σ : Type} (step : σ → Node → Outcome σ Node) (state : σ) : Node → Outcome σ Node
  | branch kind data children extra =>
    let here := step state (branch kind data children extra)
    match here.fault with
    | some _ => here
    | none =>
      let below := visitAll step here.state children
      ⟨here.value.withChildren below.value, below.state, below.fault⟩
  | literal kind data value extra =>
    let here := step state (literal kind data value extra)
    match here.fault, looseItems? extra with
    | none, none => ⟨here.value, here.state, some .notIterable⟩
    | _, _ => here
  | other type data value (some children) extra =>
    let here := step state (other type data value (some children) extra)
    match here.fault with
    | some _ => here
    | none =>
      let below := visitAll step here.state children
      ⟨here.value.withChildren below.value, below.state, below.fault⟩
  | other type data value none extra => step state (other type data value none extra)
  termination_by structural node => node

/-- Applies `step` to nodes one after the other and to all below them. -/
def visitAll {σ : Type} (step : σ → Node → Outcome σ Node) (state : σ) :
    List Node → Outcome σ (List Node)
  | [] => ⟨[], state, none⟩
  | node :: rest =>
    let first := node.visit step state
    match first.fault with
    | some fault => ⟨first.value :: rest, first.state, some fault⟩
    | none =>
      let others := visitAll step first.state rest
      ⟨first.value :: others.value, others.state, others.fault⟩
  termination_by structural nodes => nodes

end

/-! ## Replacing nodes -/

/-- Replaces each node of a list and gathers what the replacing met. -/
def mapList (f : Node → Except Error (Node × List Visit)) :
    List Node → Except Error (List Node × List Visit)
  | [] => .ok ([], [])
  | node :: rest => do
    let (node, here) ← f node
    let (rest, others) ← mapList f rest
    return (node :: rest, here ++ others)

/-- The extra fields of a literal after a replacing walk: its loose children become a list. -/
def loosened (extra : Fields) : Except Error (Fields × List Json) :=
  match extra.children? with
  | none => .ok (extra, [])
  | some value =>
    match value.items? with
    | some items => .ok (extra.put "children" (.arr items), items)
    | none => .error .notIterable

/-- Puts `f node` in the place of a node and goes on in the children of `f node`. The first argument
bounds the depth; a walk that exceeds it has no end. -/
def mapFrom (f : Node → Node) : Nat → Node → Except Error (Node × List Visit)
  | 0, _ => .error .endless
  | depth + 1, node =>
    match f node with
    | branch kind data children extra => do
      let (children, below) ← mapList (mapFrom f depth) children
      return (branch kind data children extra, .node node :: below)
    | literal kind data value extra => do
      let (extra, items) ← loosened extra
      return (literal kind data value extra, .node node :: items.map .raw)
    | other type data value (some children) extra => do
      let (children, below) ← mapList (mapFrom f depth) children
      return (other type data value (some children) extra, .node node :: below)
    | other type data value none extra =>
      return (other type data value none extra, [.node node])

mutual

/-- The number of levels of a tree. -/
def height : Node → Nat
  | branch _ _ children _ => heightAll children + 1
  | literal .. => 1
  | other _ _ _ (some children) _ => heightAll children + 1
  | other _ _ _ none _ => 1
  termination_by structural node => node

/-- The greatest height of nodes. -/
def heightAll : List Node → Nat
  | [] => 0
  | node :: rest => max node.height (heightAll rest)
  termination_by structural nodes => nodes

end

/-- Replaces every node whose type has a rule. A replacement of one type contains no other of that
type unless the walk is endless, so no path is longer than the heights of the tree and of all
replacements together. -/
def replaceByType (rules : List (String × Node)) (node : Node) :
    Except Error (Node × List Visit) :=
  let depth := rules.foldr (fun rule n => rule.2.height + n) node.height
  mapFrom (fun n => (rules.lookup n.type).getD n) depth node

end Node

end Quizmark
