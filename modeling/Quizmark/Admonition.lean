import Quizmark.Node.Walk

/-!
# Admonitions

A container directive named `tip`, `info`, `note`, `caution` or `danger` is an admonition.
`Node.rewriteAdmonitions` puts an element in the place of each one in a tree, at any depth. The
element keeps the children, the data and the extra fields; its attributes are the name of the
directive and its label, if that is not blank.
-/

namespace Quizmark

namespace Admonition

/-- The names of the directives that are admonitions. -/
def names : List String := ["tip", "info", "note", "caution", "danger"]

/-- The name of the element. -/
def elementName : String := "Admonition"

/-- The attributes of an admonition with a title. -/
def attributes (kind title : String) : List Attribute :=
  [⟨"type", some kind, []⟩, ⟨"title", some title, []⟩]

/-- The attributes of the element for a directive. -/
def attributesOf (name : String) (label : Option String) : List Attribute :=
  match label.map Text.trimmed with
  | some title => if title.isEmpty then [⟨"type", some name, []⟩] else attributes name title
  | none => [⟨"type", some name, []⟩]

/-- The kind of a node in the place of one of this kind. -/
def rewriteKind : BranchKind → BranchKind
  | .directive name label attrs =>
    if names.contains name then .element (some elementName) (attributesOf name label)
    else .directive name label attrs
  | kind => kind

/-- Whether a node of this kind is an admonition. -/
def isAdmonitionKind : BranchKind → Bool
  | .directive name _ _ => names.contains name
  | _ => false

end Admonition

namespace Node

open Admonition

/-- Whether a node is an admonition. -/
def isAdmonition : Node → Bool
  | branch kind .. => isAdmonitionKind kind
  | _ => false

mutual

/-- The tree with an element in the place of every admonition. -/
def rewriteAdmonitions : Node → Except Error Node
  | branch kind data children extra => do
    return branch (rewriteKind kind) data (← rewriteAll children) extra
  | literal kind data value extra => do
    return literal kind data value (← loosened extra).1
  | other type data value (some children) extra => do
    return other type data value (some (← rewriteAll children)) extra
  | other type data value none extra => .ok (other type data value none extra)
  termination_by structural node => node

/-- The nodes with an element in the place of every admonition. -/
def rewriteAll : List Node → Except Error (List Node)
  | [] => .ok []
  | node :: rest => do
    let node ← node.rewriteAdmonitions
    return node :: (← rewriteAll rest)
  termination_by structural nodes => nodes

end

mutual

/-- The number of admonitions in a tree. -/
def admonitionCount : Node → Nat
  | branch kind _ children _ =>
    (if isAdmonitionKind kind then 1 else 0) + admonitionCountAll children
  | literal .. => 0
  | other _ _ _ (some children) _ => admonitionCountAll children
  | other _ _ _ none _ => 0
  termination_by structural node => node

/-- The number of admonitions in nodes and below them. -/
def admonitionCountAll : List Node → Nat
  | [] => 0
  | node :: rest => node.admonitionCount + admonitionCountAll rest
  termination_by structural nodes => nodes

end

end Node

/-- The document with an element in the place of every admonition. -/
def Root.rewriteAdmonitions (root : Root) : Except Error Root := do
  return { root with children := ← Node.rewriteAll root.children }

end Quizmark
