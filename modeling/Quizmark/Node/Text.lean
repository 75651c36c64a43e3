import Quizmark.Node.Basic
import Quizmark.Text.Blank

/-!
# The text of nodes

`Node.text` is the text of a node: its own, if it holds one, else the texts of its children one
after the other. `nodesText` puts each node of a list on a line of its own, and `Node.title` is the
text of a heading without the blanks around it.
-/

namespace Quizmark

namespace Node

/-- The text that a node itself holds, which hides the texts below it. -/
def ownText? : Node → Option String
  | branch _ _ _ extra => (extra.get? "value").bind Json.str?
  | literal _ _ value _ => some value
  | other _ _ value _ _ => value.str?

mutual

/-- The text of a node. -/
def text : Node → String
  | branch _ _ children extra =>
    match (extra.get? "value").bind Json.str? with
    | some value => value
    | none => textAll children
  | literal _ _ value _ => value
  | other _ _ (.str value) _ _ => value
  | other _ _ _ (some children) _ => textAll children
  | other _ _ _ none _ => ""
  termination_by structural node => node

/-- The texts of nodes one after the other. -/
def textAll : List Node → String
  | [] => ""
  | node :: rest => node.text ++ textAll rest
  termination_by structural nodes => nodes

end

/-- The text of a heading without the blanks around it. -/
def title (node : Node) : String := Text.trimmed node.text

end Node

/-- The texts of nodes, a line feed between two. -/
def nodesText : List Node → String
  | [] => ""
  | [node] => node.text
  | node :: rest => node.text ++ "\n" ++ nodesText rest

end Quizmark
