import Quizmark.Markdown.Token

/-!
# Task items

An item of a list whose first paragraph begins with `[ ]` or `[x]` is a task. `Element.markTask`
puts a checkbox in the place of the brackets.
-/

namespace Quizmark.Markdown

/-- White space behind the brackets of a task. -/
def isTaskSpace (c : Char) : Bool := c == ' ' || (9 ≤ c.toNat && c.toNat ≤ 13)

/-- The box that a task begins with, empty or checked, and the character behind it. -/
def taskBox? : List Char → Option (Bool × Char)
  | '[' :: mark :: ']' :: behind :: _ =>
    if isTaskSpace behind then
      if mark = ' ' then some (false, behind)
      else if mark = 'x' ∨ mark = 'X' then some (true, behind)
      else none
    else none
  | _ => none

/-- The source of a checkbox. Behind anything but a space there is none. -/
def checkboxSource (isChecked : Bool) (behind : Char) : String :=
  if behind = ' ' then
    "<input class=\"task-list-item-checkbox\" " ++
      (if isChecked then "checked=\"checked\" " else "") ++
      "disabled=\"disabled\" type=\"checkbox\">"
  else ""

/-- An element without the first three characters of its content. -/
def dropBox : Element → Element
  | .mk head children =>
    .mk { head with content := String.ofList (head.content.toList.drop 3) } children

/-- The inline content of a task with its checkbox. -/
def insertCheckbox (isChecked : Bool) (behind : Char) (inline : List Element) : List Element :=
  .mk { type := "html_inline", content := checkboxSource isChecked behind } [] ::
    match inline with
    | [] => []
    | first :: rest => dropBox first :: rest

namespace Element

/-- An item of a list with a checkbox, if it is a task. -/
def markTask : Element → Element
  | mk item (mk paragraph [mk inline content] :: rest) =>
    if item.type = "list_item" ∧ paragraph.type = "paragraph" then
      match taskBox? inline.content.toList with
      | some (isChecked, behind) =>
        mk item (mk paragraph [mk inline (insertCheckbox isChecked behind content)] :: rest)
      | none => mk item (mk paragraph [mk inline content] :: rest)
    else mk item (mk paragraph [mk inline content] :: rest)
  | element => element

end Element

end Quizmark.Markdown
