import Quizmark.Markdown.Block
import Quizmark.Markdown.Conversion
import Quizmark.Markdown.Inline
import Quizmark.Markdown.TaskItem

/-!
# Documents

`elements?` reads Markdown source in two passes: the blocks first, which give the targets of all
labels, then the inline content of each. `parse` is the document that the source describes.
-/

namespace Quizmark.Markdown

mutual

/-- An element with its inline content read. -/
def readInline? (references : References) : Element → Option Element
  | .mk head children =>
    if head.type = "inline" then
      (inlineElements? references head.content.toList).map (.mk head)
    else
      (readAllInline? references children).map fun children => (Element.mk head children).markTask
  termination_by structural element => element

/-- Elements with their inline content read. -/
def readAllInline? (references : References) : List Element → Option (List Element)
  | [] => some []
  | element :: rest => do
    return (← readInline? references element) :: (← readAllInline? references rest)
  termination_by structural elements => elements

end

/-- The elements of Markdown source. -/
def elements? (source : String) : Option (List Element) :=
  let found := blocks maxBlockNesting {} (Line.ofSource source)
  readAllInline? found.references found.elements

/-- The document that Markdown source describes. -/
def parse (source : String) : Except Error Root :=
  match elements? source with
  | some elements => rootOfElements elements
  | none => .error .unbalanced

end Quizmark.Markdown
