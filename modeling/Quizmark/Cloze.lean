import Quizmark.Node.Walk
import Quizmark.Text.Substitute

/-!
# Cloze markers

A blank in a text is written as two opening braces, an answer and two closing braces.
`Cloze.rewrite` gives it the form that the renderer reads: a dollar sign and the answer in single
braces. An opening marker behind a backslash is no blank; it loses the backslash, inside an answer
too. The answer is not empty and ends at the first closing brace, which must be doubled. All else
stays as it is.

`Node.cloze` rewrites the text, code and inline code of a tree.
-/

namespace Quizmark

namespace Cloze

open Text (Match substitute)

/-- An escaped opening marker at the front of a text: the backslash goes. -/
def escape? : List Char → Option Match
  | '\\' :: '\x7b' :: '\x7b' :: _ => some ⟨['\x7b', '\x7b'], 3⟩
  | _ => none

/-- A text without the backslashes of its escaped markers. -/
def unescape (cs : List Char) : List Char := substitute escape? cs

/-- A blank at the front of a text. -/
def blank? : List Char → Option Match
  | '\x7b' :: '\x7b' :: cs =>
    let answer := cs.takeWhile (· != '\x7d')
    match answer, cs.dropWhile (· != '\x7d') with
    | _ :: _, '\x7d' :: '\x7d' :: _ =>
      some ⟨['$', '\x7b'] ++ unescape answer ++ ['\x7d'], answer.length + 4⟩
    | _, _ => none
  | _ => none

/-- An escaped marker or a blank at the front of a text. -/
def marker? (cs : List Char) : Option Match := (escape? cs).or (blank? cs)

/-- A text with its markers replaced. -/
def rewriteChars (cs : List Char) : List Char := substitute marker? cs

/-- A text with its markers replaced. -/
def rewrite (s : String) : String := String.ofList (rewriteChars s.toList)

end Cloze

namespace Node

/-- Replaces the markers in the text of one node. -/
def clozeStep (_ : Unit) : Node → Outcome Unit Node
  | literal kind data value extra =>
    ⟨literal kind data (if kind.hasCloze then Cloze.rewrite value else value) extra, (), none⟩
  | node => ⟨node, (), none⟩

/-- Replaces the markers in all texts of nodes and of what is below them. -/
def cloze (nodes : List Node) : Outcome Unit (List Node) := visitAll clozeStep () nodes

end Node

end Quizmark
