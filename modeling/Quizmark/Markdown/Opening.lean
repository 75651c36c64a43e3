import Quizmark.Directive
import Quizmark.Markdown.HtmlBlock
import Quizmark.Markdown.Line
import Quizmark.Text.Digit

/-!
# How blocks begin

The line that begins a block tells its kind. Each function looks at the text of one line, behind
its indentation.

* `Fence.ofChars?`, `Container.ofChars?`: fenced code and container directives, with the lines that
  close them.
* `Heading.ofChars?`, `underlineLevel?`: the two forms of headings.
* `isThematicBreak`, `ListMarker.ofChars?`.
-/

namespace Quizmark.Markdown

/-- The number of characters at the front of a text that are `c`. -/
def runLength (c : Char) (cs : List Char) : Nat := (cs.takeWhile (· == c)).length

/-- Whether a text holds nothing but spaces and tabs. -/
def isOnlySpace (cs : List Char) : Bool := cs.all isSpaceOrTab

/-! ## Fenced code -/

/-- The opening line of fenced code. -/
structure Fence where
  mark : Char
  width : Nat
  info : List Char

/-- The fence that a text opens. -/
def Fence.ofChars? (cs : List Char) : Option Fence :=
  match cs with
  | c :: _ =>
    let width := runLength c cs
    let info := cs.drop width
    if (c = '\x60' ∨ c = '~') ∧ 3 ≤ width ∧ !(c == '\x60' && info.contains c) then
      some ⟨c, width, info⟩
    else none
  | [] => none

/-- Whether a text closes a fence. -/
def Fence.closes (fence : Fence) (cs : List Char) : Bool :=
  let width := runLength fence.mark cs
  fence.width ≤ width && isOnlySpace (cs.drop width)

/-! ## Container directives -/

/-- The opening line of a container directive. -/
structure Container where
  width : Nat
  params : List Char

/-- The container directive that a text opens. -/
def Container.ofChars? (cs : List Char) : Option Container :=
  let width := runLength ':' cs
  let params := cs.drop width
  if 3 ≤ width ∧ Directive.accepts params then some ⟨width, params⟩ else none

/-- Whether a text closes a container directive. -/
def Container.closes (container : Container) (cs : List Char) : Bool :=
  let width := runLength ':' cs
  container.width ≤ width && isOnlySpace (cs.drop width)

/-! ## Headings and breaks -/

/-- The line of a heading. -/
structure Heading where
  level : Nat
  content : List Char

/-- A text without the spaces and tabs at its end. -/
def dropSpaceAtEnd (cs : List Char) : List Char := (cs.reverse.dropWhile isSpaceOrTab).reverse

/-- The text of a heading without the number signs that may close it. -/
def dropClosingSigns (cs : List Char) : List Char :=
  let cs := dropSpaceAtEnd cs
  let front := (cs.reverse.dropWhile (· == '#')).reverse
  if front.getLast?.any isSpaceOrTab then front else cs

/-- The heading that a text is. -/
def Heading.ofChars? (cs : List Char) : Option Heading :=
  let level := runLength '#' cs
  let rest := cs.drop level
  if 1 ≤ level ∧ level ≤ 6 ∧ (rest.isEmpty ∨ rest.head?.any isSpaceOrTab) then
    some ⟨level, Text.trim (dropClosingSigns rest)⟩
  else none

/-- The level of the heading that a text underlines. -/
def underlineLevel? : List Char → Option Nat
  | [] => none
  | c :: cs =>
    if (c = '=' ∨ c = '-') ∧ isOnlySpace ((c :: cs).drop (runLength c (c :: cs))) then
      some (if c = '=' then 1 else 2)
    else none

/-- Whether a text is a thematic break. -/
def isThematicBreak : List Char → Bool
  | [] => false
  | c :: cs =>
    ['*', '-', '_'].contains c && cs.all (fun d => d == c || isSpaceOrTab d) &&
      2 ≤ (cs.filter (· == c)).length

/-! ## List items -/

/-- The marker of a list item: its number, if the list is ordered, the character that tells lists
apart, and its length. -/
structure ListMarker where
  number : Option Nat
  mark : Char
  length : Nat

namespace ListMarker

/-- The most digits of a number. -/
def maxNumberDigits : Nat := 9

/-- The marker, if a space, a tab or nothing follows it. -/
def check? (marker : ListMarker) (behind : List Char) : Option ListMarker :=
  if behind.isEmpty ∨ behind.head?.any isSpaceOrTab then some marker else none

/-- The marker at the front of a text. -/
def ofChars? (cs : List Char) : Option ListMarker :=
  let digits := cs.takeWhile Text.isDigit
  match cs.drop digits.length with
  | c :: behind =>
    if digits.isEmpty then
      if c = '*' ∨ c = '-' ∨ c = '+' then check? ⟨none, c, 1⟩ behind else none
    else if (c = '.' ∨ c = ')') ∧ digits.length ≤ maxNumberDigits then
      check? ⟨some (Text.ofDigits (digits.map Text.digitValue)), c, digits.length + 1⟩ behind
    else none
  | [] => none

/-- Whether a marker with this text behind it can end a paragraph: an ordered list must begin with
one, and the item must hold something. -/
def interruptsParagraph (marker : ListMarker) (behind : List Char) : Bool :=
  (marker.number.getD 1 == 1) && !isOnlySpace behind

/-- Whether two markers are those of one list. -/
def continues (marker first : ListMarker) : Bool :=
  marker.mark == first.mark && marker.number.isSome == first.number.isSome

end ListMarker

end Quizmark.Markdown
