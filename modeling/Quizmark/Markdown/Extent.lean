import Quizmark.Markdown.Opening
import Quizmark.Markdown.Table

/-!
# How far blocks reach

A block ends where a line does not belong to it. `interrupts` tells which lines end a block that
would otherwise go on; the other functions count the lines of a block behind its first line, or
give them as the blocks inside see them.
-/

namespace Quizmark.Markdown

/-- Where a block stands: the indentation of its lines and that of the list around it. -/
structure Context where
  indent : Int := 0
  listIndent : Option Int := none

/-- The blocks that other blocks can end. -/
inductive Interruptible where
  | paragraph
  | definition
  /-- A quotation or a table. -/
  | quotation
  | list
  deriving DecidableEq

/-! ## Beginnings in a context -/

/-- The marker of the list that a line begins. A line far right of the list around it, but left of
the text of the item, only continues a paragraph. -/
def listStart? (context : Context) (line : Line) : Option ListMarker :=
  let isStray := context.listIndent.any fun indent =>
    4 ≤ line.indent - indent && line.indent < context.indent
  if isStray then none else ListMarker.ofChars? line.text

/-- Whether a line begins a list that can end a block. -/
def listInterrupts (context : Context) (block : Interruptible) (line : Line) : Bool :=
  (listStart? context line).any fun marker =>
    block != .paragraph || line.indent < context.indent ||
      marker.interruptsParagraph (line.text.drop marker.length)

/-- Whether a line begins a table. -/
def tableStart? (context : Context) (line : Line) (more : List Line) : Option Table :=
  more.head?.bind (Table.ofLines? context.indent line)

/-- Whether a line ends a block that would go on with it. -/
def interrupts (context : Context) (block : Interruptible) (line : Line) (more : List Line) :
    Bool :=
  !line.isCode context.indent &&
    ((Container.ofChars? line.text).isSome || (Fence.ofChars? line.text).isSome ||
      line.text.head? == some '>' || isThematicBreak line.text ||
      (block != .list &&
        (listInterrupts context block line || (Heading.ofChars? line.text).isSome ||
          (HtmlBlock.ofChars? line.text).any HtmlBlock.interruptsParagraph)) ||
      ((block == .paragraph || block == .definition) && (tableStart? context line more).isSome))

/-! ## Paragraphs and headings -/

/-- Whether a line is too far right to begin a block inside a paragraph, or only continues one. -/
def continuesParagraph (context : Context) (line : Line) : Bool :=
  line.isCode context.indent || line.indent < 0

/-- The lines that go on with a block. -/
def continuation (context : Context) (block : Interruptible) : List Line → List Line
  | [] => []
  | line :: more =>
    if line.isBlank then []
    else if continuesParagraph context line || !interrupts context block line more then
      line :: continuation context block more
    else []

/-- The level of the heading that a line underlines. -/
def underline? (context : Context) (line : Line) : Option Nat :=
  if line.isCode context.indent ∨ line.indent < context.indent then none
  else underlineLevel? line.text

/-- The number of lines before the one that underlines a heading, and its level. -/
def headingReach? (context : Context) : List Line → Option (Nat × Nat)
  | [] => none
  | line :: more =>
    if line.isBlank then none
    else
      match underline? context line with
      | some level => some (0, level)
      | none =>
        if continuesParagraph context line || !interrupts context .paragraph line more then
          (headingReach? context more).map fun found => (found.1 + 1, found.2)
        else none

/-! ## Code, containers and HTML -/

/-- The number of lines of indented code. -/
def codeReach (context : Context) (lines : List Line) : Nat :=
  let block := lines.takeWhile fun line => line.isBlank || line.isCode context.indent
  (block.reverse.dropWhile Line.isBlank).length

/-- The number of lines before the one that closes a block, and whether there is one. A line left of
the block ends it. -/
def reachTo (context : Context) (closes : List Char → Bool) : List Line → Nat × Bool
  | [] => (0, false)
  | line :: more =>
    if !line.isBlank && line.indent < context.indent then (0, false)
    else if !line.isCode context.indent && closes line.text then (0, true)
    else
      let (count, isClosed) := reachTo context closes more
      (count + 1, isClosed)

/-- The lines without an empty one that the source ends with. -/
def dropUnended (lines : List Line) : List Line :=
  lines.takeWhile fun line => !line.isBlank || line.closed

/-- The number of lines of a block of HTML. -/
def htmlReach (context : Context) (kind : HtmlBlock) : List Line → Nat
  | [] => 0
  | line :: more =>
    if line.indent < context.indent then 0
    else if kind.endsIn line.text then if line.isBlank then 0 else 1
    else htmlReach context kind more + 1

/-- The rows of a table. -/
def tableRows (context : Context) (width : Nat) (missing : Int) :
    List Line → List (List (List Char))
  | [] => []
  | line :: more =>
    let cells := Table.cells line.text
    let missing := missing + (width - cells.length)
    if line.indent < context.indent || interrupts context .quotation line more ||
        Text.allBlank line.text || line.isCode context.indent ||
        missing > Table.maxMissingCells then []
    else cells :: tableRows context width missing more

/-! ## Front matter -/

/-- The number of dashes that front matter begins with. -/
def frontMatterWidth (line : Line) : Nat :=
  if line.isFirst ∧ line.source.head? = some '-' then 1 + runLength '-' (line.text.drop 1) else 0

/-- Whether a line closes front matter: with as many dashes, or with three dots. -/
def closesFrontMatter (context : Context) (width : Nat) (line : Line) : Bool :=
  let count := runLength '-' line.text
  line.text == ['.', '.', '.'] ||
    (!line.isCode context.indent && 0 < count && width ≤ count &&
      isOnlySpace (line.text.drop count))

/-- The number of lines of front matter before its end, and whether a line closes it. Front matter
without an end is none. -/
def frontMatterReach? (context : Context) (width : Nat) : List Line → Option (Nat × Bool)
  | [] => none
  | line :: more =>
    if !line.isBlank && line.indent < context.indent then some (0, false)
    else if closesFrontMatter context width line then some (0, true)
    else (frontMatterReach? context width more).map fun found => (found.1 + 1, found.2)

/-- The text of the lines of front matter. -/
def frontMatterText : List Line → List Char
  | [] => []
  | line :: more => line.lead ++ line.text ++ more.flatMap fun next => '\n' :: next.source

/-! ## Quotations -/

/-- A line without its quotation mark and one space behind it. A tab behind the mark counts for a
space as far as it reaches. -/
def unquote? (line : Line) : Option Line :=
  match line.text with
  | '>' :: cs =>
    let start := line.indent + 1
    let isSpace := cs.head? == some ' '
    let isTab := cs.head? == some '\t'
    let takesOne := isSpace || (isTab && (line.column + start) % 4 == 3)
    let inner := if takesOne then cs.drop 1 else cs
    let start := if takesOne then start + 1 else start
    let base := if isTab && !takesOne then line.column + 1 else line.column
    let (column, text) := skipSpaces base start inner
    some { line with
      lead := inner.takeWhile isSpaceOrTab
      text
      indent := column - start
      column := line.indent + if isSpace || isTab then 2 else 1 }
  | _ => none

/-- The lines of a quotation behind one that is empty or not, as the blocks inside see them. -/
def quotedLines (context : Context) (isEmpty : Bool) : List Line → List Line
  | [] => []
  | line :: more =>
    if line.isBlank then []
    else
      match if line.indent < context.indent then none else unquote? line with
      | some inner => inner :: quotedLines context inner.isBlank more
      | none =>
        if isEmpty || interrupts context .quotation line more then []
        else { line with indent := -1 } :: quotedLines context false more

/-! ## Items of lists -/

/-- The first line of an item without its marker, and the context of the blocks inside. -/
def itemStart (context : Context) (marker : ListMarker) (line : Line) : Line × Context :=
  let start := line.indent + marker.length
  let behind := line.text.drop marker.length
  let (column, text) := skipSpaces line.column start behind
  let width := column - start
  let width := if text.isEmpty || width > 4 then 1 else width
  ({ line with
      lead := line.lead ++ line.text.take (line.text.length - text.length)
      text
      indent := column },
    { indent := start + width, listIndent := some context.indent })

/-- The marker of the next item of a list. -/
def nextItem? (context : Context) (first : ListMarker) : List Line → Option ListMarker
  | [] => none
  | line :: more =>
    if line.indent < context.indent || line.isCode context.indent ||
        interrupts context .list line more then none
    else (ListMarker.ofChars? line.text).filter fun marker => marker.continues first

end Quizmark.Markdown
