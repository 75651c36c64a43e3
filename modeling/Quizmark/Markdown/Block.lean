import Quizmark.Markdown.Definition
import Quizmark.Markdown.Extent

/-!
# Blocks

`blocks` reads lines as a list of blocks. The content of paragraphs, headings and cells stays raw:
a definition further down may still give a label a target.

At every line the kinds of blocks are tried in a fixed order (`leafBlock?`, `nestedBlock?`), and
what no other kind takes is a paragraph. Blocks inside a quotation, a container or an item are read
from the lines as that block hands them on; beyond `maxBlockNesting` they are skipped.
-/

namespace Quizmark.Markdown

/-- One block: its elements, the number of its lines, and the targets that it defines. -/
structure Block where
  elements : List Element
  reach : Nat
  references : References := []

/-- Blocks one after another. -/
structure Blocks where
  elements : List Element := []
  /-- The number of lines that the blocks take up. -/
  reach : Nat := 0
  /-- Whether no blank line stands before the last block; none without blocks. -/
  tight : Option Bool := none
  references : References := []

/-! ## Blocks without blocks inside -/

/-- An element with raw inline content. -/
def contentElement (head : Head) (content : List Char) : Element :=
  .mk head [.rawInline content]

/-- A heading of a level. -/
def headingElement (level : Nat) (content : List Char) : Element :=
  contentElement { type := "heading", tag := "h" ++ toString level } content

/-- A block with verbatim content. -/
def verbatim (type : String) (content : List Char) (info : List Char) : Element :=
  .mk { type, content := String.ofList content, info := String.ofList info } []

/-- The inline content of lines. -/
def contentOf (context : Context) (lines : List Line) : List Char :=
  Text.trim (cutLines context.indent false lines)

/-- Front matter. -/
def frontMatter? (context : Context) (line : Line) (more : List Line) : Option Block :=
  let width := frontMatterWidth line
  if width < 3 then none
  else
    (frontMatterReach? context width more).map fun (count, isClosed) =>
      { elements := [verbatim "front_matter" (frontMatterText (more.take count)) []]
        reach := 1 + count + isClosed.toNat }

/-- A table. -/
def table? (context : Context) (line : Line) (more : List Line) : Option Block :=
  (tableStart? context line more).map fun table =>
    let rows := tableRows context table.alignments.length 0 (more.drop 1)
    { elements := [table.element rows], reach := 2 + rows.length }

/-- Indented code. -/
def code? (context : Context) (line : Line) (more : List Line) : Option Block :=
  if line.isCode context.indent then
    let count := codeReach context more
    let content := cutLines (context.indent + 4) false (line :: more.take count)
    some ⟨[verbatim "code_block" (content ++ ['\n']) []], 1 + count, []⟩
  else none

/-- Fenced code. -/
def fence? (context : Context) (line : Line) (more : List Line) : Option Block :=
  (Fence.ofChars? line.text).map fun fence =>
    let (count, isClosed) := reachTo context fence.closes (dropUnended more)
    ⟨[verbatim "fence" (cutLines line.indent true (more.take count)) fence.info],
      1 + count + isClosed.toNat, []⟩

/-- A thematic break. -/
def thematicBreak? (line : Line) : Option Block :=
  if isThematicBreak line.text then some ⟨[verbatim "hr" [] []], 1, []⟩ else none

/-- The text of lines with their line ends. -/
def textOf (lines : List Line) : List Char :=
  lines.flatMap fun line => line.text ++ if line.closed then ['\n'] else []

/-- The definition of a link target. -/
def definition? (context : Context) (line : Line) (more : List Line) : Option Block :=
  if line.text.head? = some '[' then
    let text := textOf (line :: continuation context .definition more)
    (Definition.ofText? text).map fun (definition, count) =>
      ⟨[], count, [(definition.key, definition.target)]⟩
  else none

/-- A block of HTML. -/
def html? (context : Context) (line : Line) (more : List Line) : Option Block :=
  (HtmlBlock.ofChars? line.text).map fun kind =>
    let count := if kind.endsIn line.text then 0 else htmlReach context kind more
    let content := cutLines context.indent true (line :: more.take count)
    ⟨[verbatim "html_block" content []], 1 + count, []⟩

/-- A heading that begins with number signs. -/
def heading? (line : Line) : Option Block :=
  (Heading.ofChars? line.text).map fun heading =>
    ⟨[headingElement heading.level heading.content], 1, []⟩

/-- A heading that is underlined. -/
def underlinedHeading? (context : Context) (line : Line) (more : List Line) : Option Block :=
  (headingReach? context more).map fun (count, level) =>
    ⟨[headingElement level (contentOf context (line :: more.take count))], 2 + count, []⟩

/-- A paragraph. -/
def paragraph (context : Context) (line : Line) (more : List Line) : Block :=
  let behind := continuation context .paragraph more
  ⟨[contentElement { type := "paragraph" } (contentOf context (line :: behind))],
    1 + behind.length, []⟩

/-! ## Blocks with blocks inside -/

/-- Reads the lines of a block inside another. -/
abbrev Inside := Context → List Line → Blocks

/-- An element around blocks. -/
def aroundBlocks (head : Head) (blocks : Blocks) : Element := .mk head blocks.elements

/-- A container directive. -/
def container? (inside : Inside) (context : Context) (line : Line) (more : List Line) :
    Option Block :=
  (Container.ofChars? line.text).map fun container =>
    let (count, isClosed) := reachTo context container.closes more
    let blocks := inside context (more.take count)
    let head := { type := "container_directive", info := String.ofList container.params }
    ⟨[aroundBlocks head blocks], 1 + count + isClosed.toNat, blocks.references⟩

/-- A quotation. It may end before its last lines, which then belong to the block around it. -/
def quotation? (inside : Inside) (context : Context) (line : Line) (more : List Line) :
    Option Block :=
  (unquote? line).map fun inner =>
    let blocks := inside { context with indent := 0 }
      (inner :: quotedLines context inner.isBlank more)
    ⟨[aroundBlocks { type := "blockquote" } blocks], blocks.reach, blocks.references⟩

/-- The items of a list, the number of their lines, and whether no blank line sets them apart. -/
structure Items where
  items : List (List Element)
  reach : Nat
  tight : Bool
  references : References

/-- The blocks of an item. An empty item takes up a blank line behind it. -/
def itemBlocks (inside : Inside) (context : Context) (marker : ListMarker) (line : Line)
    (more : List Line) : Blocks :=
  let (inner, innerContext) := itemStart context marker line
  if inner.isBlank && (more.head?.map Line.isBlank).getD true then
    { reach := min 2 (1 + more.length) }
  else inside innerContext (inner :: more)

/-- The items of a list that begins at a line with a marker. `first` is the marker of the first
item, and `isApart` tells whether a blank line stands before this one. The number bounds the count
of the items. -/
def listItems (inside : Inside) (context : Context) (first : ListMarker) :
    Nat → ListMarker → Bool → List Line → Items
  | fuel + 1, marker, isApart, line :: more =>
    let blocks := itemBlocks inside context marker line more
    let tight := blocks.tight.getD true && !isApart
    let endsBlank := blocks.reach > 1 && (line :: more)[blocks.reach - 1]?.any Line.isBlank
    let behind := (line :: more).drop blocks.reach
    match nextItem? context first behind with
    | some marker =>
      let rest := listItems inside context first fuel marker endsBlank behind
      ⟨blocks.elements :: rest.items, blocks.reach + rest.reach, tight && rest.tight,
        blocks.references ++ rest.references⟩
    | none => ⟨[blocks.elements], blocks.reach, tight, blocks.references⟩
  | _, _, _, _ => ⟨[], 0, true, []⟩

/-- A paragraph of a list without blank lines is hidden. -/
def hideParagraph : Element → Element
  | .mk head children =>
    .mk (if head.type = "paragraph" then { head with hidden := true } else head) children

/-- The element of a list. -/
def listElement (first : ListMarker) (items : Items) : Element :=
  let head : Head := match first.number with
    | some n => { type := "ordered_list", attrs := [("start", .number n)] }
    | none => { type := "bullet_list" }
  .mk head <| items.items.map fun elements =>
    .mk { type := "list_item" } (if items.tight then elements.map hideParagraph else elements)

/-- A list. -/
def list? (inside : Inside) (context : Context) (line : Line) (more : List Line) : Option Block :=
  (listStart? context line).map fun marker =>
    let items := listItems inside context marker (1 + more.length) marker false (line :: more)
    ⟨[listElement marker items], items.reach, items.references⟩

/-! ## All blocks -/

/-- The block that begins at a line. `inside` reads the lines of quotations and containers, and
`insideItem` those of items. -/
def block (inside insideItem : Inside) (context : Context) (line : Line) (more : List Line) :
    Block :=
  let found := frontMatter? context line more
    <|> table? context line more
    <|> code? context line more
    <|> container? inside context line more
    <|> fence? context line more
    <|> quotation? inside context line more
    <|> thematicBreak? line
    <|> list? insideItem context line more
    <|> definition? context line more
    <|> html? context line more
    <|> heading? line
    <|> underlinedHeading? context line more
  found.getD (paragraph context line more)

/-- The blocks of lines. `isApart` tells whether a blank line was passed. The number bounds the
count of the blocks. -/
def blocksWith (inside insideItem : Inside) (context : Context) : Nat → Bool → List Line → Blocks
  | 0, _, _ => {}
  | fuel + 1, isApart, lines =>
    let blanks := (lines.takeWhile Line.isBlank).length
    match lines.drop blanks with
    | [] => { reach := blanks }
    | line :: more =>
      if line.indent < context.indent then { reach := blanks }
      else
        let first := block inside insideItem context line more
        let behind := (line :: more).drop first.reach
        let endsBlank := (line :: more)[first.reach - 1]?.any Line.isBlank
        let isFollowed := behind.head?.any Line.isBlank
        let rest := blocksWith inside insideItem context fuel
          (isApart || endsBlank || isFollowed) (behind.drop isFollowed.toNat)
        { elements := first.elements ++ rest.elements
          reach := blanks + first.reach + isFollowed.toNat + rest.reach
          tight := rest.tight.or (some !isApart)
          references := first.references ++ rest.references }

/-- Passes over lines that are nested too deep. -/
def skipLines (context : Context) (lines : List Line) : Blocks :=
  let blanks := (lines.takeWhile Line.isBlank).length
  match lines.drop blanks with
  | [] => { reach := blanks }
  | line :: _ => { reach := if line.indent < context.indent then blanks else lines.length }

/-- The blocks of lines. The number bounds the nesting; an item counts twice, for itself and for its
list. -/
def blocks : Nat → Context → List Line → Blocks
  | 0, context, lines => skipLines context lines
  | 1, context, lines =>
    blocksWith (blocks 0) (blocks 0) context (lines.length + 1) false lines
  | budget + 2, context, lines =>
    blocksWith (blocks (budget + 1)) (blocks budget) context (lines.length + 1) false lines

/-- How deep blocks may be nested. -/
def maxBlockNesting : Nat := 20

end Quizmark.Markdown
