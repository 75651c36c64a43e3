import Quizmark.Markdown.Line
import Quizmark.Markdown.Token

/-!
# Tables

A table begins with a row of cells and a row of dashes and colons that aligns the columns. Cells
are separated by bars; a bar behind a backslash belongs to its cell.

* `Table.ofLines?`: the head of the table that two lines begin.
* `Table.cells`: the cells of a row.
* `Table.element`: the table with its rows.
-/

namespace Quizmark.Markdown

/-- How the cells of a column are aligned. -/
inductive Alignment where
  | none
  | left
  | right
  | center
  deriving DecidableEq

/-- The attributes of a cell with an alignment. -/
def Alignment.attrs : Alignment → List (String × AttrValue)
  | none => []
  | left => [("style", .text "text-align:left")]
  | right => [("style", .text "text-align:right")]
  | center => [("style", .text "text-align:center")]

/-- The head of a table: the alignments of its columns and their titles. -/
structure Table where
  alignments : List Alignment
  titles : List (List Char)

namespace Table

/-! ## Rows -/

/-- The parts of a text between bars. `isEscaped` tells whether a backslash stands before the text;
it is left out if a bar follows it. -/
def splitBars (isEscaped : Bool) : List Char → List (List Char)
  | [] => if isEscaped then [['\\']] else [[]]
  | c :: cs =>
    let before := if isEscaped then ['\\'] else []
    if c = '|' then
      if isEscaped then Text.consFirst '|' (splitBars false cs) else [] :: splitBars false cs
    else if c = '\\' then
      match splitBars true cs with
      | piece :: pieces => (before ++ piece) :: pieces
      | [] => [before]
    else
      match splitBars false cs with
      | piece :: pieces => (before ++ c :: piece) :: pieces
      | [] => [before ++ [c]]

/-- The parts of a row without empty ones at the ends. -/
def dropEmptyEnds (pieces : List (List Char)) : List (List Char) :=
  let pieces := if pieces.head? = some [] then pieces.drop 1 else pieces
  if pieces.getLast? = some [] then pieces.dropLast else pieces

/-- The cells of a row. -/
def cells (row : List Char) : List (List Char) := dropEmptyEnds (splitBars false (Text.trim row))

/-! ## The head -/

/-- Whether a text can align columns: bars, dashes, colons, spaces and tabs, with one of the first
three in front and, if that is a dash, no space behind it. -/
def mayAlign : List Char → Bool
  | c :: d :: cs =>
    let isMark (c : Char) := c == '|' || c == '-' || c == ':'
    isMark c && (d :: cs).all (fun e => isMark e || isSpaceOrTab e) &&
      !(c == '-' && isSpaceOrTab d)
  | _ => false

/-- The alignment that a text gives. -/
def alignment? (cs : List Char) : Option Alignment :=
  let left := cs.head? == some ':'
  let right := cs.getLast? == some ':'
  let dashes := if left then cs.drop 1 else cs
  let dashes := if dashes.getLast? = some ':' then dashes.dropLast else dashes
  if dashes.isEmpty ∨ dashes.any (· != '-') then Option.none
  else some <| match left, right with
    | true, true => .center
    | true, false => .left
    | false, true => .right
    | false, false => .none

/-- The alignments of parts; only the last one may be empty. -/
def alignmentsOf? : List (List Char) → Option (List Alignment)
  | [] => some []
  | piece :: pieces =>
    if piece.isEmpty then if pieces.isEmpty then some [] else Option.none
    else do
      let first ← alignment? piece
      return first :: (← alignmentsOf? pieces)

/-- The alignments of the columns; the first part may be empty. -/
def alignments? (cs : List Char) : Option (List Alignment) :=
  let pieces := (Text.splitAt '|' cs).map Text.trim
  alignmentsOf? (if pieces.head? = some [] then pieces.drop 1 else pieces)

/-- The head of the table that two lines begin in a block with this indentation. -/
def ofLines? (indent : Int) (first second : Line) : Option Table := do
  if second.indent < indent ∨ second.isCode indent ∨ first.isCode indent ∨
      !mayAlign second.text ∨ !first.text.contains '|' then
    Option.none
  else
    let alignments ← alignments? second.text
    let titles := cells first.text
    if titles.isEmpty ∨ titles.length ≠ alignments.length then Option.none
    else some { alignments, titles }

/-! ## The whole table -/

/-- A row of cells of one type. -/
def rowElement (type : String) (alignments : List Alignment) (row : List (List Char)) : Element :=
  .mk { type := "tr" } <| alignments.mapIdx fun i alignment =>
    .mk { type, attrs := alignment.attrs } [.rawInline (Text.trim (row.getD i []))]

/-- The table with its rows. -/
def element (table : Table) (rows : List (List (List Char))) : Element :=
  let head := .mk { type := "thead" } [rowElement "th" table.alignments table.titles]
  let body := Element.mk { type := "tbody" } (rows.map (rowElement "td" table.alignments))
  .mk { type := "table" } (if rows.isEmpty then [head] else [head, body])

/-- More missing cells than this end a table. -/
def maxMissingCells : Int := 65536

end Table

end Quizmark.Markdown
