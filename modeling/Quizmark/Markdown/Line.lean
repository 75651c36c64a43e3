import Quizmark.Text.Blank

/-!
# Source lines

A block of Markdown is read line by line. `Line` is a line as the block around it sees it: the
characters that count as indentation, their width in columns, and the text behind them. A block
that takes a marker away from a line hands a changed line to the blocks inside.

* `Line.ofSource`: the lines of a source text.
* `cutLines`: the text of lines without some columns of indentation.
-/

namespace Quizmark.Markdown

/-- A space or a tab. -/
def isSpaceOrTab (c : Char) : Bool := c == ' ' || c == '\t'

/-- A line as the block around it sees it. -/
structure Line where
  /-- The whole line as it stands in the source. -/
  source : List Char
  /-- What counts as indentation, markers of the blocks around included. -/
  lead : List Char
  /-- What stands behind the indentation. -/
  text : List Char
  /-- The width of the indentation in columns; negative for a line that only continues a
  paragraph. -/
  indent : Int
  /-- The column that tab stops are counted from. -/
  column : Int := 0
  /-- Whether a line feed ends the line. -/
  closed : Bool := true
  /-- Whether the line is the first of the source. -/
  isFirst : Bool := false

/-- Whether nothing stands behind the indentation. -/
def Line.isBlank (line : Line) : Bool := line.text.isEmpty

/-- Whether a line is indented as code is, in a block with this indentation. -/
def Line.isCode (indent : Int) (line : Line) : Bool := 4 ≤ line.indent - indent

/-- The width of a tab that begins at a column. -/
def tabWidth (column : Int) : Int := 4 - column % 4

/-- The column behind the spaces and tabs at the front of a text that begins at a column, and the
text behind them. Tab stops are counted from `base`. -/
def skipSpaces (base column : Int) : List Char → Int × List Char
  | [] => (column, [])
  | c :: cs =>
    if c = ' ' then skipSpaces base (column + 1) cs
    else if c = '\t' then skipSpaces base (column + tabWidth (column + base)) cs
    else (column, c :: cs)

/-! ## Lines of a source -/

/-- A line with its indentation measured. -/
def Line.ofChars (isFirst closed : Bool) (cs : List Char) : Line :=
  let (indent, text) := skipSpaces 0 0 cs
  { source := cs, lead := cs.takeWhile isSpaceOrTab, text, indent, closed, isFirst }

/-- The lines of the pieces between line feeds. What stands behind the last line feed is a line
only if it holds more than spaces and tabs. -/
def Line.ofPieces (isFirst : Bool) : List (List Char) → List Line
  | [] => []
  | [piece] => if piece.all isSpaceOrTab then [] else [Line.ofChars isFirst false piece]
  | piece :: pieces => Line.ofChars isFirst true piece :: Line.ofPieces false pieces

/-- The source with line feeds as the only line ends and without null characters. -/
def normalizeSource : List Char → List Char
  | [] => []
  | '\r' :: '\n' :: cs => '\n' :: normalizeSource cs
  | c :: cs =>
    (if c = '\r' then '\n' else if c.toNat = 0 then '\uFFFD' else c) :: normalizeSource cs

/-- The lines of a source. -/
def Line.ofSource (source : String) : List Line :=
  Line.ofPieces true (Text.lines (normalizeSource source.toList))

/-! ## Text of lines -/

/-- Takes columns of indentation away: the column reached and what is left of the indentation. -/
def cutLead (width base column : Int) : List Char → Int × List Char
  | [] => (column, [])
  | c :: cs =>
    if column ≥ width then (column, c :: cs)
    else cutLead width base (column + if c = '\t' then tabWidth (column + base) else 1) cs

/-- The text of a line without `width` columns of indentation. What is left of a tab that was cut
becomes spaces. -/
def Line.cut (width : Int) (line : Line) : List Char :=
  let (column, lead) := cutLead width line.column 0 line.lead
  List.replicate (column - width).toNat ' ' ++ lead ++ line.text

/-- The text of lines without `width` columns of indentation each. The line feed of the last one
stays only if `keepsLast` is set. -/
def cutLines (width : Int) (keepsLast : Bool) : List Line → List Char
  | [] => []
  | [line] => line.cut width ++ if keepsLast && line.closed then ['\n'] else []
  | line :: lines => line.cut width ++ '\n' :: cutLines width keepsLast lines

end Quizmark.Markdown
