import Quizmark.Markdown.Autolink
import Quizmark.Markdown.CodeSpan
import Quizmark.Markdown.Link

/-!
# Pieces of inline text

Inline text is read piece by piece: a run of plain characters, a line break, an escape, a code
span, a link, and so on. `piece?` is the piece that a text begins with; `skip` only tells where it
ends, which the search for the end of a label needs. Delimiters are no pieces here: what they mean
is known only when the whole text is.

The search remembers where pieces end and which runs of backticks it has passed (`Memo`), so that
no part of a text is searched twice. Both are part of what is read: a code span whose closing run
was passed before may be missed.
-/

namespace Quizmark.Markdown

/-- A position in inline text. -/
structure Cursor where
  pos : Nat
  /-- The character before, a space at the beginning. -/
  before : Char
  rest : List Char

namespace Cursor

/-- The beginning of a text. -/
def start (cs : List Char) : Cursor := ⟨0, ' ', cs⟩

/-- The position some characters further on. -/
def advance (cursor : Cursor) (n : Nat) : Cursor :=
  ⟨cursor.pos + n, ((cursor.rest.take n).getLast?).getD cursor.before, cursor.rest.drop n⟩

/-- The cursor at a later position. -/
def goTo (cursor : Cursor) (pos : Nat) : Cursor := cursor.advance (pos - cursor.pos)

end Cursor

/-- What was found out about a text so far. -/
structure Memo where
  /-- Where the pieces at some positions end. -/
  ends : List (Nat × Nat) := []
  runs : CodeSpan.Runs := {}

/-- Tells where the piece at a position ends. -/
abbrev Skip := Cursor → Memo → Nat × Memo

/-- A piece of inline text. -/
inductive Piece where
  | plain (cs : List Char)
  | lineEnd
  | hardBreak
  | special (cs : List Char)
  | code (cs : List Char)
  | backticks (cs : List Char)
  | link (label : List Char) (target : Target)
  | image (label : List Char) (target : Target)
  | autolink (link : Autolink)
  | html (cs : List Char)

/-- A piece and its length. -/
structure Found where
  piece : Piece
  length : Nat

/-! ## Plain characters, line ends and escapes -/

/-- The characters that may begin a piece other than a plain one. -/
def pieceMarks : List Char := "\n!#$%&*+-:<=>@[\\]^_\x60\x7b\x7d~".toList

/-- A character that never begins a piece other than a plain one. -/
def isPlainChar (c : Char) : Bool := !pieceMarks.contains c

/-- The number of spaces and tabs at the front of a text. -/
def spaceCount (cs : List Char) : Nat := (cs.takeWhile isSpaceOrTab).length

/-- The line end or escape at the front of a text. -/
def escape? : List Char → Option Found
  | '\n' :: cs => some ⟨.lineEnd, 1 + spaceCount cs⟩
  | '\\' :: '\n' :: cs => some ⟨.hardBreak, 2 + spaceCount cs⟩
  | '\\' :: c :: _ => some ⟨.special (if Text.isAsciiPunctuation c then [c] else ['\\', c]), 2⟩
  | _ => none

/-! ## Labels -/

/-- Where the label ends that a cursor is in, with `depth` brackets open. A label that refuses links
holds none. The first argument bounds the number of pieces. -/
def labelEnd? (skip : Skip) (refusesLinks : Bool) : Nat → Nat → Cursor → Memo → Option Nat × Memo
  | 0, _, _, memo => (none, memo)
  | fuel + 1, depth, cursor, memo =>
    match cursor.rest with
    | [] => (none, memo)
    | c :: _ =>
      if c = ']' ∧ depth = 0 then (some cursor.pos, memo)
      else
        let (next, memo) := skip cursor memo
        if c = '[' then
          if next = cursor.pos + 1 then
            labelEnd? skip refusesLinks fuel (depth + 1) (cursor.goTo next) memo
          else if refusesLinks then (none, memo)
          else labelEnd? skip refusesLinks fuel depth (cursor.goTo next) memo
        else
          labelEnd? skip refusesLinks fuel (if c = ']' then depth - 1 else depth)
            (cursor.goTo next) memo

/-- The length of the label behind an opening bracket. -/
def labelLength? (skip : Skip) (refusesLinks : Bool) (inside : Cursor) (memo : Memo) :
    Option Nat × Memo :=
  let (last, memo) := labelEnd? skip refusesLinks inside.rest.length 0 inside memo
  (last.map (· - inside.pos), memo)

/-! ## Targets in parentheses -/

/-- How far a target in parentheses was read. -/
inductive ParenTarget where
  /-- Nothing stands behind the opening parenthesis. -/
  | empty
  /-- Something else stands where the closing parenthesis should. -/
  | broken (rest : List Char)
  | whole (target : Target) (rest : List Char)

/-- What follows the destination and the title of a target. -/
def ParenTarget.close (target : Target) : List Char → ParenTarget
  | ')' :: rest => .whole target rest
  | rest => .broken rest

/-- The title of a target, if a blank stands before it, and the end. -/
def ParenTarget.ofTitle (href cs : List Char) : ParenTarget :=
  let behind := cs.dropWhile isTargetSpace
  match Title.scan behind with
  | .finished title rest =>
    if behind.length < cs.length then close ⟨href, title⟩ (rest.dropWhile isTargetSpace)
    else close ⟨href, []⟩ behind
  | _ => close ⟨href, []⟩ behind

/-- The target behind an opening parenthesis. -/
def ParenTarget.ofChars (cs : List Char) : ParenTarget :=
  match cs.dropWhile isTargetSpace with
  | [] => .empty
  | c :: cs =>
    match destination? (c :: cs) with
    | some (raw, rest) =>
      let href := linkTarget raw
      if isSafe href then ofTitle href rest else .broken (c :: cs)
    | none => close ⟨[], []⟩ (c :: cs)

/-! ## Links and images -/

/-- A label, its target and where the link ends. -/
structure LinkFound where
  label : List Char
  target : Target
  last : Nat

/-- The link of a label to a definition. `behind` is the position behind the label, and at `second`
another label may begin, which then counts instead if it is not empty. -/
def referenceLink? (references : References) (skip : Skip) (label : List Char) (behind : Nat)
    (second : Cursor) (memo : Memo) : Option LinkFound × Memo :=
  if references.isEmpty then (none, memo)
  else
    let found (key : List Char) (last : Nat) : Option LinkFound :=
      (references.get? (if key.isEmpty then label else key)).map fun target =>
        ⟨label, target, last⟩
    match second.rest with
    | '[' :: _ =>
      let inside := second.advance 1
      match labelLength? skip false inside memo with
      | (some n, memo) => (found (inside.rest.take n) (inside.pos + n + 1), memo)
      | (none, memo) => (found [] behind, memo)
    | _ => (found [] behind, memo)

/-- The link whose label begins at a cursor, behind its bracket. A link without a complete target
in parentheses may refer to a definition; an image may not. -/
def linkAt? (references : References) (skip : Skip) (isImage : Bool) (inside : Cursor)
    (memo : Memo) : Option LinkFound × Memo :=
  match labelLength? skip (!isImage) inside memo with
  | (none, memo) => (none, memo)
  | (some n, memo) =>
    let label := inside.rest.take n
    let behind := inside.advance (n + 1)
    match behind.rest with
    | '(' :: cs =>
      match ParenTarget.ofChars cs with
      | .empty => (none, memo)
      | .whole target rest =>
        (some ⟨label, target, behind.pos + (behind.rest.length - rest.length)⟩, memo)
      | .broken rest =>
        if isImage then (none, memo)
        else
          let second := behind.advance (behind.rest.length - rest.length + 1)
          referenceLink? references skip label behind.pos second memo
    | _ => referenceLink? references skip label behind.pos behind memo

/-! ## All pieces -/

/-- The span or the run of backticks at a cursor. -/
def codeAt (cursor : Cursor) (memo : Memo) : Found × Memo :=
  let marks := cursor.rest.takeWhile CodeSpan.isBacktick
  let inside := cursor.rest.drop marks.length
  let (last, runs) := CodeSpan.close? marks.length cursor.pos inside memo.runs
  let memo := { memo with runs }
  match last with
  | some last =>
    let length := last - (cursor.pos + marks.length)
    (⟨.code (CodeSpan.content (inside.take length)), 2 * marks.length + length⟩, memo)
  | none => (⟨.backticks marks, marks.length⟩, memo)

/-- Whether HTML may begin like this. -/
def mayBeHtml : List Char → Bool
  | '<' :: c :: _ :: _ => HtmlTag.isLetter c || ['!', '?', '/'].contains c
  | _ => false

/-- The autolink or the piece of HTML at the front of a text. -/
def angle? (cs : List Char) : Option Found :=
  match Autolink.ofChars? cs with
  | some (link, length) => some ⟨.autolink link, length⟩
  | none =>
    if mayBeHtml cs then
      (HtmlTag.any? cs).map fun rest =>
        let length := cs.length - rest.length
        ⟨.html (cs.take length), length⟩
    else none

/-- The piece at a cursor, if there is one. -/
def piece? (references : References) (skip : Skip) (cursor : Cursor) (memo : Memo) :
    Option Found × Memo :=
  let plain := cursor.rest.takeWhile isPlainChar
  if plain.isEmpty then
    match cursor.rest with
    | '\x60' :: _ =>
      let (found, memo) := codeAt cursor memo
      (some found, memo)
    | '[' :: _ =>
      let (link, memo) := linkAt? references skip false (cursor.advance 1) memo
      (link.map fun link => ⟨.link link.label link.target, link.last - cursor.pos⟩, memo)
    | '!' :: '[' :: _ =>
      let (link, memo) := linkAt? references skip true (cursor.advance 2) memo
      (link.map fun link => ⟨.image link.label link.target, link.last - cursor.pos⟩, memo)
    | '<' :: cs => (angle? ('<' :: cs), memo)
    | '&' :: cs =>
      ((reference? ('&' :: cs)).map fun found =>
        ⟨.special found.1, cs.length + 1 - found.2.length⟩, memo)
    | cs => (escape? cs, memo)
  else (some ⟨.plain plain, plain.length⟩, memo)

/-- Where the piece at a cursor ends. The first argument bounds the nesting of labels; beyond it
the whole text is taken for one piece. -/
def skip (references : References) : Nat → Cursor → Memo → Nat × Memo
  | budget, cursor, memo =>
    match memo.ends.lookup cursor.pos with
    | some last => (last, memo)
    | none =>
      let (last, memo) := match budget with
        | 0 => (cursor.pos + cursor.rest.length + 1, memo)
        | budget + 1 =>
          match piece? references (skip references budget) cursor memo with
          | (some found, memo) => (cursor.pos + found.length, memo)
          | (none, memo) => (cursor.pos + 1, memo)
      (last, { memo with ends := (cursor.pos, last) :: memo.ends })

end Quizmark.Markdown
