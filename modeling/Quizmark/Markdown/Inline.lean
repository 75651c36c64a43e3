import Quizmark.Markdown.Delimiter
import Quizmark.Markdown.Piece

/-!
# Inline text

`inlineElements?` reads the content of a block: its pieces become tokens, runs of `*`, `_` and `~`
become delimiters, and at the end the delimiters are resolved. The label of a link is read the same
way, with delimiters of its own.
-/

namespace Quizmark.Markdown

/-- A token that is an element by itself. -/
def leafToken (type : String) (content : List Char) : Token :=
  .mk { type, content := String.ofList content } 0 []

/-- The attributes of a target, which `key` names. -/
def Target.attrs (key : String) (target : Target) : List (String × AttrValue) :=
  (key, .text (String.ofList target.href)) ::
    if target.title.isEmpty then [] else [("title", .text (String.ofList target.title))]

/-- A link around tokens. -/
def linkToken (target : Target) (inside : List Token) : Token :=
  .mk { type := "link", attrs := target.attrs "href" } 0 inside

/-- An image with the source text of its label. -/
def imageToken (label : List Char) (target : Target) : Token :=
  .mk { type := "image", attrs := target.attrs "src", content := String.ofList label } 0 []

/-! ## Runs of delimiters -/

/-- White space next to a delimiter. -/
def isSpaceBeside (c : Char) : Bool :=
  let n := c.toNat
  (9 ≤ n && n ≤ 13) || [0x20, 0xA0, 0x1680, 0x202F, 0x205F, 0x3000].contains n ||
    (0x2000 ≤ n && n ≤ 0x200A)

/-- Punctuation next to a delimiter. -/
def isPunctuationBeside (c : Char) : Bool := Text.isAsciiPunctuation c || Text.isPunctuation c

/-- Whether a run between two characters can open and whether it can close. `splitsWords` tells
whether it may do so inside a word. -/
def flanks (splitsWords : Bool) (before after : Char) : Bool × Bool :=
  let left := !isSpaceBeside after &&
    (!isPunctuationBeside after || isSpaceBeside before || isPunctuationBeside before)
  let right := !isSpaceBeside before &&
    (!isPunctuationBeside before || isSpaceBeside after || isPunctuationBeside after)
  (left && (splitsWords || !right || isPunctuationBeside before),
    right && (splitsWords || !left || isPunctuationBeside after))

/-! ## Reading -/

/-- How far inline text was read. -/
structure Builder where
  cursor : Cursor
  /-- The text since the last token, its last character first. -/
  pending : List Char := []
  /-- The tokens, the last first. -/
  tokens : List Token := []
  delimiters : List Delimiter := []
  memo : Memo := {}

namespace Builder

/-- The builder with the text since the last token made a token. -/
def flush (builder : Builder) : Builder :=
  if builder.pending.isEmpty then builder
  else
    { builder with
      pending := []
      tokens := leafToken "text" builder.pending.reverse :: builder.tokens }

/-- The builder with another token. -/
def push (builder : Builder) (token : Token) : Builder :=
  let builder := builder.flush
  { builder with tokens := token :: builder.tokens }

/-- The builder with more text. -/
def addText (builder : Builder) (cs : List Char) : Builder :=
  { builder with pending := cs.reverse ++ builder.pending }

/-- The builder with a line end: two spaces before it make it a hard break. -/
def breakLine (builder : Builder) : Builder :=
  match builder.pending with
  | ' ' :: ' ' :: cs =>
    { builder with pending := cs.dropWhile (· == ' ') }.push (leafToken "hardbreak" [])
  | ' ' :: cs => { builder with pending := cs }.push (leafToken "softbreak" [])
  | _ => builder.push (leafToken "softbreak" [])

/-- The builder with a delimiter of its own token. -/
def pushDelimiter (content : List Char) (runLength : Nat) (flanks : Bool × Bool)
    (builder : Builder) : Builder :=
  let builder := builder.push (leafToken "text" content)
  let delimiter : Delimiter := {
    char := content.headD ' '
    place := builder.tokens.length - 1
    runLength
    opens := flanks.1
    closes := flanks.2 }
  { builder with delimiters := builder.delimiters ++ [delimiter] }

/-- The builder with a run of `count` delimiters, if they can be such. Tildes go by twos, and one
that is left over is a text. -/
def pushRun? (builder : Builder) (c : Char) (count : Nat) (flanks : Bool × Bool) :
    Option Builder :=
  if c = '~' then
    if count < 2 then none
    else
      let builder := if count % 2 = 1 then builder.push (leafToken "text" [c]) else builder
      some (Nat.repeat (pushDelimiter [c, c] 0 flanks) (count / 2) builder)
  else if c = '*' ∨ c = '_' then some (Nat.repeat (pushDelimiter [c] count flanks) count builder)
  else none

/-- The builder further on in the text. -/
def advance (builder : Builder) (n : Nat) : Builder :=
  { builder with cursor := builder.cursor.advance n }

/-- The builder with a piece; `inside` reads the label of a link. -/
def addPiece (inside : Cursor → Memo → List Token × Memo) (builder : Builder) (piece : Piece) :
    Builder :=
  match piece with
  | .plain cs | .backticks cs => builder.addText cs
  | .lineEnd => builder.breakLine
  | .hardBreak => builder.push (leafToken "hardbreak" [])
  | .special cs => builder.push (leafToken "text_special" cs)
  | .code cs => builder.push (leafToken "code_inline" cs)
  | .link label target =>
    let (tokens, memo) := inside ⟨builder.cursor.pos + 1, '[', label⟩ builder.memo
    { builder with memo }.push (linkToken target tokens)
  | .image label target => builder.push (imageToken label target)
  | .autolink link => builder.push (linkToken ⟨link.href, []⟩ [leafToken "text" link.text])
  | .html cs => builder.push (leafToken "html_inline" cs)

/-- Reads a text to its end. The first argument of the loop bounds the number of pieces. -/
def read (next? : Cursor → Memo → Option Found × Memo)
    (inside : Cursor → Memo → List Token × Memo) : Nat → Builder → Builder
  | 0, builder => builder
  | fuel + 1, builder =>
    match builder.cursor.rest with
    | [] => builder
    | c :: cs =>
      let count := (cs.takeWhile (· == c)).length + 1
      let sides := flanks (c != '_') builder.cursor.before ((cs.drop (count - 1)).headD ' ')
      match builder.pushRun? c count sides with
      | some builder => read next? inside fuel (builder.advance count)
      | none =>
        let (found, memo) := next? builder.cursor builder.memo
        let builder := { builder with memo }
        match found with
        | some found =>
          read next? inside fuel ((builder.addPiece inside found.piece).advance found.length)
        | none => read next? inside fuel ((builder.addText [c]).advance 1)

/-- The tokens of the whole text with delimiters resolved. -/
def finish (builder : Builder) : List Token :=
  let builder := builder.flush
  Delimiter.resolve builder.delimiters builder.tokens.reverse

end Builder

/-! ## Whole texts -/

/-- How deep links may be nested. -/
def maxNesting : Nat := 20

/-- The tokens of the text at a cursor. The first argument bounds the nesting of links. -/
def inlineTokens (references : References) : Nat → Cursor → Memo → List Token × Memo
  | 0, cursor, memo => ([leafToken "text" cursor.rest], memo)
  | budget + 1, cursor, memo =>
    let builder := Builder.read (piece? references (skip references (budget + 1)))
      (inlineTokens references budget) cursor.rest.length { cursor, memo }
    (builder.finish, builder.memo)

/-- The inline elements of the content of a block, if delimiters pair up properly. -/
def inlineElements? (references : References) (content : List Char) : Option (List Element) :=
  Element.ofTokens? (inlineTokens references maxNesting (Cursor.start content) {}).1

end Quizmark.Markdown
