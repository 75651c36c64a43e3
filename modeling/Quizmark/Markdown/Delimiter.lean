import Quizmark.Markdown.Token

/-!
# Delimiters

Marks such as `*`, `_` and `~~` are texts at first. `pairUp` finds out which of them open and close
emphasis, and `Delimiter.resolve` turns those into the tokens that do so.

* A closing mark is paired with the nearest opening mark of the same character that is still free;
  what lies between two paired marks is out of reach for marks outside.
* Where a mark of either side can both open and close, the lengths of the two runs must not add up
  to a multiple of three, unless both are one.
-/

namespace Quizmark.Markdown

/-- A mark that may open or close emphasis. -/
structure Delimiter where
  char : Char
  /-- The place of its token. -/
  place : Nat
  /-- The number of marks in its run; zero where the rule of three does not hold. -/
  runLength : Nat
  opens : Bool
  closes : Bool
  /-- The delimiter that closes it. -/
  closer : Option Nat := none
  /-- How many delimiters in front of it a search can leave out. -/
  jump : Nat := 0

instance : Inhabited Delimiter := ⟨⟨' ', 0, 0, false, false, none, 0⟩⟩

namespace Delimiter

/-! ## Pairing -/

/-- Whether the rule of three keeps two delimiters apart. -/
def breaksRuleOfThree (opener closer : Delimiter) : Bool :=
  (opener.closes || closer.opens) && (opener.runLength + closer.runLength) % 3 == 0 &&
    (opener.runLength % 3 != 0 || closer.runLength % 3 != 0)

/-- Whether a delimiter can be closed by another. -/
def isOpenerOf (opener closer : Delimiter) : Bool :=
  opener.char == closer.char && opener.opens && opener.closer.isNone &&
    !breaksRuleOfThree opener closer

/-- The last of the first `count` delimiters that can be closed by `closer`, without the `skipped`
last ones. The search does not go below `bottom`. -/
def findOpener? (delimiters : List Delimiter) (closer : Delimiter) (bottom : Nat) :
    (skipped count : Nat) → Option Nat
  | _, 0 => none
  | skipped + 1, i + 1 => findOpener? delimiters closer bottom skipped i
  | 0, i + 1 =>
    if i + 1 ≤ bottom then none
    else
      let opener := delimiters.getD i default
      if opener.isOpenerOf closer then some i
      else findOpener? delimiters closer bottom opener.jump i

/-- The delimiters for which a search has the same bound: their character, whether they can open,
and the length of their run modulo three. -/
structure BoundKey where
  char : Char
  opens : Bool
  residue : Nat
  deriving DecidableEq

/-- The bound of a delimiter. -/
def boundKey (delimiter : Delimiter) : BoundKey :=
  ⟨delimiter.char, delimiter.opens, delimiter.runLength % 3⟩

/-- What is known while delimiters are paired. -/
structure Pairing where
  delimiters : List Delimiter
  /-- The first delimiter of the run that is looked at. -/
  runStart : Nat := 0
  /-- The place behind the delimiter before, if the run can go on there. -/
  nextPlace : Option Nat := none
  /-- How many delimiters a search need not look at, because an earlier one failed there. -/
  bounds : List (BoundKey × Nat) := []

/-- The delimiters with number `i` paired as the closer of number `j`. -/
def joinPair (delimiters : List Delimiter) (j i : Nat) : List Delimiter :=
  let skipped := match j with
    | 0 => 0
    | k + 1 =>
      let before := delimiters.getD k default
      if before.opens then 0 else before.jump + 1
  let delimiters := delimiters.modify i fun d =>
    { d with opens := false, jump := i - j + skipped }
  delimiters.modify j fun d => { d with closes := false, closer := some i, jump := skipped }

/-- Looks for an opener of number `i` and pairs the two. -/
def Pairing.step (pairing : Pairing) (i : Nat) : Pairing :=
  let closer := pairing.delimiters.getD i default
  let sameRun := (pairing.delimiters.getD pairing.runStart default).char == closer.char &&
    pairing.nextPlace == some closer.place
  let runStart := if sameRun then pairing.runStart else i
  let pairing := { pairing with runStart, nextPlace := some (closer.place + 1) }
  if closer.closes then
    let count := runStart - (pairing.delimiters.getD runStart default).jump
    let bottom := (pairing.bounds.lookup closer.boundKey).getD 0
    match findOpener? pairing.delimiters closer bottom 0 count with
    | some j =>
      { pairing with delimiters := joinPair pairing.delimiters j i, nextPlace := none }
    | none =>
      if count = 0 then pairing
      else { pairing with bounds := (closer.boundKey, count) :: pairing.bounds }
  else pairing

/-- The delimiters with openers and closers paired. -/
def pairUp (delimiters : List Delimiter) : List Delimiter :=
  ((List.range delimiters.length).foldl Pairing.step { delimiters : Pairing }).delimiters

/-! ## Tokens of pairs -/

/-- A token that opens or closes an element. -/
def tagToken (type : String) (nesting : Int) : Token := .mk { type } nesting []

/-- A text. -/
def textToken (content : List Char) : Token :=
  .mk { type := "text", content := String.ofList content } 0 []

/-- Tokens with those at the given places replaced. -/
def replaceAll (tokens : List Token) (edits : List (Nat × Token)) : List Token :=
  edits.foldl (fun tokens edit => tokens.set edit.1 edit.2) tokens

/-- Whether a token is of a type. -/
def hasType (type : String) (token : Token) : Bool := token.head.type == type

/-- Whether a token is a single tilde. -/
def isLoneTilde (token : Token) : Bool := hasType "text" token && token.head.content == "~"

/-- The places of the paired delimiters with a character: where an element opens and where it
closes. -/
def pairPlaces (char : Char) (delimiters : List Delimiter) : List (Nat × Nat) :=
  delimiters.filterMap fun opener =>
    if opener.char = char then
      opener.closer.map fun i => (opener.place, (delimiters.getD i default).place)
    else none

/-- Moves the token at a place behind the closing tokens that follow it. -/
def moveBehindClosers (tokens : List Token) (place : Nat) : List Token :=
  let closers := (tokens.drop (place + 1)).takeWhile (hasType "s_close")
  tokens.take place ++ closers ++ (tokens.drop place).take 1 ++
    tokens.drop (place + 1 + closers.length)

/-- The tokens with paired tildes as deletions. A tilde that was left over in front of closing ones
moves behind them. -/
def strikeOut (delimiters : List Delimiter) (tokens : List Token) : List Token :=
  let pairs := pairPlaces '~' delimiters
  let tokens := replaceAll tokens <| pairs.flatMap fun pair =>
    [(pair.1, tagToken "s_open" 1), (pair.2, tagToken "s_close" (-1))]
  let lone := pairs.filterMap fun pair =>
    match pair.2 with
    | 0 => none
    | before + 1 => if tokens[before]?.any isLoneTilde then some before else none
  lone.reverse.foldl moveBehindClosers tokens

/-- The edits for an opener and a closer that make one element. -/
def pairEdits (type : String) (first last : Nat) : List (Nat × Token) :=
  [(first, tagToken (type ++ "_open") 1), (last, tagToken (type ++ "_close") (-1))]

/-- Whether the pair that `outer` opens lies directly around the one of `inner`. -/
def isAround (delimiters : List Delimiter) (outer inner : Delimiter) : Bool :=
  match outer.closer, inner.closer with
  | some i, some j =>
    i == j + 1 && outer.char == inner.char && outer.place + 1 == inner.place &&
      (delimiters.getD i default).place == (delimiters.getD j default).place + 1
  | _, _ => false

/-- The place of the closer of a delimiter. -/
def closerPlace? (delimiters : List Delimiter) (opener : Delimiter) : Option Nat :=
  if opener.char = '*' ∨ opener.char = '_' then
    opener.closer.map fun i => (delimiters.getD i default).place
  else none

/-- The edits for the first `count` delimiters: two pairs around each other are strong emphasis,
a pair alone is emphasis. -/
def emphasisEdits (delimiters : List Delimiter) : Nat → List (Nat × Token)
  | 0 => []
  | 1 =>
    let opener := delimiters.getD 0 default
    match closerPlace? delimiters opener with
    | some last => pairEdits "em" opener.place last
    | none => []
  | i + 2 =>
    let opener := delimiters.getD (i + 1) default
    let before := delimiters.getD i default
    match closerPlace? delimiters opener with
    | some last =>
      if isAround delimiters before opener then
        pairEdits "strong" opener.place last ++
          [(before.place, textToken []), (last + 1, textToken [])] ++ emphasisEdits delimiters i
      else pairEdits "em" opener.place last ++ emphasisEdits delimiters (i + 1)
    | none => emphasisEdits delimiters (i + 1)

/-- The tokens with emphasis in the place of paired marks. -/
def resolve (delimiters : List Delimiter) (tokens : List Token) : List Token :=
  let delimiters := pairUp delimiters
  replaceAll (strikeOut delimiters tokens) (emphasisEdits delimiters delimiters.length)

end Delimiter

end Quizmark.Markdown
