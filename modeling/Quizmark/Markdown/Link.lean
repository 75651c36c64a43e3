import Quizmark.Markdown.Line
import Quizmark.Markdown.Url
import Quizmark.Text.Fold

/-!
# Links

The pieces that link references and inline links share.

* `destination?`: the destination at the front of a text.
* `Title.scan`: the title at the front of a text, which may go on in further lines.
* `References`: the targets of labels. The first definition of a label counts; labels that differ
  by case or blanks only are the same label.
-/

namespace Quizmark.Markdown

/-- Where a link leads. -/
structure Target where
  href : List Char
  title : List Char

/-! ## Labels -/

/-- A text with every run of blanks made a single space. -/
def collapseBlanks : List Char → List Char
  | [] => []
  | c :: cs =>
    if Text.isBlank c then
      if cs.head?.any Text.isBlank then collapseBlanks cs else ' ' :: collapseBlanks cs
    else c :: collapseBlanks cs

/-- What labels are compared by. -/
def labelKey (label : List Char) : List Char := Text.foldCase (collapseBlanks (Text.trim label))

/-- The targets by the keys of their labels. -/
abbrev References := List (List Char × Target)

namespace References

/-- The target of a label. -/
def get? (references : References) (label : List Char) : Option Target :=
  references.lookup (labelKey label)

end References

/-! ## Destinations -/

/-- A space, a tab or a line end. -/
def isTargetSpace (c : Char) : Bool := isSpaceOrTab c || c == '\n'

/-- The text up to a closing angle bracket and the rest behind it. -/
def bracketed? : List Char → Option (List Char × List Char)
  | [] => none
  | '\\' :: c :: cs => (bracketed? cs).map fun found => ('\\' :: c :: found.1, found.2)
  | c :: cs =>
    if c = '\n' ∨ c = '<' then none
    else if c = '>' then some ([], cs)
    else (bracketed? cs).map fun found => (c :: found.1, found.2)

/-- The deepest nesting of parentheses in a destination. -/
def maxParens : Nat := 32

/-- A text without spaces, controls and unmatched parentheses, and the rest; `depth` parentheses
are open. -/
def bare? : Nat → List Char → Option (List Char × List Char)
  | depth, [] => if depth = 0 then some ([], []) else none
  | depth, '\\' :: c :: cs =>
    if c = ' ' then if depth = 0 then some ([], '\\' :: c :: cs) else none
    else (bare? depth cs).map fun found => ('\\' :: c :: found.1, found.2)
  | depth, c :: cs =>
    let stop := if depth = 0 then some ([], c :: cs) else none
    let more (depth : Nat) := (bare? depth cs).map fun found => (c :: found.1, found.2)
    if c.toNat ≤ 0x20 ∨ c.toNat = 0x7F then stop
    else if c = '(' then if depth < maxParens then more (depth + 1) else none
    else if c = ')' then if depth = 0 then stop else more (depth - 1)
    else more depth

/-- The destination at the front of a text and the rest. -/
def destination? : List Char → Option (List Char × List Char)
  | '<' :: cs => (bracketed? cs).map fun found => (unescape found.1, found.2)
  | cs =>
    match bare? 0 cs with
    | some (c :: raw, rest) => some (unescape (c :: raw), rest)
    | _ => none

/-! ## Titles -/

/-- How far a title was read. -/
inductive Title where
  /-- There is no title. -/
  | none
  /-- The text ends inside the title, which `closer` would end. -/
  | unfinished (closer : Char) (text : List Char)
  /-- The title and the rest behind it. -/
  | finished (text rest : List Char)

namespace Title

/-- The raw text of a title up to its closing mark, and the rest behind it if there is one. A title
in parentheses holds no opening one. -/
def body? (closer : Char) : List Char → Option (List Char × Option (List Char))
  | [] => some ([], .none)
  | '\\' :: c :: cs => (body? closer cs).map fun found => ('\\' :: c :: found.1, found.2)
  | c :: cs =>
    if c = closer then some ([], some cs)
    else if c = '(' ∧ closer = ')' then Option.none
    else (body? closer cs).map fun found => (c :: found.1, found.2)

/-- Reads on in a title of which `before` is known. -/
def resume (closer : Char) (before cs : List Char) : Title :=
  match body? closer cs with
  | Option.none => none
  | some (raw, Option.none) => unfinished closer (before ++ unescape raw)
  | some (raw, some rest) => finished (before ++ unescape raw) rest

/-- The title at the front of a text. -/
def scan : List Char → Title
  | [] => none
  | c :: cs =>
    if c = '\x22' ∨ c = '\x27' then resume c [] cs
    else if c = '(' then resume ')' [] cs
    else none

end Title

end Quizmark.Markdown
