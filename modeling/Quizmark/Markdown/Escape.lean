import Quizmark.Markdown.HtmlTag
import Quizmark.Markdown.NamedChar
import Quizmark.Text.Digit
import Quizmark.Text.Punctuation
import Quizmark.Text.Substitute

/-!
# Escapes and character references

Two ways to write a character in Markdown that would mean something else by itself: a backslash in
front of it, or a reference such as `&amp;` or `&#38;`.

* `reference?`: the character reference at the front of a text.
* `unescape`: a text with its escapes and references resolved, as in link targets and titles.
-/

namespace Quizmark.Markdown

/-- The value of a hexadecimal digit. -/
def hexDigit? (c : Char) : Option Nat :=
  if '0' ≤ c ∧ c ≤ '9' then some (c.toNat - 48)
  else if 'a' ≤ c ∧ c ≤ 'f' then some (c.toNat - 87)
  else if 'A' ≤ c ∧ c ≤ 'F' then some (c.toNat - 55)
  else none

/-- A hexadecimal digit. -/
def isHexDigit (c : Char) : Bool := (hexDigit? c).isSome

/-- The number that hexadecimal digits spell. -/
def ofHexDigits (cs : List Char) : Nat := cs.foldl (fun n c => 16 * n + (hexDigit? c).getD 0) 0

/-- The number that decimal digits spell. -/
def ofDecimalDigits (cs : List Char) : Nat := Text.ofDigits (cs.map Text.digitValue)

/-- The code points that a reference may stand for: no surrogates, noncharacters or controls other
than white space. -/
def isReferable (n : Nat) : Bool :=
  !((0xD800 ≤ n && n ≤ 0xDFFF) || (0xFDD0 ≤ n && n ≤ 0xFDEF) || n % 0x10000 ≥ 0xFFFE || n ≤ 8 ||
    n == 0x0B || (0x0E ≤ n && n ≤ 0x1F) || (0x7F ≤ n && n ≤ 0x9F) || n > 0x10FFFF)

/-- The code point at the front of a text, written with at most `maxHex` hexadecimal digits behind
`x` or at most `maxDecimal` decimal ones, and the rest behind the semicolon. -/
def codePoint? (maxHex maxDecimal : Nat) (cs : List Char) : Option (Nat × List Char) :=
  let digits (isDigit : Char → Bool) (max : Nat) (value : List Char → Nat) (cs : List Char) :=
    let ds := cs.takeWhile isDigit
    match cs.drop ds.length with
    | ';' :: rest =>
      if 0 < ds.length && ds.length ≤ max then some (value ds, rest) else none
    | _ => none
  match cs with
  | 'x' :: cs | 'X' :: cs => digits isHexDigit maxHex ofHexDigits cs
  | cs => digits Text.isDigit maxDecimal ofDecimalDigits cs

/-- A letter or digit of the name of a reference. -/
def isNamePart (c : Char) : Bool := HtmlTag.isLetter c || Text.isDigit c

/-- The characters of the named reference at the front of a text, behind its ampersand, and the
rest. -/
def named? (cs : List Char) : Option (List Char × List Char) :=
  let name := cs.takeWhile isNamePart
  match cs.drop name.length with
  | ';' :: rest => (NamedChar.lookup? name).map fun found => (found, rest)
  | _ => none

/-- The characters of the reference at the front of a text and the rest. A number that no
character has stands for the replacement character. -/
def reference? : List Char → Option (List Char × List Char)
  | '&' :: '#' :: cs =>
    (codePoint? 6 7 cs).map fun found =>
      ([if isReferable found.1 then Char.ofNat found.1 else '\uFFFD'], found.2)
  | '&' :: cs => named? cs
  | _ => none

/-- The reference at the front of a text as link targets resolve it: longer numbers are read, and a
number that no character has stays as it is. -/
def targetReference? : List Char → Option (List Char × List Char)
  | '&' :: '#' :: cs =>
    match codePoint? 8 8 cs with
    | some (n, rest) => if isReferable n then some ([Char.ofNat n], rest) else none
    | none => none
  | '&' :: cs => named? cs
  | _ => none

/-- What an escape or a reference at the front of a text resolves to. -/
def resolved? : List Char → Option Text.Match
  | '\\' :: c :: _ => if Text.isAsciiPunctuation c then some ⟨[c], 2⟩ else none
  | cs => (targetReference? cs).map fun found => ⟨found.1, cs.length - found.2.length⟩

/-- A text with its escapes and references resolved. -/
def unescape (cs : List Char) : List Char := Text.substitute resolved? cs

end Quizmark.Markdown
