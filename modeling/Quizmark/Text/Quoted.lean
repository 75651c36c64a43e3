import Quizmark.Text.Printable

/-!
# Quoted text in messages

`quote` shows a text inside a message. It stands between single quotes, or between double quotes
if it holds a single quote and no double one. The quote in use, the backslash and what is not
printable are written as escapes, so that the message stays on one line.
-/

namespace Quizmark.Text

/-- The last `width` hexadecimal digits of a number, in lower case. -/
def hexDigits : Nat → Nat → List Char
  | 0, _ => []
  | width + 1, n => hexDigits width (n / 16) ++ [Nat.digitChar (n % 16)]

/-- The escape of a character that is not printable: two, four or eight digits. -/
def numericEscape (c : Char) : List Char :=
  let n := c.toNat
  if n ≤ 0xFF then ['\\', 'x'] ++ hexDigits 2 n
  else if n ≤ 0xFFFF then ['\\', 'u'] ++ hexDigits 4 n
  else ['\\', 'U'] ++ hexDigits 8 n

/-- The mark that usually encloses a text. -/
def singleMark : Char := '\x27'

/-- The mark for texts that hold the usual one. -/
def doubleMark : Char := '\x22'

/-- How a character is written between two marks `mark`. -/
def quotedChar (mark c : Char) : List Char :=
  if c = mark ∨ c = '\\' then ['\\', c]
  else match c with
    | '\n' => ['\\', 'n']
    | '\r' => ['\\', 'r']
    | '\t' => ['\\', 't']
    | c => if isPrintable c then [c] else numericEscape c

/-- The mark that encloses a text. -/
def quoteMark (cs : List Char) : Char :=
  if cs.contains singleMark && !cs.contains doubleMark then doubleMark else singleMark

/-- A text between quotes, on one line. -/
def quote (s : String) : String :=
  let cs := s.toList
  let mark := quoteMark cs
  String.ofList (mark :: cs.flatMap (quotedChar mark) ++ [mark])

end Quizmark.Text
