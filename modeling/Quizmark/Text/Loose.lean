import Quizmark.Text.Digit

/-!
# Loosely written integers and booleans

The spellings of an integer or a boolean that a payload may use where the value itself is expected.

* `looseInteger?`: blanks around, a sign, leading zeros, single low lines between digits and a
  fraction of zeros alone.
* `looseBoolean?`: twelve words in any case.
-/

namespace Quizmark.Text

/-- The blanks that are ignored around a loosely written integer: the separators of ASCII are not
among them. -/
def isSpace (c : Char) : Bool := isBlank c && !(28 ≤ c.toNat && c.toNat ≤ 31)

/-- What is left of a number after its leading zeros. Low lines between zeros are dropped with
them, and one zero stays if no other digit follows. -/
def afterZeros? : Char → List Char → Option (List Char)
  | last, [] => some [last]
  | last, c :: cs =>
    if c = '0' ∨ c = '_' then afterZeros? c cs
    else if isDigit c then some (c :: cs)
    else if c = '.' then some (last :: c :: cs)
    else none

/-- A number without its leading zeros. -/
def withoutZeros? : List Char → Option (List Char)
  | [] => none
  | c :: cs =>
    if c = '0' then afterZeros? c cs else if isDigit c then some (c :: cs) else none

/-- A number without its fraction, if that is zero. -/
def withoutFraction (cs : List Char) : List Char :=
  match cs.dropWhile (· != '.') with
  | [] => cs
  | _ :: fraction => if fraction.all (· == '0') then cs.takeWhile (· != '.') else cs

/-- The digits of a number; a low line stands only between two digits. -/
def plainDigits? : List Char → Option (List Nat)
  | [] => none
  | [c] => if isDigit c then some [digitValue c] else none
  | c :: '_' :: cs => if isDigit c then (digitValue c :: ·) <$> plainDigits? cs else none
  | c :: cs => if isDigit c then (digitValue c :: ·) <$> plainDigits? cs else none

/-- A natural number in loose writing. -/
def looseNatural? (cs : List Char) : Option Nat := do
  let digits ← plainDigits? (withoutFraction (← withoutZeros? cs))
  return ofDigits digits

/-- An integer in loose writing. -/
def looseInteger? (cs : List Char) : Option Int :=
  match ((cs.dropWhile isSpace).reverse.dropWhile isSpace).reverse with
  | '+' :: ds => (looseNatural? ds).map Int.ofNat
  | '-' :: ds => (looseNatural? ds).map fun n => -(n : Int)
  | ds => (looseNatural? ds).map Int.ofNat

/-- The words for true. -/
def trueWords : List String := ["1", "on", "t", "true", "y", "yes"]

/-- The words for false. -/
def falseWords : List String := ["0", "off", "f", "false", "n", "no"]

/-- A boolean word in any case. -/
def looseBoolean? (s : String) : Option Bool :=
  let word := s.toLower
  if trueWords.contains word then some true
  else if falseWords.contains word then some false
  else none

end Quizmark.Text
