import Quizmark.Json.Basic

/-!
# JSON text

`Json.render` writes a value over several lines. An item or field stands on a line of its own,
indented by `width` spaces for each level; an empty array or object stays on one line. A string
escapes the quotation mark, the backslash and the control characters, and nothing else. A decimal
number has an exponent only where its point would stand far from its digits.
-/

namespace Quizmark.Json

/-- One hexadecimal digit in lower case. -/
private def hexDigit (n : Nat) : Char := Nat.digitChar (n % 16)

/-- How a character is written inside a JSON string. -/
def escapeChar (c : Char) : List Char :=
  match c.toNat with
  | 0x22 => ['\\', '\x22']
  | 0x5C => ['\\', '\\']
  | 0x0A => ['\\', 'n']
  | 0x0D => ['\\', 'r']
  | 0x09 => ['\\', 't']
  | 0x08 => ['\\', 'b']
  | 0x0C => ['\\', 'f']
  | n => if n < 0x20 then ['\\', 'u', '0', '0', hexDigit (n / 16), hexDigit n] else [c]

/-- A JSON string with its quotation marks. -/
def renderString (s : String) : String :=
  String.ofList ('\x22' :: s.toList.flatMap escapeChar ++ ['\x22'])

/-- The digits of a number without the zeros at their end, and the place of the point behind the
first digit of all. -/
def decimalDigits (d : Decimal) : List Char × Int :=
  let all := (toString d.digits.natAbs).toList
  let digits := (all.reverse.dropWhile (· == '0')).reverse
  if digits.isEmpty then (['0'], 1) else (digits, all.length + d.exponent)

/-- The text of the digits of a decimal number with its point at a place. -/
def placePoint (digits : List Char) (point : Int) : List Char :=
  if point ≤ 0 then '0' :: '.' :: List.replicate (-point).toNat '0' ++ digits
  else
    let whole := digits.take point.toNat
    let rest := digits.drop point.toNat
    whole ++ List.replicate (point.toNat - whole.length) '0' ++
      '.' :: if rest.isEmpty then ['0'] else rest

/-- The exponent of a number with its sign and at least two digits. -/
def exponentText (n : Int) : List Char :=
  let digits := (toString n.natAbs).toList
  (if n < 0 then '-' else '+') :: List.replicate (2 - digits.length) '0' ++ digits

/-- The text of a decimal number. -/
def renderDecimal (d : Decimal) : String :=
  let (digits, point) := decimalDigits d
  let text :=
    if -4 < point ∧ point ≤ 16 then placePoint digits point
    else
      (match digits with
        | [digit] => [digit]
        | digits => digits.take 1 ++ '.' :: digits.drop 1) ++ 'e' :: exponentText (point - 1)
  String.ofList (if d.digits < 0 then '-' :: text else text)

/-- A line feed and the indentation of a level. -/
def lineStart (width level : Nat) : String :=
  "\n" ++ String.ofList (List.replicate (width * level) ' ')

mutual

/-- The text of a value that stands at a level of indentation. -/
def renderAt (width level : Nat) : Json → String
  | null => "null"
  | bool true => "true"
  | bool false => "false"
  | num n => toString n
  | decimal d => renderDecimal d
  | str s => renderString s
  | arr [] => "[]"
  | arr items =>
    "[" ++ lineStart width (level + 1) ++ renderItems width (level + 1) items ++
      lineStart width level ++ "]"
  | obj [] => "\x7b\x7d"
  | obj fields =>
    "\x7b" ++ lineStart width (level + 1) ++ renderFields width (level + 1) fields ++
      lineStart width level ++ "\x7d"
  termination_by structural j => j

/-- The items of an array, a comma and a new line between two. -/
def renderItems (width level : Nat) : List Json → String
  | [] => ""
  | [item] => renderAt width level item
  | item :: rest =>
    renderAt width level item ++ "," ++ lineStart width level ++ renderItems width level rest
  termination_by structural items => items

/-- One field: name, colon, space, value. -/
def renderField (width level : Nat) : String × Json → String
  | (key, value) => renderString key ++ ": " ++ renderAt width level value
  termination_by structural field => field

/-- The fields of an object, a comma and a new line between two. -/
def renderFields (width level : Nat) : List (String × Json) → String
  | [] => ""
  | [field] => renderField width level field
  | field :: rest =>
    renderField width level field ++ "," ++ lineStart width level ++
      renderFields width level rest
  termination_by structural fields => fields

end

/-- The text of a value, with `width` spaces for each level. -/
def render (width : Nat) (value : Json) : String := renderAt width 0 value

end Quizmark.Json
