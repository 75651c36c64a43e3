/-!
# JSON values

`Json` is a JSON value whose objects keep their fields in the order in which they were written.
Numbers are exact: integers, and decimal numbers, which were written with a fraction or an exponent.
Infinite numbers and those that are none have no place here, and a zero has no sign.

* `Decimal.int?`: the integer that a decimal number equals.
* `Fields`: the fields of an object, with `get?`, `put` and `without`.
* `Json.isTruthy`: empty values, zero, `false` and `null` count as false.
* `Json.levels`: how deep a value is nested.
-/

namespace Quizmark

/-- A number with a fraction or an exponent: `digits * 10 ^ exponent`. -/
structure Decimal where
  digits : Int
  exponent : Int
  deriving DecidableEq

/-- The integer that a decimal number equals, if there is one. -/
def Decimal.int? (d : Decimal) : Option Int :=
  let power := Int.pow 10 d.exponent.natAbs
  if 0 ≤ d.exponent then some (d.digits * power)
  else if d.digits % power = 0 then some (d.digits / power)
  else none

/-- A JSON value. -/
inductive Json where
  | null
  | bool (b : Bool)
  | num (n : Int)
  | decimal (d : Decimal)
  | str (s : String)
  | arr (items : List Json)
  | obj (fields : List (String × Json))
  deriving Inhabited

/-- Whether a value is `null`. -/
def Json.isNull : Json → Bool
  | null => true
  | _ => false

/-- The fields of an object in order. The first of two fields with one name counts. -/
abbrev Fields := List (String × Json)

namespace Fields

/-- The value of a field. -/
def get? : Fields → String → Option Json
  | [], _ => none
  | (k, v) :: rest, key => if k = key then some v else get? rest key

/-- Gives a field a value. A field that is there keeps its place, a new one goes to the end. -/
def put : Fields → String → Json → Fields
  | [], key, value => [(key, value)]
  | (k, v) :: rest, key, value =>
    if k = key then (k, value) :: rest else (k, v) :: put rest key value

/-- The fields whose names are not among `names`. -/
def without (names : List String) (fields : Fields) : Fields :=
  fields.filter fun f => !names.contains f.1

/-- The fields that are not null. -/
def present (fields : Fields) : Fields := fields.filter fun f => !f.2.isNull

end Fields

namespace Json

/-- Whether a value counts as true: `null`, `false`, zero and what is empty do not. -/
def isTruthy : Json → Bool
  | null => false
  | bool b => b
  | num n => n != 0
  | decimal d => d.digits != 0
  | str s => !s.isEmpty
  | arr items => !items.isEmpty
  | obj fields => !fields.isEmpty

/-- The text of a string value. -/
def str? : Json → Option String
  | str s => some s
  | _ => none

mutual

/-- The number of levels of a value: one more than its parts have. -/
def levels : Json → Nat
  | arr items => levelsAll items + 1
  | obj fields => levelsFields fields + 1
  | _ => 1
  termination_by structural value => value

/-- The greatest number of levels of an item. -/
def levelsAll : List Json → Nat
  | [] => 0
  | item :: rest => max item.levels (levelsAll rest)
  termination_by structural items => items

/-- The number of levels of the value of a field. -/
def levelsField : String × Json → Nat
  | (_, value) => value.levels
  termination_by structural field => field

/-- The greatest number of levels of a field. -/
def levelsFields : List (String × Json) → Nat
  | [] => 0
  | field :: rest => max (levelsField field) (levelsFields rest)
  termination_by structural fields => fields

end

end Json

end Quizmark
