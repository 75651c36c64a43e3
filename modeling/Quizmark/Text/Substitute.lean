/-!
# Substitution by patterns

`substitute pattern?` goes through a text from left to right. Where the pattern matches, its output
takes the place of the match and the search goes on behind it; every other character stays.
`occursIn` only tells whether one text is part of another.
-/

namespace Quizmark.Text

/-- What a pattern found at the front of a text: what to write and how many characters to take. -/
structure Match where
  output : List Char
  length : Nat

/-- Substitution where the first `skip` characters belong to a match already written. -/
def substituteFrom (pattern? : List Char → Option Match) : Nat → List Char → List Char
  | _, [] => []
  | skip + 1, _ :: cs => substituteFrom pattern? skip cs
  | 0, c :: cs =>
    match pattern? (c :: cs) with
    | some found => found.output ++ substituteFrom pattern? (found.length - 1) cs
    | none => c :: substituteFrom pattern? 0 cs

/-- Replaces every match of a pattern, from left to right and without overlap. -/
def substitute (pattern? : List Char → Option Match) (cs : List Char) : List Char :=
  substituteFrom pattern? 0 cs

/-- Whether a text occurs in another. -/
def occursIn (part : List Char) : List Char → Bool
  | [] => part.isEmpty
  | c :: cs => part.isPrefixOf (c :: cs) || occursIn part cs

end Quizmark.Text
