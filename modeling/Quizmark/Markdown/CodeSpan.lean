import Quizmark.Text.Blank

/-!
# Code spans

A code span stands between two runs of backticks of the same length. `CodeSpan.close?` looks for
the second run; the runs of other lengths that it passes are remembered, so that the rest of the
text is searched once only.
-/

namespace Quizmark.Markdown.CodeSpan

/-- What is known about the runs of backticks in a text. -/
structure Runs where
  /-- Where a run of a length was seen last. -/
  seen : List (Nat × Nat) := []
  /-- Whether the text was searched up to its end. -/
  isComplete : Bool := false

/-- Whether no run of a length can follow a position. -/
def Runs.excludes (runs : Runs) (width start : Nat) : Bool :=
  runs.isComplete && (runs.seen.lookup width).getD 0 ≤ start

/-- A backtick. -/
def isBacktick (c : Char) : Bool := c == '\x60'

/-- Looks for a run of length `width` in a text that begins at `pos`. The first argument bounds the
number of runs. -/
def find (width : Nat) : Nat → Nat → List Char → Runs → Option Nat × Runs
  | 0, _, _, runs => (none, { runs with isComplete := true })
  | fuel + 1, pos, cs, runs =>
    let start := pos + (cs.takeWhile fun c => !isBacktick c).length
    match cs.dropWhile fun c => !isBacktick c with
    | [] => (none, { runs with isComplete := true })
    | c :: more =>
      let length := ((c :: more).takeWhile isBacktick).length
      if length = width then (some start, runs)
      else
        find width fuel (start + length) ((c :: more).drop length)
          { runs with seen := (length, start) :: runs.seen }

/-- Where the run of backticks that closes a span begins. The opening run has length `width` and
begins at `start`; `cs` is the text behind it. -/
def close? (width start : Nat) (cs : List Char) (runs : Runs) : Option Nat × Runs :=
  if runs.excludes width start then (none, runs)
  else find width (cs.length + 1) (start + width) cs runs

/-- The content of the text between the runs: line ends are spaces, and one space at each end is
dropped if there is more than blanks. -/
def content (cs : List Char) : List Char :=
  let cs := cs.map fun c => if c = '\n' then ' ' else c
  if cs.head? = some ' ' ∧ cs.getLast? = some ' ' ∧ !Text.allBlank cs then (cs.drop 1).dropLast
  else cs

end Quizmark.Markdown.CodeSpan
