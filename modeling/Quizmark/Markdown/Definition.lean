import Quizmark.Markdown.Link

/-!
# Link reference definitions

A definition gives a label a target: `[label]: destination "title"`. Label, destination and title
may stand on different lines. `Definition.ofText?` reads the definition at the front of a
paragraph. What stands behind a title must be blank; otherwise the title is none, and then what
stands behind the destination must be blank.
-/

namespace Quizmark.Markdown

/-- A target with the key of its label. -/
structure Definition where
  key : List Char
  target : Target

namespace Definition

/-- The label at the front of a text, behind its bracket, and the rest behind the closing one. -/
def label? : List Char → Option (List Char × List Char)
  | [] => none
  | '\\' :: c :: cs => (label? cs).map fun found => ('\\' :: c :: found.1, found.2)
  | c :: cs =>
    if c = '[' then none
    else if c = ']' then some ([], cs)
    else (label? cs).map fun found => (c :: found.1, found.2)

/-- The first line of a text with its line end. -/
def firstLine (cs : List Char) : List Char :=
  let line := cs.takeWhile (· != '\n')
  cs.take (line.length + 1)

/-- Whether only spaces and tabs stand before the end of the line. -/
def isLineOver (cs : List Char) : Bool :=
  match cs.dropWhile isSpaceOrTab with
  | [] => true
  | c :: _ => c == '\n'

/-- The title behind a destination and the rest, if the line is over behind the title or the title
is empty. -/
def title? (cs : List Char) : Option (List Char × List Char) :=
  let behind := cs.dropWhile isTargetSpace
  if behind.length < cs.length then
    match Title.scan behind with
    | .finished title rest =>
      if title.isEmpty ∨ isLineOver rest then some (title, rest) else none
    | _ => none
  else none

/-- The title behind a destination, empty if there is none, and the rest behind the definition. -/
def ending? (cs : List Char) : Option (List Char × List Char) :=
  let (title, rest) := (title? cs).getD ([], cs)
  if isLineOver rest then some (title, rest) else none

/-- The target at the front of a text and the rest behind the definition. A destination ends on its
line; one that takes all of the line up has no title. -/
def target? (cs : List Char) : Option (Target × List Char) := do
  let line := firstLine cs
  let (raw, lineRest) ← destination? line
  let href := linkTarget raw
  let behind := cs.drop line.length
  if !isSafe href then none
  else if lineRest.isEmpty then some (⟨href, []⟩, behind)
  else (ending? (lineRest ++ behind)).map fun found => (⟨href, found.1⟩, found.2)

/-- The number of lines that a text takes up. -/
def lineCount (cs : List Char) : Nat :=
  cs.count '\n' + if cs.getLast? = some '\n' then 0 else 1

/-- The definition at the front of a text and the number of its lines. -/
def ofText? : List Char → Option (Definition × Nat)
  | '[' :: cs =>
    match label? cs with
    | some (label, ':' :: behind) => do
      let (target, rest) ← target? (behind.dropWhile isTargetSpace)
      let key := labelKey label
      if key.isEmpty then none
      else some (⟨key, target⟩, lineCount (cs.take (cs.length - rest.length)))
    | _ => none
  | _ => none

end Definition

end Quizmark.Markdown
