import Quizmark.Text.Blank

/-!
# Document paths

A path names a document. Both separators are allowed; `DocPath.normalize` leaves slashes alone.

* `DocPath.simplify`: a path as it is given, without the parts that lead nowhere.
* `DocPath.fileName`: the part behind the last slash of a normalized path.
* `DocPath.idPrefix`: the file name without its ending, which the ids of headings begin with.
-/

namespace Quizmark.DocPath

/-- A character of a path with the slash as the only separator. -/
def normalChar (c : Char) : Char := if c = '\\' then '/' else c

/-- The characters of a path with the slash as the only separator. -/
def normalChars (cs : List Char) : List Char := cs.map normalChar

/-- A path with the slash as the only separator. -/
def normalize (path : String) : String := String.ofList (normalChars path.toList)

/-- The normal form of a path that may be missing; a missing path is the empty one. -/
def normalize? (path : Option String) : String :=
  match path with
  | some path => normalize path
  | none => ""

/-- The parts of a path that lead somewhere. -/
def steps (cs : List Char) : List (List Char) :=
  (Text.splitAt '/' cs).filter fun part => !part.isEmpty && part != ['.']

/-- The slashes that an absolute path begins with: two stay two, more are one. -/
def root (cs : List Char) : List Char :=
  match cs.takeWhile (· == '/') with
  | [] => []
  | ['/', '/'] => ['/', '/']
  | _ => ['/']

/-- A path without the parts that lead nowhere; if nothing is left, it is the place itself. -/
def simplify (path : String) : String :=
  let cs := path.toList
  let simple := root cs ++ ['/'].intercalate (steps cs)
  if simple.isEmpty then "." else String.ofList simple

/-- The part of a path behind the last slash. -/
def fileName (cs : List Char) : List Char := (cs.reverse.takeWhile (· != '/')).reverse

/-- A text without an ending, if it has it and the ending is not empty. -/
def dropEnding? (ending cs : List Char) : Option (List Char) :=
  if ending.isEmpty then none
  else if ending.isSuffixOf cs then some (cs.take (cs.length - ending.length))
  else none

/-- What the ids of a document begin with where its file name leaves nothing. -/
def fallbackPrefix : String := "question"

/-- What the ids of a document begin with: its file name without the suffix of question specs, or
else without the ending of Markdown files. -/
def idPrefix (path suffix : String) : String :=
  let base := fileName (normalChars path.toList)
  let stem := ((dropEnding? suffix.toList base).or (dropEnding? ".md".toList base)).getD base
  if stem.isEmpty then fallbackPrefix else String.ofList stem

end Quizmark.DocPath
