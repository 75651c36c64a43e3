import Quizmark.Node.Walk
import Quizmark.Text.Letter

/-!
# Heading ids

Every heading of depth three or more gets an id in its data, made from the prefix of the document
and the slug of its title.

* `HeadingId.slug`: runs of blanks become hyphens; letters, numbers, low lines and hyphens stay.
* `HeadingId.Counter`: how often each id was asked for. The first heading with an id gets it as it
  is, a later one with its number behind it.
* `Node.assignIds`: gives ids to the headings of nodes.
-/

namespace Quizmark

namespace HeadingId

/-! ## Slugs -/

/-- Puts a hyphen in the place of every run of blanks. -/
def hyphenate : List Char → List Char
  | [] => []
  | c :: cs =>
    if Text.isBlank c then
      match cs with
      | [] => ['-']
      | d :: _ => if Text.isBlank d then hyphenate cs else '-' :: hyphenate cs
    else c :: hyphenate cs

/-- A character that a slug keeps. -/
def isSlugChar (c : Char) : Bool := c == '_' || c == '-' || Text.isAlnum c

/-- The slug of a title that leaves nothing. -/
def fallbackSlug : String := "section"

/-- The slug of a title. -/
def slug (title : String) : String :=
  let kept := (hyphenate (Text.trim title.toList)).filter isSlugChar
  if kept.isEmpty then fallbackSlug else String.ofList kept

/-! ## Counting -/

/-- How often each id was asked for, in the order in which they came up. -/
abbrev Counter := List (String × Int)

/-- The count of an id, zero if it never came up. -/
def Counter.count : Counter → String → Int
  | [], _ => 0
  | (k, n) :: rest, id => if k = id then n else Counter.count rest id

/-- Counts an id once more. -/
def Counter.add : Counter → String → Counter
  | [], id => [(id, 1)]
  | (k, n) :: rest, id => if k = id then (k, n + 1) :: rest else (k, n) :: Counter.add rest id

/-- The id of a heading whose base id came up `seen` times before. -/
def numbered (base : String) (seen : Int) : String :=
  if seen = 0 then base else base ++ "-" ++ toString seen

/-- The name of the field of a heading's data that holds its properties. -/
def propertiesKey : String := "hProperties"

/-- The properties of a heading, if they can take an id: an object, or a value that counts as
missing. -/
def properties? (data : Fields) : Option Fields :=
  match data.get? propertiesKey with
  | none => some []
  | some (.obj fields) => some fields
  | some value => if value.isTruthy then none else some []

/-- The data of a heading with an id, if its properties can take one. -/
def withId? (id : String) (data : Option Fields) : Option Fields :=
  let data := data.getD []
  (properties? data).map fun properties =>
    data.put propertiesKey (.obj (properties.put "id" (.str id)))

/-- The least depth of a heading that gets an id. -/
def minDepth : Nat := 3

end HeadingId

namespace Node

open HeadingId

/-- Whether a node is a heading that gets an id. -/
def takesId (node : Node) : Bool :=
  match node.depth? with
  | some depth => minDepth ≤ depth.val
  | none => false

/-- The id of a heading before it is numbered. -/
def baseId (idPrefix : String) (node : Node) : String :=
  idPrefix ++ "-" ++ slug node.title

/-- Gives an id to one node, if it takes one. The id counts even if the node cannot hold it. -/
def idStep (idPrefix : String) (counter : Counter) (node : Node) : Outcome Counter Node :=
  if node.takesId then
    let base := node.baseId idPrefix
    match withId? (numbered base (counter.count base)) node.data with
    | some data => ⟨node.withData (some data), counter.add base, none⟩
    | none => ⟨node, counter.add base, some .notMergeable⟩
  else ⟨node, counter, none⟩

/-- Gives ids to the headings among nodes and below them. -/
def assignIds (idPrefix : String) (counter : Counter) (nodes : List Node) :
    Outcome Counter (List Node) :=
  visitAll (idStep idPrefix) counter nodes

end Node

end Quizmark
