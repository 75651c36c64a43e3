import Quizmark.Error
import Quizmark.Text.Blank
import Quizmark.Text.Letter

/-!
# Directive parameters

The line that opens a container directive holds a name, a label in square brackets and attributes in
braces; label and attributes may be left out. `Directive.parse` takes the three apart.

An attribute is `#id`, `.class`, a key, or a key with a value. Several classes become one attribute
`class`, which comes last unless there is one already. `Directive.attributesIn` finds the attributes
between the braces and skips whatever is none.
-/

namespace Quizmark

/-- The parameters of a container directive. -/
structure Directive where
  name : String
  label : Option String
  attributes : Option (List (String × String))

namespace Directive

/-! ## Attributes -/

/-- An attribute as it is written: its key with the mark in front, and its value if not empty. -/
structure Written where
  key : List Char
  value : List Char

/-- A character of a key. -/
def isKeyChar (c : Char) : Bool := c == '-' || Text.isWordChar c

/-- A quotation mark. -/
def isMark (c : Char) : Bool := c == '\x22' || c == '\x27'

/-- A character of a value without quotation marks. -/
def isBareChar (c : Char) : Bool := !Text.isBlank c && !isMark c

/-- A value between two marks, without them, and the number of characters taken. -/
def quotedValue? (mark : Char) (cs : List Char) : Option (List Char × Nat) :=
  match cs.dropWhile (· != mark) with
  | [] => none
  | _ :: _ =>
    let inner := cs.takeWhile (· != mark)
    some (mark :: inner ++ [mark], inner.length + 2)

/-- The value behind an equals sign as it is written, and the number of characters taken. -/
def writtenValue? : List Char → Option (List Char × Nat)
  | [] => none
  | c :: cs =>
    if isMark c then quotedValue? c cs
    else
      let bare := (c :: cs).takeWhile isBareChar
      if bare.isEmpty then none else some (bare, bare.length)

/-- The value behind a key, if there is one, and the number of characters taken. -/
def valueAfterKey (cs : List Char) : List Char × Nat :=
  match cs with
  | '=' :: rest =>
    match writtenValue? rest with
    | some (value, length) => (value, length + 1)
    | none => ([], 0)
  | _ => ([], 0)

/-- The attribute at the front of a text, and the number of characters taken. -/
def written? (cs : List Char) : Option (Written × Nat) :=
  let mark := match cs with
    | '#' :: _ => ['#']
    | '.' :: _ => ['.']
    | _ => []
  let rest := cs.drop mark.length
  let word := rest.takeWhile isKeyChar
  if word.isEmpty then none
  else
    let (value, length) := valueAfterKey (rest.dropWhile isKeyChar)
    some (⟨mark ++ word, value⟩, mark.length + word.length + length)

/-- The attributes in a text whose first `skip` characters belong to one already found. -/
def allWrittenFrom : Nat → List Char → List Written
  | _, [] => []
  | skip + 1, _ :: cs => allWrittenFrom skip cs
  | 0, c :: cs =>
    match written? (c :: cs) with
    | some (found, length) => found :: allWrittenFrom (length - 1) cs
    | none => allWrittenFrom 0 cs

/-- The attributes in a text, as they are written. -/
def allWritten (cs : List Char) : List Written := allWrittenFrom 0 cs

/-- Gives an attribute a value. One that is there keeps its place, a new one goes to the end. -/
def setAttribute (key value : String) : List (String × String) → List (String × String)
  | [] => [(key, value)]
  | (k, v) :: rest =>
    if k = key then (k, value) :: rest else (k, v) :: setAttribute key value rest

/-- The classes among written attributes. -/
def classes (written : List Written) : List String :=
  written.filterMap fun w =>
    match w.key with
    | '.' :: name => some (String.ofList name)
    | _ => none

/-- Adds a written attribute that is no class. -/
def addWritten (attributes : List (String × String)) (w : Written) : List (String × String) :=
  match w.key with
  | '#' :: id => setAttribute "id" (String.ofList id) attributes
  | '.' :: _ => attributes
  | key =>
    setAttribute (String.ofList key)
      (String.ofList (Text.trimChars ['\x22', '\x27'] w.value)) attributes

/-- The attributes that a text between braces holds. -/
def attributesIn (cs : List Char) : List (String × String) :=
  let written := allWritten cs
  let named := written.foldl addWritten []
  match classes written with
  | [] => named
  | names => setAttribute "class" (" ".intercalate names) named

/-! ## Parameters -/

/-- An ASCII letter. -/
def isAsciiLetter (c : Char) : Bool := ('a' ≤ c && c ≤ 'z') || ('A' ≤ c && c ≤ 'Z')

/-- A name at the front of a text, and the rest. -/
def name? : List Char → Option (List Char × List Char)
  | [] => none
  | c :: cs =>
    if isAsciiLetter c then some (c :: cs.takeWhile isKeyChar, cs.dropWhile isKeyChar) else none

/-- What stands between two brackets at the front of a text, and the rest. A text that does not
begin with the first bracket, or has no second one, has nothing there and stays whole. -/
def bracketed (first last : Char) (cs : List Char) : Option (List Char) × List Char :=
  match cs with
  | [] => (none, cs)
  | c :: rest =>
    if c = first then
      match rest.dropWhile (· != last) with
      | [] => (none, cs)
      | _ :: after => (some (rest.takeWhile (· != last)), after)
    else (none, cs)

/-- The parameters in a text, if they follow the grammar. Blanks around them are ignored. -/
def ofChars? (cs : List Char) : Option Directive := do
  let (name, rest) ← name? (Text.trim cs)
  let (label, rest) := bracketed '[' ']' rest
  let (source, rest) := bracketed '\x7b' '\x7d' rest
  if rest.isEmpty then
    some ⟨String.ofList name, label.map String.ofList, source.map attributesIn⟩
  else none

/-- Whether the parameters in a text follow the grammar. -/
def accepts (cs : List Char) : Bool := (ofChars? cs).isSome

/-- The parameters in a text. -/
def parse (params : String) : Except Error Directive :=
  match ofChars? params.toList with
  | some directive => .ok directive
  | none => .error (.badDirective params)

end Directive

end Quizmark
