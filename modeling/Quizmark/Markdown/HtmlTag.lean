import Quizmark.Text.Blank

/-!
# HTML tags

The pieces of HTML that Markdown leaves alone: tags, comments, processing instructions,
declarations and character data. Each function takes what it names from the front of a text and
gives the rest, or `none` if there is no such thing.
-/

namespace Quizmark.Markdown.HtmlTag

/-- An ASCII letter. -/
def isLetter (c : Char) : Bool := ('a' ≤ c && c ≤ 'z') || ('A' ≤ c && c ≤ 'Z')

/-- A character of the name of a tag. -/
def isNameChar (c : Char) : Bool := isLetter c || ('0' ≤ c && c ≤ '9') || c == '-'

/-- The first character of the name of an attribute. -/
def isAttributeStart (c : Char) : Bool := isLetter c || c == '_' || c == ':'

/-- A character of the name of an attribute. -/
def isAttributeChar (c : Char) : Bool := isNameChar c || c == '_' || c == ':' || c == '.'

/-- A character of a value without quotation marks. -/
def isBareChar (c : Char) : Bool :=
  0x20 < c.toNat && !(['\x22', '\x27', '=', '<', '>', '\x60'].contains c)

/-- The rest behind the first occurrence of `mark`. -/
def behind? (mark : List Char) : List Char → Option (List Char)
  | [] => if mark.isEmpty then some [] else none
  | c :: cs =>
    if mark.isPrefixOf (c :: cs) then some ((c :: cs).drop mark.length) else behind? mark cs

/-- The rest behind the name of a tag. -/
def name? : List Char → Option (List Char)
  | [] => none
  | c :: cs => if isLetter c then some (cs.dropWhile isNameChar) else none

/-- The rest behind the end of an opening tag. -/
def tagEnd? (cs : List Char) : Option (List Char) :=
  match Text.trimLeft cs with
  | '>' :: rest => some rest
  | '/' :: '>' :: rest => some rest
  | _ => none

/-- The rests behind a value of an attribute, the longest value first. A value without quotation
marks may also end before any blank that it could contain. -/
def valueEnds : List Char → List (List Char)
  | [] => []
  | c :: cs =>
    if c = '\x22' ∨ c = '\x27' then
      match cs.dropWhile (· != c) with
      | [] => []
      | _ :: rest => [rest]
    else
      let bare := (c :: cs).takeWhile isBareChar
      let all := (c :: cs).drop bare.length
      if bare.isEmpty then []
      else
        let shorter := (List.range bare.length).reverse.filterMap fun n =>
          match (c :: cs).drop n with
          | d :: rest => if n > 0 && Text.isBlank d then some (d :: rest) else none
          | [] => none
        all :: shorter

/-- The rest behind the attributes and the end of an opening tag. The first argument bounds the
number of attributes. -/
def attributes? : Nat → List Char → Option (List Char)
  | 0, cs => tagEnd? cs
  | fuel + 1, cs =>
    let rest := Text.trimLeft cs
    match rest with
    | c :: more =>
      if isAttributeStart c && rest.length < cs.length then
        let afterName := more.dropWhile isAttributeChar
        let withValue := match Text.trimLeft afterName with
          | '=' :: value => (valueEnds (Text.trimLeft value)).findSome? (attributes? fuel)
          | _ => none
        withValue.or (attributes? fuel afterName)
      else tagEnd? cs
    | [] => none

/-- The rest behind an opening tag. -/
def openTag? : List Char → Option (List Char)
  | '<' :: cs => do
    let rest ← name? cs
    attributes? rest.length rest
  | _ => none

/-- The rest behind a closing tag. -/
def closeTag? : List Char → Option (List Char)
  | '<' :: '/' :: cs => do
    match Text.trimLeft (← name? cs) with
    | '>' :: rest => some rest
    | _ => none
  | _ => none

/-- The rest behind the text of a comment and its end. -/
def commentEnd? : List Char → Option (List Char)
  | '-' :: '-' :: '>' :: rest => some rest
  | '-' :: '-' :: _ :: rest => commentEnd? rest
  | '-' :: '-' :: [] => none
  | '-' :: _ :: rest => commentEnd? rest
  | '-' :: [] => none
  | _ :: rest => commentEnd? rest
  | [] => none

/-- The rest behind a comment. -/
def comment? : List Char → Option (List Char)
  | '<' :: '!' :: '-' :: '-' :: '>' :: rest => some rest
  | '<' :: '!' :: '-' :: '-' :: '-' :: '>' :: rest => some rest
  | '<' :: '!' :: '-' :: '-' :: rest => commentEnd? rest
  | _ => none

/-- The rest behind a processing instruction. -/
def processing? : List Char → Option (List Char)
  | '<' :: '?' :: rest => behind? ['?', '>'] rest
  | _ => none

/-- The rest behind character data. -/
def characterData? (cs : List Char) : Option (List Char) :=
  let opening := "<![CDATA[".toList
  if opening.isPrefixOf cs then behind? [']', ']', '>'] (cs.drop opening.length) else none

/-- The rest behind a declaration. -/
def declaration? : List Char → Option (List Char)
  | '<' :: '!' :: c :: rest => if isLetter c then behind? ['>'] rest else none
  | _ => none

/-- The rest behind an opening or closing tag. -/
def tag? (cs : List Char) : Option (List Char) := (openTag? cs).or (closeTag? cs)

/-- The rest behind any piece of HTML. -/
def any? (cs : List Char) : Option (List Char) :=
  (tag? cs).or <| (comment? cs).or <| (processing? cs).or <| (declaration? cs).or <|
    characterData? cs

end Quizmark.Markdown.HtmlTag
