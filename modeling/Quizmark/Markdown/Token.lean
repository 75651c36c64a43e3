/-!
# Markdown tokens and elements

Markdown source is first a flat list of tokens. A token opens an element (nesting 1), closes one
(nesting -1) or is a whole element (nesting 0), which may have tokens inside. `Element.ofTokens?`
builds the tree of elements from a list of tokens; it fails if openings and closings do not match.
-/

namespace Quizmark.Markdown

/-- The value of an attribute of a token. -/
inductive AttrValue where
  | text (s : String)
  | number (n : Int)
  deriving DecidableEq

/-- The value as a text. -/
def AttrValue.toText : AttrValue → String
  | text s => s
  | number n => toString n

/-- What a token says apart from its place. -/
structure Head where
  type : String
  tag : String := ""
  attrs : List (String × AttrValue) := []
  content : String := ""
  info : String := ""
  hidden : Bool := false

/-- The value of an attribute. -/
def Head.attr? (head : Head) (name : String) : Option AttrValue := head.attrs.lookup name

/-- A token: what it says, how it changes the nesting, and the tokens inside it. -/
inductive Token where
  | mk (head : Head) (nesting : Int) (children : List Token)

/-- What a token says. -/
def Token.head : Token → Head
  | mk head _ _ => head

/-- How a token changes the nesting. -/
def Token.nesting : Token → Int
  | mk _ nesting _ => nesting

/-- An element of a document. -/
inductive Element where
  | mk (head : Head) (children : List Element)

instance : Inhabited Head := ⟨⟨"", "", [], "", "", false⟩⟩

instance : Inhabited Token := ⟨.mk default 0 []⟩

instance : Inhabited Element := ⟨.mk default []⟩

namespace Element

/-- What an element says. -/
def head : Element → Head
  | mk head _ => head

/-- The type of an element. -/
def type (element : Element) : String := element.head.type

/-- The elements inside an element. -/
def children : Element → List Element
  | mk _ children => children

/-- The inline content of a block before it is read. -/
def rawInline (content : List Char) : Element :=
  mk { type := "inline", content := String.ofList content } []

end Element

/-- The type of the element that a token of this type opens. -/
def openedType (type : String) : String :=
  let cs := type.toList
  let ending := "_open".toList
  if ending.isSuffixOf cs then String.ofList (cs.take (cs.length - ending.length)) else type

/-- An element that is open: what it says and what is inside it so far, the last first. -/
structure Frame where
  head : Head
  inside : List Element

/-- The element that a frame becomes when it is closed. -/
def Frame.close (frame : Frame) (inside : List Element) : Element :=
  .mk { frame.head with type := openedType frame.head.type } inside.reverse

mutual

/-- The elements of a list of tokens inside the open frames; `inside` is what the innermost frame
holds so far, the last first. -/
def Element.nest? (frames : List Frame) (inside : List Element) :
    List Token → Option (List Element)
  | [] => if frames.isEmpty then some inside.reverse else none
  | token :: rest =>
    match token.nesting with
    | 0 =>
      match Element.ofToken? token with
      | some element => Element.nest? frames (element :: inside) rest
      | none => none
    | 1 => Element.nest? (⟨token.head, inside⟩ :: frames) [] rest
    | -1 =>
      match frames with
      | [] => none
      | frame :: outer => Element.nest? outer (frame.close inside :: frame.inside) rest
    | _ => none
  termination_by structural tokens => tokens

/-- The element of a token that is one by itself. -/
def Element.ofToken? : Token → Option Element
  | .mk head _ children => (Element.nest? [] [] children).map (Element.mk head)
  termination_by structural token => token

end

namespace Element

/-- The elements that a list of tokens describes, if every opening has its closing. -/
def ofTokens? (tokens : List Token) : Option (List Element) := nest? [] [] tokens

end Element

end Quizmark.Markdown
