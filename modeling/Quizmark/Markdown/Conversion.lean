import Quizmark.Directive
import Quizmark.Markdown.Token
import Quizmark.Node.Basic
import Quizmark.Text.Digit
import Quizmark.Text.Substitute

/-!
# From elements to nodes

`rootOfElements` converts the elements of Markdown source to a document, and `rootOfTokens` builds
the elements first.

* Inline elements (`inlineNodes`): adjacent texts and soft line breaks become one text.
* Tables (`tableNode`), lists and their items, in which a leading checkbox becomes the state
  `checked` of the item (`popCheckbox`).
* Blocks of other types keep their type and their converted children.
-/

namespace Quizmark.Markdown

/-! ## Inline elements -/

/-- Joins texts that stand side by side. -/
def mergeTexts : List Node → List Node
  | [] => []
  | .literal .text data value extra :: rest =>
    match mergeTexts rest with
    | .literal .text _ more _ :: others => .literal .text data (value ++ more) extra :: others
    | others => .literal .text data value extra :: others
  | node :: rest => node :: mergeTexts rest

/-- The value of an attribute as a field of a node. -/
def AttrValue.toJson : AttrValue → Json
  | text s => .str s
  | number n => .num n

/-- The text of an attribute, empty if it is missing. -/
def Head.attrText (head : Head) (name : String) : String :=
  match head.attr? name with
  | some value => value.toText
  | none => ""

/-- The title of a link or an image as a field, null if it has none. -/
def titleField (head : Head) : Fields :=
  match head.attr? "title" with
  | some title => [("title", title.toJson)]
  | none => [("title", .null)]

/-- A node of a type without a kind of its own that has children. -/
def parentNode (type : String) (children : List Node) : Node :=
  .other type none .null (some children) []

/-- The value of a node, null for an empty text. -/
def valueOf (content : String) : Json := if content.isEmpty then .null else .str content

/-- The node for an inline element with converted children. -/
def inlineNode (head : Head) (children : List Node) : Node :=
  match head.type with
  | "text" | "text_special" => .ofText .text head.content
  | "softbreak" => .ofText .text "\n"
  | "hardbreak" => .other "break" none .null none []
  | "code_inline" => .ofText .inlineCode head.content
  | "em" => parentNode "emphasis" children
  | "strong" => parentNode "strong" children
  | "s" => parentNode "delete" children
  | "link" =>
    .other "link" none .null (some children)
      (("url", .str (head.attrText "href")) :: titleField head)
  | "image" =>
    .other "image" none .null none
      ([("url", .str (head.attrText "src")), ("alt", .str head.content)] ++ titleField head)
  | "html_inline" => .other "html" none (.str head.content) none []
  | type => .other type none (valueOf head.content) none []

mutual

/-- The node for an inline element. -/
def convertInline : Element → Node
  | .mk head children => inlineNode head (mergeTexts (convertInlines children))
  termination_by structural element => element

/-- The nodes for inline elements, one for each. -/
def convertInlines : List Element → List Node
  | [] => []
  | element :: rest => convertInline element :: convertInlines rest
  termination_by structural elements => elements

end

/-- The nodes for inline elements, with adjacent texts joined. -/
def inlineNodes (elements : List Element) : List Node := mergeTexts (convertInlines elements)

/-- The nodes for the inline parts of a block. -/
def inlineChildren (elements : List Element) : List Node :=
  elements.flatMap fun element =>
    if element.type = "inline" then inlineNodes element.children else []

/-! ## Tables -/

/-- The alignment at the front of a style. -/
def alignmentAt? (cs : List Char) : Option String :=
  let key := "text-align:".toList
  if key.isPrefixOf cs then
    let value := Text.trimLeft (cs.drop key.length)
    ["left", "right", "center"].find? fun word => word.toList.isPrefixOf value
  else none

/-- The first alignment in a style. -/
def alignment? : List Char → Option String
  | [] => none
  | c :: cs => (alignmentAt? (c :: cs)).or (alignment? cs)

/-- The alignment of a cell, null if it has none. -/
def cellAlignment (cell : Element) : Json :=
  match alignment? (cell.head.attrText "style").toList with
  | some word => .str word
  | none => .null

/-- The node for a row. -/
def rowNode (row : Element) : Node :=
  parentNode "tableRow"
    (row.children.map fun cell => parentNode "tableCell" (inlineChildren cell.children))

/-- The alignments of the columns: those of the last row in a table head. -/
def columnAlignments (sections : List Element) : List Json :=
  let rows := sections.flatMap fun s => if s.type = "thead" then s.children else []
  match rows.getLast? with
  | some row => row.children.map cellAlignment
  | none => []

/-- The node for a table. -/
def tableNode (sections : List Element) : Node :=
  .other "table" none .null (some (sections.flatMap fun s => s.children.map rowNode))
    [("align", .arr (columnAlignments sections))]

/-! ## Blocks -/

/-- A text without one line feed at its end. -/
def dropFinalNewline (s : String) : String :=
  match s.toList.reverse with
  | '\n' :: cs => String.ofList cs.reverse
  | _ => s

/-- A text without the line feeds at its end. -/
def dropFinalNewlines (s : String) : String :=
  String.ofList (s.toList.reverse.dropWhile (· == '\n')).reverse

/-- The depth that the tag of a heading gives. -/
def headingDepth (tag : String) : Except Error Depth :=
  match tag.toList with
  | _ :: c :: _ =>
    match Text.digit? c with
    | none => .error .notNumber
    | some n =>
      match Depth.ofNat? n with
      | some depth => .ok depth
      | none => .error (.invalid [⟨[.field "depth"], if n = 0 then .tooSmall else .tooLarge⟩])
  | _ => .error .shortTag

/-- A text, if it is not empty. -/
def nonEmpty? (cs : List Char) : Option String :=
  if cs.isEmpty then none else some (String.ofList cs)

/-- The node for fenced code: the first word of the information is the language. -/
def fenceNode (head : Head) : Node :=
  let info := Text.trim head.info.toList
  let lang := info.takeWhile (· != ' ')
  let rest := (info.dropWhile (· != ' ')).drop 1
  .ofText (.code (nonEmpty? lang) (nonEmpty? (Text.trim rest))) (dropFinalNewline head.content)

/-- The number of the first item of an ordered list. -/
def listStart (head : Head) : Except Error Int :=
  match head.attr? "start" with
  | none => .ok 1
  | some (.number n) => .ok n
  | some (.text s) =>
    match Text.integer? s.toList with
    | some n => .ok n
    | none => .error .notNumber

/-- How the checkbox of a task begins. -/
def checkboxOpening : String := "<input class=\"task-list-item-checkbox\""

/-- The text after a checkbox without the blanks at its front. -/
def trimFirstText : List Node → List Node
  | .literal .text data value extra :: rest =>
    .literal .text data (String.ofList (Text.trimLeft value.toList)) extra :: rest
  | nodes => nodes

/-- Takes a checkbox out of the first paragraph of an item and tells whether it is checked. -/
def popCheckbox (children : List Node) : Option Bool × List Node :=
  match children with
  | .branch .paragraph data (.other "html" hd (.str value) hc he :: inlines) extra :: rest =>
    if checkboxOpening.toList.isPrefixOf value.toList then
      (some (Text.occursIn "checked=\"checked\"".toList value.toList),
        .branch .paragraph data (trimFirstText inlines) extra :: rest)
    else
      (none, .branch .paragraph data (.other "html" hd (.str value) hc he :: inlines) extra :: rest)
  | _ => (none, children)

/-- Whether an item has a paragraph that stands apart. -/
def isLoose (children : List Element) : Bool :=
  children.any fun child => child.type == "paragraph" && !child.head.hidden

/-- The node for an item of a list with converted children. -/
def itemNode (elements : List Element) (children : List Node) : Node :=
  let (checked, children) := popCheckbox children
  .ofKind (.item (some (isLoose elements)) checked) children

/-- The node for a list with converted items. -/
def listNode (head : Head) (elements : List Element) (items : List Node) : Except Error Node := do
  let ordered := head.type == "ordered_list"
  let extra ← if ordered then do pure [("start", Json.num (← listStart head))] else pure []
  return .branch (.list (some ordered) (some (elements.any fun item => isLoose item.children)))
    none items extra

/-- The node for a block that has no blocks inside. -/
def leafNode? (head : Head) (children : List Element) : Option (Except Error Node) :=
  match head.type with
  | "front_matter" => some (.ok (.ofText .yaml (dropFinalNewlines head.content)))
  | "heading" => some do
    let depth ← headingDepth head.tag
    return .ofKind (.heading depth) (inlineChildren children)
  | "paragraph" => some (.ok (.ofKind .paragraph (inlineChildren children)))
  | "fence" => some (.ok (fenceNode head))
  | "code_block" => some (.ok (.ofText (.code none none) (dropFinalNewline head.content)))
  | "table" => some (.ok (tableNode children))
  | "hr" => some (.ok (.other "thematicBreak" none .null none []))
  | "html_block" => some (.ok (.other "html" none (.str (dropFinalNewline head.content)) none []))
  | _ => none

/-- The node for a container directive. -/
def directiveNode (directive : Directive) (children : List Node) : Node :=
  .ofKind (.directive directive.name directive.label directive.attributes) children

/-- The node for a block without a rule of its own. -/
def otherBlock (type : String) (children : List Node) : Node :=
  .other type none .null (if children.isEmpty then none else some children) []

mutual

/-- The node for a block. -/
def blockNode : Element → Except Error Node
  | .mk head children =>
    match leafNode? head children with
    | some node => node
    | none =>
      if head.type = "bullet_list" ∨ head.type = "ordered_list" then do
        listNode head children (← itemNodes children)
      else if head.type = "container_directive" then do
        let directive ← Directive.parse head.info
        return directiveNode directive (← blockNodes children)
      else if head.type = "blockquote" then do
        return parentNode "blockquote" (← blockNodes children)
      else do
        return otherBlock head.type (← blockNodes children)
  termination_by structural element => element

/-- The nodes for blocks. -/
def blockNodes : List Element → Except Error (List Node)
  | [] => .ok []
  | element :: rest => do
    let node ← blockNode element
    return node :: (← blockNodes rest)
  termination_by structural elements => elements

/-- The node for an item of a list. -/
def convertItem : Element → Except Error Node
  | .mk _ children => do
    return itemNode children (← blockNodes children)
  termination_by structural element => element

/-- The nodes for the items of a list. -/
def itemNodes : List Element → Except Error (List Node)
  | [] => .ok []
  | element :: rest => do
    let node ← convertItem element
    return node :: (← itemNodes rest)
  termination_by structural elements => elements

end

/-! ## Documents -/

/-- The document for elements. -/
def rootOfElements (elements : List Element) : Except Error Root := do
  return { children := ← blockNodes elements }

/-- The document for tokens. -/
def rootOfTokens (tokens : List Token) : Except Error Root :=
  match Element.ofTokens? tokens with
  | some elements => rootOfElements elements
  | none => .error .unbalanced

end Quizmark.Markdown
