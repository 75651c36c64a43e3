import Quizmark.Markdown.HtmlTag

/-!
# HTML blocks

A line that begins with certain HTML begins a block of HTML, which goes on to a line that depends
on how it began: `HtmlBlock.ofChars?` tells which, and `HtmlBlock.endsIn` finds the end.
-/

namespace Quizmark.Markdown

/-- How a block of HTML begins. -/
inductive HtmlBlock where
  /-- A tag whose text is not HTML. -/
  | rawText
  | comment
  | processing
  | declaration
  | characterData
  /-- A tag that stands for a block. -/
  | blockTag
  /-- Any other tag, alone on its line. -/
  | otherTag
  deriving DecidableEq

namespace HtmlBlock

/-- The lower case of a character in the name of a tag. -/
def lowerChar (c : Char) : Char :=
  if c = '\u017F' then 's'
  else if c = '\u212A' then 'k'
  else if c = '\u0130' ∨ c = '\u0131' then 'i'
  else c.toLower

/-- The tags whose text is not HTML. -/
def rawTextNames : List String := ["script", "pre", "style", "textarea"]

/-- The tags that stand for blocks. -/
def blockNames : List String :=
  ["address", "article", "aside", "base", "basefont", "blockquote", "body", "caption", "center",
    "col", "colgroup", "dd", "details", "dialog", "dir", "div", "dl", "dt", "fieldset",
    "figcaption", "figure", "footer", "form", "frame", "frameset", "h1", "h2", "h3", "h4", "h5",
    "h6", "head", "header", "hr", "html", "iframe", "legend", "li", "link", "main", "menu",
    "menuitem", "nav", "noframes", "ol", "optgroup", "option", "p", "param", "search", "section",
    "summary", "table", "tbody", "td", "tfoot", "th", "thead", "title", "tr", "track", "ul"]

/-- The name at the front of a text, in lower case, and what follows it. -/
def splitName (cs : List Char) : String × List Char :=
  let name := cs.takeWhile fun c => !Text.isBlank c && c != '>' && c != '/'
  (String.ofList (name.map lowerChar), cs.drop name.length)

/-- Whether the name of a tag whose text is not HTML stands at the front of a text. -/
def isRawText (cs : List Char) : Bool :=
  let (name, rest) := splitName cs
  rawTextNames.contains name && match rest with
    | [] => true
    | c :: _ => c != '/'

/-- Whether the name of a tag that stands for a block stands at the front of a text. -/
def isBlockTag (cs : List Char) : Bool :=
  let (name, rest) := splitName cs
  blockNames.contains name && match rest with
    | '/' :: c :: _ => c == '>'
    | ['/'] => false
    | _ => true

/-- Whether a tag is all that a text holds. -/
def isTagAlone (cs : List Char) : Bool := (HtmlTag.tag? cs).any Text.allBlank

/-- The kind of tag that begins a text. -/
def ofTag? (cs : List Char) : Option HtmlBlock :=
  match cs with
  | '<' :: rest =>
    let name := match rest with
      | '/' :: rest => rest
      | _ => rest
    if isRawText rest then some rawText
    else if isBlockTag name then some blockTag
    else if isTagAlone cs then some otherTag
    else none
  | _ => none

/-- The kind of the block of HTML that begins with a text. -/
def ofChars? (cs : List Char) : Option HtmlBlock :=
  if "<!--".toList.isPrefixOf cs then some comment
  else if "<?".toList.isPrefixOf cs then some processing
  else if "<![CDATA[".toList.isPrefixOf cs then some characterData
  else
    match cs with
    | '<' :: '!' :: c :: _ => if 'A' ≤ c ∧ c ≤ 'Z' then some declaration else none
    | _ => ofTag? cs

/-- Whether a text closes a tag whose text is not HTML. -/
def closesRawText (cs : List Char) : Bool :=
  match cs with
  | '<' :: '/' :: rest =>
    let (name, rest) := splitName rest
    rawTextNames.contains name && rest.head? == some '>'
  | _ => false

/-- Whether a condition holds at some place of a text. -/
def holdsSomewhere (p : List Char → Bool) : List Char → Bool
  | [] => p []
  | c :: cs => p (c :: cs) || holdsSomewhere p cs

/-- Whether a block of a kind ends in a line with this text. -/
def endsIn (kind : HtmlBlock) (cs : List Char) : Bool :=
  match kind with
  | rawText => holdsSomewhere closesRawText cs
  | comment => holdsSomewhere "-->".toList.isPrefixOf cs
  | processing => holdsSomewhere "?>".toList.isPrefixOf cs
  | declaration => holdsSomewhere ">".toList.isPrefixOf cs
  | characterData => holdsSomewhere "]]>".toList.isPrefixOf cs
  | blockTag | otherTag => cs.isEmpty

/-- Whether a block of a kind can end a paragraph. -/
def interruptsParagraph (kind : HtmlBlock) : Bool := kind != otherTag

end HtmlBlock

end Quizmark.Markdown
