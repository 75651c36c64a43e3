import Quizmark.Markdown.Url

/-!
# Autolinks

A URI with a scheme or an email address between angle brackets links to itself.
`Autolink.ofChars?` reads one at the front of a text.
-/

namespace Quizmark.Markdown

/-- A link to itself: what it shows and where it leads. -/
structure Autolink where
  text : List Char
  href : List Char

namespace Autolink

/-- A letter or digit. -/
def isAlnum (c : Char) : Bool := HtmlTag.isLetter c || Text.isDigit c

/-- Whether a text is the scheme of a URI: a letter and 1 to 31 further characters. -/
def isScheme : List Char → Bool
  | [] => false
  | c :: cs =>
    HtmlTag.isLetter c && 0 < cs.length && cs.length ≤ 31 &&
      cs.all fun d => isAlnum d || ['+', '.', '-'].contains d

/-- Whether a text is a URI. -/
def isUri (cs : List Char) : Bool :=
  let scheme := cs.takeWhile (· != ':')
  isScheme scheme && scheme.length < cs.length &&
    (cs.drop (scheme.length + 1)).all fun c => 0x20 < c.toNat

/-- The marks that may stand in the local part of an address. -/
def localMarks : List Char := ".!#$%&\x27*+/=?^_\x60\x7b|\x7d~-".toList

/-- Whether a text is a label of the domain of an address. -/
def isDomainLabel (cs : List Char) : Bool :=
  cs.length ≤ 63 && cs.head?.any isAlnum && cs.getLast?.any isAlnum &&
    cs.all fun c => isAlnum c || c == '-'

/-- Whether a text is an email address. -/
def isEmail (cs : List Char) : Bool :=
  let name := cs.takeWhile fun c => isAlnum c || localMarks.contains c
  match cs.drop name.length with
  | '@' :: domain => !name.isEmpty && (Text.splitAt '.' domain).all isDomainLabel
  | _ => false

/-- A text without the line feed at its end. -/
def withoutLineEnd (cs : List Char) : List Char :=
  if cs.getLast? = some '\n' then cs.dropLast else cs

/-- The target of a link to itself, if it may be linked to. -/
def href? (url : List Char) : Option (List Char) :=
  let whole := withoutLineEnd url
  let target := if isUri whole then some (linkTarget url)
    else if isEmail whole then some (linkTarget ("mailto:".toList ++ url))
    else none
  target.filter isSafe

/-- The autolink at the front of a text and its length. -/
def ofChars? : List Char → Option (Autolink × Nat)
  | '<' :: cs =>
    let url := cs.takeWhile fun c => c != '<' && c != '>'
    match cs.drop url.length with
    | '>' :: _ => (href? url).map fun href => (⟨linkText url, href⟩, url.length + 2)
    | _ => none
  | _ => none

end Autolink

end Quizmark.Markdown
