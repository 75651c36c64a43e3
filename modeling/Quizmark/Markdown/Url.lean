import Quizmark.Markdown.Percent
import Quizmark.Markdown.Punycode
import Quizmark.Text.Blank

/-!
# URLs

`Url.ofChars` takes a URL apart and `Url.render` puts it together again. Between the two a link
target is made fit for use:

* `linkTarget`: the target with its host in ASCII form and percent encoded.
* `linkText`: the readable form of a target, for links that show it.
* `isSafe`: whether a target may be linked to.
-/

namespace Quizmark.Markdown

/-- The parts of a URL. The parts behind the host keep the characters that begin them. -/
structure Url where
  /-- What stands up to the first colon, with it. -/
  protocol : List Char := []
  hasSlashes : Bool := false
  user : List Char := []
  host : List Char := []
  port : List Char := []
  path : List Char := []
  query : List Char := []
  fragment : List Char := []

namespace Url

/-- The URL of the parts. -/
def render (url : Url) : List Char :=
  url.protocol ++ (if url.hasSlashes then ['/', '/'] else []) ++
    (if url.user.isEmpty then [] else url.user ++ ['@']) ++
    (if url.host.contains ':' then '[' :: url.host ++ [']'] else url.host) ++
    (if url.port.isEmpty then [] else ':' :: url.port) ++ url.path ++ url.query ++ url.fragment

/-! ## Taking apart -/

/-- The letters outside ASCII that only differ by case from ASCII ones. -/
def caseTwins : List Char := ['\u0130', '\u0131', '\u017F', '\u212A']

/-- A character of a protocol. -/
def isProtocolChar (c : Char) : Bool :=
  HtmlTag.isLetter c || Text.isDigit c || ['.', '+', '-'].contains c || caseTwins.contains c

/-- The protocol at the front of a URL, with its colon, and the rest. -/
def splitProtocol (cs : List Char) : List Char × List Char :=
  let name := cs.takeWhile isProtocolChar
  match cs.drop name.length with
  | ':' :: rest => if name.isEmpty then ([], cs) else (name ++ [':'], rest)
  | _ => ([], cs)

/-- The protocols with slashes before the host. -/
def slashedProtocols : List (List Char) :=
  ["http:".toList, "https:".toList, "ftp:".toList, "gopher:".toList, "file:".toList]

/-- The protocol that never has a host. -/
def hostlessProtocol : List Char := "javascript:".toList

/-- The characters that end a host and everything before it. -/
def hostEnds : List Char := ['/', '?', '#']

/-- The characters that no host holds. -/
def hostStops : List Char := "%/?;#\x27\x7b\x7d|\\^\x60<>\x22 \r\n\t".toList

/-- A character of a label of a host. -/
def isLabelChar (c : Char) : Bool :=
  HtmlTag.isLetter c || Text.isDigit c || ['+', '_', '-'].contains c

/-- What stands before the last occurrence of a character, and what stands behind it. -/
def splitLast? (mark : Char) (cs : List Char) : Option (List Char × List Char) :=
  let behind := (cs.reverse.takeWhile (· != mark)).reverse
  if behind.length = cs.length then none
  else some (cs.take (cs.length - behind.length - 1), behind)

/-- The user before the host and the rest. -/
def splitUser (cs : List Char) : List Char × List Char :=
  let front := cs.takeWhile fun c => !hostEnds.contains c
  match splitLast? '@' front with
  | some (user, behind) => (user, behind ++ cs.drop front.length)
  | none => ([], cs)

/-- The host with its port, and the rest. A colon at the end belongs to the rest. -/
def splitHost (cs : List Char) : List Char × List Char :=
  let host := cs.takeWhile fun c => !hostStops.contains c
  let host := if host.getLast? = some ':' then host.dropLast else host
  (host, cs.drop host.length)

/-- The host and the port behind it. -/
def splitPort (cs : List Char) : List Char × List Char :=
  match splitLast? ':' cs with
  | some (host, port) => if port.all Text.isDigit then (host, port) else (cs, [])
  | none => (cs, [])

/-- Whether a part between the dots of a host is at most 63 characters and none that cannot be. -/
def isLabel (cs : List Char) : Bool :=
  cs.length ≤ 63 && cs.all fun c => c.toNat > 127 || isLabelChar c

/-- Cuts a host, given by its labels, at the first character that it cannot hold: the host and what
is left. -/
def cutHost : List (List Char) → List (List Char) × List (List Char)
  | [] => ([], [])
  | label :: labels =>
    if isLabel label then
      let (host, rest) := cutHost labels
      (label :: host, rest)
    else
      let front := (label.takeWhile isLabelChar).take 63
      ([front], label.drop front.length :: labels)

/-- Labels with dots between them. -/
def joinLabels (labels : List (List Char)) : List Char := ['.'].intercalate labels

/-- A longer host is dropped. -/
def maxHostLength : Nat := 255

/-- Whether a host is an address in brackets. -/
def isBracketed (host : List Char) : Bool := host.head? == some '[' && host.getLast? == some ']'

/-- The URL with a host and the text behind it checked: what the host cannot hold goes to the text
behind it. -/
def withHost (url : Url) (host rest : List Char) : Url × List Char :=
  if isBracketed host then
    let host := if host.length > maxHostLength then [] else host
    ({ url with host := (host.drop 1).dropLast }, rest)
  else
    let (labels, left) := cutHost (Text.splitAt '.' host)
    let host := joinLabels labels
    ({ url with host := if host.length > maxHostLength then [] else host }, joinLabels left ++ rest)

/-- The URL with the path, the query and the fragment that a text holds. -/
def withPath (url : Url) (cs : List Char) : Url :=
  let front := cs.takeWhile (· != '#')
  let path := front.takeWhile (· != '?')
  { url with
    path, query := front.drop path.length, fragment := cs.drop front.length }

/-- The parts of a URL. -/
def ofChars (cs : List Char) : Url :=
  let (protocol, rest) := splitProtocol (Text.trim cs)
  let startsWithSlashes := ['/', '/'].isPrefixOf rest
  if protocol = hostlessProtocol then { protocol : Url }.withPath rest
  else
    let rest := if startsWithSlashes then rest.drop 2 else rest
    let url : Url := { protocol, hasSlashes := startsWithSlashes }
    if startsWithSlashes || (!protocol.isEmpty && !slashedProtocols.contains protocol) then
      let (user, rest) := splitUser rest
      let (hostPort, rest) := splitHost rest
      let (host, port) := splitPort hostPort
      let (url, rest) := { url with user, port }.withHost host rest
      url.withPath rest
    else url.withPath rest

/-! ## Hosts -/

/-- The characters that separate the labels of a host. -/
def isDot (c : Char) : Bool := ['.', '\u3002', '\uFF0E', '\uFF61'].contains c

/-- The labels of a host. -/
def labelsOf (host : List Char) : List (List Char) :=
  Text.splitAt '.' (host.map fun c => if isDot c then '.' else c)

/-- A host with every label changed. In an address only the part up to the second `@` stays, and
what stands before the first one is left alone. -/
def mapLabels? (f : List Char → Option (List Char)) (host : List Char) : Option (List Char) :=
  match Text.splitAt '@' host with
  | user :: domain :: _ => do
    return user ++ '@' :: joinLabels (← (labelsOf domain).mapM f)
  | _ => do
    return joinLabels (← (labelsOf host).mapM f)

/-- How a label in ASCII form begins. -/
def asciiPrefix : List Char := "xn--".toList

/-- The ASCII form of a label. -/
def asciiLabel (label : List Char) : List Char :=
  if label.any fun c => c.toNat > 0x7E then asciiPrefix ++ Punycode.encode label else label

/-- The readable form of a label. -/
def readableLabel? (label : List Char) : Option (List Char) :=
  if asciiPrefix.isPrefixOf label then
    Punycode.decode? ((label.drop asciiPrefix.length).map Char.toLower)
  else some label

/-- The protocols whose hosts change their form. -/
def namedProtocols : List (List Char) :=
  [[], "http:".toList, "https:".toList, "mailto:".toList]

/-- A URL with its host in another form, if the protocol has named hosts and the form exists. -/
def mapHost (f : List Char → Option (List Char)) (url : Url) : Url :=
  if namedProtocols.contains url.protocol then
    { url with host := (mapLabels? f url.host).getD url.host }
  else url

end Url

/-! ## Link targets -/

/-- The target of a link with its host in ASCII form and percent encoded. -/
def linkTarget (cs : List Char) : List Char :=
  Percent.encode ((Url.ofChars cs).mapHost (some ∘ Url.asciiLabel)).render

/-- The readable form of the target of a link. -/
def linkText (cs : List Char) : List Char :=
  Percent.decode ((Url.ofChars cs).mapHost Url.readableLabel?).render

/-- The protocols that run code or read local data. -/
def unsafeProtocols : List (List Char) :=
  ["vbscript:".toList, "javascript:".toList, "file:".toList, "data:".toList]

/-- How data that is only an image begins. -/
def imageData : List (List Char) :=
  ["gif", "png", "jpeg", "webp"].map fun kind => ("data:image/" ++ kind ++ ";").toList

/-- Whether a target may be linked to. -/
def isSafe (target : List Char) : Bool :=
  let cs := (Text.trim target).map Char.toLower
  !unsafeProtocols.any (·.isPrefixOf cs) || imageData.any (·.isPrefixOf cs)

end Quizmark.Markdown
