import Quizmark.Markdown.Escape

/-!
# Percent encoding

A character that a URL cannot hold is written as the octets of its UTF-8 form, each as `%` and two
hexadecimal digits.

* `encode`: writes every character so that a URL can hold it; what is encoded already stays.
* `decode`: reads the octets back, except those of characters with a meaning in URLs.
-/

namespace Quizmark.Markdown.Percent

/-- The upper case character of a hexadecimal digit. -/
def hexChar (n : Nat) : Char := Char.ofNat (if n < 10 then n + 48 else n + 55)

/-- An octet in its encoded form. -/
def octet (n : Nat) : List Char := ['%', hexChar (n / 16), hexChar (n % 16)]

/-! ## Encoding -/

/-- The characters besides letters and digits that stay as they are. -/
def plainMarks : List Char := ";/?:@&=+$,-_.!~*\x27()#".toList

/-- Whether a character stays as it is. -/
def isPlain (c : Char) : Bool :=
  HtmlTag.isLetter c || Text.isDigit c || plainMarks.contains c

/-- The octets of the UTF-8 form of a character. -/
def octets (c : Char) : List Nat :=
  let n := c.toNat
  if n < 0x80 then [n]
  else if n < 0x800 then [0xC0 + n / 0x40, 0x80 + n % 0x40]
  else if n < 0x10000 then [0xE0 + n / 0x1000, 0x80 + n / 0x40 % 0x40, 0x80 + n % 0x40]
  else
    [0xF0 + n / 0x40000, 0x80 + n / 0x1000 % 0x40, 0x80 + n / 0x40 % 0x40, 0x80 + n % 0x40]

/-- A character in its encoded form. -/
def encodeChar (c : Char) : List Char :=
  if isPlain c then [c] else (octets c).flatMap octet

/-- The form of what stands at the front of a text: octets that are encoded already stay. -/
def encoded? : List Char → Option Text.Match
  | '%' :: a :: b :: _ =>
    if isHexDigit a && isHexDigit b then some ⟨['%', a, b], 3⟩ else some ⟨encodeChar '%', 1⟩
  | c :: _ => some ⟨encodeChar c, 1⟩
  | [] => none

/-- Writes every character so that a URL can hold it. -/
def encode (cs : List Char) : List Char := Text.substitute encoded? cs

/-! ## Decoding -/

/-- The ASCII characters that stay encoded. -/
def keptMarks : List Char := ";/?:@&=+$,#%".toList

/-- An octet of a character of more than one octet, other than the first. -/
def isTail (n : Nat) : Bool := 0x80 ≤ n && n < 0xC0

/-- The octets at the front of a list that have the shape of one character: how many they are and
the code point that they spell. -/
def shaped? : List Nat → Option (Nat × Nat)
  | a :: b :: rest =>
    if 0xC0 ≤ a ∧ a < 0xE0 ∧ isTail b then some (2, (a - 0xC0) * 0x40 + (b - 0x80))
    else
      match rest with
      | c :: rest =>
        if 0xE0 ≤ a ∧ a < 0xF0 ∧ isTail b ∧ isTail c then
          some (3, (a - 0xE0) * 0x1000 + (b - 0x80) * 0x40 + (c - 0x80))
        else
          match rest with
          | d :: _ =>
            if 0xF0 ≤ a ∧ a < 0xF8 ∧ isTail b ∧ isTail c ∧ isTail d then
              some (4, (a - 0xF0) * 0x40000 + (b - 0x80) * 0x1000 + (c - 0x80) * 0x40 + (d - 0x80))
            else none
          | [] => none
      | [] => none
  | _ => none

/-- The least code point with as many octets. -/
def leastCode : Nat → Nat
  | 2 => 0x80
  | 3 => 0x800
  | _ => 0x10000

/-- The character of a code point that was written with `count` octets, if it has a character and
needs so many; otherwise as many replacement characters. -/
def ofShape (count code : Nat) : List Char :=
  if leastCode count ≤ code ∧ code.isValidChar then [Char.ofNat code]
  else List.replicate count '\uFFFD'

/-- The characters of octets; `skip` octets belong to a character already read. -/
def ofOctets : Nat → List Nat → List Char
  | _, [] => []
  | skip + 1, _ :: ns => ofOctets skip ns
  | 0, n :: ns =>
    if n < 0x80 then
      (if keptMarks.contains (Char.ofNat n) then octet n else [Char.ofNat n]) ++ ofOctets 0 ns
    else
      match shaped? (n :: ns) with
      | some (count, code) => ofShape count code ++ ofOctets (count - 1) ns
      | none => '\uFFFD' :: ofOctets 0 ns

/-- The encoded octets at the front of a text. -/
def takeOctets : List Char → List Nat
  | '%' :: a :: b :: cs =>
    match hexDigit? a, hexDigit? b with
    | some x, some y => (16 * x + y) :: takeOctets cs
    | _, _ => []
  | _ => []

/-- What the encoded octets at the front of a text decode to. -/
def decoded? (cs : List Char) : Option Text.Match :=
  match takeOctets cs with
  | [] => none
  | ns => some ⟨ofOctets 0 ns, 3 * ns.length⟩

/-- Reads the encoded octets of a text back. -/
def decode (cs : List Char) : List Char := Text.substitute decoded? cs

end Quizmark.Markdown.Percent
