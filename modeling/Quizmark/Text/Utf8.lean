/-!
# UTF-8

`Utf8.decode` reads octets as text. It refuses them at the first that no text can hold, and says
where that is and why: `Utf8.Fault.message`.

* An octet that no character begins with is a fault of its own.
* A character that is begun but goes on with a wrong octet is a fault up to that octet.
* A character that the end of the octets cuts off is a fault up to the end.
-/

namespace Quizmark.Text.Utf8

/-- Why octets are no text. -/
inductive Reason where
  | badStart
  | badContinuation
  | cutOff
  deriving DecidableEq

/-- The words for a reason. -/
def Reason.text : Reason → String
  | badStart => "invalid start byte"
  | badContinuation => "invalid continuation byte"
  | cutOff => "unexpected end of data"

/-- The octets that are no text: where they begin, how many there are, and the first of them. -/
structure Fault where
  start : Nat
  length : Nat
  octet : Nat
  reason : Reason

/-- A digit of an octet. -/
def hexDigit (n : Nat) : Char := Nat.digitChar (n % 16)

/-- The text of a fault. -/
def Fault.message (fault : Fault) : String :=
  let octets :=
    if fault.length = 1 then
      "byte 0x" ++ String.ofList [hexDigit (fault.octet / 16), hexDigit fault.octet] ++
        " in position " ++ toString fault.start
    else
      "bytes in position " ++ toString fault.start ++ "-" ++
        toString (fault.start + fault.length - 1)
  "\x27utf-8\x27 codec can\x27t decode " ++ octets ++ ": " ++ fault.reason.text

/-- How a character that begins with an octet goes on: how many octets follow, the range of the
first of them, and what the octet adds to the code point. -/
structure Lead where
  follow : Nat
  least : Nat
  greatest : Nat
  bits : Nat

/-- How a character goes on that begins with an octet. The ranges keep out code points that fewer
octets can spell, surrogates, and code points past the last one. -/
def lead? (n : Nat) : Option Lead :=
  if n < 0x80 then some ⟨0, 0x80, 0xBF, n⟩
  else if n < 0xC2 then none
  else if n < 0xE0 then some ⟨1, 0x80, 0xBF, n - 0xC0⟩
  else if n < 0xF0 then
    some ⟨2, if n = 0xE0 then 0xA0 else 0x80, if n = 0xED then 0x9F else 0xBF, n - 0xE0⟩
  else if n < 0xF5 then
    some ⟨3, if n = 0xF0 then 0x90 else 0x80, if n = 0xF4 then 0x8F else 0xBF, n - 0xF0⟩
  else none

/-- The code point of which `code` is known and `follow` octets are missing, or how many of them
were right and why the next was not. -/
def follow (code : Nat) : Nat → Nat → Nat → List Nat → Except (Nat × Reason) Nat
  | 0, _, _, _ => .ok code
  | _ + 1, _, _, [] => .error (0, .cutOff)
  | missing + 1, least, greatest, n :: ns =>
    if least ≤ n ∧ n ≤ greatest then
      (follow (code * 0x40 + (n - 0x80)) missing 0x80 0xBF ns).mapError fun fault =>
        (fault.1 + 1, fault.2)
    else .error (0, .badContinuation)

/-- The text of octets from `pos` on; `skip` of them belong to a character already read. -/
def decodeFrom : Nat → Nat → List Nat → Except Fault (List Char)
  | _, _, [] => .ok []
  | pos, skip + 1, _ :: ns => decodeFrom (pos + 1) skip ns
  | pos, 0, n :: ns =>
    match lead? n with
    | none => .error ⟨pos, 1, n, .badStart⟩
    | some lead =>
      match follow lead.bits lead.follow lead.least lead.greatest ns with
      | .error (count, reason) => .error ⟨pos, count + 1, n, reason⟩
      | .ok code => (decodeFrom (pos + 1) lead.follow ns).map (Char.ofNat code :: ·)

/-- The text of octets. -/
def decode (ns : List Nat) : Except Fault String := (decodeFrom 0 0 ns).map String.ofList

end Quizmark.Text.Utf8
