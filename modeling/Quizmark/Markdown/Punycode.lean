/-!
# Punycode

The ASCII form of a label of a domain name. The characters of the label that are ASCII come first;
behind the last hyphen each other character is a number, written in digits of base 36 with a last
digit that is told by its size.

* `encode`: the ASCII form of a label.
* `decode?`: the label of an ASCII form.
-/

namespace Quizmark.Markdown.Punycode

/-- The bias before the first number. -/
def initialBias : Nat := 72

/-- The least code point that is written as a number. -/
def initialCode : Nat := 0x80

/-- How large the digit at position `j` may be and still be the last one. -/
def threshold (bias j : Nat) : Nat := max 1 (min 26 (36 * (j + 1) - bias))

/-- Halves of the range: how often `delta` is divided by 35 until it is at most 455, times 36, and
what is left. The first argument bounds the divisions. -/
def scale : Nat → Nat → Nat × Nat
  | 0, delta => (0, delta)
  | fuel + 1, delta =>
    if delta ≤ 455 then (0, delta)
    else
      let (k, rest) := scale fuel (delta / 35)
      (k + 36, rest)

/-- The bias after a number; `count` characters are known by then. -/
def adapt (delta : Nat) (isFirst : Bool) (count : Nat) : Nat :=
  let delta := if isFirst then delta / 700 else delta / 2
  let delta := delta + delta / count
  let (k, rest) := scale delta delta
  k + 36 * rest / (rest + 38)

/-! ## Encoding -/

/-- The character of a digit. -/
def digitChar (n : Nat) : Char := Char.ofNat (if n < 26 then n + 97 else n + 22)

/-- The digits of a number from position `j` on. The first argument bounds their count. -/
def digits (bias : Nat) : Nat → Nat → Nat → List Char
  | 0, _, _ => []
  | fuel + 1, j, n =>
    let t := threshold bias j
    if n < t then [digitChar n]
    else digitChar (t + (n - t) % (36 - t)) :: digits bias fuel (j + 1) ((n - t) / (36 - t))

/-- What encoding has reached: the distance to the next number, the bias and the count of the
characters that are written. -/
structure Progress where
  delta : Nat
  bias : Nat
  written : Nat
  isFirst : Bool

/-- Writes the occurrences of the code point `code` in a label. -/
def encodeCode (code : Nat) : Progress → List Char → List Char × Progress
  | progress, [] => ([], progress)
  | progress, c :: cs =>
    if c.toNat < code then
      encodeCode code { progress with delta := progress.delta + 1 } cs
    else if c.toNat = code then
      let written := progress.written + 1
      let bias := adapt progress.delta progress.isFirst written
      let (rest, last) := encodeCode code ⟨0, bias, written, false⟩ cs
      (digits progress.bias (progress.delta + 1) 0 progress.delta ++ rest, last)
    else encodeCode code progress cs

/-- Writes all code points of a label from `code` on, the smallest first. The first argument bounds
their count. -/
def encodeFrom (label : List Char) : Nat → Nat → Progress → List Char
  | 0, _, _ => []
  | fuel + 1, code, progress =>
    match ((label.map Char.toNat).filter (code ≤ ·)).min? with
    | none => []
    | some next =>
      let delta := progress.delta + (next - code) * (progress.written + 1)
      let (out, progress) := encodeCode next { progress with delta } label
      out ++ encodeFrom label fuel (next + 1) { progress with delta := progress.delta + 1 }

/-- The ASCII form of a label. -/
def encode (label : List Char) : List Char :=
  let basic := label.filter fun c => c.toNat < initialCode
  let front := if basic.isEmpty then [] else basic ++ ['-']
  front ++ encodeFrom label label.length initialCode ⟨0, initialBias, basic.length, true⟩

/-! ## Decoding -/

/-- The value of a digit. -/
def digit? (c : Char) : Option Nat :=
  if 'a' ≤ c ∧ c ≤ 'z' then some (c.toNat - 97)
  else if 'A' ≤ c ∧ c ≤ 'Z' then some (c.toNat - 65)
  else if '0' ≤ c ∧ c ≤ '9' then some (c.toNat - 22)
  else none

/-- The number at the front of a text and the rest; `w` is the weight of the digit at `j`. -/
def number? (bias : Nat) : Nat → Nat → List Char → Option (Nat × List Char)
  | _, _, [] => none
  | j, w, c :: cs => do
    let d ← digit? c
    let t := threshold bias j
    if d < t then return (d * w, cs)
    else
      let (n, rest) ← number? bias (j + 1) (w * (36 - t)) cs
      return (d * w + n, rest)

/-- Puts the characters of the numbers into a label: `code` and `place` are those of the last one.
The first argument bounds their count. -/
def insertAll? : Nat → Nat → Nat → Nat → Bool → List Char → List Char → Option (List Char)
  | 0, _, _, _, _, label, _ => some label
  | _, _, _, _, _, label, [] => some label
  | fuel + 1, code, place, bias, isFirst, label, c :: cs => do
    let (delta, rest) ← number? bias 0 1 (c :: cs)
    let count := label.length + 1
    let code := code + (place + delta) / count
    let place := (place + delta) % count
    if code > 0x10FFFF then none
    else
      let label := label.take place ++ Char.ofNat code :: label.drop place
      insertAll? fuel code (place + 1) (adapt delta isFirst count) false label rest

/-- The label of an ASCII form. -/
def decode? (cs : List Char) : Option (List Char) :=
  if cs.any fun c => c.toNat ≥ initialCode then none
  else
    let numbers := (cs.reverse.takeWhile (· != '-')).reverse
    let basic := cs.take (cs.length - numbers.length - 1)
    insertAll? numbers.length initialCode 0 initialBias true basic numbers

end Quizmark.Markdown.Punycode
