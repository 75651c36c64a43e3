import Quizmark.Text.Digit

/-!
# Command line arguments

`Arguments.read` tells what a command line asks for. The grammar is the usual one for options:

* A long option may be cut short as long as it stays unambiguous, and its value may follow behind
  an equals sign.
* Short options may be joined, and the value of one may follow directly.
* Behind `--` nothing is an option. A negative number is none either, nor is a text with a space
  that is not the beginning of one.
-/

namespace Quizmark

/-- What a command line asks for. -/
structure Arguments where
  file : String
  rewritesAdmonitions : Bool := true
  /-- The width of the indentation; a negative one counts as zero. -/
  indent : Int := 2
  isVerbose : Bool := false

namespace Arguments

/-- The options. -/
inductive Flag where
  | help
  | keepAdmonitions
  | indent
  | verbose
  deriving DecidableEq

/-- The spellings of the options. -/
def spellings : List (List Char × Flag) :=
  [("-h".toList, .help), ("--help".toList, .help), ("--no-admonitions".toList, .keepAdmonitions),
    ("--indent".toList, .indent), ("-v".toList, .verbose), ("--verbose".toList, .verbose)]

/-- The option of a spelling. -/
def flag? (cs : List Char) : Option Flag := spellings.lookup cs

/-! ## Words -/

/-- An option as it is written. -/
structure Written where
  flag : Flag
  /-- What stands behind an equals sign. -/
  value : Option (List Char) := none
  /-- What is joined to a short option. -/
  tail : List Char := []

/-- What a word on the command line is. -/
inductive Word where
  | operand (cs : List Char)
  /-- The mark behind which nothing is an option. -/
  | mark
  | option (written : Written)
  /-- An option that does not exist. -/
  | unknown
  /-- A text that begins several options. -/
  | ambiguous

/-- The text before the first equals sign and the one behind it. -/
def splitEquals (cs : List Char) : List Char × Option (List Char) :=
  let name := cs.takeWhile (· != '=')
  match cs.drop name.length with
  | _ :: value => (name, some value)
  | [] => (name, none)

/-- The options that a text may stand for that is none itself. -/
def candidates (cs : List Char) : List Written :=
  if ['-', '-'].isPrefixOf cs then
    let (name, value) := splitEquals cs
    spellings.filterMap fun (spelling, flag) =>
      if name.isPrefixOf spelling then some { flag, value } else none
  else
    spellings.filterMap fun (spelling, flag) =>
      if spelling = cs.take 2 then some { flag, tail := cs.drop 2 }
      else if cs.isPrefixOf spelling then some { flag }
      else none

/-- Whether a text is a negative number. -/
def isNegativeNumber (cs : List Char) : Bool :=
  let cs := if cs.getLast? = some '\n' then cs.dropLast else cs
  let isDigit (c : Char) : Bool := (Text.digit? c).isSome
  match cs with
  | '-' :: number =>
    let whole := number.takeWhile isDigit
    match number.drop whole.length with
    | [] => !whole.isEmpty
    | '.' :: fraction => !fraction.isEmpty && fraction.all isDigit
    | _ => false
  | _ => false

/-- The option that a text is, with or without a value behind an equals sign. -/
def inFull? (cs : List Char) : Option Written :=
  match flag? cs with
  | some flag => some { flag }
  | none =>
    match splitEquals cs with
    | (name, some value) => (flag? name).map fun flag => { flag, value := some value }
    | _ => none

/-- What a word is that no mark precedes. -/
def Word.ofChars (cs : List Char) : Word :=
  if cs.head? ≠ some '-' ∨ cs.length = 1 then .operand cs
  else
    match inFull? cs with
    | some written => .option written
    | none =>
      match candidates cs with
      | [written] => .option written
      | _ :: _ :: _ => .ambiguous
      | [] => if isNegativeNumber cs ∨ cs.contains ' ' then .operand cs else .unknown

/-- What the words of a command line are. -/
def words : List (List Char) → List Word
  | [] => []
  | ['-', '-'] :: rest => .mark :: rest.map .operand
  | cs :: rest => Word.ofChars cs :: words rest

/-! ## Reading -/

/-- What was read so far. -/
structure Draft where
  file : Option (List Char) := none
  rewritesAdmonitions : Bool := true
  indent : Int := 2
  isVerbose : Bool := false
  /-- Whether there was a word too many. -/
  hasExtra : Bool := false

/-- What a command line asks for. -/
inductive Request where
  | help
  | misuse
  | run (arguments : Arguments)

/-- The draft with an option that takes no value. -/
def Draft.set (draft : Draft) : Flag → Draft
  | .keepAdmonitions => { draft with rewritesAdmonitions := false }
  | .verbose => { draft with isVerbose := true }
  | _ => draft

/-- The draft with an operand: the first one is the file. -/
def Draft.take (draft : Draft) (cs : List Char) : Draft :=
  if draft.file.isNone then { draft with file := some cs } else { draft with hasExtra := true }

/-- The draft with the value of the indentation, if it is a number. -/
def Draft.setIndent? (draft : Draft) (cs : List Char) : Option Draft :=
  (Text.integer? cs).map fun n => { draft with indent := n }

/-- What the whole draft asks for. -/
def Draft.finish (draft : Draft) : Request :=
  match draft.file with
  | some file =>
    if draft.hasExtra then .misuse
    else
      .run {
        file := String.ofList file
        rewritesAdmonitions := draft.rewritesAdmonitions
        indent := draft.indent
        isVerbose := draft.isVerbose }
  | none => .misuse

/-- The options that are joined to a short one, up to a character that is none, and whether there
is such a character. A hyphen or an equals sign makes no sense there. -/
def joinedFlags? : List Char → Option (List Flag × Bool)
  | [] => some ([], false)
  | c :: cs =>
    if c = '-' ∨ c = '=' then none
    else
      match flag? ['-', c] with
      | some flag => (joinedFlags? cs).map fun found => (flag :: found.1, found.2)
      | none => some ([], true)

/-- The draft with the options without values that a written option stands for, unless they ask
for help or make no sense. -/
def Draft.setAll (draft : Draft) (written : Written) : Draft ⊕ Request :=
  if written.value.isSome then .inr .misuse
  else
    match joinedFlags? written.tail with
    | some (flags, hasExtra) =>
      if written.flag = .help ∨ flags.contains .help then .inr .help
      else
        .inl ((written.flag :: flags).foldl set
          { draft with hasExtra := draft.hasExtra || hasExtra })
    | none => .inr .misuse

/-- Reads the words of a command line. -/
def readWords : Draft → List Word → Request
  | draft, [] => draft.finish
  | draft, .mark :: .operand cs :: rest => readWords (draft.take cs) rest
  | draft, .operand cs :: .mark :: rest => readWords (draft.take cs) rest
  | draft, .operand cs :: rest => readWords (draft.take cs) rest
  | draft, .mark :: rest | draft, .unknown :: rest =>
    readWords { draft with hasExtra := true } rest
  | _, .ambiguous :: _ => .misuse
  | draft, .option ⟨.indent, some value, _⟩ :: rest =>
    match draft.setIndent? value with
    | some draft => readWords draft rest
    | none => .misuse
  | draft, .option ⟨.indent, none, _⟩ :: .operand value :: rest =>
    match draft.setIndent? value with
    | some draft => readWords draft rest
    | none => .misuse
  | _, .option ⟨.indent, none, _⟩ :: _ => .misuse
  | draft, .option written :: rest =>
    match draft.setAll written with
    | .inl draft => readWords draft rest
    | .inr request => request

/-- Whether a word begins several options. -/
def Word.isAmbiguous : Word → Bool
  | .ambiguous => true
  | _ => false

/-- What a command line asks for. -/
def read (args : List String) : Request :=
  let words := words (args.map String.toList)
  if words.any Word.isAmbiguous then .misuse else readWords {} words

end Arguments

end Quizmark
