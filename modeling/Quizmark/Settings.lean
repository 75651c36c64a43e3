import Quizmark.Gate

/-!
# Settings

`Settings.ofEnvironment` reads the settings from the variables that a process starts with, and
`Settings.gate` is the gate that they choose. `QuestionOptions` is what the compiler of question
specs needs to know; without settings it takes the defaults.
-/

namespace Quizmark

/-- The variables that a process starts with. -/
abbrev Environment := String → Option String

namespace Settings

/-- The words for a flag that is set. -/
def trueWords : List String := ["1", "true", "yes", "on"]

/-- The words for a flag that is not set. -/
def falseWords : List String := ["0", "false", "no", "off", ""]

/-- The value of a flag; an unset variable has the default. -/
def flag (name : String) (default : Bool) : Option String → Except Error Bool
  | none => .ok default
  | some text =>
    let word := (Text.trimmed text).toLower
    if trueWords.contains word then .ok true
    else if falseWords.contains word then .ok false
    else .error (.notFlag name text)

/-- The items of a list between commas, trimmed and without empty ones. -/
def items (text : String) : List String :=
  ((Text.splitAt ',' text.toList).map fun item => String.ofList (Text.trim item)).filter
    fun item => !item.isEmpty

/-- The value of a list; an unset variable has the items of the default. -/
def list (default : String) (text : Option String) : List String := items (text.getD default)

end Settings

/-- The settings of a process. -/
structure Settings where
  specSuffix : String := ".qspec.md"
  specDirectory : Option String := none
  examMarkers : List String := ["Exam", "exam"]
  sharesCounter : Bool := false

namespace Settings

/-- The settings that the variables of a process give. An empty directory is none. -/
def ofEnvironment (env : Environment) : Except Error Settings := do
  let sharesCounter ←
    flag "QSPEC2MDX_SHARE_HEADING_COUNTER" false (env "QSPEC2MDX_SHARE_HEADING_COUNTER")
  return {
    specSuffix := (env "QSPEC2MDX_SPEC_SUFFIX").getD ".qspec.md"
    specDirectory := (env "QSPEC2MDX_SPEC_DIR").filter fun name => !name.isEmpty
    examMarkers := list "Exam,exam" (env "QSPEC2MDX_EXAM_MARKERS")
    sharesCounter }

/-- The gate that the settings choose: a directory goes before the suffix. -/
def gate (settings : Settings) : Except Error Gate :=
  match settings.specDirectory with
  | some name => Gate.ofDirectory name
  | none => Gate.ofSuffix settings.specSuffix

end Settings

/-- How question specs are told and compiled. -/
structure QuestionOptions where
  /-- Tells question specs by their paths. -/
  gate : Gate := .suffix ".qspec.md".toList
  /-- The ending that is dropped from a file name to begin the ids of headings. -/
  specSuffix : String := ".qspec.md"
  /-- The titles of the subsections of the prompt that go to the exam tip. -/
  examMarkers : List String := ["Exam", "exam"]
  /-- The title of the exam tip. -/
  examTipTitle : String := "本試験では"
  /-- The title of the list of scoring criteria. -/
  scoringTitle : String := "採点基準・配点"
  /-- Whether the parts of a document count the ids of their headings together. -/
  sharesCounter : Bool := false

/-- A gate that is still to be made. -/
inductive GateChoice where
  | suffix (ending : String)
  | directory (name : String)
  | constant (answer : Bool)

/-- The gate for a choice. -/
def GateChoice.gate : GateChoice → Except Error Gate
  | suffix ending => Gate.ofSuffix ending
  | directory name => Gate.ofDirectory name
  | constant answer => .ok (.constant answer)

/-- Options that are given one by one; the others take their defaults. -/
structure OptionChoices where
  gate : Option GateChoice := none
  specSuffix : Option String := none
  examMarkers : Option (List String) := none
  examTipTitle : Option String := none
  scoringTitle : Option String := none
  sharesCounter : Option Bool := none

/-- The options for the given choices. -/
def OptionChoices.options (choices : OptionChoices) : Except Error QuestionOptions := do
  let defaults : QuestionOptions := {}
  let gate ← match choices.gate with
    | some choice => choice.gate
    | none => .ok defaults.gate
  return {
    gate
    specSuffix := choices.specSuffix.getD defaults.specSuffix
    examMarkers := choices.examMarkers.getD defaults.examMarkers
    examTipTitle := choices.examTipTitle.getD defaults.examTipTitle
    scoringTitle := choices.scoringTitle.getD defaults.scoringTitle
    sharesCounter := choices.sharesCounter.getD defaults.sharesCounter }

/-- The options that settings give. -/
def QuestionOptions.ofSettings (settings : Settings) : Except Error QuestionOptions := do
  let gate ← settings.gate
  return {
    gate
    specSuffix := settings.specSuffix
    examMarkers := settings.examMarkers
    sharesCounter := settings.sharesCounter }

/-- Whether the document at a path is a question spec. -/
def QuestionOptions.admits (options : QuestionOptions) (path : String) : Bool :=
  options.gate.admits path

end Quizmark
