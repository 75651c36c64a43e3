import Quizmark.Text.Quoted

/-!
# Errors

Everything that can go wrong, one constructor for each cause.

* `Issue`: one fault of a payload that should hold a node: where it is and what it is.
* `Flaw`: how the shape of a question spec is wrong.
* `Error`: all causes. `Error.message` is its text, and `Error.isReportable` tells the errors of a
  document or of the settings, which a user can mend, from the rest.
-/

namespace Quizmark

/-! ## Issues of a payload -/

/-- One step of a location inside a payload. -/
inductive Step where
  | field (name : String)
  | index (i : Nat)
  deriving DecidableEq, Repr

/-- What is wrong with a value. -/
inductive Problem where
  | missing
  | notString
  | notInteger
  | badInteger
  | integerTooLong
  | fractional
  | notBoolean
  | badBoolean
  | notList
  | notObject
  | notModel
  | otherLiteral
  | tooSmall
  | tooLarge
  | nestedTooDeep
  deriving DecidableEq, Repr

/-- The name of a problem in a report. -/
def Problem.name : Problem → String
  | missing => "missing"
  | notString => "string_type"
  | notInteger => "int_type"
  | badInteger => "int_parsing"
  | integerTooLong => "int_parsing_size"
  | fractional => "int_from_float"
  | notBoolean => "bool_type"
  | badBoolean => "bool_parsing"
  | notList => "list_type"
  | notObject => "dict_type"
  | notModel => "model_type"
  | otherLiteral => "literal_error"
  | tooSmall => "greater_than_equal"
  | tooLarge => "less_than_equal"
  | nestedTooDeep => "recursion_loop"

/-- One fault of a payload: its location from the root and the problem there. -/
structure Issue where
  path : List Step
  problem : Problem
  deriving DecidableEq, Repr

/-! ## Errors -/

/-- How the shape of a question spec is wrong, in the order in which the checks are made. -/
inductive Flaw where
  | frontmatter
  | missingTitle
  | emptyTitle
  | missingType
  | missingPrompt
  deriving DecidableEq, Repr

/-- What a flaw says about a document. -/
def Flaw.text : Flaw → String
  | frontmatter => "Question spec markdown must not include frontmatter"
  | missingTitle => "Question spec markdown must start with \"# <title>\""
  | emptyTitle => "Question spec title must not be empty"
  | missingType => "Question spec requires \"## Type\""
  | missingPrompt => "Question spec requires \"## Prompt\""

/-- The kinds of values that may stand where Markdown text should. -/
inductive ValueKind where
  | null
  | boolean
  | integer
  | decimal
  | list
  | object
  deriving DecidableEq, Repr

/-- The name of a kind of values in a message. -/
def ValueKind.name : ValueKind → String
  | null => "NoneType"
  | boolean => "bool"
  | integer => "int"
  | decimal => "float"
  | list => "list"
  | object => "dict"

/-- The causes of a failure. -/
inductive Error where
  /-- A setting that should be a flag has another text. -/
  | notFlag (setting text : String)
  /-- A suffix gate without a suffix. -/
  | emptySuffix
  /-- A directory gate without a directory. -/
  | emptyDirectory
  /-- The Markdown source is no text. -/
  | notText (kind : ValueKind)
  /-- The parameters of a directive do not follow their grammar. -/
  | badDirective (params : String)
  /-- A question spec has the wrong shape. -/
  | malformed (flaw : Flaw) (path : String)
  /-- A payload holds no node. -/
  | invalid (issues : List Issue)
  /-- A walk came to a value that has no items. -/
  | notIterable
  /-- The properties of a heading are no object. -/
  | notMergeable
  /-- A number has more digits than are read. -/
  | numberTooLong
  /-- A text that should be a whole number is none. -/
  | notNumber
  /-- Opening and closing tokens do not match. -/
  | unbalanced
  /-- The tag of a heading has no second character. -/
  | shortTag
  /-- A path holds a null character. -/
  | nullInPath
  /-- A replacement came back in its own children, and so without end. -/
  | endless
  /-- A tree has more levels than are written. -/
  | tooManyLevels
  deriving DecidableEq, Repr

namespace Error

/-- The text of an error. Only reportable errors have one. -/
def message : Error → String
  | notFlag setting text => setting ++ " must be a boolean flag, got " ++ Text.quote text
  | emptySuffix => "Question spec suffix must not be empty"
  | emptyDirectory => "Question spec directory must not be empty"
  | notText kind => "Markdown source must be a string, got " ++ kind.name
  | badDirective params => "Invalid directive: " ++ Text.quote params
  | malformed flaw path => flaw.text ++ ": " ++ path
  | _ => ""

/-- Whether the document or the settings are at fault, and not the data of a node. -/
def isReportable : Error → Bool
  | notFlag .. | emptySuffix | emptyDirectory | notText _ | badDirective _ | malformed .. => true
  | _ => false

end Error

end Quizmark
