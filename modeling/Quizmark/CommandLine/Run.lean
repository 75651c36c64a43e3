import Quizmark.CommandLine.Arguments
import Quizmark.CommandLine.FileTree
import Quizmark.Json.Printer
import Quizmark.Markdown.Document
import Quizmark.Node.Writer
import Quizmark.Pipeline
import Quizmark.Text.Utf8

/-!
# The command

`Command.run` processes the file that a command line names and writes the document as JSON. An
error of the file or of its document is a line in the log and the exit code 1. Errors of the
settings are no matter of the document and end the command, and so does a document that is nested
too deep to be written.
-/

namespace Quizmark

namespace Command

/-- What a command leaves behind: its exit code, what it wrote, and the lines of its log. -/
structure Report where
  exit : Nat
  output : String := ""
  log : List String := []

/-- What comes of a command line. -/
inductive Outcome where
  /-- Only the usage was shown. -/
  | usage (exit : Nat)
  | done (report : Report)

/-- The exit code of a command line that makes no sense. -/
def misuseExit : Nat := 2

/-! ## The log -/

/-- A word for a truth value. -/
def truthWord (b : Bool) : String := if b then "True" else "False"

/-- What the log says of an event. -/
def eventLine (event : Event) : String :=
  "DEBUG qspec2mdx." ++ match event with
    | .rewrote count => "admonitions: Rewrote " ++ toString count ++ " admonition directive(s)"
    | .leftUnchanged path => "question_spec: Not a question spec, leaving unchanged: " ++ path
    | .compiled path isCloze criteria =>
      "question_spec: Compiled question spec " ++ path ++ " (cloze=" ++ truthWord isCloze ++
        ", scoring items=" ++ toString criteria ++ ")"
    | .processed path => "pipeline: Processed " ++ path

/-- What the log says of an error. -/
def errorLine (text : String) : String := "ERROR qspec2mdx: " ++ text

/-- The report of a failure. -/
def failed (log : List String) (text : String) : Report :=
  { exit := 1, log := log ++ [errorLine text] }

/-! ## Running -/

/-- The output for a document with a payload. -/
def output (indent : Int) (payload : Json) : String := payload.render indent.toNat ++ "\n"

/-- Reads Markdown source, takes the document through all passes and tells what happened. -/
def processSource (options : PipelineOptions) (path text : String) : Logged Root :=
  match Markdown.parse text with
  | .ok root => root.processLogged options path
  | .error error => ⟨[], .error error⟩

/-- Processes the text of a file. -/
def process (arguments : Arguments) (options : PipelineOptions) (path text : String) :
    Except Error Report :=
  let logged := processSource options path text
  let log := if arguments.isVerbose then logged.events.map eventLine else []
  match logged.result with
  | .ok root => do
    let payload ← root.toNode.dump
    return { exit := 0, output := output arguments.indent payload, log }
  | .error error =>
    if error.isReportable then .ok (failed log error.message) else .error error

/-- Processes the file that the arguments name. -/
def processFile (settings : Settings) (readFile : String → FileRead) (arguments : Arguments) :
    Except Error Report := do
  let options ← PipelineOptions.ofSettings arguments.rewritesAdmonitions settings
  let path := DocPath.simplify arguments.file
  if path.toList.any fun c => c.toNat = 0 then throw .nullInPath
  match readFile path with
  | .missing => return failed [] ("File not found: " ++ arguments.file)
  | .failed reason => return failed [] ("Cannot read " ++ arguments.file ++ ": " ++ reason)
  | .content octets =>
    match Text.Utf8.decode octets with
    | .error fault =>
      return failed [] (arguments.file ++ " is not valid UTF-8: " ++ fault.message)
    | .ok text => process arguments options path text

/-- Does what a command line asks for. -/
def run (env : Environment) (readFile : String → FileRead) (args : List String) :
    Except Error Outcome := do
  let settings ← Settings.ofEnvironment env
  match Arguments.read args with
  | .help => return .usage 0
  | .misuse => return .usage misuseExit
  | .run arguments => return .done (← processFile settings readFile arguments)

end Command

end Quizmark
