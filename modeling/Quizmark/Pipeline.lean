import Quizmark.Exercise

/-!
# The pipeline

`Root.process` takes a document through the passes: admonitions, if they are asked for, then the
compiler of question specs. `Root.processLogged` also tells what happened on the way; what happened
before an error stays told.
-/

namespace Quizmark

/-- How documents are processed. -/
structure PipelineOptions where
  rewritesAdmonitions : Bool := true
  question : QuestionOptions := {}

/-- The options that settings give. -/
def PipelineOptions.ofSettings (rewritesAdmonitions : Bool) (settings : Settings) :
    Except Error PipelineOptions := do
  return { rewritesAdmonitions, question := ← QuestionOptions.ofSettings settings }

/-- What happened to a document. -/
inductive Event where
  /-- Admonitions were rewritten. -/
  | rewrote (count : Nat)
  /-- The path shows no question spec. -/
  | leftUnchanged (path : String)
  /-- A question spec was compiled. -/
  | compiled (path : String) (isCloze : Bool) (criteria : Nat)
  /-- All passes are done. -/
  | processed (path : String)

/-- A result with the events that led to it. -/
structure Logged (α : Type) where
  events : List Event
  result : Except Error α

/-- Compiles a document and tells how. -/
def Root.compileLogged (options : QuestionOptions) (path : String) (root : Root) : Logged Root :=
  if options.admits path then
    match QuestionSpec.ofRoot options path root with
    | .ok spec =>
      ⟨[.compiled spec.path spec.isCloze spec.scoring.length],
        .ok (root.withExercise options spec)⟩
    | .error error => ⟨[], .error error⟩
  else ⟨[.leftUnchanged path], .ok root⟩

/-- Takes a document through the passes after the admonitions. -/
def Root.finishLogged (options : PipelineOptions) (path : String) (root : Root) : Logged Root :=
  let compiled := root.compileLogged options.question path
  match compiled.result with
  | .ok root => ⟨compiled.events ++ [.processed path], .ok root⟩
  | .error error => ⟨compiled.events, .error error⟩

/-- Takes a document through all passes and tells what happened. -/
def Root.processLogged (options : PipelineOptions) (path : String) (root : Root) : Logged Root :=
  let path := DocPath.normalize path
  if options.rewritesAdmonitions then
    match root.rewriteAdmonitions with
    | .ok rewritten =>
      let rest := rewritten.finishLogged options path
      ⟨.rewrote root.toNode.admonitionCount :: rest.events, rest.result⟩
    | .error error => ⟨[], .error error⟩
  else root.finishLogged options path

/-- Takes a document through all passes. -/
def Root.process (options : PipelineOptions) (path : String) (root : Root) : Except Error Root :=
  (root.processLogged options path).result

end Quizmark
