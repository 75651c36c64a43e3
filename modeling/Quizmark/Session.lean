import Quizmark.Markdown.Conversion
import Quizmark.Node.Writer
import Quizmark.Pipeline

/-!
# Editing sessions

A session holds a document, a selection among the children of its root and a counter for heading
ids. `Session.run` performs an action on it. When an action fails, the session stays as it was,
except that changes in place made before the failure stay.
-/

namespace Quizmark

/-- What a session holds. The selection is a list of positions among the root's children. -/
structure Session where
  root : Option Root := none
  selection : List Nat := []
  counter : HeadingId.Counter := []

/-- What can be done in a session. -/
inductive Action where
  | load (document : Except Error Root)
  | admonitions
  | compile (path : String) (options : Except Error QuestionOptions)
  | process (path : String) (options : Except Error PipelineOptions)
  | roundTrip
  | selectAll
  | selectSection (name : String)
  | split (markers : List String) (takesTip : Bool)
  | cloze
  | ids (idPrefix : String) (shares : Bool)
  | scoring
  | text
  | sections

/-- What an action answers. -/
inductive Answer where
  | nothing
  | counter (counter : HeadingId.Counter)
  | criteria (criteria : List Section.Criterion)
  | texts (document selection : String)
  | names (names : List String)

namespace Session

/-- The children of the document. -/
def children (session : Session) : List Node :=
  match session.root with
  | some root => root.children
  | none => []

/-- The child at a position. -/
def child (session : Session) (i : Nat) : Node := (session.children[i]?).getD default

/-- The selected nodes. -/
def selected (session : Session) : List Node := session.selection.map session.child

/-- The text of the document. -/
def text (session : Session) : String :=
  match session.root with
  | some root => root.toNode.text
  | none => ""

/-- Nodes with those at the given positions replaced. -/
def putAll (nodes : List Node) (changes : List (Nat × Node)) : List Node :=
  changes.foldl (fun nodes change => nodes.set change.1 change.2) nodes

/-- The session with the selected nodes replaced. -/
def withSelected (session : Session) (nodes : List Node) : Session :=
  { session with
    root := session.root.map fun root =>
      { root with children := putAll root.children (session.selection.zip nodes) } }

/-- The session with another document and nothing selected. -/
def withRoot (session : Session) (root : Root) : Session :=
  { session with root := some root, selection := [] }

/-- Puts a new document in the place of the old one, if there is a new one. -/
def replace (session : Session) (result : Except Error Root) :
    Session × Except Error Answer :=
  match result with
  | .ok root => (session.withRoot root, .ok .nothing)
  | .error error => (session, .error error)

/-- A change of the document. -/
def change (session : Session) (f : Root → Except Error Root) : Session × Except Error Answer :=
  match session.root with
  | some root => session.replace (f root)
  | none => (session, .ok .nothing)

/-- The session with another selection. -/
def select (session : Session) (selection : List Nat) : Session × Except Error Answer :=
  ({ session with selection }, .ok .nothing)

/-- The positions of the root's children. -/
def positions (session : Session) : List Nat := List.range session.children.length

/-- What is answered after a pass over the selection. -/
def afterPass {σ : Type} (outcome : Outcome σ (List Node)) (answer : Answer) :
    Except Error Answer :=
  match outcome.fault with
  | some fault => .error fault
  | none => .ok answer

/-- Performs an action. -/
def run (session : Session) : Action → Session × Except Error Answer
  | .load document => session.replace document
  | .admonitions => session.change Root.rewriteAdmonitions
  | .compile path options => session.change fun root => do root.compile (← options) path
  | .process path options => session.change fun root => do root.process (← options) path
  | .roundTrip => session.change fun root => do Node.rootOfJson (← root.toNode.dump)
  | .selectAll => session.select session.positions
  | .selectSection name =>
    session.select (Section.get (Section.partitionBy session.child session.positions) name)
  | .split markers takesTip =>
    let split := Section.splitTipBy session.child markers session.selection
    session.select (if takesTip then split.tip else split.rest)
  | .cloze =>
    let outcome := Node.cloze session.selected
    (session.withSelected outcome.value, afterPass outcome .nothing)
  | .ids idPrefix shares =>
    let outcome := Node.assignIds idPrefix (if shares then session.counter else []) session.selected
    let changed := session.withSelected outcome.value
    (if shares then { changed with counter := outcome.state } else changed,
      afterPass outcome (.counter outcome.state))
  | .scoring =>
    (session, (Section.scoring session.selected).map .criteria)
  | .text => (session, .ok (.texts session.text (nodesText session.selected)))
  | .sections =>
    (session, .ok (.names ((Section.partition session.children).map fun s => s.1)))

end Session

end Quizmark
