import Quizmark.Json.Basic

/-!
# Document nodes

`Node` is a node of a document tree. It comes in three shapes.

* `Node.branch`: a node that owns a list of children, such as a heading or a list.
* `Node.literal`: a node that holds a text, such as code or front matter.
* `Node.other`: a node of any other type, with an optional value and optional children.

Each may carry `data` for the renderer and extra fields, which may be null. An extra field `value` of
a branch and an extra field `children` of a literal are seen by the functions that ask for a text or
for children: `Node.ownText?` and `looseItems?`.
-/

namespace Quizmark

/-- The depth of a heading. -/
structure Depth where
  val : Nat
  one_le : 1 ≤ val := by omega
  le_six : val ≤ 6 := by omega
  deriving DecidableEq

/-- The depth with a number from one to six. -/
def Depth.ofNat? (n : Nat) : Option Depth :=
  if h : 1 ≤ n ∧ n ≤ 6 then some ⟨n, h.1, h.2⟩ else none

/-- An attribute of an element. One without a value is a flag that is set. -/
structure Attribute where
  name : String
  value : Option String := none
  extra : Fields := []

/-- The kinds of nodes that own children. -/
inductive BranchKind where
  | root
  | heading (depth : Depth)
  | paragraph
  | list (ordered spread : Option Bool)
  | item (spread checked : Option Bool)
  | directive (name : String) (label : Option String)
      (attributes : Option (List (String × String)))
  | element (name : Option String) (attributes : List Attribute)

/-- The kinds of nodes that hold a text. -/
inductive LiteralKind where
  | text
  | code (lang info : Option String)
  | inlineCode
  | yaml
  | toml
  deriving DecidableEq

/-- A node of a document tree. -/
inductive Node where
  | branch (kind : BranchKind) (data : Option Fields) (children : List Node) (extra : Fields)
  | literal (kind : LiteralKind) (data : Option Fields) (value : String) (extra : Fields)
  | other (type : String) (data : Option Fields) (value : Json) (children : Option (List Node))
      (extra : Fields)

instance : Inhabited Node := ⟨.other "" none .null none []⟩

/-- The type of a node of this kind. -/
def BranchKind.type : BranchKind → String
  | root => "root"
  | heading _ => "heading"
  | paragraph => "paragraph"
  | list .. => "list"
  | item .. => "listItem"
  | directive .. => "containerDirective"
  | element .. => "mdxJsxFlowElement"

/-- The type of a node of this kind. -/
def LiteralKind.type : LiteralKind → String
  | text => "text"
  | code .. => "code"
  | inlineCode => "inlineCode"
  | yaml => "yaml"
  | toml => "toml"

/-- Whether cloze markers are replaced in a text of this kind. -/
def LiteralKind.hasCloze : LiteralKind → Bool
  | text | code .. | inlineCode => true
  | yaml | toml => false

namespace Node

/-! ## Fields -/

/-- The type of a node. -/
def type : Node → String
  | branch kind .. => kind.type
  | literal kind .. => kind.type
  | other type .. => type

/-- The data for the renderer. -/
def data : Node → Option Fields
  | branch _ data .. => data
  | literal _ data .. => data
  | other _ data .. => data

/-- The node with other data. -/
def withData (d : Option Fields) : Node → Node
  | branch kind _ children extra => branch kind d children extra
  | literal kind _ value extra => literal kind d value extra
  | other type _ value children extra => other type d value children extra

/-- The fields that the node's kind does not name. -/
def extra : Node → Fields
  | branch _ _ _ extra => extra
  | literal _ _ _ extra => extra
  | other _ _ _ _ extra => extra

/-- The children that are nodes. -/
def children : Node → List Node
  | branch _ _ children _ => children
  | literal .. => []
  | other _ _ _ children _ => children.getD []

/-- The node with other children, if it has children at all. -/
def withChildren (cs : List Node) : Node → Node
  | branch kind data _ extra => branch kind data cs extra
  | literal kind data value extra => literal kind data value extra
  | other type data value children extra => other type data value (children.map fun _ => cs) extra

/-- The depth of a heading. -/
def depth? : Node → Option Depth
  | branch (.heading depth) .. => some depth
  | _ => none

/-- Whether a node is a heading of depth `n`. -/
def isHeadingAt (n : Nat) (node : Node) : Bool :=
  match node.depth? with
  | some depth => depth.val == n
  | none => false

/-- Whether a node is front matter. -/
def isFrontmatter : Node → Bool
  | literal .yaml .. | literal .toml .. => true
  | _ => false

/-! ## Nodes without data and extra fields -/

/-- A branch with a kind and children alone. -/
def ofKind (kind : BranchKind) (children : List Node) : Node := branch kind none children []

/-- A literal with a kind and a text alone. -/
def ofText (kind : LiteralKind) (value : String) : Node := literal kind none value []

/-- An element with a name, attributes and children. -/
def ofElement (name : String) (attributes : List Attribute) (children : List Node) : Node :=
  ofKind (.element (some name) attributes) children

end Node

/-! ## Roots -/

/-- The root of a document. -/
structure Root where
  children : List Node
  data : Option Fields := none
  extra : Fields := []

/-- The root as a node. -/
def Root.toNode (root : Root) : Node := .branch .root root.data root.children root.extra

end Quizmark
