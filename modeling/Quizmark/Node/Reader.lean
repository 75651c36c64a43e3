import Quizmark.Error
import Quizmark.Node.Basic
import Quizmark.Text.Loose

/-!
# Reading nodes from payloads

`Node.ofJson` reads a node from a JSON value and `Node.rootOfJson` a root of a document. Both report
every issue of the payload, in document order, and within a node in the order of its fields: type,
data, value or children, then the rest. An object of unknown type is a node without a kind of its
own (`Node.other`).

Absent fields take their defaults. Integers and booleans may be written loosely (`Text.Loose`, or as
decimal numbers), strings may not. Fields that the kind of the node does not name are kept, null or
not. Nodes may be nested in one another as deep as `nodeLimit` says; a node below that is an issue,
and what is in it is not looked at.
-/

namespace Quizmark

/-- A value, or all the issues on the way to it. -/
inductive Reading (α : Type) where
  | done (value : α)
  | failed (issues : List Issue)

namespace Reading

/-- The reading of one value. -/
def map {α β : Type} (f : α → β) : Reading α → Reading β
  | done a => done (f a)
  | failed issues => failed issues

/-- Two readings one after the other; the issues of both are kept. -/
def both {α β γ : Type} (f : α → β → γ) : Reading α → Reading β → Reading γ
  | done a, done b => done (f a b)
  | done _, failed issues => failed issues
  | failed issues, done _ => failed issues
  | failed issues, failed more => failed (issues ++ more)

instance : Functor Reading where
  map := map

instance : Applicative Reading where
  pure := done
  seq f x := both (fun g a => g a) f (x ())

/-- A single issue. -/
def issue {α : Type} (path : List Step) (problem : Problem) : Reading α :=
  failed [⟨path, problem⟩]

/-- The outcome as the result of a program. -/
def toExcept {α : Type} : Reading α → Except Error α
  | done a => .ok a
  | failed issues => .error (.invalid issues)

end Reading

open Reading

/-! ## Fields -/

/-- The location of a field of a node at `path`. -/
def fieldAt (path : List Step) (name : String) : List Step := path ++ [.field name]

/-- A string. -/
def readString (path : List Step) : Json → Reading String
  | .str s => done s
  | _ => issue path .notString

/-- The size that the integer of a decimal number must stay below. -/
def wordLimit : Nat := 9223372036854775808

/-- The integer that a decimal number stands for. -/
def readDecimal (path : List Step) (d : Decimal) : Reading Int :=
  match d.int? with
  | some n => if n.natAbs < wordLimit then done n else issue path .integerTooLong
  | none => issue path .fractional

/-- An integer, or a decimal number, boolean or text that stands for one. -/
def readInteger (path : List Step) : Json → Reading Int
  | .num n => done n
  | .decimal d => readDecimal path d
  | .bool b => done (if b then 1 else 0)
  | .str s =>
    if s.length > Text.maxDigits then issue path .integerTooLong
    else match Text.looseInteger? s.toList with
      | some n => done n
      | none => issue path .badInteger
  | _ => issue path .notInteger

/-- The boolean that an integer stands for. -/
def readBit (path : List Step) : Int → Reading Bool
  | 0 => done false
  | 1 => done true
  | _ => issue path .badBoolean

/-- A boolean, or a number or text that stands for one. -/
def readBoolean (path : List Step) : Json → Reading Bool
  | .bool b => done b
  | .num n => readBit path n
  | .decimal d =>
    match readDecimal path d with
    | done n => readBit path n
    | failed _ => issue path .notBoolean
  | .str s =>
    match Text.looseBoolean? s with
    | some b => done b
    | none => issue path .badBoolean
  | _ => issue path .notBoolean

/-- A field that must be there. -/
def required {α : Type} (read : List Step → Json → Reading α) (path : List Step)
    (fields : Fields) (name : String) : Reading α :=
  match fields.get? name with
  | none => issue (fieldAt path name) .missing
  | some value => read (fieldAt path name) value

/-- A field that takes a default where it is absent. -/
def withDefault {α : Type} (default : α) (read : List Step → Json → Reading α)
    (path : List Step) (fields : Fields) (name : String) : Reading α :=
  match fields.get? name with
  | none => done default
  | some value => read (fieldAt path name) value

/-- A field that may be null, and takes a default where it is absent. -/
def optional {α : Type} (default : Option α) (read : List Step → Json → Reading α)
    (path : List Step) (fields : Fields) (name : String) : Reading (Option α) :=
  match fields.get? name with
  | none => done default
  | some .null => done none
  | some value => (read (fieldAt path name) value).map some

/-- An object of any shape. -/
def readObject (path : List Step) : Json → Reading Fields
  | .obj fields => done fields
  | _ => issue path .notObject

/-- The fields of an object whose values are strings. -/
def readStrings (path : List Step) : Fields → Reading (List (String × String))
  | [] => done []
  | (key, value) :: rest =>
    both (fun s pairs => (key, s) :: pairs) (readString (fieldAt path key) value)
      (readStrings path rest)

/-- An object whose values are strings. -/
def readStringObject (path : List Step) : Json → Reading (List (String × String))
  | .obj fields => readStrings path fields
  | _ => issue path .notObject

/-- A depth from one to six. -/
def readDepth (path : List Step) (value : Json) : Reading Depth :=
  match readInteger path value with
  | failed issues => failed issues
  | done n =>
    if n < 1 then issue path .tooSmall
    else match Depth.ofNat? n.toNat with
      | some depth => done depth
      | none => issue path .tooLarge

/-- A type that can only be `name`. -/
def readTypeName (name : String) (path : List Step) : Json → Reading Unit
  | .str s => if s = name then done () else issue path .otherLiteral
  | _ => issue path .otherLiteral

/-- The fields that a kind does not name. -/
def extraOf (names : List String) (fields : Fields) : Fields := fields.without names

/-! ## Attributes of elements -/

/-- The type of an attribute of an element. -/
def Attribute.type : String := "mdxJsxAttribute"

/-- An attribute of an element. -/
def readAttribute (path : List Step) : Json → Reading Attribute
  | .obj fields =>
    (fun _ name value => ⟨name, value, extraOf ["type", "name", "value"] fields⟩) <$>
      withDefault () (readTypeName Attribute.type) path fields "type" <*>
      required readString path fields "name" <*>
      optional none readString path fields "value"
  | _ => issue path .notModel

/-- The attributes from position `i` on. -/
def readAttributesFrom (path : List Step) (i : Nat) : List Json → Reading (List Attribute)
  | [] => done []
  | value :: rest =>
    both List.cons (readAttribute (path ++ [.index i]) value) (readAttributesFrom path (i + 1) rest)

/-- The attributes of an element. -/
def readAttributes (path : List Step) : Json → Reading (List Attribute)
  | .arr items => readAttributesFrom path 0 items
  | _ => issue path .notList

/-! ## Nodes -/

/-- What a payload has where the children of a node may be. -/
inductive Children where
  | absent
  | null
  | notList
  | nodes (reading : Reading (List Node))

/-- Children that must be a list where they are present. -/
def Children.orEmpty (path : List Step) : Children → Reading (List Node)
  | absent => done []
  | null | notList => issue (fieldAt path "children") .notList
  | nodes reading => reading

/-- Children that may be missing altogether. -/
def Children.orNone (path : List Step) : Children → Reading (Option (List Node))
  | absent | null => done none
  | notList => issue (fieldAt path "children") .notList
  | nodes reading => reading.map some

/-- A branch: data and children, then what its kind needs, for which `names` are the fields. -/
def readBranch (path : List Step) (fields : Fields) (children : Children)
    (kind : Reading BranchKind) (names : List String) : Reading Node :=
  (fun data children kind =>
      .branch kind data children (extraOf (["type", "data", "children"] ++ names) fields)) <$>
    optional none readObject path fields "data" <*> children.orEmpty path <*> kind

/-- A literal: data and value, then what its kind needs, for which `names` are the fields. -/
def readLiteral (path : List Step) (fields : Fields) (kind : Reading LiteralKind)
    (names : List String) : Reading Node :=
  (fun data value kind =>
      .literal kind data value (extraOf (["type", "data", "value"] ++ names) fields)) <$>
    optional none readObject path fields "data" <*>
    withDefault "" readString path fields "value" <*> kind

/-- A node of a type without a kind of its own. -/
def readOther (path : List Step) (fields : Fields) (children : Children) : Reading Node :=
  (fun type data children =>
      .other type data ((fields.get? "value").getD .null) children
        (extraOf ["type", "data", "value", "children"] fields)) <$>
    required readString path fields "type" <*>
    optional none readObject path fields "data" <*> children.orNone path

/-- A node with the fields of a payload, read as the type says. -/
def readFields (path : List Step) (fields : Fields) (children : Children) : Reading Node :=
  match fields.get? "type" with
  | some (.str "root") => readBranch path fields children (done .root) []
  | some (.str "heading") =>
    readBranch path fields children
      (BranchKind.heading <$> required readDepth path fields "depth") ["depth"]
  | some (.str "paragraph") => readBranch path fields children (done .paragraph) []
  | some (.str "list") =>
    readBranch path fields children
      (BranchKind.list <$> optional (some false) readBoolean path fields "ordered" <*>
        optional (some false) readBoolean path fields "spread")
      ["ordered", "spread"]
  | some (.str "listItem") =>
    readBranch path fields children
      (BranchKind.item <$> optional (some false) readBoolean path fields "spread" <*>
        optional none readBoolean path fields "checked")
      ["spread", "checked"]
  | some (.str "containerDirective") =>
    readBranch path fields children
      (BranchKind.directive <$> required readString path fields "name" <*>
        optional none readString path fields "label" <*>
        optional none readStringObject path fields "attributes")
      ["name", "label", "attributes"]
  | some (.str "mdxJsxFlowElement") =>
    readBranch path fields children
      (BranchKind.element <$> optional none readString path fields "name" <*>
        withDefault [] readAttributes path fields "attributes")
      ["name", "attributes"]
  | some (.str "text") => readLiteral path fields (done .text) []
  | some (.str "code") =>
    readLiteral path fields
      (LiteralKind.code <$> optional none readString path fields "lang" <*>
        optional none readString path fields "meta")
      ["lang", "meta"]
  | some (.str "inlineCode") => readLiteral path fields (done .inlineCode) []
  | some (.str "yaml") => readLiteral path fields (done .yaml) []
  | some (.str "toml") => readLiteral path fields (done .toml) []
  | _ => readOther path fields children

/-- The step that a location takes into a node with these fields. -/
def modelName (fields : Fields) : String :=
  match fields.get? "type" with
  | some (.str type) =>
    if ["yaml", "toml"].contains type then "frontmatter"
    else if ["root", "heading", "paragraph", "text", "code", "inlineCode", "list", "listItem",
      "containerDirective", "mdxJsxFlowElement"].contains type then type
    else "generic"
  | _ => "generic"

/-- The number of nodes that may be nested in one another. The guard against endless payloads stops
at 255 levels, and the call takes the first one. -/
def nodeLimit : Nat := 253

mutual

/-- A node at a location, with room for so many nodes nested in one another. -/
def readNode (path : List Step) (room : Nat) : Json → Reading Node
  | .obj fields =>
    let here := fieldAt path (modelName fields)
    match room with
    | 0 => issue here .nestedTooDeep
    | room + 1 => readFields here fields (readChildren (fieldAt here "children") room fields)
  | _ => issue (fieldAt path "generic") (if room = 0 then .nestedTooDeep else .notModel)
  termination_by structural value => value

/-- The children among the fields of a payload. -/
def readChildren (path : List Step) (room : Nat) : List (String × Json) → Children
  | [] => .absent
  | field :: rest =>
    if field.1 = "children" then readChildrenField path room field
    else readChildren path room rest
  termination_by structural fields => fields

/-- The children in the field that holds them. -/
def readChildrenField (path : List Step) (room : Nat) : String × Json → Children
  | (_, value) => readChildrenValue path room value
  termination_by structural field => field

/-- The children in the value that holds them. -/
def readChildrenValue (path : List Step) (room : Nat) : Json → Children
  | .arr items => .nodes (readNodesFrom path room 0 items)
  | .null => .null
  | _ => .notList
  termination_by structural value => value

/-- The nodes of a list from position `i` on. -/
def readNodesFrom (path : List Step) (room i : Nat) : List Json → Reading (List Node)
  | [] => done []
  | value :: rest =>
    both List.cons (readNode (path ++ [.index i]) room value) (readNodesFrom path room (i + 1) rest)
  termination_by structural items => items

end

namespace Node

/-- The node that a payload holds. -/
def ofJson (payload : Json) : Except Error Node := (readNode [] nodeLimit payload).toExcept

/-- The root that a payload holds; its type may be left out. -/
def rootOfJson : Json → Except Error Root
  | .obj fields =>
    let children := readChildren (fieldAt [] "children") (nodeLimit - 1) fields
    ((fun _ data children =>
        Root.mk children data (extraOf ["type", "data", "children"] fields)) <$>
      withDefault () (readTypeName "root") [] fields "type" <*>
      optional none readObject [] fields "data" <*> children.orEmpty []).toExcept
  | _ => .error (.invalid [⟨[], .notModel⟩])

end Node

end Quizmark
