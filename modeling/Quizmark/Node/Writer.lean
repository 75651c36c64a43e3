import Quizmark.Node.Reader

/-!
# Writing nodes as payloads

`Node.toJson` is the payload of a node. Fields stand in the order type, data, value or children,
then those that the kind names, then the extra ones. A field that is null or has no value is left
out, except that an attribute of an element always has its value, null for a flag.

`Node.dump` writes a payload out, which fails for a tree with more levels than `levelLimit`. A level
is a node, or a value in its data, in its own value or in its extra fields (`Node.levels`).
-/

namespace Quizmark

/-! ## Fields -/

/-- A field that is left out where there is no value. -/
def fieldOf {α : Type} (name : String) (write : α → Json) : Option α → Fields
  | none => []
  | some value => [(name, write value)]

/-- The payload of an attribute. A null value comes last. -/
def Attribute.toJson (attr : Attribute) : Json :=
  .obj <| [("type", .str Attribute.type), ("name", .str attr.name)] ++
    match attr.value with
    | some value => ("value", .str value) :: attr.extra.present
    | none => attr.extra.present ++ [("value", .null)]

/-- The fields that a branch kind names. -/
def BranchKind.fields : BranchKind → Fields
  | root | paragraph => []
  | heading depth => [("depth", .num depth.val)]
  | list ordered spread => fieldOf "ordered" .bool ordered ++ fieldOf "spread" .bool spread
  | item spread checked => fieldOf "spread" .bool spread ++ fieldOf "checked" .bool checked
  | directive name label attributes =>
    ("name", .str name) :: fieldOf "label" .str label ++
      fieldOf "attributes" (fun pairs => .obj (pairs.map fun p => (p.1, .str p.2))) attributes
  | element name attributes =>
    fieldOf "name" .str name ++ [("attributes", .arr (attributes.map Attribute.toJson))]

/-- The fields that a literal kind names. -/
def LiteralKind.fields : LiteralKind → Fields
  | code lang info => fieldOf "lang" .str lang ++ fieldOf "meta" .str info
  | text | inlineCode | yaml | toml => []

/-- The value of a node that has no kind of its own, left out where it is null. -/
def valueField : Json → Fields
  | .null => []
  | value => [("value", value)]

/-! ## Nodes -/

namespace Node

mutual

/-- The payload of a node. -/
def toJson : Node → Json
  | branch kind data children extra =>
    .obj <| [("type", .str kind.type)] ++ fieldOf "data" .obj data ++
      [("children", .arr (toJsonAll children))] ++ kind.fields ++ extra.present
  | literal kind data value extra =>
    .obj <| [("type", .str kind.type)] ++ fieldOf "data" .obj data ++
      [("value", .str value)] ++ kind.fields ++ extra.present
  | other type data value (some children) extra =>
    .obj <| [("type", .str type)] ++ fieldOf "data" .obj data ++ valueField value ++
      [("children", .arr (toJsonAll children))] ++ extra.present
  | other type data value none extra =>
    .obj <| [("type", .str type)] ++ fieldOf "data" .obj data ++ valueField value ++ extra.present
  termination_by structural node => node

/-- The payloads of nodes. -/
def toJsonAll : List Node → List Json
  | [] => []
  | node :: rest => node.toJson :: toJsonAll rest
  termination_by structural nodes => nodes

end

end Node

/-! ## Levels -/

/-- The levels of extra fields; those that are null are not written. -/
def Fields.extraLevels (extra : Fields) : Nat := Json.levelsFields extra.present

/-- The levels of the extra fields of the attributes that a kind names. -/
def BranchKind.levels : BranchKind → Nat
  | element _ attributes => attributes.foldr (fun attr n => max attr.extra.extraLevels n) 0
  | _ => 0

namespace Node

/-- The levels of what a node itself holds beside its children. -/
def ownLevels : Node → Nat
  | branch kind data _ extra =>
    max (Json.levelsFields (data.getD [])) (max kind.levels extra.extraLevels)
  | literal _ data _ extra => max (Json.levelsFields (data.getD [])) extra.extraLevels
  | other _ data value _ extra =>
    max (Json.levelsFields (data.getD [])) (max (Json.levelsFields (valueField value))
      extra.extraLevels)

mutual

/-- The number of levels of a tree that a writer goes through. -/
def levels : Node → Nat
  | branch kind data children extra =>
    max (branch kind data children extra).ownLevels (levelsAll children) + 1
  | literal kind data value extra => (literal kind data value extra).ownLevels + 1
  | other type data value (some children) extra =>
    max (other type data value (some children) extra).ownLevels (levelsAll children) + 1
  | other type data value none extra => (other type data value none extra).ownLevels + 1
  termination_by structural node => node

/-- The greatest number of levels of nodes. -/
def levelsAll : List Node → Nat
  | [] => 0
  | node :: rest => max node.levels (levelsAll rest)
  termination_by structural nodes => nodes

end

/-- The number of levels that a tree may have to be written. The guard against endless trees stops
at 255 levels. -/
def levelLimit : Nat := 254

/-- Writes the payload of a node out. -/
def dump (node : Node) : Except Error Json :=
  if node.levels ≤ levelLimit then .ok node.toJson else .error .tooManyLevels

end Node

end Quizmark
