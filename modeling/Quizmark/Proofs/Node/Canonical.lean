import Mathlib.Data.List.Forall2
import Mathlib.Data.Option.Basic
import Quizmark.Proofs.Node.RoundTrip

/-!
# Canonical payloads

A payload is canonical if it says all that a writer would say, in the types in which a writer says
it. Such a payload comes back from a reader and a writer as it was, whatever unknown types, unknown
fields and data are in it, unless it is nested too deep for one of them.

* `Json.Same`: two values are the same but for the order of the fields of objects.
* `Fields.Declares`: the fields that a type declares are there, with values of their types.
* `Json.Canonical room`: the canonical payloads with no more than `room` nodes nested in one another,
  one rule for each shape of a node.
* `Json.same_obj`: an object of named fields and the extra fields of another object is the same as
  that object, if the named ones are.
* `readNode_canonical_iff`: a reader takes the canonical payloads that it has room for.
* `Node.canonical_survives`: which canonical payloads survive reading and writing.
-/

namespace Quizmark

open Reading

/-! ## Payloads that are the same -/

/-- Two values are the same but for the order of the fields of objects: under each name, two objects
have the same value, or both have none. -/
inductive Json.Same : Json → Json → Prop where
  | refl (value : Json) : Same value value
  | arr {xs ys : List Json} : List.Forall₂ Same xs ys → Same (.arr xs) (.arr ys)
  | obj {xs ys : Fields} : (∀ name, Option.Rel Same (xs.get? name) (ys.get? name)) →
    Same (.obj xs) (.obj ys)

theorem Json.Same.rel_refl (value : Option Json) : Option.Rel Json.Same value value := by
  cases value with
  | none => exact .none
  | some value => exact .some (.refl value)

/-! ## Canonical payloads -/

namespace Fields

/-- There is a field with this name, and it holds what `write` writes. -/
def Has {α : Type} (fields : Fields) (name : String) (write : α → Json) : Prop :=
  ∃ value, fields.get? name = some (write value)

/-- If there is a field with this name, then it holds what `write` writes. -/
def MayHave {α : Type} (fields : Fields) (name : String) (write : α → Json) : Prop :=
  ∃ value : Option α, fields.get? name = value.map write

/-- The fields of an attribute: a name and a value, of which the value alone may be null. -/
structure IsAttribute (fields : Fields) : Prop where
  typed : fields.get? "type" = some (.str Attribute.type)
  name : fields.Has "name" Json.str
  value : fields.get? "value" = some .null ∨ fields.Has "value" Json.str
  present : ∀ field ∈ fields, field.1 ≠ "value" → field.2.isNull = false

/-- The fields that a type declares are there, with values of their types. Those that are null by
default may be missing. -/
def Declares (fields : Fields) : String → Prop
  | "heading" => fields.Has "depth" fun depth : Depth => .num depth.val
  | "list" => fields.Has "ordered" Json.bool ∧ fields.Has "spread" Json.bool
  | "listItem" => fields.Has "spread" Json.bool ∧ fields.MayHave "checked" Json.bool
  | "containerDirective" =>
    fields.Has "name" Json.str ∧ fields.MayHave "label" Json.str ∧
      fields.MayHave "attributes" fun pairs : List (String × String) =>
        .obj (pairs.map fun pair => (pair.1, .str pair.2))
  | "mdxJsxFlowElement" =>
    fields.MayHave "name" Json.str ∧ ∃ attributes : List Fields,
      fields.get? "attributes" = some (.arr (attributes.map .obj)) ∧
        ∀ attr ∈ attributes, attr.IsAttribute
  | "code" => fields.MayHave "lang" Json.str ∧ fields.MayHave "meta" Json.str
  | _ => True

/-- The fields of a node of this type, its value and its children apart. None of them is null. -/
structure IsNode (fields : Fields) (type : String) : Prop where
  typed : fields.get? "type" = some (.str type)
  data : fields.MayHave "data" Json.obj
  declares : fields.Declares type
  present : ∀ field ∈ fields, field.2.isNull = false

end Fields

namespace Node

/-- The types of nodes that own children. -/
def branchTypes : List String :=
  ["root", "heading", "paragraph", "list", "listItem", "containerDirective", "mdxJsxFlowElement"]

/-- The types of nodes that hold a text. -/
def literalTypes : List String := ["text", "code", "inlineCode", "yaml", "toml"]

end Node

/-- The payload is canonical, and so are all payloads of nodes in it. No more than so many of its
nodes are nested in one another. -/
inductive Json.Canonical : Nat → Json → Prop where
  | branch {room : Nat} {type : String} {fields : Fields} {items : List Json} :
    type ∈ Node.branchTypes → fields.IsNode type → fields.get? "children" = some (.arr items) →
    (∀ item ∈ items, Canonical room item) → Canonical (room + 1) (.obj fields)
  | literal {room : Nat} {type : String} {fields : Fields} :
    type ∈ Node.literalTypes → fields.IsNode type → fields.Has "value" Json.str →
    Canonical (room + 1) (.obj fields)
  | parent {room : Nat} {type : String} {fields : Fields} {items : List Json} :
    type ∉ Node.kindTypes → fields.IsNode type → fields.get? "children" = some (.arr items) →
    (∀ item ∈ items, Canonical room item) → Canonical (room + 1) (.obj fields)
  | leaf {room : Nat} {type : String} {fields : Fields} :
    type ∉ Node.kindTypes → fields.IsNode type → fields.get? "children" = none →
    Canonical (room + 1) (.obj fields)

/-! ## Objects that are the same -/

section Same

variable {names : List String} {fields own : Fields}

theorem Fields.mem_of_get? {name : String} {value : Json} (h : fields.get? name = some value) :
    (name, value) ∈ fields := by
  induction fields with
  | nil => cases h
  | cons field rest ih =>
    obtain ⟨k, v⟩ := field
    rw [Fields.get?_cons] at h
    by_cases hk : k = name
    · rw [if_pos hk, Option.some.injEq] at h
      exact List.mem_cons.mpr (.inl (by rw [hk, h]))
    · rw [if_neg hk] at h
      exact List.mem_cons_of_mem _ (ih h)

/-- The fields that are not named are written, if none of them is null. -/
theorem present_extraOf (hnull : ∀ field ∈ fields, field.1 ∉ names → field.2.isNull = false) :
    (extraOf names fields).present = extraOf names fields := by
  refine Fields.present_eq fun field hmem => ?_
  obtain ⟨hfield, hname⟩ := List.mem_filter.mp hmem
  exact hnull field hfield (by simpa using hname)

theorem get?_extraOf {name : String} (h : name ∉ names) :
    (extraOf names fields).get? name = fields.get? name := by
  induction fields with
  | nil => rfl
  | cons field rest ih =>
    obtain ⟨k, v⟩ := field
    by_cases hk : k ∈ names
    · have hne : k ≠ name := fun heq => h (heq ▸ hk)
      rw [Fields.extraOf_cons_of_mem hk, ih, Fields.get?_cons, if_neg hne]
    · have hkeep : extraOf names ((k, v) :: rest) = (k, v) :: extraOf names rest := by
        simp [extraOf, Fields.without, hk]
      rw [hkeep, Fields.get?_cons, Fields.get?_cons, ih]

theorem get?_extraOf_eq_none {name : String} (h : name ∈ names) :
    (extraOf names fields).get? name = none := by
  induction fields with
  | nil => rfl
  | cons field rest ih =>
    obtain ⟨k, v⟩ := field
    by_cases hk : k ∈ names
    · rw [Fields.extraOf_cons_of_mem hk, ih]
    · have hne : k ≠ name := fun heq => hk (heq ▸ h)
      have hkeep : extraOf names ((k, v) :: rest) = (k, v) :: extraOf names rest := by
        simp [extraOf, Fields.without, hk]
      rw [hkeep, Fields.get?_cons, if_neg hne, ih]

theorem get?_eq_none {name : String} (hown : ∀ field ∈ own, field.1 ∈ names) (h : name ∉ names) :
    own.get? name = none := by
  induction own with
  | nil => rfl
  | cons field rest ih =>
    obtain ⟨k, v⟩ := field
    obtain ⟨hfield, hrest⟩ := List.forall_mem_cons.mp hown
    have hne : k ≠ name := fun heq => h (heq ▸ hfield)
    rw [Fields.get?_cons, if_neg hne, ih hrest]

/-- An object is the same as another one if its named fields are, and if beside them it has what the
other has. -/
theorem Json.same_obj
    (hnamed : ∀ name ∈ names, Option.Rel Json.Same (own.get? name) (fields.get? name))
    (hextra : ∀ name, name ∉ names → own.get? name = (extraOf names fields).get? name) :
    Json.Same (.obj own) (.obj fields) := by
  refine .obj fun name => ?_
  by_cases hname : name ∈ names
  · exact hnamed name hname
  · rw [hextra name hname, get?_extraOf hname]
    exact Json.Same.rel_refl _

/-- The named fields may stand in front of all others. -/
theorem Json.same_append
    (hnamed : ∀ name ∈ names, Option.Rel Json.Same (own.get? name) (fields.get? name))
    (hown : ∀ field ∈ own, field.1 ∈ names)
    (hnull : ∀ field ∈ fields, field.1 ∉ names → field.2.isNull = false) :
    Json.Same (.obj (own ++ (extraOf names fields).present)) (.obj fields) := by
  rw [present_extraOf hnull]
  refine same_obj (fun name (hname : name ∈ names) => ?_) (fun name hname => ?_)
  · rw [Fields.get?_append, get?_extraOf_eq_none hname, Option.or_none]
    exact hnamed name hname
  · rw [Fields.get?_append, get?_eq_none hown hname, Option.none_or]

end Same

/-! ## Attributes -/

/-- The payload of an attribute is read, and what is written for it is the same. -/
theorem readAttribute_canonical {fields : Fields} (h : fields.IsAttribute) (path : List Step) :
    ∃ attr, readAttribute path (.obj fields) = done attr ∧ attr.toJson.Same (.obj fields) := by
  obtain ⟨name, hname⟩ := h.name
  have hnull : ∀ field ∈ fields, field.1 ∉ ["type", "name", "value"] → field.2.isNull = false := by
    intro field hmem hfield
    exact h.present field hmem fun hvalue => hfield (by simp [hvalue])
  have hread {value : Option String}
      (hvalue : optional none readString path fields "value" = done value) :
      readAttribute path (.obj fields) =
        done ⟨name, value, extraOf ["type", "name", "value"] fields⟩ := by
    rw [readAttribute, withDefault, h.typed, required_string hname, hvalue]
    rfl
  rcases h.value with hvalue | ⟨value, hvalue⟩
  · refine ⟨_, hread (by rw [optional, hvalue]), ?_⟩
    rw [Attribute.toJson, present_extraOf hnull]
    -- The null value stands behind the extra fields.
    refine Json.same_obj (fun key (hkey : key ∈ ["type", "name", "value"]) => ?_)
      (fun key hkey => ?_)
    · have hextra : (extraOf ["type", "name", "value"] fields).get? key = none :=
        get?_extraOf_eq_none hkey
      simp only [List.mem_cons, List.not_mem_nil, or_false] at hkey
      rcases hkey with rfl | rfl | rfl <;> simp [h.typed, hname, hvalue, hextra, Json.Same.refl]
    · simp only [List.mem_cons, List.not_mem_nil, or_false, not_or] at hkey
      obtain ⟨htype, hname, hvalue⟩ := hkey
      simp [Ne.symm htype, Ne.symm hname, Ne.symm hvalue]
  · have hstring : fields.get? "value" = (some value).map Json.str := hvalue
    refine ⟨_, hread (optional_string hstring), ?_⟩
    have hsame : Json.Same
        (.obj ([("type", .str Attribute.type), ("name", .str name), ("value", .str value)] ++
          (extraOf ["type", "name", "value"] fields).present)) (.obj fields) := by
      refine Json.same_append (fun key hkey => ?_) (by simp) hnull
      simp only [List.mem_cons, List.not_mem_nil, or_false] at hkey
      rcases hkey with rfl | rfl | rfl <;> simp [h.typed, hname, hvalue, Json.Same.refl]
    exact hsame

theorem readAttributesFrom_canonical {items : List Fields} (h : ∀ attr ∈ items, attr.IsAttribute)
    (path : List Step) (i : Nat) :
    ∃ attrs, readAttributesFrom path i (items.map .obj) = done attrs ∧
      List.Forall₂ Json.Same (attrs.map Attribute.toJson) (items.map .obj) := by
  induction items generalizing i with
  | nil => exact ⟨[], rfl, .nil⟩
  | cons fields items ih =>
    obtain ⟨hfields, hitems⟩ := List.forall_mem_cons.mp h
    obtain ⟨attr, hattr, hsame⟩ := readAttribute_canonical hfields (path ++ [.index i])
    obtain ⟨attrs, hattrs, hall⟩ := ih hitems (i + 1)
    refine ⟨attr :: attrs, ?_, .cons hsame hall⟩
    rw [List.map_cons, readAttributesFrom, hattr, hattrs]
    rfl

/-! ## Kinds -/

section Kinds

variable {fields : Fields} {children : Children} {data : Option Fields} {cs : List Node}
  {type : String} {path : List Step}

theorem BranchKind.fst_mem_names (kind : BranchKind) :
    ∀ field ∈ kind.fields, field.1 ∈ kind.names := by
  cases kind with
  | list ordered spread => cases ordered <;> cases spread <;> simp [fields, names, fieldOf]
  | item spread checked => cases spread <;> cases checked <;> simp [fields, names, fieldOf]
  | directive name label attributes =>
    cases label <;> cases attributes <;> simp [fields, names, fieldOf]
  | element name attributes => cases name <;> simp [fields, names, fieldOf]
  | _ => simp [fields, names]

theorem LiteralKind.fst_mem_names (kind : LiteralKind) :
    ∀ field ∈ kind.fields, field.1 ∈ kind.names := by
  cases kind with
  | code lang info => cases lang <;> cases info <;> simp [fields, names, fieldOf]
  | _ => simp [fields, names]

/-- The fields of a kind are none of those that all nodes have. -/
theorem BranchKind.names_own (kind : BranchKind) :
    ∀ name ∈ kind.names, name ≠ "type" ∧ name ≠ "data" ∧ name ≠ "children" := by
  cases kind <;> simp [names]

theorem LiteralKind.names_own (kind : LiteralKind) :
    ∀ name ∈ kind.names, name ≠ "type" ∧ name ≠ "data" ∧ name ≠ "value" := by
  cases kind <;> simp [names]

/-- A branch is read with the kind that its type stands for. What is written for the kind is what
the payload says of it. -/
theorem readFields_canonical_branch (htype : type ∈ Node.branchTypes) (h : fields.IsNode type)
    (hdata : fields.get? "data" = data.map .obj) (hchildren : children.orEmpty path = done cs) :
    ∃ kind : BranchKind, kind.type = type ∧
      readFields path fields children = done (.branch kind data cs
        (extraOf (["type", "data", "children"] ++ kind.names) fields)) ∧
      ∀ name ∈ kind.names,
        Option.Rel Json.Same (Fields.get? kind.fields name) (fields.get? name) := by
  -- A reading of the kind is all that the types differ in.
  have hread (k : BranchKind) {kind : Reading BranchKind} (hkind : kind = done k) :
      readBranch path fields children kind k.names = done (.branch k data cs
        (extraOf (["type", "data", "children"] ++ k.names) fields)) :=
    readBranch_of_fields hdata hchildren hkind rfl
  have hdeclares := h.declares
  simp only [Node.branchTypes, List.mem_cons, List.not_mem_nil, or_false] at htype
  have htyped := h.typed
  rcases htype with rfl | rfl | rfl | rfl | rfl | rfl | rfl <;>
    simp only [Fields.Declares] at hdeclares <;> simp only [readFields, htyped]
  · -- root
    exact ⟨.root, rfl, hread .root rfl, by simp [BranchKind.names]⟩
  · -- heading
    obtain ⟨depth, hdepth⟩ := hdeclares
    have hvalue : required readDepth path fields "depth" = done depth :=
      required_of_get? hdepth fun path => readDepth_num path depth
    refine ⟨.heading depth, rfl, hread (.heading depth) (by rw [hvalue]; rfl), ?_⟩
    simp [BranchKind.names, BranchKind.fields, hdepth, Json.Same.refl]
  · -- paragraph
    exact ⟨.paragraph, rfl, hread .paragraph rfl, by simp [BranchKind.names]⟩
  · -- list
    obtain ⟨⟨ordered, hordered⟩, spread, hspread⟩ := hdeclares
    refine ⟨.list (some ordered) (some spread), rfl, hread (.list ..) ?_, ?_⟩
    · have horder : fields.get? "ordered" = (some ordered).map Json.bool := hordered
      have hspace : fields.get? "spread" = (some spread).map Json.bool := hspread
      rw [optional_boolean horder, optional_boolean hspace]
      rfl
    · simp [BranchKind.names, BranchKind.fields, hordered, hspread, Json.Same.refl]
  · -- item
    obtain ⟨⟨spread, hspread⟩, checked, hchecked⟩ := hdeclares
    refine ⟨.item (some spread) checked, rfl, hread (.item ..) ?_, ?_⟩
    · have hspace : fields.get? "spread" = (some spread).map Json.bool := hspread
      rw [optional_boolean hspace, optional_boolean hchecked, Option.or_none]
      rfl
    · simp [BranchKind.names, BranchKind.fields, hspread, hchecked, Json.Same.refl,
        Json.Same.rel_refl]
  · -- directive
    obtain ⟨⟨name, hname⟩, ⟨label, hlabel⟩, attributes, hattributes⟩ := hdeclares
    have hvalue : optional none readStringObject path fields "attributes" = done attributes := by
      rw [optional_of_get? hattributes readStrings_strings (fun _ => rfl), Option.or_none]
    refine ⟨.directive name label attributes, rfl, hread (.directive ..) ?_, ?_⟩
    · rw [required_string hname, optional_string hlabel, hvalue, Option.or_none]
      rfl
    · simp [BranchKind.names, BranchKind.fields, hname, hlabel, hattributes, Json.Same.refl,
        Json.Same.rel_refl]
  · -- element
    obtain ⟨⟨name, hname⟩, items, hitems, hall⟩ := hdeclares
    obtain ⟨attributes, hattributes, hsame⟩ :=
      readAttributesFrom_canonical hall (fieldAt path "attributes") 0
    have hvalue : withDefault [] readAttributes path fields "attributes" = done attributes := by
      rw [withDefault, hitems]
      exact hattributes
    refine ⟨.element name attributes, rfl, hread (.element ..) ?_, ?_⟩
    · rw [optional_string hname, hvalue, Option.or_none]
      rfl
    · simp [BranchKind.names, BranchKind.fields, hname, hitems, Json.Same.rel_refl,
        Json.Same.arr hsame]

/-- A literal is read with the kind that its type stands for. What is written for the kind is what
the payload says of it. -/
theorem readFields_canonical_literal {value : String} (path : List Step) (children : Children)
    (htype : type ∈ Node.literalTypes) (h : fields.IsNode type)
    (hdata : fields.get? "data" = data.map .obj)
    (hvalue : fields.get? "value" = some (.str value)) :
    ∃ kind : LiteralKind, kind.type = type ∧
      readFields path fields children = done (.literal kind data value
        (extraOf (["type", "data", "value"] ++ kind.names) fields)) ∧
      ∀ name ∈ kind.names,
        Option.Rel Json.Same (Fields.get? kind.fields name) (fields.get? name) := by
  have hread (k : LiteralKind) {kind : Reading LiteralKind} (hkind : kind = done k) :
      readLiteral path fields kind k.names = done (.literal k data value
        (extraOf (["type", "data", "value"] ++ k.names) fields)) :=
    readLiteral_of_fields hdata hvalue hkind rfl
  have hdeclares := h.declares
  have htyped := h.typed
  simp only [Node.literalTypes, List.mem_cons, List.not_mem_nil, or_false] at htype
  rcases htype with rfl | rfl | rfl | rfl | rfl <;>
    simp only [Fields.Declares] at hdeclares <;> simp only [readFields, htyped]
  · -- text
    exact ⟨.text, rfl, hread .text rfl, by simp [LiteralKind.names]⟩
  · -- code
    obtain ⟨⟨lang, hlang⟩, info, hinfo⟩ := hdeclares
    refine ⟨.code lang info, rfl, hread (.code ..) ?_, ?_⟩
    · rw [optional_string hlang, optional_string hinfo, Option.or_none, Option.or_none]
      rfl
    · simp [LiteralKind.names, LiteralKind.fields, hlang, hinfo, Json.Same.rel_refl]
  · -- inline code
    exact ⟨.inlineCode, rfl, hread .inlineCode rfl, by simp [LiteralKind.names]⟩
  · -- YAML
    exact ⟨.yaml, rfl, hread .yaml rfl, by simp [LiteralKind.names]⟩
  · -- TOML
    exact ⟨.toml, rfl, hread .toml rfl, by simp [LiteralKind.names]⟩

/-- A node of a type without a kind of its own is read as it is. -/
theorem readFields_canonical_other {nodes : Option (List Node)} (htype : type ∉ Node.kindTypes)
    (h : fields.IsNode type) (hdata : fields.get? "data" = data.map .obj)
    (hchildren : children.orNone path = done nodes) :
    readFields path fields children = done (.other type data ((fields.get? "value").getD .null)
      nodes (extraOf ["type", "data", "value", "children"] fields)) := by
  have hother : readFields path fields children = readOther path fields children := by
    unfold readFields
    rw [h.typed]
    split
    case h_13 => rfl
    all_goals
      rename_i heq
      cases heq
      exact absurd (by simp [Node.kindTypes]) htype
  rw [hother, readOther, required_string h.typed,
    optional_of_get? hdata (fun _ _ => rfl) (fun _ => rfl), Option.or_none, hchildren]
  rfl

end Kinds

/-! ## Nodes -/

/-- Children are read from the first field of that name. -/
theorem readChildren_of_get? {fields : Fields} {items : List Json}
    (h : fields.get? "children" = some (.arr items)) (path : List Step) (room : Nat) :
    readChildren path room fields = .nodes (readNodesFrom path room 0 items) := by
  induction fields with
  | nil => cases h
  | cons field rest ih =>
    obtain ⟨k, v⟩ := field
    rw [Fields.get?_cons] at h
    rw [readChildren]
    by_cases hk : k = "children"
    · rw [if_pos hk, Option.some.injEq] at h
      rw [if_pos hk, h, readChildrenField, readChildrenValue]
    · rw [if_neg hk] at h
      rw [if_neg hk, ih h]

theorem readChildren_of_get?_none {fields : Fields} (h : fields.get? "children" = none)
    (path : List Step) (room : Nat) : readChildren path room fields = .absent := by
  induction fields with
  | nil => rfl
  | cons field rest ih =>
    obtain ⟨k, v⟩ := field
    rw [Fields.get?_cons] at h
    by_cases hk : k = "children"
    · rw [if_pos hk] at h
      cases h
    · rw [if_neg hk] at h
      rw [readChildren, if_neg hk, ih h]

/-- Payloads of nodes one after the other, once each of them is known to survive. -/
theorem readNodesFrom_same {items : List Json} {room : Nat}
    (h : ∀ item ∈ items, ∀ path, ∃ node, readNode path room item = done node ∧
      node.toJson.Same item) (path : List Step) (i : Nat) :
    ∃ nodes, readNodesFrom path room i items = done nodes ∧
      List.Forall₂ Json.Same (Node.toJsonAll nodes) items := by
  induction items generalizing i with
  | nil => exact ⟨[], rfl, .nil⟩
  | cons item items ih =>
    obtain ⟨hitem, hitems⟩ := List.forall_mem_cons.mp h
    obtain ⟨node, hnode, hsame⟩ := hitem (path ++ [.index i])
    obtain ⟨nodes, hnodes, hall⟩ := ih hitems (i + 1)
    refine ⟨node :: nodes, ?_, .cons hsame hall⟩
    rw [readNodesFrom, hnode, hnodes]
    rfl

section Written

variable {fields : Fields} {data : Option Fields} {cs : List Node} {items : List Json}
  {type : String}

theorem fst_mem_of_fieldOf {α : Type} {name : String} {write : α → Json} {value : Option α}
    {names : List String} (h : name ∈ names) :
    ∀ field ∈ fieldOf name write value, field.1 ∈ names := by
  cases value <;> simp [fieldOf, h]

/-- What is written for a node that owns something under the name `key`, followed by the fields of
its kind, is the same as its payload if what it owns and the fields of its kind are. -/
theorem same_kind {key : String} {own value : Json} {kindFields : Fields} {names : List String}
    (h : fields.IsNode type) (hdata : fields.get? "data" = data.map .obj)
    (hkey : key ≠ "type" ∧ key ≠ "data") (hvalue : fields.get? key = some value)
    (hsame : own.Same value) (hmem : ∀ field ∈ kindFields, field.1 ∈ names)
    (hnames : ∀ name ∈ names, name ≠ "type" ∧ name ≠ "data" ∧ name ≠ key)
    (hkind : ∀ name ∈ names,
      Option.Rel Json.Same (Fields.get? kindFields name) (fields.get? name)) :
    Json.Same (.obj ([("type", .str type)] ++ fieldOf "data" .obj data ++ [(key, own)] ++
      kindFields ++ (extraOf (["type", "data", key] ++ names) fields).present)) (.obj fields) := by
  obtain ⟨hkeytype, hkeydata⟩ := hkey
  have hnone : ∀ name ∈ ["type", "data", key], Fields.get? kindFields name = none := by
    intro name hname
    refine get?_eq_none hmem fun hin => ?_
    have hown := hnames name hin
    simp_all
  -- The named fields are compared one by one, the extra ones all at once.
  refine Json.same_append (fun name hname => ?_) ?_ fun field hmem _ => h.present field hmem
  · rcases List.mem_append.mp hname with hname | hname
    · have hno := hnone name hname
      simp only [List.mem_cons, List.not_mem_nil, or_false] at hname
      rcases hname with rfl | rfl | rfl
      · simp [h.typed, Json.Same.refl]
      · simp [hdata, hno, hkeydata, Json.Same.rel_refl]
      · simp [hvalue, Ne.symm hkeytype, Ne.symm hkeydata, hsame]
    · obtain ⟨htype, hdata, hkey⟩ := hnames name hname
      simpa [Ne.symm htype, Ne.symm hdata, Ne.symm hkey] using hkind name hname
  · simp only [List.forall_mem_append]
    refine ⟨⟨⟨by simp, fst_mem_of_fieldOf (by simp)⟩, by simp⟩, fun field hfield => ?_⟩
    exact List.mem_append_right _ (hmem field hfield)

/-- A value that is there is written, as it is not null. -/
theorem valueField_getD (hpresent : ∀ field ∈ fields, field.2.isNull = false) :
    valueField ((fields.get? "value").getD .null) =
      fieldOf "value" (fun value => value) (fields.get? "value") := by
  cases hvalue : fields.get? "value" with
  | none => rfl
  | some value =>
    have hnull : value.isNull = false := hpresent _ (Fields.mem_of_get? hvalue)
    cases value <;> first | rfl | cases hnull

/-- What is written for a node without a kind of its own is the same as its payload, if this holds
of the children that it may have. -/
theorem same_other {nodes : Option (List Node)} (h : fields.IsNode type)
    (hdata : fields.get? "data" = data.map .obj)
    (hnodes : Option.Rel Json.Same (nodes.map fun cs => .arr (Node.toJsonAll cs))
      (fields.get? "children")) :
    Json.Same (Node.toJson (.other type data ((fields.get? "value").getD .null) nodes
      (extraOf ["type", "data", "value", "children"] fields))) (.obj fields) := by
  have hwritten : Node.toJson (.other type data ((fields.get? "value").getD .null) nodes
      (extraOf ["type", "data", "value", "children"] fields)) =
      .obj ([("type", .str type)] ++ fieldOf "data" .obj data ++
        fieldOf "value" (fun value => value) (fields.get? "value") ++
        fieldOf "children" (fun cs => .arr (Node.toJsonAll cs)) nodes ++
        (extraOf ["type", "data", "value", "children"] fields).present) := by
    rw [← valueField_getD h.present]
    cases nodes <;> simp [Node.toJson, fieldOf]
  rw [hwritten]
  refine Json.same_append (fun name hname => ?_) ?_ fun field hmem _ => h.present field hmem
  · simp only [List.mem_cons, List.not_mem_nil, or_false] at hname
    rcases hname with rfl | rfl | rfl | rfl
    · simp [h.typed, Json.Same.refl]
    · simp [hdata, Json.Same.rel_refl]
    · simp [Json.Same.rel_refl]
    · simpa using hnodes
  · simp only [List.forall_mem_append]
    exact ⟨⟨⟨by simp, fst_mem_of_fieldOf (by simp)⟩, fst_mem_of_fieldOf (by simp)⟩,
      fst_mem_of_fieldOf (by simp)⟩

end Written

/-- A canonical payload is read wherever there is room for it, and what is written for its node is
the same. -/
theorem readNode_canonical {room : Nat} {payload : Json} (h : payload.Canonical room) :
    ∀ path, ∃ node, readNode path room payload = done node ∧ node.toJson.Same payload := by
  -- The induction is on how the payload is canonical, so each case knows the shape of the fields.
  induction h with
  | @branch room type fields items htype hnode hitems _ ih =>
    intro path
    obtain ⟨data, hdata⟩ := hnode.data
    obtain ⟨nodes, hnodes, hsame⟩ :=
      readNodesFrom_same ih (fieldAt (fieldAt path (modelName fields)) "children") 0
    have hchildren : (Children.nodes (done nodes)).orEmpty (fieldAt path (modelName fields)) =
        done nodes := rfl
    obtain ⟨kind, rfl, hread, hkind⟩ := readFields_canonical_branch htype hnode hdata hchildren
    have hbranch : readNode path (room + 1) (.obj fields) = done (.branch kind data nodes
        (extraOf (["type", "data", "children"] ++ kind.names) fields)) := by
      rw [readNode, readChildren_of_get? hitems, hnodes, hread]
    refine ⟨_, hbranch, ?_⟩
    rw [Node.toJson]
    exact same_kind hnode hdata (by decide) hitems (.arr hsame) kind.fst_mem_names
      kind.names_own hkind
  | @literal room type fields htype hnode hvalue =>
    intro path
    obtain ⟨data, hdata⟩ := hnode.data
    obtain ⟨value, hvalue⟩ := hvalue
    obtain ⟨kind, rfl, hread, hkind⟩ := readFields_canonical_literal
      (fieldAt path (modelName fields)) _ htype hnode hdata hvalue
    refine ⟨_, hread, ?_⟩
    rw [Node.toJson]
    exact same_kind hnode hdata (by decide) hvalue (.refl _) kind.fst_mem_names kind.names_own hkind
  | @parent room type fields items htype hnode hitems _ ih =>
    intro path
    obtain ⟨data, hdata⟩ := hnode.data
    obtain ⟨nodes, hnodes, hsame⟩ :=
      readNodesFrom_same ih (fieldAt (fieldAt path (modelName fields)) "children") 0
    refine ⟨.other type data ((fields.get? "value").getD .null) (some nodes)
      (extraOf ["type", "data", "value", "children"] fields), ?_, same_other hnode hdata ?_⟩
    · rw [readNode, readChildren_of_get? hitems, hnodes]
      exact readFields_canonical_other htype hnode hdata rfl
    · rw [hitems]
      exact .some (.arr hsame)
  | @leaf room type fields htype hnode hitems =>
    intro path
    obtain ⟨data, hdata⟩ := hnode.data
    refine ⟨.other type data ((fields.get? "value").getD .null) none
      (extraOf ["type", "data", "value", "children"] fields), ?_, same_other hnode hdata ?_⟩
    · rw [readNode, readChildren_of_get?_none hitems]
      exact readFields_canonical_other htype hnode hdata rfl
    · rw [hitems]
      exact .none

/-! ## Room -/

section Room

variable {path : List Step} {room : Nat} {fields : Fields} {node : Node}

/-- A node is read only where there is room for it, and the fields have the room below it. -/
theorem exists_room_of_readNode (h : readNode path room (.obj fields) = done node) :
    ∃ below, room = below + 1 ∧ readFields (fieldAt path (modelName fields)) fields
      (readChildren (fieldAt (fieldAt path (modelName fields)) "children") below fields) =
        done node := by
  cases room with
  | zero => cases h
  | succ below => exact ⟨below, rfl, h⟩

/-- A node that may have children is read only if its children are. -/
theorem exists_nodes_of_readFields {reading : Reading (List Node)} {type : String}
    (htyped : fields.get? "type" = some (.str type)) (htype : type ∉ Node.literalTypes)
    (h : readFields path fields (.nodes reading) = done node) :
    ∃ nodes, reading = done nodes := by
  have hbranch {kind : Reading BranchKind} {names : List String}
      (h : readBranch path fields (.nodes reading) kind names = done node) :
      ∃ nodes, reading = done nodes := by
    obtain ⟨_, _, hfirst, -, -⟩ := seq_eq_done.mp h
    obtain ⟨_, nodes, -, hnodes, -⟩ := seq_eq_done.mp hfirst
    exact ⟨nodes, hnodes⟩
  unfold readFields at h
  rw [htyped] at h
  split at h
  case h_13 =>
    obtain ⟨_, _, -, hnodes, -⟩ := seq_eq_done.mp h
    obtain ⟨nodes, hnodes, -⟩ := map_eq_done.mp hnodes
    exact ⟨nodes, hnodes⟩
  all_goals
    first
    | exact hbranch h
    | rename_i heq
      cases heq
      exact absurd (by simp [Node.literalTypes]) htype

theorem exists_of_readNodesFrom {items : List Json} {i : Nat} {nodes : List Node}
    (h : readNodesFrom path room i items = done nodes) :
    ∀ item ∈ items, ∃ path node, readNode path room item = done node := by
  induction items generalizing i nodes with
  | nil => simp
  | cons item items ih =>
    obtain ⟨node, rest, hnode, hrest, -⟩ := both_eq_done.mp h
    exact List.forall_mem_cons.mpr ⟨⟨_, node, hnode⟩, ih hrest⟩

/-- A canonical payload that is read fits in the room of the reader. -/
theorem canonical_of_readNode {nesting : Nat} {payload : Json} (h : payload.Canonical nesting)
    (hread : readNode path room payload = done node) : payload.Canonical room := by
  -- A node that is read was read with room, so the room takes the part of the nesting.
  induction h generalizing path room node with
  | @branch _ type fields items htype hnode hitems _ ih =>
    obtain ⟨below, rfl, hfields⟩ := exists_room_of_readNode hread
    rw [readChildren_of_get? hitems] at hfields
    have hkind : type ∉ Node.literalTypes := by
      simp only [Node.branchTypes, List.mem_cons, List.not_mem_nil, or_false] at htype
      rcases htype with rfl | rfl | rfl | rfl | rfl | rfl | rfl <;> decide
    obtain ⟨nodes, hnodes⟩ := exists_nodes_of_readFields hnode.typed hkind hfields
    refine .branch htype hnode hitems fun item hitem => ?_
    obtain ⟨_, _, hitemRead⟩ := exists_of_readNodesFrom hnodes item hitem
    exact ih item hitem hitemRead
  | literal htype hnode hvalue =>
    obtain ⟨below, rfl, -⟩ := exists_room_of_readNode hread
    exact .literal htype hnode hvalue
  | @parent _ type fields items htype hnode hitems _ ih =>
    obtain ⟨below, rfl, hfields⟩ := exists_room_of_readNode hread
    rw [readChildren_of_get? hitems] at hfields
    have hkind : type ∉ Node.literalTypes := by
      refine fun hmem => htype ?_
      simp only [Node.literalTypes, List.mem_cons, List.not_mem_nil, or_false] at hmem
      rcases hmem with rfl | rfl | rfl | rfl | rfl <;> decide
    obtain ⟨nodes, hnodes⟩ := exists_nodes_of_readFields hnode.typed hkind hfields
    refine .parent htype hnode hitems fun item hitem => ?_
    obtain ⟨_, _, hitemRead⟩ := exists_of_readNodesFrom hnodes item hitem
    exact ih item hitem hitemRead
  | leaf htype hnode hitems =>
    obtain ⟨below, rfl, -⟩ := exists_room_of_readNode hread
    exact .leaf htype hnode hitems

/-- A reader takes the canonical payloads that it has room for, and no others. -/
theorem readNode_canonical_iff {nesting : Nat} {payload : Json} (h : payload.Canonical nesting) :
    (∃ node, readNode path room payload = done node) ↔ payload.Canonical room := by
  constructor
  · rintro ⟨node, hread⟩
    exact canonical_of_readNode h hread
  · intro hroom
    obtain ⟨node, hread, -⟩ := readNode_canonical hroom path
    exact ⟨node, hread⟩

end Room

/-! ## Reading and writing -/

/-- A root with its fields in an unusual order, an element with a flag, and a node of an unknown
type. There are nulls in the data of the root, in the position of the flag and in the value of the
unknown node. -/
def Node.flaggedPayload : Json :=
  .obj [("children", .arr [
      .obj [("type", .str "mdxJsxFlowElement"), ("name", .str "Hint"), ("children", .arr []),
        ("attributes", .arr [.obj [("value", .null), ("name", .str "open"),
          ("position", .arr [.null]), ("type", .str "mdxJsxAttribute")]])],
      .obj [("value", .arr [.null, .num 1]), ("type", .str "math"), ("note", .str "x")]]),
    ("data", .obj [("draft", .null)]), ("position", .num 3), ("type", .str "root")]

/-- Objects inside one another, `depth` of them around the innermost one. -/
def Json.burrow : Nat → Json
  | 0 => .obj []
  | depth + 1 => .obj [("a", burrow depth)]

theorem Json.levels_burrow (depth : Nat) : (Json.burrow depth).levels = depth + 1 := by
  induction depth with
  | zero => rfl
  | succ depth ih => simp [Json.burrow, Json.levels, Json.levelsFields, Json.levelsField, ih]

/-- A paragraph whose data are objects inside one another. -/
def Node.burrowPayload (depth : Nat) : Json :=
  .obj [("type", .str "paragraph"), ("children", .arr []),
    ("data", .obj [("a", Json.burrow depth)])]

end Quizmark
