import Quizmark.Proofs.Node.Written

/-!
# Nodes as a reader leaves them

A reader keeps what it knows of a payload apart from what it does not know. So the extra fields of a
node never hide a field that its kind names, and a node without a kind of its own never has a type
that stands for one. Extra fields that are null are kept by a reader and dropped by a writer.

* `Fields.IsExtra names`: no field is null or has one of `names`.
* `Node.IsReadable`: the node by itself, without its children, is as a reader of what was written
  leaves it.
* `Node.IsRead`: what a reader gives, with room for so many nested nodes: nodes that are readable
  once null fields are dropped, and that fit in the room.
* `readNode_isRead`: what a reader gives is so.
-/

namespace Quizmark

/-! ## Fields -/

namespace Fields

@[simp] theorem get?_nil (key : String) : get? [] key = none := rfl

@[simp] theorem get?_cons (k key : String) (v : Json) (rest : Fields) :
    get? ((k, v) :: rest) key = if k = key then some v else get? rest key := rfl

@[simp] theorem get?_append (xs ys : Fields) (key : String) :
    get? (xs ++ ys) key = (get? xs key).or (get? ys key) := by
  induction xs with
  | nil => rfl
  | cons field xs ih =>
    obtain ⟨k, v⟩ := field
    rw [List.cons_append, get?_cons, get?_cons, ih]
    split <;> rfl

@[simp] theorem get?_fieldOf {α : Type} (name key : String) (write : α → Json) (value : Option α) :
    get? (fieldOf name write value) key = if name = key then value.map write else none := by
  cases value <;> simp [fieldOf]

/-- The fields are extra ones beside `names`: none is null, and none has one of the names. -/
def IsExtra (names : List String) (fields : Fields) : Prop :=
  ∀ field ∈ fields, field.1 ∉ names ∧ field.2.isNull = false

variable {names : List String} {fields : Fields}

@[simp] theorem isExtra_nil : IsExtra names [] := by simp [IsExtra]

@[simp] theorem isExtra_cons {k : String} {v : Json} :
    IsExtra names ((k, v) :: fields) ↔ (k ∉ names ∧ v.isNull = false) ∧ IsExtra names fields := by
  simp [IsExtra]

/-- A null field is dropped, so its name does not matter. -/
@[simp] theorem isExtra_present_cons {k : String} {v : Json} :
    IsExtra names (present ((k, v) :: fields)) ↔
      (v.isNull = false → k ∉ names) ∧ IsExtra names fields.present := by
  cases hv : v.isNull <;> simp [present, hv]

theorem IsExtra.mono {fewer : List String} (h : IsExtra names fields) (hsub : fewer ⊆ names) :
    IsExtra fewer fields :=
  fun field hmem => ⟨fun hname => (h field hmem).1 (hsub hname), (h field hmem).2⟩

theorem IsExtra.get?_eq_none (h : IsExtra names fields) {name : String} (hname : name ∈ names) :
    get? fields name = none := by
  induction fields with
  | nil => rfl
  | cons field rest ih =>
    obtain ⟨k, v⟩ := field
    obtain ⟨hfield, hrest⟩ := isExtra_cons.mp h
    have hne : k ≠ name := fun hk => hfield.1 (hk ▸ hname)
    rw [get?_cons, if_neg hne, ih hrest]

theorem isExtra_extraOf (names : List String) (fields : Fields) :
    IsExtra names (extraOf names fields).present := by
  intro field hmem
  obtain ⟨hwithout, hnull⟩ := List.mem_filter.mp hmem
  obtain ⟨-, hname⟩ := List.mem_filter.mp hwithout
  simp only [Bool.not_eq_true', List.contains_eq_mem, decide_eq_false_iff_not] at hname hnull
  exact ⟨hname, hnull⟩

@[simp] theorem extraOf_append (names : List String) (xs ys : Fields) :
    extraOf names (xs ++ ys) = extraOf names xs ++ extraOf names ys := by
  simp [extraOf, without]

@[simp] theorem extraOf_nil (names : List String) : extraOf names [] = [] := rfl

@[simp] theorem extraOf_cons_of_mem {k : String} (h : k ∈ names) (v : Json) :
    extraOf names ((k, v) :: fields) = extraOf names fields := by
  simp [extraOf, without, h]

@[simp] theorem extraOf_fieldOf {α : Type} {name : String} (h : name ∈ names) (write : α → Json)
    (value : Option α) : extraOf names (fieldOf name write value) = [] := by
  cases value <;> simp [fieldOf, h]

/-- A reader of extra fields keeps all of them. -/
theorem IsExtra.extraOf_eq (h : IsExtra names fields) : extraOf names fields = fields := by
  refine List.filter_eq_self.mpr fun field hmem => ?_
  simpa using (h field hmem).1

/-- A writer of extra fields writes all of them. -/
theorem IsExtra.present_eq (h : IsExtra names fields) : fields.present = fields :=
  Fields.present_eq fun field hmem => (h field hmem).2

end Fields

/-! ## Readings -/

namespace Reading

variable {α β γ : Type}

@[simp] theorem map_done (f : α → β) (a : α) : f <$> done a = done (f a) := rfl

@[simp] theorem seq_done (f : α → β) (a : α) : done f <*> done a = done (f a) := rfl

theorem both_eq_done {f : α → β → γ} {first : Reading α} {second : Reading β} {result : γ} :
    both f first second = done result ↔
      ∃ a b, first = done a ∧ second = done b ∧ f a b = result := by
  cases first <;> cases second <;> simp [both]

theorem map_eq_done {f : α → β} {reading : Reading α} {result : β} :
    f <$> reading = done result ↔ ∃ a, reading = done a ∧ f a = result := by
  cases reading <;> simp [Functor.map, map]

theorem seq_eq_done {f : Reading (α → β)} {reading : Reading α} {result : β} :
    f <*> reading = done result ↔ ∃ g a, f = done g ∧ reading = done a ∧ g a = result := by
  cases f <;> cases reading <;> simp [Seq.seq, both]

theorem toExcept_eq_ok {reading : Reading α} {a : α} :
    reading.toExcept = .ok a ↔ reading = done a := by
  cases reading <;> simp [toExcept]

end Reading

open Reading

/-! ## Readable nodes -/

/-- The attribute is as a reader leaves it. -/
def Attribute.IsReadable (attr : Attribute) : Prop := attr.extra.IsExtra ["type", "name", "value"]

/-- The fields that a branch kind names. -/
def BranchKind.names : BranchKind → List String
  | root | paragraph => []
  | heading _ => ["depth"]
  | list .. => ["ordered", "spread"]
  | item .. => ["spread", "checked"]
  | directive .. => ["name", "label", "attributes"]
  | element .. => ["name", "attributes"]

@[simp] theorem BranchKind.names_tidy (kind : BranchKind) : kind.tidy.names = kind.names := by
  cases kind <;> rfl

/-- The branch kind is as a reader leaves it. -/
def BranchKind.IsReadable : BranchKind → Prop
  | element _ attributes => ∀ attr ∈ attributes, attr.IsReadable
  | _ => True

/-- An element is readable if its attributes have no extra fields. -/
theorem BranchKind.isReadable_element {name : Option String} {attributes : List Attribute}
    (h : ∀ attr ∈ attributes, attr.extra = []) : (element name attributes).tidy.IsReadable := by
  intro attr hattr
  obtain ⟨before, hbefore, rfl⟩ := List.mem_map.mp hattr
  rw [Attribute.IsReadable, Attribute.tidy, h before hbefore]
  exact Fields.isExtra_nil

/-- The fields that a literal kind names. -/
def LiteralKind.names : LiteralKind → List String
  | code .. => ["lang", "meta"]
  | text | inlineCode | yaml | toml => []

namespace Node

/-- The types that stand for a kind. -/
def kindTypes : List String :=
  ["root", "heading", "paragraph", "list", "listItem", "containerDirective", "mdxJsxFlowElement",
    "text", "code", "inlineCode", "yaml", "toml"]

/-- The node by itself, without its children, is as a reader of what was written leaves it. -/
def IsReadable : Node → Prop
  | branch kind _ _ extra =>
    kind.IsReadable ∧ extra.IsExtra (["type", "data", "children"] ++ kind.names)
  | literal kind _ _ extra => extra.IsExtra (["type", "data", "value"] ++ kind.names)
  | other type _ _ _ extra =>
    type ∉ kindTypes ∧ extra.IsExtra ["type", "data", "value", "children"]

/-- The nodes are readable once null fields are dropped, and no more than `room` of them are nested
in one another. -/
structure IsRead (room : Nat) (nodes : List Node) : Prop where
  readable : All IsReadable (nodes.map tidy)
  fits : heightAll nodes ≤ room

theorem isRead_nil (room : Nat) : IsRead room [] := ⟨by simp, by simp [heightAll]⟩

theorem isRead_cons {room : Nat} {node : Node} {rest : List Node} :
    IsRead room (node :: rest) ↔ IsRead room [node] ∧ IsRead room rest := by
  constructor
  · rintro ⟨hreadable, hfits⟩
    obtain ⟨hnode, hrest⟩ := all_cons.mp hreadable
    simp only [heightAll] at hfits
    exact ⟨⟨hnode, by simp only [heightAll]; omega⟩, hrest, by omega⟩
  · rintro ⟨⟨hnode, hhere⟩, hrest, hthere⟩
    simp only [heightAll] at hhere
    exact ⟨all_cons.mpr ⟨hnode, hrest⟩, by simp only [heightAll]; omega⟩

end Node

/-! ## What a reader gives -/

theorem isReadable_of_readAttribute {path : List Step} {value : Json} {attr : Attribute}
    (h : readAttribute path value = done attr) : attr.tidy.IsReadable := by
  unfold readAttribute at h
  split at h
  · obtain ⟨_, _, hfirst, -, rfl⟩ := seq_eq_done.mp h
    obtain ⟨_, _, hsecond, -, rfl⟩ := seq_eq_done.mp hfirst
    obtain ⟨_, -, rfl⟩ := map_eq_done.mp hsecond
    exact Fields.isExtra_extraOf _ _
  · cases h

theorem isReadable_of_readAttributesFrom {path : List Step} {i : Nat} {values : List Json}
    {attrs : List Attribute} (h : readAttributesFrom path i values = done attrs) :
    ∀ attr ∈ attrs, attr.tidy.IsReadable := by
  induction values generalizing i attrs with
  | nil =>
    cases h
    simp
  | cons value values ih =>
    obtain ⟨attr, rest, hattr, hrest, rfl⟩ := both_eq_done.mp h
    intro a ha
    rcases List.mem_cons.mp ha with rfl | ha
    · exact isReadable_of_readAttribute hattr
    · exact ih hrest a ha

theorem isReadable_of_readAttributes {path : List Step} {value : Json} {attrs : List Attribute}
    (h : readAttributes path value = done attrs) : ∀ attr ∈ attrs, attr.tidy.IsReadable := by
  unfold readAttributes at h
  split at h
  · exact isReadable_of_readAttributesFrom h
  · cases h

section Fields

variable {path : List Step} {room : Nat} {fields : Fields} {children : Children} {node : Node}

/-- The children that are there are read with this room. -/
def Children.IsRead (room : Nat) (children : Children) : Prop :=
  ∀ nodes, children = .nodes (done nodes) → Node.IsRead room nodes

theorem Children.IsRead.orEmpty {nodes : List Node} (hchildren : children.IsRead room)
    (h : children.orEmpty path = done nodes) : Node.IsRead room nodes := by
  cases children with
  | absent =>
    cases h
    exact Node.isRead_nil room
  | null => cases h
  | notList => cases h
  | nodes reading => exact hchildren nodes (congrArg _ h)

theorem Children.IsRead.orNone {nodes : List Node} (hchildren : children.IsRead room)
    (h : children.orNone path = done (some nodes)) : Node.IsRead room nodes := by
  cases children with
  | absent => cases h
  | null => cases h
  | notList => cases h
  | nodes reading =>
    obtain ⟨nodes', hnodes, hsome⟩ := map_eq_done.mp h
    cases hsome
    exact hchildren nodes (congrArg _ hnodes)

/-- A branch is read if its kind and its children are, and takes one more room than they. -/
theorem isRead_of_readBranch {kind : Reading BranchKind} {names : List String}
    (hchildren : children.IsRead room)
    (hkind : ∀ k, kind = done k → k.tidy.IsReadable ∧ k.names = names)
    (h : readBranch path fields children kind names = done node) :
    Node.IsRead (room + 1) [node] := by
  obtain ⟨_, k, hfirst, hk, rfl⟩ := seq_eq_done.mp h
  obtain ⟨_, nodes, hsecond, hnodes, rfl⟩ := seq_eq_done.mp hfirst
  obtain ⟨data, -, rfl⟩ := map_eq_done.mp hsecond
  obtain ⟨hreadable, rfl⟩ := hkind k hk
  obtain ⟨hbelow, hfits⟩ := hchildren.orEmpty hnodes
  refine ⟨?_, by simpa [Node.heightAll, Node.height] using hfits⟩
  rw [List.map_singleton, Node.tidy, Node.tidyAll_eq_map, Node.all_branch, Node.IsReadable,
    BranchKind.names_tidy]
  exact ⟨⟨hreadable, Fields.isExtra_extraOf _ _⟩, hbelow⟩

theorem isRead_of_readLiteral {kind : Reading LiteralKind} {names : List String}
    (hkind : ∀ k, kind = done k → k.names = names)
    (h : readLiteral path fields kind names = done node) : Node.IsRead (room + 1) [node] := by
  obtain ⟨_, k, hfirst, hk, rfl⟩ := seq_eq_done.mp h
  obtain ⟨_, value, hsecond, -, rfl⟩ := seq_eq_done.mp hfirst
  obtain ⟨data, -, rfl⟩ := map_eq_done.mp hsecond
  obtain rfl := hkind k hk
  exact ⟨Node.all_literal.mpr (Fields.isExtra_extraOf _ _), by simp [Node.heightAll, Node.height]⟩

/-- A node of an unknown type keeps that type. -/
theorem isRead_of_readOther (hchildren : children.IsRead room)
    (htype : ∀ type ∈ Node.kindTypes, fields.get? "type" ≠ some (.str type))
    (h : readOther path fields children = done node) : Node.IsRead (room + 1) [node] := by
  obtain ⟨_, nodes, hfirst, hnodes, rfl⟩ := seq_eq_done.mp h
  obtain ⟨_, data, hsecond, -, rfl⟩ := seq_eq_done.mp hfirst
  obtain ⟨type, hread, rfl⟩ := map_eq_done.mp hsecond
  -- The type that was read is the one in the payload.
  have hnot : type ∉ Node.kindTypes := by
    intro hmem
    refine htype type hmem ?_
    unfold required at hread
    split at hread
    · cases hread
    · rename_i value hvalue
      cases value with
      | str s =>
        cases hread
        exact hvalue
      | _ => cases hread
  cases nodes with
  | none =>
    exact ⟨Node.all_leaf.mpr ⟨hnot, Fields.isExtra_extraOf _ _⟩,
      by simp [Node.heightAll, Node.height]⟩
  | some nodes =>
    obtain ⟨hbelow, hfits⟩ := hchildren.orNone hnodes
    refine ⟨?_, by simpa [Node.heightAll, Node.height] using hfits⟩
    simpa [Node.tidy] using ⟨⟨hnot, Fields.isExtra_extraOf _ _⟩, hbelow⟩

/-- Each type names its own fields, and the rest is extra. -/
theorem isRead_of_readFields (hchildren : children.IsRead room)
    (h : readFields path fields children = done node) : Node.IsRead (room + 1) [node] := by
  unfold readFields at h
  split at h
  · -- root
    refine isRead_of_readBranch hchildren (fun k hk => ?_) h
    cases hk
    exact ⟨trivial, rfl⟩
  · -- heading
    refine isRead_of_readBranch hchildren (fun k hk => ?_) h
    obtain ⟨depth, -, rfl⟩ := map_eq_done.mp hk
    exact ⟨trivial, rfl⟩
  · -- paragraph
    refine isRead_of_readBranch hchildren (fun k hk => ?_) h
    cases hk
    exact ⟨trivial, rfl⟩
  · -- list
    refine isRead_of_readBranch hchildren (fun k hk => ?_) h
    obtain ⟨_, spread, hfirst, -, rfl⟩ := seq_eq_done.mp hk
    obtain ⟨ordered, -, rfl⟩ := map_eq_done.mp hfirst
    exact ⟨trivial, rfl⟩
  · -- item
    refine isRead_of_readBranch hchildren (fun k hk => ?_) h
    obtain ⟨_, checked, hfirst, -, rfl⟩ := seq_eq_done.mp hk
    obtain ⟨spread, -, rfl⟩ := map_eq_done.mp hfirst
    exact ⟨trivial, rfl⟩
  · -- directive
    refine isRead_of_readBranch hchildren (fun k hk => ?_) h
    obtain ⟨_, attributes, hfirst, -, rfl⟩ := seq_eq_done.mp hk
    obtain ⟨_, label, hsecond, -, rfl⟩ := seq_eq_done.mp hfirst
    obtain ⟨name, -, rfl⟩ := map_eq_done.mp hsecond
    exact ⟨trivial, rfl⟩
  · -- element
    refine isRead_of_readBranch hchildren (fun k hk => ?_) h
    obtain ⟨_, attributes, hfirst, hattributes, rfl⟩ := seq_eq_done.mp hk
    obtain ⟨name, -, rfl⟩ := map_eq_done.mp hfirst
    refine ⟨?_, rfl⟩
    unfold withDefault at hattributes
    split at hattributes
    · cases hattributes
      simp [BranchKind.tidy, BranchKind.IsReadable]
    · have hreadable := isReadable_of_readAttributes hattributes
      simpa [BranchKind.tidy, BranchKind.IsReadable] using hreadable
  · -- text
    refine isRead_of_readLiteral (fun k hk => ?_) h
    cases hk
    rfl
  · -- code
    refine isRead_of_readLiteral (fun k hk => ?_) h
    obtain ⟨_, info, hfirst, -, rfl⟩ := seq_eq_done.mp hk
    obtain ⟨lang, -, rfl⟩ := map_eq_done.mp hfirst
    rfl
  · -- inline code
    refine isRead_of_readLiteral (fun k hk => ?_) h
    cases hk
    rfl
  · -- YAML
    refine isRead_of_readLiteral (fun k hk => ?_) h
    cases hk
    rfl
  · -- TOML
    refine isRead_of_readLiteral (fun k hk => ?_) h
    cases hk
    rfl
  · -- any other type
    refine isRead_of_readOther hchildren (fun type htype => ?_) h
    simp only [Node.kindTypes, List.mem_cons, List.not_mem_nil, or_false] at htype
    rcases htype with rfl | rfl | rfl | rfl | rfl | rfl | rfl | rfl | rfl | rfl | rfl | rfl <;>
      assumption

end Fields

/-- **What a reader gives** is readable once null fields are dropped, and fits in the room that the
reader has. -/
theorem readNode_isRead {path : List Step} {room : Nat} {payload : Json} {node : Node}
    (h : readNode path room payload = done node) : Node.IsRead room [node] := by
  -- The children are read from the first field of that name, so there is a claim for each layer.
  refine readNode.induct
    (motive_1 := fun path room payload => ∀ node, readNode path room payload = done node →
      Node.IsRead room [node])
    (motive_2 := fun path room fields => (readChildren path room fields).IsRead room)
    (motive_3 := fun path room field => (readChildrenField path room field).IsRead room)
    (motive_4 := fun path room value => (readChildrenValue path room value).IsRead room)
    (motive_5 := fun path room i items => ∀ nodes, readNodesFrom path room i items = done nodes →
      Node.IsRead room nodes)
    ?full ?object ?noObject ?array ?null ?noArray ?noItems ?items ?noFields ?found ?skipped ?field
    path room payload node h
  case full =>
    intro path fields node h
    cases h
  case object =>
    intro path fields here room ih node h
    rw [readNode] at h
    exact isRead_of_readFields ih h
  case noObject =>
    intro payload path room hno node h
    cases payload with
    | obj fields => exact absurd rfl (hno fields)
    | _ => cases h
  case array =>
    intro path room items ih nodes h
    rw [readChildrenValue, Children.nodes.injEq] at h
    exact ih nodes h
  case null =>
    intro path room nodes h
    cases h
  case noArray =>
    intro value path room hno _ nodes h
    cases value with
    | arr items => exact absurd rfl (hno items)
    | _ => cases h
  case noItems =>
    intro path room i nodes h
    cases h
    exact Node.isRead_nil room
  case items =>
    intro path room i value rest ihv ihr nodes h
    obtain ⟨node, others, hnode, hothers, rfl⟩ := both_eq_done.mp h
    exact Node.isRead_cons.mpr ⟨ihv node hnode, ihr others hothers⟩
  case noFields =>
    intro path room nodes h
    cases h
  case found =>
    intro path room field rest hname ih
    rwa [readChildren, if_pos hname]
  case skipped =>
    intro path room field rest hname ih
    rwa [readChildren, if_neg hname]
  case field =>
    intro path room name value ih
    rwa [readChildrenField]

end Quizmark
