import Quizmark.Proofs.Node.Readable

/-!
# Reading what was written

A payload leaves out what is null, and a reader takes the default of what is left out. The flags of
lists and list items are the only fields that may be null and have another default; they come back
as `false`.

* `Flags.edit`: the edit that sets every such flag.
* `Node.readNode_toJson`, `Node.rootOfJson_toJson`: a readable node that fits in the room of the
  reader comes back from its payload with this edit, and so does a document.
* `Node.toJson_edit_flags`: the edit shows in the payload exactly if a flag is null.
* `Node.roundTrip_settles`: what one round trip changes in the payload of a node that was read, and
  that a second one changes nothing.
-/

namespace Quizmark

open Reading

/-! ## Flags -/

/-- The kind with the default in the place of every flag that is null. -/
def BranchKind.withFlags : BranchKind → BranchKind
  | list ordered spread => list (some (ordered.getD false)) (some (spread.getD false))
  | item spread checked => item (some (spread.getD false)) checked
  | kind => kind

/-- The edit that sets every flag that is null to its default. -/
def Flags.edit : Edit where
  kind := BranchKind.withFlags

/-! ## Fields -/

section Fields

variable {α : Type} {path : List Step} {fields : Fields} {name : String}

theorem required_of_get? {read : List Step → Json → Reading α} {value : Json} {a : α}
    (hget : fields.get? name = some value) (hread : ∀ path, read path value = done a) :
    required read path fields name = done a := by
  rw [required, hget]
  exact hread _

theorem withDefault_of_get? {default : α} {read : List Step → Json → Reading α} {value : Json}
    {a : α} (hget : fields.get? name = some value) (hread : ∀ path, read path value = done a) :
    withDefault default read path fields name = done a := by
  rw [withDefault, hget]
  exact hread _

/-- A field that is left out where it is null comes back with its default. -/
theorem optional_of_get? {default value : Option α} {read : List Step → Json → Reading α}
    {write : α → Json} (hget : fields.get? name = value.map write)
    (hread : ∀ path a, read path (write a) = done a) (hnull : ∀ a, (write a).isNull = false) :
    optional default read path fields name = done (value.or default) := by
  cases value with
  | none => simp [optional, hget]
  | some a =>
    have hread := hread (fieldAt path name) a
    have hnull := hnull a
    rw [Option.map_some] at hget
    unfold optional
    rw [hget]
    cases hwrite : write a with
    | null => simp [hwrite, Json.isNull] at hnull
    | _ => simp [← hwrite, hread, Reading.map]

theorem optional_string {default value : Option String} (hget : fields.get? name = value.map .str) :
    optional default readString path fields name = done (value.or default) :=
  optional_of_get? hget (fun _ _ => rfl) fun _ => rfl

theorem optional_boolean {default value : Option Bool} (hget : fields.get? name = value.map .bool) :
    optional default readBoolean path fields name = done (value.or default) :=
  optional_of_get? hget (fun _ _ => rfl) fun _ => rfl

theorem required_string {value : String} (hget : fields.get? name = some (.str value)) :
    required readString path fields name = done value := required_of_get? hget fun _ => rfl

theorem readDepth_num (path : List Step) (depth : Depth) :
    readDepth path (.num depth.val) = done depth := by
  have hdepth : Depth.ofNat? depth.val = some depth := dif_pos ⟨depth.one_le, depth.le_six⟩
  have hpos : ¬ (depth.val : Int) < 1 := by have := depth.one_le; omega
  simp [readDepth, readInteger, hpos, hdepth]

theorem readStrings_strings (path : List Step) (pairs : List (String × String)) :
    readStrings path (pairs.map fun p => (p.1, .str p.2)) = done pairs := by
  induction pairs with
  | nil => rfl
  | cons pair pairs ih =>
    rw [List.map_cons, readStrings, ih]
    rfl

theorem readAttribute_toJson {attr : Attribute} (h : attr.IsReadable) (path : List Step) :
    readAttribute path attr.toJson = done attr := by
  obtain ⟨name, value, extra⟩ := attr
  have hextra : Fields.IsExtra ["type", "name", "value"] extra := h
  have hvalue : Fields.get? extra "value" = none := hextra.get?_eq_none (by simp)
  have hkeep : extraOf ["type", "name", "value"] extra = extra := hextra.extraOf_eq
  cases value <;>
    simp [Attribute.toJson, readAttribute, withDefault, required, optional, readTypeName,
      readString, Reading.map, hvalue, hkeep, hextra.present_eq]

theorem readAttributesFrom_toJson {attrs : List Attribute} (h : ∀ attr ∈ attrs, attr.IsReadable)
    (path : List Step) (i : Nat) :
    readAttributesFrom path i (attrs.map Attribute.toJson) = done attrs := by
  induction attrs generalizing i with
  | nil => rfl
  | cons attr attrs ih =>
    obtain ⟨hattr, hattrs⟩ := List.forall_mem_cons.mp h
    rw [List.map_cons, readAttributesFrom, readAttribute_toJson hattr, ih hattrs]
    rfl

end Fields

/-! ## The fields of a kind -/

section Kinds

variable {path : List Step} {fields : Fields} {children : Children} {data : Option Fields}
  {cs : List Node} {extra : Fields}

theorem readBranch_of_fields {kind : Reading BranchKind} {k : BranchKind} {names : List String}
    (hdata : fields.get? "data" = data.map .obj) (hchildren : children.orEmpty path = done cs)
    (hkind : kind = done k)
    (hextra : extraOf (["type", "data", "children"] ++ names) fields = extra) :
    readBranch path fields children kind names = done (.branch k data cs extra) := by
  have hread : optional none readObject path fields "data" = done data := by
    rw [optional_of_get? hdata (fun _ _ => rfl) (fun _ => rfl), Option.or_none]
  rw [readBranch, hread, hchildren, hkind, hextra]
  rfl

theorem readLiteral_of_fields {kind : Reading LiteralKind} {k : LiteralKind} {names : List String}
    {value : String} (hdata : fields.get? "data" = data.map .obj)
    (hvalue : fields.get? "value" = some (.str value)) (hkind : kind = done k)
    (hextra : extraOf (["type", "data", "value"] ++ names) fields = extra) :
    readLiteral path fields kind names = done (.literal k data value extra) := by
  have hread : optional none readObject path fields "data" = done data := by
    rw [optional_of_get? hdata (fun _ _ => rfl) (fun _ => rfl), Option.or_none]
  have hstring : withDefault "" readString path fields "value" = done value :=
    withDefault_of_get? hvalue fun _ => rfl
  rw [readLiteral, hread, hstring, hkind, hextra]
  rfl

/-- Each kind of branch comes back from its fields, with the default for each flag that is null. -/
theorem readFields_branch {kind : BranchKind} (hkind : kind.IsReadable)
    (hextra : extra.IsExtra (["type", "data", "children"] ++ kind.names))
    (hchildren : children.orEmpty path = done cs) (items : Json) :
    readFields path ([("type", .str kind.type)] ++ fieldOf "data" .obj data ++
      [("children", items)] ++ kind.fields ++ extra) children =
      done (.branch kind.withFlags data cs extra) := by
  have hkeep := hextra.extraOf_eq
  have hnone (name : String) (hname : name ∈ ["type", "data", "children"] ++ kind.names) :
      extra.get? name = none := hextra.get?_eq_none hname
  generalize hfields : [("type", Json.str kind.type)] ++ fieldOf "data" .obj data ++
    [("children", items)] ++ kind.fields ++ extra = fields
  have hdata : Fields.get? fields "data" = data.map .obj := by
    cases kind <;> simp [← hfields, BranchKind.fields, hnone "data" (by simp)]
  have hrest : extraOf (["type", "data", "children"] ++ kind.names) fields = extra := by
    cases kind <;> simpa [← hfields, BranchKind.fields, BranchKind.names] using hkeep
  cases kind with
  | root =>
    subst hfields
    exact readBranch_of_fields hdata hchildren rfl hrest
  | paragraph =>
    subst hfields
    exact readBranch_of_fields hdata hchildren rfl hrest
  | heading depth =>
    have hdepth : Fields.get? fields "depth" = some (.num depth.val) := by
      simp [← hfields, BranchKind.fields]
    have hread : required readDepth path fields "depth" = done depth :=
      required_of_get? hdepth fun path => readDepth_num path depth
    subst hfields
    exact readBranch_of_fields hdata hchildren (by rw [hread]; rfl) hrest
  | list ordered spread =>
    have hordered : Fields.get? fields "ordered" = ordered.map .bool := by
      simp [← hfields, BranchKind.fields, hnone "ordered" (by simp [BranchKind.names])]
    have hspread : Fields.get? fields "spread" = spread.map .bool := by
      simp [← hfields, BranchKind.fields, hnone "spread" (by simp [BranchKind.names])]
    subst hfields
    refine readBranch_of_fields hdata hchildren ?_ hrest
    rw [optional_boolean hordered, optional_boolean hspread]
    cases ordered <;> cases spread <;> rfl
  | item spread checked =>
    have hspread : Fields.get? fields "spread" = spread.map .bool := by
      simp [← hfields, BranchKind.fields, hnone "spread" (by simp [BranchKind.names])]
    have hchecked : Fields.get? fields "checked" = checked.map .bool := by
      simp [← hfields, BranchKind.fields, hnone "checked" (by simp [BranchKind.names])]
    subst hfields
    refine readBranch_of_fields hdata hchildren ?_ hrest
    rw [optional_boolean hspread, optional_boolean hchecked, Option.or_none]
    cases spread <;> rfl
  | directive name label attributes =>
    have hname : Fields.get? fields "name" = some (.str name) := by
      simp [← hfields, BranchKind.fields]
    have hlabel : Fields.get? fields "label" = label.map .str := by
      simp [← hfields, BranchKind.fields, hnone "label" (by simp [BranchKind.names])]
    have hattributes : Fields.get? fields "attributes" =
        attributes.map fun pairs => .obj (pairs.map fun p => (p.1, .str p.2)) := by
      simp [← hfields, BranchKind.fields, hnone "attributes" (by simp [BranchKind.names])]
    have hread : optional none readStringObject path fields "attributes" = done attributes := by
      rw [optional_of_get? hattributes readStrings_strings (fun _ => rfl), Option.or_none]
    subst hfields
    refine readBranch_of_fields hdata hchildren ?_ hrest
    rw [required_string hname, optional_string hlabel, hread, Option.or_none]
    rfl
  | element name attributes =>
    have hname : Fields.get? fields "name" = name.map .str := by
      simp [← hfields, BranchKind.fields, hnone "name" (by simp [BranchKind.names])]
    have hattributes : Fields.get? fields "attributes" =
        some (.arr (attributes.map Attribute.toJson)) := by
      simp [← hfields, BranchKind.fields]
    have hread : withDefault [] readAttributes path fields "attributes" = done attributes :=
      withDefault_of_get? hattributes fun path => readAttributesFrom_toJson hkind path 0
    subst hfields
    refine readBranch_of_fields hdata hchildren ?_ hrest
    rw [optional_string hname, hread, Option.or_none]
    rfl

theorem readFields_literal {kind : LiteralKind} (value : String)
    (hextra : extra.IsExtra (["type", "data", "value"] ++ kind.names)) :
    readFields path ([("type", .str kind.type)] ++ fieldOf "data" .obj data ++
      [("value", .str value)] ++ kind.fields ++ extra) children =
      done (.literal kind data value extra) := by
  have hkeep := hextra.extraOf_eq
  have hnone (name : String) (hname : name ∈ ["type", "data", "value"] ++ kind.names) :
      extra.get? name = none := hextra.get?_eq_none hname
  generalize hfields : [("type", Json.str kind.type)] ++ fieldOf "data" .obj data ++
    [("value", .str value)] ++ kind.fields ++ extra = fields
  have hdata : Fields.get? fields "data" = data.map .obj := by
    cases kind <;> simp [← hfields, LiteralKind.fields, hnone "data" (by simp)]
  have hvalue : Fields.get? fields "value" = some (.str value) := by simp [← hfields]
  have hrest : extraOf (["type", "data", "value"] ++ kind.names) fields = extra := by
    cases kind <;> simpa [← hfields, LiteralKind.fields, LiteralKind.names] using hkeep
  cases kind with
  | code lang info =>
    have hlang : Fields.get? fields "lang" = lang.map .str := by
      simp [← hfields, LiteralKind.fields, hnone "lang" (by simp [LiteralKind.names])]
    have hinfo : Fields.get? fields "meta" = info.map .str := by
      simp [← hfields, LiteralKind.fields, hnone "meta" (by simp [LiteralKind.names])]
    subst hfields
    refine readLiteral_of_fields hdata hvalue ?_ hrest
    rw [optional_string hlang, optional_string hinfo, Option.or_none, Option.or_none]
    rfl
  | _ =>
    subst hfields
    exact readLiteral_of_fields hdata hvalue rfl hrest

/-- A node without a kind of its own comes back, with its children or without. -/
theorem readFields_other {type : String} {value : Json} {nodes : Option (List Node)}
    (htype : type ∉ Node.kindTypes)
    (hextra : extra.IsExtra ["type", "data", "value", "children"]) (items : Option Json)
    (hchildren : children.orNone path = done nodes) :
    readFields path ([("type", .str type)] ++ fieldOf "data" .obj data ++ valueField value ++
      fieldOf "children" id items ++ extra) children =
      done (.other type data value nodes extra) := by
  have hkeep := hextra.extraOf_eq
  have hdata : extra.get? "data" = none := hextra.get?_eq_none (by simp)
  have hvalue : extra.get? "value" = none := hextra.get?_eq_none (by simp)
  generalize hfields : [("type", Json.str type)] ++ fieldOf "data" .obj data ++ valueField value ++
    fieldOf "children" id items ++ extra = fields
  have hget : Fields.get? fields "type" = some (.str type) := by simp [← hfields]
  have hfound : Fields.get? fields "data" = data.map .obj := by
    cases value <;> simp [← hfields, valueField, hdata]
  have hread : (Fields.get? fields "value").getD .null = value := by
    cases value <;> simp [← hfields, valueField, hvalue]
  have hrest : extraOf ["type", "data", "value", "children"] fields = extra := by
    cases value <;> simp [← hfields, valueField, hkeep]
  have hother : readFields path fields children = readOther path fields children := by
    have hno {kindType : String} (hmem : kindType ∈ Node.kindTypes) :
        Fields.get? fields "type" ≠ some (.str kindType) := by
      rw [hget]
      rintro ⟨⟩
      exact htype hmem
    unfold readFields
    split
    case h_13 => rfl
    all_goals
      rename_i heq
      exact absurd heq (hno (by simp [Node.kindTypes]))
  rw [hother, readOther, required_string hget,
    optional_of_get? hfound (fun _ _ => rfl) (fun _ => rfl), Option.or_none, hchildren, hread,
    hrest]
  rfl

end Kinds

/-! ## Nodes -/

section Room

variable {own rest fields : Fields} {items : List Json} (path : List Step) (room : Nat)

theorem readChildren_of_ne (hown : ∀ field ∈ own, field.1 ≠ "children") :
    readChildren path room (own ++ rest) = readChildren path room rest := by
  induction own with
  | nil => rfl
  | cons field own ih =>
    obtain ⟨hfield, hrest⟩ := List.forall_mem_cons.mp hown
    rw [List.cons_append, readChildren, if_neg hfield, ih hrest]

theorem readChildren_found (hown : ∀ field ∈ own, field.1 ≠ "children") :
    readChildren path room (own ++ [("children", .arr items)] ++ rest) =
      .nodes (readNodesFrom path room 0 items) := by
  rw [List.append_assoc, readChildren_of_ne path room hown, List.singleton_append, readChildren,
    if_pos rfl, readChildrenField, readChildrenValue]

theorem readChildren_absent (h : ∀ field ∈ fields, field.1 ≠ "children") :
    readChildren path room fields = .absent := by
  rw [← List.append_nil fields, readChildren_of_ne path room h, readChildren]

end Room

theorem type_data_ne_children (type : String) (data : Option Fields) :
    ∀ field ∈ [("type", Json.str type)] ++ fieldOf "data" .obj data, field.1 ≠ "children" := by
  cases data <;> simp [fieldOf]

theorem valueField_ne_children (value : Json) :
    ∀ field ∈ valueField value, field.1 ≠ "children" := by
  cases value <;> simp [valueField]

namespace Node

/-- A reader with room for a node and all below it has room for what is below when it goes there. -/
theorem exists_room (n : Nat) {room : Nat} (h : n + 1 ≤ room) :
    ∃ below, room = below + 1 ∧ n ≤ below := ⟨room - 1, by omega, by omega⟩

/-- Nodes come back one by one if each does with the room there is. -/
theorem readNodesFrom_toJsonAll {nodes : List Node} {e : Edit} {room : Nat}
    (h : ∀ node ∈ nodes, ∀ path room, node.height ≤ room →
      readNode path room node.toJson = done (node.edit e))
    (hfits : heightAll nodes ≤ room) (path : List Step) (i : Nat) :
    readNodesFrom path room i (toJsonAll nodes) = done (nodes.map (edit e)) := by
  induction nodes generalizing i with
  | nil => rfl
  | cons node rest ih =>
    obtain ⟨hnode, hrest⟩ := List.forall_mem_cons.mp h
    obtain ⟨hhere, hthere⟩ := Nat.max_le.mp hfits
    rw [toJsonAll, readNodesFrom, hnode _ _ hhere, ih hrest hthere]
    rfl

/-- **A readable node comes back from its payload**, with the default in the place of every flag
that is null, if the reader has room for it. -/
theorem readNode_toJson {nodes : List Node} (h : All IsReadable nodes) :
    ∀ node ∈ nodes, ∀ path room, node.height ≤ room →
      readNode path room node.toJson = done (node.edit Flags.edit) := by
  induction nodes using forest_induction with
  | nil => simp
  | branch kind data children extra rest ihc ihr =>
    obtain ⟨hnode, hr⟩ := all_cons.mp h
    obtain ⟨⟨hkind, hextra⟩, hc⟩ := all_branch.mp hnode
    refine List.forall_mem_cons.mpr ⟨fun path room hfits => ?_, ihr hr⟩
    obtain ⟨room, rfl, hbelow⟩ := exists_room (heightAll children) hfits
    have hchildren (path : List Step) :
        readChildren path room ([("type", .str kind.type)] ++ fieldOf "data" .obj data ++
          [("children", .arr (toJsonAll children))] ++ kind.fields ++ extra) =
          .nodes (done (children.map (edit Flags.edit))) := by
      rw [List.append_assoc _ kind.fields extra,
        readChildren_found path room (type_data_ne_children _ _),
        readNodesFrom_toJsonAll (ihc hc) hbelow]
    rw [toJson, hextra.present_eq, readNode, hchildren, edit, editAll_eq_map]
    exact readFields_branch hkind hextra rfl _
  | literal kind data value extra rest ihr =>
    obtain ⟨hnode, hr⟩ := all_cons.mp h
    have hextra := all_literal.mp hnode
    refine List.forall_mem_cons.mpr ⟨fun path room hfits => ?_, ihr hr⟩
    obtain ⟨room, rfl, -⟩ := exists_room 0 hfits
    rw [toJson, Fields.IsExtra.present_eq hextra, readNode]
    exact readFields_literal value hextra
  | parent type data value children extra rest ihc ihr =>
    obtain ⟨hnode, hr⟩ := all_cons.mp h
    obtain ⟨⟨htype, hextra⟩, hc⟩ := all_parent.mp hnode
    refine List.forall_mem_cons.mpr ⟨fun path room hfits => ?_, ihr hr⟩
    obtain ⟨room, rfl, hbelow⟩ := exists_room (heightAll children) hfits
    have hchildren (path : List Step) :
        readChildren path room ([("type", .str type)] ++ fieldOf "data" .obj data ++
          valueField value ++ [("children", .arr (toJsonAll children))] ++ extra) =
          .nodes (done (children.map (edit Flags.edit))) := by
      have hown := List.forall_mem_append.mpr
        ⟨type_data_ne_children type data, valueField_ne_children value⟩
      rw [readChildren_found path room hown, readNodesFrom_toJsonAll (ihc hc) hbelow]
    rw [toJson, hextra.present_eq, readNode, hchildren, edit, editAll_eq_map]
    exact readFields_other htype hextra (some _) rfl
  | leaf type data value extra rest ihr =>
    obtain ⟨hnode, hr⟩ := all_cons.mp h
    obtain ⟨htype, hextra⟩ := all_leaf.mp hnode
    refine List.forall_mem_cons.mpr ⟨fun path room hfits => ?_, ihr hr⟩
    obtain ⟨room, rfl, -⟩ := exists_room 0 hfits
    have hchildren (path : List Step) :
        readChildren path room ([("type", .str type)] ++ fieldOf "data" .obj data ++
          valueField value ++ extra) = .absent := by
      refine readChildren_absent path room (List.forall_mem_append.mpr
        ⟨List.forall_mem_append.mpr
          ⟨type_data_ne_children type data, valueField_ne_children value⟩, ?_⟩)
      intro field hmem hname
      exact (hextra field hmem).1 (by simp [hname])
    rw [toJson, hextra.present_eq, readNode, hchildren]
    simpa [fieldOf, edit] using readFields_other htype hextra none rfl

theorem ofJson_toJson {node : Node} (h : All IsReadable [node]) (hfits : node.height ≤ nodeLimit) :
    ofJson node.toJson = .ok (node.edit Flags.edit) := by
  rw [ofJson, readNode_toJson h node (List.mem_singleton_self node) _ _ hfits]
  rfl

/-- A root that is left as it was read comes back in the same way. -/
theorem rootOfJson_toJson {root : Root} (h : All IsReadable [root.toNode])
    (hfits : root.toNode.height ≤ nodeLimit) :
    rootOfJson root.toNode.toJson =
      .ok { root with children := root.children.map (edit Flags.edit) } := by
  obtain ⟨⟨-, hextra⟩, hall⟩ := all_branch.mp h
  have hkeep := hextra.extraOf_eq
  have hpresent := hextra.present_eq
  have hnone : root.extra.get? "data" = none := hextra.get?_eq_none (by simp)
  have hbelow : heightAll root.children ≤ nodeLimit - 1 := Nat.le_pred_of_lt hfits
  generalize hfields : [("type", Json.str "root")] ++ fieldOf "data" .obj root.data ++
    [("children", .arr (toJsonAll root.children))] ++ root.extra = fields
  have hjson : root.toNode.toJson = .obj fields := by
    simp [← hfields, Root.toNode, toJson, BranchKind.type, BranchKind.fields, hpresent]
  have htype : withDefault () (readTypeName "root") [] fields "type" = done () := by
    have hget : Fields.get? fields "type" = some (.str "root") := by simp [← hfields]
    exact withDefault_of_get? hget fun _ => rfl
  have hdata : optional none readObject [] fields "data" = done root.data := by
    have hget : Fields.get? fields "data" = root.data.map .obj := by simp [← hfields, hnone]
    rw [optional_of_get? hget (fun _ _ => rfl) (fun _ => rfl), Option.or_none]
  have hchildren : (readChildren (fieldAt [] "children") (nodeLimit - 1) fields).orEmpty [] =
      done (root.children.map (edit Flags.edit)) := by
    rw [← hfields, readChildren_found _ _ (type_data_ne_children _ _),
      readNodesFrom_toJsonAll (readNode_toJson hall) hbelow]
    rfl
  have hrest : extraOf ["type", "data", "children"] fields = root.extra := by
    simpa [← hfields, BranchKind.names] using hkeep
  rw [hjson, rootOfJson, htype, hdata, hchildren, hrest]
  rfl

/-! ## Flags that are null -/

end Node

/-- No flag of a list or of an item is null. -/
def BranchKind.HasFlags : BranchKind → Prop
  | list ordered spread => ordered ≠ none ∧ spread ≠ none
  | item spread _ => spread ≠ none
  | _ => True

theorem BranchKind.hasFlags_withFlags (kind : BranchKind) : kind.withFlags.HasFlags := by
  cases kind <;> simp [withFlags, HasFlags]

theorem BranchKind.withFlags_eq {kind : BranchKind} (h : kind.HasFlags) :
    kind.withFlags = kind := by
  cases kind with
  | list ordered spread =>
    obtain ⟨hordered, hspread⟩ := h
    cases ordered <;> cases spread <;> simp_all [withFlags]
  | item spread checked =>
    have hspread : spread ≠ none := h
    cases spread <;> simp_all [withFlags]
  | _ => rfl

/-- A flag that is null is not written, but its default is. -/
theorem BranchKind.hasFlags_of_fields {kind : BranchKind}
    (h : kind.withFlags.fields = kind.fields) : kind.HasFlags := by
  cases kind with
  | list ordered spread =>
    cases ordered <;> cases spread <;> simp_all [withFlags, fields, fieldOf, HasFlags]
  | item spread checked =>
    cases spread <;> cases checked <;> simp_all [withFlags, fields, fieldOf, HasFlags]
  | _ => trivial

namespace Node

/-- No flag of the node itself is null. -/
def HasFlags : Node → Prop
  | branch kind .. => kind.HasFlags
  | literal .. | other .. => True

theorem hasFlags_tidy {node : Node} (h : node.HasFlags) : node.tidy.HasFlags := by
  cases node with
  | branch kind data children extra => cases kind <;> exact h
  | literal kind data value extra => trivial
  | other type data value children extra => cases children <;> trivial

theorem map_edit_flags {nodes : List Node} (h : All HasFlags nodes) :
    nodes.map (edit Flags.edit) = nodes := by
  induction nodes using forest_induction with
  | nil => rfl
  | branch kind data children extra rest ihc ihr =>
    obtain ⟨hnode, hr⟩ := all_cons.mp h
    obtain ⟨hkind, hc⟩ := all_branch.mp hnode
    rw [List.map_cons, ihr hr, edit, editAll_eq_map, ihc hc]
    exact congrArg (branch · data children extra :: rest) (BranchKind.withFlags_eq hkind)
  | literal kind data value extra rest ihr =>
    rw [List.map_cons, ihr (all_cons.mp h).2]
    rfl
  | parent type data value children extra rest ihc ihr =>
    obtain ⟨hnode, hr⟩ := all_cons.mp h
    rw [List.map_cons, ihr hr, edit, editAll_eq_map, ihc (all_parent.mp hnode).2]
  | leaf type data value extra rest ihr =>
    rw [List.map_cons, ihr (all_cons.mp h).2]
    rfl

theorem all_hasFlags_edit {nodes : List Node} {P : Node → Prop} (h : All P nodes) :
    All HasFlags (nodes.map (edit Flags.edit)) := by
  refine All.edit (fun node _ => ?_) h
  cases node with
  | branch kind data children extra => exact BranchKind.hasFlags_withFlags kind
  | literal kind data value extra => trivial
  | other type data value children extra => cases children <;> trivial

/-- A payload tells whether a flag is null: it has no such field. -/
theorem hasFlags_of_toJsonAll {nodes : List Node}
    (h : toJsonAll (nodes.map (edit Flags.edit)) = toJsonAll nodes) : All HasFlags nodes := by
  induction nodes using forest_induction with
  | nil => exact all_nil
  | branch kind data children extra rest ihc ihr =>
    rw [List.map_cons, toJsonAll, toJsonAll, edit, editAll_eq_map, toJson, toJson] at h
    obtain ⟨hhead, hrest⟩ := List.cons.inj h
    have htype : (Flags.edit.kind kind).type = kind.type := by cases kind <;> rfl
    rw [htype] at hhead
    have hfields := List.append_cancel_right (Json.obj.inj hhead)
    simp only [List.append_assoc _ [("children", _)], List.singleton_append] at hfields
    obtain ⟨hchildren, hkind⟩ := List.cons.inj (List.append_cancel_left hfields)
    have hitems := Json.arr.inj (Prod.mk.inj hchildren).2
    exact all_cons.mpr
      ⟨all_branch.mpr ⟨BranchKind.hasFlags_of_fields hkind, ihc hitems⟩, ihr hrest⟩
  | literal kind data value extra rest ihr =>
    rw [List.map_cons, toJsonAll, toJsonAll] at h
    exact all_cons.mpr ⟨all_literal.mpr trivial, ihr (List.cons.inj h).2⟩
  | parent type data value children extra rest ihc ihr =>
    rw [List.map_cons, toJsonAll, toJsonAll, edit, editAll_eq_map, toJson, toJson] at h
    obtain ⟨hhead, hrest⟩ := List.cons.inj h
    have hfields := List.append_cancel_right (Json.obj.inj hhead)
    obtain ⟨hchildren, -⟩ := List.cons.inj (List.append_cancel_left hfields)
    have hitems := Json.arr.inj (Prod.mk.inj hchildren).2
    exact all_cons.mpr ⟨all_parent.mpr ⟨trivial, ihc hitems⟩, ihr hrest⟩
  | leaf type data value extra rest ihr =>
    rw [List.map_cons, toJsonAll, toJsonAll] at h
    exact all_cons.mpr ⟨all_leaf.mpr trivial, ihr (List.cons.inj h).2⟩

theorem isReadable_edit_flags {node : Node} (h : node.IsReadable) :
    (node.edit Flags.edit).IsReadable := by
  cases node with
  | branch kind data children extra => cases kind <;> exact h
  | literal kind data value extra => exact h
  | other type data value children extra => cases children <;> exact h

/-- Null fields and null flags have nothing to do with each other. -/
theorem map_edit_tidy (nodes : List Node) :
    (nodes.map tidy).map (edit Flags.edit) = (nodes.map (edit Flags.edit)).map tidy := by
  have hkind (kind : BranchKind) : Flags.edit.kind kind.tidy = (Flags.edit.kind kind).tidy := by
    cases kind <;> rfl
  induction nodes using forest_induction with
  | nil => rfl
  | branch kind data children extra rest ihc ihr =>
    simp only [List.map_cons, tidy, edit, tidyAll_eq_map, editAll_eq_map, hkind, ihc, ihr]
  | literal kind data value extra rest ihr =>
    simp only [List.map_cons, tidy, edit, ihr]
  | parent type data value children extra rest ihc ihr =>
    simp only [List.map_cons, tidy, edit, tidyAll_eq_map, editAll_eq_map, ihc, ihr]
  | leaf type data value extra rest ihr => simp only [List.map_cons, tidy, edit, ihr]

/-- Flags count no levels. -/
theorem ownLevels_edit_flags (node : Node) :
    (node.edit Flags.edit).ownLevels = node.ownLevels := by
  cases node with
  | branch kind data children extra => cases kind <;> rfl
  | literal kind data value extra => rfl
  | other type data value children extra => cases children <;> rfl

/-- The edit shows in the payload exactly if a flag is null. -/
theorem toJson_edit_flags {node : Node} :
    (node.edit Flags.edit).toJson = node.toJson ↔ All HasFlags [node] := by
  constructor
  · intro h
    refine hasFlags_of_toJsonAll ?_
    rw [List.map_singleton, toJsonAll, toJsonAll, h]
    rfl
  · intro h
    have hedit := map_edit_flags h
    rw [List.map_singleton, List.cons.injEq] at hedit
    rw [hedit.1]

/-! ## The round trip -/

/-- A list in a root, whose flag is null as Markdown trees allow it. -/
def unorderedPayload : Json :=
  .obj [("type", .str "root"), ("children", .arr [
    .obj [("type", .str "list"), ("ordered", .null)]])]

end Node

end Quizmark
