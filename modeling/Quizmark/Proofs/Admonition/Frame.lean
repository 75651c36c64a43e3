import Quizmark.Node.Writer
import Quizmark.Proofs.Admonition.Rewriting
import Quizmark.Proofs.Node.Replacing

/-!
# What rewriting the admonitions leaves as it is

A tree without admonitions goes through the same walk as every other, and the walk puts a list in
the place of loose children.

* `rewriteAll_eq`: what rewriting gives for a forest, loose children included, and when it fails.
* `toJsonAll_remade_id`: listing loose children shows in the payload of a forest unless they are
  lists.
* `rewriteAdmonitions_frame`: a document without admonitions has the payload that it had exactly if
  all loose children in it are lists.
-/

namespace Quizmark

namespace Node

open Admonition

/-! ## Forests with loose children -/

theorem children_replaced (node : Node) : (replaced node).children = node.children := by
  cases node <;> rfl

theorem isListable_replaced (node : Node) : (replaced node).isListable = node.isListable := by
  cases node <;> rfl

theorem replaced_eq_self {node : Node} (h : node.isAdmonition = false) : replaced node = node := by
  cases node with
  | branch kind data children extra =>
    cases kind with
    | directive name label attrs =>
      have hname : names.contains name = false := h
      simp only [replaced, rewriteKind, hname, Bool.false_eq_true, if_false]
    | _ => rfl
  | _ => rfl

/-- Rewriting a forest fails only at loose children that have no items. -/
theorem rewriteAll_eq (nodes : List Node) :
    rewriteAll nodes =
      if ∀ node ∈ inOrderAll nodes, node.isListable = true then
        .ok (nodes.map (remade replaced))
      else .error .notIterable := by
  rw [← mapList_replaced nodes (heightAll nodes) (Nat.le_refl _),
    mapList_kept children_replaced nodes (heightAll nodes) (Nat.le_refl _)]
  simp only [isListable_replaced, List.all_eq_true]
  split <;> rfl

/-! ## Payloads -/

/-- Loose children that are listed show in a payload unless they are a list. -/
theorem present_listedFields {kind : LiteralKind} {data : Option Fields} {value : String}
    {extra : Fields} (h : (literal kind data value extra).isListable = true) :
    (listedFields extra).present = extra.present ↔
      (literal kind data value extra).isListed = true := by
  rw [← listedFields_eq_self_iff h]
  refine ⟨fun hpresent => ?_, fun heq => by rw [heq]⟩
  rcases items?_of_isListable h with hnone | ⟨loose, items, hloose, hitems⟩
  · rw [looseChildren?] at hnone
    simp [listedFields, hnone]
  · obtain ⟨hget, hnull⟩ := Fields.children?_eq_some.mp hloose
    have hlisted : listedFields extra = extra.put "children" (.arr items) := by
      rw [looseChildren?] at hloose
      rw [listedFields, hloose, Option.bind_some, hitems]
    rw [hlisted, Fields.present_put hget hnull rfl, Fields.put_eq_self_iff,
      Fields.get?_present hget hnull] at hpresent
    rw [hlisted, Fields.put_eq_self_iff, hget, hpresent]

/-- A node with loose children listed and other children below it has the same payload only if its
loose children are a list and the other children have the payloads of those it had. -/
theorem toJson_filled {node : Node} {cs : List Node} (hlist : node.isListable = true)
    (hleaf : node.children = [] → cs = []) :
    (node.listed.withChildren cs).toJson = node.toJson ↔
      node.isListed = true ∧ toJsonAll cs = toJsonAll node.children := by
  cases node with
  | branch kind data children extra =>
    simp [listed, withChildren, toJson, isListed, looseChildren?, Node.children]
  | literal kind data value extra =>
    obtain rfl := hleaf rfl
    simp [listed, withChildren, toJson, present_listedFields hlist, Node.children]
  | other type data value children extra =>
    cases children with
    | none =>
      obtain rfl := hleaf rfl
      simp [listed, withChildren, isListed, looseChildren?, Node.children]
    | some children =>
      simp [listed, withChildren, toJson, isListed, looseChildren?, Node.children]

/-- Listing loose children shows in the payload, unless they are lists. -/
theorem toJsonAll_remade_id {nodes : List Node}
    (h : ∀ node ∈ inOrderAll nodes, node.isListable = true) :
    toJsonAll (nodes.map (remade id)) = toJsonAll nodes ↔
      ∀ node ∈ inOrderAll nodes, node.isListed = true := by
  induction nodes using children_induction with
  | nil => simp [inOrderAll]
  | cons node rest ihc ihr =>
    rw [inOrderAll_cons, List.forall_mem_cons, List.forall_mem_append] at h ⊢
    obtain ⟨hnode, hc, hr⟩ := h
    have hleaf : node.children = [] → node.children.map (remade id) = [] := by simp +contextual
    rw [List.map_cons, toJsonAll, toJsonAll, List.cons.injEq, ihr hr, remade_eq, id,
      toJson_filled hnode hleaf, ihc hc, and_assoc]

end Node

/-! ## Documents without admonitions -/

namespace Root

open Node

/-- The root itself has no loose children. -/
theorem forall_mem_inOrder_toNode {root : Root} {p : Node → Bool} (hp : p root.toNode = true) :
    (∀ node ∈ root.toNode.inOrder, p node = true) ↔
      ∀ node ∈ inOrderAll root.children, p node = true := by
  rw [inOrder_eq, List.forall_mem_cons]
  exact and_iff_right hp

/-- A document without admonitions is rewritten to the one with loose children listed. -/
theorem rewriteAdmonitions_eq {root : Root}
    (hnone : ∀ node ∈ root.toNode.inOrder, node.isAdmonition = false) :
    root.rewriteAdmonitions =
      if ∀ node ∈ root.toNode.inOrder, node.isListable = true then
        .ok { root with children := root.children.map (remade id) }
      else .error .notIterable := by
  have hsame : root.children.map (remade replaced) = root.children.map (remade id) :=
    map_remade_congr fun node hnode => replaced_eq_self (hnone node (List.mem_cons_of_mem _ hnode))
  rw [Root.rewriteAdmonitions, rewriteAll_eq, hsame]
  simp only [forall_mem_inOrder_toNode (p := isListable) rfl]
  split <;> rfl

/-- **Rewriting leaves a document without admonitions as it is, but for loose children.** It fails
if some loose children have no items to give. Otherwise the result is the document with loose
children listed and with nothing else changed. Its payload is the one of the document exactly if all
loose children are lists, and then it is the document itself. -/
theorem rewriteAdmonitions_frame {payload : Json} {root : Root}
    (hroot : rootOfJson payload = .ok root)
    (hnone : ∀ node ∈ root.toNode.inOrder, node.isAdmonition = false) :
    (rootOfJson payload).bind Root.rewriteAdmonitions =
      (if ∀ node ∈ root.toNode.inOrder, node.isListable = true then
        .ok { root with children := root.children.map (remade id) }
      else .error .notIterable) ∧
    (((rootOfJson payload).bind Root.rewriteAdmonitions).map (·.toNode.toJson) =
        (rootOfJson payload).map (·.toNode.toJson) ↔
      ∀ node ∈ root.toNode.inOrder, node.isListed = true) ∧
    ((∀ node ∈ root.toNode.inOrder, node.isListed = true) →
      (rootOfJson payload).bind Root.rewriteAdmonitions = rootOfJson payload) := by
  have hrun : (rootOfJson payload).bind Root.rewriteAdmonitions = root.rewriteAdmonitions := by
    rw [hroot]
    rfl
  rw [hrun, hroot, rewriteAdmonitions_eq hnone]
  refine ⟨rfl, ?_, fun hall => ?_⟩
  · split
    · next hlist =>
      have hbelow := (forall_mem_inOrder_toNode rfl).mp hlist
      rw [forall_mem_inOrder_toNode rfl, ← toJsonAll_remade_id hbelow]
      simp [Except.map, Root.toNode, toJson]
    · next hlist =>
      -- What cannot be listed is not listed, so both sides fail.
      refine iff_of_false (by simp [Except.map]) fun hall => hlist fun node hnode => ?_
      exact isListable_of_isListed (hall node hnode)
  · rw [if_pos fun node hnode => isListable_of_isListed (hall node hnode),
      map_remade_id ((forall_mem_inOrder_toNode rfl).mp hall)]

/-- A document with a directive that is no admonition, and in it a text with loose children. -/
def warningPayload (loose : Json) : Json :=
  .obj [("type", .str "root"), ("children", .arr [
    .obj [("type", .str "containerDirective"), ("name", .str "warning"), ("children", .arr [
      .obj [("type", .str "text"), ("value", .str "tide"), ("children", loose)]])]])]

theorem rewriteAdmonitions_frame_warning :
    ∃ root, rootOfJson (warningPayload (.arr [.str "ebb"])) = .ok root ∧
      (∀ node ∈ root.toNode.inOrder, node.isAdmonition = false) ∧
      ((rootOfJson (warningPayload (.arr [.str "ebb"]))).bind Root.rewriteAdmonitions).map
          (·.toNode.toJson) = .ok root.toNode.toJson ∧
      (rootOfJson (warningPayload (.arr [.str "ebb"]))).bind Root.rewriteAdmonitions =
        .ok root := by
  have hroot : rootOfJson (warningPayload (.arr [.str "ebb"])) = .ok _ := rfl
  obtain ⟨-, hsame, hself⟩ := rewriteAdmonitions_frame hroot (by decide)
  exact ⟨_, hroot, by decide, hsame.mpr (by decide), hself (by decide)⟩

/-- Loose children that are a text become the list of its characters, and a number in their place
makes the rewriting fail. -/
theorem loose_children_change :
    (∃ root result, rootOfJson (warningPayload (.str "ebb")) = .ok root ∧
      (∀ node ∈ root.toNode.inOrder, node.isAdmonition = false) ∧
      root.rewriteAdmonitions = .ok result ∧ result.toNode.toJson ≠ root.toNode.toJson) ∧
    (∃ root, rootOfJson (warningPayload (.num 5)) = .ok root ∧
      (∀ node ∈ root.toNode.inOrder, node.isAdmonition = false) ∧
      root.rewriteAdmonitions = .error .notIterable) := by
  refine ⟨⟨_, _, rfl, by decide, rfl, ?_⟩, ⟨_, rfl, by decide, rfl⟩⟩
  simp [Root.toNode, toJson, toJsonAll, Fields.put, extraOf, Fields.present, Fields.without,
    Json.isNull]

end Root

end Quizmark
