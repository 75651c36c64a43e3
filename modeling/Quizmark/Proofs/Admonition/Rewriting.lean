import Quizmark.Proofs.Admonition
import Quizmark.Proofs.Text.Blank

/-!
# What rewriting the admonitions does

* `Node.Rewrites`: what a forest with an element in the place of every admonition is, said rule by
  rule. Each forest has exactly one (`rewrites_iff`).
* `mapList_replaced`: the walk that replaces one node at a time and goes on in the children of the
  replacement does the same, failures included, and needs no more levels than the forest has.
* `rewriteAdmonitions_rewrites`: plain trees are rewritten to that forest. No admonition is left in
  it, no text and no heading differs, and rewriting it again changes nothing.
-/

namespace Quizmark

namespace Admonition

/-- A label that is not blank becomes the title, without the blanks around it. -/
theorem attributesOf_titled {name label : String} (h : Text.allBlank label.toList = false) :
    attributesOf name (some label) =
      [⟨"type", some name, []⟩, ⟨"title", some (Text.trimmed label), []⟩] := by
  have htitle : (Text.trimmed label).isEmpty = false := by rw [Text.isEmpty_trimmed, h]
  simp [attributesOf, htitle, attributes]

theorem attributesOf_untitled {name : String} {label : Option String}
    (h : ∀ text, label = some text → Text.allBlank text.toList = true) :
    attributesOf name label = [⟨"type", some name, []⟩] := by
  cases label with
  | none => rfl
  | some text =>
    have htitle : (Text.trimmed text).isEmpty = true := by rw [Text.isEmpty_trimmed, h text rfl]
    simp [attributesOf, htitle]

theorem rewriteKind_of_mem {name : String} (h : name ∈ names) (label : Option String)
    (attrs : Option (List (String × String))) :
    rewriteKind (.directive name label attrs) =
      .element (some elementName) (attributesOf name label) :=
  if_pos (List.contains_iff_mem.mpr h)

theorem rewriteKind_of_not_mem {kind : BranchKind}
    (h : ∀ name label attrs, kind = .directive name label attrs → name ∉ names) :
    rewriteKind kind = kind := by
  cases kind with
  | directive name label attrs =>
    exact if_neg fun hmem => h name label attrs rfl (List.contains_iff_mem.mp hmem)
  | _ => rfl

/-- What an admonition becomes is no admonition. -/
theorem isAdmonitionKind_rewriteKind (kind : BranchKind) :
    isAdmonitionKind (rewriteKind kind) = false := by
  cases kind with
  | directive name label attrs =>
    rw [rewriteKind]
    split
    · rfl
    · next hmem => simpa [isAdmonitionKind] using hmem
  | _ => rfl

theorem rewriteKind_rewriteKind (kind : BranchKind) :
    rewriteKind (rewriteKind kind) = rewriteKind kind := by
  refine rewriteKind_of_not_mem fun name label attrs hkind hmem => ?_
  have hleft := isAdmonitionKind_rewriteKind kind
  rw [hkind, isAdmonitionKind, List.contains_iff_mem.mpr hmem] at hleft
  cases hleft

end Admonition

namespace Node

open Admonition

/-! ## The rewritten forest -/

/-- The second forest is the first with an element in the place of every admonition. The element
has the name of the directive as its type and the label as its title, if there is one that is not
blank. All else stays. -/
inductive Rewrites : List Node → List Node → Prop where
  | nil : Rewrites [] []
  | titled {name label : String} {attrs : Option (List (String × String))} {data : Option Fields}
      {extra : Fields} {children rest children' rest' : List Node} :
    name ∈ names → Text.allBlank label.toList = false →
    Rewrites children children' → Rewrites rest rest' →
    Rewrites (.branch (.directive name (some label) attrs) data children extra :: rest)
      (.branch (.element (some elementName)
        [⟨"type", some name, []⟩, ⟨"title", some (Text.trimmed label), []⟩]) data children' extra ::
        rest')
  | untitled {name : String} {label : Option String} {attrs : Option (List (String × String))}
      {data : Option Fields} {extra : Fields} {children rest children' rest' : List Node} :
    name ∈ names → (∀ text, label = some text → Text.allBlank text.toList = true) →
    Rewrites children children' → Rewrites rest rest' →
    Rewrites (.branch (.directive name label attrs) data children extra :: rest)
      (.branch (.element (some elementName) [⟨"type", some name, []⟩]) data children' extra ::
        rest')
  | branch {kind : BranchKind} {data : Option Fields} {extra : Fields}
      {children rest children' rest' : List Node} :
    (∀ name label attrs, kind = .directive name label attrs → name ∉ names) →
    Rewrites children children' → Rewrites rest rest' →
    Rewrites (.branch kind data children extra :: rest) (.branch kind data children' extra :: rest')
  | literal {kind : LiteralKind} {data : Option Fields} {value : String} {extra : Fields}
      {rest rest' : List Node} :
    Rewrites rest rest' →
    Rewrites (.literal kind data value extra :: rest) (.literal kind data value extra :: rest')
  | parent {type : String} {data : Option Fields} {value : Json} {extra : Fields}
      {children rest children' rest' : List Node} :
    Rewrites children children' → Rewrites rest rest' →
    Rewrites (.other type data value (some children) extra :: rest)
      (.other type data value (some children') extra :: rest')
  | leaf {type : String} {data : Option Fields} {value : Json} {extra : Fields}
      {rest rest' : List Node} :
    Rewrites rest rest' →
    Rewrites (.other type data value none extra :: rest)
      (.other type data value none extra :: rest')

theorem edit_branch (kind : BranchKind) (data : Option Fields) (children : List Node)
    (extra : Fields) :
    (branch kind data children extra).edit Admonition.edit =
      branch (rewriteKind kind) data (children.map (edit Admonition.edit)) extra := by
  rw [edit, editAll_eq_map]
  rfl

/-- The relation leaves no choice: its results are those of the edit. -/
theorem Rewrites.eq_map {nodes results : List Node} (h : Rewrites nodes results) :
    results = nodes.map (edit Admonition.edit) := by
  induction h with
  | nil => rfl
  | titled hname hlabel _ _ ihc ihr =>
    rw [List.map_cons, edit_branch, ← ihc, ← ihr, rewriteKind_of_mem hname,
      attributesOf_titled hlabel]
  | untitled hname hlabel _ _ ihc ihr =>
    rw [List.map_cons, edit_branch, ← ihc, ← ihr, rewriteKind_of_mem hname,
      attributesOf_untitled hlabel]
  | branch hkind _ _ ihc ihr =>
    rw [List.map_cons, edit_branch, ← ihc, ← ihr, rewriteKind_of_not_mem hkind]
  | literal _ ihr => rw [List.map_cons, ← ihr]; rfl
  | parent _ _ ihc ihr => rw [List.map_cons, edit, editAll_eq_map, ← ihc, ← ihr]
  | leaf _ ihr => rw [List.map_cons, ← ihr]; rfl

/-- The edit does what the relation asks for, so there is always a result. -/
theorem rewrites_edit (nodes : List Node) : Rewrites nodes (nodes.map (edit Admonition.edit)) := by
  induction nodes using forest_induction with
  | nil => exact .nil
  | branch kind data children extra rest ihc ihr =>
    rw [List.map_cons, edit_branch]
    -- Which rule applies depends on the name of the directive, and then on its label.
    by_cases hkind : ∀ name label attrs, kind = .directive name label attrs → name ∉ names
    · rw [rewriteKind_of_not_mem hkind]
      exact .branch hkind ihc ihr
    · simp only [Classical.not_forall, Decidable.not_not] at hkind
      obtain ⟨name, label, attrs, rfl, hname⟩ := hkind
      rw [rewriteKind_of_mem hname]
      by_cases hlabel : ∀ text, label = some text → Text.allBlank text.toList = true
      · rw [attributesOf_untitled hlabel]
        exact .untitled hname hlabel ihc ihr
      · simp only [Classical.not_forall, Bool.not_eq_true] at hlabel
        obtain ⟨text, rfl, htext⟩ := hlabel
        rw [attributesOf_titled htext]
        exact .titled hname htext ihc ihr
  | literal kind data value extra rest ihr => exact .literal ihr
  | parent type data value children extra rest ihc ihr =>
    rw [List.map_cons, edit, editAll_eq_map]
    exact .parent ihc ihr
  | leaf type data value extra rest ihr => exact .leaf ihr

/-- **A forest is rewritten in one way only**: node by node, by the edit. -/
theorem rewrites_iff {nodes results : List Node} :
    Rewrites nodes results ↔ results = nodes.map (edit Admonition.edit) := by
  constructor
  · exact Rewrites.eq_map
  · rintro rfl
    exact rewrites_edit nodes

/-! ## Replacing node by node -/

/-- What the replacing walk puts in the place of a node: an element for an admonition, with the
children as they are. -/
def replaced : Node → Node
  | branch kind data children extra => branch (rewriteKind kind) data children extra
  | node => node

theorem mapList_cons_fst (f : Node → Except Error (Node × List Visit)) (node : Node)
    (rest : List Node) :
    (mapList f (node :: rest)).map Prod.fst = do
      let node ← (f node).map Prod.fst
      return node :: (← (mapList f rest).map Prod.fst) := by
  rw [mapList]
  cases f node with
  | error fault => rfl
  | ok head => cases mapList f rest <;> rfl

/-- The walk goes on in the children of the element. They are those of the directive, so the levels
of the forest bound the walk. -/
theorem mapList_replaced (nodes : List Node) (depth : Nat) (h : heightAll nodes ≤ depth) :
    (mapList (mapFrom replaced depth) nodes).map Prod.fst = rewriteAll nodes := by
  -- The bound is on the forest, so it goes down by one for children and stays for the rest.
  induction nodes using forest_induction generalizing depth with
  | nil => rfl
  | branch kind data children extra rest ihc ihr =>
    rw [heightAll, height] at h
    obtain ⟨depth, rfl⟩ : ∃ d, depth = d + 1 := ⟨depth - 1, by omega⟩
    rw [mapList_cons_fst, ihr _ (by omega), rewriteAll, rewriteAdmonitions, ← ihc depth (by omega)]
    simp only [mapFrom, replaced]
    cases mapList (mapFrom replaced depth) children <;> rfl
  | literal kind data value extra rest ihr =>
    rw [heightAll, height] at h
    obtain ⟨depth, rfl⟩ : ∃ d, depth = d + 1 := ⟨depth - 1, by omega⟩
    rw [mapList_cons_fst, ihr _ (by omega), rewriteAll, rewriteAdmonitions]
    simp only [mapFrom, replaced]
    cases loosened extra <;> rfl
  | parent type data value children extra rest ihc ihr =>
    rw [heightAll, height] at h
    obtain ⟨depth, rfl⟩ : ∃ d, depth = d + 1 := ⟨depth - 1, by omega⟩
    rw [mapList_cons_fst, ihr _ (by omega), rewriteAll, rewriteAdmonitions, ← ihc depth (by omega)]
    simp only [mapFrom, replaced]
    cases mapList (mapFrom replaced depth) children <;> rfl
  | leaf type data value extra rest ihr =>
    rw [heightAll, height] at h
    obtain ⟨depth, rfl⟩ : ∃ d, depth = d + 1 := ⟨depth - 1, by omega⟩
    rw [mapList_cons_fst, ihr _ (by omega)]
    rfl

/-- A walk that descends into what it has put in place of a node gives the same outcome, provided
that it may go as deep as the tree is high. -/
theorem mapFrom_replaced {node : Node} {depth : Nat} (h : node.height ≤ depth) :
    (mapFrom replaced depth node).map Prod.fst = node.rewriteAdmonitions := by
  have hall := mapList_replaced [node] depth (by simpa [heightAll] using h)
  rw [mapList_cons_fst, rewriteAll] at hall
  cases hwalk : mapFrom replaced depth node <;> cases hrewrite : node.rewriteAdmonitions <;>
    simp_all [mapList, rewriteAll, Except.map, bind, Except.bind, pure, Except.pure]

/-! ## What is left -/

/-- For a tree without loose children the rewriter cannot fail. -/
theorem rewriteAdmonitions_plain {node : Node} (h : Plain [node]) :
    node.rewriteAdmonitions = .ok (node.edit Admonition.edit) := by
  have hall := rewriteAll_plain h
  rw [rewriteAll] at hall
  cases hnode : node.rewriteAdmonitions with
  | error fault => simp [hnode, bind, Except.bind] at hall
  | ok result => simpa [hnode, rewriteAll, bind, Except.bind, pure, Except.pure] using hall

theorem isAdmonition_edit (node : Node) : (node.edit Admonition.edit).isAdmonition = false := by
  cases node with
  | branch kind data children extra => exact isAdmonitionKind_rewriteKind kind
  | literal kind data value extra => rfl
  | other type data value children extra => cases children <;> rfl

/-- A second rewrite finds nothing left to do. -/
theorem edit_edit (nodes : List Node) :
    (nodes.map (edit Admonition.edit)).map (edit Admonition.edit) =
      nodes.map (edit Admonition.edit) := by
  induction nodes using forest_induction with
  | nil => rfl
  | branch kind data children extra rest ihc ihr =>
    rw [List.map_cons, List.map_cons, ihr, edit_branch, edit_branch, ihc, rewriteKind_rewriteKind]
  | literal kind data value extra rest ihr => rw [List.map_cons, List.map_cons, ihr]; rfl
  | parent type data value children extra rest ihc ihr =>
    rw [List.map_cons, List.map_cons, ihr, edit, editAll_eq_map, edit, editAll_eq_map, ihc]
  | leaf type data value extra rest ihr => rw [List.map_cons, List.map_cons, ihr]; rfl

theorem inOrder_edit (e : Edit) (node : Node) :
    (node.edit e).inOrder = node.inOrder.map (edit e) := by
  simpa [inOrderAll] using inOrderAll_edit e [node]

/-- **Rewriting the admonitions puts elements in their place and does nothing else.** A plain tree
has a result. It is the one tree with an element for every admonition, also for a walk that goes on
in the children of the elements. No admonition is left in it, each node in its order has the text
and the depth of heading that it had, and rewriting it again changes nothing. -/
theorem rewriteAdmonitions_rewrites {node : Node} (h : Plain [node]) :
    ∃ result, node.rewriteAdmonitions = .ok result ∧
      (∀ other, Rewrites [node] [other] ↔ other = result) ∧
      (∀ depth, node.height ≤ depth →
        (mapFrom replaced depth node).map Prod.fst = .ok result) ∧
      (∀ below ∈ result.inOrder, below.isAdmonition = false) ∧
      result.text = node.text ∧
      (result.inOrder.map fun below => (below.depth?, below.text)) =
        node.inOrder.map (fun below => (below.depth?, below.text)) ∧
      result.rewriteAdmonitions = .ok result := by
  have hresult := rewriteAdmonitions_plain h
  have htext (node : Node) : (node.edit Admonition.edit).text = node.text :=
    text_edit (fun _ _ => rfl) node
  refine ⟨_, hresult, fun other => ?_, fun depth hdepth => ?_, fun below hbelow => ?_, htext node,
    ?_, ?_⟩
  · rw [rewrites_iff, List.map_singleton, List.cons.injEq, and_iff_left rfl]
  · rw [mapFrom_replaced hdepth, hresult]
  · rw [inOrder_edit] at hbelow
    obtain ⟨before, -, rfl⟩ := List.mem_map.mp hbelow
    exact isAdmonition_edit before
  · rw [inOrder_edit, List.map_map]
    refine List.map_congr_left fun below _ => ?_
    rw [Function.comp_apply, depth?_admonition, htext]
  · have hplain : Plain [node.edit Admonition.edit] := plain_edit h
    have hagain := edit_edit [node]
    rw [List.map_singleton, List.map_singleton, List.cons.injEq] at hagain
    rw [rewriteAdmonitions_plain hplain, hagain.1]

/-- A tip in a note, and a warning that is no admonition. -/
def nestedTips : Node :=
  .ofKind .root [
    .ofKind (.directive "note" (some " Mind ") none) [
      .ofKind (.heading ⟨3, by decide, by decide⟩) [.ofText .text "Tides"],
      .ofKind (.directive "tip" (some " ") none) [.ofText .text "Look twice."]],
    .ofKind (.directive "warning" none none) []]

theorem rewriteAdmonitions_rewrites_nested :
    ∃ result, nestedTips.rewriteAdmonitions = .ok result ∧
      (∀ other, Rewrites [nestedTips] [other] ↔ other = result) ∧
      (∀ depth, nestedTips.height ≤ depth →
        (mapFrom replaced depth nestedTips).map Prod.fst = .ok result) ∧
      (∀ below ∈ result.inOrder, below.isAdmonition = false) ∧
      result.text = nestedTips.text ∧
      (result.inOrder.map fun below => (below.depth?, below.text)) =
        nestedTips.inOrder.map (fun below => (below.depth?, below.text)) ∧
      result.rewriteAdmonitions = .ok result :=
  rewriteAdmonitions_rewrites (by simp [nestedTips, Plain, inOrder, inOrderAll, ofKind, ofText,
    IsPlain])

end Node

end Quizmark
