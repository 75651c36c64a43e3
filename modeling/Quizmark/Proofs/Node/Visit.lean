import Quizmark.Node.Walk
import Quizmark.Proofs.Node.Forest

/-!
# Passes in place

What `Node.visitAll` does, said once so that the proofs about a pass look at its step only.

* `Node.Passes step s nodes s' nodes'`: from state `s`, the pass goes through `nodes` without being
  stopped, and leaves `nodes'` and state `s'`. It has one rule for each kind of first node.
* `visitAll_eq_iff`: these are exactly the runs of `visitAll` that end without a fault.
* `Passes.all`: what a pass keeps of all nodes.
* `Node.Stops step s nodes fault s' nodes'`: from state `s`, the pass is stopped by `fault`. So is
  every run of `visitAll` that ends with one (`stops_visitAll`).
* `Node.looseFault?`: what stops every pass at a node. A pass is stopped by the first such fault, or
  fault of its step, in document order (`fault_visitAll`).
* `visitAll_edit`: a pass whose step commutes with an edit commutes with it as a whole, stopped or
  not.
-/

namespace Quizmark

namespace Outcome

variable {σ α β : Type}

/-- The outcome with another value. -/
def map (f : α → β) (outcome : Outcome σ α) : Outcome σ β :=
  ⟨f outcome.value, outcome.state, outcome.fault⟩

@[simp] theorem map_state (f : α → β) (o : Outcome σ α) : (o.map f).state = o.state := rfl

@[simp] theorem map_fault (f : α → β) (o : Outcome σ α) : (o.map f).fault = o.fault := rfl

/-- An outcome without a fault, in one piece. -/
theorem eq_of_fault {o : Outcome σ α} (h : o.fault = none) : o = ⟨o.value, o.state, none⟩ := by
  cases o
  simp_all

end Outcome

namespace Node

variable {σ : Type}

/-! ## Passes that are not stopped -/

/-- The runs of a pass without a fault. A literal has no children to go on in, but the pass looks at
its loose ones. -/
inductive Passes (step : σ → Node → Outcome σ Node) : σ → List Node → σ → List Node → Prop where
  | nil {s : σ} : Passes step s [] s []
  | branch {s s₁ s₂ s₃ : σ} {kind : BranchKind} {data : Option Fields} {extra : Fields}
      {head : Node} {children rest children' rest' : List Node} :
    step s (.branch kind data children extra) = ⟨head, s₁, none⟩ →
    Passes step s₁ children s₂ children' → Passes step s₂ rest s₃ rest' →
    Passes step s (.branch kind data children extra :: rest) s₃
      (head.withChildren children' :: rest')
  | literal {s s₁ s₂ : σ} {kind : LiteralKind} {data : Option Fields} {value : String}
      {extra : Fields} {items : List Json} {head : Node} {rest rest' : List Node} :
    step s (.literal kind data value extra) = ⟨head, s₁, none⟩ →
    looseItems? extra = some items → Passes step s₁ rest s₂ rest' →
    Passes step s (.literal kind data value extra :: rest) s₂ (head :: rest')
  | parent {s s₁ s₂ s₃ : σ} {type : String} {data : Option Fields} {value : Json} {extra : Fields}
      {head : Node} {children rest children' rest' : List Node} :
    step s (.other type data value (some children) extra) = ⟨head, s₁, none⟩ →
    Passes step s₁ children s₂ children' → Passes step s₂ rest s₃ rest' →
    Passes step s (.other type data value (some children) extra :: rest) s₃
      (head.withChildren children' :: rest')
  | leaf {s s₁ s₂ : σ} {type : String} {data : Option Fields} {value : Json} {extra : Fields}
      {head : Node} {rest rest' : List Node} :
    step s (.other type data value none extra) = ⟨head, s₁, none⟩ →
    Passes step s₁ rest s₂ rest' →
    Passes step s (.other type data value none extra :: rest) s₂ (head :: rest')

variable {step : σ → Node → Outcome σ Node} {s s₁ s₂ : σ}

/-- Below a node at which the step fails, nothing is done. -/
theorem visit_of_step_error {node : Node} {fault : Error} (h : (step s node).fault = some fault) :
    node.visit step s = step s node := by
  cases node with
  | branch kind data children extra => simp [visit, h]
  | literal kind data value extra => simp [visit, h]
  | other type data value children extra => cases children <;> simp [visit, h]

/-- A pass goes through its first node and what is below it, and then through the rest. -/
theorem passes_cons {node : Node} {rest : List Node}
    (h : (visitAll step s (node :: rest)).fault = none)
    (hfirst : (step s node).fault = none → (node.visit step s).fault = none →
      ∀ s' rest', Passes step (node.visit step s).state rest s' rest' →
        Passes step s (node :: rest) s' ((node.visit step s).value :: rest'))
    (ihr : ∀ s, (visitAll step s rest).fault = none →
      Passes step s rest (visitAll step s rest).state (visitAll step s rest).value) :
    Passes step s (node :: rest) (visitAll step s (node :: rest)).state
      (visitAll step s (node :: rest)).value := by
  rw [visitAll] at h ⊢
  cases hvisit : (node.visit step s).fault with
  | some fault => simp [hvisit] at h
  | none =>
    simp only [hvisit] at h ⊢
    have hstep : (step s node).fault = none := by
      cases hstep : (step s node).fault with
      | none => rfl
      | some fault => rw [visit_of_step_error hstep, hstep] at hvisit; exact hvisit
    exact hfirst hstep hvisit _ _ (ihr _ h)

/-- A visit that no fault stops is a pass through the whole forest. -/
theorem passes_visitAll (nodes : List Node) (s : σ) (h : (visitAll step s nodes).fault = none) :
    Passes step s nodes (visitAll step s nodes).state (visitAll step s nodes).value := by
  induction nodes using forest_induction generalizing s with
  | nil => exact .nil
  | branch kind data children extra rest ihc ihr =>
    refine passes_cons h (fun hstep hf s' rest' hr => ?_) (fun s => ihr s)
    simp only [visit, hstep] at hf hr ⊢
    exact .branch (Outcome.eq_of_fault hstep) (ihc _ hf) hr
  | literal kind data value extra rest ihr =>
    refine passes_cons h (fun hstep hf s' rest' hr => ?_) (fun s => ihr s)
    cases hitems : looseItems? extra with
    | none => simp [visit, hstep, hitems] at hf
    | some items =>
      simp only [visit, hstep, hitems] at hr ⊢
      exact .literal (Outcome.eq_of_fault hstep) hitems hr
  | parent type data value children extra rest ihc ihr =>
    refine passes_cons h (fun hstep hf s' rest' hr => ?_) (fun s => ihr s)
    simp only [visit, hstep] at hf hr ⊢
    exact .parent (Outcome.eq_of_fault hstep) (ihc _ hf) hr
  | leaf type data value extra rest ihr =>
    refine passes_cons h (fun hstep hf s' rest' hr => ?_) (fun s => ihr s)
    simp only [visit] at hr ⊢
    exact .leaf (Outcome.eq_of_fault hstep) hr

theorem Passes.visitAll_eq {nodes nodes' : List Node} (h : Passes step s nodes s₁ nodes') :
    visitAll step s nodes = ⟨nodes', s₁, none⟩ := by
  induction h with
  | nil => rfl
  | branch hstep _ _ ihc ihr => simp [visitAll, visit, hstep, ihc, ihr]
  | literal hstep hitems _ ihr => simp [visitAll, visit, hstep, hitems, ihr]
  | parent hstep _ _ ihc ihr => simp [visitAll, visit, hstep, ihc, ihr]
  | leaf hstep _ ihr => simp [visitAll, visit, hstep, ihr]

theorem visitAll_eq_iff {nodes nodes' : List Node} :
    visitAll step s nodes = ⟨nodes', s₁, none⟩ ↔ Passes step s nodes s₁ nodes' := by
  refine ⟨fun h => ?_, Passes.visitAll_eq⟩
  have hp : Passes step s nodes _ _ := passes_visitAll nodes s (by rw [h])
  rwa [h] at hp

/-- A pass through two lists is a pass through the first and then one through the second. -/
theorem Passes.append {xs ys xs' ys' : List Node} (hx : Passes step s xs s₁ xs')
    (hy : Passes step s₁ ys s₂ ys') : Passes step s (xs ++ ys) s₂ (xs' ++ ys') := by
  induction hx with
  | nil => exact hy
  | branch hstep hc _ _ ihr => exact .branch hstep hc (ihr hy)
  | literal hstep hitems _ ihr => exact .literal hstep hitems (ihr hy)
  | parent hstep hc _ _ ihr => exact .parent hstep hc (ihr hy)
  | leaf hstep _ ihr => exact .leaf hstep (ihr hy)

/-- A pass that goes through a list goes on behind it as it would from there. -/
theorem visitAll_append {xs xs' : List Node} (h : visitAll step s xs = ⟨xs', s₁, none⟩)
    (ys : List Node) : visitAll step s (xs ++ ys) = (visitAll step s₁ ys).map (xs' ++ ·) := by
  induction xs generalizing s xs' with
  | nil =>
    cases h
    rfl
  | cons node rest ih =>
    rw [visitAll] at h
    rw [List.cons_append, visitAll]
    cases hfirst : (node.visit step s).fault with
    | some fault => simp [hfirst] at h
    | none =>
      simp only [hfirst, Outcome.mk.injEq] at h ⊢
      obtain ⟨rfl, hstate, hfault⟩ := h
      have hrest := Outcome.eq_of_fault hfault
      rw [hstate] at hrest
      rw [ih hrest]
      rfl

/-! ## Passes that are stopped -/

/-- The runs of a pass with a fault: it went through some nodes, and was stopped at a node, at the
loose children of a literal or among the children of a node. What stands behind is as it was. -/
inductive Stops (step : σ → Node → Outcome σ Node) :
    σ → List Node → Error → σ → List Node → Prop where
  | step {s s' : σ} {node head : Node} {rest : List Node} {fault : Error} :
    step s node = ⟨head, s', some fault⟩ →
    Stops step s (node :: rest) fault s' (head :: rest)
  | loose {s s' : σ} {kind : LiteralKind} {data : Option Fields} {value : String} {extra : Fields}
      {head : Node} {rest : List Node} :
    step s (.literal kind data value extra) = ⟨head, s', none⟩ → looseItems? extra = none →
    Stops step s (.literal kind data value extra :: rest) .notIterable s' (head :: rest)
  | branch {s s₁ s₂ : σ} {kind : BranchKind} {data : Option Fields} {extra : Fields}
      {head : Node} {children rest children' : List Node} {fault : Error} :
    step s (.branch kind data children extra) = ⟨head, s₁, none⟩ →
    Stops step s₁ children fault s₂ children' →
    Stops step s (.branch kind data children extra :: rest) fault s₂
      (head.withChildren children' :: rest)
  | parent {s s₁ s₂ : σ} {type : String} {data : Option Fields} {value : Json} {extra : Fields}
      {head : Node} {children rest children' : List Node} {fault : Error} :
    step s (.other type data value (some children) extra) = ⟨head, s₁, none⟩ →
    Stops step s₁ children fault s₂ children' →
    Stops step s (.other type data value (some children) extra :: rest) fault s₂
      (head.withChildren children' :: rest)
  | later {s s₁ s₂ : σ} {node node' : Node} {rest rest' : List Node} {fault : Error} :
    Passes step s [node] s₁ [node'] → Stops step s₁ rest fault s₂ rest' →
    Stops step s (node :: rest) fault s₂ (node' :: rest')

/-- What a pass keeps of every single node, it keeps of all nodes, if its step changes the data of
its node at most. -/
theorem Passes.all {P : Node → Prop}
    (hown : ∀ node data children, P node → P ((node.withData data).withChildren children))
    (hstep : ∀ {s s' node head}, step s node = ⟨head, s', none⟩ →
      ∃ data, head = node.withData data)
    {nodes nodes' : List Node} (h : Passes step s nodes s₁ nodes') (all : All P nodes) :
    All P nodes' := by
  induction h with
  | nil => exact all
  | branch hs _ _ ihc ihr =>
    obtain ⟨data, rfl⟩ := hstep hs
    obtain ⟨hhead, hr⟩ := all_cons.mp all
    obtain ⟨hnode, hc⟩ := all_branch.mp hhead
    exact all_cons.mpr ⟨all_branch.mpr ⟨hown _ data _ hnode, ihc hc⟩, ihr hr⟩
  | literal hs _ _ ihr =>
    obtain ⟨data, rfl⟩ := hstep hs
    obtain ⟨hhead, hr⟩ := all_cons.mp all
    exact all_cons.mpr ⟨all_literal.mpr (hown _ data [] (all_literal.mp hhead)), ihr hr⟩
  | parent hs _ _ ihc ihr =>
    obtain ⟨data, rfl⟩ := hstep hs
    obtain ⟨hhead, hr⟩ := all_cons.mp all
    obtain ⟨hnode, hc⟩ := all_parent.mp hhead
    exact all_cons.mpr ⟨all_parent.mpr ⟨hown _ data _ hnode, ihc hc⟩, ihr hr⟩
  | leaf hs _ ihr =>
    obtain ⟨data, rfl⟩ := hstep hs
    obtain ⟨hhead, hr⟩ := all_cons.mp all
    exact all_cons.mpr ⟨all_leaf.mpr (hown _ data [] (all_leaf.mp hhead)), ihr hr⟩

theorem passes_visit {node : Node} (h : (node.visit step s).fault = none) :
    Passes step s [node] (node.visit step s).state [(node.visit step s).value] := by
  rw [← visitAll_eq_iff]
  simp [visitAll, h]

/-- A pass is stopped at its first node, below it, or behind it. -/
theorem stops_cons {node : Node} {rest : List Node} {fault : Error}
    (h : (visitAll step s (node :: rest)).fault = some fault)
    (hbelow : (step s node).fault = none → (node.visit step s).fault = some fault →
      Stops step s (node :: rest) fault (node.visit step s).state
        ((node.visit step s).value :: rest))
    (ihr : ∀ s, (visitAll step s rest).fault = some fault →
      Stops step s rest fault (visitAll step s rest).state (visitAll step s rest).value) :
    Stops step s (node :: rest) fault (visitAll step s (node :: rest)).state
      (visitAll step s (node :: rest)).value := by
  rw [visitAll] at h ⊢
  cases hvisit : (node.visit step s).fault with
  | none =>
    simp only [hvisit] at h ⊢
    exact .later (passes_visit hvisit) (ihr _ h)
  | some f =>
    simp only [hvisit] at h ⊢
    cases h
    -- The visit was stopped by the step at the node itself, or below it.
    cases hstep : (step s node).fault with
    | none => exact hbelow hstep hvisit
    | some g =>
      rw [visit_of_step_error hstep] at hvisit ⊢
      exact .step (by rw [← hvisit])

/-- A visit that a fault stops has passed what comes before it. -/
theorem stops_visitAll (nodes : List Node) (s : σ) {fault : Error}
    (h : (visitAll step s nodes).fault = some fault) :
    Stops step s nodes fault (visitAll step s nodes).state (visitAll step s nodes).value := by
  induction nodes using forest_induction generalizing s with
  | nil => cases h
  | branch kind data children extra rest ihc ihr =>
    refine stops_cons h (fun hstep hf => ?_) (fun s => ihr s)
    simp only [visit, hstep] at hf ⊢
    exact .branch (Outcome.eq_of_fault hstep) (ihc _ hf)
  | literal kind data value extra rest ihr =>
    refine stops_cons h (fun hstep hf => ?_) (fun s => ihr s)
    cases hitems : looseItems? extra with
    | none =>
      simp only [visit, hstep, hitems] at hf ⊢
      cases hf
      exact .loose (Outcome.eq_of_fault hstep) hitems
    | some items => simp [visit, hstep, hitems] at hf
  | parent type data value children extra rest ihc ihr =>
    refine stops_cons h (fun hstep hf => ?_) (fun s => ihr s)
    simp only [visit, hstep] at hf ⊢
    exact .parent (Outcome.eq_of_fault hstep) (ihc _ hf)
  | leaf type data value extra rest ihr =>
    refine stops_cons h (fun hstep hf => ?_) (fun s => ihr s)
    rw [visit, hstep] at hf
    cases hf

/-! ## What stops a pass -/

/-- What stops every pass at a node: loose children that have no items to give. -/
def looseFault? : Node → Option Error
  | literal _ _ _ extra => if (looseItems? extra).isSome then none else some .notIterable
  | branch .. | other .. => none

@[simp] theorem looseFault?_edit (e : Edit) (node : Node) :
    (node.edit e).looseFault? = node.looseFault? := by
  cases node with
  | other type data value children extra => cases children <;> rfl
  | _ => rfl

theorem fault_visitAll_cons {node : Node} {rest : List Node} {here later : Option Error}
    (hnode : (node.visit step s).fault = here)
    (hrest : ∀ s, (visitAll step s rest).fault = later) :
    (visitAll step s (node :: rest)).fault = here.or later := by
  rw [visitAll]
  subst hnode
  cases hf : (node.visit step s).fault with
  | some fault => rfl
  | none => exact hrest _

/-- Where the node alone tells whether a step fails, a pass is stopped by the first fault in
document order, whatever the state is. -/
theorem fault_visitAll {f : Node → Option Error} (hstep : ∀ s node, (step s node).fault = f node)
    (nodes : List Node) (s : σ) :
    (visitAll step s nodes).fault =
      (inOrderAll nodes).findSome? fun node => (f node).or node.looseFault? := by
  induction nodes using forest_induction generalizing s with
  | nil => rfl
  | branch kind data children extra rest ihc ihr =>
    rw [inOrderAll, List.findSome?_append, inOrder, List.findSome?_cons, looseFault?,
      Option.or_none, ← hstep s]
    refine fault_visitAll_cons ?_ ihr
    rw [visit]
    cases hf : (step s (.branch kind data children extra)).fault <;> simp [hf, ihc]
  | literal kind data value extra rest ihr =>
    rw [inOrderAll, List.findSome?_append, inOrder, List.findSome?_cons, looseFault?, ← hstep s]
    refine fault_visitAll_cons ?_ ihr
    rw [visit]
    cases hf : (step s (.literal kind data value extra)).fault <;>
      cases looseItems? extra <;> simp [hf]
  | parent type data value children extra rest ihc ihr =>
    rw [inOrderAll, List.findSome?_append, inOrder, List.findSome?_cons, looseFault?,
      Option.or_none, ← hstep s]
    refine fault_visitAll_cons ?_ ihr
    rw [visit]
    cases hf : (step s (.other type data value (some children) extra)).fault <;> simp [hf, ihc]
  | leaf type data value extra rest ihr =>
    rw [inOrderAll, List.findSome?_append, inOrder, List.findSome?_cons, looseFault?,
      Option.or_none, ← hstep s]
    refine fault_visitAll_cons ?_ ihr
    rw [visit]
    cases hf : (step s (.other type data value none extra)).fault <;> simp

/-! ## Passes and edits -/

/-- A visit whose step goes with an edit goes with it as a whole. -/
theorem visitAll_edit {e : Edit}
    (hstep : ∀ s node, step s (node.edit e) = (step s node).map (edit e))
    (nodes : List Node) (s : σ) :
    visitAll step s (nodes.map (edit e)) = (visitAll step s nodes).map (·.map (edit e)) := by
  have hcons : ∀ (node : Node) (rest : List Node) (s : σ),
      (node.edit e).visit step s = (node.visit step s).map (edit e) →
      (∀ s, visitAll step s (rest.map (edit e)) = (visitAll step s rest).map (·.map (edit e))) →
      visitAll step s ((node :: rest).map (edit e)) =
        (visitAll step s (node :: rest)).map (·.map (edit e)) := by
    intro node rest s hnode ihr
    rw [List.map_cons, visitAll, visitAll, hnode]
    cases hf : (node.visit step s).fault <;> simp [hf, ihr, Outcome.map]
  induction nodes using forest_induction generalizing s with
  | nil => rfl
  | branch kind data children extra rest ihc ihr =>
    refine hcons _ rest s ?_ ihr
    have hhead := hstep s (.branch kind data children extra)
    rw [edit, editAll_eq_map] at hhead ⊢
    rw [visit, visit, hhead]
    cases hf : (step s (.branch kind data children extra)).fault <;>
      simp [hf, ihc, Outcome.map, edit_withChildren]
  | literal kind data value extra rest ihr =>
    refine hcons _ rest s ?_ ihr
    have hhead := hstep s (.literal kind data value extra)
    rw [edit] at hhead ⊢
    rw [visit, visit, hhead]
    cases hf : (step s (.literal kind data value extra)).fault <;>
      cases looseItems? extra <;> simp [hf, Outcome.map]
  | parent type data value children extra rest ihc ihr =>
    refine hcons _ rest s ?_ ihr
    have hhead := hstep s (.other type data value (some children) extra)
    rw [edit, editAll_eq_map] at hhead ⊢
    rw [visit, visit, hhead]
    cases hf : (step s (.other type data value (some children) extra)).fault <;>
      simp [hf, ihc, Outcome.map, edit_withChildren]
  | leaf type data value extra rest ihr =>
    exact hcons _ rest s (hstep s (.other type data value none extra)) ihr

end Node

end Quizmark
