import Quizmark.Proofs.Admonition
import Quizmark.Proofs.HeadingId.Numbering

/-!
# Where an id pass is stopped

What an id pass leaves of a forest when it comes to a heading that can hold no id.

* `Node.IsStuck`: a heading that stops the pass. In a plain forest nothing else does
  (`fault_assignIds_plain`).
* `Node.Halts`: the place of the first such heading in document order, in the forest before the pass
  and in what the pass leaves. All from there on is as it was.
* `Node.NumbersUpTo`: the ids of the headings before that place and the counter behind it.
* `assignIds_stopped`: a pass over a plain forest fails exactly if there is such a heading, and then
  it leaves this.
-/

namespace Quizmark

namespace Node

open HeadingId

/-! ## What stops the pass -/

/-- A heading that takes an id but can hold none: its properties count as true and are no object. -/
structure IsStuck (node : Node) : Prop where
  takesId : node.takesId = true
  properties : ∃ value, node.entry? propertiesKey = some value ∧ value.isTruthy = true ∧
    ∀ fields, value ≠ .obj fields

/-- The properties of a heading cannot be merged if they are there, count as true and are no object.
-/
theorem properties?_eq_none_iff {node : Node} :
    properties? (node.data.getD []) = none ↔
      ∃ value, node.entry? propertiesKey = some value ∧ value.isTruthy = true ∧
        ∀ fields, value ≠ .obj fields := by
  rw [properties?, get?_data]
  cases node.entry? propertiesKey with
  | none => simp
  | some value => cases value <;> simp

theorem idFault?_eq_some_iff {node : Node} {fault : Error} :
    node.idFault? = some fault ↔ fault = .notMergeable ∧ node.IsStuck := by
  unfold idFault?
  rw [Option.ite_none_right_eq_some, Bool.and_eq_true, Option.isNone_iff_eq_none,
    properties?_eq_none_iff, Option.some_inj]
  constructor
  · rintro ⟨⟨htakes, hproperties⟩, rfl⟩
    exact ⟨rfl, htakes, hproperties⟩
  · rintro ⟨rfl, htakes, hproperties⟩
    exact ⟨⟨htakes, hproperties⟩, rfl⟩

theorem idFault?_eq_none_iff {node : Node} : node.idFault? = none ↔ ¬ node.IsStuck := by
  rw [Option.eq_none_iff_forall_ne_some]
  constructor
  · intro h hstuck
    exact h .notMergeable (idFault?_eq_some_iff.mpr ⟨rfl, hstuck⟩)
  · intro h fault hfault
    exact h (idFault?_eq_some_iff.mp hfault).2

/-- A node of a plain forest stops no walk by its loose children. -/
theorem IsPlain.looseFault? {node : Node} (h : node.IsPlain) : node.looseFault? = none := by
  cases node with
  | literal kind data value extra =>
    have hextra : extra.children? = none := h
    simp [Node.looseFault?, looseItems?, hextra]
  | _ => rfl

variable {idPrefix : String} {c c' : Counter} {nodes nodes' : List Node}

/-- **In a plain forest the first stuck heading alone stops the pass.** -/
theorem fault_assignIds_plain (plain : Plain nodes) {fault : Error} :
    (assignIds idPrefix c nodes).fault = some fault ↔
      fault = .notMergeable ∧ ∃ node ∈ inOrderAll nodes, node.IsStuck := by
  rw [fault_assignIds]
  -- Plain nodes have no loose children, so a stuck heading is all that can stop the walk.
  have hnode : ∀ node ∈ inOrderAll nodes, ∀ fault,
      node.idFault?.or node.looseFault? = some fault ↔ fault = .notMergeable ∧ node.IsStuck := by
    intro node hmem fault
    rw [(plain node hmem).looseFault?, Option.or_none, idFault?_eq_some_iff]
  have hsound : ∀ fault, (inOrderAll nodes).findSome?
      (fun node => node.idFault?.or node.looseFault?) = some fault →
      fault = .notMergeable ∧ ∃ node ∈ inOrderAll nodes, node.IsStuck := by
    intro fault hfault
    obtain ⟨node, hmem, hnodeFault⟩ := List.exists_of_findSome?_eq_some hfault
    obtain ⟨rfl, hstuck⟩ := (hnode node hmem fault).mp hnodeFault
    exact ⟨rfl, node, hmem, hstuck⟩
  constructor
  · exact hsound fault
  · rintro ⟨rfl, node, hmem, hstuck⟩
    have hsome : ((inOrderAll nodes).findSome?
        fun node => node.idFault?.or node.looseFault?).isSome = true := by
      rw [List.findSome?_isSome_iff]
      exact ⟨node, hmem, by rw [(hnode node hmem _).mpr ⟨rfl, hstuck⟩]; rfl⟩
    obtain ⟨fault, hfault⟩ := Option.isSome_iff_exists.mp hsome
    obtain ⟨rfl, -⟩ := hsound fault hfault
    exact hfault

/-- A pass that is not stopped came to no stuck heading. -/
theorem not_isStuck_of_passes (h : Passes (idStep idPrefix) c nodes c' nodes') :
    ∀ node ∈ inOrderAll nodes, ¬ node.IsStuck := by
  intro node hmem
  have hfault := fault_assignIds idPrefix c nodes
  rw [assignIds, h.visitAll_eq, eq_comm, List.findSome?_eq_none_iff] at hfault
  exact idFault?_eq_none_iff.mp (Option.or_eq_none_iff.mp (hfault node hmem)).1

/-! ## Where the pass stands -/

/-- Of a forest and what a pass left of it: `heading` is the first stuck heading in document order.
From there on all nodes are as they were, and before it all is as it was but the data of the
headings that take an id. -/
structure Halts (nodes nodes' before : List Node) (heading : Node) (after before' : List Node) :
    Prop where
  order : inOrderAll nodes = before ++ heading :: after
  stuck : heading.IsStuck
  first : ∀ node ∈ before, ¬ node.IsStuck
  order' : inOrderAll nodes' = before' ++ heading :: after
  bare : bareAll nodes' = bareAll nodes

/-- The headings before the place where a pass was stopped have ids, and the counter counted them and
the heading at that place. -/
structure Halted (idPrefix : String) (c : Counter) (nodes : List Node) (c' : Counter)
    (nodes' before : List Node) (heading : Node) (after before' : List Node) : Prop
    extends Halts nodes nodes' before heading after before' where
  labelled : List.Forall₂ Labelled (before.filter takesId) (before'.filter takesId)
  given : ∃ c₁, IdsGiven idPrefix c (before.filter takesId) c₁ (before'.filter takesId) ∧
    c' = c₁.add (heading.baseId idPrefix)

/-- What the pass went through comes before the place where it is stopped. -/
theorem Halted.behind {c₁ : Counter} {xs xs' front front' before after before' : List Node}
    {heading : Node} (h : Halted idPrefix c₁ nodes c' nodes' before heading after before')
    (rest : List Node) (horder : inOrderAll xs = front ++ (inOrderAll nodes ++ rest))
    (horder' : inOrderAll xs' = front' ++ (inOrderAll nodes' ++ rest))
    (hbare : bareAll xs' = bareAll xs) (hfirst : ∀ node ∈ front, ¬ node.IsStuck)
    (hlabelled : List.Forall₂ Labelled (front.filter takesId) (front'.filter takesId))
    (hgiven : IdsGiven idPrefix c (front.filter takesId) c₁ (front'.filter takesId)) :
    Halted idPrefix c xs c' xs' (front ++ before) heading (after ++ rest) (front' ++ before') where
  order := by rw [horder, h.order]; simp
  stuck := h.stuck
  first := List.forall_mem_append.mpr ⟨hfirst, h.first⟩
  order' := by rw [horder', h.order']; simp
  bare := hbare
  labelled := by
    rw [List.filter_append, List.filter_append]
    exact List.rel_append hlabelled h.labelled
  given := by
    obtain ⟨c₂, hids, hcounter⟩ := h.given
    rw [List.filter_append, List.filter_append]
    exact ⟨c₂, hgiven.append hids, hcounter⟩

/-- A branch that holds an id, or takes none, comes before the place below it. -/
theorem Halted.of_branch {c₁ : Counter} {kind : BranchKind} {data data' : Option Fields}
    {extra : Fields} {before after before' : List Node} {heading : Node}
    (hstep : idStep idPrefix c (.branch kind data nodes extra) =
      ⟨.branch kind data' nodes extra, c₁, none⟩)
    (h : Halted idPrefix c₁ nodes c' nodes' before heading after before') (rest : List Node) :
    Halted idPrefix c (.branch kind data nodes extra :: rest) c'
      (.branch kind data' nodes' extra :: rest) (.branch kind data nodes extra :: before) heading
      (after ++ inOrderAll rest) (.branch kind data' nodes' extra :: before') := by
  have hfault := fault_idStep idPrefix c (.branch kind data nodes extra)
  rw [hstep, eq_comm, idFault?_eq_none_iff] at hfault
  have hbare : bareAll (.branch kind data' nodes' extra :: rest) =
      bareAll (.branch kind data nodes extra :: rest) := by
    rw [bareAll, bareAll, bare_of_branch hstep h.bare]
  exact h.behind _ (inOrderAll_cons _ rest) (inOrderAll_cons _ rest) hbare
    (List.forall_mem_singleton.mpr hfault) (labelled_of_branch nodes' hstep)
    (IdsGiven.of_branch nodes' hstep)

/-- A node that takes no id comes before the place below it. -/
theorem Halted.of_parent {type : String} {data : Option Fields} {value : Json} {extra : Fields}
    {before after before' : List Node} {heading : Node}
    (h : Halted idPrefix c nodes c' nodes' before heading after before') (rest : List Node) :
    Halted idPrefix c (.other type data value (some nodes) extra :: rest) c'
      (.other type data value (some nodes') extra :: rest)
      (.other type data value (some nodes) extra :: before) heading (after ++ inOrderAll rest)
      (.other type data value (some nodes') extra :: before') := by
  have hfree : ¬ (Node.other type data value (some nodes) extra).IsStuck := by
    rintro ⟨htakes, -⟩
    cases htakes
  have hlabelled : List.Forall₂ Labelled
      ([Node.other type data value (some nodes) extra].filter takesId)
      ([Node.other type data value (some nodes') extra].filter takesId) := .nil
  have hbare : bareAll (.other type data value (some nodes') extra :: rest) =
      bareAll (.other type data value (some nodes) extra :: rest) := by
    rw [bareAll, bareAll, Node.bare, Node.bare, h.bare]
  exact h.behind _ (inOrderAll_cons _ rest) (inOrderAll_cons _ rest) hbare
    (List.forall_mem_singleton.mpr hfree) hlabelled .nil

/-- Nodes that the pass went through come before the place in the nodes behind them. -/
theorem Halted.of_passes {c₁ : Counter} {xs xs' before after before' : List Node} {heading : Node}
    (hp : Passes (idStep idPrefix) c xs c₁ xs')
    (h : Halted idPrefix c₁ nodes c' nodes' before heading after before') :
    Halted idPrefix c (xs ++ nodes) c' (xs' ++ nodes') (inOrderAll xs ++ before) heading after
      (inOrderAll xs' ++ before') := by
  have hbare : bareAll (xs' ++ nodes') = bareAll (xs ++ nodes) := by
    rw [bareAll_append, bareAll_append, bareAll_of_passes hp, h.bare]
  have hbehind := h.behind [] (by simp [inOrderAll_append]) (by simp [inOrderAll_append])
    hbare (not_isStuck_of_passes hp) (labelled_of_passes hp) (idsGiven_of_passes hp)
  rwa [List.append_nil] at hbehind

/-- A walk that stops at a heading leaves the nodes before it passed, the heading and all after it
as they were. -/
theorem halted_of_stops {fault : Error} (h : Stops (idStep idPrefix) c nodes fault c' nodes')
    (hfault : fault = .notMergeable) :
    ∃ before heading after before',
      Halted idPrefix c nodes c' nodes' before heading after before' := by
  -- The heading is where the walk stops; each other rule puts something before or behind it.
  induction h with
  | @step c c' node head rest fault hstep =>
    obtain ⟨rfl, rfl⟩ := idStep_error hstep
    have hnode := fault_idStep idPrefix c head
    rw [hstep, eq_comm, idFault?_eq_some_iff] at hnode
    exact ⟨[], head, inOrderAll head.children ++ inOrderAll rest, [], {
      order := inOrderAll_cons head rest
      stuck := hnode.2
      first := by simp
      order' := inOrderAll_cons head rest
      bare := rfl
      labelled := .nil
      given := ⟨c, .nil, rfl⟩ }⟩
  | loose => cases hfault
  | @branch _ _ _ kind data extra head children rest children' fault hstep _ ihc =>
    obtain ⟨data', rfl⟩ := idStep_withData hstep
    obtain ⟨before, heading, after, before', hc⟩ := ihc hfault
    exact ⟨_, heading, _, _, hc.of_branch hstep rest⟩
  | @parent _ _ _ _ _ _ _ _ _ rest _ _ hstep _ ihc =>
    obtain ⟨rfl, rfl⟩ := idStep_id rfl hstep
    obtain ⟨before, heading, after, before', hc⟩ := ihc hfault
    exact ⟨_, heading, _, _, hc.of_parent rest⟩
  | later hp _ ihr =>
    obtain ⟨before, heading, after, before', hr⟩ := ihr hfault
    exact ⟨_, heading, after, _, hr.of_passes hp⟩

/-! ## What the pass leaves -/

/-- The base ids of headings do not depend on the data of headings. -/
theorem bases_bareAll (nodes : List Node) :
    (idHeadings (bareAll nodes)).map (baseId idPrefix) =
      (idHeadings nodes).map (baseId idPrefix) := by
  induction nodes using forest_induction with
  | nil => rfl
  | branch kind data children extra rest ihc ihr =>
    rw [bareAll, Node.bare, idHeadings_branch, idHeadings_branch, List.map_append, List.map_append,
      List.map_append, List.map_append, ihc, ihr]
    congr 2
    have htakes : ∀ data', (Node.branch kind data' (bareAll children) extra).takesId =
        (Node.branch kind data children extra).takesId :=
      fun data' => takesId_branch kind data data' children (bareAll children) extra
    cases hyes : (Node.branch kind data children extra).takesId with
    | false => simp [hyes, htakes]
    | true =>
      simp only [hyes, htakes, if_true, List.filter_cons, List.filter_nil, List.map_cons,
        List.map_nil, List.cons.injEq, and_true]
      exact baseId_branch (textAll_bareAll children)
  | literal kind data value extra rest ihr =>
    rw [bareAll, Node.bare, idHeadings_literal, idHeadings_literal, ihr]
  | parent type data value children extra rest ihc ihr =>
    rw [bareAll, Node.bare, idHeadings_parent, idHeadings_parent, List.map_append, List.map_append,
      ihc, ihr]
  | leaf type data value extra rest ihr =>
    rw [bareAll, Node.bare, idHeadings_leaf, idHeadings_leaf, ihr]

/-- The ids that a pass gives up to the heading at which it is stopped, and the counter that it
leaves. -/
structure NumbersUpTo (idPrefix : String) (c : Counter) (nodes : List Node) (c' : Counter)
    (before : List Node) (heading : Node) (before' : List Node) : Prop where
  /-- The first heading with a base id has it as it is, a later one with a number behind it. All
  else in the data of the heading is as it was. -/
  id : ∀ k found, (before.filter takesId)[k]? = some found →
    ∃ found', (before'.filter takesId)[k]? = some found' ∧ KeepsData found found' ∧
      found'.id? = some
        (if earlier idPrefix c nodes k found = 0 then found.baseId idPrefix
        else found.baseId idPrefix ++ "-" ++ toString (earlier idPrefix c nodes k found))
  /-- A pass that is not stopped, through the same forest with other data in its headings, gives the
  same ids to these headings. -/
  mended : ∀ mended mended' c'', bareAll mended = bareAll nodes →
    assignIds idPrefix c mended = ⟨mended', c'', none⟩ →
    (before'.filter takesId).map id? <+: (idHeadings mended').map id?
  /-- Each heading up to the one that stops the pass counts once for its base id. -/
  counter : ∀ base, c'.count base = c.count base +
    ((before ++ [heading]).filter takesId).countP fun found => found.baseId idPrefix == base

/-- Up to the heading that stops it, the walk numbers as one that goes through. -/
theorem numbersUpTo_of_halted {nodes' before after before' : List Node} {heading : Node}
    (h : Halted idPrefix c nodes c' nodes' before heading after before') :
    NumbersUpTo idPrefix c nodes c' before heading before' := by
  obtain ⟨c₁, hids, rfl⟩ := h.given
  -- The headings of the forest are those before the place, the one at the place, and more.
  have hheadings : idHeadings nodes =
      before.filter takesId ++ heading :: after.filter takesId := by
    rw [idHeadings, h.order, List.filter_append, List.filter_cons_of_pos h.stuck.takesId]
  constructor
  · intro k found hfound
    obtain ⟨hlt, rfl⟩ := List.getElem?_eq_some_iff.mp hfound
    have hlt' : k < (before'.filter takesId).length := h.labelled.length_eq ▸ hlt
    have hfound' : (before'.filter takesId)[k]? = some (before'.filter takesId)[k] :=
      List.getElem?_eq_getElem hlt'
    refine ⟨_, hfound', (h.labelled.get hlt hlt').keepsData, ?_⟩
    have hid := hids.id_eq hfound hfound'
    rw [hid, earlier_eq, hheadings, List.map_append, List.take_append_of_le_length (by simp; omega)]
    rfl
  · intro mended mended' c'' hbare hrun
    have hbases : (idHeadings mended).map (baseId idPrefix) =
        (idHeadings nodes).map (baseId idPrefix) := by
      rw [← bases_bareAll mended, hbare, bases_bareAll]
    have hmended := (idsGiven_of_passes (visitAll_eq_iff.mp hrun)).ids
    rw [hmended, hbases, hids.ids, hheadings, List.map_append, ids_append, List.map_append]
    exact List.prefix_append _ _
  · intro base
    have hall : c₁.add (heading.baseId idPrefix) =
        c.addAll (((before ++ [heading]).filter takesId).map (baseId idPrefix)) := by
      rw [List.filter_append, List.filter_cons_of_pos h.stuck.takesId, List.map_append,
        Counter.addAll_append, ← hids.counter]
      rfl
    rw [hall, Counter.count_addAll, List.count, List.countP_map]
    rfl

/-- **An id pass is stopped at the first heading that can hold no id.** The headings before it have
the ids that they would have had, it counts with them, and the rest is as it was. -/
theorem assignIds_stopped (plain : Plain nodes) :
    (∀ fault, (assignIds idPrefix c nodes).fault = some fault ↔
      fault = .notMergeable ∧ ∃ node ∈ inOrderAll nodes, node.IsStuck) ∧
    ((∃ node ∈ inOrderAll nodes, node.IsStuck) → ∃ before heading after before',
      Halts nodes (assignIds idPrefix c nodes).value before heading after before' ∧
      NumbersUpTo idPrefix c nodes (assignIds idPrefix c nodes).state before heading before') := by
  refine ⟨fun fault => fault_assignIds_plain plain, fun hstuck => ?_⟩
  have hfault : (assignIds idPrefix c nodes).fault = some .notMergeable :=
    (fault_assignIds_plain plain).mpr ⟨rfl, hstuck⟩
  obtain ⟨before, heading, after, before', h⟩ :=
    halted_of_stops (stops_visitAll nodes c hfault) rfl
  exact ⟨before, heading, after, before', h.toHalts, numbersUpTo_of_halted h⟩

/-- Headings with one title: one that has a class and holds a second one, one whose properties are a
text, in a quotation, and a last one behind that. -/
def halfDone : List Node :=
  [((Node.ofTitle 3 "").withData (some [("hProperties", .obj [("class", .str "x")])])).withChildren
      [.ofText .text "A", .ofTitle 4 ""],
    .other "blockquote" none .null
      (some [(Node.ofTitle 3 "A").withData (some [("hProperties", .str "deep")]), .ofTitle 4 "A"]) [],
    .ofTitle 3 "A"]

theorem assignIds_stopped_halfDone :
    Plain halfDone ∧
      (idHeadings (assignIds "q" askedOnce halfDone).value).map id? =
        [some "q-A-1", some "q-section", none, none, none] ∧
      (assignIds "q" askedOnce halfDone).fault = some .notMergeable ∧
      ∃ before heading after before',
        Halts halfDone (assignIds "q" askedOnce halfDone).value before heading after before' ∧
        NumbersUpTo "q" askedOnce halfDone (assignIds "q" askedOnce halfDone).state before heading
          before' := by
  have hplain : Plain halfDone := by
    simp [halfDone, Plain, inOrder, inOrderAll, ofTitle, ofKind, ofText, withData,
      withChildren, IsPlain]
  have hstopped := @assignIds_stopped "q" askedOnce halfDone hplain
  have hfault : (assignIds "q" askedOnce halfDone).fault = some .notMergeable := by decide +kernel
  obtain ⟨-, hstuck⟩ := (hstopped.1 _).mp hfault
  exact ⟨hplain, by decide +kernel, hfault, hstopped.2 hstuck⟩

end Node

end Quizmark
