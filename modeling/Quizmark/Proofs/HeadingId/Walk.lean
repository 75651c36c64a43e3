import Quizmark.Proofs.HeadingId.Counter
import Quizmark.Proofs.Json.Fields
import Quizmark.Proofs.Node.Visit

/-!
# Headings and their ids

What `Node.assignIds` leaves on the headings of a forest.

* `idStep_cases`: what one step of the pass does, and with it all that it may do.
* `Node.idHeadings`: the headings that take an id, in document order, and `Node.id?`, the id that a
  node carries.
* `Node.IdsGiven`: headings carry the ids that a counter gives to their base ids, one after the
  other, and the counter has gone on. So it is after every pass that is not stopped
  (`idsGiven_of_passes`), and of the first headings after one that is (`idsGiven_of_stops`).
* `Node.idFault?`: what stops the id pass at a heading (`fault_assignIds`).
* `assignIds_edit`: the pass commutes with every edit that keeps headings and their base ids.
-/

namespace Quizmark

namespace Node

open HeadingId

/-! ## One step -/

/-- The id that a node carries in its data. -/
def id? (node : Node) : Option String :=
  match node.data.bind (Fields.get? · propertiesKey) with
  | some (.obj properties) => (Fields.get? properties "id").bind Json.str?
  | _ => none

theorem id?_withData {id : String} {node : Node} {data : Fields}
    (h : withId? id node.data = some data) : (node.withData (some data)).id? = some id := by
  have hdata : (node.withData (some data)).data = some data := by cases node <;> rfl
  obtain ⟨properties, -, rfl⟩ := Option.map_eq_some_iff.mp h
  rw [id?, hdata]
  simp [Fields.get?_put, Json.str?]

variable {idPrefix : String} {c c' : Counter} {node head : Node}

/-- The depth of a branch is the depth of its kind. -/
theorem depth?_branch (kind : BranchKind) (data data' : Option Fields)
    (children children' : List Node) (extra extra' : Fields) :
    (Node.branch kind data children extra).depth? =
      (Node.branch kind data' children' extra').depth? := by
  cases kind <;> rfl

/-- What a step of the id pass does when it does not fail: nothing, or it gives the heading the next
id of its base id and counts. -/
theorem idStep_cases (h : idStep idPrefix c node = ⟨head, c', none⟩) :
    (node.takesId = false ∧ head = node ∧ c' = c) ∨
      (node.takesId = true ∧ c' = c.add (node.baseId idPrefix) ∧ ∃ data,
        withId? (numbered (node.baseId idPrefix) (c.count (node.baseId idPrefix))) node.data =
          some data ∧ head = node.withData (some data)) := by
  unfold idStep at h
  cases htakes : node.takesId with
  | false =>
    simp only [htakes, Bool.false_eq_true, if_false, Outcome.mk.injEq] at h
    exact .inl ⟨rfl, h.1.symm, h.2.1.symm⟩
  | true =>
    simp only [htakes, if_true] at h
    split at h
    · rename_i data hdata
      simp only [Outcome.mk.injEq] at h
      exact .inr ⟨rfl, h.2.1.symm, data, hdata, h.1.symm⟩
    · simp at h

/-- A step of the id pass changes the data of its node at most. -/
theorem idStep_withData (h : idStep idPrefix c node = ⟨head, c', none⟩) :
    ∃ data, head = node.withData data := by
  rcases idStep_cases h with ⟨-, rfl, -⟩ | ⟨-, -, data, -, rfl⟩
  · exact ⟨head.data, by cases head <;> rfl⟩
  · exact ⟨some data, rfl⟩

/-- Only branches take ids. -/
theorem idStep_id (hno : node.takesId = false) (h : idStep idPrefix c node = ⟨head, c', none⟩) :
    head = node ∧ c' = c := by
  rcases idStep_cases h with ⟨-, hhead, hc⟩ | ⟨htakes, -⟩
  · exact ⟨hhead, hc⟩
  · rw [hno] at htakes
    cases htakes

/-- A step of the id pass that fails leaves its node as it is, but counts it. -/
theorem idStep_error {fault : Error} (h : idStep idPrefix c node = ⟨head, c', some fault⟩) :
    head = node ∧ c' = c.add (node.baseId idPrefix) := by
  unfold idStep at h
  split at h
  · dsimp only at h
    split at h
    · simp at h
    · simp only [Outcome.mk.injEq] at h
      exact ⟨h.1.symm, h.2.1.symm⟩
  · simp at h

/-! ## Whole passes -/

/-- The headings of a forest that take an id, in document order. -/
def idHeadings (nodes : List Node) : List Node := (inOrderAll nodes).filter takesId

theorem idHeadings_nil : idHeadings [] = [] := rfl

theorem idHeadings_append (xs ys : List Node) :
    idHeadings (xs ++ ys) = idHeadings xs ++ idHeadings ys := by
  simp [idHeadings, inOrderAll_append]

theorem idHeadings_branch (kind : BranchKind) (data : Option Fields) (children : List Node)
    (extra : Fields) (rest : List Node) :
    idHeadings (.branch kind data children extra :: rest) =
      [.branch kind data children extra].filter takesId ++ idHeadings children ++
        idHeadings rest := by
  simp only [idHeadings, inOrderAll, inOrder, ← List.filter_append]
  rfl

theorem idHeadings_literal (kind : LiteralKind) (data : Option Fields) (value : String)
    (extra : Fields) (rest : List Node) :
    idHeadings (.literal kind data value extra :: rest) = idHeadings rest := by
  simp [idHeadings, inOrderAll, inOrder, takesId, depth?]

theorem idHeadings_parent (type : String) (data : Option Fields) (value : Json)
    (children : List Node) (extra : Fields) (rest : List Node) :
    idHeadings (.other type data value (some children) extra :: rest) =
      idHeadings children ++ idHeadings rest := by
  simp [idHeadings, inOrderAll, inOrder, takesId, depth?]

theorem idHeadings_leaf (type : String) (data : Option Fields) (value : Json) (extra : Fields)
    (rest : List Node) :
    idHeadings (.other type data value none extra :: rest) = idHeadings rest := by
  simp [idHeadings, inOrderAll, inOrder, takesId, depth?]

/-- The headings `hs'` are the headings `hs` with the ids that the counter `c` gives them, and `c'`
is the counter behind them. -/
structure IdsGiven (idPrefix : String) (c : Counter) (hs : List Node) (c' : Counter)
    (hs' : List Node) : Prop where
  ids : hs'.map id? = (HeadingId.ids c (hs.map (baseId idPrefix))).map some
  counter : c' = c.addAll (hs.map (baseId idPrefix))

theorem IdsGiven.nil : IdsGiven idPrefix c [] c [] := ⟨rfl, rfl⟩

theorem IdsGiven.append {c₁ c₂ : Counter} {hs hs' ks ks' : List Node}
    (h : IdsGiven idPrefix c hs c₁ hs') (k : IdsGiven idPrefix c₁ ks c₂ ks') :
    IdsGiven idPrefix c (hs ++ ks) c₂ (hs' ++ ks') where
  ids := by
    rw [List.map_append, List.map_append, ids_append, List.map_append, h.ids, k.ids, h.counter]
  counter := by rw [List.map_append, Counter.addAll_append, ← h.counter, k.counter]

/-- A step gives an id to a branch, if that takes one, whatever the pass makes of its children. -/
theorem IdsGiven.of_branch {kind : BranchKind} {data data' : Option Fields} {children : List Node}
    {extra : Fields} (children' : List Node)
    (h : idStep idPrefix c (.branch kind data children extra) =
      ⟨.branch kind data' children extra, c', none⟩) :
    IdsGiven idPrefix c ([.branch kind data children extra].filter takesId) c'
      ([.branch kind data' children' extra].filter takesId) := by
  have htakes : (Node.branch kind data' children' extra).takesId =
      (Node.branch kind data children extra).takesId := by
    rw [takesId, takesId, depth?_branch]
  rcases idStep_cases h with ⟨hno, hhead, rfl⟩ | ⟨hyes, rfl, d, hd, hhead⟩
  · simpa [hno, htakes] using IdsGiven.nil
  · have hid : (Node.branch kind data' children' extra).id? = _ :=
      (congrArg id? hhead).trans (id?_withData hd)
    rw [List.filter_cons_of_pos hyes, List.filter_cons_of_pos (htakes.trans hyes), List.filter_nil]
    exact ⟨by simp [hid], rfl⟩

/-- A walk that goes through gives its headings the ids of their base ids, in document order. -/
theorem idsGiven_of_passes {nodes nodes' : List Node}
    (h : Passes (idStep idPrefix) c nodes c' nodes') :
    IdsGiven idPrefix c (idHeadings nodes) c' (idHeadings nodes') := by
  induction h with
  | nil => exact .nil
  | @branch _ _ _ _ kind data extra head children rest children' rest' hstep _ _ ihc ihr =>
    obtain ⟨d, rfl⟩ := idStep_withData hstep
    rw [idHeadings_branch, withData, withChildren, idHeadings_branch]
    exact ((IdsGiven.of_branch children' hstep).append ihc).append ihr
  | literal hstep _ _ ihr =>
    obtain ⟨rfl, rfl⟩ := idStep_id rfl hstep
    simpa [idHeadings_literal] using ihr
  | parent hstep _ _ ihc ihr =>
    obtain ⟨rfl, rfl⟩ := idStep_id rfl hstep
    simpa [withChildren, idHeadings_parent] using ihc.append ihr
  | leaf hstep _ ihr =>
    obtain ⟨rfl, rfl⟩ := idStep_id rfl hstep
    simpa [idHeadings_leaf] using ihr

/-- A pass that begins with a natural counter ends with one. -/
theorem Passes.natural {nodes nodes' : List Node}
    (h : Passes (idStep idPrefix) c nodes c' nodes') (hc : c.Natural) : c'.Natural := by
  rw [(idsGiven_of_passes h).counter]
  exact hc.addAll _

/-! ## Passes that are stopped -/

/-- A pass that is stopped gave ids to the first headings and left the others as they were. -/
theorem idsGiven_of_stops {nodes nodes' : List Node} {fault : Error}
    (h : Stops (idStep idPrefix) c nodes fault c' nodes') :
    ∃ done rest done' c₁, idHeadings nodes = done ++ rest ∧ idHeadings nodes' = done' ++ rest ∧
      IdsGiven idPrefix c done c₁ done' := by
  -- The headings that are done come before those that are left, under each rule.
  induction h with
  | step hstep =>
    obtain ⟨rfl, -⟩ := idStep_error hstep
    exact ⟨[], _, [], _, rfl, rfl, .nil⟩
  | loose hstep _ =>
    obtain ⟨rfl, -⟩ := idStep_id rfl hstep
    exact ⟨[], _, [], _, rfl, rfl, .nil⟩
  | @branch _ _ _ kind data extra head children rest children' fault hstep _ ihc =>
    obtain ⟨d, rfl⟩ := idStep_withData hstep
    obtain ⟨done, left, done', c₁, hnodes, hnodes', hids⟩ := ihc
    rw [idHeadings_branch, withData, withChildren, idHeadings_branch, hnodes, hnodes']
    exact ⟨_, left ++ idHeadings rest, _, c₁, by simp, by simp,
      (IdsGiven.of_branch children' hstep).append hids⟩
  | @parent _ _ _ _ _ _ _ _ _ rest _ _ hstep _ ihc =>
    obtain ⟨rfl, rfl⟩ := idStep_id rfl hstep
    obtain ⟨done, left, done', c₁, hnodes, hnodes', hids⟩ := ihc
    rw [idHeadings_parent, withChildren, Option.map_some, idHeadings_parent, hnodes, hnodes']
    exact ⟨done, left ++ idHeadings rest, done', c₁, by simp, by simp, hids⟩
  | @later _ _ _ node node' rest rest' _ hp _ ihr =>
    obtain ⟨done, left, done', c₁, hnodes, hnodes', hids⟩ := ihr
    have hhead := idsGiven_of_passes hp
    have hcons : idHeadings (node :: rest) = idHeadings [node] ++ idHeadings rest :=
      idHeadings_append [node] rest
    have hcons' : idHeadings (node' :: rest') = idHeadings [node'] ++ idHeadings rest' :=
      idHeadings_append [node'] rest'
    rw [hcons, hcons', hnodes, hnodes']
    exact ⟨_, left, _, c₁, by simp, by simp, hhead.append hids⟩

/-! ## What stops the id pass -/

/-- What stops the id pass at a heading: properties that can take no id. -/
def idFault? (node : Node) : Option Error :=
  if node.takesId && (properties? (node.data.getD [])).isNone then some .notMergeable else none

theorem fault_idStep (idPrefix : String) (c : Counter) (node : Node) :
    (idStep idPrefix c node).fault = node.idFault? := by
  unfold idStep idFault? withId?
  cases node.takesId with
  | false => rfl
  | true => cases hp : properties? (node.data.getD []) <;> simp [hp]

/-- The walk stops at the first node, in document order, that is stuck or has loose children that
cannot be walked through. -/
theorem fault_assignIds (idPrefix : String) (c : Counter) (nodes : List Node) :
    (assignIds idPrefix c nodes).fault =
      (inOrderAll nodes).findSome? fun node => node.idFault?.or node.looseFault? :=
  fault_visitAll (fault_idStep idPrefix) nodes c

/-- Behind an id pass that is not stopped there is nothing that stops a pass at loose children. -/
theorem looseFaults_of_passes {nodes nodes' : List Node}
    (h : Passes (idStep idPrefix) c nodes c' nodes') :
    (inOrderAll nodes').findSome? looseFault? = none := by
  induction h with
  | nil => rfl
  | branch hstep _ _ ihc ihr =>
    obtain ⟨data, rfl⟩ := idStep_withData hstep
    simp only [withData, withChildren, inOrderAll, inOrder, List.cons_append, List.findSome?_cons,
      List.findSome?_append, looseFault?, ihc, ihr, Option.or_none]
  | literal hstep hitems _ ihr =>
    obtain ⟨rfl, rfl⟩ := idStep_id rfl hstep
    simp [inOrderAll, inOrder, looseFault?, hitems, ihr]
  | parent hstep _ _ ihc ihr =>
    obtain ⟨rfl, rfl⟩ := idStep_id rfl hstep
    simp only [withChildren, Option.map_some, inOrderAll, inOrder, List.cons_append,
      List.findSome?_cons, List.findSome?_append, looseFault?, ihc, ihr, Option.or_none]
  | leaf hstep _ ihr =>
    obtain ⟨rfl, rfl⟩ := idStep_id rfl hstep
    simp only [inOrderAll, inOrder, List.singleton_append, List.findSome?_cons, looseFault?, ihr]

/-! ## Edits that keep headings -/

section Edit

variable {e : Edit} (htakes : ∀ node : Node, (node.edit e).takesId = node.takesId)
include htakes

theorem idFault?_edit (node : Node) : (node.edit e).idFault? = node.idFault? := by
  rw [idFault?, idFault?, htakes, edit_data]

variable (hbase : ∀ node : Node, (node.edit e).baseId idPrefix = node.baseId idPrefix)
include hbase

theorem idStep_edit (c : Counter) (node : Node) :
    idStep idPrefix c (node.edit e) = (idStep idPrefix c node).map (edit e) := by
  unfold idStep
  simp only [htakes, hbase, edit_data]
  split
  · split
    · rw [Outcome.map, edit_withData]
    · rfl
  · rfl

/-- An edit that keeps the base ids can be made before or after ids are given. -/
theorem assignIds_edit (c : Counter) (nodes : List Node) :
    assignIds idPrefix c (nodes.map (edit e)) =
      (assignIds idPrefix c nodes).map (List.map (edit e)) :=
  visitAll_edit (idStep_edit htakes hbase) nodes c

end Edit

end Node

end Quizmark
