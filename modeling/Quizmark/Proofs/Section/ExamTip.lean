import Quizmark.Section

/-!
# Which nodes go to the exam tip

`Section.splitFrom` carries along whether a marker heading is open. Here each node is judged by what
stands before it: it belongs to the tip if the nearest subsection heading before it is a marker.

* `restNodes`, `tipNodes`: the nodes of a section outside and inside of marker subsections. The
  marker headings are in neither.
* `splitTip_eq`: a section is divided into these two.
* `tipNodes_map`, `restNodes_map`: a change that keeps headings and their titles keeps the division.
* `keepBy_eq_picked`: the same two lists by the positions of the nodes.
* `splitTip_partitions`: the division loses the marker headings and nothing else, and keeps the
  order.
-/

namespace Quizmark.Section

/-- A node is a subsection heading with one of the titles. -/
def isMarker (markers : List String) (node : Node) : Bool :=
  node.isHeadingAt subDepth && markers.contains node.title

/-- The nearest subsection heading among nodes is a marker; the nearest node comes first. -/
def underMarker (markers : List String) (before : List Node) : Bool :=
  (before.find? (·.isHeadingAt subDepth)).any (isMarker markers)

/-- A node lies inside a marker subsection; `before` are the nodes before it, the nearest first. -/
def inTip (markers : List String) (before : List Node) (node : Node) : Bool :=
  !node.isHeadingAt subDepth && underMarker markers before

/-- The nodes of a list that a test keeps, which also sees the nodes before them, the nearest
first. -/
def keepBy (keep : List Node → Node → Bool) (before : List Node) : List Node → List Node
  | [] => []
  | node :: rest =>
    if keep before node then node :: keepBy keep (node :: before) rest
    else keepBy keep (node :: before) rest

/-- The nodes of a section inside of marker subsections. -/
def tipNodes (markers : List String) (nodes : List Node) : List Node :=
  keepBy (inTip markers) [] nodes

/-- The nodes of a section outside of marker subsections, without the marker headings. -/
def restNodes (markers : List String) (nodes : List Node) : List Node :=
  keepBy (fun before node => !isMarker markers node && !inTip markers before node) [] nodes

/-- The loop that splits, as a choice of nodes by what stands before them. -/
theorem splitFrom_eq (markers : List String) (nodes before : List Node) :
    splitFrom id markers (underMarker markers before) nodes =
      ⟨keepBy (fun before node => !isMarker markers node && !inTip markers before node) before
          nodes,
        keepBy (inTip markers) before nodes⟩ := by
  induction nodes generalizing before with
  | nil => rfl
  | cons node rest ih =>
    have ih := ih (node :: before)
    unfold splitFrom
    -- Only a heading of this depth changes whether a marker is open.
    cases hhead : node.isHeadingAt subDepth with
    | true =>
      have hunder : underMarker markers (node :: before) = isMarker markers node := by
        simp [underMarker, hhead]
      rw [hunder] at ih
      cases hmark : markers.contains node.title <;>
        simp_all [keepBy, inTip, isMarker]
    | false =>
      have hunder : underMarker markers (node :: before) = underMarker markers before := by
        simp [underMarker, hhead]
      rw [hunder] at ih
      cases hopen : underMarker markers before <;> simp_all [keepBy, inTip, isMarker]

/-- **A section is divided by the nearest subsection heading before each node.** -/
theorem splitTip_eq (markers : List String) (nodes : List Node) :
    splitTip markers nodes = ⟨restNodes markers nodes, tipNodes markers nodes⟩ :=
  splitFrom_eq markers nodes []

/-! ## What the two parts depend on -/

theorem keepBy_subset (keep : List Node → Node → Bool) (before nodes : List Node) :
    keepBy keep before nodes ⊆ nodes := by
  induction nodes generalizing before with
  | nil => exact List.Subset.refl []
  | cons node rest ih =>
    rw [keepBy]
    split
    · exact List.cons_subset_cons node (ih _)
    · exact List.subset_cons_of_subset node (ih _)

/-- A choice that goes with a change of the nodes can be made after it. -/
theorem keepBy_map {keep : List Node → Node → Bool} {f : Node → Node}
    (hkeep : ∀ before node, keep (before.map f) (f node) = keep before node)
    (before nodes : List Node) :
    keepBy keep (before.map f) (nodes.map f) = (keepBy keep before nodes).map f := by
  induction nodes generalizing before with
  | nil => rfl
  | cons node rest ih =>
    rw [List.map_cons, keepBy, keepBy, hkeep, ← List.map_cons, ih]
    split <;> rfl

section Map

variable {f : Node → Node} (hhead : ∀ n node, (f node).isHeadingAt n = node.isHeadingAt n)
  (htitle : ∀ node, (f node).title = node.title) (markers : List String)
include hhead htitle

theorem isMarker_map (node : Node) : isMarker markers (f node) = isMarker markers node := by
  rw [isMarker, isMarker, hhead, htitle]

theorem inTip_map (before : List Node) (node : Node) :
    inTip markers (before.map f) (f node) = inTip markers before node := by
  unfold inTip underMarker
  rw [hhead, List.find?_map, Option.any_map]
  simp only [Function.comp_def, hhead, isMarker_map hhead htitle]

/-- A change of nodes that keeps headings and their titles keeps what goes to the exam tip. -/
theorem tipNodes_map (nodes : List Node) :
    tipNodes markers (nodes.map f) = (tipNodes markers nodes).map f :=
  keepBy_map (inTip_map hhead htitle markers) [] nodes

theorem restNodes_map (nodes : List Node) :
    restNodes markers (nodes.map f) = (restNodes markers nodes).map f := by
  refine keepBy_map (fun before node => ?_) [] nodes
  rw [isMarker_map hhead htitle, inTip_map hhead htitle]

end Map

/-! ## Positions -/

/-- The nodes of a list that a test keeps, by their positions. The test also sees the nodes before
the position, the nearest first. -/
def picked (keep : List Node → Node → Bool) (nodes : List Node) : List Node :=
  (nodes.zipIdx.filter fun entry => keep (nodes.take entry.2).reverse entry.1).map Prod.fst

/-- What was there before the list counts as standing before its first node. -/
theorem keepBy_eq_picked_append (keep : List Node → Node → Bool) (nodes before : List Node) :
    keepBy keep before nodes = picked (fun nearer => keep (nearer ++ before)) nodes := by
  induction nodes generalizing before with
  | nil => rfl
  | cons node rest ih =>
    -- A position in the rest is one less than in the whole list, with the first node before it.
    have hrest : ((rest.zipIdx 1).filter fun entry =>
          keep (((node :: rest).take entry.2).reverse ++ before) entry.1).map Prod.fst =
        keepBy keep (node :: before) rest := by
      rw [ih, picked, List.zipIdx_succ, List.filter_map, List.map_map]
      simp [Function.comp_def]
    rw [picked, List.zipIdx_cons, List.filter_cons, keepBy, ← hrest]
    split <;> simp_all

/-- The nodes that a test keeps on the way through a list are those at the positions where it
holds. -/
theorem keepBy_eq_picked (keep : List Node → Node → Bool) (nodes : List Node) :
    keepBy keep [] nodes = picked keep nodes := by
  simpa using keepBy_eq_picked_append keep nodes []

theorem exists_keep_of_mem {keep : List Node → Node → Bool} {before nodes : List Node} {node : Node}
    (h : node ∈ keepBy keep before nodes) : ∃ nearer, keep nearer node = true := by
  induction nodes generalizing before with
  | nil => cases h
  | cons first rest ih =>
    rw [keepBy] at h
    split at h
    · next hkeep =>
      rcases List.mem_cons.mp h with rfl | h
      · exact ⟨before, hkeep⟩
      · exact ih h
    · exact ih h

/-! ## The whole division -/

variable (markers : List String)

theorem isMarker_eq_false_of_mem_restNodes {nodes : List Node} {node : Node}
    (h : node ∈ restNodes markers nodes) : isMarker markers node = false := by
  obtain ⟨nearer, hkeep⟩ := exists_keep_of_mem h
  rw [Bool.and_eq_true, Bool.not_eq_true'] at hkeep
  exact hkeep.1

theorem isHeadingAt_eq_false_of_mem_tipNodes {nodes : List Node} {node : Node}
    (h : node ∈ tipNodes markers nodes) : node.isHeadingAt subDepth = false := by
  obtain ⟨nearer, hkeep⟩ := exists_keep_of_mem h
  rw [inTip, Bool.and_eq_true, Bool.not_eq_true'] at hkeep
  exact hkeep.1

/-- Each node is in one of the two parts, or it is a marker heading. -/
theorem length_keepBy_parts (nodes before : List Node) :
    (keepBy (fun before node => !isMarker markers node && !inTip markers before node) before
        nodes).length + (keepBy (inTip markers) before nodes).length +
      nodes.countP (isMarker markers) = nodes.length := by
  induction nodes generalizing before with
  | nil => rfl
  | cons node rest ih =>
    have ih := ih (node :: before)
    rw [keepBy, keepBy, List.countP_cons, List.length_cons]
    -- A marker goes to neither part, and any other node to exactly one of them.
    cases hmark : isMarker markers node with
    | true =>
      have htip : inTip markers before node = false := by
        rw [isMarker, Bool.and_eq_true] at hmark
        rw [inTip, hmark.1, Bool.not_true, Bool.false_and]
      simp only [htip, Bool.not_true, Bool.false_and, Bool.false_eq_true, if_false, if_true]
      omega
    | false =>
      cases htip : inTip markers before node <;>
        simp only [Bool.not_true, Bool.not_false, Bool.and_true, Bool.and_false, Bool.false_eq_true,
          if_false, if_true, List.length_cons] <;>
        omega

/-- Without a marker there is no tip. -/
theorem splitTip_of_unmarked {nodes : List Node}
    (h : ∀ node ∈ nodes, isMarker markers node = false) : splitTip markers nodes = ⟨nodes, []⟩ := by
  unfold splitTip splitTipBy
  induction nodes with
  | nil => rfl
  | cons node rest ih =>
    obtain ⟨hnode, hrest⟩ := List.forall_mem_cons.mp h
    rw [splitFrom, ih hrest]
    cases hhead : node.isHeadingAt subDepth with
    | true =>
      rw [isMarker, hhead, Bool.true_and] at hnode
      simp only [id_eq, hhead, hnode, if_true, Bool.false_eq_true, if_false]
    | false => simp only [id_eq, hhead, Bool.false_eq_true, if_false]

/-- **The division of a section is exact.** The tip are the nodes that are no subsection heading and
whose nearest subsection heading before them is a marker, the rest are all other nodes but the
marker headings, both in their order. So no node is lost or doubled apart from the marker headings,
the tip has no subsection heading, the rest has no marker heading, and there is nothing to take out
of the rest. -/
theorem splitTip_partitions (nodes : List Node) :
    (splitTip markers nodes).tip = picked (inTip markers) nodes ∧
    (splitTip markers nodes).rest =
      picked (fun before node => !isMarker markers node && !inTip markers before node) nodes ∧
    (splitTip markers nodes).rest.length + (splitTip markers nodes).tip.length +
      nodes.countP (isMarker markers) = nodes.length ∧
    (∀ node ∈ (splitTip markers nodes).tip, node.isHeadingAt subDepth = false) ∧
    (∀ node ∈ (splitTip markers nodes).rest, isMarker markers node = false) ∧
    splitTip markers (splitTip markers nodes).rest = ⟨(splitTip markers nodes).rest, []⟩ := by
  rw [splitTip_eq]
  have hrest : ∀ node ∈ restNodes markers nodes, isMarker markers node = false :=
    fun _ => isMarker_eq_false_of_mem_restNodes markers
  exact ⟨keepBy_eq_picked _ nodes, keepBy_eq_picked _ nodes, length_keepBy_parts markers nodes [],
    fun _ => isHeadingAt_eq_false_of_mem_tipNodes markers, hrest,
    splitTip_of_unmarked markers hrest⟩

end Quizmark.Section
