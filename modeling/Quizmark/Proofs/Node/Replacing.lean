import Mathlib.Data.List.Forall2
import Quizmark.Proofs.Admonition
import Quizmark.Proofs.Error
import Quizmark.Proofs.Json.Fields

/-!
# Replacing walks

`Node.mapFrom` puts `f node` in the place of a node and goes on in the children of `f node`, so
neither its order nor its end follows from the tree that it is given.

* `Node.isListable`: the loose children of a literal, if it has any, have items to give. At a
  replacement without this, the walk fails. `Node.isListed`: they are a list, which the walk leaves
  as it is.
* `Node.Maps f nodes results visits`: the runs of the walk that have a result, with no bound on
  their depth. `maps_of_mapList` makes one of every result.
* `Placed`: what stands in the result for something the walk met.
* `mapList_kept`: a function that keeps the children of its argument makes the walk go through the
  tree that it is given, so the levels of that tree bound it.
* `mapFrom_visits`: the walk meets what its result holds, in the same order.
-/

namespace Quizmark

/-! ## Loose children -/

/-- Null loose children count as none. -/
theorem Fields.children?_eq_some {extra : Fields} {loose : Json} :
    extra.children? = some loose ↔ extra.get? "children" = some loose ∧ loose.isNull = false := by
  rw [children?, Option.filter_eq_some_iff, Bool.not_eq_true']

namespace Node

/-- The loose children of a literal. -/
def looseChildren? : Node → Option Json
  | literal _ _ _ extra => extra.children?
  | branch .. | other .. => none

/-- The loose children of a node, if it has any, have items to give. -/
def isListable (node : Node) : Bool := node.looseChildren?.all (·.items?.isSome)

/-- The loose children of a node, if it has any, are a list. -/
def isListed (node : Node) : Bool :=
  node.looseChildren?.all fun
    | .arr _ => true
    | _ => false

/-- The items of the loose children. -/
def looseValues (node : Node) : List Json := (node.looseChildren?.bind Json.items?).getD []

/-- Extra fields with the list of their items in the place of loose children. -/
def listedFields (extra : Fields) : Fields :=
  match extra.children?.bind Json.items? with
  | some items => extra.put "children" (.arr items)
  | none => extra

/-- The node with the list of their items in the place of its loose children. -/
def listed : Node → Node
  | literal kind data value extra => literal kind data value (listedFields extra)
  | node => node

/-- The node without its children, loose ones included. -/
def withoutChildren : Node → Node
  | branch kind data _ extra => branch kind data [] extra
  | literal kind data value extra => literal kind data value (extra.without ["children"])
  | other type data value _ extra => other type data value none extra

theorem withoutChildren_filled (node : Node) (cs : List Node) :
    (node.listed.withChildren cs).withoutChildren = node.withoutChildren := by
  cases node with
  | branch kind data children extra => rfl
  | literal kind data value extra =>
    simp only [listed, withChildren, withoutChildren, listedFields]
    split
    · rw [Fields.without_put]
    · rfl
  | other type data value children extra => rfl

theorem IsPlain.looseChildren? {node : Node} (h : node.IsPlain) : node.looseChildren? = none := by
  cases node with
  | literal kind data value extra => exact h
  | _ => rfl

theorem IsPlain.isListed {node : Node} (h : node.IsPlain) : node.isListed = true := by
  rw [Node.isListed, h.looseChildren?]
  rfl

/-- The walk that replaces nodes lists loose children, or fails. -/
theorem loosened_eq (kind : LiteralKind) (data : Option Fields) (value : String) (extra : Fields) :
    loosened extra =
      if (literal kind data value extra).isListable then
        .ok (listedFields extra, (literal kind data value extra).looseValues)
      else .error .notIterable := by
  simp only [loosened, isListable, looseValues, listedFields, looseChildren?]
  rcases Option.eq_none_or_eq_some extra.children? with hloose | ⟨loose, hloose⟩
  · simp [hloose]
  · cases hitems : loose.items? <;> simp [hloose, hitems]

/-- Children can be listed if there are none that are loose, or if what is loose has items. -/
theorem items?_of_isListable {node : Node} (h : node.isListable = true) :
    node.looseChildren? = none ∨
      ∃ loose items, node.looseChildren? = some loose ∧ loose.items? = some items := by
  unfold isListable at h
  cases hloose : node.looseChildren? with
  | none => exact .inl rfl
  | some loose =>
    rw [hloose, Option.all_some, Option.isSome_iff_exists] at h
    obtain ⟨items, hitems⟩ := h
    exact .inr ⟨loose, items, rfl, hitems⟩

section LooseFields

variable {kind : LiteralKind} {data : Option Fields} {value : String} {extra : Fields}

/-- A walk over listed loose children meets their items. -/
theorem looseItems?_listedFields (h : (literal kind data value extra).isListable = true) :
    looseItems? (listedFields extra) = some (literal kind data value extra).looseValues := by
  simp only [looseItems?, listedFields, looseValues, looseChildren?]
  rcases items?_of_isListable h with hloose | ⟨loose, items, hloose, hitems⟩
  · rw [looseChildren?] at hloose
    simp [hloose]
  · rw [looseChildren?] at hloose
    have hlisted : (extra.put "children" (.arr items)).children? = some (.arr items) :=
      Fields.children?_eq_some.mpr ⟨Fields.get?_put _ _ _, rfl⟩
    simp only [hloose, Option.bind_some, hitems, hlisted, Option.getD_some]
    cases items <;> rfl

/-- Loose children that can be listed are as they were only if they are a list. -/
theorem listedFields_eq_self_iff (h : (literal kind data value extra).isListable = true) :
    listedFields extra = extra ↔ (literal kind data value extra).isListed = true := by
  simp only [isListed, listedFields, looseChildren?]
  rcases items?_of_isListable h with hloose | ⟨loose, items, hloose, hitems⟩
  · rw [looseChildren?] at hloose
    simp [hloose]
  · rw [looseChildren?] at hloose
    rw [hloose, Option.bind_some, hitems, Fields.put_eq_self_iff, (Fields.children?_eq_some.mp hloose).1,
      Option.some_inj]
    cases loose with
    | arr values => simpa [Json.items?] using hitems
    | _ => simp

end LooseFields

theorem isListable_of_isListed {node : Node} (h : node.isListed = true) :
    node.isListable = true := by
  unfold isListed at h
  unfold isListable
  cases hloose : node.looseChildren? with
  | none => rfl
  | some loose =>
    rw [hloose] at h
    cases loose with
    | arr values => rfl
    | _ => cases h

theorem listed_eq_self {node : Node} (h : node.isListed = true) : node.listed = node := by
  cases node with
  | literal kind data value extra =>
    rw [listed, (listedFields_eq_self_iff (isListable_of_isListed h)).mpr h]
  | _ => rfl

/-! ## One step -/

variable {f : Node → Node}

/-- One step of the walk: what may fail is the listing of loose children, and then the children of
the replacement. -/
theorem mapFrom_succ (f : Node → Node) (depth : Nat) (node : Node) :
    mapFrom f (depth + 1) node =
      if (f node).isListable then do
        let (children, below) ← mapList (mapFrom f depth) (f node).children
        return ((f node).listed.withChildren children,
          .node node :: (below ++ (f node).looseValues.map .raw))
      else .error .notIterable := by
  unfold mapFrom
  cases hf : f node with
  | branch kind data children extra =>
    simp [isListable, looseValues, looseChildren?, listed, withChildren, Node.children]
  | literal kind data value extra =>
    simp only [loosened_eq kind data value extra]
    split <;> rfl
  | other type data value children extra =>
    cases children with
    | none => rfl
    | some children =>
      simp [isListable, looseValues, looseChildren?, listed, withChildren, Node.children]

/-- One step of the walk: what is put in place can be listed, its children are walked through, and
it gets them. -/
theorem mapFrom_succ_ok {depth : Nat} {node top : Node} {visits : List Visit}
    (h : mapFrom f (depth + 1) node = .ok (top, visits)) :
    (f node).isListable = true ∧ ∃ children below,
      mapList (mapFrom f depth) (f node).children = .ok (children, below) ∧
      top = (f node).listed.withChildren children ∧
      visits = .node node :: (below ++ (f node).looseValues.map .raw) := by
  rw [mapFrom_succ] at h
  split at h
  · next hlist =>
    obtain ⟨⟨children, below⟩, hchildren, hresult⟩ := bind_ok h
    cases hresult
    exact ⟨hlist, children, below, hchildren, rfl, rfl⟩
  · cases h

theorem mapList_cons_ok {g : Node → Except Error (Node × List Visit)} {node : Node}
    {rest results : List Node} {visits : List Visit}
    (h : mapList g (node :: rest) = .ok (results, visits)) :
    ∃ top here rest' later, g node = .ok (top, here) ∧ mapList g rest = .ok (rest', later) ∧
      results = top :: rest' ∧ visits = here ++ later := by
  rw [mapList] at h
  obtain ⟨⟨top, here⟩, hnode, h⟩ := bind_ok h
  obtain ⟨⟨rest', later⟩, hrest, hresult⟩ := bind_ok h
  cases hresult
  exact ⟨top, here, rest', later, hnode, hrest, rfl, rfl⟩

/-! ## The bound on the depth -/

theorem mapList_mono {g g' : Node → Except Error (Node × List Visit)}
    (h : ∀ node outcome, g node = .ok outcome → g' node = .ok outcome) {nodes results : List Node}
    {visits : List Visit} (hlist : mapList g nodes = .ok (results, visits)) :
    mapList g' nodes = .ok (results, visits) := by
  induction nodes generalizing results visits with
  | nil => exact hlist
  | cons node rest ih =>
    obtain ⟨top, here, rest', later, hnode, hrest, rfl, rfl⟩ := mapList_cons_ok hlist
    rw [mapList, h _ _ hnode, ih hrest]
    rfl

/-- A walk that has a result has the same one under every greater bound. -/
theorem mapFrom_mono {depth deeper : Nat} (hle : depth ≤ deeper) {node : Node}
    {outcome : Node × List Visit} (h : mapFrom f depth node = .ok outcome) :
    mapFrom f deeper node = .ok outcome := by
  induction depth generalizing deeper node outcome with
  | zero => cases h
  | succ depth ih =>
    obtain ⟨deeper, rfl⟩ : ∃ d, deeper = d + 1 := ⟨deeper - 1, by omega⟩
    obtain ⟨top, visits⟩ := outcome
    obtain ⟨hlist, children, below, hchildren, rfl, rfl⟩ := mapFrom_succ_ok h
    have hdeeper : mapList (mapFrom f deeper) (f node).children = .ok (children, below) :=
      mapList_mono (fun _ _ => ih (by omega)) hchildren
    rw [mapFrom_succ, if_pos hlist, hdeeper]
    rfl

/-! ## Runs with a result -/

/-- The runs of a replacing walk over a forest that have a result: `f node` comes in the place of
the first node, with the results of its own children for its children. -/
inductive Maps (f : Node → Node) : List Node → List Node → List Visit → Prop where
  | nil : Maps f [] [] []
  | cons {node : Node} {rest children rest' : List Node} {below later : List Visit} :
    (f node).isListable = true →
    Maps f (f node).children children below → Maps f rest rest' later →
    Maps f (node :: rest) ((f node).listed.withChildren children :: rest')
      (.node node :: (below ++ (f node).looseValues.map .raw) ++ later)

/-- A walk with a bound on its depth that succeeds is a walk without one. -/
theorem maps_of_mapList {depth : Nat} {nodes results : List Node} {visits : List Visit}
    (h : mapList (mapFrom f depth) nodes = .ok (results, visits)) :
    Maps f nodes results visits := by
  induction depth generalizing nodes results visits with
  | zero =>
    cases nodes with
    | nil => cases h; exact .nil
    | cons node rest => cases h
  | succ depth ih =>
    induction nodes generalizing results visits with
    | nil => cases h; exact .nil
    | cons node rest ihr =>
      obtain ⟨top, here, rest', later, hnode, hrest, rfl, rfl⟩ := mapList_cons_ok h
      obtain ⟨hlist, children, below, hchildren, rfl, rfl⟩ := mapFrom_succ_ok hnode
      exact .cons hlist (ih hchildren) (ihr hrest)

theorem maps_of_mapFrom {depth : Nat} {node result : Node} {visits : List Visit}
    (h : mapFrom f depth node = .ok (result, visits)) : Maps f [node] [result] visits := by
  have hlist : mapList (mapFrom f depth) [node] = .ok ([result], visits) := by
    rw [mapList, h]
    simp [mapList, bind, Except.bind, pure, Except.pure]
  exact maps_of_mapList hlist

/-! ## The result in document order -/

/-- What stands in the result for something the walk met: for a node what `f` puts in its place,
with other children at most, and a raw value for itself. -/
inductive Placed (f : Node → Node) : Visit → Visit → Prop where
  | node {before after : Node} : after.withoutChildren = (f before).withoutChildren →
    Placed f (.node before) (.node after)
  | raw (value : Json) : Placed f (.raw value) (.raw value)

theorem walkAll_cons {node : Node} (h : node.walk.broken = false) (rest : List Node) :
    walkAll (node :: rest) =
      ⟨node.walk.visits ++ (walkAll rest).visits, (walkAll rest).broken⟩ := by
  rw [walkAll, h]
  rfl

theorem walkAll_singleton (node : Node) : walkAll [node] = node.walk := by
  rw [walkAll]
  cases hwalk : node.walk with
  | mk visits broken => cases broken <;> simp [walkAll]

/-- A listing walk over a node with its children filled in. A node that had none gets none. -/
theorem walk_filled {node : Node} {cs : List Node} (hlist : node.isListable = true)
    (hleaf : node.children = [] → cs = []) :
    (node.listed.withChildren cs).walk =
      ⟨.node (node.listed.withChildren cs) ::
        ((walkAll cs).visits ++ node.looseValues.map .raw), (walkAll cs).broken⟩ := by
  cases node with
  | branch kind data children extra =>
    simp [listed, withChildren, walk, looseValues, looseChildren?]
  | literal kind data value extra =>
    obtain rfl := hleaf rfl
    simp [listed, withChildren, walk, walkAll, looseItems?_listedFields hlist]
  | other type data value children extra =>
    cases children with
    | none =>
      obtain rfl := hleaf rfl
      simp [listed, withChildren, walk, looseValues, looseChildren?, walkAll]
    | some children => simp [listed, withChildren, walk, looseValues, looseChildren?]

theorem Maps.eq_nil {results : List Node} {visits : List Visit} (h : Maps f [] results visits) :
    results = [] := by
  cases h
  rfl

/-- The nodes of a result, in document order, stand for what the walk met, one for one. -/
theorem Maps.placed {nodes results : List Node} {visits : List Visit}
    (h : Maps f nodes results visits) :
    (walkAll results).broken = false ∧
      List.Forall₂ (Placed f) visits (walkAll results).visits := by
  induction h with
  | nil => exact ⟨rfl, .nil⟩
  | @cons node rest children rest' below later hlist hc hr ihc ihr =>
    have hleaf : (f node).children = [] → children = [] := fun hnil =>
      (hnil ▸ hc : Maps f [] children below).eq_nil
    have hwalk := walk_filled hlist hleaf
    have hraw : List.Forall₂ (Placed f) ((f node).looseValues.map .raw)
        ((f node).looseValues.map .raw) := by
      rw [List.forall₂_map_left_iff, List.forall₂_map_right_iff, List.forall₂_same]
      exact fun value _ => .raw value
    rw [walkAll_cons (by rw [hwalk]; exact ihc.1), hwalk]
    refine ⟨ihr.1, List.rel_append ?_ ihr.2⟩
    exact .cons (.node (withoutChildren_filled (f node) children)) (List.rel_append ihc.2 hraw)

/-! ## What the walk meets -/

/-- Where the walk goes on from something it met: the children of the replacement. -/
def onward (f : Node → Node) : Visit → List Visit
  | .node node => (f node).children.map .node ++ (f node).looseValues.map .raw
  | .raw _ => []

theorem flatMap_onward_raw (values : List Json) :
    (values.map Visit.raw).flatMap (onward f) = [] := by
  simp [onward]

/-- The walk meets the nodes it is given and, once each, those in which it goes on. -/
theorem Maps.perm {nodes results : List Node} {visits : List Visit}
    (h : Maps f nodes results visits) :
    visits.Perm (nodes.map .node ++ visits.flatMap (onward f)) := by
  induction h with
  | nil => exact .nil
  | @cons node rest children rest' below later hlist hc hr ihc ihr =>
    simp only [List.cons_append, List.map_cons, List.flatMap_cons, List.flatMap_append,
      flatMap_onward_raw, List.append_nil, onward]
    refine .cons _ ?_
    refine ((ihc.append_right _).append ihr).trans ?_
    classical
    rw [List.perm_iff_count]
    intro visit
    simp only [List.count_append]
    omega

/-! ## Functions that keep children -/

mutual

/-- The tree with `f node` in the place of every node and with loose children listed. -/
def remade (f : Node → Node) : Node → Node
  | branch kind data children extra =>
    (f (branch kind data children extra)).listed.withChildren (remadeAll f children)
  | literal kind data value extra => (f (literal kind data value extra)).listed.withChildren []
  | other type data value (some children) extra =>
    (f (other type data value (some children) extra)).listed.withChildren (remadeAll f children)
  | other type data value none extra =>
    (f (other type data value none extra)).listed.withChildren []
  termination_by structural node => node

/-- The forest with `f node` in the place of every node and with loose children listed. -/
def remadeAll (f : Node → Node) : List Node → List Node
  | [] => []
  | node :: rest => node.remade f :: remadeAll f rest
  termination_by structural nodes => nodes

end

theorem remadeAll_eq_map (nodes : List Node) : remadeAll f nodes = nodes.map (remade f) := by
  induction nodes with
  | nil => rfl
  | cons node rest ih => rw [remadeAll, ih, List.map_cons]

theorem remade_eq (f : Node → Node) (node : Node) :
    node.remade f = (f node).listed.withChildren (node.children.map (remade f)) := by
  cases node with
  | branch kind data children extra => rw [remade, remadeAll_eq_map]; rfl
  | literal kind data value extra => rfl
  | other type data value children extra =>
    cases children with
    | none => rfl
    | some children => rw [remade, remadeAll_eq_map]; rfl

theorem heightAll_cons (node : Node) (rest : List Node) :
    heightAll (node :: rest) = max (heightAll node.children + 1) (heightAll rest) := by
  cases node with
  | other type data value children extra => cases children <;> rfl
  | _ => rfl

/-- What the walk meets of a node and its loose children. -/
def meets (f : Node → Node) (node : Node) : List Visit :=
  .node node :: (f node).looseValues.map .raw

/-- A node with loose children has no others. -/
theorem looseValues_eq_nil_or (node : Node) : node.looseValues = [] ∨ node.children = [] := by
  cases node with
  | literal kind data value extra => exact .inr rfl
  | _ => exact .inl rfl

/-- The walk with a function that keeps children goes through the forest as it is. No level of the
forest is exceeded, and only loose children can make it fail. -/
theorem mapList_kept (hf : ∀ node, (f node).children = node.children) (nodes : List Node)
    (depth : Nat) (h : heightAll nodes ≤ depth) :
    mapList (mapFrom f depth) nodes =
      if (inOrderAll nodes).all fun node => (f node).isListable then
        .ok (nodes.map (remade f), (inOrderAll nodes).flatMap (meets f))
      else .error .notIterable := by
  induction nodes using children_induction generalizing depth with
  | nil => rfl
  | cons node rest ihc ihr =>
    rw [heightAll_cons] at h
    obtain ⟨depth, rfl⟩ : ∃ d, depth = d + 1 := ⟨depth - 1, by omega⟩
    rw [mapList, mapFrom_succ, hf, ihc depth (by omega), ihr (depth + 1) (by omega),
      inOrderAll_cons, List.all_cons, List.all_append, List.map_cons, remade_eq,
      List.flatMap_cons, List.flatMap_append]
    have hvisits : (inOrderAll node.children).flatMap (meets f) ++ (f node).looseValues.map .raw =
        (f node).looseValues.map .raw ++ (inOrderAll node.children).flatMap (meets f) := by
      rcases looseValues_eq_nil_or (f node) with hnil | hnil
      · simp [hnil]
      · simp [← hf node, hnil, inOrderAll]
    cases (f node).isListable with
    | false => rfl
    | true =>
      cases (inOrderAll node.children).all fun below => (f below).isListable with
      | false => rfl
      | true =>
        cases (inOrderAll rest).all fun later => (f later).isListable with
        | false => rfl
        | true => simp [hvisits, meets, bind, Except.bind, pure, Except.pure]

/-- The walk with a function that keeps children, over one tree. -/
theorem mapFrom_kept (hf : ∀ node, (f node).children = node.children) (node : Node) (depth : Nat)
    (h : node.height ≤ depth) :
    mapFrom f depth node =
      if node.inOrder.all fun below => (f below).isListable then
        .ok (node.remade f, node.inOrder.flatMap (meets f))
      else .error .notIterable := by
  have hall := mapList_kept hf [node] depth (by simpa [heightAll] using h)
  rw [mapList] at hall
  simp only [inOrderAll, List.append_nil, List.map_singleton] at hall
  split at hall
  · next hlist =>
    obtain ⟨⟨top, here⟩, hnode, hresult⟩ := bind_ok hall
    rw [hnode, if_pos hlist]
    simpa [mapList, bind, Except.bind, pure, Except.pure] using hresult
  · next hlist =>
    rw [if_neg hlist]
    rcases bind_eq_error_iff.mp hall with hnode | ⟨⟨top, here⟩, -, hresult⟩
    · exact hnode
    · cases hresult

theorem withChildren_children (node : Node) : node.withChildren node.children = node := by
  cases node with
  | other type data value children extra => cases children <;> rfl
  | _ => rfl

/-- The outcome depends only on what is put in the place of the nodes that stand in the forest. -/
theorem map_remade_congr {f g : Node → Node} {nodes : List Node}
    (h : ∀ node ∈ inOrderAll nodes, f node = g node) :
    nodes.map (remade f) = nodes.map (remade g) := by
  induction nodes using children_induction with
  | nil => rfl
  | cons node rest ihc ihr =>
    rw [inOrderAll_cons, List.forall_mem_cons, List.forall_mem_append] at h
    obtain ⟨hnode, hc, hr⟩ := h
    rw [List.map_cons, List.map_cons, ihr hr, remade_eq, remade_eq, ihc hc, hnode]

/-- Where nothing is replaced and all children are listed, the walk changes nothing. -/
theorem map_remade_id {nodes : List Node} (h : ∀ node ∈ inOrderAll nodes, node.isListed = true) :
    nodes.map (remade id) = nodes := by
  induction nodes using children_induction with
  | nil => rfl
  | cons node rest ihc ihr =>
    rw [inOrderAll_cons, List.forall_mem_cons, List.forall_mem_append] at h
    obtain ⟨hnode, hc, hr⟩ := h
    rw [List.map_cons, ihr hr, remade_eq, ihc hc, id, listed_eq_self hnode, withChildren_children]

/-- Over plain nodes the walk that replaces nothing visits the nodes in document order. -/
theorem mapFrom_id {node : Node} {depth : Nat} (h : node.height ≤ depth) (hplain : Plain [node]) :
    mapFrom id depth node = .ok (node, node.inOrder.map .node) := by
  have hnodes : ∀ below ∈ node.inOrder, below.IsPlain := by
    simpa [Plain, inOrderAll] using hplain
  have hlistable : (node.inOrder.all fun below => (id below).isListable) = true :=
    List.all_eq_true.mpr fun below hbelow => isListable_of_isListed (hnodes below hbelow).isListed
  have hvisits : node.inOrder.flatMap (meets id) = node.inOrder.map .node := by
    rw [List.map_eq_flatMap]
    refine List.flatMap_congr fun below hbelow => ?_
    simp [meets, looseValues, (hnodes below hbelow).looseChildren?]
  have hsame : node.remade id = node := by
    simpa using map_remade_id fun below hbelow => (hplain below hbelow).isListed
  have hkept : ∀ node : Node, (id node).children = node.children := fun _ => rfl
  rw [mapFrom_kept hkept node depth h, if_pos hlistable, hsame, hvisits]

/-! ## The law of replacing walks -/

/-- **A replacing walk meets what its result holds.** Where the walk has a result, every greater
bound gives the same one. A listing walk over the result does not break off; it meets as much as the
replacing walk did, and the nodes it meets are, one by one, what `f` puts in the place of the nodes
that were met there, but for their children. What was met is the first node and, once each, the
children of the replacements, so no child that a replacement leaves out.

If `f` keeps the children of its argument, the levels of the tree bound the walk. It has a result
exactly if each replacement has items to give for its loose children. A function that changes
nothing leaves a plain tree as it is. -/
theorem mapFrom_visits (f : Node → Node) :
    (∀ node depth result visits, mapFrom f depth node = .ok (result, visits) →
      (∀ deeper, depth ≤ deeper → mapFrom f deeper node = .ok (result, visits)) ∧
      result.walk.broken = false ∧
      List.Forall₂ (Placed f) visits result.walk.visits ∧
      visits.Perm (.node node :: visits.flatMap (onward f))) ∧
    ((∀ node, (f node).children = node.children) → ∀ node depth, node.height ≤ depth →
      if ∀ below ∈ node.inOrder, (f below).isListable = true then
        ∃ result visits, mapFrom f depth node = .ok (result, visits)
      else mapFrom f depth node = .error .notIterable) ∧
    ∀ node depth, node.height ≤ depth → Plain [node] →
      mapFrom id depth node = .ok (node, node.inOrder.map .node) := by
  refine ⟨fun node depth result visits h => ?_, fun hf node depth h => ?_,
    fun node depth h hplain => mapFrom_id h hplain⟩
  · have hmaps := maps_of_mapFrom h
    obtain ⟨hbroken, hplaced⟩ := hmaps.placed
    rw [walkAll_singleton] at hbroken hplaced
    exact ⟨fun deeper hle => mapFrom_mono hle h, hbroken, hplaced, hmaps.perm⟩
  · have hkept := mapFrom_kept hf node depth h
    split
    · next hlist =>
      rw [if_pos (List.all_eq_true.mpr hlist)] at hkept
      exact ⟨_, _, hkept⟩
    · next hlist => rwa [if_neg (mt List.all_eq_true.mp hlist)] at hkept

/-- A paragraph becomes a heading with two leaves of its own. -/
def retitled : Node → Node
  | branch .paragraph data _ extra =>
    branch (.heading ⟨2, by decide, by decide⟩) data
      [.ofText .text "Ebb", .ofText .inlineCode "Flood"] extra
  | node => node

/-- A paragraph over one leaf. -/
def tideTable : Node := .ofKind .paragraph [.ofText .text "Tides"]

/-- The result for the paragraph. -/
def tideHeading : Node :=
  .ofKind (.heading ⟨2, by decide, by decide⟩)
    [.ofText .text "Ebb", .ofText .inlineCode "Flood"]

theorem mapFrom_visits_retitled :
    mapFrom retitled 2 tideTable = .ok (tideHeading,
      [.node tideTable, .node (.ofText .text "Ebb"), .node (.ofText .inlineCode "Flood")]) ∧
    List.Forall₂ (Placed retitled)
      [.node tideTable, .node (.ofText .text "Ebb"), .node (.ofText .inlineCode "Flood")]
      tideHeading.walk.visits ∧
    (∃ result visits, mapFrom id 2 tideTable = .ok (result, visits)) ∧
    mapFrom id 2 tideTable = .ok (tideTable, tideTable.inOrder.map .node) := by
  obtain ⟨hretitled, -, -⟩ := mapFrom_visits retitled
  obtain ⟨-, hkept, hid⟩ := mapFrom_visits id
  have hrun : mapFrom retitled 2 tideTable = .ok (tideHeading,
      [.node tideTable, .node (.ofText .text "Ebb"), .node (.ofText .inlineCode "Flood")]) := rfl
  obtain ⟨-, -, hplaced, -⟩ := hretitled tideTable 2 _ _ hrun
  have hplain : Plain [tideTable] := by simp [tideTable, ofKind, ofText]
  have hends := hkept (fun _ => rfl) tideTable 2 (by decide)
  rw [if_pos (by decide)] at hends
  exact ⟨hrun, hplaced, hends, hid tideTable 2 (by decide) hplain⟩

/-- A leaf whose loose children are no value with items. -/
def brittleLeaf : Node := .literal .text none "Tides" [("children", .bool false)]

/-- The walk that lists a leaf does not look at what counts as missing; the one that replaces it
fails there, also if it is to change nothing. -/
theorem brittleLeaf_breaks_off :
    brittleLeaf.walk.broken = false ∧
      ¬ ∃ depth result, mapFrom id depth brittleLeaf = .ok result := by
  refine ⟨rfl, ?_⟩
  rintro ⟨depth, result, h⟩
  cases depth with
  | zero => cases h
  | succ depth => cases h

end Node

end Quizmark
