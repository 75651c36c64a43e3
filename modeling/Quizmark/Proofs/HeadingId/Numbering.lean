import Quizmark.Proofs.HeadingId.Walk

/-!
# Which number a heading gets

What an id pass that is not stopped makes of a forest, said without the pass.

* `Node.earlier`: how often the base id of a heading came up before it, counting what the counter
  knew at the beginning.
* `Node.bare`: a tree without the data of the headings that take an id. The pass changes nothing
  else (`bareAll_of_passes`), so no text and no base id either.
* `Node.KeepsData`: a heading has all entries of its data that it had before, its id apart.
* `Node.Numbers`: the numbering law. `assignIds_numbers` proves it of the pass, together with the
  laws of passes one after the other: through two lists, and twice through one list.
-/

namespace Quizmark

namespace HeadingId

/-- Two counters count the same, whatever the order in which they were asked. -/
def Counter.Agrees (counter other : Counter) : Prop := ∀ id, counter.count id = other.count id

theorem Counter.Agrees.add {counter other : Counter} (h : counter.Agrees other) (base : String) :
    (counter.add base).Agrees (other.add base) := by
  intro id
  rw [count_add, count_add, h]

/-- An id that is given a second time changes nothing. -/
theorem withId?_again {id : String} {data : Option Fields} {data' : Fields}
    (h : withId? id data = some data') : withId? id (some data') = some data' := by
  obtain ⟨properties, -, rfl⟩ := Option.map_eq_some_iff.mp h
  simp only [withId?, properties?, Option.getD_some, Fields.get?_put, Option.map_some,
    Fields.put_put]

end HeadingId

namespace Node

open HeadingId

/-! ## What a heading keeps -/

/-- An entry of the data of a node. -/
def entry? (node : Node) (key : String) : Option Json := node.data.bind (Fields.get? · key)

/-- A property of a node: an entry of the object that its data has for properties. -/
def property? (node : Node) (key : String) : Option Json :=
  match node.entry? propertiesKey with
  | some (.obj properties) => Fields.get? properties key
  | _ => none

/-- The second node has the entries and the properties of the first, its id apart. -/
structure KeepsData (before after : Node) : Prop where
  entries : ∀ key, key ≠ propertiesKey → after.entry? key = before.entry? key
  properties : ∀ key, key ≠ "id" → after.property? key = before.property? key

/-- The second node has the data of the first with some id in it. -/
def Labelled (before after : Node) : Prop :=
  ∃ id data, withId? id before.data = some data ∧ after.data = some data

theorem get?_data (node : Node) (key : String) :
    Fields.get? (node.data.getD []) key = node.entry? key := by
  unfold entry?
  cases node.data <;> rfl

/-- Properties that can take an id are an object, or what has no properties at all. -/
theorem property?_of_properties? {node : Node} {properties : Fields}
    (h : properties? (node.data.getD []) = some properties) (key : String) :
    node.property? key = properties.get? key := by
  rw [properties?, get?_data] at h
  unfold property?
  cases hvalue : node.entry? propertiesKey with
  | none =>
    simp only [hvalue, Option.some.injEq] at h
    rw [← h]
    rfl
  | some value =>
    rw [hvalue] at h
    cases value with
    | obj fields =>
      cases h
      rfl
    | _ =>
      simp only [Option.ite_none_left_eq_some, Option.some.injEq] at h
      rw [← h.2]
      rfl

theorem Labelled.keepsData {before after : Node} (h : Labelled before after) :
    KeepsData before after := by
  obtain ⟨id, data, hid, hafter⟩ := h
  obtain ⟨properties, hproperties, rfl⟩ := Option.map_eq_some_iff.mp hid
  constructor
  · intro key hkey
    rw [← get?_data before, entry?, hafter, Option.bind_some, Fields.get?_put_of_ne _ hkey]
  · intro key hkey
    rw [property?_of_properties? hproperties]
    unfold property? entry?
    rw [hafter, Option.bind_some, Fields.get?_put]
    exact Fields.get?_put_of_ne _ hkey _

/-! ## What the pass keeps of the tree -/

mutual

/-- A tree without the data of the headings that take an id. -/
def bare : Node → Node
  | branch kind data children extra =>
    branch kind (if (branch kind data children extra).takesId then none else data)
      (bareAll children) extra
  | literal kind data value extra => literal kind data value extra
  | other type data value (some children) extra =>
    other type data value (some (bareAll children)) extra
  | other type data value none extra => other type data value none extra
  termination_by structural node => node

/-- A forest without the data of the headings that take an id. -/
def bareAll : List Node → List Node
  | [] => []
  | node :: rest => node.bare :: bareAll rest
  termination_by structural nodes => nodes

end

theorem bareAll_append (xs ys : List Node) : bareAll (xs ++ ys) = bareAll xs ++ bareAll ys := by
  induction xs with
  | nil => rfl
  | cons x xs ih => rw [List.cons_append, bareAll, bareAll, ih, List.cons_append]

/-- The data of headings is no part of the text. -/
theorem textAll_bareAll (nodes : List Node) : textAll (bareAll nodes) = textAll nodes := by
  induction nodes using forest_induction with
  | nil => rfl
  | branch kind data children extra rest ihc ihr =>
    rw [bareAll, textAll, textAll, ihr, bare, text, text, ihc]
  | literal kind data value extra rest ihr =>
    rw [bareAll, textAll, textAll, ihr]
    rfl
  | parent type data value children extra rest ihc ihr =>
    rw [bareAll, textAll, textAll, ihr, bare]
    congr 1
    cases value with
    | str value => rfl
    | _ => exact ihc
  | leaf type data value extra rest ihr =>
    rw [bareAll, textAll, textAll, ihr]
    rfl

variable {idPrefix : String} {c c' : Counter} {nodes nodes' : List Node}

theorem takesId_branch (kind : BranchKind) (data data' : Option Fields)
    (children children' : List Node) (extra : Fields) :
    (Node.branch kind data' children' extra).takesId =
      (Node.branch kind data children extra).takesId := by
  rw [takesId, takesId, depth?_branch]

/-- A step changes nothing but the data of a branch that takes an id. -/
theorem bare_of_branch {kind : BranchKind} {data data' : Option Fields} {extra : Fields}
    (h : idStep idPrefix c (.branch kind data nodes extra) =
      ⟨.branch kind data' nodes extra, c', none⟩) (hnodes : bareAll nodes' = bareAll nodes) :
    (Node.branch kind data' nodes' extra).bare = (Node.branch kind data nodes extra).bare := by
  rw [bare, bare, hnodes, takesId_branch kind data data' nodes nodes']
  rcases idStep_cases h with ⟨-, hhead, -⟩ | ⟨hyes, -⟩
  · have hdata : data' = data := congrArg Node.data hhead
    rw [hdata]
  · rw [if_pos hyes, if_pos hyes]

/-- The pass changes nothing but the data of headings that take an id. -/
theorem bareAll_of_passes (h : Passes (idStep idPrefix) c nodes c' nodes') :
    bareAll nodes' = bareAll nodes := by
  induction h with
  | nil => rfl
  | branch hstep _ _ ihc ihr =>
    obtain ⟨data', rfl⟩ := idStep_withData hstep
    rw [bareAll, bareAll, ihr, withData, withChildren, bare_of_branch hstep ihc]
  | literal hstep _ _ ihr =>
    obtain ⟨rfl, -⟩ := idStep_id rfl hstep
    rw [bareAll, bareAll, ihr]
  | parent hstep _ _ ihc ihr =>
    obtain ⟨rfl, -⟩ := idStep_id rfl hstep
    rw [withChildren, Option.map_some, bareAll, bareAll, ihr, bare, bare, ihc]
  | leaf hstep _ ihr =>
    obtain ⟨rfl, -⟩ := idStep_id rfl hstep
    rw [bareAll, bareAll, ihr]

/-- Forests that differ in data alone have the same text. -/
theorem textAll_of_bareAll (h : bareAll nodes' = bareAll nodes) : textAll nodes' = textAll nodes := by
  rw [← textAll_bareAll nodes', h, textAll_bareAll]

/-- The base id of a branch depends on the text of its children, and not on its data. -/
theorem baseId_branch {kind : BranchKind} {data data' : Option Fields} {extra : Fields}
    (h : textAll nodes' = textAll nodes) :
    (Node.branch kind data' nodes' extra).baseId idPrefix =
      (Node.branch kind data nodes extra).baseId idPrefix := by
  rw [baseId, baseId, title, title, text, text, h]

/-- A step puts an id into the data of a branch, if that takes one, whatever the pass makes of its
children. -/
theorem labelled_of_branch {kind : BranchKind} {data data' : Option Fields} {children : List Node}
    {extra : Fields} (children' : List Node)
    (h : idStep idPrefix c (.branch kind data children extra) =
      ⟨.branch kind data' children extra, c', none⟩) :
    List.Forall₂ Labelled ([.branch kind data children extra].filter takesId)
      ([.branch kind data' children' extra].filter takesId) := by
  have htakes := takesId_branch kind data data' children children' extra
  rcases idStep_cases h with ⟨hno, -, -⟩ | ⟨hyes, -, d, hd, hhead⟩
  · simp [hno, htakes.trans hno]
  · have hdata : data' = some d := congrArg Node.data hhead
    rw [List.filter_cons_of_pos hyes, List.filter_cons_of_pos (htakes.trans hyes)]
    exact .cons ⟨_, d, hd, hdata⟩ .nil

/-- Every heading that takes an id has the data it had, with an id in it. -/
theorem labelled_of_passes (h : Passes (idStep idPrefix) c nodes c' nodes') :
    List.Forall₂ Labelled (idHeadings nodes) (idHeadings nodes') := by
  induction h with
  | nil => exact .nil
  | @branch _ _ _ _ kind data extra head children rest children' rest' hstep _ _ ihc ihr =>
    obtain ⟨data', rfl⟩ := idStep_withData hstep
    rw [idHeadings_branch, withData, withChildren, idHeadings_branch]
    exact List.rel_append (List.rel_append (labelled_of_branch children' hstep) ihc) ihr
  | literal hstep _ _ ihr =>
    obtain ⟨rfl, -⟩ := idStep_id rfl hstep
    rwa [idHeadings_literal, idHeadings_literal]
  | parent hstep _ _ ihc ihr =>
    obtain ⟨rfl, -⟩ := idStep_id rfl hstep
    rw [withChildren, Option.map_some, idHeadings_parent, idHeadings_parent]
    exact List.rel_append ihc ihr
  | leaf hstep _ ihr =>
    obtain ⟨rfl, -⟩ := idStep_id rfl hstep
    rwa [idHeadings_leaf, idHeadings_leaf]

/-- A second pass over the nodes of the first, from a counter that counts as the first one did,
finds every id in its place. -/
theorem Passes.again (h : Passes (idStep idPrefix) c nodes c' nodes') {d : Counter}
    (hd : d.Agrees c) :
    ∃ d', Passes (idStep idPrefix) d nodes' d' nodes' ∧ d'.Agrees c' := by
  induction h generalizing d with
  | nil => exact ⟨d, .nil, hd⟩
  | @branch c _ _ _ kind data extra head children rest children' rest' hstep hc _ ihc ihr =>
    rcases idStep_cases hstep with ⟨hno, rfl, rfl⟩ | ⟨hyes, rfl, data', hdata, rfl⟩
    · obtain ⟨d₁, hchildren, hd₁⟩ := ihc hd
      obtain ⟨d₂, hrest, hd₂⟩ := ihr hd₁
      have hno' : (Node.branch kind data children' extra).takesId = false := by
        rw [← hno, takesId_branch]
      have hagain : idStep idPrefix d (.branch kind data children' extra) =
          ⟨.branch kind data children' extra, d, none⟩ := by
        rw [idStep, hno']
        rfl
      exact ⟨d₂, (Passes.branch hagain hchildren hrest :), hd₂⟩
    -- The heading has the same text as before, so it asks for the same id.
    · have hbase : (Node.branch kind (some data') children' extra).baseId idPrefix =
          (Node.branch kind data children extra).baseId idPrefix :=
        baseId_branch (textAll_of_bareAll (bareAll_of_passes hc))
      obtain ⟨d₁, hchildren, hd₁⟩ := ihc (hd.add _)
      obtain ⟨d₂, hrest, hd₂⟩ := ihr hd₁
      have hyes' : (Node.branch kind (some data') children' extra).takesId = true := by
        rw [← hyes, takesId_branch]
      have hagain : idStep idPrefix d (.branch kind (some data') children' extra) =
          ⟨.branch kind (some data') children' extra,
            d.add ((Node.branch kind data children extra).baseId idPrefix), none⟩ := by
        have hsame := withId?_again hdata
        rw [← hd] at hsame
        rw [idStep, hyes', if_pos rfl, hbase]
        simp only [Node.data, hsame]
        rfl
      exact ⟨d₂, (Passes.branch hagain hchildren hrest :), hd₂⟩
  | literal hstep hitems _ ihr =>
    obtain ⟨rfl, rfl⟩ := idStep_id rfl hstep
    obtain ⟨d', hrest, hd'⟩ := ihr hd
    exact ⟨d', .literal rfl hitems hrest, hd'⟩
  | parent hstep _ _ ihc ihr =>
    obtain ⟨rfl, rfl⟩ := idStep_id rfl hstep
    obtain ⟨d₁, hchildren, hd₁⟩ := ihc hd
    obtain ⟨d₂, hrest, hd₂⟩ := ihr hd₁
    exact ⟨d₂, (Passes.parent rfl hchildren hrest :), hd₂⟩
  | leaf hstep _ ihr =>
    obtain ⟨rfl, rfl⟩ := idStep_id rfl hstep
    obtain ⟨d', hrest, hd'⟩ := ihr hd
    exact ⟨d', .leaf rfl hrest, hd'⟩

/-! ## The law -/

/-- How often the base id of the `k`-th heading of a forest came up before it: as often as the
counter says, and once for each earlier heading that has the same one. -/
def earlier (idPrefix : String) (c : Counter) (nodes : List Node) (k : Nat) (heading : Node) :
    Int :=
  c.count (heading.baseId idPrefix) +
    ((idHeadings nodes).take k).countP fun other =>
      other.baseId idPrefix == heading.baseId idPrefix

/-- The second forest is the first with ids on its headings, numbered from a counter on, and the
second counter is the first one afterwards. -/
structure Numbers (idPrefix : String) (c : Counter) (nodes : List Node) (c' : Counter)
    (nodes' : List Node) : Prop where
  /-- The first heading with a base id has it as it is, a later one with a number behind it. All
  else in the data of the heading is as it was. -/
  id : ∀ k heading, (idHeadings nodes)[k]? = some heading →
    ∃ heading', (idHeadings nodes')[k]? = some heading' ∧ KeepsData heading heading' ∧
      heading'.id? = some
        (if earlier idPrefix c nodes k heading = 0 then heading.baseId idPrefix
        else heading.baseId idPrefix ++ "-" ++ toString (earlier idPrefix c nodes k heading))
  /-- Headings with one base id never share an id. -/
  distinct : ∀ (j k : Nat) (first second first' second' : Node), j ≠ k →
    (idHeadings nodes)[j]? = some first → (idHeadings nodes)[k]? = some second →
    first.baseId idPrefix = second.baseId idPrefix →
    (idHeadings nodes')[j]? = some first' → (idHeadings nodes')[k]? = some second' →
    first'.id? ≠ second'.id?
  /-- Each heading counts once for its base id. -/
  counter : ∀ base, c'.count base =
    c.count base + (idHeadings nodes).countP fun heading => heading.baseId idPrefix == base
  /-- All that is no heading with an id is as it was, and so is all but the data of the headings. -/
  bare : bareAll nodes' = bareAll nodes

/-- How often a base id was asked for is what the counter says, and how often the headings before
asked for it. -/
theorem earlier_eq (idPrefix : String) (c : Counter) (nodes : List Node) (k : Nat)
    (heading : Node) :
    earlier idPrefix c nodes k heading = c.count (heading.baseId idPrefix) +
      ((((idHeadings nodes).map (baseId idPrefix)).take k).count
        (heading.baseId idPrefix) : Nat) := by
  rw [earlier, ← List.map_take, List.count, List.countP_map]
  rfl

/-- From a counter with natural numbers, a heading with the same base id as an earlier one came up
more often before. -/
theorem earlier_lt {j k : Nat} {first second : Node} (hjk : j < k)
    (hfirst : (idHeadings nodes)[j]? = some first)
    (hbase : first.baseId idPrefix = second.baseId idPrefix) :
    earlier idPrefix c nodes j first < earlier idPrefix c nodes k second := by
  -- The first heading itself stands among those before the second.
  have hsplit : (idHeadings nodes).take (j + 1) = (idHeadings nodes).take j ++ [first] := by
    rw [List.take_add_one, hfirst]
    rfl
  have hcount : ((idHeadings nodes).take j).countP
        (fun other => other.baseId idPrefix == second.baseId idPrefix) + 1 ≤
      ((idHeadings nodes).take k).countP
        (fun other => other.baseId idPrefix == second.baseId idPrefix) := by
    have hsub : ((idHeadings nodes).take (j + 1)).Sublist ((idHeadings nodes).take k) :=
      List.take_sublist_take_left (by omega)
    have hle := hsub.countP_le
      (p := fun other => other.baseId idPrefix == second.baseId idPrefix)
    rw [hsplit, List.countP_append] at hle
    simpa [hbase] using hle
  unfold earlier
  rw [hbase]
  omega

/-- The id of the `k`-th heading that was given one. -/
theorem IdsGiven.id_eq {hs hs' : List Node} (h : IdsGiven idPrefix c hs c' hs') {k : Nat}
    {heading heading' : Node} (hheading : hs[k]? = some heading)
    (hheading' : hs'[k]? = some heading') :
    heading'.id? = some (numbered (heading.baseId idPrefix) (c.count (heading.baseId idPrefix) +
      (((hs.map (baseId idPrefix)).take k).count (heading.baseId idPrefix) : Nat))) := by
  have hk := congrArg (·[k]?) h.ids
  simpa only [List.getElem?_map, hheading', getElem?_ids, hheading, Option.map_some,
    Option.some.injEq] using hk

/-- A walk that goes through numbers the headings, whatever the nodes are. -/
theorem numbers_of_passes (hc : c.Natural) (h : Passes (idStep idPrefix) c nodes c' nodes') :
    Numbers idPrefix c nodes c' nodes' := by
  have hids := idsGiven_of_passes h
  have hlabelled := labelled_of_passes h
  have hid : ∀ k heading heading', (idHeadings nodes)[k]? = some heading →
      (idHeadings nodes')[k]? = some heading' →
      heading'.id? = some
        (numbered (heading.baseId idPrefix) (earlier idPrefix c nodes k heading)) := by
    intro k heading heading' hheading hheading'
    rw [hids.id_eq hheading hheading', earlier_eq]
  constructor
  · intro k heading hheading
    obtain ⟨hlt, rfl⟩ := List.getElem?_eq_some_iff.mp hheading
    have hlt' : k < (idHeadings nodes').length := hlabelled.length_eq ▸ hlt
    have hheading' : (idHeadings nodes')[k]? = some (idHeadings nodes')[k] :=
      List.getElem?_eq_getElem hlt'
    refine ⟨_, hheading', (hlabelled.get hlt hlt').keepsData, ?_⟩
    exact hid k _ _ hheading hheading'
  · intro j k first second first' second' hjk hfirst hsecond hbase hfirst' hsecond' heq
    rw [hid j first first' hfirst hfirst', hid k second second' hsecond hsecond', hbase,
      Option.some.injEq] at heq
    -- The counter is natural, so both headings have natural numbers.
    obtain ⟨seen, hseen⟩ := hc (second.baseId idPrefix)
    rw [earlier_eq, earlier_eq, hbase, hseen] at heq
    have hsame := numbered_natCast_inj (m := seen + _) (n := seen + _) heq
    rcases Nat.lt_or_gt_of_ne hjk with hlt | hlt
    · have hmore := earlier_lt (c := c) hlt hfirst hbase
      rw [earlier_eq, earlier_eq, hbase] at hmore
      omega
    · have hmore := earlier_lt (c := c) hlt hsecond hbase.symm
      rw [earlier_eq, earlier_eq, hbase] at hmore
      omega
  · intro base
    rw [hids.counter, Counter.count_addAll, List.count, List.countP_map]
    rfl
  · exact bareAll_of_passes h

/-- **Headings are numbered one after the other.** A pass through two lists is a pass through the
first and then one through the second, and a pass that begins again with the same counts changes
nothing. -/
theorem assignIds_numbers (hc : c.Natural) (h : assignIds idPrefix c nodes = ⟨nodes', c', none⟩) :
    Numbers idPrefix c nodes c' nodes' ∧
      (∀ more, assignIds idPrefix c (nodes ++ more) =
        (assignIds idPrefix c' more).map (nodes' ++ ·)) ∧
      ∀ d : Counter, d.Agrees c →
        ∃ d', assignIds idPrefix d nodes' = ⟨nodes', d', none⟩ ∧ d'.Agrees c' := by
  have hpasses : Passes (idStep idPrefix) c nodes c' nodes' := visitAll_eq_iff.mp h
  refine ⟨numbers_of_passes hc hpasses, visitAll_append h, ?_⟩
  intro d hd
  obtain ⟨d', hagain, hd'⟩ := hpasses.again hd
  exact ⟨d', hagain.visitAll_eq, hd'⟩

/-- Two headings with one title. The second one stands in a quotation and has a class. -/
def namesakes : List Node :=
  [.ofTitle 3 "A",
    .other "blockquote" none .null
      (some [(Node.ofTitle 4 "A").withData
        (some [("hProperties", .obj [("class", .str "x")])])]) []]

/-- A counter that was asked once for the base id of these headings. -/
def askedOnce : Counter := [("q-A", 1)]

theorem assignIds_numbers_namesakes :
    askedOnce.Natural ∧ ∃ nodes' c', assignIds "q" askedOnce namesakes = ⟨nodes', c', none⟩ ∧
      (idHeadings nodes').map id? = [some "q-A-1", some "q-A-2"] ∧
      Numbers "q" askedOnce namesakes c' nodes' ∧
      (∀ more, assignIds "q" askedOnce (namesakes ++ more) =
        (assignIds "q" c' more).map (nodes' ++ ·)) ∧
      ∀ d : Counter, d.Agrees askedOnce →
        ∃ d', assignIds "q" d nodes' = ⟨nodes', d', none⟩ ∧ d'.Agrees c' := by
  have hnatural : askedOnce.Natural := by
    intro id
    by_cases h : "q-A" = id
    · exact ⟨1, by simp [askedOnce, Counter.count, h]⟩
    · exact ⟨0, by simp [askedOnce, Counter.count, h]⟩
  have hrun : assignIds "q" askedOnce namesakes = ⟨_, _, none⟩ :=
    Outcome.eq_of_fault (by decide +kernel)
  exact ⟨hnatural, _, _, hrun, by decide +kernel, assignIds_numbers hnatural hrun⟩

end Node

end Quizmark
