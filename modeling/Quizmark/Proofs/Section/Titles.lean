import Mathlib.Data.List.Induction
import Mathlib.Data.List.Nodup
import Quizmark.Proofs.Node.Forest
import Quizmark.Proofs.Section.Blocks

/-!
# The sections of a body

What `Section.partition` gives, as a map from titles to runs of nodes.

* `titles`: the titles of the section headings of a body. They are the titles of its sections, each
  in the place where it first came (`keys_partition`).
* `partition_eq_map`: with each title stands what is under its last heading.
* `LastRun`: the nodes between the last section heading with a title and the next section heading.
  They are what stands under the title (`lastUnder_eq_some_iff`).
* `lastUnder_append`: nodes that open no section go to the section that is open at the end.
* `partition_lastRuns`: the whole map.
-/

namespace Quizmark.Section

/-! ## The titles of a body -/

/-- The titles of the section headings among nodes. -/
def titles (nodes : List Node) : List String := (nodes.filter isOpening).map Node.title

/-- The title of the last section heading among nodes. -/
def lastTitle? (nodes : List Node) : Option String := (titles nodes).getLast?

theorem titles_opening {node : Node} (h : isOpening node = true) (rest : List Node) :
    titles (node :: rest) = node.title :: titles rest := by
  rw [titles, List.filter_cons_of_pos h, List.map_cons, ← titles]

theorem titles_not_opening {node : Node} (h : isOpening node = false) (rest : List Node) :
    titles (node :: rest) = titles rest := by
  rw [titles, List.filter_cons_of_neg (by simp [h]), ← titles]

theorem titles_append (xs ys : List Node) : titles (xs ++ ys) = titles xs ++ titles ys := by
  rw [titles, List.filter_append, List.map_append, ← titles, ← titles]

theorem titles_of_closed {nodes : List Node} (h : Closed nodes) : titles nodes = [] := by
  rw [titles, List.map_eq_nil_iff, List.filter_eq_nil_iff]
  intro node hnode
  simp [h node hnode]

theorem titles_blocks (blocks : List Block) :
    titles (blocks.flatMap Block.nodes) = blocks.map Block.name := by
  induction blocks with
  | nil => rfl
  | cons block blocks ih =>
    rw [List.flatMap_cons, Block.nodes, List.cons_append, titles_opening block.opens,
      titles_append, titles_of_closed block.closed, List.nil_append, ih, List.map_cons, Block.name]

/-! ## The titles of the sections -/

theorem eraseDups_concat (names : List String) (name : String) :
    (names ++ [name]).eraseDups =
      if name ∈ names then names.eraseDups else names.eraseDups ++ [name] := by
  rw [List.eraseDups_append, List.cons_removeAll, List.nil_removeAll]
  by_cases h : name ∈ names <;> simp [h, List.eraseDups_cons]

theorem nodup_eraseDups (names : List String) : names.eraseDups.Nodup := by
  induction names using List.reverseRecOn with
  | nil => exact List.nodup_nil
  | append_singleton names name ih =>
    rw [eraseDups_concat]
    split
    · exact ih
    · next h =>
      rw [← List.concat_eq_append]
      exact List.Nodup.concat (by simpa using h) ih

/-- A new section goes to the end, an old one keeps its place. -/
theorem map_fst_modify (f : List Node → List Node) (sections : Sections Node) (name : String) :
    (modify f sections name).map Prod.fst =
      if name ∈ sections.map Prod.fst then sections.map Prod.fst
      else sections.map Prod.fst ++ [name] := by
  induction sections with
  | nil => rfl
  | cons entry rest ih =>
    obtain ⟨k, items⟩ := entry
    rw [modify]
    by_cases hk : k = name
    · simp [hk]
    · simp only [hk, if_false, List.map_cons, ih, List.mem_cons, Ne.symm hk, false_or]
      split <;> rfl

theorem keys_modify (f : List Node → List Node) {sections : Sections Node} {seen : List String}
    (hkeys : sections.map Prod.fst = seen.eraseDups) (name : String) :
    (modify f sections name).map Prod.fst = (seen ++ [name]).eraseDups := by
  rw [map_fst_modify, hkeys, eraseDups_concat]
  simp only [List.mem_eraseDups]

/-- The titles that were seen and the ones that come up have a section each. -/
theorem keys_partitionFrom (nodes : List Node) (current : Option String)
    (sections : Sections Node) (seen : List String)
    (hkeys : sections.map Prod.fst = seen.eraseDups) (hopen : ∀ name ∈ current, name ∈ seen) :
    (partitionFrom id current sections nodes).map Prod.fst = (seen ++ titles nodes).eraseDups := by
  induction nodes generalizing current sections seen with
  | nil => simpa [partitionFrom, titles] using hkeys
  | cons node rest ih =>
    cases hhead : isOpening node with
    | true =>
      rw [partitionFrom_opening rest hhead, titles_opening hhead, List.append_cons]
      refine ih _ _ _ (keys_modify _ hkeys node.title) ?_
      rintro name ⟨⟩
      simp
    | false =>
      rw [titles_not_opening hhead]
      cases current with
      | none =>
        rw [partitionFrom_none rest hhead]
        exact ih _ _ _ hkeys hopen
      | some name =>
        have hsame : (modify (· ++ [node]) sections name).map Prod.fst = seen.eraseDups := by
          rw [keys_modify _ hkeys, eraseDups_concat, if_pos (hopen name rfl)]
        rw [partitionFrom_some rest hhead]
        exact ih _ _ _ hsame hopen

/-- Sections stand in the order in which their titles come up first. -/
theorem keys_partition (nodes : List Node) :
    (partition nodes).map Prod.fst = (titles nodes).eraseDups :=
  keys_partitionFrom nodes none [] [] rfl (by simp)

/-- Sections with different titles are told by their titles and what is found under them. -/
theorem eq_map_get {α : Type} {sections : Sections α} (h : (sections.map Prod.fst).Nodup) :
    sections = (sections.map Prod.fst).map fun title => (title, get sections title) := by
  induction sections with
  | nil => rfl
  | cons entry rest ih =>
    obtain ⟨k, items⟩ := entry
    rw [List.map_cons, List.nodup_cons] at h
    have hrest : ((rest.map Prod.fst).map fun title => (title, get ((k, items) :: rest) title)) =
        (rest.map Prod.fst).map fun title => (title, get rest title) := by
      refine List.map_congr_left fun title htitle => ?_
      have hne : k ≠ title := fun heq => h.1 (heq ▸ htitle)
      rw [get, get, lookup_cons_eq_ite, if_neg hne]
    rw [List.map_cons, List.map_cons, hrest, ← ih h.2, get, lookup_cons_eq_ite, if_pos rfl,
      Option.getD_some]

/-- **The sections of a body are the titles that it has, with what stands under them.** -/
theorem partition_eq_map (nodes : List Node) :
    partition nodes =
      (titles nodes).eraseDups.map fun title => (title, (lastUnder title nodes).getD []) := by
  have hnodup : ((partition nodes).map Prod.fst).Nodup := by
    rw [keys_partition]
    exact nodup_eraseDups (titles nodes)
  rw [eq_map_get hnodup, keys_partition]
  simp only [get_partition]

/-! ## The run behind the last heading -/

theorem lastUnder_eq_none_iff {title : String} {nodes : List Node} :
    lastUnder title nodes = none ↔ title ∉ titles nodes := by
  induction nodes with
  | nil => simp [lastUnder, titles]
  | cons node rest ih =>
    cases hhead : isOpening node with
    | true =>
      rw [lastUnder, titles_opening hhead, hhead, Option.or_eq_none_iff, ih, List.mem_cons]
      by_cases hname : node.title = title
      · simp [hname]
      · simp [hname, Ne.symm hname]
    | false => rw [lastUnder_of_not_opening hhead, titles_not_opening hhead, ih]

theorem mem_partition_iff {nodes items : List Node} {title : String} :
    (title, items) ∈ partition nodes ↔ lastUnder title nodes = some items := by
  rw [partition_eq_map]
  constructor
  · intro h
    obtain ⟨name, hname, heq⟩ := List.mem_map.mp h
    obtain ⟨rfl, rfl⟩ := Prod.mk.inj heq
    rw [List.mem_eraseDups] at hname
    obtain ⟨under, hunder⟩ :=
      Option.ne_none_iff_exists'.mp (mt lastUnder_eq_none_iff.mp (not_not_intro hname))
    rw [hunder, Option.getD_some]
  · intro h
    have hname : title ∈ titles nodes := by
      by_contra hno
      rw [lastUnder_eq_none_iff.mpr hno] at h
      cases h
    exact List.mem_map.mpr ⟨title, List.mem_eraseDups.mpr hname, by rw [h, Option.getD_some]⟩

/-- The items of a list of nodes that stand between the last section heading with a title and the
next section heading, or the end. -/
structure LastRun (title : String) (nodes before : List Node) (heading : Node)
    (items after : List Node) : Prop where
  split : nodes = before ++ heading :: (items ++ after)
  opens : isOpening heading = true
  named : heading.title = title
  closed : Closed items
  ends : ∀ node ∈ after.head?, isOpening node = true
  last : title ∉ titles after

theorem lastUnder_append_of_some {title : String} {ys items : List Node}
    (h : lastUnder title ys = some items) (xs : List Node) :
    lastUnder title (xs ++ ys) = some items := by
  induction xs with
  | nil => exact h
  | cons x xs ih => rw [List.cons_append, lastUnder, ih, Option.some_or]

theorem LastRun.lastUnder_eq {title : String} {nodes before items after : List Node}
    {heading : Node} (h : LastRun title nodes before heading items after) :
    lastUnder title nodes = some items := by
  have hlater : lastUnder title (items ++ after) = none := by
    rw [lastUnder_append_of_closed h.closed]
    exact lastUnder_eq_none_iff.mpr h.last
  have hhere : lastUnder title (heading :: (items ++ after)) = some items := by
    rw [lastUnder, hlater, Option.none_or, h.opens, h.named,
      takeWhile_closed h.closed h.ends]
    simp
  rw [h.split]
  exact lastUnder_append_of_some hhere before

/-- Nodes begin with a run that opens no section, up to a section heading or to the end. -/
theorem exists_run (nodes : List Node) :
    ∃ items after, nodes = items ++ after ∧ Closed items ∧
      ∀ node ∈ after.head?, isOpening node = true := by
  induction nodes with
  | nil => exact ⟨[], [], rfl, by simp [Closed], by simp⟩
  | cons node rest ih =>
    cases hopen : isOpening node with
    | true => exact ⟨[], node :: rest, rfl, by simp [Closed], by simpa using hopen⟩
    | false =>
      obtain ⟨items, after, rfl, hclosed, hends⟩ := ih
      exact ⟨node :: items, after, rfl, List.forall_mem_cons.mpr ⟨hopen, hclosed⟩, hends⟩

theorem exists_lastRun {title : String} {nodes items : List Node}
    (h : lastUnder title nodes = some items) :
    ∃ before heading after, LastRun title nodes before heading items after := by
  induction nodes with
  | nil => cases h
  | cons node rest ih =>
    rw [lastUnder, Option.or_eq_some_iff] at h
    rcases h with hlater | ⟨hlater, hhere⟩
    · obtain ⟨before, heading, after, run⟩ := ih hlater
      exact ⟨node :: before, heading, after, { run with split := by rw [run.split]; rfl }⟩
    · obtain ⟨found, after, rfl, hclosed, hends⟩ := exists_run rest
      rw [takeWhile_closed hclosed hends, Option.ite_none_right_eq_some, Option.some_inj,
        Bool.and_eq_true, beq_iff_eq] at hhere
      obtain ⟨⟨hopen, hname⟩, rfl⟩ := hhere
      rw [lastUnder_append_of_closed hclosed, lastUnder_eq_none_iff] at hlater
      exact ⟨[], node, after, ⟨rfl, hopen, hname, hclosed, hends, hlater⟩⟩

/-- **What stands under a title is the run of nodes behind its last heading.** -/
theorem lastUnder_eq_some_iff {title : String} {nodes items : List Node} :
    lastUnder title nodes = some items ↔
      ∃ before heading after, LastRun title nodes before heading items after :=
  ⟨exists_lastRun, fun ⟨_, _, _, run⟩ => run.lastUnder_eq⟩

/-! ## More nodes at the ends -/

/-- A block with more items at its end. -/
def Block.extend (block : Block) {more : List Node} (hmore : Closed more) : Block :=
  { block with
    items := block.items ++ more
    closed := List.forall_mem_append.mpr ⟨block.closed, hmore⟩ }

/-- Nodes that open no section go to the section of the last heading. -/
theorem lastUnder_append {more : List Node} (hmore : Closed more) (title : String)
    (nodes : List Node) :
    lastUnder title (nodes ++ more) =
      (lastUnder title nodes).map fun items =>
        if lastTitle? nodes = some title then items ++ more else items := by
  obtain ⟨preamble, blocks, hpreamble, rfl⟩ := exists_blocks nodes
  rw [List.append_assoc, lastUnder_append_of_closed hpreamble,
    lastUnder_append_of_closed hpreamble, lastTitle?, titles_append, titles_of_closed hpreamble,
    List.nil_append, titles_blocks]
  -- With no block yet, the nodes are dropped; otherwise they go to the last block.
  rcases List.eq_nil_or_concat blocks with rfl | ⟨blocks, block, rfl⟩
  · rw [List.flatMap_nil, List.nil_append, ← List.append_nil more,
      lastUnder_append_of_closed hmore]
    rfl
  · have hlonger : (blocks.concat block).flatMap Block.nodes ++ more =
        (blocks ++ [block.extend hmore]).flatMap Block.nodes := by
      simp [Block.extend, Block.nodes]
    have hname : (block.extend hmore).name = block.name := rfl
    rw [hlonger, List.concat_eq_append, lastUnder_blocks, lastUnder_blocks, Block.last?_append,
      Block.last?_append, Block.last?_singleton, Block.last?_singleton, hname, List.map_append,
      List.map_singleton, List.getLast?_concat]
    by_cases h : block.name = title
    · simp [h, Block.extend]
    · simp [h, Function.comp_def]

/-- Nodes added at the end go to the section of the last heading. -/
theorem partition_append_closed {more : List Node} (hmore : Closed more) (nodes : List Node) :
    partition (nodes ++ more) = (partition nodes).map fun entry =>
      if lastTitle? nodes = some entry.1 then (entry.1, entry.2 ++ more) else entry := by
  rw [partition_eq_map, partition_eq_map, List.map_map, titles_append, titles_of_closed hmore,
    List.append_nil]
  refine List.map_congr_left fun title htitle => ?_
  obtain ⟨items, hitems⟩ := Option.ne_none_iff_exists'.mp
    (mt lastUnder_eq_none_iff.mp (not_not_intro (List.mem_eraseDups.mp htitle)))
  rw [Function.comp_apply, lastUnder_append hmore, hitems, Option.map_some, Option.getD_some,
    Option.getD_some]
  split <;> rfl

theorem partition_closed_append {preamble : List Node} (hpreamble : Closed preamble)
    (nodes : List Node) : partition (preamble ++ nodes) = partition nodes := by
  rw [partition_eq_map, partition_eq_map, titles_append, titles_of_closed hpreamble,
    List.nil_append]
  simp only [lastUnder_append_of_closed hpreamble]

/-! ## The map -/

/-- **The sections of a body.** Their titles are the titles of the section headings, in the order in
which they first came, and none comes twice. The section of a title is the run of nodes between the
last section heading with the title and the next section heading, or the end. So no section has a
section heading in it, nodes before the first one are in no section, and nodes that open no section
and are put to the end go to the section of the last heading. -/
theorem partition_lastRuns (nodes : List Node) :
    (partition nodes).map Prod.fst = (titles nodes).eraseDups ∧
    ((partition nodes).map Prod.fst).Nodup ∧
    (∀ title items, (title, items) ∈ partition nodes ↔
      ∃ before heading after, LastRun title nodes before heading items after) ∧
    (∀ entry ∈ partition nodes, Closed entry.2) ∧
    (∀ preamble, Closed preamble → partition (preamble ++ nodes) = partition nodes) ∧
    (∀ more, Closed more → partition (nodes ++ more) = (partition nodes).map fun entry =>
      if lastTitle? nodes = some entry.1 then (entry.1, entry.2 ++ more) else entry) := by
  have hkeys := keys_partition nodes
  have hruns (title : String) (items : List Node) : (title, items) ∈ partition nodes ↔
      ∃ before heading after, LastRun title nodes before heading items after :=
    mem_partition_iff.trans lastUnder_eq_some_iff
  refine ⟨hkeys, hkeys ▸ nodup_eraseDups (titles nodes), hruns, ?_,
    fun preamble h => partition_closed_append h nodes,
    fun more h => partition_append_closed h nodes⟩
  intro entry hentry
  obtain ⟨before, heading, after, run⟩ := (hruns entry.1 entry.2).mp hentry
  exact run.closed

/-- A body that comes back to a title. -/
def reopened : List Node :=
  [.ofTitle 2 "A", .ofText .text "x", .ofTitle 2 "B", .ofText .text "y", .ofTitle 2 " A",
    .ofText .text "z"]

theorem partition_lastRuns_reopened :
    (partition ([.ofText .text "w"] ++ reopened)).map (fun entry => (entry.1, nodesText entry.2)) =
        [("A", "z"), ("B", "y")] ∧
      (partition (reopened ++ [.ofTitle 3 "t"])).map (fun entry => (entry.1, nodesText entry.2)) =
        [("A", "z\nt"), ("B", "y")] := by
  obtain ⟨-, -, -, -, hpreamble, hmore⟩ := partition_lastRuns reopened
  have hlead := hpreamble [.ofText .text "w"] (by decide)
  have htrail := hmore [.ofTitle 3 "t"] (by decide)
  rw [hlead, htrail]
  decide +kernel

end Quizmark.Section
