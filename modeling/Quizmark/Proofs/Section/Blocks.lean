import Mathlib.Data.List.Nodup
import Quizmark.Proofs.Section.Partition

/-!
# Section blocks

A body as its author sees it: nodes that open no section, and then blocks of a section heading and
the nodes up to the next one.

* `Block`: a section heading with what belongs to it.
* `exists_blocks`: every body can be seen in this way.
* `Block.last?`: the last block with a name. What stands under a title of a body are the items of
  the last block with that name (`lastUnder_blocks`).
* `last?_perm`: where no two blocks have one name, their order plays no part.
-/

namespace Quizmark.Section

/-- No node of a list opens a section. -/
def Closed (nodes : List Node) : Prop := ∀ node ∈ nodes, isOpening node = false

instance (nodes : List Node) : Decidable (Closed nodes) :=
  inferInstanceAs (Decidable (∀ node ∈ nodes, isOpening node = false))

/-- A section heading and the nodes up to the next one. -/
structure Block where
  heading : Node
  items : List Node
  opens : isOpening heading = true
  closed : Closed items

namespace Block

/-- The title of the heading of a block. -/
def name (block : Block) : String := block.heading.title

/-- The nodes of a block. -/
def nodes (block : Block) : List Node := block.heading :: block.items

/-- The last block with a name. -/
def last? (name : String) (blocks : List Block) : Option Block :=
  blocks.reverse.find? fun block => block.name == name

/-- A block comes last of its name unless there is a later one. -/
theorem last?_append (name : String) (xs ys : List Block) :
    last? name (xs ++ ys) = (last? name ys).or (last? name xs) := by
  simp [last?]

theorem last?_singleton (name : String) (block : Block) :
    last? name [block] = if block.name = name then some block else none := by
  simp [last?, List.find?_singleton]

theorem last?_isSome {name : String} {blocks : List Block} {block : Block} (hmem : block ∈ blocks)
    (hname : block.name = name) : (last? name blocks).isSome = true :=
  List.find?_isSome.mpr ⟨block, List.mem_reverse.mpr hmem, by simp [hname]⟩

/-- If every name is there once, the last block of a name is the one that has it. -/
theorem last?_eq_some_iff {name : String} {blocks : List Block} {block : Block}
    (hnodup : (blocks.map Block.name).Nodup) :
    last? name blocks = some block ↔ block ∈ blocks ∧ block.name = name := by
  have hlast {found : Block} (h : last? name blocks = some found) :
      found ∈ blocks ∧ found.name = name :=
    ⟨List.mem_reverse.mp (List.mem_of_find?_eq_some h), by simpa using List.find?_some h⟩
  refine ⟨hlast, fun ⟨hmem, hname⟩ => ?_⟩
  obtain ⟨found, hfound⟩ := Option.isSome_iff_exists.mp (last?_isSome hmem hname)
  obtain ⟨hmem', hname'⟩ := hlast hfound
  rw [hfound, List.inj_on_of_nodup_map hnodup hmem' hmem (hname'.trans hname.symm)]

/-- Then the order of the blocks does not matter. -/
theorem last?_perm {xs ys : List Block} (hperm : xs.Perm ys) (hnodup : (xs.map Block.name).Nodup)
    (name : String) : last? name xs = last? name ys := by
  have hnodup' := (hperm.map Block.name).nodup_iff.mp hnodup
  ext block
  rw [last?_eq_some_iff hnodup, last?_eq_some_iff hnodup', hperm.mem_iff]

end Block

/-! ## Bodies -/

/-- Every list of nodes is a preamble and blocks. -/
theorem exists_blocks (nodes : List Node) :
    ∃ (preamble : List Node) (blocks : List Block), Closed preamble ∧
      nodes = preamble ++ blocks.flatMap Block.nodes := by
  induction nodes with
  | nil => exact ⟨[], [], by simp [Closed], rfl⟩
  | cons node rest ih =>
    obtain ⟨preamble, blocks, hclosed, rfl⟩ := ih
    cases hopen : isOpening node with
    | true => exact ⟨[], ⟨node, preamble, hopen, hclosed⟩ :: blocks, by simp [Closed], rfl⟩
    | false => exact ⟨node :: preamble, blocks, by simpa [Closed, hopen] using hclosed, rfl⟩

theorem lastUnder_append_of_closed {xs : List Node} (h : Closed xs) (title : String)
    (ys : List Node) : lastUnder title (xs ++ ys) = lastUnder title ys := by
  induction xs with
  | nil => rfl
  | cons x xs ih =>
    rw [List.cons_append, lastUnder_of_not_opening (h x (List.mem_cons_self ..))]
    exact ih fun node hnode => h node (List.mem_cons_of_mem x hnode)

/-- Nodes that open no section, before a section heading or the end, are the nodes up to there. -/
theorem takeWhile_closed {items after : List Node} (h : Closed items)
    (hends : ∀ node ∈ after.head?, isOpening node = true) :
    ((items ++ after).takeWhile fun n => !isOpening n) = items := by
  have hafter : (after.takeWhile fun n => !isOpening n) = [] := by
    cases after with
    | nil => rfl
    | cons node rest => simp [hends node rfl]
  rw [List.takeWhile_append_of_pos fun node hnode => by simp [h node hnode], hafter,
    List.append_nil]

theorem head?_blocks (blocks : List Block) :
    ∀ node ∈ (blocks.flatMap Block.nodes).head?, isOpening node = true := by
  cases blocks with
  | nil => simp
  | cons block blocks =>
    rintro node ⟨⟩
    exact block.opens

/-- **What stands under a title are the items of the last block with that name.** -/
theorem lastUnder_blocks (title : String) (blocks : List Block) :
    lastUnder title (blocks.flatMap Block.nodes) =
      (Block.last? title blocks).map Block.items := by
  induction blocks with
  | nil => rfl
  | cons block blocks ih =>
    rw [List.flatMap_cons, Block.nodes, List.cons_append, lastUnder,
      lastUnder_append_of_closed block.closed, ih,
      takeWhile_closed block.closed (head?_blocks blocks), block.opens, ← List.singleton_append,
      Block.last?_append, Block.last?_singleton, Option.map_or]
    unfold Block.name
    simp only [Bool.true_and, beq_iff_eq]
    split <;> rfl

end Quizmark.Section
