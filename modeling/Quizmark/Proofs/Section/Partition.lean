import Quizmark.Section

/-!
# What stands under a title

`Section.partition` goes through a body once and keeps all sections in hand. `Section.lastUnder`
tells of one title alone what its section is.

* `modify`: what the partition does to its sections, at every step one of them
  (`partitionFrom_opening`, `partitionFrom_none`, `partitionFrom_some`).
* `lastUnder title nodes`: the nodes behind the last section heading with the title, up to the next
  section heading or to the end. It is `none` if there is no such heading.
* `lookup_partition`, `get_partition`: the section of a title is what stands under it.
* `lastUnder_map`: a change that keeps headings and their titles changes a section node by node.
-/

namespace Quizmark.Section

variable {α : Type}

/-! ## Looking up a section -/

/-- Changes the items of a section, or opens one with the change of no items at the end. -/
def modify (f : List α → List α) : Sections α → String → Sections α
  | [], name => [(name, f [])]
  | (k, items) :: rest, name =>
    if k = name then (k, f items) :: rest else (k, items) :: modify f rest name

theorem restart_eq_modify (sections : Sections α) (name : String) :
    restart sections name = modify (fun _ => []) sections name := by
  induction sections with
  | nil => rfl
  | cons entry rest ih => rw [restart, modify, ih]

theorem append_eq_modify (item : α) (sections : Sections α) (name : String) :
    append item sections name = modify (· ++ [item]) sections name := by
  induction sections with
  | nil => rfl
  | cons entry rest ih => rw [append, modify, ih]

theorem lookup_cons_eq_ite (k : String) (items : List α) (rest : Sections α) (title : String) :
    ((k, items) :: rest).lookup title = if k = title then some items else rest.lookup title := by
  by_cases h : k = title
  · simp [h]
  · have hb : (title == k) = false := beq_eq_false_iff_ne.mpr (Ne.symm h)
    simp [List.lookup_cons, hb, h]

/-- A change of one section leaves the others alone. -/
theorem lookup_modify (f : List α → List α) (sections : Sections α) (name title : String) :
    (modify f sections name).lookup title =
      if name = title then some (f (get sections title)) else sections.lookup title := by
  unfold get
  induction sections with
  | nil => rw [modify, lookup_cons_eq_ite, List.lookup_nil, Option.getD_none]
  | cons entry rest ih =>
    obtain ⟨k, items⟩ := entry
    rw [modify]
    by_cases hk : k = name
    · subst hk
      rw [if_pos rfl, lookup_cons_eq_ite, lookup_cons_eq_ite]
      split <;> rfl
    · rw [if_neg hk, lookup_cons_eq_ite, lookup_cons_eq_ite, ih]
      by_cases ht : k = title
      · rw [if_pos ht, if_pos ht, if_neg (fun h => hk (ht.trans h.symm))]
      · rw [if_neg ht, if_neg ht]

theorem get_modify (f : List α → List α) (sections : Sections α) (name title : String) :
    get (modify f sections name) title =
      if name = title then f (get sections title) else get sections title := by
  rw [get, lookup_modify]
  split <;> rfl

/-- A section that is there is what `get` gives. -/
theorem lookup_eq_some_get {sections : Sections α} {title : String}
    (h : (sections.lookup title).isSome = true) :
    sections.lookup title = some (get sections title) := by
  obtain ⟨items, hitems⟩ := Option.isSome_iff_exists.mp h
  rw [get, hitems, Option.getD_some]

/-! ## The section of one title -/

/-- A node opens a section. -/
def isOpening (node : Node) : Bool := node.isHeadingAt depth

/-- The nodes behind the last section heading with a title, up to the next section heading or to
the end. -/
def lastUnder (title : String) : List Node → Option (List Node)
  | [] => none
  | node :: rest =>
    (lastUnder title rest).or <|
      if isOpening node && node.title == title then some (rest.takeWhile fun n => !isOpening n)
      else none

theorem lastUnder_of_not_opening {node : Node} (h : isOpening node = false) (title : String)
    (rest : List Node) : lastUnder title (node :: rest) = lastUnder title rest := by
  simp [lastUnder, h]

/-! ## One step of the partition -/

section Step

variable {node : Node} {sections : Sections Node} (rest : List Node)

/-- A heading starts its section anew. -/
theorem partitionFrom_opening (h : isOpening node = true) (current : Option String) :
    partitionFrom id current sections (node :: rest) =
      partitionFrom id (some node.title) (modify (fun _ => []) sections node.title) rest := by
  have hhead : (id node).isHeadingAt depth = true := h
  rw [← restart_eq_modify]
  conv => lhs; unfold partitionFrom
  rw [if_pos hhead]
  rfl

/-- Nodes before the first heading are dropped. -/
theorem partitionFrom_none (h : isOpening node = false) :
    partitionFrom id none sections (node :: rest) = partitionFrom id none sections rest := by
  have hhead : ¬ (id node).isHeadingAt depth = true := by simpa [isOpening] using h
  conv => lhs; unfold partitionFrom
  rw [if_neg hhead]

/-- Any other node goes to the section of the last heading. -/
theorem partitionFrom_some (h : isOpening node = false) (name : String) :
    partitionFrom id (some name) sections (node :: rest) =
      partitionFrom id (some name) (modify (· ++ [node]) sections name) rest := by
  have hhead : ¬ (id node).isHeadingAt depth = true := by simpa [isOpening] using h
  rw [← append_eq_modify]
  conv => lhs; unfold partitionFrom
  rw [if_neg hhead]

end Step

/-- The section that is open gets what stands before the next section heading, unless a later
heading starts it over. -/
theorem lookup_partitionFrom (nodes : List Node) (current : Option String)
    (sections : Sections Node) (hopen : ∀ name ∈ current, (sections.lookup name).isSome = true)
    (title : String) :
    (partitionFrom id current sections nodes).lookup title =
      (lastUnder title nodes).or
        (if current = some title then
          some (get sections title ++ nodes.takeWhile fun n => !isOpening n)
        else sections.lookup title) := by
  induction nodes generalizing current sections with
  | nil =>
    by_cases hc : current = some title
    · simp [partitionFrom, lastUnder, hc, lookup_eq_some_get (hopen title hc)]
    · simp [partitionFrom, lastUnder, hc]
  | cons node rest ih =>
    cases hhead : isOpening node with
    | true =>
      -- The section is there from its heading on, so what follows can be added to it.
      have hthere : ∀ name ∈ some node.title,
          ((modify (fun _ => []) sections node.title).lookup name).isSome = true := by
        rintro name ⟨⟩
        simp [lookup_modify]
      rw [partitionFrom_opening rest hhead, ih _ _ hthere, lastUnder, Option.or_assoc]
      refine congrArg (Option.or (lastUnder title rest)) ?_
      by_cases ht : node.title = title
      · simp [get_modify, hhead, ht]
      · by_cases hc : current = some title
        · simp [lookup_modify, hhead, ht, hc, lookup_eq_some_get (hopen title hc)]
        · simp [lookup_modify, hhead, ht, hc]
    | false =>
      rw [lastUnder_of_not_opening hhead]
      cases current with
      | none => rw [partitionFrom_none rest hhead, ih _ _ hopen]; simp
      | some name =>
        have hthere : ∀ other ∈ some name,
            ((modify (· ++ [node]) sections name).lookup other).isSome = true := by
          rintro other ⟨⟩
          simp [lookup_modify]
        rw [partitionFrom_some rest hhead, ih _ _ hthere]
        by_cases ht : name = title
        · simp [get_modify, ht, hhead]
        · simp [lookup_modify, ht]

/-- A section holds what stands under the last heading with its title. -/
theorem lookup_partition (nodes : List Node) (title : String) :
    (partition nodes).lookup title = lastUnder title nodes := by
  rw [partition, partitionBy, lookup_partitionFrom _ _ _ (by simp)]
  simp

/-- **The section of a title is what stands under its last heading.** -/
theorem get_partition (nodes : List Node) (title : String) :
    get (partition nodes) title = (lastUnder title nodes).getD [] := by
  rw [get, lookup_partition]

/-! ## What the section of a title depends on -/

theorem lastUnder_subset {title : String} {nodes under : List Node}
    (h : lastUnder title nodes = some under) : under ⊆ nodes := by
  induction nodes with
  | nil => cases h
  | cons node rest ih =>
    rw [lastUnder, Option.or_eq_some_iff] at h
    rcases h with h | ⟨-, h⟩
    · exact List.subset_cons_of_subset node (ih h)
    · rw [Option.ite_none_right_eq_some, Option.some_inj] at h
      obtain ⟨-, rfl⟩ := h
      exact List.subset_cons_of_subset node (List.takeWhile_sublist _).subset

/-- A change of nodes that keeps headings and their titles keeps the section of a title. -/
theorem lastUnder_map {f : Node → Node}
    (hhead : ∀ n node, (f node).isHeadingAt n = node.isHeadingAt n)
    (htitle : ∀ node, (f node).title = node.title) (title : String) (nodes : List Node) :
    lastUnder title (nodes.map f) = (lastUnder title nodes).map (List.map f) := by
  have hopen (node : Node) : isOpening (f node) = isOpening node := hhead depth node
  induction nodes with
  | nil => rfl
  | cons node rest ih =>
    have hsection : (rest.map f).takeWhile (fun n => !isOpening n) =
        (rest.takeWhile fun n => !isOpening n).map f := by
      rw [List.takeWhile_map]
      simp only [Function.comp_def, hopen]
    rw [List.map_cons, lastUnder, lastUnder, ih, hopen, htitle, hsection]
    cases lastUnder title rest with
    | some nodes => rfl
    | none => split <;> rfl

end Quizmark.Section
