import Mathlib.Data.Option.Basic
import Quizmark.Proofs.Exercise.Content

/-!
# When the ids of headings are distinct

Ids are numbered by how often a base id came before, not by which ids are taken. So a heading may
get an id that another one has: `A`, `A` and `A 1` become `A`, `A-1` and `A-1`. These theorems say
exactly when this does not happen.

* `Node.slugs`: the slugs of headings, and `Node.DistinctIff`: what they tell about the ids.
* `Root.contents`: the nodes of a document that a compilation gives ids to.
* `distinct_ids_iff`: ids are distinct exactly if the slugs are `Unambiguous`, for one pass with a
  new counter and for a compilation whose parts share their counter.
-/

namespace Quizmark

open HeadingId

namespace Node

/-! ## One pass -/

/-- The slugs of headings. -/
def slugs (headings : List Node) : List String := headings.map fun heading => slug heading.title

/-- Each of the headings has an id, and the ids are pairwise distinct exactly if `names` are
unambiguous. -/
def DistinctIff (names : List String) (headings : List Node) : Prop :=
  (∀ heading ∈ headings, heading.id?.isSome = true) ∧
    ((headings.map id?).Nodup ↔ Unambiguous names)

variable {idPrefix : String} {c : Counter}

/-- From a new counter every heading gets an id, and the slugs tell whether they are distinct. -/
theorem IdsGiven.distinctIff {hs hs' : List Node} (h : IdsGiven idPrefix [] hs c hs') :
    DistinctIff (slugs hs) hs' := by
  constructor
  · intro heading hmem
    have hid : heading.id? ∈ hs'.map id? := List.mem_map_of_mem hmem
    rw [h.ids] at hid
    obtain ⟨id, -, hid⟩ := List.mem_map.mp hid
    rw [← hid]
    rfl
  · have hbases : hs.map (baseId idPrefix) = (slugs hs).map (idPrefix ++ "-" ++ ·) := by
      rw [slugs, List.map_map]
      rfl
    rw [h.ids, List.nodup_map_iff (Option.some_injective _), ids_nodup_iff, hbases,
      unambiguous_map_append]

/-- The order of the headings plays no part. -/
theorem DistinctIff.perm {names : List String} {hs ks : List Node} (h : DistinctIff names hs)
    (hperm : ks.Perm hs) : DistinctIff names ks := by
  constructor
  · intro heading hmem
    exact h.1 heading (hperm.mem_iff.mp hmem)
  · rw [(hperm.map _).nodup_iff]
    exact h.2

/-- A pass gives ids to the first headings and leaves the others as they are. There are others only
if it is stopped. -/
theorem distinct_ids_assignIds (idPrefix : String) (nodes : List Node) :
    ∃ done rest done', idHeadings nodes = done ++ rest ∧
      idHeadings (assignIds idPrefix [] nodes).value = done' ++ rest ∧
      ((assignIds idPrefix [] nodes).fault = none → rest = []) ∧
      DistinctIff (slugs done) done' := by
  cases hfault : (assignIds idPrefix [] nodes).fault with
  | none =>
    have hids := idsGiven_of_passes (passes_visitAll nodes [] hfault)
    exact ⟨_, [], _, by simp, by simp [assignIds], fun _ => rfl, hids.distinctIff⟩
  | some fault =>
    obtain ⟨done, rest, done', _, hnodes, hnodes', hids⟩ :=
      idsGiven_of_stops (stops_visitAll nodes [] hfault)
    exact ⟨done, rest, done', hnodes, hnodes', by simp, hids.distinctIff⟩

end Node

/-! ## A compilation -/

open Node

namespace QuestionSpec

variable {options : QuestionOptions} {spec : QuestionSpec}

/-- There are no headings among scoring criteria. -/
theorem idHeadings_criteriaList (criteria : List Section.Criterion) :
    idHeadings (criteria.map criterionItem) = [] := by
  induction criteria with
  | nil => rfl
  | cons criterion criteria ih =>
    rw [List.map_cons, criterionItem, ofKind, ofKind, ofText, idHeadings_branch, idHeadings_branch,
      idHeadings_literal, ih]
    rfl

theorem idHeadings_ofElement (name : String) (attributes : List Attribute)
    (children rest : List Node) :
    idHeadings (.ofElement name attributes children :: rest) =
      idHeadings children ++ idHeadings rest := by
  rw [ofElement, ofKind, idHeadings_branch]
  rfl

/-- The headings of an exercise are those of its parts. -/
theorem idHeadings_exercise :
    idHeadings [spec.exercise options] =
      idHeadings spec.prompt ++ idHeadings spec.choices ++ idHeadings spec.examTip ++
        idHeadings spec.explanation := by
  have htip : idHeadings (spec.examTipPart options) = idHeadings spec.examTip := by
    unfold examTipPart
    split
    · rename_i hempty
      rw [List.isEmpty_iff.mp hempty]
    · rw [admonition, idHeadings_ofElement, idHeadings_nil, List.append_nil]
  have hscoring : idHeadings (spec.scoringPart options) = [] := by
    unfold scoringPart
    split
    · rfl
    · rw [admonition, idHeadings_ofElement, criteriaList, ofKind, idHeadings_branch,
        idHeadings_criteriaList]
      rfl
  rw [exercise, idHeadings_ofElement, idHeadings_nil, List.append_nil]
  simp only [idHeadings_append, htip, hscoring, idHeadings_ofElement, idHeadings_nil,
    List.append_nil]

end QuestionSpec

/-- The nodes of a document that a compilation gives ids to, in the order in which it does. -/
def Root.contents (options : QuestionOptions) (root : Root) : List Node :=
  let nodes := Section.restNodes options.examMarkers (root.under "Prompt") ++
    Section.tipNodes options.examMarkers (root.under "Prompt") ++ root.under "Options" ++
    root.under "Explanation"
  if QuestionSpec.isClozeType (Text.trimmed (nodesText (root.under "Type"))) then
    nodes.map (Node.edit Cloze.edit)
  else nodes

namespace QuestionSpec

variable {options : QuestionOptions} {path : String} {root : Root} {first spec : QuestionSpec}

/-- The parts of the exercise, in the order in which ids are given, are the sections of the
document. -/
theorem contents_of_written (h : WrittenFrom options path root first) {second : QuestionSpec}
    (hsecond : second = if first.isCloze then first.edit Cloze.edit else first) :
    root.contents options =
      second.prompt ++ second.examTip ++ second.choices ++ second.explanation := by
  subst hsecond
  rw [Root.contents, ← h.isCloze, ← h.prompt, ← h.examTip, ← h.choices, ← h.explanation]
  cases first.isCloze with
  | true => simp [edit]
  | false => rfl

/-- With a shared counter, the id pass goes through all parts as through one list. -/
theorem IdsFrom.passes_shared (h : IdsFrom true first spec) :
    ∃ c, Passes (idStep first.idPrefix) []
      (first.prompt ++ first.examTip ++ first.choices ++ first.explanation) c
      (spec.prompt ++ spec.examTip ++ spec.choices ++ spec.explanation) := by
  obtain ⟨_, _, _, c, hprompt, htip, hchoices, hexplanation⟩ := h.passes
  exact ⟨c, ((hprompt.append htip).append hchoices).append hexplanation⟩

end QuestionSpec

/-- **Ids are distinct exactly if the slugs are unambiguous**: no slug is written like a repeat of
another one. -/
theorem distinct_ids_iff (idPrefix : String) (nodes : List Node) (options : QuestionOptions)
    (path : String) (root : Root) :
    (∃ done rest done', idHeadings nodes = done ++ rest ∧
      idHeadings (assignIds idPrefix [] nodes).value = done' ++ rest ∧
      ((assignIds idPrefix [] nodes).fault = none → rest = []) ∧
      DistinctIff (slugs done) done') ∧
    ∀ result, options.sharesCounter = true → options.admits path = true →
      root.compile options path = .ok result →
        DistinctIff (slugs (idHeadings (root.contents options))) (idHeadings result.children) := by
  refine ⟨distinct_ids_assignIds idPrefix nodes, ?_⟩
  intro result hshares hadmits hresult
  obtain ⟨spec, hspec, rfl⟩ := Root.compile_ok hadmits hresult
  obtain ⟨first, hfirst, hids⟩ := QuestionSpec.ofRoot_ok hspec
  rw [hshares] at hids
  obtain ⟨c, hpasses⟩ := hids.passes_shared
  rw [← QuestionSpec.contents_of_written hfirst rfl] at hpasses
  refine (idsGiven_of_passes hpasses).distinctIff.perm ?_
  -- The exercise has the exam tip behind the options, but ids are given to it before.
  rw [Root.withExercise, QuestionSpec.idHeadings_exercise]
  simp only [idHeadings_append, List.append_assoc]
  exact (List.perm_append_comm_assoc ..).append_left _

/-- Three headings of which the last has the title of a repeat. -/
def lookalikes : List Node :=
  ["A", "A", "A 1"].map (Node.ofTitle 3)

theorem lookalikes_share_an_id :
    (assignIds "q" [] lookalikes).fault = none ∧
      ¬ ((idHeadings (assignIds "q" [] lookalikes).value).map id?).Nodup := by
  decide +kernel

theorem distinct_ids_iff_rivers :
    (∃ done rest done', idHeadings lookalikes = done ++ rest ∧
      idHeadings (assignIds "q" [] lookalikes).value = done' ++ rest ∧ rest = [] ∧
      DistinctIff (slugs done) done') ∧
    ∃ result, Root.rivers.compile { sharesCounter := true } "rivers.qspec.md" = .ok result ∧
      DistinctIff (slugs (idHeadings (Root.rivers.contents { sharesCounter := true })))
        (idHeadings result.children) := by
  obtain ⟨result, h⟩ := ok_of_toBool (by decide +kernel :
    (Root.rivers.compile { sharesCounter := true } "rivers.qspec.md").toBool = true)
  have hboth :=
    distinct_ids_iff "q" lookalikes { sharesCounter := true } "rivers.qspec.md" Root.rivers
  obtain ⟨done, rest, done', hnodes, hnodes', hrest, hdistinct⟩ := hboth.1
  exact ⟨⟨done, rest, done', hnodes, hnodes', hrest (by decide +kernel), hdistinct⟩, result, h,
    hboth.2 _ rfl (by decide +kernel) h⟩

end Quizmark
