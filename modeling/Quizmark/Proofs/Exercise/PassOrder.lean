import Quizmark.Proofs.Cloze.Slug
import Quizmark.Proofs.Exercise.Stages

/-!
# The order of the cloze pass and the id pass

A cloze question goes through the cloze pass and then through the id pass. The other order would do
as well.

* `clozeThenIds`, `idsThenCloze`: the two orders over the nodes of a part.
* `clozeThenIds_ok` and the lemmas behind it: whether the id pass is stopped decides both, and where
  it is not, both give what it leaves with the markers replaced.
* `clozeThenIds_comm`: the orders come to the same.
-/

namespace Quizmark.Node

open HeadingId
open QuestionSpec (finished finished_of_fault finished_map finished_bind_eq_error)

section Orders

variable (idPrefix : String) (c : Counter) (nodes : List Node)

/-- The nodes and the counter behind the cloze pass and then the id pass. -/
def clozeThenIds : Except Error (List Node × Counter) := do
  let rewritten ← finished (cloze nodes)
  let ids := assignIds idPrefix c rewritten
  let numbered ← finished ids
  return (numbered, ids.state)

/-- The nodes and the counter behind the id pass and then the cloze pass. -/
def idsThenCloze : Except Error (List Node × Counter) := do
  let ids := assignIds idPrefix c nodes
  let numbered ← finished ids
  let rewritten ← finished (cloze numbered)
  return (rewritten, ids.state)

end Orders

variable {idPrefix : String} {c : Counter} {nodes : List Node}

/-- Where the id pass is not stopped, neither is the cloze pass. -/
theorem fault_cloze_of_ids (h : (assignIds idPrefix c nodes).fault = none) :
    (cloze nodes).fault = none := by
  rw [fault_assignIds, List.findSome?_eq_none_iff] at h
  rw [fault_cloze, List.findSome?_eq_none_iff]
  exact fun node hnode => (Option.or_eq_none_iff.mp (h node hnode)).2

/-- Nor is it behind the id pass. -/
theorem fault_cloze_behind_ids (h : (assignIds idPrefix c nodes).fault = none) :
    (cloze (assignIds idPrefix c nodes).value).fault = none := by
  rw [fault_cloze]
  exact looseFaults_of_passes (passes_visitAll nodes c h)

/-- Where the id pass is not stopped, both orders give what it leaves with the markers replaced. -/
theorem clozeThenIds_ok (h : (assignIds idPrefix c nodes).fault = none) :
    clozeThenIds idPrefix c nodes =
      .ok ((assignIds idPrefix c nodes).value.map (edit Cloze.edit),
        (assignIds idPrefix c nodes).state) := by
  have hcloze := fault_cloze_of_ids h
  simp only [clozeThenIds, finished_of_fault hcloze, cloze_ok hcloze, assignIds_cloze, finished_map,
    finished_of_fault h, bind, Except.bind]
  rfl

/-- If all ids can be given, the cloze pass that follows goes through as well. -/
theorem idsThenCloze_ok (h : (assignIds idPrefix c nodes).fault = none) :
    idsThenCloze idPrefix c nodes =
      .ok ((assignIds idPrefix c nodes).value.map (edit Cloze.edit),
        (assignIds idPrefix c nodes).state) := by
  have hcloze := fault_cloze_behind_ids h
  simp only [idsThenCloze, finished_of_fault h, finished_of_fault hcloze, cloze_ok hcloze, bind,
    Except.bind]
  rfl

/-- Where it is stopped, so are both orders, though maybe at another node. -/
theorem clozeThenIds_error {fault : Error} (h : (assignIds idPrefix c nodes).fault = some fault) :
    ∃ fault, clozeThenIds idPrefix c nodes = .error fault := by
  unfold clozeThenIds
  cases hcloze : (cloze nodes).fault with
  | some first => exact ⟨first, finished_bind_eq_error.mpr (.inl hcloze)⟩
  | none =>
    refine ⟨fault, finished_bind_eq_error.mpr (.inr ⟨hcloze, ?_⟩)⟩
    rw [cloze_ok hcloze]
    refine finished_bind_eq_error.mpr (.inl ?_)
    rw [assignIds_cloze, Outcome.map_fault, h]

theorem idsThenCloze_error {fault : Error} (h : (assignIds idPrefix c nodes).fault = some fault) :
    ∃ fault, idsThenCloze idPrefix c nodes = .error fault :=
  ⟨fault, finished_bind_eq_error.mpr (.inl h)⟩

/-- **The cloze pass and the id pass commute.** One order of them is stopped exactly if the other
one is, and if not, both give the same nodes and the same counter. Markers do not show in a slug, so
making a question a cloze changes the id of no heading. -/
theorem clozeThenIds_comm (idPrefix : String) (c : Counter) (nodes : List Node) :
    ((∃ fault, clozeThenIds idPrefix c nodes = .error fault) ↔
        ∃ fault, idsThenCloze idPrefix c nodes = .error fault) ∧
      (∀ result, clozeThenIds idPrefix c nodes = .ok result ↔
        idsThenCloze idPrefix c nodes = .ok result) ∧
      (∀ s, slug (Cloze.rewrite s) = slug s) ∧
      (clozeThenIds idPrefix c nodes).toOption.map (fun result => (idHeadings result.1).map id?) =
        (finished (assignIds idPrefix c nodes)).toOption.map fun numbered =>
          (idHeadings numbered).map id? := by
  -- Whether the ids can be given decides how both orders end.
  cases hids : (assignIds idPrefix c nodes).fault with
  | none =>
    rw [clozeThenIds_ok hids, idsThenCloze_ok hids, finished_of_fault hids]
    refine ⟨.rfl, fun _ => .rfl, Cloze.slug_rewrite, ?_⟩
    simp [Except.toOption, ids_cloze]
  | some fault =>
    obtain ⟨first, hfirst⟩ := clozeThenIds_error hids
    obtain ⟨second, hsecond⟩ := idsThenCloze_error hids
    have hfinished : finished (assignIds idPrefix c nodes) = .error fault := by
      rw [finished, hids]
    rw [hfirst, hsecond, hfinished]
    exact ⟨by simp, by simp, Cloze.slug_rewrite, rfl⟩

end Quizmark.Node
