import Quizmark.Proofs.Cloze.Marker
import Quizmark.Proofs.Cloze.Tree
import Quizmark.Proofs.HeadingId.Slug
import Quizmark.Proofs.HeadingId.Walk

/-!
# Cloze markers in headings

Markers are made of silent characters, and so is what takes their place. A heading has the same id
whether the markers in it were replaced or not.

* `alike_rewriteChars`: a text and its rewriting have silent characters in the same places.
* `slug_rewrite`: they have one slug.
* `baseId_cloze`: the cloze pass keeps the base id of every node, so that the id pass commutes with
  its edit (`assignIds_cloze`).
-/

namespace Quizmark

open HeadingId

namespace Cloze

open Text

/-! ## Signs -/

/-- The characters of markers and of what takes their place. -/
def signs : List Char := ['\\', '$', '\x7b', '\x7d']

/-- A slug drops every sign that the rewriter adds or takes away. -/
theorem silent_of_mem_signs {c : Char} (h : c ∈ signs) : Silent c := by
  simp only [signs, List.mem_cons, List.not_mem_nil, or_false] at h
  rcases h with rfl | rfl | rfl | rfl <;> exact ⟨rfl, rfl⟩

theorem alike_of_signs {xs ys : List Char} (hx : xs ≠ [] ∧ xs ⊆ signs)
    (hy : ys ≠ [] ∧ ys ⊆ signs) : Alike xs ys :=
  .of_runs ⟨hx.1, fun _ hc => silent_of_mem_signs (hx.2 hc)⟩
    ⟨hy.1, fun _ hc => silent_of_mem_signs (hy.2 hc)⟩

/-! ## Texts -/

/-- A substitution changes silent characters only if every match takes and writes texts that are
alike. -/
theorem alike_substitute {pattern? : List Char → Option Match}
    (hmatch : ∀ cs found, pattern? cs = some found →
      0 < found.length ∧ Alike found.output (cs.take found.length))
    (cs : List Char) : Alike (substitute pattern? cs) cs := by
  -- A match takes several characters at once, so the induction is on the length.
  induction hn : cs.length using Nat.strongRecOn generalizing cs with
  | ind n ih =>
    cases cs with
    | nil => simpa using Alike.nil
    | cons c cs =>
      cases hfound : pattern? (c :: cs) with
      | none =>
        rw [substitute_of_none hfound]
        exact .keep c (ih cs.length (by simp [← hn]) cs rfl)
      | some found =>
        obtain ⟨hpos, halike⟩ := hmatch _ _ hfound
        have hless : ((c :: cs).drop found.length).length < n := by
          simp only [List.length_drop, List.length_cons] at hn ⊢
          omega
        have hrest := halike.append (ih _ hless _ rfl)
        rw [substitute_of_some hfound hpos]
        rwa [List.take_append_drop] at hrest

theorem alike_escape {cs : List Char} {found : Match} (h : escape? cs = some found) :
    0 < found.length ∧ Alike found.output (cs.take found.length) := by
  obtain ⟨rest, rfl, rfl⟩ := of_escape? h
  refine ⟨by decide, ?_⟩
  exact alike_of_signs (by simp [opening, signs]) (by simp [opening, signs])

theorem alike_unescape (cs : List Char) : Alike (unescape cs) cs :=
  alike_substitute (fun _ _ => alike_escape) cs

theorem alike_blank {cs : List Char} {found : Match} (h : blank? cs = some found) :
    0 < found.length ∧ Alike found.output (cs.take found.length) := by
  obtain ⟨answer, rest, -, -, rfl, rfl⟩ := of_blank? h
  refine ⟨by simp, ?_⟩
  rw [List.take_left' (by simp [opening, closing])]
  have hopen : Alike ['$', '\x7b'] opening :=
    alike_of_signs (by simp [signs]) (by simp [opening, signs])
  have hclose : Alike ['\x7d'] closing :=
    alike_of_signs (by simp [signs]) (by simp [closing, signs])
  exact (hopen.append (alike_unescape answer)).append hclose

theorem alike_rewriteChars (cs : List Char) : Alike (rewriteChars cs) cs := by
  refine alike_substitute (fun cs found h => ?_) cs
  rcases Option.or_eq_some_iff.mp h with hescape | ⟨-, hblank⟩
  · exact alike_escape hescape
  · exact alike_blank hblank

theorem alike_rewrite (s : String) : Alike (rewrite s).toList s.toList := by
  simpa [rewrite] using alike_rewriteChars s.toList

theorem slug_rewrite (s : String) : slug (rewrite s) = slug s := slug_alike (alike_rewrite s)

end Cloze

namespace Node

/-! ## Headings -/

/-- Rewriting the texts inside a node changes the text of the whole only in signs. -/
theorem alike_text_cloze (node : Node) :
    Alike (node.edit Cloze.edit).text.toList node.text.toList := by
  refine text_edit_rel (R := fun s s' => Alike s.toList s'.toList) (fun s => .refl _) ?_ ?_ node
  · intro s s' t t' h k
    simpa using h.append k
  · intro kind value
    rw [Cloze.edit]
    dsimp only
    split
    · exact Cloze.alike_rewrite value
    · exact .refl _

theorem baseId_cloze (idPrefix : String) (node : Node) :
    (node.edit Cloze.edit).baseId idPrefix = node.baseId idPrefix := by
  have htitle : slug (node.edit Cloze.edit).title = slug node.title := by
    refine slug_alike ?_
    simpa [title, Text.trimmed] using (alike_text_cloze node).trim
  rw [baseId, baseId, htitle]

variable (idPrefix : String) (c : Counter) (nodes : List Node)

/-- Ids can be given before or after the cloze pass. -/
theorem assignIds_cloze :
    assignIds idPrefix c (nodes.map (edit Cloze.edit)) =
      (assignIds idPrefix c nodes).map (List.map (edit Cloze.edit)) :=
  assignIds_edit takesId_cloze (baseId_cloze idPrefix) c nodes

/-- The headings keep their places and their ids. -/
theorem ids_cloze :
    (idHeadings (nodes.map (edit Cloze.edit))).map id? = (idHeadings nodes).map id? := by
  have htakes : takesId ∘ edit Cloze.edit = takesId := funext takesId_cloze
  have hid : id? ∘ edit Cloze.edit = id? := funext fun node => by simp [id?]
  rw [idHeadings, inOrderAll_edit, List.filter_map, htakes, List.map_map, hid, idHeadings]

end Node

end Quizmark
