import Mathlib.Algebra.GroupWithZero.Nat
import Mathlib.Data.List.Infix
import Quizmark.Proofs.Cloze.Segment

/-!
# What replacing markers takes away

Every marker that is replaced makes a text shorter, so a text that stays as it is holds none.

* `escapedMarkers`: how often an escaped marker begins in a text, overlaps with other markers
  included. So many characters an answer loses (`length_dropEscapes`).
* `Segment.length_output`: an escaped marker loses one character, and a blank one for its braces and
  one for each escaped marker in its answer.
* `unmarked_iff`: a text is unmarked if no marker occurs in it, also none that a scan would step
  over.
* `rewriteChars_cases`: a text is unmarked and stays, or is not and becomes shorter.
* `length_rewrite`: which texts stay as they are, and how much the others lose.
-/

namespace Quizmark.Cloze

/-! ## What a segment loses -/

/-- The number of places in a text where an escaped marker begins. -/
def escapedMarkers (cs : List Char) : Nat := cs.tails.countP ('\\' :: opening).isPrefixOf

/-- Each escape that is taken out makes the text shorter by its backslash. -/
theorem length_dropEscapes (cs : List Char) :
    (dropEscapes cs).length + escapedMarkers cs = cs.length := by
  induction cs with
  | nil => rfl
  | cons c cs ih =>
    unfold escapedMarkers at ih ⊢
    rw [List.tails_cons, List.countP_cons, dropEscapes]
    split
    · rw [List.length_cons, ← ih]
      omega
    · rw [List.length_cons, List.length_cons, ← ih]
      omega

namespace Segment

/-- Whether a segment is an escaped marker. -/
def isEscape : Segment → Bool
  | escape => true
  | blank _ | plain _ => false

/-- Whether a segment is a blank. -/
def isBlank : Segment → Bool
  | blank _ => true
  | escape | plain _ => false

/-- The number of escaped markers in the answer of a blank. -/
def nested : Segment → Nat
  | blank answer => escapedMarkers answer
  | escape | plain _ => 0

/-- How much shorter one segment gets: by one for an escape, by one for a blank, and by one for each
escape in the answer of a blank. -/
theorem length_output (segment : Segment) :
    segment.output.length + segment.isEscape.toNat + segment.isBlank.toNat + segment.nested =
      segment.source.length := by
  cases segment with
  | escape => rfl
  | blank answer =>
    have hanswer := length_dropEscapes answer
    simp only [output, source, isEscape, isBlank, nested, opening, closing, List.length_append,
      List.length_cons, List.length_nil, Bool.toNat_true, Bool.toNat_false]
    omega
  | plain c => rfl

theorem IsMarker.length_lt {segment : Segment} (h : segment.IsMarker) :
    segment.output.length < segment.source.length := by
  have hlength := segment.length_output
  cases segment with
  | escape => decide
  | blank answer =>
    simp only [isBlank, Bool.toNat_true] at hlength
    omega
  | plain c => exact h.elim

end Segment

/-! ## What a text loses -/

theorem length_flatMap_output (segments : List Segment) :
    (segments.flatMap Segment.output).length + segments.countP Segment.isEscape +
      segments.countP Segment.isBlank + (segments.map Segment.nested).sum =
      (segments.flatMap Segment.source).length := by
  induction segments with
  | nil => rfl
  | cons segment segments ih =>
    have hlength := segment.length_output
    rw [List.flatMap_cons, List.flatMap_cons, List.length_append, List.length_append,
      List.countP_cons, List.countP_cons, List.map_cons, List.sum_cons, ← ih, ← hlength]
    cases segment.isEscape <;> cases segment.isBlank <;> simp <;> omega

/-- A text is what its segments are made of. -/
theorem Segmentation.source_eq {cs : List Char} {segments : List Segment}
    (h : Segmentation cs segments) : cs = segments.flatMap Segment.source := by
  induction h with
  | nil => rfl
  | marker _ _ ih => rw [List.flatMap_cons, ← ih]
  | plain _ _ ih =>
    rw [List.flatMap_cons, ← ih]
    rfl

theorem Segmentation.length_rewriteChars {cs : List Char} {segments : List Segment}
    (h : Segmentation cs segments) :
    (rewriteChars cs).length + segments.countP Segment.isEscape +
      segments.countP Segment.isBlank + (segments.map Segment.nested).sum = cs.length := by
  rw [h.rewriteChars_eq, length_flatMap_output, ← h.source_eq]

theorem length_rewriteChars_le (cs : List Char) : (rewriteChars cs).length ≤ cs.length := by
  obtain ⟨segments, hsegments⟩ := exists_segmentation cs
  have hlength := hsegments.length_rewriteChars
  omega

/-! ## Texts without markers -/

/-- A text is unmarked if no marker is a part of it. -/
theorem unmarked_iff {cs : List Char} :
    Unmarked cs [] ↔ ¬ '\\' :: opening <:+: cs ∧ ∀ answer, answer ≠ [] → '\x7d' ∉ answer →
      ¬ opening ++ answer ++ closing <:+: cs := by
  constructor
  · intro hunmarked
    -- A marker inside the text begins some suffix of it.
    have hfree : ∀ segment : Segment, segment.IsMarker → ¬ segment.source <:+: cs := by
      intro segment hmarker hinfix
      obtain ⟨tail, ⟨rest, hrest⟩, htail⟩ := List.infix_iff_prefix_suffix.mp hinfix
      have hne : tail ≠ [] := by
        rintro rfl
        exact segment.source_ne_nil (List.append_eq_nil_iff.mp hrest).1
      exact hunmarked tail htail hne ⟨segment, rest, hmarker, by rw [List.append_nil, hrest]⟩
    exact ⟨hfree .escape trivial, fun answer hne hbrace => hfree (.blank answer) ⟨hne, hbrace⟩⟩
  · rintro ⟨hescape, hblank⟩ tail htail - ⟨segment, rest, hmarker, hrest⟩
    rw [List.append_nil] at hrest
    have hinfix : segment.source <:+: cs :=
      List.infix_iff_prefix_suffix.mpr ⟨tail, ⟨rest, hrest.symm⟩, htail⟩
    cases segment with
    | escape => exact hescape hinfix
    | blank answer => exact hblank answer hmarker.1 hmarker.2 hinfix
    | plain c => exact hmarker

/-- A marker that the scan steps over lies behind one that it replaces. -/
theorem rewriteChars_cases (cs : List Char) :
    (Unmarked cs [] ∧ rewriteChars cs = cs) ∨
      (¬ Unmarked cs [] ∧ (rewriteChars cs).length < cs.length) := by
  by_cases hunmarked : Unmarked cs []
  · have hall := rewriteChars_unmarked hunmarked
    exact .inl ⟨hunmarked, by simpa [rewriteChars] using hall⟩
  · refine .inr ⟨hunmarked, ?_⟩
    obtain ⟨segments, hsegments⟩ := exists_segmentation cs
    have hreplaced := hsegments.replaced
    rw [← hsegments.rewriteChars_eq] at hreplaced
    generalize rewriteChars cs = out at hreplaced
    cases hreplaced with
    | done hdone => exact absurd hdone hunmarked
    | @next before rest out segment hmarker _ hrest =>
      have hmarkerLength := hmarker.length_lt
      have hrestLength := length_rewriteChars_le rest
      rw [← hrest.eq] at hrestLength
      simp only [List.length_append]
      omega

/-- **Only markers are touched, and every marker makes a text shorter.** A text stays as it is
exactly if no escaped marker and no blank occurs in it. Any other text becomes shorter: by one
character for each escaped marker, one for each blank and one for each escaped marker in an
answer. -/
theorem length_rewrite (s : String) :
    (rewrite s = s ↔ ¬ '\\' :: opening <:+: s.toList ∧ ∀ answer, answer ≠ [] → '\x7d' ∉ answer →
      ¬ opening ++ answer ++ closing <:+: s.toList) ∧
      (rewrite s ≠ s → (rewrite s).length < s.length) ∧
      ∃ segments, (∀ others, Segmentation s.toList others ↔ others = segments) ∧
        (rewrite s).length + segments.countP Segment.isEscape +
          segments.countP Segment.isBlank + (segments.map Segment.nested).sum = s.length := by
  have hlength : (rewrite s).length = (rewriteChars s.toList).length := by
    rw [rewrite, String.length_ofList]
  have hself : rewrite s = s ↔ rewriteChars s.toList = s.toList := by
    rw [← String.toList_inj, rewrite, String.toList_ofList]
  have hcases := rewriteChars_cases s.toList
  refine ⟨?_, ?_, ?_⟩
  · rw [hself, ← unmarked_iff]
    rcases hcases with ⟨hunmarked, hsame⟩ | ⟨hmarked, hless⟩
    · exact iff_of_true hsame hunmarked
    · exact iff_of_false (fun hsame => by rw [hsame] at hless; omega) hmarked
  · intro hne
    rcases hcases with ⟨-, hsame⟩ | ⟨-, hless⟩
    · exact absurd (hself.mpr hsame) hne
    · rwa [hlength, ← String.length_toList]
  · obtain ⟨segments, hiff⟩ := segmentation_iff s.toList
    refine ⟨segments, hiff, ?_⟩
    rw [hlength, ← String.length_toList]
    exact ((hiff segments).mpr rfl).length_rewriteChars

end Quizmark.Cloze
