import Mathlib.Data.List.TakeWhile
import Quizmark.Proofs.Error
import Quizmark.Proofs.Text.Blank
import Quizmark.Section

/-!
# The lines of scoring criteria

* `CriterionLine digits description line`: the grammar of a line with a criterion.
* `criterion?_of_line`, `criterionLine_of_ne_none`: the lines that are read as criteria are those of
  the grammar.
* `Overlong`: a line whose points have more digits than are read. Such lines, and nothing else, stop
  the reading of criteria (`criteria_error_iff`).
-/

namespace Quizmark.Section

open Text

/-- A line without blanks at its ends holds a criterion: digits, a colon and a description, with
blanks between the digits and the colon. -/
def CriterionLine (digits description line : List Char) : Prop :=
  (∀ c ∈ digits, isDigit c = true) ∧ digits ≠ [] ∧ description ≠ [] ∧
    ∃ gap, (∀ c ∈ gap, isBlank c = true) ∧ line = digits ++ gap ++ ':' :: description

variable {digits description line : List Char} {fault : Error}

/-- The digits of a criterion end where the blanks or the colon begin. -/
theorem isDigit_head?_gap {gap : List Char} (hgap : ∀ c ∈ gap, isBlank c = true)
    (description : List Char) : ∀ c ∈ (gap ++ ':' :: description).head?, isDigit c = false := by
  intro c hc
  cases gap with
  | nil =>
    obtain rfl := Option.some.inj hc
    decide
  | cons blank gap =>
    obtain rfl := Option.some.inj hc
    exact isDigit_eq_false_of_isBlank (hgap _ (List.mem_cons_self ..))

/-- A line of the form gives a criterion, or an error if its number is too long. -/
theorem criterion?_of_line (h : CriterionLine digits description line) :
    criterion? line =
      if digits.length > maxDigits then .error .numberTooLong
      else .ok (some ⟨ofDigits (digits.map digitValue), String.ofList (trim description)⟩) := by
  obtain ⟨hdigits, hne, hdescription, gap, hgap, rfl⟩ := h
  have htake : (digits ++ gap ++ ':' :: description).takeWhile isDigit = digits := by
    rw [List.append_assoc, takeWhile_append_stop hdigits (isDigit_head?_gap hgap description)]
  have hdrop : (digits ++ gap ++ ':' :: description).dropWhile isDigit =
      gap ++ ':' :: description := by
    rw [List.append_assoc, dropWhile_append_stop hdigits (isDigit_head?_gap hgap description)]
  have htrim : trimLeft (gap ++ ':' :: description) = ':' :: description := by
    rw [trimLeft, List.dropWhile_append_of_pos hgap]
    rfl
  unfold criterion?
  simp only [htake, hdrop, htrim]
  cases digits with
  | nil => exact absurd rfl hne
  | cons digit digits => simp [hdescription]

theorem criterionLine_of_ne_none (h : criterion? line ≠ .ok none) :
    ∃ digits description, CriterionLine digits description line := by
  unfold criterion? at h
  dsimp only at h
  split at h
  · rename_i digit digits description hdigits hrest
    split at h
    · exact absurd rfl h
    · rename_i hdescription
      refine ⟨line.takeWhile isDigit, description, fun c => List.mem_takeWhile_imp, ?_, ?_,
        (line.dropWhile isDigit).takeWhile isBlank, fun c => List.mem_takeWhile_imp, ?_⟩
      · rw [hdigits]
        exact List.cons_ne_nil digit digits
      · simpa using hdescription
      · rw [← hrest, trimLeft, List.append_assoc, List.takeWhile_append_dropWhile,
          List.takeWhile_append_dropWhile]
  · exact absurd rfl h

/-! ## What stops the reading -/

/-- A line holds a criterion whose points have more digits than are read. -/
def Overlong (line : List Char) : Prop :=
  ∃ digits description, CriterionLine digits description (trim line) ∧ maxDigits < digits.length

/-- A line fails only because its number is too long. -/
theorem criterion?_error_iff :
    criterion? (trim line) = .error fault ↔ fault = .numberTooLong ∧ Overlong line := by
  constructor
  · intro h
    have hne : criterion? (trim line) ≠ .ok none := by simp [h]
    obtain ⟨digits, description, hline⟩ := criterionLine_of_ne_none hne
    rw [criterion?_of_line hline] at h
    split at h
    · rename_i hlong
      cases h
      exact ⟨rfl, digits, description, hline, hlong⟩
    · cases h
  · rintro ⟨rfl, digits, description, hline, hlong⟩
    rw [criterion?_of_line hline, if_pos hlong]

/-- Criteria are read unless a line is overlong. -/
theorem criteria_error_iff {lines : List (List Char)} :
    criteria lines = .error fault ↔ fault = .numberTooLong ∧ ∃ line ∈ lines, Overlong line := by
  induction lines with
  | nil => simp [criteria]
  | cons line rest ih =>
    rw [criteria]
    cases hfirst : criterion? (trim line) with
    | error other =>
      obtain ⟨rfl, hlong⟩ := criterion?_error_iff.mp hfirst
      simp [bind, Except.bind, hlong, eq_comm]
    | ok found =>
      have hfits : ¬ Overlong line := fun hlong => by
        have herror := criterion?_error_iff.mpr ⟨rfl, hlong⟩
        rw [hfirst] at herror
        cases herror
      simp only [List.mem_cons, exists_eq_or_imp, hfits, false_or, ← ih]
      cases found with
      | none => rfl
      | some criterion => cases criteria rest <;> simp [bind, Except.bind, pure, Except.pure]

end Quizmark.Section
