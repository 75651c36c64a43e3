import Quizmark.Cloze
import Quizmark.Proofs.Text.Blank
import Quizmark.Proofs.Text.Substitute

/-!
# What the cloze patterns match

A text either begins with an escaped opening marker, or with an opening marker, or with neither. The
lemmas say which pattern matches in which case and what it writes.

* `Marks`: a text begins with an escaped or a plain opening marker. Where it does not, both patterns
  pass.
* `blank?_eq_some`: a blank with an answer is read up to its closing braces, whatever follows.
* `of_escape?` and `of_blank?`: the other way round, what stands where a pattern matches.
-/

namespace Quizmark.Cloze

open Text

/-- The marker that opens a blank. -/
def opening : List Char := ['\x7b', '\x7b']

/-- The marker that closes a blank. -/
def closing : List Char := ['\x7d', '\x7d']

/-- A text begins with an opening marker, escaped or not. -/
def Marks (cs : List Char) : Prop := '\\' :: opening <+: cs ∨ opening <+: cs

theorem escape?_escaped (cs : List Char) :
    escape? ('\\' :: opening ++ cs) = some ⟨opening, 3⟩ := rfl

theorem marker?_escaped (cs : List Char) :
    marker? ('\\' :: opening ++ cs) = some ⟨opening, 3⟩ := rfl

/-- No escape begins where no opening stands, with or without a backslash. -/
theorem escape?_eq_none {cs : List Char} (h : ¬ Marks cs) : escape? cs = none := by
  unfold escape?
  split
  · exact absurd (Or.inl (by simp [opening])) h
  · rfl

theorem marker?_eq_none {cs : List Char} (h : ¬ Marks cs) : marker? cs = none := by
  have hblank : blank? cs = none := by
    unfold blank?
    split
    · exact absurd (Or.inr (by simp [opening])) h
    · rfl
  rw [marker?, escape?_eq_none h, hblank]
  rfl

/-- An answer ends at the first closing brace. -/
theorem blank?_eq_some {answer : List Char} (hne : answer ≠ []) (hbrace : '\x7d' ∉ answer)
    (cs : List Char) :
    blank? (opening ++ answer ++ closing ++ cs) =
      some ⟨['$', '\x7b'] ++ unescape answer ++ ['\x7d'], answer.length + 4⟩ := by
  have htake : (answer ++ (closing ++ cs)).takeWhile (· != '\x7d') = answer :=
    takeWhile_ne_append hbrace ('\x7d' :: cs)
  have hdrop : (answer ++ (closing ++ cs)).dropWhile (· != '\x7d') = closing ++ cs :=
    dropWhile_ne_append hbrace ('\x7d' :: cs)
  simp only [opening, List.cons_append, List.nil_append, List.append_assoc, blank?, htake, hdrop]
  cases answer with
  | nil => exact absurd rfl hne
  | cons c rest => rfl

theorem of_escape? {cs : List Char} {found : Match} (h : escape? cs = some found) :
    ∃ rest, cs = '\\' :: opening ++ rest ∧ found = ⟨opening, 3⟩ := by
  unfold escape? at h
  split at h
  · rename_i rest
    cases h
    exact ⟨rest, rfl, rfl⟩
  · cases h

/-- What a blank looks like, and what it becomes: its answer, at least one character and none of
them a closing brace, with the escapes in it resolved. -/
theorem of_blank? {cs : List Char} {found : Match} (h : blank? cs = some found) :
    ∃ answer rest, answer ≠ [] ∧ '\x7d' ∉ answer ∧ cs = opening ++ answer ++ closing ++ rest ∧
      found = ⟨['$', '\x7b'] ++ unescape answer ++ ['\x7d'], answer.length + 4⟩ := by
  unfold blank? at h
  split at h
  · rename_i body
    dsimp only at h
    split at h
    · rename_i first more rest hanswer hrest
      cases h
      -- The answer is what comes before the first closing brace.
      have hne : body.takeWhile (· != '\x7d') ≠ [] := by simp [hanswer]
      have hbrace : '\x7d' ∉ body.takeWhile (· != '\x7d') := by
        intro hmem
        simpa using List.all_eq_true.mp List.all_takeWhile _ hmem
      refine ⟨body.takeWhile (· != '\x7d'), rest, hne, hbrace, ?_, rfl⟩
      rw [List.append_assoc, List.append_assoc, closing, List.cons_append, List.cons_append,
        List.nil_append, ← hrest, List.takeWhile_append_dropWhile]
      rfl
    · cases h
  · cases h

end Quizmark.Cloze
