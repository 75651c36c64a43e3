import Quizmark.Text.Substitute

/-!
# One step of a substitution

`substitute` reads a text from the front. These equations say what it does there, so that the
count of characters to skip is never seen again.

* `substitute_of_none`: where the pattern does not match, the first character stays.
* `substitute_of_some`: where it matches, its output is written and the match is dropped;
  `substitute_append` says so of a match that is written out.
* `occursIn_iff`: a text occurs in another exactly if it is a part of it.
-/

namespace Quizmark.Text

variable {pattern? : List Char → Option Match}

@[simp] theorem substitute_nil : substitute pattern? [] = [] := by
  simp [substitute, substituteFrom]

/-- Characters that a match has used up are skipped. -/
theorem substituteFrom_eq_drop (skip : Nat) (cs : List Char) :
    substituteFrom pattern? skip cs = substitute pattern? (cs.drop skip) := by
  induction skip generalizing cs with
  | zero => rfl
  | succ skip ih =>
    cases cs with
    | nil => simp [substitute, substituteFrom]
    | cons c cs => rw [substituteFrom, ih, List.drop_succ_cons]

theorem substitute_of_none {c : Char} {cs : List Char} (h : pattern? (c :: cs) = none) :
    substitute pattern? (c :: cs) = c :: substitute pattern? cs := by
  rw [substitute, substituteFrom, h]
  rfl

/-- A match is replaced, and the search goes on behind it. -/
theorem substitute_of_some {c : Char} {cs : List Char} {found : Match}
    (h : pattern? (c :: cs) = some found) (hpos : 0 < found.length) :
    substitute pattern? (c :: cs) =
      found.output ++ substitute pattern? ((c :: cs).drop found.length) := by
  obtain ⟨k, hk⟩ : ∃ k, found.length = k + 1 := ⟨_, (Nat.succ_pred_eq_of_pos hpos).symm⟩
  rw [substitute, substituteFrom, h]
  simp only [hk, Nat.add_sub_cancel, List.drop_succ_cons, substituteFrom_eq_drop]

theorem substitute_append {source output rest : List Char} (hne : source ≠ [])
    (h : pattern? (source ++ rest) = some ⟨output, source.length⟩) :
    substitute pattern? (source ++ rest) = output ++ substitute pattern? rest := by
  obtain ⟨c, cs, rfl⟩ := List.exists_cons_of_ne_nil hne
  rw [List.cons_append] at h ⊢
  rw [substitute_of_some h (by simp), ← List.cons_append, List.drop_left]

/-- A part occurs in a text if it stands somewhere in it as a whole. -/
theorem occursIn_iff {part cs : List Char} : occursIn part cs = true ↔ part <:+: cs := by
  induction cs with
  | nil => simp [occursIn, List.isEmpty_iff]
  | cons c cs ih => simp [occursIn, List.infix_cons_iff, ih, List.isPrefixOf_iff_prefix]

end Quizmark.Text
