import Quizmark.Text.Blank

/-!
# Lines

A text is cut into pieces as lists are cut everywhere, so the laws of `List.splitOn` hold of it.

* `splitAt_eq_splitOn`: the pieces of a text.
* `isInfix_iff_mem_splitAt`: the pieces that stand between two separators.
* `lines_append`, `lines_intercalate`: the lines of a text that is put together from others.
* `isInfix_of_mem_lines`, `feed_notMem_of_mem_lines`: a line is a part of its text without a line
  feed.
-/

namespace Quizmark.Text

/-- Splitting at a character, as the library has it. -/
theorem splitAt_eq_splitOn (sep : Char) (cs : List Char) : splitAt sep cs = cs.splitOn sep := by
  induction cs with
  | nil => rfl
  | cons c cs ih =>
    rw [splitAt, List.splitOn_cons_eq_if_modifyHead, ih]
    by_cases hc : c = sep
    · rw [if_pos hc, if_pos (beq_iff_eq.mpr hc)]
    · rw [if_neg hc, if_neg (mt beq_iff_eq.mp hc)]
      cases hpieces : cs.splitOn sep with
      | nil => exact absurd hpieces (List.splitOn_ne_nil sep cs)
      | cons piece pieces => rfl

theorem splitAt_append (sep : Char) (xs ys : List Char) :
    splitAt sep (xs ++ sep :: ys) = splitAt sep xs ++ splitAt sep ys := by
  simp only [splitAt_eq_splitOn, List.splitOn_append_cons_self]

/-! ## Pieces between separators -/

theorem mem_dropLast_iff {α : Type} {a : α} {l : List α} :
    a ∈ l.dropLast ↔ ∃ front back, back ≠ [] ∧ l = front ++ a :: back := by
  constructor
  · intro h
    obtain ⟨front, back, hsplit⟩ := List.mem_iff_append.mp h
    have hne : l ≠ [] := by
      rintro rfl
      cases h
    refine ⟨front, back ++ [l.getLast hne], by simp, ?_⟩
    have hlast := List.dropLast_concat_getLast hne
    rw [hsplit] at hlast
    simpa using hlast.symm
  · rintro ⟨front, back, hne, rfl⟩
    rw [List.dropLast_append_cons, List.dropLast_cons_of_ne_nil hne]
    simp

theorem intercalate_append (sep : List Char) {xs ys : List (List Char)} (hx : xs ≠ [])
    (hy : ys ≠ []) :
    sep.intercalate (xs ++ ys) = sep.intercalate xs ++ sep ++ sep.intercalate ys := by
  induction xs with
  | nil => exact absurd rfl hx
  | cons x xs ih =>
    by_cases hxs : xs = []
    · rw [hxs, List.singleton_append, List.intercalate_cons_of_ne_nil hy,
        List.intercalate_singleton]
    · have hne : xs ++ ys ≠ [] := List.append_ne_nil_of_left_ne_nil hxs ys
      rw [List.cons_append, List.intercalate_cons_of_ne_nil hne, ih hxs,
        List.intercalate_cons_of_ne_nil hxs]
      simp only [List.append_assoc]

/-- A text stands between two separators exactly if it is a piece, and not the last one. With a
separator put in front of the whole text, the first piece is no exception. -/
theorem isInfix_iff_mem_splitAt {sep : Char} {piece cs : List Char} (h : sep ∉ piece) :
    sep :: piece ++ [sep] <:+: sep :: cs ↔ piece ∈ (splitAt sep cs).dropLast := by
  rw [mem_dropLast_iff, splitAt_eq_splitOn]
  constructor
  · rintro ⟨front, back, hcs⟩
    -- Both sides are split at the separators, so the piece is one of the parts.
    have hpieces : front.splitOn sep ++ piece :: back.splitOn sep = [] :: cs.splitOn sep := by
      have hpiece : (piece ++ sep :: back).splitOn sep = piece :: back.splitOn sep := by
        rw [List.splitOn_append_cons_self, List.splitOn_eq_singleton h, List.singleton_append]
      have hfirst : (sep :: cs).splitOn sep = [] :: cs.splitOn sep :=
        List.splitOn_append_cons_self [] cs
      rw [← hfirst, ← hcs, ← hpiece, ← List.splitOn_append_cons_self]
      simp
    obtain ⟨first, rest, hfront⟩ := List.exists_cons_of_ne_nil (List.splitOn_ne_nil sep front)
    rw [hfront, List.cons_append, List.cons.injEq] at hpieces
    exact ⟨rest, back.splitOn sep, List.splitOn_ne_nil sep back, hpieces.2.symm⟩
  · rintro ⟨front, back, hback, hpieces⟩
    have hfirst : sep :: cs = [sep].intercalate (([] :: front) ++ piece :: back) := by
      rw [List.cons_append, ← hpieces,
        List.intercalate_cons_of_ne_nil (List.splitOn_ne_nil sep cs), List.intercalate_splitOn]
      rfl
    refine ⟨[sep].intercalate ([] :: front), [sep].intercalate back, ?_⟩
    rw [hfirst, intercalate_append [sep] (List.cons_ne_nil [] front) (List.cons_ne_nil piece back),
      List.intercalate_cons_of_ne_nil hback]
    simp only [List.append_assoc, List.cons_append, List.nil_append]

/-! ## Lines -/

/-- A line feed ends one line and begins another. -/
theorem lines_append (xs ys : List Char) : lines (xs ++ '\n' :: ys) = lines xs ++ lines ys :=
  splitAt_append '\n' xs ys

theorem lines_intercalate {pieces : List (List Char)} (h : ∀ piece ∈ pieces, '\n' ∉ piece)
    (hne : pieces ≠ []) : lines (['\n'].intercalate pieces) = pieces := by
  rw [lines, splitAt_eq_splitOn, List.splitOn_intercalate '\n' h hne]

/-- A text without a line feed is a line. -/
theorem lines_of_notMem {cs : List Char} (h : '\n' ∉ cs) : lines cs = [cs] := by
  have hpieces := lines_intercalate (List.forall_mem_singleton.mpr h) (List.cons_ne_nil cs [])
  rwa [List.intercalate_singleton] at hpieces

theorem isInfix_intercalate (sep : List Char) {piece : List Char} {pieces : List (List Char)}
    (h : piece ∈ pieces) : piece <:+: sep.intercalate pieces := by
  induction pieces with
  | nil => cases h
  | cons first rest ih =>
    rcases List.mem_cons.mp h with rfl | h
    · cases rest with
      | nil => simp only [List.intercalate_singleton, List.infix_refl]
      | cons next rest =>
        rw [List.intercalate_cons_cons, List.append_assoc]
        exact (List.prefix_append ..).isInfix
    · rw [List.intercalate_cons_of_ne_nil (List.ne_nil_of_mem h)]
      exact (ih h).trans (List.suffix_append ..).isInfix

theorem isInfix_of_mem_lines {cs line : List Char} (h : line ∈ lines cs) : line <:+: cs := by
  rw [lines, splitAt_eq_splitOn] at h
  have hinfix := isInfix_intercalate ['\n'] h
  rwa [List.intercalate_splitOn] at hinfix

theorem feed_notMem_of_mem_lines {cs line : List Char} (h : line ∈ lines cs) : '\n' ∉ line := by
  unfold lines at h
  induction cs generalizing line with
  | nil =>
    obtain rfl := List.mem_singleton.mp h
    exact List.not_mem_nil
  | cons c cs ih =>
    rw [splitAt] at h
    split at h
    · rcases List.mem_cons.mp h with rfl | h
      · exact List.not_mem_nil
      · exact ih h
    · next hc =>
      cases hpieces : splitAt '\n' cs with
      | nil =>
        rw [hpieces] at h
        obtain rfl := List.mem_singleton.mp h
        exact fun hfeed => hc (List.mem_singleton.mp hfeed).symm
      | cons piece pieces =>
        rw [hpieces] at h ih
        rcases List.mem_cons.mp h with rfl | h
        · rw [List.mem_cons, not_or]
          exact ⟨Ne.symm hc, ih List.mem_cons_self⟩
        · exact ih (List.mem_cons_of_mem piece h)

end Quizmark.Text
