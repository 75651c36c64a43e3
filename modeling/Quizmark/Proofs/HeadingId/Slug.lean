import Quizmark.HeadingId

/-!
# What a slug does not see

A slug drops every character that is neither blank nor a letter, a number, a low line or a hyphen.
How many such characters stand in a row does not matter to it, nor which ones. That there are any
does matter, since they keep the blanks on their two sides apart.

* `Silent`: a character that a slug drops.
* `Alike`: two texts have silent characters in the same places, in runs that may differ.
* `slug_alike`: texts that are alike have one slug.
-/

namespace Quizmark.HeadingId

open Text

/-- A slug drops a character, and no blank becomes a hyphen for it. -/
def Silent (c : Char) : Prop := isBlank c = false ∧ isSlugChar c = false

/-- A run of one silent character or more. -/
structure SilentRun (marks : List Char) : Prop where
  ne_nil : marks ≠ []
  silent : ∀ c ∈ marks, Silent c

/-- Two texts are the same but for runs of silent characters, which stand in the same places. -/
inductive Alike : List Char → List Char → Prop where
  | nil : Alike [] []
  | keep {xs ys : List Char} (c : Char) : Alike xs ys → Alike (c :: xs) (c :: ys)
  | silent {marks marks' xs ys : List Char} : SilentRun marks → SilentRun marks' → Alike xs ys →
    Alike (marks ++ xs) (marks' ++ ys)

theorem SilentRun.reverse {marks : List Char} (h : SilentRun marks) : SilentRun marks.reverse where
  ne_nil := by simpa using h.ne_nil
  silent c hc := h.silent c (by simpa using hc)

/-- A run begins with a silent character. -/
theorem SilentRun.exists_cons {marks : List Char} (h : SilentRun marks) :
    ∃ mark rest, marks = mark :: rest ∧ Silent mark := by
  obtain ⟨mark, rest, rfl⟩ := List.exists_cons_of_ne_nil h.ne_nil
  exact ⟨mark, rest, rfl, h.silent mark (List.mem_cons_self ..)⟩

namespace Alike

variable {xs ys zs ws : List Char}

theorem refl (xs : List Char) : Alike xs xs := by
  induction xs with
  | nil => exact .nil
  | cons c xs ih => exact .keep c ih

/-- Runs of silent characters that make up whole texts. -/
theorem of_runs (hx : SilentRun xs) (hy : SilentRun ys) : Alike xs ys := by
  simpa using Alike.silent hx hy .nil

theorem append (h : Alike xs ys) (k : Alike zs ws) : Alike (xs ++ zs) (ys ++ ws) := by
  induction h with
  | nil => exact k
  | keep c _ ih => exact .keep c ih
  | silent hx hy _ ih =>
    rw [List.append_assoc, List.append_assoc]
    exact .silent hx hy ih

theorem reverse (h : Alike xs ys) : Alike xs.reverse ys.reverse := by
  induction h with
  | nil => exact .nil
  | keep c _ ih =>
    rw [List.reverse_cons, List.reverse_cons]
    exact ih.append (refl [c])
  | silent hx hy _ ih =>
    rw [List.reverse_append, List.reverse_append]
    exact ih.append (of_runs hx.reverse hy.reverse)

/-! ## Trimming -/

/-- Trimming keeps texts alike, as what is silent is not blank. -/
theorem trimLeft (h : Alike xs ys) : Alike (Text.trimLeft xs) (Text.trimLeft ys) := by
  induction h with
  | nil => exact .nil
  | keep c h ih =>
    simp only [Text.trimLeft, List.dropWhile_cons] at ih ⊢
    split
    · exact ih
    · exact .keep c h
  | silent hx hy h ih =>
    -- A silent character is not blank, so nothing is dropped.
    have hstop {marks : List Char} (hm : SilentRun marks) (rest : List Char) :
        Text.trimLeft (marks ++ rest) = marks ++ rest := by
      obtain ⟨mark, marks, rfl, hmark⟩ := hm.exists_cons
      simp [Text.trimLeft, hmark.1]
    rw [hstop hx, hstop hy]
    exact .silent hx hy h

theorem trim (h : Alike xs ys) : Alike (Text.trim xs) (Text.trim ys) := by
  unfold Text.trim trimRight
  exact h.trimLeft.reverse.trimLeft.reverse

end Alike

/-! ## Hyphens -/

/-- A blank becomes a hyphen if no other blank stands behind it. -/
theorem hyphenate_cons (c : Char) (cs : List Char) :
    hyphenate (c :: cs) =
      if isBlank c then if cs.head?.any isBlank then hyphenate cs else '-' :: hyphenate cs
      else c :: hyphenate cs := by
  cases cs <;> rfl

/-- The characters that a slug keeps of a trimmed title. -/
def kept (cs : List Char) : List Char := (hyphenate cs).filter isSlugChar

theorem kept_append_of_silent {marks : List Char} (h : ∀ c ∈ marks, Silent c) (cs : List Char) :
    kept (marks ++ cs) = kept cs := by
  induction marks with
  | nil => rfl
  | cons mark marks ih =>
    obtain ⟨hmark, hmarks⟩ := List.forall_mem_cons.mp h
    rw [← ih hmarks, List.cons_append, kept, hyphenate_cons, hmark.1]
    simp [kept, hmark.2]

theorem Alike.head_isBlank {xs ys : List Char} (h : Alike xs ys) :
    xs.head?.any isBlank = ys.head?.any isBlank := by
  cases h with
  | nil => rfl
  | keep c h => rfl
  | silent hx hy h =>
    obtain ⟨mark, marks, rfl, hmark⟩ := hx.exists_cons
    obtain ⟨mark', marks', rfl, hmark'⟩ := hy.exists_cons
    simp [hmark.1, hmark'.1]

theorem kept_alike {xs ys : List Char} (h : Alike xs ys) : kept xs = kept ys := by
  induction h with
  | nil => rfl
  | keep c h ih =>
    unfold kept at ih ⊢
    rw [hyphenate_cons, hyphenate_cons, h.head_isBlank]
    split
    · split
      · exact ih
      · simp [List.filter_cons, ih]
    · simp [List.filter_cons, ih]
  | silent hx hy h ih => rw [kept_append_of_silent hx.silent, kept_append_of_silent hy.silent, ih]

/-- Texts that are alike have the same slug. -/
theorem slug_alike {s s' : String} (h : Alike s.toList s'.toList) : slug s = slug s' := by
  have hkept : kept (trim s.toList) = kept (trim s'.toList) := kept_alike h.trim
  unfold slug
  unfold kept at hkept
  rw [hkept]

end Quizmark.HeadingId
