import Mathlib.Data.List.Induction
import Quizmark.Proofs.HeadingId.Slug
import Quizmark.Proofs.Text.Blank

/-!
# Slugs word by word

The words of a title are its longest parts without blanks. A slug is made of them alone.

* `Text.words`: the words of a text. A blank stands between two words (`words_append`), and blanks
  around a text do not matter (`words_trim`).
* `hyphenate_eq`: a title with hyphens for its blanks is its words with hyphens between them.
* `slug_words`: a slug is what is left of the words, with hyphens between them. A slug is one word,
  and its own slug.
-/

namespace Quizmark

/-! ## Words -/

namespace Text

/-- The words of a text: the pieces between its blanks that are not empty. -/
def words (cs : List Char) : List (List Char) := (cs.splitOnP isBlank).filter (!·.isEmpty)

variable {c : Char} {cs : List Char}

@[simp] theorem words_nil : words [] = [] := by simp [words]

/-- A blank ends one word and begins another. -/
theorem words_append (h : isBlank c = true) (xs ys : List Char) :
    words (xs ++ c :: ys) = words xs ++ words ys := by
  unfold words
  rw [List.splitOnP_append_cons xs ys h, List.filter_append]

theorem words_cons_of_blank (h : isBlank c = true) (cs : List Char) :
    words (c :: cs) = words cs := by
  simpa using words_append h [] cs

theorem words_eq_singleton (hne : cs ≠ []) (h : ∀ c ∈ cs, isBlank c = false) :
    words cs = [cs] := by
  unfold words
  rw [List.splitOnP_eq_singleton h]
  simp [hne]

/-- A character that is no blank begins a word, which ends where the next blank stands. -/
theorem words_cons (h : isBlank c = false) (cs : List Char) :
    words (c :: cs) =
      (c :: cs.takeWhile (!isBlank ·)) :: words (cs.dropWhile (!isBlank ·)) := by
  have hword : words (c :: cs.takeWhile (!isBlank ·)) = [c :: cs.takeWhile (!isBlank ·)] := by
    refine words_eq_singleton (List.cons_ne_nil c _) (List.forall_mem_cons.mpr ⟨h, fun d hd => ?_⟩)
    simpa using List.all_eq_true.mp List.all_takeWhile d hd
  have hsplit := List.takeWhile_append_dropWhile (p := (!isBlank ·)) (l := cs)
  cases hrest : cs.dropWhile (!isBlank ·) with
  | nil =>
    rw [hrest, List.append_nil] at hsplit
    rw [words_nil, ← hword, hsplit]
  | cons b rest =>
    have hb : isBlank b = true := by
      simpa [hrest] using List.head?_dropWhile_not (!isBlank ·) cs
    rw [hrest] at hsplit
    rw [words_cons_of_blank hb, ← List.singleton_append (l := words rest), ← hword,
      ← words_append hb, List.cons_append, hsplit]

/-- A text without words is all blank. -/
theorem words_eq_nil_iff : words cs = [] ↔ ∀ c ∈ cs, isBlank c = true := by
  induction cs with
  | nil => simp
  | cons c cs ih =>
    rw [List.forall_mem_cons, ← ih]
    cases hc : isBlank c with
    | true => simp [words_cons_of_blank hc]
    | false => simp [words_cons hc]

theorem words_trimLeft (cs : List Char) : words (trimLeft cs) = words cs := by
  unfold trimLeft
  induction cs with
  | nil => rfl
  | cons c cs ih =>
    rw [List.dropWhile_cons]
    split
    · next hc => rw [ih, words_cons_of_blank hc]
    · rfl

theorem words_trimRight (cs : List Char) : words (trimRight cs) = words cs := by
  unfold trimRight
  induction cs using List.reverseRecOn with
  | nil => rfl
  | append_singleton cs c ih =>
    rw [List.reverse_concat, List.dropWhile_cons]
    split
    · next hc => rw [ih, words_append hc, words_nil, List.append_nil]
    · rw [List.reverse_cons, List.reverse_reverse]

/-- Blanks around a text do not matter. -/
@[simp] theorem words_trim (cs : List Char) : words (trim cs) = words cs := by
  rw [trim, words_trimRight, words_trimLeft]

end Text

namespace HeadingId

open Text

/-! ## Hyphens between words -/

/-- Where the blanks of a text become hyphens, its words stand with hyphens between them, behind one
more hyphen if the text begins with a blank. -/
theorem hyphenate_eq {cs : List Char} (hlast : ∀ c ∈ cs.getLast?, isBlank c = false) :
    hyphenate cs =
      (if cs.head?.any isBlank then ['-'] else []) ++ ['-'].intercalate (words cs) := by
  induction cs with
  | nil => simp [hyphenate]
  | cons c cs ih =>
    have hlater : ∀ d ∈ cs.getLast?, isBlank d = false := fun d hd =>
      hlast d (List.mem_getLast?_cons hd)
    rw [hyphenate_cons, ih hlater]
    cases hc : isBlank c with
    | true =>
      rw [words_cons_of_blank hc]
      by_cases hd : cs.head?.any isBlank <;> simp [hc, hd]
    | false =>
      rw [words_cons hc]
      cases cs with
      | nil => simp [hc]
      | cons d ds =>
        cases hd : isBlank d with
        | true =>
          -- Another word follows, as the text does not end in a blank.
          have hne : words (d :: ds) ≠ [] := by
            intro hnil
            have hend := List.getLast?_eq_some_getLast (List.cons_ne_nil d ds)
            have hblank := words_eq_nil_iff.mp hnil _ (List.getLast_mem (List.cons_ne_nil d ds))
            rw [hlater _ hend] at hblank
            cases hblank
          simp [hc, hd, List.intercalate_cons_of_ne_nil hne]
        | false =>
          rw [words_cons hd]
          cases hrest : words (ds.dropWhile (!isBlank ·)) <;> simp [hc, hd, hrest]

/-- Blanks between words become hyphens, one for each run of blanks. -/
theorem hyphenate_trim (cs : List Char) :
    hyphenate (trim cs) = ['-'].intercalate (words cs) := by
  have hfirst : (trim cs).head?.any isBlank = false := by
    cases hhead : (trim cs).head? with
    | none => rfl
    | some c => exact head?_trim c hhead
  rw [hyphenate_eq getLast?_trim, hfirst, words_trim]
  rfl

theorem filter_intercalate {p : Char → Bool} {sep : Char} (h : p sep = true)
    (pieces : List (List Char)) :
    ([sep].intercalate pieces).filter p = [sep].intercalate (pieces.map (·.filter p)) := by
  induction pieces with
  | nil => rfl
  | cons piece pieces ih =>
    cases pieces with
    | nil => simp
    | cons next pieces =>
      rw [List.map_cons] at ih ⊢
      rw [List.intercalate_cons_cons, List.map_cons, List.intercalate_cons_cons, List.filter_append,
        List.filter_append, ih]
      simp [h]

/-! ## Slugs -/

/-- What a slug keeps of the words of a title, with hyphens between them. -/
def keptWords (title : String) : List Char :=
  ['-'].intercalate ((words title.toList).map (·.filter isSlugChar))

/-- A slug is the kept words with hyphens between them, or the fallback if nothing is kept. -/
theorem slug_eq (title : String) :
    slug title =
      if keptWords title = [] then fallbackSlug else String.ofList (keptWords title) := by
  have hkept : (hyphenate (trim title.toList)).filter isSlugChar = keptWords title := by
    rw [hyphenate_trim, filter_intercalate (by decide), keptWords]
  unfold slug
  simp only [hkept, List.isEmpty_iff]

/-- A word of which nothing is left keeps its hyphens. -/
example : slug " Tides & Ebb" = "Tides--Ebb" := by decide

theorem isBlank_of_isSlugChar {c : Char} (h : isSlugChar c = true) : isBlank c = false := by
  simp only [isSlugChar, Bool.or_eq_true, beq_iff_eq, or_assoc] at h
  rcases h with rfl | rfl | halnum
  · decide
  · decide
  · exact isBlank_of_isWordChar (by simp [isWordChar, halnum])

theorem isSlugChar_of_mem_keptWords {title : String} {c : Char} (h : c ∈ keptWords title) :
    isSlugChar c = true := by
  rw [keptWords, ← filter_intercalate (by decide)] at h
  exact List.of_mem_filter h

theorem slug_ne_empty (title : String) : slug title ≠ "" := by
  rw [slug_eq]
  split
  · decide
  · next hne => simpa [← String.toList_inj] using hne

theorem isSlugChar_fallbackSlug : fallbackSlug.toList.all isSlugChar = true := rfl

theorem isSlugChar_of_mem_slug {title : String} {c : Char} (h : c ∈ (slug title).toList) :
    isSlugChar c = true := by
  rw [slug_eq] at h
  split at h
  · exact List.all_eq_true.mp isSlugChar_fallbackSlug c h
  · exact isSlugChar_of_mem_keptWords (by simpa using h)

/-- A title of such characters alone is its own slug. -/
theorem slug_of_slugChars {title : String} (hne : title ≠ "")
    (h : ∀ c ∈ title.toList, isSlugChar c = true) : slug title = title := by
  have hwords : words title.toList = [title.toList] :=
    words_eq_singleton (by simpa using hne) fun c hc => isBlank_of_isSlugChar (h c hc)
  have hkept : keptWords title = title.toList := by
    rw [keptWords, hwords, List.map_singleton, List.intercalate_singleton,
      List.filter_eq_self.mpr h]
  rw [slug_eq, hkept, if_neg (by simpa using hne), String.ofList_toList]

/-- **A slug is made of the words of a title.** It is what is left of them with hyphens between
them, or the fallback where this is nothing. So it is never empty, it holds no blank and no
character that a slug does not keep, the blanks of a title only tell its words apart, and a slug is
its own slug. -/
theorem slug_words (title : String) :
    (slug title =
      if keptWords title = [] then "section" else String.ofList (keptWords title)) ∧
      slug title ≠ "" ∧
      (∀ c ∈ (slug title).toList, isSlugChar c = true ∧ isBlank c = false) ∧
      (∀ other : String, words other.toList = words title.toList → slug other = slug title) ∧
      slug (slug title) = slug title := by
  refine ⟨slug_eq title, slug_ne_empty title, fun c hc => ?_, fun other hwords => ?_, ?_⟩
  · have hkeep := isSlugChar_of_mem_slug hc
    exact ⟨hkeep, isBlank_of_isSlugChar hkeep⟩
  · rw [slug_eq, slug_eq, keptWords, hwords, keptWords]
  · exact slug_of_slugChars (slug_ne_empty title) fun c => isSlugChar_of_mem_slug

end HeadingId

end Quizmark
