import Mathlib.Data.List.DropRight
import Quizmark.Proofs.DocPath

/-!
# Prefixes of ids and file names

The gate of a suffix looks at the end of a whole path, the prefix of the ids at the file name alone.
If the suffix holds no slash, they look at the same: the file name of an admitted path is a stem
with the suffix behind it (`exists_stem`), and the prefix is that stem.

* `baseName`: the file name of a path as it is written, with separators of both kinds.
* `fileName_normalChars`: it is the file name of the normal form.
* `idPrefix_separates`: a prefix gives the file name back, but for the fallback, and so tells
  documents apart by their file names.
-/

namespace Quizmark.DocPath

/-! ## File names -/

/-- A character that separates the parts of a path. -/
def isSeparator (c : Char) : Bool := c == '/' || c == '\\'

/-- The part of a path behind its last separator. -/
def baseName (path : String) : String :=
  String.ofList (path.toList.rtakeWhile (!isSeparator ·))

theorem normalChar_ne_slash (c : Char) : (normalChar c != '/') = !isSeparator c := by
  unfold normalChar isSeparator
  by_cases hc : c = '\\' <;> simp [hc, bne]

/-- A path and its normal form have one file name. -/
theorem fileName_normalChars (cs : List Char) :
    fileName (normalChars cs) = cs.rtakeWhile (!isSeparator ·) := by
  have hpart : fileName (normalChars cs) = normalChars (cs.rtakeWhile (!isSeparator ·)) := by
    have hsame : (· != '/') ∘ normalChar = (!isSeparator ·) := funext normalChar_ne_slash
    simp only [fileName, normalChars, List.rtakeWhile, ← List.map_reverse, List.takeWhile_map,
      hsame]
  rw [hpart]
  apply normalChars_eq_self
  intro hmem
  exact absurd (List.mem_rtakeWhile_imp hmem) (by decide)

/-- An ending without a slash is a part of the file name. -/
theorem fileName_append {ending : List Char} (h : '/' ∉ ending) (front : List Char) :
    fileName (front ++ ending) = fileName front ++ ending := by
  have hend : ∀ c ∈ ending.reverse, (c != '/') = true := fun c hc =>
    bne_iff_ne.mpr (ne_of_mem_of_not_mem (List.mem_reverse.mp hc) h)
  unfold fileName
  rw [List.reverse_append, List.takeWhile_append_of_pos hend, List.reverse_append,
    List.reverse_reverse]

theorem dropEnding?_append {ending : List Char} (hne : ending ≠ []) (front : List Char) :
    dropEnding? ending (front ++ ending) = some front := by
  unfold dropEnding?
  rw [if_neg (by simpa using hne), if_pos (by simp)]
  simp

/-! ## Stems -/

variable {path suffix : String}

theorem admits_suffix_iff :
    (Gate.suffix suffix.toList).admits path = true ↔
      suffix.toList <:+ normalChars path.toList := by
  unfold Gate.admits
  exact List.isSuffixOf_iff_suffix

/-- What a suffix gate admits has a file name that ends in the suffix. What stands before it is the
prefix of the ids. -/
theorem exists_stem (hne : suffix ≠ "") (hslash : '/' ∉ suffix.toList)
    (h : (Gate.suffix suffix.toList).admits path = true) :
    ∃ stem, baseName path = stem ++ suffix ∧
      idPrefix path suffix = if stem = "" then "question" else stem := by
  obtain ⟨front, hfront⟩ := admits_suffix_iff.mp h
  have hbase : fileName (normalChars path.toList) = fileName front ++ suffix.toList := by
    rw [← hfront, fileName_append hslash]
  have hdrop : dropEnding? suffix.toList (fileName (normalChars path.toList)) =
      some (fileName front) := by
    rw [hbase]
    exact dropEnding?_append (by simpa using hne) (fileName front)
  refine ⟨String.ofList (fileName front), ?_, ?_⟩
  · rw [baseName, ← fileName_normalChars, hbase, ← String.toList_inj]
    simp
  · unfold idPrefix
    simp only [hdrop, Option.some_or, Option.getD_some, List.isEmpty_iff]
    simp [fallbackPrefix, ← String.toList_inj]

theorem isSeparator_of_mem_baseName {c : Char} (h : c ∈ (baseName path).toList) :
    isSeparator c = false := by
  rw [baseName, String.toList_ofList] at h
  simpa using List.mem_rtakeWhile_imp h

/-- A stem or its fallback comes from two file names in one case only. -/
theorem stem_or_fallback_inj {stem stem' suffix : String} :
    ((if stem = "" then "question" else stem) = if stem' = "" then "question" else stem') ↔
      stem ++ suffix = stem' ++ suffix ∨
        (stem ++ suffix = suffix ∧ stem' ++ suffix = "question" ++ suffix) ∨
        (stem' ++ suffix = suffix ∧ stem ++ suffix = "question" ++ suffix) := by
  rw [String.append_left_inj, String.append_left_inj, String.append_left_inj,
    String.append_eq_right_iff, String.append_eq_right_iff]
  by_cases hs : stem = "" <;> by_cases ht : stem' = "" <;> grind

/-- **A gate and the prefixes of ids see one file name.** A suffix that is not empty and holds no
slash makes a gate. For each path that it admits, the prefix of the ids is not empty and holds no
separator, and with the suffix behind it is the file name again, but for a file name that is the
suffix alone. So two documents have one prefix exactly if they have one file name, or one of them
has no stem and the other the fallback as its stem. -/
theorem idPrefix_separates (hne : suffix ≠ "") (hslash : '/' ∉ suffix.toList) :
    ∃ gate, Gate.ofSuffix suffix = .ok gate ∧ ∀ p, gate.admits p = true →
      idPrefix p suffix ≠ "" ∧
      '/' ∉ (idPrefix p suffix).toList ∧ '\\' ∉ (idPrefix p suffix).toList ∧
      (baseName p ≠ suffix → idPrefix p suffix ++ suffix = baseName p) ∧
      (baseName p = suffix → idPrefix p suffix = "question") ∧
      ∀ q, gate.admits q = true →
        (idPrefix p suffix = idPrefix q suffix ↔
          baseName p = baseName q ∨
            (baseName p = suffix ∧ baseName q = "question" ++ suffix) ∨
            (baseName q = suffix ∧ baseName p = "question" ++ suffix)) := by
  refine ⟨.suffix suffix.toList, if_neg (by simpa using hne), fun p hp => ?_⟩
  obtain ⟨stem, hbase, hpre⟩ := exists_stem hne hslash hp
  -- The prefix is a part of the file name or the fallback, and neither has a separator.
  have hclean : ∀ c ∈ (idPrefix p suffix).toList, isSeparator c = false := by
    rw [hpre]
    split
    · simp [isSeparator]
    · intro c hc
      have hmem : c ∈ (baseName p).toList := by
        rw [hbase, String.toList_append]
        exact List.mem_append_left _ hc
      exact isSeparator_of_mem_baseName hmem
  refine ⟨?_, fun h => absurd (hclean _ h) (by decide), fun h => absurd (hclean _ h) (by decide),
    fun hstem => ?_, fun hstem => ?_, fun q hq => ?_⟩
  · rw [hpre]
    split
    · decide
    · next hstem => exact hstem
  · have hstem' : stem ≠ "" := by
      rintro rfl
      exact hstem (by rw [hbase, String.empty_append])
    rw [hpre, if_neg hstem', hbase]
  · rw [hbase, String.append_eq_right_iff] at hstem
    rw [hpre, if_pos hstem]
  · obtain ⟨stem', hbase', hpre'⟩ := exists_stem hne hslash hq
    rw [hpre, hpre', hbase, hbase', stem_or_fallback_inj]

/-- A file that is called like the suffix alone takes the prefix of another one. -/
theorem idPrefix_separates_question :
    (".md" ≠ "" ∧ '/' ∉ ".md".toList) ∧
      ∃ gate, Gate.ofSuffix ".md" = .ok gate ∧ gate.admits "exams\\.md" = true ∧
        gate.admits "notes/question.md" = true ∧ gate.admits "notes\\tides.md.md" = true ∧
        idPrefix "exams\\.md" ".md" = idPrefix "notes/question.md" ".md" ∧
        idPrefix "notes\\tides.md.md" ".md" ++ ".md" = "tides.md.md" := by
  have hsuffix : ".md" ≠ "" ∧ '/' ∉ ".md".toList := by decide
  obtain ⟨gate, hgate, hpre⟩ := idPrefix_separates hsuffix.1 hsuffix.2
  obtain rfl : Gate.suffix ".md".toList = gate := Except.ok.inj hgate
  have hadmits : (Gate.suffix ".md".toList).admits "exams\\.md" = true ∧
      (Gate.suffix ".md".toList).admits "notes/question.md" = true ∧
      (Gate.suffix ".md".toList).admits "notes\\tides.md.md" = true := by decide
  obtain ⟨-, -, -, -, -, hsame⟩ := hpre _ hadmits.1
  obtain ⟨-, -, -, hback, -, -⟩ := hpre _ hadmits.2.2
  exact ⟨hsuffix, _, hgate, hadmits.1, hadmits.2.1, hadmits.2.2,
    (hsame _ hadmits.2.1).mpr (.inr (.inl (by decide))), (hback (by decide)).trans (by decide)⟩

end Quizmark.DocPath
