import Quizmark.Proofs.DocPath
import Quizmark.Proofs.Text.Blank
import Quizmark.Proofs.Text.Lines
import Quizmark.Proofs.Text.Substitute

/-!
# Directory gates

A directory gate looks for the name of its directory between two slashes of a path. If the name is
a single part of a path, this is the question whether it is one of the directories on the path
(`admits_below`).

Separators are a matter of taste in a path, but not in the name of a directory: a backslash inside
the name is never taken for a slash. `answer_separators` says what follows.

* `DocPath.directories`: the directories on a path.
* `bareName`: the name of a directory without the separators around it.
* `answer`: what the gate of a directory says of a path.
-/

namespace Quizmark

/-- The directories on a path: its parts between slashes but the last, which is the file. -/
def DocPath.directories (path : String) : List (List Char) :=
  (Text.splitAt '/' (normalChars path.toList)).dropLast

namespace Gate

/-- The name of a directory without the separators around it. -/
def bareName (name : String) : List Char := Text.trimChars ['/', '\\'] name.toList

variable {name : String}

/-- Nothing is left of a name of separators alone. -/
theorem bareName_eq_nil_iff : bareName name = [] ↔ ∀ c ∈ name.toList, c = '/' ∨ c = '\\' := by
  rw [← List.isEmpty_iff, bareName, Text.isEmpty_trimChars]
  simp

theorem ofDirectory_ok (h : bareName name ≠ []) :
    ofDirectory name = .ok (.directory (bareName name)) := by
  unfold ofDirectory
  exact if_neg (mt List.isEmpty_iff.mp h)

theorem ofDirectory_error (h : bareName name = []) :
    ofDirectory name = .error .emptyDirectory := by
  unfold ofDirectory
  exact if_pos (List.isEmpty_iff.mpr h)

/-- The gate looks for the name between two separators, with one put in front of the path, and for
the ending of Markdown files. -/
theorem admits_directory_iff {bare : List Char} {path : String} :
    (directory bare).admits path = true ↔
      '/' :: bare ++ ['/'] <:+: '/' :: DocPath.normalChars path.toList ∧
        ".md".toList <:+ DocPath.normalChars path.toList := by
  simp only [admits, Bool.and_eq_true, Text.occursIn_iff, List.isSuffixOf_iff_suffix]

/-! ## Whole parts of a path -/

/-- **A directory gate matches whole parts of a path.** If the name of the directory holds no
slash inside, the gate admits the Markdown files with that very directory on their path. -/
theorem admits_below (hne : bareName name ≠ []) (hslash : '/' ∉ bareName name) :
    ∃ gate, ofDirectory name = .ok gate ∧ ∀ path, gate.admits path = true ↔
      ".md".toList <:+ (DocPath.normalize path).toList ∧
        bareName name ∈ DocPath.directories path := by
  refine ⟨_, ofDirectory_ok hne, fun path => ?_⟩
  rw [admits_directory_iff, Text.isInfix_iff_mem_splitAt hslash, DocPath.toList_normalize, and_comm]
  rfl

/-- Separators around the name and backslashes in the path do not matter, a longer name does. -/
theorem admits_below_questions :
    (bareName "\\questions/" ≠ [] ∧ '/' ∉ bareName "\\questions/") ∧
      ∃ gate, ofDirectory "\\questions/" = .ok gate ∧
        gate.admits "C:\\exams\\questions\\q1.md" = true ∧
        gate.admits "/content/exams/questions-old/q1.md" = false := by
  have hname : bareName "\\questions/" ≠ [] ∧ '/' ∉ bareName "\\questions/" := by decide
  obtain ⟨gate, hgate, hadmits⟩ := admits_below hname.1 hname.2
  exact ⟨hname, gate, hgate, (hadmits _).mpr (by decide),
    Bool.eq_false_iff.mpr (mt (hadmits _).mp (by decide))⟩

/-! ## Separators -/

/-- What the gate of a directory says of a path, or why there is no such gate. -/
def answer (name path : String) : Except Error Bool := (ofDirectory name).map (·.admits path)

theorem answer_ok (h : bareName name ≠ []) (path : String) :
    answer name path = .ok ((directory (bareName name)).admits path) := by
  rw [answer, ofDirectory_ok h]
  rfl

theorem answer_error (h : bareName name = []) (path : String) :
    answer name path = .error .emptyDirectory := by
  rw [answer, ofDirectory_error h]
  rfl

theorem answer_normalize (name path : String) :
    answer name (DocPath.normalize path) = answer name path := by
  simp only [answer, admits_normalize]

/-- Both separators are dropped around a name, so it may be brought to its normal form before or
after. -/
theorem bareName_normalize (name : String) :
    bareName (DocPath.normalize name) = DocPath.normalChars (bareName name) := by
  have hset : ∀ c, ['/', '\\'].contains (DocPath.normalChar c) = ['/', '\\'].contains c := by
    intro c
    unfold DocPath.normalChar
    split
    · next hc =>
      subst hc
      decide
    · rfl
  rw [bareName, DocPath.toList_normalize, DocPath.normalChars, Text.trimChars_map hset]
  rfl

/-- A name with a backslash inside is part of no path in normal form. -/
theorem not_admits_of_backslash {bare : List Char} (h : '\\' ∈ bare) (path : String) :
    (directory bare).admits path = false := by
  rw [Bool.eq_false_iff, Ne, admits_directory_iff]
  rintro ⟨hpart, -⟩
  have hmem : '\\' ∈ '/' :: DocPath.normalChars path.toList := hpart.subset (by simp [h])
  rcases List.mem_cons.mp hmem with hslash | hpath
  · cases hslash
  · exact DocPath.backslash_notMem_normalChars _ hpath

/-- A name with a backslash inside admits no path, because the path has none when they are compared.
-/
theorem answer_of_backslash (h : '\\' ∈ bareName name) (path : String) :
    answer name path = .ok false := by
  rw [answer_ok (List.ne_nil_of_mem h), not_admits_of_backslash h]

/-- A name without a backslash inside can be normalised first. -/
theorem answer_normalize_name (h : '\\' ∉ bareName name) (path : String) :
    answer (DocPath.normalize name) path = answer name path := by
  have hbare : bareName (DocPath.normalize name) = bareName name := by
    rw [bareName_normalize, DocPath.normalChars_eq_self h]
  by_cases hne : bareName name = []
  · rw [answer_error hne, answer_error (hbare.trans hne)]
  · rw [answer_ok hne, answer_ok (by rwa [hbare]), hbare]

/-- The normal form of a name admits some path, unless the name has nothing but separators. -/
theorem exists_answer_normalize_name (h : bareName name ≠ []) :
    ∃ path, answer (DocPath.normalize name) path = .ok true := by
  have hne : bareName (DocPath.normalize name) ≠ [] := by
    rw [bareName_normalize]
    simpa [DocPath.normalChars] using h
  have hpath : DocPath.normalChars (bareName name ++ "/index.md".toList) =
      DocPath.normalChars (bareName name) ++ "/index.md".toList := by
    rw [DocPath.normalChars, List.map_append]
    rfl
  refine ⟨String.ofList (bareName name ++ "/index.md".toList), ?_⟩
  rw [answer_ok hne, Except.ok.injEq, admits_directory_iff, String.toList_ofList, hpath,
    bareName_normalize]
  refine ⟨⟨[], "index.md".toList, by simp⟩, ?_⟩
  exact (by decide : ".md".toList <:+ "/index.md".toList).trans (List.suffix_append ..)

/-- **Separators in a path and in the name of a directory.** Which separators a path is written with
never matters. In the name they do not matter as long as it keeps no backslash when the separators
around it are dropped; a gate whose name keeps one admits no path at all, and the gate of the same
name with slashes does admit some. -/
theorem answer_separators (name : String) :
    (∀ path, answer name (DocPath.normalize path) = answer name path) ∧
      (∀ path, answer name path =
        if '\\' ∈ bareName name then .ok false else answer (DocPath.normalize name) path) ∧
      ((∀ path, answer (DocPath.normalize name) path = answer name path) ↔
        '\\' ∉ bareName name) := by
  refine ⟨answer_normalize name, fun path => ?_, fun hsame hback => ?_, answer_normalize_name⟩
  · split
    · next hback => exact answer_of_backslash hback path
    · next hback => exact (answer_normalize_name hback path).symm
  · obtain ⟨path, hpath⟩ := exists_answer_normalize_name (List.ne_nil_of_mem hback)
    rw [hsame, answer_of_backslash hback] at hpath
    cases hpath

/-- The separator inside the name of a directory decides what is found below it. -/
theorem inner_backslash_finds_nothing :
    answer "exams\\questions" "exams/questions/q1.md" = .ok false ∧
      answer (DocPath.normalize "exams\\questions") "exams/questions/q1.md" = .ok true := by
  decide

end Gate

end Quizmark
