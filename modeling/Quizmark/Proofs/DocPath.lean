import Quizmark.Settings

/-!
# Paths in normal form

A path is brought to its normal form by every pass that looks at it, so a second time changes
nothing: neither the path (`normalize_normalize`), nor what the gate says of it
(`admits_normalize`), nor the ids that it gives (`idPrefix_normalize`). A normal form holds no
backslash (`backslash_notMem_normalChars`).
-/

namespace Quizmark

namespace DocPath

@[simp] theorem normalChar_normalChar (c : Char) : normalChar (normalChar c) = normalChar c := by
  unfold normalChar
  split
  · decide
  · rfl

@[simp] theorem normalChars_normalChars (cs : List Char) :
    normalChars (normalChars cs) = normalChars cs := by
  simp [normalChars, List.map_map, Function.comp_def]

theorem normalChars_eq_self {cs : List Char} (h : '\\' ∉ cs) : normalChars cs = cs := by
  have hmap : cs.map normalChar = cs.map id :=
    List.map_congr_left fun c hc => if_neg (ne_of_mem_of_not_mem hc h)
  rw [normalChars, hmap, List.map_id]

theorem backslash_notMem_normalChars (cs : List Char) : '\\' ∉ normalChars cs := by
  intro h
  obtain ⟨c, -, hc⟩ := List.mem_map.mp h
  unfold normalChar at hc
  split at hc
  · cases hc
  · next hne => exact hne hc

@[simp] theorem toList_normalize (path : String) :
    (normalize path).toList = normalChars path.toList := by
  simp [normalize]

@[simp] theorem normalize_normalize (path : String) :
    normalize (normalize path) = normalize path := by
  rw [normalize, toList_normalize, normalChars_normalChars, normalize]

@[simp] theorem idPrefix_normalize (path suffix : String) :
    idPrefix (normalize path) suffix = idPrefix path suffix := by
  simp [idPrefix]

end DocPath

/-- A gate cannot tell a path from its normal form. -/
@[simp] theorem Gate.admits_normalize (gate : Gate) (path : String) :
    gate.admits (DocPath.normalize path) = gate.admits path := by
  simp [admits]

@[simp] theorem QuestionOptions.admits_normalize (options : QuestionOptions) (path : String) :
    options.admits (DocPath.normalize path) = options.admits path := by
  simp [admits]

end Quizmark
