import Mathlib.Data.List.Basic
import Quizmark.Text.Digit
import Quizmark.Text.Letter

/-!
# Blanks

* `isDigit_eq_false_of_isBlank`, `isBlank_of_isWordChar`: no digit and no other character of a word
  is blank. A letter of ASCII is such a character (`isWordChar_of_isAlpha`).
* `takeWhile_append_stop`, `dropWhile_append_stop`: a text is cut where the characters of a class
  end, and `takeWhile_ne_append`, `dropWhile_ne_append`: where a character first stands.
* `isEmpty_trimmed`: a text has nothing left when it is trimmed exactly if it is all blank.
* `trim_eq_self`: a text without blanks at its ends stays as it is.
* `trim_isInfix`, `head?_trim`, `getLast?_trim`: a trimmed text is a part of the text, without a
  blank at its ends.
* `trimChars_eq_self_iff`: the texts that lose nothing when the characters of a set are dropped.
-/

namespace Quizmark.Text

theorem isDigit_eq_false_of_isBlank {c : Char} (h : isBlank c = true) : isDigit c = false := by
  simp only [isBlank, Bool.or_eq_true, Bool.and_eq_true, decide_eq_true_eq, beq_iff_eq] at h
  rw [isDigit, Bool.and_eq_false_iff, decide_eq_false_iff_not, decide_eq_false_iff_not,
    Char.le_def, Char.le_def, UInt32.le_iff_toNat_le, UInt32.le_iff_toNat_le]
  change ¬ 48 ≤ c.toNat ∨ ¬ c.toNat ≤ 57
  omega

/-- The code points of the blanks. -/
def blankPoints : List Nat :=
  [9, 10, 11, 12, 13, 28, 29, 30, 31, 32, 0x85, 0xA0, 0x1680, 0x2000, 0x2001, 0x2002, 0x2003,
    0x2004, 0x2005, 0x2006, 0x2007, 0x2008, 0x2009, 0x200A, 0x2028, 0x2029, 0x202F, 0x205F, 0x3000]

theorem toNat_mem_blankPoints {c : Char} (h : isBlank c = true) : c.toNat ∈ blankPoints := by
  simp only [isBlank, Bool.or_eq_true, Bool.and_eq_true, decide_eq_true_eq, beq_iff_eq] at h
  simp only [blankPoints, List.mem_cons, List.not_mem_nil, or_false]
  omega

theorem isBlank_of_isWordChar {c : Char} (h : isWordChar c = true) : isBlank c = false := by
  by_contra hblank
  have hmem := toNat_mem_blankPoints (Bool.not_eq_false _ ▸ hblank)
  have hnone : ∀ n ∈ blankPoints, inRanges alnumRanges n = false ∧ n ≠ '_'.toNat := by
    decide +kernel
  obtain ⟨halnum, hlow⟩ := hnone _ hmem
  rcases (Bool.or_eq_true ..).mp h with h | h
  · exact hlow (congrArg Char.toNat (beq_iff_eq.mp h))
  · rw [isAlnum, halnum] at h
    cases h

theorem toNat_of_isAlpha {c : Char} (h : c.isAlpha = true) :
    (65 ≤ c.toNat ∧ c.toNat ≤ 90) ∨ (97 ≤ c.toNat ∧ c.toNat ≤ 122) := by
  rcases (Bool.or_eq_true c.isUpper c.isLower).mp h with hupper | hlower
  · exact .inl (of_decide_eq_true hupper)
  · obtain ⟨hlo, hhi⟩ := (Bool.and_eq_true ..).mp hlower
    exact .inr ⟨of_decide_eq_true hlo, of_decide_eq_true hhi⟩

/-- The letters of ASCII are in the first ranges of the table. -/
theorem isWordChar_of_isAlpha {c : Char} (h : c.isAlpha = true) : isWordChar c = true := by
  have htable : alnumRanges =
      (0x30, 0x39) :: (0x41, 0x5A) :: (0x61, 0x7A) :: alnumRanges.drop 3 := rfl
  rw [isWordChar, isAlnum, htable, inRanges, inRanges, inRanges]
  rcases toNat_of_isAlpha h with ⟨hlo, hhi⟩ | ⟨hlo, hhi⟩
  · rw [if_neg (by omega), if_neg (by omega)]
    simp [hhi]
  · rw [if_neg (by omega), if_neg (by omega), if_neg (by omega)]
    simp [hhi]

theorem isBlank_of_isAlpha {c : Char} (h : c.isAlpha = true) : isBlank c = false :=
  isBlank_of_isWordChar (isWordChar_of_isAlpha h)

theorem isEmpty_dropWhile (p : Char → Bool) (cs : List Char) :
    (cs.dropWhile p).isEmpty = cs.all p := by
  induction cs with
  | nil => rfl
  | cons c cs ih =>
    rw [List.dropWhile_cons, List.all_cons]
    cases p c with
    | true => simpa using ih
    | false => rfl

theorem all_dropWhile (p : Char → Bool) (cs : List Char) : (cs.dropWhile p).all p = cs.all p := by
  induction cs with
  | nil => rfl
  | cons c cs ih =>
    rw [List.dropWhile_cons, List.all_cons]
    cases hc : p c with
    | true => exact ih
    | false => simp [hc]

theorem isEmpty_trim (cs : List Char) : (trim cs).isEmpty = allBlank cs := by
  rw [trim, trimRight, List.isEmpty_reverse, isEmpty_dropWhile, List.all_reverse, trimLeft,
    all_dropWhile, allBlank]

/-- Nothing is left of a text exactly if all its characters are dropped. -/
theorem isEmpty_trimChars (set cs : List Char) :
    (trimChars set cs).isEmpty = cs.all set.contains := by
  rw [trimChars, List.isEmpty_reverse, isEmpty_dropWhile, List.all_reverse, all_dropWhile]

theorem isEmpty_trimmed (s : String) : (trimmed s).isEmpty = allBlank s.toList := by
  rw [← isEmpty_trim, trimmed, Bool.eq_iff_iff, String.isEmpty_iff, List.isEmpty_iff]
  simp

theorem dropWhile_eq_self {p : Char → Bool} {cs : List Char}
    (h : ∀ c ∈ cs.head?, p c = false) : cs.dropWhile p = cs := by
  cases cs with
  | nil => rfl
  | cons c cs => rw [List.dropWhile_cons, h c rfl, if_neg Bool.false_ne_true]

theorem dropWhile_eq_self_iff {p : Char → Bool} {cs : List Char} :
    cs.dropWhile p = cs ↔ ∀ c ∈ cs.head?, p c = false := by
  refine ⟨fun h c hc => ?_, dropWhile_eq_self⟩
  have hfirst := List.head?_dropWhile_not p cs
  rw [h] at hfirst
  rwa [Option.mem_def.mp hc] at hfirst

theorem takeWhile_append_stop {p : Char → Bool} {xs ys : List Char} (hxs : ∀ c ∈ xs, p c = true)
    (hys : ∀ c ∈ ys.head?, p c = false) : (xs ++ ys).takeWhile p = xs := by
  rw [List.takeWhile_append_of_pos hxs]
  cases ys with
  | nil => rw [List.takeWhile_nil, List.append_nil]
  | cons c ys => rw [List.takeWhile_cons_of_neg (by simp [hys c rfl]), List.append_nil]

theorem dropWhile_append_stop {p : Char → Bool} {xs ys : List Char} (hxs : ∀ c ∈ xs, p c = true)
    (hys : ∀ c ∈ ys.head?, p c = false) : (xs ++ ys).dropWhile p = ys := by
  rw [List.dropWhile_append_of_pos hxs, dropWhile_eq_self hys]

section Upto

variable {last : Char} {inner : List Char} (h : last ∉ inner) (rest : List Char)
include h

theorem takeWhile_ne_append : (inner ++ last :: rest).takeWhile (· != last) = inner :=
  takeWhile_append_stop (fun _ hc => bne_iff_ne.mpr (ne_of_mem_of_not_mem hc h)) (by simp)

theorem dropWhile_ne_append : (inner ++ last :: rest).dropWhile (· != last) = last :: rest :=
  dropWhile_append_stop (fun _ hc => bne_iff_ne.mpr (ne_of_mem_of_not_mem hc h)) (by simp)

end Upto

theorem trim_eq_self {cs : List Char} (hfirst : ∀ c ∈ cs.head?, isBlank c = false)
    (hlast : ∀ c ∈ cs.getLast?, isBlank c = false) : trim cs = cs := by
  have hreverse : ∀ c ∈ cs.reverse.head?, isBlank c = false := by
    rw [List.head?_reverse]
    exact hlast
  rw [trim, trimLeft, dropWhile_eq_self hfirst, trimRight, dropWhile_eq_self hreverse,
    List.reverse_reverse]

theorem getLast?_of_mem_dropWhile {p : Char → Bool} {c : Char} {cs : List Char}
    (h : c ∈ (cs.dropWhile p).getLast?) : c ∈ cs.getLast? := by
  obtain ⟨front, hfront⟩ := List.dropWhile_suffix (l := cs) p
  rw [← hfront]
  exact List.mem_getLast?_append_of_mem_getLast? h

/-- Nothing is trimmed at the end of a text that does not end in a blank. -/
theorem trim_eq_trimLeft {cs : List Char} (hlast : ∀ c ∈ cs.getLast?, isBlank c = false) :
    trim cs = trimLeft cs := by
  have hreverse : ∀ c ∈ (trimLeft cs).reverse.head?, isBlank c = false := by
    rw [List.head?_reverse]
    intro c hc
    exact hlast c (getLast?_of_mem_dropWhile hc)
  rw [trim, trimRight, dropWhile_eq_self hreverse, List.reverse_reverse]

theorem head?_trimLeft {cs : List Char} : ∀ c ∈ (trimLeft cs).head?, isBlank c = false := by
  intro c hc
  have hfirst := List.head?_dropWhile_not isBlank cs
  rw [trimLeft] at hc
  rwa [Option.mem_def.mp hc] at hfirst

theorem getLast?_trim {cs : List Char} : ∀ c ∈ (trim cs).getLast?, isBlank c = false := by
  rw [trim, trimRight, List.getLast?_reverse]
  exact head?_trimLeft

theorem trim_isPrefix (cs : List Char) : trim cs <+: trimLeft cs := by
  have h := List.reverse_prefix.mpr (List.dropWhile_suffix (l := (trimLeft cs).reverse) isBlank)
  rwa [List.reverse_reverse] at h

theorem head?_trim {cs : List Char} : ∀ c ∈ (trim cs).head?, isBlank c = false := by
  intro c hc
  obtain ⟨back, hback⟩ := trim_isPrefix cs
  have hfirst : c ∈ (trimLeft cs).head? := by
    rw [← hback, List.head?_append, Option.mem_def.mp hc]
    rfl
  exact head?_trimLeft c hfirst

theorem trim_isInfix (cs : List Char) : trim cs <:+: cs :=
  (trim_isPrefix cs).isInfix.trans (List.dropWhile_suffix isBlank).isInfix

/-! ## Trimming the characters of a set -/

section Sets

variable {set : List Char}

theorem trimChars_cons_of_mem {c : Char} (h : c ∈ set) (cs : List Char) :
    trimChars set (c :: cs) = trimChars set cs := by
  rw [trimChars, List.dropWhile_cons, if_pos (List.contains_iff_mem.mpr h), trimChars]

theorem trimChars_concat_of_mem {c : Char} (h : c ∈ set) (cs : List Char) :
    trimChars set (cs ++ [c]) = trimChars set cs := by
  have hset : set.contains c = true := List.contains_iff_mem.mpr h
  rw [trimChars, List.dropWhile_append, trimChars]
  split
  · next hempty => simp [List.isEmpty_iff.mp hempty, h]
  · rw [List.reverse_concat, List.dropWhile_cons, if_pos hset]

/-- A map that keeps the set apart from all else may be applied before or after. -/
theorem trimChars_map {f : Char → Char} (h : ∀ c, set.contains (f c) = set.contains c)
    (cs : List Char) : trimChars set (cs.map f) = (trimChars set cs).map f := by
  have hset : set.contains ∘ f = set.contains := funext h
  simp only [trimChars, List.dropWhile_map, hset, ← List.map_reverse]

/-- Trimming changes nothing exactly if neither end is in the set. -/
theorem trimChars_eq_self_iff {cs : List Char} :
    trimChars set cs = cs ↔ (∀ c ∈ cs.head?, c ∉ set) ∧ ∀ c ∈ cs.getLast?, c ∉ set := by
  have hset : ∀ c, set.contains c = false ↔ c ∉ set := fun c => by simp
  have hfront : cs.dropWhile set.contains = cs ↔ ∀ c ∈ cs.head?, c ∉ set := by
    simp only [dropWhile_eq_self_iff, hset]
  have hback : cs.reverse.dropWhile set.contains = cs.reverse ↔ ∀ c ∈ cs.getLast?, c ∉ set := by
    simp only [dropWhile_eq_self_iff, hset, List.head?_reverse]
  rw [← hfront, ← hback, trimChars]
  constructor
  · intro h
    -- What is dropped at the back comes from what is left at the front, so neither drops anything.
    have hlength := congrArg List.length h
    have hle := (List.dropWhile_suffix (l := (cs.dropWhile set.contains).reverse)
      set.contains).length_le
    rw [List.length_reverse] at hlength hle
    have hcs : cs.dropWhile set.contains = cs :=
      (List.dropWhile_suffix _).eq_of_length_le (hlength ▸ hle)
    rw [hcs] at h
    exact ⟨hcs, List.reverse_eq_iff.mp h⟩
  · rintro ⟨h, h'⟩
    rw [h, h', List.reverse_reverse]

end Sets

end Quizmark.Text
