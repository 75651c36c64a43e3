import Quizmark.Proofs.Section.Scoring
import Quizmark.Proofs.Text.Lines

/-!
# Criteria and their lines

* `CriterionForm`: the parts of a line with a criterion. `ReadsAs` says which criterion it is.
* `Reads`: lines and the criteria in them. If no line is overlong, `criteria` gives these and no
  others (`criteria_reads`).
* `scoring_append`: the criteria of nodes are those of each node, one after the other.
* `Criterion.line`: a criterion as its author writes it. It is read back, however the lines are put
  together (`scoring_written`).
* `scoring_grammar`: all of this in one statement.
-/

namespace Quizmark.Section

open Text

/-! ## The grammar -/

/-- A line, without the blanks at its ends, is digits, a colon and a description. Blanks may stand
around the colon, and the description does not begin with one. -/
structure CriterionForm (line digits gap space description : List Char) : Prop where
  split : trim line = digits ++ gap ++ ':' :: (space ++ description)
  digits_ne : digits ≠ []
  digit : ∀ c ∈ digits, isDigit c = true
  gap_blank : ∀ c ∈ gap, isBlank c = true
  space_blank : ∀ c ∈ space, isBlank c = true
  description_ne : description ≠ []
  first : ∀ c ∈ description.head?, isBlank c = false

/-- A line reads as a criterion: its points are the number that the digits spell. -/
def ReadsAs (line : List Char) (criterion : Criterion) : Prop :=
  ∃ digits gap space description, CriterionForm line digits gap space description ∧
    criterion = ⟨ofDigits (digits.map digitValue), String.ofList description⟩

/-- Lines and the criteria that they read as, in their order. Other lines are passed over. -/
inductive Reads : List (List Char) → List Criterion → Prop where
  | nil : Reads [] []
  | criterion {line : List Char} {found : Criterion} {rest : List (List Char)}
      {items : List Criterion} : ReadsAs line found → Reads rest items →
    Reads (line :: rest) (found :: items)
  | other {line : List Char} {rest : List (List Char)} {items : List Criterion} :
    (∀ found, ¬ ReadsAs line found) → Reads rest items → Reads (line :: rest) items

/-- A text that can be a description: it is not empty, has no blank at either end, and stands in one
line. -/
structure IsPhrase (cs : List Char) : Prop where
  ne : cs ≠ []
  first : ∀ c ∈ cs.head?, isBlank c = false
  last : ∀ c ∈ cs.getLast?, isBlank c = false
  inLine : '\n' ∉ cs

/-- A phrase is not empty, has no blank at either end, and stands on one line. -/
theorem isPhrase_iff {cs : List Char} :
    IsPhrase cs ↔ cs ≠ [] ∧ cs.head?.any isBlank = false ∧ cs.getLast?.any isBlank = false ∧
      '\n' ∉ cs := by
  rw [Option.any_eq_false, Option.any_eq_false]
  constructor
  · rintro ⟨ne, first, last, inLine⟩
    exact ⟨ne, fun c hc => by simp [first c hc], fun c hc => by simp [last c hc], inLine⟩
  · rintro ⟨ne, first, last, inLine⟩
    exact ⟨ne, fun c hc => by simpa using first c hc, fun c hc => by simpa using last c hc, inLine⟩

instance (cs : List Char) : Decidable (IsPhrase cs) := decidable_of_iff _ isPhrase_iff.symm

namespace CriterionForm

variable {line digits gap space description : List Char}
  (form : CriterionForm line digits gap space description)
include form

theorem criterionLine : CriterionLine digits (space ++ description) (trim line) :=
  ⟨form.digit, form.digits_ne, List.append_ne_nil_of_right_ne_nil space form.description_ne, gap,
    form.gap_blank, form.split⟩

/-- The description does not end in a blank, as the line does not. -/
theorem last : ∀ c ∈ description.getLast?, isBlank c = false := by
  intro c hc
  have hline : c ∈ (trim line).getLast? := by
    rw [form.split, ← List.cons_append, ← List.append_assoc]
    exact List.mem_getLast?_append_of_mem_getLast? hc
  exact getLast?_trim c hline

theorem trim_eq : trim (space ++ description) = description := by
  have hlast : ∀ c ∈ (space ++ description).getLast?, isBlank c = false := by
    rw [List.getLast?_append_of_ne_nil space form.description_ne]
    exact form.last
  rw [trim_eq_trimLeft hlast, trimLeft, List.dropWhile_append_of_pos form.space_blank,
    dropWhile_eq_self form.first]

theorem isPhrase (hline : '\n' ∉ line) : IsPhrase description := by
  refine ⟨form.description_ne, form.first, form.last, fun hfeed => hline ?_⟩
  refine (trim_isInfix line).subset ?_
  rw [form.split]
  simp [hfeed]

end CriterionForm

/-- The blanks behind the colon can be told from the description. -/
theorem CriterionLine.form {line digits description : List Char}
    (h : CriterionLine digits description (trim line)) :
    ∃ gap, CriterionForm line digits gap (description.takeWhile isBlank)
      (trimLeft description) := by
  obtain ⟨hdigits, hne, hdescription, gap, hgap, hsplit⟩ := h
  have hparts : description.takeWhile isBlank ++ trimLeft description = description :=
    List.takeWhile_append_dropWhile
  refine ⟨gap, ⟨by rw [hparts, hsplit], hne, hdigits, hgap, fun _ => List.mem_takeWhile_imp, ?_,
    head?_trimLeft⟩⟩
  intro hnil
  -- A description of blanks alone would leave a blank at the end of the line.
  obtain ⟨c, hc⟩ := Option.isSome_iff_exists.mp (List.getLast?_isSome.mpr hdescription)
  have hblank : isBlank c = true := by
    rw [hnil, List.append_nil] at hparts
    rw [← hparts] at hc
    exact List.mem_takeWhile_imp (List.mem_of_getLast? hc)
  have hline : c ∈ (trim line).getLast? := by
    rw [hsplit, List.append_cons]
    exact List.mem_getLast?_append_of_mem_getLast? hc
  rw [getLast?_trim c hline] at hblank
  cases hblank

/-- The lines that read as a criterion are those with a colon behind digits and more behind it. -/
theorem exists_readsAs_iff {line : List Char} :
    (∃ criterion, ReadsAs line criterion) ↔
      ∃ digits description, CriterionLine digits description (trim line) := by
  constructor
  · rintro ⟨criterion, digits, gap, space, description, form, -⟩
    exact ⟨digits, space ++ description, form.criterionLine⟩
  · rintro ⟨digits, description, h⟩
    obtain ⟨gap, form⟩ := h.form
    exact ⟨_, digits, gap, _, _, form, rfl⟩

theorem ReadsAs.isPhrase {line : List Char} {criterion : Criterion} (h : ReadsAs line criterion)
    (hline : '\n' ∉ line) : IsPhrase criterion.description.toList := by
  obtain ⟨digits, gap, space, description, form, rfl⟩ := h
  rw [String.toList_ofList]
  exact form.isPhrase hline

/-! ## What is read -/

theorem criterion?_of_readsAs {line : List Char} {criterion : Criterion}
    (hfits : ¬ Overlong line) (h : ReadsAs line criterion) :
    criterion? (trim line) = .ok (some criterion) := by
  obtain ⟨digits, gap, space, description, form, rfl⟩ := h
  have hlength : ¬ digits.length > maxDigits :=
    fun hlong => hfits ⟨digits, space ++ description, form.criterionLine, hlong⟩
  rw [criterion?_of_line form.criterionLine, if_neg hlength, form.trim_eq]

theorem criterion?_eq_none {line : List Char} (h : ∀ found, ¬ ReadsAs line found) :
    criterion? (trim line) = .ok none := by
  by_contra hne
  obtain ⟨criterion, hreads⟩ := exists_readsAs_iff.mpr (criterionLine_of_ne_none hne)
  exact h criterion hreads

/-- A line reads as one criterion at most. -/
theorem ReadsAs.unique {line : List Char} {criterion other : Criterion} (hfits : ¬ Overlong line)
    (h : ReadsAs line criterion) (h' : ReadsAs line other) : other = criterion := by
  have heq := (criterion?_of_readsAs hfits h').symm.trans (criterion?_of_readsAs hfits h)
  exact Option.some.inj (Except.ok.inj heq)

theorem reads_cons_of_readsAs {line : List Char} {criterion : Criterion}
    {rest : List (List Char)} {items : List Criterion} (hfits : ¬ Overlong line)
    (h : ReadsAs line criterion) :
    Reads (line :: rest) items ↔ ∃ others, items = criterion :: others ∧ Reads rest others := by
  constructor
  · intro hreads
    cases hreads with
    | criterion hfound hrest => exact ⟨_, by rw [h.unique hfits hfound], hrest⟩
    | other hno => exact absurd h (hno criterion)
  · rintro ⟨others, rfl, hrest⟩
    exact .criterion h hrest

theorem reads_cons_of_not_readsAs {line : List Char} {rest : List (List Char)}
    {items : List Criterion} (h : ∀ found, ¬ ReadsAs line found) :
    Reads (line :: rest) items ↔ Reads rest items := by
  constructor
  · intro hreads
    cases hreads with
    | criterion hfound => exact absurd hfound (h _)
    | other _ hrest => exact hrest
  · exact .other h

/-- **The criteria of lines are those that the lines read as.** -/
theorem criteria_reads {lines : List (List Char)} (h : ∀ line ∈ lines, ¬ Overlong line) :
    ∃ items, criteria lines = .ok items ∧ ∀ others, Reads lines others ↔ others = items := by
  induction lines with
  | nil =>
    refine ⟨[], rfl, fun others => ⟨fun hreads => ?_, fun heq => heq ▸ .nil⟩⟩
    cases hreads
    rfl
  | cons line rest ih =>
    obtain ⟨hfits, hrest⟩ := List.forall_mem_cons.mp h
    obtain ⟨items, hitems, hunique⟩ := ih hrest
    -- A line reads as one criterion or as none, and the rest is read in the same way.
    by_cases hline : ∃ criterion, ReadsAs line criterion
    · obtain ⟨criterion, hreads⟩ := hline
      refine ⟨criterion :: items, ?_, fun others => ?_⟩
      · rw [criteria, criterion?_of_readsAs hfits hreads, hitems]
        rfl
      · rw [reads_cons_of_readsAs hfits hreads]
        simp only [hunique, exists_eq_right]
    · have hno : ∀ found, ¬ ReadsAs line found := not_exists.mp hline
      refine ⟨items, ?_, fun others => ?_⟩
      · rw [criteria, criterion?_eq_none hno]
        exact hitems
      · rw [reads_cons_of_not_readsAs hno, hunique]

theorem Reads.isPhrase {lines : List (List Char)} {items : List Criterion}
    (h : Reads lines items) (hlines : ∀ line ∈ lines, '\n' ∉ line) :
    ∀ item ∈ items, IsPhrase item.description.toList := by
  induction h with
  | nil => exact List.forall_mem_nil _
  | criterion hfound _ ih =>
    obtain ⟨hline, hrest⟩ := List.forall_mem_cons.mp hlines
    exact List.forall_mem_cons.mpr ⟨hfound.isPhrase hline, ih hrest⟩
  | other _ _ ih => exact ih (List.forall_mem_cons.mp hlines).2

/-! ## The lines of nodes -/

/-- A text has no run of digits that is too long for a number. -/
def DigitRunsFit (cs : List Char) : Prop :=
  ∀ run, run <:+: cs → (∀ c ∈ run, isDigit c = true) → run.length ≤ maxDigits

/-- Where no run of digits is too long, no line is overlong. -/
theorem not_overlong_of_digitRunsFit {cs line : List Char} (h : DigitRunsFit cs)
    (hline : line ∈ lines cs) : ¬ Overlong line := by
  rintro ⟨digits, description, ⟨hdigits, -, -, gap, -, hsplit⟩, hlong⟩
  have hrun : digits <:+: trim line := by
    rw [hsplit, List.append_assoc]
    exact (List.prefix_append ..).isInfix
  have hpart : digits <:+: cs := hrun.trans ((trim_isInfix line).trans (isInfix_of_mem_lines hline))
  have hfits := h digits hpart hdigits
  omega

/-- The lines of nodes are those of each node. Where there is no node there is an empty line. -/
theorem lines_nodesText {nodes : List Node} (hne : nodes ≠ []) :
    lines (nodesText nodes).toList = nodes.flatMap fun node => lines node.text.toList := by
  induction nodes with
  | nil => exact absurd rfl hne
  | cons node rest ih =>
    cases rest with
    | nil => simp [nodesText]
    | cons next rest =>
      have hfeed : "\n".toList = ['\n'] := rfl
      have hne := List.cons_ne_nil next rest
      rw [List.flatMap_cons, nodesText, String.toList_append, String.toList_append, hfeed,
        List.append_assoc, List.singleton_append, lines_append, ih hne]
      exact hne

theorem scoring_eq (nodes : List Node) :
    scoring nodes = criteria (nodes.flatMap fun node => lines node.text.toList) := by
  cases nodes with
  | nil => rfl
  | cons node rest => rw [scoring, lines_nodesText (List.cons_ne_nil node rest)]

/-- Lines are read one after the other, and the first error counts. -/
theorem criteria_append (xs ys : List (List Char)) :
    criteria (xs ++ ys) = do return (← criteria xs) ++ (← criteria ys) := by
  induction xs with
  | nil =>
    rw [List.nil_append, criteria]
    cases criteria ys <;> rfl
  | cons line rest ih =>
    rw [List.cons_append, criteria, criteria]
    cases criterion? (trim line) with
    | error fault => rfl
    | ok found =>
      cases found with
      | none => exact ih
      -- The criterion stands in front of both results.
      | some criterion =>
        change (criteria (rest ++ ys) >>= fun items => pure (criterion :: items)) = _
        rw [ih]
        cases criteria rest with
        | error fault => rfl
        | ok items => cases criteria ys <;> rfl

/-- **The criteria of nodes are those of each node, one after the other.** -/
theorem scoring_append (xs ys : List Node) :
    scoring (xs ++ ys) = do return (← scoring xs) ++ (← scoring ys) := by
  rw [scoring_eq, scoring_eq, scoring_eq, List.flatMap_append, criteria_append]

/-! ## Criteria as they are written -/

/-- A criterion as its author writes it. -/
def Criterion.line (criterion : Criterion) : String :=
  toString criterion.points ++ ": " ++ criterion.description

/-- Criteria as their author writes them, one in each line. -/
def written (criteria : List Criterion) : String :=
  "\n".intercalate (criteria.map Criterion.line)

/-- A criterion that can be written in a line: its points are not too long, and its description is a
phrase. -/
structure Criterion.IsWritable (criterion : Criterion) : Prop where
  fits : (toString criterion.points).length ≤ maxDigits
  phrase : IsPhrase criterion.description.toList

instance (criterion : Criterion) : Decidable criterion.IsWritable :=
  decidable_of_iff
    ((toString criterion.points).length ≤ maxDigits ∧ IsPhrase criterion.description.toList)
    ⟨fun ⟨fits, phrase⟩ => ⟨fits, phrase⟩, fun h => ⟨h.fits, h.phrase⟩⟩

theorem isDigit_of_mem_toString {n : Nat} {c : Char} (h : c ∈ (toString n).toList) :
    isDigit c = true := by
  rw [Nat.toString_eq_repr, Nat.toList_repr] at h
  have hdigit := Nat.isDigit_of_mem_toDigits (by decide) (by decide) h
  rw [Char.isDigit_iff_toNat] at hdigit
  rw [isDigit, Bool.and_eq_true, decide_eq_true_eq, decide_eq_true_eq, Char.le_def, Char.le_def,
    UInt32.le_iff_toNat_le, UInt32.le_iff_toNat_le]
  exact hdigit

theorem toList_toString_ne_nil (n : Nat) : (toString n).toList ≠ [] := by
  rw [Nat.toString_eq_repr, Nat.toList_repr]
  exact Nat.toDigits_ne_nil

theorem ofDigits_toString (n : Nat) : ofDigits ((toString n).toList.map digitValue) = n := by
  rw [Nat.toString_eq_repr, Nat.toList_repr, ofDigits, List.foldl_map]
  exact Nat.ofDigitChars_ten_toDigits

namespace Criterion

variable {criterion : Criterion}

theorem toList_line (criterion : Criterion) :
    criterion.line.toList =
      (toString criterion.points).toList ++ [] ++
        ':' :: ([' '] ++ criterion.description.toList) := by
  have hcolon : ": ".toList = [':', ' '] := rfl
  rw [line, String.toList_append, String.toList_append, hcolon, List.append_nil, List.append_assoc]
  rfl

/-- The line of a criterion begins with a digit and ends as its description does. -/
theorem isPhrase_line (h : IsPhrase criterion.description.toList) :
    IsPhrase criterion.line.toList := by
  obtain ⟨digit, digits, hdigits⟩ :=
    List.exists_cons_of_ne_nil (toList_toString_ne_nil criterion.points)
  -- The line begins with a digit, which is neither blank nor a line end.
  have hdigit : isDigit digit = true := isDigit_of_mem_toString (hdigits ▸ List.mem_cons_self)
  refine ⟨?_, ?_, ?_, ?_⟩
  · rw [toList_line, hdigits]
    exact List.cons_ne_nil _ _
  · rw [toList_line, hdigits]
    rintro c ⟨⟩
    by_contra hblank
    rw [isDigit_eq_false_of_isBlank (Bool.of_not_eq_false hblank)] at hdigit
    cases hdigit
  · rw [toList_line, ← List.cons_append, ← List.append_assoc,
      List.getLast?_append_of_ne_nil _ h.ne]
    exact h.last
  · rw [toList_line]
    intro hfeed
    simp only [List.append_nil, List.mem_append, List.mem_cons, List.not_mem_nil, or_false] at hfeed
    rcases hfeed with hdigit | hcolon | hspace | hdescription
    · exact absurd (isDigit_of_mem_toString hdigit) (by decide)
    · exact absurd hcolon (by decide)
    · exact absurd hspace (by decide)
    · exact h.inLine hdescription

theorem criterionForm_line (h : IsPhrase criterion.description.toList) :
    CriterionForm criterion.line.toList (toString criterion.points).toList [] [' ']
      criterion.description.toList := by
  have hline := isPhrase_line h
  refine ⟨?_, toList_toString_ne_nil _, fun _ => isDigit_of_mem_toString, List.forall_mem_nil _,
    List.forall_mem_singleton.mpr (by decide), h.ne, h.first⟩
  rw [trim_eq_self hline.first hline.last, toList_line]

theorem criterion?_line (h : criterion.IsWritable) :
    criterion? (trim criterion.line.toList) = .ok (some criterion) := by
  have form := criterionForm_line h.phrase
  rw [criterion?_of_line form.criterionLine, String.length_toList,
    if_neg (Nat.not_lt.mpr h.fits), form.trim_eq, ofDigits_toString, String.ofList_toList]

end Criterion

theorem criteria_map_line {group : List Criterion} (h : ∀ item ∈ group, item.IsWritable) :
    criteria (group.map fun item => item.line.toList) = .ok group := by
  induction group with
  | nil => rfl
  | cons item rest ih =>
    obtain ⟨hitem, hrest⟩ := List.forall_mem_cons.mp h
    rw [List.map_cons, criteria, Criterion.criterion?_line hitem, ih hrest]
    rfl

/-- Criteria are read back from their lines. -/
theorem criteria_written {group : List Criterion} (h : ∀ item ∈ group, item.IsWritable) :
    criteria (lines (written group).toList) = .ok group := by
  rcases eq_or_ne group [] with rfl | hne
  · rfl
  · have hlines : lines (written group).toList = group.map fun item => item.line.toList := by
      have hfeed : "\n".toList = ['\n'] := rfl
      rw [written, String.toList_intercalate, hfeed, lines_intercalate, List.map_map]
      · rfl
      · intro piece hpiece
        simp only [List.mem_map] at hpiece
        obtain ⟨line, ⟨item, hitem, rfl⟩, rfl⟩ := hpiece
        exact (Criterion.isPhrase_line (h item hitem).phrase).inLine
      · simpa using hne
    rw [hlines, criteria_map_line h]

/-- **Criteria that are written in lines are read back, however the lines are put together.** -/
theorem scoring_written {nodes : List Node} {groups : List (List Criterion)}
    (htexts : nodes.map Node.text = groups.map written)
    (h : ∀ group ∈ groups, ∀ item ∈ group, item.IsWritable) :
    scoring nodes = .ok groups.flatten := by
  have hlines : nodes.flatMap (fun node => lines node.text.toList) =
      groups.flatMap fun group => lines (written group).toList := by
    have hmap := congrArg (List.flatMap fun text : String => lines text.toList) htexts
    rwa [List.flatMap_map, List.flatMap_map] at hmap
  rw [scoring_eq, hlines]
  clear htexts hlines
  induction groups with
  | nil => rfl
  | cons group rest ih =>
    obtain ⟨hgroup, hrest⟩ := List.forall_mem_cons.mp h
    rw [List.flatMap_cons, criteria_append, criteria_written hgroup, ih hrest]
    rfl

/-! ## All of it -/

/-- **What scoring criteria are read.** If no run of digits is too long, the criteria of nodes are
those that the lines of their text read as, in the order of the lines, and nothing else; their
descriptions are phrases. A line reads as a criterion if, apart from blanks at its ends, it has a
colon behind digits, with blanks between, and more behind the colon. So the criteria of two lists of
nodes are those of the first and then those of the second, and criteria that are written in lines
are read back, however the lines are put together. -/
theorem scoring_grammar :
    (∀ nodes, DigitRunsFit (nodesText nodes).toList →
      ∃ items, scoring nodes = .ok items ∧
        (∀ others, Reads (lines (nodesText nodes).toList) others ↔ others = items) ∧
        ∀ item ∈ items, IsPhrase item.description.toList) ∧
    (∀ line, (∃ criterion, ReadsAs line criterion) ↔
      ∃ digits description, CriterionLine digits description (trim line)) ∧
    (∀ xs ys, scoring (xs ++ ys) = do return (← scoring xs) ++ (← scoring ys)) ∧
    (∀ (nodes : List Node) (groups : List (List Criterion)),
      nodes.map Node.text = groups.map written →
      (∀ group ∈ groups, ∀ item ∈ group, item.IsWritable) →
      scoring nodes = .ok groups.flatten) := by
  refine ⟨fun nodes hruns => ?_, fun _ => exists_readsAs_iff, scoring_append,
    fun _ _ => scoring_written⟩
  obtain ⟨items, hitems, hunique⟩ :=
    criteria_reads fun _ hline => not_overlong_of_digitRunsFit hruns hline
  have hreads := (hunique items).mpr rfl
  exact ⟨items, hitems, hunique, hreads.isPhrase fun _ => feed_notMem_of_mem_lines⟩

/-- A line with a criterion among blanks, a line without, and one with more colons. -/
def remarks : List Node :=
  [.ofText .text " 3 :\tclear: yes \nas ever: 1", .ofText .text "010:x"]

/-- The criteria of two paragraphs. -/
def rubric : List (List Criterion) := [[⟨3, "clear: yes"⟩, ⟨0, "1 example"⟩], [⟨10, "期待"⟩]]

theorem scoring_grammar_rubric :
    (DigitRunsFit (nodesText remarks).toList ∧ ∃ items, scoring remarks = .ok items ∧
      Reads (lines (nodesText remarks).toList) items ∧
      items.map (fun item => (item.points, item.description)) = [(3, "clear: yes"), (10, "x")]) ∧
    scoring (rubric.map fun group => .ofKind .paragraph [.ofText .text (written group)]) =
      .ok rubric.flatten := by
  obtain ⟨hread, -, -, hwritten⟩ := scoring_grammar
  have hruns : DigitRunsFit (nodesText remarks).toList := by
    intro run hrun _
    exact hrun.length_le.trans (by decide +kernel)
  obtain ⟨items, hitems, hunique, -⟩ := hread remarks hruns
  have hvalue : (scoring remarks).toOption.map (List.map fun item =>
      (item.points, item.description)) = some [(3, "clear: yes"), (10, "x")] := by decide +kernel
  rw [hitems] at hvalue
  exact ⟨⟨hruns, items, hitems, (hunique items).mpr rfl, Option.some.inj hvalue⟩,
    hwritten _ rubric (by decide +kernel) (by decide +kernel)⟩

end Quizmark.Section
