import Quizmark.Proofs.Cloze.Marker

/-!
# The segments of a cloze text

The grammar of cloze texts, said without a scan.

* `dropEscapes`: a text without the backslashes before its opening markers, each judged by what
  stands behind it. Answers are shown so (`unescape_eq`).
* `Segment`: an escaped marker, a blank or a plain character.
* `BeginsMarker`: a text begins with an escaped marker or a blank. These are the texts where
  `marker?` matches (`marker?_eq_none_iff`), and what it finds is their first segment
  (`marker?_source`).
* `Segmentation`: a text cut into segments such that no plain character begins a marker. Every text
  has exactly one (`exists_segmentation`, `Segmentation.eq`).
* `Replaced`: the first marker of a text is replaced, then the first one behind it, until there is
  none.
* `rewrite_segments`: a text is rewritten in this way, and segment by segment.
-/

namespace Quizmark.Cloze

open Text

/-! ## Answers -/

/-- A text without the backslashes that stand before an opening marker. -/
def dropEscapes : List Char → List Char
  | [] => []
  | c :: cs =>
    if ('\\' :: opening).isPrefixOf (c :: cs) then dropEscapes cs else c :: dropEscapes cs

theorem dropEscapes_escaped (cs : List Char) :
    dropEscapes ('\\' :: opening ++ cs) = opening ++ dropEscapes cs := by
  simp [opening, dropEscapes, List.isPrefixOf]

/-- Resolving escapes by substitution is the same as dropping the backslash of each. -/
theorem unescape_eq (cs : List Char) : unescape cs = dropEscapes cs := by
  -- An escape takes three characters at once, so the induction is on the length.
  induction hn : cs.length using Nat.strongRecOn generalizing cs with
  | ind n ih =>
    cases cs with
    | nil => simp [unescape, dropEscapes]
    | cons c cs =>
      by_cases hprefix : '\\' :: opening <+: c :: cs
      · obtain ⟨rest, hrest⟩ := hprefix
        have hless : rest.length < n := by
          rw [← hn, ← hrest]
          simp [opening]
          omega
        rw [← hrest, dropEscapes_escaped, ← ih _ hless rest rfl]
        exact substitute_append (by simp) (escape?_escaped rest)
      · have hnone : escape? (c :: cs) = none := by
          rw [Option.eq_none_iff_forall_ne_some]
          intro found hfound
          obtain ⟨rest, hrest, -⟩ := of_escape? hfound
          exact hprefix ⟨rest, hrest.symm⟩
        rw [dropEscapes, if_neg (by simpa using hprefix), ← ih _ (by simp [← hn]) cs rfl]
        exact substitute_of_none hnone

/-! ## Segments -/

/-- A piece of a cloze text. -/
inductive Segment where
  | escape
  | blank (answer : List Char)
  | plain (c : Char)

namespace Segment

/-- The text of a segment as its author writes it. -/
def source : Segment → List Char
  | escape => '\\' :: opening
  | blank answer => opening ++ answer ++ closing
  | plain c => [c]

/-- The text of a segment as a reader gets it. -/
def output : Segment → List Char
  | escape => opening
  | blank answer => ['$', '\x7b'] ++ dropEscapes answer ++ ['\x7d']
  | plain c => [c]

/-- A segment is an escaped marker, or a blank whose answer is not empty and holds no closing
brace. -/
def IsMarker : Segment → Prop
  | escape => True
  | blank answer => answer ≠ [] ∧ '\x7d' ∉ answer
  | plain _ => False

theorem source_ne_nil (segment : Segment) : segment.source ≠ [] := by
  cases segment <;> simp [source, opening]

/-- A marker is known by its text. -/
theorem eq_of_source {a b : Segment} (ha : a.IsMarker) (hb : b.IsMarker)
    (h : a.source = b.source) : a = b := by
  cases a with
  | escape =>
    cases b with
    | escape => rfl
    | blank answer => simp [source, opening] at h
    | plain c => exact hb.elim
  | blank answer =>
    cases b with
    | escape => simp [source, opening] at h
    | blank other =>
      simp only [source, List.append_cancel_left_eq, List.append_cancel_right_eq] at h
      rw [h]
    | plain c => exact hb.elim
  | plain c => exact ha.elim

end Segment

/-- A text begins with an escaped marker or with a blank. -/
def BeginsMarker (cs : List Char) : Prop :=
  ∃ (segment : Segment) (rest : List Char), segment.IsMarker ∧ cs = segment.source ++ rest

/-! ## What the scan finds -/

theorem marker?_source {segment : Segment} (h : segment.IsMarker) (rest : List Char) :
    marker? (segment.source ++ rest) = some ⟨segment.output, segment.source.length⟩ := by
  cases segment with
  | escape => exact marker?_escaped rest
  | blank answer =>
    have hblank := blank?_eq_some h.1 h.2 rest
    have hescape : escape? (opening ++ answer ++ closing ++ rest) = none := rfl
    rw [Segment.source, marker?, hescape, hblank, unescape_eq]
    simp [Segment.output, opening, closing]
  | plain c => exact h.elim

/-- A marker is found exactly where the source of one begins. -/
theorem marker?_eq_none_iff {cs : List Char} : marker? cs = none ↔ ¬ BeginsMarker cs := by
  constructor
  · rintro hnone ⟨segment, rest, hmarker, rfl⟩
    rw [marker?_source hmarker] at hnone
    cases hnone
  · intro hbegins
    rw [Option.eq_none_iff_forall_ne_some]
    intro found hfound
    apply hbegins
    rcases Option.or_eq_some_iff.mp hfound with hescape | ⟨-, hblank⟩
    · obtain ⟨rest, hrest, -⟩ := of_escape? hescape
      exact ⟨.escape, rest, trivial, hrest⟩
    · obtain ⟨answer, rest, hne, hbrace, hrest, -⟩ := of_blank? hblank
      exact ⟨.blank answer, rest, ⟨hne, hbrace⟩, hrest⟩

/-- Two markers at the front of one text are the same. -/
theorem marker_unique {a b : Segment} (ha : a.IsMarker) (hb : b.IsMarker) {xs ys : List Char}
    (h : a.source ++ xs = b.source ++ ys) : a = b ∧ xs = ys := by
  have hfound := marker?_source ha xs
  rw [h, marker?_source hb ys, Option.some_inj, Match.mk.injEq] at hfound
  obtain ⟨hsource, hrest⟩ := List.append_inj h hfound.2.symm
  exact ⟨Segment.eq_of_source ha hb hsource, hrest⟩

theorem rewriteChars_marker {segment : Segment} (h : segment.IsMarker) (rest : List Char) :
    rewriteChars (segment.source ++ rest) = segment.output ++ rewriteChars rest :=
  substitute_append segment.source_ne_nil (marker?_source h rest)

theorem rewriteChars_plain {c : Char} {cs : List Char} (h : ¬ BeginsMarker (c :: cs)) :
    rewriteChars (c :: cs) = c :: rewriteChars cs :=
  substitute_of_none (marker?_eq_none_iff.mpr h)

/-! ## Segmentations -/

/-- A text cut into segments. A plain character stands only where no marker begins. -/
inductive Segmentation : List Char → List Segment → Prop where
  | nil : Segmentation [] []
  | marker {segment : Segment} {rest : List Char} {segments : List Segment} : segment.IsMarker →
    Segmentation rest segments → Segmentation (segment.source ++ rest) (segment :: segments)
  | plain {c : Char} {rest : List Char} {segments : List Segment} : ¬ BeginsMarker (c :: rest) →
    Segmentation rest segments → Segmentation (c :: rest) (.plain c :: segments)

/-- Every text falls into segments, by going from its front to its end. -/
theorem exists_segmentation (cs : List Char) : ∃ segments, Segmentation cs segments := by
  induction hn : cs.length using Nat.strongRecOn generalizing cs with
  | ind n ih =>
    by_cases hbegins : BeginsMarker cs
    · obtain ⟨segment, rest, hmarker, rfl⟩ := hbegins
      have hpos := List.length_pos_iff.mpr segment.source_ne_nil
      rw [List.length_append] at hn
      obtain ⟨segments, hsegments⟩ := ih rest.length (by omega) rest rfl
      exact ⟨_, .marker hmarker hsegments⟩
    · cases cs with
      | nil => exact ⟨[], .nil⟩
      | cons c rest =>
        obtain ⟨segments, hsegments⟩ := ih rest.length (by simp [← hn]) rest rfl
        exact ⟨_, .plain hbegins hsegments⟩

namespace Segmentation

variable {cs : List Char} {segments : List Segment}

/-- There is only one way: the first segment is settled by the text, and then the rest is. -/
theorem eq (h : Segmentation cs segments) {others : List Segment} (k : Segmentation cs others) :
    others = segments := by
  -- Each rule excludes the other two at the same text, and fixes what is left.
  induction h generalizing others with
  | nil =>
    generalize hcs : ([] : List Char) = cs at k
    cases k with
    | nil => rfl
    | @marker segment => simp [segment.source_ne_nil] at hcs
    | plain => cases hcs
  | @marker segment rest segments hmarker _ ih =>
    generalize hcs : segment.source ++ rest = cs at k
    cases k with
    | nil => simp [segment.source_ne_nil] at hcs
    | marker hother k =>
      obtain ⟨rfl, rfl⟩ := marker_unique hmarker hother hcs
      rw [ih k]
    | plain hno _ => exact absurd ⟨segment, rest, hmarker, hcs.symm⟩ hno
  | @plain c rest segments hno _ ih =>
    generalize hcs : c :: rest = cs at k
    cases k with
    | nil => cases hcs
    | @marker segment other others hmarker k => exact absurd ⟨segment, other, hmarker, hcs⟩ hno
    | plain _ k =>
      cases hcs
      rw [ih k]

/-- The rewriter goes from segment to segment. -/
theorem rewriteChars_eq (h : Segmentation cs segments) :
    rewriteChars cs = segments.flatMap Segment.output := by
  induction h with
  | nil => rfl
  | marker hmarker _ ih => rw [rewriteChars_marker hmarker, ih, List.flatMap_cons]
  | plain hno _ ih =>
    rw [rewriteChars_plain hno, ih, List.flatMap_cons]
    rfl

end Segmentation

/-! ## Replacing the first marker -/

/-- No marker begins in the first of two texts that stand one behind the other. -/
def Unmarked (before rest : List Char) : Prop :=
  ∀ tail, tail <:+ before → tail ≠ [] → ¬ BeginsMarker (tail ++ rest)

/-- The markers of a text are replaced from left to right: the first one, then the first one behind
it, until there is none. -/
inductive Replaced : List Char → List Char → Prop where
  | done {cs : List Char} : Unmarked cs [] → Replaced cs cs
  | next {before rest out : List Char} {segment : Segment} : segment.IsMarker →
    Unmarked before (segment.source ++ rest) → Replaced rest out →
    Replaced (before ++ (segment.source ++ rest)) (before ++ (segment.output ++ out))

theorem Unmarked.cons {c : Char} {before rest : List Char}
    (hno : ¬ BeginsMarker (c :: (before ++ rest))) (h : Unmarked before rest) :
    Unmarked (c :: before) rest := by
  intro tail htail hne
  rcases List.suffix_cons_iff.mp htail with rfl | htail
  · exact hno
  · exact h tail htail hne

theorem rewriteChars_unmarked {before rest : List Char} (h : Unmarked before rest) :
    rewriteChars (before ++ rest) = before ++ rewriteChars rest := by
  induction before with
  | nil => rfl
  | cons c before ih =>
    have hno : ¬ BeginsMarker (c :: (before ++ rest)) :=
      h (c :: before) (List.suffix_refl _) (by simp)
    have hbefore : Unmarked before rest :=
      fun tail htail hne => h tail (htail.trans (List.suffix_cons c before)) hne
    rw [List.cons_append, rewriteChars_plain hno, ih hbefore, List.cons_append]

/-- The relation has at most one output, that of the rewriter. -/
theorem Replaced.eq {cs out : List Char} (h : Replaced cs out) : out = rewriteChars cs := by
  induction h with
  | done hunmarked =>
    have hall := rewriteChars_unmarked hunmarked
    simpa [rewriteChars] using hall.symm
  | next hmarker hunmarked _ ih =>
    rw [rewriteChars_unmarked hunmarked, rewriteChars_marker hmarker, ih]

theorem Segmentation.replaced {cs : List Char} {segments : List Segment}
    (h : Segmentation cs segments) : Replaced cs (segments.flatMap Segment.output) := by
  induction h with
  | nil => exact .done fun tail htail hne => absurd (List.suffix_nil.mp htail) hne
  | @marker segment rest segments hmarker _ ih =>
    have hnone : Unmarked [] (segment.source ++ rest) :=
      fun tail htail hne => absurd (List.suffix_nil.mp htail) hne
    exact .next hmarker hnone ih
  | @plain c rest segments hno _ ih =>
    rw [List.flatMap_cons]
    generalize segments.flatMap Segment.output = out at ih
    cases ih with
    | done hunmarked => exact .done (hunmarked.cons (by simpa using hno))
    | next hmarker hunmarked hrest => exact .next hmarker (hunmarked.cons hno) hrest

/-- A text has exactly one segmentation. -/
theorem segmentation_iff (cs : List Char) :
    ∃ segments, ∀ others, Segmentation cs others ↔ others = segments := by
  obtain ⟨segments, hsegments⟩ := exists_segmentation cs
  refine ⟨segments, fun others => ⟨hsegments.eq, ?_⟩⟩
  rintro rfl
  exact hsegments

/-- **A text is rewritten by its grammar.** Its markers are replaced from left to right, the first
one first, and without overlap. It has exactly one segmentation, and what becomes of it is what
becomes of its segments. -/
theorem rewrite_segments (s : String) :
    (∀ out, Replaced s.toList out ↔ out = (rewrite s).toList) ∧
      ∃ segments, (∀ others, Segmentation s.toList others ↔ others = segments) ∧
        rewrite s = String.ofList (segments.flatMap Segment.output) := by
  obtain ⟨segments, hiff⟩ := segmentation_iff s.toList
  have hsegments : Segmentation s.toList segments := (hiff segments).mpr rfl
  have hrewrite : (rewrite s).toList = rewriteChars s.toList := by
    rw [rewrite, String.toList_ofList]
  refine ⟨fun out => ?_, segments, hiff, ?_⟩
  · constructor
    · intro h
      rw [hrewrite, h.eq]
    · rintro rfl
      rw [hrewrite, hsegments.rewriteChars_eq]
      exact hsegments.replaced
  · rw [rewrite, hsegments.rewriteChars_eq]

end Quizmark.Cloze
