import Mathlib.Data.List.TakeWhile
import Quizmark.Proofs.Cloze.Marker

/-!
# Writing cloze texts

An author who wants a text to come out as it is escapes its opening markers. `escape` does so: every
opening marker gets a backslash, from left to right and without overlap. A cloze text is then a
sequence of gaps, each an escaped literal and a blank with an escaped answer, and a last escaped
literal.

* `Settled`: a blank may stand behind a literal. The literal ends neither in a backslash, which
  would escape the blank, nor in an odd number of opening braces, whose last one would be read as
  the first brace of the blank.
* `substitute_escapeChars`: an escaped literal is read back as the literal, and the reading goes on
  behind it, for every pattern that takes escaped markers and nothing else outside of markers.
* `rewrite_authored`: a cloze text comes out as its literals with its answers between them.
-/

namespace Quizmark.Cloze

open Text

/-! ## Escaping -/

/-- A text with a backslash before every opening marker. -/
def escapeChars : List Char → List Char
  | '\x7b' :: '\x7b' :: cs => '\\' :: '\x7b' :: '\x7b' :: escapeChars cs
  | c :: cs => c :: escapeChars cs
  | [] => []

/-- A text with a backslash before every opening marker. -/
def escape (s : String) : String := String.ofList (escapeChars s.toList)

/-- The second case of `escapeChars`: the text begins with no opening marker. -/
theorem not_opening_prefix {c : Char} {cs : List Char}
    (h : ∀ ds, c = '\x7b' → cs = '\x7b' :: ds → False) : ¬ opening <+: c :: cs := by
  rintro ⟨ds, hds⟩
  simp only [opening, List.cons_append, List.nil_append, List.cons.injEq] at hds
  exact h ds hds.1.symm hds.2.symm

theorem escapeChars_cons {c : Char} {cs : List Char} (h : ¬ opening <+: c :: cs) :
    escapeChars (c :: cs) = c :: escapeChars cs := by
  rw [escapeChars]
  rintro ds rfl rfl
  exact h (by simp [opening])

theorem escapeChars_ne_nil {cs : List Char} (h : cs ≠ []) : escapeChars cs ≠ [] := by
  fun_induction escapeChars cs <;> simp_all

/-- Escaping adds backslashes and nothing else. -/
theorem mem_escapeChars {c : Char} (hc : c ≠ '\\') {cs : List Char} :
    c ∈ escapeChars cs ↔ c ∈ cs := by
  fun_induction escapeChars cs <;> simp_all

/-! ## Where a literal ends -/

/-- The number of opening braces at the end of a text. -/
def openRun (cs : List Char) : Nat := (cs.reverse.takeWhile (· == '\x7b')).length

/-- A blank may follow a text: it ends neither in a backslash nor in an odd number of opening
braces. -/
def Settled (cs : List Char) : Prop := cs.getLast? ≠ some '\\' ∧ openRun cs % 2 = 0

instance (cs : List Char) : Decidable (Settled cs) :=
  inferInstanceAs (Decidable (cs.getLast? ≠ some '\\' ∧ openRun cs % 2 = 0))

theorem openRun_cons (c : Char) (cs : List Char) :
    openRun (c :: cs) =
      if cs.all (· == '\x7b') then openRun cs + (if c = '\x7b' then 1 else 0) else openRun cs := by
  unfold openRun
  rw [List.reverse_cons]
  split
  · rename_i hall
    have hpos : ∀ d ∈ cs.reverse, (d == '\x7b') = true := by simpa using hall
    rw [List.takeWhile_append_of_pos hpos, List.takeWhile_eq_self_iff.mpr hpos,
      List.length_append]
    split <;> simp_all
  · rename_i hall
    rw [List.takeWhile_append]
    split
    · rename_i hlen
      have hprefix : cs.reverse.takeWhile (· == '\x7b') <+: cs.reverse := List.takeWhile_prefix _
      have heq := hprefix.eq_of_length hlen
      rw [List.takeWhile_eq_self_iff] at heq
      exact absurd (by simpa using heq) hall
    · rfl

/-- A text that may stand in front of a blank still may without its first character, unless that
begins a marker. -/
theorem Settled.tail {c : Char} {cs : List Char} (h : Settled (c :: cs))
    (hopen : ¬ opening <+: c :: cs) : Settled cs := by
  cases cs with
  | nil => decide
  | cons d ds =>
    refine ⟨by simpa using h.1, ?_⟩
    have hrun := h.2
    rw [openRun_cons] at hrun
    split at hrun
    · rename_i hall
      have hd : d = '\x7b' := by simp_all
      have hc : c ≠ '\x7b' := by
        rintro rfl
        exact hopen (by simp [opening, hd])
      simpa [hc] using hrun
    · exact hrun

theorem Settled.drop_opening {cs : List Char} (h : Settled (opening ++ cs)) : Settled cs := by
  cases cs with
  | nil => decide
  | cons d ds =>
    refine ⟨by simpa [opening] using h.1, ?_⟩
    have hrun : openRun ('\x7b' :: '\x7b' :: d :: ds) % 2 = 0 := h.2
    have hall : ('\x7b' :: d :: ds).all (· == '\x7b') = (d :: ds).all (· == '\x7b') := rfl
    rw [openRun_cons, openRun_cons, hall, if_pos rfl] at hrun
    split at hrun
    · omega
    · exact hrun

/-! ## Reading an escaped literal back -/

/-- An escaped text begins with an opening brace only if the text begins with a single one, or is
empty and the brace stands behind it. -/
theorem openBrace_prefix_cases {cs rest : List Char} (h : ['\x7b'] <+: escapeChars cs ++ rest) :
    (∃ ds, cs = '\x7b' :: ds ∧ ¬ opening <+: cs) ∨ (cs = [] ∧ ['\x7b'] <+: rest) := by
  fun_cases escapeChars cs with
  | case1 cs => simp [escapeChars] at h
  | case2 c cs hopen =>
    have hno := not_opening_prefix hopen
    rw [escapeChars_cons hno] at h
    simp only [List.cons_append, List.cons_prefix_cons] at h
    exact .inl ⟨cs, by rw [h.1], hno⟩
  | case3 => exact .inr ⟨rfl, by simpa [escapeChars] using h⟩

/-- What follows a literal does not complete a marker that the literal begins. -/
def Borders (cs rest : List Char) : Prop := Settled cs ∨ ¬ ['\x7b'] <+: rest

/-- No marker begins where the escaped text has a character that was not escaped, not even one that
reaches into what follows. -/
theorem not_marks_escapeChars {c : Char} {cs rest : List Char} (hopen : ¬ opening <+: c :: cs)
    (hb : Borders (c :: cs) rest) : ¬ Marks (c :: (escapeChars cs ++ rest)) := by
  rintro (hm | hm)
  · -- A backslash: the escaped text behind it would begin with two opening braces.
    simp only [opening, List.cons_prefix_cons] at hm
    obtain ⟨rfl, hm⟩ := hm
    have hone : ['\x7b'] <+: escapeChars cs ++ rest := List.IsPrefix.trans (by simp) hm
    rcases openBrace_prefix_cases hone with ⟨ds, rfl, hno⟩ | ⟨rfl, hrest⟩
    · rw [escapeChars_cons hno, List.cons_append, List.cons_prefix_cons] at hm
      rcases openBrace_prefix_cases hm.2 with ⟨es, rfl, -⟩ | ⟨rfl, hrest⟩
      · exact hno (by simp [opening])
      · exact hb.elim (by decide) (absurd hrest)
    · exact hb.elim (by decide) (absurd hrest)
  · -- An opening brace: the escaped text behind it would begin with another one.
    simp only [opening, List.cons_prefix_cons] at hm
    obtain ⟨rfl, hm⟩ := hm
    rcases openBrace_prefix_cases hm with ⟨ds, rfl, -⟩ | ⟨rfl, hrest⟩
    · exact hopen (by simp [opening])
    · exact hb.elim (by decide) (absurd hrest)

/-- A substitution that turns an escape into an opening, and knows nothing else but openings, undoes
the escaping and goes on behind it. -/
theorem substitute_escapeChars {pattern? : List Char → Option Match}
    (hesc : ∀ cs, pattern? ('\\' :: opening ++ cs) = some ⟨opening, 3⟩)
    (hnone : ∀ cs, ¬ Marks cs → pattern? cs = none) (cs : List Char) {rest : List Char}
    (hb : Borders cs rest) :
    substitute pattern? (escapeChars cs ++ rest) = cs ++ substitute pattern? rest := by
  fun_induction escapeChars cs with
  | case1 cs ih =>
    have hb' : Borders cs rest := hb.imp_left Settled.drop_opening
    have hstep : substitute pattern? ('\\' :: opening ++ (escapeChars cs ++ rest)) =
        opening ++ substitute pattern? (escapeChars cs ++ rest) :=
      substitute_append (by simp) (hesc _)
    rw [ih hb'] at hstep
    exact hstep
  | case2 c cs hcase ih =>
    have hopen := not_opening_prefix hcase
    have hb' : Borders cs rest := hb.imp_left (Settled.tail · hopen)
    rw [List.cons_append, substitute_of_none (hnone _ (not_marks_escapeChars hopen hb)), ih hb',
      List.cons_append]
  | case3 => rfl

/-- The rewriter takes escaped text back to the text that was escaped. -/
theorem rewriteChars_escapeChars {cs rest : List Char} (hb : Borders cs rest) :
    rewriteChars (escapeChars cs ++ rest) = cs ++ rewriteChars rest :=
  substitute_escapeChars marker?_escaped (fun _ => marker?_eq_none) cs hb

theorem unescape_escapeChars (cs : List Char) : unescape (escapeChars cs) = cs := by
  have hb : Borders cs [] := .inr (by simp)
  have h := substitute_escapeChars escape?_escaped (fun _ => escape?_eq_none) cs hb
  simpa [unescape] using h

/-! ## Gaps -/

/-- A blank of a cloze text with the literal before it. -/
structure Gap where
  literal : String
  answer : String
  deriving DecidableEq

/-- A gap can be written: its answer is not empty and holds no closing brace, and its literal lets a
blank follow. -/
structure Gap.Writable (gap : Gap) : Prop where
  answer_ne : gap.answer ≠ ""
  answer_open : '\x7d' ∉ gap.answer.toList
  settled : Settled gap.literal.toList

instance (gap : Gap) : Decidable gap.Writable :=
  decidable_of_iff (gap.answer ≠ "" ∧ '\x7d' ∉ gap.answer.toList ∧ Settled gap.literal.toList)
    ⟨fun ⟨h₁, h₂, h₃⟩ => ⟨h₁, h₂, h₃⟩, fun ⟨h₁, h₂, h₃⟩ => ⟨h₁, h₂, h₃⟩⟩

/-- The text that an author writes for gaps and the literal behind them. -/
def authored (gaps : List Gap) (last : String) : String :=
  gaps.foldr (fun gap text =>
    escape gap.literal ++ "\x7b\x7b" ++ escape gap.answer ++ "\x7d\x7d" ++ text) (escape last)

/-- The text that a reader gets for gaps and the literal behind them. -/
def rendered (gaps : List Gap) (last : String) : String :=
  gaps.foldr (fun gap text => gap.literal ++ "$\x7b" ++ gap.answer ++ "\x7d" ++ text) last

/-- A blank with an escaped answer becomes the answer in its braces. -/
theorem rewriteChars_blank {answer : List Char} (hne : answer ≠ []) (hbrace : '\x7d' ∉ answer)
    (rest : List Char) :
    rewriteChars (opening ++ escapeChars answer ++ closing ++ rest) =
      ['$', '\x7b'] ++ answer ++ ['\x7d'] ++ rewriteChars rest := by
  have hblank := blank?_eq_some (escapeChars_ne_nil hne)
    (fun h => hbrace ((mem_escapeChars (by decide)).mp h)) rest
  rw [unescape_escapeChars] at hblank
  have hmatch : marker? (opening ++ escapeChars answer ++ closing ++ rest) =
      some ⟨['$', '\x7b'] ++ answer ++ ['\x7d'],
        (opening ++ escapeChars answer ++ closing).length⟩ := by
    rw [marker?, hblank]
    simp [escape?, opening, closing]
  exact substitute_append (by simp [opening]) hmatch

/-- The induction behind the round trip, on the gaps: the text in front of a gap, then its blank,
then the rest. -/
theorem rewriteChars_authored {gaps : List Gap} (last : String)
    (hw : ∀ gap ∈ gaps, gap.Writable) :
    rewriteChars (authored gaps last).toList = (rendered gaps last).toList := by
  induction gaps with
  | nil =>
    have hb : Borders last.toList [] := .inr (by simp)
    have h := rewriteChars_escapeChars hb
    simpa [authored, rendered, escape, rewriteChars] using h
  | cons gap gaps ih =>
    have hgap := hw gap (List.mem_cons_self ..)
    have ih := ih fun g hg => hw g (List.mem_cons_of_mem _ hg)
    have hblank := rewriteChars_blank (by simpa using hgap.answer_ne) hgap.answer_open
      (authored gaps last).toList
    -- The blank of the gap is what follows its literal, so the literal may be rewritten by itself.
    have hb : Borders gap.literal.toList (opening ++ escapeChars gap.answer.toList ++ closing ++
        (authored gaps last).toList) := .inl hgap.settled
    have hliteral := rewriteChars_escapeChars hb
    rw [hblank, ih] at hliteral
    simpa [authored, rendered, escape, opening, closing] using hliteral

/-- **A cloze text comes out as it was meant.** Escaped literals come out as the literals and blanks
with escaped answers as the answers; in particular a text that is only escaped comes out
unchanged. -/
theorem rewrite_authored {gaps : List Gap} (last : String) (hw : ∀ gap ∈ gaps, gap.Writable) :
    rewrite (authored gaps last) = rendered gaps last ∧ ∀ s, rewrite (escape s) = s := by
  refine ⟨?_, fun s => ?_⟩
  · rw [rewrite, rewriteChars_authored last hw, String.ofList_toList]
  · have h := @rewriteChars_authored [] s (by simp)
    simp only [authored, rendered, List.foldr_nil] at h
    rw [rewrite, h, String.ofList_toList]

/-- Braces and backslashes on both sides of the markers: a literal that ends in two opening braces,
an answer with a backslash before three of them, and a literal that begins with a closing brace. -/
theorem rewrite_authored_braces :
    (∀ gap ∈ [Gap.mk "a\x7b\x7b" "\\\x7b\x7b\x7b", ⟨"\x7d", "b\\"⟩], gap.Writable) ∧
      rewrite "a\\\x7b\x7b\x7b\x7b\\\\\x7b\x7b\x7b\x7d\x7d\x7d\x7b\x7bb\\\x7d\x7d\x7b" =
        "a\x7b\x7b$\x7b\\\x7b\x7b\x7b\x7d\x7d$\x7bb\\\x7d\x7b" := by
  have hw : ∀ gap ∈ [Gap.mk "a\x7b\x7b" "\\\x7b\x7b\x7b", ⟨"\x7d", "b\\"⟩], gap.Writable := by
    decide
  exact ⟨hw, (rewrite_authored "\x7b" hw).1⟩

end Quizmark.Cloze
