import Quizmark.Markdown.Conversion
import Quizmark.Markdown.Inline
import Quizmark.Proofs.Text.Substitute

/-!
# Prose

Prose is text without the characters that emphasis, code, links, HTML, references and line ends
need. A backslash is the only character in it that means something. Read as inline text, prose is a
single text: the prose with its escapes resolved.

* `Builder.Writes`: a builder has written a text and nothing else, in any number of tokens.
* `Builder.read_step`, `Builder.writes_read`: reading prose keeps this, step by step, and writes the
  prose without its escapes.
* `inlineElements?_prose`: the elements for prose and the one text that they become.
-/

namespace Quizmark.Markdown

/-- The characters that prose does without. -/
def inlineMarks : List Char := "\n!&*<[_\x60~".toList

/-- A character of prose. -/
def isProseChar (c : Char) : Bool := !inlineMarks.contains c

theorem prose_ne {c mark : Char} (h : isProseChar c = true) (hmark : mark ∈ inlineMarks) :
    c ≠ mark := by
  rintro rfl
  simp [isProseChar, hmark] at h

/-! ## Escapes in prose -/

theorem not_punctuation {c mark : Char} (h : Text.isAsciiPunctuation c = false)
    (hmark : Text.isAsciiPunctuation mark = true) : c ≠ mark := by
  rintro rfl
  rw [h] at hmark
  cases hmark

theorem unescape_of_ne {c : Char} (hamp : c ≠ '&') (hslash : c ≠ '\\') (cs : List Char) :
    unescape (c :: cs) = c :: unescape cs := by
  refine Text.substitute_of_none ?_
  have htarget : targetReference? (c :: cs) = none := by
    unfold targetReference?
    split <;> simp_all
  unfold resolved?
  split
  · simp_all
  · simp_all

theorem unescape_punctuation {c : Char} (h : Text.isAsciiPunctuation c = true) (cs : List Char) :
    unescape ('\\' :: c :: cs) = c :: unescape cs := by
  have hresolved : resolved? ('\\' :: c :: cs) = some ⟨[c], 2⟩ := by simp [resolved?, h]
  rw [unescape, Text.substitute_of_some hresolved Nat.zero_lt_two]
  rfl

theorem unescape_other {c : Char} (h : Text.isAsciiPunctuation c = false) (cs : List Char) :
    unescape ('\\' :: c :: cs) = '\\' :: c :: unescape cs := by
  have hresolved : resolved? ('\\' :: c :: cs) = none := by simp [resolved?, h]
  rw [unescape, Text.substitute_of_none hresolved]
  exact congrArg ('\\' :: ·)
    (unescape_of_ne (not_punctuation h (by decide)) (not_punctuation h (by decide)) cs)

theorem unescape_append {plain : List Char} (h : ∀ c ∈ plain, c ≠ '&' ∧ c ≠ '\\')
    (cs : List Char) : unescape (plain ++ cs) = plain ++ unescape cs := by
  induction plain with
  | nil => rfl
  | cons c plain ih =>
    obtain ⟨⟨hamp, hslash⟩, hplain⟩ := List.forall_mem_cons.mp h
    rw [List.cons_append, unescape_of_ne hamp hslash, ih hplain, List.cons_append]

/-! ## Pieces of prose -/

section Pieces

variable {references : References} {skip : Skip} {cursor : Cursor} {memo : Memo} {c : Char}
  {cs : List Char}

/-- A plain character is read with all plain ones behind it. -/
theorem piece?_plain (hrest : cursor.rest = c :: cs) (h : isPlainChar c = true) :
    piece? references skip cursor memo =
      (some ⟨.plain ((c :: cs).takeWhile isPlainChar), ((c :: cs).takeWhile isPlainChar).length⟩,
        memo) := by
  have hrun : ((c :: cs).takeWhile isPlainChar).isEmpty = false := by
    rw [List.takeWhile_cons, h]
    rfl
  simp [piece?, hrest, hrun]

/-- Any other character of prose can only begin an escape. -/
theorem piece?_mark (hrest : cursor.rest = c :: cs) (hplain : isPlainChar c = false)
    (hprose : isProseChar c = true) :
    piece? references skip cursor memo = (escape? (c :: cs), memo) := by
  have hrun : ((c :: cs).takeWhile isPlainChar).isEmpty = true := by
    rw [List.takeWhile_cons, hplain]
    rfl
  have htick : c ≠ '\x60' := prose_ne hprose (by decide)
  have hbracket : c ≠ '[' := prose_ne hprose (by decide)
  have hbang : c ≠ '!' := prose_ne hprose (by decide)
  have hangle : c ≠ '<' := prose_ne hprose (by decide)
  have hamp : c ≠ '&' := prose_ne hprose (by decide)
  simp [piece?, hrest, hrun, htick, hbracket, hbang, hangle, hamp]

end Pieces

/-! ## What a builder has written -/

/-- The text of a token. -/
def tokenText (token : Token) : List Char := token.head.content.toList

/-- The token is a text. -/
def IsText (token : Token) : Prop :=
  ∃ type ∈ ["text", "text_special"], ∃ cs, token = leafToken type cs

namespace Builder

/-- The builder has written a text and nothing else. -/
structure Writes (builder : Builder) (cs : List Char) : Prop where
  delimiters : builder.delimiters = []
  tokens : ∀ token ∈ builder.tokens, IsText token
  text : builder.tokens.reverse.flatMap tokenText ++ builder.pending.reverse = cs

variable {builder : Builder} {cs : List Char}

theorem Writes.addText (h : builder.Writes cs) (more : List Char) :
    (builder.addText more).Writes (cs ++ more) where
  delimiters := h.delimiters
  tokens := h.tokens
  text := by simp [Builder.addText, ← h.text]

/-- Flushing turns pending text into a token and changes nothing of what is written. -/
theorem Writes.flush (h : builder.Writes cs) :
    builder.flush.Writes cs ∧ builder.flush.pending = [] := by
  unfold Builder.flush
  split
  · next hpending => exact ⟨h, List.isEmpty_iff.mp hpending⟩
  · refine ⟨⟨h.delimiters, ?_, ?_⟩, rfl⟩
    · intro token hmem
      rcases List.mem_cons.mp hmem with rfl | hmem
      · exact ⟨"text", by simp, _, rfl⟩
      · exact h.tokens token hmem
    · simp [tokenText, leafToken, Token.head, ← h.text]

theorem Writes.push {type : String} (htype : type ∈ ["text", "text_special"])
    (h : builder.Writes cs) (more : List Char) :
    (builder.push (leafToken type more)).Writes (cs ++ more) := by
  obtain ⟨hflush, hpending⟩ := h.flush
  refine ⟨hflush.delimiters, ?_, ?_⟩
  · intro token hmem
    rcases List.mem_cons.mp hmem with rfl | hmem
    · exact ⟨type, htype, more, rfl⟩
    · exact hflush.tokens token hmem
  · have htext := hflush.text
    rw [hpending] at htext
    simpa [Builder.push, hpending, tokenText, leafToken, Token.head] using htext

theorem Writes.advance (h : builder.Writes cs) (n : Nat) : (builder.advance n).Writes cs :=
  ⟨h.delimiters, h.tokens, h.text⟩

@[simp] theorem rest_advance (n : Nat) :
    (builder.advance n).cursor.rest = builder.cursor.rest.drop n := rfl

@[simp] theorem cursor_addText : (builder.addText cs).cursor = builder.cursor := rfl

@[simp] theorem cursor_push (token : Token) : (builder.push token).cursor = builder.cursor := by
  unfold Builder.push Builder.flush
  split <;> rfl

/-! ## Reading prose -/

variable {references : References} {skip : Skip} {inside : Cursor → Memo → List Token × Memo}

/-- Prose has no runs of delimiters. -/
theorem pushRun?_prose {c : Char} (h : isProseChar c = true) (count : Nat) (sides : Bool × Bool) :
    builder.pushRun? c count sides = none := by
  have htilde : c ≠ '~' := prose_ne h (by decide)
  have hstar : c ≠ '*' := prose_ne h (by decide)
  have hline : c ≠ '_' := prose_ne h (by decide)
  simp [pushRun?, htilde, hstar, hline]

section Step

variable {next? : Cursor → Memo → Option Found × Memo} {c : Char} {rest : List Char}

theorem read_found {found : Found} (hrest : builder.cursor.rest = c :: rest)
    (hc : isProseChar c = true)
    (hpiece : next? builder.cursor builder.memo = (some found, builder.memo)) (fuel : Nat) :
    read next? inside (fuel + 1) builder =
      read next? inside fuel ((builder.addPiece inside found.piece).advance found.length) := by
  simp only [read, hrest, pushRun?_prose hc, hpiece]

theorem read_none (hrest : builder.cursor.rest = c :: rest) (hc : isProseChar c = true)
    (hpiece : next? builder.cursor builder.memo = (none, builder.memo)) (fuel : Nat) :
    read next? inside (fuel + 1) builder =
      read next? inside fuel ((builder.addText [c]).advance 1) := by
  simp only [read, hrest, pushRun?_prose hc, hpiece]

end Step

/-- One step of reading prose: some characters are taken, and what they are without their escapes is
written. -/
theorem read_step {c : Char} {rest written : List Char} (hrest : builder.cursor.rest = c :: rest)
    (hprose : ∀ d ∈ c :: rest, isProseChar d = true) (h : builder.Writes written) (fuel : Nat) :
    ∃ next n out, read (piece? references skip) inside (fuel + 1) builder =
        read (piece? references skip) inside fuel next ∧
      0 < n ∧ next.cursor.rest = (c :: rest).drop n ∧ next.Writes (written ++ out) ∧
      unescape (c :: rest) = out ++ unescape ((c :: rest).drop n) := by
  obtain ⟨hc, hmore⟩ := List.forall_mem_cons.mp hprose
  have hamp : c ≠ '&' := prose_ne hc (by decide)
  have hfeed : c ≠ '\n' := prose_ne hc (by decide)
  by_cases hplain : isPlainChar c = true
  · -- A run of plain characters is written as it is.
    generalize hrun : (c :: rest).takeWhile isPlainChar = run
    have hpiece : piece? references skip builder.cursor builder.memo =
        (some ⟨.plain run, run.length⟩, builder.memo) := hrun ▸ piece?_plain hrest hplain
    have hpos : 0 < run.length := by
      rw [← hrun, List.takeWhile_cons, if_pos hplain]
      exact Nat.succ_pos _
    have hsplit : run ++ (c :: rest).drop run.length = c :: rest :=
      List.prefix_iff_eq_append.mp (hrun ▸ List.takeWhile_prefix isPlainChar)
    have hordinary : ∀ d ∈ run, d ≠ '&' ∧ d ≠ '\\' := by
      intro d hd
      have hd : isPlainChar d = true := List.all_eq_true.mp (hrun ▸ List.all_takeWhile) d hd
      constructor <;>
      · rintro rfl
        revert hd
        decide
    refine ⟨_, run.length, run, read_found hrest hc hpiece fuel, hpos, ?_,
      (h.addText run).advance _, ?_⟩
    · simp [addPiece, hrest]
    · rw [← unescape_append hordinary, hsplit]
  have hpiece : piece? references skip builder.cursor builder.memo =
      (escape? (c :: rest), builder.memo) :=
    piece?_mark hrest (Bool.not_eq_true _ ▸ hplain) hc
  by_cases hslash : c = '\\'
  · subst hslash
    cases rest with
    | nil =>
      -- A backslash at the end escapes nothing.
      refine ⟨_, 1, ['\\'], read_none hrest hc hpiece fuel, Nat.one_pos, ?_,
        (h.addText _).advance 1, rfl⟩
      simp [hrest]
    | cons d more =>
      have hd : d ≠ '\n' := prose_ne (hmore d List.mem_cons_self) (by decide)
      generalize hout : (if Text.isAsciiPunctuation d then [d] else ['\\', d]) = out
      have hescape : escape? ('\\' :: d :: more) = some ⟨.special out, 2⟩ := by
        simp [escape?, hout]
      rw [hescape] at hpiece
      refine ⟨_, 2, out, read_found hrest hc hpiece fuel, Nat.two_pos, ?_,
        (h.push (by simp) out).advance 2, ?_⟩
      · simp [addPiece, hrest]
      · cases hd : Text.isAsciiPunctuation d with
        | true =>
          rw [unescape_punctuation hd, ← hout, hd]
          rfl
        | false =>
          rw [unescape_other hd, ← hout, hd]
          rfl
  · -- Other marks mean nothing by themselves.
    have hescape : escape? (c :: rest) = none := by
      unfold escape?
      split <;> simp_all
    rw [hescape] at hpiece
    refine ⟨_, 1, [c], read_none hrest hc hpiece fuel, Nat.one_pos, ?_, (h.addText [c]).advance 1,
      unescape_of_ne hamp hslash rest⟩
    simp [hrest]

/-- **Prose is written without its escapes.** -/
theorem writes_read {written : List Char} (fuel : Nat) (hfuel : builder.cursor.rest.length ≤ fuel)
    (hprose : ∀ c ∈ builder.cursor.rest, isProseChar c = true) (h : builder.Writes written) :
    (read (piece? references skip) inside fuel builder).Writes
      (written ++ unescape builder.cursor.rest) := by
  -- Each step uses up a character at least, so the length of what is left bounds the steps.
  induction fuel generalizing builder written with
  | zero =>
    rw [List.length_eq_zero_iff.mp (Nat.le_zero.mp hfuel), unescape, Text.substitute_nil,
      List.append_nil]
    exact h
  | succ fuel ih =>
    cases hrest : builder.cursor.rest with
    | nil =>
      rw [read, hrest, unescape, Text.substitute_nil, List.append_nil]
      exact h
    | cons c rest =>
      rw [hrest] at hprose hfuel
      obtain ⟨next, n, out, hread, hpos, hnext, hwrites, hout⟩ := read_step hrest hprose h fuel
      have hlength : next.cursor.rest.length ≤ fuel := by
        rw [hnext, List.length_drop]
        simp only [List.length_cons] at hfuel ⊢
        omega
      have hmore : ∀ d ∈ next.cursor.rest, isProseChar d = true := by
        rw [hnext]
        exact fun d hd => hprose d (List.mem_of_mem_drop hd)
      rw [hread, hout, ← List.append_assoc, ← hnext]
      exact ih hlength hmore hwrites

/-- Where there are no delimiters, none are resolved. -/
theorem Writes.finish (h : builder.Writes cs) :
    (∀ token ∈ builder.finish, IsText token) ∧ builder.finish.flatMap tokenText = cs := by
  obtain ⟨hflush, hpending⟩ := h.flush
  have hfinish : builder.finish = builder.flush.tokens.reverse := by
    rw [Builder.finish, hflush.delimiters]
    rfl
  rw [hfinish]
  refine ⟨fun token hmem => hflush.tokens token (List.mem_reverse.mp hmem), ?_⟩
  simpa [hpending] using hflush.text

end Builder

/-! ## Prose as nodes -/

/-- Tokens that are elements by themselves become these elements. -/
theorem nest?_leaves {tokens : List Token}
    (h : ∀ token ∈ tokens, ∃ type cs, token = leafToken type cs) (inside : List Element) :
    Element.nest? [] inside tokens =
      some (inside.reverse ++ tokens.map fun token => .mk token.head []) := by
  induction tokens generalizing inside with
  | nil => simp [Element.nest?]
  | cons token rest ih =>
    obtain ⟨⟨type, cs, rfl⟩, hrest⟩ := List.forall_mem_cons.mp h
    simp [Element.nest?, Element.ofToken?, leafToken, Token.nesting, Token.head, ih hrest]

/-- The node for the token of a text. -/
theorem convertInlines_texts {tokens : List Token} (h : ∀ token ∈ tokens, IsText token) :
    convertInlines (tokens.map fun token => .mk token.head []) =
      tokens.map fun token => .ofText .text (String.ofList (tokenText token)) := by
  induction tokens with
  | nil => rfl
  | cons token rest ih =>
    obtain ⟨⟨type, htype, cs, rfl⟩, hrest⟩ := List.forall_mem_cons.mp h
    rw [List.map_cons, convertInlines, ih hrest]
    simp only [List.mem_cons, List.not_mem_nil, or_false] at htype
    rcases htype with rfl | rfl <;>
      simp [convertInline, inlineNode, leafToken, Token.head, tokenText]

/-- Texts side by side become one. -/
theorem mergeTexts_texts {texts : List (List Char)} (h : texts ≠ []) :
    mergeTexts (texts.map fun cs => .ofText .text (String.ofList cs)) =
      [.ofText .text (String.ofList texts.flatten)] := by
  induction texts with
  | nil => exact absurd rfl h
  | cons cs texts ih =>
    cases texts with
    | nil => simp [mergeTexts, Node.ofText]
    | cons next texts =>
      have hmore := ih (by simp)
      rw [List.map_cons, Node.ofText, mergeTexts, hmore]
      simp [Node.ofText, String.ofList_append]

/-- Prose becomes tokens of text alone, and they spell it without its escapes. -/
theorem inlineTokens_prose (references : References) {budget : Nat} (hbudget : 0 < budget)
    {cs : List Char} (hprose : ∀ c ∈ cs, isProseChar c = true) :
    let tokens := (inlineTokens references budget (.start cs) {}).1
    (∀ token ∈ tokens, IsText token) ∧ tokens.flatMap tokenText = unescape cs := by
  obtain ⟨budget, rfl⟩ : ∃ n, budget = n + 1 := ⟨budget - 1, by omega⟩
  have hstart : Builder.Writes { cursor := .start cs } [] := ⟨rfl, by simp, rfl⟩
  exact (Builder.writes_read cs.length (Nat.le_refl _) hprose hstart).finish

/-- **Prose is read as a single text.** -/
theorem inlineElements?_prose (references : References) {cs : List Char}
    (hprose : ∀ c ∈ cs, isProseChar c = true) (hne : unescape cs ≠ []) :
    ∃ elements, inlineElements? references cs = some elements ∧
      inlineNodes elements = [.ofText .text (String.ofList (unescape cs))] := by
  have hnesting : 0 < maxNesting := by decide
  obtain ⟨htexts, hcontent⟩ := inlineTokens_prose references hnesting hprose
  generalize htokens : (inlineTokens references maxNesting (.start cs) {}).1 = tokens at *
  refine ⟨tokens.map fun token => .mk token.head [], ?_, ?_⟩
  · have hread : inlineElements? references cs = Element.ofTokens? tokens := by rw [← htokens]; rfl
    have hleaves : ∀ token ∈ tokens, ∃ type cs, token = leafToken type cs := by
      intro token htoken
      obtain ⟨type, -, cs, rfl⟩ := htexts token htoken
      exact ⟨type, cs, rfl⟩
    rw [hread, Element.ofTokens?, nest?_leaves hleaves]
    rfl
  -- The text is not empty, so there is a token, and all of them are joined to one text.
  · have hsome : tokens.map tokenText ≠ [] := by
      rintro hnone
      rw [List.map_eq_nil_iff.mp hnone] at hcontent
      exact hne hcontent.symm
    have hmerge := mergeTexts_texts hsome
    rw [List.map_map, ← List.flatMap_def, hcontent] at hmerge
    rw [inlineNodes, convertInlines_texts htexts]
    exact hmerge

end Quizmark.Markdown
