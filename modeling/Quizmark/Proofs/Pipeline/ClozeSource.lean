import Quizmark.Proofs.Markdown.Document
import Quizmark.Proofs.Pipeline.Commute
import Quizmark.Proofs.Text.Blank

/-!
# Cloze markers in Markdown source

Markdown resolves the escapes of a text before the markers in it are looked for, so a backslash in
the source never reaches the markers.

* `process_clozeDocument`: a question of the type `cloze` whose prompt is one text becomes an
  exercise with the markers of that text replaced.
* `IsPrompt`: a line of letters, spaces, backslashes and braces.
* `process_clozeSource`: the source of a question with such a line as its prompt, from Markdown to
  the exercise.
-/

namespace Quizmark

open Markdown

/-! ## A question with one line -/

/-- A paragraph with one text. -/
def textParagraph (text : String) : Node := .ofKind .paragraph [.ofText .text text]

/-- The document of a question of the type `cloze` whose prompt is one text. -/
def clozeDocument (prompt : String) : Root where
  children := [.ofTitle 1 "T", .ofTitle 2 "Type", textParagraph "cloze", .ofTitle 2 "Prompt",
    textParagraph prompt]

section Document

variable {options : QuestionOptions} {path : String} (prompt : String)

theorem lastUnder_clozeDocument (title : String) :
    Section.lastUnder title (clozeDocument prompt).children =
      if title = "Prompt" then some [textParagraph prompt]
      else if title = "Type" then some [textParagraph "cloze"] else none := by
  have htop : Section.isOpening (.ofTitle 1 "T") = false := rfl
  have htype : Section.isOpening (.ofTitle 2 "Type") = true := rfl
  have hprompt : Section.isOpening (.ofTitle 2 "Prompt") = true := rfl
  have hparagraph (text : String) : Section.isOpening (textParagraph text) = false := rfl
  have htypeTitle : (Node.ofTitle 2 "Type").title = "Type" := by decide
  have hpromptTitle : (Node.ofTitle 2 "Prompt").title = "Prompt" := by decide
  simp only [clozeDocument, Section.lastUnder, htop, htype, hprompt, hparagraph, htypeTitle,
    hpromptTitle, List.takeWhile, Bool.false_and, Bool.true_and, Bool.not_true, Bool.not_false,
    beq_iff_eq, Bool.false_eq_true, if_false, Option.none_or, eq_comm (a := title)]
  by_cases hfirst : "Prompt" = title
  · simp [hfirst]
  · by_cases hsecond : "Type" = title <;> simp [hfirst, hsecond]

theorem under_clozeDocument (title : String) :
    (clozeDocument prompt).under title =
      if title = "Prompt" then [textParagraph prompt]
      else if title = "Type" then [textParagraph "cloze"] else [] := by
  rw [Root.under, lastUnder_clozeDocument]
  split
  · rfl
  · split <;> rfl

theorem flaw?_clozeDocument : (clozeDocument prompt).flaw? = none := by
  have hfrontmatter : (clozeDocument prompt).has .frontmatter = false := rfl
  have htitle : (clozeDocument prompt).has .missingTitle = false := rfl
  have hempty : (clozeDocument prompt).has .emptyTitle = false := by
    have hfull : (Node.ofTitle 1 "T").title.isEmpty = false := by decide
    exact hfull
  have htype : (clozeDocument prompt).has .missingType = false := by
    have hfull : Text.allBlank (nodesText [textParagraph "cloze"]).toList = false := by decide
    simp [Root.has, lastUnder_clozeDocument, hfull]
  have hprompt : (clozeDocument prompt).has .missingPrompt = false := by
    rw [Root.has, lastUnder_clozeDocument]
    rfl
  simp [Root.flaw?, Flaw.checks, hfrontmatter, htitle, hempty, htype, hprompt]

/-- The parts of a question whose prompt is one text. -/
def clozeParts (options : QuestionOptions) (path prompt : String) : QuestionSpec where
  path := DocPath.normalize path
  title := some "T"
  isCloze := true
  idPrefix := DocPath.idPrefix path options.specSuffix
  prompt := [textParagraph prompt]

theorem written_clozeDocument :
    QuestionSpec.written options path (clozeDocument prompt) =
      .ok (clozeParts options path prompt) := by
  have hscoring : Section.scoring ((clozeDocument prompt).under "Scoring") = .ok [] := by
    rw [under_clozeDocument]
    rfl
  have htitle : (Node.ofTitle 1 "T").title = "T" := by decide
  have hhead : (clozeDocument prompt).children.head? = some (.ofTitle 1 "T") := rfl
  have htype : QuestionSpec.isClozeType
      (Text.trimmed (nodesText [textParagraph "cloze"])) = true := by decide +kernel
  have hcloze : (clozeDocument prompt).isCloze = true := by
    simpa [Root.isCloze, under_clozeDocument] using htype
  have hrest : Section.restNodes options.examMarkers [textParagraph prompt] =
      [textParagraph prompt] := rfl
  have htip : Section.tipNodes options.examMarkers [textParagraph prompt] = [] := rfl
  rw [QuestionSpec.written_eq, flaw?_clozeDocument, hscoring]
  simp [Except.map, Root.parts, clozeParts, hcloze, hhead, htitle, under_clozeDocument, hrest, htip]

/-- The passes over the parts: the markers are replaced, and there is no heading for an id. -/
theorem passed_clozeParts (shares : Bool) :
    (clozeParts options path prompt).passed shares =
      .ok (clozeParts options path (Cloze.rewrite prompt)) := by
  cases shares <;> rfl

/-- The document with the exercise for a question whose prompt is one text. -/
def clozeExercise (prompt : String) : Root where
  children := [.ofElement "Exercise" [⟨"title", some "T", []⟩, ⟨"enableBlanks", none, []⟩]
    [textParagraph prompt, .ofElement "Solution" [] []]]

/-- Compiling rewrites the cloze markers of the prompt, and there is no heading to get an id. -/
theorem compile_clozeDocument (hadmits : options.admits path = true) :
    (clozeDocument prompt).compile options path = .ok (clozeExercise (Cloze.rewrite prompt)) := by
  unfold Root.compile Root.compile?
  rw [if_pos hadmits, QuestionSpec.ofRoot_eq, written_clozeDocument]
  simp only [bind, Except.bind, passed_clozeParts]
  rfl

theorem process_clozeDocument {pipeline : PipelineOptions}
    (hadmits : pipeline.question.admits path = true) :
    (clozeDocument prompt).process pipeline path =
      .ok (clozeExercise (Cloze.rewrite prompt)) := by
  obtain ⟨rewrites, options⟩ := pipeline
  cases rewrites with
  | false => rw [Root.process_eq_compile, compile_clozeDocument prompt hadmits]
  | true =>
    have hrewrite : (clozeDocument prompt).rewriteAdmonitions = .ok (clozeDocument prompt) := rfl
    rw [Root.process_eq, hrewrite]
    exact compile_clozeDocument prompt hadmits

end Document

/-! ## The source of a question -/

/-- The source of a question of the type `cloze` whose prompt is one line. -/
def clozeSource (prompt : String) : String :=
  "# T\n\n## Type\n\ncloze\n\n## Prompt\n\n" ++ prompt ++ "\n"

/-- The lines of the source of a question. -/
def clozeLines (prompt : List Char) : List (List Char) :=
  ["# T".toList, "## Type".toList, "cloze".toList, "## Prompt".toList, prompt]

/-- A source with a line behind some fixed ones. -/
theorem source_eq {a b c d fixed : String}
    (h : joined [a.toList, [], b.toList, [], c.toList, [], d.toList, []] = fixed.toList)
    (line : String) :
    fixed ++ line ++ "\n" = String.ofList
      (joined (spaced [a.toList, b.toList, c.toList, d.toList, line.toList])) := by
  have hlines : joined (spaced [a.toList, b.toList, c.toList, d.toList, line.toList]) =
      joined [a.toList, [], b.toList, [], c.toList, [], d.toList, []] ++
        (line.toList ++ ['\n']) := by
    simp only [spaced, joined, List.flatMap_cons, List.flatMap_nil, List.append_assoc,
      List.append_nil]
  have hfeed : "\n" = String.ofList ['\n'] := rfl
  rw [hlines, h, String.ofList_append, String.ofList_append, String.ofList_toList,
    String.ofList_toList, hfeed, String.append_assoc]

theorem clozeSource_eq (prompt : String) :
    clozeSource prompt = String.ofList (joined (spaced (clozeLines prompt.toList))) :=
  source_eq (by decide) prompt

/-! ## Prompts of letters, spaces, backslashes and braces -/

/-- The characters of a prompt beside letters. -/
def promptSigns : List Char := [' ', '\\', '\x7b', '\x7d']

/-- A line of ASCII letters, spaces, backslashes and braces with a letter at both ends. -/
structure IsPrompt (prompt : List Char) : Prop where
  chars : ∀ c ∈ prompt, HtmlTag.isLetter c = true ∨ c ∈ promptSigns
  first : ∃ c ∈ prompt.head?, HtmlTag.isLetter c = true
  last : ∃ c ∈ prompt.getLast?, HtmlTag.isLetter c = true

section Letters

variable {c : Char} (h : HtmlTag.isLetter c = true)
include h

theorem letter_bounds : 65 ≤ c.toNat ∧ c.toNat ≤ 122 := by
  simp only [HtmlTag.isLetter, Bool.or_eq_true, Bool.and_eq_true, decide_eq_true_eq, Char.le_def,
    UInt32.le_iff_toNat_le] at h
  have hvalue : c.val.toNat = c.toNat := rfl
  rcases h with ⟨hlow, hhigh⟩ | ⟨hlow, hhigh⟩
  · have hlow : 97 ≤ c.val.toNat := hlow
    have hhigh : c.val.toNat ≤ 122 := hhigh
    omega
  · have hlow : 65 ≤ c.val.toNat := hlow
    have hhigh : c.val.toNat ≤ 90 := hhigh
    omega

theorem letter_notMem {marks : List Char} (hmarks : marks.any HtmlTag.isLetter = false) :
    c ∉ marks := by
  intro hmem
  have hsome : marks.any HtmlTag.isLetter = true := List.any_eq_true.mpr ⟨c, hmem, h⟩
  rw [hmarks] at hsome
  cases hsome

theorem isDigit_letter : Text.isDigit c = false := by
  have hbounds := letter_bounds h
  rw [Text.isDigit, Bool.and_eq_false_iff, decide_eq_false_iff_not, decide_eq_false_iff_not,
    Char.le_def, Char.le_def, UInt32.le_iff_toNat_le, UInt32.le_iff_toNat_le]
  change ¬ 48 ≤ c.toNat ∨ ¬ c.toNat ≤ 57
  omega

theorem isBlank_letter : Text.isBlank c = false := by
  have hbounds := letter_bounds h
  simp only [Text.isBlank, Bool.or_eq_false_iff, Bool.and_eq_false_iff, decide_eq_false_iff_not,
    beq_eq_false_iff_ne]
  omega

theorem isStarter_letter : isStarter c = true := by
  have hmarks : c ∉ blockMarks := letter_notMem h (by decide)
  simp [isStarter, hmarks, isDigit_letter h]

end Letters

theorem IsPrompt.isLineChar {prompt : List Char} (h : IsPrompt prompt) :
    ∀ c ∈ prompt, isLineChar c = true := by
  intro c hc
  rcases h.chars c hc with hletter | hsign
  · have hbounds := letter_bounds hletter
    have hends : c ∉ ['\n', '\r'] := letter_notMem hletter (by decide)
    simp only [List.mem_cons, List.not_mem_nil, or_false, not_or] at hends
    have hnull : c.toNat ≠ 0 := by omega
    simp [Markdown.isLineChar, hends, hnull]
  · have hsigns : promptSigns.all Markdown.isLineChar = true := by decide
    exact List.all_eq_true.mp hsigns c hsign

/-- A prompt is prose: it begins with a letter and has no marks in it. -/
theorem IsPrompt.isProseChar {prompt : List Char} (h : IsPrompt prompt) :
    ∀ c ∈ prompt, isProseChar c = true := by
  intro c hc
  rcases h.chars c hc with hletter | hsign
  · have hmarks : c ∉ inlineMarks := letter_notMem hletter (by decide)
    simp [Markdown.isProseChar, hmarks]
  · have hsigns : promptSigns.all Markdown.isProseChar = true := by decide
    exact List.all_eq_true.mp hsigns c hsign

/-- A line with a letter at both ends is no heading, and there is nothing to trim. -/
theorem IsPrompt.heading {prompt : List Char} (h : IsPrompt prompt) :
    Heading.ofChars? prompt = none := by
  obtain ⟨c, hc, hletter⟩ := h.first
  obtain ⟨cs, rfl⟩ : ∃ cs, prompt = c :: cs := List.head?_eq_some_iff.mp hc
  have hsign : c ∉ ['#'] := letter_notMem hletter (by decide)
  simp only [List.mem_singleton] at hsign
  simp [Heading.ofChars?, runLength, hsign]

theorem IsPrompt.trim {prompt : List Char} (h : IsPrompt prompt) : Text.trim prompt = prompt := by
  obtain ⟨first, hfirst, hfirstLetter⟩ := h.first
  obtain ⟨last, hlast, hlastLetter⟩ := h.last
  refine Text.trim_eq_self (fun c hc => ?_) (fun c hc => ?_)
  · rw [Option.mem_unique hc hfirst]
    exact isBlank_letter hfirstLetter
  · rw [Option.mem_unique hc hlast]
    exact isBlank_letter hlastLetter

theorem IsPrompt.content {prompt : List Char} (h : IsPrompt prompt) :
    lineContent prompt = prompt := by
  rw [lineContent, h.heading]
  exact h.trim

theorem IsPrompt.isProseLine {prompt : List Char} (h : IsPrompt prompt) : IsProseLine prompt := by
  obtain ⟨c, hc, hletter⟩ := h.first
  refine ⟨⟨c, hc, isStarter_letter hletter⟩, h.isLineChar, ?_, ?_⟩
  · rw [h.content]
    exact h.isProseChar
  · rw [h.content]
    obtain ⟨cs, rfl⟩ : ∃ cs, prompt = c :: cs := List.head?_eq_some_iff.mp hc
    have hmarks : c ∉ ['&', '\\'] := letter_notMem hletter (by decide)
    simp only [List.mem_cons, List.not_mem_nil, or_false, not_or] at hmarks
    rw [unescape_of_ne hmarks.1 hmarks.2]
    exact List.cons_ne_nil _ _

theorem IsPrompt.lineNode {prompt : List Char} (h : IsPrompt prompt) :
    lineNode prompt = textParagraph (String.ofList (unescape prompt)) := by
  rw [Markdown.lineNode, h.content, h.heading]
  rfl

theorem lines_clozeSource {prompt : List Char} (h : IsPrompt prompt) :
    ∀ line ∈ clozeLines prompt, IsProseLine line := by
  have hfixed : ∀ line ∈ ["# T".toList, "## Type".toList, "cloze".toList, "## Prompt".toList],
      IsProseLine line := by decide +kernel
  intro line hmem
  rcases List.mem_append.mp (show line ∈ ["# T".toList, "## Type".toList, "cloze".toList,
    "## Prompt".toList] ++ [prompt] from hmem) with hmem | hmem
  · exact hfixed line hmem
  · rw [List.mem_singleton.mp hmem]
    exact h.isProseLine

/-- From the source to the exercise: the parser drops the escapes, the compiler rewrites what is
left. -/
theorem process_prompt {prompt : String} {pipeline : PipelineOptions} {path : String}
    (h : IsPrompt prompt.toList) (hadmits : pipeline.question.admits path = true) :
    (parse (clozeSource prompt) >>= Root.process pipeline path) =
      .ok (clozeExercise (Cloze.rewrite (String.ofList (unescape prompt.toList)))) := by
  have htitle : lineNode "# T".toList = .ofTitle 1 "T" := rfl
  have htype : lineNode "## Type".toList = .ofTitle 2 "Type" := rfl
  have hcloze : lineNode "cloze".toList = textParagraph "cloze" := rfl
  have hprompt : lineNode "## Prompt".toList = .ofTitle 2 "Prompt" := rfl
  have hlines : (clozeLines prompt.toList).map lineNode =
      (clozeDocument (String.ofList (unescape prompt.toList))).children := by
    simp only [clozeLines, clozeDocument, List.map_cons, List.map_nil, htitle, htype, hcloze,
      hprompt, h.lineNode]
  rw [clozeSource_eq, parse_prose (lines_clozeSource h), hlines]
  exact process_clozeDocument _ hadmits

theorem IsPrompt.unescape_eq {prompt : List Char} (h : IsPrompt prompt) (hslash : '\\' ∉ prompt) :
    unescape prompt = prompt := by
  have hplain : ∀ c ∈ prompt, c ≠ '&' ∧ c ≠ '\\' := by
    intro c hc
    have hamp : c ≠ '&' := prose_ne (h.isProseChar c hc) (by decide)
    exact ⟨hamp, fun hsign => hslash (hsign ▸ hc)⟩
  simpa [unescape] using unescape_append hplain []

/-- **A prompt in Markdown source loses its escapes before its markers are looked for.** So a
backslash does not keep a marker from being replaced. Without backslashes the markers are replaced
as they are written. -/
theorem process_clozeSource {prompt : String} {pipeline : PipelineOptions} {path : String}
    (h : IsPrompt prompt.toList) (hadmits : pipeline.question.admits path = true) :
    (parse (clozeSource prompt) >>= Root.process pipeline path) =
        .ok (clozeExercise (Cloze.rewrite (String.ofList (unescape prompt.toList)))) ∧
      ('\\' ∉ prompt.toList →
        (parse (clozeSource prompt) >>= Root.process pipeline path) =
          .ok (clozeExercise (Cloze.rewrite prompt))) := by
  have hresult := process_prompt h hadmits
  refine ⟨hresult, fun hslash => ?_⟩
  rw [hresult, h.unescape_eq hslash, String.ofList_toList]

/-- A prompt with a marker that is meant to stay as it is. -/
def escapedPrompt : String := "a \\\x7b\x7bb\x7d\x7d c"

theorem isPrompt_escaped : IsPrompt escapedPrompt.toList where
  chars := by
    have hchars : escapedPrompt.toList.all
        (fun c => HtmlTag.isLetter c || promptSigns.contains c) = true := by decide
    simpa using hchars
  first := ⟨'a', rfl, by decide⟩
  last := ⟨'c', rfl, by decide⟩

theorem process_clozeSource_escaped :
    (parse (clozeSource escapedPrompt) >>= Root.process {} "moon.qspec.md") =
        .ok (clozeExercise (Cloze.rewrite (String.ofList (unescape escapedPrompt.toList)))) ∧
      ('\\' ∉ escapedPrompt.toList →
        (parse (clozeSource escapedPrompt) >>= Root.process {} "moon.qspec.md") =
          .ok (clozeExercise (Cloze.rewrite escapedPrompt))) :=
  process_clozeSource isPrompt_escaped (by decide)

/-- The marker is replaced in the document, but not in the prompt as it is written. -/
theorem escaped_marker_is_replaced :
    ∃ exercise paragraph rest,
      (parse (clozeSource escapedPrompt) >>= Root.process {} "moon.qspec.md") =
        .ok { children := [exercise] } ∧
      exercise.children = paragraph :: rest ∧ paragraph.text = "a $\x7bb\x7d c" ∧
      Cloze.rewrite escapedPrompt = "a \x7b\x7bb\x7d\x7d c" := by
  have hadmits : ({} : PipelineOptions).question.admits "moon.qspec.md" = true := by decide
  refine ⟨_, _, _, process_prompt isPrompt_escaped hadmits, rfl, ?_, by decide⟩
  decide

end Quizmark
