import Quizmark.Markdown.Block
import Quizmark.Proofs.Text.Lines

/-!
# Documents of single lines

A source whose lines are set apart by empty ones is read line by line: each line is a block of its
own. If no line begins with a character that could begin another block, the blocks are headings and
paragraphs.

* `ofSource_joined`: the lines of a source that is put together from lines.
* `block_of_starter`: the block that begins at such a line, with nothing in the line behind it.
* `blocks_spaced`: the blocks of the whole source.
-/

namespace Quizmark.Markdown

/-! ## Sources put together from lines -/

/-- Lines with a line feed behind each. -/
def joined (lines : List (List Char)) : List Char := lines.flatMap fun line => line ++ ['\n']

/-- Lines with an empty one between two. -/
def spaced : List (List Char) → List (List Char)
  | [] => []
  | [line] => [line]
  | line :: lines => line :: [] :: spaced lines

/-- A character that may stand in a line. -/
def isLineChar (c : Char) : Bool := c != '\n' && c != '\r' && c.toNat != 0

/-- The lines as they are read. -/
def readLines (isFirst : Bool) : List (List Char) → List Line
  | [] => []
  | line :: lines => Line.ofChars isFirst true line :: readLines false lines

theorem normalizeSource_eq {cs : List Char} (h : ∀ c ∈ cs, c ≠ '\r' ∧ c.toNat ≠ 0) :
    normalizeSource cs = cs := by
  fun_induction normalizeSource cs with
  | case1 => rfl
  | case2 cs ih => exact absurd rfl (h '\r' List.mem_cons_self).1
  | case3 c cs hno ih =>
    obtain ⟨⟨hreturn, hnull⟩, hrest⟩ := List.forall_mem_cons.mp h
    rw [if_neg hreturn, if_neg hnull, ih hrest]

/-- Joined lines come apart again, with an empty one behind the last line end. -/
theorem lines_joined {lines : List (List Char)} (h : ∀ line ∈ lines, '\n' ∉ line) :
    Text.lines (joined lines) = lines ++ [[]] := by
  induction lines with
  | nil => rfl
  | cons line lines ih =>
    obtain ⟨hline, hlines⟩ := List.forall_mem_cons.mp h
    have hsplit : joined (line :: lines) = line ++ '\n' :: joined lines := by simp [joined]
    rw [hsplit, Text.lines_append, Text.lines_of_notMem hline, ih hlines, List.singleton_append,
      List.cons_append]

/-- The reader of lines does not count the empty piece at the end. -/
theorem ofPieces_lines (isFirst : Bool) (lines : List (List Char)) :
    Line.ofPieces isFirst (lines ++ [[]]) = readLines isFirst lines := by
  induction lines generalizing isFirst with
  | nil => rfl
  | cons line lines ih =>
    cases lines with
    | nil => rfl
    | cons next lines =>
      rw [readLines, ← ih]
      rfl

theorem length_readLines (isFirst : Bool) (lines : List (List Char)) :
    (readLines isFirst lines).length = lines.length := by
  induction lines generalizing isFirst with
  | nil => rfl
  | cons line lines ih => rw [readLines, List.length_cons, ih, List.length_cons]

theorem mem_spaced {line : List Char} {lines : List (List Char)} (h : line ∈ spaced lines) :
    line ∈ lines ∨ line = [] := by
  fun_induction spaced lines with
  | case1 => exact .inl h
  | case2 first => exact .inl h
  | case3 first lines hne ih =>
    simp only [List.mem_cons] at h ⊢
    rcases h with rfl | rfl | h
    · exact .inl (.inl rfl)
    · exact .inr rfl
    · exact (ih h).imp_left .inr

theorem length_le_spaced (lines : List (List Char)) : lines.length ≤ (spaced lines).length := by
  fun_induction spaced lines with
  | case1 => exact Nat.le_refl _
  | case2 first => exact Nat.le_refl _
  | case3 first lines hne ih =>
    simp only [List.length_cons]
    omega

/-- The lines of a source that is put together from lines. -/
theorem ofSource_joined {lines : List (List Char)}
    (h : ∀ line ∈ lines, ∀ c ∈ line, isLineChar c = true) :
    Line.ofSource (String.ofList (joined lines)) = readLines true lines := by
  have hline (line : List Char) (hmem : line ∈ lines) (c : Char) (hc : c ∈ line) :
      c ≠ '\n' ∧ c ≠ '\r' ∧ c.toNat ≠ 0 := by
    simpa [isLineChar, and_assoc] using h line hmem c hc
  have hsource : normalizeSource (joined lines) = joined lines := by
    refine normalizeSource_eq fun c hc => ?_
    obtain ⟨line, hmem, hc⟩ := List.mem_flatMap.mp hc
    rcases List.mem_append.mp hc with hc | hc
    · exact (hline line hmem c hc).2
    · obtain rfl := List.mem_singleton.mp hc
      decide
  rw [Line.ofSource, String.toList_ofList, hsource, lines_joined, ofPieces_lines]
  intro line hmem hfeed
  exact (hline line hmem '\n' hfeed).1 rfl

/-! ## Lines that begin headings and paragraphs -/

/-- The characters that may begin a block other than a heading or a paragraph, digits apart. -/
def blockMarks : List Char := "-+*_~:<>[\x60 \t".toList

/-- A character that begins no block but a heading or a paragraph. -/
def isStarter (c : Char) : Bool := !blockMarks.contains c && !Text.isDigit c

theorem starter_ne {c mark : Char} (h : isStarter c = true) (hmark : mark ∈ blockMarks) :
    c ≠ mark := by
  rintro rfl
  simp [isStarter, hmark] at h

/-- A line without indentation that a line feed ends. -/
def Line.atMargin (isFirst : Bool) (cs : List Char) : Line :=
  { source := cs, lead := [], text := cs, indent := 0, isFirst }

/-- A line that begins with such a character stands at the margin. -/
theorem ofChars_of_starter {c : Char} (h : isStarter c = true) (isFirst : Bool) (cs : List Char) :
    Line.ofChars isFirst true (c :: cs) = .atMargin isFirst (c :: cs) := by
  have hspace : c ≠ ' ' := starter_ne h (by decide)
  have htab : c ≠ '\t' := starter_ne h (by decide)
  simp [Line.ofChars, Line.atMargin, skipSpaces, isSpaceOrTab, hspace, htab]

/-- The element of a line that is a block of its own. -/
def lineElement (cs : List Char) : Element :=
  match Heading.ofChars? cs with
  | some heading => headingElement heading.level heading.content
  | none => contentElement { type := "paragraph" } (Text.trim cs)

section Starter

variable {c : Char} {cs : List Char} {isFirst : Bool} {more : List Line}

theorem listMarker_of_starter (h : isStarter c = true) : ListMarker.ofChars? (c :: cs) = none := by
  have hdigit : Text.isDigit c = false := by simp_all [isStarter]
  have hstar : c ≠ '*' := starter_ne h (by decide)
  have hdash : c ≠ '-' := starter_ne h (by decide)
  have hplus : c ≠ '+' := starter_ne h (by decide)
  simp [ListMarker.ofChars?, hdigit, hstar, hdash, hplus]

theorem htmlBlock_of_starter (h : isStarter c = true) : HtmlBlock.ofChars? (c :: cs) = none := by
  have hangle : c ≠ '<' := starter_ne h (by decide)
  have hangle' : '<' ≠ c := hangle.symm
  simp [HtmlBlock.ofChars?, HtmlBlock.ofTag?, hangle, hangle', List.isPrefixOf]

theorem fence_of_starter (h : isStarter c = true) : Fence.ofChars? (c :: cs) = none := by
  have htick : c ≠ '\x60' := starter_ne h (by decide)
  have htilde : c ≠ '~' := starter_ne h (by decide)
  simp [Fence.ofChars?, htick, htilde]

theorem container_of_starter (h : isStarter c = true) : Container.ofChars? (c :: cs) = none := by
  have hcolon : c ≠ ':' := starter_ne h (by decide)
  simp [Container.ofChars?, runLength, hcolon]

theorem isThematicBreak_of_starter (h : isStarter c = true) :
    isThematicBreak (c :: cs) = false := by
  have hstar : c ≠ '*' := starter_ne h (by decide)
  have hdash : c ≠ '-' := starter_ne h (by decide)
  have hline : c ≠ '_' := starter_ne h (by decide)
  simp [isThematicBreak, hstar, hdash, hline]

/-- **A line of its own is a heading or a paragraph**, if it begins with none of the characters that
begin other blocks and no text follows in the next line. -/
theorem block_of_starter (inside insideItem : Inside) (h : isStarter c = true)
    (hmore : ∀ next ∈ more.head?, next.isBlank = true) :
    block inside insideItem {} (.atMargin isFirst (c :: cs)) more =
      ⟨[lineElement (c :: cs)], 1, []⟩ := by
  have hdash : c ≠ '-' := starter_ne h (by decide)
  have hbracket : c ≠ '[' := starter_ne h (by decide)
  have hangle : c ≠ '>' := starter_ne h (by decide)
  generalize hline : Line.atMargin isFirst (c :: cs) = line
  have htext : line.text = c :: cs := by rw [← hline]; rfl
  have hcode : line.isCode 0 = false := by rw [← hline]; rfl
  -- None of the rules that come before a paragraph applies, one after the other.
  have hfront : frontMatter? {} line more = none := by
    have hwidth : frontMatterWidth line = 0 := by
      simp [← hline, frontMatterWidth, Line.atMargin, hdash]
    simp [frontMatter?, hwidth]
  have htable : table? {} line more = none := by
    rw [table?, tableStart?]
    cases hnext : more.head? with
    | none => rfl
    | some next =>
      have hblank : next.text = [] := by simpa [Line.isBlank] using hmore next hnext
      simp [Table.ofLines?, hblank, Table.mayAlign]
  have hindented : code? {} line more = none := by simp [code?, hcode]
  have hcontainer : container? inside {} line more = none := by
    rw [container?, htext, container_of_starter h, Option.map_none]
  have hfence : fence? {} line more = none := by
    rw [fence?, htext, fence_of_starter h, Option.map_none]
  have hquotation : quotation? inside {} line more = none := by
    simp [quotation?, unquote?, htext, hangle]
  have hbreak : thematicBreak? line = none := by
    simp [thematicBreak?, htext, isThematicBreak_of_starter h]
  have hlist : list? insideItem {} line more = none := by
    simp [list?, listStart?, htext, listMarker_of_starter h]
  have hdefinition : definition? {} line more = none := by
    simp [definition?, htext, hbracket]
  have hhtml : html? {} line more = none := by
    rw [html?, htext, htmlBlock_of_starter h, Option.map_none]
  have hunderlined : underlinedHeading? {} line more = none := by
    rw [underlinedHeading?]
    cases more with
    | nil => rfl
    | cons next more => simp [headingReach?, hmore next rfl]
  have hparagraph : paragraph {} line more =
      ⟨[contentElement { type := "paragraph" } (Text.trim (c :: cs))], 1, []⟩ := by
    have hbehind : continuation {} .paragraph more = [] := by
      cases more with
      | nil => rfl
      | cons next more => simp [continuation, hmore next rfl]
    simp [paragraph, hbehind, contentOf, cutLines, Line.cut, cutLead, ← hline, Line.atMargin]
  simp only [block, hfront, htable, hindented, hcontainer, hfence, hquotation, hbreak, hlist,
    hdefinition, hhtml, hunderlined, hparagraph, heading?, htext, lineElement]
  cases Heading.ofChars? (c :: cs) <;> rfl

end Starter

/-! ## Whole sources -/

theorem blocksWith_nil (inside insideItem : Inside) (context : Context) (fuel : Nat)
    (isApart : Bool) : (blocksWith inside insideItem context fuel isApart []).elements = [] := by
  cases fuel <;> rfl

/-- A block of one line, and the blocks behind it and the empty line that may follow. -/
theorem blocksWith_cons {inside insideItem : Inside} {line : Line} {more : List Line}
    {element : Element} (hblank : line.isBlank = false) (hindent : line.indent = 0)
    (hblock : block inside insideItem {} line more = ⟨[element], 1, []⟩) (fuel : Nat)
    (isApart : Bool) :
    let isFollowed := more.head?.any Line.isBlank
    let rest := blocksWith inside insideItem {} fuel (isApart || isFollowed)
      (more.drop isFollowed.toNat)
    (blocksWith inside insideItem {} (fuel + 1) isApart (line :: more)).elements =
      element :: rest.elements := by
  simp [blocksWith, hblank, hindent, hblock]

/-- The line begins with a character that begins a heading or a paragraph. -/
def IsSingle (cs : List Char) : Prop := ∃ c ∈ cs.head?, isStarter c = true

instance (cs : List Char) : Decidable (IsSingle cs) :=
  decidable_of_iff (cs.head?.any isStarter = true) (Option.any_eq_true _ _)

/-- **Lines set apart by empty ones are blocks of their own.** -/
theorem blocksWith_spaced (inside insideItem : Inside) {lines : List (List Char)}
    (h : ∀ line ∈ lines, IsSingle line) (fuel : Nat) (hfuel : lines.length ≤ fuel)
    (isFirst isApart : Bool) :
    (blocksWith inside insideItem {} fuel isApart (readLines isFirst (spaced lines))).elements =
      lines.map lineElement := by
  induction lines generalizing fuel isFirst isApart with
  | nil => exact blocksWith_nil inside insideItem {} fuel isApart
  | cons line lines ih =>
    obtain ⟨hline, hlines⟩ := List.forall_mem_cons.mp h
    obtain ⟨c, hc, hstarter⟩ := hline
    obtain ⟨cs, rfl⟩ : ∃ cs, line = c :: cs := List.head?_eq_some_iff.mp hc
    obtain ⟨fuel, rfl⟩ : ∃ n, fuel = n + 1 := ⟨fuel - 1, by simp at hfuel; omega⟩
    have hblank : (Line.atMargin isFirst (c :: cs)).isBlank = false := rfl
    have hblock (more : List Line) (hmore : ∀ next ∈ more.head?, next.isBlank = true) :
        block inside insideItem {} (.atMargin isFirst (c :: cs)) more =
          ⟨[lineElement (c :: cs)], 1, []⟩ := block_of_starter inside insideItem hstarter hmore
    -- Behind the last line there is nothing, behind any other one an empty line.
    cases lines with
    | nil =>
      have hcons := blocksWith_cons hblank rfl (hblock [] (by simp)) fuel isApart
      have hnil := blocksWith_nil inside insideItem {} fuel isApart
      rw [spaced, readLines, ofChars_of_starter hstarter, readLines]
      simpa [hnil] using hcons
    | cons next lines =>
      have hrest := ih hlines fuel (by simpa using hfuel) false true
      have hempty : Line.isBlank (.ofChars false true []) = true := rfl
      have hcons := blocksWith_cons hblank rfl (hblock (.ofChars false true [] ::
        readLines false (spaced (next :: lines))) (by simp [hempty])) fuel isApart
      rw [spaced, readLines, ofChars_of_starter hstarter, readLines]
      · simpa [hempty, hrest] using hcons
      · simp

/-- The blocks of a whole source. -/
theorem blocks_spaced {lines : List (List Char)} (h : ∀ line ∈ lines, IsSingle line)
    (hchars : ∀ line ∈ lines, ∀ c ∈ line, isLineChar c = true) :
    (blocks maxBlockNesting {} (Line.ofSource (String.ofList (joined (spaced lines))))).elements =
      lines.map lineElement := by
  have hspaced : ∀ line ∈ spaced lines, ∀ c ∈ line, isLineChar c = true := by
    intro line hmem
    rcases mem_spaced hmem with hline | rfl
    · exact hchars line hline
    · simp
  have hfuel : lines.length ≤ (readLines true (spaced lines)).length + 1 := by
    have hlength := length_le_spaced lines
    rw [length_readLines]
    omega
  rw [ofSource_joined hspaced]
  exact blocksWith_spaced _ _ h _ hfuel true false

end Quizmark.Markdown
