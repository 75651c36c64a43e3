import Quizmark.Markdown.Document
import Quizmark.Proofs.Markdown.Lines
import Quizmark.Proofs.Markdown.Prose
import Quizmark.Proofs.Node.Forest

/-!
# Documents of prose

A source of single lines of prose, set apart by empty lines, is a document of headings and
paragraphs. Each holds one text, the line without its escapes.

* `blockNode_line`: the element that a line is read as, and the node that the element becomes.
* `parse_prose`: the whole document.
-/

namespace Quizmark.Markdown

/-! ## The content of one line -/

/-- What a line says beside the number signs of a heading. -/
def lineContent (cs : List Char) : List Char :=
  match Heading.ofChars? cs with
  | some heading => heading.content
  | none => Text.trim cs

/-- The node for a line: a heading or a paragraph with one text. -/
def lineNode (cs : List Char) : Node :=
  let text := String.ofList (unescape (lineContent cs))
  match Heading.ofChars? cs with
  | some heading => .ofTitle heading.level text
  | none => .ofKind .paragraph [.ofText .text text]

/-- The line begins a heading or a paragraph of its own, and what it says is prose. -/
structure IsProseLine (cs : List Char) : Prop where
  single : IsSingle cs
  chars : ∀ c ∈ cs, isLineChar c = true
  prose : ∀ c ∈ lineContent cs, isProseChar c = true
  visible : unescape (lineContent cs) ≠ []

instance (cs : List Char) : Decidable (IsProseLine cs) :=
  decidable_of_iff (IsSingle cs ∧ cs.all isLineChar = true ∧
      (lineContent cs).all isProseChar = true ∧ unescape (lineContent cs) ≠ [])
    ⟨fun ⟨hsingle, hchars, hprose, hvisible⟩ =>
        ⟨hsingle, List.all_eq_true.mp hchars, List.all_eq_true.mp hprose, hvisible⟩,
      fun h => ⟨h.single, List.all_eq_true.mpr h.chars, List.all_eq_true.mpr h.prose, h.visible⟩⟩

/-- Only items of lists are tasks. -/
theorem markTask_of_ne {head : Head} (h : head.type ≠ "list_item") (children : List Element) :
    (Element.mk head children).markTask = .mk head children := by
  unfold Element.markTask
  split
  · next heq =>
    cases heq
    rw [if_neg fun hboth => h hboth.1]
  · rfl

/-- A line of prose, once it is read, is one element whose node has the text of the line without its
escapes. -/
theorem readInline?_content (references : References) (head : Head) {content : List Char}
    (hinline : head.type ≠ "inline") (hitem : head.type ≠ "list_item")
    (hprose : ∀ c ∈ content, isProseChar c = true) (hvisible : unescape content ≠ []) :
    ∃ inline, readInline? references (contentElement head content) = some (.mk head [inline]) ∧
      inlineChildren [inline] = [.ofText .text (String.ofList (unescape content))] := by
  obtain ⟨elements, hread, hnodes⟩ := inlineElements?_prose references hprose hvisible
  refine ⟨.mk { type := "inline", content := String.ofList content } elements, ?_, ?_⟩
  · have hcontent : readInline? references (.rawInline content) =
        some (.mk { type := "inline", content := String.ofList content } elements) := by
      rw [Element.rawInline, readInline?, if_pos rfl, String.toList_ofList, hread]
      rfl
    rw [contentElement, readInline?, if_neg hinline, readAllInline?, hcontent]
    simp [readAllInline?, markTask_of_ne hitem]
  · simpa [inlineChildren, Element.type, Element.head, Element.children] using hnodes

theorem headingDepth_level {level : Nat} (hone : 1 ≤ level) (hsix : level ≤ 6) :
    headingDepth ("h" ++ toString level) = .ok ⟨level, hone, hsix⟩ := by
  obtain rfl | rfl | rfl | rfl | rfl | rfl : level = 1 ∨ level = 2 ∨ level = 3 ∨ level = 4 ∨
    level = 5 ∨ level = 6 := by omega
  all_goals rfl

theorem ofTitle_level {level : Nat} (hone : 1 ≤ level) (hsix : level ≤ 6) (title : String) :
    Node.ofTitle level title = .ofKind (.heading ⟨level, hone, hsix⟩) [.ofText .text title] := by
  simp only [Node.ofTitle, Nat.min_eq_left hsix, Nat.max_eq_right hone]

/-- A heading in Markdown has one to six marks. -/
theorem level_of_heading {cs : List Char} {heading : Heading}
    (h : Heading.ofChars? cs = some heading) : 1 ≤ heading.level ∧ heading.level ≤ 6 := by
  unfold Heading.ofChars? at h
  dsimp only at h
  split at h
  · next hlevel =>
    cases h
    exact ⟨hlevel.1, hlevel.2.1⟩
  · cases h

/-- The element of a line and the node for it. -/
theorem blockNode_line (references : References) {cs : List Char} (h : IsProseLine cs) :
    ∃ element, readInline? references (lineElement cs) = some element ∧
      blockNode element = .ok (lineNode cs) := by
  obtain ⟨-, -, hprose, hvisible⟩ := h
  unfold lineContent at hprose hvisible
  unfold lineElement lineNode lineContent
  -- A line of prose is a paragraph, unless it opens a heading.
  cases hheading : Heading.ofChars? cs with
  | none =>
    simp only [hheading] at hprose hvisible ⊢
    obtain ⟨inline, hread, hnodes⟩ := readInline?_content references { type := "paragraph" }
      (by decide) (by decide) hprose hvisible
    refine ⟨_, hread, ?_⟩
    simp only [blockNode, leafNode?, hnodes]
  | some heading =>
    simp only [hheading] at hprose hvisible ⊢
    obtain ⟨hone, hsix⟩ := level_of_heading hheading
    obtain ⟨inline, hread, hnodes⟩ := readInline?_content references
      { type := "heading", tag := "h" ++ toString heading.level } (by simp) (by simp) hprose
      hvisible
    refine ⟨_, hread, ?_⟩
    simp only [blockNode, leafNode?, hnodes, headingDepth_level hone hsix, ofTitle_level hone hsix]
    rfl

/-! ## Whole documents -/

/-- Lines of prose become one paragraph or heading each. -/
theorem readAllInline?_lines (references : References) {lines : List (List Char)}
    (h : ∀ line ∈ lines, IsProseLine line) :
    ∃ elements, readAllInline? references (lines.map lineElement) = some elements ∧
      blockNodes elements = .ok (lines.map lineNode) := by
  induction lines with
  | nil => exact ⟨[], rfl, rfl⟩
  | cons line lines ih =>
    obtain ⟨hline, hlines⟩ := List.forall_mem_cons.mp h
    obtain ⟨element, hread, hnode⟩ := blockNode_line references hline
    obtain ⟨elements, hreadAll, hnodes⟩ := ih hlines
    refine ⟨element :: elements, ?_, ?_⟩
    · rw [List.map_cons, readAllInline?, hread, hreadAll]
      rfl
    · rw [blockNodes, hnode, hnodes]
      rfl

/-- **Prose, line by line.** A source of lines set apart by empty ones is a document with one node
for each line. -/
theorem parse_prose {lines : List (List Char)} (h : ∀ line ∈ lines, IsProseLine line) :
    parse (String.ofList (joined (spaced lines))) = .ok { children := lines.map lineNode } := by
  have hblocks := blocks_spaced (fun line hmem => (h line hmem).single)
    fun line hmem => (h line hmem).chars
  generalize hfound : blocks maxBlockNesting {} _ = found at hblocks
  obtain ⟨elements, hread, hnodes⟩ := readAllInline?_lines found.references h
  have helements : elements? (String.ofList (joined (spaced lines))) = some elements := by
    rw [elements?, hfound, hblocks, hread]
  rw [parse, helements]
  dsimp only
  rw [rootOfElements, hnodes]
  rfl

end Quizmark.Markdown
