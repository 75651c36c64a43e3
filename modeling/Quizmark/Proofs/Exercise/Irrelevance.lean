import Quizmark.Proofs.Exercise.Stages
import Quizmark.Proofs.Section.Blocks

/-!
# What a compilation does not see

A compilation looks at the title of a document and at what stands under five titles of sections.

* `Root.Agrees`: two documents do not differ where a compilation looks. Then they are compiled
  alike, also where that fails (`compile_congr`).
* `Outline`: a document as its author sees it, with a title, a preamble and section blocks. Every
  document that begins with a title is one (`exists_outline`).
* `Outline.Unseen`: the edits that a compilation does not see, of the preamble, of foreign blocks,
  of blocks that are started over and of the order. None of them changes its outcome
  (`compile_unseen`).
-/

namespace Quizmark

/-- The titles of the sections that a compilation reads. -/
def QuestionSpec.sectionTitles : List String :=
  ["Type", "Prompt", "Options", "Scoring", "Explanation"]

/-! ## Documents that agree -/

/-- Two documents have the same first node, the same nodes under the titles that a compilation
reads, and the same fields. -/
structure Root.Agrees (root root' : Root) : Prop where
  head : root.children.head? = root'.children.head?
  lastUnder : ∀ title ∈ QuestionSpec.sectionTitles,
    Section.lastUnder title root.children = Section.lastUnder title root'.children
  data : root.data = root'.data
  extra : root.extra = root'.extra

namespace Root.Agrees

theorem symm {root root' : Root} (h : root.Agrees root') : root'.Agrees root where
  head := h.head.symm
  lastUnder title hmem := (h.lastUnder title hmem).symm
  data := h.data.symm
  extra := h.extra.symm

variable {options : QuestionOptions} {path : String} {root root' : Root}

theorem under (h : root.Agrees root') (title : String)
    (hmem : title ∈ QuestionSpec.sectionTitles) : root.under title = root'.under title := by
  rw [Root.under, Root.under, h.lastUnder title hmem]

theorem flaw? (h : root.Agrees root') : root.flaw? = root'.flaw? := by
  have hhas : root.has = root'.has := by
    funext flaw
    cases flaw with
    | frontmatter | missingTitle | emptyTitle => simp only [has, h.head]
    | missingType => rw [has, has, h.lastUnder _ (by decide)]
    | missingPrompt => rw [has, has, h.lastUnder _ (by decide)]
  rw [Root.flaw?, Root.flaw?, hhas]

theorem parts (h : root.Agrees root') : root.parts options path = root'.parts options path := by
  funext criteria
  simp only [Root.parts, isCloze, h.head, h.under "Type" (by decide),
    h.under "Prompt" (by decide), h.under "Options" (by decide),
    h.under "Explanation" (by decide)]

theorem ofRoot (h : root.Agrees root') :
    QuestionSpec.ofRoot options path root = QuestionSpec.ofRoot options path root' := by
  rw [QuestionSpec.ofRoot_eq, QuestionSpec.ofRoot_eq, QuestionSpec.written_eq,
    QuestionSpec.written_eq, h.flaw?, h.parts, h.under "Scoring" (by decide)]

/-- Documents that agree are compiled alike. -/
theorem compile_congr (admitted : options.admits path = true) (h : root.Agrees root') :
    root.compile options path = root'.compile options path := by
  have hexercise : root.withExercise options = root'.withExercise options := by
    funext spec
    simp only [withExercise, h.data, h.extra]
  unfold compile compile?
  rw [if_pos admitted, if_pos admitted, h.ofRoot, hexercise]
  cases QuestionSpec.ofRoot options path root' <;> rfl

end Root.Agrees

/-! ## Outlines -/

/-- A document as its author sees it: a title, nodes before the first section, and section
blocks. -/
structure Outline where
  title : Node
  preamble : List Node
  blocks : List Section.Block
  data : Option Fields := none
  extra : Fields := []
  isTitle : title.isHeadingAt 1 = true
  closed : Section.Closed preamble

namespace Outline

/-- The document of an outline. -/
def root (outline : Outline) : Root where
  children := outline.title :: outline.preamble ++ outline.blocks.flatMap Section.Block.nodes
  data := outline.data
  extra := outline.extra

/-- Every document that begins with a title is given by an outline. -/
theorem exists_outline {root : Root} {first : Node} (hhead : root.children.head? = some first)
    (htitle : first.isHeadingAt 1 = true) : ∃ outline : Outline, outline.root = root := by
  obtain ⟨body, hbody⟩ := List.head?_eq_some_iff.mp hhead
  obtain ⟨preamble, blocks, hclosed, rfl⟩ := Section.exists_blocks body
  refine ⟨⟨first, preamble, blocks, root.data, root.extra, htitle, hclosed⟩, ?_⟩
  rw [Outline.root, List.cons_append, ← hbody]

/-- Under a heading of a title, the last block with that title is what counts. -/
theorem lastUnder_root (outline : Outline) (title : String) :
    Section.lastUnder title outline.root.children =
      (Section.Block.last? title outline.blocks).map Section.Block.items := by
  rw [root, List.cons_append,
    Section.lastUnder_of_not_opening (QuestionSpec.not_isOpening outline.isTitle),
    Section.lastUnder_append_of_closed outline.closed, Section.lastUnder_blocks]

/-- The edits of a document that its compilation does not see. -/
inductive Unseen : Outline → Outline → Prop where
  /-- Another preamble. -/
  | preamble (outline : Outline) {preamble : List Node} (closed : Section.Closed preamble) :
    Unseen outline { outline with preamble, closed }
  /-- A block that is not read. -/
  | foreign (outline : Outline) {before after : List Section.Block} {block : Section.Block} :
    outline.blocks = before ++ after → block.name ∉ QuestionSpec.sectionTitles →
    Unseen outline { outline with blocks := before ++ block :: after }
  /-- A block that a later one starts over. -/
  | restarted (outline : Outline) {before after : List Section.Block} {block : Section.Block} :
    outline.blocks = before ++ after → (∃ later ∈ after, later.name = block.name) →
    Unseen outline { outline with blocks := before ++ block :: after }
  /-- Blocks with pairwise distinct names in another order. -/
  | order (outline : Outline) {blocks : List Section.Block} :
    (outline.blocks.map Section.Block.name).Nodup → outline.blocks.Perm blocks →
    Unseen outline { outline with blocks }
  /-- The edit that takes another one back. -/
  | symm {outline outline' : Outline} : Unseen outline outline' → Unseen outline' outline

/-- Outlines agree if they have the same last block under each title that the compiler looks for. -/
theorem agrees_of_last? {outline outline' : Outline} (htitle : outline.title = outline'.title)
    (hdata : outline.data = outline'.data) (hextra : outline.extra = outline'.extra)
    (hlast : ∀ name ∈ QuestionSpec.sectionTitles,
      Section.Block.last? name outline.blocks = Section.Block.last? name outline'.blocks) :
    outline.root.Agrees outline'.root where
  head := congrArg some htitle
  lastUnder title hmem := by rw [lastUnder_root, lastUnder_root, hlast title hmem]
  data := hdata
  extra := hextra

/-- A change that is not seen leaves the last blocks as they are. -/
theorem Unseen.agrees {outline outline' : Outline} (h : Unseen outline outline') :
    outline.root.Agrees outline'.root := by
  induction h with
  | preamble outline closed => exact agrees_of_last? rfl rfl rfl fun name _ => rfl
  | @foreign outline before after block hblocks hforeign =>
    refine agrees_of_last? rfl rfl rfl fun name hname => ?_
    have hne : block.name ≠ name := fun h => hforeign (h ▸ hname)
    rw [hblocks, ← List.singleton_append]
    simp only [Section.Block.last?_append, Section.Block.last?_singleton, if_neg hne, Option.or_none]
  | @restarted outline before after block hblocks hlater =>
    refine agrees_of_last? rfl rfl rfl fun name _ => ?_
    rw [hblocks, ← List.singleton_append]
    simp only [Section.Block.last?_append, Section.Block.last?_singleton]
    -- A block with the name comes later, so this one is not the last.
    split
    · rename_i hname
      obtain ⟨later, hmem, hlater⟩ := hlater
      have hsome : (Section.Block.last? name after).isSome = true :=
        Section.Block.last?_isSome hmem (hlater.trans hname)
      obtain ⟨last, hlast⟩ := Option.isSome_iff_exists.mp hsome
      simp [hlast]
    · simp
  | order outline hnodup hperm =>
    exact agrees_of_last? rfl rfl rfl fun name _ => Section.Block.last?_perm hperm hnodup name
  | symm _ ih => exact ih.symm

/-- **What is not read plays no part.** The outcome of a compilation does not change with the
preamble, with foreign blocks, with blocks that are started over or with the order of blocks. -/
theorem compile_unseen {options : QuestionOptions} {path : String} {outline outline' : Outline}
    (admitted : options.admits path = true) (h : Unseen outline outline') :
    outline.root.compile options path = outline'.root.compile options path :=
  h.agrees.compile_congr admitted

/-- A question spec with a preamble. -/
def lakes : Outline where
  title := .ofTitle 1 "Lakes"
  preamble := [.ofText .text "Draft."]
  blocks := [
    ⟨.ofTitle 2 "Type", [.ofText .text "choice"], by decide, by decide⟩,
    ⟨.ofTitle 2 "Prompt", [.ofTitle 3 "Depth", .ofText .text "Which is deeper?"], by decide,
      by decide⟩]
  isTitle := by decide
  closed := by decide

/-- A prompt that would stop the compilation if it were read. -/
def firstPrompt : Section.Block where
  heading := .ofTitle 2 " Prompt"
  items := [.literal .text none "" [("children", .num 5)]]
  opens := by decide
  closed := by decide

theorem compile_unseen_lakes :
    ({} : QuestionOptions).admits "lakes.qspec.md" = true ∧
      lakes.Unseen { lakes with blocks := firstPrompt :: lakes.blocks } ∧
      (lakes.root.compile {} "lakes.qspec.md").toBool = true ∧
      lakes.root.compile {} "lakes.qspec.md" =
        ({ lakes with blocks := firstPrompt :: lakes.blocks } : Outline).root.compile {}
          "lakes.qspec.md" := by
  have hadmits : ({} : QuestionOptions).admits "lakes.qspec.md" = true := by decide +kernel
  have hunseen : lakes.Unseen { lakes with blocks := firstPrompt :: lakes.blocks } :=
    @Unseen.restarted lakes [] lakes.blocks firstPrompt rfl (by decide +kernel)
  exact ⟨hadmits, hunseen, by decide +kernel, compile_unseen hadmits hunseen⟩

end Outline

end Quizmark
