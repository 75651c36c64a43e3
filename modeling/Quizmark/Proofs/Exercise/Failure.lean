import Quizmark.Node.Reader
import Quizmark.Proofs.Exercise.Stages
import Quizmark.Proofs.Section.Scoring

/-!
# How a compilation fails

A document that the gate admits is refused for its shape, or because some data in it cannot be used:
a number of points that is too long, loose children without items, or properties of a heading that
can take no id.

* `Root.FailsWith`: the error of a document, with one rule for each cause.
* `compile_malformed_iff`: a document is refused with the first flaw of its shape, and with its
  path.
* `compile_error_iff`: a compilation fails with exactly the errors of `FailsWith`. Only the first of
  them tells of the shape of the document (`payloads_break_off`).
-/

namespace Quizmark

namespace Root

/-- The nodes of a document that the passes go through, in the order in which they do. -/
def compiled (options : QuestionOptions) (root : Root) : List Node :=
  Section.restNodes options.examMarkers (root.under "Prompt") ++
    Section.tipNodes options.examMarkers (root.under "Prompt") ++ root.under "Options" ++
    root.under "Explanation"

/-- A scoring criterion of a document has a number of points that is too long. -/
def HasOverlong (root : Root) : Prop :=
  ∃ line ∈ Text.lines (nodesText (root.under "Scoring")).toList, Section.Overlong line

/-- The errors that the compilation of a document may fail with. -/
inductive FailsWith (options : QuestionOptions) (path : String) (root : Root) : Error → Prop where
  | malformed {flaw : Flaw} : root.flaw? = some flaw →
    FailsWith options path root (.malformed flaw (DocPath.normalize path))
  | overlong : root.flaw? = none → root.HasOverlong →
    FailsWith options path root .numberTooLong
  | obstacle {fault : Error} : root.flaw? = none → ¬ root.HasOverlong →
    QuestionSpec.obstacle? root.isCloze (root.compiled options) = some fault →
    FailsWith options path root fault

variable {options : QuestionOptions} {path : String} {root : Root} {fault : Error}

theorem failsWith_of_flaw {flaw : Flaw} (hflaw : root.flaw? = some flaw) :
    root.FailsWith options path fault ↔ .malformed flaw (DocPath.normalize path) = fault := by
  constructor
  · intro h
    cases h with
    | malformed hflaw' =>
      rw [hflaw, Option.some_inj] at hflaw'
      rw [hflaw']
    | overlong hnone | obstacle hnone =>
      rw [hflaw] at hnone
      cases hnone
  · rintro rfl
    exact .malformed hflaw

theorem failsWith_of_overlong (hflaw : root.flaw? = none) (hlong : root.HasOverlong) :
    root.FailsWith options path fault ↔ .numberTooLong = fault := by
  constructor
  · intro h
    cases h with
    | malformed hsome =>
      rw [hflaw] at hsome
      cases hsome
    | overlong => rfl
    | obstacle _ hfits => exact absurd hlong hfits
  · rintro rfl
    exact .overlong hflaw hlong

theorem failsWith_of_shape (hflaw : root.flaw? = none) (hfits : ¬ root.HasOverlong) :
    root.FailsWith options path fault ↔
      QuestionSpec.obstacle? root.isCloze (root.compiled options) = some fault := by
  constructor
  · intro h
    cases h with
    | malformed hsome =>
      rw [hflaw] at hsome
      cases hsome
    | overlong _ hlong => exact absurd hlong hfits
    | obstacle _ _ hobstacle => exact hobstacle
  · exact .obstacle hflaw hfits

/-- Compiling fails as the relation says, and only so. -/
theorem ofRoot_error_iff :
    QuestionSpec.ofRoot options path root = .error fault ↔ root.FailsWith options path fault := by
  rw [QuestionSpec.ofRoot_eq, QuestionSpec.written_eq]
  cases hflaw : root.flaw? with
  | some flaw =>
    rw [failsWith_of_flaw hflaw]
    exact iff_of_eq (Except.error.injEq ..)
  | none =>
    cases hscoring : Section.scoring (root.under "Scoring") with
    | error other =>
      obtain ⟨rfl, hlong⟩ := Section.criteria_error_iff.mp hscoring
      rw [failsWith_of_overlong hflaw hlong]
      exact iff_of_eq (Except.error.injEq ..)
    | ok criteria =>
      have hfits : ¬ root.HasOverlong := fun hlong => by
        have herror := Section.criteria_error_iff.mpr ⟨rfl, hlong⟩
        rw [← Section.scoring, hscoring] at herror
        cases herror
      rw [failsWith_of_shape hflaw hfits]
      exact @QuestionSpec.passed_error_iff (root.parts options path criteria) _ _

/-- Only a document that the gate admits can fail. -/
theorem compile_eq_error_iff :
    root.compile options path = .error fault ↔
      options.admits path = true ∧ root.FailsWith options path fault := by
  rw [← ofRoot_error_iff]
  unfold compile compile?
  cases options.admits path <;>
    simp [bind_eq_error_iff, pure, Except.pure]

/-! ## Flaws -/

/-- What stops the passes is found in the data of a node. -/
theorem obstacle?_cases {isCloze : Bool} {nodes : List Node}
    (h : QuestionSpec.obstacle? isCloze nodes = some fault) :
    fault = .notIterable ∨ fault = .notMergeable := by
  have hloose {node : Node} (h : node.looseFault? = some fault) : fault = .notIterable := by
    unfold Node.looseFault? at h
    split at h <;> simp_all
  have hid {node : Node} (h : node.idFault? = some fault) : fault = .notMergeable := by
    unfold Node.idFault? at h
    split at h <;> simp_all
  rcases Option.or_eq_some_iff.mp h with h | ⟨-, h⟩
  · cases isCloze with
    | false => cases h
    | true =>
      obtain ⟨node, -, h⟩ := List.exists_of_findSome?_eq_some h
      exact .inl (hloose h)
  · obtain ⟨node, -, h⟩ := List.exists_of_findSome?_eq_some h
    rcases Option.or_eq_some_iff.mp h with h | ⟨-, h⟩
    · exact .inr (hid h)
    · exact .inl (hloose h)

/-- **A document is refused with its first flaw**, and not for its shape if it has none. The error
holds the path in normal form, and its text ends with it. -/
theorem compile_malformed_iff (admitted : options.admits path = true) (flaw : Flaw)
    (place : String) :
    (root.compile options path = .error (.malformed flaw place) ↔
      root.flaw? = some flaw ∧ place = DocPath.normalize path) ∧
    (root.compile options path = .error (.malformed flaw place) →
      (Error.malformed flaw place).message = flaw.text ++ ": " ++ DocPath.normalize path) := by
  have hiff : root.compile options path = .error (.malformed flaw place) ↔
      root.flaw? = some flaw ∧ place = DocPath.normalize path := by
    rw [compile_eq_error_iff, and_iff_right admitted]
    constructor
    · intro h
      -- Only the first rule gives this error; an obstacle is of another kind.
      cases h with
      | malformed hflaw => exact ⟨hflaw, rfl⟩
      | obstacle _ _ hobstacle => rcases obstacle?_cases hobstacle with h | h <;> cases h
    · rintro ⟨hflaw, rfl⟩
      exact .malformed hflaw
  refine ⟨hiff, fun h => ?_⟩
  obtain ⟨-, rfl⟩ := hiff.mp h
  rfl

/-- A document whose type is written and then emptied, and which has no prompt. -/
def unwritten : Root where
  children := [
    .ofTitle 1 "Lakes",
    .ofTitle 2 "Type",
    .ofText .text "choice",
    .ofTitle 2 " Type",
    .ofText .text " "]

theorem compile_malformed_iff_unwritten :
    ({} : QuestionOptions).admits "b\\lakes.qspec.md" = true ∧
      unwritten.compile {} "b\\lakes.qspec.md" =
        .error (.malformed .missingType "b/lakes.qspec.md") := by
  have hadmits : ({} : QuestionOptions).admits "b\\lakes.qspec.md" = true := by decide +kernel
  have hflaw : unwritten.flaw? = some .missingType := by decide +kernel
  have hplace : "b/lakes.qspec.md" = DocPath.normalize "b\\lakes.qspec.md" := by decide +kernel
  exact ⟨hadmits, (compile_malformed_iff hadmits _ _).1.mpr ⟨hflaw, hplace⟩⟩

/-! ## All errors -/

/-- **A compilation fails for the shape of a document or for one of three faults of its data.** It
fails with an error exactly if `FailsWith` has a rule for that error. -/
theorem compile_error_iff :
    (root.compile options path = .error fault ↔
      options.admits path = true ∧ root.FailsWith options path fault) ∧
    (root.FailsWith options path fault →
      (∃ flaw, fault = .malformed flaw (DocPath.normalize path)) ∨
        fault ∈ [.numberTooLong, .notIterable, .notMergeable]) := by
  refine ⟨compile_eq_error_iff, fun h => ?_⟩
  cases h with
  | malformed => exact .inl ⟨_, rfl⟩
  | overlong => simp
  | obstacle _ _ hobstacle => rcases obstacle?_cases hobstacle with rfl | rfl <;> simp

/-- The payload of a heading. -/
def headingPayload (depth : Int) (title : String) (rest : Fields) : Json :=
  .obj <| [("type", .str "heading"), ("depth", .num depth),
    ("children", .arr [.obj [("type", .str "text"), ("value", .str title)]])] ++ rest

/-- The payload of a question spec with nodes behind its prompt. -/
def specPayload (rest : List Json) : Json :=
  .obj [("type", .str "root"), ("children", .arr <| [
    headingPayload 1 "Lakes" [],
    headingPayload 2 "Type" [],
    .obj [("type", .str "text"), ("value", .str "choice")],
    headingPayload 2 "Prompt" []] ++ rest)]

/-- A payload is read as a document of the right shape whose compilation fails with `fault`. -/
def BreaksOff (payload : Json) (fault : Error) : Prop :=
  ∃ root, Node.rootOfJson payload = .ok root ∧ root.flaw? = none ∧
    root.compile {} "lakes.qspec.md" = .error fault

/-- Evaluating the compiler on a payload settles how it breaks off. -/
theorem breaksOff_of_fault? {payload : Json}
    (hread : (Node.rootOfJson payload).toBool = true)
    (hshape : (Node.rootOfJson payload).map flaw? = .ok none)
    (hfault : fault? (Node.rootOfJson payload >>= compile {} "lakes.qspec.md") = some fault) :
    BreaksOff payload fault := by
  obtain ⟨root, hroot⟩ := ok_of_toBool hread
  rw [hroot] at hshape hfault
  exact ⟨root, hroot, Except.ok.inj hshape, error_of_fault? hfault⟩

/-- Payloads of the right shape whose compilation breaks off: a heading whose properties are a text,
and a text whose loose children are a number. -/
theorem payloads_break_off :
    BreaksOff (specPayload [headingPayload 3 "Baikal"
        [("data", .obj [("hProperties", .str "deep")])]]) .notMergeable ∧
      BreaksOff (specPayload [.obj [("type", .str "text"), ("children", .num 5)]])
        .notIterable := by
  constructor <;> apply breaksOff_of_fault? <;> decide +kernel

end Root

end Quizmark
