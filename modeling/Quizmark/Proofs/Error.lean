import Quizmark.Error

/-!
# Programs that may fail

A sequence of steps that ends well went well at every step (`bind_ok`); one that fails does so at
one of them (`bind_eq_error_iff`). Tests show that a program ends well, or with which error, without a
look at its result (`ok_of_toBool`, `error_of_fault?`), or that it does and its result passes a test
(`ok_of_any`).
-/

namespace Quizmark

/-- Two steps give a result only if both do. -/
theorem bind_ok {ε α β : Type} {first : Except ε α} {next : α → Except ε β} {result : β}
    (h : first >>= next = .ok result) : ∃ value, first = .ok value ∧ next value = .ok result := by
  cases first with
  | error fault => cases h
  | ok value => exact ⟨value, rfl, h⟩

theorem bind_eq_error_iff {ε α β : Type} {first : Except ε α} {next : α → Except ε β} {fault : ε} :
    first >>= next = .error fault ↔
      first = .error fault ∨ ∃ value, first = .ok value ∧ next value = .error fault := by
  cases first <;> simp [bind, Except.bind]

theorem ok_of_toBool {ε α : Type} {outcome : Except ε α} (h : outcome.toBool = true) :
    ∃ value, outcome = .ok value := by
  cases outcome with
  | error fault => cases h
  | ok value => exact ⟨value, rfl⟩

/-- A test that was run on the result shows that there is one. -/
theorem ok_of_any {ε α : Type} {outcome : Except ε α} {test : α → Bool}
    (h : outcome.toOption.any test = true) : ∃ value, outcome = .ok value ∧ test value = true := by
  cases outcome with
  | error fault => cases h
  | ok value => exact ⟨value, rfl, h⟩

/-- The error with which a program ended. -/
def fault? {ε α : Type} : Except ε α → Option ε
  | .error fault => some fault
  | .ok _ => none

theorem error_of_fault? {ε α : Type} {outcome : Except ε α} {fault : ε}
    (h : fault? outcome = some fault) : outcome = .error fault := by
  cases outcome with
  | error other =>
    cases h
    rfl
  | ok value => cases h

end Quizmark
