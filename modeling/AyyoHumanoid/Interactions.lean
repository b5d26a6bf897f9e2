import Mathlib.Data.List.Basic

/-!
# Programs that call an environment

A program either returns or makes a call and continues with the answer. Its runs
are the sequences of calls with their answers, over all answers. An environment
that may look at the calls made so far chooses one of them.
-/

namespace AyyoHumanoid

/-- A program that returns a result or makes a call and continues with the answer. -/
inductive Interaction (Call : Type) (Answer : Call → Type) (α : Type) where
  /-- The program returns. -/
  | done (result : α)
  /-- The program calls. -/
  | ask (call : Call) (next : Answer call → Interaction Call Answer α)

namespace Interaction

variable {Call : Type} {Answer : Call → Type} {α : Type}

/-- A call with its answer. -/
structure Event (Call : Type) (Answer : Call → Type) where
  call : Call
  answer : Answer call

/-- The program can make these calls, with these answers, and return the result. -/
inductive Runs : Interaction Call Answer α → List (Event Call Answer) → α → Prop where
  /-- A program that returns makes no call. -/
  | done (result : α) : Runs (.done result) [] result
  /-- A program that calls goes on with the answer. -/
  | ask {call : Call} {next : Answer call → Interaction Call Answer α} (answer : Answer call)
      {events : List (Event Call Answer)} {result : α} (rest : Runs (next answer) events result) :
      Runs (.ask call next) (⟨call, answer⟩ :: events) result

/-- The calls and the result of a program whose calls are answered by the environment. -/
def run (respond : List (Event Call Answer) → (call : Call) → Answer call) :
    Interaction Call Answer α → List (Event Call Answer) → List (Event Call Answer) × α
  | .done result, _ => ([], result)
  | .ask call next, past =>
    let answer := respond past call
    let (events, result) := run respond (next answer) (past ++ [⟨call, answer⟩])
    (⟨call, answer⟩ :: events, result)

/-- Every environment leads through a run. -/
theorem runs_run (respond : List (Event Call Answer) → (call : Call) → Answer call)
    (program : Interaction Call Answer α) (past : List (Event Call Answer)) :
    Runs program (run respond program past).1 (run respond program past).2 := by
  induction program generalizing past with
  | done result => exact .done result
  | ask call next ih => exact .ask _ (ih (respond past call) _)

/-- The run of a program that returns. -/
theorem runs_done {result other : α} {events : List (Event Call Answer)} :
    Runs (.done result) events other ↔ events = [] ∧ result = other := by
  constructor
  · rintro ⟨⟩
    exact ⟨rfl, rfl⟩
  · rintro ⟨rfl, rfl⟩
    exact .done result

/-- A run of a program that calls. -/
theorem runs_ask {call : Call} {next : Answer call → Interaction Call Answer α}
    {events : List (Event Call Answer)} {result : α} :
    Runs (.ask call next) events result ↔ ∃ answer rest, events = ⟨call, answer⟩ :: rest ∧
      Runs (next answer) rest result := by
  constructor
  · intro h
    cases h with
    | ask answer rest => exact ⟨answer, _, rfl, rest⟩
  · rintro ⟨answer, rest, rfl, hrest⟩
    exact .ask answer hrest

/-- A run of a program that depends on a condition. -/
theorem runs_ite {condition : Prop} [Decidable condition] {left right : Interaction Call Answer α}
    {events : List (Event Call Answer)} {result : α} :
    Runs (if condition then left else right) events result ↔
      (condition ∧ Runs left events result) ∨ (¬condition ∧ Runs right events result) := by
  by_cases h : condition <;> simp [h]

end Interaction
end AyyoHumanoid
