import AyyoHumanoid.Transactions

/-!
# Exceptions

A package raises exceptions of its own, and the operations on texts and numbers
that it uses raise builtin ones. The rules here bound what a computation can
raise by what its parts can raise.
-/

namespace AyyoHumanoid

/-- The builtin exceptions of operations on texts and numbers. -/
inductive BuiltinError where
  | unicodeEncodeError | valueError | overflowError | recursionError
  deriving DecidableEq, Repr

/-- An exception of a package or a builtin one. -/
inductive Raised (ε : Type) where
  /-- An exception of the package. -/
  | typed (error : ε)
  /-- A builtin exception. -/
  | builtin (error : BuiltinError)
  deriving DecidableEq

namespace RaisesOnly

variable {ε α β : Type} {P : ε → Prop}

/-- An allowed error may be raised. -/
theorem of_error {error : ε} (h : P error) : RaisesOnly P (.error error : Except ε α) := by
  intro e he
  cases he
  exact h

/-- A check raises its own error. -/
theorem check {condition : Prop} [Decidable condition] {error : ε} (h : P error) :
    RaisesOnly P (AyyoHumanoid.require condition error) := by
  by_cases hcondition : condition
  · exact require hcondition
  · rw [AyyoHumanoid.require, if_neg hcondition]
    exact of_error h

/-- A check whose outcome is known afterwards raises its own error. -/
theorem ensured {condition : Prop} [Decidable condition] {error : ε} (h : P error) :
    RaisesOnly P (ensure condition error) := by
  by_cases hcondition : condition
  · rw [ensure, dif_pos hcondition]
    exact of_ok rfl
  · rw [ensure, dif_neg hcondition]
    exact of_error h

/-- A sequence raises what its parts raise, whatever the first returns. -/
theorem then_ {x : Except ε α} {f : α → Except ε β} (hx : RaisesOnly P x)
    (hf : ∀ a, RaisesOnly P (f a)) : RaisesOnly P (x >>= f) :=
  bind hx fun a _ => hf a

/-- A mapped computation raises what the computation raises. -/
theorem map {x : Except ε α} {f : α → β} (hx : RaisesOnly P x) : RaisesOnly P (f <$> x) := by
  intro e he
  cases hrun : x with
  | error raised =>
    rw [hrun] at he
    cases he
    exact hx e hrun
  | ok a =>
    rw [hrun] at he
    cases he

end RaisesOnly
end AyyoHumanoid
