import Mathlib.Data.List.Forall2

/-!
# Checks, transactions and runs

A check either passes or raises. A transaction is a state-passing computation
that may raise; a raise discards every change it made. A run is a sequence of
transactions, each settled before the next one starts. The rules here turn a
step lemma about committed transactions into a statement about every run.
-/

namespace AyyoHumanoid

/-- Raise an error unless the condition holds. -/
def require {ε : Type} (condition : Prop) [Decidable condition] (error : ε) : Except ε Unit :=
  if condition then .ok () else .error error

/-- Raise an error unless the condition holds, which is then known. -/
def ensure {ε : Type} (condition : Prop) [Decidable condition] (error : ε) :
    Except ε (PLift condition) :=
  if h : condition then .ok ⟨h⟩ else .error error

/-- Make a check only under a condition. -/
def requireWhen {ε : Type} (condition : Prop) [Decidable condition] (check : Except ε Unit) :
    Except ε Unit :=
  if condition then check else .ok ()

/-- A constructor: fields that pass its check, packed with the fact that they do. -/
def construct {ε α β : Type} (check : α → Except ε Unit)
    (make : (fields : α) → check fields = .ok () → β) (fields : α) : Except ε β :=
  match h : check fields with
  | .ok () => .ok (make fields h)
  | .error e => .error e

/-- A constructor that computes its attributes, packed with the fact that it returned them. -/
def constructFrom {ε α γ β : Type} (init : α → Except ε γ)
    (make : (content : γ) → (∃ arguments, init arguments = .ok content) → β) (arguments : α) :
    Except ε β :=
  match h : init arguments with
  | .ok content => .ok (make content ⟨arguments, h⟩)
  | .error e => .error e

namespace Checks

variable {ε α β : Type}

/-- A passed check is a true condition. -/
@[simp] theorem require_ok {condition : Prop} [Decidable condition] {error : ε} {u : Unit} :
    require condition error = .ok u ↔ condition := by
  unfold require
  split <;> simp_all

/-- A failed check raises its own error. -/
@[simp] theorem require_error {condition : Prop} [Decidable condition] {error raised : ε} :
    require condition error = .error raised ↔ ¬condition ∧ error = raised := by
  unfold require
  split <;> simp_all

/-- A conditional check passes when the condition fails or the check passes. -/
@[simp] theorem requireWhen_ok {condition : Prop} [Decidable condition] {check : Except ε Unit}
    {u : Unit} : requireWhen condition check = .ok u ↔ (condition → check = .ok u) := by
  unfold requireWhen
  split <;> simp_all

/-- A sequence returns when both parts return. -/
theorem bind_ok {x : Except ε α} {f : α → Except ε β} {b : β} :
    (x >>= f) = .ok b ↔ ∃ a, x = .ok a ∧ f a = .ok b := by
  cases x with
  | error e => simp [bind, Except.bind]
  | ok a => simp [bind, Except.bind]

/-- Continuing after a returned value. -/
@[simp] theorem ok_bind {a : α} {f : α → Except ε β} : (Except.ok a >>= f) = f a := rfl

/-- A returned value is the value given. -/
@[simp] theorem pure_ok {a b : α} : (pure a : Except ε α) = .ok b ↔ a = b := by
  simp [pure, Except.pure]

/-- A mapped computation returns when the computation does. -/
theorem map_ok {x : Except ε α} {f : α → β} {b : β} :
    (f <$> x) = .ok b ↔ ∃ a, x = .ok a ∧ f a = b := by
  cases x with
  | error e => simp [Functor.map, Except.map]
  | ok a => simp [Functor.map, Except.map]

/-- A check followed by a computation returns when the condition holds and the computation does. -/
theorem require_bind_ok {condition : Prop} [Decidable condition] {error : ε}
    {f : Unit → Except ε β} {b : β} :
    (require condition error >>= f) = .ok b ↔ condition ∧ f () = .ok b := by
  by_cases h : condition
  · simp [require, h, bind, Except.bind]
  · simp [require, h, bind, Except.bind]

/-- A known condition followed by a computation returns when it holds and the computation does. -/
theorem ensure_bind_ok {condition : Prop} [Decidable condition] {error : ε}
    {f : PLift condition → Except ε β} {b : β} :
    (ensure condition error >>= f) = .ok b ↔ ∃ h : condition, f ⟨h⟩ = .ok b := by
  by_cases h : condition
  · rw [ensure, dif_pos h]
    constructor
    · intro hreturned
      exact ⟨h, hreturned⟩
    · rintro ⟨hcondition, hreturned⟩
      exact hreturned
  · rw [ensure, dif_neg h]
    constructor
    · intro hreturned
      cases hreturned
    · rintro ⟨hcondition, -⟩
      exact absurd hcondition h

/-- Mapping a fallible function over a list returns when it returns at every element. -/
theorem mapM_ok {f : α → Except ε β} {xs : List α} {ys : List β} :
    xs.mapM f = .ok ys ↔ List.Forall₂ (fun x y => f x = .ok y) xs ys := by
  induction xs generalizing ys with
  | nil => simp [pure, Except.pure, eq_comm, List.forall₂_nil_left_iff]
  | cons x xs ih =>
    rw [List.mapM_cons]
    simp only [bind_ok, pure_ok]
    constructor
    · rintro ⟨y, hx, rest, hrest, rfl⟩
      exact .cons hx (ih.mp hrest)
    · intro h
      cases h with
      | cons hx hrest => exact ⟨_, hx, _, ih.mpr hrest, rfl⟩

/-- Mapping a fallible function returns some list exactly when it returns at every element. -/
theorem exists_mapM_ok {f : α → Except ε β} {xs : List α} :
    (∃ ys, xs.mapM f = .ok ys) ↔ ∀ x ∈ xs, ∃ y, f x = .ok y := by
  simp only [mapM_ok]
  induction xs with
  | nil => simp [List.forall₂_nil_left_iff]
  | cons x xs ih =>
    rw [List.forall_mem_cons, ← ih]
    constructor
    · rintro ⟨ys, h⟩
      cases h with
      | cons hx hrest => exact ⟨⟨_, hx⟩, _, hrest⟩
    · rintro ⟨⟨y, hx⟩, ys, hrest⟩
      exact ⟨y :: ys, .cons hx hrest⟩

/-- The results of a mapping are the values returned at its elements. -/
theorem mem_of_mapM_ok {f : α → Except ε β} {xs : List α} {ys : List β}
    (h : xs.mapM f = .ok ys) {y : β} : y ∈ ys ↔ ∃ x ∈ xs, f x = .ok y := by
  rw [mapM_ok] at h
  induction h with
  | nil => simp
  | cons hx hrest ih =>
    rename_i x result xs results
    simp only [List.mem_cons, ih, exists_eq_or_imp, hx, Except.ok.injEq]
    rw [eq_comm]

/-- A view that the mapping preserves is the same over the results. -/
theorem map_of_mapM_ok {γ : Type} {f : α → Except ε β} {xs : List α} {ys : List β}
    (h : xs.mapM f = .ok ys) (before : α → γ) {after : β → γ}
    (hview : ∀ x y, f x = .ok y → after y = before x) : ys.map after = xs.map before := by
  rw [mapM_ok] at h
  induction h with
  | nil => rfl
  | cons hx hrest ih => rw [List.map_cons, List.map_cons, hview _ _ hx, ih]

/-- Checking every element passes when each check does. -/
theorem forM_ok {f : α → Except ε Unit} {xs : List α} {u : PUnit} :
    xs.forM f = .ok u ↔ ∀ x ∈ xs, f x = .ok () := by
  induction xs with
  | nil => simp [List.forM, pure, Except.pure]
  | cons x xs ih =>
    rw [List.forall_mem_cons, ← ih]
    change (f x >>= fun _ => xs.forM f) = .ok u ↔ _
    rw [bind_ok]
    constructor
    · rintro ⟨⟨⟩, hx, hrest⟩
      exact ⟨hx, hrest⟩
    · rintro ⟨hx, hrest⟩
      exact ⟨(), hx, hrest⟩

/-- A sequence of checks passes when each check does. -/
theorem unit_bind_ok {x : Except ε Unit} {f : Unit → Except ε β} {b : β} :
    (x >>= f) = .ok b ↔ x = .ok () ∧ f () = .ok b := by
  rw [bind_ok]
  exact ⟨fun ⟨⟨⟩, hx, hf⟩ => ⟨hx, hf⟩, fun ⟨hx, hf⟩ => ⟨(), hx, hf⟩⟩

/-- Renaming errors keeps what a computation returns. -/
theorem mapError_ok {ε' : Type} {f : ε → ε'} {x : Except ε α} {a : α} :
    x.mapError f = .ok a ↔ x = .ok a := by
  cases x <;> simp [Except.mapError]

/-- A constructor returns exactly the packed attributes. -/
theorem constructFrom_ok {γ : Type} {init : α → Except ε γ}
    {make : (content : γ) → (∃ arguments, init arguments = .ok content) → β} {arguments : α}
    {b : β} : constructFrom init make arguments = .ok b ↔
      ∃ content, ∃ h : init arguments = .ok content, make content ⟨arguments, h⟩ = b := by
  unfold constructFrom
  split
  · next content hinit =>
    rw [Except.ok.injEq]
    constructor
    · intro h
      exact ⟨content, hinit, h⟩
    · rintro ⟨other, hother, h⟩
      obtain rfl : content = other := Except.ok.inj (hinit.symm.trans hother)
      exact h
  · next e hinit =>
    constructor
    · intro h
      cases h
    · rintro ⟨content, hother, -⟩
      cases hinit.symm.trans hother

/-- A constructor returns exactly the packed fields. -/
theorem construct_ok {check : α → Except ε Unit}
    {make : (fields : α) → check fields = .ok () → β} {fields : α} {b : β} :
    construct check make fields = .ok b ↔ ∃ h, make fields h = b := by
  unfold construct
  split
  · next h => simp [h]
  · next e h => simp [h]

end Checks

/-- Keep the elements that a fallible test accepts. -/
def selectM {ε α : Type} (test : α → Except ε Bool) : List α → Except ε (List α)
  | [] => .ok []
  | x :: xs => do
    let keep ← test x
    let rest ← selectM test xs
    pure (if keep then x :: rest else rest)

/-- The test returns and accepts. -/
def passes {ε : Type} (x : Except ε Bool) : Bool :=
  match x with
  | .ok keep => keep
  | .error _ => false

/-- A returned answer is what passes. -/
@[simp] theorem passes_ok {ε : Type} (keep : Bool) : passes (.ok keep : Except ε Bool) = keep := rfl

/-- A selection returns when every test does, and keeps the elements that pass. -/
theorem selectM_ok {ε α : Type} {test : α → Except ε Bool} {xs ys : List α} :
    selectM test xs = .ok ys ↔
      (∀ x ∈ xs, ∃ keep, test x = .ok keep) ∧ ys = xs.filter fun x => passes (test x) := by
  induction xs generalizing ys with
  | nil => simp [selectM, eq_comm]
  | cons x xs ih =>
    simp only [selectM, Checks.bind_ok, Checks.pure_ok, ih, List.forall_mem_cons, List.filter_cons]
    constructor
    · rintro ⟨keep, hkeep, rest, ⟨hall, rfl⟩, rfl⟩
      exact ⟨⟨⟨keep, hkeep⟩, hall⟩, by simp [hkeep]⟩
    · rintro ⟨⟨⟨keep, hkeep⟩, hall⟩, rfl⟩
      exact ⟨keep, hkeep, _, ⟨hall, rfl⟩, by simp [hkeep]⟩

/-- Every error of the computation satisfies the predicate. -/
def RaisesOnly {ε α : Type} (P : ε → Prop) (x : Except ε α) : Prop :=
  ∀ e, x = .error e → P e

namespace RaisesOnly

variable {ε α β : Type} {P : ε → Prop}

/-- A computation that returns raises nothing. -/
theorem of_ok {x : Except ε α} {a : α} (h : x = .ok a) : RaisesOnly P x := by
  intro e he
  rw [h] at he
  cases he

/-- A computation returns or raises an allowed error. -/
theorem cases {x : Except ε α} (h : RaisesOnly P x) :
    (∃ a, x = .ok a) ∨ ∃ e, x = .error e ∧ P e := by
  cases hx : x with
  | ok a => exact Or.inl ⟨a, rfl⟩
  | error e => exact Or.inr ⟨e, rfl, h e hx⟩

/-- A sequence raises what its parts raise. -/
theorem bind {x : Except ε α} {f : α → Except ε β} (hx : RaisesOnly P x)
    (hf : ∀ a, x = .ok a → RaisesOnly P (f a)) : RaisesOnly P (x >>= f) := by
  intro e he
  cases hrun : x with
  | error raised =>
    rw [hrun] at he
    cases he
    exact hx e hrun
  | ok a =>
    rw [hrun] at he
    exact hf a hrun e he

/-- A condition that holds raises nothing. -/
theorem require {condition : Prop} [Decidable condition] {error : ε} (h : condition) :
    RaisesOnly P (AyyoHumanoid.require condition error) :=
  of_ok (Checks.require_ok (u := ()).mpr h)

/-- A selection raises what its tests raise. -/
theorem selectM {test : α → Except ε Bool} {xs : List α}
    (h : ∀ x ∈ xs, RaisesOnly P (test x)) : RaisesOnly P (selectM test xs) := by
  induction xs with
  | nil => exact of_ok rfl
  | cons x xs ih =>
    refine bind (h x (by simp)) fun keep _ => ?_
    refine bind (ih fun y hy => h y (by simp [hy])) fun rest _ => ?_
    exact of_ok rfl

end RaisesOnly

/-- A state-passing computation that may raise. -/
abbrev Transaction (σ ε α : Type) := StateT σ (Except ε) α

namespace Transaction

variable {σ ε α β ι : Type}

/-- Use the result of a computation that does not touch the state. -/
def lift (x : Except ε α) : Transaction σ ε α := fun s => x.map fun a => (a, s)

/-- A sequence commits when both parts do. -/
theorem run_bind_ok {x : Transaction σ ε α} {f : α → Transaction σ ε β} {s s'' : σ} {b : β} :
    (x >>= f).run s = .ok (b, s'') ↔
      ∃ a s', x.run s = .ok (a, s') ∧ (f a).run s' = .ok (b, s'') := by
  rw [StateT.run_bind, Checks.bind_ok]
  constructor
  · rintro ⟨⟨a, s'⟩, hx, hf⟩
    exact ⟨a, s', hx, hf⟩
  · rintro ⟨a, s', hx, hf⟩
    exact ⟨(a, s'), hx, hf⟩

/-- A returned value changes nothing. -/
@[simp] theorem run_pure_ok {a b : α} {s s' : σ} :
    (pure a : Transaction σ ε α).run s = .ok (b, s') ↔ a = b ∧ s = s' := by
  rw [StateT.run_pure, Checks.pure_ok, Prod.mk.injEq]

/-- Reading the state changes nothing. -/
@[simp] theorem run_get_ok {a s s' : σ} :
    (get : Transaction σ ε σ).run s = .ok (a, s') ↔ s = a ∧ s = s' := by
  simp [StateT.run_get, pure, Except.pure]

/-- Replacing the state. -/
@[simp] theorem run_set_ok {new s s' : σ} {u : PUnit} :
    (set new : Transaction σ ε PUnit).run s = .ok (u, s') ↔ new = s' := by
  simp [StateT.run_set, pure, Except.pure]

/-- A lifted computation commits when it returns, and changes nothing. -/
@[simp] theorem run_lift_ok {x : Except ε α} {s s' : σ} {a : α} :
    (lift x : Transaction σ ε α).run s = .ok (a, s') ↔ x = .ok a ∧ s = s' := by
  cases x with
  | error e => simp [lift, StateT.run, Except.map]
  | ok b => simp [lift, StateT.run, Except.map]

/-- Replace the errors a transaction raises. -/
def mapError (f : ε → ε) (x : Transaction σ ε α) : Transaction σ ε α := fun s =>
  match x.run s with
  | .ok result => .ok result
  | .error e => .error (f e)

/-- Replacing errors does not change what commits. -/
@[simp] theorem run_mapError_ok {f : ε → ε} {x : Transaction σ ε α} {s s' : σ} {a : α} :
    (mapError f x).run s = .ok (a, s') ↔ x.run s = .ok (a, s') := by
  unfold mapError StateT.run
  cases h : x s with
  | error e => simp [h]
  | ok result => simp [h]

/-- The state after a call: its result when it returns, the old state when it raises. -/
def settle (x : Transaction σ ε α) (s : σ) : σ :=
  match x.run s with
  | .ok (_, s') => s'
  | .error _ => s

/-- A committed call settles in its result. -/
theorem settle_ok {x : Transaction σ ε α} {s s' : σ} {a : α} (h : x.run s = .ok (a, s')) :
    settle x s = s' := by
  rw [settle, h]

/-- A raised call is rolled back. -/
theorem settle_error {x : Transaction σ ε α} {s : σ} {e : ε} (h : x.run s = .error e) :
    settle x s = s := by
  rw [settle, h]

/-- A call either commits or leaves the state. -/
theorem settle_cases (x : Transaction σ ε α) (s : σ) :
    (∃ a, x.run s = .ok (a, settle x s)) ∨ ∃ e, x.run s = .error e ∧ settle x s = s := by
  cases h : x.run s with
  | error e => exact Or.inr ⟨e, rfl, settle_error h⟩
  | ok result =>
    obtain ⟨a, s'⟩ := result
    exact Or.inl ⟨a, by rw [settle_ok h]⟩

/-- The state after a sequence of calls. -/
def runAll (call : ι → Transaction σ ε α) (s : σ) (inputs : List ι) : σ :=
  inputs.foldl (fun s input => settle (call input) s) s

/-- Running one call more. -/
@[simp] theorem runAll_append_singleton (call : ι → Transaction σ ε α) (s : σ)
    (inputs : List ι) (input : ι) :
    runAll call s (inputs ++ [input]) = settle (call input) (runAll call s inputs) := by
  simp [runAll]

/-- The first call of a run. -/
@[simp] theorem runAll_cons (call : ι → Transaction σ ε α) (s : σ) (input : ι)
    (inputs : List ι) :
    runAll call s (input :: inputs) = runAll call (settle (call input) s) inputs := rfl

/-- What every committed call preserves holds after every run. -/
theorem runAll_invariant {call : ι → Transaction σ ε α} {P : σ → Prop}
    (hstep : ∀ input s a s', P s → (call input).run s = .ok (a, s') → P s')
    {s : σ} (hs : P s) (inputs : List ι) : P (runAll call s inputs) := by
  induction inputs generalizing s with
  | nil => exact hs
  | cons input inputs ih =>
    rw [runAll_cons]
    refine ih ?_
    rcases settle_cases (call input) s with ⟨a, hok⟩ | ⟨e, -, hsame⟩
    · exact hstep input s a _ hs hok
    · rwa [hsame]

end Transaction
end AyyoHumanoid
