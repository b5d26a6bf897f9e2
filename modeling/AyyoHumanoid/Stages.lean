import Mathlib.Data.List.Basic

/-!
# Staged checks

A stage may change the state and then refuse. Stages run in turn until one of
them refuses, and the changes made so far stay. A relation that every stage
respects is respected by the whole sequence, whatever its outcome, and a
sequence that refuses nothing has passed through every stage.
-/

namespace AyyoHumanoid

/-- A check that may change the state and may refuse. -/
abbrev Stage (σ ρ : Type) : Type := σ → σ × Option ρ

namespace Stage

variable {σ ρ : Type}

/-- A check that leaves the state alone. -/
def refuseWhen (condition : σ → Prop) [DecidablePred condition] (refusal : ρ) : Stage σ ρ :=
  fun s => (s, if condition s then some refusal else none)

/-- A check that needs a value, and refuses where there is none. -/
def requiring {α : Type} (find : σ → Option α) (missing : ρ) (stage : α → Stage σ ρ) :
    Stage σ ρ := fun s =>
  match find s with
  | none => (s, some missing)
  | some value => stage value s

/-- A check that is made under a condition. -/
def onlyWhen (condition : Prop) [Decidable condition] (stage : Stage σ ρ) : Stage σ ρ := fun s =>
  if condition then stage s else (s, none)

/-- Stages in turn, until one refuses. -/
def sequence : List (Stage σ ρ) → Stage σ ρ
  | [], s => (s, none)
  | stage :: stages, s =>
    match stage s with
    | (s', some refusal) => (s', some refusal)
    | (s', none) => sequence stages s'

/-- A stage whose outcome, refused or not, is related to the state before it. -/
def Respects (R : σ → σ → Prop) (stage : Stage σ ρ) : Prop := ∀ s, R s (stage s).1

/-- A check respects every reflexive relation. -/
theorem respects_refuseWhen {R : σ → σ → Prop} (hrefl : ∀ s, R s s) {condition : σ → Prop}
    [DecidablePred condition] {refusal : ρ} : Respects R (refuseWhen condition refusal) :=
  fun s => hrefl s

/-- A check passes when its condition fails. -/
theorem refuseWhen_passed {condition : σ → Prop} [DecidablePred condition] {refusal : ρ}
    {s s' : σ} : refuseWhen condition refusal s = (s', none) ↔ ¬condition s ∧ s = s' := by
  rw [refuseWhen, Prod.mk.injEq, and_comm]
  by_cases h : condition s <;> simp [h]

/-- A check that needs a value respects what its rest respects. -/
theorem respects_requiring {R : σ → σ → Prop} (hrefl : ∀ s, R s s) {α : Type}
    {find : σ → Option α} {missing : ρ} {stage : α → Stage σ ρ}
    (h : ∀ value, Respects R (stage value)) : Respects R (requiring find missing stage) := by
  intro s
  rw [requiring]
  cases find s with
  | none => exact hrefl s
  | some value => exact h value s

/-- A check that needs a value passes when the value is there and the rest passes. -/
theorem requiring_passed {α : Type} {find : σ → Option α} {missing : ρ} {stage : α → Stage σ ρ}
    {s s' : σ} : requiring find missing stage s = (s', none) ↔
      ∃ value, find s = some value ∧ stage value s = (s', none) := by
  rw [requiring]
  cases hfind : find s with
  | none => simp
  | some value => simp

/-- A conditional check respects what the check respects. -/
theorem respects_onlyWhen {R : σ → σ → Prop} (hrefl : ∀ s, R s s) {condition : Prop}
    [Decidable condition] {stage : Stage σ ρ} (h : condition → Respects R stage) :
    Respects R (onlyWhen condition stage) := by
  intro s
  rw [onlyWhen]
  by_cases hcondition : condition
  · rw [if_pos hcondition]
    exact h hcondition s
  · rw [if_neg hcondition]
    exact hrefl s

/-- A conditional check passes at a true condition when the check does. -/
theorem onlyWhen_passed {condition : Prop} [Decidable condition] {stage : Stage σ ρ} {s s' : σ}
    (hcondition : condition) : onlyWhen condition stage s = (s', none) ↔ stage s = (s', none) := by
  rw [onlyWhen, if_pos hcondition]

/-- A sequence of respectful stages is respectful. -/
theorem respects_sequence {R : σ → σ → Prop} (hrefl : ∀ s, R s s)
    (htrans : ∀ {a b c}, R a b → R b c → R a c) {stages : List (Stage σ ρ)}
    (h : ∀ stage ∈ stages, Respects R stage) : Respects R (sequence stages) := by
  induction stages with
  | nil => exact hrefl
  | cons stage stages ih =>
    rw [List.forall_mem_cons] at h
    intro s
    have hstage := h.1 s
    rw [sequence]
    cases hresult : stage s with
    | mk s' refusal =>
      rw [hresult] at hstage
      cases refusal with
      | some refusal => exact hstage
      | none => exact htrans hstage (ih h.2 s')

/-- Nothing to check. -/
@[simp] theorem sequence_nil {s s' : σ} :
    sequence ([] : List (Stage σ ρ)) s = (s', none) ↔ s = s' := by
  simp [sequence]

/-- A sequence passes when its first stage and the others do. -/
theorem sequence_cons {stage : Stage σ ρ} {stages : List (Stage σ ρ)} {s s' : σ} :
    sequence (stage :: stages) s = (s', none) ↔
      ∃ middle, stage s = (middle, none) ∧ sequence stages middle = (s', none) := by
  rw [sequence]
  cases hresult : stage s with
  | mk middle refusal => cases refusal <;> simp

/-- A check whose condition fails does nothing. -/
theorem refuseWhen_idle {condition : σ → Prop} [DecidablePred condition] {refusal : ρ} {s : σ}
    (h : ¬condition s) : refuseWhen condition refusal s = (s, none) := by
  rw [refuseWhen, if_neg h]

/-- A check under a false condition does nothing. -/
theorem onlyWhen_idle {condition : Prop} [Decidable condition] {stage : Stage σ ρ} {s : σ}
    (h : ¬condition) : onlyWhen condition stage s = (s, none) := by
  rw [onlyWhen, if_neg h]

/-- Stages that do nothing in turn do nothing. -/
theorem sequence_idle {stages : List (Stage σ ρ)} {s : σ}
    (h : ∀ stage ∈ stages, stage s = (s, none)) : sequence stages s = (s, none) := by
  induction stages with
  | nil => rfl
  | cons stage stages ih =>
    rw [List.forall_mem_cons] at h
    rw [sequence, h.1]
    exact ih h.2

/-- A passed sequence has passed every stage: before it, at it and after it the state only moved
along a relation that the other stages respect. -/
theorem passed_stage {R : σ → σ → Prop} (hrefl : ∀ s, R s s)
    (htrans : ∀ {a b c}, R a b → R b c → R a c) {stages : List (Stage σ ρ)} {stage : Stage σ ρ}
    {s s' : σ} (h : ∀ other ∈ stages, Respects R other) (hmem : stage ∈ stages)
    (hpassed : sequence stages s = (s', none)) :
    ∃ before after, R s before ∧ stage before = (after, none) ∧ R after s' := by
  induction stages generalizing s with
  | nil => cases hmem
  | cons first stages ih =>
    rw [List.forall_mem_cons] at h
    obtain ⟨middle, hfirst, hrest⟩ := sequence_cons.mp hpassed
    rcases List.mem_cons.mp hmem with rfl | hlater
    · have hafter := respects_sequence hrefl htrans h.2 middle
      rw [hrest] at hafter
      exact ⟨s, middle, hrefl s, hfirst, hafter⟩
    · obtain ⟨before, after, hbefore, hstage, hafter⟩ := ih h.2 hlater hrest
      have hmiddle := h.1 s
      rw [hfirst] at hmiddle
      exact ⟨before, after, htrans hmiddle hbefore, hstage, hafter⟩

section Refusals

variable {bad : ρ → Prop} {stage : Stage σ ρ} {stages : List (Stage σ ρ)} {s : σ}

/-- A stage refuses in a given way. -/
def Refuses (bad : ρ → Prop) (stage : Stage σ ρ) (s : σ) : Prop :=
  ∃ refusal, (stage s).2 = some refusal ∧ bad refusal

/-- A stage that never refuses in a given way. -/
def Harmless (bad : ρ → Prop) (stage : Stage σ ρ) : Prop := ∀ s, ¬Refuses bad stage s

/-- A check whose refusal is of another kind. -/
theorem harmless_refuseWhen {condition : σ → Prop} [DecidablePred condition] {refusal : ρ}
    (h : ¬bad refusal) : Harmless bad (refuseWhen condition refusal) := by
  rintro s ⟨given, hgiven, hbad⟩
  rw [refuseWhen] at hgiven
  by_cases hcondition : condition s
  · rw [if_pos hcondition] at hgiven
    exact h (Option.some.inj hgiven ▸ hbad)
  · rw [if_neg hcondition] at hgiven
    cases hgiven

/-- A check that needs a value, and whose refusals are of another kind. -/
theorem harmless_requiring {α : Type} {find : σ → Option α} {missing : ρ}
    {rest : α → Stage σ ρ} (h : ¬bad missing) (hrest : ∀ value, Harmless bad (rest value)) :
    Harmless bad (requiring find missing rest) := by
  rintro s ⟨given, hgiven, hbad⟩
  rw [requiring] at hgiven
  cases hfind : find s with
  | none =>
    rw [hfind] at hgiven
    exact h (Option.some.inj hgiven ▸ hbad)
  | some value =>
    rw [hfind] at hgiven
    exact hrest value s ⟨given, hgiven, hbad⟩

/-- A sequence refuses as its rest does once a stage has passed without a change. -/
theorem refuses_sequence_idle (h : stage s = (s, none)) :
    Refuses bad (sequence (stage :: stages)) s ↔ Refuses bad (sequence stages) s := by
  rw [Refuses, Refuses, sequence, h]

/-- A sequence of harmless stages is harmless. -/
theorem harmless_sequence (h : ∀ stage ∈ stages, Harmless bad stage) :
    Harmless bad (sequence stages) := by
  induction stages with
  | nil =>
    rintro s ⟨given, hgiven, -⟩
    cases hgiven
  | cons first stages ih =>
    rw [List.forall_mem_cons] at h
    rintro s ⟨given, hgiven, hbad⟩
    rw [sequence] at hgiven
    cases hresult : first s with
    | mk s' refusal =>
      rw [hresult] at hgiven
      cases refusal with
      | some refusal =>
        have hfirst : (first s).2 = some given := by
          rw [hresult]
          exact hgiven
        exact h.1 s ⟨given, hfirst, hbad⟩
      | none => exact ih h.2 s' ⟨given, hgiven, hbad⟩

/-- A sequence refuses as its first stage does when the others are harmless. -/
theorem refuses_sequence_first (h : ∀ other ∈ stages, Harmless bad other) :
    Refuses bad (sequence (stage :: stages)) s ↔ Refuses bad stage s := by
  rw [Refuses, Refuses, sequence]
  cases hresult : stage s with
  | mk s' refusal =>
    cases refusal with
    | some refusal => exact Iff.rfl
    | none =>
      refine iff_of_false (harmless_sequence h s') ?_
      rintro ⟨given, hgiven, -⟩
      cases hgiven

end Refusals

end Stage
end AyyoHumanoid
