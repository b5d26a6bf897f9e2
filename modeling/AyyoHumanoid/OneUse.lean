import Mathlib.Data.List.Basic
import Mathlib.Logic.Function.Basic

/-!
# Tokens that are used once

A log records steps. A step may issue tokens and may use one. Tokens that were
issued and not used yet are held. When every held token has an issuing step that
no use was charged to, every use can be charged to an earlier issuing step of the
same token, no two uses of a token to one step.
-/

namespace AyyoHumanoid
namespace OneUse

variable {τ ι : Type} (issues : τ → ι → Prop) (uses : τ → ι → Prop)

/-- A step of the log uses a token. -/
def UsedAt (log : List τ) (i : Nat) (token : ι) : Prop := ∃ step ∈ log[i]?, uses step token

/-- A step of the log issues a token. -/
def IssuedAt (log : List τ) (i : Nat) (token : ι) : Prop := ∃ step ∈ log[i]?, issues step token

/-- Every use is charged to an earlier issue of the token, and to one of its own. -/
structure Charged (log : List τ) (charge : Nat → Nat) : Prop where
  /-- The issue is earlier. -/
  earlier : ∀ i token, UsedAt uses log i token → charge i < i
  /-- The token was issued there. -/
  issued : ∀ i token, UsedAt uses log i token → IssuedAt issues log (charge i) token
  /-- No two uses of a token are charged to one issue. -/
  injective : ∀ i j token, UsedAt uses log i token → UsedAt uses log j token →
    charge i = charge j → i = j

/-- A token has an issue that no use is charged to. -/
def Free (log : List τ) (charge : Nat → Nat) (token : ι) : Prop :=
  ∃ k, IssuedAt issues log k token ∧ ∀ i, UsedAt uses log i token → charge i ≠ k

/-- Every use is charged and every held token is free. -/
def Backed (held : ι → Prop) (log : List τ) : Prop :=
  ∃ charge, Charged issues uses log charge ∧ ∀ token, held token → Free issues uses log charge token

variable {issues uses} {log : List τ} {step : τ} {i : Nat} {token : ι}

/-- A step of a longer log. -/
theorem step_append : (∃ s ∈ (log ++ [step])[i]?, uses s token) ↔
    UsedAt uses log i token ∨ (i = log.length ∧ uses step token) := by
  rw [UsedAt]
  by_cases hi : i < log.length
  · rw [List.getElem?_append_left hi]
    constructor
    · exact Or.inl
    · rintro (h | ⟨rfl, -⟩)
      · exact h
      · omega
  · rw [List.getElem?_append_right (by omega), List.getElem?_eq_none (by omega : log.length ≤ i)]
    constructor
    · rintro ⟨s, hs, huses⟩
      have hzero : i - log.length = 0 := by
        by_contra hne
        rw [List.getElem?_eq_none (by simp; omega)] at hs
        cases hs
      rw [hzero] at hs
      obtain rfl : step = s := Option.some.inj hs
      exact Or.inr ⟨by omega, huses⟩
    · rintro (⟨s, hs, -⟩ | ⟨rfl, huses⟩)
      · cases hs
      · exact ⟨step, by simp, huses⟩

/-- A use is at a step of the log. -/
theorem UsedAt.lt (h : UsedAt uses log i token) : i < log.length := by
  obtain ⟨s, hs, -⟩ := h
  exact (List.getElem?_eq_some_iff.mp hs).1

/-- Nothing is used in an empty log. -/
theorem backed_nil {held : ι → Prop} (h : ∀ token, ¬held token) : Backed issues uses held [] :=
  ⟨id, ⟨fun _ _ hused => absurd hused.lt (Nat.not_lt_zero _),
    fun _ _ hused => absurd hused.lt (Nat.not_lt_zero _),
    fun _ _ _ hused => absurd hused.lt (Nat.not_lt_zero _)⟩, fun token hheld =>
    absurd hheld (h token)⟩

/-- An issue in a log is one in a longer log. -/
theorem IssuedAt.extend (h : IssuedAt issues log i token) :
    IssuedAt issues (log ++ [step]) i token :=
  step_append.mpr (Or.inl h)

/-- A token that the last step issues is free when uses are charged to earlier steps. -/
theorem free_of_issued {charge : Nat → Nat} (hissued : issues step token)
    (hearlier : ∀ i, UsedAt uses (log ++ [step]) i token → charge i < log.length) :
    Free issues uses (log ++ [step]) charge token :=
  ⟨log.length, step_append.mpr (Or.inr ⟨rfl, hissued⟩), fun i hi =>
    Nat.ne_of_lt (hearlier i hi)⟩

/-- A step that uses nothing. -/
theorem Backed.idle {held held' : ι → Prop} (h : Backed issues uses held log)
    (hidle : ∀ token, ¬uses step token)
    (hheld : ∀ token, held' token → held token ∨ issues step token) :
    Backed issues uses held' (log ++ [step]) := by
  obtain ⟨charge, hcharged, hfree⟩ := h
  have hold : ∀ {i token}, UsedAt uses (log ++ [step]) i token → UsedAt uses log i token := by
    intro i token hi
    rcases step_append.mp hi with hi | ⟨-, huses⟩
    · exact hi
    · exact absurd huses (hidle token)
  refine ⟨charge, ⟨fun i token hi => hcharged.earlier i token (hold hi),
    fun i token hi => (hcharged.issued i token (hold hi)).extend,
    fun i j token hi hj => hcharged.injective i j token (hold hi) (hold hj)⟩, ?_⟩
  intro token htoken
  rcases hheld token htoken with hbefore | hnow
  · obtain ⟨k, hk, hunused⟩ := hfree token hbefore
    exact ⟨k, hk.extend, fun i hi => hunused i (hold hi)⟩
  · refine free_of_issued hnow fun i hi => ?_
    have hearlier := hcharged.earlier i token (hold hi)
    have hlength := (hold hi).lt
    omega

/-- A step that uses a token is charged to the issue that was free. -/
theorem Charged.use {charge : Nat → Nat} {k : Nat} (h : Charged issues uses log charge)
    (hsingle : ∀ other, uses step other → other = token)
    (hissued : IssuedAt issues log k token) (hunused : ∀ i, UsedAt uses log i token → charge i ≠ k) :
    Charged issues uses (log ++ [step]) (Function.update charge log.length k) := by
  have hcharge : ∀ {i other}, UsedAt uses log i other →
      Function.update charge log.length k i = charge i := fun hi =>
    Function.update_of_ne (Nat.ne_of_lt hi.lt) _ _
  have hlast : Function.update charge log.length k log.length = k := Function.update_self _ _ _
  refine ⟨?_, ?_, ?_⟩
  · intro i other hi
    rcases step_append.mp hi with hi | ⟨rfl, -⟩
    · rw [hcharge hi]
      exact h.earlier i other hi
    · rw [hlast]
      exact UsedAt.lt hissued
  · intro i other hi
    rcases step_append.mp hi with hi | ⟨rfl, hother⟩
    · rw [hcharge hi]
      exact (h.issued i other hi).extend
    · rw [hlast, hsingle other hother]
      exact hissued.extend
  · intro i j other hi hj heq
    rcases step_append.mp hi with hi | ⟨rfl, hother⟩
    · rcases step_append.mp hj with hj | ⟨rfl, hother⟩
      · rw [hcharge hi, hcharge hj] at heq
        exact h.injective i j other hi hj heq
      · rw [hcharge hi, hlast] at heq
        rw [hsingle other hother] at hi
        exact absurd heq (hunused i hi)
    · rcases step_append.mp hj with hj | ⟨rfl, -⟩
      · rw [hcharge hj, hlast] at heq
        rw [hsingle other hother] at hj
        exact absurd heq.symm (hunused j hj)
      · rfl

/-- A step that uses a token, which is not held afterwards. -/
theorem Backed.use {held held' : ι → Prop} (h : Backed issues uses held log)
    (hsingle : ∀ other, uses step other → other = token) (hbefore : held token)
    (hafter : ¬held' token) (hheld : ∀ token, held' token → held token ∨ issues step token) :
    Backed issues uses held' (log ++ [step]) := by
  obtain ⟨charge, hcharged, hfree⟩ := h
  obtain ⟨k, hk, hunused⟩ := hfree token hbefore
  refine ⟨_, hcharged.use hsingle hk hunused, fun other hother => ?_⟩
  have hold : ∀ {i}, UsedAt uses (log ++ [step]) i other → UsedAt uses log i other := by
    intro i hi
    rcases step_append.mp hi with hi | ⟨-, huses⟩
    · exact hi
    · exact absurd (hsingle other huses ▸ hother) hafter
  have hcharge : ∀ {i}, UsedAt uses log i other →
      Function.update charge log.length k i = charge i := fun hi =>
    Function.update_of_ne (Nat.ne_of_lt hi.lt) _ _
  rcases hheld other hother with hearlier | hnow
  · obtain ⟨l, hl, hfree⟩ := hfree other hearlier
    refine ⟨l, hl.extend, fun i hi => ?_⟩
    rw [hcharge (hold hi)]
    exact hfree i (hold hi)
  · refine free_of_issued hnow fun i hi => ?_
    rw [hcharge (hold hi)]
    have hearlier := hcharged.earlier i other (hold hi)
    have hlength := (hold hi).lt
    omega

/-- A step keeps the log backed when it uses at most one token, which was held and is not held
afterwards, and when tokens held afterwards were held before or are issued by it. -/
theorem Backed.extend {held held' : ι → Prop} (h : Backed issues uses held log)
    (hsingle : ∀ token other, uses step token → uses step other → token = other)
    (hused : ∀ token, uses step token → held token ∧ ¬held' token)
    (hheld : ∀ token, held' token → held token ∨ issues step token) :
    Backed issues uses held' (log ++ [step]) := by
  by_cases huse : ∃ token, uses step token
  · obtain ⟨token, htoken⟩ := huse
    have hboth := hused token htoken
    exact h.use (fun other hother => hsingle other token hother htoken) hboth.1 hboth.2 hheld
  · exact h.idle (fun token huses => huse ⟨token, huses⟩) hheld

end OneUse
end AyyoHumanoid
