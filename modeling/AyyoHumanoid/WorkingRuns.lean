import AyyoHumanoid.WorkingService
import Mathlib.Data.List.Induction

/-!
# Runs of the working memory

A call ingests an observation, reads at a time, or resets. A call that raises
changes nothing. Whatever the call, the evidence afterwards is the old one, none,
the unexpired one, or the unexpired one with an accepted observation placed in it.
-/

namespace AyyoHumanoid
namespace Working

open PyText JsonText PyCollections World

variable {p : Platform}

section Calls

/-- The calls of a `WorkingMemory`. -/
inductive WorkingCall (p : Platform) where
  | ingest (observation : Observation p) (nowNs receivedAtMonotonicNs : Int)
  /-- `current_snapshot`, `recent_evidence`, `query_freshness` and `stats`. -/
  | read (nowNs : Int)
  | reset

/-- The state after a call. -/
def WorkingState.apply (runtime : WorkingRuntime) (memory : WorkingMemory)
    (state : WorkingState p) : WorkingCall p → WorkingState p
  | .ingest observation nowNs receivedAtMonotonicNs =>
    match state.ingest runtime memory observation nowNs receivedAtMonotonicNs with
    | .ok (_, after) => after
    | .error _ => state
  | .read nowNs =>
    match state.advanceTime memory.config nowNs with
    | .ok after => after
    | .error _ => state
  | .reset => .reset

/-- The state after calls on a new `WorkingMemory`. -/
def stateAfter (runtime : WorkingRuntime) (memory : WorkingMemory)
    (calls : List (WorkingCall p)) : WorkingState p :=
  calls.foldl (fun state call => state.apply runtime memory call) .reset

/-- The state after one more call. -/
theorem stateAfter_concat {runtime : WorkingRuntime} {memory : WorkingMemory}
    {calls : List (WorkingCall p)} {call : WorkingCall p} :
    stateAfter runtime memory (calls ++ [call]) =
      (stateAfter runtime memory calls).apply runtime memory call := by
  rw [stateAfter, List.foldl_append]
  rfl

/-- What holds at first and is kept by every call holds after every run. -/
theorem stateAfter_invariant {runtime : WorkingRuntime} {memory : WorkingMemory}
    {P : WorkingState p → Prop} (hreset : P .reset)
    (hstep : ∀ state call, P state → P (state.apply runtime memory call))
    (calls : List (WorkingCall p)) : P (stateAfter runtime memory calls) := by
  induction calls using List.reverseRecOn with
  | nil => exact hreset
  | append_singleton calls call ih =>
    rw [stateAfter_concat]
    exact hstep _ call ih

end Calls

section Steps

variable {runtime : WorkingRuntime} {memory : WorkingMemory} {state advanced after : WorkingState p}
  {observation rebuilt : Observation p} {envelope : EvidenceEnvelope p} {result : IngestionResult}
  {nowNs receivedAtMonotonicNs : Int}

/-- The clock advances to a time that is valid and does not precede the last one. -/
theorem advanceTime_ok : state.advanceTime memory.config nowNs = .ok advanced ↔
    (0 ≤ nowNs ∧ nowNs ≤ maxObservationTimeNs) ∧ (∀ last ∈ state.lastNowNs, ¬nowNs < last) ∧
      { state with
        evidence := state.evidence.purge memory.config nowNs.toNat
        lastNowNs := some nowNs.toNat } = advanced := by
  rw [WorkingState.advanceTime, Checks.require_bind_ok, Checks.require_bind_ok, Checks.pure_ok]

/-- An ingestion that returns has rebuilt the observation and advanced the clock. -/
theorem ingest_ok (h : state.ingest runtime memory observation nowNs receivedAtMonotonicNs =
    .ok (result, after)) : ∃ rebuilt envelope advanced,
      rebuildObservation runtime.normalize observation = .ok rebuilt ∧
      EvidenceEnvelope.build runtime.normalize rebuilt receivedAtMonotonicNs = .ok envelope ∧
      state.advanceTime memory.config nowNs = .ok advanced ∧
      advanced.receive runtime memory rebuilt envelope nowNs.toNat = (result, after) := by
  simp only [WorkingState.ingest, Checks.bind_ok, Checks.mapError_ok, Checks.pure_ok] at h
  obtain ⟨rebuilt, hrebuilt, envelope, henvelope, advanced, hadvanced, hreceive⟩ := h
  exact ⟨rebuilt, envelope, advanced, hrebuilt, henvelope, hadvanced, hreceive⟩

/-- What a refusal leaves alone. -/
theorem decline_evidence {refusal : Refusal} {observationId : ObservationId} :
    (state.decline observationId refusal).2.evidence = state.evidence := by
  cases refusal <;> rfl

/-- A refusal accepts nothing. -/
theorem decline_status {refusal : Refusal} {observationId : ObservationId} :
    (state.decline observationId refusal).1.status ≠ .accepted := by
  cases refusal with
  | duplicate detail => exact fun h => nomatch h
  | rejected reason detail => exact fun h => nomatch h

/-- An observation is placed, or it is not accepted and the evidence stays as it is. -/
theorem receive_cases
    (h : state.receive runtime memory rebuilt envelope nowNs.toNat = (result, after)) :
    (after.evidence = state.evidence ∧ result.status ≠ .accepted) ∨
      ∃ placement, place runtime memory state.evidence rebuilt nowNs.toNat = .ok placement ∧
        after.evidence = (placement.evidence.bound memory.config envelope).dropOrphans ∧
        result.status = .accepted ∧ result.updatedKeys = placement.updated := by
  rw [WorkingState.receive] at h
  split at h
  · have hafter := congrArg Prod.snd h
    have hresult := congrArg Prod.fst h
    simp only at hafter hresult
    rw [← hafter, ← hresult]
    exact Or.inl ⟨decline_evidence, decline_status⟩
  · dsimp only at h
    cases hplace : place runtime memory state.evidence rebuilt nowNs.toNat with
    | error refusal =>
      rw [hplace] at h
      have hafter := congrArg Prod.snd h
      have hresult := congrArg Prod.fst h
      simp only at hafter hresult
      rw [← hafter, ← hresult]
      exact Or.inl ⟨decline_evidence, decline_status⟩
    | ok placement =>
      rw [hplace] at h
      have hafter := congrArg Prod.snd h
      have hresult := congrArg Prod.fst h
      simp only at hafter hresult
      rw [← hafter, ← hresult]
      exact Or.inr ⟨placement, rfl, rfl, rfl, rfl⟩

/-- An envelope holds the reconstruction of its observation and a valid receipt time. -/
theorem build_ok {normalize : Quaternion → Option Quaternion} :
    EvidenceEnvelope.build normalize rebuilt receivedAtMonotonicNs = .ok envelope ↔
    rebuildObservation normalize rebuilt = .ok envelope.observation ∧
      (0 ≤ receivedAtMonotonicNs ∧ receivedAtMonotonicNs ≤ 2 ^ 63 - 1) ∧
      receivedAtMonotonicNs.toNat = envelope.receivedAtMonotonicNs := by
  simp only [EvidenceEnvelope.build, Checks.bind_ok, Checks.mapError_ok, Checks.require_ok,
    Checks.pure_ok]
  constructor
  · rintro ⟨again, hagain, -, hreceipt, rfl⟩
    exact ⟨hagain, hreceipt, rfl⟩
  · rintro ⟨hagain, hreceipt, heq⟩
    exact ⟨envelope.observation, hagain, (), hreceipt, by rw [heq]⟩

/-- What a call does to the evidence. -/
inductive Effect (runtime : WorkingRuntime) (memory : WorkingMemory) (evidence : Evidence p) :
    Evidence p → Prop where
  /-- The call raised. -/
  | unchanged : Effect runtime memory evidence evidence
  | reset : Effect runtime memory evidence .empty
  /-- The clock advanced. -/
  | purged (nowNs : Nat) : Effect runtime memory evidence (evidence.purge memory.config nowNs)
  /-- The clock advanced and an observation was accepted. -/
  | placed (nowNs : Nat) {observation : Observation p} {envelope : EvidenceEnvelope p}
      {placement : Placement p}
      (hplace : place runtime memory (evidence.purge memory.config nowNs) observation nowNs =
        .ok placement)
      (hrebuilt : rebuildObservation runtime.normalize observation = .ok envelope.observation) :
      Effect runtime memory evidence (placement.evidence.bound memory.config envelope).dropOrphans

/-- Every call has one of the four effects. -/
theorem effect_apply (state : WorkingState p) (call : WorkingCall p) :
    Effect runtime memory state.evidence (state.apply runtime memory call).evidence := by
  cases call with
  | reset => exact .reset
  | read nowNs =>
    rw [WorkingState.apply]
    cases hadvance : state.advanceTime memory.config nowNs with
    | error fault => exact .unchanged
    | ok advanced =>
      obtain ⟨-, -, rfl⟩ := advanceTime_ok.mp hadvance
      exact .purged nowNs.toNat
  | ingest observation nowNs receivedAtMonotonicNs =>
    rw [WorkingState.apply]
    cases hingest : state.ingest runtime memory observation nowNs receivedAtMonotonicNs with
    | error fault => exact .unchanged
    | ok outcome =>
      obtain ⟨result, after⟩ := outcome
      obtain ⟨rebuilt, envelope, advanced, -, henvelope, hadvance, hreceive⟩ := ingest_ok hingest
      obtain ⟨-, -, rfl⟩ := advanceTime_ok.mp hadvance
      rcases receive_cases hreceive with ⟨hsame, -⟩ | ⟨placement, hplace, hafter, -⟩
      · simp only
        rw [hsame]
        exact .purged nowNs.toNat
      · simp only
        rw [hafter]
        exact .placed nowNs.toNat hplace (build_ok.mp henvelope).1

/-- What every effect keeps holds of the evidence after every run. -/
theorem evidence_invariant {P : Evidence p → Prop} (hempty : P .empty)
    (hstep : ∀ before after, Effect runtime memory before after → P before → P after)
    (calls : List (WorkingCall p)) : P (stateAfter runtime memory calls).evidence :=
  stateAfter_invariant (P := fun state => P state.evidence) hempty
    (fun state call h => hstep _ _ (effect_apply state call) h) calls

end Steps

end Working
end AyyoHumanoid
