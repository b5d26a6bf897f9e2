import AyyoHumanoid.SafetyDispositions

/-!
# Outcomes of evaluation

A returned decision has one step decision for each step of the plan, takes the
greatest of their dispositions and keeps all their requirements. A proposal
without assumptions whose steps demand nothing is returned as eligible: no check
of the constructors refuses it.
-/

namespace AyyoHumanoid
namespace Safety

open PyText JsonText PyCollections

variable {p : Platform}

/-- A decision keeps its sources and the requirements of its steps. -/
theorem SafetyDecisionContent.init_ok {c : SafetyDecisionContent} {d : SafetyDecision}
    (h : c.init p = .ok d) :
    d.toSafetyDecisionContent = c ∧
      IsGreatest {x | ∃ step ∈ d.stepDecisions, step.disposition = x} d.disposition ∧
      (∀ a, a ∈ d.requiredApprovals ↔ ∃ step ∈ d.stepDecisions, a ∈ step.requiredApprovals) ∧
      ∀ u, u ∈ d.unresolvedPrerequisites ↔
        ∃ step ∈ d.stepDecisions, u ∈ step.unresolvedPrerequisites := by
  rw [init, Checks.unit_bind_ok] at h
  obtain ⟨-, h⟩ := h
  split at h
  · cases h
  · rename_i first others hsteps
    rw [Checks.require_bind_ok, Checks.require_bind_ok, Checks.require_bind_ok,
      Checks.require_bind_ok, Checks.bind_ok] at h
    obtain ⟨-, -, -, -, fingerprint, -, h⟩ := h
    rw [Checks.pure_ok] at h
    rw [← h]
    refine ⟨rfl, ?_, fun a => ?_, fun u => ?_⟩
    · have hgreatest := strongest_isGreatest first.disposition (others.map (·.disposition))
      have hset : {x | ∃ step ∈ c.stepDecisions, step.disposition = x} =
          {x | x ∈ first.disposition :: others.map (·.disposition)} := by
        rw [hsteps]
        ext x
        simp [eq_comm]
      rw [hset]
      exact hgreatest
    · simp [approvals]
    · simp [prerequisites]

/-- What a returned decision is made of. -/
structure Evaluated (policy : SafetyPolicy p) (proposal : Executive.ExecutiveDecision)
    (parts : ProposalParts) (d : SafetyDecision) : Prop where
  accepted : Accepted p true proposal parts
  /-- The step decisions are those of the step snapshots. -/
  steps : evaluateSteps policy (snapshotOf p proposal parts) = .ok d.stepDecisions
  greatest : IsGreatest {x | ∃ step ∈ d.stepDecisions, step.disposition = x} d.disposition
  /-- The approvals are those of the steps. -/
  approvals : ∀ a, a ∈ d.requiredApprovals ↔ ∃ step ∈ d.stepDecisions, a ∈ step.requiredApprovals
  /-- The prerequisites are those of the steps. -/
  prerequisites : ∀ u, u ∈ d.unresolvedPrerequisites ↔
    ∃ step ∈ d.stepDecisions, u ∈ step.unresolvedPrerequisites

/-- The content of the decision on a proposal with the given parts. -/
def decisionContent (policy : SafetyPolicy p) (snapshot : SafetyProposalSnapshot)
    (stepDecisions : List SafetyStepDecision) : SafetyDecisionContent where
  sourceDecisionId := snapshot.sourceDecisionId
  sourceRequestId := snapshot.sourceRequestId
  ownerSubject := snapshot.ownerSubject
  sourceDecisionFingerprint := snapshot.sourceDecisionFingerprint
  policyVersion := policy.version
  policyFingerprint := policy.fingerprint
  proposalFingerprint := snapshot.fingerprint
  stepDecisions := stepDecisions

/-- Evaluation returns when the snapshot, the steps and the decision do. -/
theorem evaluate_ok {policy : SafetyPolicy p} {proposal : Executive.ExecutiveDecision}
    {d : SafetyDecision} : evaluate policy proposal = .ok d ↔
      ∃ parts stepDecisions, Accepted p true proposal parts ∧
        evaluateSteps policy (snapshotOf p proposal parts) = .ok stepDecisions ∧
        (decisionContent policy (snapshotOf p proposal parts) stepDecisions).init p = .ok d := by
  rw [evaluate, Checks.bind_ok]
  simp only [snapshotProposal_ok, Checks.bind_ok]
  constructor
  · rintro ⟨_, ⟨parts, haccepted, rfl⟩, stepDecisions, hsteps, hinit⟩
    exact ⟨parts, stepDecisions, haccepted, hsteps, hinit⟩
  · rintro ⟨parts, stepDecisions, haccepted, hsteps, hinit⟩
    exact ⟨_, ⟨parts, haccepted, rfl⟩, stepDecisions, hsteps, hinit⟩

/-- A returned decision is evaluated. -/
theorem evaluated {policy : SafetyPolicy p} {proposal : Executive.ExecutiveDecision}
    {d : SafetyDecision} (h : evaluate policy proposal = .ok d) :
    ∃ parts, Evaluated policy proposal parts d := by
  obtain ⟨parts, stepDecisions, haccepted, hsteps, hinit⟩ := evaluate_ok.mp h
  obtain ⟨hcontent, hgreatest, happrovals, hprerequisites⟩ := SafetyDecisionContent.init_ok hinit
  have hdecisions : d.stepDecisions = stepDecisions :=
    congrArg SafetyDecisionContent.stepDecisions hcontent
  refine ⟨parts, haccepted, ?_, hgreatest, happrovals, hprerequisites⟩
  rw [hdecisions]
  exact hsteps

namespace Evaluated

variable {policy : SafetyPolicy p} {proposal : Executive.ExecutiveDecision}
  {parts : ProposalParts} {d : SafetyDecision}

/-- Every step decision is about a step snapshot at some position. -/
theorem exists_snapshot (h : Evaluated policy proposal parts d) {step : SafetyStepDecision}
    (hstep : step ∈ d.stepDecisions) :
    ∃ s index, parts.steps[index]? = some s ∧
      StepVerdict policy s (assumptionsAt (snapshotOf p proposal parts) index) step := by
  obtain ⟨item, hitem, hok⟩ := (Checks.mem_of_mapM_ok h.steps).mp hstep
  exact ⟨item.1, item.2, List.mem_zipIdx_iff_getElem?.mp hitem, evaluateStep_ok hok⟩

/-- Every step snapshot has a step decision. -/
theorem exists_decision (h : Evaluated policy proposal parts d) {s : PlanStepSnapshot}
    {index : Nat} (hs : parts.steps[index]? = some s) :
    ∃ step ∈ d.stepDecisions,
      StepVerdict policy s (assumptionsAt (snapshotOf p proposal parts) index) step := by
  have hmem : (s, index) ∈ parts.steps.zipIdx := List.mem_zipIdx_iff_getElem?.mpr hs
  obtain ⟨step, hok⟩ := Checks.exists_mapM_ok.mp ⟨d.stepDecisions, h.steps⟩ _ hmem
  exact ⟨step, (Checks.mem_of_mapM_ok h.steps).mpr ⟨_, hmem, hok⟩, evaluateStep_ok hok⟩

/-- The step decisions are about the steps of the plan, each once. -/
theorem stepIds_perm (h : Evaluated policy proposal parts d) :
    (d.stepDecisions.map (·.stepId)).Perm ((planSteps proposal).map (·.stepId)) := by
  have hids : d.stepDecisions.map (·.stepId) = parts.steps.map (·.stepId) := by
    have hview := Checks.map_of_mapM_ok h.steps (PlanStepSnapshot.stepId ∘ Prod.fst)
      fun item step hok => (evaluateStep_ok hok).stepId
    rw [hview, ← List.map_map, List.zipIdx_map_fst]
    rfl
  rw [hids]
  exact h.accepted.stepIds_perm

end Evaluated
end Safety
end AyyoHumanoid
