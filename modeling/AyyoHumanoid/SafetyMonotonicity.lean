import AyyoHumanoid.SafetyEligibility

/-!
# Monotonicity of evaluation

A stricter proposal has more assumptions, more required approvals or fewer
declared preconditions and constraints; a stricter policy requires more metadata
or has fewer rules. Stricter inputs never lead to a less restrictive disposition,
for any step and for the whole decision: every demand of a step is met by a demand
of its stricter version that is at least as strong.
-/

namespace AyyoHumanoid
namespace Safety

open PyText JsonText PyCollections

/-- The second step declares no more metadata and requires no fewer approvals than the first. -/
structure StepStricter (first second : Executive.PlanStep) : Prop where
  /-- The identifier is the same. -/
  stepId : first.stepId = second.stepId
  /-- The capability is the same. -/
  capabilityId : first.capabilityId = second.capabilityId
  /-- The dependencies are the same. -/
  dependencies : first.dependencies = second.dependencies
  /-- The expected result is the same. -/
  expectedResult : first.expectedResult = second.expectedResult
  /-- There are no new preconditions. -/
  preconditions : ∀ precondition ∈ second.preconditions, precondition ∈ first.preconditions
  /-- There are no new constraints. -/
  constraints : ∀ c ∈ second.constraints, c ∈ first.constraints
  /-- No approval is lost. -/
  requiredApprovals : ∀ approval ∈ first.requiredApprovals, approval ∈ second.requiredApprovals

/-- The second proposal has stricter steps and no fewer assumptions than the first. -/
structure ProposalStricter (first second : Executive.ExecutiveDecision) : Prop where
  /-- The steps are stricter one by one. -/
  steps : List.Forall₂ StepStricter (planSteps first) (planSteps second)
  /-- No assumption is lost. -/
  assumptions : ∀ assumption ∈ first.assumptions, assumption ∈ second.assumptions

/-- Every rule of the second policy is one of the first with no fewer required identifiers. -/
def PolicyStricter {p : Platform} (first second : SafetyPolicy p) : Prop :=
  ∀ rule ∈ second.capabilityRules, ∃ before ∈ first.capabilityRules,
    before.capabilityId = rule.capabilityId ∧ before.hazardClass = rule.hazardClass ∧
      (∀ id ∈ before.requiredPreconditionIds, id ∈ rule.requiredPreconditionIds) ∧
      ∀ id ∈ before.requiredConstraintIds, id ∈ rule.requiredConstraintIds

/-- A step is as strict as itself. -/
theorem StepStricter.refl (step : Executive.PlanStep) : StepStricter step step where
  stepId := rfl
  capabilityId := rfl
  dependencies := rfl
  expectedResult := rfl
  preconditions := fun _ h => h
  constraints := fun _ h => h
  requiredApprovals := fun _ h => h

/-- A policy is as strict as itself. -/
theorem PolicyStricter.refl {p : Platform} (policy : SafetyPolicy p) :
    PolicyStricter policy policy :=
  fun rule hrule => ⟨rule, hrule, rfl, rfl, fun _ h => h, fun _ h => h⟩

variable {p : Platform}

/-- The greatest elements are ordered when every element is below one of the other set. -/
theorem isGreatest_mono {α : Type} [Preorder α] {S T : Set α} {a b : α} (ha : IsGreatest S a)
    (hb : IsGreatest T b) (h : ∀ x ∈ S, ∃ y ∈ T, x ≤ y) : a ≤ b := by
  obtain ⟨y, hy, hle⟩ := h a ha.1
  exact hle.trans (hb.2 hy)

section Step

variable {policy policy' : SafetyPolicy p} {step step' : Executive.PlanStep}
  {s s' : PlanStepSnapshot} {assumptions assumptions' : List AssumptionSnapshot}

/-- The stricter policy has no rule about a capability, or one of the same class that requires
no less. -/
theorem PolicyStricter.cases (h : PolicyStricter policy policy') (capabilityId : PyStr) :
    policy'.ruleFor capabilityId = none ∨
      ∃ before rule, policy.ruleFor capabilityId = some before ∧
        policy'.ruleFor capabilityId = some rule ∧ before.hazardClass = rule.hazardClass ∧
        (∀ id ∈ before.requiredPreconditionIds, id ∈ rule.requiredPreconditionIds) ∧
        ∀ id ∈ before.requiredConstraintIds, id ∈ rule.requiredConstraintIds := by
  cases hfor : policy'.ruleFor capabilityId with
  | none => exact Or.inl rfl
  | some rule =>
    obtain ⟨hrule, hid⟩ := SafetyPolicy.ruleFor_eq_some.mp hfor
    obtain ⟨before, hbefore, hsame, hclass, hpreconditions, hconstraints⟩ := h rule hrule
    have hforBefore : policy.ruleFor capabilityId = some before :=
      SafetyPolicy.ruleFor_eq_some.mpr ⟨hbefore, hsame.trans hid⟩
    exact Or.inr ⟨before, rule, hforBefore, rfl, hclass, hpreconditions, hconstraints⟩

/-- Every demand of a step is met by the stricter step under the stricter policy. -/
theorem Demands.mono (hpolicy : PolicyStricter policy policy') (hstep : StepStricter step step')
    (hs : StepSnapshotOf p step s) (hs' : StepSnapshotOf p step' s')
    (hassumptions : assumptions ≠ [] → assumptions' ≠ []) {x : SafetyDisposition}
    (h : Demands policy s assumptions x) : ∃ y, Demands policy' s' assumptions' y ∧ x ≤ y := by
  have hcapability : s'.capabilityId = s.capabilityId := by
    rw [hs'.capabilityId, hs.capabilityId, hstep.capabilityId]
  have hresult : s'.expectedResult = s.expectedResult := by
    rw [hs'.expectedResult, hs.expectedResult, hstep.expectedResult]
  rcases hpolicy.cases s.capabilityId with hnone | ⟨before, rule, hbefore, hrule, hclass, hpre, hcon⟩
  · refine ⟨.blocked, .result ?_, x.le_blocked⟩
    rw [hazardOf_of_none (by rw [hcapability]; exact hnone)]
    simp [expectedResults]
  · have hlater : policy'.ruleFor s'.capabilityId = some rule := by
      rw [hcapability]
      exact hrule
    have hhazard : policy'.hazardOf s'.capabilityId = policy.hazardOf s.capabilityId := by
      rw [hazardOf_of_rule hlater, hazardOf_of_rule hbefore, hclass]
    cases h with
    | hazard => exact ⟨_, .hazard, le_of_eq (by rw [hhazard])⟩
    | metadata hlacks =>
      obtain ⟨found, hfound, hlack⟩ := hlacks
      have hsame : found = before := Option.some.inj (hfound.symm.trans hbefore)
      rw [hsame] at hlack
      refine ⟨.blocked, .metadata ⟨rule, hlater, ?_⟩, le_rfl⟩
      rcases hlack with ⟨id, hrequired, hmissing⟩ | ⟨id, hrequired, hmissing⟩
      · refine Or.inl ⟨id, hpre id hrequired, fun hdeclared => hmissing ?_⟩
        rw [hs'.mem_preconditionIds, List.mem_map] at hdeclared
        obtain ⟨precondition, hmem, hid⟩ := hdeclared
        rw [hs.mem_preconditionIds]
        exact List.mem_map.mpr ⟨precondition, hstep.preconditions _ hmem, hid⟩
      · refine Or.inr ⟨id, hcon id hrequired, fun hdeclared => hmissing ?_⟩
        rw [hs'.mem_constraintIds, List.mem_map] at hdeclared
        obtain ⟨declared, hmem, hid⟩ := hdeclared
        rw [hs.mem_constraintIds]
        exact List.mem_map.mpr ⟨declared, hstep.constraints _ hmem, hid⟩
    | result hconflict => exact ⟨.blocked, .result (by rw [hhazard, hresult]; exact hconflict), le_rfl⟩
    | assumption hne => exact ⟨.deferred, .assumption (hassumptions hne), le_rfl⟩
    | approval hne =>
      refine ⟨.externalApprovalRequired, .approval fun hnil => hne ?_, le_rfl⟩
      rw [snapshotItems_eq_nil hs.requiredApprovals]
      rw [snapshotItems_eq_nil hs'.requiredApprovals] at hnil
      refine List.eq_nil_iff_forall_not_mem.mpr fun approval hmem => ?_
      have hlater := hstep.requiredApprovals approval hmem
      rw [hnil] at hlater
      cases hlater

end Step

section Proposal

variable {policy policy' : SafetyPolicy p} {proposal proposal' : Executive.ExecutiveDecision}
  {parts parts' : ProposalParts} {d d' : SafetyDecision}

/-- The steps of an accepted proposal are in the order by rounds of the plan's steps. -/
theorem Accepted.order {requireSourceIntegrity : Bool}
    (h : Accepted p requireSourceIntegrity proposal parts) :
    DependencyRounds.rounds (planSteps proposal).length
      ((planSteps proposal).map fun step => (step.stepId, step.dependencies)) =
        some (parts.steps.map (·.stepId)) := by
  obtain ⟨-, -, snapshots, hsnapshots, hsteps⟩ := snapshotSteps_ok h.steps
  have horder := topologicalSteps_order hsteps
  have hentries : snapshots.map (fun s => (s.stepId, s.dependencies)) =
      (planSteps proposal).map fun step => (step.stepId, step.dependencies) := by
    refine Checks.map_of_mapM_ok hsnapshots _ fun step s hs => ?_
    rw [(snapshotStep_ok hs).stepId, (snapshotStep_ok hs).dependencies]
  rw [hentries, ← (Checks.mapM_ok.mp hsnapshots).length_eq] at horder
  exact horder

/-- A stricter proposal has its steps in the same order. -/
theorem ProposalStricter.stepIds_eq (h : ProposalStricter proposal proposal')
    (haccepted : Accepted p true proposal parts) (haccepted' : Accepted p true proposal' parts') :
    parts.steps.map (·.stepId) = parts'.steps.map (·.stepId) := by
  have hentries : (planSteps proposal).map (fun step => (step.stepId, step.dependencies)) =
      (planSteps proposal').map fun step => (step.stepId, step.dependencies) := by
    have hforall : List.Forall₂ (fun first second : Executive.PlanStep =>
        (first.stepId, first.dependencies) = (second.stepId, second.dependencies))
        (planSteps proposal) (planSteps proposal') :=
      h.steps.imp fun first second hstep => by rw [hstep.stepId, hstep.dependencies]
    rw [← List.forall₂_eq_eq_eq, List.forall₂_map_left_iff, List.forall₂_map_right_iff]
    exact hforall
  have horder := haccepted.order
  rw [hentries, h.steps.length_eq, haccepted'.order, Option.some.injEq] at horder
  exact horder.symm

/-- A step of the stricter proposal with the identifier of a step is its stricter version. -/
theorem ProposalStricter.exists_step (h : ProposalStricter proposal proposal')
    (haccepted' : Accepted p true proposal' parts') {step : Executive.PlanStep}
    (hstep : step ∈ planSteps proposal) {step' : Executive.PlanStep}
    (hstep' : step' ∈ planSteps proposal') (hid : step.stepId = step'.stepId) :
    StepStricter step step' := by
  obtain ⟨index, hindex⟩ := List.getElem?_of_mem hstep
  have hlength := h.steps.length_eq
  obtain ⟨hlt, hget⟩ := List.getElem?_eq_some_iff.mp hindex
  have hlt' : index < (planSteps proposal').length := by omega
  have hother := h.steps.get hlt hlt'
  have hfirst : (planSteps proposal).get ⟨index, hlt⟩ = step := hget
  rw [hfirst] at hother
  have hnodup : ((planSteps proposal').map (·.stepId)).Nodup :=
    haccepted'.stepIds_perm.nodup_iff.mp haccepted'.stepIds_nodup
  have hsame : (planSteps proposal').get ⟨index, hlt'⟩ = step' :=
    List.inj_on_of_nodup_map hnodup (List.get_mem _ _) hstep' (hother.stepId.symm.trans hid)
  rw [hsame] at hother
  exact hother

/-- Stricter policies and proposals never lead to a less restrictive disposition, for any step
and for the whole decision. -/
theorem evaluate_monotone (policy policy' : SafetyPolicy p)
    (proposal proposal' : Executive.ExecutiveDecision) (d d' : SafetyDecision)
    (hpolicy : PolicyStricter policy policy') (hproposal : ProposalStricter proposal proposal')
    (hd : evaluate policy proposal = .ok d) (hd' : evaluate policy' proposal' = .ok d') :
    d.disposition.rank ≤ d'.disposition.rank ∧
      ∀ decision ∈ d.stepDecisions, ∀ decision' ∈ d'.stepDecisions,
        decision.stepId = decision'.stepId →
          decision.disposition.rank ≤ decision'.disposition.rank := by
  obtain ⟨parts, hevaluated⟩ := evaluated hd
  obtain ⟨parts', hevaluated'⟩ := evaluated hd'
  have hids := hproposal.stepIds_eq hevaluated.accepted hevaluated'.accepted
  have hsteps : ∀ decision ∈ d.stepDecisions, ∀ decision' ∈ d'.stepDecisions,
      decision.stepId = decision'.stepId → decision.disposition ≤ decision'.disposition := by
    intro decision hdecision decision' hdecision' hid
    obtain ⟨s, index, hindex, hverdict⟩ := hevaluated.exists_snapshot hdecision
    obtain ⟨s', index', hindex', hverdict'⟩ := hevaluated'.exists_snapshot hdecision'
    obtain ⟨step, hstep, hs⟩ := hevaluated.accepted.exists_step (List.mem_of_getElem? hindex)
    obtain ⟨step', hstep', hs'⟩ :=
      hevaluated'.accepted.exists_step (List.mem_of_getElem? hindex')
    have hsame : s.stepId = s'.stepId := by rw [← hverdict.stepId, hid, hverdict'.stepId]
    have hstricter : StepStricter step step' :=
      hproposal.exists_step hevaluated'.accepted hstep hstep'
        (by rw [← hs.stepId, hsame, hs'.stepId])
    have hat : (parts.steps.map (·.stepId))[index]? = some s.stepId := by
      rw [List.getElem?_map, hindex]
      rfl
    have hat' : (parts.steps.map (·.stepId))[index']? = some s.stepId := by
      rw [hids, List.getElem?_map, hindex', hsame]
      rfl
    have hposition : index = index' := by
      obtain ⟨hlt, -⟩ := List.getElem?_eq_some_iff.mp hat
      exact (List.getElem?_inj hlt hevaluated.accepted.stepIds_nodup).mp (hat.trans hat'.symm)
    have hassumptions : assumptionsAt (snapshotOf p proposal parts) index ≠ [] →
        assumptionsAt (snapshotOf p proposal' parts') index' ≠ [] := by
      rw [← hposition]
      simp only [assumptionsAt, snapshotOf]
      split
      · intro hne hnil
        rw [snapshotItems_eq_nil hevaluated'.accepted.assumptions] at hnil
        refine hne ((snapshotItems_eq_nil hevaluated.accepted.assumptions).mpr ?_)
        refine List.eq_nil_iff_forall_not_mem.mpr fun assumption hmem => ?_
        have hlater := hproposal.assumptions assumption hmem
        rw [hnil] at hlater
        cases hlater
      · intro hne
        exact absurd rfl hne
    exact isGreatest_mono hverdict.greatest hverdict'.greatest fun x hx =>
      Demands.mono hpolicy hstricter hs hs' hassumptions hx
  refine ⟨SafetyDisposition.le_iff.mp
    (isGreatest_mono hevaluated.greatest hevaluated'.greatest fun x hx => ?_), hsteps⟩
  obtain ⟨decision, hdecision, rfl⟩ := hx
  obtain ⟨s, index, hindex, hverdict⟩ := hevaluated.exists_snapshot hdecision
  have hat : (parts'.steps.map (·.stepId))[index]? = some s.stepId := by
    rw [← hids, List.getElem?_map, hindex]
    rfl
  rw [List.getElem?_map, Option.map_eq_some_iff] at hat
  obtain ⟨s', hindex', hsame⟩ := hat
  obtain ⟨decision', hdecision', hverdict'⟩ := hevaluated'.exists_decision hindex'
  exact ⟨_, ⟨decision', hdecision', rfl⟩, hsteps decision hdecision decision' hdecision'
    (by rw [hverdict.stepId, hverdict'.stepId, hsame])⟩

end Proposal

/-- An assumption about a shared calendar. -/
def sampleAssumption : Executive.Assumption := ⟨py "calendar-shared", py "The calendar is shared."⟩

/-- The sample proposal with an assumption is not less restricted than without. -/
theorem sampleProposal_monotone : ∃ d d', evaluate samplePolicy (sampleProposal []) = .ok d ∧
    evaluate samplePolicy (sampleProposal [sampleAssumption]) = .ok d' ∧
      d.disposition.rank ≤ d'.disposition.rank := by
  obtain ⟨d, hd⟩ := exists_ok_of_isSome (x := evaluate samplePolicy (sampleProposal []))
    (by decide)
  obtain ⟨d', hd'⟩ := exists_ok_of_isSome
    (x := evaluate samplePolicy (sampleProposal [sampleAssumption])) (by decide)
  have hstricter : ProposalStricter (sampleProposal []) (sampleProposal [sampleAssumption]) := {
    steps := .cons (StepStricter.refl sampleStep) .nil
    assumptions := fun assumption hassumption => by cases hassumption }
  exact ⟨d, d', hd, hd', (evaluate_monotone samplePolicy samplePolicy _ _ d d'
    (PolicyStricter.refl samplePolicy) hstricter hd hd').1⟩

end Safety
end AyyoHumanoid
