import AyyoHumanoid.SafetyFacts
import Mathlib.Order.Bounds.Basic

/-!
# What a step demands

A step makes demands: its hazard class demands a minimum, missing metadata and a
disallowed result demand a block, an assumption demands a deferral, an approval
demands that somebody approves. The disposition of a step decision is the
greatest demand of the step, and the disposition of a decision is the greatest of
its steps.
-/

namespace AyyoHumanoid
namespace Safety

open PyText JsonText PyCollections

/-- A disposition is determined by its rank. -/
theorem SafetyDisposition.rank_injective : Function.Injective SafetyDisposition.rank := by
  intro left right h
  cases left <;> cases right <;> first | rfl | cases h

/-- Dispositions are ordered by their rank. -/
instance : LinearOrder SafetyDisposition :=
  LinearOrder.lift' SafetyDisposition.rank SafetyDisposition.rank_injective

/-- The order is that of the ranks. -/
theorem SafetyDisposition.le_iff {left right : SafetyDisposition} :
    left ≤ right ↔ left.rank ≤ right.rank := Iff.rfl

/-- A block is the greatest disposition. -/
theorem SafetyDisposition.le_blocked (disposition : SafetyDisposition) :
    disposition ≤ .blocked := by
  rw [le_iff]
  cases disposition <;> decide

/-- Eligibility is the least disposition. -/
theorem SafetyDisposition.eligible_le (disposition : SafetyDisposition) :
    .eligibleForDownstream ≤ disposition := by
  rw [le_iff]
  cases disposition <;> decide

/-- The stronger of two dispositions is the greater one. -/
theorem stronger_eq_max (left right : SafetyDisposition) : stronger left right = max left right := by
  cases left <;> cases right <;> decide

/-- The strongest of some dispositions is the greatest of them. -/
theorem strongest_isGreatest (first : SafetyDisposition) (others : List SafetyDisposition) :
    IsGreatest {d | d ∈ first :: others} (strongest first others) := by
  induction others generalizing first with
  | nil => simp [strongest, IsGreatest, upperBounds]
  | cons other others ih =>
    have hrest := ih (max first other)
    have hstep : strongest first (other :: others) = strongest (max first other) others := by
      rw [strongest, List.foldl_cons, stronger_eq_max]
      rfl
    rw [hstep]
    constructor
    · have hmem := hrest.1
      simp only [Set.mem_ofPred_eq, List.mem_cons] at hmem ⊢
      rcases hmem with heq | hmem
      · rw [heq]
        rcases max_choice first other with h | h
        · exact Or.inl h
        · exact Or.inr (Or.inl h)
      · exact Or.inr (Or.inr hmem)
    · intro d hd
      have hfirst : max first other ≤ strongest (max first other) others := hrest.2 (by simp)
      simp only [Set.mem_ofPred_eq, List.mem_cons] at hd
      rcases hd with rfl | rfl | hd
      · exact le_trans (le_max_left _ _) hfirst
      · exact le_trans (le_max_right _ _) hfirst
      · exact hrest.2 (by simp [hd])

section Constructors

variable {p : Platform}

/-- An approval requirement keeps its attributes. -/
theorem SafetyApprovalRequirement.construct_ok {a b : SafetyApprovalRequirement} :
    a.construct p = .ok b ↔
      (CleanIdentifier p maxIdentifierLength a.requirementId ∧
        CleanIdentifier p maxIdentifierLength a.affectedStepId ∧ CleanText a.description) ∧
      a = b := by
  simp only [construct, Checks.unit_bind_ok, validateIdentifier_ok, validateText_ok,
    Checks.pure_ok, and_assoc]

/-- A prerequisite keeps its attributes. -/
theorem UnresolvedSafetyPrerequisite.construct_ok {a b : UnresolvedSafetyPrerequisite} :
    a.construct p = .ok b ↔
      (CleanIdentifier p maxIdentifierLength a.prerequisiteId ∧
        CleanIdentifier p maxIdentifierLength a.affectedStepId ∧ CleanText a.description) ∧
      a = b := by
  simp only [construct, Checks.unit_bind_ok, validateIdentifier_ok, validateText_ok,
    Checks.pure_ok, and_assoc]

/-- A step decision keeps its attributes, with its requirements in order. -/
theorem SafetyStepDecision.init_ok {d result : SafetyStepDecision} (h : d.init p = .ok result) :
    result.stepId = d.stepId ∧ result.capabilityId = d.capabilityId ∧
      result.hazardClass = d.hazardClass ∧ result.disposition = d.disposition ∧
      (∀ a, a ∈ result.requiredApprovals ↔ a ∈ d.requiredApprovals) ∧
      ∀ u, u ∈ result.unresolvedPrerequisites ↔ u ∈ d.unresolvedPrerequisites := by
  rw [init, Checks.unit_bind_ok, Checks.unit_bind_ok, Checks.require_bind_ok,
    Checks.require_bind_ok, Checks.bind_ok] at h
  obtain ⟨-, -, -, -, rules, -, h⟩ := h
  rw [Checks.require_bind_ok, Checks.bind_ok] at h
  obtain ⟨-, approvals, happrovals, h⟩ := h
  rw [Checks.bind_ok] at h
  obtain ⟨prerequisites, hprerequisites, h⟩ := h
  rw [Checks.unit_bind_ok, Checks.unit_bind_ok, Checks.pure_ok] at h
  obtain ⟨-, -, rfl⟩ := h
  rw [orderedObjects, Checks.require_bind_ok, orderedUnique_ok] at happrovals hprerequisites
  rw [← happrovals.2.2, ← hprerequisites.2.2]
  exact ⟨rfl, rfl, rfl, rfl, fun a => mem_sortBy, fun u => mem_sortBy⟩

end Constructors

section Demands

variable {p : Platform}

/-- The rule of a policy about a capability. -/
def SafetyPolicy.ruleFor (policy : SafetyPolicy p) (capabilityId : PyStr) :
    Option (CapabilitySafetyRule p) :=
  policy.capabilityRules.find? fun rule => rule.capabilityId = capabilityId

/-- The rule about a capability is the one with its identifier. -/
theorem SafetyPolicy.ruleFor_eq_some {policy : SafetyPolicy p} {capabilityId : PyStr}
    {rule : CapabilitySafetyRule p} :
    policy.ruleFor capabilityId = some rule ↔
      rule ∈ policy.capabilityRules ∧ rule.capabilityId = capabilityId :=
  find_eq_some_iff policy.capabilityIds_nodup

/-- The hazard class that a policy gives a capability. -/
def SafetyPolicy.hazardOf (policy : SafetyPolicy p) (capabilityId : PyStr) : HazardClass :=
  stepHazard (policy.ruleFor capabilityId)

/-- A rule requires metadata that a step does not declare. -/
def Lacks (rule : CapabilityRuleContent) (preconditionIds constraintIds : List PyStr) : Prop :=
  (∃ id ∈ rule.requiredPreconditionIds, id ∉ preconditionIds) ∨
    ∃ id ∈ rule.requiredConstraintIds, id ∉ constraintIds

/-- A step snapshot lacks metadata that its rule requires. -/
def StepLacks (policy : SafetyPolicy p) (step : PlanStepSnapshot) : Prop :=
  ∃ rule, policy.ruleFor step.capabilityId = some rule ∧
    Lacks rule.toCapabilityRuleContent (step.preconditions.map (·.preconditionId))
      (step.constraints.map (·.constraintId))

/-- What a step demands under a policy. -/
inductive Demands (policy : SafetyPolicy p) (step : PlanStepSnapshot)
    (assumptions : List AssumptionSnapshot) : SafetyDisposition → Prop
  /-- The hazard class demands its minimum. -/
  | hazard : Demands policy step assumptions (policy.hazardOf step.capabilityId).minimumDisposition
  /-- Missing metadata demands a block. -/
  | metadata : StepLacks policy step → Demands policy step assumptions .blocked
  /-- A disallowed result demands a block. -/
  | result : step.expectedResult ∉ expectedResults (policy.hazardOf step.capabilityId) →
      Demands policy step assumptions .blocked
  /-- An assumption demands a deferral. -/
  | assumption : assumptions ≠ [] → Demands policy step assumptions .deferred
  /-- A declared approval demands an approval. -/
  | approval : step.requiredApprovals ≠ [] →
      Demands policy step assumptions .externalApprovalRequired

/-- Missing metadata is listed once for each identifier that a step lacks. -/
theorem missingMetadata_eq_nil {kind : SafetyPrerequisiteKind} {description stepId : PyStr}
    {required declared : List PyStr} {missing : List UnresolvedSafetyPrerequisite}
    (h : missingMetadata p kind description stepId required declared = .ok missing) :
    missing = [] ↔ ∀ id ∈ required, id ∈ declared := by
  rw [missingMetadata, Checks.mapM_ok] at h
  have hlength := h.length_eq
  rw [← List.length_eq_zero_iff, ← hlength, List.length_eq_zero_iff, List.filter_eq_nil_iff]
  simp

/-- A step lacks nothing when no missing metadata is listed. -/
theorem stepMissing_eq_nil {policy : SafetyPolicy p} {step : PlanStepSnapshot}
    {missing : List UnresolvedSafetyPrerequisite}
    (h : stepMissing step (policy.ruleFor step.capabilityId) = .ok missing) :
    missing = [] ↔ ¬StepLacks policy step := by
  cases hrule : policy.ruleFor step.capabilityId with
  | none =>
    rw [hrule, stepMissing, Except.ok.injEq] at h
    simp [← h, StepLacks, hrule]
  | some rule =>
    rw [hrule, stepMissing] at h
    simp only [ruleMetadata, Checks.bind_ok, Checks.pure_ok] at h
    obtain ⟨preconditions, hpreconditions, constraints, hconstraints, rfl⟩ := h
    rw [List.append_eq_nil_iff, missingMetadata_eq_nil hpreconditions,
      missingMetadata_eq_nil hconstraints]
    simp only [StepLacks, hrule, Option.some.injEq, exists_eq_left', Lacks]
    push Not
    rfl

/-- What a returned step decision is made of. -/
structure StepVerdict (policy : SafetyPolicy p) (step : PlanStepSnapshot)
    (assumptions : List AssumptionSnapshot) (d : SafetyStepDecision) : Prop where
  /-- It is about the step. -/
  stepId : d.stepId = step.stepId
  hazardClass : d.hazardClass = policy.hazardOf step.capabilityId
  greatest : IsGreatest {x | Demands policy step assumptions x} d.disposition
  /-- Every declared approval is kept. -/
  approvals : ∀ approval ∈ step.requiredApprovals, {
    approvalClass := .executiveDeclared
    source := .executive
    requirementId := approval.approvalId
    description := approval.description
    affectedStepId := step.stepId } ∈ d.requiredApprovals
  /-- Every assumption is kept. -/
  assumptions : ∀ assumption ∈ assumptions, {
    kind := .assumptionVerification
    prerequisiteId := assumption.assumptionId
    description := assumption.description
    affectedStepId := step.stepId } ∈ d.unresolvedPrerequisites

section Greatest

variable {policy : SafetyPolicy p} {step : PlanStepSnapshot} {assumptions : List AssumptionSnapshot}

/-- Without missing metadata and conflicts, the demands are those of the hazard class, of the
assumptions and of the approvals. -/
theorem Demands.cases_of_accepted {x : SafetyDisposition} (h : Demands policy step assumptions x)
    (hlacks : ¬StepLacks policy step)
    (hresult : step.expectedResult ∈ expectedResults (policy.hazardOf step.capabilityId)) :
    x = (policy.hazardOf step.capabilityId).minimumDisposition ∨
      x = .deferred ∧ assumptions ≠ [] ∨
      x = .externalApprovalRequired ∧ step.requiredApprovals ≠ [] := by
  cases h with
  | hazard => exact Or.inl rfl
  | metadata hmissing => exact absurd hmissing hlacks
  | result hconflict => exact absurd hresult hconflict
  | assumption hne => exact Or.inr (Or.inl ⟨rfl, hne⟩)
  | approval hne => exact Or.inr (Or.inr ⟨rfl, hne⟩)

/-- The disposition that the code computes is the greatest demand. -/
theorem settledDisposition_isGreatest {rule : HazardRule}
    (hminimum : rule.disposition = (policy.hazardOf step.capabilityId).minimumDisposition)
    {missing hazards unverified : List UnresolvedSafetyPrerequisite}
    {required declared : List SafetyApprovalRequirement} {conflicting : Bool}
    (hmissing : missing = [] ↔ ¬StepLacks policy step)
    (hconflicting : conflicting = true ↔
      step.expectedResult ∉ expectedResults (policy.hazardOf step.capabilityId))
    (hhazards : hazards = [] ↔ rule.disposition ≠ .deferred)
    (hrequired : required = [] ↔ rule.disposition ≠ .externalApprovalRequired)
    (hdeclared : declared = [] ↔ step.requiredApprovals = [])
    (hunverified : unverified = [] ↔ assumptions = []) :
    IsGreatest {x | Demands policy step assumptions x}
      (settledDisposition (declaredDisposition rule missing conflicting)
        (missing ++ hazards ++ unverified) (required ++ declared)) := by
  by_cases hrefused : missing ≠ [] ∨ conflicting = true
  · have hblocked : declaredDisposition rule missing conflicting = .blocked := if_pos hrefused
    rw [hblocked, settledDisposition, if_neg (by simp)]
    refine ⟨?_, fun x _ => x.le_blocked⟩
    rcases hrefused with hne | hconflict
    · exact .metadata (by_contra fun hlacks => hne (hmissing.mpr hlacks))
    · exact .result (hconflicting.mp hconflict)
  · have hdeclaredDisposition : declaredDisposition rule missing conflicting = rule.disposition :=
      if_neg hrefused
    rw [not_or, not_not] at hrefused
    have hlacks : ¬StepLacks policy step := hmissing.mp hrefused.1
    have hresult : step.expectedResult ∈ expectedResults (policy.hazardOf step.capabilityId) := by
      by_contra hnot
      exact hrefused.2 (hconflicting.mpr hnot)
    have hhazard : Demands policy step assumptions rule.disposition := hminimum ▸ .hazard
    rw [hdeclaredDisposition, hrefused.1, List.nil_append, settledDisposition]
    by_cases hblocked : rule.disposition = .blocked
    · rw [if_neg (by simp [hblocked]), hblocked]
      exact ⟨hblocked ▸ hhazard, fun x _ => x.le_blocked⟩
    · rw [if_pos hblocked]
      by_cases hprerequisites : hazards ++ unverified = []
      · obtain ⟨hnohazards, hverified⟩ := List.append_eq_nil_iff.mp hprerequisites
        have hnotDeferred := hhazards.mp hnohazards
        have hassumptions := hunverified.mp hverified
        rw [if_neg (by simp [hprerequisites])]
        by_cases happrovals : required ++ declared = []
        · obtain ⟨hnorequired, hnodeclared⟩ := List.append_eq_nil_iff.mp happrovals
          have hnotExternal := hrequired.mp hnorequired
          rw [if_neg (by simp [happrovals])]
          refine ⟨hhazard, fun x hx => ?_⟩
          rcases hx.cases_of_accepted hlacks hresult with h | ⟨-, h⟩ | ⟨-, h⟩
          · rw [h, hminimum]
          · exact absurd hassumptions h
          · exact absurd (hdeclared.mp hnodeclared) h
        · rw [if_pos happrovals]
          have hcases : rule.disposition = .eligibleForDownstream ∨
              rule.disposition = .externalApprovalRequired := by
            cases hd : rule.disposition <;> simp_all
          have hstronger : stronger rule.disposition .externalApprovalRequired =
              .externalApprovalRequired := by
            rcases hcases with h | h <;> rw [h] <;> rfl
          rw [hstronger]
          constructor
          · by_cases hnorequired : required = []
            · refine .approval fun hnone => happrovals ?_
              rw [hnorequired, hdeclared.mpr hnone, List.nil_append]
            · have hexternal : rule.disposition = .externalApprovalRequired := by
                by_contra h
                exact hnorequired (hrequired.mpr h)
              exact hexternal ▸ hhazard
          · intro x hx
            rcases hx.cases_of_accepted hlacks hresult with h | ⟨-, h⟩ | ⟨h, -⟩
            · rw [h, ← hminimum]
              rcases hcases with h | h
              · rw [h]
                decide
              · rw [h]
            · exact absurd hassumptions h
            · rw [h]
      · rw [if_pos hprerequisites]
        have hstronger : stronger rule.disposition .deferred = .deferred := by
          cases hd : rule.disposition <;> first | rfl | exact absurd hd hblocked
        rw [hstronger]
        constructor
        · by_cases hnone : assumptions = []
          · have hdeferred : rule.disposition = .deferred := by
              by_contra h
              refine hprerequisites ?_
              rw [hhazards.mpr h, hunverified.mpr hnone, List.nil_append]
            exact hdeferred ▸ hhazard
          · exact .assumption hnone
        · intro x hx
          rcases hx.cases_of_accepted hlacks hresult with h | ⟨h, -⟩ | ⟨h, -⟩
          · rw [h, ← hminimum]
            cases hd : rule.disposition <;> first | decide | exact absurd hd hblocked
          · rw [h]
          · rw [h]
            decide

end Greatest

/-- A returned step decision keeps what the step declares and takes its greatest demand. -/
theorem evaluateStep_ok {policy : SafetyPolicy p} {step : PlanStepSnapshot}
    {assumptions : List AssumptionSnapshot} {d : SafetyStepDecision}
    (h : evaluateStep policy step assumptions = .ok d) :
    StepVerdict policy step assumptions d := by
  rw [evaluateStep, Checks.bind_ok] at h
  obtain ⟨capabilityRule, hcapability, h⟩ := h
  obtain ⟨-, hrule⟩ := capabilityRule_ok.mp hcapability
  have hfor : policy.ruleFor step.capabilityId = capabilityRule := hrule
  rw [Checks.bind_ok] at h
  obtain ⟨hazardRule, hhazard, h⟩ := h
  obtain ⟨hmem, hclass⟩ := hazardRule_ok.mp hhazard
  obtain ⟨hdisposition, -, happrovalClass, hprerequisites⟩ := v1_facts hazardRule hmem
  simp only [Checks.bind_ok] at h
  obtain ⟨missing, hmissing, required, hrequired, declared, hdeclared, hazards, hhazards,
    unverified, hunverified, h⟩ := h
  obtain ⟨hstep, -, hhazardClass, hresult, happrovals, hopen⟩ := SafetyStepDecision.init_ok h
  have hhazardOf : policy.hazardOf step.capabilityId = stepHazard capabilityRule := by
    rw [SafetyPolicy.hazardOf, hfor]
  rw [← hfor] at hmissing
  have hrequiredNil : required = [] ↔ hazardRule.disposition ≠ .externalApprovalRequired := by
    rw [← happrovalClass, policyApproval] at *
    cases happroval : hazardRule.approvalClass with
    | none =>
      rw [happroval] at hrequired
      simp_all
    | some approvalClass =>
      rw [happroval] at hrequired
      obtain ⟨approval, -, hsingle⟩ := Checks.bind_ok.mp hrequired
      rw [Checks.pure_ok] at hsingle
      simp [← hsingle]
  exact {
    stepId := hstep
    hazardClass := hhazardClass.trans hhazardOf.symm
    greatest := by
      rw [hresult]
      refine settledDisposition_isGreatest ?_ (stepMissing_eq_nil hmissing) ?_ ?_ hrequiredNil ?_ ?_
      · rw [hdisposition, hclass, hhazardOf]
      · rw [hhazardOf]
        simp
      · rw [← hprerequisites, ← List.length_eq_zero_iff, ← (Checks.mapM_ok.mp hhazards).length_eq,
          List.length_eq_zero_iff]
      · rw [← List.length_eq_zero_iff, ← (Checks.mapM_ok.mp hdeclared).length_eq,
          List.length_eq_zero_iff]
      · rw [← List.length_eq_zero_iff, ← (Checks.mapM_ok.mp hunverified).length_eq,
          List.length_eq_zero_iff]
    approvals := by
      intro approval happroval
      rw [happrovals]
      refine List.mem_append_right _ ((Checks.mem_of_mapM_ok hdeclared).mpr ⟨approval, happroval, ?_⟩)
      obtain ⟨item, hitem⟩ := Checks.exists_mapM_ok.mp ⟨declared, hdeclared⟩ approval happroval
      have heq := (SafetyApprovalRequirement.construct_ok.mp hitem).2
      rw [← heq] at hitem
      exact hitem
    assumptions := by
      intro assumption hassumption
      rw [hopen]
      refine List.mem_append_right _
        ((Checks.mem_of_mapM_ok hunverified).mpr ⟨assumption, hassumption, ?_⟩)
      obtain ⟨item, hitem⟩ := Checks.exists_mapM_ok.mp ⟨unverified, hunverified⟩ assumption
        hassumption
      have heq := (UnresolvedSafetyPrerequisite.construct_ok.mp hitem).2
      rw [← heq] at hitem
      exact hitem }

end Demands
end Safety
end AyyoHumanoid
