import AyyoHumanoid.SafetyProposal

/-!
# The safety kernel

Evaluation classifies every step of a proposal by the policy and aggregates the
step decisions. A step is blocked, deferred, waits for approval or is eligible;
the checks run in a fixed order and a later one never weakens an earlier one.
Revalidation compares the fingerprints of a decision with those of a proposal
and of the policy in force.
-/

namespace AyyoHumanoid
namespace Safety

open PyText JsonText PyCollections

/-- `_EXPECTED_RESULTS`. -/
def expectedResults : HazardClass → List Executive.ExpectedResultCategory
  | .informationalReadOnly => [.information]
  | .internalNonActuating => [.information, .proposedStateChange]
  | .externalDigitalEffect => [.proposedCommunication, .proposedStateChange]
  | .physicalMovement => [.proposedPhysicalEffect]
  | .physicalContact => [.proposedPhysicalEffect]
  | .privilegedHighImpact =>
    [.information, .proposedStateChange, .proposedCommunication, .proposedPhysicalEffect]
  | .emergencySafetyCritical =>
    [.information, .proposedStateChange, .proposedCommunication, .proposedPhysicalEffect]
  | .unclassified => []

/-- `_ordered_reasons`. -/
def orderedReasons (values : List SafetyReason) : List SafetyReason :=
  SafetyReason.members.filter (· ∈ values)

/-- `SafetyRevalidationStatus`. -/
inductive SafetyRevalidationStatus where
  | current | stale
  deriving DecidableEq, Repr

/-- `SafetyRevalidationReason`. -/
inductive SafetyRevalidationReason where
  | proposalChanged | policyChanged
  deriving DecidableEq, Repr

/-- `_REVALIDATION_RANK`. -/
def SafetyRevalidationReason.rank : SafetyRevalidationReason → Nat
  | .proposalChanged => 0
  | .policyChanged => 1

/-- `SafetyRevalidationResult`. -/
structure SafetyRevalidationResult where
  decisionId : PyStr
  status : SafetyRevalidationStatus
  reasons : List SafetyRevalidationReason
  priorProposalFingerprint : SafetyFingerprint
  currentProposalFingerprint : SafetyFingerprint
  priorPolicyFingerprint : SafetyFingerprint
  currentPolicyFingerprint : SafetyFingerprint
  deriving DecidableEq

/-- The reasons that two pairs of fingerprints give. -/
def changedFingerprints (priorProposal currentProposal priorPolicy currentPolicy :
    SafetyFingerprint) : List SafetyRevalidationReason :=
  (if priorProposal ≠ currentProposal then [.proposalChanged] else []) ++
    (if priorPolicy ≠ currentPolicy then [.policyChanged] else [])

/-- `SafetyRevalidationResult.__post_init__`. -/
def SafetyRevalidationResult.postInit (r : SafetyRevalidationResult) : Except SafetyError Unit := do
  validateText decisionError r.decisionId (py "revalidation decision_id")
  require (r.reasons = sortBy SafetyRevalidationReason.rank r.reasons.dedup)
    (decisionError (py "revalidation reasons must be unique and ordered"))
  require (r.priorProposalFingerprint.kind = .proposal)
    (decisionError (py "revalidation proposal fingerprint is invalid"))
  require (r.currentProposalFingerprint.kind = .proposal)
    (decisionError (py "revalidation proposal fingerprint is invalid"))
  require (r.priorPolicyFingerprint.kind = .policy)
    (decisionError (py "revalidation policy fingerprint is invalid"))
  require (r.currentPolicyFingerprint.kind = .policy)
    (decisionError (py "revalidation policy fingerprint is invalid"))
  let expected := changedFingerprints r.priorProposalFingerprint r.currentProposalFingerprint
    r.priorPolicyFingerprint r.currentPolicyFingerprint
  require (∀ reason, reason ∈ [SafetyRevalidationReason.proposalChanged, .policyChanged] →
      (reason ∈ r.reasons ↔ reason ∈ expected))
    (decisionError (py "revalidation reasons do not match compared fingerprints"))
  require (r.status = .current ↔ expected = [])
    (decisionError (py "revalidation status does not match compared fingerprints"))

section Step

variable {p : Platform}

/-- Required identifiers that the step does not declare, as prerequisites. -/
def missingMetadata (p : Platform) (kind : SafetyPrerequisiteKind) (description stepId : PyStr)
    (required declared : List PyStr) : Except SafetyError (List UnresolvedSafetyPrerequisite) :=
  (required.filter (· ∉ declared)).mapM fun id =>
    UnresolvedSafetyPrerequisite.construct p {
      kind := kind
      prerequisiteId := id
      description := description
      affectedStepId := stepId }

/-- The preconditions and constraints that a capability rule requires and the step lacks. -/
def ruleMetadata (p : Platform) (step : PlanStepSnapshot) (rule : CapabilityRuleContent) :
    Except SafetyError (List UnresolvedSafetyPrerequisite) := do
  let preconditions ← missingMetadata p .requiredPrecondition
    (py "The capability safety rule requires this explicit plan precondition.")
    step.stepId rule.requiredPreconditionIds (step.preconditions.map (·.preconditionId))
  let constraints ← missingMetadata p .requiredConstraint
    (py "The capability safety rule requires this explicit plan constraint.")
    step.stepId rule.requiredConstraintIds (step.constraints.map (·.constraintId))
  pure (preconditions ++ constraints)

/-- The approval that a hazard rule requires. -/
def policyApproval (p : Platform) (step : PlanStepSnapshot) (hazardClass : HazardClass)
    (rule : HazardRule) : Except SafetyError (List SafetyApprovalRequirement) :=
  match rule.approvalClass with
  | none => .ok []
  | some approvalClass => do
    let approval ← SafetyApprovalRequirement.construct p {
      approvalClass := approvalClass
      source := .safetyPolicy
      requirementId := py "policy." ++ approvalClass.value
      description := py "External approval is required by the immutable safety policy for " ++
        hazardClass.value ++ py "."
      affectedStepId := step.stepId }
    pure [approval]

/-- An approval that the step declares. -/
def executiveApproval (p : Platform) (step : PlanStepSnapshot) (approval : ApprovalSnapshot) :
    Except SafetyError SafetyApprovalRequirement :=
  SafetyApprovalRequirement.construct p {
    approvalClass := .executiveDeclared
    source := .executive
    requirementId := approval.approvalId
    description := approval.description
    affectedStepId := step.stepId }

/-- A prerequisite that a hazard rule names. -/
def hazardPrerequisite (p : Platform) (step : PlanStepSnapshot)
    (prerequisite : SafetyPrerequisiteDefinition) :
    Except SafetyError UnresolvedSafetyPrerequisite :=
  UnresolvedSafetyPrerequisite.construct p {
    kind := prerequisite.kind
    prerequisiteId := prerequisite.prerequisiteId
    description := prerequisite.description
    affectedStepId := step.stepId }

/-- An assumption that must be verified. -/
def assumptionPrerequisite (p : Platform) (step : PlanStepSnapshot)
    (assumption : AssumptionSnapshot) : Except SafetyError UnresolvedSafetyPrerequisite :=
  UnresolvedSafetyPrerequisite.construct p {
    kind := .assumptionVerification
    prerequisiteId := assumption.assumptionId
    description := assumption.description
    affectedStepId := step.stepId }

/-- The disposition after the hazard rule and the declarations of the step. -/
def declaredDisposition (rule : HazardRule) (missing : List UnresolvedSafetyPrerequisite)
    (conflicting : Bool) : SafetyDisposition :=
  if missing ≠ [] ∨ conflicting = true then .blocked else rule.disposition

/-- The disposition after the open prerequisites and approvals. -/
def settledDisposition (declared : SafetyDisposition)
    (prerequisites : List UnresolvedSafetyPrerequisite)
    (approvals : List SafetyApprovalRequirement) : SafetyDisposition :=
  if declared ≠ .blocked then
    if prerequisites ≠ [] then stronger declared .deferred
    else if approvals ≠ [] then stronger declared .externalApprovalRequired
    else declared
  else declared

/-- The reasons of a step decision. -/
def stepReasons (rule : HazardRule) (missing : List UnresolvedSafetyPrerequisite)
    (conflicting : Bool) (declared : List SafetyApprovalRequirement)
    (unverified : List UnresolvedSafetyPrerequisite) : List SafetyReason :=
  [rule.reason] ++
    (if missing ≠ [] then [.requiredSafetyMetadataMissing] else []) ++
    (if conflicting = true then [.capabilityDeclarationConflict] else []) ++
    (if declared ≠ [] then [.executiveApprovalUnverified] else []) ++
    (if unverified ≠ [] then [.unverifiedAssumption] else [])

/-- The hazard class of a step. -/
def stepHazard (rule : Option (CapabilitySafetyRule p)) : HazardClass :=
  match rule with
  | none => .unclassified
  | some rule => rule.hazardClass

/-- The metadata that the capability rule of a step requires and the step lacks. -/
def stepMissing (step : PlanStepSnapshot) (rule : Option (CapabilitySafetyRule p)) :
    Except SafetyError (List UnresolvedSafetyPrerequisite) :=
  match rule with
  | none => .ok []
  | some rule => ruleMetadata p step rule.toCapabilityRuleContent

/-- The identifiers of the rules that decided a step. -/
def stepRules (hazardRule : HazardRule) (rule : Option (CapabilitySafetyRule p)) : List PyStr :=
  match rule with
  | none => [hazardRule.ruleId]
  | some rule => [hazardRule.ruleId, rule.ruleId]

/-- `_evaluate_step`. -/
def evaluateStep (policy : SafetyPolicy p) (step : PlanStepSnapshot)
    (assumptions : List AssumptionSnapshot) : Except SafetyError SafetyStepDecision := do
  let capabilityRule ← policy.capabilityRule step.capabilityId
  let hazardClass := stepHazard capabilityRule
  let hazardRule ← policy.hazardRule hazardClass
  let missing ← stepMissing step capabilityRule
  let conflicting : Bool := step.expectedResult ∉ expectedResults hazardClass
  let required ← policyApproval p step hazardClass hazardRule
  let declared ← step.requiredApprovals.mapM (executiveApproval p step)
  let hazards ← hazardRule.prerequisites.mapM (hazardPrerequisite p step)
  let unverified ← assumptions.mapM (assumptionPrerequisite p step)
  let approvals := required ++ declared
  let prerequisites := missing ++ hazards ++ unverified
  SafetyStepDecision.init p {
    stepId := step.stepId
    capabilityId := step.capabilityId
    hazardClass := hazardClass
    disposition := settledDisposition (declaredDisposition hazardRule missing conflicting)
      prerequisites approvals
    reasonCodes := orderedReasons (stepReasons hazardRule missing conflicting declared unverified)
    triggeringPolicyRules := sortedSet (stepRules hazardRule capabilityRule)
    requiredApprovals := approvals
    unresolvedPrerequisites := prerequisites }

end Step

section Kernel

variable {p : Platform}

/-- The assumptions that the step at a position has to carry. -/
def assumptionsAt (snapshot : SafetyProposalSnapshot) (index : Nat) : List AssumptionSnapshot :=
  if index = 0 then snapshot.assumptions else []

/-- The decisions on the steps of a snapshot. -/
def evaluateSteps (policy : SafetyPolicy p) (snapshot : SafetyProposalSnapshot) :
    Except SafetyError (List SafetyStepDecision) :=
  snapshot.steps.zipIdx.mapM fun item =>
    evaluateStep policy item.1 (assumptionsAt snapshot item.2)

/-- `SafetyKernel.evaluate`. -/
def evaluate (policy : SafetyPolicy p) (proposal : Executive.ExecutiveDecision) :
    Except SafetyError SafetyDecision := do
  let snapshot ← snapshotProposal p true proposal
  let stepDecisions ← evaluateSteps policy snapshot
  SafetyDecisionContent.init p {
    sourceDecisionId := snapshot.sourceDecisionId
    sourceRequestId := snapshot.sourceRequestId
    ownerSubject := snapshot.ownerSubject
    sourceDecisionFingerprint := snapshot.sourceDecisionFingerprint
    policyVersion := policy.version
    policyFingerprint := policy.fingerprint
    proposalFingerprint := snapshot.fingerprint
    stepDecisions := stepDecisions }

/-- `SafetyKernel.revalidate`. -/
def revalidate (policy : SafetyPolicy p) (decision : SafetyDecision)
    (proposal : Executive.ExecutiveDecision) : Except SafetyError SafetyRevalidationResult := do
  let current ← snapshotProposal p false proposal
  let reasons := changedFingerprints decision.proposalFingerprint current.fingerprint
    decision.policyFingerprint policy.fingerprint
  let result : SafetyRevalidationResult := {
    decisionId := decision.decisionId
    status := if reasons = [] then .current else .stale
    reasons := reasons
    priorProposalFingerprint := decision.proposalFingerprint
    currentProposalFingerprint := current.fingerprint
    priorPolicyFingerprint := decision.policyFingerprint
    currentPolicyFingerprint := policy.fingerprint }
  result.postInit
  pure result

end Kernel
end Safety
end AyyoHumanoid
