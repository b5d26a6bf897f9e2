import AyyoHumanoid.DependencyRounds
import AyyoHumanoid.ExecutiveDecisions
import AyyoHumanoid.SafetyPolicy

/-!
# Safety-owned snapshots of Executive proposals

The safety kernel copies an Executive proposal and validates every part of it
again, because the attributes of a proposal may have been altered after its
construction. The snapshot holds the plan steps in dependency order and is named
by the digest of its document.
-/

namespace AyyoHumanoid
namespace Safety

open PyText JsonText PyCollections PersonalContext

/-- `InvalidSafetyProposalError(message)`. -/
def proposalError (message : PyStr) : SafetyError := ⟨.invalidProposal, message⟩

/-- `SafetyPlanInvariantError(message)`. -/
def planError (message : PyStr) : SafetyError := ⟨.planInvariant, message⟩

/-- `MAX_PROPOSAL_STEPS`. -/
def maxProposalSteps : Nat := 64

/-- `MAX_PROPOSAL_ITEMS`. -/
def maxProposalItems : Nat := 128

/-- `_CONTEXT_DOMAINS`. -/
def contextDomains : List PyStr :=
  [py "preference", py "procedural", py "semantic", py "social", py "spatial"]

/-- `_CONTEXT_STATES`. -/
def contextStates : List PyStr := [py "conflicted", py "resolved", py "unknown"]

/-- An error of the Executive package while a proposal is read. -/
def inspected {α : Type} (x : Except Executive.ExecutiveError α) : Except SafetyError α :=
  x.mapError fun _ => proposalError (py "proposal could not be safely inspected")

/-- `_text`. -/
def snapshotText (value fieldName : PyStr) : Except SafetyError Unit := do
  require (value ≠ [] ∧ strip value ≠ [] ∧ value = strip value ∧ value.length ≤ maxTextLength)
    (proposalError (fieldName ++ py " must be bounded non-empty normalized text"))
  require (utf8Encodable value = true)
    (proposalError (fieldName ++ py " contains invalid Unicode"))

/-- `_identifier`. -/
def snapshotIdentifier (p : Platform) (value fieldName : PyStr) : Except SafetyError Unit := do
  snapshotText value fieldName
  require (value.length ≤ maxIdentifierLength ∧ p.spellsIdentifier value = true)
    (proposalError (fieldName ++ py " is not a valid identifier"))

/-- `_typed_tuple`. -/
def limitItems {α : Type} (values : List α) (fieldName : PyStr) : Except SafetyError Unit :=
  require (values.length ≤ maxProposalItems)
    (proposalError (fieldName ++ py " exceeds the item limit"))

/-- `_fingerprint`. -/
def checkFingerprint (value : Executive.Fingerprint) (kind : Executive.FingerprintKind)
    (fieldName : PyStr) : Except SafetyError Unit := do
  require (value.kind = kind) (proposalError (fieldName ++ py " is invalid"))
  require (value.algorithm = py "sha256" ∧ value.schemaVersion = 1)
    (proposalError (fieldName ++ py " is unsupported"))
  require (IsHexDigest value.digest) (proposalError (fieldName ++ py " digest is invalid"))

/-- `ApprovalSnapshot`. -/
structure ApprovalSnapshot where
  approvalId : PyStr
  description : PyStr
  deriving DecidableEq

/-- `AssumptionSnapshot`. -/
structure AssumptionSnapshot where
  assumptionId : PyStr
  description : PyStr
  deriving DecidableEq

/-- `ConstraintSnapshot`. -/
structure ConstraintSnapshot where
  constraintId : PyStr
  description : PyStr
  canonicalParameters : PyStr
  deriving DecidableEq

/-- `ContextRequirementSnapshot`. -/
structure ContextRequirementSnapshot where
  domain : PyStr
  predicate : PyStr
  deriving DecidableEq

/-- `key`. -/
def ContextRequirementSnapshot.key (c : ContextRequirementSnapshot) : PyStr ×ₗ PyStr :=
  toLex (c.domain, c.predicate)

/-- `ContextReferenceSnapshot`. -/
structure ContextReferenceSnapshot where
  requirement : ContextRequirementSnapshot
  required : Bool
  state : PyStr
  valueDigests : List PyStr
  memoryIds : List PyStr
  conflictIds : List PyStr
  deriving DecidableEq

/-- `key`. -/
def ContextReferenceSnapshot.key (c : ContextReferenceSnapshot) : Nat ×ₗ PyStr ×ₗ PyStr :=
  toLex (if c.required then 0 else 1, c.requirement.key)

/-- `PreconditionSnapshot`. -/
structure PreconditionSnapshot where
  preconditionId : PyStr
  description : PyStr
  deriving DecidableEq

/-- `PlanStepSnapshot`. -/
structure PlanStepSnapshot where
  stepId : PyStr
  capabilityId : PyStr
  canonicalParameters : PyStr
  dependencies : List PyStr
  preconditions : List PreconditionSnapshot
  requiredContext : List ContextRequirementSnapshot
  requiredApprovals : List ApprovalSnapshot
  constraints : List ConstraintSnapshot
  expectedResult : Executive.ExpectedResultCategory
  failurePolicy : Executive.FailurePolicy
  deriving DecidableEq

/-- `SafetyProposalSnapshot`. -/
structure SafetyProposalSnapshot where
  sourceDecisionId : PyStr
  sourceRequestId : PyStr
  ownerSubject : PyStr
  sourceDecisionFingerprint : Executive.Fingerprint
  contextSnapshotVersion : PyStr
  steps : List PlanStepSnapshot
  contextReferences : List ContextReferenceSnapshot
  assumptions : List AssumptionSnapshot
  fingerprint : SafetyFingerprint
  deriving DecidableEq

section Documents

/-- `ApprovalSnapshot.document`. -/
def ApprovalSnapshot.document (a : ApprovalSnapshot) : Json :=
  .obj [(py "approval_id", .str a.approvalId), (py "description", .str a.description)]

/-- `AssumptionSnapshot.document`. -/
def AssumptionSnapshot.document (a : AssumptionSnapshot) : Json :=
  .obj [(py "assumption_id", .str a.assumptionId), (py "description", .str a.description)]

/-- `ConstraintSnapshot.document`. -/
def ConstraintSnapshot.document (c : ConstraintSnapshot) : Json :=
  .obj [(py "constraint_id", .str c.constraintId), (py "description", .str c.description),
    (py "parameters_canonical_json", .str c.canonicalParameters)]

/-- `ContextRequirementSnapshot.document`. -/
def ContextRequirementSnapshot.document (c : ContextRequirementSnapshot) : Json :=
  .obj [(py "domain", .str c.domain), (py "predicate", .str c.predicate)]

/-- `ContextReferenceSnapshot.document`. -/
def ContextReferenceSnapshot.document (c : ContextReferenceSnapshot) : Json :=
  .obj [(py "conflict_ids", Executive.textItems c.conflictIds),
    (py "domain", .str c.requirement.domain),
    (py "memory_ids", Executive.textItems c.memoryIds),
    (py "predicate", .str c.requirement.predicate),
    (py "required", .bool c.required),
    (py "state", .str c.state),
    (py "value_digests", Executive.textItems c.valueDigests)]

/-- `PreconditionSnapshot.document`. -/
def PreconditionSnapshot.document (s : PreconditionSnapshot) : Json :=
  .obj [(py "description", .str s.description), (py "precondition_id", .str s.preconditionId)]

/-- `PlanStepSnapshot.document`. -/
def PlanStepSnapshot.document (s : PlanStepSnapshot) : Json :=
  .obj [(py "capability_id", .str s.capabilityId),
    (py "constraints", .arr (s.constraints.map ConstraintSnapshot.document)),
    (py "dependencies", Executive.textItems s.dependencies),
    (py "expected_result", .str s.expectedResult.value),
    (py "failure_policy", .str s.failurePolicy.value),
    (py "parameters_canonical_json", .str s.canonicalParameters),
    (py "preconditions", .arr (s.preconditions.map PreconditionSnapshot.document)),
    (py "required_approvals", .arr (s.requiredApprovals.map ApprovalSnapshot.document)),
    (py "required_context", .arr (s.requiredContext.map ContextRequirementSnapshot.document)),
    (py "step_id", .str s.stepId)]

end Documents

section Parts

variable (p : Platform)

/-- `_snapshot_approval`. -/
def snapshotApproval (value : Executive.ApprovalRequirement) :
    Except SafetyError ApprovalSnapshot := do
  snapshotIdentifier p value.approvalId (py "approval_id")
  snapshotText value.description (py "approval description")
  pure ⟨value.approvalId, value.description⟩

/-- `_snapshot_assumption`. -/
def snapshotAssumption (value : Executive.Assumption) : Except SafetyError AssumptionSnapshot := do
  snapshotIdentifier p value.assumptionId (py "assumption_id")
  snapshotText value.description (py "assumption description")
  pure ⟨value.assumptionId, value.description⟩

/-- `copy_json` and `canonicalize_json` of the parameters of a constraint or a step. -/
def copyParameters (parameters : Executive.JsonDict) (fieldName : PyStr) :
    Except SafetyError Json :=
  (copyJson (.obj parameters)).mapError fun fault => proposalError (fault.message fieldName)

/-- `_snapshot_constraint`. -/
def snapshotConstraint (value : Executive.Constraint) : Except SafetyError ConstraintSnapshot := do
  let source ← inspected value.parameters
  let parameters ← copyParameters source (py "constraint parameters")
  snapshotIdentifier p value.constraintId (py "constraint_id")
  snapshotText value.description (py "constraint description")
  let canonical ← canonicalize .invalidProposal .standard (py "constraint parameters") parameters
  pure ⟨value.constraintId, value.description, canonical⟩

/-- `_snapshot_context_requirement`. -/
def snapshotContextRequirement (value : Executive.ContextRequirement) :
    Except SafetyError ContextRequirementSnapshot := do
  require (value.domain.value ∈ contextDomains) (proposalError (py "context domain is invalid"))
  snapshotText value.predicate (py "context predicate")
  pure ⟨value.domain.value, value.predicate⟩

/-- The identifier checks of `_snapshot_context_reference`. -/
def snapshotIdentifiers (fieldName : PyStr) (identifiers : List UUID) :
    Except SafetyError (List PyStr) := do
  let strings := identifiers.map UUID.text
  require (strings = sortedSet strings)
    (proposalError (py "context " ++ fieldName ++ py " must be unique and ordered"))
  pure strings

/-- `_snapshot_context_reference`. -/
def snapshotContextReference (value : Executive.ContextReference) :
    Except SafetyError ContextReferenceSnapshot := do
  require (value.state.value ∈ contextStates) (proposalError (py "context state is invalid"))
  require (∀ digest ∈ value.valueDigests, IsHexDigest digest)
    (proposalError (py "context value digests are invalid"))
  require (value.valueDigests = sortedSet value.valueDigests)
    (proposalError (py "context value digests must be unique and ordered"))
  let memoryIds ← snapshotIdentifiers (py "memory IDs") value.memoryIds
  let conflictIds ← snapshotIdentifiers (py "conflict IDs") value.conflictIds
  require (value.state = .unknown → value.valueDigests = [] ∧ memoryIds = [] ∧ conflictIds = [])
    (proposalError (py "unknown context cannot cite evidence"))
  require (value.state = .resolved →
      value.valueDigests.length = 1 ∧ memoryIds ≠ [] ∧ conflictIds = [])
    (proposalError (py "resolved context must cite one value and supporting evidence"))
  require (value.state = .conflicted →
      2 ≤ value.valueDigests.length ∧ 2 ≤ memoryIds.length ∧ conflictIds ≠ [])
    (proposalError (py "conflicted context must cite competing evidence and conflicts"))
  let requirement ← snapshotContextRequirement value.requirement
  pure {
    requirement := requirement
    required := value.required
    state := value.state.value
    valueDigests := value.valueDigests
    memoryIds := memoryIds
    conflictIds := conflictIds }

/-- `_unique_ordered`. -/
def uniqueOrdered {α κ : Type} [LinearOrder κ] (values : List α) (key : α → κ)
    (fieldName : PyStr) : Except SafetyError (List α) :=
  orderedUnique key values (proposalError (fieldName ++ py " must be unique"))

/-- The snapshots of limited values in the order of their keys. -/
def snapshotItems {α β κ : Type} [LinearOrder κ] (values : List α)
    (snapshot : α → Except SafetyError β) (key : β → κ) (fieldName : PyStr) :
    Except SafetyError (List β) := do
  limitItems values fieldName
  let snapshots ← values.mapM snapshot
  uniqueOrdered snapshots key fieldName

/-- The snapshot of one precondition. -/
def snapshotPrecondition (value : Executive.Precondition) :
    Except SafetyError PreconditionSnapshot := do
  snapshotIdentifier p value.preconditionId (py "precondition_id")
  snapshotText value.description (py "precondition description")
  pure ⟨value.preconditionId, value.description⟩

/-- The dependency checks of `_snapshot_step`. -/
def checkDependencies (stepId : PyStr) (dependencies : List PyStr) : Except SafetyError Unit := do
  dependencies.forM fun item => snapshotIdentifier p item (py "step dependency")
  require (dependencies = sortedSet dependencies)
    (planError (py "step dependencies must be unique and ordered"))
  require (stepId ∉ dependencies) (planError (py "a plan step cannot depend on itself"))

/-- `_snapshot_step`. -/
def snapshotStep (value : Executive.PlanStep) : Except SafetyError PlanStepSnapshot := do
  snapshotIdentifier p value.stepId (py "step_id")
  snapshotIdentifier p value.capabilityId (py "capability_id")
  let source ← inspected value.parameters
  let parameters ← copyParameters source (py "plan step parameters")
  checkDependencies p value.stepId value.dependencies
  let preconditions ← snapshotItems value.preconditions (snapshotPrecondition p)
    (·.preconditionId) (py "preconditions")
  let contexts ← snapshotItems value.requiredContext snapshotContextRequirement
    ContextRequirementSnapshot.key (py "required context")
  let approvals ← snapshotItems value.requiredApprovals (snapshotApproval p) (·.approvalId)
    (py "required approvals")
  let constraints ← snapshotItems value.constraints (snapshotConstraint p) (·.constraintId)
    (py "constraints")
  let canonical ← canonicalize .invalidProposal .standard (py "plan step parameters") parameters
  pure {
    stepId := value.stepId
    capabilityId := value.capabilityId
    canonicalParameters := canonical
    dependencies := value.dependencies
    preconditions := preconditions
    requiredContext := contexts
    requiredApprovals := approvals
    constraints := constraints
    expectedResult := value.expectedResult
    failurePolicy := value.failurePolicy }

end Parts

/-- `str` of a list of identifiers. -/
def identifierListText (identifiers : List PyStr) : PyStr :=
  py "[" ++ (py ", ").intercalate (identifiers.map fun id => py "'" ++ id ++ py "'") ++ py "]"

/-- `_topological_steps`. -/
def topologicalSteps (steps : List PlanStepSnapshot) :
    Except SafetyError (List PlanStepSnapshot) := do
  require (steps.map (·.stepId)).Nodup (planError (py "plan step IDs must be unique"))
  let missing := sortedSet
    ((steps.flatMap (·.dependencies)).filter fun id => id ∉ steps.map (·.stepId))
  require (missing = [])
    (planError (py "plan references missing dependencies: " ++ identifierListText missing))
  match DependencyRounds.rounds steps.length
      (steps.map fun step => (step.stepId, step.dependencies)) with
  | none => .error (planError (py "plan dependency graph contains a cycle"))
  | some order => pure (order.filterMap fun id => steps.find? fun step => step.stepId = id)

/-- The parts of a snapshot that the steps and the decision must agree on. -/
structure ProposalParts where
  steps : List PlanStepSnapshot
  contextReferences : List ContextReferenceSnapshot
  assumptions : List AssumptionSnapshot
  /-- `decision_approvals`. -/
  approvals : List ApprovalSnapshot
  /-- `decision_constraints`. -/
  constraints : List ConstraintSnapshot
  deriving DecidableEq

section Proposal

variable (p : Platform)

/-- `expected_reasons`. -/
def expectedReasons : Executive.ExecutiveDecisionType → List Executive.DecisionReason
  | .propose => [.readyForSafetyReview]
  | .requestApproval => [.approvalRequired]
  | .requestInformation | .defer | .reject => []

/-- The checks on the decision type and its reasons. -/
def checkDecisionType (proposal : Executive.ExecutiveDecision) : Except SafetyError Unit := do
  require (proposal.decisionType = .propose ∨ proposal.decisionType = .requestApproval)
    (proposalError (py "Safety Kernel evaluates only proposals with plans"))
  limitItems proposal.reasonCodes (py "decision reasons")
  require (proposal.reasonCodes = expectedReasons proposal.decisionType)
    (proposalError (py "proposal decision type and reason codes are inconsistent"))

/-- The snapshots of the plan steps in dependency order. -/
def snapshotSteps (proposal : Executive.ExecutiveDecision) :
    Except SafetyError (List PlanStepSnapshot) :=
  match proposal.proposedPlan with
  | none => .error (proposalError (py "proposal must contain a public Plan"))
  | some plan => do
    require (plan.steps ≠ [] ∧ plan.steps.length ≤ maxProposalSteps)
      (planError (py "plan must contain between 1 and 64 steps"))
    let snapshots ← plan.steps.mapM (snapshotStep p)
    topologicalSteps snapshots

/-- The required context of a snapshot in the given state. -/
def requiredIn (references : List ContextReferenceSnapshot) (state : PyStr) :
    List ContextRequirementSnapshot :=
  (references.filter fun item => item.required ∧ item.state = state).map (·.requirement)

/-- The snapshots of the context references, with the checks on the derived fields. -/
def snapshotContext (proposal : Executive.ExecutiveDecision) :
    Except SafetyError (List ContextReferenceSnapshot) := do
  let references ← snapshotItems proposal.contextReferences snapshotContextReference
    ContextReferenceSnapshot.key (py "context references")
  require (references.map (·.requirement.key)).Nodup
    (proposalError (py "a context identity cannot have conflicting required roles"))
  limitItems proposal.missingContext (py "missing context")
  let missing ← proposal.missingContext.mapM snapshotContextRequirement
  limitItems proposal.conflictedContext (py "conflicted context")
  let conflicted ← proposal.conflictedContext.mapM snapshotContextRequirement
  require (missing = requiredIn references (py "unknown") ∧
      conflicted = requiredIn references (py "conflicted"))
    (proposalError (py "decision missing/conflicted context fields are inconsistent"))
  pure references

/-- The parts of a proposal, each validated on its own. -/
def snapshotParts (proposal : Executive.ExecutiveDecision) : Except SafetyError ProposalParts := do
  checkDecisionType proposal
  let steps ← snapshotSteps p proposal
  let contextReferences ← snapshotContext proposal
  let assumptions ← snapshotItems proposal.assumptions (snapshotAssumption p) (·.assumptionId)
    (py "assumptions")
  let approvals ← snapshotItems proposal.requiredApprovals (snapshotApproval p) (·.approvalId)
    (py "decision approvals")
  let constraints ← snapshotItems proposal.constraints (snapshotConstraint p) (·.constraintId)
    (py "decision constraints")
  pure {
    steps := steps
    contextReferences := contextReferences
    assumptions := assumptions
    approvals := approvals
    constraints := constraints }

/-- The checks on the required capabilities. -/
def checkCapabilities (capabilities : List PyStr) (steps : List PlanStepSnapshot) :
    Except SafetyError Unit := do
  capabilities.forM fun item => snapshotIdentifier p item (py "required capability")
  require (capabilities = sortedSet capabilities ∧ capabilities ≠ [])
    (proposalError (py "required capabilities must be non-empty, unique, and ordered"))
  require (capabilities.toFinset = (steps.map (·.capabilityId)).toFinset)
    (proposalError (py "plan capabilities do not exactly match the decision"))

/-- The checks that the decision repeats what its steps declare. -/
def checkAgreement (decisionType : Executive.ExecutiveDecisionType) (parts : ProposalParts) :
    Except SafetyError Unit := do
  require ((parts.steps.flatMap (·.requiredApprovals)).toFinset = parts.approvals.toFinset)
    (proposalError (py "plan approvals do not exactly match the decision"))
  require (¬(decisionType = .propose ∧ parts.approvals ≠ [] ∨
      decisionType = .requestApproval ∧ parts.approvals = []))
    (proposalError (py "decision type and approval requirements are inconsistent"))
  require ((parts.steps.flatMap (·.constraints)).toFinset = parts.constraints.toFinset)
    (proposalError (py "plan constraints do not exactly match the decision"))
  require ((parts.steps.flatMap (·.requiredContext)).toFinset =
      ((parts.contextReferences.filter (·.required)).map (·.requirement)).toFinset)
    (proposalError
      (py "plan context dependencies do not exactly match required references"))
  require (∀ reference ∈ parts.contextReferences,
      reference.required = true → reference.state = py "resolved")
    (proposalError
      (py "an executable proposal cannot contain unresolved required context"))

/-- The checks on fingerprints, identifiers and texts of the decision. -/
def checkProvenance (proposal : Executive.ExecutiveDecision) : Except SafetyError Unit := do
  checkFingerprint proposal.decisionFingerprint .decision (py "decision fingerprint")
  checkFingerprint proposal.requestFingerprint .request (py "request fingerprint")
  checkFingerprint proposal.capabilityContractFingerprint .capabilityContract
    (py "capability contract fingerprint")
  checkFingerprint proposal.relevantContextFingerprint .relevantContext
    (py "relevant context fingerprint")
  snapshotText proposal.decisionId (py "decision_id")
  require (proposal.decisionId = py "decision-" ++ proposal.decisionFingerprint.digest)
    (proposalError (py "decision ID does not match its declared fingerprint"))
  snapshotText proposal.requestId (py "request_id")
  snapshotText proposal.ownerSubject (py "owner_subject")
  snapshotText proposal.explanation (py "decision explanation")
  require (proposal.contextSnapshotVersion.algorithm = py "sha256" ∧
      proposal.contextSnapshotVersion.schemaVersion = 1 ∧
      IsHexDigest proposal.contextSnapshotVersion.digest)
    (proposalError (py "context snapshot version is invalid"))

/-- The comparison with a decision rebuilt from the attributes. -/
def checkSourceIntegrity (requireSourceIntegrity : Bool) (proposal : Executive.ExecutiveDecision) :
    Except SafetyError Unit := do
  let rebuilt ← inspected (proposal.toDecisionContent.init p)
  require (¬(requireSourceIntegrity = true ∧
      (rebuilt.decisionFingerprint ≠ proposal.decisionFingerprint ∨
        rebuilt.relevantContextFingerprint ≠ proposal.relevantContextFingerprint)))
    (proposalError (py "proposal content does not match its Executive fingerprint"))

/-- `context_snapshot_version` of a snapshot. -/
def contextVersionText (proposal : Executive.ExecutiveDecision) : PyStr :=
  py "sha256:" ++ proposal.contextSnapshotVersion.digest

/-- The document that names a snapshot. -/
def proposalDocument (proposal : Executive.ExecutiveDecision) (parts : ProposalParts) : Json :=
  .obj [(py "assumptions", .arr (parts.assumptions.map AssumptionSnapshot.document)),
    (py "capability_contract_fingerprint", .str proposal.capabilityContractFingerprint.text),
    (py "context_references",
      .arr (parts.contextReferences.map ContextReferenceSnapshot.document)),
    (py "context_snapshot_version", .str (contextVersionText proposal)),
    (py "decision_type", .str proposal.decisionType.value),
    (py "owner_subject", .str proposal.ownerSubject),
    (py "relevant_context_fingerprint", .str proposal.relevantContextFingerprint.text),
    (py "request_fingerprint", .str proposal.requestFingerprint.text),
    (py "schema", .str (py "ayyo.safety.proposal.v1")),
    (py "source_decision_explanation", .str proposal.explanation),
    (py "source_decision_fingerprint", .str proposal.decisionFingerprint.text),
    (py "source_decision_id", .str proposal.decisionId),
    (py "source_decision_reasons",
      Executive.textItems (proposal.reasonCodes.map Executive.DecisionReason.value)),
    (py "source_request_id", .str proposal.requestId),
    (py "steps", .arr (parts.steps.map PlanStepSnapshot.document))]

/-- `snapshot_proposal`. -/
def snapshotProposal (requireSourceIntegrity : Bool) (proposal : Executive.ExecutiveDecision) :
    Except SafetyError SafetyProposalSnapshot := do
  let parts ← snapshotParts p proposal
  checkCapabilities p proposal.requiredCapabilities parts.steps
  checkAgreement proposal.decisionType parts
  checkProvenance proposal
  checkSourceIntegrity p requireSourceIntegrity proposal
  let fingerprint ← fingerprintDocument p .proposal (proposalDocument proposal parts)
    .invalidProposal
  pure {
    sourceDecisionId := proposal.decisionId
    sourceRequestId := proposal.requestId
    ownerSubject := proposal.ownerSubject
    sourceDecisionFingerprint := proposal.decisionFingerprint
    contextSnapshotVersion := contextVersionText proposal
    steps := parts.steps
    contextReferences := parts.contextReferences
    assumptions := parts.assumptions
    fingerprint := fingerprint }

end Proposal

end Safety
end AyyoHumanoid
