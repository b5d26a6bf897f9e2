import AyyoHumanoid.ExecutiveModels
import Mathlib.Data.Finset.Dedup
import Mathlib.Data.Finset.Insert

/-!
# Executive decisions

The constructor of an Executive decision: it orders the parts, checks that the
decision type, the reasons, the context and the plan agree, and names the
decision by the digest of its document.
-/

namespace AyyoHumanoid
namespace Executive

open PyText JsonText PyCollections PersonalContext

/-- The arguments of the `ExecutiveDecision` constructor. -/
structure DecisionContent where
  requestId : PyStr
  ownerSubject : PyStr
  decisionType : ExecutiveDecisionType
  reasonCodes : List DecisionReason
  explanation : PyStr
  contextSnapshotVersion : ContextSnapshotVersion
  requestFingerprint : Fingerprint
  capabilityContractFingerprint : Fingerprint
  contextReferences : List ContextReference
  assumptions : List Assumption
  requiredCapabilities : List PyStr
  requiredApprovals : List ApprovalRequirement
  constraints : List Constraint
  proposedPlan : Option Plan
  deriving DecidableEq

/-- The attributes of an `ExecutiveDecision`. -/
structure ExecutiveDecision extends DecisionContent where
  decisionId : PyStr
  relevantContextFingerprint : Fingerprint
  decisionFingerprint : Fingerprint
  missingContext : List ContextRequirement
  conflictedContext : List ContextRequirement
  deriving DecidableEq

namespace DecisionContent

/-- The required context in the given state. -/
def requiredIn (references : List ContextReference) (state : ContextState) :
    List ContextRequirement :=
  (references.filter fun reference => reference.required ∧ reference.state = state).map
    (·.requirement)

/-- `_decision_tuple`. -/
def decisionTuple {α κ : Type} [LinearOrder κ] (values : List α) (key : α → κ)
    (fieldName : PyStr) : Except ExecutiveError (List α) := do
  require (values.length ≤ maxRequestItems)
    (decisionError (fieldName ++ py " cannot exceed " ++ natDigits maxRequestItems ++ py " items"))
  orderedUnique key values (decisionError (fieldName ++ py " must be unique"))

/-- The kind checks of the two supplied fingerprints. -/
def checkFingerprint (fingerprint : Fingerprint) (kind : FingerprintKind) :
    Except ExecutiveError Unit :=
  require (fingerprint.kind = kind) (decisionError (kind.value ++ py " fingerprint is invalid"))

/-- The reasons that a decision of a type with one reason carries. -/
def expectedReason : ExecutiveDecisionType → Option DecisionReason
  | .propose => some .readyForSafetyReview
  | .requestInformation => some .missingRequiredContext
  | .requestApproval => some .approvalRequired
  | .defer | .reject => none

/-- The checks of `_validate_shape` on the reasons. -/
def checkReasons (decisionType : ExecutiveDecisionType) (reasonCodes : List DecisionReason)
    (missing conflicted : List ContextRequirement) : Except ExecutiveError Unit := do
  require (∀ reason ∈ expectedReason decisionType, reasonCodes.toFinset = {reason})
    (decisionError (decisionType.value ++ py " has incompatible reason codes"))
  requireWhen (decisionType = .defer) (
    require (reasonCodes.toFinset ⊆
        {.missingRequiredContext, .conflictedRequiredContext, .capabilityUnavailable})
      (decisionError (py "DEFER has incompatible reason codes")))
  requireWhen (decisionType = .reject) (
    require (.unknownCapability ∈ reasonCodes ∧ reasonCodes.toFinset ⊆
        {.unknownCapability, .capabilityUnavailable, .missingRequiredContext,
          .conflictedRequiredContext})
      (decisionError (py "REJECT has incompatible reason codes")))
  require (.missingRequiredContext ∈ reasonCodes ↔ missing ≠ [])
    (decisionError (py "missing-context reasons must match missing required context"))
  require (.conflictedRequiredContext ∈ reasonCodes ↔ conflicted ≠ [])
    (decisionError (py "conflict reasons must match conflicted required context"))

/-- `_validate_shape`. -/
def validateShape (decisionType : ExecutiveDecisionType) (reasonCodes : List DecisionReason)
    (missing conflicted : List ContextRequirement) (approvals : List ApprovalRequirement)
    (plan : Option Plan) : Except ExecutiveError Unit := do
  checkReasons decisionType reasonCodes missing conflicted
  match decisionType with
  | .propose => do
    require (plan ≠ none ∧ missing = [] ∧ conflicted = [])
      (decisionError (py "PROPOSE requires a plan and fully resolved required context"))
    require (approvals = []) (decisionError (py "approval-gated proposals must request approval"))
  | .requestApproval => do
    require (plan ≠ none ∧ approvals ≠ [])
      (decisionError (py "REQUEST_APPROVAL requires a plan and approval requirements"))
    require (missing = [] ∧ conflicted = [])
      (decisionError (py "REQUEST_APPROVAL requires resolved context"))
  | .requestInformation =>
    require (plan = none ∧ missing ≠ [] ∧ conflicted = [])
      (decisionError (py "REQUEST_INFORMATION requires only missing context and no plan"))
  | .defer | .reject =>
    require (plan = none)
      (decisionError (decisionType.value ++ py " cannot contain a proposed plan"))

/-- The checks that a plan agrees with its decision. -/
def checkPlan (plan : Plan) (capabilities : List PyStr) (references : List ContextReference)
    (approvals : List ApprovalRequirement) : Except ExecutiveError Unit := do
  require ((plan.steps.map (·.capabilityId)).toFinset = capabilities.toFinset)
    (decisionError (py "proposed plan capabilities do not match the decision"))
  require (((references.filter (·.required)).map (·.requirement)).toFinset ⊆
      (plan.steps.flatMap (·.requiredContext)).toFinset)
    (decisionError (py "proposed plan omits required context dependencies"))
  require ((plan.steps.flatMap (·.requiredApprovals)).toFinset = approvals.toFinset)
    (decisionError (py "proposed plan approvals do not match the decision"))

/-- The checks of the constructor on the required capabilities. -/
def orderCapabilities (p : Platform) (capabilities : List PyStr) :
    Except ExecutiveError (List PyStr) := do
  require (capabilities.length ≤ maxPlanSteps)
    (decisionError (py "required_capabilities exceed the executive plan limit"))
  capabilities.forM fun capabilityId =>
    validateIdentifier decisionError p capabilityId (py "required capability") maxIdentifierLength
  require ((sortedSet capabilities).length = capabilities.length)
    (decisionError (py "required_capabilities must be unique"))
  require (sortedSet capabilities ≠ []) (decisionError (py "a decision requires capabilities"))
  pure (sortedSet capabilities)

/-- The ordered context references. -/
def orderReferences (references : List ContextReference) :
    Except ExecutiveError (List ContextReference) := do
  require (references.length ≤ maxContextRequirements)
    (decisionError (py "context references exceed the executive context limit"))
  let ordered := sortBy ContextReference.key references
  require (ordered.map (·.requirement)).Nodup
    (decisionError (py "a context key cannot appear more than once in a decision"))
  pure ordered

/-- The checks of the constructor on the texts, the reasons and the fingerprints. -/
def checkHeader (c : DecisionContent) : Except ExecutiveError Unit := do
  validateText decisionError c.requestId (py "decision request_id")
  validateText decisionError c.ownerSubject (py "decision owner_subject")
  require (c.reasonCodes ≠ [])
    (decisionError (py "reason_codes must be a non-empty tuple of DecisionReason values"))
  require (c.reasonCodes = sortBy DecisionReason.rank c.reasonCodes.dedup)
    (decisionError (py "reason_codes must be unique and ordered"))
  validateText decisionError c.explanation (py "decision explanation")
  checkFingerprint c.requestFingerprint .request
  checkFingerprint c.capabilityContractFingerprint .capabilityContract

/-- The document of a proposed plan. -/
def planDocument : Option Plan → Except ExecutiveError Json
  | none => .ok .null
  | some plan => do
    let steps ← plan.steps.mapM PlanStep.document
    pure (.arr steps)

/-- The document of a decision with ordered parts. -/
def document (c : DecisionContent) (relevant : Fingerprint) : Except ExecutiveError Json := do
  let constraints ← c.constraints.mapM Constraint.document
  let plan ← planDocument c.proposedPlan
  pure (.obj [(py "assumptions", .arr (c.assumptions.map Assumption.document)),
    (py "capability_contract_fingerprint", .str c.capabilityContractFingerprint.text),
    (py "conflicted_context",
      .arr ((requiredIn c.contextReferences .conflicted).map ContextRequirement.document)),
    (py "constraints", .arr constraints),
    (py "decision_type", .str c.decisionType.value),
    (py "explanation", .str c.explanation),
    (py "missing_context",
      .arr ((requiredIn c.contextReferences .unknown).map ContextRequirement.document)),
    (py "owner_subject", .str c.ownerSubject),
    (py "proposed_plan", plan),
    (py "reason_codes", textItems (c.reasonCodes.map DecisionReason.value)),
    (py "relevant_context_fingerprint", .str relevant.text),
    (py "request_fingerprint", .str c.requestFingerprint.text),
    (py "request_id", .str c.requestId),
    (py "required_approvals", .arr (c.requiredApprovals.map ApprovalRequirement.document)),
    (py "required_capabilities", textItems c.requiredCapabilities),
    (py "schema", .str (py "ayyo.executive.decision.v1"))])

/-- The constructor's ordering of the parts, with its checks. -/
def ordered (p : Platform) (c : DecisionContent) : Except ExecutiveError DecisionContent := do
  c.checkHeader
  let references ← orderReferences c.contextReferences
  let assumptions ← decisionTuple c.assumptions (·.assumptionId) (py "assumptions")
  let approvals ← decisionTuple c.requiredApprovals (·.approvalId) (py "required_approvals")
  let constraints ← decisionTuple c.constraints (·.constraintId) (py "constraints")
  let capabilities ← orderCapabilities p c.requiredCapabilities
  validateShape c.decisionType c.reasonCodes (requiredIn references .unknown)
    (requiredIn references .conflicted) approvals c.proposedPlan
  match c.proposedPlan with
  | none => pure ()
  | some plan => checkPlan plan capabilities references approvals
  pure {
    c with
    contextReferences := references
    assumptions := assumptions
    requiredApprovals := approvals
    constraints := constraints
    requiredCapabilities := capabilities }

/-- `ExecutiveDecision.__init__`. -/
def init (p : Platform) (c : DecisionContent) : Except ExecutiveError ExecutiveDecision := do
  let content ← c.ordered p
  let relevant ← relevantContextFingerprint p content.contextReferences
  let document ← content.document relevant
  let fingerprint ← fingerprintDocument p .decision document
  pure {
    toDecisionContent := content
    decisionId := py "decision-" ++ fingerprint.digest
    relevantContextFingerprint := relevant
    decisionFingerprint := fingerprint
    missingContext := requiredIn content.contextReferences .unknown
    conflictedContext := requiredIn content.contextReferences .conflicted }

end DecisionContent

end Executive
end AyyoHumanoid
