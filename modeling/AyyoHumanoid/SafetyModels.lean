import AyyoHumanoid.ExecutiveModels

/-!
# Safety rules, requirements and decisions

The public types of the safety kernel. A step decision records what one plan
step needs; a decision aggregates the step decisions and is named by the digest
of its document. The constructors check that dispositions, reasons and
requirements agree.
-/

namespace AyyoHumanoid
namespace Safety

open PyText JsonText PyCollections

/-- The exception classes of the safety kernel. -/
inductive SafetyErrorKind where
  | validation | invalidPolicy | invalidProposal | planInvariant | decisionInvariant
  | staleDecision
  /-- A failed dictionary lookup. -/
  | missingKey
  deriving DecidableEq, Repr

/-- An exception with its message. -/
structure SafetyError where
  /-- The exception class. -/
  kind : SafetyErrorKind
  /-- The message text. -/
  message : PyStr
  deriving DecidableEq

/-- `InvalidSafetyPolicyError(message)`. -/
def policyError (message : PyStr) : SafetyError := ⟨.invalidPolicy, message⟩

/-- `SafetyDecisionInvariantError(message)`. -/
def decisionError (message : PyStr) : SafetyError := ⟨.decisionInvariant, message⟩

/-- `SAFETY_SCHEMA_VERSION`. -/
def safetySchemaVersion : Int := 1

/-- `SAFETY_POLICY_VERSION`. -/
def safetyPolicyVersion : PyStr := py "ayyo.safety.policy.v1"

/-- `MAX_SAFETY_ITEMS`. -/
def maxSafetyItems : Nat := 128

/-- `MAX_SAFETY_CAPABILITIES`. -/
def maxSafetyCapabilities : Nat := 256

/-- `MAX_SAFETY_STEPS`. -/
def maxSafetySteps : Nat := 64

/-- `MAX_SAFETY_DECISION_ITEMS`. -/
def maxSafetyDecisionItems : Nat := 512

/-- `MAX_SAFETY_AGGREGATE_ITEMS`. -/
def maxSafetyAggregateItems : Nat := 20000

/-- The limits of a fingerprint document. -/
def fingerprintLimits : JsonLimits := ⟨256, 250000, 32000000⟩

/-- `SafetyFingerprintKind`. -/
inductive SafetyFingerprintKind where
  | policy | proposal | decision
  deriving DecidableEq, Repr

/-- The text of a fingerprint kind. -/
def SafetyFingerprintKind.value : SafetyFingerprintKind → PyStr
  | .policy => py "policy"
  | .proposal => py "proposal"
  | .decision => py "decision"

/-- `SafetyDisposition`. -/
inductive SafetyDisposition where
  | eligibleForDownstream | externalApprovalRequired | deferred | blocked
  deriving DecidableEq, Repr

/-- The text of a disposition. -/
def SafetyDisposition.value : SafetyDisposition → PyStr
  | .eligibleForDownstream => py "eligible_for_downstream"
  | .externalApprovalRequired => py "external_approval_required"
  | .deferred => py "deferred"
  | .blocked => py "blocked"

/-- `_DISPOSITION_RANK`. -/
def SafetyDisposition.rank : SafetyDisposition → Nat
  | .eligibleForDownstream => 0
  | .externalApprovalRequired => 1
  | .deferred => 2
  | .blocked => 3

/-- `_stronger`: the first of the two unless the second ranks higher. -/
def stronger (left right : SafetyDisposition) : SafetyDisposition :=
  if left.rank < right.rank then right else left

/-- `max(dispositions, key=_DISPOSITION_RANK.get)`, of a first disposition and the others. -/
def strongest (first : SafetyDisposition) (others : List SafetyDisposition) : SafetyDisposition :=
  others.foldl stronger first

/-- `HazardClass`. -/
inductive HazardClass where
  | informationalReadOnly | internalNonActuating | externalDigitalEffect | physicalMovement
  | physicalContact | privilegedHighImpact | emergencySafetyCritical | unclassified
  deriving DecidableEq, Repr

/-- The text of a hazard class. -/
def HazardClass.value : HazardClass → PyStr
  | .informationalReadOnly => py "informational_read_only"
  | .internalNonActuating => py "internal_non_actuating"
  | .externalDigitalEffect => py "external_digital_effect"
  | .physicalMovement => py "physical_movement"
  | .physicalContact => py "physical_contact"
  | .privilegedHighImpact => py "privileged_high_impact"
  | .emergencySafetyCritical => py "emergency_safety_critical"
  | .unclassified => py "unclassified"

/-- The members of `HazardClass`. -/
def HazardClass.members : List HazardClass :=
  [.informationalReadOnly, .internalNonActuating, .externalDigitalEffect, .physicalMovement,
    .physicalContact, .privilegedHighImpact, .emergencySafetyCritical, .unclassified]

/-- `ApprovalClass`. -/
inductive ApprovalClass where
  | executiveDeclared | externalDigitalAction | privilegedHighImpact
  deriving DecidableEq, Repr

/-- The text of an approval class. -/
def ApprovalClass.value : ApprovalClass → PyStr
  | .executiveDeclared => py "executive_declared"
  | .externalDigitalAction => py "external_digital_action"
  | .privilegedHighImpact => py "privileged_high_impact"

/-- `ApprovalSource`. -/
inductive ApprovalSource where
  | executive | safetyPolicy
  deriving DecidableEq, Repr

/-- The text of an approval source. -/
def ApprovalSource.value : ApprovalSource → PyStr
  | .executive => py "executive"
  | .safetyPolicy => py "safety_policy"

/-- `SafetyPrerequisiteKind`. -/
inductive SafetyPrerequisiteKind where
  | motionSafetyEvaluation | contactSafetyEvaluation | requiredPrecondition | requiredConstraint
  | requiredContext | assumptionVerification
  deriving DecidableEq, Repr

/-- The text of a prerequisite kind. -/
def SafetyPrerequisiteKind.value : SafetyPrerequisiteKind → PyStr
  | .motionSafetyEvaluation => py "motion_safety_evaluation"
  | .contactSafetyEvaluation => py "contact_safety_evaluation"
  | .requiredPrecondition => py "required_precondition"
  | .requiredConstraint => py "required_constraint"
  | .requiredContext => py "required_context"
  | .assumptionVerification => py "assumption_verification"

/-- `SafetyReason`. -/
inductive SafetyReason where
  | informationalOperationEligible | internalOperationEligible | externalEffectApprovalRequired
  | privilegedApprovalRequired | executiveApprovalUnverified
  | physicalMovementInformationUnavailable | physicalContactInformationUnavailable
  | emergencyOperationBlocked | unknownCapabilityClass | capabilityDeclarationConflict
  | requiredSafetyMetadataMissing | requiredContextUnavailable | unverifiedAssumption
  deriving DecidableEq, Repr

/-- The text of a reason. -/
def SafetyReason.value : SafetyReason → PyStr
  | .informationalOperationEligible => py "informational_operation_eligible"
  | .internalOperationEligible => py "internal_operation_eligible"
  | .externalEffectApprovalRequired => py "external_effect_approval_required"
  | .privilegedApprovalRequired => py "privileged_approval_required"
  | .executiveApprovalUnverified => py "executive_approval_unverified"
  | .physicalMovementInformationUnavailable => py "physical_movement_information_unavailable"
  | .physicalContactInformationUnavailable => py "physical_contact_information_unavailable"
  | .emergencyOperationBlocked => py "emergency_operation_blocked"
  | .unknownCapabilityClass => py "unknown_capability_class"
  | .capabilityDeclarationConflict => py "capability_declaration_conflict"
  | .requiredSafetyMetadataMissing => py "required_safety_metadata_missing"
  | .requiredContextUnavailable => py "required_context_unavailable"
  | .unverifiedAssumption => py "unverified_assumption"

/-- The members of `SafetyReason` in order. -/
def SafetyReason.members : List SafetyReason :=
  [.informationalOperationEligible, .internalOperationEligible, .externalEffectApprovalRequired,
    .privilegedApprovalRequired, .executiveApprovalUnverified,
    .physicalMovementInformationUnavailable, .physicalContactInformationUnavailable,
    .emergencyOperationBlocked, .unknownCapabilityClass, .capabilityDeclarationConflict,
    .requiredSafetyMetadataMissing, .requiredContextUnavailable, .unverifiedAssumption]

/-- `_REASON_RANK`. -/
def SafetyReason.rank (reason : SafetyReason) : Nat :=
  SafetyReason.members.idxOf reason

/-- `_HAZARD_BASE_REASON`. -/
def HazardClass.baseReason : HazardClass → SafetyReason
  | .informationalReadOnly => .informationalOperationEligible
  | .internalNonActuating => .internalOperationEligible
  | .externalDigitalEffect => .externalEffectApprovalRequired
  | .physicalMovement => .physicalMovementInformationUnavailable
  | .physicalContact => .physicalContactInformationUnavailable
  | .privilegedHighImpact => .privilegedApprovalRequired
  | .emergencySafetyCritical => .emergencyOperationBlocked
  | .unclassified => .unknownCapabilityClass

/-- `_HAZARD_MINIMUM_DISPOSITION`. -/
def HazardClass.minimumDisposition : HazardClass → SafetyDisposition
  | .informationalReadOnly => .eligibleForDownstream
  | .internalNonActuating => .eligibleForDownstream
  | .externalDigitalEffect => .externalApprovalRequired
  | .physicalMovement => .deferred
  | .physicalContact => .deferred
  | .privilegedHighImpact => .externalApprovalRequired
  | .emergencySafetyCritical => .blocked
  | .unclassified => .blocked

/-- `SafetyFingerprint`. -/
structure SafetyFingerprint where
  kind : SafetyFingerprintKind
  digest : PyStr
  algorithm : PyStr := py "sha256"
  schemaVersion : Int := safetySchemaVersion
  deriving DecidableEq

/-- `SafetyFingerprint.__post_init__`. -/
def SafetyFingerprint.postInit (f : SafetyFingerprint) : Except SafetyError Unit := do
  require (f.algorithm = py "sha256")
    (decisionError (py "safety fingerprint algorithm must be sha256"))
  require (f.schemaVersion = safetySchemaVersion)
    (decisionError (py "safety fingerprint schema version is unsupported"))
  require (IsHexDigest f.digest)
    (decisionError (py "safety fingerprint digest must be lowercase SHA-256 hexadecimal"))

/-- `str(fingerprint)`. -/
def SafetyFingerprint.text (f : SafetyFingerprint) : PyStr :=
  f.kind.value ++ py ":sha256:" ++ f.digest

/-- `canonicalize_json` with the exception class and the limits the caller names. -/
def canonicalize (kind : SafetyErrorKind) (limits : JsonLimits) (fieldName : PyStr) (value : Json) :
    Except SafetyError PyStr :=
  (canonicalizeJson limits value).mapError fun fault => ⟨kind, fault.message fieldName⟩

/-- `fingerprint_document`. -/
def fingerprintDocument (p : Platform) (kind : SafetyFingerprintKind) (document : Json)
    (errorKind : SafetyErrorKind) : Except SafetyError SafetyFingerprint := do
  let canonical ← canonicalize errorKind fingerprintLimits
    (kind.value ++ py " fingerprint document") document
  let fingerprint : SafetyFingerprint := { kind := kind, digest := p.sha256 canonical }
  fingerprint.postInit
  pure fingerprint

/-- `_identifier_tuple`. -/
def identifierTuple (p : Platform) (error : PyStr → SafetyError) (values : List PyStr)
    (fieldName : PyStr) (maxLength : Nat) : Except SafetyError (List PyStr) := do
  require (values.length ≤ maxSafetyItems) (error (fieldName ++ py " exceeds the item limit"))
  values.forM fun value => validateIdentifier error p value fieldName maxLength
  require ((sortedSet values).length = values.length) (error (fieldName ++ py " must be unique"))
  pure (sortedSet values)

/-- `SafetyApprovalRequirement`. -/
structure SafetyApprovalRequirement where
  approvalClass : ApprovalClass
  source : ApprovalSource
  requirementId : PyStr
  description : PyStr
  affectedStepId : PyStr
  deriving DecidableEq

/-- The constructor of `SafetyApprovalRequirement`. -/
def SafetyApprovalRequirement.construct (p : Platform) (a : SafetyApprovalRequirement) :
    Except SafetyError SafetyApprovalRequirement := do
  validateIdentifier decisionError p a.requirementId (py "approval requirement_id")
    maxIdentifierLength
  validateIdentifier decisionError p a.affectedStepId (py "approval affected_step_id")
    maxIdentifierLength
  validateText decisionError a.description (py "approval description")
  pure a

/-- `_approval_key`. -/
def SafetyApprovalRequirement.key (a : SafetyApprovalRequirement) :
    PyStr ×ₗ PyStr ×ₗ PyStr ×ₗ PyStr :=
  toLex (a.affectedStepId,
    toLex (a.source.value, toLex (a.approvalClass.value, a.requirementId)))

/-- `UnresolvedSafetyPrerequisite`. -/
structure UnresolvedSafetyPrerequisite where
  kind : SafetyPrerequisiteKind
  prerequisiteId : PyStr
  description : PyStr
  affectedStepId : PyStr
  deriving DecidableEq

/-- The constructor of `UnresolvedSafetyPrerequisite`. -/
def UnresolvedSafetyPrerequisite.construct (p : Platform) (u : UnresolvedSafetyPrerequisite) :
    Except SafetyError UnresolvedSafetyPrerequisite := do
  validateIdentifier decisionError p u.prerequisiteId (py "prerequisite_id") maxIdentifierLength
  validateIdentifier decisionError p u.affectedStepId (py "prerequisite affected_step_id")
    maxIdentifierLength
  validateText decisionError u.description (py "prerequisite description")
  pure u

/-- `_prerequisite_key`. -/
def UnresolvedSafetyPrerequisite.key (u : UnresolvedSafetyPrerequisite) :
    PyStr ×ₗ PyStr ×ₗ PyStr :=
  toLex (u.affectedStepId, toLex (u.kind.value, u.prerequisiteId))

/-- `_ordered_objects`. -/
def orderedObjects {α κ : Type} [LinearOrder κ] (values : List α) (key : α → κ)
    (fieldName : PyStr) : Except SafetyError (List α) := do
  require (values.length ≤ maxSafetyDecisionItems)
    (decisionError (fieldName ++ py " exceeds the item limit"))
  orderedUnique key values (decisionError (fieldName ++ py " must be unique"))

/-- `SafetyStepDecision`. -/
structure SafetyStepDecision where
  stepId : PyStr
  capabilityId : PyStr
  hazardClass : HazardClass
  disposition : SafetyDisposition
  reasonCodes : List SafetyReason
  triggeringPolicyRules : List PyStr
  requiredApprovals : List SafetyApprovalRequirement
  unresolvedPrerequisites : List UnresolvedSafetyPrerequisite
  deriving DecidableEq

namespace SafetyStepDecision

/-- The reasons that explain a blocked step. -/
def blockingReasons : List SafetyReason :=
  [.emergencyOperationBlocked, .unknownCapabilityClass, .capabilityDeclarationConflict,
    .requiredSafetyMetadataMissing]

/-- The reasons that explain a step that waits for approval. -/
def approvalReasons : List SafetyReason :=
  [.externalEffectApprovalRequired, .privilegedApprovalRequired, .executiveApprovalUnverified]

/-- The reasons that explain a deferred step. -/
def deferReasons : List SafetyReason :=
  [.physicalMovementInformationUnavailable, .physicalContactInformationUnavailable,
    .requiredContextUnavailable, .unverifiedAssumption]

/-- Some reason of the step is one of the given ones. -/
def Explains (reasons : List SafetyReason) (d : SafetyStepDecision) : Prop :=
  ∃ reason ∈ d.reasonCodes, reason ∈ reasons

instance (reasons : List SafetyReason) (d : SafetyStepDecision) : Decidable (d.Explains reasons) :=
  inferInstanceAs (Decidable (∃ reason ∈ d.reasonCodes, reason ∈ reasons))

/-- The checks on the requirements that the disposition leaves open. -/
def checkRequirements (d : SafetyStepDecision) : Except SafetyError Unit := do
  require (∀ item ∈ d.requiredApprovals, item.affectedStepId = d.stepId)
    (decisionError (py "step approvals must identify their affected step"))
  require (∀ item ∈ d.unresolvedPrerequisites, item.affectedStepId = d.stepId)
    (decisionError (py "step prerequisites must identify their affected step"))
  require (d.disposition = .eligibleForDownstream →
      d.requiredApprovals = [] ∧ d.unresolvedPrerequisites = [])
    (decisionError (py "eligible steps cannot retain approval or prerequisite blockers"))
  require (d.disposition = .externalApprovalRequired →
      d.requiredApprovals ≠ [] ∧ d.unresolvedPrerequisites = [])
    (decisionError (py "approval-required steps need approvals and no stronger blocker"))
  require (d.disposition = .deferred → d.unresolvedPrerequisites ≠ [])
    (decisionError (py "deferred steps need unresolved prerequisites"))

/-- The checks on the reasons that explain the disposition. -/
def checkReasons (d : SafetyStepDecision) : Except SafetyError Unit := do
  require (d.disposition = .blocked → d.Explains blockingReasons)
    (decisionError (py "blocked steps require an explicit blocking reason"))
  require (d.hazardClass = .unclassified →
      d.disposition = .blocked ∧ .unknownCapabilityClass ∈ d.reasonCodes)
    (decisionError (py "unclassified capabilities must be explicitly blocked"))
  require (d.hazardClass.baseReason ∈ d.reasonCodes)
    (decisionError (py "step reasons must identify the evaluated hazard rule"))
  require (d.hazardClass.minimumDisposition.rank ≤ d.disposition.rank)
    (decisionError (py "a step cannot weaken its hazard class disposition"))
  require (d.disposition = .externalApprovalRequired → d.Explains approvalReasons)
    (decisionError (py "approval-required steps need an explicit approval reason"))
  require (d.disposition = .deferred → d.Explains deferReasons)
    (decisionError (py "deferred steps need an explicit deferral reason"))

/-- The length limit of a policy rule identifier. -/
def maxRuleIdLength : Nat := maxIdentifierLength + (py "capability.").length

/-- `SafetyStepDecision.__init__`. -/
def init (p : Platform) (d : SafetyStepDecision) : Except SafetyError SafetyStepDecision := do
  validateIdentifier decisionError p d.stepId (py "step decision step_id") maxIdentifierLength
  validateIdentifier decisionError p d.capabilityId (py "step decision capability_id")
    maxIdentifierLength
  require (d.reasonCodes ≠ []) (decisionError (py "step reasons must be a non-empty typed tuple"))
  require (d.reasonCodes = sortBy SafetyReason.rank d.reasonCodes.dedup)
    (decisionError (py "step reasons must be unique and ordered"))
  let policyRules ← identifierTuple p decisionError d.triggeringPolicyRules
    (py "triggering policy rules") maxRuleIdLength
  require (policyRules ≠ []) (decisionError (py "a step decision requires a triggering policy rule"))
  let approvals ← orderedObjects d.requiredApprovals SafetyApprovalRequirement.key
    (py "step approval requirements")
  let prerequisites ← orderedObjects d.unresolvedPrerequisites UnresolvedSafetyPrerequisite.key
    (py "step unresolved prerequisites")
  let ordered : SafetyStepDecision := {
    d with
    triggeringPolicyRules := policyRules
    requiredApprovals := approvals
    unresolvedPrerequisites := prerequisites }
  ordered.checkRequirements
  ordered.checkReasons
  pure ordered

end SafetyStepDecision

section Documents

/-- `_approval_document`. -/
def SafetyApprovalRequirement.document (a : SafetyApprovalRequirement) : Json :=
  .obj [(py "affected_step_id", .str a.affectedStepId),
    (py "approval_class", .str a.approvalClass.value),
    (py "description", .str a.description),
    (py "requirement_id", .str a.requirementId),
    (py "source", .str a.source.value)]

/-- `_prerequisite_document`. -/
def UnresolvedSafetyPrerequisite.document (u : UnresolvedSafetyPrerequisite) : Json :=
  .obj [(py "affected_step_id", .str u.affectedStepId),
    (py "description", .str u.description),
    (py "kind", .str u.kind.value),
    (py "prerequisite_id", .str u.prerequisiteId)]

/-- `_step_decision_document`. -/
def SafetyStepDecision.document (d : SafetyStepDecision) : Json :=
  .obj [(py "capability_id", .str d.capabilityId),
    (py "disposition", .str d.disposition.value),
    (py "hazard_class", .str d.hazardClass.value),
    (py "reason_codes", Executive.textItems (d.reasonCodes.map SafetyReason.value)),
    (py "required_approvals", .arr (d.requiredApprovals.map SafetyApprovalRequirement.document)),
    (py "step_id", .str d.stepId),
    (py "triggering_policy_rules", Executive.textItems d.triggeringPolicyRules),
    (py "unresolved_prerequisites",
      .arr (d.unresolvedPrerequisites.map UnresolvedSafetyPrerequisite.document))]

end Documents

/-- The arguments of the `SafetyDecision` constructor. -/
structure SafetyDecisionContent where
  sourceDecisionId : PyStr
  sourceRequestId : PyStr
  ownerSubject : PyStr
  sourceDecisionFingerprint : Executive.Fingerprint
  policyVersion : PyStr
  policyFingerprint : SafetyFingerprint
  proposalFingerprint : SafetyFingerprint
  stepDecisions : List SafetyStepDecision
  deriving DecidableEq

/-- The attributes of a `SafetyDecision`. -/
structure SafetyDecision extends SafetyDecisionContent where
  decisionId : PyStr
  disposition : SafetyDisposition
  reasonCodes : List SafetyReason
  decisionFingerprint : SafetyFingerprint
  requiredApprovals : List SafetyApprovalRequirement
  unresolvedPrerequisites : List UnresolvedSafetyPrerequisite
  deriving DecidableEq

namespace SafetyDecisionContent

/-- The checks of the constructor on the sources. -/
def checkSources (c : SafetyDecisionContent) : Except SafetyError Unit := do
  validateText decisionError c.sourceDecisionId (py "source_decision_id")
  validateText decisionError c.sourceRequestId (py "source_request_id")
  validateText decisionError c.ownerSubject (py "owner_subject")
  validateText decisionError c.policyVersion (py "policy_version")
  require (c.policyVersion = safetyPolicyVersion)
    (decisionError (py "safety decision policy version is unsupported"))
  require (c.sourceDecisionFingerprint.kind = .decision)
    (decisionError (py "source decision fingerprint is invalid"))
  require (c.policyFingerprint.kind = .policy)
    (decisionError (py "policy fingerprint is invalid"))
  require (c.proposalFingerprint.kind = .proposal)
    (decisionError (py "proposal fingerprint is invalid"))

/-- The reasons of all steps in order. -/
def reasons (c : SafetyDecisionContent) : List SafetyReason :=
  sortBy SafetyReason.rank (c.stepDecisions.flatMap (·.reasonCodes)).dedup

/-- The approvals of all steps in order. -/
def approvals (c : SafetyDecisionContent) : List SafetyApprovalRequirement :=
  sortBy SafetyApprovalRequirement.key (c.stepDecisions.flatMap (·.requiredApprovals)).dedup

/-- The prerequisites of all steps in order. -/
def prerequisites (c : SafetyDecisionContent) : List UnresolvedSafetyPrerequisite :=
  sortBy UnresolvedSafetyPrerequisite.key
    (c.stepDecisions.flatMap (·.unresolvedPrerequisites)).dedup

/-- The document that names a decision. -/
def document (c : SafetyDecisionContent) (disposition : SafetyDisposition) : Json :=
  .obj [(py "disposition", .str disposition.value),
    (py "owner_subject", .str c.ownerSubject),
    (py "policy_fingerprint", .str c.policyFingerprint.text),
    (py "policy_version", .str c.policyVersion),
    (py "proposal_fingerprint", .str c.proposalFingerprint.text),
    (py "reason_codes", Executive.textItems (c.reasons.map SafetyReason.value)),
    (py "required_approvals", .arr (c.approvals.map SafetyApprovalRequirement.document)),
    (py "schema", .str (py "ayyo.safety.decision.v1")),
    (py "source_decision_fingerprint", .str c.sourceDecisionFingerprint.text),
    (py "source_decision_id", .str c.sourceDecisionId),
    (py "source_request_id", .str c.sourceRequestId),
    (py "step_decisions", .arr (c.stepDecisions.map SafetyStepDecision.document)),
    (py "unresolved_prerequisites",
      .arr (c.prerequisites.map UnresolvedSafetyPrerequisite.document))]

/-- `SafetyDecision.__init__`. -/
def init (p : Platform) (c : SafetyDecisionContent) : Except SafetyError SafetyDecision := do
  c.checkSources
  match c.stepDecisions with
  | [] => .error (decisionError (py "a safety decision requires typed step decisions"))
  | first :: others => do
    require (c.stepDecisions.length ≤ maxSafetySteps)
      (decisionError (py "step decisions exceed the item limit"))
    require (c.stepDecisions.map (·.stepId)).Nodup
      (decisionError (py "step decision IDs must be unique"))
    let disposition := strongest first.disposition (others.map (·.disposition))
    require (c.approvals.length ≤ maxSafetyAggregateItems)
      (decisionError (py "decision approval requirements exceed the aggregate limit"))
    require (c.prerequisites.length ≤ maxSafetyAggregateItems)
      (decisionError (py "decision prerequisites exceed the aggregate limit"))
    let fingerprint ← fingerprintDocument p .decision (c.document disposition) .decisionInvariant
    pure {
      toSafetyDecisionContent := c
      decisionId := py "safety-decision-" ++ fingerprint.digest
      disposition := disposition
      reasonCodes := c.reasons
      decisionFingerprint := fingerprint
      requiredApprovals := c.approvals
      unresolvedPrerequisites := c.prerequisites }

end SafetyDecisionContent

end Safety
end AyyoHumanoid
