import AyyoHumanoid.SafetyModels

/-!
# The safety policy

A policy is a set of capability rules over the fixed hazard rules of version 1.
A capability rule puts a capability into a hazard class and names the
preconditions and constraints that a step must declare. The policy is named by
the digest of its document.
-/

namespace AyyoHumanoid
namespace Safety

open PyText JsonText PyCollections

/-- `SafetyPrerequisiteDefinition`. -/
structure SafetyPrerequisiteDefinition where
  kind : SafetyPrerequisiteKind
  prerequisiteId : PyStr
  description : PyStr
  deriving DecidableEq

/-- `SafetyPrerequisiteDefinition.__post_init__`. -/
def SafetyPrerequisiteDefinition.postInit (p : Platform) (d : SafetyPrerequisiteDefinition) :
    Except SafetyError Unit := do
  validateIdentifier policyError p d.prerequisiteId (py "prerequisite_id") maxIdentifierLength
  validateText policyError d.description (py "prerequisite description")

/-- `HazardRule`. -/
structure HazardRule where
  ruleId : PyStr
  hazardClass : HazardClass
  disposition : SafetyDisposition
  reason : SafetyReason
  approvalClass : Option ApprovalClass := none
  prerequisites : List SafetyPrerequisiteDefinition := []
  deriving DecidableEq

/-- The key that orders the prerequisites of a hazard rule. -/
def SafetyPrerequisiteDefinition.key (d : SafetyPrerequisiteDefinition) : PyStr ×ₗ PyStr :=
  toLex (d.kind.value, d.prerequisiteId)

/-- `HazardRule.__post_init__`. -/
def HazardRule.postInit (p : Platform) (rule : HazardRule) : Except SafetyError Unit := do
  validateIdentifier policyError p rule.ruleId (py "hazard rule_id") maxIdentifierLength
  require (rule.prerequisites.map (·.key) = sortedSet (rule.prerequisites.map (·.key)))
    (policyError (py "hazard rule prerequisites must be unique and ordered"))
  require (rule.disposition = .externalApprovalRequired ↔ rule.approvalClass ≠ none)
    (policyError (py "approval disposition and approval class must appear together"))
  require (rule.disposition = .deferred ↔ rule.prerequisites ≠ [])
    (policyError (py "deferred hazard rules require explicit prerequisites"))

/-- `_MOTION_PREREQUISITE`. -/
def motionPrerequisite : SafetyPrerequisiteDefinition where
  kind := .motionSafetyEvaluation
  prerequisiteId := py "motion-safety-evaluation"
  description :=
    py "A downstream motion-safety subsystem must evaluate the proposed " ++
      py "movement against current robot and environment state."

/-- `_CONTACT_PREREQUISITE`. -/
def contactPrerequisite : SafetyPrerequisiteDefinition where
  kind := .contactSafetyEvaluation
  prerequisiteId := py "contact-safety-evaluation"
  description :=
    py "A downstream contact-safety subsystem must evaluate the proposed " ++
      py "contact against current robot, human, object, and environment state."

/-- `_V1_HAZARD_RULES`. -/
def v1HazardRules : List HazardRule := [
  { ruleId := py "hazard.emergency-safety-critical"
    hazardClass := .emergencySafetyCritical
    disposition := .blocked
    reason := .emergencyOperationBlocked },
  { ruleId := py "hazard.external-digital-effect"
    hazardClass := .externalDigitalEffect
    disposition := .externalApprovalRequired
    reason := .externalEffectApprovalRequired
    approvalClass := some .externalDigitalAction },
  { ruleId := py "hazard.informational-read-only"
    hazardClass := .informationalReadOnly
    disposition := .eligibleForDownstream
    reason := .informationalOperationEligible },
  { ruleId := py "hazard.internal-non-actuating"
    hazardClass := .internalNonActuating
    disposition := .eligibleForDownstream
    reason := .internalOperationEligible },
  { ruleId := py "hazard.physical-contact"
    hazardClass := .physicalContact
    disposition := .deferred
    reason := .physicalContactInformationUnavailable
    prerequisites := [contactPrerequisite] },
  { ruleId := py "hazard.physical-movement"
    hazardClass := .physicalMovement
    disposition := .deferred
    reason := .physicalMovementInformationUnavailable
    prerequisites := [motionPrerequisite] },
  { ruleId := py "hazard.privileged-high-impact"
    hazardClass := .privilegedHighImpact
    disposition := .externalApprovalRequired
    reason := .privilegedApprovalRequired
    approvalClass := some .privilegedHighImpact },
  { ruleId := py "hazard.unclassified"
    hazardClass := .unclassified
    disposition := .blocked
    reason := .unknownCapabilityClass }]

/-- The arguments and the attributes of a `CapabilitySafetyRule`. -/
structure CapabilityRuleContent where
  capabilityId : PyStr
  hazardClass : HazardClass
  requiredPreconditionIds : List PyStr := []
  requiredConstraintIds : List PyStr := []
  deriving DecidableEq

/-- `CapabilitySafetyRule.__init__`. -/
def CapabilityRuleContent.init (p : Platform) (rule : CapabilityRuleContent) :
    Except SafetyError CapabilityRuleContent := do
  validateIdentifier policyError p rule.capabilityId (py "capability_id") maxIdentifierLength
  require (rule.hazardClass ≠ .unclassified)
    (policyError (py "a capability rule requires an explicit classified hazard"))
  let preconditions ← identifierTuple p policyError rule.requiredPreconditionIds
    (py "required precondition IDs") maxIdentifierLength
  let constraints ← identifierTuple p policyError rule.requiredConstraintIds
    (py "required constraint IDs") maxIdentifierLength
  pure {
    rule with
    requiredPreconditionIds := preconditions
    requiredConstraintIds := constraints }

/-- A `CapabilitySafetyRule`: attributes that its constructor returned. -/
structure CapabilitySafetyRule (p : Platform) extends CapabilityRuleContent where
  /-- The constructor returned these attributes. -/
  built : ∃ arguments : CapabilityRuleContent, arguments.init p = .ok toCapabilityRuleContent

/-- `rule_id`. -/
def CapabilityRuleContent.ruleId (rule : CapabilityRuleContent) : PyStr :=
  py "capability." ++ rule.capabilityId

section Documents

/-- The document of a prerequisite inside a hazard rule. -/
def SafetyPrerequisiteDefinition.document (d : SafetyPrerequisiteDefinition) : Json :=
  .obj [(py "description", .str d.description), (py "kind", .str d.kind.value),
    (py "prerequisite_id", .str d.prerequisiteId)]

/-- `_hazard_rule_document`. -/
def HazardRule.document (rule : HazardRule) : Json :=
  .obj [(py "approval_class", (rule.approvalClass.map fun approval => approval.value).elim
      .null .str),
    (py "disposition", .str rule.disposition.value),
    (py "hazard_class", .str rule.hazardClass.value),
    (py "prerequisites", .arr (rule.prerequisites.map SafetyPrerequisiteDefinition.document)),
    (py "reason", .str rule.reason.value),
    (py "rule_id", .str rule.ruleId)]

/-- `_capability_rule_document`. -/
def CapabilityRuleContent.document (rule : CapabilityRuleContent) : Json :=
  .obj [(py "capability_id", .str rule.capabilityId),
    (py "hazard_class", .str rule.hazardClass.value),
    (py "required_constraint_ids", Executive.textItems rule.requiredConstraintIds),
    (py "required_precondition_ids", Executive.textItems rule.requiredPreconditionIds),
    (py "rule_id", .str rule.ruleId)]

end Documents

/-- The attributes of a `SafetyPolicy`. -/
structure SafetyPolicyContent (p : Platform) where
  version : PyStr
  capabilityRules : List (CapabilitySafetyRule p)
  hazardRules : List HazardRule
  fingerprint : SafetyFingerprint

namespace SafetyPolicyContent

variable {p : Platform}

/-- The document that names a policy. -/
def document (capabilityRules : List (CapabilitySafetyRule p)) (hazardRules : List HazardRule) :
    Json :=
  .obj [(py "capability_rules", .arr (capabilityRules.map (·.document))),
    (py "hazard_rules", .arr (hazardRules.map HazardRule.document)),
    (py "schema", .str (py "ayyo.safety.policy.v1")),
    (py "version", .str safetyPolicyVersion)]

/-- `SafetyPolicy.__init__`. -/
def init (capabilityRules : List (CapabilitySafetyRule p)) :
    Except SafetyError (SafetyPolicyContent p) := do
  require (capabilityRules.length ≤ maxSafetyCapabilities)
    (policyError (py "capability rules exceed the policy limit"))
  let orderedCapabilities := sortBy (fun rule => rule.capabilityId) capabilityRules
  require (orderedCapabilities.map (·.capabilityId)).Nodup
    (policyError (py "capability rules must use unique capability IDs"))
  let hazardRules := sortBy (fun rule => rule.hazardClass.value) v1HazardRules
  require ((∀ hazardClass ∈ HazardClass.members, hazardClass ∈ hazardRules.map (·.hazardClass)) ∧
      hazardRules.length = HazardClass.members.length)
    (policyError (py "the v1 policy must define exactly one rule per hazard class"))
  let fingerprint ← fingerprintDocument p .policy (document orderedCapabilities hazardRules)
    .invalidPolicy
  pure {
    version := safetyPolicyVersion
    capabilityRules := orderedCapabilities
    hazardRules := hazardRules
    fingerprint := fingerprint }

end SafetyPolicyContent

/-- A `SafetyPolicy`: attributes that its constructor returned. -/
structure SafetyPolicy (p : Platform) extends SafetyPolicyContent p where
  /-- The constructor returned these attributes. -/
  built : ∃ rules, SafetyPolicyContent.init rules = .ok toSafetyPolicyContent

namespace SafetyPolicy

variable {p : Platform}

/-- `capability_rule`. -/
def capabilityRule (policy : SafetyPolicy p) (capabilityId : PyStr) :
    Except SafetyError (Option (CapabilitySafetyRule p)) := do
  validateIdentifier policyError p capabilityId (py "capability_id") maxIdentifierLength
  pure (policy.capabilityRules.find? fun rule => rule.capabilityId = capabilityId)

/-- `hazard_rule`. -/
def hazardRule (policy : SafetyPolicy p) (hazardClass : HazardClass) :
    Except SafetyError HazardRule :=
  match policy.hazardRules.find? fun rule => rule.hazardClass = hazardClass with
  | some rule => .ok rule
  | none => .error ⟨.missingKey, hazardClass.value⟩

end SafetyPolicy
end Safety
end AyyoHumanoid
