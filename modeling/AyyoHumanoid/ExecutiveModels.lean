import AyyoHumanoid.ContextModels
import AyyoHumanoid.JsonBounds
import AyyoHumanoid.PyCollections
import AyyoHumanoid.PyUuid

/-!
# Executive plans and their documents

The values that make up an Executive decision: requirements, approvals,
assumptions, constraints, plan steps and context references, and the JSON
documents whose digests name them. The values carry their attributes without
the checks of their constructors, because a consumer must not rely on them.
-/

namespace AyyoHumanoid
namespace Executive

open PyText JsonText PyCollections PersonalContext

/-- The exception classes of the Executive package. -/
inductive ExecutiveErrorKind where
  | validation | invalidRequest | invalidCapabilityDefinition | invalidCapabilityParameters
  | planInvariant | decisionInvariant
  deriving DecidableEq, Repr

/-- An exception with its message. -/
structure ExecutiveError where
  /-- The exception class. -/
  kind : ExecutiveErrorKind
  /-- The message text. -/
  message : PyStr
  deriving DecidableEq

/-- `DecisionInvariantError(message)`. -/
def decisionError (message : PyStr) : ExecutiveError := ⟨.decisionInvariant, message⟩

/-- `PlanInvariantError(message)`. -/
def planError (message : PyStr) : ExecutiveError := ⟨.planInvariant, message⟩

/-- `InvalidRequestError(message)`. -/
def requestError (message : PyStr) : ExecutiveError := ⟨.invalidRequest, message⟩

/-- `EXECUTIVE_SCHEMA_VERSION`. -/
def executiveSchemaVersion : Int := 1

/-- `MAX_PLAN_STEPS`. -/
def maxPlanSteps : Nat := 64

/-- `MAX_CONTEXT_REQUIREMENTS`. -/
def maxContextRequirements : Nat := 128

/-- `MAX_REQUEST_ITEMS`. -/
def maxRequestItems : Nat := 128

/-- `FingerprintKind`. -/
inductive FingerprintKind where
  | request | capabilityContract | relevantContext | decision
  deriving DecidableEq, Repr

/-- The text of a fingerprint kind. -/
def FingerprintKind.value : FingerprintKind → PyStr
  | .request => py "request"
  | .capabilityContract => py "capability_contract"
  | .relevantContext => py "relevant_context"
  | .decision => py "decision"

/-- `ExecutiveDecisionType`. -/
inductive ExecutiveDecisionType where
  | propose | requestInformation | requestApproval | defer | reject
  deriving DecidableEq, Repr

/-- The text of a decision type. -/
def ExecutiveDecisionType.value : ExecutiveDecisionType → PyStr
  | .propose => py "propose"
  | .requestInformation => py "request_information"
  | .requestApproval => py "request_approval"
  | .defer => py "defer"
  | .reject => py "reject"

/-- `DecisionReason`. -/
inductive DecisionReason where
  | readyForSafetyReview | missingRequiredContext | conflictedRequiredContext | approvalRequired
  | capabilityUnavailable | unknownCapability
  deriving DecidableEq, Repr

/-- The text of a decision reason. -/
def DecisionReason.value : DecisionReason → PyStr
  | .readyForSafetyReview => py "ready_for_safety_review"
  | .missingRequiredContext => py "missing_required_context"
  | .conflictedRequiredContext => py "conflicted_required_context"
  | .approvalRequired => py "approval_required"
  | .capabilityUnavailable => py "capability_unavailable"
  | .unknownCapability => py "unknown_capability"

/-- The position of a decision reason in its enumeration. -/
def DecisionReason.rank : DecisionReason → Nat
  | .readyForSafetyReview => 0
  | .missingRequiredContext => 1
  | .conflictedRequiredContext => 2
  | .approvalRequired => 3
  | .capabilityUnavailable => 4
  | .unknownCapability => 5

/-- `ExpectedResultCategory`. -/
inductive ExpectedResultCategory where
  | information | proposedStateChange | proposedCommunication | proposedPhysicalEffect
  deriving DecidableEq, Repr

/-- The text of an expected result. -/
def ExpectedResultCategory.value : ExpectedResultCategory → PyStr
  | .information => py "information"
  | .proposedStateChange => py "proposed_state_change"
  | .proposedCommunication => py "proposed_communication"
  | .proposedPhysicalEffect => py "proposed_physical_effect"

/-- `FailurePolicy`. -/
inductive FailurePolicy where
  | stopPlan | deferDependents
  deriving DecidableEq, Repr

/-- The text of a failure policy. -/
def FailurePolicy.value : FailurePolicy → PyStr
  | .stopPlan => py "stop_plan"
  | .deferDependents => py "defer_dependents"

/-- `Fingerprint`. -/
structure Fingerprint where
  kind : FingerprintKind
  digest : PyStr
  algorithm : PyStr := py "sha256"
  schemaVersion : Int := executiveSchemaVersion
  deriving DecidableEq

/-- `Fingerprint.__post_init__`. -/
def Fingerprint.postInit (f : Fingerprint) : Except ExecutiveError Unit := do
  require (f.algorithm = py "sha256") (decisionError (py "fingerprint algorithm must be sha256"))
  require (f.schemaVersion = executiveSchemaVersion)
    (decisionError (py "fingerprint schema version is unsupported"))
  require (IsHexDigest f.digest)
    (decisionError (py "fingerprint digest must be lowercase SHA-256 hexadecimal"))

/-- `str(fingerprint)`. -/
def Fingerprint.text (f : Fingerprint) : PyStr :=
  f.kind.value ++ py ":" ++ f.algorithm ++ py ":" ++ f.digest

/-- The JSON checks of the Executive package, with the exception class the caller names. -/
def canonicalize (kind : ExecutiveErrorKind) (fieldName : PyStr) (value : Json) :
    Except ExecutiveError PyStr :=
  (canonicalizeJson .standard value).mapError fun fault => ⟨kind, fault.message fieldName⟩

/-- `fingerprint_document`. -/
def fingerprintDocument (p : Platform) (kind : FingerprintKind) (document : Json) :
    Except ExecutiveError Fingerprint := do
  let canonical ← canonicalize .validation (kind.value ++ py " fingerprint") document
  let fingerprint : Fingerprint := { kind := kind, digest := p.sha256 canonical }
  fingerprint.postInit
  pure fingerprint

/-- `ContextRequirement`. -/
structure ContextRequirement where
  domain : ContextDomain
  predicate : PyStr
  deriving DecidableEq

/-- `_context_key`. -/
def ContextRequirement.key (requirement : ContextRequirement) : PyStr ×ₗ PyStr :=
  toLex (requirement.domain.value, requirement.predicate)

/-- `ApprovalRequirement`. -/
structure ApprovalRequirement where
  approvalId : PyStr
  description : PyStr
  deriving DecidableEq

/-- `Assumption`. -/
structure Assumption where
  assumptionId : PyStr
  description : PyStr
  deriving DecidableEq

/-- `Precondition`. -/
structure Precondition where
  preconditionId : PyStr
  description : PyStr
  deriving DecidableEq

/-- A dictionary of JSON values, in insertion order. -/
abbrev JsonDict := List (PyStr × Json)

/-- `copy_json` of a dictionary, as the `parameters` properties return it. -/
def copyParameters (parameters : JsonDict) (fieldName : PyStr) : Except ExecutiveError JsonDict := do
  let _ ← (copyJson (.obj parameters)).mapError fun fault =>
    ExecutiveError.mk .validation (fault.message fieldName)
  pure parameters

/-- `Constraint`. -/
structure Constraint where
  constraintId : PyStr
  description : PyStr
  /-- `_parameters`. -/
  storedParameters : JsonDict
  canonicalParameters : PyStr
  deriving DecidableEq

/-- The `parameters` property of a constraint. -/
def Constraint.parameters (c : Constraint) : Except ExecutiveError JsonDict :=
  copyParameters c.storedParameters (py "constraint parameters")

/-- `PlanStep`. -/
structure PlanStep where
  stepId : PyStr
  capabilityId : PyStr
  dependencies : List PyStr
  preconditions : List Precondition
  requiredContext : List ContextRequirement
  requiredApprovals : List ApprovalRequirement
  constraints : List Constraint
  expectedResult : ExpectedResultCategory
  failurePolicy : FailurePolicy
  /-- `_parameters`. -/
  storedParameters : JsonDict
  canonicalParameters : PyStr
  deriving DecidableEq

/-- The `parameters` property of a plan step. -/
def PlanStep.parameters (step : PlanStep) : Except ExecutiveError JsonDict :=
  copyParameters step.storedParameters (py "plan step parameters")

/-- `Plan`. -/
structure Plan where
  steps : List PlanStep
  deriving DecidableEq

/-- `ContextReference`. -/
structure ContextReference where
  requirement : ContextRequirement
  required : Bool
  state : ContextState
  valueDigests : List PyStr
  memoryIds : List UUID
  conflictIds : List UUID
  deriving DecidableEq

/-- `_reference_key`. -/
def ContextReference.key (reference : ContextReference) : Nat ×ₗ PyStr ×ₗ PyStr :=
  toLex (if reference.required then 0 else 1, reference.requirement.key)

section Documents

/-- A list of strings as JSON. -/
def textItems (values : List PyStr) : Json := .arr (values.map .str)

/-- A list of strings counts itself and its strings. -/
@[simp] theorem nodes_textItems (values : List PyStr) :
    (textItems values).nodes = 1 + values.length := by
  simp [textItems, Function.comp_def]

/-- The characters of a list of strings are those of its strings. -/
@[simp] theorem characters_textItems (values : List PyStr) :
    (textItems values).characters = (values.map List.length).sum := by
  simp [textItems, Function.comp_def]

/-- A list of strings fits when one more level is allowed. -/
theorem fitsDepth_textItems {limit depth : Nat} (values : List PyStr) (h : depth + 1 ≤ limit) :
    (textItems values).FitsDepth limit depth := by
  rw [textItems, Json.fitsDepth_arr, List.forall_mem_map]
  exact ⟨by omega, fun value _ => Json.fitsDepth_str.mpr h⟩

/-- A list of strings may be written when its strings can be encoded. -/
@[simp] theorem allValid_textItems {values : List PyStr} :
    (textItems values).AllValid ↔ ∀ value ∈ values, utf8Encodable value = true := by
  simp [textItems]

/-- `_context_document`. -/
def ContextRequirement.document (requirement : ContextRequirement) : Json :=
  .obj [(py "domain", .str requirement.domain.value), (py "predicate", .str requirement.predicate)]

/-- `_approval_document`. -/
def ApprovalRequirement.document (requirement : ApprovalRequirement) : Json :=
  .obj [(py "approval_id", .str requirement.approvalId),
    (py "description", .str requirement.description)]

/-- `_assumption_document`. -/
def Assumption.document (assumption : Assumption) : Json :=
  .obj [(py "assumption_id", .str assumption.assumptionId),
    (py "description", .str assumption.description)]

/-- The document of a precondition inside a step. -/
def Precondition.document (precondition : Precondition) : Json :=
  .obj [(py "description", .str precondition.description),
    (py "precondition_id", .str precondition.preconditionId)]

/-- `_constraint_document`. -/
def Constraint.document (c : Constraint) : Except ExecutiveError Json := do
  let parameters ← c.parameters
  pure (.obj [(py "constraint_id", .str c.constraintId), (py "description", .str c.description),
    (py "parameters", .obj parameters)])

/-- `_reference_document`. -/
def ContextReference.document (reference : ContextReference) : Json :=
  .obj [(py "conflict_ids", textItems (reference.conflictIds.map UUID.text)),
    (py "domain", .str reference.requirement.domain.value),
    (py "memory_ids", textItems (reference.memoryIds.map UUID.text)),
    (py "predicate", .str reference.requirement.predicate),
    (py "required", .bool reference.required),
    (py "state", .str reference.state.value),
    (py "value_digests", textItems reference.valueDigests)]

/-- `_step_document`. -/
def PlanStep.document (step : PlanStep) : Except ExecutiveError Json := do
  let constraints ← step.constraints.mapM Constraint.document
  let parameters ← step.parameters
  pure (.obj [(py "capability_id", .str step.capabilityId),
    (py "constraints", .arr constraints),
    (py "dependencies", textItems step.dependencies),
    (py "expected_result", .str step.expectedResult.value),
    (py "failure_policy", .str step.failurePolicy.value),
    (py "parameters", .obj parameters),
    (py "preconditions", .arr (step.preconditions.map Precondition.document)),
    (py "required_approvals", .arr (step.requiredApprovals.map ApprovalRequirement.document)),
    (py "required_context", .arr (step.requiredContext.map ContextRequirement.document)),
    (py "step_id", .str step.stepId)])

/-- `relevant_context_fingerprint`. -/
def relevantContextFingerprint (p : Platform) (references : List ContextReference) :
    Except ExecutiveError Fingerprint :=
  fingerprintDocument p .relevantContext (.obj [
    (py "references", .arr ((sortBy ContextReference.key
      (references.filter (·.required))).map ContextReference.document)),
    (py "schema", .str (py "ayyo.executive.relevant-context.v1"))])

end Documents

end Executive
end AyyoHumanoid
