import AyyoHumanoid.SafetyService
import AyyoHumanoid.SkillModels
import AyyoHumanoid.SkillParameters

/-!
# Binding reviewed proposals to skills

The skill manager binds one step of a proposal to one skill. It revalidates the
safety decision, evaluates the proposal again, compares both decisions and then
compares the step with the skill. Only a binding without a blocker carries an
invocation, a request for a future runtime bridge that is pinned by the digests
of everything it rests on.
-/

namespace AyyoHumanoid
namespace Skills

open PyText JsonText PyCollections Contracts
open World (Name Digest)
open Executive (ContextReference ContextRequirement JsonDict PlanStep)
open Safety (ApprovalClass SafetyApprovalRequirement SafetyDecision SafetyFingerprint
  SafetyPolicy SafetyStepDecision)

section Statuses

/-- `BindingStatus`. -/
inductive BindingStatus where
  | eligibleForRuntimeHandoff | externalApprovalRequired | ineligible
  deriving DecidableEq, Repr

/-- The text of a binding status. -/
def BindingStatus.value : BindingStatus → PyStr
  | .eligibleForRuntimeHandoff => py "eligible_for_runtime_handoff"
  | .externalApprovalRequired => py "external_approval_required"
  | .ineligible => py "ineligible"

/-- `BindingReason`. -/
inductive BindingReason where
  | safetyDecisionStale | registrySelectionStale | safetyBlocked | safetyDeferred
  | skillUnavailable | capabilityIncompatible | parametersIncompatible | contextIncompatible
  | expectedResultIncompatible | safetyClassificationIncompatible
  | approvalRequirementsIncompatible | safetyApprovalRequired
  deriving DecidableEq, Repr

/-- The members of `BindingReason` in order. -/
def BindingReason.members : List BindingReason :=
  [.safetyDecisionStale, .registrySelectionStale, .safetyBlocked, .safetyDeferred,
    .skillUnavailable, .capabilityIncompatible, .parametersIncompatible, .contextIncompatible,
    .expectedResultIncompatible, .safetyClassificationIncompatible,
    .approvalRequirementsIncompatible, .safetyApprovalRequired]

/-- `_ordered_reasons`. -/
def orderedReasons (reasons : List BindingReason) : List BindingReason :=
  BindingReason.members.filter (· ∈ reasons)

/-- `InvocationStatus`. -/
inductive InvocationStatus where
  | eligibleForRuntimeHandoff | externalApprovalRequired
  deriving DecidableEq, Repr

/-- The text of an invocation status. -/
def InvocationStatus.value : InvocationStatus → PyStr
  | .eligibleForRuntimeHandoff => py "eligible_for_runtime_handoff"
  | .externalApprovalRequired => py "external_approval_required"

end Statuses

section Invocations

/-- The attributes of a `SkillInvocation` that it compares, besides its skill definition. -/
structure InvocationHeader where
  status : InvocationStatus
  selection : SkillSelection
  contextReferences : List ContextReference
  requiredApprovals : List SafetyApprovalRequirement
  sourceRequestId : PyStr
  sourceExecutiveDecisionId : PyStr
  sourceExecutiveFingerprint : Executive.Fingerprint
  sourceSafetyDecisionId : PyStr
  sourceSafetyFingerprint : SafetyFingerprint
  sourceProposalFingerprint : SafetyFingerprint
  sourcePolicyFingerprint : SafetyFingerprint
  sourcePolicyVersion : PyStr
  deriving DecidableEq

/-- The arguments and the attributes of a `SkillInvocation`. -/
structure InvocationContent extends InvocationHeader where
  skillDefinition : SkillDefinition
  parameters : JsonDict

/-- `InvalidSkillParametersError` becomes an invariant error. -/
def parametersMatch : SkillError → SkillError
  | .invalidParameters _ =>
    .invocationInvariant (py "invocation parameters do not match the skill definition")
  | error => error

namespace InvocationContent

variable (p : Platform)

/-- The document that names an invocation. -/
def document (invocation : InvocationContent) : Json :=
  let skill := invocation.skillDefinition
  .obj [(py "backend_id", .str skill.backendId.text),
    (py "concurrency_policy", .str skill.concurrencyPolicy.value),
    (py "context_references",
      .arr (invocation.contextReferences.map ContextReference.document)),
    (py "expected_result", .str skill.expectedResult.value),
    (py "failure_semantics", .str skill.failureSemantics.value),
    (py "idempotency", .str skill.idempotency.value),
    (py "lifecycle", .str skill.lifecycle.value),
    (py "output_schema", skill.outputSchema.schema.document),
    (py "parameters", .obj invocation.parameters),
    (py "required_approvals",
      .arr (invocation.requiredApprovals.map SafetyApprovalRequirement.document)),
    (py "required_resources", .arr (skill.requiredResources.map ResourceRequirement.document)),
    (py "safety_classification", .str skill.safetyClassification.value),
    (py "schema", .str (py "ayyo.skill-manager.invocation.v1")),
    (py "selection_fingerprint",
      .str (SkillFingerprintKind.selection.text (invocation.selection.digest p))),
    (py "source_executive_decision_id", .str invocation.sourceExecutiveDecisionId),
    (py "source_executive_fingerprint", .str invocation.sourceExecutiveFingerprint.text),
    (py "source_policy_fingerprint", .str invocation.sourcePolicyFingerprint.text),
    (py "source_policy_version", .str invocation.sourcePolicyVersion),
    (py "source_proposal_fingerprint", .str invocation.sourceProposalFingerprint.text),
    (py "source_request_id", .str invocation.sourceRequestId),
    (py "source_safety_decision_id", .str invocation.sourceSafetyDecisionId),
    (py "source_safety_fingerprint", .str invocation.sourceSafetyFingerprint.text),
    (py "status", .str invocation.status.value),
    (py "timeout_ms", .int skill.timeoutMs)]

/-- The digest of `fingerprint`. -/
def digest (invocation : InvocationContent) : Digest :=
  World.documentDigest p (invocation.document p)

/-- `invocation_id`. -/
def invocationId (invocation : InvocationContent) : PyStr :=
  py "skill-invocation-" ++ (invocation.digest p).text

/-- `left == right`; the parameters are not compared. -/
def same (left right : InvocationContent) : Bool :=
  decide (left.toInvocationHeader = right.toInvocationHeader) &&
    left.skillDefinition.same p right.skillDefinition.toSkillContent &&
    decide (left.digest p = right.digest p)

/-- The checks of the constructor on the context references, in order. -/
def orderContext (skill : SkillDefinition) (references : List ContextReference) :
    Except SkillError (List ContextReference) := do
  let ordered ← orderedUnique (fun reference => reference.requirement.key) references
    (.invocationInvariant (py "invocation context references must be unique"))
  require (∀ reference ∈ ordered, reference.required = true)
    (.invocationInvariant (py "invocation context references must be required"))
  require ((ordered.map (·.requirement)).toFinset = skill.requiredContext.toFinset)
    (.invocationInvariant (py "invocation context does not match the skill definition"))
  pure ordered

/-- The checks of the constructor on the approvals. -/
def checkApprovals (invocation : InvocationContent) : Except SkillError Unit := do
  let keys := invocation.requiredApprovals.map SafetyApprovalRequirement.key
  require (keys = sortedSet keys)
    (.invocationInvariant (py "invocation approvals must be unique and ordered"))
  require (¬(invocation.status = .eligibleForRuntimeHandoff ∧ invocation.requiredApprovals ≠ []))
    (.invocationInvariant (py "eligible invocation cannot retain approvals"))
  require (¬(invocation.status = .externalApprovalRequired ∧ invocation.requiredApprovals = []))
    (.invocationInvariant (py "approval-gated invocation requires approvals"))
  require (∀ approvalClass ∈ invocation.skillDefinition.requiredApprovalClasses,
      ∃ item ∈ invocation.requiredApprovals, item.approvalClass = approvalClass ∧
        item.affectedStepId = invocation.selection.sourceStepId.text)
    (.invocationInvariant (py "invocation approvals do not satisfy the selected skill step"))

/-- The checks of the constructor on the sources. -/
def checkSources (invocation : InvocationContent) : Except SkillError Unit := do
  require (invocation.sourceRequestId ≠ [])
    (.invocationInvariant (py "invocation source_request_id is invalid"))
  require (invocation.sourceExecutiveDecisionId ≠ [])
    (.invocationInvariant (py "invocation source_executive_decision_id is invalid"))
  require (invocation.sourceSafetyDecisionId ≠ [])
    (.invocationInvariant (py "invocation source_safety_decision_id is invalid"))
  require (invocation.sourceExecutiveFingerprint.kind = .decision)
    (.invocationInvariant (py "source Executive fingerprint is invalid"))
  require (invocation.sourceSafetyFingerprint.kind = .decision)
    (.invocationInvariant (py "source Safety decision fingerprint is invalid"))
  require (invocation.sourceProposalFingerprint.kind = .proposal)
    (.invocationInvariant (py "source proposal fingerprint is invalid"))
  require (invocation.sourcePolicyFingerprint.kind = .policy)
    (.invocationInvariant (py "source policy fingerprint is invalid"))
  require (invocation.sourcePolicyVersion ≠ [])
    (.invocationInvariant (py "source policy version is invalid"))

/-- The selection pins the skill. -/
def Pins (selection : SkillSelection) (skill : SkillDefinition) : Prop :=
  selection.skillId = skill.skillId ∧ selection.skillVersion = skill.version ∧
    selection.skillDigest = skill.digest p ∧ selection.capabilityId ∈ skill.capabilityIds

instance (selection : SkillSelection) (skill : SkillDefinition) :
    Decidable (Pins p selection skill) :=
  inferInstanceAs (Decidable (_ ∧ _))

/-- `SkillInvocation.__init__`. -/
def init (arguments : InvocationContent) : Except SkillError InvocationContent := do
  let skill := arguments.skillDefinition
  require (Pins p arguments.selection skill)
    (.invocationInvariant (py "invocation selection does not match its skill definition"))
  let parameters ← (validateParameters skill.inputSchema.schema
    (.obj arguments.parameters)).mapError parametersMatch
  let contextReferences ← orderContext skill arguments.contextReferences
  let invocation : InvocationContent := {
    arguments with
    contextReferences := contextReferences
    parameters := parameters }
  invocation.checkApprovals
  invocation.checkSources
  checkDocument .invocation (invocation.document p) .invocationInvariant
  pure invocation

end InvocationContent

/-- A `SkillInvocation`: attributes that its constructor returned. -/
structure SkillInvocation (p : Platform) extends InvocationContent where
  /-- The constructor returned these attributes. -/
  constructed : ∃ arguments : InvocationContent, arguments.init p = .ok toInvocationContent

/-- `SkillInvocation(...)`. -/
def InvocationContent.build (p : Platform) (arguments : InvocationContent) :
    Except SkillError (SkillInvocation p) :=
  constructFrom (InvocationContent.init p) SkillInvocation.mk arguments

end Invocations

section Results

variable (p : Platform)

/-- The attributes of a `SkillBindingResult`. -/
structure BindingFields where
  status : BindingStatus
  reasons : List BindingReason
  selection : SkillSelection
  sourceSafetyDecisionId : PyStr
  invocation : Option (SkillInvocation p)

variable {p}

/-- The checks of `SkillBindingResult.__post_init__` on a binding with an invocation. -/
def BindingFields.checkInvocation (fields : BindingFields p) (invocation : SkillInvocation p) :
    Except SkillError Unit := do
  require (invocation.status = (if fields.status = .eligibleForRuntimeHandoff then
      InvocationStatus.eligibleForRuntimeHandoff else .externalApprovalRequired))
    (.invocationInvariant (py "binding and invocation statuses disagree"))
  require (invocation.selection = fields.selection)
    (.invocationInvariant (py "binding and invocation selections disagree"))
  require (invocation.sourceSafetyDecisionId = fields.sourceSafetyDecisionId)
    (.invocationInvariant (py "binding and invocation Safety decision IDs disagree"))
  require (¬(fields.status = .eligibleForRuntimeHandoff ∧ fields.reasons ≠ []))
    (.invocationInvariant (py "eligible binding cannot carry blockers"))
  require (¬(fields.status = .externalApprovalRequired ∧
      fields.reasons ≠ [.safetyApprovalRequired]))
    (.invocationInvariant (py "approval-required binding must retain its explicit reason"))

/-- `SkillBindingResult.__post_init__`. -/
def BindingFields.check (fields : BindingFields p) : Except SkillError Unit := do
  require (fields.reasons = orderedReasons fields.reasons)
    (.invocationInvariant (py "binding reasons must be unique and ordered"))
  require (fields.sourceSafetyDecisionId ≠ [])
    (.invocationInvariant (py "binding Safety decision ID is invalid"))
  if fields.status = .ineligible then
    require (fields.invocation.isNone ∧ fields.reasons ≠ [])
      (.invocationInvariant (py "ineligible binding requires reasons and no invocation"))
  else
    match fields.invocation with
    | none => .error (.invocationInvariant (py "eligible binding requires an invocation"))
    | some invocation => fields.checkInvocation invocation

variable (p)

/-- `SkillBindingResult`. -/
structure SkillBindingResult extends BindingFields p where
  /-- The attributes passed the checks. -/
  checked : toBindingFields.check = .ok ()

variable {p}

/-- The constructor of `SkillBindingResult`. -/
def makeBinding (fields : BindingFields p) : Except SkillError (SkillBindingResult p) :=
  construct BindingFields.check SkillBindingResult.mk fields

end Results

section Binding

/-- The exceptions of `bind`. -/
inductive BindError where
  /-- An exception of the skill manager. -/
  | skill (error : SkillError)
  /-- An exception of the Executive package that passes through. -/
  | executive (error : Executive.ExecutiveError)
  /-- A failed assertion. -/
  | assertion
  deriving DecidableEq

/-- `InvalidSkillBindingError(message)`. -/
def bindingError (message : PyStr) : BindError := .skill (.invalidBinding message)

variable {p : Platform}

/-- `_ineligible`. -/
def ineligible (selection : SkillSelection) (decision : SafetyDecision)
    (reasons : List BindingReason) : Except BindError (SkillBindingResult p) :=
  (makeBinding {
    status := .ineligible
    reasons := orderedReasons reasons
    selection := selection
    sourceSafetyDecisionId := decision.decisionId
    invocation := none }).mapError .skill

/-- The validated parameters of a step, absent when they do not conform to the skill. -/
def stepParameters (skill : SkillDefinition) : Option PlanStep →
    Except BindError (Option JsonDict)
  | none => .ok (some [])
  | some step => do
    let source ← step.parameters.mapError .executive
    match validateParameters skill.inputSchema.schema (.obj source) with
    | .ok parameters => pure (some parameters)
    | .error (.invalidParameters _) => pure none
    | .error error => .error (.skill error)

/-- The blockers that a step gives when it does not match the skill. -/
def stepBlockers (skill : SkillDefinition) (parameters : Option JsonDict) :
    Option PlanStep → List BindingReason
  | none => []
  | some step =>
    (if parameters = none then [.parametersIncompatible] else []) ++
      (if step.requiredContext ≠ skill.requiredContext then [.contextIncompatible] else []) ++
      (if step.expectedResult ≠ skill.expectedResult then [.expectedResultIncompatible] else [])

/-- The blocker that a safety step gives when its hazard class is another. -/
def classBlockers (skill : SkillDefinition) : Option SafetyStepDecision → List BindingReason
  | none => []
  | some step =>
    if step.hazardClass ≠ skill.safetyClassification then [.safetyClassificationIncompatible]
    else []

/-- Both the step and its safety decision exist, and the step uses the selected capability. -/
def StepSelected (selection : SkillSelection) (step : Option PlanStep)
    (safetyStep : Option SafetyStepDecision) : Prop :=
  (∃ item ∈ step, item.capabilityId = selection.capabilityId.text) ∧ safetyStep.isSome = true

instance (selection : SkillSelection) (step : Option PlanStep)
    (safetyStep : Option SafetyStepDecision) : Decidable (StepSelected selection step safetyStep) :=
  inferInstanceAs (Decidable (_ ∧ _))

/-- The blockers of `bind`. -/
def blockers (skill : SkillDefinition) (selection : SkillSelection) (decision : SafetyDecision)
    (step : Option PlanStep) (safetyStep : Option SafetyStepDecision)
    (parameters : Option JsonDict) : List BindingReason :=
  (if StepSelected selection step safetyStep then [] else [.capabilityIncompatible]) ++
    (if selection.capabilityId ∈ skill.capabilityIds then [] else [.capabilityIncompatible]) ++
    (if skill.availability = .available then [] else [.skillUnavailable]) ++
    stepBlockers skill parameters step ++ classBlockers skill safetyStep ++
    (if ∀ approvalClass ∈ skill.requiredApprovalClasses, ∃ item ∈ decision.requiredApprovals,
        item.approvalClass = approvalClass ∧ item.affectedStepId = selection.sourceStepId.text
      then [] else [.approvalRequirementsIncompatible])

/-- The required references of the proposal to the context of the skill. -/
def skillReferences (skill : SkillDefinition) (proposal : Executive.ExecutiveDecision) :
    List ContextReference :=
  proposal.contextReferences.filter fun reference =>
    reference.required ∧ reference.requirement ∈ skill.requiredContext

/-- The end of `bind`: an invocation and the result that carries it. -/
def bindInvocation (skill : SkillDefinition) (selection : SkillSelection)
    (decision : SafetyDecision) (references : List ContextReference) (parameters : JsonDict) :
    Except BindError (SkillBindingResult p) := do
  let approvalRequired : Bool := decision.disposition = .externalApprovalRequired
  let invocation ← (InvocationContent.build p {
    status := if approvalRequired then .externalApprovalRequired else .eligibleForRuntimeHandoff
    selection := selection
    skillDefinition := skill
    parameters := parameters
    contextReferences := references
    requiredApprovals := decision.requiredApprovals
    sourceRequestId := decision.sourceRequestId
    sourceExecutiveDecisionId := decision.sourceDecisionId
    sourceExecutiveFingerprint := decision.sourceDecisionFingerprint
    sourceSafetyDecisionId := decision.decisionId
    sourceSafetyFingerprint := decision.decisionFingerprint
    sourceProposalFingerprint := decision.proposalFingerprint
    sourcePolicyFingerprint := decision.policyFingerprint
    sourcePolicyVersion := decision.policyVersion }).mapError .skill
  (makeBinding {
    status := if approvalRequired then .externalApprovalRequired else .eligibleForRuntimeHandoff
    reasons := if approvalRequired then [.safetyApprovalRequired] else []
    selection := selection
    sourceSafetyDecisionId := decision.decisionId
    invocation := some invocation }).mapError .skill

/-- The part of `bind` after the selection is known to be current. -/
def bindStep (skill : SkillDefinition) (proposal : Executive.ExecutiveDecision)
    (decision : SafetyDecision) (selection : SkillSelection) :
    Except BindError (SkillBindingResult p) :=
  if decision.disposition = .blocked then ineligible selection decision [.safetyBlocked]
  else if decision.disposition = .deferred then ineligible selection decision [.safetyDeferred]
  else
    match proposal.proposedPlan with
    | none => .error .assertion
    | some plan => do
      let step := plan.steps.find? fun item => item.stepId = selection.sourceStepId.text
      let safetyStep := decision.stepDecisions.find? fun item =>
        item.stepId = selection.sourceStepId.text
      let parameters ← stepParameters skill step
      let reasons := blockers skill selection decision step safetyStep parameters
      let references := skillReferences skill proposal
      if reasons ≠ [] then ineligible selection decision reasons
      else if (references.map (·.requirement)).toFinset ≠ skill.requiredContext.toFinset then
        ineligible selection decision [.contextIncompatible]
      else bindInvocation skill selection decision references (parameters.getD [])

/-- The selection is the one that the registry makes for the skill. -/
def SelectionCurrent (registry : SkillRegistry p) (selection : SkillSelection)
    (skill : SkillDefinition) : Prop :=
  selection.registryVersion = registry.version ∧ selection.registryDigest = registry.digest ∧
    selection.skillVersion = skill.version ∧ selection.skillDigest = skill.digest p ∧
    selection.capabilityId ∈ skill.capabilityIds

instance (registry : SkillRegistry p) (selection : SkillSelection) (skill : SkillDefinition) :
    Decidable (SelectionCurrent registry selection skill) :=
  inferInstanceAs (Decidable (_ ∧ _))

/-- The part of `bind` after the safety decision is known to be current. -/
def bindSelection (registry : SkillRegistry p) (proposal : Executive.ExecutiveDecision)
    (decision : SafetyDecision) (selection : SkillSelection) :
    Except BindError (SkillBindingResult p) :=
  match registry.resolve selection.skillId with
  | none => ineligible selection decision [.registrySelectionStale]
  | some skill =>
    if ¬SelectionCurrent registry selection skill then
      ineligible selection decision [.registrySelectionStale]
    else do
      let current ← (registry.selection skill.skillId selection.capabilityId
        selection.sourceStepId).mapError .skill
      if current ≠ selection then ineligible selection decision [.registrySelectionStale]
      else bindStep skill proposal decision selection

/-- `SkillManagerService.bind`. -/
def bind (policy : SafetyPolicy p) (registry : SkillRegistry p)
    (proposal : Executive.ExecutiveDecision) (decision : SafetyDecision)
    (selection : SkillSelection) : Except BindError (SkillBindingResult p) := do
  let revalidation ← (Safety.revalidate policy decision proposal).mapError fun _ =>
    bindingError (py "Safety-reviewed proposal could not be revalidated")
  if revalidation.status = .stale then ineligible selection decision [.safetyDecisionStale]
  else do
    let rebuilt ← (Safety.evaluate policy proposal).mapError fun _ =>
      bindingError (py "Safety-reviewed proposal failed integrity evaluation")
    require (rebuilt = decision)
      (bindingError (py "Safety decision content does not match a fresh policy evaluation"))
    bindSelection registry proposal decision selection

end Binding

end Skills
end AyyoHumanoid
