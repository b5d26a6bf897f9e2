import AyyoHumanoid.ArtifactText

/-!
# Developmental scenarios and their reports

The catalog of reviewed scenarios is closed. A report binds the results of one
scenario's assertions and the evidence of a run to the definition; its
constructor checks that the parts agree and names the report by the digest of its
contents.
-/

namespace AyyoHumanoid
namespace Scenario

open PyText JsonText Artifacts

/-- `FRAMEWORK_ID`. -/
def frameworkId : PyStr := py "ayyo.developmental-scenarios.v1"

/-- `FRAMEWORK_VERSION`. -/
def frameworkVersion : PyStr := py "1.0.0"

/-- `MAX_SCENARIOS_PER_INVOCATION`. -/
def maxScenariosPerInvocation : Nat := 8

/-- `MAX_STEPS_PER_SCENARIO`. -/
def maxStepsPerScenario : Nat := 32

/-- `MAX_ASSERTIONS_PER_SCENARIO`. -/
def maxAssertionsPerScenario : Nat := 64

/-- `MAX_REASONS_PER_REPORT`. -/
def maxReasonsPerReport : Nat := 16

/-- `MAX_REPORT_TEXT_LENGTH`. -/
def maxReportTextLength : Nat := 512

/-- `MAX_SOURCE_SUMMARIES`. -/
def maxSourceSummaries : Nat := 16

/-- `MAX_OBSERVED_IDENTITIES`. -/
def maxObservedIdentities : Nat := 32

/-- `MAX_POLICY_DECISIONS`. -/
def maxPolicyDecisions : Nat := 16

/-- `MAX_RETAINED_ROS_SAMPLES`. -/
def maxRetainedRosSamples : Nat := 64

/-- `MAX_DIAGNOSTIC_RECORDS`. -/
def maxDiagnosticRecords : Nat := 32

section Enumerations

/-- `ScenarioCategory`. -/
inductive ScenarioCategory where
  | embodiedObservation | visualSemanticObservation | cognitivePolicyBoundary
  | developmentActuation | failClosedControl | sensorAvailability
  deriving DecidableEq, Repr

/-- The text of a category. -/
def ScenarioCategory.value : ScenarioCategory → PyStr
  | .embodiedObservation => py "embodied_observation"
  | .visualSemanticObservation => py "visual_semantic_observation"
  | .cognitivePolicyBoundary => py "cognitive_policy_boundary"
  | .developmentActuation => py "development_actuation"
  | .failClosedControl => py "fail_closed_control"
  | .sensorAvailability => py "sensor_availability"

/-- `ScenarioLaunchProfile`. -/
inductive ScenarioLaunchProfile where
  | observation | developmentControl | sensorAbsence
  deriving DecidableEq, Repr

/-- The text of a launch profile. -/
def ScenarioLaunchProfile.value : ScenarioLaunchProfile → PyStr
  | .observation => py "observation"
  | .developmentControl => py "development_control"
  | .sensorAbsence => py "sensor_absence"

/-- `ScenarioAuthority`. -/
inductive ScenarioAuthority where
  | none | developmentNeckControl
  deriving DecidableEq, Repr

/-- The text of an authority. -/
def ScenarioAuthority.value : ScenarioAuthority → PyStr
  | .none => py "none"
  | .developmentNeckControl => py "development_neck_control"

/-- `ScenarioOperation`. -/
inductive ScenarioOperation where
  | waitForGazebo | verifySingleAyyoModel | waitForWorldModelActive | waitForClock
  | waitForAuthoritativeJointState | queryRobotBodyState | waitForImuObservation
  | waitForLocalizationObservation | waitForRgbObservation | queryAnonymousSemanticState
  | requestExecutivePhysicalDecision | evaluateSafety | bindSkill | checkRuntimeBinding
  | assertNoProductionDispatch | waitForDevelopmentControl | readNeckState
  | callDevelopmentNeckControl | waitForNeckTarget | restoreDevelopmentNeckNeutral
  | callInvalidDevelopmentNeckControl | verifyOptionalSensorAbsent | assertNoDurableMemoryWrite
  | assertProcessHealth
  deriving DecidableEq, Repr

/-- The text of an operation. -/
def ScenarioOperation.value : ScenarioOperation → PyStr
  | .waitForGazebo => py "wait_for_gazebo"
  | .verifySingleAyyoModel => py "verify_single_ayyo_model"
  | .waitForWorldModelActive => py "wait_for_world_model_active"
  | .waitForClock => py "wait_for_clock"
  | .waitForAuthoritativeJointState => py "wait_for_authoritative_joint_state"
  | .queryRobotBodyState => py "query_robot_body_state"
  | .waitForImuObservation => py "wait_for_imu_observation"
  | .waitForLocalizationObservation => py "wait_for_localization_observation"
  | .waitForRgbObservation => py "wait_for_rgb_observation"
  | .queryAnonymousSemanticState => py "query_anonymous_semantic_state"
  | .requestExecutivePhysicalDecision => py "request_executive_physical_decision"
  | .evaluateSafety => py "evaluate_safety"
  | .bindSkill => py "bind_skill"
  | .checkRuntimeBinding => py "check_runtime_binding"
  | .assertNoProductionDispatch => py "assert_no_production_dispatch"
  | .waitForDevelopmentControl => py "wait_for_development_control"
  | .readNeckState => py "read_neck_state"
  | .callDevelopmentNeckControl => py "call_development_neck_control"
  | .waitForNeckTarget => py "wait_for_neck_target"
  | .restoreDevelopmentNeckNeutral => py "restore_development_neck_neutral"
  | .callInvalidDevelopmentNeckControl => py "call_invalid_development_neck_control"
  | .verifyOptionalSensorAbsent => py "verify_optional_sensor_absent"
  | .assertNoDurableMemoryWrite => py "assert_no_durable_memory_write"
  | .assertProcessHealth => py "assert_process_health"

/-- `ScenarioOutcome` and `AssertionOutcome`, which have the same members. -/
inductive ScenarioOutcome where
  | pass | fail | notApplicable
  deriving DecidableEq, Repr

/-- `AssertionOutcome`. -/
abbrev AssertionOutcome : Type := ScenarioOutcome

/-- The text of an outcome. -/
def ScenarioOutcome.value : ScenarioOutcome → PyStr
  | .pass => py "pass"
  | .fail => py "fail"
  | .notApplicable => py "not_applicable"

/-- `ScenarioFailureReason`. -/
inductive ScenarioFailureReason where
  | assertionFailed | deadlineExceeded | requiredInterfaceUnavailable | unexpectedProcessExit
  | duplicateAuthoritySource | policyBoundaryChanged | developmentAuthorityUnavailable
  | cleanupIncomplete
  deriving DecidableEq, Repr

/-- The text of a reason. -/
def ScenarioFailureReason.value : ScenarioFailureReason → PyStr
  | .assertionFailed => py "assertion_failed"
  | .deadlineExceeded => py "deadline_exceeded"
  | .requiredInterfaceUnavailable => py "required_interface_unavailable"
  | .unexpectedProcessExit => py "unexpected_process_exit"
  | .duplicateAuthoritySource => py "duplicate_authority_source"
  | .policyBoundaryChanged => py "policy_boundary_changed"
  | .developmentAuthorityUnavailable => py "development_authority_unavailable"
  | .cleanupIncomplete => py "cleanup_incomplete"

/-- `CleanupOutcome`. -/
inductive CleanupOutcome where
  | clean | escalated | incomplete
  deriving DecidableEq, Repr

/-- The text of a cleanup outcome. -/
def CleanupOutcome.value : CleanupOutcome → PyStr
  | .clean => py "clean"
  | .escalated => py "escalated"
  | .incomplete => py "incomplete"

end Enumerations

section Definitions

/-- `DevelopmentScenarioAssertion`. -/
structure DevelopmentScenarioAssertion where
  assertionId : PyStr
  description : PyStr
  required : Bool

/-- `DevelopmentScenarioStep`. -/
structure DevelopmentScenarioStep where
  stepId : PyStr
  operation : ScenarioOperation
  timeoutMs : Nat
  assertionIds : List PyStr

/-- `DevelopmentScenarioDefinition`; its digest is computed from these fields. -/
structure DevelopmentScenarioDefinition where
  scenarioId : PyStr
  version : PyStr
  category : ScenarioCategory
  description : PyStr
  launchProfile : ScenarioLaunchProfile
  expectedSafeOutcome : PyStr
  authority : ScenarioAuthority
  steps : List DevelopmentScenarioStep
  assertions : List DevelopmentScenarioAssertion

/-- `DevelopmentScenarioDefinition.semantic_document`. -/
def DevelopmentScenarioDefinition.semanticDocument (definition : DevelopmentScenarioDefinition) :
    Json :=
  .obj [
    (py "assertions", .arr (definition.assertions.map fun item => .obj [
      (py "description", .str item.description), (py "id", .str item.assertionId),
      (py "required", .bool item.required)])),
    (py "authority", .str definition.authority.value),
    (py "category", .str definition.category.value),
    (py "description", .str definition.description),
    (py "expected_safe_outcome", .str definition.expectedSafeOutcome),
    (py "framework", .str frameworkId),
    (py "launch_profile", .str definition.launchProfile.value),
    (py "scenario_id", .str definition.scenarioId),
    (py "steps", .arr (definition.steps.map fun item => .obj [
      (py "assertions", .arr (item.assertionIds.map .str)), (py "id", .str item.stepId),
      (py "operation", .str item.operation.value), (py "timeout_ms", .int item.timeoutMs)])),
    (py "version", .str definition.version)]

/-- `DevelopmentScenarioDefinition.fingerprint`. -/
def DevelopmentScenarioDefinition.fingerprint (p : Platform)
    (definition : DevelopmentScenarioDefinition) : PyStr :=
  semanticSha256 p (py "development-scenario") definition.semanticDocument

/-- `_assertions`. -/
def assertionsOf (items : List (String × String)) : List DevelopmentScenarioAssertion :=
  items.map fun item => ⟨py item.1, py item.2, true⟩

/-- `_step`, with its default timeout. -/
def stepOf (stepId : String) (operation : ScenarioOperation) (assertionIds : List String) :
    DevelopmentScenarioStep :=
  ⟨py stepId, operation, 30000, assertionIds.map py⟩

end Definitions

section Catalog

/-- `EMBODIED_OBSERVATION`. -/
def embodiedObservation : DevelopmentScenarioDefinition where
  scenarioId := py "embodied-observation-baseline"
  version := py "1.0.0"
  category := .embodiedObservation
  description := py "Observe the existing proxy Ayyo body through Gazebo and World Model."
  launchProfile := .observation
  expectedSafeOutcome :=
    py "Simulation evidence is available without durable memory or motion authority."
  authority := .none
  steps := [
    stepOf "gazebo-ready" .waitForGazebo ["gazebo-running"],
    stepOf "single-model" .verifySingleAyyoModel ["ayyo-spawned-once"],
    stepOf "world-model-active" .waitForWorldModelActive ["world-model-active"],
    stepOf "clock-ready" .waitForClock ["clock-available"],
    stepOf "joint-state-ready" .waitForAuthoritativeJointState ["joint-state-authoritative"],
    stepOf "imu-ready" .waitForImuObservation ["imu-admitted"],
    stepOf "localization-ready" .waitForLocalizationObservation ["localization-admitted"],
    stepOf "body-query" .queryRobotBodyState
      ["body-state-exposed", "canonical-robot-identity", "simulation-provenance"],
    stepOf "memory-unchanged" .assertNoDurableMemoryWrite ["no-durable-memory-side-effect"],
    stepOf "production-authority-absent" .assertNoProductionDispatch
      ["no-production-motion-authority"],
    stepOf "process-health" .assertProcessHealth ["owned-processes-clean"]]
  assertions := assertionsOf [
    ("gazebo-running", "Gazebo server remained alive through observation."),
    ("ayyo-spawned-once", "The canonical Ayyo model spawned exactly once."),
    ("world-model-active", "World Model reached active lifecycle state."),
    ("clock-available", "The simulation clock produced bounded samples."),
    ("joint-state-authoritative",
      "One controller-derived authoritative joint-state publisher was present."),
    ("imu-admitted", "Simulation IMU evidence reached the World Model query."),
    ("localization-admitted", "Simulation odometry evidence reached the World Model query."),
    ("body-state-exposed", "World Model exposed current observed body state."),
    ("canonical-robot-identity", "Body state retained ayyo.robot.v1 identity."),
    ("simulation-provenance", "Observed body sources retained simulation provenance."),
    ("no-durable-memory-side-effect", "Observation created no durable Memory OS record."),
    ("no-production-motion-authority",
      "No production motion endpoint or dispatch authority appeared."),
    ("owned-processes-clean", "The owned process set became empty on shutdown.")]

/-- `VISUAL_SEMANTIC_OBSERVATION`. -/
def visualSemanticObservation : DevelopmentScenarioDefinition where
  scenarioId := py "visual-anonymous-semantic-observation"
  version := py "1.0.0"
  category := .visualSemanticObservation
  description := py "Validate reviewed TEST person and object evidence from one Gazebo RGB frame."
  launchProfile := .observation
  expectedSafeOutcome :=
    py "Anonymous bounded TEST evidence is queryable without identity or persistence."
  authority := .none
  steps := [
    stepOf "rgb-observation" .waitForRgbObservation ["rgb-source-identity", "rgb-source-time"],
    stepOf "semantic-query" .queryAnonymousSemanticState
      ["person-remains-anonymous", "object-remains-anonymous", "object-category-not-identity",
        "confidence-exact", "partial-observation-conservative", "query-read-only",
        "test-fixture-provenance"],
    stepOf "semantic-memory-unchanged" .assertNoDurableMemoryWrite ["semantic-not-persisted"]]
  assertions := assertionsOf [
    ("rgb-source-identity", "The exact admitted Gazebo RGB source identity was retained."),
    ("rgb-source-time", "The exact RGB source acquisition timestamp was retained."),
    ("person-remains-anonymous", "PERSON evidence contained no persistent identity."),
    ("object-remains-anonymous", "OBJECT evidence contained no persistent identity."),
    ("object-category-not-identity", "The object label remained a category only."),
    ("confidence-exact", "Absent and zero confidence semantics remained distinct."),
    ("partial-observation-conservative",
      "Partial evidence did not imply complete physical-scene absence."),
    ("query-read-only", "The anonymous semantic query caused no mutation."),
    ("test-fixture-provenance", "Semantic production was labeled TEST fixture provenance."),
    ("semantic-not-persisted", "Semantic evidence created no durable Memory OS record.")]

/-- `PRODUCTION_MOTION_DEFERRED`. -/
def productionMotionDeferred : DevelopmentScenarioDefinition where
  scenarioId := py "production-physical-request-deferred"
  version := py "1.0.0"
  category := .cognitivePolicyBoundary
  description :=
    py "Pass one structured neck movement request through current public policy contracts."
  launchProfile := .observation
  expectedSafeOutcome :=
    py "Safety defers movement and no production dispatch or motion occurs."
  authority := .none
  steps := [
    stepOf "executive-decision" .requestExecutivePhysicalDecision
      ["executive-proposal-structured"],
    stepOf "safety-decision" .evaluateSafety ["safety-deferred"],
    stepOf "skill-binding" .bindSkill ["skill-binding-ineligible"],
    stepOf "runtime-binding" .checkRuntimeBinding ["runtime-not-dispatchable"],
    stepOf "production-dispatch" .assertNoProductionDispatch
      ["production-dispatch-zero", "development-service-not-called",
        "controller-command-not-issued"],
    stepOf "stationary-joint" .waitForAuthoritativeJointState ["requested-joint-stationary"]]
  assertions := assertionsOf [
    ("executive-proposal-structured", "Executive produced a bounded declarative proposal."),
    ("safety-deferred", "Immutable Safety classified physical movement as DEFERRED."),
    ("skill-binding-ineligible", "Skill Manager preserved Safety deferral without invocation."),
    ("runtime-not-dispatchable", "Runtime Bridge returned no dispatchable request."),
    ("production-dispatch-zero", "Production dispatch count remained exactly zero."),
    ("development-service-not-called", "Cognition did not call the development service."),
    ("controller-command-not-issued", "Cognition emitted no controller command."),
    ("requested-joint-stationary", "The requested neck joint remained stationary.")]

/-- `DEVELOPMENT_NECK_ACTUATION`. -/
def developmentNeckActuation : DevelopmentScenarioDefinition where
  scenarioId := py "development-only-neck-actuation"
  version := py "1.0.0"
  category := .developmentActuation
  description :=
    py "Exercise the existing bounded neck command through explicit development authority."
  launchProfile := .developmentControl
  expectedSafeOutcome :=
    py "The valid bounded neck command moves in simulation and returns to neutral."
  authority := .developmentNeckControl
  steps := [
    stepOf "development-control-ready" .waitForDevelopmentControl ["controller-hardware-active"],
    stepOf "initial-neck" .readNeckState ["initial-neck-observed"],
    stepOf "valid-neck-command" .callDevelopmentNeckControl ["development-command-completed"],
    stepOf "target-neck" .waitForNeckTarget
      ["neck-target-observed", "neck-within-urdf-limit", "world-model-neck-updated",
        "production-authority-unused"],
    stepOf "restore-neck" .restoreDevelopmentNeckNeutral
      ["neck-restored-neutral", "development-cleanup-complete"]]
  assertions := assertionsOf [
    ("controller-hardware-active", "Controller and simulated hardware were active."),
    ("initial-neck-observed", "Initial controller-derived neck state was captured."),
    ("development-command-completed", "The typed DEVELOPMENT command completed."),
    ("neck-target-observed", "Controller-derived state reached the bounded target."),
    ("neck-within-urdf-limit",
      "Observed neck state remained inside authoritative URDF limits."),
    ("world-model-neck-updated", "World Model exposed the updated proprioceptive state."),
    ("production-authority-unused", "No production Safety or Runtime authority was used."),
    ("neck-restored-neutral", "The reviewed development reset returned the neck to neutral."),
    ("development-cleanup-complete", "Owned controlled-simulation processes shut down.")]

/-- `INVALID_DEVELOPMENT_COMMAND`. -/
def invalidDevelopmentCommand : DevelopmentScenarioDefinition where
  scenarioId := py "invalid-development-command-rejected"
  version := py "1.0.0"
  category := .failClosedControl
  description :=
    py "Reject one out-of-bounds development neck request without fabricated state."
  launchProfile := .developmentControl
  expectedSafeOutcome :=
    py "The typed boundary rejects the target and controller state remains healthy."
  authority := .developmentNeckControl
  steps := [
    stepOf "before-invalid" .readNeckState ["pre-command-state-observed"],
    stepOf "invalid-neck-command" .callInvalidDevelopmentNeckControl
      ["invalid-command-rejected", "typed-rejection-reason", "invalid-not-clamped"],
    stepOf "after-invalid" .queryRobotBodyState
      ["invalid-target-not-reached", "world-model-not-fabricated", "controller-remains-healthy",
        "post-rejection-query-works"]]
  assertions := assertionsOf [
    ("pre-command-state-observed", "A controller-derived pre-command state was captured."),
    ("invalid-command-rejected", "The out-of-bounds command was rejected."),
    ("typed-rejection-reason", "The response retained the typed above-maximum reason."),
    ("invalid-not-clamped", "The invalid target was not silently accepted by clamping."),
    ("invalid-target-not-reached", "The neck did not move to the invalid target."),
    ("world-model-not-fabricated",
      "World Model did not expose requested state as observed state."),
    ("controller-remains-healthy", "The controller remained active after rejection."),
    ("post-rejection-query-works", "A subsequent typed body query succeeded.")]

/-- `SENSOR_ABSENCE`. -/
def sensorAbsence : DevelopmentScenarioDefinition where
  scenarioId := py "optional-visual-source-absent"
  version := py "1.0.0"
  category := .sensorAvailability
  description :=
    py "Start without optional visual and semantic sources and require conservative state."
  launchProfile := .sensorAbsence
  expectedSafeOutcome :=
    py "World Model remains active without fabricating visual evidence or absence."
  authority := .none
  steps := [
    stepOf "world-model-without-visual" .waitForWorldModelActive
      ["world-model-available-without-visual"],
    stepOf "visual-source-absent" .verifyOptionalSensorAbsent
      ["visual-source-not-enabled", "no-fake-visual-evidence", "no-stale-refresh"],
    stepOf "empty-semantic-query" .queryAnonymousSemanticState
      ["no-fake-person-object-evidence", "no-complete-scene-absence-claim",
        "availability-diagnostics-exact"],
    stepOf "absence-process-health" .assertProcessHealth ["system-operational-without-visual"]]
  assertions := assertionsOf [
    ("world-model-available-without-visual", "World Model remained active without visual input."),
    ("visual-source-not-enabled", "The optional RGB source had no publisher."),
    ("no-fake-visual-evidence", "No visual observation was fabricated."),
    ("no-stale-refresh", "Absent traffic did not refresh retained evidence."),
    ("no-fake-person-object-evidence", "No person or object evidence was fabricated."),
    ("no-complete-scene-absence-claim",
      "Empty retained evidence was not interpreted as physical-scene absence."),
    ("availability-diagnostics-exact", "The query represented the source as not enabled."),
    ("system-operational-without-visual", "The owned system stayed healthy and shut down.")]

/-- `SCENARIO_CATALOG`. -/
def scenarioCatalog : List DevelopmentScenarioDefinition :=
  [embodiedObservation, visualSemanticObservation, productionMotionDeferred,
    developmentNeckActuation, invalidDevelopmentCommand, sensorAbsence]

end Catalog

section Evidence

/-- The exception classes of the scenario package that are raised here. -/
inductive ScenarioErrorKind where
  | invalidScenarioDefinition | invalidScenarioResult
  deriving DecidableEq, Repr

/-- An exception with its message; both classes are a `ValueError`. -/
structure ScenarioError where
  /-- The exception class. -/
  kind : ScenarioErrorKind
  /-- The message text. -/
  message : PyStr
  deriving DecidableEq

/-- `InvalidScenarioResultError(message)`. -/
def resultError (message : String) : ScenarioError := ⟨.invalidScenarioResult, py message⟩

/-- `scenario_by_id`. -/
def scenarioById (scenarioId : PyStr) : Except ScenarioError DevelopmentScenarioDefinition :=
  match scenarioCatalog.find? fun item => item.scenarioId = scenarioId with
  | some definition => .ok definition
  | none => .error ⟨.invalidScenarioDefinition, py "unknown reviewed scenario ID"⟩

/-- `text.lower()` on its ASCII letters; no other character is lowered to a letter of the words
that a report text must not name. -/
def lowerAscii (c : CodePoint) : CodePoint :=
  if 65 ≤ c.val ∧ c.val ≤ 90 then c + 32 else c

/-- `word in text`. -/
def occursIn (word : PyStr) : PyStr → Bool
  | [] => word.isEmpty
  | c :: text => word.isPrefixOf (c :: text) || occursIn word text

/-- The checks of `_text`. -/
def IsReportText (text : PyStr) : Prop :=
  text ≠ [] ∧ text = strip text ∧ text.length ≤ maxReportTextLength ∧
    utf8Encodable text = true ∧
    ∀ word ∈ [py "/home/", py "pid=", py "process id"],
      occursIn word (text.map lowerAscii) = false

instance (text : PyStr) : Decidable (IsReportText text) :=
  inferInstanceAs (Decidable (_ ∧ _))

/-- A text that `_text` returns. -/
structure ReportText where
  text : PyStr
  /-- It passed the checks. -/
  checked : IsReportText text
  deriving DecidableEq

/-- A text that `_identifier` returns. -/
abbrev ScenarioName : Type := World.Identifier 128

/-- `DevelopmentScenarioAssertionResult`. -/
structure DevelopmentScenarioAssertionResult where
  assertionId : ScenarioName
  outcome : AssertionOutcome
  detail : ReportText
  reasons : List ScenarioFailureReason
  /-- The reasons are few and distinct. -/
  few : reasons.length ≤ maxReasonsPerReport ∧ reasons.Nodup
  /-- A passing assertion has no reason. -/
  passing : outcome = .pass → reasons = []
  /-- A failed assertion has a reason. -/
  failed : outcome = .fail → reasons ≠ []
  deriving DecidableEq

/-- `ScenarioObservedIdentity`. -/
structure ScenarioObservedIdentity where
  kind : ScenarioName
  value : ScenarioName
  deriving DecidableEq

/-- `ScenarioPolicyDecision`. -/
structure ScenarioPolicyDecision where
  layer : ScenarioName
  outcome : ScenarioName
  reason : ScenarioName
  deriving DecidableEq

/-- `ScenarioSourceSummary`. -/
structure ScenarioSourceSummary where
  sourceId : ScenarioName
  provenanceKind : ScenarioName
  interface : ScenarioName
  deriving DecidableEq

/-- `ScenarioCleanupResult`. -/
structure ScenarioCleanupResult where
  outcome : CleanupOutcome
  ownedProcessesRemaining : Nat
  detail : ReportText
  /-- The count is bounded. -/
  counted : ownedProcessesRemaining ≤ 256
  /-- A clean cleanup leaves no process. -/
  emptied : outcome = .clean → ownedProcessesRemaining = 0
  deriving DecidableEq

end Evidence

section Reports

/-- The evidence of a run that its caller passes to the report. -/
structure ScenarioEvidence where
  outcome : ScenarioOutcome
  assertionResults : List DevelopmentScenarioAssertionResult
  failureReasons : List ScenarioFailureReason
  observedIdentities : List ScenarioObservedIdentity
  policyDecisions : List ScenarioPolicyDecision
  developmentAuthorityUsed : Bool
  productionDispatchCount : Int
  sources : List ScenarioSourceSummary
  cleanup : ScenarioCleanupResult
  deriving DecidableEq

/-- `DevelopmentScenarioReport`, as stored. -/
structure DevelopmentScenarioReport extends ScenarioEvidence where
  frameworkId : PyStr
  frameworkFingerprint : PyStr
  scenarioId : PyStr
  scenarioVersion : PyStr
  scenarioFingerprint : PyStr
  reportId : PyStr
  launchProfile : ScenarioLaunchProfile
  deriving DecidableEq

/-- `_unique_typed_tuple` on typed items. -/
def uniqueTyped {α β : Type} [DecidableEq β] (values : List α) (key : α → β) (limit : Nat)
    (fieldName : String) : Except ScenarioError Unit := do
  require (values.length ≤ limit)
    ⟨.invalidScenarioResult, py fieldName ++ py " exceeds the v1 bound"⟩
  require (values.map key).Nodup
    ⟨.invalidScenarioResult, py fieldName ++ py " must contain unique identities"⟩

/-- The required assertions of a definition. -/
def DevelopmentScenarioDefinition.required (definition : DevelopmentScenarioDefinition) :
    List PyStr :=
  (definition.assertions.filter (·.required)).map (·.assertionId)

/-- The scenario must fail: a required assertion failed or the cleanup is incomplete. -/
def ScenarioEvidence.MustFail (evidence : ScenarioEvidence)
    (definition : DevelopmentScenarioDefinition) : Prop :=
  (∃ item ∈ evidence.assertionResults,
    item.assertionId.text ∈ definition.required ∧ item.outcome = .fail) ∨
  evidence.cleanup.outcome = .incomplete

instance (evidence : ScenarioEvidence) (definition : DevelopmentScenarioDefinition) :
    Decidable (evidence.MustFail definition) :=
  inferInstanceAs (Decidable (_ ∨ _))

/-- The checks of the report constructor. -/
def checkReport (definition : DevelopmentScenarioDefinition) (evidence : ScenarioEvidence) :
    Except ScenarioError Unit := do
  uniqueTyped evidence.assertionResults (·.assertionId) maxAssertionsPerScenario
    "report assertions"
  require ((∀ item ∈ evidence.assertionResults,
        item.assertionId.text ∈ definition.assertions.map (·.assertionId)) ∧
      ∀ item ∈ definition.assertions,
        item.assertionId ∈ evidence.assertionResults.map (·.assertionId.text))
    (resultError "report assertions do not match definition")
  require (evidence.outcome = .fail ↔ evidence.MustFail definition) (resultError
    "a failed required assertion or incomplete cleanup must fail the scenario")
  require (evidence.outcome = .pass → ∀ item ∈ evidence.assertionResults,
      item.assertionId.text ∈ definition.required → item.outcome = .pass)
    (resultError "passing scenario has unmet assertions")
  require (evidence.failureReasons.length ≤ maxReasonsPerReport ∧ evidence.failureReasons.Nodup)
    (resultError "report failure reasons exceed bounds")
  require (evidence.outcome = .pass → evidence.failureReasons = [])
    (resultError "passing scenario cannot carry failures")
  uniqueTyped evidence.observedIdentities id maxObservedIdentities "observed identities"
  uniqueTyped evidence.policyDecisions (·.layer) maxPolicyDecisions "policy decisions"
  require (definition.authority = .none → evidence.developmentAuthorityUsed = false)
    (resultError "scenario used undeclared authority")
  require (0 ≤ evidence.productionDispatchCount ∧ evidence.productionDispatchCount ≤ 16)
    (resultError "production dispatch count is invalid")
  uniqueTyped evidence.sources (·.sourceId) maxSourceSummaries "source summaries"

variable (p : Platform)

/-- The document that names a report. -/
def reportDocument (definition : DevelopmentScenarioDefinition) (evidence : ScenarioEvidence) :
    Json :=
  .obj [
    (py "assertions", .arr (evidence.assertionResults.map fun item => .obj [
      (py "detail", .str item.detail.text), (py "id", .str item.assertionId.text),
      (py "outcome", .str item.outcome.value),
      (py "reasons", .arr (item.reasons.map fun reason => .str reason.value))])),
    (py "cleanup", .obj [(py "detail", .str evidence.cleanup.detail.text),
      (py "outcome", .str evidence.cleanup.outcome.value),
      (py "owned_processes_remaining", .int evidence.cleanup.ownedProcessesRemaining)]),
    (py "development_authority_used", .bool evidence.developmentAuthorityUsed),
    (py "failure_reasons", .arr (evidence.failureReasons.map fun item => .str item.value)),
    (py "framework", .str frameworkId),
    (py "observed_identities", .arr (evidence.observedIdentities.map fun item => .obj [
      (py "kind", .str item.kind.text), (py "value", .str item.value.text)])),
    (py "outcome", .str evidence.outcome.value),
    (py "policy_decisions", .arr (evidence.policyDecisions.map fun item => .obj [
      (py "layer", .str item.layer.text), (py "outcome", .str item.outcome.text),
      (py "reason", .str item.reason.text)])),
    (py "production_dispatch_count", .int evidence.productionDispatchCount),
    (py "scenario_fingerprint", .str (definition.fingerprint p)),
    (py "sources", .arr (evidence.sources.map fun item => .obj [
      (py "id", .str item.sourceId.text), (py "interface", .str item.interface.text),
      (py "provenance", .str item.provenanceKind.text)]))]

/-- The digest of the framework and its limits. -/
def frameworkDigest : PyStr :=
  semanticSha256 p (py "scenario-framework") (.obj [
    (py "framework", .str frameworkId),
    (py "limits", .obj [
      (py "assertions", .int maxAssertionsPerScenario),
      (py "diagnostics", .int maxDiagnosticRecords),
      (py "reasons", .int maxReasonsPerReport),
      (py "retained_ros_samples", .int maxRetainedRosSamples),
      (py "scenarios", .int maxScenariosPerInvocation),
      (py "steps", .int maxStepsPerScenario)]),
    (py "version", .str frameworkVersion)])

/-- The report of a definition and checked evidence. -/
def builtReport (definition : DevelopmentScenarioDefinition) (evidence : ScenarioEvidence) :
    DevelopmentScenarioReport where
  toScenarioEvidence := evidence
  frameworkId := Scenario.frameworkId
  frameworkFingerprint := frameworkDigest p
  scenarioId := definition.scenarioId
  scenarioVersion := definition.version
  scenarioFingerprint := definition.fingerprint p
  reportId := semanticSha256 p (py "scenario-report") (reportDocument p definition evidence)
  launchProfile := definition.launchProfile

/-- `DevelopmentScenarioReport(definition=definition, ...)`. -/
def DevelopmentScenarioReport.init (definition : DevelopmentScenarioDefinition)
    (evidence : ScenarioEvidence) : Except ScenarioError DevelopmentScenarioReport := do
  checkReport definition evidence
  pure (builtReport p definition evidence)

end Reports

end Scenario
end AyyoHumanoid
