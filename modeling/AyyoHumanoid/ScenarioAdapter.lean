import AyyoHumanoid.DemonstrationVerification
import AyyoHumanoid.DevelopmentScenarios

/-!
# Capture of scenario reports

The adapter rebuilds a stored report, refuses one that does not come back equal,
and turns the report of each scenario into the events of a demonstration.
-/

namespace AyyoHumanoid
namespace Teach

open PyText JsonText Artifacts Scenario

/-- `ScenarioDemonstrationAdapterError(message)`. -/
def adapterError (message : PyStr) : TeachRaised :=
  .typed ⟨.scenarioDemonstrationAdapter, message⟩

/-- `_DEVELOPMENT_MOTION_SCENARIO`. -/
def developmentMotionScenario : PyStr := py "development-only-neck-actuation"

/-- `_PRODUCTION_DEFER_SCENARIO`. -/
def productionDeferScenario : PyStr := py "production-physical-request-deferred"

/-- `_INVALID_COMMAND_SCENARIO`. -/
def invalidCommandScenario : PyStr := py "invalid-development-command-rejected"

section Reports

variable (p : Platform)

/-- The report that the catalog's definition gives for the evidence of a stored report. -/
def rebuiltReport (report : DevelopmentScenarioReport) :
    Except ScenarioError DevelopmentScenarioReport := do
  let definition ← scenarioById report.scenarioId
  DevelopmentScenarioReport.init p definition report.toScenarioEvidence

/-- `_verified_report`. -/
def verifiedReport (report : DevelopmentScenarioReport) : Except TeachRaised Unit := do
  let rebuilt ← (rebuiltReport p report).mapError fun _ =>
    adapterError (py "Stage-6 report structure or identity is invalid")
  require (report.frameworkId = Scenario.frameworkId ∧ rebuilt = report)
    (adapterError (py "Stage-6 report integrity or catalog binding failed"))
  require ((report.observedIdentities.filter (·.kind.text = py "robot")).map (·.value.text) =
      [ayyoRobotId])
    (adapterError (py "Stage-6 report must contain one canonical Ayyo robot identity"))

end Reports

section References

/-- The status of a reference to an outcome. -/
def referenceStatus : ScenarioOutcome → ReferenceEvidenceStatus
  | .pass => .pass
  | .fail => .fail
  | .notApplicable => .notApplicable

variable (report : DevelopmentScenarioReport)

/-- `_report_reference`. -/
def reportReference : Except TeachRaised DemonstrationObservationReference :=
  observationReference .scenarioReport (referenceStatus report.outcome) (.str report.reportId)
    (.str report.scenarioFingerprint) (.str (py "development-scenario")) (.str report.frameworkId)

/-- `_identity_references`. -/
def identityReferences : Except TeachRaised (List DemonstrationObservationReference) :=
  report.observedIdentities.mapM fun item =>
    observationReference
      (if item.kind.text = py "robot" then .robotBodyState else .publicEvidence) .observed
      (.str item.value.text) .null .null .null

/-- `_source_references`. -/
def sourceReferences : Except TeachRaised (List DemonstrationObservationReference) :=
  report.sources.mapM fun item =>
    observationReference .sensorEvidence .observed (.str item.sourceId.text) .null
      (.str item.provenanceKind.text) (.str item.interface.text)

/-- `_assertion_reference`. -/
def assertionReference (assertionId : PyStr) :
    Except TeachRaised DemonstrationObservationReference :=
  match report.assertionResults.filter fun item => item.assertionId.text = assertionId with
  | [found] =>
    observationReference .scenarioAssertion (referenceStatus found.outcome) (.str assertionId)
      (.str report.reportId) (.str (py "development-scenario")) (.str report.frameworkId)
  | _ =>
    .error (adapterError (py "Stage-6 report is missing assertion evidence: " ++ assertionId))

/-- The keyword arguments of `_action` that name an action. -/
structure ActionShape where
  actionId : PyStr
  kind : DemonstrationActionKind
  authority : DemonstrationActionAuthority
  disposition : DemonstrationActionDisposition

variable (floats : TargetFloats)

/-- `_action`. -/
def scenarioAction (shape : ActionShape) (reasonCode targetId targetValue : Json) :
    Except TeachRaised DemonstrationActionReference :=
  actionReference floats shape.kind shape.authority shape.disposition
    (if targetValue ≠ .null then .radian else .none) {
      actionId := .str shape.actionId
      evidenceRef := .str report.reportId
      reasonCode := reasonCode
      targetId := targetId
      targetValue := targetValue }

/-- `_policy_decision`. -/
def policyDecision (layer : PyStr) : Except TeachRaised ScenarioPolicyDecision :=
  match report.policyDecisions.filter fun item => item.layer.text = layer with
  | [decision] => .ok decision
  | _ => .error (adapterError (py "Stage-6 report is missing one exact " ++ layer ++
      py " policy decision"))

end References

section Events

/-- The neck joint that the scenarios move. -/
def neckJoint : Json := .str (py "neck_yaw_joint")

/-- The literals are printed as floats. -/
theorem targets_float : isFloatToken (py "0.1") = true ∧ isFloatToken (py "0.0") = true ∧
    isFloatToken (py "1.3") = true := by
  decide

/-- The literal `0.1`. -/
def boundedTarget : Json := .float ⟨py "0.1", targets_float.1⟩

/-- The literal `0.0` is printed as a float. -/
theorem neutralTarget_float : isFloatToken (py "0.0") = true := targets_float.2.1

/-- The literal `0.0`. -/
def neutralTarget : Json := .float ⟨py "0.0", neutralTarget_float⟩

/-- The literal `1.3`. -/
def excessiveTarget : Json := .float ⟨py "1.3", targets_float.2.2⟩

/-- The annotation of the motion request. -/
def motionLimitation : String :=
  "Historical DEVELOPMENT-only request evidence; it grants no production authority."

/-- The last annotation of the motion scenario. -/
def motionObserved : String :=
  "The bounded DEVELOPMENT neck target and neutral reset were observed."

/-- The last annotation of the production scenario. -/
def deferralKept : String :=
  "Safety remained DEFERRED and production movement remained exactly zero."

/-- The last annotation of the invalid command's scenario. -/
def rejectionObserved : String :=
  "The invalid DEVELOPMENT request was rejected with no invalid movement."

/-- The last annotation of every other scenario. -/
def resultPreserved : String :=
  "The explicit episode preserves the completed Stage-6 scenario result."

variable (nfc : Nfc) (floats : TargetFloats) (report : DevelopmentScenarioReport)

/-- `_event`, with its default of no source time. -/
def scenarioEvent (index : Nat) (eventId : String) (eventType : DemonstrationEventType)
    (observations : List DemonstrationObservationReference)
    (actions : List DemonstrationActionReference)
    (annotations : List ( DemonstrationAnnotation nfc)) :
    Except TeachRaised (DemonstrationEvent nfc) :=
  demonstrationEvent eventType (.str (py eventId)) (.int index) .null observations actions
    annotations

/-- The last event of every scenario: its one annotation. -/
def outcomeEvent (index : Nat) (text : String) : Except TeachRaised (DemonstrationEvent nfc) := do
  let reason ← annotation nfc .outcomeReason (.str (py text))
  scenarioEvent nfc index "demonstration-outcome" .outcome [] [] [reason]

/-- `_development_motion_events`. -/
def developmentMotionEvents : Except TeachRaised (List (DemonstrationEvent nfc)) := do
  let whole ← reportReference report
  let identities ← identityReferences report
  let sources ← sourceReferences report
  let initialNeck ← assertionReference report (py "initial-neck-observed")
  let initial ← scenarioEvent nfc 0 "initial-robot-state" .observation
    (whole :: identities ++ sources ++ [initialNeck]) [] []
  let request ← scenarioAction report floats
    ⟨py "development-neck-target-request", .developmentJointPosition, .developmentOnly, .requested⟩
    .null neckJoint boundedTarget
  let limitation ← annotation nfc .limitation (.str (py motionLimitation))
  let requested ← scenarioEvent nfc 1 "development-neck-target-requested" .developmentAction []
    [request] [limitation]
  let completed ← assertionReference report (py "development-command-completed")
  let reached ← assertionReference report (py "neck-target-observed")
  let updated ← assertionReference report (py "world-model-neck-updated")
  let unused ← assertionReference report (py "production-authority-unused")
  let result ← scenarioAction report floats
    ⟨py "development-neck-target-result", .developmentJointPosition, .developmentOnly, .completed⟩
    .null neckJoint boundedTarget
  let observed ← scenarioEvent nfc 2 "development-neck-target-observed" .observation
    [completed, reached, updated, unused] [result] []
  let restored ← assertionReference report (py "neck-restored-neutral")
  let cleaned ← assertionReference report (py "development-cleanup-complete")
  let reset ← scenarioAction report floats
    ⟨py "development-neck-neutral-reset", .developmentReset, .developmentOnly, .completed⟩
    .null neckJoint neutralTarget
  let neutral ← scenarioEvent nfc 3 "development-neck-reset-observed" .developmentAction
    [restored, cleaned] [reset] []
  let outcome ← outcomeEvent nfc 4 motionObserved
  pure [initial, requested, observed, neutral, outcome]

/-- The decisions no longer prove that the production request was deferred. -/
def NotDeferred (report : DevelopmentScenarioReport) (safety skill runtime : ScenarioPolicyDecision) :
    Prop :=
  safety.outcome.text ≠ py "deferred" ∨ skill.outcome.text ≠ py "ineligible" ∨
    runtime.outcome.text ≠ py "deferred" ∨ report.productionDispatchCount ≠ 0 ∨
    report.developmentAuthorityUsed = true

instance (report : DevelopmentScenarioReport) (safety skill runtime : ScenarioPolicyDecision) :
    Decidable (NotDeferred report safety skill runtime) :=
  inferInstanceAs (Decidable (_ ∨ _))

/-- The four decisions of a production report that was deferred. -/
structure DeferredDecisions where
  executive : ScenarioPolicyDecision
  safety : ScenarioPolicyDecision
  /-- The decision of the Skill Manager. -/
  skill : ScenarioPolicyDecision
  /-- The decision of the Runtime Bridge. -/
  runtime : ScenarioPolicyDecision

/-- The first lines of `_production_defer_events`. -/
def deferredDecisions : Except TeachRaised DeferredDecisions := do
  let executive ← policyDecision report (py "executive")
  let safety ← policyDecision report (py "safety")
  let skill ← policyDecision report (py "skill-manager")
  let runtime ← policyDecision report (py "runtime-bridge")
  require (¬ NotDeferred report safety skill runtime)
    (adapterError (py "production scenario no longer proves DEFERRED and zero dispatch"))
  pure ⟨executive, safety, skill, runtime⟩

/-- An event of one layer's decision: its assertion and its action. -/
def decisionEvent (index : Nat) (eventId : String) (eventType : DemonstrationEventType)
    (assertionId : String) (shape : ActionShape) (decision : ScenarioPolicyDecision) :
    Except TeachRaised (DemonstrationEvent nfc) := do
  let evidence ← assertionReference report (py assertionId)
  let action ← scenarioAction report floats shape (.str decision.reason.text) .null .null
  scenarioEvent nfc index eventId eventType [evidence] [action] []

/-- `_production_defer_events`. -/
def productionDeferEvents : Except TeachRaised (List (DemonstrationEvent nfc)) := do
  let decisions ← deferredDecisions report
  let whole ← reportReference report
  let identities ← identityReferences report
  let request ← scenarioAction report floats
    ⟨py "production-neck-position-request", .executiveRequest, .none, .requested⟩
    .null neckJoint boundedTarget
  let intent ← scenarioEvent nfc 0 "production-neck-request" .intent (whole :: identities)
    [request] []
  let proposal ← decisionEvent nfc floats report 1 "executive-proposal" .executiveProposal
    "executive-proposal-structured"
    ⟨py "executive-neck-proposal", .executiveProposal, .none, .proposed⟩ decisions.executive
  let safety ← decisionEvent nfc floats report 2 "safety-decision" .safetyDecision
    "safety-deferred" ⟨py "safety-neck-decision", .safetyDecision, .none, .deferred⟩
    decisions.safety
  let binding ← decisionEvent nfc floats report 3 "skill-binding" .skillBinding
    "skill-binding-ineligible" ⟨py "skill-neck-binding", .skillBinding, .none, .ineligible⟩
    decisions.skill
  let refused ← assertionReference report (py "runtime-not-dispatchable")
  let zero ← assertionReference report (py "production-dispatch-zero")
  let uncalled ← assertionReference report (py "development-service-not-called")
  let unissued ← assertionReference report (py "controller-command-not-issued")
  let eligibility ← scenarioAction report floats
    ⟨py "runtime-neck-eligibility", .runtimeResult, .none, .deferred⟩
    (.str decisions.runtime.reason.text) .null .null
  let nondispatch ← scenarioAction report floats
    ⟨py "production-neck-nondispatch", .runtimeResult, .none, .notDispatched⟩
    (.str (py "production-dispatch-zero")) .null .null
  let runtime ← scenarioEvent nfc 4 "runtime-nondispatch" .runtimeResult
    [refused, zero, uncalled, unissued] [eligibility, nondispatch] []
  let sources ← sourceReferences report
  let stationary ← assertionReference report (py "requested-joint-stationary")
  let target ← scenarioEvent nfc 5 "stationary-production-target" .observation
    (sources ++ [stationary]) [] []
  let outcome ← outcomeEvent nfc 6 deferralKept
  pure [intent, proposal, safety, binding, runtime, target, outcome]

/-- `_invalid_command_events`. -/
def invalidCommandEvents : Except TeachRaised (List (DemonstrationEvent nfc)) := do
  let whole ← reportReference report
  let identities ← identityReferences report
  let sources ← sourceReferences report
  let before ← assertionReference report (py "pre-command-state-observed")
  let initial ← scenarioEvent nfc 0 "pre-command-state" .observation
    (whole :: identities ++ sources ++ [before]) [] []
  let rejected ← assertionReference report (py "invalid-command-rejected")
  let typed ← assertionReference report (py "typed-rejection-reason")
  let unclamped ← assertionReference report (py "invalid-not-clamped")
  let request ← scenarioAction report floats
    ⟨py "invalid-development-neck-request", .developmentJointPosition, .developmentOnly, .requested⟩
    .null neckJoint excessiveTarget
  let rejection ← scenarioAction report floats
    ⟨py "invalid-development-neck-rejection", .developmentJointPosition, .developmentOnly,
      .rejected⟩
    (.str (py "above-maximum")) neckJoint excessiveTarget
  let command ← scenarioEvent nfc 1 "invalid-development-command" .developmentAction
    [rejected, typed, unclamped] [request, rejection] []
  let unreached ← assertionReference report (py "invalid-target-not-reached")
  let unfabricated ← assertionReference report (py "world-model-not-fabricated")
  let healthy ← assertionReference report (py "controller-remains-healthy")
  let queried ← assertionReference report (py "post-rejection-query-works")
  let later ← scenarioEvent nfc 2 "post-rejection-state" .observation
    [unreached, unfabricated, healthy, queried] [] []
  let outcome ← outcomeEvent nfc 3 rejectionObserved
  pure [initial, command, later, outcome]

/-- `_generic_events`. -/
def genericEvents : Except TeachRaised (List (DemonstrationEvent nfc)) := do
  let whole ← reportReference report
  let identities ← identityReferences report
  let sources ← sourceReferences report
  let observations := whole :: identities ++ sources
  require (observations.length ≤ 16)
    (adapterError (py "Stage-6 report references exceed the Teach Mode event bound"))
  let evidence ← scenarioEvent nfc 0 "scenario-evidence" .observation observations [] []
  let outcome ← outcomeEvent nfc 1 resultPreserved
  pure [evidence, outcome]

/-- The events of a report, by its scenario. -/
def scenarioEvents : Except TeachRaised (List (DemonstrationEvent nfc)) :=
  if report.scenarioId = developmentMotionScenario then developmentMotionEvents nfc floats report
  else if report.scenarioId = productionDeferScenario then productionDeferEvents nfc floats report
  else if report.scenarioId = invalidCommandScenario then invalidCommandEvents nfc floats report
  else genericEvents nfc report

end Events

section Capture

variable (nfc : Nfc) (report : DevelopmentScenarioReport)

/-- A text as a JSON value. -/
def literal (text : String) : Json := .str (py text)

/-- `_outcome_for`. -/
def outcomeFor : Except TeachRaised (DemonstrationOutcome nfc) :=
  match report.outcome with
  | .fail =>
    demonstrationOutcome nfc .failure
      (if report.failureReasons = [] then [literal "scenario-failed"]
        else report.failureReasons.map fun item => .str item.value)
      (literal "The source Stage-6 scenario reported failure.")
  | .notApplicable =>
    demonstrationOutcome nfc .incomplete [literal "scenario-not-applicable"]
      (literal "The source Stage-6 scenario did not provide a completed demonstration.")
  | .pass =>
    if report.scenarioId = productionDeferScenario then
      demonstrationOutcome nfc .deferred
        [literal "physical-movement-information-unavailable", literal "production-dispatch-zero"]
        (literal "The request was deferred by Safety and no production movement occurred.")
    else if report.scenarioId = invalidCommandScenario then
      demonstrationOutcome nfc .rejected
        [literal "above-maximum", literal "invalid-target-not-reached"]
        (literal "The invalid DEVELOPMENT command was rejected without invalid movement.")
    else
      demonstrationOutcome nfc .success [literal "scenario-pass"]
        (literal "The exact bounded Stage-6 scenario completed with its expected safe result.")

/-- `capture_development_scenario_report`. -/
def captureDevelopmentScenarioReport (p : Platform) (floats : TargetFloats)
    (teacherSourceRef : Json) : Except TeachRaised (DemonstrationCaptureResult nfc) := do
  verifiedReport p report
  let events ← scenarioEvents nfc floats report
  let sourceTime ← sourceTimeRange .unavailable .null .null
  let provenance ← demonstrationProvenance (.str report.reportId)
    (.str report.scenarioFingerprint) teacherSourceRef
  let session ← (beginSession nfc .developmentScenario (.str ayyoRobotId) sourceTime
    provenance).appendAll events
  let outcome ← outcomeFor nfc report
  (session.finish p outcome).1

end Capture

end Teach
end AyyoHumanoid
