import AyyoHumanoid.Interactions
import AyyoHumanoid.JsonPrintable
import AyyoHumanoid.SimulationModels

/-!
# The controller adapter

The adapter validates a command against the joint limits, asks for authority and
controller evidence, asks for authority again, dispatches one position and waits
for feedback. The gateway and the authority are the environment, which may answer
each call as it likes.
-/

namespace AyyoHumanoid
namespace Simulation

open PyText JsonText
open World (Name)

section Limits

/-- `CONTROLLED_JOINT_ALLOWLIST`. -/
def controlledJointAllowlist : List PyStr := [py "neck_yaw_joint"]

/-- The type and the limits of a `UrdfJointContract`. -/
inductive UrdfJoint where
  /-- A joint of type `fixed`. -/
  | fixed
  /-- A joint of type `revolute` with finite limits. -/
  | revolute (lower upper : Rat) (proper : lower < upper)
  deriving DecidableEq

/-- `UrdfJointLimitCatalog`, as its constructor reads it from the robot description. -/
structure UrdfJointLimitCatalog where
  joints : PyDict PyStr UrdfJoint
  /-- The joints have names. -/
  named : [] ∉ joints.keys
  /-- The joints of the allowlist can be moved. -/
  allowed : ∀ name ∈ controlledJointAllowlist, ∃ lower upper proper,
    joints.get? name = some (.revolute lower upper proper)

/-- An identifier can be encoded. -/
theorem utf8Encodable_name (name : Name) : utf8Encodable name.text = true :=
  utf8Encodable_of_printable (Artifacts.printable_identifier name)

/-- Text between a letter and a point has no surrounding whitespace. -/
theorem cleanText_sentence {first : CodePoint} {middle : PyStr} (hfirst : isSpace first = false)
    (hlength : middle.length + 2 ≤ maxTextLength)
    (hencodable : utf8Encodable (first :: (middle ++ py ".")) = true) :
    CleanText (first :: (middle ++ py ".")) := by
  have hpoint : py "." = [point] := by decide
  refine cleanText_of_ends ⟨?_, ?_⟩ ?_ hencodable
  · simp [hfirst]
  · have hspace : isSpace point = false := by decide
    rw [hpoint, ← List.cons_append, List.getLast?_append_cons, List.getLast?_singleton]
    simp [hspace]
  · rw [hpoint, List.length_cons, List.length_append]
    exact hlength

/-- `f"Joint {joint_name!r}{rest}."`; an identifier is printed between quotes. -/
def jointDetail (name : Name) (rest : String) : PyStr :=
  py "Joint '" ++ name.text ++ py "'" ++ py rest ++ py "."

/-- `f"Target {position}{middle}{limit} for {joint_name}."`. -/
def boundDetail (float : FloatRuntime) (target : JointPositionTarget) (middle : String)
    (limit : Rat) : PyStr :=
  py "Target " ++ (float.repr target.position).text ++ py middle ++ (float.repr limit).text ++
    py " for " ++ target.jointName.text ++ py "."

/-- The details about a joint are clean text. -/
theorem cleanText_jointDetail (name : Name) (rest : String) (hrest : (py rest).length ≤ 100) :
    CleanText (jointDetail name rest) := by
  have hname := name.canonical.2
  have hstart : py "Joint '" = 74 :: py "oint '" := by decide
  have hsame : jointDetail name rest =
      74 :: ((py "oint '" ++ name.text ++ py "'" ++ py rest) ++ py ".") := by
    rw [jointDetail, hstart]
    simp only [List.cons_append, List.append_assoc]
  have hlength : (py "oint '" ++ name.text ++ py "'" ++ py rest).length + 2 ≤ maxTextLength := by
    have hquote : (py "'").length = 1 := by decide
    have hjoint : (py "oint '").length = 6 := by decide
    simp only [List.length_append, hquote, hjoint, maxTextLength]
    omega
  have hencodable : utf8Encodable (jointDetail name rest) = true := by
    simp only [jointDetail, utf8Encodable_append, utf8Encodable_name, utf8Encodable_py,
      Bool.and_self]
  rw [hsame] at hencodable ⊢
  exact cleanText_sentence (by decide) hlength hencodable

/-- The details about a limit are clean text. -/
theorem cleanText_boundDetail (float : FloatRuntime) (target : JointPositionTarget)
    (middle : String) (limit : Rat) (hmiddle : (py middle).length ≤ 100) :
    CleanText (boundDetail float target middle limit) := by
  have hname := target.jointName.canonical.2
  have hposition := float.short target.position
  have hlimit := float.short limit
  have hstart : py "Target " = 84 :: py "arget " := by decide
  have hsame : boundDetail float target middle limit =
      84 :: ((py "arget " ++ (float.repr target.position).text ++ py middle ++
        (float.repr limit).text ++ py " for " ++ target.jointName.text) ++ py ".") := by
    rw [boundDetail, hstart]
    simp only [List.cons_append, List.append_assoc]
  have hlength : (py "arget " ++ (float.repr target.position).text ++ py middle ++
      (float.repr limit).text ++ py " for " ++ target.jointName.text).length + 2 ≤
        maxTextLength := by
    have harget : (py "arget ").length = 6 := by decide
    have hfor : (py " for ").length = 5 := by decide
    simp only [List.length_append, harget, hfor, maxTextLength]
    omega
  have htoken : ∀ token : FloatToken, utf8Encodable token.text = true := fun token =>
    utf8Encodable_of_printable (printable_floatToken token)
  have hencodable : utf8Encodable (boundDetail float target middle limit) = true := by
    simp only [boundDetail, utf8Encodable_append, utf8Encodable_name, utf8Encodable_py, htoken,
      Bool.and_self]
  rw [hsame] at hencodable ⊢
  exact cleanText_sentence (by decide) hlength hencodable

/-- A text between characters that are not spaces, of limited length. -/
def isSentence (text : PyStr) : Bool :=
  (text.head?.any fun c => !isSpace c) && (text.getLast?.any fun c => !isSpace c) &&
    decide (text.length ≤ maxTextLength)

/-- A failure of the command with a constant detail. -/
def stated (command : SimulationControlCommand) (code : ControlFailureCode) (detail : String)
    (h : isSentence (py detail) = true) : ControlFailure where
  code := code
  detail := py detail
  command := some command
  text := by
    simp only [isSentence, Bool.and_eq_true, decide_eq_true_eq] at h
    exact cleanText_of_ends h.1 h.2 (utf8Encodable_py detail)

/-- A failure of the command with a detail about a joint. -/
def statedOf (command : SimulationControlCommand) (code : ControlFailureCode) {detail : PyStr}
    (text : CleanText detail) : ControlFailure where
  code := code
  detail := detail
  command := some command
  text := text

/-- `UrdfJointLimitCatalog.validate`. -/
def UrdfJointLimitCatalog.validate (float : FloatRuntime) (catalog : UrdfJointLimitCatalog)
    (command : SimulationControlCommand) : Except ControlFailure Unit := do
  require (command.targets.length = 1) (stated command .jointNotAllowlisted
    "Control v1 accepts exactly one reviewed joint target." (by decide))
  let target := command.firstTarget
  match catalog.joints.get? target.jointName.text with
  | none => .error (statedOf command .unknownJoint (cleanText_jointDetail
      target.jointName " is absent from the authoritative URDF" (by decide)))
  | some .fixed => .error (statedOf command .fixedJoint (cleanText_jointDetail
      target.jointName " is fixed and cannot be commanded" (by decide)))
  | some (.revolute lower upper _) => do
    require (target.jointName.text ∈ controlledJointAllowlist)
      (statedOf command .jointNotAllowlisted (cleanText_jointDetail target.jointName
        " is not in the reviewed control allowlist" (by decide)))
    require (¬target.position < lower) (statedOf command .belowMinimum
      (cleanText_boundDetail float target
        " is below the authoritative minimum " lower (by decide)))
    require (¬target.position > upper) (statedOf command .aboveMaximum
      (cleanText_boundDetail float target
        " is above the authoritative maximum " upper (by decide)))

end Limits

section Calls

/-- The calls that the adapter makes to the authority and the gateway. -/
inductive Call where
  /-- `authority.is_current`. -/
  | isCurrent (command : SimulationControlCommand)
  /-- `gateway.snapshot`. -/
  | snapshot (jointName : Name)
  /-- `gateway.simulation_time_ns`. -/
  | simulationTimeNs
  /-- `gateway.dispatch_position`. -/
  | dispatchPosition (jointName : Name) (position : Rat) (commandId : PyStr)
  /-- `gateway.wait_for_feedback`. -/
  | waitForFeedback (jointName : Name) (afterSequence : Nat) (targetPosition tolerance : Rat)
      (timeoutNs : Nat)

/-- The type of the answer to a call. -/
def Answer : Call → Type
  | .isCurrent _ => Bool
  | .snapshot _ => ControllerSnapshot
  | .simulationTimeNs => Int
  | .dispatchPosition .. => Bool
  | .waitForFeedback .. => Option JointStateSample

/-- A call of the adapter with its answer. -/
abbrev ControlEvent : Type := Interaction.Event Call Answer

end Calls

section Adapter

/-- `POSITION_CONTROLLER_NAME`. -/
def positionControllerName : PyStr := py "ayyo_neck_position_controller"

/-- `MAX_CONTROLLER_SNAPSHOT_AGE_NS`. -/
def maxControllerSnapshotAgeNs : Nat := 1000000000

/-- `MAX_JOINT_STATE_AGE_NS`. -/
def maxJointStateAgeNs : Nat := 500000000

/-- `MINIMUM_OBSERVABLE_CHANGE`: the value of the float `0.001`. -/
def minimumObservableChange : Rat := mkRat 1152921504606847 (2 ^ 60)

/-- The value of the float `0.1`. -/
def maximumTolerance : Rat := mkRat 3602879701896397 (2 ^ 55)

/-- The configuration of a `SimulationControlAdapter`. -/
structure SimulationControlAdapter where
  limits : UrdfJointLimitCatalog
  feedbackTimeoutNs : Nat
  positionTolerance : Rat
  /-- The timeout is bounded. -/
  timeout : 1 ≤ feedbackTimeoutNs ∧ feedbackTimeoutNs ≤ 5000000000
  /-- The tolerance is bounded. -/
  tolerance : 0 < positionTolerance ∧ positionTolerance ≤ maximumTolerance

/-- The fields of a rejected result. -/
def rejected (command : SimulationControlCommand) (failure : ControlFailure)
    (boundaryAccepted controllerDispatched feedbackObserved stateChanged : Bool)
    (initialPosition finalPosition : Option Rat) (observedAtNs : Option Nat) : ResultFields where
  status := .rejected
  command := command
  failure := some failure
  boundaryAccepted := boundaryAccepted
  controllerDispatched := controllerDispatched
  feedbackObserved := feedbackObserved
  stateChanged := stateChanged
  targetReached := false
  initialPosition := initialPosition
  finalPosition := finalPosition
  observedAtNs := observedAtNs

/-- The result of a failure before the boundary. -/
def refused (command : SimulationControlCommand) (failure : ControlFailure) : ResultFields :=
  rejected command failure false false false false none none none

/-- The code of an authority that is not current. -/
def authorityCode (command : SimulationControlCommand) : ControlFailureCode :=
  if command.authority.kind = .developmentTest then .developmentSessionChanged
  else .staleRuntimeBinding

/-- The checks of `execute` before the first call. -/
def checkEntry (float : FloatRuntime) (limits : UrdfJointLimitCatalog)
    (command : SimulationControlCommand) (nowNs : Int) : Except ControlFailure Unit := do
  limits.validate float command
  require (command.issuedAtNs ≤ nowNs) (stated command .commandFromFuture
    "Command issuance is ahead of the current simulation clock." (by decide))
  require (nowNs ≤ command.expiresAtNs) (stated command .staleCommand
    "Command expired before entering the controller boundary." (by decide))

/-- The checks of `execute` on the controller evidence: the state of the joint. -/
def checkEvidence (command : SimulationControlCommand) (snapshot : ControllerSnapshot)
    (dispatchNowNs : Int) : Except ControlFailure JointStateSample := do
  require (command.issuedAtNs ≤ dispatchNowNs) (stated command .commandFromFuture
    "Command issuance is ahead of the dispatch simulation clock." (by decide))
  require (dispatchNowNs ≤ command.expiresAtNs) (stated command .staleCommand
    "Command expired before controller dispatch." (by decide))
  require (snapshot.observedAtNs ≤ dispatchNowNs ∧
      dispatchNowNs - snapshot.observedAtNs ≤ maxControllerSnapshotAgeNs)
    (stated command .controllerUnavailable
      "Controller lifecycle evidence is stale or from the future." (by decide))
  require (snapshot.hardwareLifecycle = .active) (stated command .controlSystemInactive
    "The gz_ros2_control hardware system is not active." (by decide))
  require (snapshot.controllerLifecycle ≠ .unavailable) (stated command .controllerUnavailable
    "The reviewed position controller is unavailable." (by decide))
  require (snapshot.controllerLifecycle = .active) (stated command .controllerInactive
    "The reviewed position controller is not active." (by decide))
  require (snapshot.broadcasterLifecycle = .active) (stated command .stateBroadcasterInactive
    "The authoritative joint-state broadcaster is not active." (by decide))
  require (1 ≤ snapshot.commandSubscribers) (stated command .commandReceiverUnavailable
    "The reviewed controller has no command subscription." (by decide))
  let unavailable := stated command .stateUnavailable
    "Authoritative state for the requested joint is unavailable." (by decide)
  match snapshot.jointState with
  | none => .error unavailable
  | some before => do
    require (before.jointName = command.firstTarget.jointName) unavailable
    require (before.observedAtNs ≤ dispatchNowNs ∧
        dispatchNowNs - before.observedAtNs ≤ maxJointStateAgeNs)
      (stated command .stateStale
        "Authoritative joint state is stale or from the future." (by decide))
    pure before

variable (p : Platform) (float : FloatRuntime)

/-- What `execute` comes to: it makes calls and returns a result or raises. -/
abbrev Execution : Type :=
  Interaction Call Answer (Except ControlValidationError (SimulationControlResult p float))

/-- `execute` returns the result with these fields. -/
def settle (fields : ResultFields) : Execution p float := .done (makeResult p float fields)

/-- The fields of the result on correlated feedback. -/
def verdict (adapter : SimulationControlAdapter) (command : SimulationControlCommand)
    (before feedback : JointStateSample) : ResultFields :=
  let stateChanged := decide ((minimumObservableChange : WithTop Rat) ≤
    float.distance feedback.position before.position)
  let targetReached := decide (float.distance feedback.position command.firstTarget.position ≤
    (adapter.positionTolerance : WithTop Rat))
  if stateChanged = false ∨ targetReached = false then
    rejected command (stated command .targetNotReached
        "Post-dispatch state did not prove the requested bounded motion." (by decide))
      true true true stateChanged (some before.position) (some feedback.position)
      (some feedback.observedAtNs)
  else
    { status := .completed
      command := command
      failure := none
      boundaryAccepted := true
      controllerDispatched := true
      feedbackObserved := true
      stateChanged := true
      targetReached := true
      initialPosition := some before.position
      finalPosition := some feedback.position
      observedAtNs := some feedback.observedAtNs }

/-- `execute` from the feedback on. -/
def awaitFeedback (adapter : SimulationControlAdapter) (command : SimulationControlCommand)
    (before : JointStateSample) (dispatchNowNs : Int) : Execution p float :=
  let target := command.firstTarget
  .ask (.waitForFeedback target.jointName before.sequence target.position
    adapter.positionTolerance adapter.feedbackTimeoutNs) fun (answer : Option JointStateSample) =>
  match answer with
  | none => settle p float (rejected command (stated command .feedbackTimeout
      "No correlated post-dispatch joint feedback arrived in time." (by decide))
      true true false false (some before.position) none none)
  | some feedback =>
    if feedback.jointName ≠ target.jointName ∨ feedback.sequence ≤ before.sequence then
      .done (.error ⟨.stateUnavailable,
        py "controller gateway returned uncorrelated joint feedback"⟩)
    else .ask .simulationTimeNs fun (feedbackNowNs : Int) =>
      if feedbackNowNs < 0 then
        .done (.error ⟨.stateUnavailable,
          py "controller gateway returned invalid feedback simulation time"⟩)
      else if ¬(dispatchNowNs ≤ feedback.observedAtNs ∧ feedback.observedAtNs ≤ feedbackNowNs) then
        settle p float (rejected command (stated command .stateStale
          "Post-dispatch feedback has incompatible simulation time." (by decide))
          true true false false (some before.position) none none)
      else settle p float (verdict float adapter command before feedback)

/-- `execute` from the second authority check on. -/
def dispatch (adapter : SimulationControlAdapter) (command : SimulationControlCommand)
    (before : JointStateSample) (dispatchNowNs : Int) : Execution p float :=
  let target := command.firstTarget
  .ask (.isCurrent command) fun (current : Bool) =>
  if current = false then
    settle p float (rejected command (stated command (authorityCode command)
      "Command authority changed before controller dispatch." (by decide))
      true false false false (some before.position) none none)
  else .ask (.dispatchPosition target.jointName target.position (command.commandId p float))
    fun (accepted : Bool) =>
    if accepted = false then
      settle p float (rejected command (stated command .controllerRejected
        "The typed controller gateway rejected the command." (by decide))
        true false false false (some before.position) none none)
    else awaitFeedback p float adapter command before dispatchNowNs

/-- `execute` from the snapshot on. -/
def gatherEvidence (adapter : SimulationControlAdapter) (command : SimulationControlCommand) :
    Execution p float :=
  .ask (.snapshot command.firstTarget.jointName) fun (snapshot : ControllerSnapshot) =>
  if snapshot.controllerName.text ≠ positionControllerName then
    settle p float (refused command (stated command .controllerUnavailable
      "The gateway snapshot names an unreviewed controller." (by decide)))
  else .ask .simulationTimeNs fun (dispatchNowNs : Int) =>
    if dispatchNowNs < 0 then
      .done (.error ⟨.controllerUnavailable,
        py "controller gateway returned invalid simulation time"⟩)
    else match checkEvidence command snapshot dispatchNowNs with
      | .error failure => settle p float (refused command failure)
      | .ok before => dispatch p float adapter command before dispatchNowNs

/-- `SimulationControlAdapter.execute`. -/
def execute (adapter : SimulationControlAdapter) (command : SimulationControlCommand)
    (nowNs : Int) : Execution p float :=
  if nowNs < 0 then
    .done (.error ⟨.malformedCommand,
      py "control evaluation requires simulation time in nanoseconds"⟩)
  else match checkEntry float adapter.limits command nowNs with
    | .error failure => settle p float (refused command failure)
    | .ok () => .ask (.isCurrent command) fun (current : Bool) =>
      if current = false then
        settle p float (refused command (stated command (authorityCode command)
          "Command authority is no longer current." (by decide)))
      else gatherEvidence p float adapter command

end Adapter

end Simulation
end AyyoHumanoid
