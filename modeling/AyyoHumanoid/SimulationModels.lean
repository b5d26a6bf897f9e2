import AyyoHumanoid.ArtifactText
import AyyoHumanoid.PyDict
import AyyoHumanoid.PyFloat

/-!
# Commands, evidence and results of simulation control

The immutable records of the simulation control package satisfy the checks of
their constructors, so that a rebuilt command is the command itself. Positions
are the exact values of finite floats; the runtime prints them and computes
their distances.
-/

namespace AyyoHumanoid
namespace Simulation

open PyText JsonText PyCollections
open World (Name Digest digestOf)

/-- What the runtime's floating point supplies. -/
structure FloatRuntime where
  /-- `repr` of the float with a value. -/
  repr : Rat → FloatToken
  /-- A float has at most seventeen digits, a sign, a point and an exponent. -/
  short : ∀ value, (repr value).text.length ≤ 24
  /-- `abs(left - right)`, infinite when the difference overflows. -/
  distance : Rat → Rat → WithTop Rat

section Errors

/-- `ControlFailureCode`. -/
inductive ControlFailureCode where
  | malformedCommand | unsupportedCommandType | duplicateTarget | unknownJoint | fixedJoint
  | jointNotAllowlisted | belowMinimum | aboveMaximum | staleCommand | commandFromFuture
  | malformedUpstreamIdentity | upstreamNotEligible | staleRuntimeBinding
  | runtimeEndpointMismatch | developmentInjectionDisabled | developmentSessionChanged
  | controlSystemInactive | controllerUnavailable | controllerInactive
  | stateBroadcasterInactive | commandReceiverUnavailable | stateUnavailable | stateStale
  | controllerRejected | feedbackTimeout | targetNotReached
  deriving DecidableEq, Repr

/-- `ControlValidationError(code, message)`. -/
structure ControlValidationError where
  code : ControlFailureCode
  /-- The message text. -/
  message : PyStr
  deriving DecidableEq

end Errors

section Authorities

/-- `ControlAuthorityKind`. -/
inductive ControlAuthorityKind where
  | developmentTest | runtimeEligible
  deriving DecidableEq, Repr

/-- The text of an authority kind. -/
def ControlAuthorityKind.value : ControlAuthorityKind → PyStr
  | .developmentTest => py "development_test"
  | .runtimeEligible => py "runtime_eligible"

/-- The identity chain of a runtime authority; an identity and its fingerprint share a digest. -/
structure RuntimeIdentity where
  /-- The digest of `runtime_request_id` and `runtime_request_fingerprint`. -/
  request : Digest
  /-- The digest of `runtime_decision_id` and `runtime_decision_fingerprint`. -/
  decision : Digest
  /-- The digest of `invocation_fingerprint`. -/
  invocation : Digest
  /-- The digest of `endpoint_binding_fingerprint`. -/
  endpointBinding : Digest
  /-- The digest of `runtime_registry_fingerprint`. -/
  registry : Digest
  deriving DecidableEq

/-- `ControlAuthority`. -/
structure ControlAuthority where
  kind : ControlAuthorityKind
  sourceId : Name
  /-- The fields of the identity chain. -/
  runtime : Option RuntimeIdentity
  /-- Exactly a runtime authority has an identity chain. -/
  chained : kind = .runtimeEligible ↔ runtime.isSome = true
  deriving DecidableEq

/-- A tagged digest of the identity chain, when there is one. -/
def ControlAuthority.tagged (authority : ControlAuthority) (tag : String)
    (digest : RuntimeIdentity → Digest) : Json :=
  optionalText (authority.runtime.map fun identity => py tag ++ (digest identity).text)

/-- `ControlAuthority.document`. -/
def ControlAuthority.document (authority : ControlAuthority) : Json :=
  .obj [
    (py "endpoint_binding_fingerprint",
      authority.tagged "endpoint_binding:sha256:" (·.endpointBinding)),
    (py "invocation_fingerprint", authority.tagged "invocation:sha256:" (·.invocation)),
    (py "kind", .str authority.kind.value),
    (py "runtime_registry_fingerprint", authority.tagged "registry:sha256:" (·.registry)),
    (py "runtime_decision_fingerprint", authority.tagged "decision:sha256:" (·.decision)),
    (py "runtime_decision_id", authority.tagged "runtime-decision-" (·.decision)),
    (py "runtime_request_fingerprint", authority.tagged "request:sha256:" (·.request)),
    (py "runtime_request_id", authority.tagged "runtime-request-" (·.request)),
    (py "source_id", .str authority.sourceId.text)]

end Authorities

section Commands

/-- `MAX_CONTROL_TARGETS`. -/
def maxControlTargets : Nat := 8

/-- `MAX_COMMAND_WINDOW_NS`. -/
def maxCommandWindowNs : Nat := 5000000000

/-- `JointPositionTarget`. -/
structure JointPositionTarget where
  jointName : Name
  position : Rat
  deriving DecidableEq

/-- `SimulationControlCommand`; its type is the only member of `ControlCommandType`. -/
structure SimulationControlCommand where
  targets : List JointPositionTarget
  issuedAtNs : Nat
  expiresAtNs : Nat
  authority : ControlAuthority
  /-- There is a target. -/
  targeted : targets ≠ []
  /-- There are not too many targets. -/
  bounded : targets.length ≤ maxControlTargets
  /-- The targets have distinct joints, in order. -/
  ordered : KeyOrdered (fun target => target.jointName.text) targets
  /-- The window is positive and bounded. -/
  window : issuedAtNs < expiresAtNs ∧ expiresAtNs - issuedAtNs ≤ maxCommandWindowNs
  deriving DecidableEq

/-- `command.targets[0]`. -/
def SimulationControlCommand.firstTarget (command : SimulationControlCommand) :
    JointPositionTarget := command.targets.head command.targeted

variable (p : Platform) (float : FloatRuntime)

/-- The document of a command. -/
def SimulationControlCommand.document (command : SimulationControlCommand) : Json :=
  .obj [(py "authority", command.authority.document),
    (py "command_type", .str (py "set_joint_positions")),
    (py "expires_at_ns", .int command.expiresAtNs),
    (py "issued_at_ns", .int command.issuedAtNs),
    (py "schema", .str (py "ayyo.simulation-control.command.v1")),
    (py "targets", .arr (command.targets.map fun target =>
      .obj [(py "joint_name", .str target.jointName.text),
        (py "position", .float (float.repr target.position))]))]

/-- The digest of `command.fingerprint`. -/
def SimulationControlCommand.digest (command : SimulationControlCommand) : Digest :=
  digestOf p (encode (command.document float))

/-- `command.command_id`. -/
def SimulationControlCommand.commandId (command : SimulationControlCommand) : PyStr :=
  py "control-command-" ++ (command.digest p float).text

end Commands

section Evidence

/-- `ControllerLifecycle`. -/
inductive ControllerLifecycle where
  | unavailable | inactive | active
  deriving DecidableEq, Repr

/-- `JointStateSample`. -/
structure JointStateSample where
  jointName : Name
  position : Rat
  observedAtNs : Nat
  sequence : Nat
  deriving DecidableEq

/-- `ControllerSnapshot`. -/
structure ControllerSnapshot where
  controllerName : Name
  controllerLifecycle : ControllerLifecycle
  broadcasterLifecycle : ControllerLifecycle
  hardwareLifecycle : ControllerLifecycle
  commandSubscribers : Nat
  observedAtNs : Nat
  jointState : Option JointStateSample
  deriving DecidableEq

end Evidence

section Failures

/-- `ControlFailure`. -/
structure ControlFailure where
  code : ControlFailureCode
  detail : PyStr
  /-- The command whose identity and fingerprint are recorded. -/
  command : Option SimulationControlCommand
  /-- The detail passed the text check. -/
  text : CleanText detail

variable (p : Platform) (float : FloatRuntime)

/-- `failure.command_id`. -/
def ControlFailure.commandId (failure : ControlFailure) : Option PyStr :=
  failure.command.map (·.commandId p float)

/-- Text between characters that are not spaces is clean. -/
theorem cleanText_of_ends {text : PyStr} (hends : (text.head?.any fun c => !isSpace c) = true ∧
    (text.getLast?.any fun c => !isSpace c) = true) (hlength : text.length ≤ maxTextLength)
    (hencodable : utf8Encodable text = true) : CleanText text where
  nonempty := by
    intro hnil
    rw [hnil] at hends
    cases hends.1
  bounded := hlength
  stripped := by
    refine (strip_eq_self (fun c hc => ?_) fun c hc => ?_).symm
    · have hhead := hends.1
      rw [Option.mem_def.mp hc] at hhead
      simpa using hhead
    · have hlast := hends.2
      rw [Option.mem_def.mp hc] at hlast
      simpa using hlast
  encodable := hencodable

end Failures

section Results

/-- `ControlResultStatus`. -/
inductive ControlResultStatus where
  | rejected | completed
  deriving DecidableEq, Repr

/-- The fields that `SimulationControlResult` takes. -/
structure ResultFields where
  status : ControlResultStatus
  command : SimulationControlCommand
  failure : Option ControlFailure
  boundaryAccepted : Bool
  controllerDispatched : Bool
  feedbackObserved : Bool
  stateChanged : Bool
  targetReached : Bool
  initialPosition : Option Rat
  finalPosition : Option Rat
  observedAtNs : Option Nat

/-- `evidence_chain`. -/
def ResultFields.evidenceChain (fields : ResultFields) : List Bool :=
  [fields.boundaryAccepted, fields.controllerDispatched, fields.feedbackObserved,
    fields.stateChanged, fields.targetReached]

/-- No flag of the evidence chain is set after one that is not. -/
def SkipsNothing (chain : List Bool) : Prop :=
  ∀ pair ∈ chain.zip chain.tail, pair.2 = true → pair.1 = true

instance (chain : List Bool) : Decidable (SkipsNothing chain) :=
  inferInstanceAs (Decidable (∀ pair ∈ _, _))

variable (p : Platform) (float : FloatRuntime)

/-- The checks of a completed result. -/
def ResultFields.checkCompleted (fields : ResultFields) : Except ControlValidationError Unit := do
  require (fields.failure.isNone = true ∧ ∀ flag ∈ fields.evidenceChain, flag = true)
    ⟨.malformedCommand, py "completed control result requires the full evidence chain"⟩
  require (fields.initialPosition.isSome = true ∧ fields.finalPosition.isSome = true ∧
      fields.observedAtNs.isSome = true)
    ⟨.stateUnavailable, py "completed control result requires before-and-after feedback"⟩

/-- The checks of a rejected result. -/
def ResultFields.checkRejected (fields : ResultFields) : Except ControlValidationError Unit := do
  require (fields.failure.isSome = true ∧ fields.targetReached = false)
    ⟨.malformedCommand, py "rejected control result requires a typed failure and no completion"⟩
  require (fields.failure.bind (·.commandId p float) = some (fields.command.commandId p float))
    ⟨.malformedCommand, py "control failure does not match its result command"⟩

/-- The checks of `SimulationControlResult.__init__`. -/
def ResultFields.check (fields : ResultFields) : Except ControlValidationError Unit := do
  require (SkipsNothing fields.evidenceChain)
    ⟨.malformedCommand, py "control result evidence cannot skip a causal boundary"⟩
  require (fields.boundaryAccepted = fields.initialPosition.isSome)
    ⟨.stateUnavailable, py "boundary acceptance requires exactly one initial state value"⟩
  require (fields.feedbackObserved = fields.finalPosition.isSome ∧
      fields.feedbackObserved = fields.observedAtNs.isSome)
    ⟨.stateUnavailable, py "feedback evidence requires final state and observation time"⟩
  require (∀ observedAtNs ∈ fields.observedAtNs, fields.command.issuedAtNs ≤ observedAtNs)
    ⟨.stateUnavailable, py "feedback observation predates command issuance"⟩
  match fields.status with
  | .completed => fields.checkCompleted
  | .rejected => fields.checkRejected p float

/-- `SimulationControlResult`. -/
structure SimulationControlResult extends ResultFields where
  /-- It passed the checks. -/
  checked : toResultFields.check p float = .ok ()

/-- `SimulationControlResult(..)`. -/
def makeResult :
    ResultFields → Except ControlValidationError (SimulationControlResult p float) :=
  construct (ResultFields.check p float) fun fields h => ⟨fields, h⟩

variable {p float}

end Results

end Simulation
end AyyoHumanoid
