import AyyoHumanoid.RuntimeHandoff
import AyyoHumanoid.SimulationModels

/-!
# The gate from runtime decisions to motion commands

The control boundary turns a current eligible request for the reviewed endpoint
into a command, when its skill is classified as physical movement. No binding of
the skill manager leads to such a request: its skill would have to be of a class
that the safety policy never makes eligible.
-/

namespace AyyoHumanoid
namespace Simulation

open PyText JsonText PyCollections Skills
open AyyoHumanoid.Runtime (RuntimeDecision RuntimeEndpointRegistry RuntimeError RuntimeRequest
  carried_of_evaluate evaluate revalidate same_request same_status still_of_bind)
open World (IsCanonical)
open Executive (JsonDict)

section Boundary

/-- What `authorize` raises. -/
inductive RuntimeControlError where
  /-- `RuntimeControlRejectedError`. -/
  | rejected (code : ControlFailureCode) (message : PyStr)
  /-- `ControlValidationError` of a constructor. -/
  | invalid (error : ControlValidationError)
  /-- An exception of the Runtime Bridge. -/
  | bridge (error : RuntimeError)
  /-- `OverflowError` of a number that has no float. -/
  | overflow
  /-- A failed assertion. -/
  | assertion
  deriving DecidableEq

/-- `RUNTIME_CONTROL_CAPABILITY`. -/
def runtimeControlCapability : PyStr := py "simulation.joint.position.set"

/-- `RUNTIME_CONTROL_BACKEND`. -/
def runtimeControlBackend : PyStr := py "simulation.control.position.v1"

/-- `RUNTIME_CONTROL_PACKAGE`. -/
def runtimeControlPackage : PyStr := py "ayyo_interfaces"

/-- `RUNTIME_CONTROL_INTERFACE`. -/
def runtimeControlInterface : PyStr := py "ApplyRuntimeJointPosition"

/-- `RUNTIME_CONTROL_SERVICE`. -/
def runtimeControlService : PyStr :=
  py "/ayyo/simulation_control/apply_runtime_joint_position"

/-- `RUNTIME_CONTROL_REQUEST_FIELDS`. -/
def runtimeControlRequestFields : List PyStr :=
  [py "issued_at_ns", py "joint_name", py "position", py "valid_for_ns"]

/-- `fields[name]`. -/
def fieldOf (fields : JsonDict) (name : PyStr) : Option Json :=
  (fields.find? fun field => field.1 = name).map Prod.snd

/-- The runtime's `float(value)` of an integer, when there is one. -/
abbrev FloatOf : Type := Int → Option Rat

/-- `JointPositionTarget(joint_name, position)`. -/
def jointPositionTarget (floatOf : FloatOf) (jointName position : Json) :
    Except RuntimeControlError JointPositionTarget :=
  match jointName with
  | .str text =>
    if hcanonical : IsCanonical 256 text then
      match position with
      | .int value =>
        match floatOf value with
        | none => .error .overflow
        | some real => .ok ⟨⟨text, hcanonical⟩, real⟩
      | .float token => .ok ⟨⟨text, hcanonical⟩, token.exact⟩
      | _ => .error (.invalid ⟨.malformedCommand,
          py "joint position must be a finite real number"⟩)
    else .error (.invalid ⟨.malformedCommand,
      py "joint_name must be a bounded lowercase ASCII identifier"⟩)
  | _ => .error (.invalid ⟨.malformedCommand,
      py "joint_name must be a bounded lowercase ASCII identifier"⟩)

/-- `SimulationControlCommand(...)` of one target. -/
def simulationControlCommand (target : JointPositionTarget) (issuedAtNs expiresAtNs : Int)
    (authority : ControlAuthority) : Except RuntimeControlError SimulationControlCommand :=
  if 0 ≤ issuedAtNs then
    if hwindow : issuedAtNs.toNat < expiresAtNs.toNat ∧
        expiresAtNs.toNat - issuedAtNs.toNat ≤ maxCommandWindowNs then
      .ok { targets := [target]
            issuedAtNs := issuedAtNs.toNat
            expiresAtNs := expiresAtNs.toNat
            authority := authority
            targeted := List.cons_ne_nil _ _
            bounded := Nat.le_add_left 1 7
            ordered := List.pairwise_singleton _ _
            window := hwindow }
    else .error (.invalid ⟨.malformedCommand,
      py "command expiry must define a positive bounded simulation-time window"⟩)
  else .error (.invalid ⟨.malformedCommand,
    py "issued_at_ns must be a non-negative integer in simulation time"⟩)

variable {p : Platform}

/-- The identity chain of an authority for a runtime request. -/
def runtimeAuthority (decision : RuntimeDecision p) (request : RuntimeRequest p) :
    ControlAuthority where
  kind := .runtimeEligible
  sourceId := ⟨py "runtime.bridge", by decide⟩
  runtime := some {
    request := request.digest
    decision := decision.digest
    invocation := request.invocation.digest p
    endpointBinding := request.endpointBinding.digest p
    registry := request.runtimeRegistryDigest }
  chained := by simp

/-- The request is for the reviewed motion endpoint. -/
def ForMotion (request : RuntimeRequest p) : Prop :=
  request.endpointBinding.capabilityId.text = runtimeControlCapability ∧
    request.endpointBinding.endpoint.backendId.text = runtimeControlBackend ∧
    request.endpointBinding.endpoint.packageName.text = runtimeControlPackage ∧
    request.endpointBinding.endpoint.interfaceName.text = runtimeControlInterface ∧
    request.endpointBinding.endpoint.fullyQualifiedName = runtimeControlService

instance (request : RuntimeRequest p) : Decidable (ForMotion request) :=
  inferInstanceAs (Decidable (_ ∧ _))

/-- The command of a request for motion. -/
def translate (floatOf : FloatOf) (decision : RuntimeDecision p) (request : RuntimeRequest p) :
    Except RuntimeControlError SimulationControlCommand := do
  require (ForMotion request)
    (.rejected .runtimeEndpointMismatch
      (py "Runtime request does not match the reviewed control endpoint."))
  require (request.invocation.skillDefinition.safetyClassification.value = py "physical_movement")
    (.rejected .upstreamNotEligible
      (py "A movement adapter requires an explicit physical-movement classification."))
  let fields := request.requestFields
  require ((fields.map Prod.fst).toFinset = runtimeControlRequestFields.toFinset)
    (.rejected .runtimeEndpointMismatch
      (py "Runtime control request fields do not match the reviewed contract."))
  match fieldOf fields (py "issued_at_ns"), fieldOf fields (py "valid_for_ns") with
  | some (.int issuedAtNs), some (.int validForNs) =>
    let target ← jointPositionTarget floatOf ((fieldOf fields (py "joint_name")).getD .null)
      ((fieldOf fields (py "position")).getD .null)
    simulationControlCommand target issuedAtNs (issuedAtNs + validForNs)
      (runtimeAuthority decision request)
  | _, _ =>
    .error (.rejected .runtimeEndpointMismatch
      (py "Runtime control time fields must be integer simulation nanoseconds."))

/-- `RuntimeSimulationControlBoundary.authorize` of a boundary with a registry. -/
def authorize (floatOf : FloatOf) (registry : RuntimeEndpointRegistry p)
    (decision : RuntimeDecision p) (currentBinding : SkillBindingResult p) :
    Except RuntimeControlError SimulationControlCommand := do
  require (decision.status = .eligible)
    (.rejected .upstreamNotEligible
      (py "Runtime Bridge did not establish dispatch eligibility."))
  let revalidation ← (revalidate registry decision currentBinding).mapError .bridge
  let current := revalidation.decision decision
  require (current.same decision.toDecisionAttributes = true ∧ current.status = .eligible)
    (.rejected .staleRuntimeBinding
      (py "Runtime Bridge eligibility changed before control translation."))
  match decision.request with
  | none => .error .assertion
  | some request => translate floatOf decision request

end Boundary

section Closed

variable {p : Platform} {binding : SkillBindingResult p}

/-- Equal requests are for skills of the same class. -/
theorem classification_of_same {left right : RuntimeRequest p}
    (h : left.same right.toRequestAttributes = true) :
    left.invocation.skillDefinition.safetyClassification =
      right.invocation.skillDefinition.safetyClassification := by
  simp only [Runtime.RequestAttributes.same, InvocationContent.same, SkillContent.same,
    Bool.and_eq_true, decide_eq_true_eq] at h
  have hheader := h.1.1.1.1.1.2.1.1.1
  exact congrArg SkillHeader.safetyClassification hheader

/-- A decision that revalidation keeps was evaluated for an equal request of the binding. -/
theorem carried_of_revalidate {registry : RuntimeEndpointRegistry p}
    {decision : RuntimeDecision p} {revalidation : Runtime.Revalidation p}
    (h : revalidate registry decision binding = .ok revalidation)
    (heligible : (revalidation.decision decision).status = .eligible)
    {request : RuntimeRequest p} (hrequest : decision.request = some request) :
    ∃ invocation endpointBinding current,
      Runtime.Carried registry binding invocation endpointBinding current ∧
        current.same request.toRequestAttributes = true := by
  rw [revalidate, Checks.bind_ok] at h
  obtain ⟨current, hcurrent, h⟩ := h
  by_cases hsame : current.same decision.toDecisionAttributes = true
  · rw [if_pos hsame, Checks.pure_ok] at h
    subst h
    have hstatus : current.status = .eligible := (same_status hsame).trans heligible
    obtain ⟨invocation, endpointBinding, carried, hheld, hcarried⟩ :=
      carried_of_evaluate hcurrent hstatus
    obtain ⟨other, hother, hequal⟩ := same_request hsame hheld
    rw [hrequest, Option.some.injEq] at hother
    subst hother
    exact ⟨invocation, endpointBinding, carried, hcarried, hequal⟩
  · rw [if_neg hsame, Checks.bind_ok] at h
    obtain ⟨rebuilt, -, h⟩ := h
    rw [Checks.bind_ok] at h
    obtain ⟨stale, hbuild, h⟩ := h
    rw [Checks.pure_ok] at h
    subst h
    exact absurd heligible (Runtime.legible_of_build hbuild)

/-- The binding leads to no motion command and to no eligible request for moving. -/
def MotionClosed (binding : SkillBindingResult p) : Prop :=
  (∀ (floatOf : FloatOf) (registry : RuntimeEndpointRegistry p) (decision : RuntimeDecision p)
    (command : SimulationControlCommand), authorize floatOf registry decision binding ≠
      .ok command) ∧
  ∀ (registry : RuntimeEndpointRegistry p) (decision : RuntimeDecision p)
    (request : RuntimeRequest p), evaluate registry binding = .ok decision →
      decision.status = .eligible → decision.request = some request →
        request.invocation.skillDefinition.safetyClassification ≠ .physicalMovement

/-- No binding of the skill manager leads to motion, whatever the policy and the step. -/
theorem motion_closed {p : Platform} (policy : Safety.SafetyPolicy p) (skills : SkillRegistry p)
    (proposal : Executive.ExecutiveDecision) (decision : Safety.SafetyDecision)
    (selection : SkillSelection) (binding : SkillBindingResult p)
    (h : bind policy skills proposal decision selection = .ok binding) : MotionClosed binding := by
  have hstill : ∀ {registry : RuntimeEndpointRegistry p} {invocation : SkillInvocation p}
      {endpointBinding : Runtime.RuntimeEndpointBinding p} {request : RuntimeRequest p},
      Runtime.Carried registry binding invocation endpointBinding request →
        request.invocation.skillDefinition.safetyClassification ≠ .physicalMovement := by
    intro registry invocation endpointBinding request hcarried
    have hinvocation : request.invocation = invocation := by
      rw [hcarried.content]
      rfl
    rw [hinvocation]
    exact still_of_bind h hcarried.status hcarried.carries
  constructor
  · intro floatOf registry current command hauthorize
    rw [authorize, Checks.require_bind_ok, Checks.bind_ok] at hauthorize
    obtain ⟨-, revalidation, hrevalidate, hauthorize⟩ := hauthorize
    rw [Checks.mapError_ok] at hrevalidate
    dsimp only at hauthorize
    rw [Checks.require_bind_ok] at hauthorize
    obtain ⟨⟨-, heligible⟩, hauthorize⟩ := hauthorize
    split at hauthorize
    · cases hauthorize
    next request hrequest =>
    obtain ⟨invocation, endpointBinding, carried, hcarried, hequal⟩ :=
      carried_of_revalidate hrevalidate heligible hrequest
    rw [translate, Checks.require_bind_ok, Checks.require_bind_ok] at hauthorize
    obtain ⟨-, hclass, -⟩ := hauthorize
    have hother := hstill hcarried
    rw [classification_of_same hequal] at hother
    cases hclassified : request.invocation.skillDefinition.safetyClassification with
    | physicalMovement => exact hother hclassified
    | _ =>
      rw [hclassified] at hclass
      revert hclass
      decide
  · intro registry current request hevaluate heligible hrequest
    obtain ⟨invocation, endpointBinding, carried, hheld, hcarried⟩ :=
      carried_of_evaluate hevaluate heligible
    rw [hrequest, Option.some.injEq] at hheld
    subst hheld
    exact hstill hcarried

/-- A binding that is eligible leads to no motion. -/
theorem motion_closed_agenda : ∃ skills proposal decision selection binding,
    bind Runtime.agendaPolicy skills proposal decision selection = .ok binding ∧
      binding.status = .eligibleForRuntimeHandoff ∧ MotionClosed binding := by
  obtain ⟨skills, proposal, decision, selection, registry, binding, invocation, endpointBinding,
    hbind, hstatus, -⟩ := Runtime.agendaServed_parts Runtime.agendaServed_integer
  exact ⟨skills, proposal, decision, selection, binding, hbind, hstatus,
    motion_closed Runtime.agendaPolicy skills proposal decision selection binding hbind⟩

end Closed

end Simulation
end AyyoHumanoid
