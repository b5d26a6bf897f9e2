import AyyoHumanoid.RuntimeAgreement

/-!
# What an eligible decision hands on

An eligible decision of the bridge carries one request, which is made of the
invocation of the binding and of the endpoint that the registry has for it. The
step behind the invocation was evaluated as eligible, so its skill neither moves
the robot nor acts outside it.
-/

namespace AyyoHumanoid
namespace Runtime

open PyText JsonText PyCollections Contracts Skills
open World (Name Digest)

variable {p : Platform} {registry : RuntimeEndpointRegistry p} {binding : SkillBindingResult p}

section Requests

/-- A request made of the invocation of a binding and of the endpoint that serves it. -/
structure Carried (registry : RuntimeEndpointRegistry p) (binding : SkillBindingResult p)
    (invocation : SkillInvocation p) (endpointBinding : RuntimeEndpointBinding p)
    (request : RuntimeRequest p) : Prop where
  status : binding.status = .eligibleForRuntimeHandoff
  carries : binding.invocation = some invocation
  /-- The registry has the available endpoint. -/
  exact : Exact registry invocation endpointBinding
  /-- The request has these parts. -/
  content : request.toRequestAttributes = RequestContent.attributes
    ⟨invocation, endpointBinding, registry.version, registry.digest⟩
  conforms : Conforms endpointBinding.endpoint.requestSchema.schema (.obj invocation.parameters)

/-- A decision without a request is no eligible one. -/
theorem legible_of_build {status : RuntimeEligibility} {reasons : List RuntimeReason}
    {digest : Digest} {decision : RuntimeDecision p}
    (h : DecisionContent.build ⟨status, reasons, binding, digest, none⟩ = .ok decision) :
    decision.status ≠ .eligible := by
  obtain ⟨hattributes, haccepted⟩ := DecisionContent.build_ok h
  intro hstatus
  have hsame : status = .eligible := by
    rw [← hstatus, hattributes]
    rfl
  have hcarries := haccepted.carries
  rw [DecisionContent.Carries, if_pos hsame] at hcarries
  have hsome := hcarries.1
  cases hsome

/-- The parts of a request that the bridge forms. -/
theorem content_of_bindRuntimeRequest {invocation : SkillInvocation p}
    {endpointBinding : RuntimeEndpointBinding p} {request : RuntimeRequest p}
    (hresolve : registry.resolveInvocation invocation = some endpointBinding)
    (h : bindRuntimeRequest invocation registry = .ok request) :
    request.toRequestAttributes = RequestContent.attributes
        ⟨invocation, endpointBinding, registry.version, registry.digest⟩ ∧
      Conforms endpointBinding.endpoint.requestSchema.schema (.obj invocation.parameters) := by
  rw [bindRuntimeRequest, rebuildInvocation_self, Checks.ok_bind, rebuildRegistry_self,
    Checks.ok_bind, hresolve] at h
  dsimp only at h
  rw [Checks.require_bind_ok] at h
  obtain ⟨hattributes, haccepted⟩ := RequestContent.build_ok h.2
  exact ⟨hattributes, validated_iff.mp haccepted.validated⟩

/-- An eligible decision carries a request that the registry serves. -/
theorem carried_of_evaluate {decision : RuntimeDecision p}
    (h : evaluate registry binding = .ok decision) (heligible : decision.status = .eligible) :
    ∃ invocation endpointBinding request, decision.request = some request ∧
      Carried registry binding invocation endpointBinding request := by
  rw [evaluate, rebuildBindingResult_self, Checks.ok_bind, rebuildRegistry_self,
    Checks.ok_bind] at h
  split at h
  · exact absurd heligible (legible_of_build h)
  · exact absurd heligible (legible_of_build h)
  next hstatus =>
  split at h
  · cases h
  next invocation hinvocation =>
  rw [evaluateInvocation] at h
  split at h
  · exact absurd heligible (legible_of_build h)
  next endpointBinding hresolve =>
  obtain ⟨hregistered, hnamed⟩ := RuntimeEndpointRegistry.resolveInvocation_iff.mp hresolve
  by_cases hdigest : endpointBinding.skillDefinition.digest p = invocation.selection.skillDigest
  · rw [if_neg (not_not_intro hdigest)] at h
    by_cases havailable : endpointBinding.endpoint.availability = .available
    · rw [if_neg (not_not_intro havailable), Checks.bind_ok] at h
      obtain ⟨request, hrequest, hbuild⟩ := h
      obtain ⟨hcontent, hconforms⟩ := content_of_bindRuntimeRequest hresolve hrequest
      have hcarried : decision.request = some request := by
        rw [(DecisionContent.build_ok hbuild).1]
        rfl
      exact ⟨invocation, endpointBinding, request, hcarried,
        { status := hstatus
          carries := hinvocation
          exact := ⟨hregistered, hnamed, hdigest, havailable⟩
          content := hcontent
          conforms := hconforms }⟩
    · rw [if_pos havailable] at h
      exact absurd heligible (legible_of_build h)
  · rw [if_pos hdigest] at h
    exact absurd heligible (legible_of_build h)

/-- Equal decisions carry equal requests. -/
theorem same_request {left right : DecisionAttributes p} (h : left.same right = true)
    {request : RuntimeRequest p} (hrequest : left.request = some request) :
    ∃ other, right.request = some other ∧
      request.same other.toRequestAttributes = true := by
  rw [DecisionAttributes.same, Bool.and_eq_true, Bool.and_eq_true] at h
  obtain ⟨⟨-, h⟩, -⟩ := h
  rw [hrequest] at h
  cases hright : right.request with
  | none =>
    rw [hright] at h
    cases h
  | some other =>
    rw [hright] at h
    exact ⟨other, rfl, h⟩

/-- Equal decisions have equal status. -/
theorem same_status {left right : DecisionAttributes p} (h : left.same right = true) :
    left.status = right.status := by
  rw [DecisionAttributes.same, Bool.and_eq_true, Bool.and_eq_true, decide_eq_true_eq] at h
  exact congrArg DecisionHeader.status h.1.1

/-- A decision equals itself. -/
theorem DecisionAttributes.same_self (decision : DecisionAttributes p) :
    decision.same decision = true := by
  have hrequest : DecisionAttributes.sameRequest decision.request decision.request = true := by
    cases decision.request with
    | none => rfl
    | some request => exact RequestAttributes.same_self _
  rw [DecisionAttributes.same, hrequest]
  simp

/-- The registry has one exact endpoint at most. -/
theorem Exact.unique {invocation : SkillInvocation p} {left right : RuntimeEndpointBinding p}
    (hleft : Exact registry invocation left) (hright : Exact registry invocation right) :
    left = right := by
  have hresolve := RuntimeEndpointRegistry.resolveInvocation_iff.mpr
    ⟨hleft.registered, hleft.named⟩
  rw [RuntimeEndpointRegistry.resolveInvocation_iff.mpr ⟨hright.registered, hright.named⟩]
    at hresolve
  exact (Option.some.inj hresolve).symm

end Requests

section Hazards

variable {policy : Safety.SafetyPolicy p} {skills : SkillRegistry p}
  {proposal : Executive.ExecutiveDecision} {decision : Safety.SafetyDecision}
  {selection : SkillSelection} {invocation : SkillInvocation p}

/-- A binding that is eligible was made from an eligible safety decision. -/
theorem eligible_of_bound {step : Executive.PlanStep} {safetyStep : Safety.SafetyStepDecision}
    (hbound : Bound policy skills proposal decision selection binding invocation step safetyStep)
    (hstatus : binding.status = .eligibleForRuntimeHandoff) :
    decision.disposition = .eligibleForDownstream := by
  have happroval : decision.disposition ≠ .externalApprovalRequired := by
    intro happroval
    have hother := hbound.status
    rw [if_pos happroval, hstatus] at hother
    cases hother
  have hpermitted := hbound.permitted
  cases hdisposition : decision.disposition with
  | eligibleForDownstream => rfl
  | externalApprovalRequired => exact absurd hdisposition happroval
  | deferred => exact absurd hdisposition hpermitted.2
  | blocked => exact absurd hdisposition hpermitted.1

/-- The step of an eligible safety decision is of a class that neither moves nor acts. -/
theorem hazard_of_eligible (hevaluated : Safety.evaluate policy proposal = .ok decision)
    (heligible : decision.disposition = .eligibleForDownstream)
    {safetyStep : Safety.SafetyStepDecision} (hmem : safetyStep ∈ decision.stepDecisions) :
    safetyStep.hazardClass = .informationalReadOnly ∨
      safetyStep.hazardClass = .internalNonActuating := by
  obtain ⟨parts, hparts⟩ := Safety.evaluated hevaluated
  obtain ⟨s, index, -, hverdict⟩ := hparts.exists_snapshot hmem
  have hminimum : safetyStep.hazardClass.minimumDisposition ≤ safetyStep.disposition := by
    rw [hverdict.hazardClass]
    exact hverdict.greatest.2 .hazard
  have hgreatest : safetyStep.disposition ≤ decision.disposition :=
    hparts.greatest.2 ⟨safetyStep, hmem, rfl⟩
  rw [heligible] at hgreatest
  rw [← Safety.minimumDisposition_eq_eligible]
  exact le_antisymm (hminimum.trans hgreatest) (Safety.SafetyDisposition.eligible_le _)

/-- The skill of an eligible binding of the skill manager does not move the robot. -/
theorem still_of_bind (h : bind policy skills proposal decision selection = .ok binding)
    (hstatus : binding.status = .eligibleForRuntimeHandoff)
    (hinvocation : binding.invocation = some invocation) :
    invocation.skillDefinition.safetyClassification ≠ .physicalMovement := by
  rcases bind_ok h with hrefused | ⟨other, step, safetyStep, hbound⟩
  · have hother := hrefused.status
    rw [hstatus] at hother
    cases hother
  · have hsame : other = invocation := by
      have hcarried := hbound.carried
      rw [hinvocation] at hcarried
      exact (Option.some.inj hcarried).symm
    rw [hsame] at hbound
    have heligible := eligible_of_bound hbound hstatus
    rw [← hbound.agrees.hazard]
    rcases hazard_of_eligible hbound.evaluated heligible hbound.safetyStep_mem with hclass | hclass
    · rw [hclass]
      decide
    · rw [hclass]
      decide

end Hazards

end Runtime
end AyyoHumanoid
