import AyyoHumanoid.RuntimeDispatch
import AyyoHumanoid.SkillConformance
import AyyoHumanoid.WorldIdentities

/-!
# What a dispatched request rests on

A request that reaches the transport was formed for a binding of the skill
manager: the step behind it is eligible under the policy, its skill is available
and agrees with it, and its parameters are the arguments of the step. Requests
are compared by their digests, so this rests on digests that do not collide.
-/

namespace AyyoHumanoid
namespace Runtime

open PyText JsonText Json Contracts Skills Interaction
open Executive (ContextReference)
open Safety (SafetyApprovalRequirement)
open World (CollisionFree)

variable {p : Platform}

section Documents

/-- The document of a context reference is printable. -/
theorem dumpable_contextReference (reference : ContextReference) :
    reference.document.dumpable = true := by
  have htexts : ∀ texts : List PyStr, (Executive.textItems texts).dumpable = true :=
    fun texts => World.dumpable_map (fun _ => rfl) texts
  refine dumpable_obj.mpr ⟨?_, ?_⟩
  · simp only [List.map_cons, List.map_nil]
    decide
  · simp [htexts]

/-- The document of an approval is printable. -/
theorem dumpable_approval (approval : SafetyApprovalRequirement) :
    approval.document.dumpable = true := by
  refine dumpable_obj.mpr ⟨?_, by simp⟩
  simp only [List.map_cons, List.map_nil]
  decide

/-- The document of a resource is printable. -/
theorem dumpable_resource (requirement : ResourceRequirement) :
    requirement.document.dumpable = true := by
  refine dumpable_obj.mpr ⟨?_, by simp⟩
  simp only [List.map_cons, List.map_nil]
  decide

/-- The document of a request is printable when its fields are. -/
theorem dumpable_request {request : RequestAttributes p}
    (h : (Json.obj request.requestFields).dumpable = true) : request.document.dumpable = true := by
  have hcontext := World.dumpable_map dumpable_contextReference
    request.invocation.contextReferences
  have happrovals := World.dumpable_map dumpable_approval request.invocation.requiredApprovals
  have hresources := World.dumpable_map dumpable_resource
    request.invocation.skillDefinition.requiredResources
  refine dumpable_obj.mpr ⟨?_, ?_⟩
  · simp only [List.map_cons, List.map_nil]
    decide
  · simp only [List.forall_mem_cons, dumpable_str, hcontext, happrovals, hresources, h,
      List.not_mem_nil, false_implies, implies_true, and_self]

/-- Requests with one digest have fields with one text. -/
theorem fields_of_digest {left right : RequestAttributes p}
    (hleft : (Json.obj left.requestFields).dumpable = true)
    (hright : (Json.obj right.requestFields).dumpable = true)
    (hfree : CollisionFree p [encode left.document, encode right.document])
    (h : left.digest = right.digest) :
    encode (.obj left.requestFields) = encode (.obj right.requestFields) := by
  have htext : encode left.document = encode right.document :=
    hfree.text_eq (by simp) (by simp) h
  exact encode_field (dumpable_request hleft) (dumpable_request hright) htext (py "request_fields")
    (by simp) (by simp)

end Documents

section Deliveries

variable {policy : Safety.SafetyPolicy p} {skills : SkillRegistry p}
  {proposal : Executive.ExecutiveDecision} {safety : Safety.SafetyDecision}
  {selection : SkillSelection} {registry : RuntimeEndpointRegistry p}
  {binding : SkillBindingResult p} {decision : RuntimeDecision p}

/-- What a request that is handed to the transport rests on. -/
structure Delivered (policy : Safety.SafetyPolicy p) (skills : SkillRegistry p)
    (proposal : Executive.ExecutiveDecision) (selection : SkillSelection)
    (registry : RuntimeEndpointRegistry p) (request : RuntimeRequest p)
    (safety : Safety.SafetyDecision) (skill : SkillDefinition) (step : Executive.PlanStep)
    (safetyStep : Safety.SafetyStepDecision) (endpointBinding : RuntimeEndpointBinding p) :
    Prop where
  /-- The proposal is evaluated anew. -/
  evaluated : Safety.evaluate policy proposal = .ok safety
  eligible : safety.disposition = .eligibleForDownstream
  /-- It needs no approval. -/
  unapproved : safety.requiredApprovals = []
  registered : skills.resolve selection.skillId = some skill
  /-- The step is one of the proposal. -/
  step_mem : ∃ plan, proposal.proposedPlan = some plan ∧ step ∈ plan.steps
  safetyStep_mem : safetyStep ∈ safety.stepDecisions
  /-- The skill is available and agrees with the step in capability, class, result and context. -/
  agrees : StepMatches skill selection step safetyStep
  arguments : ∃ arguments, step.parameters = .ok arguments ∧
    encode (.obj request.requestFields) = encode (.obj arguments)
  /-- The parameters conform to the input schema of the skill. -/
  input : Conforms skill.inputSchema.schema (.obj request.requestFields)
  /-- The parameters conform to the request schema of the endpoint. -/
  requested : Conforms endpointBinding.endpoint.requestSchema.schema (.obj request.requestFields)
  /-- The endpoint is registered. -/
  served : endpointBinding ∈ registry.bindings
  available : endpointBinding.endpoint.availability = .available
  /-- The request records the fingerprints of the registry and of its endpoint. -/
  recorded : request.runtimeRegistryDigest = registry.digest ∧
    request.endpointBinding.digest p = endpointBinding.digest p ∧
    request.endpointBinding.endpoint.digest p = endpointBinding.endpoint.digest p

/-- The arguments of the bound step and the fields of the request are dictionaries with distinct
keys, as Python's are. -/
structure Dictionaries (binding : SkillBindingResult p) (decision : RuntimeDecision p) : Prop where
  /-- The arguments of the step. -/
  arguments : ∀ invocation ∈ binding.invocation, (Json.obj invocation.parameters).dumpable = true
  request : ∀ request ∈ decision.request, (Json.obj request.requestFields).dumpable = true

/-- The documents of the request that is handed over and of the one that is formed anew have
different digests unless they are the same text. -/
def DigestsApart (registry : RuntimeEndpointRegistry p) (binding : SkillBindingResult p)
    (decision : RuntimeDecision p) : Prop :=
  ∀ current, evaluate registry binding = .ok current → ∀ formed ∈ current.request,
    ∀ request ∈ decision.request, CollisionFree p [encode formed.document, encode request.document]

/-- A safety decision that is eligible needs no approval. -/
theorem unapproved_of_bound {invocation : SkillInvocation p} {step : Executive.PlanStep}
    {safetyStep : Safety.SafetyStepDecision}
    (hbound : Bound policy skills proposal safety selection binding invocation step safetyStep)
    (hstatus : binding.status = .eligibleForRuntimeHandoff) : safety.requiredApprovals = [] := by
  obtain ⟨other, hother, heligible⟩ := (binding_shape binding).2.2 hstatus
  rw [hbound.carried, Option.some.injEq] at hother
  subst hother
  obtain ⟨references, -, -, -, -, happrovals, -⟩ := InvocationContent.init_ok invocation.init_self
  simp only [InvocationContent.checkApprovals, Checks.require_bind_ok] at happrovals
  by_contra hsome
  rw [← hbound.approvals] at hsome
  exact happrovals.2.1 ⟨heligible, hsome⟩

/-- Equal requests record the same fingerprints. -/
theorem recorded_of_same {left right : RuntimeRequest p}
    (h : left.same right.toRequestAttributes = true) :
    left.digest = right.digest ∧ left.runtimeRegistryDigest = right.runtimeRegistryDigest ∧
      left.endpointBinding.digest p = right.endpointBinding.digest p ∧
      left.endpointBinding.endpoint.digest p = right.endpointBinding.endpoint.digest p := by
  simp only [RequestAttributes.same, EndpointBindingContent.same, EndpointContent.same,
    Bool.and_eq_true, decide_eq_true_eq] at h
  exact ⟨h.2, h.1.2, h.1.1.1.2.2, h.1.1.1.2.1.2.2⟩

/-- A request that the dispatcher hands over for a binding of the skill manager is delivered. -/
theorem delivered_of_calling (h : bind policy skills proposal safety selection = .ok binding)
    {request : RuntimeRequest p} {current : RuntimeDecision p}
    (hcalling : Calling registry binding decision request current)
    (hdictionaries : Dictionaries binding decision)
    (hfree : DigestsApart registry binding decision) :
    ∃ skill step safetyStep endpointBinding, Delivered policy skills proposal selection registry
      request safety skill step safetyStep endpointBinding := by
  have heligible : current.status = .eligible :=
    (same_status hcalling.same).trans hcalling.eligible
  obtain ⟨invocation, endpointBinding, formed, hformed, hcarried⟩ :=
    carried_of_evaluate hcalling.evaluated heligible
  obtain ⟨other, hother, hsame⟩ := same_request hcalling.same hformed
  rw [hcalling.request, Option.some.injEq] at hother
  subst hother
  obtain ⟨hdigest, hregistry, hbindings, hendpoints⟩ := recorded_of_same hsame
  have hfields : formed.requestFields = invocation.parameters := by
    rw [hcarried.content]
    rfl
  rcases bind_ok h with hrefused | ⟨bound, step, safetyStep, hbound⟩
  · have hstatus := hrefused.status
    rw [hcarried.status] at hstatus
    cases hstatus
  · have hinvocation : bound = invocation := by
      have hbinding := hbound.carried
      rw [hcarried.carries] at hbinding
      exact (Option.some.inj hbinding).symm
    rw [hinvocation] at hbound
    have harguments : (Json.obj formed.requestFields).dumpable = true := by
      rw [hfields]
      exact hdictionaries.arguments invocation hcarried.carries
    have hheld := hdictionaries.request request hcalling.request
    have htext : encode (.obj invocation.parameters) = encode (.obj request.requestFields) := by
      rw [← hfields]
      exact fields_of_digest harguments hheld
        (hfree current hcalling.evaluated formed hformed request hcalling.request) hdigest
    rw [hfields] at harguments
    exact ⟨invocation.skillDefinition, step, safetyStep, endpointBinding,
      { evaluated := hbound.evaluated
        eligible := eligible_of_bound hbound hcarried.status
        unapproved := unapproved_of_bound hbound hcarried.status
        registered := hbound.registered
        step_mem := hbound.step_mem
        safetyStep_mem := hbound.safetyStep_mem
        agrees := hbound.agrees
        arguments := ⟨invocation.parameters, hbound.parameters, htext.symm⟩
        input := hbound.conforms.of_encode harguments hheld htext
        requested := hcarried.conforms.of_encode harguments hheld htext
        served := hcarried.exact.registered
        available := hcarried.exact.available
        recorded := by
          have hcontent := congrArg RequestAttributes.toRequestContent hcarried.content
          rw [← hregistry, ← hbindings, ← hendpoints, hcontent]
          exact ⟨rfl, rfl, rfl⟩ }⟩

/-- The call hands a request to the transport. -/
def isDispatch (event : TransportEvent p) : Bool :=
  match event.call with
  | .dispatch _ => true
  | .availability _ => false

/-- What a dispatch of a decision on a binding comes to is sound. -/
structure DispatchSound (policy : Safety.SafetyPolicy p) (skills : SkillRegistry p)
    (proposal : Executive.ExecutiveDecision) (selection : SkillSelection)
    (registry : RuntimeEndpointRegistry p) (decision : RuntimeDecision p) (transportId : PyStr)
    (events : List (TransportEvent p)) (outcome : Except DispatchError RuntimeDispatchResult) :
    Prop where
  /-- What is handed to the transport is delivered. -/
  delivered : ∀ event ∈ events, ∀ request, event.call = .dispatch request →
    ∃ safety skill step safetyStep endpointBinding, Delivered policy skills proposal selection
      registry request safety skill step safetyStep endpointBinding
  /-- At most one request is handed over. -/
  once : (events.filter isDispatch).length ≤ 1
  /-- A result is accepted only on an accepted receipt for the request that was handed over. -/
  accepted : ∀ result, outcome = .ok result → result.status = .acceptedByTransport →
    ∃ (request : RuntimeRequest p) (receipt : TransportReceipt),
      ⟨.dispatch request, Reply.returned receipt⟩ ∈ events ∧ decision.request = some request ∧
        AcceptedBy request transportId result receipt

/-- Every dispatch of a decision on a binding of the skill manager is sound. -/
theorem dispatch_sound {p : Platform} (policy : Safety.SafetyPolicy p) (skills : SkillRegistry p)
    (proposal : Executive.ExecutiveDecision) (safety : Safety.SafetyDecision)
    (selection : SkillSelection) (registry : RuntimeEndpointRegistry p)
    (binding : SkillBindingResult p) (decision : RuntimeDecision p) (transportId : PyStr)
    (events : List (TransportEvent p)) (outcome : Except DispatchError RuntimeDispatchResult)
    (hbind : bind policy skills proposal safety selection = .ok binding)
    (hdictionaries : Dictionaries binding decision)
    (hfree : DigestsApart registry binding decision)
    (hrun : Runs (dispatch registry decision binding transportId) events outcome) :
    DispatchSound policy skills proposal selection registry decision transportId events
      outcome := by
  rcases runs_dispatch hrun with hended | ⟨request, current, name, hcalling, rfl, hcalls⟩
  · rw [hended.1]
    exact ⟨fun event hevent => absurd hevent List.not_mem_nil, Nat.zero_le 1,
      fun result hresult hstatus => absurd hstatus (hended.2 result hresult)⟩
  have hdelivered := delivered_of_calling hbind hcalling hdictionaries hfree
  rcases runs_askAvailability hcalls with ⟨reply, hturned⟩ | ⟨rest, reply, rfl, hhanded⟩
  · rw [hturned.events]
    refine ⟨fun event hevent other hother => ?_, Nat.zero_le 1,
      fun result hresult hstatus => absurd hstatus (hturned.accepted result hresult)⟩
    rw [List.mem_singleton] at hevent
    subst hevent
    cases hother
  · rw [hhanded.events]
    refine ⟨fun event hevent other hother => ?_, le_rfl, fun result hresult hstatus => ?_⟩
    · rw [List.mem_cons, List.mem_singleton] at hevent
      rcases hevent with rfl | rfl
      · cases hother
      · cases hother
        exact ⟨safety, hdelivered⟩
    · obtain ⟨receipt, hreceipt, haccepted⟩ := hhanded.accepted result hresult hstatus
      refine ⟨request, receipt, ?_, hcalling.request, haccepted⟩
      rw [hreceipt]
      exact List.mem_cons_of_mem _ (List.mem_singleton_self _)

/-- A dispatch whose transport fails is sound. -/
theorem dispatch_sound_agenda : ∃ skills proposal safety selection registry binding decision events
    outcome, bind agendaPolicy skills proposal safety selection = .ok binding ∧
      Runs (dispatch registry decision binding agendaTransport.text) events outcome ∧
      events.any isDispatch = true ∧
      DispatchSound agendaPolicy skills proposal selection registry decision agendaTransport.text
        events outcome := by
  obtain ⟨skills, proposal, safety, selection, registry, binding, current, request, hbind,
    hcalling, hparameters⟩ := agenda_calling
  obtain ⟨outcome, hrun, -⟩ := runs_failing hcalling (py "timeout")
  obtain ⟨invocation, endpointBinding, formed, hformed, hcarried⟩ :=
    carried_of_evaluate hcalling.evaluated hcalling.eligible
  have hdictionaries : Dictionaries binding current := by
    refine ⟨fun other hother => ?_, fun other hother => ?_⟩
    · rw [hparameters other hother]
      decide
    · rw [hformed, Option.mem_def, Option.some.injEq] at hother
      subst hother
      have hfields : formed.requestFields = invocation.parameters := by
        rw [hcarried.content]
        rfl
      rw [hfields, hparameters invocation hcarried.carries]
      decide
  have hfree : DigestsApart registry binding current := by
    intro evaluated hevaluated left hleft right hright
    rw [hcalling.evaluated, Except.ok.injEq] at hevaluated
    subst hevaluated
    rw [hleft, Option.mem_def, Option.some.injEq] at hright
    subst hright
    intro a ha b hb _
    simp only [List.mem_cons, List.not_mem_nil, or_false, or_self] at ha hb
    rw [ha, hb]
  exact ⟨skills, proposal, safety, selection, registry, binding, current, _, outcome, hbind, hrun,
    rfl, dispatch_sound agendaPolicy skills proposal safety selection registry binding current
      agendaTransport.text _ outcome hbind hdictionaries hfree hrun⟩

end Deliveries

end Runtime
end AyyoHumanoid
