import AyyoHumanoid.PlatformDigests
import AyyoHumanoid.RuntimeDecisions
import AyyoHumanoid.SafetyRevalidation

/-!
# What the bridge decides about a binding

The bridge decides every binding of the skill manager, unless it has an endpoint
for the binding and the parameters do not conform to the request schema of the
endpoint or the request would be too long. Its decision is eligible exactly when
the registry has an available endpoint for what was bound, and is otherwise the
most restrictive one that the binding or the registry justifies.
-/

namespace AyyoHumanoid
namespace Runtime

open PyText JsonText PyCollections Contracts Skills
open World (Name Digest)

section Purpose

variable {p : Platform}

/-- The endpoint binding names the skill, version, capability and backend of an invocation. -/
def Named (binding : RuntimeEndpointBinding p) (invocation : SkillInvocation p) : Prop :=
  binding.skillDefinition.skillId = invocation.selection.skillId ∧
    binding.skillDefinition.version = invocation.selection.skillVersion ∧
    binding.capabilityId = invocation.selection.capabilityId ∧
    binding.endpoint.backendId = invocation.skillDefinition.backendId

/-- The registry has an available endpoint for exactly the skill that was bound. -/
structure Exact (registry : RuntimeEndpointRegistry p) (invocation : SkillInvocation p)
    (binding : RuntimeEndpointBinding p) : Prop where
  /-- The endpoint binding is registered. -/
  registered : binding ∈ registry.bindings
  /-- It names what was bound. -/
  named : Named binding invocation
  /-- It has the fingerprint of the skill that was bound. -/
  fingerprint : binding.skillDefinition.digest p = invocation.selection.skillDigest
  available : binding.endpoint.availability = .available

/-- The most restrictive status that one reason of a binding justifies. -/
def restriction : BindingReason → RuntimeEligibility
  | .safetyBlocked => .blocked
  | .safetyDeferred => .deferred
  | .safetyDecisionStale | .registrySelectionStale => .stale
  | .skillUnavailable => .unavailable
  | .safetyApprovalRequired => .approvalRequired
  | .capabilityIncompatible | .parametersIncompatible | .contextIncompatible
  | .expectedResultIncompatible | .safetyClassificationIncompatible
  | .approvalRequirementsIncompatible => .rejected

/-- The status is the most restrictive one that the reasons justify. -/
def MostRestrictive (reasons : List BindingReason) (status : RuntimeEligibility) : Prop :=
  (∃ reason ∈ reasons, restriction reason = status) ∧
    ∀ reason ∈ reasons, (restriction reason).rank ≤ status.rank

/-- A decision is the right one for a binding under a registry. -/
structure Decides (registry : RuntimeEndpointRegistry p) (binding : SkillBindingResult p)
    (decision : RuntimeDecision p) : Prop where
  /-- The decision is eligible exactly when the binding is and the registry serves it. -/
  eligible : decision.status = .eligible ↔ binding.status = .eligibleForRuntimeHandoff ∧
    ∃ invocation ∈ binding.invocation, ∃ endpointBinding, Exact registry invocation endpointBinding
  /-- An eligible decision carries a request, and no other does. -/
  request : decision.status = .eligible ↔ decision.request.isSome = true
  /-- The reasons of the binding give the most restrictive status. -/
  restricted : binding.status ≠ .eligibleForRuntimeHandoff →
    MostRestrictive binding.reasons decision.status
  /-- Without a named endpoint the decision rejects. -/
  unregistered : binding.status = .eligibleForRuntimeHandoff → ∀ invocation ∈ binding.invocation,
    (∀ endpointBinding ∈ registry.bindings, ¬Named endpointBinding invocation) →
      decision.status = .rejected
  /-- An endpoint for another fingerprint makes the decision stale. -/
  changed : binding.status = .eligibleForRuntimeHandoff → ∀ invocation ∈ binding.invocation,
    ∀ endpointBinding ∈ registry.bindings, Named endpointBinding invocation →
      endpointBinding.skillDefinition.digest p ≠ invocation.selection.skillDigest →
        decision.status = .stale
  /-- An endpoint that is not available makes the decision unavailable. -/
  unavailable : binding.status = .eligibleForRuntimeHandoff → ∀ invocation ∈ binding.invocation,
    ∀ endpointBinding ∈ registry.bindings, Named endpointBinding invocation →
      endpointBinding.skillDefinition.digest p = invocation.selection.skillDigest →
        endpointBinding.endpoint.availability ≠ .available → decision.status = .unavailable

/-- Revalidation keeps exactly the prior decisions that equal the current one, and replaces every
other by a stale decision. -/
def Revalidates (registry : RuntimeEndpointRegistry p) (binding : SkillBindingResult p)
    (current : RuntimeDecision p) : Prop :=
  ∀ prior : RuntimeDecision p,
    (revalidate registry prior binding = .ok .unchanged ↔
      current.same prior.toDecisionAttributes = true) ∧
    (current.same prior.toDecisionAttributes ≠ true → ∃ stale,
      revalidate registry prior binding = .ok (.replaced stale) ∧ stale.status = .stale)

variable (p)

/-- Every contract that the constructors return is rebuilt unchanged. -/
structure RebuildsAll : Prop where
  /-- `rebuild_schema_contract`, within the limits of a contract. -/
  schema : ∀ (source : ContractSchema) (fieldName : PyStr),
    validateSchemaGraph source.schema = .ok () →
      rebuildSchemaContract source fieldName = .ok source
  /-- `rebuild_skill_definition`. -/
  skill : ∀ skill : SkillDefinition, rebuildSkillDefinition p skill = .ok skill
  /-- `rebuild_ros_service_endpoint`. -/
  endpoint : ∀ endpoint : RosServiceEndpoint, rebuildEndpoint p endpoint = .ok endpoint
  /-- `rebuild_invocation`. -/
  invocation : ∀ invocation : SkillInvocation p, rebuildInvocation invocation = .ok invocation
  /-- `rebuild_registry`. -/
  registry : ∀ registry : RuntimeEndpointRegistry p, rebuildRegistry registry = .ok registry
  /-- `rebuild_binding_result`. -/
  binding : ∀ binding : SkillBindingResult p, rebuildBindingResult binding = .ok binding

variable {p}

/-- The characters of the request that an invocation forms for an endpoint binding. -/
def requestCharacters (registry : RuntimeEndpointRegistry p) (invocation : SkillInvocation p)
    (binding : RuntimeEndpointBinding p) : Nat :=
  (RequestContent.mk invocation binding registry.version
    registry.digest).attributes.document.characters

/-- Where the registry serves an eligible binding, the parameters conform to the request schema of
the endpoint and the request has few enough characters. -/
def Requestable (registry : RuntimeEndpointRegistry p) (binding : SkillBindingResult p) : Prop :=
  binding.status = .eligibleForRuntimeHandoff → ∀ invocation ∈ binding.invocation,
    ∀ endpointBinding, Exact registry invocation endpointBinding →
      Conforms endpointBinding.endpoint.requestSchema.schema (.obj invocation.parameters) ∧
        requestCharacters registry invocation endpointBinding ≤ maxJsonCharacters

end Purpose

section Registries

variable {p : Platform} {registry : RuntimeEndpointRegistry p} {invocation : SkillInvocation p}
  {endpointBinding : RuntimeEndpointBinding p}

/-- The keys of the registered endpoint bindings are distinct. -/
theorem RuntimeEndpointRegistry.keys_nodup (registry : RuntimeEndpointRegistry p) :
    (registry.bindings.map fun binding => binding.key).Nodup := by
  obtain ⟨arguments, h⟩ := registry.constructed
  rw [RuntimeRegistryContent.init, Checks.require_bind_ok, Checks.bind_ok] at h
  obtain ⟨-, bindings, hbindings, h⟩ := h
  rw [Checks.require_bind_ok, Checks.require_bind_ok, Checks.unit_bind_ok, Checks.pure_ok] at h
  obtain ⟨-, -, -, h⟩ := h
  rw [← h]
  exact ((orderedUnique_perm hbindings).map _).nodup_iff.mpr (orderedUnique_ok.mp hbindings).1

/-- Texts of names determine the names. -/
theorem name_ext {left right : Name} (h : left.text = right.text) : left = right := by
  cases left
  cases right
  cases h
  rfl

/-- Values of versions determine the versions. -/
theorem version_ext {left right : SemanticVersion} (h : left.value = right.value) :
    left = right := by
  cases left
  cases right
  cases h
  rfl

/-- A registry resolves an invocation to the registered endpoint binding that names what it
selected. -/
theorem RuntimeEndpointRegistry.resolveInvocation_iff :
    registry.resolveInvocation invocation = some endpointBinding ↔
      endpointBinding ∈ registry.bindings ∧ Named endpointBinding invocation := by
  constructor
  · intro h
    exact registry.resolve_some h
  · rintro ⟨hmem, hnamed⟩
    rw [resolveInvocation, resolve]
    have hfound := @find_of_nodup _ _ _ (fun binding : RuntimeEndpointBinding p => binding.key) _
      registry.keys_nodup _ hmem
    rw [← hfound]
    refine congrArg (fun test => registry.bindings.find? test) (funext fun binding => ?_)
    obtain ⟨hskill, hversion, hcapability, hbackend⟩ := hnamed
    rw [← hskill, ← hversion, ← hcapability, ← hbackend]
    refine decide_eq_decide.mpr ⟨?_, fun h => ?_⟩
    · rintro ⟨h1, h2, h3, h4⟩
      simp only [EndpointBindingContent.key, h1, h2, h3, h4]
    · simp only [EndpointBindingContent.key, toLex_inj, Prod.mk.injEq] at h
      exact ⟨name_ext h.1, version_ext h.2.1, name_ext h.2.2.1, name_ext h.2.2.2⟩

/-- A registry resolves an invocation to nothing when no endpoint binding names it. -/
theorem RuntimeEndpointRegistry.resolveInvocation_none :
    registry.resolveInvocation invocation = none ↔
      ∀ binding ∈ registry.bindings, ¬Named binding invocation := by
  rw [Option.eq_none_iff_forall_ne_some]
  refine forall_congr' fun binding => ?_
  rw [Ne, RuntimeEndpointRegistry.resolveInvocation_iff, not_and]

/-- The request schema of an endpoint is an object schema within the limits. -/
theorem RosServiceEndpoint.requestSchema_ok (endpoint : RosServiceEndpoint) :
    validateSchemaGraph endpoint.requestSchema.schema = .ok () ∧
      endpoint.requestSchema.schema.fields.valueType = .object ∧
      endpoint.requestSchema.schema.fields.nullable = false := by
  have h := endpoint.init_self
  rw [EndpointContent.init, Checks.bind_ok] at h
  obtain ⟨requestSchema, hrequest, h⟩ := h
  rw [Checks.bind_ok] at h
  obtain ⟨responseSchema, -, h⟩ := h
  rw [Checks.require_bind_ok] at h
  have hsame := rebuildSchemaContract_ok hrequest
  rw [rebuildSchemaContract, Checks.unit_bind_ok] at hrequest
  rw [hsame] at h
  exact ⟨graphLoop_ok _ _ hrequest.1, h.1.1, h.1.2.1⟩

/-- The parameters of an invocation are valid for an endpoint when they conform to its request
schema. -/
theorem validated_iff {endpoint : RosServiceEndpoint} :
    validateParameters endpoint.requestSchema.schema (.obj invocation.parameters) =
        .ok invocation.parameters ↔
      Conforms endpoint.requestSchema.schema (.obj invocation.parameters) := by
  obtain ⟨references, -, -, -, hparameters, -⟩ := InvocationContent.init_ok invocation.init_self
  have hvalid := (validateParameters_ok invocation.skillDefinition.inputSchema.built).mp hparameters
  obtain ⟨hgraph, hroot⟩ := endpoint.requestSchema_ok
  rw [validateParameters_ok endpoint.requestSchema.built]
  constructor
  · exact fun h => h.2.2.2.2
  · exact fun h => ⟨hgraph, hroot, hvalid.2.2.1, rfl, h⟩

/-- A request is formed exactly when the parameters conform and it has few enough characters. -/
theorem bindRuntimeRequest_ok (hexact : Exact registry invocation endpointBinding)
    (heligible : invocation.status = .eligibleForRuntimeHandoff) :
    (∃ request, bindRuntimeRequest invocation registry = .ok request) ↔
      Conforms endpointBinding.endpoint.requestSchema.schema (.obj invocation.parameters) ∧
        requestCharacters registry invocation endpointBinding ≤ maxJsonCharacters := by
  have hresolve := RuntimeEndpointRegistry.resolveInvocation_iff.mpr
    ⟨hexact.registered, hexact.named⟩
  obtain ⟨hskill, hversion, hcapability, hbackend⟩ := hexact.named
  have hserves : Serves endpointBinding invocation :=
    ⟨hskill, hversion, hexact.fingerprint, hcapability, hbackend⟩
  rw [bindRuntimeRequest, rebuildInvocation_self, Checks.ok_bind, rebuildRegistry_self,
    Checks.ok_bind, hresolve]
  constructor
  · rintro ⟨request, h⟩
    dsimp only at h
    rw [Checks.require_bind_ok] at h
    obtain ⟨-, haccepted⟩ := RequestContent.build_ok h.2
    exact ⟨validated_iff.mp haccepted.validated, haccepted.allowed.characters⟩
  · rintro ⟨hconforms, hcharacters⟩
    have haccepted : RequestContent.Accepted
        ⟨invocation, endpointBinding, registry.version, registry.digest⟩ :=
      { eligible := heligible
        serves := hserves
        validated := validated_iff.mpr hconforms
        allowed := (RequestContent.allowed_iff _).mpr hcharacters }
    obtain ⟨request, hbuild⟩ := haccepted.build
    exact ⟨request, Checks.require_bind_ok.mpr ⟨hexact.fingerprint, hbuild⟩⟩

end Registries

section Mapping

variable {p : Platform}

/-- The strongest status is one of them, and none is stronger. -/
theorem strongest_spec (first : RuntimeEligibility) (others : List RuntimeEligibility) :
    strongest first others ∈ first :: others ∧
      ∀ status ∈ first :: others, status.rank ≤ (strongest first others).rank := by
  induction others generalizing first with
  | nil => simp [strongest]
  | cons status others ih =>
    have hstep : strongest first (status :: others) =
        strongest (if first.rank < status.rank then status else first) others := rfl
    rw [hstep]
    by_cases hless : first.rank < status.rank
    · rw [if_pos hless]
      obtain ⟨hmem, hall⟩ := ih status
      refine ⟨List.mem_cons_of_mem _ hmem, ?_⟩
      rw [List.forall_mem_cons]
      have hstatus := hall status List.mem_cons_self
      exact ⟨by omega, hall⟩
    · rw [if_neg hless]
      obtain ⟨hmem, hall⟩ := ih first
      have hfirst := hall first List.mem_cons_self
      constructor
      · rcases List.mem_cons.mp hmem with h | h
        · rw [h]
          exact List.mem_cons_self
        · exact List.mem_cons_of_mem _ (List.mem_cons_of_mem _ h)
      · intro other hother
        rcases List.mem_cons.mp hother with rfl | hother
        · exact hfirst
        · rcases List.mem_cons.mp hother with rfl | hother
          · omega
          · exact hall other (List.mem_cons_of_mem _ hother)

/-- A mapped reason gives its restriction, and one that is not mapped rejects or asks for
approval. -/
theorem reasonMap_restriction (reason : BindingReason) :
    (∀ mapped ∈ reasonMap reason, mapped.1 = restriction reason) ∧
      (reasonMap reason = none → restriction reason = .rejected ∨
        reason = .safetyApprovalRequired) := by
  cases reason <;> simp [reasonMap, restriction]

/-- What `reason_map` gives passes the checks of a decision. -/
theorem reasonMap_checked {reason : BindingReason} {mapped : RuntimeEligibility × RuntimeReason}
    (h : reasonMap reason = some mapped) :
    (∀ required ∈ DecisionContent.requiredReason mapped.1, mapped.2 = required ∨
        (mapped.1 = .unavailable ∧ mapped.2 = .skillUnavailable)) ∧
      mapped.1 ≠ .approvalRequired ∧ mapped.1 ≠ .eligible ∧ 0 < mapped.1.rank ∧
      (mapped.1 = .blocked → reason = .safetyBlocked) ∧
      (mapped.1 = .deferred → reason = .safetyDeferred) := by
  cases reason <;> simp only [reasonMap, Option.some.injEq, reduceCtorEq] at h <;> subst h <;>
    simp [DecisionContent.requiredReason, RuntimeEligibility.rank]

/-- The mapped status is the most restrictive one, with its reasons. -/
theorem mappedStatus_spec {reasons : List BindingReason} (hsome : reasons ≠ [])
    (happroval : .safetyApprovalRequired ∉ reasons) :
    MostRestrictive reasons (mappedStatus reasons).1 ∧ (mappedStatus reasons).2 ≠ [] ∧
      (mappedStatus reasons).1 ≠ .eligible ∧ (mappedStatus reasons).1 ≠ .approvalRequired ∧
      (∀ required ∈ DecisionContent.requiredReason (mappedStatus reasons).1,
        required ∈ (mappedStatus reasons).2 ∨ ((mappedStatus reasons).1 = .unavailable ∧
          RuntimeReason.skillUnavailable ∈ (mappedStatus reasons).2)) ∧
      ((mappedStatus reasons).1 = .blocked → .safetyBlocked ∈ reasons) ∧
      ((mappedStatus reasons).1 = .deferred → .safetyDeferred ∈ reasons) := by
  have hmapped : ∀ reason ∈ reasons, reasonMap reason = none → restriction reason = .rejected := by
    intro reason hreason hnone
    rcases (reasonMap_restriction reason).2 hnone with h | rfl
    · exact h
    · exact absurd hreason happroval
  unfold mappedStatus
  split
  · next hnil =>
    rw [List.filterMap_eq_nil_iff] at hnil
    obtain ⟨reason, hreason⟩ := List.exists_mem_of_ne_nil reasons hsome
    refine ⟨⟨⟨reason, hreason, hmapped reason hreason (hnil reason hreason)⟩, ?_⟩, ?_⟩
    · intro other hother
      rw [hmapped other hother (hnil other hother)]
    · simp [DecisionContent.requiredReason]
  · next first others hcons =>
    have hsource : ∀ mapped ∈ first :: others, ∃ reason ∈ reasons,
        reasonMap reason = some mapped := by
      intro mapped hmem
      rw [← hcons, List.mem_filterMap] at hmem
      exact hmem
    obtain ⟨hmem, hall⟩ := strongest_spec first.1 (others.map Prod.fst)
    rw [← List.map_cons] at hmem hall
    obtain ⟨chosen, hchosen, hstatus⟩ := List.mem_map.mp hmem
    obtain ⟨reason, hreason, hsome⟩ := hsource chosen hchosen
    obtain ⟨hrequired, happrove, hlegible, hpositive, hblocked, hdeferred⟩ := reasonMap_checked hsome
    rw [← hstatus] at hall ⊢
    dsimp only
    refine ⟨⟨⟨reason, hreason, ((reasonMap_restriction reason).1 chosen hsome).symm⟩, ?_⟩, ?_,
      hlegible, happrove, ?_, ?_, ?_⟩
    · intro other hother
      cases hfound : reasonMap other with
      | none =>
        rw [hmapped other hother hfound]
        exact hpositive.le
      | some mapped =>
        rw [← (reasonMap_restriction other).1 mapped hfound]
        refine hall _ (List.mem_map_of_mem ?_)
        rw [← hcons]
        exact List.mem_filterMap.mpr ⟨other, hother, hfound⟩
    · simp
    · intro required hneeded
      rcases hrequired required hneeded with h | h
      · exact Or.inl (h ▸ List.mem_map_of_mem hchosen)
      · exact Or.inr ⟨h.1, h.2 ▸ List.mem_map_of_mem hchosen⟩
    · exact fun h => hblocked h ▸ hreason
    · exact fun h => hdeferred h ▸ hreason

end Mapping

section Outcomes

variable {p : Platform} {registry : RuntimeEndpointRegistry p} {binding : SkillBindingResult p}

/-- What the skill manager ensures about a binding. -/
structure Handed (binding : SkillBindingResult p) : Prop where
  /-- It names its safety decision by a text. -/
  clean : CleanText binding.sourceSafetyDecisionId
  /-- An ineligible binding does not wait for approval. -/
  unapproved : binding.status = .ineligible → .safetyApprovalRequired ∉ binding.reasons

/-- Every binding of the skill manager is one that it ensures this about. -/
theorem handed_of_bind {policy : Safety.SafetyPolicy p} {skills : SkillRegistry p}
    {proposal : Executive.ExecutiveDecision} {decision : Safety.SafetyDecision}
    {selection : SkillSelection} (h : bind policy skills proposal decision selection = .ok binding) :
    Handed binding where
  clean := bind_reviewed h
  unapproved := by
    intro hstatus
    rcases bind_ok h with hrefused | ⟨invocation, step, safetyStep, hbound⟩
    · exact hrefused.unapproved
    · have hother := hbound.status
      rw [hstatus] at hother
      split at hother <;> cases hother

/-- The reasons and the invocation that go with the status of a binding. -/
theorem binding_shape (binding : SkillBindingResult p) :
    (binding.status = .ineligible → binding.reasons ≠ []) ∧
      (binding.status = .externalApprovalRequired → binding.reasons = [.safetyApprovalRequired]) ∧
      (binding.status = .eligibleForRuntimeHandoff → ∃ invocation,
        binding.invocation = some invocation ∧ invocation.status = .eligibleForRuntimeHandoff) := by
  have h := binding.checked
  rw [BindingFields.check, Checks.require_bind_ok, Checks.require_bind_ok] at h
  obtain ⟨-, -, h⟩ := h
  by_cases hstatus : binding.status = .ineligible
  · rw [if_pos hstatus, Checks.require_ok] at h
    simp [hstatus, h.2]
  · rw [if_neg hstatus] at h
    split at h
    · cases h
    next invocation hinvocation =>
    rw [BindingFields.checkInvocation] at h
    simp only [Checks.require_bind_ok, Checks.require_ok] at h
    obtain ⟨hsame, -, -, -, happroval⟩ := h
    refine ⟨fun h => absurd h hstatus, fun h => ?_, fun h => ⟨invocation, hinvocation, ?_⟩⟩
    · by_contra hreasons
      exact happroval ⟨h, hreasons⟩
    · rw [hsame, if_pos h]

/-- A decision without a request is built when its reasons are ordered and justify its status. -/
theorem build_refusal (hclean : CleanText binding.sourceSafetyDecisionId)
    {status : RuntimeEligibility} {reasons : List RuntimeReason} (digest : Digest)
    (hlegible : status ≠ .eligible) (hsome : reasons ≠ []) (hordered : reasons = orderedReasons reasons)
    (hchecked : DecisionContent.checkStatus status reasons binding = .ok ()) :
    ∃ decision : RuntimeDecision p,
      DecisionContent.build ⟨status, reasons, binding, digest, none⟩ = .ok decision ∧
        decision.status = status ∧ decision.request = none := by
  have haccepted : DecisionContent.Accepted ⟨status, reasons, binding, digest, none⟩ :=
    { ordered := hordered
      carries := by
        rw [DecisionContent.Carries, if_neg hlegible]
        exact ⟨rfl, hsome⟩
      justified := hchecked
      allowed := DecisionAttributes.allowed hordered hclean }
  obtain ⟨decision, hbuild⟩ := haccepted.build
  obtain ⟨hattributes, -⟩ := DecisionContent.build_ok hbuild
  exact ⟨decision, hbuild, by rw [hattributes]; rfl, by rw [hattributes]; rfl⟩

/-- A decision without a request is no eligible one. -/
theorem decides_request {decision : RuntimeDecision p} (hlegible : decision.status ≠ .eligible)
    (hrequest : decision.request = none) :
    decision.status = .eligible ↔ decision.request.isSome = true := by
  simp [hlegible, hrequest]

/-- The decision on a binding that is not eligible. -/
theorem evaluate_refused (hhanded : Handed binding)
    (hstatus : binding.status ≠ .eligibleForRuntimeHandoff) :
    ∃ decision, evaluate registry binding = .ok decision ∧ Decides registry binding decision := by
  obtain ⟨hreasons, happroval, -⟩ := binding_shape binding
  have hdecides : ∀ decision : RuntimeDecision p, decision.status ≠ .eligible →
      decision.request = none → MostRestrictive binding.reasons decision.status →
      Decides registry binding decision := by
    intro decision hlegible hrequest hrestrictive
    exact {
      eligible := by simp [hlegible, hstatus]
      request := decides_request hlegible hrequest
      restricted := fun _ => hrestrictive
      unregistered := fun h => absurd h hstatus
      changed := fun h => absurd h hstatus
      unavailable := fun h => absurd h hstatus }
  rw [evaluate, rebuildBindingResult_self, Checks.ok_bind, rebuildRegistry_self, Checks.ok_bind]
  cases hkind : binding.status with
  | eligibleForRuntimeHandoff => exact absurd hkind hstatus
  | externalApprovalRequired =>
    have hchecked : DecisionContent.checkStatus .approvalRequired [.upstreamApprovalRequired]
        binding = .ok () := by
      simp [DecisionContent.checkStatus_ok, DecisionContent.requiredReason, hkind]
    obtain ⟨decision, hbuild, hdecision, hrequest⟩ := build_refusal hhanded.clean
      registry.digest (by decide) (by decide) (by decide) hchecked
    refine ⟨decision, hbuild, hdecides decision (by simp [hdecision]) hrequest ?_⟩
    rw [hdecision, happroval hkind]
    exact ⟨⟨_, List.mem_singleton_self _, rfl⟩, by simp [restriction]⟩
  | ineligible =>
    obtain ⟨hrestrictive, hnonempty, hlegible, hunapproved, hrequired, hblocked, hdeferred⟩ :=
      mappedStatus_spec (hreasons hkind) (hhanded.unapproved hkind)
    have hchecked : DecisionContent.checkStatus (mappedStatus binding.reasons).1
        (orderedReasons (mappedStatus binding.reasons).2) binding = .ok () := by
      rw [DecisionContent.checkStatus_ok]
      simp only [mem_orderedReasons]
      exact ⟨hrequired, fun h => absurd h hunapproved, fun h => ⟨hkind, hblocked h⟩,
        fun h => ⟨hkind, hdeferred h⟩⟩
    obtain ⟨decision, hbuild, hdecision, hrequest⟩ := build_refusal hhanded.clean
      registry.digest hlegible (orderedReasons_ne_nil hnonempty)
      (orderedReasons_self _).symm hchecked
    exact ⟨decision, hbuild, hdecides decision (hdecision ▸ hlegible) hrequest
      (hdecision ▸ hrestrictive)⟩

/-- An eligible binding is evaluated by its invocation. -/
theorem evaluate_eligible {invocation : SkillInvocation p}
    (hstatus : binding.status = .eligibleForRuntimeHandoff)
    (hinvocation : binding.invocation = some invocation) :
    evaluate registry binding = evaluateInvocation binding registry invocation := by
  rw [evaluate, rebuildBindingResult_self, Checks.ok_bind, rebuildRegistry_self, Checks.ok_bind,
    hstatus]
  dsimp only
  rw [hinvocation]

/-- The decision on an eligible binding that the registry does not serve. -/
theorem evaluate_unserved (hhanded : Handed binding)
    (hstatus : binding.status = .eligibleForRuntimeHandoff) {invocation : SkillInvocation p}
    (hinvocation : binding.invocation = some invocation)
    (hnone : ∀ endpointBinding, ¬Exact registry invocation endpointBinding) :
    ∃ decision, evaluate registry binding = .ok decision ∧ Decides registry binding decision := by
  rw [evaluate_eligible hstatus hinvocation, evaluateInvocation]
  have heligible : ∀ decision : RuntimeDecision p, decision.status ≠ .eligible →
      (decision.status = .eligible ↔ binding.status = .eligibleForRuntimeHandoff ∧
        ∃ invocation ∈ binding.invocation, ∃ endpointBinding,
          Exact registry invocation endpointBinding) := by
    intro decision hlegible
    simp [hlegible, hinvocation, hnone]
  have hunique : ∀ endpointBinding other : RuntimeEndpointBinding p,
      registry.resolveInvocation invocation = some endpointBinding →
      other ∈ registry.bindings → Named other invocation → other = endpointBinding := by
    intro endpointBinding other hresolve hmem hnamed
    have hother := RuntimeEndpointRegistry.resolveInvocation_iff.mpr ⟨hmem, hnamed⟩
    rw [hresolve] at hother
    exact (Option.some.inj hother).symm
  split
  · next hresolve =>
    have hunnamed := RuntimeEndpointRegistry.resolveInvocation_none.mp hresolve
    have hchecked : DecisionContent.checkStatus .rejected [.endpointNotRegistered] binding =
        .ok () := by
      simp [DecisionContent.checkStatus_ok, DecisionContent.requiredReason]
    obtain ⟨decision, hbuild, hdecision, hrequest⟩ := build_refusal hhanded.clean
      registry.digest (by decide) (by decide) (by decide) hchecked
    have hlegible : decision.status ≠ .eligible := by
      simp [hdecision]
    refine ⟨decision, hbuild, ?_⟩
    exact {
      eligible := heligible decision hlegible
      request := decides_request hlegible hrequest
      restricted := fun h => absurd hstatus h
      unregistered := fun _ _ _ _ => hdecision
      changed := by
        intro _ other hother endpointBinding hmem hnamed
        rw [hinvocation, Option.mem_def, Option.some.injEq] at hother
        subst hother
        exact absurd hnamed (hunnamed endpointBinding hmem)
      unavailable := by
        intro _ other hother endpointBinding hmem hnamed
        rw [hinvocation, Option.mem_def, Option.some.injEq] at hother
        subst hother
        exact absurd hnamed (hunnamed endpointBinding hmem) }
  · next endpointBinding hresolve =>
    obtain ⟨hregistered, hnamed⟩ := RuntimeEndpointRegistry.resolveInvocation_iff.mp hresolve
    by_cases hdigest : endpointBinding.skillDefinition.digest p = invocation.selection.skillDigest
    · have havailable : endpointBinding.endpoint.availability ≠ .available := by
        intro havailable
        exact hnone endpointBinding ⟨hregistered, hnamed, hdigest, havailable⟩
      rw [if_neg (not_not_intro hdigest), if_pos havailable]
      have hchecked : DecisionContent.checkStatus .unavailable [.endpointUnavailable] binding =
          .ok () := by
        simp [DecisionContent.checkStatus_ok, DecisionContent.requiredReason]
      obtain ⟨decision, hbuild, hdecision, hrequest⟩ := build_refusal hhanded.clean
        registry.digest (by decide) (by decide) (by decide) hchecked
      have hlegible : decision.status ≠ .eligible := by
        simp [hdecision]
      refine ⟨decision, hbuild, ?_⟩
      exact {
        eligible := heligible decision hlegible
        request := decides_request hlegible hrequest
        restricted := fun h => absurd hstatus h
        unregistered := by
          intro _ other hother hunnamed
          rw [hinvocation, Option.mem_def, Option.some.injEq] at hother
          subst hother
          exact absurd hnamed (hunnamed endpointBinding hregistered)
        changed := by
          intro _ other hother another hmem hother' hchanged
          rw [hinvocation, Option.mem_def, Option.some.injEq] at hother
          subst hother
          rw [hunique endpointBinding another hresolve hmem hother'] at hchanged
          exact absurd hdigest hchanged
        unavailable := fun _ _ _ _ _ _ _ _ => hdecision }
    · rw [if_pos hdigest]
      have hchecked : DecisionContent.checkStatus .stale
          [.upstreamStale, .skillFingerprintMismatch] binding = .ok () := by
        simp [DecisionContent.checkStatus_ok, DecisionContent.requiredReason]
      obtain ⟨decision, hbuild, hdecision, hrequest⟩ := build_refusal hhanded.clean
        registry.digest (by decide) (by decide) (by decide) hchecked
      have hlegible : decision.status ≠ .eligible := by
        simp [hdecision]
      refine ⟨decision, hbuild, ?_⟩
      exact {
        eligible := heligible decision hlegible
        request := decides_request hlegible hrequest
        restricted := fun h => absurd hstatus h
        unregistered := by
          intro _ other hother hunnamed
          rw [hinvocation, Option.mem_def, Option.some.injEq] at hother
          subst hother
          exact absurd hnamed (hunnamed endpointBinding hregistered)
        changed := fun _ _ _ _ _ _ _ => hdecision
        unavailable := by
          intro _ other hother another hmem hother' hsame
          rw [hinvocation, Option.mem_def, Option.some.injEq] at hother
          subst hother
          rw [hunique endpointBinding another hresolve hmem hother'] at hsame
          exact absurd hsame hdigest }

/-- An eligible binding that the registry serves is evaluated by forming its request. -/
theorem evaluate_served (hstatus : binding.status = .eligibleForRuntimeHandoff)
    {invocation : SkillInvocation p} (hinvocation : binding.invocation = some invocation)
    {endpointBinding : RuntimeEndpointBinding p}
    (hexact : Exact registry invocation endpointBinding) :
    evaluate registry binding = (do
      let request ← bindRuntimeRequest invocation registry
      DecisionContent.build ⟨.eligible, [], binding, registry.digest, some request⟩) := by
  have hresolve := RuntimeEndpointRegistry.resolveInvocation_iff.mpr
    ⟨hexact.registered, hexact.named⟩
  rw [evaluate_eligible hstatus hinvocation, evaluateInvocation, hresolve]
  dsimp only
  rw [if_neg (not_not_intro hexact.fingerprint), if_neg (not_not_intro hexact.available)]

/-- The decision with a request. -/
theorem build_eligible (hclean : CleanText binding.sourceSafetyDecisionId)
    (request : RuntimeRequest p) (digest : Digest) : ∃ decision : RuntimeDecision p,
      DecisionContent.build ⟨.eligible, [], binding, digest, some request⟩ = .ok decision ∧
        decision.status = .eligible ∧ decision.request = some request := by
  have haccepted : DecisionContent.Accepted ⟨.eligible, [], binding, digest, some request⟩ :=
    { ordered := rfl
      carries := by
        rw [DecisionContent.Carries, if_pos rfl]
        exact ⟨rfl, rfl⟩
      justified := by simp [DecisionContent.checkStatus_ok, DecisionContent.requiredReason]
      allowed := DecisionAttributes.allowed rfl hclean }
  obtain ⟨decision, hbuild⟩ := haccepted.build
  obtain ⟨hattributes, -⟩ := DecisionContent.build_ok hbuild
  exact ⟨decision, hbuild, by rw [hattributes]; rfl, by rw [hattributes]; rfl⟩

/-- The bridge decides rightly exactly where a request can be formed. -/
theorem decides_iff (hhanded : Handed binding) :
    (∃ decision, evaluate registry binding = .ok decision ∧ Decides registry binding decision) ↔
      Requestable registry binding := by
  by_cases hstatus : binding.status = .eligibleForRuntimeHandoff
  · obtain ⟨invocation, hinvocation, heligible⟩ := (binding_shape binding).2.2 hstatus
    by_cases hserved : ∃ endpointBinding, Exact registry invocation endpointBinding
    · obtain ⟨endpointBinding, hexact⟩ := hserved
      rw [evaluate_served hstatus hinvocation hexact]
      constructor
      · rintro ⟨decision, hevaluate, -⟩ - other hother another hanother
        rw [hinvocation, Option.mem_def, Option.some.injEq] at hother
        subst hother
        rw [Checks.bind_ok] at hevaluate
        obtain ⟨request, hrequest, -⟩ := hevaluate
        exact (bindRuntimeRequest_ok hanother heligible).mp ⟨request, hrequest⟩
      · intro hrequestable
        obtain ⟨request, hrequest⟩ := (bindRuntimeRequest_ok hexact heligible).mpr
          (hrequestable hstatus invocation hinvocation endpointBinding hexact)
        obtain ⟨decision, hbuild, hdecision, hcarried⟩ := build_eligible hhanded.clean request
          registry.digest
        have hresolve := RuntimeEndpointRegistry.resolveInvocation_iff.mpr
          ⟨hexact.registered, hexact.named⟩
        refine ⟨decision, by rw [hrequest, Checks.ok_bind, hbuild], ?_⟩
        exact {
          eligible := by
            simp only [hdecision, true_iff]
            exact ⟨hstatus, invocation, hinvocation, endpointBinding, hexact⟩
          request := by simp [hdecision, hcarried]
          restricted := fun h => absurd hstatus h
          unregistered := by
            intro _ other hother hunnamed
            rw [hinvocation, Option.mem_def, Option.some.injEq] at hother
            subst hother
            exact absurd hexact.named (hunnamed endpointBinding hexact.registered)
          changed := by
            intro _ other hother another hmem hnamed hchanged
            rw [hinvocation, Option.mem_def, Option.some.injEq] at hother
            subst hother
            have hsame := RuntimeEndpointRegistry.resolveInvocation_iff.mpr ⟨hmem, hnamed⟩
            rw [hresolve, Option.some.injEq] at hsame
            exact absurd (hsame ▸ hexact.fingerprint) hchanged
          unavailable := by
            intro _ other hother another hmem hnamed _ hunavailable
            rw [hinvocation, Option.mem_def, Option.some.injEq] at hother
            subst hother
            have hsame := RuntimeEndpointRegistry.resolveInvocation_iff.mpr ⟨hmem, hnamed⟩
            rw [hresolve, Option.some.injEq] at hsame
            exact absurd (hsame ▸ hexact.available) hunavailable }
    · rw [not_exists] at hserved
      refine ⟨fun _ _ other hother another hanother => ?_,
        fun _ => evaluate_unserved hhanded hstatus hinvocation hserved⟩
      rw [hinvocation, Option.mem_def, Option.some.injEq] at hother
      subst hother
      exact absurd hanother (hserved another)
  · exact ⟨fun _ h => absurd h hstatus, fun _ => evaluate_refused hhanded hstatus⟩

/-- Revalidation against a binding that can be evaluated keeps a prior decision exactly when it
equals the current one. -/
theorem revalidates (hhanded : Handed binding) {current : RuntimeDecision p}
    (hevaluate : evaluate registry binding = .ok current) :
    Revalidates registry binding current := by
  intro prior
  have hreasons : staleReasons current prior ≠ [] := by simp [staleReasons]
  have hchecked : DecisionContent.checkStatus .stale (orderedReasons (staleReasons current prior))
      binding = .ok () := by
    simp [DecisionContent.checkStatus_ok, DecisionContent.requiredReason, mem_orderedReasons,
      staleReasons]
  obtain ⟨stale, hbuild, hstale, -⟩ := build_refusal hhanded.clean
    current.runtimeRegistryDigest (by decide) (orderedReasons_ne_nil hreasons)
    (orderedReasons_self _).symm hchecked
  have hrevalidate : revalidate registry prior binding =
      if current.same prior.toDecisionAttributes = true then .ok .unchanged
      else .ok (.replaced stale) := by
    rw [revalidate, hevaluate, Checks.ok_bind, rebuildBindingResult_self]
    by_cases hsame : current.same prior.toDecisionAttributes = true
    · rw [if_pos hsame, if_pos hsame]
      rfl
    · rw [if_neg hsame, if_neg hsame, Checks.ok_bind, hbuild]
      rfl
  by_cases hsame : current.same prior.toDecisionAttributes = true
  · rw [hrevalidate, if_pos hsame]
    exact ⟨⟨fun _ => hsame, fun _ => rfl⟩, fun h => absurd hsame h⟩
  · rw [hrevalidate, if_neg hsame]
    refine ⟨⟨fun h => ?_, fun h => absurd h hsame⟩, fun _ => ⟨stale, rfl, hstale⟩⟩
    rw [Except.ok.injEq] at h
    cases h

/-- The constructors' contracts are all rebuilt unchanged. -/
theorem rebuildsAll (p : Platform) : RebuildsAll p where
  schema := fun _ _ h => rebuildSchemaContract_self h
  skill := rebuildSkillDefinition_self p
  endpoint := rebuildEndpoint_self p
  invocation := rebuildInvocation_self
  registry := rebuildRegistry_self
  binding := rebuildBindingResult_self

end Outcomes

/-- The bridge and the skill manager agree about a binding: contracts are rebuilt unchanged, the
binding is decided rightly and prior decisions are revalidated against that. -/
def Agreement {p : Platform} (registry : RuntimeEndpointRegistry p)
    (binding : SkillBindingResult p) : Prop :=
  RebuildsAll p ∧ ∃ decision, evaluate registry binding = .ok decision ∧
    Decides registry binding decision ∧ Revalidates registry binding decision

/-- The bridge agrees with the skill manager about a binding exactly when a request can be formed
wherever the registry serves the binding. -/
theorem agreement_iff {p : Platform} (policy : Safety.SafetyPolicy p) (skills : SkillRegistry p)
    (proposal : Executive.ExecutiveDecision) (decision : Safety.SafetyDecision)
    (selection : SkillSelection) (registry : RuntimeEndpointRegistry p)
    (binding : SkillBindingResult p)
    (h : bind policy skills proposal decision selection = .ok binding) :
    Agreement registry binding ↔ Requestable registry binding := by
  have hhanded := handed_of_bind h
  rw [← decides_iff hhanded, Agreement]
  constructor
  · rintro ⟨-, current, hevaluate, hdecides, -⟩
    exact ⟨current, hevaluate, hdecides⟩
  · rintro ⟨current, hevaluate, hdecides⟩
    exact ⟨rebuildsAll p, current, hevaluate, hdecides, revalidates hhanded hevaluate⟩

section Sample

/-- A runtime with digests that depend on two characters of the text. -/
abbrev agendaPlatform : Platform := Platform.sampled 40 60

/-- A rule that makes reading an agenda informational. -/
def agendaRule : Safety.CapabilitySafetyRule agendaPlatform :=
  ⟨Safety.sampleRuleContent, ⟨Safety.sampleRuleContent, by decide⟩⟩

/-- The constructor accepts a policy with that rule alone. -/
theorem agendaPolicy_built : ∃ rules,
    Safety.SafetyPolicyContent.init rules = .ok (Safety.policyContent [agendaRule]) := by
  have hdocument : ∀ hazardRules, Safety.SafetyPolicyContent.document [agendaRule] hazardRules =
      Safety.SafetyPolicyContent.document [Safety.sampleRule] hazardRules := by
    intro hazardRules
    rw [Safety.SafetyPolicyContent.document, Safety.SafetyPolicyContent.document,
      List.map_singleton, List.map_singleton]
    rfl
  refine Safety.policyContent_built ?_
  rw [hdocument]
  exact Safety.samplePolicy_within

/-- A policy with that rule alone. -/
def agendaPolicy : Safety.SafetyPolicy agendaPlatform :=
  ⟨Safety.policyContent [agendaRule], agendaPolicy_built⟩

/-- A number with one allowed value. -/
def daySchema (allowed : Number) : ValueSchema :=
  .node { valueType := .number, allowedValues := [.number allowed] } [] none

/-- An object with that number. -/
def daysSchema (allowed : Number) : ValueSchema :=
  .node { valueType := .object } [({ name := ⟨py "day", by decide⟩ }, daySchema allowed)] none

/-- The constructors return both schemas. -/
theorem daysSchema_built {allowed : Number}
    (hday : (daySchema allowed).init = .ok (daySchema allowed))
    (hdays : (daysSchema allowed).init = .ok (daysSchema allowed)) : (daysSchema allowed).Built := by
  refine .intro hdays fun child hchild => ?_
  have hsame : child = daySchema allowed := List.mem_singleton.mp hchild
  rw [hsame]
  exact .intro hday fun part hpart => absurd hpart List.not_mem_nil

/-- One is printed as a float. -/
theorem oneFloat_spelled : isFloatToken (py "1.0") = true := by decide

/-- One as a float. -/
def oneFloat : Number := .float ⟨py "1.0", oneFloat_spelled⟩

/-- The schema with the integer. -/
def integerSchema : ContractSchema := ⟨daysSchema (.int 1), daysSchema_built rfl rfl⟩

/-- The schema with the float. -/
def floatSchema : ContractSchema := ⟨daysSchema oneFloat, daysSchema_built rfl rfl⟩

/-- A first version. -/
def firstVersion : SemanticVersion :=
  ⟨py "1.0.0", ⟨by decide, by decide, by decide, by decide⟩, by decide⟩

/-- A short text. -/
def agendaText : ContractText := ⟨py "Agenda", ⟨by decide, by decide, by decide, by decide⟩⟩

/-- The capability to read an agenda. -/
def agendaCapability : Name := ⟨py "calendar.read", by decide⟩

/-- A skill that reads an agenda. -/
def agendaSkill : SkillContent where
  skillId := ⟨py "agenda", by decide⟩
  version := firstVersion
  name := agendaText
  description := agendaText
  capabilityIds := [agendaCapability]
  backendId := ⟨py "calendar", by decide⟩
  safetyClassification := .informationalReadOnly
  expectedResult := .information
  timeoutMs := 1000
  concurrencyPolicy := .parallel
  idempotency := .idempotent
  failureSemantics := .retryable
  availability := .available
  lifecycle := .validated
  inputSchema := integerSchema
  outputSchema := integerSchema

/-- A step that reads the agenda of the first day. -/
def dayStep : Executive.PlanStep :=
  { Safety.sampleStep with
    storedParameters := [(py "day", .int 1)]
    canonicalParameters := encode (.obj [(py "day", .int 1)]) }

/-- A proposal of that step. -/
def dayProposal : Executive.DecisionContent :=
  { (Safety.sampleProposal []).toDecisionContent with proposedPlan := some ⟨[dayStep]⟩ }

/-- The root namespace is short. -/
theorem agendaNamespace_length : (py "/").length ≤ maxRosNameLength := by decide

/-- The root namespace is a namespace. -/
theorem agendaNamespace_valid : isRosNamespace (py "/") := by decide

/-- An endpoint that reads an agenda. -/
def agendaEndpoint (requestSchema : ContractSchema) : EndpointContent where
  endpointId := ⟨py "agenda", by decide⟩
  backendId := ⟨py "calendar", by decide⟩
  packageName := ⟨py "calendar", by decide, by decide⟩
  interfaceName := ⟨py "Read", by decide, by decide⟩
  endpointName := ⟨py "read", by decide, by decide⟩
  rosNamespace := ⟨py "/", agendaNamespace_length, agendaNamespace_valid⟩
  timeoutMs := 1000
  availability := .available
  requestSchema := requestSchema
  responseSchema := integerSchema

/-- The registry of that skill. -/
def agendaSkills : Except BindError (SkillRegistry agendaPlatform) := do
  let skill ← agendaSkill.build.mapError .skill
  (SkillRegistryContent.build agendaPlatform ⟨firstVersion, [skill]⟩).mapError .skill

/-- The binding of the reviewed proposal to that skill. -/
def agendaBinding : Except BindError (SkillBindingResult agendaPlatform) := do
  let skills ← agendaSkills
  let proposal ← (dayProposal.init agendaPlatform).mapError .executive
  let decision ← (Safety.evaluate agendaPolicy proposal).mapError fun _ => .assertion
  let selection ← (skills.selection ⟨py "agenda", by decide⟩ agendaCapability
    ⟨py "read-agenda", by decide⟩).mapError .skill
  bind agendaPolicy skills proposal decision selection

/-- The runtime registry of an endpoint with the given request schema. -/
def agendaRegistry (requestSchema : ContractSchema) :
    Except RuntimeError (RuntimeEndpointRegistry agendaPlatform) := do
  let skill ← agendaSkill.build.mapError fun _ => .assertion
  let endpoint ← (agendaEndpoint requestSchema).build
  let binding ← EndpointBindingContent.build agendaPlatform
    ⟨skill, agendaCapability, endpoint⟩
  RuntimeRegistryContent.build ⟨firstVersion, [binding]⟩

/-- Whether the registry serves the binding with parameters that name the first day, in a request
that has few enough characters. -/
def agendaServed (requestSchema : ContractSchema) : Option Bool := do
  let binding ← agendaBinding.toOption
  let registry ← (agendaRegistry requestSchema).toOption
  let invocation ← binding.invocation
  let endpointBinding ← registry.resolveInvocation invocation
  pure (decide (binding.status = .eligibleForRuntimeHandoff) &&
    decide (endpointBinding.skillDefinition.digest agendaPlatform =
      invocation.selection.skillDigest) &&
    decide (endpointBinding.endpoint.availability = .available) &&
    decide (invocation.parameters = [(py "day", .int 1)]) &&
    decide (requestCharacters registry invocation endpointBinding ≤ maxJsonCharacters))

/-- The endpoints of the registry have the given request schema. -/
theorem agendaRegistry_schema {requestSchema : ContractSchema}
    {registry : RuntimeEndpointRegistry agendaPlatform}
    (h : agendaRegistry requestSchema = .ok registry) :
    ∀ binding ∈ registry.bindings, binding.endpoint.requestSchema = requestSchema := by
  rw [agendaRegistry, Checks.bind_ok] at h
  obtain ⟨skill, -, h⟩ := h
  rw [Checks.bind_ok] at h
  obtain ⟨endpoint, hendpoint, h⟩ := h
  rw [Checks.bind_ok] at h
  obtain ⟨agenda, hagenda, h⟩ := h
  rw [EndpointContent.build, Checks.constructFrom_ok] at hendpoint
  obtain ⟨content, hcontent, rfl⟩ := hendpoint
  have hsame := EndpointContent.init_ok hcontent
  rw [EndpointBindingContent.build, Checks.constructFrom_ok] at hagenda
  obtain ⟨attributes, hattributes, rfl⟩ := hagenda
  have hbinding := (EndpointBindingContent.init_ok.mp hattributes).1
  rw [RuntimeRegistryContent.build, Checks.constructFrom_ok] at h
  obtain ⟨listed, hlisted, rfl⟩ := h
  rw [RuntimeRegistryContent.init, Checks.require_bind_ok, Checks.bind_ok] at hlisted
  obtain ⟨-, bindings, hbindings, hlisted⟩ := hlisted
  rw [Checks.require_bind_ok, Checks.require_bind_ok, Checks.unit_bind_ok, Checks.pure_ok]
    at hlisted
  obtain ⟨-, -, -, rfl⟩ := hlisted
  intro binding hmem
  have hone := (orderedUnique_perm hbindings).mem_iff.mp hmem
  rw [List.mem_singleton] at hone
  rw [hone]
  dsimp only
  rw [hbinding]
  exact congrArg EndpointContent.requestSchema hsame

/-- A value that exists was returned. -/
theorem ok_of_toOption {ε α : Type} {x : Except ε α} {a : α} (h : x.toOption = some a) :
    x = .ok a := by
  cases x with
  | error e => cases h
  | ok other => exact congrArg Except.ok (Option.some.inj h)

/-- The parts of a served binding. -/
theorem agendaServed_parts {requestSchema : ContractSchema}
    (h : agendaServed requestSchema = some true) :
    ∃ skills proposal decision selection registry binding invocation endpointBinding,
      bind agendaPolicy skills proposal decision selection = .ok binding ∧
        binding.status = .eligibleForRuntimeHandoff ∧ binding.invocation = some invocation ∧
        Exact (p := agendaPlatform) registry invocation endpointBinding ∧
        endpointBinding.endpoint.requestSchema = requestSchema ∧
        invocation.parameters = [(py "day", .int 1)] ∧
        requestCharacters registry invocation endpointBinding ≤ maxJsonCharacters := by
  rw [agendaServed, Option.bind_eq_bind, Option.bind_eq_some_iff] at h
  obtain ⟨binding, hbinding, h⟩ := h
  rw [Option.bind_eq_bind, Option.bind_eq_some_iff] at h
  obtain ⟨registry, hregistry, h⟩ := h
  rw [Option.bind_eq_bind, Option.bind_eq_some_iff] at h
  obtain ⟨invocation, hinvocation, h⟩ := h
  rw [Option.bind_eq_bind, Option.bind_eq_some_iff] at h
  obtain ⟨endpointBinding, hresolve, h⟩ := h
  simp only [Option.pure_def, Option.some.injEq, Bool.and_eq_true, decide_eq_true_eq] at h
  obtain ⟨⟨⟨⟨hstatus, hdigest⟩, havailable⟩, hparameters⟩, hcharacters⟩ := h
  obtain ⟨hregistered, hnamed⟩ := RuntimeEndpointRegistry.resolveInvocation_iff.mp hresolve
  have hschema := agendaRegistry_schema (ok_of_toOption hregistry) endpointBinding hregistered
  have hagenda := ok_of_toOption hbinding
  rw [agendaBinding, Checks.bind_ok] at hagenda
  obtain ⟨skills, -, hagenda⟩ := hagenda
  rw [Checks.bind_ok] at hagenda
  obtain ⟨proposal, -, hagenda⟩ := hagenda
  rw [Checks.bind_ok] at hagenda
  obtain ⟨decision, -, hagenda⟩ := hagenda
  rw [Checks.bind_ok] at hagenda
  obtain ⟨selection, -, hbind⟩ := hagenda
  exact ⟨skills, proposal, decision, selection, registry, binding, invocation, endpointBinding,
    hbind, hstatus, hinvocation, ⟨hregistered, hnamed, hdigest, havailable⟩, hschema, hparameters,
    hcharacters⟩

/-- The registry whose schema writes the number as an integer serves the binding. -/
theorem agendaServed_integer : agendaServed integerSchema = some true := by
  decide +kernel

/-- The registry whose schema writes it as a float serves the binding as well. -/
theorem agendaServed_float : agendaServed floatSchema = some true := by
  decide +kernel

/-- The parameters do not conform to the schema that writes the number as a float. -/
theorem not_conforms_float : ¬Conforms floatSchema.schema (.obj [(py "day", .int 1)]) := by
  intro h
  cases h with
  | object fits parts =>
    have hday := parts _ (List.mem_singleton_self _) _ (List.mem_singleton_self _) rfl
    cases hday with
    | scalar fits object array =>
      have hlisted := fits.allowed (by decide)
      revert hlisted
      decide
  | scalar fits object array => exact object _ rfl

/-- The bridge agrees about a binding that it can form a request for. -/
theorem agreement_agenda : ∃ skills proposal decision selection registry binding,
    bind agendaPolicy skills proposal decision selection = .ok binding ∧
      (Agreement (p := agendaPlatform) registry binding ↔ Requestable registry binding) := by
  obtain ⟨skills, proposal, decision, selection, registry, binding, invocation, endpointBinding,
    hbind, -⟩ := agendaServed_parts agendaServed_integer
  exact ⟨skills, proposal, decision, selection, registry, binding, hbind,
    agreement_iff agendaPolicy skills proposal decision selection registry binding hbind⟩

/-- Schemas that are equal because one is one float do not make the parameters acceptable: the
bridge raises instead of deciding. -/
theorem not_forall_agreement : ¬ ∀ (p : Platform) (policy : Safety.SafetyPolicy p)
    (skills : SkillRegistry p) (proposal : Executive.ExecutiveDecision)
    (decision : Safety.SafetyDecision) (selection : SkillSelection)
    (registry : RuntimeEndpointRegistry p) (binding : SkillBindingResult p),
    bind policy skills proposal decision selection = .ok binding → Agreement registry binding := by
  intro hall
  obtain ⟨skills, proposal, decision, selection, registry, binding, invocation, endpointBinding,
    hbind, hstatus, hinvocation, hexact, hschema, hparameters, -⟩ :=
    agendaServed_parts agendaServed_float
  obtain ⟨-, current, hevaluate, hdecides, -⟩ := hall agendaPlatform agendaPolicy skills proposal
    decision selection registry binding hbind
  have hrequestable := (decides_iff (handed_of_bind hbind)).mp ⟨current, hevaluate, hdecides⟩
  have hconforms := (hrequestable hstatus invocation hinvocation endpointBinding hexact).1
  rw [hschema, hparameters] at hconforms
  exact not_conforms_float hconforms

end Sample

end Runtime
end AyyoHumanoid
