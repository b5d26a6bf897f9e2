import AyyoHumanoid.RuntimeModels
import AyyoHumanoid.SkillHandoff

/-!
# Rebuilt contracts

Every contract that the runtime bridge rebuilds is the one it was given: the
constructors accept their own attributes unchanged, and what they return equals
the original.
-/

namespace AyyoHumanoid
namespace Runtime

open PyText JsonText PyCollections Contracts Skills

section Fingerprints

/-- A fingerprint of the bridge in a record. -/
theorem slim_runtimeFingerprint (kind : RuntimeFingerprintKind) (digest : World.Digest) :
    Slim (.str (kind.text digest)) := by
  have hkind : kind.value.length ≤ 20 ∧ kind.value.all isPrintable = true := by
    cases kind <;> decide
  have htag : (py ":sha256:").length = 8 ∧ (py ":sha256:").all isPrintable = true := by decide
  have hdigest : digest.text.length = 64 := digest.hex.1
  refine Slim.str ?_ (utf8Encodable_of_printable ?_)
  · rw [RuntimeFingerprintKind.text, List.length_append, List.length_append, maxSlimCharacters]
    omega
  · rw [RuntimeFingerprintKind.text, List.all_append, List.all_append, hkind.2, htag.2,
      Artifacts.printable_digest]
    rfl

end Fingerprints

section Endpoints

/-- A rebuilt schema is the schema. -/
theorem rebuildSchemaContract_ok {source rebuilt : ContractSchema} {fieldName : PyStr}
    (h : rebuildSchemaContract source fieldName = .ok rebuilt) : rebuilt = source := by
  have hself := rebuildNode_self source.built
  rw [rebuildSchemaContract, Checks.unit_bind_ok] at h
  obtain ⟨-, h⟩ := h
  split at h
  · cases h
  · next schema hschema =>
    have hsame : source.schema = schema := Except.ok.inj (hself.symm.trans hschema)
    subst hsame
    rw [Checks.require_bind_ok, Checks.pure_ok] at h
    exact h.2.symm

/-- The constructor of an endpoint returns its arguments. -/
theorem EndpointContent.init_ok {arguments endpoint : EndpointContent}
    (h : arguments.init = .ok endpoint) : endpoint = arguments := by
  rw [init, Checks.bind_ok] at h
  obtain ⟨requestSchema, hrequest, h⟩ := h
  rw [Checks.bind_ok] at h
  obtain ⟨responseSchema, hresponse, h⟩ := h
  rw [Checks.require_bind_ok, Checks.require_bind_ok, Checks.unit_bind_ok, Checks.pure_ok] at h
  obtain ⟨-, -, -, rfl⟩ := h
  rw [rebuildSchemaContract_ok hrequest, rebuildSchemaContract_ok hresponse]

/-- An endpoint equals itself. -/
theorem EndpointContent.same_self (p : Platform) (endpoint : EndpointContent) :
    endpoint.same p endpoint = true := by
  rw [same, ValueSchema.same_self, ValueSchema.same_self]
  simp

/-- The constructor accepts the attributes of an endpoint unchanged. -/
theorem RosServiceEndpoint.init_self (endpoint : RosServiceEndpoint) :
    endpoint.toEndpointContent.init = .ok endpoint.toEndpointContent := by
  obtain ⟨arguments, h⟩ := endpoint.constructed
  have hsame := EndpointContent.init_ok h
  rw [← hsame] at h
  exact h

/-- Constructing an endpoint again gives the endpoint. -/
theorem RosServiceEndpoint.build_self (endpoint : RosServiceEndpoint) :
    endpoint.toEndpointContent.build = .ok endpoint :=
  Checks.constructFrom_ok.mpr ⟨endpoint.toEndpointContent, endpoint.init_self, rfl⟩

/-- A rebuilt endpoint is the endpoint. -/
theorem rebuildEndpoint_self (p : Platform) (endpoint : RosServiceEndpoint) :
    rebuildEndpoint p endpoint = .ok endpoint := by
  rw [rebuildEndpoint, endpoint.build_self, Checks.ok_bind, Checks.require_bind_ok]
  exact ⟨EndpointContent.same_self p _, rfl⟩

end Endpoints

section Bindings

variable {p : Platform}

/-- A rebuilt skill definition is the definition. -/
theorem rebuildSkillDefinition_self (p : Platform) (skill : SkillDefinition) :
    rebuildSkillDefinition p skill = .ok skill := by
  obtain ⟨hinput, houtput⟩ := skill.graphs
  rw [rebuildSkillDefinition, rebuildSchemaContract_self hinput, Checks.ok_bind,
    rebuildSchemaContract_self houtput, Checks.ok_bind, Checks.bind_ok]
  refine ⟨skill, Checks.mapError_ok.mpr skill.build_self, ?_⟩
  rw [Checks.require_bind_ok]
  exact ⟨⟨SkillContent.same_self p _, rfl⟩, rfl⟩

/-- What the constructor of an endpoint binding checks. -/
structure EndpointBindingContent.Accepted (p : Platform) (binding : EndpointBindingContent) :
    Prop where
  available : binding.skillDefinition.availability = .available
  /-- The skill serves the capability. -/
  served : binding.capabilityId ∈ binding.skillDefinition.capabilityIds
  /-- The skill and the endpoint have one backend. -/
  backend : binding.skillDefinition.backendId = binding.endpoint.backendId
  /-- The endpoint takes what the skill takes. -/
  input : binding.skillDefinition.inputSchema.schema.same binding.endpoint.requestSchema.schema =
    true
  /-- The endpoint returns what the skill returns. -/
  output : binding.skillDefinition.outputSchema.schema.same
    binding.endpoint.responseSchema.schema = true
  /-- The endpoint does not outlast the skill. -/
  timeout : binding.endpoint.timeoutMs ≤ binding.skillDefinition.timeoutMs
  /-- The document is within the limits. -/
  allowed : Allowed (binding.document p)

/-- The constructor of an endpoint binding returns its arguments when it accepts them. -/
theorem EndpointBindingContent.init_ok {arguments binding : EndpointBindingContent} :
    arguments.init p = .ok binding ↔ binding = arguments ∧ arguments.Accepted p := by
  rw [init, rebuildSkillDefinition_self, Checks.ok_bind, rebuildEndpoint_self]
  simp only [Except.mapError, Checks.ok_bind, Checks.require_bind_ok]
  rw [Checks.unit_bind_ok, checkDocument_ok, Checks.pure_ok]
  constructor
  · rintro ⟨available, served, backend, input, output, timeout, allowed, rfl⟩
    exact ⟨rfl, ⟨available, served, backend, input, output, timeout, allowed⟩⟩
  · rintro ⟨rfl, h⟩
    exact ⟨h.available, h.served, h.backend, h.input, h.output, h.timeout, h.allowed, rfl⟩

/-- An endpoint binding is accepted. -/
theorem RuntimeEndpointBinding.accepted (binding : RuntimeEndpointBinding p) :
    binding.Accepted p := by
  obtain ⟨arguments, h⟩ := binding.constructed
  rw [EndpointBindingContent.init_ok] at h
  rw [h.1]
  exact h.2

/-- Constructing an endpoint binding again gives the endpoint binding. -/
theorem RuntimeEndpointBinding.build_self (binding : RuntimeEndpointBinding p) :
    binding.toEndpointBindingContent.build p = .ok binding :=
  Checks.constructFrom_ok.mpr ⟨binding.toEndpointBindingContent,
    EndpointBindingContent.init_ok.mpr ⟨rfl, binding.accepted⟩, rfl⟩

/-- An endpoint binding equals itself. -/
theorem EndpointBindingContent.same_self (p : Platform) (binding : EndpointBindingContent) :
    binding.same p binding = true := by
  rw [same, SkillContent.same_self, EndpointContent.same_self]
  simp

end Bindings

section Registries

variable {p : Platform}

/-- The bindings of a registry equal themselves. -/
theorem RuntimeRegistryContent.sameBindings_self (bindings : List (RuntimeEndpointBinding p)) :
    sameBindings bindings bindings = true := by
  induction bindings with
  | nil => rfl
  | cons binding bindings ih =>
    rw [sameBindings, EndpointBindingContent.same_self, ih]
    rfl

/-- A registry equals itself. -/
theorem RuntimeRegistryContent.same_self (registry : RuntimeRegistryContent p) :
    registry.same registry = true := by
  rw [same, sameBindings_self]
  simp

/-- What the constructor of a registry returns it accepts unchanged. -/
theorem RuntimeRegistryContent.init_self {arguments registry : RuntimeRegistryContent p}
    (h : arguments.init = .ok registry) : registry.init = .ok registry := by
  rw [init, Checks.require_bind_ok, Checks.bind_ok] at h
  obtain ⟨hfew, bindings, hbindings, h⟩ := h
  rw [Checks.require_bind_ok, Checks.require_bind_ok, Checks.unit_bind_ok, Checks.pure_ok] at h
  obtain ⟨hids, hnames, hdocument, rfl⟩ := h
  have hlength := (orderedUnique_perm hbindings).length_eq
  rw [init, Checks.require_bind_ok, Checks.bind_ok]
  refine ⟨hlength.trans_le hfew, bindings, orderedUnique_self hbindings, ?_⟩
  rw [Checks.require_bind_ok, Checks.require_bind_ok, Checks.unit_bind_ok, Checks.pure_ok]
  exact ⟨hids, hnames, hdocument, rfl⟩

/-- Constructing a registry again gives the registry. -/
theorem RuntimeEndpointRegistry.build_self (registry : RuntimeEndpointRegistry p) :
    registry.toRuntimeRegistryContent.build = .ok registry := by
  obtain ⟨arguments, h⟩ := registry.constructed
  exact Checks.constructFrom_ok.mpr
    ⟨registry.toRuntimeRegistryContent, RuntimeRegistryContent.init_self h, rfl⟩

/-- A resolved endpoint binding is one of the registry for the skill, capability and backend. -/
theorem RuntimeEndpointRegistry.resolve_some {registry : RuntimeEndpointRegistry p}
    {skillId capabilityId backendId : World.Name} {skillVersion : SemanticVersion}
    {binding : RuntimeEndpointBinding p}
    (h : registry.resolve skillId skillVersion capabilityId backendId = some binding) :
    binding ∈ registry.bindings ∧ binding.skillDefinition.skillId = skillId ∧
      binding.skillDefinition.version = skillVersion ∧ binding.capabilityId = capabilityId ∧
      binding.endpoint.backendId = backendId := by
  rw [resolve] at h
  have hfound := List.find?_some h
  rw [decide_eq_true_eq] at hfound
  exact ⟨List.mem_of_find?_eq_some h, hfound⟩

end Registries

end Runtime
end AyyoHumanoid
