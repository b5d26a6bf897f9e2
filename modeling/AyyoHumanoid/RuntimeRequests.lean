import AyyoHumanoid.RuntimeRebuilds

/-!
# Runtime requests

A runtime request ties one invocation of the skill manager to one endpoint
binding of the registry. The constructor rebuilds both, compares them, validates
the parameters against the request schema of the endpoint and names the request
by the digest of a document that pins everything it rests on.
-/

namespace AyyoHumanoid
namespace Runtime

open PyText JsonText PyCollections Contracts Skills
open World (Name Digest)
open Executive (ContextReference JsonDict)
open Safety (SafetyApprovalRequirement)

section Equality

/-- The value that Python compares of a boolean or a number. -/
def numberOf : Json → Option Rat
  | .bool value => some (if value then 1 else 0)
  | .int value => some value
  | .float token => some token.exact
  | _ => none

mutual

/-- `left == right` of JSON values. -/
def sameJson : Json → Json → Bool
  | .null, .null => true
  | .str left, .str right => left == right
  | .arr left, .arr right => sameItems left right
  | .obj left, .obj right => left.length == right.length && sameEntries left right
  | left, right => (numberOf left).isSome && numberOf left == numberOf right

/-- `==` of lists. -/
def sameItems : List Json → List Json → Bool
  | [], [] => true
  | left :: lefts, right :: rights => sameJson left right && sameItems lefts rights
  | _, _ => false

/-- Every entry is one of the other dictionary. -/
def sameEntries : List (PyStr × Json) → List (PyStr × Json) → Bool
  | [], _ => true
  | (key, value) :: entries, others =>
    (others.any fun other => other.1 == key && sameJson value other.2) &&
      sameEntries entries others

end

mutual

/-- A JSON value equals itself. -/
theorem sameJson_self : ∀ value : Json, sameJson value value = true
  | .null => rfl
  | .bool value => by simp [sameJson, numberOf]
  | .int value => by simp [sameJson, numberOf]
  | .float token => by simp [sameJson, numberOf]
  | .str text => by simp [sameJson]
  | .arr items => by
    rw [sameJson]
    exact sameItems_self items
  | .obj entries => by
    have hentries := sameEntries_self entries entries fun entry hentry => hentry
    rw [sameJson, hentries]
    simp

/-- A list equals itself. -/
theorem sameItems_self : ∀ items : List Json, sameItems items items = true
  | [] => rfl
  | item :: items => by
    rw [sameItems, sameJson_self item, sameItems_self items]
    rfl

/-- The entries of a dictionary are entries of every dictionary that has them. -/
theorem sameEntries_self : ∀ entries others : List (PyStr × Json),
    (∀ entry ∈ entries, entry ∈ others) → sameEntries entries others = true
  | [], others, _ => rfl
  | (key, value) :: entries, others, h => by
    have hrest := sameEntries_self entries others fun entry hentry =>
      h entry (List.mem_cons_of_mem _ hentry)
    have hfound : (others.any fun other => other.1 == key && sameJson value other.2) = true := by
      rw [List.any_eq_true]
      refine ⟨(key, value), h _ List.mem_cons_self, ?_⟩
      rw [sameJson_self value]
      simp
    rw [sameEntries, hfound, hrest]
    rfl

end

end Equality

section Rebuilding

variable {p : Platform}

/-- `_rebuild_skill`. -/
def rebuildSkill (skill : SkillDefinition) : Except RuntimeError SkillDefinition :=
  (rebuildSkillDefinition p skill).mapError fun _ =>
    .invalidBinding (py "skill definition failed integrity review")

/-- `_rebuild_selection` of an invocation. -/
def rebuildInvocationSelection (selection : SkillSelection) (skill : SkillDefinition) :
    Except RuntimeError SkillSelection := do
  let rebuilt ← (SkillSelection.init { selection with skillDigest := skill.digest p }).mapError
    fun _ => .invalidBinding (py "skill selection failed integrity review")
  require (rebuilt = selection)
    (.invalidBinding (py "skill selection fingerprint is stale"))
  pure rebuilt

/-- `rebuild_invocation`. -/
def rebuildInvocation (invocation : SkillInvocation p) :
    Except RuntimeError (SkillInvocation p) := do
  let skill ← rebuildSkill (p := p) invocation.skillDefinition
  let selection ← rebuildInvocationSelection (p := p) invocation.selection skill
  let rebuilt ← (InvocationContent.build p {
    invocation.toInvocationContent with
    selection := selection
    skillDefinition := skill }).mapError fun _ =>
      .invalidBinding (py "skill invocation failed integrity review")
  require (rebuilt.same p invocation.toInvocationContent = true ∧
      rebuilt.digest p = invocation.digest p)
    (.invalidBinding (py "skill invocation fingerprint is stale"))
  pure rebuilt

/-- `_rebuild_endpoint`. -/
def reviewEndpoint (endpoint : RosServiceEndpoint) : Except RuntimeError RosServiceEndpoint :=
  (rebuildEndpoint p endpoint).mapError fun _ =>
    .invalidBinding (py "ROS endpoint failed integrity review")

/-- An endpoint binding of rebuilt parts. -/
def rebuildBinding (binding : RuntimeEndpointBinding p) :
    Except RuntimeError (RuntimeEndpointBinding p) := do
  let skill ← rebuildSkill (p := p) binding.skillDefinition
  let endpoint ← reviewEndpoint (p := p) binding.endpoint
  EndpointBindingContent.build p ⟨skill, binding.capabilityId, endpoint⟩

/-- `rebuild_registry`. -/
def rebuildRegistry (registry : RuntimeEndpointRegistry p) :
    Except RuntimeError (RuntimeEndpointRegistry p) := do
  let bindings ← registry.bindings.mapM rebuildBinding
  let rebuilt ← RuntimeRegistryContent.build ⟨registry.version, bindings⟩
  require (rebuilt.same registry.toRuntimeRegistryContent = true)
    (.invalidBinding (py "runtime registry fingerprint is stale"))
  pure rebuilt

end Rebuilding

section Requests

variable (p : Platform)

/-- The arguments of a `RuntimeRequest`; its fingerprint of a registry is known by its digest. -/
structure RequestContent where
  invocation : SkillInvocation p
  endpointBinding : RuntimeEndpointBinding p
  runtimeRegistryVersion : SemanticVersion
  /-- The digest of `runtime_registry_fingerprint`. -/
  runtimeRegistryDigest : Digest

/-- The attributes of a `RuntimeRequest`. -/
structure RequestAttributes extends RequestContent p where
  requestFields : JsonDict

variable {p}

/-- The document that names a request. -/
def RequestAttributes.document (request : RequestAttributes p) : Json :=
  let invocation := request.invocation
  let selection := invocation.selection
  let skill := invocation.skillDefinition
  .obj [(py "backend_id", .str skill.backendId.text),
    (py "capability_id", .str selection.capabilityId.text),
    (py "concurrency_policy", .str skill.concurrencyPolicy.value),
    (py "context_references",
      .arr (invocation.contextReferences.map ContextReference.document)),
    (py "endpoint_binding_fingerprint",
      .str (RuntimeFingerprintKind.endpointBinding.text (request.endpointBinding.digest p))),
    (py "endpoint_fingerprint",
      .str (RuntimeFingerprintKind.endpoint.text (request.endpointBinding.endpoint.digest p))),
    (py "invocation_fingerprint",
      .str (SkillFingerprintKind.invocation.text (invocation.digest p))),
    (py "invocation_id", .str (invocation.invocationId p)),
    (py "request_fields", .obj request.requestFields),
    (py "required_approvals",
      .arr (invocation.requiredApprovals.map SafetyApprovalRequirement.document)),
    (py "required_resources", .arr (skill.requiredResources.map ResourceRequirement.document)),
    (py "runtime_registry_fingerprint",
      .str (RuntimeFingerprintKind.registry.text request.runtimeRegistryDigest)),
    (py "runtime_registry_version", .str request.runtimeRegistryVersion.value),
    (py "schema", .str (py "ayyo.runtime-bridge.request.v1")),
    (py "skill_fingerprint", .str (SkillFingerprintKind.skill.text selection.skillDigest)),
    (py "skill_id", .str selection.skillId.text),
    (py "skill_registry_fingerprint",
      .str (SkillFingerprintKind.registry.text selection.registryDigest)),
    (py "skill_registry_version", .str selection.registryVersion.value),
    (py "skill_version", .str selection.skillVersion.value),
    (py "source_executive_decision_id", .str invocation.sourceExecutiveDecisionId),
    (py "source_executive_fingerprint", .str invocation.sourceExecutiveFingerprint.text),
    (py "source_policy_fingerprint", .str invocation.sourcePolicyFingerprint.text),
    (py "source_policy_version", .str invocation.sourcePolicyVersion),
    (py "source_proposal_fingerprint", .str invocation.sourceProposalFingerprint.text),
    (py "source_request_id", .str invocation.sourceRequestId),
    (py "source_safety_decision_id", .str invocation.sourceSafetyDecisionId),
    (py "source_safety_fingerprint", .str invocation.sourceSafetyFingerprint.text),
    (py "source_step_id", .str selection.sourceStepId.text)]

/-- The digest of `fingerprint`. -/
def RequestAttributes.digest (request : RequestAttributes p) : Digest :=
  World.documentDigest p request.document

/-- `request_id`. -/
def RequestAttributes.requestId (request : RequestAttributes p) : PyStr :=
  py "runtime-request-" ++ request.digest.text

/-- `left == right`; the request fields are not compared. -/
def RequestAttributes.same (left right : RequestAttributes p) : Bool :=
  left.invocation.same p right.invocation.toInvocationContent &&
    left.endpointBinding.same p right.endpointBinding.toEndpointBindingContent &&
    decide (left.runtimeRegistryVersion = right.runtimeRegistryVersion) &&
    decide (left.runtimeRegistryDigest = right.runtimeRegistryDigest) &&
    decide (left.digest = right.digest)

/-- The endpoint binding is for what the invocation selected. -/
def Serves (binding : RuntimeEndpointBinding p) (invocation : SkillInvocation p) : Prop :=
  binding.skillDefinition.skillId = invocation.selection.skillId ∧
    binding.skillDefinition.version = invocation.selection.skillVersion ∧
    binding.skillDefinition.digest p = invocation.selection.skillDigest ∧
    binding.capabilityId = invocation.selection.capabilityId ∧
    binding.endpoint.backendId = invocation.skillDefinition.backendId

instance (binding : RuntimeEndpointBinding p) (invocation : SkillInvocation p) :
    Decidable (Serves binding invocation) :=
  inferInstanceAs (Decidable (_ ∧ _))

/-- `InvalidRuntimeRegistryError` becomes a binding error, others stay. -/
def bindingFailed : RuntimeError → RuntimeError
  | .invalidRegistry _ =>
    .invalidBinding (py "runtime endpoint binding failed integrity review")
  | error => error

/-- `RuntimeRequest.__init__`. -/
def RequestContent.init (arguments : RequestContent p) :
    Except RuntimeError (RequestAttributes p) := do
  let invocation ← rebuildInvocation arguments.invocation
  let binding ← (rebuildBinding arguments.endpointBinding).mapError bindingFailed
  require (binding.same p arguments.endpointBinding.toEndpointBindingContent = true)
    (.invalidBinding (py "runtime endpoint binding fingerprint is stale"))
  require (invocation.status = .eligibleForRuntimeHandoff)
    (.invalidBinding (py "only an upstream runtime-handoff-eligible invocation can form a request"))
  require (Serves binding invocation)
    (.invalidBinding (py "Skill invocation and runtime endpoint binding disagree"))
  let requestFields ← (validateParameters binding.endpoint.requestSchema.schema
    (.obj invocation.parameters)).mapError fun _ =>
      .invalidBinding (py "invocation parameters do not match the endpoint request contract")
  validateJson .invalidBinding (py "runtime request fields") (.obj requestFields)
  let request : RequestAttributes p := {
    arguments with
    invocation := invocation
    endpointBinding := binding
    requestFields := requestFields }
  checkDocument .request request.document .invalidBinding
  pure request

variable (p)

/-- A `RuntimeRequest`: attributes that its constructor returned. -/
structure RuntimeRequest extends RequestAttributes p where
  /-- The constructor returned these attributes. -/
  constructed : ∃ arguments : RequestContent p, arguments.init = .ok toRequestAttributes

variable {p}

/-- `RuntimeRequest(...)`. -/
def RequestContent.build (arguments : RequestContent p) : Except RuntimeError (RuntimeRequest p) :=
  constructFrom RequestContent.init RuntimeRequest.mk arguments

/-- The endpoint binding that a registry has for an invocation. -/
def RuntimeEndpointRegistry.resolveInvocation (registry : RuntimeEndpointRegistry p)
    (invocation : SkillInvocation p) : Option (RuntimeEndpointBinding p) :=
  registry.resolve invocation.selection.skillId invocation.selection.skillVersion
    invocation.selection.capabilityId invocation.skillDefinition.backendId

/-- `bind_runtime_request`. -/
def bindRuntimeRequest (invocation : SkillInvocation p) (registry : RuntimeEndpointRegistry p) :
    Except RuntimeError (RuntimeRequest p) := do
  let currentInvocation ← rebuildInvocation invocation
  let currentRegistry ← rebuildRegistry registry
  match currentRegistry.resolveInvocation currentInvocation with
  | none =>
    .error (.invalidBinding (py "invocation has no exact registered Skill/backend/endpoint binding"))
  | some binding => do
    require (binding.skillDefinition.digest p = currentInvocation.selection.skillDigest)
      (.invalidBinding (py "registered runtime binding targets a different Skill fingerprint"))
    RequestContent.build ⟨currentInvocation, binding, currentRegistry.version,
      currentRegistry.digest⟩

end Requests

section Facts

variable {p : Platform}

/-- A rebuilt skill is the skill. -/
theorem rebuildSkill_self (skill : SkillDefinition) : rebuildSkill (p := p) skill = .ok skill := by
  rw [rebuildSkill, rebuildSkillDefinition_self]
  rfl

/-- A reviewed endpoint is the endpoint. -/
theorem reviewEndpoint_self (endpoint : RosServiceEndpoint) :
    reviewEndpoint (p := p) endpoint = .ok endpoint := by
  rw [reviewEndpoint, rebuildEndpoint_self]
  rfl

/-- A rebuilt invocation is the invocation. -/
theorem rebuildInvocation_self (invocation : SkillInvocation p) :
    rebuildInvocation invocation = .ok invocation := by
  have hdigest : invocation.skillDefinition.digest p = invocation.selection.skillDigest :=
    invocation.pins.2.2.1.symm
  have hselection : rebuildInvocationSelection (p := p) invocation.selection
      invocation.skillDefinition = .ok invocation.selection := by
    rw [rebuildInvocationSelection, hdigest, SkillSelection.init_self, Checks.bind_ok]
    refine ⟨invocation.selection, rfl, ?_⟩
    rw [Checks.require_bind_ok, Checks.pure_ok]
    exact ⟨rfl, rfl⟩
  rw [rebuildInvocation, rebuildSkill_self, Checks.ok_bind, hselection, Checks.ok_bind,
    Checks.bind_ok]
  refine ⟨invocation, Checks.mapError_ok.mpr invocation.build_self, ?_⟩
  rw [Checks.require_bind_ok, Checks.pure_ok]
  exact ⟨⟨InvocationContent.same_self p _, rfl⟩, rfl⟩

/-- A rebuilt endpoint binding is the endpoint binding. -/
theorem rebuildBinding_self (binding : RuntimeEndpointBinding p) :
    rebuildBinding binding = .ok binding := by
  rw [rebuildBinding, rebuildSkill_self, Checks.ok_bind, reviewEndpoint_self, Checks.ok_bind]
  exact binding.build_self

/-- A rebuilt registry is the registry. -/
theorem rebuildRegistry_self (registry : RuntimeEndpointRegistry p) :
    rebuildRegistry registry = .ok registry := by
  have hbindings : registry.bindings.mapM rebuildBinding = .ok registry.bindings := by
    rw [Checks.mapM_ok, List.forall₂_same]
    exact fun binding _ => rebuildBinding_self binding
  rw [rebuildRegistry, hbindings, Checks.ok_bind, registry.build_self, Checks.ok_bind,
    Checks.require_bind_ok, Checks.pure_ok]
  exact ⟨RuntimeRegistryContent.same_self _, rfl⟩

namespace RequestContent

/-- The attributes of a request with these arguments. -/
def attributes (arguments : RequestContent p) : RequestAttributes p :=
  { arguments with requestFields := arguments.invocation.parameters }

/-- The document of an output schema holds several values. -/
theorem nodes_schemaDocument (schema : ValueSchema) : 5 ≤ schema.document.nodes := by
  cases schema with
  | node fields properties itemSchema =>
    have hpositive := fun value : Json => value.nodes_pos
    rw [ValueSchema.document, Json.nodes_obj]
    simp only [List.map_cons, List.map_nil, List.sum_cons, List.sum_nil, Json.nodes_bool,
      Json.nodes_str]
    have hlisted := hpositive (.arr (fields.allowedValues.map Scalar.json))
    have hitem := hpositive (ValueSchema.itemDocument itemSchema)
    omega

/-- The document of a request is no larger than that of its invocation, up to its texts. -/
theorem nodes_document_le (arguments : RequestContent p) :
    arguments.attributes.document.nodes ≤
      (arguments.invocation.toInvocationContent.document p).nodes := by
  have hschema := nodes_schemaDocument arguments.invocation.skillDefinition.outputSchema.schema
  have hinteger : (Json.int arguments.invocation.skillDefinition.timeoutMs).nodes = 1 := rfl
  rw [RequestAttributes.document, InvocationContent.document, Json.nodes_obj, Json.nodes_obj]
  simp only [List.map_cons, List.map_nil, List.sum_cons, List.sum_nil, Json.nodes_str, attributes,
    hinteger]
  omega

/-- The document of a request is within the limits exactly when it has few enough characters. -/
theorem allowed_iff (arguments : RequestContent p) :
    Allowed arguments.attributes.document ↔
      arguments.attributes.document.characters ≤ maxJsonCharacters := by
  have hinvocation := arguments.invocation.allowed
  constructor
  · exact fun h => h.characters
  · intro hcharacters
    have hnodes := (nodes_document_le arguments).trans hinvocation.nodes
    have hconcurrency : utf8Encodable
        arguments.invocation.skillDefinition.concurrencyPolicy.value = true := by
      cases arguments.invocation.skillDefinition.concurrencyPolicy <;> decide
    have hid : utf8Encodable (arguments.invocation.invocationId p) = true := by
      refine utf8Encodable_of_printable ?_
      rw [InvocationContent.invocationId, List.all_append, Artifacts.printable_digest]
      decide
    rw [InvocationContent.document, allowed_obj] at hinvocation
    obtain ⟨-, -, -, -, hinside⟩ := hinvocation
    simp only [List.map_cons, List.map_nil, List.forall_mem_cons] at hinside
    obtain ⟨hbackend, -, hcontext, -, -, -, -, -, hparameters, happrovals, hresources, -, -, -,
      hdecisionId, hdecision, hpolicy, hversion, hproposal, hrequestId, hsafetyId, hsafety, -⟩ :=
      hinside
    have hname := fun name : Name => (slim_name name).inside
    have hsemantic := fun version : SemanticVersion => (slim_version version).inside
    have hskill := fun kind digest => (slim_fingerprint kind digest).inside
    have hruntime := fun kind digest => (slim_runtimeFingerprint kind digest).inside
    rw [RequestAttributes.document] at hnodes hcharacters ⊢
    rw [allowed_obj]
    refine ⟨hnodes, hcharacters, ?_, ?_, ?_⟩
    · simp only [List.length_cons, List.length_nil]
      decide
    · simp only [List.map_cons, List.map_nil]
      decide
    · simp only [List.map_cons, List.map_nil, List.forall_mem_cons]
      exact ⟨hbackend, hname _, .str hconcurrency, hcontext, hruntime _ _, hruntime _ _,
        hskill _ _, .str hid, hparameters, happrovals, hresources, hruntime _ _, hsemantic _,
        .str (by decide), hskill _ _, hname _, hskill _ _, hsemantic _, hsemantic _, hdecisionId,
        hdecision, hpolicy, hversion, hproposal, hrequestId, hsafetyId, hsafety, hname _,
        fun value hvalue => absurd hvalue List.not_mem_nil⟩

/-- What the constructor of a request checks. -/
structure Accepted (arguments : RequestContent p) : Prop where
  eligible : arguments.invocation.status = .eligibleForRuntimeHandoff
  /-- The endpoint binding is for what the invocation selected. -/
  serves : Serves arguments.endpointBinding arguments.invocation
  /-- The parameters conform to the request schema of the endpoint. -/
  validated : validateParameters arguments.endpointBinding.endpoint.requestSchema.schema
    (.obj arguments.invocation.parameters) = .ok arguments.invocation.parameters
  /-- The document is within the limits. -/
  allowed : Allowed arguments.attributes.document

/-- The constructor of a request returns its attributes when it accepts the arguments. -/
theorem init_ok {arguments : RequestContent p} {request : RequestAttributes p} :
    arguments.init = .ok request ↔ request = arguments.attributes ∧ arguments.Accepted := by
  rw [init, rebuildInvocation_self, Checks.ok_bind, rebuildBinding_self, Except.mapError,
    Checks.ok_bind, Checks.require_bind_ok, Checks.require_bind_ok, Checks.require_bind_ok,
    Checks.bind_ok]
  constructor
  · rintro ⟨-, eligible, serves, fields, hfields, h⟩
    rw [Checks.mapError_ok] at hfields
    obtain ⟨-, -, -, hsame, -⟩ := (validateParameters_ok
      arguments.endpointBinding.endpoint.requestSchema.built).mp hfields
    rw [Json.obj.injEq] at hsame
    subst hsame
    rw [Checks.unit_bind_ok, Checks.unit_bind_ok, checkDocument_ok, Checks.pure_ok] at h
    obtain ⟨-, allowed, rfl⟩ := h
    exact ⟨rfl, ⟨eligible, serves, hfields, allowed⟩⟩
  · rintro ⟨rfl, h⟩
    refine ⟨EndpointBindingContent.same_self p _, h.eligible, h.serves,
      arguments.invocation.parameters, Checks.mapError_ok.mpr h.validated, ?_⟩
    rw [Checks.unit_bind_ok, Checks.unit_bind_ok, checkDocument_ok, Checks.pure_ok,
      Contracts.validateJson_ok]
    have hvalid := (validateParameters_ok
      arguments.endpointBinding.endpoint.requestSchema.built).mp h.validated
    exact ⟨hvalid.2.2.1, h.allowed, rfl⟩

/-- Accepted arguments build a request. -/
theorem Accepted.build {arguments : RequestContent p} (h : arguments.Accepted) :
    ∃ request, arguments.build = .ok request := by
  have hinit : arguments.init = .ok arguments.attributes := init_ok.mpr ⟨rfl, h⟩
  exact ⟨_, Checks.constructFrom_ok.mpr ⟨arguments.attributes, hinit, rfl⟩⟩

/-- A built request has the attributes of its accepted arguments. -/
theorem build_ok {arguments : RequestContent p} {request : RuntimeRequest p}
    (h : arguments.build = .ok request) :
    request.toRequestAttributes = arguments.attributes ∧ arguments.Accepted := by
  rw [build, Checks.constructFrom_ok] at h
  obtain ⟨attributes, hinit, rfl⟩ := h
  exact init_ok.mp hinit

end RequestContent

/-- The attributes of a request are those of its accepted arguments. -/
theorem RuntimeRequest.accepted (request : RuntimeRequest p) :
    request.toRequestAttributes = request.toRequestContent.attributes ∧
      request.toRequestContent.Accepted := by
  obtain ⟨arguments, h⟩ := request.constructed
  rw [RequestContent.init_ok] at h
  obtain ⟨hrequest, haccepted⟩ := h
  have hcontent : request.toRequestContent = arguments := by
    rw [hrequest]
    rfl
  rw [hcontent]
  exact ⟨hrequest, haccepted⟩

/-- Constructing a request again gives the request. -/
theorem RuntimeRequest.build_self (request : RuntimeRequest p) :
    request.toRequestContent.build = .ok request := by
  obtain ⟨hrequest, haccepted⟩ := request.accepted
  refine Checks.constructFrom_ok.mpr ⟨request.toRequestAttributes, ?_, rfl⟩
  exact RequestContent.init_ok.mpr ⟨hrequest, haccepted⟩

/-- A request equals itself. -/
theorem RequestAttributes.same_self (request : RequestAttributes p) :
    request.same request = true := by
  rw [same, InvocationContent.same_self, EndpointBindingContent.same_self]
  simp

end Facts

end Runtime
end AyyoHumanoid
