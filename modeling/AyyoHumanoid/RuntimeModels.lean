import AyyoHumanoid.SkillBinding

/-!
# Endpoints and the runtime endpoint registry

The runtime bridge lists the reviewed ROS services that a skill may use. It
rebuilds every contract of the skill manager before it relies on it: a schema
from its parts, a definition from its attributes. An endpoint binding ties one
skill to one endpoint with the same schemas, and a registry is a closed set of
bindings.
-/

namespace AyyoHumanoid
namespace Runtime

open PyText JsonText PyCollections Contracts Skills
open World (Name Digest)

section Errors

/-- The validation exceptions of the runtime bridge and its assertions. -/
inductive RuntimeError where
  /-- `InvalidRuntimeContractError`. -/
  | invalidContract (message : PyStr)
  /-- `InvalidRosEndpointError`. -/
  | invalidEndpoint (message : PyStr)
  /-- `InvalidRuntimeRegistryError`. -/
  | invalidRegistry (message : PyStr)
  /-- `InvalidRuntimeBindingError`. -/
  | invalidBinding (message : PyStr)
  /-- A failed assertion. -/
  | assertion
  deriving DecidableEq

/-- `RuntimeFingerprintKind`. -/
inductive RuntimeFingerprintKind where
  | endpoint | endpointBinding | registry | request | decision
  deriving DecidableEq, Repr

/-- The text of a fingerprint kind. -/
def RuntimeFingerprintKind.value : RuntimeFingerprintKind → PyStr
  | .endpoint => py "endpoint"
  | .endpointBinding => py "endpoint_binding"
  | .registry => py "registry"
  | .request => py "request"
  | .decision => py "decision"

/-- `str(fingerprint)` of a `RuntimeFingerprint`. -/
def RuntimeFingerprintKind.text (kind : RuntimeFingerprintKind) (digest : Digest) : PyStr :=
  kind.value ++ py ":sha256:" ++ digest.text

/-- The checks of `fingerprint_document`; the digest is that of the document. -/
def checkDocument (kind : RuntimeFingerprintKind) (document : Json) (error : PyStr → RuntimeError) :
    Except RuntimeError Unit :=
  validateJson error (kind.value ++ py " fingerprint document") document

/-- A document can be named exactly when it is within the limits. -/
theorem checkDocument_ok {kind : RuntimeFingerprintKind} {document : Json}
    {error : PyStr → RuntimeError} {u : Unit} :
    checkDocument kind document error = .ok u ↔ Allowed document :=
  Contracts.validateJson_ok

end Errors

section Schemas

mutual

/-- `rebuild` of `rebuild_schema_contract`. -/
def rebuildNode : ValueSchema → Except SkillError ValueSchema
  | .node fields properties itemSchema => do
    let properties ← rebuildProperties properties
    let itemSchema ← rebuildItem itemSchema
    (ValueSchema.node fields properties itemSchema).init

/-- The rebuilt properties. -/
def rebuildProperties : List (SchemaLabel × ValueSchema) →
    Except SkillError (List (SchemaLabel × ValueSchema))
  | [] => .ok []
  | (label, schema) :: properties => do
    let rebuilt ← rebuildNode schema
    let others ← rebuildProperties properties
    pure ((label, rebuilt) :: others)

/-- The rebuilt item schema. -/
def rebuildItem : Option ValueSchema → Except SkillError (Option ValueSchema)
  | none => .ok none
  | some schema => do
    let rebuilt ← rebuildNode schema
    pure (some rebuilt)

end

/-- Properties whose schemas are rebuilt unchanged. -/
theorem rebuildProperties_self {properties : List (SchemaLabel × ValueSchema)}
    (h : ∀ property ∈ properties, rebuildNode property.2 = .ok property.2) :
    rebuildProperties properties = .ok properties := by
  induction properties with
  | nil => rw [rebuildProperties]
  | cons property properties ih =>
    rw [List.forall_mem_cons] at h
    rw [rebuildProperties, h.1, ih h.2]
    rfl

/-- Rebuilding a schema of the constructors gives the schema. -/
theorem rebuildNode_self {schema : ValueSchema} (h : schema.Built) :
    rebuildNode schema = .ok schema := by
  induction h with
  | @intro arguments schema returned parts ih =>
    have hinit := ValueSchema.init_self returned
    cases schema with
    | node fields properties itemSchema =>
      have hproperties := @rebuildProperties_self properties fun property hproperty =>
        ih property.2 (by simp [ValueSchema.children, ValueSchema.properties]; grind)
      have hitem : rebuildItem itemSchema = .ok itemSchema := by
        cases itemSchema with
        | none => rw [rebuildItem]
        | some item =>
          have hself := ih item (by simp [ValueSchema.children, ValueSchema.itemSchema])
          rw [rebuildItem, hself]
          rfl
      rw [rebuildNode, hproperties, hitem]
      exact hinit

/-- `rebuild_schema_contract`. -/
def rebuildSchemaContract (source : ContractSchema) (fieldName : PyStr) :
    Except RuntimeError ContractSchema := do
  graphLoop (RuntimeError.invalidEndpoint (fieldName ++ py " exceeds the schema node limit"))
    (.invalidEndpoint (fieldName ++ py " exceeds the schema depth limit")) maxSchemaNodes
    [(source.schema, 0)]
  match h : rebuildNode source.schema with
  | .error _ =>
    .error (.invalidEndpoint (fieldName ++ py " failed schema integrity reconstruction"))
  | .ok rebuilt => do
    require (rebuilt.same source.schema = true)
      (.invalidEndpoint (fieldName ++ py " is not canonical"))
    pure ⟨rebuilt, Except.ok.inj ((rebuildNode_self source.built).symm.trans h) ▸ source.built⟩

/-- Rebuilding a schema within the limits gives the schema. -/
theorem rebuildSchemaContract_self {source : ContractSchema} {fieldName : PyStr}
    (h : validateSchemaGraph source.schema = .ok ()) :
    rebuildSchemaContract source fieldName = .ok source := by
  have hself := rebuildNode_self source.built
  rw [rebuildSchemaContract, Checks.unit_bind_ok]
  refine ⟨graphLoop_ok _ _ h, ?_⟩
  split
  · next error herror =>
    rw [hself] at herror
    cases herror
  · next rebuilt hrebuilt =>
    obtain rfl : source.schema = rebuilt := Except.ok.inj (hself.symm.trans hrebuilt)
    rw [Checks.require_bind_ok]
    exact ⟨ValueSchema.same_self _, rfl⟩

end Schemas

section Endpoints

/-- `MAX_ROS_NAME_LENGTH`. -/
def maxRosNameLength : Nat := 256

/-- `MAX_RUNTIME_BINDINGS`. -/
def maxRuntimeBindings : Nat := 256

/-- A lowercase ASCII letter. -/
def isLowerLetter (c : CodePoint) : Bool := 97 ≤ c.val && c.val ≤ 122

/-- `_ROS_PACKAGE_PATTERN.fullmatch(text)`, `_ROS_NAME_TOKEN_PATTERN.fullmatch(text)`. -/
def isRosToken (text : PyStr) : Bool :=
  text.head?.any isLowerLetter && text.all fun c => isLowerLetter c || isDigit c || c.val == 95

/-- `_ROS_INTERFACE_PATTERN.fullmatch(text)`. -/
def isRosInterface (text : PyStr) : Bool :=
  text.head?.any (fun c => 65 ≤ c.val && c.val ≤ 90) && text.all isAsciiAlnum

/-- `/`. -/
def slash : CodePoint := 47

/-- The checks of `_validate_namespace` after the length. -/
def isRosNamespace (text : PyStr) : Bool :=
  text == [slash] || (text.head? == some slash && text.getLast? != some slash &&
    (text.tail.splitOn slash).all isRosToken)

/-- A bounded text of a ROS name. -/
structure RosName (spells : PyStr → Bool) where
  text : PyStr
  /-- It is not too long. -/
  short : text.length ≤ maxRosNameLength
  /-- It is spelled as required. -/
  spelled : spells text = true
  deriving DecidableEq

/-- `RosEndpointAvailability`. -/
inductive RosEndpointAvailability where
  | available | unavailable | disabled
  deriving DecidableEq, Repr

/-- The text of an availability. -/
def RosEndpointAvailability.value : RosEndpointAvailability → PyStr
  | .available => py "available"
  | .unavailable => py "unavailable"
  | .disabled => py "disabled"

/-- The attributes of a `RosServiceEndpoint` besides its schemas; its kind is always the same. -/
structure EndpointHeader where
  endpointId : Name
  backendId : Name
  packageName : RosName isRosToken
  interfaceName : RosName isRosInterface
  endpointName : RosName isRosToken
  /-- `namespace`. -/
  rosNamespace : RosName isRosNamespace
  timeoutMs : Nat
  availability : RosEndpointAvailability
  deriving DecidableEq

/-- The arguments and the attributes of a `RosServiceEndpoint`. -/
structure EndpointContent extends EndpointHeader where
  requestSchema : ContractSchema
  responseSchema : ContractSchema

namespace EndpointContent

/-- `fully_qualified_name`. -/
def fullyQualifiedName (endpoint : EndpointContent) : PyStr :=
  (if endpoint.rosNamespace.text = [slash] then [] else endpoint.rosNamespace.text) ++
    slash :: endpoint.endpointName.text

/-- The document that names an endpoint. -/
def document (endpoint : EndpointContent) : Json :=
  .obj [(py "availability", .str endpoint.availability.value),
    (py "backend_id", .str endpoint.backendId.text),
    (py "endpoint_id", .str endpoint.endpointId.text),
    (py "endpoint_name", .str endpoint.endpointName.text),
    (py "interface_name", .str endpoint.interfaceName.text),
    (py "kind", .str (py "service_request")),
    (py "namespace", .str endpoint.rosNamespace.text),
    (py "package_name", .str endpoint.packageName.text),
    (py "request_schema", endpoint.requestSchema.schema.document),
    (py "response_schema", endpoint.responseSchema.schema.document),
    (py "schema", .str (py "ayyo.runtime-bridge.ros-service-endpoint.v1")),
    (py "timeout_ms", .int endpoint.timeoutMs)]

/-- The digest of `fingerprint`. -/
def digest (p : Platform) (endpoint : EndpointContent) : Digest :=
  World.documentDigest p endpoint.document

/-- `left == right`. -/
def same (p : Platform) (left right : EndpointContent) : Bool :=
  decide (left.toEndpointHeader = right.toEndpointHeader) &&
    left.requestSchema.schema.same right.requestSchema.schema &&
    left.responseSchema.schema.same right.responseSchema.schema &&
    decide (left.digest p = right.digest p)

/-- `RosServiceEndpoint.__init__`. -/
def init (arguments : EndpointContent) : Except RuntimeError EndpointContent := do
  let requestSchema ← rebuildSchemaContract arguments.requestSchema (py "request_schema")
  let responseSchema ← rebuildSchemaContract arguments.responseSchema (py "response_schema")
  require (requestSchema.schema.fields.valueType = .object ∧
      requestSchema.schema.fields.nullable = false ∧
      responseSchema.schema.fields.valueType = .object ∧
      responseSchema.schema.fields.nullable = false)
    (.invalidEndpoint (py "service request and response schemas must be non-null objects"))
  require (1 ≤ arguments.timeoutMs ∧ arguments.timeoutMs ≤ maxSkillTimeoutMs)
    (.invalidEndpoint (py "endpoint timeout_ms is outside v1 bounds"))
  let endpoint : EndpointContent := {
    arguments with
    requestSchema := requestSchema
    responseSchema := responseSchema }
  checkDocument .endpoint endpoint.document .invalidEndpoint
  pure endpoint

end EndpointContent

/-- A `RosServiceEndpoint`: attributes that its constructor returned. -/
structure RosServiceEndpoint extends EndpointContent where
  /-- The constructor returned these attributes. -/
  constructed : ∃ arguments : EndpointContent, arguments.init = .ok toEndpointContent

/-- `RosServiceEndpoint(...)`. -/
def EndpointContent.build (arguments : EndpointContent) : Except RuntimeError RosServiceEndpoint :=
  constructFrom EndpointContent.init RosServiceEndpoint.mk arguments

/-- `rebuild_ros_service_endpoint`. -/
def rebuildEndpoint (p : Platform) (endpoint : RosServiceEndpoint) :
    Except RuntimeError RosServiceEndpoint := do
  let rebuilt ← endpoint.toEndpointContent.build
  require (rebuilt.same p endpoint.toEndpointContent = true)
    (.invalidEndpoint (py "ROS endpoint fingerprint is stale"))
  pure rebuilt

end Endpoints

section Bindings

variable (p : Platform)

/-- `rebuild_skill_definition`. -/
def rebuildSkillDefinition (skill : SkillDefinition) : Except RuntimeError SkillDefinition := do
  let inputSchema ← rebuildSchemaContract skill.inputSchema (py "skill input schema")
  let outputSchema ← rebuildSchemaContract skill.outputSchema (py "skill output schema")
  let content : SkillContent := {
    skill.toSkillContent with
    inputSchema := inputSchema
    outputSchema := outputSchema }
  let rebuilt ← content.build.mapError fun _ =>
    .invalidRegistry (py "skill definition failed integrity reconstruction")
  require (rebuilt.same p skill.toSkillContent = true ∧ rebuilt.digest p = skill.digest p)
    (.invalidRegistry (py "skill definition fingerprint is stale"))
  pure rebuilt

/-- The arguments of a `RuntimeEndpointBinding`, which are its attributes too. -/
structure EndpointBindingContent where
  skillDefinition : SkillDefinition
  capabilityId : Name
  endpoint : RosServiceEndpoint

namespace EndpointBindingContent

/-- The document that names an endpoint binding. -/
def document (binding : EndpointBindingContent) : Json :=
  .obj [(py "backend_id", .str binding.endpoint.backendId.text),
    (py "capability_id", .str binding.capabilityId.text),
    (py "endpoint_fingerprint",
      .str (RuntimeFingerprintKind.endpoint.text (binding.endpoint.digest p))),
    (py "schema", .str (py "ayyo.runtime-bridge.endpoint-binding.v1")),
    (py "skill_fingerprint",
      .str (SkillFingerprintKind.skill.text (binding.skillDefinition.digest p))),
    (py "skill_id", .str binding.skillDefinition.skillId.text),
    (py "skill_version", .str binding.skillDefinition.version.value)]

/-- The digest of `fingerprint`. -/
def digest (binding : EndpointBindingContent) : Digest :=
  World.documentDigest p (binding.document p)

/-- `left == right`. -/
def same (left right : EndpointBindingContent) : Bool :=
  left.skillDefinition.same p right.skillDefinition.toSkillContent &&
    decide (left.capabilityId = right.capabilityId) &&
    left.endpoint.same p right.endpoint.toEndpointContent &&
    decide (left.digest p = right.digest p)

/-- `_rebuild_endpoint` of the constructor, with its own message. -/
def endpointFailed (_ : RuntimeError) : RuntimeError :=
  .invalidRegistry (py "runtime binding ROS endpoint failed integrity reconstruction")

/-- `RuntimeEndpointBinding.__init__`. -/
def init (arguments : EndpointBindingContent) : Except RuntimeError EndpointBindingContent := do
  let skill ← rebuildSkillDefinition p arguments.skillDefinition
  let endpoint ← (rebuildEndpoint p arguments.endpoint).mapError endpointFailed
  require (skill.availability = .available)
    (.invalidRegistry (py "runtime bindings may reference only available skills"))
  require (arguments.capabilityId ∈ skill.capabilityIds)
    (.invalidRegistry (py "runtime binding capability is absent from the skill contract"))
  require (skill.backendId = endpoint.backendId)
    (.invalidRegistry (py "skill and endpoint backend declarations disagree"))
  require (skill.inputSchema.schema.same endpoint.requestSchema.schema = true)
    (.invalidRegistry (py "skill input and endpoint request schemas disagree"))
  require (skill.outputSchema.schema.same endpoint.responseSchema.schema = true)
    (.invalidRegistry (py "skill output and endpoint response schemas disagree"))
  require (endpoint.timeoutMs ≤ skill.timeoutMs)
    (.invalidRegistry (py "endpoint timeout cannot exceed the Skill contract timeout"))
  let binding : EndpointBindingContent := ⟨skill, arguments.capabilityId, endpoint⟩
  checkDocument .endpointBinding (binding.document p) .invalidRegistry
  pure binding

/-- `_binding_key`. -/
def key (binding : EndpointBindingContent) : PyStr ×ₗ PyStr ×ₗ PyStr ×ₗ PyStr :=
  toLex (binding.skillDefinition.skillId.text, toLex (binding.skillDefinition.version.value,
    toLex (binding.capabilityId.text, binding.endpoint.backendId.text)))

end EndpointBindingContent

/-- A `RuntimeEndpointBinding`: attributes that its constructor returned. -/
structure RuntimeEndpointBinding extends EndpointBindingContent where
  /-- The constructor returned these attributes. -/
  constructed : ∃ arguments : EndpointBindingContent, arguments.init p = .ok toEndpointBindingContent

/-- `RuntimeEndpointBinding(...)`. -/
def EndpointBindingContent.build (arguments : EndpointBindingContent) :
    Except RuntimeError (RuntimeEndpointBinding p) :=
  constructFrom (EndpointBindingContent.init p) RuntimeEndpointBinding.mk arguments

end Bindings

section Registries

variable (p : Platform)

/-- The arguments and the attributes of a `RuntimeEndpointRegistry`. -/
structure RuntimeRegistryContent where
  version : SemanticVersion
  bindings : List (RuntimeEndpointBinding p)

variable {p}

namespace RuntimeRegistryContent

/-- The document that names a registry. -/
def document (registry : RuntimeRegistryContent p) : Json :=
  .obj [(py "bindings", Executive.textItems (registry.bindings.map fun binding =>
      RuntimeFingerprintKind.endpointBinding.text (binding.digest p))),
    (py "schema", .str (py "ayyo.runtime-bridge.endpoint-registry.v1")),
    (py "version", .str registry.version.value)]

/-- The digest of `fingerprint`. -/
def digest (registry : RuntimeRegistryContent p) : Digest :=
  World.documentDigest p registry.document

/-- `left == right` of the bindings. -/
def sameBindings : List (RuntimeEndpointBinding p) → List (RuntimeEndpointBinding p) → Bool
  | [], [] => true
  | left :: lefts, right :: rights =>
    left.same p right.toEndpointBindingContent && sameBindings lefts rights
  | _, _ => false

/-- `left == right`. -/
def same (left right : RuntimeRegistryContent p) : Bool :=
  decide (left.version = right.version) && decide (left.digest = right.digest) &&
    sameBindings left.bindings right.bindings

/-- `RuntimeEndpointRegistry.__init__`. -/
def init (arguments : RuntimeRegistryContent p) : Except RuntimeError (RuntimeRegistryContent p) := do
  require (arguments.bindings.length ≤ maxRuntimeBindings)
    (.invalidRegistry (py "runtime registry exceeds the v1 limit"))
  let bindings ← orderedUnique (fun binding => binding.key) arguments.bindings
    (.invalidRegistry (py "runtime registry contains an ambiguous Skill/backend mapping"))
  require (bindings.map fun binding => binding.endpoint.endpointId).Nodup
    (.invalidRegistry (py "runtime endpoint IDs must be unique"))
  require (bindings.map fun binding => (binding.endpoint.packageName.text,
      binding.endpoint.interfaceName.text, binding.endpoint.fullyQualifiedName)).Nodup
    (.invalidRegistry (py "runtime ROS endpoint identities must be unique"))
  let registry : RuntimeRegistryContent p := { arguments with bindings := bindings }
  checkDocument .registry registry.document .invalidRegistry
  pure registry

end RuntimeRegistryContent

variable (p)

/-- A `RuntimeEndpointRegistry`: attributes that its constructor returned. -/
structure RuntimeEndpointRegistry extends RuntimeRegistryContent p where
  /-- The constructor returned these attributes. -/
  constructed : ∃ arguments : RuntimeRegistryContent p,
    arguments.init = .ok toRuntimeRegistryContent

variable {p}

/-- `RuntimeEndpointRegistry(...)`. -/
def RuntimeRegistryContent.build (arguments : RuntimeRegistryContent p) :
    Except RuntimeError (RuntimeEndpointRegistry p) :=
  constructFrom RuntimeRegistryContent.init RuntimeEndpointRegistry.mk arguments

/-- `resolve`. -/
def RuntimeEndpointRegistry.resolve (registry : RuntimeEndpointRegistry p) (skillId : Name)
    (skillVersion : SemanticVersion) (capabilityId backendId : Name) :
    Option (RuntimeEndpointBinding p) :=
  registry.bindings.find? fun binding =>
    binding.skillDefinition.skillId = skillId ∧ binding.skillDefinition.version = skillVersion ∧
      binding.capabilityId = capabilityId ∧ binding.endpoint.backendId = backendId

end Registries

end Runtime
end AyyoHumanoid
