import AyyoHumanoid.SafetyModels
import AyyoHumanoid.SkillSchemas

/-!
# Skill definitions, selections and the skill registry

A skill definition is an immutable contract: the capabilities it serves, its
schemas, its resources and what it requires. The constructor puts the parts in
order and checks that they agree, and the definition is named by the digest of
its document. A registry is a closed set of definitions, and a selection pins one
of them to a plan step.
-/

namespace AyyoHumanoid
namespace Skills

open PyText JsonText PyCollections Contracts
open World (Name Digest)
open Executive (ContextRequirement ExpectedResultCategory JsonDict)
open Safety (ApprovalClass HazardClass)

section Classes

/-- `MAX_SKILL_ITEMS`. -/
def maxSkillItems : Nat := 128

/-- `MAX_SKILL_TIMEOUT_MS`. -/
def maxSkillTimeoutMs : Nat := 86400000

/-- `MAX_REGISTRY_SKILLS`. -/
def maxRegistrySkills : Nat := 256

/-- `SkillAvailability`. -/
inductive SkillAvailability where
  | unavailable | available | degraded | disabled
  deriving DecidableEq, Repr

/-- The text of an availability. -/
def SkillAvailability.value : SkillAvailability → PyStr
  | .unavailable => py "unavailable"
  | .available => py "available"
  | .degraded => py "degraded"
  | .disabled => py "disabled"

/-- `SkillLifecycle`. -/
inductive SkillLifecycle where
  | experimental | validated | deprecated
  deriving DecidableEq, Repr

/-- The text of a lifecycle. -/
def SkillLifecycle.value : SkillLifecycle → PyStr
  | .experimental => py "experimental"
  | .validated => py "validated"
  | .deprecated => py "deprecated"

/-- `ResourceAccess`. -/
inductive ResourceAccess where
  | shared | exclusive
  deriving DecidableEq, Repr

/-- The text of an access. -/
def ResourceAccess.value : ResourceAccess → PyStr
  | .shared => py "shared"
  | .exclusive => py "exclusive"

/-- `ConcurrencyPolicy`. -/
inductive ConcurrencyPolicy where
  | parallel | resourceGoverned | exclusive
  deriving DecidableEq, Repr

/-- The text of a concurrency policy. -/
def ConcurrencyPolicy.value : ConcurrencyPolicy → PyStr
  | .parallel => py "parallel"
  | .resourceGoverned => py "resource_governed"
  | .exclusive => py "exclusive"

/-- `IdempotencyClass`. -/
inductive IdempotencyClass where
  | idempotent | conditionallyIdempotent | nonIdempotent
  deriving DecidableEq, Repr

/-- The text of an idempotency class. -/
def IdempotencyClass.value : IdempotencyClass → PyStr
  | .idempotent => py "idempotent"
  | .conditionallyIdempotent => py "conditionally_idempotent"
  | .nonIdempotent => py "non_idempotent"

/-- `FailureSemantics`. -/
inductive FailureSemantics where
  | retryable | nonRetryable | requiresReplan | requiresOperator | emergencyAbort
  deriving DecidableEq, Repr

/-- The text of a failure semantics. -/
def FailureSemantics.value : FailureSemantics → PyStr
  | .retryable => py "retryable"
  | .nonRetryable => py "non_retryable"
  | .requiresReplan => py "requires_replan"
  | .requiresOperator => py "requires_operator"
  | .emergencyAbort => py "emergency_abort"

/-- `ResourceRequirement`. -/
structure ResourceRequirement where
  resourceId : Name
  access : ResourceAccess
  deriving DecidableEq

/-- The document of a resource requirement. -/
def ResourceRequirement.document (requirement : ResourceRequirement) : Json :=
  .obj [(py "access", .str requirement.access.value),
    (py "resource_id", .str requirement.resourceId.text)]

/-- `SkillFingerprintKind`. -/
inductive SkillFingerprintKind where
  | skill | registry | selection | invocation
  deriving DecidableEq, Repr

/-- The text of a fingerprint kind. -/
def SkillFingerprintKind.value : SkillFingerprintKind → PyStr
  | .skill => py "skill"
  | .registry => py "registry"
  | .selection => py "selection"
  | .invocation => py "invocation"

/-- `str(fingerprint)` of a `SkillFingerprint`. -/
def SkillFingerprintKind.text (kind : SkillFingerprintKind) (digest : Digest) : PyStr :=
  kind.value ++ py ":sha256:" ++ digest.text

/-- The checks of `fingerprint_document`; the digest is that of the document. -/
def checkDocument (kind : SkillFingerprintKind) (document : Json) (error : PyStr → SkillError) :
    Except SkillError Unit :=
  validateJson error (kind.value ++ py " fingerprint document") document

/-- A document can be named exactly when it is within the limits. -/
theorem checkDocument_ok {kind : SkillFingerprintKind} {document : Json}
    {error : PyStr → SkillError} {u : Unit} :
    checkDocument kind document error = .ok u ↔ Allowed document :=
  Contracts.validateJson_ok

end Classes

section Definitions

/-- The attributes of a `SkillDefinition` besides its schemas and its metadata. -/
structure SkillHeader where
  skillId : Name
  version : SemanticVersion
  name : ContractText
  description : ContractText
  capabilityIds : List Name
  backendId : Name
  requiredContext : List ContextRequirement := []
  requiredResources : List ResourceRequirement := []
  requiredApprovalClasses : List ApprovalClass := []
  safetyClassification : HazardClass
  expectedResult : ExpectedResultCategory
  timeoutMs : Nat
  concurrencyPolicy : ConcurrencyPolicy
  idempotency : IdempotencyClass
  failureSemantics : FailureSemantics
  availability : SkillAvailability
  lifecycle : SkillLifecycle
  deriving DecidableEq

instance (skill : SkillHeader) (capabilityId : Name) :
    Decidable (capabilityId ∈ skill.capabilityIds) :=
  inferInstance

/-- A `ValueSchema` that the constructors returned. -/
structure ContractSchema where
  schema : ValueSchema
  /-- The constructors returned it. -/
  built : schema.Built

/-- The attributes of a `SkillDefinition`. -/
structure SkillContent extends SkillHeader where
  inputSchema : ContractSchema
  outputSchema : ContractSchema
  metadata : JsonDict := []

namespace SkillContent

/-- `_skill_document`. -/
def document (skill : SkillContent) : Json :=
  .obj [(py "availability", .str skill.availability.value),
    (py "backend_id", .str skill.backendId.text),
    (py "capability_ids", Executive.textItems (skill.capabilityIds.map (·.text))),
    (py "concurrency_policy", .str skill.concurrencyPolicy.value),
    (py "description", .str skill.description.text),
    (py "expected_result", .str skill.expectedResult.value),
    (py "failure_semantics", .str skill.failureSemantics.value),
    (py "idempotency", .str skill.idempotency.value),
    (py "input_schema", skill.inputSchema.schema.document),
    (py "lifecycle", .str skill.lifecycle.value),
    (py "metadata", .obj skill.metadata),
    (py "name", .str skill.name.text),
    (py "output_schema", skill.outputSchema.schema.document),
    (py "required_approval_classes",
      Executive.textItems (skill.requiredApprovalClasses.map ApprovalClass.value)),
    (py "required_context", .arr (skill.requiredContext.map ContextRequirement.document)),
    (py "required_resources", .arr (skill.requiredResources.map ResourceRequirement.document)),
    (py "safety_classification", .str skill.safetyClassification.value),
    (py "schema", .str (py "ayyo.skill-manager.skill.v1")),
    (py "skill_id", .str skill.skillId.text),
    (py "timeout_ms", .int skill.timeoutMs),
    (py "version", .str skill.version.value)]

/-- The digest of `fingerprint`. -/
def digest (p : Platform) (skill : SkillContent) : Digest :=
  World.documentDigest p skill.document

/-- `left == right`; the metadata are not compared. -/
def same (p : Platform) (left right : SkillContent) : Bool :=
  decide (left.toSkillHeader = right.toSkillHeader) &&
    left.inputSchema.schema.same right.inputSchema.schema &&
    left.outputSchema.schema.same right.outputSchema.schema &&
    decide (left.digest p = right.digest p)

/-- The checks of the constructor that relate the classes to each other. -/
def checkClasses (skill : SkillContent) : Except SkillError Unit := do
  require (skill.safetyClassification ≠ .unclassified)
    (.invalidDefinition (py "skill safety classification must be explicit"))
  require (1 ≤ skill.timeoutMs ∧ skill.timeoutMs ≤ maxSkillTimeoutMs)
    (.invalidDefinition (py "timeout_ms is outside the deterministic v1 bounds"))
  require (¬(skill.lifecycle = .deprecated ∧
      (skill.availability = .available ∨ skill.availability = .degraded)))
    (.invalidDefinition (py "deprecated skills cannot be available or degraded"))
  require (¬(skill.concurrencyPolicy = .parallel ∧
      ∃ item ∈ skill.requiredResources, item.access = .exclusive))
    (.invalidDefinition (py "parallel skills cannot claim exclusive resources"))
  require (¬(skill.concurrencyPolicy = .resourceGoverned ∧ skill.requiredResources = []))
    (.invalidDefinition (py "resource-governed skills require resources"))
  require (¬(skill.concurrencyPolicy = .exclusive ∧ (skill.requiredResources = [] ∨
      ∃ item ∈ skill.requiredResources, item.access ≠ .exclusive)))
    (.invalidDefinition (py "exclusive skills require only exclusive resources"))

/-- `SkillDefinition.__init__`. -/
def init (arguments : SkillContent) : Except SkillError SkillContent := do
  require (arguments.capabilityIds ≠ [])
    (.invalidDefinition (py "a skill requires capability identifiers"))
  require (arguments.capabilityIds.length ≤ maxSkillItems)
    (.invalidDefinition (py "skill capabilities exceed the item limit"))
  let capabilityIds ← orderedUnique (·.text) arguments.capabilityIds
    (.invalidDefinition (py "skill capability IDs must be unique"))
  validateSchemaGraph arguments.inputSchema.schema
  validateSchemaGraph arguments.outputSchema.schema
  require (arguments.inputSchema.schema.fields.valueType = .object ∧
      arguments.inputSchema.schema.fields.nullable = false)
    (.invalidDefinition (py "skill input_schema must be a non-null object"))
  require (arguments.requiredContext.length ≤ maxSkillItems)
    (.invalidDefinition (py "required_context must be bounded and unique"))
  let requiredContext ← orderedUnique ContextRequirement.key arguments.requiredContext
    (.invalidDefinition (py "required_context must be bounded and unique"))
  require (arguments.requiredResources.length ≤ maxSkillItems)
    (.invalidDefinition (py "resource requirements must be bounded and unique"))
  let requiredResources ← orderedUnique (·.resourceId.text) arguments.requiredResources
    (.invalidDefinition (py "resource requirements must be bounded and unique"))
  let requiredApprovalClasses ← orderedUnique ApprovalClass.value arguments.requiredApprovalClasses
    (.invalidDefinition (py "required approval classes must be unique"))
  let skill : SkillContent := {
    arguments with
    capabilityIds := capabilityIds
    requiredContext := requiredContext
    requiredResources := requiredResources
    requiredApprovalClasses := requiredApprovalClasses }
  skill.checkClasses
  validateJson .invalidDefinition (py "skill metadata") (.obj skill.metadata)
  checkDocument .skill skill.document .invalidDefinition
  pure skill

/-- A definition equals itself. -/
theorem same_self (p : Platform) (skill : SkillContent) : skill.same p skill = true := by
  rw [same, ValueSchema.same_self, ValueSchema.same_self]
  simp

/-- What the constructor returns it accepts unchanged. -/
theorem init_self {arguments skill : SkillContent} (h : arguments.init = .ok skill) :
    skill.init = .ok skill := by
  rw [init, Checks.require_bind_ok, Checks.require_bind_ok, Checks.bind_ok] at h
  obtain ⟨hsome, hfew, capabilityIds, hcapabilities, h⟩ := h
  rw [Checks.unit_bind_ok, Checks.unit_bind_ok, Checks.require_bind_ok, Checks.require_bind_ok,
    Checks.bind_ok] at h
  obtain ⟨hinput, houtput, hobject, hcontexts, requiredContext, hcontext, h⟩ := h
  rw [Checks.require_bind_ok, Checks.bind_ok] at h
  obtain ⟨hbounded, requiredResources, hresources, h⟩ := h
  rw [Checks.bind_ok] at h
  obtain ⟨approvalClasses, happrovals, h⟩ := h
  simp only [Checks.unit_bind_ok, Checks.pure_ok] at h
  obtain ⟨hclasses, hmetadata, hdocument, rfl⟩ := h
  have hcapability := (orderedUnique_perm hcapabilities).length_eq
  have hrequired := (orderedUnique_perm hcontext).length_eq
  have hresource := (orderedUnique_perm hresources).length_eq
  have hnonempty : capabilityIds ≠ [] := by
    intro hnil
    rw [hnil, List.length_nil] at hcapability
    exact hsome (List.length_eq_zero_iff.mp hcapability.symm)
  rw [init, Checks.require_bind_ok, Checks.require_bind_ok, Checks.bind_ok]
  refine ⟨hnonempty, hcapability.trans_le hfew, capabilityIds,
    orderedUnique_self hcapabilities, ?_⟩
  rw [Checks.unit_bind_ok, Checks.unit_bind_ok, Checks.require_bind_ok, Checks.require_bind_ok,
    Checks.bind_ok]
  refine ⟨hinput, houtput, hobject, hrequired.trans_le hcontexts, requiredContext,
    orderedUnique_self hcontext, ?_⟩
  rw [Checks.require_bind_ok, Checks.bind_ok]
  refine ⟨hresource.trans_le hbounded, requiredResources, orderedUnique_self hresources, ?_⟩
  rw [Checks.bind_ok]
  refine ⟨approvalClasses, orderedUnique_self happrovals, ?_⟩
  simp only [Checks.unit_bind_ok, Checks.pure_ok]
  exact ⟨hclasses, hmetadata, hdocument, trivial⟩

end SkillContent

/-- A `SkillDefinition`: attributes that its constructor returned. -/
structure SkillDefinition extends SkillContent where
  /-- The constructor returned these attributes. -/
  constructed : ∃ arguments : SkillContent, arguments.init = .ok toSkillContent

/-- `SkillDefinition(...)`. -/
def SkillContent.build (arguments : SkillContent) : Except SkillError SkillDefinition :=
  constructFrom SkillContent.init SkillDefinition.mk arguments

/-- The constructor accepts the attributes of a definition unchanged. -/
theorem SkillDefinition.init_self (skill : SkillDefinition) :
    skill.toSkillContent.init = .ok skill.toSkillContent :=
  skill.constructed.elim fun _ h => SkillContent.init_self h

/-- Constructing a definition again gives the definition. -/
theorem SkillDefinition.build_self (skill : SkillDefinition) :
    skill.toSkillContent.build = .ok skill :=
  Checks.constructFrom_ok.mpr ⟨skill.toSkillContent, skill.init_self, rfl⟩

/-- The schemas of a definition are within the limits. -/
theorem SkillDefinition.graphs (skill : SkillDefinition) :
    validateSchemaGraph skill.inputSchema.schema = .ok () ∧
      validateSchemaGraph skill.outputSchema.schema = .ok () := by
  have h := skill.init_self
  rw [SkillContent.init, Checks.require_bind_ok, Checks.require_bind_ok, Checks.bind_ok] at h
  obtain ⟨-, -, capabilityIds, -, h⟩ := h
  rw [Checks.unit_bind_ok, Checks.unit_bind_ok] at h
  exact ⟨h.1, h.2.1⟩

end Definitions

section Selections

/-- `SkillSelection`; its fingerprints of a skill and of a registry are known by their digests. -/
structure SkillSelection where
  skillId : Name
  skillVersion : SemanticVersion
  /-- The digest of `skill_fingerprint`. -/
  skillDigest : Digest
  capabilityId : Name
  sourceStepId : Name
  registryVersion : SemanticVersion
  /-- The digest of `registry_fingerprint`. -/
  registryDigest : Digest
  deriving DecidableEq

/-- The document that names a selection. -/
def SkillSelection.document (selection : SkillSelection) : Json :=
  .obj [(py "capability_id", .str selection.capabilityId.text),
    (py "registry_fingerprint", .str (SkillFingerprintKind.registry.text selection.registryDigest)),
    (py "registry_version", .str selection.registryVersion.value),
    (py "schema", .str (py "ayyo.skill-manager.selection.v1")),
    (py "skill_fingerprint", .str (SkillFingerprintKind.skill.text selection.skillDigest)),
    (py "skill_id", .str selection.skillId.text),
    (py "skill_version", .str selection.skillVersion.value),
    (py "source_step_id", .str selection.sourceStepId.text)]

/-- The digest of `fingerprint`. -/
def SkillSelection.digest (p : Platform) (selection : SkillSelection) : Digest :=
  World.documentDigest p selection.document

/-- `SkillSelection.__init__`. -/
def SkillSelection.init (arguments : SkillSelection) : Except SkillError SkillSelection := do
  checkDocument .selection arguments.document .invocationInvariant
  pure arguments

end Selections

section Registries

variable (p : Platform)

/-- The arguments and the attributes of a `SkillRegistry`. -/
structure SkillRegistryContent where
  version : SemanticVersion
  skills : List SkillDefinition

/-- The document that names a registry. -/
def SkillRegistryContent.document (registry : SkillRegistryContent) : Json :=
  .obj [(py "schema", .str (py "ayyo.skill-manager.registry.v1")),
    (py "skills", .arr (registry.skills.map fun skill =>
      .obj [(py "fingerprint", .str (SkillFingerprintKind.skill.text (skill.digest p))),
        (py "skill_id", .str skill.skillId.text),
        (py "version", .str skill.version.value)])),
    (py "version", .str registry.version.value)]

/-- `SkillRegistry.__init__`. -/
def SkillRegistryContent.init (arguments : SkillRegistryContent) :
    Except SkillError SkillRegistryContent := do
  require (arguments.skills.length ≤ maxRegistrySkills)
    (.invalidRegistry (py "registry exceeds the v1 skill limit"))
  let skills ← orderedUnique (·.skillId.text) arguments.skills
    (.invalidRegistry (py "registry skill IDs must be unique"))
  let registry : SkillRegistryContent := { arguments with skills := skills }
  checkDocument .registry (registry.document p) .invalidRegistry
  pure registry

/-- A `SkillRegistry`: attributes that its constructor returned. -/
structure SkillRegistry extends SkillRegistryContent where
  /-- The constructor returned these attributes. -/
  constructed : ∃ arguments : SkillRegistryContent, arguments.init p = .ok toSkillRegistryContent

/-- `SkillRegistry(...)`. -/
def SkillRegistryContent.build (arguments : SkillRegistryContent) :
    Except SkillError (SkillRegistry p) :=
  constructFrom (SkillRegistryContent.init p) SkillRegistry.mk arguments

namespace SkillRegistry

variable {p : Platform}

/-- The digest of `fingerprint`. -/
def digest (registry : SkillRegistry p) : Digest :=
  World.documentDigest p (registry.document p)

/-- `resolve`. -/
def resolve (registry : SkillRegistry p) (skillId : Name) : Option SkillDefinition :=
  registry.skills.find? fun skill => skill.skillId = skillId

/-- `selection`. -/
def selection (registry : SkillRegistry p) (skillId capabilityId sourceStepId : Name) :
    Except SkillError SkillSelection :=
  match registry.resolve skillId with
  | none => .error (.invalidRegistry (py "unknown skill_id: " ++ skillId.text))
  | some skill => do
    require (capabilityId ∈ skill.capabilityIds)
      (.invalidRegistry (py "skill " ++ skillId.text ++ py " does not declare capability " ++
        capabilityId.text))
    SkillSelection.init {
      skillId := skill.skillId
      skillVersion := skill.version
      skillDigest := skill.digest p
      capabilityId := capabilityId
      sourceStepId := sourceStepId
      registryVersion := registry.version
      registryDigest := registry.digest }

end SkillRegistry
end Registries

end Skills
end AyyoHumanoid
