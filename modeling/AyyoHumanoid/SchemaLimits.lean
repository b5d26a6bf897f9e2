import AyyoHumanoid.JsonSizes
import AyyoHumanoid.RuntimeModels

/-!
# Which schemas a contract can carry

A schema graph is bounded by its own limits on depth and nodes; a contract that
carries a schema is bounded by the limits on its JSON document, in which a
schema node takes at least thirteen values and a property three levels. A
schema can be used in every place exactly when its document leaves room for the
rest of the largest contract.
-/

namespace AyyoHumanoid
namespace Runtime

open PyText JsonText PyCollections Contracts Skills
open World (Name)

section Sizes

/-- A small integer may stand inside an object. -/
theorem Inside.int {value : Int} (h : Json.bitLength value ≤ maxJsonIntegerBits) :
    Inside (.int value) where
  depth := by
    rw [Json.fitsDepth_iff]
    exact ⟨by decide, by simp [Json.children]⟩
  own := by
    rw [Json.visits_eq, List.forall_mem_cons]
    exact ⟨h, by simp [Json.children]⟩

/-- An empty list may stand inside an object. -/
theorem Inside.arr_nil : Inside (.arr []) where
  depth := Json.fitsDepth_arr.mpr ⟨by decide, by simp⟩
  own := by
    rw [Json.visits_eq, List.forall_mem_cons]
    exact ⟨Nat.zero_le _, by simp [Json.children]⟩

/-- An empty dictionary may stand inside an object. -/
theorem Inside.obj_nil : Inside (.obj []) where
  depth := Json.fitsDepth_obj.mpr ⟨by decide, by simp⟩
  own := by
    rw [Json.visits_eq, List.forall_mem_cons]
    exact ⟨⟨Nat.zero_le _, by simp⟩, by simp [Json.children]⟩

/-- A list of one text that can be encoded may stand inside an object. -/
theorem Inside.text {text : PyStr} (h : utf8Encodable text = true) : Inside (.arr [.str text]) where
  depth := Json.fitsDepth_arr.mpr ⟨by decide, by simp [maxJsonDepth]⟩
  own := by
    have hcollection : OwnAllowed (.arr [.str text]) := by
      rw [OwnAllowed, List.length_singleton]
      decide
    rw [Json.visits_eq, List.forall_mem_cons]
    refine ⟨hcollection, fun visit hvisit => ?_⟩
    obtain ⟨child, hchild, hvisit⟩ := List.mem_flatMap.mp hvisit
    rw [List.mem_singleton.mp hchild, Json.visits_eq, Json.children_str, List.flatMap_nil,
      List.mem_singleton] at hvisit
    rw [hvisit]
    exact h

/-- The keys of a schema document. -/
def schemaKeys : List PyStr :=
  [py "allow_additional_properties", py "allowed_values", py "item_schema", py "max_items",
    py "max_length", py "maximum", py "min_items", py "min_length", py "minimum", py "nullable",
    py "properties", py "value_type"]

/-- Their characters. -/
theorem schemaKeys_length : (schemaKeys.map List.length).sum = 132 := by decide

/-- The values and characters that a schema document has at least. -/
theorem document_size (schema : ValueSchema) : 13 ≤ schema.document.nodes ∧
    132 + schema.fields.valueType.value.length ≤ schema.document.characters := by
  cases schema with
  | node fields properties itemSchema =>
    rw [ValueSchema.document]
    constructor
    · exact Json.length_lt_nodes rfl
    · rw [← schemaKeys_length, ← Json.characters_str]
      refine Json.characters_entry ?_ 11 (py "value_type") ?_
      · rfl
      · rfl

end Sizes

section Skills

/-- The keys of a skill document. -/
def skillKeys : List PyStr :=
  [py "availability", py "backend_id", py "capability_ids", py "concurrency_policy",
    py "description", py "expected_result", py "failure_semantics", py "idempotency",
    py "input_schema", py "lifecycle", py "metadata", py "name", py "output_schema",
    py "required_approval_classes", py "required_context", py "required_resources",
    py "safety_classification", py "schema", py "skill_id", py "timeout_ms", py "version"]

/-- Their characters. -/
theorem skillKeys_length : (skillKeys.map List.length).sum = 265 := by decide

/-- The values of a definition's document outside the schemas. -/
def headerNodes (skill : SkillContent) : Nat :=
  19 + skill.capabilityIds.length + (Json.obj skill.metadata).nodes +
    skill.requiredApprovalClasses.length +
    (skill.requiredContext.map fun item => item.document.nodes).sum +
    (skill.requiredResources.map fun item => item.document.nodes).sum

/-- The characters of a definition's document outside the schemas and the keys. -/
def headerCharacters (skill : SkillContent) : Nat :=
  skill.availability.value.length + skill.backendId.text.length +
    (skill.capabilityIds.map (·.text.length)).sum + skill.concurrencyPolicy.value.length +
    skill.description.text.length + skill.expectedResult.value.length +
    skill.failureSemantics.value.length + skill.idempotency.value.length +
    skill.lifecycle.value.length + (Json.obj skill.metadata).characters + skill.name.text.length +
    (skill.requiredApprovalClasses.map (·.value.length)).sum +
    (skill.requiredContext.map fun item => item.document.characters).sum +
    (skill.requiredResources.map fun item => item.document.characters).sum +
    skill.safetyClassification.value.length + 27 + skill.skillId.text.length +
    skill.version.value.length

/-- The schema name has 27 characters. -/
theorem skillSchema_length : (py "ayyo.skill-manager.skill.v1").length = 27 := by decide

/-- The values of a definition's document. -/
theorem skill_nodes (skill : SkillContent) :
    skill.document.nodes = skill.inputSchema.schema.document.nodes +
      skill.outputSchema.schema.document.nodes + headerNodes skill := by
  simp only [SkillContent.document, Json.nodes_obj, Json.nodes_str, Json.nodes_int,
    Executive.nodes_textItems, Json.nodes_arr, List.map_cons, List.map_nil, List.sum_cons,
    List.sum_nil, List.map_map,
    Function.comp_def, List.length_map, headerNodes]
  omega

/-- The characters of a definition's document. -/
theorem skill_characters (skill : SkillContent) :
    skill.document.characters = 265 + skill.inputSchema.schema.document.characters +
      skill.outputSchema.schema.document.characters + headerCharacters skill := by
  rw [SkillContent.document, Json.characters_of_keys skillKeys rfl, skillKeys_length]
  simp only [Json.characters_str, Json.characters_int, Executive.characters_textItems,
    Json.characters_arr,
    List.map_cons, List.map_nil, List.sum_cons, List.sum_nil, List.map_map, Function.comp_def,
    headerCharacters, skillSchema_length]
  omega

/-- An identifier has a character. -/
theorem name_length (name : Name) : 1 ≤ name.text.length := by
  obtain ⟨text, hspelled, -⟩ := name
  cases text with
  | nil => exact absurd hspelled (by decide)
  | cons c text => exact Nat.succ_pos _

/-- A text has a character. -/
theorem text_length (text : ContractText) : 1 ≤ text.text.length :=
  List.length_pos_iff.mpr text.clean.nonempty

/-- A text before a separator is part of the text. -/
theorem cut_length (separator : CodePoint) (text : PyStr) :
    (cut separator text).1.length ≤ text.length :=
  (List.takeWhile_sublist _).length_le

/-- A numeral has a digit. -/
theorem numeral_length {text : PyStr} (h : Artifacts.isNumeral text = true) : 1 ≤ text.length := by
  cases text with
  | nil => exact absurd h (by decide)
  | cons c text => exact Nat.succ_pos _

/-- A release has three numerals and two points. -/
theorem release_length {text : PyStr} (h : Artifacts.isSemanticVersion text = true) :
    5 ≤ text.length := by
  have hjoin : [point].intercalate (text.splitOn point) = text := List.intercalate_splitOn point
  rw [Artifacts.isSemanticVersion] at h
  split at h
  · next major minor patch hparts =>
    rw [hparts] at hjoin
    simp only [Bool.and_eq_true] at h
    have hmajor := numeral_length h.1.1
    have hminor := numeral_length h.1.2
    have hpatch := numeral_length h.2
    have hlength := congrArg List.length hjoin
    simp only [List.intercalate, List.intersperse, List.flatten_cons, List.flatten_nil,
      List.length_append, List.length_cons, List.length_nil] at hlength
    omega
  · cases h

/-- A version has at least five characters. -/
theorem version_length (version : SemanticVersion) : 5 ≤ version.value.length := by
  have hspelled := version.spelled
  simp only [isSemanticVersion, Bool.and_eq_true] at hspelled
  have hrelease := cut_length plus version.value
  have hcore := cut_length minus (cut plus version.value).1
  have hlength := release_length hspelled.1.1
  omega

/-- What the constructor of a definition establishes about its size. -/
theorem skill_of_init {arguments skill : SkillContent} (h : arguments.init = .ok skill) :
    skill.capabilityIds ≠ [] ∧ skill.inputSchema.schema.fields.valueType = .object ∧
      skill.safetyClassification ≠ .unclassified ∧ Allowed skill.document := by
  rw [SkillContent.init, Checks.require_bind_ok, Checks.require_bind_ok, Checks.bind_ok] at h
  obtain ⟨hsome, -, capabilityIds, hcapabilities, h⟩ := h
  rw [Checks.unit_bind_ok, Checks.unit_bind_ok, Checks.require_bind_ok, Checks.require_bind_ok,
    Checks.bind_ok] at h
  obtain ⟨-, -, hobject, -, requiredContext, -, h⟩ := h
  rw [Checks.require_bind_ok, Checks.bind_ok] at h
  obtain ⟨-, requiredResources, -, h⟩ := h
  rw [Checks.bind_ok] at h
  obtain ⟨approvalClasses, -, h⟩ := h
  rw [Checks.unit_bind_ok, Checks.unit_bind_ok, Checks.unit_bind_ok] at h
  obtain ⟨hclasses, -, hdocument, h⟩ := h
  have hsame := Checks.pure_ok.mp h
  have hcapability := (orderedUnique_perm hcapabilities).length_eq
  have hnonempty : capabilityIds ≠ [] := by
    intro hnil
    rw [hnil, List.length_nil] at hcapability
    exact hsome (List.length_eq_zero_iff.mp hcapability.symm)
  rw [SkillContent.checkClasses, Checks.require_bind_ok] at hclasses
  subst hsame
  exact ⟨hnonempty, hobject.1, hclasses.1, Skills.checkDocument_ok.mp hdocument⟩

/-- Every definition takes this much for what is not its schemas. -/
theorem header_size {skill : SkillContent} (h : skill.capabilityIds ≠ [])
    (hsafe : skill.safetyClassification ≠ .unclassified) :
    21 ≤ headerNodes skill ∧ 108 ≤ headerCharacters skill := by
  have hcapability : 1 ≤ (skill.capabilityIds.map (·.text.length)).sum ∧
      1 ≤ skill.capabilityIds.length := by
    cases hids : skill.capabilityIds with
    | nil => exact absurd hids h
    | cons name names =>
      have hname := name_length name
      rw [List.map_cons, List.sum_cons, List.length_cons]
      omega
  constructor
  · have hmetadata := (Json.obj skill.metadata).nodes_pos
    rw [headerNodes]
    omega
  · have havailability : ∀ value : SkillAvailability, 8 ≤ value.value.length := by
      intro value
      cases value <;> decide
    have hconcurrency : ∀ value : ConcurrencyPolicy, 8 ≤ value.value.length := by
      intro value
      cases value <;> decide
    have hexpected : ∀ value : Executive.ExpectedResultCategory, 11 ≤ value.value.length := by
      intro value
      cases value <;> decide
    have hfailure : ∀ value : FailureSemantics, 9 ≤ value.value.length := by
      intro value
      cases value <;> decide
    have hidempotency : ∀ value : IdempotencyClass, 10 ≤ value.value.length := by
      intro value
      cases value <;> decide
    have hlifecycle : ∀ value : SkillLifecycle, 9 ≤ value.value.length := by
      intro value
      cases value <;> decide
    have hsafety : ∀ value : Safety.HazardClass, value ≠ .unclassified →
        16 ≤ value.value.length := by
      intro value hvalue
      cases value with
      | unclassified => exact absurd rfl hvalue
      | _ => decide
    have h1 := havailability skill.availability
    have h2 := hconcurrency skill.concurrencyPolicy
    have h3 := hexpected skill.expectedResult
    have h4 := hfailure skill.failureSemantics
    have h5 := hidempotency skill.idempotency
    have h6 := hlifecycle skill.lifecycle
    have h7 := hsafety skill.safetyClassification hsafe
    have h8 := name_length skill.backendId
    have h9 := name_length skill.skillId
    have h10 := text_length skill.name
    have h11 := text_length skill.description
    have h12 := version_length skill.version
    rw [headerCharacters]
    omega

/-- A short version. -/
def shortVersion : SemanticVersion :=
  ⟨py "0.0.0", ⟨by decide, by decide, by decide, by decide⟩, by decide⟩

/-- A short text. -/
def shortText : ContractText := ⟨py "a", ⟨by decide, by decide, by decide, by decide⟩⟩

/-- A short identifier. -/
def shortName : Name := ⟨py "a", by decide⟩

/-- The definition with the smallest document that has the given schemas. -/
def smallSkill (inputSchema outputSchema : ContractSchema) : SkillContent where
  skillId := shortName
  version := shortVersion
  name := shortText
  description := shortText
  capabilityIds := [shortName]
  backendId := shortName
  safetyClassification := .physicalContact
  expectedResult := .information
  timeoutMs := 1
  concurrencyPolicy := .parallel
  idempotency := .idempotent
  failureSemantics := .retryable
  availability := .disabled
  lifecycle := .validated
  inputSchema := inputSchema
  outputSchema := outputSchema

/-- The size of its document. -/
theorem smallSkill_size (inputSchema outputSchema : ContractSchema) :
    (smallSkill inputSchema outputSchema).document.nodes =
      inputSchema.schema.document.nodes + outputSchema.schema.document.nodes + 21 ∧
    (smallSkill inputSchema outputSchema).document.characters =
      265 + inputSchema.schema.document.characters + outputSchema.schema.document.characters +
        108 := by
  have hnodes : headerNodes (smallSkill inputSchema outputSchema) = 21 := by
    simp [headerNodes, smallSkill]
  have hcharacters : headerCharacters (smallSkill inputSchema outputSchema) = 108 := by
    have hmetadata : (Json.obj []).characters = 0 := by simp
    rw [headerCharacters]
    simp only [smallSkill, hmetadata, List.map_cons, List.map_nil, List.sum_cons, List.sum_nil]
    rfl
  rw [skill_nodes, skill_characters, hnodes, hcharacters]
  exact ⟨rfl, rfl⟩

/-- What may stand in a contract whose other schema is small. -/
structure FitsContracts (schema : ValueSchema) : Prop where
  /-- There is room for the other values of a definition and of a small schema. -/
  nodes : schema.document.nodes + 34 ≤ maxJsonNodes
  /-- There is room for their characters. -/
  characters : schema.document.characters + 511 ≤ maxJsonCharacters
  /-- The document fits one level down, and its collections and integers are within the limits. -/
  inside : Inside schema.document

/-- A valid schema of a non-null object. -/
structure ObjectSchema (schema : ContractSchema) : Prop where
  /-- The schema is within its own limits. -/
  graph : validateSchemaGraph schema.schema = .ok ()
  /-- The root is a non-null object. -/
  root : schema.schema.fields.valueType = .object ∧ schema.schema.fields.nullable = false

/-- The document of a small definition is within the limits when the schemas leave room. -/
theorem allowed_smallSkill (first second : ContractSchema)
    (hnodes : first.schema.document.nodes + second.schema.document.nodes + 21 ≤ maxJsonNodes)
    (hcharacters : first.schema.document.characters + second.schema.document.characters + 373 ≤
      maxJsonCharacters) (hfirst : Inside first.schema.document)
    (hsecond : Inside second.schema.document) : Allowed (smallSkill first second).document := by
  obtain ⟨hsize, hlength⟩ := smallSkill_size first second
  have hshort : Inside (.str (py "a")) := Inside.str (utf8Encodable_py _)
  have hone : Json.bitLength ((1 : Nat) : Int) ≤ maxJsonIntegerBits := by decide
  refine allowed_obj.mpr ⟨?_, ?_, ?_, ?_, ?_⟩
  · exact hsize.trans_le hnodes
  · refine hlength.trans_le ?_
    omega
  · simp [maxJsonCollectionSize]
  · simp only [List.map_cons, List.map_nil, List.forall_mem_cons, utf8Encodable_py, true_and]
    exact fun _ h => absurd h List.not_mem_nil
  · simp only [List.map_cons, List.map_nil, List.forall_mem_cons]
    exact ⟨Inside.str (utf8Encodable_py _), hshort, Inside.text (utf8Encodable_py _),
      Inside.str (utf8Encodable_py _), hshort, Inside.str (utf8Encodable_py _),
      Inside.str (utf8Encodable_py _), Inside.str (utf8Encodable_py _), hfirst,
      Inside.str (utf8Encodable_py _), Inside.obj_nil, hshort, hsecond, Inside.arr_nil,
      Inside.arr_nil, Inside.arr_nil, Inside.str (utf8Encodable_py _),
      Inside.str (utf8Encodable_py _), hshort, Inside.int hone,
      Inside.str (utf8Encodable_py _), fun _ h => absurd h List.not_mem_nil⟩

/-- The constructor accepts a small definition whose document is within the limits. -/
theorem smallSkill_init {first second : ContractSchema} (hfirst : ObjectSchema first)
    (hsecond : validateSchemaGraph second.schema = .ok ())
    (hdocument : Allowed (smallSkill first second).document) :
    (smallSkill first second).init = .ok (smallSkill first second) := by
  have hmetadata : Allowed (.obj []) := allowed_obj.mpr ⟨by decide, by decide, by decide,
    by simp, by simp⟩
  rw [SkillContent.init, Checks.require_bind_ok, Checks.require_bind_ok, Checks.bind_ok]
  refine ⟨by simp [smallSkill], by simp [smallSkill, maxSkillItems], [shortName], rfl, ?_⟩
  rw [Checks.unit_bind_ok, Checks.unit_bind_ok, Checks.require_bind_ok, Checks.require_bind_ok,
    Checks.bind_ok]
  refine ⟨hfirst.graph, hsecond, hfirst.root, Nat.zero_le _, [], rfl, ?_⟩
  rw [Checks.require_bind_ok, Checks.bind_ok]
  refine ⟨Nat.zero_le _, [], rfl, ?_⟩
  rw [Checks.bind_ok]
  refine ⟨[], rfl, ?_⟩
  rw [Checks.unit_bind_ok, Checks.unit_bind_ok, Checks.unit_bind_ok]
  exact ⟨rfl, Contracts.validateJson_ok.mpr hmetadata, Skills.checkDocument_ok.mpr hdocument, rfl⟩

end Skills

section Endpoints

/-- The keys of an endpoint document. -/
def endpointKeys : List PyStr :=
  [py "availability", py "backend_id", py "endpoint_id", py "endpoint_name", py "interface_name",
    py "kind", py "namespace", py "package_name", py "request_schema", py "response_schema",
    py "schema", py "timeout_ms"]

/-- Their characters. -/
theorem endpointKeys_length : (endpointKeys.map List.length).sum = 130 := by decide

/-- An endpoint with short texts that has the given schemas. -/
def smallEndpoint (requestSchema responseSchema : ContractSchema) : EndpointContent where
  endpointId := shortName
  backendId := shortName
  packageName := ⟨py "a", by decide, by decide⟩
  interfaceName := ⟨py "A", by decide, by decide⟩
  endpointName := ⟨py "a", by decide, by decide⟩
  rosNamespace := ⟨py "/", by decide, by decide⟩
  timeoutMs := 1
  availability := .available
  requestSchema := requestSchema
  responseSchema := responseSchema

/-- The document of a small endpoint is within the limits when the schemas leave room. -/
theorem allowed_smallEndpoint (first second : ContractSchema)
    (hnodes : first.schema.document.nodes + second.schema.document.nodes + 11 ≤ maxJsonNodes)
    (hcharacters : first.schema.document.characters + second.schema.document.characters + 203 ≤
      maxJsonCharacters) (hfirst : Inside first.schema.document)
    (hsecond : Inside second.schema.document) : Allowed (smallEndpoint first second).document := by
  have htexts : (py "available").length = 9 ∧ (py "service_request").length = 15 ∧
      (py "ayyo.runtime-bridge.ros-service-endpoint.v1").length = 43 := by decide
  have hletters : shortName.text.length = 1 ∧ (py "a").length = 1 ∧ (py "A").length = 1 ∧
      (py "/").length = 1 := by decide
  have hshort : Inside (.str (py "a")) := Inside.str (utf8Encodable_py _)
  have hone : Json.bitLength ((1 : Nat) : Int) ≤ maxJsonIntegerBits := by decide
  refine allowed_obj.mpr ⟨?_, ?_, ?_, ?_, ?_⟩
  · simp only [Json.nodes_obj, Json.nodes_str, Json.nodes_int, List.map_cons, List.map_nil,
      List.sum_cons, List.sum_nil, smallEndpoint]
    omega
  · rw [Json.characters_of_keys endpointKeys rfl, endpointKeys_length]
    simp only [Json.characters_str, Json.characters_int, List.map_cons, List.map_nil, List.sum_cons,
      List.sum_nil, smallEndpoint, RosEndpointAvailability.value, htexts, hletters]
    omega
  · simp [maxJsonCollectionSize]
  · simp only [List.map_cons, List.map_nil, List.forall_mem_cons, utf8Encodable_py, true_and]
    exact fun _ h => absurd h List.not_mem_nil
  · simp only [List.map_cons, List.map_nil, List.forall_mem_cons]
    exact ⟨Inside.str (utf8Encodable_py _), hshort, hshort, hshort, Inside.str (utf8Encodable_py _),
      Inside.str (utf8Encodable_py _), Inside.str (utf8Encodable_py _), hshort, hfirst, hsecond,
      Inside.str (utf8Encodable_py _), Inside.int hone,
      fun _ h => absurd h List.not_mem_nil⟩

/-- The constructor accepts a small endpoint whose document is within the limits. -/
theorem smallEndpoint_init {first second : ContractSchema} (hfirst : ObjectSchema first)
    (hsecond : ObjectSchema second)
    (hdocument : Allowed (smallEndpoint first second).document) :
    (smallEndpoint first second).init = .ok (smallEndpoint first second) := by
  rw [EndpointContent.init, Checks.bind_ok]
  refine ⟨first, rebuildSchemaContract_self hfirst.graph, ?_⟩
  rw [Checks.bind_ok]
  refine ⟨second, rebuildSchemaContract_self hsecond.graph, ?_⟩
  rw [Checks.require_bind_ok, Checks.require_bind_ok, Checks.unit_bind_ok]
  have htimeout : 1 ≤ 1 ∧ 1 ≤ maxSkillTimeoutMs := by decide
  exact ⟨⟨hfirst.root.1, hfirst.root.2, hsecond.root⟩, htimeout,
    checkDocument_ok.mpr hdocument, rfl⟩

end Endpoints

section Usability

/-- The schema can be used in each place of a contract. -/
structure Usable (schema : ContractSchema) : Prop where
  /-- Some definition has it as its input schema. -/
  input : ∃ arguments skill : SkillContent, arguments.init = .ok skill ∧ skill.inputSchema = schema
  /-- Some definition has it as its output schema. -/
  output : ∃ arguments skill : SkillContent, arguments.init = .ok skill ∧
    skill.outputSchema = schema
  /-- Some endpoint has it as its request schema. -/
  request : ∃ arguments endpoint : EndpointContent, arguments.init = .ok endpoint ∧
    endpoint.requestSchema = schema
  /-- Some endpoint has it as its response schema. -/
  response : ∃ arguments endpoint : EndpointContent, arguments.init = .ok endpoint ∧
    endpoint.responseSchema = schema

/-- An object without fields. -/
def emptySchema : ContractSchema :=
  ⟨.node { valueType := .object } [] none,
    @ValueSchema.Built.intro (.node { valueType := .object } [] none) _ rfl
      fun _ h => absurd h List.not_mem_nil⟩

/-- It is valid. -/
theorem objectSchema_empty : ObjectSchema emptySchema := ⟨by decide, rfl, rfl⟩

/-- The size of its document. -/
theorem emptySchema_size : emptySchema.schema.document.nodes = 13 ∧
    emptySchema.schema.document.characters = 138 := by decide

/-- Its document may stand inside an object. -/
theorem inside_empty : Inside emptySchema.schema.document := by
  have hvalid : validateJson SkillError.invalidSchema [] (.obj [([], emptySchema.schema.document)]) =
      .ok () := by decide
  exact (allowed_obj.mp (Contracts.validateJson_ok.mp hvalid)).2.2.2.2 _ (by simp)

/-- The output schema of a definition leaves room for the rest of it. -/
theorem fits_of_usable {schema : ContractSchema} (h : Usable schema) :
    FitsContracts schema.schema := by
  obtain ⟨arguments, skill, hinit, houtput⟩ := h.output
  obtain ⟨hsome, hinput, hsafe, hallowed⟩ := skill_of_init hinit
  obtain ⟨hheader, htexts⟩ := header_size hsome hsafe
  obtain ⟨hinputNodes, hinputCharacters⟩ := document_size skill.inputSchema.schema
  have hobject : (ValueType.object).value.length = 6 := by decide
  rw [hinput, hobject] at hinputCharacters
  have hnodes := hallowed.nodes
  have hcharacters := hallowed.characters
  rw [skill_nodes, houtput] at hnodes
  rw [skill_characters, houtput] at hcharacters
  refine ⟨by omega, by omega, ?_⟩
  have hparts := (allowed_obj.mp hallowed).2.2.2.2
  rw [← houtput]
  exact hparts _ (List.mem_map.mpr ⟨(py "output_schema", _), by simp, rfl⟩)

/-- A valid schema of a non-null object that leaves room can be used in every place. -/
theorem usable_of_fits {schema : ContractSchema} (h : ObjectSchema schema)
    (hfits : FitsContracts schema.schema) : Usable schema := by
  obtain ⟨hnodes, hcharacters⟩ := emptySchema_size
  have hroom := hfits.nodes
  have htexts := hfits.characters
  have hin := allowed_smallSkill schema emptySchema (by omega) (by omega)
    hfits.inside inside_empty
  have hout := allowed_smallSkill emptySchema schema (by omega) (by omega)
    inside_empty hfits.inside
  have hrequest := allowed_smallEndpoint schema emptySchema (by omega)
    (by omega) hfits.inside inside_empty
  have hresponse := allowed_smallEndpoint emptySchema schema (by omega)
    (by omega) inside_empty hfits.inside
  exact ⟨⟨_, _, smallSkill_init h objectSchema_empty.graph hin, rfl⟩,
    ⟨_, _, smallSkill_init objectSchema_empty h.graph hout, rfl⟩,
    ⟨_, _, smallEndpoint_init h objectSchema_empty hrequest, rfl⟩,
    ⟨_, _, smallEndpoint_init objectSchema_empty h hresponse, rfl⟩⟩

/-- Objects inside each other: each has one field, which holds the next one. -/
def nestedSchema : Nat → ValueSchema
  | 0 => emptySchema.schema
  | depth + 1 => .node { valueType := .object } [({ name := shortName }, nestedSchema depth)] none

/-- The constructors return them. -/
theorem nestedSchema_built (depth : Nat) : (nestedSchema depth).Built := by
  induction depth with
  | zero => exact emptySchema.built
  | succ depth ih =>
    refine @ValueSchema.Built.intro (nestedSchema (depth + 1)) _ rfl fun child hchild => ?_
    rw [List.mem_singleton.mp hchild]
    exact ih

/-- Each object takes three levels of the document. -/
theorem nestedSchema_depth {limit depth level : Nat}
    (h : (nestedSchema depth).document.FitsDepth limit level) : level + 3 * depth ≤ limit := by
  induction depth generalizing level with
  | zero => exact (Json.fitsDepth_iff.mp h).1
  | succ depth ih =>
    rw [nestedSchema, ValueSchema.document, Json.fitsDepth_obj] at h
    have hlist := h.2 (py "properties", .arr (ValueSchema.propertyDocuments
      [({ name := shortName }, nestedSchema depth)])) (List.mem_of_getElem? (i := 10) rfl)
    rw [Json.fitsDepth_arr] at hlist
    have hproperty := hlist.2 _ (List.mem_cons_self ..)
    rw [Json.fitsDepth_obj] at hproperty
    have hinner := hproperty.2 (py "schema", (nestedSchema depth).document)
      (List.mem_of_getElem? (i := 2) rfl)
    have hroom := ih hinner
    omega

end Usability

end Runtime
end AyyoHumanoid
