import AyyoHumanoid.ContractCanonical
import AyyoHumanoid.ExecutiveModels
import AyyoHumanoid.PyFloat

/-!
# Value schemas of the skill manager

A skill contract describes its parameters and its results by a bounded
vocabulary of value schemas. The constructor of a schema checks one node and
puts its parts in order; a contract bounds the depth and the number of the
nodes, which are visited with an explicit stack.
-/

namespace AyyoHumanoid
namespace Skills

open PyText JsonText PyCollections Contracts
open World (Name)

section Errors

/-- `ValueType`. -/
inductive ValueType where
  | string | integer | number | boolean | null | array | object
  deriving DecidableEq, Repr

/-- The text of a value type. -/
def ValueType.value : ValueType → PyStr
  | .string => py "string"
  | .integer => py "integer"
  | .number => py "number"
  | .boolean => py "boolean"
  | .null => py "null"
  | .array => py "array"
  | .object => py "object"

/-- Why parameters do not conform; each names the path of the value it is about. -/
inductive ParameterFault where
  /-- The schema is no object schema. -/
  | schema
  /-- The parameters are not bounded JSON. -/
  | json (message : PyStr)
  /-- The parameters are no object. -/
  | plain
  /-- The value has another type. -/
  | type (path : PyStr) (expected : ValueType)
  /-- The value is not listed. -/
  | allowed (path : PyStr)
  /-- The text is too short. -/
  | minLength (path : PyStr)
  /-- The text is too long. -/
  | maxLength (path : PyStr)
  /-- The number is too small. -/
  | minimum (path : PyStr)
  /-- The number is too large. -/
  | maximum (path : PyStr)
  /-- There are too few items. -/
  | minItems (path : PyStr)
  /-- There are too many items. -/
  | maxItems (path : PyStr)
  /-- Required fields are absent. -/
  | missing (path : PyStr) (names : List PyStr)
  /-- There are fields that the schema does not have. -/
  | unexpected (path : PyStr) (names : List PyStr)
  deriving DecidableEq

/-- The exceptions of the skill manager. -/
inductive SkillError where
  /-- `InvalidSchemaError`. -/
  | invalidSchema (message : PyStr)
  /-- `InvalidSkillDefinitionError`. -/
  | invalidDefinition (message : PyStr)
  /-- `InvalidSkillRegistryError`. -/
  | invalidRegistry (message : PyStr)
  /-- `InvalidSkillParametersError`. -/
  | invalidParameters (fault : ParameterFault)
  /-- `InvalidSkillBindingError`. -/
  | invalidBinding (message : PyStr)
  /-- `SkillInvocationInvariantError`. -/
  | invocationInvariant (message : PyStr)
  deriving DecidableEq

end Errors

section Values

/-- `MAX_SCHEMA_DEPTH`. -/
def maxSchemaDepth : Nat := 16

/-- `MAX_SCHEMA_NODES`. -/
def maxSchemaNodes : Nat := 512

/-- `MAX_SCHEMA_PROPERTIES`. -/
def maxSchemaProperties : Nat := 128

/-- `MAX_SCHEMA_STRING_LENGTH`. -/
def maxSchemaStringLength : Nat := 65536

/-- `MAX_SCHEMA_ARRAY_ITEMS`. -/
def maxSchemaArrayItems : Nat := 256

/-- A number of Python. -/
inductive Number where
  | int (value : Int)
  /-- A finite `float`. -/
  | float (value : FloatToken)
  deriving DecidableEq

/-- The exact value of a number. -/
def Number.exact : Number → Rat
  | .int value => value
  | .float value => value.exact

/-- The JSON of a number. -/
def Number.json : Number → Json
  | .int value => .int value
  | .float value => .float value

/-- `JSONScalar`. -/
inductive Scalar where
  /-- `None`. -/
  | null
  | bool (value : Bool)
  | number (value : Number)
  | str (value : PyStr)
  deriving DecidableEq

/-- The JSON of a scalar. -/
def Scalar.json : Scalar → Json
  | .null => .null
  | .bool value => .bool value
  | .number value => value.json
  | .str value => .str value

/-- What Python compares of a scalar: booleans and numbers by value. -/
def Scalar.compared : Scalar → Option (Rat ⊕ PyStr)
  | .null => none
  | .bool value => some (.inl (if value then 1 else 0))
  | .number value => some (.inl value.exact)
  | .str value => some (.inr value)

/-- `_matches_scalar`. -/
def matchesScalar (valueType : ValueType) (nullable : Bool) : Scalar → Bool
  | .null => nullable || valueType = .null
  | .str _ => valueType = .string
  | .number (.int _) => valueType = .integer || valueType = .number
  | .number (.float _) => valueType = .number
  | .bool _ => valueType = .boolean

end Values

section Schemas

/-- The attributes of a `ValueSchema` besides its parts. -/
structure SchemaFields where
  valueType : ValueType
  nullable : Bool := false
  allowAdditionalProperties : Bool := false
  allowedValues : List Scalar := []
  minimum : Option Number := none
  maximum : Option Number := none
  minLength : Option Nat := none
  maxLength : Option Nat := none
  minItems : Option Nat := none
  maxItems : Option Nat := none
  deriving DecidableEq

/-- The attributes of a `SchemaProperty` besides its schema. -/
structure SchemaLabel where
  name : Name
  required : Bool := true
  deriving DecidableEq

/-- `left == right` of the attributes: numbers are compared by value. -/
def SchemaFields.same (left right : SchemaFields) : Bool :=
  decide ({ left with allowedValues := [], minimum := none, maximum := none } =
      ({ right with allowedValues := [], minimum := none, maximum := none } : SchemaFields) ∧
    left.allowedValues.map Scalar.compared = right.allowedValues.map Scalar.compared ∧
    left.minimum.map Number.exact = right.minimum.map Number.exact ∧
    left.maximum.map Number.exact = right.maximum.map Number.exact)

/-- The checks of the constructor on the bounds. -/
def SchemaFields.checkBounds (f : SchemaFields) : Except SkillError Unit := do
  require (∀ lower ∈ f.minimum, ∀ upper ∈ f.maximum, lower.exact ≤ upper.exact)
    (.invalidSchema (py "minimum cannot exceed maximum"))
  require (∀ lower ∈ f.minLength, ∀ upper ∈ f.maxLength, lower ≤ upper)
    (.invalidSchema (py "min_length cannot exceed max_length"))
  require (∀ lower ∈ f.minItems, ∀ upper ∈ f.maxItems, lower ≤ upper)
    (.invalidSchema (py "min_items cannot exceed max_items"))
  require (∀ upper ∈ f.maxLength, upper ≤ maxSchemaStringLength)
    (.invalidSchema (py "max_length exceeds the v1 string limit"))
  require (∀ upper ∈ f.maxItems, upper ≤ maxSchemaArrayItems)
    (.invalidSchema (py "max_items exceeds the v1 array limit"))

/-- `ValueSchema`, with the labels and schemas of its properties. -/
inductive ValueSchema where
  /-- A node with its parts. -/
  | node (fields : SchemaFields) (properties : List (SchemaLabel × ValueSchema))
    (itemSchema : Option ValueSchema)

namespace ValueSchema

/-- The attributes of the node. -/
def fields : ValueSchema → SchemaFields
  | .node fields _ _ => fields

/-- `properties`. -/
def properties : ValueSchema → List (SchemaLabel × ValueSchema)
  | .node _ properties _ => properties

/-- `item_schema`. -/
def itemSchema : ValueSchema → Option ValueSchema
  | .node _ _ itemSchema => itemSchema

/-- The schemas of the parts. -/
def children (schema : ValueSchema) : List ValueSchema :=
  schema.properties.map Prod.snd ++ schema.itemSchema.toList

mutual

/-- `schema_document`. -/
def document : ValueSchema → Json
  | .node fields properties itemSchema =>
    .obj [(py "allow_additional_properties", .bool fields.allowAdditionalProperties),
      (py "allowed_values", .arr (fields.allowedValues.map Scalar.json)),
      (py "item_schema", itemDocument itemSchema),
      (py "max_items", fields.maxItems.elim .null fun bound => .int bound),
      (py "max_length", fields.maxLength.elim .null fun bound => .int bound),
      (py "maximum", fields.maximum.elim .null Number.json),
      (py "min_items", fields.minItems.elim .null fun bound => .int bound),
      (py "min_length", fields.minLength.elim .null fun bound => .int bound),
      (py "minimum", fields.minimum.elim .null Number.json),
      (py "nullable", .bool fields.nullable),
      (py "properties", .arr (propertyDocuments properties)),
      (py "value_type", .str fields.valueType.value)]

/-- The document of an item schema. -/
def itemDocument : Option ValueSchema → Json
  | none => .null
  | some schema => document schema

/-- The documents of properties. -/
def propertyDocuments : List (SchemaLabel × ValueSchema) → List Json
  | [] => []
  | (label, schema) :: properties =>
    .obj [(py "name", .str label.name.text), (py "required", .bool label.required),
      (py "schema", document schema)] :: propertyDocuments properties

end

mutual

/-- `left == right`. -/
def same : ValueSchema → ValueSchema → Bool
  | .node left properties itemSchema, .node right others item =>
    left.same right && sameProperties properties others && sameItem itemSchema item

/-- `==` of properties. -/
def sameProperties : List (SchemaLabel × ValueSchema) → List (SchemaLabel × ValueSchema) → Bool
  | [], [] => true
  | (label, schema) :: properties, (other, right) :: others =>
    decide (label = other) && same schema right && sameProperties properties others
  | _, _ => false

/-- `==` of item schemas. -/
def sameItem : Option ValueSchema → Option ValueSchema → Bool
  | none, none => true
  | some left, some right => same left right
  | _, _ => false

end

/-- The attributes that a node of its type has. -/
def checkShape (schema : ValueSchema) : Except SkillError Unit :=
  let f := schema.fields
  match f.valueType with
  | .object =>
    require (schema.itemSchema.isNone ∧ f.minimum = none ∧ f.maximum = none ∧ f.minLength = none ∧
        f.maxLength = none ∧ f.minItems = none ∧ f.maxItems = none ∧ f.allowedValues = [])
      (.invalidSchema (py "object schema has contradictory fields"))
  | .array => do
    require schema.itemSchema.isSome (.invalidSchema (py "array schema requires item_schema"))
    require (schema.properties.isEmpty ∧ f.allowAdditionalProperties = false ∧ f.minimum = none ∧
        f.maximum = none ∧ f.minLength = none ∧ f.maxLength = none ∧ f.allowedValues = [])
      (.invalidSchema (py "array schema has contradictory fields"))
  | valueType => do
    require (schema.properties.isEmpty ∧ schema.itemSchema.isNone ∧
        f.allowAdditionalProperties = false)
      (.invalidSchema (py "scalar schema cannot declare object or array fields"))
    match valueType with
    | .string =>
      require (f.minimum = none ∧ f.maximum = none ∧ f.minItems = none ∧ f.maxItems = none)
        (.invalidSchema (py "string schema has contradictory bounds"))
    | .integer | .number =>
      require (f.minLength = none ∧ f.maxLength = none ∧ f.minItems = none ∧ f.maxItems = none)
        (.invalidSchema (py "numeric schema has contradictory bounds"))
    | _ =>
      require (f.minimum = none ∧ f.maximum = none ∧ f.minLength = none ∧ f.maxLength = none ∧
          f.minItems = none ∧ f.maxItems = none)
        (.invalidSchema (py "boolean/null schema cannot declare bounds"))

/-- `ValueSchema.__init__` and the checks of its properties, on given parts. -/
def init (arguments : ValueSchema) : Except SkillError ValueSchema := do
  let f := arguments.fields
  require (arguments.properties.length ≤ maxSchemaProperties)
    (.invalidSchema (py "schema properties exceed the v1 limit"))
  let properties ← orderedUnique (fun property => property.1.name.text) arguments.properties
    (.invalidSchema (py "schema property names must be unique"))
  require (∀ value ∈ f.allowedValues, matchesScalar f.valueType f.nullable value = true)
    (.invalidSchema (py "allowed_values conflict with the schema type"))
  f.allowedValues.forM fun value =>
    validateJson .invalidSchema (py "allowed value") value.json
  let allowedValues ← orderedUnique (fun value => encode value.json) f.allowedValues
    (.invalidSchema (py "allowed_values must be logically unique"))
  let ordered : ValueSchema :=
    .node { f with allowedValues := allowedValues } properties arguments.itemSchema
  ordered.fields.checkBounds
  ordered.checkShape
  require (¬(f.valueType = .null ∧ f.nullable = true))
    (.invalidSchema (py "null schema cannot also be nullable"))
  pure ordered

/-- A schema that the constructor returned, with parts that it returned. -/
inductive Built : ValueSchema → Prop where
  /-- The constructor returned the node. -/
  | intro {arguments schema : ValueSchema} (returned : arguments.init = .ok schema)
      (parts : ∀ child ∈ schema.children, Built child) : Built schema

/-- What the constructor returns it accepts unchanged. -/
theorem init_self {arguments schema : ValueSchema} (h : arguments.init = .ok schema) :
    schema.init = .ok schema := by
  rw [init, Checks.require_bind_ok, Checks.bind_ok] at h
  obtain ⟨hlimit, properties, hproperties, h⟩ := h
  rw [Checks.require_bind_ok, Checks.unit_bind_ok, Checks.bind_ok] at h
  obtain ⟨hmatches, hjson, values, hvalues, h⟩ := h
  have hmem := fun value => (orderedUnique_perm hvalues).mem_iff (a := value)
  have hlength := (orderedUnique_perm hproperties).length_eq
  simp only [Checks.unit_bind_ok, Checks.pure_ok] at h
  obtain ⟨hbounds, hshape, hnull, rfl⟩ := h
  rw [Checks.forM_ok] at hjson
  rw [init, Checks.require_bind_ok, Checks.bind_ok]
  refine ⟨hlength.trans_le hlimit, properties, orderedUnique_self hproperties, ?_⟩
  rw [Checks.require_bind_ok, Checks.unit_bind_ok, Checks.bind_ok, Checks.forM_ok]
  refine ⟨fun value hvalue => hmatches value ((hmem value).mp hvalue),
    fun value hvalue => hjson value ((hmem value).mp hvalue), values,
    orderedUnique_self hvalues, ?_⟩
  simp only [Checks.unit_bind_ok, Checks.pure_ok]
  exact ⟨hbounds, hshape, hnull, rfl⟩

mutual

/-- A schema equals itself. -/
theorem same_self : ∀ schema : ValueSchema, schema.same schema = true
  | .node fields properties itemSchema => by
    rw [same, sameProperties_self, sameItem_self]
    simp [SchemaFields.same]

/-- Properties equal themselves. -/
theorem sameProperties_self : ∀ properties, sameProperties properties properties = true
  | [] => by rw [sameProperties]
  | (label, schema) :: properties => by
    rw [sameProperties, same_self, sameProperties_self]
    simp

/-- An item schema equals itself. -/
theorem sameItem_self : ∀ itemSchema, sameItem itemSchema itemSchema = true
  | none => by rw [sameItem]
  | some schema => by rw [sameItem, same_self]

end

/-- The names of the properties are distinct. -/
theorem Built.names_nodup {schema : ValueSchema} (h : schema.Built) :
    (schema.properties.map (·.1.name.text)).Nodup := by
  cases h with
  | intro returned parts =>
    rw [init, Checks.require_bind_ok, Checks.bind_ok] at returned
    obtain ⟨-, properties, hproperties, returned⟩ := returned
    rw [Checks.require_bind_ok, Checks.unit_bind_ok, Checks.bind_ok] at returned
    obtain ⟨-, -, values, -, returned⟩ := returned
    simp only [Checks.unit_bind_ok, Checks.pure_ok] at returned
    obtain ⟨-, -, -, rfl⟩ := returned
    exact ((orderedUnique_perm hproperties).map _).nodup_iff.mpr (orderedUnique_ok.mp hproperties).1

/-- The allowed values are within the limits. -/
theorem Built.allowed_values {schema : ValueSchema} (h : schema.Built) :
    ∀ value ∈ schema.fields.allowedValues, Allowed value.json := by
  cases h with
  | intro returned parts =>
    rw [init, Checks.require_bind_ok, Checks.bind_ok] at returned
    obtain ⟨-, properties, -, returned⟩ := returned
    rw [Checks.require_bind_ok, Checks.unit_bind_ok, Checks.bind_ok, Checks.forM_ok] at returned
    obtain ⟨-, hjson, values, hvalues, returned⟩ := returned
    simp only [Checks.unit_bind_ok, Checks.pure_ok] at returned
    obtain ⟨-, -, -, rfl⟩ := returned
    intro value hvalue
    have hlisted := (orderedUnique_perm hvalues).mem_iff.mp hvalue
    exact Contracts.validateJson_ok.mp (hjson value hlisted)

/-- The parts of a schema are schemas of the constructors. -/
theorem Built.children {schema : ValueSchema} (h : schema.Built) :
    ∀ child ∈ schema.children, child.Built := by
  cases h with
  | intro returned parts => exact parts

/-- The schema of a property is a part. -/
theorem property_mem_children {schema : ValueSchema} {property : SchemaLabel × ValueSchema}
    (h : property ∈ schema.properties) : property.2 ∈ schema.children := by
  rw [ValueSchema.children]
  exact List.mem_append_left _ (List.mem_map_of_mem h)

/-- The item schema is a part. -/
theorem item_mem_children {schema itemSchema : ValueSchema}
    (h : schema.itemSchema = some itemSchema) : itemSchema ∈ schema.children := by
  rw [ValueSchema.children, h]
  exact List.mem_append_right _ (List.mem_singleton_self _)

end ValueSchema

section Graphs

variable {ε : Type} (nodesError depthError : ε)

/-- The loop of `validate_schema_graph`. The first argument counts the nodes that are still allowed.
A schema holds no reference to itself, so there is nothing to leave. -/
def graphLoop : Nat → List (ValueSchema × Nat) → Except ε Unit
  | _, [] => .ok ()
  | 0, _ :: _ => .error nodesError
  | remaining + 1, (current, depth) :: stack => do
    require (depth ≤ maxSchemaDepth) depthError
    graphLoop remaining (current.children.map (fun child => (child, depth + 1)) ++ stack)

/-- Whether a schema graph is within the limits does not depend on the exceptions. -/
theorem graphLoop_ok {ε' : Type} {other another : ε'} {remaining : Nat}
    {stack : List (ValueSchema × Nat)}
    (h : graphLoop nodesError depthError remaining stack = .ok ()) :
    graphLoop other another remaining stack = .ok () := by
  induction remaining generalizing stack with
  | zero =>
    cases stack with
    | nil => rfl
    | cons entry stack => cases h
  | succ remaining ih =>
    cases stack with
    | nil => rfl
    | cons entry stack =>
      rw [graphLoop, Checks.require_bind_ok] at h ⊢
      exact ⟨h.1, ih h.2⟩

end Graphs

/-- `validate_schema_graph`. -/
def validateSchemaGraph (schema : ValueSchema) : Except SkillError Unit :=
  graphLoop (.invalidSchema (py "schema exceeds the v1 node limit"))
    (.invalidSchema (py "schema exceeds the v1 depth limit")) maxSchemaNodes [(schema, 0)]

end Schemas

end Skills
end AyyoHumanoid
