import AyyoHumanoid.SkillSchemas

/-!
# Parameters that conform to a schema

Parameters are copied and validated with an explicit stack of values and their
schemas. The values that pass are exactly those that conform to the schema under
its recursive meaning: the node fits and every part with a schema conforms.
-/

namespace AyyoHumanoid
namespace Skills

open PyText JsonText PyCollections Contracts

section Parameters

/-- `_type_matches`. -/
def typeMatches : Json → ValueType → Bool
  | .str _, .string | .int _, .integer | .int _, .number | .float _, .number | .bool _, .boolean
  | .null, .null | .arr _, .array | .obj _, .object => true
  | _, _ => false

/-- The bounds that `_validate_node` checks on a value of its type. -/
def validateBounds (schema : ValueSchema) (path : PyStr) : Json → Except ParameterFault Unit
  | .str text => do
    require (∀ bound ∈ schema.fields.minLength, bound ≤ text.length) (.minLength path)
    require (∀ bound ∈ schema.fields.maxLength, text.length ≤ bound) (.maxLength path)
  | .int value => validateNumber (.int value)
  | .float value => validateNumber (.float value)
  | .arr items => do
    require (∀ bound ∈ schema.fields.minItems, bound ≤ items.length) (.minItems path)
    require (∀ bound ∈ schema.fields.maxItems, items.length ≤ bound) (.maxItems path)
  | _ => .ok ()
where
  /-- The bounds of a number. -/
  validateNumber (value : Number) : Except ParameterFault Unit := do
    require (∀ bound ∈ schema.fields.minimum, bound.exact ≤ value.exact) (.minimum path)
    require (∀ bound ∈ schema.fields.maximum, value.exact ≤ bound.exact) (.maximum path)

/-- `_validate_node`. -/
def validateNode (schema : ValueSchema) (value : Json) (path : PyStr) :
    Except ParameterFault Unit :=
  if value = .null ∧ schema.fields.nullable = true then .ok ()
  else do
    require (typeMatches value schema.fields.valueType = true) (.type path schema.fields.valueType)
    requireWhen (schema.fields.allowedValues ≠ []) (do
      let actual ← canonicalizeJson .json path value
      let allowed ← schema.fields.allowedValues.mapM fun item =>
        canonicalizeJson .json (path ++ py " allowed value") item.json
      require (actual ∈ allowed) (.allowed path))
    validateBounds schema path value

/-- The field checks of an object. -/
def validateFields (schema : ValueSchema) (value : Json) (path : PyStr) :
    Except ParameterFault Unit :=
  match value with
  | .obj entries => do
    let names := entries.map Prod.fst
    let missing := (schema.properties.filter fun property =>
      property.1.required ∧ property.1.name.text ∉ names).map fun property => property.1.name.text
    require (missing = []) (.missing path (sortBy id missing))
    let unexpected := sortedSet (names.filter (· ∉ schema.properties.map (·.1.name.text)))
    require (unexpected = [] ∨ schema.fields.allowAdditionalProperties = true)
      (.unexpected path unexpected)
  | _ => .ok ()

/-- The parts of a value that have a schema, with what their paths add: the declared fields of an
object in the order of their names, or the items of an array. -/
def valueParts (schema : ValueSchema) : Json → List (ValueSchema × Json × PyStr)
  | .obj entries =>
    (sortByKey entries).filterMap fun entry =>
      (schema.properties.find? fun property => property.1.name.text = entry.1).map fun property =>
        (property.2, entry.2, py "." ++ entry.1)
  | .arr items =>
    schema.itemSchema.elim [] fun itemSchema => items.zipIdx.map fun item =>
      (itemSchema, item.1, py "[" ++ natDigits item.2 ++ py "]")
  | _ => []

/-- The loop of `validate_parameters`. The first argument bounds the number of values. -/
def validateStack : Nat → List (ValueSchema × Json × PyStr) → Except ParameterFault Unit
  | _, [] | 0, _ :: _ => .ok ()
  | remaining + 1, (schema, value, path) :: stack => do
    validateNode schema value path
    if value = .null then validateStack remaining stack
    else do
      validateFields schema value path
      let parts := (valueParts schema value).map fun part => (part.1, part.2.1, path ++ part.2.2)
      validateStack remaining (parts ++ stack)

/-- `validate_parameters`. -/
def validateParameters (schema : ValueSchema) (parameters : Json) :
    Except SkillError Executive.JsonDict := do
  validateSchemaGraph schema
  require (schema.fields.valueType = .object ∧ schema.fields.nullable = false)
    (.invalidParameters .schema)
  let copied ← copyJson (fun message => .invalidParameters (.json message))
    (py "skill parameters") parameters
  match copied with
  | .obj entries => do
    (validateStack copied.nodes [(schema, copied, py "parameters")]).mapError .invalidParameters
    pure entries
  | _ => .error (.invalidParameters .plain)

end Parameters

section Conformance

/-- A value that fits the node of a schema. -/
structure Fits (schema : ValueSchema) (value : Json) : Prop where
  type : typeMatches value schema.fields.valueType = true
  /-- The value is listed when there is a list. -/
  allowed : schema.fields.allowedValues ≠ [] →
    encode value ∈ schema.fields.allowedValues.map fun item => encode item.json
  /-- The length of a text is within the bounds. -/
  length : ∀ text, value = .str text → (∀ bound ∈ schema.fields.minLength, bound ≤ text.length) ∧
    ∀ bound ∈ schema.fields.maxLength, text.length ≤ bound
  /-- A number is within the bounds. -/
  number : ∀ number : Number, value = number.json →
    (∀ bound ∈ schema.fields.minimum, bound.exact ≤ number.exact) ∧
      ∀ bound ∈ schema.fields.maximum, number.exact ≤ bound.exact
  /-- The number of items is within the bounds. -/
  items : ∀ items, value = .arr items → (∀ bound ∈ schema.fields.minItems, bound ≤ items.length) ∧
    ∀ bound ∈ schema.fields.maxItems, items.length ≤ bound
  /-- An object has the required fields. -/
  required : ∀ entries, value = .obj entries → ∀ property ∈ schema.properties,
    property.1.required = true → property.1.name.text ∈ entries.map Prod.fst
  /-- An object has declared fields only, unless others are allowed. -/
  declared : ∀ entries, value = .obj entries → schema.fields.allowAdditionalProperties = false →
    ∀ name ∈ entries.map Prod.fst, name ∈ schema.properties.map (·.1.name.text)

/-- A value that conforms to a schema. -/
inductive Conforms : ValueSchema → Json → Prop where
  /-- The schema allows the absent value. -/
  | null {schema : ValueSchema} (nullable : schema.fields.nullable = true) : Conforms schema .null
  /-- An object fits the node and its declared fields conform. -/
  | object {schema : ValueSchema} {entries : List (PyStr × Json)} (fits : Fits schema (.obj entries))
      (parts : ∀ property ∈ schema.properties, ∀ entry ∈ entries,
        property.1.name.text = entry.1 → Conforms property.2 entry.2) :
      Conforms schema (.obj entries)
  /-- An array fits the node and its items conform. -/
  | array {schema : ValueSchema} {items : List Json} (fits : Fits schema (.arr items))
      (parts : ∀ itemSchema ∈ schema.itemSchema, ∀ item ∈ items, Conforms itemSchema item) :
      Conforms schema (.arr items)
  /-- A value without parts fits the node. -/
  | scalar {schema : ValueSchema} {value : Json} (fits : Fits schema value)
      (object : ∀ entries, value ≠ .obj entries) (array : ∀ items, value ≠ .arr items) :
      Conforms schema value

/-- The canonical texts of listed values within the limits. -/
theorem canonicalTexts {values : List Scalar} {fieldName : PyStr}
    (h : ∀ item ∈ values, Allowed item.json) :
    (values.mapM fun item => Contracts.canonicalizeJson ParameterFault.json fieldName item.json) =
      .ok (values.map fun item => encode item.json) := by
  rw [Checks.mapM_ok, List.forall₂_map_right_iff, List.forall₂_same]
  intro item hitem
  rw [Contracts.canonicalizeJson_ok]
  exact ⟨h item hitem, rfl⟩

section Nodes

variable {schema : ValueSchema} {value : Json} {path : PyStr}

/-- The checks of a node, on a value within the limits. -/
theorem validateNode_ok (hbuilt : schema.Built) (hvalue : Allowed value)
    (hnull : ¬(value = .null ∧ schema.fields.nullable = true)) :
    validateNode schema value path = .ok () ↔
      typeMatches value schema.fields.valueType = true ∧
        (schema.fields.allowedValues ≠ [] →
          encode value ∈ schema.fields.allowedValues.map fun item => encode item.json) ∧
        validateBounds schema path value = .ok () := by
  have hactual : Contracts.canonicalizeJson ParameterFault.json path value = .ok (encode value) :=
    Contracts.canonicalizeJson_ok.mpr ⟨hvalue, rfl⟩
  rw [validateNode, if_neg hnull, Checks.require_bind_ok, Checks.unit_bind_ok,
    Checks.requireWhen_ok, hactual, Checks.ok_bind, canonicalTexts hbuilt.allowed_values,
    Checks.ok_bind, Checks.require_ok]

/-- The bounds of a node, by the kind of the value. -/
theorem validateBounds_ok : validateBounds schema path value = .ok () ↔
    (∀ text, value = .str text → (∀ bound ∈ schema.fields.minLength, bound ≤ text.length) ∧
      ∀ bound ∈ schema.fields.maxLength, text.length ≤ bound) ∧
    (∀ number : Number, value = number.json →
      (∀ bound ∈ schema.fields.minimum, bound.exact ≤ number.exact) ∧
        ∀ bound ∈ schema.fields.maximum, number.exact ≤ bound.exact) ∧
    ∀ items, value = .arr items → (∀ bound ∈ schema.fields.minItems, bound ≤ items.length) ∧
      ∀ bound ∈ schema.fields.maxItems, items.length ≤ bound := by
  have hnumber : ∀ number : Number, validateBounds.validateNumber schema path number = .ok () ↔
      (∀ bound ∈ schema.fields.minimum, bound.exact ≤ number.exact) ∧
        ∀ bound ∈ schema.fields.maximum, number.exact ≤ bound.exact := by
    intro number
    rw [validateBounds.validateNumber, Checks.require_bind_ok, Checks.require_ok]
  cases value with
  | str text =>
    rw [validateBounds, Checks.require_bind_ok, Checks.require_ok]
    constructor
    · intro h
      refine ⟨fun other hother => ?_, fun number hother => ?_, fun items hother => ?_⟩
      · cases hother
        exact h
      · cases number <;> cases hother
      · cases hother
    · intro h
      exact h.1 text rfl
  | arr items =>
    rw [validateBounds, Checks.require_bind_ok, Checks.require_ok]
    constructor
    · intro h
      refine ⟨fun other hother => ?_, fun number hother => ?_, fun others hother => ?_⟩
      · cases hother
      · cases number <;> cases hother
      · cases hother
        exact h
    · intro h
      exact h.2.2 items rfl
  | int v =>
    rw [validateBounds, hnumber]
    constructor
    · intro h
      refine ⟨fun other hother => ?_, fun number hother => ?_, fun items hother => ?_⟩
      · cases hother
      · cases number with
        | int w =>
          cases hother
          exact h
        | float token => cases hother
      · cases hother
    · intro h
      exact h.2.1 (.int v) rfl
  | float token =>
    rw [validateBounds, hnumber]
    constructor
    · intro h
      refine ⟨fun other hother => ?_, fun number hother => ?_, fun items hother => ?_⟩
      · cases hother
      · cases number with
        | int w => cases hother
        | float other =>
          cases hother
          exact h
      · cases hother
    · intro h
      exact h.2.1 (.float token) rfl
  | null | bool _ | obj _ =>
    constructor
    · intro h
      refine ⟨fun other hother => ?_, fun number hother => ?_, fun items hother => ?_⟩
      · cases hother
      · cases number <;> cases hother
      · cases hother
    · intro h
      rfl

/-- The field checks of a node. -/
theorem validateFields_ok : validateFields schema value path = .ok () ↔
    (∀ entries, value = .obj entries → ∀ property ∈ schema.properties,
      property.1.required = true → property.1.name.text ∈ entries.map Prod.fst) ∧
    ∀ entries, value = .obj entries → schema.fields.allowAdditionalProperties = false →
      ∀ name ∈ entries.map Prod.fst, name ∈ schema.properties.map (·.1.name.text) := by
  cases value with
  | obj entries =>
    rw [validateFields, Checks.require_bind_ok, Checks.require_ok, List.map_eq_nil_iff,
      List.filter_eq_nil_iff]
    simp only [Json.obj.injEq, forall_eq']
    refine and_congr ?_ ?_
    · refine forall₂_congr fun property _ => ?_
      simp only [decide_eq_true_eq, not_and, not_not]
    · rw [← Bool.not_eq_true, or_iff_not_imp_right]
      refine imp_congr_right fun _ => ?_
      rw [List.eq_nil_iff_forall_not_mem]
      refine forall_congr' fun name => ?_
      rw [mem_sortedSet, List.mem_filter]
      simp only [decide_eq_true_eq, not_and, not_not]
  | null | bool _ | int _ | float _ | str _ | arr _ =>
    simp [validateFields]

/-- A value that is not absent fits a node exactly when it passes the checks of the node. -/
theorem fits_iff_validate (hbuilt : schema.Built) (hvalue : Allowed value) (hnull : value ≠ .null) :
    Fits schema value ↔
      validateNode schema value path = .ok () ∧ validateFields schema value path = .ok () := by
  rw [validateNode_ok hbuilt hvalue fun h => hnull h.1, validateBounds_ok, validateFields_ok]
  constructor
  · intro h
    exact ⟨⟨h.type, h.allowed, h.length, h.number, h.items⟩, h.required, h.declared⟩
  · rintro ⟨⟨type, allowed, length, number, items⟩, required, declared⟩
    exact ⟨type, allowed, length, number, items, required, declared⟩

/-- The absent value passes the checks of a node that allows it or that it fits. -/
theorem validateNode_null (hbuilt : schema.Built) (hvalue : Allowed value) (hnull : value = .null) :
    validateNode schema value path = .ok () ↔
      (value = .null ∧ schema.fields.nullable = true) ∨ Fits schema value := by
  by_cases hnullable : value = .null ∧ schema.fields.nullable = true
  · rw [validateNode, if_pos hnullable]
    exact ⟨fun _ => Or.inl hnullable, fun _ => rfl⟩
  · have hfields : validateFields schema value path = .ok () := by
      rw [hnull]
      rfl
    rw [validateNode_ok hbuilt hvalue hnullable, validateBounds_ok]
    constructor
    · rintro ⟨type, allowed, length, number, items⟩
      obtain ⟨required, declared⟩ := validateFields_ok.mp hfields
      exact Or.inr ⟨type, allowed, length, number, items, required, declared⟩
    · rintro (h | h)
      · exact absurd h hnullable
      · exact ⟨h.type, h.allowed, h.length, h.number, h.items⟩

end Nodes

/-- The values of the parts are among the values inside. -/
theorem nodes_valueParts (schema : ValueSchema) (value : Json) :
    ((valueParts schema value).map fun part => part.2.1.nodes).sum + 1 ≤ value.nodes := by
  cases value with
  | obj entries =>
    have hparts : ∀ sorted : List (PyStr × Json),
        ((sorted.filterMap fun entry =>
          (schema.properties.find? fun property => property.1.name.text = entry.1).map
            fun property => (property.2, entry.2, py "." ++ entry.1)).map
              fun part => part.2.1.nodes).sum ≤ (sorted.map fun entry => entry.2.nodes).sum := by
      intro sorted
      induction sorted with
      | nil => simp
      | cons entry sorted ih =>
        rw [List.filterMap_cons]
        cases schema.properties.find? fun property => property.1.name.text = entry.1 with
        | none =>
          rw [List.map_cons, List.sum_cons]
          exact ih.trans (Nat.le_add_left _ _)
        | some property =>
          rw [List.map_cons, List.sum_cons]
          exact Nat.add_le_add_left ih _
    have hsum := hparts (sortByKey entries)
    have hperm := ((sortByKey_perm entries).map fun entry => entry.2.nodes).sum_nat
    rw [valueParts, Json.nodes_obj]
    omega
  | arr items =>
    rw [valueParts, Json.nodes_arr]
    cases schema.itemSchema with
    | none =>
      rw [Option.elim_none, List.map_nil, List.sum_nil]
      omega
    | some itemSchema =>
      have hitems : (items.zipIdx.map fun item => item.1.nodes).sum =
          (items.map Json.nodes).sum := by
        rw [show (fun item : Json × Nat => item.1.nodes) = Json.nodes ∘ Prod.fst from rfl,
          ← List.map_map, List.zipIdx_map_fst]
      rw [Option.elim_some, List.map_map]
      exact (Nat.add_comm _ _).trans_le (Nat.add_le_add_left hitems.le 1)
  | null | bool _ | int _ | float _ | str _ => exact Json.nodes_pos _

/-- The parts of a value are among its children, with schemas among the children of its schema. -/
theorem valueParts_children {schema : ValueSchema} {value : Json}
    {part : ValueSchema × Json × PyStr} (h : part ∈ valueParts schema value) :
    part.1 ∈ schema.children ∧ part.2.1 ∈ value.children := by
  cases value with
  | obj entries =>
    rw [valueParts, List.mem_filterMap] at h
    obtain ⟨entry, hentry, hpart⟩ := h
    obtain ⟨property, hproperty, rfl⟩ := Option.map_eq_some_iff.mp hpart
    have hmem := List.mem_of_find?_eq_some hproperty
    exact ⟨ValueSchema.property_mem_children hmem,
      List.mem_map_of_mem ((sortByKey_perm entries).mem_iff.mp hentry)⟩
  | arr items =>
    cases hschema : schema.itemSchema with
    | none =>
      rw [valueParts, hschema] at h
      cases h
    | some itemSchema =>
      rw [valueParts, hschema, Option.elim_some, List.mem_map] at h
      obtain ⟨item, hitem, rfl⟩ := h
      have hmem : item.1 ∈ items.zipIdx.map Prod.fst := List.mem_map_of_mem hitem
      rw [List.zipIdx_map_fst] at hmem
      exact ⟨ValueSchema.item_mem_children hschema, hmem⟩
  | null | bool _ | int _ | float _ | str _ => cases h

/-- A value conforms to a schema of the constructors when the node fits and the parts conform. -/
theorem conforms_iff_parts {schema : ValueSchema} (hbuilt : schema.Built) {value : Json} :
    Conforms schema value ↔ (value = .null ∧ schema.fields.nullable = true) ∨
      (Fits schema value ∧ ∀ part ∈ valueParts schema value, Conforms part.1 part.2.1) := by
  constructor
  · intro h
    cases h with
    | null nullable => exact Or.inl ⟨rfl, nullable⟩
    | @object _ entries fits parts =>
      refine Or.inr ⟨fits, fun part hpart => ?_⟩
      rw [valueParts, List.mem_filterMap] at hpart
      obtain ⟨entry, hentry, hfound⟩ := hpart
      obtain ⟨property, hproperty, rfl⟩ := Option.map_eq_some_iff.mp hfound
      have hname : property.1.name.text = entry.1 := by
        simpa using List.find?_some hproperty
      exact parts property (List.mem_of_find?_eq_some hproperty) entry
        ((sortByKey_perm entries).mem_iff.mp hentry) hname
    | @array _ items fits parts =>
      refine Or.inr ⟨fits, fun part hpart => ?_⟩
      cases hschema : schema.itemSchema with
      | none =>
        rw [valueParts, hschema] at hpart
        cases hpart
      | some itemSchema =>
        have hitem := (valueParts_children hpart).2
        rw [valueParts, hschema, Option.elim_some, List.mem_map] at hpart
        obtain ⟨item, -, rfl⟩ := hpart
        exact parts itemSchema hschema _ hitem
    | scalar fits object array =>
      refine Or.inr ⟨fits, fun part hpart => ?_⟩
      cases value with
      | obj entries => exact absurd rfl (object entries)
      | arr items => exact absurd rfl (array items)
      | null | bool _ | int _ | float _ | str _ => cases hpart
  · rintro (⟨rfl, hnullable⟩ | ⟨hfits, hparts⟩)
    · exact .null hnullable
    · cases value with
      | obj entries =>
        refine .object hfits fun property hproperty entry hentry hname => ?_
        refine hparts (property.2, entry.2, py "." ++ entry.1) ?_
        have hfound := @find_of_nodup _ _ _ (fun property : SchemaLabel × ValueSchema =>
          property.1.name.text) _ hbuilt.names_nodup _ hproperty
        rw [valueParts, List.mem_filterMap]
        refine ⟨entry, (sortByKey_perm entries).mem_iff.mpr hentry, ?_⟩
        rw [← hname, hfound]
        rfl
      | arr items =>
        refine .array hfits fun itemSchema hschema item hitem => ?_
        obtain ⟨i, hi, rfl⟩ := List.mem_iff_getElem.mp hitem
        refine hparts (itemSchema, items[i], py "[" ++ natDigits i ++ py "]") ?_
        rw [Option.mem_def] at hschema
        rw [valueParts, hschema, Option.elim_some, List.mem_map]
        exact ⟨(items[i], i), List.mk_mem_zipIdx_iff_getElem?.mpr (List.getElem?_eq_getElem hi), rfl⟩
      | null | bool _ | int _ | float _ | str _ =>
        refine .scalar hfits ?_ ?_ <;> intro parts hvalue <;> cases hvalue

/-- The values on a stack pass exactly when they conform to their schemas. -/
theorem validateStack_ok {fuel : Nat} {stack : List (ValueSchema × Json × PyStr)}
    (hfuel : (stack.map fun entry => entry.2.1.nodes).sum ≤ fuel)
    (hbuilt : ∀ entry ∈ stack, entry.1.Built) (hallowed : ∀ entry ∈ stack, Allowed entry.2.1) :
    validateStack fuel stack = .ok () ↔ ∀ entry ∈ stack, Conforms entry.1 entry.2.1 := by
  induction fuel generalizing stack with
  | zero =>
    cases stack with
    | nil => simp [validateStack]
    | cons entry stack =>
      have hpos := entry.2.1.nodes_pos
      rw [List.map_cons, List.sum_cons] at hfuel
      omega
  | succ fuel ih =>
    cases stack with
    | nil => simp [validateStack]
    | cons entry stack =>
      obtain ⟨schema, value, path⟩ := entry
      rw [List.forall_mem_cons] at hbuilt hallowed
      rw [List.map_cons, List.sum_cons] at hfuel
      dsimp only at hbuilt hallowed hfuel
      have hpos := value.nodes_pos
      have hinside := nodes_valueParts schema value
      rw [validateStack, Checks.unit_bind_ok, List.forall_mem_cons,
        conforms_iff_parts hbuilt.1]
      by_cases hvalue : value = .null
      · have hparts : ∀ part ∈ valueParts schema value, Conforms part.1 part.2.1 := by
          rw [hvalue]
          exact fun part hpart => absurd hpart List.not_mem_nil
        rw [if_pos hvalue, ih (by omega) hbuilt.2 hallowed.2,
          validateNode_null hbuilt.1 hallowed.1 hvalue]
        exact and_congr_left fun _ => or_congr_right ⟨fun h => ⟨h, hparts⟩, fun h => h.1⟩
      · have hsum : (((valueParts schema value).map fun part =>
            (part.1, part.2.1, path ++ part.2.2)) ++ stack |>.map
              fun entry => entry.2.1.nodes).sum ≤ fuel := by
          rw [List.map_append, List.sum_append, List.map_map]
          simp only [Function.comp_def]
          omega
        have hschemas : ∀ entry ∈ ((valueParts schema value).map fun part =>
            (part.1, part.2.1, path ++ part.2.2)) ++ stack, entry.1.Built := by
          rw [List.forall_mem_append, List.forall_mem_map]
          exact ⟨fun part hpart => hbuilt.1.children _ (valueParts_children hpart).1, hbuilt.2⟩
        have hvalues : ∀ entry ∈ ((valueParts schema value).map fun part =>
            (part.1, part.2.1, path ++ part.2.2)) ++ stack, Allowed entry.2.1 := by
          rw [List.forall_mem_append, List.forall_mem_map]
          exact ⟨fun part hpart => hallowed.1.child (valueParts_children hpart).2, hallowed.2⟩
        have hnull : ¬(value = .null ∧ schema.fields.nullable = true) := fun h => hvalue h.1
        rw [if_neg hvalue, Checks.unit_bind_ok, ih hsum hschemas hvalues, ← and_assoc,
          ← fits_iff_validate hbuilt.1 hallowed.1 hvalue, List.forall_mem_append,
          List.forall_mem_map, ← and_assoc]
        simp only [hnull, false_or]

/-- Validation returns the parameters when the schema is an object schema within the limits, the
parameters are an object within the limits and they conform. -/
theorem validateParameters_ok {schema : ValueSchema} (hbuilt : schema.Built) {parameters : Json}
    {copied : Executive.JsonDict} : validateParameters schema parameters = .ok copied ↔
      validateSchemaGraph schema = .ok () ∧
        (schema.fields.valueType = .object ∧ schema.fields.nullable = false) ∧
        Allowed parameters ∧ parameters = .obj copied ∧ Conforms schema parameters := by
  have hstack : Allowed parameters → (validateStack parameters.nodes
      [(schema, parameters, py "parameters")] = .ok () ↔ Conforms schema parameters) := by
    intro hallowed
    rw [validateStack_ok (by simp) (by simpa using hbuilt) (by simpa using hallowed)]
    simp
  rw [validateParameters, Checks.unit_bind_ok, Checks.require_bind_ok, Checks.bind_ok]
  simp only [Contracts.copyJson_ok]
  constructor
  · rintro ⟨hgraph, hroot, value, ⟨hallowed, rfl⟩, h⟩
    split at h
    · next entries =>
      rw [Checks.unit_bind_ok, Checks.mapError_ok, Checks.pure_ok] at h
      obtain ⟨hvalid, rfl⟩ := h
      exact ⟨hgraph, hroot, hallowed, rfl, (hstack hallowed).mp hvalid⟩
    · cases h
  · rintro ⟨hgraph, hroot, hallowed, rfl, hconforms⟩
    refine ⟨hgraph, hroot, .obj copied, ⟨hallowed, rfl⟩, ?_⟩
    rw [Checks.unit_bind_ok, Checks.mapError_ok, Checks.pure_ok]
    exact ⟨(hstack hallowed).mpr hconforms, rfl⟩

end Conformance

end Skills
end AyyoHumanoid
