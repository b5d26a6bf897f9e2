import AyyoHumanoid.ObjectGraphs
import AyyoHumanoid.SkillParameters

/-!
# Validated parameters are fresh copies

Lists and dictionaries are mutable objects, so a JSON value is what an object
reads as. `validate_parameters` accepts the objects that read as conforming
values and returns a copy from which no object of the caller can be reached.
-/

namespace AyyoHumanoid
namespace Skills

open PyText JsonText Contracts ObjectGraphs

section Objects

/-- The kinds of mutable objects in JSON data. -/
inductive JsonKind where
  | list | dict
  deriving DecidableEq, Repr

/-- The lists and dictionaries of a running program. The slots of a list have no label; those of a
dictionary are labelled with their keys. -/
abbrev JsonStore := Store JsonKind (Option PyStr) Scalar

/-- What a JSON value is made of. -/
def jsonShape : Json → Shape JsonKind (Option PyStr) Scalar Json
  | .null => .leaf .null
  | .bool value => .leaf (.bool value)
  | .int value => .leaf (.number (.int value))
  | .float value => .leaf (.number (.float value))
  | .str value => .leaf (.str value)
  | .arr items => .node .list (items.map fun item => (none, item))
  | .obj entries => .node .dict (entries.map fun entry => (some entry.1, entry.2))

/-- The parts of a JSON value are smaller than the value. -/
theorem nodes_parts (value : Json) (kind : JsonKind) (parts : List (Option PyStr × Json))
    (h : jsonShape value = .node kind parts) :
    (parts.map fun part => part.2.nodes).sum + 1 ≤ value.nodes := by
  cases value with
  | arr items =>
    cases h
    rw [Json.nodes_arr, List.map_map, Nat.add_comm]
    rfl
  | obj entries =>
    cases h
    rw [Json.nodes_obj, List.map_map, Nat.add_comm]
    rfl
  | null | bool _ | int _ | float _ | str _ => cases h

/-- `copy_json` on the object in a slot, which reads as `value`. -/
def copyJsonObject (store : JsonStore) (slot : Slot Scalar) (value : Json) :
    JsonStore × Slot Scalar :=
  copySlot value.nodes store slot

/-- `validate_parameters` on the object in a slot, which reads as `parameters`: the objects
afterwards and the one that is returned. -/
def validateParametersObject (schema : ValueSchema) (store : JsonStore) (slot : Slot Scalar)
    (parameters : Json) : Except SkillError (JsonStore × Slot Scalar) := do
  let _ ← validateParameters schema parameters
  pure (copyJsonObject store slot parameters)

end Objects

section Exactness

variable {schema : ValueSchema} {store : JsonStore} {slot : Slot Scalar} {parameters : Json}

/-- The copy of an object reads as the same value and shares no object with it. -/
theorem copyJsonObject_isCopy (h : Reads jsonShape store slot parameters) :
    IsCopy jsonShape store slot parameters (copyJsonObject store slot parameters).1
      (copyJsonObject store slot parameters).2 :=
  copySlot_isCopy nodes_parts h (Nat.le_refl _)

/-- Validation returns exactly for conforming parameters. -/
theorem validateParameters_iff (hbuilt : schema.Built) (hgraph : validateSchemaGraph schema = .ok ())
    (hroot : schema.fields.valueType = .object ∧ schema.fields.nullable = false)
    (hallowed : Allowed parameters) :
    (∃ copied, validateParameters schema parameters = .ok copied) ↔ Conforms schema parameters := by
  simp only [validateParameters_ok hbuilt]
  constructor
  · intro h
    obtain ⟨copied, -, -, -, -, hconforms⟩ := h
    exact hconforms
  · intro h
    -- A non-null object schema is met by objects only.
    have hobject : ∃ entries, parameters = .obj entries := by
      rcases (conforms_iff_parts hbuilt).mp h with ⟨-, hnullable⟩ | ⟨hfits, -⟩
      · rw [hroot.2] at hnullable
        cases hnullable
      · have htype := hfits.type
        rw [hroot.1] at htype
        cases parameters with
        | obj entries => exact ⟨entries, rfl⟩
        | null | bool _ | int _ | float _ | str _ | arr _ => cases htype
    obtain ⟨entries, hentries⟩ := hobject
    exact ⟨entries, hgraph, hroot, hallowed, hentries, h⟩

/-- With a non-null object at the root of a valid schema, exactly the conforming parameters are
accepted, and what is returned is a copy of them. -/
theorem validateParameters_exact (hbuilt : schema.Built)
    (hgraph : validateSchemaGraph schema = .ok ())
    (hroot : schema.fields.valueType = .object ∧ schema.fields.nullable = false)
    (hallowed : Allowed parameters) (hreads : Reads jsonShape store slot parameters) :
    ((∃ result, validateParametersObject schema store slot parameters = .ok result) ↔
      Conforms schema parameters) ∧
    (∀ copied, validateParameters schema parameters = .ok copied → Json.obj copied = parameters) ∧
    ∀ later copy, validateParametersObject schema store slot parameters = .ok (later, copy) →
      IsCopy jsonShape store slot parameters later copy := by
  refine ⟨?_, ?_, ?_⟩
  · rw [← validateParameters_iff hbuilt hgraph hroot hallowed]
    simp only [validateParametersObject, Checks.bind_ok, Checks.pure_ok]
    constructor
    · intro h
      obtain ⟨result, copied, hcopied, -⟩ := h
      exact ⟨copied, hcopied⟩
    · intro h
      obtain ⟨copied, hcopied⟩ := h
      exact ⟨_, copied, hcopied, rfl⟩
  · intro copied hcopied
    exact ((validateParameters_ok hbuilt).mp hcopied).2.2.2.1.symm
  · intro later copy hresult
    rw [validateParametersObject, Checks.bind_ok] at hresult
    obtain ⟨copied, -, hcopy⟩ := hresult
    have hpair := (Checks.pure_ok.mp hcopy).symm
    have hcopies := copyJsonObject_isCopy hreads
    rw [← hpair] at hcopies
    exact hcopies

/-- An object schema that allows any fields. -/
def openSchema : ValueSchema :=
  .node { valueType := .object, allowAdditionalProperties := true } [] none

/-- A text schema. -/
def textSchema : ValueSchema := .node { valueType := .string } [] none

/-- The constructor returns a schema without parts that it accepts unchanged. -/
theorem built_of_init (h : schema.init = .ok schema) (hparts : schema.children = []) :
    schema.Built :=
  .intro h (by simp [hparts])

/-- The parameters `{"a": ["x"]}`. -/
def nestedParameters : Json := .obj [(py "a", .arr [.str (py "x")])]

/-- A dictionary and the list inside it. -/
def nestedStore : JsonStore :=
  [⟨.dict, [(some (py "a"), .ref 1)]⟩, ⟨.list, [(none, .leaf (.str (py "x")))]⟩]

/-- The dictionary reads as the parameters. -/
theorem reads_nested : Reads jsonShape nestedStore (.ref 0) nestedParameters := by
  have hlist : Reads jsonShape nestedStore (.ref 1) (.arr [.str (py "x")]) := by
    refine @Reads.node _ _ _ _ _ _ _ _ _ _ [(none, .leaf (.str (py "x")))] rfl rfl rfl
      fun i slot part hslot hpart => ?_
    cases i with
    | zero =>
      cases hslot
      cases hpart
      exact .leaf rfl
    | succ i => simp at hslot
  refine @Reads.node _ _ _ _ _ _ _ _ _ _ [(some (py "a"), .ref 1)] rfl rfl rfl
    fun i slot part hslot hpart => ?_
  cases i with
  | zero =>
    cases hslot
    cases hpart
    exact hlist
  | succ i => simp at hslot

/-- The parameters are within the limits. -/
theorem allowed_nested : Allowed nestedParameters := by
  have hvalid : validateJson SkillError.invalidSchema [] nestedParameters = .ok () := by decide
  exact Contracts.validateJson_ok.mp hvalid

/-- The nested parameters are validated exactly. -/
theorem validateParameters_exact_nested :
    ((∃ result, validateParametersObject openSchema nestedStore (.ref 0) nestedParameters =
      .ok result) ↔ Conforms openSchema nestedParameters) ∧
    (∀ copied, validateParameters openSchema nestedParameters = .ok copied →
      Json.obj copied = nestedParameters) ∧
    ∀ later copy, validateParametersObject openSchema nestedStore (.ref 0) nestedParameters =
      .ok (later, copy) → IsCopy jsonShape nestedStore (.ref 0) nestedParameters later copy :=
  validateParameters_exact (built_of_init rfl rfl) (by decide) ⟨rfl, rfl⟩
    allowed_nested reads_nested

/-- A text conforms to a text schema, which `validate_parameters` does not accept. -/
theorem not_forall_validated : ¬ ∀ (schema : ValueSchema) (parameters : Json), schema.Built →
    validateSchemaGraph schema = .ok () → Allowed parameters →
      ((∃ copied, validateParameters schema parameters = .ok copied) ↔
        Conforms schema parameters) := by
  intro hall
  have hbuilt : textSchema.Built := built_of_init rfl rfl
  have hvalid : validateJson SkillError.invalidSchema [] (.str (py "a")) = .ok () := by decide
  have hallowed : Allowed (.str (py "a")) := Contracts.validateJson_ok.mp hvalid
  have hconforms : Conforms textSchema (.str (py "a")) := by
    refine .scalar ?_ (by simp) (by simp)
    have hnode : validateNode textSchema (.str (py "a")) [] = .ok () ∧
        validateFields textSchema (.str (py "a")) [] = .ok () := by decide
    exact (fits_iff_validate hbuilt hallowed (by simp)).mpr hnode
  obtain ⟨copied, hcopied⟩ := (hall _ _ hbuilt (by decide) hallowed).mpr hconforms
  have hroot := ((validateParameters_ok hbuilt).mp hcopied).2.1
  exact absurd hroot (by decide)

end Exactness

end Skills
end AyyoHumanoid
