import AyyoHumanoid.JsonRoundTrip
import AyyoHumanoid.Transactions
import Mathlib.Data.Nat.Size

/-!
# Bounded JSON documents

Several packages accept JSON data only within limits on its depth, its number of
values and its number of characters, and write it as canonical text with an
explicit stack in place of recursion. Both traversals are modelled with their
stacks. The validation accepts exactly the values within the limits, and the
writer's text is the text of the recursive encoder.
-/

namespace AyyoHumanoid

open PyText

namespace Json

/-- The values directly inside a list or a dictionary. -/
def children : Json → List Json
  | .arr items => items
  | .obj entries => entries.map Prod.snd
  | _ => []

mutual

/-- A value and everything inside it in preorder, each with its nesting depth. -/
def visits (depth : Nat) : Json → List (Json × Nat)
  | .arr items => (.arr items, depth) :: visitsItems (depth + 1) items
  | .obj entries => (.obj entries, depth) :: visitsEntries (depth + 1) entries
  | .null => [(.null, depth)]
  | .bool value => [(.bool value, depth)]
  | .int value => [(.int value, depth)]
  | .float value => [(.float value, depth)]
  | .str value => [(.str value, depth)]

/-- The visits of list items. -/
def visitsItems (depth : Nat) : List Json → List (Json × Nat)
  | [] => []
  | item :: items => visits depth item ++ visitsItems depth items

/-- The visits of dictionary values. -/
def visitsEntries (depth : Nat) : List (PyStr × Json) → List (Json × Nat)
  | [] => []
  | (_, value) :: entries => visits depth value ++ visitsEntries depth entries

end

/-- Items are visited in turn. -/
theorem visitsItems_eq (depth : Nat) (items : List Json) :
    visitsItems depth items = items.flatMap (visits depth) := by
  induction items with
  | nil => rfl
  | cons item items ih => rw [visitsItems, ih, List.flatMap_cons]

/-- Dictionary values are visited in turn. -/
theorem visitsEntries_eq (depth : Nat) (entries : List (PyStr × Json)) :
    visitsEntries depth entries = (entries.map Prod.snd).flatMap (visits depth) := by
  induction entries with
  | nil => rfl
  | cons entry entries ih => rw [visitsEntries, ih, List.map_cons, List.flatMap_cons]

/-- A value is visited before everything inside it. -/
theorem visits_eq (depth : Nat) (value : Json) :
    visits depth value = (value, depth) :: value.children.flatMap (visits (depth + 1)) := by
  cases value with
  | arr items => rw [visits, visitsItems_eq, children]
  | obj entries => rw [visits, visitsEntries_eq, children]
  | _ => rfl

/-- The number of characters a value holds itself. -/
def ownCharacters : Json → Nat
  | .str text => text.length
  | .obj entries => (entries.map fun entry => entry.1.length).sum
  | _ => 0

/-- `int.bit_length`. -/
def bitLength (value : Int) : Nat :=
  value.natAbs.size

/-- `MAX_JSON_INTEGER_BITS`. -/
def maxIntegerBits : Nat := 13000

/-- A value whose own text and number may be written. -/
def OwnValid : Json → Prop
  | .str text => utf8Encodable text = true
  | .int value => bitLength value ≤ maxIntegerBits
  | .obj entries => ∀ entry ∈ entries, utf8Encodable entry.1 = true
  | _ => True

/-- The number of values. -/
def nodes (value : Json) : Nat :=
  (visits 0 value).length

/-- The number of characters of all strings and keys. -/
def characters (value : Json) : Nat :=
  ((visits 0 value).map fun visit => visit.1.ownCharacters).sum

/-- Nothing lies deeper than the limit. -/
def FitsDepth (limit depth : Nat) (value : Json) : Prop :=
  ∀ visit ∈ visits depth value, visit.2 ≤ limit

/-- Every value inside may be written. -/
def AllValid (value : Json) : Prop :=
  ∀ visit ∈ visits 0 value, visit.1.OwnValid

/-- The visited values do not depend on the starting depth. -/
theorem visits_values (value : Json) :
    ∀ depth other, (visits depth value).map Prod.fst = (visits other value).map Prod.fst := by
  have hstep : ∀ v : Json, (∀ child ∈ v.children, ∀ depth other,
      (visits depth child).map Prod.fst = (visits other child).map Prod.fst) →
      ∀ depth other, (visits depth v).map Prod.fst = (visits other v).map Prod.fst := by
    intro v hchildren depth other
    rw [visits_eq, visits_eq, List.map_cons, List.map_cons, List.map_flatMap, List.map_flatMap]
    have hinside : v.children.flatMap (fun child => (visits (depth + 1) child).map Prod.fst) =
        v.children.flatMap fun child => (visits (other + 1) child).map Prod.fst := by
      rw [List.flatMap_def, List.flatMap_def]
      exact congrArg List.flatten
        (List.map_congr_left fun child hchild => hchildren child hchild _ _)
    rw [hinside]
  induction value using Json.induct with
  | null | bool _ | int _ | float _ | str _ => exact hstep _ (by simp [children])
  | arr items ih => exact hstep _ ih
  | obj entries ih =>
    refine hstep _ fun child hchild => ?_
    obtain ⟨entry, hentry, rfl⟩ := List.mem_map.mp hchild
    exact ih entry hentry

/-- The number of visits does not depend on the starting depth. -/
theorem length_visits (depth : Nat) (value : Json) : (visits depth value).length = value.nodes := by
  have hvalues := congrArg List.length (visits_values value depth 0)
  rwa [List.length_map, List.length_map] at hvalues

/-- The characters of all visits do not depend on the starting depth. -/
theorem characters_visits (depth : Nat) (value : Json) :
    ((visits depth value).map fun visit => visit.1.ownCharacters).sum = value.characters := by
  have hvalues := congrArg (fun values => (values.map ownCharacters).sum)
    (visits_values value depth 0)
  simp only [List.map_map] at hvalues
  exact hvalues

/-- The visits from any depth decide validity. -/
theorem allValid_visits (depth : Nat) (value : Json) :
    (∀ visit ∈ visits depth value, visit.1.OwnValid) ↔ value.AllValid := by
  have hshape : ∀ start, (∀ visit ∈ visits start value, visit.1.OwnValid) ↔
      ∀ v ∈ (visits start value).map Prod.fst, v.OwnValid := by
    intro start
    rw [List.forall_mem_map]
  rw [hshape, AllValid, hshape, visits_values value depth 0]

/-- A value counts itself and everything inside it. -/
theorem nodes_eq (value : Json) : value.nodes = 1 + (value.children.map nodes).sum := by
  rw [nodes, visits_eq, List.length_cons, List.length_flatMap, Nat.add_comm]
  simp only [length_visits]

/-- A value's characters are its own and those inside it. -/
theorem characters_eq (value : Json) :
    value.characters = value.ownCharacters + (value.children.map characters).sum := by
  rw [characters, visits_eq, List.map_cons, List.sum_cons, List.map_flatMap]
  simp only [List.flatMap_def, List.sum_flatten, List.map_map, Function.comp_def,
    characters_visits]

/-- A value fits when its depth and everything inside it do. -/
theorem fitsDepth_iff {limit depth : Nat} {value : Json} : value.FitsDepth limit depth ↔
    depth ≤ limit ∧ ∀ child ∈ value.children, child.FitsDepth limit (depth + 1) := by
  simp only [FitsDepth, visits_eq depth value, List.forall_mem_cons, List.mem_flatMap]
  exact and_congr_right fun _ => ⟨fun h child hchild visit hvisit => h visit ⟨child, hchild, hvisit⟩,
    fun h visit hvisit => hvisit.elim fun child hboth => h child hboth.1 visit hboth.2⟩

/-- A value may be written when it and everything inside it may. -/
theorem allValid_iff {value : Json} :
    value.AllValid ↔ value.OwnValid ∧ ∀ child ∈ value.children, child.AllValid := by
  rw [AllValid, visits_eq, List.forall_mem_cons]
  simp only [List.mem_flatMap, ← allValid_visits (0 + 1)]
  exact and_congr_right fun _ => ⟨fun h child hchild visit hvisit => h visit ⟨child, hchild, hvisit⟩,
    fun h visit hvisit => hvisit.elim fun child hboth => h child hboth.1 visit hboth.2⟩

/-- Every value is visited. -/
theorem nodes_pos (value : Json) : 0 < value.nodes := by
  rw [nodes_eq]
  omega

/-- A list holds at most as many items as values. -/
theorem length_le_nodes (values : List Json) : values.length ≤ (values.map nodes).sum := by
  induction values with
  | nil => simp
  | cons value values ih =>
    have hpos := nodes_pos value
    rw [List.length_cons, List.map_cons, List.sum_cons]
    omega

section Shapes

variable {limit depth : Nat}

/-- A string has nothing inside. -/
theorem children_str (text : PyStr) : (Json.str text).children = [] := rfl

/-- A string is one value. -/
@[simp] theorem nodes_str (text : PyStr) : (Json.str text).nodes = 1 := by
  simp [nodes_eq, children]

/-- A truth value is one value. -/
@[simp] theorem nodes_bool (value : Bool) : (Json.bool value).nodes = 1 := by
  simp [nodes_eq, children]

/-- A list counts itself and its items. -/
@[simp] theorem nodes_arr (items : List Json) :
    (Json.arr items).nodes = 1 + (items.map nodes).sum := by
  rw [nodes_eq, children]

/-- A dictionary counts itself and its values. -/
@[simp] theorem nodes_obj (entries : List (PyStr × Json)) :
    (Json.obj entries).nodes = 1 + (entries.map fun entry => entry.2.nodes).sum := by
  rw [nodes_eq, children, List.map_map]
  rfl

/-- The values of a dictionary are bounded by a bound for what is inside. -/
theorem nodes_obj_le {entries : List (PyStr × Json)} (inside : Nat)
    (hinside : (entries.map fun entry => entry.2.nodes).sum ≤ inside) :
    (Json.obj entries).nodes ≤ 1 + inside := by
  rw [nodes_obj]
  exact Nat.add_le_add_left hinside 1

/-- The characters of a string. -/
@[simp] theorem characters_str (text : PyStr) : (Json.str text).characters = text.length := by
  simp [characters_eq, children, ownCharacters]

/-- The characters of a list are those of its items. -/
@[simp] theorem characters_arr (items : List Json) :
    (Json.arr items).characters = (items.map characters).sum := by
  have hown : (Json.arr items).ownCharacters = 0 := rfl
  rw [characters_eq, children, hown, Nat.zero_add]

/-- The characters of a dictionary are those of its keys and values. -/
@[simp] theorem characters_obj (entries : List (PyStr × Json)) :
    (Json.obj entries).characters =
      (entries.map fun entry => entry.1.length).sum +
        (entries.map fun entry => entry.2.characters).sum := by
  rw [characters_eq, children, ownCharacters, List.map_map]
  rfl

/-- The characters of a dictionary are bounded by bounds for its keys and its values. -/
theorem characters_obj_le {entries : List (PyStr × Json)} (keys values : Nat)
    (hkeys : (entries.map fun entry => entry.1.length).sum ≤ keys)
    (hvalues : (entries.map fun entry => entry.2.characters).sum ≤ values) :
    (Json.obj entries).characters ≤ keys + values := by
  rw [characters_obj]
  exact Nat.add_le_add hkeys hvalues

/-- A string fits at any allowed depth. -/
@[simp] theorem fitsDepth_str {text : PyStr} :
    (Json.str text).FitsDepth limit depth ↔ depth ≤ limit := by
  rw [fitsDepth_iff, children_str]
  simp

/-- A list fits when its items fit one level deeper. -/
@[simp] theorem fitsDepth_arr {items : List Json} : (Json.arr items).FitsDepth limit depth ↔
    depth ≤ limit ∧ ∀ item ∈ items, item.FitsDepth limit (depth + 1) := by
  rw [fitsDepth_iff, children]

/-- A dictionary fits when its values fit one level deeper. -/
@[simp] theorem fitsDepth_obj {entries : List (PyStr × Json)} :
    (Json.obj entries).FitsDepth limit depth ↔
      depth ≤ limit ∧ ∀ entry ∈ entries, entry.2.FitsDepth limit (depth + 1) := by
  rw [fitsDepth_iff, children, List.forall_mem_map]

/-- A string may be written when it can be encoded. -/
@[simp] theorem allValid_str {text : PyStr} :
    (Json.str text).AllValid ↔ utf8Encodable text = true := by
  rw [allValid_iff, children_str, OwnValid]
  simp

/-- A list may be written when its items may. -/
@[simp] theorem allValid_arr {items : List Json} :
    (Json.arr items).AllValid ↔ ∀ item ∈ items, item.AllValid := by
  rw [allValid_iff, children]
  simp [OwnValid]

/-- A dictionary may be written when its keys and values may. -/
@[simp] theorem allValid_obj {entries : List (PyStr × Json)} : (Json.obj entries).AllValid ↔
    ∀ entry ∈ entries, utf8Encodable entry.1 = true ∧ entry.2.AllValid := by
  rw [allValid_iff, children, OwnValid, List.forall_mem_map]
  exact ⟨fun h entry hentry => ⟨h.1 entry hentry, h.2 entry hentry⟩,
    fun h => ⟨fun entry hentry => (h entry hentry).1, fun entry hentry => (h entry hentry).2⟩⟩

/-- A measure of mapped values is bounded by the number of values. -/
theorem sum_map_le {α : Type} {values : List α} {measure : α → Nat} {bound : Nat}
    (h : ∀ value ∈ values, measure value ≤ bound) :
    (values.map measure).sum ≤ values.length * bound := by
  induction values with
  | nil => simp
  | cons value values ih =>
    have hhead := h value (by simp)
    have htail := ih fun v hv => h v (by simp [hv])
    rw [List.map_cons, List.sum_cons, List.length_cons, Nat.add_mul, Nat.one_mul]
    omega

end Shapes

end Json

namespace JsonText

/-- The limits on a document. -/
structure JsonLimits where
  maxDepth : Nat
  maxNodes : Nat
  maxCharacters : Nat
  deriving DecidableEq

/-- `MAX_JSON_DEPTH`, `MAX_JSON_NODES` and `MAX_JSON_CHARACTERS`. -/
def JsonLimits.standard : JsonLimits := ⟨256, 10000, 4000000⟩

/-- Why a document is refused. -/
inductive JsonFault where
  /-- There are more values than the limit. -/
  | nodes (limit : Nat)
  /-- A value lies deeper than the limit. -/
  | depth (limit : Nat)
  /-- There are more characters than the limit. -/
  | characters
  /-- A string holds a surrogate. -/
  | unicode
  /-- A key holds a surrogate. -/
  | unicodeKeys
  /-- An integer has too many bits. -/
  | integer
  deriving DecidableEq

/-- The message of a refusal. -/
def JsonFault.message (fieldName : PyStr) : JsonFault → PyStr
  | .nodes limit => fieldName ++ py " exceeds the " ++ natDigits limit ++ py "-node limit"
  | .depth limit => fieldName ++ py " exceeds the " ++ natDigits limit ++ py "-level limit"
  | .characters => fieldName ++ py " exceeds the character limit"
  | .unicode => fieldName ++ py " cannot contain invalid Unicode"
  | .unicodeKeys => fieldName ++ py " cannot contain invalid Unicode keys"
  | .integer => fieldName ++ py " contains an oversized integer"

/-- The key loop of `validate_json`: the character count after the keys. -/
def countKeys (limits : JsonLimits) : Nat → List PyStr → Except JsonFault Nat
  | characters, [] => .ok characters
  | characters, key :: keys => do
    require (characters + key.length ≤ limits.maxCharacters) .characters
    require (utf8Encodable key = true) .unicodeKeys
    countKeys limits (characters + key.length) keys

/-- The checks of `validate_json` on one value: the character count after it. -/
def validateNode (limits : JsonLimits) (remaining characters : Nat) :
    Json → Except JsonFault Nat
  | .str text => do
    require (characters + text.length ≤ limits.maxCharacters) .characters
    require (utf8Encodable text = true) .unicode
    pure (characters + text.length)
  | .int value => do
    require (Json.bitLength value ≤ Json.maxIntegerBits) .integer
    pure characters
  | .arr items => do
    require (items.length ≤ remaining) (.nodes limits.maxNodes)
    pure characters
  | .obj entries => do
    require (entries.length ≤ remaining) (.nodes limits.maxNodes)
    countKeys limits characters (entries.map Prod.fst)
  | .null | .bool _ | .float _ => pure characters

/-- The loop of `validate_json`. The first argument counts the values that are still allowed, the
second the characters met. A value holds no reference to itself, so there is nothing to leave. -/
def validateLoop (limits : JsonLimits) : Nat → Nat → List (Json × Nat) → Except JsonFault Unit
  | _, _, [] => .ok ()
  | 0, _, _ :: _ => .error (.nodes limits.maxNodes)
  | remaining + 1, characters, (current, depth) :: stack => do
    require (depth ≤ limits.maxDepth) (.depth limits.maxDepth)
    let characters ← validateNode limits remaining characters current
    validateLoop limits remaining characters
      (current.children.map (fun child => (child, depth + 1)) ++ stack)

/-- `validate_json`. -/
def validateJson (limits : JsonLimits) (value : Json) : Except JsonFault Unit :=
  validateLoop limits limits.maxNodes 0 [(value, 0)]

/-- A document within the limits. -/
structure Within (limits : JsonLimits) (value : Json) : Prop where
  /-- There are not too many values. -/
  nodes : value.nodes ≤ limits.maxNodes
  /-- Nothing lies too deep. -/
  depth : value.FitsDepth limits.maxDepth 0
  /-- There are not too many characters. -/
  characters : value.characters ≤ limits.maxCharacters
  /-- Everything may be written. -/
  valid : value.AllValid

section Validation

variable {limits : JsonLimits}

/-- The key loop counts the characters of valid keys. -/
theorem countKeys_ok {characters total : Nat} {keys : List PyStr} :
    countKeys limits characters keys = .ok total ↔
      (∀ key ∈ keys, utf8Encodable key = true) ∧ total = characters + (keys.map List.length).sum ∧
        (characters ≤ limits.maxCharacters → total ≤ limits.maxCharacters) ∧
        (keys ≠ [] → total ≤ limits.maxCharacters) := by
  induction keys generalizing characters with
  | nil =>
    simp only [countKeys, Except.ok.injEq, List.map_nil, List.sum_nil, Nat.add_zero]
    constructor
    · rintro rfl
      simp
    · rintro ⟨-, rfl, -⟩
      rfl
  | cons key keys ih =>
    simp only [countKeys, Checks.require_bind_ok, ih, List.map_cons, List.sum_cons,
      List.forall_mem_cons]
    constructor
    · rintro ⟨hfits, hkey, hkeys, htotal, hbound, -⟩
      exact ⟨⟨hkey, hkeys⟩, by omega, fun _ => hbound hfits, fun _ => hbound hfits⟩
    · rintro ⟨⟨hkey, hkeys⟩, htotal, -, hbound⟩
      have hall := hbound (by simp)
      exact ⟨by omega, hkey, hkeys, by omega, fun _ => hall, fun _ => hall⟩

/-- The checks on one value. -/
theorem validateNode_ok {remaining characters total : Nat} {current : Json}
    (hcharacters : characters ≤ limits.maxCharacters) :
    validateNode limits remaining characters current = .ok total ↔
      current.children.length ≤ remaining ∧ current.OwnValid ∧
        total = characters + current.ownCharacters ∧ total ≤ limits.maxCharacters := by
  have hkeep : characters = total ↔ total = characters ∧ total ≤ limits.maxCharacters :=
    ⟨fun h => ⟨h.symm, h ▸ hcharacters⟩, fun h => h.1.symm⟩
  cases current with
  | str text =>
    simp only [validateNode, Checks.require_bind_ok, Checks.pure_ok, Json.children,
      List.length_nil, Nat.zero_le, Json.OwnValid, Json.ownCharacters, true_and]
    constructor
    · rintro ⟨hfits, hvalid, rfl⟩
      exact ⟨hvalid, rfl, hfits⟩
    · rintro ⟨hvalid, rfl, hfits⟩
      exact ⟨hfits, hvalid, rfl⟩
  | obj entries =>
    simp only [validateNode, Checks.require_bind_ok, countKeys_ok, List.forall_mem_map,
      Json.children, List.length_map, Json.OwnValid, Json.ownCharacters, List.map_map,
      Function.comp_def]
    constructor
    · rintro ⟨hlength, hvalid, htotal, hbound, -⟩
      exact ⟨hlength, hvalid, htotal, hbound hcharacters⟩
    · rintro ⟨hlength, hvalid, htotal, hbound⟩
      exact ⟨hlength, hvalid, htotal, fun _ => hbound, fun _ => hbound⟩
  | arr items =>
    simp only [validateNode, Checks.require_bind_ok, Checks.pure_ok, Json.children, Json.OwnValid,
      Json.ownCharacters, Nat.add_zero, true_and, hkeep]
  | int value =>
    simp only [validateNode, Checks.require_bind_ok, Checks.pure_ok, Json.children, Json.OwnValid,
      Json.ownCharacters, Nat.add_zero, List.length_nil, Nat.zero_le, true_and, hkeep]
  | null | bool _ | float _ =>
    simp [validateNode, Json.children, Json.OwnValid, Json.ownCharacters, hkeep]

/-- Everything the loop has still to visit. -/
def pending (stack : List (Json × Nat)) : List (Json × Nat) :=
  stack.flatMap fun item => item.1.visits item.2

/-- The next pending visit is the top of the stack. -/
theorem pending_cons (current : Json) (depth : Nat) (stack : List (Json × Nat)) :
    pending ((current, depth) :: stack) = (current, depth) ::
      pending (current.children.map (fun child => (child, depth + 1)) ++ stack) := by
  rw [pending, pending, List.flatMap_cons, List.flatMap_append, List.flatMap_map,
    Json.visits_eq, List.cons_append]

/-- Every stacked value is pending. -/
theorem length_le_pending (stack : List (Json × Nat)) : stack.length ≤ (pending stack).length := by
  induction stack with
  | nil => simp
  | cons item stack ih =>
    have hpos := Json.nodes_pos item.1
    rw [pending, List.flatMap_cons, List.length_append, Json.length_visits, List.length_cons]
    rw [pending] at ih
    omega

/-- The loop passes exactly when the pending visits fit. -/
theorem validateLoop_ok {remaining characters : Nat} {stack : List (Json × Nat)}
    (hcharacters : characters ≤ limits.maxCharacters) :
    validateLoop limits remaining characters stack = .ok () ↔
      (pending stack).length ≤ remaining ∧
        (∀ visit ∈ pending stack, visit.2 ≤ limits.maxDepth ∧ visit.1.OwnValid) ∧
        characters + ((pending stack).map fun visit => visit.1.ownCharacters).sum ≤
          limits.maxCharacters := by
  induction remaining generalizing characters stack with
  | zero =>
    cases stack with
    | nil => simp [validateLoop, pending, hcharacters]
    | cons item stack =>
      have hlength := length_le_pending (item :: stack)
      rw [List.length_cons] at hlength
      simp only [validateLoop, reduceCtorEq, false_iff, not_and]
      intro hnone
      omega
  | succ remaining ih =>
    cases stack with
    | nil => simp [validateLoop, pending, hcharacters]
    | cons item stack =>
      obtain ⟨current, depth⟩ := item
      rw [validateLoop, Checks.require_bind_ok, Checks.bind_ok]
      simp only [validateNode_ok hcharacters, pending_cons current depth stack, List.length_cons,
        List.forall_mem_cons, List.map_cons, List.sum_cons]
      have hchildren := length_le_pending
        (current.children.map (fun child => (child, depth + 1)) ++ stack)
      rw [List.length_append, List.length_map] at hchildren
      constructor
      · rintro ⟨hdepth, total, ⟨-, hvalid, htotal, hbound⟩, hrest⟩
        obtain ⟨hlength, hvisits, hsum⟩ := (ih hbound).mp hrest
        exact ⟨by omega, ⟨⟨hdepth, hvalid⟩, hvisits⟩, by omega⟩
      · rintro ⟨hlength, ⟨⟨hdepth, hvalid⟩, hvisits⟩, hsum⟩
        have hbound : characters + current.ownCharacters ≤ limits.maxCharacters := by omega
        exact ⟨hdepth, _, ⟨by omega, hvalid, rfl, hbound⟩,
          (ih hbound).mpr ⟨by omega, hvisits, by omega⟩⟩

/-- Validation accepts exactly the documents within the limits. -/
theorem validateJson_ok {value : Json} :
    validateJson limits value = .ok () ↔ Within limits value := by
  have hpending : pending [(value, 0)] = value.visits 0 := by simp [pending]
  rw [validateJson, validateLoop_ok (Nat.zero_le _), hpending, Nat.zero_add]
  constructor
  · rintro ⟨hnodes, hvisits, hcharacters⟩
    exact ⟨hnodes, fun visit hvisit => (hvisits visit hvisit).1, hcharacters,
      fun visit hvisit => (hvisits visit hvisit).2⟩
  · intro h
    exact ⟨h.nodes, fun visit hvisit => ⟨h.depth visit hvisit, h.valid visit hvisit⟩,
      h.characters⟩

end Validation

/-- An entry of the writer's stack. -/
inductive Fragment where
  /-- Text that is already written. -/
  | token (text : PyStr)
  /-- A value to write. -/
  | json (value : Json)

/-- The fragments of a container's parts, with commas between them. -/
def separate : List (List Fragment) → List Fragment
  | [] => []
  | [part] => part
  | part :: next :: parts => part ++ .token [comma] :: separate (next :: parts)

/-- The fragments of one member. -/
def memberFragments (entry : PyStr × Json) : List Fragment :=
  [.token (encodeString entry.1), .token [colon], .json entry.2]

/-- The loop of `canonicalize_json` over its stack, with enough fuel. -/
def writeLoop : Nat → List Fragment → PyStr
  | 0, _ | _, [] => []
  | fuel + 1, .token text :: stack => text ++ writeLoop fuel stack
  | fuel + 1, .json (.arr items) :: stack =>
    writeLoop fuel (.token [lbracket] ::
      (separate (items.map fun item => [.json item]) ++ .token [rbracket] :: stack))
  | fuel + 1, .json (.obj entries) :: stack =>
    writeLoop fuel (.token [lbrace] ::
      (separate ((sortByKey entries).map memberFragments) ++ .token [rbrace] :: stack))
  | fuel + 1, .json scalar :: stack => encode scalar ++ writeLoop fuel stack

/-- `canonicalize_json`, after its validation. Every value is popped once, with at most five tokens. -/
def canonicalText (value : Json) : PyStr :=
  writeLoop (6 * value.nodes) [.json value]

/-- `canonicalize_json`. -/
def canonicalizeJson (limits : JsonLimits) (value : Json) : Except JsonFault PyStr := do
  validateJson limits value
  pure (canonicalText value)

/-- `copy_json`: a validated value, rebuilt with the same structure. -/
def copyJson (value : Json) : Except JsonFault Json := do
  validateJson .standard value
  pure value

section Writer

/-- The text a fragment stands for. -/
def Fragment.text : Fragment → PyStr
  | .token text => text
  | .json value => encode value

/-- A bound on the pops that a fragment costs. -/
def Fragment.cost : Fragment → Nat
  | .token _ => 1
  | .json value => 6 * value.nodes - 3

/-- Separated parts read as their texts joined by commas. -/
theorem text_separate (parts : List (List Fragment)) :
    (separate parts).flatMap Fragment.text =
      joinCommas (parts.map fun part => part.flatMap Fragment.text) := by
  induction parts with
  | nil => rfl
  | cons part parts ih =>
    cases parts with
    | nil => simp [separate, joinCommas]
    | cons next parts =>
      rw [separate, List.flatMap_append, List.flatMap_cons, ih]
      simp [Fragment.text, joinCommas]

/-- The fragments of a member read as the member's text. -/
theorem text_memberFragments (entry : PyStr × Json) :
    (memberFragments entry).flatMap Fragment.text = entryText entry := by
  simp [memberFragments, Fragment.text, entryText, memberText]

/-- Separating parts costs a comma for each. -/
theorem cost_separate (parts : List (List Fragment)) :
    ((separate parts).map Fragment.cost).sum ≤
      (parts.map fun part => (part.map Fragment.cost).sum + 1).sum := by
  induction parts with
  | nil => simp [separate]
  | cons part parts ih =>
    cases parts with
    | nil => simp [separate]
    | cons next parts =>
      simp only [separate, List.map_append, List.map_cons, List.sum_append, List.sum_cons,
        Fragment.cost] at ih ⊢
      omega

/-- The parts of a container cost less than six pops a value. -/
theorem cost_parts (values : List Json) {extra : Nat} (hextra : extra ≤ 3) :
    (values.map fun value => 6 * value.nodes - 3 + extra).sum ≤ 6 * (values.map Json.nodes).sum := by
  induction values with
  | nil => simp
  | cons value values ih =>
    have hpos := Json.nodes_pos value
    simp only [List.map_cons, List.sum_cons]
    omega

/-- With enough fuel the loop writes the text of its stack. -/
theorem writeLoop_eq {fuel : Nat} {stack : List Fragment}
    (hfuel : (stack.map Fragment.cost).sum ≤ fuel) :
    writeLoop fuel stack = stack.flatMap Fragment.text := by
  induction fuel generalizing stack with
  | zero =>
    cases stack with
    | nil => rfl
    | cons fragment stack =>
      have hpos : 0 < fragment.cost := by
        cases fragment with
        | token _ => exact Nat.one_pos
        | json value =>
          have hnodes := Json.nodes_pos value
          simp only [Fragment.cost]
          omega
      rw [List.map_cons, List.sum_cons] at hfuel
      omega
  | succ fuel ih =>
    cases stack with
    | nil => rfl
    | cons fragment stack =>
      rw [List.map_cons, List.sum_cons] at hfuel
      cases fragment with
      | token text =>
        rw [Fragment.cost] at hfuel
        rw [writeLoop, ih (by omega), List.flatMap_cons, Fragment.text]
      | json value =>
        rw [Fragment.cost, Json.nodes_eq] at hfuel
        cases value with
        | arr items =>
          have hparts := cost_separate (items.map fun item => [Fragment.json item])
          have hvalues := cost_parts items (show 1 ≤ 3 by omega)
          simp only [List.map_map, Function.comp_def, List.map_cons, List.map_nil, List.sum_cons,
            List.sum_nil, Nat.add_zero, Fragment.cost] at hparts
          rw [Json.children] at hfuel
          rw [writeLoop, ih (by
            simp only [List.map_cons, List.map_append, List.sum_cons, List.sum_append,
              Fragment.cost]
            omega)]
          simp [Fragment.text, text_separate, encode, encodeItems_eq_map, Function.comp_def]
        | obj entries =>
          have hparts := cost_separate ((sortByKey entries).map memberFragments)
          have hvalues := cost_parts ((sortByKey entries).map Prod.snd) (show 3 ≤ 3 by omega)
          have hperm := (((sortByKey_perm entries).map Prod.snd).map Json.nodes).sum_nat
          simp only [memberFragments, List.map_map, Function.comp_def, List.map_cons,
            List.map_nil, List.sum_cons, List.sum_nil, Nat.add_zero, Fragment.cost] at hparts
          simp only [Json.children, List.map_map, Function.comp_def] at hfuel hvalues hperm
          have hsum : ((sortByKey entries).map fun entry =>
              1 + (1 + (6 * entry.2.nodes - 3)) + 1).sum =
              ((sortByKey entries).map fun entry => 6 * entry.2.nodes - 3 + 3).sum := by
            congr 1
            refine List.map_congr_left fun entry _ => ?_
            omega
          rw [writeLoop, ih (by
            simp only [List.map_cons, List.map_append, List.sum_cons, List.sum_append,
              Fragment.cost]
            omega)]
          simp [Fragment.text, text_separate, encode_obj, text_memberFragments,
            Function.comp_def]
        | null | bool _ | int _ | float _ | str _ =>
          simp only [Json.children, List.map_nil, List.sum_nil] at hfuel
          rw [writeLoop, ih (by omega), List.flatMap_cons, Fragment.text] <;> simp

/-- The writer's text is the text of the recursive encoder. -/
theorem canonicalText_eq (value : Json) : canonicalText value = encode value := by
  have hcost : ([Fragment.json value].map Fragment.cost).sum ≤ 6 * value.nodes := by
    simp only [List.map_cons, List.map_nil, List.sum_cons, List.sum_nil, Fragment.cost]
    omega
  rw [canonicalText, writeLoop_eq hcost]
  simp [Fragment.text]

/-- Canonical text exists exactly for documents within the limits. -/
theorem canonicalizeJson_ok {limits : JsonLimits} {value : Json} {text : PyStr} :
    canonicalizeJson limits value = .ok text ↔ Within limits value ∧ encode value = text := by
  rw [canonicalizeJson, Checks.unit_bind_ok, validateJson_ok, Checks.pure_ok, canonicalText_eq]

/-- A copy exists exactly for values within the limits, and is the value. -/
theorem copyJson_ok {value copy : Json} :
    copyJson value = .ok copy ↔ Within .standard value ∧ value = copy := by
  rw [copyJson, Checks.unit_bind_ok, validateJson_ok, Checks.pure_ok]

end Writer

end JsonText
end AyyoHumanoid
