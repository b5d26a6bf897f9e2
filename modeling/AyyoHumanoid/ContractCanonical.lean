import AyyoHumanoid.ArtifactText
import Mathlib.Algebra.Order.BigOperators.Group.List

/-!
# Bounded JSON and texts of the contract packages

The skill manager and the runtime bridge accept JSON data, texts, identifiers
and semantic versions by the same checks and name a contract by the digest of
its canonical document. Each package raises its own exceptions, so the checks
take the exception as an argument. The traversal of a document is characterised
by what it passes.
-/

namespace AyyoHumanoid
namespace Contracts

open PyText JsonText

section Limits

/-- `MAX_JSON_DEPTH`, `MAX_RUNTIME_JSON_DEPTH`. -/
def maxJsonDepth : Nat := 32

/-- `MAX_JSON_NODES`, `MAX_RUNTIME_JSON_NODES`. -/
def maxJsonNodes : Nat := 4096

/-- `MAX_JSON_COLLECTION_SIZE`, `MAX_RUNTIME_JSON_COLLECTION_SIZE`. -/
def maxJsonCollectionSize : Nat := 256

/-- `MAX_JSON_CHARACTERS`, `MAX_RUNTIME_JSON_CHARACTERS`. -/
def maxJsonCharacters : Nat := 1000000

/-- `MAX_JSON_INTEGER_BITS`, `MAX_RUNTIME_JSON_INTEGER_BITS`. -/
def maxJsonIntegerBits : Nat := 1024

end Limits

section Traversal

variable {ε : Type} (error : PyStr → ε) (fieldName : PyStr)

/-- The key loop of `validate_json`: the character count after the keys. -/
def countKeys : Nat → List PyStr → Except ε Nat
  | characters, [] => .ok characters
  | characters, key :: keys => do
    require (characters + key.length ≤ maxJsonCharacters)
      (error (fieldName ++ py " exceeds the JSON character limit"))
    require (utf8Encodable key = true)
      (error (fieldName ++ py " contains invalid Unicode keys"))
    countKeys (characters + key.length) keys

/-- The size check of a collection. -/
def checkCollection (size : Nat) : Except ε Unit :=
  require (size ≤ maxJsonCollectionSize)
    (error (fieldName ++ py " exceeds the collection-size limit"))

/-- The checks of `validate_json` on one value: the character count after it. -/
def validateValue (characters : Nat) : Json → Except ε Nat
  | .str text => do
    require (characters + text.length ≤ maxJsonCharacters)
      (error (fieldName ++ py " exceeds the JSON character limit"))
    require (utf8Encodable text = true) (error (fieldName ++ py " contains invalid Unicode"))
    pure (characters + text.length)
  | .int value => do
    require (Json.bitLength value ≤ maxJsonIntegerBits)
      (error (fieldName ++ py " contains an oversized integer"))
    pure characters
  | .arr items => do
    checkCollection error fieldName items.length
    pure characters
  | .obj entries => do
    checkCollection error fieldName entries.length
    countKeys error fieldName characters (entries.map Prod.fst)
  | .null | .bool _ | .float _ => pure characters

/-- The loop of `validate_json`. The first argument counts the values that are still allowed, the
second the characters met. A value holds no reference to itself, so there is nothing to leave. -/
def validateLoop : Nat → Nat → List (Json × Nat) → Except ε Unit
  | _, _, [] => .ok ()
  | 0, _, _ :: _ => .error (error (fieldName ++ py " exceeds the JSON node limit"))
  | remaining + 1, characters, (current, depth) :: stack => do
    require (depth ≤ maxJsonDepth) (error (fieldName ++ py " exceeds the JSON depth limit"))
    let characters ← validateValue error fieldName characters current
    validateLoop remaining characters
      (current.children.map (fun child => (child, depth + 1)) ++ stack)

/-- `validate_json`. -/
def validateJson (value : Json) : Except ε Unit :=
  validateLoop error fieldName maxJsonNodes 0 [(value, 0)]

/-- `copy_json`: a validated value, rebuilt with the same structure. -/
def copyJson (value : Json) : Except ε Json := do
  validateJson error fieldName value
  pure value

/-- `canonicalize_json`. -/
def canonicalizeJson (value : Json) : Except ε PyStr := do
  validateJson error fieldName value
  pure (canonicalText value)

end Traversal

/-- A value whose own text, number and size are within the limits. -/
def OwnAllowed : Json → Prop
  | .str text => utf8Encodable text = true
  | .int value => Json.bitLength value ≤ maxJsonIntegerBits
  | .arr items => items.length ≤ maxJsonCollectionSize
  | .obj entries => entries.length ≤ maxJsonCollectionSize ∧
      ∀ entry ∈ entries, utf8Encodable entry.1 = true
  | _ => True

/-- A value within the limits. -/
structure Allowed (value : Json) : Prop where
  /-- There are not too many values. -/
  nodes : value.nodes ≤ maxJsonNodes
  /-- Nothing lies too deep. -/
  depth : value.FitsDepth maxJsonDepth 0
  /-- There are not too many characters. -/
  characters : value.characters ≤ maxJsonCharacters
  /-- Every value inside is within its own limits. -/
  own : ∀ visit ∈ value.visits 0, OwnAllowed visit.1

section Acceptance

variable {ε : Type} {error : PyStr → ε} {fieldName : PyStr}

/-- The key loop counts the characters of valid keys. -/
theorem countKeys_ok {characters total : Nat} {keys : List PyStr}
    (hcharacters : characters ≤ maxJsonCharacters) :
    countKeys error fieldName characters keys = .ok total ↔
      (∀ key ∈ keys, utf8Encodable key = true) ∧ total = characters + (keys.map List.length).sum ∧
        total ≤ maxJsonCharacters := by
  induction keys generalizing characters with
  | nil =>
    simp only [countKeys, Except.ok.injEq, List.map_nil, List.sum_nil, Nat.add_zero]
    constructor
    · intro h
      simp [← h, hcharacters]
    · intro h
      exact h.2.1.symm
  | cons key keys ih =>
    simp only [countKeys, Checks.require_bind_ok, List.map_cons, List.sum_cons,
      List.forall_mem_cons]
    constructor
    · rintro ⟨hfits, hkey, hrest⟩
      obtain ⟨hkeys, htotal, hbound⟩ := (ih hfits).mp hrest
      exact ⟨⟨hkey, hkeys⟩, by omega, hbound⟩
    · rintro ⟨⟨hkey, hkeys⟩, htotal, hbound⟩
      have hfits : characters + key.length ≤ maxJsonCharacters := by omega
      exact ⟨hfits, hkey, (ih hfits).mpr ⟨hkeys, by omega, hbound⟩⟩

/-- The checks on one value. -/
theorem validateValue_ok {characters total : Nat} {current : Json}
    (hcharacters : characters ≤ maxJsonCharacters) :
    validateValue error fieldName characters current = .ok total ↔
      OwnAllowed current ∧ total = characters + current.ownCharacters ∧
        total ≤ maxJsonCharacters := by
  have hkeep : characters = total ↔ total = characters ∧ total ≤ maxJsonCharacters := by omega
  cases current with
  | str text =>
    simp only [validateValue, Checks.require_bind_ok, Checks.pure_ok, OwnAllowed,
      Json.ownCharacters]
    constructor
    · rintro ⟨hfits, hvalid, htotal⟩
      exact ⟨hvalid, htotal.symm, htotal ▸ hfits⟩
    · rintro ⟨hvalid, htotal, hfits⟩
      exact ⟨htotal ▸ hfits, hvalid, htotal.symm⟩
  | obj entries =>
    simp only [validateValue, checkCollection, Checks.require_bind_ok, countKeys_ok hcharacters,
      List.forall_mem_map, List.map_map, Function.comp_def, OwnAllowed, Json.ownCharacters,
      and_assoc]
  | arr items =>
    simp only [validateValue, checkCollection, Checks.require_bind_ok, Checks.pure_ok, OwnAllowed,
      Json.ownCharacters, Nat.add_zero, hkeep]
  | int value =>
    simp only [validateValue, Checks.require_bind_ok, Checks.pure_ok, OwnAllowed,
      Json.ownCharacters, Nat.add_zero, hkeep]
  | null | bool _ | float _ =>
    simp [validateValue, OwnAllowed, Json.ownCharacters, hkeep]

/-- The loop passes exactly when the pending visits fit. -/
theorem validateLoop_ok {remaining characters : Nat} {stack : List (Json × Nat)}
    (hcharacters : characters ≤ maxJsonCharacters) :
    validateLoop error fieldName remaining characters stack = .ok () ↔
      (pending stack).length ≤ remaining ∧
        (∀ visit ∈ pending stack, visit.2 ≤ maxJsonDepth ∧ OwnAllowed visit.1) ∧
        characters + ((pending stack).map fun visit => visit.1.ownCharacters).sum ≤
          maxJsonCharacters := by
  induction remaining generalizing characters stack with
  | zero =>
    cases stack with
    | nil => simp [validateLoop, pending, hcharacters]
    | cons item stack =>
      have hlength := length_le_pending (item :: stack)
      rw [List.length_cons] at hlength
      simp only [validateLoop, reduceCtorEq, false_iff, not_and]
      intro hnone
      omega
  | succ remaining ih =>
    cases stack with
    | nil => simp [validateLoop, pending, hcharacters]
    | cons item stack =>
      obtain ⟨current, depth⟩ := item
      rw [validateLoop, Checks.require_bind_ok, Checks.bind_ok]
      simp only [validateValue_ok hcharacters, pending_cons current depth stack, List.length_cons,
        List.forall_mem_cons, List.map_cons, List.sum_cons]
      constructor
      · rintro ⟨hdepth, total, ⟨hown, htotal, hbound⟩, hrest⟩
        obtain ⟨hlength, hvisits, hsum⟩ := (ih hbound).mp hrest
        exact ⟨by omega, ⟨⟨hdepth, hown⟩, hvisits⟩, by omega⟩
      · rintro ⟨hlength, ⟨⟨hdepth, hown⟩, hvisits⟩, hsum⟩
        have hbound : characters + current.ownCharacters ≤ maxJsonCharacters := by omega
        exact ⟨hdepth, _, ⟨hown, rfl, hbound⟩,
          (ih hbound).mpr ⟨by omega, hvisits, by omega⟩⟩

/-- Validation accepts exactly the values within the limits. -/
theorem validateJson_ok {value : Json} {u : Unit} :
    validateJson error fieldName value = .ok u ↔ Allowed value := by
  have hpending : pending [(value, 0)] = value.visits 0 := by simp [pending]
  rw [validateJson, validateLoop_ok (Nat.zero_le _), hpending, Nat.zero_add]
  constructor
  · rintro ⟨hnodes, hvisits, hcharacters⟩
    exact ⟨hnodes, fun visit hvisit => (hvisits visit hvisit).1, hcharacters,
      fun visit hvisit => (hvisits visit hvisit).2⟩
  · intro h
    exact ⟨h.nodes, fun visit hvisit => ⟨h.depth visit hvisit, h.own visit hvisit⟩,
      h.characters⟩

/-- A copy exists exactly for values within the limits, and is the value. -/
theorem copyJson_ok {value copy : Json} :
    copyJson error fieldName value = .ok copy ↔ Allowed value ∧ value = copy := by
  rw [copyJson, Checks.unit_bind_ok, validateJson_ok, Checks.pure_ok]

/-- Canonical text exists exactly for values within the limits. -/
theorem canonicalizeJson_ok {value : Json} {text : PyStr} :
    canonicalizeJson error fieldName value = .ok text ↔ Allowed value ∧ encode value = text := by
  rw [canonicalizeJson, Checks.unit_bind_ok, validateJson_ok, Checks.pure_ok, canonicalText_eq]

/-- What fits from some depth on fits from a smaller depth on. -/
theorem fitsDepth_mono {limit : Nat} (value : Json) : ∀ {depth less : Nat}, less ≤ depth →
    value.FitsDepth limit depth → value.FitsDepth limit less := by
  have hstep : ∀ v : Json, (∀ child ∈ v.children, ∀ {depth less : Nat}, less ≤ depth →
      child.FitsDepth limit depth → child.FitsDepth limit less) → ∀ {depth less : Nat},
      less ≤ depth → v.FitsDepth limit depth → v.FitsDepth limit less := by
    intro v hchildren depth less hless h
    rw [Json.fitsDepth_iff] at h ⊢
    exact ⟨hless.trans h.1, fun child hchild =>
      hchildren child hchild (Nat.succ_le_succ hless) (h.2 child hchild)⟩
  induction value using Json.induct with
  | null | bool _ | int _ | float _ | str _ => exact hstep _ (by simp [Json.children])
  | arr items ih =>
    intro depth less
    exact hstep (.arr items) ih
  | obj entries ih =>
    intro depth less
    refine hstep (.obj entries) fun child hchild => ?_
    obtain ⟨entry, hentry, rfl⟩ := List.mem_map.mp hchild
    exact ih entry hentry

/-- A part of a value within the limits is within the limits. -/
theorem Allowed.child {value child : Json} (h : Allowed value) (hchild : child ∈ value.children) :
    Allowed child where
  nodes := by
    have hsum := List.le_sum_of_mem (List.mem_map_of_mem (f := Json.nodes) hchild)
    have hnodes := h.nodes
    rw [Json.nodes_eq] at hnodes
    omega
  depth := fitsDepth_mono child (Nat.zero_le 1) ((Json.fitsDepth_iff.mp h.depth).2 child hchild)
  characters := by
    have hsum := List.le_sum_of_mem (List.mem_map_of_mem (f := Json.characters) hchild)
    have hcharacters := h.characters
    rw [Json.characters_eq] at hcharacters
    omega
  own := by
    intro visit hvisit
    have hmem : visit.1 ∈ (child.visits 1).map Prod.fst := by
      rw [Json.visits_values child 1 0]
      exact List.mem_map_of_mem hvisit
    obtain ⟨deeper, hdeeper, hsame⟩ := List.mem_map.mp hmem
    rw [← hsame]
    refine h.own deeper ?_
    rw [Json.visits_eq]
    exact List.mem_cons_of_mem _ (List.mem_flatMap.mpr ⟨child, hchild, hdeeper⟩)

/-- A value that may stand inside an object at the top. -/
structure Inside (value : Json) : Prop where
  /-- Nothing lies too deep. -/
  depth : value.FitsDepth maxJsonDepth 1
  /-- Every value inside is within its own limits. -/
  own : ∀ visit ∈ value.visits 1, OwnAllowed visit.1

/-- A text that can be encoded may stand inside an object. -/
theorem Inside.str {text : PyStr} (h : utf8Encodable text = true) : Inside (.str text) where
  depth := Json.fitsDepth_str.mpr (by decide)
  own := by
    rw [Json.visits_eq, Json.children_str, List.forall_mem_cons]
    exact ⟨h, fun visit hvisit => absurd hvisit List.not_mem_nil⟩

/-- An object within the limits counts few values and characters, and its parts are within theirs. -/
theorem allowed_obj {entries : List (PyStr × Json)} : Allowed (.obj entries) ↔
    (Json.obj entries).nodes ≤ maxJsonNodes ∧ (Json.obj entries).characters ≤ maxJsonCharacters ∧
      entries.length ≤ maxJsonCollectionSize ∧
      (∀ key ∈ entries.map Prod.fst, utf8Encodable key = true) ∧
      ∀ value ∈ entries.map Prod.snd, Inside value := by
  constructor
  · intro h
    have hown := h.own
    have hdepth := Json.fitsDepth_obj.mp h.depth
    rw [Json.visits_eq, List.forall_mem_cons] at hown
    refine ⟨h.nodes, h.characters, hown.1.1, ?_, ?_⟩
    · rw [List.forall_mem_map]
      exact hown.1.2
    · intro value hvalue
      obtain ⟨entry, hentry, rfl⟩ := List.mem_map.mp hvalue
      exact ⟨hdepth.2 entry hentry, fun visit hvisit =>
        hown.2 visit (List.mem_flatMap.mpr ⟨entry.2, hvalue, hvisit⟩)⟩
  · rintro ⟨hnodes, hcharacters, hlength, hkeys, hvalues⟩
    rw [List.forall_mem_map] at hkeys
    refine ⟨hnodes, ?_, hcharacters, ?_⟩
    · rw [Json.fitsDepth_obj]
      exact ⟨by decide, fun entry hentry => (hvalues _ (List.mem_map_of_mem hentry)).depth⟩
    · rw [Json.visits_eq, List.forall_mem_cons]
      refine ⟨⟨hlength, hkeys⟩, fun visit hvisit => ?_⟩
      obtain ⟨value, hvalue, hinside⟩ := List.mem_flatMap.mp hvisit
      exact (hvalues value hvalue).own visit hinside

end Acceptance

section Records

/-- The nodes of a value that stands in a flat record. -/
def maxSlimNodes : Nat := 100

/-- The characters of a value that stands in a flat record. -/
def maxSlimCharacters : Nat := 20000

/-- A value that may stand in a flat record. -/
structure Slim (value : Json) : Prop where
  /-- There are few values. -/
  nodes : value.nodes ≤ maxSlimNodes
  /-- Nothing lies too deep. -/
  depth : value.FitsDepth maxJsonDepth 1
  /-- There are few characters. -/
  characters : value.characters ≤ maxSlimCharacters
  /-- Every value inside is within its own limits. -/
  own : ∀ visit ∈ value.visits 1, OwnAllowed visit.1

/-- A slim value may stand inside an object. -/
theorem Slim.inside {value : Json} (h : Slim value) : Inside value :=
  ⟨h.depth, h.own⟩

/-- A short text that can be encoded is slim. -/
theorem Slim.str {text : PyStr} (hlength : text.length ≤ maxSlimCharacters)
    (hencodable : utf8Encodable text = true) : Slim (.str text) where
  nodes := by
    rw [Json.nodes_str]
    decide
  depth := by
    rw [Json.fitsDepth_str]
    decide
  characters := by
    rw [Json.characters_str]
    exact hlength
  own := by
    rw [Json.visits_eq, Json.children_str, List.forall_mem_cons]
    exact ⟨hencodable, fun visit hvisit => absurd hvisit List.not_mem_nil⟩

/-- The absent value is slim. -/
theorem Slim.null : Slim .null where
  nodes := by decide
  depth := by
    intro visit hvisit
    rw [Json.visits_eq, List.mem_cons] at hvisit
    rcases hvisit with rfl | hvisit
    · decide
    · cases hvisit
  characters := by decide
  own := by
    intro visit hvisit
    rw [Json.visits_eq, List.mem_cons] at hvisit
    rcases hvisit with rfl | hvisit
    · trivial
    · cases hvisit

/-- A short list of short texts is slim. -/
theorem Slim.texts {texts : List PyStr} (hcount : texts.length ≤ 50)
    (htexts : ∀ text ∈ texts, text.length ≤ 100 ∧ utf8Encodable text = true) :
    Slim (.arr (texts.map .str)) where
  nodes := by
    have hnodes := @Json.sum_map_le _ texts (fun text => (Json.str text).nodes) 1 fun text _ =>
      (Json.nodes_str text).le
    rw [Json.nodes_arr, List.map_map, maxSlimNodes]
    simp only [Function.comp_def]
    omega
  depth := by
    rw [Json.fitsDepth_arr, List.forall_mem_map]
    exact ⟨by decide, fun text _ => Json.fitsDepth_str.mpr (by decide)⟩
  characters := by
    have hcharacters := @Json.sum_map_le _ texts
      (fun text => (Json.str text).characters) 100 fun text htext =>
        (Json.characters_str text).trans_le (htexts text htext).1
    rw [Json.characters_arr, List.map_map, maxSlimCharacters]
    simp only [Function.comp_def]
    omega
  own := by
    rw [Json.visits_eq, List.forall_mem_cons]
    constructor
    · rw [OwnAllowed, List.length_map, maxJsonCollectionSize]
      omega
    · intro visit hvisit
      simp only [Json.children, List.mem_flatMap, List.mem_map] at hvisit
      obtain ⟨child, ⟨text, htext, rfl⟩, hvisit⟩ := hvisit
      rw [Json.visits_eq, Json.children_str, List.flatMap_nil, List.mem_singleton] at hvisit
      rw [hvisit]
      exact (htexts text htext).2

/-- A record with few short keys and slim values is within the limits. -/
theorem allowed_record {entries : List (PyStr × Json)} (hcount : entries.length ≤ 40)
    (hkeys : ∀ key ∈ entries.map Prod.fst, key.length ≤ 100 ∧ utf8Encodable key = true)
    (hvalues : ∀ value ∈ entries.map Prod.snd, Slim value) : Allowed (.obj entries) where
  nodes := by
    have hnodes := @Json.sum_map_le _ entries (fun entry => entry.2.nodes)
      maxSlimNodes fun entry hentry => (hvalues _ (List.mem_map_of_mem hentry)).nodes
    rw [Json.nodes_obj]
    simp only [maxSlimNodes, maxJsonNodes] at hnodes ⊢
    omega
  depth := by
    rw [Json.fitsDepth_obj]
    exact ⟨by decide, fun entry hentry => (hvalues _ (List.mem_map_of_mem hentry)).depth⟩
  characters := by
    have hnames := @Json.sum_map_le _ entries (fun entry => entry.1.length)
      100 fun entry hentry => (hkeys _ (List.mem_map_of_mem hentry)).1
    have hcharacters := @Json.sum_map_le _ entries
      (fun entry => entry.2.characters) maxSlimCharacters
      fun entry hentry => (hvalues _ (List.mem_map_of_mem hentry)).characters
    rw [Json.characters_obj]
    simp only [maxSlimCharacters, maxJsonCharacters] at hcharacters ⊢
    omega
  own := by
    rw [Json.visits_eq, List.forall_mem_cons]
    constructor
    · rw [OwnAllowed, maxJsonCollectionSize]
      exact ⟨by omega, fun entry hentry => (hkeys _ (List.mem_map_of_mem hentry)).2⟩
    · intro visit hvisit
      simp only [Json.children, List.mem_flatMap] at hvisit
      obtain ⟨value, hvalue, hvisit⟩ := hvisit
      exact (hvalues value hvalue).own visit hvisit

end Records

section Texts

/-- A text that `validate_text` accepts. -/
structure ContractText where
  text : PyStr
  /-- It passed the checks. -/
  clean : CleanText text
  deriving DecidableEq

/-- `plus`, the start of build metadata. -/
def plus : CodePoint := 43

/-- A text before a separator and, when there is one, after it. -/
def cut (separator : CodePoint) (text : PyStr) : PyStr × Option PyStr :=
  (text.takeWhile (· ≠ separator), (text.dropWhile (· ≠ separator)).tail?)

/-- A character of a version label. -/
def isLabelChar (c : CodePoint) : Bool := isAsciiAlnum c || c == minus

/-- Labels with points between them. -/
def isLabels (text : PyStr) : Bool :=
  (text.splitOn point).all fun label => !label.isEmpty && label.all isLabelChar

/-- A number with leading zeros. -/
def isPaddedNumber (label : PyStr) : Bool :=
  label.all isDigit && decide (1 < label.length) && label.head? == some 48

/-- `_SEMVER_PATTERN.fullmatch(text)` and the check of the prerelease labels. -/
def isSemanticVersion (text : PyStr) : Bool :=
  let (release, build) := cut plus text
  let (core, prerelease) := cut minus release
  Artifacts.isSemanticVersion core && build.all isLabels &&
    prerelease.all fun labels => isLabels labels && !(labels.splitOn point).any isPaddedNumber

/-- `SemanticVersion`. -/
structure SemanticVersion where
  value : PyStr
  /-- `value` is a text. -/
  clean : CleanText value
  /-- `value` spells a version. -/
  spelled : isSemanticVersion value = true
  deriving DecidableEq

end Texts

end Contracts
end AyyoHumanoid
