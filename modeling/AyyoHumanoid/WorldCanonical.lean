import AyyoHumanoid.WorldModels

/-!
# Canonical documents of the world model

A document is digested after a traversal with an explicit stack has bounded its
depth, its number of values, its collections and its text. The traversal checks
the characters only where it meets a string, so it is described by what it
passes and not by what it refuses.
-/

namespace AyyoHumanoid
namespace World

open PyText JsonText

/-- The limits of `_validate_json`. -/
structure DocumentLimits where
  /-- `maximum_depth`. -/
  depth : Nat
  /-- `maximum_nodes`. -/
  nodes : Nat
  /-- `maximum_collection`. -/
  collection : Nat
  /-- `maximum_text`. -/
  text : Nat
  /-- `maximum_characters`. -/
  characters : Nat
  deriving DecidableEq

/-- The limits of `validate_json`. -/
def DocumentLimits.ingress : DocumentLimits := ⟨16, 2048, 256, 4096, 65536⟩

/-- The limits of `canonical_json`. -/
def DocumentLimits.canonical : DocumentLimits := ⟨24, 600000, 600000, 4096, 32000000⟩

/-- `MAX_INTEGER_BITS`. -/
def maxIntegerBits : Nat := 1024

/-- `_fail(f"{field_name}{detail}")`. -/
def failed (fieldName detail : PyStr) : WorldError :=
  ⟨.validation, .malformedObservation, fieldName ++ detail⟩

section Traversal

variable (limits : DocumentLimits) (fieldName : PyStr)

/-- The key loop of `_validate_json`: the character count after the keys. -/
def countKeys : Nat → List PyStr → Except WorldError Nat
  | characters, [] => .ok characters
  | characters, key :: keys => do
    require (key.length ≤ limits.text) (failed fieldName (py " contains an oversized object key"))
    countKeys (characters + key.length) keys

/-- The check of a collection. -/
def checkCollection (size : Nat) : Except WorldError Unit :=
  require (size ≤ limits.collection)
    (failed fieldName (py " exceeds collection capacity " ++ natDigits limits.collection))

/-- The checks of `_validate_json` on one value: the character count after it. -/
def checkValue (characters : Nat) : Json → Except WorldError Nat
  | .str text => do
    require (utf8Encodable text = true) (failed fieldName (py " contains invalid Unicode"))
    require (text.length ≤ limits.text) (failed fieldName (py " contains an oversized string"))
    require (characters + text.length ≤ limits.characters)
      (failed fieldName (py " exceeds its aggregate text bound"))
    pure (characters + text.length)
  | .int value => do
    require (Json.bitLength value ≤ maxIntegerBits)
      (failed fieldName (py " contains an oversized integer"))
    pure characters
  | .arr items => do
    checkCollection limits fieldName items.length
    pure characters
  | .obj entries => do
    checkCollection limits fieldName entries.length
    countKeys limits fieldName characters (entries.map Prod.fst)
  | .null | .bool _ | .float _ => pure characters

/-- The loop of `_validate_json`. The first argument counts the values that are still allowed, the
second the characters met. A value holds no reference to itself, so there is nothing to leave. -/
def validateLoop : Nat → Nat → List (Json × Nat) → Except WorldError Unit
  | _, _, [] => .ok ()
  | 0, _, _ :: _ =>
    .error (failed fieldName (py " exceeds " ++ natDigits limits.nodes ++ py " JSON nodes"))
  | remaining + 1, characters, (current, depth) :: stack => do
    require (depth ≤ limits.depth)
      (failed fieldName (py " exceeds JSON depth " ++ natDigits limits.depth))
    let characters ← checkValue limits fieldName characters current
    validateLoop remaining characters
      (current.children.map (fun child => (child, depth + 1)) ++ stack)

/-- `_validate_json`. -/
def validateDocument (value : Json) : Except WorldError Unit :=
  validateLoop limits fieldName limits.nodes 0 [(value, 0)]

end Traversal

/-- `sha256_document`. -/
def sha256Document (p : Platform) (document : Json) : Except WorldError Digest := do
  validateDocument .canonical (py "canonical document") document
  pure (documentDigest p document)

/-- A value whose own number, text and size are within the limits. -/
def OwnWithin (limits : DocumentLimits) : Json → Prop
  | .str text => utf8Encodable text = true ∧ text.length ≤ limits.text
  | .int value => Json.bitLength value ≤ maxIntegerBits
  | .arr items => items.length ≤ limits.collection
  | .obj entries => entries.length ≤ limits.collection ∧
      ∀ entry ∈ entries, entry.1.length ≤ limits.text
  | _ => True

/-- A document within the limits. -/
structure WithinLimits (limits : DocumentLimits) (value : Json) : Prop where
  /-- There are not too many values. -/
  nodes : value.nodes ≤ limits.nodes
  /-- Nothing lies too deep. -/
  depth : value.FitsDepth limits.depth 0
  /-- There are not too many characters. -/
  characters : value.characters ≤ limits.characters
  /-- Every value inside is within its own limits. -/
  own : ∀ visit ∈ value.visits 0, OwnWithin limits visit.1

section Acceptance

variable {limits : DocumentLimits} {fieldName : PyStr}

/-- Short keys add their characters. -/
theorem countKeys_of_short {characters : Nat} {keys : List PyStr}
    (h : ∀ key ∈ keys, key.length ≤ limits.text) :
    countKeys limits fieldName characters keys = .ok (characters + (keys.map List.length).sum) := by
  induction keys generalizing characters with
  | nil => simp [countKeys]
  | cons key keys ih =>
    rw [List.forall_mem_cons] at h
    rw [countKeys, Checks.require_bind_ok, ih h.2, List.map_cons, List.sum_cons, Nat.add_assoc]
    exact ⟨h.1, rfl⟩

/-- A value within its own limits adds its characters. -/
theorem checkValue_of_within {characters : Nat} {current : Json} (hown : OwnWithin limits current)
    (hcharacters : characters + current.ownCharacters ≤ limits.characters) :
    checkValue limits fieldName characters current = .ok (characters + current.ownCharacters) := by
  cases current with
  | str text =>
    have hfits : characters + text.length ≤ limits.characters := hcharacters
    simp only [checkValue, Checks.require_bind_ok, Checks.pure_ok, Json.ownCharacters]
    exact ⟨hown.1, hown.2, hfits, trivial⟩
  | int value =>
    simp only [checkValue, Checks.require_bind_ok, Checks.pure_ok, Json.ownCharacters]
    exact ⟨hown, rfl⟩
  | arr items =>
    simp only [checkValue, checkCollection, Checks.require_bind_ok, Checks.pure_ok,
      Json.ownCharacters]
    exact ⟨hown, rfl⟩
  | obj entries =>
    have hkeys : ∀ key ∈ entries.map Prod.fst, key.length ≤ limits.text :=
      List.forall_mem_map.mpr hown.2
    simp only [checkValue, checkCollection, Checks.require_bind_ok, Json.ownCharacters]
    refine ⟨hown.1, ?_⟩
    rw [countKeys_of_short hkeys, List.map_map]
    rfl
  | null | bool _ | float _ => rfl

/-- The loop passes when the pending values fit. -/
theorem validateLoop_of_within {remaining characters : Nat} {stack : List (Json × Nat)}
    (hnodes : (pending stack).length ≤ remaining)
    (hvisits : ∀ visit ∈ pending stack, visit.2 ≤ limits.depth ∧ OwnWithin limits visit.1)
    (hcharacters : characters + ((pending stack).map fun visit => visit.1.ownCharacters).sum ≤
      limits.characters) :
    validateLoop limits fieldName remaining characters stack = .ok () := by
  induction remaining generalizing characters stack with
  | zero =>
    cases stack with
    | nil => rfl
    | cons item stack =>
      have hlength := length_le_pending (item :: stack)
      rw [List.length_cons] at hlength
      omega
  | succ remaining ih =>
    cases stack with
    | nil => rfl
    | cons item stack =>
      obtain ⟨current, depth⟩ := item
      rw [pending_cons] at hnodes hvisits hcharacters
      rw [List.forall_mem_cons] at hvisits
      rw [List.map_cons, List.sum_cons] at hcharacters
      rw [List.length_cons] at hnodes
      simp only at hcharacters
      have hvalue : checkValue limits fieldName characters current =
          .ok (characters + current.ownCharacters) :=
        checkValue_of_within hvisits.1.2 (by omega)
      rw [validateLoop, Checks.require_bind_ok, hvalue, Checks.ok_bind]
      have hlength : (pending (current.children.map (fun child => (child, depth + 1)) ++
          stack)).length ≤ remaining := by omega
      exact ⟨hvisits.1.1, ih hlength hvisits.2 (by omega)⟩

/-- A document within the limits passes. -/
theorem validateDocument_of_within {value : Json} (h : WithinLimits limits value) :
    validateDocument limits fieldName value = .ok () := by
  have hpending : pending [(value, 0)] = value.visits 0 := by simp [pending]
  rw [validateDocument]
  refine validateLoop_of_within ?_ ?_ ?_
  · rw [hpending]
    exact h.nodes
  · rw [hpending]
    exact fun visit hvisit => ⟨h.depth visit hvisit, h.own visit hvisit⟩
  · rw [hpending, Nat.zero_add]
    exact h.characters

/-- A document within the limits is digested. -/
theorem sha256Document_of_within {p : Platform} {document : Json}
    (h : WithinLimits .canonical document) :
    sha256Document p document = .ok (documentDigest p document) := by
  rw [sha256Document, validateDocument_of_within h]
  rfl

end Acceptance

end World
end AyyoHumanoid
