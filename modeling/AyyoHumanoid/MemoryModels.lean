import AyyoHumanoid.JsonRoundTrip
import AyyoHumanoid.PyDatetime
import AyyoHumanoid.PyUuid
import AyyoHumanoid.Transactions

/-!
# Memory OS records

The typed records of the Memory OS and the checks their constructors make. A
record here is its fields together with the fact that the constructor's checks
passed, so a record that the source could not build cannot be built here
either.
-/

namespace AyyoHumanoid
namespace Memory

open PyText

/-- `MemoryType`. -/
inductive MemoryType where
  | episodic | semantic | preference | social | spatial | procedural | failure
  deriving DecidableEq, Repr

/-- `MemoryType.value`. -/
def MemoryType.value : MemoryType → PyStr
  | .episodic => py "episodic"
  | .semantic => py "semantic"
  | .preference => py "preference"
  | .social => py "social"
  | .spatial => py "spatial"
  | .procedural => py "procedural"
  | .failure => py "failure"

/-- `ProvenanceType`. -/
inductive ProvenanceType where
  | explicitOwnerStatement | directObservation | derivedInference | systemEvent
  | trustedManualImport
  deriving DecidableEq, Repr

/-- `ProvenanceType.value`. -/
def ProvenanceType.value : ProvenanceType → PyStr
  | .explicitOwnerStatement => py "explicit_owner_statement"
  | .directObservation => py "direct_observation"
  | .derivedInference => py "derived_inference"
  | .systemEvent => py "system_event"
  | .trustedManualImport => py "trusted_manual_import"

/-- `MemoryStatus`. -/
inductive MemoryStatus where
  | active | superseded | retracted
  deriving DecidableEq, Repr

/-- The exception classes that reach a caller of the Memory OS. -/
inductive MemoryErrorKind where
  | invalidMemoryData | invalidConfidence | invalidProvenance | memoryNotFound
  | invalidCorrectionTarget | invalidRetractionTarget | alreadyRetracted
  | memoryPersistence | persistenceConflict
  /-- `sqlite3.IntegrityError`, a violated table constraint. -/
  | integrity
  /-- `UnicodeEncodeError` of a bound text with a lone surrogate. -/
  | unicodeEncode
  /-- `ValueError` of the JSON or datetime codecs. -/
  | valueError
  /-- Not an exception: a loop that did not end within its bound. -/
  | nonterminating
  deriving DecidableEq, Repr

/-- An exception with its message. -/
structure MemoryError where
  /-- The exception class. -/
  kind : MemoryErrorKind
  /-- The message text. -/
  message : PyStr
  deriving DecidableEq

/-- `InvalidMemoryDataError(message)`. -/
def invalidData (message : PyStr) : MemoryError := ⟨.invalidMemoryData, message⟩

/-- Text that is not empty and has no surrounding whitespace. -/
structure NonemptyText (text : PyStr) : Prop where
  /-- Something remains after stripping. -/
  nonempty : strip text ≠ []
  /-- Stripping changes nothing. -/
  stripped : text = strip text

/-- `validate_nonempty_text`; `none` is a value that is not a string. -/
def validateNonemptyText (value : Option PyStr) (fieldName : PyStr) : Except MemoryError Unit :=
  match value with
  | none => .error (invalidData (fieldName ++ py " must be a non-empty string"))
  | some text => do
    require (strip text ≠ []) (invalidData (fieldName ++ py " must be a non-empty string"))
    require (text = strip text)
      (invalidData (fieldName ++ py " must not have surrounding whitespace"))

/-- A passed text check is a nonempty stripped text. -/
theorem validateNonemptyText_ok {value : Option PyStr} {fieldName : PyStr} {u : Unit} :
    validateNonemptyText value fieldName = .ok u ↔ ∃ text, value = some text ∧ NonemptyText text := by
  cases value with
  | none => simp [validateNonemptyText]
  | some text =>
    simp only [validateNonemptyText, Checks.require_bind_ok, Checks.require_ok,
      Option.some.injEq, exists_eq_left']
    exact ⟨fun h => ⟨h.1, h.2⟩, fun h => ⟨h.1, h.2⟩⟩

/-- A Python number that is not a boolean. -/
inductive PyNumber where
  /-- A finite number. -/
  | finite (value : Rat)
  /-- An infinity or a NaN. -/
  | nonFinite
  deriving DecidableEq

/-- The number SQLite stores for a finite confidence. -/
def PyNumber.toRat : PyNumber → Rat
  | .finite value => value
  | .nonFinite => 0

/-- A finite number from zero to one. -/
def PyNumber.InUnit : PyNumber → Prop
  | .finite value => 0 ≤ value ∧ value ≤ 1
  | .nonFinite => False

instance : (number : PyNumber) → Decidable number.InUnit
  | .finite value => inferInstanceAs (Decidable (0 ≤ value ∧ value ≤ 1))
  | .nonFinite => inferInstanceAs (Decidable False)

/-- `validate_confidence`. -/
def validateConfidence (value : PyNumber) : Except MemoryError Unit :=
  require value.InUnit
    ⟨.invalidConfidence, py "confidence must be a finite number from 0.0 to 1.0"⟩

/-- `validate_utc_datetime`. -/
def validateUtcDatetime (value : PyDatetime) (fieldName : PyStr) : Except MemoryError Unit := do
  require (value.utcoffset ≠ none) (invalidData (fieldName ++ py " must be timezone-aware UTC"))
  require (value.utcoffset = some 0) (invalidData (fieldName ++ py " must use UTC"))

/-- A passed timestamp check is a zero offset. -/
theorem validateUtcDatetime_ok {value : PyDatetime} {fieldName : PyStr} {u : Unit} :
    validateUtcDatetime value fieldName = .ok u ↔ value.utcoffset = some 0 := by
  simp only [validateUtcDatetime, Checks.require_bind_ok, Checks.require_ok]
  constructor
  · exact fun h => h.2
  · intro h
    exact ⟨by simp [h], h⟩

/-- `Provenance`: a validated source of a memory. -/
structure Provenance where
  /-- How the evidence was obtained. -/
  provenanceType : ProvenanceType
  /-- The source's identifier. -/
  sourceId : PyStr
  /-- Further JSON details. -/
  details : List (PyStr × Json)
  /-- The constructor's text check passed. -/
  checked : validateNonemptyText (some sourceId) (py "provenance source_id") = .ok ()
  deriving DecidableEq

/-- `Provenance(...)`. -/
def Provenance.construct (provenanceType : ProvenanceType) (sourceId : PyStr)
    (details : List (PyStr × Json)) : Except MemoryError Provenance :=
  match h : validateNonemptyText (some sourceId) (py "provenance source_id") with
  | .ok () => .ok ⟨provenanceType, sourceId, details, h⟩
  | .error e => .error ⟨.invalidProvenance, e.message⟩

/-- The constructor returns exactly the provenance with the given fields. -/
theorem Provenance.construct_ok {provenanceType : ProvenanceType} {sourceId : PyStr}
    {details : List (PyStr × Json)} {provenance : Provenance} :
    Provenance.construct provenanceType sourceId details = .ok provenance ↔
      provenance.provenanceType = provenanceType ∧ provenance.sourceId = sourceId ∧
        provenance.details = details := by
  unfold Provenance.construct
  split
  · next h =>
    constructor
    · intro hok
      cases hok
      exact ⟨rfl, rfl, rfl⟩
    · rintro ⟨rfl, rfl, rfl⟩
      rfl
  · next e h =>
    constructor
    · intro hok
      cases hok
    · rintro ⟨-, rfl, -⟩
      rw [provenance.checked] at h
      cases h

/-- The fields given to the `MemoryRecord` constructor. -/
structure RecordFields where
  memoryId : UUID
  memoryType : MemoryType
  subject : PyStr
  predicate : PyStr
  value : Json
  provenance : Provenance
  confidence : PyNumber
  observedAt : PyDatetime
  createdAt : PyDatetime
  status : MemoryStatus
  statusChangedAt : PyDatetime
  supersedes : Option UUID := none
  revisionReason : Option PyStr := none
  statusReason : Option PyStr := none
  metadata : List (PyStr × Json) := []
  deriving DecidableEq

/-- `MemoryRecord.__post_init__`: the checks in the order they are made. -/
def RecordFields.postInit (f : RecordFields) : Except MemoryError Unit := do
  validateNonemptyText (some f.subject) (py "subject")
  validateNonemptyText (some f.predicate) (py "predicate")
  validateConfidence f.confidence
  validateUtcDatetime f.observedAt (py "observed_at")
  validateUtcDatetime f.createdAt (py "created_at")
  validateUtcDatetime f.statusChangedAt (py "status_changed_at")
  require (f.createdAt.civil ≤ f.statusChangedAt.civil)
    (invalidData (py "status_changed_at cannot precede created_at"))
  require (f.supersedes ≠ some f.memoryId) (invalidData (py "a memory cannot supersede itself"))
  require (f.supersedes = none → f.revisionReason = none)
    (invalidData (py "revision_reason requires a superseded memory"))
  requireWhen (f.supersedes ≠ none)
    (validateNonemptyText f.revisionReason (py "revision_reason"))
  require (f.status = .active → f.statusReason = none)
    (invalidData (py "active memories cannot have a status_reason"))
  requireWhen (f.status ≠ .active)
    (validateNonemptyText f.statusReason (py "status_reason"))

/-- What the constructor's checks establish. -/
structure RecordFields.Valid (f : RecordFields) : Prop where
  subject : NonemptyText f.subject
  predicate : NonemptyText f.predicate
  /-- The confidence is between zero and one. -/
  confidence : f.confidence.InUnit
  /-- The observation time is UTC. -/
  observedUtc : f.observedAt.utcoffset = some 0
  /-- The creation time is UTC. -/
  createdUtc : f.createdAt.utcoffset = some 0
  /-- The status time is UTC. -/
  statusChangedUtc : f.statusChangedAt.utcoffset = some 0
  /-- The status does not change before creation. -/
  statusChanged : f.createdAt.civil ≤ f.statusChangedAt.civil
  /-- No memory supersedes itself. -/
  notSelf : f.supersedes ≠ some f.memoryId
  /-- A root has no revision reason. -/
  rootReason : f.supersedes = none → f.revisionReason = none
  revisionReason : f.supersedes ≠ none → ∃ text, f.revisionReason = some text ∧ NonemptyText text
  /-- An active memory has no status reason. -/
  activeReason : f.status = .active → f.statusReason = none
  /-- A memory that is not active has a status reason. -/
  statusReason : f.status ≠ .active → ∃ text, f.statusReason = some text ∧ NonemptyText text

/-- The constructor's checks pass exactly on valid fields. -/
theorem RecordFields.postInit_ok (f : RecordFields) : f.postInit = .ok () ↔ f.Valid := by
  simp only [postInit, Checks.unit_bind_ok, validateNonemptyText_ok, validateUtcDatetime_ok,
    validateConfidence, Checks.require_ok, Checks.requireWhen_ok, Option.some.injEq,
    exists_eq_left']
  constructor
  · rintro ⟨h1, h2, h3, h4, h5, h6, h7, h8, h9, h10, h11, h12⟩
    exact ⟨h1, h2, h3, h4, h5, h6, h7, h8, h9, h10, h11, h12⟩
  · rintro ⟨h1, h2, h3, h4, h5, h6, h7, h8, h9, h10, h11, h12⟩
    exact ⟨h1, h2, h3, h4, h5, h6, h7, h8, h9, h10, h11, h12⟩

/-- `MemoryRecord`: fields that passed the constructor's checks. -/
structure MemoryRecord extends RecordFields where
  /-- The checks passed. -/
  checked : toRecordFields.postInit = .ok ()
  deriving DecidableEq

/-- What is known of a record's fields. -/
theorem MemoryRecord.valid (record : MemoryRecord) : record.toRecordFields.Valid :=
  (RecordFields.postInit_ok _).mp record.checked

/-- `MemoryRecord(...)`. -/
def MemoryRecord.construct (fields : RecordFields) : Except MemoryError MemoryRecord :=
  match h : fields.postInit with
  | .ok () => .ok ⟨fields, h⟩
  | .error e => .error e

/-- The constructor returns exactly the record with the given fields. -/
theorem MemoryRecord.construct_ok {fields : RecordFields} {record : MemoryRecord} :
    MemoryRecord.construct fields = .ok record ↔ record.toRecordFields = fields := by
  unfold MemoryRecord.construct
  split
  · next h =>
    constructor
    · intro hok
      cases hok
      rfl
    · rintro rfl
      rfl
  · next e h =>
    constructor
    · intro hok
      cases hok
    · rintro rfl
      rw [record.checked] at h
      cases h

/-- The identity under which memories contradict each other. -/
def RecordFields.key (f : RecordFields) : MemoryType × PyStr × PyStr :=
  (f.memoryType, f.subject, f.predicate)

end Memory
end AyyoHumanoid
