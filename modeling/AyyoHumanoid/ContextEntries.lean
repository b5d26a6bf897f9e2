import AyyoHumanoid.ContextModels
import AyyoHumanoid.MemoryReads
import AyyoHumanoid.JsonBounds
import AyyoHumanoid.PyGroups

/-!
# Evidence, entries and snapshots of personal context

The immutable models of the personal context package with the checks their
constructors make, and the snapshot version, which is the digest of a canonical
document. Canonical text is written by the writer with an explicit stack.
-/

namespace AyyoHumanoid
namespace PersonalContext

open PyText JsonText PyCollections

/-- The exception classes that reach a caller of the personal context service. -/
inductive ContextErrorKind where
  | invalidOwner | contextInvariant | inconsistentSourceState
  /-- `ValueError` of the JSON writer. -/
  | valueError
  /-- `UnicodeEncodeError` of a document with a lone surrogate. -/
  | unicodeEncode
  /-- An exception that the Memory OS raised. -/
  | memory (kind : Memory.MemoryErrorKind)
  deriving DecidableEq, Repr

/-- An exception with its message. -/
structure ContextError where
  /-- The exception class. -/
  kind : ContextErrorKind
  /-- The message text. -/
  message : PyStr
  deriving DecidableEq

/-- `ContextInvariantError(message)`. -/
def invariantError (message : PyStr) : ContextError := ⟨.contextInvariant, message⟩

/-- `InconsistentSourceStateError(message)`. -/
def inconsistentSource (message : PyStr) : ContextError := ⟨.inconsistentSourceState, message⟩

/-- An exception of the Memory OS passes through. -/
def ofMemoryError (error : Memory.MemoryError) : ContextError := ⟨.memory error.kind, error.message⟩

/-- `canonicalize_json`; integers beyond Python's digit limit have no text. -/
def canonicalizeJson (value : Json) : Except ContextError PyStr :=
  if value.dumpable then .ok (canonicalText value)
  else .error ⟨.valueError, py "Exceeds the limit for integer string conversion"⟩

/-- The text of a printable value is the text of the recursive encoder. -/
theorem canonicalizeJson_ok {value : Json} {text : PyStr} :
    canonicalizeJson value = .ok text ↔ value.dumpable = true ∧ encode value = text := by
  unfold canonicalizeJson
  split <;> simp_all [canonicalText_eq]

/-- `_validate_exact_text`; `none` is a value that is not a string. -/
def validateExactText (value : Option PyStr) (fieldName : PyStr) (kind : ContextErrorKind) :
    Except ContextError Unit :=
  match value with
  | none => .error ⟨kind, fieldName ++ py " must be a non-empty string"⟩
  | some text => do
    require (strip text ≠ []) ⟨kind, fieldName ++ py " must be a non-empty string"⟩
    require (text = strip text) ⟨kind, fieldName ++ py " must not have surrounding whitespace"⟩

/-- The text check of the context package passes the same texts as that of the Memory OS. -/
theorem validateExactText_ok {value : Option PyStr} {fieldName : PyStr} {kind : ContextErrorKind}
    {u : Unit} : validateExactText value fieldName kind = .ok u ↔
      ∃ text, value = some text ∧ Memory.NonemptyText text := by
  cases value with
  | none => simp [validateExactText]
  | some text =>
    simp only [validateExactText, Checks.require_bind_ok, Checks.require_ok, Option.some.injEq,
      exists_eq_left']
    exact ⟨fun h => ⟨h.1, h.2⟩, fun h => ⟨h.1, h.2⟩⟩

/-- `validate_owner_subject`. -/
def validateOwnerSubject (ownerSubject : PyStr) : Except ContextError Unit :=
  validateExactText (some ownerSubject) (py "owner_subject") .invalidOwner

/-- `_validate_utc`. -/
def validateUtc (value : PyDatetime) (fieldName : PyStr) : Except ContextError Unit :=
  require (value.utcoffset = some 0) (invariantError (fieldName ++ py " must be timezone-aware UTC"))

/-- `ContextIdentity`, with the texts that its constructor accepts. -/
@[ext] structure ContextIdentity where
  domain : ContextDomain
  subject : PyStr
  predicate : PyStr
  /-- The subject is exact text. -/
  subjectText : Memory.NonemptyText subject
  /-- The predicate is exact text. -/
  predicateText : Memory.NonemptyText predicate
  deriving DecidableEq

/-- The key by which entries are sorted. -/
def ContextIdentity.key (identity : ContextIdentity) : PyStr ×ₗ PyStr ×ₗ PyStr :=
  toLex (identity.domain.value, toLex (identity.subject, identity.predicate))

/-- A domain is known by its text. -/
theorem ContextDomain.value_injective : Function.Injective ContextDomain.value := by
  intro left right h
  cases left <;> cases right <;> first | rfl | exact absurd h (by decide)

/-- The sort key determines the identity. -/
theorem ContextIdentity.key_injective : Function.Injective ContextIdentity.key := by
  intro left right h
  have hparts := congrArg ofLex h
  simp only [key, ofLex_toLex, Prod.mk.injEq] at hparts
  have hrest := congrArg ofLex hparts.2
  simp only [ofLex_toLex, Prod.mk.injEq] at hrest
  exact ContextIdentity.ext (ContextDomain.value_injective hparts.1) hrest.1 hrest.2

instance : LinearOrder ContextIdentity :=
  LinearOrder.lift' ContextIdentity.key ContextIdentity.key_injective

/-- The fields given to the `EvidenceReference` constructor. -/
structure EvidenceFields where
  memoryId : UUID
  provenanceType : Memory.ProvenanceType
  provenanceSourceId : PyStr
  provenanceDetails : List (PyStr × Json)
  metadata : List (PyStr × Json)
  confidence : Memory.PyNumber
  observedAt : PyDatetime
  recordedAt : PyDatetime
  supersedes : Option UUID
  revisionReason : Option PyStr
  deriving DecidableEq

/-- The checks of `EvidenceReference.__init__`, in order. -/
def EvidenceFields.postInit (f : EvidenceFields) : Except ContextError Unit := do
  validateExactText (some f.provenanceSourceId) (py "evidence provenance_source_id")
    .contextInvariant
  let _ ← canonicalizeJson (.obj f.provenanceDetails)
  let _ ← canonicalizeJson (.obj f.metadata)
  require f.confidence.InUnit
    (invariantError (py "evidence confidence must be a number from 0.0 to 1.0"))
  validateUtc f.observedAt (py "evidence observed_at")
  validateUtc f.recordedAt (py "evidence recorded_at")
  require (f.supersedes ≠ some f.memoryId)
    (invariantError (py "evidence cannot supersede itself"))
  require (f.supersedes = none → f.revisionReason = none)
    (invariantError (py "evidence revision_reason requires a superseded memory"))
  requireWhen (f.supersedes ≠ none)
    (validateExactText f.revisionReason (py "evidence revision_reason") .contextInvariant)

/-- `EvidenceReference`: fields that passed the constructor's checks. -/
structure EvidenceReference extends EvidenceFields where
  /-- The checks passed. -/
  checked : toEvidenceFields.postInit = .ok ()
  deriving DecidableEq

/-- `EvidenceReference(...)`. -/
def EvidenceReference.construct : EvidenceFields → Except ContextError EvidenceReference :=
  AyyoHumanoid.construct EvidenceFields.postInit EvidenceReference.mk

/-- `ContextValue` before its checks: a value with its evidence. -/
structure ValueFields where
  value : Json
  evidence : List EvidenceReference
  deriving DecidableEq

/-- The checks of `ContextValue.__init__`, in order. -/
def ValueFields.postInit (f : ValueFields) : Except ContextError Unit := do
  let _ ← canonicalizeJson f.value
  require (f.evidence ≠ [] ∧ f.evidence = sortBy (fun item => item.memoryId.text) f.evidence)
    (invariantError (py "context value evidence must be non-empty and sorted by memory_id"))
  require (f.evidence.map (·.memoryId)).Nodup
    (invariantError (py "context value evidence IDs must be unique"))

/-- `ContextValue`: a value with its evidence that passed the constructor's checks. -/
structure ContextValue extends ValueFields where
  /-- The checks passed. -/
  checked : toValueFields.postInit = .ok ()
  deriving DecidableEq

/-- `ContextValue(...)`. -/
def ContextValue.construct : ValueFields → Except ContextError ContextValue :=
  AyyoHumanoid.construct ValueFields.postInit ContextValue.mk

/-- `canonical_value`. -/
def ContextValue.canonicalValue (value : ContextValue) : PyStr := canonicalText value.value

/-- The number of pairs of evidence for different values. -/
def contradictoryPairs : List ContextValue → Nat
  | [] => 0
  | left :: later =>
    (later.map fun right => left.evidence.length * right.evidence.length).sum +
      contradictoryPairs later

/-- The fields given to the `ContextEntry` constructor. -/
structure EntryFields where
  identity : ContextIdentity
  state : ContextState
  values : List ContextValue
  conflictIds : List UUID
  deriving DecidableEq

/-- `ContextEntry.__post_init__`. -/
def EntryFields.postInit (f : EntryFields) : Except ContextError Unit := do
  require (f.state = .resolved ∨ f.state = .conflicted)
    (invariantError (py "context entries must be resolved or conflicted; absence is unknown"))
  require (f.values = sortBy ContextValue.canonicalValue f.values)
    (invariantError (py "context entry values must be sorted canonically"))
  require (f.values.map ContextValue.canonicalValue).Nodup
    (invariantError (py "context entry values must be distinct"))
  require ((f.values.flatMap (·.evidence)).map (·.memoryId)).Nodup
    (invariantError (py "a memory cannot support multiple values in one context entry"))
  require (f.conflictIds = sortBy UUID.text f.conflictIds.dedup)
    (invariantError (py "conflict_ids must be unique and sorted"))
  require (f.state = .resolved → f.values.length = 1 ∧ f.conflictIds = [])
    (invariantError (py "resolved context requires exactly one value and no conflicts"))
  require (f.state = .conflicted → 2 ≤ f.values.length ∧ f.conflictIds ≠ [])
    (invariantError (py "conflicted context requires distinct values and unresolved conflicts"))
  require (f.state = .conflicted → f.conflictIds.length = contradictoryPairs f.values)
    (invariantError (py "conflict IDs must cover every contradictory evidence pair"))

/-- `ContextEntry`: fields that passed the constructor's checks. -/
structure ContextEntry extends EntryFields where
  /-- The checks passed. -/
  checked : toEntryFields.postInit = .ok ()
  deriving DecidableEq

/-- `ContextEntry(...)`. -/
def ContextEntry.construct : EntryFields → Except ContextError ContextEntry :=
  AyyoHumanoid.construct EntryFields.postInit ContextEntry.mk

/-- `_utc_text`. -/
def utcText (value : PyDatetime) : PyStr := IsoText.datetimeToText value.civil

section Documents

variable (floatRepr : Rat → FloatToken)

/-- The document of a piece of evidence. `floatRepr` gives the float that a confidence is and
its text. -/
def evidenceDocument (reference : EvidenceReference) : Json :=
  .obj [(py "confidence", .float (floatRepr reference.confidence.toRat)),
    (py "memory_id", .str reference.memoryId.text),
    (py "metadata", .obj reference.metadata),
    (py "observed_at", .str (utcText reference.observedAt)),
    (py "provenance_details", .obj reference.provenanceDetails),
    (py "provenance_source_id", .str reference.provenanceSourceId),
    (py "provenance_type", .str reference.provenanceType.value),
    (py "recorded_at", .str (utcText reference.recordedAt)),
    (py "revision_reason", optionalText reference.revisionReason),
    (py "supersedes", optionalText (reference.supersedes.map UUID.text))]

/-- The document of a value with its evidence. -/
def valueDocument (value : ContextValue) : Json :=
  .obj [(py "evidence", .arr (value.evidence.map (evidenceDocument floatRepr))),
    (py "value", value.value)]

/-- `_entry_document`. -/
def entryDocument (entry : ContextEntry) : Json :=
  .obj [(py "conflict_ids", .arr (entry.conflictIds.map fun conflictId => .str conflictId.text)),
    (py "domain", .str entry.identity.domain.value),
    (py "predicate", .str entry.identity.predicate),
    (py "state", .str entry.state.value),
    (py "subject", .str entry.identity.subject),
    (py "values", .arr (entry.values.map (valueDocument floatRepr)))]

/-- The document whose digest is the version of a snapshot. -/
def snapshotDocument (ownerSubject : PyStr) (entries : List ContextEntry) : Json :=
  .obj [(py "entries", .arr (entries.map (entryDocument floatRepr))),
    (py "owner_subject", .str ownerSubject),
    (py "schema", .str (py "ayyo.personal_context.snapshot.v1"))]

variable (p : Platform)

/-- `compute_snapshot_version`. -/
def computeSnapshotVersion (ownerSubject : PyStr) (entries : List ContextEntry) :
    Except ContextError ContextSnapshotVersion := do
  let canonical ← canonicalizeJson (snapshotDocument floatRepr ownerSubject entries)
  require (utf8Encodable canonical = true) ⟨.unicodeEncode, py "surrogates not allowed"⟩
  pure { digest := p.sha256 canonical }

/-- The fields given to the `PersonalContextSnapshot` constructor. -/
structure SnapshotFields where
  ownerSubject : PyStr
  entries : List ContextEntry
  version : ContextSnapshotVersion
  deriving DecidableEq

/-- `PersonalContextSnapshot.__post_init__`. -/
def SnapshotFields.postInit (f : SnapshotFields) : Except ContextError Unit := do
  validateOwnerSubject f.ownerSubject
  require (f.entries = sortBy (fun entry => entry.identity) f.entries)
    (invariantError (py "snapshot entries must be sorted by identity"))
  require (f.entries.map (·.identity)).Nodup
    (invariantError (py "snapshot context identities must be unique"))
  require (∀ entry ∈ f.entries, entry.identity.subject = f.ownerSubject)
    (invariantError (py "snapshot entries must belong to the configured owner"))
  let expected ← computeSnapshotVersion floatRepr p f.ownerSubject f.entries
  require (f.version = expected)
    (invariantError (py "snapshot version does not match its projected context"))

/-- `PersonalContextSnapshot`: fields that passed the constructor's checks. -/
structure PersonalContextSnapshot extends SnapshotFields where
  /-- The checks passed. -/
  checked : toSnapshotFields.postInit floatRepr p = .ok ()
  deriving DecidableEq

/-- `PersonalContextSnapshot(...)`. -/
def PersonalContextSnapshot.construct :
    SnapshotFields → Except ContextError (PersonalContextSnapshot floatRepr p) :=
  AyyoHumanoid.construct (SnapshotFields.postInit floatRepr p) (PersonalContextSnapshot.mk)

end Documents

end PersonalContext
end AyyoHumanoid
