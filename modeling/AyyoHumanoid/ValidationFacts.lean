import AyyoHumanoid.MemoryRevisions
import AyyoHumanoid.ValidationPolicy
import Mathlib.Data.List.Dedup

/-!
# What validation values guarantee

The facts that normalized identities, candidate evidence and decisions carry by
construction, and the exact condition under which the policy's decision
constructor accepts its arguments.
-/

namespace AyyoHumanoid
namespace Validation

open PyText JsonText Memory

variable {nfc : Nfc}

/-- A text that is its own nonempty normalization. -/
structure Normalized (nfc : Nfc) (text : PyStr) : Prop where
  /-- Normalizing changes nothing. -/
  fixed : collapse nfc text = text
  /-- There is text. -/
  nonempty : text ≠ []

/-- The checks of an identity establish that its texts are normalized. -/
theorem IdentityFields.postInit_ok {f : IdentityFields} :
    f.postInit nfc = .ok () ↔ Normalized nfc f.subject ∧ Normalized nfc f.predicate := by
  simp only [postInit, Checks.bind_ok, Checks.require_ok, normalizeIdentityText_ok]
  constructor
  · rintro ⟨_, ⟨rfl, hs⟩, _, hsubject, _, ⟨rfl, hp⟩, hpredicate⟩
    rw [hsubject] at hs
    rw [hpredicate] at hp
    exact ⟨⟨hsubject, hs⟩, hpredicate, hp⟩
  · rintro ⟨hsubject, hpredicate⟩
    have hs : collapse nfc f.subject ≠ [] := by
      rw [hsubject.fixed]
      exact hsubject.nonempty
    have hp : collapse nfc f.predicate ≠ [] := by
      rw [hpredicate.fixed]
      exact hpredicate.nonempty
    exact ⟨_, ⟨rfl, hs⟩, (), hsubject.fixed, _, ⟨rfl, hp⟩, hpredicate.fixed⟩

/-- The subject of an identity is normalized. -/
theorem NormalizedIdentity.subject_normalized (identity : NormalizedIdentity nfc) :
    Normalized nfc identity.subject :=
  (IdentityFields.postInit_ok.mp identity.checked).1

/-- The predicate of an identity is normalized. -/
theorem NormalizedIdentity.predicate_normalized (identity : NormalizedIdentity nfc) :
    Normalized nfc identity.predicate :=
  (IdentityFields.postInit_ok.mp identity.checked).2

/-- The constructor returns exactly the identity with the given fields. -/
theorem NormalizedIdentity.construct_ok {fields : IdentityFields}
    {identity : NormalizedIdentity nfc} :
    NormalizedIdentity.construct nfc fields = .ok identity ↔
      identity.toIdentityFields = fields := by
  unfold NormalizedIdentity.construct
  split
  · next h =>
    constructor
    · intro hok
      cases hok
      rfl
    · rintro rfl
      rfl
  · next e h =>
    constructor
    · intro hok
      cases hok
    · rintro rfl
      rw [identity.checked] at h
      cases h

/-- A computed identity has the type and the normalized texts. -/
theorem identityOf_ok {memoryType : MemoryType} {subject predicate subjectName predicateName : PyStr}
    {identity : NormalizedIdentity nfc} :
    identityOf nfc memoryType subject predicate subjectName predicateName = .ok identity ↔
      identity.memoryType = memoryType ∧ identity.subject = collapse nfc subject ∧
        identity.predicate = collapse nfc predicate := by
  simp only [identityOf, Checks.bind_ok, normalizeIdentityText_ok, NormalizedIdentity.construct_ok]
  constructor
  · rintro ⟨_, ⟨rfl, -⟩, _, ⟨rfl, -⟩, hfields⟩
    rw [hfields]
    exact ⟨rfl, rfl, rfl⟩
  · rintro ⟨rfl, hsubject, hpredicate⟩
    have hs := identity.subject_normalized.nonempty
    have hp := identity.predicate_normalized.nonempty
    rw [← hsubject, ← hpredicate]
    exact ⟨_, ⟨rfl, hs⟩, _, ⟨rfl, hp⟩, rfl⟩

/-- An identity exists exactly when both texts have something left after normalization. -/
theorem exists_identityOf {memoryType : MemoryType}
    {subject predicate subjectName predicateName : PyStr} :
    (∃ identity, identityOf nfc memoryType subject predicate subjectName predicateName =
        .ok identity) ↔ collapse nfc subject ≠ [] ∧ collapse nfc predicate ≠ [] := by
  constructor
  · rintro ⟨identity, h⟩
    obtain ⟨-, hsubject, hpredicate⟩ := identityOf_ok.mp h
    rw [← hsubject, ← hpredicate]
    exact ⟨identity.subject_normalized.nonempty, identity.predicate_normalized.nonempty⟩
  · rintro ⟨hs, hp⟩
    have hchecked : (IdentityFields.mk memoryType (collapse nfc subject)
        (collapse nfc predicate)).postInit nfc = .ok () :=
      IdentityFields.postInit_ok.mpr ⟨⟨collapse_idem nfc subject, hs⟩,
        collapse_idem nfc predicate, hp⟩
    exact ⟨⟨_, hchecked⟩, identityOf_ok.mpr ⟨rfl, rfl, rfl⟩⟩

/-- Computing an identity fails only on a text with nothing left after normalization. -/
theorem identityOf_error {memoryType : MemoryType}
    {subject predicate subjectName predicateName : PyStr} {e : PolicyError}
    (h : identityOf nfc memoryType subject predicate subjectName predicateName = .error e) :
    e.kind = .normalization ∧ (collapse nfc subject = [] ∨ collapse nfc predicate = []) := by
  by_cases hs : collapse nfc subject = []
  · simp only [identityOf, normalizeIdentityText, hs, if_true, bind, Except.bind,
      Except.error.injEq] at h
    exact ⟨by rw [← h], Or.inl hs⟩
  · by_cases hp : collapse nfc predicate = []
    · simp only [identityOf, normalizeIdentityText, hs, hp, if_true, if_false, bind, Except.bind,
        Except.error.injEq] at h
      exact ⟨by rw [← h], Or.inr hp⟩
    · obtain ⟨identity, hok⟩ := exists_identityOf.mpr ⟨hs, hp⟩
      rw [hok] at h
      cases h

/-- What the constructor of candidate evidence establishes, for some arguments. -/
structure CandidateFields.Built (nfc : Nfc) (f : CandidateFields) (args : CandidateArgs) :
    Prop where
  /-- The subject has something left after normalization. -/
  subject : collapse nfc f.subject ≠ []
  /-- The predicate has something left after normalization. -/
  predicate : collapse nfc f.predicate ≠ []
  /-- The observation time is UTC. -/
  observedUtc : f.observedAt.utcoffset = some 0
  reason : f.correctionTargetId ≠ none → ∃ text, f.correctionReason = some text ∧ NonemptyText text
  /-- The value is printable. -/
  valueDumpable : args.value.dumpable = true
  /-- The canonical value. -/
  valueJson : f.valueJson = encode args.value
  /-- The metadata is printable. -/
  metadataDumpable : (Json.obj (args.metadata.getD [])).dumpable = true
  /-- The canonical metadata. -/
  metadataJson : f.metadataJson = encode (.obj (args.metadata.getD []))
  /-- The reserved key is not used. -/
  reserved : validationMetadataKey ∉ (args.metadata.getD []).map Prod.fst
  /-- The provenance details are printable. -/
  detailsDumpable : (Json.obj args.provenance.details).dumpable = true
  /-- The canonical provenance details. -/
  detailsJson : f.provenanceDetailsJson = encode (.obj args.provenance.details)
  provenanceType : f.provenanceType = args.provenance.provenanceType
  provenanceSourceId : f.provenanceSourceId = args.provenance.sourceId

/-- A checked correction intent has a nonempty reason. -/
theorem checkCorrectionIntent_ok {targetId : Option UUID} {reason : Option PyStr}
    (h : checkCorrectionIntent targetId reason = .ok ()) (htarget : targetId ≠ none) :
    ∃ text, reason = some text ∧ NonemptyText text := by
  cases targetId with
  | none => exact absurd rfl htarget
  | some id =>
    simp only [checkCorrectionIntent, Checks.unit_bind_ok, Checks.require_ok] at h
    obtain ⟨⟨text, htext, hne⟩, hstripped⟩ := h
    exact ⟨text, htext, hne, hstripped text htext⟩

/-- Canonical details exist exactly for printable details. -/
theorem canonicalizeDetails_ok {details : List (PyStr × Json)} {text : PyStr} :
    canonicalizeDetails details = .ok text ↔
      (Json.obj details).dumpable = true ∧ encode (.obj details) = text := by
  unfold canonicalizeDetails canonicalizeJson
  split <;> simp_all [Except.mapError]

/-- The constructor's result carries the facts of its checks. -/
theorem CandidateArgs.init_ok {args : CandidateArgs} {fields : CandidateFields}
    (h : args.init nfc = .ok fields) : fields.Built nfc args := by
  simp only [init, Checks.bind_ok, Checks.pure_ok, Checks.require_ok, normalizeIdentityText_ok,
    canonicalizeJson_ok, canonicalizeDetails_ok] at h
  obtain ⟨_, ⟨rfl, hs⟩, _, ⟨rfl, hp⟩, _, -, _, -, _, hutc, _, hreserved, _, hintent,
    _, ⟨hdetails, rfl⟩, _, ⟨hvalue, rfl⟩, _, ⟨hmetadata, rfl⟩, rfl⟩ := h
  exact ⟨hs, hp, hutc, checkCorrectionIntent_ok hintent, hvalue, rfl, hmetadata, rfl,
    hreserved, hdetails, rfl, rfl, rfl⟩

namespace CandidateEvidence

variable (c : CandidateEvidence nfc)

/-- The arguments behind candidate evidence. -/
theorem exists_args : ∃ args, c.toCandidateFields.Built nfc args := by
  obtain ⟨args, h⟩ := c.built
  exact ⟨args, CandidateArgs.init_ok h⟩

/-- The value of candidate evidence reads back and has the canonical text. -/
theorem value_ok : ∃ value, c.value = .ok value ∧ canonicalizeJson value = .ok c.valueJson := by
  obtain ⟨args, h⟩ := c.exists_args
  refine ⟨args.value.sortKeys, ?_, ?_⟩
  · rw [value, fromMemory_ok, h.valueJson, parseJson_encode h.valueDumpable]
  · exact canonicalizeJson_ok.mpr ⟨dumpable_sortKeys h.valueDumpable,
      by rw [encode_sortKeys, h.valueJson]⟩

/-- The metadata of candidate evidence reads back and has the canonical text. -/
theorem metadata_ok : ∃ entries, c.metadata = .ok entries ∧
    canonicalizeJson (.obj entries) = .ok c.metadataJson := by
  obtain ⟨args, h⟩ := c.exists_args
  refine ⟨sortedEntries (args.metadata.getD []), ?_, ?_⟩
  · rw [metadata, fromMemory_ok, h.metadataJson]
    exact parseMapping_encode _ h.metadataDumpable
  · exact canonicalizeJson_ok.mpr ⟨dumpable_sortKeys h.metadataDumpable,
      (encode_sortKeys _).trans h.metadataJson.symm⟩

/-- The provenance of candidate evidence reads back with its type, its source and details of the
canonical text. -/
theorem provenance_ok : ∃ provenance, c.provenance = .ok provenance ∧
    provenance.provenanceType = c.provenanceType ∧ provenance.sourceId = c.provenanceSourceId ∧
      canonicalizeJson (.obj provenance.details) = .ok c.provenanceDetailsJson := by
  obtain ⟨args, h⟩ := c.exists_args
  refine ⟨args.provenance.sortDetails, ?_, h.provenanceType.symm, h.provenanceSourceId.symm, ?_⟩
  · simp only [provenance, Checks.bind_ok, fromMemory_ok, h.detailsJson]
    refine ⟨_, parseMapping_encode _ h.detailsDumpable, ?_⟩
    exact Provenance.construct_ok.mpr
      ⟨h.provenanceType.symm, h.provenanceSourceId.symm, rfl⟩
  · exact canonicalizeJson_ok.mpr ⟨dumpable_sortKeys h.detailsDumpable,
      (encode_sortKeys _).trans h.detailsJson.symm⟩

/-- Candidate evidence has a normalized identity. -/
theorem identity_ok : ∃ identity, c.identity = .ok identity := by
  obtain ⟨args, h⟩ := c.exists_args
  exact exists_identityOf.mpr ⟨h.subject, h.predicate⟩

end CandidateEvidence

/-- The constructor returns exactly the normalized candidate with the given fields. -/
theorem NormalizedCandidate.construct_ok {fields : NormalizedFields nfc}
    {normalized : NormalizedCandidate nfc} :
    NormalizedCandidate.construct fields = .ok normalized ↔
      normalized.toNormalizedFields = fields := by
  unfold NormalizedCandidate.construct
  split
  · next h =>
    constructor
    · intro hok
      cases hok
      rfl
    · rintro rfl
      rfl
  · next e h =>
    constructor
    · intro hok
      cases hok
    · rintro rfl
      rw [normalized.checked] at h
      cases h

/-- The checks of a normalized candidate tie it to its evidence. -/
theorem NormalizedFields.postInit_ok {f : NormalizedFields nfc} :
    f.postInit = .ok () ↔ f.candidate.identity = .ok f.identity ∧
      f.canonicalValue = f.candidate.valueJson := by
  simp only [postInit, Checks.bind_ok, Checks.require_ok]
  constructor
  · rintro ⟨identity, hidentity, _, rfl, hvalue⟩
    exact ⟨hidentity, hvalue⟩
  · rintro ⟨hidentity, hvalue⟩
    exact ⟨_, hidentity, (), rfl, hvalue⟩

/-- Normalization returns the candidate with its identity and canonical value. -/
theorem normalize_ok {c : CandidateEvidence nfc} {normalized : NormalizedCandidate nfc} :
    normalize c = .ok normalized ↔ normalized.candidate = c ∧
      c.identity = .ok normalized.identity ∧ normalized.canonicalValue = c.valueJson := by
  simp only [normalize, Checks.bind_ok, NormalizedCandidate.construct_ok]
  constructor
  · rintro ⟨identity, hidentity, hfields⟩
    rw [hfields]
    exact ⟨rfl, hidentity, rfl⟩
  · rintro ⟨rfl, hidentity, hvalue⟩
    exact ⟨_, hidentity, by rw [← hvalue]⟩

/-- Candidate evidence can always be normalized. -/
theorem exists_normalize (c : CandidateEvidence nfc) : ∃ normalized, normalize c = .ok normalized := by
  obtain ⟨identity, hidentity⟩ := c.identity_ok
  have hchecked : (NormalizedFields.mk c identity c.valueJson).postInit = .ok () :=
    NormalizedFields.postInit_ok.mpr ⟨hidentity, rfl⟩
  exact ⟨⟨_, hchecked⟩, normalize_ok.mpr ⟨rfl, hidentity, rfl⟩⟩

/-- The constructor returns exactly the decision with the given fields. -/
theorem ValidationDecision.construct_ok {fields : DecisionFields nfc} {d : ValidationDecision nfc} :
    ValidationDecision.construct fields = .ok d ↔ d.toDecisionFields = fields := by
  unfold ValidationDecision.construct
  split
  · next h =>
    constructor
    · intro hok
      cases hok
      rfl
    · rintro rfl
      rfl
  · next e h =>
    constructor
    · intro hok
      cases hok
    · rintro rfl
      rw [d.checked] at h
      cases h

/-- Sorting sorted identifiers changes nothing. -/
theorem sortedIds_idem (values : List UUID) : sortedIds (sortedIds values) = sortedIds values := by
  have hnodup : (sortedIds values).Nodup :=
    (List.perm_insertionSort _ _).nodup_iff.mpr (List.nodup_dedup values)
  have hsorted := List.pairwise_insertionSort (· ≤ ·) values.dedup
  conv_lhs => rw [sortedIds, hnodup.dedup]
  exact hsorted.insertionSort_eq

/-- Sorted identifiers are the given ones. -/
@[simp] theorem mem_sortedIds {values : List UUID} {id : UUID} : id ∈ sortedIds values ↔ id ∈ values := by
  rw [sortedIds, (List.perm_insertionSort _ _).mem_iff, List.mem_dedup]

/-- Only an empty list sorts to an empty list. -/
theorem sortedIds_eq_nil {values : List UUID} : sortedIds values = [] ↔ values = [] := by
  simp only [List.eq_nil_iff_forall_not_mem, mem_sortedIds]

/-- The arguments of the policy's decision constructor. -/
structure DecisionArgs (nfc : Nfc) where
  normalized : NormalizedCandidate nfc
  decisionType : DecisionType
  reason : DecisionReason
  relevantIds : List UUID
  conflictIds : List UUID
  /-- `persistence_permitted`. -/
  permitted : Bool
  counts : DecisionCounts

/-- The candidate corrects some memory. -/
def NormalizedCandidate.Corrects (normalized : NormalizedCandidate nfc) : Prop :=
  normalized.candidate.correctionTargetId ≠ none

/-- The conditions that the constructor of a decision checks. -/
structure DecisionArgs.Admissible (a : DecisionArgs nfc) : Prop where
  /-- The reason belongs to the type. -/
  reasonOfType : a.reason ∈ decisionReasons a.decisionType
  /-- Mutating decisions permit persistence. -/
  mutating : a.decisionType ∈ [.acceptNew, .applyCorrection] → a.permitted = true
  /-- Decisions without a mutation do not. -/
  nonMutating : a.decisionType ∈ [.exactDuplicate, .reject] → a.permitted = false
  /-- A conflict permits persistence for a different value. -/
  review : a.decisionType = .conflictReview →
    a.permitted = decide (a.reason = .differentActiveValue)
  /-- The relevant identifiers are unique and sorted. -/
  relevantSorted : a.relevantIds = sortedIds a.relevantIds
  /-- The conflict identifiers are unique and sorted. -/
  conflictsSorted : a.conflictIds = sortedIds a.conflictIds
  /-- Correction reasons need a correction. -/
  reasonCorrects : a.reason ∈ correctionOnlyReasons → a.normalized.Corrects
  /-- Correction types need a correction. -/
  typeCorrects : a.decisionType ∈ [.applyCorrection, .reject] → a.normalized.Corrects
  /-- New evidence corrects and references nothing. -/
  newEvidence : a.decisionType = .acceptNew →
    a.normalized.candidate.correctionTargetId = none ∧ a.relevantIds = [] ∧ a.conflictIds = []
  /-- Duplicates and conflicts reference some memory. -/
  references : a.decisionType ∈ [.exactDuplicate, .conflictReview] → a.relevantIds ≠ []
  /-- A correction is only reviewed for its spelling. -/
  reviewReason : a.decisionType = .conflictReview → a.normalized.Corrects →
    a.reason = .canonicalIdentityVariantRequiresReview
  /-- An applied correction has authority. -/
  authority : a.decisionType = .applyCorrection →
    a.normalized.candidate.provenanceType ∈ correctionAuthorityTypes
  /-- A correction references its target, unless it is missing. -/
  target : ∀ id, a.normalized.candidate.correctionTargetId = some id →
    a.reason ≠ .correctionTargetNotFound → id ∈ a.relevantIds
  /-- No count exceeds the active count. -/
  counts_le : a.counts.exact ≤ a.counts.active ∧ a.counts.variant ≤ a.counts.active
  /-- New evidence has no active memory. -/
  newCount : a.decisionType = .acceptNew → a.counts.active = 0
  /-- A duplicate has an exact match. -/
  duplicateCount : a.decisionType = .exactDuplicate → a.counts.exact ≠ 0
  /-- A conflict or correction has an active memory. -/
  activeCount : a.decisionType ∈ [.conflictReview, .applyCorrection] → a.counts.active ≠ 0
  /-- Conflicts need two active and two relevant memories. -/
  conflictCount : a.conflictIds ≠ [] → 2 ≤ a.counts.active ∧ 2 ≤ a.relevantIds.length
  duplicateConflict : a.reason = .exactValueActiveWithConflicts → a.conflictIds ≠ []

/-- The decision of the arguments. -/
def DecisionArgs.run (a : DecisionArgs nfc) : Except PolicyError (ValidationDecision nfc) :=
  decision a.normalized a.decisionType a.reason a.relevantIds a.conflictIds a.permitted a.counts

/-- The fields of the decision of the arguments. -/
def DecisionArgs.fields (a : DecisionArgs nfc) : DecisionFields nfc where
  decisionType := a.decisionType
  reasonCode := a.reason
  normalizedIdentity := a.normalized.identity
  candidate := a.normalized.candidate
  relevantMemoryIds := a.relevantIds
  conflictIds := a.conflictIds
  persistencePermitted := a.permitted
  explanatoryMetadata := decisionMetadata a.normalized a.counts

/-- A decision has the given fields. -/
theorem DecisionArgs.run_ok {a : DecisionArgs nfc} {d : ValidationDecision nfc} :
    a.run = .ok d ↔ d.toDecisionFields = a.fields :=
  ValidationDecision.construct_ok

/-- The metadata that the policy writes agrees with the schema exactly when the counts fit the
type and the reason. -/
theorem DecisionArgs.validateExplanatoryMetadata_ok (a : DecisionArgs nfc) :
    a.fields.validateExplanatoryMetadata = .ok () ↔
      (a.counts.exact ≤ a.counts.active ∧ a.counts.variant ≤ a.counts.active) ∧
        (a.decisionType = .acceptNew → a.counts.active = 0) ∧
        (a.decisionType = .exactDuplicate → a.counts.exact ≠ 0) ∧
        (a.decisionType ∈ [.conflictReview, .applyCorrection] → a.counts.active ≠ 0) ∧
        (a.conflictIds ≠ [] → 2 ≤ a.counts.active ∧ 2 ≤ a.relevantIds.length) ∧
        (a.reason = .exactValueActiveWithConflicts → a.conflictIds ≠ []) := by
  have hactive : a.fields.countAt (py "active_memory_count") = .ok a.counts.active := rfl
  have hexact : a.fields.countAt (py "exact_duplicate_count") = .ok a.counts.exact := rfl
  have hvariant : a.fields.countAt (py "storage_identity_variant_count") =
      .ok a.counts.variant := rfl
  have hversion : a.fields.metadataAt (py "policy_version") = some (.int policyVersion) := rfl
  have hrequested : a.fields.metadataAt (py "correction_requested") =
      some (.bool (decide (a.fields.candidate.correctionTargetId ≠ none))) := rfl
  have hnormalized : a.fields.metadataAt (py "identity_was_normalized") =
      some (.bool (decide (a.fields.candidate.subject ≠ a.fields.normalizedIdentity.subject ∨
        a.fields.candidate.predicate ≠ a.fields.normalizedIdentity.predicate))) := rfl
  have hkeys : a.fields.explanatoryMetadata.map Prod.fst = decisionMetadataKeys := rfl
  simp only [DecisionFields.validateExplanatoryMetadata, hkeys, hactive, hexact, hvariant,
    hversion, hrequested, hnormalized, Checks.bind_ok, Except.ok.injEq, exists_eq_left',
    Checks.require_ok, List.Subset.refl, and_self, true_and, exists_const]
  rfl

/-- The shape check of the policy's decisions. -/
theorem DecisionArgs.validateDecisionShape_ok (a : DecisionArgs nfc) :
    a.fields.validateDecisionShape = .ok () ↔
      (a.reason ∈ correctionOnlyReasons → a.normalized.Corrects) ∧
        (a.decisionType ∈ [.applyCorrection, .reject] → a.normalized.Corrects) ∧
        (a.decisionType = .acceptNew →
          a.normalized.candidate.correctionTargetId = none ∧ a.relevantIds = [] ∧
            a.conflictIds = []) ∧
        (a.decisionType = .exactDuplicate → a.relevantIds ≠ []) ∧
        (a.decisionType = .conflictReview → a.relevantIds ≠ [] ∧
          (a.normalized.Corrects → a.reason = .canonicalIdentityVariantRequiresReview)) ∧
        (a.decisionType = .applyCorrection → a.fields.TargetRelevant ∧
          a.normalized.candidate.provenanceType ∈ correctionAuthorityTypes) ∧
        (a.normalized.Corrects → a.reason ≠ .correctionTargetNotFound →
          a.fields.TargetRelevant) := by
  obtain ⟨provenance, hprovenance, htype, -⟩ := a.normalized.candidate.provenance_ok
  have hread : a.fields.candidate.provenance = .ok provenance := hprovenance
  simp only [DecisionFields.validateDecisionShape, Checks.unit_bind_ok, Checks.requireWhen_ok,
    Checks.require_ok, hread, Checks.ok_bind, htype]
  rfl

/-- The policy's decision constructor accepts exactly admissible arguments. -/
theorem DecisionArgs.exists_run (a : DecisionArgs nfc) :
    (∃ d, a.run = .ok d) ↔ a.Admissible := by
  have hidentity : a.fields.candidate.identity = .ok a.fields.normalizedIdentity :=
    (NormalizedFields.postInit_ok.mp a.normalized.checked).1
  have hpermission : a.fields.checkPermission = .ok () ↔
      (a.decisionType ∈ [.acceptNew, .applyCorrection] → a.permitted = true) ∧
        (a.decisionType ∈ [.exactDuplicate, .reject] → a.permitted = false) ∧
        (a.decisionType = .conflictReview →
          a.permitted = decide (a.reason = .differentActiveValue)) := by
    simp only [DecisionFields.checkPermission, Checks.unit_bind_ok, Checks.require_ok]
    rfl
  have hentries : a.fields.explanatoryMetadata.forM DecisionFields.checkMetadataEntry = .ok () :=
    rfl
  have hkeys : (a.fields.explanatoryMetadata.map Prod.fst).Pairwise (· ≤ ·) ∧
      (a.fields.explanatoryMetadata.map Prod.fst).Nodup := by
    have hlist : a.fields.explanatoryMetadata.map Prod.fst = decisionMetadataKeys := rfl
    rw [hlist]
    decide
  have hpost : (∃ d, a.run = .ok d) ↔ a.fields.postInit = .ok () := by
    constructor
    · rintro ⟨d, hd⟩
      rw [← DecisionArgs.run_ok.mp hd]
      exact d.checked
    · intro h
      exact ⟨⟨a.fields, h⟩, DecisionArgs.run_ok.mpr rfl⟩
  rw [hpost]
  simp only [DecisionFields.postInit, hidentity, Checks.ok_bind, Checks.unit_bind_ok,
    Checks.require_ok, hpermission, DecisionFields.validateUuidTuple,
    a.validateDecisionShape_ok, hentries, hkeys, a.validateExplanatoryMetadata_ok]
  have htarget : a.fields.TargetRelevant ↔
      ∃ id, a.normalized.candidate.correctionTargetId = some id ∧ id ∈ a.relevantIds := Iff.rfl
  constructor
  · rintro ⟨-, hreason, ⟨hm, hn, hr⟩, hrs, hcs, ⟨h1, h2, h3, h4, h5, h6, h7⟩, -, h8, h9, h10,
      h11, h12, h13⟩
    refine ⟨hreason, hm, hn, hr, hrs, hcs, h1, h2, h3, ?_, fun h => (h5 h).2, fun h => (h6 h).2,
      ?_, h8, h9, h10, h11, h12, h13⟩
    · intro h
      rcases List.mem_pair.mp h with h | h
      · exact h4 h
      · exact (h5 h).1
    · intro id hid hfound
      obtain ⟨other, hother, hmem⟩ := htarget.mp (h7 (by simp [NormalizedCandidate.Corrects, hid]) hfound)
      rw [hid, Option.some.injEq] at hother
      rwa [hother]
  · intro h
    have hrelevant : a.normalized.Corrects → a.reason ≠ .correctionTargetNotFound →
        a.fields.TargetRelevant := by
      intro hcorrects hfound
      obtain ⟨id, hid⟩ := Option.ne_none_iff_exists'.mp hcorrects
      exact htarget.mpr ⟨id, hid, h.target id hid hfound⟩
    refine ⟨trivial, h.reasonOfType, ⟨h.mutating, h.nonMutating, h.review⟩, h.relevantSorted,
      h.conflictsSorted, ⟨h.reasonCorrects, h.typeCorrects, h.newEvidence,
        fun htype => h.references (by rw [htype]; decide), fun htype =>
          ⟨h.references (by rw [htype]; decide), h.reviewReason htype⟩, fun htype => ⟨?_,
            h.authority htype⟩, hrelevant⟩, ⟨trivial, trivial⟩, h.counts_le, h.newCount,
      h.duplicateCount, h.activeCount, h.conflictCount, h.duplicateConflict⟩
    have hreason := h.reasonOfType
    rw [htype] at hreason
    refine hrelevant (h.typeCorrects (by rw [htype]; decide)) ?_
    rw [List.mem_singleton.mp hreason]
    decide

end Validation
end AyyoHumanoid
