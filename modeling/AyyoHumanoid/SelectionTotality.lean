import AyyoHumanoid.SelectionCandidates

/-!
# Where selection can raise

Every candidate can be measured. Preparing a candidate raises in two cases only:
a text of the candidate holds a surrogate, or the semantic kind of a staged
direct observation is a list or a dictionary.
-/

namespace AyyoHumanoid
namespace Consolidation

open PyText JsonText Memory Validation

section Measures

variable {nfc : Nfc}

/-- The error that measuring may raise is caught. -/
def Caught (e : SelectionError) : Prop := e.kind = .candidateSelection

/-- A check raises its own error. -/
theorem raisesOnly_require {condition : Prop} [Decidable condition] (message : PyStr) :
    RaisesOnly Caught (require condition (selectionError message)) := by
  intro e he
  obtain ⟨-, rfl⟩ := Checks.require_error.mp he
  rfl

/-- Measuring one value raises caught errors only. -/
theorem raisesOnly_measureValue (value : Json) : RaisesOnly Caught (measureValue value) := by
  cases value with
  | null => exact .of_ok rfl
  | bool value => exact .of_ok rfl
  | float token => exact .of_ok rfl
  | int value => exact (raisesOnly_require _).bind fun _ _ => .of_ok rfl
  | str text => exact (raisesOnly_require _).bind fun _ _ => .of_ok rfl
  | arr items => exact (raisesOnly_require _).bind fun _ _ => .of_ok rfl
  | obj entries =>
    exact (raisesOnly_require _).bind fun _ _ => (raisesOnly_require _).bind fun _ _ => .of_ok rfl

/-- The measuring loop raises caught errors only. -/
theorem raisesOnly_measureLoop (nodes text : Nat) (visits : List (Json × Nat)) :
    RaisesOnly Caught (measureLoop nodes text visits) := by
  induction visits generalizing nodes text with
  | nil => exact .of_ok rfl
  | cons visit rest ih =>
    exact (raisesOnly_require _).bind fun _ _ =>
      (raisesOnly_measureValue _).bind fun own _ => ih _ _

/-- Measuring a printable value raises caught errors only. -/
theorem raisesOnly_jsonMeasure {value : Json} (h : value.dumpable = true) :
    RaisesOnly Caught (jsonMeasure value) := by
  refine (raisesOnly_measureLoop _ _ _).bind fun counts _ => ?_
  have hcanonical : fromPolicy (Validation.canonicalizeJson value) = .ok (encode value) :=
    fromPolicy_ok.mpr (canonicalizeJson_ok.mpr ⟨h, rfl⟩)
  rw [hcanonical]
  exact .of_ok rfl

/-- Measuring printable values raises caught errors only. -/
theorem raisesOnly_mapM {values : List Json} (h : ∀ value ∈ values, value.dumpable = true) :
    RaisesOnly Caught (values.mapM jsonMeasure) := by
  induction values with
  | nil => exact .of_ok rfl
  | cons value values ih =>
    obtain ⟨hvalue, hvalues⟩ := List.forall_mem_cons.mp h
    rw [List.mapM_cons]
    exact (raisesOnly_jsonMeasure hvalue).bind fun _ _ => (ih hvalues).bind fun _ _ => .of_ok rfl

/-- What raises caught errors only is measured. -/
theorem measured_total {α : Type} {x : Except SelectionError α} (h : RaisesOnly Caught x) :
    ∃ measurements, measured x = .ok measurements := by
  rcases h.cases with ⟨a, rfl⟩ | ⟨e, rfl, hkind⟩
  · exact ⟨some a, rfl⟩
  · obtain ⟨kind, message⟩ := e
    cases hkind
    exact ⟨none, rfl⟩

/-- The bounds of every candidate are decided. -/
theorem candidateWithinBounds_total (c : CandidateEvidence nfc) :
    ∃ result, candidateWithinBounds c = .ok result := by
  obtain ⟨provenance, metadata, value, h⟩ := exists_reads c
  have hdump : ∀ v ∈ [value, .obj metadata, .obj provenance.details], v.dumpable = true := by
    simp only [List.forall_mem_cons]
    exact ⟨(canonicalizeJson_ok.mp h.valueText).1, (canonicalizeJson_ok.mp h.metadataText).1,
      (canonicalizeJson_ok.mp h.details).1, List.forall_mem_nil _⟩
  obtain ⟨measurements, hmeasured⟩ := measured_total (raisesOnly_mapM hdump)
  have hread : ∀ {α : Type} (a : α), fromPolicy (.ok a) = .ok a := fun _ => rfl
  rw [candidateWithinBounds, h.provenance_eq, h.metadata_eq, h.value_eq]
  simp only [hread, Checks.ok_bind, hmeasured]
  split_ifs
  · exact ⟨_, rfl⟩
  · exact ⟨_, rfl⟩
  · exact ⟨_, rfl⟩
  · cases measurements with
    | none => exact ⟨_, rfl⟩
    | some measurements => exact ⟨_, rfl⟩

end Measures

section Preparation

variable {nfc : Nfc} {p : Platform}

/-- A list or a dictionary, which no set can look up. -/
def Unhashable : Json → Prop
  | .arr _ => True
  | .obj _ => True
  | _ => False

/-- The bounds hold and no check before the semantic kind decides the outcome of the direct
observation, whose semantic kind is a list or a dictionary. -/
structure KindUnhashable (item : CandidateReviewItem nfc) : Prop where
  bounded : ∃ characters, candidateWithinBounds item.candidate = .ok (true, characters)
  supported : item.candidate.memoryType ∈ supportedMemoryTypes
  /-- It is no correction. -/
  uncorrected : item.candidate.correctionTargetId = none ∧ item.candidate.correctionReason = none
  direct : item.candidate.provenanceType = .directObservation
  /-- It was staged exactly, with a kind that cannot be hashed. -/
  kind : ∃ provenance, item.candidate.provenance = .ok provenance ∧
    hasExactStagingEligibility item provenance.details = true ∧
    ∃ kind ∈ provenance.details.lookup (py "semantic_evidence_kind"), Unhashable kind

/-- The name of a candidate exists exactly when its texts can be encoded. -/
theorem candidateIdentity_total {c : CandidateEvidence nfc} :
    (∃ id, candidateIdentity p c = .ok id) ↔ Encodable c := by
  obtain ⟨provenance, metadata, value, h⟩ := exists_reads c
  rw [← h.utf8Encodable_iff, candidateIdentity, h.candidateText_eq]
  simp only [Checks.ok_bind, Checks.unit_bind_ok, Checks.require_ok, Checks.pure_ok]
  constructor
  · rintro ⟨_, hutf8, -⟩
    exact hutf8
  · intro hutf8
    exact ⟨_, hutf8, rfl⟩

/-- The claim of a direct observation is decided unless its kind cannot be hashed. -/
theorem semanticClaim_total {c : CandidateEvidence nfc} {provenance : Provenance} {value : Json} :
    (∃ bounded, anonymousSemanticClaimIsBounded c provenance value = .ok bounded) ↔
      ¬∃ kind ∈ provenance.details.lookup (py "semantic_evidence_kind"), Unhashable kind := by
  rw [anonymousSemanticClaimIsBounded]
  cases hkind : provenance.details.lookup (py "semantic_evidence_kind") with
  | none => simp
  | some kind => cases kind <;> simp [Unhashable]

/-- The outcome of an item is decided unless its kind is asked for and cannot be hashed. -/
theorem baseOutcome_total {item : CandidateReviewItem nfc} {withinBounds : Bool} {characters : Nat}
    (hbounds : candidateWithinBounds item.candidate = .ok (withinBounds, characters)) :
    (∃ outcome, baseOutcome item withinBounds = .ok outcome) ↔ ¬KindUnhashable item := by
  obtain ⟨provenance, metadata, value, h⟩ := exists_reads item.candidate
  have hread : ∀ {α : Type} (a : α), fromPolicy (.ok a) = .ok a := fun _ => rfl
  rw [baseOutcome, h.provenance_eq, h.value_eq]
  simp only [hread, Checks.ok_bind, h.provenanceType]
  by_cases hwithin : withinBounds = false
  · rw [if_pos hwithin]
    refine iff_of_true ⟨_, rfl⟩ fun hkind => ?_
    obtain ⟨_, hbounded⟩ := hkind.bounded
    rw [hbounds, hwithin] at hbounded
    cases hbounded
  rw [if_neg hwithin]
  by_cases hsupported : item.candidate.memoryType ∈ supportedMemoryTypes
  swap
  · rw [if_pos hsupported]
    exact iff_of_true ⟨_, rfl⟩ fun hkind => hsupported hkind.supported
  rw [if_neg (not_not.mpr hsupported)]
  by_cases hcorrected : item.candidate.correctionTargetId ≠ none ∨
      item.candidate.correctionReason ≠ none
  · rw [if_pos hcorrected]
    refine iff_of_true ⟨_, rfl⟩ fun hkind => ?_
    exact hcorrected.elim (fun hne => hne hkind.uncorrected.1) fun hne => hne hkind.uncorrected.2
  rw [if_neg hcorrected]
  by_cases hdirect : item.candidate.provenanceType = .directObservation
  swap
  · rw [if_neg hdirect]
    exact iff_of_true ⟨_, rfl⟩ fun hkind => hdirect hkind.direct
  rw [if_pos hdirect, directOutcome]
  by_cases hstaged : hasExactStagingEligibility item provenance.details = true
  swap
  · rw [if_neg hstaged]
    refine iff_of_true ⟨_, rfl⟩ fun hkind => ?_
    obtain ⟨other, hother, hexact, -⟩ := hkind.kind
    rw [h.provenance_eq] at hother
    exact hstaged (Except.ok.inj hother ▸ hexact)
  rw [if_pos hstaged]
  have hclaim : (∃ bounded,
      anonymousSemanticClaimIsBounded item.candidate provenance value = .ok bounded) ↔
        ¬KindUnhashable item := by
    rw [semanticClaim_total, not_iff_not]
    constructor
    · intro hkind
      push Not at hcorrected
      exact ⟨⟨characters, by rw [hbounds, Bool.eq_true_of_not_eq_false hwithin]⟩, hsupported,
        hcorrected, hdirect, provenance, h.provenance_eq, hstaged, hkind⟩
    · intro hkind
      obtain ⟨other, hother, -, hfound⟩ := hkind.kind
      rw [h.provenance_eq] at hother
      rw [Except.ok.inj hother]
      exact hfound
  rw [← hclaim]
  cases hbounded : anonymousSemanticClaimIsBounded item.candidate provenance value with
  | error e => simp [bind, Except.bind]
  | ok bounded => exact iff_of_true ⟨_, rfl⟩ ⟨_, rfl⟩

/-- An item can be prepared exactly when its candidate can be named and its kind can be hashed. -/
theorem prepare_total {item : CandidateReviewItem nfc} :
    (∃ prepared, prepare p item = .ok prepared) ↔
      Encodable item.candidate ∧ ¬KindUnhashable item := by
  obtain ⟨⟨withinBounds, characters⟩, hbounds⟩ := candidateWithinBounds_total item.candidate
  rw [← candidateIdentity_total (p := p), ← baseOutcome_total hbounds]
  simp only [prepare, Checks.bind_ok, Checks.pure_ok, hbounds, Except.ok.injEq, exists_eq_left']
  constructor
  · rintro ⟨_, id, hid, outcome, houtcome, -⟩
    exact ⟨⟨id, hid⟩, outcome, houtcome⟩
  · rintro ⟨⟨id, hid⟩, outcome, houtcome⟩
    exact ⟨_, id, hid, outcome, houtcome, rfl⟩

end Preparation

end Consolidation
end AyyoHumanoid
