import AyyoHumanoid.SelectionSettling
import Mathlib.Data.Finset.Card

/-!
# Decisions of settled batches

A unique candidate is settled by its rivals, the other candidates of its
identity: with a rival it is not selected. The decision of a batch lists the
settled candidates, and every batch whose items can be prepared has one.
-/

namespace AyyoHumanoid
namespace Consolidation

open PyText JsonText PyCollections Memory Validation

section Settled

variable {nfc : Nfc}

/-- The normalized identity of a candidate, which always exists. -/
def identityKey (candidate : CandidateEvidence nfc) : SelectionIdentity :=
  (candidate.memoryType.value, collapse nfc candidate.subject, collapse nfc candidate.predicate)

/-- Every candidate has its normalized identity. -/
theorem selectionIdentity_ok (candidate : CandidateEvidence nfc) :
    selectionIdentity candidate = .ok (identityKey candidate) := by
  obtain ⟨args, h⟩ := candidate.exists_args
  have hsubject : normalizeIdentityText nfc candidate.subject (py "subject") = .ok _ :=
    normalizeIdentityText_ok.mpr ⟨rfl, h.subject⟩
  have hpredicate : normalizeIdentityText nfc candidate.predicate (py "predicate") = .ok _ :=
    normalizeIdentityText_ok.mpr ⟨rfl, h.predicate⟩
  rw [selectionIdentity, hsubject, hpredicate]
  rfl

/-- More than one value of a list without repetition means two different values. -/
theorem one_lt_length_iff {α : Type} [DecidableEq α] {values : List α} (h : values.Nodup) :
    1 < values.length ↔ ∃ a ∈ values, ∃ b ∈ values, a ≠ b := by
  rw [← List.toFinset_card_of_nodup h, Finset.one_lt_card]
  simp only [List.mem_toFinset]

/-- Another candidate of the batch has the same identity. -/
def HasRival (unique : List (PreparedCandidate nfc)) (u : PreparedCandidate nfc) : Prop :=
  ∃ v ∈ unique, v ≠ u ∧ identityKey v.candidate = identityKey u.candidate

/-- The candidates with their identities. -/
def identified (unique : List (PreparedCandidate nfc)) : List (Identified nfc) :=
  unique.map fun u => (identityKey u.candidate, u)

/-- The candidates after both deferrals. -/
def settle (unique : List (PreparedCandidate nfc)) : List (PreparedCandidate nfc) :=
  (deferConflicting (deferRepeated (identified unique))).map Prod.snd

/-- A candidate after the deferral of repeated propositions. -/
def afterRepeated (unique : List (PreparedCandidate nfc)) (u : PreparedCandidate nfc) :
    PreparedCandidate nfc :=
  if 1 < ((identified unique).filter fun other => other.1 = identityKey u.candidate ∧
      other.2.candidate.valueJson = u.candidate.valueJson).length then
    u.deferUnlessRejected .duplicateProposition
  else u

/-- A candidate after the deferral of conflicting values too. -/
def afterConflicts (unique : List (PreparedCandidate nfc)) (u : PreparedCandidate nfc) :
    PreparedCandidate nfc :=
  if 1 < (((identified unique).filter fun other => other.1 = identityKey u.candidate).map
      fun other => other.2.candidate.valueJson).dedup.length then
    (afterRepeated unique u).deferUnlessRejected .conflictingCandidate
  else afterRepeated unique u

/-- The first deferral keeps the candidates. -/
theorem afterRepeated_candidate (unique : List (PreparedCandidate nfc)) (u : PreparedCandidate nfc) :
    (afterRepeated unique u).candidate = u.candidate := by
  rw [afterRepeated]
  split <;> rfl

/-- The first deferral works on each candidate. -/
theorem deferRepeated_identified (unique : List (PreparedCandidate nfc)) :
    deferRepeated (identified unique) =
      unique.map fun u => (identityKey u.candidate, afterRepeated unique u) := by
  rw [deferRepeated]
  conv_lhs => rw [identified, List.map_map]
  refine List.map_congr_left fun u _ => ?_
  rw [afterRepeated, apply_ite (Prod.mk (identityKey u.candidate))]
  rfl

/-- Both deferrals work on each candidate. -/
theorem settle_eq (unique : List (PreparedCandidate nfc)) :
    settle unique = unique.map (afterConflicts unique) := by
  rw [settle, deferRepeated_identified, deferConflicting, List.map_map, List.map_map]
  refine List.map_congr_left fun u _ => ?_
  have hvalues : ((unique.map fun v => (identityKey v.candidate, afterRepeated unique v)).filter
        fun other => other.1 = identityKey u.candidate).map
          (fun other => other.2.candidate.valueJson) =
      ((identified unique).filter fun other => other.1 = identityKey u.candidate).map
        fun other => other.2.candidate.valueJson := by
    rw [identified, List.filter_map, List.filter_map, List.map_map, List.map_map]
    refine List.map_congr_left fun v _ => ?_
    simp only [Function.comp_apply, afterRepeated_candidate]
  simp only [Function.comp_apply, hvalues]
  rw [afterConflicts]
  split <;> rfl

/-- Settling keeps name, candidate and count. -/
theorem afterConflicts_kept (unique : List (PreparedCandidate nfc)) (u : PreparedCandidate nfc) :
    (afterConflicts unique u).candidateId = u.candidateId ∧
      (afterConflicts unique u).candidate = u.candidate ∧
        (afterConflicts unique u).occurrenceCount = u.occurrenceCount := by
  rw [afterConflicts, afterRepeated]
  split <;> split <;> exact ⟨rfl, rfl, rfl⟩

/-- A settled candidate is well formed. -/
theorem WellFormed.settled {u : PreparedCandidate nfc} (h : WellFormed u)
    (unique : List (PreparedCandidate nfc)) : WellFormed (afterConflicts unique u) := by
  have hrepeated : WellFormed (afterRepeated unique u) := by
    rw [afterRepeated]
    split
    · exact h.deferUnlessRejected (by decide)
    · exact h
  rw [afterConflicts]
  split
  · exact hrepeated.deferUnlessRejected (by decide)
  · exact hrepeated

/-- A deferred candidate is not selected. -/
theorem deferUnlessRejected_ne (u : PreparedCandidate nfc) (reason : CandidateSelectionReason) :
    (u.deferUnlessRejected reason).outcome ≠ .selectForReview :=
  deferredOutcome_ne u.outcome

/-- Two candidates of one identity repeat a proposition or contradict each other. -/
theorem rival_deferred {unique : List (PreparedCandidate nfc)} {u : PreparedCandidate nfc}
    (hnodup : unique.Nodup) (hu : u ∈ unique) (h : HasRival unique u) :
    (afterConflicts unique u).outcome ≠ .selectForReview := by
  obtain ⟨v, hv, hne, hidentity⟩ := h
  have hmem : ∀ w ∈ unique, (identityKey w.candidate, w) ∈ identified unique := fun w hw =>
    List.mem_map.mpr ⟨w, hw, rfl⟩
  by_cases hvalue : v.candidate.valueJson = u.candidate.valueJson
  · have hfilter : 1 < ((identified unique).filter fun other =>
        other.1 = identityKey u.candidate ∧
          other.2.candidate.valueJson = u.candidate.valueJson).length := by
      have hidentified : (identified unique).Nodup :=
        hnodup.map fun a b hab => congrArg Prod.snd hab
      refine (one_lt_length_iff (hidentified.filter _)).mpr
        ⟨_, List.mem_filter.mpr ⟨hmem v hv, ?_⟩, _, List.mem_filter.mpr ⟨hmem u hu, ?_⟩, ?_⟩
      · simp [hidentity, hvalue]
      · simp
      · exact fun heq => hne (congrArg Prod.snd heq)
    have hrepeated : (afterRepeated unique u).outcome ≠ .selectForReview := by
      rw [afterRepeated, if_pos hfilter]
      exact deferUnlessRejected_ne u _
    rw [afterConflicts]
    split
    · exact deferUnlessRejected_ne _ _
    · exact hrepeated
  · have hvalues : 1 < (((identified unique).filter fun other =>
        other.1 = identityKey u.candidate).map
          fun other => other.2.candidate.valueJson).dedup.length := by
      refine (one_lt_length_iff (List.nodup_dedup _)).mpr
        ⟨v.candidate.valueJson, ?_, u.candidate.valueJson, ?_, hvalue⟩
      · rw [List.mem_dedup, List.mem_map]
        exact ⟨_, List.mem_filter.mpr ⟨hmem v hv, by simp [hidentity]⟩, rfl⟩
      · rw [List.mem_dedup, List.mem_map]
        exact ⟨_, List.mem_filter.mpr ⟨hmem u hu, by simp⟩, rfl⟩
    rw [afterConflicts, if_pos hvalues]
    exact deferUnlessRejected_ne _ _

/-- A candidate without a rival stays as it is. -/
theorem settled_alone {unique : List (PreparedCandidate nfc)} {u : PreparedCandidate nfc}
    (hnodup : unique.Nodup) (h : ¬HasRival unique u) : afterConflicts unique u = u := by
  have honly : ∀ entry ∈ identified unique, entry.1 = identityKey u.candidate → entry.2 = u := by
    intro entry hentry hidentity
    obtain ⟨v, hv, rfl⟩ := List.mem_map.mp hentry
    by_contra hne
    exact h ⟨v, hv, hne, hidentity⟩
  have hrepeated : ¬1 < ((identified unique).filter fun other =>
      other.1 = identityKey u.candidate ∧
        other.2.candidate.valueJson = u.candidate.valueJson).length := by
    have hidentified : (identified unique).Nodup :=
      hnodup.map fun a b hab => congrArg Prod.snd hab
    rw [one_lt_length_iff (hidentified.filter _)]
    rintro ⟨a, ha, b, hb, hne⟩
    rw [List.mem_filter, decide_eq_true_eq] at ha hb
    exact hne (Prod.ext (ha.2.1.trans hb.2.1.symm)
      ((honly a ha.1 ha.2.1).trans (honly b hb.1 hb.2.1).symm))
  have hvalues : ¬1 < (((identified unique).filter fun other =>
      other.1 = identityKey u.candidate).map
        fun other => other.2.candidate.valueJson).dedup.length := by
    rw [one_lt_length_iff (List.nodup_dedup _)]
    rintro ⟨a, ha, b, hb, hne⟩
    rw [List.mem_dedup, List.mem_map] at ha hb
    obtain ⟨left, hleft, rfl⟩ := ha
    obtain ⟨right, hright, rfl⟩ := hb
    rw [List.mem_filter, decide_eq_true_eq] at hleft hright
    exact hne (by rw [honly left hleft.1 hleft.2, honly right hright.1 hright.2])
  rw [afterConflicts, if_neg hvalues, afterRepeated, if_neg hrepeated]

/-- A settled candidate is selected exactly when it was and has no rival. -/
theorem settled_selected {unique : List (PreparedCandidate nfc)} {u : PreparedCandidate nfc}
    (hnodup : unique.Nodup) (hu : u ∈ unique) :
    (afterConflicts unique u).outcome = .selectForReview ↔
      u.outcome = .selectForReview ∧ ¬HasRival unique u := by
  by_cases hrival : HasRival unique u
  · exact iff_of_false (rival_deferred hnodup hu hrival) fun h => h.2 hrival
  · rw [settled_alone hnodup hrival]
    exact (and_iff_left hrival).symm

end Settled

section Constructors

variable {nfc : Nfc}

/-- The constructor returns exactly the item decision with the given fields. -/
theorem CandidateSelectionItemDecision.construct_ok {fields : ItemDecisionFields nfc}
    {d : CandidateSelectionItemDecision nfc} :
    CandidateSelectionItemDecision.construct fields = .ok d ↔ d.toItemDecisionFields = fields := by
  unfold CandidateSelectionItemDecision.construct
  split
  · next h =>
    constructor
    · intro hok
      cases hok
      rfl
    · rintro rfl
      rfl
  · next e h =>
    constructor
    · intro hok
      cases hok
    · rintro rfl
      rw [d.checked] at h
      cases h

/-- The constructor returns exactly the decision with the given fields. -/
theorem CandidateSelectionDecision.construct_ok {fields : SelectionFields nfc}
    {d : CandidateSelectionDecision nfc} :
    CandidateSelectionDecision.construct fields = .ok d ↔ d.toSelectionFields = fields := by
  unfold CandidateSelectionDecision.construct
  split
  · next h =>
    constructor
    · intro hok
      cases hok
      rfl
    · rintro rfl
      rfl
  · next e h =>
    constructor
    · intro hok
      cases hok
    · rintro rfl
      rw [d.checked] at h
      cases h

/-- The fields of the decision on a settled candidate. -/
def itemFields (u : PreparedCandidate nfc) : ItemDecisionFields nfc where
  candidateId := u.candidateId
  candidate := u.candidate
  outcome := u.outcome
  reasons := orderedSelectionReasons u.reasons
  occurrenceCount := u.occurrenceCount

/-- Reasons without the one that is never given are few enough. -/
theorem length_orderedSelectionReasons {reasons : Finset CandidateSelectionReason}
    (h : .unsupportedProvenance ∉ reasons) :
    (orderedSelectionReasons reasons).length ≤ maxCandidateSelectionReasons := by
  have hsub : (orderedSelectionReasons reasons).Sublist
      (CandidateSelectionReason.ordered.filter (· ≠ .unsupportedProvenance)) := by
    refine List.monotone_filter_right _ fun reason hreason => ?_
    rw [decide_eq_true_eq] at hreason ⊢
    rintro rfl
    exact h hreason
  exact hsub.length_le.trans (by decide)

/-- Reasons of an outcome pass the check on tuples of reasons. -/
theorem checkReasons_ok {reasons : Finset CandidateSelectionReason} (hne : reasons.Nonempty)
    (habsent : .unsupportedProvenance ∉ reasons) (message : PyStr) :
    checkReasons (orderedSelectionReasons reasons) message = .ok () := by
  obtain ⟨reason, hreason⟩ := hne
  rw [checkReasons, Checks.require_ok, toFinset_orderedSelectionReasons]
  exact ⟨List.ne_nil_of_mem (mem_orderedSelectionReasons.mpr hreason),
    length_orderedSelectionReasons habsent, rfl⟩

/-- Reasons that agree with an outcome pass the check against it. -/
theorem Agrees.checkItemOutcome_ok {outcome : CandidateSelectionOutcome}
    {reasons : Finset CandidateSelectionReason} (h : Agrees outcome reasons) :
    checkItemOutcome outcome (orderedSelectionReasons reasons) = .ok () := by
  rw [checkItemOutcome]
  by_cases hselect : outcome = .selectForReview
  · rw [if_pos hselect, Checks.require_ok, h.selected hselect]
    decide
  rw [if_neg hselect, if_neg (by
    rw [mem_orderedSelectionReasons]
    exact h.ineligible hselect)]
  by_cases hdefer : outcome = .defer
  · rw [if_pos hdefer, Checks.require_ok]
    exact fun reason hreason => h.deferred hdefer reason (mem_orderedSelectionReasons.mp hreason)
  · rw [if_neg hdefer, Checks.require_ok]
    have hreject : outcome = .rejectSelection := by
      cases outcome with
      | rejectSelection => rfl
      | defer => exact absurd rfl hdefer
      | selectForReview => exact absurd rfl hselect
    obtain ⟨reason, hreason, hrejects⟩ := h.rejected hreject
    exact ⟨reason, mem_orderedSelectionReasons.mpr hreason, hrejects⟩

/-- A well formed candidate passes the checks of its decision. -/
theorem WellFormed.itemDecision_ok {u : PreparedCandidate nfc} (h : WellFormed u)
    (hcount : 1 ≤ u.occurrenceCount ∧ u.occurrenceCount ≤ maxCandidateSelectionCount) :
    ∃ d, itemDecision u = .ok d ∧ d.toItemDecisionFields = itemFields u := by
  have hchecked : (itemFields u).postInit = .ok () := by
    rw [ItemDecisionFields.postInit, Checks.unit_bind_ok, Checks.unit_bind_ok, Checks.unit_bind_ok,
      Checks.require_ok, Checks.require_ok]
    exact ⟨h.tagged, checkReasons_ok h.agrees.nonempty h.agrees.absent _, hcount,
      h.agrees.checkItemOutcome_ok⟩
  exact ⟨⟨itemFields u, hchecked⟩, CandidateSelectionItemDecision.construct_ok.mpr rfl, rfl⟩

/-- `sys.maxsize`: no Python sequence is longer. -/
def maxsize : Nat := 2 ^ 63 - 1

variable {p : Platform}

/-- A tagged digest can be encoded when its prefix can. -/
theorem Tagged.encodable {label text : PyStr} (h : Tagged label text)
    (hlabel : utf8Encodable label = true) : utf8Encodable text = true := by
  obtain ⟨hlabelled, -, hhex⟩ := h
  obtain ⟨digits, rfl⟩ := List.isPrefixOf_iff_prefix.mp hlabelled
  rw [List.drop_left] at hhex
  rw [utf8Encodable_append, hlabel, Bool.true_and, utf8Encodable, List.all_eq_true]
  intro c hc
  have hdigit := List.all_eq_true.mp hhex c hc
  simp only [isHexDigit, Bool.or_eq_true, Bool.and_eq_true, decide_eq_true_eq] at hdigit
  simp only [isSurrogate, Bool.not_eq_true', Bool.and_eq_false_iff, decide_eq_false_iff_not]
  omega

/-- The checks of an item decision bound its name and its count. -/
theorem itemDecision_checked (d : CandidateSelectionItemDecision nfc) :
    Tagged candidatePrefix d.candidateId ∧ d.occurrenceCount ≤ maxCandidateSelectionCount := by
  have hchecked := d.checked
  rw [ItemDecisionFields.postInit, Checks.unit_bind_ok, Checks.unit_bind_ok, Checks.unit_bind_ok,
    Checks.require_ok, Checks.require_ok] at hchecked
  exact ⟨hchecked.1, hchecked.2.2.1.2⟩

/-- The value of an outcome can be encoded. -/
theorem utf8Encodable_outcome (outcome : CandidateSelectionOutcome) :
    utf8Encodable outcome.value = true := by
  cases outcome <;> exact utf8Encodable_py _

/-- The value of a reason can be encoded. -/
theorem utf8Encodable_reason (reason : CandidateSelectionReason) :
    utf8Encodable reason.value = true := by
  cases reason <;> exact utf8Encodable_py _

/-- The document of an item of a selection. -/
def itemDocument (item : CandidateSelectionItemDecision nfc) : Json := .obj [
  (py "candidate_id", .str item.candidateId),
  (py "occurrence_count", .int item.occurrenceCount),
  (py "outcome", .str item.outcome.value),
  (py "reasons", .arr (item.reasons.map fun reason => .str reason.value))]

/-- The document of an item can be written and encoded. -/
theorem itemDocument_ok (item : CandidateSelectionItemDecision nfc) :
    (itemDocument item).dumpable = true ∧ utf8Encodable (encode (itemDocument item)) = true := by
  obtain ⟨htagged, hcount⟩ := itemDecision_checked item
  have hint : (Json.int item.occurrenceCount).dumpable = true := by
    refine dumpable_int ?_
    have hsmall : maxCandidateSelectionCount < 2 ^ 64 := by decide
    rw [Int.natAbs_natCast]
    omega
  constructor
  · refine dumpable_obj.mpr ⟨by simp only [List.map_cons, List.map_nil]; decide, ?_⟩
    simp [hint]
  · rw [itemDocument, utf8Encodable_obj]
    simp [htagged.encodable (utf8Encodable_py _), utf8Encodable_outcome, utf8Encodable_arr,
      utf8Encodable_reason]

/-- The document of a selection can be written and encoded. -/
theorem selectionDocument_ok (outcome : CandidateSelectionOutcome)
    (reasons : List CandidateSelectionReason) (items : List (CandidateSelectionItemDecision nfc))
    {inputCount : Nat} (h : inputCount ≤ maxsize) :
    (selectionDocument p outcome reasons items inputCount).dumpable = true ∧
      utf8Encodable (encode (selectionDocument p outcome reasons items inputCount)) = true := by
  have hint : (Json.int inputCount).dumpable = true := by
    refine dumpable_int ?_
    have hsmall : maxsize < 2 ^ 64 := by decide
    rw [Int.natAbs_natCast]
    omega
  have hversion : (Json.int candidateSelectionPolicyVersion).dumpable = true := by decide
  have hfingerprint : utf8Encodable (candidateSelectionPolicyFingerprint p) = true :=
    (tagged_digest p selectionPolicyPrefix _).encodable (utf8Encodable_py _)
  have hitems : (Json.arr (items.map itemDocument)).dumpable = true ∧
      utf8Encodable (encode (.arr (items.map itemDocument))) = true := by
    rw [dumpable_arr, utf8Encodable_arr, List.forall_mem_map, List.forall_mem_map]
    exact ⟨fun item _ => (itemDocument_ok item).1, fun item _ => (itemDocument_ok item).2⟩
  have hdocument : selectionDocument p outcome reasons items inputCount = .obj [
      (py "input_candidate_count", .int inputCount),
      (py "items", .arr (items.map itemDocument)),
      (py "outcome", .str outcome.value),
      (py "policy_fingerprint", .str (candidateSelectionPolicyFingerprint p)),
      (py "policy_id", .str candidateSelectionPolicyId),
      (py "policy_version", .int candidateSelectionPolicyVersion),
      (py "reasons", .arr (reasons.map fun reason => .str reason.value)),
      (py "schema", .str (py "ayyo.memory-candidate-selection.v1"))] := rfl
  rw [hdocument]
  constructor
  · refine dumpable_obj.mpr ⟨by simp only [List.map_cons, List.map_nil]; decide, ?_⟩
    simp only [List.forall_mem_cons]
    refine ⟨hint, hitems.1, rfl, rfl, rfl, hversion, ?_, rfl, List.forall_mem_nil _⟩
    simp
  · rw [utf8Encodable_obj]
    simp only [List.forall_mem_cons, utf8Encodable_py, utf8Encodable_int, utf8Encodable_str,
      true_and, hitems.2, utf8Encodable_outcome, hfingerprint]
    refine ⟨?_, ?_, List.forall_mem_nil _⟩
    · exact utf8Encodable_py _
    · simp [utf8Encodable_arr, utf8Encodable_reason]

/-- A selection decision exists when its items are in order and its summary is right. -/
theorem exists_selectionDecision {outcome : CandidateSelectionOutcome}
    {reasons : Finset CandidateSelectionReason} {items : List (CandidateSelectionItemDecision nfc)}
    {inputCount : Nat} (hsize : inputCount ≤ maxsize)
    (hordered : KeyOrdered (fun item => item.candidateId) items)
    (hfew : items.length ≤ maxCandidateSelectionCount) (hne : reasons.Nonempty)
    (habsent : .unsupportedProvenance ∉ reasons)
    (hsummary : ∀ fields : SelectionFields nfc, fields.items = items →
      fields.inputCandidateCount = inputCount → fields.outcome = outcome →
        fields.reasons = orderedSelectionReasons reasons → checkSummary fields = .ok ()) :
    ∃ d, selectionDecision p outcome (orderedSelectionReasons reasons) items inputCount = .ok d ∧
      d.items = items := by
  have hsorted : sortBy (fun item => item.candidateId) items = items := sortBy_eq_self hordered
  obtain ⟨hdump, hutf8⟩ := selectionDocument_ok (p := p) outcome (orderedSelectionReasons reasons)
    items hsize
  have hcanonical := canonicalizeJson_ok.mpr ⟨hdump, rfl⟩
  have hread : ∀ {α : Type} (a : α), fromPolicy (.ok a) = .ok a := fun _ => rfl
  rw [selectionDecision]
  simp only [hsorted, hcanonical, hread, Checks.ok_bind, toFinset_orderedSelectionReasons]
  simp only [Checks.unit_bind_ok, Checks.require_ok, CandidateSelectionDecision.construct_ok]
  refine ⟨⟨_, ?_⟩, ⟨hutf8, rfl⟩, rfl⟩
  simp only [SelectionFields.postInit, Checks.unit_bind_ok, Checks.require_ok]
  exact ⟨trivial, trivial, tagged_digest p _ _, tagged_digest p _ _, checkReasons_ok hne habsent _,
    ⟨hfew, hsorted.symm, hordered.nodup⟩, hsummary _ rfl rfl rfl rfl⟩

end Constructors

section Batches

variable {nfc : Nfc} {p : Platform} {xs : List (PreparedCandidate nfc)}

variable (nfc) in
/-- A batch that is rejected as a whole has a decision without items. -/
theorem exists_batchRejection {inputCount : Nat} {reason : CandidateSelectionReason}
    (hsize : inputCount ≤ maxsize)
    (hreason : reason = if inputCount = 0 then .insufficientEvidence else .resourceLimitExceeded) :
    ∃ d : CandidateSelectionDecision nfc,
      batchRejection p inputCount reason = .ok d ∧ d.items = [] := by
  have hordered : orderedSelectionReasons {reason} = [reason] := by
    rw [hreason]
    split <;> decide
  rw [batchRejection, ← hordered]
  refine exists_selectionDecision hsize List.Pairwise.nil (Nat.zero_le _)
    (Finset.singleton_nonempty reason) ?_ ?_
  · rw [Finset.mem_singleton, hreason]
    split <;> decide
  · intro fields hitems hcount houtcome hreasons
    rw [checkSummary, hitems, checkEmptySelection, Checks.unit_bind_ok, Checks.require_ok,
      Checks.require_ok, houtcome, hreasons, hordered, hcount, hreason]
    refine ⟨rfl, ?_⟩
    split <;> rfl

/-- The settled candidates of a batch. -/
def settled (xs : List (PreparedCandidate nfc)) : List (PreparedCandidate nfc) :=
  (uniqueCandidates xs).map (afterConflicts (uniqueCandidates xs))

/-- Settling keeps the names. -/
theorem map_settled (xs : List (PreparedCandidate nfc)) :
    (settled xs).map (fun u => u.candidateId) = sortedSet (xs.map fun x => x.candidateId) := by
  rw [← map_uniqueCandidates, settled, List.map_map]
  exact List.map_congr_left fun u _ => (afterConflicts_kept _ u).1

/-- The settled candidates of a batch have item decisions. -/
theorem exists_itemDecisions (hwf : ∀ x ∈ xs, WellFormed x)
    (hfew : xs.length ≤ maxCandidateSelectionCount) :
    ∃ ds, (settled xs).mapM itemDecision = .ok ds ∧
      ds.map (fun d => d.toItemDecisionFields) = (settled xs).map itemFields := by
  have hall : ∀ u ∈ settled xs, ∃ d, itemDecision u = .ok d ∧
      d.toItemDecisionFields = itemFields u := by
    intro u hu
    obtain ⟨v, hv, rfl⟩ := List.mem_map.mp hu
    obtain ⟨x, hx, hv'⟩ := mem_uniqueCandidates.mp hv
    obtain ⟨result, hresult, -, -, hcount⟩ := representative_of_mem hx
    rw [hv', Option.some.injEq] at hresult
    rw [← hresult] at hcount
    refine ((wellFormed_unique hwf v hv).settled _).itemDecision_ok ?_
    rw [(afterConflicts_kept _ v).2.2, hcount]
    have hpositive := List.length_pos_of_mem (mem_groupOf.mpr ⟨hx, rfl⟩ :
      x ∈ occurrencesOf xs x.candidateId)
    have hless : (occurrencesOf xs x.candidateId).length ≤ xs.length := List.length_filter_le _ _
    exact ⟨hpositive, hless.trans hfew⟩
  obtain ⟨ds, hds⟩ := Checks.exists_mapM_ok.mpr fun u hu =>
    (hall u hu).imp fun _ h => h.1
  refine ⟨ds, hds, Checks.map_of_mapM_ok hds itemFields fun u d hd => ?_⟩
  rw [itemDecision, CandidateSelectionItemDecision.construct_ok] at hd
  exact hd

/-- The reasons of a batch of item decisions are reasons of its outcome. -/
theorem batchReasons_ok {first : CandidateSelectionItemDecision nfc}
    {rest : List (CandidateSelectionItemDecision nfc)} {us : List (PreparedCandidate nfc)}
    (hwf : ∀ u ∈ us, WellFormed u)
    (hfields : (first :: rest).map (fun d => d.toItemDecisionFields) = us.map itemFields) :
    (batchReasons (worstOutcome first.outcome (rest.map fun d => d.outcome))
        (first :: rest)).Nonempty ∧
      .unsupportedProvenance ∉ batchReasons
        (worstOutcome first.outcome (rest.map fun d => d.outcome)) (first :: rest) := by
  have hsource : ∀ d ∈ first :: rest, ∃ u ∈ us, d.toItemDecisionFields = itemFields u := by
    intro d hd
    have hmem : d.toItemDecisionFields ∈ us.map itemFields := by
      rw [← hfields]
      exact List.mem_map_of_mem hd
    obtain ⟨u, hu, heq⟩ := List.mem_map.mp hmem
    exact ⟨u, hu, heq.symm⟩
  have hmem : ∀ outcome reason, reason ∈ batchReasons outcome (first :: rest) ↔
      (∃ d ∈ first :: rest, reason ∈ d.reasons) ∧
        (outcome = .selectForReview ∨ reason ≠ .eligibleForReview) := by
    intro outcome reason
    rw [batchReasons, List.mem_toFinset, List.mem_filter, List.mem_flatMap, decide_eq_true_eq]
  constructor
  · obtain ⟨hworst, -⟩ := worstOutcome_spec first.outcome (rest.map fun d => d.outcome)
    rw [← List.map_cons (f := fun d : CandidateSelectionItemDecision nfc => d.outcome)] at hworst
    obtain ⟨d, hd, houtcome⟩ := List.mem_map.mp hworst
    obtain ⟨u, hu, heq⟩ := hsource d hd
    have hagrees := (hwf u hu).agrees
    have hreasons : d.reasons = orderedSelectionReasons u.reasons :=
      congrArg ItemDecisionFields.reasons heq
    have houtcome' : d.outcome = u.outcome := congrArg ItemDecisionFields.outcome heq
    obtain ⟨reason, hreason⟩ := hagrees.nonempty
    refine ⟨reason, (hmem _ _).mpr ⟨⟨d, hd, ?_⟩, ?_⟩⟩
    · rw [hreasons]
      exact mem_orderedSelectionReasons.mpr hreason
    · by_cases hselect : u.outcome = .selectForReview
      · left
        rw [← houtcome, houtcome', hselect]
      · right
        rintro rfl
        exact hagrees.ineligible hselect hreason
  · rw [hmem]
    rintro ⟨⟨d, hd, hreason⟩, -⟩
    obtain ⟨u, hu, heq⟩ := hsource d hd
    have hreasons : d.reasons = orderedSelectionReasons u.reasons :=
      congrArg ItemDecisionFields.reasons heq
    rw [hreasons, mem_orderedSelectionReasons] at hreason
    exact (hwf u hu).agrees.absent hreason

/-- A batch of well formed candidates has a decision that lists the settled candidates. -/
theorem exists_settleBatch (hwf : ∀ x ∈ xs, WellFormed x) (hne : xs ≠ [])
    (hfew : xs.length ≤ maxCandidateSelectionCount) :
    ∃ d, settleBatch p xs xs.length = .ok d ∧
      d.items.map (fun item => item.toItemDecisionFields) = (settled xs).map itemFields := by
  obtain ⟨ds, hds, hfields⟩ := exists_itemDecisions hwf hfew
  have hidentified : ((uniqueCandidates xs).mapM fun item => do
      let identity ← selectionIdentity item.candidate
      pure (identity, item)) = .ok (identified (uniqueCandidates xs)) := by
    rw [Checks.mapM_ok, identified, List.forall₂_map_right_iff, List.forall₂_same]
    intro u _
    rw [selectionIdentity_ok]
    rfl
  have hmapM : (deferConflicting (deferRepeated (identified (uniqueCandidates xs)))).mapM
      (fun entry => itemDecision entry.2) = .ok ds := by
    rw [← hds, settled, ← settle_eq, settle, List.mapM_map]
    rfl
  have hids : ds.map (fun d => d.candidateId) = sortedSet (xs.map fun x => x.candidateId) := by
    have hview := congrArg (List.map ItemDecisionFields.candidateId) hfields
    rw [List.map_map, List.map_map] at hview
    rw [← map_settled]
    exact hview
  have hordered : KeyOrdered (fun d : CandidateSelectionItemDecision nfc => d.candidateId) ds := by
    rw [KeyOrdered, hids]
    exact pairwise_sortedSet _
  have hlength : ds.length ≤ maxCandidateSelectionCount := by
    have hcount := congrArg List.length hids
    rw [List.length_map] at hcount
    have hshort := length_sortedSet_le (xs.map fun x => x.candidateId)
    rw [List.length_map] at hshort
    omega
  have hsum : (ds.map fun d => d.occurrenceCount).sum = xs.length := by
    have hview := congrArg (List.map ItemDecisionFields.occurrenceCount) hfields
    rw [List.map_map, List.map_map] at hview
    rw [← sum_occurrences xs]
    refine congrArg List.sum (hview.trans ?_)
    rw [settled, List.map_map]
    exact List.map_congr_left fun u _ => (afterConflicts_kept _ u).2.2
  have hsize : xs.length ≤ maxsize := hfew.trans (by decide)
  cases ds with
  | nil =>
    rw [List.map_nil, List.sum_nil] at hsum
    exact absurd (List.length_eq_zero_iff.mp hsum.symm) hne
  | cons first rest =>
    have hwfSettled : ∀ u ∈ settled xs, WellFormed u := by
      intro u hu
      obtain ⟨v, hv, rfl⟩ := List.mem_map.mp hu
      exact (wellFormed_unique hwf v hv).settled _
    obtain ⟨hreasons, habsent⟩ := batchReasons_ok hwfSettled hfields
    obtain ⟨d, hd, hitems⟩ := exists_selectionDecision (p := p) hsize hordered hlength hreasons
      habsent (fun fields hitems hcount houtcome hreasons => by
        rw [checkSummary, hitems]
        simp only [Checks.unit_bind_ok, Checks.require_ok]
        exact ⟨hcount.trans hsum.symm, houtcome, by rw [hreasons, houtcome]⟩)
    refine ⟨d, ?_, by rw [hitems, hfields]⟩
    rw [settleBatch, hidentified]
    simp only [Checks.ok_bind, hmapM, List.map_cons]
    exact hd

end Batches

end Consolidation
end AyyoHumanoid
