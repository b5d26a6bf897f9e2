import AyyoHumanoid.ValidationTotality

/-!
# What a decision says about the store

Every decision that an evaluation returns is one of four cases: a creation of a
value that no active memory of the identity holds, a correction of an active
target, a duplicate of an active memory, or a refusal. Evidence whose effect the
store already holds is recognized as a duplicate.
-/

namespace AyyoHumanoid
namespace Validation

open PyText JsonText Memory

variable {nfc : Nfc} {s : MemoryStore}

/-- A stored active memory of the identity with the canonical value. -/
structure ActiveMatch (s : MemoryStore) (identity : NormalizedIdentity nfc) (valueJson : PyStr)
    (row : MemoryRow) (record : MemoryRecord) : Prop where
  stored : StoredAs s row record
  active : row.status = .active
  identity : identityForRecord nfc record = .ok identity
  value : row.valueJson = valueJson

/-- The cases of a decision that an evaluation of the store returned. -/
inductive DecisionCase (s : MemoryStore) (d : ValidationDecision nfc) : Prop
  /-- New evidence whose value no active memory of the identity holds. -/
  | create (htarget : d.candidate.correctionTargetId = none)
    (htype : d.decisionType ∈ [.acceptNew, .conflictReview])
    (hpermitted : d.persistencePermitted = true)
    (hfresh : ∀ row record,
      ¬ActiveMatch s d.normalizedIdentity d.candidate.valueJson row record)
  /-- A correction of an active target that is spelled as normalized. -/
  | correct (row : MemoryRow) (target : MemoryRecord) (hstored : StoredAs s row target)
    (htarget : d.candidate.correctionTargetId = some row.memoryId)
    (htype : d.decisionType = .applyCorrection) (hpermitted : d.persistencePermitted = true)
    (hactive : row.status = .active)
    (hidentity : identityForRecord nfc target = .ok d.normalizedIdentity)
    (hspelled : row.subject = d.normalizedIdentity.subject ∧
      row.predicate = d.normalizedIdentity.predicate)
    (hauthority : d.candidate.provenanceType ∈ correctionAuthorityTypes)
  /-- A duplicate of an active memory, which is among the relevant ones. -/
  | duplicate (row : MemoryRow) (record : MemoryRecord)
    (htype : d.decisionType = .exactDuplicate)
    (hmatch : ActiveMatch s d.normalizedIdentity d.candidate.valueJson row record)
    (hrelevant : row.memoryId ∈ d.relevantMemoryIds)
    (hall : ∀ id ∈ d.relevantMemoryIds, ∃ other found, StoredAs s other found ∧
      other.memoryId = id ∧ identityForRecord nfc found = .ok d.normalizedIdentity)
  /-- A decision without permission that is no duplicate. -/
  | refused (htype : d.decisionType ≠ .exactDuplicate)
    (hpermitted : d.persistencePermitted = false)

/-- The counts of a policy run over the active memories. -/
structure CountsOf (normalized : NormalizedCandidate nfc) (memories : List MemoryRecord)
    (counts : DecisionCounts) : Prop where
  /-- No exact match means that no active memory has the value. -/
  exact : counts.exact = 0 ↔
    ∀ record ∈ memories, hasValue normalized.canonicalValue record ≠ .ok true
  /-- No variant means that every active memory is spelled as normalized. -/
  variant : counts.variant = 0 → ∀ record ∈ memories, ¬IsVariant normalized.identity record

/-- What an evaluation that returned has read and counted. -/
structure PolicyRun (s : MemoryStore) (normalized : NormalizedCandidate nfc) (state : PolicyState)
    (counts : DecisionCounts) : Prop where
  /-- The identity is the candidate's. -/
  identity : normalized.candidate.identity = .ok normalized.identity
  /-- The canonical value is the candidate's. -/
  value : normalized.canonicalValue = normalized.candidate.valueJson
  active : ActiveFor s normalized.identity state.activeMemories
  target : CorrectionRead s normalized.candidate.correctionTargetId state.correctionTarget
    state.correctionTargetMissing state.revisionHistory
  counts : CountsOf normalized state.activeMemories counts

/-- A returned selection is empty when no test passes. -/
theorem selectM_length_eq_zero {test : MemoryRecord → Except PolicyError Bool}
    {xs ys : List MemoryRecord} (h : selectM test xs = .ok ys) :
    ys.length = 0 ↔ ∀ x ∈ xs, test x ≠ .ok true := by
  obtain ⟨hall, rfl⟩ := selectM_ok.mp h
  rw [List.length_eq_zero_iff, List.filter_eq_nil_iff]
  refine forall₂_congr fun x hx => ?_
  obtain ⟨keep, hkeep⟩ := hall x hx
  rw [hkeep, passes_ok, Ne, Except.ok.injEq]

/-- An evaluation that returns went through one of the two halves of the policy. -/
theorem evaluate_ok (h : MemoryInvariant s) {c : CandidateEvidence nfc}
    {d : ValidationDecision nfc} (he : evaluate s c = .ok d) :
    ∃ normalized state counts, normalized.candidate = c ∧ PolicyRun s normalized state counts ∧
      ((c.correctionTargetId ≠ none ∧ evaluateCorrection normalized state
          (sortedIds (state.conflicts.map (·.conflictId))) counts = .ok d) ∨
        (c.correctionTargetId = none ∧ evaluateNew normalized state
          (sortedIds (state.conflicts.map (·.conflictId))) counts = .ok d)) := by
  simp only [evaluate, Checks.bind_ok] at he
  obtain ⟨normalized, hnormalize, active, hactive, conflicts, -, read, hread, hpolicy⟩ := he
  obtain ⟨rfl, hidentity, hvalue⟩ := normalize_ok.mp hnormalize
  obtain ⟨target, missing, history, hstate, hcorrection⟩ :=
    correctionState_ok h normalized.candidate.correctionTargetId
  rw [hstate, Except.ok.injEq] at hread
  subst hread
  simp only [evaluatePolicy, Checks.bind_ok] at hpolicy
  obtain ⟨-, -, -, -, exact, hexact, hbranch⟩ := hpolicy
  refine ⟨normalized, ⟨active, conflicts, target, missing, history⟩,
    ⟨active.length, exact.length, active.countP fun r => IsVariant normalized.identity r⟩, rfl,
    ⟨hidentity, hvalue, activeMemories_ok h hactive, hcorrection,
      selectM_length_eq_zero hexact, ?_⟩, ?_⟩
  · intro hnone record hrecord
    simpa using List.countP_eq_zero.mp hnone record hrecord
  · split at hbranch
    · next htarget => exact Or.inl ⟨htarget, hbranch⟩
    · next htarget => exact Or.inr ⟨not_not.mp htarget, hbranch⟩

section Cases

variable {normalized : NormalizedCandidate nfc} {state : PolicyState} {counts : DecisionCounts}

/-- A decision carries the arguments it was built from. -/
theorem decision_fields {decisionType : DecisionType} {reason : DecisionReason}
    {relevantIds conflictIds : List UUID} {permitted : Bool} {d : ValidationDecision nfc}
    (h : decision normalized decisionType reason relevantIds conflictIds permitted counts =
      .ok d) : d.toDecisionFields = DecisionArgs.fields ⟨normalized, decisionType, reason,
        relevantIds, conflictIds, permitted, counts⟩ :=
  ValidationDecision.construct_ok.mp h

/-- An active memory passes the value test exactly when its row has the text. -/
theorem hasValue_ok (h : MemoryInvariant s) {row : MemoryRow} {record : MemoryRecord}
    (hstored : StoredAs s row record) {valueJson : PyStr} :
    hasValue valueJson record = .ok true ↔ row.valueJson = valueJson := by
  rw [hasValue_stored h hstored, Except.ok.injEq, decide_eq_true_eq]

/-- No exact match means that no stored active memory matches, and conversely. -/
theorem PolicyRun.exact_eq_zero (h : MemoryInvariant s)
    (hrun : PolicyRun s normalized state counts) :
    counts.exact = 0 ↔ ∀ row record,
      ¬ActiveMatch s normalized.identity normalized.candidate.valueJson row record := by
  rw [hrun.counts.exact, hrun.value]
  constructor
  · intro hnone row record hmatch
    refine hnone record ((hrun.active.mem record).mpr
      ⟨row, hmatch.stored, hmatch.active, hmatch.identity⟩) ?_
    exact (hasValue_ok h hmatch.stored).mpr hmatch.value
  · intro hnone record hrecord hvalue
    obtain ⟨row, hstored, hactive, hidentity⟩ := (hrun.active.mem record).mp hrecord
    exact hnone row record ⟨hstored, hactive, hidentity, (hasValue_ok h hstored).mp hvalue⟩

/-- The relevant memories of the active state are stored and have the identity. -/
theorem PolicyRun.relevant (hrun : PolicyRun s normalized state counts) (extra : List UUID)
    (hextra : ∀ id ∈ extra, ∃ row record, StoredAs s row record ∧ row.memoryId = id ∧
      identityForRecord nfc record = .ok normalized.identity) :
    ∀ id ∈ sortedIds (state.activeMemories.map (·.memoryId) ++ extra), ∃ row record,
      StoredAs s row record ∧ row.memoryId = id ∧
        identityForRecord nfc record = .ok normalized.identity := by
  intro id hid
  rw [mem_sortedIds, List.mem_append] at hid
  rcases hid with hid | hid
  · obtain ⟨record, hrecord, rfl⟩ := List.mem_map.mp hid
    obtain ⟨row, hstored, -, hidentity⟩ := (hrun.active.mem record).mp hrecord
    exact ⟨row, record, hstored, (memoryFromRow_ok hstored.read).memoryId.symm, hidentity⟩
  · exact hextra id hid

/-- A matching active memory is among the relevant ones. -/
theorem PolicyRun.match_mem (hrun : PolicyRun s normalized state counts) {row : MemoryRow}
    {record : MemoryRecord} {valueJson : PyStr}
    (hmatch : ActiveMatch s normalized.identity valueJson row record) (extra : List UUID) :
    row.memoryId ∈ sortedIds (state.activeMemories.map (·.memoryId) ++ extra) := by
  rw [mem_sortedIds, List.mem_append, ← (memoryFromRow_ok hmatch.stored.read).memoryId]
  exact Or.inl (List.mem_map_of_mem ((hrun.active.mem record).mpr
    ⟨row, hmatch.stored, hmatch.active, hmatch.identity⟩))

/-- The case of a decision on new evidence. -/
theorem evaluateNew_case (h : MemoryInvariant s) (hrun : PolicyRun s normalized state counts)
    (htarget : normalized.candidate.correctionTargetId = none) {conflictIds : List UUID}
    {d : ValidationDecision nfc} (he : evaluateNew normalized state conflictIds counts = .ok d) :
    d.candidate = normalized.candidate ∧ DecisionCase s d ∧
      (counts.exact ≠ 0 → d.decisionType = .exactDuplicate) := by
  unfold evaluateNew at he
  split at he
  · next hdup =>
    have hfields := decision_fields he
    have hsome : ∃ row record, ActiveMatch s normalized.identity normalized.candidate.valueJson
        row record := by
      by_contra hnone
      exact hdup ((hrun.exact_eq_zero h).mpr fun row record hmatch => hnone ⟨row, record, hmatch⟩)
    obtain ⟨row, record, hmatch⟩ := hsome
    have hrelevant := hrun.match_mem hmatch []
    have hall := hrun.relevant [] (by simp)
    rw [List.append_nil] at hrelevant hall
    refine ⟨by rw [hfields]; rfl, .duplicate row record (by rw [hfields]; rfl) ?_ ?_ ?_,
      fun _ => by rw [hfields]; rfl⟩ <;> rw [hfields]
    · exact hmatch
    · exact hrelevant
    · exact hall
  · next hnodup =>
    rw [not_not] at hnodup
    have hfresh := (hrun.exact_eq_zero h).mp hnodup
    split at he
    · split at he
      · have hfields := decision_fields he
        exact ⟨by rw [hfields]; rfl, .refused (by rw [hfields]; simp [DecisionArgs.fields])
          (by rw [hfields]; rfl), fun hne => absurd hnodup hne⟩
      · have hfields := decision_fields he
        refine ⟨by rw [hfields]; rfl, .create ?_ ?_ ?_ ?_, fun hne => absurd hnodup hne⟩ <;>
          rw [hfields]
        · exact htarget
        · simp [DecisionArgs.fields]
        · rfl
        · exact hfresh
    · have hfields := decision_fields he
      refine ⟨by rw [hfields]; rfl, .create ?_ ?_ ?_ ?_, fun hne => absurd hnodup hne⟩ <;>
        rw [hfields]
      · exact htarget
      · simp [DecisionArgs.fields]
      · rfl
      · exact hfresh

/-- A decision without permission that is no duplicate is a refusal. -/
theorem refused_of_decision {decisionType : DecisionType} {reason : DecisionReason}
    {relevantIds conflictIds : List UUID} {d : ValidationDecision nfc}
    (hdup : decisionType ≠ .exactDuplicate)
    (he : decision normalized decisionType reason relevantIds conflictIds false counts = .ok d) :
    d.candidate = normalized.candidate ∧ DecisionCase s d := by
  have hfields := decision_fields he
  exact ⟨by rw [hfields]; rfl, .refused (by rw [hfields]; exact hdup) (by rw [hfields]; rfl)⟩

/-- The case of a decision on a correction of a stored target. -/
theorem evaluateTarget_case (h : MemoryInvariant s) (hrun : PolicyRun s normalized state counts)
    {row : MemoryRow} {target : MemoryRecord} (hstored : StoredAs s row target)
    (htarget : normalized.candidate.correctionTargetId = some row.memoryId)
    (hhistory : row.status ≠ .active → StoredHistory s target state.revisionHistory)
    {conflictIds : List UUID} {d : ValidationDecision nfc}
    (he : evaluateTarget normalized state target conflictIds counts = .ok d) :
    d.candidate = normalized.candidate ∧ DecisionCase s d := by
  have hread := memoryFromRow_ok hstored.read
  obtain ⟨provenance, hprovenance, hprovenanceType, -⟩ := normalized.candidate.provenance_ok
  simp only [evaluateTarget, hprovenance, Checks.ok_bind] at he
  split at he
  · exact refused_of_decision (by decide) he
  next hauthority =>
  rw [not_not, hprovenanceType] at hauthority
  obtain ⟨identity, hidentity, he⟩ := Checks.bind_ok.mp he
  split at he
  · exact refused_of_decision (by decide) he
  next hsame =>
  rw [not_not] at hsame
  subst hsame
  have htargetRelevant : ∃ other found, StoredAs s other found ∧ other.memoryId = target.memoryId ∧
      identityForRecord nfc found = .ok normalized.identity :=
    ⟨row, target, hstored, hread.memoryId.symm, hidentity⟩
  split at he
  · next hinactive =>
    rw [hread.status] at hinactive
    obtain ⟨applied, hrunTip, htip⟩ := appliedTip_ok h (hhistory hinactive) hidentity
    rw [hrunTip, Checks.ok_bind] at he
    cases applied with
    | none => exact refused_of_decision (by decide) he
    | some tip =>
      obtain ⟨tipRow, htipStored, htipActive, htipIdentity, htipValue⟩ := htip tip rfl
      have hfields := decision_fields he
      have hvalue : tipRow.valueJson = normalized.candidate.valueJson := by
        rw [← hrun.value]
        exact (hasValue_ok h htipStored).mp htipValue
      have htipId := (memoryFromRow_ok htipStored.read).memoryId
      refine ⟨by rw [hfields]; rfl, .duplicate tipRow tip ?_ ?_ ?_ ?_⟩ <;> rw [hfields]
      · rfl
      · exact ⟨htipStored, htipActive, htipIdentity, hvalue⟩
      · simp [DecisionArgs.fields, htipId]
      · refine hrun.relevant _ ?_
        intro id hid
        rcases List.mem_pair.mp hid with rfl | rfl
        · exact htargetRelevant
        · exact ⟨tipRow, tip, htipStored, htipId.symm, htipIdentity⟩
  · next hactive =>
    rw [not_not, hread.status] at hactive
    obtain ⟨_, -, he⟩ := Checks.bind_ok.mp he
    split at he
    · exact refused_of_decision (by decide) he
    next hvariant =>
    rw [not_not] at hvariant
    rw [hasValue_stored h hstored, Checks.ok_bind] at he
    have hmember : target ∈ state.activeMemories :=
      (hrun.active.mem target).mpr ⟨row, hstored, hactive, hidentity⟩
    split at he
    · next hunchanged =>
      have hfields := decision_fields he
      have hmatch : ActiveMatch s normalized.identity normalized.candidate.valueJson row target :=
        ⟨hstored, hactive, hidentity, by rw [← hrun.value]; simpa using hunchanged⟩
      refine ⟨by rw [hfields]; rfl, .duplicate row target ?_ ?_ ?_ ?_⟩ <;> rw [hfields]
      · rfl
      · exact hmatch
      · exact hrun.match_mem hmatch _
      · refine hrun.relevant _ ?_
        intro id hid
        rw [List.mem_singleton.mp hid]
        exact htargetRelevant
    · have hfields := decision_fields he
      have hspelled := hrun.counts.variant hvariant target hmember
      rw [IsVariant, not_not, Prod.mk.injEq, hread.subject, hread.predicate] at hspelled
      refine ⟨by rw [hfields]; rfl, .correct row target hstored ?_ ?_ ?_ hactive ?_ ?_ ?_⟩ <;>
        rw [hfields]
      · exact htarget
      · rfl
      · rfl
      · exact hidentity
      · exact hspelled
      · exact hauthority

/-- A correction whose inactive target has an active tip of the same value is a duplicate. -/
theorem evaluateTarget_tip (h : MemoryInvariant s) (hrun : PolicyRun s normalized state counts)
    {row : MemoryRow} {target : MemoryRecord} (hstored : StoredAs s row target)
    (hauthority : normalized.candidate.provenanceType ∈ correctionAuthorityTypes)
    (hinactive : row.status ≠ .active)
    (hidentity : identityForRecord nfc target = .ok normalized.identity) {tipRow : MemoryRow}
    {tip : MemoryRecord} (htip : state.revisionHistory.getLast? = some tip)
    (hmatch : ActiveMatch s normalized.identity normalized.candidate.valueJson tipRow tip)
    {conflictIds : List UUID} {d : ValidationDecision nfc}
    (he : evaluateTarget normalized state target conflictIds counts = .ok d) :
    d.decisionType = .exactDuplicate := by
  have hstatus : target.status ≠ .active := by rwa [(memoryFromRow_ok hstored.read).status]
  have htipStatus : tip.status = .active :=
    (memoryFromRow_ok hmatch.stored.read).status.trans hmatch.active
  obtain ⟨provenance, hprovenance, hprovenanceType, -⟩ := normalized.candidate.provenance_ok
  have happlied : appliedTip normalized state.revisionHistory = .ok (some tip) := by
    have hvalue : hasValue normalized.canonicalValue tip = .ok true := by
      rw [hasValue_ok h hmatch.stored, hmatch.value, hrun.value]
    simp only [appliedTip, htip, tipMatches, if_pos htipStatus, hmatch.identity, Checks.ok_bind,
      if_true, hvalue]
    rfl
  simp only [evaluateTarget, hprovenance, Checks.ok_bind, hprovenanceType, hauthority,
    not_true_eq_false, if_false, hidentity, ne_eq, hstatus, not_false_eq_true, if_true,
    happlied] at he
  rw [decision_fields he]
  rfl

/-- The case of a decision on a correction. -/
theorem evaluateCorrection_case (h : MemoryInvariant s)
    (hrun : PolicyRun s normalized state counts)
    (hcorrects : normalized.candidate.correctionTargetId ≠ none) {conflictIds : List UUID}
    {d : ValidationDecision nfc}
    (he : evaluateCorrection normalized state conflictIds counts = .ok d) :
    d.candidate = normalized.candidate ∧ DecisionCase s d := by
  obtain ⟨memories, conflicts, target, missing, history⟩ := state
  obtain ⟨id, hid⟩ := Option.ne_none_iff_exists'.mp hcorrects
  have htarget := hrun.target
  simp only [hid] at htarget
  unfold evaluateCorrection at he
  cases htarget with
  | missing _ _ => exact refused_of_decision (by decide) he
  | active row target hstored hstatus =>
    exact evaluateTarget_case h hrun hstored hid (fun hne => absurd hstatus hne) he
  | inactive row target _ hstored hstatus hget hhistory =>
    exact evaluateTarget_case h hrun hstored hid (fun _ => hhistory) he

end Cases

/-- Every decision that an evaluation returns is in one of the four cases. -/
theorem evaluate_case (h : MemoryInvariant s) {c : CandidateEvidence nfc}
    {d : ValidationDecision nfc} (he : evaluate s c = .ok d) :
    d.candidate = c ∧ DecisionCase s d := by
  obtain ⟨normalized, state, counts, rfl, hrun, ⟨hcorrects, hbranch⟩ | ⟨hnone, hbranch⟩⟩ :=
    evaluate_ok h he
  · exact evaluateCorrection_case h hrun hcorrects hbranch
  · obtain ⟨hcandidate, hcase, -⟩ := evaluateNew_case h hrun hnone hbranch
    exact ⟨hcandidate, hcase⟩

/-- The identity of a decision is the normalized identity of its candidate. -/
theorem ValidationDecision.identity_eq (d : ValidationDecision nfc) :
    d.candidate.identity = .ok d.normalizedIdentity := by
  have hchecked := d.checked
  simp only [DecisionFields.postInit, Checks.bind_ok, Checks.require_ok] at hchecked
  obtain ⟨identity, hidentity, _, hsame, -⟩ := hchecked
  rw [hidentity, hsame]

/-- New evidence whose value is already active is a duplicate. -/
theorem duplicate_of_match (h : MemoryInvariant s) {c : CandidateEvidence nfc}
    {d : ValidationDecision nfc} (he : evaluate s c = .ok d) (htarget : c.correctionTargetId = none)
    {identity : NormalizedIdentity nfc} (hidentity : c.identity = .ok identity)
    {row : MemoryRow} {record : MemoryRecord}
    (hmatch : ActiveMatch s identity c.valueJson row record) :
    d.decisionType = .exactDuplicate := by
  obtain ⟨normalized, state, counts, rfl, hrun, ⟨hcorrects, -⟩ | ⟨hnone, hbranch⟩⟩ :=
    evaluate_ok h he
  · exact absurd htarget hcorrects
  · obtain ⟨-, -, hdup⟩ := evaluateNew_case h hrun hnone hbranch
    refine hdup fun hexact => (hrun.exact_eq_zero h).mp hexact row record ?_
    have hsame := hrun.identity
    rw [hidentity, Except.ok.injEq] at hsame
    exact hsame ▸ hmatch

/-- A correction whose target was replaced by an active memory of the same value is a
duplicate. -/
theorem duplicate_of_tip (h : MemoryInvariant s) {c : CandidateEvidence nfc}
    {d : ValidationDecision nfc} (he : evaluate s c = .ok d)
    (hauthority : c.provenanceType ∈ correctionAuthorityTypes)
    {identity : NormalizedIdentity nfc} (hidentity : c.identity = .ok identity)
    {row : MemoryRow} {target : MemoryRecord} (hstored : StoredAs s row target)
    (htarget : c.correctionTargetId = some row.memoryId) (hinactive : row.status ≠ .active)
    (htargetIdentity : identityForRecord nfc target = .ok identity)
    {history : List MemoryRecord} (hget : getRevisionHistory s row.memoryId = .ok history)
    {tipRow : MemoryRow} {tip : MemoryRecord} (htip : history.getLast? = some tip)
    (hmatch : ActiveMatch s identity c.valueJson tipRow tip) :
    d.decisionType = .exactDuplicate := by
  obtain ⟨normalized, state, counts, rfl, hrun, ⟨-, hbranch⟩ | ⟨hnone, -⟩⟩ := evaluate_ok h he
  · obtain ⟨memories, conflicts, found, missing, read⟩ := state
    have hsame := hrun.identity
    rw [hidentity, Except.ok.injEq] at hsame
    subst hsame
    have hcorrection := hrun.target
    rw [htarget] at hcorrection
    generalize hid : row.memoryId = id at hcorrection
    cases hcorrection with
    | missing _ hnone => exact absurd ⟨row, hstored.mem, hid⟩ (rowFor_none.mp hnone)
    | active other _ hother hactive =>
      rw [StoreInvariant.eq_of_memoryId h.unique hstored.mem hother.mem hid] at hinactive
      exact absurd hactive hinactive
    | inactive other _ _ hother _ hgetOther _ =>
      have hsameRow := StoreInvariant.eq_of_memoryId h.unique hstored.mem hother.mem hid
      subst hsameRow
      have hsameTarget := hother.record_unique hstored
      subst hsameTarget
      rw [hget, Except.ok.injEq] at hgetOther
      subst hgetOther
      exact evaluateTarget_tip h hrun hstored hauthority hinactive htargetIdentity htip hmatch
        hbranch
  · rw [htarget] at hnone
    cases hnone

end Validation
end AyyoHumanoid
