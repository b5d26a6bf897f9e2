import AyyoHumanoid.ValidationDecisions

/-!
# Applying decisions

An application re-evaluates the evidence in the current store. It then either
commits the one Memory OS call that the decision stands for, or reports an
active duplicate, or raises with the store unchanged. After a committed
application, applying the decision again reports a duplicate.
-/

namespace AyyoHumanoid
namespace Validation

open PyText JsonText Memory Transaction LinkedChains

variable {nfc : Nfc} {s s' : MemoryStore}

/-- The constructor returns exactly the result with the given fields. -/
theorem ApplicationResult.construct_ok {fields : ResultFields nfc} {r : ApplicationResult nfc} :
    ApplicationResult.construct fields = .ok r ↔ r.toResultFields = fields := by
  unfold ApplicationResult.construct
  split
  · next h =>
    constructor
    · intro hok
      cases hok
      rfl
    · rintro rfl
      rfl
  · next e h =>
    constructor
    · intro hok
      cases hok
    · rintro rfl
      rw [r.checked] at h
      cases h

/-- A result with an equivalent memory and a permission that fits passes its checks. -/
theorem exists_result {decision : ValidationDecision nfc} (mutationApplied : Bool)
    {memory : MemoryRecord} (hidentity : identityForRecord nfc memory = .ok decision.normalizedIdentity)
    (hvalue : canonicalizeJson memory.value = .ok decision.candidate.valueJson)
    (hmutated : mutationApplied = true → decision.persistencePermitted = true)
    (hnoop : mutationApplied = false → decision.decisionType = .exactDuplicate) :
    ∃ r, ApplicationResult.construct ⟨decision, mutationApplied, some memory⟩ = .ok r := by
  have hchecked : (ResultFields.mk decision mutationApplied (some memory)).postInit = .ok () := by
    simp only [ResultFields.postInit, checkResultMemory, Checks.unit_bind_ok, Checks.require_ok,
      hidentity, hvalue, Checks.ok_bind]
    exact ⟨by simp, hmutated, fun h => ⟨hnoop h, by simp⟩, trivial, trivial⟩
  exact ⟨⟨_, hchecked⟩, ApplicationResult.construct_ok.mpr rfl⟩

section Duplicate

/-- The loop over relevant memories finds a matching one. -/
theorem findActiveDuplicate_ok (h : MemoryInvariant s) {d : ValidationDecision nfc} {ids : List UUID}
    (hall : ∀ id ∈ ids, ∃ row record, StoredAs s row record ∧ row.memoryId = id ∧
      identityForRecord nfc record = .ok d.normalizedIdentity)
    (hmatch : ∃ row record, ActiveMatch s d.normalizedIdentity d.candidate.valueJson row record ∧
      row.memoryId ∈ ids) :
    ∃ row record, findActiveDuplicate s d ids = .ok record ∧
      ActiveMatch s d.normalizedIdentity d.candidate.valueJson row record := by
  induction ids with
  | nil =>
    obtain ⟨row, record, -, hmem⟩ := hmatch
    cases hmem
  | cons id ids ih =>
    obtain ⟨row, record, hstored, rfl, hidentity⟩ := hall id (by simp)
    have hdemand : fromMemory (demandMemory s.memories row.memoryId) = .ok record :=
      fromMemory_ok.mpr (hstored.demand h)
    have hstatus := (memoryFromRow_ok hstored.read).status
    have htest : isActiveDuplicate d record = .ok
        (decide (row.status = .active ∧ row.valueJson = d.candidate.valueJson)) := by
      unfold isActiveDuplicate
      rw [hstatus]
      by_cases hactive : row.status = .active
      · simp only [hidentity, Checks.ok_bind, if_true, hasValue_stored h hstored, hactive, true_and]
      · simp [hactive, pure, Except.pure]
    simp only [findActiveDuplicate, hdemand, Checks.ok_bind, htest]
    by_cases hsame : row.status = .active ∧ row.valueJson = d.candidate.valueJson
    · exact ⟨row, record, by simp [hsame, pure, Except.pure], hstored, hsame.1, hidentity, hsame.2⟩
    · simp only [hsame, decide_false, Bool.false_eq_true, if_false]
      refine ih (fun other hother => hall other (by simp [hother])) ?_
      obtain ⟨found, foundRecord, hfound, hmem⟩ := hmatch
      refine ⟨found, foundRecord, hfound, (List.mem_cons.mp hmem).resolve_left fun heq => ?_⟩
      have hrow := StoreInvariant.eq_of_memoryId h.unique hfound.stored.mem hstored.mem heq
      exact hsame (hrow ▸ ⟨hfound.active, hfound.value⟩)

/-- A duplicate decision reports an active memory of the same identity and value. -/
theorem duplicateResult_ok (h : MemoryInvariant s) {c : CandidateEvidence nfc}
    {d : ValidationDecision nfc} (he : evaluate s c = .ok d)
    (hdup : d.decisionType = .exactDuplicate) :
    ∃ row record r, duplicateResult s d = .ok r ∧ r.toResultFields = ⟨d, false, some record⟩ ∧
      ActiveMatch s d.normalizedIdentity d.candidate.valueJson row record := by
  obtain ⟨-, hcase⟩ := evaluate_case h he
  cases hcase with
  | create _ htype _ _ => rw [hdup] at htype; exact absurd htype (by decide)
  | correct _ _ _ _ htype _ _ _ _ _ => rw [hdup] at htype; cases htype
  | refused htype _ => exact absurd hdup htype
  | duplicate row record _ hmatch hrelevant hall =>
    obtain ⟨found, foundRecord, hfind, hfound⟩ :=
      findActiveDuplicate_ok h hall ⟨row, record, hmatch, hrelevant⟩
    have hvalue : canonicalizeJson foundRecord.value = .ok d.candidate.valueJson := by
      rw [canonicalizeJson_stored h hfound.stored, hfound.value]
    obtain ⟨r, hr⟩ := exists_result false hfound.identity hvalue (by simp)
      fun _ => hdup
    refine ⟨found, foundRecord, r, ?_, ApplicationResult.construct_ok.mp hr, hfound⟩
    rw [duplicateResult, requireActiveDuplicate, hfind, Checks.ok_bind, hr]

end Duplicate

/-- The Memory OS call of a decision creates or corrects with the candidate's value. -/
theorem mutation_ok {d : ValidationDecision nfc} {supply : Supply} {call : ServiceCall}
    (h : mutation d supply = .ok call) :
    ∃ evidence : Evidence, canonicalizeJson evidence.value = .ok d.candidate.valueJson ∧
      ((d.decisionType ∈ [.acceptNew, .conflictReview] ∧
          call = .create d.normalizedIdentity.memoryType d.normalizedIdentity.subject
            d.normalizedIdentity.predicate evidence supply) ∨
        ∃ targetId reason, d.decisionType = .applyCorrection ∧
          d.candidate.correctionTargetId = some targetId ∧
          call = .correct targetId evidence reason supply) := by
  obtain ⟨value, hvalue, hcanonical⟩ := d.candidate.value_ok
  have hevidence : ∀ {metadata evidence}, persistedEvidence d metadata = .ok evidence →
      canonicalizeJson evidence.value = .ok d.candidate.valueJson := by
    intro metadata evidence he
    simp only [persistedEvidence, hvalue, Checks.ok_bind, Checks.bind_ok, Checks.pure_ok] at he
    obtain ⟨_, -, rfl⟩ := he
    exact hcanonical
  simp only [mutation, Checks.bind_ok] at h
  obtain ⟨metadata, -, h⟩ := h
  split at h
  · next htype =>
    obtain ⟨evidence, he, hcall⟩ := Checks.bind_ok.mp h
    rw [Checks.pure_ok] at hcall
    exact ⟨evidence, hevidence he, Or.inl ⟨htype, hcall.symm⟩⟩
  · split at h
    · next htype =>
      split at h
      · next targetId reason htarget hreason =>
        obtain ⟨evidence, he, hcall⟩ := Checks.bind_ok.mp h
        rw [Checks.pure_ok] at hcall
        exact ⟨evidence, hevidence he, Or.inr ⟨targetId, reason, htype, htarget, hcall.symm⟩⟩
      · cases h
    · cases h

/-- What a committed mutation of a decision did. -/
structure Persisted (s s' : MemoryStore) (d : ValidationDecision nfc) (result : MemoryRecord)
    (row : MemoryRow) (update : MemoryRow → MemoryRow) : Prop where
  /-- The new row is the returned record's. -/
  written : recordRow result = .ok row
  /-- One row is appended, after the others were updated. -/
  memories : s'.memories = s.memories.map update ++ [row]
  /-- The new row is active. -/
  active : row.status = .active
  /-- The new row has the decision's type. -/
  memoryType : row.memoryType = d.normalizedIdentity.memoryType
  /-- The new row has the decision's subject. -/
  subject : row.subject = d.normalizedIdentity.subject
  /-- The new row has the decision's predicate. -/
  predicate : row.predicate = d.normalizedIdentity.predicate
  /-- The new row has the candidate's value. -/
  value : row.valueJson = d.candidate.valueJson
  /-- Updated rows keep their names. -/
  names : ∀ old, (update old).memoryType = old.memoryType ∧ (update old).subject = old.subject ∧
    (update old).predicate = old.predicate
  /-- Rows that are still active did not change. -/
  unchanged : ∀ old, (update old).status = .active → update old = old
  /-- A row that supersedes nothing repeats no active value of its identity. -/
  origin : row.supersedesId = none → ∀ old record,
    ¬ActiveMatch s d.normalizedIdentity d.candidate.valueJson old record

/-- A row whose text is the canonical text of a record's value. -/
theorem valueJson_of_canonical {record : MemoryRecord} {row : MemoryRow} {text : PyStr}
    (hrow : recordRow record = .ok row) (h : canonicalizeJson record.value = .ok text) :
    row.valueJson = text := by
  rw [recordRow_valueJson hrow]
  exact (canonicalizeJson_ok.mp h).2

/-- A committed creation of a decision. -/
theorem persisted_create {d : ValidationDecision nfc} {evidence : Evidence} {supply : Supply}
    {result : MemoryRecord}
    (hvalue : canonicalizeJson evidence.value = .ok d.candidate.valueJson)
    (hfresh : ∀ row record, ¬ActiveMatch s d.normalizedIdentity d.candidate.valueJson row record)
    (hrun : (createMemory d.normalizedIdentity.memoryType d.normalizedIdentity.subject
      d.normalizedIdentity.predicate evidence supply).run s = .ok (result, s')) :
    ∃ row, Persisted s s' d result row id := by
  obtain ⟨-, hfields, hadd⟩ := createMemory_ok hrun
  obtain ⟨-, row, hadded⟩ := addMemory_ok hadd
  obtain ⟨-, htype, hsubject, hpredicate, hstatus⟩ := recordRow_key hadded.written
  have hresult : canonicalizeJson result.value = .ok d.candidate.valueJson := by
    rw [hfields]
    exact hvalue
  exact ⟨row, hadded.written, by rw [hadded.memories, List.map_id],
    hstatus.trans hadded.active, by rw [htype, hfields]; rfl, by rw [hsubject, hfields]; rfl,
    by rw [hpredicate, hfields]; rfl, valueJson_of_canonical hadded.written hresult,
    fun _ => ⟨rfl, rfl, rfl⟩, fun _ _ => rfl, fun _ => hfresh⟩

/-- The update that supersedes a target. -/
abbrev supersede (targetId : UUID) (replacement : MemoryRecord) (row : MemoryRow) : MemoryRow :=
  row.mark targetId .superseded replacement.createdAt.civil replacement.revisionReason

/-- A committed correction of a decision. -/
theorem persisted_correct {d : ValidationDecision nfc} {targetId : UUID} {evidence : Evidence}
    {reason : PyStr} {supply : Supply} {result : MemoryRecord} {targetRow : MemoryRow}
    {target : MemoryRecord} (h : MemoryInvariant s)
    (hvalue : canonicalizeJson evidence.value = .ok d.candidate.valueJson)
    (hstored : StoredAs s targetRow target) (hid : targetRow.memoryId = targetId)
    (hidentity : identityForRecord nfc target = .ok d.normalizedIdentity)
    (hspelled : targetRow.subject = d.normalizedIdentity.subject ∧
      targetRow.predicate = d.normalizedIdentity.predicate)
    (hrun : (correctMemoryCall targetId evidence reason supply).run s = .ok (result, s')) :
    ∃ row, Persisted s s' d result row (supersede targetId result) ∧
      row.supersedesId = some targetId := by
  obtain ⟨found, foundRecord, hfound, hread, hprepare, hcorrect⟩ := correctMemoryCall_ok hrun
  obtain ⟨-, -, -, -, hfields⟩ := prepareCorrection_ok.mp hprepare
  obtain ⟨-, _, _, row, _, _, hcorrected⟩ := correctMemory_ok hcorrect
  obtain ⟨hmem, hfoundId⟩ := rowFor_some hfound
  have hsameRow := StoreInvariant.eq_of_memoryId h.unique hmem hstored.mem
    (hfoundId.trans hid.symm)
  subst hsameRow
  rw [hstored.read, Except.ok.injEq] at hread
  subst hread
  have hreadFields := memoryFromRow_ok hstored.read
  obtain ⟨-, htype, hsubject, hpredicate, hstatus⟩ := recordRow_key hcorrected.written
  have hresult : canonicalizeJson result.value = .ok d.candidate.valueJson := by
    rw [hfields]
    exact hvalue
  have hlink : row.supersedesId = some targetId :=
    (recordRow_createdAt hcorrected.written).2.trans hcorrected.supersedes
  have hsuperseded : MemoryStatus.superseded ≠ .active := by decide
  refine ⟨row, ⟨hcorrected.written, hcorrected.memories, hstatus.trans hcorrected.replacementActive,
    ?_, ?_, ?_, valueJson_of_canonical hcorrected.written hresult, ?_, ?_, ?_⟩, hlink⟩
  · rw [htype, hfields, ((identityForRecord_ok hstored).mp hidentity).1, ← hreadFields.memoryType]
    rfl
  · rw [hsubject, hfields, ← hspelled.1, ← hreadFields.subject]
    rfl
  · rw [hpredicate, hfields, ← hspelled.2, ← hreadFields.predicate]
    rfl
  · intro old
    obtain ⟨h1, h2, h3, -⟩ := old.mark_key targetId .superseded result.createdAt.civil
      result.revisionReason
    exact ⟨h1, h2, h3⟩
  · intro old hactive
    obtain ⟨-, hne⟩ := (MemoryRow.mark_active hsuperseded).mp hactive
    exact if_neg fun hboth => hne hboth.1
  · intro hroot
    rw [hlink] at hroot
    cases hroot

/-- The call of a decision committed. -/
structure Mutated (s s' : MemoryStore) (d : ValidationDecision nfc) (supply : Supply)
    (call : ServiceCall) (result : MemoryRecord) : Prop where
  /-- The call is the decision's. -/
  mutates : mutation d supply = .ok call
  committed : call.run.run s = .ok (result, s')

/-- A committed mutation persists the candidate under the decision's identity, and a correction
supersedes its target. -/
theorem Mutated.persisted (h : MemoryInvariant s) {d : ValidationDecision nfc}
    (hcase : DecisionCase s d) (hpermitted : d.persistencePermitted = true) {supply : Supply}
    {call : ServiceCall} {result : MemoryRecord} (hm : Mutated s s' d supply call result) :
    ∃ row update, Persisted s s' d result row update ∧
      ∀ targetId, d.candidate.correctionTargetId = some targetId →
        row.supersedesId = some targetId ∧ update = supersede targetId result := by
  obtain ⟨evidence, hvalue, ⟨htype, hcall⟩ | ⟨targetId, reason, htype, htarget, hcall⟩⟩ :=
    mutation_ok hm.mutates
  · have hrun := hm.committed
    rw [hcall] at hrun
    cases hcase with
    | create hnone _ _ hfresh =>
      obtain ⟨row, hpersisted⟩ := persisted_create hvalue hfresh hrun
      exact ⟨row, id, hpersisted, fun targetId htarget => by rw [hnone] at htarget; cases htarget⟩
    | correct _ _ _ _ hother _ _ _ _ _ => rw [hother] at htype; exact absurd htype (by decide)
    | duplicate _ _ hother _ _ _ => rw [hother] at htype; exact absurd htype (by decide)
    | refused _ hrefused => rw [hpermitted] at hrefused; cases hrefused
  · have hrun := hm.committed
    rw [hcall] at hrun
    cases hcase with
    | create _ hother _ _ => rw [htype] at hother; exact absurd hother (by decide)
    | correct targetRow target hstored htargetRow _ _ _ hidentity hspelled _ =>
      have hid : targetRow.memoryId = targetId := by
        rw [htarget, Option.some.injEq] at htargetRow
        exact htargetRow.symm
      obtain ⟨row, hpersisted, hlink⟩ :=
        persisted_correct h hvalue hstored hid hidentity hspelled hrun
      refine ⟨row, _, hpersisted, fun other hother => ?_⟩
      rw [htarget, Option.some.injEq] at hother
      subst hother
      exact ⟨hlink, rfl⟩
    | duplicate _ _ hother _ _ _ => rw [htype] at hother; cases hother
    | refused _ hrefused => rw [hpermitted] at hrefused; cases hrefused

section Afterwards

variable {d : ValidationDecision nfc} {result : MemoryRecord} {row : MemoryRow}
  {update : MemoryRow → MemoryRow}

/-- The new row is stored and reads as the returned record with sorted keys. -/
theorem Persisted.storedAs (hp : Persisted s s' d result row update) :
    StoredAs s' row result.normalizeKeys :=
  ⟨by rw [hp.memories]; simp, memoryFromRow_recordRow hp.written⟩

/-- A row with the decision's type and texts has the decision's identity. -/
theorem identityForRecord_spelled {record : MemoryRecord} (hstored : StoredAs s row record)
    (htype : row.memoryType = d.normalizedIdentity.memoryType)
    (hsubject : row.subject = d.normalizedIdentity.subject)
    (hpredicate : row.predicate = d.normalizedIdentity.predicate) :
    identityForRecord nfc record = .ok d.normalizedIdentity := by
  refine (identityForRecord_ok hstored).mpr ⟨htype.symm, ?_, ?_⟩
  · rw [hsubject, d.normalizedIdentity.subject_normalized.fixed]
  · rw [hpredicate, d.normalizedIdentity.predicate_normalized.fixed]

/-- The new row is an active match of the decision. -/
theorem Persisted.activeMatch (hp : Persisted s s' d result row update) :
    ActiveMatch s' d.normalizedIdentity d.candidate.valueJson row result.normalizeKeys :=
  ⟨hp.storedAs, hp.active, identityForRecord_spelled hp.storedAs hp.memoryType hp.subject
    hp.predicate, hp.value⟩

/-- The returned record has the decision's identity and the candidate's value. -/
theorem Persisted.returned (hp : Persisted s s' d result row update) :
    identityForRecord nfc result = .ok d.normalizedIdentity ∧
      canonicalizeJson result.value = .ok d.candidate.valueJson := by
  refine ⟨?_, ?_⟩
  · rw [← hp.activeMatch.identity]
    exact identityForRecord_of_key rfl
  · obtain ⟨hdump, -, -, -⟩ := recordRow_ok.mp hp.written
    exact canonicalizeJson_ok.mpr ⟨hdump, (recordRow_valueJson hp.written).symm.trans hp.value⟩

/-- The new row is not blank. -/
theorem Persisted.not_blank (hp : Persisted s s' d result row update) : ¬Blank nfc row := by
  have hsubject := d.normalizedIdentity.subject_normalized
  have hpredicate := d.normalizedIdentity.predicate_normalized
  rw [Blank, hp.subject, hp.predicate, hsubject.fixed, hpredicate.fixed, not_or]
  exact ⟨hsubject.nonempty, hpredicate.nonempty⟩

/-- An updated row is blank exactly when the row was. -/
theorem Persisted.blank_update (hp : Persisted s s' d result row update) {old : MemoryRow} :
    Blank nfc (update old) ↔ Blank nfc old := by
  obtain ⟨-, hsubject, hpredicate⟩ := hp.names old
  rw [Blank, Blank, hsubject, hpredicate]

/-- An evaluation that returns met no blank name among the active and conflicting memories. -/
theorem not_blank_of_evaluate (h : MemoryInvariant s) {c : CandidateEvidence nfc}
    (he : evaluate s c = .ok d) {old : MemoryRow} (hold : old ∈ s.memories)
    (hscope : (old.status = .active ∧ old.memoryType = c.memoryType) ∨
      ∃ other ∈ s.memories, Contradict old other) : ¬Blank nfc old := by
  simp only [evaluate, Checks.bind_ok] at he
  obtain ⟨normalized, hnormalize, active, hactive, conflicts, hconflicts, -⟩ := he
  obtain ⟨rfl, hidentity, -⟩ := normalize_ok.mp hnormalize
  obtain ⟨record, hstored⟩ := h.exists_storedAs hold
  rw [← exists_identityForRecord hstored]
  rcases hscope with ⟨hstatus, htype⟩ | ⟨other, hother, hcontradict⟩
  · obtain ⟨records, hquery, -, hmem⟩ := h.queryMemories_ok normalized.identity.memoryType
    simp only [activeMemories, Checks.bind_ok, fromMemory_ok, hquery, Except.ok.injEq,
      exists_eq_left', selectM_ok] at hactive
    obtain ⟨_, ⟨hall, -⟩, -⟩ := hactive
    have hrecord := (hmem record).mpr
      ⟨old, hstored, hstatus, htype.trans (identityOf_ok.mp hidentity).1.symm⟩
    obtain ⟨keep, hkeep⟩ := hall record hrecord
    obtain ⟨found, hfound, -⟩ := Checks.bind_ok.mp hkeep
    exact ⟨found, hfound⟩
  · -- The contradicting pair has an open conflict, whose left memory was named.
    obtain ⟨listed, hlist, -, hmem⟩ := h.listConflicts_ok
    simp only [activeConflicts, Checks.bind_ok, fromMemory_ok, hlist, Except.ok.injEq,
      exists_eq_left', selectM_ok] at hconflicts
    obtain ⟨_, ⟨hall, -⟩, -⟩ := hconflicts
    have hne : old.memoryId ≠ other.memoryId := by
      intro hsame
      exact hcontradict.value (by rw [StoreInvariant.eq_of_memoryId h.unique hold hother hsame])
    obtain ⟨conflictRow, hrow, hopen, hpair⟩ := (h.complete old hold other hother hne).mpr hcontradict
    obtain ⟨conflict, hread⟩ := h.exists_openAs hrow hopen
    obtain ⟨keep, hkeep⟩ := hall conflict ((hmem conflict).mpr ⟨conflictRow, hread⟩)
    obtain ⟨found, hfound, -⟩ := Checks.bind_ok.mp hkeep
    obtain ⟨left, -, hleft, -, hleftId, -⟩ := hread.contradict h
    obtain ⟨otherRecord, hotherStored⟩ := h.exists_storedAs hother
    have hkey : identityForRecord nfc record = identityForRecord nfc otherRecord :=
      identityForRecord_of_key ((recordsContradict_ok.mp ((recordsContradict_stored h hstored
        hotherStored hcontradict.leftActive hcontradict.rightActive).mpr hcontradict)).1)
    rcases UUID.sortedPair_cases old.memoryId other.memoryId with hsorted | hsorted <;>
      rw [hsorted] at hpair <;> have hside := (Prod.mk.inj hpair).1
    · have hsame := StoreInvariant.eq_of_memoryId h.unique hleft.mem hold (hleftId.trans hside)
      subst hsame
      exact ⟨found, by rw [hstored.record_unique hleft, hfound]⟩
    · have hsame := StoreInvariant.eq_of_memoryId h.unique hleft.mem hother (hleftId.trans hside)
      subst hsame
      exact ⟨found, by rw [hkey, hotherStored.record_unique hleft, hfound]⟩

/-- After a committed mutation no name in the candidate's scope is blank. -/
theorem Persisted.not_blankInScope (h : MemoryInvariant s)
    (he : evaluate s d.candidate = .ok d) (hp : Persisted s s' d result row update)
    (htarget : ∀ old ∈ s.memories, d.candidate.correctionTargetId = some (update old).memoryId →
      ¬Blank nfc old) : ¬BlankInScope s' d.candidate := by
  rintro ⟨other, hother, hscope, hblank⟩
  rw [hp.memories, List.mem_append, List.mem_singleton, List.mem_map] at hother
  rcases hother with ⟨old, hold, rfl⟩ | rfl
  · cases hscope with
    | active hstatus htype =>
      have hsame := hp.unchanged old hstatus
      rw [hsame] at hstatus htype hblank
      exact not_blank_of_evaluate h he hold (Or.inl ⟨hstatus, htype⟩) hblank
    | conflict rival hrival hcontradict =>
      have hsame := hp.unchanged old hcontradict.leftActive
      rw [hsame] at hcontradict hblank
      rw [hp.memories, List.mem_append, List.mem_singleton, List.mem_map] at hrival
      rcases hrival with ⟨oldRival, holdRival, rfl⟩ | rfl
      · rw [hp.unchanged oldRival hcontradict.rightActive] at hcontradict
        exact not_blank_of_evaluate h he hold (Or.inr ⟨oldRival, holdRival, hcontradict⟩) hblank
      · refine hp.not_blank ?_
        rwa [Blank, ← hcontradict.subject, ← hcontradict.predicate]
    | target hid => exact htarget old hold hid (hp.blank_update.mp hblank)
  · exact hp.not_blank hblank

/-- The history of a superseded memory ends with its active replacement. -/
theorem history_of_replacement (h : MemoryInvariant s) {earlier later : MemoryRow}
    {record : MemoryRecord} (hearlier : earlier ∈ s.memories) (hstored : StoredAs s later record)
    (hactive : later.status = .active) (hlink : later.supersedesId = some earlier.memoryId) :
    ∃ history, getRevisionHistory s earlier.memoryId = .ok history ∧
      history.getLast? = some record := by
  obtain ⟨chain, records, hmember, hchain, hmem, hread, hget⟩ :=
    exists_chainHistory h.toRevisionInvariant hstored.mem
  have hsupersedes : Supersedes s.memories earlier later := ⟨hearlier, hstored.mem, hlink⟩
  -- The replacement is the last row of its chain, because nothing supersedes an active row.
  have hlast : later ∉ chain.dropLast := by
    intro hdrop
    obtain ⟨next, -, hnext⟩ := exists_link_of_mem_dropLast hchain.linked hdrop
    obtain ⟨found, hfound, hid, hsound⟩ := h.chains.linked next hnext.later_mem _ hnext.link
    have hsame := StoreInvariant.eq_of_memoryId h.unique hfound hstored.mem hid
    have hsuperseded := hsound.superseded
    rw [hsame, hactive] at hsuperseded
    cases hsuperseded
  obtain ⟨front, rfl⟩ : ∃ front, chain = front ++ [later] := by
    have hne : chain ≠ [] := List.ne_nil_of_mem hmember
    have hsplit := List.dropLast_append_getLast hne
    rw [← hsplit, List.mem_append, List.mem_singleton] at hmember
    exact ⟨chain.dropLast, by rw [hmember.resolve_left hlast, hsplit]⟩
  -- Its predecessor in the chain is the memory it supersedes.
  have hmemberEarlier : earlier ∈ front ++ [later] := by
    cases front using List.reverseRecOn with
    | nil => exact absurd hsupersedes (hchain.root later (by simp) earlier)
    | append_singleton front previous =>
      have hlinked := hchain.linked
      rw [List.append_assoc] at hlinked
      have hprevious := (List.isChain_append_cons_cons.mp hlinked).2.1
      have hid := hprevious.link
      rw [hlink, Option.some.injEq] at hid
      rw [StoreInvariant.eq_of_memoryId h.unique hearlier hprevious.earlier_mem hid]
      simp
  refine ⟨records, hget earlier hmemberEarlier, ?_⟩
  cases hlastRecord : records.getLast? with
  | none =>
    rw [List.getLast?_eq_none_iff] at hlastRecord
    rw [hlastRecord] at hread
    have hlength := hread.length_eq
    simp at hlength
  | some last =>
    obtain ⟨found, hfound, hfoundRead⟩ := exists_getLast_of_forall₂ hread hlastRecord
    have hsame : later = found := by simpa using hfound
    subst hsame
    rw [hstored.read, Except.ok.injEq] at hfoundRead
    rw [hfoundRead]

end Afterwards

/-- What an application may return or raise, with the store it leaves. -/
inductive ApplyOutcome (s : MemoryStore) (d : ValidationDecision nfc) (supply : Supply) :
    Except PolicyError (ApplicationResult nfc) × MemoryStore → Prop
  /-- The evidence evaluates to the same permitting decision, whose call committed. -/
  | mutated (s' : MemoryStore) (call : ServiceCall) (result : MemoryRecord) (row : MemoryRow)
    (update : MemoryRow → MemoryRow) (r : ApplicationResult nfc)
    (hcurrent : evaluate s d.candidate = .ok d) (hpermitted : d.persistencePermitted = true)
    (hmutated : Mutated s s' d supply call result) (hp : Persisted s s' d result row update)
    (hr : r.toResultFields = ⟨d, true, some result⟩) : ApplyOutcome s d supply (.ok r, s')
  /-- The evidence evaluates to a duplicate, and an active memory holds its value. -/
  | duplicate (current : ValidationDecision nfc) (row : MemoryRow) (record : MemoryRecord)
    (r : ApplicationResult nfc) (hcurrent : evaluate s d.candidate = .ok current)
    (hdup : current.decisionType = .exactDuplicate)
    (hmatch : ActiveMatch s d.normalizedIdentity d.candidate.valueJson row record)
    (hr : r.toResultFields = ⟨current, false, some record⟩) : ApplyOutcome s d supply (.ok r, s)
  /-- The application raised and the store is unchanged. -/
  | raised (e : PolicyError) : ApplyOutcome s d supply (.error e, s)

/-- The memory of a duplicate is also a duplicate of any decision on the same evidence. -/
theorem duplicate_outcome (h : MemoryInvariant s) {d current : ValidationDecision nfc}
    (hcurrent : evaluate s d.candidate = .ok current)
    (hdup : current.decisionType = .exactDuplicate) (supply : Supply) :
    ApplyOutcome s d supply (duplicateResult s current, s) := by
  obtain ⟨row, record, r, hrun, hr, hmatch⟩ := duplicateResult_ok h hcurrent hdup
  obtain ⟨hcandidate, -⟩ := evaluate_case h hcurrent
  have hidentity := current.identity_eq
  rw [hcandidate, d.identity_eq, Except.ok.injEq] at hidentity
  rw [hcandidate, ← hidentity] at hmatch
  rw [hrun]
  exact .duplicate current row record r hcurrent hdup hmatch hr

/-- Persisting a decision commits its call and returns its record, or raises. -/
theorem persist_outcome (h : MemoryInvariant s) {d : ValidationDecision nfc}
    (hcurrent : evaluate s d.candidate = .ok d) (hpermitted : d.persistencePermitted = true)
    (supply : Supply) : ApplyOutcome s d supply (persist s d supply) := by
  unfold persist
  cases hmutation : mutation d supply with
  | error e => exact .raised e
  | ok call =>
    simp only
    cases hrun : call.run.run s with
    | error e => exact .raised (.ofMemory e)
    | ok pair =>
      obtain ⟨result, s'⟩ := pair
      have hm : Mutated s s' d supply call result := ⟨hmutation, hrun⟩
      obtain ⟨row, update, hp, -⟩ := hm.persisted h (evaluate_case h hcurrent).2 hpermitted
      obtain ⟨hidentity, hvalue⟩ := hp.returned
      obtain ⟨r, hr⟩ := exists_result true hidentity hvalue
        (fun _ => hpermitted) (by simp)
      simp only [hr]
      exact .mutated s' call result row update r hcurrent hpermitted hm hp
        (ApplicationResult.construct_ok.mp hr)

/-- An application mutates as its decision permits, reports a duplicate, or raises. -/
theorem applyDecision_outcome (h : MemoryInvariant s) (d : ValidationDecision nfc)
    (supply : Supply) : ApplyOutcome s d supply (applyDecision s d supply) := by
  unfold applyDecision
  cases hcurrent : evaluate s d.candidate with
  | error e => exact .raised e
  | ok current =>
    simp only
    split
    · split
      · next hdup => exact duplicate_outcome h hcurrent hdup.2 supply
      · exact .raised _
    · next hsame =>
      rw [ne_eq, not_not] at hsame
      subst hsame
      split
      · next hdup => exact duplicate_outcome h hcurrent hdup supply
      · split
        · exact .raised _
        · next hpermitted => exact persist_outcome h hcurrent (by simpa using hpermitted) supply

/-- The invariant survives an application. -/
theorem memoryInvariant_applyDecision (h : MemoryInvariant s) (d : ValidationDecision nfc)
    (supply : Supply) : MemoryInvariant (applyDecision s d supply).2 := by
  have houtcome := applyDecision_outcome h d supply
  generalize hrun : applyDecision s d supply = outcome at houtcome
  cases houtcome with
  | mutated s' call result row update r _ _ hm _ _ => exact h.step hm.committed
  | duplicate => exact h
  | raised => exact h

/-- A duplicate decision permits no persistence. -/
theorem not_permitted_of_duplicate (d : ValidationDecision nfc)
    (hdup : d.decisionType = .exactDuplicate) : d.persistencePermitted = false := by
  have hchecked := d.checked
  simp only [DecisionFields.postInit, DecisionFields.checkPermission, Checks.bind_ok,
    Checks.require_ok] at hchecked
  obtain ⟨_, -, _, -, _, -, _, ⟨_, -, _, hnone, -⟩, -⟩ := hchecked
  exact hnone (by rw [hdup]; decide)

/-- After a committed mutation the same evidence evaluates to a duplicate. -/
theorem evaluate_after_mutation (h : MemoryInvariant s) {d : ValidationDecision nfc}
    {supply : Supply} {call : ServiceCall} {result : MemoryRecord}
    (hcurrent : evaluate s d.candidate = .ok d) (hpermitted : d.persistencePermitted = true)
    (hm : Mutated s s' d supply call result) :
    ∃ current, evaluate s' d.candidate = .ok current ∧ current.decisionType = .exactDuplicate := by
  have h' : MemoryInvariant s' := h.step hm.committed
  obtain ⟨-, hcase⟩ := evaluate_case h hcurrent
  obtain ⟨row, update, hp, hlink⟩ := hm.persisted h hcase hpermitted
  have hreturns : ¬BlankInScope s' d.candidate → ∃ current, evaluate s' d.candidate = .ok current :=
    fun hnamed => (evaluate_raises h' d.candidate).cases.resolve_right
      fun ⟨e, _, hfailure⟩ => hnamed hfailure.2
  cases hcase with
  | refused _ hrefused => rw [hpermitted] at hrefused; cases hrefused
  | duplicate _ _ hdup _ _ _ =>
    rw [not_permitted_of_duplicate d hdup] at hpermitted
    cases hpermitted
  | create hnone _ _ _ =>
    obtain ⟨current, he⟩ := hreturns (hp.not_blankInScope h hcurrent fun old _ htarget => by
      rw [hnone] at htarget
      cases htarget)
    exact ⟨current, he, duplicate_of_match h' he hnone d.identity_eq hp.activeMatch⟩
  | correct targetRow target hstored htarget _ _ hactive hidentity _ hauthority =>
    obtain ⟨hsupersedes, rfl⟩ := hlink targetRow.memoryId htarget
    have hnamed : ¬Blank nfc targetRow := (exists_identityForRecord hstored).mp ⟨_, hidentity⟩
    obtain ⟨current, he⟩ := hreturns (hp.not_blankInScope h hcurrent fun old hold hid => by
      rw [htarget, Option.some.injEq, MemoryRow.mark_memoryId] at hid
      rwa [← StoreInvariant.eq_of_memoryId h.unique hstored.mem hold hid])
    -- The superseded target is still stored, and its history ends with the new row.
    have hmem : supersede targetRow.memoryId result targetRow ∈ s'.memories := by
      rw [hp.memories]
      exact List.mem_append_left _ (List.mem_map_of_mem hstored.mem)
    obtain ⟨superseded, hsuperseded⟩ := h'.exists_storedAs hmem
    have hid : (supersede targetRow.memoryId result targetRow).memoryId = targetRow.memoryId :=
      MemoryRow.mark_memoryId _ _ _ _ _
    have hinactive : (supersede targetRow.memoryId result targetRow).status ≠ .active := by
      intro hstill
      exact ((MemoryRow.mark_active (by decide)).mp hstill).2 rfl
    have hsupersededIdentity : identityForRecord nfc superseded = .ok d.normalizedIdentity := by
      obtain ⟨htype, hsubject, hpredicate⟩ := hp.names targetRow
      rw [identityForRecord_ok hsuperseded, htype, hsubject, hpredicate]
      exact (identityForRecord_ok hstored).mp hidentity
    obtain ⟨history, hget, hlast⟩ :=
      history_of_replacement h' hmem hp.storedAs hp.active (hid.symm ▸ hsupersedes)
    exact ⟨current, he, duplicate_of_tip h' he hauthority d.identity_eq hsuperseded
      (hid.symm ▸ htarget) hinactive hsupersededIdentity hget hlast hp.activeMatch⟩

/-- Applying a decision again after a committed mutation changes nothing and reports an active
memory of the same value. -/
theorem applyDecision_again (h : MemoryInvariant s) {d : ValidationDecision nfc}
    {supply : Supply} {call : ServiceCall} {result : MemoryRecord}
    (hcurrent : evaluate s d.candidate = .ok d) (hpermitted : d.persistencePermitted = true)
    (hm : Mutated s s' d supply call result) (again : Supply) :
    ∃ row record r, applyDecision s' d again = (.ok r, s') ∧ r.mutationApplied = false ∧
      r.memory = some record ∧
      ActiveMatch s' d.normalizedIdentity d.candidate.valueJson row record := by
  have h' : MemoryInvariant s' := h.step hm.committed
  obtain ⟨current, he, hdup⟩ := evaluate_after_mutation h hcurrent hpermitted hm
  have hne : current ≠ d := by
    rintro rfl
    rw [not_permitted_of_duplicate current hdup] at hpermitted
    cases hpermitted
  have happly : applyDecision s' d again = (duplicateResult s' current, s') := by
    simp only [applyDecision, he, if_pos hne, hpermitted, hdup, and_self, if_true]
  obtain ⟨row, record, r, hrun, hr, hmatch⟩ := duplicateResult_ok h' he hdup
  obtain ⟨hcandidate, -⟩ := evaluate_case h' he
  have hidentity := current.identity_eq
  rw [hcandidate, d.identity_eq, Except.ok.injEq] at hidentity
  rw [hcandidate, ← hidentity] at hmatch
  exact ⟨row, record, r, by rw [happly, hrun], by rw [hr], by rw [hr], hmatch⟩

/-- One atomic step of a client: a Memory OS call, or the application of a decision. Evaluations
change nothing. -/
inductive ClientStep (nfc : Nfc) where
  | memory (call : ServiceCall)
  /-- `apply` of a decision, which any client may have evaluated at any earlier time. -/
  | apply (decision : ValidationDecision nfc) (supply : Supply)

/-- The store after one step. -/
def ClientStep.next (step : ClientStep nfc) (s : MemoryStore) : MemoryStore :=
  match step with
  | .memory call => settle call.run s
  | .apply decision supply => (applyDecision s decision supply).2

/-- The store after the clients' steps, in the order in which they took effect. -/
def storeAfterSteps (steps : List (ClientStep nfc)) : MemoryStore :=
  steps.foldl (fun s step => step.next s) .empty

/-- The invariant survives every step. -/
theorem memoryInvariant_next (h : MemoryInvariant s) (step : ClientStep nfc) :
    MemoryInvariant (step.next s) := by
  cases step with
  | memory call =>
    rcases settle_cases call.run s with ⟨result, hrun⟩ | ⟨e, -, hsame⟩
    · exact h.step hrun
    · rw [ClientStep.next, hsame]
      exact h
  | apply decision supply => exact memoryInvariant_applyDecision h decision supply

/-- The invariant holds after every interleaving of steps. -/
theorem memoryInvariant_storeAfterSteps (steps : List (ClientStep nfc)) :
    MemoryInvariant (storeAfterSteps steps) := by
  induction steps using List.reverseRecOn with
  | nil => exact memoryInvariant_empty
  | append_singleton steps step ih =>
    rw [storeAfterSteps, List.foldl_append]
    exact memoryInvariant_next ih step

end Validation
end AyyoHumanoid
