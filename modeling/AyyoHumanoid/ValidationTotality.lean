import AyyoHumanoid.ValidationContext

/-!
# Evaluation always reaches a decision

On every store that Memory OS calls reach, the policy's consistency checks pass
and each branch hands the decision constructor admissible arguments. What an
evaluation can still raise is the normalization error of a stored name in scope.
-/

namespace AyyoHumanoid
namespace Validation

open PyText JsonText Memory LinkedChains

variable {nfc : Nfc} {s : MemoryStore}

/-- A revision history together with the rows it was read from. -/
structure StoredHistory (s : MemoryStore) (target : MemoryRecord) (history : List MemoryRecord) :
    Prop extends RevisionHistory history where
  /-- The identifiers are distinct. -/
  nodup : (history.map (·.memoryId)).Nodup
  /-- Every record is stored. -/
  stored : ∀ record ∈ history, ∃ row, StoredAs s row record
  /-- The target is one of the records. -/
  target_mem : target ∈ history

/-- What the service reads for a correction target. -/
inductive CorrectionRead (s : MemoryStore) :
    Option UUID → Option MemoryRecord → Bool → List MemoryRecord → Prop
  /-- The candidate corrects nothing. -/
  | nothing : CorrectionRead s none none false []
  /-- The target is not stored. -/
  | missing (id : UUID) (h : rowFor s.memories id = none) :
    CorrectionRead s (some id) none true []
  | active (row : MemoryRow) (target : MemoryRecord) (hstored : StoredAs s row target)
    (hstatus : row.status = .active) :
    CorrectionRead s (some row.memoryId) (some target) false []
  /-- The target is superseded or retracted. -/
  | inactive (row : MemoryRow) (target : MemoryRecord) (history : List MemoryRecord)
    (hstored : StoredAs s row target) (hstatus : row.status ≠ .active)
    (hget : getRevisionHistory s row.memoryId = .ok history)
    (hhistory : StoredHistory s target history) :
    CorrectionRead s (some row.memoryId) (some target) false history

/-- Every stored memory has a stored history. -/
theorem exists_storedHistory (h : MemoryInvariant s) {row : MemoryRow} {target : MemoryRecord}
    (hstored : StoredAs s row target) : ∃ history,
      getRevisionHistory s row.memoryId = .ok history ∧ StoredHistory s target history := by
  obtain ⟨chain, records, hmember, hchain, hmem, hread, hget⟩ :=
    exists_chainHistory h.toRevisionInvariant hstored.mem
  have hmap := Checks.mapM_ok.mpr hread
  refine ⟨records, hget row hmember,
    revisionHistory_of_isHistory h.toRevisionInvariant hchain hmem hread, ?_, ?_, ?_⟩
  · rw [Checks.map_of_mapM_ok hmap (·.memoryId) fun row record hread =>
      (memoryFromRow_ok hread).memoryId]
    exact (nodup_ids_of_isChain h.toRevisionInvariant hchain.linked hmem).1
  · intro record hrecord
    obtain ⟨other, hother, hotherRead⟩ := (Checks.mem_of_mapM_ok hmap).mp hrecord
    exact ⟨other, hmem other hother, hotherRead⟩
  · exact (Checks.mem_of_mapM_ok hmap).mpr ⟨row, hmember, hstored.read⟩

/-- The service reads the correction target of every candidate. -/
theorem correctionState_ok (h : MemoryInvariant s) (targetId : Option UUID) :
    ∃ target missing history, correctionState s targetId = .ok (target, missing, history) ∧
      CorrectionRead s targetId target missing history := by
  cases targetId with
  | none => exact ⟨none, false, [], rfl, .nothing⟩
  | some id =>
    cases hfound : rowFor s.memories id with
    | none =>
      refine ⟨none, true, [], ?_, .missing id hfound⟩
      simp [correctionState, demandMemory, readMemory, hfound]
    | some row =>
      obtain ⟨hmem, hid⟩ := rowFor_some hfound
      obtain ⟨target, hstored⟩ := h.exists_storedAs hmem
      have hdemand : demandMemory s.memories id = .ok target := hid ▸ hstored.demand h
      have hread := memoryFromRow_ok hstored.read
      by_cases hactive : row.status = .active
      · refine ⟨some target, false, [], ?_, hid ▸ .active row target hstored hactive⟩
        simp [correctionState, hdemand, hread.status, hactive]
      · obtain ⟨history, hget, hhistory⟩ := exists_storedHistory h hstored
        refine ⟨some target, false, history, ?_,
          hid ▸ .inactive row target history hstored hactive hget hhistory⟩
        have hstatus : target.status ≠ .active := by rwa [hread.status]
        have hgetTarget : fromMemory (getRevisionHistory s target.memoryId) = .ok history := by
          rw [fromMemory_ok, hread.memoryId, hget]
        simp only [correctionState, hdemand, if_pos hstatus, hgetTarget, Checks.ok_bind]
        rfl

/-- The loop over a revision history passes. -/
theorem validateHistory_ok {identity : NormalizedIdentity nfc} {history : List MemoryRecord}
    {ids : List UUID} {previous : Option MemoryRecord}
    (hnodup : (history.map (·.memoryId)).Nodup) (hfresh : ∀ r ∈ history, r.memoryId ∉ ids)
    (hidentity : ∀ r ∈ history, identityForRecord nfc r = .ok identity)
    (hroot : ∀ first ∈ history.head?, first.supersedes = previous.map (·.memoryId))
    (hlinked : List.IsChain (fun before after : MemoryRecord =>
      after.supersedes = some before.memoryId) history) :
    validateHistory identity ids previous history = .ok () := by
  induction history generalizing ids previous with
  | nil => rfl
  | cons record history ih =>
    rw [List.map_cons, List.nodup_cons] at hnodup
    have hrest : validateHistory identity (record.memoryId :: ids) (some record) history =
        .ok () := by
      refine ih hnodup.2 ?_ (fun r hr => hidentity r (by simp [hr])) ?_ hlinked.tail
      · intro other hother hin
        rcases List.mem_cons.mp hin with heq | hin
        · exact hnodup.1 (heq ▸ List.mem_map_of_mem hother)
        · exact hfresh other (by simp [hother]) hin
      · intro first hfirst
        cases history with
        | nil => cases hfirst
        | cons next rest =>
          cases hfirst
          exact (List.isChain_cons_cons.mp hlinked).1
    have hlink := hroot record (by simp)
    cases previous with
    | none =>
      simp only [validateHistory, Checks.unit_bind_ok, Checks.require_ok,
        hidentity record (by simp), Checks.ok_bind]
      exact ⟨hfresh record (by simp), hlink, trivial, hrest⟩
    | some earlier =>
      simp only [validateHistory, Checks.unit_bind_ok, Checks.require_ok,
        hidentity record (by simp), Checks.ok_bind]
      exact ⟨hfresh record (by simp), hlink, trivial, hrest⟩

/-- The records of a history have one identity. -/
theorem StoredHistory.identity {target : MemoryRecord} {history : List MemoryRecord}
    (h : StoredHistory s target history) {record : MemoryRecord} (hrecord : record ∈ history) :
    identityForRecord nfc record = identityForRecord nfc target :=
  identityForRecord_of_key (h.key record hrecord target h.target_mem)

/-- The checks on the correction target fail only on a blank name in scope. -/
theorem validateCorrectionContext_raises {normalized : NormalizedCandidate nfc}
    {state : PolicyState} (hread : CorrectionRead s normalized.candidate.correctionTargetId
      state.correctionTarget state.correctionTargetMissing state.revisionHistory) :
    RaisesOnly (NamingFailure s normalized.candidate)
      (validateCorrectionContext normalized state) := by
  obtain ⟨active, conflicts, target, missing, history⟩ := state
  simp only at hread
  cases htarget : normalized.candidate.correctionTargetId with
  | none =>
    rw [htarget] at hread
    cases hread
    refine .of_ok (a := ()) ?_
    simp [validateCorrectionContext, htarget, Checks.unit_bind_ok]
  | some id =>
    rw [htarget] at hread
    cases hread with
    | missing _ _ =>
      refine .of_ok (a := ()) ?_
      simp [validateCorrectionContext, htarget, Checks.unit_bind_ok]
    | active row target hstored hstatus =>
      have hfields := memoryFromRow_ok hstored.read
      refine .of_ok (a := ()) ?_
      simp [validateCorrectionContext, htarget, Checks.unit_bind_ok, hfields.memoryId,
        hfields.status, hstatus]
    | inactive row target _ hstored hstatus hget hhistory =>
      have hfields := memoryFromRow_ok hstored.read
      have hinactive : target.status ≠ .active := by rwa [hfields.status]
      simp only [validateCorrectionContext, htarget, Bool.false_eq_true, if_false,
        if_neg hinactive]
      refine RaisesOnly.bind (.require hfields.memoryId.symm) fun _ _ => ?_
      refine RaisesOnly.bind (.require (List.ne_nil_of_mem hhistory.target_mem)) fun _ _ => ?_
      refine RaisesOnly.bind (identityForRecord_raises hstored (.target htarget))
        fun identity hidentity => .of_ok (a := ()) ?_
      have hloop : validateHistory identity [] none history = .ok () :=
        validateHistory_ok hhistory.nodup (by simp)
          (fun r hr => (hhistory.identity hr).trans hidentity) hhistory.root hhistory.linked
      simp only [Checks.unit_bind_ok, Checks.require_ok, hloop]
      refine ⟨trivial, ⟨target, hhistory.target_mem, rfl, rfl⟩, hhistory.superseded, ?_⟩
      intro last hlast
      rcases hhistory.tip last hlast with h | h <;> rw [h] <;> decide

/-- A list with two different members has two elements. -/
theorem two_le_length {α : Type} {xs : List α} {a b : α} (ha : a ∈ xs) (hb : b ∈ xs)
    (hne : a ≠ b) : 2 ≤ xs.length := by
  match xs with
  | [] => cases ha
  | [x] => exact absurd ((List.mem_singleton.mp ha).trans (List.mem_singleton.mp hb).symm) hne
  | _ :: _ :: _ => simp

/-- Admissible arguments raise nothing. -/
theorem decision_raises {P : PolicyError → Prop} {normalized : NormalizedCandidate nfc}
    {decisionType : DecisionType} {reason : DecisionReason} {relevantIds conflictIds : List UUID}
    {permitted : Bool} {counts : DecisionCounts}
    (h : DecisionArgs.Admissible ⟨normalized, decisionType, reason, relevantIds, conflictIds,
      permitted, counts⟩) :
    RaisesOnly P (decision normalized decisionType reason relevantIds conflictIds permitted
      counts) := by
  obtain ⟨d, hd⟩ := (DecisionArgs.exists_run _).mpr h
  exact .of_ok hd

/-- What the counts and identifier tuples of a decision satisfy in every branch. -/
structure StateFits (relevantIds conflictIds : List UUID) (counts : DecisionCounts) : Prop where
  /-- The relevant identifiers are unique and sorted. -/
  relevantSorted : relevantIds = sortedIds relevantIds
  /-- The conflict identifiers are unique and sorted. -/
  conflictsSorted : conflictIds = sortedIds conflictIds
  /-- No count exceeds the active count. -/
  counts_le : counts.exact ≤ counts.active ∧ counts.variant ≤ counts.active
  /-- Conflicts need two active and two relevant memories. -/
  conflictCount : conflictIds ≠ [] → 2 ≤ counts.active ∧ 2 ≤ relevantIds.length

/-- A correction decision that fits the state and the table is admissible. -/
theorem admissible_correction {normalized : NormalizedCandidate nfc} {decisionType : DecisionType}
    {reason : DecisionReason} {relevantIds conflictIds : List UUID} {counts : DecisionCounts}
    (hstate : StateFits relevantIds conflictIds counts) (hcorrects : normalized.Corrects)
    (hreason : reason ∈ decisionReasons decisionType) (hnew : decisionType ≠ .acceptNew)
    (hreview : decisionType = .conflictReview → reason = .canonicalIdentityVariantRequiresReview)
    (hauthority : decisionType = .applyCorrection →
      normalized.candidate.provenanceType ∈ correctionAuthorityTypes)
    (htarget : ∀ id, normalized.candidate.correctionTargetId = some id →
      reason ≠ .correctionTargetNotFound → id ∈ relevantIds)
    (hexact : decisionType = .exactDuplicate → counts.exact ≠ 0)
    (hactive : decisionType ∈ [.conflictReview, .applyCorrection] → counts.active ≠ 0)
    (hconflict : reason = .exactValueActiveWithConflicts → conflictIds ≠ []) :
    DecisionArgs.Admissible ⟨normalized, decisionType, reason, relevantIds, conflictIds,
      decide (decisionType = .applyCorrection), counts⟩ where
  reasonOfType := hreason
  mutating := by
    intro h
    rcases List.mem_pair.mp h with h | h
    · exact absurd h hnew
    · simpa using h
  nonMutating := by
    intro h
    rcases List.mem_pair.mp h with h | h <;> simp only [show decisionType = _ from h] <;> rfl
  review := by
    intro h
    simp only [show reason = _ from hreview h, show decisionType = _ from h]
    rfl
  relevantSorted := hstate.relevantSorted
  conflictsSorted := hstate.conflictsSorted
  reasonCorrects := fun _ => hcorrects
  typeCorrects := fun _ => hcorrects
  newEvidence := fun h => absurd h hnew
  references := by
    intro h
    obtain ⟨id, hid⟩ := Option.ne_none_iff_exists'.mp hcorrects
    refine List.ne_nil_of_mem (htarget id hid ?_)
    rintro rfl
    rcases List.mem_pair.mp h with h | h <;> rw [show decisionType = _ from h] at hreason <;>
      exact absurd hreason (by decide)
  reviewReason := fun h _ => hreview h
  authority := hauthority
  target := htarget
  counts_le := hstate.counts_le
  newCount := fun h => absurd h hnew
  duplicateCount := hexact
  activeCount := hactive
  conflictCount := hstate.conflictCount
  duplicateConflict := hconflict

/-- A rejection that fits the state raises nothing. -/
theorem reject_raises {P : PolicyError → Prop} {normalized : NormalizedCandidate nfc}
    {reason : DecisionReason} {relevantIds conflictIds : List UUID} {counts : DecisionCounts}
    (hstate : StateFits relevantIds conflictIds counts) (hcorrects : normalized.Corrects)
    (hreason : reason ∈ decisionReasons .reject)
    (htarget : ∀ id, normalized.candidate.correctionTargetId = some id →
      reason ≠ .correctionTargetNotFound → id ∈ relevantIds) :
    RaisesOnly P (decision normalized .reject reason relevantIds conflictIds false counts) :=
  decision_raises (admissible_correction hstate hcorrects hreason (by decide) (by simp) (by simp)
    htarget (by simp) (by simp) (by rintro rfl; exact absurd hreason (by decide)))

section Policy

variable {normalized : NormalizedCandidate nfc} {active : List MemoryRecord}
  {conflicts : List MemoryConflict}

/-- The counts and identifiers of the active state fit every decision that refers to it. -/
theorem stateFits (h : MemoryInvariant s) (hactive : ActiveFor s normalized.identity active)
    (hconflicts : ConflictsFor s normalized.identity conflicts) (extra : List UUID)
    {counts : DecisionCounts} (hcount : counts.active = active.length)
    (hexact : counts.exact ≤ active.length) (hvariant : counts.variant ≤ active.length) :
    StateFits (sortedIds (active.map (·.memoryId) ++ extra))
      (sortedIds (conflicts.map (·.conflictId))) counts where
  relevantSorted := (sortedIds_idem _).symm
  conflictsSorted := (sortedIds_idem _).symm
  counts_le := by omega
  conflictCount := by
    intro hne
    rw [Ne, sortedIds_eq_nil, List.map_eq_nil_iff] at hne
    obtain ⟨conflict, hconflict⟩ := List.exists_mem_of_ne_nil _ hne
    obtain ⟨⟨row, hopen⟩, hidentity⟩ := (hconflicts.mem conflict).mp hconflict
    obtain ⟨hleft, hright, hcontradict, -⟩ := ConflictsFor.sides h hactive hopen hidentity
    have hids : conflict.leftMemory.memoryId ≠ conflict.rightMemory.memoryId := by
      intro hsame
      rw [List.inj_on_of_nodup_map hactive.nodup hleft hright hsame] at hcontradict
      exact recordsContradict_irrefl hcontradict
    rw [hcount]
    refine ⟨two_le_length hleft hright fun hsame => hids (by rw [hsame]), ?_⟩
    refine two_le_length (a := conflict.leftMemory.memoryId) (b := conflict.rightMemory.memoryId)
      ?_ ?_ hids <;> rw [mem_sortedIds, List.mem_append]
    · exact Or.inl (List.mem_map_of_mem hleft)
    · exact Or.inl (List.mem_map_of_mem hright)

/-- The duplicate reason belongs to duplicates and names conflicts only when there are some. -/
theorem duplicateReason_fits (conflictIds : List UUID) :
    duplicateReason conflictIds ∈ decisionReasons .exactDuplicate ∧
      duplicateReason conflictIds ∉ correctionOnlyReasons ∧
      (duplicateReason conflictIds = .exactValueActiveWithConflicts → conflictIds ≠ []) := by
  unfold duplicateReason
  split
  · next h => exact ⟨by decide, by decide, fun _ => h⟩
  · exact ⟨by decide, by decide, fun h => by cases h⟩

/-- The value test of a stored record returns. -/
theorem hasValue_stored (h : MemoryInvariant s) {row : MemoryRow} {record : MemoryRecord}
    (hstored : StoredAs s row record) (canonicalValue : PyStr) :
    hasValue canonicalValue record = .ok (decide (row.valueJson = canonicalValue)) := by
  rw [hasValue, canonicalizeJson_stored h hstored, Checks.ok_bind]
  rfl

/-- The applied tip is looked up without an error, and is a stored active record. -/
theorem appliedTip_ok (h : MemoryInvariant s) {target : MemoryRecord}
    {history : List MemoryRecord} (hhistory : StoredHistory s target history)
    (hidentity : identityForRecord nfc target = .ok normalized.identity) :
    ∃ applied, appliedTip normalized history = .ok applied ∧ ∀ tip, applied = some tip →
      ∃ row, StoredAs s row tip ∧ row.status = .active ∧
        identityForRecord nfc tip = .ok normalized.identity ∧
        hasValue normalized.canonicalValue tip = .ok true := by
  unfold appliedTip
  cases hlast : history.getLast? with
  | none => exact ⟨none, rfl, by simp⟩
  | some tip =>
    have hmem := List.mem_of_getLast? hlast
    obtain ⟨row, hstored⟩ := hhistory.stored tip hmem
    have htipIdentity := (hhistory.identity hmem).trans hidentity
    have hstatus := (memoryFromRow_ok hstored.read).status
    by_cases hactive : tip.status = .active
    · simp only [tipMatches, if_pos hactive, htipIdentity, Checks.ok_bind, if_true,
        hasValue_stored h hstored]
      refine ⟨_, rfl, fun found hfound => ?_⟩
      split at hfound
      · next hvalue =>
        cases hfound
        refine ⟨row, hstored, hstatus.symm.trans hactive, htipIdentity, ?_⟩
        rw [hasValue_stored h hstored, hvalue]
      · cases hfound
    · exact ⟨none, by simp [tipMatches, hactive], by simp⟩

/-- Evaluating a correction of a stored target fails only on a blank name in scope. -/
theorem evaluateTarget_raises (h : MemoryInvariant s)
    (hactive : ActiveFor s normalized.identity active)
    (hconflicts : ConflictsFor s normalized.identity conflicts) {row : MemoryRow}
    {target : MemoryRecord} (hstored : StoredAs s row target)
    (htarget : normalized.candidate.correctionTargetId = some row.memoryId)
    {history : List MemoryRecord}
    (hhistory : row.status ≠ .active → StoredHistory s target history)
    {counts : DecisionCounts} (hcount : counts.active = active.length)
    (hexact : counts.exact ≤ active.length) (hvariant : counts.variant ≤ active.length) :
    RaisesOnly (NamingFailure s normalized.candidate)
      (evaluateTarget normalized ⟨active, conflicts, some target, false, history⟩ target
        (sortedIds (conflicts.map (·.conflictId))) counts) := by
  have hfields := memoryFromRow_ok hstored.read
  have hcorrects : normalized.Corrects := by simp [NormalizedCandidate.Corrects, htarget]
  have hfits := stateFits h hactive hconflicts [target.memoryId] hcount hexact hvariant
  have hrelevant : ∀ extra id, normalized.candidate.correctionTargetId = some id →
      id ∈ sortedIds (active.map (·.memoryId) ++ target.memoryId :: extra) := by
    intro extra id hid
    rw [htarget, Option.some.injEq] at hid
    rw [mem_sortedIds, ← hid, hfields.memoryId]
    simp
  obtain ⟨provenance, hprovenance, hprovenanceType, -⟩ := normalized.candidate.provenance_ok
  unfold evaluateTarget
  refine RaisesOnly.bind (.of_ok hprovenance) fun found hfound => ?_
  rw [hprovenance, Except.ok.injEq] at hfound
  subst hfound
  split
  · exact reject_raises hfits hcorrects (by decide) fun id hid _ => hrelevant [] id hid
  · next hauthority =>
    rw [not_not, hprovenanceType] at hauthority
    refine RaisesOnly.bind (identityForRecord_raises hstored (.target htarget))
      fun identity hidentity => ?_
    split
    · exact reject_raises hfits hcorrects (by decide) fun id hid _ => hrelevant [] id hid
    · next hsame =>
      rw [not_not] at hsame
      subst hsame
      split
      · next hinactive =>
        rw [hfields.status] at hinactive
        obtain ⟨applied, hrun, htip⟩ := appliedTip_ok h (hhistory hinactive) hidentity
        refine RaisesOnly.bind (.of_ok hrun) fun found hfound => ?_
        rw [hrun, Except.ok.injEq] at hfound
        subst hfound
        cases applied with
        | none => exact reject_raises hfits hcorrects (by decide) fun id hid _ => hrelevant [] id hid
        | some tip =>
          obtain ⟨tipRow, hstoredTip, htipStatus, htipIdentity, -⟩ := htip tip rfl
          have hmember : tip ∈ active :=
            (hactive.mem tip).mpr ⟨tipRow, hstoredTip, htipStatus, htipIdentity⟩
          have hpos : 1 ≤ active.length := List.length_pos_of_mem hmember
          refine decision_raises (admissible_correction (stateFits h hactive hconflicts _ hcount
            (by simp only; omega) hvariant) hcorrects (by decide) (by decide) (by simp) (by simp)
            (fun id hid _ => hrelevant [tip.memoryId] id hid) ?_ (by simp) (by simp))
          intro _
          simp only
          omega
      · next hstatus =>
        rw [not_not] at hstatus
        have hmember : target ∈ active :=
          (hactive.mem target).mpr ⟨row, hstored, hfields.status.symm.trans hstatus, hidentity⟩
        have hpos : 1 ≤ active.length := List.length_pos_of_mem hmember
        refine RaisesOnly.bind (.require (List.mem_map_of_mem hmember)) fun _ _ => ?_
        split
        · exact decision_raises (admissible_correction hfits hcorrects (by decide) (by decide)
            (by simp) (by simp) (fun id hid _ => hrelevant [] id hid) (by simp)
            (fun _ => by omega) (by simp))
        · refine RaisesOnly.bind (.of_ok (hasValue_stored h hstored _)) fun unchanged _ => ?_
          split
          · obtain ⟨hreason, -, hconflict⟩ :=
              duplicateReason_fits (sortedIds (conflicts.map (·.conflictId)))
            exact decision_raises (admissible_correction (stateFits h hactive hconflicts _ hcount
              (by simp only; omega) (by simp)) hcorrects hreason (by decide) (by simp) (by simp)
              (fun id hid _ => hrelevant [] id hid) (fun _ => by simp only; omega) (by simp)
              hconflict)
          · exact decision_raises (admissible_correction (stateFits h hactive hconflicts _ hcount
              hexact (by simp)) hcorrects (by decide) (by decide) (by simp) (fun _ => hauthority)
              (fun id hid _ => hrelevant [] id hid) (by simp) (fun _ => by simp only; omega)
              (by simp))

/-- A new-evidence decision of the candidate fits the state. -/
theorem evaluateNew_raises {P : PolicyError → Prop} (h : MemoryInvariant s)
    (hactive : ActiveFor s normalized.identity active)
    (hconflicts : ConflictsFor s normalized.identity conflicts)
    (htarget : normalized.candidate.correctionTargetId = none) {target : Option MemoryRecord}
    {missing : Bool} {history : List MemoryRecord} {counts : DecisionCounts}
    (hcount : counts.active = active.length) (hexact : counts.exact ≤ active.length)
    (hvariant : counts.variant ≤ active.length) :
    RaisesOnly P (evaluateNew normalized ⟨active, conflicts, target, missing, history⟩
      (sortedIds (conflicts.map (·.conflictId))) counts) := by
  have hcorrects : ¬normalized.Corrects := by simp [NormalizedCandidate.Corrects, htarget]
  have hids : ∀ id, normalized.candidate.correctionTargetId ≠ some id := by simp [htarget]
  have hfits := stateFits h hactive hconflicts [] hcount hexact hvariant
  rw [List.append_nil] at hfits
  have hrelevant : ∀ record ∈ active, sortedIds (active.map (·.memoryId)) ≠ [] := by
    intro record hrecord
    exact List.ne_nil_of_mem (mem_sortedIds.mpr (List.mem_map_of_mem hrecord))
  obtain ⟨hreason, hplain, hconflict⟩ :=
    duplicateReason_fits (sortedIds (conflicts.map (·.conflictId)))
  unfold evaluateNew
  split
  · next hdup =>
    obtain ⟨record, hrecord⟩ := List.exists_mem_of_length_pos (l := active) (by omega)
    exact decision_raises
      { reasonOfType := hreason
        mutating := by simp
        nonMutating := fun _ => rfl
        review := by simp
        relevantSorted := hfits.relevantSorted
        conflictsSorted := hfits.conflictsSorted
        reasonCorrects := fun h => absurd h hplain
        typeCorrects := by simp
        newEvidence := by simp
        references := fun _ => hrelevant record hrecord
        reviewReason := by simp
        authority := by simp
        target := fun id hid => absurd hid (hids id)
        counts_le := hfits.counts_le
        newCount := by simp
        duplicateCount := fun _ => hdup
        activeCount := by simp
        conflictCount := hfits.conflictCount
        duplicateConflict := hconflict }
  · split
    · next hsome =>
      obtain ⟨record, hrecord⟩ := List.exists_mem_of_ne_nil active hsome
      have hpos : 1 ≤ active.length := List.length_pos_of_mem hrecord
      have hreview : ∀ {reason : DecisionReason} {permitted : Bool},
          reason ∈ decisionReasons .conflictReview →
          permitted = decide (reason = .differentActiveValue) →
          RaisesOnly P (decision normalized .conflictReview reason
            (sortedIds (active.map (·.memoryId))) (sortedIds (conflicts.map (·.conflictId)))
            permitted { counts with exact := 0 }) := by
        intro reason permitted hreason hpermitted
        exact decision_raises
          { reasonOfType := hreason
            mutating := by simp
            nonMutating := by simp
            review := fun _ => hpermitted
            relevantSorted := hfits.relevantSorted
            conflictsSorted := hfits.conflictsSorted
            reasonCorrects := by
              intro h
              rcases List.mem_pair.mp hreason with heq | heq <;>
                simp only [heq] at h <;> exact absurd h (by decide)
            typeCorrects := by simp
            newEvidence := by simp
            references := fun _ => hrelevant record hrecord
            reviewReason := fun _ h => absurd h hcorrects
            authority := by simp
            target := fun id hid => absurd hid (hids id)
            counts_le := ⟨Nat.zero_le _, hfits.counts_le.2⟩
            newCount := by simp
            duplicateCount := by simp
            activeCount := fun _ => by simp only; omega
            conflictCount := hfits.conflictCount
            duplicateConflict := by
              intro h
              simp only at h
              rw [h] at hreason
              exact absurd hreason (by decide) }
      split
      · exact hreview (by decide) rfl
      · exact hreview (by decide) rfl
    · exact decision_raises
        { reasonOfType := by simp [decisionReasons]
          mutating := fun _ => rfl
          nonMutating := by simp
          review := by simp
          relevantSorted := rfl
          conflictsSorted := rfl
          reasonCorrects := by simp [correctionOnlyReasons]
          typeCorrects := by simp
          newEvidence := fun _ => ⟨htarget, rfl, rfl⟩
          references := by simp
          reviewReason := by simp
          authority := by simp
          target := fun id hid => absurd hid (hids id)
          counts_le := ⟨Nat.le_refl 0, Nat.le_refl 0⟩
          newCount := fun _ => rfl
          duplicateCount := by simp
          activeCount := by simp
          conflictCount := by simp
          duplicateConflict := by simp }

/-- The policy fails only on a blank name in scope. -/
theorem evaluatePolicy_raises (h : MemoryInvariant s)
    (hactive : ActiveFor s normalized.identity active)
    (hconflicts : ConflictsFor s normalized.identity conflicts) {target : Option MemoryRecord}
    {missing : Bool} {history : List MemoryRecord}
    (hread : CorrectionRead s normalized.candidate.correctionTargetId target missing history) :
    RaisesOnly (NamingFailure s normalized.candidate)
      (evaluatePolicy normalized ⟨active, conflicts, target, missing, history⟩) := by
  have hvalues : ∀ record ∈ active, ∃ keep, hasValue normalized.canonicalValue record =
      .ok keep := by
    intro record hrecord
    obtain ⟨row, hstored, -, -⟩ := (hactive.mem record).mp hrecord
    exact ⟨_, hasValue_stored h hstored _⟩
  refine RaisesOnly.bind (.of_ok (validateContext_ok h hactive hconflicts)) fun _ _ => ?_
  refine RaisesOnly.bind (validateCorrectionContext_raises hread) fun _ _ => ?_
  refine RaisesOnly.bind (.selectM fun record hrecord => .of_ok (hvalues record hrecord).choose_spec)
    fun exact hexact => ?_
  obtain ⟨-, rfl⟩ := selectM_ok.mp hexact
  have hexactLe := List.length_filter_le
    (fun record => passes (hasValue normalized.canonicalValue record)) active
  have hvariantLe := List.countP_le_length
    (l := active) (p := fun record => IsVariant normalized.identity record)
  cases htarget : normalized.candidate.correctionTargetId with
  | none =>
    simp only [ne_eq, not_true_eq_false, if_false]
    exact evaluateNew_raises h hactive hconflicts htarget rfl hexactLe hvariantLe
  | some id =>
    have hcorrects : normalized.Corrects := by simp [NormalizedCandidate.Corrects, htarget]
    simp only [ne_eq, reduceCtorEq, not_false_eq_true, if_true, evaluateCorrection]
    rw [htarget] at hread
    cases hread with
    | missing _ _ =>
      rw [if_pos rfl]
      have hfits : StateFits (sortedIds (active.map (·.memoryId) ++ []))
          (sortedIds (conflicts.map (·.conflictId))) ⟨_, _, _⟩ :=
        stateFits h hactive hconflicts [] rfl hexactLe hvariantLe
      rw [List.append_nil] at hfits
      exact reject_raises hfits hcorrects (by decide) fun _ _ hne => absurd rfl hne
    | active row target hstored hstatus =>
      exact evaluateTarget_raises h hactive hconflicts hstored htarget
        (fun hne => absurd hstatus hne) rfl hexactLe hvariantLe
    | inactive row target history hstored hstatus hget hhistory =>
      exact evaluateTarget_raises h hactive hconflicts hstored htarget
        (fun _ => hhistory) rfl hexactLe hvariantLe

end Policy

/-- On a store with the invariant, evaluation fails only on a blank name in scope. -/
theorem evaluate_raises (h : MemoryInvariant s) (c : CandidateEvidence nfc) :
    RaisesOnly (NamingFailure s c) (evaluate s c) := by
  obtain ⟨normalized, hnormalize⟩ := exists_normalize c
  obtain ⟨rfl, hidentity, -⟩ := normalize_ok.mp hnormalize
  have htype : normalized.identity.memoryType = normalized.candidate.memoryType :=
    (identityOf_ok.mp hidentity).1
  refine RaisesOnly.bind (.of_ok hnormalize) fun found hfound => ?_
  rw [hnormalize, Except.ok.injEq] at hfound
  subst hfound
  refine RaisesOnly.bind (activeMemories_raises h htype) fun active hactive => ?_
  refine RaisesOnly.bind (activeConflicts_raises h) fun conflicts hconflicts => ?_
  obtain ⟨target, missing, history, hstate, hread⟩ :=
    correctionState_ok h normalized.candidate.correctionTargetId
  refine RaisesOnly.bind (.of_ok hstate) fun state hfound => ?_
  rw [hstate, Except.ok.injEq] at hfound
  subst hfound
  exact evaluatePolicy_raises h (activeMemories_ok h hactive) (activeConflicts_ok h hconflicts)
    hread

/-- After any sequence of Memory OS calls, evaluating any candidate returns a decision that
passes the decision type's own checks, or raises the normalization error. -/
theorem evaluate_serviceAfter (calls : List ServiceCall) (c : CandidateEvidence nfc) :
    (∃ d, evaluate (serviceAfter calls) c = .ok d ∧ d.toDecisionFields.postInit = .ok ()) ∨
      ∃ e, evaluate (serviceAfter calls) c = .error e ∧ e.kind = .normalization := by
  have hraises := evaluate_raises (memoryInvariant_serviceAfter calls) c
  exact hraises.cases.imp (fun ⟨d, hd⟩ => ⟨d, hd, d.checked⟩)
    fun ⟨e, he, hfailure⟩ => ⟨e, he, hfailure.1⟩

end Validation
end AyyoHumanoid
