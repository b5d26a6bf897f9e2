import AyyoHumanoid.MemoryService
import Mathlib.Data.List.Induction

/-!
# When the conflict listing returns

A conflict's creation time comes from the later addition, its resolution time
from a later call on either participant, and the two are compared only when the
conflict is read. The listing of all conflicts returns in every state of a run
exactly when no accepted correction or retraction carries a clock time before
the creation of a conflict it resolves.
-/

namespace AyyoHumanoid
namespace Memory

open PyText IsoText Transaction

/-- A conflict row as the store writes it. -/
structure ConflictRow.Written (row : ConflictRow) (created : Civil) : Prop where
  /-- The creation column. -/
  createdAt : row.createdAt = datetimeToText created
  /-- The reason is the store's. -/
  reason : row.reason = conflictReason
  /-- The resolution column. -/
  resolvedAt : row.resolvedAt = none ∨ ∃ resolved, row.resolvedAt = some (datetimeToText resolved)
  /-- Only resolved conflicts name a resolving memory. -/
  resolution : row.resolutionMemoryId ≠ none → row.resolvedAt ≠ none

/-- The row was written with some creation time. -/
def ConflictRow.WellFormed (row : ConflictRow) : Prop :=
  ∃ created, row.Written created

/-- The row is not resolved before it was created. -/
def ConflictRow.InOrder (row : ConflictRow) : Prop :=
  ∀ created resolved, row.createdAt = datetimeToText created →
    row.resolvedAt = some (datetimeToText resolved) → created ≤ resolved

/-- A freshly built conflict row is well formed. -/
theorem conflictRow_written (conflictId first second : UUID) (createdAt : Civil)
    (resolvedAt : Option Civil) (resolution : Option UUID)
    (h : resolution ≠ none → resolvedAt ≠ none) :
    (conflictRow conflictId first second createdAt resolvedAt resolution).Written createdAt where
  createdAt := rfl
  reason := rfl
  resolvedAt := by
    cases resolvedAt with
    | none => exact Or.inl rfl
    | some t => exact Or.inr ⟨t, rfl⟩
  resolution := by
    intro hresolution
    have hresolved := h hresolution
    simpa [conflictRow] using hresolved

/-- Resolving a well-formed row leaves a well-formed row. -/
theorem ConflictRow.Written.resolve {row : ConflictRow} {created : Civil}
    (h : row.Written created) (memoryId : UUID) (resolvedAt : Civil) (resolution : Option UUID) :
    (row.resolve memoryId resolvedAt resolution).Written created := by
  unfold ConflictRow.resolve
  split
  · exact ⟨h.createdAt, h.reason, Or.inr ⟨resolvedAt, rfl⟩, fun _ => by simp⟩
  · exact h

/-- The conflict reason is nonempty text. -/
theorem conflictReason_nonempty : NonemptyText conflictReason :=
  ⟨by decide, by decide⟩

/-- The constructor's checks on a conflict, one by one. -/
theorem ConflictFields.postInit_ok {f : ConflictFields} :
    f.postInit = .ok () ↔ f.leftMemory.memoryId ≠ f.rightMemory.memoryId ∧
      f.createdAt.utcoffset = some 0 ∧ NonemptyText f.reason ∧
      checkResolvedAt f.createdAt f.resolvedAt = .ok () ∧
      (f.resolutionMemoryId ≠ none → f.resolvedAt ≠ none) := by
  simp only [postInit, Checks.unit_bind_ok, Checks.require_ok, validateUtcDatetime_ok,
    validateNonemptyText_ok, Option.some.injEq, exists_eq_left']

/-- The constructor returns a conflict exactly when its checks pass. -/
theorem MemoryConflict.construct_ok {fields : ConflictFields} :
    (∃ conflict, MemoryConflict.construct fields = .ok conflict) ↔ fields.postInit = .ok () := by
  unfold MemoryConflict.construct
  split
  · next h => simp [h]
  · next e h => simp [h]

/-- A stored well-formed memory can be demanded. -/
theorem demandMemory_of_stored {memories : List MemoryRow}
    (hrows : ∀ row ∈ memories, row.WellFormed) {memoryId : UUID} (h : Stored memories memoryId) :
    ∃ record, demandMemory memories memoryId = .ok record ∧ record.memoryId = memoryId := by
  cases hfind : rowFor memories memoryId with
  | none => exact absurd h (rowFor_none.mp hfind)
  | some row =>
    obtain ⟨hmem, hid⟩ := rowFor_some hfind
    obtain ⟨record, hrecord⟩ := (hrows row hmem).rehydrates
    exact ⟨record, demandMemory_ok.mpr ⟨row, hfind, hrecord.read⟩,
      (memoryFromRow_ok hrecord.read).memoryId.trans hid⟩

/-- The text of a resolution column reads as its instant. -/
theorem parseOptionalDatetime_some (t : Civil) :
    parseOptionalDatetime (some (datetimeToText t)) = .ok (some (PyDatetime.utc t)) := by
  simp [parseOptionalDatetime, parseDatetime_toText, Except.map]

/-- A stored conflict rebuilds exactly when it is not resolved before it was created. -/
theorem conflictFromRow_ok {memories : List MemoryRow}
    (hrows : ∀ row ∈ memories, row.WellFormed) {row : ConflictRow} {created : Civil}
    (hwritten : row.Written created) (hordered : row.leftMemoryId < row.rightMemoryId)
    (hleft : Stored memories row.leftMemoryId) (hright : Stored memories row.rightMemoryId) :
    (∃ conflict, conflictFromRow memories row = .ok conflict) ↔ row.InOrder := by
  obtain ⟨left, hleftRead, hleftId⟩ := demandMemory_of_stored hrows hleft
  obtain ⟨right, hrightRead, hrightId⟩ := demandMemory_of_stored hrows hright
  have hsides : left.memoryId ≠ right.memoryId := by
    rw [hleftId, hrightId]
    exact ne_of_lt hordered
  have hcreated : ∀ other, row.createdAt = datetimeToText other → other = created := by
    intro other hother
    rw [hwritten.createdAt] at hother
    exact (datetimeToText_injective hother).symm
  rcases hwritten.resolvedAt with hopen | ⟨resolved, hresolved⟩
  · -- An unresolved row has nothing to compare.
    have horder : row.InOrder := fun _ _ _ h => by simp [hopen] at h
    have hresolution : row.resolutionMemoryId = none := by
      by_contra h
      exact hwritten.resolution h hopen
    simp only [conflictFromRow, hleftRead, hrightRead, hwritten.createdAt, parseDatetime_toText,
      hopen, parseOptionalDatetime, Checks.bind_ok, Except.ok.injEq, exists_eq_left']
    rw [MemoryConflict.construct_ok, ConflictFields.postInit_ok]
    simp only [horder, iff_true]
    exact ⟨hsides, rfl, hwritten.reason ▸ conflictReason_nonempty, rfl, by simp [hresolution]⟩
  · have hiff : row.InOrder ↔ created ≤ resolved := by
      constructor
      · exact fun h => h created resolved hwritten.createdAt hresolved
      · intro h c r hc hr
        rw [hresolved, Option.some.injEq] at hr
        rw [hcreated c hc, ← datetimeToText_injective hr]
        exact h
    simp only [conflictFromRow, hleftRead, hrightRead, hwritten.createdAt, parseDatetime_toText,
      hresolved, parseOptionalDatetime_some, Checks.bind_ok, Except.ok.injEq, exists_eq_left']
    rw [MemoryConflict.construct_ok, ConflictFields.postInit_ok, hiff]
    simp only [checkResolvedAt, Checks.unit_bind_ok, validateUtcDatetime_ok, Checks.require_ok]
    constructor
    · rintro ⟨-, -, -, ⟨-, h⟩, -⟩
      exact h
    · intro h
      exact ⟨hsides, rfl, hwritten.reason ▸ conflictReason_nonempty, ⟨rfl, h⟩, by simp⟩

/-- The conflict listing without filters, resolved conflicts included, returns. -/
def ListsAll (s : MemoryStore) : Prop :=
  ∃ conflicts, listConflicts s none none true = .ok conflicts

/-- Without filters, every stored conflict is selected. -/
theorem mem_selectConflicts_all {s : MemoryStore} (htable : ConflictTable s)
    {row : ConflictRow} : row ∈ selectConflicts s none none true ↔ row ∈ s.conflicts := by
  simp only [selectConflicts, (List.perm_insertionSort _ _).mem_iff, List.mem_filter,
    decide_eq_true_eq, and_iff_left_iff_imp]
  intro hrow
  obtain ⟨left, hleft, hid⟩ := (htable.stored row hrow).1
  exact ⟨⟨left, hleft, hid, by simp, by simp⟩, Or.inl rfl⟩

/-- The listing returns exactly when no stored conflict is resolved before it was created. -/
theorem listsAll_iff {s : MemoryStore} (hinv : StoreInvariant s)
    (hwritten : ∀ row ∈ s.conflicts, row.WellFormed) :
    ListsAll s ↔ ∀ row ∈ s.conflicts, row.InOrder := by
  have hrows : ListsAll s ↔ ∃ conflicts,
      (selectConflicts s none none true).mapM (conflictFromRow s.memories) = .ok conflicts := by
    simp [ListsAll, listConflicts, Checks.bind_ok, validateFilter, bindTexts]
  rw [hrows, Checks.exists_mapM_ok]
  constructor
  · intro h row hrow
    obtain ⟨created, hcreated⟩ := hwritten row hrow
    obtain ⟨hleft, hright⟩ := hinv.table.stored row hrow
    exact (conflictFromRow_ok hinv.wellFormed hcreated (hinv.table.ordered row hrow) hleft
      hright).mp (h row ((mem_selectConflicts_all hinv.table).mpr hrow))
  · intro h row hrow
    have hrow := (mem_selectConflicts_all hinv.table).mp hrow
    obtain ⟨created, hcreated⟩ := hwritten row hrow
    obtain ⟨hleft, hright⟩ := hinv.table.stored row hrow
    exact (conflictFromRow_ok hinv.wellFormed hcreated (hinv.table.ordered row hrow) hleft
      hright).mpr (h row hrow)

/-- New conflicts are well formed and unresolved. -/
theorem newConflicts_open {record : MemoryRecord} {valueJson : PyStr} {rows : List MemoryRow}
    {uuids : Nat → UUID} {row : ConflictRow}
    (h : row ∈ newConflicts record valueJson rows uuids) :
    row.WellFormed ∧ row.resolvedAt = none := by
  obtain ⟨rival, -, -, conflictId, rfl⟩ := mem_newConflicts h
  exact ⟨⟨_, conflictRow_written _ _ _ _ _ _ (by simp)⟩, rfl⟩

/-- An unresolved conflict is in order. -/
theorem ConflictRow.inOrder_of_open {row : ConflictRow} (h : row.resolvedAt = none) :
    row.InOrder := fun _ _ _ hresolved => by simp [h] at hresolved

/-- The conflict that a correction records at once is well formed and in order. -/
theorem correctionConflict_inOrder (conflictId : UUID) (target replacement : MemoryRecord) :
    (correctionConflict conflictId target replacement).WellFormed ∧
      (correctionConflict conflictId target replacement).InOrder := by
  refine ⟨⟨_, conflictRow_written _ _ _ _ _ _ (by simp)⟩, ?_⟩
  intro created resolved hcreated hresolved
  have hc := datetimeToText_injective hcreated
  have hr := datetimeToText_injective (Option.some.inj hresolved)
  rw [← hc, ← hr]

/-- No open conflict of the memory was created after the given time. -/
def NoLaterConflict (s : MemoryStore) (memoryId : UUID) (time : Civil) : Prop :=
  ∀ row ∈ s.conflicts, row.OpenOver memoryId → ∀ created, row.createdAt = datetimeToText created →
    created ≤ time

/-- Resolving a memory's conflicts keeps all conflicts in order exactly when none was created
later than the resolution. -/
theorem resolveRows_inOrder {s : MemoryStore} {memoryId : UUID} {time : Civil}
    {resolution : Option UUID} (horder : ∀ row ∈ s.conflicts, row.InOrder) :
    (∀ row ∈ resolveRows s.conflicts memoryId time resolution, row.InOrder) ↔
      NoLaterConflict s memoryId time := by
  constructor
  · intro h row hrow hopen created hcreated
    have hresolved := h _ (List.mem_map_of_mem hrow)
    rw [ConflictRow.resolve, if_pos hopen] at hresolved
    exact hresolved created time hcreated rfl
  · intro h row hrow
    obtain ⟨old, hold, rfl⟩ := List.mem_map.mp hrow
    unfold ConflictRow.resolve
    split
    · next hopen =>
      intro created resolved hcreated hresolved
      have hr := datetimeToText_injective (Option.some.inj hresolved)
      rw [← hr]
      exact h old hold hopen created hcreated
    · exact horder old hold

/-- What holds of every store that service calls reach. -/
structure ServiceInvariant (s : MemoryStore) : Prop extends StoreInvariant s where
  /-- Conflict rows were written by the store. -/
  conflictsWritten : ∀ row ∈ s.conflicts, row.WellFormed

/-- Resolved rows stay well formed. -/
theorem resolveRows_wellFormed {conflicts : List ConflictRow}
    (h : ∀ row ∈ conflicts, row.WellFormed) (memoryId : UUID) (time : Civil)
    (resolution : Option UUID) :
    ∀ row ∈ resolveRows conflicts memoryId time resolution, row.WellFormed := by
  intro row hrow
  obtain ⟨old, hold, rfl⟩ := List.mem_map.mp hrow
  obtain ⟨created, hcreated⟩ := h old hold
  exact ⟨created, hcreated.resolve memoryId time resolution⟩

/-- The memory whose conflicts a call resolves, with the time it resolves them at. -/
def ServiceCall.resolves : ServiceCall → Option (UUID × Civil)
  | .create _ _ _ _ _ => none
  | .correct memoryId _ _ supply => some (memoryId, supply.clock.civil)
  | .retract memoryId _ supply => some (memoryId, supply.clock.civil)

/-- The call's clock is not behind the creation of an open conflict it would resolve. -/
def ServiceCall.ResolvesInOrder (call : ServiceCall) (s : MemoryStore) : Prop :=
  ∀ memoryId time, call.resolves = some (memoryId, time) → NoLaterConflict s memoryId time

/-- How a committed service call changes the conflict table: rows that are open or in order
are appended, after the conflicts of the call's memory were resolved. -/
theorem ServiceCall.conflicts_after {call : ServiceCall} {s s' : MemoryStore}
    {result : MemoryRecord} (h : call.run.run s = .ok (result, s')) :
    ∃ added : List ConflictRow, (∀ row ∈ added, row.WellFormed ∧ row.InOrder) ∧
      ((call.resolves = none ∧ s'.conflicts = s.conflicts ++ added) ∨
        ∃ memoryId time resolution, call.resolves = some (memoryId, time) ∧
          s'.conflicts = resolveRows s.conflicts memoryId time resolution ++ added) := by
  cases call with
  | create memoryType subject predicate evidence supply =>
    obtain ⟨-, row, hadded⟩ := addMemory_ok (createMemory_ok h).2.2
    refine ⟨_, ?_, Or.inl ⟨rfl, hadded.conflicts⟩⟩
    intro conflict hconflict
    obtain ⟨hwritten, hopen⟩ := newConflicts_open hconflict
    exact ⟨hwritten, conflict.inOrder_of_open hopen⟩
  | correct memoryId evidence reason supply =>
    obtain ⟨_, _, -, -, hprepare, hcorrect⟩ := correctMemoryCall_ok h
    obtain ⟨-, -, -, -, hfields⟩ := prepareCorrection_ok.mp hprepare
    obtain ⟨-, targetRow, target, row, recorded, added, hcorrected⟩ := correctMemory_ok hcorrect
    obtain ⟨uuids, hadded⟩ := hcorrected.addedShape
    have htime : result.createdAt.civil = supply.clock.civil := by rw [hfields]; rfl
    refine ⟨recorded ++ added, ?_, Or.inr ⟨memoryId, supply.clock.civil, some result.memoryId, rfl,
      by rw [hcorrected.conflicts, htime, List.append_assoc]⟩⟩
    intro conflict hconflict
    rcases List.mem_append.mp hconflict with hconflict | hconflict
    · rcases hcorrected.recordedShape with hshape | ⟨conflictId, hshape⟩ <;>
        rw [hshape] at hconflict
      · cases hconflict
      · rw [List.mem_singleton.mp hconflict]
        exact correctionConflict_inOrder conflictId target result
    · rw [hadded] at hconflict
      obtain ⟨hwritten, hopen⟩ := newConflicts_open hconflict
      exact ⟨hwritten, conflict.inOrder_of_open hopen⟩
  | retract memoryId reason supply =>
    obtain ⟨-, -, row, record, hretracted⟩ := retractMemory_ok (retractMemoryCall_ok h)
    refine ⟨[], by simp, Or.inr ⟨memoryId, supply.clock.civil, none, rfl, ?_⟩⟩
    rw [hretracted.conflicts, List.append_nil]

/-- Every committed service call keeps the service invariant. -/
theorem ServiceInvariant.step {call : ServiceCall} {s s' : MemoryStore} {result : MemoryRecord}
    (h : ServiceInvariant s) (hrun : call.run.run s = .ok (result, s')) :
    ServiceInvariant s' := by
  obtain ⟨storeCall, hstore⟩ := call.refines hrun
  obtain ⟨added, hadded, hcases⟩ := call.conflicts_after hrun
  refine ⟨h.toStoreInvariant.step hstore, ?_⟩
  intro row hrow
  rcases hcases with ⟨-, hconflicts⟩ | ⟨memoryId, time, resolution, -, hconflicts⟩ <;>
    rw [hconflicts] at hrow <;> rcases List.mem_append.mp hrow with hrow | hrow
  · exact h.conflictsWritten row hrow
  · exact (hadded row hrow).1
  · exact resolveRows_wellFormed h.conflictsWritten memoryId time resolution row hrow
  · exact (hadded row hrow).1

/-- The service invariant holds after every sequence of service calls. -/
theorem serviceInvariant_serviceAfter (calls : List ServiceCall) :
    ServiceInvariant (serviceAfter calls) :=
  runAll_invariant (fun _ _ _ _ h hrun => h.step hrun)
    ⟨storeInvariant_empty, by simp [MemoryStore.empty]⟩ calls

/-- After a committed call the listing returns exactly when the call resolved in order,
provided it returned before. -/
theorem listsAll_step {call : ServiceCall} {s s' : MemoryStore} {result : MemoryRecord}
    (h : ServiceInvariant s) (hlists : ListsAll s) (hrun : call.run.run s = .ok (result, s')) :
    ListsAll s' ↔ call.ResolvesInOrder s := by
  have hafter := h.step hrun
  obtain ⟨added, hadded, hcases⟩ := call.conflicts_after hrun
  have horder := (listsAll_iff h.toStoreInvariant h.conflictsWritten).mp hlists
  rw [listsAll_iff hafter.toStoreInvariant hafter.conflictsWritten]
  have hsplit : ∀ before : List ConflictRow, (∀ row ∈ before ++ added, row.InOrder) ↔
      ∀ row ∈ before, row.InOrder := by
    intro before
    rw [List.forall_mem_append]
    exact and_iff_left fun row hrow => (hadded row hrow).2
  rcases hcases with ⟨hnone, hconflicts⟩ | ⟨memoryId, time, resolution, hsome, hconflicts⟩ <;>
    rw [hconflicts, hsplit]
  · simp only [ServiceCall.ResolvesInOrder, hnone, reduceCtorEq, false_implies, implies_true,
      iff_true]
    exact horder
  · rw [resolveRows_inOrder horder]
    simp only [ServiceCall.ResolvesInOrder, hsome, Option.some.injEq, Prod.mk.injEq]
    constructor
    · rintro hlater _ _ ⟨rfl, rfl⟩
      exact hlater
    · exact fun hall => hall memoryId time ⟨rfl, rfl⟩

/-- In a run of service calls, the conflict listing returns in every state passed exactly when
every accepted call is in order with the conflicts it resolves. -/
theorem listsAll_along_run (calls : List ServiceCall) :
    (∀ before, before <+: calls → ListsAll (serviceAfter before)) ↔
      ∀ before call, before ++ [call] <+: calls →
        (∃ result s', call.run.run (serviceAfter before) = .ok (result, s')) →
          call.ResolvesInOrder (serviceAfter before) := by
  constructor
  · rintro hlists before call hprefix ⟨result, s', hrun⟩
    have hbefore := hlists before ((List.prefix_append before [call]).trans hprefix)
    have hafter := hlists (before ++ [call]) hprefix
    rw [serviceAfter_append_singleton, settle_ok hrun] at hafter
    exact (listsAll_step (serviceInvariant_serviceAfter before) hbefore hrun).mp hafter
  · intro hcalls before
    induction before using List.reverseRecOn with
    | nil =>
      intro _
      exact (listsAll_iff storeInvariant_empty (by simp [MemoryStore.empty])).mpr
        (by simp [MemoryStore.empty])
    | append_singleton before call ih =>
      intro hprefix
      have hbefore := ih ((List.prefix_append before [call]).trans hprefix)
      rw [serviceAfter_append_singleton]
      rcases settle_cases call.run (serviceAfter before) with ⟨result, hrun⟩ | ⟨e, -, hsame⟩
      · exact (listsAll_step (serviceInvariant_serviceAfter before) hbefore hrun).mpr
          (hcalls before call hprefix ⟨result, _, hrun⟩)
      · rw [hsame]
        exact hbefore

/-- Evidence of one owner statement, for concrete runs. -/
def ownerEvidence (value : String) : Evidence where
  value := .str (py value)
  provenance := ownerVoice
  confidence := .finite 1
  observedAt := minuteOf2026 0
  metadata := none

/-- The clock and identifiers of one call, for concrete runs. -/
def supplyAt (minute : Nat) (newId : Fin (2 ^ 128)) : Supply where
  clock := minuteOf2026 minute
  newId := ⟨newId⟩
  uuids := fun n => ⟨Fin.ofNat _ (n + 100 * (minute + 1))⟩

/-- Two contradicting statements at minutes 10 and 20, and a retraction of the first after the
clock stepped back to minute 15. -/
def backdatedRetraction : List ServiceCall :=
  [.create .preference (py "owner") (py "drink") (ownerEvidence "tea") (supplyAt 10 1),
    .create .preference (py "owner") (py "drink") (ownerEvidence "coffee") (supplyAt 20 2),
    .retract ⟨1⟩ (py "mistaken") (supplyAt 15 3)]

/-- The backdated retraction is accepted and the listing of all conflicts raises. -/
theorem not_forall_listsAll : ¬∀ calls : List ServiceCall, ListsAll (serviceAfter calls) := by
  intro hall
  obtain ⟨conflicts, hlist⟩ := hall backdatedRetraction
  have hraises : ((listConflicts (serviceAfter backdatedRetraction) none none true).toOption).isNone =
      true := by decide
  rw [hlist] at hraises
  cases hraises

end Memory
end AyyoHumanoid
