import AyyoHumanoid.MemoryConflicts
import AyyoHumanoid.MemoryReads

/-!
# The memory service

The application API over the store. Each mutating call takes the values its
clock and identifier factory return; the clock is only required to be UTC. A
service call issues at most one store transaction, so every service run is a
store run.
-/

namespace AyyoHumanoid
namespace Memory

open PyText Transaction

/-- `_CORRECTION_PROVENANCE_TYPES`. -/
def correctionProvenanceTypes : List ProvenanceType :=
  [.explicitOwnerStatement, .trustedManualImport]

/-- The values that the environment supplies to one mutating call. -/
structure Supply where
  /-- What the clock returns. -/
  clock : PyDatetime
  /-- What the identifier factory returns. -/
  newId : UUID
  /-- What successive `uuid4()` calls of the store return. -/
  uuids : Nat → UUID

/-- The evidence arguments shared by creation and correction. -/
structure Evidence where
  value : Json
  provenance : Provenance
  confidence : PyNumber
  observedAt : PyDatetime
  /-- `metadata`, absent when the caller gives none. -/
  metadata : Option (List (PyStr × Json))
  deriving DecidableEq

/-- The record `create_memory` builds. -/
def newRecordFields (memoryType : MemoryType) (subject predicate : PyStr) (evidence : Evidence)
    (supply : Supply) : RecordFields where
  memoryId := supply.newId
  memoryType := memoryType
  subject := subject
  predicate := predicate
  value := evidence.value
  provenance := evidence.provenance
  confidence := evidence.confidence
  observedAt := evidence.observedAt
  createdAt := supply.clock
  status := .active
  statusChangedAt := supply.clock
  metadata := evidence.metadata.getD []

/-- The record `correct_memory` builds from its target. -/
def replacementFields (target : MemoryRecord) (evidence : Evidence) (reason : PyStr)
    (supply : Supply) : RecordFields where
  memoryId := supply.newId
  memoryType := target.memoryType
  subject := target.subject
  predicate := target.predicate
  value := evidence.value
  provenance := evidence.provenance
  confidence := evidence.confidence
  observedAt := evidence.observedAt
  createdAt := supply.clock
  status := .active
  statusChangedAt := supply.clock
  supersedes := some target.memoryId
  revisionReason := some reason
  metadata := evidence.metadata.getD target.metadata

/-- `_current_time`. -/
def currentTime (supply : Supply) : Except MemoryError Unit :=
  validateUtcDatetime supply.clock (py "clock result")

/-- `MemoryService.create_memory`. -/
def createMemory (memoryType : MemoryType) (subject predicate : PyStr) (evidence : Evidence)
    (supply : Supply) : StoreM MemoryRecord := do
  lift (currentTime supply)
  let record ← lift (MemoryRecord.construct
    (newRecordFields memoryType subject predicate evidence supply))
  addMemory record supply.uuids

/-- The checks `MemoryService.correct_memory` makes on the target it read, and the
replacement it builds. -/
def prepareCorrection (target : MemoryRecord) (memoryId : UUID) (evidence : Evidence)
    (reason : PyStr) (supply : Supply) : Except MemoryError MemoryRecord := do
  require (target.status ≠ .retracted)
    ⟨.alreadyRetracted, memoryMessage memoryId (py " is retracted")⟩
  require (target.status = .active)
    ⟨.invalidCorrectionTarget, memoryMessage memoryId (py " is already superseded")⟩
  require (evidence.provenance.provenanceType ∈ correctionProvenanceTypes)
    ⟨.invalidProvenance,
      py "corrections require an explicit owner statement or trusted manual import"⟩
  validateNonemptyText (some reason) (py "correction reason")
  currentTime supply
  MemoryRecord.construct (replacementFields target evidence reason supply)

/-- `MemoryService.correct_memory`, with no other client between its read and its
transaction. -/
def correctMemoryCall (memoryId : UUID) (evidence : Evidence) (reason : PyStr)
    (supply : Supply) : StoreM MemoryRecord := do
  let target ← requireMemory memoryId
  let replacement ← lift (prepareCorrection target memoryId evidence reason supply)
  correctMemory target.memoryId replacement supply.uuids

/-- `MemoryService.retract_memory`. -/
def retractMemoryCall (memoryId : UUID) (reason : PyStr) (supply : Supply) :
    StoreM MemoryRecord := do
  lift (validateNonemptyText (some reason) (py "retraction reason"))
  lift (currentTime supply)
  retractMemory memoryId reason supply.clock

/-- A mutating call on the service. -/
inductive ServiceCall where
  /-- `create_memory`. -/
  | create (memoryType : MemoryType) (subject predicate : PyStr) (evidence : Evidence)
    (supply : Supply)
  /-- `correct_memory`. -/
  | correct (memoryId : UUID) (evidence : Evidence) (reason : PyStr) (supply : Supply)
  /-- `retract_memory`. -/
  | retract (memoryId : UUID) (reason : PyStr) (supply : Supply)

/-- Run one service call. -/
def ServiceCall.run : ServiceCall → StoreM MemoryRecord
  | .create memoryType subject predicate evidence supply =>
    createMemory memoryType subject predicate evidence supply
  | .correct memoryId evidence reason supply => correctMemoryCall memoryId evidence reason supply
  | .retract memoryId reason supply => retractMemoryCall memoryId reason supply

/-- The store after a sequence of service calls on the empty store. -/
def serviceAfter (calls : List ServiceCall) : MemoryStore :=
  runAll ServiceCall.run .empty calls

/-- One service call more. -/
theorem serviceAfter_append_singleton (calls : List ServiceCall) (call : ServiceCall) :
    serviceAfter (calls ++ [call]) = settle call.run (serviceAfter calls) :=
  runAll_append_singleton _ _ _ _

/-- A committed creation added one record. -/
theorem createMemory_ok {memoryType : MemoryType} {subject predicate : PyStr}
    {evidence : Evidence} {supply : Supply} {s s' : MemoryStore} {result : MemoryRecord}
    (h : (createMemory memoryType subject predicate evidence supply).run s = .ok (result, s')) :
    supply.clock.utcoffset = some 0 ∧
      result.toRecordFields = newRecordFields memoryType subject predicate evidence supply ∧
      (addMemory result supply.uuids).run s = .ok (result, s') := by
  simp only [createMemory, run_bind_ok, run_lift_ok, currentTime, validateUtcDatetime_ok,
    MemoryRecord.construct_ok] at h
  obtain ⟨_, _, ⟨hutc, rfl⟩, record, _, ⟨hrecord, rfl⟩, hadd⟩ := h
  have hsame := (addMemory_ok hadd).1
  subst hsame
  exact ⟨hutc, hrecord, hadd⟩

/-- A prepared correction replaces an active target under an authoritative source. -/
theorem prepareCorrection_ok {target replacement : MemoryRecord} {memoryId : UUID}
    {evidence : Evidence} {reason : PyStr} {supply : Supply} :
    prepareCorrection target memoryId evidence reason supply = .ok replacement ↔
      target.status = .active ∧
        evidence.provenance.provenanceType ∈ correctionProvenanceTypes ∧
        NonemptyText reason ∧ supply.clock.utcoffset = some 0 ∧
        replacement.toRecordFields = replacementFields target evidence reason supply := by
  simp only [prepareCorrection, Checks.bind_ok, Checks.require_ok, currentTime,
    validateUtcDatetime_ok, validateNonemptyText_ok, Option.some.injEq, exists_eq_left',
    MemoryRecord.construct_ok]
  constructor
  · rintro ⟨_, -, _, hactive, _, hauthority, _, hreason, _, hutc, hfields⟩
    exact ⟨hactive, hauthority, hreason, hutc, hfields⟩
  · rintro ⟨hactive, hauthority, hreason, hutc, hfields⟩
    exact ⟨(), by simp [hactive], (), hactive, (), hauthority, (), hreason, (), hutc, hfields⟩

/-- A committed correction replaced the record it read. -/
theorem correctMemoryCall_ok {memoryId : UUID} {evidence : Evidence} {reason : PyStr}
    {supply : Supply} {s s' : MemoryStore} {result : MemoryRecord}
    (h : (correctMemoryCall memoryId evidence reason supply).run s = .ok (result, s')) :
    ∃ row target, rowFor s.memories memoryId = some row ∧ memoryFromRow row = .ok target ∧
      prepareCorrection target memoryId evidence reason supply = .ok result ∧
      (correctMemory memoryId result supply.uuids).run s = .ok (result, s') := by
  simp only [correctMemoryCall, run_bind_ok, run_lift_ok, requireMemory_ok] at h
  obtain ⟨target, _, ⟨rfl, row, hfound, hread⟩, replacement, _, ⟨hprepare, rfl⟩, hcorrect⟩ := h
  have hid : target.memoryId = memoryId :=
    (memoryFromRow_ok hread).memoryId.trans (rowFor_some hfound).2
  rw [hid] at hcorrect
  have hsame := (correctMemory_ok hcorrect).1
  subst hsame
  exact ⟨row, target, hfound, hread, hprepare, hcorrect⟩

/-- A committed retraction is one store retraction. -/
theorem retractMemoryCall_ok {memoryId : UUID} {reason : PyStr} {supply : Supply}
    {s s' : MemoryStore} {result : MemoryRecord}
    (h : (retractMemoryCall memoryId reason supply).run s = .ok (result, s')) :
    (retractMemory memoryId reason supply.clock).run s = .ok (result, s') := by
  simp only [retractMemoryCall, run_bind_ok, run_lift_ok] at h
  obtain ⟨_, _, ⟨-, rfl⟩, _, _, ⟨-, rfl⟩, hretract⟩ := h
  exact hretract

/-- Every committed service call is a committed store call. -/
theorem ServiceCall.refines {call : ServiceCall} {s s' : MemoryStore} {result : MemoryRecord}
    (h : call.run.run s = .ok (result, s')) :
    ∃ storeCall : StoreCall, storeCall.run.run s = .ok (result, s') := by
  cases call with
  | create memoryType subject predicate evidence supply =>
    exact ⟨.add result supply.uuids, (createMemory_ok h).2.2⟩
  | correct memoryId evidence reason supply =>
    obtain ⟨row, target, -, -, -, hcorrect⟩ := correctMemoryCall_ok h
    exact ⟨.correct memoryId result supply.uuids, hcorrect⟩
  | retract memoryId reason supply =>
    exact ⟨.retract memoryId reason supply.clock, retractMemoryCall_ok h⟩

end Memory
end AyyoHumanoid
