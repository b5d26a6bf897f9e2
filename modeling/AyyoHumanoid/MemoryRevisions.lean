import AyyoHumanoid.MemoryConflictTimes
import AyyoHumanoid.MemoryHistory

/-!
# The revision history walks

`get_revision_history` walks back to a root and forward to a tip. On the
chains of a reachable store both walks end within their bounds, and the result
is the chain of the memory asked for: the same list for each of its members.
Clients may interleave their transactions and act on stale reads.
-/

namespace AyyoHumanoid
namespace Memory

open PyText IsoText Transaction LinkedChains

/-- A revision history as the source promises it. -/
structure RevisionHistory (history : List MemoryRecord) : Prop where
  /-- The first record supersedes nothing. -/
  root : ∀ first ∈ history.head?, first.supersedes = none
  /-- Each next record supersedes exactly the previous one. -/
  linked : List.IsChain (fun before after => after.supersedes = some before.memoryId) history
  /-- All records share type, subject and predicate. -/
  key : ∀ left ∈ history, ∀ right ∈ history, left.key = right.key
  /-- Creation times never decrease. -/
  time : List.IsChain
    (fun before after => before.createdAt.civil ≤ after.createdAt.civil) history
  /-- Every record but the last is superseded. -/
  superseded : ∀ record ∈ history.dropLast, record.status = .superseded
  /-- The last record is active or retracted. -/
  tip : ∀ last ∈ history.getLast?, last.status = .active ∨ last.status = .retracted

section Chains

variable {s : MemoryStore}

/-- Links follow the storage order. -/
theorem ranked_supersedes (h : RevisionInvariant s) :
    Ranked (Supersedes s.memories) (fun row => s.memories.idxOf row) s.memories.length where
  below := fun hlink => List.idxOf_lt_length_of_mem hlink.later_mem
  up := by
    intro a b hlink
    have ha := List.idxOf_lt_length_of_mem hlink.earlier_mem
    have hb := List.idxOf_lt_length_of_mem hlink.later_mem
    by_contra hnot
    rcases Nat.lt_or_eq_of_le (Nat.le_of_not_lt hnot) with hlt | heq
    · have hordered := List.pairwise_iff_getElem.mp h.chains.ordered _ _ hb ha hlt
      rw [List.getElem_idxOf hb, List.getElem_idxOf ha] at hordered
      exact hordered hlink.link
    · -- Equal ranks would make the row supersede itself.
      have hsame : b = a := by
        have hget := List.getElem_idxOf hb
        simp only [heq] at hget
        rw [← hget, List.getElem_idxOf ha]
      have hself := hlink.link
      rw [← hsame] at hself
      obtain ⟨record, hrecord⟩ := h.wellFormed b hlink.later_mem
      obtain ⟨hid, -⟩ := recordRow_key hrecord
      rw [(recordRow_createdAt hrecord).2, hid] at hself
      exact record.valid.notSelf hself

/-- The rows of a chain that has a stored member are all stored. -/
theorem mem_of_isChain {chain : List MemoryRow}
    (hchain : List.IsChain (Supersedes s.memories) chain) {row : MemoryRow} (hrow : row ∈ chain)
    (hmem : row ∈ s.memories) : ∀ other ∈ chain, other ∈ s.memories :=
  forall_mem_of_mem (fun _ _ hlink => ⟨hlink.earlier_mem, hlink.later_mem⟩) hchain hrow hmem

/-- The identifiers along a chain of stored rows are distinct, and the chain is no longer
than the table. -/
theorem nodup_ids_of_isChain (h : RevisionInvariant s) {chain : List MemoryRow}
    (hchain : List.IsChain (Supersedes s.memories) chain)
    (hmem : ∀ row ∈ chain, row ∈ s.memories) :
    (chain.map (·.memoryId)).Nodup ∧ chain.length ≤ s.memories.length := by
  have hnodup := nodup_of_isChain (ranked_supersedes h) hchain
  refine ⟨?_, (List.subperm_of_subset hnodup hmem).length_le⟩
  refine hnodup.map_on fun a ha b hb hid => ?_
  exact StoreInvariant.eq_of_memoryId h.unique (hmem a ha) (hmem b hb) hid

/-- The successor of a row in a chain is the row the forward walk finds. -/
theorem successorRow_of_supersedes (h : RevisionInvariant s) {earlier later : MemoryRow}
    (hlink : Supersedes s.memories earlier later) :
    successorRow s.memories earlier.memoryId = some later := by
  cases hfind : successorRow s.memories earlier.memoryId with
  | none =>
    have hnone := List.find?_eq_none.mp hfind later hlink.later_mem
    simp [hlink.link] at hnone
  | some found =>
    have hfound : found.supersedesId = some earlier.memoryId := by
      simpa using List.find?_some hfind
    rw [h.chains.unforked found (List.mem_of_find?_eq_some hfind) later hlink.later_mem _ hfound
      hlink.link]

/-- The forward walk stops at a row that nothing supersedes. -/
theorem successorRow_eq_none {row : MemoryRow} (hrow : row ∈ s.memories)
    (htip : ∀ later, ¬Supersedes s.memories row later) :
    successorRow s.memories row.memoryId = none := by
  refine List.find?_eq_none.mpr fun later hlater hlink => ?_
  exact htip later ⟨hrow, hlater, by simpa using hlink⟩

/-- Rows that read back as records, one by one. -/
def ReadAs (rows : List MemoryRow) (records : List MemoryRecord) : Prop :=
  List.Forall₂ (fun row record => memoryFromRow row = .ok record) rows records

/-- The forward walk over a chain returns the chain's records. -/
theorem walkForward_chain (h : RevisionInvariant s) {row : MemoryRow} {rows : List MemoryRow}
    {record : MemoryRecord} {records : List MemoryRecord} (bound : Nat) (seen : List UUID)
    (hread : ReadAs (row :: rows) (record :: records))
    (hchain : List.IsChain (Supersedes s.memories) (row :: rows))
    (hmem : ∀ other ∈ row :: rows, other ∈ s.memories)
    (htip : ∀ last ∈ (row :: rows).getLast?, ∀ after, ¬Supersedes s.memories last after)
    (hfresh : ∀ other ∈ row :: rows, other.memoryId ∉ seen)
    (hnodup : ((row :: rows).map (·.memoryId)).Nodup) (hbound : rows.length < bound) :
    walkForward s.memories bound seen record = .ok (record :: records) := by
  induction rows generalizing row record records bound seen with
  | nil =>
    cases hread with
    | cons hfirst hrest =>
      cases hrest
      have hid := (memoryFromRow_ok hfirst).memoryId
      have hnone := successorRow_eq_none (hmem row (by simp)) (htip row (by simp))
      cases bound with
      | zero => omega
      | succ bound =>
        rw [walkForward, hid, if_neg (hfresh row (by simp)), hnone]
  | cons next rows ih =>
    cases hread with
    | cons hfirst hrest =>
      cases hrest with
      | cons hsecond hrest =>
        rename_i nextRecord rest
        have hid := (memoryFromRow_ok hfirst).memoryId
        obtain ⟨hlink, htail⟩ := List.isChain_cons_cons.mp hchain
        have hnext := successorRow_of_supersedes h hlink
        rw [List.map_cons, List.nodup_cons] at hnodup
        cases bound with
        | zero => omega
        | succ bound =>
          have hunseen : ∀ other ∈ next :: rows, other.memoryId ∉ row.memoryId :: seen := by
            intro other hother hin
            rcases List.mem_cons.mp hin with heq | hin
            · exact hnodup.1 (heq ▸ List.mem_map_of_mem hother)
            · exact hfresh other (List.mem_cons_of_mem _ hother) hin
          have hwalk := ih bound (row.memoryId :: seen) (.cons hsecond hrest) htail
            (fun other hother => hmem other (List.mem_cons_of_mem _ hother))
            (by rwa [List.getLast?_cons_cons] at htip) hunseen hnodup.2 (by simpa using hbound)
          rw [walkForward, hid, if_neg (hfresh row (by simp)), hnext]
          simp only [hsecond, bind, Except.bind, hwalk, pure, Except.pure]

/-- The backward walk over a chain returns the record of the chain's first row. -/
theorem walkBack_chain (h : RevisionInvariant s) {front : List MemoryRow} {row : MemoryRow}
    {record : MemoryRecord} (bound : Nat) (seen : List UUID)
    (hread : memoryFromRow row = .ok record)
    (hchain : List.IsChain (Supersedes s.memories) (front ++ [row]))
    (hmem : ∀ other ∈ front ++ [row], other ∈ s.memories)
    (hroot : ∀ first ∈ (front ++ [row]).head?, ∀ before, ¬Supersedes s.memories before first)
    (hfresh : ∀ other ∈ front ++ [row], other.memoryId ∉ seen)
    (hnodup : ((front ++ [row]).map (·.memoryId)).Nodup) (hbound : front.length < bound) :
    ∃ first ∈ (front ++ [row]).head?, ∃ root, memoryFromRow first = .ok root ∧
      walkBack s.memories bound seen record = .ok root := by
  induction front using List.reverseRecOn generalizing row record bound seen with
  | nil =>
    refine ⟨row, by simp, record, hread, ?_⟩
    have hnone : record.supersedes = none := by
      rw [(memoryFromRow_ok hread).supersedes]
      cases hlink : row.supersedesId with
      | none => rfl
      | some id =>
        obtain ⟨earlier, hearlier, hid, -⟩ := h.chains.linked row (hmem row (by simp)) id hlink
        exact absurd ⟨hearlier, hmem row (by simp), hid ▸ hlink⟩ (hroot row (by simp) earlier)
    cases bound with
    | zero => omega
    | succ bound => simp only [walkBack, hnone]
  | append_singleton front previous ih =>
    have hlast : Supersedes s.memories previous row := by
      rw [List.append_assoc] at hchain
      exact (List.isChain_append_cons_cons.mp hchain).2.1
    have hshorter : List.IsChain (Supersedes s.memories) (front ++ [previous]) :=
      hchain.left_of_append
    have hprevious : previous ∈ s.memories := hlast.earlier_mem
    obtain ⟨previousRecord, hpreviousRead⟩ := (h.wellFormed previous hprevious).rehydrates
    have hsupersedes : record.supersedes = some previous.memoryId :=
      (memoryFromRow_ok hread).supersedes.trans hlast.link
    have hid := (memoryFromRow_ok hread).memoryId
    have hdemand : demandMemory s.memories previous.memoryId = .ok previousRecord :=
      demandMemory_ok.mpr ⟨previous, rowFor_of_mem h.unique hprevious, hpreviousRead.read⟩
    rw [List.map_append, List.nodup_append] at hnodup
    obtain ⟨hnodupFront, -, hdisjoint⟩ := hnodup
    have hhead : (front ++ [previous] ++ [row]).head? = (front ++ [previous]).head? := by
      cases front <;> rfl
    cases bound with
    | zero => omega
    | succ bound =>
      have hunseen : ∀ other ∈ front ++ [previous], other.memoryId ∉ row.memoryId :: seen := by
        intro other hother hin
        rcases List.mem_cons.mp hin with heq | hin
        · exact hdisjoint _ (List.mem_map_of_mem hother) _ (by simp) heq
        · exact hfresh other (List.mem_append_left _ hother) hin
      obtain ⟨first, hfirst, root, hrootRead, hwalk⟩ := ih bound (row.memoryId :: seen)
        hpreviousRead.read hshorter (fun other hother => hmem other (List.mem_append_left _ hother))
        (by rwa [hhead] at hroot) hunseen hnodupFront (by simpa using hbound)
      refine ⟨first, by rwa [hhead], root, hrootRead, ?_⟩
      rw [walkBack, hsupersedes]
      simp only [hid, if_neg (hfresh row (by simp)), hdemand, bind, Except.bind, hwalk]

/-- What a stored link means for the records its rows read as. -/
theorem supersedes_records (h : RevisionInvariant s) {earlier later : MemoryRow}
    (hlink : Supersedes s.memories earlier later) {before after : MemoryRecord}
    (hbefore : memoryFromRow earlier = .ok before) (hafter : memoryFromRow later = .ok after) :
    after.supersedes = some before.memoryId ∧ before.key = after.key ∧
      before.createdAt.civil ≤ after.createdAt.civil ∧ before.status = .superseded := by
  have hb := memoryFromRow_ok hbefore
  have ha := memoryFromRow_ok hafter
  obtain ⟨found, hfound, hid, hsound⟩ := h.chains.linked later hlink.later_mem _ hlink.link
  obtain rfl := StoreInvariant.eq_of_memoryId h.unique hfound hlink.earlier_mem hid
  obtain ⟨t, t', ht, ht', hle⟩ := hsound.time
  have htime : before.createdAt.civil = t := by
    have hread := hb.createdAt
    rw [ht, datetimeFromText_toText] at hread
    exact (Option.some.inj hread).symm
  have htime' : after.createdAt.civil = t' := by
    have hread := ha.createdAt
    rw [ht', datetimeFromText_toText] at hread
    exact (Option.some.inj hread).symm
  refine ⟨?_, ?_, by rwa [htime, htime'], hb.status.trans hsound.superseded⟩
  · rw [ha.supersedes, hlink.link, hb.memoryId]
  · simp only [RecordFields.key, hb.memoryType, hb.subject, hb.predicate, ha.memoryType,
      ha.subject, ha.predicate, hsound.memoryType, hsound.subject, hsound.predicate]

/-- The records of a maximal chain of stored rows form a revision history. -/
theorem revisionHistory_of_isHistory (h : RevisionInvariant s) {chain : List MemoryRow}
    {records : List MemoryRecord} (hhistory : IsHistory (Supersedes s.memories) chain)
    (hmem : ∀ row ∈ chain, row ∈ s.memories) (hread : ReadAs chain records) :
    RevisionHistory records := by
  have hrecords : List.IsChain (fun before after : MemoryRecord =>
      after.supersedes = some before.memoryId ∧ before.key = after.key ∧
        before.createdAt.civil ≤ after.createdAt.civil ∧ before.status = .superseded) records := by
    refine isChain_of_forall₂ ?_ hread hhistory.linked
    exact fun _ _ _ _ hlink hb ha => supersedes_records h hlink hb ha
  refine ⟨?_, hrecords.imp fun _ _ hlink => hlink.1, ?_,
    hrecords.imp fun _ _ hlink => hlink.2.2.1, ?_, ?_⟩
  · intro first hfirst
    obtain ⟨row, hrow, hrowRead⟩ := exists_head_of_forall₂ hread hfirst
    have hstored := hmem row (List.mem_of_mem_head? hrow)
    rw [(memoryFromRow_ok hrowRead).supersedes]
    cases hlink : row.supersedesId with
    | none => rfl
    | some id =>
      obtain ⟨earlier, hearlier, hid, -⟩ := h.chains.linked row hstored id hlink
      exact absurd ⟨hearlier, hstored, hid ▸ hlink⟩ (hhistory.root row hrow earlier)
  · cases records with
    | nil => simp
    | cons first rest =>
      have hkey : ∀ record ∈ first :: rest, record.key = first.key :=
        forall_mem_of_head (fun _ _ hlink hsame => hlink.2.1.symm.trans hsame) hrecords rfl
      intro left hleft right hright
      rw [hkey left hleft, hkey right hright]
  · intro record hrecord
    obtain ⟨next, -, hlink⟩ := exists_link_of_mem_dropLast hrecords hrecord
    exact hlink.2.2.2
  · intro last hlast
    obtain ⟨row, hrow, hrowRead⟩ := exists_getLast_of_forall₂ hread hlast
    have hstored := hmem row (List.mem_of_getLast? hrow)
    rw [(memoryFromRow_ok hrowRead).status]
    cases hstatus : row.status with
    | active => exact Or.inl rfl
    | retracted => exact Or.inr rfl
    | superseded =>
      obtain ⟨later, hlater, hlink⟩ := h.chains.successor row hstored hstatus
      exact absurd ⟨hstored, hlater, hlink⟩ (hhistory.tip row hrow later)

/-- Asking for the history of a member of a maximal chain returns the chain's records. -/
theorem getRevisionHistory_of_isHistory (h : RevisionInvariant s) {chain : List MemoryRow}
    {records : List MemoryRecord} (hhistory : IsHistory (Supersedes s.memories) chain)
    (hmem : ∀ row ∈ chain, row ∈ s.memories) (hread : ReadAs chain records) {row : MemoryRow}
    (hrow : row ∈ chain) : getRevisionHistory s row.memoryId = .ok records := by
  have hstored := hmem row hrow
  obtain ⟨hnodup, hlength⟩ := nodup_ids_of_isChain h hhistory.linked hmem
  obtain ⟨record, hrecord⟩ := (h.wellFormed row hstored).rehydrates
  have hdemand : demandMemory s.memories row.memoryId = .ok record :=
    demandMemory_ok.mpr ⟨row, rowFor_of_mem h.unique hstored, hrecord.read⟩
  obtain ⟨front, back, hsplit⟩ := List.append_of_mem hrow
  have hparts : chain = (front ++ [row]) ++ back := by simp [hsplit]
  have hheads : ∀ x, x ∈ (front ++ [row]).head? ↔ x ∈ chain.head? := by
    rw [hparts]
    cases front <;> simp
  have hnodupFront : ((front ++ [row]).map (·.memoryId)).Nodup := by
    rw [hparts, List.map_append, List.nodup_append] at hnodup
    exact hnodup.1
  have hlinkedFront : List.IsChain (Supersedes s.memories) (front ++ [row]) := by
    have hlinked := hhistory.linked
    rw [hparts] at hlinked
    exact hlinked.left_of_append
  obtain ⟨first, hfirst, root, hrootRead, hback⟩ := walkBack_chain h (s.memories.length + 1) []
    hrecord.read hlinkedFront (fun other hother => hmem other (hparts ▸ List.mem_append_left _ hother))
    (fun first hfirst => hhistory.root first ((hheads first).mp hfirst)) (by simp) hnodupFront
    (by rw [hparts] at hlength; simp at hlength; omega)
  have hchainHead := (hheads first).mp hfirst
  cases chain with
  | nil => cases hrow
  | cons head rest =>
    have hsame : head = first := Option.some.inj hchainHead
    subst hsame
    cases hread with
    | cons hheadRead hrest =>
      rw [hrootRead] at hheadRead
      cases hheadRead
      have hforward := walkForward_chain h (s.memories.length + 1) [] (.cons hrootRead hrest)
        hhistory.linked hmem hhistory.tip (by simp) hnodup (by simp at hlength; omega)
      simp only [getRevisionHistory, hdemand, hback, bind, Except.bind, hforward]

/-- Every stored memory lies on a chain of stored rows, whose records are the history of each
of its rows. -/
theorem exists_chainHistory (h : RevisionInvariant s) {row : MemoryRow}
    (hrow : row ∈ s.memories) :
    ∃ chain records, row ∈ chain ∧ IsHistory (Supersedes s.memories) chain ∧
      (∀ other ∈ chain, other ∈ s.memories) ∧ ReadAs chain records ∧
      ∀ other ∈ chain, getRevisionHistory s other.memoryId = .ok records := by
  obtain ⟨front, back, hhistory⟩ := exists_history (ranked_supersedes h) row
  have hmember : row ∈ front ++ row :: back := by simp
  have hmem := mem_of_isChain hhistory.linked hmember hrow
  obtain ⟨records, hrecords⟩ := Checks.exists_mapM_ok.mpr fun other hother => by
    obtain ⟨record, hrecord⟩ := (h.wellFormed other (hmem other hother)).rehydrates
    exact ⟨record, hrecord.read⟩
  have hread : ReadAs (front ++ row :: back) records := Checks.mapM_ok.mp hrecords
  exact ⟨_, records, hmember, hhistory, hmem, hread, fun other hother =>
    getRevisionHistory_of_isHistory h hhistory hmem hread hother⟩

/-- Every stored memory has a revision history, which each of its members returns. -/
theorem exists_revisionHistory (h : RevisionInvariant s) {row : MemoryRow}
    (hrow : row ∈ s.memories) :
    ∃ history, getRevisionHistory s row.memoryId = .ok history ∧
      (∃ record ∈ history, memoryFromRow row = .ok record) ∧ RevisionHistory history ∧
      ∀ member ∈ history, getRevisionHistory s member.memoryId = .ok history := by
  obtain ⟨chain, records, hmember, hhistory, hmem, hread, hget⟩ := exists_chainHistory h hrow
  refine ⟨records, hget row hmember, ?_, revisionHistory_of_isHistory h hhistory hmem hread, ?_⟩
  · obtain ⟨record, hrecord, hrowRead⟩ := exists_right_of_forall₂ hread hmember
    exact ⟨record, hrecord, hrowRead⟩
  · intro member hmember'
    obtain ⟨other, hother, hotherRead⟩ := exists_left_of_forall₂ hread hmember'
    rw [(memoryFromRow_ok hotherRead).memoryId]
    exact hget other hother

end Chains

/-- The store transaction that a service call issues when it read the given store, which other
clients may have changed since. -/
def ServiceCall.transaction (seen : MemoryStore) : ServiceCall → Except MemoryError StoreCall
  | .create memoryType subject predicate evidence supply => do
    currentTime supply
    let record ← MemoryRecord.construct
      (newRecordFields memoryType subject predicate evidence supply)
    pure (.add record supply.uuids)
  | .correct memoryId evidence reason supply => do
    let target ← demandMemory seen.memories memoryId
    let replacement ← prepareCorrection target memoryId evidence reason supply
    pure (.correct target.memoryId replacement supply.uuids)
  | .retract memoryId reason supply => do
    validateNonemptyText (some reason) (py "retraction reason")
    currentTime supply
    pure (.retract memoryId reason supply.clock)

/-- A transaction of some client, whose call read the store as it was `staleness` states ago. -/
structure ClientEvent where
  call : ServiceCall
  /-- How many states ago the call read the store. -/
  staleness : Nat

/-- The states of an interleaved run so far, the current one first. -/
abbrev StateHistory := MemoryStore × List MemoryStore

/-- One client's transaction commits or is rolled back; a call that raises before its
transaction changes nothing. -/
def interleaveStep (history : StateHistory) (event : ClientEvent) : StateHistory :=
  let (current, past) := history
  match event.call.transaction ((current :: past).getD event.staleness current) with
  | .ok storeCall => (settle storeCall.run current, current :: past)
  | .error _ => (current, current :: past)

/-- The store after any interleaving of client transactions on the empty store. -/
def interleavedAfter (events : List ClientEvent) : MemoryStore :=
  (events.foldl interleaveStep (.empty, [])).1

/-- The revision invariant holds after every interleaving. -/
theorem revisionInvariant_interleavedAfter (events : List ClientEvent) :
    RevisionInvariant (interleavedAfter events) := by
  suffices hfold : ∀ history : StateHistory, RevisionInvariant history.1 →
      RevisionInvariant (events.foldl interleaveStep history).1 from
    hfold (.empty, []) revisionInvariant_empty
  induction events with
  | nil => exact fun history h => h
  | cons event events ih =>
    intro history h
    refine ih (interleaveStep history event) ?_
    obtain ⟨current, past⟩ := history
    unfold interleaveStep
    dsimp only
    split
    · next storeCall hcall =>
      rcases settle_cases storeCall.run current with ⟨result, hrun⟩ | ⟨e, -, hsame⟩
      · exact h.step hrun
      · rw [hsame]
        exact h
    · exact h

/-- After any interleaving of client transactions, every stored memory has a revision history:
the walk returns it, it has the promised shape, each of its members returns the same list, and
no memory is superseded twice. -/
theorem revisionHistory_interleavedAfter (events : List ClientEvent) (row : MemoryRow)
    (hrow : row ∈ (interleavedAfter events).memories) :
    (∃ history, getRevisionHistory (interleavedAfter events) row.memoryId = .ok history ∧
      (∃ record ∈ history, memoryFromRow row = .ok record) ∧ RevisionHistory history ∧
      ∀ member ∈ history,
        getRevisionHistory (interleavedAfter events) member.memoryId = .ok history) ∧
    ∀ other ∈ (interleavedAfter events).memories, ∀ id, row.supersedesId = some id →
      other.supersedesId = some id → row = other := by
  have h := revisionInvariant_interleavedAfter events
  exact ⟨exists_revisionHistory h hrow, h.chains.unforked row hrow⟩

/-- A statement, its correction, and a second correction that acted on a stale read. -/
def racingCorrections : List ClientEvent :=
  [⟨.create .preference (py "owner") (py "drink") (ownerEvidence "tea") (supplyAt 10 1), 0⟩,
    ⟨.correct ⟨1⟩ (ownerEvidence "coffee") (py "changed mind") (supplyAt 20 2), 0⟩,
    ⟨.correct ⟨1⟩ (ownerEvidence "water") (py "changed mind") (supplyAt 30 3), 1⟩]

/-- After the race, the superseded statement has a revision history of both revisions. -/
theorem revisionHistory_racingCorrections :
    ∃ row ∈ (interleavedAfter racingCorrections).memories, row.status = .superseded ∧
      ∃ history, getRevisionHistory (interleavedAfter racingCorrections) row.memoryId =
        .ok history ∧ RevisionHistory history := by
  have hrows : ∃ row ∈ (interleavedAfter racingCorrections).memories, row.status = .superseded := by
    decide +kernel
  obtain ⟨row, hrow, hstatus⟩ := hrows
  obtain ⟨⟨history, hget, -, hshape, -⟩, -⟩ :=
    revisionHistory_interleavedAfter racingCorrections row hrow
  exact ⟨row, hrow, hstatus, history, hget, hshape⟩

end Memory
end AyyoHumanoid
