import AyyoHumanoid.ValidationApply

/-!
# Duplicates under validation

The store compares names exactly, the validation layer after normalization.
When every memory enters through applied decisions, the stored names are their
own normalizations, and the two comparisons agree. A repeated active value then
has only one source, a correction that moves a record onto it.
-/

namespace AyyoHumanoid
namespace Validation

open PyText Memory

variable {nfc : Nfc} {s s' : MemoryStore}

/-- The two memories have the same normalized identity. -/
structure SameIdentity (nfc : Nfc) (a b : MemoryRow) : Prop where
  /-- They have one type. -/
  memoryType : a.memoryType = b.memoryType
  /-- Their subjects normalize to one text. -/
  subject : collapse nfc a.subject = collapse nfc b.subject
  /-- Their predicates normalize to one text. -/
  predicate : collapse nfc a.predicate = collapse nfc b.predicate

/-- A stored row's names are in normalized form. -/
def NormalizedNames (nfc : Nfc) (row : MemoryRow) : Prop :=
  Normalized nfc row.subject ∧ Normalized nfc row.predicate

/-- The earlier memory permits the later one: a repeated active value is a replacement. -/
def Repeats (nfc : Nfc) (earlier later : MemoryRow) : Prop :=
  earlier.status = .active → later.status = .active → SameIdentity nfc earlier later →
    earlier.valueJson = later.valueJson → later.supersedesId ≠ none

/-- What validation alone establishes of the stored memories. -/
structure Validated (nfc : Nfc) (s : MemoryStore) : Prop where
  /-- All names are in normalized form. -/
  named : ∀ row ∈ s.memories, NormalizedNames nfc row
  /-- A memory that repeats an earlier active value is a replacement. -/
  repeats : s.memories.Pairwise (Repeats nfc)

/-- Memories with normalized names and one normalized identity have the same names. -/
theorem SameIdentity.names_eq {a b : MemoryRow} (h : SameIdentity nfc a b)
    (ha : NormalizedNames nfc a) (hb : NormalizedNames nfc b) :
    a.subject = b.subject ∧ a.predicate = b.predicate := by
  have hsubject := h.subject
  have hpredicate := h.predicate
  rw [ha.1.fixed, hb.1.fixed] at hsubject
  rw [ha.2.fixed, hb.2.fixed] at hpredicate
  exact ⟨hsubject, hpredicate⟩

/-- A persisted row has normalized names. -/
theorem Persisted.normalizedNames {d : ValidationDecision nfc} {result : MemoryRecord}
    {row : MemoryRow} {update : MemoryRow → MemoryRow}
    (hp : Persisted s s' d result row update) : NormalizedNames nfc row := by
  rw [NormalizedNames, hp.subject, hp.predicate]
  exact ⟨d.normalizedIdentity.subject_normalized, d.normalizedIdentity.predicate_normalized⟩

/-- Active memories of the new row's identity and value were active matches of the decision. -/
theorem Persisted.activeMatch_of_same (h : MemoryInvariant s) {d : ValidationDecision nfc}
    {result : MemoryRecord} {row old : MemoryRow} {update : MemoryRow → MemoryRow}
    (hp : Persisted s s' d result row update) (hold : old ∈ s.memories)
    (hactive : old.status = .active) (hsame : SameIdentity nfc old row)
    (hvalue : old.valueJson = row.valueJson) :
    ∃ record, ActiveMatch s d.normalizedIdentity d.candidate.valueJson old record := by
  obtain ⟨record, hstored⟩ := h.exists_storedAs hold
  have hnames := hp.normalizedNames
  have hidentity : identityForRecord nfc record = .ok d.normalizedIdentity := by
    rw [identityForRecord_ok hstored]
    refine ⟨?_, ?_, ?_⟩
    · rw [← hp.memoryType, hsame.memoryType]
    · rw [hsame.subject, hnames.1.fixed, hp.subject]
    · rw [hsame.predicate, hnames.2.fixed, hp.predicate]
  exact ⟨record, hstored, hactive, hidentity, hvalue.trans hp.value⟩

/-- A committed mutation keeps the discipline. -/
theorem Validated.persisted (hv : Validated nfc s) (h : MemoryInvariant s)
    {d : ValidationDecision nfc} {result : MemoryRecord} {row : MemoryRow}
    {update : MemoryRow → MemoryRow} (hp : Persisted s s' d result row update) :
    Validated nfc s' := by
  constructor
  · intro other hother
    rw [hp.memories, List.mem_append, List.mem_singleton, List.mem_map] at hother
    rcases hother with ⟨old, hold, rfl⟩ | rfl
    · obtain ⟨-, hsubject, hpredicate⟩ := hp.names old
      rw [NormalizedNames, hsubject, hpredicate]
      exact hv.named old hold
    · exact hp.normalizedNames
  · rw [hp.memories, List.pairwise_append]
    refine ⟨?_, List.pairwise_singleton _ _, ?_⟩
    · -- Two older rows that are still active are as they were.
      rw [List.pairwise_map]
      refine hv.repeats.imp fun {a b} hrepeats ha hb => ?_
      have hkeepA := hp.unchanged a ha
      have hkeepB := hp.unchanged b hb
      rw [hkeepA] at ha ⊢
      rw [hkeepB] at hb ⊢
      exact hrepeats ha hb
    · -- The new row repeats an active value only as a replacement.
      intro earlier hearlier later hlater hactive _ hsame hvalue hroot
      rw [List.mem_singleton] at hlater
      subst hlater
      obtain ⟨old, hold, rfl⟩ := List.mem_map.mp hearlier
      have hkeep := hp.unchanged old hactive
      rw [hkeep] at hactive hsame hvalue
      obtain ⟨record, hmatch⟩ := hp.activeMatch_of_same h hold hactive hsame hvalue
      exact hp.origin hroot old record hmatch

/-- An application keeps the discipline. -/
theorem Validated.applyDecision (hv : Validated nfc s) (h : MemoryInvariant s)
    (d : ValidationDecision nfc) (supply : Supply) :
    Validated nfc (applyDecision s d supply).2 := by
  have houtcome := applyDecision_outcome h d supply
  generalize Validation.applyDecision s d supply = outcome at houtcome
  cases houtcome with
  | mutated s' call result row update r _ _ _ hp _ => exact hv.persisted h hp
  | duplicate => exact hv
  | raised => exact hv

/-- The store after applying the decisions in turn, each with what the clock and the identifier
source give it. The decisions may have been evaluated in any earlier store. -/
def storeAfterApplying (applied : List (ValidationDecision nfc × Supply)) : MemoryStore :=
  storeAfterSteps (applied.map fun application => .apply application.1 application.2)

/-- The discipline holds after applying any decisions. -/
theorem validated_storeAfterApplying (applied : List (ValidationDecision nfc × Supply)) :
    Validated nfc (storeAfterApplying applied) := by
  induction applied using List.reverseRecOn with
  | nil => exact ⟨by simp [storeAfterApplying, storeAfterSteps, MemoryStore.empty],
      by simp [storeAfterApplying, storeAfterSteps, MemoryStore.empty]⟩
  | append_singleton applied application ih =>
    have h := memoryInvariant_storeAfterSteps
      (applied.map fun application => ClientStep.apply application.1 application.2)
    rw [storeAfterApplying, storeAfterSteps, List.map_append, List.foldl_append]
    exact ih.applyDecision h application.1 application.2

/-- Two active memories of one normalized identity with different values are in exactly one
unresolved conflict. -/
theorem Validated.unresolved (hv : Validated nfc s) (h : MemoryInvariant s) {a b : MemoryRow}
    (ha : a ∈ s.memories) (hb : b ∈ s.memories) (hactiveA : a.status = .active)
    (hactiveB : b.status = .active) (hsame : SameIdentity nfc a b)
    (hvalue : a.valueJson ≠ b.valueJson) :
    (unresolvedOver s a.memoryId b.memoryId).length = 1 := by
  have hid : a.memoryId ≠ b.memoryId := by
    intro heq
    exact hvalue (by rw [StoreInvariant.eq_of_memoryId h.unique ha hb heq])
  obtain ⟨hsubject, hpredicate⟩ := hsame.names_eq (hv.named a ha) (hv.named b hb)
  have hcontradict : Contradict a b :=
    ⟨hactiveA, hactiveB, hsame.memoryType, hsubject, hpredicate, hvalue⟩
  have hopen := (h.complete a ha b hb hid).mpr hcontradict
  have hsome := (unresolvedOver_ne_nil_iff h.table a.memoryId b.memoryId).mpr hopen
  have hpos := List.length_pos_iff.mpr hsome
  have hle := unresolvedOver_length_le h.table a.memoryId b.memoryId
  omega

/-- A decision that creates is applied only when no active memory holds its value. -/
theorem no_match_of_created (h : MemoryInvariant s) {d : ValidationDecision nfc}
    {supply : Supply} {r : ApplicationResult nfc}
    (happly : applyDecision s d supply = (.ok r, s')) (hmutated : r.mutationApplied = true)
    (hcreates : d.decisionType ≠ .applyCorrection) (row : MemoryRow) (record : MemoryRecord) :
    ¬ActiveMatch s d.normalizedIdentity d.candidate.valueJson row record := by
  have houtcome := applyDecision_outcome h d supply
  rw [happly] at houtcome
  cases houtcome with
  | duplicate _ _ _ _ _ _ _ hr =>
    rw [hr] at hmutated
    cases hmutated
  | mutated _ _ _ _ _ _ hcurrent hpermitted _ _ _ =>
    obtain ⟨-, hcase⟩ := evaluate_case h hcurrent
    cases hcase with
    | create _ _ _ hfresh => exact hfresh row record
    | correct _ _ _ _ htype _ _ _ _ _ => exact absurd htype hcreates
    | duplicate _ _ htype _ _ _ =>
      rw [not_permitted_of_duplicate d htype] at hpermitted
      cases hpermitted
    | refused _ hrefused =>
      rw [hpermitted] at hrefused
      cases hrefused

/-- In every store that only applied decisions reach, the stored names are in normalized form, two
active memories of one normalized identity with different values are in exactly one unresolved
conflict, and the later of two active memories of one normalized identity and one value is a
replacement. A decision that creates adds no second active copy. -/
theorem duplicates_storeAfterApplying (applied : List (ValidationDecision nfc × Supply)) :
    (∀ row ∈ (storeAfterApplying applied).memories,
        Normalized nfc row.subject ∧ Normalized nfc row.predicate) ∧
      (∀ a ∈ (storeAfterApplying applied).memories, ∀ b ∈ (storeAfterApplying applied).memories,
        a.status = .active → b.status = .active → SameIdentity nfc a b →
        a.valueJson ≠ b.valueJson →
        (unresolvedOver (storeAfterApplying applied) a.memoryId b.memoryId).length = 1) ∧
      (storeAfterApplying applied).memories.Pairwise (fun earlier later =>
        earlier.status = .active → later.status = .active → SameIdentity nfc earlier later →
        earlier.valueJson = later.valueJson → later.supersedesId ≠ none) ∧
      ∀ (d : ValidationDecision nfc) supply r s',
        applyDecision (storeAfterApplying applied) d supply = (.ok r, s') →
        r.mutationApplied = true → d.decisionType ≠ .applyCorrection →
        ∀ row record, ¬ActiveMatch (storeAfterApplying applied) d.normalizedIdentity
          d.candidate.valueJson row record := by
  have h : MemoryInvariant (storeAfterApplying applied) := memoryInvariant_storeAfterSteps _
  have hv := validated_storeAfterApplying applied
  refine ⟨hv.named, ?_, hv.repeats, ?_⟩
  · intro a ha b hb hactiveA hactiveB hsame hvalue
    exact hv.unresolved h ha hb hactiveA hactiveB hsame hvalue
  · intro d supply r s' happly hmutated hcreates
    exact no_match_of_created h happly hmutated hcreates

end Validation
end AyyoHumanoid
