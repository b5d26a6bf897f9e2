import AyyoHumanoid.SelectionTotality

/-!
# Settled batches

An outcome and its reasons agree when they are first given, and merging the
occurrences of a candidate or deferring it keeps them in agreement. The settled
candidates of a batch therefore pass the checks of their decisions, and the
batch passes the checks of its own.
-/

namespace AyyoHumanoid
namespace Consolidation

open PyText JsonText PyCollections Memory Validation

section Outcomes

/-- The reasons are ones that the outcome may have. -/
structure Agrees (outcome : CandidateSelectionOutcome) (reasons : Finset CandidateSelectionReason) :
    Prop where
  /-- There is a reason. -/
  nonempty : reasons.Nonempty
  /-- The reason that no check of this policy gives is absent. -/
  absent : .unsupportedProvenance ∉ reasons
  /-- A selected candidate is eligible and nothing else. -/
  selected : outcome = .selectForReview → reasons = {.eligibleForReview}
  /-- No other candidate is eligible. -/
  ineligible : outcome ≠ .selectForReview → .eligibleForReview ∉ reasons
  deferred : outcome = .defer → ∀ reason ∈ reasons, reason ∈ CandidateSelectionReason.deferReasons
  /-- A rejected candidate has a reason to reject. -/
  rejected : outcome = .rejectSelection →
    ∃ reason ∈ reasons, reason ∈ CandidateSelectionReason.rejectReasons

/-- A reason to reject agrees with a rejection. -/
theorem agrees_reject {reason : CandidateSelectionReason}
    (h : reason ∈ CandidateSelectionReason.rejectReasons) (hne : reason ≠ .unsupportedProvenance) :
    Agrees .rejectSelection {reason} where
  nonempty := Finset.singleton_nonempty reason
  absent := by
    rw [Finset.mem_singleton]
    exact hne.symm
  selected := fun heq => nomatch heq
  ineligible := fun _ hmem => by
    rw [Finset.mem_singleton] at hmem
    subst hmem
    exact absurd h (by decide)
  deferred := fun heq => nomatch heq
  rejected := fun _ => ⟨reason, Finset.mem_singleton_self reason, h⟩

/-- A reason to defer agrees with a deferral. -/
theorem agrees_defer {reason : CandidateSelectionReason}
    (h : reason ∈ CandidateSelectionReason.deferReasons) : Agrees .defer {reason} where
  nonempty := Finset.singleton_nonempty reason
  absent := by
    rw [Finset.mem_singleton]
    rintro rfl
    exact absurd h (by decide)
  selected := fun heq => nomatch heq
  ineligible := fun _ hmem => by
    rw [Finset.mem_singleton] at hmem
    subst hmem
    exact absurd h (by decide)
  deferred := fun _ other hother => by
    rw [Finset.mem_singleton.mp hother]
    exact h
  rejected := fun heq => nomatch heq

/-- Eligibility agrees with a selection. -/
theorem agrees_select : Agrees .selectForReview {.eligibleForReview} where
  nonempty := Finset.singleton_nonempty _
  absent := by decide
  selected := fun _ => rfl
  ineligible := fun hne => absurd rfl hne
  deferred := fun heq => nomatch heq
  rejected := fun heq => nomatch heq

variable {nfc : Nfc} {item : CandidateReviewItem nfc}

/-- The outcome after the checks on direct observations agrees with its reason. -/
theorem agrees_reviewOutcome (candidate : CandidateEvidence nfc) (provenance : Provenance) :
    Agrees (reviewOutcome candidate provenance).1 {(reviewOutcome candidate provenance).2} := by
  rw [reviewOutcome]
  by_cases hderived : provenance.provenanceType = .derivedInference
  · rw [if_pos hderived]
    by_cases howner : candidate.memoryType ∈ [MemoryType.preference, .social]
    · rw [if_pos howner]
      exact agrees_defer (by decide)
    · rw [if_neg howner]
      exact agrees_defer (by decide)
  rw [if_neg hderived]
  by_cases hallowed : provenance.provenanceType ∉ provenanceByMemoryType candidate.memoryType
  · rw [if_pos hallowed]
    exact agrees_reject (by decide) (by decide)
  rw [if_neg hallowed]
  by_cases hlow : candidate.confidence.token.toRat < minReviewConfidence.token.toRat
  · rw [if_pos hlow]
    exact agrees_defer (by decide)
  rw [if_neg hlow]
  split_ifs
  · exact agrees_defer (by decide)
  · exact agrees_select

/-- The outcome of a failed check on a direct observation agrees with its reason. -/
theorem agrees_directOutcome {provenance : Provenance} {value : Json} {result : BaseOutcome}
    (h : directOutcome item provenance value = .ok (some result)) : Agrees result.1 {result.2} := by
  rw [directOutcome] at h
  by_cases hstaged : hasExactStagingEligibility item provenance.details = true
  · rw [if_pos hstaged, Checks.bind_ok] at h
    obtain ⟨bounded, -, hresult⟩ := h
    rw [Checks.pure_ok] at hresult
    cases bounded with
    | true => cases hresult
    | false =>
      cases hresult
      exact agrees_reject (by decide) (by decide)
  · rw [if_neg hstaged, Checks.pure_ok] at h
    cases h
    exact agrees_reject (by decide) (by decide)

/-- The first outcome of an item agrees with its reason. -/
theorem agrees_baseOutcome {withinBounds : Bool} {result : BaseOutcome}
    (h : baseOutcome item withinBounds = .ok result) : Agrees result.1 {result.2} := by
  have hreturned : ∀ {a b : BaseOutcome}, (pure a : Except SelectionError BaseOutcome) = .ok b →
      Agrees a.1 {a.2} → Agrees b.1 {b.2} := by
    intro a b hpure ha
    rw [← Checks.pure_ok.mp hpure]
    exact ha
  rw [baseOutcome, Checks.bind_ok] at h
  obtain ⟨provenance, -, h⟩ := h
  by_cases hwithin : withinBounds = false
  · rw [if_pos hwithin] at h
    exact hreturned h (agrees_reject (by decide) (by decide))
  rw [if_neg hwithin] at h
  by_cases hsupported : item.candidate.memoryType ∉ supportedMemoryTypes
  · rw [if_pos hsupported] at h
    exact hreturned h (agrees_reject (by decide) (by decide))
  rw [if_neg hsupported] at h
  by_cases hcorrected : item.candidate.correctionTargetId ≠ none ∨
      item.candidate.correctionReason ≠ none
  · rw [if_pos hcorrected] at h
    exact hreturned h (agrees_reject (by decide) (by decide))
  rw [if_neg hcorrected, Checks.bind_ok] at h
  obtain ⟨value, -, h⟩ := h
  by_cases hdirect : provenance.provenanceType = .directObservation
  · rw [if_pos hdirect, Checks.bind_ok] at h
    obtain ⟨direct, hchecked, h⟩ := h
    refine hreturned h ?_
    cases direct with
    | none => exact agrees_reviewOutcome item.candidate provenance
    | some result => exact agrees_directOutcome hchecked
  · rw [if_neg hdirect] at h
    exact hreturned h (agrees_reviewOutcome item.candidate provenance)

/-- What a deferral makes of an outcome. -/
def deferredOutcome (outcome : CandidateSelectionOutcome) : CandidateSelectionOutcome :=
  if outcome = .rejectSelection then .rejectSelection else .defer

/-- Nothing deferred is selected. -/
theorem deferredOutcome_ne (outcome : CandidateSelectionOutcome) :
    deferredOutcome outcome ≠ .selectForReview := by
  cases outcome <;> decide

/-- Deferring keeps outcome and reasons in agreement. -/
theorem Agrees.defer {outcome : CandidateSelectionOutcome}
    {reasons : Finset CandidateSelectionReason} {reason : CandidateSelectionReason}
    (habsent : .unsupportedProvenance ∉ reasons)
    (hdeferred : outcome ≠ .rejectSelection → ∀ other ∈ reasons.erase .eligibleForReview,
      other ∈ CandidateSelectionReason.deferReasons)
    (hrejected : outcome = .rejectSelection →
      ∃ other ∈ reasons, other ∈ CandidateSelectionReason.rejectReasons)
    (hreason : reason ∈ CandidateSelectionReason.deferReasons) :
    Agrees (deferredOutcome outcome) (insert reason (reasons.erase .eligibleForReview)) where
  nonempty := Finset.insert_nonempty _ _
  absent := by
    rw [Finset.mem_insert, Finset.mem_erase]
    rintro (rfl | ⟨-, hmem⟩)
    · exact absurd hreason (by decide)
    · exact habsent hmem
  selected := fun heq => absurd heq (deferredOutcome_ne outcome)
  ineligible := fun _ hmem => by
    rw [Finset.mem_insert, Finset.mem_erase] at hmem
    rcases hmem with rfl | ⟨hne, -⟩
    · exact absurd hreason (by decide)
    · exact hne rfl
  deferred := fun heq other hother => by
    have hne : outcome ≠ .rejectSelection := by
      rintro rfl
      cases heq
    rcases Finset.mem_insert.mp hother with rfl | hother
    · exact hreason
    · exact hdeferred hne other hother
  rejected := fun heq => by
    have hrejectedOutcome : outcome = .rejectSelection := by
      cases outcome with
      | rejectSelection => rfl
      | _ => cases heq
    obtain ⟨other, hother, hreject⟩ := hrejected hrejectedOutcome
    refine ⟨other, Finset.mem_insert_of_mem (Finset.mem_erase.mpr ⟨?_, hother⟩), hreject⟩
    rintro rfl
    exact absurd hreject (by decide)

/-- A candidate of the batch that may become an item of the decision. -/
structure WellFormed (prepared : PreparedCandidate nfc) : Prop where
  /-- The name is a digest. -/
  tagged : Tagged candidatePrefix prepared.candidateId
  agrees : Agrees prepared.outcome prepared.reasons

/-- A prepared item is well formed. -/
theorem wellFormed_prepare {p : Platform} {result : PreparedCandidate nfc × Nat}
    (h : prepare p item = .ok result) : WellFormed result.1 := by
  simp only [prepare, Checks.bind_ok, Checks.pure_ok] at h
  obtain ⟨⟨withinBounds, characters⟩, -, id, hid, ⟨outcome, reason⟩, houtcome, rfl⟩ := h
  refine ⟨?_, agrees_baseOutcome houtcome⟩
  simp only [candidateIdentity, Checks.bind_ok, Checks.pure_ok] at hid
  obtain ⟨text, -, -, -, rfl⟩ := hid
  exact tagged_digest p candidatePrefix text

/-- A deferred candidate is well formed. -/
theorem WellFormed.deferUnlessRejected {prepared : PreparedCandidate nfc} (h : WellFormed prepared)
    {reason : CandidateSelectionReason} (hreason : reason ∈ CandidateSelectionReason.deferReasons) :
    WellFormed (prepared.deferUnlessRejected reason) := by
  refine ⟨h.tagged, Agrees.defer h.agrees.absent ?_ h.agrees.rejected hreason⟩
  intro hne other hother
  rw [Finset.mem_erase] at hother
  cases houtcome : prepared.outcome with
  | rejectSelection => exact absurd houtcome hne
  | defer => exact h.agrees.deferred houtcome other hother.2
  | selectForReview =>
    rw [h.agrees.selected houtcome, Finset.mem_singleton] at hother
    exact absurd hother.2 hother.1

end Outcomes

section Merging

variable {nfc : Nfc}

/-- The strictest outcome is one of them and none is stricter. -/
theorem worstOutcome_spec (first : CandidateSelectionOutcome)
    (rest : List CandidateSelectionOutcome) :
    worstOutcome first rest ∈ first :: rest ∧
      ∀ outcome ∈ first :: rest, outcome.rank ≤ (worstOutcome first rest).rank := by
  induction rest generalizing first with
  | nil => simp [worstOutcome]
  | cons next rest ih =>
    obtain ⟨hmem, hbound⟩ := ih (stricter first next)
    have hstep : worstOutcome first (next :: rest) = worstOutcome (stricter first next) rest := rfl
    have hchoice : stricter first next = first ∨ stricter first next = next := by
      rw [stricter]
      split
      · exact Or.inr rfl
      · exact Or.inl rfl
    have hleft : first.rank ≤ (stricter first next).rank ∧ next.rank ≤ (stricter first next).rank := by
      rw [stricter]
      split <;> omega
    rw [hstep]
    have hhead := hbound _ List.mem_cons_self
    constructor
    · rcases List.mem_cons.mp hmem with heq | hrest
      · rw [heq]
        rcases hchoice with hfirst | hnext
        · rw [hfirst]
          exact List.mem_cons_self
        · rw [hnext]
          exact List.mem_cons_of_mem _ List.mem_cons_self
      · exact List.mem_cons_of_mem _ (List.mem_cons_of_mem _ hrest)
    · simp only [List.forall_mem_cons]
      exact ⟨hleft.1.trans hhead, hleft.2.trans hhead,
        fun outcome hrest => hbound outcome (List.mem_cons_of_mem _ hrest)⟩

/-- The strictest outcome depends on which outcomes there are only. -/
theorem worstOutcome_congr {first other : CandidateSelectionOutcome}
    {rest others : List CandidateSelectionOutcome}
    (h : ∀ outcome, outcome ∈ first :: rest ↔ outcome ∈ other :: others) :
    worstOutcome first rest = worstOutcome other others := by
  obtain ⟨hmem, hbound⟩ := worstOutcome_spec first rest
  obtain ⟨hmem', hbound'⟩ := worstOutcome_spec other others
  exact CandidateSelectionOutcome.rank_injective
    (le_antisymm (hbound' _ ((h _).mp hmem)) (hbound _ ((h _).mpr hmem')))

/-- A reason of several occurrences is a reason of one of them. -/
theorem mem_unionReasons {occurrences : List (PreparedCandidate nfc)}
    {reason : CandidateSelectionReason} :
    reason ∈ unionReasons occurrences ↔ ∃ occurrence ∈ occurrences, reason ∈ occurrence.reasons := by
  rw [unionReasons]
  induction occurrences with
  | nil => simp
  | cons first rest ih => simp [ih]

/-- Several occurrences are merged. -/
theorem representative_many (first next : PreparedCandidate nfc)
    (rest : List (PreparedCandidate nfc)) :
    representative (first :: next :: rest) = some (PreparedCandidate.deferUnlessRejected
      { first with
        outcome := worstOutcome first.outcome ((next :: rest).map fun other => other.outcome)
        reasons := (unionReasons (first :: next :: rest)).erase .eligibleForReview
        occurrenceCount := (first :: next :: rest).length }
      .duplicateCandidate) := rfl

/-- The representative of well formed occurrences is well formed. -/
theorem wellFormed_representative {occurrences : List (PreparedCandidate nfc)}
    {result : PreparedCandidate nfc} (h : ∀ occurrence ∈ occurrences, WellFormed occurrence)
    (hresult : representative occurrences = some result) : WellFormed result := by
  cases occurrences with
  | nil => cases hresult
  | cons first rest =>
    have hfirst := h first List.mem_cons_self
    cases rest with
    | nil =>
      cases hresult
      exact ⟨hfirst.tagged, hfirst.agrees⟩
    | cons next rest =>
      rw [representative_many, Option.some.injEq] at hresult
      rw [← hresult]
      obtain ⟨hworst, hbound⟩ := worstOutcome_spec first.outcome
        ((next :: rest).map fun other => other.outcome)
      rw [← List.map_cons (f := fun other : PreparedCandidate nfc => other.outcome)] at hworst hbound
      refine ⟨hfirst.tagged, Agrees.defer ?_ ?_ ?_ (by decide)⟩
      · rw [Finset.mem_erase, mem_unionReasons]
        rintro ⟨-, occurrence, hmem, hreason⟩
        exact (h occurrence hmem).agrees.absent hreason
      · intro hne other hother
        rw [Finset.mem_erase, Finset.mem_erase, mem_unionReasons] at hother
        obtain ⟨hineligible, -, occurrence, hmem, hreason⟩ := hother
        have hagrees := (h occurrence hmem).agrees
        have hrank := hbound _ (List.mem_map_of_mem hmem)
        cases houtcome : occurrence.outcome with
        | rejectSelection =>
          refine absurd (CandidateSelectionOutcome.rank_injective (le_antisymm ?_ hrank)) (by
            rw [houtcome]
            exact hne)
          rw [houtcome]
          generalize worstOutcome _ _ = worst
          cases worst <;> decide
        | defer => exact hagrees.deferred houtcome other hreason
        | selectForReview =>
          rw [hagrees.selected houtcome, Finset.mem_singleton] at hreason
          exact absurd hreason hineligible
      · intro hreject
        obtain ⟨occurrence, hmem, houtcome⟩ := List.mem_map.mp hworst
        obtain ⟨reason, hreason, hrejects⟩ :=
          (h occurrence hmem).agrees.rejected (houtcome.trans hreject)
        refine ⟨reason, Finset.mem_erase.mpr ⟨?_, mem_unionReasons.mpr
          ⟨occurrence, hmem, hreason⟩⟩, hrejects⟩
        rintro rfl
        exact absurd hrejects (by decide)

end Merging

section Unique

variable {nfc : Nfc} {xs ys : List (PreparedCandidate nfc)}

/-- Some occurrences have a representative with the name and the candidate of the first. -/
theorem exists_representative (first : PreparedCandidate nfc) (rest : List (PreparedCandidate nfc)) :
    ∃ result, representative (first :: rest) = some result ∧
      result.candidateId = first.candidateId ∧ result.candidate = first.candidate ∧
        result.occurrenceCount = (first :: rest).length := by
  cases rest with
  | nil => exact ⟨_, rfl, rfl, rfl, rfl⟩
  | cons next rest => exact ⟨_, representative_many first next rest, rfl, rfl, rfl⟩

/-- A representative is selected exactly when it stands for one selected candidate. -/
theorem representative_selected {occurrences : List (PreparedCandidate nfc)}
    {result : PreparedCandidate nfc} (h : representative occurrences = some result) :
    result.outcome = .selectForReview ↔ ∃ only, occurrences = [only] ∧
      only.outcome = .selectForReview := by
  cases occurrences with
  | nil => cases h
  | cons first rest =>
    cases rest with
    | nil =>
      cases h
      constructor
      · exact fun houtcome => ⟨first, rfl, houtcome⟩
      · rintro ⟨only, heq, houtcome⟩
        cases heq
        exact houtcome
    | cons next rest =>
      rw [representative_many, Option.some.injEq] at h
      rw [← h]
      constructor
      · exact fun houtcome => absurd houtcome (deferredOutcome_ne _)
      · rintro ⟨only, heq, -⟩
        cases heq

/-- The candidates of one name in a batch. -/
abbrev occurrencesOf (xs : List (PreparedCandidate nfc)) (id : PyStr) :
    List (PreparedCandidate nfc) :=
  groupOf (fun item => item.candidateId) xs id

/-- Occurrences of a name in the batch have a representative with that name. -/
theorem representative_of_mem {x : PreparedCandidate nfc} (hx : x ∈ xs) :
    ∃ result, representative (occurrencesOf xs x.candidateId) = some result ∧
      result.candidateId = x.candidateId ∧ (∃ y ∈ xs, y.candidateId = x.candidateId ∧
        result.candidate = y.candidate) ∧
          result.occurrenceCount = (occurrencesOf xs x.candidateId).length := by
  have hinside : x ∈ occurrencesOf xs x.candidateId := mem_groupOf.mpr ⟨hx, rfl⟩
  cases hgroup : occurrencesOf xs x.candidateId with
  | nil =>
    rw [hgroup] at hinside
    cases hinside
  | cons first rest =>
    have hfirst : first ∈ occurrencesOf xs x.candidateId := by
      rw [hgroup]
      exact List.mem_cons_self
    obtain ⟨hmem, hid⟩ := mem_groupOf.mp hfirst
    obtain ⟨result, hresult, hname, hcandidate, hcount⟩ := exists_representative first rest
    exact ⟨result, hresult, hname.trans hid, ⟨first, hmem, hid, hcandidate⟩, hcount⟩

/-- The unique candidates are the representatives of the names. -/
theorem mem_uniqueCandidates {u : PreparedCandidate nfc} : u ∈ uniqueCandidates xs ↔
    ∃ x ∈ xs, representative (occurrencesOf xs x.candidateId) = some u := by
  simp only [uniqueCandidates, List.mem_filterMap, mem_groupsBy]
  constructor
  · rintro ⟨group, ⟨x, hx, rfl⟩, hu⟩
    exact ⟨x, hx, hu⟩
  · rintro ⟨x, hx, hu⟩
    exact ⟨_, ⟨x, hx, rfl⟩, hu⟩

/-- Keeping what is found for each key, when what is found has the key, keeps the keys. -/
theorem map_filterMap_eq {α β : Type} {keys : List α} {find : α → Option β} {view : β → α}
    (h : ∀ key ∈ keys, ∃ found, find key = some found ∧ view found = key) :
    (keys.filterMap find).map view = keys := by
  induction keys with
  | nil => rfl
  | cons key keys ih =>
    obtain ⟨⟨found, hfound, hview⟩, hkeys⟩ := List.forall_mem_cons.mp h
    rw [List.filterMap_cons_some hfound, List.map_cons, hview, ih hkeys]

/-- The names of the unique candidates are the names of the batch. -/
theorem map_uniqueCandidates (xs : List (PreparedCandidate nfc)) :
    (uniqueCandidates xs).map (fun u => u.candidateId) =
      sortedSet (xs.map fun x => x.candidateId) := by
  rw [uniqueCandidates, groupsBy, List.filterMap_map]
  refine map_filterMap_eq fun id hid => ?_
  rw [mem_sortedSet] at hid
  obtain ⟨x, hx, rfl⟩ := List.mem_map.mp hid
  obtain ⟨result, hresult, hname, -⟩ := representative_of_mem hx
  exact ⟨result, hresult, hname⟩

/-- Unique candidates have names of their own. -/
theorem unique_of_id {u v : PreparedCandidate nfc} (hu : u ∈ uniqueCandidates xs)
    (hv : v ∈ uniqueCandidates xs) (hid : u.candidateId = v.candidateId) : u = v := by
  have hnodup : ((uniqueCandidates xs).map fun u => u.candidateId).Nodup := by
    rw [map_uniqueCandidates]
    exact (pairwise_sortedSet _).imp fun hlt => ne_of_lt hlt
  exact List.inj_on_of_nodup_map hnodup hu hv hid

/-- No candidate is unique twice. -/
theorem nodup_uniqueCandidates (xs : List (PreparedCandidate nfc)) :
    (uniqueCandidates xs).Nodup := by
  refine List.Nodup.of_map (fun u => u.candidateId) ?_
  rw [map_uniqueCandidates]
  exact (pairwise_sortedSet _).imp fun hlt => ne_of_lt hlt

/-- Unique candidates are well formed. -/
theorem wellFormed_unique (h : ∀ x ∈ xs, WellFormed x) :
    ∀ u ∈ uniqueCandidates xs, WellFormed u := by
  intro u hu
  obtain ⟨x, -, hresult⟩ := mem_uniqueCandidates.mp hu
  exact wellFormed_representative (fun y hy => h y (mem_groupOf.mp hy).1) hresult

/-- The unique candidates stand for every occurrence. -/
theorem sum_occurrences (xs : List (PreparedCandidate nfc)) :
    ((uniqueCandidates xs).map fun u => u.occurrenceCount).sum = xs.length := by
  rw [← sum_length_groupsBy (fun x : PreparedCandidate nfc => x.candidateId) xs, uniqueCandidates]
  refine congrArg List.sum ?_
  have hgroups : ∀ group ∈ groupsBy (fun x : PreparedCandidate nfc => x.candidateId) xs,
      ∃ found, representative group = some found ∧ found.occurrenceCount = group.length := by
    intro group hgroup
    obtain ⟨x, hx, rfl⟩ := mem_groupsBy.mp hgroup
    obtain ⟨result, hresult, -, -, hcount⟩ := representative_of_mem hx
    exact ⟨result, hresult, hcount⟩
  generalize groupsBy (fun x : PreparedCandidate nfc => x.candidateId) xs = groups at hgroups
  induction groups with
  | nil => rfl
  | cons group groups ih =>
    obtain ⟨⟨found, hfound, hcount⟩, hrest⟩ := List.forall_mem_cons.mp hgroups
    rw [List.filterMap_cons_some hfound, List.map_cons, List.map_cons, hcount, ih hrest]

/-- One name means one candidate. -/
def SameNamed (xs : List (PreparedCandidate nfc)) : Prop :=
  ∀ x ∈ xs, ∀ y ∈ xs, x.candidateId = y.candidateId → x.candidate = y.candidate

/-- The representative does not depend on the order of the occurrences. -/
theorem representative_perm (h : xs.Perm ys)
    (hsame : ∀ x ∈ xs, ∀ y ∈ xs, x.candidateId = y.candidateId ∧ x.candidate = y.candidate) :
    representative xs = representative ys := by
  cases xs with
  | nil =>
    rw [List.nil_perm] at h
    rw [h]
  | cons first rest =>
    cases rest with
    | nil =>
      rw [List.singleton_perm] at h
      rw [← h]
    | cons next rest =>
      cases ys with
      | nil => cases h.length_eq
      | cons first' rest' =>
        cases rest' with
        | nil => cases h.length_eq
        | cons next' rest' =>
          obtain ⟨hid, hcandidate⟩ := hsame first List.mem_cons_self first'
            (h.mem_iff.mpr List.mem_cons_self)
          have hworst : worstOutcome first.outcome ((next :: rest).map fun o => o.outcome) =
              worstOutcome first'.outcome ((next' :: rest').map fun o => o.outcome) := by
            refine worstOutcome_congr fun outcome => ?_
            rw [← List.map_cons (f := fun o : PreparedCandidate nfc => o.outcome),
              ← List.map_cons (f := fun o : PreparedCandidate nfc => o.outcome)]
            exact (h.map _).mem_iff
          have hreasons : unionReasons (first :: next :: rest) =
              unionReasons (first' :: next' :: rest') := by
            ext reason
            simp only [mem_unionReasons, h.mem_iff]
          rw [representative_many, representative_many, hworst, hreasons, hid, hcandidate,
            h.length_eq]

/-- The unique candidates do not depend on the order of the batch. -/
theorem uniqueCandidates_perm (h : xs.Perm ys) (hsame : SameNamed xs) :
    uniqueCandidates xs = uniqueCandidates ys := by
  have hmap : (groupsBy (fun x : PreparedCandidate nfc => x.candidateId) xs).map representative =
      (groupsBy (fun x : PreparedCandidate nfc => x.candidateId) ys).map representative := by
    refine map_groupsBy_perm h fun id hgroup => representative_perm hgroup ?_
    intro x hx y hy
    rw [mem_groupOf] at hx hy
    have hid : x.candidateId = y.candidateId := hx.2.trans hy.2.symm
    exact ⟨hid, hsame x hx.1 y hy.1 hid⟩
  have hfilter := congrArg (List.filterMap id) hmap
  rwa [List.filterMap_map, List.filterMap_map, Function.id_comp] at hfilter

end Unique

end Consolidation
end AyyoHumanoid
