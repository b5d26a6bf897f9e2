import AyyoHumanoid.MemoryConflicts
import AyyoHumanoid.SelectionDecisions
import AyyoHumanoid.WorldIdentities
import Mathlib.Algebra.Order.BigOperators.Group.List

/-!
# Order and growth of batches

A selection depends on which candidates a batch holds, not on their order, and
more candidates never select one that fewer do not. Both rest on names that tell
candidates apart, and both fail only where preparing a candidate raises.
-/

namespace AyyoHumanoid
namespace Consolidation

open PyText JsonText PyCollections Memory Validation

section Chosen

variable {nfc : Nfc} {xs ys : List (PreparedCandidate nfc)} {x : PreparedCandidate nfc}

/-- A candidate of the batch that the batch selects. -/
structure Chosen (xs : List (PreparedCandidate nfc)) (x : PreparedCandidate nfc) : Prop where
  /-- It is in the batch. -/
  mem : x ∈ xs
  /-- It occurs once. -/
  alone : occurrencesOf xs x.candidateId = [x]
  /-- Nothing speaks against it by itself. -/
  base : x.outcome = .selectForReview
  /-- Every other candidate has another identity. -/
  free : ∀ y ∈ xs, y.candidateId ≠ x.candidateId → identityKey y.candidate ≠ identityKey x.candidate

/-- What a batch selects is selected by a part of the batch that holds it. -/
theorem Chosen.mono (h : Chosen ys x) (hsub : xs.Subperm ys) (hx : x ∈ xs) : Chosen xs x where
  mem := hx
  alone := groupOf_eq_singleton hsub hx h.alone
  base := h.base
  free := fun y hy => h.free y (hsub.subset hy)

/-- The representative of a candidate's name, when one name means one candidate. -/
theorem SameNamed.representative (hsame : SameNamed xs) (hx : x ∈ xs) :
    ∃ u ∈ uniqueCandidates xs, u.candidateId = x.candidateId ∧ u.candidate = x.candidate := by
  obtain ⟨u, hu, hid, ⟨y, hy, hyid, hcandidate⟩, -⟩ := representative_of_mem hx
  exact ⟨u, mem_uniqueCandidates.mpr ⟨x, hx, hu⟩, hid, hcandidate.trans (hsame y hy x hx hyid)⟩

/-- The selected settled candidates are the chosen candidates of the batch. -/
theorem settled_iff_chosen (hsame : SameNamed xs) {id : PyStr} :
    (∃ u ∈ settled xs, u.outcome = .selectForReview ∧ u.candidateId = id) ↔
      ∃ x, Chosen xs x ∧ x.candidateId = id := by
  have hnodup := nodup_uniqueCandidates xs
  constructor
  · rintro ⟨u, hu, houtcome, rfl⟩
    obtain ⟨v, hv, rfl⟩ := List.mem_map.mp hu
    obtain ⟨hselected, hfree⟩ := (settled_selected hnodup hv).mp houtcome
    obtain ⟨x, hx, hresult⟩ := mem_uniqueCandidates.mp hv
    obtain ⟨only, honly, hbase⟩ := (representative_selected hresult).mp hselected
    have hxonly : x = only := by
      have hinside : x ∈ occurrencesOf xs x.candidateId := mem_groupOf.mpr ⟨hx, rfl⟩
      rw [honly] at hinside
      exact List.mem_singleton.mp hinside
    subst hxonly
    obtain ⟨result, hresult', hid, ⟨y, hy, hyid, hcandidate⟩, -⟩ := representative_of_mem hx
    rw [hresult, Option.some.injEq] at hresult'
    subst hresult'
    refine ⟨x, ⟨hx, honly, hbase, ?_⟩, ?_⟩
    · intro z hz hne hidentity
      obtain ⟨w, hw, hwid, hwcandidate⟩ := hsame.representative hz
      refine hfree ⟨w, hw, ?_, ?_⟩
      · rintro rfl
        exact hne (hwid.symm.trans hid)
      · rw [hwcandidate, hidentity, hcandidate, hsame y hy x hx hyid]
    · rw [(afterConflicts_kept _ v).1, hid]
  · rintro ⟨x, hchosen, rfl⟩
    obtain ⟨u, hu, hid, hcandidate⟩ := hsame.representative hchosen.mem
    refine ⟨_, List.mem_map.mpr ⟨u, hu, rfl⟩, (settled_selected hnodup hu).mpr ⟨?_, ?_⟩, ?_⟩
    · obtain ⟨y, hy, hresult⟩ := mem_uniqueCandidates.mp hu
      have hyid : y.candidateId = x.candidateId := by
        obtain ⟨result, hresult', hname, -⟩ := representative_of_mem hy
        rw [hresult, Option.some.injEq] at hresult'
        rw [← hname, ← hresult', hid]
      rw [hyid] at hresult
      exact (representative_selected hresult).mpr ⟨x, hchosen.alone, hchosen.base⟩
    · rintro ⟨v, hv, hne, hidentity⟩
      obtain ⟨y, hy, hresult⟩ := mem_uniqueCandidates.mp hv
      obtain ⟨result, hresult', hname, ⟨z, hz, hzid, hzcandidate⟩, -⟩ := representative_of_mem hy
      rw [hresult, Option.some.injEq] at hresult'
      subst hresult'
      refine hchosen.free z hz ?_ ?_
      · intro heq
        exact hne (unique_of_id hv hu (by rw [hname, ← hzid, heq, hid]))
      · rw [← hzcandidate, hidentity, hcandidate]
    · rw [(afterConflicts_kept _ u).1, hid]

end Chosen

section Batches

variable {nfc : Nfc} {p : Platform} {items others : List (CandidateReviewItem nfc)}

/-- What the items of a batch are prepared to. -/
def preparedItems (p : Platform) (items : List (CandidateReviewItem nfc)) :
    List (PreparedCandidate nfc × Nat) :=
  items.filterMap fun item => (prepare p item).toOption

/-- The prepared candidates of a batch. -/
def preparedCandidates (p : Platform) (items : List (CandidateReviewItem nfc)) :
    List (PreparedCandidate nfc) :=
  (preparedItems p items).map Prod.fst

/-- The characters of a batch. -/
def batchCharacters (p : Platform) (items : List (CandidateReviewItem nfc)) : Nat :=
  ((preparedItems p items).map Prod.snd).sum

/-- An item that can be prepared: its candidate can be named and its kind can be hashed. -/
def Preparable (item : CandidateReviewItem nfc) : Prop :=
  Encodable item.candidate ∧ ¬KindUnhashable item

/-- The batch is prepared exactly when each item can be. -/
theorem mapM_prepare : (∃ prepared, items.mapM (prepare p) = .ok prepared) ↔
    ∀ item ∈ items, Preparable item := by
  rw [Checks.exists_mapM_ok]
  exact forall₂_congr fun _ _ => prepare_total

/-- The loop of a prepared batch returns what its items are prepared to. -/
theorem mapM_prepare_eq (h : ∀ item ∈ items, Preparable item) :
    items.mapM (prepare p) = .ok (preparedItems p items) := by
  obtain ⟨prepared, hprepared⟩ := mapM_prepare.mpr h
  rw [hprepared]
  refine congrArg Except.ok ?_
  rw [Checks.mapM_ok] at hprepared
  induction hprepared with
  | nil => rfl
  | cons hitem hrest ih =>
    have hone := congrArg Except.toOption hitem
    rw [preparedItems, List.filterMap_cons, hone, ← preparedItems,
      ← ih fun item hmem => h item (List.mem_cons_of_mem _ hmem)]
    rfl

/-- There is a prepared candidate for each item. -/
theorem length_preparedCandidates (h : ∀ item ∈ items, Preparable item) :
    (preparedCandidates p items).length = items.length := by
  have hloop := mapM_prepare_eq (p := p) h
  rw [Checks.mapM_ok] at hloop
  rw [preparedCandidates, List.length_map, hloop.length_eq]

/-- A prepared candidate comes from an item. -/
theorem mem_preparedCandidates {x : PreparedCandidate nfc} :
    x ∈ preparedCandidates p items ↔ ∃ item ∈ items, ∃ n, prepare p item = .ok (x, n) := by
  simp only [preparedCandidates, preparedItems, List.mem_map, List.mem_filterMap]
  constructor
  · rintro ⟨⟨y, n⟩, ⟨item, hitem, hprepared⟩, rfl⟩
    refine ⟨item, hitem, n, ?_⟩
    cases hresult : prepare p item with
    | error e =>
      rw [hresult] at hprepared
      cases hprepared
    | ok result =>
      rw [hresult] at hprepared
      exact congrArg Except.ok (Option.some.inj hprepared)
  · rintro ⟨item, hitem, n, hprepared⟩
    exact ⟨(x, n), ⟨item, hitem, by rw [hprepared]; rfl⟩, rfl⟩

/-- A prepared candidate is the candidate of its item under the digest of its document. -/
theorem prepare_ok {item : CandidateReviewItem nfc} {result : PreparedCandidate nfc × Nat}
    (h : prepare p item = .ok result) : result.1.candidate = item.candidate ∧
      ∃ text, candidateText item.candidate = .ok text ∧
        result.1.candidateId = candidatePrefix ++ p.sha256 text := by
  simp only [prepare, Checks.bind_ok, Checks.pure_ok] at h
  obtain ⟨⟨withinBounds, characters⟩, -, id, hid, ⟨outcome, reason⟩, -, rfl⟩ := h
  simp only [candidateIdentity, Checks.bind_ok, Checks.pure_ok] at hid
  obtain ⟨text, htext, -, -, rfl⟩ := hid
  exact ⟨rfl, text, htext, rfl⟩

/-- Prepared candidates are well formed. -/
theorem wellFormed_preparedCandidates : ∀ x ∈ preparedCandidates p items, WellFormed x := by
  intro x hx
  obtain ⟨item, -, n, hprepared⟩ := mem_preparedCandidates.mp hx
  exact wellFormed_prepare hprepared

/-- The documents that name the candidates of a batch. -/
def candidateTexts (items : List (CandidateReviewItem nfc)) : List PyStr :=
  items.filterMap fun item => (candidateText item.candidate).toOption

/-- Without collisions one name means one candidate. -/
theorem sameNamed_prepared (hfree : World.CollisionFree p (candidateTexts items)) :
    SameNamed (preparedCandidates p items) := by
  have hdocument : ∀ x ∈ preparedCandidates p items, ∃ text ∈ candidateTexts items,
      candidateText x.candidate = .ok text ∧ x.candidateId = candidatePrefix ++ p.sha256 text := by
    intro x hx
    obtain ⟨item, hitem, n, hprepared⟩ := mem_preparedCandidates.mp hx
    obtain ⟨hcandidate, text, htext, hid⟩ := prepare_ok hprepared
    exact ⟨text, List.mem_filterMap.mpr ⟨item, hitem, by rw [htext]; rfl⟩,
      by rw [hcandidate, htext], hid⟩
  intro x hx y hy hid
  obtain ⟨left, hleft, hxtext, hxid⟩ := hdocument x hx
  obtain ⟨right, hright, hytext, hyid⟩ := hdocument y hy
  rw [hxid, hyid] at hid
  have htext := hfree left hleft right hright (List.append_cancel_left hid)
  rw [← htext] at hytext
  exact candidate_eq_of_text hxtext hytext

/-- The resource limits of a batch. -/
structure WithinLimits (p : Platform) (items : List (CandidateReviewItem nfc)) : Prop where
  /-- There is a candidate. -/
  nonempty : items ≠ []
  /-- There are not too many. -/
  few : items.length ≤ maxCandidateSelectionCount
  /-- They are not too long together. -/
  characters : batchCharacters p items ≤ maxCandidateSelectionAggregateCharacters

/-- A batch within the limits is settled. -/
theorem select_within (h : WithinLimits p items) (hprepared : ∀ item ∈ items, Preparable item) :
    select p items = settleBatch p (preparedCandidates p items) items.length := by
  have hpositive : items.length ≠ 0 := fun hzero => h.nonempty (List.length_eq_zero_iff.mp hzero)
  rw [select, if_neg hpositive, if_neg (Nat.not_lt.mpr h.few), mapM_prepare_eq hprepared]
  rw [Checks.ok_bind]
  exact if_neg (Nat.not_lt.mpr h.characters)

/-- The decision on a batch within the limits lists its settled candidates. -/
theorem exists_select_within (h : WithinLimits p items)
    (hprepared : ∀ item ∈ items, Preparable item) : ∃ d, select p items = .ok d ∧
      d.items.map (fun item => item.toItemDecisionFields) =
        (settled (preparedCandidates p items)).map itemFields := by
  have hlength := length_preparedCandidates (p := p) hprepared
  rw [select_within h hprepared, ← hlength]
  refine exists_settleBatch wellFormed_preparedCandidates ?_ (by rw [hlength]; exact h.few)
  intro hempty
  rw [hempty, List.length_nil] at hlength
  exact h.nonempty (List.length_eq_zero_iff.mp hlength.symm)

/-- A batch outside the limits is rejected as a whole. -/
theorem select_outside (h : ¬WithinLimits p items)
    (hprepared : items.length ≤ maxCandidateSelectionCount → ∀ item ∈ items, Preparable item) :
    select p items = batchRejection p items.length
      (if items.length = 0 then .insufficientEvidence else .resourceLimitExceeded) := by
  by_cases hempty : items.length = 0
  · rw [select, if_pos hempty, if_pos hempty, hempty]
  rw [select, if_neg hempty, if_neg hempty]
  by_cases hmany : maxCandidateSelectionCount < items.length
  · rw [if_pos hmany]
  rw [if_neg hmany, mapM_prepare_eq (hprepared (Nat.not_lt.mp hmany)), Checks.ok_bind]
  refine if_pos (Nat.lt_of_not_le fun hcharacters => h ⟨?_, Nat.not_lt.mp hmany, hcharacters⟩)
  exact fun heq => hempty (List.length_eq_zero_iff.mpr heq)

/-- A batch has a decision when it is empty, too large, or can be prepared. -/
theorem exists_select (hsize : items.length ≤ maxsize)
    (hprepared : items.length ≤ maxCandidateSelectionCount → ∀ item ∈ items, Preparable item) :
    ∃ d, select p items = .ok d := by
  by_cases hlimits : WithinLimits p items
  · obtain ⟨d, hd, -⟩ := exists_select_within hlimits (hprepared hlimits.few)
    exact ⟨d, hd⟩
  · rw [select_outside hlimits hprepared]
    obtain ⟨d, hd, -⟩ := exists_batchRejection nfc (p := p) hsize rfl
    exact ⟨d, hd⟩

/-- A batch with a decision is empty, too large, or can be prepared. -/
theorem preparable_of_select {d : CandidateSelectionDecision nfc} (h : select p items = .ok d)
    (hfew : items.length ≤ maxCandidateSelectionCount) : ∀ item ∈ items, Preparable item := by
  by_cases hempty : items.length = 0
  · rw [List.length_eq_zero_iff.mp hempty]
    exact List.forall_mem_nil _
  rw [select, if_neg hempty, if_neg (Nat.not_lt.mpr hfew), Checks.bind_ok] at h
  obtain ⟨prepared, hloop, -⟩ := h
  exact mapM_prepare.mp ⟨prepared, hloop⟩

/-- A larger batch has all the prepared candidates of a smaller one. -/
theorem preparedItems_subperm (h : items.Subperm others) :
    (preparedItems p items).Subperm (preparedItems p others) := by
  obtain ⟨between, hperm, hsub⟩ := h
  exact ⟨_, hperm.filterMap _, hsub.filterMap _⟩

/-- A larger batch has no fewer characters. -/
theorem batchCharacters_mono (h : items.Subperm others) :
    batchCharacters p items ≤ batchCharacters p others := by
  obtain ⟨between, hperm, hsub⟩ := preparedItems_subperm (p := p) h
  have hsum := (hsub.map Prod.snd).sum_le_sum fun _ _ => Nat.zero_le _
  rwa [(hperm.map Prod.snd).sum_eq] at hsum

/-- A part of a batch within the limits is within them unless it is empty. -/
theorem WithinLimits.mono (h : WithinLimits p others) (hsub : items.Subperm others)
    (hne : items ≠ []) : WithinLimits p items where
  nonempty := hne
  few := hsub.length_le.trans h.few
  characters := (batchCharacters_mono hsub).trans h.characters

/-- Reordering a batch does not change its decision. -/
theorem select_perm (hfree : World.CollisionFree p (candidateTexts items))
    (hprepared : items.length ≤ maxCandidateSelectionCount → ∀ item ∈ items, Preparable item)
    (h : others.Perm items) : select p others = select p items := by
  have hpreparedOthers : others.length ≤ maxCandidateSelectionCount →
      ∀ item ∈ others, Preparable item := fun hfew item hmem =>
    hprepared (h.length_eq ▸ hfew) item (h.mem_iff.mp hmem)
  by_cases hlimits : WithinLimits p items
  · have hne : others ≠ [] := fun hnil => hlimits.nonempty (List.nil_perm.mp (hnil ▸ h))
    have hlimitsOthers := hlimits.mono h.subperm hne
    have hunique : uniqueCandidates (preparedCandidates p items) =
        uniqueCandidates (preparedCandidates p others) :=
      uniqueCandidates_perm ((h.symm.filterMap _).map _) (sameNamed_prepared hfree)
    rw [select_within hlimits (hprepared hlimits.few),
      select_within hlimitsOthers (hpreparedOthers hlimitsOthers.few), settleBatch, settleBatch,
      hunique, h.length_eq]
  · have hlimitsOthers : ¬WithinLimits p others := fun hothers => by
      refine hlimits (hothers.mono h.symm.subperm ?_)
      rintro rfl
      exact hothers.nonempty (List.perm_nil.mp h)
    rw [select_outside hlimits hprepared, select_outside hlimitsOthers hpreparedOthers,
      h.length_eq]

/-- The items that a decision within the limits selects are the chosen candidates. -/
theorem selected_iff_chosen (hfree : World.CollisionFree p (candidateTexts items))
    {d : CandidateSelectionDecision nfc}
    (hitems : d.items.map (fun item => item.toItemDecisionFields) =
      (settled (preparedCandidates p items)).map itemFields) {id : PyStr} :
    (∃ e ∈ d.selected, e.candidateId = id) ↔
      ∃ x, Chosen (preparedCandidates p items) x ∧ x.candidateId = id := by
  rw [← settled_iff_chosen (sameNamed_prepared hfree)]
  constructor
  · rintro ⟨e, he, rfl⟩
    rw [CandidateSelectionDecision.selected, List.mem_filter, decide_eq_true_eq] at he
    have hmem := List.mem_map_of_mem (f := fun item => item.toItemDecisionFields) he.1
    rw [hitems, List.mem_map] at hmem
    obtain ⟨u, hu, heq⟩ := hmem
    exact ⟨u, hu, (congrArg ItemDecisionFields.outcome heq).trans he.2,
      congrArg ItemDecisionFields.candidateId heq⟩
  · rintro ⟨u, hu, houtcome, rfl⟩
    have hmem := List.mem_map_of_mem (f := itemFields) hu
    rw [← hitems, List.mem_map] at hmem
    obtain ⟨e, he, heq⟩ := hmem
    refine ⟨e, ?_, congrArg ItemDecisionFields.candidateId heq⟩
    rw [CandidateSelectionDecision.selected, List.mem_filter, decide_eq_true_eq]
    exact ⟨he, (congrArg ItemDecisionFields.outcome heq).trans houtcome⟩

/-- A decision with items is on a batch within the limits. -/
theorem within_of_items {d : CandidateSelectionDecision nfc} (hsize : items.length ≤ maxsize)
    (h : select p items = .ok d) (hne : d.items ≠ []) : WithinLimits p items ∧
      d.items.map (fun item => item.toItemDecisionFields) =
        (settled (preparedCandidates p items)).map itemFields := by
  have hprepared := preparable_of_select h
  by_cases hlimits : WithinLimits p items
  · obtain ⟨other, hother, hitems⟩ := exists_select_within hlimits (hprepared hlimits.few)
    rw [h, Except.ok.injEq] at hother
    exact ⟨hlimits, hother ▸ hitems⟩
  · rw [select_outside hlimits hprepared] at h
    obtain ⟨other, hother, hempty⟩ := exists_batchRejection nfc (p := p) hsize rfl
    rw [hother, Except.ok.injEq] at h
    exact absurd (h ▸ hempty) hne

/-- An item of a decision is the decision on a prepared candidate. -/
theorem candidate_of_item {d : CandidateSelectionDecision nfc}
    (hitems : d.items.map (fun item => item.toItemDecisionFields) =
      (settled (preparedCandidates p items)).map itemFields) {e : CandidateSelectionItemDecision nfc}
    (he : e ∈ d.items) : ∃ x ∈ preparedCandidates p items, e.candidate = x.candidate ∧
      e.candidateId = x.candidateId := by
  have hmem := List.mem_map_of_mem (f := fun item => item.toItemDecisionFields) he
  rw [hitems, List.mem_map] at hmem
  obtain ⟨u, hu, heq⟩ := hmem
  obtain ⟨v, hv, rfl⟩ := List.mem_map.mp hu
  obtain ⟨hid, hcandidate, -⟩ := afterConflicts_kept
    (uniqueCandidates (preparedCandidates p items)) v
  obtain ⟨x, hx, hresult⟩ := mem_uniqueCandidates.mp hv
  obtain ⟨result, hresult', hname, ⟨y, hy, hyid, hycandidate⟩, -⟩ := representative_of_mem hx
  rw [hresult, Option.some.injEq] at hresult'
  subst hresult'
  refine ⟨y, hy, ?_, ?_⟩
  · rw [← hycandidate, ← hcandidate]
    exact (congrArg ItemDecisionFields.candidate heq).symm
  · rw [hyid, ← hname, ← hid]
    exact (congrArg ItemDecisionFields.candidateId heq).symm

/-- Candidates of prepared items with one candidate have one name. -/
theorem id_eq_of_candidate {x y : PreparedCandidate nfc} (hx : x ∈ preparedCandidates p items)
    (hy : y ∈ preparedCandidates p others) (h : x.candidate = y.candidate) :
    x.candidateId = y.candidateId := by
  obtain ⟨item, -, n, hitem⟩ := mem_preparedCandidates.mp hx
  obtain ⟨other, -, m, hother⟩ := mem_preparedCandidates.mp hy
  obtain ⟨hxcandidate, left, hleft, hxid⟩ := prepare_ok hitem
  obtain ⟨hycandidate, right, hright, hyid⟩ := prepare_ok hother
  have htext : (Except.ok left : Except SelectionError PyStr) = .ok right := by
    rw [← hleft, ← hright, ← hxcandidate, ← hycandidate, h]
  rw [hxid, hyid, Except.ok.inj htext]

/-- What is selected of a larger batch is selected of a smaller one that holds it. -/
theorem selected_of_larger (hfree : World.CollisionFree p (candidateTexts others))
    (hsize : others.length ≤ maxsize) {d d' : CandidateSelectionDecision nfc}
    (h : select p items = .ok d) (h' : select p others = .ok d') (hsub : items.Subperm others)
    {item : CandidateReviewItem nfc} (hitem : item ∈ items)
    {e' : CandidateSelectionItemDecision nfc} (he' : e' ∈ d'.selected)
    (hcandidate : e'.candidate = item.candidate) :
    ∃ e ∈ d.selected, e.candidate = item.candidate := by
  have hinside : e' ∈ d'.items := (List.mem_filter.mp he').1
  obtain ⟨hlimits', hitems'⟩ := within_of_items hsize h' (List.ne_nil_of_mem hinside)
  have hlimits := hlimits'.mono hsub (List.ne_nil_of_mem hitem)
  have hprepared := preparable_of_select h hlimits.few
  have hfreeItems : World.CollisionFree p (candidateTexts items) := by
    have hsubset : ∀ text ∈ candidateTexts items, text ∈ candidateTexts others := by
      intro text htext
      obtain ⟨one, hone, hfound⟩ := List.mem_filterMap.mp htext
      exact List.mem_filterMap.mpr ⟨one, hsub.subset hone, hfound⟩
    exact fun a ha b hb => hfree a (hsubset a ha) b (hsubset b hb)
  obtain ⟨other, hother, hitems⟩ := exists_select_within hlimits hprepared
  rw [h, Except.ok.injEq] at hother
  subst hother
  -- The candidate is prepared to the chosen one of the larger batch.
  obtain ⟨x', hchosen, hid'⟩ := (selected_iff_chosen hfree hitems').mp ⟨e', he', rfl⟩
  obtain ⟨y, hy, hycandidate, hyid⟩ := candidate_of_item hitems' hinside
  obtain ⟨⟨x, n⟩, hx⟩ := prepare_total.mpr (hprepared item hitem)
  have hxmem : x ∈ preparedCandidates p items := mem_preparedCandidates.mpr ⟨item, hitem, n, hx⟩
  have hpart : (preparedCandidates p items).Subperm (preparedCandidates p others) := by
    obtain ⟨between, hperm, hbetween⟩ := preparedItems_subperm (p := p) hsub
    exact ⟨_, hperm.map Prod.fst, hbetween.map Prod.fst⟩
  have hxcandidate : x.candidate = item.candidate := (prepare_ok hx).1
  have hxid : x.candidateId = x'.candidateId := by
    rw [hid', hyid]
    exact id_eq_of_candidate hxmem hy (by rw [hxcandidate, ← hcandidate, hycandidate])
  have hsame : x = x' := by
    have hoccurs : x ∈ occurrencesOf (preparedCandidates p others) x'.candidateId :=
      mem_groupOf.mpr ⟨hpart.subset hxmem, hxid⟩
    rw [hchosen.alone] at hoccurs
    exact List.mem_singleton.mp hoccurs
  rw [← hsame] at hchosen
  obtain ⟨e, he, heid⟩ := (selected_iff_chosen hfreeItems hitems).mpr
    ⟨x, hchosen.mono hpart hxmem, rfl⟩
  obtain ⟨z, hz, hzcandidate, hzid⟩ := candidate_of_item hitems (List.mem_filter.mp he).1
  refine ⟨e, he, ?_⟩
  rw [hzcandidate, sameNamed_prepared hfreeItems z hz x hxmem (by rw [← hzid, heid]), hxcandidate]

/-- Selected candidates have identities of their own. -/
theorem selected_distinct (hfree : World.CollisionFree p (candidateTexts items))
    (hsize : items.length ≤ maxsize) {d : CandidateSelectionDecision nfc}
    (h : select p items = .ok d) :
    d.selected.Pairwise fun a b => identityKey a.candidate ≠ identityKey b.candidate := by
  by_cases hempty : d.items = []
  · rw [CandidateSelectionDecision.selected, hempty]
    exact List.Pairwise.nil
  obtain ⟨-, hitems⟩ := within_of_items hsize h hempty
  have hids : (d.items.map fun item => item.candidateId).Nodup := by
    have hview := congrArg (List.map ItemDecisionFields.candidateId) hitems
    rw [List.map_map, List.map_map] at hview
    have hnames : (d.items.map fun item => item.candidateId) =
        sortedSet ((preparedCandidates p items).map fun x => x.candidateId) :=
      hview.trans (map_settled _)
    rw [hnames]
    exact (pairwise_sortedSet _).imp fun hlt => ne_of_lt hlt
  have hpairs : d.selected.Pairwise fun a b => a.candidateId ≠ b.candidateId :=
    (List.pairwise_map.mp hids).filter _
  refine hpairs.imp_of_mem fun {a b} ha hb hne hidentity => ?_
  obtain ⟨x, hchosen, hxid⟩ := (selected_iff_chosen hfree hitems).mp ⟨a, ha, rfl⟩
  obtain ⟨y, hy, hycandidate, hyid⟩ := candidate_of_item hitems (List.mem_filter.mp hb).1
  obtain ⟨z, hz, hzcandidate, hzid⟩ := candidate_of_item hitems (List.mem_filter.mp ha).1
  have hsame := sameNamed_prepared hfree z hz x hchosen.mem (by rw [← hzid, hxid])
  refine hchosen.free y hy (fun heq => hne ?_) ?_
  · rw [← hxid, ← heq, hyid]
  · rw [← hycandidate, ← hidentity, hzcandidate, hsame]

/-- What selection promises about a batch: it returns a decision that does not depend on the order
of the batch, selects no two candidates of one identity, and selects every candidate that a larger
batch selects. -/
structure SelectsSafely (p : Platform) (items : List (CandidateReviewItem nfc)) : Prop where
  /-- Every order of the batch has one decision. -/
  returns : ∃ d, ∀ others : List (CandidateReviewItem nfc), others.Perm items →
    select p others = .ok d
  /-- Selected candidates have identities of their own. -/
  distinct : ∀ d, select p items = .ok d →
    d.selected.Pairwise fun a b => identityKey a.candidate ≠ identityKey b.candidate
  /-- A larger batch selects no candidate of this batch that this batch does not select. -/
  conservative : ∀ d d' others, select p items = .ok d → items.Subperm others →
    others.length ≤ maxsize → World.CollisionFree p (candidateTexts others) →
      select p others = .ok d' → ∀ item ∈ items,
        (∃ e' ∈ d'.selected, e'.candidate = item.candidate) →
          ∃ e ∈ d.selected, e.candidate = item.candidate

section Samples

/-- The arguments of an owner's preference with a note. -/
def notedArgs (note : PyStr) : CandidateArgs where
  memoryType := .preference
  subject := py "owner"
  predicate := py "drink"
  value := .str (py "tea")
  provenance := ownerVoice
  confidence := .int 1
  observedAt := minuteOf2026 0
  metadata := some [(py "note", .str note)]

/-- An owner's preference with a note. -/
def notedCandidate (note : PyStr) : CandidateEvidence Nfc.ascii where
  memoryType := .preference
  subject := py "owner"
  predicate := py "drink"
  confidence := oneFloat
  observedAt := minuteOf2026 0
  correctionTargetId := none
  correctionReason := none
  valueJson := encode (.str (py "tea"))
  metadataJson := encode (.obj [(py "note", .str note)])
  provenanceType := .explicitOwnerStatement
  provenanceSourceId := py "voice"
  provenanceDetailsJson := encode (.obj [])
  built := ⟨notedArgs note, rfl⟩

/-- The review item of an owner's preference with a note. -/
def notedItem (note : PyStr) : CandidateReviewItem Nfc.ascii where
  candidate := notedCandidate note
  exact := by simp

end Samples

end Batches

end Consolidation
end AyyoHumanoid
