import AyyoHumanoid.LearningEvaluation
import AyyoHumanoid.PyGroups

/-!
# What an evaluation report says about its evidence

The trials that pass the checks name distinct holdout episodes. The report splits
the holdout episodes by them, counts them exactly and sums their metrics. Nothing
in it depends on the order in which the trials were supplied.
-/

namespace AyyoHumanoid
namespace Learning

open PyText PyCollections Artifacts

section Metrics

/-- The running totals of one metric. -/
def totalOf (totals : PyDict PyStr (Nat × Nat)) (metricId : PyStr) : Nat × Nat :=
  (totals.get? metricId).getD (0, 0)

/-- The metrics with an identifier. -/
def metricsNamed (metrics : List ExactMetric) (metricId : PyStr) : List ExactMetric :=
  metrics.filter (·.metricId = metricId)

/-- The totals after adding one metric. -/
theorem totalOf_addMetric (totals : PyDict PyStr (Nat × Nat)) (metric : ExactMetric)
    (metricId : PyStr) : totalOf (addMetric totals metric) metricId =
      if metricId = metric.metricId then
        ((totalOf totals metricId).1 + metric.numerator,
          (totalOf totals metricId).2 + metric.denominator)
      else totalOf totals metricId := by
  unfold totalOf addMetric
  rw [PyDict.get?_set]
  split
  · next h => rw [h, Option.getD_some]
  · rfl

/-- The totals after adding metrics are the totals before and the sums. -/
theorem totalOf_foldl (metrics : List ExactMetric) (totals : PyDict PyStr (Nat × Nat))
    (metricId : PyStr) : totalOf (metrics.foldl addMetric totals) metricId =
      ((totalOf totals metricId).1 + ((metricsNamed metrics metricId).map (·.numerator)).sum,
        (totalOf totals metricId).2 + ((metricsNamed metrics metricId).map (·.denominator)).sum) := by
  induction metrics generalizing totals with
  | nil => simp [metricsNamed]
  | cons metric metrics ih =>
    rw [List.foldl_cons, ih, totalOf_addMetric]
    by_cases h : metricId = metric.metricId
    · simp only [metricsNamed, h, decide_true, List.filter_cons_of_pos, List.map_cons,
        List.sum_cons, if_true, Nat.add_assoc]
    · have hne : ¬metric.metricId = metricId := fun heq => h heq.symm
      simp only [metricsNamed, if_neg h, hne, decide_false, Bool.false_eq_true,
        not_false_eq_true, List.filter_cons_of_neg]

/-- The metrics that have totals are those that were added. -/
theorem mem_keys_foldl (metrics : List ExactMetric) (totals : PyDict PyStr (Nat × Nat))
    (metricId : PyStr) : metricId ∈ (metrics.foldl addMetric totals).keys ↔
      metricId ∈ totals.keys ∨ metricId ∈ metrics.map (·.metricId) := by
  induction metrics generalizing totals with
  | nil => simp
  | cons metric metrics ih =>
    rw [List.foldl_cons, ih, addMetric, PyDict.mem_keys_set, List.map_cons, List.mem_cons]
    constructor
    · rintro ((h | h) | h)
      · exact Or.inr (Or.inl h)
      · exact Or.inl h
      · exact Or.inr (Or.inr h)
    · rintro (h | h | h)
      · exact Or.inl (Or.inr h)
      · exact Or.inl (Or.inl h)
      · exact Or.inr h

/-- An aggregate metric repeats the identifier and the totals it was made from. -/
theorem aggregateExactMetric_ok {metric : PyStr × Nat × Nat} {aggregate : AggregateExactMetric}
    (h : aggregateExactMetric metric = .ok aggregate) :
    (aggregate.metricId, aggregate.numerator, aggregate.denominator) = metric := by
  obtain ⟨hchecked, hmake⟩ := Checks.construct_ok.mp h
  rw [← hmake]

/-- An evaluation count repeats the text and the number it was made from. -/
theorem evaluationCount_ok {value : PyStr} {number : Nat} {count : EvaluationCount}
    (h : evaluationCount value number = .ok count) :
    (count.value, count.count) = (value, number) := by
  obtain ⟨hchecked, hmake⟩ := Checks.construct_ok.mp h
  rw [← hmake]

/-- The metrics of trials. -/
def metricsOf (trials : List OfflineTrialResult) : List ExactMetric := trials.flatMap (·.metrics)

variable {trials : List OfflineTrialResult} {aggregates : List AggregateExactMetric}

/-- The aggregate metrics are those of the trials, in order. -/
theorem metricIds_of_aggregates (h : (sortBy Prod.fst (metricValues trials).entries).mapM
    aggregateExactMetric = .ok aggregates) :
    aggregates.map (·.metricId) = sortedSet ((metricsOf trials).map (·.metricId)) := by
  have hids : aggregates.map (·.metricId) =
      (sortBy Prod.fst (metricValues trials).entries).map Prod.fst :=
    Checks.map_of_mapM_ok h Prod.fst fun _ _ hmade => by rw [← aggregateExactMetric_ok hmade]
  have hordered : (aggregates.map (·.metricId)).Pairwise (· < ·) := by
    rw [hids]
    exact keyOrdered_sortBy (metricValues trials).nodup
  have hself : aggregates.map (·.metricId) = sortedSet (aggregates.map (·.metricId)) :=
    sortedSet_eq_self.mpr hordered
  rw [hself]
  refine sortedSet_congr fun metricId => ?_
  rw [hids, ((sortBy_perm Prod.fst (metricValues trials).entries).map Prod.fst).mem_iff]
  exact (mem_keys_foldl (metricsOf trials) .empty metricId).trans (by simp [PyDict.keys, PyDict.empty])

/-- An aggregate metric has the sums of the trials' metrics with its identifier. -/
theorem sums_of_aggregates (h : (sortBy Prod.fst (metricValues trials).entries).mapM
    aggregateExactMetric = .ok aggregates) {aggregate : AggregateExactMetric}
    (hmem : aggregate ∈ aggregates) :
    aggregate.numerator = ((metricsNamed (metricsOf trials) aggregate.metricId).map
      (·.numerator)).sum ∧
    aggregate.denominator = ((metricsNamed (metricsOf trials) aggregate.metricId).map
      (·.denominator)).sum := by
  obtain ⟨entry, hentry, hmade⟩ := (Checks.mem_of_mapM_ok h).mp hmem
  have hfields := aggregateExactMetric_ok hmade
  rw [mem_sortBy, ← hfields] at hentry
  have hstored := PyDict.get?_eq_some.mpr hentry
  have htotal := totalOf_foldl (metricsOf trials) .empty aggregate.metricId
  have hempty : totalOf .empty aggregate.metricId = (0, 0) := rfl
  rw [totalOf, hempty] at htotal
  rw [metricValues, ← metricsOf] at hstored
  rw [hstored, Option.getD_some, Nat.zero_add, Nat.zero_add] at htotal
  exact ⟨congrArg Prod.fst htotal, congrArg Prod.snd htotal⟩

end Metrics

section Trials

/-- Trials that pass the checks of an evaluation. -/
structure VerifiedTrials (p : Platform) (corpus : DemonstrationEvaluationCorpus)
    (candidateId candidateFingerprint : PyStr) (trials : List OfflineTrialResult) : Prop where
  /-- The candidate is named by a digest. -/
  candidate : IsFingerprint candidateId
  /-- The candidate has a digest. -/
  fingerprint : IsFingerprint candidateFingerprint
  /-- There are not too many trials. -/
  few : trials.length ≤ maxTrialsPerEvaluation
  /-- Each trial is its own reconstruction. -/
  verified : ∀ trial ∈ trials, verifyTrialResult p trial = true
  /-- No holdout episode has two trials. -/
  episodes : (trials.map (·.holdoutEpisodeId)).Nodup
  /-- No trial occurs twice. -/
  identities : (trials.map (·.trialId)).Nodup
  /-- Each trial belongs to the candidate and to a holdout episode. -/
  bound : ∀ trial ∈ trials, checkTrial corpus candidateId candidateFingerprint trial = .ok ()

variable {p : Platform} {nfc : Nfc} {corpus : DemonstrationEvaluationCorpus}
  {candidateId candidateFingerprint : PyStr} {trials others ordered : List OfflineTrialResult}

/-- The trial checks pass exactly on verified trials, which come back in order. -/
theorem verifiedOrderedTrials_ok :
    verifiedOrderedTrials p corpus candidateId candidateFingerprint trials = .ok ordered ↔
      VerifiedTrials p corpus candidateId candidateFingerprint trials ∧
        sortBy (fun trial => trial.holdoutEpisodeId) trials = ordered := by
  simp only [verifiedOrderedTrials, Checks.unit_bind_ok, Checks.require_ok, fingerprint_ok,
    Checks.forM_ok, Checks.pure_ok]
  constructor
  · rintro ⟨hcandidate, hfingerprint, hfew, hverified, hnodup, hbound, hordered⟩
    exact ⟨⟨hcandidate, hfingerprint, hfew, hverified, hnodup.1, hnodup.2, hbound⟩, hordered⟩
  · rintro ⟨h, hordered⟩
    exact ⟨h.candidate, h.fingerprint, h.few, h.verified, ⟨h.episodes, h.identities⟩, h.bound,
      hordered⟩

/-- The checks do not depend on the order of the trials. -/
theorem VerifiedTrials.perm (h : VerifiedTrials p corpus candidateId candidateFingerprint trials)
    (hperm : trials.Perm others) :
    VerifiedTrials p corpus candidateId candidateFingerprint others where
  candidate := h.candidate
  fingerprint := h.fingerprint
  few := hperm.length_eq ▸ h.few
  verified := fun trial hmem => h.verified trial (hperm.mem_iff.mpr hmem)
  episodes := (hperm.map _).nodup_iff.mp h.episodes
  identities := (hperm.map _).nodup_iff.mp h.identities
  bound := fun trial hmem => h.bound trial (hperm.mem_iff.mpr hmem)

/-- What was computed from trials is computed from the same trials in another order. -/
theorem reportFromEvidence_perm {report : OfflineEvaluationReport}
    (h : reportFromEvidence p corpus candidateId candidateFingerprint trials = .ok report)
    (hperm : trials.Perm others) :
    reportFromEvidence p corpus candidateId candidateFingerprint others = .ok report := by
  simp only [reportFromEvidence, Checks.bind_ok] at h ⊢
  obtain ⟨ordered, hordered, hrest⟩ := h
  obtain ⟨hverified, hsorted⟩ := verifiedOrderedTrials_ok.mp hordered
  have hothers : sortBy (fun trial => trial.holdoutEpisodeId) others = ordered := by
    rw [← hsorted]
    exact (sortBy_eq_of_perm hperm hverified.episodes).symm
  exact ⟨ordered, verifiedOrderedTrials_ok.mpr ⟨hverified.perm hperm, hothers⟩, hrest⟩

/-- A trial that passes belongs to a holdout episode with its expected outcome. -/
theorem exists_reference {trial : OfflineTrialResult}
    (h : checkTrial corpus candidateId candidateFingerprint trial = .ok ()) :
    ∃ episode ∈ corpus.holdoutEvaluation.episodes,
      episode.episodeId = trial.holdoutEpisodeId ∧ episode.outcomeStatus = trial.expectedOutcome := by
  simp only [checkTrial, Checks.unit_bind_ok] at h
  obtain ⟨-, -, -, hfind⟩ := h
  split at hfind
  · cases hfind
  · next reference hreference =>
    simp only [Checks.unit_bind_ok, Checks.require_ok] at hfind
    have hid := List.find?_some hreference
    exact ⟨reference, List.mem_of_find?_eq_some hreference, of_decide_eq_true hid, hfind.2.symm⟩

/-- The holdout episodes of a verified corpus have distinct identifiers. -/
theorem nodup_holdout (h : verifyCorpus p nfc corpus = true) :
    (corpus.holdoutEvaluation.episodes.map (·.episodeId)).Nodup := by
  have hcorpus : corpusFromReferences p nfc corpus.candidateEvidence.episodes
      corpus.holdoutEvaluation.episodes corpus.description = .ok corpus := of_decide_eq_true h
  simp only [corpusFromReferences, makeEvidenceSet, Checks.bind_ok, orderedUnique_ok] at hcorpus
  obtain ⟨-, -, -, -, -, ⟨-, -, -, -, -, ⟨hnodup, -⟩, -⟩, -⟩ := hcorpus
  exact hnodup

end Trials

section Reports

/-- A holdout episode has a trial with a status that satisfies the condition. -/
def HasTrial (trials : List OfflineTrialResult) (episodeId : PyStr)
    (condition : OfflineTrialStatus → Prop) : Prop :=
  ∃ trial ∈ trials, trial.holdoutEpisodeId = episodeId ∧ condition trial.status

/-- What a report says about the holdout episodes and the trials it was computed from. -/
structure ReportSound (corpus : DemonstrationEvaluationCorpus) (trials : List OfflineTrialResult)
    (report : OfflineEvaluationReport) : Prop where
  /-- The report carries its evidence. -/
  evidence : report.corpus = corpus ∧ report.trialEvidence.Perm trials
  /-- Episodes with a result are evaluated. -/
  evaluated : ∀ id, id ∈ report.evaluatedHoldoutEpisodeIds ↔ HasTrial trials id (· ≠ .incomplete)
  /-- Episodes without a result in their trial are incomplete. -/
  incomplete : ∀ id, id ∈ report.incompleteHoldoutEpisodeIds ↔
    HasTrial trials id (· = .incomplete)
  /-- Holdout episodes without a trial are missing. -/
  missing : ∀ id, id ∈ report.missingHoldoutEpisodeIds ↔
    id ∈ corpus.holdoutEvaluation.episodes.map (·.episodeId) ∧ ¬HasTrial trials id fun _ => True
  /-- The three sequences partition the holdout episodes. -/
  partition : (report.evaluatedHoldoutEpisodeIds ++ report.incompleteHoldoutEpisodeIds ++
    report.missingHoldoutEpisodeIds).Perm (corpus.holdoutEvaluation.episodes.map (·.episodeId))
  /-- The identifiers of the holdout episodes are distinct. -/
  distinct : (corpus.holdoutEvaluation.episodes.map (·.episodeId)).Nodup
  /-- Each status has its number of trials. -/
  statusCounts : report.statusCounts.map (fun count => (count.value, count.count)) =
    OfflineTrialStatus.members.map fun status =>
      (status.value, trials.countP (·.status = status))
  /-- Each historical outcome has its number of holdout episodes. -/
  historicalCounts : report.historicalOutcomeCounts.map (fun count => (count.value, count.count)) =
    DemonstrationOutcomeStatus.members.map fun outcome =>
      (outcome.value, corpus.holdoutEvaluation.episodes.countP (·.outcomeStatus = outcome))
  /-- The metrics of the trials are aggregated, each once. -/
  metricIds : report.aggregateMetrics.map (·.metricId) =
    sortedSet ((metricsOf trials).map (·.metricId))
  /-- The numerators and denominators of each metric are summed. -/
  metricSums : ∀ metric ∈ report.aggregateMetrics,
    metric.numerator = ((metricsNamed (metricsOf trials) metric.metricId).map
      (·.numerator)).sum ∧
    metric.denominator = ((metricsNamed (metricsOf trials) metric.metricId).map
      (·.denominator)).sum
  /-- The coverage counts the evaluated episodes among all. -/
  coverage : report.coverageNumerator = report.evaluatedHoldoutEpisodeIds.length ∧
    report.coverageDenominator = corpus.holdoutEvaluation.episodes.length
  /-- The criteria are met when every holdout episode has a trial with its outcome. -/
  meets : report.disposition = .meetsOfflineCriteria ↔
    ∀ episode ∈ corpus.holdoutEvaluation.episodes, ∃ trial ∈ trials,
      trial.holdoutEpisodeId = episode.episodeId ∧
        trial.observedOutcome = some episode.outcomeStatus
  /-- The evaluation is incomplete when a holdout episode has no result. -/
  unfinished : report.disposition = .incomplete ↔
    ∃ episode ∈ corpus.holdoutEvaluation.episodes,
      ¬HasTrial trials episode.episodeId (· ≠ .incomplete)

variable {p : Platform} {nfc : Nfc} {corpus : DemonstrationEvaluationCorpus}
  {candidateId candidateFingerprint : PyStr} {trials ordered : List OfflineTrialResult}
  {statusCounts historicalCounts : List EvaluationCount}
  {aggregates : List AggregateExactMetric} {report : OfflineEvaluationReport}

/-- A created report has the fields it was given. -/
theorem createReport_ok {fields : ReportFields} (h : createReport p fields = .ok report) :
    report.toReportFields = fields := by
  simp only [createReport, Checks.unit_bind_ok, Checks.pure_ok] at h
  rw [← h.2]
  rfl

/-- A trial of the episode. -/
theorem mem_map_filter (condition : OfflineTrialStatus → Prop) [DecidablePred condition]
    {id : PyStr} : id ∈ (trials.filter fun trial => condition trial.status).map
      (·.holdoutEpisodeId) ↔ HasTrial trials id condition := by
  simp only [List.mem_map, List.mem_filter, decide_eq_true_eq, HasTrial]
  constructor
  · rintro ⟨trial, ⟨hmem, hstatus⟩, hid⟩
    exact ⟨trial, hmem, hid, hstatus⟩
  · rintro ⟨trial, hmem, hid, hstatus⟩
    exact ⟨trial, ⟨hmem, hstatus⟩, hid⟩

/-- Reordered trials hold the same episodes. -/
theorem hasTrial_perm {condition : OfflineTrialStatus → Prop} {id : PyStr}
    (h : ordered.Perm trials) : HasTrial ordered id condition ↔ HasTrial trials id condition := by
  simp only [HasTrial, h.mem_iff]

/-- The trials of verified trials lie in the holdout set. -/
theorem VerifiedTrials.mem_holdout
    (h : VerifiedTrials p corpus candidateId candidateFingerprint trials) {trial : OfflineTrialResult}
    (hmem : trial ∈ trials) :
    trial.holdoutEpisodeId ∈ corpus.holdoutEvaluation.episodes.map (·.episodeId) := by
  obtain ⟨episode, hepisode, hid, -⟩ := exists_reference (h.bound trial hmem)
  exact List.mem_map.mpr ⟨episode, hepisode, hid⟩

/-- The disposition without gaps depends on the mismatches. -/
theorem judge_meets {missingIds incompleteIds : List PyStr} :
    (judge missingIds incompleteIds trials).2 = .meetsOfflineCriteria ↔
      missingIds = [] ∧ incompleteIds = [] ∧ ∀ trial ∈ trials, trial.status ≠ .outcomeMismatch := by
  unfold judge
  by_cases hgap : missingIds ≠ [] ∨ incompleteIds ≠ []
  · rw [if_pos hgap]
    constructor
    · intro h
      cases h
    · rintro ⟨hmissing, hincomplete, -⟩
      exact absurd hgap (by simp [hmissing, hincomplete])
  · rw [if_neg hgap]
    have hnone : missingIds = [] ∧ incompleteIds = [] := by
      simpa only [not_or, ne_eq, not_not] using hgap
    by_cases hmismatch : ∃ trial ∈ trials, trial.status = .outcomeMismatch
    · rw [if_pos hmismatch]
      constructor
      · intro h
        cases h
      · rintro ⟨-, -, hall⟩
        obtain ⟨trial, hmem, hstatus⟩ := hmismatch
        exact absurd hstatus (hall trial hmem)
    · rw [if_neg hmismatch]
      refine ⟨fun _ => ⟨hnone.1, hnone.2, fun trial hmem hstatus => ?_⟩, fun _ => rfl⟩
      exact hmismatch ⟨trial, hmem, hstatus⟩

/-- The disposition is incomplete exactly with a gap. -/
theorem judge_incomplete {missingIds incompleteIds : List PyStr} :
    (judge missingIds incompleteIds trials).2 = .incomplete ↔
      missingIds ≠ [] ∨ incompleteIds ≠ [] := by
  unfold judge
  by_cases hgap : missingIds ≠ [] ∨ incompleteIds ≠ []
  · rw [if_pos hgap]
    exact ⟨fun _ => hgap, fun _ => rfl⟩
  · rw [if_neg hgap]
    refine ⟨fun h => ?_, fun h => absurd h hgap⟩
    split at h <;> cases h

/-- Every list of identifiers splits into those with a result, those without and the rest. -/
theorem partition_holdout {holdoutIds : List PyStr} (hholdout : holdoutIds.Nodup)
    (hids : (ordered.map (·.holdoutEpisodeId)).Nodup)
    (hsub : ∀ trial ∈ ordered, trial.holdoutEpisodeId ∈ holdoutIds) :
    ((ordered.filter (·.status ≠ .incomplete)).map (·.holdoutEpisodeId) ++
      (ordered.filter (·.status = .incomplete)).map (·.holdoutEpisodeId) ++
      sortedSet (holdoutIds.filter (· ∉ ordered.map (·.holdoutEpisodeId)))).Perm holdoutIds := by
  have hsplit : ((ordered.filter (·.status ≠ .incomplete)) ++
      (ordered.filter (·.status = .incomplete))).Perm ordered := by
    have hboth := List.filter_append_perm (fun trial => decide (trial.status ≠ .incomplete)) ordered
    simpa only [ne_eq, decide_not, Bool.not_not] using hboth
  have hsupplied : (ordered.map (·.holdoutEpisodeId)).Perm
      (holdoutIds.filter (· ∈ ordered.map (·.holdoutEpisodeId))) := by
    refine (List.perm_ext_iff_of_nodup hids (hholdout.filter _)).mpr fun id => ?_
    rw [List.mem_filter, decide_eq_true_eq]
    refine ⟨fun hid => ⟨?_, hid⟩, fun h => h.2⟩
    obtain ⟨trial, hmem, rfl⟩ := List.mem_map.mp hid
    exact hsub trial hmem
  have hmissing : (sortedSet (holdoutIds.filter (· ∉ ordered.map (·.holdoutEpisodeId)))).Perm
      (holdoutIds.filter (· ∉ ordered.map (·.holdoutEpisodeId))) :=
    sortedSet_perm (hholdout.filter _)
  rw [← List.map_append]
  refine (((hsplit.map _).trans hsupplied).append hmissing).trans ?_
  have hwhole := List.filter_append_perm
    (fun id => decide (id ∈ ordered.map (·.holdoutEpisodeId))) holdoutIds
  simpa only [decide_not] using hwhole

/-- A trial observed the outcome of its episode exactly when its status says so. -/
theorem VerifiedTrials.observed_iff (hcorpus : verifyCorpus p nfc corpus = true)
    (h : VerifiedTrials p corpus candidateId candidateFingerprint trials)
    {trial : OfflineTrialResult} (hmem : trial ∈ trials)
    {episode : DemonstrationEpisodeReference} (hepisode : episode ∈ corpus.holdoutEvaluation.episodes)
    (hid : trial.holdoutEpisodeId = episode.episodeId) :
    trial.observedOutcome = some episode.outcomeStatus ↔ trial.status = .outcomeMatch := by
  obtain ⟨reference, hreference, hsame, houtcome⟩ := exists_reference (h.bound trial hmem)
  have heq : reference = episode :=
    List.inj_on_of_nodup_map (nodup_holdout hcorpus) hreference hepisode (hsame.trans hid)
  rw [outcomeMatch_iff (h.verified trial hmem), ← houtcome, heq]

/-- There is a gap exactly when a holdout episode has no result. -/
theorem VerifiedTrials.gap_iff (h : VerifiedTrials p corpus candidateId candidateFingerprint trials) :
    (sortedSet ((corpus.holdoutEvaluation.episodes.map (·.episodeId)).filter
        (· ∉ trials.map (·.holdoutEpisodeId))) ≠ [] ∨
      (trials.filter (·.status = .incomplete)).map (·.holdoutEpisodeId) ≠ []) ↔
    ∃ episode ∈ corpus.holdoutEvaluation.episodes,
      ¬HasTrial trials episode.episodeId (· ≠ .incomplete) := by
  constructor
  · rintro (hmissing | hincomplete)
    · obtain ⟨id, hid⟩ := List.exists_mem_of_ne_nil _ hmissing
      rw [mem_sortedSet, List.mem_filter, decide_eq_true_eq, List.mem_map] at hid
      obtain ⟨⟨episode, hepisode, rfl⟩, hunsupplied⟩ := hid
      refine ⟨episode, hepisode, ?_⟩
      rintro ⟨trial, hmem, hid, -⟩
      exact hunsupplied (List.mem_map.mpr ⟨trial, hmem, hid⟩)
    · obtain ⟨id, hid⟩ := List.exists_mem_of_ne_nil _ hincomplete
      obtain ⟨trial, hmem, -, hstatus⟩ := (mem_map_filter (· = .incomplete)).mp hid
      obtain ⟨episode, hepisode, hepisodeId, -⟩ := exists_reference (h.bound trial hmem)
      refine ⟨episode, hepisode, ?_⟩
      rintro ⟨other, hother, hotherId, hne⟩
      have heq : other = trial :=
        List.inj_on_of_nodup_map h.episodes hother hmem (hotherId.trans hepisodeId)
      exact hne (heq ▸ hstatus)
  · rintro ⟨episode, hepisode, hnone⟩
    by_cases hsupplied : episode.episodeId ∈ trials.map (·.holdoutEpisodeId)
    · obtain ⟨trial, hmem, hid⟩ := List.mem_map.mp hsupplied
      have hstatus : trial.status = .incomplete := by
        by_contra hne
        exact hnone ⟨trial, hmem, hid, hne⟩
      have hlisted := (mem_map_filter (· = .incomplete)).mpr ⟨trial, hmem, hid, hstatus⟩
      exact Or.inr (List.ne_nil_of_mem hlisted)
    · refine Or.inl (List.ne_nil_of_mem (a := episode.episodeId) ?_)
      rw [mem_sortedSet, List.mem_filter, decide_eq_true_eq]
      exact ⟨List.mem_map.mpr ⟨episode, hepisode, rfl⟩, hsupplied⟩

/-- Every holdout episode is matched exactly when there is neither a gap nor a mismatch. -/
theorem VerifiedTrials.matched_iff (hcorpus : verifyCorpus p nfc corpus = true)
    (h : VerifiedTrials p corpus candidateId candidateFingerprint trials) :
    ((∀ episode ∈ corpus.holdoutEvaluation.episodes,
        HasTrial trials episode.episodeId (· ≠ .incomplete)) ∧
      ∀ trial ∈ trials, trial.status ≠ .outcomeMismatch) ↔
    ∀ episode ∈ corpus.holdoutEvaluation.episodes, ∃ trial ∈ trials,
      trial.holdoutEpisodeId = episode.episodeId ∧
        trial.observedOutcome = some episode.outcomeStatus := by
  constructor
  · rintro ⟨hcovered, hmismatch⟩ episode hepisode
    obtain ⟨trial, hmem, hid, hne⟩ := hcovered episode hepisode
    have hstatus : trial.status = .outcomeMatch := by
      cases hcase : trial.status with
      | outcomeMatch => rfl
      | outcomeMismatch => exact absurd hcase (hmismatch trial hmem)
      | incomplete => exact absurd hcase hne
    exact ⟨trial, hmem, hid, (h.observed_iff hcorpus hmem hepisode hid).mpr hstatus⟩
  · intro hmatched
    refine ⟨fun episode hepisode => ?_, fun trial hmem => ?_⟩
    · obtain ⟨trial, hmem, hid, hobserved⟩ := hmatched episode hepisode
      have hstatus := (h.observed_iff hcorpus hmem hepisode hid).mp hobserved
      exact ⟨trial, hmem, hid, by simp [hstatus]⟩
    · obtain ⟨episode, hepisode, hepisodeId, -⟩ := exists_reference (h.bound trial hmem)
      obtain ⟨other, hother, hotherId, hobserved⟩ := hmatched episode hepisode
      have heq : other = trial :=
        List.inj_on_of_nodup_map h.episodes hother hmem (hotherId.trans hepisodeId)
      have hstatus := (h.observed_iff hcorpus hmem hepisode hepisodeId.symm).mp (heq ▸ hobserved)
      simp [hstatus]

/-- A computed report is sound. -/
theorem reportSound_of_ok (hcorpus : verifyCorpus p nfc corpus = true)
    (h : reportFromEvidence p corpus candidateId candidateFingerprint trials = .ok report) :
    ReportSound corpus trials report := by
  simp only [reportFromEvidence, Checks.bind_ok] at h
  obtain ⟨ordered, hordered, statusCounts, hstatus, historicalCounts, hhistorical, aggregates,
    haggregates, hcreate⟩ := h
  obtain ⟨hverified, hsorted⟩ := verifiedOrderedTrials_ok.mp hordered
  have hperm : ordered.Perm trials := by
    rw [← hsorted]
    exact sortBy_perm _ _
  have hverifiedOrdered := hverified.perm hperm.symm
  have hmetrics : (metricsOf ordered).Perm (metricsOf trials) := hperm.flatMap_right _
  have hdistinct := nodup_holdout hcorpus
  have hfields := createReport_ok hcreate
  exact {
    evidence := by
      rw [hfields]
      exact ⟨rfl, hperm⟩
    evaluated := fun id => by
      rw [hfields]
      exact (mem_map_filter (· ≠ .incomplete)).trans (hasTrial_perm hperm)
    incomplete := fun id => by
      rw [hfields]
      exact (mem_map_filter (· = .incomplete)).trans (hasTrial_perm hperm)
    missing := fun id => by
      rw [hfields, ← hasTrial_perm hperm]
      simp only [reportFields, mem_sortedSet, List.mem_filter, decide_eq_true_eq, HasTrial,
        List.mem_map, and_true]
    partition := by
      rw [hfields]
      exact partition_holdout hdistinct hverifiedOrdered.episodes fun trial hmem =>
        hverifiedOrdered.mem_holdout hmem
    distinct := hdistinct
    statusCounts := by
      rw [hfields]
      refine Checks.map_of_mapM_ok hstatus _ fun status count hcount => ?_
      rw [evaluationCount_ok hcount, hperm.countP_eq]
    historicalCounts := by
      rw [hfields]
      exact Checks.map_of_mapM_ok hhistorical _ fun outcome count hcount =>
        evaluationCount_ok hcount
    metricIds := by
      rw [hfields]
      refine (metricIds_of_aggregates haggregates).trans (sortedSet_congr fun id => ?_)
      exact (hmetrics.map _).mem_iff
    metricSums := fun metric hmem => by
      rw [hfields] at hmem
      have hnamed := hmetrics.filter (·.metricId = metric.metricId)
      obtain ⟨hnumerator, hdenominator⟩ := sums_of_aggregates haggregates hmem
      exact ⟨hnumerator.trans (hnamed.map _).sum_nat,
        hdenominator.trans (hnamed.map _).sum_nat⟩
    coverage := by
      rw [hfields]
      refine ⟨rfl, ?_⟩
      exact (length_sortedSet_eq.mpr hdistinct).trans (List.length_map _)
    meets := by
      rw [hfields, ← hverified.matched_iff hcorpus]
      refine judge_meets.trans ?_
      have hgap := hverifiedOrdered.gap_iff
      simp only [← hasTrial_perm hperm, ← hperm.mem_iff]
      rw [← and_assoc]
      refine and_congr_left fun _ => ?_
      constructor
      · rintro ⟨hmissing, hincomplete⟩ episode hepisode
        by_contra hnone
        exact (hgap.mpr ⟨episode, hepisode, hnone⟩).elim (fun h => h hmissing) fun h =>
          h hincomplete
      · intro hcovered
        by_contra hsome
        rw [not_and_or] at hsome
        obtain ⟨episode, hepisode, hnone⟩ := hgap.mp hsome
        exact hnone (hcovered episode hepisode)
    unfinished := by
      rw [hfields]
      refine judge_incomplete.trans ?_
      simp only [← hasTrial_perm hperm]
      exact hverifiedOrdered.gap_iff }

/-- A report is accepted exactly when it is computed from its own corpus and trials. -/
theorem verifyEvaluationReport_iff : verifyEvaluationReport p nfc report = true ↔
    verifyCorpus p nfc report.corpus = true ∧
      reportFromEvidence p report.corpus report.candidateId report.candidateFingerprint
        report.trialEvidence = .ok report := by
  rw [verifyEvaluationReport, Bool.and_eq_true, decide_eq_true_eq]

/-- What an evaluation that returns has checked. -/
theorem evaluateOffline_ok {candidate : CandidatePolicyManifest} :
    evaluateOffline p nfc corpus candidate trials = .ok report ↔
      verifyCorpus p nfc corpus = true ∧ verifyCandidatePolicy p nfc candidate = true ∧
      (candidate.candidateEvidenceSetId = corpus.candidateEvidence.evidenceSetId ∧
        candidate.candidateEvidenceSetFingerprint =
          corpus.candidateEvidence.evidenceSetFingerprint) ∧
      reportFromEvidence p corpus candidate.candidateId candidate.candidateFingerprint trials =
        .ok report ∧ verifyEvaluationReport p nfc report = true := by
  simp only [evaluateOffline, Checks.require_bind_ok]
  refine and_congr_right fun _ => and_congr_right fun _ => and_congr_right fun _ => ?_
  rw [Checks.bind_ok]
  constructor
  · rintro ⟨built, hbuilt, hrest⟩
    simp only [Checks.require_bind_ok, Checks.pure_ok] at hrest
    obtain ⟨hverify, rfl⟩ := hrest
    exact ⟨hbuilt, hverify⟩
  · rintro ⟨hbuilt, hverify⟩
    exact ⟨report, hbuilt, by simp only [Checks.require_bind_ok, Checks.pure_ok, hverify,
      and_self]⟩

end Reports

end Learning
end AyyoHumanoid
