import AyyoHumanoid.ArtifactText
import AyyoHumanoid.PyCollections

/-!
# Corpora and candidate manifests

Demonstration episodes enter an evaluation corpus as references in two disjoint
partitions. A candidate manifest names the evidence set it was made from. Both
artifacts are verified by building them again from their own fields.
-/

namespace AyyoHumanoid
namespace Learning

open PyText JsonText PyCollections Artifacts

/-- The exception classes of the learning evaluation package. -/
inductive LearningErrorKind where
  | corpusConstruction | candidatePolicyIntegrity | candidateLineage | holdoutPartition
  | evaluationTrial | evaluationReportIntegrity
  deriving DecidableEq, Repr

/-- An exception with its message. -/
structure LearningError where
  /-- The exception class. -/
  kind : LearningErrorKind
  /-- The message text. -/
  message : PyStr
  deriving DecidableEq

/-- `CorpusConstructionError(message)`. -/
def corpusError (message : PyStr) : LearningError := ⟨.corpusConstruction, message⟩

/-- `CandidatePolicyIntegrityError(message)`. -/
def candidateError (message : PyStr) : LearningError := ⟨.candidatePolicyIntegrity, message⟩

/-- `MAX_EPISODES_PER_CORPUS`. -/
def maxEpisodesPerCorpus : Nat := 32

/-- `MAX_EPISODES_PER_PARTITION`. -/
def maxEpisodesPerPartition : Nat := 16

/-- `MAX_SERIALIZED_CORPUS_BYTES`. -/
def maxSerializedCorpusBytes : Nat := 65536

/-- `MAX_SERIALIZED_CANDIDATE_BYTES`. -/
def maxSerializedCandidateBytes : Nat := 16384

section Enumerations

/-- `CorpusPartition`. -/
inductive CorpusPartition where
  | candidateEvidence | holdoutEvaluation
  deriving DecidableEq, Repr

/-- The text of a partition. -/
def CorpusPartition.value : CorpusPartition → PyStr
  | .candidateEvidence => py "candidate_evidence"
  | .holdoutEvaluation => py "holdout_evaluation"

/-- `DemonstrationSourceKind`. -/
inductive DemonstrationSourceKind where
  | developmentScenario | testFixture | recordedSourceReference
  deriving DecidableEq, Repr

/-- The text of a source kind. -/
def DemonstrationSourceKind.value : DemonstrationSourceKind → PyStr
  | .developmentScenario => py "development_scenario"
  | .testFixture => py "test_fixture"
  | .recordedSourceReference => py "recorded_source_reference"

/-- `DemonstrationOutcomeStatus`. -/
inductive DemonstrationOutcomeStatus where
  | success | failure | deferred | rejected | incomplete | unknown
  deriving DecidableEq, Repr

/-- The text of an outcome. -/
def DemonstrationOutcomeStatus.value : DemonstrationOutcomeStatus → PyStr
  | .success => py "success"
  | .failure => py "failure"
  | .deferred => py "deferred"
  | .rejected => py "rejected"
  | .incomplete => py "incomplete"
  | .unknown => py "unknown"

/-- The outcomes in the order of their class. -/
def DemonstrationOutcomeStatus.members : List DemonstrationOutcomeStatus :=
  [.success, .failure, .deferred, .rejected, .incomplete, .unknown]

end Enumerations

section References

/-- `CAPTURE_POLICY_ID`. -/
def capturePolicyId : PyStr := py "ayyo.teach-mode.explicit-capture-policy.v1"

/-- `CAPTURE_POLICY_VERSION`. -/
def capturePolicyVersion : PyStr := py "1.0.0"

/-- `DemonstrationEpisodeReference`; its policy identity and version are the two constants. -/
structure DemonstrationEpisodeReference where
  episodeId : PyStr
  episodeFingerprint : PyStr
  partition : CorpusPartition
  robotId : Option PyStr
  sourceKind : DemonstrationSourceKind
  outcomeStatus : DemonstrationOutcomeStatus
  capturePolicyFingerprint : PyStr
  /-- The episode is named by an identifier. -/
  episode : IsIdentifier episodeId
  /-- The episode has a digest. -/
  fingerprint : IsFingerprint episodeFingerprint
  /-- A robot is named by an identifier. -/
  robot : ∀ id ∈ robotId, IsIdentifier id
  /-- The capture policy has a digest. -/
  capturePolicy : IsFingerprint capturePolicyFingerprint
  deriving DecidableEq

/-- `DemonstrationEpisodeReference.as_dict`. -/
def DemonstrationEpisodeReference.asDict (reference : DemonstrationEpisodeReference) : Json :=
  .obj [
    (py "capture_policy", .obj [
      (py "fingerprint", .str reference.capturePolicyFingerprint),
      (py "id", .str capturePolicyId), (py "version", .str capturePolicyVersion)]),
    (py "episode_fingerprint", .str reference.episodeFingerprint),
    (py "episode_id", .str reference.episodeId),
    (py "outcome_status", .str reference.outcomeStatus.value),
    (py "partition", .str reference.partition.value),
    (py "robot_id", optionalText reference.robotId),
    (py "source_kind", .str reference.sourceKind.value)]

end References

section EvidenceSets

/-- `EVIDENCE_SET_SCHEMA_ID`. -/
def evidenceSetSchemaId : PyStr :=
  py "ayyo.learning-evaluation.demonstration-evidence-set.v1"

/-- `EVIDENCE_SET_SCHEMA_VERSION`, and the version of the other schemas. -/
def schemaVersion : PyStr := py "1.0.0"

/-- `DemonstrationEvidenceSet`, as stored. -/
structure DemonstrationEvidenceSet where
  schemaId : PyStr
  schemaVersion : PyStr
  partition : CorpusPartition
  evidenceSetId : PyStr
  evidenceSetFingerprint : PyStr
  episodes : List DemonstrationEpisodeReference
  deriving DecidableEq

/-- `DemonstrationEvidenceSet.semantic_document`. -/
def evidenceSetDocument (partition : CorpusPartition)
    (episodes : List DemonstrationEpisodeReference) : List (PyStr × Json) :=
  [(py "episodes", .arr (episodes.map (·.asDict))), (py "partition", .str partition.value),
    (py "schema", schemaDocument evidenceSetSchemaId schemaVersion)]

variable (p : Platform)

/-- `DemonstrationEvidenceSet.recompute_fingerprint`. -/
def evidenceSetFingerprint (partition : CorpusPartition)
    (episodes : List DemonstrationEpisodeReference) : PyStr :=
  semanticSha256 p (py "demonstration-evidence-set-content")
    (.obj (evidenceSetDocument partition episodes))

/-- The identity of contents with a digest, `{name: fingerprint, "schema_id": .., ..}`. -/
def contentIdentity (tag name fingerprint schemaId : PyStr) : PyStr :=
  semanticSha256 p tag (.obj [(name, .str fingerprint), (py "schema_id", .str schemaId),
    (py "schema_version", .str schemaVersion)])

/-- The evidence set of episodes in order. -/
def evidenceSetOf (partition : CorpusPartition) (episodes : List DemonstrationEpisodeReference) :
    DemonstrationEvidenceSet where
  schemaId := evidenceSetSchemaId
  schemaVersion := schemaVersion
  partition := partition
  evidenceSetId := contentIdentity p (py "demonstration-evidence-set")
    (py "evidence_set_fingerprint") (evidenceSetFingerprint p partition episodes)
    evidenceSetSchemaId
  evidenceSetFingerprint := evidenceSetFingerprint p partition episodes
  episodes := episodes

/-- `DemonstrationEvidenceSet(partition, episodes)`. -/
def makeEvidenceSet (partition : CorpusPartition)
    (episodes : List DemonstrationEpisodeReference) :
    Except LearningError DemonstrationEvidenceSet := do
  require (1 ≤ episodes.length ∧ episodes.length ≤ maxEpisodesPerPartition)
    (corpusError (py "evidence-set episode count violates v1 bounds"))
  require (∀ episode ∈ episodes, episode.partition = partition)
    (corpusError (py "evidence-set reference partition mismatch"))
  let ordered ← orderedUnique (·.episodeId) episodes
    (corpusError (py "duplicate episode identity in partition"))
  pure (evidenceSetOf p partition ordered)

/-- `DemonstrationEvidenceSet.as_dict`. -/
def DemonstrationEvidenceSet.asDict (set : DemonstrationEvidenceSet) : Json :=
  .obj (evidenceSetDocument set.partition set.episodes ++
    [(py "evidence_set_fingerprint", .str set.evidenceSetFingerprint),
      (py "evidence_set_id", .str set.evidenceSetId)])

end EvidenceSets

section Corpora

/-- `CORPUS_SCHEMA_ID`. -/
def corpusSchemaId : PyStr := py "ayyo.learning-evaluation.demonstration-corpus.v1"

/-- `DemonstrationEvaluationCorpus`, as stored. -/
structure DemonstrationEvaluationCorpus where
  schemaId : PyStr
  schemaVersion : PyStr
  corpusId : PyStr
  corpusFingerprint : PyStr
  description : PyStr
  robotIds : List PyStr
  sourceKinds : List DemonstrationSourceKind
  candidateEvidence : DemonstrationEvidenceSet
  holdoutEvaluation : DemonstrationEvidenceSet
  deriving DecidableEq

/-- `DemonstrationEvaluationCorpus.semantic_document`. -/
def DemonstrationEvaluationCorpus.semanticDocument (corpus : DemonstrationEvaluationCorpus) :
    List (PyStr × Json) :=
  [(py "candidate_evidence", corpus.candidateEvidence.asDict),
    (py "compatibility", .obj [(py "robot_ids", .arr (corpus.robotIds.map .str)),
      (py "source_kinds", .arr (corpus.sourceKinds.map fun kind => .str kind.value))]),
    (py "description", .str corpus.description),
    (py "holdout_evaluation", corpus.holdoutEvaluation.asDict),
    (py "schema", schemaDocument corpus.schemaId corpus.schemaVersion)]

/-- `DemonstrationEvaluationCorpus.as_dict`. -/
def DemonstrationEvaluationCorpus.asDict (corpus : DemonstrationEvaluationCorpus) : Json :=
  .obj (corpus.semanticDocument ++
    [(py "corpus_fingerprint", .str corpus.corpusFingerprint),
      (py "corpus_id", .str corpus.corpusId)])

/-- `_description` and `_text`: the normalized text. -/
def descriptionText (nfc : Nfc) (value : PyStr) (error : LearningError) :
    Except LearningError PyStr := do
  require (IsNote (nfc.normalize value)) error
  pure (nfc.normalize value)

variable (p : Platform) (nfc : Nfc)

/-- The corpus with its digest and identity computed from its contents. -/
def DemonstrationEvaluationCorpus.identified (corpus : DemonstrationEvaluationCorpus) :
    DemonstrationEvaluationCorpus :=
  let fingerprint := semanticSha256 p (py "demonstration-evaluation-corpus-content")
    (.obj corpus.semanticDocument)
  { corpus with
    corpusFingerprint := fingerprint
    corpusId := contentIdentity p (py "demonstration-evaluation-corpus")
      (py "corpus_fingerprint") fingerprint corpusSchemaId }

/-- `DemonstrationEvaluationCorpus._from_references`. -/
def corpusFromReferences (candidateReferences holdoutReferences :
    List DemonstrationEpisodeReference) (description : PyStr) :
    Except LearningError DemonstrationEvaluationCorpus := do
  require (candidateReferences.length + holdoutReferences.length ≤ maxEpisodesPerCorpus)
    (corpusError (py "corpus exceeds its total episode bound"))
  let candidateSet ← makeEvidenceSet p .candidateEvidence candidateReferences
  let holdoutSet ← makeEvidenceSet p .holdoutEvaluation holdoutReferences
  require (∀ id ∈ candidateSet.episodes.map (·.episodeId),
      id ∉ holdoutSet.episodes.map (·.episodeId))
    (corpusError (py "an episode cannot occur in both partitions"))
  let references := candidateSet.episodes ++ holdoutSet.episodes
  let normalized ← descriptionText nfc description
    (corpusError (py "corpus description violates the v1 text bound"))
  let corpus := DemonstrationEvaluationCorpus.identified p {
    schemaId := corpusSchemaId
    schemaVersion := schemaVersion
    corpusId := []
    corpusFingerprint := []
    description := normalized
    robotIds := sortedSet ((references.filterMap (·.robotId)).filter (· ≠ []))
    sourceKinds := sortBy DemonstrationSourceKind.value (references.map (·.sourceKind)).dedup
    candidateEvidence := candidateSet
    holdoutEvaluation := holdoutSet }
  require (documentSize corpus.asDict ≤ maxSerializedCorpusBytes)
    (corpusError (py "serialized corpus exceeds its v1 bound"))
  pure corpus

/-- `verify_corpus`. -/
def verifyCorpus (corpus : DemonstrationEvaluationCorpus) : Bool :=
  corpusFromReferences p nfc corpus.candidateEvidence.episodes
    corpus.holdoutEvaluation.episodes corpus.description = .ok corpus

end Corpora

section Candidates

/-- `CANDIDATE_POLICY_SCHEMA_ID`. -/
def candidatePolicySchemaId : PyStr := py "ayyo.learning-evaluation.candidate-policy.v1"

/-- `InertArtifactReference`. -/
structure InertArtifactReference where
  artifactId : PyStr
  artifactKind : PyStr
  contentFingerprint : PyStr
  /-- The artifact is named by an identifier. -/
  artifact : IsIdentifier artifactId
  /-- Its kind is named by an identifier. -/
  kind : IsIdentifier artifactKind
  /-- Its contents have a digest. -/
  content : IsFingerprint contentFingerprint
  deriving DecidableEq

/-- `InertArtifactReference.as_dict`. -/
def InertArtifactReference.asDict (reference : InertArtifactReference) : Json :=
  .obj [(py "artifact_id", .str reference.artifactId),
    (py "artifact_kind", .str reference.artifactKind),
    (py "content_fingerprint", .str reference.contentFingerprint)]

/-- The fields that `CandidatePolicyManifest._from_fields` takes. -/
structure CandidateFields where
  semanticVersion : PyStr
  policyFamilyId : PyStr
  candidateEvidenceSetId : PyStr
  candidateEvidenceSetFingerprint : PyStr
  inputContractId : PyStr
  inputContractVersion : PyStr
  outputContractId : PyStr
  outputContractVersion : PyStr
  description : PyStr
  parentCandidateId : Option PyStr
  parentCandidateFingerprint : Option PyStr
  artifact : Option InertArtifactReference
  deriving DecidableEq

/-- `CandidatePolicyManifest`, as stored. -/
structure CandidatePolicyManifest extends CandidateFields where
  schemaId : PyStr
  schemaVersion : PyStr
  candidateId : PyStr
  candidateFingerprint : PyStr
  provenanceRef : PyStr
  provenanceFingerprint : PyStr
  deriving DecidableEq

/-- The document of a parent that may be absent. -/
def parentDocument (id fingerprint : Option PyStr) : Json :=
  match id with
  | none => .null
  | some id => .obj [(py "fingerprint", optionalText fingerprint), (py "id", .str id)]

/-- `CandidatePolicyManifest.semantic_document`. -/
def CandidatePolicyManifest.semanticDocument (candidate : CandidatePolicyManifest) :
    List (PyStr × Json) :=
  [(py "artifact", candidate.artifact.elim .null (·.asDict)),
    (py "candidate_evidence", identityDocument candidate.candidateEvidenceSetId
      candidate.candidateEvidenceSetFingerprint),
    (py "contracts", .obj [
      (py "input", schemaDocument candidate.inputContractId candidate.inputContractVersion),
      (py "output", schemaDocument candidate.outputContractId
        candidate.outputContractVersion)]),
    (py "description", .str candidate.description),
    (py "parent_candidate", parentDocument candidate.parentCandidateId
      candidate.parentCandidateFingerprint),
    (py "policy_family_id", .str candidate.policyFamilyId),
    (py "provenance", .obj [(py "fingerprint", .str candidate.provenanceFingerprint),
      (py "source_ref", .str candidate.provenanceRef)]),
    (py "schema", schemaDocument candidate.schemaId candidate.schemaVersion),
    (py "semantic_version", .str candidate.semanticVersion)]

/-- `CandidatePolicyManifest.as_dict`. -/
def CandidatePolicyManifest.asDict (candidate : CandidatePolicyManifest) : Json :=
  .obj (candidate.semanticDocument ++
    [(py "candidate_fingerprint", .str candidate.candidateFingerprint),
      (py "candidate_id", .str candidate.candidateId)])

variable (p : Platform) (nfc : Nfc)

/-- The manifest with its digest and identity computed from its contents. -/
def CandidatePolicyManifest.identified (candidate : CandidatePolicyManifest) :
    CandidatePolicyManifest :=
  let fingerprint := semanticSha256 p (py "candidate-policy-content")
    (.obj candidate.semanticDocument)
  { candidate with
    candidateFingerprint := fingerprint
    candidateId := contentIdentity p (py "candidate-policy") (py "candidate_fingerprint")
      fingerprint candidatePolicySchemaId }

/-- The two checks of a named parent. -/
def checkParent (id fingerprint : Option PyStr) : Except LearningError Unit :=
  match id, fingerprint with
  | none, none => .ok ()
  | some id, some fingerprintText => do
    identifier candidateError id (py "parent_candidate_id")
    Artifacts.fingerprint candidateError fingerprintText (py "parent_candidate_fingerprint")
  | _, _ => .error (candidateError
      (py "parent candidate ID and fingerprint must be supplied together"))

/-- The checks of `CandidatePolicyManifest._initialize` before the description. -/
def CandidateFields.check (fields : CandidateFields) : Except LearningError Unit := do
  Artifacts.semanticVersion candidateError fields.semanticVersion (py "candidate semantic_version")
  identifier candidateError fields.policyFamilyId (py "policy_family_id")
  identifier candidateError fields.candidateEvidenceSetId (py "candidate_evidence_set_id")
  fingerprint candidateError fields.candidateEvidenceSetFingerprint
    (py "candidate_evidence_set_fingerprint")
  identifier candidateError fields.inputContractId (py "input_contract_id")
  Artifacts.semanticVersion candidateError fields.inputContractVersion (py "input_contract_version")
  identifier candidateError fields.outputContractId (py "output_contract_id")
  Artifacts.semanticVersion candidateError fields.outputContractVersion (py "output_contract_version")
  checkParent fields.parentCandidateId fields.parentCandidateFingerprint

/-- The manifest of checked fields with a normalized description. -/
def manifestOf (fields : CandidateFields) (description : PyStr) : CandidatePolicyManifest :=
  CandidatePolicyManifest.identified p {
    toCandidateFields := { fields with description := description }
    schemaId := candidatePolicySchemaId
    schemaVersion := schemaVersion
    candidateId := []
    candidateFingerprint := []
    provenanceRef := fields.candidateEvidenceSetId
    provenanceFingerprint := fields.candidateEvidenceSetFingerprint }

/-- `CandidatePolicyManifest._from_fields`. -/
def candidateFromFields (fields : CandidateFields) :
    Except LearningError CandidatePolicyManifest := do
  fields.check
  let description ← descriptionText nfc fields.description
    (candidateError (py "candidate description violates the v1 text bound"))
  let candidate := manifestOf p fields description
  require (documentSize candidate.asDict ≤ maxSerializedCandidateBytes)
    (candidateError (py "serialized candidate exceeds its v1 bound"))
  pure candidate

/-- `verify_candidate_policy`. -/
def verifyCandidatePolicy (candidate : CandidatePolicyManifest) : Bool :=
  candidateFromFields p nfc candidate.toCandidateFields = .ok candidate

end Candidates

end Learning
end AyyoHumanoid
