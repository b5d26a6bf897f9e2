import AyyoHumanoid.ScenarioReferences

/-!
# Events of a verified report

The events that the adapter builds for each scenario, and what keeps it from
building them: too many references in one event, or one identity observed twice.
-/

namespace AyyoHumanoid
namespace Teach

open PyText JsonText Artifacts Scenario

section Errors

/-- A `DemonstrationValidationError`. -/
def IsValidation (raised : TeachRaised) : Prop := ∃ message, raised = validationError message

/-- A validation error is one. -/
theorem isValidation (message : PyStr) : IsValidation (validationError message) := ⟨message, rfl⟩

/-- `_identifier` raises validation errors only. -/
theorem raises_identifier (value : Json) (fieldName : PyStr) :
    RaisesOnly IsValidation (identifier value fieldName) := by
  cases value with
  | str text =>
    rw [identifier]
    refine RaisesOnly.then_ (RaisesOnly.check (isValidation _)) fun _ => ?_
    refine RaisesOnly.then_ (RaisesOnly.ensured (isValidation _)) fun _ => ?_
    exact RaisesOnly.of_ok rfl
  | _ => exact RaisesOnly.of_error (isValidation _)

/-- `_optional_identifier` raises validation errors only. -/
theorem raises_optionalIdentifier (value : Json) (fieldName : PyStr) :
    RaisesOnly IsValidation (optionalIdentifier value fieldName) := by
  cases value with
  | null => exact RaisesOnly.of_ok rfl
  | str text => exact RaisesOnly.map (raises_identifier _ _)
  | bool value => exact RaisesOnly.map (raises_identifier _ _)
  | int value => exact RaisesOnly.map (raises_identifier _ _)
  | float value => exact RaisesOnly.map (raises_identifier _ _)
  | arr items => exact RaisesOnly.map (raises_identifier _ _)
  | obj entries => exact RaisesOnly.map (raises_identifier _ _)

/-- A teacher is not named, or named by an identifier. -/
def TeacherNamed (teacherSourceRef : Json) : Prop :=
  teacherSourceRef = .null ∨ ∃ text, teacherSourceRef = .str text ∧ World.IsCanonical 256 text

/-- `_identifier` returns names only. -/
theorem canonical_of_identifier {value : Json} {fieldName : PyStr} {name : World.Name}
    (h : identifier value fieldName = .ok name) : value = .str name.text := by
  cases value with
  | str text =>
    simp only [identifier, Checks.require_bind_ok, Checks.ensure_bind_ok] at h
    obtain ⟨-, hcanonical, hname⟩ := h
    cases hname
    rfl
  | _ => cases h

/-- A teacher that is not named by an identifier is refused. -/
theorem teacher_ok {teacherSourceRef : Json} {fieldName : PyStr} :
    (∃ name, optionalIdentifier teacherSourceRef fieldName = .ok name) ↔
      TeacherNamed teacherSourceRef := by
  constructor
  · intro h
    obtain ⟨name, hrun⟩ := h
    cases teacherSourceRef with
    | null => exact Or.inl rfl
    | str text =>
      rw [optionalIdentifier, Checks.map_ok] at hrun
      · obtain ⟨found, hfound, -⟩ := hrun
        have htext := canonical_of_identifier hfound
        refine Or.inr ⟨text, rfl, ?_⟩
        cases htext
        exact found.canonical
      · exact fun h => Json.noConfusion h
    | bool value => cases hrun
    | int value => cases hrun
    | float value => cases hrun
    | arr items => cases hrun
    | obj entries => cases hrun
  · intro h
    cases h with
    | inl hnull => exact ⟨none, by rw [hnull]; rfl⟩
    | inr hnamed =>
      obtain ⟨text, htext, hcanonical⟩ := hnamed
      rw [htext]
      exact ⟨_, optionalIdentifier_of_canonical hcanonical fieldName⟩

end Errors

section Distinct

/-- References named apart by their texts are named apart. -/
theorem nodup_keys {references : List DemonstrationObservationReference} :
    (references.map fun item => (item.kind, item.referenceId)).Nodup ↔
      (references.map fun item => (item.kind, item.referenceId.text)).Nodup := by
  have hmap : (references.map fun item => (item.kind, item.referenceId.text)) =
      (references.map fun item => (item.kind, item.referenceId)).map
        fun key => (key.1, key.2.text) := by
    rw [List.map_map]
    rfl
  have hinjective : Function.Injective
      fun key : ObservationReferenceKind × World.Name => (key.1, key.2.text) := by
    intro a b hab
    obtain ⟨kind, text, hcanonical⟩ := a
    obtain ⟨otherKind, otherText, hother⟩ := b
    simp only [Prod.mk.injEq] at hab
    obtain ⟨rfl, rfl⟩ := hab
    rfl
  rw [hmap, List.nodup_map_iff hinjective]

/-- The identities beside the robot's are distinct. -/
def DistinctIdentities (report : DevelopmentScenarioReport) : Prop :=
  ((report.observedIdentities.filter (·.kind.text ≠ py "robot")).map (·.value.text)).Nodup

instance (report : DevelopmentScenarioReport) : Decidable (DistinctIdentities report) :=
  inferInstanceAs (Decidable (List.Nodup _))

/-- The references to identities of which one at most is the robot's are named apart exactly when
the others are distinct. -/
theorem nodup_identities {items : List ScenarioObservedIdentity}
    (hrobot : (items.filter (·.kind.text = py "robot")).length ≤ 1) :
    (items.map fun item => (identityKind item, item.value.text)).Nodup ↔
      ((items.filter (·.kind.text ≠ py "robot")).map (·.value.text)).Nodup := by
  induction items with
  | nil => exact ⟨fun _ => List.nodup_nil, fun _ => List.nodup_nil⟩
  | cons item items ih =>
    by_cases hitem : item.kind.text = py "robot"
    · have hkind : identityKind item = .robotBodyState := by rw [identityKind, if_pos hitem]
      rw [List.filter_cons_of_pos (by rw [decide_eq_true_eq]; exact hitem),
        List.length_cons] at hrobot
      have hnone : items.filter (·.kind.text = py "robot") = [] :=
        List.length_eq_zero_iff.mp (by omega)
      have hothers := ih (by rw [hnone]; exact Nat.zero_le 1)
      have hfresh : (identityKind item, item.value.text) ∉
          items.map fun other => (identityKind other, other.value.text) := by
        intro hmem
        obtain ⟨other, hother, hkey⟩ := List.mem_map.mp hmem
        have hplain := List.filter_eq_nil_iff.mp hnone other hother
        rw [decide_eq_true_eq] at hplain
        have hpublic : identityKind other = .publicEvidence := by rw [identityKind, if_neg hplain]
        rw [hkind, hpublic] at hkey
        cases hkey
      have hskip : (item :: items).filter (·.kind.text ≠ py "robot") =
          items.filter (·.kind.text ≠ py "robot") := by
        rw [List.filter_cons_of_neg]
        rw [decide_eq_true_eq]
        exact not_not.mpr hitem
      rw [List.map_cons, List.nodup_cons, hskip, ← hothers]
      exact ⟨fun h => h.2, fun h => ⟨hfresh, h⟩⟩
    · have hkind : identityKind item = .publicEvidence := by rw [identityKind, if_neg hitem]
      rw [List.filter_cons_of_neg (by rw [decide_eq_true_eq]; exact hitem)] at hrobot
      have hothers := ih hrobot
      have hkeep : (item :: items).filter (·.kind.text ≠ py "robot") =
          item :: items.filter (·.kind.text ≠ py "robot") := by
        rw [List.filter_cons_of_pos]
        rw [decide_eq_true_eq]
        exact hitem
      have hfresh : (identityKind item, item.value.text) ∈
          (items.map fun other => (identityKind other, other.value.text)) ↔
          item.value.text ∈ (items.filter (·.kind.text ≠ py "robot")).map (·.value.text) := by
        rw [hkind]
        constructor
        · intro hmem
          obtain ⟨other, hother, hkey⟩ := List.mem_map.mp hmem
          have hplain : other.kind.text ≠ py "robot" := by
            intro hrobotic
            rw [identityKind, if_pos hrobotic] at hkey
            cases hkey
          have hvalue : other.value.text = item.value.text := congrArg Prod.snd hkey
          refine List.mem_map.mpr ⟨other, List.mem_filter.mpr ⟨hother, ?_⟩, hvalue⟩
          rw [decide_eq_true_eq]
          exact hplain
        · intro hmem
          obtain ⟨other, hother, hvalue⟩ := List.mem_map.mp hmem
          have hplain := (List.mem_filter.mp hother).2
          rw [decide_eq_true_eq] at hplain
          refine List.mem_map.mpr ⟨other, (List.mem_filter.mp hother).1, ?_⟩
          rw [identityKind, if_neg hplain, hvalue]
      rw [hkeep, List.map_cons, List.nodup_cons, List.map_cons, List.nodup_cons, hfresh, hothers]

variable {p : Platform} {report : DevelopmentScenarioReport}
  {definition : DevelopmentScenarioDefinition}

/-- The references to the identities of a verified report. -/
theorem Verified.identityReferences (h : Verified p definition report) :
    ∃ references, Teach.identityReferences report = .ok references ∧
      references.length = report.observedIdentities.length ∧
      (∀ reference ∈ references, ShortReference reference) ∧
      (∀ reference ∈ references,
        reference.kind = .robotBodyState ∨ reference.kind = .publicEvidence) ∧
      ((references.map fun item => (item.kind, item.referenceId.text)).Nodup ↔
        DistinctIdentities report) := by
  obtain ⟨references, hrun, hkeys, hshort⟩ := @references_of_items _
    report.observedIdentities _ _ identityReference
  have hlength : references.length = report.observedIdentities.length := by
    have hcount := congrArg List.length hkeys
    rwa [List.length_map, List.length_map] at hcount
  have hrobot : (report.observedIdentities.filter (·.kind.text = py "robot")).length ≤ 1 := by
    have hcount := congrArg List.length h.robot
    rw [List.length_map, List.length_singleton] at hcount
    omega
  refine ⟨references, hrun, hlength, hshort, ?_, ?_⟩
  · intro reference hreference
    have hmem : (reference.kind, reference.referenceId.text) ∈
        references.map fun item => (item.kind, item.referenceId.text) :=
      List.mem_map.mpr ⟨reference, hreference, rfl⟩
    rw [hkeys] at hmem
    obtain ⟨item, -, hkey⟩ := List.mem_map.mp hmem
    have hkind : reference.kind = identityKind item := (congrArg Prod.fst hkey).symm
    rw [hkind, identityKind]
    by_cases hrobotic : item.kind.text = py "robot"
    · rw [if_pos hrobotic]
      exact Or.inl rfl
    · rw [if_neg hrobotic]
      exact Or.inr rfl
  · rw [hkeys]
    exact nodup_identities hrobot

/-- The references to the sources of a verified report. -/
theorem Verified.sourceReferences (h : Verified p definition report) :
    ∃ references, Teach.sourceReferences report = .ok references ∧
      references.length = report.sources.length ∧
      (∀ reference ∈ references, ShortReference reference) ∧
      (∀ reference ∈ references, reference.kind = .sensorEvidence) ∧
      (references.map fun item => (item.kind, item.referenceId.text)).Nodup := by
  obtain ⟨references, hrun, hkeys, hshort⟩ := @references_of_items _ report.sources
    _ _ sourceReference
  have hlength : references.length = report.sources.length := by
    have hcount := congrArg List.length hkeys
    rwa [List.length_map, List.length_map] at hcount
  have hchecked := h.checked
  simp only [checkReport, uniqueTyped, Checks.unit_bind_ok, Checks.require_ok] at hchecked
  have hdistinct : (report.sources.map (·.sourceId)).Nodup := by
    obtain ⟨-, -, -, -, -, -, -, -, -, -, hsources⟩ := hchecked
    exact hsources.2
  refine ⟨references, hrun, hlength, hshort, ?_, ?_⟩
  · intro reference hreference
    have hmem : (reference.kind, reference.referenceId.text) ∈
        references.map fun item => (item.kind, item.referenceId.text) :=
      List.mem_map.mpr ⟨reference, hreference, rfl⟩
    rw [hkeys] at hmem
    obtain ⟨item, -, hkey⟩ := List.mem_map.mp hmem
    exact (congrArg Prod.fst hkey).symm
  · have hinjective : Function.Injective fun name : ScenarioName =>
        (ObservationReferenceKind.sensorEvidence, name.text) := by
      intro a b hab
      obtain ⟨text, hcanonical⟩ := a
      obtain ⟨otherText, hother⟩ := b
      cases congrArg Prod.snd hab
      rfl
    have hmapped := hdistinct.map hinjective
    rw [List.map_map] at hmapped
    rw [hkeys]
    exact hmapped

end Distinct

section Building

variable {nfc : Nfc}

/-- The parts that an event was built of. -/
structure EventOf (index : Nat) (eventId : String)
    (observations : List DemonstrationObservationReference)
    (actions : List DemonstrationActionReference)
    (annotations : List ( DemonstrationAnnotation nfc)) (event : DemonstrationEvent nfc) : Prop where
  /-- The identity. -/
  named : event.eventId.text = py eventId
  indexed : event.sequenceIndex = index
  /-- No time is given. -/
  untimed : event.sourceTimeNs = none
  observed : event.observationReferences = observations
  acted : event.actionReferences = actions
  annotated : event.annotations = annotations

variable {index : Nat} {eventId : String} {eventType : DemonstrationEventType}
  {observations : List DemonstrationObservationReference}
  {actions : List DemonstrationActionReference}
  {annotations : List ( DemonstrationAnnotation nfc)}

/-- An event with few references that are named apart is built. -/
theorem scenarioEvent_ok (hid : World.IsCanonical 256 (py eventId)) (hindex : index < 64)
    (hfew : observations.length + actions.length ≤ 16)
    (hobserved : (observations.map fun item => (item.kind, item.referenceId.text)).Nodup)
    (hacted : (actions.map fun item => item.actionId.text).Nodup)
    (hannotated : annotations.length ≤ 8)
    (hevident : observations ≠ [] ∨ actions ≠ [] ∨ annotations ≠ []) :
    ∃ event, scenarioEvent nfc index eventId eventType observations actions annotations =
        .ok event ∧ EventOf index eventId observations actions annotations event := by
  have hbounded : (0 : Int) ≤ (index : Int) ∧ (index : Int) < (maxEventsPerEpisode : Nat) := by
    rw [maxEventsPerEpisode]
    omega
  have hkeys := nodup_keys.mpr hobserved
  have hactions : (actions.map fun item => item.actionId).Nodup := by
    have htexts : (actions.map fun item => item.actionId.text) =
        (actions.map fun item => item.actionId).map (·.text) := by
      rw [List.map_map]
      rfl
    rw [htexts] at hacted
    exact hacted.of_map
  have hreferences : observations.length ≤ maxReferencesPerEvent ∧
      actions.length ≤ maxReferencesPerEvent := by
    rw [maxReferencesPerEvent]
    omega
  have hindexRun : sequenceIndexOf (.int (index : Int)) =
      .ok ⟨((index : Int)).toNat, by rw [maxEventsPerEpisode]; omega⟩ := by
    rw [sequenceIndexOf]
    simp only [Checks.ensure_bind_ok]
    exact ⟨hbounded, rfl⟩
  have htimeRun : sourceTimeOf .null = .ok ⟨none, forall_mem_none⟩ := rfl
  have hrun : ∃ event, scenarioEvent nfc index eventId eventType observations actions
      annotations = .ok event ∧ event.eventId.text = py eventId ∧
        event.sequenceIndex = ((index : Int)).toNat ∧ event.sourceTimeNs = none ∧
        event.observationReferences = observations ∧ event.actionReferences = actions ∧
        event.annotations = annotations := by
    simp only [scenarioEvent, demonstrationEvent, identifier_of_canonical hid, hindexRun, htimeRun,
      Checks.ok_bind, checkCount, Checks.require_bind_ok, Checks.ensure_bind_ok]
    exact ⟨_, ⟨hreferences.1, hreferences.2, hfew, hkeys, hactions, hannotated, hevident, rfl⟩,
      rfl, rfl, rfl, rfl, rfl, rfl⟩
  obtain ⟨event, hevent, hnamed, hindexed, huntimed, hobs, hact, hann⟩ := hrun
  exact ⟨event, hevent, hnamed, hindexed.trans (Int.toNat_natCast index), huntimed, hobs, hact,
    hann⟩

/-- An event with too many references, or with one that is named twice, is refused. -/
theorem scenarioEvent_error (hid : World.IsCanonical 256 (py eventId)) (hindex : index < 64)
    (h : ¬ (observations.length + actions.length ≤ 16 ∧
      (observations.map fun item => (item.kind, item.referenceId.text)).Nodup)) :
    ∃ message, scenarioEvent nfc index eventId eventType observations actions annotations =
      .error (validationError message) := by
  have hbounded : (0 : Int) ≤ (index : Int) ∧ (index : Int) < (maxEventsPerEpisode : Nat) := by
    rw [maxEventsPerEpisode]
    omega
  have hindexRun : sequenceIndexOf (.int (index : Int)) =
      .ok ⟨((index : Int)).toNat, by rw [maxEventsPerEpisode]; omega⟩ := by
    rw [sequenceIndexOf]
    simp only [Checks.ensure_bind_ok]
    exact ⟨hbounded, rfl⟩
  have htimeRun : sourceTimeOf .null = .ok ⟨none, forall_mem_none⟩ := rfl
  have hraises : RaisesOnly IsValidation
      (scenarioEvent nfc index eventId eventType observations actions annotations) := by
    simp only [scenarioEvent, demonstrationEvent, identifier_of_canonical hid, hindexRun, htimeRun,
      Checks.ok_bind]
    refine RaisesOnly.then_ (RaisesOnly.check (isValidation _)) fun _ => ?_
    refine RaisesOnly.then_ (RaisesOnly.check (isValidation _)) fun _ => ?_
    refine RaisesOnly.then_ (RaisesOnly.ensured (isValidation _)) fun _ => ?_
    refine RaisesOnly.then_ (RaisesOnly.ensured (isValidation _)) fun _ => ?_
    refine RaisesOnly.then_ (RaisesOnly.ensured (isValidation _)) fun _ => ?_
    refine RaisesOnly.then_ (RaisesOnly.ensured (isValidation _)) fun _ => ?_
    refine RaisesOnly.then_ (RaisesOnly.ensured (isValidation _)) fun _ => ?_
    exact RaisesOnly.of_ok rfl
  cases hrun : scenarioEvent nfc index eventId eventType observations actions annotations with
  | error raised =>
    obtain ⟨message, hmessage⟩ := hraises raised hrun
    exact ⟨message, by rw [hmessage]⟩
  | ok event =>
    simp only [scenarioEvent, demonstrationEvent, identifier_of_canonical hid, hindexRun, htimeRun,
      Checks.ok_bind, checkCount, Checks.require_bind_ok, Checks.ensure_bind_ok] at hrun
    obtain ⟨-, -, hfew, hobserved, -⟩ := hrun
    exact absurd ⟨hfew, nodup_keys.mp hobserved⟩ h

/-- A literal note is kept by normalization. -/
theorem annotation_ok (hnfc : ∀ text : PyStr, text.all isPrintable = true →
      nfc.normalize text = text) (kind : DemonstrationAnnotationKind) {text : PyStr}
    (hprintable : text.all isPrintable = true) (hnote : IsNote text) :
    ∃ note, annotation nfc kind (.str text) = .ok note ∧ note.text.text = text := by
  have hsame := hnfc text hprintable
  have hrun : ∃ checked, noteText nfc (.str text) (py "annotation text") = .ok checked ∧
      checked.text = text := by
    simp only [noteText, hsame, Checks.require_bind_ok, Checks.ensure_bind_ok]
    exact ⟨_, ⟨⟨hnote.1, hnote.2.1⟩, hnote.2.2.1, hnote, rfl⟩, rfl⟩
  obtain ⟨checked, hchecked, htext⟩ := hrun
  refine ⟨⟨kind, checked⟩, ?_, htext⟩
  rw [ annotation, hchecked]
  rfl

/-- An annotation takes its text and 60 bytes at most. -/
theorem annotation_size {note : DemonstrationAnnotation nfc}
    (hprintable : note.text.text.all isPrintable = true) (hlength : note.text.text.length ≤ 128) :
    documentSize note.asDict ≤ 300 := by
  have htext := documentSize_str hprintable
  have hkind : documentSize (.str note.kind.value) ≤ 16 := by
    cases note.kind <;> decide
  have hkeys : keyBudget [py "kind", py "text"] = 16 := by decide
  have hsize := documentSize_obj [(py "kind", .str note.kind.value),
    (py "text", .str note.text.text)]
  rw [ DemonstrationAnnotation.asDict]
  simp only [List.map_cons, List.map_nil, List.sum_cons, List.sum_nil] at hsize
  omega

/-- An event takes its parts and 450 bytes at most. -/
theorem EventOf.size {event : DemonstrationEvent nfc}
    (h : EventOf index eventId observations actions annotations event)
    (hid : (py eventId).length ≤ 64) (hindex : index < 10)
    (hobserved : ∀ reference ∈ observations, ShortReference reference)
    (hacted : ∀ action ∈ actions, ShortAction action)
    (hannotated : ∀ note ∈ annotations, note.text.text.all isPrintable = true ∧
      note.text.text.length ≤ 128) :
    documentSize event.asDict ≤
      320 + 1201 * observations.length + 1301 * actions.length + 301 * annotations.length := by
  have hshort : event.eventId.text.length ≤ 64 := by
    rw [h.named]
    exact hid
  have hname := documentSize_name event.eventId hshort
  have htype : documentSize (.str event.eventType.value) ≤ 20 := by
    cases event.eventType <;> decide
  have hnumber : documentSize (.int (index : Int)) = 1 := by
    have hall : ∀ n : Fin 10, documentSize (.int (n.val : Int)) = 1 := by decide
    exact hall ⟨index, hindex⟩
  have hnull : documentSize .null = 4 := by decide
  have hreferences : documentSize (.arr (observations.map (·.asDict))) ≤
      2 + observations.length * 1201 :=
    documentSize_arr_map fun reference hmem => (hobserved reference hmem).size
  have hactions : documentSize (.arr (actions.map (·.asDict))) ≤ 2 + actions.length * 1301 :=
    documentSize_arr_map fun action hmem => (hacted action hmem).size
  have hnotes : documentSize (.arr (annotations.map (·.asDict))) ≤
      2 + annotations.length * 301 :=
    documentSize_arr_map fun note hmem =>
      annotation_size (hannotated note hmem).1 (hannotated note hmem).2
  have hkeys : keyBudget [py "action_references", py "annotations", py "event_id",
      py "event_type", py "observation_references", py "sequence_index",
      py "source_time_ns"] = 124 := by decide
  have hsize := documentSize_obj [
    (py "action_references", .arr (event.actionReferences.map (·.asDict))),
    (py "annotations", .arr (event.annotations.map (·.asDict))),
    (py "event_id", .str event.eventId.text),
    (py "event_type", .str event.eventType.value),
    (py "observation_references", .arr (event.observationReferences.map (·.asDict))),
    (py "sequence_index", .int event.sequenceIndex),
    (py "source_time_ns", optionalTime event.sourceTimeNs)]
  rw [DemonstrationEvent.asDict]
  simp only [List.map_cons, List.map_nil, List.sum_cons, List.sum_nil, h.observed, h.acted,
    h.annotated, h.indexed, h.untimed, optionalTime, Option.elim] at hsize ⊢
  omega

end Building

end Teach
end AyyoHumanoid
