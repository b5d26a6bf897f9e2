import AyyoHumanoid.ScenarioEvents

/-!
# Recordings of the scenarios

For each scenario: the events of a verified report, when the adapter can build
them, and the exception when it cannot.
-/

namespace AyyoHumanoid
namespace Teach

open PyText JsonText Artifacts Scenario

section Recordings

variable {nfc : Nfc}

/-- The actions of an event with their dispositions, and the texts of its annotations. -/
def claimsOf (event : DemonstrationEvent nfc) :
    List (PyStr × DemonstrationActionDisposition) × List PyStr :=
  (event.actionReferences.map fun action => (action.actionId.text, action.disposition),
    event.annotations.map (·.text.text))

/-- Events that an episode can hold. -/
structure Recordable (events : List (DemonstrationEvent nfc)) : Prop where
  /-- The indices count the events. -/
  ordered : events.map (·.sequenceIndex) = List.range events.length
  /-- An identity names one event. -/
  distinct : (events.map (·.eventId.text)).Nodup
  /-- No event has a time. -/
  untimed : ∀ event ∈ events, event.sourceTimeNs = none
  /-- There is an event. -/
  present : events ≠ []
  few : events.length ≤ 64
  /-- The annotations are few. -/
  annotated : (events.map fun event => event.annotations.length).sum ≤ 32
  short : documentSize (.arr (events.map (·.asDict))) ≤ 60500

/-- The sizes of a list of documents are the sizes of its items. -/
theorem documentSize_events (events : List (DemonstrationEvent nfc)) :
    documentSize (.arr (events.map (·.asDict))) ≤
      2 + (events.map fun event => documentSize event.asDict + 1).sum := by
  have hlist := documentSize_arr (events.map (·.asDict))
  rw [List.map_map] at hlist
  exact hlist

/-- What is known of an event before the report is: its identity, and how many references,
actions and annotations it has at most. -/
structure EventPlan where
  /-- The identity. -/
  eventId : String
  references : Nat
  actions : Nat
  annotations : Nat

/-- The bytes of an event of a plan, with a comma. -/
def EventPlan.budget (plan : EventPlan) : Nat :=
  321 + 1201 * plan.references + 1301 * plan.actions + 301 * plan.annotations

/-- Events that follow their plans, from an index on. -/
inductive Follow : Nat → List EventPlan → List (DemonstrationEvent nfc) → Prop where
  /-- No event. -/
  | nil (index : Nat) : Follow index [] []
  /-- One more event. -/
  | cons {index : Nat} {plan : EventPlan} {plans : List EventPlan}
    {event : DemonstrationEvent nfc} {events : List (DemonstrationEvent nfc)}
    (indexed : event.sequenceIndex = index) (named : event.eventId.text = py plan.eventId)
    (untimed : event.sourceTimeNs = none)
    (annotated : event.annotations.length ≤ plan.annotations)
    (short : documentSize event.asDict + 1 ≤ plan.budget)
    (rest : Follow (index + 1) plans events) : Follow index (plan :: plans) (event :: events)

/-- A built event follows its plan. -/
theorem EventOf.follow {index : Nat} {plan : EventPlan}
    {observations : List DemonstrationObservationReference}
    {actions : List DemonstrationActionReference}
    {annotations : List ( DemonstrationAnnotation nfc)} {event : DemonstrationEvent nfc}
    {plans : List EventPlan} {events : List (DemonstrationEvent nfc)}
    (h : EventOf index plan.eventId observations actions annotations event)
    (hid : (py plan.eventId).length ≤ 64) (hindex : index < 10)
    (hobserved : ∀ reference ∈ observations, ShortReference reference)
    (hacted : ∀ action ∈ actions, ShortAction action)
    (hannotated : ∀ note ∈ annotations, note.text.text.all isPrintable = true ∧
      note.text.text.length ≤ 128)
    (hcounts : observations.length ≤ plan.references ∧ actions.length ≤ plan.actions ∧
      annotations.length ≤ plan.annotations)
    (rest : Follow (index + 1) plans events) : Follow index (plan :: plans) (event :: events) := by
  have hsize := h.size hid hindex hobserved hacted hannotated
  refine .cons h.indexed h.named h.untimed (by rw [h.annotated]; exact hcounts.2.2) ?_ rest
  rw [EventPlan.budget]
  omega

/-- Events that follow short plans with distinct identities can be recorded. -/
theorem recordable_of_follow {plans : List EventPlan} {events : List (DemonstrationEvent nfc)}
    (h : Follow 0 plans events) (hids : (plans.map fun plan => py plan.eventId).Nodup)
    (hcount : 0 < plans.length ∧ plans.length ≤ 64)
    (hnotes : (plans.map (·.annotations)).sum ≤ 32)
    (hsize : 2 + (plans.map (·.budget)).sum ≤ 60500) : Recordable events := by
  have hparts : ∀ {index : Nat} {plans : List EventPlan} {events : List (DemonstrationEvent nfc)},
      Follow index plans events →
        events.length = plans.length ∧
        events.map (·.sequenceIndex) = List.range' index events.length ∧
        events.map (·.eventId.text) = plans.map (fun plan => py plan.eventId) ∧
        (∀ event ∈ events, event.sourceTimeNs = none) ∧
        (events.map fun event => event.annotations.length).sum ≤
          (plans.map (·.annotations)).sum ∧
        (events.map fun event => documentSize event.asDict + 1).sum ≤
          (plans.map (·.budget)).sum := by
    intro index plans events h
    induction h with
    | nil index =>
      refine ⟨rfl, rfl, rfl, ?_, le_rfl, le_rfl⟩
      intro event hevent
      cases hevent
    | cons hindexed hnamed huntimed hannotated hshort rest ih =>
      obtain ⟨hlength, hindices, hnames, htimes, hnotes, hsizes⟩ := ih
      refine ⟨?_, ?_, ?_, ?_, ?_, ?_⟩
      · rw [List.length_cons, List.length_cons, hlength]
      · rw [List.map_cons, List.length_cons, List.range'_succ, hindexed, hindices]
      · rw [List.map_cons, List.map_cons, hnamed, hnames]
      · intro event hevent
        cases List.mem_cons.mp hevent with
        | inl heq => rw [heq]; exact huntimed
        | inr hrest => exact htimes event hrest
      · rw [List.map_cons, List.sum_cons, List.map_cons, List.sum_cons]
        omega
      · rw [List.map_cons, List.sum_cons, List.map_cons, List.sum_cons]
        omega
  obtain ⟨hlength, hindices, hnames, htimes, hannotations, hsizes⟩ := hparts h
  have hdocument := documentSize_events events
  refine ⟨?_, ?_, htimes, ?_, by omega, by omega, by omega⟩
  · rw [hindices, List.range_eq_range']
  · rw [hnames]
    exact hids
  · intro hempty
    rw [hempty, List.length_nil] at hlength
    omega

/-- The last event of a scenario. -/
theorem outcomeEvent_ok
    (hnfc : ∀ text : PyStr, text.all isPrintable = true → nfc.normalize text = text)
    {index : Nat} {text : String} (hindex : index < 64)
    (hprintable : (py text).all isPrintable = true) (hnote : IsNote (py text)) :
    ∃ event note, outcomeEvent nfc index text = .ok event ∧
      EventOf index "demonstration-outcome" [] [] [note] event ∧ note.text.text = py text := by
  obtain ⟨note, hrun, htext⟩ := annotation_ok hnfc .outcomeReason hprintable hnote
  have hevent := @scenarioEvent_ok nfc index "demonstration-outcome" .outcome [] [] [note]
    (by decide) hindex (by decide) List.nodup_nil List.nodup_nil
    (by rw [List.length_singleton]; omega) (Or.inr (Or.inr (List.cons_ne_nil _ _)))
  obtain ⟨event, hbuilt, hparts⟩ := hevent
  refine ⟨event, note, ?_, hparts, htext⟩
  rw [outcomeEvent, hrun, Checks.ok_bind, hbuilt]

variable {p : Platform} {report : DevelopmentScenarioReport}
  {definition : DevelopmentScenarioDefinition}

/-- The references of one event are named apart when those to identities are: the report, the
identities, the sources and one assertion have different kinds. -/
theorem nodup_whole {whole : DemonstrationObservationReference}
    {identities sources assertions : List DemonstrationObservationReference}
    (hwhole : whole.kind = .scenarioReport)
    (hidentities : ∀ item ∈ identities,
      item.kind = .robotBodyState ∨ item.kind = .publicEvidence)
    (hsources : ∀ item ∈ sources, item.kind = .sensorEvidence)
    (hdistinct : (sources.map fun item => (item.kind, item.referenceId.text)).Nodup)
    (hassertions : ∀ item ∈ assertions, item.kind = .scenarioAssertion)
    (hapart : (assertions.map fun item => (item.kind, item.referenceId.text)).Nodup) :
    ((whole :: identities ++ sources ++ assertions).map
        fun item => (item.kind, item.referenceId.text)).Nodup ↔
      (identities.map fun item => (item.kind, item.referenceId.text)).Nodup := by
  have hkind : ∀ {items : List DemonstrationObservationReference}
      {key : ObservationReferenceKind × PyStr},
      key ∈ (items.map fun item => (item.kind, item.referenceId.text)) →
        ∃ item ∈ items, item.kind = key.1 := by
    intro items key hmem
    obtain ⟨item, hitem, hkey⟩ := List.mem_map.mp hmem
    exact ⟨item, hitem, congrArg Prod.fst hkey⟩
  rw [List.cons_append, List.cons_append, List.map_cons, List.nodup_cons, List.map_append,
    List.map_append]
  constructor
  · intro h
    exact (List.nodup_append.mp (List.nodup_append.mp h.2).1).1
  · intro h
    refine ⟨?_, List.nodup_append.mpr ⟨List.nodup_append.mpr ⟨h, hdistinct, ?_⟩, hapart, ?_⟩⟩
    · intro hmem
      rw [List.mem_append, List.mem_append] at hmem
      cases hmem with
      | inl hmem =>
        cases hmem with
        | inl hmem =>
          obtain ⟨item, hitem, hkey⟩ := hkind hmem
          have hother := hidentities item hitem
          simp only [hkey, hwhole, reduceCtorEq, or_self] at hother
        | inr hmem =>
          obtain ⟨item, hitem, hkey⟩ := hkind hmem
          have hother := hsources item hitem
          simp only [hkey, hwhole, reduceCtorEq] at hother
      | inr hmem =>
        obtain ⟨item, hitem, hkey⟩ := hkind hmem
        have hother := hassertions item hitem
        simp only [hkey, hwhole, reduceCtorEq] at hother
    · intro key hkey other hother heq
      obtain ⟨item, hitem, hitemKind⟩ := hkind hkey
      obtain ⟨found, hfound, hfoundKind⟩ := hkind hother
      have hfirst := hidentities item hitem
      have hsecond := hsources found hfound
      rw [hitemKind, heq, ← hfoundKind, hsecond] at hfirst
      simp only [reduceCtorEq, or_self] at hfirst
    · intro key hkey other hother heq
      obtain ⟨found, hfound, hfoundKind⟩ := hkind hother
      have hsecond := hassertions found hfound
      rw [List.mem_append] at hkey
      cases hkey with
      | inl hmem =>
        obtain ⟨item, hitem, hitemKind⟩ := hkind hmem
        have hfirst := hidentities item hitem
        rw [hitemKind, heq, ← hfoundKind, hsecond] at hfirst
        simp only [reduceCtorEq, or_self] at hfirst
      | inr hmem =>
        obtain ⟨item, hitem, hitemKind⟩ := hkind hmem
        have hfirst := hsources item hitem
        rw [hitemKind, heq, ← hfoundKind, hsecond] at hfirst
        simp only [reduceCtorEq] at hfirst

/-- The references of a report to all it names fit into one event. -/
def FitsOneEvent (report : DevelopmentScenarioReport) : Prop :=
  report.observedIdentities.length + report.sources.length ≤ 14 ∧ DistinctIdentities report

instance (report : DevelopmentScenarioReport) : Decidable (FitsOneEvent report) :=
  inferInstanceAs (Decidable (_ ∧ _))

/-- The first event of a scenario that starts with everything the report names. -/
theorem Verified.wholeEvent (h : Verified p definition report) {eventId : String}
    {eventType : DemonstrationEventType} {assertion : DemonstrationObservationReference}
    (hid : World.IsCanonical 256 (py eventId)) (hkind : assertion.kind = .scenarioAssertion)
    (hshort : ShortReference assertion) :
    ∃ whole identities sources, Teach.reportReference report = .ok whole ∧
      Teach.identityReferences report = .ok identities ∧
      Teach.sourceReferences report = .ok sources ∧
      if FitsOneEvent report then
        ∃ event, scenarioEvent nfc 0 eventId eventType
            (whole :: identities ++ sources ++ [assertion]) [] [] = .ok event ∧
          EventOf 0 eventId (whole :: identities ++ sources ++ [assertion]) [] [] event ∧
          (whole :: identities ++ sources ++ [assertion]).length ≤ 16 ∧
          ∀ reference ∈ whole :: identities ++ sources ++ [assertion], ShortReference reference
      else ∃ message, scenarioEvent nfc 0 eventId eventType
          (whole :: identities ++ sources ++ [assertion]) [] [] =
        .error (validationError message) := by
  obtain ⟨whole, hwhole, hwholeKind, -, hwholeShort⟩ := h.reportReference
  obtain ⟨identities, hidentities, hcount, hidShort, hidKind, hidDistinct⟩ := h.identityReferences
  obtain ⟨sources, hsources, hsourceCount, hsourceShort, hsourceKind, hsourceDistinct⟩ :=
    h.sourceReferences
  refine ⟨whole, identities, sources, hwhole, hidentities, hsources, ?_⟩
  have hlength : (whole :: identities ++ sources ++ [assertion]).length =
      report.observedIdentities.length + report.sources.length + 2 := by
    simp only [List.length_append, List.length_cons, List.length_nil, hcount, hsourceCount]
    omega
  have hnodup := @nodup_whole whole identities sources [assertion] hwholeKind hidKind hsourceKind
    hsourceDistinct (fun item hitem => by rw [List.mem_singleton.mp hitem]; exact hkind)
    (List.nodup_singleton _)
  by_cases hfits : FitsOneEvent report
  · rw [if_pos hfits]
    have hroom := hfits.1
    obtain ⟨event, hrun, hparts⟩ := @scenarioEvent_ok nfc 0 eventId eventType
      (whole :: identities ++ sources ++ [assertion]) [] [] hid (by omega)
      (by rw [hlength, List.length_nil]; omega) (hnodup.mpr (hidDistinct.mpr hfits.2))
      List.nodup_nil (Nat.zero_le _) (Or.inl (List.cons_ne_nil _ _))
    refine ⟨event, hrun, hparts, by omega, ?_⟩
    intro reference hreference
    simp only [List.mem_append, List.mem_cons, List.not_mem_nil, or_false] at hreference
    obtain ((heq | hmem) | hmem) | heq := hreference
    · rw [heq]
      exact hwholeShort
    · exact hidShort reference hmem
    · exact hsourceShort reference hmem
    · rw [heq]
      exact hshort
  · rw [if_neg hfits]
    refine scenarioEvent_error hid (by omega) ?_
    intro hok
    refine hfits ⟨?_, hidDistinct.mp (hnodup.mp hok.2)⟩
    have hfew := hok.1
    rw [hlength, List.length_nil] at hfew
    omega

end Recordings

section Scenarios

variable {nfc : Nfc} {p : Platform} {report : DevelopmentScenarioReport}

/-- The literals are short. -/
theorem targets_short : documentSize boundedTarget ≤ 4 ∧ documentSize neutralTarget ≤ 4 ∧
    documentSize excessiveTarget ≤ 4 := by
  decide

/-- The annotations of the motion are printable notes. -/
theorem motion_texts : ((py motionLimitation).all isPrintable = true ∧
      IsNote (py motionLimitation) ∧ (py motionLimitation).length ≤ 128) ∧
    (py motionObserved).all isPrintable = true ∧ IsNote (py motionObserved) ∧
      (py motionObserved).length ≤ 128 := by
  decide

/-- The plans of the motion scenario. -/
def motionPlans : List EventPlan :=
  [⟨"initial-robot-state", 16, 0, 0⟩, ⟨"development-neck-target-requested", 0, 1, 1⟩,
    ⟨"development-neck-target-observed", 4, 1, 0⟩, ⟨"development-neck-reset-observed", 2, 1, 0⟩,
    ⟨"demonstration-outcome", 0, 0, 1⟩]

/-- The events of a verified report of the motion scenario. -/
theorem Verified.motionEvents (h : Verified p developmentNeckActuation report)
    (hnfc : ∀ text : PyStr, text.all isPrintable = true → nfc.normalize text = text)
    (floats : TargetFloats) :
    if FitsOneEvent report then
      ∃ events, developmentMotionEvents nfc floats report = .ok events ∧ Recordable events ∧
        events.map claimsOf = [
          ([], []),
          ([(py "development-neck-target-request", .requested)], [py motionLimitation]),
          ([(py "development-neck-target-result", .completed)], []),
          ([(py "development-neck-neutral-reset", .completed)], []),
          ([], [py motionObserved])]
    else ∃ message, developmentMotionEvents nfc floats report =
      .error (validationError message) := by
  have href : ∀ id, id ∈ developmentNeckActuation.assertions.map (·.assertionId) →
      ∃ reference, Teach.assertionReference report id = .ok reference ∧
        reference.kind = .scenarioAssertion ∧ reference.referenceId.text = id ∧
        ShortReference reference := fun id hid => h.assertionReference hid
  obtain ⟨neck, hneck, hneckKind, -, hneckShort⟩ := href (py "initial-neck-observed") (by decide)
  obtain ⟨whole, identities, sources, hwhole, hidentities, hsources, hfirst⟩ :=
    @Verified.wholeEvent nfc p report _ h "initial-robot-state" .observation neck (by decide)
      hneckKind hneckShort
  by_cases hfits : FitsOneEvent report
  · rw [if_pos hfits]
    rw [if_pos hfits] at hfirst
    obtain ⟨initial, hinitial, hinitialOf, hinitialFew, hinitialShort⟩ := hfirst
    obtain ⟨request, hrequest, hrequestId, hrequestAs, hrequestShort⟩ :=
      h.action floats (py "development-neck-target-request") .developmentJointPosition .developmentOnly .requested (by decide) NameGiven.absent
        (TargetGiven.neck _ targets_short.1) (fun _ => rfl)
    obtain ⟨limitation, hlimitation, hlimitationText⟩ :=
      annotation_ok hnfc .limitation motion_texts.1.1 motion_texts.1.2.1
    obtain ⟨requested, hrequested, hrequestedOf⟩ :=
      @scenarioEvent_ok nfc 1 "development-neck-target-requested" .developmentAction [] [request]
        [limitation] (by decide) (by decide) (by simp) List.nodup_nil (List.nodup_singleton _)
        (by simp) (Or.inr (Or.inl (List.cons_ne_nil _ _)))
    obtain ⟨completed, hcompleted, hcompletedKind, hcompletedText, hcompletedShort⟩ :=
      href (py "development-command-completed") (by decide)
    obtain ⟨reached, hreached, hreachedKind, hreachedText, hreachedShort⟩ :=
      href (py "neck-target-observed") (by decide)
    obtain ⟨updated, hupdated, hupdatedKind, hupdatedText, hupdatedShort⟩ :=
      href (py "world-model-neck-updated") (by decide)
    obtain ⟨unused, hunused, hunusedKind, hunusedText, hunusedShort⟩ :=
      href (py "production-authority-unused") (by decide)
    obtain ⟨result, hresult, hresultId, hresultAs, hresultShort⟩ :=
      h.action floats (py "development-neck-target-result") .developmentJointPosition .developmentOnly .completed (by decide) NameGiven.absent
        (TargetGiven.neck _ targets_short.1) (fun _ => rfl)
    obtain ⟨observed, hobserved, hobservedOf⟩ :=
      @scenarioEvent_ok nfc 2 "development-neck-target-observed" .observation
        [completed, reached, updated, unused] [result] [] (by decide) (by decide) (by simp)
        (by
          simp only [List.map_cons, List.map_nil, hcompletedKind, hcompletedText, hreachedKind,
            hreachedText, hupdatedKind, hupdatedText, hunusedKind, hunusedText]
          decide)
        (List.nodup_singleton _) (by simp) (Or.inl (List.cons_ne_nil _ _))
    obtain ⟨restored, hrestored, hrestoredKind, hrestoredText, hrestoredShort⟩ :=
      href (py "neck-restored-neutral") (by decide)
    obtain ⟨cleaned, hcleaned, hcleanedKind, hcleanedText, hcleanedShort⟩ :=
      href (py "development-cleanup-complete") (by decide)
    obtain ⟨reset, hreset, hresetId, hresetAs, hresetShort⟩ :=
      h.action floats (py "development-neck-neutral-reset") .developmentReset .developmentOnly .completed (by decide) NameGiven.absent (TargetGiven.neck _ targets_short.2.1)
        (fun _ => rfl)
    obtain ⟨neutral, hneutral, hneutralOf⟩ :=
      @scenarioEvent_ok nfc 3 "development-neck-reset-observed" .developmentAction
        [restored, cleaned] [reset] [] (by decide) (by decide) (by simp)
        (by
          simp only [List.map_cons, List.map_nil, hrestoredKind, hrestoredText, hcleanedKind,
            hcleanedText]
          decide)
        (List.nodup_singleton _) (by simp) (Or.inl (List.cons_ne_nil _ _))
    obtain ⟨outcome, note, houtcome, houtcomeOf, hnoteText⟩ :=
      @outcomeEvent_ok nfc hnfc 4 motionObserved (by decide) motion_texts.2.1 motion_texts.2.2.1
    refine ⟨[initial, requested, observed, neutral, outcome], ?_, ?_, ?_⟩
    · simp only [developmentMotionEvents, hwhole, hidentities, hsources, hneck, hinitial,
        boundedTarget, neutralTarget, hrequest, hlimitation, hrequested, hcompleted, hreached,
        hupdated, hunused, hresult, hobserved, hrestored, hcleaned, hreset, hneutral, houtcome,
        Checks.ok_bind]
      rfl
    · refine @recordable_of_follow nfc motionPlans _ ?_ (by decide) (by decide) (by decide)
        (by decide)
      refine hinitialOf.follow (by decide) (by decide) hinitialShort (List.forall_mem_nil _)
        (List.forall_mem_nil _) ⟨hinitialFew, Nat.le_refl _, Nat.le_refl _⟩ ?_
      refine hrequestedOf.follow (by decide) (by decide) (List.forall_mem_nil _)
        (List.forall_mem_singleton.mpr hrequestShort) (List.forall_mem_singleton.mpr ?_)
        ⟨Nat.le_refl _, Nat.le_refl _, Nat.le_refl _⟩ ?_
      · rw [hlimitationText]
        exact ⟨motion_texts.1.1, motion_texts.1.2.2⟩
      refine hobservedOf.follow (by decide) (by decide)
        (by simp only [List.forall_mem_cons, hcompletedShort, hreachedShort, hupdatedShort,
          hunusedShort, List.not_mem_nil, false_imp_iff, implies_true, and_self])
        (List.forall_mem_singleton.mpr hresultShort) (List.forall_mem_nil _)
        ⟨Nat.le_refl _, Nat.le_refl _, Nat.le_refl _⟩ ?_
      refine hneutralOf.follow (by decide) (by decide)
        (by simp only [List.forall_mem_cons, hrestoredShort, hcleanedShort, List.not_mem_nil,
          false_imp_iff, implies_true, and_self])
        (List.forall_mem_singleton.mpr hresetShort) (List.forall_mem_nil _)
        ⟨Nat.le_refl _, Nat.le_refl _, Nat.le_refl _⟩ ?_
      refine houtcomeOf.follow (by decide) (by decide) (List.forall_mem_nil _)
        (List.forall_mem_nil _) (List.forall_mem_singleton.mpr ?_)
        ⟨Nat.le_refl _, Nat.le_refl _, Nat.le_refl _⟩ (.nil _)
      rw [hnoteText]
      exact ⟨motion_texts.2.1, motion_texts.2.2.2⟩
    · simp only [List.map_cons, List.map_nil, claimsOf, hinitialOf.acted, hinitialOf.annotated,
        hrequestedOf.acted, hrequestedOf.annotated, hobservedOf.acted, hobservedOf.annotated,
        hneutralOf.acted, hneutralOf.annotated, houtcomeOf.acted, houtcomeOf.annotated,
        hrequestId, hrequestAs, hlimitationText, hresultId, hresultAs, hresetId, hresetAs,
        hnoteText]
  · rw [if_neg hfits]
    rw [if_neg hfits] at hfirst
    obtain ⟨message, hrefused⟩ := hfirst
    refine ⟨message, ?_⟩
    simp only [developmentMotionEvents, hwhole, hidentities, hsources, hneck, hrefused,
      Checks.ok_bind]
    rfl

/-- The annotation of the rejection is a printable note. -/
theorem rejection_text : (py rejectionObserved).all isPrintable = true ∧
    IsNote (py rejectionObserved) ∧ (py rejectionObserved).length ≤ 128 := by
  decide

/-- The plans of the invalid command's scenario. -/
def rejectionPlans : List EventPlan :=
  [⟨"pre-command-state", 16, 0, 0⟩, ⟨"invalid-development-command", 3, 2, 0⟩,
    ⟨"post-rejection-state", 4, 0, 0⟩, ⟨"demonstration-outcome", 0, 0, 1⟩]

/-- The events of a verified report of the invalid command's scenario. -/
theorem Verified.rejectionEvents (h : Verified p invalidDevelopmentCommand report)
    (hnfc : ∀ text : PyStr, text.all isPrintable = true → nfc.normalize text = text)
    (floats : TargetFloats) :
    if FitsOneEvent report then
      ∃ events, invalidCommandEvents nfc floats report = .ok events ∧ Recordable events ∧
        events.map claimsOf = [
          ([], []),
          ([(py "invalid-development-neck-request", .requested),
            (py "invalid-development-neck-rejection", .rejected)], []),
          ([], []),
          ([], [py rejectionObserved])]
    else ∃ message, invalidCommandEvents nfc floats report = .error (validationError message) := by
  have href : ∀ id, id ∈ invalidDevelopmentCommand.assertions.map (·.assertionId) →
      ∃ reference, Teach.assertionReference report id = .ok reference ∧
        reference.kind = .scenarioAssertion ∧ reference.referenceId.text = id ∧
        ShortReference reference := fun id hid => h.assertionReference hid
  obtain ⟨before, hbefore, hbeforeKind, -, hbeforeShort⟩ :=
    href (py "pre-command-state-observed") (by decide)
  obtain ⟨whole, identities, sources, hwhole, hidentities, hsources, hfirst⟩ :=
    @Verified.wholeEvent nfc p report _ h "pre-command-state" .observation before (by decide)
      hbeforeKind hbeforeShort
  by_cases hfits : FitsOneEvent report
  · rw [if_pos hfits]
    rw [if_pos hfits] at hfirst
    obtain ⟨initial, hinitial, hinitialOf, hinitialFew, hinitialShort⟩ := hfirst
    obtain ⟨rejected, hrejected, hrejectedKind, hrejectedText, hrejectedShort⟩ :=
      href (py "invalid-command-rejected") (by decide)
    obtain ⟨typed, htyped, htypedKind, htypedText, htypedShort⟩ :=
      href (py "typed-rejection-reason") (by decide)
    obtain ⟨unclamped, hunclamped, hunclampedKind, hunclampedText, hunclampedShort⟩ :=
      href (py "invalid-not-clamped") (by decide)
    obtain ⟨request, hrequest, hrequestId, hrequestAs, hrequestShort⟩ :=
      h.action floats (py "invalid-development-neck-request") .developmentJointPosition
        .developmentOnly .requested (by decide) NameGiven.absent
        (TargetGiven.neck _ targets_short.2.2) (fun _ => rfl)
    obtain ⟨rejection, hrejection, hrejectionId, hrejectionAs, hrejectionShort⟩ :=
      h.action floats (py "invalid-development-neck-rejection") .developmentJointPosition
        .developmentOnly .rejected (by decide) (NameGiven.named (py "above-maximum") (by decide))
        (TargetGiven.neck _ targets_short.2.2) (fun _ => rfl)
    obtain ⟨command, hcommand, hcommandOf⟩ :=
      @scenarioEvent_ok nfc 1 "invalid-development-command" .developmentAction
        [rejected, typed, unclamped] [request, rejection] [] (by decide) (by decide) (by simp)
        (by
          simp only [List.map_cons, List.map_nil, hrejectedKind, hrejectedText, htypedKind,
            htypedText, hunclampedKind, hunclampedText]
          decide)
        (by
          simp only [List.map_cons, List.map_nil, hrequestId, hrejectionId]
          decide)
        (by simp) (Or.inl (List.cons_ne_nil _ _))
    obtain ⟨unreached, hunreached, hunreachedKind, hunreachedText, hunreachedShort⟩ :=
      href (py "invalid-target-not-reached") (by decide)
    obtain ⟨unfabricated, hunfabricated, hunfabricatedKind, hunfabricatedText,
        hunfabricatedShort⟩ := href (py "world-model-not-fabricated") (by decide)
    obtain ⟨healthy, hhealthy, hhealthyKind, hhealthyText, hhealthyShort⟩ :=
      href (py "controller-remains-healthy") (by decide)
    obtain ⟨queried, hqueried, hqueriedKind, hqueriedText, hqueriedShort⟩ :=
      href (py "post-rejection-query-works") (by decide)
    obtain ⟨later, hlater, hlaterOf⟩ :=
      @scenarioEvent_ok nfc 2 "post-rejection-state" .observation
        [unreached, unfabricated, healthy, queried] [] [] (by decide) (by decide) (by simp)
        (by
          simp only [List.map_cons, List.map_nil, hunreachedKind, hunreachedText,
            hunfabricatedKind, hunfabricatedText, hhealthyKind, hhealthyText, hqueriedKind,
            hqueriedText]
          decide)
        List.nodup_nil (by simp) (Or.inl (List.cons_ne_nil _ _))
    obtain ⟨outcome, note, houtcome, houtcomeOf, hnoteText⟩ :=
      @outcomeEvent_ok nfc hnfc 3 rejectionObserved (by decide) rejection_text.1
        rejection_text.2.1
    refine ⟨[initial, command, later, outcome], ?_, ?_, ?_⟩
    · simp only [invalidCommandEvents, hwhole, hidentities, hsources, hbefore, hinitial,
        excessiveTarget, hrejected, htyped, hunclamped, hrequest, hrejection, hcommand,
        hunreached, hunfabricated, hhealthy, hqueried, hlater, houtcome, Checks.ok_bind]
      rfl
    · refine @recordable_of_follow nfc rejectionPlans _ ?_ (by decide) (by decide) (by decide)
        (by decide)
      refine hinitialOf.follow (by decide) (by decide) hinitialShort (List.forall_mem_nil _)
        (List.forall_mem_nil _) ⟨hinitialFew, Nat.le_refl _, Nat.le_refl _⟩ ?_
      refine hcommandOf.follow (by decide) (by decide)
        (by simp only [List.forall_mem_cons, hrejectedShort, htypedShort, hunclampedShort,
          List.not_mem_nil, false_imp_iff, implies_true, and_self])
        (by simp only [List.forall_mem_cons, hrequestShort, hrejectionShort, List.not_mem_nil,
          false_imp_iff, implies_true, and_self]) (List.forall_mem_nil _)
        ⟨Nat.le_refl _, Nat.le_refl _, Nat.le_refl _⟩ ?_
      refine hlaterOf.follow (by decide) (by decide)
        (by simp only [List.forall_mem_cons, hunreachedShort, hunfabricatedShort, hhealthyShort,
          hqueriedShort, List.not_mem_nil, false_imp_iff, implies_true, and_self])
        (List.forall_mem_nil _) (List.forall_mem_nil _)
        ⟨Nat.le_refl _, Nat.le_refl _, Nat.le_refl _⟩ ?_
      refine houtcomeOf.follow (by decide) (by decide) (List.forall_mem_nil _)
        (List.forall_mem_nil _) (List.forall_mem_singleton.mpr ?_)
        ⟨Nat.le_refl _, Nat.le_refl _, Nat.le_refl _⟩ (.nil _)
      rw [hnoteText]
      exact ⟨rejection_text.1, rejection_text.2.2⟩
    · simp only [List.map_cons, List.map_nil, claimsOf, hinitialOf.acted, hinitialOf.annotated,
        hcommandOf.acted, hcommandOf.annotated, hlaterOf.acted, hlaterOf.annotated,
        houtcomeOf.acted, houtcomeOf.annotated, hrequestId, hrequestAs, hrejectionId,
        hrejectionAs, hnoteText]
  · rw [if_neg hfits]
    rw [if_neg hfits] at hfirst
    obtain ⟨message, hrefused⟩ := hfirst
    refine ⟨message, ?_⟩
    simp only [invalidCommandEvents, hwhole, hidentities, hsources, hbefore, hrefused,
      Checks.ok_bind]
    rfl

/-- The last annotation of the other scenarios is a printable note. -/
theorem result_text : (py resultPreserved).all isPrintable = true ∧
    IsNote (py resultPreserved) ∧ (py resultPreserved).length ≤ 128 := by
  decide

/-- The plans of the other scenarios. -/
def resultPlans : List EventPlan :=
  [⟨"scenario-evidence", 16, 0, 0⟩, ⟨"demonstration-outcome", 0, 0, 1⟩]

/-- The events of a verified report of another scenario: too many references are refused by the
adapter, an identity observed twice is refused by the event. -/
theorem Verified.genericEvents {definition : DevelopmentScenarioDefinition}
    (h : Verified p definition report)
    (hnfc : ∀ text : PyStr, text.all isPrintable = true → nfc.normalize text = text) :
    if 15 < report.observedIdentities.length + report.sources.length then
      ∃ message, Teach.genericEvents nfc report = .error (adapterError message)
    else if DistinctIdentities report then
      ∃ events, Teach.genericEvents nfc report = .ok events ∧ Recordable events ∧
        events.map claimsOf = [([], []), ([], [py resultPreserved])]
    else ∃ message, Teach.genericEvents nfc report = .error (validationError message) := by
  obtain ⟨whole, hwhole, hwholeKind, -, hwholeShort⟩ := h.reportReference
  obtain ⟨identities, hidentities, hcount, hidShort, hidKind, hidDistinct⟩ := h.identityReferences
  obtain ⟨sources, hsources, hsourceCount, hsourceShort, hsourceKind, hsourceDistinct⟩ :=
    h.sourceReferences
  have hlength : (whole :: identities ++ sources).length =
      report.observedIdentities.length + report.sources.length + 1 := by
    simp only [List.length_append, List.length_cons, hcount, hsourceCount]
    omega
  have hnodup := @nodup_whole whole identities sources [] hwholeKind hidKind hsourceKind
    hsourceDistinct (List.forall_mem_nil _) List.nodup_nil
  rw [List.append_nil] at hnodup
  by_cases hmany : 15 < report.observedIdentities.length + report.sources.length
  · rw [if_pos hmany]
    have hbound : ¬ (whole :: identities ++ sources).length ≤ 16 := by omega
    refine ⟨py "Stage-6 report references exceed the Teach Mode event bound", ?_⟩
    simp only [Teach.genericEvents, hwhole, hidentities, hsources, Checks.ok_bind, require,
      if_neg hbound]
    rfl
  · rw [if_neg hmany]
    have hbound : (whole :: identities ++ sources).length ≤ 16 := by omega
    by_cases hdistinct : DistinctIdentities report
    · rw [if_pos hdistinct]
      obtain ⟨evidence, hevidence, hevidenceOf⟩ :=
        @scenarioEvent_ok nfc 0 "scenario-evidence" .observation (whole :: identities ++ sources)
          [] [] (by decide) (by decide) (by rw [List.length_nil]; omega)
          (hnodup.mpr (hidDistinct.mpr hdistinct)) List.nodup_nil (Nat.zero_le _)
          (Or.inl (List.cons_ne_nil _ _))
      obtain ⟨outcome, note, houtcome, houtcomeOf, hnoteText⟩ :=
        @outcomeEvent_ok nfc hnfc 1 resultPreserved (by decide) result_text.1 result_text.2.1
      refine ⟨[evidence, outcome], ?_, ?_, ?_⟩
      · simp only [Teach.genericEvents, hwhole, hidentities, hsources, Checks.ok_bind, require,
          if_pos hbound, hevidence, houtcome]
        rfl
      · refine @recordable_of_follow nfc resultPlans _ ?_ (by decide) (by decide) (by decide)
          (by decide)
        refine hevidenceOf.follow (by decide) (by decide) ?_ (List.forall_mem_nil _)
          (List.forall_mem_nil _) ⟨hbound, Nat.le_refl _, Nat.le_refl _⟩ ?_
        · intro reference hreference
          simp only [List.mem_append, List.mem_cons] at hreference
          obtain (heq | hmem) | hmem := hreference
          · rw [heq]
            exact hwholeShort
          · exact hidShort reference hmem
          · exact hsourceShort reference hmem
        · refine houtcomeOf.follow (by decide) (by decide) (List.forall_mem_nil _)
            (List.forall_mem_nil _) (List.forall_mem_singleton.mpr ?_)
            ⟨Nat.le_refl _, Nat.le_refl _, Nat.le_refl _⟩ (.nil _)
          rw [hnoteText]
          exact ⟨result_text.1, result_text.2.2⟩
      · simp only [List.map_cons, List.map_nil, claimsOf, hevidenceOf.acted,
          hevidenceOf.annotated, houtcomeOf.acted, houtcomeOf.annotated, hnoteText]
    · rw [if_neg hdistinct]
      obtain ⟨message, hrefused⟩ := @scenarioEvent_error nfc 0 "scenario-evidence" .observation
        (whole :: identities ++ sources) [] [] (by decide) (by decide)
        (fun hok => hdistinct (hidDistinct.mp (hnodup.mp hok.2)))
      refine ⟨message, ?_⟩
      simp only [Teach.genericEvents, hwhole, hidentities, hsources, Checks.ok_bind, require,
        if_pos hbound, hrefused]
      rfl

end Scenarios

end Teach
end AyyoHumanoid
