import AyyoHumanoid.ScenarioRecords

/-!
# Recordings of the production scenario

A production report is refused by the adapter unless its decisions prove the
deferral. Its references are spread over two events, each with a bound of its own.
-/

namespace AyyoHumanoid
namespace Teach

open PyText JsonText Artifacts Scenario

section Deferral

variable {nfc : Nfc} {p : Platform} {report : DevelopmentScenarioReport}

/-- A `ScenarioDemonstrationAdapterError`. -/
def IsAdapter (raised : TeachRaised) : Prop := ∃ message, raised = adapterError message

/-- A missing decision is an error of the adapter. -/
theorem raises_policyDecision (report : DevelopmentScenarioReport) (layer : PyStr) :
    RaisesOnly IsAdapter (policyDecision report layer) := by
  unfold policyDecision
  split
  · exact RaisesOnly.of_ok rfl
  · exact RaisesOnly.of_error ⟨_, rfl⟩

/-- Decisions that do not prove the deferral are an error of the adapter. -/
theorem raises_deferredDecisions (report : DevelopmentScenarioReport) :
    RaisesOnly IsAdapter (deferredDecisions report) := by
  rw [deferredDecisions]
  refine RaisesOnly.then_ (raises_policyDecision _ _) fun _ => ?_
  refine RaisesOnly.then_ (raises_policyDecision _ _) fun _ => ?_
  refine RaisesOnly.then_ (raises_policyDecision _ _) fun _ => ?_
  refine RaisesOnly.then_ (raises_policyDecision _ _) fun _ => ?_
  refine RaisesOnly.then_ (RaisesOnly.check ⟨_, rfl⟩) fun _ => ?_
  exact RaisesOnly.of_ok rfl

/-- The event of one layer's decision is built. -/
theorem Verified.decisionEvent (h : Verified p productionMotionDeferred report)
    (floats : TargetFloats) {index : Nat} {eventId : String}
    {eventType : DemonstrationEventType} {assertionId : String} (actionId : PyStr)
    (kind : DemonstrationActionKind) (authority : DemonstrationActionAuthority)
    (disposition : DemonstrationActionDisposition) (decision : ScenarioPolicyDecision)
    (hevent : World.IsCanonical 256 (py eventId)) (hindex : index < 64)
    (hassertion : py assertionId ∈ productionMotionDeferred.assertions.map (·.assertionId))
    (hid : World.IsCanonical 128 actionId)
    (hcovered : kind.IsDevelopment → authority = .developmentOnly) :
    ∃ event reference action,
      Teach.decisionEvent nfc floats report index eventId eventType assertionId
        ⟨actionId, kind, authority, disposition⟩ decision = .ok event ∧
      EventOf index eventId [reference] [action] [] event ∧
      ShortReference reference ∧ ShortAction action ∧
      action.actionId.text = actionId ∧ action.disposition = disposition := by
  obtain ⟨reference, href, -, -, hrefShort⟩ := h.assertionReference hassertion
  obtain ⟨action, haction, hactionId, hactionAs, hactionShort⟩ :=
    h.action floats actionId kind authority disposition hid
      (NameGiven.named _ decision.reason.canonical) TargetGiven.absent hcovered
  obtain ⟨event, hrun, heventOf⟩ := @scenarioEvent_ok nfc index eventId eventType [reference]
    [action] [] hevent hindex (by simp) (List.nodup_singleton _) (List.nodup_singleton _)
    (by simp) (Or.inl (List.cons_ne_nil _ _))
  refine ⟨event, reference, action, ?_, heventOf, hrefShort, hactionShort, hactionId, hactionAs⟩
  rw [Teach.decisionEvent, href, Checks.ok_bind, haction, Checks.ok_bind, hrun]

/-- The annotation of the deferral is a printable note. -/
theorem deferral_text : (py deferralKept).all isPrintable = true ∧
    IsNote (py deferralKept) ∧ (py deferralKept).length ≤ 128 := by
  decide

/-- The plans of the production scenario. -/
def deferralPlans : List EventPlan :=
  [⟨"production-neck-request", 16, 1, 0⟩, ⟨"executive-proposal", 1, 1, 0⟩,
    ⟨"safety-decision", 1, 1, 0⟩, ⟨"skill-binding", 1, 1, 0⟩, ⟨"runtime-nondispatch", 4, 2, 0⟩,
    ⟨"stationary-production-target", 16, 0, 0⟩, ⟨"demonstration-outcome", 0, 0, 1⟩]

/-- The references of a production report fit into its two events. -/
def FitsTwoEvents (report : DevelopmentScenarioReport) : Prop :=
  report.observedIdentities.length ≤ 14 ∧ report.sources.length ≤ 15 ∧ DistinctIdentities report

instance (report : DevelopmentScenarioReport) : Decidable (FitsTwoEvents report) :=
  inferInstanceAs (Decidable (_ ∧ _))

/-- The events of a verified report of the production scenario whose decisions prove the
deferral. -/
theorem Verified.deferralEvents (h : Verified p productionMotionDeferred report)
    (hnfc : ∀ text : PyStr, text.all isPrintable = true → nfc.normalize text = text)
    (floats : TargetFloats) {decisions : DeferredDecisions}
    (hdecisions : deferredDecisions report = .ok decisions) :
    if FitsTwoEvents report then
      ∃ events, productionDeferEvents nfc floats report = .ok events ∧ Recordable events ∧
        events.map claimsOf = [
          ([(py "production-neck-position-request", .requested)], []),
          ([(py "executive-neck-proposal", .proposed)], []),
          ([(py "safety-neck-decision", .deferred)], []),
          ([(py "skill-neck-binding", .ineligible)], []),
          ([(py "runtime-neck-eligibility", .deferred),
            (py "production-neck-nondispatch", .notDispatched)], []),
          ([], []),
          ([], [py deferralKept])]
    else ∃ message, productionDeferEvents nfc floats report =
      .error (validationError message) := by
  have href : ∀ id, id ∈ productionMotionDeferred.assertions.map (·.assertionId) →
      ∃ reference, Teach.assertionReference report id = .ok reference ∧
        reference.kind = .scenarioAssertion ∧ reference.referenceId.text = id ∧
        ShortReference reference := fun id hid => h.assertionReference hid
  obtain ⟨whole, hwhole, hwholeKind, -, hwholeShort⟩ := h.reportReference
  obtain ⟨identities, hidentities, hcount, hidShort, hidKind, hidDistinct⟩ := h.identityReferences
  obtain ⟨sources, hsources, hsourceCount, hsourceShort, hsourceKind, hsourceDistinct⟩ :=
    h.sourceReferences
  obtain ⟨request, hrequest, hrequestId, hrequestAs, hrequestShort⟩ :=
    h.action floats (py "production-neck-position-request") .executiveRequest .none .requested
      (by decide) NameGiven.absent (TargetGiven.neck _ targets_short.1)
      (by decide)
  have hfirstNodup := @nodup_whole whole identities [] [] hwholeKind hidKind
    (List.forall_mem_nil _) List.nodup_nil (List.forall_mem_nil _) List.nodup_nil
  rw [List.append_nil, List.append_nil] at hfirstNodup
  by_cases hstart : report.observedIdentities.length ≤ 14 ∧ DistinctIdentities report
  · obtain ⟨intent, hintent, hintentOf⟩ :=
      @scenarioEvent_ok nfc 0 "production-neck-request" .intent (whole :: identities) [request]
        [] (by decide) (by decide)
        (by rw [List.length_cons, hcount, List.length_singleton]; omega)
        (hfirstNodup.mpr (hidDistinct.mpr hstart.2)) (List.nodup_singleton _) (by simp)
        (Or.inl (List.cons_ne_nil _ _))
    obtain ⟨proposal, proposalRef, proposalAction, hproposal, hproposalOf, hproposalShort,
        hproposalActionShort, hproposalId, hproposalAs⟩ :=
      @Verified.decisionEvent nfc p report h floats 1 "executive-proposal" .executiveProposal
        "executive-proposal-structured" (py "executive-neck-proposal") .executiveProposal .none
        .proposed decisions.executive (by decide) (by decide) (by decide) (by decide) (by decide)
    obtain ⟨safety, safetyRef, safetyAction, hsafety, hsafetyOf, hsafetyShort,
        hsafetyActionShort, hsafetyId, hsafetyAs⟩ :=
      @Verified.decisionEvent nfc p report h floats 2 "safety-decision" .safetyDecision
        "safety-deferred" (py "safety-neck-decision") .safetyDecision .none .deferred
        decisions.safety (by decide) (by decide) (by decide) (by decide) (by decide)
    obtain ⟨binding, bindingRef, bindingAction, hbinding, hbindingOf, hbindingShort,
        hbindingActionShort, hbindingId, hbindingAs⟩ :=
      @Verified.decisionEvent nfc p report h floats 3 "skill-binding" .skillBinding
        "skill-binding-ineligible" (py "skill-neck-binding") .skillBinding .none .ineligible
        decisions.skill (by decide) (by decide) (by decide) (by decide) (by decide)
    obtain ⟨refused, hrefused, hrefusedKind, hrefusedText, hrefusedShort⟩ :=
      href (py "runtime-not-dispatchable") (by decide)
    obtain ⟨zero, hzero, hzeroKind, hzeroText, hzeroShort⟩ :=
      href (py "production-dispatch-zero") (by decide)
    obtain ⟨uncalled, huncalled, huncalledKind, huncalledText, huncalledShort⟩ :=
      href (py "development-service-not-called") (by decide)
    obtain ⟨unissued, hunissued, hunissuedKind, hunissuedText, hunissuedShort⟩ :=
      href (py "controller-command-not-issued") (by decide)
    obtain ⟨eligibility, heligibility, heligibilityId, heligibilityAs, heligibilityShort⟩ :=
      h.action floats (py "runtime-neck-eligibility") .runtimeResult .none .deferred (by decide)
        (NameGiven.named _ decisions.runtime.reason.canonical) TargetGiven.absent (by decide)
    obtain ⟨nondispatch, hnondispatch, hnondispatchId, hnondispatchAs, hnondispatchShort⟩ :=
      h.action floats (py "production-neck-nondispatch") .runtimeResult .none .notDispatched
        (by decide) (NameGiven.named (py "production-dispatch-zero") (by decide))
        TargetGiven.absent (by decide)
    obtain ⟨runtime, hruntime, hruntimeOf⟩ :=
      @scenarioEvent_ok nfc 4 "runtime-nondispatch" .runtimeResult
        [refused, zero, uncalled, unissued] [eligibility, nondispatch] [] (by decide) (by decide)
        (by simp)
        (by
          simp only [List.map_cons, List.map_nil, hrefusedKind, hrefusedText, hzeroKind,
            hzeroText, huncalledKind, huncalledText, hunissuedKind, hunissuedText]
          decide)
        (by
          simp only [List.map_cons, List.map_nil, heligibilityId, hnondispatchId]
          decide)
        (by simp) (Or.inl (List.cons_ne_nil _ _))
    obtain ⟨stationary, hstationary, hstationaryKind, hstationaryText, hstationaryShort⟩ :=
      href (py "requested-joint-stationary") (by decide)
    by_cases hroom : report.sources.length ≤ 15
    · have hfits : FitsTwoEvents report := ⟨hstart.1, hroom, hstart.2⟩
      have hlength : (sources ++ [stationary]).length = report.sources.length + 1 := by
        rw [List.length_append, hsourceCount, List.length_singleton]
      have hapart : ((sources ++ [stationary]).map
          fun item => (item.kind, item.referenceId.text)).Nodup := by
        rw [List.map_append, List.nodup_append]
        refine ⟨hsourceDistinct, List.nodup_singleton _, ?_⟩
        intro key hkey other hother heq
        obtain ⟨source, hsource, hsourceKey⟩ := List.mem_map.mp hkey
        have hkind := hsourceKind source hsource
        rw [List.map_singleton, List.mem_singleton] at hother
        rw [← hsourceKey, hother, Prod.mk.injEq, hkind, hstationaryKind] at heq
        exact absurd heq.1 (by decide)
      obtain ⟨target, htarget, htargetOf⟩ :=
        @scenarioEvent_ok nfc 5 "stationary-production-target" .observation
          (sources ++ [stationary]) [] [] (by decide) (by decide)
          (by rw [hlength, List.length_nil]; omega) hapart List.nodup_nil (by simp)
          (Or.inl (List.append_ne_nil_of_right_ne_nil _ (List.cons_ne_nil _ _)))
      obtain ⟨outcome, note, houtcome, houtcomeOf, hnoteText⟩ :=
        @outcomeEvent_ok nfc hnfc 6 deferralKept (by decide) deferral_text.1 deferral_text.2.1
      rw [if_pos hfits]
      refine ⟨[intent, proposal, safety, binding, runtime, target, outcome], ?_, ?_, ?_⟩
      · simp only [productionDeferEvents, hdecisions, hwhole, hidentities, boundedTarget,
          hrequest, hintent, hproposal, hsafety, hbinding, hrefused, hzero, huncalled, hunissued,
          heligibility, hnondispatch, hruntime, hsources, hstationary, htarget, houtcome,
          Checks.ok_bind]
        rfl
      · refine @recordable_of_follow nfc deferralPlans _ ?_ (by decide) (by decide) (by decide)
          (by decide)
        refine hintentOf.follow (by decide) (by decide) ?_
          (List.forall_mem_singleton.mpr hrequestShort) (List.forall_mem_nil _)
          ⟨by rw [List.length_cons, hcount]; change _ ≤ 16; omega, Nat.le_refl _,
            Nat.le_refl _⟩ ?_
        · intro reference hreference
          cases List.mem_cons.mp hreference with
          | inl heq => rw [heq]; exact hwholeShort
          | inr hmem => exact hidShort reference hmem
        refine hproposalOf.follow (by decide) (by decide)
          (List.forall_mem_singleton.mpr hproposalShort)
          (List.forall_mem_singleton.mpr hproposalActionShort) (List.forall_mem_nil _)
          ⟨Nat.le_refl _, Nat.le_refl _, Nat.le_refl _⟩ ?_
        refine hsafetyOf.follow (by decide) (by decide)
          (List.forall_mem_singleton.mpr hsafetyShort)
          (List.forall_mem_singleton.mpr hsafetyActionShort) (List.forall_mem_nil _)
          ⟨Nat.le_refl _, Nat.le_refl _, Nat.le_refl _⟩ ?_
        refine hbindingOf.follow (by decide) (by decide)
          (List.forall_mem_singleton.mpr hbindingShort)
          (List.forall_mem_singleton.mpr hbindingActionShort) (List.forall_mem_nil _)
          ⟨Nat.le_refl _, Nat.le_refl _, Nat.le_refl _⟩ ?_
        refine hruntimeOf.follow (by decide) (by decide)
          (by simp only [List.forall_mem_cons, hrefusedShort, hzeroShort, huncalledShort,
            hunissuedShort, List.not_mem_nil, false_imp_iff, implies_true, and_self])
          (by simp only [List.forall_mem_cons, heligibilityShort, hnondispatchShort,
            List.not_mem_nil, false_imp_iff, implies_true, and_self]) (List.forall_mem_nil _)
          ⟨Nat.le_refl _, Nat.le_refl _, Nat.le_refl _⟩ ?_
        refine htargetOf.follow (by decide) (by decide) ?_ (List.forall_mem_nil _)
          (List.forall_mem_nil _) ⟨by rw [hlength]; change _ ≤ 16; omega, Nat.le_refl _,
            Nat.le_refl _⟩ ?_
        · intro reference hreference
          cases List.mem_append.mp hreference with
          | inl hmem => exact hsourceShort reference hmem
          | inr heq => rw [List.mem_singleton.mp heq]; exact hstationaryShort
        refine houtcomeOf.follow (by decide) (by decide) (List.forall_mem_nil _)
          (List.forall_mem_nil _) (List.forall_mem_singleton.mpr ?_)
          ⟨Nat.le_refl _, Nat.le_refl _, Nat.le_refl _⟩ (.nil _)
        rw [hnoteText]
        exact ⟨deferral_text.1, deferral_text.2.2⟩
      · simp only [List.map_cons, List.map_nil, claimsOf, hintentOf.acted, hintentOf.annotated,
          hproposalOf.acted, hproposalOf.annotated, hsafetyOf.acted, hsafetyOf.annotated,
          hbindingOf.acted, hbindingOf.annotated, hruntimeOf.acted, hruntimeOf.annotated,
          htargetOf.acted, htargetOf.annotated, houtcomeOf.acted, houtcomeOf.annotated,
          hrequestId, hrequestAs, hproposalId, hproposalAs, hsafetyId, hsafetyAs, hbindingId,
          hbindingAs, heligibilityId, heligibilityAs, hnondispatchId, hnondispatchAs, hnoteText]
    · rw [if_neg fun hfits : FitsTwoEvents report => hroom hfits.2.1]
      obtain ⟨message, hrefusal⟩ := @scenarioEvent_error nfc 5 "stationary-production-target"
        .observation (sources ++ [stationary]) [] [] (by decide) (by decide) (by
          intro hok
          have hfew := hok.1
          rw [List.length_append, hsourceCount, List.length_singleton, List.length_nil] at hfew
          omega)
      refine ⟨message, ?_⟩
      simp only [productionDeferEvents, hdecisions, hwhole, hidentities, boundedTarget, hrequest,
        hintent, hproposal, hsafety, hbinding, hrefused, hzero, huncalled, hunissued,
        heligibility, hnondispatch, hruntime, hsources, hstationary, hrefusal, Checks.ok_bind]
      rfl
  · rw [if_neg fun hfits : FitsTwoEvents report => hstart ⟨hfits.1, hfits.2.2⟩]
    obtain ⟨message, hrefusal⟩ := @scenarioEvent_error nfc 0 "production-neck-request" .intent
      (whole :: identities) [request] [] (by decide) (by decide) (by
        intro hok
        have hfew := hok.1
        rw [List.length_cons, hcount, List.length_singleton] at hfew
        exact hstart ⟨by omega, hidDistinct.mp (hfirstNodup.mp hok.2)⟩)
    refine ⟨message, ?_⟩
    simp only [productionDeferEvents, hdecisions, hwhole, hidentities, boundedTarget, hrequest,
      hrefusal, Checks.ok_bind]
    rfl

end Deferral

end Teach
end AyyoHumanoid
