import AyyoHumanoid.CameraAgreement
import AyyoHumanoid.CameraSessions
import Mathlib.Data.List.Induction

/-!
# Configurations of the camera adapters

The physical adapter checks a calibration against its source before it sets
either. The depth adapter sets the source first, so a call that it refuses can
leave the new source beside the calibration of the old one, and the next
activation starts a session of both. A run in which no call does that starts
sessions of matching pairs only.
-/

namespace AyyoHumanoid
namespace Camera

open PyText JsonText World Perception Checks

variable {kind : CameraKind} {p : Platform} {bounds : CameraBounds}

section Matching

/-- The calibration that is held matches the source that is held, and an unconfigured adapter holds
none. -/
structure Matched (s : CameraState kind) : Prop where
  /-- An unconfigured adapter holds none. -/
  bare : s.state = .unconfigured → s.calibration = none
  pair : ∀ source ∈ s.source, ∀ calibration ∈ s.calibration, calibration.Matches source

/-- A refused `configure` of the depth adapter that leaves a source beside a calibration that does
not match it: the calibration offered does not match the source named, and neither does the one
held. -/
def Tears : {kind : CameraKind} → CameraState kind → CameraCall kind → Prop
  | .depth, s, .configure registry sourceId (some offered) =>
    s.state = .inactive ∧ ∃ source, registry.resolve sourceId = .ok source ∧
      ¬offered.Matches source ∧ ∃ held ∈ s.calibration, ¬held.Matches source
  | _, _, _ => False

variable {s t : CameraState kind}

/-- What keeps source and calibration keeps them matched. -/
theorem Matched.of_same (h : Matched s)
    (hstate : t.state = .unconfigured → s.state = .unconfigured) (hsource : t.source = s.source)
    (hcalibration : t.calibration = s.calibration) : Matched t := by
  constructor
  · intro hbare
    rw [hcalibration]
    exact h.bare (hstate hbare)
  · rw [hsource, hcalibration]
    exact h.pair

/-- Without a calibration every source is matched. -/
theorem matched_of_none (h : s.calibration = none) : Matched s := by
  constructor
  · exact fun _ => h
  · intro source _ calibration hheld
    rw [h] at hheld
    cases hheld

/-- A pair that matches is matched. -/
theorem matched_pair {source : SourceManifest kind} {calibration : Calibration kind}
    (hstate : s.state ≠ .unconfigured) (hsource : s.source = some source)
    (hcalibration : s.calibration = some calibration) (h : calibration.Matches source) :
    Matched s := by
  constructor
  · exact fun hbare => absurd hbare hstate
  · intro other hother another hanother
    rw [hsource] at hother
    rw [hcalibration] at hanother
    have hsame := Option.some.inj hother
    have hheld := Option.some.inj hanother
    rw [← hsame, ← hheld]
    exact h

/-- `configure` of the physical adapter keeps source and calibration matched. -/
theorem Matched.configurePhysical {s : CameraState .physical} (h : Matched s)
    (registry : SourceRegistry .physical) (sourceId : PyStr)
    (calibration : Option (Calibration .physical)) :
    Matched (Camera.configurePhysical registry s sourceId calibration).1 := by
  rw [Camera.configurePhysical]
  by_cases hstate : ¬(s.state = .unconfigured ∨ s.state = .inactive)
  · rw [if_pos hstate]
    exact h
  · rw [if_neg hstate]
    cases registry.resolve sourceId with
    | error error => exact h
    | ok source =>
      cases calibration with
      | none => exact matched_of_none rfl
      | some calibration =>
        by_cases hmatches : calibration.Matches source
        · simp only [if_neg (not_not.mpr hmatches)]
          exact matched_pair (fun h => by cases h) rfl rfl hmatches
        · simp only [if_pos hmatches]
          exact h

/-- `configure` of the depth adapter keeps source and calibration matched just when it does not
tear them. -/
theorem Matched.configureDepth {s : CameraState .depth} (h : Matched s)
    (registry : SourceRegistry .depth) (sourceId : PyStr)
    (calibration : Option (Calibration .depth)) :
    Matched (Camera.configureDepth registry s sourceId calibration).1 ↔
      ¬Tears s (.configure registry sourceId calibration) := by
  rw [Camera.configureDepth]
  by_cases hstate : ¬(s.state = .unconfigured ∨ s.state = .inactive)
  · rw [if_pos hstate]
    cases calibration with
    | none => exact ⟨fun _ hfalse => hfalse, fun _ => h⟩
    | some offered => exact ⟨fun _ htears => hstate (Or.inr htears.1), fun _ => h⟩
  · rw [if_neg hstate]
    cases hresolved : registry.resolve sourceId with
    | error error =>
      constructor
      · intro _ htears
        cases calibration with
        | none => exact htears
        | some offered =>
          obtain ⟨-, source, hsource, -⟩ := htears
          rw [hresolved] at hsource
          cases hsource
      · exact fun _ => h
    | ok source =>
      cases calibration with
      | none => exact ⟨fun _ hfalse => hfalse, fun _ => matched_of_none rfl⟩
      | some offered =>
        by_cases hmatches : offered.Matches source
        · simp only [if_neg (not_not.mpr hmatches)]
          constructor
          · intro _ htears
            obtain ⟨-, other, hother, hoffered, -⟩ := htears
            rw [hresolved] at hother
            have hsame := Except.ok.inj hother
            rw [← hsame] at hoffered
            exact hoffered hmatches
          · exact fun _ => matched_pair (fun h => by cases h) rfl rfl hmatches
        · simp only [if_pos hmatches]
          constructor
          · intro hmatched htears
            obtain ⟨-, other, hother, -, held, hheld, hunmatched⟩ := htears
            rw [hresolved] at hother
            have hsame := Except.ok.inj hother
            rw [← hsame] at hunmatched
            exact hunmatched (hmatched.pair source rfl held hheld)
          · intro hkept
            constructor
            · exact h.bare
            · intro other hother held hheld
              have hheld : held ∈ s.calibration := hheld
              have hsame := Option.some.inj hother
              have hinactive : s.state = .inactive := by
                cases not_not.mp hstate with
                | inl hbare =>
                  rw [h.bare hbare] at hheld
                  cases hheld
                | inr hinactive => exact hinactive
              by_contra hunmatched
              rw [← hsame] at hunmatched
              exact hkept ⟨hinactive, source, hresolved, hmatches, held, hheld, hunmatched⟩

/-- A submission keeps source and calibration. -/
theorem Matched.submit (h : Matched s) (hcoherent : Coherent s) (x : Submission kind) :
    Matched (submit bounds s x).1 := by
  by_cases hactive : s.state = .active
  · obtain ⟨source, configured, sessionId, -, hsettles⟩ := @Coherent.submit kind bounds s
      hcoherent hactive x
    have hstate : (Camera.submit bounds s x).1.state = .unconfigured → s.state = .unconfigured := by
      rw [hsettles.same.state]
      exact id
    exact h.of_same hstate hsettles.same.source hsettles.same.calibration
  · rw [@submit_inactive kind bounds s hactive x]
    exact h.of_same id rfl rfl

/-- Every call that does not tear keeps source and calibration matched. -/
theorem Matched.perform (h : Matched s) (hcoherent : Coherent s) {call : CameraCall kind}
    (hkept : ¬Tears s call) : Matched (perform p bounds s call).1 := by
  cases call with
  | configure registry sourceId calibration =>
    cases kind with
    | physical => exact h.configurePhysical registry sourceId calibration
    | depth => exact (h.configureDepth registry sourceId calibration).mpr hkept
  | activate =>
    cases activate_spec p s with
    | inl hrefused =>
      rw [Camera.perform, hrefused.1]
      exact h
    | inr hstarted =>
      obtain ⟨source, calibration, hsource, hcalibration, -, -, hinside⟩ := hstarted
      have hinside := hinside []
      have hstate : (activate p s).1.state ≠ .unconfigured := by
        rw [hinside.state]
        exact fun h => by cases h
      exact matched_pair hstate hinside.source hinside.calibration
        (h.pair source hsource calibration hcalibration)
  | deactivate =>
    rw [Camera.perform, deactivate]
    by_cases hactive : s.state ≠ .active
    · rw [if_pos hactive]
      exact h
    · rw [if_neg hactive]
      exact h.of_same (fun hbare => by cases hbare) rfl rfl
  | cleanup =>
    rw [Camera.perform, cleanup]
    by_cases hactive : s.state = .active
    · rw [if_pos hactive]
      exact h
    · rw [if_neg hactive]
      by_cases hfinal : s.state = .finalized
      · rw [if_pos hfinal]
        exact h
      · rw [if_neg hfinal]
        exact matched_of_none rfl
  | shutdown => exact matched_of_none rfl
  | submit x => exact h.submit hcoherent x

end Matching

section Runs

/-- Every session started with a calibration that matches its source. -/
def AllMatched (history : SessionLogs.History (CameraState kind) (CameraCall kind)
    (CameraOutcome kind) (Activation kind)) : Prop :=
  ∀ start ∈ history.sessions.map (·.start), start.calibration.Matches start.source

variable {history : SessionLogs.History (CameraState kind) (CameraCall kind)
  (CameraOutcome kind) (Activation kind)}

/-- What an activation starts is what the state held. -/
theorem started_held {s : CameraState kind} {call : CameraCall kind} {activation : Activation kind}
    (h : started? s call (perform p bounds s call).2 = some activation) :
    s.source = some activation.source ∧ s.calibration = some activation.calibration := by
  cases call with
  | activate =>
    cases activate_spec p s with
    | inl hrefused =>
      obtain ⟨-, error, herror⟩ := hrefused
      rw [perform, herror] at h
      cases h
    | inr hstarted =>
      obtain ⟨source, calibration, hsource, hcalibration, hreply, -⟩ := hstarted
      rw [perform, hreply] at h
      have hsame := h.symm.trans (started_session hsource hcalibration _)
      cases hsame
      exact ⟨hsource, hcalibration⟩
  | configure registry sourceId calibration => cases h
  | deactivate => cases h
  | cleanup => cases h
  | shutdown => cases h
  | submit x => cases h

/-- A call in a matched state starts a matched session, if it starts one. -/
theorem AllMatched.call (h : AllMatched history) (hmatched : Matched history.state)
    (call : CameraCall kind) : AllMatched ((component kind p bounds).call history call) := by
  cases hstarted : started? history.state call (perform p bounds history.state call).2 with
  | none =>
    have hsessions : ((component kind p bounds).call history call).sessions =
        SessionLogs.extendLatest ⟨history.state, call, (perform p bounds history.state call).2⟩
          history.sessions :=
      congrArg (fun started => SessionLogs.recordStep started _ history.sessions) hstarted
    rw [AllMatched, hsessions, SessionLogs.Component.starts_extendLatest]
    exact h
  | some activation =>
    have hsessions : ((component kind p bounds).call history call).sessions =
        ⟨activation, []⟩ :: history.sessions :=
      congrArg (fun started => SessionLogs.recordStep started _ history.sessions) hstarted
    obtain ⟨hsource, hcalibration⟩ := started_held hstarted
    rw [AllMatched, hsessions, List.map_cons, List.forall_mem_cons]
    exact ⟨hmatched.pair _ hsource _ hcalibration, h⟩

/-- The run after one more call. -/
theorem after_concat (calls : List (CameraCall kind)) (call : CameraCall kind) :
    (component kind p bounds).after (calls ++ [call]) =
      (component kind p bounds).call ((component kind p bounds).after calls) call := by
  rw [SessionLogs.Component.after, List.foldl_append]
  rfl

/-- In a run in which no call tears, source and calibration are matched in every state and every
session. -/
theorem matched_after (calls : List (CameraCall kind))
    (hkept : ∀ earlier call, earlier ++ [call] <+: calls →
      ¬Tears ((component kind p bounds).after earlier).state call) :
    Matched ((component kind p bounds).after calls).state ∧
      AllMatched ((component kind p bounds).after calls) := by
  induction calls using List.reverseRecOn with
  | nil => exact ⟨matched_of_none rfl, List.forall_mem_nil _⟩
  | append_singleton calls call ih =>
    have hbefore := ih fun earlier other hinitial =>
      hkept earlier other (hinitial.trans (List.prefix_append calls [call]))
    have hcoherent :=
      (SessionLogs.Component.invariant_after (component_lawful kind p bounds) calls).state
    rw [after_concat]
    exact ⟨hbefore.1.perform hcoherent (hkept calls call List.prefix_rfl),
      hbefore.2.call hbefore.1 call⟩

/-- A call that tears is refused, and leaves an inactive adapter with a source and a calibration that
does not match it. -/
theorem torn_state {s : CameraState .depth} {call : CameraCall .depth} (h : Tears s call) :
    (∃ error, (perform p bounds s call).2 = .error error) ∧
      (perform p bounds s call).1.state = .inactive ∧
      ∃ source held, (perform p bounds s call).1.source = some source ∧
        (perform p bounds s call).1.calibration = some held ∧ ¬held.Matches source := by
  cases call with
  | configure registry sourceId calibration =>
    cases calibration with
    | none => cases h
    | some offered =>
      obtain ⟨hstate, source, hresolved, hoffered, held, hheld, hunmatched⟩ := h
      rw [perform, configure, configureDepth, if_neg (not_not.mpr (Or.inr hstate)), hresolved]
      simp only [if_pos hoffered]
      exact ⟨⟨_, rfl⟩, hstate, source, held, rfl, hheld, hunmatched⟩
  | activate => cases h
  | deactivate => cases h
  | cleanup => cases h
  | shutdown => cases h
  | submit x => cases h

/-- The source at the head after a review that moved its mount. -/
def movedSource : SourceManifest .depth := { headSource .depth with mountFrameId := opticalFrame }

/-- The old calibration names the old mount. -/
theorem headCalibration_moved : ¬(headCalibration .depth).Matches movedSource := by
  intro hmatches
  have hmount : mountFrame = opticalFrame := hmatches.2.2.1
  have htext := congrArg FrameId.text hmount
  revert htext
  decide

-- Naming the moved source with the old calibration again tears.
example : Tears (headConfigured .depth) (.configure (PyDict.set .empty (py "head") movedSource)
    (py "head") (some (headCalibration .depth))) :=
  ⟨rfl, movedSource, rfl, headCalibration_moved, headCalibration .depth, rfl, headCalibration_moved⟩

/-- An activation of an inactive adapter that holds a source and a calibration starts a session of
both. -/
theorem starts_held {source : SourceManifest kind} {calibration : Calibration kind}
    (hstate : history.state.state = .inactive) (hsource : history.state.source = some source)
    (hcalibration : history.state.calibration = some calibration) :
    ∃ session ∈ ((component kind p bounds).call history .activate).sessions,
      session.start.source = source ∧ session.start.calibration = calibration := by
  have hreply : (perform p bounds history.state .activate).2 =
      .ok (.session (sessionIdOf p source.manifestId history.state.epoch.increment)) := by
    rw [perform, activate, if_neg (not_not.mpr hstate), hsource, hcalibration]
    rfl
  have hstarted : started? history.state .activate (perform p bounds history.state .activate).2 =
      some ⟨source, calibration, history.state.epoch.increment,
        sessionIdOf p source.manifestId history.state.epoch.increment⟩ := by
    rw [hreply]
    exact started_session hsource hcalibration _
  have hsessions : ((component kind p bounds).call history .activate).sessions =
      ⟨⟨source, calibration, history.state.epoch.increment,
        sessionIdOf p source.manifestId history.state.epoch.increment⟩, []⟩ :: history.sessions :=
    congrArg (fun started => SessionLogs.recordStep started _ history.sessions) hstarted
  rw [hsessions]
  exact ⟨_, List.mem_cons_self, rfl, rfl⟩

end Runs

section Results

/-- No call of the physical adapter tears. -/
theorem physical_untorn (s : CameraState .physical) (call : CameraCall .physical) :
    ¬Tears s call := by
  intro h
  cases call with
  | configure registry sourceId calibration =>
    cases calibration with
    | none => exact h
    | some offered => exact h
  | activate => exact h
  | deactivate => exact h
  | cleanup => exact h
  | shutdown => exact h
  | submit x => exact h

/-- In every run of the physical adapter, and in every run of the depth adapter in which no call
tears, each session starts with a calibration that matches its source. A call that tears is
refused; when nothing was torn before it, it is the only kind of call that leaves source and
calibration unmatched, and activating the adapter after it starts a session that does not match. -/
theorem camera_sessions_matched (p : Platform) (bounds : CameraBounds) :
    (∀ calls, AllMatched ((component .physical p bounds).after calls)) ∧
      ∀ calls : List (CameraCall .depth), (∀ earlier call, earlier ++ [call] <+: calls →
          ¬Tears ((component .depth p bounds).after earlier).state call) →
        AllMatched ((component .depth p bounds).after calls) ∧
          ∀ call, (Tears ((component .depth p bounds).after calls).state call ↔
              ¬Matched ((component .depth p bounds).after (calls ++ [call])).state) ∧
            (Tears ((component .depth p bounds).after calls).state call →
              (∃ error, (perform p bounds ((component .depth p bounds).after calls).state call).2 =
                .error error) ∧
              ¬AllMatched ((component .depth p bounds).after (calls ++ [call, .activate]))) := by
  constructor
  · exact fun calls => (matched_after calls fun _ _ _ => physical_untorn _ _).2
  · intro calls hkept
    have hmatched := @matched_after .depth p bounds calls hkept
    have hcoherent :=
      (SessionLogs.Component.invariant_after (component_lawful .depth p bounds) calls).state
    refine ⟨hmatched.2, fun call => ⟨⟨?_, ?_⟩, ?_⟩⟩
    · intro htears hafter
      obtain ⟨-, -, source, held, hsource, hheld, hunmatched⟩ := @torn_state p bounds _ _ htears
      rw [after_concat] at hafter
      exact hunmatched (hafter.pair source hsource held hheld)
    · intro hafter
      by_contra huntorn
      apply hafter
      rw [after_concat]
      exact hmatched.1.perform hcoherent huntorn
    · intro htears
      obtain ⟨hrefused, hstate, source, held, hsource, hheld, hunmatched⟩ :=
        @torn_state p bounds _ _ htears
      refine ⟨hrefused, fun hall => ?_⟩
      rw [← List.singleton_append, ← List.append_assoc, after_concat, after_concat] at hall
      obtain ⟨session, hsession, hnew, hold⟩ := @starts_held .depth p bounds
        ((component .depth p bounds).call ((component .depth p bounds).after calls) call) source
        held hstate hsource hheld
      have hmatches := hall session.start (List.mem_map_of_mem hsession)
      rw [hnew, hold] at hmatches
      exact hunmatched hmatches

end Results

end Camera
end AyyoHumanoid
