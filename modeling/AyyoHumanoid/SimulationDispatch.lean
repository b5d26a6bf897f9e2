import AyyoHumanoid.SimulationAdapter

/-!
# What the adapter dispatches and reports

Each part of an execution either dispatches nothing and reports a rejection, or
goes on to the next part with the evidence it has checked. The dispatched
position is the one target of the command, the evidence behind it is current, and
a completed result rests on later feedback near the target.
-/

namespace AyyoHumanoid
namespace Simulation

open PyText JsonText Interaction
open World (Name)

section Evidence

/-- A position was dispatched, whatever the answer. -/
def isDispatch (event : ControlEvent) : Bool :=
  match event.call with
  | .dispatchPosition .. => true
  | _ => false

/-- The dispatched position is the single target of the command and within the limits. -/
structure Allowed (limits : UrdfJointLimitCatalog) (command : SimulationControlCommand)
    (jointName : Name) (position : Rat) : Prop where
  /-- The command has this target alone. -/
  target : command.targets = [⟨jointName, position⟩]
  /-- The joint may be commanded. -/
  listed : jointName.text ∈ controlledJointAllowlist
  /-- The position is within the limits of the joint. -/
  within : ∃ lower upper proper,
    limits.joints.get? jointName.text = some (.revolute lower upper proper) ∧
      lower ≤ position ∧ position ≤ upper

/-- The controller evidence at the dispatch time is complete and fresh. -/
structure Ready (command : SimulationControlCommand) (jointName : Name)
    (snapshot : ControllerSnapshot) (sample : JointStateSample) (dispatchNowNs : Int) : Prop where
  current : command.issuedAtNs ≤ dispatchNowNs ∧ dispatchNowNs ≤ command.expiresAtNs
  /-- The controller is the reviewed one. -/
  reviewed : snapshot.controllerName.text = positionControllerName
  fresh : snapshot.observedAtNs ≤ dispatchNowNs ∧
    dispatchNowNs - snapshot.observedAtNs ≤ maxControllerSnapshotAgeNs
  hardware : snapshot.hardwareLifecycle = .active
  controller : snapshot.controllerLifecycle = .active
  broadcaster : snapshot.broadcasterLifecycle = .active
  /-- The controller has a subscription. -/
  subscribed : 1 ≤ snapshot.commandSubscribers
  state : snapshot.jointState = some sample ∧ sample.jointName = jointName
  /-- The joint state is fresh. -/
  freshState : sample.observedAtNs ≤ dispatchNowNs ∧
    dispatchNowNs - sample.observedAtNs ≤ maxJointStateAgeNs

/-- The feedback shows the requested motion. -/
structure Confirmed (float : FloatRuntime) (adapter : SimulationControlAdapter)
    (target : JointPositionTarget) (sample feedback : JointStateSample)
    (dispatchNowNs feedbackNowNs : Int) : Prop where
  /-- The feedback is about the joint. -/
  joint : feedback.jointName = target.jointName
  /-- The feedback is later in the sequence of states. -/
  later : sample.sequence < feedback.sequence
  /-- The feedback was observed after the dispatch and not in the future. -/
  observed : dispatchNowNs ≤ feedback.observedAtNs ∧ feedback.observedAtNs ≤ feedbackNowNs
  /-- The position changed observably. -/
  changed : (minimumObservableChange : WithTop Rat) ≤
    float.distance feedback.position sample.position
  /-- The position is near the target. -/
  reached : float.distance feedback.position target.position ≤
    (adapter.positionTolerance : WithTop Rat)

/-- The gateway answered with an invalid time or with the feedback of something else. -/
def InvalidAnswer (events : List ControlEvent) : Prop :=
  (∃ time : Int, time < 0 ∧ ⟨.simulationTimeNs, time⟩ ∈ events) ∨
    ∃ jointName afterSequence position tolerance timeoutNs, ∃ sample : JointStateSample,
      (⟨.waitForFeedback jointName afterSequence position tolerance timeoutNs, some sample⟩ :
        ControlEvent) ∈ events ∧ (sample.jointName ≠ jointName ∨ sample.sequence ≤ afterSequence)

/-- An invalid answer stays one when more calls surround it. -/
theorem InvalidAnswer.mono {events others : List ControlEvent} (h : InvalidAnswer events)
    (hsub : ∀ event ∈ events, event ∈ others) : InvalidAnswer others := by
  rcases h with ⟨time, hnegative, hmem⟩ | ⟨jointName, sequence, position, tolerance, timeoutNs,
    sample, hmem, hwrong⟩
  · exact Or.inl ⟨time, hnegative, hsub _ hmem⟩
  · exact Or.inr ⟨jointName, sequence, position, tolerance, timeoutNs, sample, hsub _ hmem, hwrong⟩

end Evidence

section Checks

variable {float : FloatRuntime} {limits : UrdfJointLimitCatalog}
  {command : SimulationControlCommand} {snapshot : ControllerSnapshot} {sample : JointStateSample}
  {nowNs : Int}

/-- What a command that enters the boundary satisfies. -/
theorem allowed_of_entry (h : checkEntry float limits command nowNs = .ok ()) :
    Allowed limits command command.firstTarget.jointName command.firstTarget.position := by
  simp only [checkEntry, UrdfJointLimitCatalog.validate, Checks.unit_bind_ok,
    Checks.require_ok] at h
  obtain ⟨⟨hsingle, hlimits⟩, -⟩ := h
  have htarget : command.targets = [command.firstTarget] := by
    obtain ⟨target, htarget⟩ := List.length_eq_one_iff.mp hsingle
    simp [SimulationControlCommand.firstTarget, htarget]
  split at hlimits
  · cases hlimits
  · cases hlimits
  · next lower upper proper hjoint =>
    simp only [Checks.unit_bind_ok, Checks.require_ok, not_lt] at hlimits
    exact ⟨htarget, hlimits.1, lower, upper, proper, hjoint, hlimits.2.1, hlimits.2.2⟩

/-- What controller evidence that passes the checks satisfies. -/
theorem ready_of_evidence (hreviewed : snapshot.controllerName.text = positionControllerName)
    (h : checkEvidence command snapshot nowNs = .ok sample) :
    Ready command command.firstTarget.jointName snapshot sample nowNs := by
  simp only [checkEvidence, Checks.unit_bind_ok, Checks.require_ok] at h
  obtain ⟨hissued, hexpires, hfresh, hhardware, -, hcontroller, hbroadcaster, hsubscribed,
    hstate⟩ := h
  split at hstate
  · cases hstate
  · next before hbefore =>
    simp only [Checks.unit_bind_ok, Checks.require_ok, Checks.pure_ok] at hstate
    obtain ⟨hjoint, hfreshState, rfl⟩ := hstate
    exact ⟨⟨hissued, hexpires⟩, hreviewed, hfresh, hhardware, hcontroller, hbroadcaster,
      hsubscribed, ⟨hbefore, hjoint⟩, hfreshState⟩

/-- The failure names the command. -/
def Names (command : SimulationControlCommand) (failure : ControlFailure) : Prop :=
  failure.command = some command

/-- A check whose failure names the command. -/
theorem names_require {condition : Prop} [Decidable condition] {failure : ControlFailure}
    (h : Names command failure) : RaisesOnly (Names command) (require condition failure) := by
  intro raised hraised
  obtain ⟨-, rfl⟩ := Checks.require_error.mp hraised
  exact h

/-- The failures of the joint limits name the command. -/
theorem names_validate : RaisesOnly (Names command) (limits.validate float command) := by
  refine RaisesOnly.bind (names_require rfl) fun _ _ => ?_
  dsimp only
  split
  · rintro failure ⟨⟩
    rfl
  · rintro failure ⟨⟩
    rfl
  · refine RaisesOnly.bind (names_require rfl) fun _ _ => ?_
    refine RaisesOnly.bind (names_require rfl) fun _ _ => ?_
    exact names_require rfl

/-- The failures before the first call name the command. -/
theorem names_checkEntry : RaisesOnly (Names command) (checkEntry float limits command nowNs) := by
  refine RaisesOnly.bind names_validate fun _ _ => ?_
  refine RaisesOnly.bind (names_require rfl) fun _ _ => ?_
  exact names_require rfl

/-- The failures of the controller evidence name the command. -/
theorem names_checkEvidence :
    RaisesOnly (Names command) (checkEvidence command snapshot nowNs) := by
  refine RaisesOnly.bind (names_require rfl) fun _ _ => ?_
  refine RaisesOnly.bind (names_require rfl) fun _ _ => ?_
  refine RaisesOnly.bind (names_require rfl) fun _ _ => ?_
  refine RaisesOnly.bind (names_require rfl) fun _ _ => ?_
  refine RaisesOnly.bind (names_require rfl) fun _ _ => ?_
  refine RaisesOnly.bind (names_require rfl) fun _ _ => ?_
  refine RaisesOnly.bind (names_require rfl) fun _ _ => ?_
  refine RaisesOnly.bind (names_require rfl) fun _ _ => ?_
  dsimp only
  split
  · rintro failure ⟨⟩
    rfl
  · refine RaisesOnly.bind (names_require rfl) fun _ _ => ?_
    refine RaisesOnly.bind (names_require rfl) fun _ _ => ?_
    exact RaisesOnly.of_ok rfl

end Checks

section Results

variable {p : Platform} {float : FloatRuntime} {command : SimulationControlCommand}

/-- A rejected result whose evidence fits together passes the checks. -/
theorem check_rejected {failure : ControlFailure} {accepted dispatched observed changed : Bool}
    {initial final : Option Rat} {observedAtNs : Option Nat}
    (hcommand : failure.command = some command)
    (hchain : SkipsNothing [accepted, dispatched, observed, changed, false])
    (hinitial : accepted = initial.isSome)
    (hobserved : observed = final.isSome ∧ observed = observedAtNs.isSome)
    (htime : ∀ time ∈ observedAtNs, command.issuedAtNs ≤ time) :
    (rejected command failure accepted dispatched observed changed initial final
      observedAtNs).check p float = .ok () := by
  have hid : failure.commandId p float = some (command.commandId p float) := by
    rw [ControlFailure.commandId, hcommand, Option.map_some]
  have hfinal : (rejected command failure accepted dispatched observed changed initial final
      observedAtNs).checkRejected p float = .ok () :=
    Checks.unit_bind_ok.mpr ⟨Checks.require_ok.mpr ⟨rfl, rfl⟩, Checks.require_ok.mpr hid⟩
  exact Checks.unit_bind_ok.mpr ⟨Checks.require_ok.mpr hchain, Checks.unit_bind_ok.mpr
    ⟨Checks.require_ok.mpr hinitial, Checks.unit_bind_ok.mpr ⟨Checks.require_ok.mpr hobserved,
      Checks.unit_bind_ok.mpr ⟨Checks.require_ok.mpr htime, hfinal⟩⟩⟩⟩

/-- A refusal before the boundary passes the checks. -/
theorem check_refused {failure : ControlFailure} (hcommand : failure.command = some command) :
    (refused command failure).check p float = .ok () :=
  check_rejected hcommand (by decide) rfl ⟨rfl, rfl⟩ (by rintro time ⟨⟩)

/-- A rejection with the initial position, before or after the dispatch, passes the checks. -/
theorem check_boundary {failure : ControlFailure} {dispatched : Bool} {initial : Rat}
    (hcommand : failure.command = some command) :
    (rejected command failure true dispatched false false (some initial) none none).check p float =
      .ok () := by
  have hchain : SkipsNothing [true, dispatched, false, false, false] := by
    cases dispatched <;> decide
  exact check_rejected hcommand hchain rfl ⟨rfl, rfl⟩ (by rintro time ⟨⟩)

/-- A program that settles a result with consistent fields returns it without a call. -/
theorem runs_settle {fields : ResultFields} (hcheck : fields.check p float = .ok ())
    {events : List ControlEvent}
    {outcome : Except ControlValidationError (SimulationControlResult p float)} :
    Runs (settle p float fields) events outcome ↔ events = [] ∧ outcome = .ok ⟨fields, hcheck⟩ := by
  have hmake : makeResult p float fields = .ok ⟨fields, hcheck⟩ :=
    Checks.construct_ok.mpr ⟨hcheck, rfl⟩
  rw [settle, runs_done, hmake]
  exact and_congr_right fun _ => eq_comm

end Results

section Phases

variable {p : Platform} {float : FloatRuntime} {adapter : SimulationControlAdapter}
  {command : SimulationControlCommand} {sample : JointStateSample} {dispatchNowNs : Int}
  {events : List ControlEvent}
  {outcome : Except ControlValidationError (SimulationControlResult p float)}

/-- The part of an execution before a dispatch that never comes. -/
structure Quiet (events : List ControlEvent)
    (outcome : Except ControlValidationError (SimulationControlResult p float)) : Prop where
  /-- Nothing is dispatched. -/
  silent : ∀ event ∈ events, isDispatch event = false
  /-- A result is a rejection that reports no dispatch. -/
  result : ∀ result, outcome = .ok result →
    result.status = .rejected ∧ result.controllerDispatched = false
  /-- An exception is due to an answer. -/
  raised : ∀ error, outcome = .error error → InvalidAnswer events

/-- The part of an execution after an accepted dispatch. -/
structure Awaited (float : FloatRuntime) (adapter : SimulationControlAdapter)
    (command : SimulationControlCommand) (sample : JointStateSample) (dispatchNowNs : Int)
    (events : List ControlEvent)
    (outcome : Except ControlValidationError (SimulationControlResult p float)) : Prop where
  /-- Nothing more is dispatched. -/
  silent : ∀ event ∈ events, isDispatch event = false
  /-- A result reports the dispatch. -/
  reported : ∀ result, outcome = .ok result → result.controllerDispatched = true
  /-- A completed result rests on confirming feedback. -/
  confirmed : ∀ result, outcome = .ok result → result.status = .completed →
    ∃ feedback feedbackNowNs,
      Confirmed float adapter command.firstTarget sample feedback dispatchNowNs feedbackNowNs ∧
      events = [⟨.waitForFeedback command.firstTarget.jointName sample.sequence
          command.firstTarget.position adapter.positionTolerance adapter.feedbackTimeoutNs,
          some feedback⟩, ⟨.simulationTimeNs, feedbackNowNs⟩]
  /-- An exception is due to an answer. -/
  raised : ∀ error, outcome = .error error → InvalidAnswer events

/-- A rejection that reports the dispatch confirms nothing. -/
theorem awaited_of_rejected {fields : ResultFields} (hcheck : fields.check p float = .ok ())
    (hstatus : fields.status = .rejected) (hreported : fields.controllerDispatched = true)
    (hsilent : ∀ event ∈ events, isDispatch event = false) :
    Awaited float adapter command sample dispatchNowNs events
      (.ok (⟨fields, hcheck⟩ : SimulationControlResult p float)) where
  silent := hsilent
  reported := by
    rintro result ⟨⟩
    exact hreported
  confirmed := by
    rintro result ⟨⟩ hcompleted
    exact absurd (hstatus.symm.trans hcompleted) (by decide)
  raised := by
    rintro error ⟨⟩

/-- A rejection that reports no dispatch is quiet. -/
theorem quiet_of_rejected {fields : ResultFields} (hcheck : fields.check p float = .ok ())
    (hstatus : fields.status = .rejected) (hreported : fields.controllerDispatched = false)
    (hsilent : ∀ event ∈ events, isDispatch event = false) :
    Quiet events (.ok (⟨fields, hcheck⟩ : SimulationControlResult p float)) where
  silent := hsilent
  result := by
    rintro result ⟨⟩
    exact ⟨hstatus, hreported⟩
  raised := by
    rintro error ⟨⟩

/-- The verdict on timely feedback passes the checks of the result. -/
theorem check_verdict {feedback : JointStateSample} (hissued : command.issuedAtNs ≤ dispatchNowNs)
    (hobserved : dispatchNowNs ≤ feedback.observedAtNs) :
    (verdict float adapter command sample feedback).check p float = .ok () := by
  have htime : ∀ time ∈ some feedback.observedAtNs, command.issuedAtNs ≤ time := by
    intro time htime
    cases htime
    omega
  have hrejected : ∀ changed : Bool, SkipsNothing [true, true, true, changed, false] := by decide
  have hcompleted : SkipsNothing [true, true, true, true, true] := by decide
  have hflags : ∀ flag ∈ [true, true, true, true, true], flag = true := by decide
  unfold verdict
  dsimp only
  split
  · exact check_rejected rfl (hrejected _) rfl ⟨rfl, rfl⟩ htime
  · refine Checks.unit_bind_ok.mpr ⟨Checks.require_ok.mpr hcompleted, ?_⟩
    refine Checks.unit_bind_ok.mpr ⟨Checks.require_ok.mpr rfl, ?_⟩
    refine Checks.unit_bind_ok.mpr ⟨Checks.require_ok.mpr ⟨rfl, rfl⟩, ?_⟩
    refine Checks.unit_bind_ok.mpr ⟨Checks.require_ok.mpr htime, ?_⟩
    exact Checks.unit_bind_ok.mpr ⟨Checks.require_ok.mpr ⟨rfl, hflags⟩,
      Checks.require_ok.mpr ⟨rfl, rfl, rfl⟩⟩

/-- The verdict reports the dispatch. -/
theorem verdict_controllerDispatched {feedback : JointStateSample} :
    (verdict float adapter command sample feedback).controllerDispatched = true := by
  unfold verdict
  dsimp only
  split <;> rfl

/-- A completed verdict rests on an observable change that reached the target. -/
theorem motion_of_verdict {feedback : JointStateSample}
    (h : (verdict float adapter command sample feedback).status = .completed) :
    (minimumObservableChange : WithTop Rat) ≤ float.distance feedback.position sample.position ∧
      float.distance feedback.position command.firstTarget.position ≤
        (adapter.positionTolerance : WithTop Rat) := by
  unfold verdict at h
  dsimp only at h
  split at h
  · cases h
  · next hmotion =>
    rw [not_or, Bool.not_eq_false, Bool.not_eq_false, decide_eq_true_eq, decide_eq_true_eq]
      at hmotion
    exact hmotion

/-- The feedback part of an execution. -/
theorem runs_awaitFeedback (hissued : command.issuedAtNs ≤ dispatchNowNs)
    (h : Runs (awaitFeedback p float adapter command sample dispatchNowNs) events outcome) :
    Awaited float adapter command sample dispatchNowNs events outcome := by
  obtain ⟨answer, rest, rfl, hanswered⟩ := runs_ask.mp h
  cases answer with
  | none =>
    obtain ⟨rfl, rfl⟩ := (runs_settle (check_boundary rfl)).mp hanswered
    refine awaited_of_rejected _ rfl rfl fun event hmem => ?_
    rw [List.mem_singleton.mp hmem]
    rfl
  | some feedback =>
    rcases runs_ite.mp hanswered with ⟨hwrong, hdone⟩ | ⟨hright, hcorrelated⟩
    · obtain ⟨rfl, rfl⟩ := runs_done.mp hdone
      constructor
      · intro event hmem
        rw [List.mem_singleton.mp hmem]
        rfl
      · rintro result ⟨⟩
      · rintro result ⟨⟩
      · intro error herror
        exact Or.inr ⟨_, _, _, _, _, feedback, List.mem_singleton.mpr rfl, hwrong⟩
    · rw [not_or, not_not, not_le] at hright
      obtain ⟨(feedbackNowNs : Int), later, rfl, htimed⟩ := runs_ask.mp hcorrelated
      have hsilent : later = [] → ∀ event ∈ (⟨.waitForFeedback command.firstTarget.jointName
          sample.sequence command.firstTarget.position adapter.positionTolerance
          adapter.feedbackTimeoutNs, some feedback⟩ : ControlEvent) ::
            ⟨.simulationTimeNs, feedbackNowNs⟩ :: later, isDispatch event = false := by
        rintro rfl event hmem
        simp only [List.mem_cons, List.not_mem_nil, or_false] at hmem
        rcases hmem with rfl | rfl <;> rfl
      rcases runs_ite.mp htimed with ⟨hnegative, hdone⟩ | ⟨-, hclocked⟩
      · obtain ⟨rfl, rfl⟩ := runs_done.mp hdone
        constructor
        · exact hsilent rfl
        · rintro result ⟨⟩
        · rintro result ⟨⟩
        · intro error herror
          exact Or.inl ⟨feedbackNowNs, hnegative, by simp⟩
      · rcases runs_ite.mp hclocked with ⟨hstale, hdone⟩ | ⟨htimely, hdone⟩
        · obtain ⟨rfl, rfl⟩ := (runs_settle (check_boundary rfl)).mp hdone
          exact awaited_of_rejected _ rfl rfl (hsilent rfl)
        · rw [not_not] at htimely
          obtain ⟨rfl, rfl⟩ := (runs_settle (check_verdict hissued htimely.1)).mp hdone
          constructor
          · exact hsilent rfl
          · rintro result ⟨⟩
            exact verdict_controllerDispatched
          · rintro result ⟨⟩ hcompleted
            have hmotion := motion_of_verdict hcompleted
            exact ⟨feedback, feedbackNowNs,
              ⟨hright.1, hright.2, htimely, hmotion.1, hmotion.2⟩, rfl⟩
          · rintro error ⟨⟩

end Phases

section Executions

variable {p : Platform} {float : FloatRuntime} {adapter : SimulationControlAdapter}
  {command : SimulationControlCommand} {sample : JointStateSample} {nowNs dispatchNowNs : Int}
  {events : List ControlEvent}
  {outcome : Except ControlValidationError (SimulationControlResult p float)}

/-- The dispatch of the target with its answer. -/
def dispatchEvent (p : Platform) (float : FloatRuntime) (command : SimulationControlCommand)
    (accepted : Bool) : ControlEvent :=
  ⟨.dispatchPosition command.firstTarget.jointName command.firstTarget.position
    (command.commandId p float), accepted⟩

/-- The part of an execution from the dispatch on. -/
structure Answered (adapter : SimulationControlAdapter) (command : SimulationControlCommand)
    (sample : JointStateSample) (dispatchNowNs : Int) (accepted : Bool)
    (rest : List ControlEvent)
    (outcome : Except ControlValidationError (SimulationControlResult p float)) : Prop where
  /-- A refused position is not followed by anything. -/
  refused : accepted = false → Quiet rest outcome
  /-- An accepted position is followed by feedback. -/
  accepted : accepted = true → Awaited float adapter command sample dispatchNowNs rest outcome

/-- The dispatch part of an execution. -/
theorem runs_dispatch (hissued : command.issuedAtNs ≤ dispatchNowNs)
    (h : Runs (dispatch p float adapter command sample dispatchNowNs) events outcome) :
    Quiet events outcome ∨ ∃ accepted rest,
      events = ⟨.isCurrent command, true⟩ :: dispatchEvent p float command accepted :: rest ∧
        Answered adapter command sample dispatchNowNs accepted rest outcome := by
  obtain ⟨(current : Bool), asked, rfl, hanswered⟩ := runs_ask.mp h
  rcases runs_ite.mp hanswered with ⟨-, hdone⟩ | ⟨hcurrent, hallowed⟩
  · obtain ⟨rfl, rfl⟩ := (runs_settle (check_boundary rfl)).mp hdone
    refine Or.inl (quiet_of_rejected _ rfl rfl fun event hmem => ?_)
    rw [List.mem_singleton.mp hmem]
    rfl
  · rw [Bool.not_eq_false] at hcurrent
    subst hcurrent
    obtain ⟨(accepted : Bool), rest, rfl, hdispatched⟩ := runs_ask.mp hallowed
    refine Or.inr ⟨accepted, rest, rfl, ?_⟩
    rcases runs_ite.mp hdispatched with ⟨hrefused, hdone⟩ | ⟨haccepted, hwaiting⟩
    · obtain ⟨rfl, rfl⟩ := (runs_settle (check_boundary rfl)).mp hdone
      constructor
      · intro _
        exact quiet_of_rejected _ rfl rfl fun event hmem => absurd hmem List.not_mem_nil
      · intro haccepted
        exact absurd (hrefused.symm.trans haccepted) (by decide)
    · constructor
      · intro hrefused
        exact absurd hrefused haccepted
      · intro _
        exact runs_awaitFeedback hissued hwaiting

/-- The calls of an execution up to the dispatch. -/
def callsBefore (command : SimulationControlCommand) (snapshot : ControllerSnapshot)
    (dispatchNowNs : Int) : List ControlEvent :=
  [⟨.isCurrent command, true⟩, ⟨.snapshot command.firstTarget.jointName, snapshot⟩,
    ⟨.simulationTimeNs, dispatchNowNs⟩, ⟨.isCurrent command, true⟩]

/-- An execution that comes to its dispatch on current evidence. -/
def Dispatches (adapter : SimulationControlAdapter) (command : SimulationControlCommand)
    (events : List ControlEvent)
    (outcome : Except ControlValidationError (SimulationControlResult p float)) : Prop :=
  ∃ snapshot sample dispatchNowNs accepted rest,
    events = callsBefore command snapshot dispatchNowNs ++
      dispatchEvent p float command accepted :: rest ∧
    Ready command command.firstTarget.jointName snapshot sample dispatchNowNs ∧
    Answered adapter command sample dispatchNowNs accepted rest outcome

/-- The evidence part of an execution. -/
theorem runs_gatherEvidence (h : Runs (gatherEvidence p float adapter command) events outcome) :
    (∀ current, Quiet (⟨.isCurrent command, current⟩ :: events) outcome) ∨
      Dispatches adapter command (⟨.isCurrent command, true⟩ :: events) outcome := by
  obtain ⟨(snapshot : ControllerSnapshot), asked, rfl, hanswered⟩ := runs_ask.mp h
  rcases runs_ite.mp hanswered with ⟨-, hdone⟩ | ⟨hreviewed, hknown⟩
  · obtain ⟨rfl, rfl⟩ := (runs_settle (check_refused rfl)).mp hdone
    refine Or.inl fun current => quiet_of_rejected _ rfl rfl fun event hmem => ?_
    simp only [List.mem_cons, List.not_mem_nil, or_false] at hmem
    rcases hmem with rfl | rfl <;> rfl
  · rw [not_not] at hreviewed
    obtain ⟨(dispatchNowNs : Int), rest, rfl, htimed⟩ := runs_ask.mp hknown
    have hsilent : ∀ (current : Bool) (others : List ControlEvent),
        (∀ event ∈ others, isDispatch event = false) → ∀ event ∈
          (⟨.isCurrent command, current⟩ : ControlEvent) ::
            ⟨.snapshot command.firstTarget.jointName, snapshot⟩ ::
              ⟨.simulationTimeNs, dispatchNowNs⟩ :: others, isDispatch event = false := by
      intro current others hothers event hmem
      simp only [List.mem_cons] at hmem
      rcases hmem with rfl | rfl | rfl | hmem
      · rfl
      · rfl
      · rfl
      · exact hothers event hmem
    have hnone : ∀ event ∈ ([] : List ControlEvent), isDispatch event = false := by simp
    rcases runs_ite.mp htimed with ⟨hnegative, hdone⟩ | ⟨-, hclocked⟩
    · obtain ⟨rfl, rfl⟩ := runs_done.mp hdone
      refine Or.inl fun current => ⟨hsilent current [] hnone, ?_, ?_⟩
      · rintro result ⟨⟩
      · intro error herror
        exact Or.inl ⟨dispatchNowNs, hnegative, by simp⟩
    · cases hchecks : checkEvidence command snapshot dispatchNowNs with
      | error failure =>
        rw [hchecks] at hclocked
        have hcommand : Names command failure := names_checkEvidence failure hchecks
        obtain ⟨rfl, rfl⟩ := (runs_settle (check_refused hcommand)).mp hclocked
        exact Or.inl fun current => quiet_of_rejected _ rfl rfl (hsilent current [] hnone)
      | ok sample =>
        rw [hchecks] at hclocked
        have hready := ready_of_evidence hreviewed hchecks
        rcases runs_dispatch hready.current.1 hclocked with hquiet | ⟨accepted, later, rfl, hlater⟩
        · refine Or.inl fun current => ⟨hsilent current rest hquiet.silent, hquiet.result, ?_⟩
          intro error herror
          exact (hquiet.raised error herror).mono fun event hmem => by simp [hmem]
        · exact Or.inr ⟨snapshot, sample, dispatchNowNs, accepted, later, rfl, hready, hlater⟩

/-- An execution is quiet or comes to its dispatch, unless the time is invalid. -/
theorem runs_execute (h : Runs (execute p float adapter command nowNs) events outcome) :
    (nowNs < 0 ∧ events = [] ∧ ∃ error, outcome = .error error) ∨ Quiet events outcome ∨
      Allowed adapter.limits command command.firstTarget.jointName command.firstTarget.position ∧
        Dispatches adapter command events outcome := by
  rcases runs_ite.mp h with ⟨hinvalid, hdone⟩ | ⟨-, hvalid⟩
  · obtain ⟨rfl, rfl⟩ := runs_done.mp hdone
    exact Or.inl ⟨hinvalid, rfl, _, rfl⟩
  · refine Or.inr ?_
    cases hentry : checkEntry float adapter.limits command nowNs with
    | error failure =>
      rw [hentry] at hvalid
      obtain ⟨rfl, rfl⟩ :=
        (runs_settle (check_refused (names_checkEntry failure hentry))).mp hvalid
      exact Or.inl (quiet_of_rejected _ rfl rfl fun event hmem => absurd hmem List.not_mem_nil)
    | ok u =>
      rw [hentry] at hvalid
      obtain ⟨(current : Bool), rest, rfl, hanswered⟩ := runs_ask.mp hvalid
      rcases runs_ite.mp hanswered with ⟨-, hdone⟩ | ⟨hcurrent, hgathering⟩
      · obtain ⟨rfl, rfl⟩ := (runs_settle (check_refused rfl)).mp hdone
        refine Or.inl (quiet_of_rejected _ rfl rfl fun event hmem => ?_)
        rw [List.mem_singleton.mp hmem]
        rfl
      · rw [Bool.not_eq_false] at hcurrent
        subst hcurrent
        rcases runs_gatherEvidence hgathering with hquiet | hdispatches
        · exact Or.inl (hquiet true)
        · exact Or.inr ⟨allowed_of_entry hentry, hdispatches⟩

end Executions

section Soundness

variable {p : Platform} {float : FloatRuntime} {adapter : SimulationControlAdapter}
  {command : SimulationControlCommand} {nowNs : Int} {events : List ControlEvent}
  {outcome : Except ControlValidationError (SimulationControlResult p float)}

/-- A position was dispatched and accepted. -/
def DispatchedIn (events : List ControlEvent) : Prop :=
  ∃ jointName position commandId,
    (⟨.dispatchPosition jointName position commandId, true⟩ : ControlEvent) ∈ events

/-- An execution dispatches at most once, with reason, and reports what happened. -/
structure ExecutionSound (adapter : SimulationControlAdapter) (command : SimulationControlCommand)
    (nowNs : Int) (events : List ControlEvent)
    (outcome : Except ControlValidationError (SimulationControlResult p float)) : Prop where
  /-- There is at most one dispatch. -/
  once : events.countP isDispatch ≤ 1
  /-- A dispatch is of the target within its limits, on current authority and fresh evidence. -/
  justified : ∀ past jointName position commandId accepted rest,
    events = past ++ ⟨.dispatchPosition jointName position commandId, accepted⟩ :: rest →
      Allowed adapter.limits command jointName position ∧
      commandId = command.commandId p float ∧
      ∃ snapshot sample dispatchNowNs, past = callsBefore command snapshot dispatchNowNs ∧
        Ready command jointName snapshot sample dispatchNowNs
  /-- A completed result rests on a dispatch and on confirming feedback after it. -/
  completed : ∀ result, outcome = .ok result → result.status = .completed →
    ∃ snapshot sample dispatchNowNs feedback feedbackNowNs,
      events = callsBefore command snapshot dispatchNowNs ++
        [dispatchEvent p float command true,
          ⟨.waitForFeedback command.firstTarget.jointName sample.sequence
            command.firstTarget.position adapter.positionTolerance adapter.feedbackTimeoutNs,
            some feedback⟩,
          ⟨.simulationTimeNs, feedbackNowNs⟩] ∧
      Ready command command.firstTarget.jointName snapshot sample dispatchNowNs ∧
      Confirmed float adapter command.firstTarget sample feedback dispatchNowNs feedbackNowNs
  /-- A result reports a dispatch exactly when one was accepted. -/
  recorded : ∀ result, outcome = .ok result →
    (result.controllerDispatched = true ↔ DispatchedIn events)
  /-- A result passes its own checks. -/
  consistent : ∀ result, outcome = .ok result → result.check p float = .ok ()
  /-- An exception is due to an invalid time or to an invalid answer. -/
  raised : ∀ error, outcome = .error error → nowNs < 0 ∨ InvalidAnswer events

/-- An execution that dispatches nothing and completes nothing is sound. -/
theorem sound_of_silent (hsilent : ∀ event ∈ events, isDispatch event = false)
    (hresult : ∀ result, outcome = .ok result →
      result.status = .rejected ∧ result.controllerDispatched = false)
    (hraised : ∀ error, outcome = .error error → nowNs < 0 ∨ InvalidAnswer events) :
    ExecutionSound adapter command nowNs events outcome where
  once := by
    have hnone : events.countP isDispatch = 0 := by
      rw [List.countP_eq_zero]
      intro event hmem
      simp [hsilent event hmem]
    omega
  justified := by
    intro past jointName position commandId accepted rest hevents
    have hmem : ⟨.dispatchPosition jointName position commandId, accepted⟩ ∈ events := by
      simp [hevents]
    exact absurd (hsilent _ hmem) (by simp [isDispatch])
  completed := by
    intro result hresulted hcompleted
    have hrejected := (hresult result hresulted).1
    exact absurd (hrejected.symm.trans hcompleted) (by decide)
  recorded := by
    intro result hresulted
    have hunreported := (hresult result hresulted).2
    constructor
    · intro hreported
      exact absurd (hunreported.symm.trans hreported) (by decide)
    · rintro ⟨jointName, position, commandId, hmem⟩
      exact absurd (hsilent _ hmem) (by simp [isDispatch])
  consistent := fun result _ => result.checked
  raised := hraised

/-- The calls before the dispatch dispatch nothing. -/
theorem isDispatch_callsBefore (command : SimulationControlCommand)
    (snapshot : ControllerSnapshot) (dispatchNowNs : Int) :
    ∀ event ∈ callsBefore command snapshot dispatchNowNs, isDispatch event = false := by
  intro event hmem
  simp only [callsBefore, List.mem_cons, List.not_mem_nil, or_false] at hmem
  rcases hmem with rfl | rfl | rfl | rfl <;> rfl

/-- The events after a dispatch dispatch nothing more. -/
theorem Answered.silent {sample : JointStateSample} {dispatchNowNs : Int} {accepted : Bool}
    {rest : List ControlEvent}
    (h : Answered adapter command sample dispatchNowNs accepted rest outcome) :
    ∀ event ∈ rest, isDispatch event = false := by
  cases haccepted : accepted with
  | false => exact (h.refused haccepted).silent
  | true => exact (h.accepted haccepted).silent

/-- An execution that comes to its dispatch is sound. -/
theorem sound_of_dispatches
    (hallowed : Allowed adapter.limits command command.firstTarget.jointName
      command.firstTarget.position)
    (h : Dispatches adapter command events outcome) :
    ExecutionSound adapter command nowNs events outcome := by
  obtain ⟨snapshot, sample, dispatchNowNs, accepted, rest, rfl, hready, hanswered⟩ := h
  have hbefore := isDispatch_callsBefore command snapshot dispatchNowNs
  have hafter := hanswered.silent
  -- a dispatch is none of the other events
  have honly : ∀ event, isDispatch event = true →
      event ∉ callsBefore command snapshot dispatchNowNs ∧ event ∉ rest := by
    intro event hdispatch
    constructor
    · intro hmem
      rw [hbefore event hmem] at hdispatch
      cases hdispatch
    · intro hmem
      rw [hafter event hmem] at hdispatch
      cases hdispatch
  constructor
  · have hcountBefore : (callsBefore command snapshot dispatchNowNs).countP isDispatch = 0 := by
      rw [List.countP_eq_zero]
      intro event hmem
      simp [hbefore event hmem]
    have hcountAfter : rest.countP isDispatch = 0 := by
      rw [List.countP_eq_zero]
      intro event hmem
      simp [hafter event hmem]
    rw [List.countP_append, List.countP_cons, hcountBefore, hcountAfter]
    split <;> omega
  · intro past jointName position commandId answer later hevents
    obtain ⟨hnotBefore, hnotAfter⟩ :=
      honly ⟨.dispatchPosition jointName position commandId, answer⟩ rfl
    obtain ⟨rfl, hevent, rfl⟩ :=
      (List.append_cons_inj_of_notMem hnotBefore hnotAfter).mp hevents
    rw [dispatchEvent] at hevent
    cases hevent
    exact ⟨hallowed, rfl, snapshot, sample, dispatchNowNs, rfl, hready⟩
  · intro result hresult hcompleted
    cases haccepted : accepted with
    | false =>
      have hrejected := ((hanswered.refused haccepted).result result hresult).1
      exact absurd (hrejected.symm.trans hcompleted) (by decide)
    | true =>
      obtain ⟨feedback, feedbackNowNs, hconfirmed, rfl⟩ :=
        (hanswered.accepted haccepted).confirmed result hresult hcompleted
      exact ⟨snapshot, sample, dispatchNowNs, feedback, feedbackNowNs, rfl, hready, hconfirmed⟩
  · intro result hresult
    cases haccepted : accepted with
    | false =>
      have hunreported := ((hanswered.refused haccepted).result result hresult).2
      constructor
      · intro hreported
        exact absurd (hunreported.symm.trans hreported) (by decide)
      · rintro ⟨jointName, position, commandId, hmem⟩
        have hothers := honly ⟨.dispatchPosition jointName position commandId, true⟩ rfl
        rw [List.mem_append, List.mem_cons] at hmem
        rcases hmem with hmem | hmem | hmem
        · exact absurd hmem hothers.1
        · rw [dispatchEvent] at hmem
          cases hmem
        · exact absurd hmem hothers.2
    | true =>
      have hreported := (hanswered.accepted haccepted).reported result hresult
      refine ⟨fun _ => ⟨_, _, _, List.mem_append_right _ List.mem_cons_self⟩, fun _ => hreported⟩
  · intro result _
    exact result.checked
  · intro error herror
    refine Or.inr ?_
    have hlater : InvalidAnswer rest := by
      cases haccepted : accepted with
      | false => exact (hanswered.refused haccepted).raised error herror
      | true => exact (hanswered.accepted haccepted).raised error herror
    exact hlater.mono fun event hmem => by simp [hmem]

/-- Under every behaviour of the gateway and the authority an execution is sound. -/
theorem execute_sound (p : Platform) (float : FloatRuntime) (adapter : SimulationControlAdapter)
    (command : SimulationControlCommand) (nowNs : Int)
    (respond : List ControlEvent → (call : Call) → Answer call) :
    ExecutionSound adapter command nowNs
      (run respond (execute p float adapter command nowNs) []).1
      (run respond (execute p float adapter command nowNs) []).2 := by
  have hrun := runs_run respond (execute p float adapter command nowNs) []
  rcases runs_execute hrun with ⟨hinvalid, hevents, error, houtcome⟩ | hquiet | ⟨hallowed, hevents⟩
  · apply sound_of_silent
    · rw [hevents]
      intro event hmem
      exact absurd hmem List.not_mem_nil
    · intro result hresult
      rw [houtcome] at hresult
      cases hresult
    · exact fun _ _ => Or.inl hinvalid
  · exact sound_of_silent hquiet.silent hquiet.result fun error herror =>
      Or.inr (hquiet.raised error herror)
  · exact sound_of_dispatches hallowed hevents

end Soundness

end Simulation
end AyyoHumanoid
