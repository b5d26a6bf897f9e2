import AyyoHumanoid.DemonstrationVerification

/-!
# Runs of a capture session

A caller appends events and finishes, in any order and with any failures in
between. A call that raises changes nothing, one finish at most succeeds, and the
episode it seals holds the accepted events and passes verification.
-/

namespace AyyoHumanoid
namespace Teach

open PyText

section Runs

variable {nfc : Nfc}

/-- A call on a capture session; an argument of another type is `none`. -/
inductive CaptureCall (nfc : Nfc) where
  | append (event : Option (DemonstrationEvent nfc))
  | finish (outcome : Option (DemonstrationOutcome nfc))

/-- What a call returns. -/
inductive CaptureReply (nfc : Nfc) where
  /-- `append` returns nothing; the accepted event is recorded here. -/
  | appended (event : DemonstrationEvent nfc)
  /-- `finish` returns its result. -/
  | captured (result : DemonstrationCaptureResult nfc)

variable (p : Platform)

namespace DemonstrationCaptureSession

/-- A call: what it returns or raises, and the session after it. -/
def perform (session : DemonstrationCaptureSession nfc) :
    CaptureCall nfc → Except TeachRaised (CaptureReply nfc) × DemonstrationCaptureSession nfc
  | .append (some event) =>
    ((session.append event).1.map fun _ => .appended event, (session.append event).2)
  | .append none =>
    (.error (sessionError (if session.finished then py "a finished capture session is sealed"
      else py "capture accepts only typed events")), session)
  | .finish (some outcome) =>
    ((session.finish p outcome).1.map .captured, (session.finish p outcome).2)
  | .finish none =>
    (.error (sessionError (if session.finished then py "a capture session can finish only once"
      else py "capture requires one typed explicit outcome")), session)

/-- The session after calls. -/
def after (session : DemonstrationCaptureSession nfc) (calls : List (CaptureCall nfc)) :
    DemonstrationCaptureSession nfc :=
  calls.foldl (fun session call => (session.perform p call).2) session

/-- The replies of the calls that returned, in their order. -/
def replies : DemonstrationCaptureSession nfc → List (CaptureCall nfc) → List (CaptureReply nfc)
  | _, [] => []
  | session, call :: calls =>
    (session.perform p call).1.toOption.toList ++ replies (session.perform p call).2 calls

/-- The events that were accepted, in their order. -/
def accepted (session : DemonstrationCaptureSession nfc) (calls : List (CaptureCall nfc)) :
    List (DemonstrationEvent nfc) :=
  (session.replies p calls).filterMap fun reply =>
    match reply with
    | .appended event => some event
    | .captured _ => none

/-- The results of the calls of `finish` that succeeded, in their order. -/
def results (session : DemonstrationCaptureSession nfc) (calls : List (CaptureCall nfc)) :
    List (DemonstrationCaptureResult nfc) :=
  (session.replies p calls).filterMap fun reply =>
    match reply with
    | .appended _ => none
    | .captured result => some result

end DemonstrationCaptureSession

end Runs

section Steps

variable {nfc : Nfc} {p : Platform} {session : DemonstrationCaptureSession nfc}

namespace DemonstrationCaptureSession

/-- An event is refused and the session stays, or it is added to an open session. -/
theorem append_cases (session : DemonstrationCaptureSession nfc)
    (event : DemonstrationEvent nfc) :
    (∃ raised, session.append event = (.error raised, session)) ∨
      session.finished = false ∧
        session.append event = (.ok (), { session with events := session.events ++ [event] }) := by
  unfold append
  by_cases hfinished : session.finished = true
  · rw [if_pos hfinished]
    exact Or.inl ⟨_, rfl⟩
  · rw [if_neg hfinished]
    by_cases hbound : maxEventsPerEpisode ≤ session.events.length
    · rw [if_pos hbound]
      exact Or.inl ⟨_, rfl⟩
    · rw [if_neg hbound]
      by_cases hindex : event.sequenceIndex ≠ session.events.length
      · rw [if_pos hindex]
        exact Or.inl ⟨_, rfl⟩
      · rw [if_neg hindex]
        by_cases hknown : session.events.any (fun item => item.eventId = event.eventId) = true
        · rw [if_pos hknown]
          exact Or.inl ⟨_, rfl⟩
        · rw [if_neg hknown]
          exact Or.inr ⟨Bool.eq_false_iff.mpr hfinished, rfl⟩

/-- Finishing is refused and the session stays, or it seals the episode of an open session. -/
theorem finish_cases (session : DemonstrationCaptureSession nfc)
    (outcome : DemonstrationOutcome nfc) :
    (∃ raised, session.finish p outcome = (.error raised, session)) ∨
      session.finished = false ∧ ∃ episode,
        demonstrationEpisode p session.sourceKind session.robotId session.sourceTime
          session.provenance session.events outcome = .ok episode ∧
        session.finish p outcome =
          (.ok (captureResult p episode), { session with finished := true }) := by
  unfold finish
  by_cases hfinished : session.finished = true
  · rw [if_pos hfinished]
    exact Or.inl ⟨_, rfl⟩
  · rw [if_neg hfinished]
    by_cases hempty : session.events = []
    · rw [if_pos hempty]
      exact Or.inl ⟨_, rfl⟩
    · rw [if_neg hempty]
      cases hbuilt : demonstrationEpisode p session.sourceKind session.robotId
        session.sourceTime session.provenance session.events outcome with
      | error raised => exact Or.inl ⟨_, rfl⟩
      | ok episode => exact Or.inr ⟨Bool.eq_false_iff.mpr hfinished, episode, rfl, rfl⟩

/-- What a call can do: it raises and changes nothing, it adds its event to an open session, or
it seals an open session under the episode of its events. -/
theorem perform_cases (session : DemonstrationCaptureSession nfc) (call : CaptureCall nfc) :
    (∃ raised, session.perform p call = (.error raised, session)) ∨
      session.finished = false ∧
        ((∃ event, session.perform p call =
            (.ok (.appended event), { session with events := session.events ++ [event] })) ∨
          ∃ outcome episode,
            demonstrationEpisode p session.sourceKind session.robotId session.sourceTime
              session.provenance session.events outcome = .ok episode ∧
            session.perform p call =
              (.ok (.captured (captureResult p episode)), { session with finished := true })) := by
  cases call with
  | append event =>
    cases event with
    | none => exact Or.inl ⟨_, rfl⟩
    | some event =>
      cases append_cases session event with
      | inl hrefused =>
        obtain ⟨raised, h⟩ := hrefused
        refine Or.inl ⟨raised, ?_⟩
        rw [perform, h]
        rfl
      | inr hadded =>
        obtain ⟨hopen, h⟩ := hadded
        refine Or.inr ⟨hopen, Or.inl ⟨event, ?_⟩⟩
        rw [perform, h]
        rfl
  | finish outcome =>
    cases outcome with
    | none => exact Or.inl ⟨_, rfl⟩
    | some outcome =>
      cases finish_cases (p := p) session outcome with
      | inl hrefused =>
        obtain ⟨raised, h⟩ := hrefused
        refine Or.inl ⟨raised, ?_⟩
        rw [perform, h]
        rfl
      | inr hsealed =>
        obtain ⟨hopen, episode, hbuilt, h⟩ := hsealed
        refine Or.inr ⟨hopen, Or.inr ⟨outcome, episode, hbuilt, ?_⟩⟩
        rw [perform, h]
        rfl

/-- A call that raises leaves the session as it was. -/
theorem perform_error {call : CaptureCall nfc} {raised : TeachRaised}
    (h : (session.perform p call).1 = .error raised) : (session.perform p call).2 = session := by
  cases perform_cases (p := p) session call with
  | inl hrefused =>
    obtain ⟨_, hcall⟩ := hrefused
    rw [hcall]
  | inr hreturned =>
    obtain ⟨-, ⟨event, hcall⟩ | ⟨outcome, episode, -, hcall⟩⟩ := hreturned
    · rw [hcall] at h
      cases h
    · rw [hcall] at h
      cases h

/-- A sealed session refuses every call. -/
theorem perform_sealed (hsealed : session.finished = true) (call : CaptureCall nfc) :
    ∃ raised, session.perform p call = (.error raised, session) := by
  cases perform_cases (p := p) session call with
  | inl hrefused => exact hrefused
  | inr hreturned =>
    rw [hsealed] at hreturned
    cases hreturned.1

/-- A sealed session stays and gives no reply. -/
theorem replies_sealed (hsealed : session.finished = true) (calls : List (CaptureCall nfc)) :
    session.replies p calls = [] ∧ session.after p calls = session := by
  induction calls with
  | nil => exact ⟨rfl, rfl⟩
  | cons call calls ih =>
    obtain ⟨raised, hcall⟩ := perform_sealed (p := p) hsealed call
    constructor
    · rw [replies, hcall]
      exact ih.1
    · rw [after, List.foldl_cons, hcall]
      exact ih.2

/-- What a run of an open session has replied: accepted events that extend the session and,
when it was sealed, one result whose episode was built from all of them. -/
structure Ran (p : Platform) (start stop : DemonstrationCaptureSession nfc)
    (events : List (DemonstrationEvent nfc))
    (results : List (DemonstrationCaptureResult nfc)) : Prop where
  /-- The session holds the events it accepted. -/
  held : stop.events = start.events ++ events
  /-- An open session has no result. -/
  opened : stop.finished = false → results = []
  /-- A sealed session has one result, the episode of its events. -/
  sealed : stop.finished = true → ∃ outcome episode,
    results = [captureResult p episode] ∧
    demonstrationEpisode p start.sourceKind start.robotId start.sourceTime start.provenance
      stop.events outcome = .ok episode

/-- Every run of an open session accepts its events and seals at most one episode. -/
theorem ran (hopen : session.finished = false) (calls : List (CaptureCall nfc)) :
    Ran p session (session.after p calls) (session.accepted p calls)
      (session.results p calls) := by
  induction calls generalizing session with
  | nil =>
    exact ⟨(List.append_nil _).symm, fun _ => rfl, fun hsealed => by
      rw [after, List.foldl_nil, hopen] at hsealed
      cases hsealed⟩
  | cons call calls ih =>
    cases perform_cases (p := p) session call with
    | inl hrefused =>
      obtain ⟨raised, hcall⟩ := hrefused
      have hafter : session.after p (call :: calls) = session.after p calls := by
        rw [after, List.foldl_cons, hcall]
        rfl
      have hreplies : session.replies p (call :: calls) = session.replies p calls := by
        rw [replies, hcall]
        rfl
      rw [hafter, accepted, results, hreplies]
      exact ih hopen
    | inr hreturned =>
      obtain ⟨-, ⟨event, hcall⟩ | ⟨outcome, episode, hbuilt, hcall⟩⟩ := hreturned
      · have hafter : session.after p (call :: calls) =
            ({ session with events := session.events ++ [event] }).after p calls := by
          rw [after, List.foldl_cons, hcall]
          rfl
        have hreplies : session.replies p (call :: calls) = .appended event ::
            ({ session with events := session.events ++ [event] }).replies p calls := by
          rw [replies, hcall]
          rfl
        have hran := @ih { session with events := session.events ++ [event] } hopen
        rw [hafter, accepted, results, hreplies, List.filterMap_cons, List.filterMap_cons]
        constructor
        · rw [hran.held, List.append_assoc]
          rfl
        · exact hran.opened
        · exact hran.sealed
      · have hsealed := @replies_sealed nfc p { session with finished := true } rfl calls
        have hafter : session.after p (call :: calls) = { session with finished := true } := by
          rw [after, List.foldl_cons, hcall]
          exact hsealed.2
        have hreplies : session.replies p (call :: calls) =
            [.captured (captureResult p episode)] := by
          rw [replies, hcall, hsealed.1]
          rfl
        rw [hafter, accepted, results, hreplies]
        constructor
        · exact (List.append_nil _).symm
        · intro hfinished
          cases hfinished
        · intro _
          exact ⟨outcome, episode, rfl, hbuilt⟩

end DemonstrationCaptureSession

end Steps

section Agreement

variable {nfc : Nfc}

/-- In every run of a new capture session a call that raises leaves the session as it was, at most
one `finish` succeeds, every call after it raises, and the episode holds exactly the accepted
events in the order of their acceptance and is reported as verified. -/
theorem capture_verified (p : Platform) (sourceKind : Learning.DemonstrationSourceKind)
    (robotId : Json) (sourceTime : DemonstrationSourceTimeRange)
    (provenance : DemonstrationProvenance) (calls : List (CaptureCall nfc)) :
    let session := beginSession nfc sourceKind robotId sourceTime provenance
    (∀ before call later, calls = before ++ call :: later →
      ∀ raised, ((session.after p before).perform p call).1 = .error raised →
        ((session.after p before).perform p call).2 = session.after p before) ∧
    (session.results p calls).length ≤ 1 ∧
    (∀ before call later, calls = before ++ call :: later → session.results p before ≠ [] →
      ∃ raised, ((session.after p before).perform p call).1 = .error raised) ∧
    ∀ result ∈ session.results p calls,
      result.episode.events = session.accepted p calls ∧
      ∃ verification, verifyEpisode p result.episode = .ok verification ∧
        verification.verified = true ∧ verification.reasons = [] := by
  intro session
  have hran : ∀ calls, DemonstrationCaptureSession.Ran p session (session.after p calls)
      (session.accepted p calls) (session.results p calls) :=
    fun calls => DemonstrationCaptureSession.ran rfl calls
  refine ⟨?_, ?_, ?_, ?_⟩
  · intro before call later _ raised h
    exact DemonstrationCaptureSession.perform_error h
  · cases hfinished : (session.after p calls).finished with
    | false =>
      rw [(hran calls).opened hfinished]
      exact Nat.zero_le 1
    | true =>
      obtain ⟨outcome, episode, hresults, -⟩ := (hran calls).sealed hfinished
      rw [hresults]
      exact le_rfl
  · intro before call later _ hresults
    cases hfinished : (session.after p before).finished with
    | false => exact absurd ((hran before).opened hfinished) hresults
    | true =>
      obtain ⟨raised, hcall⟩ := DemonstrationCaptureSession.perform_sealed (p := p) hfinished call
      exact ⟨raised, by rw [hcall]⟩
  · intro result hresult
    cases hfinished : (session.after p calls).finished with
    | false =>
      rw [(hran calls).opened hfinished] at hresult
      cases hresult
    | true =>
      obtain ⟨outcome, episode, hresults, hbuilt⟩ := (hran calls).sealed hfinished
      rw [hresults, List.mem_singleton] at hresult
      have hevents : episode.events = (session.after p calls).events := by
        obtain ⟨name, -, -, -, hepisode⟩ := demonstrationEpisode_ok.mp hbuilt
        rw [← hepisode]
        rfl
      have hheld : (session.after p calls).events = session.accepted p calls :=
        (hran calls).held
      rw [hresult]
      refine ⟨hevents.trans hheld, _, verifyEpisode_built hbuilt, rfl, rfl⟩

end Agreement

end Teach
end AyyoHumanoid
