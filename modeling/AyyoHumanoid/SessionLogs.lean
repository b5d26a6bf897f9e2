import Mathlib.Data.List.Nodup

/-!
# Sessions of a component that admits evidence

A component is started, is offered items while it runs, and admits some of them.
A session runs from one start to the next and records the calls made in it, each
with its reply. The record is not kept by the component. When every call keeps
what has to hold of the component inside its session, every admission of a run
is good for its session and the times admitted in a session increase.
-/

namespace AyyoHumanoid
namespace SessionLogs

/-- A component with calls of type `κ` that reply with `ρ`, start `ι` and admit `ω`. -/
structure Component (σ κ ρ ι ω : Type) where
  /-- The state before any call. -/
  initial : σ
  /-- One call: the next state and the reply. -/
  perform : σ → κ → σ × ρ
  /-- The component runs. -/
  Running : σ → Prop
  /-- What a call in a state started, by its reply. -/
  started : σ → κ → ρ → Option ι
  /-- What a reply admits. -/
  admitted : ρ → Option ω
  /-- The time of an admission. -/
  time : ω → Nat
  /-- The time admitted last. -/
  last : σ → Option Nat

/-- A call, the state it was made in, and its reply. -/
structure Step (σ κ ρ : Type) where
  /-- The state before the call. -/
  before : σ
  call : κ
  reply : ρ

/-- What was started, and the calls since. -/
structure Session (σ κ ρ ι : Type) where
  /-- What was started. -/
  start : ι
  /-- The calls, the first first. -/
  steps : List (Step σ κ ρ)

/-- A component and its sessions, the latest first. -/
structure History (σ κ ρ ι : Type) where
  /-- The state of the component. -/
  state : σ
  sessions : List (Session σ κ ρ ι)

variable {σ κ ρ ι ω : Type}

/-- A session with one more call. -/
def Session.extend (session : Session σ κ ρ ι) (step : Step σ κ ρ) : Session σ κ ρ ι :=
  { session with steps := session.steps ++ [step] }

/-- The sessions after a call that starts none: it belongs to the latest. -/
def extendLatest (step : Step σ κ ρ) : List (Session σ κ ρ ι) → List (Session σ κ ρ ι)
  | [] => []
  | session :: earlier => session.extend step :: earlier

/-- The sessions after a call. -/
def recordStep (started : Option ι) (step : Step σ κ ρ) (sessions : List (Session σ κ ρ ι)) :
    List (Session σ κ ρ ι) :=
  match started with
  | some start => ⟨start, []⟩ :: sessions
  | none => extendLatest step sessions

namespace Component

variable (c : Component σ κ ρ ι ω)

/-- What was admitted in a session, in order. -/
def admissions (session : Session σ κ ρ ι) : List ω :=
  session.steps.filterMap fun step => c.admitted step.reply

/-- One call. -/
def call (history : History σ κ ρ ι) (call : κ) : History σ κ ρ ι :=
  let result := c.perform history.state call
  ⟨result.1, recordStep (c.started history.state call result.2) ⟨history.state, call, result.2⟩
    history.sessions⟩

/-- A run of calls. -/
def after (calls : List κ) : History σ κ ρ ι := calls.foldl c.call ⟨c.initial, []⟩

/-- What a call may do to a session: start one, go on in it, admit something in it, or end it. -/
inductive Effect (Within : ι → List (Step σ κ ρ) → σ → Prop)
    (Good : ι → List (Step σ κ ρ) → ω → Prop) (s : σ) (call : κ) : Prop
  /-- A session starts. -/
  | starts (start : ι) (started : c.started s call (c.perform s call).2 = some start)
      (quiet : c.admitted (c.perform s call).2 = none)
      (within : Within start [] (c.perform s call).1) : Effect Within Good s call
  /-- The session goes on. -/
  | stays (unstarted : c.started s call (c.perform s call).2 = none)
      (quiet : c.admitted (c.perform s call).2 = none) (running : c.Running s)
      (within : ∀ start steps, Within start steps s →
        Within start (steps ++ [⟨s, call, (c.perform s call).2⟩]) (c.perform s call).1)
      (kept : ∀ time ∈ c.last s, ∃ later ∈ c.last (c.perform s call).1, time ≤ later) :
      Effect Within Good s call
  /-- Something is admitted. -/
  | admits (admission : ω) (unstarted : c.started s call (c.perform s call).2 = none)
      (admitted : c.admitted (c.perform s call).2 = some admission) (running : c.Running s)
      (within : ∀ start steps, Within start steps s →
        Within start (steps ++ [⟨s, call, (c.perform s call).2⟩]) (c.perform s call).1 ∧
          Good start (steps ++ [⟨s, call, (c.perform s call).2⟩]) admission)
      (later : ∀ time ∈ c.last s, time < c.time admission)
      (last : c.last (c.perform s call).1 = some (c.time admission)) : Effect Within Good s call
  /-- The component does not run after the call. -/
  | rests (unstarted : c.started s call (c.perform s call).2 = none)
      (quiet : c.admitted (c.perform s call).2 = none)
      (resting : ¬c.Running (c.perform s call).1) : Effect Within Good s call

/-- A component whose calls keep what has to hold: `Inv` of its states, `Within` of a state inside
a session, `Good` of what it admits there, and `Before` of a session and the ones started later,
which `Covered` says of what was started before a state. -/
structure Lawful (Inv : σ → Prop) (Within : ι → List (Step σ κ ρ) → σ → Prop)
    (Good : ι → List (Step σ κ ρ) → ω → Prop) (Covered : ι → σ → Prop)
    (Before : ι → ι → Prop) : Prop where
  /-- It holds of the first state. -/
  initial : Inv c.initial
  /-- Nothing runs at first. -/
  resting : ¬c.Running c.initial
  /-- Every call keeps it. -/
  keeps : ∀ s call, Inv s → Inv (c.perform s call).1
  /-- Every call has one of the effects. -/
  effect : ∀ s call, Inv s → c.Effect Within Good s call
  /-- What was started before stays covered. -/
  covered : ∀ s call start, Inv s → Covered start s → Covered start (c.perform s call).1
  /-- What is started is covered and comes after what was covered. -/
  fresh : ∀ s call start, Inv s → c.started s call (c.perform s call).2 = some start →
    Covered start (c.perform s call).1 ∧ ∀ earlier, Covered earlier s → Before earlier start

/-- A session in which everything admitted is good, at increasing times. -/
structure Sound (Good : ι → List (Step σ κ ρ) → ω → Prop) (session : Session σ κ ρ ι) :
    Prop where
  /-- What a call admits is good for the calls up to it. -/
  good : ∀ earlier step admission, earlier ++ [step] <+: session.steps →
    c.admitted step.reply = some admission →
      Good session.start (earlier ++ [step]) admission ∧ c.Running step.before
  /-- The times increase. -/
  increasing : (c.admissions session).Pairwise fun first later => c.time first < c.time later

/-- What holds after every call. -/
structure Invariant (Inv : σ → Prop) (Within : ι → List (Step σ κ ρ) → σ → Prop)
    (Good : ι → List (Step σ κ ρ) → ω → Prop) (Covered : ι → σ → Prop) (Before : ι → ι → Prop)
    (history : History σ κ ρ ι) : Prop where
  /-- The state is as it has to be. -/
  state : Inv history.state
  /-- Every session is sound. -/
  sound : ∀ session ∈ history.sessions, c.Sound Good session
  /-- A running component is within its latest session, at no time before those admitted. -/
  running : c.Running history.state → ∃ session ∈ history.sessions.head?,
    Within session.start session.steps history.state ∧
      ∀ admission ∈ c.admissions session, ∃ last ∈ c.last history.state,
        c.time admission ≤ last
  /-- Everything started is covered. -/
  covered : ∀ session ∈ history.sessions, Covered session.start history.state
  /-- Later sessions come after earlier ones. -/
  ordered : history.sessions.Pairwise fun later earlier => Before earlier.start later.start

variable {c} {Inv : σ → Prop} {Within : ι → List (Step σ κ ρ) → σ → Prop}
  {Good : ι → List (Step σ κ ρ) → ω → Prop} {Covered : ι → σ → Prop} {Before : ι → ι → Prop}
  {session : Session σ κ ρ ι} {step : Step σ κ ρ} {history : History σ κ ρ ι}

/-- What the last call of a session admits comes last. -/
theorem admissions_extend :
    c.admissions (session.extend step) = c.admissions session ++ (c.admitted step.reply).toList := by
  rw [admissions, Session.extend, List.filterMap_append]
  cases hadmitted : c.admitted step.reply <;> simp [admissions, hadmitted]

/-- A good admission of a new call keeps a session sound. -/
theorem Sound.extend (h : c.Sound Good session)
    (hgood : ∀ admission, c.admitted step.reply = some admission →
      (Good session.start (session.steps ++ [step]) admission ∧ c.Running step.before) ∧
        ∀ earlier ∈ c.admissions session, c.time earlier < c.time admission) :
    c.Sound Good (session.extend step) := by
  constructor
  · intro earlier last admission hinitial hadmitted
    rcases List.prefix_concat_iff.mp hinitial with hall | hold
    · obtain ⟨hsteps, hstep⟩ := List.append_inj' hall rfl
      have hlast := List.singleton_inj.mp hstep
      rw [hsteps, hlast]
      rw [hlast] at hadmitted
      exact (hgood admission hadmitted).1
    · exact h.good earlier last admission hold hadmitted
  · rw [admissions_extend, List.pairwise_append]
    refine ⟨h.increasing, ?_, ?_⟩
    · cases hlast : c.admitted step.reply <;> simp
    · intro first hfirst later hlater
      exact (hgood later (Option.mem_toList.mp hlater)).2 first hfirst

/-- A call that admits nothing keeps a session sound. -/
theorem Sound.extend_quiet (h : c.Sound Good session) (hquiet : c.admitted step.reply = none) :
    c.Sound Good (session.extend step) := by
  apply h.extend
  intro admission hadmitted
  rw [hquiet] at hadmitted
  cases hadmitted

/-- A session in which no call was made is sound. -/
theorem sound_nil (start : ι) : c.Sound Good ⟨start, []⟩ := by
  constructor
  · intro earlier step admission hinitial
    have hlength := hinitial.length_le
    simp at hlength
  · exact List.Pairwise.nil

/-- Extending the latest session keeps every session sound. -/
theorem sound_extendLatest {sessions : List (Session σ κ ρ ι)}
    (h : ∀ session ∈ sessions, c.Sound Good session)
    (hlatest : ∀ session ∈ sessions.head?, c.Sound Good (session.extend step)) :
    ∀ session ∈ extendLatest step sessions, c.Sound Good session := by
  cases sessions with
  | nil => exact h
  | cons latest earlier =>
    rw [extendLatest, List.forall_mem_cons]
    exact ⟨hlatest latest rfl, fun session hsession => h session (List.mem_cons_of_mem _ hsession)⟩

/-- The latest session after extending it. -/
theorem head_extendLatest {sessions : List (Session σ κ ρ ι)}
    (h : session ∈ sessions.head?) : session.extend step ∈ (extendLatest step sessions).head? := by
  cases sessions with
  | nil => cases h
  | cons latest earlier =>
    have hhead := Option.some.inj h
    rw [← hhead]
    rfl

/-- Extending the latest session starts none. -/
theorem starts_extendLatest (sessions : List (Session σ κ ρ ι)) :
    (extendLatest step sessions).map (·.start) = sessions.map (·.start) := by
  cases sessions with
  | nil => rfl
  | cons latest earlier => rfl

/-- A history is kept by a call that starts no session, when the latest session stays sound and
the component, if it still runs, stays within it. -/
theorem Invariant.extendLatest (law : c.Lawful Inv Within Good Covered Before)
    (h : c.Invariant Inv Within Good Covered Before history) (call : κ)
    (hunstarted : c.started history.state call (c.perform history.state call).2 = none)
    (hsound : ∀ session ∈ history.sessions.head?,
      c.Sound Good (session.extend ⟨history.state, call, (c.perform history.state call).2⟩))
    (hrunning : c.Running (c.perform history.state call).1 →
      ∃ session ∈ history.sessions.head?,
        Within session.start
          (session.steps ++ [⟨history.state, call, (c.perform history.state call).2⟩])
          (c.perform history.state call).1 ∧
        ∀ admission ∈ c.admissions
            (session.extend ⟨history.state, call, (c.perform history.state call).2⟩),
          ∃ last ∈ c.last (c.perform history.state call).1, c.time admission ≤ last) :
    c.Invariant Inv Within Good Covered Before (c.call history call) := by
  have hsessions : (c.call history call).sessions = SessionLogs.extendLatest
      ⟨history.state, call, (c.perform history.state call).2⟩ history.sessions := by
    rw [Component.call, hunstarted]
    rfl
  have hstarts := @starts_extendLatest σ κ ρ ι
    ⟨history.state, call, (c.perform history.state call).2⟩ history.sessions
  constructor
  · exact law.keeps history.state call h.state
  · rw [hsessions]
    exact sound_extendLatest h.sound hsound
  · intro hstill
    obtain ⟨session, hsession, hwithin, htimes⟩ := hrunning hstill
    rw [hsessions]
    exact ⟨_, head_extendLatest hsession, hwithin, htimes⟩
  · intro session hsession
    rw [hsessions] at hsession
    have hstart := List.mem_map_of_mem (f := fun x : Session σ κ ρ ι => x.start) hsession
    rw [hstarts] at hstart
    obtain ⟨earlier, hearlier, hsame⟩ := List.mem_map.mp hstart
    rw [← hsame]
    exact law.covered _ _ _ h.state (h.covered earlier hearlier)
  · have hpairs : (history.sessions.map (·.start)).Pairwise fun later earlier =>
        Before earlier later := List.pairwise_map.mpr h.ordered
    rw [← hstarts] at hpairs
    rw [hsessions]
    exact List.pairwise_map.mp hpairs

/-- Every call keeps the invariant. -/
theorem Invariant.call (law : c.Lawful Inv Within Good Covered Before)
    (h : c.Invariant Inv Within Good Covered Before history) (call : κ) :
    c.Invariant Inv Within Good Covered Before (c.call history call) := by
  have hheld : ∀ session ∈ history.sessions.head?, c.Sound Good session := fun session hsession =>
    h.sound session (List.mem_of_mem_head? hsession)
  cases law.effect history.state call h.state with
  | starts start hstarted hquiet hwithin =>
    have hsessions : (c.call history call).sessions = ⟨start, []⟩ :: history.sessions := by
      rw [Component.call, hstarted]
      rfl
    have hfresh := law.fresh history.state call start h.state hstarted
    constructor
    · exact law.keeps history.state call h.state
    · rw [hsessions, List.forall_mem_cons]
      exact ⟨sound_nil start, h.sound⟩
    · intro _
      rw [hsessions]
      exact ⟨⟨start, []⟩, rfl, hwithin, fun admission hadmission => nomatch hadmission⟩
    · rw [hsessions, List.forall_mem_cons]
      exact ⟨hfresh.1, fun session hsession =>
        law.covered _ _ _ h.state (h.covered session hsession)⟩
    · rw [hsessions, List.pairwise_cons]
      exact ⟨fun session hsession => hfresh.2 _ (h.covered session hsession), h.ordered⟩
  | stays hunstarted hquiet hrunning hwithin hkept =>
    obtain ⟨session, hsession, hinside, htimes⟩ := h.running hrunning
    apply h.extendLatest law call hunstarted
    · exact fun latest hlatest => (hheld latest hlatest).extend_quiet hquiet
    · intro _
      refine ⟨session, hsession, hwithin _ _ hinside, ?_⟩
      rw [admissions_extend, hquiet, Option.toList_none, List.append_nil]
      intro admission hadmission
      obtain ⟨time, htime, hle⟩ := htimes admission hadmission
      obtain ⟨later, hlater, hafter⟩ := hkept time htime
      exact ⟨later, hlater, Nat.le_trans hle hafter⟩
  | admits admission hunstarted hadmitted hrunning hwithin hlater hlast =>
    obtain ⟨session, hsession, hinside, htimes⟩ := h.running hrunning
    have hgood := hwithin _ _ hinside
    have hearlier : ∀ earlier ∈ c.admissions session, c.time earlier < c.time admission := by
      intro earlier hmem
      obtain ⟨time, htime, hle⟩ := htimes earlier hmem
      exact Nat.lt_of_le_of_lt hle (hlater time htime)
    apply h.extendLatest law call hunstarted
    · intro latest hlatest
      have hsame := Option.mem_unique hlatest hsession
      rw [hsame]
      apply (hheld session hsession).extend
      intro other hother
      rw [hadmitted] at hother
      cases hother
      exact ⟨⟨hgood.2, hrunning⟩, hearlier⟩
    · intro _
      refine ⟨session, hsession, hgood.1, ?_⟩
      rw [admissions_extend, hadmitted, Option.toList_some, List.forall_mem_append,
        List.forall_mem_singleton, hlast]
      exact ⟨fun earlier hmem => ⟨_, rfl, Nat.le_of_lt (hearlier earlier hmem)⟩, _, rfl,
        Nat.le_refl _⟩
  | rests hunstarted hquiet hresting =>
    apply h.extendLatest law call hunstarted
    · exact fun latest hlatest => (hheld latest hlatest).extend_quiet hquiet
    · exact fun hrunning => absurd hrunning hresting

/-- A lawful component keeps the invariant over every run. -/
theorem invariant_after (law : c.Lawful Inv Within Good Covered Before) (calls : List κ) :
    c.Invariant Inv Within Good Covered Before (c.after calls) := by
  have hrun : ∀ history, c.Invariant Inv Within Good Covered Before history →
      c.Invariant Inv Within Good Covered Before (calls.foldl c.call history) := by
    induction calls with
    | nil => exact fun history h => h
    | cons call calls ih => exact fun history h => ih _ (h.call law call)
  apply hrun
  constructor
  · exact law.initial
  · exact fun session hsession => nomatch hsession
  · exact fun hrunning => absurd hrunning law.resting
  · exact fun session hsession => nomatch hsession
  · exact List.Pairwise.nil

end Component

end SessionLogs
end AyyoHumanoid
