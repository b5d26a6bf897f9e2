import AyyoHumanoid.PyDictLimits
import AyyoHumanoid.RgbdSubmission
import AyyoHumanoid.WorldLimits

/-!
# How long a frame waits

A stored frame waits in its queue for the frame of the other stream. It leaves
the queue in a pair, with age, or when the queue is full of later frames. Each
of these shows in the state: the other stream has reached the time of the
frame, the stream of the frame has moved past the waiting time, or every place
of the queue is taken by a later frame.
-/

namespace AyyoHumanoid
namespace Rgbd

open PyText World

section Streams

variable {α : Type} {stream : Stream α} {t u : Nat} {f : α} {cutoff : Int}

/-- A time was reached by the last stored one. -/
def Reached (last : Option Nat) (t : Nat) : Prop := ∃ latest, last = some latest ∧ t ≤ latest

/-- A time after the last one was not reached. -/
theorem After.not_reached {last : Option Nat} (h : After last t) : ¬Reached last t := by
  intro hreached
  obtain ⟨latest, hlast, hle⟩ := hreached
  have hlt := h latest hlast
  omega

/-- An earlier time was reached too. -/
theorem Reached.mono {last : Option Nat} (h : Reached last u) (hle : t ≤ u) : Reached last t := by
  obtain ⟨latest, hlast, hlatest⟩ := h
  exact ⟨latest, hlast, hle.trans hlatest⟩

/-- No pending frame is later than the last stored one. -/
def Stream.Ordered (stream : Stream α) : Prop :=
  ∀ t f, stream.pending.get? t = some f → Reached stream.lastAtNs t

/-- Every place of the queue is taken by a later frame. -/
def Stream.Crowded (stream : Stream α) (t : Nat) : Prop :=
  PyDict.Surpassed (fun time _ => time) maxRgbdPendingPerStream t stream.pending

/-- A frame is pending, or its place was taken by later frames. -/
def Stream.Holds (stream : Stream α) (t : Nat) (f : α) : Prop :=
  stream.pending.get? t = some f ∨ stream.Crowded t

/-- The time separates the pending frames. -/
theorem separates_time : PyDict.Separates fun (time : Nat) (_ : α) => time :=
  fun _ _ _ _ heq => heq

/-- A crowded queue has no frame of the time. -/
theorem Stream.Crowded.not_pending (h : stream.Crowded t) : stream.pending.get? t ≠ some f :=
  fun hfound => lt_irrefl t (h.2 t f hfound)

/-- A crowded queue has a frame, which is later. -/
theorem Stream.Crowded.exists_later (h : stream.Crowded t) :
    ∃ later frame, stream.pending.get? later = some frame ∧ t < later := by
  have hkeys : 0 < stream.pending.keys.length := by
    rw [PyDict.length_keys]
    exact lt_of_lt_of_le (by decide) h.1
  obtain ⟨later, hlater⟩ := List.exists_mem_of_length_pos hkeys
  obtain ⟨frame, hframe⟩ := PyDict.mem_keys.mp hlater
  exact ⟨later, frame, hframe, h.2 later frame hframe⟩

/-- A frame that is not too old is kept, or later frames take its place. -/
theorem Stream.Holds.evict (h : stream.Holds t f) (hage : cutoff ≤ t) :
    (stream.evict cutoff).Holds t f := by
  have htopped : PyDict.Topped (fun time _ => time) maxRgbdPendingPerStream t t
      stream.pending := by
    rcases h with hpending | hcrowded
    · exact Or.inl ⟨f, hpending, le_rfl⟩
    · exact Or.inr hcrowded
  have hrecent : ∀ (other : Nat) (_ : α), t ≤ other → ¬(other : Int) < cutoff := by
    intro other _ hother
    omega
  have hkept := (htopped.keep hrecent).trim separates_time
  rcases hkept with ⟨value, hvalue, -⟩ | hsurpassed
  · have hbefore : stream.pending.get? t = some value := Stream.get_evict hvalue
    rcases h with hpending | hcrowded
    · rw [hpending, Option.some.injEq] at hbefore
      exact Or.inl (hbefore ▸ hvalue)
    · exact absurd hbefore hcrowded.not_pending
  · exact Or.inr hsurpassed

/-- A pending frame that is not too old stays in a queue within its bound. -/
theorem Stream.get_evict_of_bounded (h : stream.pending.get? t = some f) (hage : cutoff ≤ t)
    (hbounded : stream.pending.size ≤ maxRgbdPendingPerStream) :
    (stream.evict cutoff).pending.get? t = some f := by
  rw [Stream.evict]
  simp only
  rw [PyDict.trim_eq_self ((PyDict.size_keep_le _ _).trans hbounded), PyDict.get?_keep_eq_some]
  exact ⟨h, by omega⟩

/-- Storing a later frame leaves the others. -/
theorem Stream.Holds.store (h : stream.Holds t f) (hordered : stream.Ordered)
    (hafter : After stream.lastAtNs u) (g : α) :
    (⟨stream.pending.set u g, some u⟩ : Stream α).Holds t f := by
  have hlater : ∀ time frame, stream.pending.get? time = some frame → time < u := by
    intro time frame hframe
    obtain ⟨latest, hlast, hle⟩ := hordered time frame hframe
    exact hle.trans_lt (hafter latest hlast)
  rcases h with hpending | hcrowded
  · refine Or.inl ?_
    rw [PyDict.get?_set_of_ne (hlater t f hpending).ne]
    exact hpending
  · refine Or.inr ⟨hcrowded.1.trans (PyDict.size_le_size_set _ _ _), fun time frame hframe => ?_⟩
    rw [PyDict.get?_set] at hframe
    by_cases htime : time = u
    · obtain ⟨later, other, hother, hlt⟩ := hcrowded.exists_later
      rw [htime]
      exact hlt.trans (hlater later other hother)
    · rw [if_neg htime] at hframe
      exact hcrowded.2 time frame hframe

/-- Taking an earlier frame leaves the later ones. -/
theorem Stream.Holds.remove (h : stream.Holds t f) (hearlier : u < t) :
    ({ stream with pending := stream.pending.remove u } : Stream α).Holds t f := by
  rcases h with hpending | hcrowded
  · refine Or.inl ?_
    rw [PyDict.get?_remove_of_ne hearlier.ne']
    exact hpending
  · have hsame : stream.pending.remove u = stream.pending := by
      refine PyDict.keep_eq_self fun time frame hframe => ?_
      have hlt := hcrowded.2 time frame hframe
      dsimp only at hlt
      omega
    rw [hsame]
    exact Or.inr hcrowded

/-- Eviction keeps the order. -/
theorem Stream.Ordered.evict (h : stream.Ordered) : (stream.evict cutoff).Ordered :=
  fun time frame hframe => h time frame (Stream.get_evict hframe)

/-- Storing a later frame keeps the order. -/
theorem Stream.Ordered.store (h : stream.Ordered) (hafter : After stream.lastAtNs u) (g : α) :
    (⟨stream.pending.set u g, some u⟩ : Stream α).Ordered := by
  intro time frame hframe
  rw [PyDict.get?_set] at hframe
  by_cases htime : time = u
  · exact ⟨u, rfl, htime.le⟩
  · rw [if_neg htime] at hframe
    obtain ⟨latest, hlast, hle⟩ := h time frame hframe
    exact ⟨u, rfl, hle.trans (hafter latest hlast).le⟩

/-- Taking a frame keeps the order. -/
theorem Stream.Ordered.remove (h : stream.Ordered) :
    ({ stream with pending := stream.pending.remove u } : Stream α).Ordered :=
  fun time frame hframe => h time frame (PyDict.get?_remove_eq_some.mp hframe).1

end Streams

section Steps

variable {α β : Type} {bounds : FusionBounds} {own own' : Stream α} {other other' : Stream β}
  {t : Nat} {f : α}

/-- What a call in a session does to a stream and the other one. -/
inductive StreamStep (bounds : FusionBounds) (own own' : Stream α) (other other' : Stream β) :
    Prop where
  /-- The frame was refused. -/
  | quiet (hown : own' = own) (hother : other' = other)
  /-- A frame was stored in the stream, and a pair took it at once or not. -/
  | ownStored (u : Nat) (g : α) (hafter : After own.lastAtNs u) (hlast : own'.lastAtNs = some u)
      (hother : other'.lastAtNs = other.lastAtNs)
      (hpending : own'.pending = ((⟨own.pending.set u g, some u⟩ : Stream α).evict
          (u - bounds.pairWaitNs)).pending ∨
        own'.pending = (((⟨own.pending.set u g, some u⟩ : Stream α).evict
          (u - bounds.pairWaitNs)).pending).remove u ∧
        ∃ frame, other.pending.get? u = some frame)
  /-- A frame was stored in the other stream, and a pair took it at once or not. -/
  | otherStored (u : Nat) (hlast : other'.lastAtNs = some u)
      (hafter : After other.lastAtNs u) (hown : own'.lastAtNs = own.lastAtNs)
      (hpending : own'.pending = (own.evict (u - bounds.pairWaitNs)).pending ∨
        own'.pending = ((own.evict (u - bounds.pairWaitNs)).pending).remove u)

/-- A frame waits, or the state shows why it does not. -/
def Waits (bounds : FusionBounds) (t : Nat) (f : α) (own : Stream α) (other : Stream β) : Prop :=
  Reached other.lastAtNs t ∨
    (∃ latest, own.lastAtNs = some latest ∧ t + bounds.pairWaitNs < latest) ∨ own.Holds t f

/-- Whether a queue holds a frame depends on the pending frames. -/
theorem Stream.Holds.of_pending {stream stream' : Stream α} (h : stream.Holds t f)
    (heq : stream'.pending = stream.pending) : stream'.Holds t f := by
  rw [Stream.Holds, Stream.Crowded, heq]
  exact h

/-- A waiting frame waits after every call, or the state shows why it does not. -/
theorem Waits.step (h : Waits bounds t f own other) (hown : own.Ordered) (hother : other.Ordered)
    (hstep : StreamStep bounds own own' other other') : Waits bounds t f own' other' := by
  cases hstep with
  | quiet hsame hsame' =>
    rw [hsame, hsame']
    exact h
  | ownStored u g hafter hlast hotherLast hpending =>
    rcases h with hreached | ⟨latest, hlatest, hpast⟩ | hholds
    · exact Or.inl (hotherLast.symm ▸ hreached)
    · have hlater := hafter latest hlatest
      exact Or.inr (Or.inl ⟨u, hlast, hpast.trans hlater⟩)
    · by_cases hpast : t + bounds.pairWaitNs < u
      · exact Or.inr (Or.inl ⟨u, hlast, hpast⟩)
      · have hlt : t < u := by
          rcases hholds with hwaiting | hcrowded
          · obtain ⟨latest, hlatest, hle⟩ := hown t f hwaiting
            exact hle.trans_lt (hafter latest hlatest)
          · obtain ⟨later, frame, hframe, hlt⟩ := hcrowded.exists_later
            obtain ⟨latest, hlatest, hle⟩ := hown later frame hframe
            exact hlt.trans (hle.trans_lt (hafter latest hlatest))
        have hevicted := (hholds.store hown hafter g).evict
          (show (u : Int) - bounds.pairWaitNs ≤ t by omega)
        rcases hpending with hleft | ⟨-, frame, hframe⟩
        · exact Or.inr (Or.inr (hevicted.of_pending hleft))
        · -- A pair at a later time needs a later frame of the other stream.
          have hreached := (hother u frame hframe).mono hlt.le
          exact Or.inl (hotherLast.symm ▸ hreached)
  | otherStored u hlast hafter hownLast hpending =>
    by_cases hle : t ≤ u
    · exact Or.inl ⟨u, hlast, hle⟩
    · rcases h with ⟨latest, hlatest, hreached⟩ | ⟨latest, hlatest, hpast⟩ | hholds
      · have hlater := hafter latest hlatest
        omega
      · exact Or.inr (Or.inl ⟨latest, hownLast.trans hlatest, hpast⟩)
      · have hevicted := hholds.evict (show (u : Int) - bounds.pairWaitNs ≤ t by omega)
        rcases hpending with hleft | hleft
        · exact Or.inr (Or.inr (hevicted.of_pending hleft))
        · have hremoved := hevicted.remove (show u < t by omega)
          exact Or.inr (Or.inr (hremoved.of_pending hleft))

/-- A frame that was just stored waits. -/
theorem waits_of_pending (h : own.pending.get? t = some f) : Waits bounds t f own other :=
  Or.inr (Or.inr (Or.inl h))

/-- A frame waits still when the other stream has not reached it, its own stream is not past the
waiting time and there was room. -/
theorem Waits.pending (h : Waits bounds t f own other) (hother : After other.lastAtNs t)
    (hwaited : ∀ latest, own.lastAtNs = some latest → latest ≤ t + bounds.pairWaitNs)
    (hroom : ¬own.Crowded t) : own.pending.get? t = some f := by
  rcases h with hreached | ⟨latest, hlatest, hpast⟩ | hpending | hcrowded
  · exact absurd hreached hother.not_reached
  · have hle := hwaited latest hlatest
    omega
  · exact hpending
  · exact absurd hcrowded hroom

/-- A call keeps both streams in order. -/
theorem StreamStep.ordered (hown : own.Ordered) (hstep : StreamStep bounds own own' other other') :
    own'.Ordered := by
  have hof : ∀ stream : Stream α, stream.Ordered → own'.lastAtNs = stream.lastAtNs →
      own'.pending = stream.pending → own'.Ordered := by
    intro stream hordered hlast hpending time frame hframe
    rw [hpending] at hframe
    rw [hlast]
    exact hordered time frame hframe
  cases hstep with
  | quiet hsame hsame' => exact hof own hown (hsame ▸ rfl) (hsame ▸ rfl)
  | ownStored u g hafter hlast hotherLast hpending =>
    have hevicted : ((⟨own.pending.set u g, some u⟩ : Stream α).evict
        (u - bounds.pairWaitNs)).Ordered := (hown.store hafter g).evict
    rcases hpending with hleft | ⟨hleft, -⟩
    · exact hof _ hevicted hlast hleft
    · exact hof _ hevicted.remove hlast hleft
  | otherStored u hlast hafter hownLast hpending =>
    have hevicted : (own.evict (u - bounds.pairWaitNs)).Ordered := hown.evict
    rcases hpending with hleft | hleft
    · exact hof _ hevicted hownLast hleft
    · exact hof _ hevicted.remove hownLast hleft

end Steps

end Rgbd
end AyyoHumanoid
