import AyyoHumanoid.CameraLifecycle

/-!
# Submissions to an active camera adapter

Whatever property the submissions of a session have by kind and time, what waits
keeps it: a submission is refused with counts and diagnostics only, or is stored
under its own time, and a pair is taken of one time, later than the time accepted
last.
-/

namespace AyyoHumanoid
namespace Camera

open PyText JsonText World Perception Checks

variable {kind : CameraKind} {p : Platform} {bounds : CameraBounds} {s : CameraState kind}

section Eviction

/-- What waits after an eviction waited before. -/
theorem evict_found {α : Type} {cutoff : Int} {items : PyDict Nat α} {time : Nat} {value : α}
    (h : (Pending.evict cutoff items).items.get? time = some value) :
    items.get? time = some value := by
  rw [Pending.evict] at h
  exact (PyDict.get?_keep_eq_some.mp (PyDict.get?_of_trim h)).1

/-- An eviction keeps the session and takes from what waits. -/
theorem evictPending_spec (bounds : CameraBounds) (s : CameraState kind)
    (images : PyDict Nat (ImageMetadata kind)) (infos : PyDict Nat (InfoMetadata kind))
    (newest : Metadata kind) : ∃ d, evictPending bounds s images infos newest =
      (s.expire bounds images infos newest.observedAtNs).reporting d := by
  cases kind with
  | physical =>
    obtain ⟨d, hd, -⟩ := evictPhysical_eq bounds s images infos newest
    exact ⟨d, hd⟩
  | depth =>
    obtain ⟨d, hd, -⟩ := evictDepth_eq bounds s images infos newest
    exact ⟨d, hd⟩

end Eviction

section Settling

variable {P : Nat → ImageMetadata kind → Prop} {Q : Nat → InfoMetadata kind → Prop}
  {source : SourceManifest kind} {configured : Calibration kind} {sessionId : kind.SessionId}

/-- What waits under other times when the submissions of one time are taken. -/
theorem waits_remove (hwaits : Waits P Q s) (time : Nat) :
    Waits P Q { s with
      pendingImages := s.pendingImages.remove time
      pendingCameraInfo := s.pendingCameraInfo.remove time } := by
  constructor
  · intro other image hfound
    exact hwaits.images other image (PyDict.get?_remove_eq_some.mp hfound).1
  · intro other info hfound
    exact hwaits.infos other info (PyDict.get?_remove_eq_some.mp hfound).1

/-- Pairing what waits under a time that is later than the time accepted last. -/
theorem tryPair_spec (hactive : s.state = .active) (hsource : s.source = some source)
    (hcalibration : s.calibration = some configured) (hsession : s.sessionId = some sessionId)
    (hwaits : Waits P Q s) {time : Nat}
    (htime : ∀ image, P time image → image.observedAtNs = time)
    (hlater : ∀ last ∈ s.lastAcceptedAtNs, last < time) :
    Settles P Q (MadeOf source configured sessionId) s (tryPair s time) := by
  by_cases hboth : (s.pendingImages.items.get? time).isSome = true ∧
      (s.pendingCameraInfo.items.get? time).isSome = true
  · obtain ⟨image, himage⟩ := Option.isSome_iff_exists.mp hboth.1
    obtain ⟨info, hinfo⟩ := Option.isSome_iff_exists.mp hboth.2
    rw [tryPair_pairs himage hinfo]
    have hP := hwaits.images time image himage
    have hQ := hwaits.infos time info hinfo
    have hstamp := htime image hP
    have hleft := waits_remove hwaits time
    have hpair := @pair_spec kind { s with
      pendingImages := s.pendingImages.remove time
      pendingCameraInfo := s.pendingCameraInfo.remove time } source configured sessionId hactive
      hsource hcalibration hsession image info
    obtain ⟨hsame, himages, hinfos, houtcome⟩ := hpair
    constructor
    · exact ⟨hsame.state, hsame.source, hsame.calibration, hsame.sessionId, hsame.epoch⟩
    · constructor
      · rw [himages]
        exact hleft.images
      · rw [hinfos]
        exact hleft.infos
    · intro last hlast
      cases houtcome with
      | inl hkept =>
        rw [hkept.1]
        exact ⟨last, hlast, Nat.le_refl _⟩
      | inr haccepted =>
        rw [haccepted.1, hstamp]
        exact ⟨time, rfl, Nat.le_of_lt (hlater last hlast)⟩
    · intro admission hadmission
      cases houtcome with
      | inl hkept => exact absurd hadmission (hkept.2 admission)
      | inr haccepted =>
        refine ⟨time, image, info, hP, hQ, haccepted.2 admission hadmission, ?_, hlater⟩
        rw [haccepted.1, hstamp]
  · rw [tryPair_waits hboth]
    exact settles_unchanged (.refl s) hwaits quiet_none

/-- A submission that passed its checks is stored, and settles. -/
theorem stored_spec (hactive : s.state = .active) (hsource : s.source = some source)
    (hcalibration : s.calibration = some configured) (hsession : s.sessionId = some sessionId)
    {images : PyDict Nat (ImageMetadata kind)} {infos : PyDict Nat (InfoMetadata kind)}
    {newest : Metadata kind}
    (himages : ∀ time image, images.get? time = some image → P time image)
    (hinfos : ∀ time info, infos.get? time = some info → Q time info)
    (htime : ∀ image, P newest.observedAtNs image → image.observedAtNs = newest.observedAtNs)
    (hlater : ∀ last ∈ s.lastAcceptedAtNs, last < newest.observedAtNs) :
    Settles P Q (MadeOf source configured sessionId) s
      (tryPair (evictPending bounds s images infos newest) newest.observedAtNs) := by
  obtain ⟨d, hd⟩ := evictPending_spec bounds s images infos newest
  rw [hd]
  have hwaits : Waits P Q ((s.expire bounds images infos newest.observedAtNs).reporting d) :=
    ⟨fun time image hfound => himages time image (evict_found hfound),
      fun time info hfound => hinfos time info (evict_found hfound)⟩
  have hsettles := @tryPair_spec kind
    ((s.expire bounds images infos newest.observedAtNs).reporting d) P Q source configured
    sessionId hactive hsource hcalibration hsession hwaits newest.observedAtNs htime hlater
  exact ⟨⟨hsettles.same.state, hsettles.same.source, hsettles.same.calibration,
    hsettles.same.sessionId, hsettles.same.epoch⟩, hsettles.waits, hsettles.later,
    hsettles.admitted⟩

/-- The common checks of an active adapter change counts and diagnostics only, and what passes
them is of the session and later than the time accepted last. -/
theorem validateCommon_spec (hactive : s.state = .active) (hsource : s.source = some source)
    (hcalibration : s.calibration = some configured) (hsession : s.sessionId = some sessionId)
    (value : Metadata kind) (nowNs : Int) :
    Unchanged s (validateCommon bounds s value nowNs).1 ∧
      ((validateCommon bounds s value nowNs).2 = .ok true →
        (validateCommon bounds s value nowNs).1 = s ∧ value.sessionId = sessionId ∧
          ∀ last ∈ s.lastAcceptedAtNs, last < value.observedAtNs) := by
  rw [validateCommon, hsource, hcalibration, hsession, if_neg (not_not.mpr hactive)]
  have hrefuse : ∀ event availability {error : Except CameraError Bool}, error = .ok false →
      Unchanged s (s.rejectAt event availability value, error).1 ∧
        ((s.rejectAt event availability value, error).2 = .ok true →
          (s.rejectAt event availability value, error).1 = s ∧ value.sessionId = sessionId ∧
            ∀ last ∈ s.lastAcceptedAtNs, last < value.observedAtNs) := by
    intro event availability error herror
    rw [herror]
    exact ⟨unchanged_rejectAt _ _ _, fun h => Bool.noConfusion (Except.ok.inj h)⟩
  simp only [validateActive]
  by_cases hnow : ¬(0 ≤ nowNs ∧ nowNs ≤ 2 ^ 63 - 1)
  · rw [if_pos hnow]
    exact ⟨.refl s, fun h => by cases h⟩
  rw [if_neg hnow]
  by_cases hother : value.sessionId ≠ sessionId
  · rw [if_pos hother]
    exact hrefuse _ _ rfl
  rw [if_neg hother]
  by_cases hwrong : value.sourceId ≠ source.sourceId ∨ value.robotId ≠ source.robotId ∨
      value.camera ≠ source.camera ∨ value.provenance ≠ source.provenance
  · rw [if_pos hwrong]
    exact hrefuse _ _ rfl
  rw [if_neg hwrong]
  by_cases hframe : value.frameId ≠ source.camera.frameId
  · rw [if_pos hframe]
    exact hrefuse _ _ rfl
  rw [if_neg hframe]
  by_cases hfuture : nowNs + bounds.futureSkewNs < value.observedAtNs
  · rw [if_pos hfuture]
    exact hrefuse _ _ rfl
  rw [if_neg hfuture]
  by_cases hstale : (value.observedAtNs : Int) < nowNs - bounds.retentionNs
  · rw [if_pos hstale]
    exact hrefuse _ _ rfl
  rw [if_neg hstale]
  by_cases hlast : s.lastAcceptedAtNs.any fun last => decide (value.observedAtNs < last)
  · rw [if_pos hlast]
    exact hrefuse _ _ rfl
  rw [if_neg hlast]
  by_cases hrepeated : s.lastAcceptedAtNs = some value.observedAtNs
  · rw [if_pos hrepeated]
    exact ⟨(unchanged_repeated value).1, fun h => Bool.noConfusion (Except.ok.inj h)⟩
  rw [if_neg hrepeated]
  refine ⟨.refl s, fun _ => ⟨rfl, not_not.mp hother, ?_⟩⟩
  intro last haccepted
  have haccepted : s.lastAcceptedAtNs = some last := haccepted
  rw [haccepted, Option.any_some, decide_eq_true_eq] at hlast
  rw [haccepted, Option.some.injEq] at hrepeated
  omega

/-- What an offered image leads to, once it passed the common checks. -/
theorem offerImage_spec (hactive : s.state = .active) (hsource : s.source = some source)
    (hcalibration : s.calibration = some configured) (hsession : s.sessionId = some sessionId)
    (hwaits : Waits P Q s) {image : ImageMetadata kind} (hP : P image.observedAtNs image)
    (htime : ∀ other, P image.observedAtNs other → other.observedAtNs = image.observedAtNs)
    (hlater : ∀ last ∈ s.lastAcceptedAtNs, last < image.observedAtNs) :
    Settles P Q (MadeOf source configured sessionId) s (offerImage bounds s source image) := by
  have hreject : ∀ event availability, Settles P Q (MadeOf source configured sessionId) s
      (s.rejectAt event availability image.toMetadata, .ok none) := fun event availability =>
    settles_unchanged (unchanged_rejectAt _ _ _) hwaits quiet_none
  have hstored : Settles P Q (MadeOf source configured sessionId) s
      (storeImage bounds s image) := by
    rw [storeImage]
    cases hexisting : s.pendingImages.items.get? image.observedAtNs with
    | some existing =>
      exact settles_unchanged (unchanged_settleRepeated _ _ _) hwaits quiet_none
    | none =>
      apply stored_spec hactive hsource hcalibration hsession ?_ hwaits.infos htime hlater
      intro time found hfound
      rw [PyDict.get?_set] at hfound
      by_cases hkey : time = image.observedAtNs
      · rw [if_pos hkey] at hfound
        have hsame := Option.some.inj hfound
        rw [← hsame, hkey]
        exact hP
      · rw [if_neg hkey] at hfound
        exact hwaits.images time found hfound
  cases kind with
  | physical =>
    rw [offerImage, offerPhysical]
    by_cases hencoding : image.encoding ∉ source.encodings ∨ image.step < image.width * 3
    · rw [if_pos hencoding]
      exact hreject _ _
    · rw [if_neg hencoding]
      by_cases hdimensions : ¬(((source.minimumWidth : Int) ≤ image.width ∧
          image.width ≤ source.maximumWidth) ∧
          (source.minimumHeight : Int) ≤ image.height ∧ image.height ≤ source.maximumHeight)
      · rw [if_pos hdimensions]
        exact hreject _ _
      · rw [if_neg hdimensions]
        exact hstored
  | depth =>
    rw [offerImage, offerDepth]
    by_cases hencoding : image.encoding ∉ source.encodings
    · rw [if_pos hencoding]
      exact hreject _ _
    · rw [if_neg hencoding]
      exact hstored

/-- What an offered CameraInfo leads to, once it passed its checks. -/
theorem storeInfo_spec (hactive : s.state = .active) (hsource : s.source = some source)
    (hcalibration : s.calibration = some configured) (hsession : s.sessionId = some sessionId)
    (hwaits : Waits P Q s) {info : InfoMetadata kind} (hQ : Q info.observedAtNs info)
    (htime : ∀ image, P info.observedAtNs image → image.observedAtNs = info.observedAtNs)
    (hlater : ∀ last ∈ s.lastAcceptedAtNs, last < info.observedAtNs) :
    Settles P Q (MadeOf source configured sessionId) s (storeInfo bounds s info) := by
  rw [storeInfo]
  cases hexisting : s.pendingCameraInfo.items.get? info.observedAtNs with
  | some existing =>
    exact settles_unchanged (unchanged_settleRepeated _ _ _) hwaits quiet_none
  | none =>
    apply stored_spec hactive hsource hcalibration hsession hwaits.images ?_ htime hlater
    intro time found hfound
    rw [PyDict.get?_set] at hfound
    by_cases hkey : time = info.observedAtNs
    · rw [if_pos hkey] at hfound
      have hsame := Option.some.inj hfound
      rw [← hsame, hkey]
      exact hQ
    · rw [if_neg hkey] at hfound
      exact hwaits.infos time found hfound

/-- A submission to an active adapter settles, when what is submitted in the session has the
properties of what waits. -/
theorem submit_spec (hactive : s.state = .active) (hsource : s.source = some source)
    (hcalibration : s.calibration = some configured) (hsession : s.sessionId = some sessionId)
    (hwaits : Waits P Q s) (x : Submission kind)
    (himage : ∀ image ∈ x.image?, image.sessionId = sessionId → P image.observedAtNs image)
    (hinfo : ∀ info ∈ x.info?, info.sessionId = sessionId → info.calibration = configured →
      Q info.observedAtNs info)
    (htime : ∀ time image, P time image → image.observedAtNs = time) :
    Settles P Q (MadeOf source configured sessionId) s (submit bounds s x) := by
  cases x with
  | image image nowNs =>
    have hchecked := @validateCommon_spec kind bounds s source configured sessionId hactive
      hsource hcalibration hsession image.toMetadata nowNs
    rw [submit, submitImage]
    cases hrun : validateCommon bounds s image.toMetadata nowNs with
    | mk checked reply =>
      rw [hrun] at hchecked
      cases reply with
      | error error => exact settles_unchanged hchecked.1 hwaits (quiet_error error)
      | ok passed =>
        cases passed with
        | false => exact settles_unchanged hchecked.1 hwaits quiet_none
        | true =>
          obtain ⟨hsame, hown, hlater⟩ := hchecked.2 rfl
          have hsame : checked = s := hsame
          simp only [hsame, hsource]
          exact offerImage_spec hactive hsource hcalibration hsession hwaits
            (himage image rfl hown) (htime _) hlater
  | cameraInfo info nowNs =>
    have hchecked := @validateCommon_spec kind bounds s source configured sessionId hactive
      hsource hcalibration hsession info.toMetadata nowNs
    rw [submit, submitCameraInfo]
    cases hrun : validateCommon bounds s info.toMetadata nowNs with
    | mk checked reply =>
      rw [hrun] at hchecked
      cases reply with
      | error error => exact settles_unchanged hchecked.1 hwaits (quiet_error error)
      | ok passed =>
        cases passed with
        | false => exact settles_unchanged hchecked.1 hwaits quiet_none
        | true =>
          obtain ⟨hsame, hown, hlater⟩ := hchecked.2 rfl
          have hsame : checked = s := hsame
          simp only [hsame, hcalibration]
          by_cases hother : some info.calibration ≠ some configured
          · rw [if_pos hother]
            exact settles_unchanged (unchanged_rejectAt _ _ _) hwaits quiet_none
          · rw [if_neg hother]
            have hcalibrated := Option.some.inj (not_not.mp hother)
            exact storeInfo_spec hactive hsource hcalibration hsession hwaits
              (hinfo info rfl hown hcalibrated) (htime _) hlater

end Settling

end Camera
end AyyoHumanoid
