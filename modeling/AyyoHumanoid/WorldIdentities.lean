import AyyoHumanoid.JsonFields
import AyyoHumanoid.WorldRebuild

/-!
# What the identity of an observation determines

An identity is the digest of a canonical text. As long as the digest function
does not collide on the texts at hand, observations with one identity have one
text, hence the same kind, time, source and sensor, and the same producer and
result time where there is one.
-/

namespace AyyoHumanoid
namespace World

open PyText JsonText PyCollections

section Parts

/-- A share that may be absent is printable. -/
@[simp] theorem dumpable_optionalShare (value : Option UnitFloat) :
    (optionalShare value).dumpable = true := by
  cases value <;> rfl

/-- A float that may be absent is printable. -/
@[simp] theorem dumpable_optionalFloat (value : Option FloatToken) :
    (optionalFloat value).dumpable = true := by
  cases value <;> rfl

/-- A document that may be absent is printable when the document is. -/
theorem dumpable_elim {α : Type} {document : α → Json}
    (h : ∀ a, (document a).dumpable = true) (value : Option α) :
    (value.elim .null document).dumpable = true := by
  cases value with
  | none => rfl
  | some a => exact h a

/-- A list of documents is printable when each of them is. -/
theorem dumpable_map {α : Type} {document : α → Json}
    (h : ∀ a, (document a).dumpable = true) (values : List α) :
    (Json.arr (values.map document)).dumpable = true := by
  rw [dumpable_arr, List.forall_mem_map]
  exact fun value _ => h value

/-- A sensor. -/
@[simp] theorem dumpable_sensor (sensor : SensorIdentity) : sensor.document.dumpable = true := by
  simp [SensorIdentity.document, dumpable_obj, py_inj]

/-- A provenance. -/
@[simp] theorem dumpable_provenance (provenance : ObservationProvenance) :
    provenance.document.dumpable = true := by
  simp [ObservationProvenance.document, dumpable_obj, py_inj]

/-- A vector. -/
theorem dumpable_vector (vector : Vector3) : vector.document.dumpable = true := rfl

/-- A rotation. -/
theorem dumpable_quaternion (rotation : Quaternion) : rotation.document.dumpable = true := rfl

/-- A covariance. -/
theorem dumpable_covariance (covariance : CovarianceMatrix) :
    covariance.document.dumpable = true := by
  have hdimension : (Json.int covariance.dimension).dumpable = true := by
    refine dumpable_int ?_
    rcases covariance.dimension_eq with h | h <;> rw [h] <;> decide
  simp [CovarianceMatrix.document, dumpable_obj, py_inj, hdimension]

/-- A pose. -/
@[simp] theorem dumpable_pose (pose : Pose3D) : pose.document.dumpable = true := by
  simp [Pose3D.document, dumpable_obj, py_inj, dumpable_vector, dumpable_quaternion]

/-- A joint. -/
theorem dumpable_joint (joint : JointObservation) : joint.document.dumpable = true := by
  simp [JointObservation.document, dumpable_obj, py_inj]

/-- A region. -/
@[simp] theorem dumpable_region (region : ImageRegion2D) : region.document.dumpable = true := by
  simp [ImageRegion2D.document, dumpable_obj, py_inj]

/-- A producer. -/
@[simp] theorem dumpable_producer (producer : VisualInterpretationProducer) :
    producer.document.dumpable = true := by
  simp [VisualInterpretationProducer.document, dumpable_obj, py_inj]

/-- A detection. -/
theorem dumpable_detection (p : Platform) (detection : VisualDetection) :
    (detection.document p).dumpable = true := by
  simp [VisualDetection.document, dumpable_obj, py_inj]

/-- A model. -/
@[simp] theorem dumpable_model (p : Platform) (model : VisualModelProvenance) :
    (model.document p).dumpable = true := by
  simp [VisualModelProvenance.document, VisualModelProvenance.members, dumpable_obj, py_inj]

/-- An evaluation. -/
@[simp] theorem dumpable_reference (p : Platform) (reference : VisualEvaluationReference) :
    (reference.document p).dumpable = true := by
  simp [VisualEvaluationReference.document, dumpable_obj, py_inj]

end Parts

section Payloads

variable {p : Platform}

/-- A bounded number is printable. -/
theorem dumpable_nat {n : Nat} (h : n ≤ maxObservationTimeNs) : (Json.int n).dumpable = true :=
  dumpable_int (by
    rw [maxObservationTimeNs] at h
    omega)

/-- The payload of a robot state. -/
theorem dumpable_robotState (o : RobotStateObservation) : o.payload.dumpable = true := by
  have hjoints := dumpable_map dumpable_joint o.joints
  have hpose := dumpable_elim dumpable_pose o.basePose
  simp [RobotStateObservation.payload, dumpable_obj, py_inj, -dumpable_arr, hjoints, hpose]

/-- The payload of an inertial observation. -/
theorem dumpable_imu (o : ImuObservation) : o.payload.dumpable = true := by
  have hcovariance := dumpable_elim dumpable_covariance
  have hvector := dumpable_elim dumpable_vector
  have hquaternion := dumpable_elim dumpable_quaternion
  simp [ImuObservation.payload, dumpable_obj, py_inj, hcovariance, hvector, hquaternion]

/-- The payload of an audio frame. -/
theorem dumpable_audioFrame (o : AudioFrameObservation) : o.payload.dumpable = true := by
  have hcount : (Json.int 1).dumpable = true := by decide
  have hsize : (Json.int (o.frameCount * 2 : Nat)).dumpable = true :=
    dumpable_nat (by rw [maxObservationTimeNs]; have := o.frames; omega)
  have hframes : (Json.int o.frameCount).dumpable = true :=
    dumpable_nat (by rw [maxObservationTimeNs]; have := o.frames; omega)
  have hduration : (Json.int o.durationNs).dumpable = true :=
    dumpable_nat (o.lasting.2.trans (by decide))
  have hpeak : (Json.int o.peakAmplitude).dumpable = true :=
    dumpable_nat (o.peak.trans (by decide))
  have hresult : (Json.int o.resultAtNs).dumpable = true := dumpable_nat o.bounded.2.2
  have hrate : (Json.int o.sampleRateHz).dumpable = true :=
    dumpable_nat (o.rate.2.trans (by decide))
  rw [AudioFrameObservation.payload]
  generalize o.frameCount * 2 = size at hsize ⊢
  simp [dumpable_obj, py_inj, hcount, hsize, hframes, hduration, hpeak, hresult, hrate]

/-- The numbers of an image are printable. -/
theorem dumpable_image {bytes width height step : Nat} (h : ImageFits bytes width height step) :
    (Json.int width).dumpable = true ∧ (Json.int height).dumpable = true ∧
      (Json.int step).dumpable = true ∧ (Json.int (step * height : Nat)).dumpable = true := by
  obtain ⟨-, hwidth, -, hheight, -, -, hstep, -, hsize⟩ := h
  have hlimit : maxImageDataBytes ≤ maxObservationTimeNs := by decide
  have hfour : 4096 ≤ maxObservationTimeNs := by decide
  exact ⟨dumpable_nat (hwidth.trans hfour), dumpable_nat (hheight.trans hfour),
    dumpable_nat (hstep.trans hlimit), dumpable_nat (hsize.trans hlimit)⟩

/-- The payload of a colour frame. -/
theorem dumpable_visualFrame (o : VisualFrameObservation) : o.payload.dumpable = true := by
  obtain ⟨hwidth, hheight, hstep, hsize⟩ := dumpable_image o.fits
  rw [VisualFrameObservation.payload]
  generalize o.step * o.height = size at hsize ⊢
  simp [dumpable_obj, py_inj, hwidth, hheight, hstep, hsize]

/-- The payload of a depth frame. -/
theorem dumpable_depthFrame (o : DepthFrameObservation) : o.payload.dumpable = true := by
  obtain ⟨hwidth, hheight, hstep, hsize⟩ := dumpable_image o.fits
  have hpixels : o.width * o.height ≤ maxObservationTimeNs :=
    o.fits.2.2.2.2.1.trans (by decide)
  have hvalid : (Json.int o.validDepthCount).dumpable = true :=
    dumpable_nat (by have := o.counted; omega)
  have hinvalid : (Json.int o.invalidDepthCount).dumpable = true :=
    dumpable_nat (by have := o.counted; omega)
  rw [DepthFrameObservation.payload]
  generalize o.step * o.height = size at hsize ⊢
  simp [dumpable_obj, py_inj, hwidth, hheight, hstep, hsize, hvalid, hinvalid]

/-- The payload of a fused pair. -/
theorem dumpable_fusedRgbd (o : FusedRgbdObservation) :
    (fusedPayload p o.sensor o.rgbObservation o.depthObservation o.sources o.resultAtNs).dumpable =
      true := by
  have hresult : (Json.int o.resultAtNs).dumpable = true := dumpable_nat o.bounded.2
  simp [fusedPayload, componentDocument, dumpable_obj, py_inj, hresult,
    dumpable_visualFrame o.rgbObservation, dumpable_depthFrame o.depthObservation]

/-- The payload of an interpretation. -/
theorem dumpable_visualInterpretation (o : VisualInterpretationObservation p) :
    o.payload.dumpable = true := by
  have hdetections := dumpable_map (dumpable_detection p) o.detections
  have hresult : (Json.int o.resultAtNs).dumpable = true := dumpable_nat o.bounded.2
  cases hreference : o.evaluationReference with
  | none =>
    simp [VisualInterpretationObservation.payload, dumpable_obj, py_inj, -dumpable_arr,
      hdetections, hresult, hreference]
  | some reference =>
    simp [VisualInterpretationObservation.payload, dumpable_obj, py_inj, -dumpable_arr,
      hdetections, hresult, hreference]

/-- The payload of a body pose. -/
theorem dumpable_bodyPose (o : BodyPoseObservation) : o.payload.dumpable = true := by
  have hcovariance := dumpable_elim dumpable_covariance o.covariance
  simp [BodyPoseObservation.payload, dumpable_obj, py_inj, hcovariance]

/-- The payload of sensor health. -/
theorem dumpable_sensorHealth (o : SensorHealthObservation) : o.payload.dumpable = true := by
  simp [SensorHealthObservation.payload, dumpable_obj, py_inj]

end Payloads

section Determined

/-- The texts of the sensor kinds differ. -/
theorem sensorKind_value_inj {a b : SensorKind} : a.value = b.value ↔ a = b := by
  cases a <;> cases b <;> simp [SensorKind.value, py_inj]

/-- The texts of the source kinds differ. -/
theorem sourceKind_value_inj {a b : ObservationSourceKind} : a.value = b.value ↔ a = b := by
  cases a <;> cases b <;> simp [ObservationSourceKind.value, py_inj]

/-- The texts of the clocks differ. -/
theorem clock_value_inj {a b : ObservationClock} : a.value = b.value ↔ a = b := by
  cases a <;> cases b <;> simp [ObservationClock.value, py_inj]

/-- The texts of the transports differ. -/
theorem transport_value_inj {a b : ObservationTransport} : a.value = b.value ↔ a = b := by
  cases a <;> cases b <;> simp [ObservationTransport.value, py_inj]

/-- The texts of the kinds of observations differ. -/
theorem fingerprintKind_value_inj {a b : ObservationFingerprintKind} :
    a.value = b.value ↔ a = b := by
  cases a <;> cases b <;> simp [ObservationFingerprintKind.value, py_inj]

/-- An identifier is its text. -/
theorem Identifier.text_inj {maximum : Nat} {a b : Identifier maximum} :
    a.text = b.text ↔ a = b := by
  cases a
  cases b
  simp

/-- A frame is its text. -/
theorem FrameId.text_inj {a b : FrameId} : a.text = b.text ↔ a = b := by
  cases a
  cases b
  simp

/-- A digest is its text. -/
theorem Digest.text_inj {a b : Digest} : a.text = b.text ↔ a = b := by
  cases a
  cases b
  simp

/-- A tagged digest is its text. -/
theorem TaggedDigest.text_inj {tag : String} {a b : TaggedDigest tag} :
    a.text = b.text ↔ a = b := by
  rw [TaggedDigest.text, TaggedDigest.text, List.append_cancel_left_eq, Digest.text_inj]
  cases a
  cases b
  simp

/-- The text of a sensor determines it. -/
theorem determined_sensor : Determined SensorIdentity.document where
  dumpable := dumpable_sensor
  injective := fun a b h => by
    have hvalues := encode_values (dumpable_sensor a) (dumpable_sensor b) rfl h
    simp only [List.map_cons, List.map_nil, encode_str_inj, List.cons.injEq, and_true,
      sensorKind_value_inj, FrameId.text_inj, Identifier.text_inj] at hvalues
    obtain ⟨hframe, hkind, hid⟩ := hvalues
    cases a
    cases b
    simp only at hframe hkind hid
    rw [hframe, hkind, hid]

/-- The text of a provenance determines it. -/
theorem determined_provenance : Determined ObservationProvenance.document where
  dumpable := dumpable_provenance
  injective := fun a b h => by
    have hvalues := encode_values (dumpable_provenance a) (dumpable_provenance b) rfl h
    simp only [List.map_cons, List.map_nil, encode_str_inj, List.cons.injEq, and_true,
      clock_value_inj, sourceKind_value_inj, transport_value_inj, Identifier.text_inj] at hvalues
    obtain ⟨hclock, hinterface, hid, hkind, htransport⟩ := hvalues
    cases a
    cases b
    simp only at hclock hinterface hid hkind htransport
    subst hclock hinterface hid hkind htransport
    rfl

end Determined

section Identity

variable {p : Platform}

/-- The kind in the fingerprint of an observation. -/
def Observation.fingerprintKind : Observation p → ObservationFingerprintKind
  | .robotState _ => .robotState
  | .imu _ => .imu
  | .audioFrame _ => .audioFrame
  | .visualFrame _ => .visualFrame
  | .depthFrame _ => .depthFrame
  | .fusedRgbd _ => .fusedRgbd
  | .visualInterpretation _ => .visualInterpretation
  | .semanticEvidence _ => .semanticEvidence
  | .bodyPose _ => .bodyPose
  | .sensorHealth _ => .sensorHealth
  | .environmentEntity _ => .environmentEntity

/-- The confidence in the document of an observation. -/
def Observation.confidence : Observation p → Json
  | .robotState o => .float o.confidence.token
  | .imu o => optionalShare o.quality
  | .bodyPose o => optionalShare o.quality
  | .environmentEntity o => .float o.confidence.token
  | _ => .null

/-- The payload in the document of an observation. -/
def Observation.payload : Observation p → Json
  | .robotState o => o.payload
  | .imu o => o.payload
  | .audioFrame o => o.payload
  | .visualFrame o => o.payload
  | .depthFrame o => o.payload
  | .fusedRgbd o =>
    fusedPayload p o.sensor o.rgbObservation o.depthObservation o.sources o.resultAtNs
  | .visualInterpretation o => o.payload
  | .semanticEvidence o => semanticPayload o.source o.items
  | .bodyPose o => o.payload
  | .sensorHealth o => o.payload
  | .environmentEntity o => o.payload

/-- The document that an observation is named by. -/
def Observation.document (o : Observation p) : Json :=
  observationDocument o.fingerprintKind o.robotId o.observedAtNs o.provenance o.confidence o.payload

/-- The text that an observation is named by. -/
def Observation.text (o : Observation p) : PyStr := encode o.document

/-- The identity of an observation is the digest of its text. -/
theorem Observation.observationId_eq (o : Observation p) :
    o.observationId = ⟨digestOf p o.text⟩ := by
  cases o <;> rfl

/-- Observations of sensors. -/
def Observation.Sensed : Observation p → Prop
  | .environmentEntity _ | .semanticEvidence _ => False
  | _ => True

/-- The payload of an observation of a sensor is printable. -/
theorem Observation.dumpable_payload {o : Observation p} (h : o.Sensed) :
    o.payload.dumpable = true := by
  cases o with
  | robotState o => exact dumpable_robotState o
  | imu o => exact dumpable_imu o
  | audioFrame o => exact dumpable_audioFrame o
  | visualFrame o => exact dumpable_visualFrame o
  | depthFrame o => exact dumpable_depthFrame o
  | fusedRgbd o => exact dumpable_fusedRgbd o
  | visualInterpretation o => exact dumpable_visualInterpretation o
  | semanticEvidence o => exact h.elim
  | bodyPose o => exact dumpable_bodyPose o
  | sensorHealth o => exact dumpable_sensorHealth o
  | environmentEntity o => exact h.elim

/-- The time of an observation is bounded. -/
theorem Observation.observedAtNs_le (o : Observation p) : o.observedAtNs ≤ maxObservationTimeNs := by
  cases o with
  | robotState o => exact o.bounded
  | imu o => exact o.bounded
  | audioFrame o => exact o.bounded.2.1.trans o.bounded.2.2
  | visualFrame o => exact o.bounded.2
  | depthFrame o => exact o.bounded.2
  | fusedRgbd o => exact o.bounded.1.trans o.bounded.2
  | visualInterpretation o => exact o.bounded.1.trans o.bounded.2
  | semanticEvidence o => exact o.bounded.1.trans o.bounded.2
  | bodyPose o => exact o.bounded
  | sensorHealth o => exact o.bounded
  | environmentEntity o => exact o.bounded

/-- The document of an observation of a sensor is printable. -/
theorem Observation.dumpable_document {o : Observation p} (h : o.Sensed) :
    o.document.dumpable = true := by
  have hpayload := Observation.dumpable_payload h
  have htime := dumpable_nat o.observedAtNs_le
  have hconfidence : o.confidence.dumpable = true := by
    cases o <;> simp [Observation.confidence]
  simp [Observation.document, observationDocument, dumpable_obj, py_inj, hpayload, htime,
    hconfidence]

/-- Observations with one text agree in everything that the boundary goes by. -/
structure SameRecord (a b : Observation p) : Prop where
  /-- They are of one kind. -/
  kind : a.fingerprintKind = b.fingerprintKind
  /-- They are of one time. -/
  observedAtNs : a.observedAtNs = b.observedAtNs
  /-- They are of one source. -/
  provenance : a.provenance = b.provenance
  /-- Their payloads have one text. -/
  payload : encode a.payload = encode b.payload

/-- One text means one record. -/
theorem sameRecord_of_text {a b : Observation p} (ha : a.Sensed) (hb : b.Sensed)
    (h : a.text = b.text) : SameRecord a b := by
  have hvalues := encode_values (Observation.dumpable_document ha)
    (Observation.dumpable_document hb) rfl h
  simp only [List.map_cons, List.map_nil, List.cons.injEq, and_true, encode_str_inj,
    fingerprintKind_value_inj] at hvalues
  obtain ⟨-, hkind, htime, hpayload, hprovenance, -⟩ := hvalues
  exact {
    kind := hkind
    observedAtNs := Int.ofNat.inj (encode_int_injective (dumpable_nat a.observedAtNs_le)
      (dumpable_nat b.observedAtNs_le) htime)
    provenance := determined_provenance.injective _ _ hprovenance
    payload := hpayload }

end Identity

section Fields

variable {p : Platform} {a b : Observation p}

/-- Records of one payload text have one text in each field that both have. -/
theorem SameRecord.field (h : SameRecord a b) (ha : a.Sensed) (hb : b.Sensed) (key : PyStr)
    {left right : List (PyStr × Json)} {value other : Json} (hleft : a.payload = .obj left)
    (hright : b.payload = .obj right) (hvalue : (key, value) ∈ left) (hother : (key, other) ∈ right) :
    encode value = encode other := by
  have hdumpable := Observation.dumpable_payload ha
  have hdumpable' := Observation.dumpable_payload hb
  have htext := h.payload
  rw [hleft] at hdumpable htext
  rw [hright] at hdumpable' htext
  exact encode_field hdumpable hdumpable' htext key hvalue hother

/-- Observations of one record are of one sensor. -/
theorem SameRecord.sensor_eq (h : SameRecord a b) (ha : a.Sensed) (hb : b.Sensed) :
    a.sensor? = b.sensor? := by
  have hkind := h.kind
  -- Every payload but that of a robot state has its sensor under the same name.
  have hfield : ∀ {left right : List (PyStr × Json)} {sensor other : SensorIdentity},
      a.payload = .obj left → b.payload = .obj right →
      (py "sensor", sensor.document) ∈ left → (py "sensor", other.document) ∈ right →
      some sensor = some other := fun hleft hright hsensor hother =>
    congrArg some (determined_sensor.injective _ _ (h.field ha hb _ hleft hright hsensor hother))
  cases a with
  | robotState o =>
    cases b with
    | robotState o' => rfl
    | _ => cases hkind
  | imu o =>
    cases b with
    | imu o' => exact hfield rfl rfl (by simp) (by simp)
    | _ => cases hkind
  | audioFrame o =>
    cases b with
    | audioFrame o' => exact hfield rfl rfl (by simp) (by simp)
    | _ => cases hkind
  | visualFrame o =>
    cases b with
    | visualFrame o' => exact hfield rfl rfl (by simp) (by simp)
    | _ => cases hkind
  | depthFrame o =>
    cases b with
    | depthFrame o' => exact hfield rfl rfl (by simp) (by simp)
    | _ => cases hkind
  | fusedRgbd o =>
    cases b with
    | fusedRgbd o' => exact hfield rfl rfl (by simp) (by simp)
    | _ => cases hkind
  | visualInterpretation o =>
    cases b with
    | visualInterpretation o' => exact hfield rfl rfl (by simp) (by simp)
    | _ => cases hkind
  | semanticEvidence o => exact ha.elim
  | bodyPose o =>
    cases b with
    | bodyPose o' => exact hfield rfl rfl (by simp) (by simp)
    | _ => cases hkind
  | sensorHealth o =>
    cases b with
    | sensorHealth o' => exact hfield rfl rfl (by simp) (by simp)
    | _ => cases hkind
  | environmentEntity o => exact ha.elim

end Fields

section Collisions

variable {p : Platform}

/-- The digest function does not collide on the given texts. -/
def CollisionFree (p : Platform) (texts : List PyStr) : Prop :=
  ∀ a ∈ texts, ∀ b ∈ texts, p.sha256 a = p.sha256 b → a = b

/-- Without collisions one digest means one text. -/
theorem CollisionFree.text_eq {texts : List PyStr} (h : CollisionFree p texts) {a b : PyStr}
    (ha : a ∈ texts) (hb : b ∈ texts) (hdigest : digestOf p a = digestOf p b) : a = b :=
  h a ha b hb (congrArg Digest.text hdigest)

end Collisions

end World
end AyyoHumanoid
