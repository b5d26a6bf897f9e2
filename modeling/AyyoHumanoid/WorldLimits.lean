import AyyoHumanoid.ArtifactText
import AyyoHumanoid.JsonSizes
import AyyoHumanoid.WorldDerived

/-!
# The size of a fused pair

The records of the world model hold short texts and bounded numbers, so their
documents are of a known size. A fused pair nests two of them, and its document
stays far below the limits on documents that are digested. The constructor of a
pair therefore refuses only what its own checks refuse.
-/

namespace AyyoHumanoid
namespace World

open PyText JsonText

section Sizes

/-- A document of limited size. Every value inside is within the limits of its own. -/
structure Sized (depth nodes characters : Nat) (value : Json) : Prop where
  nodes : value.nodes ≤ nodes
  /-- The nesting. -/
  depth : ∀ start, value.FitsDepth (start + depth) start
  characters : value.characters ≤ characters
  /-- The values inside. -/
  own : ∀ start, ∀ visit ∈ value.visits start, OwnWithin .canonical visit.1

/-- A document of limited size is within the limits on digested documents. -/
theorem Sized.within {depth nodes characters : Nat} {value : Json}
    (h : Sized depth nodes characters value) (hdepth : depth ≤ 24) (hnodes : nodes ≤ 600000)
    (hcharacters : characters ≤ 32000000) : WithinLimits .canonical value where
  nodes := h.nodes.trans hnodes
  depth := by
    intro visit hvisit
    have hfits := h.depth 0 visit hvisit
    exact hfits.trans (by rw [Nat.zero_add]; exact hdepth)
  characters := h.characters.trans hcharacters
  own := h.own 0

/-- A value without parts. -/
theorem Sized.leaf {depth nodes characters : Nat} {value : Json} (hparts : value.children = [])
    (hnodes : 1 ≤ nodes) (hcharacters : value.ownCharacters ≤ characters)
    (hown : OwnWithin .canonical value) : Sized depth nodes characters value where
  nodes := by
    rw [Json.nodes_eq, hparts, List.map_nil, List.sum_nil]
    exact hnodes
  depth := by
    intro start
    rw [Json.fitsDepth_iff, hparts]
    exact ⟨Nat.le_add_right start depth, List.forall_mem_nil _⟩
  characters := by
    rw [Json.characters_eq, hparts, List.map_nil, List.sum_nil]
    exact hcharacters
  own := by
    intro start
    rw [Json.visits_eq, hparts, List.flatMap_nil, List.forall_mem_cons]
    exact ⟨hown, List.forall_mem_nil _⟩

/-- There are so many keys, and each is short. -/
def KeysFit (count : Nat) (keys : List PyStr) : Prop :=
  keys.length = count ∧ count ≤ 4096 ∧ ∀ key ∈ keys, key.length ≤ 40

instance (count : Nat) (keys : List PyStr) : Decidable (KeysFit count keys) :=
  inferInstanceAs (Decidable (_ ∧ _))

/-- A dictionary of short keys and limited values. -/
theorem Sized.obj (depth nodes characters : Nat) {entries : List (PyStr × Json)} {count : Nat}
    {keys : List PyStr} (hfit : KeysFit count keys) (hkeys : entries.map Prod.fst = keys)
    (hvalues : ∀ entry ∈ entries, Sized depth nodes characters entry.2) :
    Sized (depth + 1) (1 + count * nodes) (count * (40 + characters)) (.obj entries) := by
  obtain ⟨hcount, hfew, hshort⟩ := hfit
  have hlength : entries.length = count := by
    rw [← hcount, ← hkeys, List.length_map]
  have hinside := @Json.sum_map_le _ entries (fun entry => entry.2.nodes) nodes
    fun entry hentry => (hvalues entry hentry).nodes
  have htexts := @Json.sum_map_le _ entries (fun entry => entry.2.characters) characters
    fun entry hentry => (hvalues entry hentry).characters
  have hnames := @Json.sum_map_le _ keys List.length 40 hshort
  rw [hlength] at hinside htexts
  rw [hcount] at hnames
  exact {
    nodes := by
      rw [Json.nodes_obj]
      exact Nat.add_le_add_left hinside 1
    depth := by
      intro start
      rw [Json.fitsDepth_obj]
      refine ⟨Nat.le_add_right start _, fun entry hentry => ?_⟩
      have hfits := (hvalues entry hentry).depth (start + 1)
      rwa [Nat.add_right_comm, Nat.add_assoc] at hfits
    characters := by
      rw [Json.characters_of_keys keys hkeys, Nat.mul_add]
      exact Nat.add_le_add hnames htexts
    own := by
      intro start
      rw [Json.visits_eq, List.forall_mem_cons]
      constructor
      · refine ⟨by rw [hlength]; exact hfew.trans (by decide), fun entry hentry => ?_⟩
        have hkey : entry.1 ∈ keys := hkeys ▸ List.mem_map_of_mem hentry
        exact (hshort entry.1 hkey).trans (by decide)
      · intro visit hvisit
        obtain ⟨child, hchild, hvisit⟩ := List.mem_flatMap.mp hvisit
        obtain ⟨entry, hentry, rfl⟩ := List.mem_map.mp hchild
        exact (hvalues entry hentry).own (start + 1) visit hvisit }

variable {depth nodes characters : Nat}

/-- A smaller document. -/
theorem Sized.mono {shallower fewer less : Nat} {value : Json}
    (h : Sized shallower fewer less value) (hdepth : shallower ≤ depth) (hnodes : fewer ≤ nodes)
    (hcharacters : less ≤ characters) : Sized depth nodes characters value where
  nodes := h.nodes.trans hnodes
  depth := fun start visit hvisit =>
    (h.depth start visit hvisit).trans (Nat.add_le_add_left hdepth start)
  characters := h.characters.trans hcharacters
  own := h.own

/-- A text that may be written and is short. -/
def ShortText (text : PyStr) : Prop := utf8Encodable text = true ∧ text.length ≤ 300

/-- A short text. -/
theorem Sized.str {text : PyStr} (h : ShortText text) :
    Sized depth (nodes + 1) (characters + 300) (.str text) :=
  .leaf rfl (Nat.le_add_left 1 nodes) (h.2.trans (Nat.le_add_left 300 characters))
    ⟨h.1, h.2.trans (by decide)⟩

/-- A bounded number. -/
theorem Sized.nat {n : Nat} (h : n ≤ maxObservationTimeNs) :
    Sized depth (nodes + 1) characters (.int n) := by
  have hbits : Json.bitLength (n : Int) ≤ 63 := by
    rw [Json.bitLength, Int.natAbs_natCast, Nat.size_le]
    rw [maxObservationTimeNs] at h
    omega
  exact .leaf rfl (Nat.le_add_left 1 nodes) (Nat.zero_le characters) (hbits.trans (by decide))

/-- A truth value. -/
theorem Sized.bool (value : Bool) : Sized depth (nodes + 1) characters (.bool value) :=
  .leaf rfl (Nat.le_add_left 1 nodes) (Nat.zero_le characters) trivial

/-- A float. -/
theorem Sized.float (token : FloatToken) : Sized depth (nodes + 1) characters (.float token) :=
  .leaf rfl (Nat.le_add_left 1 nodes) (Nat.zero_le characters) trivial

/-- Nothing. -/
theorem Sized.null : Sized depth (nodes + 1) characters .null :=
  .leaf rfl (Nat.le_add_left 1 nodes) (Nat.zero_le characters) trivial

end Sizes

section Texts

/-- A literal. -/
theorem shortText_py {text : String} (h : (py text).length ≤ 300) : ShortText (py text) :=
  ⟨utf8Encodable_py text, h⟩

/-- An identifier. -/
theorem shortText_canonical {text : PyStr} (h : IsCanonical 256 text) : ShortText text :=
  ⟨utf8Encodable_of_printable (Artifacts.printable_identifierRest h.1), h.2.trans (by decide)⟩

/-- The name of a frame. -/
theorem shortText_frame (frame : FrameId) : ShortText frame.text := by
  obtain ⟨-, hchars, hlength, -⟩ := frame.frame
  refine ⟨utf8Encodable_of_printable ?_, hlength.trans (by decide)⟩
  rw [List.all_eq_true] at hchars ⊢
  intro c hc
  have hchar := hchars c hc
  simp only [isFrameChar, isAsciiLetter, Bool.or_eq_true, Bool.and_eq_true, decide_eq_true_eq,
    beq_iff_eq] at hchar
  simp only [isPrintable, Bool.and_eq_true, decide_eq_true_eq]
  omega

/-- A digest. -/
theorem shortText_digest (digest : Digest) : ShortText digest.text :=
  ⟨digest.hex.encodable, digest.hex.1.le.trans (by decide)⟩

/-- A digest behind a tag. -/
theorem shortText_tagged {tag : String} (h : (py tag).length ≤ 200) (id : TaggedDigest tag) :
    ShortText id.text := by
  have hlength := id.digest.hex.1
  constructor
  · rw [TaggedDigest.text, utf8Encodable_append, utf8Encodable_py, id.digest.hex.encodable]
    rfl
  · rw [TaggedDigest.text, List.length_append]
    omega

/-- A fingerprint of an observation. -/
theorem shortText_fingerprint (fingerprint : ObservationFingerprint) :
    ShortText fingerprint.text := by
  have hlength := fingerprint.digest.hex.1
  have hmiddle : (py ":sha256:").length = 8 := by decide
  have hkind : ShortText fingerprint.kind.value ∧ fingerprint.kind.value.length ≤ 30 := by
    cases fingerprint.kind <;> exact ⟨shortText_py (by decide), by decide⟩
  constructor
  · rw [ObservationFingerprint.text, utf8Encodable_append, utf8Encodable_append, hkind.1.1,
      fingerprint.digest.hex.encodable, utf8Encodable_py]
    rfl
  · rw [ObservationFingerprint.text, List.length_append, List.length_append, hmiddle]
    omega

/-- The texts of the enumerations. -/
theorem shortText_values : (∀ kind : SensorKind, ShortText kind.value) ∧
    (∀ kind : ObservationSourceKind, ShortText kind.value) ∧
    (∀ clock : ObservationClock, ShortText clock.value) ∧
    (∀ transport : ObservationTransport, ShortText transport.value) ∧
    (∀ availability : SensorAvailability, ShortText availability.value) ∧
    ∀ encoding : DepthEncoding, ShortText encoding.value := by
  refine ⟨?_, ?_, ?_, ?_, ?_, ?_⟩
  · intro kind
    cases kind <;> exact shortText_py (by decide)
  · intro kind
    cases kind <;> exact shortText_py (by decide)
  · intro clock
    cases clock <;> exact shortText_py (by decide)
  · intro transport
    cases transport <;> exact shortText_py (by decide)
  · intro availability
    cases availability <;> exact shortText_py (by decide)
  · intro encoding
    cases encoding <;> exact shortText_py (by decide)

end Texts

section Keys

/-- The keys of a sensor. -/
def sensorKeys : List PyStr := [py "frame_id", py "kind", py "sensor_id"]

/-- The keys of a provenance. -/
def provenanceKeys : List PyStr :=
  [py "clock", py "interface", py "source_id", py "source_kind", py "transport"]

/-- The keys of the payload of a colour frame. -/
def visualFrameKeys : List PyStr :=
  [py "availability", py "calibration_id", py "data_size_bytes", py "encoding", py "height",
    py "is_bigendian", py "sensor", py "step", py "width"]

/-- The keys of the payload of a depth frame. -/
def depthFrameKeys : List PyStr :=
  [py "availability", py "calibration_id", py "calibration_record_id", py "data_size_bytes",
    py "encoding", py "height", py "invalid_depth_count", py "is_bigendian", py "maximum_depth_m",
    py "minimum_depth_m", py "payload_sha256", py "sensor", py "session_id",
    py "source_manifest_id", py "step", py "valid_depth_count", py "width"]

/-- The keys of a component. -/
def componentKeys : List PyStr :=
  [py "fingerprint", py "observation_id", py "payload", py "provenance"]

/-- The keys of the document that names a pair. -/
def pairKeys : List PyStr :=
  [py "depth_observation_id", py "depth_producer_id", py "depth_session_id",
    py "depth_source_fingerprint_sha256", py "observed_at_ns", py "pairing_policy_id",
    py "pairing_policy_version", py "rgb_observation_id", py "rgb_producer_id",
    py "rgb_session_id", py "rgb_source_fingerprint_sha256", py "schema",
    py "synchronization_session_id"]

/-- The keys of the payload of a pair. -/
def fusedKeys : List PyStr :=
  [py "depth_camera_frame_id", py "depth_observation", py "depth_producer_id",
    py "depth_session_id", py "depth_source_fingerprint_sha256", py "pair_id",
    py "pairing_policy_id", py "pairing_policy_version", py "result_at_ns",
    py "rgb_camera_frame_id", py "rgb_observation", py "rgb_producer_id", py "rgb_session_id",
    py "rgb_source_fingerprint_sha256", py "sensor", py "spatial_registration_validated",
    py "synchronization_session_id"]

/-- The keys of the document of an observation. -/
def observationKeys : List PyStr :=
  [py "confidence", py "kind", py "observed_at_ns", py "payload", py "provenance", py "robot_id",
    py "schema"]

/-- All of them are short. -/
theorem keysFit : KeysFit 3 sensorKeys ∧ KeysFit 5 provenanceKeys ∧ KeysFit 9 visualFrameKeys ∧
    KeysFit 17 depthFrameKeys ∧ KeysFit 4 componentKeys ∧ KeysFit 13 pairKeys ∧
    KeysFit 17 fusedKeys ∧ KeysFit 7 observationKeys := by
  decide

end Keys

section Records

/-- The document of a sensor. -/
theorem sized_sensor (sensor : SensorIdentity) : Sized 1 6 1700 sensor.document := by
  have hkind := shortText_values.1 sensor.kind
  refine (@Sized.obj 0 1 300 _ 3 sensorKeys keysFit.1 rfl ?_).mono le_rfl (by decide) (by decide)
  simp only [List.forall_mem_cons]
  exact ⟨.str (shortText_frame _), .str hkind,
    .str (shortText_canonical sensor.sensorId.canonical), List.forall_mem_nil _⟩

/-- The document of a provenance. -/
theorem sized_provenance (provenance : ObservationProvenance) :
    Sized 1 6 1700 provenance.document := by
  obtain ⟨-, hkinds, hclocks, htransports, -⟩ := shortText_values
  refine @Sized.obj 0 1 300 _ 5 provenanceKeys keysFit.2.1 rfl ?_
  simp only [List.forall_mem_cons]
  exact ⟨.str (hclocks _), .str (shortText_canonical provenance.interface.canonical),
    .str (shortText_canonical provenance.sourceId.canonical), .str (hkinds _),
    .str (htransports _), List.forall_mem_nil _⟩

/-- The numbers of an image are bounded. -/
theorem ImageFits.numbers {bytesPerPixel width height step : Nat}
    (h : ImageFits bytesPerPixel width height step) : step * height ≤ maxObservationTimeNs ∧
      height ≤ maxObservationTimeNs ∧ step ≤ maxObservationTimeNs ∧
        width ≤ maxObservationTimeNs ∧ width * height ≤ maxObservationTimeNs := by
  obtain ⟨-, hwidth, -, hheight, hpixels, -, hstep, -, hsize⟩ := h
  rw [maxImageDataBytes] at hstep hsize
  rw [maxObservationTimeNs]
  omega

/-- The payload of a colour frame. -/
theorem sized_visualFrame (o : VisualFrameObservation) : Sized 2 103 29580 o.payload := by
  obtain ⟨hsize, hheight, hstep, hwidth, -⟩ := o.fits.numbers
  obtain ⟨-, -, -, -, havailability, -⟩ := shortText_values
  refine (@Sized.obj 1 6 1700 _ 9 visualFrameKeys keysFit.2.2.1 rfl ?_).mono le_rfl (by decide)
    (by decide)
  simp only [List.forall_mem_cons]
  exact ⟨.str (havailability _), .str (shortText_tagged (by decide) _), .nat hsize,
    .str (shortText_py (by decide)), .nat hheight, .bool _, sized_sensor _, .nat hstep,
    .nat hwidth, List.forall_mem_nil _⟩

/-- The payload of a depth frame. -/
theorem sized_depthFrame (o : DepthFrameObservation) : Sized 2 103 29580 o.payload := by
  obtain ⟨hsize, hheight, hstep, hwidth, hpixels⟩ := o.fits.numbers
  obtain ⟨-, -, -, -, havailability, hencoding⟩ := shortText_values
  have hvalid : o.validDepthCount ≤ maxObservationTimeNs :=
    (Nat.le_of_add_right_le o.counted.2.le).trans hpixels
  have hinvalid : o.invalidDepthCount ≤ maxObservationTimeNs :=
    (Nat.le_of_add_left_le o.counted.2.le).trans hpixels
  refine @Sized.obj 1 6 1700 _ 17 depthFrameKeys keysFit.2.2.2.1 rfl ?_
  simp only [List.forall_mem_cons]
  exact ⟨.str (havailability _), .str (shortText_tagged (by decide) _),
    .str (shortText_tagged (by decide) _), .nat hsize, .str (hencoding _), .nat hheight,
    .nat hinvalid, .bool _, .float _, .float _, .str (shortText_digest _), sized_sensor _,
    .str (shortText_tagged (by decide) _), .str (shortText_tagged (by decide) _), .nat hstep,
    .nat hvalid, .nat hwidth, List.forall_mem_nil _⟩

/-- The document of a component. -/
theorem sized_component (fingerprint : ObservationFingerprint) {payload : Json}
    (hpayload : Sized 2 103 29580 payload) (provenance : ObservationProvenance) :
    Sized 3 413 118480 (componentDocument fingerprint payload provenance) := by
  refine @Sized.obj 2 103 29580 _ 4 componentKeys keysFit.2.2.2.2.1 rfl ?_
  simp only [List.forall_mem_cons]
  exact ⟨.str (shortText_fingerprint _), .str (shortText_tagged (by decide) _), hpayload,
    (sized_provenance provenance).mono (by decide) (by decide) (by decide),
    List.forall_mem_nil _⟩

end Records

section Pairs

variable {p : Platform} {rgb : VisualFrameObservation} {depth : DepthFrameObservation}
  {sources : FusionSources} {sensor : SensorIdentity} {resultAtNs : Nat}

/-- The sessions of a pair have identifiers. -/
structure FusionSources.Canonical (sources : FusionSources) : Prop where
  /-- `rgb_session_id`. -/
  rgb : IsCanonical 256 sources.rgbSessionId
  /-- `depth_session_id`. -/
  depth : IsCanonical 256 sources.depthSessionId
  /-- `synchronization_session_id`. -/
  synchronization : IsCanonical 256 sources.synchronizationSessionId

/-- The document that names a pair. -/
theorem sized_pair (hsources : sources.Canonical) :
    Sized 1 14 4420 (pairDocument p rgb depth sources) := by
  have hobserved := rgb.bounded.2
  refine @Sized.obj 0 1 300 _ 13 pairKeys keysFit.2.2.2.2.2.1 rfl ?_
  simp only [List.forall_mem_cons]
  exact ⟨.str (shortText_tagged (by decide) _),
    .str (shortText_canonical sources.depthProducerId.canonical),
    .str (shortText_canonical hsources.depth), .str (shortText_digest _), .nat hobserved,
    .str (shortText_canonical sources.pairingPolicyId.canonical),
    .str (shortText_canonical sources.pairingPolicyVersion.canonical),
    .str (shortText_tagged (by decide) _),
    .str (shortText_canonical sources.rgbProducerId.canonical),
    .str (shortText_canonical hsources.rgb), .str (shortText_digest _),
    .str (shortText_py (by decide)), .str (shortText_canonical hsources.synchronization),
    List.forall_mem_nil _⟩

/-- The payload of a pair. -/
theorem sized_fused (hsources : sources.Canonical) (hresult : resultAtNs ≤ maxObservationTimeNs) :
    Sized 4 7022 2014840 (fusedPayload p sensor rgb depth sources resultAtNs) := by
  have hpair := shortText_tagged (by decide)
    (⟨documentDigest p (pairDocument p rgb depth sources)⟩ : TaggedDigest "rgbd-pair-sha256-")
  refine @Sized.obj 3 413 118480 _ 17 fusedKeys keysFit.2.2.2.2.2.2.1 rfl ?_
  simp only [List.forall_mem_cons]
  exact ⟨.str (shortText_frame _), sized_component _ (sized_depthFrame depth) _,
    .str (shortText_canonical sources.depthProducerId.canonical),
    .str (shortText_canonical hsources.depth), .str (shortText_digest _), .str hpair,
    .str (shortText_canonical sources.pairingPolicyId.canonical),
    .str (shortText_canonical sources.pairingPolicyVersion.canonical), .nat hresult,
    .str (shortText_frame _), sized_component _ (sized_visualFrame rgb) _,
    .str (shortText_canonical sources.rgbProducerId.canonical),
    .str (shortText_canonical hsources.rgb), .str (shortText_digest _),
    (sized_sensor sensor).mono (by decide) (by decide) (by decide), .bool _,
    .str (shortText_canonical hsources.synchronization), List.forall_mem_nil _⟩

/-- The document of a pair. -/
theorem sized_observation {robotId : Name} {provenance : ObservationProvenance} {payload : Json}
    (hpayload : Sized 4 7022 2014840 payload) : Sized 5 49155 14104160
      (observationDocument .fusedRgbd robotId rgb.observedAtNs provenance .null payload) := by
  refine @Sized.obj 4 7022 2014840 _ 7 observationKeys keysFit.2.2.2.2.2.2.2 rfl ?_
  simp only [List.forall_mem_cons]
  exact ⟨.null, .str (shortText_py (by decide)), .nat rgb.bounded.2, hpayload,
    (sized_provenance provenance).mono (by decide) (by decide) (by decide),
    .str (shortText_canonical robotId.canonical), .str (shortText_py (by decide)),
    List.forall_mem_nil _⟩

/-- What the constructor of a pair checks of its parts. -/
structure Pairable (robotId : Name) (sensor : SensorIdentity) (rgb : VisualFrameObservation)
    (depth : DepthFrameObservation) (sources : FusionSources)
    (provenance : ObservationProvenance) : Prop where
  sensor_kind : sensor.kind = .rgbdFusion
  /-- Both frames are of the robot. -/
  robot_eq : rgb.robotId = robotId ∧ depth.robotId = robotId
  /-- The frames were acquired at one time. -/
  time_eq : rgb.observedAtNs = depth.observedAtNs
  /-- The sessions have identifiers. -/
  canonical : sources.Canonical
  /-- The mounts are not the optical frames. -/
  mounts : sources.rgbCameraFrameId ≠ rgb.sensor.frameId ∧
    sources.depthCameraFrameId ≠ depth.sensor.frameId
  /-- There is one clock. -/
  clock_eq : rgb.provenance.clock = depth.provenance.clock ∧
    depth.provenance.clock = provenance.clock

/-- A pair of such parts is built exactly when its result time is bounded. -/
theorem FusedRgbdObservation.exists_build_iff {robotId : Name}
    {provenance : ObservationProvenance} {availability : SensorAvailability}
    (h : Pairable robotId sensor rgb depth sources provenance)
    (hmeasuring : availability.Measuring) (hresult : rgb.observedAtNs ≤ resultAtNs) :
    (∃ observation, build p robotId sensor rgb depth sources resultAtNs provenance availability =
      .ok observation) ↔ resultAtNs ≤ maxObservationTimeNs := by
  constructor
  · rintro ⟨observation, hbuild⟩
    simp only [build, Checks.ensure_bind_ok] at hbuild
    obtain ⟨_, _, _, _, _, _, _, _, hbounded, -⟩ := hbuild
    exact hbounded.2
  · intro hbounded
    have hpair : sha256Document p (pairDocument p rgb depth sources) =
        .ok (documentDigest p (pairDocument p rgb depth sources)) :=
      sha256Document_of_within
        ((sized_pair h.canonical).within (by decide) (by decide) (by decide))
    have hsized : Sized 5 49155 14104160 (observationDocument .fusedRgbd robotId
        rgb.observedAtNs provenance .null (fusedPayload p sensor rgb depth sources resultAtNs)) :=
      sized_observation (sized_fused h.canonical hbounded)
    have hobservation := @sha256Document_of_within p _
      (hsized.within (by decide) (by decide) (by decide))
    simp only [build, Checks.ensure_bind_ok, hpair, hobservation, Checks.ok_bind, Checks.pure_ok]
    exact ⟨_, h.sensor_kind, h.robot_eq, h.time_eq, h.canonical.rgb, h.canonical.depth,
      h.canonical.synchronization, h.mounts, h.clock_eq, ⟨hresult, hbounded⟩, hmeasuring, rfl⟩

end Pairs

end World
end AyyoHumanoid
