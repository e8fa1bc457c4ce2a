import Mvision.Library.Packer
import Mvision.Live.PayloadFields

/-!
# `encode_live_message` of the native worker

The calls of the packer, each next to the value that it stands for.  The sizes of the headers
are those of the source, and the packer of floats is a parameter.
-/

namespace Mvision.Live.Native

open Mvision.Library

/-! ## Values -/

def packUnsigned (n : Nat) : Packed := .integer n

def packCount (count : UInt64) : Packed := packUnsigned count.toNat

def packOptionalString : Option Text → Packed := .optional .text

section Encoder

variable (packing : FloatPacking)

def packFloat : FloatValue → Packed := .float packing packFloat32

def packDouble : FloatValue → Packed := .float packing packFloat64

/-- `pack_float_array` of an array with `size` items -/
def packFloatArray (size : Nat) (values : List FloatValue) : Packed :=
  .array size (values.map (packFloat packing))

/-- A `std::map` with texts as keys. -/
def packMapping {α : Type} (pack : α → Packed) (entries : List (Text × α)) : Packed :=
  .map entries.length (entries.map fun entry => (.text entry.1, pack entry.2))

/-- The size of the vector is cast to 32 bits. -/
def packJpeg (jpeg : List UInt8) : Packed := .bin (jpeg.take (jpeg.length % 4294967296))

def packAttribute : NativeAttribute → Packed
  | .text value => .text value
  | .integer value => .integer value.toInt
  | .number value => packDouble packing value

/-! ## Messages -/

/-- `pack_header` -/
def ProtocolHeader.packed (header : ProtocolHeader) : List (String × Packed) :=
  [("protocol_version", packUnsigned header.protocolVersion.toNat),
   ("message_type", .text header.messageType),
   ("session_id", .text header.sessionId),
   ("camera_id", .text header.cameraId),
   ("run_id", .text header.runId),
   ("generation", packUnsigned header.generation.toNat),
   ("runtime_attempt", packUnsigned header.runtimeAttempt.toNat),
   ("sequence", packUnsigned header.sequence.toNat),
   ("traceparent", .text header.traceparent),
   ("tracestate", packOptionalString header.tracestate)]

def StartCommand.packed (value : StartCommand) : List (String × Packed) :=
  [("uri", .text value.uri),
   ("gpu_id", packUnsigned value.gpuId.toNat),
   ("pgie_config_path", .text value.pgieConfigPath),
   ("preprocess_config_path", .text value.preprocessConfigPath),
   ("sgie_config_path", .text value.sgieConfigPath),
   ("tracker_config_path", .text value.trackerConfigPath),
   ("output_mount_path", .text value.outputMountPath),
   ("output_udp_port", packUnsigned value.outputUdpPort.toNat),
   ("output_rtsp_port", packUnsigned value.outputRtspPort.toNat),
   ("profile_version", packUnsigned value.profileVersion.toNat),
   ("analytics_mode", .text value.analyticsMode),
   ("sample_every_n", packUnsigned value.sampleEveryN.toNat),
   ("detector_threshold", packDouble packing value.detectorThreshold),
   ("recognition_threshold", packDouble packing value.recognitionThreshold),
   ("top2_margin", packDouble packing value.top2Margin),
   ("track_gap_ns", packUnsigned value.trackGapNs.toNat),
   ("latency_ms", packUnsigned value.latencyMs.toNat),
   ("reconnect_interval_seconds", packUnsigned value.reconnectIntervalSeconds.toNat),
   ("reconnect_attempts", .integer value.reconnectAttempts.toInt),
   ("frame_timeout_ns", packUnsigned value.frameTimeoutNs.toNat),
   ("recording_enabled", .boolean value.recordingEnabled),
   ("annotated_enabled", .boolean value.annotatedEnabled)]

def IdentityAssignment.packed (value : IdentityAssignment) : List (String × Packed) :=
  [("tracker_id", packUnsigned value.trackerId.toNat),
   ("assignment_revision", packUnsigned value.assignmentRevision.toNat),
   ("identity_epoch", packUnsigned value.identityEpoch.toNat),
   ("identity_state", .text value.identityState),
   ("display_name", packOptionalString value.displayName),
   ("face_id", packOptionalString value.faceId),
   ("match_score", .optional (packFloat packing) value.matchScore),
   ("recognition_threshold", .optional (packFloat packing) value.recognitionThreshold),
   ("reference_embedding", .optional (packFloatArray packing 512) value.referenceEmbedding),
   ("decision_sequence", packUnsigned value.decisionSequence.toNat)]

def StopCommand.packed (value : StopCommand) : List (String × Packed) :=
  [("reason", .text value.reason),
   ("shutdown_deadline_ns", packUnsigned value.shutdownDeadlineNs.toNat)]

def HelloEvent.packed (value : HelloEvent) : List (String × Packed) :=
  [("build_id", .text value.buildId),
   ("gstreamer_version", .text value.gstreamerVersion),
   ("deepstream_version", .text value.deepstreamVersion)]

def StateEvent.packed (value : StateEvent) : List (String × Packed) :=
  [("state", .text value.state),
   ("reason", packOptionalString value.reason)]

def OutputReadyEvent.packed (value : OutputReadyEvent) : List (String × Packed) :=
  [("mount_path", .text value.mountPath),
   ("codec", .text value.codec),
   ("caps", .text value.caps)]

def LiveObservation.packed (observation : LiveObservation) : List (String × Packed) :=
  [("timestamp_ns", packUnsigned observation.timestampNs.toNat),
   ("bbox", packFloatArray packing 4 observation.bbox),
   ("detector_confidence", packFloat packing observation.detectorConfidence),
   ("landmarks", packFloatArray packing 10 observation.landmarks),
   ("landmark_confidences", packFloatArray packing 5 observation.landmarkConfidences),
   ("quality_score", packFloat packing observation.qualityScore),
   ("reject_mask", packUnsigned observation.rejectMask.toNat),
   ("embedding", packFloatArray packing 512 observation.embedding)]

/-- `pack_observation` -/
def packObservation (observation : LiveObservation) : Packed :=
  .fields 8 (observation.packed packing)

def TrackEvidenceEvent.packed (value : TrackEvidenceEvent) : List (String × Packed) :=
  [("tracker_id", packUnsigned value.trackerId.toNat),
   ("evidence_revision", packUnsigned value.evidenceRevision.toNat),
   ("first_seen_ns", packUnsigned value.firstSeenNs.toNat),
   ("last_seen_ns", packUnsigned value.lastSeenNs.toNat),
   ("observations",
     .array value.observations.length (value.observations.map (packObservation packing))),
   ("representative_aligned_jpeg", packJpeg value.representativeAlignedJpeg)]

def TrackExpiredEvent.packed (value : TrackExpiredEvent) : List (String × Packed) :=
  [("tracker_id", packUnsigned value.trackerId.toNat),
   ("evidence_revision", packUnsigned value.evidenceRevision.toNat),
   ("first_seen_ns", packUnsigned value.firstSeenNs.toNat),
   ("last_seen_ns", packUnsigned value.lastSeenNs.toNat),
   ("reason", .text value.reason)]

def MetricsEvent.packed (value : MetricsEvent) : List (String × Packed) :=
  [("counters", packMapping packCount value.counters),
   ("gauges", packMapping (packDouble packing) value.gauges)]

def FailedEvent.packed (value : FailedEvent) : List (String × Packed) :=
  [("error_code", .text value.errorCode),
   ("message", .text value.message)]

def StoppedEvent.packed (value : StoppedEvent) : List (String × Packed) :=
  [("decoded_frames", packUnsigned value.decodedFrames.toNat),
   ("emitted_evidence", packUnsigned value.emittedEvidence.toNat),
   ("dropped_events", packUnsigned value.droppedEvents.toNat),
   ("clean_shutdown", .boolean value.cleanShutdown),
   ("reason", .text value.reason)]

def NativeOperationEvent.packed (value : NativeOperationEvent) : List (String × Packed) :=
  [("operation", .text value.operation),
   ("started_monotonic_ns", packUnsigned value.startedMonotonicNs.toNat),
   ("ended_monotonic_ns", packUnsigned value.endedMonotonicNs.toNat),
   ("status", .text value.status),
   ("error_code", packOptionalString value.errorCode),
   ("attributes", packMapping (packAttribute packing) value.attributes)]

/-- The fields that follow those of the header. -/
def LiveMessage.body : LiveMessage → List (String × Packed)
  | .start value => value.packed packing
  | .identityAssignment value => value.packed packing
  | .stop value => value.packed
  | .hello value => value.packed
  | .state value => value.packed
  | .outputReady value => value.packed
  | .trackEvidence value => value.packed packing
  | .trackExpired value => value.packed
  | .metrics value => value.packed packing
  | .failed value => value.packed
  | .stopped value => value.packed
  | .nativeOperation value => value.packed packing

/-- The argument of `pack_map`. -/
def LiveMessage.mapSize : LiveMessage → Nat
  | .start _ => 32
  | .identityAssignment _ => 20
  | .stop _ => 12
  | .hello _ => 13
  | .state _ => 12
  | .outputReady _ => 13
  | .trackEvidence _ => 16
  | .trackExpired _ => 15
  | .metrics _ => 12
  | .failed _ => 12
  | .stopped _ => 15
  | .nativeOperation _ => 16

/-- All the fields in the order in which they are packed. -/
def LiveMessage.fields (message : LiveMessage) : List (String × Packed) :=
  message.header.packed ++ message.body packing

def LiveMessage.packed (message : LiveMessage) : Packed :=
  .fields message.mapSize (message.fields packing)

/-- The packer refuses a text of 2^32 bytes by an exception of its own; here such a payload
is refused for its size. -/
def encodeLiveMessage (message : LiveMessage) : Except String (List UInt8) :=
  let payload := (message.packed packing).bytes
  if payload.length > maxLiveFrameBytes then .error "FRAME_TOO_LARGE"
  else .ok (frameOf payload)

end Encoder

/-! ## What the structs hold -/

def Floats (size : Nat) (values : List FloatValue) : Prop :=
  values.length = size ∧ ∀ x ∈ values, binary32.Has 8 x

/-- A `std::map` has each key once. -/
def Mapping {α : Type} (entries : List (Text × α)) : Prop := (entries.map Prod.fst).Nodup

structure StartCommand.Typed (value : StartCommand) : Prop where
  detectorThreshold : binary64.Has 11 value.detectorThreshold
  recognitionThreshold : binary64.Has 11 value.recognitionThreshold
  top2Margin : binary64.Has 11 value.top2Margin

structure IdentityAssignment.Typed (value : IdentityAssignment) : Prop where
  matchScore : ∀ x ∈ value.matchScore, binary32.Has 8 x
  recognitionThreshold : ∀ x ∈ value.recognitionThreshold, binary32.Has 8 x
  referenceEmbedding : ∀ values ∈ value.referenceEmbedding, Floats 512 values

structure LiveObservation.Typed (value : LiveObservation) : Prop where
  bbox : Floats 4 value.bbox
  detectorConfidence : binary32.Has 8 value.detectorConfidence
  landmarks : Floats 10 value.landmarks
  landmarkConfidences : Floats 5 value.landmarkConfidences
  qualityScore : binary32.Has 8 value.qualityScore
  embedding : Floats 512 value.embedding

structure MetricsEvent.Typed (value : MetricsEvent) : Prop where
  counters : Mapping value.counters
  gauges : Mapping value.gauges
  numbers : ∀ gauge ∈ value.gauges, binary64.Has 11 gauge.2

def NativeAttribute.Typed : NativeAttribute → Prop
  | .number x => binary64.Has 11 x
  | _ => True

structure NativeOperationEvent.Typed (value : NativeOperationEvent) : Prop where
  attributes : Mapping value.attributes
  numbers : ∀ entry ∈ value.attributes, entry.2.Typed

/-- The arrays have their sizes, the maps distinct keys, and the floats a bit pattern. -/
def LiveMessage.Typed : LiveMessage → Prop
  | .start value => value.Typed
  | .identityAssignment value => value.Typed
  | .trackEvidence value => ∀ observation ∈ value.observations, observation.Typed
  | .metrics value => value.Typed
  | .nativeOperation value => value.Typed
  | _ => True

/-! ## One complete map -/

section Sound

theorem sound_unsigned {n : Nat} (h : n < 18446744073709551616) : (packUnsigned n).Sound :=
  Packed.sound_integer ⟨by omega, by omega⟩

theorem sound_uint64 (n : UInt64) : (packUnsigned n.toNat).Sound := sound_unsigned n.toNat_lt

theorem sound_uint32 (n : UInt32) : (packUnsigned n.toNat).Sound :=
  sound_unsigned (n.toNat_lt.trans (by decide))

theorem sound_uint16 (n : UInt16) : (packUnsigned n.toNat).Sound :=
  sound_unsigned (n.toNat_lt.trans (by decide))

theorem integerFits_int64 (n : Int64) : Object.IntegerFits n.toInt := by
  have hle := n.toInt_le
  have hge := n.le_toInt
  have hmax : Int64.maxValue.toInt = 9223372036854775807 := by decide
  have hmin : Int64.minValue.toInt = -9223372036854775808 := by decide
  exact ⟨by omega, by omega⟩

theorem sound_int32 (n : Int32) : (Packed.integer n.toInt).Sound := by
  have hle := n.toInt_le
  have hge := n.le_toInt
  have hmax : Int32.maxValue.toInt = 2147483647 := by decide
  have hmin : Int32.minValue.toInt = -2147483648 := by decide
  exact Packed.sound_integer ⟨by omega, by omega⟩

theorem sound_optionalString (text : Option Text) : (packOptionalString text).Sound :=
  Packed.sound_optional fun text _ => Packed.sound_text text

variable {packing : FloatPacking}

theorem sound_float {x : FloatValue} (h : binary32.Has 8 x) : (packFloat packing x).Sound :=
  Packed.sound_float (encodes_float32 h)

theorem sound_double {x : FloatValue} (h : binary64.Has 11 x) : (packDouble packing x).Sound :=
  Packed.sound_float (encodes_float64 h)

theorem sound_floatArray {size : Nat} {values : List FloatValue} (h : Floats size values) :
    (packFloatArray packing size values).Sound := by
  refine Packed.sound_array ((List.length_map _).trans h.1) ?_
  rw [List.forall_mem_map]
  exact fun x hx => sound_float (h.2 x hx)

theorem sound_mapping {α : Type} {pack : α → Packed} {entries : List (Text × α)}
    (h : ∀ entry ∈ entries, (pack entry.2).Sound) : (packMapping pack entries).Sound := by
  refine Packed.sound_map (List.length_map _) ?_
  rw [List.forall_mem_map]
  exact fun entry hentry => ⟨Packed.sound_text _, h entry hentry⟩

theorem sound_attribute {item : NativeAttribute} (h : item.Typed) :
    (packAttribute packing item).Sound := by
  cases item with
  | text value => exact Packed.sound_text value
  | integer value => exact Packed.sound_integer (integerFits_int64 value)
  | number value => exact sound_double h

/-- Every value of the list is sound. -/
def AllSound (fields : List (String × Packed)) : Prop := ∀ field ∈ fields, field.2.Sound

theorem allSound_nil : AllSound [] := List.forall_mem_nil _

theorem AllSound.cons {name : String} {value : Packed} {fields : List (String × Packed)}
    (hvalue : value.Sound) (hfields : AllSound fields) : AllSound ((name, value) :: fields) :=
  List.forall_mem_cons.mpr ⟨hvalue, hfields⟩

theorem sound_header (header : ProtocolHeader) : AllSound header.packed :=
  .cons (sound_uint32 _) <| .cons (Packed.sound_text _) <| .cons (Packed.sound_text _) <|
    .cons (Packed.sound_text _) <| .cons (Packed.sound_text _) <| .cons (sound_uint64 _) <|
    .cons (sound_uint64 _) <| .cons (sound_uint64 _) <| .cons (Packed.sound_text _) <|
    .cons (sound_optionalString _) allSound_nil

theorem sound_observation {observation : LiveObservation} (h : observation.Typed) :
    (packObservation packing observation).Sound :=
  Packed.sound_fields rfl <|
    show AllSound (observation.packed packing) from
    .cons (sound_uint64 _) <| .cons (sound_floatArray h.bbox) <|
    .cons (sound_float h.detectorConfidence) <| .cons (sound_floatArray h.landmarks) <|
    .cons (sound_floatArray h.landmarkConfidences) <| .cons (sound_float h.qualityScore) <|
    .cons (sound_uint64 _) <| .cons (sound_floatArray h.embedding) allSound_nil

theorem sound_jpeg (jpeg : List UInt8) : (packJpeg jpeg).Sound := Packed.sound_bin _

theorem sound_body {message : LiveMessage} (h : message.Typed) :
    AllSound (message.body packing) := by
  cases message with
  | start value =>
      have htyped : value.Typed := h
      exact .cons (Packed.sound_text _) <| .cons (sound_uint32 _) <|
        .cons (Packed.sound_text _) <| .cons (Packed.sound_text _) <|
        .cons (Packed.sound_text _) <| .cons (Packed.sound_text _) <|
        .cons (Packed.sound_text _) <| .cons (sound_uint16 _) <| .cons (sound_uint16 _) <|
        .cons (sound_uint32 _) <| .cons (Packed.sound_text _) <| .cons (sound_uint32 _) <|
        .cons (sound_double htyped.detectorThreshold) <|
        .cons (sound_double htyped.recognitionThreshold) <|
        .cons (sound_double htyped.top2Margin) <| .cons (sound_uint64 _) <|
        .cons (sound_uint32 _) <| .cons (sound_uint32 _) <| .cons (sound_int32 _) <|
        .cons (sound_uint64 _) <| .cons (Packed.sound_boolean _) <|
        .cons (Packed.sound_boolean _) allSound_nil
  | identityAssignment value =>
      have htyped : value.Typed := h
      exact .cons (sound_uint64 _) <| .cons (sound_uint64 _) <| .cons (sound_uint64 _) <|
        .cons (Packed.sound_text _) <| .cons (sound_optionalString _) <|
        .cons (sound_optionalString _) <|
        .cons (Packed.sound_optional fun x hx => sound_float (htyped.matchScore x hx)) <|
        .cons (Packed.sound_optional fun x hx =>
          sound_float (htyped.recognitionThreshold x hx)) <|
        .cons (Packed.sound_optional fun values hvalues =>
          sound_floatArray (htyped.referenceEmbedding values hvalues)) <|
        .cons (sound_uint64 _) allSound_nil
  | stop value => exact .cons (Packed.sound_text _) <| .cons (sound_uint64 _) allSound_nil
  | hello value =>
      exact .cons (Packed.sound_text _) <| .cons (Packed.sound_text _) <|
        .cons (Packed.sound_text _) allSound_nil
  | state value =>
      exact .cons (Packed.sound_text _) <| .cons (sound_optionalString _) allSound_nil
  | outputReady value =>
      exact .cons (Packed.sound_text _) <| .cons (Packed.sound_text _) <|
        .cons (Packed.sound_text _) allSound_nil
  | trackEvidence value =>
      have htyped : ∀ observation ∈ value.observations, observation.Typed := h
      have hobservations : ∀ item ∈ value.observations.map (packObservation packing),
          item.Sound := by
        rw [List.forall_mem_map]
        exact fun observation hobservation => sound_observation (htyped observation hobservation)
      exact .cons (sound_uint64 _) <| .cons (sound_uint64 _) <| .cons (sound_uint64 _) <|
        .cons (sound_uint64 _) <| .cons (Packed.sound_array (List.length_map _) hobservations) <|
        .cons (sound_jpeg _) allSound_nil
  | trackExpired value =>
      exact .cons (sound_uint64 _) <| .cons (sound_uint64 _) <| .cons (sound_uint64 _) <|
        .cons (sound_uint64 _) <| .cons (Packed.sound_text _) allSound_nil
  | metrics value =>
      have htyped : value.Typed := h
      exact .cons (sound_mapping fun _ _ => sound_uint64 _) <|
        .cons (sound_mapping fun gauge hgauge => sound_double (htyped.numbers gauge hgauge))
          allSound_nil
  | failed value => exact .cons (Packed.sound_text _) <| .cons (Packed.sound_text _) allSound_nil
  | stopped value =>
      exact .cons (sound_uint64 _) <| .cons (sound_uint64 _) <| .cons (sound_uint64 _) <|
        .cons (Packed.sound_boolean _) <| .cons (Packed.sound_text _) allSound_nil
  | nativeOperation value =>
      have htyped : value.Typed := h
      exact .cons (Packed.sound_text _) <| .cons (sound_uint64 _) <| .cons (sound_uint64 _) <|
        .cons (Packed.sound_text _) <| .cons (sound_optionalString _) <|
        .cons (sound_mapping fun entry hentry => sound_attribute (htyped.numbers entry hentry))
          allSound_nil

/-- The number of entries is the one that `pack_map` is given. -/
theorem length_fields (packing : FloatPacking) (message : LiveMessage) :
    (message.fields packing).length = message.mapSize := by
  cases message <;> rfl

theorem sound_message {message : LiveMessage} (h : message.Typed) :
    (message.packed packing).Sound := by
  refine Packed.sound_fields (length_fields packing message) fun field hfield => ?_
  rcases List.mem_append.mp hfield with hfield | hfield
  · exact sound_header message.header field hfield
  · exact sound_body h field hfield

/-- A frame carries one complete map, with nothing after it. -/
theorem carries_encode {message : LiveMessage} (h : message.Typed) {frame : List UInt8}
    (hframe : encodeLiveMessage packing message = .ok frame) :
    Carries frame (message.packed packing).object [] := by
  unfold encodeLiveMessage at hframe
  dsimp only at hframe
  split at hframe
  · cases hframe
  rename_i hsize
  obtain rfl := Except.ok.inj hframe
  have hmax : maxLiveFrameBytes < 4294967296 := by decide
  exact carries_frameOf (not_lt.mp hsize) (sound_message h (by omega))

end Sound

end Mvision.Live.Native
