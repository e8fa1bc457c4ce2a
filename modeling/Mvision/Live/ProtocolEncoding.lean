import Mvision.Library.MessagePack
import Mvision.Live.Protocol

/-!
# `encode_message`

The payload of a message as the Python side packs it.  A frame is its payload tree:
the four bytes in front of it only repeat its size.
-/

namespace Mvision.Live

open Mvision.Library

def MessageType.text : MessageType → String
  | .start => "start"
  | .identityAssignment => "identity_assignment"
  | .stop => "stop"
  | .hello => "hello"
  | .state => "state"
  | .outputReady => "output_ready"
  | .trackEvidence => "track_evidence"
  | .trackExpired => "track_expired"
  | .metrics => "metrics"
  | .failed => "failed"
  | .stopped => "stopped"
  | .nativeOperation => "native_operation"

def LiveRuntimeState.text : LiveRuntimeState → String
  | .starting => "STARTING"
  | .active => "ACTIVE"
  | .reconnecting => "RECONNECTING"
  | .stopping => "STOPPING"
  | .stopped => "STOPPED"
  | .failed => "FAILED"

def AssignedState.text : AssignedState → String
  | .known => "known"
  | .unknown => "unknown"
  | .other text => text

def maxFrameBytes : Nat := 4 * 1024 * 1024

/-! ## Values -/

def natural (n : Nat) : Object := .integer n

def number (q : ℚ) : Object := .float (.finite q)

/-- `None` or a value. -/
def optional {α : Type*} (pack : α → Object) : Option α → Object
  | none => .nil
  | some value => pack value

def numbers (values : List ℚ) : Object := .array (values.map number)

def NativeAttribute.pack : NativeAttribute → Object
  | .text value => Object.text value
  | .integer value => .integer value
  | .number value => Mvision.Live.number value

/-! ## Payloads -/

def ProtocolHeader.payload (header : ProtocolHeader) : List (String × Object) :=
  [("protocol_version", natural header.protocolVersion),
   ("message_type", .text header.messageType.text),
   ("session_id", .text header.sessionId),
   ("camera_id", .text header.cameraId),
   ("run_id", .text header.runId),
   ("generation", natural header.generation),
   ("runtime_attempt", natural header.runtimeAttempt),
   ("sequence", natural header.sequence),
   ("traceparent", .text header.traceparent),
   ("tracestate", optional .text header.tracestate)]

/-- `_observation_to_payload` -/
def LiveObservation.payload (observation : LiveObservation) : Object :=
  .fields
    [("timestamp_ns", natural observation.timestampNs),
     ("bbox", numbers observation.bbox),
     ("detector_confidence", number observation.detectorConfidence),
     ("landmarks", numbers observation.landmarks),
     ("landmark_confidences", numbers observation.landmarkConfidences),
     ("quality_score", number observation.qualityScore),
     ("reject_mask", natural observation.rejectMask),
     ("embedding", numbers observation.embedding)]

def StartCommand.payload (message : StartCommand) : List (String × Object) :=
  [("uri", .text message.uri),
   ("gpu_id", natural message.gpuId),
   ("pgie_config_path", .text message.pgieConfigPath),
   ("preprocess_config_path", .text message.preprocessConfigPath),
   ("sgie_config_path", .text message.sgieConfigPath),
   ("tracker_config_path", .text message.trackerConfigPath),
   ("output_mount_path", .text message.outputMountPath),
   ("output_udp_port", natural message.outputUdpPort),
   ("output_rtsp_port", natural message.outputRtspPort),
   ("profile_version", natural message.profileVersion),
   ("analytics_mode", .text message.analyticsMode),
   ("sample_every_n", natural message.sampleEveryN),
   ("detector_threshold", number message.detectorThreshold),
   ("recognition_threshold", number message.recognitionThreshold),
   ("top2_margin", number message.top2Margin),
   ("track_gap_ns", natural message.trackGapNs),
   ("latency_ms", natural message.latencyMs),
   ("reconnect_interval_seconds", natural message.reconnectIntervalSeconds),
   ("reconnect_attempts", .integer message.reconnectAttempts),
   ("frame_timeout_ns", natural message.frameTimeoutNs),
   ("recording_enabled", .boolean message.recordingEnabled),
   ("annotated_enabled", .boolean message.annotatedEnabled)]

/-- The fields of `_payload` that are not of the header. -/
def LiveMessage.body : LiveMessage → List (String × Object)
  | .start message => message.payload
  | .identityAssignment message =>
      [("tracker_id", natural message.trackerId),
       ("assignment_revision", natural message.assignmentRevision),
       ("identity_epoch", natural message.identityEpoch),
       ("identity_state", .text message.identityState.text),
       ("display_name", optional .text message.displayName),
       ("face_id", optional .text message.faceId),
       ("match_score", optional number message.matchScore),
       ("recognition_threshold", optional number message.recognitionThreshold),
       ("reference_embedding", optional numbers message.referenceEmbedding),
       ("decision_sequence", natural message.decisionSequence)]
  | .stop message =>
      [("reason", .text message.reason),
       ("shutdown_deadline_ns", natural message.shutdownDeadlineNs)]
  | .hello message =>
      [("build_id", .text message.buildId),
       ("gstreamer_version", .text message.gstreamerVersion),
       ("deepstream_version", .text message.deepstreamVersion)]
  | .state message =>
      [("state", .text message.state.text),
       ("reason", optional .text message.reason)]
  | .outputReady message =>
      [("mount_path", .text message.mountPath),
       ("codec", .text message.codec),
       ("caps", .text message.caps)]
  | .trackEvidence message =>
      [("tracker_id", natural message.trackerId),
       ("evidence_revision", natural message.evidenceRevision),
       ("first_seen_ns", natural message.firstSeenNs),
       ("last_seen_ns", natural message.lastSeenNs),
       ("observations", .array (message.observations.map LiveObservation.payload)),
       ("representative_aligned_jpeg", .bin message.representativeAlignedJpeg)]
  | .trackExpired message =>
      [("tracker_id", natural message.trackerId),
       ("evidence_revision", natural message.evidenceRevision),
       ("first_seen_ns", natural message.firstSeenNs),
       ("last_seen_ns", natural message.lastSeenNs),
       ("reason", .text message.reason)]
  | .metrics message =>
      [("counters", .fields (message.counters.map fun entry => (entry.1, natural entry.2))),
       ("gauges", .fields (message.gauges.map fun entry => (entry.1, number entry.2)))]
  | .failed message =>
      [("error_code", .text message.errorCode),
       ("message", .text message.message)]
  | .stopped message =>
      [("decoded_frames", natural message.decodedFrames),
       ("emitted_evidence", natural message.emittedEvidence),
       ("dropped_events", natural message.droppedEvents),
       ("clean_shutdown", .boolean message.cleanShutdown),
       ("reason", .text message.reason)]
  | .nativeOperation message =>
      [("operation", .text message.operation),
       ("started_monotonic_ns", natural message.startedMonotonicNs),
       ("ended_monotonic_ns", natural message.endedMonotonicNs),
       ("status", .text message.status),
       ("error_code", optional .text message.errorCode),
       ("attributes", .fields (message.attributes.map fun entry => (entry.1, entry.2.pack)))]

def LiveMessage.header : LiveMessage → ProtocolHeader
  | .start message => message.header
  | .identityAssignment message => message.header
  | .stop message => message.header
  | .hello message => message.header
  | .state message => message.header
  | .outputReady message => message.header
  | .trackEvidence message => message.header
  | .trackExpired message => message.header
  | .metrics message => message.header
  | .failed message => message.header
  | .stopped message => message.header
  | .nativeOperation message => message.header

/-- `_payload` -/
def LiveMessage.payload (message : LiveMessage) : List (String × Object) :=
  message.header.payload ++ message.body

/-- `packb` raises on what does not fit the format. -/
def packb (value : Object) : Except String Object :=
  if value.packable then .ok value else .error "OverflowError"

def encodeMessage (message : LiveMessage) : Except String Object := do
  let packed ← packb (.fields message.payload)
  if packed.packedSize > maxFrameBytes then .error "FRAME_TOO_LARGE"
  else .ok packed

theorem encodeMessage_ok_iff {message : LiveMessage} {frame : Object} :
    encodeMessage message = .ok frame ↔
      (Object.fields message.payload).packable = true ∧
        (Object.fields message.payload).packedSize ≤ maxFrameBytes ∧
        frame = .fields message.payload := by
  unfold encodeMessage packb
  cases hp : (Object.fields message.payload).packable with
  | false => simp [bind, Except.bind]
  | true =>
      simp only [if_true, bind, Except.bind, true_and]
      split
      · rename_i hsize
        exact iff_of_false (by simp) fun h => absurd h.1 (not_le.mpr hsize)
      · rename_i hsize
        rw [Except.ok.injEq, eq_comm]
        exact (and_iff_right (not_lt.mp hsize)).symm

theorem packable_text {value : String} :
    (Object.text value).packable = true ↔ (utf8 value).length < 4294967296 :=
  decide_eq_true_iff

theorem packable_natural {n : Nat} :
    (natural n).packable = true ↔ n < 18446744073709551616 := by
  rw [natural, Object.packable, decide_eq_true_eq]
  unfold Object.IntegerFits
  omega

theorem entriesPackable_iff {entries : List (String × Object)} :
    Object.entriesPackable (entries.map fun entry => (.text entry.1, entry.2)) = true ↔
      ∀ entry ∈ entries, (utf8 entry.1).length < 4294967296 ∧ entry.2.packable = true := by
  induction entries with
  | nil => simp [Object.entriesPackable]
  | cons entry rest ih =>
      rw [List.map_cons, Object.entriesPackable, Bool.and_eq_true, Bool.and_eq_true, ih,
        List.forall_mem_cons, packable_text]

/-- The entries of a payload fit one by one. -/
theorem packable_fields {entries : List (String × Object)} :
    (Object.fields entries).packable = true ↔ entries.length < 4294967296 ∧
      ∀ entry ∈ entries, (utf8 entry.1).length < 4294967296 ∧ entry.2.packable = true := by
  rw [Object.fields, Object.packable, Bool.and_eq_true, decide_eq_true_eq, List.length_map,
    entriesPackable_iff]

theorem mem_of_lookup {entries : List (String × Object)} {key : String} {value : Object}
    (h : entries.lookup key = some value) : (key, value) ∈ entries := by
  obtain ⟨before, after, rfl, -⟩ := List.lookup_eq_some_iff.mp h
  exact List.mem_append_right _ List.mem_cons_self

theorem packable_of_lookup {entries : List (String × Object)} {key : String} {value : Object}
    (h : (Object.fields entries).packable = true) (hl : entries.lookup key = some value) :
    value.packable = true :=
  ((packable_fields.mp h).2 _ (mem_of_lookup hl)).2

theorem packedSize_le_of_mem {entries : List (String × Object)} {entry : String × Object}
    (h : entry ∈ entries) : entry.2.packedSize ≤ (Object.fields entries).packedSize := by
  have hentries : entry.2.packedSize ≤
      Object.entriesSize (entries.map fun entry => (.text entry.1, entry.2)) := by
    induction entries with
    | nil => cases h
    | cons first rest ih =>
        rw [List.map_cons, Object.entriesSize]
        rcases List.mem_cons.mp h with rfl | h
        · omega
        · have := ih h
          omega
  rw [Object.fields, Object.packedSize]
  omega

/-- A text in a frame of the permitted size has a length that fits. -/
theorem packable_text_of_size {value : String} (h : (Object.text value).packedSize ≤ maxFrameBytes) :
    (Object.text value).packable = true := by
  rw [packable_text]
  have hmax : maxFrameBytes < 4294967296 := by decide
  have hsize : (utf8 value).length ≤ (Object.text value).packedSize := by
    rw [Object.text, Object.packedSize]
    exact Nat.le_add_left _ _
  omega

end Mvision.Live
