import Mvision.Library.MessagePackReader
import Mvision.Live.TextFormats

/-!
# `decode_payload` of the native worker

The structs of `live_protocol.hpp` and their decoder.  A `std::string` is its bytes, a
`float` or `double` the number it denotes.  An exception that is no
`LiveProtocolError` leaves `decode_live_message` as `INVALID_MESSAGEPACK`.
-/

namespace Mvision.Live.Native

open Mvision.Library

abbrev Text := List UInt8

abbrev ObjectMap := List (Text × Object)

structure ProtocolHeader where
  protocolVersion : UInt32
  messageType : Text
  sessionId : Text
  cameraId : Text
  runId : Text
  generation : UInt64
  runtimeAttempt : UInt64
  sequence : UInt64
  traceparent : Text
  tracestate : Option Text
deriving DecidableEq, Repr

structure StartCommand where
  header : ProtocolHeader
  uri : Text
  gpuId : UInt32
  pgieConfigPath : Text
  preprocessConfigPath : Text
  sgieConfigPath : Text
  trackerConfigPath : Text
  outputMountPath : Text
  outputUdpPort : UInt16
  outputRtspPort : UInt16
  profileVersion : UInt32
  analyticsMode : Text
  sampleEveryN : UInt32
  detectorThreshold : FloatValue
  recognitionThreshold : FloatValue
  top2Margin : FloatValue
  trackGapNs : UInt64
  latencyMs : UInt32
  reconnectIntervalSeconds : UInt32
  reconnectAttempts : Int32
  frameTimeoutNs : UInt64
  recordingEnabled : Bool
  annotatedEnabled : Bool
deriving DecidableEq, Repr

structure IdentityAssignment where
  header : ProtocolHeader
  trackerId : UInt64
  assignmentRevision : UInt64
  identityEpoch : UInt64
  identityState : Text
  displayName : Option Text
  faceId : Option Text
  matchScore : Option FloatValue
  recognitionThreshold : Option FloatValue
  referenceEmbedding : Option (List FloatValue)
  decisionSequence : UInt64
deriving DecidableEq, Repr

structure StopCommand where
  header : ProtocolHeader
  reason : Text
  shutdownDeadlineNs : UInt64
deriving DecidableEq, Repr

structure HelloEvent where
  header : ProtocolHeader
  buildId : Text
  gstreamerVersion : Text
  deepstreamVersion : Text
deriving DecidableEq, Repr

structure StateEvent where
  header : ProtocolHeader
  state : Text
  reason : Option Text
deriving DecidableEq, Repr

structure OutputReadyEvent where
  header : ProtocolHeader
  mountPath : Text
  codec : Text
  caps : Text
deriving DecidableEq, Repr

structure LiveObservation where
  timestampNs : UInt64
  bbox : List FloatValue
  detectorConfidence : FloatValue
  landmarks : List FloatValue
  landmarkConfidences : List FloatValue
  qualityScore : FloatValue
  rejectMask : UInt64
  embedding : List FloatValue
deriving DecidableEq, Repr

structure TrackEvidenceEvent where
  header : ProtocolHeader
  trackerId : UInt64
  evidenceRevision : UInt64
  firstSeenNs : UInt64
  lastSeenNs : UInt64
  observations : List LiveObservation
  representativeAlignedJpeg : List UInt8
deriving DecidableEq, Repr

structure TrackExpiredEvent where
  header : ProtocolHeader
  trackerId : UInt64
  evidenceRevision : UInt64
  firstSeenNs : UInt64
  lastSeenNs : UInt64
  reason : Text
deriving DecidableEq, Repr

structure MetricsEvent where
  header : ProtocolHeader
  counters : List (Text × UInt64)
  gauges : List (Text × FloatValue)
deriving DecidableEq, Repr

structure FailedEvent where
  header : ProtocolHeader
  errorCode : Text
  message : Text
deriving DecidableEq, Repr

structure StoppedEvent where
  header : ProtocolHeader
  decodedFrames : UInt64
  emittedEvidence : UInt64
  droppedEvents : UInt64
  cleanShutdown : Bool
  reason : Text
deriving DecidableEq, Repr

inductive NativeAttribute where
  | text (value : Text)
  | integer (value : Int64)
  | number (value : FloatValue)
deriving DecidableEq, Repr

structure NativeOperationEvent where
  header : ProtocolHeader
  operation : Text
  startedMonotonicNs : UInt64
  endedMonotonicNs : UInt64
  status : Text
  errorCode : Option Text
  attributes : List (Text × NativeAttribute)
deriving DecidableEq, Repr

inductive LiveMessage where
  | start (command : StartCommand)
  | identityAssignment (command : IdentityAssignment)
  | stop (command : StopCommand)
  | hello (event : HelloEvent)
  | state (event : StateEvent)
  | outputReady (event : OutputReadyEvent)
  | trackEvidence (event : TrackEvidenceEvent)
  | trackExpired (event : TrackExpiredEvent)
  | metrics (event : MetricsEvent)
  | failed (event : FailedEvent)
  | stopped (event : StoppedEvent)
  | nativeOperation (event : NativeOperationEvent)
deriving DecidableEq, Repr

def LiveMessage.header : LiveMessage → ProtocolHeader
  | .start message => message.header
  | .identityAssignment message => message.header
  | .stop message => message.header
  | .hello message => message.header
  | .state message => message.header
  | .outputReady message => message.header
  | .trackEvidence message => message.header
  | .trackExpired message => message.header
  | .metrics message => message.header
  | .failed message => message.header
  | .stopped message => message.header
  | .nativeOperation message => message.header

/-! ## Values -/

/-- A check that ends in `fail`. -/
def failIf (condition : Prop) [Decidable condition] (code : String) : Except String Unit :=
  if condition then .error code else .ok ()

def required (values : ObjectMap) (key : String) : Except String Object :=
  match values.lookup (utf8 key) with
  | some value => .ok value
  | none => .error "MISSING_FIELD"

/-- The tree has no integer above 64 bits. -/
def unsignedInteger (value : Object) (minimum : UInt64) : Except String UInt64 :=
  match value with
  | .integer n =>
      if n < 0 then .error "INVALID_INTEGER"
      else if n.toNat.toUInt64 < minimum then .error "INVALID_INTEGER"
      else .ok n.toNat.toUInt64
  | _ => .error "INVALID_INTEGER"

/-- `as<std::int64_t>` raises a `type_error` on a positive integer that has no place. -/
def signedInteger (value : Object) : Except String Int64 :=
  match value with
  | .integer n =>
      if n ≤ Int64.maxValue.toInt then .ok (Int64.ofInt n) else .error "INVALID_MESSAGEPACK"
  | _ => .error "INVALID_INTEGER"

def finiteNumber (value : Object) : Except String ℚ :=
  match value with
  | .float (.finite q) => .ok q
  | .integer n =>
      match binary64.round n with
      | .finite q => .ok q
      | _ => .error "NON_FINITE_VALUE"
  | _ => .error "NON_FINITE_VALUE"

/-- `static_cast<float>` -/
def toFloat (value : ℚ) : FloatValue := binary32.round value

def stringValue (value : Object) : Except String Text :=
  match value with
  | .str bytes => .ok bytes
  | _ => .error "INVALID_PAYLOAD"

def optionalString (value : Object) : Except String (Option Text) :=
  match value with
  | .nil => .ok none
  | value => some <$> stringValue value

def optionalFloat (value : Object) : Except String (Option FloatValue) :=
  match value with
  | .nil => .ok none
  | value => (fun q => some (toFloat q)) <$> finiteNumber value

def canonicalUuid (value : Text) : Bool := uuidText hexadecimal (byteCodes value)

def uuidValue (value : Object) : Except String Text := do
  let result ← stringValue value
  if canonicalUuid result then .ok result else .error "INVALID_UUID"

def booleanValue (value : Object) : Except String Bool :=
  match value with
  | .boolean flag => .ok flag
  | _ => .error "INVALID_PAYLOAD"

/-- A member of a trace state: not empty, no blank at its ends, and an equals sign. -/
def memberValid (member : List Nat) : Bool :=
  decide (member ≠ [] ∧ member.head? ≠ some ' '.toNat ∧ member.getLast? ≠ some ' '.toNat ∧
    '='.toNat ∈ member)

/-- The loop of `validate_trace_context`, from the member that has been read so far: the
number of members. -/
def tracestateMembers (text : List Nat) (member : List Nat) (members : Nat) : Option Nat :=
  match text with
  | [] => if memberValid member then some members else none
  | code :: rest =>
      if code < 0x20 ∨ 0x7E < code then none
      else if code = ','.toNat then
        if memberValid member then tracestateMembers rest [] (members + 1) else none
      else tracestateMembers rest (member ++ [code]) members

def tracestateValid (tracestate : Text) : Bool :=
  decide (tracestate.length ≤ 512) &&
    match tracestateMembers (byteCodes tracestate) [] 1 with
    | some members => decide (members ≤ 32)
    | none => false

def validateTraceContext (traceparent : Text) (tracestate : Option Text) :
    Except String Unit :=
  if ¬ traceparentValid (byteCodes traceparent) then .error "INVALID_TRACE_CONTEXT"
  else
    match tracestate with
    | none => .ok ()
    | some tracestate =>
        if tracestateValid tracestate then .ok () else .error "INVALID_TRACE_CONTEXT"

/-- `float_array` -/
def floatArray (size : Nat) (value : Object) (sizeError : String) :
    Except String (List FloatValue) :=
  match value with
  | .array items =>
      if items.length ≠ size then .error sizeError
      else items.mapM fun item => toFloat <$> finiteNumber item
  | _ => .error sizeError

def validateExactFields (values : ObjectMap) (expected : List String) : Except String Unit :=
  if ∃ key ∈ expected, (values.lookup (utf8 key)).isNone then .error "MISSING_FIELD"
  else if ∃ entry ∈ values, entry.1 ∉ expected.map utf8 then .error "UNKNOWN_FIELD"
  else .ok ()

def headerFields : List String :=
  ["protocol_version", "message_type", "session_id", "camera_id", "run_id", "generation",
    "runtime_attempt", "sequence", "traceparent", "tracestate"]

def validateFields (values : ObjectMap) (messageFields : List String) : Except String Unit :=
  validateExactFields values (headerFields ++ messageFields)

def liveProtocolVersion : UInt64 := 2

def knownTypes : List String :=
  ["start", "identity_assignment", "stop", "hello", "state", "output_ready", "track_evidence",
    "track_expired", "metrics", "failed", "stopped", "native_operation"]

def decodeHeader (values : ObjectMap) : Except String ProtocolHeader := do
  let version ← unsignedInteger (← required values "protocol_version") 1
  failIf (version ≠ liveProtocolVersion) "UNSUPPORTED_PROTOCOL_VERSION"
  let messageType ← stringValue (← required values "message_type")
  failIf (messageType ∉ knownTypes.map utf8) "UNKNOWN_MESSAGE_TYPE"
  let traceparent ← stringValue (← required values "traceparent")
  let tracestate ← optionalString (← required values "tracestate")
  validateTraceContext traceparent tracestate
  let sessionId ← uuidValue (← required values "session_id")
  let cameraId ← uuidValue (← required values "camera_id")
  let runId ← uuidValue (← required values "run_id")
  let generation ← unsignedInteger (← required values "generation") 1
  let runtimeAttempt ← unsignedInteger (← required values "runtime_attempt") 1
  let sequence ← unsignedInteger (← required values "sequence") 0
  return {
    protocolVersion := version.toUInt32
    messageType := messageType
    sessionId := sessionId
    cameraId := cameraId
    runId := runId
    generation := generation
    runtimeAttempt := runtimeAttempt
    sequence := sequence
    traceparent := traceparent
    tracestate := tracestate }

/-! ## Embeddings -/

def leastNorm : FloatValue := binary64.round (99 / 100)

def greatestNorm : FloatValue := binary64.round (101 / 100)

/-- `norm < 0.99 || norm > 1.01` for the sum of the squares, added up as doubles. -/
def normInvalid (squares : List FloatValue) : Bool :=
  let norm := binary64.sqrt (squares.foldl binary64.add (.finite 0))
  norm.less leastNorm || greatestNorm.less norm

/-- The squares of `decode_observation` are products of doubles. -/
def doubleSquares (embedding : List FloatValue) : List FloatValue :=
  embedding.map fun value => binary64.mul value value

/-- The squares of an assignment are products of floats. -/
def floatSquares (embedding : List FloatValue) : List FloatValue :=
  embedding.map fun value => binary32.mul value value

def observationFields : List String :=
  ["timestamp_ns", "bbox", "detector_confidence", "landmarks", "landmark_confidences",
    "quality_score", "reject_mask", "embedding"]

/-- `as<ObjectMap>`, of a value that must be a map -/
def objectMap (value : Object) (code : String) : Except String ObjectMap :=
  match value with
  | .map entries =>
      match (Object.map entries).asStringMap with
      | some values => .ok values
      | none => .error "INVALID_MESSAGEPACK"
  | _ => .error code

def decodeObservation (value : Object) : Except String LiveObservation := do
  let values ← objectMap value "INVALID_PAYLOAD"
  validateExactFields values observationFields
  let timestampNs ← unsignedInteger (← required values "timestamp_ns") 0
  let bbox ← floatArray 4 (← required values "bbox") "INVALID_PAYLOAD"
  let detectorConfidence ← finiteNumber (← required values "detector_confidence")
  let landmarks ← floatArray 10 (← required values "landmarks") "INVALID_LANDMARKS"
  let landmarkConfidences ←
    floatArray 5 (← required values "landmark_confidences") "INVALID_LANDMARKS"
  let qualityScore ← finiteNumber (← required values "quality_score")
  let rejectMask ← unsignedInteger (← required values "reject_mask") 0
  let embedding ← floatArray 512 (← required values "embedding") "INVALID_EMBEDDING"
  failIf (normInvalid (doubleSquares embedding)) "INVALID_EMBEDDING_NORM"
  return {
    timestampNs := timestampNs
    bbox := bbox
    detectorConfidence := toFloat detectorConfidence
    landmarks := landmarks
    landmarkConfidences := landmarkConfidences
    qualityScore := toFloat qualityScore
    rejectMask := rejectMask
    embedding := embedding }

/-! ## Messages -/

def maxUInt32 : UInt64 := 4294967295

def maxUInt16 : UInt64 := 65535

def maxInt32 : Int64 := 2147483647

def startFields : List String :=
  ["uri", "gpu_id", "pgie_config_path", "preprocess_config_path", "sgie_config_path",
    "tracker_config_path", "output_mount_path", "output_udp_port", "output_rtsp_port",
    "profile_version", "analytics_mode", "sample_every_n", "detector_threshold",
    "recognition_threshold", "top2_margin", "track_gap_ns", "latency_ms",
    "reconnect_interval_seconds", "reconnect_attempts", "frame_timeout_ns",
    "recording_enabled", "annotated_enabled"]

def outsideUnit (q : ℚ) : Bool := decide (q < 0) || decide (1 < q)

def decodeStart (header : ProtocolHeader) (values : ObjectMap) :
    Except String StartCommand := do
  validateFields values startFields
  let port ← unsignedInteger (← required values "output_udp_port") 1
  let rtspPort ← unsignedInteger (← required values "output_rtsp_port") 1
  let profileVersion ← unsignedInteger (← required values "profile_version") 1
  let sampleEveryN ← unsignedInteger (← required values "sample_every_n") 1
  let latencyMs ← unsignedInteger (← required values "latency_ms") 0
  let reconnectIntervalSeconds ←
    unsignedInteger (← required values "reconnect_interval_seconds") 0
  failIf (port > maxUInt16 ∨ rtspPort > maxUInt16 ∨ profileVersion > maxUInt32 ∨
    sampleEveryN > maxUInt32 ∨ latencyMs > maxUInt32 ∨
    reconnectIntervalSeconds > maxUInt32) "INVALID_INTEGER"
  let attempts ← signedInteger (← required values "reconnect_attempts")
  failIf (attempts < -1 ∨ attempts > maxInt32) "INVALID_INTEGER"
  let analyticsMode ← stringValue (← required values "analytics_mode")
  failIf (analyticsMode ≠ utf8 "detect" ∧ analyticsMode ≠ utf8 "detectTrack" ∧
    analyticsMode ≠ utf8 "recognize") "INVALID_PAYLOAD"
  let detectorThreshold ← finiteNumber (← required values "detector_threshold")
  let recognitionThreshold ← finiteNumber (← required values "recognition_threshold")
  let top2Margin ← finiteNumber (← required values "top2_margin")
  failIf (outsideUnit detectorThreshold ∨ outsideUnit recognitionThreshold ∨
    outsideUnit top2Margin) "INVALID_PAYLOAD"
  let recordingEnabled ← booleanValue (← required values "recording_enabled")
  let annotatedEnabled ← booleanValue (← required values "annotated_enabled")
  let uri ← stringValue (← required values "uri")
  let gpuId ← unsignedInteger (← required values "gpu_id") 0
  let pgieConfigPath ← stringValue (← required values "pgie_config_path")
  let preprocessConfigPath ← stringValue (← required values "preprocess_config_path")
  let sgieConfigPath ← stringValue (← required values "sgie_config_path")
  let trackerConfigPath ← stringValue (← required values "tracker_config_path")
  let outputMountPath ← stringValue (← required values "output_mount_path")
  let trackGapNs ← unsignedInteger (← required values "track_gap_ns") 1
  let frameTimeoutNs ← unsignedInteger (← required values "frame_timeout_ns") 1
  return {
    header := header
    uri := uri
    gpuId := gpuId.toUInt32
    pgieConfigPath := pgieConfigPath
    preprocessConfigPath := preprocessConfigPath
    sgieConfigPath := sgieConfigPath
    trackerConfigPath := trackerConfigPath
    outputMountPath := outputMountPath
    outputUdpPort := port.toUInt16
    outputRtspPort := rtspPort.toUInt16
    profileVersion := profileVersion.toUInt32
    analyticsMode := analyticsMode
    sampleEveryN := sampleEveryN.toUInt32
    detectorThreshold := .finite detectorThreshold
    recognitionThreshold := .finite recognitionThreshold
    top2Margin := .finite top2Margin
    trackGapNs := trackGapNs
    latencyMs := latencyMs.toUInt32
    reconnectIntervalSeconds := reconnectIntervalSeconds.toUInt32
    reconnectAttempts := attempts.toInt32
    frameTimeoutNs := frameTimeoutNs
    recordingEnabled := recordingEnabled
    annotatedEnabled := annotatedEnabled }

/-- The reference of an assignment: of a known face with all its fields, or absent. -/
def decodeReference (state : Text) (displayName faceId : Option Text)
    (matchScore recognitionThreshold : Option FloatValue) (reference : Object) :
    Except String (Option (List FloatValue)) :=
  if state = utf8 "known" then do
    failIf (displayName = none ∨ faceId = none ∨ matchScore = none ∨
      recognitionThreshold = none ∨ reference.isNil) "INVALID_IDENTITY_ASSIGNMENT"
    let embedding ← floatArray 512 reference "INVALID_EMBEDDING"
    failIf (normInvalid (floatSquares embedding)) "INVALID_EMBEDDING_NORM"
    return some embedding
  else do
    failIf (displayName ≠ none ∨ faceId ≠ none ∨ matchScore ≠ none ∨
      recognitionThreshold ≠ none ∨ ¬ reference.isNil) "INVALID_IDENTITY_ASSIGNMENT"
    return none

def decodeIdentityAssignment (header : ProtocolHeader) (values : ObjectMap) :
    Except String IdentityAssignment := do
  validateFields values
    ["tracker_id", "assignment_revision", "identity_epoch", "identity_state", "display_name",
      "face_id", "match_score", "recognition_threshold", "reference_embedding",
      "decision_sequence"]
  let state ← stringValue (← required values "identity_state")
  failIf (state ≠ utf8 "known" ∧ state ≠ utf8 "unknown") "INVALID_PAYLOAD"
  let displayName ← optionalString (← required values "display_name")
  let faceId ← optionalString (← required values "face_id")
  failIf (∃ id ∈ faceId, canonicalUuid id = false) "INVALID_UUID"
  let matchScore ← optionalFloat (← required values "match_score")
  let recognitionThreshold ← optionalFloat (← required values "recognition_threshold")
  let reference ← required values "reference_embedding"
  let referenceEmbedding ← decodeReference state displayName faceId matchScore
    recognitionThreshold reference
  let trackerId ← unsignedInteger (← required values "tracker_id") 0
  let assignmentRevision ← unsignedInteger (← required values "assignment_revision") 1
  let identityEpoch ← unsignedInteger (← required values "identity_epoch") 1
  let decisionSequence ← unsignedInteger (← required values "decision_sequence") 0
  return {
    header := header
    trackerId := trackerId
    assignmentRevision := assignmentRevision
    identityEpoch := identityEpoch
    identityState := state
    displayName := displayName
    faceId := faceId
    matchScore := matchScore
    recognitionThreshold := recognitionThreshold
    referenceEmbedding := referenceEmbedding
    decisionSequence := decisionSequence }

def maxLiveObservations : Nat := 10

def maxAlignedJpegBytes : Nat := 512 * 1024

def observationItems (value : Object) : Except String (List Object) :=
  match value with
  | .array items =>
      if items.length > maxLiveObservations then .error "INVALID_PAYLOAD" else .ok items
  | _ => .error "INVALID_PAYLOAD"

def jpegBytes (value : Object) : Except String (List UInt8) :=
  match value with
  | .bin bytes =>
      if bytes.length > maxAlignedJpegBytes then .error "SNAPSHOT_TOO_LARGE" else .ok bytes
  | _ => .error "INVALID_PAYLOAD"

def decodeTrackEvidence (header : ProtocolHeader) (values : ObjectMap) :
    Except String TrackEvidenceEvent := do
  validateFields values
    ["tracker_id", "evidence_revision", "first_seen_ns", "last_seen_ns", "observations",
      "representative_aligned_jpeg"]
  let items ← observationItems (← required values "observations")
  let observations ← items.mapM decodeObservation
  let jpeg ← jpegBytes (← required values "representative_aligned_jpeg")
  let trackerId ← unsignedInteger (← required values "tracker_id") 0
  let evidenceRevision ← unsignedInteger (← required values "evidence_revision") 1
  let firstSeenNs ← unsignedInteger (← required values "first_seen_ns") 0
  let lastSeenNs ← unsignedInteger (← required values "last_seen_ns") 0
  return {
    header := header
    trackerId := trackerId
    evidenceRevision := evidenceRevision
    firstSeenNs := firstSeenNs
    lastSeenNs := lastSeenNs
    observations := observations
    representativeAlignedJpeg := jpeg }

def decodeTrackExpired (header : ProtocolHeader) (values : ObjectMap) :
    Except String TrackExpiredEvent := do
  validateFields values
    ["tracker_id", "evidence_revision", "first_seen_ns", "last_seen_ns", "reason"]
  let trackerId ← unsignedInteger (← required values "tracker_id") 0
  let evidenceRevision ← unsignedInteger (← required values "evidence_revision") 1
  let firstSeenNs ← unsignedInteger (← required values "first_seen_ns") 0
  let lastSeenNs ← unsignedInteger (← required values "last_seen_ns") 0
  let reason ← stringValue (← required values "reason")
  return ⟨header, trackerId, evidenceRevision, firstSeenNs, lastSeenNs, reason⟩

/-- The loop over the entries of a map. -/
def mapValues {α : Type} (read : Object → Except String α) (values : ObjectMap) :
    Except String (List (Text × α)) :=
  values.mapM fun entry => (fun value => (entry.1, value)) <$> read entry.2

def decodeMetrics (header : ProtocolHeader) (values : ObjectMap) :
    Except String MetricsEvent := do
  validateFields values ["counters", "gauges"]
  let counterValue ← required values "counters"
  let gaugeValue ← required values "gauges"
  failIf (¬ counterValue.isMap ∨ ¬ gaugeValue.isMap) "INVALID_PAYLOAD"
  let counters ← mapValues (unsignedInteger · 0) (← objectMap counterValue "INVALID_PAYLOAD")
  let gauges ← mapValues finiteNumber (← objectMap gaugeValue "INVALID_PAYLOAD")
  return ⟨header, counters, gauges.map fun gauge => (gauge.1, .finite gauge.2)⟩

def decodeStopped (header : ProtocolHeader) (values : ObjectMap) :
    Except String StoppedEvent := do
  validateFields values
    ["decoded_frames", "emitted_evidence", "dropped_events", "clean_shutdown", "reason"]
  let cleanShutdown ← booleanValue (← required values "clean_shutdown")
  let decodedFrames ← unsignedInteger (← required values "decoded_frames") 0
  let emittedEvidence ← unsignedInteger (← required values "emitted_evidence") 0
  let droppedEvents ← unsignedInteger (← required values "dropped_events") 0
  let reason ← stringValue (← required values "reason")
  return ⟨header, decodedFrames, emittedEvidence, droppedEvents, cleanShutdown, reason⟩

def operations : List String :=
  ["source_connect", "first_frame", "reconnect", "graph_rebuild", "inference_window",
    "output_start", "output_stop", "teardown"]

def attributeKeys : List String :=
  ["attempt", "reason", "state", "outcome", "batch_size", "object_count"]

def decodeAttribute (entry : Text × Object) : Except String (Text × NativeAttribute) := do
  failIf (entry.1 ∉ attributeKeys.map utf8) "INVALID_NATIVE_OPERATION"
  match entry.2 with
  | .str item =>
      failIf (¬ stableEnum (byteCodes item)) "INVALID_NATIVE_OPERATION"
      return (entry.1, .text item)
  | .integer n => return (entry.1, .integer (← signedInteger (.integer n)))
  | .float x => return (entry.1, .number (.finite (← finiteNumber (.float x))))
  | _ => throw "INVALID_NATIVE_OPERATION"

def decodeNativeOperation (header : ProtocolHeader) (values : ObjectMap) :
    Except String NativeOperationEvent := do
  validateFields values
    ["operation", "started_monotonic_ns", "ended_monotonic_ns", "status", "error_code",
      "attributes"]
  let operation ← stringValue (← required values "operation")
  let status ← stringValue (← required values "status")
  let errorCode ← optionalString (← required values "error_code")
  let started ← unsignedInteger (← required values "started_monotonic_ns") 0
  let ended ← unsignedInteger (← required values "ended_monotonic_ns") 0
  let attributeValue ← required values "attributes"
  failIf (operation ∉ operations.map utf8 ∨ (status ≠ utf8 "ok" ∧ status ≠ utf8 "error") ∨
    ended < started ∨ (status = utf8 "error" ∧ errorCode = none) ∨
    (status = utf8 "ok" ∧ errorCode ≠ none) ∨
    (∃ code ∈ errorCode, stableError (byteCodes code) = false) ∨ ¬ attributeValue.isMap ∨
    attributeValue.mapSize > 16) "INVALID_NATIVE_OPERATION"
  let entries ← objectMap attributeValue "INVALID_NATIVE_OPERATION"
  let attributes ← entries.mapM decodeAttribute
  return {
    header := header
    operation := operation
    startedMonotonicNs := started
    endedMonotonicNs := ended
    status := status
    errorCode := errorCode
    attributes := attributes }

def runtimeStates : List String :=
  ["STARTING", "ACTIVE", "RECONNECTING", "STOPPING", "STOPPED", "FAILED"]

def decodeStop (header : ProtocolHeader) (values : ObjectMap) : Except String StopCommand := do
  validateFields values ["reason", "shutdown_deadline_ns"]
  let reason ← stringValue (← required values "reason")
  let shutdownDeadlineNs ← unsignedInteger (← required values "shutdown_deadline_ns") 1
  return ⟨header, reason, shutdownDeadlineNs⟩

def decodeHello (header : ProtocolHeader) (values : ObjectMap) : Except String HelloEvent := do
  validateFields values ["build_id", "gstreamer_version", "deepstream_version"]
  let buildId ← stringValue (← required values "build_id")
  let gstreamerVersion ← stringValue (← required values "gstreamer_version")
  let deepstreamVersion ← stringValue (← required values "deepstream_version")
  return ⟨header, buildId, gstreamerVersion, deepstreamVersion⟩

def decodeState (header : ProtocolHeader) (values : ObjectMap) : Except String StateEvent := do
  validateFields values ["state", "reason"]
  let state ← stringValue (← required values "state")
  failIf (state ∉ runtimeStates.map utf8) "INVALID_PAYLOAD"
  let reason ← optionalString (← required values "reason")
  return ⟨header, state, reason⟩

def decodeOutputReady (header : ProtocolHeader) (values : ObjectMap) :
    Except String OutputReadyEvent := do
  validateFields values ["mount_path", "codec", "caps"]
  let mountPath ← stringValue (← required values "mount_path")
  let codec ← stringValue (← required values "codec")
  let caps ← stringValue (← required values "caps")
  return ⟨header, mountPath, codec, caps⟩

def decodeFailed (header : ProtocolHeader) (values : ObjectMap) :
    Except String FailedEvent := do
  validateFields values ["error_code", "message"]
  let errorCode ← stringValue (← required values "error_code")
  let message ← stringValue (← required values "message")
  return ⟨header, errorCode, message⟩

def decodePayload (values : ObjectMap) : Except String LiveMessage := do
  let header ← decodeHeader values
  let type := header.messageType
  if type = utf8 "start" then .start <$> decodeStart header values
  else if type = utf8 "identity_assignment" then
    .identityAssignment <$> decodeIdentityAssignment header values
  else if type = utf8 "stop" then .stop <$> decodeStop header values
  else if type = utf8 "hello" then .hello <$> decodeHello header values
  else if type = utf8 "state" then .state <$> decodeState header values
  else if type = utf8 "output_ready" then .outputReady <$> decodeOutputReady header values
  else if type = utf8 "track_evidence" then .trackEvidence <$> decodeTrackEvidence header values
  else if type = utf8 "track_expired" then .trackExpired <$> decodeTrackExpired header values
  else if type = utf8 "metrics" then .metrics <$> decodeMetrics header values
  else if type = utf8 "failed" then .failed <$> decodeFailed header values
  else if type = utf8 "stopped" then .stopped <$> decodeStopped header values
  else .nativeOperation <$> decodeNativeOperation header values

/-- The part of `decode_live_message` after the frame has been unpacked, without a context. -/
def decodeTree (value : Object) : Except String LiveMessage := do
  decodePayload (← objectMap value "INVALID_PAYLOAD")

/-! ## Frames -/

def maxLiveFrameBytes : Nat := 4 * 1024 * 1024

/-- The payload of a frame, whose first four bytes tell its size. -/
def framePayload (frame : List UInt8) : Except String (List UInt8) :=
  if frame.length < 4 then .error "TRUNCATED_FRAME"
  else if bigEndian (frame.take 4) > maxLiveFrameBytes then .error "FRAME_TOO_LARGE"
  else if frame.length ≠ 4 + bigEndian (frame.take 4) then .error "TRUNCATED_FRAME"
  else .ok (frame.drop 4)

/-- `decode_live_message` without a context; `msgpack::unpack` reads one value and ignores
what follows it. -/
def decodeLiveMessage (frame : List UInt8) : Except String LiveMessage := do
  let input ← framePayload frame
  match unpack input with
  | none => .error "INVALID_MESSAGEPACK"
  | some (value, _) => decodeTree value

end Mvision.Live.Native
