import Mathlib.Data.List.DropRight
import Mvision.Library.MessagePackReader
import Mvision.Live.NativeDecoder
import Mvision.Live.ProtocolEncoding

/-!
# `decode_message`

The decoder of `protocol.py`.  A dictionary is its entries in the order of insertion, a
text in a tree its bytes.  An error is the text of the `ValueError` that it ends in.
-/

namespace Mvision.Live.Protocol

open Mvision.Library
open Native (failIf)

/-! ## `unpackb` -/

/-- A key that a dictionary may have: `strict_map_key` keeps all others out. -/
inductive DictKey where
  | text (value : String)
  | bytes (value : List UInt8)
deriving DecidableEq, Repr

def dictKey : Object → Option DictKey
  | .str bytes => (ofUtf8 bytes).map .text
  | .bin bytes => some (.bytes bytes)
  | _ => none

mutual
/-- Every text is UTF-8, and every key one of a dictionary. -/
def readable : Object → Bool
  | .str bytes => (ofUtf8 bytes).isSome
  | .array items => itemsReadable items
  | .map entries => entriesReadable entries
  | _ => true
def itemsReadable : List Object → Bool
  | [] => true
  | item :: items => readable item && itemsReadable items
def entriesReadable : List (Object × Object) → Bool
  | [] => true
  | (key, value) :: entries =>
      (dictKey key).isSome && readable value && entriesReadable entries
end

/-- `unpackb(…, raw=False)`: one value, and nothing after it. -/
def unpackb (input : List UInt8) : Option Object :=
  match unpack input with
  | some (value, []) => if readable value then some value else none
  | _ => none

/-- The dictionary of the entries of a map: a later entry replaces the value of its key. -/
def dictEntries (entries : List (Object × Object)) (values : List (DictKey × Object)) :
    Option (List (DictKey × Object)) :=
  match entries with
  | [] => some values
  | (key, value) :: rest =>
      match dictKey key with
      | none => none
      | some name => dictEntries rest (assign values name value)

/-- `isinstance(value, dict)` -/
def dict : Object → Option (List (DictKey × Object))
  | .map entries => dictEntries entries []
  | _ => none

/-- The dictionary if all its keys are texts. -/
def textEntries (entries : List (DictKey × Object)) : Option (List (String × Object)) :=
  entries.mapM fun entry =>
    match entry.1 with
    | .text name => some (name, entry.2)
    | .bytes _ => none

/-! ## Values -/

/-- `payload[key]` -/
def subscript (payload : List (String × Object)) (key : String) : Except String Object :=
  match payload.lookup key with
  | some value => .ok value
  | none => .error "MISSING_FIELD"

def integer (value : Object) (minimum : Nat) : Except String Nat :=
  match value with
  | .integer n => if n < minimum then .error "INVALID_INTEGER" else .ok n.toNat
  | _ => .error "INVALID_INTEGER"

def finite (value : Object) : Except String ℚ :=
  match value with
  | .float (.finite q) => .ok q
  | .integer n =>
      match binary64.round n with
      | .finite q => .ok q
      | _ => .error "NON_FINITE_VALUE"
  | _ => .error "NON_FINITE_VALUE"

def string (value : Object) : Except String String :=
  match value with
  | .str bytes =>
      match ofUtf8 bytes with
      | some text => .ok text
      | none => .error "INVALID_PAYLOAD"
  | _ => .error "INVALID_PAYLOAD"

def optionalString (value : Object) : Except String (Option String) :=
  match value with
  | .nil => .ok none
  | value => some <$> string value

def optionalFinite (value : Object) : Except String (Option ℚ) :=
  match value with
  | .nil => .ok none
  | value => some <$> finite value

/-- `str.lower` of a text without other letters than ASCII ones. -/
def lower (text : String) : String := String.ofList (text.toList.map Char.toLower)

/-- `str(UUID(text))` has hyphens at their places and lower-case digits, so it is
`text.lower()` exactly for a text with hyphens at the same places and digits elsewhere. -/
def uuidOf (text : String) : Except String String :=
  if uuidText hexadecimal (codes text) then .ok (lower text) else .error "INVALID_UUID"

def uuid (value : Object) : Except String String :=
  match value with
  | .str bytes =>
      match ofUtf8 bytes with
      | some text => uuidOf text
      | none => .error "INVALID_UUID"
  | _ => .error "INVALID_UUID"

def boolean (value : Object) : Except String Bool :=
  match value with
  | .boolean flag => .ok flag
  | _ => .error "INVALID_PAYLOAD"

/-! ## The trace context -/

/-- White space of `str.strip` among the ASCII characters. -/
def space (code : Nat) : Bool := (9 ≤ code && code ≤ 13) || (28 ≤ code && code ≤ 32)

def strip (text : List Nat) : List Nat := (text.dropWhile space).rdropWhile space

def memberInvalid (member : List Nat) : Bool :=
  decide (member = [] ∨ '='.toNat ∉ member ∨ member ≠ strip member) ||
    member.any fun code => decide (code < 0x20 ∨ 0x7E < code)

def tracestateValid (tracestate : String) : Bool :=
  let members := (codes tracestate).splitOn ','.toNat
  (codes tracestate).all (· < 128) &&
    !(decide ((codes tracestate).length > 512 ∨ members.length > 32 ∨ members = [])) &&
    !members.any memberInvalid

def validateTraceContext (traceparent : String) (tracestate : Option String) :
    Except String Unit :=
  if ¬ traceparentValid (codes traceparent) then .error "INVALID_TRACE_CONTEXT"
  else
    match tracestate with
    | none => .ok ()
    | some tracestate =>
        if tracestateValid tracestate then .ok () else .error "INVALID_TRACE_CONTEXT"

/-! ## The header -/

def headerFields : List String :=
  ["protocol_version", "message_type", "session_id", "camera_id", "run_id", "generation",
    "runtime_attempt", "sequence", "traceparent", "tracestate"]

def messageTypes : List MessageType :=
  [.start, .identityAssignment, .stop, .hello, .state, .outputReady, .trackEvidence,
    .trackExpired, .metrics, .failed, .stopped, .nativeOperation]

/-- `_MESSAGE_FIELDS` -/
def messageFields : MessageType → List String
  | .start =>
      ["uri", "gpu_id", "pgie_config_path", "preprocess_config_path", "sgie_config_path",
        "tracker_config_path", "output_mount_path", "output_udp_port", "output_rtsp_port",
        "profile_version", "analytics_mode", "sample_every_n", "detector_threshold",
        "recognition_threshold", "top2_margin", "track_gap_ns", "latency_ms",
        "reconnect_interval_seconds", "reconnect_attempts", "frame_timeout_ns",
        "recording_enabled", "annotated_enabled"]
  | .identityAssignment =>
      ["tracker_id", "assignment_revision", "identity_epoch", "identity_state", "display_name",
        "face_id", "match_score", "recognition_threshold", "reference_embedding",
        "decision_sequence"]
  | .stop => ["reason", "shutdown_deadline_ns"]
  | .hello => ["build_id", "gstreamer_version", "deepstream_version"]
  | .state => ["state", "reason"]
  | .outputReady => ["mount_path", "codec", "caps"]
  | .trackEvidence =>
      ["tracker_id", "evidence_revision", "first_seen_ns", "last_seen_ns", "observations",
        "representative_aligned_jpeg"]
  | .trackExpired =>
      ["tracker_id", "evidence_revision", "first_seen_ns", "last_seen_ns", "reason"]
  | .metrics => ["counters", "gauges"]
  | .failed => ["error_code", "message"]
  | .stopped =>
      ["decoded_frames", "emitted_evidence", "dropped_events", "clean_shutdown", "reason"]
  | .nativeOperation =>
      ["operation", "started_monotonic_ns", "ended_monotonic_ns", "status", "error_code",
        "attributes"]

def messageType (text : String) : Except String MessageType :=
  match messageTypes.find? fun type => type.text = text with
  | some type => .ok type
  | none => .error "UNKNOWN_MESSAGE_TYPE"

/-- `_header` -/
def header (payload : List (String × Object)) : Except String ProtocolHeader := do
  let version ← integer (← subscript payload "protocol_version") 1
  failIf (version ≠ 2) "UNSUPPORTED_PROTOCOL_VERSION"
  let type ← messageType (← string (← subscript payload "message_type"))
  let traceparent ← string (← subscript payload "traceparent")
  let tracestate ← optionalString (← subscript payload "tracestate")
  validateTraceContext traceparent tracestate
  let sessionId ← uuid (← subscript payload "session_id")
  let cameraId ← uuid (← subscript payload "camera_id")
  let runId ← uuid (← subscript payload "run_id")
  let generation ← integer (← subscript payload "generation") 1
  let runtimeAttempt ← integer (← subscript payload "runtime_attempt") 1
  let sequence ← integer (← subscript payload "sequence") 0
  return {
    protocolVersion := version
    messageType := type
    sessionId := sessionId
    cameraId := cameraId
    runId := runId
    generation := generation
    runtimeAttempt := runtimeAttempt
    sequence := sequence
    traceparent := traceparent
    tracestate := tracestate }

/-! ## Embeddings and observations -/

/-- A step of `sum`, which compensates the rounding of the additions. -/
def sumStep (state : FloatValue × FloatValue) (x : FloatValue) : FloatValue × FloatValue :=
  let (total, compensation) := state
  let t := binary64.add total x
  let lost :=
    if x.abs.lessEq total.abs then binary64.add (binary64.add total t.neg) x
    else binary64.add (binary64.add x t.neg) total
  (t, binary64.add compensation lost)

def sum (values : List FloatValue) : FloatValue :=
  match values.foldl sumStep (.finite 0, .finite 0) with
  | (total, .finite compensation) =>
      if compensation = 0 then total else binary64.add total (.finite compensation)
  | (total, _) => total

/-- `0.99 <= math.sqrt(sum(value * value for value in embedding)) <= 1.01` -/
def normValid (embedding : List ℚ) : Bool :=
  let norm := binary64.sqrt (sum (embedding.map fun value => binary64.round (value * value)))
  Native.leastNorm.lessEq norm && norm.lessEq Native.greatestNorm

/-- `_embedding`; an `ExtType` is a pair with data at its end, and a `Timestamp` is none. -/
def embedding (payload : Object) : Except String (List ℚ) :=
  match payload with
  | .array items => do
      let values ← items.mapM finite
      failIf (values.length ≠ 512) "INVALID_EMBEDDING"
      failIf (normValid values = false) "INVALID_EMBEDDING_NORM"
      return values
  | .ext type _ => .error (if type = -1 then "INVALID_EMBEDDING" else "NON_FINITE_VALUE")
  | _ => .error "INVALID_EMBEDDING"

/-- `tuple(_finite(value) for value in payload)`: bytes are iterated as integers, texts and
dictionaries as texts and keys. -/
def finiteTuple (payload : Object) : Except String (List ℚ) :=
  match payload with
  | .array items => items.mapM finite
  | .bin bytes => bytes.mapM fun byte => finite (.integer byte.toNat)
  | .str [] | .map [] => .ok []
  | .str _ | .map _ => .error "NON_FINITE_VALUE"
  | .ext type _ => .error (if type = -1 then "INVALID_PAYLOAD" else "NON_FINITE_VALUE")
  | _ => .error "INVALID_PAYLOAD"

/-- `tuple` and the check of its length. -/
def finiteArray (size : Nat) (payload : Object) (sizeError : String) : Except String (List ℚ) := do
  let values ← finiteTuple payload
  failIf (values.length ≠ size) sizeError
  return values

def observationFields : List String :=
  ["timestamp_ns", "bbox", "detector_confidence", "landmarks", "landmark_confidences",
    "quality_score", "reject_mask", "embedding"]

/-- `payload[key]` of a dictionary whose keys may be bytes. -/
def item (payload : List (DictKey × Object)) (key : String) : Except String Object :=
  match payload.lookup (.text key) with
  | some value => .ok value
  | none => .error "MISSING_FIELD"

/-- `_observation` -/
def observation (value : Object) : Except String LiveObservation := do
  let payload ← (dict value).elim (.error "INVALID_PAYLOAD") .ok
  failIf (∃ key ∈ observationFields, (payload.lookup (.text key)).isNone) "MISSING_FIELD"
  failIf (∃ entry ∈ payload, entry.1 ∉ observationFields.map .text) "UNKNOWN_FIELD"
  let bbox ← finiteArray 4 (← item payload "bbox") "INVALID_PAYLOAD"
  let landmarks ← finiteArray 10 (← item payload "landmarks") "INVALID_LANDMARKS"
  let landmarkConfidences ←
    finiteArray 5 (← item payload "landmark_confidences") "INVALID_LANDMARKS"
  let embedding ← embedding (← item payload "embedding")
  let timestampNs ← integer (← item payload "timestamp_ns") 0
  let detectorConfidence ← finite (← item payload "detector_confidence")
  let qualityScore ← finite (← item payload "quality_score")
  let rejectMask ← integer (← item payload "reject_mask") 0
  return {
    timestampNs := timestampNs
    bbox := bbox
    detectorConfidence := detectorConfidence
    landmarks := landmarks
    landmarkConfidences := landmarkConfidences
    qualityScore := qualityScore
    rejectMask := rejectMask
    embedding := embedding }

/-! ## Messages -/

/-- An integer of at least -1. -/
def attempts (value : Object) : Except String Int :=
  match value with
  | .integer n => if n < -1 then .error "INVALID_INTEGER" else .ok n
  | _ => .error "INVALID_INTEGER"

def unitInterval (q : ℚ) : Bool := decide (0 ≤ q) && decide (q ≤ 1)

def startCommand (header : ProtocolHeader) (payload : List (String × Object)) :
    Except String StartCommand := do
  let reconnectAttempts ← attempts (← subscript payload "reconnect_attempts")
  let analyticsMode ← string (← subscript payload "analytics_mode")
  failIf (analyticsMode ∉ ["detect", "detectTrack", "recognize"]) "INVALID_PAYLOAD"
  let detectorThreshold ← finite (← subscript payload "detector_threshold")
  let recognitionThreshold ← finite (← subscript payload "recognition_threshold")
  let top2Margin ← finite (← subscript payload "top2_margin")
  failIf (¬ (unitInterval detectorThreshold ∧ unitInterval recognitionThreshold ∧
    unitInterval top2Margin)) "INVALID_PAYLOAD"
  let recordingEnabled ← boolean (← subscript payload "recording_enabled")
  let annotatedEnabled ← boolean (← subscript payload "annotated_enabled")
  let uri ← string (← subscript payload "uri")
  let gpuId ← integer (← subscript payload "gpu_id") 0
  let pgieConfigPath ← string (← subscript payload "pgie_config_path")
  let preprocessConfigPath ← string (← subscript payload "preprocess_config_path")
  let sgieConfigPath ← string (← subscript payload "sgie_config_path")
  let trackerConfigPath ← string (← subscript payload "tracker_config_path")
  let outputMountPath ← string (← subscript payload "output_mount_path")
  let outputUdpPort ← integer (← subscript payload "output_udp_port") 1
  let outputRtspPort ← integer (← subscript payload "output_rtsp_port") 1
  let profileVersion ← integer (← subscript payload "profile_version") 1
  let sampleEveryN ← integer (← subscript payload "sample_every_n") 1
  let trackGapNs ← integer (← subscript payload "track_gap_ns") 1
  let latencyMs ← integer (← subscript payload "latency_ms") 0
  let reconnectIntervalSeconds ← integer (← subscript payload "reconnect_interval_seconds") 0
  let frameTimeoutNs ← integer (← subscript payload "frame_timeout_ns") 1
  return {
    header := header
    uri := uri
    gpuId := gpuId
    pgieConfigPath := pgieConfigPath
    preprocessConfigPath := preprocessConfigPath
    sgieConfigPath := sgieConfigPath
    trackerConfigPath := trackerConfigPath
    outputMountPath := outputMountPath
    outputUdpPort := outputUdpPort
    outputRtspPort := outputRtspPort
    profileVersion := profileVersion
    analyticsMode := analyticsMode
    sampleEveryN := sampleEveryN
    detectorThreshold := detectorThreshold
    recognitionThreshold := recognitionThreshold
    top2Margin := top2Margin
    trackGapNs := trackGapNs
    latencyMs := latencyMs
    reconnectIntervalSeconds := reconnectIntervalSeconds
    reconnectAttempts := reconnectAttempts
    frameTimeoutNs := frameTimeoutNs
    recordingEnabled := recordingEnabled
    annotatedEnabled := annotatedEnabled }

def identityState (text : String) : Except String AssignedState :=
  if text = "known" then .ok .known
  else if text = "unknown" then .ok .unknown
  else .error "INVALID_PAYLOAD"

/-- The reference of an assignment: of a known face with all its fields, or absent. -/
def referenceEmbedding (state : AssignedState) (displayName faceId : Option String)
    (matchScore recognitionThreshold : Option ℚ) (reference : Object) :
    Except String (Option (List ℚ)) :=
  if state = .known then do
    failIf (displayName = none ∨ faceId = none ∨ matchScore = none ∨
      recognitionThreshold = none ∨ reference.isNil) "INVALID_IDENTITY_ASSIGNMENT"
    some <$> embedding reference
  else do
    failIf (displayName ≠ none ∨ faceId ≠ none ∨ matchScore ≠ none ∨
      recognitionThreshold ≠ none ∨ ¬ reference.isNil) "INVALID_IDENTITY_ASSIGNMENT"
    return none

def identityAssignment (header : ProtocolHeader) (payload : List (String × Object)) :
    Except String IdentityAssignment := do
  let state ← identityState (← string (← subscript payload "identity_state"))
  let faceText ← optionalString (← subscript payload "face_id")
  let faceId ← faceText.elim (.ok none) fun text => some <$> uuidOf text
  let matchScore ← optionalFinite (← subscript payload "match_score")
  let recognitionThreshold ← optionalFinite (← subscript payload "recognition_threshold")
  let displayName ← optionalString (← subscript payload "display_name")
  let reference ← subscript payload "reference_embedding"
  let reference ← referenceEmbedding state displayName faceId matchScore recognitionThreshold
    reference
  let trackerId ← integer (← subscript payload "tracker_id") 0
  let assignmentRevision ← integer (← subscript payload "assignment_revision") 1
  let identityEpoch ← integer (← subscript payload "identity_epoch") 1
  let decisionSequence ← integer (← subscript payload "decision_sequence") 0
  return {
    header := header
    trackerId := trackerId
    assignmentRevision := assignmentRevision
    identityEpoch := identityEpoch
    identityState := state
    displayName := displayName
    faceId := faceId
    matchScore := matchScore
    recognitionThreshold := recognitionThreshold
    referenceEmbedding := reference
    decisionSequence := decisionSequence }

def stopCommand (header : ProtocolHeader) (payload : List (String × Object)) :
    Except String StopCommand := do
  let reason ← string (← subscript payload "reason")
  let shutdownDeadlineNs ← integer (← subscript payload "shutdown_deadline_ns") 1
  return ⟨header, reason, shutdownDeadlineNs⟩

def helloEvent (header : ProtocolHeader) (payload : List (String × Object)) :
    Except String HelloEvent := do
  let buildId ← string (← subscript payload "build_id")
  let gstreamerVersion ← string (← subscript payload "gstreamer_version")
  let deepstreamVersion ← string (← subscript payload "deepstream_version")
  return ⟨header, buildId, gstreamerVersion, deepstreamVersion⟩

def runtimeStates : List LiveRuntimeState :=
  [.starting, .active, .reconnecting, .stopping, .stopped, .failed]

def runtimeState (text : String) : Except String LiveRuntimeState :=
  match runtimeStates.find? fun state => state.text = text with
  | some state => .ok state
  | none => .error "INVALID_PAYLOAD"

def stateEvent (header : ProtocolHeader) (payload : List (String × Object)) :
    Except String StateEvent := do
  let state ← runtimeState (← string (← subscript payload "state"))
  let reason ← optionalString (← subscript payload "reason")
  return ⟨header, state, reason⟩

def outputReadyEvent (header : ProtocolHeader) (payload : List (String × Object)) :
    Except String OutputReadyEvent := do
  let mountPath ← string (← subscript payload "mount_path")
  let codec ← string (← subscript payload "codec")
  let caps ← string (← subscript payload "caps")
  return ⟨header, mountPath, codec, caps⟩

def maxObservations : Nat := 10

def maxAlignedJpegBytes : Nat := 512 * 1024

def list (value : Object) : Except String (List Object) :=
  match value with
  | .array items => .ok items
  | _ => .error "INVALID_PAYLOAD"

def jpegBytes (value : Object) : Except String (List UInt8) :=
  match value with
  | .bin bytes =>
      if bytes.length > maxAlignedJpegBytes then .error "SNAPSHOT_TOO_LARGE" else .ok bytes
  | _ => .error "INVALID_PAYLOAD"

def trackEvidenceEvent (header : ProtocolHeader) (payload : List (String × Object)) :
    Except String TrackEvidenceEvent := do
  let items ← list (← subscript payload "observations")
  let observations ← items.mapM observation
  failIf (observations.length > maxObservations) "INVALID_PAYLOAD"
  let jpeg ← jpegBytes (← subscript payload "representative_aligned_jpeg")
  let trackerId ← integer (← subscript payload "tracker_id") 0
  let evidenceRevision ← integer (← subscript payload "evidence_revision") 1
  let firstSeenNs ← integer (← subscript payload "first_seen_ns") 0
  let lastSeenNs ← integer (← subscript payload "last_seen_ns") 0
  return {
    header := header
    trackerId := trackerId
    evidenceRevision := evidenceRevision
    firstSeenNs := firstSeenNs
    lastSeenNs := lastSeenNs
    observations := observations
    representativeAlignedJpeg := jpeg }

def trackExpiredEvent (header : ProtocolHeader) (payload : List (String × Object)) :
    Except String TrackExpiredEvent := do
  let trackerId ← integer (← subscript payload "tracker_id") 0
  let evidenceRevision ← integer (← subscript payload "evidence_revision") 1
  let firstSeenNs ← integer (← subscript payload "first_seen_ns") 0
  let lastSeenNs ← integer (← subscript payload "last_seen_ns") 0
  let reason ← string (← subscript payload "reason")
  return ⟨header, trackerId, evidenceRevision, firstSeenNs, lastSeenNs, reason⟩

/-- `{_string(key): read(value) for key, value in values.items()}` -/
def textDict {α : Type} (read : Object → Except String α) (values : List (DictKey × Object)) :
    Except String (List (String × α)) :=
  values.mapM fun entry =>
    match entry.1 with
    | .text name => (fun value => (name, value)) <$> read entry.2
    | .bytes _ => .error "INVALID_PAYLOAD"

def metricsEvent (header : ProtocolHeader) (payload : List (String × Object)) :
    Except String MetricsEvent := do
  let counterValue ← subscript payload "counters"
  let gaugeValue ← subscript payload "gauges"
  let counterDict ← (dict counterValue).elim (.error "INVALID_PAYLOAD") .ok
  let gaugeDict ← (dict gaugeValue).elim (.error "INVALID_PAYLOAD") .ok
  let counters ← textDict (integer · 0) counterDict
  let gauges ← textDict finite gaugeDict
  return ⟨header, counters, gauges⟩

def failedEvent (header : ProtocolHeader) (payload : List (String × Object)) :
    Except String FailedEvent := do
  let errorCode ← string (← subscript payload "error_code")
  let message ← string (← subscript payload "message")
  return ⟨header, errorCode, message⟩

def stoppedEvent (header : ProtocolHeader) (payload : List (String × Object)) :
    Except String StoppedEvent := do
  let cleanShutdown ← boolean (← subscript payload "clean_shutdown")
  let decodedFrames ← integer (← subscript payload "decoded_frames") 0
  let emittedEvidence ← integer (← subscript payload "emitted_evidence") 0
  let droppedEvents ← integer (← subscript payload "dropped_events") 0
  let reason ← string (← subscript payload "reason")
  return ⟨header, decodedFrames, emittedEvidence, droppedEvents, cleanShutdown, reason⟩

def nativeOperations : List String :=
  ["source_connect", "first_frame", "reconnect", "graph_rebuild", "inference_window",
    "output_start", "output_stop", "teardown"]

def nativeAttributeKeys : List String :=
  ["attempt", "reason", "state", "outcome", "batch_size", "object_count"]

def nativeAttribute (entry : DictKey × Object) : Except String (String × NativeAttribute) :=
  match entry.1 with
  | .bytes _ => .error "INVALID_NATIVE_OPERATION"
  | .text name =>
      if name ∉ nativeAttributeKeys then .error "INVALID_NATIVE_OPERATION"
      else
        match entry.2 with
        | .str bytes =>
            match ofUtf8 bytes with
            | some text =>
                if stableEnum (codes text) then .ok (name, .text text)
                else .error "INVALID_NATIVE_OPERATION"
            | none => .error "INVALID_NATIVE_OPERATION"
        | .integer n => .ok (name, .integer n)
        | .float x => (fun q => (name, .number q)) <$> finite (.float x)
        | _ => .error "INVALID_NATIVE_OPERATION"

def nativeOperationEvent (header : ProtocolHeader) (payload : List (String × Object)) :
    Except String NativeOperationEvent := do
  let operation ← string (← subscript payload "operation")
  let status ← string (← subscript payload "status")
  let errorCode ← optionalString (← subscript payload "error_code")
  let started ← integer (← subscript payload "started_monotonic_ns") 0
  let ended ← integer (← subscript payload "ended_monotonic_ns") 0
  let attributesPayload := dict (← subscript payload "attributes")
  failIf (operation ∉ nativeOperations ∨ status ∉ ["ok", "error"] ∨ ended < started ∨
    (status = "error" ∧ errorCode = none) ∨ (status = "ok" ∧ errorCode ≠ none) ∨
    (∃ code ∈ errorCode, stableError (codes code) = false) ∨ attributesPayload = none ∨
    (attributesPayload.getD []).length > 16) "INVALID_NATIVE_OPERATION"
  let attributes ← (attributesPayload.getD []).mapM nativeAttribute
  return {
    header := header
    operation := operation
    startedMonotonicNs := started
    endedMonotonicNs := ended
    status := status
    errorCode := errorCode
    attributes := attributes }

/-- The part of `_decode_payload` after its checks of the fields. -/
def decodeMessageFields (header : ProtocolHeader) (payload : List (String × Object)) :
    Except String LiveMessage :=
  match header.messageType with
  | .start => .start <$> startCommand header payload
  | .identityAssignment => .identityAssignment <$> identityAssignment header payload
  | .stop => .stop <$> stopCommand header payload
  | .hello => .hello <$> helloEvent header payload
  | .state => .state <$> stateEvent header payload
  | .outputReady => .outputReady <$> outputReadyEvent header payload
  | .trackEvidence => .trackEvidence <$> trackEvidenceEvent header payload
  | .trackExpired => .trackExpired <$> trackExpiredEvent header payload
  | .metrics => .metrics <$> metricsEvent header payload
  | .failed => .failed <$> failedEvent header payload
  | .stopped => .stopped <$> stoppedEvent header payload
  | .nativeOperation => .nativeOperation <$> nativeOperationEvent header payload

/-- `_decode_payload` -/
def decodePayload (payload : List (String × Object)) : Except String LiveMessage := do
  failIf (∃ key ∈ headerFields, (payload.lookup key).isNone) "MISSING_FIELD"
  let header ← header payload
  let required := headerFields ++ messageFields header.messageType
  failIf (∃ key ∈ required, (payload.lookup key).isNone) "MISSING_FIELD"
  failIf (∃ entry ∈ payload, entry.1 ∉ required) "UNKNOWN_FIELD"
  decodeMessageFields header payload

def headerSize : Nat := 4

/-- The payload of a frame, whose header tells its size. -/
def framePayload (frame : List UInt8) : Except String (List UInt8) :=
  if frame.length < headerSize then .error "TRUNCATED_FRAME"
  else if bigEndian (frame.take headerSize) > maxFrameBytes then .error "FRAME_TOO_LARGE"
  else if frame.length ≠ headerSize + bigEndian (frame.take headerSize) then
    .error "TRUNCATED_FRAME"
  else .ok (frame.drop headerSize)

def decodeMessage (frame : List UInt8) : Except String LiveMessage := do
  let input ← framePayload frame
  match unpackb input with
  | none => .error "INVALID_MESSAGEPACK"
  | some value =>
      match (dict value).bind textEntries with
      | none => .error "INVALID_PAYLOAD"
      | some payload => decodePayload payload

end Mvision.Live.Protocol
