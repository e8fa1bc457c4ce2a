import Mvision.Live.NativeDecoder
import Mvision.Live.ProtocolDecoding

/-!
# The wire format

What both decoders check of a payload, as one table of fields for each message, and next to
it what only one of them checks.
-/

namespace Mvision.Live.Wire

open Mvision.Library
open Native (ObjectMap)

/-! ## What a field holds -/

def Text (value : Object) : Prop := ∃ bytes, value = .str bytes

def OneOf (texts : List String) (value : Object) : Prop := ∃ text ∈ texts, value = .text text

/-- A text of a format that is given on its bytes. -/
def Matches (format : List UInt8 → Bool) (value : Object) : Prop :=
  ∃ bytes, value = .str bytes ∧ format bytes = true

def Optional (check : Object → Prop) (value : Object) : Prop := value = .nil ∨ check value

def AtLeast (minimum : Int) (value : Object) : Prop := ∃ n, value = .integer n ∧ minimum ≤ n

def AtMost (maximum : Int) (value : Object) : Prop := ∀ n, value = .integer n → n ≤ maximum

/-- The number of a value that is one. -/
def numberOf : Object → Option ℚ
  | .float (.finite q) => some q
  | .integer n =>
      match binary64.round n with
      | .finite q => some q
      | _ => none
  | _ => none

def Number (value : Object) : Prop := ∃ q, numberOf value = some q

def UnitNumber (value : Object) : Prop := ∃ q, numberOf value = some q ∧ 0 ≤ q ∧ q ≤ 1

def Boolean (value : Object) : Prop := ∃ flag, value = .boolean flag

def isArray : Object → Bool
  | .array _ => true
  | _ => false

/-- The items of an array, and the bytes of binary data as integers. -/
def items : Object → List Object
  | .array items => items
  | .bin bytes => bytes.map fun byte => .integer byte.toNat
  | _ => []

def Numbers (size : Nat) (value : Object) : Prop :=
  (items value).length = size ∧ ∀ item ∈ items value, Number item

/-- The numbers of an array, zero for what is none. -/
def numbers (value : Object) : List ℚ := (items value).map fun item => (numberOf item).getD 0

def Embedding (value : Object) : Prop := isArray value = true ∧ Numbers 512 value

def Jpeg (value : Object) : Prop := ∃ bytes, value = .bin bytes ∧ bytes.length ≤ 512 * 1024

/-! ## Maps -/

/-- The value of a key. -/
def field (values : ObjectMap) (key : String) : Object := (values.lookup (utf8 key)).getD .nil

/-- A map has exactly the keys of `names`. -/
structure Named (names : List String) (values : ObjectMap) : Prop where
  present : ∀ name ∈ names, values.lookup (utf8 name) ≠ none
  known : ∀ entry ∈ values, entry.1 ∈ names.map utf8

abbrev Checks := List (String × (Object → Prop))

/-- A map has exactly the fields of a table, and each holds what the table says. -/
def Fields (checks : Checks) (values : ObjectMap) : Prop :=
  Named (checks.map Prod.fst) values ∧ ∀ check ∈ checks, check.2 (field values check.1)

/-- A map, by the last entry of each key. -/
def MapOf (check : ObjectMap → Prop) (value : Object) : Prop :=
  ∃ values, value.asStringMap = some values ∧ check values

def Values (check : Object → Prop) : Object → Prop :=
  MapOf fun values => ∀ entry ∈ values, check entry.2

def observationChecks : Checks :=
  [("timestamp_ns", AtLeast 0),
   ("bbox", Numbers 4),
   ("detector_confidence", Number),
   ("landmarks", Numbers 10),
   ("landmark_confidences", Numbers 5),
   ("quality_score", Number),
   ("reject_mask", AtLeast 0),
   ("embedding", Embedding)]

def Observations (value : Object) : Prop :=
  isArray value = true ∧ (items value).length ≤ 10 ∧
    ∀ item ∈ items value, MapOf (Fields observationChecks) item

def Attribute (value : Object) : Prop :=
  Matches (fun bytes => stableEnum (byteCodes bytes)) value ∨ (∃ n, value = .integer n) ∨
    ∃ q, value = .float (.finite q)

def Attributes : Object → Prop :=
  MapOf fun values => values.length ≤ 16 ∧
    ∀ entry ∈ values, entry.1 ∈ Native.attributeKeys.map utf8 ∧ Attribute entry.2

/-! ## Messages -/

def Uuid : Object → Prop := Matches Native.canonicalUuid

def headerChecks : Checks :=
  [("protocol_version", fun value => value = .integer 2),
   ("message_type", Text),
   ("session_id", Uuid),
   ("camera_id", Uuid),
   ("run_id", Uuid),
   ("generation", AtLeast 1),
   ("runtime_attempt", AtLeast 1),
   ("sequence", AtLeast 0),
   ("traceparent", Matches fun bytes => traceparentValid (byteCodes bytes)),
   ("tracestate", Optional (Matches Native.tracestateValid))]

def messageChecks : MessageType → Checks
  | .start =>
      [("uri", Text),
       ("gpu_id", AtLeast 0),
       ("pgie_config_path", Text),
       ("preprocess_config_path", Text),
       ("sgie_config_path", Text),
       ("tracker_config_path", Text),
       ("output_mount_path", Text),
       ("output_udp_port", AtLeast 1),
       ("output_rtsp_port", AtLeast 1),
       ("profile_version", AtLeast 1),
       ("analytics_mode", OneOf ["detect", "detectTrack", "recognize"]),
       ("sample_every_n", AtLeast 1),
       ("detector_threshold", UnitNumber),
       ("recognition_threshold", UnitNumber),
       ("top2_margin", UnitNumber),
       ("track_gap_ns", AtLeast 1),
       ("latency_ms", AtLeast 0),
       ("reconnect_interval_seconds", AtLeast 0),
       ("reconnect_attempts", AtLeast (-1)),
       ("frame_timeout_ns", AtLeast 1),
       ("recording_enabled", Boolean),
       ("annotated_enabled", Boolean)]
  | .identityAssignment =>
      [("tracker_id", AtLeast 0),
       ("assignment_revision", AtLeast 1),
       ("identity_epoch", AtLeast 1),
       ("identity_state", OneOf ["known", "unknown"]),
       ("display_name", Optional Text),
       ("face_id", Optional Uuid),
       ("match_score", Optional Number),
       ("recognition_threshold", Optional Number),
       ("reference_embedding", Optional Embedding),
       ("decision_sequence", AtLeast 0)]
  | .stop => [("reason", Text), ("shutdown_deadline_ns", AtLeast 1)]
  | .hello => [("build_id", Text), ("gstreamer_version", Text), ("deepstream_version", Text)]
  | .state =>
      [("state", OneOf ["STARTING", "ACTIVE", "RECONNECTING", "STOPPING", "STOPPED", "FAILED"]),
       ("reason", Optional Text)]
  | .outputReady => [("mount_path", Text), ("codec", Text), ("caps", Text)]
  | .trackEvidence =>
      [("tracker_id", AtLeast 0),
       ("evidence_revision", AtLeast 1),
       ("first_seen_ns", AtLeast 0),
       ("last_seen_ns", AtLeast 0),
       ("observations", Observations),
       ("representative_aligned_jpeg", Jpeg)]
  | .trackExpired =>
      [("tracker_id", AtLeast 0),
       ("evidence_revision", AtLeast 1),
       ("first_seen_ns", AtLeast 0),
       ("last_seen_ns", AtLeast 0),
       ("reason", Text)]
  | .metrics => [("counters", Values (AtLeast 0)), ("gauges", Values Number)]
  | .failed => [("error_code", Text), ("message", Text)]
  | .stopped =>
      [("decoded_frames", AtLeast 0),
       ("emitted_evidence", AtLeast 0),
       ("dropped_events", AtLeast 0),
       ("clean_shutdown", Boolean),
       ("reason", Text)]
  | .nativeOperation =>
      [("operation", OneOf Native.operations),
       ("started_monotonic_ns", AtLeast 0),
       ("ended_monotonic_ns", AtLeast 0),
       ("status", OneOf ["ok", "error"]),
       ("error_code", Optional (Matches fun bytes => stableError (byteCodes bytes))),
       ("attributes", Attributes)]

/-- The fields that a known face has and an unknown one does not. -/
def faceFields : List String :=
  ["display_name", "face_id", "match_score", "recognition_threshold", "reference_embedding"]

/-- The checks that compare fields. -/
def Consistent : MessageType → ObjectMap → Prop
  | .identityAssignment, values =>
      ∀ name ∈ faceFields,
        (field values name ≠ .nil ↔ field values "identity_state" = .text "known")
  | .nativeOperation, values =>
      (∀ started ended, field values "started_monotonic_ns" = .integer started →
          field values "ended_monotonic_ns" = .integer ended → started ≤ ended) ∧
        (field values "error_code" ≠ .nil ↔ field values "status" = .text "error")
  | _, _ => True

/-- A payload that passes the checks of both decoders. -/
structure Message (type : MessageType) (values : ObjectMap) : Prop where
  messageType : field values "message_type" = .text type.text
  fields : Fields (headerChecks ++ messageChecks type) values
  consistent : Consistent type values

/-! ## What only the worker checks -/

/-- The numbers rounded to floats. -/
def floats (value : Object) : List FloatValue := (numbers value).map Native.toFloat

def NativeObservation (values : ObjectMap) : Prop :=
  isArray (field values "bbox") = true ∧ isArray (field values "landmarks") = true ∧
    isArray (field values "landmark_confidences") = true ∧
    Native.normInvalid (Native.doubleSquares (floats (field values "embedding"))) = false

/-- The integers of a start command have a place in the struct, an array is no binary data,
the norm is that of floats, and the entries of `attributes` are counted with repeated keys. -/
def NativeReads : MessageType → ObjectMap → Prop
  | .start, values =>
      AtMost 65535 (field values "output_udp_port") ∧
        AtMost 65535 (field values "output_rtsp_port") ∧
        AtMost 4294967295 (field values "profile_version") ∧
        AtMost 4294967295 (field values "sample_every_n") ∧
        AtMost 4294967295 (field values "latency_ms") ∧
        AtMost 4294967295 (field values "reconnect_interval_seconds") ∧
        AtMost 2147483647 (field values "reconnect_attempts")
  | .identityAssignment, values =>
      field values "reference_embedding" ≠ .nil →
        Native.normInvalid
          (Native.floatSquares (floats (field values "reference_embedding"))) = false
  | .trackEvidence, values =>
      ∀ item ∈ items (field values "observations"), MapOf NativeObservation item
  | .nativeOperation, values =>
      (field values "attributes").mapSize ≤ 16 ∧
        Values (AtMost 9223372036854775807) (field values "attributes")
  | _, _ => True

/-! ## What only the Python side checks -/

/-- The keys of a map are texts. -/
def TextKeys : Object → Prop
  | .map entries => ∀ entry ∈ entries, Text entry.1
  | _ => True

/-- The keys are texts, and the norm is that of doubles. -/
def PythonReads : MessageType → ObjectMap → Prop
  | .identityAssignment, values =>
      field values "reference_embedding" ≠ .nil →
        Protocol.normValid (numbers (field values "reference_embedding")) = true
  | .trackEvidence, values =>
      ∀ item ∈ items (field values "observations"), TextKeys item ∧
        MapOf (fun values => Protocol.normValid (numbers (field values "embedding")) = true) item
  | .metrics, values => TextKeys (field values "counters") ∧ TextKeys (field values "gauges")
  | .nativeOperation, values => TextKeys (field values "attributes")
  | _, _ => True

end Mvision.Live.Wire
