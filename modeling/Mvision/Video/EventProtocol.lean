import Mvision.Library.MessagePackReader
import Mvision.Library.PythonValues

/-!
# `decode_video_event`

The decoder of the events of the video worker in `protocol.py`.  `unpackb` is a parameter; what it
returns may be any value.
-/

namespace Mvision.Video.Events

open Mvision.Library Mvision.Library.Python

def protocolVersion : Int := 1

def headerSize : Nat := 4

/-- `MAX_EVENT_BYTES` -/
def maxEventBytes : Nat := 64 * 1024 * 1024

structure VideoDetection where
  frame : Nat
  timestamp : ℚ
  x : ℚ
  y : ℚ
  width : ℚ
  height : ℚ
  detectorConfidence : ℚ
  landmarks : List ℚ
deriving DecidableEq, Repr

structure VideoProgress where
  decodedFrame : Nat
  processedFrames : Nat
  totalFrames : Nat
  progressPercent : ℚ
deriving DecidableEq, Repr

structure VideoTrackOutput where
  trackerId : Nat
  embedding : List ℚ
  representativeJpeg : List UInt8
  detections : List VideoDetection
deriving DecidableEq, Repr

structure VideoCompleted where
  decodedFrames : Nat
  processedFrames : Nat
  trackCount : Nat
deriving DecidableEq, Repr

structure VideoFailed where
  errorCode : String
  message : String
deriving DecidableEq, Repr

inductive VideoEvent where
  | progress (event : VideoProgress)
  | track (event : VideoTrackOutput)
  | completed (event : VideoCompleted)
  | failed (event : VideoFailed)
deriving DecidableEq, Repr

section Decoder

variable (python : Interpreter)

/-- `_finite` -/
def finite (value : Value) : Except Error ℚ := do
  require (!value.isBool && value.isNumeric) "INVALID_NUMERIC_VALUE"
  match ← toFloat python value with
  | .finite q => .ok q
  | _ => valueError "NON_FINITE_VALUE"

/-- `_non_negative` -/
def nonNegative (value : Value) : Except Error Nat := do
  require (!value.isBool && value.isNumeric) "INVALID_INTEGER_VALUE"
  let result ← toInt python value
  require (decide (0 ≤ result)) "NEGATIVE_VALUE"
  return result.toNat

/-- `_non_negative(value[name])` -/
def count (value : Value) (name : String) : Except Error Nat :=
  subscript value name >>= nonNegative python

/-- `_finite(value[name])` -/
def number (value : Value) (name : String) : Except Error ℚ :=
  subscript value name >>= finite python

/-- `tuple(_finite(item) for item in value[name])` -/
def numbers (value : Value) (name : String) : Except Error (List ℚ) :=
  subscript value name >>= items >>= List.mapM (finite python)

def decodeProgress (payload : Value) : Except Error VideoEvent := do
  let progress ← number python payload "progress_percent"
  require (decide (0 ≤ progress ∧ progress ≤ 100)) "INVALID_PROGRESS"
  let decodedFrame ← count python payload "decoded_frame"
  let processedFrames ← count python payload "processed_frames"
  let totalFrames ← count python payload "total_frames"
  return .progress ⟨decodedFrame, processedFrames, totalFrames, progress⟩

def decodeDetection (item : Value) : Except Error VideoDetection := do
  let frame ← count python item "frame"
  let timestamp ← number python item "timestamp"
  let x ← number python item "x"
  let y ← number python item "y"
  let width ← number python item "width"
  let height ← number python item "height"
  let detectorConfidence ← number python item "detector_confidence"
  let landmarks ← numbers python item "landmarks"
  return { frame, timestamp, x, y, width, height, detectorConfidence, landmarks }

def decodeTrack (payload : Value) : Except Error VideoEvent := do
  let embedding ← numbers python payload "embedding"
  require (embedding.length == 512) "INVALID_EMBEDDING"
  let detections ← subscript payload "detections" >>= items >>= List.mapM (decodeDetection python)
  require (detections.all fun item => item.landmarks.length == 10) "INVALID_LANDMARKS"
  let trackerId ← count python payload "tracker_id"
  let representativeJpeg ← subscript payload "representative_jpeg" >>= toBytes python
  return .track { trackerId, embedding, representativeJpeg, detections }

def decodeCompleted (payload : Value) : Except Error VideoEvent := do
  let decodedFrames ← count python payload "decoded_frames"
  let processedFrames ← count python payload "processed_frames"
  let trackCount ← count python payload "track_count"
  return .completed { decodedFrames, processedFrames, trackCount }

def decodeFailed (payload : Value) : Except Error VideoEvent := do
  let errorCode ← subscript payload "error_code"
  let message ← subscript payload "message"
  return .failed ⟨str python errorCode, str python message⟩

/-- The body of the `try`. -/
def decodePayload (payload : Value) : Except Error VideoEvent := do
  let version ← get payload "protocol_version"
  require (version.equalsInt protocolVersion) "UNSUPPORTED_PROTOCOL_VERSION"
  let type ← subscript payload "event_type"
  if type.equalsText "progress" then decodeProgress python payload
  else if type.equalsText "track" then decodeTrack python payload
  else if type.equalsText "completed" then decodeCompleted python payload
  else if type.equalsText "failed" then decodeFailed python payload
  else valueError "UNKNOWN_EVENT_TYPE"

variable (unpackb : List UInt8 → Except UnpackError Value)

/-- `decode_video_event` -/
def decodeVideoEvent (frame : List UInt8) : Except Error VideoEvent :=
  if frame.length < headerSize then valueError "TRUNCATED_FRAME"
  else if maxEventBytes < bigEndian (frame.take headerSize) then valueError "FRAME_TOO_LARGE"
  else if frame.length ≠ headerSize + bigEndian (frame.take headerSize) then
    valueError "TRUNCATED_FRAME"
  else
    match unpackb (frame.drop headerSize) with
    | .error .other => .error UnpackError.other.error
    | .error _ => valueError "INVALID_EVENT_PAYLOAD"
    | .ok payload =>
        catching [.key, .type] ⟨.value, "INVALID_EVENT_PAYLOAD"⟩ (decodePayload python payload)

end Decoder

end Mvision.Video.Events
