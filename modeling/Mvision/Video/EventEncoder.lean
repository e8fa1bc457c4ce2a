import Mvision.Library.PythonMessagePack
import Mvision.Video.EventProtocol

/-!
# `encode_video_event`

The encoder of `video_protocol.cpp`, with the sizes that the source writes into the headers.  An
exception is its text.
-/

namespace Mvision.Video.Events.Native

open Mvision.Library Mvision.Library.Python

def kVideoProtocolVersion : UInt32 := 1

def kMaxVideoEventBytes : Nat := 64 * 1024 * 1024

structure VideoDetection where
  frame : UInt64
  timestamp : Double
  x : Single
  y : Single
  width : Single
  height : Single
  detectorConfidence : Single
  landmarks : Vector Single 10
deriving DecidableEq

structure VideoProgress where
  decodedFrame : UInt64
  processedFrames : UInt64
  totalFrames : UInt64
  progressPercent : Single
deriving DecidableEq

structure VideoTrackOutput where
  trackerId : UInt64
  embedding : Vector Single 512
  representativeJpeg : List UInt8
  detections : List VideoDetection
deriving DecidableEq

structure VideoCompleted where
  decodedFrames : UInt64
  processedFrames : UInt64
  trackCount : UInt64
deriving DecidableEq

/-- A `std::string` is its bytes. -/
structure VideoFailed where
  errorCode : List UInt8
  message : List UInt8
deriving DecidableEq

/-- The arguments of the overloads of `encode_video_event`. -/
inductive VideoEvent where
  | progress (event : VideoProgress)
  | track (event : VideoTrackOutput)
  | completed (event : VideoCompleted)
  | failed (event : VideoFailed)
deriving DecidableEq

def requireFinite (value : FloatValue) : Except String Unit :=
  if value.isFinite then .ok () else .error "video event contains a non-finite value"

/-- `frame_payload` -/
def framePayload (payload : List UInt8) : Except String (List UInt8) :=
  if kMaxVideoEventBytes < payload.length then .error "video event exceeds maximum frame size"
  else .ok (toBigEndian 4 payload.length ++ payload)

def packUnsigned (n : UInt64) : Packed := .integer n.toNat

def eventMap (eventType : String) (fieldCount : Nat) (fields : List (String × Packed)) : Packed :=
  .fields (fieldCount + 2)
    (("protocol_version", .integer kVideoProtocolVersion.toNat) ::
      ("event_type", .text (utf8 eventType)) :: fields)

/-- `pack_event` -/
def packEvent (eventType : String) (fieldCount : Nat) (fields : List (String × Packed)) :
    Except String (List UInt8) :=
  framePayload (eventMap eventType fieldCount fields).bytes

section Encoder

variable (packing : FloatPacking)

def VideoProgress.fields (event : VideoProgress) : List (String × Packed) :=
  [("decoded_frame", packUnsigned event.decodedFrame),
   ("processed_frames", packUnsigned event.processedFrames),
   ("total_frames", packUnsigned event.totalFrames),
   ("progress_percent", .single packing event.progressPercent)]

def VideoDetection.packed (detection : VideoDetection) : Packed :=
  .fields 8
    [("frame", packUnsigned detection.frame),
     ("timestamp", .double packing detection.timestamp),
     ("x", .single packing detection.x),
     ("y", .single packing detection.y),
     ("width", .single packing detection.width),
     ("height", .single packing detection.height),
     ("detector_confidence", .single packing detection.detectorConfidence),
     ("landmarks", .singles packing detection.landmarks)]

def VideoTrackOutput.fields (event : VideoTrackOutput) : List (String × Packed) :=
  [("tracker_id", packUnsigned event.trackerId),
   ("embedding", .singles packing event.embedding),
   ("representative_jpeg", .binCast event.representativeJpeg),
   ("detections", .arrayCast (event.detections.map (VideoDetection.packed packing)))]

def VideoCompleted.fields (event : VideoCompleted) : List (String × Packed) :=
  [("decoded_frames", packUnsigned event.decodedFrames),
   ("processed_frames", packUnsigned event.processedFrames),
   ("track_count", packUnsigned event.trackCount)]

def VideoFailed.fields (event : VideoFailed) : List (String × Packed) :=
  [("error_code", .text event.errorCode), ("message", .text event.message)]

def VideoDetection.requireFinite (detection : VideoDetection) : Except String Unit := do
  Native.requireFinite detection.timestamp.val
  Native.requireFinite detection.x.val
  Native.requireFinite detection.y.val
  Native.requireFinite detection.width.val
  Native.requireFinite detection.height.val
  Native.requireFinite detection.detectorConfidence.val
  detection.landmarks.toList.forM fun value => Native.requireFinite value.val

/-- `encode_video_event` -/
def encodeVideoEvent : VideoEvent → Except String (List UInt8)
  | .progress event => do
      requireFinite event.progressPercent.val
      if event.progressPercent.val.less (.finite 0) ||
          (FloatValue.finite 100).less event.progressPercent.val then
        .error "video progress is outside 0..100"
      else packEvent "progress" 4 (event.fields packing)
  | .track event => do
      event.embedding.toList.forM fun value => requireFinite value.val
      event.detections.forM VideoDetection.requireFinite
      packEvent "track" 4 (event.fields packing)
  | .completed event => packEvent "completed" 3 event.fields
  | .failed event => packEvent "failed" 2 event.fields

end Encoder

end Mvision.Video.Events.Native
