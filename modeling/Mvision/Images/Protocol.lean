import Mvision.Library.Packer
import Mvision.Library.PythonValues

/-!
# `encode_request`, `decode_request` and `decode_result`

The functions of `gpu/protocol.py`.  `unpackb` is a parameter; what it returns may be any value.
-/

namespace Mvision.Images.Protocol

open Mvision.Library Mvision.Library.Python

def protocolVersion : Int := 1

def headerSize : Nat := 4

def maxUploadBytes : Nat := 10 * 1024 * 1024

def maxFrameBytes : Nat := maxUploadBytes + 16 * 1024 * 1024

structure ImageRequest where
  requestId : String
  encodedJpeg : List UInt8
  protocolVersion : Int := Protocol.protocolVersion

/-- The dictionary of a request. -/
def ImageRequest.packed (request : ImageRequest) : Packed :=
  .fields 3
    [("protocol_version", .integer request.protocolVersion),
     ("request_id", .text (utf8 request.requestId)),
     ("encoded_jpeg", .bin request.encodedJpeg)]

/-- `encode_request`: `packb` takes integers of 64 bits and lengths of 32. -/
def encodeRequest (request : ImageRequest) : Except Error (List UInt8) :=
  if ¬ Object.IntegerFits request.protocolVersion then throwing .overflow
  else if 4294967296 ≤ (utf8 request.requestId).length ∨
      4294967296 ≤ request.encodedJpeg.length then throwing .value
  else if 4294967296 ≤ request.packed.bytes.length then throwing (.program "struct.error")
  else .ok (toBigEndian 4 request.packed.bytes.length ++ request.packed.bytes)

/-- A request as it is read: the version is equal to one, and the id a text that `UUID` accepts. -/
structure ReceivedRequest where
  protocolVersion : Value
  requestId : Value
  encodedJpeg : List UInt8

structure FaceDetection where
  ordinal : Int
  x : FloatValue
  y : FloatValue
  width : FloatValue
  height : FloatValue
  landmarksXy : List FloatValue
  detectorConfidence : FloatValue
  embedding : List FloatValue
  alignedJpeg : List UInt8
deriving DecidableEq, Repr

structure ImageResult where
  requestId : Value
  status : String
  errorCode : String
  faces : List FaceDetection

section Decoder

variable (python : Interpreter)

/-- The test of the image. -/
def jpegBytes : Value → Except Error (List UInt8)
  | .bytes data => do
      require ([0xff, 0xd8].isPrefixOf data) "UNSUPPORTED_MEDIA_TYPE"
      return data
  | _ => valueError "UNSUPPORTED_MEDIA_TYPE"

/-- `decode_request` after `unpackb`. -/
def readRequest (payload : Value) : Except Error ReceivedRequest := do
  let version ← subscript payload "protocol_version"
  require (version.equalsInt protocolVersion) "UNSUPPORTED_PROTOCOL_VERSION"
  catching [.attribute, .type, .value] ⟨.value, "INVALID_REQUEST_ID"⟩
    (subscript payload "request_id" >>= uuid python)
  let encodedJpeg ← subscript payload "encoded_jpeg" >>= jpegBytes
  let requestId ← subscript payload "request_id"
  return ⟨version, requestId, encodedJpeg⟩

/-- `float(value[name])` -/
def number (value : Value) (name : String) : Except Error FloatValue :=
  subscript value name >>= toFloat python

/-- `tuple(float(item) for item in value[name])` -/
def numbers (value : Value) (name : String) : Except Error (List FloatValue) :=
  subscript value name >>= items >>= List.mapM (toFloat python)

def readFace (face : Value) : Except Error FaceDetection := do
  let ordinal ← subscript face "ordinal" >>= toInt python
  let x ← number python face "x"
  let y ← number python face "y"
  let width ← number python face "width"
  let height ← number python face "height"
  let landmarksXy ← numbers python face "landmarks_xy"
  let detectorConfidence ← number python face "detector_confidence"
  let embedding ← numbers python face "embedding"
  let alignedJpeg ← subscript face "aligned_jpeg" >>= toBytes python
  return { ordinal, x, y, width, height, landmarksXy, detectorConfidence, embedding, alignedJpeg }

/-- The body of the `try`. -/
def readFaces (payload : Value) : Except Error (List FaceDetection) := do
  subscript payload "request_id" >>= uuid python
  subscript payload "faces" >>= items >>= List.mapM (readFace python)

/-- `decode_result` after `unpackb`. -/
def readResult (payload : Value) : Except Error ImageResult := do
  let version ← get payload "protocol_version"
  require (version.equalsInt protocolVersion) "UNSUPPORTED_PROTOCOL_VERSION"
  let faces ← catching [.key, .type, .value] ⟨.value, "INVALID_RESULT_PAYLOAD"⟩
    (readFaces python payload)
  let requestId ← subscript payload "request_id"
  let status ← subscript payload "status"
  let errorCode ← subscript payload "error_code"
  return { requestId, status := str python status, errorCode := str python errorCode, faces }

variable (unpackb : List UInt8 → Except UnpackError Value)

/-- `unpackb` outside any `try`. -/
def unpacked (payload : List UInt8) : Except Error Value :=
  match unpackb payload with
  | .ok value => .ok value
  | .error e => .error e.error

/-- `decode_request` -/
def decodeRequest (frame : List UInt8) : Except Error ReceivedRequest :=
  let payloadSize := bigEndian (frame.take headerSize)
  if frame.length < headerSize then valueError "TRUNCATED_FRAME"
  else if maxFrameBytes < payloadSize then valueError "FRAME_TOO_LARGE"
  else if frame.length - headerSize < payloadSize then valueError "TRUNCATED_FRAME"
  else unpacked unpackb ((frame.drop headerSize).take payloadSize) >>= readRequest python

/-- `decode_result` -/
def decodeResult (frame : List UInt8) : Except Error ImageResult :=
  let payloadSize := bigEndian (frame.take headerSize)
  if frame.length < headerSize then valueError "TRUNCATED_FRAME"
  else if maxFrameBytes < payloadSize ∨ frame.length - headerSize < payloadSize then
    valueError "INVALID_RESULT_FRAME"
  else unpacked unpackb ((frame.drop headerSize).take payloadSize) >>= readResult python

end Decoder

end Mvision.Images.Protocol
