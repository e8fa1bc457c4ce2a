import Mvision.Library.Packer

/-!
# The image protocol of C++

`encode_result` and `decode_request` of `protocol.cpp`, with the sizes that the source writes into
the headers.  A `ProtocolError` is its code; a `msgpack::type_error` is a `std::bad_cast`.
-/

namespace Mvision.Images.Native

open Mvision.Library

def kProtocolVersion : Nat := 1

def kMaxUploadBytes : Nat := 10 * 1024 * 1024

def kMaxFrameBytes : Nat := kMaxUploadBytes + 16 * 1024 * 1024

def kHeaderSize : Nat := 4

/-- A `std::string` is its bytes. -/
structure ImageRequest where
  requestId : List UInt8
  encodedJpeg : List UInt8
deriving DecidableEq, Repr

structure FaceOutput where
  ordinal : UInt32
  x : Single
  y : Single
  width : Single
  height : Single
  landmarksXy : Vector Single 10
  detectorConfidence : Single
  embedding : Vector Single 512
  alignedJpeg : List UInt8

structure ImageResult where
  requestId : List UInt8
  status : List UInt8
  errorCode : List UInt8
  faces : List FaceOutput

/-! ## `decode_request` -/

/-- `required_field` -/
def requiredField (entries : List (Object × Object)) (name : String) : Except String Object :=
  match entries with
  | [] => .error "INVALID_MESSAGE"
  | (.str key, value) :: rest =>
      if key = utf8 name then .ok value else requiredField rest name
  | _ :: rest => requiredField rest name

/-- `as<std::uint32_t>()` -/
def asUInt32 : Object → Except String Nat
  | .integer n => if 0 ≤ n ∧ n < 4294967296 then .ok n.toNat else .error "std::bad_cast"
  | _ => .error "std::bad_cast"

/-- `as<std::string>()` -/
def asStdString (object : Object) : Except String (List UInt8) :=
  match object.asString with
  | some bytes => .ok bytes
  | none => .error "std::bad_cast"

/-- `unpack_frame`; `msgpack::unpack` takes no account of what follows the first value. -/
def unpackFrame (frame : List UInt8) : Except String Object :=
  let payloadSize := bigEndian (frame.take kHeaderSize)
  if frame.length < kHeaderSize then .error "TRUNCATED_FRAME"
  else if kMaxFrameBytes < payloadSize then .error "FRAME_TOO_LARGE"
  else if frame.length - kHeaderSize < payloadSize then .error "TRUNCATED_FRAME"
  else
    match unpack ((frame.drop kHeaderSize).take payloadSize) with
    | some (object, _) => .ok object
    | none => .error "INVALID_MESSAGE"

def mapEntries : Object → Except String (List (Object × Object))
  | .map entries => .ok entries
  | _ => .error "INVALID_MESSAGE"

/-- The test of the image. -/
def jpegBytes : Object → Except String (List UInt8)
  | .bin bytes =>
      if bytes.length < 2 ∨ ¬ [0xff, 0xd8] <+: bytes then .error "UNSUPPORTED_MEDIA_TYPE"
      else .ok bytes
  | _ => .error "UNSUPPORTED_MEDIA_TYPE"

/-- `decode_request` -/
def decodeRequest (frame : List UInt8) : Except String ImageRequest := do
  let map ← unpackFrame frame >>= mapEntries
  let version ← requiredField map "protocol_version" >>= asUInt32
  if version ≠ kProtocolVersion then .error "UNSUPPORTED_PROTOCOL_VERSION"
  else
    let requestId ← requiredField map "request_id" >>= asStdString
    let encodedJpeg ← requiredField map "encoded_jpeg" >>= jpegBytes
    return { requestId, encodedJpeg }

/-! ## `encode_result` -/

/-- `frame_payload` -/
def framePayload (payload : List UInt8) : Except String (List UInt8) :=
  if kMaxFrameBytes < payload.length ∨ 4294967295 < payload.length then .error "FRAME_TOO_LARGE"
  else .ok (toBigEndian 4 payload.length ++ payload)

section Encoder

variable (packing : FloatPacking)

def FaceOutput.packed (face : FaceOutput) : Packed :=
  .fields 9
    [("ordinal", .integer face.ordinal.toNat),
     ("x", .single packing face.x),
     ("y", .single packing face.y),
     ("width", .single packing face.width),
     ("height", .single packing face.height),
     ("landmarks_xy", .singles packing face.landmarksXy),
     ("detector_confidence", .single packing face.detectorConfidence),
     ("embedding", .singles packing face.embedding),
     ("aligned_jpeg", .binCast face.alignedJpeg)]

def ImageResult.packed (result : ImageResult) : Packed :=
  .fields 5
    [("protocol_version", .integer kProtocolVersion),
     ("request_id", .text result.requestId),
     ("status", .text result.status),
     ("error_code", .text result.errorCode),
     ("faces", .arrayCast (result.faces.map (FaceOutput.packed packing)))]

/-- `encode_result` -/
def encodeResult (result : ImageResult) : Except String (List UInt8) :=
  framePayload (result.packed packing).bytes

end Encoder

end Mvision.Images.Native
