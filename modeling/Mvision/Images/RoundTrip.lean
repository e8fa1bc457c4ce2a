import Mvision.Images.NativeProtocol
import Mvision.Images.Protocol
import Mvision.Library.Checks
import Mvision.Library.PythonMessagePack

/-!
# The image protocol between Python and C++

A request of the current version that Python packs is read by C++ as it was packed, and a result
that C++ packs is read by Python with the same values; floats are widened.
-/

namespace Mvision.Images.Protocol

open Mvision.Library Mvision.Library.Python

/-! ## Frames -/

theorem take_frame (payload : List UInt8) :
    (toBigEndian 4 payload.length ++ payload).take 4 = toBigEndian 4 payload.length :=
  List.take_left' (length_toBigEndian 4 _)

theorem drop_frame (payload : List UInt8) :
    (toBigEndian 4 payload.length ++ payload).drop 4 = payload :=
  List.drop_left' (length_toBigEndian 4 _)

theorem length_frame (payload : List UInt8) :
    (toBigEndian 4 payload.length ++ payload).length = 4 + payload.length := by
  rw [List.length_append, length_toBigEndian]

/-! ## Requests -/

theorem requiredField_fields (entries : List (String × Object)) (name : String) :
    Native.requiredField (entries.map fun entry => (Object.text entry.1, entry.2)) name =
      match entries.lookup name with
      | some value => .ok value
      | none => .error "INVALID_MESSAGE" := by
  induction entries with
  | nil => rfl
  | cons entry entries ih =>
      obtain ⟨key, value⟩ := entry
      rw [List.map_cons, List.lookup_cons]
      show (if utf8 key = utf8 name then _ else _) = _
      by_cases hkey : name = key
      · rw [hkey, if_pos rfl, beq_self_eq_true]
      · rw [if_neg fun h => hkey (utf8_inj.mp h).symm, beq_eq_false_iff_ne.mpr hkey, ih]

/-- The request as C++ has it. -/
def ImageRequest.native (request : ImageRequest) : Native.ImageRequest :=
  ⟨utf8 request.requestId, request.encodedJpeg⟩

/-- What the dictionary is read as. -/
def ImageRequest.entries (request : ImageRequest) : List (String × Object) :=
  [("protocol_version", .integer request.protocolVersion),
   ("request_id", .text request.requestId),
   ("encoded_jpeg", .bin request.encodedJpeg)]

theorem sound_request {request : ImageRequest}
    (h : Object.IntegerFits request.protocolVersion) : request.packed.Sound := by
  refine Packed.sound_fields rfl ?_
  intro entry hentry
  simp only [List.mem_cons, List.not_mem_nil, or_false] at hentry
  rcases hentry with rfl | rfl | rfl
  · exact Packed.sound_integer h
  · exact Packed.sound_text _
  · exact Packed.sound_bin _

theorem decodeRequest_encodeRequest {request : ImageRequest} {frame : List UInt8}
    (hversion : request.protocolVersion = protocolVersion)
    (hjpeg : [0xff, 0xd8] <+: request.encodedJpeg)
    (hframe : frame.length ≤ headerSize + maxFrameBytes)
    (h : encodeRequest request = .ok frame) :
    Native.decodeRequest frame = .ok request.native := by
  unfold encodeRequest at h
  split at h
  · cases h
  rename_i hfits
  split at h
  · cases h
  split at h
  · cases h
  rename_i hsize
  obtain rfl := Except.ok.inj h
  rw [length_frame] at hframe
  have hlimit : ¬ Native.kMaxFrameBytes < request.packed.bytes.length :=
    not_lt.mpr (Nat.le_of_add_le_add_left hframe)
  have hread := sound_request (not_not.mp hfits) (not_le.mp hsize) []
  rw [List.append_nil] at hread
  have hunpack : Native.unpackFrame
      (toBigEndian 4 request.packed.bytes.length ++ request.packed.bytes) =
        .ok request.packed.object := by
    unfold Native.unpackFrame
    rw [show Native.kHeaderSize = 4 from rfl, take_frame, drop_frame, length_frame,
      bigEndian_toBigEndian (by omega)]
    dsimp only
    rw [if_neg (by omega), if_neg hlimit, if_neg (by omega), List.take_length, hread]
  have hshort : ¬ request.encodedJpeg.length < 2 := not_lt.mpr hjpeg.length_le
  have hbytes : Native.jpegBytes (.bin request.encodedJpeg) = .ok request.encodedJpeg := by
    unfold Native.jpegBytes
    dsimp only
    rw [if_neg (not_or.mpr ⟨hshort, not_not_intro hjpeg⟩)]
  have hmap : (Native.unpackFrame
      (toBigEndian 4 request.packed.bytes.length ++ request.packed.bytes) >>= Native.mapEntries) =
        .ok (request.entries.map fun entry => (Object.text entry.1, entry.2)) := by
    rw [hunpack, ImageRequest.packed, Packed.fields_object]
    rfl
  have hcurrent : (Native.requiredField (request.entries.map fun entry =>
      (Object.text entry.1, entry.2)) "protocol_version" >>= Native.asUInt32) = .ok 1 := by
    rw [requiredField_fields]
    show Native.asUInt32 (.integer request.protocolVersion) = _
    rw [hversion]
    rfl
  have hid : (Native.requiredField (request.entries.map fun entry =>
      (Object.text entry.1, entry.2)) "request_id" >>= Native.asStdString) =
        .ok (utf8 request.requestId) := by
    rw [requiredField_fields]
    rfl
  have hdata : (Native.requiredField (request.entries.map fun entry =>
      (Object.text entry.1, entry.2)) "encoded_jpeg" >>= Native.jpegBytes) =
        .ok request.encodedJpeg := by
    rw [requiredField_fields]
    exact hbytes
  unfold Native.decodeRequest
  rw [hmap]
  show (Native.requiredField (request.entries.map _) "protocol_version" >>= Native.asUInt32) >>=
    _ = _
  rw [hcurrent]
  show (Native.requiredField (request.entries.map _) "request_id" >>= Native.asStdString) >>=
    _ = _
  rw [hid]
  show (Native.requiredField (request.entries.map _) "encoded_jpeg" >>= Native.jpegBytes) >>=
    _ = _
  rw [hdata]
  rfl

/-! ## Results -/

/-- The face as Python has it: its floats are widened. -/
def FaceDetection.ofOutput (face : Native.FaceOutput) : FaceDetection where
  ordinal := face.ordinal.toNat
  x := face.x.val
  y := face.y.val
  width := face.width.val
  height := face.height.val
  landmarksXy := face.landmarksXy.toList.map Subtype.val
  detectorConfidence := face.detectorConfidence.val
  embedding := face.embedding.toList.map Subtype.val
  alignedJpeg := face.alignedJpeg

section Results

variable {python : Interpreter} {packing : FloatPacking} {values : List (String × Value)}
  {name : String}

def faceValue (packing : FloatPacking) (face : Native.FaceOutput) : Value :=
  dictOf
    [("ordinal", .int face.ordinal.toNat),
     ("x", written packing face.x.val),
     ("y", written packing face.y.val),
     ("width", written packing face.width.val),
     ("height", written packing face.height.val),
     ("landmarks_xy", floatsValue packing face.landmarksXy.toList),
     ("detector_confidence", written packing face.detectorConfidence.val),
     ("embedding", floatsValue packing face.embedding.toList),
     ("aligned_jpeg", .bytes face.alignedJpeg)]

theorem carries_face {face : Native.FaceOutput} (hsized : face.alignedJpeg.length < 4294967296) :
    Carries (face.packed packing) (faceValue packing face) := by
  have hordinal := face.ordinal.toNat_lt
  exact carries_fields rfl (by simp) <|
    .cons ⟨rfl, carries_integer ⟨by omega, by omega⟩⟩ <| .cons ⟨rfl, carries_single _⟩ <|
    .cons ⟨rfl, carries_single _⟩ <| .cons ⟨rfl, carries_single _⟩ <|
    .cons ⟨rfl, carries_single _⟩ <| .cons ⟨rfl, carries_floats _⟩ <|
    .cons ⟨rfl, carries_single _⟩ <| .cons ⟨rfl, carries_floats _⟩ <|
    .cons ⟨rfl, carries_binCast hsized⟩ .nil

def resultValue (packing : FloatPacking) (faces : List Native.FaceOutput)
    (requestId status errorCode : String) : Value :=
  dictOf
    [("protocol_version", .int protocolVersion),
     ("request_id", .str requestId),
     ("status", .str status),
     ("error_code", .str errorCode),
     ("faces", .list (faces.map (faceValue packing)))]

theorem carries_result {result : Native.ImageResult} {requestId status errorCode : String}
    (hid : ofUtf8 result.requestId = some requestId) (hstatus : ofUtf8 result.status = some status)
    (herror : ofUtf8 result.errorCode = some errorCode)
    (hsized : ∀ face ∈ result.faces, face.alignedJpeg.length < 4294967296) :
    Carries (result.packed packing)
      (resultValue packing result.faces requestId status errorCode) := by
  have hfaces : List.Forall₂ Carries (result.faces.map (Native.FaceOutput.packed packing))
      (result.faces.map (faceValue packing)) := by
    rw [List.forall₂_map_left_iff, List.forall₂_map_right_iff]
    exact List.forall₂_same.mpr fun face hface => carries_face (hsized face hface)
  exact carries_fields rfl (by simp) <|
    .cons ⟨rfl, carries_integer ⟨by decide, by decide⟩⟩ <| .cons ⟨rfl, carries_text hid⟩ <|
    .cons ⟨rfl, carries_text hstatus⟩ <| .cons ⟨rfl, carries_text herror⟩ <|
    .cons ⟨rfl, carries_arrayCast hfaces⟩ .nil

/-! ### Fields -/

theorem number_dictOf {x : Single} (h : values.lookup name = some (written packing x.val)) :
    number python (dictOf values) name = .ok x.val := by
  rw [number, subscript_dictOf h]
  exact toFloat_written (has_double x.property)

theorem numbers_dictOf {floats : List Single}
    (h : values.lookup name = some (floatsValue packing floats)) :
    numbers python (dictOf values) name = .ok (floats.map Subtype.val) := by
  rw [numbers, subscript_dictOf h]
  apply mapM_of_forall₂
  rw [List.forall₂_map_left_iff, List.forall₂_map_right_iff]
  exact List.forall₂_same.mpr fun x _ => toFloat_written (has_double x.property)

theorem readFace_faceValue (face : Native.FaceOutput) :
    readFace python (faceValue packing face) = .ok (FaceDetection.ofOutput face) := by
  have hordinal : subscript (faceValue packing face) "ordinal" = .ok (.int face.ordinal.toNat) :=
    subscript_dictOf rfl
  have hx : number python (faceValue packing face) "x" = .ok face.x.val := number_dictOf rfl
  have hy : number python (faceValue packing face) "y" = .ok face.y.val := number_dictOf rfl
  have hwidth : number python (faceValue packing face) "width" = .ok face.width.val :=
    number_dictOf rfl
  have hheight : number python (faceValue packing face) "height" = .ok face.height.val :=
    number_dictOf rfl
  have hlandmarks : numbers python (faceValue packing face) "landmarks_xy" =
      .ok (face.landmarksXy.toList.map Subtype.val) := numbers_dictOf rfl
  have hconfidence : number python (faceValue packing face) "detector_confidence" =
      .ok face.detectorConfidence.val := number_dictOf rfl
  have hembedding : numbers python (faceValue packing face) "embedding" =
      .ok (face.embedding.toList.map Subtype.val) := numbers_dictOf rfl
  have hjpeg : subscript (faceValue packing face) "aligned_jpeg" = .ok (.bytes face.alignedJpeg) :=
    subscript_dictOf rfl
  unfold readFace
  rw [hordinal, hx, hy, hwidth, hheight, hlandmarks, hconfidence, hembedding, hjpeg]
  rfl

theorem mapM_readFace (faces : List Native.FaceOutput) :
    (faces.map (faceValue packing)).mapM (readFace python) =
      .ok (faces.map FaceDetection.ofOutput) := by
  apply mapM_of_forall₂
  rw [List.forall₂_map_left_iff, List.forall₂_map_right_iff]
  exact List.forall₂_same.mpr fun face _ => readFace_faceValue face

theorem readResult_resultValue {faces : List Native.FaceOutput}
    {requestId status errorCode : String} (huuid : python.uuidAccepts requestId = true) :
    readResult python (resultValue packing faces requestId status errorCode) =
      .ok ⟨.str requestId, status, errorCode, faces.map FaceDetection.ofOutput⟩ := by
  have hversion : get (resultValue packing faces requestId status errorCode) "protocol_version" =
      .ok (.int protocolVersion) := get_dictOf rfl
  have hid : subscript (resultValue packing faces requestId status errorCode) "request_id" =
      .ok (.str requestId) := subscript_dictOf rfl
  have hlist : subscript (resultValue packing faces requestId status errorCode) "faces" =
      .ok (.list (faces.map (faceValue packing))) := subscript_dictOf rfl
  have hstatus : subscript (resultValue packing faces requestId status errorCode) "status" =
      .ok (.str status) := subscript_dictOf rfl
  have herror : subscript (resultValue packing faces requestId status errorCode) "error_code" =
      .ok (.str errorCode) := subscript_dictOf rfl
  have haccepts : (subscript (resultValue packing faces requestId status errorCode) "request_id" >>=
      uuid python) = .ok () := by
    rw [hid, ok_bind, uuid, if_pos huuid]
  have hread : (subscript (resultValue packing faces requestId status errorCode) "faces" >>=
      items >>= List.mapM (readFace python)) = .ok (faces.map FaceDetection.ofOutput) := by
    rw [hlist, ok_bind, items, ok_bind]
    exact mapM_readFace faces
  have hfaces : readFaces python (resultValue packing faces requestId status errorCode) =
      .ok (faces.map FaceDetection.ofOutput) := by
    unfold readFaces
    rw [haccepts, hread]
    rfl
  unfold readResult
  rw [hversion, hfaces, hid, hstatus, herror]
  rfl

/-- A result is received as it was sent. -/
theorem decodeResult_encodeResult {result : Native.ImageResult}
    {requestId status errorCode : String} {frame : List UInt8}
    (hid : ofUtf8 result.requestId = some requestId) (huuid : python.uuidAccepts requestId = true)
    (hstatus : ofUtf8 result.status = some status)
    (herror : ofUtf8 result.errorCode = some errorCode)
    (hsized : ∀ face ∈ result.faces, face.alignedJpeg.length < 4294967296)
    (h : Native.encodeResult packing result = .ok frame) :
    decodeResult python unpackb frame =
      .ok ⟨.str requestId, status, errorCode, result.faces.map FaceDetection.ofOutput⟩ := by
  have hcarries : Carries (result.packed packing)
      (resultValue packing result.faces requestId status errorCode) :=
    carries_result hid hstatus herror hsized
  unfold Native.encodeResult Native.framePayload at h
  split at h
  · cases h
  rename_i hsize
  obtain rfl := Except.ok.inj h
  obtain ⟨hlimit, hsmall⟩ := not_or.mp hsize
  have hframe : ¬ maxFrameBytes < (result.packed packing).bytes.length := hlimit
  unfold decodeResult
  rw [show headerSize = 4 from rfl, take_frame, drop_frame, length_frame,
    bigEndian_toBigEndian (by omega)]
  dsimp only
  rw [if_neg (by omega), if_neg (not_or.mpr ⟨hframe, by omega⟩), List.take_length, unpacked,
    unpackb_eq hcarries (by omega)]
  dsimp only
  rw [ok_bind]
  exact readResult_resultValue huuid

end Results

/-! ### Two faces -/

/-- A face of 64 pixels with this aligned image. -/
def sampleFace (ordinal : UInt32) (alignedJpeg : List UInt8) : Native.FaceOutput where
  ordinal
  x := .ofBits 0x41200000
  y := .ofBits 0
  width := .ofBits 0x42800000
  height := .ofBits 0x42800000
  landmarksXy := Vector.replicate 10 (.ofBits 0x42000000)
  detectorConfidence := .ofBits 0x3f400000
  embedding := (Vector.replicate 512 (.ofBits 0)).set 0 (.ofBits 0x3f800000)
  alignedJpeg

/-- The second one has no aligned image. -/
def sampleFaces : List Native.FaceOutput :=
  [sampleFace 0 [0xff, 0xd8, 0xff, 0xd9], sampleFace 1 []]

end Mvision.Images.Protocol
