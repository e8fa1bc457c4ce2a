import Mvision.Images.Protocol
import Mvision.Library.PythonFields

/-!
# What escapes `decode_request` and `decode_result`

Both decoders index the payload outside their `try` as well, where a missing key or a payload that
is no dictionary ends in an exception that nobody expects.
-/

namespace Mvision.Images.Protocol

open Mvision.Library Mvision.Library.Python

/-! ## The fields -/

section Fields

variable (python : Interpreter)

/-- `UUID(payload["request_id"])` in a `try` that does not catch a `KeyError`. -/
def requestIdField (value : Option Value) : Field :=
  match value with
  | some value => .test (uuid python value).isOk
  | none => ⟨false, true⟩

/-- The version of a payload that has one. -/
def versionField (payload : Value) : Field :=
  .test (((payload.field "protocol_version").getD .none).equalsInt protocolVersion)

def requestFields (payload : Value) : List Field :=
  [presenceField (payload.field "protocol_version"),
    versionField payload,
    requestIdField python (payload.field "request_id"),
    presenceField (payload.field "encoded_jpeg"),
    .test (jpegBytes ((payload.field "encoded_jpeg").getD .none)).isOk]

def numbersFields (value : Value) (name : String) : List Field :=
  listFields (value.field name) fun item => [floatField python item]

def faceFields (face : Value) : List Field :=
  entryField (face.field "ordinal") (intField python) ::
  entryField (face.field "x") (floatField python) ::
  entryField (face.field "y") (floatField python) ::
  entryField (face.field "width") (floatField python) ::
  entryField (face.field "height") (floatField python) ::
  (numbersFields python face "landmarks_xy" ++
    entryField (face.field "detector_confidence") (floatField python) ::
    (numbersFields python face "embedding" ++
      [entryField (face.field "aligned_jpeg") (bytesField python)]))

/-- The fields that are read in the `try`. -/
def facesFields (payload : Value) : List Field :=
  entryField (payload.field "request_id") (uuidField python) ::
  listFields (payload.field "faces") (faceFields python)

def resultFields (payload : Value) : List Field :=
  dictField payload ::
  versionField payload ::
  (facesFields python payload ++
    [presenceField (payload.field "status"), presenceField (payload.field "error_code")])

end Fields

/-! ## They describe the decoders -/

section Describes

variable {python : Interpreter}

theorem describes_jpegBytes (value : Value) :
    Describes (leaves [.value]) [.test (jpegBytes value).isOk] (jpegBytes value) := by
  apply describes_isOk
  intro e he
  cases value with
  | bytes data =>
      cases hstart : [0xff, 0xd8].isPrefixOf data with
      | true =>
          rw [jpegBytes, hstart] at he
          cases he
      | false =>
          rw [jpegBytes, hstart] at he
          obtain rfl := Except.error.inj he
          exact List.mem_cons_self
  | none | bool _ | int _ | float _ | str _ | list _ | dict _ | ext _ _ | timestamp _ _ =>
      obtain rfl := Except.error.inj he
      exact List.mem_cons_self

theorem kind_of_uuid {value : Value} {e : Error} (h : uuid python value = .error e) :
    e.kind ∈ [ErrorKind.attribute, .type, .value] := by
  cases value with
  | str text =>
      have h : (if python.uuidAccepts text then .ok () else throwing .value) =
        (.error e : Except Error Unit) := h
      split at h
      · cases h
      · obtain rfl := Except.error.inj h
        decide
  | none | bool _ | int _ | float _ | bytes _ | list _ | dict _ | ext _ _ | timestamp _ _ =>
      obtain rfl := Except.error.inj h
      decide

/-- What `UUID` raises is caught, but no `KeyError`. -/
theorem describes_requestId (entries : List (Key × Value)) :
    Describes (leaves [.value]) [requestIdField python (lookup entries "request_id")]
      (catching [.attribute, .type, .value] ⟨.value, "INVALID_REQUEST_ID"⟩
        (subscript (.dict entries) "request_id" >>= uuid python)) := by
  show Describes _ _ (catching _ _ (entry entries "request_id" >>= uuid python))
  unfold entry
  cases lookup entries "request_id" with
  | some value =>
      have hcaught : Describes (leaves ([.attribute, .type, .value] ++ [.value]))
          [.test (uuid python value).isOk] (uuid python value) :=
        describes_isOk fun e he => List.mem_append_left _ (kind_of_uuid he)
      exact describes_catching hcaught List.mem_cons_self
  | none =>
      apply Describes.single
      · refine iff_of_false ?_ Bool.false_ne_true
        rintro ⟨a, ha⟩
        cases ha
      · exact Catches.escapes (by decide : ErrorKind.key ∉ [ErrorKind.value])

theorem describes_request (payload : Value) :
    Describes (leaves [.value]) (requestFields python payload) (readRequest python payload) := by
  refine .step (describes_presence (by decide) (by decide) payload "protocol_version") ?_
  intro version hversion
  obtain ⟨entries, rfl, hfound⟩ := eq_dict_of_subscript hversion
  have hgiven : ((Value.dict entries).field "protocol_version").getD .none = version := by
    show (lookup entries "protocol_version").getD .none = version
    rw [hfound]
    rfl
  rw [versionField, hgiven]
  refine .step (describes_require (by decide) _ _) ?_
  intro _ _
  refine .step (describes_requestId entries) ?_
  intro _ hid
  have hjpeg : Describes (leaves [.value])
      [presenceField ((Value.dict entries).field "encoded_jpeg"),
        .test (jpegBytes (((Value.dict entries).field "encoded_jpeg").getD .none)).isOk]
      (subscript (.dict entries) "encoded_jpeg" >>= jpegBytes) := by
    refine .step (describes_presence (by decide) (by decide) _ "encoded_jpeg") ?_
    intro jpeg hjpeg
    obtain ⟨_, hsame, hfound⟩ := eq_dict_of_subscript hjpeg
    obtain rfl := Value.dict.inj hsame
    show Describes _ [.test (jpegBytes ((lookup entries "encoded_jpeg").getD .none)).isOk] _
    rw [hfound]
    exact describes_jpegBytes jpeg
  -- the id is there, since it was accepted
  obtain ⟨requestId, hrequestId⟩ : ∃ requestId,
      subscript (.dict entries) "request_id" = .ok requestId := by
    cases hsubscript : subscript (.dict entries) "request_id" with
    | ok requestId => exact ⟨requestId, rfl⟩
    | error e =>
        rw [hsubscript] at hid
        have hid : (if e.kind ∈ [ErrorKind.attribute, .type, .value] then
          .error ⟨.value, "INVALID_REQUEST_ID"⟩ else .error e : Except Error Unit) = .ok _ := hid
        split at hid <;> cases hid
  rw [hrequestId]
  exact hjpeg.last _

theorem describes_numbers {caught : List ErrorKind} (h : Catches caught)
    (hkey : ErrorKind.key ∈ caught) (value : Value) (name : String) :
    Describes (leaves caught) (numbersFields python value name) (numbers python value name) :=
  describes_list h hkey (describes_toFloat h)

theorem describes_face {caught : List ErrorKind} (h : Catches caught)
    (hkey : ErrorKind.key ∈ caught) (face : Value) :
    Describes (leaves caught) (faceFields python face) (readFace python face) := by
  have hnumber : ∀ name, Describes (leaves caught)
      [entryField (face.field name) (floatField python)] (number python face name) :=
    fun name => describes_entry h hkey (describes_toFloat h)
  refine .step (describes_entry h hkey (describes_toInt h)) ?_
  intro ordinal _
  refine .step (hnumber "x") ?_
  intro x _
  refine .step (hnumber "y") ?_
  intro y _
  refine .step (hnumber "width") ?_
  intro width _
  refine .step (hnumber "height") ?_
  intro height _
  refine Describes.bind (describes_numbers h hkey face "landmarks_xy") ?_
  intro landmarksXy _
  refine .step (hnumber "detector_confidence") ?_
  intro detectorConfidence _
  refine Describes.bind (describes_numbers h hkey face "embedding") ?_
  intro embedding _
  exact .last (describes_entry h hkey (describes_toBytes h)) _

theorem describes_faces {caught : List ErrorKind} (h : Catches caught)
    (hkey : ErrorKind.key ∈ caught) (payload : Value) :
    Describes (leaves caught) (facesFields python payload) (readFaces python payload) := by
  refine .step (describes_entry h hkey (describes_uuid h)) ?_
  intro _ _
  exact describes_list h hkey (describes_face h hkey)

theorem describes_result (payload : Value) :
    Describes (leaves [.value]) (resultFields python payload) (readResult python payload) := by
  have hcatches : Catches ([.key, .type, .value] ++ [.value]) :=
    ⟨by decide, by decide, by decide, by decide, by decide⟩
  refine .step (describes_get (by decide) payload "protocol_version") ?_
  intro version hversion
  obtain ⟨entries, rfl, hfound⟩ := eq_dict_of_get hversion
  have hgiven : ((Value.dict entries).field "protocol_version").getD .none = version := hfound
  rw [versionField, hgiven]
  refine .step (describes_require (by decide) _ _) ?_
  intro _ _
  refine Describes.bind
    (describes_catching (describes_faces hcatches (by decide) (.dict entries)) (by decide)) ?_
  intro faces hfaces
  -- the id is there, since it was accepted
  obtain ⟨requestId, hrequestId⟩ : ∃ requestId,
      subscript (.dict entries) "request_id" = .ok requestId := by
    cases hsubscript : subscript (.dict entries) "request_id" with
    | ok requestId => exact ⟨requestId, rfl⟩
    | error e =>
        have herror : readFaces python (.dict entries) = .error e := by
          unfold readFaces
          rw [hsubscript]
          rfl
        rw [herror] at hfaces
        have hfaces : (if e.kind ∈ [ErrorKind.key, .type, .value] then
          .error ⟨.value, "INVALID_RESULT_PAYLOAD"⟩ else .error e :
            Except Error (List FaceDetection)) = .ok _ := hfaces
        split at hfaces <;> cases hfaces
  rw [hrequestId]
  have hstatus : Describes (leaves [.value]) [presenceField ((Value.dict entries).field "status")]
      (subscript (.dict entries) "status") :=
    describes_presence (by decide) (by decide) (.dict entries) "status"
  refine hstatus.step ?_
  intro status _
  have herror : Describes (leaves [.value])
      [presenceField ((Value.dict entries).field "error_code")]
      (subscript (.dict entries) "error_code") :=
    describes_presence (by decide) (by decide) (.dict entries) "error_code"
  exact herror.last _

end Describes

/-! ## What escapes -/

/-- The payload of a frame, if it is unpacked, ends in a `ValueError` or none. -/
theorem unpacked_raises_iff {unpackb : List UInt8 → Except UnpackError Value} {data : List UInt8}
    {α : Type} {read : Value → Except Error α} {fields : Value → List Field}
    (h : ∀ payload, Describes (leaves [.value]) (fields payload) (read payload)) :
    (∀ e, (unpacked unpackb data >>= read) = .error e → e.kind = .value) ↔
      ∀ payload, unpackb data = .ok payload → Field.Clean (fields payload) := by
  unfold unpacked
  cases unpackb data with
  | error e =>
      refine iff_of_true ?_ ?_
      · intro raised hraised
        obtain rfl := Except.error.inj hraised
        cases e <;> rfl
      · rintro payload ⟨⟩
  | ok payload =>
      refine (raises_iff (h payload)).trans ?_
      constructor
      · rintro hclean other hother
        obtain rfl := Except.ok.inj hother
        exact hclean
      · intro hall
        exact hall payload rfl

/-- The bytes after the header that its count takes. -/
def payloadOf (frame : List UInt8) : List UInt8 :=
  (frame.drop headerSize).take (bigEndian (frame.take headerSize))

/-- A frame with a header that is not too large, and with the bytes it announces. -/
def Framed (frame : List UInt8) : Prop :=
  bigEndian (frame.take headerSize) ≤ maxFrameBytes ∧
    headerSize + bigEndian (frame.take headerSize) ≤ frame.length

/-- `decode_request` returns or raises a `ValueError`: the payload, if it is unpacked, lets no
other exception escape. -/
theorem decodeRequest_raises_iff (python : Interpreter)
    (unpackb : List UInt8 → Except UnpackError Value) (frame : List UInt8) :
    (∀ e, decodeRequest python unpackb frame = .error e → e.kind = .value) ↔
      (Framed frame → ∀ payload, unpackb (payloadOf frame) = .ok payload →
        Field.Clean (requestFields python payload)) := by
  unfold decodeRequest Framed
  dsimp only
  by_cases hshort : frame.length < headerSize
  · rw [if_pos hshort]
    exact iff_of_true (valueError_raises _) fun hframed => by omega
  rw [if_neg hshort]
  by_cases hlarge : maxFrameBytes < bigEndian (frame.take headerSize)
  · rw [if_pos hlarge]
    exact iff_of_true (valueError_raises _) fun hframed => by omega
  rw [if_neg hlarge]
  by_cases hbytes : frame.length - headerSize < bigEndian (frame.take headerSize)
  · rw [if_pos hbytes]
    exact iff_of_true (valueError_raises _) fun hframed => by omega
  rw [if_neg hbytes, imp_iff_right ⟨by omega, by omega⟩]
  exact unpacked_raises_iff describes_request

/-- `decode_result` returns or raises a `ValueError`, likewise. -/
theorem decodeResult_raises_iff (python : Interpreter)
    (unpackb : List UInt8 → Except UnpackError Value) (frame : List UInt8) :
    (∀ e, decodeResult python unpackb frame = .error e → e.kind = .value) ↔
      (Framed frame → ∀ payload, unpackb (payloadOf frame) = .ok payload →
        Field.Clean (resultFields python payload)) := by
  unfold decodeResult Framed
  dsimp only
  by_cases hshort : frame.length < headerSize
  · rw [if_pos hshort]
    exact iff_of_true (valueError_raises _) fun hframed => by omega
  rw [if_neg hshort]
  by_cases hbad : maxFrameBytes < bigEndian (frame.take headerSize) ∨
      frame.length - headerSize < bigEndian (frame.take headerSize)
  · rw [if_pos hbad]
    exact iff_of_true (valueError_raises _) fun hframed => by omega
  rw [if_neg hbad, imp_iff_right ⟨by omega, by omega⟩]
  exact unpacked_raises_iff describes_result

end Mvision.Images.Protocol
