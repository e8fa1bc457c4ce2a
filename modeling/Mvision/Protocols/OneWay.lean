import Mvision.Images.RoundTrip
import Mvision.Protocols.UntrustedInput
import Mvision.Video.EventRoundTrip

/-!
# The one-way protocols

Video events and image results go from C++ to Python, image requests from Python to C++.  What one
side encodes the other side decodes, as long as an image has fewer than 2 ^ 32 bytes and a request
is of the current version.
-/

namespace Mvision.Protocols

open Mvision.Library Mvision.Library.Python

/-- Every frame that is encoded is decoded to the same values. -/
theorem oneWay_faithful (python : Interpreter) (packing : FloatPacking) :
    (∀ (sent : Video.Events.Native.VideoEvent) (frame : List UInt8),
      sent.ValidTexts → sent.Sized →
      Video.Events.Native.encodeVideoEvent packing sent = .ok frame →
      ∃ received, Video.Events.decodeVideoEvent python unpackb frame = .ok received ∧
        Video.Events.Same sent received) ∧
    (∀ (result : Images.Native.ImageResult) (requestId status errorCode : String)
      (frame : List UInt8),
      ofUtf8 result.requestId = some requestId → python.uuidAccepts requestId = true →
      ofUtf8 result.status = some status → ofUtf8 result.errorCode = some errorCode →
      (∀ face ∈ result.faces, face.alignedJpeg.length < 4294967296) →
      Images.Native.encodeResult packing result = .ok frame →
      Images.Protocol.decodeResult python unpackb frame =
        .ok ⟨.str requestId, status, errorCode,
          result.faces.map Images.Protocol.FaceDetection.ofOutput⟩) ∧
    (∀ (request : Images.Protocol.ImageRequest) (frame : List UInt8),
      request.protocolVersion = Images.Protocol.protocolVersion →
      [0xff, 0xd8] <+: request.encodedJpeg →
      frame.length ≤ Images.Protocol.headerSize + Images.Protocol.maxFrameBytes →
      Images.Protocol.encodeRequest request = .ok frame →
      Images.Native.decodeRequest frame = .ok request.native) := by
  refine ⟨?_, ?_, ?_⟩
  · intro sent frame htexts hsized h
    exact Video.Events.decode_encodeVideoEvent htexts hsized h
  · intro result requestId status errorCode frame hid huuid hstatus herror hsized h
    exact Images.Protocol.decodeResult_encodeResult hid huuid hstatus herror hsized h
  · intro request frame hversion hjpeg hframe h
    exact Images.Protocol.decodeRequest_encodeRequest hversion hjpeg hframe h

def currentRequest : Images.Protocol.ImageRequest where
  requestId := "12345678-1234-5678-1234-567812345678"
  encodedJpeg := [0xff, 0xd8, 0xff, 0xe0, 0, 2, 0xff, 0xd9]

def otherRequest : Images.Protocol.ImageRequest := { currentRequest with protocolVersion := 2 }

def frameOf (request : Images.Protocol.ImageRequest) : List UInt8 :=
  toBigEndian 4 request.packed.bytes.length ++ request.packed.bytes

/-- One event of each kind. -/
def sampleEvents : List Video.Events.Native.VideoEvent :=
  [.progress ⟨3, 2, 10, .ofBits 0x41a00000⟩, .track Video.Events.sampleTrack, .completed ⟨10, 5, 1⟩,
    .failed ⟨utf8 "DECODE_FAILED", utf8 "no frames"⟩]

def sampleResult : Images.Native.ImageResult where
  requestId := utf8 "12345678123456781234567812345678"
  status := utf8 "OK"
  errorCode := []
  faces := Images.Protocol.sampleFaces

/-- The four events, a result with two faces and a request. -/
theorem oneWay_faithful_each :
    (∀ sent ∈ sampleEvents, ∃ frame,
      Video.Events.Native.encodeVideoEvent .plain sent = .ok frame ∧
        ∃ received, Video.Events.decodeVideoEvent asciiInterpreter unpackb frame = .ok received ∧
          Video.Events.Same sent received) ∧
    (∃ frame, Images.Native.encodeResult .plain sampleResult = .ok frame ∧
      Images.Protocol.decodeResult asciiInterpreter unpackb frame =
        .ok ⟨.str "12345678123456781234567812345678", "OK", "",
          Images.Protocol.sampleFaces.map Images.Protocol.FaceDetection.ofOutput⟩) ∧
    (∃ frame, Images.Protocol.encodeRequest currentRequest = .ok frame ∧
      Images.Native.decodeRequest frame = .ok currentRequest.native) := by
  obtain ⟨hevents, hresults, hrequests⟩ := oneWay_faithful asciiInterpreter .plain
  refine ⟨?_, ?_, ?_⟩
  · have hencodes : ∀ sent ∈ sampleEvents,
        (Video.Events.Native.encodeVideoEvent .plain sent).toOption.isSome = true := by
      decide +kernel
    have htexts : ∀ sent ∈ sampleEvents, sent.ValidTexts ∧ sent.Sized := by
      have hjpeg : Video.Events.sampleTrack.representativeJpeg.length < 4294967296 := by decide
      simp only [sampleEvents, List.forall_mem_cons]
      exact ⟨⟨trivial, trivial⟩, ⟨trivial, hjpeg⟩, ⟨trivial, trivial⟩,
        ⟨⟨by decide, by decide⟩, trivial⟩, List.forall_mem_nil _⟩
    intro sent hsent
    obtain ⟨frame, h⟩ := exists_ok_of_isSome (hencodes sent hsent)
    exact ⟨frame, h, hevents sent frame (htexts sent hsent).1 (htexts sent hsent).2 h⟩
  · obtain ⟨frame, h⟩ := exists_ok_of_isSome
      (x := Images.Native.encodeResult .plain sampleResult) (by decide +kernel)
    exact ⟨frame, h, hresults _ _ _ _ _ (ofUtf8_eq_some_iff.mpr rfl) (by decide)
      (ofUtf8_eq_some_iff.mpr rfl) (ofUtf8_eq_some_iff.mpr rfl) (by decide) h⟩
  · exact ⟨frameOf currentRequest, by decide,
      hrequests currentRequest _ rfl (by decide) (by decide) (by decide)⟩

/-- A request of another version is packed, and rejected. -/
theorem request_of_other_version :
    ¬ ∀ (request : Images.Protocol.ImageRequest) (frame : List UInt8),
      [0xff, 0xd8] <+: request.encodedJpeg →
      frame.length ≤ Images.Protocol.headerSize + Images.Protocol.maxFrameBytes →
      Images.Protocol.encodeRequest request = .ok frame →
      Images.Native.decodeRequest frame = .ok request.native := by
  intro hall
  have hread : Images.Native.decodeRequest (frameOf otherRequest) = .ok otherRequest.native :=
    hall otherRequest _ (by decide) (by decide) (by decide)
  have hrejected : Images.Native.decodeRequest (frameOf otherRequest) =
      .error "UNSUPPORTED_PROTOCOL_VERSION" := by decide
  rw [hrejected] at hread
  cases hread

end Mvision.Protocols
