import Mvision.Images.RoundTrip
import Mvision.Library.ByteStreams
import Mvision.Protocols.UntrustedInput

/-!
# A call of an image worker: `GpuWorkerPool` and the reading loop of `worker_main`

The pool sends how many images there are and one request, and reads one result.  The worker reads
as many requests as there are images.  Both read a stream socket, which cuts the bytes as it
likes.
-/

namespace Mvision.Images

open Mvision.Library Mvision.Library.Python Mvision.Images.Protocol

/-! ## The pool -/

/-- What a socket does: whether it connects and takes what is sent, and what comes out of it. -/
structure Stream where
  /-- `connect`, and `sendall` of the count -/
  connects : Bool := true
  /-- `sendall` of the request -/
  sends : Bool := true
  segments : List (List UInt8)
  ending : StreamEnd

/-- What `_process_sync` raises. -/
inductive PoolError where
  /-- `GpuWorkerError(text)` -/
  | gpuWorker (text : String)
  /-- `GpuWorkerError(f"GPU worker unavailable: {exc}")`, for a `ValueError` or the socket -/
  | unavailable (exc : Option Error)
  /-- any other exception of `encode_request` and `decode_result` -/
  | escapes (exc : Error)
deriving DecidableEq

/-- The `except` clause, for an exception of the protocol. -/
def PoolError.ofError (exc : Error) : PoolError :=
  if exc.kind = .value then .unavailable (some exc) else .escapes exc

/-- How reading the response fails. -/
def PoolError.ofFault : FrameFault → PoolError
  | .tooLarge => .gpuWorker "GPU worker response is too large"
  | .ended .closed => .gpuWorker "GPU worker closed the socket"
  | .ended .broken => .unavailable none

/-- What the pool makes of a result. -/
def checkedResult (requestId : String) (result : Protocol.ImageResult) :
    Except PoolError Protocol.ImageResult :=
  if !result.requestId.equalsText requestId then
    .error (.gpuWorker "GPU worker returned a mismatched request ID")
  else if result.status ≠ "OK" then
    .error (.gpuWorker (if result.errorCode = "" then "GPU worker failed" else result.errorCode))
  else .ok result

/-- `_process_sync` -/
def processSync (python : Interpreter) (stream : Stream) (encodedJpeg : List UInt8)
    (requestId : String) : Except PoolError Protocol.ImageResult :=
  if !stream.connects then .error (.unavailable none)
  else
    match encodeRequest { requestId, encodedJpeg } with
    | .error exc => .error (.ofError exc)
    | .ok _ =>
        if !stream.sends then .error (.unavailable none)
        else
          match readFrame stream.ending maxFrameBytes stream.segments with
          | .error fault => .error (.ofFault fault)
          | .ok (frame, _) =>
              match decodeResult python unpackb frame with
              | .error exc => .error (.ofError exc)
              | .ok result => checkedResult requestId result

/-! ## The worker -/

namespace Native

/-- `read_exact` -/
def readExact (ending : StreamEnd) (size : Nat) (segments : List (List UInt8)) :
    Except String (List UInt8 × List (List UInt8)) :=
  match Library.readExact ending size segments with
  | .error _ => .error "socket read failed"
  | .ok read => .ok read

/-- `read_frame` -/
def readFrame (ending : StreamEnd) (segments : List (List UInt8)) :
    Except String (List UInt8 × List (List UInt8)) :=
  match Library.readFrame ending kMaxFrameBytes segments with
  | .error .tooLarge => .error "frame too large"
  | .error (.ended _) => .error "socket read failed"
  | .ok read => .ok read

/-- The loop over the requests of a batch. -/
def readRequests (ending : StreamEnd) :
    Nat → List (List UInt8) → Except String (List ImageRequest × List (List UInt8))
  | 0, segments => .ok ([], segments)
  | count + 1, segments => do
      let (frame, segments) ← readFrame ending segments
      let request ← decodeRequest frame
      let (requests, segments) ← readRequests ending count segments
      return (request :: requests, segments)

/-- What a connection of `main` reads, as long as the pipeline takes the images. -/
def readBatch (slots : Nat) (ending : StreamEnd) (segments : List (List UInt8)) :
    Except String (List ImageRequest) := do
  let (networkCount, segments) ← readExact ending 4 segments
  let count := bigEndian networkCount
  if count = 0 ∨ slots < count then .error "invalid microbatch size"
  else
    let (requests, _) ← readRequests ending count segments
    return requests

end Native

/-! ## What a call returns -/

variable {python : Interpreter} {stream : Stream} {encodedJpeg : List UInt8} {requestId : String}

theorem equalsText_iff {value : Value} {text : String} :
    value.equalsText text = true ↔ value = .str text := by
  cases value with
  | str other => simp [Value.equalsText]
  | _ => simp [Value.equalsText]

theorem checkedResult_eq_ok_iff {result checked : Protocol.ImageResult} :
    checkedResult requestId result = .ok checked ↔
      result = checked ∧ checked.requestId = .str requestId ∧ checked.status = "OK" := by
  unfold checkedResult
  constructor
  · intro h
    split at h
    · cases h
    rename_i hid
    split at h
    · cases h
    rename_i hstatus
    obtain rfl := Except.ok.inj h
    rw [Bool.not_eq_true', Bool.not_eq_false] at hid
    exact ⟨rfl, equalsText_iff.mp hid, not_not.mp hstatus⟩
  · rintro ⟨rfl, hid, hstatus⟩
    rw [equalsText_iff.mpr hid, if_neg (not_not_intro hstatus)]
    rfl

/-- The socket has taken the request. -/
structure Stream.Requested (stream : Stream) (encodedJpeg : List UInt8) (requestId : String) :
    Prop where
  connects : stream.connects = true
  sends : stream.sends = true
  encodes : (encodeRequest { requestId, encodedJpeg }).isOk = true

theorem Stream.Requested.processSync_eq (h : stream.Requested encodedJpeg requestId) :
    processSync python stream encodedJpeg requestId =
      match readFrame stream.ending maxFrameBytes stream.segments with
      | .error fault => .error (.ofFault fault)
      | .ok (frame, _) =>
          match decodeResult python unpackb frame with
          | .error exc => .error (.ofError exc)
          | .ok result => checkedResult requestId result := by
  unfold processSync
  have hencodes := h.encodes
  cases hencode : encodeRequest { requestId, encodedJpeg } with
  | error exc =>
      rw [hencode] at hencodes
      cases hencodes
  | ok frame => rw [h.connects, h.sends]; rfl

/-- Whatever a worker sends, and however it is cut: a call returns exactly if a whole result comes
first, which is OK and has the id of the request. -/
theorem processSync_eq_ok_iff (python : Interpreter) (h : Arrives stream.segments)
    {result : Protocol.ImageResult} :
    processSync python stream encodedJpeg requestId = .ok result ↔
      stream.Requested encodedJpeg requestId ∧
      ∃ frame rest, IsFrame maxFrameBytes frame ∧ stream.segments.flatten = frame ++ rest ∧
        decodeResult python unpackb frame = .ok result ∧
        result.requestId = .str requestId ∧ result.status = "OK" := by
  constructor
  · intro hprocess
    have hrequested : stream.Requested encodedJpeg requestId := by
      unfold processSync at hprocess
      split at hprocess
      · cases hprocess
      rename_i hconnects
      split at hprocess
      · cases hprocess
      rename_i sent hencode
      split at hprocess
      · cases hprocess
      rename_i hsends
      refine ⟨by simpa using hconnects, by simpa using hsends, ?_⟩
      rw [hencode]
      rfl
    refine ⟨hrequested, ?_⟩
    rw [hrequested.processSync_eq] at hprocess
    split at hprocess
    · cases hprocess
    rename_i frame behind hread
    split at hprocess
    · cases hprocess
    rename_i received hdecode
    obtain ⟨rfl, hid, hstatus⟩ := checkedResult_eq_ok_iff.mp hprocess
    obtain ⟨hframe, hbytes⟩ := isFrame_of_readFrame (by decide) h hread
    exact ⟨frame, behind.flatten, hframe, hbytes, hdecode, hid, hstatus⟩
  · rintro ⟨hrequested, frame, rest, hframe, hbytes, hdecode, hid, hstatus⟩
    obtain ⟨behind, hread, -⟩ := readFrame_of_isFrame stream.ending h hframe hbytes
    rw [hrequested.processSync_eq, hread]
    dsimp only
    rw [hdecode]
    exact checkedResult_eq_ok_iff.mpr ⟨rfl, hid, hstatus⟩

/-! ## What the worker reads -/

/-- The requests and their frames. -/
def Encodes (request : Protocol.ImageRequest) (frame : List UInt8) : Prop :=
  request.protocolVersion = protocolVersion ∧ [0xff, 0xd8] <+: request.encodedJpeg ∧
    frame.length ≤ headerSize + maxFrameBytes ∧ encodeRequest request = .ok frame

theorem Encodes.isFrame {request : Protocol.ImageRequest} {frame : List UInt8}
    (h : Encodes request frame) : IsFrame maxFrameBytes frame := by
  obtain ⟨-, -, hsize, hencode⟩ := h
  unfold encodeRequest at hencode
  split at hencode
  · cases hencode
  split at hencode
  · cases hencode
  split at hencode
  · cases hencode
  rename_i hlt
  obtain rfl := Except.ok.inj hencode
  rw [length_frame] at hsize
  exact ⟨_, Nat.le_of_add_le_add_left hsize, not_le.mp hlt, rfl⟩

namespace Native

theorem readRequests_eq_ok (ending : StreamEnd) {requests : List Protocol.ImageRequest}
    {frames : List (List UInt8)} (hframes : List.Forall₂ Encodes requests frames)
    {segments : List (List UInt8)} (h : Arrives segments) {rest : List UInt8}
    (hbytes : segments.flatten = frames.flatten ++ rest) :
    ∃ behind, readRequests ending requests.length segments =
        .ok (requests.map (·.native), behind) := by
  induction hframes generalizing segments with
  | nil => exact ⟨segments, rfl⟩
  | @cons request frame requests frames hencodes hframes ih =>
      rw [List.flatten_cons, List.append_assoc] at hbytes
      obtain ⟨behind, hread, hbehind, harrives⟩ :=
        readFrame_of_isFrame ending h hencodes.isFrame hbytes
      obtain ⟨last, hlast⟩ := ih harrives hbehind
      obtain ⟨hversion, hjpeg, hsize, hencode⟩ := hencodes
      have hdecode : decodeRequest frame = .ok request.native :=
        decodeRequest_encodeRequest hversion hjpeg hsize hencode
      have hframe : readFrame ending segments = .ok (frame, behind) := by
        unfold readFrame
        rw [show kMaxFrameBytes = maxFrameBytes from rfl, hread]
      refine ⟨last, ?_⟩
      rw [List.length_cons, readRequests, hframe]
      show (do
        let request ← decodeRequest frame
        let (requests, segments) ← readRequests ending requests.length behind
        return (request :: requests, segments)) = _
      rw [hdecode]
      show (do
        let (requests, segments) ← readRequests ending requests.length behind
        return (request.native :: requests, segments)) = _
      rw [hlast]
      rfl

/-- A batch is read as it was sent, in its order, however its bytes arrive. -/
theorem readBatch_eq_ok {slots : Nat} (ending : StreamEnd)
    {requests : List Protocol.ImageRequest} {frames : List (List UInt8)}
    (hframes : List.Forall₂ Encodes requests frames) (hone : requests ≠ [])
    (hslots : requests.length ≤ slots) (hcount : requests.length < 256 ^ 4)
    {segments : List (List UInt8)} (h : Arrives segments) {rest : List UInt8}
    (hbytes : segments.flatten = toBigEndian 4 requests.length ++ (frames.flatten ++ rest)) :
    readBatch slots ending segments = .ok (requests.map (·.native)) := by
  have hheader : (toBigEndian 4 requests.length).length = 4 := length_toBigEndian 4 _
  have hsuffices : 4 ≤ segments.flatten.length := by
    rw [hbytes, List.length_append, hheader]
    exact Nat.le_add_right _ _
  obtain ⟨behind, hread, hbehind, harrives⟩ := @readExact_eq_ok ending _ _ h hsuffices
  rw [hbytes, List.take_left' hheader] at hread
  rw [hbytes, List.drop_left' hheader] at hbehind
  obtain ⟨last, hlast⟩ := readRequests_eq_ok ending hframes harrives hbehind
  have hexact : readExact ending 4 segments = .ok (toBigEndian 4 requests.length, behind) := by
    unfold readExact
    rw [hread]
  have hcounted : ¬ (requests.length = 0 ∨ slots < requests.length) := by
    rintro (hzero | hmany)
    · exact hone (List.length_eq_zero_iff.mp hzero)
    · omega
  unfold readBatch
  rw [hexact]
  show (if bigEndian (toBigEndian 4 requests.length) = 0 ∨ _ then _ else _) = _
  rw [bigEndian_toBigEndian hcount, if_neg hcounted, hlast]
  rfl

end Native

/-! ## There and back -/

/-- The worker reads the image that the pool was called with, whatever the sockets make of the
bytes, and the call returns the faces that the worker answers with. -/
theorem exchange_faithful (python : Interpreter) (packing : FloatPacking) {slots : Nat}
    (hslots : 0 < slots) (huuid : python.uuidAccepts requestId = true) {frame : List UInt8}
    (hencodes : Encodes { requestId, encodedJpeg } frame) {sent : List (List UInt8)}
    (hsent : Arrives sent) (hbytes : sent.flatten = toBigEndian 4 1 ++ frame)
    (ending : StreamEnd) :
    Native.readBatch slots ending sent = .ok [⟨utf8 requestId, encodedJpeg⟩] ∧
      ∀ (faces : List Native.FaceOutput) (reply later : List UInt8),
        (∀ face ∈ faces, face.alignedJpeg.length < 4294967296) →
        Native.encodeResult packing ⟨utf8 requestId, utf8 "OK", [], faces⟩ = .ok reply →
        ∀ stream : Stream, stream.connects = true → stream.sends = true →
          Arrives stream.segments → stream.segments.flatten = reply ++ later →
          processSync python stream encodedJpeg requestId =
            .ok ⟨.str requestId, "OK", "", faces.map FaceDetection.ofOutput⟩ := by
  have hframes : List.Forall₂ Encodes [{ requestId, encodedJpeg }] [frame] := .cons hencodes .nil
  constructor
  · have hread : sent.flatten = toBigEndian 4 1 ++ ([frame].flatten ++ []) := by
      rw [hbytes, List.flatten_singleton, List.append_nil]
    exact Native.readBatch_eq_ok ending hframes (by simp) hslots (by simp) hsent hread
  · intro faces reply later hsized hencode stream hconnects hsends harrives hreply
    have hrequested : stream.Requested encodedJpeg requestId :=
      ⟨hconnects, hsends, by rw [hencodes.2.2.2]; rfl⟩
    have hframe : IsFrame maxFrameBytes reply := by
      unfold Native.encodeResult Native.framePayload at hencode
      split at hencode
      · cases hencode
      rename_i hsize
      obtain rfl := Except.ok.inj hencode
      obtain ⟨hlimit, hlt⟩ := not_or.mp hsize
      exact ⟨_, not_lt.mp hlimit, by omega, rfl⟩
    obtain ⟨behind, hread, -⟩ := readFrame_of_isFrame stream.ending harrives hframe hreply
    have hdecode : decodeResult python unpackb reply =
        .ok ⟨.str requestId, "OK", "", faces.map FaceDetection.ofOutput⟩ :=
      decodeResult_encodeResult (ofUtf8_eq_some_iff.mpr rfl) huuid (ofUtf8_eq_some_iff.mpr rfl)
        (ofUtf8_eq_some_iff.mpr rfl) hsized hencode
    rw [hrequested.processSync_eq, hread]
    dsimp only
    rw [hdecode]
    exact checkedResult_eq_ok_iff.mpr ⟨rfl, rfl, rfl⟩

/-- The frame of a small request, and of a result. -/
def sampleRequest : Protocol.ImageRequest where
  requestId := "12345678123456781234567812345678"
  encodedJpeg := [0xff, 0xd8, 0xff, 0xe0, 0, 2, 0xff, 0xd9]

def sampleFrame : List UInt8 :=
  toBigEndian 4 sampleRequest.packed.bytes.length ++ sampleRequest.packed.bytes

def sampleResult (faces : List Native.FaceOutput) : Native.ImageResult :=
  ⟨utf8 sampleRequest.requestId, utf8 "OK", [], faces⟩

def sampleReply (faces : List Native.FaceOutput) : List UInt8 :=
  let payload := ((sampleResult faces).packed .plain).bytes
  toBigEndian 4 payload.length ++ payload

theorem encode_sampleResult {faces : List Native.FaceOutput}
    (h : ((sampleResult faces).packed .plain).bytes.length ≤ Native.kMaxFrameBytes) :
    Native.encodeResult .plain (sampleResult faces) = .ok (sampleReply faces) := by
  have hlimit : Native.kMaxFrameBytes ≤ 4294967295 := by decide
  unfold Native.encodeResult Native.framePayload
  rw [if_neg (by omega)]
  rfl

/-- The reply in two parts, with a byte behind it. -/
def sampleStream (faces : List Native.FaceOutput) : Stream where
  segments := [(sampleReply faces).take 5, (sampleReply faces).drop 5 ++ [0]]
  ending := .closed

theorem flatten_sampleStream (faces : List Native.FaceOutput) :
    (sampleStream faces).segments.flatten = sampleReply faces ++ [0] := by
  show ((sampleReply faces).take 5 ++ (((sampleReply faces).drop 5 ++ [0]) ++ [])) = _
  rw [List.append_nil, ← List.append_assoc, List.take_append_drop]

theorem processSync_sample :
    ∃ result, processSync Protocols.asciiInterpreter (sampleStream []) sampleRequest.encodedJpeg
      sampleRequest.requestId = .ok result ∧ result.requestId = .str sampleRequest.requestId := by
  have harrives : Arrives (sampleStream []).segments := by decide +kernel
  obtain ⟨result, hresult⟩ := exists_ok_of_isSome (x := processSync Protocols.asciiInterpreter
    (sampleStream []) sampleRequest.encodedJpeg sampleRequest.requestId) (by decide +kernel)
  obtain ⟨-, _, _, -, -, -, hid, -⟩ :=
    (processSync_eq_ok_iff Protocols.asciiInterpreter harrives).mp hresult
  exact ⟨result, hresult, hid⟩

theorem exchange_sample :
    Native.readBatch 4 .closed [toBigEndian 4 1 ++ sampleFrame.take 7, sampleFrame.drop 7] =
        .ok [sampleRequest.native] ∧
      processSync Protocols.asciiInterpreter (sampleStream sampleFaces) sampleRequest.encodedJpeg
        sampleRequest.requestId =
          .ok ⟨.str sampleRequest.requestId, "OK", "", sampleFaces.map FaceDetection.ofOutput⟩ := by
  have hencodes : Encodes sampleRequest sampleFrame :=
    ⟨rfl, by decide, by decide +kernel, by decide +kernel⟩
  obtain ⟨hread, hreturn⟩ := exchange_faithful Protocols.asciiInterpreter .plain
    (show 0 < 4 by decide) (by decide +kernel) hencodes
    (show Arrives [toBigEndian 4 1 ++ sampleFrame.take 7, sampleFrame.drop 7] by decide)
    (by decide +kernel) .closed
  have hreply : Native.encodeResult .plain (sampleResult sampleFaces) =
      .ok (sampleReply sampleFaces) := encode_sampleResult (by decide +kernel)
  have harrives : Arrives (sampleStream sampleFaces).segments := by decide
  have hprocess := hreturn sampleFaces (sampleReply sampleFaces) [0] (by decide) hreply
    (sampleStream sampleFaces) rfl rfl harrives (flatten_sampleStream sampleFaces)
  exact ⟨hread, hprocess⟩

end Mvision.Images
