import Mvision.Images.ProtocolFields
import Mvision.Library.PythonMessagePack
import Mvision.Video.EventFields
import Mvision.Video.ProbeFields

/-!
# What untrusted input makes the decoders raise

The callers of the decoders catch a `ValueError` or a `VideoProbeError` and nothing else.  Each
decoder keeps to it exactly for the payloads whose fields, in the order in which they are read,
let no other exception escape before one of them is rejected.
-/

namespace Mvision.Protocols

open Mvision.Library Mvision.Library.Python

/-- It returns, or it raises an exception of the class. -/
def OnlyRaises {α : Type} (kind : ErrorKind) (x : Except Error α) : Prop :=
  ∀ e, x = .error e → e.kind = kind

section Conditions

variable (python : Interpreter) (unpackb : List UInt8 → Except UnpackError Value)

/-- The payload of a whole event, if it is unpacked. -/
def SafeEvent (frame : List UInt8) : Prop :=
  frame.length = Video.Events.headerSize + bigEndian (frame.take Video.Events.headerSize) →
    bigEndian (frame.take Video.Events.headerSize) ≤ Video.Events.maxEventBytes →
    ∀ payload, unpackb (frame.drop Video.Events.headerSize) = .ok payload →
      Field.Clean (Video.Events.eventFields python payload)

def SafeRequest (frame : List UInt8) : Prop :=
  Images.Protocol.Framed frame →
    ∀ payload, unpackb (Images.Protocol.payloadOf frame) = .ok payload →
      Field.Clean (Images.Protocol.requestFields python payload)

def SafeResult (frame : List UInt8) : Prop :=
  Images.Protocol.Framed frame →
    ∀ payload, unpackb (Images.Protocol.payloadOf frame) = .ok payload →
      Field.Clean (Images.Protocol.resultFields python payload)

/-- The text of a probe does not nest too deep, and the document, if it is loaded, is safe. -/
def SafeProbe (loads : List UInt8 → Except LoadError Value) (payload : List UInt8) : Prop :=
  loads payload ≠ .error .recursion ∧
    ∀ document, loads payload = .ok document →
      Field.Clean (Video.Probe.documentFields python document)

end Conditions

/-- Each decoder raises nothing but its documented error exactly on the input that is safe. -/
theorem decoders_onlyRaise_iff (python : Interpreter)
    (unpackb : List UInt8 → Except UnpackError Value) (loads : List UInt8 → Except LoadError Value)
    (bytes : List UInt8) :
    (OnlyRaises .value (Video.Events.decodeVideoEvent python unpackb bytes) ↔
        SafeEvent python unpackb bytes) ∧
      (OnlyRaises .value (Images.Protocol.decodeRequest python unpackb bytes) ↔
        SafeRequest python unpackb bytes) ∧
      (OnlyRaises .value (Images.Protocol.decodeResult python unpackb bytes) ↔
        SafeResult python unpackb bytes) ∧
      (OnlyRaises (.program "VideoProbeError")
          (Video.Probe.parseProbePayload python loads bytes) ↔
        SafeProbe python loads bytes) :=
  ⟨Video.Events.decodeVideoEvent_raises_iff python unpackb bytes,
    Images.Protocol.decodeRequest_raises_iff python unpackb bytes,
    Images.Protocol.decodeResult_raises_iff python unpackb bytes,
    Video.Probe.parseProbePayload_raises_iff python loads bytes⟩

/-! ## Input that is not safe -/

/-- An interpreter with the tables of ASCII. -/
def asciiInterpreter : Interpreter where
  digit c := if c.isDigit then some (c.toNat - '0'.toNat) else none
  digit_of_ascii _ _ := rfl
  repr _ := ""
  lower text := String.ofList (text.toList.map Char.toLower)
  allocates _ := true

/-- `{"streams": [{"codec_type": "video", "nb_frames": Infinity}]}` -/
def infiniteFrames : Value :=
  .dict [(.text "streams", .list [.dict [(.text "codec_type", .str "video"),
    (.text "nb_frames", .float (.infinite false))]])]

/-- The class of the exception that is raised. -/
def raised {α : Type} : Except Error α → Option ErrorKind
  | .ok _ => none
  | .error e => some e.kind

theorem not_onlyRaises {α : Type} {x : Except Error α} {kind other : ErrorKind}
    (h : raised x = some other) (hne : other ≠ kind) : ¬ OnlyRaises kind x := by
  intro honly
  cases x with
  | ok a => cases h
  | error e => exact hne ((Option.some.inj h).symm.trans (honly e rfl))

/-- An empty array as an event and as a result, an empty map as a request, and a video with
infinitely many frames. -/
theorem decoders_let_escape :
    ¬ OnlyRaises .value
        (Video.Events.decodeVideoEvent asciiInterpreter unpackb [0, 0, 0, 1, 0x90]) ∧
      ¬ OnlyRaises .value
        (Images.Protocol.decodeRequest asciiInterpreter unpackb [0, 0, 0, 1, 0x80]) ∧
      ¬ OnlyRaises .value
        (Images.Protocol.decodeResult asciiInterpreter unpackb [0, 0, 0, 1, 0x90]) ∧
      ¬ OnlyRaises (.program "VideoProbeError")
        (Video.Probe.parseProbePayload asciiInterpreter (fun _ => .ok infiniteFrames) []) := by
  have hevent : raised (Video.Events.decodeVideoEvent asciiInterpreter unpackb
      [0, 0, 0, 1, 0x90]) = some .attribute := by decide
  have hrequest : raised (Images.Protocol.decodeRequest asciiInterpreter unpackb
      [0, 0, 0, 1, 0x80]) = some .key := by decide
  have hresult : raised (Images.Protocol.decodeResult asciiInterpreter unpackb
      [0, 0, 0, 1, 0x90]) = some .attribute := by decide
  have hprobe : raised (Video.Probe.parseProbePayload asciiInterpreter
      (fun _ => .ok infiniteFrames) []) = some .overflow := by decide
  exact ⟨not_onlyRaises hevent (by decide), not_onlyRaises hrequest (by decide),
    not_onlyRaises hresult (by decide), not_onlyRaises hprobe (by decide)⟩

end Mvision.Protocols
