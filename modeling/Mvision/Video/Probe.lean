import Mathlib.Data.List.Infix
import Mathlib.Data.List.Sort
import Mvision.Library.PythonValues

/-!
# `parse_probe_payload`

What `ffprobe` says of a video.  `json.loads` is a parameter; what it returns may be any value.
-/

namespace Mvision.Video.Probe

open Mvision.Library Mvision.Library.Python

structure VideoMetadata where
  container : String
  codec : String
  durationSeconds : FloatValue
  fps : FloatValue
  width : Int
  height : Int
  totalFrames : Int
  rotationDegrees : Int
deriving DecidableEq, Repr

/-- `VideoProbeError(message)` -/
def probeError (message : String) : Error := ⟨.program "VideoProbeError", message⟩

variable (python : Interpreter)

/-- `x or y` of two floats. -/
def orElse (x y : FloatValue) : FloatValue := if x.equal (.finite 0) then y else x

/-- `_fraction` -/
def fraction : Value → FloatValue
  | .str text =>
      let numerator := text.toList.takeWhile (· != '/')
      match text.toList.dropWhile (· != '/') with
      | [] => .finite 0
      | _ :: denominator =>
          match floatOf (python.ascii (String.ofList denominator)) with
          | none => .finite 0
          | some d =>
              if d.equal (.finite 0) then .finite 0
              else
                match floatOf (python.ascii (String.ofList numerator)) with
                | none => .finite 0
                | some n => binary64.div n d
  | _ => .finite 0

/-- `name in value` -/
def contains (name : String) : Value → Except Error Bool
  | .dict entries => .ok (lookup entries name).isSome
  | .list items => .ok (items.any (Value.equalsText name))
  | .str text => .ok (decide (name.toList <:+: text.toList))
  | .ext _ _ => .ok false
  | _ => throwing .type

/-- The loop over the side data: the first rotation in it, or the value from before. -/
def sideRotation (value : Value) : List Value → Except Error Value
  | [] => .ok value
  | item :: rest => do
      if ← contains "rotation" item then subscript item "rotation" else sideRotation value rest

/-- `value.get("tags") or {}` and the like. -/
def getOr (value : Value) (name : String) (other : Value) : Except Error Value := do
  return (← get value name).orElse other

/-- `value.get(name, other)` -/
def getDefault (value : Value) (name : String) (other : Value) : Except Error Value :=
  match value with
  | .dict entries => .ok ((lookup entries name).getD other)
  | _ => throwing .attribute

/-- The angle of a value: zero where it has none. -/
def angle (value : Value) : Except Error Int :=
  if value.isNumeric then
    match toFloat python value >>= roundToInt with
    | .ok n => .ok (n % 360)
    | .error e => if e.kind ∈ [ErrorKind.type, .value] then .ok 0 else .error e
  else .ok 0

/-- `_rotation` -/
def rotation (stream : Value) : Except Error Int := do
  let tags ← getOr stream "tags" (.dict [])
  let tagged ← getDefault tags "rotate" (.int 0)
  let sideData ← getOr stream "side_data_list" (.list []) >>= items
  let value ← sideRotation tagged sideData
  angle python value

/-- `_container` -/
def container (formatName : Value) : String :=
  let text := str python (formatName.orElse (.str ""))
  let names := ((text.toList.splitOn ',').map fun part => stripped (String.ofList part)).filter
    fun name => name != ""
  let names := names.map python.lower
  match ["mp4", "mov", "avi", "matroska"].find? fun preferred => names.contains preferred with
  | some preferred => preferred
  | none => (names.insertionSort fun a b => a ≤ b).head?.getD ""

/-- `item.get("codec_type") == "video"` -/
def isVideo (item : Value) : Except Error Bool := do
  return (← get item "codec_type").equalsText "video"

/-- `next(item for item in streams if …)` -/
def firstVideo : List Value → Except Error Value
  | [] => throwing .stopIteration
  | item :: rest => do
      if ← isVideo item then return item else firstVideo rest

/-- `int(frame_value)`, or the frames that the duration has. -/
def totalFrames (frameValue : Value) (duration fps : FloatValue) : Except Error Int :=
  match toInt python frameValue with
  | .ok n => .ok n
  | .error e =>
      if e.kind ∈ [ErrorKind.type, .value] then roundToInt (binary64.mul duration fps) else .error e

/-- The body of the `try` after `json.loads`. -/
def readDocument (document : Value) : Except Error VideoMetadata := do
  let streams ← getOr document "streams" (.list []) >>= items
  let stream ← firstVideo streams
  let format ← getOr document "format" (.dict [])
  let streamDuration ← getOr stream "duration" (.int 0)
  let duration ← getOr format "duration" streamDuration >>= toFloat python
  let averageRate ← get stream "avg_frame_rate"
  let rate ← get stream "r_frame_rate"
  let fps := orElse (fraction python averageRate) (fraction python rate)
  let width ← getOr stream "width" (.int 0) >>= toInt python
  let height ← getOr stream "height" (.int 0) >>= toInt python
  let rotationDegrees ← rotation python stream
  let frameValue ← get stream "nb_frames"
  let totalFrames ← totalFrames python frameValue duration fps
  let formatName ← get format "format_name"
  let codecName ← getOr stream "codec_name" (.str "")
  return {
    container := container python formatName
    codec := python.lower (str python codecName)
    durationSeconds := duration
    fps
    width
    height
    totalFrames
    rotationDegrees }

/-- Nothing is missing. -/
def complete (metadata : VideoMetadata) : Bool :=
  metadata.container != "" && metadata.codec != "" && metadata.durationSeconds.isFinite &&
    !metadata.durationSeconds.lessEq (.finite 0) && metadata.fps.isFinite &&
    !metadata.fps.lessEq (.finite 0) && decide (0 < metadata.width) &&
    decide (0 < metadata.height) && decide (0 < metadata.totalFrames)

/-- A video on its side. -/
def oriented (metadata : VideoMetadata) : VideoMetadata :=
  if metadata.rotationDegrees = 90 ∨ metadata.rotationDegrees = 270 then
    { metadata with width := metadata.height, height := metadata.width }
  else metadata

variable (loads : List UInt8 → Except LoadError Value)

/-- `json.loads` in the `try`. -/
def loaded (payload : List UInt8) : Except Error Value :=
  match loads payload with
  | .ok document => .ok document
  | .error e => .error e.error

/-- `parse_probe_payload` -/
def parseProbePayload (payload : List UInt8) : Except Error VideoMetadata := do
  let metadata ← catching [.stopIteration, .type, .value]
    (probeError "Video metadata is invalid") (loaded loads payload >>= readDocument python)
  if complete metadata then return oriented metadata
  else .error (probeError "Video metadata is incomplete")

end Mvision.Video.Probe
