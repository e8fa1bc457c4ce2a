import Mvision.Library.FloatArith
import Mvision.Library.FloatBits
import Mvision.Library.Sorting

/-!
# `VideoTrackAccumulator`

`video_pipeline.cpp` collects the observations of each tracker one by one: the five best
embeddings, the best JPEG and all detections.  `finish` makes the tracks of them.  The arithmetic
is that of `float` and `double`; the order in which an `unordered_map` is read is arbitrary.
-/

namespace Mvision.Video.Native

open Mvision.Library

/-! ## Observations -/

structure VideoDetection where
  frame : Nat
  timestamp : FloatValue
  x : FloatValue
  y : FloatValue
  width : FloatValue
  height : FloatValue
  detectorConfidence : FloatValue
  landmarks : Vector FloatValue 10
deriving DecidableEq

/-- 512 values of type `float`. -/
def Embedding := {values : Vector FloatValue 512 // ∀ i : Fin 512, binary32.Has 8 values[i]}

structure VideoObservation where
  trackerId : Nat
  detection : VideoDetection
  embedding : Embedding
  representativeJpeg : List UInt8

structure VideoTrackOutput where
  trackerId : Nat
  embedding : Vector FloatValue 512
  representativeJpeg : List UInt8
  detections : List VideoDetection

structure RankedEmbedding where
  quality : FloatValue
  frame : Nat
  embedding : Embedding

structure TrackState where
  trackerId : Nat := 0
  rankedEmbeddings : List RankedEmbedding := []
  representativeScore : FloatValue := .finite (-1)
  representativeJpeg : List UInt8 := []
  detections : List VideoDetection := []

/-- The arguments of `add`. -/
structure AddCall where
  observation : VideoObservation
  frameWidth : UInt32
  frameHeight : UInt32

/-! ## `VideoTrackAccumulator::add` -/

/-- `clamp_value` -/
def clampValue (value minimum maximum : FloatValue) : FloatValue :=
  minimum.max (maximum.min value)

namespace AddCall

variable (call : AddCall)

/-- `static_cast<float>` of a size of the frame. -/
def size (pixels : UInt32) : FloatValue := binary32.round pixels.toNat

/-- The detection with its box within the frame. -/
def detection : VideoDetection :=
  let detection := call.observation.detection
  let right := clampValue (binary32.add detection.x detection.width) (.finite 0)
    (size call.frameWidth)
  let bottom := clampValue (binary32.add detection.y detection.height) (.finite 0)
    (size call.frameHeight)
  let x := clampValue detection.x (.finite 0) (size call.frameWidth)
  let y := clampValue detection.y (.finite 0) (size call.frameHeight)
  { detection with
    x
    y
    width := (FloatValue.finite 0).max (binary32.sub right x)
    height := (FloatValue.finite 0).max (binary32.sub bottom y) }

def quality : FloatValue :=
  binary32.mul call.detection.detectorConfidence
    (binary32.sqrt (binary32.mul call.detection.width call.detection.height))

def ranked : RankedEmbedding :=
  ⟨call.quality, call.detection.frame, call.observation.embedding⟩

end AddCall

/-- The order of the embeddings. -/
def ranksBefore (left right : RankedEmbedding) : Bool :=
  if !left.quality.equal right.quality then right.quality.less left.quality
  else decide (left.frame < right.frame)

def kTopObservations : Nat := 5

/-- `VideoTrackAccumulator::add` on the track of the observation. -/
def TrackState.add (track : TrackState) (call : AddCall) : TrackState :=
  let confidence := call.detection.detectorConfidence
  let replaces := !call.observation.representativeJpeg.isEmpty &&
    track.representativeScore.less confidence
  { trackerId := call.observation.trackerId
    rankedEmbeddings :=
      (stableSort ranksBefore (track.rankedEmbeddings ++ [call.ranked])).take kTopObservations
    representativeScore := if replaces then confidence else track.representativeScore
    representativeJpeg :=
      if replaces then call.observation.representativeJpeg else track.representativeJpeg
    detections := track.detections ++ [call.detection] }

/-- `tracks_` -/
abbrev Tracks := Nat → Option TrackState

/-- `VideoTrackAccumulator::add`; `tracks_[id]` makes the track when it is not there. -/
def add (tracks : Tracks) (call : AddCall) : Tracks :=
  Function.update tracks call.observation.trackerId
    (some (((tracks call.observation.trackerId).getD {}).add call))

def accumulate (calls : List AddCall) : Tracks := calls.foldl add fun _ => none

/-! ## `VideoTrackAccumulator::finish` -/

/-- The mean of one component, in `double`. -/
def mean (ranked : List RankedEmbedding) (index : Fin 512) : FloatValue :=
  binary64.div
    ((ranked.map fun item => item.embedding.val[index]).foldl binary64.add (.finite 0))
    (binary64.round ranked.length)

/-- `norm_squared` -/
def normSquared (ranked : List RankedEmbedding) : FloatValue :=
  ((List.finRange 512).map fun index => binary64.mul (mean ranked index) (mean ranked index)).foldl
    binary64.add (.finite 0)

/-- `inverse_norm` -/
def inverseNorm (ranked : List RankedEmbedding) : FloatValue :=
  binary32.convert (binary64.div (.finite 1) (binary64.sqrt (normSquared ranked)))

def frameBefore (left right : VideoDetection) : Bool := decide (left.frame < right.frame)

/-- What `finish` makes of one track. -/
def TrackState.output (trackerId : Nat) (state : TrackState) : Option VideoTrackOutput :=
  if state.rankedEmbeddings.isEmpty || state.detections.isEmpty then none
  else if (normSquared state.rankedEmbeddings).lessEq (.finite 0) ||
      !(normSquared state.rankedEmbeddings).isFinite then none
  else
    some
      { trackerId
        embedding := Vector.ofFn fun index =>
          binary32.mul (binary32.convert (mean state.rankedEmbeddings index))
            (inverseNorm state.rankedEmbeddings)
        representativeJpeg := state.representativeJpeg
        detections := stableSort frameBefore state.detections }

/-- `detections.front().frame`; no track that `finish` makes is without detections. -/
def VideoTrackOutput.firstFrame (track : VideoTrackOutput) : Nat :=
  (track.detections.head?.map VideoDetection.frame).getD 0

/-- The order of the tracks. -/
def tracksBefore (left right : VideoTrackOutput) : Bool :=
  if left.firstFrame ≠ right.firstFrame then decide (left.firstFrame < right.firstFrame)
  else decide (left.trackerId < right.trackerId)

/-- `VideoTrackAccumulator::finish`, with the trackers in the order of the map. -/
def finish (tracks : Tracks) (order : List Nat) : List VideoTrackOutput :=
  stableSort tracksBefore
    (order.filterMap fun trackerId => (tracks trackerId).bind (TrackState.output trackerId))

end Mvision.Video.Native
