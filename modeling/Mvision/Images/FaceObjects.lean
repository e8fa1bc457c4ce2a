import Mvision.Images.TensorPreparation
import Mvision.Library.FloatGrid
import Mvision.Library.Packer

/-!
# The faces of the detector: `NvDsInferParseCustomYoloFace`

The output tensors become objects with a box, a confidence and a mask that holds the landmarks.
The floats of a tensor are any that have a bit pattern.  `new` may fail for the mask of any object.
-/

namespace Mvision.Images

open Mvision.Library

/-- `NvDsInferDataType` -/
inductive LayerType where
  | float
  | half
  | int8
  | int32
deriving DecidableEq, Repr

/-- The bytes of a buffer, as the numbers of each type. -/
structure LayerBuffer where
  int32 : Nat → Int
  float : Nat → FloatValue

/-- `NvDsInferLayerInfo` -/
structure LayerInfo where
  layerName : Option String
  dataType : LayerType
  inferDims : List Nat
  buffer : Option LayerBuffer

/-- `NvDsInferNetworkInfo` -/
structure NetworkInfo where
  width : Nat
  height : Nat
deriving DecidableEq, Repr

/-- `NvDsInferInstanceMaskInfo` -/
structure InstanceMaskInfo where
  classId : Nat
  left : FloatValue
  top : FloatValue
  width : FloatValue
  height : FloatValue
  detectionConfidence : FloatValue
  mask : List FloatValue
  maskWidth : Nat
  maskHeight : Nat
  maskSize : Nat
deriving DecidableEq, Repr

/-- `kMaxDetections` -/
def parserMaxDetections : Nat := 100

/-- `kLandmarkCoordinates` -/
def landmarkCoordinates : Nat := 10

/-- `kLandmarkMaskValues` -/
def landmarkMaskValues : Nat := 15

/-- `find_layer` -/
def findLayer (layers : List LayerInfo) (name : String) (type : LayerType) : Option LayerInfo :=
  layers.find? fun layer =>
    decide (layer.layerName = some name) && decide (layer.dataType = type) && layer.buffer.isSome

/-- `has_dimensions` -/
def hasDimensions (layer : LayerInfo) (dimensions : List Nat) : Bool :=
  decide (layer.inferDims = dimensions)

/-- The tensors that are read. -/
structure YoloTensors where
  detectionCount : Int
  boxes : Nat → FloatValue
  scores : Nat → FloatValue
  landmarks : Nat → FloatValue

/-- The tensors if all layers are there and have their dimensions. -/
def yoloTensors (layers : List LayerInfo) : Option YoloTensors := do
  let countLayer ← findLayer layers "num_dets" .int32
  let boxesLayer ← findLayer layers "boxes" .float
  let scoresLayer ← findLayer layers "scores" .float
  let landmarksLayer ← findLayer layers "landmarks" .float
  guard (hasDimensions countLayer [1] ∧ hasDimensions boxesLayer [parserMaxDetections, 4] ∧
    hasDimensions scoresLayer [parserMaxDetections] ∧
    hasDimensions landmarksLayer [parserMaxDetections, landmarkCoordinates])
  let count ← countLayer.buffer
  let boxes ← boxesLayer.buffer
  let scores ← scoresLayer.buffer
  let landmarks ← landmarksLayer.buffer
  pure ⟨count.int32 0, boxes.float, scores.float, landmarks.float⟩

/-- A coordinate between zero and an unsigned bound. -/
def clampTo (bound : Nat) (value : FloatValue) : FloatValue :=
  value.clamp (.finite 0) (binary32.round bound)

section Parser

variable (tensors : YoloTensors) (network : NetworkInfo) (threshold : FloatValue)

/-- The mask of a detection: the points, and 1 behind each. -/
def landmarkMask (index : Nat) : List FloatValue :=
  (List.range 5).flatMap fun landmark =>
    [clampTo network.width (tensors.landmarks (index * landmarkCoordinates + landmark * 2)),
      clampTo network.height (tensors.landmarks (index * landmarkCoordinates + landmark * 2 + 1)),
      .finite 1]

/-- The object of a detection, if it is none of those that are passed over. -/
def parsedObject (index : Nat) : Option InstanceMaskInfo :=
  let score := tensors.scores index
  let x1 := clampTo network.width (tensors.boxes (index * 4))
  let y1 := clampTo network.height (tensors.boxes (index * 4 + 1))
  let x2 := clampTo network.width (tensors.boxes (index * 4 + 2))
  let y2 := clampTo network.height (tensors.boxes (index * 4 + 3))
  if !score.isFinite || !x1.isFinite || !y1.isFinite || !x2.isFinite || !y2.isFinite ||
      score.less threshold || x2.lessEq x1 || y2.lessEq y1 then none
  else some {
    classId := 0
    left := x1
    top := y1
    width := binary32.sub x2 x1
    height := binary32.sub y2 y1
    detectionConfidence := score
    mask := landmarkMask tensors network index
    maskWidth := network.width
    maskHeight := network.height
    maskSize := landmarkMaskValues * 4 }

/-- The loop over the detections; `allocates` says whether `new` gives memory for the mask. -/
def parseObjects (allocates : Nat → Bool) :
    List Nat → List InstanceMaskInfo → Bool × List InstanceMaskInfo
  | [], objects => (true, objects)
  | index :: rest, objects =>
      match parsedObject tensors network threshold index with
      | none => parseObjects allocates rest objects
      | some object =>
          if allocates index then parseObjects allocates rest (objects ++ [object])
          else (false, [])

end Parser

/-- `perClassPreclusterThreshold[0]`, or zero. -/
def preclusterThreshold (thresholds : List FloatValue) : FloatValue :=
  thresholds.headD (.finite 0)

/-- `NvDsInferParseCustomYoloFace`: what it returns, and the objects after it. -/
def parseCustomYoloFace (outputLayers : List LayerInfo) (network : NetworkInfo)
    (thresholds : List FloatValue) (allocates : Nat → Bool) (objects : List InstanceMaskInfo) :
    Bool × List InstanceMaskInfo :=
  match yoloTensors outputLayers with
  | none => (false, objects)
  | some tensors =>
      if tensors.detectionCount < 0 ∨ tensors.detectionCount > parserMaxDetections ∨
          network.width = 0 ∨ network.height = 0 then (false, objects)
      else
        parseObjects tensors network (preclusterThreshold thresholds) allocates
          (List.range tensors.detectionCount.toNat) []

/-! ## What is parsed -/

section Parsed

variable {tensors : YoloTensors} {network : NetworkInfo} {threshold : FloatValue}
  {allocates : Nat → Bool}

/-- The loop keeps the accepted detections in their order, or nothing. -/
theorem parseObjects_eq (indices : List Nat) (objects : List InstanceMaskInfo) :
    parseObjects tensors network threshold allocates indices objects =
      if indices.all fun index =>
          (parsedObject tensors network threshold index).isNone || allocates index then
        (true, objects ++ indices.filterMap (parsedObject tensors network threshold))
      else (false, []) := by
  induction indices generalizing objects with
  | nil =>
      rw [List.all_nil, if_pos rfl, List.filterMap_nil, List.append_nil]
      rfl
  | cons index rest ih =>
      unfold parseObjects
      rw [List.all_cons, List.filterMap_cons]
      cases hparsed : parsedObject tensors network threshold index with
      | none =>
          rw [Option.isNone_none, Bool.true_or, Bool.true_and]
          exact ih objects
      | some object =>
          rw [Option.isNone_some, Bool.false_or]
          cases hallocates : allocates index with
          | true =>
              rw [Bool.true_and]
              refine (ih (objects ++ [object])).trans ?_
              rw [List.append_assoc]
              rfl
          | false =>
              rw [Bool.false_and]
              rfl

/-- A coordinate that is not a number stays so, and each other one is put inside. -/
theorem clampTo_cases {bound : Nat} (hbound : bound < 2 ^ 32) (value : FloatValue) :
    (value = .nan ∧ clampTo bound value = .nan) ∨
      ∃ greatest q, binary32.round bound = .finite greatest ∧ greatest ≤ 2 ^ (32 : Int) ∧
        clampTo bound value = .finite q ∧ 0 ≤ q ∧ q ≤ greatest := by
  have habs : |(bound : ℚ)| ≤ 2 ^ (32 : Int) := by
    rw [Nat.abs_cast]
    exact_mod_cast hbound.le
  obtain ⟨greatest, hround, hle, hnonneg⟩ :=
    binary32.round_of_abs_le (by decide) (by decide) (by decide) habs
  have hpos : 0 ≤ greatest := hnonneg (Nat.cast_nonneg bound)
  rw [abs_of_nonneg hpos] at hle
  by_cases hvalue : value = .nan
  · subst hvalue
    exact .inl ⟨rfl, FloatValue.clamp_nan _ _⟩
  · right
    obtain ⟨q, hq, hq0, hqle⟩ := FloatValue.clamp_mem hvalue hpos
    refine ⟨greatest, q, hround, hle, ?_, hq0, hqle⟩
    rw [clampTo, hround]
    exact hq

theorem gridded_clampTo {value : FloatValue} (hvalue : binary32.Gridded value) (bound : Nat) :
    binary32.Gridded (clampTo bound value) := by
  apply FloatFormat.gridded_clamp hvalue _ (FloatFormat.gridded_round _)
  intro q hq
  obtain rfl := FloatValue.finite.inj hq
  exact FloatFormat.onGrid_zero

/-- The side of a box between two clamped coordinates. -/
theorem side_pos {bound : Nat} (hbound : bound < 2 ^ 32) {low high : FloatValue} {p q : ℚ}
    (hlow : binary32.Gridded low) (hhigh : binary32.Gridded high)
    (hp : clampTo bound low = .finite p) (hq : clampTo bound high = .finite q) (hlt : p < q) :
    ∃ r, binary32.sub (clampTo bound high) (clampTo bound low) = .finite r ∧ 0 < r := by
  have hq32 : q ≤ 2 ^ (32 : Int) := by
    rcases clampTo_cases hbound high with ⟨-, hnan⟩ | ⟨greatest, q', -, hle, hq', -, hqle⟩
    · rw [hnan] at hq
      cases hq
    · rw [hq'] at hq
      cases hq
      exact hqle.trans hle
  have hp0 : 0 ≤ p := by
    rcases clampTo_cases hbound low with ⟨-, hnan⟩ | ⟨greatest, p', -, -, hp', hp0, -⟩
    · rw [hnan] at hp
      cases hp
    · rw [hp'] at hp
      cases hp
      exact hp0
  obtain ⟨r, hr, hpos, -⟩ := @FloatFormat.sub_pos_of_lt binary32 (by decide) 32 (by decide)
    (by decide) q p (gridded_clampTo hhigh bound q hq) (gridded_clampTo hlow bound p hp) hlt
    (by linarith)
  rw [hp, hq]
  exact ⟨r, hr, hpos⟩

/-- A coordinate from zero to an unsigned bound. -/
def Inside (bound : Nat) (value : FloatValue) : Prop :=
  ∃ greatest q, binary32.round bound = .finite greatest ∧ value = .finite q ∧ 0 ≤ q ∧
    q ≤ greatest

/-- A side of a box, given by its first edge and its length.  The second edge lies inside as well,
and the length is the rounded distance: added up again it comes out at most a small part of the
distance behind the second edge.  The sum in floats is not outside, where the bound has digits to
spare. -/
structure SoundSide (bound : Nat) (edge size : FloatValue) : Prop where
  start : Inside bound edge
  positive : ∃ r, size = .finite r ∧ 0 < r
  stop : ∃ low high r, edge = .finite low ∧ size = .finite r ∧ low < high ∧
    Inside bound (.finite high) ∧ |low + r - high| ≤ (high - low) / 2 ^ 24
  sum : bound < 2 ^ 23 → ∃ s, binary32.add edge size = .finite s ∧ s ≤ bound

/-- What a parsed object keeps, for all values of the tensors. -/
structure SoundObject (network : NetworkInfo) (threshold : FloatValue)
    (object : InstanceMaskInfo) : Prop where
  horizontal : SoundSide network.width object.left object.width
  vertical : SoundSide network.height object.top object.height
  score : object.detectionConfidence.isFinite = true
  confident : object.detectionConfidence.less threshold = false
  maskLength : object.mask.length = landmarkMaskValues
  maskSize : object.maskSize = landmarkMaskValues * 4
  points : ∀ landmark < 5,
    (object.mask[landmark * 3]? = some .nan ∨
        ∃ x, object.mask[landmark * 3]? = some x ∧ Inside network.width x) ∧
      (object.mask[landmark * 3 + 1]? = some .nan ∨
        ∃ y, object.mask[landmark * 3 + 1]? = some y ∧ Inside network.height y)

theorem inside_clampTo {bound : Nat} (hbound : bound < 2 ^ 32) {value : FloatValue}
    (h : (clampTo bound value).isFinite = true) : Inside bound (clampTo bound value) := by
  rcases clampTo_cases hbound value with ⟨-, hnan⟩ | ⟨greatest, q, hround, -, hq, hq0, hqle⟩
  · rw [hnan] at h
    cases h
  · exact ⟨greatest, q, hround, hq, hq0, hqle⟩

theorem nan_or_inside {bound : Nat} (hbound : bound < 2 ^ 32) (value : FloatValue) :
    clampTo bound value = .nan ∨ Inside bound (clampTo bound value) := by
  rcases clampTo_cases hbound value with ⟨-, hnan⟩ | ⟨greatest, q, hround, -, hq, hq0, hqle⟩
  · exact .inl hnan
  · exact .inr ⟨greatest, q, hround, hq, hq0, hqle⟩

/-- A small bound is a float. -/
theorem round_bound_le {bound : Nat} (h : bound < 2 ^ 23) {greatest : ℚ}
    (hround : binary32.round bound = .finite greatest) : greatest ≤ bound := by
  by_cases hzero : bound = 0
  · subst hzero
    have heq : binary32.round ((0 : Nat) : ℚ) = .finite 0 := if_pos rfl
    rw [heq] at hround
    rw [← FloatValue.finite.inj hround, Nat.cast_zero]
  · have hunit : (0 : ℚ) < 2 ^ binary32.lastBit bound / 2 := half_pos (zpow_pos (by norm_num) _)
    obtain ⟨s, hs, hle⟩ := @FloatFormat.round_le_natCast binary32 (by decide) (by decide)
      (by decide) bound (Nat.pos_of_ne_zero hzero) h _ (Nat.cast_nonneg bound) (by linarith)
    rw [hround] at hs
    rwa [FloatValue.finite.inj hs]

/-- The side between two coordinates that have been put inside. -/
theorem soundSide {bound : Nat} (hbound : bound < 2 ^ 32) {low high : FloatValue} {p q : ℚ}
    (hlow : binary32.Gridded low) (hhigh : binary32.Gridded high)
    (hp : clampTo bound low = .finite p) (hq : clampTo bound high = .finite q) (hlt : p < q) :
    SoundSide bound (clampTo bound low) (binary32.sub (clampTo bound high) (clampTo bound low)) := by
  obtain ⟨r, hr, hpos⟩ := side_pos hbound hlow hhigh hp hq hlt
  have hstart : Inside bound (clampTo bound low) :=
    inside_clampTo hbound (FloatValue.isFinite_iff.mpr ⟨p, hp⟩)
  have hstop : Inside bound (clampTo bound high) :=
    inside_clampTo hbound (FloatValue.isFinite_iff.mpr ⟨q, hq⟩)
  have hround : binary32.round (q - p) = .finite r := by
    rw [hp, hq] at hr
    rw [sub_eq_add_neg]
    exact hr
  have hgrid : binary32.OnGrid (q - p) :=
    (gridded_clampTo hhigh bound q hq).sub (gridded_clampTo hlow bound p hp)
  refine ⟨hstart, ⟨r, hr, hpos⟩, ⟨p, q, r, hp, hr, hlt, hq ▸ hstop, ?_⟩, fun hsmall => ?_⟩
  · have hmoved := hgrid.abs_round_sub_le hround
    rw [abs_of_pos (sub_pos.mpr hlt)] at hmoved
    rwa [add_comm, add_sub_assoc, ← neg_sub q p, ← sub_eq_add_neg]
  · obtain ⟨greatest, q', hgreatest, hq', -, hle⟩ := hstop
    obtain ⟨-, p', -, hp', hp0, -⟩ := hstart
    rw [hq] at hq'
    rw [hp] at hp'
    obtain rfl := FloatValue.finite.inj hq'
    obtain rfl := FloatValue.finite.inj hp'
    have hround_le := round_bound_le hsmall hgreatest
    have hsum := @FloatFormat.add_sub_le binary32 (by decide) (by decide) (by decide) bound hsmall
      p q r hp0 hlt (hle.trans hround_le) (hp ▸ hq ▸ hr) hpos.le
    rw [hr, hp]
    exact hsum

/-- The values that a point of a mask has. -/
theorem landmarkMask_get {index landmark : Nat} (h : landmark < 5) :
    (landmarkMask tensors network index)[landmark * 3]? =
        some (clampTo network.width
          (tensors.landmarks (index * landmarkCoordinates + landmark * 2))) ∧
      (landmarkMask tensors network index)[landmark * 3 + 1]? =
        some (clampTo network.height
          (tensors.landmarks (index * landmarkCoordinates + landmark * 2 + 1))) := by
  obtain rfl | rfl | rfl | rfl | rfl : landmark = 0 ∨ landmark = 1 ∨ landmark = 2 ∨
      landmark = 3 ∨ landmark = 4 := by omega
  · exact ⟨rfl, rfl⟩
  · exact ⟨rfl, rfl⟩
  · exact ⟨rfl, rfl⟩
  · exact ⟨rfl, rfl⟩
  · exact ⟨rfl, rfl⟩

theorem parsedObject_sound {index : Nat} {object : InstanceMaskInfo}
    (hwidth : network.width < 2 ^ 32) (hheight : network.height < 2 ^ 32)
    (hboxes : ∀ i, binary32.Gridded (tensors.boxes i))
    (h : parsedObject tensors network threshold index = some object) :
    SoundObject network threshold object := by
  unfold parsedObject at h
  dsimp only at h
  split_ifs at h with hskipped
  cases h
  simp only [Bool.or_eq_true, Bool.not_eq_true', not_or, Bool.not_eq_false, Bool.not_eq_true]
    at hskipped
  obtain ⟨⟨⟨⟨⟨⟨⟨hscore, hx1⟩, hy1⟩, hx2⟩, hy2⟩, hconfident⟩, hx⟩, hy⟩ := hskipped
  obtain ⟨p, hp⟩ := FloatValue.isFinite_iff.mp hx1
  obtain ⟨q, hq⟩ := FloatValue.isFinite_iff.mp hx2
  obtain ⟨u, hu⟩ := FloatValue.isFinite_iff.mp hy1
  obtain ⟨v, hv⟩ := FloatValue.isFinite_iff.mp hy2
  have hpq : p < q := by
    rw [hp, hq, FloatValue.lessEq_finite, decide_eq_false_iff_not, not_le] at hx
    exact hx
  have huv : u < v := by
    rw [hu, hv, FloatValue.lessEq_finite, decide_eq_false_iff_not, not_le] at hy
    exact hy
  exact {
    horizontal := soundSide hwidth (hboxes _) (hboxes _) hp hq hpq
    vertical := soundSide hheight (hboxes _) (hboxes _) hu hv huv
    score := hscore
    confident := hconfident
    maskLength := rfl
    maskSize := rfl
    points := fun landmark hlandmark => by
      obtain ⟨hx, hy⟩ := @landmarkMask_get tensors network index landmark hlandmark
      refine ⟨?_, ?_⟩
      · rcases nan_or_inside hwidth
            (tensors.landmarks (index * landmarkCoordinates + landmark * 2)) with hnan | hinside
        · exact .inl (hx.trans (congrArg some hnan))
        · exact .inr ⟨_, hx, hinside⟩
      · rcases nan_or_inside hheight
            (tensors.landmarks (index * landmarkCoordinates + landmark * 2 + 1))
          with hnan | hinside
        · exact .inl (hy.trans (congrArg some hnan))
        · exact .inr ⟨_, hy, hinside⟩ }

/-! ## Objects and the preparation of their tensors -/

/-- The metadata of an object in a frame of the size of the network. -/
def InstanceMaskInfo.faceObject (object : InstanceMaskInfo) : FaceObject FloatValue where
  maskData := some fun i => object.mask.getD i .nan
  maskSize := object.maskSize
  left := object.left
  top := object.top
  width := object.width
  height := object.height

/-- No parsed object makes the preparation of a batch refuse it. -/
theorem SoundObject.prepared {object : InstanceMaskInfo} (h : SoundObject network threshold object)
    (image : Nat → UInt8) (pitch : Nat) :
    (PreprocessUnit.mk (some object.faceObject) (some image) (some pitch)).faceInput
      floatArithmetic ≠ none := by
  obtain ⟨width, hwidth, hwidth0⟩ := h.horizontal.positive
  obtain ⟨height, hheight, hheight0⟩ := h.vertical.positive
  have hsize : 60 ≤ object.maskSize := h.maskSize.ge
  have hwidth' : floatArithmetic.lessEq object.width (floatArithmetic.literal 0) = false := by
    show object.width.lessEq (.finite 0) = false
    rw [hwidth, FloatValue.lessEq_finite, decide_eq_false_iff_not, not_le]
    exact hwidth0
  have hheight' : floatArithmetic.lessEq object.height (floatArithmetic.literal 0) = false := by
    show object.height.lessEq (.finite 0) = false
    rw [hheight, FloatValue.lessEq_finite, decide_eq_false_iff_not, not_le]
    exact hheight0
  unfold PreprocessUnit.faceInput
  simp [guard, InstanceMaskInfo.faceObject, hsize, hwidth', hheight']

/-- When the parser returns `true`, and which objects it gives then. -/
theorem parseCustomYoloFace_eq_true_iff {layers : List LayerInfo} {thresholds : List FloatValue}
    {objects parsed : List InstanceMaskInfo} :
    parseCustomYoloFace layers network thresholds allocates objects = (true, parsed) ↔
      ∃ tensors, yoloTensors layers = some tensors ∧ 0 ≤ tensors.detectionCount ∧
        tensors.detectionCount ≤ parserMaxDetections ∧ network.width ≠ 0 ∧ network.height ≠ 0 ∧
        (∀ index < tensors.detectionCount.toNat,
          (parsedObject tensors network (preclusterThreshold thresholds) index).isSome = true →
            allocates index = true) ∧
        parsed = (List.range tensors.detectionCount.toNat).filterMap
          (parsedObject tensors network (preclusterThreshold thresholds)) := by
  unfold parseCustomYoloFace
  cases htensors : yoloTensors layers with
  | none => simp
  | some tensors =>
      have hall : ((List.range tensors.detectionCount.toNat).all fun index =>
          (parsedObject tensors network (preclusterThreshold thresholds) index).isNone ||
            allocates index) = true ↔
          ∀ index < tensors.detectionCount.toNat,
            (parsedObject tensors network (preclusterThreshold thresholds) index).isSome = true →
              allocates index = true := by
        simp only [List.all_eq_true, List.mem_range, Bool.or_eq_true]
        refine forall₂_congr fun index _ => ?_
        cases parsedObject tensors network (preclusterThreshold thresholds) index with
        | none => simp
        | some object => simp
      dsimp only
      rw [parseObjects_eq, List.nil_append]
      by_cases hrange : tensors.detectionCount < 0 ∨
          tensors.detectionCount > parserMaxDetections ∨ network.width = 0 ∨ network.height = 0
      · rw [if_pos hrange]
        constructor
        · intro h
          cases h
        · rintro ⟨other, hother, h0, hmax, hw, hh, -⟩
          cases hother
          rcases hrange with h | h | h | h
          · omega
          · omega
          · exact absurd h hw
          · exact absurd h hh
      · rw [if_neg hrange]
        simp only [not_or, not_lt, gt_iff_lt] at hrange
        obtain ⟨h0, hmax, hw, hh⟩ := hrange
        constructor
        · intro h
          split_ifs at h with hallocates
          · exact ⟨tensors, rfl, h0, hmax, hw, hh, hall.mp hallocates, (Prod.mk.inj h).2.symm⟩
          · cases h
        · rintro ⟨other, hother, -, -, -, -, hallocates, rfl⟩
          cases hother
          rw [if_pos (hall.mpr hallocates)]

theorem mem_of_findLayer {layers : List LayerInfo} {name : String} {type : LayerType}
    {layer : LayerInfo} (h : findLayer layers name type = some layer) : layer ∈ layers :=
  List.mem_of_find?_eq_some h

/-- The boxes are those of a layer. -/
theorem yoloTensors_boxes {layers : List LayerInfo}
    (hfloats : ∀ layer ∈ layers, ∀ buffer ∈ layer.buffer, ∀ i, binary32.Has 8 (buffer.float i))
    (h : yoloTensors layers = some tensors) (i : Nat) : binary32.Has 8 (tensors.boxes i) := by
  unfold yoloTensors at h
  simp only [Option.bind_eq_bind, Option.bind_eq_some_iff] at h
  obtain ⟨countLayer, -, boxesLayer, hboxesLayer, scoresLayer, -, landmarksLayer, -, -, -,
    count, -, boxes, hboxes, scores, -, landmarks, -, htensors⟩ := h
  cases htensors
  exact hfloats boxesLayer (mem_of_findLayer hboxesLayer) boxes hboxes i

/-- Whatever the tensors hold, infinite values and values that are no numbers included: the parser
gives the accepted detections in their order, each of them lies inside of the image with sides
above zero, and none makes the preparation refuse its batch. -/
theorem parseCustomYoloFace_sound {layers : List LayerInfo} {thresholds : List FloatValue}
    {objects parsed : List InstanceMaskInfo}
    (hwidth : network.width < 2 ^ 32) (hheight : network.height < 2 ^ 32)
    (hfloats : ∀ layer ∈ layers, ∀ buffer ∈ layer.buffer, ∀ i,
      binary32.Has 8 (buffer.float i))
    (h : parseCustomYoloFace layers network thresholds allocates objects = (true, parsed)) :
    ∃ tensors, yoloTensors layers = some tensors ∧
      parsed = (List.range tensors.detectionCount.toNat).filterMap
        (parsedObject tensors network (preclusterThreshold thresholds)) ∧
      parsed.length ≤ parserMaxDetections ∧
      ∀ object ∈ parsed, SoundObject network (preclusterThreshold thresholds) object ∧
        ∀ image pitch, (PreprocessUnit.mk (some object.faceObject) (some image)
          (some pitch)).faceInput floatArithmetic ≠ none := by
  obtain ⟨tensors, htensors, h0, hmax, -, -, -, rfl⟩ := parseCustomYoloFace_eq_true_iff.mp h
  have hboxes : ∀ i, binary32.Gridded (tensors.boxes i) := fun i =>
    (yoloTensors_boxes hfloats htensors i).gridded
  refine ⟨tensors, htensors, rfl, ?_, fun object hobject => ?_⟩
  · have hlength := List.length_filterMap_le
      (parsedObject tensors network (preclusterThreshold thresholds))
      (List.range tensors.detectionCount.toNat)
    rw [List.length_range] at hlength
    omega
  · obtain ⟨index, -, hparsed⟩ := List.mem_filterMap.mp hobject
    have hsound := parsedObject_sound hwidth hheight hboxes hparsed
    exact ⟨hsound, hsound.prepared⟩

end Parsed

section Sample

/-- A detection that starts at a tiny coordinate and has no end, one with a score that is no number,
and one whose box is empty. -/
def sampleLayers : List LayerInfo :=
  [⟨some "num_dets", .int32, [1], some ⟨fun _ => 3, fun _ => .finite 0⟩⟩,
    ⟨some "boxes", .float, [100, 4], some ⟨fun _ => 0, fun i =>
      [.finite (1 / 131072), .finite 0, .infinite false, .finite 1, .finite 0, .finite 0,
        .finite 1, .finite 1, .finite 1, .finite 0, .finite 1, .finite 1].getD i (.finite 0)⟩⟩,
    ⟨some "scores", .float, [100], some ⟨fun _ => 0, fun i =>
      [.finite 1, .nan].getD i (.finite 1)⟩⟩,
    ⟨some "landmarks", .float, [100, 10], some ⟨fun _ => 0, fun _ => .nan⟩⟩]

def sampleNetwork : NetworkInfo := ⟨640, 640⟩

theorem has_tiny : binary32.Has 8 (.finite (1 / 131072)) :=
  binary32_has_dyadic 1 (-17) (by norm_num) (by decide) (by decide) (by decide)

theorem has_infinity : binary32.Has 8 (.infinite false) := ⟨0x7f800000, by decide⟩

theorem has_nan : binary32.Has 8 .nan := ⟨0x7fc00000, by decide⟩

theorem has_getD {values : List FloatValue} (h : ∀ x ∈ values, binary32.Has 8 x)
    {default : FloatValue} (hdefault : binary32.Has 8 default) (i : Nat) :
    binary32.Has 8 (values.getD i default) := by
  rw [List.getD_eq_getElem?_getD]
  cases hget : values[i]? with
  | none => exact hdefault
  | some x => exact h x (List.mem_of_getElem? hget)

theorem has_sampleLayers : ∀ layer ∈ sampleLayers, ∀ buffer ∈ layer.buffer, ∀ i,
    binary32.Has 8 (buffer.float i) := by
  simp only [sampleLayers, List.forall_mem_cons, Option.mem_def, Option.some.injEq, forall_eq']
  refine ⟨fun _ => has_zero, fun i => has_getD ?_ has_zero i, fun i => has_getD ?_ has_one i,
    fun _ => has_nan, List.forall_mem_nil _⟩
  · simp only [List.forall_mem_cons]
    exact ⟨has_tiny, has_zero, has_infinity, has_one, has_zero, has_zero, has_one, has_one,
      has_one, has_zero, has_one, has_one, List.forall_mem_nil _⟩
  · simp only [List.forall_mem_cons]
    exact ⟨has_one, has_nan, List.forall_mem_nil _⟩

/-- The width is rounded up to that of the image; the sum of the left edge and the width is not
outside. -/
theorem parse_sampleLayers :
    ∃ object, (parseCustomYoloFace sampleLayers sampleNetwork [] (fun _ => true) []).2 =
        [object] ∧
      object.left = .finite (1 / 131072) ∧ object.width = .finite 640 ∧
      SoundObject sampleNetwork (.finite 0) object ∧
      (PreprocessUnit.mk (some object.faceObject) (some fun _ => 255) (some 448)).faceInput
        floatArithmetic ≠ none := by
  have hreturns : parseCustomYoloFace sampleLayers sampleNetwork [] (fun _ => true) [] =
      (true, (parseCustomYoloFace sampleLayers sampleNetwork [] (fun _ => true) []).2) := by
    decide +kernel
  obtain ⟨tensors, -, -, -, hsound⟩ := parseCustomYoloFace_sound (by decide) (by decide)
    has_sampleLayers hreturns
  have hedges : (parseCustomYoloFace sampleLayers sampleNetwork [] (fun _ => true) []).2.map
      (fun object => (object.left, object.width)) =
        [(.finite (1 / 131072), .finite 640)] := by
    decide +kernel
  obtain ⟨object, hobject, hobject'⟩ := List.map_eq_singleton_iff.mp hedges
  obtain ⟨hleft, hwidth⟩ := Prod.mk.inj hobject'
  obtain ⟨hobject_sound, hprepared⟩ := hsound object (hobject ▸ List.mem_cons_self)
  exact ⟨object, hobject, hleft, hwidth, hobject_sound, hprepared _ _⟩

end Sample

end Mvision.Images
