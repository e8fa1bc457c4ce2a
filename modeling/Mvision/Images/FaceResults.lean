import Mvision.Images.BatchWorker
import Mvision.Images.FaceObjects

/-!
# The faces of a batch: `on_sgie_output` and `on_buffer`

The network answers for the regions of a batch row by row, and its callback keeps the rows under
the buffer.  The probe at the sink makes the results of the buffer: it brings the boxes back into
the frames as they were, and gives each face its row.  Several buffers are in the pipeline at a
time.  Metadata are told apart by their addresses.
-/

namespace Mvision.Images

open Mvision.Library

/-- A layer of a `NvDsInferTensorMeta`, with its buffer on the host. -/
structure TensorLayer where
  layerName : Option String
  dataType : LayerType
  numElements : Nat
  host : Option (Nat → FloatValue)

/-- `NvDsUserMeta`; one without data is like one of another type. -/
inductive UserMeta where
  | tensorOutput (uniqueId : Nat) (layers : List TensorLayer)
  | alignedJpeg (bytes : List UInt8)
  | other

/-- `NvDsObjectMeta` -/
structure ObjectMeta where
  classId : Int
  left : FloatValue
  top : FloatValue
  width : FloatValue
  height : FloatValue
  confidence : FloatValue
  maskData : Option (Nat → FloatValue)
  maskSize : Nat
  userMetas : List UserMeta

/-- `NvDsRoiMeta` -/
structure RoiMeta where
  objectMeta : Option Nat
  userMetas : List UserMeta

/-- `GstNvDsPreProcessBatchMeta`; the name and the shape of a tensor that has a buffer. -/
structure PreprocessBatch where
  tensor : Option (String × List Nat)
  rois : List RoiMeta

/-- `NvDsFrameMeta`, its objects with their addresses. -/
structure FrameMeta where
  bufPts : Nat
  sourceFrameWidth : Nat
  sourceFrameHeight : Nat
  pipelineWidth : Nat
  pipelineHeight : Nat
  objects : List (Nat × ObjectMeta)

/-- `NvDsBatchMeta` -/
structure BatchMeta where
  preprocess : List PreprocessBatch
  frames : List FrameMeta

/-- `FaceDetection` -/
structure FaceDetection where
  left : FloatValue
  top : FloatValue
  width : FloatValue
  height : FloatValue
  confidence : FloatValue
  landmarksXy : List FloatValue
  embedding : List FloatValue
  alignedJpeg : List UInt8
deriving DecidableEq

/-! ## Embeddings -/

def embeddingSize : Nat := 512

/-- The 512 floats from an offset on. -/
def embeddingAt (values : Nat → FloatValue) (offset : Nat) : List FloatValue :=
  (List.range embeddingSize).map fun i => values (offset + i)

def normSquared (embedding : List FloatValue) : FloatValue :=
  embedding.foldl (fun sum value => binary32.add sum (binary32.mul value value)) (.finite 0)

/-- The embedding times the inverse of its norm. -/
def normalized (embedding : List FloatValue) : List FloatValue :=
  embedding.map fun value =>
    binary32.mul value (binary32.div (.finite 1) (binary32.sqrt (normSquared embedding)))

/-- The layers of the ArcFace network. -/
def UserMeta.arcfaceLayers : UserMeta → List TensorLayer
  | .tensorOutput uniqueId layers => if uniqueId = 2 then layers else []
  | _ => []

def TensorLayer.embedding (layer : TensorLayer) : Option (List FloatValue) :=
  if layer.layerName = some "output" ∧ layer.dataType = .float ∧
      layer.numElements = embeddingSize then
    layer.host.map fun values => embeddingAt values 0
  else none

/-- `copy_arcface_embedding` over a list of metadata. -/
def copyArcfaceEmbedding (userMetas : List UserMeta) (embedding : List FloatValue) :
    Bool × List FloatValue :=
  match (userMetas.flatMap UserMeta.arcfaceLayers).findSome? TensorLayer.embedding with
  | none => (false, embedding)
  | some values =>
      if (normSquared values).lessEq (.finite 0) then (false, values)
      else (true, normalized values)

/-- `copy_aligned_jpeg` -/
def copyAlignedJpeg (userMetas : List UserMeta) : List UInt8 :=
  (userMetas.findSome? fun item =>
    match item with
    | .alignedJpeg bytes => some bytes
    | _ => none).getD []

/-- The embeddings of objects. -/
abbrev Embeddings := Nat → Option (List FloatValue)

/-! ## `on_sgie_output` -/

/-- The objects of the regions, as the callback collects them. -/
def BatchMeta.regionObjects (batch : BatchMeta) : List Nat :=
  batch.preprocess.flatMap fun item => item.rois.filterMap RoiMeta.objectMeta

/-- The output of the network. -/
def networkOutput (layers : List LayerInfo) : Option (Nat → FloatValue) :=
  (layers.find? fun layer =>
    decide (layer.layerName = some "output") && decide (layer.dataType = .float) &&
      decide (layer.inferDims.prod = embeddingSize) && layer.buffer.isSome).bind fun layer =>
        layer.buffer.map LayerBuffer.float

/-- The row of the first region of an object. -/
def rowEmbeddings (objects : List Nat) (output : Nat → FloatValue) : Embeddings := fun object =>
  (objects.idxOf? object).map fun row => normalized (embeddingAt output (row * embeddingSize))

/-- What the callback keeps. -/
def sgieEmbeddings (layers : List LayerInfo) (batchSize : Nat) (batch : Option BatchMeta) :
    Option Embeddings := do
  let output ← networkOutput layers
  let batch ← batch
  guard (batch.regionObjects.length = batchSize)
  pure (rowEmbeddings batch.regionObjects output)

/-! ## `on_buffer` -/

/-- The embedding that is attached to a region itself. -/
def RoiMeta.ownEmbedding (roi : RoiMeta) : Option (List FloatValue) :=
  let copied := copyArcfaceEmbedding roi.userMetas (List.replicate embeddingSize (.finite 0))
  if copied.1 then some copied.2 else none

/-- `roi_embeddings.insert_or_assign` -/
def assignOwn (embeddings : Embeddings) (roi : RoiMeta) : Embeddings :=
  match roi.objectMeta, roi.ownEmbedding with
  | some object, some own => Function.update embeddings object (some own)
  | _, _ => embeddings

/-- The regions of a batch. -/
def BatchMeta.regions (batch : BatchMeta) : List RoiMeta :=
  batch.preprocess.flatMap PreprocessBatch.rois

/-- The embeddings of the regions themselves take the place of rows. -/
def roiEmbeddings (batch : BatchMeta) (rows : Embeddings) : Embeddings :=
  batch.regions.foldl assignOwn rows

/-- The faces that were prepared for the network. -/
def PreprocessBatch.preparedFaces (item : PreprocessBatch) : Nat :=
  match item.tensor with
  | some (name, shape) =>
      if name = "input.1" ∧ shape.length = 4 ∧ shape.drop 1 = [3, 112, 112] then item.rois.length
      else 0
  | none => 0

namespace FrameMeta

variable (frame : FrameMeta)

/-- `static_cast<float>` of an unsigned number -/
def unsigned (n : Nat) : FloatValue := binary32.round n

def scale : FloatValue :=
  FloatValue.min
    (binary32.div (unsigned frame.pipelineWidth) (unsigned frame.sourceFrameWidth))
    (binary32.div (unsigned frame.pipelineHeight) (unsigned frame.sourceFrameHeight))

/-- What the muxer has added on one side. -/
def padding (pipelineSide sourceSide : Nat) : FloatValue :=
  binary32.mul
    (binary32.sub (unsigned pipelineSide) (binary32.mul (unsigned sourceSide) frame.scale))
    (.finite (1 / 2))

def paddingX : FloatValue := frame.padding frame.pipelineWidth frame.sourceFrameWidth

def paddingY : FloatValue := frame.padding frame.pipelineHeight frame.sourceFrameHeight

/-- A coordinate of the pipeline in the frame as it was. -/
def restored (value padding : FloatValue) (sourceSide : Nat) : FloatValue :=
  clampTo sourceSide (binary32.div (binary32.sub value padding) frame.scale)

def restoredX (value : FloatValue) : FloatValue :=
  frame.restored value frame.paddingX frame.sourceFrameWidth

def restoredY (value : FloatValue) : FloatValue :=
  frame.restored value frame.paddingY frame.sourceFrameHeight

/-- The five points of a mask. -/
def restoredLandmarks (mask : Nat → FloatValue) : List FloatValue :=
  (List.range 5).flatMap fun landmark =>
    [frame.restoredX (mask (landmark * 3)), frame.restoredY (mask (landmark * 3 + 1))]

/-- The face of an object with a mask. -/
def face (embeddings : Embeddings) (address : Nat) (object : ObjectMeta)
    (mask : Nat → FloatValue) : FaceDetection where
  left := frame.restoredX object.left
  top := frame.restoredY object.top
  width := binary32.sub (frame.restoredX (binary32.add object.left object.width))
    (frame.restoredX object.left)
  height := binary32.sub (frame.restoredY (binary32.add object.top object.height))
    (frame.restoredY object.top)
  confidence := object.confidence
  landmarksXy := frame.restoredLandmarks mask
  embedding := (embeddings address).getD
    (copyArcfaceEmbedding object.userMetas (List.replicate embeddingSize (.finite 0))).2
  alignedJpeg := copyAlignedJpeg object.userMetas

/-- The face of an object, unless it is passed over. -/
def detection (embeddings : Embeddings) (address : Nat) (object : ObjectMeta) :
    Option FaceDetection :=
  if object.classId ≠ 0 ∨ frame.scale.lessEq (.finite 0) = true then none
  else if (frame.restoredX (binary32.add object.left object.width)).lessEq
        (frame.restoredX object.left) = true ∨
      (frame.restoredY (binary32.add object.top object.height)).lessEq
        (frame.restoredY object.top) = true then none
  else
    match object.maskData with
    | none => none
    | some mask =>
        if object.maskSize < 15 * 4 then none else some (frame.face embeddings address object mask)

/-- The result of a frame. -/
def result (embeddings : Embeddings) : ImageDetectionResult FaceDetection where
  ptsToken := frame.bufPts
  faces := frame.objects.filterMap fun object => frame.detection embeddings object.1 object.2

end FrameMeta

/-- The results of a batch. -/
def BatchMeta.results (batch : BatchMeta) (rows : Embeddings) :
    List (ImageDetectionResult FaceDetection) :=
  batch.frames.map fun frame => frame.result (roiEmbeddings batch rows)

/-! ## The callbacks of all batches -/

/-- `PersistentJpegPipeline::Impl`, with what its callbacks keep. -/
structure JpegCallbacks where
  pipeline : JpegPipeline FaceDetection := {}
  arcfaceOutputs : Nat → Option Embeddings := fun _ => none
  preprocessedFaces : Nat := 0

inductive PipelineCall where
  | sgieOutput (buffer : Nat) (layers : List LayerInfo) (batchSize : Nat)
      (batch : Option BatchMeta)
  | sink (buffer : Nat) (batch : Option BatchMeta)

def PipelineCall.buffer : PipelineCall → Nat
  | .sgieOutput buffer _ _ _ => buffer
  | .sink buffer _ => buffer

namespace JpegCallbacks

variable (s : JpegCallbacks)

/-- `on_sgie_output` -/
def onSgieOutput (buffer : Nat) (layers : List LayerInfo) (batchSize : Nat)
    (batch : Option BatchMeta) : JpegCallbacks :=
  match sgieEmbeddings layers batchSize batch with
  | none => s
  | some embeddings =>
      { s with arcfaceOutputs := Function.update s.arcfaceOutputs buffer (some embeddings) }

/-- The rows that are kept under a buffer, or none. -/
def rows (buffer : Nat) : Embeddings := (s.arcfaceOutputs buffer).getD fun _ => none

/-- `on_buffer` -/
def onBuffer (buffer : Nat) (batch : Option BatchMeta) : JpegCallbacks where
  pipeline := s.pipeline.onBuffer (batch.map fun batch => batch.results (s.rows buffer))
  arcfaceOutputs := Function.update s.arcfaceOutputs buffer none
  preprocessedFaces := s.preprocessedFaces +
    (batch.map fun batch => (batch.preprocess.map PreprocessBatch.preparedFaces).sum).getD 0

def call : PipelineCall → JpegCallbacks
  | .sgieOutput buffer layers batchSize batch => s.onSgieOutput buffer layers batchSize batch
  | .sink buffer batch => s.onBuffer buffer batch

def run (calls : List PipelineCall) : JpegCallbacks := calls.foldl call s

end JpegCallbacks

/-! ## Each face has its row -/

section Rows

variable {s : JpegCallbacks} {batch : BatchMeta} {output : Nat → FloatValue} {buffer : Nat}

/-- Calls for other buffers leave what is kept under a buffer. -/
theorem arcfaceOutputs_call {call : PipelineCall} (h : call.buffer ≠ buffer) :
    (s.call call).arcfaceOutputs buffer = s.arcfaceOutputs buffer := by
  cases call with
  | sgieOutput other layers batchSize batch =>
      show (s.onSgieOutput other layers batchSize batch).arcfaceOutputs buffer = _
      unfold JpegCallbacks.onSgieOutput
      split
      · rfl
      · exact Function.update_of_ne (Ne.symm h) _ _
  | sink other batch => exact Function.update_of_ne (Ne.symm h) _ _

theorem arcfaceOutputs_run {calls : List PipelineCall}
    (h : ∀ call ∈ calls, call.buffer ≠ buffer) :
    (s.run calls).arcfaceOutputs buffer = s.arcfaceOutputs buffer := by
  induction calls generalizing s with
  | nil => rfl
  | cons call calls ih =>
      refine (ih fun other hother => h other (List.mem_cons_of_mem call hother)).trans ?_
      exact arcfaceOutputs_call (h call List.mem_cons_self)

/-- A region without an embedding of its own, or of another object, leaves what an object has. -/
theorem assignOwn_other {embeddings : Embeddings} {roi : RoiMeta} {address : Nat}
    (h : roi.objectMeta = some address → roi.ownEmbedding = none) :
    assignOwn embeddings roi address = embeddings address := by
  unfold assignOwn
  cases hobject : roi.objectMeta with
  | none => rfl
  | some object =>
      cases hown : roi.ownEmbedding with
      | none => rfl
      | some own =>
          have hne : address ≠ object := by
            rintro rfl
            rw [h hobject] at hown
            cases hown
          exact Function.update_of_ne hne _ _

theorem foldl_assignOwn_other {rois : List RoiMeta} {address : Nat}
    (h : ∀ roi ∈ rois, roi.objectMeta = some address → roi.ownEmbedding = none)
    (embeddings : Embeddings) : rois.foldl assignOwn embeddings address = embeddings address := by
  induction rois generalizing embeddings with
  | nil => rfl
  | cons roi rois ih =>
      obtain ⟨hroi, hrest⟩ := List.forall_mem_cons.mp h
      rw [List.foldl_cons, ih hrest, assignOwn_other hroi]

/-- The last embedding that a region of an object has of its own is the one of the object. -/
theorem foldl_assignOwn_last {before after : List RoiMeta} {roi : RoiMeta} {address : Nat}
    {own : List FloatValue} (hobject : roi.objectMeta = some address)
    (hown : roi.ownEmbedding = some own)
    (hlater : ∀ later ∈ after, later.objectMeta = some address → later.ownEmbedding = none)
    (embeddings : Embeddings) :
    (before ++ roi :: after).foldl assignOwn embeddings address = some own := by
  rw [List.foldl_append, List.foldl_cons, foldl_assignOwn_other hlater]
  unfold assignOwn
  rw [hobject, hown]
  exact Function.update_self address _ _

end Rows

/-! ## Each face lies inside of its frame -/

section Inside

/-- A face of a frame of the given size. -/
structure SoundFace (frameWidth frameHeight : Nat) (face : FaceDetection) : Prop where
  horizontal : SoundSide frameWidth face.left face.width
  vertical : SoundSide frameHeight face.top face.height
  length : face.landmarksXy.length = 10
  points : ∀ landmark < 5,
    (face.landmarksXy[landmark * 2]? = some .nan ∨
        ∃ x, face.landmarksXy[landmark * 2]? = some x ∧ Inside frameWidth x) ∧
      (face.landmarksXy[landmark * 2 + 1]? = some .nan ∨
        ∃ y, face.landmarksXy[landmark * 2 + 1]? = some y ∧ Inside frameHeight y)

/-- The sides of a frame and of the pipeline are positive. -/
structure FrameMeta.Sized (frame : FrameMeta) : Prop where
  sourceWidth : 0 < frame.sourceFrameWidth ∧ frame.sourceFrameWidth < 2 ^ 32
  sourceHeight : 0 < frame.sourceFrameHeight ∧ frame.sourceFrameHeight < 2 ^ 32
  pipelineWidth : 0 < frame.pipelineWidth ∧ frame.pipelineWidth < 2 ^ 32
  pipelineHeight : 0 < frame.pipelineHeight ∧ frame.pipelineHeight < 2 ^ 32

/-- A number between two powers of two. -/
def Between (low high : Int) (value : FloatValue) : Prop :=
  ∃ q : ℚ, value = .finite q ∧ 2 ^ low ≤ q ∧ q ≤ 2 ^ high

theorem between_round {low high : Int} (hlow : -149 ≤ low) (hhigh : high < 128)
    (hle : -149 ≤ high) {q : ℚ} (h : 2 ^ low ≤ q) (h' : q ≤ 2 ^ high) :
    Between low high (binary32.round q) := by
  have hpos : 0 < q := (zpow_pos (by norm_num) low).trans_le h
  have habs : |q| = q := abs_of_pos hpos
  obtain ⟨r, hr, hbound, hnonneg⟩ :=
    binary32.round_of_abs_le (by decide) hle hhigh (habs.trans_le h')
  have habove := binary32.le_abs_of_round (by decide) hlow (h.trans_eq habs.symm) hr
  rw [abs_of_nonneg (hnonneg hpos.le)] at habove hbound
  exact ⟨r, hr, habove, hbound⟩

theorem between_unsigned {n : Nat} (hpos : 0 < n) (hlt : n < 2 ^ 32) :
    Between 0 32 (FrameMeta.unsigned n) := by
  apply between_round (by decide) (by decide) (by decide)
  · rw [zpow_zero]
    exact_mod_cast hpos
  · exact_mod_cast hlt.le

theorem between_div {a b : FloatValue} (ha : Between 0 32 a) (hb : Between 0 32 b) :
    Between (-32) 32 (binary32.div a b) := by
  obtain ⟨p, rfl, hp, hp'⟩ := ha
  obtain ⟨q, rfl, hq, hq'⟩ := hb
  rw [zpow_zero] at hp hq
  have hqpos : 0 < q := one_pos.trans_le hq
  show Between (-32) 32 (if q = 0 then _ else _)
  rw [if_neg hqpos.ne']
  apply between_round (by decide) (by decide) (by decide)
  · rw [le_div_iff₀ hqpos]
    calc (2 : ℚ) ^ (-32 : Int) * q ≤ 2 ^ (-32 : Int) * 2 ^ (32 : Int) := by
          exact mul_le_mul_of_nonneg_left hq' (zpow_nonneg (by norm_num) _)
      _ = 1 := by norm_num
      _ ≤ p := hp
  · rw [div_le_iff₀ hqpos]
    calc p ≤ 2 ^ (32 : Int) := hp'
      _ = 2 ^ (32 : Int) * 1 := (mul_one _).symm
      _ ≤ 2 ^ (32 : Int) * q := mul_le_mul_of_nonneg_left hq (zpow_nonneg (by norm_num) _)

variable {frame : FrameMeta} {embeddings : Embeddings} {object : ObjectMeta}

theorem FrameMeta.Sized.scale (h : frame.Sized) : Between (-32) 32 frame.scale := by
  unfold FrameMeta.scale FloatValue.min
  split_ifs
  · exact between_div (between_unsigned h.pipelineHeight.1 h.pipelineHeight.2)
      (between_unsigned h.sourceHeight.1 h.sourceHeight.2)
  · exact between_div (between_unsigned h.pipelineWidth.1 h.pipelineWidth.2)
      (between_unsigned h.sourceWidth.1 h.sourceWidth.2)

theorem FrameMeta.Sized.padding (h : frame.Sized) {pipelineSide sourceSide : Nat}
    (hpipeline : 0 < pipelineSide ∧ pipelineSide < 2 ^ 32)
    (hsource : 0 < sourceSide ∧ sourceSide < 2 ^ 32) :
    (frame.padding pipelineSide sourceSide).isFinite = true := by
  obtain ⟨p, hp, hp1, hp2⟩ := between_unsigned hpipeline.1 hpipeline.2
  obtain ⟨q, hq, hq1, hq2⟩ := between_unsigned hsource.1 hsource.2
  obtain ⟨c, hc, hc1, hc2⟩ := h.scale
  have hp0 : 0 ≤ p := (zpow_nonneg (by norm_num) _).trans hp1
  have hq0 : 0 ≤ q := (zpow_nonneg (by norm_num) _).trans hq1
  have hc0 : 0 ≤ c := (zpow_nonneg (by norm_num) _).trans hc1
  have hproduct : |q * c| ≤ 2 ^ (64 : Int) := by
    rw [abs_of_nonneg (mul_nonneg hq0 hc0)]
    calc q * c ≤ 2 ^ (32 : Int) * 2 ^ (32 : Int) :=
          mul_le_mul hq2 hc2 hc0 (zpow_nonneg (by norm_num) _)
      _ = 2 ^ (64 : Int) := by norm_num
  obtain ⟨u, hu, hu1, hu2⟩ :=
    binary32.round_of_abs_le (by decide) (by decide) (by decide) hproduct
  have hu0 : 0 ≤ u := hu2 (mul_nonneg hq0 hc0)
  have hdifference : |p - u| ≤ 2 ^ (64 : Int) := by
    rw [abs_of_nonneg hu0] at hu1
    have hp64 : p ≤ 2 ^ (64 : Int) := hp2.trans (zpow_le_zpow_right₀ (by norm_num) (by decide))
    rw [abs_le]
    constructor <;> linarith
  obtain ⟨v, hv, hv1, -⟩ :=
    binary32.round_of_abs_le (by decide) (by decide) (by decide) hdifference
  have hhalf : |v * (1 / 2)| ≤ 2 ^ (64 : Int) := by
    rw [abs_mul]
    have hnonneg := abs_nonneg v
    norm_num at hv1 ⊢
    linarith
  obtain ⟨w, hw, -, -⟩ :=
    binary32.round_of_abs_le (by decide) (by decide) (by decide) hhalf
  have hmul : binary32.mul (.finite q) (.finite c) = .finite u := hu
  have hsub : binary32.sub (.finite p) (.finite u) = .finite v := by
    show binary32.round (p + -u) = .finite v
    rw [← sub_eq_add_neg]
    exact hv
  have hresult : binary32.mul (.finite v) (.finite (1 / 2)) = .finite w := hw
  unfold FrameMeta.padding
  rw [hp, hq, hc, hmul, hsub, hresult]
  rfl

theorem add_ne_nan {a b : FloatValue} (ha : a ≠ .nan) (hb : b.isFinite = true) :
    binary32.add a b ≠ .nan := by
  obtain ⟨q, rfl⟩ := FloatValue.isFinite_iff.mp hb
  cases a with
  | finite p => exact binary32.round_ne_nan _
  | infinite s => intro h; cases h
  | nan => exact absurd rfl ha

theorem sub_ne_nan {a b : FloatValue} (ha : a ≠ .nan) (hb : b.isFinite = true) :
    binary32.sub a b ≠ .nan := by
  obtain ⟨q, rfl⟩ := FloatValue.isFinite_iff.mp hb
  exact add_ne_nan ha rfl

theorem div_ne_nan {a b : FloatValue} (ha : a ≠ .nan) {low high : Int}
    (hb : Between low high b) : binary32.div a b ≠ .nan := by
  obtain ⟨q, rfl, hq, -⟩ := hb
  have hpos : 0 < q := (zpow_pos (by norm_num) low).trans_le hq
  cases a with
  | finite p =>
      show (if q = 0 then _ else _) ≠ FloatValue.nan
      rw [if_neg hpos.ne']
      exact binary32.round_ne_nan _
  | infinite s => intro h; cases h
  | nan => exact absurd rfl ha

/-- A coordinate that is a number is restored to one inside of the frame. -/
theorem FrameMeta.Sized.restored (h : frame.Sized) {value padding : FloatValue}
    (hvalue : value ≠ .nan) (hpadding : padding.isFinite = true) {sourceSide : Nat}
    (hsource : sourceSide < 2 ^ 32) :
    Inside sourceSide (frame.restored value padding sourceSide) := by
  have hnumber := div_ne_nan (sub_ne_nan hvalue hpadding) h.scale
  unfold FrameMeta.restored
  rcases clampTo_cases hsource (binary32.div (binary32.sub value padding) frame.scale) with
    ⟨hnan, -⟩ | ⟨greatest, q, hround, -, hq, hq0, hqle⟩
  · exact absurd hnan hnumber
  · exact ⟨greatest, q, hround, hq, hq0, hqle⟩

/-- The restored side of a box that is not empty. -/
theorem restored_side {low high padding : FloatValue} {sourceSide : Nat}
    (hsource : sourceSide < 2 ^ 32)
    (hlow : Inside sourceSide (frame.restored low padding sourceSide))
    (hhigh : Inside sourceSide (frame.restored high padding sourceSide))
    (h : (frame.restored high padding sourceSide).lessEq
      (frame.restored low padding sourceSide) = false) :
    SoundSide sourceSide (frame.restored low padding sourceSide)
      (binary32.sub (frame.restored high padding sourceSide)
        (frame.restored low padding sourceSide)) := by
  obtain ⟨-, p, -, hp, -, -⟩ := hlow
  obtain ⟨-, q, -, hq, -, -⟩ := hhigh
  rw [hp, hq, FloatValue.lessEq_finite, decide_eq_false_iff_not, not_le] at h
  exact soundSide hsource (FloatFormat.gridded_div _ _) (FloatFormat.gridded_div _ _) hp hq h

theorem restoredLandmarks_get {mask : Nat → FloatValue} {landmark : Nat} (h : landmark < 5) :
    (frame.restoredLandmarks mask)[landmark * 2]? =
        some (frame.restoredX (mask (landmark * 3))) ∧
      (frame.restoredLandmarks mask)[landmark * 2 + 1]? =
        some (frame.restoredY (mask (landmark * 3 + 1))) := by
  obtain rfl | rfl | rfl | rfl | rfl : landmark = 0 ∨ landmark = 1 ∨ landmark = 2 ∨
      landmark = 3 ∨ landmark = 4 := by omega
  · exact ⟨rfl, rfl⟩
  · exact ⟨rfl, rfl⟩
  · exact ⟨rfl, rfl⟩
  · exact ⟨rfl, rfl⟩
  · exact ⟨rfl, rfl⟩

theorem detection_sound (hsized : frame.Sized) {address : Nat} {face : FaceDetection}
    (hleft : object.left.isFinite = true) (htop : object.top.isFinite = true)
    (hwidth : object.width.isFinite = true) (hheight : object.height.isFinite = true)
    (h : frame.detection embeddings address object = some face) :
    SoundFace frame.sourceFrameWidth frame.sourceFrameHeight face := by
  have hpaddingX : frame.paddingX.isFinite = true :=
    hsized.padding hsized.pipelineWidth hsized.sourceWidth
  have hpaddingY : frame.paddingY.isFinite = true :=
    hsized.padding hsized.pipelineHeight hsized.sourceHeight
  have hnumber : ∀ {value : FloatValue}, value.isFinite = true → value ≠ .nan := by
    rintro _ hfinite rfl
    cases hfinite
  have hl : Inside frame.sourceFrameWidth (frame.restoredX object.left) :=
    hsized.restored (hnumber hleft) hpaddingX hsized.sourceWidth.2
  have ht : Inside frame.sourceFrameHeight (frame.restoredY object.top) :=
    hsized.restored (hnumber htop) hpaddingY hsized.sourceHeight.2
  have hr : Inside frame.sourceFrameWidth
      (frame.restoredX (binary32.add object.left object.width)) :=
    hsized.restored (add_ne_nan (hnumber hleft) hwidth) hpaddingX hsized.sourceWidth.2
  have hb : Inside frame.sourceFrameHeight
      (frame.restoredY (binary32.add object.top object.height)) :=
    hsized.restored (add_ne_nan (hnumber htop) hheight) hpaddingY hsized.sourceHeight.2
  unfold FrameMeta.detection at h
  cases hmask : object.maskData with
  | none =>
    rw [hmask] at h
    split_ifs at h
  | some mask =>
    rw [hmask] at h
    dsimp only at h
    split_ifs at h with hskipped hempty hsmall
    obtain ⟨hright, hbottom⟩ := not_or.mp hempty
    cases h
    exact {
      horizontal :=
        restored_side hsized.sourceWidth.2 hl hr (Bool.eq_false_of_not_eq_true hright)
      vertical :=
        restored_side hsized.sourceHeight.2 ht hb (Bool.eq_false_of_not_eq_true hbottom)
      length := rfl
      points := fun landmark hlandmark => by
        obtain ⟨hx, hy⟩ := @restoredLandmarks_get frame mask landmark hlandmark
        refine ⟨?_, ?_⟩
        · rcases nan_or_inside hsized.sourceWidth.2 (binary32.div
            (binary32.sub (mask (landmark * 3)) frame.paddingX) frame.scale) with hnan | hinside
          · exact .inl (hx.trans (congrArg some hnan))
          · exact .inr ⟨_, hx, hinside⟩
        · rcases nan_or_inside hsized.sourceHeight.2 (binary32.div
            (binary32.sub (mask (landmark * 3 + 1)) frame.paddingY) frame.scale)
            with hnan | hinside
          · exact .inl (hy.trans (congrArg some hnan))
          · exact .inr ⟨_, hy, hinside⟩ }

/-- The faces of a batch lie inside of their frames as they were, with sides above zero: rounding,
overflow and clamping included, for all boxes that are numbers and all landmarks. -/
theorem results_sound (batch : BatchMeta) (rows : Embeddings)
    (hframes : ∀ frame ∈ batch.frames, frame.Sized ∧ ∀ object ∈ frame.objects,
      object.2.left.isFinite = true ∧ object.2.top.isFinite = true ∧
        object.2.width.isFinite = true ∧ object.2.height.isFinite = true) :
    ∀ result ∈ batch.results rows, ∃ frame ∈ batch.frames, result.ptsToken = frame.bufPts ∧
      ∀ face ∈ result.faces,
        SoundFace frame.sourceFrameWidth frame.sourceFrameHeight face := by
  intro result hresult
  obtain ⟨frame, hframe, rfl⟩ := List.mem_map.mp hresult
  refine ⟨frame, hframe, rfl, fun face hface => ?_⟩
  obtain ⟨hsized, hobjects⟩ := hframes frame hframe
  obtain ⟨object, hobject, hdetection⟩ := List.mem_filterMap.mp hface
  obtain ⟨hleft, htop, hwidth, hheight⟩ := hobjects object hobject
  exact detection_sound hsized hleft htop hwidth hheight hdetection

end Inside

section Sample

/-- A frame of 1280 by 640, which the muxer has made half as large, and a face in it. -/
def letterboxedFrame : FrameMeta where
  bufPts := 1
  sourceFrameWidth := 1280
  sourceFrameHeight := 640
  pipelineWidth := 640
  pipelineHeight := 640
  objects := [(7, {
    classId := 0
    left := .finite 100
    top := .finite 200
    width := .finite 50
    height := .finite 60
    confidence := .finite (1 / 2)
    maskData := some fun _ => .finite 210
    maskSize := 60
    userMetas := [] })]

def letterboxedBatch : BatchMeta where
  preprocess := [⟨some ("input.1", [1, 3, 112, 112]), [⟨some 7, []⟩]⟩]
  frames := [letterboxedFrame]

def sampleOutput : List LayerInfo :=
  [⟨some "output", .float, [512], some ⟨fun _ => 0, fun _ => .finite 1⟩⟩]

/-- A region with a tensor of its own. -/
def ownRegion : RoiMeta where
  objectMeta := some 8
  userMetas :=
    [.tensorOutput 2 [⟨some "output", .float, 512, some fun i => .finite (if i = 3 then 2 else 0)⟩]]

theorem ownEmbedding_ownRegion : ownRegion.ownEmbedding.isSome = true := by decide +kernel

/-- Two objects, the first one listed twice. -/
def regionBatch : BatchMeta where
  preprocess := [⟨some ("input.1", [3, 3, 112, 112]), [⟨some 7, []⟩, ownRegion, ⟨some 7, []⟩]⟩]
  frames := [letterboxedFrame]

theorem results_sound_sample :
    ∃ face, (letterboxedFrame.result (fun _ => none)).faces = [face] ∧ SoundFace 1280 640 face := by
  have hframes : ∀ frame ∈ letterboxedBatch.frames, frame.Sized ∧ ∀ object ∈ frame.objects,
      object.2.left.isFinite = true ∧ object.2.top.isFinite = true ∧
        object.2.width.isFinite = true ∧ object.2.height.isFinite = true := by
    intro frame hframe
    obtain rfl := List.mem_singleton.mp hframe
    refine ⟨⟨by decide, by decide, by decide, by decide⟩, fun object hobject => ?_⟩
    obtain rfl := List.mem_singleton.mp hobject
    exact ⟨rfl, rfl, rfl, rfl⟩
  have hlength : (letterboxedFrame.result (fun _ => none)).faces.length = 1 := by decide +kernel
  obtain ⟨face, hface⟩ := List.length_eq_one_iff.mp hlength
  refine ⟨face, hface, ?_⟩
  obtain ⟨frame, hframe, -, hsound⟩ := results_sound letterboxedBatch (fun _ => none) hframes
    (letterboxedFrame.result (fun _ => none)) List.mem_cons_self
  obtain rfl := List.mem_singleton.mp hframe
  exact hsound face (hface ▸ List.mem_cons_self)

end Sample

end Mvision.Images
