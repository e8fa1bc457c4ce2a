import Mathlib.Analysis.Complex.Exponential
import Mathlib.Data.List.Sort
import Mathlib.Data.List.TakeWhile
import Mvision.Images.Suppression

/-!
# Detecting the faces of a batch: `launch_yolo_face_postprocess`

Kernels decode the anchors of all images into one workspace, which is sorted image by image and
suppressed.  Nothing of the workspace is cleared, and a rejected anchor leaves its box as it was.
Scores and coordinates are numbers of an ordered type, with the arithmetic as a parameter: floats
as long as no operation gives a NaN, which the kernels neither reject nor let suppress anything.
Addresses are natural numbers: a batch has at most 4194 images, whose addresses fit an `int`.
-/

namespace Mvision.Images

open Mvision.Library

/-- `kYoloFaceChannels` -/
def yoloFaceChannels : Nat := 80

/-- The arithmetic of the kernels on numbers that are no NaN. -/
structure KernelArithmetic (K : Type) where
  ofNat : Nat → K
  half : K
  add : K → K → K
  sub : K → K → K
  mul : K → K → K
  div : K → K → K
  neg : K → K
  exp : K → K

/-- A `FaceCandidate` without its score. -/
structure FaceBox (K : Type) where
  x1 : K
  y1 : K
  x2 : K
  y2 : K
  landmarksXy : List K

structure FaceCandidate (K : Type) extends FaceBox K where
  score : WithBot K

/-- The three heads of the network. -/
structure YoloHeads (K : Type) where
  stride8 : Nat → K
  stride16 : Nat → K
  stride32 : Nat → K

structure DetectorConfig (K : Type) where
  arithmetic : KernelArithmetic K
  confidenceThreshold : K
  iouThreshold : K

variable {K : Type}

/-! ## Anchors -/

/-- The part of the decoder that depends on the head. -/
structure AnchorPlace (K : Type) where
  head : Nat → K
  stride : Nat
  width : Nat
  area : Nat
  anchor : Nat

namespace YoloHeads

variable (heads : YoloHeads K)

def place (globalAnchor : Nat) : AnchorPlace K :=
  if globalAnchor < 6400 then ⟨heads.stride8, 8, 80, 6400, globalAnchor⟩
  else if globalAnchor < 8000 then ⟨heads.stride16, 16, 40, 1600, globalAnchor - 6400⟩
  else ⟨heads.stride32, 32, 20, 400, globalAnchor - 8000⟩

/-- `tensor_value` at the anchor of an image, for each channel. -/
def image (batch globalAnchor channel : Nat) : K :=
  let place := heads.place globalAnchor
  place.head ((batch * yoloFaceChannels + channel) * place.area + place.anchor)

end YoloHeads

/-- The stride of an anchor, and its place in the grid. -/
def anchorGrid (globalAnchor : Nat) : Nat × Nat × Nat :=
  if globalAnchor < 6400 then (8, globalAnchor % 80, globalAnchor / 80)
  else if globalAnchor < 8000 then (16, (globalAnchor - 6400) % 40, (globalAnchor - 6400) / 40)
  else (32, (globalAnchor - 8000) % 20, (globalAnchor - 8000) / 20)

theorem anchorGrid_eq (heads : YoloHeads K) (globalAnchor : Nat) :
    anchorGrid globalAnchor =
      ((heads.place globalAnchor).stride,
        (heads.place globalAnchor).anchor % (heads.place globalAnchor).width,
        (heads.place globalAnchor).anchor / (heads.place globalAnchor).width) := by
  unfold anchorGrid YoloHeads.place
  split
  · rfl
  · split <;> rfl

/-! ## `decode_kernel` -/

section Decode

variable [LinearOrder K] (config : DetectorConfig K)

/-- `dfl_distance`, of the channels of an anchor. -/
def dflDistance (values : Nat → K) (side : Nat) : K :=
  let a := config.arithmetic
  let firstChannel := side * 16
  let maximum := (List.range' 1 15).foldl (fun maximum bin => max maximum
    (values (firstChannel + bin))) (values firstChannel)
  let sums := (List.range 16).foldl (fun (sums : K × K) bin =>
      let probability := a.exp (a.sub (values (firstChannel + bin)) maximum)
      (a.add sums.1 probability, a.add sums.2 (a.mul probability (a.ofNat bin))))
    (a.ofNat 0, a.ofNat 0)
  a.div sums.2 sums.1

/-- The score of an anchor before it is compared. -/
def classScore (values : Nat → K) : K :=
  let a := config.arithmetic
  a.div (a.ofNat 1) (a.add (a.ofNat 1) (a.exp (a.neg (values 64))))

/-- `candidate.score` -/
def candidateScore (values : Nat → K) : WithBot K :=
  if classScore config values < config.confidenceThreshold then ⊥
  else ((classScore config values : K) : WithBot K)

/-- The box and the landmarks of an anchor. -/
def candidateBox (grid : Nat × Nat × Nat) (values : Nat → K) : FaceBox K :=
  let a := config.arithmetic
  let stride := a.ofNat grid.1
  let gridX := a.ofNat grid.2.1
  let gridY := a.ofNat grid.2.2
  let centerX := a.add gridX a.half
  let centerY := a.add gridY a.half
  { x1 := a.mul (a.sub centerX (dflDistance config values 0)) stride
    y1 := a.mul (a.sub centerY (dflDistance config values 1)) stride
    x2 := a.mul (a.add centerX (dflDistance config values 2)) stride
    y2 := a.mul (a.add centerY (dflDistance config values 3)) stride
    landmarksXy := (List.range 5).flatMap fun landmark =>
      [a.mul (a.add (a.mul (values (65 + landmark * 3)) (a.ofNat 2)) gridX) stride,
       a.mul (a.add (a.mul (values (66 + landmark * 3)) (a.ofNat 2)) gridY) stride] }

/-- What a thread of `decode_kernel` stores at its index. -/
structure DecodedAnchor (K : Type) where
  score : WithBot K
  /-- nothing for a rejected anchor -/
  box : Option (FaceBox K)
  globalAnchor : Nat

def decodeKernel (heads : YoloHeads K) (batchSize linearIndex : Nat) : Option (DecodedAnchor K) :=
  if batchSize * yoloFaceAnchorCount ≤ linearIndex then none
  else
    let batch := linearIndex / yoloFaceAnchorCount
    let globalAnchor := linearIndex % yoloFaceAnchorCount
    let place := heads.place globalAnchor
    let values := heads.image batch globalAnchor
    some {
      score := candidateScore config values
      box :=
        if classScore config values < config.confidenceThreshold then none
        else some (candidateBox config
          (place.stride, place.anchor % place.width, place.anchor / place.width) values)
      globalAnchor := globalAnchor }

end Decode

/-! ## The workspace -/

/-- The arrays of the workspace; the scores of the candidates are apart. -/
structure YoloWorkspace (K : Type) where
  boxes : Nat → FaceBox K
  candidateScores : Nat → WithBot K
  scoresIn : Nat → WithBot K
  scoresOut : Nat → WithBot K
  indicesIn : Nat → Nat
  indicesOut : Nat → Nat
  beginOffsets : Nat → Nat
  endOffsets : Nat → Nat
  masks : Nat → BitVec 64

/-- `SortPairsDescending` for one segment. -/
abbrev SegmentSort (K : Type) := List (WithBot K × Nat) → List (WithBot K × Nat)

/-- A segment is permuted, and its keys descend. -/
def SegmentSort.Descends [LinearOrder K] (sort : SegmentSort K) : Prop :=
  ∀ items, (sort items).Perm items ∧ (sort items).Pairwise fun a b => b.1 ≤ a.1

namespace YoloWorkspace

variable (w : YoloWorkspace K)

/-- The launch of `decode_kernel`. -/
def decode [LinearOrder K] (config : DetectorConfig K) (heads : YoloHeads K) (batchSize : Nat)
    (threads : List Nat) : YoloWorkspace K :=
  let kernel := decodeKernel config heads batchSize
  { w with
    boxes := runThreads (fun thread => ((kernel thread).bind (·.box)).map fun v => (thread, v))
      threads w.boxes
    candidateScores := runThreads (fun thread => ((kernel thread).map (·.score)).map
      fun v => (thread, v)) threads w.candidateScores
    scoresIn := runThreads (fun thread => ((kernel thread).map (·.score)).map
      fun v => (thread, v)) threads w.scoresIn
    indicesIn := runThreads (fun thread => ((kernel thread).map (·.globalAnchor)).map
      fun v => (thread, v)) threads w.indicesIn }

/-- The launch of `initialize_segments_kernel`. -/
def initializeSegments (batchSize : Nat) (threads : List Nat) : YoloWorkspace K :=
  let offset (value : Nat → Nat) (batch : Nat) : Option Nat :=
    if batch < batchSize then some (value batch) else none
  { w with
    beginOffsets := runThreads (fun thread =>
      (offset (fun batch => batch * yoloFaceAnchorCount) thread).map fun v => (thread, v))
      threads w.beginOffsets
    endOffsets := runThreads (fun thread =>
      (offset (fun batch => (batch + 1) * yoloFaceAnchorCount) thread).map fun v => (thread, v))
      threads w.endOffsets }

/-- The pairs of a segment. -/
def segment (batch : Nat) : List (WithBot K × Nat) :=
  (List.range' (w.beginOffsets batch) (w.endOffsets batch - w.beginOffsets batch)).map
    fun address => (w.scoresIn address, w.indicesIn address)

def sortSegment (sort : SegmentSort K) (batch : Nat) : YoloWorkspace K :=
  let sorted := sort (w.segment batch)
  { w with
    scoresOut := storeList w.scoresOut (w.beginOffsets batch) (sorted.map Prod.fst)
    indicesOut := storeList w.indicesOut (w.beginOffsets batch) (sorted.map Prod.snd) }

/-- `DeviceSegmentedRadixSort::SortPairsDescending` -/
def sortPairsDescending (sort : SegmentSort K) (batchSize : Nat) : YoloWorkspace K :=
  (List.range batchSize).foldl (fun w batch => w.sortSegment sort batch) w

/-- What the last two kernels read. -/
def sorted : SortedCandidates (FaceCandidate K) K where
  candidates address := { w.boxes address with score := w.candidateScores address }
  sortedScores := w.scoresOut
  sortedIndices := w.indicesOut

end YoloWorkspace

/-! ## The launch -/

/-- The orders in which the threads and the images come. -/
structure LaunchOrder where
  decodeThreads : List Nat
  segmentThreads : List Nat
  nmsThreads : List NmsThread
  images : List Nat

/-- So many blocks of 256 threads as are needed. -/
def launchedThreads (count : Nat) : List Nat := List.range ((count + 255) / 256 * 256)

/-- The grids of the launches. -/
structure LaunchOrder.Complete (order : LaunchOrder) (batchSize : Nat) : Prop where
  decodeThreads : order.decodeThreads.Perm (launchedThreads (batchSize * yoloFaceAnchorCount))
  segmentThreads : order.segmentThreads.Perm (launchedThreads batchSize)
  nmsThreads : order.nmsThreads.Perm (nmsGrid batchSize)
  images : order.images.Perm (List.range batchSize)

section Launch

variable [LinearOrder K] (config : DetectorConfig K)

/-- `intersection_over_union` -/
def intersectionOverUnion (left right : FaceBox K) : K :=
  let a := config.arithmetic
  let zero := a.ofNat 0
  let intersectionWidth := max zero (a.sub (min left.x2 right.x2) (max left.x1 right.x1))
  let intersectionHeight := max zero (a.sub (min left.y2 right.y2) (max left.y1 right.y1))
  let intersection := a.mul intersectionWidth intersectionHeight
  let leftArea := a.mul (max zero (a.sub left.x2 left.x1)) (max zero (a.sub left.y2 left.y1))
  let rightArea := a.mul (max zero (a.sub right.x2 right.x1)) (max zero (a.sub right.y2 right.y1))
  let unionArea := a.sub (a.add leftArea rightArea) intersection
  if zero < unionArea then a.div intersection unionArea else zero

def overlapping (left right : FaceCandidate K) : Bool :=
  decide (config.iouThreshold < intersectionOverUnion config left.toFaceBox right.toFaceBox)

/-- The workspace before the suppression. -/
def prepare (sort : SegmentSort K) (heads : YoloHeads K) (batchSize : Nat) (order : LaunchOrder)
    (workspace : YoloWorkspace K) : YoloWorkspace K :=
  ((workspace.decode config heads batchSize order.decodeThreads).initializeSegments batchSize
    order.segmentThreads).sortPairsDescending sort batchSize

/-- `launch_yolo_face_postprocess`, after its checks -/
def launchYoloFacePostprocess (sort : SegmentSort K) (heads : YoloHeads K) (batchSize : Nat)
    (order : LaunchOrder) (workspace : YoloWorkspace K)
    (output : YoloFaceOutput (FaceCandidate K)) : YoloFaceOutput (FaceCandidate K) :=
  let prepared := prepare config sort heads batchSize order workspace
  postprocess prepared.sorted (overlapping config) config.confidenceThreshold batchSize
    order.nmsThreads order.images prepared.masks output

/-! ## The faces of one image -/

/-- The candidate of an anchor. -/
def candidateOf (image : Nat → Nat → K) (globalAnchor : Nat) : FaceCandidate K :=
  { candidateBox config (anchorGrid globalAnchor) (image globalAnchor) with
    score := candidateScore config (image globalAnchor) }

/-- The anchors of an image with their scores. -/
def anchorsOf (image : Nat → Nat → K) : List (WithBot K × Nat) :=
  (List.range yoloFaceAnchorCount).map fun globalAnchor =>
    (candidateScore config (image globalAnchor), globalAnchor)

/-- The best anchors of an image, without those that are rejected. -/
def bestAnchors (sort : SegmentSort K) (image : Nat → Nat → K) : List (WithBot K × Nat) :=
  ((sort (anchorsOf config image)).take yoloFacePreNmsTopK).takeWhile fun item =>
    decide ((config.confidenceThreshold : WithBot K) ≤ item.1)

/-- The faces of an image, by itself. -/
def detectFaces (sort : SegmentSort K) (image : Nat → Nat → K) : List (FaceCandidate K) :=
  greedy (overlapping config) config.confidenceThreshold []
    ((bestAnchors config sort image).map fun item => (candidateOf config image item.2, item.1))

end Launch

/-! ## Decoding and sorting -/

section Prepare

variable [LinearOrder K] {config : DetectorConfig K} {sort : SegmentSort K} {heads : YoloHeads K}
  {batchSize batch : Nat} {order : LaunchOrder}

theorem mem_launchedThreads {count thread : Nat} (h : thread < count) :
    thread ∈ launchedThreads count := by
  unfold launchedThreads
  rw [List.mem_range]
  omega

theorem address_lt {globalAnchor : Nat} (hbatch : batch < batchSize)
    (hanchor : globalAnchor < yoloFaceAnchorCount) :
    batch * yoloFaceAnchorCount + globalAnchor < batchSize * yoloFaceAnchorCount := by
  have hle : (batch + 1) * yoloFaceAnchorCount ≤ batchSize * yoloFaceAnchorCount :=
    Nat.mul_le_mul_right _ hbatch
  rw [Nat.succ_mul] at hle
  omega

/-- The thread of an anchor. -/
theorem decodeKernel_address {globalAnchor : Nat} (hbatch : batch < batchSize)
    (hanchor : globalAnchor < yoloFaceAnchorCount) :
    decodeKernel config heads batchSize (batch * yoloFaceAnchorCount + globalAnchor) =
      some {
        score := candidateScore config (heads.image batch globalAnchor)
        box :=
          if classScore config (heads.image batch globalAnchor) < config.confidenceThreshold then
            none
          else some (candidateBox config (anchorGrid globalAnchor) (heads.image batch globalAnchor))
        globalAnchor := globalAnchor } := by
  have hpos : 0 < yoloFaceAnchorCount := by decide
  have hdiv : (batch * yoloFaceAnchorCount + globalAnchor) / yoloFaceAnchorCount = batch := by
    rw [Nat.add_comm, Nat.add_mul_div_right _ _ hpos, Nat.div_eq_of_lt hanchor, Nat.zero_add]
  have hmod : (batch * yoloFaceAnchorCount + globalAnchor) % yoloFaceAnchorCount = globalAnchor := by
    rw [Nat.add_comm, Nat.add_mul_mod_self_right, Nat.mod_eq_of_lt hanchor]
  unfold decodeKernel
  rw [if_neg (not_le.mpr (address_lt hbatch hanchor)), hdiv, hmod, anchorGrid_eq heads]

/-- What the sort finds of an anchor, and what is written of it. -/
structure Decoded (config : DetectorConfig K) (heads : YoloHeads K) (batch globalAnchor : Nat)
    (w : YoloWorkspace K) : Prop where
  scoreIn : w.scoresIn (batch * yoloFaceAnchorCount + globalAnchor) =
    candidateScore config (heads.image batch globalAnchor)
  indexIn : w.indicesIn (batch * yoloFaceAnchorCount + globalAnchor) = globalAnchor
  score : w.candidateScores (batch * yoloFaceAnchorCount + globalAnchor) =
    candidateScore config (heads.image batch globalAnchor)
  box : ¬ classScore config (heads.image batch globalAnchor) < config.confidenceThreshold →
    w.boxes (batch * yoloFaceAnchorCount + globalAnchor) =
      candidateBox config (anchorGrid globalAnchor) (heads.image batch globalAnchor)

theorem decoded_decode (horder : order.Complete batchSize) (w : YoloWorkspace K)
    {globalAnchor : Nat} (hbatch : batch < batchSize)
    (hanchor : globalAnchor < yoloFaceAnchorCount) :
    Decoded config heads batch globalAnchor
      (w.decode config heads batchSize order.decodeThreads) := by
  have hmem : batch * yoloFaceAnchorCount + globalAnchor ∈ order.decodeThreads :=
    horder.decodeThreads.mem_iff.mpr (mem_launchedThreads (address_lt hbatch hanchor))
  have hkernel := @decodeKernel_address K _ config heads batchSize batch globalAnchor hbatch hanchor
  refine ⟨?_, ?_, ?_, fun haccepted => ?_⟩
  · exact runThreads_own hmem (by rw [hkernel]; rfl)
  · exact runThreads_own hmem (by rw [hkernel]; rfl)
  · exact runThreads_own hmem (by rw [hkernel]; rfl)
  · exact runThreads_own hmem (by rw [hkernel, Option.bind_some, if_neg haccepted])

omit [LinearOrder K] in
theorem offsets_initialized (horder : order.Complete batchSize) (w : YoloWorkspace K)
    (hbatch : batch < batchSize) :
    (w.initializeSegments batchSize order.segmentThreads).beginOffsets batch =
        batch * yoloFaceAnchorCount ∧
      (w.initializeSegments batchSize order.segmentThreads).endOffsets batch =
        (batch + 1) * yoloFaceAnchorCount := by
  have hmem : batch ∈ order.segmentThreads :=
    horder.segmentThreads.mem_iff.mpr (mem_launchedThreads hbatch)
  exact ⟨runThreads_own hmem (if_pos hbatch), runThreads_own hmem (if_pos hbatch)⟩

/-- The workspace holds each image in a segment of its own. -/
structure Segmented (config : DetectorConfig K) (heads : YoloHeads K) (batchSize : Nat)
    (w : YoloWorkspace K) : Prop where
  decoded : ∀ batch < batchSize, ∀ globalAnchor < yoloFaceAnchorCount,
    Decoded config heads batch globalAnchor w
  beginOffsets : ∀ batch < batchSize, w.beginOffsets batch = batch * yoloFaceAnchorCount
  endOffsets : ∀ batch < batchSize, w.endOffsets batch = (batch + 1) * yoloFaceAnchorCount

theorem segmented_initialize (horder : order.Complete batchSize) (w : YoloWorkspace K) :
    Segmented config heads batchSize
      ((w.decode config heads batchSize order.decodeThreads).initializeSegments batchSize
        order.segmentThreads) where
  decoded _ hbatch _ hanchor :=
    let h := decoded_decode horder w hbatch hanchor
    ⟨h.scoreIn, h.indexIn, h.score, h.box⟩
  beginOffsets _ hbatch := (offsets_initialized horder _ hbatch).1
  endOffsets _ hbatch := (offsets_initialized horder _ hbatch).2

theorem Segmented.segment_eq {w : YoloWorkspace K} (h : Segmented config heads batchSize w)
    (hbatch : batch < batchSize) : w.segment batch = anchorsOf config (heads.image batch) := by
  unfold YoloWorkspace.segment anchorsOf
  have hlength : (batch + 1) * yoloFaceAnchorCount - batch * yoloFaceAnchorCount =
      yoloFaceAnchorCount := by
    rw [Nat.succ_mul]
    omega
  rw [h.beginOffsets batch hbatch, h.endOffsets batch hbatch, hlength, List.range'_eq_map_range,
    List.map_map]
  apply List.map_congr_left
  intro globalAnchor hanchor
  have hdecoded := h.decoded batch hbatch globalAnchor (List.mem_range.mp hanchor)
  show (w.scoresIn _, w.indicesIn _) = _
  rw [hdecoded.scoreIn, hdecoded.indexIn]

/-- The sorted anchors of an image are in its segment. -/
structure SortedImage (config : DetectorConfig K) (sort : SegmentSort K) (heads : YoloHeads K)
    (batch : Nat) (w : YoloWorkspace K) : Prop where
  scoresOut : ∀ (row : Nat) (h : row < (sort (anchorsOf config (heads.image batch))).length),
    w.scoresOut (batch * yoloFaceAnchorCount + row) =
      (sort (anchorsOf config (heads.image batch)))[row].1
  indicesOut : ∀ (row : Nat) (h : row < (sort (anchorsOf config (heads.image batch))).length),
    w.indicesOut (batch * yoloFaceAnchorCount + row) =
      (sort (anchorsOf config (heads.image batch)))[row].2

theorem length_sorted (hsort : sort.Descends) (image : Nat → Nat → K) :
    (sort (anchorsOf config image)).length = yoloFaceAnchorCount := by
  rw [(hsort _).1.length_eq]
  unfold anchorsOf
  rw [List.length_map, List.length_range]

theorem Segmented.sortSegment {w : YoloWorkspace K} (h : Segmented config heads batchSize w)
    (other : Nat) : Segmented config heads batchSize (w.sortSegment sort other) where
  decoded batch hbatch globalAnchor hanchor :=
    let h := h.decoded batch hbatch globalAnchor hanchor
    ⟨h.scoreIn, h.indexIn, h.score, h.box⟩
  beginOffsets := h.beginOffsets
  endOffsets := h.endOffsets

theorem Segmented.sorted_self {w : YoloWorkspace K} (h : Segmented config heads batchSize w)
    (hbatch : batch < batchSize) : SortedImage config sort heads batch (w.sortSegment sort batch) := by
  have hstart := h.beginOffsets batch hbatch
  have hsegment := h.segment_eq hbatch
  constructor
  · intro row hrow
    show storeList _ (w.beginOffsets batch) ((sort (w.segment batch)).map Prod.fst) _ = _
    rw [hstart, hsegment, storeList_of_lt (by rwa [List.length_map]), List.getElem_map]
  · intro row hrow
    show storeList _ (w.beginOffsets batch) ((sort (w.segment batch)).map Prod.snd) _ = _
    rw [hstart, hsegment, storeList_of_lt (by rwa [List.length_map]), List.getElem_map]

/-- Another segment lies before or behind. -/
theorem Segmented.sorted_other {w : YoloWorkspace K} (h : Segmented config heads batchSize w)
    (hsort : sort.Descends) {other : Nat} (hother : other < batchSize) (hne : other ≠ batch)
    (hsorted : SortedImage config sort heads batch w) :
    SortedImage config sort heads batch (w.sortSegment sort other) := by
  have hstart := h.beginOffsets other hother
  have hsegment := h.segment_eq hother
  have hlength := @length_sorted K _ config sort hsort
  have hapart : ∀ row, row < yoloFaceAnchorCount →
      batch * yoloFaceAnchorCount + row < other * yoloFaceAnchorCount ∨
        other * yoloFaceAnchorCount + yoloFaceAnchorCount ≤ batch * yoloFaceAnchorCount + row := by
    intro row hrow
    unfold yoloFaceAnchorCount at hrow ⊢
    omega
  constructor
  · intro row hrow
    show storeList _ (w.beginOffsets other) ((sort (w.segment other)).map Prod.fst) _ = _
    rw [hstart, hsegment, storeList_other]
    · exact hsorted.scoresOut row hrow
    · rw [List.length_map, hlength]
      exact hapart row (hlength _ ▸ hrow)
  · intro row hrow
    show storeList _ (w.beginOffsets other) ((sort (w.segment other)).map Prod.snd) _ = _
    rw [hstart, hsegment, storeList_other]
    · exact hsorted.indicesOut row hrow
    · rw [List.length_map, hlength]
      exact hapart row (hlength _ ▸ hrow)

/-- The sort goes through the images; those that it has been to are sorted. -/
theorem sorted_foldl (hsort : sort.Descends) {w : YoloWorkspace K}
    (h : Segmented config heads batchSize w) {count : Nat} (hcount : count ≤ batchSize) :
    Segmented config heads batchSize (w.sortPairsDescending sort count) ∧
      ∀ batch < count, SortedImage config sort heads batch (w.sortPairsDescending sort count) := by
  induction count with
  | zero => exact ⟨h, fun _ hlt => absurd hlt (Nat.not_lt_zero _)⟩
  | succ count ih =>
      obtain ⟨hsegmented, hsorted⟩ := ih (by omega)
      have hstep : w.sortPairsDescending sort (count + 1) =
          (w.sortPairsDescending sort count).sortSegment sort count := by
        unfold YoloWorkspace.sortPairsDescending
        rw [List.range_succ, List.foldl_append]
        rfl
      rw [hstep]
      refine ⟨hsegmented.sortSegment count, fun batch hbatch => ?_⟩
      by_cases hlast : batch = count
      · subst hlast
        exact hsegmented.sorted_self hcount
      · exact hsegmented.sorted_other hsort (by omega) (Ne.symm hlast) (hsorted batch (by omega))

end Prepare

/-! ## The rows of an image -/

section Scan

variable {C : Type} [LinearOrder K] {overlaps : C → C → Bool} {confidenceThreshold : K}

/-- The scan reads nothing behind the first score below the threshold. -/
theorem greedy_takeWhile (kept : List C) (items : List (C × WithBot K)) :
    greedy overlaps confidenceThreshold kept (items.takeWhile fun item =>
      decide ((confidenceThreshold : WithBot K) ≤ item.2)) =
        greedy overlaps confidenceThreshold kept items := by
  induction items generalizing kept with
  | nil => rfl
  | cons item items ih =>
      obtain ⟨candidate, score⟩ := item
      rw [List.takeWhile_cons]
      by_cases hscore : (confidenceThreshold : WithBot K) ≤ score
      · rw [if_pos (decide_eq_true hscore)]
        unfold greedy
        rw [ih, ih]
      · rw [if_neg (by simpa using hscore)]
        unfold greedy
        rw [if_pos (not_le.mp hscore), ite_self]

end Scan

section Image

variable [LinearOrder K] {config : DetectorConfig K} {sort : SegmentSort K} {heads : YoloHeads K}
  {batchSize batch : Nat} {w : YoloWorkspace K}

/-- The candidates of an image, in the order of the sort. -/
theorem image_sorted (hsort : sort.Descends) (hsorted : SortedImage config sort heads batch w) :
    w.sorted.image batch =
      ((sort (anchorsOf config (heads.image batch))).take yoloFacePreNmsTopK).map fun item =>
        (w.sorted.candidates (batch * yoloFaceAnchorCount + item.2), item.1) := by
  have hlength := @length_sorted K _ config sort hsort (heads.image batch)
  have hfew : yoloFacePreNmsTopK ≤ yoloFaceAnchorCount := by decide
  unfold SortedCandidates.image
  apply List.ext_getElem
  · rw [List.length_map, List.length_range, List.length_map, List.length_take, hlength,
      Nat.min_eq_left hfew]
  · intro row hrow hrow'
    rw [List.length_map, List.length_range] at hrow
    have hin : row < (sort (anchorsOf config (heads.image batch))).length := by
      rw [hlength]
      omega
    rw [List.getElem_map, List.getElem_range, List.getElem_map, List.getElem_take]
    show (w.sorted.candidates (batch * yoloFaceAnchorCount + w.indicesOut _), w.scoresOut _) = _
    rw [hsorted.scoresOut row hin, hsorted.indicesOut row hin]

/-- An anchor that is not rejected has the candidate of its image, whatever was there before. -/
theorem candidates_eq (hsegmented : Segmented config heads batchSize w) (hbatch : batch < batchSize)
    (hsort : sort.Descends) {item : WithBot K × Nat}
    (hitem : item ∈ sort (anchorsOf config (heads.image batch)))
    (hscore : (config.confidenceThreshold : WithBot K) ≤ item.1) :
    w.sorted.candidates (batch * yoloFaceAnchorCount + item.2) =
      candidateOf config (heads.image batch) item.2 := by
  obtain ⟨globalAnchor, hanchor, rfl⟩ := List.mem_map.mp ((hsort _).1.mem_iff.mp hitem)
  have hdecoded := hsegmented.decoded batch hbatch globalAnchor (List.mem_range.mp hanchor)
  have haccepted :
      ¬ classScore config (heads.image batch globalAnchor) < config.confidenceThreshold := by
    intro hrejected
    have hbot : candidateScore config (heads.image batch globalAnchor) = ⊥ := if_pos hrejected
    rw [hbot] at hscore
    exact absurd (WithBot.bot_lt_coe _) (not_lt.mpr hscore)
  show { w.boxes _ with score := w.candidateScores _ : FaceCandidate K } = _
  rw [hdecoded.box haccepted, hdecoded.score]
  rfl

/-- The scan of the rows of an image finds its faces. -/
theorem greedy_image (hsegmented : Segmented config heads batchSize w) (hbatch : batch < batchSize)
    (hsort : sort.Descends) (hsorted : SortedImage config sort heads batch w) :
    greedy (overlapping config) config.confidenceThreshold [] (w.sorted.image batch) =
      detectFaces config sort (heads.image batch) := by
  unfold detectFaces bestAnchors
  rw [← greedy_takeWhile, image_sorted hsort hsorted, List.takeWhile_map]
  congr 1
  apply List.map_congr_left
  intro item hitem
  have hscore := List.mem_takeWhile_imp hitem
  have hmem := List.mem_of_mem_take ((List.takeWhile_sublist _).mem hitem)
  rw [candidates_eq hsegmented hbatch hsort hmem (of_decide_eq_true hscore)]

end Image

/-- Whatever the workspace and the output held before, and in whatever order threads and images
come: the faces of an image are those that are found in it by itself. -/
theorem launch_eq_detectFaces [LinearOrder K] (config : DetectorConfig K) {sort : SegmentSort K}
    (hsort : sort.Descends) (heads : YoloHeads K) {batchSize : Nat} {order : LaunchOrder}
    (horder : order.Complete batchSize) (workspace : YoloWorkspace K)
    (output : YoloFaceOutput (FaceCandidate K)) {batch : Nat} (hbatch : batch < batchSize) :
    (launchYoloFacePostprocess config sort heads batchSize order workspace output).image batch =
      detectFaces config sort (heads.image batch) := by
  have hsegments : Segmented config heads batchSize _ := segmented_initialize horder workspace
  obtain ⟨hsegmented, hsorted⟩ := sorted_foldl hsort hsegments le_rfl
  rw [← greedy_image hsegmented hbatch hsort (hsorted batch hbatch)]
  have hmasks : ∀ other < batchSize, MasksOf
      (prepare config sort heads batchSize order workspace).sorted (overlapping config) other
      (runThreads (nmsMaskKernel (prepare config sort heads batchSize order workspace).sorted
        (overlapping config) batchSize) order.nmsThreads
        (prepare config sort heads batchSize order workspace).masks) := by
    intro other hother row word hrow hle hword
    exact runThreads_maskAddress horder.nmsThreads _ hother hrow hle hword
  refine (selected_images hmasks (fun other hother => ?_) hbatch (.inl ?_)).1
  · exact List.mem_range.mp (horder.images.mem_iff.mp hother)
  · exact horder.images.mem_iff.mpr (List.mem_range.mpr hbatch)

/-- The arithmetic of the real numbers. -/
noncomputable def realKernel : KernelArithmetic ℝ where
  ofNat n := n
  half := (1 + 1)⁻¹
  add := (· + ·)
  sub := (· - ·)
  mul := (· * ·)
  div := (· / ·)
  neg x := -x
  exp := Real.exp

noncomputable def realDetector : DetectorConfig ℝ := ⟨realKernel, 1 / 4, 9 / 20⟩

/-- The better of two anchors, or one of two that are equal. -/
def Better (a b : WithBot ℝ × Nat) : Prop := b.1 ≤ a.1

instance betterTotal : Std.Total Better := ⟨fun a b => le_total b.1 a.1⟩

instance betterTrans : IsTrans (WithBot ℝ × Nat) Better := ⟨fun _ _ _ h h' => le_trans h' h⟩

noncomputable instance decidableBetter : DecidableRel Better :=
  fun a b => inferInstanceAs (Decidable (b.1 ≤ a.1))

/-- A stable sort. -/
noncomputable def insertionSegmentSort : SegmentSort ℝ := fun items => items.insertionSort Better

theorem descends_insertionSegmentSort : insertionSegmentSort.Descends := fun items =>
  ⟨List.perm_insertionSort Better items, List.pairwise_insertionSort Better items⟩

def plainOrder (batchSize : Nat) : LaunchOrder where
  decodeThreads := launchedThreads (batchSize * yoloFaceAnchorCount)
  segmentThreads := launchedThreads batchSize
  nmsThreads := nmsGrid batchSize
  images := List.range batchSize

theorem complete_plainOrder (batchSize : Nat) : (plainOrder batchSize).Complete batchSize :=
  ⟨List.Perm.refl _, List.Perm.refl _, List.Perm.refl _, List.Perm.refl _⟩

/-- A workspace and an output that have been used, and a batch of two images. -/
noncomputable def usedWorkspace : YoloWorkspace ℝ where
  boxes _ := ⟨9, 9, 9, 9, []⟩
  candidateScores _ := (9 : ℝ)
  scoresIn _ := (9 : ℝ)
  scoresOut _ := (9 : ℝ)
  indicesIn _ := 9
  indicesOut _ := 9
  beginOffsets _ := 9
  endOffsets _ := 9
  masks _ := BitVec.allOnes 64

noncomputable def usedOutput : YoloFaceOutput (FaceCandidate ℝ) where
  numDetections _ := 7
  detections _ := { x1 := 9, y1 := 9, x2 := 9, y2 := 9, landmarksXy := [], score := (9 : ℝ) }

def twoImages : YoloHeads ℝ := ⟨fun _ => 0, fun _ => 1, fun _ => -1⟩

theorem launch_twoImages :
    (launchYoloFacePostprocess realDetector insertionSegmentSort twoImages 2 (plainOrder 2)
      usedWorkspace usedOutput).image 1 =
        detectFaces realDetector insertionSegmentSort (twoImages.image 1) :=
  launch_eq_detectFaces realDetector descends_insertionSegmentSort twoImages
    (complete_plainOrder 2) usedWorkspace usedOutput (Nat.lt_succ_self 1)

/-! ## What is found -/

section Found

variable {C : Type} [LinearOrder K] {overlaps : C → C → Bool} {confidenceThreshold : K}

/-- The scan adds some of the candidates, in their order. -/
theorem greedy_eq_append (overlaps : C → C → Bool) (confidenceThreshold : K) (kept : List C)
    (items : List (C × WithBot K)) :
    ∃ added, greedy overlaps confidenceThreshold kept items = kept ++ added ∧
      added.Sublist (items.map Prod.fst) := by
  induction items generalizing kept with
  | nil => exact ⟨[], (List.append_nil kept).symm, List.nil_sublist _⟩
  | cons item items ih =>
      obtain ⟨candidate, score⟩ := item
      unfold greedy
      split
      · exact ⟨[], (List.append_nil kept).symm, List.nil_sublist _⟩
      split
      · exact ⟨[], (List.append_nil kept).symm, List.nil_sublist _⟩
      split
      · obtain ⟨added, heq, hsub⟩ := ih kept
        exact ⟨added, heq, hsub.cons candidate⟩
      · obtain ⟨added, heq, hsub⟩ := ih (kept ++ [candidate])
        refine ⟨candidate :: added, ?_, hsub.cons_cons candidate⟩
        rw [heq, List.append_assoc]
        rfl

theorem length_greedy {kept : List C} (h : kept.length ≤ yoloFaceMaxDetections)
    (items : List (C × WithBot K)) :
    (greedy overlaps confidenceThreshold kept items).length ≤ yoloFaceMaxDetections := by
  induction items generalizing kept with
  | nil => exact h
  | cons item items ih =>
      obtain ⟨candidate, score⟩ := item
      unfold greedy
      split
      · exact h
      rename_i hfew
      split
      · exact h
      split
      · exact ih h
      · refine ih ?_
        rw [List.length_append, List.length_singleton]
        exact not_not.mp hfew

/-- No candidate that is kept overlaps a later one. -/
theorem pairwise_greedy {kept : List C} (h : kept.Pairwise fun a b => overlaps a b = false)
    (items : List (C × WithBot K)) :
    (greedy overlaps confidenceThreshold kept items).Pairwise fun a b => overlaps a b = false := by
  induction items generalizing kept with
  | nil => exact h
  | cons item items ih =>
      obtain ⟨candidate, score⟩ := item
      unfold greedy
      split
      · exact h
      split
      · exact h
      split
      · exact ih h
      · rename_i hnone
        refine ih (List.pairwise_append.mpr ⟨h, List.pairwise_singleton _ _, ?_⟩)
        intro a ha b hb
        obtain rfl := List.mem_singleton.mp hb
        rw [List.any_eq_true] at hnone
        push Not at hnone
        exact Bool.eq_false_iff.mpr (hnone a ha)

/-- A candidate is kept or overlapped by one that is, unless enough are kept. -/
theorem greedy_complete {kept : List C} {items : List (C × WithBot K)}
    (hscores : ∀ item ∈ items, (confidenceThreshold : WithBot K) ≤ item.2) :
    ∀ item ∈ items,
      yoloFaceMaxDetections ≤ (greedy overlaps confidenceThreshold kept items).length ∨
        item.1 ∈ greedy overlaps confidenceThreshold kept items ∨
        ∃ earlier ∈ greedy overlaps confidenceThreshold kept items,
          overlaps earlier item.1 = true := by
  induction items generalizing kept with
  | nil => exact List.forall_mem_nil _
  | cons item items ih =>
      obtain ⟨candidate, score⟩ := item
      obtain ⟨hscore, hrest⟩ := List.forall_mem_cons.mp hscores
      unfold greedy
      split
      · rename_i hmany
        exact fun _ _ => .inl (not_lt.mp hmany)
      split
      · rename_i hlow
        exact absurd hlow (not_lt.mpr hscore)
      split
      · rename_i hoverlap
        refine List.forall_mem_cons.mpr ⟨.inr (.inr ?_), ih hrest⟩
        obtain ⟨earlier, hmem, hearlier⟩ := List.any_eq_true.mp hoverlap
        obtain ⟨added, heq, -⟩ := greedy_eq_append overlaps confidenceThreshold kept items
        refine ⟨earlier, ?_, hearlier⟩
        rw [heq]
        exact List.mem_append_left _ hmem
      · refine List.forall_mem_cons.mpr ⟨.inr (.inl ?_), ih hrest⟩
        obtain ⟨added, heq, -⟩ := greedy_eq_append overlaps confidenceThreshold
          (kept ++ [candidate]) items
        rw [heq]
        exact List.mem_append_left _ (List.mem_append_right _ (List.mem_singleton.mpr rfl))

end Found

section Sound

variable [LinearOrder K] {config : DetectorConfig K} {sort : SegmentSort K}
  {image : Nat → Nat → K}

/-- The best anchors are anchors of the image that are good enough. -/
theorem mem_bestAnchors (hsort : sort.Descends) {item : WithBot K × Nat}
    (h : item ∈ bestAnchors config sort image) :
    item.2 < yoloFaceAnchorCount ∧ item.1 = (candidateOf config image item.2).score ∧
      (config.confidenceThreshold : WithBot K) ≤ item.1 := by
  have hscore := List.mem_takeWhile_imp h
  have hmem := List.mem_of_mem_take ((List.takeWhile_sublist _).mem h)
  obtain ⟨globalAnchor, hanchor, rfl⟩ := List.mem_map.mp ((hsort _).1.mem_iff.mp hmem)
  exact ⟨List.mem_range.mp hanchor, rfl, of_decide_eq_true hscore⟩

/-- The faces are candidates of the best anchors, in their order. -/
theorem detectFaces_sublist (config : DetectorConfig K) (sort : SegmentSort K)
    (image : Nat → Nat → K) :
    (detectFaces config sort image).Sublist
      ((bestAnchors config sort image).map fun item => candidateOf config image item.2) := by
  obtain ⟨added, heq, hsub⟩ := greedy_eq_append (overlapping config) config.confidenceThreshold []
    ((bestAnchors config sort image).map fun item => (candidateOf config image item.2, item.1))
  rw [List.map_map] at hsub
  unfold detectFaces
  rw [heq, List.nil_append]
  exact hsub

theorem pairwise_score (hsort : sort.Descends) :
    (detectFaces config sort image).Pairwise fun a b => b.score ≤ a.score := by
  have hbest : (bestAnchors config sort image).Pairwise fun a b => b.1 ≤ a.1 :=
    (hsort _).2.sublist ((List.takeWhile_sublist _).trans (List.take_sublist _ _))
  refine List.Pairwise.sublist (detectFaces_sublist config sort image) (List.pairwise_map.mpr ?_)
  refine hbest.imp_of_mem fun {a b} ha hb hle => ?_
  rwa [← (mem_bestAnchors hsort ha).2.1, ← (mem_bestAnchors hsort hb).2.1]

/-- An image with an anchor that reaches the threshold has a best one that does. -/
theorem bestAnchors_ne_nil (hsort : sort.Descends) {globalAnchor : Nat}
    (hanchor : globalAnchor < yoloFaceAnchorCount)
    (hgood : config.confidenceThreshold ≤ classScore config (image globalAnchor)) :
    bestAnchors config sort image ≠ [] := by
  obtain ⟨hperm, hdescends⟩ := hsort (anchorsOf config image)
  have hmem : (candidateScore config (image globalAnchor), globalAnchor) ∈
      sort (anchorsOf config image) :=
    hperm.mem_iff.mpr (List.mem_map.mpr ⟨globalAnchor, List.mem_range.mpr hanchor, rfl⟩)
  have hscore : candidateScore config (image globalAnchor) =
      ((classScore config (image globalAnchor) : K) : WithBot K) := if_neg (not_lt.mpr hgood)
  unfold bestAnchors
  cases hsorted : sort (anchorsOf config image) with
  | nil =>
      rw [hsorted] at hmem
      cases hmem
  | cons first rest =>
      rw [hsorted] at hmem hdescends
      have hfirst : (config.confidenceThreshold : WithBot K) ≤ first.1 := by
        refine (WithBot.coe_le_coe.mpr hgood).trans ?_
        rw [← hscore]
        rcases List.mem_cons.mp hmem with rfl | hrest
        · exact le_rfl
        · exact (List.pairwise_cons.mp hdescends).1 _ hrest
      intro hnil
      have htake : yoloFacePreNmsTopK = 1023 + 1 := rfl
      rw [htake, List.take_succ_cons, List.takeWhile_cons, if_pos (decide_eq_true hfirst)] at hnil
      cases hnil

end Sound

/-- The faces of an image are at most as many as fit the output, good enough and the best ones
first, and no two of them overlap.  A good anchor among the best is one of them or overlapped by
one, unless the output is full. -/
theorem detectFaces_sound [LinearOrder K] (config : DetectorConfig K) {sort : SegmentSort K}
    (hsort : sort.Descends) (image : Nat → Nat → K) :
    (detectFaces config sort image).length ≤ yoloFaceMaxDetections ∧
      (detectFaces config sort image).Pairwise (fun a b =>
        b.score ≤ a.score ∧ overlapping config a b = false) ∧
      (∀ face ∈ detectFaces config sort image,
        (config.confidenceThreshold : WithBot K) ≤ face.score ∧
        ∃ globalAnchor < yoloFaceAnchorCount, face = candidateOf config image globalAnchor) ∧
      ∀ item ∈ bestAnchors config sort image,
        yoloFaceMaxDetections ≤ (detectFaces config sort image).length ∨
          candidateOf config image item.2 ∈ detectFaces config sort image ∨
          ∃ face ∈ detectFaces config sort image,
            overlapping config face (candidateOf config image item.2) = true := by
  refine ⟨length_greedy (Nat.zero_le _) _, ?_, ?_, ?_⟩
  · exact List.pairwise_and_iff.mpr ⟨pairwise_score hsort, pairwise_greedy .nil _⟩
  · intro face hface
    obtain ⟨item, hitem, rfl⟩ := List.mem_map.mp ((detectFaces_sublist config sort image).mem hface)
    obtain ⟨hanchor, hscore, hgood⟩ := mem_bestAnchors hsort hitem
    exact ⟨hscore ▸ hgood, item.2, hanchor, rfl⟩
  · intro item hitem
    have hscores : ∀ entry ∈ (bestAnchors config sort image).map fun item =>
        (candidateOf config image item.2, item.1),
        (config.confidenceThreshold : WithBot K) ≤ entry.2 :=
      List.forall_mem_map.mpr fun item hitem => (mem_bestAnchors hsort hitem).2.2
    exact greedy_complete hscores _ (List.mem_map.mpr ⟨item, hitem, rfl⟩)

/-- A face is found in an image with an anchor that reaches the threshold. -/
theorem detectFaces_ne_nil [LinearOrder K] {config : DetectorConfig K} {sort : SegmentSort K}
    {image : Nat → Nat → K} (hsort : sort.Descends) {globalAnchor : Nat}
    (hanchor : globalAnchor < yoloFaceAnchorCount)
    (hgood : config.confidenceThreshold ≤ classScore config (image globalAnchor)) :
    detectFaces config sort image ≠ [] := by
  obtain ⟨item, rest, hbest⟩ :=
    List.exists_cons_of_ne_nil (bestAnchors_ne_nil hsort hanchor hgood)
  have hscores : ∀ entry ∈ (bestAnchors config sort image).map fun item =>
      (candidateOf config image item.2, item.1),
      (config.confidenceThreshold : WithBot K) ≤ entry.2 :=
    List.forall_mem_map.mpr fun item hitem => (mem_bestAnchors hsort hitem).2.2
  intro hnil
  have hitem : (candidateOf config image item.2, item.1) ∈ (bestAnchors config sort image).map
      fun item => (candidateOf config image item.2, item.1) :=
    List.mem_map.mpr ⟨item, hbest ▸ List.mem_cons_self, rfl⟩
  have hfound := @greedy_complete _ _ _ (overlapping config) config.confidenceThreshold [] _ hscores
    _ hitem
  unfold detectFaces at hnil
  rw [hnil] at hfound
  rcases hfound with hfull | hmem | ⟨face, hface, -⟩
  · exact absurd hfull (Nat.not_succ_le_zero 99)
  · cases hmem
  · cases hface

/-- The anchors of the middle head of the second image, whose class logits are all one. -/
theorem good_twoImages : realDetector.confidenceThreshold ≤
    classScore realDetector (twoImages.image 1 6400) := by
  have hexp : Real.exp (-1) ≤ 1 := Real.exp_le_one_iff.mpr (by norm_num)
  have hpos : (0 : ℝ) < ((1 : ℕ) : ℝ) + Real.exp (-1) := by positivity
  have hscore : classScore realDetector (twoImages.image 1 6400) =
      ((1 : ℕ) : ℝ) / (((1 : ℕ) : ℝ) + Real.exp (-1)) := rfl
  rw [hscore, le_div_iff₀ hpos]
  show (1 / 4 : ℝ) * _ ≤ _
  push_cast
  linarith

theorem detectFaces_sound_twoImages :
    ∃ best rest, detectFaces realDetector insertionSegmentSort (twoImages.image 1) = best :: rest ∧
      rest.length < yoloFaceMaxDetections ∧
      (∀ face ∈ rest, face.score ≤ best.score ∧ overlapping realDetector best face = false) ∧
      (∃ globalAnchor < yoloFaceAnchorCount,
        best = candidateOf realDetector (twoImages.image 1) globalAnchor) ∧
      ∀ item ∈ bestAnchors realDetector insertionSegmentSort (twoImages.image 1),
        yoloFaceMaxDetections ≤ rest.length + 1 ∨
          candidateOf realDetector (twoImages.image 1) item.2 ∈ best :: rest ∨
          ∃ face ∈ best :: rest, overlapping realDetector face
            (candidateOf realDetector (twoImages.image 1) item.2) = true := by
  obtain ⟨hfew, hpairs, hfaces, hall⟩ := detectFaces_sound realDetector
    descends_insertionSegmentSort (twoImages.image 1)
  obtain ⟨best, rest, heq⟩ := List.exists_cons_of_ne_nil
    (detectFaces_ne_nil descends_insertionSegmentSort (by decide) good_twoImages)
  rw [heq] at hfew hpairs hfaces hall
  exact ⟨best, rest, heq, hfew, (List.pairwise_cons.mp hpairs).1,
    (hfaces best List.mem_cons_self).2, hall⟩

end Mvision.Images
