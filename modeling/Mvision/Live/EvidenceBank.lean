import Mathlib.Data.Prod.Lex
import Mvision.Library.FloatBounds
import Mvision.Library.Machine
import Mvision.Library.Sorting

/-!
# `TrackEvidenceBank`

The best observations of a track, as `live_track_state.cpp` keeps them.  The arithmetic is that
of `float`, and of `double` for the norm of an embedding; `std::sort` is given by its contract.
-/

namespace Mvision.Live.Evidence

open Mvision.Library

/-! ## Quality -/

def kRejectGeometry : Nat := 1 <<< 0
def kRejectLandmarks : Nat := 1 <<< 1
def kRejectEmbedding : Nat := 1 <<< 2
def kRejectSnapshotSize : Nat := 1 <<< 3
def kRejectDetectorConfidence : Nat := 1 <<< 4
def kRejectFaceSize : Nat := 1 <<< 5
def kRejectPose : Nat := 1 <<< 6
def kRejectExposure : Nat := 1 <<< 7
def kRejectSharpness : Nat := 1 <<< 8
def kRejectClipping : Nat := 1 <<< 9

def kMaxAlignedJpegBytes : Nat := 512 * 1024

/-- A `float` literal. -/
def float (q : ℚ) : FloatValue := binary32.round q

structure QualityConfig where
  geometryTolerance : FloatValue := float (5 / 100)
  targetAreaRatio : FloatValue := float (10 / 100)
  minFaceAreaRatio : FloatValue := float (25 / 10000)
  minDetectorConfidence : FloatValue := float (50 / 100)
  minPoseWeight : FloatValue := float (30 / 100)
  minExposureWeight : FloatValue := float (30 / 100)
  minSharpnessWeight : FloatValue := float (30 / 100)
  nearPoseDegrees : FloatValue := float 15
  replacementMargin : FloatValue := float (5 / 100)
  shadowMode : Bool := true
deriving DecidableEq

structure QualityMeasurement where
  faceAreaRatio : FloatValue := .finite 0
  qualityScore : FloatValue := .finite 0
  rejectMask : Nat := 0
  hardReject : Bool := false
  accepted : Bool := false
deriving DecidableEq

structure LiveObservation where
  timestampNs : Nat
  detectionOrdinal : Nat
  frameWidth : Nat
  frameHeight : Nat
  bbox : Vector FloatValue 4
  detectorConfidence : FloatValue
  poseYawDegrees : FloatValue
  poseWeight : FloatValue := float 1
  exposureWeight : FloatValue := float 1
  sharpnessWeight : FloatValue := float 1
  landmarks : Vector FloatValue 10
  landmarkConfidences : Vector FloatValue 5
  embedding : Vector FloatValue 512
  alignedJpeg : List UInt8
  quality : QualityMeasurement := {}
deriving DecidableEq

/-- `clamp_weight` -/
def clampWeight (value : FloatValue) : FloatValue :=
  if value.isFinite then value.clamp (float 0) (float 1) else float 0

/-- `finite_array` -/
def finiteArray {n : Nat} (values : Vector FloatValue n) : Bool :=
  values.toList.all FloatValue.isFinite

/-- `distance` -/
def distance (left right : Nat) : Nat := if right ≤ left then left - right else right - left

section Measure

variable (observation : LiveObservation) (config : QualityConfig)

def frameWidth : FloatValue := binary32.round observation.frameWidth

def frameHeight : FloatValue := binary32.round observation.frameHeight

def xTolerance : FloatValue := binary32.mul (frameWidth observation) config.geometryTolerance

def yTolerance : FloatValue := binary32.mul (frameHeight observation) config.geometryTolerance

def dimensionsValid : Bool :=
  decide (0 < observation.frameWidth) && decide (0 < observation.frameHeight)

def geometryValid : Bool :=
  let x := observation.bbox[0]
  let y := observation.bbox[1]
  let width := observation.bbox[2]
  let height := observation.bbox[3]
  dimensionsValid observation && finiteArray observation.bbox &&
    (float 0).less width && (float 0).less height &&
    (xTolerance observation config).neg.lessEq x && (yTolerance observation config).neg.lessEq y &&
    (binary32.add x width).lessEq
      (binary32.add (frameWidth observation) (xTolerance observation config)) &&
    (binary32.add y height).lessEq
      (binary32.add (frameHeight observation) (yTolerance observation config))

/-- A coordinate of a landmark is within the frame. -/
def within (value tolerance size : FloatValue) : Bool :=
  !(value.less tolerance.neg || (binary32.add size tolerance).less value)

def landmarksValid : Bool :=
  finiteArray observation.landmarks && dimensionsValid observation &&
    (List.finRange 5).all fun landmark =>
      within observation.landmarks[2 * landmark.val] (xTolerance observation config)
          (frameWidth observation) &&
        within observation.landmarks[2 * landmark.val + 1] (yTolerance observation config)
          (frameHeight observation)

/-- The norm of the embedding, in `double`. -/
def embeddingNorm : FloatValue :=
  binary64.sqrt (observation.embedding.toList.foldl
    (fun squaredNorm value => binary64.add squaredNorm (binary64.mul value value)) (.finite 0))

def embeddingValid : Bool :=
  finiteArray observation.embedding &&
    (binary64.round (99 / 100)).lessEq (embeddingNorm observation) &&
    (embeddingNorm observation).lessEq (binary64.round (101 / 100))

def faceAreaRatio : FloatValue :=
  if geometryValid observation config then
    binary32.div (binary32.mul observation.bbox[2] observation.bbox[3])
      (binary32.mul (frameWidth observation) (frameHeight observation))
  else .finite 0

def clipped : Bool :=
  let x := observation.bbox[0]
  let y := observation.bbox[1]
  x.less (float 0) || y.less (float 0) ||
    (frameWidth observation).less (binary32.add x observation.bbox[2]) ||
    (frameHeight observation).less (binary32.add y observation.bbox[3])

/-- The checks that reject an observation in any mode. -/
def hardMask : Nat :=
  (if geometryValid observation config then 0 else kRejectGeometry) |||
    (if landmarksValid observation config then 0 else kRejectLandmarks) |||
    (if embeddingValid observation then 0 else kRejectEmbedding) |||
    (if kMaxAlignedJpegBytes < observation.alignedJpeg.length then kRejectSnapshotSize else 0)

/-- The checks that `shadow_mode` only records. -/
def softMask : Nat :=
  (if geometryValid observation config && clipped observation then kRejectClipping else 0) |||
    (if !observation.detectorConfidence.isFinite ||
        observation.detectorConfidence.less config.minDetectorConfidence then
      kRejectDetectorConfidence else 0) |||
    (if (faceAreaRatio observation config).less config.minFaceAreaRatio then
      kRejectFaceSize else 0) |||
    (if (clampWeight observation.poseWeight).less config.minPoseWeight then
      kRejectPose else 0) |||
    (if (clampWeight observation.exposureWeight).less config.minExposureWeight then
      kRejectExposure else 0) |||
    (if (clampWeight observation.sharpnessWeight).less config.minSharpnessWeight then
      kRejectSharpness else 0)

def areaWeight : FloatValue :=
  if (float 0).less config.targetAreaRatio then
    (binary32.div
      (binary32.sqrt ((float 0).max (faceAreaRatio observation config)))
      config.targetAreaRatio).clamp (float 0) (float 1)
  else float 0

def qualityScore : FloatValue :=
  binary32.mul
    (binary32.mul
      (binary32.mul
        (binary32.mul (clampWeight observation.detectorConfidence)
          (areaWeight observation config))
        (clampWeight observation.poseWeight))
      (clampWeight observation.exposureWeight))
    (clampWeight observation.sharpnessWeight)

/-- `soft_mask`, the bits that are not hard. -/
def kSoftMask : Nat :=
  kRejectDetectorConfidence ||| kRejectFaceSize ||| kRejectPose ||| kRejectExposure |||
    kRejectSharpness ||| kRejectClipping

/-- `measure_quality` -/
def measureQuality : QualityMeasurement :=
  let rejectMask := hardMask observation config ||| softMask observation config
  let hardReject := decide (hardMask observation config ≠ 0)
  { faceAreaRatio := faceAreaRatio observation config
    qualityScore := qualityScore observation config
    rejectMask
    hardReject
    accepted := !hardReject && (config.shadowMode || decide (rejectMask &&& kSoftMask = 0)) }

/-- A number between zero and one. -/
def IsWeight (value : FloatValue) : Prop := ∃ q : ℚ, value = .finite q ∧ 0 ≤ q ∧ q ≤ 1

theorem float_zero : float 0 = .finite 0 := rfl

theorem float_one : float 1 = .finite 1 := by decide +kernel

theorem isWeight_clamp {value : FloatValue} (h : value ≠ .nan) :
    IsWeight (value.clamp (float 0) (float 1)) := by
  rw [float_zero, float_one]
  unfold FloatValue.clamp
  cases value with
  | finite q =>
      rw [FloatValue.less_finite, FloatValue.less_finite]
      by_cases hneg : q < 0
      · rw [decide_eq_true hneg, if_pos rfl]
        exact ⟨0, rfl, le_rfl, zero_le_one⟩
      rw [decide_eq_false hneg, if_neg Bool.false_ne_true]
      by_cases hbig : 1 < q
      · rw [decide_eq_true hbig, if_pos rfl]
        exact ⟨1, rfl, zero_le_one, le_rfl⟩
      · rw [decide_eq_false hbig, if_neg Bool.false_ne_true]
        exact ⟨q, rfl, not_lt.mp hneg, not_lt.mp hbig⟩
  | infinite negative =>
      cases negative with
      | true => exact ⟨0, rfl, le_rfl, zero_le_one⟩
      | false => exact ⟨1, rfl, zero_le_one, le_rfl⟩
  | nan => exact absurd rfl h

theorem isWeight_clampWeight (value : FloatValue) : IsWeight (clampWeight value) := by
  unfold clampWeight
  split
  · rename_i hfinite
    apply isWeight_clamp
    rintro rfl
    cases hfinite
  · exact ⟨0, float_zero, le_rfl, zero_le_one⟩

theorem IsWeight.mul {a b : FloatValue} (ha : IsWeight a) (hb : IsWeight b) :
    IsWeight (binary32.mul a b) := by
  obtain ⟨p, rfl, hp, hp'⟩ := ha
  obtain ⟨q, rfl, hq, hq'⟩ := hb
  have hpos : 0 ≤ p * q := mul_nonneg hp hq
  have hone : |p * q| ≤ 2 ^ (0 : Int) := by
    rw [abs_of_nonneg hpos, zpow_zero]
    exact mul_le_one₀ hp' hq hq'
  obtain ⟨r, hr, hle, hnonneg⟩ := binary32.round_of_abs_le (by decide) (by decide) (by decide) hone
  refine ⟨r, hr, hnonneg hpos, ?_⟩
  rw [zpow_zero] at hle
  exact (le_abs_self r).trans hle

/-- The root that the weight of the area divides is a number or +∞. -/
theorem sqrt_max_ne_nan (value : FloatValue) :
    binary32.sqrt ((float 0).max value) ≠ .nan := by
  rw [float_zero]
  unfold FloatValue.max
  cases value with
  | finite q =>
      rw [FloatValue.less_finite]
      by_cases hpos : 0 < q
      · rw [decide_eq_true hpos, if_pos rfl, FloatFormat.sqrt, if_neg hpos.ne', if_neg hpos.not_gt]
        exact binary32.round_ne_nan _
      · rw [decide_eq_false hpos, if_neg Bool.false_ne_true]
        rintro ⟨⟩
  | infinite negative =>
      cases negative with
      | true => rintro ⟨⟩
      | false => rintro ⟨⟩
  | nan => rintro ⟨⟩

theorem isWeight_areaWeight (h : config.targetAreaRatio ≠ .infinite false) :
    IsWeight (areaWeight observation config) := by
  unfold areaWeight
  split
  · rename_i hpos
    apply isWeight_clamp
    have hroot := sqrt_max_ne_nan (faceAreaRatio observation config)
    cases hratio : config.targetAreaRatio with
    | finite b =>
        rw [hratio, float_zero, FloatValue.less_finite, decide_eq_true_eq] at hpos
        cases hvalue : binary32.sqrt ((float 0).max (faceAreaRatio observation config)) with
        | finite a =>
            rw [FloatFormat.div, if_neg hpos.ne']
            exact binary32.round_ne_nan _
        | infinite negative => rintro ⟨⟩
        | nan => exact absurd hvalue hroot
    | infinite negative =>
        cases negative with
        | true =>
            rw [hratio] at hpos
            cases hpos
        | false => exact absurd hratio h
    | nan =>
        rw [hratio] at hpos
        cases hpos
  · exact ⟨0, float_zero, le_rfl, zero_le_one⟩

/-- The quality is a weight, whatever was detected. -/
theorem isWeight_qualityScore (h : config.targetAreaRatio ≠ .infinite false) :
    IsWeight (qualityScore observation config) := by
  unfold qualityScore
  apply IsWeight.mul _ (isWeight_clampWeight _)
  apply IsWeight.mul _ (isWeight_clampWeight _)
  apply IsWeight.mul _ (isWeight_clampWeight _)
  exact (isWeight_clampWeight _).mul (isWeight_areaWeight observation config h)

end Measure

/-! ## The bank -/

inductive EvidenceChange where
  | rejected
  | unchanged
  | added
  | replaced
deriving DecidableEq, Repr

/-- What `TrackEvidenceBank` is made with. -/
structure TrackEvidenceBank where
  capacity : Nat
  minSpacingNs : Nat
  config : QualityConfig := {}

/-- `TrackEvidenceBank::better` -/
def better (candidate current : LiveObservation) : Bool :=
  if !candidate.quality.qualityScore.equal current.quality.qualityScore then
    current.quality.qualityScore.less candidate.quality.qualityScore
  else if candidate.timestampNs ≠ current.timestampNs then
    decide (candidate.timestampNs < current.timestampNs)
  else decide (candidate.detectionOrdinal < current.detectionOrdinal)

namespace TrackEvidenceBank

variable (bank : TrackEvidenceBank) (std : StdSort LiveObservation)

/-- The observation with its quality. -/
def measured (observation : LiveObservation) : LiveObservation :=
  { observation with quality := measureQuality observation bank.config }

/-- The absolute difference of the yaws. -/
def yawDistance (candidate current : LiveObservation) : FloatValue :=
  (binary32.sub candidate.poseYawDegrees current.poseYawDegrees).abs

/-- Two observations of one view. -/
def near (candidate current : LiveObservation) : Bool :=
  decide (distance candidate.timestampNs current.timestampNs ≤ bank.minSpacingNs) &&
    (yawDistance candidate current).lessEq bank.config.nearPoseDegrees

/-- `increases_diversity` -/
def increasesDiversity (candidate : LiveObservation) (observations : List LiveObservation) : Bool :=
  observations.all fun current =>
    bank.config.nearPoseDegrees.less (yawDistance candidate current)

/-- `clears_margin` -/
def clearsMargin (candidate worst : LiveObservation) : Bool :=
  (binary32.add worst.quality.qualityScore bank.config.replacementMargin).lessEq
    candidate.quality.qualityScore

/-- `TrackEvidenceBank::consider`: what it answers and the observations after it. -/
def consider (observations : List LiveObservation) (observation : LiveObservation) :
    EvidenceChange × List LiveObservation :=
  let candidate := bank.measured observation
  if !candidate.quality.accepted || bank.capacity == 0 then (.rejected, observations)
  else
    match observations.findIdx? (bank.near candidate) with
    | some index =>
        match observations[index]? with
        | none => (.unchanged, observations)
        | some current =>
            if !better candidate current then (.unchanged, observations)
            else (.replaced, std.sort better (observations.set index candidate))
    | none =>
        if observations.length < bank.capacity then
          (.added, std.sort better (observations ++ [candidate]))
        else
          match observations.getLast? with
          | none => (.unchanged, observations)
          | some worst =>
              if !better candidate worst ||
                  (!bank.increasesDiversity candidate observations &&
                    !bank.clearsMargin candidate worst) then
                (.unchanged, observations)
              else (.replaced, std.sort better (observations.dropLast ++ [candidate]))

/-- The calls of `consider` on a new bank. -/
def evidenceBank : Machine (List LiveObservation) LiveObservation where
  init observations := observations = []
  enabled _ _ := True
  next observations observation := (bank.consider std observations observation).2

/-- What the bank holds after some calls. -/
def observations (inputs : List LiveObservation) : List LiveObservation :=
  (bank.evidenceBank std).run [] inputs

/-! ## What a call does -/

section Cases

variable {bank std} {observations : List LiveObservation} {observation : LiveObservation}

/-- The candidate takes the place of the first observation near it. -/
structure TakesNear (bank : TrackEvidenceBank) (observations : List LiveObservation)
    (candidate : LiveObservation) (front : List LiveObservation) (current : LiveObservation)
    (back : List LiveObservation) : Prop where
  split : observations = front ++ current :: back
  first : ∀ other ∈ front, bank.near candidate other = false
  near : bank.near candidate current = true
  better : better candidate current = true

theorem TakesNear.find {candidate current : LiveObservation} {front back : List LiveObservation}
    (h : TakesNear bank observations candidate front current back) :
    observations.find? (bank.near candidate) = some current := by
  rw [List.find?_eq_some_iff_append]
  refine ⟨h.near, front, back, h.split, ?_⟩
  intro other hother
  rw [h.first other hother]
  rfl

theorem findIdx?_split {p : LiveObservation → Bool} {index : Nat}
    (h : observations.findIdx? p = some index) :
    ∃ front current back, observations = front ++ current :: back ∧ front.length = index ∧
      (∀ other ∈ front, p other = false) ∧ p current = true := by
  obtain ⟨hindex, hyes, hno⟩ := List.findIdx?_eq_some_iff_getElem.mp h
  refine ⟨observations.take index, observations[index], observations.drop (index + 1), ?_, ?_, ?_,
    hyes⟩
  · rw [← List.drop_eq_getElem_cons hindex, List.take_append_drop]
  · exact List.length_take_of_le hindex.le
  · intro other hother
    obtain ⟨j, hj, rfl⟩ := List.mem_take_iff_getElem.mp hother
    exact Bool.eq_false_of_not_eq_true (hno j (by omega))

/-- The ways of a call. -/
theorem consider_cases (bank : TrackEvidenceBank) (std : StdSort LiveObservation)
    (observations : List LiveObservation) (observation : LiveObservation) :
    (¬ ((bank.measured observation).quality.accepted = true ∧ bank.capacity ≠ 0) ∧
        bank.consider std observations observation = (.rejected, observations)) ∨
      ((∀ current, observations.find? (bank.near (bank.measured observation)) = some current →
          Evidence.better (bank.measured observation) current = false) ∧
        bank.consider std observations observation = (.unchanged, observations)) ∨
      ((bank.measured observation).quality.accepted = true ∧ bank.capacity ≠ 0) ∧
        ((∃ front current back,
            TakesNear bank observations (bank.measured observation) front current back ∧
            bank.consider std observations observation =
              (.replaced, std.sort Evidence.better
                (front ++ bank.measured observation :: back))) ∨
          (∀ other ∈ observations, bank.near (bank.measured observation) other = false) ∧
            ((observations.length < bank.capacity ∧
                bank.consider std observations observation =
                  (.added, std.sort Evidence.better
                    (observations ++ [bank.measured observation]))) ∨
              ∃ front worst, observations = front ++ [worst] ∧
                Evidence.better (bank.measured observation) worst = true ∧
                bank.consider std observations observation =
                  (.replaced, std.sort Evidence.better
                    (front ++ [bank.measured observation])))) := by
  unfold consider
  dsimp only
  split
  · rename_i hrejected
    refine .inl ⟨?_, rfl⟩
    rintro ⟨haccepted, hcapacity⟩
    rw [haccepted, beq_eq_false_iff_ne.mpr hcapacity] at hrejected
    cases hrejected
  · rename_i haccepted
    have haccepted : (bank.measured observation).quality.accepted = true ∧ bank.capacity ≠ 0 := by
      simpa using haccepted
    split
    · rename_i index hindex
      obtain ⟨front, current, back, hsplit, hlength, hfirst, hnear⟩ := findIdx?_split hindex
      have hget : observations[index]? = some current := by
        rw [hsplit, ← hlength, List.getElem?_append_right (Nat.le_refl _), Nat.sub_self,
          List.getElem?_cons_zero]
      have hfind : observations.find? (bank.near (bank.measured observation)) = some current :=
        List.find?_eq_some_iff_append.mpr ⟨hnear, front, back, hsplit, by simpa using hfirst⟩
      rw [hget]
      dsimp only
      split
      · rename_i hworse
        refine .inr (.inl ⟨?_, rfl⟩)
        intro other hother
        obtain rfl := Option.some.inj (hfind.symm.trans hother)
        simpa using hworse
      · rename_i hbetter
        have hbetter : Evidence.better (bank.measured observation) current = true := by
          simpa using hbetter
        have hset : observations.set index (bank.measured observation) =
            front ++ bank.measured observation :: back := by
          rw [hsplit, ← hlength, List.set_append_right _ _ (Nat.le_refl _), Nat.sub_self,
            List.set_cons_zero]
        rw [hset]
        exact .inr (.inr ⟨haccepted, .inl ⟨front, current, back,
          ⟨hsplit, hfirst, hnear, hbetter⟩, rfl⟩⟩)
    · rename_i hnone
      have hnone : ∀ other ∈ observations, bank.near (bank.measured observation) other = false :=
        List.findIdx?_eq_none_iff.mp hnone
      have hfind : ∀ current, observations.find? (bank.near (bank.measured observation)) =
          some current → Evidence.better (bank.measured observation) current = false := by
        intro current hcurrent
        have hnear := List.find?_some hcurrent
        rw [hnone current (List.mem_of_find?_eq_some hcurrent)] at hnear
        cases hnear
      split
      · rename_i hroom
        exact .inr (.inr ⟨haccepted, .inr ⟨hnone, .inl ⟨hroom, rfl⟩⟩⟩)
      · cases hlast : observations.getLast? with
        | none => exact .inr (.inl ⟨hfind, rfl⟩)
        | some worst =>
            obtain ⟨front, hfront⟩ := List.getLast?_eq_some_iff.mp hlast
            dsimp only
            split
            · exact .inr (.inl ⟨hfind, rfl⟩)
            · rename_i hkeep
              rw [Bool.or_eq_true, not_or] at hkeep
              have hbetter : Evidence.better (bank.measured observation) worst = true := by
                simpa using hkeep.1
              refine .inr (.inr ⟨haccepted, .inr ⟨hnone, .inr ⟨front, worst, hfront, hbetter, ?_⟩⟩⟩)
              rw [hfront, List.dropLast_concat]

end Cases

/-! ## The order -/

/-- The quality of an observation is a number. -/
def Scored (observation : LiveObservation) : Prop :=
  observation.quality.qualityScore.isFinite = true

theorem scored_measured (bank : TrackEvidenceBank)
    (h : bank.config.targetAreaRatio ≠ .infinite false) (observation : LiveObservation) :
    Scored (bank.measured observation) := by
  obtain ⟨q, hq, -⟩ := isWeight_qualityScore observation bank.config h
  show (qualityScore observation bank.config).isFinite = true
  rw [hq]
  rfl

/-- That number. -/
def score (observation : LiveObservation) : ℚ :=
  match observation.quality.qualityScore with
  | .finite q => q
  | _ => 0

theorem Scored.eq {observation : LiveObservation} (h : Scored observation) :
    observation.quality.qualityScore = .finite (score observation) := by
  unfold Scored at h
  unfold score
  cases hq : observation.quality.qualityScore with
  | finite q => rfl
  | infinite s =>
      rw [hq] at h
      cases h
  | nan =>
      rw [hq] at h
      cases h

/-- What `better` compares: the quality from high to low, the time and the ordinal from low to
high. -/
def rank (observation : LiveObservation) : ℚ ×ₗ (Nat ×ₗ Nat) :=
  toLex (-score observation,
    toLex (observation.timestampNs, observation.detectionOrdinal))

theorem better_iff {a b : LiveObservation} (ha : Scored a) (hb : Scored b) :
    Evidence.better a b = true ↔ rank a < rank b := by
  unfold Evidence.better rank
  rw [ha.eq, hb.eq, Prod.Lex.toLex_lt_toLex, Prod.Lex.toLex_lt_toLex]
  simp only [FloatValue.equal_finite, FloatValue.less_finite]
  by_cases hscore : score a = score b
  · by_cases htime : a.timestampNs = b.timestampNs
    · simp [hscore, htime]
    · simp [hscore, htime]
  · have hne : ¬ -score a = -score b := fun h => hscore (neg_injective h)
    simp [hscore, hne]

theorem strictWeakOn_better {observations : List LiveObservation}
    (h : ∀ o ∈ observations, Scored o) : StrictWeakOn Evidence.better observations :=
  strictWeakOn_of_key rank fun a ha b hb => better_iff (h a ha) (h b hb)

theorem score_le_of_better {a b : LiveObservation} (ha : Scored a) (hb : Scored b)
    (h : Evidence.better a b = true) : score b ≤ score a := by
  rcases Prod.Lex.toLex_lt_toLex.mp ((better_iff ha hb).mp h) with hlt | ⟨heq, -⟩
  · exact (neg_lt_neg_iff.mp hlt).le
  · exact (neg_injective heq).ge

theorem score_le_of_not_better {a b : LiveObservation} (ha : Scored a) (hb : Scored b)
    (h : Evidence.better b a = false) : score b ≤ score a := by
  have hle : rank a ≤ rank b := by
    rw [← not_lt, ← better_iff hb ha, h]
    exact Bool.false_ne_true
  rcases Prod.Lex.toLex_le_toLex.mp hle with hlt | ⟨heq, -⟩
  · exact (neg_lt_neg_iff.mp hlt).le
  · exact (neg_injective heq).ge

/-! ## What the bank holds -/

/-- What holds of the observations after any calls with these inputs. -/
structure Banked (bank : TrackEvidenceBank) (inputs observations : List LiveObservation) :
    Prop where
  bounded : observations.length ≤ bank.capacity
  sorted : observations.Pairwise fun a b => Evidence.better b a = false
  sources : ∀ o ∈ observations, o.quality.accepted = true ∧
    ∃ input ∈ inputs, o = bank.measured input

section Steps

variable {bank std} {inputs observations : List LiveObservation}

theorem Banked.scored (h : Banked bank inputs observations)
    (hinputs : ∀ input ∈ inputs, Scored (bank.measured input)) :
    ∀ o ∈ observations, Scored o := by
  intro o ho
  obtain ⟨-, input, hinput, rfl⟩ := h.sources o ho
  exact hinputs input hinput

/-- The observations before a call, with the candidate among them, are sorted in its end. -/
theorem Banked.sort (std : StdSort LiveObservation) (h : Banked bank inputs observations)
    (hinputs : ∀ input ∈ inputs, Scored (bank.measured input)) {input : LiveObservation}
    (hinput : input ∈ inputs) (haccepted : (bank.measured input).quality.accepted = true)
    {unsorted : List LiveObservation} (hlength : unsorted.length ≤ bank.capacity)
    (hmem : ∀ o ∈ unsorted, o = bank.measured input ∨ o ∈ observations) :
    Banked bank inputs (std.sort Evidence.better unsorted) ∧
      (std.sort Evidence.better unsorted).Perm unsorted := by
  have hscored : ∀ o ∈ unsorted, Scored o := by
    intro o ho
    rcases hmem o ho with rfl | hold
    · exact hinputs input hinput
    · exact h.scored hinputs o hold
  have hweak := strictWeakOn_better hscored
  have hperm := std.perm _ _ hweak
  refine ⟨⟨hperm.length_eq.trans_le hlength, std.sorted _ _ hweak, ?_⟩, hperm⟩
  intro o ho
  rcases hmem o (hperm.mem_iff.mp ho) with rfl | hold
  · exact ⟨haccepted, input, hinput, rfl⟩
  · exact h.sources o hold

theorem mem_replaced {candidate current : LiveObservation} {front back : List LiveObservation} :
    ∀ o ∈ front ++ candidate :: back, o = candidate ∨ o ∈ front ++ current :: back := by
  intro o ho
  rcases List.mem_append.mp ho with hfront | hback
  · exact .inr (List.mem_append_left _ hfront)
  · rcases List.mem_cons.mp hback with rfl | hback
    · exact .inl rfl
    · exact .inr (List.mem_append_right _ (List.mem_cons_of_mem _ hback))

/-- At every rank there is an observation as good as before or a better one. -/
def Improves (before after : List LiveObservation) : Prop :=
  ∀ (k : Nat) (hk : k < before.length), ∃ hk' : k < after.length,
    before[k].quality.qualityScore.lessEq after[k].quality.qualityScore = true

theorem Improves.length_le {before after : List LiveObservation} (h : Improves before after) :
    before.length ≤ after.length := by
  by_contra hlt
  obtain ⟨hlast, -⟩ := h after.length (Nat.lt_of_not_le hlt)
  exact Nat.lt_irrefl _ hlast

theorem Improves.refl {before : List LiveObservation} (h : ∀ o ∈ before, Scored o) :
    Improves before before := by
  intro k hk
  have hscore := (h before[k] (List.getElem_mem hk)).eq
  refine ⟨hk, ?_⟩
  rw [hscore]
  exact decide_eq_true le_rfl

/-- Where more observations reach every score, all ranks are as good or better. -/
theorem improves_of_countP {before after : List LiveObservation}
    (hbefore : ∀ o ∈ before, Scored o) (hafter : ∀ o ∈ after, Scored o)
    (hsorted : before.Pairwise fun a b => Evidence.better b a = false)
    (hsorted' : after.Pairwise fun a b => Evidence.better b a = false)
    (hcount : ∀ q, before.countP (fun o => decide (q ≤ score o)) ≤
      after.countP fun o => decide (q ≤ score o)) : Improves before after := by
  have hdescending : ∀ items : List LiveObservation, (∀ o ∈ items, Scored o) →
      items.Pairwise (fun a b => Evidence.better b a = false) →
      (items.map score).Pairwise (· ≥ ·) := by
    intro items hscored hpairs
    rw [List.pairwise_map]
    apply hpairs.imp_of_mem
    intro a b ha hb hnot
    exact score_le_of_not_better (hscored a ha) (hscored b hb) hnot
  intro k hk
  obtain ⟨hk', hle⟩ := getElem_le_of_countP (hdescending before hbefore hsorted)
    (hdescending after hafter hsorted')
    (by intro q; rw [List.countP_map, List.countP_map]; exact hcount q) k
    (by rw [List.length_map]; exact hk)
  rw [List.length_map] at hk'
  rw [List.getElem_map, List.getElem_map] at hle
  refine ⟨hk', ?_⟩
  rw [(hbefore _ (List.getElem_mem hk)).eq, (hafter _ (List.getElem_mem hk')).eq]
  exact decide_eq_true hle

/-- A better observation in the place of another one reaches the scores that it reached. -/
theorem countP_replaced {candidate current : LiveObservation} {front back : List LiveObservation}
    (h : score current ≤ score candidate) (q : ℚ) :
    (front ++ current :: back).countP (fun o => decide (q ≤ score o)) ≤
      (front ++ candidate :: back).countP fun o => decide (q ≤ score o) := by
  rw [List.countP_append, List.countP_append, List.countP_cons, List.countP_cons]
  by_cases hq : q ≤ score current
  · rw [decide_eq_true hq, decide_eq_true (hq.trans h)]
  · rw [decide_eq_false hq, if_neg Bool.false_ne_true, Nat.add_zero]
    exact Nat.add_le_add_left (Nat.le_add_right _ _) _

/-- What a call answers and what it did. -/
def Matches (before : List LiveObservation) : EvidenceChange × List LiveObservation → Prop
  | (.rejected, after) => after = before
  | (.unchanged, after) => after = before
  | (.added, after) => after.length = before.length + 1
  | (.replaced, after) => after.length = before.length

/-- One call. -/
theorem banked_consider (std : StdSort LiveObservation) (h : Banked bank inputs observations)
    (hinputs : ∀ input ∈ inputs, Scored (bank.measured input)) {input : LiveObservation}
    (hinput : input ∈ inputs) :
    Banked bank inputs (bank.consider std observations input).2 ∧
      Matches observations (bank.consider std observations input) ∧
      Improves observations (bank.consider std observations input).2 := by
  have hscored := h.scored hinputs
  have hscore := hinputs input hinput
  rcases consider_cases bank std observations input with
    ⟨-, heq⟩ | ⟨-, heq⟩ | ⟨⟨haccepted, -⟩, ⟨front, current, back, htakes, heq⟩ |
      ⟨-, ⟨hroom, heq⟩ | ⟨front, worst, rfl, hbetter, heq⟩⟩⟩
  · rw [heq]
    exact ⟨h, rfl, Improves.refl hscored⟩
  · rw [heq]
    exact ⟨h, rfl, Improves.refl hscored⟩
  · obtain rfl := htakes.split
    have hlength : (front ++ bank.measured input :: back).length =
        (front ++ current :: back).length := by
      rw [List.length_append, List.length_append, List.length_cons, List.length_cons]
    obtain ⟨hbanked, hperm⟩ := h.sort std hinputs hinput haccepted (hlength.trans_le h.bounded)
      mem_replaced
    rw [heq]
    refine ⟨hbanked, hperm.length_eq.trans hlength, ?_⟩
    apply improves_of_countP hscored (hbanked.scored hinputs) h.sorted hbanked.sorted
    intro q
    rw [hperm.countP_eq]
    exact countP_replaced (score_le_of_better hscore
      (hscored current (List.mem_append_right _ List.mem_cons_self)) htakes.better) q
  · have hlength : (observations ++ [bank.measured input]).length = observations.length + 1 := by
      rw [List.length_append, List.length_singleton]
    have hmem : ∀ o ∈ observations ++ [bank.measured input],
        o = bank.measured input ∨ o ∈ observations := by
      intro o ho
      rcases List.mem_append.mp ho with hold | hnew
      · exact .inr hold
      · exact .inl (List.mem_singleton.mp hnew)
    obtain ⟨hbanked, hperm⟩ := h.sort std hinputs hinput haccepted (hlength.trans_le hroom) hmem
    rw [heq]
    refine ⟨hbanked, hperm.length_eq.trans hlength, ?_⟩
    apply improves_of_countP hscored (hbanked.scored hinputs) h.sorted hbanked.sorted
    intro q
    rw [hperm.countP_eq, List.countP_append]
    exact Nat.le_add_right _ _
  · have hlength : (front ++ [bank.measured input]).length = (front ++ [worst]).length := by
      rw [List.length_append, List.length_append, List.length_singleton, List.length_singleton]
    obtain ⟨hbanked, hperm⟩ := h.sort std hinputs hinput haccepted (hlength.trans_le h.bounded)
      mem_replaced
    rw [heq]
    refine ⟨hbanked, hperm.length_eq.trans hlength, ?_⟩
    apply improves_of_countP hscored (hbanked.scored hinputs) h.sorted hbanked.sorted
    intro q
    rw [hperm.countP_eq]
    exact countP_replaced (score_le_of_better hscore
      (hscored worst (List.mem_append_right _ List.mem_cons_self)) hbetter) q

/-- For any calls with numbers as quality: the bank is bounded and sorted and holds accepted
observations of the calls, and each call did what it answered and lowered no rank. -/
theorem bank_only_improves (bank : TrackEvidenceBank) (std : StdSort LiveObservation)
    (inputs : List LiveObservation) (hinputs : ∀ input ∈ inputs, Scored (bank.measured input)) :
    Banked bank inputs (bank.observations std inputs) ∧
      ∀ done next later, inputs = done ++ next :: later →
        bank.observations std (done ++ [next]) =
            (bank.consider std (bank.observations std done) next).2 ∧
          Matches (bank.observations std done)
            (bank.consider std (bank.observations std done) next) ∧
          (bank.observations std done).length ≤ (bank.observations std (done ++ [next])).length ∧
          Improves (bank.observations std done) (bank.observations std (done ++ [next])) := by
  have hrun : ∀ calls ⊆ inputs, Banked bank inputs (bank.observations std calls) := by
    intro calls hcalls
    apply Machine.run_of_forall
    · intro input hinput state hstate
      exact (banked_consider std hstate hinputs (hcalls hinput)).1
    · exact ⟨Nat.zero_le _, List.Pairwise.nil, List.forall_mem_nil _⟩
  refine ⟨hrun inputs (List.Subset.refl _), ?_⟩
  rintro done next later rfl
  have hstep : bank.observations std (done ++ [next]) =
      (bank.consider std (bank.observations std done) next).2 := Machine.run_append [] done [next]
  obtain ⟨-, hmatches, himproves⟩ := banked_consider std
    (hrun done (List.subset_append_left _ _)) hinputs
    (List.mem_append_right _ List.mem_cons_self)
  rw [hstep]
  exact ⟨rfl, hmatches, himproves.length_le, himproves⟩

end Steps

/-- A frontal face in the corner of the frame. -/
def frontalFace (timestampNs : Nat) (confidence : FloatValue) : LiveObservation where
  timestampNs
  detectionOrdinal := 0
  frameWidth := 1920
  frameHeight := 1080
  bbox := #v[.finite 0, .finite 0, .finite 192, .finite 108]
  detectorConfidence := confidence
  poseYawDegrees := .finite 0
  landmarks := Vector.replicate 10 (.finite 50)
  landmarkConfidences := Vector.replicate 5 (.finite 1)
  embedding := (Vector.replicate 512 (.finite 0)).set 0 (.finite 1) (Nat.zero_lt_succ 511)
  alignedJpeg := [0xFF, 0xD8]

/-- A bank of ten observations, 200 ns apart. -/
def spaced : TrackEvidenceBank where
  capacity := 10
  minSpacingNs := 200

/-- Two faces that are not near each other. -/
def twoFaces : List LiveObservation :=
  [frontalFace 0 (.finite (1 / 2)), frontalFace 300 (.finite (1 / 2))]

/-- The second time that the first face is seen, with more confidence. -/
def clearerFace : LiveObservation := frontalFace 50 (.finite (3 / 4))

/-- The two faces are added, and the clearer view takes the place of the first one. -/
theorem bank_clearerFace :
    (∀ input ∈ twoFaces ++ [clearerFace], Scored (spaced.measured input)) ∧
      Banked spaced (twoFaces ++ [clearerFace])
        (spaced.observations .insertion (twoFaces ++ [clearerFace])) ∧
      (spaced.consider .insertion (spaced.observations .insertion twoFaces) clearerFace).1 =
        .replaced ∧
      (spaced.observations .insertion twoFaces).length = 2 ∧
      (spaced.observations .insertion (twoFaces ++ [clearerFace])).length = 2 ∧
      Improves (spaced.observations .insertion twoFaces)
        (spaced.observations .insertion (twoFaces ++ [clearerFace])) := by
  have hscored : ∀ input ∈ twoFaces ++ [clearerFace], Scored (spaced.measured input) :=
    fun input _ => scored_measured spaced (by decide +kernel) input
  obtain ⟨hbanked, hcalls⟩ :=
    bank_only_improves spaced .insertion (twoFaces ++ [clearerFace]) hscored
  obtain ⟨hsame, hmatches, -, himproves⟩ := hcalls twoFaces clearerFace [] rfl
  have hreplaced : (spaced.consider .insertion (spaced.observations .insertion twoFaces)
      clearerFace).1 = .replaced := by
    decide +kernel
  have htwo : (spaced.observations .insertion twoFaces).length = 2 := by decide +kernel
  refine ⟨hscored, hbanked, hreplaced, htwo, ?_, himproves⟩
  have hlength : (spaced.consider .insertion (spaced.observations .insertion twoFaces)
      clearerFace).2.length = (spaced.observations .insertion twoFaces).length := by
    generalize spaced.consider .insertion (spaced.observations .insertion twoFaces) clearerFace
      = call at hreplaced hmatches
    obtain ⟨change, after⟩ := call
    obtain rfl : change = .replaced := hreplaced
    exact hmatches
  rw [hsame, hlength, htwo]

/-! ## Separated views -/

theorem distance_comm (left right : Nat) : distance left right = distance right left := by
  unfold distance
  split <;> split <;> omega

theorem near_comm (bank : TrackEvidenceBank) (a b : LiveObservation) :
    bank.near a b = bank.near b a := by
  unfold near yawDistance
  rw [distance_comm, binary32.abs_sub_comm]

/-- No two observations are near each other. -/
def Separated (bank : TrackEvidenceBank) (observations : List LiveObservation) : Prop :=
  observations.Pairwise fun a b => bank.near a b = false

instance (bank : TrackEvidenceBank) (observations : List LiveObservation) :
    Decidable (bank.Separated observations) :=
  inferInstanceAs (Decidable (observations.Pairwise fun a b => bank.near a b = false))

/-- A candidate that takes the place of the first observation near it is near no other one. -/
def Separates (bank : TrackEvidenceBank) (observations : List LiveObservation)
    (observation : LiveObservation) : Prop :=
  (bank.measured observation).quality.accepted = true → bank.capacity ≠ 0 →
    ∀ current ∈ observations.find? (bank.near (bank.measured observation)),
      Evidence.better (bank.measured observation) current = true →
        observations.countP (bank.near (bank.measured observation)) = 1

instance (bank : TrackEvidenceBank) (observations : List LiveObservation)
    (observation : LiveObservation) : Decidable (bank.Separates observations observation) :=
  inferInstanceAs (Decidable (_ → _ → _))

section Separation

variable {bank : TrackEvidenceBank} {std : StdSort LiveObservation}
  {inputs observations : List LiveObservation}

theorem separated_perm {before after : List LiveObservation} (h : after.Perm before) :
    bank.Separated after ↔ bank.Separated before := by
  apply h.pairwise_iff
  intro a b hab
  rw [near_comm]
  exact hab

/-- One more observation among separated ones. -/
theorem separated_insert {front back : List LiveObservation} {candidate : LiveObservation}
    (h : bank.Separated (front ++ back)) :
    bank.Separated (front ++ candidate :: back) ↔
      ∀ other ∈ front ++ back, bank.near candidate other = false := by
  rw [separated_perm List.perm_middle]
  unfold Separated
  rw [List.pairwise_cons]
  exact and_iff_left h

/-- A call keeps the views separated exactly if its candidate does. -/
theorem separated_consider (h : Banked bank inputs observations)
    (hinputs : ∀ input ∈ inputs, Scored (bank.measured input)) {input : LiveObservation}
    (hinput : input ∈ inputs) (hseparated : bank.Separated observations) :
    bank.Separated (bank.consider std observations input).2 ↔
      bank.Separates observations input := by
  have hperm : ∀ unsorted : List LiveObservation,
      (∀ o ∈ unsorted, o = bank.measured input ∨ o ∈ observations) →
        (std.sort Evidence.better unsorted).Perm unsorted := by
    intro unsorted hmem
    apply std.perm
    apply strictWeakOn_better
    intro o ho
    rcases hmem o ho with rfl | hold
    · exact hinputs input hinput
    · exact h.scored hinputs o hold
  rcases consider_cases bank std observations input with
    ⟨hrejected, heq⟩ | ⟨hworse, heq⟩ | ⟨⟨haccepted, hcapacity⟩,
      ⟨front, current, back, htakes, heq⟩ | ⟨hnone, ⟨hroom, heq⟩ | ⟨front, worst, rfl, -, heq⟩⟩⟩
  · rw [heq]
    refine iff_of_true hseparated ?_
    intro haccepted hcapacity
    exact absurd ⟨haccepted, hcapacity⟩ hrejected
  · rw [heq]
    refine iff_of_true hseparated ?_
    intro _ _ current hcurrent hbetter
    rw [hworse current hcurrent] at hbetter
    cases hbetter
  · obtain rfl := htakes.split
    have hrest : bank.Separated (front ++ back) :=
      hseparated.sublist ((List.sublist_cons_self _ _).append_left front)
    rw [heq]
    show bank.Separated (std.sort _ _) ↔ _
    rw [separated_perm (hperm _ mem_replaced), separated_insert hrest]
    have hcount : (front ++ current :: back).countP (bank.near (bank.measured input)) =
        1 + (front ++ back).countP (bank.near (bank.measured input)) := by
      rw [List.perm_middle.countP_eq, List.countP_cons_of_pos htakes.near, Nat.add_comm]
    have hnot : (∀ other ∈ front ++ back, bank.near (bank.measured input) other = false) ↔
        (front ++ current :: back).countP (bank.near (bank.measured input)) = 1 := by
      rw [hcount, Nat.add_eq_left, List.countP_eq_zero]
      simp only [Bool.not_eq_true]
    rw [hnot]
    constructor
    · intro hone _ _ other _ _
      exact hone
    · intro hseparates
      exact hseparates haccepted hcapacity current htakes.find htakes.better
  · have hmem : ∀ o ∈ observations ++ [bank.measured input],
        o = bank.measured input ∨ o ∈ observations := by
      intro o ho
      rcases List.mem_append.mp ho with hold | hnew
      · exact .inr hold
      · exact .inl (List.mem_singleton.mp hnew)
    rw [heq]
    refine iff_of_true ?_ ?_
    · show bank.Separated (std.sort _ _)
      rw [separated_perm (hperm _ hmem), separated_insert (by rwa [List.append_nil])]
      rwa [List.append_nil]
    · intro _ _ current hcurrent hbetter
      have hnear := List.find?_some hcurrent
      rw [hnone current (List.mem_of_find?_eq_some hcurrent)] at hnear
      cases hnear
  · have hfront : bank.Separated (front ++ []) := by
      rw [List.append_nil]
      exact hseparated.sublist (List.sublist_append_left _ _)
    rw [heq]
    refine iff_of_true ?_ ?_
    · show bank.Separated (std.sort _ _)
      rw [separated_perm (hperm _ mem_replaced), separated_insert hfront, List.append_nil]
      intro other hother
      exact hnone other (List.mem_append_left _ hother)
    · intro _ _ current hcurrent hbetter
      have hnear := List.find?_some hcurrent
      rw [hnone current (List.mem_of_find?_eq_some hcurrent)] at hnear
      cases hnear

end Separation

/-- Along any calls, the views stay separated exactly if every candidate that takes the place of
the first observation near it is near no other one. -/
theorem separated_iff (bank : TrackEvidenceBank) (std : StdSort LiveObservation)
    (inputs : List LiveObservation) (hinputs : ∀ input ∈ inputs, Scored (bank.measured input)) :
    (bank.evidenceBank std).Always bank.Separated [] inputs ↔
      (bank.evidenceBank std).Meets bank.Separates [] inputs := by
  have hkept : ∀ state input, input ∈ inputs → Banked bank inputs state →
      Banked bank inputs (bank.consider std state input).2 := by
    intro state input hinput hstate
    exact (banked_consider std hstate hinputs hinput).1
  have hstep : ∀ state input, input ∈ inputs → Banked bank inputs state →
      bank.Separated state →
      (bank.Separated (bank.consider std state input).2 ↔ bank.Separates state input) := by
    intro state input hinput hstate hseparated
    exact separated_consider hstate hinputs hinput hseparated
  have hcalls : (bank.evidenceBank std).Meets (fun _ input => input ∈ inputs) [] inputs :=
    Machine.meets_of_forall fun _ hinput => hinput
  exact Machine.always_iff_meets hkept hstep hcalls
    ⟨Nat.zero_le _, List.Pairwise.nil, List.forall_mem_nil _⟩ List.Pairwise.nil

/-- The clearer view of the first face is not near the second one. -/
theorem separated_clearerFace :
    (∀ input ∈ twoFaces ++ [clearerFace], Scored (spaced.measured input)) ∧
      (spaced.evidenceBank .insertion).Meets spaced.Separates [] (twoFaces ++ [clearerFace]) ∧
      (spaced.evidenceBank .insertion).Always spaced.Separated [] (twoFaces ++ [clearerFace]) :=
  have hscored : ∀ input ∈ twoFaces ++ [clearerFace], Scored (spaced.measured input) :=
    fun input _ => scored_measured spaced (by decide +kernel) input
  have hmeets :
      (spaced.evidenceBank .insertion).Meets spaced.Separates [] (twoFaces ++ [clearerFace]) := by
    decide +kernel
  ⟨hscored, hmeets,
    (separated_iff spaced .insertion (twoFaces ++ [clearerFace]) hscored).mpr hmeets⟩

/-- The third face is near both others and better: it takes the place of one of them. -/
theorem replaced_near_third :
    1 ≤ spaced.capacity ∧
      ¬ spaced.Separated (spaced.observations .insertion
        (twoFaces ++ [frontalFace 150 (.finite (3 / 4))])) := by
  decide +kernel

end TrackEvidenceBank

end Mvision.Live.Evidence
