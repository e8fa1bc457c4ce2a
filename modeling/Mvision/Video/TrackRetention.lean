import Mathlib.Data.Prod.Lex
import Mvision.Video.TrackMean

/-!
# What is kept of the tracks

The five best embeddings and the JPEG of a track are those of all its observations taken at once,
and `finish` makes one track of each tracker that has a mean.
-/

namespace Mvision.Video.Native

open Mvision.Library

/-! ## The quality is comparable -/

theorem clampValue_within (value : FloatValue) {m : ℚ} (hm : 0 ≤ m) :
    ∃ q, clampValue value (.finite 0) (.finite m) = .finite q ∧ 0 ≤ q ∧ q ≤ m := by
  unfold clampValue FloatValue.max FloatValue.min
  cases value with
  | finite v =>
      by_cases hbig : v < m
      · by_cases hpos : 0 < v
        · exact ⟨v, by simp [hbig, hpos], hpos.le, hbig.le⟩
        · exact ⟨0, by simp [hbig, hpos], le_rfl, hm⟩
      · by_cases hpos : 0 < m
        · exact ⟨m, by simp [hbig, hpos], hm, le_rfl⟩
        · exact ⟨0, by simp [hbig, hpos], le_rfl, hm⟩
  | infinite negative =>
      cases negative with
      | true => exact ⟨0, rfl, le_rfl, hm⟩
      | false =>
          by_cases hpos : 0 < m
          · exact ⟨m, by simp [FloatValue.less, hpos], hm, le_rfl⟩
          · exact ⟨0, by simp [FloatValue.less, hpos], le_rfl, hm⟩
  | nan =>
      by_cases hpos : 0 < m
      · exact ⟨m, by simp [FloatValue.less, hpos], hm, le_rfl⟩
      · exact ⟨0, by simp [FloatValue.less, hpos], le_rfl, hm⟩

theorem size_within (pixels : UInt32) :
    ∃ q, AddCall.size pixels = .finite q ∧ 0 ≤ q ∧ q ≤ 2 ^ (32 : Int) := by
  have hnonneg : (0 : ℚ) ≤ pixels.toNat := Nat.cast_nonneg _
  have hlt : (pixels.toNat : ℚ) ≤ 2 ^ (32 : Int) := by
    have hlt := pixels.toNat_lt
    rw [show (32 : Int) = (32 : Nat) from rfl, zpow_natCast]
    exact_mod_cast hlt.le
  obtain ⟨q, hq, habs, hsign⟩ := binary32.round_of_abs_le (by decide) (by decide) (by decide)
    ((abs_of_nonneg hnonneg).trans_le hlt)
  exact ⟨q, hq, hsign hnonneg, (le_abs_self q).trans habs⟩

/-- The side of a box within the frame. -/
theorem side_within {right left : ℚ} (hright : 0 ≤ right ∧ right ≤ 2 ^ (32 : Int))
    (hleft : 0 ≤ left ∧ left ≤ 2 ^ (32 : Int)) :
    ∃ q, (FloatValue.finite 0).max (binary32.sub (.finite right) (.finite left)) = .finite q ∧
      0 ≤ q ∧ q ≤ 2 ^ (32 : Int) := by
  have habs : |right + -left| ≤ 2 ^ (32 : Int) := by
    rw [abs_le]
    constructor
    · linarith [hright.1, hleft.2]
    · linarith [hright.2, hleft.1]
  obtain ⟨q, hq, hle, -⟩ := binary32.round_of_abs_le (by decide) (by decide) (by decide) habs
  have hsub : binary32.sub (.finite right) (.finite left) = .finite q := hq
  rw [hsub, FloatValue.max, FloatValue.less_finite]
  by_cases hpos : 0 < q
  · rw [decide_eq_true hpos, if_pos rfl]
    exact ⟨q, rfl, hpos.le, (le_abs_self q).trans hle⟩
  · rw [decide_eq_false hpos, if_neg Bool.false_ne_true]
    exact ⟨0, rfl, le_rfl, zpow_nonneg (by norm_num) _⟩

namespace AddCall

variable (call : AddCall)

theorem side (value extent : FloatValue) (pixels : UInt32) :
    ∃ q, (FloatValue.finite 0).max
        (binary32.sub (clampValue (binary32.add value extent) (.finite 0) (size pixels))
          (clampValue value (.finite 0) (size pixels))) = .finite q ∧
      0 ≤ q ∧ q ≤ 2 ^ (32 : Int) := by
  obtain ⟨m, hm, hnonneg, hle⟩ := size_within pixels
  rw [hm]
  obtain ⟨right, hright, hright0, hrightm⟩ := clampValue_within (binary32.add value extent) hnonneg
  obtain ⟨left, hleft, hleft0, hleftm⟩ := clampValue_within value hnonneg
  rw [hright, hleft]
  exact side_within ⟨hright0, hrightm.trans hle⟩ ⟨hleft0, hleftm.trans hle⟩

/-- The confidence of the detector. -/
def confidence : FloatValue := call.observation.detection.detectorConfidence

/-- It is a number. -/
def Finite : Prop := call.confidence.isFinite = true

instance : Decidable call.Finite := inferInstanceAs (Decidable (_ = true))

/-- It is a number between zero and one. -/
def Confident : Prop := ∃ q : ℚ, call.confidence = .finite q ∧ 0 ≤ q ∧ q ≤ 1

/-- The quality of a finite confidence is comparable: it is no number only if it is too large. -/
theorem quality_ne_nan (h : call.Finite) : call.quality ≠ .nan := by
  obtain ⟨width, hwidth, hwidth0, hwidth32⟩ := side call.observation.detection.x
    call.observation.detection.width call.frameWidth
  obtain ⟨height, hheight, hheight0, hheight32⟩ := side call.observation.detection.y
    call.observation.detection.height call.frameHeight
  have harea : |width * height| ≤ 2 ^ (64 : Int) := by
    rw [abs_of_nonneg (mul_nonneg hwidth0 hheight0)]
    calc width * height ≤ 2 ^ (32 : Int) * 2 ^ (32 : Int) :=
          mul_le_mul hwidth32 hheight32 hheight0 (hwidth0.trans hwidth32)
      _ = 2 ^ (64 : Int) := by norm_num
  obtain ⟨area, hround, habs, hsign⟩ := binary32.round_of_abs_le (by decide) (by decide)
    (by decide) harea
  have hfour : area ≤ 4 ^ 32 := by
    refine ((le_abs_self area).trans habs).trans_eq ?_
    norm_num
  obtain ⟨root, hroot, -⟩ := binary32.sqrt_of_le (k := 32) (by decide) (by decide) (by decide)
    (hsign (mul_nonneg hwidth0 hheight0)) hfour
  have hproduct : binary32.mul call.detection.width call.detection.height = .finite area := by
    rw [show call.detection.width = .finite width from hwidth,
      show call.detection.height = .finite height from hheight]
    exact hround
  unfold quality
  rw [hproduct, hroot]
  unfold Finite at h
  show binary32.mul call.confidence (.finite root) ≠ .nan
  cases hconfidence : call.confidence with
  | finite confidence => exact binary32.round_ne_nan _
  | infinite negative =>
      rw [hconfidence] at h
      cases h
  | nan =>
      rw [hconfidence] at h
      cases h

end AddCall

/-- What the embeddings are ranked by. -/
def rankKey (item : RankedEmbedding) : (WithBot (WithTop ℚ))ᵒᵈ ×ₗ Nat :=
  toLex (OrderDual.toDual item.quality.place, item.frame)

theorem ranksBefore_iff {a b : RankedEmbedding} (ha : a.quality ≠ .nan) (hb : b.quality ≠ .nan) :
    ranksBefore a b = true ↔ rankKey a < rankKey b := by
  unfold ranksBefore rankKey
  rw [Prod.Lex.toLex_lt_toLex, OrderDual.toDual_lt_toDual,
    OrderDual.toDual_inj, ← FloatValue.less_iff_place hb ha, ← FloatValue.equal_iff_place ha hb]
  by_cases hequal : a.quality.equal b.quality = true
  · have hless : b.quality.less a.quality = false := by
      rw [← Bool.not_eq_true, FloatValue.less_iff_place hb ha, not_lt]
      exact ((FloatValue.equal_iff_place ha hb).mp hequal).le
    simp [hequal, hless]
  · simp [hequal]

/-! ## What is kept of a track -/

/-- The calls for one tracker. -/
def observed (trackerId : Nat) (calls : List AddCall) : List AddCall :=
  calls.filter fun call => call.observation.trackerId == trackerId

/-- The track after these calls. -/
def track (calls : List AddCall) : TrackState := calls.foldl TrackState.add {}

theorem track_append_singleton (calls : List AddCall) (call : AddCall) :
    track (calls ++ [call]) = (track calls).add call := by
  rw [track, List.foldl_append]
  rfl

/-- Each track has seen the calls for its tracker only. -/
theorem accumulate_eq (calls : List AddCall) (trackerId : Nat) :
    accumulate calls trackerId =
      if observed trackerId calls = [] then none else some (track (observed trackerId calls)) := by
  induction calls using List.reverseRecOn with
  | nil => rfl
  | append_singleton calls call ih =>
      have hadd : accumulate (calls ++ [call]) = add (accumulate calls) call := by
        rw [accumulate, List.foldl_append]
        rfl
      rw [hadd, observed, List.filter_append]
      by_cases hid : call.observation.trackerId = trackerId
      · subst hid
        rw [List.filter_cons_of_pos (by exact beq_self_eq_true _), List.filter_nil,
          if_neg (List.append_ne_nil_of_right_ne_nil _ (List.cons_ne_nil _ _)),
          track_append_singleton, add, Function.update_self, ih]
        split
        · rename_i hnone
          rw [show calls.filter _ = [] from hnone]
          rfl
        · rfl
      · rw [List.filter_cons_of_neg (by rw [beq_iff_eq]; exact hid), List.filter_nil,
          List.append_nil, add, Function.update_of_ne (Ne.symm hid), ih]
        rfl

theorem detections_track (calls : List AddCall) :
    (track calls).detections = calls.map AddCall.detection := by
  induction calls using List.reverseRecOn with
  | nil => rfl
  | append_singleton calls call ih =>
      rw [track_append_singleton, List.map_append, ← ih]
      rfl

/-- The five best are the first five of all observations in their order. -/
theorem rankedEmbeddings_track {calls : List AddCall} (h : ∀ call ∈ calls, call.Finite) :
    (track calls).rankedEmbeddings =
      (stableSort ranksBefore (calls.map AddCall.ranked)).take kTopObservations := by
  induction calls using List.reverseRecOn with
  | nil => rfl
  | append_singleton calls call ih =>
      have hcalls : ∀ call ∈ calls, call.Finite := by
        intro other hother
        exact h other (List.mem_append_left _ hother)
      have hnumber : ∀ item ∈ calls.map AddCall.ranked ++ [call.ranked], item.quality ≠ .nan := by
        intro item hitem
        have hmap : item ∈ (calls ++ [call]).map AddCall.ranked := by
          rw [List.map_append]
          exact hitem
        obtain ⟨other, hother, rfl⟩ := List.mem_map.mp hmap
        exact other.quality_ne_nan (h other hother)
      rw [track_append_singleton, List.map_append]
      show (stableSort ranksBefore ((track calls).rankedEmbeddings ++ [call.ranked])).take _ = _
      rw [ih hcalls]
      apply @take_stableSort_take _ _ _ _ _ rankKey
      intro a ha b hb
      exact ranksBefore_iff (hnumber a ha) (hnumber b hb)

/-- The calls that bring a JPEG. -/
def withJpeg (calls : List AddCall) : List AddCall :=
  calls.filter fun call => !call.observation.representativeJpeg.isEmpty

/-- The first call of the highest confidence. -/
structure FirstBest (calls front : List AddCall) (best : AddCall) (back : List AddCall) :
    Prop where
  split : calls = front ++ best :: back
  before : ∀ call ∈ front, call.confidence.less best.confidence = true
  after : ∀ call ∈ back, call.confidence.lessEq best.confidence = true

/-- The JPEG of the first call of the highest confidence, among those that bring one. -/
def Represents (calls : List AddCall) (jpeg : List UInt8) : Prop :=
  (withJpeg calls = [] ∧ jpeg = []) ∨
    ∃ front best back, FirstBest (withJpeg calls) front best back ∧
      jpeg = best.observation.representativeJpeg

/-- What is at most a number is not above it. -/
theorem confidence_not_less {a b : AddCall} (ha : a.Finite) (hb : b.Finite)
    (h : b.confidence.lessEq a.confidence = true) : ¬ a.confidence.less b.confidence = true := by
  unfold AddCall.Finite at ha hb
  cases hp : a.confidence with
  | finite p =>
      cases hq : b.confidence with
      | finite q =>
          rw [hp, hq, FloatValue.lessEq_finite, decide_eq_true_eq] at h
          rw [FloatValue.less_finite, decide_eq_true_eq]
          exact not_lt.mpr h
      | infinite | nan =>
          rw [hq] at hb
          cases hb
  | infinite | nan =>
      rw [hp] at ha
      cases ha

/-- Neither of two first bests is before the other. -/
theorem FirstBest.unique {calls front front' back back' : List AddCall} {best best' : AddCall}
    (hfinite : ∀ call ∈ calls, call.Finite) (h : FirstBest calls front best back)
    (h' : FirstBest calls front' best' back') : best = best' := by
  have hmem : best ∈ calls := by rw [h.split]; simp
  have hmem' : best' ∈ calls := by rw [h'.split]; simp
  rcases List.append_eq_append_iff.mp (h.split.symm.trans h'.split) with
    ⟨middle, hfront, hback⟩ | ⟨middle, hfront, hback⟩
  · cases middle with
    | nil => exact (List.cons.inj hback).1
    | cons call middle =>
        obtain ⟨rfl, hrest⟩ := List.cons.inj hback
        have hafter := h.after best' (by rw [hrest]; simp)
        have hbefore := h'.before best (by rw [hfront]; simp)
        exact absurd hbefore (confidence_not_less (hfinite _ hmem) (hfinite _ hmem') hafter)
  · cases middle with
    | nil => exact (List.cons.inj hback).1.symm
    | cons call middle =>
        obtain ⟨rfl, hrest⟩ := List.cons.inj hback
        have hafter := h'.after best (by rw [hrest]; simp)
        have hbefore := h.before best' (by rw [hfront]; simp)
        exact absurd hbefore (confidence_not_less (hfinite _ hmem') (hfinite _ hmem) hafter)

theorem Represents.unique {calls : List AddCall} {jpeg jpeg' : List UInt8}
    (hfinite : ∀ call ∈ calls, call.Finite) (h : Represents calls jpeg)
    (h' : Represents calls jpeg') : jpeg = jpeg' := by
  have hsome : ∀ {front best back}, FirstBest (withJpeg calls) front best back →
      withJpeg calls ≠ [] := by
    intro front best back hbest hnone
    rw [hbest.split] at hnone
    simp at hnone
  have hwith : ∀ call ∈ withJpeg calls, call.Finite := fun call hcall =>
    hfinite call (List.mem_filter.mp hcall).1
  rcases h with ⟨hnone, rfl⟩ | ⟨front, best, back, hbest, rfl⟩
  · rcases h' with ⟨-, rfl⟩ | ⟨front', best', back', hbest', -⟩
    · rfl
    · exact absurd hnone (hsome hbest')
  · rcases h' with ⟨hnone, -⟩ | ⟨front', best', back', hbest', rfl⟩
    · exact absurd hnone (hsome hbest)
    · rw [hbest.unique hwith hbest']

/-- What the score is besides. -/
def Scores (calls : List AddCall) (state : TrackState) : Prop :=
  (withJpeg calls = [] ∧ state.representativeJpeg = [] ∧ state.representativeScore = .finite (-1)) ∨
    ∃ front best back, FirstBest (withJpeg calls) front best back ∧
      state.representativeJpeg = best.observation.representativeJpeg ∧
      state.representativeScore = best.confidence

theorem Scores.add {calls : List AddCall} {call : AddCall} {state : TrackState}
    (h : Scores calls state) (hcalls : ∀ call ∈ calls, call.Confident) (hcall : call.Confident) :
    Scores (calls ++ [call]) (state.add call) := by
  obtain ⟨q, hq, hq0, -⟩ := hcall
  have hconfidence : call.detection.detectorConfidence = .finite q := hq
  cases hjpeg : call.observation.representativeJpeg.isEmpty with
  | true =>
      -- nothing is replaced
      have hsame : withJpeg (calls ++ [call]) = withJpeg calls := by
        rw [withJpeg, List.filter_append, List.filter_cons_of_neg (by simp [hjpeg]),
          List.filter_nil, List.append_nil]
        rfl
      have himage : (state.add call).representativeJpeg = state.representativeJpeg := by
        simp [TrackState.add, hjpeg]
      have hscore : (state.add call).representativeScore = state.representativeScore := by
        simp [TrackState.add, hjpeg]
      unfold Scores
      rw [hsame, himage, hscore]
      exact h
  | false =>
      have hmore : withJpeg (calls ++ [call]) = withJpeg calls ++ [call] := by
        rw [withJpeg, List.filter_append, List.filter_cons_of_pos (by simp [hjpeg]),
          List.filter_nil]
        rfl
      unfold Scores
      rw [hmore]
      rcases h with ⟨hnone, -, hscore⟩ | ⟨front, best, back, hbest, himage, hscore⟩
      · have hless : state.representativeScore.less (.finite q) = true := by
          rw [hscore, FloatValue.less_finite, decide_eq_true_eq]
          linarith
        rw [hnone]
        refine .inr ⟨[], call, [], ⟨rfl, List.forall_mem_nil _, List.forall_mem_nil _⟩, ?_, ?_⟩
        · simp [TrackState.add, hjpeg, hconfidence, hless]
        · simp [TrackState.add, hjpeg, hconfidence, hless, hq]
      · have hmem : ∀ other ∈ withJpeg calls, other.Confident := by
          intro other hother
          exact hcalls other (List.mem_filter.mp hother).1
        obtain ⟨p, hp, -⟩ := hmem best (by rw [hbest.split]; simp)
        by_cases hless : p < q
        · -- the call is better than all before it
          refine .inr ⟨withJpeg calls, call, [], ⟨rfl, ?_, List.forall_mem_nil _⟩, ?_, ?_⟩
          · intro other hother
            obtain ⟨r, hr, -⟩ := hmem other hother
            rw [hr, hq, FloatValue.less_finite, decide_eq_true_eq]
            rw [hbest.split] at hother
            rcases List.mem_append.mp hother with hfront | hback
            · have hlt := hbest.before other hfront
              rw [hr, hp, FloatValue.less_finite, decide_eq_true_eq] at hlt
              linarith
            · rcases List.mem_cons.mp hback with rfl | hback
              · rw [hr] at hp
                rw [FloatValue.finite.inj hp]
                exact hless
              · have hle := hbest.after other hback
                rw [hr, hp, FloatValue.lessEq_finite, decide_eq_true_eq] at hle
                linarith
          · simp [TrackState.add, hjpeg, hconfidence, hscore, hp, hless]
          · simp [TrackState.add, hjpeg, hconfidence, hscore, hp, hless, hq]
        · refine .inr ⟨front, best, back ++ [call], ⟨?_, hbest.before, ?_⟩, ?_, ?_⟩
          · rw [hbest.split, List.append_assoc, List.cons_append]
          · intro other hother
            rcases List.mem_append.mp hother with hback | hnew
            · exact hbest.after other hback
            · obtain rfl := List.mem_singleton.mp hnew
              rw [hq, hp, FloatValue.lessEq_finite, decide_eq_true_eq]
              exact not_lt.mp hless
          · simp [TrackState.add, hjpeg, hconfidence, hscore, hp, hless, himage]
          · simp [TrackState.add, hjpeg, hconfidence, hscore, hp, hless]

theorem represents_track {calls : List AddCall} (h : ∀ call ∈ calls, call.Confident) :
    Represents calls (track calls).representativeJpeg := by
  have hscores : Scores calls (track calls) := by
    induction calls using List.reverseRecOn with
    | nil => exact .inl ⟨rfl, rfl, rfl⟩
    | append_singleton calls call ih =>
        have hcalls : ∀ call ∈ calls, call.Confident := by
          intro other hother
          exact h other (List.mem_append_left _ hother)
        rw [track_append_singleton]
        exact (ih hcalls).add hcalls (h call (List.mem_append_right _ List.mem_cons_self))
  rcases hscores with ⟨hnone, hjpeg, -⟩ | ⟨front, best, back, hbest, hjpeg, -⟩
  · exact .inl ⟨hnone, hjpeg⟩
  · exact .inr ⟨front, best, back, hbest, hjpeg⟩

/-! ## The tracks of a run -/

/-- The five best embeddings of a tracker, all observations taken at once. -/
def retained (trackerId : Nat) (calls : List AddCall) : List RankedEmbedding :=
  (stableSort ranksBefore ((observed trackerId calls).map AddCall.ranked)).take kTopObservations

/-- The mean, as it is computed, is a vector of numbers and not zero. -/
def HasMean (ranked : List RankedEmbedding) : Prop :=
  (∀ index, (mean ranked index).isFinite = true) ∧ ∃ index, mean ranked index ≠ .finite 0

/-- The map is read in some order, each tracker once. -/
structure Enumerates (tracks : Tracks) (order : List Nat) : Prop where
  nodup : order.Nodup
  all : ∀ trackerId, trackerId ∈ order ↔ tracks trackerId ≠ none

/-- What a track of `finish` has to be. -/
structure IsTrackOf (calls : List AddCall) (output : VideoTrackOutput) : Prop where
  detections : output.detections =
    stableSort frameBefore ((observed output.trackerId calls).map AddCall.detection)
  complete : output.detections.Perm ((observed output.trackerId calls).map AddCall.detection)
  jpeg : (∀ call ∈ observed output.trackerId calls, call.Confident) →
    Represents (observed output.trackerId calls) output.representativeJpeg

theorem AddCall.finite_of_observed {calls : List AddCall} (h : ∀ call ∈ calls, call.Finite)
    (trackerId : Nat) : ∀ call ∈ observed trackerId calls, call.Finite := by
  intro call hcall
  exact h call (List.mem_filter.mp hcall).1

section Outputs

variable {calls : List AddCall} {trackerId : Nat} {state : TrackState} {output : VideoTrackOutput}

theorem state_of_accumulate (h : accumulate calls trackerId = some state) :
    observed trackerId calls ≠ [] ∧ state = track (observed trackerId calls) := by
  rw [accumulate_eq] at h
  split at h
  · cases h
  · rename_i hseen
    exact ⟨hseen, (Option.some.inj h).symm⟩

theorem retained_of_accumulate (hfinite : ∀ call ∈ calls, call.Finite)
    (h : accumulate calls trackerId = some state) :
    state.rankedEmbeddings = retained trackerId calls := by
  obtain ⟨-, rfl⟩ := state_of_accumulate h
  exact rankedEmbeddings_track (AddCall.finite_of_observed hfinite trackerId)

theorem length_retained (trackerId : Nat) (calls : List AddCall) :
    (retained trackerId calls).length = min 5 (observed trackerId calls).length := by
  rw [retained, List.length_take, (stableSort_perm _ _).length_eq, List.length_map]
  rfl

theorem output_eq_some_iff (hfinite : ∀ call ∈ calls, call.Finite)
    (h : accumulate calls trackerId = some state) :
    (∃ output, state.output trackerId = some output) ↔ HasMean (retained trackerId calls) := by
  have hretained := retained_of_accumulate hfinite h
  obtain ⟨hseen, hstate⟩ := state_of_accumulate h
  have hpos := List.length_pos_iff.mpr hseen
  have hlength := length_retained trackerId calls
  have hne : retained trackerId calls ≠ [] := by
    rw [← List.length_pos_iff]
    omega
  have hdetections : state.detections ≠ [] := by
    rw [hstate, detections_track, ne_eq, List.map_eq_nil_iff]
    exact hseen
  have hempty : (state.rankedEmbeddings.isEmpty || state.detections.isEmpty) = false := by
    rw [hretained, Bool.or_eq_false_iff, List.isEmpty_eq_false_iff, List.isEmpty_eq_false_iff]
    exact ⟨hne, hdetections⟩
  unfold HasMean
  rw [TrackState.output, hempty, if_neg Bool.false_ne_true, hretained,
    ← norm_iff hne (by omega)]
  cases hnorm : (normSquared (retained trackerId calls)).lessEq (.finite 0) ||
      !(normSquared (retained trackerId calls)).isFinite with
  | true =>
      rw [if_pos rfl]
      constructor
      · rintro ⟨output, hnone⟩
        cases hnone
      · rintro ⟨⟩
  | false =>
      rw [if_neg Bool.false_ne_true]
      exact iff_of_true ⟨_, rfl⟩ rfl

theorem output_parts (h : state.output trackerId = some output) :
    output.trackerId = trackerId ∧ state.detections ≠ [] ∧
      output.representativeJpeg = state.representativeJpeg ∧
      output.detections = stableSort frameBefore state.detections := by
  unfold TrackState.output at h
  split at h
  · cases h
  · rename_i hempty
    split at h
    · cases h
    · obtain rfl := Option.some.inj h
      rw [Bool.not_eq_true, Bool.or_eq_false_iff, List.isEmpty_eq_false_iff,
        List.isEmpty_eq_false_iff] at hempty
      exact ⟨rfl, hempty.2, rfl, rfl⟩

/-- The tracks before they are sorted. -/
theorem mem_finish {tracks : Tracks} {order : List Nat} (horder : Enumerates tracks order) :
    output ∈ finish tracks order ↔
      ∃ state, tracks output.trackerId = some state ∧
        state.output output.trackerId = some output := by
  unfold finish
  rw [(stableSort_perm _ _).mem_iff, List.mem_filterMap]
  constructor
  · rintro ⟨trackerId, -, hbind⟩
    obtain ⟨state, hstate, houtput⟩ := Option.bind_eq_some_iff.mp hbind
    obtain ⟨rfl, -⟩ := output_parts houtput
    exact ⟨state, hstate, houtput⟩
  · rintro ⟨state, hstate, houtput⟩
    refine ⟨output.trackerId, (horder.all _).mpr ?_, Option.bind_eq_some_iff.mpr
      ⟨state, hstate, houtput⟩⟩
    rw [hstate]
    exact Option.some_ne_none state

theorem trackerIds_sublist (tracks : Tracks) (order : List Nat) :
    ((order.filterMap fun trackerId =>
      (tracks trackerId).bind (TrackState.output trackerId)).map
        VideoTrackOutput.trackerId).Sublist order := by
  induction order with
  | nil => exact List.Sublist.refl _
  | cons trackerId order ih =>
      cases hbind : (tracks trackerId).bind (TrackState.output trackerId) with
      | none =>
          rw [@List.filterMap_cons_none _ _ _ trackerId order hbind]
          exact ih.cons trackerId
      | some output =>
          obtain ⟨state, -, houtput⟩ := Option.bind_eq_some_iff.mp hbind
          obtain ⟨hid, -⟩ := output_parts houtput
          rw [@List.filterMap_cons_some _ _ _ trackerId order output hbind, List.map_cons, hid]
          exact ih.cons_cons trackerId

theorem nodup_finish {tracks : Tracks} {order : List Nat} (horder : Enumerates tracks order) :
    ((finish tracks order).map VideoTrackOutput.trackerId).Nodup := by
  unfold finish
  rw [((stableSort_perm _ _).map _).nodup_iff]
  exact horder.nodup.sublist (trackerIds_sublist tracks order)

/-- What the tracks are sorted by. -/
def trackKey (output : VideoTrackOutput) : Nat ×ₗ Nat := toLex (output.firstFrame, output.trackerId)

theorem tracksBefore_iff (a b : VideoTrackOutput) :
    tracksBefore a b = true ↔ trackKey a < trackKey b := by
  unfold tracksBefore trackKey
  rw [Prod.Lex.toLex_lt_toLex]
  by_cases hframe : a.firstFrame = b.firstFrame
  · simp [hframe]
  · simp [hframe]

/-- Two tracks have different keys, so the order is strict. -/
theorem sorted_finish {tracks : Tracks} {order : List Nat} (horder : Enumerates tracks order) :
    (finish tracks order).Pairwise fun a b => trackKey a < trackKey b := by
  have hsorted : (finish tracks order).Pairwise fun a b => trackKey a ≤ trackKey b := by
    apply pairwise_stableSort
    intro a _ b _
    exact tracksBefore_iff a b
  have hnodup := List.pairwise_map.mp (nodup_finish horder)
  apply hsorted.imp₂ _ hnodup
  intro a b hle hne
  refine lt_of_le_of_ne hle ?_
  intro hkey
  exact hne (Prod.ext_iff.mp (toLex_inj.mp hkey)).2

end Outputs

/-- For any calls with finite confidences: each tracker keeps the five best of all its
observations, and `finish` makes one track of each tracker with a mean, of all its detections. -/
theorem finish_accumulate (calls : List AddCall) (order : List Nat)
    (hfinite : ∀ call ∈ calls, call.Finite) (horder : Enumerates (accumulate calls) order) :
    (∀ trackerId state, accumulate calls trackerId = some state →
        state.rankedEmbeddings = retained trackerId calls) ∧
      ((finish (accumulate calls) order).map VideoTrackOutput.trackerId).Nodup ∧
      (∀ trackerId, trackerId ∈ (finish (accumulate calls) order).map VideoTrackOutput.trackerId ↔
        observed trackerId calls ≠ [] ∧ HasMean (retained trackerId calls)) ∧
      (∀ output ∈ finish (accumulate calls) order, IsTrackOf calls output) ∧
      (finish (accumulate calls) order).Pairwise fun a b => trackKey a < trackKey b := by
  refine ⟨?_, nodup_finish horder, ?_, ?_, sorted_finish horder⟩
  · intro trackerId state hstate
    exact retained_of_accumulate hfinite hstate
  · intro trackerId
    rw [List.mem_map]
    constructor
    · rintro ⟨output, houtput, rfl⟩
      obtain ⟨state, hstate, hmade⟩ := (mem_finish horder).mp houtput
      exact ⟨(state_of_accumulate hstate).1,
        (output_eq_some_iff hfinite hstate).mp ⟨output, hmade⟩⟩
    · rintro ⟨hseen, hmean⟩
      have hstate : accumulate calls trackerId = some (track (observed trackerId calls)) := by
        rw [accumulate_eq, if_neg hseen]
      obtain ⟨output, houtput⟩ := (output_eq_some_iff hfinite hstate).mpr hmean
      obtain ⟨hid, -⟩ := output_parts houtput
      obtain rfl := hid
      exact ⟨output, (mem_finish horder).mpr ⟨_, hstate, houtput⟩, rfl⟩
  · intro output houtput
    obtain ⟨state, hstate, hmade⟩ := (mem_finish horder).mp houtput
    obtain ⟨-, -, hjpeg, hdetections⟩ := output_parts hmade
    obtain ⟨-, rfl⟩ := state_of_accumulate hstate
    rw [detections_track] at hdetections
    refine ⟨hdetections, ?_, ?_⟩
    · rw [hdetections]
      exact stableSort_perm _ _
    · intro hconfident
      rw [hjpeg]
      exact represents_track hconfident

/-! ## Embeddings along one axis -/

theorem zero_lt_dimension : 0 < 512 := by decide

theorem axis_has {value : FloatValue} (h : binary32.Has 8 value) (index : Fin 512) :
    binary32.Has 8
      (((Vector.replicate 512 (.finite 0)).set 0 value zero_lt_dimension).get index) := by
  change binary32.Has 8 (((Vector.replicate 512 (.finite 0)).set 0 value)[index.val])
  rw [Vector.getElem_set]
  split
  · exact h
  · rw [Vector.getElem_replicate]
    exact has_zero

/-- The embedding with this first component and no other one. -/
def axis (value : FloatValue) (h : binary32.Has 8 value) : Embedding :=
  ⟨(Vector.replicate 512 (.finite 0)).set 0 value zero_lt_dimension, axis_has h⟩

/-- A face of the tracker with this first component. -/
def face (trackerId frame : Nat) (value : FloatValue) (h : binary32.Has 8 value) : AddCall where
  observation :=
    { trackerId
      detection :=
        { frame
          timestamp := .finite 0
          x := .finite 0
          y := .finite 0
          width := .finite 64
          height := .finite 64
          detectorConfidence := .finite (1 / 2)
          landmarks := Vector.replicate 10 (.finite 1) }
      embedding := axis value h
      representativeJpeg := [0xFF, 0xD8] }
  frameWidth := 640
  frameHeight := 480

theorem axis_get (value : FloatValue) (h : binary32.Has 8 value) (index : Fin 512) :
    (axis value h).val.get index = if index = 0 then value else .finite 0 := by
  show ((Vector.replicate 512 (.finite 0)).set 0 value)[index.val] = _
  rw [Vector.getElem_set, Vector.getElem_replicate]
  by_cases hzero : index = 0
  · subst hzero
    rfl
  · rw [if_neg hzero, if_neg]
    intro hval
    exact hzero (Fin.ext hval.symm)

theorem mean_eq {ranked : List RankedEmbedding} {index : Fin 512} {values : List FloatValue}
    (h : ranked.map (fun item => item.embedding.val.get index) = values) :
    mean ranked index =
      binary64.div (values.foldl binary64.add (.finite 0)) (binary64.round values.length) := by
  change binary64.div
    ((ranked.map fun item => item.embedding.val.get index).foldl binary64.add (.finite 0))
    (binary64.round ranked.length) = _
  rw [h, ← h, List.length_map]

theorem has_two : binary32.Has 8 (.finite 2) :=
  binary32_has_dyadic 2 0 (by norm_num) (by decide) (by decide) (by decide)

theorem has_three : binary32.Has 8 (.finite 3) :=
  binary32_has_dyadic 3 0 (by norm_num) (by decide) (by decide) (by decide)

/-- A face with this confidence and this crop. -/
def sighting (trackerId frame : Nat) (confidence : ℚ) (crop : List UInt8) (value : FloatValue)
    (h : binary32.Has 8 value) : AddCall :=
  let call := face trackerId frame value h
  { call with
    observation :=
      { call.observation with
        detection := { call.observation.detection with detectorConfidence := .finite confidence }
        representativeJpeg := crop } }

/-- Tracker 7 is seen six times: twice with the same quality in the same frame, and twice with the
highest confidence.  Tracker 8 is seen in the first frame of tracker 7. -/
def sightings : List AddCall :=
  [sighting 7 5 (1 / 2) [0xFF, 0xD8, 1] (.finite 1) has_one,
    sighting 7 3 (1 / 2) [] (.finite 2) has_two,
    sighting 8 3 (1 / 4) [0xFF, 0xD8, 2] (.finite 1) has_one,
    sighting 7 5 (1 / 2) [0xFF, 0xD8, 3] (.finite 3) has_three,
    sighting 7 9 (3 / 4) [0xFF, 0xD8, 4] (.finite 1) has_one,
    sighting 7 7 (3 / 4) [0xFF, 0xD8, 5] (.finite 2) has_two,
    sighting 7 8 (1 / 4) [0xFF, 0xD8, 6] (.finite 3) has_three]

theorem sightings_axis : ∀ call ∈ sightings, ∃ value h, call.observation.embedding = axis value h := by
  intro call hcall
  simp only [sightings, List.mem_cons, List.not_mem_nil, or_false] at hcall
  rcases hcall with rfl | rfl | rfl | rfl | rfl | rfl | rfl
  all_goals first | exact ⟨_, has_one, rfl⟩ | exact ⟨_, has_two, rfl⟩ | exact ⟨_, has_three, rfl⟩

/-- Off the first axis the embeddings that are retained have no component. -/
theorem sightings_off_axis {trackerId : Nat} {index : Fin 512} (hindex : index ≠ 0) {count : Nat}
    (hcount : (retained trackerId sightings).length = count) :
    (retained trackerId sightings).map (fun item => item.embedding.val.get index) =
      List.replicate count (.finite 0) := by
  rw [List.eq_replicate_iff, List.length_map]
  refine ⟨hcount, ?_⟩
  intro value hvalue
  obtain ⟨item, hitem, rfl⟩ := List.mem_map.mp hvalue
  have hranked := (stableSort_perm _ _).mem_iff.mp (List.mem_of_mem_take hitem)
  obtain ⟨call, hcall, rfl⟩ := List.mem_map.mp hranked
  obtain ⟨value, hvalue, haxis⟩ := sightings_axis call (List.mem_filter.mp hcall).1
  show call.observation.embedding.val.get index = _
  rw [haxis, axis_get, if_neg hindex]

theorem hasMean_sightings : HasMean (retained 7 sightings) ∧ HasMean (retained 8 sightings) := by
  have hmean : ∀ trackerId count, (retained trackerId sightings).length = count ∧
      (mean (retained trackerId sightings) 0).isFinite = true ∧
      mean (retained trackerId sightings) 0 ≠ .finite 0 ∧
      (binary64.div ((List.replicate count (.finite 0)).foldl binary64.add (.finite 0))
        (binary64.round (List.replicate count (FloatValue.finite 0)).length)).isFinite = true →
      HasMean (retained trackerId sightings) := by
    rintro trackerId count ⟨hcount, hfinite, hne, hzero⟩
    refine ⟨?_, 0, hne⟩
    intro index
    by_cases hindex : index = 0
    · subst hindex
      exact hfinite
    · rw [mean_eq (sightings_off_axis hindex hcount)]
      exact hzero
  exact ⟨hmean 7 5 (by decide +kernel), hmean 8 1 (by decide +kernel)⟩

theorem observed_sightings {trackerId : Nat} :
    observed trackerId sightings ≠ [] ↔ trackerId ∈ [8, 7] := by
  constructor
  · intro hsome
    obtain ⟨call, hcall⟩ := List.exists_mem_of_ne_nil _ hsome
    obtain ⟨hmem, hid⟩ := List.mem_filter.mp hcall
    have hall : ∀ call ∈ sightings, call.observation.trackerId ∈ [8, 7] := by decide
    rw [← eq_of_beq hid]
    exact hall call hmem
  · intro hmem
    rcases List.mem_cons.mp hmem with rfl | hmem
    · exact List.cons_ne_nil _ _
    · obtain rfl := List.mem_singleton.mp hmem
      exact List.cons_ne_nil _ _

theorem enumerates_sightings : Enumerates (accumulate sightings) [8, 7] := by
  refine ⟨by decide, ?_⟩
  intro trackerId
  rw [← observed_sightings, accumulate_eq]
  by_cases hnone : observed trackerId sightings = []
  · rw [if_pos hnone]
    exact iff_of_false (not_not_intro hnone) (not_not_intro rfl)
  · rw [if_neg hnone]
    exact iff_of_true hnone (Option.some_ne_none _)

/-- What the calls of a tracker make of its track. -/
theorem sightings_row {output : VideoTrackOutput} (h : IsTrackOf sightings output)
    (hid : output.trackerId ∈ [8, 7]) :
    (output.trackerId, output.representativeJpeg, output.detections.map VideoDetection.frame) =
        (7, [0xFF, 0xD8, 4], [3, 5, 5, 7, 8, 9]) ∨
      (output.trackerId, output.representativeJpeg, output.detections.map VideoDetection.frame) =
        (8, [0xFF, 0xD8, 2], [3]) := by
  have hconfident : ∀ call ∈ sightings, call.Confident := by
    intro call hcall
    simp only [sightings, List.mem_cons, List.not_mem_nil, or_false] at hcall
    rcases hcall with rfl | rfl | rfl | rfl | rfl | rfl | rfl
    all_goals exact ⟨_, rfl, by norm_num, by norm_num⟩
  have hfinite : ∀ call ∈ sightings, call.Finite := by decide
  have hjpeg := h.jpeg fun call hcall => hconfident call (List.mem_filter.mp hcall).1
  have hdetections := h.detections
  rcases List.mem_cons.mp hid with height | hmem
  · refine .inr ?_
    rw [height] at hjpeg hdetections ⊢
    have hbest : Represents (observed 8 sightings) [0xFF, 0xD8, 2] :=
      .inr ⟨[], _, [], ⟨rfl, List.forall_mem_nil _, List.forall_mem_nil _⟩, rfl⟩
    rw [hjpeg.unique (AddCall.finite_of_observed hfinite 8) hbest, hdetections]
    decide
  · refine .inl ?_
    rw [List.mem_singleton.mp hmem] at hjpeg hdetections ⊢
    have hbest : Represents (observed 7 sightings) [0xFF, 0xD8, 4] := by
      refine .inr ⟨(withJpeg (observed 7 sightings)).take 2,
        sighting 7 9 (3 / 4) [0xFF, 0xD8, 4] (.finite 1) has_one,
        (withJpeg (observed 7 sightings)).drop 3, ⟨rfl, ?_, ?_⟩, rfl⟩
      · refine List.forall_mem_cons.mpr ⟨?_, List.forall_mem_singleton.mpr ?_⟩
        all_goals exact decide_eq_true (by norm_num)
      · refine List.forall_mem_cons.mpr ⟨?_, List.forall_mem_singleton.mpr ?_⟩
        all_goals exact decide_eq_true (by norm_num)
    rw [hjpeg.unique (AddCall.finite_of_observed hfinite 7) hbest, hdetections]
    decide

theorem trackKey_of_row {output : VideoTrackOutput} {trackerId : Nat} {jpeg : List UInt8}
    {frames : List Nat}
    (h : (output.trackerId, output.representativeJpeg,
      output.detections.map VideoDetection.frame) = (trackerId, jpeg, frames)) :
    trackKey output = toLex (frames.head?.getD 0, trackerId) := by
  obtain ⟨hid, hrest⟩ := Prod.mk.inj h
  obtain ⟨-, hframes⟩ := Prod.mk.inj hrest
  rw [trackKey, hid, VideoTrackOutput.firstFrame, ← hframes, List.head?_map]

/-- The sixth of tracker 7 is dropped, equal ones stay in the order of the calls, the first crop of the
highest confidence is kept, and the trackers come by their first frame and their number. -/
theorem finish_sightings :
    (∀ call ∈ sightings, call.Finite) ∧ Enumerates (accumulate sightings) [8, 7] ∧
      (accumulate sightings 7).map (fun state => state.rankedEmbeddings.map fun item =>
          (item.quality, item.frame, getElem item.embedding.val 0 zero_lt_dimension)) =
        some [(.finite 48, 7, .finite 2), (.finite 48, 9, .finite 1), (.finite 32, 3, .finite 2),
          (.finite 32, 5, .finite 1), (.finite 32, 5, .finite 3)] ∧
      (finish (accumulate sightings) [8, 7]).map (fun output =>
          (output.trackerId, output.representativeJpeg,
            output.detections.map VideoDetection.frame)) =
        [(7, [0xFF, 0xD8, 4], [3, 5, 5, 7, 8, 9]), (8, [0xFF, 0xD8, 2], [3])] := by
  have hfinite : ∀ call ∈ sightings, call.Finite := by decide
  obtain ⟨hretained, hnodup, htrackers, htracks, hsorted⟩ :=
    finish_accumulate sightings [8, 7] hfinite enumerates_sightings
  refine ⟨hfinite, enumerates_sightings, ?_, ?_⟩
  · have hstate : accumulate sightings 7 = some (track (observed 7 sightings)) := rfl
    rw [hstate, Option.map_some, hretained 7 _ hstate]
    decide +kernel
  · have hids : ((finish (accumulate sightings) [8, 7]).map VideoTrackOutput.trackerId).Perm
        [8, 7] := by
      refine (List.perm_ext_iff_of_nodup hnodup (by decide)).mpr fun trackerId => ?_
      rw [htrackers, observed_sightings]
      refine ⟨And.left, fun hmem => ⟨hmem, ?_⟩⟩
      rcases List.mem_cons.mp hmem with rfl | hmem
      · exact hasMean_sightings.2
      · obtain rfl := List.mem_singleton.mp hmem
        exact hasMean_sightings.1
    have hrow : ∀ output ∈ finish (accumulate sightings) [8, 7], _ := fun output houtput =>
      sightings_row (htracks output houtput)
        (hids.subset (List.mem_map_of_mem houtput))
    have hlength := hids.length_eq
    rw [List.length_map] at hlength
    obtain ⟨first, second, hboth⟩ := List.length_eq_two.mp hlength
    rw [hboth] at hnodup hsorted hrow ⊢
    have hne : first.trackerId ≠ second.trackerId := by simpa using hnodup
    have hlt : trackKey first < trackKey second := by simpa using hsorted
    rcases hrow first List.mem_cons_self with hfirst | hfirst
    · rcases hrow second (List.mem_cons_of_mem _ List.mem_cons_self) with hsecond | hsecond
      · exact absurd ((Prod.mk.inj hfirst).1.trans (Prod.mk.inj hsecond).1.symm) hne
      · rw [List.map_cons, List.map_singleton, hfirst, hsecond]
    · rcases hrow second (List.mem_cons_of_mem _ List.mem_cons_self) with hsecond | hsecond
      · -- both begin in frame 3, so tracker 7 comes first
        rw [trackKey_of_row hfirst, trackKey_of_row hsecond] at hlt
        exact absurd hlt (by decide)
      · exact absurd ((Prod.mk.inj hfirst).1.trans (Prod.mk.inj hsecond).1.symm) hne

theorem has_huge : binary32.Has 8 (.finite (2 ^ 100)) :=
  binary32_has_dyadic 1 100 (by norm_num) (by decide) (by decide) (by decide)

theorem has_hugeNegative : binary32.Has 8 (.finite (-2 ^ 100)) :=
  binary32_has_dyadic (-1) 100 (by norm_num) (by decide) (by decide) (by decide)

theorem has_infinity : binary32.Has 8 (.infinite false) := ⟨2139095040, by decide⟩

/-- Tracker 7 has three embeddings whose mean is small beside them, tracker 8 one that is not
finite. -/
def extremes : List AddCall :=
  [face 7 0 (.finite (2 ^ 100)) has_huge, face 7 1 (.finite 1) has_one,
    face 7 2 (.finite (-2 ^ 100)) has_hugeNegative, face 8 0 (.infinite false) has_infinity]

theorem retained_extremes : retained 7 extremes =
    [face 7 0 (.finite (2 ^ 100)) has_huge, face 7 1 (.finite 1) has_one,
      face 7 2 (.finite (-2 ^ 100)) has_hugeNegative].map AddCall.ranked := by
  have hobserved : observed 7 extremes =
      [face 7 0 (.finite (2 ^ 100)) has_huge, face 7 1 (.finite 1) has_one,
        face 7 2 (.finite (-2 ^ 100)) has_hugeNegative] := rfl
  rw [retained, hobserved, stableSort, List.Pairwise.insertionSort_eq]
  · rfl
  · decide +kernel

/-- A huge number, a small one and the first one away again. -/
theorem mean_extremes (index : Fin 512) : mean (retained 7 extremes) index = .finite 0 := by
  have hvalues : (retained 7 extremes).map (fun item => item.embedding.val.get index) =
      if index = 0 then [.finite (2 ^ 100), .finite 1, .finite (-2 ^ 100)]
      else [.finite 0, .finite 0, .finite 0] := by
    rw [retained_extremes]
    show [(axis _ has_huge).val.get index, (axis _ has_one).val.get index,
      (axis _ has_hugeNegative).val.get index] = _
    rw [axis_get, axis_get, axis_get]
    by_cases hzero : index = 0
    · rw [if_pos hzero, if_pos hzero, if_pos hzero, if_pos hzero]
    · rw [if_neg hzero, if_neg hzero, if_neg hzero, if_neg hzero]
  rw [mean_eq hvalues]
  by_cases hzero : index = 0
  · rw [if_pos hzero]
    decide +kernel
  · rw [if_neg hzero]
    decide +kernel

/-- Neither tracker becomes a track: the one mean is rounded to zero, the other is +∞. -/
theorem extremes_dropped :
    (retained 7 extremes).map (fun item => getElem item.embedding.val 0 zero_lt_dimension) =
        [.finite (2 ^ 100), .finite 1, .finite (-2 ^ 100)] ∧
      (2 ^ 100 + 1 + -2 ^ 100 : ℚ) / 3 ≠ 0 ∧
      mean (retained 8 extremes) 0 = .infinite false ∧
      finish (accumulate extremes) [7, 8] = [] := by
  have hfinite : ∀ call ∈ extremes, call.Finite := by decide
  have hinfinite : mean (retained 8 extremes) 0 = .infinite false := by
    have hvalues : (retained 8 extremes).map (fun item => item.embedding.val.get 0) =
        [.infinite false] := rfl
    have hround : binary64.round ([FloatValue.infinite false].length : ℚ) = .finite 1 :=
      FloatFormat.round_of_has FloatFormat.spans_binary64 (binary64_has_of_binary32 has_one)
    rw [mean_eq hvalues, hround]
    rfl
  have hvalues :
      (retained 7 extremes).map (fun item => getElem item.embedding.val 0 zero_lt_dimension) =
      [.finite (2 ^ 100), .finite 1, .finite (-2 ^ 100)] := by
    rw [retained_extremes]
    rfl
  have hmean : (2 ^ 100 + 1 + -2 ^ 100 : ℚ) / 3 ≠ 0 := by norm_num
  have hnone : ∀ trackerId, ¬ HasMean (retained trackerId extremes) →
      (accumulate extremes trackerId).bind (TrackState.output trackerId) = none := by
    intro trackerId hwithout
    rw [Option.bind_eq_none_iff]
    intro state hstate
    rw [Option.eq_none_iff_forall_ne_some]
    intro output houtput
    exact hwithout ((output_eq_some_iff hfinite hstate).mp ⟨output, houtput⟩)
  have hseven : ¬ HasMean (retained 7 extremes) := by
    rintro ⟨-, index, hindex⟩
    exact hindex (mean_extremes index)
  have height : ¬ HasMean (retained 8 extremes) := by
    rintro ⟨hnumbers, -⟩
    have hnumber := hnumbers 0
    rw [hinfinite] at hnumber
    cases hnumber
  have hempty : ([7, 8].filterMap fun trackerId =>
      (accumulate extremes trackerId).bind (TrackState.output trackerId)) = [] := by
    rw [List.filterMap_eq_nil_iff]
    intro trackerId hmem
    rcases List.mem_cons.mp hmem with rfl | hmem
    · exact hnone 7 hseven
    · obtain rfl := List.mem_singleton.mp hmem
      exact hnone 8 height
  refine ⟨hvalues, hmean, hinfinite, ?_⟩
  rw [finish, hempty]
  rfl

end Mvision.Video.Native
