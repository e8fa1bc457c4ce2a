import Mathlib
import Mvision.Library.Partition
import Mvision.Library.Vectors

/-!
# `VideoTrackingService`

The arithmetic is that of an ordered field with a square root.  The rounding of durations is a
parameter, and so are the fresh ids of tracks, numbered in the order in which they are drawn.
-/

namespace Mvision.Video.Tracking

open Mvision.Library

variable {K : Type}

/-! ## Tracks -/

structure VideoDetection (K : Type) where
  frame : Int
  timestamp : K
  x : K
  y : K
  width : K
  height : K
  detectorConfidence : K
  landmarks : List K
deriving DecidableEq

structure VideoTrackOutput (K : Type) where
  trackerId : Int
  embedding : List K
  representativeJpeg : List UInt8
  detections : List (VideoDetection K)
deriving DecidableEq

/-- `track for track in raw_tracks if track.detections` -/
abbrev SightedTrack (K : Type) := {track : VideoTrackOutput K // track.detections ≠ []}

structure SourceTrackTemplate (K : Type) where
  embedding : List K
  detectionCount : Nat
  bestConfidence : K
deriving DecidableEq

structure Appearance (K : Type) where
  start : K
  stop : K
  startFrame : Int
  endFrame : Int
deriving DecidableEq

structure CanonicalVideoTrack (K : Type) where
  trackId : String
  sourceTrackerIds : List Int
  embedding : List K
  representativeJpeg : List UInt8
  detections : List (VideoDetection K)
  appearances : List (Appearance K)
  firstSeen : K
  lastSeen : K
  totalDuration : K
  sourceTemplates : List (SourceTrackTemplate K)
deriving DecidableEq

/-- `_WorkingTrack`, which never is without a detection. -/
structure WorkingTrack (K : Type) where
  trackId : String
  sourceTrackerIds : List Int
  sourceEmbeddings : List (List K)
  sourceTemplates : List (SourceTrackTemplate K)
  embedding : List K
  representativeJpeg : List UInt8
  representativeScore : K
  detections : List (VideoDetection K)
  sighted : detections ≠ []

/-! ## The helpers -/

/-- `sorted(..., key=lambda item: item.frame)`, which is stable. -/
def sortByFrame (detections : List (VideoDetection K)) : List (VideoDetection K) :=
  detections.insertionSort fun a b => a.frame ≤ b.frame

theorem sortByFrame_ne_nil {detections : List (VideoDetection K)} (h : detections ≠ []) :
    sortByFrame detections ≠ [] := by
  intro hnil
  have hlength := List.length_insertionSort (fun a b : VideoDetection K => a.frame ≤ b.frame)
    detections
  rw [show detections.insertionSort (fun a b => a.frame ≤ b.frame) = [] from hnil] at hlength
  exact h (List.length_eq_zero_iff.mp hlength.symm)

section Helpers

variable [Field K] [LinearOrder K]

/-- `_cosine` -/
def cosine (left right : List K) : K :=
  if left.length ≠ right.length ∨ left = [] then 0 else dot left right

/-- `_normalize`, or its `ValueError`. -/
def normalize (sqrt : K → K) (values : List K) : Option (List K) :=
  let norm := sqrt (dot values values)
  if norm ≤ 0 then none else some (values.map (· / norm))

/-- `_overlaps` -/
def overlaps {left right : List (VideoDetection K)} (hleft : left ≠ []) (hright : right ≠ []) :
    Bool :=
  decide ((left.head hleft).frame ≤ (right.getLast hright).frame) &&
    decide ((right.head hright).frame ≤ (left.getLast hleft).frame)

/-- `max(item.detector_confidence for item in detections)` -/
def bestConfidence {detections : List (VideoDetection K)} (h : detections ≠ []) : K :=
  (detections.tail.map (·.detectorConfidence)).foldl max (detections.head h).detectorConfidence

/-- `_source_template` -/
def sourceTemplate (raw : SightedTrack K) : SourceTrackTemplate K where
  embedding := raw.val.embedding
  detectionCount := raw.val.detections.length
  bestConfidence := bestConfidence raw.property

end Helpers

/-! ## `_finalize` -/

section Finalize

variable [Field K] [LinearOrder K]

/-- `_appearance` -/
def appearance (start stop : VideoDetection K) : Appearance K :=
  ⟨start.timestamp, stop.timestamp, start.frame, stop.frame⟩

/-- The loop of `_finalize` over the later detections, and the appearance after it. -/
def appearances (maxGap : K) : (start previous : VideoDetection K) → List (VideoDetection K) →
    List (Appearance K)
  | start, previous, [] => [appearance start previous]
  | start, previous, detection :: rest =>
      if maxGap < detection.timestamp - previous.timestamp then
        appearance start previous :: appearances maxGap detection detection rest
      else appearances maxGap start detection rest

def finalize (maxGap : K) (roundSix : K → K) (track : WorkingTrack K) : CanonicalVideoTrack K :=
  let start := track.detections.head track.sighted
  let found := appearances maxGap start start track.detections.tail
  { trackId := track.trackId
    sourceTrackerIds := track.sourceTrackerIds
    embedding := track.embedding
    representativeJpeg := track.representativeJpeg
    detections := track.detections
    appearances := found
    firstSeen := start.timestamp
    lastSeen := (track.detections.getLast track.sighted).timestamp
    totalDuration := roundSix ((found.map fun item => item.stop - item.start).sum)
    sourceTemplates := track.sourceTemplates }

end Finalize

/-! ## `reconcile` -/

/-- The settings of the service, the functions of the standard library, and the fresh ids. -/
structure TrackingService (K : Type) where
  threshold : K
  maxGap : K
  sqrt : K → K
  roundSix : K → K
  newTrackId : Nat → String

/-- The tracks with detections. -/
def sightedTracks (rawTracks : List (VideoTrackOutput K)) : List (SightedTrack K) :=
  rawTracks.filterMap fun track =>
    if h : track.detections ≠ [] then some ⟨track, h⟩ else none

def SightedTrack.firstFrame (raw : SightedTrack K) : Int := (raw.val.detections.head raw.2).frame

def SightedTrack.lastFrame (raw : SightedTrack K) : Int :=
  (raw.val.detections.getLast raw.2).frame

/-- The order of the keys `(track.detections[0].frame, track.tracker_id)`. -/
def KeyLE (a b : SightedTrack K) : Prop :=
  a.firstFrame < b.firstFrame ∨ (a.firstFrame = b.firstFrame ∧ a.val.trackerId ≤ b.val.trackerId)

instance keyLEDecidable : DecidableRel (KeyLE (K := K)) := fun _ _ =>
  inferInstanceAs (Decidable (_ ∨ _))

def ordered (rawTracks : List (VideoTrackOutput K)) : List (SightedTrack K) :=
  (sightedTracks rawTracks).insertionSort KeyLE

/-- The index of the first of the candidates with the greatest score. -/
def best [LinearOrder K] : List (Nat × K) → Option (Nat × K)
  | [] => none
  | first :: rest =>
      some (rest.foldl (fun best item => if best.2 < item.2 then item else best) first)

namespace TrackingService

variable [Field K] [LinearOrder K] (service : TrackingService K)

/-- A track may take a raw track. -/
def admits (track : WorkingTrack K) (raw : SightedTrack K) : Bool :=
  !overlaps track.sighted raw.property &&
    track.sourceEmbeddings.all fun source => service.threshold ≤ cosine source raw.val.embedding

def candidates (working : List (WorkingTrack K)) (raw : SightedTrack K) : List (Nat × K) :=
  working.zipIdx.filterMap fun (track, index) =>
    if service.admits track raw then some (index, cosine track.embedding raw.val.embedding)
    else none

/-- A new track for a raw one. -/
def newTrack (number : Nat) (raw : SightedTrack K) : Option (WorkingTrack K) := do
  let embedding ← normalize service.sqrt raw.val.embedding
  return {
    trackId := service.newTrackId number
    sourceTrackerIds := [raw.val.trackerId]
    sourceEmbeddings := [raw.val.embedding]
    sourceTemplates := [sourceTemplate raw]
    embedding := embedding
    representativeJpeg := raw.val.representativeJpeg
    representativeScore := bestConfidence raw.property
    detections := sortByFrame raw.val.detections
    sighted := sortByFrame_ne_nil raw.property }

/-- A raw track is added to a track. -/
def merge (selected : WorkingTrack K) (raw : SightedTrack K) : Option (WorkingTrack K) := do
  let embedding ← normalize service.sqrt
    (List.zipWith (· + ·) selected.embedding raw.val.embedding)
  let score := bestConfidence raw.property
  let better := raw.val.representativeJpeg ≠ [] ∧ selected.representativeScore < score
  return {
    trackId := selected.trackId
    sourceTrackerIds := selected.sourceTrackerIds ++ [raw.val.trackerId]
    sourceEmbeddings := selected.sourceEmbeddings ++ [raw.val.embedding]
    sourceTemplates := selected.sourceTemplates ++ [sourceTemplate raw]
    embedding := embedding
    representativeJpeg :=
      if better then raw.val.representativeJpeg else selected.representativeJpeg
    representativeScore := if better then score else selected.representativeScore
    detections := sortByFrame (selected.detections ++ raw.val.detections)
    sighted := sortByFrame_ne_nil (List.append_ne_nil_of_left_ne_nil selected.sighted _) }

/-- A round of the loop; the index of a candidate is one of a track. -/
def place (working : List (WorkingTrack K)) (raw : SightedTrack K) :
    Option (List (WorkingTrack K)) :=
  match best (service.candidates working raw) with
  | none => (service.newTrack working.length raw).map fun track => working ++ [track]
  | some (index, _) => do
      let selected ← working[index]?
      let merged ← service.merge selected raw
      return working.set index merged

/-- `reconcile`, or its `ValueError`. -/
def reconcile (rawTracks : List (VideoTrackOutput K)) : Option (List (CanonicalVideoTrack K)) := do
  let working ← (ordered rawTracks).foldlM service.place []
  return working.map (finalize service.maxGap service.roundSix)

end TrackingService

/-! ## Products and norms -/

section Cosine

variable [Field K] [LinearOrder K] {a b v : List K}

theorem cosine_pos_iff : 0 < cosine a b ↔ a.length = b.length ∧ 0 < dot a b := by
  unfold cosine
  split
  · rename_i hbad
    refine iff_of_false (lt_irrefl 0) ?_
    rintro ⟨hlength, hdot⟩
    rcases hbad with hne | rfl
    · exact hne hlength
    · exact lt_irrefl 0 hdot
  · rename_i hgood
    rw [not_or, not_not] at hgood
    exact (and_iff_right hgood.1).symm

/-- A vector that is not zero is divided by its norm. -/
theorem exists_normalize {sqrt : K → K} (hsqrt : ∀ x, 0 < x → 0 < sqrt x) (h : 0 < dot a a) :
    ∃ norm, 0 < norm ∧ normalize sqrt a = some (a.map (· / norm)) :=
  ⟨sqrt (dot a a), hsqrt _ h, if_neg (not_le.mpr (hsqrt _ h))⟩

variable [IsStrictOrderedRing K]

theorem cosine_div_pos {norm : K} (hnorm : 0 < norm) (h : 0 < cosine a v) :
    0 < cosine (a.map (· / norm)) v := by
  obtain ⟨hlength, hdot⟩ := cosine_pos_iff.mp h
  rw [cosine_pos_iff, List.length_map, dot_div_left]
  exact ⟨hlength, div_pos hdot hnorm⟩

theorem cosine_add_pos (ha : 0 < cosine a v) (hb : 0 < cosine b v) :
    0 < cosine (List.zipWith (· + ·) a b) v := by
  obtain ⟨halength, hadot⟩ := cosine_pos_iff.mp ha
  obtain ⟨hblength, hbdot⟩ := cosine_pos_iff.mp hb
  have hlength : a.length = b.length := halength.trans hblength.symm
  rw [cosine_pos_iff, List.length_zipWith, hlength, min_self, dot_add_left hlength]
  exact ⟨hblength, add_pos hadot hbdot⟩

end Cosine

/-! ## The members of a track -/

/-- The frames from the first detection of a raw track to its last. -/
def SightedTrack.frames (raw : SightedTrack K) : Set Int := Set.Icc raw.firstFrame raw.lastFrame

theorem sorted_sortByFrame (detections : List (VideoDetection K)) :
    (sortByFrame detections).Pairwise fun a b => a.frame ≤ b.frame := by
  have htotal : Std.Total fun a b : VideoDetection K => a.frame ≤ b.frame :=
    ⟨fun a b => le_total a.frame b.frame⟩
  have htrans : IsTrans (VideoDetection K) fun a b => a.frame ≤ b.frame :=
    ⟨fun _ _ _ => le_trans⟩
  exact List.pairwise_insertionSort _ detections

theorem perm_sortByFrame (detections : List (VideoDetection K)) :
    (sortByFrame detections).Perm detections :=
  List.perm_insertionSort _ detections

theorem head_le_of_sorted {detections : List (VideoDetection K)} (hne : detections ≠ [])
    (hsorted : detections.Pairwise fun a b => a.frame ≤ b.frame) :
    ∀ detection ∈ detections, (detections.head hne).frame ≤ detection.frame := by
  cases detections with
  | nil => exact absurd rfl hne
  | cons first rest =>
      rw [List.forall_mem_cons]
      exact ⟨le_rfl, (List.pairwise_cons.mp hsorted).1⟩

theorem le_getLast_of_sorted {detections : List (VideoDetection K)} (hne : detections ≠ [])
    (hsorted : detections.Pairwise fun a b => a.frame ≤ b.frame) :
    ∀ detection ∈ detections, detection.frame ≤ (detections.getLast hne).frame := by
  induction detections with
  | nil => exact absurd rfl hne
  | cons first rest ih =>
      obtain ⟨hfirst, hrest⟩ := List.pairwise_cons.mp hsorted
      intro detection hmem
      cases rest with
      | nil => rw [List.mem_singleton.mp hmem, List.getLast_singleton]
      | cons second rest =>
          rw [List.getLast_cons (List.cons_ne_nil _ _)]
          rcases List.mem_cons.mp hmem with rfl | hmem
          · exact hfirst _ (List.getLast_mem _)
          · exact ih (List.cons_ne_nil _ _) hrest detection hmem

section Members

variable [Field K] [LinearOrder K]

/-- A track of the loop stands for the raw tracks that it has taken.  Its embedding is a positive
combination of theirs, so it is positive on every vector on which they all are. -/
structure Represents (threshold : K) (track : WorkingTrack K) (members : List (SightedTrack K)) :
    Prop where
  nonempty : members ≠ []
  ids : track.sourceTrackerIds = members.map fun raw => raw.val.trackerId
  embeddings : track.sourceEmbeddings = members.map fun raw => raw.val.embedding
  templates : track.sourceTemplates = members.map sourceTemplate
  perm : track.detections.Perm (members.flatMap fun raw => raw.val.detections)
  sorted : track.detections.Pairwise fun a b => a.frame ≤ b.frame
  disjoint : members.Pairwise fun a b => Disjoint a.frames b.frames
  similar : members.Pairwise fun a b => threshold ≤ cosine a.val.embedding b.val.embedding
  positive : ∀ v, (∀ raw ∈ members, 0 < cosine raw.val.embedding v) → 0 < cosine track.embedding v

variable {service : TrackingService K} {track : WorkingTrack K} {members : List (SightedTrack K)}
  {raw : SightedTrack K}

/-- The span of a track covers its members, so a raw track that does not overlap the track does
not overlap them. -/
theorem Represents.disjoint_of_not_overlaps {threshold : K} (h : Represents threshold track members)
    (hoverlaps : overlaps track.sighted raw.property = false) {member : SightedTrack K}
    (hmember : member ∈ members) : Disjoint member.frames raw.frames := by
  have hmem {detection : VideoDetection K} (hd : detection ∈ member.val.detections) :
      detection ∈ track.detections :=
    h.perm.mem_iff.mpr (List.mem_flatMap.mpr ⟨member, hmember, hd⟩)
  have hfirst : (track.detections.head track.sighted).frame ≤ member.firstFrame :=
    head_le_of_sorted track.sighted h.sorted _ (hmem (List.head_mem member.property))
  have hlast : member.lastFrame ≤ (track.detections.getLast track.sighted).frame :=
    le_getLast_of_sorted track.sighted h.sorted _ (hmem (List.getLast_mem member.property))
  rw [Set.disjoint_left]
  rintro frame ⟨hmemberFirst, hmemberLast⟩ ⟨hrawFirst, hrawLast⟩
  unfold overlaps at hoverlaps
  rw [Bool.and_eq_false_iff, decide_eq_false_iff_not, decide_eq_false_iff_not, not_le, not_le]
    at hoverlaps
  rcases hoverlaps with hbefore | hafter
  · have hraw : raw.lastFrame < (track.detections.head track.sighted).frame := hbefore
    omega
  · have hraw : (track.detections.getLast track.sighted).frame < raw.firstFrame := hafter
    omega

/-- What a track admits is similar to every member, and apart from it. -/
theorem Represents.admits {threshold : K} (hthreshold : service.threshold = threshold)
    (h : Represents threshold track members) (hadmits : service.admits track raw = true) :
    overlaps track.sighted raw.property = false ∧
      ∀ member ∈ members, threshold ≤ cosine member.val.embedding raw.val.embedding := by
  subst hthreshold
  unfold TrackingService.admits at hadmits
  rw [Bool.and_eq_true, Bool.not_eq_true', List.all_eq_true] at hadmits
  refine ⟨hadmits.1, fun member hmember => ?_⟩
  refine of_decide_eq_true (hadmits.2 member.val.embedding ?_)
  rw [h.embeddings]
  exact List.mem_map_of_mem hmember

end Members

section Invariant

variable [Field K] [LinearOrder K] [IsStrictOrderedRing K] {service : TrackingService K}
  {track : WorkingTrack K} {members : List (SightedTrack K)} {raw : SightedTrack K}

/-- A new track stands for its raw track. -/
theorem exists_newTrack (hsqrt : ∀ x, 0 < x → 0 < service.sqrt x) (number : Nat)
    (hnonzero : ∃ x ∈ raw.val.embedding, x ≠ 0) :
    ∃ track, service.newTrack number raw = some track ∧
      Represents service.threshold track [raw] := by
  have hpos : 0 < dot raw.val.embedding raw.val.embedding := by
    obtain ⟨x, hx, hne⟩ := hnonzero
    refine lt_of_le_of_ne (dot_self_nonneg _) fun hzero => hne ?_
    exact dot_self_eq_zero_iff.mp hzero.symm x hx
  obtain ⟨norm, hnorm, hnormalize⟩ := exists_normalize hsqrt hpos
  unfold TrackingService.newTrack
  rw [hnormalize]
  refine ⟨_, rfl, ?_⟩
  exact {
    nonempty := List.cons_ne_nil _ _
    ids := rfl
    embeddings := rfl
    templates := rfl
    perm := by
      rw [List.flatMap_singleton]
      exact perm_sortByFrame _
    sorted := sorted_sortByFrame _
    disjoint := List.pairwise_singleton _ _
    similar := List.pairwise_singleton _ _
    positive := fun v h => cosine_div_pos hnorm (h raw (List.mem_singleton.mpr rfl)) }

/-- A track that has taken what it admits stands for one more raw track. -/
theorem exists_merge (hsqrt : ∀ x, 0 < x → 0 < service.sqrt x) (hthreshold : 0 < service.threshold)
    (h : Represents service.threshold track members) (hadmits : service.admits track raw = true) :
    ∃ merged, service.merge track raw = some merged ∧
      Represents service.threshold merged (members ++ [raw]) := by
  obtain ⟨hoverlaps, hsimilar⟩ := h.admits rfl hadmits
  -- the sum is positive on the new embedding, so it has a norm
  have hcentroid : 0 < cosine track.embedding raw.val.embedding :=
    h.positive _ fun member hmember => hthreshold.trans_le (hsimilar member hmember)
  obtain ⟨hlength, hdot⟩ := cosine_pos_iff.mp hcentroid
  have hsum : 0 < dot (List.zipWith (· + ·) track.embedding raw.val.embedding)
      raw.val.embedding := by
    rw [dot_add_left hlength]
    exact add_pos_of_pos_of_nonneg hdot (dot_self_nonneg _)
  obtain ⟨norm, hnorm, hnormalize⟩ :=
    exists_normalize hsqrt (dot_self_pos_of_dot_ne_zero hsum.ne')
  unfold TrackingService.merge
  rw [hnormalize]
  refine ⟨_, rfl, ?_⟩
  exact {
    nonempty := List.append_ne_nil_of_right_ne_nil _ (List.cons_ne_nil _ _)
    ids := by
      rw [List.map_append, ← h.ids]
      rfl
    embeddings := by
      rw [List.map_append, ← h.embeddings]
      rfl
    templates := by
      rw [List.map_append, ← h.templates]
      rfl
    perm := by
      rw [List.flatMap_append, List.flatMap_singleton]
      exact (perm_sortByFrame _).trans (h.perm.append_right _)
    sorted := sorted_sortByFrame _
    disjoint := by
      refine List.pairwise_append.mpr ⟨h.disjoint, List.pairwise_singleton _ _, ?_⟩
      intro member hmember other hother
      rw [List.mem_singleton.mp hother]
      exact h.disjoint_of_not_overlaps hoverlaps hmember
    similar := by
      refine List.pairwise_append.mpr ⟨h.similar, List.pairwise_singleton _ _, ?_⟩
      intro member hmember other hother
      rw [List.mem_singleton.mp hother]
      exact hsimilar member hmember
    positive := by
      intro v hv
      rw [List.forall_mem_append] at hv
      exact cosine_div_pos hnorm
        (cosine_add_pos (h.positive v hv.1) (hv.2 raw (List.mem_singleton.mpr rfl))) }

end Invariant

end Mvision.Video.Tracking
