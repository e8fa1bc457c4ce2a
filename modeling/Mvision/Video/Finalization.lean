import Mathlib.Data.Nat.Digits.Defs
import Mathlib.Data.Set.Basic
import Mathlib.Order.CompletePartialOrder
import Mathlib.Order.Interval.Set.Basic
import Mvision.Library.Machine
import Mvision.Video.Voting

/-!
# Finalizing a video: who is who

The assignment loop of `VideoResultService.finalize`.  A track keeps the identity
that its vote has found unless an earlier track with an overlapping interval has
it; otherwise it gets the identity whose id is computed from the job, its place
and its source trackers.  `uuid5` is a parameter.

Nothing checks the interval of an identity that is computed, and a failed attempt
may have left it in the gallery, for another track's vote to find.
-/

namespace Mvision.Video

open Mvision.Library Mvision.Gallery

/-! ## Tracks and rows -/

structure VideoDetection where
  frame : Nat
  timestamp : ℚ
  x : ℚ
  y : ℚ
  width : ℚ
  height : ℚ
  detectorConfidence : ℚ
  landmarks : List ℚ
deriving DecidableEq, Repr

structure BoundingBox where
  x : ℚ
  y : ℚ
  width : ℚ
  height : ℚ
deriving DecidableEq, Repr

structure Appearance where
  start : ℚ
  stop : ℚ
  startFrame : Nat
  endFrame : Nat
deriving DecidableEq, Repr

/-- `CanonicalVideoTrack`.  `reconcile` makes tracks with at least one detection. -/
structure CanonicalVideoTrack where
  sourceTrackerIds : List Nat
  embedding : List ℚ
  firstDetection : VideoDetection
  otherDetections : List VideoDetection
  appearances : List Appearance
  firstSeen : ℚ
  lastSeen : ℚ
  totalDuration : ℚ
  sourceTemplates : List SourceTrackTemplate
deriving DecidableEq, Repr

inductive SnapshotStatus where
  | known
  | anonymous
  | newAnonymous
deriving DecidableEq, Repr

/-- What `_identity_outcome` returns. -/
structure IdentityOutcome where
  faceId : String
  sampleId : String
  status : SnapshotStatus
  name : Option String
  metadata : List (String × String)
  identityVersion : Nat
  confidence : ℚ
  threshold : ℚ
deriving DecidableEq, Repr

structure RecognitionResult where
  resultId : String
  processId : String
  detectionOrdinal : Nat
  faceId : String
  statusSnapshot : SnapshotStatus
  nameSnapshot : Option String
  metadataSnapshot : List (String × String)
  boundingBox : BoundingBox
  detectorConfidence : ℚ
  matchConfidence : ℚ
  matchedSampleId : String
deriving DecidableEq, Repr

structure VideoTrack where
  trackId : String
  jobId : String
  trackOrdinal : Nat
  sourceTrackerIds : List Nat
  faceId : String
  recognitionResultId : String
  statusSnapshot : SnapshotStatus
  nameSnapshot : Option String
  metadataSnapshot : List (String × String)
  identityVersionSnapshot : Nat
  matchConfidence : ℚ
  thresholdUsed : ℚ
  firstFrame : Nat
  lastFrame : Nat
  firstSeen : ℚ
  lastSeen : ℚ
  totalDuration : ℚ
  detectionCount : Nat
  appearances : List Appearance
  detections : List VideoDetection
  representativeSampleId : String
deriving DecidableEq, Repr

namespace CanonicalVideoTrack

def detections (track : CanonicalVideoTrack) : List VideoDetection :=
  track.firstDetection :: track.otherDetections

/-- `max(track.detections, key=lambda item: (item.detector_confidence, -item.frame))` -/
def representative (track : CanonicalVideoTrack) : VideoDetection :=
  track.otherDetections.foldl (fun best item =>
    if best.detectorConfidence < item.detectorConfidence ∨
        best.detectorConfidence = item.detectorConfidence ∧ item.frame < best.frame then item
    else best) track.firstDetection

/-- `",".join(str(value) for value in track.source_tracker_ids)` -/
def sourceIds (track : CanonicalVideoTrack) : String :=
  ",".intercalate (track.sourceTrackerIds.map toString)

end CanonicalVideoTrack

/-- `VideoResultService._box` -/
def VideoDetection.box (detection : VideoDetection) : BoundingBox :=
  ⟨detection.x, detection.y, detection.width, detection.height⟩

/-- What `finalize` needs of its job, the thresholds and the function `uuid5`. -/
structure FinalizationContext where
  uuid5 : String → String → String
  jobId : String
  processId : String
  recognitionThreshold : ℚ
  anonymousThreshold : ℚ

/-- `{kind}:{ordinal}:{source_ids}` -/
def deterministicName (kind : String) (ordinal : Nat) (track : CanonicalVideoTrack) : String :=
  kind ++ ":" ++ toString ordinal ++ ":" ++ track.sourceIds

/-- The intervals in which each identity has been assigned. -/
abbrev Assigned := String → List (ℚ × ℚ)

/-- The test of `_blocked`, for a face id. -/
def overlapsAssigned (assigned : Assigned) (faceId : String) (track : CanonicalVideoTrack) : Bool :=
  (assigned faceId).any fun interval =>
    track.firstSeen ≤ interval.2 ∧ interval.1 ≤ track.lastSeen

/-- `VideoResultService._blocked` -/
def blocked (found : FaceMatch) (track : CanonicalVideoTrack) (assigned : Assigned) : Bool :=
  overlapsAssigned assigned found.identity.faceId track

/-- The match that is left of the vote of a track. -/
def usableMatch (assigned : Assigned) (track : CanonicalVideoTrack)
    (decision : VideoIdentityDecision) : Option FaceMatch :=
  decision.faceMatch.filter fun found => !blocked found track assigned

/-! ## The loop -/

/-- The lists and the dictionary that the loop fills. -/
structure Finalizing where
  persisted : List VideoTrack := []
  results : List RecognitionResult := []
  faces : List (String × SnapshotStatus) := []
  assigned : Assigned := fun _ => []

structure VideoFinalizationResult where
  personCount : Nat
  faces : List (String × SnapshotStatus)

namespace FinalizationContext

variable (context : FinalizationContext)

/-- `_deterministic_id` -/
def deterministicId (track : CanonicalVideoTrack) (ordinal : Nat) (kind : String) : String :=
  context.uuid5 context.jobId (deterministicName kind ordinal track)

/-- `_identity_outcome` with a match. -/
def matchedOutcome (found : FaceMatch) : IdentityOutcome where
  faceId := found.identity.faceId
  sampleId := found.sampleId
  status := if found.identity.lifecycleStatus = .known then .known else .anonymous
  name := if found.identity.lifecycleStatus = .known then found.identity.name else none
  metadata := if found.identity.lifecycleStatus = .known then found.identity.metadata else []
  identityVersion := found.identity.version
  confidence := min 1 (max 0 found.score)
  threshold :=
    if found.identity.lifecycleStatus = .known then context.recognitionThreshold
    else context.anonymousThreshold

/-- `_identity_outcome` without one, once the sample is persisted. -/
def newOutcome (track : CanonicalVideoTrack) (ordinal : Nat) (score : Option ℚ) :
    IdentityOutcome where
  faceId := context.deterministicId track ordinal "face"
  sampleId := context.deterministicId track ordinal "sample"
  status := .newAnonymous
  name := none
  metadata := []
  identityVersion := 1
  confidence := score.getD 0
  threshold := context.anonymousThreshold

def outcome (assigned : Assigned) (track : CanonicalVideoTrack) (ordinal : Nat)
    (decision : VideoIdentityDecision) : IdentityOutcome :=
  match usableMatch assigned track decision with
  | some found => context.matchedOutcome found
  | none => context.newOutcome track ordinal decision.score

def result (track : CanonicalVideoTrack) (ordinal : Nat) (outcome : IdentityOutcome) :
    RecognitionResult where
  resultId := context.deterministicId track ordinal "result"
  processId := context.processId
  detectionOrdinal := ordinal
  faceId := outcome.faceId
  statusSnapshot := outcome.status
  nameSnapshot := outcome.name
  metadataSnapshot := outcome.metadata
  boundingBox := track.representative.box
  detectorConfidence := track.representative.detectorConfidence
  matchConfidence := outcome.confidence
  matchedSampleId := outcome.sampleId

def videoTrack (track : CanonicalVideoTrack) (ordinal : Nat) (outcome : IdentityOutcome) :
    VideoTrack where
  trackId := context.deterministicId track ordinal "track"
  jobId := context.jobId
  trackOrdinal := ordinal
  sourceTrackerIds := track.sourceTrackerIds
  faceId := outcome.faceId
  recognitionResultId := context.deterministicId track ordinal "result"
  statusSnapshot := outcome.status
  nameSnapshot := outcome.name
  metadataSnapshot := outcome.metadata
  identityVersionSnapshot := outcome.identityVersion
  matchConfidence := outcome.confidence
  thresholdUsed := outcome.threshold
  firstFrame := track.firstDetection.frame
  lastFrame := (track.detections.getLastD track.firstDetection).frame
  firstSeen := track.firstSeen
  lastSeen := track.lastSeen
  totalDuration := track.totalDuration
  detectionCount := track.detections.length
  appearances := track.appearances
  detections := track.detections
  representativeSampleId := outcome.sampleId

/-- One turn of the loop; `enumerate` counts the tracks that are done. -/
def step (s : Finalizing) (entry : CanonicalVideoTrack × VideoIdentityDecision) : Finalizing :=
  let ordinal := s.persisted.length
  let outcome := context.outcome s.assigned entry.1 ordinal entry.2
  { persisted := s.persisted ++ [context.videoTrack entry.1 ordinal outcome]
    results := s.results ++ [context.result entry.1 ordinal outcome]
    faces := s.faces ++ [(outcome.faceId, outcome.status)]
    assigned := Function.update s.assigned outcome.faceId
      (s.assigned outcome.faceId ++ [(entry.1.firstSeen, entry.1.lastSeen)]) }

/-- The loop as a machine that takes one track and its vote after another. -/
def loop : Machine Finalizing (CanonicalVideoTrack × VideoIdentityDecision) where
  init s := s = {}
  enabled _ entry := entry.1.firstSeen ≤ entry.1.lastSeen
  next s entry := context.step s entry

/-- `finalize` once every sample has been persisted and the job completed: what it writes. -/
def finalize (entries : List (CanonicalVideoTrack × VideoIdentityDecision)) : Finalizing :=
  context.loop.run {} entries

/-- What `finalize` returns. -/
def finalizationResult (entries : List (CanonicalVideoTrack × VideoIdentityDecision)) :
    VideoFinalizationResult :=
  ⟨(context.finalize entries).persisted.length, (context.finalize entries).faces⟩

/-! ## One identity in one place -/

/-- Two tracks that have one identity are not there at the same time. -/
def Apart (a b : VideoTrack) : Prop :=
  a.faceId = b.faceId → Disjoint (Set.Icc a.firstSeen a.lastSeen) (Set.Icc b.firstSeen b.lastSeen)

/-- What `finalize` should persist. -/
structure OnePlaceAtOnce (entries : List (CanonicalVideoTrack × VideoIdentityDecision)) :
    Prop where
  apart : (context.finalize entries).persisted.Pairwise Apart
  ordinals : (context.finalize entries).persisted.map (·.trackOrdinal) =
    List.range (context.finalize entries).persisted.length
  resultIds : ((context.finalize entries).results.map (·.resultId)).Nodup
  trackIds : ((context.finalize entries).persisted.map (·.trackId)).Nodup
  personCount : (context.finalizationResult entries).personCount =
    (context.finalize entries).persisted.length

/-- A track that has no usable match passes, for the identity it computes, the test that
`_blocked` makes for a match. -/
def Unclaimed (s : Finalizing) (entry : CanonicalVideoTrack × VideoIdentityDecision) : Prop :=
  usableMatch s.assigned entry.1 entry.2 = none →
    overlapsAssigned s.assigned
      (context.deterministicId entry.1 s.persisted.length "face") entry.1 = false

instance (s : Finalizing) (entry : CanonicalVideoTrack × VideoIdentityDecision) :
    Decidable (context.Unclaimed s entry) :=
  inferInstanceAs (Decidable (_ → _))

end FinalizationContext

/-! ## Names and intervals -/

/-- The place of a track can be read off its names. -/
theorem ordinal_of_deterministicName {kind : String} {m n : Nat} {a b : CanonicalVideoTrack}
    (h : deterministicName kind m a = deterministicName kind n b) : m = n := by
  have hlist := congrArg String.toList h
  unfold deterministicName at hlist
  simp only [String.toList_append, List.append_assoc] at hlist
  have htail := List.append_cancel_left (List.append_cancel_left hlist)
  -- the digits end at the colon that follows them
  have hdigits : ∀ (k : Nat) (rest : List Char),
      ((toString k).toList ++ (":".toList ++ rest)).takeWhile Char.isDigit = Nat.toDigits 10 k := by
    intro k rest
    have hrepr : (toString k).toList = Nat.toDigits 10 k := by
      rw [Nat.toString_eq_repr, Nat.toList_repr]
    rw [hrepr, List.takeWhile_append_of_pos]
    · show Nat.toDigits 10 k ++ List.takeWhile Char.isDigit (':' :: rest) = _
      rw [List.takeWhile_cons_of_neg (by decide), List.append_nil]
    · intro c hc
      exact Nat.isDigit_of_mem_toDigits (by decide) (by decide) hc
  have hcut := congrArg (List.takeWhile Char.isDigit) htail
  rw [hdigits, hdigits] at hcut
  have hvalue := congrArg (fun digits => Nat.ofDigitChars 10 digits 0) hcut
  simpa using hvalue

/-- Two intervals that are not empty have nothing in common exactly if one ends before the other
begins. -/
theorem disjoint_Icc_iff {a b c d : ℚ} (hab : a ≤ b) (hcd : c ≤ d) :
    Disjoint (Set.Icc a b) (Set.Icc c d) ↔ ¬ (c ≤ b ∧ a ≤ d) := by
  rw [Set.disjoint_iff_inter_eq_empty, Set.Icc_inter_Icc, Set.Icc_eq_empty_iff, not_iff_not,
    sup_le_iff, le_inf_iff, le_inf_iff]
  constructor
  · rintro ⟨⟨-, had⟩, hcb, -⟩
    exact ⟨hcb, had⟩
  · rintro ⟨hcb, had⟩
    exact ⟨⟨hab, had⟩, hcb, hcd⟩

namespace FinalizationContext

variable {context : FinalizationContext}

/-! ## Steps of the loop -/

/-- Ids of one kind for places below `n`, no place twice. -/
structure Numbered (context : FinalizationContext) (kind : String) (ids : List String) (n : Nat) :
    Prop where
  nodup : ids.Nodup
  below : ∀ id ∈ ids, ∃ track, ∃ m < n, id = context.deterministicId track m kind

theorem Numbered.snoc (hinj : Function.Injective (context.uuid5 context.jobId)) {kind : String}
    {ids : List String} {n : Nat} (h : context.Numbered kind ids n) (track : CanonicalVideoTrack) :
    context.Numbered kind (ids ++ [context.deterministicId track n kind]) (n + 1) := by
  have hfresh : context.deterministicId track n kind ∉ ids := by
    intro hmem
    obtain ⟨other, m, hm, heq⟩ := h.below _ hmem
    exact hm.ne (ordinal_of_deterministicName (hinj heq)).symm
  refine ⟨?_, ?_⟩
  · rw [List.nodup_append]
    refine ⟨h.nodup, List.nodup_singleton _, ?_⟩
    rintro id hid _ hlast rfl
    rw [List.mem_singleton.mp hlast] at hid
    exact hfresh hid
  · intro id hid
    rcases List.mem_append.mp hid with hold | hlast
    · obtain ⟨other, m, hm, rfl⟩ := h.below id hold
      exact ⟨other, m, hm.trans n.lt_succ_self, rfl⟩
    · rw [List.mem_singleton.mp hlast]
      exact ⟨track, n, n.lt_succ_self, rfl⟩

/-- The dictionary has the intervals of the tracks that are done. -/
def Recorded (s : Finalizing) : Prop :=
  ∀ faceId, s.assigned faceId =
    (s.persisted.filter (·.faceId = faceId)).map fun track => (track.firstSeen, track.lastSeen)

theorem recorded_step {s : Finalizing} {entry : CanonicalVideoTrack × VideoIdentityDecision}
    (h : Recorded s) : Recorded (context.step s entry) := by
  intro faceId
  show Function.update s.assigned _ _ faceId = _
  by_cases hface :
      faceId = (context.outcome s.assigned entry.1 s.persisted.length entry.2).faceId
  · subst hface
    rw [Function.update_self, h]
    simp [step, videoTrack]
  · rw [Function.update_of_ne hface, h]
    simp [step, videoTrack, Ne.symm hface]

/-- What the loop keeps. -/
structure Inv (context : FinalizationContext) (s : Finalizing) : Prop where
  assigned : Recorded s
  ordered : ∀ track ∈ s.persisted, track.firstSeen ≤ track.lastSeen
  ordinals : s.persisted.map (·.trackOrdinal) = List.range s.persisted.length
  resultIds : context.Numbered "result" (s.results.map (·.resultId)) s.persisted.length
  trackIds : context.Numbered "track" (s.persisted.map (·.trackId)) s.persisted.length

theorem inv_init : context.Inv {} where
  assigned _ := rfl
  ordered := by
    intro track htrack
    cases htrack
  ordinals := rfl
  resultIds := ⟨List.nodup_nil, by rintro id ⟨⟩⟩
  trackIds := ⟨List.nodup_nil, by rintro id ⟨⟩⟩

theorem inv_step (hinj : Function.Injective (context.uuid5 context.jobId)) {s : Finalizing}
    {entry : CanonicalVideoTrack × VideoIdentityDecision}
    (hle : entry.1.firstSeen ≤ entry.1.lastSeen) (h : context.Inv s) :
    context.Inv (context.step s entry) := by
  have hlength : (context.step s entry).persisted.length = s.persisted.length + 1 :=
    List.length_append
  refine ⟨recorded_step h.assigned, ?_, ?_, ?_, ?_⟩
  · intro track htrack
    rcases List.mem_append.mp htrack with hold | hlast
    · exact h.ordered track hold
    · rw [List.mem_singleton.mp hlast]
      exact hle
  · rw [hlength, List.range_succ, ← h.ordinals]
    exact List.map_append
  · rw [hlength]
    show context.Numbered "result" (List.map _ (s.results ++ [_])) _
    rw [List.map_append]
    exact h.resultIds.snoc hinj entry.1
  · rw [hlength]
    show context.Numbered "track" (List.map _ (s.persisted ++ [_])) _
    rw [List.map_append]
    exact h.trackIds.snoc hinj entry.1

/-- The test of `_blocked`, said of the tracks that have the identity. -/
theorem Inv.overlapsAssigned_eq_false {s : Finalizing} (h : context.Inv s)
    {track : CanonicalVideoTrack} (hle : track.firstSeen ≤ track.lastSeen) (faceId : String) :
    overlapsAssigned s.assigned faceId track = false ↔
      ∀ other ∈ s.persisted, other.faceId = faceId →
        Disjoint (Set.Icc other.firstSeen other.lastSeen)
          (Set.Icc track.firstSeen track.lastSeen) := by
  unfold overlapsAssigned
  rw [h.assigned, List.any_eq_false]
  constructor
  · intro hnone other hother hface
    rw [disjoint_Icc_iff (h.ordered other hother) hle]
    simpa using hnone (other.firstSeen, other.lastSeen)
      (List.mem_map_of_mem (List.mem_filter.mpr ⟨hother, by simpa using hface⟩))
  · intro hall interval hinterval
    obtain ⟨other, hother, rfl⟩ := List.mem_map.mp hinterval
    obtain ⟨hmem, hface⟩ := List.mem_filter.mp hother
    have hdisjoint := hall other hmem (by simpa using hface)
    rw [disjoint_Icc_iff (h.ordered other hmem) hle] at hdisjoint
    simpa using hdisjoint

/-- A match that is usable overlaps no track that has its identity. -/
theorem overlapsAssigned_of_usable {assigned : Assigned} {track : CanonicalVideoTrack}
    {decision : VideoIdentityDecision} {found : FaceMatch}
    (h : usableMatch assigned track decision = some found) :
    overlapsAssigned assigned found.identity.faceId track = false := by
  obtain ⟨-, hfree⟩ := Option.filter_eq_some_iff.mp h
  simpa [blocked] using hfree

/-- One more track is apart from the others exactly if what it computes is unclaimed. -/
theorem pairwise_step {s : Finalizing} {entry : CanonicalVideoTrack × VideoIdentityDecision}
    (hle : entry.1.firstSeen ≤ entry.1.lastSeen) (h : context.Inv s) :
    (context.step s entry).persisted.Pairwise Apart ↔
      s.persisted.Pairwise Apart ∧ context.Unclaimed s entry := by
  have happend : (context.step s entry).persisted.Pairwise Apart ↔
      s.persisted.Pairwise Apart ∧
        overlapsAssigned s.assigned
          (context.outcome s.assigned entry.1 s.persisted.length entry.2).faceId
          entry.1 = false := by
    rw [h.overlapsAssigned_eq_false hle]
    show (s.persisted ++ [_]).Pairwise Apart ↔ _
    rw [List.pairwise_append]
    constructor
    · rintro ⟨hold, -, hcross⟩
      exact ⟨hold, fun other hother => hcross other hother _ (List.mem_singleton_self _)⟩
    · rintro ⟨hold, hcross⟩
      refine ⟨hold, List.pairwise_singleton _ _, ?_⟩
      intro other hother track htrack
      rw [List.mem_singleton.mp htrack]
      exact hcross other hother
  rw [happend]
  apply and_congr_right'
  unfold Unclaimed outcome
  cases husable : usableMatch s.assigned entry.1 entry.2 with
  | none =>
      constructor
      · exact fun hfree _ => hfree
      · exact fun hfree => hfree rfl
  | some found =>
      constructor
      · rintro - ⟨⟩
      · exact fun _ => overlapsAssigned_of_usable husable

/-- `finalize` gives an identity one place at a time exactly if no track gets a computed identity
which an earlier, overlapping track has been matched to. -/
theorem onePlaceAtOnce_iff
    {entries : List (CanonicalVideoTrack × VideoIdentityDecision)}
    (hinj : Function.Injective (context.uuid5 context.jobId))
    (hordered : ∀ entry ∈ entries, entry.1.firstSeen ≤ entry.1.lastSeen) :
    context.OnePlaceAtOnce entries ↔ context.loop.Meets context.Unclaimed {} entries := by
  have hvalid : context.loop.Valid {} entries := Machine.meets_of_forall hordered
  have hinv : context.Inv (context.finalize entries) := by
    have hkept : context.loop.Preserved context.Inv := fun s entry hle h => inv_step hinj hle h
    exact hkept.run hvalid inv_init
  have hruns : (context.finalize entries).persisted.Pairwise Apart ↔
      context.loop.Meets context.Unclaimed {} entries := by
    have hrun := Machine.run_iff_meets (M := context.loop) (I := context.Inv)
      (P := fun s => s.persisted.Pairwise Apart) (C := context.Unclaimed)
      (fun s entry hle h => inv_step hinj hle h) (fun s entry hle h => pairwise_step hle h)
      hvalid inv_init
    rw [finalize, hrun]
    exact and_iff_right List.Pairwise.nil
  constructor
  · intro h
    exact hruns.mp h.apart
  · intro h
    exact ⟨hruns.mpr h, hinv.ordinals, hinv.resultIds.nodup, hinv.trackIds.nodup, rfl⟩

end FinalizationContext

/-! ### A retry after an attempt that has stored the sample of its second track -/

/-- A job whose ids are the names themselves. -/
def retryContext : FinalizationContext where
  uuid5 _ name := name
  jobId := "job"
  processId := "process"
  recognitionThreshold := 1 / 2
  anonymousThreshold := 1 / 2

theorem retryContext_injective :
    Function.Injective (retryContext.uuid5 retryContext.jobId) := Function.injective_id

def trackOf (trackerId : Nat) (firstSeen lastSeen : ℚ) : CanonicalVideoTrack where
  sourceTrackerIds := [trackerId]
  embedding := []
  firstDetection := ⟨0, firstSeen, 0, 0, 1, 1, 9 / 10, []⟩
  otherDetections := []
  appearances := []
  firstSeen
  lastSeen
  totalDuration := lastSeen - firstSeen
  sourceTemplates := []

/-- The identity that the failed attempt has computed for the second track. -/
def leftIdentity : FaceIdentity where
  faceId := "face:1:8"
  lifecycleStatus := .anonymous
  name := none
  metadata := []
  version := 1
  isActive := true

def leftMatch : VideoIdentityDecision := ⟨some ⟨leftIdentity, "sample:1:8", 9 / 10⟩, some (9 / 10)⟩

/-- Tracks that do not overlap may share the identity. -/
theorem left_identity_reused :
    retryContext.OnePlaceAtOnce [(trackOf 7 0 3, leftMatch), (trackOf 8 5 15, leftMatch)] :=
  (FinalizationContext.onePlaceAtOnce_iff retryContext_injective (by decide)).mpr
    (by decide)

/-- The votes of two tracks that overlap find the identity.  The second is blocked, and computes
that identity. -/
theorem blocked_track_gets_same_identity :
    ¬ retryContext.OnePlaceAtOnce [(trackOf 7 0 10, leftMatch), (trackOf 8 5 15, leftMatch)] := by
  intro h
  have hkey : (retryContext.finalize
      [(trackOf 7 0 10, leftMatch), (trackOf 8 5 15, leftMatch)]).persisted.map
        (fun track => (track.faceId, track.firstSeen, track.lastSeen)) =
      [("face:1:8", 0, 10), ("face:1:8", 5, 15)] := by
    decide
  have happart : ((retryContext.finalize
      [(trackOf 7 0 10, leftMatch), (trackOf 8 5 15, leftMatch)]).persisted.map
        (fun track => (track.faceId, track.firstSeen, track.lastSeen))).Pairwise
      (fun a b => a.1 = b.1 → Disjoint (Set.Icc a.2.1 a.2.2) (Set.Icc b.2.1 b.2.2)) :=
    List.pairwise_map.mpr h.apart
  rw [hkey, List.pairwise_pair] at happart
  exact (disjoint_Icc_iff (by decide) (by decide)).mp (happart rfl)
    (by decide)

end Mvision.Video
