import Mvision.Library.Norm
import Mvision.Library.Packer
import Mvision.Library.Window
import Mvision.Live.Acceptance
import Mvision.Live.Hysteresis
import Mvision.Video.Tracking

/-!
# The queries of live evidence

The window of a track is handed to the voter, which asks the vector store about each embedding of
it.  The store adapter checks the embeddings first.  The norms are exact here; the square root of
the centroid, which the store never sees, is a parameter.
-/

namespace Mvision.Live

open Mvision.Library
open Mvision.Video.Tracking (CanonicalVideoTrack SourceTrackTemplate)
open Native (failIf failIf_ok_iff)

/-! ## The adapter -/

def expectedDimension : Nat := 512

/-- `L2_TOLERANCE`: the double next to 1e-5. -/
def l2Tolerance : ℚ := 5902958103587057 / 2 ^ 69

example : binary64.round (1 / 100000) = .finite l2Tolerance := by decide +kernel

/-- `QdrantAdapter._validate_vector` of finite numbers. -/
def validateVector (vector : List ℚ) : Except String Unit := do
  failIf (vector.length ≠ expectedDimension) "Vector dimension must be 512"
  failIf (dot vector vector = 0) "Vector must be non-zero"
  failIf (¬ NormWithin (1 - l2Tolerance) (1 + l2Tolerance) vector) "Vector must be L2-normalized"

section Adapter

variable {vector : List ℚ}

theorem validateVector_ok_iff :
    validateVector vector = .ok () ↔
      vector.length = expectedDimension ∧ |euclideanNorm vector - 1| ≤ l2Tolerance := by
  have hpos : 0 ≤ l2Tolerance := by norm_num [l2Tolerance]
  have hlt : l2Tolerance < 1 := by norm_num [l2Tolerance]
  rw [← normWithin_one_iff hpos hlt.le]
  unfold validateVector
  simp only [bind_ok_iff, failIf_ok_iff, not_not, exists_and_left, exists_const]
  refine and_congr_right fun _ => and_iff_right_of_imp fun h hzero => ?_
  -- a norm within the tolerance is not zero
  have hleast : (0 : ℚ) < (1 - l2Tolerance) ^ 2 := pow_pos (sub_pos.mpr hlt) 2
  exact (hleast.trans_le h.1).ne' hzero

end Adapter

/-! ## The track of a window -/

/-- `LiveIdentityService._normalize` -/
def normalizedOrZero (sqrt : ℚ → ℚ) (values : List ℚ) : List ℚ :=
  let norm := sqrt (dot values values)
  if norm ≠ 0 then values.map (· / norm) else values

/-- `_centroid` of embeddings of one length. -/
def centroid (sqrt : ℚ → ℚ) {observations : List LiveObservation} (h : observations ≠ []) :
    List ℚ :=
  normalizedOrZero sqrt (observations.foldl
    (fun values observation => List.zipWith (· + ·) values observation.embedding)
    (List.replicate (observations.head h).embedding.length 0))

def seconds (timestampNs : Nat) : ℚ := timestampNs / 1000000000

/-- `_canonical_track` of a state with observations. -/
def canonicalTrack (sqrt : ℚ → ℚ) (event : TrackEvidenceEvent) (state : TrackIdentity)
    (h : state.observations ≠ []) : CanonicalVideoTrack ℚ where
  trackId := event.header.runId ++ ":" ++ toString event.trackerId ++ ":" ++
    toString state.identityEpoch
  sourceTrackerIds := [event.trackerId]
  embedding := centroid sqrt h
  representativeJpeg := event.representativeAlignedJpeg
  detections := []
  appearances := []
  firstSeen := seconds (state.observations.head h).timestampNs
  lastSeen := seconds (state.observations.getLast h).timestampNs
  totalDuration := seconds (state.observations.getLast h).timestampNs -
    seconds (state.observations.head h).timestampNs
  sourceTemplates := state.observations.map fun observation =>
    ⟨observation.embedding, 1, observation.detectorConfidence⟩

/-- The track that `_resolve` hands to the voter, if it reaches the vote. -/
def LiveIdentityService.question (service : LiveIdentityService) (sqrt : ℚ → ℚ)
    (event : TrackEvidenceEvent) : Option (CanonicalVideoTrack ℚ) :=
  let state := (service.track event.identityKey).acceptNewObservations event.observations
  if h : state.observations ≠ [] then some (canonicalTrack sqrt event state h) else none

/-- The queries of `VideoIdentityVotingService.resolve` pass the checks of the adapter. -/
def Queryable (track : CanonicalVideoTrack ℚ) : Prop :=
  ∀ template ∈ track.sourceTemplates, validateVector template.embedding = .ok ()

theorem question_queryable_iff {service : LiveIdentityService} {sqrt : ℚ → ℚ}
    {event : TrackEvidenceEvent} :
    (∀ track ∈ service.question sqrt event, Queryable track) ↔
      ∀ observation ∈ ((service.track event.identityKey).acceptNewObservations
        event.observations).observations, validateVector observation.embedding = .ok () := by
  unfold LiveIdentityService.question
  dsimp only
  split
  · simp only [Option.mem_def, Option.some.injEq, forall_eq']
    exact List.forall_mem_map
  · rename_i hnil
    rw [not_not] at hnil
    rw [hnil]
    simp

/-! ## The window -/

namespace TrackIdentity

/-- A window of at most five, and the timestamps of the observations that it has been offered. -/
structure Offered (s : TrackIdentity) (earlier : List LiveObservation) : Prop where
  length_le : s.observations.length ≤ 5
  seen : ∀ t, t ∈ s.seenTimestamps ↔ t ∈ earlier.map (·.timestampNs)

theorem acceptObservation_eq {s : TrackIdentity} (h : s.observations.length ≤ 5)
    (observation : LiveObservation) :
    s.acceptObservation observation =
      if observation.timestampNs ∈ s.seenTimestamps then s
      else { s with
        seenTimestamps := observation.timestampNs :: s.seenTimestamps
        observations := (s.observations ++ [observation]).rtake 5 } := by
  unfold acceptObservation
  split
  · rfl
  · unfold List.rtake
    dsimp only
    rw [List.length_append, List.length_singleton]
    split
    · rename_i hfull
      rw [show s.observations.length + 1 - 5 = 1 by omega, List.drop_one]
    · rw [show s.observations.length + 1 - 5 = 0 by omega, List.drop_zero]

/-- The window keeps the last five of what it had and what is new. -/
theorem foldl_acceptObservation (sorted : List LiveObservation) (s : TrackIdentity)
    (h : s.observations.length ≤ 5) :
    (sorted.foldl acceptObservation s).observations =
        (s.observations ++ firsts (·.timestampNs) s.seenTimestamps sorted).rtake 5 ∧
      ∀ t, t ∈ (sorted.foldl acceptObservation s).seenTimestamps ↔
        t ∈ sorted.map (·.timestampNs) ∨ t ∈ s.seenTimestamps := by
  induction sorted generalizing s with
  | nil =>
      refine ⟨?_, fun t => (or_iff_right List.not_mem_nil).symm⟩
      unfold firsts List.rtake
      rw [List.append_nil, Nat.sub_eq_zero_of_le h, List.drop_zero]
      rfl
  | cons observation rest ih =>
      rw [List.foldl_cons, acceptObservation_eq h]
      unfold firsts
      split
      · rename_i hseen
        obtain ⟨hwindow, htimes⟩ := ih s h
        refine ⟨hwindow, fun t => ?_⟩
        rw [htimes, List.map_cons, List.mem_cons]
        constructor
        · exact fun ht => ht.imp_left .inr
        · rintro ((rfl | ht) | ht)
          · exact .inr hseen
          · exact .inl ht
          · exact .inr ht
      · have hlength : ((s.observations ++ [observation]).rtake 5).length ≤ 5 := by
          unfold List.rtake
          rw [List.length_drop]
          omega
        obtain ⟨hwindow, htimes⟩ := ih { s with
          seenTimestamps := observation.timestampNs :: s.seenTimestamps
          observations := (s.observations ++ [observation]).rtake 5 } hlength
        refine ⟨?_, fun t => ?_⟩
        · rw [hwindow]
          dsimp only
          rw [rtake_rtake_append, List.append_assoc]
          rfl
        · rw [htimes]
          dsimp only
          rw [List.mem_cons, List.map_cons, List.mem_cons, or_assoc, or_left_comm]

/-- An observation of an event gets into the window and is still there when the event is judged:
it is the first one of the track with its timestamp, and at most four of these in the event are
later. -/
def Enters (earlier observations : List LiveObservation) (observation : LiveObservation) : Prop :=
  observation ∈ firsts (·.timestampNs) (earlier.map (·.timestampNs)) observations ∧
    (firsts (·.timestampNs) (earlier.map (·.timestampNs)) observations).countP
      (fun other => observation.timestampNs < other.timestampNs) < 5

section Window

variable {s : TrackIdentity} {earlier : List LiveObservation}

theorem offered_new : Offered {} [] where
  length_le := Nat.zero_le 5
  seen := fun _ => Iff.rfl

/-- The observations of an event join the ones that came before. -/
theorem Offered.acceptNewObservations (h : s.Offered earlier)
    (observations : List LiveObservation) :
    (s.acceptNewObservations observations).Offered (earlier ++ observations) := by
  obtain ⟨hwindow, htimes⟩ := foldl_acceptObservation
    (observations.insertionSort fun o p => o.timestampNs ≤ p.timestampNs) s h.length_le
  have hperm := List.perm_insertionSort
    (fun o p : LiveObservation => o.timestampNs ≤ p.timestampNs) observations
  refine ⟨?_, fun t => ?_⟩
  · unfold TrackIdentity.acceptNewObservations
    rw [hwindow]
    unfold List.rtake
    rw [List.length_drop]
    omega
  · unfold TrackIdentity.acceptNewObservations
    rw [htimes, (hperm.map _).mem_iff, h.seen, List.map_append, List.mem_append, or_comm]

/-- The window after an event has some of the earlier observations, and those that enter. -/
theorem Offered.exists_kept (h : s.Offered earlier) (observations : List LiveObservation) :
    ∃ kept : List LiveObservation, kept.Sublist s.observations ∧ ∀ observation,
      observation ∈ (s.acceptNewObservations observations).observations ↔
        observation ∈ kept ∨ Enters earlier observations observation := by
  obtain ⟨hwindow, -⟩ := foldl_acceptObservation
    (observations.insertionSort fun o p => o.timestampNs ≤ p.timestampNs) s h.length_le
  rw [firsts_congr h.seen, rtake_append] at hwindow
  generalize s.observations.length + _ - 5 = pushed at hwindow
  refine ⟨s.observations.drop pushed, List.drop_sublist _ _, fun observation => ?_⟩
  unfold TrackIdentity.acceptNewObservations
  rw [hwindow, List.mem_append, mem_rtake_firsts]
  rfl

end Window

/-- One window, and one set of timestamps. -/
structure SameWindow (s t : TrackIdentity) : Prop where
  observations : t.observations = s.observations
  seen : t.seenTimestamps = s.seenTimestamps

section SameWindow

variable (s : TrackIdentity) (quality : DecisionQuality) (score : Option ℚ)
  (reference : Option (List ℚ)) (found : FaceMatch)

theorem sameWindow_reject : SameWindow s (s.reject score quality).2 := by
  unfold reject
  dsimp only
  split <;> exact ⟨rfl, rfl⟩

theorem sameWindow_identify : SameWindow s (s.identify found score reference quality).2 := by
  cases reference with
  | none => exact ⟨rfl, rfl⟩
  | some vector => exact ⟨rfl, rfl⟩

theorem sameWindow_matched : SameWindow s (s.matched found score reference quality).2 := by
  unfold matched
  dsimp only
  split
  · obtain ⟨hwindow, hseen⟩ :=
      sameWindow_identify { s with rejectedWindows := 0 } quality score reference found
    exact ⟨hwindow, hseen⟩
  · split
    · exact ⟨rfl, rfl⟩
    · split
      · exact ⟨rfl, rfl⟩
      · obtain ⟨hwindow, hseen⟩ := sameWindow_identify
          ({ s with rejectedWindows := 0 }.contend found.identity.faceId) quality score reference
          found
        exact ⟨hwindow, hseen⟩

/-- What the voter and the store answer does not change the window. -/
theorem sameWindow_resolve (observations : List LiveObservation)
    (vote : Option VideoIdentityDecision) :
    SameWindow (s.acceptNewObservations observations)
      (s.resolve quality observations vote reference).2 := by
  unfold resolve
  dsimp only
  split
  · exact ⟨rfl, rfl⟩
  · split
    · exact ⟨rfl, rfl⟩
    · split
      · rename_i vote _ _
        obtain ⟨hwindow, hseen⟩ := sameWindow_reject { s.acceptNewObservations observations with
          evaluationSequence := (s.acceptNewObservations observations).evaluationSequence + 1
          nearestKnownScore := vote.score } quality vote.score
        exact ⟨hwindow, hseen⟩
      · rename_i vote _ found _
        obtain ⟨hwindow, hseen⟩ := sameWindow_matched { s.acceptNewObservations observations with
          evaluationSequence := (s.acceptNewObservations observations).evaluationSequence + 1
          nearestKnownScore := vote.score } quality vote.score reference found
        exact ⟨hwindow, hseen⟩

end SameWindow

end TrackIdentity

/-! ## The events of a track -/

/-- `decode_message` accepts the event. -/
def TrackEvidenceEvent.Accepted (event : TrackEvidenceEvent) : Prop :=
  ∃ frame, Protocol.decodeMessage frame = .ok (.trackEvidence event)

namespace Protocol

theorem length_of_observation {value : Object} {result : LiveObservation}
    (h : observation value = .ok result) : result.embedding.length = expectedDimension := by
  unfold observation at h
  simp only [bind_ok_iff] at h
  obtain ⟨payload, -, -, -, -, -, box, -, bbox, -, points, -, landmarks, -, scores, -,
    confidences, -, vector, -, values, hvalues, h⟩ := h
  obtain ⟨hembedding, rfl⟩ := embedding_ok_iff.mp hvalues
  obtain ⟨stamp, -, time, -, detector, -, detectorScore, -, quality, -, qualityScore, -, bits, -,
    mask, -, hresult⟩ := h
  obtain rfl := Except.ok.inj hresult
  exact (length_numbers vector).trans hembedding.1.2.1

end Protocol

/-- The embeddings of an accepted event have the dimension of the store. -/
theorem TrackEvidenceEvent.Accepted.length_eq {event : TrackEvidenceEvent} (h : event.Accepted) :
    ∀ observation ∈ event.observations, observation.embedding.length = expectedDimension := by
  obtain ⟨frame, hframe⟩ := h
  unfold Protocol.decodeMessage at hframe
  obtain ⟨input, -, hframe⟩ := bind_ok_iff.mp hframe
  split at hframe
  · cases hframe
  split at hframe
  · cases hframe
  rename_i payload _
  unfold Protocol.decodePayload at hframe
  simp only [bind_ok_iff] at hframe
  obtain ⟨-, -, header, -, -, -, -, -, hfields⟩ := hframe
  have hevent : Protocol.trackEvidenceEvent header payload = .ok event := by
    unfold Protocol.decodeMessageFields at hfields
    cases htype : header.messageType with
    | trackEvidence =>
        rw [htype] at hfields
        obtain ⟨decoded, hdecoded, hmessage⟩ := map_ok_iff.mp hfields
        obtain rfl := LiveMessage.trackEvidence.inj hmessage
        exact hdecoded
    | _ =>
        rw [htype] at hfields
        obtain ⟨decoded, -, hmessage⟩ := map_ok_iff.mp hfields
        cases hmessage
  unfold Protocol.trackEvidenceEvent at hevent
  simp only [bind_ok_iff] at hevent
  obtain ⟨value, -, items, -, observations, hitems, -, -, image, -, jpeg, -, id, -, trackerId, -,
    count, -, revision, -, first, -, firstSeenNs, -, last, -, lastSeenNs, -, hresult⟩ := hevent
  obtain rfl := Except.ok.inj hresult
  have hobservations := forall₂_of_mapM_ok hitems
  clear hframe hitems hresult hfields
  induction hobservations with
  | nil => exact List.forall_mem_nil _
  | cons hfirst hrest ih =>
      exact List.forall_mem_cons.mpr ⟨Protocol.length_of_observation hfirst, ih⟩

namespace LiveIdentityService

/-- The service after some events. -/
def after (service : LiveIdentityService) (windows : List Window) : LiveIdentityService :=
  windows.foldl (fun service w => (service.resolve w.event w.vote w.reference).2) service

/-- The observations of some events. -/
def offered (windows : List Window) : List LiveObservation :=
  windows.flatMap fun w => w.event.observations

section Run

variable {service : LiveIdentityService} {key : TrackKey} {windows : List Window} {w : Window}

theorem after_append (service : LiveIdentityService) (before : List Window) (w : Window) :
    service.after (before ++ [w]) =
      ((service.after before).resolve w.event w.vote w.reference).2 :=
  List.foldl_append

theorem sameWindow_track (service : LiveIdentityService) (hkey : w.event.identityKey = key) :
    ((service.track key).acceptNewObservations w.event.observations).SameWindow
      ((service.resolve w.event w.vote w.reference).2.track key) := by
  rw [resolve_eq service w.event w.vote w.reference key hkey.symm]
  dsimp only
  rw [track_update, if_pos rfl]
  exact TrackIdentity.sameWindow_resolve _ _ _ _ _

/-- The window of a new track is one of what it has been offered. -/
theorem offered_after (hnew : service.tracks key = none) (before : List Window)
    (hkey : ∀ w ∈ before, w.event.identityKey = key) :
    ((service.after before).track key).Offered (offered before) := by
  induction before using List.reverseRecOn with
  | nil =>
      show ((service.tracks key).getD {}).Offered []
      rw [hnew]
      exact TrackIdentity.offered_new
  | append_singleton before w ih =>
      rw [List.forall_mem_append, List.forall_mem_singleton] at hkey
      have haccepted := (ih hkey.1).acceptNewObservations w.event.observations
      obtain ⟨hwindow, hseen⟩ := sameWindow_track (service.after before) hkey.2
      rw [after_append]
      unfold offered at haccepted ⊢
      rw [List.flatMap_append, List.flatMap_singleton]
      exact ⟨hwindow ▸ haccepted.length_le, fun t => hseen ▸ haccepted.seen t⟩

/-- An event leaves some of the window, and adds what enters. -/
theorem forall_accepted (hnew : service.tracks key = none) {P : LiveObservation → Prop}
    {before : List Window} (hkey : ∀ w ∈ before, w.event.identityKey = key)
    (hwindow : ∀ observation ∈ ((service.after before).track key).observations, P observation)
    {observations : List LiveObservation}
    (henters : ∀ observation, TrackIdentity.Enters (offered before) observations observation →
      P observation) :
    ∀ observation ∈
      (((service.after before).track key).acceptNewObservations observations).observations,
      P observation := by
  obtain ⟨kept, hkept, hmem⟩ := (offered_after hnew before hkey).exists_kept observations
  intro observation hobservation
  rcases (hmem observation).mp hobservation with hold | hentered
  · exact hwindow observation (hkept.subset hold)
  · exact henters observation hentered

/-- What all the observations have that enter, all in the window have. -/
theorem forall_window (hnew : service.tracks key = none)
    (hkey : ∀ w ∈ windows, w.event.identityKey = key) {P : LiveObservation → Prop}
    (henters : ∀ before w after, windows = before ++ w :: after → ∀ observation,
      TrackIdentity.Enters (offered before) w.event.observations observation → P observation)
    (before rest : List Window) (hwindows : windows = before ++ rest) :
    ∀ observation ∈ ((service.after before).track key).observations, P observation := by
  induction before using List.reverseRecOn generalizing rest with
  | nil =>
      show ∀ observation ∈ ((service.tracks key).getD {}).observations, P observation
      rw [hnew]
      exact List.forall_mem_nil _
  | append_singleton before w ih =>
      have hsplit : windows = before ++ w :: rest := by
        rw [hwindows, List.append_assoc]
        rfl
      rw [hsplit, List.forall_mem_append, List.forall_mem_cons] at hkey
      rw [after_append, (sameWindow_track (service.after before) hkey.2.1).observations]
      exact forall_accepted hnew hkey.1 (ih (w :: rest) hsplit) (henters before w rest hsplit)

end Run

end LiveIdentityService

/-- An embedding whose norm is 129/128. -/
def loudObservation : LiveObservation where
  timestampNs := 1
  bbox := [0, 0, 1, 1]
  detectorConfidence := 1
  landmarks := List.replicate 10 0
  landmarkConfidences := List.replicate 5 1
  qualityScore := 1
  rejectMask := 0
  embedding := List.replicate 511 0 ++ [129 / 128]

def loudEvent : TrackEvidenceEvent where
  header := {
    protocolVersion := 2
    messageType := .trackEvidence
    sessionId := "00000000-0000-4000-8000-000000000001"
    cameraId := "00000000-0000-4000-8000-000000000002"
    runId := "00000000-0000-4000-8000-000000000003"
    generation := 1
    runtimeAttempt := 1
    sequence := 0
    traceparent := "00-0123456789abcdef0123456789abcdef-0123456789abcdef-01"
    tracestate := none }
  trackerId := 7
  evidenceRevision := 1
  firstSeenNs := 1
  lastSeenNs := 1
  observations := [loudObservation]
  representativeAlignedJpeg := []

theorem loudHeader_valid : loudEvent.header.Valid where
  protocolVersion := rfl
  sessionId := ⟨_, rfl, by decide⟩
  cameraId := ⟨_, rfl, by decide⟩
  runId := ⟨_, rfl, by decide⟩
  generation := le_rfl
  runtimeAttempt := le_rfl
  traceparent := by decide
  tracestate := nofun

/-- The event with another embedding. -/
def eventWith (embedding : List ℚ) : TrackEvidenceEvent :=
  { loudEvent with observations := [{ loudObservation with embedding }] }

theorem double_zero : binary64.Has 11 (.finite 0) := binary64_has_of_binary32 has_zero

theorem double_one : binary64.Has 11 (.finite 1) := binary64_has_of_binary32 has_one

theorem eventWith_typed {embedding : List ℚ}
    (hdoubles : ∀ q ∈ embedding, binary64.Has 11 (.finite q)) :
    (LiveMessage.trackEvidence (eventWith embedding)).Typed := by
  have hbox : ∀ q ∈ [(0 : ℚ), 0, 1, 1], binary64.Has 11 (.finite q) := by
    simp only [List.forall_mem_cons]
    exact ⟨double_zero, double_zero, double_one, double_one, List.forall_mem_nil _⟩
  refine evidence_typed (List.forall_mem_singleton.mpr ?_)
  exact ⟨hbox, double_one, List.forall_mem_replicate.mpr (.inr double_zero),
    List.forall_mem_replicate.mpr (.inr double_one), double_one, hdoubles⟩

/-- The decoder takes any embedding whose norm it takes for 1. -/
theorem eventWith_accepted {embedding : List ℚ} (hlength : embedding.length = 512)
    (hdoubles : ∀ q ∈ embedding, binary64.Has 11 (.finite q))
    (hnorm : Protocol.normValid embedding = true)
    (hwritten : (encodeFrame (.trackEvidence (eventWith embedding))).toOption.isSome = true) :
    (eventWith embedding).Accepted := by
  obtain ⟨frame, hframe⟩ := exists_ok_of_isSome hwritten
  have hcomplete : ∀ observation ∈ (eventWith embedding).observations, observation.Complete :=
    List.forall_mem_singleton.mpr
      ⟨rfl, List.length_replicate, List.length_replicate, hlength⟩
  have hnorms : ∀ observation ∈ (eventWith embedding).observations,
      Protocol.normValid observation.embedding = true := List.forall_mem_singleton.mpr hnorm
  have hone : 1 ≤ (eventWith embedding).evidenceRevision := le_rfl
  have hcount : (eventWith embedding).observations.length ≤ 10 := Nat.le_of_ble_eq_true rfl
  have hpasses := List.rel_append loudHeader_valid.passes
    (evidence_passes hone hcount hcomplete (Nat.zero_le _))
  have hdecoded := decode_of_passes (eventWith_typed hdoubles) rfl hpasses trivial
    (evidence_reads hnorms) hframe
  have hlowered : loudEvent.header.lowered = loudEvent.header := rfl
  refine ⟨frame, hdecoded.trans ?_⟩
  exact congrArg (fun header => Except.ok (LiveMessage.trackEvidence
    { eventWith embedding with header })) hlowered

theorem loudEvent_accepted : loudEvent.Accepted := by
  have hlast : binary64.Has 11 (.finite (129 / 128)) := binary64_has_of_binary32
    (binary32_has_dyadic 129 (-7) (by norm_num) (by decide) (by decide) (by decide))
  have hlength : loudObservation.embedding.length = 512 := by
    show (List.replicate 511 (0 : ℚ) ++ [129 / 128]).length = 512
    rw [List.length_append, List.length_replicate, List.length_singleton]
  have hdoubles : ∀ q ∈ loudObservation.embedding, binary64.Has 11 (.finite q) :=
    List.forall_mem_append.mpr ⟨List.forall_mem_replicate.mpr (.inr double_zero),
      List.forall_mem_singleton.mpr hlast⟩
  exact eventWith_accepted hlength hdoubles (by decide +kernel) (by decide +kernel)

/-- The square root of the squares among the rational numbers. -/
def rationalSqrt (q : ℚ) : ℚ := Nat.sqrt q.num.toNat / Nat.sqrt q.den

def noTracks : LiveIdentityService := ⟨⟨0, 0, 0⟩, fun _ => none⟩

/-- The decoder lets an embedding pass that the store does not. -/
theorem loud_query_rejected :
    loudEvent.Accepted ∧ ¬ ∀ track ∈ noTracks.question rationalSqrt loudEvent, Queryable track := by
  refine ⟨loudEvent_accepted, fun hqueries => ?_⟩
  have hquery := question_queryable_iff.mp hqueries loudObservation (List.mem_singleton.mpr rfl)
  obtain ⟨-, hnorm⟩ := validateVector_ok_iff.mp hquery
  rw [loudObservation, euclideanNorm_last 511 (by norm_num)] at hnorm
  norm_num [l2Tolerance, abs_le] at hnorm

/-- The queries about a track are never rejected exactly if the norms of the observations that get
into its window are 1 up to the tolerance of the store. -/
theorem queries_valid_iff (service : LiveIdentityService) (sqrt : ℚ → ℚ) (key : TrackKey)
    (windows : List Window) (hnew : service.tracks key = none)
    (hkey : ∀ w ∈ windows, w.event.identityKey = key)
    (haccepted : ∀ w ∈ windows, w.event.Accepted) :
    (∀ before w after, windows = before ++ w :: after →
        ∀ track ∈ (service.after before).question sqrt w.event, Queryable track) ↔
      ∀ before w after, windows = before ++ w :: after → ∀ observation,
        TrackIdentity.Enters (LiveIdentityService.offered before) w.event.observations observation →
          |euclideanNorm observation.embedding - 1| ≤ l2Tolerance := by
  have hvalid {before : List Window} {w : Window} {after : List Window}
      (hsplit : windows = before ++ w :: after) {observation : LiveObservation}
      (henters : TrackIdentity.Enters (LiveIdentityService.offered before) w.event.observations
        observation) :
      validateVector observation.embedding = .ok () ↔
        |euclideanNorm observation.embedding - 1| ≤ l2Tolerance := by
    have hmem : w ∈ windows := hsplit ▸ List.mem_append_right _ List.mem_cons_self
    rw [validateVector_ok_iff, and_iff_right]
    exact (haccepted w hmem).length_eq _ (firsts_sublist.subset henters.1)
  constructor
  · intro hqueries before w after hsplit observation henters
    have hbefore := hkey
    rw [hsplit, List.forall_mem_append, List.forall_mem_cons] at hbefore
    have hquery := question_queryable_iff.mp (hqueries before w after hsplit)
    rw [hbefore.2.1] at hquery
    obtain ⟨kept, -, hmem⟩ := (LiveIdentityService.offered_after hnew before hbefore.1).exists_kept
      w.event.observations
    exact (hvalid hsplit henters).mp (hquery observation ((hmem observation).mpr (.inr henters)))
  · intro hnorms before w after hsplit
    have hbefore := hkey
    rw [hsplit, List.forall_mem_append, List.forall_mem_cons] at hbefore
    have henters : ∀ before w after, windows = before ++ w :: after → ∀ observation,
        TrackIdentity.Enters (LiveIdentityService.offered before) w.event.observations
          observation → validateVector observation.embedding = .ok () := by
      intro before w after hsplit observation henters
      exact (hvalid hsplit henters).mpr (hnorms before w after hsplit observation henters)
    rw [question_queryable_iff, hbefore.2.1]
    exact LiveIdentityService.forall_accepted hnew hbefore.1
      (LiveIdentityService.forall_window hnew hkey henters before (w :: after) hsplit)
      (henters before w after hsplit)

/-- An embedding whose norm is 1. -/
def quietObservation : LiveObservation :=
  { loudObservation with embedding := List.replicate 511 0 ++ [1] }

def quietEvent : TrackEvidenceEvent := { loudEvent with observations := [quietObservation] }

theorem quietEvent_accepted : quietEvent.Accepted := by
  have hlength : quietObservation.embedding.length = 512 := by
    show (List.replicate 511 (0 : ℚ) ++ [1]).length = 512
    rw [List.length_append, List.length_replicate, List.length_singleton]
  have hdoubles : ∀ q ∈ quietObservation.embedding, binary64.Has 11 (.finite q) :=
    List.forall_mem_append.mpr ⟨List.forall_mem_replicate.mpr (.inr double_zero),
      List.forall_mem_singleton.mpr double_one⟩
  exact eventWith_accepted hlength hdoubles (by decide +kernel) (by decide +kernel)

theorem quietObservation_norm : |euclideanNorm quietObservation.embedding - 1| ≤ l2Tolerance := by
  rw [quietObservation, euclideanNorm_last 511 zero_le_one]
  norm_num [l2Tolerance]

/-- Of a loud event a query is rejected, of a quiet one none is. -/
theorem loud_queries_iff :
    ((∀ before w after, [(⟨loudEvent, none, none⟩ : Window)] = before ++ w :: after →
        ∀ track ∈ (noTracks.after before).question rationalSqrt w.event, Queryable track) ↔
      ∀ before w after, [(⟨loudEvent, none, none⟩ : Window)] = before ++ w :: after →
        ∀ observation, TrackIdentity.Enters (LiveIdentityService.offered before)
          w.event.observations observation →
            |euclideanNorm observation.embedding - 1| ≤ l2Tolerance) ∧
      ∀ before w after, [(⟨quietEvent, none, none⟩ : Window)] = before ++ w :: after →
        ∀ track ∈ (noTracks.after before).question rationalSqrt w.event, Queryable track := by
  constructor
  · exact queries_valid_iff noTracks rationalSqrt loudEvent.identityKey [⟨loudEvent, none, none⟩]
      rfl (List.forall_mem_singleton.mpr rfl) (List.forall_mem_singleton.mpr loudEvent_accepted)
  · refine (queries_valid_iff noTracks rationalSqrt quietEvent.identityKey
      [⟨quietEvent, none, none⟩] rfl (List.forall_mem_singleton.mpr rfl)
      (List.forall_mem_singleton.mpr quietEvent_accepted)).mpr ?_
    intro before w after hsplit observation henters
    have hw : w ∈ [(⟨quietEvent, none, none⟩ : Window)] :=
      hsplit ▸ List.mem_append_right _ List.mem_cons_self
    obtain rfl := List.mem_singleton.mp hw
    obtain rfl := List.mem_singleton.mp (firsts_sublist.subset henters.1)
    exact quietObservation_norm

end Mvision.Live
