import Mvision.Datetime
import Mvision.Library.Table
import Mvision.Live.IdentityService

/-!
# Events of a live track: `LiveEventService`

The service remembers revisions, pending decisions and cooldowns in
dictionaries, and writes detection events and snapshots.  The outcome of each
call to a store is an argument.  `uuid5` is the name-based UUID of the URL
namespace; the time stamps of a row are nanoseconds of the stream clock.
-/

namespace Mvision.Live

open Mvision.Library

inductive EventType where
  | known
  | unknown
deriving DecidableEq, Repr

inductive SnapshotStatus where
  | pending
  | ready
  | failed
  | unavailable
deriving DecidableEq, Repr

structure LiveDetectionEvent where
  eventId : String
  cameraId : String
  runId : String
  nativeTrackId : Nat
  identityEpoch : Nat
  eventType : EventType
  faceId : Option String
  nameSnapshot : Option String
  identityVersionSnapshot : Option Nat
  matchScore : Option ℚ
  nearestKnownScore : Option ℚ
  detectorConfidence : ℚ
  firstSeenAt : Nat
  lastSeenAt : Nat
  occurredAt : Nat
  boundingBox : List ℚ
  landmarks : List ℚ
  quality : DecisionQuality
  snapshotStatus : SnapshotStatus
  snapshotBucket : Option String
  snapshotObjectKey : Option String
deriving DecidableEq, Repr

/-- The columns of the unique constraint that `create_once` inserts against. -/
def LiveDetectionEvent.once (e : LiveDetectionEvent) : String × Nat × Nat × EventType :=
  (e.runId, e.nativeTrackId, e.identityEpoch, e.eventType)

abbrev LiveEvents := Table LiveDetectionEvent.once

/-- `LiveEventRepository.create_once` -/
def LiveEvents.createOnce (rows : LiveEvents) (row : LiveDetectionEvent) : LiveEvents :=
  rows.insert row

structure SnapshotInfo where
  bucket : String
  objectKey : String
deriving DecidableEq, Repr

/-- How the calls of one `_persist` end. -/
structure StoreCalls where
  upload : Option SnapshotInfo
  commit : Bool
  delete : Bool
deriving DecidableEq, Repr

inductive LiveEventError where
  | staleLiveEvidence
  /-- `max()` of an empty sequence -/
  | noObservation
  | commitFailed
deriving DecidableEq, Repr

structure LiveEventSettings where
  liveKnownCooldownSeconds : ℚ
  liveUnknownMinDwellSeconds : ℚ
  uuid5 : String → String

/-- `int(seconds * 1_000_000_000)` -/
def toNanoseconds (seconds : ℚ) : Int :=
  let scaled := seconds * 1000000000
  scaled.num.tdiv scaled.den

def EventType.text : EventType → String
  | .known => "known"
  | .unknown => "unknown"

def EventType.assigned : EventType → AssignedState
  | .known => .known
  | .unknown => .unknown

structure LiveEventService where
  settings : LiveEventSettings
  revisions : String × Nat → Option Nat
  pending : String × Nat → Option (TrackEvidenceEvent × LiveIdentityDecision)
  knownCooldown : String × String → Option Nat
  suppressedCount : Nat
  events : LiveEvents
  snapshots : String → Option (List UInt8)

/-- `max(evidence.observations, key=lambda item: item.quality_score)`: the first of the best. -/
def bestObservation : List LiveObservation → Option LiveObservation
  | [] => none
  | o :: rest =>
      some (rest.foldl (fun best o => if best.qualityScore < o.qualityScore then o else best) o)

namespace LiveEventService

variable (s : LiveEventService)

/-- The row that `_persist` writes. -/
def row (cameraId runId : String) (evidence : TrackEvidenceEvent)
    (decision : LiveIdentityDecision) (eventType : EventType) (eventId : String)
    (snapshot : Option SnapshotInfo) (best : LiveObservation) : LiveDetectionEvent where
  eventId := eventId
  cameraId := cameraId
  runId := runId
  nativeTrackId := evidence.trackerId
  identityEpoch := decision.identityEpoch
  eventType := eventType
  faceId := decision.faceMatch.map (·.identity.faceId)
  nameSnapshot := decision.faceMatch.map (·.identity.name)
  identityVersionSnapshot := decision.faceMatch.map (·.identity.version)
  matchScore := decision.faceMatch.map (·.score)
  nearestKnownScore := decision.nearestKnownScore
  detectorConfidence := best.detectorConfidence
  firstSeenAt := evidence.firstSeenNs
  lastSeenAt := evidence.lastSeenNs
  occurredAt := evidence.lastSeenNs
  boundingBox := best.bbox
  landmarks := best.landmarks
  quality := decision.quality
  snapshotStatus := if snapshot.isSome then .ready else .failed
  snapshotBucket := snapshot.map (·.bucket)
  snapshotObjectKey := snapshot.map (·.objectKey)

/-- `LiveEventService._persist`: a failed upload or notification does not raise. -/
def persist (cameraId runId : String) (evidence : TrackEvidenceEvent)
    (decision : LiveIdentityDecision) (eventType : EventType) (calls : StoreCalls) :
    Except LiveEventError Unit × LiveEventService :=
  let eventId := s.settings.uuid5
    s!"{runId}:{evidence.trackerId}:{eventType.text}:{decision.identityEpoch}"
  let objectKey := s!"live/{cameraId}/{eventId}/aligned"
  let s := match calls.upload with
    | some _ =>
        { s with
          snapshots :=
            Function.update s.snapshots objectKey (some evidence.representativeAlignedJpeg) }
    | none => s
  match bestObservation evidence.observations with
  | none => (.error .noObservation, s)
  | some best =>
      if calls.commit then
        let row := row cameraId runId evidence decision eventType eventId calls.upload best
        (.ok (), { s with events := s.events.createOnce row })
      else if calls.upload.isSome ∧ calls.delete then
        (.error .commitFailed, { s with snapshots := Function.update s.snapshots objectKey none })
      else (.error .commitFailed, s)

/-- The assignment that `_assignment` builds at a revision. -/
def assignmentAt (evidence : TrackEvidenceEvent) (decision : LiveIdentityDecision)
    (identityState : EventType) (revision : Nat) : IdentityAssignment :=
  let found := if identityState = .known then decision.faceMatch else none
  { header := { evidence.header with
      messageType := .identityAssignment
      sequence := evidence.header.sequence + revision }
    trackerId := evidence.trackerId
    assignmentRevision := revision
    identityEpoch := decision.identityEpoch
    identityState := identityState.assigned
    displayName := found.map (·.identity.name)
    faceId := found.map (·.identity.faceId)
    matchScore := found.map (·.score)
    recognitionThreshold := found.map (fun _ => decision.quality.recognitionThreshold)
    referenceEmbedding := found.bind (fun _ => decision.referenceEmbedding)
    decisionSequence := evidence.evidenceRevision }

/-- The last revision given to a tracker of a run. -/
def revision (key : String × Nat) : Nat := (s.revisions key).getD 0

/-- `LiveEventService._assignment` -/
def assignment (evidence : TrackEvidenceEvent) (decision : LiveIdentityDecision)
    (identityState : EventType) : IdentityAssignment × LiveEventService :=
  let key := (evidence.header.runId, evidence.trackerId)
  let revision := s.revision key + 1
  (assignmentAt evidence decision identityState revision,
    { s with revisions := Function.update s.revisions key (some revision) })

def setPending (evidence : TrackEvidenceEvent) (decision : LiveIdentityDecision) :
    LiveEventService :=
  { s with
    pending := Function.update s.pending (evidence.header.runId, evidence.trackerId)
      (some (evidence, decision)) }

def popPending (key : String × Nat) : LiveEventService :=
  { s with pending := Function.update s.pending key none }

/-- The face was reported for this camera less than a cooldown ago. -/
def coolingDown (cameraId faceId : String) (evidence : TrackEvidenceEvent) : Bool :=
  match s.knownCooldown (cameraId, faceId) with
  | some previous =>
      (evidence.lastSeenNs : Int) - previous <
        toNanoseconds s.settings.liveKnownCooldownSeconds
  | none => false

/-- Persist a known event, unless its face cools down. -/
def persistKnown (cameraId runId : String) (evidence : TrackEvidenceEvent)
    (decision : LiveIdentityDecision) (faceId : String) (calls : StoreCalls) :
    Except LiveEventError Unit × LiveEventService :=
  if s.coolingDown cameraId faceId evidence then
    (.ok (), { s with suppressedCount := s.suppressedCount + 1 })
  else
    match s.persist cameraId runId evidence decision .known calls with
    | (.error e, s) => (.error e, s)
    | (.ok _, s) =>
        (.ok (), { s with
          knownCooldown :=
            Function.update s.knownCooldown (cameraId, faceId) (some evidence.lastSeenNs) })

/-- The commands for a known face: a reset first, where the decision asks for one. -/
def knownCommands (evidence : TrackEvidenceEvent) (decision : LiveIdentityDecision) :
    List IdentityAssignment × LiveEventService :=
  if decision.resetRequired then
    let (reset, s) := s.assignment evidence decision .unknown
    let (known, s) := s.assignment evidence decision .known
    ([reset, known], s)
  else
    let (known, s) := s.assignment evidence decision .known
    ([known], s)

/-- `LiveEventService.accept_decision` -/
def acceptDecision (cameraId runId : String) (generation : Nat) (evidence : TrackEvidenceEvent)
    (decision : LiveIdentityDecision) (calls : StoreCalls) :
    Except LiveEventError (List IdentityAssignment) × LiveEventService :=
  if evidence.header.cameraId ≠ cameraId ∨ evidence.header.runId ≠ runId ∨
      evidence.header.generation ≠ generation then
    (.error .staleLiveEvidence, s)
  else
    match decision.transition with
    | .none =>
        (.ok [], if decision.faceMatch = none then s.setPending evidence decision else s)
    | .unknown =>
        let s := s.popPending (runId, evidence.trackerId)
        match s.persist cameraId runId evidence decision .unknown calls with
        | (.error e, s) => (.error e, s)
        | (.ok _, s) =>
            let (reset, s) := s.assignment evidence decision .unknown
            (.ok [reset], s)
    | .known =>
        match decision.faceMatch, decision.referenceEmbedding with
        | some found, some _ =>
            match s.persistKnown cameraId runId evidence decision found.identity.faceId calls with
            | (.error e, s) => (.error e, s)
            | (.ok _, s) =>
                let (commands, s) := s.knownCommands evidence decision
                (.ok commands, s)
        | _, _ => (.ok [], s.setPending evidence decision)

/-- `LiveEventService.expire_track` -/
def expireTrack (cameraId runId : String) (generation : Nat) (event : TrackExpiredEvent)
    (calls : StoreCalls) : Except LiveEventError (List IdentityAssignment) × LiveEventService :=
  if event.header.cameraId ≠ cameraId ∨ event.header.runId ≠ runId ∨
      event.header.generation ≠ generation then
    (.error .staleLiveEvidence, s)
  else
    let pending := s.pending (runId, event.trackerId)
    let s := s.popPending (runId, event.trackerId)
    match pending with
    | none => (.ok [], s)
    | some (evidence, decision) =>
        let dwell : Int := event.lastSeenNs - event.firstSeenNs
        if dwell < toNanoseconds s.settings.liveUnknownMinDwellSeconds then (.ok [], s)
        else
          match s.persist cameraId runId evidence decision .unknown calls with
          | (.error e, s) => (.error e, s)
          | (.ok _, s) =>
              let (unknown, s) := s.assignment evidence decision .unknown
              (.ok [unknown], s)

end LiveEventService

/-! ## What a decision can do

The spec lemmas name the revisions and the pending entry that a call leaves,
for a call in the context of its own event, which is how the supervisor calls. -/

section Spec

open LiveEventService

variable {s : LiveEventService} {cameraId runId : String} {evidence : TrackEvidenceEvent}
  {decision : LiveIdentityDecision} {calls : StoreCalls}

theorem bestObservation_eq_none {observations : List LiveObservation} :
    bestObservation observations = none ↔ observations = [] := by
  cases observations <;> simp [bestObservation]

/-- The dictionaries that decide what is emitted are the same. -/
def SameTracks (s s' : LiveEventService) : Prop :=
  s'.revisions = s.revisions ∧ s'.pending = s.pending

theorem persist_sameTracks {eventType : EventType} :
    SameTracks s (s.persist cameraId runId evidence decision eventType calls).2 := by
  unfold persist
  dsimp only
  cases calls.upload <;> (repeat' split) <;> exact ⟨rfl, rfl⟩

/-- `_persist` raises exactly if the evidence is empty or the commit fails. -/
theorem persist_ok_iff {eventType : EventType} :
    (s.persist cameraId runId evidence decision eventType calls).1 = .ok () ↔
      evidence.observations ≠ [] ∧ calls.commit = true := by
  unfold persist
  dsimp only
  cases hb : bestObservation evidence.observations with
  | none => simp [bestObservation_eq_none.mp hb]
  | some best =>
      have hne : evidence.observations ≠ [] := fun h => by
        rw [bestObservation_eq_none.mpr h] at hb
        cases hb
      by_cases hc : calls.commit = true
      · simp [hc, hne]
      · by_cases hd : calls.upload.isSome ∧ calls.delete
        · simp [hc, hd]
        · simp [hc, hd]

theorem persistKnown_sameTracks {faceId : String} :
    SameTracks s (s.persistKnown cameraId runId evidence decision faceId calls).2 := by
  unfold persistKnown
  split
  · exact ⟨rfl, rfl⟩
  · have h : SameTracks s (s.persist cameraId runId evidence decision .known calls).2 :=
      persist_sameTracks
    rcases hp : s.persist cameraId runId evidence decision .known calls with ⟨e | _, s'⟩ <;>
      rw [hp] at h <;> exact h

theorem persistKnown_ok {faceId : String}
    (h : evidence.observations ≠ [] ∧ calls.commit = true) :
    (s.persistKnown cameraId runId evidence decision faceId calls).1 = .ok () := by
  unfold persistKnown
  split
  · rfl
  · have hok : (s.persist cameraId runId evidence decision .known calls).1 = .ok () :=
      persist_ok_iff.mpr h
    rcases hp : s.persist cameraId runId evidence decision .known calls with ⟨e | _, s'⟩
    · rw [hp] at hok
      cases hok
    · rfl

/-- The tracker of a run that a piece of evidence is about. -/
def TrackEvidenceEvent.trackKey (evidence : TrackEvidenceEvent) : String × Nat :=
  (evidence.header.runId, evidence.trackerId)

/-- How `accept_decision` can end: its result and the revisions it leaves. -/
inductive Accepted (s : LiveEventService) (evidence : TrackEvidenceEvent)
    (decision : LiveIdentityDecision) :
    Except LiveEventError (List IdentityAssignment) → (String × Nat → Option Nat) → Prop where
  | failed (e : LiveEventError) (h : decision.transition ≠ .none) :
      Accepted s evidence decision (.error e) s.revisions
  | silent (h : decision.transition = .none) :
      Accepted s evidence decision (.ok []) s.revisions
  | unmatched (h : decision.transition = .known)
      (hnone : decision.faceMatch = none ∨ decision.referenceEmbedding = none) :
      Accepted s evidence decision (.ok []) s.revisions
  | reset (h : decision.transition = .unknown) :
      Accepted s evidence decision
        (.ok [assignmentAt evidence decision .unknown (s.revision evidence.trackKey + 1)])
        (Function.update s.revisions evidence.trackKey
          (some (s.revision evidence.trackKey + 1)))
  | known (found : FaceMatch) (h : decision.transition = .known)
      (hfound : decision.faceMatch = some found) (hreset : decision.resetRequired = false) :
      Accepted s evidence decision
        (.ok [assignmentAt evidence decision .known (s.revision evidence.trackKey + 1)])
        (Function.update s.revisions evidence.trackKey
          (some (s.revision evidence.trackKey + 1)))
  | replaced (found : FaceMatch) (h : decision.transition = .known)
      (hfound : decision.faceMatch = some found) (hreset : decision.resetRequired = true) :
      Accepted s evidence decision
        (.ok [assignmentAt evidence decision .unknown (s.revision evidence.trackKey + 1),
          assignmentAt evidence decision .known (s.revision evidence.trackKey + 2)])
        (Function.update s.revisions evidence.trackKey
          (some (s.revision evidence.trackKey + 2)))

/-- A call leaves each pending entry, drops it, or makes its own evidence pending. -/
def PendingStep (s s' : LiveEventService) (evidence : TrackEvidenceEvent)
    (decision : LiveIdentityDecision) : Prop :=
  ∀ key, s'.pending key = s.pending key ∨ s'.pending key = none ∨
    key = evidence.trackKey ∧ s'.pending key = some (evidence, decision)

theorem popPending_pendingStep {key : String × Nat} :
    PendingStep s (s.popPending key) evidence decision := by
  intro k
  by_cases hk : k = key
  · exact Or.inr (Or.inl (by simp [popPending, hk]))
  · exact Or.inl (by simp [popPending, hk])

theorem setPending_pendingStep :
    PendingStep s (s.setPending evidence decision) evidence decision := by
  intro k
  by_cases hk : k = evidence.trackKey
  · exact Or.inr (Or.inr ⟨hk, by simp [setPending, hk, TrackEvidenceEvent.trackKey]⟩)
  · have hk' : k ≠ (evidence.header.runId, evidence.trackerId) := hk
    exact Or.inl (by simp [setPending, hk'])

theorem PendingStep.of_same {s' s'' : LiveEventService}
    (h : PendingStep s s' evidence decision) (hp : s''.pending = s'.pending) :
    PendingStep s s'' evidence decision := by
  intro k
  rw [hp]
  exact h k

theorem assignment_spec {s' : LiveEventService} {eventType : EventType}
    (h : s'.revisions = s.revisions) :
    s'.assignment evidence decision eventType =
      (assignmentAt evidence decision eventType (s.revision evidence.trackKey + 1),
        { s' with
          revisions := Function.update s.revisions evidence.trackKey
            (some (s.revision evidence.trackKey + 1)) }) := by
  unfold assignment LiveEventService.revision
  rw [h]
  rfl

theorem knownCommands_spec (evidence : TrackEvidenceEvent) {s' : LiveEventService}
    (h : s'.revisions = s.revisions) {found : FaceMatch} (ht : decision.transition = .known)
    (hm : decision.faceMatch = some found) :
    Accepted s evidence decision (.ok (s'.knownCommands evidence decision).1)
        (s'.knownCommands evidence decision).2.revisions ∧
      (s'.knownCommands evidence decision).2.pending = s'.pending := by
  unfold knownCommands
  cases hr : decision.resetRequired with
  | false =>
      rw [if_neg Bool.false_ne_true, assignment_spec h]
      exact ⟨.known found ht hm hr, rfl⟩
  | true =>
      rw [if_pos rfl, assignment_spec h]
      have hacc : Accepted s evidence decision _ _ := .replaced found ht hm hr
      refine ⟨?_, rfl⟩
      simpa [assignment, LiveEventService.revision, TrackEvidenceEvent.trackKey] using hacc

/-- The specification of `accept_decision`. -/
theorem acceptDecision_spec (s : LiveEventService) (evidence : TrackEvidenceEvent)
    (decision : LiveIdentityDecision) (calls : StoreCalls) :
    let after := s.acceptDecision evidence.header.cameraId evidence.header.runId
      evidence.header.generation evidence decision calls
    Accepted s evidence decision after.1 after.2.revisions ∧
      PendingStep s after.2 evidence decision := by
  have hsame : PendingStep s s evidence decision := fun k => Or.inl rfl
  dsimp only
  unfold acceptDecision
  rw [if_neg (by simp)]
  cases ht : decision.transition with
  | none =>
      dsimp only
      split
      · exact ⟨.silent ht, setPending_pendingStep⟩
      · exact ⟨.silent ht, hsame⟩
  | unknown =>
      have hne : decision.transition ≠ .none := by rw [ht]; decide
      have hpop : PendingStep s (s.popPending (evidence.header.runId, evidence.trackerId))
          evidence decision := popPending_pendingStep
      have hp : SameTracks (s.popPending (evidence.header.runId, evidence.trackerId))
          ((s.popPending (evidence.header.runId, evidence.trackerId)).persist
            evidence.header.cameraId evidence.header.runId evidence decision .unknown calls).2 :=
        persist_sameTracks
      dsimp only
      rcases hq : (s.popPending (evidence.header.runId, evidence.trackerId)).persist
          evidence.header.cameraId evidence.header.runId evidence decision .unknown calls with
        ⟨e | _, s'⟩
      · rw [hq] at hp
        have hrev : s'.revisions = s.revisions := hp.1
        refine ⟨?_, hpop.of_same hp.2⟩
        show Accepted s evidence decision (.error e) s'.revisions
        rw [hrev]
        exact .failed e hne
      · rw [hq] at hp
        have hrev : s'.revisions = s.revisions := hp.1
        dsimp only
        rw [assignment_spec hrev]
        exact ⟨.reset ht, hpop.of_same hp.2⟩
  | known =>
      have hne : decision.transition ≠ .none := by rw [ht]; decide
      dsimp only
      cases hm : decision.faceMatch with
      | none => exact ⟨.unmatched ht (Or.inl hm), setPending_pendingStep⟩
      | some found =>
          cases hv : decision.referenceEmbedding with
          | none => exact ⟨.unmatched ht (Or.inr hv), setPending_pendingStep⟩
          | some vector =>
              have hp : SameTracks s (s.persistKnown evidence.header.cameraId
                  evidence.header.runId evidence decision found.identity.faceId calls).2 :=
                persistKnown_sameTracks
              dsimp only
              rcases hq : s.persistKnown evidence.header.cameraId evidence.header.runId evidence
                  decision found.identity.faceId calls with ⟨e | _, s'⟩
              · rw [hq] at hp
                refine ⟨?_, hsame.of_same hp.2⟩
                show Accepted s evidence decision (.error e) s'.revisions
                rw [hp.1]
                exact .failed e hne
              · rw [hq] at hp
                dsimp only
                obtain ⟨hacc, hpend⟩ := knownCommands_spec evidence hp.1 ht hm
                exact ⟨hacc, hsame.of_same (hpend.trans hp.2)⟩

/-- A decision whose persist call, if it makes one, succeeds is accepted. -/
theorem acceptDecision_ok
    (h : decision.transition = .none ∨ evidence.observations ≠ [] ∧ calls.commit = true ∨
      ∃ found, decision.transition = .known ∧ decision.faceMatch = some found ∧
        s.coolingDown evidence.header.cameraId found.identity.faceId evidence = true) :
    ∃ commands, (s.acceptDecision evidence.header.cameraId evidence.header.runId
      evidence.header.generation evidence decision calls).1 = .ok commands := by
  unfold acceptDecision
  rw [if_neg (by simp)]
  cases ht : decision.transition with
  | none => exact ⟨[], rfl⟩
  | unknown =>
      rw [ht] at h
      have hok : evidence.observations ≠ [] ∧ calls.commit = true := by
        rcases h with h | h | ⟨found, h, -⟩
        · cases h
        · exact h
        · cases h
      have hp : ((s.popPending (evidence.header.runId, evidence.trackerId)).persist
          evidence.header.cameraId evidence.header.runId evidence decision .unknown calls).1 =
          .ok () := persist_ok_iff.mpr hok
      dsimp only
      rcases hq : (s.popPending (evidence.header.runId, evidence.trackerId)).persist
          evidence.header.cameraId evidence.header.runId evidence decision .unknown calls with
        ⟨e | _, s'⟩
      · rw [hq] at hp
        cases hp
      · exact ⟨_, rfl⟩
  | known =>
      rw [ht] at h
      dsimp only
      cases hm : decision.faceMatch with
      | none => exact ⟨[], rfl⟩
      | some found =>
          cases hv : decision.referenceEmbedding with
          | none => exact ⟨[], rfl⟩
          | some vector =>
              have hp : (s.persistKnown evidence.header.cameraId evidence.header.runId evidence
                  decision found.identity.faceId calls).1 = .ok () := by
                rcases h with h | h | ⟨found', -, hf, hcool⟩
                · cases h
                · exact persistKnown_ok h
                · obtain rfl : found = found' := Option.some.inj (hm.symm.trans hf)
                  unfold persistKnown
                  rw [if_pos hcool]
              dsimp only
              rcases hq : s.persistKnown evidence.header.cameraId evidence.header.runId evidence
                  decision found.identity.faceId calls with ⟨e | _, s'⟩
              · rw [hq] at hp
                cases hp
              · exact ⟨_, rfl⟩

/-- How `expire_track` can end. -/
inductive Expired (s : LiveEventService) (key : String × Nat) :
    Except LiveEventError (List IdentityAssignment) → (String × Nat → Option Nat) → Prop where
  | failed (e : LiveEventError) : Expired s key (.error e) s.revisions
  | silent : Expired s key (.ok []) s.revisions
  | unknown (evidence : TrackEvidenceEvent) (decision : LiveIdentityDecision)
      (h : s.pending key = some (evidence, decision)) :
      Expired s key
        (.ok [assignmentAt evidence decision .unknown (s.revision evidence.trackKey + 1)])
        (Function.update s.revisions evidence.trackKey
          (some (s.revision evidence.trackKey + 1)))

/-- The specification of `expire_track`. -/
theorem expireTrack_spec (s : LiveEventService) (event : TrackExpiredEvent) (calls : StoreCalls) :
    let after := s.expireTrack event.header.cameraId event.header.runId
      event.header.generation event calls
    Expired s (event.header.runId, event.trackerId) after.1 after.2.revisions ∧
      ∀ key, after.2.pending key = s.pending key ∨ after.2.pending key = none := by
  have hpop : ∀ key, (s.popPending (event.header.runId, event.trackerId)).pending key =
      s.pending key ∨ (s.popPending (event.header.runId, event.trackerId)).pending key = none := by
    intro k
    by_cases hk : k = (event.header.runId, event.trackerId)
    · exact Or.inr (by simp [popPending, hk])
    · exact Or.inl (by simp [popPending, hk])
  dsimp only
  unfold expireTrack
  rw [if_neg (by simp)]
  cases hpend : s.pending (event.header.runId, event.trackerId) with
  | none => exact ⟨.silent, hpop⟩
  | some entry =>
      obtain ⟨evidence, decision⟩ := entry
      dsimp only
      split
      · exact ⟨.silent, hpop⟩
      · have hp : SameTracks (s.popPending (event.header.runId, event.trackerId))
            ((s.popPending (event.header.runId, event.trackerId)).persist event.header.cameraId
              event.header.runId evidence decision .unknown calls).2 := persist_sameTracks
        rcases hq : (s.popPending (event.header.runId, event.trackerId)).persist
            event.header.cameraId event.header.runId evidence decision .unknown calls with
          ⟨e | _, s'⟩
        · rw [hq] at hp
          have hrev : s'.revisions = s.revisions := hp.1
          refine ⟨?_, fun key => ?_⟩
          · show Expired s _ (.error e) s'.revisions
            rw [hrev]
            exact .failed e
          · show s'.pending key = _ ∨ s'.pending key = none
            rw [hp.2]
            exact hpop key
        · rw [hq] at hp
          have hrev : s'.revisions = s.revisions := hp.1
          dsimp only
          rw [assignment_spec hrev]
          refine ⟨.unknown evidence decision hpend, fun key => ?_⟩
          show s'.pending key = _ ∨ s'.pending key = none
          rw [hp.2]
          exact hpop key

end Spec

end Mvision.Live
