import Mvision.Library.Machine
import Mvision.Live.EventStores

/-!
# Events and their snapshots

`_persist` uploads a snapshot, commits a row and deletes the snapshot again if
the commit fails.  The three share the name of the event.  When the event has
been persisted before, the compensation deletes the snapshot of its row.
-/

namespace Mvision.Live

open Mvision.Library

inductive EventStep where
  | accept (cameraId runId : String) (generation : Nat) (evidence : TrackEvidenceEvent)
      (decision : LiveIdentityDecision) (calls : StoreCalls)
  | expire (cameraId runId : String) (generation : Nat) (event : TrackExpiredEvent)
      (calls : StoreCalls)
deriving DecidableEq

def EventStep.calls : EventStep → StoreCalls
  | .accept _ _ _ _ _ calls | .expire _ _ _ _ calls => calls

/-- The arguments of a call of `_persist`. -/
structure PersistCall where
  cameraId : String
  runId : String
  evidence : TrackEvidenceEvent
  decision : LiveIdentityDecision
  eventType : EventType
deriving DecidableEq

namespace LiveEventService

variable (s : LiveEventService)

/-- The event that an accepted decision persists. -/
def acceptedEvent (cameraId : String) (evidence : TrackEvidenceEvent)
    (decision : LiveIdentityDecision) : Option EventType :=
  match decision.transition with
  | .none => none
  | .unknown => some .unknown
  | .known =>
      match decision.faceMatch, decision.referenceEmbedding with
      | some found, some _ =>
          if s.coolingDown cameraId found.identity.faceId evidence then none else some .known
      | _, _ => none

/-- The call of `_persist` that a call makes. -/
def persistCall : EventStep → Option PersistCall
  | .accept cameraId runId generation evidence decision _ =>
      if evidence.header.cameraId ≠ cameraId ∨ evidence.header.runId ≠ runId ∨
          evidence.header.generation ≠ generation then none
      else
        (s.acceptedEvent cameraId evidence decision).map fun eventType =>
          ⟨cameraId, runId, evidence, decision, eventType⟩
  | .expire cameraId runId generation event _ =>
      if event.header.cameraId ≠ cameraId ∨ event.header.runId ≠ runId ∨
          event.header.generation ≠ generation then none
      else
        match s.pending (runId, event.trackerId) with
        | none => none
        | some (evidence, decision) =>
            if (event.lastSeenNs : Int) - event.firstSeenNs <
                toNanoseconds s.settings.liveUnknownMinDwellSeconds then none
            else some ⟨cameraId, runId, evidence, decision, .unknown⟩

/-- Where a call of `_persist` stores its snapshot. -/
def callKey (p : PersistCall) : String :=
  s.objectKey p.cameraId p.runId p.evidence p.decision p.eventType

/-- Every row that has a snapshot refers to one that is in the store. -/
def SnapshotsKept : Prop :=
  ∀ row ∈ s.events.rows, row.snapshotStatus = .ready →
    ∃ objectKey, row.snapshotObjectKey = some objectKey ∧ s.snapshots objectKey ≠ none

instance : Decidable s.SnapshotsKept :=
  have : ∀ row : LiveDetectionEvent, Decidable (∃ objectKey,
      row.snapshotObjectKey = some objectKey ∧ s.snapshots objectKey ≠ none) := fun row =>
    match row.snapshotObjectKey with
    | none => isFalse nofun
    | some objectKey =>
        if h : s.snapshots objectKey ≠ none then isTrue ⟨objectKey, rfl, h⟩
        else isFalse fun ⟨_, hkey, hne⟩ => h (Option.some.inj hkey ▸ hne)
  inferInstanceAs (Decidable (∀ row ∈ s.events.rows, _ → _))

/-- A compensation deletes no snapshot that a row refers to. -/
def Spares (step : EventStep) : Prop :=
  ∀ p, s.persistCall step = some p → Compensates p.evidence step.calls →
    ∀ row ∈ s.events.rows, row.snapshotStatus = .ready →
      row.snapshotObjectKey ≠ some (s.callKey p)

instance (step : EventStep) : Decidable (s.Spares step) :=
  match h : s.persistCall step with
  | none => isTrue fun p hp => by rw [h] at hp; cases hp
  | some p =>
      decidable_of_iff (Compensates p.evidence step.calls → ∀ row ∈ s.events.rows,
          row.snapshotStatus = .ready → row.snapshotObjectKey ≠ some (s.callKey p))
        ⟨fun hspare p' hp => by rwa [← Option.some.inj (h.symm.trans hp)], fun hspare => hspare p h⟩

end LiveEventService

/-- Calls of the service in any order, with any outcome of the stores; an upload reports the
key that it was given. -/
def liveEvents : Machine LiveEventService EventStep where
  init s := s.events = .empty
  enabled s step := ∀ p info, s.persistCall step = some p → step.calls.upload = some info →
    info.objectKey = s.callKey p
  next s
    | .accept cameraId runId generation evidence decision calls =>
        (s.acceptDecision cameraId runId generation evidence decision calls).2
    | .expire cameraId runId generation event calls =>
        (s.expireTrack cameraId runId generation event calls).2

instance (s : LiveEventService) (step : EventStep) : Decidable (liveEvents.enabled s step) :=
  match h : s.persistCall step, hu : step.calls.upload with
  | some p, some info =>
      decidable_of_iff (info.objectKey = s.callKey p)
        ⟨fun hkey p' info' hp hi => by
          rwa [← Option.some.inj (h.symm.trans hp), ← Option.some.inj (hu.symm.trans hi)],
          fun he => he p info h hu⟩
  | none, _ => isTrue fun p info hp _ => by rw [h] at hp; cases hp
  | some _, none => isTrue fun p info _ hi => by rw [hu] at hi; cases hi

namespace LiveEventService

variable {s : LiveEventService}

theorem acceptedEvent_known {cameraId : String} {evidence : TrackEvidenceEvent}
    {decision : LiveIdentityDecision} {found : FaceMatch} (h : decision.transition = .known)
    (hmatch : decision.faceMatch = some found) (hreference : decision.referenceEmbedding ≠ none) :
    s.acceptedEvent cameraId evidence decision =
      if s.coolingDown cameraId found.identity.faceId evidence then none else some .known := by
  obtain ⟨vector, hv⟩ := Option.ne_none_iff_exists'.mp hreference
  simp [acceptedEvent, h, hmatch, hv]

/-- What a call writes to the events and the snapshots. -/
def Writes (s s' : LiveEventService) (call : Option PersistCall) (calls : StoreCalls) : Prop :=
  match call with
  | none => s'.events = s.events ∧ s'.snapshots = s.snapshots
  | some p =>
      s'.events =
          (s.persisted p.cameraId p.runId p.evidence p.decision p.eventType calls).events ∧
        s'.snapshots =
          (s.persisted p.cameraId p.runId p.evidence p.decision p.eventType calls).snapshots

/-- Forgetting a pending decision first changes nothing that a call writes. -/
theorem writes_of_popPending {s' : LiveEventService} {cameraId runId : String}
    {evidence : TrackEvidenceEvent} {decision : LiveIdentityDecision} {calls : StoreCalls}
    {key : String × Nat}
    (hs : SameStores
      ((s.popPending key).persisted cameraId runId evidence decision .unknown calls) s') :
    Writes s s' (some ⟨cameraId, runId, evidence, decision, .unknown⟩) calls := by
  obtain ⟨hevents, hsnapshots⟩ :=
    persisted_popPending s cameraId runId evidence decision .unknown calls key
  exact ⟨hs.events.trans hevents, hs.snapshots.trans hsnapshots⟩

/-- `accept_decision` writes what its call of `_persist` writes. -/
theorem accept_writes (s : LiveEventService) (cameraId runId : String) (generation : Nat)
    (evidence : TrackEvidenceEvent) (decision : LiveIdentityDecision) (calls : StoreCalls) :
    Writes s (s.acceptDecision cameraId runId generation evidence decision calls).2
      (s.persistCall (.accept cameraId runId generation evidence decision calls)) calls := by
  by_cases hstale : evidence.header.cameraId ≠ cameraId ∨ evidence.header.runId ≠ runId ∨
      evidence.header.generation ≠ generation
  · rw [persistCall, if_pos hstale, acceptDecision, if_pos hstale]
    exact ⟨rfl, rfl⟩
  · rw [persistCall, if_neg hstale]
    simp only [ne_eq, not_or, not_not] at hstale
    obtain ⟨rfl, rfl, rfl⟩ := hstale
    have heff := acceptDecision_effect s evidence decision calls
    generalize s.acceptDecision evidence.header.cameraId evidence.header.runId
      evidence.header.generation evidence decision calls = after at heff
    cases heff with
    | quiet s' h hmatch hs =>
        rw [acceptedEvent, h]
        exact ⟨hs.events, hs.snapshots⟩
    | recorded s' h hs =>
        have hnone : s.acceptedEvent evidence.header.cameraId evidence decision = none := by
          rcases h with ⟨h, -⟩ | ⟨h, hm | hv⟩
          · simp [acceptedEvent, h]
          · simp [acceptedEvent, h, hm]
          · cases hm : decision.faceMatch <;> simp [acceptedEvent, h, hv, hm]
        rw [hnone]
        exact ⟨hs.events, hs.snapshots⟩
    | unknown commands s' h hok hs =>
        rw [acceptedEvent, h]
        exact writes_of_popPending hs
    | unknownFailed e s' h hfail hs =>
        rw [acceptedEvent, h]
        exact writes_of_popPending hs
    | suppressed commands s' found h hmatch hreference hcool hcount hs =>
        rw [acceptedEvent_known h hmatch hreference, hcool]
        exact ⟨hs.events, hs.snapshots⟩
    | known commands s' found h hmatch hreference hcool hok hcount hs =>
        rw [acceptedEvent_known h hmatch hreference, hcool]
        exact ⟨hs.events, hs.snapshots⟩
    | knownFailed e s' found h hmatch hreference hcool hfail hs =>
        rw [acceptedEvent_known h hmatch hreference, hcool]
        exact ⟨hs.events, hs.snapshots⟩

/-- `expire_track` writes what its call of `_persist` writes. -/
theorem expire_writes (s : LiveEventService) (cameraId runId : String) (generation : Nat)
    (event : TrackExpiredEvent) (calls : StoreCalls) :
    Writes s (s.expireTrack cameraId runId generation event calls).2
      (s.persistCall (.expire cameraId runId generation event calls)) calls := by
  by_cases hstale : event.header.cameraId ≠ cameraId ∨ event.header.runId ≠ runId ∨
      event.header.generation ≠ generation
  · rw [persistCall, if_pos hstale, expireTrack, if_pos hstale]
    exact ⟨rfl, rfl⟩
  · rw [persistCall, if_neg hstale]
    simp only [ne_eq, not_or, not_not] at hstale
    obtain ⟨rfl, rfl, rfl⟩ := hstale
    have heff := expireTrack_effect s event calls
    generalize s.expireTrack event.header.cameraId event.header.runId event.header.generation
      event calls = after at heff
    cases heff with
    | quiet s' h hs =>
        cases hpend : s.pending (event.header.runId, event.trackerId) with
        | none => exact ⟨hs.events, hs.snapshots⟩
        | some entry =>
            dsimp only
            rw [if_pos (h entry hpend)]
            exact ⟨hs.events, hs.snapshots⟩
    | unknown command s' evidence decision h hdwell hok hs =>
        rw [h]
        dsimp only
        rw [if_neg (not_lt.mpr hdwell)]
        exact writes_of_popPending hs
    | failed e s' evidence decision h hdwell hfail hs =>
        rw [h]
        dsimp only
        rw [if_neg (not_lt.mpr hdwell)]
        exact writes_of_popPending hs

theorem step_writes (s : LiveEventService) (step : EventStep) :
    Writes s (liveEvents.next s step) (s.persistCall step) step.calls := by
  cases step with
  | accept cameraId runId generation evidence decision calls => exact accept_writes s _ _ _ _ _ _
  | expire cameraId runId generation event calls => exact expire_writes s _ _ _ _ _

/-! ## Keeping the snapshots -/

/-- An upload removes nothing. -/
theorem uploaded_ne_none {key objectKey : String} {jpeg : List UInt8}
    {upload : Option SnapshotInfo} (h : s.snapshots key ≠ none) :
    s.uploaded objectKey jpeg upload key ≠ none := by
  unfold uploaded
  split
  · rw [Function.update_apply]
    split
    · exact Option.some_ne_none jpeg
    · exact h
  · exact h

/-- A call of `_persist` keeps the snapshots exactly if its compensation, where it makes one,
deletes no snapshot of a row. -/
theorem persisted_kept_iff (h : s.SnapshotsKept) (p : PersistCall) (calls : StoreCalls)
    (hupload : ∀ info, calls.upload = some info → info.objectKey = s.callKey p)
    {s' : LiveEventService} (hw : Writes s s' (some p) calls) :
    s'.SnapshotsKept ↔ (Compensates p.evidence calls →
      ∀ row ∈ s.events.rows, row.snapshotStatus = .ready →
        row.snapshotObjectKey ≠ some (s.callKey p)) := by
  obtain ⟨hevents, hsnapshots⟩ := hw
  unfold persisted at hevents hsnapshots
  rcases persist_cases s p.cameraId p.runId p.evidence p.decision p.eventType calls with
    ⟨best, -, hcommit, heq⟩ | ⟨e, hcomp, heq⟩ | ⟨e, -, hcomp, heq⟩
  · rw [heq] at hevents hsnapshots
    refine iff_of_true (fun row hrow hready => ?_) fun hcomp => ?_
    · rw [hevents] at hrow
      rw [hsnapshots]
      rcases Table.mem_insert hrow with hold | ⟨rfl, -⟩
      · obtain ⟨key, hkey, hkept⟩ := h row hold hready
        exact ⟨key, hkey, uploaded_ne_none hkept⟩
      · -- a new row that is ready refers to the key of its own upload
        cases hu : calls.upload with
        | none => simp [row, hu] at hready
        | some info =>
            refine ⟨s.callKey p, by simp [row, hupload info hu], ?_⟩
            simp [uploaded, callKey]
    · rw [hcomp.2.1] at hcommit
      cases hcommit
  · rw [heq] at hevents hsnapshots
    have hdeleted : s'.snapshots = Function.update
        (s.uploaded (s.callKey p) p.evidence.representativeAlignedJpeg calls.upload)
        (s.callKey p) none := hsnapshots
    have hrows : s'.events = s.events := hevents
    constructor
    · intro hkept _ row hrow hready hkey
      obtain ⟨key, hkey', hne⟩ := hkept row (hrows ▸ hrow) hready
      obtain rfl : s.callKey p = key := Option.some.inj (hkey.symm.trans hkey')
      rw [hdeleted, Function.update_self] at hne
      exact hne rfl
    · intro hspare row hrow hready
      rw [hrows] at hrow
      obtain ⟨key, hkey, hkept⟩ := h row hrow hready
      have hne : key ≠ s.callKey p := by
        rintro rfl
        exact hspare hcomp row hrow hready hkey
      refine ⟨key, hkey, ?_⟩
      rw [hdeleted, Function.update_of_ne hne]
      exact uploaded_ne_none hkept
  · rw [heq] at hevents hsnapshots
    refine iff_of_true (fun row hrow hready => ?_) fun hc => absurd hc hcomp
    have hrows : s'.events = s.events := hevents
    rw [hrows] at hrow
    obtain ⟨key, hkey, hkept⟩ := h row hrow hready
    rw [hsnapshots]
    exact ⟨key, hkey, uploaded_ne_none hkept⟩

theorem kept_step {step : EventStep} (he : liveEvents.enabled s step) (h : s.SnapshotsKept) :
    (liveEvents.next s step).SnapshotsKept ↔ s.Spares step := by
  have hw := step_writes s step
  cases hcall : s.persistCall step with
  | none =>
      rw [hcall] at hw
      obtain ⟨hevents, hsnapshots⟩ := hw
      refine iff_of_true ?_ fun p hp => ?_
      · unfold SnapshotsKept
        rw [hevents, hsnapshots]
        exact h
      · rw [hcall] at hp
        cases hp
  | some p =>
      rw [hcall] at hw
      rw [persisted_kept_iff h p step.calls (fun info => he p info hcall) hw, Spares]
      constructor
      · intro hspare p' hp
        obtain rfl : p = p' := Option.some.inj (hcall.symm.trans hp)
        exact hspare
      · exact fun hspare => hspare p hcall

end LiveEventService

/-- Every stored event keeps its snapshot exactly if no compensation of a failed commit
deletes the snapshot of an earlier row. -/
theorem snapshots_kept_iff {s : LiveEventService} (h : s.SnapshotsKept) (steps : List EventStep)
    (hv : liveEvents.Valid s steps) :
    liveEvents.Always LiveEventService.SnapshotsKept s steps ↔
      liveEvents.Meets LiveEventService.Spares s steps :=
  Machine.always_iff_meets (I := fun _ => True) (fun _ _ _ _ => trivial)
    (fun _ _ he _ hP => LiveEventService.kept_step he hP) hv trivial h

section Sample

def eventCamera : String := "019b0000-0000-7000-8000-000000000001"

def eventRun : String := "019b0000-0000-7000-8000-000000000003"

/-- The UUIDs of the two events below. -/
def eventUuid5 (name : String) : String :=
  if name = "019b0000-0000-7000-8000-000000000003:42:unknown:2" then
    "cc142c41-f91a-59b4-9885-903f3dbeaefc"
  else "1838dbb5-092c-554b-a08d-73a1bfa8d01a"

def eventService : LiveEventService :=
  ⟨⟨30, 1, eventUuid5⟩, fun _ => none, fun _ => none, fun _ => none, 0, .empty, fun _ => none⟩

def eventEvidence (run : String) (tracker revision lastSeenNs : Nat) : TrackEvidenceEvent :=
  ⟨⟨2, .trackEvidence, "019b0000-0000-7000-8000-000000000002", eventCamera, run, 1, 1, 0,
    "traceparent", none⟩, tracker, revision, 0, lastSeenNs,
    [⟨lastSeenNs, [], 1, [], [], 1, 0, []⟩], [255, 216]⟩

def eventDecision (state : DecisionState) (transition : Transition) (epoch : Nat)
    (face : Option String) : LiveIdentityDecision :=
  ⟨state, face.map fun face => ⟨⟨face, face, 1⟩, face, 1⟩, none, epoch, false, ⟨0, 0, 0⟩,
    face.map fun _ => [1], transition, 1⟩

def unknownKey : String :=
  "live/019b0000-0000-7000-8000-000000000001/cc142c41-f91a-59b4-9885-903f3dbeaefc/aligned"

/-- A face is given up, in the new epoch no other is found, and the track expires. -/
def expiryAfterUnknown (commit : Bool) : List EventStep :=
  [.accept eventCamera eventRun 1 (eventEvidence eventRun 42 4 4000000000)
      (eventDecision .unknown .unknown 2 none) ⟨some ⟨"live", unknownKey⟩, true, true⟩,
    .accept eventCamera eventRun 1 (eventEvidence eventRun 42 5 5000000000)
      (eventDecision .pending .none 2 none) ⟨none, true, true⟩,
    .expire eventCamera eventRun 1
      ⟨⟨2, .trackExpired, "019b0000-0000-7000-8000-000000000002", eventCamera, eventRun, 1, 1, 0,
        "traceparent", none⟩, 42, 5, 0, 5000000000, "idle"⟩
      ⟨some ⟨"live", unknownKey⟩, commit, true⟩]

theorem snapshots_kept_committed :
    liveEvents.Always LiveEventService.SnapshotsKept eventService (expiryAfterUnknown true) :=
  (snapshots_kept_iff (by decide) (expiryAfterUnknown true) (by decide +kernel)).mpr
    (by decide +kernel)

theorem snapshot_lost :
    ¬ ∀ steps, liveEvents.Valid eventService steps →
      liveEvents.Always LiveEventService.SnapshotsKept eventService steps := by
  intro h
  have hlast := (h (expiryAfterUnknown false) (by decide +kernel)).last
  revert hlast
  decide +kernel

end Sample

end Mvision.Live
