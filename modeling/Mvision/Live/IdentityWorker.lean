import Mvision.Library.Machine
import Mvision.Live.AssignmentStream

/-!
# The identity task of the supervisor

`_process_identity_events` takes one event at a time, resolves it and hands
the assignments to the command queue; whatever raises is logged and dropped.
The machine follows all tracks of one run.  A decoded event carries the
camera, run and generation of the run, and no event of a track comes after its
expiry.  The last three fields record the history of the track of interest and
are read by no step.
-/

namespace Mvision.Live

open Mvision.Library

structure IdentityWorker where
  identity : LiveIdentityService
  events : LiveEventService
  /-- Everything put into the command queue, in order. -/
  commands : List IdentityAssignment
  /-- The last window of the track was resolved and accepted. -/
  returned : Bool
  /-- The last transition the identity service reported for the track. -/
  transition : Transition
  expired : Bool

inductive WorkerEvent where
  | evidence (event : TrackEvidenceEvent) (vote : Option VideoIdentityDecision)
      (reference : Option (List ℚ)) (calls : StoreCalls)
  | expired (event : TrackExpiredEvent) (calls : StoreCalls)
deriving DecidableEq

def WorkerEvent.header : WorkerEvent → ProtocolHeader
  | .evidence event .. => event.header
  | .expired event _ => event.header

def WorkerEvent.trackerId : WorkerEvent → Nat
  | .evidence event .. => event.trackerId
  | .expired event _ => event.trackerId

def WorkerEvent.isWindow : WorkerEvent → Bool
  | .evidence .. => true
  | .expired .. => false

/-- One turn of the loop of `_process_identity_events`. -/
def IdentityWorker.process (tracker : Nat) (w : IdentityWorker) : WorkerEvent → IdentityWorker
  | .evidence event vote reference calls =>
      let (decision, identity) := w.identity.resolve event vote reference
      let (result, events) := w.events.acceptDecision event.header.cameraId event.header.runId
        event.header.generation event decision calls
      let own : Bool := event.trackerId = tracker
      { w with
        identity := identity
        events := events
        commands := w.commands ++ issued result
        returned := if own then result.toBool else w.returned
        transition :=
          if own ∧ decision.transition ≠ .none then decision.transition else w.transition }
  | .expired event calls =>
      let (result, events) := w.events.expireTrack event.header.cameraId event.header.runId
        event.header.generation event calls
      let own : Bool := event.trackerId = tracker
      { w with
        identity := if result.toBool then w.identity.expire event else w.identity
        events := events
        commands := w.commands ++ issued result
        expired := w.expired || own }

/-- The assignments of a track that have been put into the command queue. -/
def IdentityWorker.stream (tracker : Nat) (w : IdentityWorker) : List IdentityAssignment :=
  w.commands.filter (fun a => a.trackerId = tracker)

/-- The services know nothing of the run yet. -/
structure FreshRun (key : TrackKey) (w : IdentityWorker) : Prop where
  tracks : ∀ t, w.identity.tracks { key with trackerId := t } = none
  revisions : ∀ t, w.events.revisions (key.runId, t) = none
  pending : ∀ t, w.events.pending (key.runId, t) = none
  commands : w.commands = []
  transition : w.transition = .none
  expired : w.expired = false

def identityWorker (key : TrackKey) : Machine IdentityWorker WorkerEvent where
  init := FreshRun key
  enabled w event :=
    (event.header.cameraId = key.cameraId ∧ event.header.runId = key.runId ∧
      event.header.generation = key.generation) ∧
    (event.trackerId = key.trackerId → w.expired = false)
  next w event := w.process key.trackerId event

instance (key : TrackKey) (w : IdentityWorker) (event : WorkerEvent) :
    Decidable ((identityWorker key).enabled w event) :=
  inferInstanceAs (Decidable ((_ ∧ _ ∧ _) ∧ (_ → _)))

/-! ## What one event can do -/

/-- The key of another tracker of the same run. -/
abbrev TrackKey.at (key : TrackKey) (tracker : Nat) : TrackKey :=
  { key with trackerId := tracker }

/-- A window: how it was resolved, how it was accepted, and what it leaves alone. -/
structure WindowStep (key : TrackKey) (w : IdentityWorker) (event : TrackEvidenceEvent)
    (calls : StoreCalls) (w' : IdentityWorker) (decision : LiveIdentityDecision)
    (state : TrackIdentity) (result : Except LiveEventError (List IdentityAssignment)) :
    Prop where
  resolution : Resolution (w.identity.track (key.at event.trackerId)) decision state
  result_eq : result = (w.events.acceptDecision event.header.cameraId event.header.runId
    event.header.generation event decision calls).1
  accepted : Accepted w.events event decision result w'.events.revisions
  pending : PendingStep w.events w'.events event decision
  runId : event.header.runId = key.runId
  track : ∀ t, w'.identity.track (key.at t) =
    if t = event.trackerId then state else w.identity.track (key.at t)
  commands : w'.commands = w.commands ++ issued result
  returned : w'.returned = if event.trackerId = key.trackerId then result.toBool else w.returned
  transition : w'.transition =
    if event.trackerId = key.trackerId ∧ decision.transition ≠ .none then decision.transition
    else w.transition
  expired : w'.expired = w.expired

section Step

variable {key : TrackKey} {w : IdentityWorker}

/-- The specification of a window. -/
theorem windowStep {event : TrackEvidenceEvent} {vote : Option VideoIdentityDecision}
    {reference : Option (List ℚ)} {calls : StoreCalls}
    (h : (identityWorker key).enabled w (.evidence event vote reference calls)) :
    ∃ state result, WindowStep key w event calls
      ((identityWorker key).next w (.evidence event vote reference calls))
      (w.identity.resolve event vote reference).1 state result := by
  obtain ⟨⟨hcam, hrun, hgen⟩, -⟩ := h
  have hkey : key.at event.trackerId = ⟨event.header.cameraId, event.header.runId,
      event.header.generation, event.trackerId⟩ := by
    rw [TrackKey.at, ← hcam, ← hrun, ← hgen]
    rfl
  have hres := w.identity.resolve_eq event vote reference (key.at event.trackerId) hkey
  have hspec := resolution_resolve (w.identity.track (key.at event.trackerId))
    w.identity.quality event.observations vote reference
  obtain ⟨hacc, hpend⟩ := acceptDecision_spec w.events event
    (w.identity.resolve event vote reference).1 calls
  refine ⟨((w.identity.track (key.at event.trackerId)).resolve w.identity.quality
    event.observations vote reference).2, _, ?_, rfl, hacc, hpend, hrun, ?_, rfl, ?_, ?_, rfl⟩
  · rw [hres]
    exact hspec
  · intro t
    show LiveIdentityService.track (w.identity.resolve event vote reference).2 (key.at t) = _
    rw [hres, LiveIdentityService.track_update]
    refine if_congr ?_ rfl rfl
    exact ⟨fun he => (TrackKey.mk.inj he).2.2.2, fun he => by rw [he]⟩
  · exact if_congr decide_eq_true_iff rfl rfl
  · exact if_congr (and_congr_left' decide_eq_true_iff) rfl rfl

/-- An expiry: what is reported, and what it leaves alone. -/
structure ExpiryStep (key : TrackKey) (w : IdentityWorker) (event : TrackExpiredEvent)
    (w' : IdentityWorker) (result : Except LiveEventError (List IdentityAssignment)) :
    Prop where
  expires : Expired w.events (event.header.runId, event.trackerId) result w'.events.revisions
  runId : event.header.runId = key.runId
  pending : ∀ k, w'.events.pending k = w.events.pending k ∨ w'.events.pending k = none
  track : ∀ t, w'.identity.track (key.at t) = w.identity.track (key.at t) ∨
    t = event.trackerId ∧ w'.identity.track (key.at t) = {}
  commands : w'.commands = w.commands ++ issued result
  expired : w'.expired = (w.expired || decide (event.trackerId = key.trackerId))

/-- The specification of an expiry. -/
theorem expiryStep {event : TrackExpiredEvent} {calls : StoreCalls}
    (h : (identityWorker key).enabled w (.expired event calls)) :
    ∃ result, ExpiryStep key w event
      ((identityWorker key).next w (.expired event calls)) result := by
  obtain ⟨⟨hcam, hrun, hgen⟩, -⟩ := h
  have hkey : key.at event.trackerId = ⟨event.header.cameraId, event.header.runId,
      event.header.generation, event.trackerId⟩ := by
    rw [TrackKey.at, ← hcam, ← hrun, ← hgen]
    rfl
  obtain ⟨hexp, hpend⟩ := expireTrack_spec w.events event calls
  refine ⟨_, hexp, hrun, hpend, ?_, rfl, rfl⟩
  intro t
  show LiveIdentityService.track (if _ then w.identity.expire event else w.identity) _ = _ ∨ _ ∧
    LiveIdentityService.track (if _ then w.identity.expire event else w.identity) _ = _
  split
  · unfold LiveIdentityService.expire
    rw [← hkey, LiveIdentityService.track_update]
    by_cases ht : t = event.trackerId
    · exact Or.inr ⟨ht, by rw [ht, if_pos rfl]; rfl⟩
    · exact Or.inl (if_neg fun he => ht (TrackKey.mk.inj he).2.2.2)
  · exact Or.inl rfl

end Step

/-! ## The stream of a track over whole runs -/

/-- The state of the track of interest. -/
def IdentityWorker.state (key : TrackKey) (w : IdentityWorker) : TrackIdentity :=
  w.identity.track (key.at key.trackerId)

/-- The last revision given to the track of interest. -/
def IdentityWorker.revision (key : TrackKey) (w : IdentityWorker) : Nat :=
  w.events.revision (key.runId, key.trackerId)

/-- The invariant behind the stream of a track. -/
structure Tracked (key : TrackKey) (w : IdentityWorker) : Prop where
  epochs : ∀ t, 1 ≤ (w.identity.track (key.at t)).identityEpoch
  pending : ∀ t evidence decision, w.events.pending (key.runId, t) = some (evidence, decision) →
    evidence.trackKey = (key.runId, t) ∧ 1 ≤ decision.identityEpoch
  emitted : IsEmitted (w.stream key.trackerId)
  grows : w.expired = false → Grows (w.stream key.trackerId) (w.state key).identityEpoch
    (w.revision key) ((w.state key).knownMatch ≠ none)

section Tracked

variable {key : TrackKey} {w w' : IdentityWorker}

theorem Resolution.epoch_le {s s' : TrackIdentity} {decision : LiveIdentityDecision}
    (h : Resolution s decision s') (hpos : 1 ≤ s.identityEpoch) :
    1 ≤ s'.identityEpoch ∧ 1 ≤ decision.identityEpoch := by
  cases h <;> omega

/-- Everything a window issues is for its own tracker. -/
theorem Accepted.tracker {s : LiveEventService} {evidence : TrackEvidenceEvent}
    {decision : LiveIdentityDecision}
    {result : Except LiveEventError (List IdentityAssignment)}
    {revisions : String × Nat → Option Nat} (h : Accepted s evidence decision result revisions) :
    ∀ a ∈ issued result, a.trackerId = evidence.trackerId := by
  cases h <;> simp [issued, LiveEventService.assignmentAt]

/-- A window changes the revision of its own tracker only. -/
theorem Accepted.revisions_of_ne {s : LiveEventService} {evidence : TrackEvidenceEvent}
    {decision : LiveIdentityDecision}
    {result : Except LiveEventError (List IdentityAssignment)}
    {revisions : String × Nat → Option Nat} (h : Accepted s evidence decision result revisions)
    {k : String × Nat} (hk : k ≠ evidence.trackKey) : revisions k = s.revisions k := by
  cases h <;> first | rfl | exact Function.update_of_ne hk _ _

theorem stream_append (tracker : Nat) {commands : List IdentityAssignment}
    (h : w'.commands = w.commands ++ commands) :
    w'.stream tracker =
      w.stream tracker ++ commands.filter (fun a => a.trackerId = tracker) := by
  rw [IdentityWorker.stream, h, List.filter_append]
  rfl

theorem filter_own {commands : List IdentityAssignment} {tracker : Nat}
    (h : ∀ a ∈ commands, a.trackerId = tracker) :
    commands.filter (fun a => a.trackerId = tracker) = commands :=
  List.filter_eq_self.mpr fun a ha => decide_eq_true (h a ha)

theorem filter_other {commands : List IdentityAssignment} {tracker other : Nat}
    (h : ∀ a ∈ commands, a.trackerId = other) (hne : other ≠ tracker) :
    commands.filter (fun a => a.trackerId = tracker) = [] :=
  List.filter_eq_nil_iff.mpr fun a ha => by
    rw [h a ha]
    simpa using hne

/-- Nothing that concerns the track of interest has changed. -/
structure SameTrack (key : TrackKey) (w w' : IdentityWorker) : Prop where
  stream : w'.stream key.trackerId = w.stream key.trackerId
  state : w'.state key = w.state key
  revision : w'.revision key = w.revision key

/-- A window of another track is not seen by this one. -/
theorem WindowStep.other {event : TrackEvidenceEvent} {calls : StoreCalls}
    {decision : LiveIdentityDecision} {state : TrackIdentity}
    {result : Except LiveEventError (List IdentityAssignment)}
    (h : WindowStep key w event calls w' decision state result)
    (hown : event.trackerId ≠ key.trackerId) : SameTrack key w w' where
  stream := by
    rw [stream_append key.trackerId h.commands, filter_other h.accepted.tracker hown,
      List.append_nil]
  state := by
    rw [IdentityWorker.state, h.track, if_neg (Ne.symm hown)]
    rfl
  revision := by
    have hk : (key.runId, key.trackerId) ≠ event.trackKey := by
      rw [TrackEvidenceEvent.trackKey, h.runId]
      exact fun he => hown (Prod.mk.inj he).2.symm
    unfold IdentityWorker.revision LiveEventService.revision
    rw [h.accepted.revisions_of_ne hk]

theorem Tracked.window {event : TrackEvidenceEvent} {calls : StoreCalls}
    {decision : LiveIdentityDecision} {state : TrackIdentity}
    {result : Except LiveEventError (List IdentityAssignment)} (hw : Tracked key w)
    (hlive : event.trackerId = key.trackerId → w.expired = false)
    (h : WindowStep key w event calls w' decision state result) : Tracked key w' := by
  have hepoch := h.resolution.epoch_le (hw.epochs event.trackerId)
  have hstream := stream_append key.trackerId h.commands
  have htrack : event.trackKey = (key.runId, event.trackerId) := by
    rw [TrackEvidenceEvent.trackKey, h.runId]
  have hepochs : ∀ t, 1 ≤ (w'.identity.track (key.at t)).identityEpoch := by
    intro t
    rw [h.track t]
    split
    · exact hepoch.1
    · exact hw.epochs t
  have hpending : ∀ t evidence decision,
      w'.events.pending (key.runId, t) = some (evidence, decision) →
        evidence.trackKey = (key.runId, t) ∧ 1 ≤ decision.identityEpoch := by
    intro t evidence' decision' hp
    rcases h.pending (key.runId, t) with hold | hnone | ⟨hk, hnew⟩
    · exact hw.pending t evidence' decision' (hold ▸ hp)
    · rw [hnone] at hp
      cases hp
    · rw [hnew] at hp
      obtain ⟨rfl, rfl⟩ := Prod.mk.inj (Option.some.inj hp)
      exact ⟨hk.symm, hepoch.2⟩
  by_cases hown : event.trackerId = key.trackerId
  · -- a window of the track itself
    have hown' : ∀ a ∈ issued result, a.trackerId = key.trackerId := fun a ha =>
      (h.accepted.tracker a ha).trans hown
    rw [filter_own hown'] at hstream
    have hres := h.resolution
    rw [hown] at htrack hres
    have hgrows := hw.grows (hlive hown)
    unfold IdentityWorker.revision at hgrows
    rw [← htrack] at hgrows
    have hnew := hgrows.window (hw.epochs key.trackerId) hres h.accepted
    have hstate : w'.state key = state := by
      rw [IdentityWorker.state, h.track, if_pos hown.symm]
    have hrev : (w'.events.revisions event.trackKey).getD 0 = w'.revision key := by
      rw [htrack]
      rfl
    rw [hrev, ← hstate, ← hstream] at hnew
    exact ⟨hepochs, hpending, hnew.isEmitted, fun _ => hnew⟩
  · have hsame := h.other hown
    refine ⟨hepochs, hpending, hsame.stream ▸ hw.emitted, fun he => ?_⟩
    rw [hsame.stream, hsame.state, hsame.revision]
    exact hw.grows (h.expired ▸ he)

/-- What an expiry issues: at most the pending decision, as an 'unknown'. -/
theorem Expired.issued_eq {s : LiveEventService} {k : String × Nat}
    {result : Except LiveEventError (List IdentityAssignment)}
    {revisions : String × Nat → Option Nat} (h : Expired s k result revisions) :
    (issued result = [] ∧ revisions = s.revisions) ∨
      ∃ evidence decision, s.pending k = some (evidence, decision) ∧
        issued result = [LiveEventService.assignmentAt evidence decision .unknown
          (s.revision evidence.trackKey + 1)] ∧
        revisions = Function.update s.revisions evidence.trackKey
          (some (s.revision evidence.trackKey + 1)) := by
  cases h with
  | failed e => exact Or.inl ⟨rfl, rfl⟩
  | silent => exact Or.inl ⟨rfl, rfl⟩
  | unknown evidence decision hp => exact Or.inr ⟨evidence, decision, hp, rfl, rfl⟩

/-- The expiry of another track is not seen by this one. -/
theorem ExpiryStep.other {event : TrackExpiredEvent}
    {result : Except LiveEventError (List IdentityAssignment)}
    (h : ExpiryStep key w event w' result) (hw : Tracked key w)
    (hown : event.trackerId ≠ key.trackerId) : SameTrack key w w' := by
  have hstream := stream_append key.trackerId h.commands
  have hstate : w'.state key = w.state key := by
    rcases h.track key.trackerId with hold | ⟨he, -⟩
    · exact hold
    · exact absurd he.symm hown
  have hissued := h.expires.issued_eq
  rw [h.runId] at hissued
  rcases hissued with ⟨hnil, hrev⟩ | ⟨evidence, decision, hp, hone, hrev⟩
  · refine ⟨by simpa [hnil] using hstream, hstate, ?_⟩
    unfold IdentityWorker.revision LiveEventService.revision
    rw [hrev]
  · obtain ⟨hk, -⟩ := hw.pending event.trackerId evidence decision hp
    have htr : evidence.trackerId = event.trackerId := (Prod.mk.inj hk).2
    have hne : (key.runId, key.trackerId) ≠ evidence.trackKey := by
      rw [hk]
      exact fun he => hown (Prod.mk.inj he).2.symm
    rw [hone, filter_other (by simpa [LiveEventService.assignmentAt] using htr) hown,
      List.append_nil] at hstream
    refine ⟨hstream, hstate, ?_⟩
    unfold IdentityWorker.revision LiveEventService.revision
    rw [hrev, Function.update_of_ne hne]

theorem Tracked.expiry {event : TrackExpiredEvent}
    {result : Except LiveEventError (List IdentityAssignment)} (hw : Tracked key w)
    (hlive : event.trackerId = key.trackerId → w.expired = false)
    (h : ExpiryStep key w event w' result) : Tracked key w' := by
  have hstream := stream_append key.trackerId h.commands
  have hepochs : ∀ t, 1 ≤ (w'.identity.track (key.at t)).identityEpoch := by
    intro t
    rcases h.track t with hold | ⟨-, hnew⟩
    · rw [hold]
      exact hw.epochs t
    · rw [hnew]
  have hpending : ∀ t evidence decision,
      w'.events.pending (key.runId, t) = some (evidence, decision) →
        evidence.trackKey = (key.runId, t) ∧ 1 ≤ decision.identityEpoch := by
    intro t evidence decision hp
    rcases h.pending (key.runId, t) with hold | hnone
    · exact hw.pending t evidence decision (hold ▸ hp)
    · rw [hnone] at hp
      cases hp
  have hissued := h.expires.issued_eq
  rw [h.runId] at hissued
  by_cases hown : event.trackerId = key.trackerId
  · -- the last event of the track
    have hgrows := hw.grows (hlive hown)
    have hdone : w'.expired = true := by
      rw [h.expired, decide_eq_true hown, Bool.or_true]
    refine ⟨hepochs, hpending, ?_, fun hf => by rw [hdone] at hf; cases hf⟩
    rw [hstream]
    rcases hissued with ⟨hnil, -⟩ | ⟨evidence, decision, hp, hone, -⟩
    · rw [hnil]
      simpa using hw.emitted
    · rw [hown] at hp
      obtain ⟨hk, hpos⟩ := hw.pending key.trackerId evidence decision hp
      have htr : evidence.trackerId = key.trackerId := (Prod.mk.inj hk).2
      rw [hone, filter_own (by simpa [LiveEventService.assignmentAt] using htr)]
      refine hgrows.expire (assignmentAt_unknown evidence decision _) ?_ hpos
      show w.events.revision evidence.trackKey + 1 = _
      rw [hk]
      rfl
  · have hsame := h.other hw hown
    refine ⟨hepochs, hpending, hsame.stream ▸ hw.emitted, fun he => ?_⟩
    rw [hsame.stream, hsame.state, hsame.revision]
    apply hw.grows
    rw [h.expired, Bool.or_eq_false_iff] at he
    exact he.1

theorem tracked_next : (identityWorker key).Preserved (Tracked key) := by
  intro w event he hw
  cases event with
  | evidence event vote reference calls =>
      obtain ⟨state, result, hstep⟩ := windowStep he
      exact hw.window he.2 hstep
  | expired event calls =>
      obtain ⟨result, hstep⟩ := expiryStep he
      exact hw.expiry he.2 hstep

theorem FreshRun.tracked (h : FreshRun key w) : Tracked key w := by
  have hstate : ∀ t, w.identity.track (key.at t) = {} := by
    intro t
    rw [LiveIdentityService.track, h.tracks t]
    rfl
  have hstream : w.stream key.trackerId = [] := by
    rw [IdentityWorker.stream, h.commands]
    rfl
  have hgrows : Grows (w.stream key.trackerId) (w.state key).identityEpoch (w.revision key)
      ((w.state key).knownMatch ≠ none) := by
    rw [hstream, IdentityWorker.state, hstate]
    exact (Grows.nil _).imp False.elim
  refine ⟨fun t => by rw [hstate], fun t evidence decision hp => ?_, hgrows.isEmitted,
    fun _ => hgrows⟩
  rw [h.pending t] at hp
  cases hp

/-- Every stream that the services emit for a track is well formed. -/
theorem tracked_of_reachable (h : (identityWorker key).Reachable w) : Tracked key w :=
  tracked_next.reachable (fun _ => FreshRun.tracked) h

end Tracked

/-! ## Windows of a sample track -/

section Sample

def sampleKey : TrackKey := ⟨"camera", "run", 1, 7⟩

def sampleHeader : ProtocolHeader :=
  ⟨2, .trackEvidence, "session", "camera", "run", 1, 1, 0, "traceparent", none⟩

/-- A window of the track in which the voter finds a face, and the reference is there. -/
def sampleWindow (face : String) (time : Nat) (commit : Bool) : WorkerEvent :=
  .evidence ⟨sampleHeader, 7, 1, 0, time, [⟨time, [], 1, [], [], 1, 0, []⟩], []⟩
    (some ⟨some ⟨⟨face, face, 1⟩, face, 1⟩, some 1⟩) (some [1]) ⟨none, commit, true⟩

def sampleWorker : IdentityWorker where
  identity := ⟨⟨0, 0, 0⟩, fun _ => none⟩
  events := ⟨⟨30, 1, fun name => name⟩, fun _ => none, fun _ => none, fun _ => none, 0,
    .empty, fun _ => none⟩
  commands := []
  returned := false
  transition := .none
  expired := false

theorem sampleWorker_fresh : FreshRun sampleKey sampleWorker :=
  ⟨fun _ => rfl, fun _ => rfl, fun _ => rfl, rfl, rfl, rfl⟩

end Sample

end Mvision.Live
