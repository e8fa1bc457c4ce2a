import Mvision.Live.IdentityWorker

/-!
# Identity transitions and failed writes

The identity service changes its face before the event of the transition is
persisted, and reports each transition once.  As long as every transition
reaches the stream, the native track mirrors the service; a transition whose
event could not be written is lost for good.
-/

namespace Mvision.Live

open Mvision.Library IdentityAssignmentState LiveEventService

/-- The native track after every assignment issued for it so far. -/
def IdentityWorker.native (key : TrackKey) (w : IdentityWorker) : IdentityAssignmentState :=
  fresh.applyAll (w.stream key.trackerId)

/-- The native track shows the face the service holds, and none that it gave up. -/
structure Agrees (key : TrackKey) (w : IdentityWorker) : Prop where
  known : ∀ found, (w.state key).knownMatch = some found →
    (w.native key).state = .known ∧ (w.native key).faceId = some found.identity.faceId
  unknown : w.transition = .unknown → (w.native key).state ≠ .known

/-- What is asked after a window of the track that was resolved and accepted. -/
def Survives (key : TrackKey) (w : IdentityWorker) : Prop :=
  w.returned = true → Agrees key w

/-- A window of the track that reports a transition gets its event written, or
needs none because the face cools down. -/
def Persists (key : TrackKey) (w : IdentityWorker) : WorkerEvent → Prop
  | .evidence event vote reference calls =>
      event.trackerId = key.trackerId →
        let decision := (w.identity.resolve event vote reference).1
        decision.transition = .none ∨ event.observations ≠ [] ∧ calls.commit = true ∨
          ∃ found, decision.transition = .known ∧ decision.faceMatch = some found ∧
            w.events.coolingDown event.header.cameraId found.identity.faceId event = true
  | .expired .. => True

/-- The track does not expire in the event. -/
def Lives (key : TrackKey) (event : WorkerEvent) : Prop :=
  event.trackerId = key.trackerId → event.isWindow = true

instance (key : TrackKey) (event : WorkerEvent) : Decidable (Lives key event) :=
  inferInstanceAs (Decidable (_ → _))

/-! ## The native track as a mirror -/

/-- A native state that mirrors the state of the service up to revision `r`. -/
structure Mirror (native : IdentityAssignmentState) (state : TrackIdentity) (r : Nat) :
    Prop where
  epoch : native.identityEpoch = state.identityEpoch
  revision : native.revision ≤ r
  known : ∀ found, state.knownMatch = some found →
    native.state = .known ∧ native.faceId = some found.identity.faceId
  vacant : state.knownMatch = none → native.state ≠ .known

section Mirror

variable {native : IdentityAssignmentState} {state state' : TrackIdentity}
  {s : LiveEventService} {evidence : TrackEvidenceEvent} {decision : LiveIdentityDecision}
  {commands : List IdentityAssignment} {revisions : String × Nat → Option Nat}

theorem assignmentAt_faceId {found : FaceMatch} (h : decision.faceMatch = some found) (r : Nat) :
    (assignmentAt evidence decision .known r).faceId = some found.identity.faceId := by
  simp [assignmentAt, h]

/-- An 'unknown' of the next epoch clears the native track. -/
theorem Mirror.apply_reset {r : Nat} (h : Mirror native state r) (evidence : TrackEvidenceEvent)
    (hd : decision.identityEpoch = state.identityEpoch + 1) :
    (native.apply (assignmentAt evidence decision .unknown (r + 1))).2 =
      ⟨.unknown, none, r + 1, decision.identityEpoch⟩ := by
  have hr : native.revision < r + 1 := Nat.lt_succ_of_le h.revision
  have he : native.identityEpoch < decision.identityEpoch := by
    rw [h.epoch, hd]
    exact Nat.lt_succ_self _
  exact apply_unknown_ahead hr (assignmentAt_unknown evidence decision _) he

/-- A face is taken by a native track that holds none in the epoch. -/
theorem apply_face {found : FaceMatch} {r : Nat} (hr : native.revision < r)
    (hm : decision.faceMatch = some found) (hd : decision.identityEpoch = native.identityEpoch)
    (hs : native.state ≠ .known) (evidence : TrackEvidenceEvent) :
    (native.apply (assignmentAt evidence decision .known r)).2 =
      ⟨.known, some found.identity.faceId, r, native.identityEpoch⟩ := by
  rw [apply_known_here hr (assignmentAt_known hm r) hd hs, assignmentAt_faceId hm]
  rfl

/-- A native state that has just taken the face of the service mirrors it. -/
theorem mirror_face {found : FaceMatch} {r e : Nat} (he : state.identityEpoch = e)
    (hk : state.knownMatch = some found) :
    Mirror ⟨.known, some found.identity.faceId, r, e⟩ state r where
  epoch := he.symm
  revision := Nat.le_refl r
  known := by
    intro found' hf
    rw [hk] at hf
    obtain rfl := Option.some.inj hf
    exact ⟨rfl, rfl⟩
  vacant hn := by
    rw [hk] at hn
    cases hn

/-- A window that is accepted keeps the mirror. -/
theorem Mirror.window (h : Mirror native state (s.revision evidence.trackKey))
    (hres : Resolution state decision state')
    (hacc : Accepted s evidence decision (.ok commands) revisions) :
    Mirror (native.applyAll commands) state' ((revisions evidence.trackKey).getD 0) := by
  have hrev : native.revision < s.revision evidence.trackKey + 1 :=
    Nat.lt_succ_of_le h.revision
  cases hres with
  | stays ht _ he hk =>
      cases hacc with
      | silent => exact ⟨h.epoch.trans he.symm, h.revision, hk ▸ h.known, hk ▸ h.vacant⟩
      | unmatched ht' => rw [ht] at ht'; cases ht'
      | reset ht' => rw [ht] at ht'; cases ht'
      | known _ ht' => rw [ht] at ht'; cases ht'
      | replaced _ ht' => rw [ht] at ht'; cases ht'
  | gaveUp ht hd he _ hk =>
      cases hacc with
      | reset =>
          rw [Function.update_self, Option.getD_some]
          show Mirror (native.apply (assignmentAt evidence decision .unknown _)).2 state' _
          rw [h.apply_reset evidence hd]
          refine ⟨hd.trans he.symm, Nat.le_refl _, ?_, fun _ hs => by cases hs⟩
          intro found hf
          rw [hk] at hf
          cases hf
      | silent ht' => rw [ht] at ht'; cases ht'
      | unmatched ht' => rw [ht] at ht'; cases ht'
      | known _ ht' => rw [ht] at ht'; cases ht'
      | replaced _ ht' => rw [ht] at ht'; cases ht'
  | identified found ht hm hv hr hd he hnone hk =>
      cases hacc with
      | known =>
          rw [Function.update_self, Option.getD_some]
          show Mirror (native.apply (assignmentAt evidence decision .known _)).2 state' _
          rw [apply_face hrev hm (hd.trans h.epoch.symm) (h.vacant hnone) evidence]
          exact mirror_face (he.trans h.epoch.symm) hk
      | unmatched _ hno =>
          rcases hno with hno | hno
          · rw [hm] at hno
            cases hno
          · exact absurd hno hv
      | replaced _ _ _ hr' => rw [hr] at hr'; cases hr'
      | silent ht' => rw [ht] at ht'; cases ht'
      | reset ht' => rw [ht] at ht'; cases ht'
  | replaced found ht hm hv hr hd he _ hk =>
      cases hacc with
      | replaced =>
          rw [Function.update_self, Option.getD_some]
          -- first the reset, then the face in the epoch that it opened
          show Mirror ((native.apply (assignmentAt evidence decision .unknown _)).2.apply
            (assignmentAt evidence decision .known _)).2 state' _
          rw [h.apply_reset evidence hd,
            apply_face (Nat.lt_succ_self _) hm rfl (fun hs => by cases hs) evidence]
          exact mirror_face (he.trans hd.symm) hk
      | unmatched _ hno =>
          rcases hno with hno | hno
          · rw [hm] at hno
            cases hno
          · exact absurd hno hv
      | known _ _ _ hr' => rw [hr] at hr'; cases hr'
      | silent ht' => rw [ht] at ht'; cases ht'
      | reset ht' => rw [ht] at ht'; cases ht'

end Mirror

/-! ## Whole runs -/

/-- The invariant of a run in which every transition is persisted. -/
structure Mirrored (key : TrackKey) (w : IdentityWorker) : Prop where
  live : w.expired = false
  mirror : Mirror (w.native key) (w.state key) (w.revision key)
  transition : w.transition = .unknown → (w.state key).knownMatch = none

section Mirrored

variable {key : TrackKey} {w w' : IdentityWorker}

theorem Mirrored.agrees (h : Mirrored key w) : Agrees key w :=
  ⟨h.mirror.known, fun ht => h.mirror.vacant (h.transition ht)⟩

/-- A transition to 'unknown' leaves no face. -/
theorem Resolution.unknown {s s' : TrackIdentity} {decision : LiveIdentityDecision}
    (h : Resolution s decision s') (ht : decision.transition = .unknown) :
    s'.knownMatch = none := by
  cases h with
  | gaveUp _ _ _ _ hk => exact hk
  | stays ht' => rw [ht] at ht'; cases ht'
  | identified _ ht' => rw [ht] at ht'; cases ht'
  | replaced _ ht' => rw [ht] at ht'; cases ht'

theorem Resolution.none {s s' : TrackIdentity} {decision : LiveIdentityDecision}
    (h : Resolution s decision s') (ht : decision.transition = .none) :
    s'.knownMatch = s.knownMatch := by
  cases h with
  | stays _ _ _ hk => exact hk
  | gaveUp ht' => rw [ht] at ht'; cases ht'
  | identified _ ht' => rw [ht] at ht'; cases ht'
  | replaced _ ht' => rw [ht] at ht'; cases ht'

theorem Mirrored.own {event : TrackEvidenceEvent} {calls : StoreCalls}
    {decision : LiveIdentityDecision} {state : TrackIdentity}
    {commands : List IdentityAssignment} (hw : Mirrored key w)
    (hown : event.trackerId = key.trackerId)
    (h : WindowStep key w event calls w' decision state (.ok commands)) : Mirrored key w' := by
  have htrack : event.trackKey = (key.runId, key.trackerId) := by
    rw [TrackEvidenceEvent.trackKey, h.runId, hown]
  have hstate : w'.state key = state := by
    rw [IdentityWorker.state, h.track, if_pos hown.symm]
  have hnative : w'.native key = (w.native key).applyAll commands := by
    have hall : ∀ a ∈ issued (.ok commands), a.trackerId = key.trackerId := fun a ha =>
      (h.accepted.tracker a ha).trans hown
    rw [IdentityWorker.native, stream_append key.trackerId h.commands, filter_own hall,
      applyAll_append]
    rfl
  have hres := h.resolution
  rw [hown] at hres
  have hmirror := hw.mirror
  unfold IdentityWorker.revision at hmirror
  rw [← htrack] at hmirror
  have hnew := hmirror.window hres h.accepted
  refine ⟨h.expired.trans hw.live, ?_, ?_⟩
  · rw [hnative, hstate, IdentityWorker.revision, ← htrack]
    exact hnew
  · intro ht
    rw [h.transition] at ht
    rw [hstate]
    by_cases hne : decision.transition = .none
    · rw [if_neg (fun hc => hc.2 hne)] at ht
      rw [hres.none hne]
      exact hw.transition ht
    · rw [if_pos ⟨hown, hne⟩] at ht
      exact hres.unknown ht

/-- What happens to other tracks leaves the mirror alone. -/
theorem Mirrored.other (hw : Mirrored key w) (hsame : SameTrack key w w')
    (hlive : w'.expired = w.expired) (htrans : w'.transition = w.transition) :
    Mirrored key w' := by
  refine ⟨hlive.trans hw.live, ?_, ?_⟩
  · rw [IdentityWorker.native, hsame.stream, hsame.state, hsame.revision]
    exact hw.mirror
  · rw [htrans, hsame.state]
    exact hw.transition

theorem mirrored_next :
    (identityWorker key).PreservedUnder (fun w event => Lives key event ∧ Persists key w event)
      (fun w => Tracked key w ∧ Mirrored key w) := by
  rintro w event he ⟨hlives, hpersists⟩ ⟨htracked, hw⟩
  refine ⟨tracked_next w event he htracked, ?_⟩
  cases event with
  | evidence event vote reference calls =>
      obtain ⟨state, result, hstep⟩ := windowStep he
      by_cases hown : event.trackerId = key.trackerId
      · obtain ⟨commands, hok⟩ := acceptDecision_ok (hpersists hown)
        obtain rfl : result = .ok commands := hstep.result_eq.trans hok
        exact hw.own hown hstep
      · refine hw.other (hstep.other hown) hstep.expired ?_
        rw [hstep.transition, if_neg fun h => hown h.1]
  | expired event calls =>
      obtain ⟨result, hstep⟩ := expiryStep he
      have hown : event.trackerId ≠ key.trackerId := fun h => by cases hlives h
      refine hw.other (hstep.other htracked hown) ?_ rfl
      rw [hstep.expired, decide_eq_false hown, Bool.or_false]

theorem FreshRun.mirrored (h : FreshRun key w) : Mirrored key w := by
  have hstate : w.state key = {} := by
    rw [IdentityWorker.state, LiveIdentityService.track, h.tracks]
    rfl
  have hnative : w.native key = fresh := by
    rw [IdentityWorker.native, IdentityWorker.stream, h.commands]
    rfl
  refine ⟨h.expired, ?_, fun ht => by rw [h.transition] at ht; cases ht⟩
  rw [hnative, hstate]
  exact ⟨rfl, Nat.zero_le _, fun found hf => (by cases hf), fun _ hs => (by cases hs)⟩

/-- While every transition of a living track is persisted, its identity
survives into the native track. -/
theorem transitions_survive {events : List WorkerEvent} (h : FreshRun key w)
    (hv : (identityWorker key).Valid w events) (hlives : ∀ event ∈ events, Lives key event)
    (hpersists : (identityWorker key).Meets (Persists key) w events) :
    (identityWorker key).Always (Survives key) w events := by
  have hC := Machine.meets_and.mpr ⟨Machine.meets_of_forall hlives, hpersists⟩
  exact (mirrored_next.always hv hC ⟨h.tracked, h.mirrored⟩).imp fun _ hw _ => hw.2.agrees

end Mirrored

/-- The first window finds a face and is persisted, the second confirms it. -/
theorem transitions_survive_sample :
    (identityWorker sampleKey).Always (Survives sampleKey) sampleWorker
      [sampleWindow "a" 1 true, sampleWindow "a" 2 true] :=
  transitions_survive sampleWorker_fresh (by decide)
    (by decide)
    ⟨fun _ => Or.inr (Or.inl (by decide)), fun _ => Or.inl (by decide), trivial⟩

/-- The write of the first face fails; the second window confirms a face the
native track has never heard of. -/
theorem transition_lost :
    ¬ ∀ (key : TrackKey) (w : IdentityWorker) (events : List WorkerEvent), FreshRun key w →
      (identityWorker key).Valid w events → (∀ event ∈ events, Lives key event) →
      (identityWorker key).Always (Survives key) w events := by
  intro h
  have hlost := (h sampleKey sampleWorker [sampleWindow "a" 1 false, sampleWindow "a" 2 true]
    sampleWorker_fresh (by decide) (by decide)).last
  have hknown := (hlost (by decide)).known ⟨⟨"a", "a", 1⟩, "a", 1⟩ (by decide)
  revert hknown
  decide

end Mvision.Live
