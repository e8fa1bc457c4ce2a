import Mvision.Live.EventService

/-!
# What the stores see of an event

The effects of `_persist`, `accept_decision` and `expire_track` on the pending
decisions, the cooldowns, the detection events and the snapshots.  Revisions and
the count of suppressed events are left out.
-/

namespace Mvision.Live

open Mvision.Library

namespace LiveEventService

/-- The name of an event. -/
def eventId (s : LiveEventService) (runId : String) (evidence : TrackEvidenceEvent)
    (decision : LiveIdentityDecision) (eventType : EventType) : String :=
  s.settings.uuid5 s!"{runId}:{evidence.trackerId}:{eventType.text}:{decision.identityEpoch}"

/-- Where the snapshot of an event is stored. -/
def objectKey (s : LiveEventService) (cameraId runId : String) (evidence : TrackEvidenceEvent)
    (decision : LiveIdentityDecision) (eventType : EventType) : String :=
  s!"live/{cameraId}/{s.eventId runId evidence decision eventType}/aligned"

/-- The snapshots after the upload. -/
def uploaded (s : LiveEventService) (objectKey : String) (jpeg : List UInt8)
    (upload : Option SnapshotInfo) : String → Option (List UInt8) :=
  if upload.isSome then Function.update s.snapshots objectKey (some jpeg) else s.snapshots

/-- The pending decisions, cooldowns, events and snapshots are the same. -/
structure SameStores (s s' : LiveEventService) : Prop where
  settings : s'.settings = s.settings
  pending : s'.pending = s.pending
  knownCooldown : s'.knownCooldown = s.knownCooldown
  events : s'.events = s.events
  snapshots : s'.snapshots = s.snapshots

theorem SameStores.refl (s : LiveEventService) : SameStores s s := ⟨rfl, rfl, rfl, rfl, rfl⟩

/-- `_persist` raises, and its compensation deletes the snapshot. -/
def Compensates (evidence : TrackEvidenceEvent) (calls : StoreCalls) : Prop :=
  evidence.observations ≠ [] ∧ calls.commit = false ∧ calls.upload.isSome = true ∧
    calls.delete = true

instance (evidence : TrackEvidenceEvent) (calls : StoreCalls) :
    Decidable (Compensates evidence calls) :=
  inferInstanceAs (Decidable (_ ∧ _ ∧ _ ∧ _))

variable {s : LiveEventService} {cameraId runId : String} {evidence : TrackEvidenceEvent}
  {decision : LiveIdentityDecision} {eventType : EventType} {calls : StoreCalls}

/-- What `_persist` does: commit a row, raise and delete the snapshot, or just raise. -/
theorem persist_cases (s : LiveEventService) (cameraId runId : String) (evidence : TrackEvidenceEvent)
    (decision : LiveIdentityDecision) (eventType : EventType) (calls : StoreCalls) :
    (∃ best, evidence.observations ≠ [] ∧ calls.commit = true ∧
      s.persist cameraId runId evidence decision eventType calls =
        (.ok (), { s with
          snapshots := s.uploaded (s.objectKey cameraId runId evidence decision eventType)
            evidence.representativeAlignedJpeg calls.upload
          events := s.events.createOnce (row cameraId runId evidence decision eventType
            (s.eventId runId evidence decision eventType) calls.upload best) })) ∨
    (∃ e, Compensates evidence calls ∧
      s.persist cameraId runId evidence decision eventType calls =
        (.error e, { s with
          snapshots := Function.update
            (s.uploaded (s.objectKey cameraId runId evidence decision eventType)
              evidence.representativeAlignedJpeg calls.upload)
            (s.objectKey cameraId runId evidence decision eventType) none })) ∨
    (∃ e, ¬ (evidence.observations ≠ [] ∧ calls.commit = true) ∧ ¬ Compensates evidence calls ∧
      s.persist cameraId runId evidence decision eventType calls =
        (.error e, { s with
          snapshots := s.uploaded (s.objectKey cameraId runId evidence decision eventType)
            evidence.representativeAlignedJpeg calls.upload })) := by
  obtain ⟨upload, commit, delete⟩ := calls
  cases hb : bestObservation evidence.observations with
  | none =>
      have hempty := bestObservation_eq_none.mp hb
      refine .inr (.inr ⟨.noObservation, fun h => h.1 hempty, fun h => h.1 hempty, ?_⟩)
      cases upload <;> simp [persist, hb, uploaded, objectKey, eventId]
  | some best =>
      have hne : evidence.observations ≠ [] := fun h => by
        rw [bestObservation_eq_none.mpr h] at hb
        cases hb
      cases commit with
      | true =>
          refine .inl ⟨best, hne, rfl, ?_⟩
          cases upload <;> simp [persist, hb, uploaded, objectKey, eventId]
      | false =>
          by_cases hdel : upload.isSome = true ∧ delete = true
          · refine .inr (.inl ⟨.commitFailed, ⟨hne, rfl, hdel⟩, ?_⟩)
            cases upload with
            | none => cases hdel.1
            | some info => simp [persist, hb, uploaded, objectKey, eventId, hdel.2]
          · refine .inr (.inr ⟨.commitFailed, by simp, fun h => hdel h.2.2, ?_⟩)
            cases upload with
            | none => simp [persist, hb, uploaded]
            | some info =>
                have hkeep : delete = false := by simpa using hdel
                simp [persist, hb, uploaded, objectKey, eventId, hkeep]

/-- `_persist` touches no dictionary. -/
theorem persist_dictionaries :
    (s.persist cameraId runId evidence decision eventType calls).2.settings = s.settings ∧
      (s.persist cameraId runId evidence decision eventType calls).2.pending = s.pending ∧
      (s.persist cameraId runId evidence decision eventType calls).2.knownCooldown =
        s.knownCooldown := by
  rcases persist_cases s cameraId runId evidence decision eventType calls with
    ⟨best, -, -, h⟩ | ⟨e, -, h⟩ | ⟨e, -, -, h⟩ <;> rw [h] <;> exact ⟨rfl, rfl, rfl⟩

/-- Handing out a revision changes no store. -/
theorem assignment_sameStores (s : LiveEventService) (evidence : TrackEvidenceEvent)
    (decision : LiveIdentityDecision) (eventType : EventType) :
    SameStores s (s.assignment evidence decision eventType).2 :=
  ⟨rfl, rfl, rfl, rfl, rfl⟩

theorem knownCommands_sameStores (s : LiveEventService) (evidence : TrackEvidenceEvent)
    (decision : LiveIdentityDecision) : SameStores s (s.knownCommands evidence decision).2 := by
  unfold knownCommands
  split <;> exact ⟨rfl, rfl, rfl, rfl, rfl⟩

/-- The known face is remembered for the cooldown. -/
def startCooldown (s : LiveEventService) (cameraId faceId : String)
    (evidence : TrackEvidenceEvent) : LiveEventService :=
  { s with
    knownCooldown :=
      Function.update s.knownCooldown (cameraId, faceId) (some evidence.lastSeenNs) }

/-- The service that `_persist` leaves. -/
def persisted (s : LiveEventService) (cameraId runId : String) (evidence : TrackEvidenceEvent)
    (decision : LiveIdentityDecision) (eventType : EventType) (calls : StoreCalls) :
    LiveEventService :=
  (s.persist cameraId runId evidence decision eventType calls).2

/-- `_persist` writes the same with and without a pending decision. -/
theorem persisted_popPending (s : LiveEventService) (cameraId runId : String)
    (evidence : TrackEvidenceEvent)
    (decision : LiveIdentityDecision) (eventType : EventType) (calls : StoreCalls)
    (key : String × Nat) :
    ((s.popPending key).persisted cameraId runId evidence decision eventType calls).events =
        (s.persisted cameraId runId evidence decision eventType calls).events ∧
      ((s.popPending key).persisted cameraId runId evidence decision eventType calls).snapshots =
        (s.persisted cameraId runId evidence decision eventType calls).snapshots := by
  unfold persisted persist
  cases calls.upload <;> (repeat' split) <;> exact ⟨rfl, rfl⟩

/-- What `accept_decision` does, by the way it takes. -/
inductive AcceptEffect (s : LiveEventService) (cameraId runId : String)
    (evidence : TrackEvidenceEvent) (decision : LiveIdentityDecision) (calls : StoreCalls) :
    Except LiveEventError (List IdentityAssignment) × LiveEventService → Prop where
  | quiet (s' : LiveEventService) (h : decision.transition = .none)
      (hmatch : decision.faceMatch ≠ none) (hs : SameStores s s') :
      AcceptEffect s cameraId runId evidence decision calls (.ok [], s')
  | recorded (s' : LiveEventService) (h : decision.transition = .none ∧ decision.faceMatch = none ∨
        decision.transition = .known ∧
          (decision.faceMatch = none ∨ decision.referenceEmbedding = none))
      (hs : SameStores (s.setPending evidence decision) s') :
      AcceptEffect s cameraId runId evidence decision calls (.ok [], s')
  | unknown (commands : List IdentityAssignment) (s' : LiveEventService)
      (h : decision.transition = .unknown)
      (hok : evidence.observations ≠ [] ∧ calls.commit = true)
      (hs : SameStores ((s.popPending (runId, evidence.trackerId)).persisted cameraId runId
        evidence decision .unknown calls) s') :
      AcceptEffect s cameraId runId evidence decision calls (.ok commands, s')
  | unknownFailed (e : LiveEventError) (s' : LiveEventService)
      (h : decision.transition = .unknown)
      (hfail : ¬ (evidence.observations ≠ [] ∧ calls.commit = true))
      (hs : SameStores ((s.popPending (runId, evidence.trackerId)).persisted cameraId runId
        evidence decision .unknown calls) s') :
      AcceptEffect s cameraId runId evidence decision calls (.error e, s')
  | suppressed (commands : List IdentityAssignment) (s' : LiveEventService) (found : FaceMatch)
      (h : decision.transition = .known) (hmatch : decision.faceMatch = some found)
      (hreference : decision.referenceEmbedding ≠ none)
      (hcool : s.coolingDown cameraId found.identity.faceId evidence = true)
      (hcount : s'.suppressedCount = s.suppressedCount + 1) (hs : SameStores s s') :
      AcceptEffect s cameraId runId evidence decision calls (.ok commands, s')
  | known (commands : List IdentityAssignment) (s' : LiveEventService) (found : FaceMatch)
      (h : decision.transition = .known) (hmatch : decision.faceMatch = some found)
      (hreference : decision.referenceEmbedding ≠ none)
      (hcool : s.coolingDown cameraId found.identity.faceId evidence = false)
      (hok : evidence.observations ≠ [] ∧ calls.commit = true)
      (hcount : s'.suppressedCount = s.suppressedCount)
      (hs : SameStores ((s.persisted cameraId runId evidence decision .known calls).startCooldown
        cameraId found.identity.faceId evidence) s') :
      AcceptEffect s cameraId runId evidence decision calls (.ok commands, s')
  | knownFailed (e : LiveEventError) (s' : LiveEventService) (found : FaceMatch)
      (h : decision.transition = .known) (hmatch : decision.faceMatch = some found)
      (hreference : decision.referenceEmbedding ≠ none)
      (hcool : s.coolingDown cameraId found.identity.faceId evidence = false)
      (hfail : ¬ (evidence.observations ≠ [] ∧ calls.commit = true))
      (hs : SameStores (s.persisted cameraId runId evidence decision .known calls) s') :
      AcceptEffect s cameraId runId evidence decision calls (.error e, s')

theorem persist_error (s : LiveEventService) (cameraId runId : String) (evidence : TrackEvidenceEvent)
    (decision : LiveIdentityDecision) (eventType : EventType)
    (h : ¬ (evidence.observations ≠ [] ∧ calls.commit = true)) :
    ∃ e, s.persist cameraId runId evidence decision eventType calls =
      (.error e, s.persisted cameraId runId evidence decision eventType calls) := by
  have hok : (s.persist cameraId runId evidence decision eventType calls).1 ≠ .ok () :=
    mt persist_ok_iff.mp h
  unfold persisted
  rcases hp : s.persist cameraId runId evidence decision eventType calls with ⟨e | _, s'⟩
  · exact ⟨e, rfl⟩
  · exact absurd (congrArg Prod.fst hp) hok

theorem persist_ok (h : evidence.observations ≠ [] ∧ calls.commit = true) :
    s.persist cameraId runId evidence decision eventType calls =
      (.ok (), s.persisted cameraId runId evidence decision eventType calls) := by
  have hok : (s.persist cameraId runId evidence decision eventType calls).1 = .ok () :=
    persist_ok_iff.mpr h
  exact Prod.ext hok rfl

theorem suppressedCount_assignment (s : LiveEventService) (evidence : TrackEvidenceEvent)
    (decision : LiveIdentityDecision) :
    (s.knownCommands evidence decision).2.suppressedCount = s.suppressedCount := by
  unfold knownCommands
  split <;> rfl

theorem suppressedCount_persisted :
    (s.persisted cameraId runId evidence decision eventType calls).suppressedCount =
      s.suppressedCount := by
  unfold persisted
  rcases persist_cases s cameraId runId evidence decision eventType calls with
    ⟨best, -, -, h⟩ | ⟨e, -, h⟩ | ⟨e, -, -, h⟩ <;> rw [h]

/-- The specification of `accept_decision` for its stores, called as the supervisor does. -/
theorem acceptDecision_effect (s : LiveEventService) (evidence : TrackEvidenceEvent)
    (decision : LiveIdentityDecision) (calls : StoreCalls) :
    AcceptEffect s evidence.header.cameraId evidence.header.runId evidence decision calls
      (s.acceptDecision evidence.header.cameraId evidence.header.runId
        evidence.header.generation evidence decision calls) := by
  unfold acceptDecision
  rw [if_neg (by simp)]
  cases ht : decision.transition with
  | none =>
      dsimp only
      split
      · rename_i hm
        exact .recorded _ (.inl ⟨ht, hm⟩) (SameStores.refl _)
      · rename_i hm
        exact .quiet _ ht hm (SameStores.refl _)
  | unknown =>
      dsimp only
      by_cases hok : evidence.observations ≠ [] ∧ calls.commit = true
      · rw [persist_ok hok]
        exact .unknown _ _ ht hok (assignment_sameStores _ _ _ _)
      · obtain ⟨e, he⟩ := persist_error
          (s.popPending (evidence.header.runId, evidence.trackerId)) evidence.header.cameraId
          evidence.header.runId evidence decision .unknown hok
        rw [he]
        exact .unknownFailed e _ ht hok (SameStores.refl _)
  | known =>
      dsimp only
      cases hm : decision.faceMatch with
      | none => exact .recorded _ (.inr ⟨ht, .inl hm⟩) (SameStores.refl _)
      | some found =>
          cases hv : decision.referenceEmbedding with
          | none => exact .recorded _ (.inr ⟨ht, .inr hv⟩) (SameStores.refl _)
          | some vector =>
              have hne : decision.referenceEmbedding ≠ none := by
                rw [hv]
                exact Option.some_ne_none vector
              dsimp only
              unfold persistKnown
              cases hcool : s.coolingDown evidence.header.cameraId found.identity.faceId evidence with
              | true =>
                  rw [if_pos rfl]
                  have hsame := knownCommands_sameStores
                    { s with suppressedCount := s.suppressedCount + 1 } evidence decision
                  refine .suppressed _ _ found ht hm hne hcool ?_ { hsame with }
                  exact suppressedCount_assignment _ evidence decision
              | false =>
                  rw [if_neg Bool.false_ne_true]
                  by_cases hok : evidence.observations ≠ [] ∧ calls.commit = true
                  · rw [persist_ok hok]
                    refine .known _ _ found ht hm hne hcool hok ?_
                      (knownCommands_sameStores _ evidence decision)
                    rw [suppressedCount_assignment]
                    exact suppressedCount_persisted
                  · obtain ⟨e, he⟩ := persist_error s evidence.header.cameraId
                      evidence.header.runId evidence decision .known hok
                    rw [he]
                    exact .knownFailed e _ found ht hm hne hcool hok (SameStores.refl _)

/-- What `expire_track` does. -/
inductive ExpireEffect (s : LiveEventService) (cameraId runId : String)
    (event : TrackExpiredEvent) (calls : StoreCalls) :
    Except LiveEventError (List IdentityAssignment) × LiveEventService → Prop where
  | quiet (s' : LiveEventService)
      (h : ∀ entry, s.pending (runId, event.trackerId) = some entry →
        (event.lastSeenNs : Int) - event.firstSeenNs <
          toNanoseconds s.settings.liveUnknownMinDwellSeconds)
      (hs : SameStores (s.popPending (runId, event.trackerId)) s') :
      ExpireEffect s cameraId runId event calls (.ok [], s')
  | unknown (command : IdentityAssignment) (s' : LiveEventService)
      (evidence : TrackEvidenceEvent) (decision : LiveIdentityDecision)
      (h : s.pending (runId, event.trackerId) = some (evidence, decision))
      (hdwell : toNanoseconds s.settings.liveUnknownMinDwellSeconds ≤
        (event.lastSeenNs : Int) - event.firstSeenNs)
      (hok : evidence.observations ≠ [] ∧ calls.commit = true)
      (hs : SameStores ((s.popPending (runId, event.trackerId)).persisted cameraId runId
        evidence decision .unknown calls) s') :
      ExpireEffect s cameraId runId event calls (.ok [command], s')
  | failed (e : LiveEventError) (s' : LiveEventService)
      (evidence : TrackEvidenceEvent) (decision : LiveIdentityDecision)
      (h : s.pending (runId, event.trackerId) = some (evidence, decision))
      (hdwell : toNanoseconds s.settings.liveUnknownMinDwellSeconds ≤
        (event.lastSeenNs : Int) - event.firstSeenNs)
      (hfail : ¬ (evidence.observations ≠ [] ∧ calls.commit = true))
      (hs : SameStores ((s.popPending (runId, event.trackerId)).persisted cameraId runId
        evidence decision .unknown calls) s') :
      ExpireEffect s cameraId runId event calls (.error e, s')

/-- The specification of `expire_track` for its stores, called as the supervisor does. -/
theorem expireTrack_effect (s : LiveEventService) (event : TrackExpiredEvent)
    (calls : StoreCalls) :
    ExpireEffect s event.header.cameraId event.header.runId event calls
      (s.expireTrack event.header.cameraId event.header.runId event.header.generation event
        calls) := by
  unfold expireTrack
  rw [if_neg (by simp)]
  cases hpend : s.pending (event.header.runId, event.trackerId) with
  | none =>
      refine .quiet _ (fun entry h => ?_) (SameStores.refl _)
      rw [hpend] at h
      cases h
  | some entry =>
      obtain ⟨evidence, decision⟩ := entry
      dsimp only
      split
      · rename_i hdwell
        exact .quiet _ (fun _ _ => hdwell) (SameStores.refl _)
      · rename_i hdwell
        by_cases hok : evidence.observations ≠ [] ∧ calls.commit = true
        · rw [persist_ok hok]
          exact .unknown _ _ evidence decision hpend (not_lt.mp hdwell) hok
            (assignment_sameStores _ _ _ _)
        · obtain ⟨e, he⟩ := persist_error
            (s.popPending (event.header.runId, event.trackerId)) event.header.cameraId
            event.header.runId evidence decision .unknown hok
          rw [he]
          exact .failed e _ evidence decision hpend (not_lt.mp hdwell) hok (SameStores.refl _)

end LiveEventService

end Mvision.Live
