import Mvision.Live.EventStores
import Mvision.Live.Hysteresis

/-!
# The expiry of a track

`accept_decision` keeps the last pending decision of a track, and `expire_track`
turns it into an 'unknown' event.  An 'unknown' transition drops the pending
decision, a 'known' one does not: a track that was pending before it became
known still expires as unknown.
-/

namespace Mvision.Live

open Mvision.Library

/-- The decision is kept as pending by `accept_decision`. -/
def LiveIdentityDecision.Recorded (decision : LiveIdentityDecision) : Prop :=
  decision.transition = .none ∧ decision.faceMatch = none ∨
    decision.transition = .known ∧
      (decision.faceMatch = none ∨ decision.referenceEmbedding = none)

instance (decision : LiveIdentityDecision) : Decidable decision.Recorded :=
  inferInstanceAs (Decidable (_ ∧ _ ∨ _ ∧ (_ ∨ _)))

/-- The last pending decision since the last 'unknown' transition, newest first. -/
def lastPending : List (TrackEvidenceEvent × LiveIdentityDecision) →
    Option (TrackEvidenceEvent × LiveIdentityDecision)
  | [] => none
  | (evidence, decision) :: earlier =>
      if decision.Recorded then some (evidence, decision)
      else if decision.transition = .unknown then none
      else lastPending earlier

theorem lastPending_mem {delivered : List (TrackEvidenceEvent × LiveIdentityDecision)}
    {entry : TrackEvidenceEvent × LiveIdentityDecision} (h : lastPending delivered = some entry) :
    entry ∈ delivered ∧ entry.2.Recorded := by
  induction delivered with
  | nil => cases h
  | cons latest earlier ih =>
      obtain ⟨evidence, decision⟩ := latest
      simp only [lastPending] at h
      split at h
      · rename_i hr
        obtain rfl := Option.some.inj h
        exact ⟨List.mem_cons_self, hr⟩
      · split at h
        · cases h
        · obtain ⟨hm, hr⟩ := ih h
          exact ⟨List.mem_cons_of_mem _ hm, hr⟩

/-- A window of the track, with the outcome of the stores. -/
structure LifeWindow where
  window : Window
  calls : StoreCalls
deriving DecidableEq

/-- Both services, with the history of one track. -/
structure TrackLife where
  identity : LiveIdentityService
  events : LiveEventService
  /-- the decisions of the track with their evidence, newest first -/
  delivered : List (TrackEvidenceEvent × LiveIdentityDecision)
  /-- the last decision that `accept_decision` has not raised on -/
  accepted : Option LiveIdentityDecision
  /-- an 'unknown' event was persisted since the last pending decision -/
  unknownPersisted : Bool

namespace TrackLife

/-- The decision of the identity service on a window. -/
def decision (s : TrackLife) (w : LifeWindow) : LiveIdentityDecision :=
  (s.identity.resolve w.window.event w.window.vote w.window.reference).1

/-- `accept_decision` on that decision, as the supervisor calls it. -/
def accept (s : TrackLife) (w : LifeWindow) :
    Except LiveEventError (List IdentityAssignment) × LiveEventService :=
  s.events.acceptDecision w.window.event.header.cameraId w.window.event.header.runId
    w.window.event.header.generation w.window.event (s.decision w) w.calls

def next (s : TrackLife) (w : LifeWindow) : TrackLife where
  identity := (s.identity.resolve w.window.event w.window.vote w.window.reference).2
  events := (s.accept w).2
  delivered := (w.window.event, s.decision w) :: s.delivered
  accepted := if (s.accept w).1.toBool then some (s.decision w) else s.accepted
  unknownPersisted :=
    if (s.decision w).Recorded then false
    else if (s.decision w).transition = .unknown ∧ (s.accept w).1.toBool = true then true
    else s.unknownPersisted

/-- Nothing is known of the track. -/
structure Fresh (key : TrackKey) (s : TrackLife) : Prop where
  track : s.identity.tracks key = none
  pending : s.events.pending (key.runId, key.trackerId) = none
  rows : ∀ row ∈ s.events.events.rows, row.runId = key.runId →
    row.nativeTrackId = key.trackerId → row.eventType ≠ .unknown
  delivered : s.delivered = []
  accepted : s.accepted = none
  unknownPersisted : s.unknownPersisted = false

end TrackLife

/-- The windows of one track from its start on. -/
def trackLife (key : TrackKey) : Machine TrackLife LifeWindow where
  init := TrackLife.Fresh key
  enabled _ w := w.window.event.identityKey = key
  next s w := s.next w

namespace TrackLife

variable (s : TrackLife) (event : TrackExpiredEvent) (calls : StoreCalls)

/-- `expire_track`, as the supervisor calls it. -/
def expire : Except LiveEventError (List IdentityAssignment) × LiveEventService :=
  s.events.expireTrack event.header.cameraId event.header.runId event.header.generation event calls

/-- The expiry persists an 'unknown' event of the track. -/
def Persists : Prop :=
  ∃ row ∈ (s.expire event calls).2.events.rows, row ∉ s.events.events.rows ∧
    row.eventType = .unknown ∧ row.runId = event.header.runId ∧
    row.nativeTrackId = event.trackerId

/-- The time the track was seen reaches the minimum. -/
def Dwells : Prop :=
  toNanoseconds s.events.settings.liveUnknownMinDwellSeconds ≤
    (event.lastSeenNs : Int) - event.firstSeenNs

/-- The last accepted decision is 'known'. -/
def LastKnown : Prop := ∃ d, s.accepted = some d ∧ d.identityState = .known

/-- Some decision was 'known'. -/
def EverKnown : Prop := ∃ e ∈ s.delivered, e.2.identityState = .known

/-- No false 'unknown': a known track expires without one, and a track that never was known
has one exactly if it was pending, has had none since and was seen long enough. -/
def ExpiresRight : Prop :=
  (s.LastKnown → ¬ s.Persists event calls ∧
    ∀ commands, (s.expire event calls).1 = .ok commands → commands = []) ∧
  (¬ s.EverKnown → (s.Persists event calls ↔
    (∃ e ∈ s.delivered, e.2.Recorded) ∧ s.unknownPersisted = false ∧ s.Dwells event))

/-- The stores take the event of a piece of evidence. -/
def Stores (evidence : TrackEvidenceEvent) (calls : StoreCalls) : Prop :=
  evidence.observations ≠ [] ∧ calls.commit = true

/-- Where a decision is pending since the last 'unknown' transition and the track was seen
long enough, the stores fail if the last accepted decision is 'known', and do not fail if
none ever was. -/
def Clear : Prop :=
  ∀ evidence decision, lastPending s.delivered = some (evidence, decision) → s.Dwells event →
    (s.LastKnown → ¬ Stores evidence calls) ∧ (¬ s.EverKnown → Stores evidence calls)

instance : Decidable s.LastKnown :=
  match h : s.accepted with
  | none => isFalse fun ⟨d, hd, _⟩ => by rw [h] at hd; cases hd
  | some d =>
      decidable_of_iff (d.identityState = .known)
        ⟨fun hk => ⟨d, h, hk⟩, fun ⟨d', hd, hk⟩ => Option.some.inj (h.symm.trans hd) ▸ hk⟩

instance : Decidable s.EverKnown := inferInstanceAs (Decidable (∃ e ∈ s.delivered, _))

instance : Decidable (s.Dwells event) := inferInstanceAs (Decidable (_ ≤ _))

instance (evidence : TrackEvidenceEvent) : Decidable (Stores evidence calls) :=
  inferInstanceAs (Decidable (_ ∧ _))

instance : Decidable (s.Clear event calls) :=
  match h : lastPending s.delivered with
  | none => isTrue fun evidence decision hl => by rw [h] at hl; cases hl
  | some (evidence, decision) =>
      decidable_of_iff (s.Dwells event →
          (s.LastKnown → ¬ Stores evidence calls) ∧ (¬ s.EverKnown → Stores evidence calls))
        ⟨fun hc evidence' decision' hl => by
          obtain ⟨rfl, rfl⟩ := Prod.mk.inj (Option.some.inj (h.symm.trans hl))
          exact hc, fun hc => hc evidence decision h⟩

end TrackLife

/-! ## Decisions on a track without a face -/

/-- Without a face, a match leads to a face or to a pending decision. -/
theorem TrackIdentity.matched_faceless {t : TrackIdentity} (h : t.knownMatch = none)
    (found : FaceMatch) (score : Option ℚ) (reference : Option (List ℚ))
    (quality : DecisionQuality) :
    (t.matched found score reference quality).1.identityState = .known ∨
      (t.matched found score reference quality).1.Recorded ∧
        (t.matched found score reference quality).2.knownMatch = none := by
  rcases TrackIdentity.matched_cases t found score reference quality with
    ⟨-, heq⟩ | ⟨hk, -⟩ | ⟨hk, -⟩ | ⟨hk, -⟩
  · rw [heq]
    cases reference with
    | none => exact .inr ⟨.inl ⟨rfl, h⟩, h⟩
    | some vector => exact .inl rfl
  · exact absurd h hk
  · exact absurd h hk
  · exact absurd h hk

/-- Without a face, a window leads to a face or to a pending decision. -/
theorem TrackIdentity.resolve_faceless {t : TrackIdentity} (h : t.knownMatch = none)
    (quality : DecisionQuality) (observations : List LiveObservation)
    (vote : Option VideoIdentityDecision) (reference : Option (List ℚ)) :
    (t.resolve quality observations vote reference).1.identityState = .known ∨
      (t.resolve quality observations vote reference).1.Recorded ∧
        (t.resolve quality observations vote reference).2.knownMatch = none := by
  have hk := (TrackIdentity.agrees_acceptNewObservations t observations).knownMatch.trans h
  unfold TrackIdentity.resolve
  dsimp only
  split
  · exact .inr ⟨.inl ⟨rfl, rfl⟩, hk⟩
  · split
    · exact .inr ⟨.inl ⟨rfl, hk⟩, hk⟩
    · split
      · unfold TrackIdentity.reject
        dsimp only
        rw [if_neg fun hne => hne.1 hk]
        exact .inr ⟨.inl ⟨rfl, hk⟩, hk⟩
      · apply TrackIdentity.matched_faceless
        exact hk

namespace TrackLife

variable {key : TrackKey} {s : TrackLife} {w : LifeWindow}

theorem accept_effect :
    LiveEventService.AcceptEffect s.events w.window.event.header.cameraId
      w.window.event.header.runId w.window.event (s.decision w) w.calls (s.accept w) :=
  LiveEventService.acceptDecision_effect s.events w.window.event (s.decision w) w.calls

theorem recorded_of_transition {d : LiveIdentityDecision} {found : FaceMatch}
    (hm : d.faceMatch = some found) (hv : d.referenceEmbedding ≠ none) : ¬ d.Recorded := by
  rintro (⟨-, h⟩ | ⟨-, h | h⟩)
  · rw [hm] at h
    cases h
  · rw [hm] at h
    cases h
  · exact hv h

/-- A pending decision writes no event. -/
theorem events_of_recorded (h : (s.decision w).Recorded) :
    (s.accept w).2.events = s.events.events := by
  have heff := accept_effect (s := s) (w := w)
  generalize s.accept w = after at heff
  cases heff with
  | quiet s' ht _ hs => exact hs.events
  | recorded s' _ hs => exact hs.events
  | unknown commands s' ht _ _ =>
      rcases h with ⟨h, -⟩ | ⟨h, -⟩ <;> rw [ht] at h <;> cases h
  | unknownFailed e s' ht _ _ =>
      rcases h with ⟨h, -⟩ | ⟨h, -⟩ <;> rw [ht] at h <;> cases h
  | suppressed commands s' found _ hm hv _ _ _ => exact absurd h (recorded_of_transition hm hv)
  | known commands s' found _ hm hv _ _ _ _ => exact absurd h (recorded_of_transition hm hv)
  | knownFailed e s' found _ hm hv _ _ _ => exact absurd h (recorded_of_transition hm hv)

/-- The entry of the track is its last pending decision. -/
theorem accept_pending
    (h : s.events.pending (w.window.event.header.runId, w.window.event.trackerId) =
      lastPending s.delivered) :
    (s.accept w).2.pending (w.window.event.header.runId, w.window.event.trackerId) =
      lastPending ((w.window.event, s.decision w) :: s.delivered) := by
  have heff := accept_effect (s := s) (w := w)
  generalize s.accept w = after at heff
  simp only [lastPending]
  cases heff with
  | quiet s' ht hm hs =>
      have hnot : ¬ (s.decision w).Recorded := by
        rintro (⟨-, h⟩ | ⟨h, -⟩)
        · exact hm h
        · rw [ht] at h
          cases h
      rw [if_neg hnot, if_neg (by rw [ht]; decide), hs.pending, h]
  | recorded s' hr hs =>
      have hrecorded : (s.decision w).Recorded := hr
      rw [if_pos hrecorded, hs.pending]
      simp [LiveEventService.setPending]
  | unknown commands s' ht _ hs =>
      have hnot : ¬ (s.decision w).Recorded := by
        rintro (⟨h, -⟩ | ⟨h, -⟩) <;> rw [ht] at h <;> cases h
      rw [if_neg hnot, if_pos ht, hs.pending]
      show (LiveEventService.persist _ _ _ _ _ _ _).2.pending _ = none
      rw [LiveEventService.persist_dictionaries.2.1]
      simp [LiveEventService.popPending]
  | unknownFailed e s' ht _ hs =>
      have hnot : ¬ (s.decision w).Recorded := by
        rintro (⟨h, -⟩ | ⟨h, -⟩) <;> rw [ht] at h <;> cases h
      rw [if_neg hnot, if_pos ht, hs.pending]
      show (LiveEventService.persist _ _ _ _ _ _ _).2.pending _ = none
      rw [LiveEventService.persist_dictionaries.2.1]
      simp [LiveEventService.popPending]
  | suppressed commands s' found ht hm hv _ _ hs =>
      rw [if_neg (recorded_of_transition hm hv), if_neg (by rw [ht]; decide), hs.pending, h]
  | known commands s' found ht hm hv _ _ _ hs =>
      rw [if_neg (recorded_of_transition hm hv), if_neg (by rw [ht]; decide), hs.pending, ← h]
      exact congrFun LiveEventService.persist_dictionaries.2.1 _
  | knownFailed e s' found ht hm hv _ _ hs =>
      rw [if_neg (recorded_of_transition hm hv), if_neg (by rw [ht]; decide), hs.pending, ← h]
      exact congrFun LiveEventService.persist_dictionaries.2.1 _

/-- What holds of a track that never was known. -/
structure Faceless (key : TrackKey) (s : TrackLife) : Prop where
  face : (s.identity.track key).knownMatch = none
  recorded : ∀ e ∈ s.delivered, e.2.Recorded
  rows : ∀ row ∈ s.events.events.rows, row.runId = key.runId →
    row.nativeTrackId = key.trackerId → row.eventType ≠ .unknown
  unknownPersisted : s.unknownPersisted = false

/-- What every window keeps. -/
structure Lived (key : TrackKey) (s : TrackLife) : Prop where
  pending : s.events.pending (key.runId, key.trackerId) = lastPending s.delivered
  keyed : ∀ e ∈ s.delivered, e.1.identityKey = key
  faceless : ¬ s.EverKnown → s.Faceless key

theorem lived_fresh (h : s.Fresh key) : s.Lived key where
  pending := by
    rw [h.pending, h.delivered]
    rfl
  keyed := by
    rw [h.delivered]
    exact fun e he => absurd he List.not_mem_nil
  faceless _ :=
    { face := by rw [LiveIdentityService.track, h.track]; rfl
      recorded := by
        rw [h.delivered]
        exact fun e he => absurd he List.not_mem_nil
      rows := h.rows
      unknownPersisted := h.unknownPersisted }

theorem lived_step (key : TrackKey) : (trackLife key).Preserved (Lived key) := by
  intro s w he h
  have hkey : w.window.event.identityKey = key := he
  have hentry : (w.window.event.header.runId, w.window.event.trackerId) =
      (key.runId, key.trackerId) := by rw [← hkey]; rfl
  refine ⟨?_, fun e hm => ?_, fun hnever => ?_⟩
  · have hpending := accept_pending (s := s) (w := w) (by rw [hentry]; exact h.pending)
    rw [hentry] at hpending
    exact hpending
  · rcases List.mem_cons.mp hm with rfl | hm
    · exact hkey
    · exact h.keyed e hm
  · have hbefore : ¬ s.EverKnown := fun ⟨e, hm, hk⟩ =>
      hnever ⟨e, List.mem_cons_of_mem _ hm, hk⟩
    obtain ⟨hface, hrecorded, hrows, hunknown⟩ := h.faceless hbefore
    have heq := LiveIdentityService.resolve_eq s.identity w.window.event w.window.vote
      w.window.reference key hkey.symm
    have hd : s.decision w = ((s.identity.track key).resolve s.identity.quality
        w.window.event.observations w.window.vote w.window.reference).1 := by
      unfold decision
      rw [heq]
    have ht : (s.next w).identity.track key = ((s.identity.track key).resolve s.identity.quality
        w.window.event.observations w.window.vote w.window.reference).2 := by
      show (s.identity.resolve _ _ _).2.track key = _
      rw [heq, LiveIdentityService.track_update, if_pos rfl]
      rfl
    have hnot : (s.decision w).identityState ≠ .known := fun hk =>
      hnever ⟨_, List.mem_cons_self, hk⟩
    obtain ⟨hrec, hnone⟩ := (TrackIdentity.resolve_faceless hface s.identity.quality
      w.window.event.observations w.window.vote w.window.reference).resolve_left (hd ▸ hnot)
    rw [← hd] at hrec
    rw [← ht] at hnone
    refine ⟨hnone, fun e hm => ?_, fun row hrow => ?_, ?_⟩
    · rcases List.mem_cons.mp hm with rfl | hm
      · exact hrec
      · exact hrecorded e hm
    · have hsame : (s.next w).events.events = s.events.events := events_of_recorded hrec
      exact hrows row (hsame ▸ hrow)
    · exact if_pos hrec

/-! ## The expiry -/

variable {event : TrackExpiredEvent} {calls : StoreCalls}

theorem not_persists_of_same (h : (s.expire event calls).2.events = s.events.events) :
    ¬ s.Persists event calls := by
  rintro ⟨row, hrow, hnew, -⟩
  rw [h] at hrow
  exact hnew hrow

/-- A committed event is a new row exactly if there is none of its epoch yet. -/
theorem persists_iff {evidence : TrackEvidenceEvent} {decision : LiveIdentityDecision}
    (htracker : evidence.trackerId = event.trackerId) (hok : Stores evidence calls)
    (hevents : (s.expire event calls).2.events =
      ((s.events.popPending (event.header.runId, event.trackerId)).persisted
        event.header.cameraId event.header.runId evidence decision .unknown calls).events) :
    s.Persists event calls ↔ ∀ row ∈ s.events.events.rows, row.once ≠
      (event.header.runId, event.trackerId, decision.identityEpoch, EventType.unknown) := by
  unfold LiveEventService.persisted at hevents
  rcases LiveEventService.persist_cases
    (s.events.popPending (event.header.runId, event.trackerId)) event.header.cameraId
    event.header.runId evidence decision .unknown calls with
    ⟨best, -, -, heq⟩ | ⟨e, hcomp, -⟩ | ⟨e, hfail, -, -⟩
  · rw [heq] at hevents
    constructor
    · rintro ⟨row, hrow, hnew, -⟩ row' hrow' hkey
      rw [hevents] at hrow
      rcases Table.mem_insert hrow with hold | ⟨-, hfresh⟩
      · exact hnew hold
      · refine hfresh (List.mem_map.mpr ⟨row', hrow', ?_⟩)
        rw [hkey, ← htracker]
        rfl
    · intro hfresh
      have hnot : ∀ row ∈ s.events.events.rows, row.once ≠
          (event.header.runId, evidence.trackerId, decision.identityEpoch, EventType.unknown) :=
        htracker ▸ hfresh
      refine ⟨LiveEventService.row event.header.cameraId event.header.runId evidence decision
        .unknown ((s.events.popPending (event.header.runId, event.trackerId)).eventId
          event.header.runId evidence decision .unknown) calls.upload best, ?_,
        fun hold => hnot _ hold rfl, rfl, rfl, htracker⟩
      rw [hevents]
      show _ ∈ (Table.insert s.events.events _).rows
      rw [Table.insert_rows fun hm => ?_]
      · exact List.mem_append_right _ (List.mem_singleton_self _)
      · obtain ⟨row', hrow', hkey⟩ := List.mem_map.mp hm
        exact hnot row' hrow' hkey
  · exact absurd hok.2 (by rw [hcomp.2.1]; exact Bool.false_ne_true)
  · exact absurd hok hfail

/-- The expiry finds nothing pending that was seen long enough, or persists it, or fails. -/
theorem expire_cases (h : s.Lived key) (hrun : event.header.runId = key.runId)
    (htracker : event.trackerId = key.trackerId) (calls : StoreCalls) :
    ((∀ evidence decision, lastPending s.delivered = some (evidence, decision) →
        ¬ s.Dwells event) ∧
      (s.expire event calls).1 = .ok [] ∧ ¬ s.Persists event calls) ∨
    ∃ evidence decision, lastPending s.delivered = some (evidence, decision) ∧ s.Dwells event ∧
      (Stores evidence calls ∧ (∃ command, (s.expire event calls).1 = .ok [command]) ∧
          (s.Persists event calls ↔ ∀ row ∈ s.events.events.rows, row.once ≠
            (event.header.runId, event.trackerId, decision.identityEpoch, EventType.unknown)) ∨
        ¬ Stores evidence calls ∧ (∃ e, (s.expire event calls).1 = .error e) ∧
          ¬ s.Persists event calls) := by
  have hpending : s.events.pending (event.header.runId, event.trackerId) =
      lastPending s.delivered := by
    rw [hrun, htracker]
    exact h.pending
  have heff := LiveEventService.expireTrack_effect s.events event calls
  have heff : LiveEventService.ExpireEffect s.events event.header.cameraId event.header.runId
      event calls (s.expire event calls) := heff
  rcases hx : s.expire event calls with ⟨result, s'⟩
  rw [hx] at heff
  cases heff with
  | quiet _ hshort hs =>
      refine .inl ⟨fun evidence decision hlast hdwell => ?_, rfl, ?_⟩
      · exact absurd hdwell (not_le.mpr (hshort _ (hpending.trans hlast)))
      · exact not_persists_of_same (by rw [hx]; exact hs.events)
  | unknown command _ evidence decision hentry hdwell hok hs =>
      have hlast := hpending.symm.trans hentry
      have hkey := h.keyed _ (lastPending_mem hlast).1
      have hsame : evidence.trackerId = event.trackerId := by
        rw [htracker, ← hkey]
        rfl
      refine .inr ⟨evidence, decision, hlast, hdwell, .inl ⟨hok, ⟨command, rfl⟩, ?_⟩⟩
      exact persists_iff hsame hok (by rw [hx]; exact hs.events)
  | failed e _ evidence decision hentry hdwell hfail hs =>
      refine .inr ⟨evidence, decision, hpending.symm.trans hentry, hdwell,
        .inr ⟨hfail, ⟨e, rfl⟩, not_persists_of_same ?_⟩⟩
      rw [hx]
      refine hs.events.trans ?_
      unfold LiveEventService.persisted
      rcases LiveEventService.persist_cases
        (s.events.popPending (event.header.runId, event.trackerId)) event.header.cameraId
        event.header.runId evidence decision .unknown calls with
        ⟨best, hne, hcommit, -⟩ | ⟨e, -, heq⟩ | ⟨e, -, -, heq⟩
      · exact absurd ⟨hne, hcommit⟩ hfail
      · rw [heq]
        rfl
      · rw [heq]
        rfl

/-- What the track has recorded while it never was known. -/
theorem lastPending_of_faceless (h : s.Faceless key) (hsome : ∃ e ∈ s.delivered, e.2.Recorded) :
    ∃ evidence decision, lastPending s.delivered = some (evidence, decision) := by
  obtain ⟨e, he, -⟩ := hsome
  cases hd : s.delivered with
  | nil =>
      rw [hd] at he
      cases he
  | cons latest earlier =>
      have hr : latest.2.Recorded := h.recorded latest (hd ▸ List.mem_cons_self)
      exact ⟨latest.1, latest.2, if_pos hr⟩

theorem expiresRight_iff (h : s.Lived key) (hrun : event.header.runId = key.runId)
    (htracker : event.trackerId = key.trackerId) (calls : StoreCalls) :
    s.ExpiresRight event calls ↔ s.Clear event calls := by
  rcases expire_cases h hrun htracker calls with ⟨hshort, hresult, hnot⟩ |
    ⟨evidence, decision, hlast, hdwell, hcase⟩
  · refine iff_of_true ⟨fun _ => ⟨hnot, fun commands hc => ?_⟩, fun hnever => ?_⟩
      fun evidence decision hlast hdwell => absurd hdwell (hshort evidence decision hlast)
    · rw [hresult] at hc
      exact (Except.ok.inj hc).symm
    · refine iff_of_false hnot ?_
      rintro ⟨hsome, -, hdwell⟩
      obtain ⟨evidence, decision, hlast⟩ := lastPending_of_faceless (h.faceless hnever) hsome
      exact hshort evidence decision hlast hdwell
  · have hclear : s.Clear event calls ↔
        (s.LastKnown → ¬ Stores evidence calls) ∧ (¬ s.EverKnown → Stores evidence calls) := by
      constructor
      · exact fun hc => hc evidence decision hlast hdwell
      · intro hc evidence' decision' hlast' _
        obtain ⟨rfl, rfl⟩ := Prod.mk.inj (Option.some.inj (hlast.symm.trans hlast'))
        exact hc
    have hdue : ¬ s.EverKnown → (∃ e ∈ s.delivered, e.2.Recorded) ∧
        s.unknownPersisted = false ∧ s.Dwells event := fun hnever =>
      ⟨⟨_, lastPending_mem hlast⟩, (h.faceless hnever).unknownPersisted, hdwell⟩
    rw [hclear]
    rcases hcase with ⟨hok, ⟨command, hresult⟩, hpersists⟩ | ⟨hfail, ⟨e, hresult⟩, hnot⟩
    · constructor
      · rintro ⟨hright, -⟩
        refine ⟨fun hknown => ?_, fun _ => hok⟩
        have hnil := (hright hknown).2 [command] hresult
        cases hnil
      · rintro ⟨hfails, -⟩
        refine ⟨fun hknown => absurd hok (hfails hknown), fun hnever => ?_⟩
        refine iff_of_true (hpersists.mpr fun row hrow hkey => ?_) (hdue hnever)
        simp only [LiveDetectionEvent.once, Prod.mk.injEq] at hkey
        exact (h.faceless hnever).rows row hrow (hkey.1.trans hrun) (hkey.2.1.trans htracker)
          hkey.2.2.2
    · constructor
      · rintro ⟨-, hright⟩
        exact ⟨fun _ => hfail, fun hnever => absurd ((hright hnever).mpr (hdue hnever)) hnot⟩
      · rintro ⟨-, hstores⟩
        refine ⟨fun _ => ⟨hnot, fun commands hc => ?_⟩, fun hnever => absurd (hstores hnever) hfail⟩
        rw [hresult] at hc
        cases hc

end TrackLife

section Sample

def lifeKey : TrackKey := ⟨"camera", "run", 1, 7⟩

def lifeHeader (messageType : MessageType) : ProtocolHeader :=
  ⟨2, messageType, "session", "camera", "run", 1, 1, 0, "traceparent", none⟩

/-- A window of the track that the voter gives to a face, or to none. -/
def lifeWindow (face : Option String) (time : Nat) : LifeWindow where
  window :=
    { event := ⟨lifeHeader .trackEvidence, 7, 1, 0, time, [⟨time, [], 1, [], [], 1, 0, []⟩], []⟩
      vote := some ⟨face.map fun face => ⟨⟨face, face, 1⟩, face, 1⟩, none⟩
      reference := some [1] }
  calls := ⟨none, true, true⟩

def newTrack : TrackLife where
  identity := ⟨⟨0, 0, 0⟩, fun _ => none⟩
  events := ⟨⟨30, 1, fun name => name⟩, fun _ => none, fun _ => none, fun _ => none, 0, .empty,
    fun _ => none⟩
  delivered := []
  accepted := none
  unknownPersisted := false

/-- The track was seen for three seconds. -/
def lifeExpiry : TrackExpiredEvent :=
  ⟨lifeHeader .trackExpired, 7, 3, 0, 3000000000, "idle"⟩

theorem newTrack_fresh : newTrack.Fresh lifeKey :=
  ⟨rfl, rfl, fun _ hrow => absurd hrow List.not_mem_nil, rfl, rfl, rfl⟩

/-- A track is pending for a window and known from the next on. -/
def knownAfterPending : List LifeWindow :=
  [lifeWindow none 1, lifeWindow (some "face") 2, lifeWindow (some "face") 3]

end Sample

end Mvision.Live
