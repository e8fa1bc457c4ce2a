import Mathlib.Data.List.Induction
import Mvision.Live.SnapshotKeeping

/-!
# The cooldown of known events

`_known_cooldown` keeps the time stamp of the last known event of a face at a
camera, for as long as the service lives.  The time stamps are those of the
stream clock of a run, so an event of one run is compared with the clock of
another.  `create_once` drops an event whose run, track and epoch have one, and
the cooldown starts all the same.
-/

namespace Mvision.Live

open Mvision.Library

/-- A known transition that is delivered to `accept_decision`, with the face it names. -/
structure KnownTransition where
  evidence : TrackEvidenceEvent
  decision : LiveIdentityDecision
  found : FaceMatch
  calls : StoreCalls
deriving DecidableEq

namespace KnownTransition

def cameraId (k : KnownTransition) : String := k.evidence.header.cameraId
def runId (k : KnownTransition) : String := k.evidence.header.runId
def faceId (k : KnownTransition) : String := k.found.identity.faceId
def time (k : KnownTransition) : Nat := k.evidence.lastSeenNs

/-- The key of the event under the unique constraint. -/
def key (k : KnownTransition) : String × Nat × Nat × EventType :=
  (k.runId, k.evidence.trackerId, k.decision.identityEpoch, .known)

/-- The row is the event of the transition. -/
def IsEvent (k : KnownTransition) (row : LiveDetectionEvent) : Prop :=
  row.once = k.key ∧ row.cameraId = k.cameraId ∧ row.faceId = some k.faceId ∧
    row.lastSeenAt = k.time

end KnownTransition

/-- The service, with the transitions it was given and those whose events it has written,
newest first. -/
structure CooldownHistory where
  service : LiveEventService
  delivered : List KnownTransition
  persisted : List KnownTransition

namespace CooldownHistory

/-- `accept_decision` for the transition. -/
def accept (s : CooldownHistory) (k : KnownTransition) : LiveEventService :=
  (s.service.acceptDecision k.cameraId k.runId k.evidence.header.generation k.evidence
    k.decision k.calls).2

/-- The call has counted a suppressed event. -/
def Suppressed (s : CooldownHistory) (k : KnownTransition) : Prop :=
  (s.accept k).suppressedCount = s.service.suppressedCount + 1

instance (s : CooldownHistory) (k : KnownTransition) : Decidable (s.Suppressed k) :=
  inferInstanceAs (Decidable (_ = _))

end CooldownHistory

/-- Known transitions with a reference, of any cameras, faces, tracks and runs; the time
stamps of a run do not decrease, and every persist succeeds.  An event that `create_once`
drops leaves the table as it was, and is not persisted. -/
def knownCooldown : Machine CooldownHistory KnownTransition where
  init s := s.delivered = [] ∧ s.persisted = [] ∧ ∀ key, s.service.knownCooldown key = none
  enabled s k :=
    k.decision.transition = .known ∧ k.decision.faceMatch = some k.found ∧
      k.decision.referenceEmbedding ≠ none ∧ k.evidence.observations ≠ [] ∧
      k.calls.commit = true ∧ ∀ d ∈ s.delivered, d.runId = k.runId → d.time ≤ k.time
  next s k :=
    { service := s.accept k
      delivered := k :: s.delivered
      persisted :=
        if (s.accept k).events = s.service.events then s.persisted else k :: s.persisted }

instance (s : CooldownHistory) (k : KnownTransition) : Decidable (knownCooldown.enabled s k) :=
  inferInstanceAs (Decidable (_ ∧ _ ∧ _ ∧ _ ∧ _ ∧ ∀ d ∈ s.delivered, _ → _))

namespace CooldownHistory

/-- A known event of the camera and the face was persisted in the run less than a cooldown
ago. -/
def Recent (s : CooldownHistory) (k : KnownTransition) : Prop :=
  ∃ p ∈ s.persisted, p.cameraId = k.cameraId ∧ p.faceId = k.faceId ∧ p.runId = k.runId ∧
    p.time ≤ k.time ∧
    (k.time : Int) - p.time < toNanoseconds s.service.settings.liveKnownCooldownSeconds

instance (s : CooldownHistory) (k : KnownTransition) : Decidable (s.Recent k) :=
  inferInstanceAs (Decidable (∃ p ∈ s.persisted, _ ∧ _ ∧ _ ∧ _ ∧ _))

/-- A transition is suppressed, and no event stored, exactly if a known event of the
same camera, face and run is recent; otherwise its event is added. -/
def Law (s : CooldownHistory) (k : KnownTransition) : Prop :=
  (s.Suppressed k ↔ s.Recent k) ∧ (s.Recent k → (s.accept k).events = s.service.events) ∧
    (¬ s.Recent k → ∃ row, k.IsEvent row ∧
      (s.accept k).events.rows = s.service.events.rows ++ [row])

/-- The last persisted event of the camera and the face. -/
def last (s : CooldownHistory) (k : KnownTransition) : Option KnownTransition :=
  s.persisted.find? fun p => p.cameraId = k.cameraId ∧ p.faceId = k.faceId

/-- The time stamp of the transition is less than a cooldown after the event's. -/
def Near (s : CooldownHistory) (p k : KnownTransition) : Prop :=
  (k.time : Int) - p.time < toNanoseconds s.service.settings.liveKnownCooldownSeconds

instance (s : CooldownHistory) (p k : KnownTransition) : Decidable (s.Near p k) :=
  inferInstanceAs (Decidable (_ < _))

/-- The last known event of the camera and the face comes from the run of the transition; or
the run has none of them yet and starts late enough on the clock of the other run. -/
def SameClock (s : CooldownHistory) (k : KnownTransition) : Prop :=
  ∀ p ∈ s.last k, p.runId = k.runId ∨
    (¬ s.Near p k ∧
      ∀ q ∈ s.persisted, q.cameraId = k.cameraId → q.faceId = k.faceId → q.runId ≠ k.runId)

instance (s : CooldownHistory) (k : KnownTransition) : Decidable (s.SameClock k) :=
  inferInstanceAs (Decidable (∀ p ∈ s.last k, _ ∨ (_ ∧ ∀ q ∈ s.persisted, _ → _ → _)))

/-- No event is stored under the key of the transition, or the last event of its face is near. -/
def Unused (s : CooldownHistory) (k : KnownTransition) : Prop :=
  (∃ p ∈ s.last k, s.Near p k) ∨ ∀ row ∈ s.service.events.rows, row.once ≠ k.key

instance (s : CooldownHistory) (k : KnownTransition) : Decidable (s.Unused k) :=
  inferInstanceAs (Decidable ((∃ p ∈ s.last k, _) ∨ ∀ row ∈ s.service.events.rows, _))

/-- The transition is judged by its own clock, and its event has a key of its own. -/
def Clear (s : CooldownHistory) (k : KnownTransition) : Prop := s.SameClock k ∧ s.Unused k

instance (s : CooldownHistory) (k : KnownTransition) : Decidable (s.Clear k) :=
  inferInstanceAs (Decidable (_ ∧ _))

/-- The camera has not left the run of the transition for another one. -/
def InTurn (s : CooldownHistory) (k : KnownTransition) : Prop :=
  ∀ newer d older, s.delivered = newer ++ d :: older → d.cameraId = k.cameraId →
    d.runId ≠ k.runId → ∀ e ∈ older, e.cameraId = k.cameraId → e.runId ≠ k.runId

/-! ## One transition -/

variable {s : CooldownHistory} {k : KnownTransition}

/-- What `accept_decision` does with a known transition. -/
theorem accept_cases (he : knownCooldown.enabled s k) :
    (s.service.coolingDown k.cameraId k.faceId k.evidence = true ∧ s.Suppressed k ∧
      LiveEventService.SameStores s.service (s.accept k)) ∨
    (s.service.coolingDown k.cameraId k.faceId k.evidence = false ∧ ¬ s.Suppressed k ∧
      LiveEventService.SameStores
        ((s.service.persisted k.cameraId k.runId k.evidence k.decision .known
          k.calls).startCooldown k.cameraId k.faceId k.evidence) (s.accept k)) := by
  obtain ⟨ht, hm, hv, hobs, hcommit, -⟩ := he
  have heff := LiveEventService.acceptDecision_effect s.service k.evidence k.decision k.calls
  have hafter : s.accept k = (s.service.acceptDecision k.evidence.header.cameraId
    k.evidence.header.runId k.evidence.header.generation k.evidence k.decision k.calls).2 := rfl
  unfold Suppressed
  rw [hafter]
  generalize s.service.acceptDecision k.evidence.header.cameraId k.evidence.header.runId
    k.evidence.header.generation k.evidence k.decision k.calls = after at heff
  cases heff with
  | quiet s' h _ _ => rw [ht] at h; cases h
  | recorded s' h _ =>
      rcases h with ⟨h, -⟩ | ⟨-, h | h⟩
      · rw [ht] at h
        cases h
      · rw [hm] at h
        cases h
      · exact absurd h hv
  | unknown commands s' h _ _ => rw [ht] at h; cases h
  | unknownFailed e s' h _ _ => rw [ht] at h; cases h
  | suppressed commands s' found _ hmatch _ hcool hcount hs =>
      obtain rfl : k.found = found := Option.some.inj (hm.symm.trans hmatch)
      exact .inl ⟨hcool, hcount, hs⟩
  | known commands s' found _ hmatch _ hcool _ hcount hs =>
      obtain rfl : k.found = found := Option.some.inj (hm.symm.trans hmatch)
      refine .inr ⟨hcool, ?_, hs⟩
      rw [hcount]
      omega
  | knownFailed e s' found _ _ _ _ hfail _ => exact absurd ⟨hobs, hcommit⟩ hfail

theorem suppressed_iff (he : knownCooldown.enabled s k) :
    s.Suppressed k ↔ s.service.coolingDown k.cameraId k.faceId k.evidence = true := by
  rcases accept_cases he with ⟨hcool, hsup, -⟩ | ⟨hcool, hsup, -⟩
  · exact iff_of_true hsup hcool
  · exact iff_of_false hsup (by rw [hcool]; exact Bool.false_ne_true)

/-- A transition that is not suppressed tries to write its event. -/
theorem stores_of_not_suppressed (he : knownCooldown.enabled s k) (hsup : ¬ s.Suppressed k) :
    ∃ row, k.IsEvent row ∧ (s.accept k).events = s.service.events.insert row := by
  rcases accept_cases he with ⟨-, hsup', -⟩ | ⟨-, -, hs⟩
  · exact absurd hsup' hsup
  · have hok : k.evidence.observations ≠ [] ∧ k.calls.commit = true := ⟨he.2.2.2.1, he.2.2.2.2.1⟩
    have hevents := hs.events
    unfold LiveEventService.startCooldown LiveEventService.persisted at hevents
    rcases LiveEventService.persist_cases s.service k.cameraId k.runId k.evidence
      k.decision .known k.calls with ⟨best, -, -, heq⟩ | ⟨e, hcomp, -⟩ | ⟨e, hfail, -, -⟩
    · rw [heq] at hevents
      refine ⟨_, ⟨rfl, rfl, ?_, rfl⟩, hevents⟩
      show k.decision.faceMatch.map (·.identity.faceId) = some k.faceId
      rw [he.2.1]
      rfl
    · rw [hcomp.2.1] at hok
      exact absurd hok.2 Bool.false_ne_true
    · exact absurd hok hfail

theorem events_of_suppressed (he : knownCooldown.enabled s k) (hsup : s.Suppressed k) :
    (s.accept k).events = s.service.events := by
  rcases accept_cases he with ⟨-, -, hs⟩ | ⟨-, hsup', -⟩
  · exact hs.events
  · exact absurd hsup hsup'

/-- What a history keeps whose transitions obey the law: the cooldown of a face is the time of
its last event, and the events of a run come in order. -/
structure Logged (s : CooldownHistory) : Prop where
  cooldown : ∀ cameraId faceId, s.service.knownCooldown (cameraId, faceId) =
    (s.persisted.find? fun p => p.cameraId = cameraId ∧ p.faceId = faceId).map
      KnownTransition.time
  sublist : s.persisted.Sublist s.delivered
  ordered : s.persisted.Pairwise fun p q => q.runId = p.runId → q.time ≤ p.time

theorem logged_step : knownCooldown.PreservedUnder Law Logged := by
  intro s k he hlaw h
  rcases accept_cases he with ⟨-, hsup, hs⟩ | ⟨-, hsup, hs⟩
  · have hsame : (knownCooldown.next s k).persisted = s.persisted := if_pos hs.events
    refine ⟨fun cameraId faceId => ?_, ?_, ?_⟩
    · rw [hsame]
      show (s.accept k).knownCooldown _ = _
      rw [hs.knownCooldown]
      exact h.cooldown cameraId faceId
    · rw [hsame]
      exact h.sublist.cons k
    · rw [hsame]
      exact h.ordered
  · obtain ⟨row, -, hrows⟩ := hlaw.2.2 (mt hlaw.1.mpr hsup)
    have hwritten : (s.accept k).events ≠ s.service.events := by
      intro hsame
      have hlength := congrArg List.length hrows
      rw [hsame, List.length_append] at hlength
      simp at hlength
    have hnew : (knownCooldown.next s k).persisted = k :: s.persisted := if_neg hwritten
    refine ⟨fun cameraId faceId => ?_, ?_, ?_⟩
    · rw [hnew]
      show (s.accept k).knownCooldown (cameraId, faceId) = _
      rw [hs.knownCooldown]
      show Function.update (s.service.persisted _ _ _ _ _ _).knownCooldown _ _ _ = _
      have hold : (s.service.persisted k.cameraId k.runId k.evidence k.decision .known
          k.calls).knownCooldown = s.service.knownCooldown :=
        LiveEventService.persist_dictionaries.2.2
      rw [hold, Function.update_apply]
      by_cases hk : k.cameraId = cameraId ∧ k.faceId = faceId
      · rw [if_pos (by rw [hk.1, hk.2]), List.find?_cons_of_pos (by simpa using hk)]
        rfl
      · rw [if_neg fun he => hk ⟨(Prod.mk.inj he).1.symm, (Prod.mk.inj he).2.symm⟩,
          List.find?_cons_of_neg (by simpa using hk)]
        exact h.cooldown cameraId faceId
    · rw [hnew]
      exact h.sublist.cons_cons k
    · rw [hnew, List.pairwise_cons]
      exact ⟨fun q hq hrun => he.2.2.2.2.2 q (h.sublist.subset hq) hrun, h.ordered⟩

/-- The code compares with the last event of the camera and the face, of whatever run. -/
theorem coolingDown_iff (h : s.Logged) :
    s.service.coolingDown k.cameraId k.faceId k.evidence = true ↔ ∃ p ∈ s.last k, s.Near p k := by
  unfold LiveEventService.coolingDown Near
  rw [h.cooldown]
  show _ ↔ ∃ p, s.persisted.find? _ = some p ∧ _
  cases s.persisted.find? fun p => p.cameraId = k.cameraId ∧ p.faceId = k.faceId with
  | none => simp
  | some p => simp [KnownTransition.time]

/-- Every other event of the camera, the face and the run is older than the last one. -/
theorem le_last (h : s.Logged) {p q : KnownTransition} (hlast : s.last k = some p)
    (hq : q ∈ s.persisted) (hcam : q.cameraId = k.cameraId) (hface : q.faceId = k.faceId)
    (hrun : q.runId = p.runId) : q.time ≤ p.time := by
  obtain ⟨-, newer, older, hsplit, hnewer⟩ := List.find?_eq_some_iff_append.mp hlast
  have hord := h.ordered
  rw [hsplit] at hq hord
  rcases List.mem_append.mp hq with hq | hq
  · have := hnewer q hq
    simp [hcam, hface] at this
  · rcases List.mem_cons.mp hq with rfl | hq
    · exact le_refl _
    · exact (List.pairwise_cons.mp (List.pairwise_append.mp hord).2.1).1 q hq hrun

/-- If the last event is on the clock of the transition, it decides. -/
theorem recent_iff_of_same (he : knownCooldown.enabled s k) (h : s.Logged) {p : KnownTransition}
    (hlast : s.last k = some p) (hrun : p.runId = k.runId) :
    s.Recent k ↔ s.Near p k := by
  have hmem : p ∈ s.persisted := List.mem_of_find?_eq_some hlast
  have hp : p.cameraId = k.cameraId ∧ p.faceId = k.faceId := by
    simpa using List.find?_some hlast
  constructor
  · rintro ⟨q, hq, hcam, hface, hqrun, -, hlt⟩
    have hle := le_last h hlast hq hcam hface (hqrun.trans hrun.symm)
    unfold Near
    omega
  · intro hlt
    exact ⟨p, hmem, hp.1, hp.2, hrun, he.2.2.2.2.2 p (h.sublist.subset hmem) hrun, hlt⟩

/-- Before the last event of the face, none came from a run that has its turn only later. -/
theorem others_of_inTurn (h : s.Logged) (hturn : s.InTurn k) {p : KnownTransition}
    (hlast : s.last k = some p) (hrun : p.runId ≠ k.runId) :
    ∀ q ∈ s.persisted, q.cameraId = k.cameraId → q.faceId = k.faceId → q.runId ≠ k.runId := by
  intro q hq hcam hface
  obtain ⟨hp, newer, older, hsplit, hnewer⟩ := List.find?_eq_some_iff_append.mp hlast
  have hcamera : p.cameraId = k.cameraId ∧ p.faceId = k.faceId := by simpa using hp
  rw [hsplit] at hq
  rcases List.mem_append.mp hq with hq | hq
  · have hnot := hnewer q hq
    simp [hcam, hface] at hnot
  · rcases List.mem_cons.mp hq with rfl | hq
    · exact hrun
    · have hsub : (p :: older).Sublist s.delivered := by
        refine List.Sublist.trans ?_ h.sublist
        rw [hsplit]
        exact List.sublist_append_right newer _
      obtain ⟨later, earlier, hdelivered, hmem, holder⟩ := List.cons_sublist_iff.mp hsub
      obtain ⟨before, after, rfl⟩ := List.append_of_mem hmem
      refine hturn before p (after ++ earlier) ?_ hcamera.1 hrun q ?_ hcam
      · rw [hdelivered, List.append_assoc]
        rfl
      · exact List.mem_append_right _ (holder.subset hq)

theorem suppressed_iff_near (he : knownCooldown.enabled s k) (h : s.Logged) :
    s.Suppressed k ↔ ∃ p ∈ s.last k, s.Near p k :=
  (suppressed_iff he).trans (coolingDown_iff h)

/-- On its own clock, a transition is near the last event exactly if an event is recent. -/
theorem near_iff_recent (he : knownCooldown.enabled s k) (h : s.Logged) (hclock : s.SameClock k) :
    (∃ p ∈ s.last k, s.Near p k) ↔ s.Recent k := by
  cases hlast : s.last k with
  | none =>
      refine iff_of_false ?_ ?_
      · rintro ⟨p, hp, -⟩
        cases hp
      · rintro ⟨q, hq, hcam, hface, -⟩
        have hnot := List.find?_eq_none.mp hlast q hq
        simp [hcam, hface] at hnot
  | some p =>
      have hnear : (∃ q ∈ some p, s.Near q k) ↔ s.Near p k := by simp
      rw [hnear]
      rcases hclock p hlast with hrun | ⟨hfar, hnone⟩
      · exact (recent_iff_of_same he h hlast hrun).symm
      · refine iff_of_false hfar ?_
        rintro ⟨q, hq, hcam, hface, hrun, -⟩
        exact hnone q hq hcam hface hrun

/-- The law holds of a transition with its own clock and key. -/
theorem law_of_clear (he : knownCooldown.enabled s k) (h : s.Logged) (hclear : s.Clear k) :
    s.Law k := by
  obtain ⟨hclock, hunused⟩ := hclear
  have hrecent := near_iff_recent he h hclock
  have hsup := (suppressed_iff_near he h).trans hrecent
  refine ⟨hsup, fun hr => events_of_suppressed he (hsup.mpr hr), fun hr => ?_⟩
  obtain ⟨row, hevent, hinsert⟩ := stores_of_not_suppressed he (mt hsup.mp hr)
  refine ⟨row, hevent, ?_⟩
  rw [hinsert]
  apply Table.insert_rows
  rcases hunused with hnear | hkey
  · exact absurd (hrecent.mp hnear) hr
  · rw [hevent.1]
    intro hmem
    obtain ⟨other, hother, hsame⟩ := List.mem_map.mp hmem
    exact hkey other hother hsame

/-- Where the runs of a camera take turns, the law holds of no other transition. -/
theorem clear_of_law (he : knownCooldown.enabled s k) (h : s.Logged) (hturn : s.InTurn k)
    (hlaw : s.Law k) : s.Clear k := by
  have hsup := suppressed_iff_near he h
  constructor
  · intro p hlast
    by_cases hrun : p.runId = k.runId
    · exact .inl hrun
    · have hnone := others_of_inTurn h hturn hlast hrun
      refine .inr ⟨fun hnear => ?_, hnone⟩
      obtain ⟨q, hq, hcam, hface, hqrun, -⟩ := hlaw.1.mp (hsup.mpr ⟨p, hlast, hnear⟩)
      exact hnone q hq hcam hface hqrun
  · by_cases hnear : ∃ p ∈ s.last k, s.Near p k
    · exact .inl hnear
    · refine .inr fun other hother hsame => ?_
      obtain ⟨row, hevent, hrows⟩ := hlaw.2.2 fun hr => hnear (hsup.mp (hlaw.1.mpr hr))
      have hnodup := (s.accept k).events.nodup
      rw [hrows, List.map_append, List.nodup_append] at hnodup
      refine hnodup.2.2 other.once (List.mem_map_of_mem hother) row.once (by simp) ?_
      rw [hsame, hevent.1]

theorem logged_of_clear : knownCooldown.PreservedUnder Clear Logged :=
  fun s k he hclear h => logged_step s k he (law_of_clear he h hclear) h

end CooldownHistory

section Sample

def secondRun : String := "019b0000-0000-7000-8000-000000000009"

/-- A known transition of one face at the camera. -/
def knownTransition (run : String) (tracker lastSeenNs : Nat) : KnownTransition where
  evidence := eventEvidence run tracker 1 lastSeenNs
  decision := eventDecision .known .known 1 (some "face")
  found := ⟨⟨"face", "face", 1⟩, "face", 1⟩
  calls := ⟨none, true, true⟩

def noEvents : CooldownHistory := ⟨eventService, [], []⟩

/-- Two tracks of the face within the cooldown of 30 s, a third one after it, and one of a second
run whose clock is far enough when the face is seen. -/
def twoRuns : List KnownTransition :=
  [knownTransition eventRun 1 0, knownTransition eventRun 2 20000000000,
    knownTransition eventRun 3 40000000000, knownTransition secondRun 1 90000000000]

end Sample

end Mvision.Live
