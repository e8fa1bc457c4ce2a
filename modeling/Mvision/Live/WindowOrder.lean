import Mvision.Live.EvidenceQueries

/-!
# The order of the identity window

The window of a track is the last five of the observations that it has accepted, in the order of
their events.  Each event is sorted on its own; where a clock starts again, an event can bring
fewer than five new observations that are older than what the window ends with.
-/

namespace Mvision.Live

open Mvision.Library
open Mvision.Video.Tracking (CanonicalVideoTrack SourceTrackTemplate)

namespace TrackIdentity

/-- `sorted(observations, key=lambda item: item.timestamp_ns)` -/
def inOrder (observations : List LiveObservation) : List LiveObservation :=
  observations.insertionSort fun o p => o.timestampNs ≤ p.timestampNs

/-- The observations of an event that are accepted. -/
def fresh (s : TrackIdentity) (observations : List LiveObservation) : List LiveObservation :=
  firsts (·.timestampNs) s.seenTimestamps (inOrder observations)

/-- An event brings a whole window of new timestamps, or none that is before the one that the
window ends with. -/
def GoesOn (s : TrackIdentity) (observations : List LiveObservation) : Prop :=
  5 ≤ (s.fresh observations).length ∨
    ∀ last ∈ s.observations.getLast?, ∀ observation ∈ s.fresh observations,
      last.timestampNs ≤ observation.timestampNs

instance (s : TrackIdentity) (observations : List LiveObservation) :
    Decidable (s.GoesOn observations) :=
  inferInstanceAs (Decidable (_ ∨ ∀ last ∈ s.observations.getLast?, _))

/-- A window of at most five observations, in order and none of them twice. -/
structure Chronicles (s : TrackIdentity) : Prop where
  length_le : s.observations.length ≤ 5
  distinct : s.observations.Pairwise fun a b => a.timestampNs ≠ b.timestampNs
  ordered : s.observations.Pairwise fun a b => a.timestampNs ≤ b.timestampNs

section Order

variable {s : TrackIdentity} {observations : List LiveObservation}

instance : Std.Total fun a b : LiveObservation => a.timestampNs ≤ b.timestampNs :=
  ⟨fun a b => le_total a.timestampNs b.timestampNs⟩

instance : IsTrans LiveObservation fun a b => a.timestampNs ≤ b.timestampNs :=
  ⟨fun _ _ _ => le_trans⟩

theorem pairwise_fresh (s : TrackIdentity) (observations : List LiveObservation) :
    (s.fresh observations).Pairwise fun a b => a.timestampNs ≤ b.timestampNs :=
  (List.pairwise_insertionSort _ observations).sublist firsts_sublist

/-- The step: a window in order stays so exactly if the event goes on. -/
theorem ordered_accept_iff (hlength : s.observations.length ≤ 5)
    (hordered : s.observations.Pairwise fun a b => a.timestampNs ≤ b.timestampNs) :
    ((s.acceptNewObservations observations).observations.Pairwise
        fun a b => a.timestampNs ≤ b.timestampNs) ↔
      s.GoesOn observations := by
  have hwindow := (foldl_acceptObservation (inOrder observations) s hlength).1
  unfold acceptNewObservations
  unfold inOrder at hwindow
  rw [hwindow]
  exact pairwise_rtake_append_iff hordered (s.pairwise_fresh observations)

theorem SameWindow.trans {t u : TrackIdentity} (h : SameWindow s t) (h' : SameWindow t u) :
    SameWindow s u :=
  ⟨h'.observations.trans h.observations, h'.seen.trans h.seen⟩

/-- What is accepted depends on the window and the timestamps only. -/
theorem SameWindow.foldl {t : TrackIdentity} (h : SameWindow s t) (sorted : List LiveObservation) :
    SameWindow (sorted.foldl acceptObservation s) (sorted.foldl acceptObservation t) := by
  induction sorted generalizing s t with
  | nil => exact h
  | cons observation rest ih =>
      apply ih
      unfold acceptObservation
      rw [h.seen, h.observations]
      split
      · exact h
      · exact ⟨rfl, rfl⟩

end Order

end TrackIdentity

namespace LiveIdentityService

open TrackIdentity

/-! ## The stream of a track -/

/-- The observations of some events, each event in the order of its timestamps. -/
def stream (windows : List Window) : List LiveObservation :=
  windows.flatMap fun w => inOrder w.event.observations

/-- What a track has accepted of them. -/
def accepted (windows : List Window) : List LiveObservation :=
  firsts (·.timestampNs) [] (stream windows)

section Run

variable {service : LiveIdentityService} {key : TrackKey} {windows : List Window} {w : Window}

/-- The window of a new track is the end of what it has accepted. -/
theorem window_eq (hnew : service.tracks key = none) (before : List Window)
    (hkey : ∀ w ∈ before, w.event.identityKey = key) :
    ((service.after before).track key).observations = (accepted before).rtake 5 := by
  have hrun : SameWindow ((stream before).foldl acceptObservation {})
      ((service.after before).track key) := by
    induction before using List.reverseRecOn with
    | nil =>
        show SameWindow {} ((service.tracks key).getD {})
        rw [hnew]
        exact ⟨rfl, rfl⟩
    | append_singleton before w ih =>
        rw [List.forall_mem_append, List.forall_mem_singleton] at hkey
        have hstep := sameWindow_track (service.after before) hkey.2
        -- what the voter does with an event leaves the window as it is
        have hstream : stream (before ++ [w]) =
            stream before ++ inOrder w.event.observations := by
          unfold stream
          rw [List.flatMap_append, List.flatMap_singleton]
        rw [after_append, hstream, List.foldl_append]
        exact ((ih hkey.1).foldl _).trans hstep
  rw [hrun.observations, (foldl_acceptObservation (stream before) {} (Nat.zero_le 5)).1]
  rfl

theorem offered_window_eq (hnew : service.tracks key = none) {before : List Window}
    (hkey : ∀ w ∈ before, w.event.identityKey = key) (hw : w.event.identityKey = key) :
    (((service.after before).track key).acceptNewObservations w.event.observations).observations =
      (accepted (before ++ [w])).rtake 5 := by
  have hall : ∀ v ∈ before ++ [w], v.event.identityKey = key := by
    rw [List.forall_mem_append, List.forall_mem_singleton]
    exact ⟨hkey, hw⟩
  rw [← window_eq hnew (before ++ [w]) hall, after_append,
    (sameWindow_track (service.after before) hw).observations]

/-- What the call for an event is to leave and to hand to the voter: a window in order, a track
with a beginning before its end, and templates that are accepted observations, each counted
once. -/
structure Holds (service : LiveIdentityService) (sqrt : ℚ → ℚ) (key : TrackKey)
    (before : List Window) (w : Window) : Prop where
  window : ((service.after (before ++ [w])).track key).Chronicles
  times : ∀ track ∈ (service.after before).question sqrt w.event,
    track.firstSeen ≤ track.lastSeen ∧ 0 ≤ track.totalDuration
  counted : ∀ track ∈ (service.after before).question sqrt w.event,
    ∃ counted : List LiveObservation, counted.Sublist (accepted (before ++ [w])) ∧
      counted.Nodup ∧ track.sourceTemplates = counted.map fun observation =>
        ⟨observation.embedding, 1, observation.detectorConfidence⟩

/-- No two observations that a track has accepted have one timestamp. -/
theorem distinct_accepted (windows : List Window) :
    (accepted windows).Pairwise fun a b => a.timestampNs ≠ b.timestampNs :=
  pairwise_firsts

theorem head_le_getLast {observations : List LiveObservation}
    (h : observations.Pairwise fun a b => a.timestampNs ≤ b.timestampNs)
    (hne : observations ≠ []) :
    (observations.head hne).timestampNs ≤ (observations.getLast hne).timestampNs := by
  cases observations with
  | nil => exact absurd rfl hne
  | cons first rest =>
      rcases List.mem_cons.mp (List.getLast_mem hne) with hsame | hrest
      · rw [hsame, List.head_cons]
      · exact (List.pairwise_cons.mp h).1 _ hrest

/-- Only the order of the window is in question; all else holds of every call. -/
theorem holds_iff (hnew : service.tracks key = none) (sqrt : ℚ → ℚ) {before : List Window}
    (hkey : ∀ w ∈ before, w.event.identityKey = key) (hw : w.event.identityKey = key) :
    Holds service sqrt key before w ↔
      (((service.after before).track key).acceptNewObservations
          w.event.observations).observations.Pairwise fun a b => a.timestampNs ≤ b.timestampNs := by
  have hend := offered_window_eq hnew hkey hw
  have hafter : ((service.after (before ++ [w])).track key).observations =
      (((service.after before).track key).acceptNewObservations
        w.event.observations).observations := by
    rw [after_append, (sameWindow_track (service.after before) hw).observations]
  constructor
  · intro h
    rw [← hafter]
    exact h.window.ordered
  · intro hordered
    have hsublist : ((accepted (before ++ [w])).rtake 5).Sublist (accepted (before ++ [w])) :=
      List.drop_sublist _ _
    have hdistinct := (distinct_accepted (before ++ [w])).sublist hsublist
    refine ⟨⟨?_, ?_, hafter ▸ hordered⟩, ?_, ?_⟩
    · rw [hafter, hend, List.rtake, List.length_drop]
      omega
    · rw [hafter, hend]
      exact hdistinct
    · intro track htrack
      unfold question at htrack
      rw [hw] at htrack
      dsimp only at htrack
      split at htrack
      · rename_i hne
        obtain rfl := Option.some.inj htrack
        have hle : seconds (List.head _ hne).timestampNs ≤
            seconds (List.getLast _ hne).timestampNs := by
          unfold seconds
          have := head_le_getLast hordered hne
          gcongr
        exact ⟨hle, sub_nonneg.mpr hle⟩
      · cases htrack
    · intro track htrack
      unfold question at htrack
      rw [hw] at htrack
      dsimp only at htrack
      split at htrack
      · obtain rfl := Option.some.inj htrack
        refine ⟨_, hsublist, hdistinct.imp fun hne heq => hne (congrArg _ heq), ?_⟩
        rw [← hend]
        rfl
      · cases htrack

/-- The window of a new track holds the latest observations in order, after every event, exactly if
every event goes on after the window. -/
theorem window_holds_iff (service : LiveIdentityService) (sqrt : ℚ → ℚ) (key : TrackKey)
    (windows : List Window) (hnew : service.tracks key = none)
    (hkey : ∀ w ∈ windows, w.event.identityKey = key) :
    (∀ before w after, windows = before ++ w :: after → Holds service sqrt key before w) ↔
      ∀ before w after, windows = before ++ w :: after →
        ((service.after before).track key).GoesOn w.event.observations := by
  have hkeys {before : List Window} {w : Window} {after : List Window}
      (hsplit : windows = before ++ w :: after) :
      (∀ v ∈ before, v.event.identityKey = key) ∧ w.event.identityKey = key := by
    rw [hsplit, List.forall_mem_append, List.forall_mem_cons] at hkey
    exact ⟨hkey.1, hkey.2.1⟩
  have hlength {before : List Window} (hbefore : ∀ v ∈ before, v.event.identityKey = key) :
      ((service.after before).track key).observations.length ≤ 5 :=
    (offered_after hnew before hbefore).length_le
  have hnone : ((service.after []).track key).observations = [] := by
    show ((service.tracks key).getD {}).observations = []
    rw [hnew]
    rfl
  constructor
  · intro hholds before w after hsplit
    obtain ⟨hbefore, hw⟩ := hkeys hsplit
    have hordered : ((service.after before).track key).observations.Pairwise
        fun a b => a.timestampNs ≤ b.timestampNs := by
      -- the window before this event is the one after the event before it
      rcases List.eq_nil_or_concat before with rfl | ⟨earlier, v, rfl⟩
      · rw [hnone]
        exact .nil
      · rw [List.concat_eq_append] at hsplit ⊢
        exact (hholds earlier v (w :: after) (by rw [hsplit, List.append_assoc]; rfl)).window.ordered
    exact (ordered_accept_iff (hlength hbefore) hordered).mp
      ((holds_iff hnew sqrt hbefore hw).mp (hholds before w after hsplit))
  · intro hgoesOn before
    -- on the events before it: the window they leave is in order
    induction before using List.reverseRecOn with
    | nil =>
        intro w after hsplit
        obtain ⟨hbefore, hw⟩ := hkeys hsplit
        rw [holds_iff hnew sqrt hbefore hw, ordered_accept_iff (hlength hbefore) (hnone ▸ .nil)]
        exact hgoesOn [] w after hsplit
    | append_singleton earlier v ih =>
        intro w after hsplit
        obtain ⟨hbefore, hw⟩ := hkeys hsplit
        have hearlier := ih v (w :: after) (by rw [hsplit, List.append_assoc]; rfl)
        rw [holds_iff hnew sqrt hbefore hw,
          ordered_accept_iff (hlength hbefore) hearlier.window.ordered]
        exact hgoesOn (earlier ++ [v]) w after hsplit

end Run

end LiveIdentityService

/-! ## A clock that starts again -/

/-- An observation at a time. -/
def observationAt (timestampNs : Nat) : LiveObservation :=
  { loudObservation with timestampNs, embedding := List.replicate 511 0 ++ [1] }

def eventAt (times : List Nat) : TrackEvidenceEvent :=
  { loudEvent with observations := times.map observationAt }

/-- Five observations, and five after the clock has started again: four of these have timestamps
that the track has seen. -/
def restarted : List Window :=
  [⟨eventAt [100, 200, 300, 400, 500], none, none⟩, ⟨eventAt [50, 100, 200, 300, 400], none, none⟩]

/-- The voter is handed a track that ends before it begins. -/
theorem restarted_clock_reverses :
    ¬ ∀ (service : LiveIdentityService) (sqrt : ℚ → ℚ) (key : TrackKey) (windows : List Window),
      service.tracks key = none → (∀ w ∈ windows, w.event.identityKey = key) →
        ∀ before w after, windows = before ++ w :: after →
          LiveIdentityService.Holds service sqrt key before w := by
  intro h
  have hholds := h noTracks rationalSqrt loudEvent.identityKey restarted rfl (by decide)
    [⟨eventAt [100, 200, 300, 400, 500], none, none⟩]
    ⟨eventAt [50, 100, 200, 300, 400], none, none⟩ [] rfl
  have hreversed : ((noTracks.after [⟨eventAt [100, 200, 300, 400, 500], none, none⟩]).question
      rationalSqrt (eventAt [50, 100, 200, 300, 400])).map
        (fun track => decide (track.firstSeen ≤ track.lastSeen)) = some false := by
    decide +kernel
  obtain ⟨track, htrack, hfalse⟩ := Option.map_eq_some_iff.mp hreversed
  exact of_decide_eq_false hfalse (hholds.times track htrack).1

theorem restarted_holds_iff :
    (∀ before w after, restarted = before ++ w :: after →
        LiveIdentityService.Holds noTracks rationalSqrt loudEvent.identityKey before w) ↔
      ∀ before w after, restarted = before ++ w :: after →
        ((noTracks.after before).track loudEvent.identityKey).GoesOn w.event.observations :=
  LiveIdentityService.window_holds_iff noTracks rationalSqrt loudEvent.identityKey restarted rfl
    (by decide)

end Mvision.Live
