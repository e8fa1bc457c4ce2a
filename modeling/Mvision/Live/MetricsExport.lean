import Mathlib.Algebra.GroupWithZero.Nat
import Mathlib.Data.List.Sublists
import Mathlib.Logic.Function.Basic
import Mvision.Library.Rises

/-!
# The exported metrics of the live worker

The native worker sends its cumulative counters, and on the same channel the
events `stale_assignments` and `rejected_commands`, which carry none of them.
`_persist_metrics` of `live_supervisor.py` adds to the exported counters what
each event has risen over the event before it, and reads an absent counter as 0.
-/

namespace Mvision.Live

open Mvision.Library

/-! ## The native side -/

/-- The counters of `live_pipeline.hpp` that a metrics event carries. -/
structure LivePipelineCounters where
  decodedFrames : UInt64
  trackedObjects : UInt64
  eligibleObjectCount : UInt64
  embeddingCount : UInt64
  missingEmbeddingCount : UInt64
  embeddingCosineSamples : UInt64
deriving DecidableEq, Repr

/-- The metrics events of `live_worker_main.cpp`. -/
inductive NativeMetrics where
  | pipeline (counters : LivePipelineCounters) (droppedEvents : UInt64)
  | staleAssignments
  | rejectedCommands
deriving DecidableEq, Repr

namespace NativeMetrics

/-- The dictionary that the event carries. -/
def counters : NativeMetrics → List (String × Nat)
  | .pipeline counters droppedEvents =>
      [("decoded_frames", counters.decodedFrames.toNat),
        ("tracked_objects", counters.trackedObjects.toNat),
        ("eligible_objects", counters.eligibleObjectCount.toNat),
        ("embedding_count", counters.embeddingCount.toNat),
        ("missing_embeddings", counters.missingEmbeddingCount.toNat),
        ("embedding_cosine_samples", counters.embeddingCosineSamples.toNat),
        ("dropped_events", droppedEvents.toNat)]
  | .staleAssignments => [("stale_assignments", 1)]
  | .rejectedCommands => [("rejected_commands", 1)]

/-- What a reader finds under `source`, 0 where the event does not carry it. -/
def value (source : String) (event : NativeMetrics) : Nat :=
  (event.counters.lookup source).getD 0

def isPipeline : NativeMetrics → Bool
  | .pipeline _ _ => true
  | _ => false

end NativeMetrics

/-! ## The supervisor -/

/-- A call of `MvisionMetrics.increment`. -/
structure Increment where
  /-- history: the run whose event made the call -/
  runId : String
  key : String
  amount : Nat
  labels : List (String × String)
deriving DecidableEq, Repr

/-- What `_persist_metrics` keeps: `_metric_counters` and the calls it made. -/
structure MetricsExport where
  metricCounters : String × String → Option Nat := fun _ => none
  increments : List Increment := []

/-- A native counter, the exported counter it feeds and its labels. -/
structure ExportedCounter where
  source : String
  target : String
  labels : List (String × String) := []
deriving DecidableEq, Repr

/-- The pairs of the loop of `_persist_metrics`. -/
def loopCounters : List ExportedCounter :=
  [{ source := "decoded_frames", target := "frames_total" },
    { source := "tracked_objects", target := "tracked_objects_total" },
    { source := "eligible_objects", target := "eligible_objects_total" },
    { source := "embedding_count", target := "embeddings_total" },
    { source := "missing_embeddings", target := "missing_embeddings_total" },
    { source := "embedding_cosine_samples", target := "embedding_cosine_samples_total" }]

def droppedCounter : ExportedCounter where
  source := "dropped_events"
  target := "protocol_dropped_total"
  labels := [("type", "track_evidence")]

def exportedCounters : List ExportedCounter := loopCounters ++ [droppedCounter]

namespace MetricsExport

/-- `self._metric_counters.get(key, 0)`. -/
def previous (s : MetricsExport) (runId source : String) : Nat :=
  (s.metricCounters (runId, source)).getD 0

/-- The body of the loop, which `dropped_events` repeats after it. -/
def exportCounter (runId : String) (counters : List (String × Nat)) (s : MetricsExport)
    (counter : ExportedCounter) : MetricsExport :=
  let current := (counters.lookup counter.source).getD 0
  let previous := s.previous runId counter.source
  { metricCounters := Function.update s.metricCounters (runId, counter.source) (some current)
    increments :=
      if previous ≤ current then
        s.increments ++ [⟨runId, counter.target, current - previous, counter.labels⟩]
      else s.increments }

/-- `_persist_metrics` of a supervisor that has metrics, before it writes the row of the run. -/
def persistMetrics (s : MetricsExport) (runId : String) (counters : List (String × Nat)) :
    MetricsExport :=
  exportCounter runId counters (loopCounters.foldl (exportCounter runId counters) s)
    droppedCounter

/-- The events of all runs, in the order in which they are persisted. -/
def exportAll (log : List (String × NativeMetrics)) : MetricsExport :=
  log.foldl (fun s entry => s.persistMetrics entry.1 entry.2.counters) {}

/-- What a run has added to an exported counter. -/
def added (s : MetricsExport) (runId target : String) : Nat :=
  ((s.increments.filter fun call => call.runId = runId ∧ call.key = target).map
    Increment.amount).sum

end MetricsExport

/-! ## The claim's property -/

/-- The events of one run. -/
def eventsOf (runId : String) (log : List (String × NativeMetrics)) : List NativeMetrics :=
  (log.filter fun entry => entry.1 = runId).map Prod.snd

/-- The last pipeline snapshot. -/
def lastPipeline (events : List NativeMetrics) : Option NativeMetrics :=
  events.reverse.find? NativeMetrics.isPipeline

/-- The counters of the snapshots are cumulative. -/
def Cumulative (events : List NativeMetrics) : Prop :=
  (events.filter NativeMetrics.isPipeline).Pairwise fun a b =>
    ∀ counter ∈ exportedCounters, a.value counter.source ≤ b.value counter.source

instance (events : List NativeMetrics) : Decidable (Cumulative events) :=
  inferInstanceAs (Decidable (List.Pairwise _ _))

/-- The run has added to each exported counter the value of its last snapshot. -/
def ExportedExactly (log : List (String × NativeMetrics)) (runId : String) : Prop :=
  ∀ last ∈ lastPipeline (eventsOf runId log), ∀ counter ∈ exportedCounters,
    (MetricsExport.exportAll log).added runId counter.target = last.value counter.source

instance (log : List (String × NativeMetrics)) (runId : String) :
    Decidable (ExportedExactly log runId) :=
  inferInstanceAs (Decidable (∀ last ∈ lastPipeline _, _))

/-- No partial event stands between a snapshot that has counted something and a later one. -/
def Uninterrupted (events : List NativeMetrics) : Prop :=
  ∀ first gap later, [first, gap, later].Sublist events →
    first.isPipeline = true → gap.isPipeline = false → later.isPipeline = true →
      ∀ counter ∈ exportedCounters, first.value counter.source = 0

/-! ## What one event adds -/

theorem exportedCounters_sources_nodup :
    (exportedCounters.map ExportedCounter.source).Nodup := by
  decide

theorem exportedCounters_targets_nodup :
    (exportedCounters.map ExportedCounter.target).Nodup := by
  decide

namespace MetricsExport

variable {s : MetricsExport} {runId : String} {counters : List (String × Nat)}

theorem exportCounter_previous (counter : ExportedCounter) (r source : String) :
    (exportCounter runId counters s counter).previous r source =
      if r = runId ∧ source = counter.source then (counters.lookup source).getD 0
      else s.previous r source := by
  unfold exportCounter previous
  dsimp only
  by_cases h : r = runId ∧ source = counter.source
  · obtain ⟨rfl, rfl⟩ := h
    rw [Function.update_self, Option.getD_some, if_pos ⟨rfl, rfl⟩]
  · have hkey : (r, source) ≠ (runId, counter.source) := by
      intro heq
      exact h (Prod.mk.inj heq)
    rw [Function.update_of_ne hkey, if_neg h]

theorem exportCounter_added (counter : ExportedCounter) (r target : String) :
    (exportCounter runId counters s counter).added r target =
      if r = runId ∧ target = counter.target then
        s.added r target +
          ((counters.lookup counter.source).getD 0 - s.previous runId counter.source)
      else s.added r target := by
  unfold exportCounter added
  dsimp only
  by_cases hrise : s.previous runId counter.source ≤ (counters.lookup counter.source).getD 0
  · rw [if_pos hrise, List.filter_append, List.map_append, List.sum_append]
    by_cases h : r = runId ∧ target = counter.target
    · obtain ⟨rfl, rfl⟩ := h
      simp
    · rw [if_neg h, List.filter_cons_of_neg]
      · simp
      · rw [decide_eq_true_eq]
        rintro ⟨rfl, rfl⟩
        exact h ⟨rfl, rfl⟩
  · rw [if_neg hrise, Nat.sub_eq_zero_of_le (not_le.mp hrise).le, Nat.add_zero, ite_self]

/-- The loop leaves the counters it does not name, and those of other runs. -/
theorem foldl_previous_of_ne {list : List ExportedCounter} {r source : String}
    (h : r = runId → source ∉ list.map ExportedCounter.source) :
    (list.foldl (exportCounter runId counters) s).previous r source = s.previous r source := by
  induction list generalizing s with
  | nil => rfl
  | cons first rest ih =>
      rw [List.foldl_cons, ih fun hr hmem => h hr (List.mem_cons_of_mem _ hmem),
        exportCounter_previous, if_neg]
      rintro ⟨hr, rfl⟩
      exact h hr List.mem_cons_self

theorem foldl_added_of_ne {list : List ExportedCounter} {r target : String}
    (h : r = runId → target ∉ list.map ExportedCounter.target) :
    (list.foldl (exportCounter runId counters) s).added r target = s.added r target := by
  induction list generalizing s with
  | nil => rfl
  | cons first rest ih =>
      rw [List.foldl_cons, ih fun hr hmem => h hr (List.mem_cons_of_mem _ hmem),
        exportCounter_added, if_neg]
      rintro ⟨hr, rfl⟩
      exact h hr List.mem_cons_self

/-- The loop remembers the value of each counter it names, and adds its rise. -/
theorem foldl_exportCounter {list : List ExportedCounter}
    (hsources : (list.map ExportedCounter.source).Nodup)
    (htargets : (list.map ExportedCounter.target).Nodup) {counter : ExportedCounter}
    (hmem : counter ∈ list) :
    (list.foldl (exportCounter runId counters) s).previous runId counter.source =
        (counters.lookup counter.source).getD 0 ∧
      (list.foldl (exportCounter runId counters) s).added runId counter.target =
        s.added runId counter.target +
          ((counters.lookup counter.source).getD 0 - s.previous runId counter.source) := by
  induction list generalizing s with
  | nil => cases hmem
  | cons first rest ih =>
      rw [List.map_cons, List.nodup_cons] at hsources htargets
      rw [List.foldl_cons]
      rcases List.mem_cons.mp hmem with rfl | hrest
      · rw [foldl_previous_of_ne fun _ => hsources.1, foldl_added_of_ne fun _ => htargets.1,
          exportCounter_previous, if_pos ⟨rfl, rfl⟩, exportCounter_added, if_pos ⟨rfl, rfl⟩]
        exact ⟨rfl, rfl⟩
      · have hsource : counter.source ≠ first.source := by
          intro h
          exact hsources.1 (h ▸ List.mem_map_of_mem hrest)
        have htarget : counter.target ≠ first.target := by
          intro h
          exact htargets.1 (h ▸ List.mem_map_of_mem hrest)
        obtain ⟨hprevious, hadded⟩ := @ih (exportCounter runId counters s first)
          hsources.2 htargets.2 hrest
        refine ⟨hprevious, ?_⟩
        rw [hadded, exportCounter_added, if_neg fun h => htarget h.2, exportCounter_previous,
          if_neg fun h => hsource h.2]

theorem persistMetrics_eq :
    s.persistMetrics runId counters =
      exportedCounters.foldl (exportCounter runId counters) s := by
  rw [exportedCounters, List.foldl_append, List.foldl_cons, List.foldl_nil, persistMetrics]

end MetricsExport

/-! ## What a run adds -/

theorem exportAll_append (log : List (String × NativeMetrics)) (entry : String × NativeMetrics) :
    MetricsExport.exportAll (log ++ [entry]) =
      exportedCounters.foldl (MetricsExport.exportCounter entry.1 entry.2.counters)
        (MetricsExport.exportAll log) := by
  rw [MetricsExport.exportAll, List.foldl_append, List.foldl_cons, List.foldl_nil,
    MetricsExport.persistMetrics_eq]
  rfl

/-- Whatever the other runs send, a run adds the rises of its own counters. -/
theorem exportAll_rise (log : List (String × NativeMetrics)) (runId : String)
    {counter : ExportedCounter} (hmem : counter ∈ exportedCounters) :
    (MetricsExport.exportAll log).previous runId counter.source =
        ((eventsOf runId log).map (NativeMetrics.value counter.source)).getLastD 0 ∧
      (MetricsExport.exportAll log).added runId counter.target =
        rise 0 ((eventsOf runId log).map (NativeMetrics.value counter.source)) := by
  induction log using List.reverseRecOn with
  | nil => exact ⟨rfl, rfl⟩
  | append_singleton log entry ih =>
      obtain ⟨hprevious, hadded⟩ := ih
      rw [exportAll_append]
      by_cases hrun : entry.1 = runId
      · have hevents : eventsOf runId (log ++ [entry]) = eventsOf runId log ++ [entry.2] := by
          simp [eventsOf, hrun]
        obtain ⟨hvalue, hrise⟩ := @MetricsExport.foldl_exportCounter
          (MetricsExport.exportAll log) entry.1 entry.2.counters _
          exportedCounters_sources_nodup exportedCounters_targets_nodup counter hmem
        rw [hrun] at hvalue hrise
        rw [hevents, List.map_append, List.map_singleton, rise_append_singleton,
          List.getLastD_concat, ← hprevious, ← hadded, hrun]
        exact ⟨hvalue, hrise⟩
      · have hevents : eventsOf runId (log ++ [entry]) = eventsOf runId log := by
          simp [eventsOf, hrun]
        rw [hevents, MetricsExport.foldl_previous_of_ne fun h => absurd h.symm hrun,
          MetricsExport.foldl_added_of_ne fun h => absurd h.symm hrun]
        exact ⟨hprevious, hadded⟩

/-! ## When the rises are the last snapshot -/

theorem value_of_partial {counter : ExportedCounter} (hmem : counter ∈ exportedCounters)
    {event : NativeMetrics} (h : event.isPipeline = false) : event.value counter.source = 0 := by
  revert counter
  cases event with
  | pipeline counters droppedEvents => cases h
  | staleAssignments => decide
  | rejectedCommands => decide

theorem sublist_of_concat {α : Type*} (before : List α) {list : List α} {last other : α}
    (h : (before ++ [last]).Sublist (list ++ [other])) (hne : last ≠ other) :
    (before ++ [last]).Sublist list := by
  rw [← List.reverse_sublist, List.reverse_append, List.reverse_append] at h
  rw [← List.reverse_sublist, List.reverse_append]
  cases h with
  | cons _ h => exact h
  | cons_cons _ _ => exact absurd rfl hne

theorem mem_lastPipeline_append {events : List NativeMetrics} {event last : NativeMetrics} :
    last ∈ lastPipeline (events ++ [event]) ↔
      if event.isPipeline then last = event else last ∈ lastPipeline events := by
  unfold lastPipeline
  rw [List.reverse_append, List.reverse_singleton, List.singleton_append, List.find?_cons]
  cases event.isPipeline with
  | true => simp [eq_comm]
  | false => simp

section Counter

variable {value : NativeMetrics → Nat}

/-- An uninterrupted sequence that ends with a snapshot never falls. -/
theorem pairwise_le_of_uninterrupted {events : List NativeMetrics} {last : NativeMetrics}
    (hzero : ∀ event : NativeMetrics, event.isPipeline = false → value event = 0)
    (hlast : last.isPipeline = true)
    (hmono : ((events ++ [last]).filter NativeMetrics.isPipeline).Pairwise
      fun a b => value a ≤ value b)
    (h : ∀ first gap later, [first, gap, later].Sublist (events ++ [last]) →
      first.isPipeline = true → gap.isPipeline = false → later.isPipeline = true →
        value first = 0) :
    (events ++ [last]).Pairwise fun a b => value a ≤ value b := by
  rw [List.pairwise_iff_forall_sublist] at hmono ⊢
  intro a b hsub
  cases ha : a.isPipeline with
  | false => exact (hzero a ha).trans_le (Nat.zero_le _)
  | true =>
      cases hb : b.isPipeline with
      | true =>
          have hfilter := hsub.filter NativeMetrics.isPipeline
          rw [List.filter_cons_of_pos ha, List.filter_cons_of_pos hb, List.filter_nil] at hfilter
          exact hmono hfilter
      | false =>
          -- the partial event is not the last one, so the last one is a later snapshot
          have hne : b ≠ last := by
            rintro rfl
            rw [hlast] at hb
            cases hb
          have hinner : [a, b].Sublist events := sublist_of_concat [a] hsub hne
          have hzero_first := h a b last (hinner.append (List.Sublist.refl [last])) ha hb hlast
          exact hzero_first.trans_le (Nat.zero_le _)

theorem rise_eq_lastPipeline_iff {events : List NativeMetrics}
    (hzero : ∀ event : NativeMetrics, event.isPipeline = false → value event = 0)
    (hmono : (events.filter NativeMetrics.isPipeline).Pairwise fun a b => value a ≤ value b)
    {last : NativeMetrics} (hlast : last ∈ lastPipeline events) :
    rise 0 (events.map value) = value last ↔
      ∀ first gap later, [first, gap, later].Sublist events →
        first.isPipeline = true → gap.isPipeline = false → later.isPipeline = true →
          value first = 0 := by
  induction events using List.reverseRecOn with
  | nil => cases hlast
  | append_singleton events event ih =>
      rw [mem_lastPipeline_append] at hlast
      rw [List.map_append, List.map_singleton]
      cases hevent : event.isPipeline with
      | false =>
          rw [hevent, if_neg Bool.false_ne_true] at hlast
          have hmono' : (events.filter NativeMetrics.isPipeline).Pairwise
              fun a b => value a ≤ value b :=
            hmono.sublist ((List.sublist_append_left _ _).filter _)
          rw [rise_append_singleton, hzero event hevent, Nat.zero_sub, Nat.add_zero,
            ih hmono' hlast]
          constructor
          · intro h first gap later hsub hfirst hgap hlater
            have hne : later ≠ event := by
              rintro rfl
              rw [hevent] at hlater
              cases hlater
            exact h first gap later (sublist_of_concat [first, gap] hsub hne)
              hfirst hgap hlater
          · intro h first gap later hsub
            exact h first gap later (hsub.trans (List.sublist_append_left _ _))
      | true =>
          rw [hevent, if_pos rfl] at hlast
          subst hlast
          have hend : (events.map value ++ [value last]).getLastD 0 = value last :=
            List.getLastD_concat
          have hiff := rise_eq_last_iff (events.map value ++ [value last])
          rw [hend, ← List.map_singleton, ← List.map_append, List.pairwise_map] at hiff
          rw [List.map_append, List.map_singleton] at hiff
          rw [hiff]
          constructor
          · intro hpairwise first gap later hsub hfirst hgap hlater
            have hle := List.rel_of_pairwise_cons (hpairwise.sublist hsub)
              (List.mem_cons_self (a := gap))
            rw [hzero gap hgap] at hle
            exact Nat.le_zero.mp hle
          · exact pairwise_le_of_uninterrupted hzero hevent hmono

end Counter

theorem exists_lastPipeline {events : List NativeMetrics} {event : NativeMetrics}
    (hmem : event ∈ events) (h : event.isPipeline = true) : ∃ last, last ∈ lastPipeline events := by
  apply Option.isSome_iff_exists.mp
  rw [lastPipeline, List.find?_isSome]
  exact ⟨event, List.mem_reverse.mpr hmem, h⟩

/-- Whatever the other runs send, what a run has exported is its last snapshot exactly if no
partial event has come between two of its snapshots of which the first had counted something. -/
theorem exportedExactly_iff (log : List (String × NativeMetrics)) (runId : String)
    (hcumulative : Cumulative (eventsOf runId log)) :
    ExportedExactly log runId ↔ Uninterrupted (eventsOf runId log) := by
  have hcounter : ∀ last ∈ lastPipeline (eventsOf runId log), ∀ counter ∈ exportedCounters,
      ((MetricsExport.exportAll log).added runId counter.target = last.value counter.source ↔
        ∀ first gap later, [first, gap, later].Sublist (eventsOf runId log) →
          first.isPipeline = true → gap.isPipeline = false → later.isPipeline = true →
            first.value counter.source = 0) := by
    intro last hlast counter hmem
    rw [(exportAll_rise log runId hmem).2]
    apply rise_eq_lastPipeline_iff
    · intro event hevent
      exact value_of_partial hmem hevent
    · exact hcumulative.imp fun hle => hle counter hmem
    · exact hlast
  constructor
  · intro hexact first gap later hsub hfirst hgap hlater counter hmem
    obtain ⟨last, hlast⟩ := exists_lastPipeline (hsub.subset List.mem_cons_self) hfirst
    exact (hcounter last hlast counter hmem).mp (hexact last hlast counter hmem)
      first gap later hsub hfirst hgap hlater
  · intro huninterrupted last hlast counter hmem
    apply (hcounter last hlast counter hmem).mpr
    intro first gap later hsub hfirst hgap hlater
    exact huninterrupted first gap later hsub hfirst hgap hlater counter hmem

/-- A snapshot of a run that has decoded some frames. -/
def decodedSnapshot (frames : UInt64) : NativeMetrics :=
  .pipeline ⟨frames, 0, 0, 0, 0, 0⟩ 0

/-- A partial event of the run before its snapshots, and one of another run between them. -/
theorem exported_uninterrupted :
    ExportedExactly [("run", .rejectedCommands), ("run", decodedSnapshot 120),
      ("other", .staleAssignments), ("run", decodedSnapshot 240)] "run" :=
  (exportedExactly_iff _ _ (by decide)).mpr (by
    intro first gap later hsub hfirst hgap hlater
    have heq := hsub.eq_of_length rfl
    obtain rfl : first = .rejectedCommands := (List.cons.inj heq).1
    cases hfirst)

/-- One stale assignment between the two snapshots, and the first 120 frames count twice. -/
theorem stale_assignment_counts_twice :
    ¬ ∀ log : List (String × NativeMetrics), ∀ runId,
      Cumulative (eventsOf runId log) → ExportedExactly log runId := by
  intro h
  have hexact := h [("run", decodedSnapshot 120), ("run", .staleAssignments),
    ("run", decodedSnapshot 240)] "run" (by decide)
  exact absurd hexact (by decide)

end Mvision.Live
