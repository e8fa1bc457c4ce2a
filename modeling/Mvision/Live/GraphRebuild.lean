import Mvision.Live.Lifecycle

/-!
# Graph rebuilds: watchdog, rebuild loop and streaming thread

`LivePipeline::Impl` around a started lifecycle that is not stopped.  Each step
is what one thread does between two points where another can come in: the
watchdog polls and then publishes the request, the loop of `run` wakes up, reads
the attempt and answers, and `on_result_buffer` reads the state, hands over the
frame and resets the attempt.
-/

namespace Mvision.Live

open Mvision.Library

/-- Where the loop of `LivePipeline::Impl::run` is. -/
inductive RebuildPhase where
  /-- playing, or waiting for a request -/
  | waiting
  /-- has taken the request and closes the graph -/
  | closing
  /-- rebuilds, with the attempt it has read -/
  | rebuilding
deriving DecidableEq, Repr

/-- The requests that the loop has taken and not answered. -/
def RebuildPhase.requests : RebuildPhase → Nat
  | .waiting => 0
  | .closing | .rebuilding => 1

/-- Where `on_result_buffer` is with its frame. -/
inductive StreamPhase where
  | idle
  /-- has read the state before the frame -/
  | observed (previous : LiveRuntimeState)
  /-- about to reset the attempt -/
  | recovered
deriving DecidableEq, Repr

structure GraphRebuild where
  lifecycle : LiveLifecycle
  /-- the watchdog was told to rebuild, and has not published it -/
  publishing : Bool
  rebuildRequested : Bool
  rebuildAttempt : UInt32
  loop : RebuildPhase
  stream : StreamPhase
  firstFrame : Bool
  /-- history: the attempts that `min(attempt - 1, 3)` was computed for -/
  attempts : List UInt32
deriving DecidableEq

namespace GraphRebuild

/-- After `lifecycle->start()` at `now`. -/
def begun (now : UInt64) : GraphRebuild where
  lifecycle := LiveLifecycle.start {} now
  publishing := false
  rebuildRequested := false
  rebuildAttempt := 0
  loop := .waiting
  stream := .idle
  firstFrame := false
  attempts := []

end GraphRebuild

inductive RebuildStep where
  | poll (now : UInt64)
  | publish
  | wake
  | load
  | answer (now : UInt64) (success : Bool)
  | observe
  | frame (now : UInt64)
  | reset
deriving DecidableEq

def graphRebuild (options : LiveLifecycleOptions) : Machine GraphRebuild RebuildStep where
  init s := ∃ now, s = GraphRebuild.begun now
  enabled s
    | .poll _ => s.publishing = false
    | .publish => s.publishing = true
    | .wake => s.loop = .waiting ∧ s.rebuildRequested = true
    | .load => s.loop = .closing
    | .answer _ _ => s.loop = .rebuilding
    | .observe => s.stream = .idle
    | .frame _ => ∃ previous, s.stream = .observed previous
    | .reset => s.stream = .recovered
  next s
    | .poll now =>
        { s with
          lifecycle := (s.lifecycle.poll options now).2
          publishing := decide ((s.lifecycle.poll options now).1 = .rebuildGraph) }
    | .publish =>
        { s with
          publishing := false
          rebuildRequested := true
          rebuildAttempt := s.rebuildAttempt + 1 }
    | .wake => { s with rebuildRequested := false, loop := .closing }
    | .load => { s with loop := .rebuilding, attempts := s.attempts ++ [s.rebuildAttempt] }
    | .answer now success =>
        { s with
          lifecycle := s.lifecycle.onGraphRebuildResult options now success
          loop := .waiting }
    | .observe => { s with stream := .observed s.lifecycle.state }
    | .frame now =>
        { s with
          lifecycle := s.lifecycle.onFrame now
          stream :=
            if s.firstFrame ∧ s.stream = .observed .reconnecting then .recovered else .idle
          firstFrame := true }
    | .reset => { s with rebuildAttempt := 0, stream := .idle }

instance (options : LiveLifecycleOptions) (s : GraphRebuild) (step : RebuildStep) :
    Decidable ((graphRebuild options).enabled s step) :=
  match step with
  | .poll _ | .publish | .load | .answer _ _ | .observe | .reset =>
      inferInstanceAs (Decidable (_ = _))
  | .wake => inferInstanceAs (Decidable (_ ∧ _))
  | .frame _ =>
      match h : s.stream with
      | .observed previous => isTrue ⟨previous, h⟩
      | .idle => isFalse (by rintro ⟨p, hp⟩; rw [h] at hp; cases hp)
      | .recovered => isFalse (by rintro ⟨p, hp⟩; rw [h] at hp; cases hp)

namespace GraphRebuild

/-- The lifecycle fails for nothing but an exhausted recovery, and the backoff is computed
for an attempt that was made. -/
def Harmless (s : GraphRebuild) : Prop :=
  (∀ code message, LifecycleNotice.failure code message ∈ s.lifecycle.notices →
    LifecycleNotice.failure code message = exhaustedNotice) ∧
  ∀ attempt ∈ s.attempts, 1 ≤ attempt

/-- No frame comes in while a rebuild result is awaited, no frame resets an attempt that is
published and not read, and the counter of the attempts does not wrap. -/
def Orderly (s : GraphRebuild) : RebuildStep → Prop
  | .frame _ => s.lifecycle.awaitingRebuildResult = false
  | .reset => s.rebuildRequested = false ∧ s.loop ≠ .closing
  | .publish => s.rebuildAttempt + 1 ≠ 0
  | _ => True

instance (s : GraphRebuild) (step : RebuildStep) : Decidable (s.Orderly step) :=
  match step with
  | .frame _ => inferInstanceAs (Decidable (_ = _))
  | .reset => inferInstanceAs (Decidable (_ ∧ _))
  | .publish => inferInstanceAs (Decidable (_ ≠ _))
  | .poll _ | .wake | .load | .answer _ _ | .observe => inferInstanceAs (Decidable True)

/-! ## The invariant -/

/-- The requests for a rebuild, over the places where one can be. -/
def requests (s : GraphRebuild) : Nat :=
  s.publishing.toNat + s.rebuildRequested.toNat + s.loop.requests

/-- A rebuild result is awaited exactly while its request is on the way. -/
structure Awaited (s : GraphRebuild) : Prop where
  started : s.lifecycle.started = true
  running : s.lifecycle.state ≠ .stopping ∧ s.lifecycle.state ≠ .stopped
  requests : s.requests = s.lifecycle.awaitingRebuildResult.toNat
  reconnecting : s.lifecycle.awaitingRebuildResult = true → s.lifecycle.state = .reconnecting
  counted : s.rebuildRequested = true ∨ s.loop = .closing → s.rebuildAttempt ≠ 0
  harmless : s.Harmless

theorem awaited_begun (now : UInt64) : Awaited (begun now) where
  started := rfl
  running := ⟨nofun, nofun⟩
  requests := rfl
  reconnecting h := by cases h
  counted h := by rcases h with h | h <;> cases h
  harmless := by
    constructor
    · intro code message h
      simp [begun, LiveLifecycle.start, LiveLifecycle.transition] at h
    · intro attempt h
      cases h

/-- The lifecycle has told of no other failure. -/
def OnlyExhausted (lifecycle : LiveLifecycle) : Prop :=
  ∀ code message, LifecycleNotice.failure code message ∈ lifecycle.notices →
    LifecycleNotice.failure code message = exhaustedNotice

theorem onlyExhausted_transition {lifecycle : LiveLifecycle} (h : OnlyExhausted lifecycle)
    (next : LiveRuntimeState) : OnlyExhausted (lifecycle.transition next) := by
  intro code message hm
  rcases List.mem_append.mp hm with hm | hm
  · exact h code message hm
  · cases List.mem_singleton.mp hm

theorem onlyExhausted_append {notices : List LifecycleNotice}
    (h : ∀ code message, LifecycleNotice.failure code message ∈ notices →
      LifecycleNotice.failure code message = exhaustedNotice) :
    ∀ code message, LifecycleNotice.failure code message ∈
        notices ++ [.state .failed, exhaustedNotice] →
      LifecycleNotice.failure code message = exhaustedNotice := by
  intro code message hm
  rcases List.mem_append.mp hm with hm | hm
  · exact h code message hm
  · simpa using hm

variable {options : LiveLifecycleOptions}

theorem awaited_poll {s : GraphRebuild} (he : s.publishing = false) (h : Awaited s)
    (now : UInt64) : Awaited ((graphRebuild options).next s (.poll now)) := by
  simp only [graphRebuild]
  rcases s.lifecycle.poll_cases options now with hp | ⟨-, hst, hp⟩ | ⟨-, hst, ha, hp⟩
  · simp only [hp]
    exact { h with requests := by simpa [GraphRebuild.requests, he] using h.requests }
  · have ha : s.lifecycle.awaitingRebuildResult = false := by
      by_contra ha
      have hr := h.reconnecting (by simpa using ha)
      rw [hr] at hst
      simp at hst
    simp only [hp]
    refine ⟨h.started, by simp [LiveLifecycle.transition], ?_, fun _ => rfl, h.counted,
      onlyExhausted_transition h.harmless.1 _, h.harmless.2⟩
    simpa [GraphRebuild.requests, he, LiveLifecycle.transition] using h.requests
  · simp only [hp]
    refine ⟨h.started, h.running, ?_, fun _ => hst, h.counted, h.harmless⟩
    have hq := h.requests
    simp only [GraphRebuild.requests, he, ha, Bool.toNat_false] at hq
    simp only [GraphRebuild.requests, decide_true, Bool.toNat_true]
    omega

/-- The request is in one place only. -/
theorem Awaited.one {s : GraphRebuild} (h : Awaited s) : s.requests ≤ 1 := by
  rw [h.requests]
  exact Bool.toNat_le s.lifecycle.awaitingRebuildResult

theorem one_le_of_ne_zero {attempt : UInt32} (h : attempt ≠ 0) : 1 ≤ attempt := by
  apply UInt32.le_iff_toNat_le.mpr
  apply Nat.one_le_iff_ne_zero.mpr
  intro h0
  exact h (UInt32.toNat_inj.mp h0)

theorem awaited_answer {s : GraphRebuild} (he : s.loop = .rebuilding) (h : Awaited s)
    (now : UInt64) (success : Bool) :
    Awaited ((graphRebuild options).next s (.answer now success)) := by
  have hq := h.requests
  have hone := h.one
  simp only [GraphRebuild.requests, he, RebuildPhase.requests] at hq hone
  have ha : s.lifecycle.awaitingRebuildResult = true := by
    by_contra ha
    rw [Bool.not_eq_true] at ha
    rw [ha, Bool.toNat_false] at hq
    omega
  have hrest : s.publishing.toNat + s.rebuildRequested.toNat = 0 := by omega
  have hst := h.reconnecting ha
  have hnext : s.publishing.toNat + s.rebuildRequested.toNat + RebuildPhase.waiting.requests =
      0 := hrest
  have hcounted : s.rebuildRequested = true ∨ RebuildPhase.waiting = .closing →
      s.rebuildAttempt ≠ 0 := by
    rintro (hr | hr)
    · exact h.counted (.inl hr)
    · cases hr
  rcases LiveLifecycle.onGraphRebuildResult_cases hst ha options now success with
    ⟨-, hr⟩ | ⟨-, -, -, hr⟩ | ⟨-, -, -, hr⟩
  · simp only [graphRebuild, hr]
    exact ⟨h.started, h.running, hnext, nofun, hcounted, h.harmless⟩
  · simp only [graphRebuild, hr]
    exact ⟨h.started, h.running, hnext, nofun, hcounted, h.harmless⟩
  · simp only [graphRebuild, hr]
    refine ⟨h.started, ⟨nofun, nofun⟩, hnext, nofun, hcounted, ?_, h.harmless.2⟩
    exact onlyExhausted_append h.harmless.1

theorem awaited_frame {s : GraphRebuild} (hc : s.lifecycle.awaitingRebuildResult = false)
    (h : Awaited s) (now : UInt64) : Awaited ((graphRebuild options).next s (.frame now)) := by
  have hq := h.requests
  rw [hc] at hq
  rcases LiveLifecycle.onFrame_cases h.started now with
    ⟨-, hf⟩ | ⟨hst, hf⟩ | ⟨hst, -⟩ | ⟨-, hf⟩
  · simp only [graphRebuild, hf]
    refine ⟨h.started, by simp [LiveLifecycle.transition], hq, ?_, h.counted, ?_⟩
    · intro ha
      cases ha
    · exact ⟨onlyExhausted_transition h.harmless.1 _, h.harmless.2⟩
  · simp only [graphRebuild, hf]
    exact { h with }
  · exact absurd hst h.running.1
  · simp only [graphRebuild, hf]
    exact { h with }

theorem awaited_step : (graphRebuild options).PreservedUnder Orderly Awaited := by
  intro s step he hc h
  have hq := h.requests
  have hone := h.one
  cases step with
  | poll now => exact awaited_poll he h now
  | publish =>
      have hp : s.publishing = true := he
      simp only [GraphRebuild.requests, hp, Bool.toNat_true] at hq hone
      have hr : s.rebuildRequested = false := Bool.toNat_eq_zero.mp (by omega)
      refine { h with requests := ?_, counted := fun _ => hc }
      simpa [GraphRebuild.requests, graphRebuild, hr] using hq
  | wake =>
      obtain ⟨hl, hr⟩ := he
      refine { h with requests := ?_, counted := fun _ => h.counted (.inl hr) }
      simpa [GraphRebuild.requests, graphRebuild, hl, hr, RebuildPhase.requests] using hq
  | load =>
      have hl : s.loop = .closing := he
      have hcount : s.rebuildAttempt ≠ 0 := h.counted (.inr hl)
      refine { h with requests := ?_, counted := fun _ => hcount, harmless := ?_ }
      · simpa [GraphRebuild.requests, graphRebuild, hl, RebuildPhase.requests] using hq
      · refine ⟨h.harmless.1, fun attempt hm => ?_⟩
        rcases List.mem_append.mp hm with hm | hm
        · exact h.harmless.2 attempt hm
        · rw [List.mem_singleton.mp hm]
          exact one_le_of_ne_zero hcount
  | answer now success => exact awaited_answer he h now success
  | observe => exact { h with }
  | frame now => exact awaited_frame hc h now
  | reset =>
      obtain ⟨hr, hl⟩ := hc
      refine { h with counted := ?_ }
      rintro (hrequested | hclosing)
      · rw [show s.rebuildRequested = true from hrequested] at hr
        cases hr
      · exact absurd hclosing hl

end GraphRebuild

/-- Runs in which no frame comes in between a rebuild request and its answer, and no reset
between the attempt and its reading, fail for nothing but an exhausted recovery, and back off
for a counted attempt. -/
theorem rebuild_harmless (options : LiveLifecycleOptions) (begun : UInt64)
    (steps : List RebuildStep)
    (hv : (graphRebuild options).Valid (GraphRebuild.begun begun) steps)
    (hc : (graphRebuild options).Meets GraphRebuild.Orderly (GraphRebuild.begun begun) steps) :
    (graphRebuild options).Always GraphRebuild.Harmless (GraphRebuild.begun begun) steps := by
  have hall := GraphRebuild.awaited_step.always hv hc (GraphRebuild.awaited_begun begun)
  exact hall.imp fun s h => h.harmless

/-- Two attempts, a frame within 100 ns, recovery within 200 ns. -/
def rebuildOptions : LiveLifecycleOptions := ⟨100, 200, 2, by decide, by decide, by decide⟩

/-- The attempt is reset for a frame from before the rebuild when the loop has read it, and the
next frame comes after the result. -/
def orderlyRebuild : List RebuildStep :=
  [.observe, .frame 10, .poll 120, .observe, .frame 130, .poll 240, .poll 445, .publish, .wake,
    .load, .reset, .answer 450 true, .observe, .frame 460]

theorem rebuild_harmless_orderly :
    ((graphRebuild rebuildOptions).run (GraphRebuild.begun 0) orderlyRebuild).attempts = [1] ∧
      (graphRebuild rebuildOptions).Always GraphRebuild.Harmless (GraphRebuild.begun 0)
        orderlyRebuild :=
  ⟨by decide, rebuild_harmless rebuildOptions 0 orderlyRebuild (by decide) (by decide)⟩

/-- A rebuild whose result comes after the frame that recovered the stream. -/
def lateResult : List RebuildStep :=
  [.poll 101, .poll 302, .publish, .wake, .load, .observe, .frame 305, .answer 310 true]

theorem late_result_fails :
    ¬ ∀ steps, (graphRebuild rebuildOptions).Valid (GraphRebuild.begun 0) steps →
      (graphRebuild rebuildOptions).Always GraphRebuild.Harmless (GraphRebuild.begun 0) steps := by
  intro h
  have hlast := (h lateResult (by decide)).last.1 "LIVE_PIPELINE_STATE_ERROR"
    "invalid live pipeline transition" (by decide)
  revert hlast
  decide

end Mvision.Live
