import Mvision.Library.Machine
import Mvision.Live.Protocol

/-!
# The lifecycle of a live pipeline: `LiveLifecycle`

Every member function runs under the mutex, so that a run is a list of calls.
`now` is what the clock answers to a call.  What the two sinks have been given
is kept in order in `notices`.
-/

namespace Mvision.Live

open Mvision.Library

inductive LifecycleAction where
  | none
  | rebuildGraph
deriving DecidableEq, Repr

/-- The constructor of `LiveLifecycle` refuses a zero. -/
structure LiveLifecycleOptions where
  frameTimeoutNs : UInt64
  recoveryDeadlineNs : UInt64
  graphRebuildAttempts : UInt32
  frameTimeout_pos : 0 < frameTimeoutNs
  recoveryDeadline_pos : 0 < recoveryDeadlineNs
  graphRebuildAttempts_pos : 0 < graphRebuildAttempts

theorem shortTimeout_pos : (0 : UInt64) < 100 := by decide

theorem shortDeadline_pos : (0 : UInt64) < 200 := by decide

/-- A call of the state sink or of the failure sink. -/
inductive LifecycleNotice where
  | state (state : LiveRuntimeState)
  | failure (code message : String)
deriving DecidableEq, Repr

def invalidTransitionNotice : LifecycleNotice :=
  .failure "LIVE_PIPELINE_STATE_ERROR" "invalid live pipeline transition"

def exhaustedNotice : LifecycleNotice :=
  .failure "LIVE_PIPELINE_ERROR" "live pipeline recovery exhausted"

structure LiveLifecycle where
  state : LiveRuntimeState := .stopped
  lastFrameNs : UInt64 := 0
  reconnectStartedNs : UInt64 := 0
  rebuildAttempts : UInt32 := 0
  started : Bool := false
  awaitingRebuildResult : Bool := false
  failureEmitted : Bool := false
  notices : List LifecycleNotice := []
deriving DecidableEq, Repr

namespace LiveLifecycle

variable (s : LiveLifecycle)

def transition (next : LiveRuntimeState) : LiveLifecycle :=
  { s with
    state := next
    notices := s.notices ++ [.state next] }

/-- `LiveLifecycle::fail`, with the code and the message of a failure notice -/
def fail (notice : LifecycleNotice) : LiveLifecycle :=
  if s.failureEmitted then s
  else
    { s with
      state := .failed
      failureEmitted := true
      notices := s.notices ++ [.state .failed, notice] }

def invalidTransition : LiveLifecycle := s.fail invalidTransitionNotice

def start (now : UInt64) : LiveLifecycle :=
  if s.started then s.invalidTransition
  else { s with started := true, lastFrameNs := now }.transition .starting

def onFrame (now : UInt64) : LiveLifecycle :=
  if !s.started then s.invalidTransition
  else if s.state = .starting ∨ s.state = .reconnecting then
    { s with lastFrameNs := now, awaitingRebuildResult := false }.transition .active
  else if s.state = .active then { s with lastFrameNs := now }
  else if s.state ≠ .failed ∧ s.state ≠ .stopped then s.invalidTransition
  else s

def poll (options : LiveLifecycleOptions) (now : UInt64) : LifecycleAction × LiveLifecycle :=
  if !s.started ∨ s.state = .failed ∨ s.state = .stopped then (.none, s)
  else if (s.state = .starting ∨ s.state = .active) ∧
      now - s.lastFrameNs > options.frameTimeoutNs then
    (.none, { s with reconnectStartedNs := now }.transition .reconnecting)
  else if s.state = .reconnecting ∧ !s.awaitingRebuildResult ∧
      now - s.reconnectStartedNs > options.recoveryDeadlineNs then
    (.rebuildGraph,
      { s with awaitingRebuildResult := true, rebuildAttempts := s.rebuildAttempts + 1 })
  else (.none, s)

def onGraphRebuildResult (options : LiveLifecycleOptions) (now : UInt64) (success : Bool) :
    LiveLifecycle :=
  if s.state ≠ .reconnecting ∨ !s.awaitingRebuildResult then s.invalidTransition
  else
    let s := { s with awaitingRebuildResult := false }
    if success then { s with reconnectStartedNs := now }
    else if s.rebuildAttempts ≥ options.graphRebuildAttempts then s.fail exhaustedNotice
    else { s with reconnectStartedNs := now }

def stop : LiveLifecycle :=
  if !s.started ∨ s.state = .stopped ∨ s.state = .failed then s
  else if s.state = .stopping then s
  else s.transition .stopping

def close : LiveLifecycle :=
  if !s.started ∨ s.state = .stopped ∨ s.state = .failed then s
  else
    let s := if s.state ≠ .stopping then s.transition .stopping else s
    s.transition .stopped

end LiveLifecycle

inductive LifecycleCall where
  | start (now : UInt64)
  | onFrame (now : UInt64)
  | poll (now : UInt64)
  | onGraphRebuildResult (now : UInt64) (success : Bool)
  | stop
  | close
deriving DecidableEq, Repr

namespace LiveLifecycle

def call (options : LiveLifecycleOptions) (s : LiveLifecycle) : LifecycleCall → LiveLifecycle
  | .start now => s.start now
  | .onFrame now => s.onFrame now
  | .poll now => (s.poll options now).2
  | .onGraphRebuildResult now success => s.onGraphRebuildResult options now success
  | .stop => s.stop
  | .close => s.close

end LiveLifecycle

/-! ## What a call can do -/

namespace LiveLifecycle

variable {s : LiveLifecycle}

theorem fail_of_emitted (h : s.failureEmitted = true) (notice : LifecycleNotice) :
    s.fail notice = s := by
  unfold fail
  rw [if_pos h]

theorem fail_of_not_emitted (h : s.failureEmitted = false) (notice : LifecycleNotice) :
    s.fail notice =
      { s with
        state := .failed
        failureEmitted := true
        notices := s.notices ++ [.state .failed, notice] } := by
  unfold fail
  rw [if_neg (by simp [h])]

/-- A poll changes nothing, misses the frames, or asks for a rebuild. -/
theorem poll_cases (s : LiveLifecycle) (options : LiveLifecycleOptions) (now : UInt64) :
    s.poll options now = (.none, s) ∨
    (s.started = true ∧ (s.state = .starting ∨ s.state = .active) ∧
      s.poll options now =
        (.none, { s with reconnectStartedNs := now }.transition .reconnecting)) ∨
    (s.started = true ∧ s.state = .reconnecting ∧ s.awaitingRebuildResult = false ∧
      s.poll options now =
        (.rebuildGraph,
          { s with
            awaitingRebuildResult := true
            rebuildAttempts := s.rebuildAttempts + 1 })) := by
  unfold poll
  split_ifs with hend htimeout hdeadline
  · exact .inl rfl
  · have hs : s.started = true := by
      by_contra h
      exact hend (.inl (by simp [h]))
    exact .inr (.inl ⟨hs, htimeout.1, rfl⟩)
  · have hs : s.started = true := by
      by_contra h
      exact hend (.inl (by simp [h]))
    exact .inr (.inr ⟨hs, hdeadline.1, by simpa using hdeadline.2.1, rfl⟩)
  · exact .inl rfl

/-- A poll asks for a rebuild when the deadline of a recovery has passed. -/
theorem poll_rebuild_iff (s : LiveLifecycle) (options : LiveLifecycleOptions) (now : UInt64) :
    (s.poll options now).1 = .rebuildGraph ↔
      s.started = true ∧ s.state = .reconnecting ∧ s.awaitingRebuildResult = false ∧
        now - s.reconnectStartedNs > options.recoveryDeadlineNs := by
  unfold poll
  cases hs : s.started <;> cases hst : s.state <;> simp <;> split <;> simp_all

/-- A frame for a started lifecycle. -/
theorem onFrame_cases (hs : s.started = true) (now : UInt64) :
    ((s.state = .starting ∨ s.state = .reconnecting) ∧
      s.onFrame now =
        { s with lastFrameNs := now, awaitingRebuildResult := false }.transition .active) ∨
    (s.state = .active ∧ s.onFrame now = { s with lastFrameNs := now }) ∨
    (s.state = .stopping ∧ s.onFrame now = s.invalidTransition) ∨
    (s.state = .failed ∨ s.state = .stopped) ∧ s.onFrame now = s := by
  cases hst : s.state <;> simp [onFrame, hs, hst]

/-- A rebuild result that is awaited: the outage goes on, or its budget is exhausted. -/
theorem onGraphRebuildResult_cases (hst : s.state = .reconnecting)
    (ha : s.awaitingRebuildResult = true) (options : LiveLifecycleOptions) (now : UInt64)
    (success : Bool) :
    ((success = true ∨ s.rebuildAttempts < options.graphRebuildAttempts) ∧
      s.onGraphRebuildResult options now success =
        { s with awaitingRebuildResult := false, reconnectStartedNs := now }) ∨
    (success = false ∧ options.graphRebuildAttempts ≤ s.rebuildAttempts ∧
      s.failureEmitted = true ∧
      s.onGraphRebuildResult options now success = { s with awaitingRebuildResult := false }) ∨
    (success = false ∧ options.graphRebuildAttempts ≤ s.rebuildAttempts ∧
      s.failureEmitted = false ∧
      s.onGraphRebuildResult options now success =
        { s with
          state := .failed
          awaitingRebuildResult := false
          failureEmitted := true
          notices := s.notices ++ [.state .failed, exhaustedNotice] }) := by
  cases success with
  | true => exact .inl ⟨.inl rfl, by simp [onGraphRebuildResult, hst, ha]⟩
  | false =>
      by_cases hge : options.graphRebuildAttempts ≤ s.rebuildAttempts
      · cases hem : s.failureEmitted with
        | true =>
            refine .inr (.inl ⟨rfl, hge, rfl, ?_⟩)
            simp [onGraphRebuildResult, hst, ha, hge, fail, hem]
        | false =>
            refine .inr (.inr ⟨rfl, hge, rfl, ?_⟩)
            simp [onGraphRebuildResult, hst, ha, hge, fail, hem]
      · have hlt : s.rebuildAttempts < options.graphRebuildAttempts := UInt32.not_le.mp hge
        exact .inl ⟨.inr hlt, by simp [onGraphRebuildResult, hst, ha, hge]⟩

end LiveLifecycle

/-- The calls in any order, with any answers of the clock. -/
def lifecycle (options : LiveLifecycleOptions) : Machine LiveLifecycle LifecycleCall where
  init s := s = {}
  enabled _ _ := True
  next s c := s.call options c

end Mvision.Live
