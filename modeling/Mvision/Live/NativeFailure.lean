import Mvision.Live.NativeRun

/-!
# What becomes of a native failure

A failed pipeline reports no stop, and the main thread of the worker does not
hear of the failure: it goes on reading commands.  So the run row becomes FAILED
only if the worker dies in the start command or a stop has been asked for, and
then always with the code of a runner that saw no stopped event.
-/

namespace Mvision.Live

open Mvision.Library

/-! ## The row at the end -/

namespace NativeRun

/-- No message is in flight. -/
def Quiet (s : NativeRun) : Prop :=
  s.control = [] ∧ s.data = 0 ∧ s.stdin = [] ∧ s.stdout = [] ∧ s.stops = 0 ∧
    s.assignments = 0 ∧ s.identityQueue = 0

/-- The step is the lease renewal, or somebody asks for a stop. -/
def Idle : NativeStep → Prop
  | .renew | .operatorStop | .shutdown => True
  | _ => False

/-- No message is in flight, and without a stop request only the lease is renewed. -/
def Quiescent (s : NativeRun) : Prop :=
  s.Quiet ∧ ∀ step, nativeRun.enabled s step → Idle step

/-- A reported failure is in the row of a quiescent run and of a terminal run. -/
def RecordsFailure (s : NativeRun) : Prop :=
  s.reported ≠ [] →
    (s.Quiescent → s.row.runtimeState = .failed) ∧
    (s.row.runtimeState.isTerminal = true →
      s.row.runtimeState = .failed ∧ ∀ errorCode ∈ s.reported, s.row.errorCode = some errorCode)

/-- A failure is reported with the code of the runner, and out of the start command or
after a stop has been asked for. -/
def FailsStopping (s : NativeRun) : NativeStep → Prop
  | .startRaises errorCode _ _ => errorCode = pipelineError
  | .emitFailure => s.asked = true
  | .lifecycleFail exhausted => exhausted = true ∧ s.asked = true
  | _ => True

instance (s : NativeRun) : Decidable s.Quiet := inferInstanceAs (Decidable (_ ∧ _))

instance (s : NativeRun) (step : NativeStep) : Decidable (s.FailsStopping step) :=
  match step with
  | .startRaises .. | .emitFailure => inferInstanceAs (Decidable (_ = _))
  | .lifecycleFail _ => inferInstanceAs (Decidable (_ ∧ _))
  | .start | .assignment _ | .stop | .closed | .exit | .emitState _ | .emitData _ | .runEnds
  | .write | .read _ | .eof | .writeCommand | .identity _ | .monitorStop | .renew | .finish
  | .operatorStop | .shutdown => inferInstanceAs (Decidable True)

/-! ## Invariants -/

/-- The worker sends no stopped event once it has failed. -/
structure Silent (s : NativeRun) : Prop where
  reported : s.reported ≠ [] → s.failed = true ∨ s.main = .aborted
  started : s.failed = true → s.pipeline ≠ .absent
  aborted : s.main = .aborted → s.pipeline = .absent
  silent : s.failed = true ∨ s.pipeline ≠ .finished →
    s.stopped = false ∧ .stopped ∉ s.control ∧ .stopped ∉ s.stdout

/-- The row is closed by the supervisor, with what the runner said. -/
structure Recorded (s : NativeRun) : Prop where
  ended : s.runner ≠ .reading → s.main.alive = false
  returned : s.runner = .returned → s.stopped = true
  raised : ∀ errorCode, s.runner = .raised errorCode → errorCode = pipelineError
  closed : s.finished = true → s.runner ≠ .reading
  row : s.finished = true → s.runner ≠ .returned → s.row = ⟨.failed, some pipelineError⟩
  opened : s.finished = false → s.row.runtimeState.isTerminal = false

/-- A stop that has been asked for is on its way to the main thread. -/
structure Heard (s : NativeRun) : Prop where
  joining : s.main = .joining → s.pipeline = .running → s.stopRequested = true
  startOnce : .start ∉ s.stdin.tail
  starting : .start ∈ s.stdin → s.pipeline = .absent
  wanted : s.desiredStopped = true ∨ s.stopSent = true → s.asked = true
  asked : s.asked = true → s.main ≠ .polling ∨
    (s.desiredStopped = true ∧ s.stopSent = false) ∨ 0 < s.stops ∨ .stop ∈ s.stdin

/-- All that an event does to the supervisor: it keeps the terminal states of the
worker out of the row. -/
theorem onEvent_eq (s : NativeRun) (queued : Bool) (event : NativeEvent) :
    ∃ failedEvent row identityQueue,
      s.onEvent queued event =
        { s with
          failedEvent := failedEvent
          row := row
          identityQueue := identityQueue
          stopped := s.stopped || decide (event = .stopped) } ∧
      (s.row.runtimeState.isTerminal = false → row.runtimeState.isTerminal = false) := by
  cases event with
  | hello => exact ⟨s.failedEvent, s.row, s.identityQueue, by simp [onEvent], id⟩
  | failed errorCode => exact ⟨some errorCode, s.row, s.identityQueue, by simp [onEvent], id⟩
  | stopped => exact ⟨s.failedEvent, s.row, s.identityQueue, by simp [onEvent], id⟩
  | data =>
      cases queued with
      | false => exact ⟨s.failedEvent, s.row, s.identityQueue, by simp [onEvent], id⟩
      | true => exact ⟨s.failedEvent, s.row, s.identityQueue + 1, by simp [onEvent], id⟩
  | state state =>
      by_cases hs : state = .stopped ∨ state = .failed
      · exact ⟨s.failedEvent, s.row, s.identityQueue, by simp [onEvent, hs], id⟩
      · refine ⟨s.failedEvent, { s.row with runtimeState := state }, s.identityQueue,
          by simp [onEvent, hs], fun _ => ?_⟩
        cases state <;> simp_all [RuntimeState.isTerminal]

/-- One turn of the reader. -/
theorem read_eq {s : NativeRun} (h : s.stdout ≠ []) (queued : Bool) :
    ∃ event stdout failedEvent row identityQueue, s.stdout = event :: stdout ∧
      s.read queued =
        { s with
          stdout := stdout
          failedEvent := failedEvent
          row := row
          identityQueue := identityQueue
          stopped := s.stopped || decide (event = .stopped) } ∧
      (s.row.runtimeState.isTerminal = false → row.runtimeState.isTerminal = false) := by
  obtain ⟨event, stdout, hout⟩ := List.exists_cons_of_ne_nil h
  obtain ⟨failedEvent, row, identityQueue, he, hrow⟩ :=
    onEvent_eq { s with stdout := stdout } queued event
  refine ⟨event, stdout, failedEvent, row, identityQueue, hout, ?_, hrow⟩
  simp only [NativeRun.read, hout, he]

/-! ### Silence -/

theorem not_stopped_mem_append {events more : List NativeEvent} (h : .stopped ∉ events)
    (hmore : .stopped ∉ more) : .stopped ∉ events ++ more := by
  intro hm
  rcases List.mem_append.mp hm with hm | hm
  · exact h hm
  · exact hmore hm

theorem Silent.of_absent {s : NativeRun} (h : Silent s) (hp : s.pipeline = .absent) :
    s.stopped = false ∧ .stopped ∉ s.control ∧ .stopped ∉ s.stdout := by
  apply h.silent
  right
  rw [hp]
  decide

theorem Silent.of_running {s : NativeRun} (h : Silent s) (hp : s.pipeline = .running) :
    s.stopped = false ∧ .stopped ∉ s.control ∧ .stopped ∉ s.stdout := by
  apply h.silent
  right
  rw [hp]
  decide

/-- A failure is reported by the running pipeline, and brings no stopped event. -/
theorem silent_report {s : NativeRun} (h : Silent s) (hp : s.pipeline = .running)
    (errorCode : String) (failureEmitted : Bool) :
    Silent { s with
      failureEmitted := failureEmitted
      failed := true
      control := s.control ++ [.state .failed, .failed errorCode]
      reported := s.reported ++ [errorCode] } := by
  obtain ⟨hst, hcontrol, hout⟩ := h.of_running hp
  refine ⟨fun _ => .inl rfl, fun _ => ?_, h.aborted, fun _ => ⟨hst, ?_, hout⟩⟩
  · show s.pipeline ≠ .absent
    rw [hp]
    decide
  · exact not_stopped_mem_append hcontrol (by simp)

/-- The worker writes what it has queued. -/
theorem silent_write {s : NativeRun} (h : Silent s) : Silent s.write := by
  unfold NativeRun.write
  split
  · rename_i event control hc
    refine ⟨h.reported, h.started, h.aborted, fun hq => ?_⟩
    obtain ⟨hst, hcontrol, hout⟩ := h.silent hq
    rw [hc, List.mem_cons, not_or] at hcontrol
    refine ⟨hst, hcontrol.2, not_stopped_mem_append hout ?_⟩
    rw [List.mem_singleton]
    exact hcontrol.1
  · refine ⟨h.reported, h.started, h.aborted, fun hq => ?_⟩
    obtain ⟨hst, hcontrol, hout⟩ := h.silent hq
    exact ⟨hst, hcontrol, not_stopped_mem_append hout (by simp)⟩

theorem silent_step : nativeRun.Preserved Silent := by
  intro s step he h
  cases step with
  | start =>
      obtain ⟨hst, hcontrol, hout⟩ := h.of_absent he.2.1
      refine ⟨fun hn => ?_, fun _ hp => ?_, fun hm => ?_, fun _ => ⟨hst, ?_, hout⟩⟩
      · exact h.reported hn
      · cases hp
      · cases he.1.symm.trans hm
      · exact not_stopped_mem_append hcontrol (by simp)
  | startRaises errorCode written truncated =>
      obtain ⟨hst, hcontrol, hout⟩ := h.of_absent he.2.1
      refine ⟨fun _ => .inr rfl, h.started, fun _ => he.2.1, fun _ => ⟨hst, ?_, ?_⟩⟩
      · exact List.not_mem_nil
      · apply not_stopped_mem_append hout
        intro hm
        exact not_stopped_mem_append hcontrol (by simp) (List.mem_of_mem_take hm)
  | stop =>
      refine ⟨fun hn => ?_, h.started, fun hm => ?_, fun hq => ?_⟩
      · -- a worker that reads commands has not aborted
        rcases h.reported hn with hf | hm
        · exact .inl hf
        · cases he.1.symm.trans hm
      · cases hm
      · obtain ⟨hst, hcontrol, hout⟩ := h.silent hq
        refine ⟨hst, ?_, hout⟩
        simp only [nativeRun, acceptStop]
        split
        · exact hcontrol
        · exact not_stopped_mem_append hcontrol (by simp)
  | closed =>
      refine ⟨fun hn => ?_, h.started, fun hm => ?_, h.silent⟩
      · rcases h.reported hn with hf | hm
        · exact .inl hf
        · cases he.1.symm.trans hm
      · cases hm
  | exit =>
      refine ⟨fun hn => ?_, h.started, fun hm => ?_, h.silent⟩
      · rcases h.reported hn with hf | hm
        · exact .inl hf
        · cases he.1.symm.trans hm
      · cases hm
  | emitState state =>
      refine ⟨h.reported, h.started, h.aborted, fun hq => ?_⟩
      obtain ⟨hst, hcontrol, hout⟩ := h.silent hq
      exact ⟨hst, not_stopped_mem_append hcontrol (by simp), hout⟩
  | emitFailure =>
      simp only [nativeRun, NativeRun.emitFailure, he.2, Bool.false_eq_true, if_false]
      exact silent_report h he.1 pipelineError s.failureEmitted
  | lifecycleFail exhausted =>
      simp only [nativeRun, NativeRun.lifecycleFail, he.2, Bool.false_eq_true, if_false]
      exact silent_report h he.1 (lifecycleError exhausted) true
  | runEnds =>
      obtain ⟨hst, hcontrol, hout⟩ := h.of_running he.1
      refine ⟨h.reported, fun _ hp => ?_, fun hm => ?_, fun hq => ?_⟩
      · cases hp
      · cases he.1.symm.trans (h.aborted hm)
      · -- the run is over, so only a failed pipeline must stay silent
        rcases hq with hf | hp
        · refine ⟨hst, ?_, hout⟩
          have hf : s.failed = true := hf
          simp only [nativeRun, NativeRun.runEnds, hf, if_true]
          exact hcontrol
        · exact absurd rfl hp
  | write => exact silent_write h
  | read queued =>
      obtain ⟨event, stdout, _, _, _, hout, hread, -⟩ := read_eq he.2 queued
      simp only [nativeRun, hread]
      refine ⟨h.reported, h.started, h.aborted, fun hq => ?_⟩
      -- the event is no stopped event while the run must stay silent
      obtain ⟨hst, hcontrol, hev⟩ := h.silent hq
      rw [hout, List.mem_cons, not_or] at hev
      exact ⟨by simp [hst, Ne.symm hev.1], hcontrol, hev.2⟩
  | writeCommand =>
      simp only [nativeRun, NativeRun.writeCommand]
      split <;> exact { h with }
  | _ => exact { h with }

/-! ### The record -/

/-- While the runner reads, all there is to keep is an open row. -/
theorem recorded_reading {s : NativeRun} (hr : s.runner = .reading) (hf : s.finished = false)
    (ho : s.row.runtimeState.isTerminal = false) : Recorded s where
  ended h := absurd hr h
  returned h := by simp [hr] at h
  raised c h := by simp [hr] at h
  closed h := by simp [hf] at h
  row h := by simp [hf] at h
  opened _ := ho

/-- Without a stopped event the runner can only raise. -/
theorem eof_runner (s : NativeRun) :
    s.eof.runner = .raised pipelineError ∨ s.eof.runner = .returned ∧ s.stopped = true := by
  simp only [NativeRun.eof]
  split_ifs <;> simp_all

theorem recorded_step : nativeRun.Preserved Recorded := by
  intro s step he h
  cases step with
  | startRaises errorCode written truncated =>
      have hm : s.main = .polling := he.1
      exact { h with ended := fun _ => rfl }
  | stop =>
      have hm : s.main = .polling := he.1
      have hr : s.runner = .reading := by
        by_contra hr
        simpa [hm, MainPhase.alive] using h.ended hr
      exact { h with ended := fun hn => absurd hr hn }
  | closed =>
      have hm : s.main = .joining := he.1
      have hr : s.runner = .reading := by
        by_contra hr
        simpa [hm, MainPhase.alive] using h.ended hr
      exact { h with ended := fun hn => absurd hr hn }
  | exit => exact { h with ended := fun _ => rfl }
  | read queued =>
      have hf : s.finished = false := by
        by_contra hf
        exact h.closed (by simpa using hf) he.1
      obtain ⟨_, _, _, _, _, -, hread, hrow⟩ := read_eq he.2 queued
      simp only [nativeRun, hread]
      exact recorded_reading he.1 hf (hrow (h.opened hf))
  | eof =>
      obtain ⟨hr, -, hm⟩ := he
      have hf : s.finished = false := by
        by_contra hf
        exact h.closed (by simpa using hf) hr
      have hfe : s.eof.finished = true → False := fun ht => by
        rw [show s.eof.finished = s.finished from rfl, hf] at ht
        cases ht
      have hend := eof_runner s
      refine ⟨fun _ => hm, ?_, ?_, fun ht => (hfe ht).elim, fun ht => (hfe ht).elim, h.opened⟩
      · intro hn
        rcases hend with hraised | ⟨-, hs⟩
        · cases hraised.symm.trans hn
        · exact hs
      · intro errorCode hn
        rcases hend with hraised | ⟨hret, -⟩
        · cases hraised.symm.trans hn
          rfl
        · cases hret.symm.trans hn
  | finish =>
      refine { h with closed := fun _ => he.2.1, row := fun _ hn => ?_, opened := ?_ }
      · cases hr : s.runner with
        | reading => exact absurd hr he.2.1
        | returned => exact absurd hr hn
        | raised errorCode => simp [nativeRun, NativeRun.finish, hr, h.raised errorCode hr]
      · simp [nativeRun, NativeRun.finish]
  | emitFailure =>
      simp only [nativeRun, NativeRun.emitFailure]
      split <;> exact { h with }
  | lifecycleFail exhausted =>
      simp only [nativeRun, NativeRun.lifecycleFail]
      split <;> exact { h with }
  | write =>
      simp only [nativeRun, NativeRun.write]
      split <;> exact { h with }
  | writeCommand =>
      simp only [nativeRun, NativeRun.writeCommand]
      split <;> exact { h with }
  | _ => exact { h with }

/-! ### The stop request -/

theorem stdin_of_head {s : NativeRun} {command : NativeCommand}
    (h : s.stdin.head? = some command) : s.stdin = command :: s.stdin.tail := by
  cases hs : s.stdin with
  | nil => simp [hs] at h
  | cons c rest =>
      simp only [hs, List.head?_cons, Option.some.injEq] at h
      rw [h, List.tail_cons]

/-- A command that is no stop is taken from the pipe. -/
theorem heard_tail {s : NativeRun} {command : NativeCommand} (h : Heard s)
    (hs : s.stdin.head? = some command) (hc : command ≠ .stop) :
    Heard { s with stdin := s.stdin.tail } where
  joining := h.joining
  startOnce hm := h.startOnce (List.mem_of_mem_tail hm)
  starting hm := absurd hm h.startOnce
  wanted := h.wanted
  asked ha := by
    refine (h.asked ha).imp_right (Or.imp_right (Or.imp_right fun hm => ?_))
    rw [stdin_of_head hs] at hm
    exact (List.mem_cons.mp hm).resolve_left hc.symm

/-- The runner writes a command that is no start. -/
theorem heard_append {s : NativeRun} (h : Heard s) (command : NativeCommand)
    (hc : command ≠ .start) : Heard { s with stdin := s.stdin ++ [command] } where
  joining := h.joining
  startOnce hm := by
    rw [List.tail_append] at hm
    split at hm
    · exact List.not_mem_nil hm
    · rcases List.mem_append.mp hm with hm | hm
      · exact h.startOnce hm
      · exact hc (List.mem_singleton.mp hm).symm
  starting hm := by
    rcases List.mem_append.mp hm with hm | hm
    · exact h.starting hm
    · exact absurd (List.mem_singleton.mp hm).symm hc
  wanted := h.wanted
  asked ha := (h.asked ha).imp_right (Or.imp_right (Or.imp_right fun hm =>
    List.mem_append_left _ hm))

theorem heard_step {s : NativeRun} {step : NativeStep} (he : nativeRun.enabled s step)
    (hr : Recorded s) (h : Heard s) : Heard (nativeRun.next s step) := by
  cases step with
  | start =>
      have ht := heard_tail h he.2.2 (by decide)
      refine { ht with joining := fun hm => ?_, starting := fun hm => absurd hm h.startOnce }
      cases he.1.symm.trans hm
  | startRaises errorCode written truncated =>
      constructor
      · intro hm
        cases hm
      · exact List.not_mem_nil
      · intro hm
        cases hm
      · exact h.wanted
      · intro _
        left
        intro hm
        cases hm
  | assignment stale => exact { heard_tail h he.2 (by decide) with }
  | stop =>
      have hstart : NativeCommand.start ∉ s.stdin.tail := h.startOnce
      constructor
      · intro _ hp
        have hp : s.pipeline = .running := hp
        simp [nativeRun, acceptStop, hp]
      · intro hm
        exact hstart (List.mem_of_mem_tail hm)
      · intro hm
        exact absurd hm hstart
      · exact h.wanted
      · intro _
        left
        intro hm
        cases hm
  | closed =>
      refine { h with joining := fun hm => ?_, asked := fun _ => .inl fun hm => ?_ }
      · cases hm
      · cases hm
  | exit =>
      refine ⟨fun hm => ?_, List.not_mem_nil, fun hm => ?_, h.wanted, fun _ => .inl fun hm => ?_⟩
      · cases hm
      · cases hm
      · cases hm
  | emitFailure =>
      simp only [nativeRun, NativeRun.emitFailure]
      split <;> exact { h with }
  | lifecycleFail exhausted =>
      simp only [nativeRun, NativeRun.lifecycleFail]
      split <;> exact { h with }
  | runEnds =>
      refine { h with joining := fun _ hp => ?_, starting := fun hm => ?_ }
      · cases hp
      · cases he.1.symm.trans (h.starting hm)
  | write =>
      simp only [nativeRun, NativeRun.write]
      split <;> exact { h with }
  | read queued =>
      obtain ⟨_, _, _, _, _, -, hread, -⟩ := read_eq he.2 queued
      simp only [nativeRun, hread]
      exact { h with }
  | writeCommand =>
      simp only [nativeRun, NativeRun.writeCommand]
      split
      · refine { heard_append h .stop (by decide) with
          asked := fun _ => .inr (.inr (.inr ?_)) }
        exact List.mem_append_right _ (List.mem_singleton.mpr rfl)
      · exact { heard_append h .assignment (by decide) with }
  | monitorStop =>
      refine { h with wanted := fun _ => ?_, asked := fun _ => .inr (.inr (.inl ?_)) }
      · exact h.wanted (.inl he.2.1)
      · exact Nat.succ_pos s.stops
  | finish =>
      refine { h with asked := fun _ => .inl fun hm => ?_ }
      have hm : s.main = .polling := hm
      have halive := hr.ended he.2.1
      rw [hm] at halive
      cases halive
  | operatorStop =>
      refine { h with wanted := fun _ => rfl, asked := fun _ => ?_ }
      cases hsent : s.stopSent with
      | false => exact .inr (.inl ⟨rfl, hsent⟩)
      | true =>
          -- the monitor has sent its one stop before
          refine (h.asked (h.wanted (.inr hsent))).imp_right fun hw => .inr (hw.resolve_left ?_)
          simp [hsent]
  | shutdown =>
      refine { h with wanted := fun _ => rfl, asked := fun _ => .inr (.inr (.inl ?_)) }
      exact Nat.succ_pos s.stops
  | _ => exact { h with }

/-! ### The parties together -/

structure Coherent (s : NativeRun) : Prop where
  silent : Silent s
  recorded : Recorded s
  heard : Heard s

theorem coherent_spawned : Coherent spawned where
  silent := by constructor <;> simp [spawned]
  recorded := by constructor <;> simp [spawned, RuntimeState.isTerminal]
  heard := by constructor <;> simp [spawned]

theorem coherent_step : nativeRun.Preserved Coherent := by
  intro s step he h
  exact ⟨silent_step s step he h.silent, recorded_step s step he h.recorded,
    heard_step he h.recorded h.heard⟩

/-- After a failure the runner never returns. -/
theorem failed_runner {s : NativeRun} (h : Coherent s) (hrep : s.reported ≠ []) :
    s.runner ≠ .returned := by
  intro hret
  have hstopped := h.recorded.returned hret
  have hquiet : s.stopped = false := by
    rcases h.silent.reported hrep with hf | ha
    · exact (h.silent.silent (.inl hf)).1
    · exact (h.silent.silent (.inr (by simp [h.silent.aborted ha]))).1
  rw [hquiet] at hstopped
  cases hstopped

/-- The row of a failed run is open, or has the code of the runner. -/
theorem failed_row {s : NativeRun} (h : Coherent s) (hrep : s.reported ≠ []) :
    (s.finished = false ∧ s.row.runtimeState.isTerminal = false) ∨
      (s.finished = true ∧ s.row = ⟨.failed, some pipelineError⟩) := by
  cases hf : s.finished with
  | false => exact .inl ⟨rfl, h.recorded.opened hf⟩
  | true => exact .inr ⟨rfl, h.recorded.row hf (failed_runner h hrep)⟩

/-! ## Quiescence -/

/-- The worker is gone: what is left to do is to read the pipe and to finish. -/
theorem quiescent_gone {s : NativeRun} (h : Coherent s) (hrep : s.reported ≠ [])
    (hq : s.Quiescent) (hm : s.main.alive = false) : s.finished = true := by
  by_contra hf
  have hf : s.finished = false := by simpa using hf
  cases hr : s.runner with
  | reading => exact hq.2 .eof ⟨hr, hq.1.2.2.2.1, hm⟩
  | returned => exact failed_runner h hrep hr
  | raised errorCode => exact hq.2 .finish ⟨hf, by simp [hr], by simp [hr]⟩

/-- Once a stop has been asked for, only a finished run is quiescent. -/
theorem quiescent_asked {s : NativeRun} (h : Coherent s) (hrep : s.reported ≠ [])
    (hq : s.Quiescent) (ha : s.asked = true) : s.finished = true := by
  cases hm : s.main with
  | polling =>
      by_contra hf
      have hf : s.finished = false := by simpa using hf
      rcases h.heard.asked ha with hp | ⟨hd, hs⟩ | hn | hin
      · exact hp hm
      · exact hq.2 .monitorStop ⟨hf, hd, hs⟩
      · rw [hq.1.2.2.2.2.1] at hn
        exact absurd hn (by decide)
      · rw [hq.1.2.2.1] at hin
        cases hin
  | joining =>
      exfalso
      cases hp : s.pipeline with
      | running => exact hq.2 .runEnds ⟨hp, .inr (h.heard.joining hm hp)⟩
      | absent => exact hq.2 .closed ⟨hm, by simp [hp]⟩
      | finished => exact hq.2 .closed ⟨hm, by simp [hp]⟩
  | draining => exact (hq.2 .exit ⟨hm, hq.1.1, hq.1.2.1⟩).elim
  | exited => exact quiescent_gone h hrep hq (by simp [hm, MainPhase.alive])
  | aborted => exact quiescent_gone h hrep hq (by simp [hm, MainPhase.alive])

/-! ## Runs that fail while they stop -/

/-- Every failure so far has the code of the runner, and will be seen. -/
structure Seen (s : NativeRun) : Prop where
  codes : ∀ errorCode ∈ s.reported, errorCode = pipelineError
  seen : s.reported ≠ [] → s.asked = true ∨ s.main = .aborted

/-- While the main thread is at work, only a stop request makes a failure seen. -/
theorem Seen.asked {s : NativeRun} (h : Seen s) (hm : s.main ≠ .aborted)
    (hrep : s.reported ≠ []) : s.asked = true :=
  (h.seen hrep).resolve_right hm

/-- One more failure, with the code of the runner. -/
theorem Seen.report {s : NativeRun} (h : Seen s) :
    ∀ errorCode ∈ s.reported ++ [pipelineError], errorCode = pipelineError := by
  intro errorCode hmem
  rcases List.mem_append.mp hmem with hold | hnew
  · exact h.codes errorCode hold
  · exact List.mem_singleton.mp hnew

theorem seen_step : nativeRun.PreservedUnder FailsStopping Seen := by
  intro s step he hc h
  cases step with
  | startRaises errorCode written truncated =>
      have hcode : errorCode = pipelineError := hc
      subst hcode
      exact ⟨h.report, fun _ => .inr rfl⟩
  | emitFailure =>
      have hask : s.asked = true := hc
      simp only [nativeRun, NativeRun.emitFailure]
      split
      · exact h
      · exact ⟨h.report, fun _ => .inl hask⟩
  | lifecycleFail exhausted =>
      obtain ⟨rfl, hask⟩ := hc
      simp only [nativeRun, NativeRun.lifecycleFail]
      split
      · exact h
      · exact ⟨h.report, fun _ => .inl hask⟩
  | stop => exact ⟨h.codes, fun hrep => .inl (h.asked (by simp [he.1]) hrep)⟩
  | closed => exact ⟨h.codes, fun hrep => .inl (h.asked (by simp [he.1]) hrep)⟩
  | exit => exact ⟨h.codes, fun hrep => .inl (h.asked (by simp [he.1]) hrep)⟩
  | write =>
      simp only [nativeRun, NativeRun.write]
      split <;> exact ⟨h.codes, h.seen⟩
  | read queued =>
      obtain ⟨_, _, _, _, _, -, hread, -⟩ := read_eq he.2 queued
      simp only [nativeRun, hread]
      exact ⟨h.codes, h.seen⟩
  | writeCommand =>
      simp only [nativeRun, NativeRun.writeCommand]
      split <;> exact ⟨h.codes, h.seen⟩
  | operatorStop => exact ⟨h.codes, fun _ => .inl rfl⟩
  | shutdown => exact ⟨h.codes, fun _ => .inl rfl⟩
  | _ => exact ⟨h.codes, h.seen⟩

theorem recordsFailure_of_seen {s : NativeRun} (h : Coherent s) (hs : Seen s) :
    RecordsFailure s := by
  intro hrep
  constructor
  · intro hq
    have hf : s.finished = true := by
      rcases hs.seen hrep with ha | hm
      · exact quiescent_asked h hrep hq ha
      · exact quiescent_gone h hrep hq (by simp [hm, MainPhase.alive])
    rw [h.recorded.row hf (failed_runner h hrep)]
  · intro ht
    rcases failed_row h hrep with ⟨-, hopen⟩ | ⟨-, hrow⟩
    · rw [hopen] at ht
      cases ht
    · rw [hrow]
      exact ⟨rfl, fun errorCode hmem => by rw [hs.codes errorCode hmem]⟩

/-! ## Failures nobody hears of -/

/-- Only a stop request takes the main thread out of its loop, unless it dies there. -/
structure Unasked (s : NativeRun) : Prop where
  main : s.main = .polling ∨ s.main = .aborted
  stops : s.stops = 0
  stdin : .stop ∉ s.stdin
  wanted : s.desiredStopped = false

theorem unasked_step {s : NativeRun} {step : NativeStep} (he : nativeRun.enabled s step)
    (h : s.asked = false → Unasked s) :
    (nativeRun.next s step).asked = false → Unasked (nativeRun.next s step) := by
  cases step with
  | start => exact fun ha => { h ha with stdin := fun hm => (h ha).stdin (List.mem_of_mem_tail hm) }
  | startRaises errorCode written truncated =>
      exact fun ha => { h ha with main := .inr rfl, stdin := List.not_mem_nil }
  | assignment stale =>
      exact fun ha => { h ha with stdin := fun hm => (h ha).stdin (List.mem_of_mem_tail hm) }
  | stop => exact fun ha => absurd (List.mem_of_mem_head? he.2) (h ha).stdin
  | closed =>
      intro ha
      have hm : s.main = .joining := he.1
      simpa [hm] using (h ha).main
  | exit =>
      intro ha
      have hm : s.main = .draining := he.1
      simpa [hm] using (h ha).main
  | emitFailure =>
      simp only [nativeRun, NativeRun.emitFailure]
      split <;> exact fun ha => { h ha with }
  | lifecycleFail exhausted =>
      simp only [nativeRun, NativeRun.lifecycleFail]
      split <;> exact fun ha => { h ha with }
  | write =>
      simp only [nativeRun, NativeRun.write]
      split <;> exact fun ha => { h ha with }
  | read queued =>
      obtain ⟨_, _, _, _, _, -, hread, -⟩ := read_eq he.2 queued
      simp only [nativeRun, hread]
      exact fun ha => { h ha with }
  | writeCommand =>
      simp only [nativeRun, NativeRun.writeCommand]
      split
      · rename_i hn
        intro ha
        have h0 := (h ha).stops
        omega
      · exact fun ha => { h ha with stdin := by simpa using (h ha).stdin }
  | monitorStop =>
      intro ha
      have hd : s.desiredStopped = true := he.2.1
      have hd' := (h ha).wanted
      rw [hd] at hd'
      cases hd'
  | finish => exact fun ha => { h ha with stops := rfl }
  | operatorStop => exact fun ha => by cases ha
  | shutdown => exact fun ha => by cases ha
  | _ => exact fun ha => { h ha with }

/-- As long as no stop is asked for, the row of a failed pipeline stays open. -/
theorem unasked_open {s : NativeRun} (h : Coherent s) (hu : Unasked s)
    (hf : s.failed = true) : s.row.runtimeState.isTerminal = false := by
  have hm : s.main = .polling := by
    refine hu.main.resolve_right fun hm => ?_
    exact h.silent.started hf (h.silent.aborted hm)
  apply h.recorded.opened
  by_contra hfin
  have halive := h.recorded.ended (h.recorded.closed (by simpa using hfin))
  rw [hm] at halive
  cases halive

end NativeRun

theorem coherent_reachable {s : NativeRun} (h : nativeRun.Reachable s) :
    s.Coherent ∧ (s.asked = false → s.Unasked) := by
  have hkept : nativeRun.Preserved fun s => s.Coherent ∧ (s.asked = false → s.Unasked) :=
    fun s step he hs => ⟨NativeRun.coherent_step s step he hs.1,
      NativeRun.unasked_step he hs.2⟩
  refine hkept.reachable ?_ h
  rintro s rfl
  exact ⟨NativeRun.coherent_spawned, fun _ => by constructor <;> simp [NativeRun.spawned]⟩

/-- When everything has come to rest after a failure, the row is FAILED exactly if a stop
had been asked for or the worker had died in the start command. -/
theorem quiescent_failed_iff {s : NativeRun} (h : nativeRun.Reachable s)
    (hrep : s.reported ≠ []) (hq : s.Quiescent) :
    s.row.runtimeState = .failed ↔ s.asked = true ∨ s.main = .aborted := by
  obtain ⟨hc, hu⟩ := coherent_reachable h
  constructor
  · intro hrow
    by_contra hn
    rw [not_or, Bool.not_eq_true] at hn
    have hopen := NativeRun.unasked_open hc (hu hn.1) ((hc.silent.reported hrep).resolve_right hn.2)
    rw [hrow] at hopen
    cases hopen
  · intro hs
    have hf : s.finished = true := by
      rcases hs with ha | hm
      · exact NativeRun.quiescent_asked hc hrep hq ha
      · exact NativeRun.quiescent_gone hc hrep hq (by simp [hm, MainPhase.alive])
    rw [hc.recorded.row hf (NativeRun.failed_runner hc hrep)]

/-- A run whose failures all come out of the start command or after a stop request, with
the code of the runner, records them. -/
theorem failure_recorded (steps : List NativeStep)
    (hv : nativeRun.Valid NativeRun.spawned steps)
    (hc : nativeRun.Meets NativeRun.FailsStopping NativeRun.spawned steps) :
    nativeRun.Always NativeRun.RecordsFailure NativeRun.spawned steps := by
  have hkept : nativeRun.PreservedUnder NativeRun.FailsStopping fun s =>
      s.Coherent ∧ s.Seen :=
    fun s step he hstep h => ⟨NativeRun.coherent_step s step he h.1,
      NativeRun.seen_step s step he hstep h.2⟩
  have hseen : NativeRun.spawned.Seen := by constructor <;> simp [NativeRun.spawned]
  have hall := hkept.always hv hc ⟨NativeRun.coherent_spawned, hseen⟩
  exact hall.imp fun s h => NativeRun.recordsFailure_of_seen h.1 h.2

/-- The operator stops the camera, and the source ends before the pipeline does. -/
def stoppingRun : List NativeStep :=
  [.start, .write, .write, .read false, .read false, .operatorStop, .monitorStop,
    .writeCommand, .emitFailure, .stop, .runEnds, .write, .write, .read false, .read false,
    .closed, .exit, .eof, .finish]

theorem failure_recorded_stopping :
    (nativeRun.run NativeRun.spawned stoppingRun).row = ⟨.failed, some pipelineError⟩ ∧
      nativeRun.Always NativeRun.RecordsFailure NativeRun.spawned stoppingRun := by
  exact ⟨by decide, failure_recorded stoppingRun (by decide) (by decide)⟩

/-- The source ends while the camera is to run. -/
def abandonedRun : List NativeStep :=
  [.start, .write, .write, .read false, .read false, .emitFailure, .runEnds, .write, .write,
    .read false, .read false]

/-- A worker that polls for commands with its pipeline gone waits for a stop. -/
theorem quiescent_waiting {s : NativeRun} (hq : s.Quiet) (hm : s.main = .polling)
    (hp : s.pipeline = .finished) (hr : s.runner = .reading) (hd : s.desiredStopped = false) :
    s.Quiescent := by
  obtain ⟨hcontrol, hdata, hstdin, hstdout, hstops, hassignments, hidentity⟩ := hq
  refine ⟨⟨hcontrol, hdata, hstdin, hstdout, hstops, hassignments, hidentity⟩, ?_⟩
  intro step he
  cases step <;> simp_all [nativeRun, NativeRun.Idle, MainPhase.alive]

theorem failure_unrecorded :
    ¬ ∀ steps, nativeRun.Valid NativeRun.spawned steps →
      nativeRun.Always NativeRun.RecordsFailure NativeRun.spawned steps := by
  intro h
  have hlast := (h abandonedRun (by decide)).last
  have hq : (nativeRun.run NativeRun.spawned abandonedRun).Quiescent :=
    quiescent_waiting (by decide) (by decide) (by decide) (by decide) (by decide)
  have hrow := (hlast (by decide)).1 hq
  revert hrow
  decide

end Mvision.Live
