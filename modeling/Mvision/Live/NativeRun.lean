import Mvision.Library.Machine
import Mvision.Live.RunRepository

/-!
# A camera run across two processes

The native worker (command loop, pipeline thread, event queue and writer), the
two pipes, `NativeLiveRunner.run` and `LiveSupervisor.process_one_camera` as
communicating parties.  The worker is taken from its spawn, with the start
command in its pipe.  The control queue has room, the database answers and the
lease is held; the pipeline thread leaves its loop once it is told to.
Evidence, metrics and operations matter only as messages, and are all `data`.
-/

namespace Mvision.Live

open Mvision.Library

inductive NativeEvent where
  | hello
  | state (state : RuntimeState)
  | data
  | failed (errorCode : String)
  | stopped
deriving DecidableEq, Repr

inductive NativeCommand where
  | start
  | assignment
  | stop
deriving DecidableEq, Repr

/-- Where the main thread of the worker is. -/
inductive MainPhase where
  /-- in the loop that reads commands -/
  | polling
  /-- in `LivePipeline::close`, which joins the pipeline thread -/
  | joining
  /-- past `events.close()`, joining the writer -/
  | draining
  /-- returned 0 -/
  | exited
  /-- ended by `std::terminate` -/
  | aborted
deriving DecidableEq, Repr

def MainPhase.alive : MainPhase → Bool
  | .exited | .aborted => false
  | _ => true

inductive PipelinePhase where
  | absent
  | running
  | finished
deriving DecidableEq, Repr

/-- Where `NativeLiveRunner.run` is: it returns the stopped event or raises a code. -/
inductive RunnerPhase where
  | reading
  | returned
  | raised (errorCode : String)
deriving DecidableEq, Repr

structure RunRow where
  runtimeState : RuntimeState
  errorCode : Option String
deriving DecidableEq, Repr

structure NativeRun where
  main : MainPhase
  pipeline : PipelinePhase
  stopRequested : Bool
  failed : Bool
  /-- `failure_emitted_` of the lifecycle -/
  failureEmitted : Bool
  control : List NativeEvent
  /-- waiting evidence, metrics and operations -/
  data : Nat
  stdin : List NativeCommand
  stdout : List NativeEvent
  /-- the worker died inside a frame -/
  truncated : Bool
  runner : RunnerPhase
  /-- the reader has seen a stopped event -/
  stopped : Bool
  stops : Nat
  assignments : Nat
  identityQueue : Nat
  failedEvent : Option String
  /-- `desired_state` of the camera is no longer 'running' -/
  desiredStopped : Bool
  stopSent : Bool
  /-- `process_one_camera` has returned -/
  finished : Bool
  row : RunRow
  /-- history: a stop has been asked for -/
  asked : Bool
  /-- history: the codes of the failures the pipeline has reported -/
  reported : List String
deriving DecidableEq

def pipelineError : String := "LIVE_PIPELINE_ERROR"

namespace NativeRun

def spawned : NativeRun where
  main := .polling
  pipeline := .absent
  stopRequested := false
  failed := false
  failureEmitted := false
  control := []
  data := 0
  stdin := [.start]
  stdout := []
  truncated := false
  runner := .reading
  stopped := false
  stops := 0
  assignments := 0
  identityQueue := 0
  failedEvent := none
  desiredStopped := false
  stopSent := false
  finished := false
  row := ⟨.starting, none⟩
  asked := false
  reported := []

/-! ## The worker -/

/-- The start command, with a pipeline that starts. -/
def acceptStart (s : NativeRun) : NativeRun :=
  { s with
    stdin := s.stdin.tail
    pipeline := .running
    control := s.control ++ [.hello, .state .starting] }

/-- An exception out of `LivePipeline::start` is no `LiveProtocolError`: it leaves the
loop, and unwinding meets the joinable writer thread.  `written` events have left the
queue before, `truncated` tells whether a frame was cut. -/
def startRaises (s : NativeRun) (errorCode : String) (written : Nat) (truncated : Bool) :
    NativeRun :=
  { s with
    stdin := []
    main := .aborted
    control := []
    data := 0
    stdout := s.stdout ++ (s.control ++ ([.hello, .state .starting] : List NativeEvent)).take written
    truncated := truncated
    reported := s.reported ++ [errorCode] }

/-- An assignment, applied or counted as stale in a metrics event. -/
def acceptAssignment (s : NativeRun) (stale : Bool) : NativeRun :=
  { s with
    stdin := s.stdin.tail
    data := if stale then s.data + 1 else s.data }

/-- `LivePipeline::Impl::stop`, on the way into `close` -/
def acceptStop (s : NativeRun) : NativeRun :=
  { s with
    stdin := s.stdin.tail
    main := .joining
    stopRequested := s.stopRequested || decide (s.pipeline ≠ .absent)
    control :=
      if s.pipeline = .absent ∨ s.stopRequested ∨ s.failed then s.control
      else s.control ++ [.state .stopping] }

/-- `LivePipeline::Impl::emit_failure` -/
def emitFailure (s : NativeRun) : NativeRun :=
  if s.failed then s
  else
    { s with
      failed := true
      control := s.control ++ [.state .failed, .failed pipelineError]
      reported := s.reported ++ [pipelineError] }

/-- `LiveLifecycle::fail` into the failure sink of `LivePipeline::Impl::start` -/
def lifecycleFail (s : NativeRun) (errorCode : String) : NativeRun :=
  if s.failureEmitted then s
  else
    { s with
      failureEmitted := true
      failed := true
      control := s.control ++ [.state .failed, .failed errorCode]
      reported := s.reported ++ [errorCode] }

/-- The end of `LivePipeline::Impl::run`: a failed pipeline reports no stop.  The graph
is closed by then, so that nothing fails between the test and the stopped event. -/
def runEnds (s : NativeRun) : NativeRun :=
  { s with
    pipeline := .finished
    control := if s.failed then s.control else s.control ++ [.state .stopped, .stopped] }

/-- One event from `LiveWorkerEventQueue::pop` to the pipe, control events first. -/
def write (s : NativeRun) : NativeRun :=
  match s.control with
  | event :: control => { s with control := control, stdout := s.stdout ++ [event] }
  | [] => { s with data := s.data - 1, stdout := s.stdout ++ [.data] }

/-! ## The runner and the supervisor -/

/-- `on_event`; `queued` tells whether a data message goes to the identity task. -/
def onEvent (s : NativeRun) (queued : Bool) : NativeEvent → NativeRun
  | .failed errorCode => { s with failedEvent := some errorCode }
  | .state state =>
      if state = .stopped ∨ state = .failed then s
      else { s with row := { s.row with runtimeState := state } }
  | .data => if queued then { s with identityQueue := s.identityQueue + 1 } else s
  | .stopped => { s with stopped := true }
  | .hello => s

/-- One turn of the loop of `_read_events`. -/
def read (s : NativeRun) (queued : Bool) : NativeRun :=
  match s.stdout with
  | event :: stdout => { s with stdout := stdout }.onEvent queued event
  | [] => s

/-- End of file, `process.wait()` and the checks that follow. -/
def eof (s : NativeRun) : NativeRun :=
  { s with
    runner :=
      if s.truncated then .raised pipelineError
      else if s.main ≠ .exited then .raised pipelineError
      else if s.stopped then .returned
      else .raised pipelineError }

/-- One turn of `_write_commands`: `LiveCommandQueue` gives controls first. -/
def writeCommand (s : NativeRun) : NativeRun :=
  if 0 < s.stops then { s with stops := s.stops - 1, stdin := s.stdin ++ [.stop] }
  else { s with assignments := s.assignments - 1, stdin := s.stdin ++ [.assignment] }

/-- The end of `process_one_camera`: `_finish`, and the tasks that are cancelled. -/
def finish (s : NativeRun) : NativeRun :=
  { s with
    finished := true
    stops := 0
    assignments := 0
    identityQueue := 0
    row :=
      match s.runner with
      | .raised errorCode => ⟨.failed, some errorCode⟩
      | _ =>
          match s.failedEvent with
          | some errorCode => ⟨.failed, some errorCode⟩
          | none => ⟨.stopped, none⟩ }

end NativeRun

/-- The steps of the parties. -/
inductive NativeStep where
  | start
  | startRaises (errorCode : String) (written : Nat) (truncated : Bool)
  | assignment (stale : Bool)
  | stop
  | closed
  | exit
  | emitState (state : RuntimeState)
  | emitData (kept : Bool)
  | emitFailure
  | lifecycleFail (exhausted : Bool)
  | runEnds
  | write
  | read (queued : Bool)
  | eof
  | writeCommand
  | identity (assignments : Nat)
  | monitorStop
  | renew
  | finish
  /-- the operator stops the camera -/
  | operatorStop
  /-- `request_stop` on shutdown of the supervisor -/
  | shutdown
deriving DecidableEq

/-- The lifecycle fails when rebuilding is exhausted or on an invalid transition. -/
def lifecycleError (exhausted : Bool) : String :=
  if exhausted then pipelineError else "LIVE_PIPELINE_STATE_ERROR"

def nativeRun : Machine NativeRun NativeStep where
  init s := s = NativeRun.spawned
  enabled s
    | .start | .startRaises .. =>
        s.main = .polling ∧ s.pipeline = .absent ∧ s.stdin.head? = some .start
    | .assignment _ => s.main = .polling ∧ s.stdin.head? = some .assignment
    | .stop => s.main = .polling ∧ s.stdin.head? = some .stop
    | .closed => s.main = .joining ∧ s.pipeline ≠ .running
    | .exit => s.main = .draining ∧ s.control = [] ∧ s.data = 0
    | .emitState state => s.pipeline = .running ∧ (state = .active ∨ state = .reconnecting)
    | .emitData _ => s.pipeline = .running
    | .emitFailure => s.pipeline = .running ∧ s.failed = false
    | .lifecycleFail _ => s.pipeline = .running ∧ s.failureEmitted = false
    | .runEnds => s.pipeline = .running ∧ (s.failed = true ∨ s.stopRequested = true)
    | .write => s.main.alive = true ∧ (s.control ≠ [] ∨ 0 < s.data)
    | .read _ => s.runner = .reading ∧ s.stdout ≠ []
    | .eof => s.runner = .reading ∧ s.stdout = [] ∧ s.main.alive = false
    | .writeCommand =>
        s.runner = .reading ∧ s.main.alive = true ∧ (0 < s.stops ∨ 0 < s.assignments)
    | .identity _ => s.finished = false ∧ 0 < s.identityQueue
    | .monitorStop => s.finished = false ∧ s.desiredStopped = true ∧ s.stopSent = false
    | .renew => s.finished = false
    | .finish => s.finished = false ∧ s.runner ≠ .reading ∧
        (s.runner = .returned → s.identityQueue = 0)
    | .operatorStop => True
    | .shutdown => s.finished = false
  next s
    | .start => s.acceptStart
    | .startRaises errorCode written truncated => s.startRaises errorCode written truncated
    | .assignment stale => s.acceptAssignment stale
    | .stop => s.acceptStop
    | .closed => { s with main := .draining }
    | .exit => { s with main := .exited, stdin := [] }
    | .emitState state => { s with control := s.control ++ [.state state] }
    | .emitData kept => { s with data := if kept then s.data + 1 else s.data }
    | .emitFailure => s.emitFailure
    | .lifecycleFail exhausted => s.lifecycleFail (lifecycleError exhausted)
    | .runEnds => s.runEnds
    | .write => s.write
    | .read queued => s.read queued
    | .eof => s.eof
    | .writeCommand => s.writeCommand
    | .identity assignments =>
        { s with
          identityQueue := s.identityQueue - 1
          assignments := s.assignments + assignments }
    | .monitorStop => { s with stops := s.stops + 1, stopSent := true }
    | .renew => s
    | .finish => s.finish
    | .operatorStop => { s with desiredStopped := true, asked := true }
    | .shutdown => { s with stops := s.stops + 1, asked := true }

instance (s : NativeRun) (step : NativeStep) : Decidable (nativeRun.enabled s step) :=
  match step with
  | .start | .startRaises .. | .assignment _ | .stop | .closed | .exit | .emitState _
  | .emitFailure | .lifecycleFail _ | .runEnds | .write | .read _ | .eof | .writeCommand
  | .identity _ | .monitorStop | .finish => inferInstanceAs (Decidable (_ ∧ _))
  | .emitData _ | .renew | .shutdown => inferInstanceAs (Decidable (_ = _))
  | .operatorStop => inferInstanceAs (Decidable True)

end Mvision.Live
