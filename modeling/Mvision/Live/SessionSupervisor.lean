import Mvision.Live.NativeRun
import Mvision.Live.SessionLeases

/-!
# Session runs under `LiveSupervisor`

`process_one_session` claims a run and starts the native worker for it.  One task hands the events
of the worker to the tables, another one renews the lease and looks whether the session is still
desired, and the first of them to end decides what is recorded.  All the while other workers and
the requests of users change the same tables.
-/

namespace Mvision.Live

open Mvision.Library

/-! ## What becomes of the row of a run -/

namespace LiveSessionRun

/-- Another worker has found the lease expired and closed the run. -/
def TakenOver (run : LiveSessionRun) : Prop :=
  run.runtimeState = .failed ∧ run.errorCode = some "LIVE_WORKER_LEASE_EXPIRED" ∧
    run.leaseToken = none

/-- The run is open, and leased to the worker under the token, be the lease expired or not. -/
def OpenUnder (workerId leaseToken : String) (run : LiveSessionRun) : Prop :=
  run.runtimeState.isTerminal = false ∧ run.workerId = some workerId ∧
    run.leaseToken = some leaseToken

/-- What those do with a run who do not have its token. -/
def LeftAlone (time : Timestamp) (run run' : LiveSessionRun) : Prop :=
  run' = run ∨
    (run.runtimeState.isTerminal = false ∧ run.leaseHeld time = false ∧ run' = run.expire time)

variable {run run' : LiveSessionRun} {time now : Timestamp}

theorem takenOver_expire (run : LiveSessionRun) (time : Timestamp) :
    (run.expire time).TakenOver := ⟨rfl, rfl, rfl⟩

theorem leaseHeld_mono (h : run.leaseHeld now = false) (hle : now ≤ time) :
    run.leaseHeld time = false := by
  rw [sessionLeaseHeld_eq_false_iff] at h ⊢
  intro t ht
  exact (h t ht).trans hle

/-- A closed run is left as it is. -/
theorem LeftAlone.closed (h : LeftAlone time run run')
    (hclosed : run.runtimeState.isTerminal = true) : run' = run := by
  rcases h with rfl | ⟨hopen, -⟩
  · rfl
  · rw [hopen] at hclosed
    cases hclosed

theorem TakenOver.leftAlone (h : run.TakenOver) (hleft : LeftAlone time run run') :
    run'.TakenOver := by
  have hclosed : run.runtimeState.isTerminal = true := by
    rw [h.1]
    rfl
  rw [hleft.closed hclosed]
  exact h

end LiveSessionRun

/-- The operation does not present the token. -/
def SessionOp.Foreign (op : SessionOp) (leaseToken : Option String) : Prop :=
  ∀ runId workerId τ, op.presents = some (runId, workerId, some τ) → leaseToken ≠ some τ
instance SessionOp.decidableForeign (op : SessionOp) (leaseToken : Option String) :
    Decidable (op.Foreign leaseToken) :=
  match h : op.presents with
  | some (runId, workerId, some τ) =>
      if hsame : leaseToken = some τ then
        isFalse fun hforeign => hforeign runId workerId τ h hsame
      else isTrue (by
        intro k w' τ' hpresents
        rw [h] at hpresents
        cases hpresents
        exact hsame)
  | some (_, _, none) => isTrue (by
      intro k w' τ' hpresents
      rw [h] at hpresents
      cases hpresents)
  | none => isTrue (by
      intro k w' τ' hpresents
      rw [h] at hpresents
      cases hpresents)

section Rows

variable {s : SessionState} {run : LiveSessionRun} {runId generationId w : String}
  {attempt : Nat} {τ : Option String} {now : Timestamp}

/-- No operation without the token passes the fence of a run. -/
theorem SessionInv.foreign_fence (hs : SessionInv s) (hrun : run ∈ s.db.runs.rows)
    (hforeign : ∀ token, τ = some token → run.leaseToken ≠ some token) :
    run.fence runId generationId attempt w τ now = false := by
  by_contra hfence
  rw [Bool.not_eq_false, sessionFence_iff] at hfence
  obtain ⟨-, -, -, hworker, htoken, -⟩ := hfence
  cases hclosed : run.runtimeState.isTerminal with
  | true =>
      have hfree := hs.closed_free run hrun hclosed
      rw [hworker] at hfree
      cases hfree
  | false =>
      obtain ⟨token, hheld, -⟩ := LeasedAttempt.LeaseLedger.open_held hs run hrun hclosed
      exact hforeign token (htoken.symm.trans hheld) hheld

/-- A claim closes the latest run of the generation if its lease has expired, and no other. -/
theorem claimGeneration_row {token : String} {lease : Int}
    (hfresh : runId ∉ s.db.runs.rows.map LiveSessionRun.runId) (hrun : run ∈ s.db.runs.rows) :
    ∃ run' ∈ (LiveSessionRepository.claimGeneration w token now lease runId s.db).2.runs.rows,
      run.LeftAlone now run' := by
  cases hc : (LiveSessionRepository.claimGeneration w token now lease runId s.db).1 with
  | none =>
      rw [(claimGeneration_none hc).2]
      exact ⟨run, hrun, .inl rfl⟩
  | some claimed =>
      obtain ⟨g, hg, -, hdb⟩ := claimGeneration_some hc
      rw [hdb, startRun_rows hfresh]
      refine ⟨_, List.mem_append_left _ (List.mem_map_of_mem hrun), ?_⟩
      split
      · rename_i hlatest
        have havailable := List.find?_some hg
        rw [LiveSessionGeneration.available, hlatest.1, Option.any_some,
          LiveSessionRun.blocks, hlatest.2] at havailable
        refine .inr ⟨hlatest.2, ?_, rfl⟩
        simpa using havailable
      · exact .inl rfl

/-! ### The guarded updates -/

section Guarded

variable {workerId : String}

theorem renewRun_rows {token : String} {expiresAt : Timestamp} :
    (SessionEvent.next s
        ⟨now, .renewRun runId workerId token expiresAt generationId attempt⟩).db.runs.rows =
      s.db.runs.rows.map fun run =>
        if run.fence runId generationId attempt workerId (some token) now then
          { run with leaseExpiresAt := some expiresAt }
        else run := rfl

theorem updateRunState_rows {state : RuntimeState} (h : state.isNonterminal = true) :
    (SessionEvent.next s
        ⟨now, .updateRunState runId workerId τ generationId attempt state⟩).db.runs.rows =
      s.db.runs.rows.map fun run =>
        if run.fence runId generationId attempt workerId τ now then
          { run with runtimeState := state }
        else run := by
  simp only [SessionEvent.next, SessionOp.exec, LiveSessionRepository.updateRunState, h, if_true,
    Prod.map_snd, id]
  exact fencedMirror_rows

theorem updateRunState_raises {state : RuntimeState} (h : state.isNonterminal = false) :
    SessionOp.exec now s.db (.updateRunState runId workerId τ generationId attempt state) =
      (.raised "INVALID_LIVE_RUNTIME_STATE", s.db) := by
  rw [SessionOp.exec, LiveSessionRepository.updateRunState, h]
  rfl

theorem finishRun_rows {state : RuntimeState} {code : Option String}
    (h : state.isTerminal = true) :
    (SessionEvent.next s
        ⟨now, .finishRun runId workerId τ generationId attempt state code⟩).db.runs.rows =
      s.db.runs.rows.map fun run =>
        if run.fence runId generationId attempt workerId τ now then run.finished now state code
        else run := by
  simp only [SessionEvent.next, SessionOp.exec, LiveSessionRepository.finishRun, h, if_true,
    Prod.map_snd, id]
  exact fencedMirror_rows

theorem finishRun_raises {state : RuntimeState} {code : Option String}
    (h : state.isTerminal = false) :
    SessionOp.exec now s.db (.finishRun runId workerId τ generationId attempt state code) =
      (.raised "INVALID_LIVE_TERMINAL_STATE", s.db) := by
  rw [SessionOp.exec, LiveSessionRepository.finishRun, h]
  rfl

end Guarded

/-- A step of someone who does not have the token leaves the run alone. -/
theorem foreign_row {e : SessionEvent} (hs : SessionInv s) (he : sessionSystem.enabled s e)
    (hrun : run ∈ s.db.runs.rows) (hforeign : e.op.Foreign run.leaseToken) :
    ∃ run' ∈ (e.next s).db.runs.rows, run.LeftAlone e.time run' := by
  have hfence : ∀ (k gid : String) (number : Nat) (workerId : String) (τ : Option String),
      e.op.presents = some (k, workerId, τ) →
      run.fence k gid number workerId τ e.time = false := by
    intro k gid number workerId τ hpresents
    refine hs.foreign_fence hrun fun token htoken => hforeign k workerId token ?_
    rw [hpresents, htoken]
  have hkept : ∀ {fence : LiveSessionRun → Bool} {values : LiveSessionRun → LiveSessionRun},
      fence run = false →
      ∃ run' ∈ s.db.runs.rows.map fun run => if fence run then values run else run,
        run.LeftAlone e.time run' := by
    intro fence values hno
    refine ⟨_, List.mem_map_of_mem hrun, ?_⟩
    rw [if_neg (Bool.eq_false_iff.mp hno)]
    exact .inl rfl
  obtain ⟨time, op⟩ := e
  cases op with
  | createSession => exact ⟨run, hrun, .inl rfl⟩
  | createGeneration sessionId generation gid createdAt =>
      refine ⟨run, ?_, .inl rfl⟩
      simp only [SessionEvent.next, SessionOp.exec]
      cases hres : LiveSessionRepository.createGeneration sessionId generation gid createdAt
          s.db with
      | error code => exact hrun
      | ok result =>
          show run ∈ result.2.runs.rows
          rwa [(createGeneration_ok hres).1]
  | setMediaState => exact ⟨run, hrun, .inl rfl⟩
  | setDesiredState sessionId desired =>
      refine ⟨run, ?_, .inl rfl⟩
      show run ∈ (LiveSessionRepository.setDesiredState sessionId desired time s.db).2.runs.rows
      rwa [setDesiredState_runs]
  | claimGeneration workerId token lease claimedId => exact claimGeneration_row he.2.2 hrun
  | renewRun k workerId token expires gid number =>
      rw [renewRun_rows]
      exact hkept (hfence k gid number workerId (some token) rfl)
  | updateRunState k workerId token gid number state =>
      cases hstate : state.isNonterminal with
      | true =>
          rw [updateRunState_rows hstate]
          exact hkept (hfence k gid number workerId token rfl)
      | false =>
          refine ⟨run, ?_, .inl rfl⟩
          rwa [SessionEvent.next, updateRunState_raises hstate]
  | finishRun k workerId token gid number state code =>
      cases hstate : state.isTerminal with
      | true =>
          rw [finishRun_rows hstate]
          exact hkept (hfence k gid number workerId token rfl)
      | false =>
          refine ⟨run, ?_, .inl rfl⟩
          rwa [SessionEvent.next, finishRun_raises hstate]

end Rows

/-! ## `process_one_session` -/

/-- An exception that ends a task. -/
inductive TaskError where
  /-- `NativeLiveRunnerError` -/
  | native (errorCode : String)
  | other
deriving DecidableEq

/-- The code that is recorded for an exception. -/
def TaskError.recorded : TaskError → String
  | .native errorCode => errorCode
  | .other => pipelineError

inductive RunnerTask where
  | absent
  | running
  | returned
  | raised (error : TaskError)
  | cancelled
deriving DecidableEq

inductive MonitorTask where
  | absent
  | sleeping
  /-- `LiveLeaseLostError` -/
  | leaseLost
  | raised
  | cancelled
deriving DecidableEq

/-- The failure that `failed_event` holds after an event. -/
def heardFailure (last : Option String) : NativeEvent → Option String
  | .failed errorCode => some errorCode
  | _ => last

/-- What a run has come to. -/
inductive Outcome where
  | stopped
  | failedEvent (errorCode : String)
  | generationMissing
  | exception (error : TaskError)
deriving DecidableEq

def Outcome.runtimeState : Outcome → RuntimeState
  | .stopped => .stopped
  | _ => .failed

def Outcome.errorCode : Outcome → Option String
  | .stopped => none
  | .failedEvent errorCode => some errorCode
  | .generationMissing => some "LIVE_SESSION_GENERATION_NOT_FOUND"
  | .exception error => some error.recorded

/-- Where `_finish_session` is called. -/
inductive FinishSite where
  | beforeTry
  | tryBody
  | handler
deriving DecidableEq

/-- How a call ends. -/
inductive Verdict where
  /-- `finish_run` has written the outcome -/
  | recorded (outcome : Outcome)
  /-- the lease is lost, and nothing is written -/
  | lost
  /-- an exception of the tables leaves the call -/
  | raised
deriving DecidableEq

/-- Where `process_one_session` is. -/
inductive Stage where
  /-- before the start command -/
  | starting
  /-- in `asyncio.wait` -/
  | waiting
  /-- the runner is cancelled, and awaited -/
  | cancelling
  | finishing (outcome : Outcome) (site : FinishSite)
  /-- in the `finally` clause -/
  | leaving (verdict : Verdict)
deriving DecidableEq

/-- What the call knows of the run that it has claimed. -/
structure ClaimedRun where
  runId : String
  generationId : String
  runtimeAttempt : Nat
  leaseToken : String
deriving DecidableEq

/-- A call with a run, and its two tasks. -/
structure Supervision where
  claimed : ClaimedRun
  stage : Stage
  runner : RunnerTask := .absent
  monitor : MonitorTask := .absent
  failedEvent : Option String := none
  stopSent : Bool := false
  /-- history: the events that `on_event` was called with -/
  delivered : List NativeEvent := []

structure StopRequest where
  runId : String
  sequence : Nat
  reason : String
deriving DecidableEq

/-- A call that has ended. -/
structure Report where
  claimed : ClaimedRun
  verdict : Verdict
  delivered : List NativeEvent

structure Supervisor where
  shared : SessionState
  current : Option Supervision := none
  commandSequence : Nat := 2
  /-- history: the stop commands that were put into a queue -/
  stops : List StopRequest := []
  /-- history: the calls that have ended, the last one first -/
  reports : List Report := []

/-- Where the tables are needed they answer, or raise and roll back what they were asked to do. -/
inductive SupervisorStep where
  /-- an operation of anyone else -/
  | other (e : SessionEvent)
  | claim (time : Timestamp) (leaseToken runId : String)
  /-- `_session_start_command` and the creation of the tasks -/
  | start (raises : Bool)
  /-- the runner calls `on_event` -/
  | event (time : Timestamp) (event : NativeEvent) (answers : Bool)
  | runnerReturns
  | runnerRaises (error : TaskError)
  /-- a turn of the loop of `_monitor_session` -/
  | tick (time : Timestamp) (answers : Bool)
  /-- `asyncio.wait` returns -/
  | wake
  | cancelled
  /-- `_finish_session` -/
  | finish (time : Timestamp) (answers : Bool)
  | leave
  | requestStop (reason : String)

/-- The guarded update has found its row. -/
def SessionEvent.written (e : SessionEvent) (s : SessionState) : Bool :=
  match (e.op.exec e.time s.db).1 with
  | .wrote updated => updated
  | _ => false

namespace ClaimedRun

variable (workerId : String) (leaseSeconds : Int) (claimed : ClaimedRun) (time : Timestamp)

def renewal : SessionEvent :=
  ⟨time, .renewRun claimed.runId workerId claimed.leaseToken (time + timedelta leaseSeconds)
    claimed.generationId claimed.runtimeAttempt⟩

def persisting (state : RuntimeState) : SessionEvent :=
  ⟨time, .updateRunState claimed.runId workerId (some claimed.leaseToken) claimed.generationId
    claimed.runtimeAttempt state⟩

def finishing (outcome : Outcome) : SessionEvent :=
  ⟨time, .finishRun claimed.runId workerId (some claimed.leaseToken) claimed.generationId
    claimed.runtimeAttempt outcome.runtimeState outcome.errorCode⟩

end ClaimedRun

namespace Supervision

variable (w : Supervision)

def start (raises : Bool) : Supervision :=
  if raises then { w with stage := .finishing (.exception .other) .handler }
  else { w with stage := .waiting, runner := .running, monitor := .sleeping }

/-- `on_event` up to what it writes. -/
def hear (event : NativeEvent) : Supervision :=
  { w with
    delivered := w.delivered ++ [event]
    failedEvent := heardFailure w.failedEvent event }

/-- `_persist_session_state` raises if nothing was written, and the runner wraps what it raises. -/
def persisted (written : Bool) : Supervision :=
  if written then w else { w with runner := .raised (.native pipelineError) }

/-- The monitor after `renew_run`. -/
def renewed (written undesired : Bool) : Supervision :=
  if written then { w with stopSent := w.stopSent || undesired }
  else { w with monitor := .leaseLost }

/-- What follows once one of the tasks is done, the monitor first. -/
def wake : Supervision :=
  match w.monitor, w.runner with
  | .leaseLost, _ => { w with stage := .cancelling }
  | .raised, _ => { w with stage := .finishing (.exception .other) .handler }
  | _, .raised error => { w with stage := .finishing (.exception error) .handler }
  | _, .returned =>
      { w with
        monitor := .cancelled
        stage := .finishing (match w.failedEvent with
          | some errorCode => .failedEvent errorCode
          | none => .stopped) .tryBody }
  | _, _ => w

end Supervision

/-- `_finish_session` has written the outcome or has found the lease lost. -/
def Outcome.settled (outcome : Outcome) (written : Bool) : Verdict :=
  if written then .recorded outcome else .lost

/-- `_finish_session` raises another exception. -/
def FinishSite.unanswered : FinishSite → Stage
  | .tryBody => .finishing (.exception .other) .handler
  | _ => .leaving .raised

namespace Supervisor

variable (workerId : String) (leaseSeconds : Int) (s : Supervisor)

/-- The tables answer, and the call goes on with what they say. -/
def perform (e : SessionEvent) (answered : Bool → Supervision) : Supervisor :=
  { s with shared := e.next s.shared, current := some (answered (e.written s.shared)) }

def become (w : Supervision) : Supervisor := { s with current := some w }

def claim (time : Timestamp) (leaseToken runId : String) : Supervisor :=
  let e : SessionEvent := ⟨time, .claimGeneration workerId leaseToken leaseSeconds runId⟩
  let s' := { s with shared := e.next s.shared }
  match (LiveSessionRepository.claimGeneration workerId leaseToken time leaseSeconds runId
      s.shared.db).1 with
  | none => s'
  | some run =>
      s'.become
        { claimed := ⟨run.runId, run.generationId, run.runtimeAttempt, leaseToken⟩
          stage := match s'.shared.db.generations.get run.generationId with
            | some _ => .starting
            | none => .finishing .generationMissing .beforeTry }

/-- `put_nowait(self._stop_command(reason))` -/
def putStop (runId reason : String) : Supervisor :=
  { s with
    stops := s.stops ++ [⟨runId, s.commandSequence, reason⟩]
    commandSequence := s.commandSequence + 1 }

/-- The generation is gone or not to run any more. -/
def undesired (generationId : String) : Bool :=
  (s.shared.db.generations.get generationId).all fun generation =>
    decide (generation.desiredState ≠ .running)

def event (w : Supervision) (time : Timestamp) (event : NativeEvent) (answers : Bool) :
    Supervisor :=
  match event with
  | .state state =>
      if state.isTerminal then s.become (w.hear event)
      else if answers then
        s.perform (w.claimed.persisting workerId time state) (w.hear event).persisted
      else s.become ((w.hear event).persisted false)
  | _ => s.become (w.hear event)

def tick (w : Supervision) (time : Timestamp) (answers : Bool) : Supervisor :=
  let undesired := s.undesired w.claimed.generationId
  let renewal := w.claimed.renewal workerId leaseSeconds time
  if answers then
    let s' := s.perform renewal fun written => w.renewed written undesired
    if renewal.written s.shared && undesired && !w.stopSent then
      s'.putStop w.claimed.runId "desired_stopped"
    else s'
  else s.become { w with monitor := .raised }

def finish (w : Supervision) (time : Timestamp) (answers : Bool) : Supervisor :=
  match w.stage with
  | .finishing outcome site =>
      if answers then
        s.perform (w.claimed.finishing workerId time outcome) fun written =>
          { w with stage := .leaving (outcome.settled written) }
      else s.become { w with stage := site.unanswered }
  | _ => s

def leave (w : Supervision) : Supervisor :=
  match w.stage with
  | .leaving verdict =>
      { s with current := none, reports := ⟨w.claimed, verdict, w.delivered⟩ :: s.reports }
  | _ => s

/-- A command queue is there between the start command and the end of the call. -/
def requestStop (reason : String) : Supervisor :=
  match s.current with
  | some w => if w.runner = .absent then s else s.putStop w.claimed.runId reason
  | none => s

/-- A step of the call with a run. -/
def advance (w : Supervision) : SupervisorStep → Supervisor
  | .start raises => s.become (w.start raises)
  | .event time event answers => s.event workerId w time event answers
  | .runnerReturns => s.become { w with runner := .returned }
  | .runnerRaises error => s.become { w with runner := .raised error }
  | .tick time answers => s.tick workerId leaseSeconds w time answers
  | .wake => s.become w.wake
  | .cancelled => s.become { w with runner := .cancelled, stage := .leaving .lost }
  | .finish time answers => s.finish workerId w time answers
  | .leave => s.leave w
  | _ => s

def next : SupervisorStep → Supervisor
  | .other e => { s with shared := e.next s.shared }
  | .claim time leaseToken runId => s.claim workerId leaseSeconds time leaseToken runId
  | .requestStop reason => s.requestStop reason
  | step =>
      match s.current with
      | some w => s.advance workerId leaseSeconds w step
      | none => s

/-- The tokens that the supervisor has drawn and used. -/
def tokens : List String :=
  (s.current.map fun w => w.claimed.leaseToken).toList ++
    s.reports.map fun report => report.claimed.leaseToken

end Supervisor

/-- When a step of the call with a run may happen. -/
def Supervision.admits (w : Supervision) (now : Timestamp) : SupervisorStep → Prop
  | .start _ => w.stage = .starting
  | .event time _ _ => w.runner = .running ∧ now ≤ time
  | .runnerReturns | .runnerRaises _ => w.runner = .running
  | .tick time _ => w.monitor = .sleeping ∧ now ≤ time
  | .wake => w.stage = .waiting ∧ (w.monitor = .leaseLost ∨ w.monitor = .raised ∨
      w.runner = .returned ∨ ∃ error, w.runner = .raised error)
  | .cancelled => w.stage = .cancelling
  | .finish time _ => (∃ outcome site, w.stage = .finishing outcome site) ∧ now ≤ time
  | .leave => ∃ verdict, w.stage = .leaving verdict
  | _ => False

/-- One call after the other of `process_one_session`, and everyone else on the same tables; nobody
else has its tokens. -/
def sessionSupervisor (workerId : String) (leaseSeconds : Int) :
    Machine Supervisor SupervisorStep where
  init s := sessionSystem.init s.shared ∧ s = { shared := s.shared }
  enabled s
    | .other e => sessionSystem.enabled s.shared e ∧
        ∀ leaseToken ∈ s.tokens, e.op.Foreign (some leaseToken)
    | .claim time leaseToken runId => s.current = none ∧ sessionSystem.enabled s.shared
        ⟨time, .claimGeneration workerId leaseToken leaseSeconds runId⟩
    | .requestStop _ => True
    | step => ∃ w, s.current = some w ∧ w.admits s.shared.now step
  next s step := s.next workerId leaseSeconds step

/-! ## What a verdict says -/

/-- The row that the call has claimed. -/
def ClaimedRun.IsRow (claimed : ClaimedRun) (run : LiveSessionRun) : Prop :=
  run.runId = claimed.runId ∧ run.generationId = claimed.generationId ∧
    run.runtimeAttempt = claimed.runtimeAttempt

/-- A recorded outcome is in the row.  A run that is lost is taken over, or its lease has expired.
A run whose call raised is taken over, or leased as before. -/
def Verdict.Holds (workerId leaseToken : String) (now : Timestamp) (run : LiveSessionRun) :
    Verdict → Prop
  | .recorded outcome => run.runtimeState = outcome.runtimeState ∧
      run.errorCode = outcome.errorCode ∧ run.leaseToken = none
  | .lost => run.TakenOver ∨
      (run.OpenUnder workerId leaseToken ∧ run.leaseHeld now = false)
  | .raised => run.TakenOver ∨ run.OpenUnder workerId leaseToken

/-- The verdict holds of the row of the run. -/
def ClaimedRun.Stands (workerId : String) (claimed : ClaimedRun) (shared : SessionState)
    (verdict : Verdict) : Prop :=
  ∃ run ∈ shared.db.runs.rows, claimed.IsRow run ∧
    verdict.Holds workerId claimed.leaseToken shared.now run

/-- The last failure that the worker told of. -/
def lastFailure (delivered : List NativeEvent) : Option String :=
  delivered.foldl heardFailure none

/-- What an outcome says of the events. -/
def Outcome.Told (delivered : List NativeEvent) : Outcome → Prop
  | .stopped => lastFailure delivered = none
  | .failedEvent errorCode => lastFailure delivered = some errorCode
  | _ => True

/-- A call that has ended tells what became of its run. -/
structure Report.Sound (workerId : String) (shared : SessionState) (report : Report) : Prop where
  stands : report.claimed.Stands workerId shared report.verdict
  told : ∀ outcome, report.verdict = .recorded outcome → outcome.Told report.delivered

/-! ## The row under the steps of others -/

section Standing

variable {workerId : String} {claimed : ClaimedRun} {s : SessionState} {e : SessionEvent}
  {verdict : Verdict} {outcome : Outcome} {run run' : LiveSessionRun} {now time : Timestamp}

theorem Outcome.runtimeState_isTerminal (outcome : Outcome) :
    outcome.runtimeState.isTerminal = true := by
  cases outcome <;> rfl

theorem Verdict.Holds.leftAlone {leaseToken : String}
    (h : verdict.Holds workerId leaseToken now run) (hle : now ≤ time)
    (hleft : run.LeftAlone time run') : verdict.Holds workerId leaseToken time run' := by
  cases verdict with
  | recorded outcome =>
      have hclosed : run.runtimeState.isTerminal = true := by
        rw [h.1]
        exact outcome.runtimeState_isTerminal
      rw [hleft.closed hclosed]
      exact h
  | lost =>
      rcases h with htaken | ⟨hopen, hlapsed⟩
      · exact .inl (htaken.leftAlone hleft)
      · rcases hleft with rfl | ⟨-, -, rfl⟩
        · exact .inr ⟨hopen, LiveSessionRun.leaseHeld_mono hlapsed hle⟩
        · exact .inl (run.takenOver_expire time)
  | raised =>
      rcases h with htaken | hopen
      · exact .inl (htaken.leftAlone hleft)
      · rcases hleft with rfl | ⟨-, -, rfl⟩
        · exact .inr hopen
        · exact .inl (run.takenOver_expire time)

theorem ClaimedRun.IsRow.leftAlone (h : claimed.IsRow run) (hleft : run.LeftAlone time run') :
    claimed.IsRow run' := by
  rcases hleft with rfl | ⟨-, -, rfl⟩
  · exact h
  · exact h

/-- The row shows the token of the call or none. -/
theorem Verdict.Holds.token {leaseToken : String}
    (h : verdict.Holds workerId leaseToken now run) :
    run.leaseToken = none ∨ run.leaseToken = some leaseToken := by
  cases verdict with
  | recorded outcome => exact .inl h.2.2
  | lost =>
      rcases h with htaken | ⟨hopen, -⟩
      · exact .inl htaken.2.2
      · exact .inr hopen.2.2
  | raised =>
      rcases h with htaken | hopen
      · exact .inl htaken.2.2
      · exact .inr hopen.2.2

/-- Without the token nothing changes what holds of the run. -/
theorem ClaimedRun.Stands.foreign (h : claimed.Stands workerId s verdict) (hs : SessionInv s)
    (he : sessionSystem.enabled s e) (hforeign : e.op.Foreign (some claimed.leaseToken)) :
    claimed.Stands workerId (e.next s) verdict := by
  obtain ⟨run, hrun, hrow, hholds⟩ := h
  have hother : e.op.Foreign run.leaseToken := by
    intro k w τ hpresents
    rcases hholds.token with htoken | htoken
    · rw [htoken]
      exact nofun
    · rw [htoken]
      exact hforeign k w τ hpresents
  obtain ⟨run', hrun', hleft⟩ := foreign_row hs he hrun hother
  exact ⟨run', hrun', hrow.leftAlone hleft, hholds.leftAlone he.1 hleft⟩

/-! ## The row under the operations of its call -/

/-- The fence of all operations of the call. -/
def ClaimedRun.fence (workerId : String) (claimed : ClaimedRun) (time : Timestamp) :
    LiveSessionRun → Bool :=
  LiveSessionRun.fence claimed.runId claimed.generationId claimed.runtimeAttempt workerId
    (some claimed.leaseToken) time

theorem Verdict.Holds.of_fence {leaseToken : String}
    (h : verdict.Holds workerId leaseToken now run) (hle : now ≤ time)
    (htoken : run.leaseToken = some leaseToken) (hheld : run.leaseHeld time = true) :
    verdict = .raised ∧ run.OpenUnder workerId leaseToken := by
  have hnot (htaken : run.TakenOver) : False := by
    rw [htaken.2.2] at htoken
    cases htoken
  cases verdict with
  | recorded outcome =>
      rw [h.2.2] at htoken
      cases htoken
  | lost =>
      rcases h with htaken | ⟨-, hlapsed⟩
      · exact (hnot htaken).elim
      · rw [LiveSessionRun.leaseHeld_mono hlapsed hle] at hheld
        cases hheld
  | raised =>
      rcases h with htaken | hopen
      · exact (hnot htaken).elim
      · exact ⟨rfl, hopen⟩

/-- The fence lets the call through to its open run, or finds nothing.  If it finds nothing, the
run is lost. -/
theorem ClaimedRun.Stands.fence_cases (h : claimed.Stands workerId s verdict)
    (hle : s.now ≤ time) :
    (∃ run ∈ s.db.runs.rows, claimed.IsRow run ∧ claimed.fence workerId time run = true ∧
      run.OpenUnder workerId claimed.leaseToken ∧ verdict = .raised) ∨
    (∀ run ∈ s.db.runs.rows, claimed.fence workerId time run = false) ∧
      ∃ run ∈ s.db.runs.rows, claimed.IsRow run ∧
        verdict.Holds workerId claimed.leaseToken time run ∧
        (verdict = .raised → Verdict.lost.Holds workerId claimed.leaseToken time run) := by
  obtain ⟨run, hrun, hrow, hholds⟩ := h
  cases hfence : claimed.fence workerId time run with
  | true =>
      obtain ⟨-, -, -, -, htoken, hheld⟩ := sessionFence_iff.mp hfence
      obtain ⟨hverdict, hopen⟩ := hholds.of_fence hle htoken hheld
      exact .inl ⟨run, hrun, hrow, hfence, hopen, hverdict⟩
  | false =>
      refine .inr ⟨?_, run, hrun, hrow, hholds.leftAlone hle (.inl rfl), ?_⟩
      · intro other hother
        by_contra hpasses
        rw [Bool.not_eq_false] at hpasses
        obtain ⟨hid, -⟩ := sessionFence_iff.mp hpasses
        obtain rfl : other = run := Table.eq_of_mem hother hrun (hid.trans hrow.1.symm)
        rw [hpasses] at hfence
        cases hfence
      · rintro rfl
        rcases hholds with htaken | hopen
        · exact .inl htaken
        · refine .inr ⟨hopen, ?_⟩
          by_contra hheld
          rw [Bool.not_eq_false] at hheld
          have hpasses : claimed.fence workerId time run = true :=
            sessionFence_iff.mpr ⟨hrow.1, hrow.2.1, hrow.2.2, hopen.2.1, hopen.2.2, hheld⟩
          rw [hpasses] at hfence
          cases hfence

/-- A guarded update of the call writes its open run, or writes nothing. -/
theorem ClaimedRun.Stands.guarded {values : LiveSessionRun → LiveSessionRun}
    (h : claimed.Stands workerId s verdict) (hle : s.now ≤ e.time)
    (hrows : (e.next s).db.runs.rows = s.db.runs.rows.map fun run =>
      if claimed.fence workerId e.time run then values run else run)
    (hwritten : e.written s = s.db.runs.rows.any (claimed.fence workerId e.time)) :
    (e.written s = true ∧ verdict = .raised ∧ ∃ run, claimed.IsRow run ∧
      run.OpenUnder workerId claimed.leaseToken ∧ values run ∈ (e.next s).db.runs.rows) ∨
    e.written s = false ∧ claimed.Stands workerId (e.next s) verdict ∧
      (verdict = .raised → claimed.Stands workerId (e.next s) .lost) := by
  rcases h.fence_cases hle with
    ⟨run, hrun, hrow, hfence, hopen, hverdict⟩ | ⟨hnone, run, hrun, hrow, hholds, hlost⟩
  · refine .inl ⟨?_, hverdict, run, hrow, hopen, ?_⟩
    · rw [hwritten, List.any_eq_true]
      exact ⟨run, hrun, hfence⟩
    · rw [hrows]
      refine List.mem_map.mpr ⟨run, hrun, ?_⟩
      rw [if_pos hfence]
  · have hkept : run ∈ (e.next s).db.runs.rows := by
      rw [hrows]
      refine List.mem_map.mpr ⟨run, hrun, ?_⟩
      rw [hnone run hrun, if_neg Bool.false_ne_true]
    refine .inr ⟨?_, ⟨run, hkept, hrow, hholds⟩, fun hraised => ⟨run, hkept, hrow, hlost hraised⟩⟩
    rw [hwritten, List.any_eq_false]
    intro other hother
    rw [hnone other hother]
    exact Bool.false_ne_true

/-- A renewal keeps what holds of the run, and one that writes nothing shows that it is lost. -/
theorem ClaimedRun.Stands.renewal (h : claimed.Stands workerId s verdict) (hle : s.now ≤ time)
    (leaseSeconds : Int) :
    claimed.Stands workerId ((claimed.renewal workerId leaseSeconds time).next s) verdict ∧
      ((claimed.renewal workerId leaseSeconds time).written s = false → verdict = .raised →
        claimed.Stands workerId ((claimed.renewal workerId leaseSeconds time).next s) .lost) := by
  rcases h.guarded (e := claimed.renewal workerId leaseSeconds time) hle renewRun_rows rfl with
    ⟨hwritten, rfl, run, hrow, hopen, hmem⟩ | ⟨-, hstands, hlost⟩
  · refine ⟨⟨_, hmem, hrow, .inr hopen⟩, ?_⟩
    rw [hwritten]
    exact nofun
  · exact ⟨hstands, fun _ => hlost⟩

theorem fencedMirror_written {fence : LiveSessionRun → Bool}
    {values : LiveSessionRun → LiveSessionRun} {hv}
    {copy : LiveSessionGeneration → LiveSessionGeneration} {hc} {db : SessionDb} :
    (LiveSessionRepository.fencedMirror fence values hv copy hc db).1 = db.runs.rows.any fence := by
  unfold LiveSessionRepository.fencedMirror
  cases hfind : db.runs.rows.find? fence with
  | none =>
      refine (List.any_eq_false.mpr ?_).symm
      exact List.find?_eq_none.mp hfind
  | some run =>
      refine (List.any_eq_true.mpr ?_).symm
      exact ⟨run, List.mem_of_find?_eq_some hfind, List.find?_some hfind⟩

/-- A state of the worker does not close the run. -/
theorem ClaimedRun.Stands.persisting (h : claimed.Stands workerId s verdict) (hle : s.now ≤ time)
    (state : RuntimeState) :
    claimed.Stands workerId ((claimed.persisting workerId time state).next s) verdict := by
  cases hstate : state.isNonterminal with
  | true =>
      have hwritten : (claimed.persisting workerId time state).written s =
          s.db.runs.rows.any (claimed.fence workerId time) := by
        simp only [SessionEvent.written, ClaimedRun.persisting, SessionOp.exec,
          LiveSessionRepository.updateRunState, hstate, if_true, Prod.map_fst]
        exact fencedMirror_written
      rcases h.guarded (e := claimed.persisting workerId time state) hle
          (updateRunState_rows hstate) hwritten with
        ⟨-, rfl, run, hrow, hopen, hmem⟩ | ⟨-, hstands, -⟩
      · exact ⟨_, hmem, hrow, .inr ⟨RuntimeState.not_terminal hstate, hopen.2⟩⟩
      · exact hstands
  | false =>
      obtain ⟨run, hrun, hrow, hholds⟩ := h
      refine ⟨run, ?_, hrow, hholds.leftAlone hle (.inl rfl)⟩
      rwa [ClaimedRun.persisting, SessionEvent.next, updateRunState_raises hstate]

/-- What `_finish_session` writes is recorded, and if it writes nothing the run is lost. -/
theorem ClaimedRun.Stands.finishing (h : claimed.Stands workerId s verdict) (hle : s.now ≤ time)
    (hverdict : ∀ outcome, verdict ≠ .recorded outcome) (outcome : Outcome) :
    claimed.Stands workerId ((claimed.finishing workerId time outcome).next s)
      (outcome.settled ((claimed.finishing workerId time outcome).written s)) := by
  have hterminal := outcome.runtimeState_isTerminal
  have hwritten : (claimed.finishing workerId time outcome).written s =
      s.db.runs.rows.any (claimed.fence workerId time) := by
    simp only [SessionEvent.written, ClaimedRun.finishing, SessionOp.exec,
      LiveSessionRepository.finishRun, hterminal, if_true, Prod.map_fst]
    exact fencedMirror_written
  rcases h.guarded (e := claimed.finishing workerId time outcome) hle
      (finishRun_rows hterminal) hwritten with
    ⟨htrue, -, run, hrow, -, hmem⟩ | ⟨hfalse, hstands, hlost⟩
  · rw [htrue]
    exact ⟨_, hmem, hrow, rfl, rfl, rfl⟩
  · rw [hfalse]
    cases verdict with
    | recorded outcome' => exact absurd rfl (hverdict outcome')
    | lost => exact hstands
    | raised => exact hlost rfl

end Standing

/-! ## The calls -/

namespace Supervision

/-- The outcome that a call is about to record, or has recorded. -/
def outcome (w : Supervision) : Option Outcome :=
  match w.stage with
  | .finishing outcome _ => some outcome
  | .leaving (.recorded outcome) => some outcome
  | _ => none

/-- What already holds of the row, while the call goes on. -/
def standing (w : Supervision) : Verdict :=
  match w.stage with
  | .leaving verdict => verdict
  | _ => if w.monitor = .leaseLost then .lost else .raised

/-- The invariant of a call with a run. -/
structure Sound (workerId : String) (shared : SessionState) (w : Supervision) : Prop where
  stands : w.claimed.Stands workerId shared w.standing
  cancelling : w.stage = .cancelling → w.monitor = .leaseLost
  heard : w.failedEvent = lastFailure w.delivered
  told : ∀ outcome, w.outcome = some outcome → outcome.Told w.delivered
  /-- an outcome that the events decide is not decided while the worker runs -/
  silent : ∀ outcome, w.outcome = some outcome → w.runner = .running →
    ∀ delivered, outcome.Told delivered

variable {workerId : String} {shared : SessionState} {w : Supervision}

theorem standing_not_recorded {outcome : Outcome} {site : FinishSite}
    (h : w.stage = .finishing outcome site) (recorded : Outcome) :
    w.standing ≠ .recorded recorded := by
  unfold standing
  rw [h]
  dsimp only
  split
  · exact nofun
  · exact nofun

/-- A lost run is one whose call may have raised. -/
theorem Sound.raised (h : w.Sound workerId shared)
    (hstage : ∀ verdict, w.stage ≠ .leaving verdict) :
    w.claimed.Stands workerId shared .raised := by
  have hstands := h.stands
  unfold standing at hstands
  split at hstands
  · next verdict hleaving => exact absurd hleaving (hstage verdict)
  · split at hstands
    · obtain ⟨run, hrun, hrow, hholds⟩ := hstands
      exact ⟨run, hrun, hrow, hholds.imp_right fun hopen => hopen.1⟩
    · exact hstands

theorem Sound.start (h : w.Sound workerId shared) (hstage : w.stage = .starting)
    (raises : Bool) : (w.start raises).Sound workerId shared := by
  have hraised := h.raised (by rw [hstage]; exact nofun)
  have hstands := h.stands
  unfold standing at hstands
  rw [hstage] at hstands
  cases raises with
  | true =>
      exact {
        stands := hstands
        cancelling := nofun
        heard := h.heard
        told := by
          rintro _ ⟨⟩
          trivial
        silent := by
          rintro _ ⟨⟩ - delivered
          trivial }
  | false =>
      exact {
        stands := hraised
        cancelling := nofun
        heard := h.heard
        told := nofun
        silent := nofun }

/-- An event is told to the call, and the row is as before. -/
theorem Sound.hear (h : w.Sound workerId shared) (hrunner : w.runner = .running)
    (event : NativeEvent) : (w.hear event).Sound workerId shared where
  stands := h.stands
  cancelling := h.cancelling
  heard := by
    show heardFailure w.failedEvent event = lastFailure (w.delivered ++ [event])
    rw [h.heard, lastFailure, lastFailure, List.foldl_append]
    rfl
  told outcome houtcome := h.silent outcome houtcome hrunner (w.delivered ++ [event])
  silent := h.silent

/-- The runner ends, the row is as before. -/
theorem Sound.runner (h : w.Sound workerId shared) {runner : RunnerTask}
    (hrunner : runner ≠ .running) : { w with runner }.Sound workerId shared where
  stands := h.stands
  cancelling := h.cancelling
  heard := h.heard
  told := h.told
  silent _ _ hrunning := absurd hrunning hrunner

/-- The monitor ends without having lost the lease. -/
theorem Sound.monitorRaised (h : w.Sound workerId shared) (hmonitor : w.monitor = .sleeping) :
    { w with monitor := .raised }.Sound workerId shared where
  stands := by
    have hstands := h.stands
    unfold standing at hstands ⊢
    rw [hmonitor] at hstands
    exact hstands
  cancelling hstage := by
    rw [h.cancelling hstage] at hmonitor
    cases hmonitor
  heard := h.heard
  told := h.told
  silent := h.silent

/-- The call goes on to record an outcome. -/
theorem Sound.finishing (h : w.Sound workerId shared)
    (hstage : ∀ verdict, w.stage ≠ .leaving verdict) {monitor : MonitorTask}
    (hmonitor : monitor = .leaseLost ↔ w.monitor = .leaseLost) {outcome : Outcome}
    {site : FinishSite} (htold : outcome.Told w.delivered)
    (hsilent : w.runner = .running → ∀ delivered, outcome.Told delivered) :
    { w with monitor, stage := .finishing outcome site }.Sound workerId shared where
  stands := by
    have hstands := h.stands
    unfold standing at hstands
    split at hstands
    · next verdict hleaving => exact absurd hleaving (hstage verdict)
    · simp only [standing, hmonitor]
      exact hstands
  cancelling := nofun
  heard := h.heard
  told := by
    rintro _ ⟨⟩
    exact htold
  silent := by
    rintro _ ⟨⟩
    exact hsilent

/-- What `asyncio.wait` leads to. -/
theorem Sound.wake (h : w.Sound workerId shared) (hstage : w.stage = .waiting) :
    w.wake.Sound workerId shared := by
  have hnot : ∀ verdict, w.stage ≠ .leaving verdict := by
    rw [hstage]
    exact nofun
  unfold Supervision.wake
  split
  · next hmonitor =>
      have hstands := h.stands
      unfold standing at hstands
      rw [hstage] at hstands
      exact {
        stands := hstands
        cancelling := fun _ => hmonitor
        heard := h.heard
        told := nofun
        silent := nofun }
  · exact h.finishing hnot Iff.rfl trivial fun _ _ => trivial
  · exact h.finishing hnot Iff.rfl trivial fun _ _ => trivial
  · next hreturned hlost _ =>
      apply h.finishing hnot
      · exact iff_of_false nofun fun hmonitor => hlost hmonitor
      · have hheard := h.heard
        cases hfailed : w.failedEvent with
        | none => exact (hheard.symm.trans hfailed)
        | some errorCode => exact (hheard.symm.trans hfailed)
      · intro hrunning
        rw [hreturned] at hrunning
        cases hrunning
  · exact h

/-- The call ends with what holds of the row now. -/
theorem Sound.leaving {shared' : SessionState} {verdict : Verdict} (h : w.Sound workerId shared)
    (hstands : w.claimed.Stands workerId shared' verdict)
    (houtcome : ∀ outcome, verdict = .recorded outcome → w.outcome = some outcome) :
    { w with stage := .leaving verdict }.Sound workerId shared' where
  stands := hstands
  cancelling := nofun
  heard := h.heard
  told := by
    intro outcome hrecorded
    cases verdict with
    | recorded outcome' =>
        cases hrecorded
        exact h.told outcome (houtcome outcome rfl)
    | lost => cases hrecorded
    | raised => cases hrecorded
  silent := by
    intro outcome hrecorded
    cases verdict with
    | recorded outcome' =>
        cases hrecorded
        exact h.silent outcome (houtcome outcome rfl)
    | lost => cases hrecorded
    | raised => cases hrecorded

theorem Sound.unanswered (h : w.Sound workerId shared) {outcome : Outcome} {site : FinishSite}
    (hstage : w.stage = .finishing outcome site) :
    { w with stage := site.unanswered }.Sound workerId shared := by
  have hnot : ∀ verdict, w.stage ≠ .leaving verdict := by
    rw [hstage]
    exact nofun
  cases site with
  | tryBody => exact h.finishing hnot Iff.rfl trivial fun _ _ => trivial
  | beforeTry => exact h.leaving (h.raised hnot) nofun
  | handler => exact h.leaving (h.raised hnot) nofun

end Supervision

/-! ## The supervisor -/

/-- The invariant: every call, going on or ended, knows what became of its run, and no two calls
have a token in common. -/
structure Supervised (workerId : String) (s : Supervisor) : Prop where
  inv : SessionInv s.shared
  current : ∀ w, s.current = some w → w.Sound workerId s.shared
  reports : ∀ report ∈ s.reports, report.Sound workerId s.shared
  issued : ∀ leaseToken ∈ s.tokens, leaseToken ∈ s.shared.issued
  distinct : s.tokens.Nodup
  increasing : (s.stops.map StopRequest.sequence).Pairwise (· < ·)
  below : ∀ stop ∈ s.stops, stop.sequence < s.commandSequence

section Supervised

variable {workerId : String} {leaseSeconds : Int} {s : Supervisor} {w w' : Supervision}
  {e : SessionEvent} {time : Timestamp}

theorem Report.Sound.foreign {report : Report} {shared : SessionState}
    (h : report.Sound workerId shared) (hs : SessionInv shared)
    (he : sessionSystem.enabled shared e)
    (hforeign : e.op.Foreign (some report.claimed.leaseToken)) :
    report.Sound workerId (e.next shared) :=
  ⟨h.stands.foreign hs he hforeign, h.told⟩

theorem Supervision.Sound.foreign {shared : SessionState} (h : w.Sound workerId shared)
    (hs : SessionInv shared) (he : sessionSystem.enabled shared e)
    (hforeign : e.op.Foreign (some w.claimed.leaseToken)) : w.Sound workerId (e.next shared) :=
  { h with stands := h.stands.foreign hs he hforeign }

theorem tokens_current (h : s.current = some w) :
    s.tokens = w.claimed.leaseToken ::
      s.reports.map fun report => report.claimed.leaseToken := by
  rw [Supervisor.tokens, h]
  rfl

/-- The call with the run goes on without the tables. -/
theorem Supervised.become (h : Supervised workerId s) (hw : s.current = some w)
    (hclaimed : w'.claimed = w.claimed) (hsound : w'.Sound workerId s.shared) :
    Supervised workerId (s.become w') := by
  have htokens : (s.become w').tokens = s.tokens := by
    rw [tokens_current hw, ← hclaimed]
    rfl
  exact {
    inv := h.inv
    current := by
      rintro _ ⟨⟩
      exact hsound
    reports := h.reports
    issued := by
      rw [htokens]
      exact h.issued
    distinct := by
      rw [htokens]
      exact h.distinct
    increasing := h.increasing
    below := h.below }

/-- The call with the run has the tables do something under its token. -/
theorem Supervised.perform (h : Supervised workerId s) (hw : s.current = some w)
    (he : sessionSystem.enabled s.shared e)
    (hown : ∀ k w' τ, e.op.presents = some (k, w', some τ) → τ = w.claimed.leaseToken)
    {answered : Bool → Supervision}
    (hclaimed : (answered (e.written s.shared)).claimed = w.claimed)
    (hsound : (answered (e.written s.shared)).Sound workerId (e.next s.shared)) :
    Supervised workerId (s.perform e answered) := by
  have htokens : (s.perform e answered).tokens = s.tokens := by
    rw [tokens_current hw, ← hclaimed]
    rfl
  exact {
    inv := session_fenced.preserved s.shared e he h.inv
    current := by
      rintro _ ⟨⟩
      exact hsound
    reports := by
      intro report hreport
      apply (h.reports report hreport).foreign h.inv he
      rintro k w' τ hpresents ⟨⟩
      -- the tokens of two calls differ
      have hnodup := h.distinct
      rw [tokens_current hw] at hnodup
      rw [← hown k w' _ hpresents] at hnodup
      exact (List.nodup_cons.mp hnodup).1 (List.mem_map.mpr ⟨report, hreport, rfl⟩)
    issued := by
      rw [htokens]
      exact fun leaseToken hmem => List.mem_append_right _ (h.issued leaseToken hmem)
    distinct := by
      rw [htokens]
      exact h.distinct
    increasing := h.increasing
    below := h.below }

/-- A stop command has a greater number than those before it. -/
theorem Supervised.putStop (h : Supervised workerId s) (runId reason : String) :
    Supervised workerId (s.putStop runId reason) where
  inv := h.inv
  current := h.current
  reports := h.reports
  issued := h.issued
  distinct := h.distinct
  increasing := by
    show ((s.stops ++ [(⟨runId, s.commandSequence, reason⟩ : StopRequest)]).map
      StopRequest.sequence).Pairwise _
    rw [List.map_append, List.pairwise_append]
    refine ⟨h.increasing, List.pairwise_singleton _ _, ?_⟩
    intro earlier hearlier later hlater
    obtain ⟨stop, hstop, rfl⟩ := List.mem_map.mp hearlier
    obtain rfl : later = s.commandSequence := List.mem_singleton.mp hlater
    exact h.below stop hstop
  below := by
    intro stop hstop
    show stop.sequence < s.commandSequence + 1
    have hstop : stop ∈ s.stops ++ [(⟨runId, s.commandSequence, reason⟩ : StopRequest)] := hstop
    rcases List.mem_append.mp hstop with hold | hnew
    · exact Nat.lt_succ_of_lt (h.below stop hold)
    · rw [List.mem_singleton.mp hnew]
      exact Nat.lt_succ_self _

theorem Supervised.other (h : Supervised workerId s) (he : sessionSystem.enabled s.shared e)
    (hforeign : ∀ leaseToken ∈ s.tokens, e.op.Foreign (some leaseToken)) :
    Supervised workerId { s with shared := e.next s.shared } where
  inv := session_fenced.preserved s.shared e he h.inv
  current := by
    intro w hw
    have hw : s.current = some w := hw
    apply (h.current w hw).foreign h.inv he
    apply hforeign
    rw [tokens_current hw]
    exact List.mem_cons_self
  reports := by
    intro report hreport
    apply (h.reports report hreport).foreign h.inv he
    apply hforeign
    exact List.mem_append_right _ (List.mem_map.mpr ⟨report, hreport, rfl⟩)
  issued leaseToken hmem := List.mem_append_right _ (h.issued leaseToken hmem)
  distinct := h.distinct
  increasing := h.increasing
  below := h.below

/-- A claim that returns a run starts a call with it. -/
theorem Supervised.claim (h : Supervised workerId s) (hnone : s.current = none)
    {leaseToken runId : String}
    (he : sessionSystem.enabled s.shared
      ⟨time, .claimGeneration workerId leaseToken leaseSeconds runId⟩) :
    Supervised workerId (s.claim workerId leaseSeconds time leaseToken runId) := by
  have hforeign : ∀ t ∈ s.tokens,
      (SessionOp.claimGeneration workerId leaseToken leaseSeconds runId).Foreign (some t) :=
    fun _ _ => nofun
  have hothers := h.other he hforeign
  unfold Supervisor.claim
  dsimp only
  split
  · exact hothers
  · next run hclaim =>
      obtain ⟨g, -, hrun, hdb⟩ := claimGeneration_some hclaim
      have hrow : run ∈ (SessionEvent.next s.shared
          ⟨time, .claimGeneration workerId leaseToken leaseSeconds runId⟩).db.runs.rows := by
        show run ∈ (LiveSessionRepository.claimGeneration workerId leaseToken time leaseSeconds
          runId s.shared.db).2.runs.rows
        rw [hdb, startRun_rows he.2.2, ← hrun]
        exact List.mem_append_right _ List.mem_cons_self
      have hstands : ClaimedRun.Stands workerId
          ⟨run.runId, run.generationId, run.runtimeAttempt, leaseToken⟩
          (SessionEvent.next s.shared
            ⟨time, .claimGeneration workerId leaseToken leaseSeconds runId⟩) .raised := by
        refine ⟨run, hrow, ⟨rfl, rfl, rfl⟩, .inr ?_⟩
        rw [hrun]
        exact ⟨rfl, rfl, rfl⟩
      have htokens : s.tokens = s.reports.map fun report => report.claimed.leaseToken := by
        rw [Supervisor.tokens, hnone]
        rfl
      exact {
        inv := hothers.inv
        current := by
          rintro _ ⟨⟩
          split
          · exact ⟨hstands, nofun, rfl, nofun, nofun⟩
          · refine ⟨hstands, nofun, rfl, ?_, ?_⟩
            · rintro _ ⟨⟩
              trivial
            · rintro _ ⟨⟩ hrunning
              cases hrunning
        reports := hothers.reports
        issued := by
          intro token hmem
          rcases List.mem_cons.mp hmem with rfl | hold
          · exact List.mem_cons_self
          · exact List.mem_cons_of_mem _ (h.issued token (htokens ▸ hold))
        distinct := by
          show (leaseToken :: s.reports.map fun report => report.claimed.leaseToken).Nodup
          rw [← htokens]
          exact List.nodup_cons.mpr ⟨fun hmem => he.2.1 (h.issued _ hmem), h.distinct⟩
        increasing := h.increasing
        below := h.below }

theorem Supervised.event (h : Supervised workerId s) (hw : s.current = some w)
    (hrunner : w.runner = .running) (hle : s.shared.now ≤ time) (event : NativeEvent)
    (answers : Bool) : Supervised workerId (s.event workerId w time event answers) := by
  have hheard := (h.current w hw).hear hrunner event
  unfold Supervisor.event
  split
  · next state =>
      split
      · exact h.become hw rfl hheard
      · split
        · refine h.perform hw ⟨hle, trivial⟩ ?_ ?_ ?_
          · rintro k w' τ ⟨⟩
            rfl
          · unfold Supervision.persisted
            split <;> rfl
          · have hwritten : (w.hear (.state state)).Sound workerId
                ((w.claimed.persisting workerId time state).next s.shared) :=
              { hheard with stands := hheard.stands.persisting hle state }
            unfold Supervision.persisted
            split
            · exact hwritten
            · exact hwritten.runner nofun
        · exact h.become hw rfl (hheard.runner nofun)
  · exact h.become hw rfl hheard

theorem Supervised.tick (h : Supervised workerId s) (hw : s.current = some w)
    (hmonitor : w.monitor = .sleeping) (hle : s.shared.now ≤ time) (answers : Bool) :
    Supervised workerId (s.tick workerId leaseSeconds w time answers) := by
  have hsound := h.current w hw
  have hperformed : Supervised workerId
      (s.perform (w.claimed.renewal workerId leaseSeconds time) fun written =>
        w.renewed written (s.undesired w.claimed.generationId)) := by
    obtain ⟨hstands, hlost⟩ := hsound.stands.renewal hle leaseSeconds
    refine h.perform hw ⟨hle, trivial⟩ ?_ ?_ ?_
    · rintro k w' τ ⟨⟩
      rfl
    · unfold Supervision.renewed
      split <;> rfl
    · unfold Supervision.renewed
      cases hwritten : (w.claimed.renewal workerId leaseSeconds time).written s.shared with
      | true =>
          exact { hsound with stands := hstands }
      | false =>
          refine ⟨?_, fun _ => rfl, hsound.heard, hsound.told, hsound.silent⟩
          unfold Supervision.standing at hstands hlost ⊢
          cases hstage : w.stage with
          | leaving verdict =>
              rw [hstage] at hstands
              exact hstands
          | starting | waiting | cancelling | finishing _ _ =>
              rw [hstage, hmonitor] at hlost
              exact hlost hwritten rfl
  unfold Supervisor.tick
  dsimp only
  split
  · split
    · exact hperformed.putStop _ _
    · exact hperformed
  · exact h.become hw rfl (hsound.monitorRaised hmonitor)

theorem Supervised.finish (h : Supervised workerId s) (hw : s.current = some w)
    {outcome : Outcome} {site : FinishSite} (hstage : w.stage = .finishing outcome site)
    (hle : s.shared.now ≤ time) (answers : Bool) :
    Supervised workerId (s.finish workerId w time answers) := by
  have hsound := h.current w hw
  unfold Supervisor.finish
  rw [hstage]
  dsimp only
  split
  · refine h.perform hw ⟨hle, trivial⟩ ?_ rfl ?_
    · rintro k w' τ ⟨⟩
      rfl
    · apply hsound.leaving
      · exact hsound.stands.finishing hle
          (Supervision.standing_not_recorded hstage) outcome
      · intro recorded hsettled
        unfold Outcome.settled at hsettled
        split at hsettled
        · cases hsettled
          rw [Supervision.outcome, hstage]
        · cases hsettled
  · exact h.become hw rfl (hsound.unanswered hstage)

theorem Supervised.leave (h : Supervised workerId s) (hw : s.current = some w) {verdict : Verdict}
    (hstage : w.stage = .leaving verdict) : Supervised workerId (s.leave w) := by
  have hsound := h.current w hw
  unfold Supervisor.leave
  rw [hstage]
  have htokens := tokens_current hw
  exact {
    inv := h.inv
    current := by
      intro w hw
      cases hw
    reports := by
      intro report hreport
      rcases List.mem_cons.mp hreport with rfl | hold
      · have hstands := hsound.stands
        rw [Supervision.standing, hstage] at hstands
        refine ⟨hstands, ?_⟩
        rintro outcome rfl
        exact hsound.told outcome (by rw [Supervision.outcome, hstage])
      · exact h.reports report hold
    issued := by
      intro token hmem
      exact h.issued token (htokens ▸ hmem)
    distinct := by
      have hdistinct := h.distinct
      rw [htokens] at hdistinct
      exact hdistinct
    increasing := h.increasing
    below := h.below }

theorem Supervised.requestStop (h : Supervised workerId s) (reason : String) :
    Supervised workerId (s.requestStop reason) := by
  unfold Supervisor.requestStop
  split
  · split
    · exact h
    · exact h.putStop _ _
  · exact h

theorem next_of_admits {step : SupervisorStep} (hw : s.current = some w)
    (hadmits : w.admits s.shared.now step) :
    s.next workerId leaseSeconds step = s.advance workerId leaseSeconds w step := by
  cases step with
  | other | claim | requestStop => cases hadmits
  | start | event | runnerReturns | runnerRaises | tick | wake | cancelled | finish | leave =>
      simp only [Supervisor.next, hw]

/-- A step of the call with the run. -/
theorem Supervised.advance (h : Supervised workerId s) (hw : s.current = some w)
    {step : SupervisorStep} (hadmits : w.admits s.shared.now step) :
    Supervised workerId (s.advance workerId leaseSeconds w step) := by
  have hsound := h.current w hw
  cases step with
  | other | claim | requestStop => cases hadmits
  | start raises =>
      refine h.become hw ?_ (hsound.start hadmits raises)
      unfold Supervision.start
      split <;> rfl
  | event time event answers => exact h.event hw hadmits.1 hadmits.2 event answers
  | runnerReturns => exact h.become hw rfl (hsound.runner nofun)
  | runnerRaises error => exact h.become hw rfl (hsound.runner nofun)
  | tick time answers => exact h.tick hw hadmits.1 hadmits.2 answers
  | wake =>
      refine h.become hw ?_ (hsound.wake hadmits.1)
      unfold Supervision.wake
      split <;> rfl
  | cancelled =>
      have hstage : w.stage = .cancelling := hadmits
      have hcancelled : { w with runner := .cancelled }.Sound workerId s.shared :=
        hsound.runner nofun
      refine h.become hw rfl (hcancelled.leaving ?_ nofun)
      have hstands := hsound.stands
      simp only [Supervision.standing, hstage, hsound.cancelling hstage, if_true] at hstands
      exact hstands
  | finish time answers =>
      obtain ⟨⟨outcome, site, hstage⟩, hle⟩ := hadmits
      exact h.finish hw hstage hle answers
  | leave =>
      obtain ⟨verdict, hstage⟩ := hadmits
      exact h.leave hw hstage

/-- The step lemma. -/
theorem supervised_next (workerId : String) (leaseSeconds : Int) :
    (sessionSupervisor workerId leaseSeconds).Preserved (Supervised workerId) := by
  intro s step he h
  show Supervised workerId (s.next workerId leaseSeconds step)
  cases step with
  | other e => exact h.other he.1 he.2
  | claim time leaseToken runId => exact h.claim he.1 he.2
  | requestStop reason => exact h.requestStop reason
  | start | event | runnerReturns | runnerRaises | tick | wake | cancelled | finish | leave =>
      obtain ⟨w, hw, hadmits⟩ := he
      rw [next_of_admits hw hadmits]
      exact h.advance hw hadmits

theorem supervised_init {s : Supervisor} (workerId : String) (leaseSeconds : Int)
    (h : (sessionSupervisor workerId leaseSeconds).init s) : Supervised workerId s := by
  obtain ⟨hshared, hs⟩ := h
  rw [hs]
  exact {
    inv := sessionInv_init hshared
    current := by
      intro w hw
      cases hw
    reports := nofun
    issued := nofun
    distinct := List.nodup_nil
    increasing := List.Pairwise.nil
    below := nofun }

end Supervised

/-- However the events of the worker, the renewals, the requests of users and the claims of other
workers follow each other, and whatever raises: a call that reports an outcome has it in its row
for ever, and the outcome is what the events told; a call that gives its run up has lost it; and
the stop commands are numbered in their order. -/
theorem session_verdict (workerId : String) (leaseSeconds : Int) {s : Supervisor}
    (hs : (sessionSupervisor workerId leaseSeconds).Reachable s) :
    (∀ report ∈ s.reports, report.Sound workerId s.shared) ∧
      (s.stops.map StopRequest.sequence).Pairwise (· < ·) := by
  have h := (supervised_next workerId leaseSeconds).reachable
    (fun _ => supervised_init workerId leaseSeconds) hs
  exact ⟨h.reports, h.increasing⟩

/-! ### Three calls -/

instance Stage.decidableFinishing (stage : Stage) :
    Decidable (∃ outcome site, stage = .finishing outcome site) :=
  match stage with
  | .finishing outcome site => isTrue ⟨outcome, site, rfl⟩
  | .starting | .waiting | .cancelling | .leaving _ => isFalse (by rintro ⟨outcome, site, ⟨⟩⟩)

instance Stage.decidableLeaving (stage : Stage) : Decidable (∃ verdict, stage = .leaving verdict) :=
  match stage with
  | .leaving verdict => isTrue ⟨verdict, rfl⟩
  | .starting | .waiting | .cancelling | .finishing _ _ => isFalse (by rintro ⟨verdict, ⟨⟩⟩)

instance RunnerTask.decidableRaised (runner : RunnerTask) :
    Decidable (∃ error, runner = .raised error) :=
  match runner with
  | .raised error => isTrue ⟨error, rfl⟩
  | .absent | .running | .returned | .cancelled => isFalse (by rintro ⟨error, ⟨⟩⟩)

instance Supervision.decidableAdmits (w : Supervision) (now : Timestamp)
    (step : SupervisorStep) :
    Decidable (w.admits now step) :=
  match step with
  | .start _ | .runnerReturns | .runnerRaises _ | .cancelled => inferInstanceAs (Decidable (_ = _))
  | .event _ _ _ | .tick _ _ | .wake | .finish _ _ => inferInstanceAs (Decidable (_ ∧ _))
  | .leave => inferInstanceAs (Decidable (∃ _, _))
  | .other _ | .claim _ _ _ | .requestStop _ => inferInstanceAs (Decidable False)

instance Supervisor.decidableAdmits (s : Supervisor) (step : SupervisorStep) :
    Decidable (∃ w, s.current = some w ∧ w.admits s.shared.now step) :=
  match h : s.current with
  | some w =>
      if hadmits : w.admits s.shared.now step then isTrue ⟨w, rfl, hadmits⟩
      else isFalse (by
        rintro ⟨w', ⟨⟩, hother⟩
        exact hadmits hother)
  | none => isFalse (by rintro ⟨w, ⟨⟩, -⟩)

instance sessionSupervisor.decidableEnabled (workerId : String) (leaseSeconds : Int)
    (s : Supervisor) (step : SupervisorStep) :
    Decidable ((sessionSupervisor workerId leaseSeconds).enabled s step) :=
  match step with
  | .other _ | .claim _ _ _ => inferInstanceAs (Decidable (_ ∧ _))
  | .requestStop _ => inferInstanceAs (Decidable True)
  | .start _ | .event _ _ _ | .runnerReturns | .runnerRaises _ | .tick _ _ | .wake | .cancelled
  | .finish _ _ | .leave => inferInstanceAs (Decidable (∃ _, _ ∧ _))

def emptyTables : Supervisor where
  shared := { now := 0, db := ⟨.empty, .empty, .empty⟩, issued := [] }

/-- The worker tells of a failure and stops.  In the second call the lease expires and another
worker takes the run over.  In the third one the tables do not answer at the end. -/
def threeCalls : List SupervisorStep :=
  [.other ⟨0, .createSession "session"⟩, .other ⟨0, .createGeneration "session" 1 "generation" 0⟩,
    .other ⟨0, .setMediaState "generation" .ready none⟩,
    .claim 1 "first" "run 1", .start false, .event 2 (.state .active) true, .tick 3 true,
    .event 4 (.failed "LIVE_SOURCE_ERROR") true, .event 5 .stopped true, .runnerReturns, .wake,
    .finish 6 true, .leave,
    .claim 7 "second" "run 2", .start false, .event 8 (.state .active) true,
    .requestStop "worker_shutdown",
    .other ⟨40000000, .claimGeneration "another" "third" 30 "run 3"⟩,
    .event 40000001 (.state .reconnecting) true, .tick 40000002 true, .wake, .cancelled, .leave,
    .claim 80000000 "fourth" "run 4", .start false, .requestStop "worker_shutdown",
    .event 80000001 .stopped true, .runnerReturns, .wake, .finish 80000002 false,
    .finish 80000003 false, .leave]

def afterThreeCalls : Supervisor := (sessionSupervisor "worker" 30).run emptyTables threeCalls

theorem afterThreeCalls_verdicts :
    afterThreeCalls.reports.map Report.verdict =
        [.raised, .lost, .recorded (.failedEvent "LIVE_SOURCE_ERROR")] ∧
      afterThreeCalls.stops.map StopRequest.sequence = [2, 3] ∧
      (∀ report ∈ afterThreeCalls.reports, report.Sound "worker" afterThreeCalls.shared) ∧
        (afterThreeCalls.stops.map StopRequest.sequence).Pairwise (· < ·) := by
  have hreachable : (sessionSupervisor "worker" 30).Reachable afterThreeCalls :=
    ⟨emptyTables, threeCalls, ⟨⟨rfl, rfl⟩, rfl⟩, by decide, rfl⟩
  refine ⟨by decide, by decide +kernel, ?_⟩
  exact session_verdict "worker" 30 hreachable

end Mvision.Live
