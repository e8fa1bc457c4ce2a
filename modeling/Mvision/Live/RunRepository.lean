import Mathlib.Algebra.Order.Ring.Int
import Mathlib.Data.String.Basic
import Mvision.Datetime
import Mvision.Library.LeaseLedger
import Mvision.Library.Table

/-!
# Live runs of a camera: `LiveRunRepository`

`LiveCamera` keeps the columns that `claim` reads, `LiveCameraRun` all columns
but the row timestamps.  A JSON document stands for itself as text.  The
primary key and the trace parent that a claim draws are arguments of it.
-/

namespace Mvision.Live

open Mvision.Library

inductive RuntimeState where
  | accepted
  | waitingForSource
  | starting
  | active
  | reconnecting
  | stopping
  | stopped
  | failed
deriving DecidableEq, Repr

/-- `_TERMINAL_STATES` -/
def RuntimeState.isTerminal : RuntimeState → Bool
  | .stopped | .failed => true
  | _ => false

/-- `_NONTERMINAL_STATES` -/
def RuntimeState.isNonterminal : RuntimeState → Bool
  | .starting | .active | .reconnecting | .stopping => true
  | _ => false

theorem RuntimeState.not_terminal {state : RuntimeState} (h : state.isNonterminal = true) :
    state.isTerminal = false := by
  cases state <;> simp_all [isTerminal, isNonterminal]

inductive DesiredState where
  | running
  | stopped
deriving DecidableEq, Repr

structure LiveCamera where
  cameraId : String
  desiredState : DesiredState
  desiredTraceparent : Option String
  desiredTracestate : Option String
  isActive : Bool
  updatedAt : Timestamp
  deletedAt : Option Timestamp
deriving DecidableEq

structure LiveCameraRun where
  runId : String
  cameraId : String
  generation : Nat
  runtimeState : RuntimeState
  workerId : Option String
  leaseToken : Option String
  leaseExpiresAt : Option Timestamp
  startedAt : Timestamp
  traceparent : String
  tracestate : Option String
  firstFrameAt : Option Timestamp
  lastFrameAt : Option Timestamp
  stoppedAt : Option Timestamp
  reconnectCount : Nat
  outputPath : Option String
  errorCode : Option String
  sanitizedError : Option String
  metrics : String
deriving DecidableEq

/-- The `live_camera` table under its partial unique index
`uq_live_single_running`. -/
structure LiveCameras where
  table : Table LiveCamera.cameraId
  uqLiveSingleRunning : ∀ c ∈ table.rows, ∀ c' ∈ table.rows,
    c.desiredState = .running ∧ c.deletedAt = none →
      c'.desiredState = .running ∧ c'.deletedAt = none → c = c'

/-- The `live_camera_run` table. -/
abbrev CameraRuns := Table LiveCameraRun.runId

structure CameraDb where
  cameras : LiveCameras
  runs : CameraRuns

namespace LiveCameraRun

/-- `lease_expires_at > now`, false for a run without a lease. -/
def leaseHeld (now : Timestamp) (run : LiveCameraRun) : Bool :=
  run.leaseExpiresAt.any (fun t => decide (now < t))

/-- A run that a claim must leave to its worker. -/
def blocks (now : Timestamp) (run : LiveCameraRun) : Bool :=
  !run.runtimeState.isTerminal && run.leaseHeld now

/-- The row filter of `_fenced_update`. -/
def fence (runId workerId leaseToken : String) (now : Timestamp) (run : LiveCameraRun) : Bool :=
  decide (run.runId = runId) && decide (run.workerId = some workerId) &&
    decide (run.leaseToken = some leaseToken) && run.leaseHeld now

/-- What `claim` makes of a run whose worker let its lease expire. -/
def expire (now : Timestamp) (run : LiveCameraRun) : LiveCameraRun :=
  { run with
    runtimeState := .failed
    stoppedAt := some now
    errorCode := some "LIVE_WORKER_LEASE_EXPIRED"
    workerId := none
    leaseToken := none
    leaseExpiresAt := none }

def finished (now : Timestamp) (runtimeState : RuntimeState)
    (errorCode sanitizedError : Option String) (run : LiveCameraRun) : LiveCameraRun :=
  { run with
    runtimeState := runtimeState
    stoppedAt := some now
    errorCode := errorCode
    sanitizedError := sanitizedError
    workerId := none
    leaseToken := none
    leaseExpiresAt := none }

theorem expire_runId (now : Timestamp) (run : LiveCameraRun) :
    (run.expire now).runId = run.runId := rfl

theorem finished_runId (now : Timestamp) (state : RuntimeState) (code text : Option String)
    (run : LiveCameraRun) : (run.finished now state code text).runId = run.runId := rfl

end LiveCameraRun

/-- The optional columns of `update_state`; `None` leaves a column as it is. -/
structure StateUpdate where
  runtimeState : RuntimeState
  firstFrameAt : Option Timestamp
  lastFrameAt : Option Timestamp
  reconnectCount : Option Nat
  outputPath : Option String
  errorCode : Option String
  sanitizedError : Option String

def StateUpdate.apply (values : StateUpdate) (run : LiveCameraRun) : LiveCameraRun :=
  { run with
    runtimeState := values.runtimeState
    firstFrameAt := values.firstFrameAt <|> run.firstFrameAt
    lastFrameAt := values.lastFrameAt <|> run.lastFrameAt
    reconnectCount := values.reconnectCount.getD run.reconnectCount
    outputPath := values.outputPath <|> run.outputPath
    errorCode := values.errorCode <|> run.errorCode
    sanitizedError := values.sanitizedError <|> run.sanitizedError }

theorem StateUpdate.apply_runId (values : StateUpdate) (run : LiveCameraRun) :
    (values.apply run).runId = run.runId := rfl

namespace LiveRunRepository

/-- The candidate filter of `claim`. -/
def claimable (cameraId : Option String) (camera : LiveCamera) : Bool :=
  decide (camera.desiredState = .running) && camera.isActive && camera.deletedAt.isNone &&
    cameraId.all (fun id => decide (camera.cameraId = id))

def latestForCamera (cameraId : String) (runs : CameraRuns) : Option LiveCameraRun :=
  first (fun a b => b.generation ≤ a.generation) (fun run => run.cameraId = cameraId) runs.rows

/-- The run a claim inserts for the camera it has selected. -/
def newRun (camera : LiveCamera) (latest : Option LiveCameraRun)
    (workerId leaseToken : String) (now : Timestamp) (leaseSeconds : Int)
    (runId newTraceparent : String) : LiveCameraRun where
  runId := runId
  cameraId := camera.cameraId
  generation := match latest with
    | none => 1
    | some run => run.generation + 1
  runtimeState := .starting
  workerId := some workerId
  leaseToken := some leaseToken
  leaseExpiresAt := some (now + timedelta leaseSeconds)
  startedAt := now
  -- `desired_traceparent or new`: an empty string counts as missing
  traceparent := (camera.desiredTraceparent.filter (· ≠ "")).getD newTraceparent
  tracestate := camera.desiredTracestate
  firstFrameAt := none
  lastFrameAt := none
  stoppedAt := none
  reconnectCount := 0
  outputPath := none
  errorCode := none
  sanitizedError := none
  metrics := "\x7b\x7d"

/-- An unfinished latest run is closed before the next one is added. -/
def takeOver (now : Timestamp) (latest : Option LiveCameraRun) (runs : CameraRuns) : CameraRuns :=
  runs.updateUnless (·.runtimeState.isTerminal) (·.expire now)
    (LiveCameraRun.expire_runId now) latest

def claim (cameraId : Option String) (workerId leaseToken : String) (now : Timestamp)
    (leaseSeconds : Int) (runId newTraceparent : String) (db : CameraDb) :
    Option LiveCameraRun × CameraDb :=
  match first (byThen LiveCamera.updatedAt LiveCamera.cameraId) (claimable cameraId)
      db.cameras.table.rows with
  | none => (none, db)
  | some camera =>
      let latest := latestForCamera camera.cameraId db.runs
      if latest.any (·.blocks now) then (none, db)
      else
        let run := newRun camera latest workerId leaseToken now leaseSeconds runId newTraceparent
        (some run, { db with runs := (takeOver now latest db.runs).insert run })

def fencedUpdate (runId workerId leaseToken : String) (now : Timestamp)
    (values : LiveCameraRun → LiveCameraRun) (hv : ∀ run, (values run).runId = run.runId)
    (db : CameraDb) : Bool × CameraDb :=
  (db.runs.anyWhere (LiveCameraRun.fence runId workerId leaseToken now),
    { db with
      runs := db.runs.updateWhere (LiveCameraRun.fence runId workerId leaseToken now) values hv })

def renew (runId workerId leaseToken : String) (now expiresAt : Timestamp) :
    CameraDb → Bool × CameraDb :=
  fencedUpdate runId workerId leaseToken now
    (fun run => { run with leaseExpiresAt := some expiresAt }) (fun _ => rfl)

def updateState (runId workerId leaseToken : String) (now : Timestamp) (values : StateUpdate) :
    CameraDb → Bool × CameraDb :=
  fencedUpdate runId workerId leaseToken now values.apply values.apply_runId

def updateMetrics (runId workerId leaseToken : String) (now : Timestamp) (metrics : String) :
    CameraDb → Bool × CameraDb :=
  fencedUpdate runId workerId leaseToken now (fun run => { run with metrics := metrics })
    (fun _ => rfl)

/-- `ValueError` for a state that is not terminal, before the row is looked up. -/
def finish (runId workerId leaseToken : String) (now : Timestamp) (runtimeState : RuntimeState)
    (errorCode sanitizedError : Option String) (db : CameraDb) :
    Except String (Bool × CameraDb) :=
  if runtimeState.isTerminal then
    .ok (fencedUpdate runId workerId leaseToken now
      (LiveCameraRun.finished now runtimeState errorCode sanitizedError)
      (LiveCameraRun.finished_runId now runtimeState errorCode sanitizedError) db)
  else .error "INVALID_LIVE_TERMINAL_STATE"

end LiveRunRepository

/-! ## The runs as a ledger of leased attempts -/

open LiveRunRepository

/-- The runs of a camera, numbered by `generation`. -/
def cameraAttempts : LeasedAttempt LiveCameraRun String String String where
  owner := LiveCameraRun.cameraId
  number := LiveCameraRun.generation
  closed run := run.runtimeState.isTerminal
  key := LiveCameraRun.runId
  token := LiveCameraRun.leaseToken
  free run := run.workerId = none ∧ run.leaseToken = none ∧ run.leaseExpiresAt = none
  token_of_free _ h := h.2.1

theorem latestForCamera_eq (cameraId : String) (runs : CameraRuns) :
    latestForCamera cameraId runs = cameraAttempts.latest cameraId runs.rows := rfl

theorem newRun_generation {camera : LiveCamera} {runs : CameraRuns} (w τ : String)
    (now : Timestamp) (lease : Int) (runId tp : String) :
    (newRun camera (latestForCamera camera.cameraId runs) w τ now lease runId tp).generation =
      cameraAttempts.nextNumber camera.cameraId runs.rows := by
  unfold newRun Attempt.nextNumber
  rw [latestForCamera_eq]
  cases cameraAttempts.latest camera.cameraId runs.rows <;> rfl

@[simp] theorem fence_iff {runId w τ : String} {now : Timestamp} {run : LiveCameraRun} :
    run.fence runId w τ now = true ↔
      run.runId = runId ∧ run.workerId = some w ∧ run.leaseToken = some τ ∧
        run.leaseHeld now = true := by
  simp [LiveCameraRun.fence, and_assoc]

theorem leaseHeld_eq_false_iff {now : Timestamp} {run : LiveCameraRun} :
    run.leaseHeld now = false ↔ ∀ t, run.leaseExpiresAt = some t → t ≤ now :=
  lease_lapsed_iff

/-- What a claim that returns a run has done. -/
theorem claim_some {cameraId : Option String} {w τ : String} {now : Timestamp} {lease : Int}
    {runId tp : String} {db : CameraDb} {run : LiveCameraRun}
    (h : (claim cameraId w τ now lease runId tp db).1 = some run) :
    ∃ camera, first (byThen LiveCamera.updatedAt LiveCamera.cameraId) (claimable cameraId)
        db.cameras.table.rows = some camera ∧
      (latestForCamera camera.cameraId db.runs).any (·.blocks now) = false ∧
      run = newRun camera (latestForCamera camera.cameraId db.runs) w τ now lease runId tp ∧
      (claim cameraId w τ now lease runId tp db).2 =
        { db with
          runs := (takeOver now (latestForCamera camera.cameraId db.runs) db.runs).insert run } := by
  unfold claim at h ⊢
  cases hc : first (byThen LiveCamera.updatedAt LiveCamera.cameraId) (claimable cameraId)
      db.cameras.table.rows with
  | none => simp [hc] at h
  | some camera =>
      by_cases hb : (latestForCamera camera.cameraId db.runs).any (·.blocks now) = true
      · simp [hc, hb] at h
      · simp only [hc, hb, Bool.false_eq_true, if_false, Option.some.injEq] at h
        refine ⟨camera, rfl, by simpa using hb, h.symm, ?_⟩
        simp [hb, h]

theorem claim_none {cameraId : Option String} {w τ : String} {now : Timestamp} {lease : Int}
    {runId tp : String} {db : CameraDb}
    (h : (claim cameraId w τ now lease runId tp db).1 = none) :
    (claim cameraId w τ now lease runId tp db).2 = db := by
  unfold claim at h ⊢
  cases hc : first (byThen LiveCamera.updatedAt LiveCamera.cameraId) (claimable cameraId)
      db.cameras.table.rows with
  | none => rfl
  | some camera =>
      by_cases hb : (latestForCamera camera.cameraId db.runs).any (·.blocks now) = true
      · simp [hb]
      · simp [hc, hb] at h

/-- The runs after a claim that returns one: the unfinished latest run of the
camera is closed, the new run is added, nothing else changes. -/
theorem claim_rows {cameraId : Option String} {w τ : String} {now : Timestamp} {lease : Int}
    {runId tp : String} {db : CameraDb} {run : LiveCameraRun}
    (h : (claim cameraId w τ now lease runId tp db).1 = some run)
    (hfresh : runId ∉ db.runs.rows.map LiveCameraRun.runId) :
    (claim cameraId w τ now lease runId tp db).2.runs.rows =
      db.runs.rows.map (fun r =>
        if latestForCamera run.cameraId db.runs = some r ∧ r.runtimeState.isTerminal = false then
          r.expire now
        else r) ++ [run] := by
  obtain ⟨camera, -, -, hrun, hdb⟩ := claim_some h
  have hid : run.runId = runId := by rw [hrun]; rfl
  have hcam : run.cameraId = camera.cameraId := by rw [hrun]; rfl
  rw [← hid] at hfresh
  rw [hdb, hcam]
  exact cameraAttempts.claimed_rows hfresh

/-- Closing an open run is a step of the ledger. -/
theorem expire_step {now : Timestamp} (run : LiveCameraRun)
    (ho : run.runtimeState.isTerminal = false) : cameraAttempts.Step run (run.expire now) :=
  .close ho rfl rfl rfl rfl ⟨rfl, rfl, rfl⟩

theorem claim_advance {cameraId : Option String} {w τ : String} {now : Timestamp} {lease : Int}
    {runId tp : String} {db : CameraDb} (hfresh : runId ∉ db.runs.rows.map LiveCameraRun.runId) :
    cameraAttempts.Advance db.runs.rows (some τ)
      (claim cameraId w τ now lease runId tp db).2.runs.rows := by
  cases hc : (claim cameraId w τ now lease runId tp db).1 with
  | none =>
      rw [claim_none hc]
      exact .refl
  | some run =>
      obtain ⟨camera, -, -, hrun, -⟩ := claim_some hc
      rw [claim_rows hc hfresh]
      refine .takeOver expire_step (fun _ => rfl) rfl ?_ ?_ ?_
      · rw [hrun]
        exact newRun_generation w τ now lease runId tp
      · rw [hrun]
        rfl
      · rw [hrun]
        rfl

theorem fence_open {runId w τ : String} {now : Timestamp} {run : LiveCameraRun}
    (hclosed : run.runtimeState.isTerminal = true → run.workerId = none)
    (hf : run.fence runId w τ now = true) : run.runtimeState.isTerminal = false :=
  cameraAttempts.open_of_held hclosed (fence_iff.mp hf).2.1

/-- A guarded update of open runs advances the ledger. -/
theorem fencedUpdate_advance {runId w τ : String} {now : Timestamp}
    {values : LiveCameraRun → LiveCameraRun} {hv} {db : CameraDb} {drawn : Option String}
    (hclosed : ∀ run ∈ db.runs.rows, run.runtimeState.isTerminal = true → run.workerId = none)
    (hstep : ∀ run, run.runtimeState.isTerminal = false →
      cameraAttempts.Step run (values run)) :
    cameraAttempts.Advance db.runs.rows drawn
      (fencedUpdate runId w τ now values hv db).2.runs.rows :=
  .guarded (fun run hm hf => fence_open (hclosed run hm) hf) hstep

end Mvision.Live
