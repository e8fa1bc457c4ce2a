import Mvision.Live.RunRepository

/-!
# Live sessions, their generations and runs: `LiveSessionRepository`

A session has numbered generations, a generation has numbered runs.  The
generation row mirrors the state of its latest run, so every state change of a
run writes two tables.  Columns that no operation below reads (the requested
and resolved specification, the ingress path, the profile) are left out.
-/

namespace Mvision.Live

open Mvision.Library

inductive MediaState where
  | provisioning
  | waiting
  | ready
  | failed
deriving DecidableEq, Repr

structure LiveSession where
  sessionId : String
  desiredState : DesiredState
  currentGeneration : Nat
  stoppedAt : Option Timestamp
deriving DecidableEq

structure LiveSessionGeneration where
  generationId : String
  sessionId : String
  generation : Nat
  desiredState : DesiredState
  runtimeState : RuntimeState
  mediaState : MediaState
  createdAt : Timestamp
  startedAt : Option Timestamp
  stoppedAt : Option Timestamp
  errorCode : Option String
deriving DecidableEq

structure LiveSessionRun where
  runId : String
  generationId : String
  runtimeAttempt : Nat
  runtimeState : RuntimeState
  workerId : Option String
  leaseToken : Option String
  leaseExpiresAt : Option Timestamp
  startedAt : Timestamp
  stoppedAt : Option Timestamp
  errorCode : Option String
deriving DecidableEq

abbrev Sessions := Table LiveSession.sessionId
abbrev Generations := Table LiveSessionGeneration.generationId
abbrev SessionRuns := Table LiveSessionRun.runId

structure SessionDb where
  sessions : Sessions
  generations : Generations
  runs : SessionRuns

namespace LiveSessionRun

def leaseHeld (now : Timestamp) (run : LiveSessionRun) : Bool :=
  run.leaseExpiresAt.any (fun t => decide (now < t))

def blocks (now : Timestamp) (run : LiveSessionRun) : Bool :=
  !run.runtimeState.isTerminal && run.leaseHeld now

/-- The row filter of `renew_run`, `update_run_state` and `finish_run`; a
missing token compares as `IS NULL`. -/
def fence (runId generationId : String) (runtimeAttempt : Nat) (workerId : String)
    (leaseToken : Option String) (now : Timestamp) (run : LiveSessionRun) : Bool :=
  decide (run.runId = runId) && decide (run.generationId = generationId) &&
    decide (run.runtimeAttempt = runtimeAttempt) && decide (run.workerId = some workerId) &&
      decide (run.leaseToken = leaseToken) && run.leaseHeld now

def expire (now : Timestamp) (run : LiveSessionRun) : LiveSessionRun :=
  { run with
    runtimeState := .failed
    errorCode := some "LIVE_WORKER_LEASE_EXPIRED"
    stoppedAt := some now
    workerId := none
    leaseToken := none
    leaseExpiresAt := none }

def finished (now : Timestamp) (runtimeState : RuntimeState) (errorCode : Option String)
    (run : LiveSessionRun) : LiveSessionRun :=
  { run with
    runtimeState := runtimeState
    stoppedAt := some now
    errorCode := errorCode
    workerId := none
    leaseToken := none
    leaseExpiresAt := none }

theorem expire_runId (now : Timestamp) (run : LiveSessionRun) :
    (run.expire now).runId = run.runId := rfl

theorem finished_runId (now : Timestamp) (state : RuntimeState) (code : Option String)
    (run : LiveSessionRun) : (run.finished now state code).runId = run.runId := rfl

end LiveSessionRun

namespace LiveSessionGeneration

/-- The assignments shared by a reconfiguration and a stop. -/
def stop (generation : LiveSessionGeneration) : LiveSessionGeneration :=
  { generation with
    desiredState := .stopped
    runtimeState :=
      if generation.runtimeState.isTerminal then generation.runtimeState else .stopping }

def desire (desiredState : DesiredState) (generation : LiveSessionGeneration) :
    LiveSessionGeneration :=
  match desiredState with
  | .running => { generation with desiredState := .running }
  | .stopped => generation.stop

def media (state : MediaState) (errorCode : Option String)
    (generation : LiveSessionGeneration) : LiveSessionGeneration :=
  { generation with
    mediaState := state
    errorCode := match errorCode with
      | some code => some code
      | none =>
          if generation.errorCode = some "LIVE_MEDIA_PATH_FAILED" then none
          else generation.errorCode }

def start (now : Timestamp) (generation : LiveSessionGeneration) : LiveSessionGeneration :=
  { generation with
    runtimeState := .starting
    startedAt := generation.startedAt <|> some now }

def mirror (runtimeState : RuntimeState) (generation : LiveSessionGeneration) :
    LiveSessionGeneration :=
  { generation with runtimeState := runtimeState }

def mirrorFinish (now : Timestamp) (runtimeState : RuntimeState) (errorCode : Option String)
    (generation : LiveSessionGeneration) : LiveSessionGeneration :=
  { generation with
    runtimeState := runtimeState
    stoppedAt := some now
    errorCode := errorCode }

@[simp] theorem desire_generationId (desiredState : DesiredState)
    (generation : LiveSessionGeneration) :
    (generation.desire desiredState).generationId = generation.generationId := by
  cases desiredState <;> rfl

theorem stop_generationId (generation : LiveSessionGeneration) :
    generation.stop.generationId = generation.generationId := rfl

theorem media_generationId (state : MediaState) (code : Option String)
    (generation : LiveSessionGeneration) :
    (generation.media state code).generationId = generation.generationId := rfl

theorem start_generationId (now : Timestamp) (generation : LiveSessionGeneration) :
    (generation.start now).generationId = generation.generationId := rfl

theorem mirror_generationId (state : RuntimeState) (generation : LiveSessionGeneration) :
    (generation.mirror state).generationId = generation.generationId := rfl

theorem mirrorFinish_generationId (now : Timestamp) (state : RuntimeState)
    (code : Option String) (generation : LiveSessionGeneration) :
    (generation.mirrorFinish now state code).generationId = generation.generationId := rfl

end LiveSessionGeneration

def LiveSession.desire (desiredState : DesiredState) (now : Timestamp)
    (session : LiveSession) : LiveSession :=
  { session with
    desiredState := desiredState
    stoppedAt := match desiredState with
      | .stopped => some now
      | .running => none }

def LiveSession.reconfigure (generation : Nat) (session : LiveSession) : LiveSession :=
  { session with currentGeneration := generation }

theorem LiveSession.desire_sessionId (desiredState : DesiredState) (now : Timestamp)
    (session : LiveSession) : (session.desire desiredState now).sessionId = session.sessionId :=
  rfl

theorem LiveSession.reconfigure_sessionId (generation : Nat) (session : LiveSession) :
    (session.reconfigure generation).sessionId = session.sessionId := rfl

namespace LiveSessionRepository

def createSession (sessionId : String) (db : SessionDb) : SessionDb :=
  { db with sessions := db.sessions.insert ⟨sessionId, .running, 1, none⟩ }

def setMediaState (generationId : String) (state : MediaState) (errorCode : Option String)
    (db : SessionDb) : Bool × SessionDb :=
  (db.generations.anyWhere (fun g => g.generationId = generationId),
    { db with
      generations := db.generations.updateWhere (fun g => g.generationId = generationId)
        (LiveSessionGeneration.media state errorCode)
        (LiveSessionGeneration.media_generationId state errorCode) })

def latestGeneration (sessionId : String) (generations : Generations) :
    Option LiveSessionGeneration :=
  first (fun a b => b.generation ≤ a.generation) (fun g => g.sessionId = sessionId)
    generations.rows

/-- The column defaults of a new generation. -/
def newGeneration (sessionId : String) (generation : Nat) (generationId : String)
    (createdAt : Timestamp) : LiveSessionGeneration :=
  ⟨generationId, sessionId, generation, .running, .accepted, .provisioning, createdAt, none,
    none, none⟩

def createGeneration (sessionId : String) (generation : Nat) (generationId : String)
    (createdAt : Timestamp) (db : SessionDb) :
    Except String (LiveSessionGeneration × SessionDb) :=
  match db.sessions.get sessionId with
  | none => .error "LIVE_SESSION_NOT_FOUND"
  | some parent =>
      let latest := latestGeneration sessionId db.generations
      let expected := match latest with
        | none => 1
        | some _ => parent.currentGeneration + 1
      if generation ≠ expected then .error "LIVE_GENERATION_CONFLICT"
      else
        let new := newGeneration sessionId generation generationId createdAt
        match latest with
        | none => .ok (new, { db with generations := db.generations.insert new })
        | some latest =>
            .ok (new, { db with
              sessions := db.sessions.update sessionId (LiveSession.reconfigure generation)
                (LiveSession.reconfigure_sessionId generation)
              generations := (db.generations.update latest.generationId
                LiveSessionGeneration.stop LiveSessionGeneration.stop_generationId).insert new })

def setDesiredState (sessionId : String) (desiredState : DesiredState) (now : Timestamp)
    (db : SessionDb) : Option LiveSession × SessionDb :=
  match db.sessions.get sessionId with
  | none => (none, db)
  | some session =>
      let current := fun g : LiveSessionGeneration =>
        decide (g.sessionId = sessionId ∧ g.generation = session.currentGeneration)
      (some (session.desire desiredState now),
        { db with
          sessions := db.sessions.update sessionId (LiveSession.desire desiredState now)
            (LiveSession.desire_sessionId desiredState now)
          generations := db.generations.updateWhere current
            (LiveSessionGeneration.desire desiredState)
            (LiveSessionGeneration.desire_generationId desiredState) })

/-- The generations `claim_generation` considers, in its order. -/
def claimable (generation : LiveSessionGeneration) : Bool :=
  decide (generation.desiredState = .running) && decide (generation.mediaState = .ready)

def candidates (generations : Generations) : List LiveSessionGeneration :=
  (generations.rows.filter claimable).insertionSort
    (byThen LiveSessionGeneration.createdAt LiveSessionGeneration.generationId)

def latestRun (generationId : String) (runs : SessionRuns) : Option LiveSessionRun :=
  first (fun a b => b.runtimeAttempt ≤ a.runtimeAttempt)
    (fun run => run.generationId = generationId) runs.rows

def newRun (generation : LiveSessionGeneration) (latest : Option LiveSessionRun)
    (workerId leaseToken : String) (now : Timestamp) (leaseSeconds : Int) (runId : String) :
    LiveSessionRun where
  runId := runId
  generationId := generation.generationId
  runtimeAttempt := match latest with
    | none => 1
    | some run => run.runtimeAttempt + 1
  runtimeState := .starting
  workerId := some workerId
  leaseToken := some leaseToken
  leaseExpiresAt := some (now + timedelta leaseSeconds)
  startedAt := now
  stoppedAt := none
  errorCode := none

def takeOver (now : Timestamp) (latest : Option LiveSessionRun) (runs : SessionRuns) :
    SessionRuns :=
  runs.updateUnless (·.runtimeState.isTerminal) (·.expire now)
    (LiveSessionRun.expire_runId now) latest

/-- The loop body of `claim_generation` once nothing blocks the generation. -/
def startRun (workerId leaseToken : String) (now : Timestamp) (leaseSeconds : Int)
    (runId : String) (generation : LiveSessionGeneration) (db : SessionDb) :
    LiveSessionRun × SessionDb :=
  let latest := latestRun generation.generationId db.runs
  let run := newRun generation latest workerId leaseToken now leaseSeconds runId
  (run, { db with
    generations := db.generations.update generation.generationId
      (LiveSessionGeneration.start now) (LiveSessionGeneration.start_generationId now)
    runs := (takeOver now latest db.runs).insert run })

/-- `for generation in generations`, with `continue` on a held lease. -/
def claimLoop (workerId leaseToken : String) (now : Timestamp) (leaseSeconds : Int)
    (runId : String) (db : SessionDb) :
    List LiveSessionGeneration → Option LiveSessionRun × SessionDb
  | [] => (none, db)
  | generation :: rest =>
      if (latestRun generation.generationId db.runs).any (·.blocks now) then
        claimLoop workerId leaseToken now leaseSeconds runId db rest
      else
        let (run, db') := startRun workerId leaseToken now leaseSeconds runId generation db
        (some run, db')

def claimGeneration (workerId leaseToken : String) (now : Timestamp) (leaseSeconds : Int)
    (runId : String) (db : SessionDb) : Option LiveSessionRun × SessionDb :=
  claimLoop workerId leaseToken now leaseSeconds runId db (candidates db.generations)

/-- The run update of `update_run_state` and `finish_run`, and the write to the
generation that the returned key names. -/
def fencedMirror (fence : LiveSessionRun → Bool) (values : LiveSessionRun → LiveSessionRun)
    (hv : ∀ run, (values run).runId = run.runId)
    (copy : LiveSessionGeneration → LiveSessionGeneration)
    (hc : ∀ g, (copy g).generationId = g.generationId) (db : SessionDb) : Bool × SessionDb :=
  match db.runs.rows.find? fence with
  | none => (false, db)
  | some run =>
      (true, { db with
        runs := db.runs.updateWhere fence values hv
        generations := db.generations.update run.generationId copy hc })

def renewRun (runId workerId leaseToken : String) (now expiresAt : Timestamp)
    (generationId : String) (runtimeAttempt : Nat) (db : SessionDb) : Bool × SessionDb :=
  let fence := LiveSessionRun.fence runId generationId runtimeAttempt workerId (some leaseToken) now
  (db.runs.anyWhere fence,
    { db with
      runs := db.runs.updateWhere fence
        (fun run => { run with leaseExpiresAt := some expiresAt }) (fun _ => rfl) })

def updateRunState (runId workerId : String) (leaseToken : Option String) (now : Timestamp)
    (generationId : String) (runtimeAttempt : Nat) (runtimeState : RuntimeState)
    (db : SessionDb) : Except String (Bool × SessionDb) :=
  if runtimeState.isNonterminal then
    .ok (fencedMirror
      (LiveSessionRun.fence runId generationId runtimeAttempt workerId leaseToken now)
      (fun run => { run with runtimeState := runtimeState }) (fun _ => rfl)
      (LiveSessionGeneration.mirror runtimeState)
      (LiveSessionGeneration.mirror_generationId runtimeState) db)
  else .error "INVALID_LIVE_RUNTIME_STATE"

def finishRun (runId workerId : String) (leaseToken : Option String) (now : Timestamp)
    (generationId : String) (runtimeAttempt : Nat) (runtimeState : RuntimeState)
    (errorCode : Option String) (db : SessionDb) : Except String (Bool × SessionDb) :=
  if runtimeState.isTerminal then
    .ok (fencedMirror
      (LiveSessionRun.fence runId generationId runtimeAttempt workerId leaseToken now)
      (LiveSessionRun.finished now runtimeState errorCode)
      (LiveSessionRun.finished_runId now runtimeState errorCode)
      (LiveSessionGeneration.mirrorFinish now runtimeState errorCode)
      (LiveSessionGeneration.mirrorFinish_generationId now runtimeState errorCode) db)
  else .error "INVALID_LIVE_TERMINAL_STATE"

end LiveSessionRepository

/-! ## The runs as a ledger of leased attempts -/

open LiveSessionRepository

/-- The runs of a generation, numbered by `runtime_attempt`. -/
def sessionAttempts : LeasedAttempt LiveSessionRun String String String where
  owner := LiveSessionRun.generationId
  number := LiveSessionRun.runtimeAttempt
  closed run := run.runtimeState.isTerminal
  key := LiveSessionRun.runId
  token := LiveSessionRun.leaseToken
  free run := run.workerId = none ∧ run.leaseToken = none ∧ run.leaseExpiresAt = none
  token_of_free _ h := h.2.1

theorem latestRun_eq (generationId : String) (runs : SessionRuns) :
    latestRun generationId runs = sessionAttempts.latest generationId runs.rows := rfl

theorem latestRun_mem {generationId : String} {runs : SessionRuns} {run : LiveSessionRun}
    (h : latestRun generationId runs = some run) :
    run ∈ runs.rows ∧ run.generationId = generationId :=
  Attempt.latest_mem (latestRun_eq generationId runs ▸ h)

theorem sessionRun_attempt {generation : LiveSessionGeneration} {runs : SessionRuns}
    (w τ : String) (now : Timestamp) (lease : Int) (runId : String) :
    (LiveSessionRepository.newRun generation (latestRun generation.generationId runs) w τ now
        lease runId).runtimeAttempt =
      sessionAttempts.nextNumber generation.generationId runs.rows := by
  unfold LiveSessionRepository.newRun Attempt.nextNumber
  rw [latestRun_eq]
  cases sessionAttempts.latest generation.generationId runs.rows <;> rfl

@[simp] theorem sessionFence_iff {runId generationId w : String} {attempt : Nat}
    {τ : Option String} {now : Timestamp} {run : LiveSessionRun} :
    run.fence runId generationId attempt w τ now = true ↔
      run.runId = runId ∧ run.generationId = generationId ∧ run.runtimeAttempt = attempt ∧
        run.workerId = some w ∧ run.leaseToken = τ ∧ run.leaseHeld now = true := by
  simp [LiveSessionRun.fence, and_assoc]

theorem sessionLeaseHeld_iff {now : Timestamp} {run : LiveSessionRun} :
    run.leaseHeld now = true ↔ ∃ t, run.leaseExpiresAt = some t ∧ now < t :=
  lease_held_iff

theorem sessionLeaseHeld_eq_false_iff {now : Timestamp} {run : LiveSessionRun} :
    run.leaseHeld now = false ↔ ∀ t, run.leaseExpiresAt = some t → t ≤ now :=
  lease_lapsed_iff

/-! ## What a reconfiguration and a stop do -/

/-- `create_generation` adds the generation, after stopping the latest one. -/
theorem createGeneration_ok {sessionId generationId : String} {generation : Nat}
    {createdAt : Timestamp} {db : SessionDb} {result : LiveSessionGeneration × SessionDb}
    (h : createGeneration sessionId generation generationId createdAt db = .ok result) :
    result.2.runs = db.runs ∧
      (result.2.generations = db.generations.insert
          (newGeneration sessionId generation generationId createdAt) ∨
        ∃ latest, result.2.generations = (db.generations.update latest
            LiveSessionGeneration.stop LiveSessionGeneration.stop_generationId).insert
          (newGeneration sessionId generation generationId createdAt)) := by
  unfold createGeneration at h
  cases hs : db.sessions.get sessionId with
  | none => simp [hs] at h
  | some parent =>
      cases hl : latestGeneration sessionId db.generations with
      | none =>
          by_cases hg : generation = 1
          · subst hg
            simp only [hs, hl, ne_eq, not_true, if_false, Except.ok.injEq] at h
            exact h ▸ ⟨rfl, Or.inl rfl⟩
          · simp [hs, hl, hg] at h
      | some latest =>
          by_cases hg : generation = parent.currentGeneration + 1
          · subst hg
            simp only [hs, hl, ne_eq, not_true, if_false, Except.ok.injEq] at h
            exact h ▸ ⟨rfl, Or.inr ⟨latest.generationId, rfl⟩⟩
          · simp [hs, hl, hg] at h

@[simp] theorem setDesiredState_runs (sessionId : String) (desired : DesiredState)
    (now : Timestamp) (db : SessionDb) :
    (setDesiredState sessionId desired now db).2.runs = db.runs := by
  unfold setDesiredState
  split <;> rfl

/-- `set_desired_state` rewrites generations of one session. -/
theorem setDesiredState_generations (sessionId : String) (desired : DesiredState)
    (now : Timestamp) (db : SessionDb) :
    (setDesiredState sessionId desired now db).2.generations = db.generations ∨
      ∃ p, (setDesiredState sessionId desired now db).2.generations =
        db.generations.updateWhere p (LiveSessionGeneration.desire desired)
          (LiveSessionGeneration.desire_generationId desired) := by
  unfold setDesiredState
  split
  · exact Or.inl rfl
  · exact Or.inr ⟨_, rfl⟩

/-! ## What a claim does -/

/-- Nothing keeps `claim_generation` from starting a run of the generation. -/
def LiveSessionGeneration.available (now : Timestamp) (runs : SessionRuns)
    (generation : LiveSessionGeneration) : Bool :=
  !(latestRun generation.generationId runs).any (·.blocks now)

section Claim

variable {w τ : String} {now : Timestamp} {lease : Int} {runId : String} {db : SessionDb}

theorem claimLoop_none {generations : List LiveSessionGeneration}
    (h : generations.find? (·.available now db.runs) = none) :
    claimLoop w τ now lease runId db generations = (none, db) := by
  induction generations with
  | nil => rfl
  | cons g rest ih =>
      rw [List.find?_cons] at h
      by_cases ha : g.available now db.runs = true
      · simp [ha] at h
      · have hb : (latestRun g.generationId db.runs).any (·.blocks now) = true := by
          simpa [LiveSessionGeneration.available] using ha
        rw [claimLoop, if_pos hb]
        exact ih (by simpa [ha] using h)

theorem claimLoop_some {generations : List LiveSessionGeneration} {g : LiveSessionGeneration}
    (h : generations.find? (·.available now db.runs) = some g) :
    claimLoop w τ now lease runId db generations =
      (some (startRun w τ now lease runId g db).1, (startRun w τ now lease runId g db).2) := by
  induction generations with
  | nil => simp at h
  | cons g' rest ih =>
      rw [List.find?_cons] at h
      by_cases ha : g'.available now db.runs = true
      · obtain rfl : g' = g := by simpa [ha] using h
        have hb : ¬ (latestRun g'.generationId db.runs).any (·.blocks now) = true := by
          simpa [LiveSessionGeneration.available] using ha
        rw [claimLoop, if_neg hb]
      · have hb : (latestRun g'.generationId db.runs).any (·.blocks now) = true := by
          simpa [LiveSessionGeneration.available] using ha
        rw [claimLoop, if_pos hb]
        exact ih (by simpa [ha] using h)

theorem claimGeneration_none
    (h : (claimGeneration w τ now lease runId db).1 = none) :
    (candidates db.generations).find? (·.available now db.runs) = none ∧
      (claimGeneration w τ now lease runId db).2 = db := by
  unfold claimGeneration at h ⊢
  cases hf : (candidates db.generations).find? (·.available now db.runs) with
  | none => exact ⟨rfl, by rw [claimLoop_none hf]⟩
  | some g => simp [claimLoop_some hf] at h

theorem claimGeneration_some {run : LiveSessionRun}
    (h : (claimGeneration w τ now lease runId db).1 = some run) :
    ∃ g, (candidates db.generations).find? (·.available now db.runs) = some g ∧
      run = (startRun w τ now lease runId g db).1 ∧
        (claimGeneration w τ now lease runId db).2 = (startRun w τ now lease runId g db).2 := by
  unfold claimGeneration at h ⊢
  cases hf : (candidates db.generations).find? (·.available now db.runs) with
  | none => simp [claimLoop_none hf] at h
  | some g =>
      rw [claimLoop_some hf] at h ⊢
      exact ⟨g, rfl, (Option.some.inj h).symm, rfl⟩

theorem mem_candidates {g : LiveSessionGeneration} {generations : Generations} :
    g ∈ candidates generations ↔
      g ∈ generations.rows ∧ g.desiredState = .running ∧ g.mediaState = .ready := by
  simp [candidates, LiveSessionRepository.claimable]

/-- The runs after a run has been started. -/
theorem startRun_rows {g : LiveSessionGeneration}
    (hfresh : runId ∉ db.runs.rows.map LiveSessionRun.runId) :
    (startRun w τ now lease runId g db).2.runs.rows =
      db.runs.rows.map (fun r =>
        if latestRun g.generationId db.runs = some r ∧ r.runtimeState.isTerminal = false then
          r.expire now
        else r) ++ [(startRun w τ now lease runId g db).1] :=
  sessionAttempts.claimed_rows hfresh

end Claim

theorem sessionExpire_step {now : Timestamp} (run : LiveSessionRun)
    (ho : run.runtimeState.isTerminal = false) : sessionAttempts.Step run (run.expire now) :=
  .close ho rfl rfl rfl rfl ⟨rfl, rfl, rfl⟩

theorem startRun_advance {w τ : String} {now : Timestamp} {lease : Int} {runId : String}
    {db : SessionDb} {g : LiveSessionGeneration}
    (hfresh : runId ∉ db.runs.rows.map LiveSessionRun.runId) :
    sessionAttempts.Advance db.runs.rows (some τ)
      (startRun w τ now lease runId g db).2.runs.rows := by
  rw [startRun_rows hfresh]
  exact .takeOver sessionExpire_step (fun _ => rfl) rfl
    (sessionRun_attempt w τ now lease runId) rfl rfl

theorem sessionFence_open {runId generationId w : String} {attempt : Nat} {τ : Option String}
    {now : Timestamp} {run : LiveSessionRun}
    (hclosed : run.runtimeState.isTerminal = true → run.workerId = none)
    (hf : run.fence runId generationId attempt w τ now = true) :
    run.runtimeState.isTerminal = false :=
  sessionAttempts.open_of_held hclosed (sessionFence_iff.mp hf).2.2.2.1

end Mvision.Live
