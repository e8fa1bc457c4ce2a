import Mvision.Live.CameraLeases
import Mvision.Live.SessionRepository

/-!
# Runs of `LiveSessionRepository` operations

The runs of the generations form a ledger like those of the cameras.  On top
of it, the generation row mirrors the state of its latest run until a stop or
a reconfiguration marks it `STOPPING`.
-/

namespace Mvision.Live

open Mvision.Library
open LiveSessionRepository

inductive SessionOp where
  | createSession (sessionId : String)
  | createGeneration (sessionId : String) (generation : Nat) (generationId : String)
      (createdAt : Timestamp)
  | setMediaState (generationId : String) (state : MediaState) (errorCode : Option String)
  | setDesiredState (sessionId : String) (desiredState : DesiredState)
  | claimGeneration (workerId leaseToken : String) (leaseSeconds : Int) (runId : String)
  | renewRun (runId workerId leaseToken : String) (expiresAt : Timestamp)
      (generationId : String) (runtimeAttempt : Nat)
  | updateRunState (runId workerId : String) (leaseToken : Option String)
      (generationId : String) (runtimeAttempt : Nat) (runtimeState : RuntimeState)
  | finishRun (runId workerId : String) (leaseToken : Option String)
      (generationId : String) (runtimeAttempt : Nat) (runtimeState : RuntimeState)
      (errorCode : Option String)

/-- A returned row of the session tables is not read by any caller below. -/
def SessionOp.exec (now : Timestamp) (db : SessionDb) :
    SessionOp → RunOutcome LiveSessionRun × SessionDb
  | .createSession sessionId => (.done, LiveSessionRepository.createSession sessionId db)
  | .createGeneration sessionId generation generationId createdAt =>
      match LiveSessionRepository.createGeneration sessionId generation generationId createdAt db with
      | .ok result => (.done, result.2)
      | .error code => (.raised code, db)
  | .setMediaState generationId state code =>
      (LiveSessionRepository.setMediaState generationId state code db).map .wrote id
  | .setDesiredState sessionId desired =>
      (.done, (LiveSessionRepository.setDesiredState sessionId desired now db).2)
  | .claimGeneration w τ lease runId =>
      (LiveSessionRepository.claimGeneration w τ now lease runId db).map .claimed id
  | .renewRun runId w τ expires generationId attempt =>
      (LiveSessionRepository.renewRun runId w τ now expires generationId attempt db).map .wrote id
  | .updateRunState runId w τ generationId attempt state =>
      match LiveSessionRepository.updateRunState runId w τ now generationId attempt state db with
      | .ok result => result.map .wrote id
      | .error code => (.raised code, db)
  | .finishRun runId w τ generationId attempt state code =>
      match LiveSessionRepository.finishRun runId w τ now generationId attempt state code db with
      | .ok result => result.map .wrote id
      | .error code => (.raised code, db)

structure SessionState where
  now : Timestamp
  db : SessionDb
  issued : List String

structure SessionEvent where
  time : Timestamp
  op : SessionOp

def SessionOp.drawn : SessionOp → Option String
  | .claimGeneration _ τ _ _ => some τ
  | _ => none

/-- Clocks never run backwards; tokens and primary keys are fresh. -/
def SessionEvent.enabled (s : SessionState) (e : SessionEvent) : Prop :=
  s.now ≤ e.time ∧
    match e.op with
    | .createSession sessionId => sessionId ∉ s.db.sessions.rows.map LiveSession.sessionId
    | .createGeneration _ _ generationId _ =>
        generationId ∉ s.db.generations.rows.map LiveSessionGeneration.generationId
    | .claimGeneration _ τ _ runId =>
        τ ∉ s.issued ∧ runId ∉ s.db.runs.rows.map LiveSessionRun.runId
    | _ => True

instance (s : SessionState) (e : SessionEvent) : Decidable (e.enabled s) := by
  unfold SessionEvent.enabled
  cases e.op <;> infer_instance

def SessionEvent.next (s : SessionState) (e : SessionEvent) : SessionState where
  now := e.time
  db := (e.op.exec e.time s.db).2
  issued := e.op.drawn.toList ++ s.issued

/-- Any sessions and generations, no run yet. -/
def sessionSystem : Machine SessionState SessionEvent where
  init s := s.db.runs = .empty ∧ s.issued = []
  enabled s e := e.enabled s
  next s e := e.next s

instance (s : SessionState) (e : SessionEvent) : Decidable (sessionSystem.enabled s e) :=
  inferInstanceAs (Decidable (e.enabled s))

@[simp] theorem sessionSystem_next (s : SessionState) (e : SessionEvent) :
    sessionSystem.next s e = e.next s := rfl

/-- The runs are in order and exactly the unfinished ones are leased. -/
def SessionInv (s : SessionState) : Prop :=
  sessionAttempts.LeaseLedger s.db.runs.rows (· ∈ s.issued)

theorem SessionInv.closed_free {s : SessionState} (h : SessionInv s) :
    ∀ run ∈ s.db.runs.rows, run.runtimeState.isTerminal = true → run.workerId = none :=
  fun run hrun ht => (LeasedAttempt.LeaseLedger.closed_free h run hrun ht).1

/-! ## The guarded update of a run and its generation -/

section Mirror

variable {fence : LiveSessionRun → Bool} {values : LiveSessionRun → LiveSessionRun} {hv}
  {copy : LiveSessionGeneration → LiveSessionGeneration} {hc} {db : SessionDb}

theorem fencedMirror_refused (h : ∀ run ∈ db.runs.rows, fence run = false) :
    fencedMirror fence values hv copy hc db = (false, db) := by
  have hnone : db.runs.rows.find? fence = none := by
    rw [List.find?_eq_none]
    intro run hrun
    simp [h run hrun]
  simp [fencedMirror, hnone]

theorem fencedMirror_rows :
    (fencedMirror fence values hv copy hc db).2.runs.rows =
      db.runs.rows.map (fun run => if fence run then values run else run) := by
  unfold fencedMirror
  cases hf : db.runs.rows.find? fence with
  | some run => rfl
  | none =>
      have hno : db.runs.anyWhere fence = false := by
        rw [Table.anyWhere_eq_false_iff]
        intro run hrun
        simpa using List.find?_eq_none.mp hf run hrun
      show db.runs.rows = _
      rw [← Table.updateWhere_rows db.runs fence values hv, Table.updateWhere_eq_self hno]

end Mirror

theorem session_advance {s : SessionState} {e : SessionEvent} (he : sessionSystem.enabled s e)
    (hs : SessionInv s) :
    sessionAttempts.Advance s.db.runs.rows e.op.drawn (e.next s).db.runs.rows := by
  obtain ⟨now, op⟩ := e
  cases op with
  | createSession => exact .refl
  | createGeneration sessionId generation generationId createdAt =>
      simp only [SessionEvent.next, SessionOp.exec]
      cases hres : LiveSessionRepository.createGeneration sessionId generation generationId
          createdAt s.db with
      | error code => exact .refl
      | ok result =>
          show sessionAttempts.Advance _ _ result.2.runs.rows
          rw [(createGeneration_ok hres).1]
          exact .refl
  | setMediaState => exact .refl
  | setDesiredState sessionId desired =>
      show sessionAttempts.Advance _ _
        (LiveSessionRepository.setDesiredState sessionId desired now s.db).2.runs.rows
      rw [setDesiredState_runs]
      exact .refl
  | claimGeneration w τ lease runId =>
      show sessionAttempts.Advance _ _
        (LiveSessionRepository.claimGeneration w τ now lease runId s.db).2.runs.rows
      cases hc : (LiveSessionRepository.claimGeneration w τ now lease runId s.db).1 with
      | none =>
          rw [(claimGeneration_none hc).2]
          exact .refl
      | some run =>
          obtain ⟨g, -, -, hdb⟩ := claimGeneration_some hc
          rw [hdb]
          exact startRun_advance he.2.2
  | renewRun runId w τ expires generationId attempt =>
      exact .guarded (fun run hm hf => sessionFence_open (hs.closed_free run hm) hf)
        fun run ho => Or.inr ⟨ho, rfl, rfl, rfl, Or.inl ⟨ho, rfl⟩⟩
  | updateRunState runId w τ generationId attempt state =>
      by_cases ht : state.isNonterminal = true
      · simp only [SessionEvent.next, SessionOp.exec, LiveSessionRepository.updateRunState, ht,
          if_true, Prod.map_snd, id]
        rw [fencedMirror_rows]
        exact .guarded (fun run hm hf => sessionFence_open (hs.closed_free run hm) hf)
          fun run ho =>
            Or.inr ⟨ho, rfl, rfl, rfl, Or.inl ⟨RuntimeState.not_terminal ht, rfl⟩⟩
      · simp only [SessionEvent.next, SessionOp.exec, LiveSessionRepository.updateRunState, ht]
        exact .refl
  | finishRun runId w τ generationId attempt state code =>
      by_cases ht : state.isTerminal = true
      · simp only [SessionEvent.next, SessionOp.exec, LiveSessionRepository.finishRun, ht,
          if_true, Prod.map_snd, id]
        rw [fencedMirror_rows]
        exact .guarded (fun run hm hf => sessionFence_open (hs.closed_free run hm) hf)
          fun run ho => Or.inr ⟨ho, rfl, rfl, rfl, Or.inr ⟨ht, rfl, rfl, rfl⟩⟩
      · simp only [SessionEvent.next, SessionOp.exec, LiveSessionRepository.finishRun, ht]
        exact .refl

theorem session_fresh {s : SessionState} {e : SessionEvent} (he : sessionSystem.enabled s e)
    {τ : String} (h : e.op.drawn = some τ) : τ ∉ s.issued := by
  obtain ⟨now, op⟩ := e
  cases op with
  | claimGeneration w τ' lease runId =>
      obtain rfl : τ' = τ := Option.some.inj h
      exact he.2.1
  | _ => cases h

/-- Lease tokens of session runs are fencing tokens. -/
theorem session_fenced :
    Fenced sessionSystem SessionInv (fun s k τ => sessionAttempts.opens s.db.runs.rows k τ)
      (fun s τ => τ ∈ s.issued) :=
  LeasedAttempt.fenced_of_advance (fun _ _ => session_advance)
    (fun _ _ _ he => session_fresh he)
    (fun _ e _ _ h => List.mem_append_left _ (by simp [h]))
    fun _ _ _ _ h => List.mem_append_right _ h

theorem sessionInv_init {s : SessionState} (h : sessionSystem.init s) : SessionInv s := by
  have hnil : s.db.runs.rows = [] := by rw [h.1]; rfl
  unfold SessionInv
  rw [hnil]
  exact ⟨Attempt.ledger_nil, by simp, by simp⟩

theorem sessionInv_reachable {s : SessionState} (h : sessionSystem.Reachable s) :
    SessionInv s :=
  session_fenced.preserved.reachable (fun _ => sessionInv_init) h

/-! ## Stale operations -/

def SessionOp.presents : SessionOp → Option (String × String × Option String)
  | .renewRun runId w τ _ _ _ => some (runId, w, some τ)
  | .updateRunState runId w τ _ _ _ => some (runId, w, τ)
  | .finishRun runId w τ _ _ _ _ => some (runId, w, τ)
  | _ => none

/-- The operation does not raise before it looks at the table. -/
def SessionOp.wellFormed : SessionOp → Prop
  | .updateRunState _ _ _ _ _ state => state.isNonterminal = true
  | .finishRun _ _ _ _ _ state _ => state.isTerminal = true
  | _ => True

/-- The operation returns `False` and changes neither run nor generation. -/
def SessionOp.RefusedAt (op : SessionOp) (now : Timestamp) (db : SessionDb) : Prop :=
  (op.wellFormed → (op.exec now db).1 = .wrote false) ∧ (op.exec now db).2 = db

/-- A run that the fence of an operation does not admit, whatever generation
and attempt the operation names. -/
def LiveSessionRun.shut (run : LiveSessionRun) (runId w : String) (τ : Option String)
    (now : Timestamp) : Prop :=
  ¬ (run.runId = runId ∧ run.workerId = some w ∧ run.leaseToken = τ ∧
    run.leaseHeld now = true)

theorem LiveSessionRun.shut.fence {run : LiveSessionRun} {runId w : String}
    {τ : Option String} {now : Timestamp} (h : run.shut runId w τ now)
    (generationId : String) (attempt : Nat) :
    run.fence runId generationId attempt w τ now = false := by
  by_contra hf
  rw [Bool.not_eq_false, sessionFence_iff] at hf
  exact h ⟨hf.1, hf.2.2.2.1, hf.2.2.2.2.1, hf.2.2.2.2.2⟩

theorem SessionOp.refused {op : SessionOp} {runId w : String} {τ : Option String}
    {now : Timestamp} {db : SessionDb} (hp : op.presents = some (runId, w, τ))
    (h : ∀ run ∈ db.runs.rows, run.shut runId w τ now) : op.RefusedAt now db := by
  cases op with
  | createSession => simp [SessionOp.presents] at hp
  | createGeneration => simp [SessionOp.presents] at hp
  | setMediaState => simp [SessionOp.presents] at hp
  | setDesiredState => simp [SessionOp.presents] at hp
  | claimGeneration => simp [SessionOp.presents] at hp
  | renewRun _ _ _ expires generationId attempt =>
      obtain ⟨rfl, rfl, rfl⟩ := by simpa [SessionOp.presents] using hp
      have hno := Table.anyWhere_eq_false_iff.mpr fun run hrun =>
        (h run hrun).fence generationId attempt
      simp [RefusedAt, exec, LiveSessionRepository.renewRun, hno,
        Table.updateWhere_eq_self hno]
  | updateRunState _ _ _ generationId attempt state =>
      obtain ⟨rfl, rfl, rfl⟩ := by simpa [SessionOp.presents] using hp
      have hno := fun run hrun => (h run hrun).fence generationId attempt
      by_cases ht : state.isNonterminal = true
      · simp [RefusedAt, exec, LiveSessionRepository.updateRunState, ht,
          fencedMirror_refused hno]
      · simp [RefusedAt, wellFormed, exec, LiveSessionRepository.updateRunState, ht]
  | finishRun _ _ _ generationId attempt state code =>
      obtain ⟨rfl, rfl, rfl⟩ := by simpa [SessionOp.presents] using hp
      have hno := fun run hrun => (h run hrun).fence generationId attempt
      by_cases ht : state.isTerminal = true
      · simp [RefusedAt, exec, LiveSessionRepository.finishRun, ht, fencedMirror_refused hno]
      · simp [RefusedAt, wellFormed, exec, LiveSessionRepository.finishRun, ht]

/-- The event claims run `runId` for the token `τ`. -/
def SessionEvent.Claims (s : SessionState) (e : SessionEvent) (runId w τ : String) : Prop :=
  ∃ lease run, e.op = .claimGeneration w τ lease runId ∧
    (e.op.exec e.time s.db).1 = .claimed (some run)

/-- The run is terminal in this state, finished by its worker or taken over. -/
def SessionState.ended (s : SessionState) (runId : String) : Prop :=
  ∃ run ∈ s.db.runs.rows, run.runId = runId ∧ run.runtimeState.isTerminal = true

instance (s : SessionState) (runId : String) : Decidable (s.ended runId) :=
  inferInstanceAs (Decidable (∃ run ∈ s.db.runs.rows, _))

theorem SessionEvent.Claims.only {s : SessionState} {e : SessionEvent} {runId w τ : String}
    (h : e.Claims s runId w τ) (he : sessionSystem.enabled s e) (hs : SessionInv s) :
    e.op.drawn = some τ ∧
      ∀ k, sessionAttempts.opens (e.next s).db.runs.rows k τ → k = runId := by
  obtain ⟨now, op⟩ := e
  obtain ⟨lease, run, rfl, hres⟩ := h
  have hclaim : (LiveSessionRepository.claimGeneration w τ now lease runId s.db).1 = some run := by
    simpa [SessionOp.exec] using hres
  obtain ⟨g, -, -, hdb⟩ := claimGeneration_some hclaim
  refine ⟨rfl, fun k hk => ?_⟩
  have hk' : sessionAttempts.opens
      (LiveSessionRepository.claimGeneration w τ now lease runId s.db).2.runs.rows k τ := hk
  rw [hdb, startRun_rows he.2.2] at hk'
  refine LeasedAttempt.opens_claimed hs ?_ he.2.1 hk'
  intro r _
  exact LeasedAttempt.closing_step sessionExpire_step r

theorem session_not_opens_of_ended {s : SessionState} (hs : SessionInv s) {runId : String}
    (h : s.ended runId) (τ : String) : ¬ sessionAttempts.opens s.db.runs.rows runId τ := by
  obtain ⟨run, hrun, rfl, hterm⟩ := h
  exact LeasedAttempt.not_opens_of_closed hrun
    (LeasedAttempt.LeaseLedger.closed_free hs run hrun hterm)

/-- After a run has been finished or taken over, its lease is worthless. -/
theorem session_stale_refused {s : SessionState} (hs : sessionSystem.Reachable s)
    {c e : SessionEvent} {mid post : List SessionEvent}
    (hv : sessionSystem.Valid s (c :: mid ++ e :: post)) {runId w τ : String}
    (hc : c.Claims s runId w τ) (he : (e.next (sessionSystem.run s (c :: mid))).ended runId)
    {op : SessionOp} {k w' : String} (hp : op.presents = some (k, w', some τ))
    (now : Timestamp) :
    op.RefusedAt now (sessionSystem.run s (c :: mid ++ e :: post)).db := by
  have hinv := sessionInv_reachable hs
  obtain ⟨hcmid, hrest⟩ := Machine.valid_append.mp hv
  obtain ⟨hdrawn, honly⟩ := hc.only hcmid.1 hinv
  have hused : τ ∈ (c.next s).issued := List.mem_append_left _ (by simp [hdrawn])
  have hlater : SessionInv (e.next (sessionSystem.run s (c :: mid))) :=
    session_fenced.preserved _ e hrest.1 (session_fenced.preserved.run hcmid hinv)
  have hlost := session_fenced.ended (i := runId) hv hinv hused
    (fun k hk ho => hk (honly k ho)) (session_not_opens_of_ended hlater he τ) k
  refine SessionOp.refused hp fun run hrun hf => ?_
  exact hlost ⟨run, hrun, hf.1, hf.2.2.1⟩

/-- An expired lease is worthless. -/
theorem session_expired_refused {db : SessionDb} {op : SessionOp} {runId w : String}
    {τ : Option String} (hp : op.presents = some (runId, w, τ)) {now : Timestamp}
    (h : ∀ run, db.runs.get runId = some run → run.leaseHeld now = false) :
    op.RefusedAt now db := by
  refine SessionOp.refused hp fun run hrun hf => ?_
  have := h run (Table.get_eq_some_iff.mpr ⟨hrun, hf.1⟩)
  simp [hf.2.2.2] at this

end Mvision.Live
