import Mvision.Live.RunRepository

/-!
# Runs of `LiveRunRepository` operations

Supervisors claim, renew, update and finish runs in any order; the services
edit the camera table in between.  Every operation advances the ledger of runs
(`exec_advance`), which is all the rest needs.
-/

namespace Mvision.Live

open Mvision.Library
open LiveRunRepository

inductive CameraOp where
  | edit (cameras : LiveCameras)
  | claim (cameraId : Option String) (workerId leaseToken : String) (leaseSeconds : Int)
      (runId newTraceparent : String)
  | renew (runId workerId leaseToken : String) (expiresAt : Timestamp)
  | updateState (runId workerId leaseToken : String) (values : StateUpdate)
  | updateMetrics (runId workerId leaseToken metrics : String)
  | finish (runId workerId leaseToken : String) (runtimeState : RuntimeState)
      (errorCode sanitizedError : Option String)

/-- What a method returns or raises. -/
inductive RunOutcome (ρ : Type) where
  | done
  | claimed (run : Option ρ)
  | wrote (ok : Bool)
  | raised (code : String)

def CameraOp.exec (now : Timestamp) (db : CameraDb) :
    CameraOp → RunOutcome LiveCameraRun × CameraDb
  | .edit cameras => (.done, { db with cameras := cameras })
  | .claim cameraId w τ lease runId tp =>
      (LiveRunRepository.claim cameraId w τ now lease runId tp db).map .claimed id
  | .renew runId w τ expires => (LiveRunRepository.renew runId w τ now expires db).map .wrote id
  | .updateState runId w τ values =>
      (LiveRunRepository.updateState runId w τ now values db).map .wrote id
  | .updateMetrics runId w τ metrics =>
      (LiveRunRepository.updateMetrics runId w τ now metrics db).map .wrote id
  | .finish runId w τ state code text =>
      match LiveRunRepository.finish runId w τ now state code text db with
      | .ok result => result.map .wrote id
      | .error code => (.raised code, db)

structure CameraState where
  now : Timestamp
  db : CameraDb
  issued : List String

structure CameraEvent where
  time : Timestamp
  op : CameraOp

def CameraOp.drawn : CameraOp → Option String
  | .claim _ _ τ _ _ _ => some τ
  | _ => none

/-- Clocks never run backwards, tokens and primary keys are fresh, and the
supervisor reports non-terminal states only. -/
def CameraEvent.enabled (s : CameraState) (e : CameraEvent) : Prop :=
  s.now ≤ e.time ∧
    match e.op with
    | .claim _ _ τ _ runId _ => τ ∉ s.issued ∧ runId ∉ s.db.runs.rows.map LiveCameraRun.runId
    | .updateState _ _ _ values => values.runtimeState.isNonterminal = true
    | _ => True

instance (s : CameraState) (e : CameraEvent) : Decidable (e.enabled s) := by
  unfold CameraEvent.enabled
  cases e.op <;> infer_instance

def CameraEvent.next (s : CameraState) (e : CameraEvent) : CameraState where
  now := e.time
  db := (e.op.exec e.time s.db).2
  issued := e.op.drawn.toList ++ s.issued

/-- Any cameras, no run yet. -/
def cameraSystem : Machine CameraState CameraEvent where
  init s := s.db.runs = .empty ∧ s.issued = []
  enabled s e := e.enabled s
  next s e := e.next s

instance (s : CameraState) (e : CameraEvent) : Decidable (cameraSystem.enabled s e) :=
  inferInstanceAs (Decidable (e.enabled s))

@[simp] theorem cameraSystem_next (s : CameraState) (e : CameraEvent) :
    cameraSystem.next s e = e.next s := rfl

/-- The runs are in order and exactly the unfinished ones are leased. -/
def CameraInv (s : CameraState) : Prop :=
  cameraAttempts.LeaseLedger s.db.runs.rows (· ∈ s.issued)

theorem CameraInv.closed_free {s : CameraState} (h : CameraInv s) :
    ∀ run ∈ s.db.runs.rows, run.runtimeState.isTerminal = true → run.workerId = none :=
  fun run hrun ht => (LeasedAttempt.LeaseLedger.closed_free h run hrun ht).1

/-- Every operation advances the ledger. -/
theorem camera_advance {s : CameraState} {e : CameraEvent} (he : cameraSystem.enabled s e)
    (hs : CameraInv s) :
    cameraAttempts.Advance s.db.runs.rows e.op.drawn (e.next s).db.runs.rows := by
  obtain ⟨now, op⟩ := e
  cases op with
  | edit cameras => exact .refl
  | claim cameraId w τ lease runId tp => exact claim_advance he.2.2
  | renew runId w τ expires =>
      exact fencedUpdate_advance hs.closed_free fun run ho =>
        Or.inr ⟨ho, rfl, rfl, rfl, Or.inl ⟨ho, rfl⟩⟩
  | updateState runId w τ values =>
      exact fencedUpdate_advance hs.closed_free fun run ho =>
        Or.inr ⟨ho, rfl, rfl, rfl, Or.inl ⟨RuntimeState.not_terminal he.2, rfl⟩⟩
  | updateMetrics runId w τ metrics =>
      exact fencedUpdate_advance hs.closed_free fun run ho =>
        Or.inr ⟨ho, rfl, rfl, rfl, Or.inl ⟨ho, rfl⟩⟩
  | finish runId w τ state code text =>
      by_cases ht : state.isTerminal = true
      · simp only [CameraEvent.next, CameraOp.exec, LiveRunRepository.finish, ht, if_true]
        exact fencedUpdate_advance hs.closed_free fun run ho =>
          Or.inr ⟨ho, rfl, rfl, rfl, Or.inr ⟨ht, rfl, rfl, rfl⟩⟩
      · simp only [CameraEvent.next, CameraOp.exec, LiveRunRepository.finish, ht]
        exact .refl

theorem camera_fresh {s : CameraState} {e : CameraEvent} (he : cameraSystem.enabled s e)
    {τ : String} (h : e.op.drawn = some τ) : τ ∉ s.issued := by
  obtain ⟨now, op⟩ := e
  cases op with
  | claim cameraId w τ' lease runId tp =>
      obtain rfl : τ' = τ := Option.some.inj h
      exact he.2.1
  | _ => cases h

/-- Lease tokens of camera runs are fencing tokens. -/
theorem camera_fenced :
    Fenced cameraSystem CameraInv (fun s k τ => cameraAttempts.opens s.db.runs.rows k τ)
      (fun s τ => τ ∈ s.issued) :=
  LeasedAttempt.fenced_of_advance (fun _ _ => camera_advance) (fun _ _ _ he => camera_fresh he)
    (fun _ e _ _ h => List.mem_append_left _ (by simp [h]))
    fun _ _ _ _ h => List.mem_append_right _ h

theorem cameraInv_init {s : CameraState} (h : cameraSystem.init s) : CameraInv s := by
  have hnil : s.db.runs.rows = [] := by rw [h.1]; rfl
  unfold CameraInv
  rw [hnil]
  exact ⟨Attempt.ledger_nil, by simp, by simp⟩

theorem cameraInv_reachable {s : CameraState} (h : cameraSystem.Reachable s) : CameraInv s :=
  camera_fenced.preserved.reachable (fun _ => cameraInv_init) h

/-! ## Stale operations -/

/-- The run and the lease an operation presents. -/
def CameraOp.presents : CameraOp → Option (String × String × String)
  | .renew runId w τ _ => some (runId, w, τ)
  | .updateState runId w τ _ => some (runId, w, τ)
  | .updateMetrics runId w τ _ => some (runId, w, τ)
  | .finish runId w τ _ _ _ => some (runId, w, τ)
  | _ => none

/-- The operation does not raise before it looks at the table. -/
def CameraOp.wellFormed : CameraOp → Prop
  | .finish _ _ _ state _ _ => state.isTerminal = true
  | _ => True

/-- The operation returns `False` and changes nothing. -/
def CameraOp.RefusedAt (op : CameraOp) (now : Timestamp) (db : CameraDb) : Prop :=
  (op.wellFormed → (op.exec now db).1 = .wrote false) ∧ (op.exec now db).2 = db

theorem fencedUpdate_refused {runId w τ : String} {now : Timestamp}
    {values : LiveCameraRun → LiveCameraRun} {hv} {db : CameraDb}
    (h : ∀ run ∈ db.runs.rows, run.fence runId w τ now = false) :
    fencedUpdate runId w τ now values hv db = (false, db) := by
  have hno := Table.anyWhere_eq_false_iff.mpr h
  unfold fencedUpdate
  rw [hno, Table.updateWhere_eq_self hno]

theorem CameraOp.refused {op : CameraOp} {runId w τ : String} {now : Timestamp} {db : CameraDb}
    (hp : op.presents = some (runId, w, τ))
    (h : ∀ run ∈ db.runs.rows, run.fence runId w τ now = false) : op.RefusedAt now db := by
  cases op with
  | edit => simp [CameraOp.presents] at hp
  | claim => simp [CameraOp.presents] at hp
  | renew =>
      obtain ⟨rfl, rfl, rfl⟩ := by simpa [CameraOp.presents] using hp
      simp [RefusedAt, exec, LiveRunRepository.renew, fencedUpdate_refused h]
  | updateState =>
      obtain ⟨rfl, rfl, rfl⟩ := by simpa [CameraOp.presents] using hp
      simp [RefusedAt, exec, LiveRunRepository.updateState, fencedUpdate_refused h]
  | updateMetrics =>
      obtain ⟨rfl, rfl, rfl⟩ := by simpa [CameraOp.presents] using hp
      simp [RefusedAt, exec, LiveRunRepository.updateMetrics, fencedUpdate_refused h]
  | finish _ _ _ state code text =>
      obtain ⟨rfl, rfl, rfl⟩ := by simpa [CameraOp.presents] using hp
      by_cases ht : state.isTerminal = true
      · simp [RefusedAt, exec, LiveRunRepository.finish, ht, fencedUpdate_refused h]
      · simp [RefusedAt, wellFormed, exec, LiveRunRepository.finish, ht]

/-- The event claims run `runId` for the token `τ`. -/
def CameraEvent.Claims (s : CameraState) (e : CameraEvent) (runId w τ : String) : Prop :=
  ∃ cameraId lease tp run, e.op = .claim cameraId w τ lease runId tp ∧
    (e.op.exec e.time s.db).1 = .claimed (some run)

/-- The run is terminal in this state, finished by its worker or taken over. -/
def CameraState.ended (s : CameraState) (runId : String) : Prop :=
  ∃ run ∈ s.db.runs.rows, run.runId = runId ∧ run.runtimeState.isTerminal = true

instance (s : CameraState) (runId : String) : Decidable (s.ended runId) :=
  inferInstanceAs (Decidable (∃ run ∈ s.db.runs.rows, _))

theorem CameraEvent.Claims.only {s : CameraState} {e : CameraEvent} {runId w τ : String}
    (h : e.Claims s runId w τ) (he : cameraSystem.enabled s e) (hs : CameraInv s) :
    e.op.drawn = some τ ∧
      ∀ k, cameraAttempts.opens (e.next s).db.runs.rows k τ → k = runId := by
  obtain ⟨now, op⟩ := e
  obtain ⟨cameraId, lease, tp, run, rfl, hres⟩ := h
  have hclaim : (LiveRunRepository.claim cameraId w τ now lease runId tp s.db).1 = some run := by
    simpa [CameraOp.exec] using hres
  refine ⟨rfl, fun k hk => ?_⟩
  have hrows := claim_rows hclaim he.2.2
  have hid : run.runId = runId := by
    obtain ⟨camera, -, -, hrun, -⟩ := claim_some hclaim
    rw [hrun]
    rfl
  have hk' : cameraAttempts.opens
      (LiveRunRepository.claim cameraId w τ now lease runId tp s.db).2.runs.rows k τ := hk
  rw [hrows] at hk'
  refine (LeasedAttempt.opens_claimed hs ?_ he.2.1 hk').trans hid
  intro r _
  exact LeasedAttempt.closing_step expire_step r

theorem not_opens_of_ended {s : CameraState} (hs : CameraInv s) {runId : String}
    (h : s.ended runId) (τ : String) : ¬ cameraAttempts.opens s.db.runs.rows runId τ := by
  obtain ⟨run, hrun, rfl, hterm⟩ := h
  exact LeasedAttempt.not_opens_of_closed hrun
    (LeasedAttempt.LeaseLedger.closed_free hs run hrun hterm)

/-- After a run has been finished or taken over, its lease is worthless. -/
theorem camera_stale_refused {s : CameraState} (hs : cameraSystem.Reachable s)
    {c e : CameraEvent} {mid post : List CameraEvent}
    (hv : cameraSystem.Valid s (c :: mid ++ e :: post)) {runId w τ : String}
    (hc : c.Claims s runId w τ) (he : (e.next (cameraSystem.run s (c :: mid))).ended runId)
    {op : CameraOp} {k w' : String} (hp : op.presents = some (k, w', τ)) (now : Timestamp) :
    op.RefusedAt now (cameraSystem.run s (c :: mid ++ e :: post)).db := by
  have hinv := cameraInv_reachable hs
  obtain ⟨hcmid, hrest⟩ := Machine.valid_append.mp hv
  obtain ⟨hdrawn, honly⟩ := hc.only hcmid.1 hinv
  have hused : τ ∈ (c.next s).issued := List.mem_append_left _ (by simp [hdrawn])
  have hlater : CameraInv (e.next (cameraSystem.run s (c :: mid))) :=
    camera_fenced.preserved _ e hrest.1 (camera_fenced.preserved.run hcmid hinv)
  have hlost := camera_fenced.ended (i := runId) hv hinv hused
    (fun k hk ho => hk (honly k ho)) (not_opens_of_ended hlater he τ) k
  refine CameraOp.refused hp fun run hrun => ?_
  by_contra hf
  rw [Bool.not_eq_false, fence_iff] at hf
  exact hlost ⟨run, hrun, hf.1, hf.2.2.1⟩

/-- An expired lease is worthless. -/
theorem camera_expired_refused {db : CameraDb} {op : CameraOp} {runId w τ : String}
    (hp : op.presents = some (runId, w, τ)) {now : Timestamp}
    (h : ∀ run, db.runs.get runId = some run → run.leaseHeld now = false) :
    op.RefusedAt now db := by
  refine CameraOp.refused hp fun run hrun => ?_
  by_contra hf
  rw [Bool.not_eq_false, fence_iff] at hf
  have := h run (Table.get_eq_some_iff.mpr ⟨hrun, hf.1⟩)
  simp [hf.2.2.2] at this

end Mvision.Live
