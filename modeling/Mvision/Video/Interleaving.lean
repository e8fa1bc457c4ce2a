import Mathlib.Logic.Function.Basic
import Mvision.Video.Cancellation

/-!
# Video jobs: one row under overlapping transactions

`session.get` reads the committed row without a lock; the flush writes the
columns that differ from what was read.  `SELECT ... FOR UPDATE` holds the row
from the read to the commit, and every `UPDATE` waits for such a lock.  A
transaction is therefore a read step and a write step, with any other
transaction's steps in between.

A terminal status is safe from an unlocked write in all but two races
(`LateWrite`, `StaleCancel`).
-/

namespace Mvision.Video

open Mvision.Library

/-! ## An operation on the row it has read -/

/-- The filter or ownership test of the operation, on the row it has read. -/
def JobOp.admits (now : Timestamp) (job : VideoJob) : JobOp → Bool
  | .create _ => false
  | .claimNext _ _ _ _ => job.claimAdmits now
  | .settleExhausted => job.settleSelects now
  | .renewLease j w τ _ => decide (j = job.jobId) && job.ownsActiveLease w τ now
  | .updateProgress j w τ _ _ _ => decide (j = job.jobId) && job.ownsActiveLease w τ now
  | .requestCancel j => decide (j = job.jobId)
  | .lockOwned _ _ _ => false
  | .complete j w τ _ _ => decide (j = job.jobId) && job.holdsLease w τ
  | .finalize j w τ _ _ => decide (j = job.jobId) && job.lockAdmits w τ now
  | .fail j w τ _ => decide (j = job.jobId) && job.holdsLease w τ
  | .markCancelled j w τ => decide (j = job.jobId) && job.holdsLease w τ
  | .releaseForRetry j w τ _ _ => decide (j = job.jobId) && job.holdsLease w τ

/-- The row as the operation's assignments leave it. -/
def JobOp.assign (now : Timestamp) (job : VideoJob) : JobOp → VideoJob
  | .create _ => job
  | .claimNext w τ lease _ => job.claim w τ now lease
  | .settleExhausted => job.settle now
  | .renewLease _ _ _ expires => job.renew expires
  | .updateProgress _ _ _ stage percent frames => job.progress stage percent frames
  | .requestCancel _ => job.cancel now
  | .lockOwned _ _ _ => job
  | .complete _ _ _ persons frames => job.completed now persons frames
  | .finalize _ _ _ persons frames => job.completed now persons frames
  | .fail _ _ _ code => job.failed now code
  | .markCancelled _ _ _ => job.markedCancelled now
  | .releaseForRetry _ _ _ available code => job.released available code

theorem named_iff {j j' : String} {owns : Bool} :
    (decide (j = j') && owns) = true ↔ j = j' ∧ owns = true := by
  simp

/-- Both models agree on what an operation does to a row. -/
theorem rowChange_iff {now : Timestamp} {op : JobOp} {job job' : VideoJob} :
    RowChange now op job job' ↔ op.admits now job = true ∧ job' = op.assign now job := by
  constructor
  · intro h
    cases h with
    | claimed h => exact ⟨h, rfl⟩
    | settled h => exact ⟨h, rfl⟩
    | renewed h => exact ⟨named_iff.mpr ⟨rfl, h⟩, rfl⟩
    | progressed h => exact ⟨named_iff.mpr ⟨rfl, h⟩, rfl⟩
    | cancelled => exact ⟨by simp [JobOp.admits], rfl⟩
    | completed h => exact ⟨named_iff.mpr ⟨rfl, h⟩, rfl⟩
    | finalized h => exact ⟨named_iff.mpr ⟨rfl, h⟩, rfl⟩
    | failed h => exact ⟨named_iff.mpr ⟨rfl, h⟩, rfl⟩
    | markedCancelled h => exact ⟨named_iff.mpr ⟨rfl, h⟩, rfl⟩
    | released h => exact ⟨named_iff.mpr ⟨rfl, h⟩, rfl⟩
  · rintro ⟨h, rfl⟩
    cases op with
    | create => simp [JobOp.admits] at h
    | lockOwned => simp [JobOp.admits] at h
    | claimNext => exact .claimed h
    | settleExhausted => exact .settled h
    | requestCancel j =>
        obtain rfl : j = job.jobId := by simpa [JobOp.admits] using h
        exact .cancelled
    | renewLease =>
        obtain ⟨rfl, ho⟩ := named_iff.mp h
        exact .renewed ho
    | updateProgress =>
        obtain ⟨rfl, ho⟩ := named_iff.mp h
        exact .progressed ho
    | complete =>
        obtain ⟨rfl, ho⟩ := named_iff.mp h
        exact .completed ho
    | finalize =>
        obtain ⟨rfl, ho⟩ := named_iff.mp h
        exact .finalized ho
    | fail =>
        obtain ⟨rfl, ho⟩ := named_iff.mp h
        exact .failed ho
    | markCancelled =>
        obtain ⟨rfl, ho⟩ := named_iff.mp h
        exact .markedCancelled ho
    | releaseForRetry =>
        obtain ⟨rfl, ho⟩ := named_iff.mp h
        exact .released ho

/-- The operation reads its row `FOR UPDATE`. -/
def JobOp.locksRow : JobOp → Bool
  | .claimNext _ _ _ _ => true
  | .settleExhausted => true
  | .finalize _ _ _ _ _ => true
  | .lockOwned _ _ _ => true
  | _ => false

def JobOp.isCancel : JobOp → Bool
  | .requestCancel _ => true
  | _ => false

/-- The status an unlocked operation is after, given the status it has read. -/
def JobOp.target (read : JobStatus) : JobOp → Option JobStatus
  | .requestCancel _ =>
      match read with
      | .pending => some .cancelled
      | .processing => some .cancelling
      | _ => none
  | .complete _ _ _ _ _ => some .completed
  | .fail _ _ _ _ => some .failed
  | .markCancelled _ _ _ => some .cancelled
  | .releaseForRetry _ _ _ _ _ => some .pending
  | _ => none

/-- What an operation without a lock makes of the status that it has read. -/
theorem assign_status {op : JobOp} (hlock : op.locksRow = false) (now : Timestamp)
    (job : VideoJob) : (op.assign now job).status = (op.target job.status).getD job.status := by
  cases op with
  | requestCancel =>
      show (job.cancel now).status = _
      cases hstatus : job.status <;> simp [VideoJob.cancel, JobOp.target, hstatus]
  | claimNext | settleExhausted | finalize | lockOwned => cases hlock
  | create | renewLease | updateProgress | complete | fail | markCancelled | releaseForRetry => rfl

theorem assign_jobId (now : Timestamp) (job : VideoJob) (op : JobOp) :
    (op.assign now job).jobId = job.jobId := by
  cases op <;> simp [JobOp.assign]

theorem assign_processId (now : Timestamp) (job : VideoJob) (op : JobOp) :
    (op.assign now job).processId = job.processId := by
  cases op with
  | requestCancel =>
      show (job.cancel now).processId = _
      unfold VideoJob.cancel
      split <;> rfl
  | settleExhausted =>
      show (job.settle now).processId = _
      unfold VideoJob.settle
      split <;> rfl
  | create | claimNext | renewLease | updateProgress | lockOwned | complete | finalize | fail
  | markCancelled | releaseForRetry => rfl

/-! ## The flush -/

namespace VideoJob

/-- One column of an `UPDATE`: written only when the assignment changed it. -/
def flushed {α : Type} [DecidableEq α] (loaded assigned current : VideoJob)
    (column : VideoJob → α) : α :=
  if column assigned = column loaded then column current else column assigned

/-- The committed row after the flush of `assigned`, read as `loaded`. -/
def flush (loaded assigned current : VideoJob) : VideoJob where
  jobId := flushed loaded assigned current (·.jobId)
  processId := flushed loaded assigned current (·.processId)
  status := flushed loaded assigned current (·.status)
  stage := flushed loaded assigned current (·.stage)
  progressPercent := flushed loaded assigned current (·.progressPercent)
  cancellationRequested := flushed loaded assigned current (·.cancellationRequested)
  attemptCount := flushed loaded assigned current (·.attemptCount)
  maxAttempts := flushed loaded assigned current (·.maxAttempts)
  availableAt := flushed loaded assigned current (·.availableAt)
  workerId := flushed loaded assigned current (·.workerId)
  leaseToken := flushed loaded assigned current (·.leaseToken)
  leaseExpiresAt := flushed loaded assigned current (·.leaseExpiresAt)
  errorCode := flushed loaded assigned current (·.errorCode)
  processedFrames := flushed loaded assigned current (·.processedFrames)
  personCount := flushed loaded assigned current (·.personCount)
  createdAt := flushed loaded assigned current (·.createdAt)
  startedAt := flushed loaded assigned current (·.startedAt)
  completedAt := flushed loaded assigned current (·.completedAt)
  cancelledAt := flushed loaded assigned current (·.cancelledAt)

theorem flushed_self {α : Type} [DecidableEq α] (loaded assigned : VideoJob)
    (column : VideoJob → α) : flushed loaded assigned loaded column = column assigned := by
  unfold flushed
  split
  · rename_i h
    exact h.symm
  · rfl

theorem flushed_of_eq {α : Type} [DecidableEq α] {loaded assigned : VideoJob}
    {column : VideoJob → α} (h : column assigned = column loaded) (current : VideoJob) :
    flushed loaded assigned current column = column current := by
  simp [flushed, h]

theorem flushed_of_ne {α : Type} [DecidableEq α] {loaded assigned : VideoJob}
    {column : VideoJob → α} (h : column assigned ≠ column loaded) (current : VideoJob) :
    flushed loaded assigned current column = column assigned := by
  simp [flushed, h]

/-- Nobody wrote in between: the flush commits the row as assigned. -/
@[simp] theorem flush_self (loaded assigned : VideoJob) :
    flush loaded assigned loaded = assigned := by
  simp [flush, flushed_self]

end VideoJob

/-- The status after the flush of an operation without a lock, unless it is after the status that it
has read. -/
theorem flush_status {op : JobOp} (hlock : op.locksRow = false) (now : Timestamp)
    {loaded current : VideoJob}
    (hread : ∀ st ∈ op.target loaded.status, st = loaded.status → st = current.status) :
    (loaded.flush (op.assign now loaded) current).status =
      (op.target loaded.status).getD current.status := by
  have hassigned := assign_status hlock now loaded
  by_cases hsame : (op.assign now loaded).status = loaded.status
  · refine (VideoJob.flushed_of_eq hsame current).trans ?_
    cases htarget : op.target loaded.status with
    | none => rfl
    | some st =>
        rw [htarget, Option.getD_some, hsame] at hassigned
        exact (hread st htarget hassigned.symm).symm
  · refine (VideoJob.flushed_of_ne hsame current).trans ?_
    cases htarget : op.target loaded.status with
    | none =>
        rw [htarget, Option.getD_none] at hassigned
        exact absurd hassigned hsame
    | some st =>
        rw [htarget] at hassigned
        exact hassigned

/-! ## Sessions over one row -/

/-- An open transaction: its operation, its clock reading and the row it has read. -/
structure Session where
  op : JobOp
  time : Timestamp
  loaded : VideoJob

structure RowState where
  row : VideoJob
  lock : Option Nat
  sessions : Nat → Option Session

inductive RowEvent where
  | read (id : Nat) (time : Timestamp) (op : JobOp)
  | write (id : Nat)
  | rollback (id : Nat)

/-- The operation takes the lock if its filter admits the row. -/
def JobOp.takesLock (now : Timestamp) (job : VideoJob) (op : JobOp) : Bool :=
  op.locksRow && op.admits now job

/-- The committed row after the session's flush. -/
def Session.commit (tx : Session) (current : VideoJob) : VideoJob :=
  if tx.op.admits tx.time tx.loaded then
    tx.loaded.flush (tx.op.assign tx.time tx.loaded) current
  else current

def RowState.close (s : RowState) (id : Nat) (row : VideoJob) : RowState where
  row := row
  lock := if s.lock = some id then none else s.lock
  sessions := Function.update s.sessions id none

/-- A locking read waits for the lock to be free; a write waits unless the
lock is its own. -/
def RowEvent.enabled (s : RowState) : RowEvent → Prop
  | .read id _ op => (s.sessions id).isNone ∧ (op.locksRow = true → s.lock = none)
  | .write id => (s.sessions id).isSome ∧ (s.lock = none ∨ s.lock = some id)
  | .rollback id => (s.sessions id).isSome

instance (s : RowState) (e : RowEvent) : Decidable (e.enabled s) := by
  cases e <;> (simp only [RowEvent.enabled]; infer_instance)

def RowEvent.next (s : RowState) : RowEvent → RowState
  | .read id time op =>
      { s with
        lock := if op.takesLock time s.row then some id else s.lock
        sessions := Function.update s.sessions id (some ⟨op, time, s.row⟩) }
  | .write id =>
      match s.sessions id with
      | none => s
      | some tx => s.close id (tx.commit s.row)
  | .rollback id => s.close id s.row

/-- No open transaction. -/
def RowState.start (job : VideoJob) : RowState := ⟨job, none, fun _ => none⟩

/-- A submitted job and no open transaction. -/
def rowSystem : Machine RowState RowEvent where
  init s := Submitted s.row ∧ s.lock = none ∧ ∀ id, s.sessions id = none
  enabled s e := e.enabled s
  next s e := e.next s

instance (s : RowState) (e : RowEvent) : Decidable (rowSystem.enabled s e) :=
  inferInstanceAs (Decidable (e.enabled s))

@[simp] theorem rowSystem_next (s : RowState) (e : RowEvent) :
    rowSystem.next s e = e.next s := rfl

@[simp] theorem close_row (s : RowState) (id : Nat) (row : VideoJob) :
    (s.close id row).row = row := rfl

theorem close_session {s : RowState} {id id' : Nat} {row : VideoJob} {tx : Session}
    (h : (s.close id row).sessions id' = some tx) : id' ≠ id ∧ s.sessions id' = some tx := by
  by_cases hid : id' = id
  · simp [RowState.close, hid] at h
  · exact ⟨hid, by simpa [RowState.close, hid] using h⟩

/-! ## The two races -/

/-- The session read the row while it was not terminal and writes another
status over the terminal status the row has taken since. -/
def LateWrite (s : RowState) : RowEvent → Prop
  | .write id => ∃ tx ∈ s.sessions id, tx.op.admits tx.time tx.loaded = true ∧
      ¬ tx.loaded.isTerminal ∧ s.row.isTerminal ∧
        ∃ st ∈ tx.op.target tx.loaded.status, st ≠ s.row.status
  | _ => False

/-- The session read the row while it was `pending` and cancels it after a
worker has claimed it: the row turns `cancelled` with the lease left on it. -/
def StaleCancel (s : RowState) : RowEvent → Prop
  | .write id => ∃ tx ∈ s.sessions id, tx.op.isCancel = true ∧
      tx.loaded.status = .pending ∧ s.row.isClaimed = true
  | _ => False

instance (s : RowState) : DecidablePred (LateWrite s) := fun e => by
  cases e <;> (simp only [LateWrite]; infer_instance)

instance (s : RowState) : DecidablePred (StaleCancel s) := fun e => by
  cases e <;> (simp only [StaleCancel]; infer_instance)

/-- Neither worker nor token. -/
def VideoJob.Unleased (job : VideoJob) : Prop := job.workerId = none ∧ job.leaseToken = none

theorem Unleased.no_holder {job : VideoJob} (h : job.Unleased) (w τ : String) :
    job.holdsLease w τ = false := by
  simp [VideoJob.holdsLease, h.1]

/-- A row whose flush clears the lease columns of a lease it has read. -/
theorem flush_unleased {loaded assigned : VideoJob} {w τ : String}
    (hh : loaded.holdsLease w τ = true) (ha : assigned.Unleased) (current : VideoJob) :
    (loaded.flush assigned current).Unleased := by
  rw [VideoJob.holdsLease_iff] at hh
  constructor
  · refine (VideoJob.flushed_of_ne ?_ current).trans ha.1
    simp [ha.1, hh.1]
  · refine (VideoJob.flushed_of_ne ?_ current).trans ha.2
    simp [ha.2, hh.2]

/-- A flush that leaves the lease columns alone. -/
theorem flush_unleased_of_same {loaded assigned current : VideoJob}
    (hw : assigned.workerId = loaded.workerId) (ht : assigned.leaseToken = loaded.leaseToken)
    (hc : current.Unleased) : (loaded.flush assigned current).Unleased :=
  ⟨(VideoJob.flushed_of_eq hw current).trans hc.1,
    (VideoJob.flushed_of_eq ht current).trans hc.2⟩

/-- A flush that leaves the status alone as well. -/
theorem flush_unleased_of_unchanged {loaded assigned current : VideoJob}
    (hs : assigned.status = loaded.status) (hw : assigned.workerId = loaded.workerId)
    (ht : assigned.leaseToken = loaded.leaseToken)
    (hcur : current.isClaimed = false → current.Unleased)
    (hout : (loaded.flush assigned current).isClaimed = false) :
    (loaded.flush assigned current).Unleased := by
  have hst : (loaded.flush assigned current).status = current.status :=
    VideoJob.flushed_of_eq hs current
  refine flush_unleased_of_same hw ht (hcur ?_)
  simpa [VideoJob.isClaimed, hst] using hout

/-- Outside `StaleCancel`, a flush leaves no lease on an unclaimed row. -/
theorem RowChange.flush_unleased {now : Timestamp} {op : JobOp}
    {loaded assigned current : VideoJob} (hc : RowChange now op loaded assigned)
    (hlock : op.locksRow = true → loaded = current)
    (hcur : current.isClaimed = false → current.Unleased)
    (hstale : op.isCancel = true → loaded.status = .pending → current.isClaimed = false)
    (hout : (loaded.flush assigned current).isClaimed = false) :
    (loaded.flush assigned current).Unleased := by
  cases hc with
  | claimed =>
      obtain rfl := hlock rfl
      simp [VideoJob.isClaimed, VideoJob.claim] at hout
  | settled =>
      obtain rfl := hlock rfl
      rw [VideoJob.flush_self]
      unfold VideoJob.settle
      split <;> exact ⟨rfl, rfl⟩
  | finalized =>
      obtain rfl := hlock rfl
      rw [VideoJob.flush_self]
      exact ⟨rfl, rfl⟩
  | renewed => exact flush_unleased_of_unchanged rfl rfl rfl hcur hout
  | progressed => exact flush_unleased_of_unchanged rfl rfl rfl hcur hout
  | completed hh => exact Video.flush_unleased hh ⟨rfl, rfl⟩ current
  | failed hh => exact Video.flush_unleased hh ⟨rfl, rfl⟩ current
  | markedCancelled hh => exact Video.flush_unleased hh ⟨rfl, rfl⟩ current
  | released hh => exact Video.flush_unleased hh ⟨rfl, rfl⟩ current
  | cancelled =>
      cases hs : loaded.status with
      | pending =>
          have := hstale rfl hs
          exact flush_unleased_of_same (by simp [VideoJob.cancel, hs])
            (by simp [VideoJob.cancel, hs]) (hcur this)
      | processing =>
          have hcancelling : (loaded.flush (loaded.cancel now) current).status =
              .cancelling := by
            refine (VideoJob.flushed_of_ne ?_ current).trans ?_
            · simp [VideoJob.cancel, hs]
            · simp [VideoJob.cancel, hs]
          simp [VideoJob.isClaimed, hcancelling] at hout
      | _ =>
          have hsame : loaded.cancel now = loaded := by simp [VideoJob.cancel, hs]
          exact flush_unleased_of_unchanged (congrArg _ hsame) (congrArg _ hsame)
            (congrArg _ hsame) hcur hout

/-- Outside `LateWrite`, a flush leaves a terminal status alone. -/
theorem RowChange.flush_terminal {now : Timestamp} {op : JobOp}
    {loaded assigned current : VideoJob} (hc : RowChange now op loaded assigned)
    (hlock : op.locksRow = true → loaded = current)
    (hl : loaded.isClaimed = false → loaded.Unleased) (ht : current.isTerminal)
    (hlate : loaded.isTerminal ∨
      ∀ st, op.target loaded.status = some st → st = current.status) :
    (loaded.flush assigned current).status = current.status := by
  have hun := ht.unclaimed
  have hheld : ∀ {w τ}, loaded.holdsLease w τ = true → ¬ loaded.isTerminal := by
    intro w τ hh hlt
    simp [Unleased.no_holder (hl hlt.unclaimed)] at hh
  -- a write of the status `st` that is not late
  have hflush : ∀ st, assigned.status = st → op.target loaded.status = some st →
      ¬ loaded.isTerminal → (loaded.flush assigned current).status = current.status := by
    intro st hst htarget hnt
    have hsame : st = current.status := (hlate.resolve_left hnt) st htarget
    change VideoJob.flushed loaded assigned current (·.status) = current.status
    unfold VideoJob.flushed
    split
    · rfl
    · exact hst.trans hsame
  cases hc with
  | claimed admits =>
      obtain rfl := hlock rfl
      have := (VideoJob.claimAdmits_iff.mp admits).2
      rcases ht with h | h | h <;> simp [h] at this
  | settled selects =>
      obtain rfl := hlock rfl
      simp [VideoJob.settleSelects, hun] at selects
  | finalized locks =>
      obtain rfl := hlock rfl
      simp [VideoJob.isActive, hun] at locks
  | renewed => exact VideoJob.flushed_of_eq rfl current
  | progressed => exact VideoJob.flushed_of_eq rfl current
  | completed hh => exact hflush .completed rfl rfl (hheld hh)
  | failed hh => exact hflush .failed rfl rfl (hheld hh)
  | markedCancelled hh => exact hflush .cancelled rfl rfl (hheld hh)
  | released hh => exact hflush .pending rfl rfl (hheld hh)
  | cancelled =>
      cases hs : loaded.status with
      | pending =>
          exact hflush .cancelled (by simp [VideoJob.cancel, hs]) (by simp [hs, JobOp.target])
            (by simp [VideoJob.isTerminal, hs])
      | processing =>
          exact hflush .cancelling (by simp [VideoJob.cancel, hs]) (by simp [hs, JobOp.target])
            (by simp [VideoJob.isTerminal, hs])
      | _ =>
          refine VideoJob.flushed_of_eq ?_ current
          simp [VideoJob.cancel, hs]

/-- A late write replaces the terminal status by its target. -/
theorem RowChange.flush_late {now : Timestamp} {op : JobOp}
    {loaded assigned current : VideoJob} {st : JobStatus}
    (hc : RowChange now op loaded assigned)
    (hl : loaded.isClaimed = false → loaded.Unleased) (hnt : ¬ loaded.isTerminal)
    (htarget : op.target loaded.status = some st) :
    (loaded.flush assigned current).status = st := by
  have hflush : assigned.status = st → loaded.status ≠ st →
      (loaded.flush assigned current).status = st := by
    intro ha hne
    refine (VideoJob.flushed_of_ne ?_ current).trans ha
    simpa [ha] using hne.symm
  cases hc with
  | claimed => simp [JobOp.target] at htarget
  | settled => simp [JobOp.target] at htarget
  | finalized => simp [JobOp.target] at htarget
  | renewed => simp [JobOp.target] at htarget
  | progressed => simp [JobOp.target] at htarget
  | completed =>
      obtain rfl : JobStatus.completed = st := by simpa [JobOp.target] using htarget
      exact hflush rfl fun h => hnt (Or.inl h)
  | failed =>
      obtain rfl : JobStatus.failed = st := by simpa [JobOp.target] using htarget
      exact hflush rfl fun h => hnt (Or.inr (Or.inl h))
  | markedCancelled =>
      obtain rfl : JobStatus.cancelled = st := by simpa [JobOp.target] using htarget
      exact hflush rfl fun h => hnt (Or.inr (Or.inr h))
  | released hh =>
      obtain rfl : JobStatus.pending = st := by simpa [JobOp.target] using htarget
      refine hflush rfl fun h => ?_
      have := Unleased.no_holder (hl (by simp [VideoJob.isClaimed, h]))
      simp [this] at hh
  | cancelled =>
      cases hs : loaded.status with
      | pending =>
          obtain rfl : JobStatus.cancelled = st := by simpa [hs, JobOp.target] using htarget
          exact hflush (by simp [VideoJob.cancel, hs]) (by simp [hs])
      | processing =>
          obtain rfl : JobStatus.cancelling = st := by simpa [hs, JobOp.target] using htarget
          exact hflush (by simp [VideoJob.cancel, hs]) (by simp [hs])
      | _ => simp [hs, JobOp.target] at htarget

/-! ## The invariant of the sessions -/

/-- An unclaimed row carries no lease, neither now nor as any session has read
it; a session that holds the lock has read the row as it is. -/
structure SessionInv (s : RowState) : Prop where
  row : s.row.isClaimed = false → s.row.Unleased
  loaded : ∀ id tx, s.sessions id = some tx → tx.loaded.isClaimed = false →
    tx.loaded.Unleased
  locked : ∀ id tx, s.sessions id = some tx → tx.op.takesLock tx.time tx.loaded = true →
    s.lock = some id ∧ tx.loaded = s.row

theorem sessionInv_init {s : RowState} (h : rowSystem.init s) : SessionInv s where
  row _ := ⟨h.1.worker, h.1.token⟩
  loaded id tx hid := by simp [h.2.2 id] at hid
  locked id tx hid := by simp [h.2.2 id] at hid

/-- A session about to write has read the current row if it reads `FOR UPDATE`. -/
theorem SessionInv.loaded_eq {s : RowState} (hi : SessionInv s) {id : Nat} {tx : Session}
    (hid : s.sessions id = some tx) (hadm : tx.op.admits tx.time tx.loaded = true)
    (hlock : tx.op.locksRow = true) : tx.loaded = s.row :=
  (hi.locked id tx hid (by simp [JobOp.takesLock, hlock, hadm])).2

/-- Closing a session keeps the invariant if the row it leaves is in order and
no other session holds the lock on a row that changes. -/
theorem SessionInv.close {s : RowState} (hi : SessionInv s) {id : Nat} {row : VideoJob}
    (hrow : row.isClaimed = false → row.Unleased)
    (hlock : row = s.row ∨ s.lock = none ∨ s.lock = some id) : SessionInv (s.close id row) where
  row := hrow
  loaded id' tx hid' := hi.loaded id' tx (close_session hid').2
  locked id' tx hid' ht := by
    obtain ⟨hne, hold⟩ := close_session hid'
    obtain ⟨hl, hr⟩ := hi.locked id' tx hold ht
    have hother : s.lock ≠ some id := by
      rw [hl]
      exact fun h => hne (Option.some.inj h)
    rcases hlock with rfl | hnone | hown
    · exact ⟨by simp [RowState.close, hl, hne], hr⟩
    · simp [hnone] at hl
    · exact absurd hown hother

theorem sessionInv_next {s : RowState} {e : RowEvent} (he : rowSystem.enabled s e)
    (hstale : ¬ StaleCancel s e) (hi : SessionInv s) : SessionInv (e.next s) := by
  cases e with
  | rollback id => exact hi.close hi.row (Or.inl rfl)
  | write id =>
      simp only [RowEvent.next]
      cases hid : s.sessions id with
      | none => exact hi
      | some tx =>
          refine hi.close ?_ (Or.inr he.2)
          unfold Session.commit
          split
          · rename_i hadm
            have hc : RowChange tx.time tx.op tx.loaded (tx.op.assign tx.time tx.loaded) :=
              rowChange_iff.mpr ⟨hadm, rfl⟩
            refine hc.flush_unleased (hi.loaded_eq hid hadm) hi.row ?_
            intro hop hpend
            by_contra hcl
            exact hstale ⟨tx, hid, hop, hpend, by simpa using hcl⟩
          · exact hi.row
  | read id time op =>
      obtain ⟨hfree, hlock⟩ := he
      have hcases : ∀ {id' tx}, (RowEvent.next s (.read id time op)).sessions id' = some tx →
          (id' = id ∧ tx = ⟨op, time, s.row⟩) ∨ (id' ≠ id ∧ s.sessions id' = some tx) := by
        intro id' tx h
        by_cases hid : id' = id
        · exact Or.inl ⟨hid, by simpa [RowEvent.next, hid] using h.symm⟩
        · exact Or.inr ⟨hid, by simpa [RowEvent.next, hid] using h⟩
      refine ⟨hi.row, ?_, ?_⟩
      · intro id' tx h
        rcases hcases h with ⟨-, rfl⟩ | ⟨-, hold⟩
        · exact hi.row
        · exact hi.loaded id' tx hold
      · intro id' tx h ht
        rcases hcases h with ⟨rfl, rfl⟩ | ⟨-, hold⟩
        · exact ⟨by simp only [RowEvent.next]; rw [if_pos ht], rfl⟩
        · -- some other session holds the lock, so this read does not take it
          obtain ⟨hl, hr⟩ := hi.locked id' tx hold ht
          have hno : op.takesLock time s.row = false := by
            by_contra htake
            have hlocks : op.locksRow = true := by
              simp only [JobOp.takesLock, Bool.not_eq_false, Bool.and_eq_true] at htake
              exact htake.1
            simp [hlock hlocks] at hl
          exact ⟨by simp [RowEvent.next, hno, hl], hr⟩

/-! ## Terminal statuses are absorbing outside the races -/

/-- The step lemma: without a stale cancel, a terminal status survives exactly
the steps that are not late writes. -/
theorem terminal_step_iff {s : RowState} {e : RowEvent} (hi : SessionInv s) :
    (s.row.isTerminal → (e.next s).row.status = s.row.status) ↔ ¬ LateWrite s e := by
  cases e with
  | read => simp [RowEvent.next, LateWrite]
  | rollback => simp [RowEvent.next, LateWrite]
  | write id =>
      cases hid : s.sessions id with
      | none => simp [RowEvent.next, LateWrite, hid]
      | some tx =>
          have hnext : ((RowEvent.write id).next s).row = tx.commit s.row := by
            simp [RowEvent.next, hid]
          rw [hnext]
          have hchange : tx.op.admits tx.time tx.loaded = true →
              RowChange tx.time tx.op tx.loaded (tx.op.assign tx.time tx.loaded) :=
            fun hadm => rowChange_iff.mpr ⟨hadm, rfl⟩
          constructor
          · rintro h ⟨tx', hid', hadm, hnt, ht, st, htarget, hne⟩
            obtain rfl : tx = tx' := Option.some.inj (hid.symm.trans hid')
            have hst := h ht
            rw [Session.commit, if_pos hadm] at hst
            have hlate : (tx.loaded.flush (tx.op.assign tx.time tx.loaded) s.row).status = st :=
              (hchange hadm).flush_late (hi.loaded id tx hid) hnt htarget
            exact hne (hlate.symm.trans hst)
          · intro hno ht
            unfold Session.commit
            split
            · rename_i hadm
              refine (hchange hadm).flush_terminal (hi.loaded_eq hid hadm)
                (hi.loaded id tx hid) ht ?_
              by_cases hlt : tx.loaded.isTerminal
              · exact Or.inl hlt
              · refine Or.inr fun st htarget => ?_
                by_contra hne
                exact hno ⟨tx, hid, hadm, hlt, ht, st, htarget, hne⟩
            · rfl

/-- Once a committed row has a terminal status, every later one has the same. -/
def TerminalAbsorbing (s : RowState) (es : List RowEvent) : Prop :=
  rowSystem.Absorbing (fun s => s.row.isTerminal) (fun s => s.row.status) s es

/-- Among the runs without stale cancels, terminal statuses are absorbing in
exactly those without late writes. -/
theorem terminalAbsorbing_iff {s : RowState} {es : List RowEvent} (hi : rowSystem.init s)
    (hv : rowSystem.Valid s es) (hstale : rowSystem.Meets (fun s e => ¬ StaleCancel s e) s es) :
    TerminalAbsorbing s es ↔ rowSystem.Meets (fun s e => ¬ LateWrite s e) s es := by
  have hT : ∀ s t : RowState, t.row.status = s.row.status → s.row.isTerminal →
      t.row.isTerminal := by
    intro s t h ht
    simpa [VideoJob.isTerminal, h] using ht
  rw [TerminalAbsorbing, Machine.absorbing_iff_meets hT]
  have hinv : rowSystem.Always SessionInv s es :=
    Machine.PreservedUnder.always (fun s e he hst hi => sessionInv_next he hst hi) hv hstale
      (sessionInv_init hi)
  exact Machine.meets_congr hinv fun s e hi => terminal_step_iff hi

/-- Outside the two races, no interleaving replaces a terminal status. -/
theorem terminal_absorbing_of_no_race {s : RowState} {es : List RowEvent}
    (hi : rowSystem.init s) (hv : rowSystem.Valid s es)
    (hm : rowSystem.Meets (fun s e => ¬ LateWrite s e ∧ ¬ StaleCancel s e) s es) :
    TerminalAbsorbing s es := by
  obtain ⟨hlate, hstale⟩ := Machine.meets_and.mp hm
  exact (terminalAbsorbing_iff hi hv hstale).mpr hlate

/-- A cancel reads the running job and waits; it writes before the worker
reads it again, so the worker's own write finds what it has read. -/
theorem terminal_absorbing_of_no_race_cancelled :
    TerminalAbsorbing (.start (VideoUploadService.submit "job" "process" 3 0 0))
      [.read 1 1 (.claimNext "worker" "lease" 10 1), .write 1,
        .read 2 2 (.requestCancel "job"), .write 2,
        .read 3 3 (.markCancelled "job" "worker" "lease"), .write 3,
        .read 4 4 (.requestCancel "job"), .write 4] :=
  terminal_absorbing_of_no_race
    ⟨VideoUploadService.submit_submitted "job" "process" (by decide) 0 0, rfl, fun _ => rfl⟩
    (by decide) (by decide)

/-- A cancel reads the running job, the worker finalises it, and the late
write of the cancel turns the completed job into a `cancelling` one. -/
theorem completed_job_overwritten :
    ∃ s es, rowSystem.init s ∧ rowSystem.Valid s es ∧ ¬ TerminalAbsorbing s es := by
  let s := RowState.start (VideoUploadService.submit "job" "process" 3 0 0)
  let pre : List RowEvent :=
    [.read 1 1 (.claimNext "worker" "lease" 10 1), .write 1, .read 2 2 (.requestCancel "job"),
      .read 3 3 (.finalize "job" "worker" "lease" 1 100), .write 3]
  refine ⟨s, pre ++ [.write 2], ⟨?_, rfl, fun _ => rfl⟩, by decide, ?_⟩
  · exact VideoUploadService.submit_submitted "job" "process" (by decide) 0 0
  · intro h
    have hcompleted : (rowSystem.run s pre).row.status = .completed := rfl
    have hlast := (h pre [.write 2] rfl (Or.inl hcompleted)).last
    have hcancelling : (rowSystem.run (rowSystem.run s pre) [.write 2]).row.status =
        .cancelling := rfl
    exact absurd (hcancelling.symm.trans (hlast.trans hcompleted)) (by decide)

end Mvision.Video
