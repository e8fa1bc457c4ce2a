import Mathlib.Data.Rat.Defs
import Mathlib.Algebra.Order.Ring.Rat
import Mvision.Datetime
import Mvision.Library.Query
import Mvision.Library.Table

/-!
# Video jobs: the row and the repository operations

`VideoJob` keeps the columns that `VideoJobRepository` reads or writes; the
columns that describe the uploaded source are left out.  Timestamps are
microseconds.  A comparison with a `NULL` column is never true in SQL, hence
the `Option.any` below.

Every operation is the body of one repository method run as one transaction:
it takes the time its clock reads, and returns the method's result and the
table it commits.
-/

namespace Mvision.Video

open Mvision.Library

inductive JobStatus where
  | pending
  | processing
  | cancelling
  | cancelled
  | completed
  | failed
deriving DecidableEq, Repr

structure VideoJob where
  jobId : String
  processId : String
  status : JobStatus
  stage : String
  progressPercent : ℚ
  cancellationRequested : Bool
  attemptCount : Nat
  maxAttempts : Nat
  availableAt : Timestamp
  workerId : Option String
  leaseToken : Option String
  leaseExpiresAt : Option Timestamp
  errorCode : Option String
  processedFrames : Int
  personCount : Int
  createdAt : Timestamp
  startedAt : Option Timestamp
  completedAt : Option Timestamp
  cancelledAt : Option Timestamp
deriving DecidableEq

/-- The `video_job` table. -/
abbrev Jobs := Table VideoJob.jobId

namespace VideoJob

/-- `status IN ('processing', 'cancelling')`. -/
def isClaimed (job : VideoJob) : Bool :=
  decide (job.status = .processing ∨ job.status = .cancelling)

/-- A job that counts against `max_concurrent_jobs`. -/
def isActive (now : Timestamp) (job : VideoJob) : Bool :=
  job.isClaimed && job.leaseExpiresAt.any (fun t => decide (now ≤ t))

/-- The candidate filter of `claim_next`. -/
def claimAdmits (now : Timestamp) (job : VideoJob) : Bool :=
  decide (job.attemptCount < job.maxAttempts) &&
    ((decide (job.status = .pending) && decide (job.availableAt ≤ now)) ||
      (decide (job.status = .processing) &&
        job.leaseExpiresAt.any (fun t => decide (t < now))))

/-- The filter of `settle_exhausted`. -/
def settleSelects (now : Timestamp) (job : VideoJob) : Bool :=
  job.isClaimed && job.leaseExpiresAt.any (fun t => decide (t < now)) &&
    decide (job.maxAttempts ≤ job.attemptCount)

/-- `_owns_active_lease` on a row that exists. -/
def ownsActiveLease (job : VideoJob) (workerId leaseToken : String) (now : Timestamp) :
    Bool :=
  job.isActive now && decide (job.workerId = some workerId) &&
    decide (job.leaseToken = some leaseToken)

/-- The ownership test of `complete`, `fail`, `mark_cancelled` and
`release_for_retry`: the token only, neither the status nor the lease time. -/
def holdsLease (job : VideoJob) (workerId leaseToken : String) : Bool :=
  decide (job.workerId = some workerId) && decide (job.leaseToken = some leaseToken)

/-- The row filter of `lock_owned`. -/
def lockAdmits (job : VideoJob) (workerId leaseToken : String) (now : Timestamp) : Bool :=
  job.ownsActiveLease workerId leaseToken now && !job.cancellationRequested

/-! ## What each method assigns to its row -/

def clearLease (job : VideoJob) : VideoJob :=
  { job with workerId := none, leaseToken := none, leaseExpiresAt := none }

def claim (job : VideoJob) (workerId leaseToken : String) (now : Timestamp)
    (leaseSeconds : Int) : VideoJob :=
  { job with
    status := .processing
    stage := "starting"
    workerId := some workerId
    leaseToken := some leaseToken
    leaseExpiresAt := some (now + timedelta leaseSeconds)
    attemptCount := job.attemptCount + 1
    startedAt := job.startedAt <|> some now }

def settle (job : VideoJob) (now : Timestamp) : VideoJob :=
  if job.status = .cancelling then
    { job with status := .cancelled, stage := "cancelled", cancelledAt := some now }.clearLease
  else
    { job with
      status := .failed
      stage := "failed"
      errorCode := some "VIDEO_JOB_ATTEMPTS_EXHAUSTED"
      completedAt := some now }.clearLease

def renew (job : VideoJob) (expiresAt : Timestamp) : VideoJob :=
  { job with leaseExpiresAt := some expiresAt }

def progress (job : VideoJob) (stage : String) (progressPercent : ℚ)
    (processedFrames : Int) : VideoJob :=
  { job with
    stage := stage
    progressPercent := max 0 (min 100 progressPercent)
    processedFrames := max job.processedFrames processedFrames }

/-- The branches of `request_cancel`; a job in any other status is left as it is. -/
def cancel (job : VideoJob) (now : Timestamp) : VideoJob :=
  match job.status with
  | .pending =>
      { job with
        cancellationRequested := true
        status := .cancelled
        stage := "cancelled"
        cancelledAt := some now }
  | .processing =>
      { job with
        cancellationRequested := true
        status := .cancelling
        stage := "cancelling" }
  | _ => job

def completed (job : VideoJob) (now : Timestamp) (personCount processedFrames : Int) :
    VideoJob :=
  { job with
    status := .completed
    stage := "completed"
    progressPercent := 100
    personCount := personCount
    processedFrames := max job.processedFrames processedFrames
    completedAt := some now }.clearLease

def failed (job : VideoJob) (now : Timestamp) (errorCode : String) : VideoJob :=
  { job with
    status := .failed
    stage := "failed"
    errorCode := some errorCode
    completedAt := some now }.clearLease

def markedCancelled (job : VideoJob) (now : Timestamp) : VideoJob :=
  { job with
    status := .cancelled
    stage := "cancelled"
    cancelledAt := some now }.clearLease

def released (job : VideoJob) (availableAt : Timestamp) (errorCode : String) : VideoJob :=
  { job with
    status := .pending
    stage := "queued"
    availableAt := availableAt
    errorCode := some errorCode }.clearLease

/-! No method assigns the primary key. -/

@[simp] theorem claim_jobId (job : VideoJob) (w τ : String) (now : Timestamp)
    (lease : Int) : (job.claim w τ now lease).jobId = job.jobId := rfl

@[simp] theorem renew_jobId (job : VideoJob) (expires : Timestamp) :
    (job.renew expires).jobId = job.jobId := rfl

@[simp] theorem progress_jobId (job : VideoJob) (stage : String) (percent : ℚ)
    (frames : Int) : (job.progress stage percent frames).jobId = job.jobId := rfl

@[simp] theorem completed_jobId (job : VideoJob) (now : Timestamp)
    (persons frames : Int) : (job.completed now persons frames).jobId = job.jobId := rfl

@[simp] theorem failed_jobId (job : VideoJob) (now : Timestamp) (code : String) :
    (job.failed now code).jobId = job.jobId := rfl

@[simp] theorem markedCancelled_jobId (job : VideoJob) (now : Timestamp) :
    (job.markedCancelled now).jobId = job.jobId := rfl

@[simp] theorem released_jobId (job : VideoJob) (available : Timestamp)
    (code : String) : (job.released available code).jobId = job.jobId := rfl

@[simp] theorem settle_jobId (job : VideoJob) (now : Timestamp) :
    (job.settle now).jobId = job.jobId := by
  unfold settle
  split <;> rfl

@[simp] theorem cancel_jobId (job : VideoJob) (now : Timestamp) :
    (job.cancel now).jobId = job.jobId := by
  unfold cancel
  split <;> rfl

end VideoJob

/-! ## The repository methods -/

namespace VideoJobRepository

/-- `pg_advisory_xact_lock` serialises admissions, so the count and the
selection see one state.  `ORDER BY created_at LIMIT 1` breaks ties by
physical row order. -/
def claimCandidate (now : Timestamp) (jobs : Jobs) : Option VideoJob :=
  first (fun a b => a.createdAt ≤ b.createdAt) (VideoJob.claimAdmits now) jobs.rows

def activeCount (now : Timestamp) (jobs : Jobs) : Nat :=
  jobs.rows.countP (VideoJob.isActive now)

def claimNext (workerId leaseToken : String) (leaseSeconds : Int) (maxConcurrentJobs : Nat)
    (now : Timestamp) (jobs : Jobs) : Option VideoJob × Jobs :=
  if maxConcurrentJobs ≤ activeCount now jobs then (none, jobs)
  else
    match claimCandidate now jobs with
    | none => (none, jobs)
    | some job =>
        (some (job.claim workerId leaseToken now leaseSeconds),
          jobs.update job.jobId (·.claim workerId leaseToken now leaseSeconds)
            (·.claim_jobId workerId leaseToken now leaseSeconds))

/-- One row of `settle_exhausted`. -/
def settleRow (now : Timestamp) (job : VideoJob) : VideoJob :=
  if job.settleSelects now then job.settle now else job

theorem settleRow_jobId (now : Timestamp) (job : VideoJob) :
    (settleRow now job).jobId = job.jobId := by
  unfold settleRow
  split
  · exact job.settle_jobId now
  · rfl

/-- Returns the process id and the final status of every settled job, oldest first. -/
def settleExhausted (now : Timestamp) (jobs : Jobs) : List (String × JobStatus) × Jobs :=
  let settled := (jobs.rows.filter (VideoJob.settleSelects now)).insertionSort
    (fun a b => a.createdAt ≤ b.createdAt)
  (settled.map (fun job => (job.processId, (job.settle now).status)),
    jobs.mapRows (settleRow now) (settleRow_jobId now))

def lockOwned (jobId workerId leaseToken : String) (now : Timestamp) (jobs : Jobs) :
    Option VideoJob :=
  (jobs.get jobId).filter (fun job => job.lockAdmits workerId leaseToken now)

/-- `session.get`, an ownership test, assignments, `flush`: the shape of the
methods that return whether they wrote the row. -/
def writeOwned (jobId : String) (owns : VideoJob → Bool) (f : VideoJob → VideoJob)
    (hf : ∀ job, (f job).jobId = job.jobId) (jobs : Jobs) : Bool × Jobs :=
  match jobs.get jobId with
  | none => (false, jobs)
  | some job => if owns job then (true, jobs.update jobId f hf) else (false, jobs)

def renewLease (jobId workerId leaseToken : String) (expiresAt : Timestamp)
    (now : Timestamp) : Jobs → Bool × Jobs :=
  writeOwned jobId (·.ownsActiveLease workerId leaseToken now) (·.renew expiresAt)
    (·.renew_jobId expiresAt)

def updateProgress (jobId workerId leaseToken stage : String) (progressPercent : ℚ)
    (processedFrames : Int) (now : Timestamp) : Jobs → Bool × Jobs :=
  writeOwned jobId (·.ownsActiveLease workerId leaseToken now)
    (·.progress stage progressPercent processedFrames)
    (·.progress_jobId stage progressPercent processedFrames)

def requestCancel (jobId : String) (now : Timestamp) (jobs : Jobs) :
    Option VideoJob × Jobs :=
  match jobs.get jobId with
  | none => (none, jobs)
  | some job => (some (job.cancel now), jobs.update jobId (·.cancel now) (·.cancel_jobId now))

def complete (jobId workerId leaseToken : String) (personCount processedFrames : Int)
    (now : Timestamp) : Jobs → Bool × Jobs :=
  writeOwned jobId (·.holdsLease workerId leaseToken)
    (·.completed now personCount processedFrames)
    (·.completed_jobId now personCount processedFrames)

def fail (jobId workerId leaseToken errorCode : String) (now : Timestamp) :
    Jobs → Bool × Jobs :=
  writeOwned jobId (·.holdsLease workerId leaseToken) (·.failed now errorCode)
    (·.failed_jobId now errorCode)

def markCancelled (jobId workerId leaseToken : String) (now : Timestamp) :
    Jobs → Bool × Jobs :=
  writeOwned jobId (·.holdsLease workerId leaseToken) (·.markedCancelled now)
    (·.markedCancelled_jobId now)

def releaseForRetry (jobId workerId leaseToken : String) (availableAt : Timestamp)
    (errorCode : String) : Jobs → Bool × Jobs :=
  writeOwned jobId (·.holdsLease workerId leaseToken) (·.released availableAt errorCode)
    (·.released_jobId availableAt errorCode)

end VideoJobRepository

/-- The job side of `VideoResultService.finalize`: `lock_owned` holds the row
until the same transaction has run `complete`; without the lock the
transaction is rolled back. -/
def VideoResultService.finalize (jobId workerId leaseToken : String) (personCount processedFrames : Int)
    (now : Timestamp) (jobs : Jobs) : Bool × Jobs :=
  match VideoJobRepository.lockOwned jobId workerId leaseToken now jobs with
  | none => (false, jobs)
  | some _ => VideoJobRepository.complete jobId workerId leaseToken personCount processedFrames now jobs

/-! ## Small facts the later modules rewrite with -/

namespace VideoJob

@[simp] theorem holdsLease_iff {job : VideoJob} {w τ : String} :
    job.holdsLease w τ = true ↔ job.workerId = some w ∧ job.leaseToken = some τ := by
  simp [holdsLease]

@[simp] theorem ownsActiveLease_iff {job : VideoJob} {w τ : String} {now : Timestamp} :
    job.ownsActiveLease w τ now = true ↔
      job.isActive now = true ∧ job.workerId = some w ∧ job.leaseToken = some τ := by
  simp [ownsActiveLease, and_assoc]

@[simp] theorem lockAdmits_iff {job : VideoJob} {w τ : String} {now : Timestamp} :
    job.lockAdmits w τ now = true ↔
      (job.isActive now = true ∧ job.workerId = some w ∧ job.leaseToken = some τ) ∧
        job.cancellationRequested = false := by
  simp [lockAdmits]

@[simp] theorem isClaimed_iff {job : VideoJob} :
    job.isClaimed = true ↔ job.status = .processing ∨ job.status = .cancelling := by
  simp [isClaimed]

theorem isActive_iff {job : VideoJob} {now : Timestamp} :
    job.isActive now = true ↔
      (job.status = .processing ∨ job.status = .cancelling) ∧
        ∃ t, job.leaseExpiresAt = some t ∧ now ≤ t := by
  simp [isActive, Option.any_eq_true]

theorem claimAdmits_iff {job : VideoJob} {now : Timestamp} :
    job.claimAdmits now = true ↔ job.attemptCount < job.maxAttempts ∧
      (job.status = .pending ∧ job.availableAt ≤ now ∨
        job.status = .processing ∧ ∃ t, job.leaseExpiresAt = some t ∧ t < now) := by
  simp [claimAdmits, Option.any_eq_true]

theorem settleSelects_iff {job : VideoJob} {now : Timestamp} :
    job.settleSelects now = true ↔
      (job.status = .processing ∨ job.status = .cancelling) ∧
        (∃ t, job.leaseExpiresAt = some t ∧ t < now) ∧
          job.maxAttempts ≤ job.attemptCount := by
  simp [settleSelects, Option.any_eq_true, and_assoc]

end VideoJob

theorem VideoJobRepository.claimCandidate_spec {now : Timestamp} {jobs : Jobs} {job : VideoJob}
    (h : claimCandidate now jobs = some job) :
    job ∈ jobs.rows ∧ job.claimAdmits now = true :=
  first_mem h

end Mvision.Video
