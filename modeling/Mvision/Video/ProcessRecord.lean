import Mvision.Video.Interleaving

/-!
# Video jobs and their process records

The record of a job's process is written by `VideoJobService.cancel`, by
`process_one_job` and, within `finalize`, by the failure recorder of
`FaceSamplePersistenceService`.  Any number of workers run `process_one_job`,
any number of clients cancel, and a run may end at any point.

A transaction that locks its rows is one step.  One that reads its job without
a lock is two: it reads, and it flushes the columns that differ from what it
has read, with any other steps in between.  The `UPDATE` locks the row of the
job, so the record is written in the same step.

All writers but one change the record in the transaction that changes the job.
The failure recorder commits `failed` while the job may still be tried again.
-/

namespace Mvision.Video

open Mvision.Library
open VideoJobRepository

inductive ProcessStatus where
  | started
  | completed
  | failed
  | cancelled
deriving DecidableEq, Repr

structure ProcessRecord where
  processId : String
  processType : String
  status : ProcessStatus := .started
  faceCount : Int := 0
  errorCode : Option String := none
  completedAt : Option Timestamp := none
deriving DecidableEq

/-- The `process_record` table. -/
abbrev Processes := Table ProcessRecord.processId

namespace ProcessRecordRepository

def create (processId processType : String) (processes : Processes) : Processes :=
  processes.insert { processId, processType }

def complete (processId : String) (faceCount : Int) (now : Timestamp) (processes : Processes) :
    Processes :=
  processes.update processId
    (fun record => { record with status := .completed, faceCount, completedAt := some now })
    fun _ => rfl

def fail (processId errorCode : String) (now : Timestamp) (processes : Processes) : Processes :=
  processes.update processId
    (fun record =>
      { record with status := .failed, errorCode := some errorCode, completedAt := some now })
    fun _ => rfl

def cancel (processId : String) (now : Timestamp) (processes : Processes) : Processes :=
  processes.update processId
    (fun record => { record with status := .cancelled, completedAt := some now }) fun _ => rfl

end ProcessRecordRepository

/-- The status of the record of a job in this status. -/
def JobStatus.expected : JobStatus → ProcessStatus
  | .pending | .processing | .cancelling => .started
  | .completed => .completed
  | .failed => .failed
  | .cancelled => .cancelled

/-! ## The services -/

/-- A run of `process_one_job` that has claimed a job, the row as it was then, and whether `persist`
has recorded a failure in it. -/
structure JobRun where
  workerId : String
  leaseToken : String
  job : VideoJob
  recorded : Bool := false
deriving DecidableEq

/-- A transaction that reads its job without a lock: `VideoJobService.cancel`, or one of a run. -/
inductive UnlockedCall where
  | cancel (jobId : String)
  | renewLease (run : JobRun) (expiresAt : Timestamp)
  | updateProgress (run : JobRun) (stage : String) (progressPercent : ℚ) (processedFrames : Int)
  | markCancelled (run : JobRun)
  | handleFailure (run : JobRun) (errorCode : String)
deriving DecidableEq

namespace UnlockedCall

/-- The run that makes the call. -/
def run : UnlockedCall → Option JobRun
  | .cancel _ => none
  | .renewLease run _ | .updateProgress run _ _ _ | .markCancelled run | .handleFailure run _ =>
      some run

/-- The run that returns after the call. -/
def ends : UnlockedCall → Option JobRun
  | .cancel _ | .renewLease _ _ | .updateProgress _ _ _ _ => none
  | .markCancelled run | .handleFailure run _ => some run

def jobId : UnlockedCall → String
  | .cancel jobId => jobId
  | .renewLease run _ | .updateProgress run _ _ _ | .markCancelled run | .handleFailure run _ =>
      run.job.jobId

/-- What the call asks of the job repository.  `_handle_failure` counts the attempts of the row that
its run has claimed. -/
def op (time : Timestamp) : UnlockedCall → JobOp
  | .cancel jobId => .requestCancel jobId
  | .renewLease run expiresAt =>
      .renewLease run.job.jobId run.workerId run.leaseToken expiresAt
  | .updateProgress run stage progressPercent processedFrames =>
      .updateProgress run.job.jobId run.workerId run.leaseToken stage progressPercent
        processedFrames
  | .markCancelled run => .markCancelled run.job.jobId run.workerId run.leaseToken
  | .handleFailure run errorCode =>
      if run.job.maxAttempts ≤ run.job.attemptCount then
        .fail run.job.jobId run.workerId run.leaseToken errorCode
      else
        .releaseForRetry run.job.jobId run.workerId run.leaseToken (time + timedelta 30) errorCode

/-- What the call does to the records once the job is written. -/
def record (loaded : VideoJob) (now : Timestamp) (processes : Processes) :
    UnlockedCall → Processes
  | .cancel _ =>
      if loaded.status = .pending ∧ (loaded.cancel now).status = .cancelled then
        ProcessRecordRepository.cancel loaded.processId now processes
      else processes
  | .renewLease _ _ | .updateProgress _ _ _ _ => processes
  | .markCancelled run => ProcessRecordRepository.cancel run.job.processId now processes
  | .handleFailure run errorCode =>
      if run.job.maxAttempts ≤ run.job.attemptCount then
        ProcessRecordRepository.fail run.job.processId errorCode now processes
      else processes

end UnlockedCall

/-- A transaction between its read and its flush. -/
structure OpenTransaction where
  call : UnlockedCall
  time : Timestamp
  loaded : VideoJob
deriving DecidableEq

namespace OpenTransaction

def op (tx : OpenTransaction) : JobOp := tx.call.op tx.time

/-- The row that it has read passes the test of the repository. -/
def applies (tx : OpenTransaction) : Bool := tx.op.admits tx.time tx.loaded

/-- The row as it assigns it. -/
def assigned (tx : OpenTransaction) : VideoJob := tx.op.assign tx.time tx.loaded

theorem flush_jobId (tx : OpenTransaction) (current : VideoJob) :
    (tx.loaded.flush tx.assigned current).jobId = current.jobId :=
  VideoJob.flushed_of_eq (assign_jobId tx.time tx.loaded tx.op) current

end OpenTransaction

/-- The tables, the tokens drawn so far, the runs in progress, the transactions that have read their
job, and the jobs in whose process `persist` has recorded a failure. -/
structure ProcessingState where
  now : Timestamp
  jobs : Jobs := .empty
  issued : List String := []
  processes : Processes := .empty
  running : List JobRun := []
  opened : List OpenTransaction := []
  failures : List String := []

inductive ProcessingStep where
  | submit (job : VideoJob)
  | begin (workerId leaseToken : String) (leaseSeconds : Int) (maxConcurrentJobs : Nat)
  | read (call : UnlockedCall)
  | flush (tx : OpenTransaction)
  | rollback (tx : OpenTransaction)
  | recordFailure (run : JobRun) (errorCode : String)
  | finalize (run : JobRun) (personCount processedFrames : Int)
  | stop (run : JobRun)
deriving DecidableEq

structure ProcessingEvent where
  time : Timestamp
  step : ProcessingStep
deriving DecidableEq

/-- The run that returns in the step. -/
def ProcessingStep.ended : ProcessingStep → Option JobRun
  | .flush tx | .rollback tx => tx.call.ends
  | .finalize run _ _ | .stop run => some run
  | .submit _ | .begin _ _ _ _ | .read _ | .recordFailure _ _ => none

namespace ProcessingState

/-- `VideoUploadService`: the process, and the row of the job. -/
def submit (s : ProcessingState) (job : VideoJob) : ProcessingState :=
  { s with
    processes := ProcessRecordRepository.create job.processId "video_recognize" s.processes
    jobs := s.jobs.insert job }

/-- The record of a job that `settle_exhausted` has settled. -/
def settleProcess (now : Timestamp) (processes : Processes) (settled : String × JobStatus) :
    Processes :=
  if settled.2 = .cancelled then ProcessRecordRepository.cancel settled.1 now processes
  else ProcessRecordRepository.fail settled.1 "VIDEO_JOB_ATTEMPTS_EXHAUSTED" now processes

/-- The first half of the transaction that `process_one_job` begins with. -/
def settle (s : ProcessingState) : ProcessingState :=
  { s with
    jobs := (settleExhausted s.now s.jobs).2
    processes := (settleExhausted s.now s.jobs).1.foldl (settleProcess s.now) s.processes }

/-- The second half of it. -/
def claim (s : ProcessingState) (workerId leaseToken : String) (leaseSeconds : Int)
    (maxConcurrentJobs : Nat) : ProcessingState :=
  let (claimed, jobs) :=
    claimNext workerId leaseToken leaseSeconds maxConcurrentJobs s.now s.jobs
  { s with
    jobs
    issued := leaseToken :: s.issued
    running := claimed.elim s.running fun job =>
      { workerId, leaseToken, job } :: s.running }

/-- A run ends, and with it the transactions that it has open. -/
def stop (s : ProcessingState) (run : JobRun) : ProcessingState :=
  { s with
    running := s.running.erase run
    opened := s.opened.filter fun tx => tx.call.run.map (·.leaseToken) ≠ some run.leaseToken }

/-- A job without a row is not found. -/
def read (s : ProcessingState) (call : UnlockedCall) : ProcessingState :=
  match s.jobs.get call.jobId with
  | none => s
  | some loaded => { s with opened := ⟨call, s.now, loaded⟩ :: s.opened }

/-- A transaction ends, and its run with it if that was its last. -/
def close (s : ProcessingState) (tx : OpenTransaction) : ProcessingState :=
  match tx.call.ends with
  | none => { s with opened := s.opened.erase tx }
  | some run => s.stop run

/-- The flush of the job and of the record. -/
def commit (s : ProcessingState) (tx : OpenTransaction) : ProcessingState :=
  if tx.applies then
    { s with
      jobs := s.jobs.update tx.loaded.jobId (tx.loaded.flush tx.assigned) tx.flush_jobId
      processes := tx.call.record tx.loaded s.now s.processes }
  else s

/-- `_record_failure`, on the side of the process. -/
def recordFailure (s : ProcessingState) (run : JobRun) (errorCode : String) : ProcessingState :=
  { s with
    processes := ProcessRecordRepository.fail run.job.processId errorCode s.now s.processes
    running := { run with recorded := true } :: s.running.erase run
    failures := run.job.jobId :: s.failures }

/-- The transaction of `VideoResultService.finalize`, which locks the job. -/
def finalize (s : ProcessingState) (run : JobRun) (personCount processedFrames : Int) :
    ProcessingState :=
  let written := VideoResultService.finalize run.job.jobId run.workerId run.leaseToken personCount
    processedFrames s.now s.jobs
  { s with
    jobs := written.2
    processes :=
      if written.1 then ProcessRecordRepository.complete run.job.processId personCount s.now
        s.processes
      else s.processes }

def next (s : ProcessingState) : ProcessingStep → ProcessingState
  | .submit job => s.submit job
  | .begin workerId leaseToken leaseSeconds maxConcurrentJobs =>
      s.settle.claim workerId leaseToken leaseSeconds maxConcurrentJobs
  | .read call => s.read call
  | .flush tx => (s.commit tx).close tx
  | .rollback tx => s.close tx
  | .recordFailure run errorCode => s.recordFailure run errorCode
  | .finalize run personCount processedFrames =>
      (s.finalize run personCount processedFrames).stop run
  | .stop run => s.stop run

/-- The run has not come to its last transaction. -/
def Working (s : ProcessingState) (run : JobRun) : Prop :=
  run ∈ s.running ∧ ∀ tx ∈ s.opened, tx.call.ends ≠ some run

instance (s : ProcessingState) (run : JobRun) : Decidable (s.Working run) :=
  inferInstanceAs (Decidable (_ ∧ _))

/-- Leases are renewed to the end of a run, and the rest comes one after the other. -/
def Callable (s : ProcessingState) : UnlockedCall → Prop
  | .cancel _ => True
  | .renewLease run _ => run ∈ s.running
  | .handleFailure run _ => s.Working run
  | .updateProgress run _ _ _ | .markCancelled run => s.Working run ∧ run.recorded = false

instance (s : ProcessingState) : ∀ call, Decidable (s.Callable call)
  | .cancel _ => inferInstanceAs (Decidable True)
  | .renewLease _ _ => inferInstanceAs (Decidable (_ ∈ _))
  | .handleFailure run _ => inferInstanceAs (Decidable (s.Working run))
  | .updateProgress _ _ _ _ | .markCancelled _ => inferInstanceAs (Decidable (_ ∧ _))

/-- A submitted job has a process of its own.  `persist` runs while `finalize` has the row locked,
and raises once it has recorded a failure. -/
def enabled (s : ProcessingState) : ProcessingStep → Prop
  | .submit job => Submitted job ∧ s.processes.get job.processId = none
  | .begin _ leaseToken _ _ => leaseToken ∉ s.issued
  | .read call => s.Callable call
  | .flush tx | .rollback tx => tx ∈ s.opened
  | .recordFailure run _ =>
      s.Working run ∧ run.recorded = false ∧
        lockOwned run.job.jobId run.workerId run.leaseToken s.now s.jobs ≠ none
  | .finalize run _ _ => s.Working run ∧ run.recorded = false
  | .stop run => run ∈ s.running

instance (s : ProcessingState) : ∀ step, Decidable (s.enabled step)
  | .submit _ => inferInstanceAs (Decidable (_ ∧ _))
  | .begin _ _ _ _ => inferInstanceAs (Decidable (¬ _))
  | .read call => inferInstanceAs (Decidable (s.Callable call))
  | .flush _ | .rollback _ | .stop _ => inferInstanceAs (Decidable (_ ∈ _))
  | .recordFailure _ _ => inferInstanceAs (Decidable (_ ∧ _ ∧ _))
  | .finalize _ _ _ => inferInstanceAs (Decidable (_ ∧ _))

/-- The record of the row's process has the status that belongs to the row's. -/
def AgreesOn (s : ProcessingState) (row : VideoJob) : Prop :=
  (s.processes.get row.processId).map (·.status) = some row.status.expected

instance (s : ProcessingState) (row : VideoJob) : Decidable (s.AgreesOn row) :=
  inferInstanceAs (Decidable (_ = _))

/-- Every job agrees with its process. -/
def Agrees (s : ProcessingState) : Prop := ∀ row ∈ s.jobs.rows, s.AgreesOn row

instance (s : ProcessingState) : Decidable s.Agrees :=
  inferInstanceAs (Decidable (∀ _ ∈ _, _))

/-- While no operation is in progress, they agree. -/
def SettledAgrees (s : ProcessingState) : Prop := s.running = [] → s.opened = [] → s.Agrees

/-! ### The two conditions -/

/-- The job has a terminal status. -/
def Finished (s : ProcessingState) (jobId : String) : Prop :=
  ∀ row ∈ s.jobs.rows, row.jobId = jobId → row.isTerminal

instance (s : ProcessingState) (jobId : String) : Decidable (s.Finished jobId) :=
  inferInstanceAs (Decidable (∀ _ ∈ _, _))

/-- What the step writes passes the test of its lease, and gives the job a terminal status. -/
def Finishes (s : ProcessingState) : ProcessingStep → Prop
  | .finalize run _ _ =>
      lockOwned run.job.jobId run.workerId run.leaseToken s.now s.jobs ≠ none
  | .flush tx =>
      tx.applies = true ∧ ∃ status ∈ tx.op.target tx.loaded.status, status.expected ≠ .started
  | _ => False

instance (s : ProcessingState) : ∀ step, Decidable (s.Finishes step)
  | .finalize _ _ _ => inferInstanceAs (Decidable (_ ≠ _))
  | .flush _ => inferInstanceAs (Decidable (_ ∧ _))
  | .submit _ | .begin _ _ _ _ | .read _ | .rollback _ | .recordFailure _ _ | .stop _ =>
      inferInstanceAs (Decidable False)

/-- A run whose job has had a failure recorded returns only if the job is finished, if it finishes
the job itself, or while another run has the job. -/
def Mended (s : ProcessingState) (step : ProcessingStep) : Prop :=
  ∀ run ∈ step.ended, run.job.jobId ∈ s.failures →
    s.Finished run.job.jobId ∨ s.Finishes step ∨
      ∃ other ∈ s.running.erase run, other.job.jobId = run.job.jobId

instance (s : ProcessingState) (step : ProcessingStep) : Decidable (s.Mended step) :=
  inferInstanceAs (Decidable (∀ _ ∈ _, _ → _))

/-- A flush comes too late: it takes the job out of a terminal status, or it leaves the status alone
because it has read the one that it is after, and the job has another by then. -/
def Late (s : ProcessingState) : ProcessingStep → Prop
  | .flush tx =>
      tx.applies = true ∧ ∃ row ∈ s.jobs.rows, row.jobId = tx.loaded.jobId ∧
        ∃ status ∈ tx.op.target tx.loaded.status,
          (row.isTerminal ∧ status.expected = .started) ∨
            (status = tx.loaded.status ∧ status ≠ row.status)
  | _ => False

instance (s : ProcessingState) : ∀ step, Decidable (s.Late step)
  | .flush _ => inferInstanceAs (Decidable (_ ∧ _))
  | .submit _ | .begin _ _ _ _ | .read _ | .rollback _ | .recordFailure _ _ | .finalize _ _ _
  | .stop _ => inferInstanceAs (Decidable False)

end ProcessingState

/-- Workers and clients, from empty tables on.  Clocks never run backwards. -/
def videoProcessing : Machine ProcessingState ProcessingEvent where
  init s := s.jobs = .empty ∧ s.issued = [] ∧ s.processes = .empty ∧ s.running = [] ∧
    s.opened = [] ∧ s.failures = []
  enabled s e := s.now ≤ e.time ∧ { s with now := e.time }.enabled e.step
  next s e := { s with now := e.time }.next e.step

instance (s : ProcessingState) (e : ProcessingEvent) : Decidable (videoProcessing.enabled s e) :=
  inferInstanceAs (Decidable (_ ∧ _))

/-! ## The calls without a lock -/

theorem VideoJob.isTerminal_iff {job : VideoJob} :
    job.isTerminal ↔ job.status.expected ≠ .started := by
  unfold VideoJob.isTerminal
  cases job.status <;> simp [JobStatus.expected]

namespace UnlockedCall

/-- The process of the job that the call is about. -/
def processId (loaded : VideoJob) (call : UnlockedCall) : String :=
  call.run.elim loaded.processId (·.job.processId)

theorem op_locksRow (call : UnlockedCall) (time : Timestamp) :
    (call.op time).locksRow = false := by
  cases call with
  | handleFailure run errorCode =>
      show JobOp.locksRow (if _ then _ else _) = false
      split <;> rfl
  | cancel | renewLease | updateProgress | markCancelled => rfl

theorem jobId_of_ends {call : UnlockedCall} {run : JobRun} (h : call.ends = some run) :
    call.jobId = run.job.jobId := by
  cases call with
  | cancel | renewLease | updateProgress => cases h
  | markCancelled run' | handleFailure run' =>
      obtain rfl : run' = run := Option.some.inj h
      rfl

/-- A call writes the record along with a terminal status, and with no other. -/
theorem record_cases (call : UnlockedCall) (loaded : VideoJob) (time now : Timestamp) :
    ((∀ processes, call.record loaded now processes = processes) ∧
      ∀ status ∈ (call.op time).target loaded.status, status.expected = .started) ∨
    ∃ status g, ∃ hg : ∀ record, (g record).processId = record.processId,
      (call.op time).target loaded.status = some status ∧
        (∀ record, (g record).status = status.expected) ∧
          ∀ processes, call.record loaded now processes =
            processes.update (call.processId loaded) g hg := by
  cases call with
  | cancel jobId =>
      by_cases hpending : loaded.status = .pending
      · have hcancelled : (loaded.cancel now).status = .cancelled := by
          unfold VideoJob.cancel
          rw [hpending]
        refine .inr ⟨.cancelled,
          fun record => { record with status := .cancelled, completedAt := some now },
          fun _ => rfl, ?_, fun _ => rfl, ?_⟩
        · show JobOp.target loaded.status (.requestCancel jobId) = _
          rw [hpending]
          rfl
        · intro processes
          exact if_pos ⟨hpending, hcancelled⟩
      · refine .inl ⟨fun processes => if_neg fun hboth => hpending hboth.1, ?_⟩
        intro status hstatus
        have htarget : JobOp.target loaded.status (.requestCancel jobId) = some status := hstatus
        cases hread : loaded.status with
        | pending => exact absurd hread hpending
        | processing =>
            rw [hread] at htarget
            obtain rfl : JobStatus.cancelling = status := Option.some.inj htarget
            rfl
        | cancelling | cancelled | completed | failed =>
            rw [hread] at htarget
            cases htarget
  | renewLease | updateProgress => exact .inl ⟨fun _ => rfl, by rintro status ⟨⟩⟩
  | markCancelled =>
      exact .inr ⟨.cancelled,
        fun record => { record with status := .cancelled, completedAt := some now },
        fun _ => rfl, rfl, fun _ => rfl, fun _ => rfl⟩
  | handleFailure run errorCode =>
      by_cases hlast : run.job.maxAttempts ≤ run.job.attemptCount
      · have hop : (handleFailure run errorCode).op time =
            .fail run.job.jobId run.workerId run.leaseToken errorCode := if_pos hlast
        refine .inr ⟨.failed,
          fun record =>
            { record with status := .failed, errorCode := some errorCode, completedAt := some now },
          fun _ => rfl, ?_, fun _ => rfl, fun processes => if_pos hlast⟩
        rw [hop]
        rfl
      · have hop : (handleFailure run errorCode).op time =
            .releaseForRetry run.job.jobId run.workerId run.leaseToken (time + timedelta 30)
              errorCode := if_neg hlast
        refine .inl ⟨fun processes => if_neg hlast, ?_⟩
        intro status hstatus
        rw [hop] at hstatus
        obtain rfl : JobStatus.pending = status := Option.some.inj hstatus
        rfl

end UnlockedCall

/-! ## The invariant -/

namespace ProcessingState

/-- The job is in work, a failure of it has been recorded, and a run has it. -/
structure Excused (s : ProcessingState) (row : VideoJob) : Prop where
  working : row.status.expected = .started
  failure : row.jobId ∈ s.failures
  run : ∃ run ∈ s.running, run.job.jobId = row.jobId

structure Linked (s : ProcessingState) : Prop where
  distinct : (s.jobs.rows.map (·.processId)).Nodup
  recorded : ∀ row ∈ s.jobs.rows, s.processes.get row.processId ≠ none
  runs : ∀ run ∈ s.running, ∃ row ∈ s.jobs.rows,
    row.jobId = run.job.jobId ∧ row.processId = run.job.processId
  reads : ∀ tx ∈ s.opened, tx.loaded.jobId = tx.call.jobId ∧ ∃ row ∈ s.jobs.rows,
    row.jobId = tx.loaded.jobId ∧ row.processId = tx.call.processId tx.loaded
  agrees : ∀ row ∈ s.jobs.rows, s.AgreesOn row ∨ s.Excused row

theorem Linked.settledAgrees {s : ProcessingState} (h : s.Linked) : s.SettledAgrees := by
  intro hnone _ row hrow
  rcases h.agrees row hrow with hagrees | hexcused
  · exact hagrees
  · obtain ⟨run, hrun, -⟩ := hexcused.run
    rw [hnone] at hrun
    cases hrun

theorem linked_init {s : ProcessingState} (h : videoProcessing.init s) : s.Linked := by
  obtain ⟨hjobs, -, -, hrunning, hopened, -⟩ := h
  have hempty : s.jobs.rows = [] := congrArg Table.rows hjobs
  refine ⟨?_, ?_, ?_, ?_, ?_⟩
  · rw [hempty]
    exact List.nodup_nil
  · rw [hempty]
    rintro row ⟨⟩
  · rw [hrunning]
    rintro run ⟨⟩
  · rw [hopened]
    rintro tx ⟨⟩
  · rw [hempty]
    rintro row ⟨⟩

/-- Two jobs with one process are one job. -/
theorem Linked.jobId_eq {s : ProcessingState} (h : s.Linked) {row row' : VideoJob}
    (hrow : row ∈ s.jobs.rows) (hrow' : row' ∈ s.jobs.rows)
    (hprocess : row.processId = row'.processId) : row = row' :=
  List.inj_on_of_nodup_map h.distinct hrow hrow' hprocess

/-- The tables change row by row, and where the expected status changes the record does. -/
theorem Linked.tables {s s' : ProcessingState} (h : s.Linked) (f : VideoJob → VideoJob)
    (hrows : s'.jobs.rows = s.jobs.rows.map f)
    (hjobId : ∀ row, (f row).jobId = row.jobId)
    (hprocessId : ∀ row, (f row).processId = row.processId)
    (hrecords : ∀ row ∈ s.jobs.rows,
      (s'.processes.get row.processId = s.processes.get row.processId ∧
        (f row).status.expected = row.status.expected) ∨
      (s'.processes.get row.processId).map (·.status) = some (f row).status.expected)
    (hrunning : s'.running = s.running) (hopened : s'.opened = s.opened)
    (hfailures : s'.failures = s.failures) : s'.Linked := by
  refine ⟨?_, ?_, ?_, ?_, ?_⟩
  · rw [hrows, List.map_map]
    have hsame : (fun row : VideoJob => row.processId) ∘ f = fun row => row.processId :=
      funext hprocessId
    rw [hsame]
    exact h.distinct
  · rw [hrows]
    intro row' hrow'
    obtain ⟨row, hrow, rfl⟩ := List.mem_map.mp hrow'
    rw [hprocessId]
    rcases hrecords row hrow with ⟨hsame, -⟩ | hwritten
    · rw [hsame]
      exact h.recorded row hrow
    · intro hnone
      rw [hnone] at hwritten
      cases hwritten
  · rw [hrows, hrunning]
    intro run hrun
    obtain ⟨row, hrow, hid, hprocess⟩ := h.runs run hrun
    exact ⟨f row, List.mem_map_of_mem hrow, (hjobId row).trans hid, (hprocessId row).trans hprocess⟩
  · rw [hrows, hopened]
    intro tx htx
    obtain ⟨hcall, row, hrow, hid, hprocess⟩ := h.reads tx htx
    exact ⟨hcall, f row, List.mem_map_of_mem hrow, (hjobId row).trans hid,
      (hprocessId row).trans hprocess⟩
  · rw [hrows]
    intro row' hrow'
    obtain ⟨row, hrow, rfl⟩ := List.mem_map.mp hrow'
    unfold AgreesOn
    rw [hprocessId]
    rcases hrecords row hrow with ⟨hsame, hexpected⟩ | hwritten
    · rw [hsame, hexpected]
      rcases h.agrees row hrow with hagrees | ⟨hworking, hfailure, hrun⟩
      · exact .inl hagrees
      · refine .inr ⟨hexpected.trans hworking, ?_, ?_⟩
        · rw [hjobId, hfailures]
          exact hfailure
        · rw [hjobId, hrunning]
          exact hrun
    · exact .inl hwritten

/-- A write to one job that leaves the expected status. -/
theorem Linked.updateJobs {s : ProcessingState} (h : s.Linked) (jobId : String)
    {f : VideoJob → VideoJob} (hf : ∀ row, (f row).jobId = row.jobId)
    (hprocessId : ∀ row, (f row).processId = row.processId)
    (hexpected : ∀ row ∈ s.jobs.rows, row.jobId = jobId →
      (f row).status.expected = row.status.expected) :
    { s with jobs := s.jobs.update jobId f hf }.Linked := by
  apply h.tables (fun row => if row.jobId = jobId then f row else row) rfl
  · intro row
    split
    · exact hf row
    · rfl
  · intro row
    split
    · exact hprocessId row
    · rfl
  · intro row hrow
    refine .inl ⟨rfl, ?_⟩
    split
    · rename_i hid
      exact hexpected row hrow hid
    · rfl
  · rfl
  · rfl
  · rfl

/-- The record of a job after a write to it. -/
theorem Linked.get_written {s : ProcessingState} (h : s.Linked) {row : VideoJob}
    (hrow : row ∈ s.jobs.rows) {status : JobStatus} {g : ProcessRecord → ProcessRecord}
    (hg : ∀ record, (g record).processId = record.processId)
    (hstatus : ∀ record, (g record).status = status.expected) :
    ((s.processes.update row.processId g hg).get row.processId).map (·.status) =
      some status.expected := by
  rw [Table.get_update, if_pos rfl]
  cases hget : s.processes.get row.processId with
  | none => exact absurd hget (h.recorded row hrow)
  | some record => exact congrArg some (hstatus record)

/-- A write to one job and to its record. -/
theorem Linked.updateBoth {s : ProcessingState} (h : s.Linked) {row : VideoJob}
    (hrow : row ∈ s.jobs.rows) {f : VideoJob → VideoJob} (hf : ∀ row, (f row).jobId = row.jobId)
    (hprocessId : ∀ row, (f row).processId = row.processId) {g : ProcessRecord → ProcessRecord}
    (hg : ∀ record, (g record).processId = record.processId)
    (hstatus : ∀ record, (g record).status = (f row).status.expected) :
    { s with
      jobs := s.jobs.update row.jobId f hf
      processes := s.processes.update row.processId g hg }.Linked := by
  apply h.tables (fun other => if other.jobId = row.jobId then f other else other) rfl
  · intro other
    split
    · exact hf other
    · rfl
  · intro other
    split
    · exact hprocessId other
    · rfl
  · intro other hother
    dsimp only
    by_cases hid : other.jobId = row.jobId
    · obtain rfl : other = row := Table.eq_of_mem hother hrow hid
      refine .inr ?_
      rw [if_pos rfl]
      exact h.get_written hother hg hstatus
    · have hprocess : other.processId ≠ row.processId := by
        intro heq
        exact hid (congrArg VideoJob.jobId (h.jobId_eq hother hrow heq))
      refine .inl ⟨?_, ?_⟩
      · rw [Table.get_update, if_neg hprocess]
      · rw [if_neg hid]
  · rfl
  · rfl
  · rfl

/-- Transactions that have ended are forgotten. -/
theorem Linked.forget {s : ProcessingState} (h : s.Linked) {opened : List OpenTransaction}
    (hopened : ∀ tx ∈ opened, tx ∈ s.opened) : { s with opened }.Linked where
  distinct := h.distinct
  recorded := h.recorded
  runs := h.runs
  reads tx htx := h.reads tx (hopened tx htx)
  agrees row hrow := (h.agrees row hrow).imp_right fun hexcused =>
    ⟨hexcused.working, hexcused.failure, hexcused.run⟩

/-- The end of a run whose job, if a failure of it has been recorded, is finished or has another
run. -/
theorem Linked.stop {s : ProcessingState} (h : s.Linked) {run : JobRun}
    (hmended : run.job.jobId ∈ s.failures → s.Finished run.job.jobId ∨
      ∃ other ∈ s.running.erase run, other.job.jobId = run.job.jobId) : (s.stop run).Linked := by
  refine ⟨h.distinct, h.recorded, ?_, ?_, ?_⟩
  · intro other hother
    exact h.runs other (List.mem_of_mem_erase hother)
  · intro tx htx
    exact h.reads tx (List.mem_of_mem_filter htx)
  · intro row hrow
    rcases h.agrees row hrow with hagrees | ⟨hworking, hfailure, other, hother, hid⟩
    · exact .inl hagrees
    · refine .inr ⟨hworking, hfailure, ?_⟩
      by_cases hsame : other = run
      · subst hsame
        rw [← hid] at hfailure ⊢
        refine (hmended hfailure).resolve_left fun hfinished => ?_
        exact VideoJob.isTerminal_iff.mp (hfinished row hrow hid.symm) hworking
      · exact ⟨other, (List.mem_erase_of_ne hsame).mpr hother, hid⟩

/-- A guarded write is refused or changes the row of its key, which passes the test. -/
theorem writeOwned_cases (jobId : String) (owns : VideoJob → Bool) (f : VideoJob → VideoJob)
    (hf : ∀ job, (f job).jobId = job.jobId) (jobs : Jobs) :
    writeOwned jobId owns f hf jobs = (false, jobs) ∨
      ∃ row ∈ jobs.rows, row.jobId = jobId ∧ owns row = true ∧
        writeOwned jobId owns f hf jobs = (true, jobs.update jobId f hf) := by
  unfold writeOwned
  cases hget : jobs.get jobId with
  | none => exact .inl rfl
  | some row =>
      obtain ⟨hrow, hid⟩ := Table.get_eq_some_iff.mp hget
      dsimp only
      split
      · rename_i howns
        exact .inr ⟨row, hrow, hid, howns, rfl⟩
      · exact .inl rfl

/-! ## What each transaction keeps -/

theorem linked_submit {s : ProcessingState} (h : s.Linked) {job : VideoJob}
    (hsubmitted : Submitted job) (hfresh : s.processes.get job.processId = none) :
    (s.submit job).Linked := by
  have hjob : ∀ row ∈ s.jobs.rows, row.processId ≠ job.processId := by
    intro row hrow heq
    exact h.recorded row hrow (heq ▸ hfresh)
  have hnew : (s.submit job).processes.get job.processId =
      some { processId := job.processId, processType := "video_recognize" } :=
    Table.get_insert_self hfresh
  have hold : ∀ row ∈ s.jobs.rows,
      (s.submit job).processes.get row.processId = s.processes.get row.processId := by
    intro row hrow
    exact Table.get_insert_of_ne fun heq => hjob row hrow heq.symm
  have hcases : ∀ row ∈ (s.submit job).jobs.rows, row ∈ s.jobs.rows ∨ row = job := by
    intro row hrow
    exact (Table.mem_insert hrow).imp_right And.left
  have hkept : ∀ row ∈ s.jobs.rows, row ∈ (s.submit job).jobs.rows := by
    intro row hrow
    have hget := Table.get_insert_of_some (r := job) (Table.get_eq_some_iff.mpr ⟨hrow, rfl⟩)
    exact (Table.get_eq_some_iff.mp hget).1
  refine ⟨?_, ?_, ?_, ?_, ?_⟩
  · show ((s.jobs.insert job).rows.map _).Nodup
    by_cases hk : job.jobId ∈ s.jobs.rows.map (·.jobId)
    · rw [Table.insert_eq_self hk]
      exact h.distinct
    · rw [Table.insert_rows hk, List.map_append, List.nodup_append]
      refine ⟨h.distinct, List.nodup_singleton _, ?_⟩
      rintro id hid _ hlast rfl
      obtain ⟨row, hrow, rfl⟩ := List.mem_map.mp hid
      exact hjob row hrow (List.mem_singleton.mp hlast)
  · intro row hrow
    rcases hcases row hrow with hin | rfl
    · rw [hold row hin]
      exact h.recorded row hin
    · rw [hnew]
      rintro ⟨⟩
  · intro run hrun
    obtain ⟨row, hrow, hsame⟩ := h.runs run hrun
    exact ⟨row, hkept row hrow, hsame⟩
  · intro tx htx
    obtain ⟨hcall, row, hrow, hsame⟩ := h.reads tx htx
    exact ⟨hcall, row, hkept row hrow, hsame⟩
  · intro row hrow
    rcases hcases row hrow with hin | rfl
    · rcases h.agrees row hin with hagrees | hexcused
      · refine .inl ?_
        unfold AgreesOn
        rw [hold row hin]
        exact hagrees
      · exact .inr ⟨hexcused.working, hexcused.failure, hexcused.run⟩
    · refine .inl ?_
      unfold AgreesOn
      rw [hnew, hsubmitted.status]
      rfl

/-- The records after a settling: those of the settled jobs are written, and no others. -/
theorem get_settleProcess (now : Timestamp) (settled : List (String × JobStatus))
    (processes : Processes) (hnodup : (settled.map (·.1)).Nodup) (processId : String) :
    (processId ∉ settled.map (·.1) →
      (settled.foldl (settleProcess now) processes).get processId = processes.get processId) ∧
    ∀ status, (processId, status) ∈ settled → processes.get processId ≠ none →
      ((settled.foldl (settleProcess now) processes).get processId).map (·.status) =
        some (if status = .cancelled then .cancelled else .failed) := by
  induction settled generalizing processes with
  | nil => exact ⟨fun _ => rfl, by rintro status ⟨⟩⟩
  | cons entry rest ih =>
      rw [List.map_cons, List.nodup_cons] at hnodup
      obtain ⟨hfirst, hother⟩ := ih (settleProcess now processes entry) hnodup.2
      have hframe : processId ≠ entry.1 →
          (settleProcess now processes entry).get processId = processes.get processId := by
        intro hne
        unfold settleProcess ProcessRecordRepository.cancel ProcessRecordRepository.fail
        split <;> rw [Table.get_update, if_neg hne]
      refine ⟨?_, ?_⟩
      · intro hnot
        rw [List.map_cons, List.mem_cons, not_or] at hnot
        exact (hfirst hnot.2).trans (hframe hnot.1)
      · intro status hmem hsome
        rcases List.mem_cons.mp hmem with rfl | hrest
        · -- the first entry writes the record, and no other entry has the process
          rw [List.foldl_cons, hfirst hnodup.1]
          obtain ⟨record, hrecord⟩ := Option.ne_none_iff_exists'.mp hsome
          unfold settleProcess ProcessRecordRepository.cancel ProcessRecordRepository.fail
          dsimp only
          split <;> rw [Table.get_update, if_pos rfl, hrecord] <;> rfl
        · have hne : processId ≠ entry.1 := by
            rintro rfl
            exact hnodup.1 (List.mem_map.mpr ⟨_, hrest, rfl⟩)
          apply hother status hrest
          rw [hframe hne]
          exact hsome

theorem settle_processId (job : VideoJob) (now : Timestamp) :
    (job.settle now).processId = job.processId := by
  unfold VideoJob.settle
  split <;> rfl

theorem linked_settle {s : ProcessingState} (h : s.Linked) : s.settle.Linked := by
  have hperm := List.perm_insertionSort (fun a b : VideoJob => a.createdAt ≤ b.createdAt)
    (s.jobs.rows.filter (VideoJob.settleSelects s.now))
  have hprocesses : ((settleExhausted s.now s.jobs).1.map (·.1)).Nodup := by
    show (List.map _ (List.map _ _)).Nodup
    rw [List.map_map]
    have hsub : ((s.jobs.rows.filter (VideoJob.settleSelects s.now)).map (·.processId)).Nodup :=
      h.distinct.sublist (List.filter_sublist.map _)
    exact (hperm.map _).nodup_iff.mpr hsub
  have hsettled : ∀ row ∈ s.jobs.rows, row.settleSelects s.now = true →
      (row.processId, (row.settle s.now).status) ∈ (settleExhausted s.now s.jobs).1 := by
    intro row hrow hselects
    apply List.mem_map_of_mem (f := fun job : VideoJob => (job.processId, (job.settle s.now).status))
    exact hperm.mem_iff.mpr (List.mem_filter.mpr ⟨hrow, hselects⟩)
  have hunsettled : ∀ row ∈ s.jobs.rows, ¬ row.settleSelects s.now = true →
      row.processId ∉ (settleExhausted s.now s.jobs).1.map (·.1) := by
    intro row hrow hnot hmem
    obtain ⟨entry, hentry, hprocess⟩ := List.mem_map.mp hmem
    obtain ⟨other, hother, rfl⟩ := List.mem_map.mp hentry
    obtain ⟨hin, hselects⟩ := List.mem_filter.mp (hperm.mem_iff.mp hother)
    rw [h.jobId_eq hrow hin hprocess.symm] at hnot
    exact hnot hselects
  apply h.tables (settleRow s.now) rfl (settleRow_jobId s.now)
  · intro row
    unfold settleRow
    split
    · exact settle_processId row s.now
    · rfl
  · intro row hrow
    obtain ⟨hkept, hwritten⟩ := get_settleProcess s.now (settleExhausted s.now s.jobs).1
      s.processes hprocesses row.processId
    unfold settleRow
    split
    · rename_i hselects
      refine .inr ?_
      refine (hwritten _ (hsettled row hrow hselects) (h.recorded row hrow)).trans ?_
      unfold VideoJob.settle
      split <;> rfl
    · rename_i hnot
      exact .inl ⟨hkept (hunsettled row hrow hnot), rfl⟩
  · rfl
  · rfl
  · rfl

/-- A claim finds nothing or takes a row that it admits. -/
theorem claimNext_cases (workerId leaseToken : String) (leaseSeconds : Int)
    (maxConcurrentJobs : Nat) (now : Timestamp) (jobs : Jobs) :
    claimNext workerId leaseToken leaseSeconds maxConcurrentJobs now jobs = (none, jobs) ∨
      ∃ pick ∈ jobs.rows, pick.claimAdmits now = true ∧
        claimNext workerId leaseToken leaseSeconds maxConcurrentJobs now jobs =
          (some (pick.claim workerId leaseToken now leaseSeconds),
            jobs.update pick.jobId (·.claim workerId leaseToken now leaseSeconds)
              (·.claim_jobId workerId leaseToken now leaseSeconds)) := by
  unfold claimNext
  split
  · exact .inl rfl
  · cases hpick : claimCandidate now jobs with
    | none => exact .inl rfl
    | some pick =>
        obtain ⟨hrow, hadmits⟩ := claimCandidate_spec hpick
        exact .inr ⟨pick, hrow, hadmits, rfl⟩

theorem linked_claim {s : ProcessingState} (h : s.Linked) (workerId leaseToken : String)
    (leaseSeconds : Int) (maxConcurrentJobs : Nat) :
    (s.claim workerId leaseToken leaseSeconds maxConcurrentJobs).Linked := by
  unfold ProcessingState.claim
  rcases claimNext_cases workerId leaseToken leaseSeconds maxConcurrentJobs s.now s.jobs with
    hnone | ⟨pick, hrow, hadmits, hclaimed⟩
  · rw [hnone]
    refine ⟨h.distinct, h.recorded, h.runs, h.reads, ?_⟩
    intro row hrow
    exact (h.agrees row hrow).imp_right fun hexcused =>
      ⟨hexcused.working, hexcused.failure, hexcused.run⟩
  · rw [hclaimed]
    have hjobs := h.updateJobs pick.jobId
      (·.claim_jobId workerId leaseToken s.now leaseSeconds) (fun _ => rfl) (by
        intro row hrow' hid
        obtain rfl : row = pick := Table.eq_of_mem hrow' hrow hid
        obtain ⟨-, ⟨hpending, -⟩ | ⟨hprocessing, -⟩⟩ := VideoJob.claimAdmits_iff.mp hadmits
        · rw [hpending]
          rfl
        · rw [hprocessing]
          rfl)
    refine ⟨hjobs.distinct, hjobs.recorded, ?_, hjobs.reads, ?_⟩
    · intro run hrun
      rcases List.mem_cons.mp hrun with rfl | hold
      · refine ⟨pick.claim workerId leaseToken s.now leaseSeconds, ?_, rfl, rfl⟩
        have hget : (s.jobs.update pick.jobId (·.claim workerId leaseToken s.now leaseSeconds)
            (·.claim_jobId workerId leaseToken s.now leaseSeconds)).get pick.jobId =
              some (pick.claim workerId leaseToken s.now leaseSeconds) := by
          rw [Table.get_update, if_pos rfl, Table.get_eq_some_iff.mpr ⟨hrow, rfl⟩]
          rfl
        exact (Table.get_eq_some_iff.mp hget).1
      · exact hjobs.runs run hold
    · intro row hrow'
      rcases hjobs.agrees row hrow' with hagrees | ⟨hworking, hfailure, run, hrun, hid⟩
      · exact .inl hagrees
      · exact .inr ⟨hworking, hfailure, run, List.mem_cons_of_mem _ hrun, hid⟩

/-- A transaction that has read the row of its job. -/
theorem linked_read {s : ProcessingState} (h : s.Linked) {call : UnlockedCall}
    (hcallable : s.Callable call) : (s.read call).Linked := by
  unfold ProcessingState.read
  cases hget : s.jobs.get call.jobId with
  | none => exact h
  | some loaded =>
      obtain ⟨hrow, hid⟩ := Table.get_eq_some_iff.mp hget
      have hprocess : loaded.processId = call.processId loaded := by
        have hown : ∀ run ∈ s.running, loaded.jobId = run.job.jobId →
            loaded.processId = run.job.processId := by
          intro run hrun hsame
          obtain ⟨row, hrow', hrunId, hprocess⟩ := h.runs run hrun
          rw [Table.eq_of_mem hrow hrow' (hsame.trans hrunId.symm)]
          exact hprocess
        cases call with
        | cancel => rfl
        | renewLease run => exact hown run hcallable hid
        | handleFailure run => exact hown run hcallable.1 hid
        | updateProgress run | markCancelled run => exact hown run hcallable.1.1 hid
      refine ⟨h.distinct, h.recorded, h.runs, ?_, ?_⟩
      · intro tx htx
        rcases List.mem_cons.mp htx with rfl | hold
        · exact ⟨hid, loaded, hrow, rfl, hprocess⟩
        · exact h.reads tx hold
      · intro row hrow
        exact (h.agrees row hrow).imp_right fun hexcused =>
          ⟨hexcused.working, hexcused.failure, hexcused.run⟩

@[simp] theorem commit_running (s : ProcessingState) (tx : OpenTransaction) :
    (s.commit tx).running = s.running := by
  unfold ProcessingState.commit
  split <;> rfl

@[simp] theorem commit_failures (s : ProcessingState) (tx : OpenTransaction) :
    (s.commit tx).failures = s.failures := by
  unfold ProcessingState.commit
  split <;> rfl

/-- The status that a flush in time leaves. -/
theorem flush_status_of_not_late {s : ProcessingState} {tx : OpenTransaction} {row : VideoJob}
    (hrow : row ∈ s.jobs.rows) (hid : row.jobId = tx.loaded.jobId) (happlies : tx.applies = true)
    (hlate : ¬ s.Late (.flush tx)) :
    (tx.loaded.flush tx.assigned row).status =
      (tx.op.target tx.loaded.status).getD row.status := by
  apply flush_status (tx.call.op_locksRow tx.time)
  intro status hstatus hread
  by_contra hne
  exact hlate ⟨happlies, row, hrow, hid, status, hstatus, .inr ⟨hread, hne⟩⟩

theorem linked_commit {s : ProcessingState} (h : s.Linked) {tx : OpenTransaction}
    (htx : tx ∈ s.opened) (hlate : ¬ s.Late (.flush tx)) : (s.commit tx).Linked := by
  unfold ProcessingState.commit
  by_cases happlies : tx.applies = true
  swap
  · rw [if_neg happlies]
    exact h
  rw [if_pos happlies]
  obtain ⟨-, row, hrow, hid, hprocess⟩ := h.reads tx htx
  have hprocessId : ∀ other, (tx.loaded.flush tx.assigned other).processId = other.processId :=
    VideoJob.flushed_of_eq (assign_processId tx.time tx.loaded tx.op)
  have hstatus := flush_status_of_not_late hrow hid happlies hlate
  rcases tx.call.record_cases tx.loaded tx.time s.now with
    ⟨hsame, htarget⟩ | ⟨status, g, hg, htarget, hwritten, hrecord⟩
  · rw [hsame]
    apply h.updateJobs _ tx.flush_jobId hprocessId
    intro other hother hid'
    obtain rfl : other = row := Table.eq_of_mem hother hrow (hid'.trans hid.symm)
    rw [hstatus]
    cases hstatus' : tx.op.target tx.loaded.status with
    | none => rfl
    | some status =>
        have hworking := htarget status hstatus'
        rw [Option.getD_some, hworking]
        by_contra hne
        exact hlate ⟨happlies, other, hother, hid, status, hstatus',
          .inl ⟨VideoJob.isTerminal_iff.mpr fun heq => hne heq.symm, hworking⟩⟩
  · rw [hrecord]
    simp only [← hprocess, ← hid]
    apply h.updateBoth hrow tx.flush_jobId hprocessId hg
    intro record
    rw [hwritten record, hstatus, show tx.op.target tx.loaded.status = some status from htarget]
    rfl

/-- A flush in time leaves a finished job finished, and finishes one if it means to. -/
theorem finished_commit {s : ProcessingState} (h : s.Linked) {tx : OpenTransaction}
    (htx : tx ∈ s.opened) (hlate : ¬ s.Late (.flush tx))
    (hends : s.Finished tx.loaded.jobId ∨ s.Finishes (.flush tx)) :
    (s.commit tx).Finished tx.loaded.jobId := by
  unfold ProcessingState.commit
  by_cases happlies : tx.applies = true
  swap
  · rw [if_neg happlies]
    exact hends.resolve_right fun hfinishes => happlies hfinishes.1
  rw [if_pos happlies]
  obtain ⟨-, row, hrow, hid, -⟩ := h.reads tx htx
  intro row' hrow' hid'
  have hupdated : row' ∈ (s.jobs.update tx.loaded.jobId (tx.loaded.flush tx.assigned)
    tx.flush_jobId).rows := hrow'
  rcases Table.mem_update.mp hupdated with ⟨-, hne⟩ | ⟨other, hother, hsame, rfl⟩
  · exact absurd hid' hne
  obtain rfl : other = row := Table.eq_of_mem hother hrow (hsame.trans hid.symm)
  rw [VideoJob.isTerminal_iff, flush_status_of_not_late hother hid happlies hlate]
  rcases hends with hfinished | ⟨-, status, hstatus, hterminal⟩
  · have hterminal := hfinished other hother hid
    cases htarget : tx.op.target tx.loaded.status with
    | none => exact VideoJob.isTerminal_iff.mp hterminal
    | some status =>
        intro hworking
        exact hlate ⟨happlies, other, hother, hid, status, htarget, .inl ⟨hterminal, hworking⟩⟩
  · rw [show tx.op.target tx.loaded.status = some status from hstatus]
    exact hterminal

/-- The job of a finalization is refused or completed together with its process. -/
theorem linked_finalize {s : ProcessingState} (h : s.Linked) {run : JobRun}
    (hrun : run ∈ s.running) (personCount processedFrames : Int) :
    (s.finalize run personCount processedFrames).Linked := by
  unfold ProcessingState.finalize
  rw [finalize_eq]
  rcases writeOwned_cases run.job.jobId (·.lockAdmits run.workerId run.leaseToken s.now)
    (·.completed s.now personCount processedFrames)
    (·.completed_jobId s.now personCount processedFrames) s.jobs with
    hrefused | ⟨row, hrow, hid, -, hwrote⟩
  · rw [hrefused]
    exact h
  · rw [hwrote]
    obtain ⟨other, hother, hid', hprocess⟩ := h.runs run hrun
    obtain rfl : other = row := Table.eq_of_mem hother hrow (hid'.trans hid.symm)
    simp only [← hid, ← hprocess]
    apply h.updateBoth hrow
    · exact fun _ => rfl
    · exact fun _ => rfl
    · exact fun _ => rfl

/-- A lock is on a job in work. -/
theorem lockOwned_ne_none {jobId workerId leaseToken : String} {now : Timestamp} {jobs : Jobs}
    (h : lockOwned jobId workerId leaseToken now jobs ≠ none) :
    ∃ row ∈ jobs.rows, row.jobId = jobId ∧ row.lockAdmits workerId leaseToken now = true ∧
      row.status.expected = .started := by
  obtain ⟨row, hlock⟩ := Option.ne_none_iff_exists'.mp h
  obtain ⟨hget, hadmits⟩ := Option.filter_eq_some_iff.mp hlock
  obtain ⟨hrow, hid⟩ := Table.get_eq_some_iff.mp hget
  refine ⟨row, hrow, hid, hadmits, ?_⟩
  obtain ⟨⟨hactive, -⟩, -⟩ := VideoJob.lockAdmits_iff.mp hadmits
  rcases (VideoJob.isActive_iff.mp hactive).1 with hstatus | hstatus
  · rw [hstatus]
    rfl
  · rw [hstatus]
    rfl

theorem finished_finalize {s : ProcessingState} {run : JobRun} {personCount processedFrames : Int}
    (hends : s.Finished run.job.jobId ∨ s.Finishes (.finalize run personCount processedFrames)) :
    (s.finalize run personCount processedFrames).Finished run.job.jobId := by
  intro row' hrow' hid'
  have hmapped : row' ∈ (VideoResultService.finalize run.job.jobId run.workerId run.leaseToken
    personCount processedFrames s.now s.jobs).2.rows := hrow'
  rw [finalize_eq, writeOwned_rows] at hmapped
  obtain ⟨row, hrow, rfl⟩ := List.mem_map.mp hmapped
  by_cases howns : row.jobId = run.job.jobId ∧
      row.lockAdmits run.workerId run.leaseToken s.now = true
  · rw [if_pos howns]
    exact .inl rfl
  · rw [if_neg howns] at hid' ⊢
    rcases hends with hfinished | hfinishes
    · exact hfinished row hrow hid'
    · obtain ⟨other, hother, hid, hadmits, -⟩ := lockOwned_ne_none hfinishes
      obtain rfl : row = other := Table.eq_of_mem hrow hother (hid'.trans hid.symm)
      exact absurd ⟨hid, hadmits⟩ howns

/-- A recorded failure is the run's to mend. -/
theorem linked_recordFailure {s : ProcessingState} (h : s.Linked) {run : JobRun}
    (hrun : run ∈ s.running) (errorCode : String)
    (hlock : lockOwned run.job.jobId run.workerId run.leaseToken s.now s.jobs ≠ none) :
    (s.recordFailure run errorCode).Linked := by
  have hget : ∀ processId, (s.recordFailure run errorCode).processes.get processId =
      if processId = run.job.processId then
        (s.processes.get processId).map fun record =>
          { record with status := .failed, errorCode := some errorCode, completedAt := some s.now }
      else s.processes.get processId := by
    intro processId
    unfold ProcessingState.recordFailure ProcessRecordRepository.fail
    rw [Table.get_update]
  refine ⟨h.distinct, ?_, ?_, h.reads, ?_⟩
  · intro row hrow
    rw [hget]
    split
    · rw [ne_eq, Option.map_eq_none_iff]
      exact h.recorded row hrow
    · exact h.recorded row hrow
  · intro other hother
    rcases List.mem_cons.mp hother with rfl | hold
    · exact h.runs run hrun
    · exact h.runs other (List.mem_of_mem_erase hold)
  · intro row hrow
    by_cases hprocess : row.processId = run.job.processId
    · obtain ⟨own, hown, hid, hsame⟩ := h.runs run hrun
      obtain rfl : row = own := h.jobId_eq hrow hown (hprocess.trans hsame.symm)
      refine .inr ⟨?_, ?_, { run with recorded := true }, List.mem_cons_self, hid.symm⟩
      · obtain ⟨locked, hlocked, hlockedId, -, hworking⟩ := lockOwned_ne_none hlock
        rw [Table.eq_of_mem hrow hlocked (hid.trans hlockedId.symm)]
        exact hworking
      · rw [hid]
        exact List.mem_cons_self
    · rcases h.agrees row hrow with hagrees | ⟨hworking, hfailure, other, hother, hid⟩
      · refine .inl ?_
        unfold AgreesOn
        rw [hget, if_neg hprocess]
        exact hagrees
      · refine .inr ⟨hworking, List.mem_cons_of_mem _ hfailure, ?_⟩
        by_cases hsame : other = run
        · subst hsame
          exact ⟨{ other with recorded := true }, List.mem_cons_self, hid⟩
        · exact ⟨other, List.mem_cons_of_mem _ ((List.mem_erase_of_ne hsame).mpr hother), hid⟩

/-- The end of a transaction, and of its run if it is the last. -/
theorem Linked.close {s : ProcessingState} (h : s.Linked) {tx : OpenTransaction}
    (hmended : ∀ run ∈ tx.call.ends, run.job.jobId ∈ s.failures → s.Finished run.job.jobId ∨
      ∃ other ∈ s.running.erase run, other.job.jobId = run.job.jobId) : (s.close tx).Linked := by
  unfold ProcessingState.close
  cases hends : tx.call.ends with
  | none => exact h.forget fun _ htx => List.mem_of_mem_erase htx
  | some run => exact h.stop (hmended run hends)

/-- Every step keeps the invariant. -/
theorem linked_next {s : ProcessingState} (h : s.Linked) {step : ProcessingStep}
    (henabled : s.enabled step) (hmended : s.Mended step) (hlate : ¬ s.Late step) :
    (s.next step).Linked := by
  cases step with
  | submit job => exact linked_submit h henabled.1 henabled.2
  | begin workerId leaseToken leaseSeconds maxConcurrentJobs =>
      exact linked_claim (linked_settle h) workerId leaseToken leaseSeconds maxConcurrentJobs
  | read call => exact linked_read h henabled
  | flush tx =>
      apply (linked_commit h henabled hlate).close
      intro run hends hfailure
      rw [commit_failures] at hfailure
      have hown : tx.loaded.jobId = run.job.jobId :=
        (h.reads tx henabled).1.trans (UnlockedCall.jobId_of_ends hends)
      rw [commit_running, ← hown]
      rcases hmended run hends hfailure with hfinished | hfinishes | hother
      · exact .inl (finished_commit h henabled hlate (.inl (hown ▸ hfinished)))
      · exact .inl (finished_commit h henabled hlate (.inr hfinishes))
      · exact .inr (hown ▸ hother)
  | rollback tx =>
      apply h.close
      intro run hends hfailure
      exact (hmended run hends hfailure).imp_right (·.resolve_left id)
  | recordFailure run errorCode =>
      exact linked_recordFailure h henabled.1.1 errorCode henabled.2.2
  | finalize run personCount processedFrames =>
      apply (linked_finalize h henabled.1.1 personCount processedFrames).stop
      intro hfailure
      rcases hmended run rfl hfailure with hfinished | hfinishes | hother
      · exact .inl (finished_finalize (.inl hfinished))
      · exact .inl (finished_finalize (.inr hfinishes))
      · exact .inr hother
  | stop run =>
      apply h.stop
      intro hfailure
      exact (hmended run rfl hfailure).imp_right (·.resolve_left id)

end ProcessingState

open ProcessingState

/-- Whenever no operation is in progress every job agrees with its process, if every recorded failure
is mended and no flush comes too late. -/
theorem settledAgrees_of_mended {s : ProcessingState} {events : List ProcessingEvent}
    (hinit : videoProcessing.init s) (hvalid : videoProcessing.Valid s events)
    (hmeets : videoProcessing.Meets
      (fun s e => { s with now := e.time }.Mended e.step ∧ ¬ { s with now := e.time }.Late e.step)
      s events) :
    videoProcessing.Always SettledAgrees s events := by
  have hkept : videoProcessing.PreservedUnder
      (fun s e => { s with now := e.time }.Mended e.step ∧ ¬ { s with now := e.time }.Late e.step)
      Linked := by
    rintro s e ⟨-, henabled⟩ ⟨hmended, hlate⟩ h
    have hticked : { s with now := e.time }.Linked :=
      ⟨h.distinct, h.recorded, h.runs, h.reads, fun row hrow =>
        (h.agrees row hrow).imp_right fun hexcused =>
          ⟨hexcused.working, hexcused.failure, hexcused.run⟩⟩
    exact linked_next hticked henabled hmended hlate
  exact (hkept.always hvalid hmeets (linked_init hinit)).imp fun _ h => h.settledAgrees

/-! ### Two workers, and two ways to disagree -/

def sampleJob (jobId processId : String) (maxAttempts : Nat) : VideoJob :=
  VideoUploadService.submit jobId processId maxAttempts 0 0

/-- The run of the first worker. -/
def sampleRun (maxAttempts : Nat) : JobRun where
  workerId := "worker"
  leaseToken := "token"
  job := (sampleJob "job" "process" maxAttempts).claim "worker" "token" 1 60

/-- The run of the second worker, which takes the job over. -/
def sampleRetry : JobRun where
  workerId := "other"
  leaseToken := "next"
  job := (sampleRun 2).job.claim "other" "next" 70 60

/-- The upload of a sample fails in both attempts of a job, the first of which loses its lease.  A
second job is cancelled before its turn. -/
def sampleMended : List ProcessingEvent :=
  let waiting := sampleJob "waiting" "second" 3
  let failed := { sampleRetry with recorded := true }
  [⟨0, .submit (sampleJob "job" "process" 2)⟩, ⟨0, .submit waiting⟩,
    ⟨1, .begin "worker" "token" 60 4⟩, ⟨2, .read (.cancel "waiting")⟩,
    ⟨2, .read (.renewLease (sampleRun 2) 61)⟩, ⟨3, .flush ⟨.cancel "waiting", 2, waiting⟩⟩,
    ⟨4, .flush ⟨.renewLease (sampleRun 2) 61, 2, (sampleRun 2).job⟩⟩,
    ⟨5, .recordFailure (sampleRun 2) "STORAGE_ERROR"⟩, ⟨70, .begin "other" "next" 60 4⟩,
    ⟨71, .stop { sampleRun 2 with recorded := true }⟩,
    ⟨72, .recordFailure sampleRetry "STORAGE_ERROR"⟩,
    ⟨73, .read (.handleFailure failed "VIDEO_PIPELINE_ERROR")⟩,
    ⟨74, .flush ⟨.handleFailure failed "VIDEO_PIPELINE_ERROR", 73, sampleRetry.job⟩⟩]

/-- The first job fails with its process, and the second is cancelled with its own. -/
theorem last_attempt_agrees : videoProcessing.Always SettledAgrees { now := 0 } sampleMended :=
  settledAgrees_of_mended ⟨rfl, rfl, rfl, rfl, rfl, rfl⟩ (by decide) (by decide)

/-- The upload of a sample fails in the first of three attempts. -/
def sampleReleased : List ProcessingEvent :=
  let failed := { sampleRun 3 with recorded := true }
  [⟨0, .submit (sampleJob "job" "process" 3)⟩, ⟨1, .begin "worker" "token" 60 4⟩,
    ⟨2, .recordFailure (sampleRun 3) "STORAGE_ERROR"⟩,
    ⟨3, .read (.handleFailure failed "VIDEO_PIPELINE_ERROR")⟩,
    ⟨4, .flush ⟨.handleFailure failed "VIDEO_PIPELINE_ERROR", 3, (sampleRun 3).job⟩⟩]

/-- A cancellation reads a job in work and writes it after it has been completed. -/
def sampleOvertaken : List ProcessingEvent :=
  [⟨0, .submit (sampleJob "job" "process" 3)⟩, ⟨1, .begin "worker" "token" 60 4⟩,
    ⟨2, .read (.cancel "job")⟩, ⟨3, .finalize (sampleRun 3) 1 100⟩,
    ⟨4, .flush ⟨.cancel "job", 2, (sampleRun 3).job⟩⟩]

/-- The first leaves a job that waits for another attempt with a failed process, the second one that
is being cancelled with a completed process. -/
theorem pending_job_with_failed_process :
    videoProcessing.init { now := 0 } ∧
      (videoProcessing.Valid { now := 0 } sampleReleased ∧
        ¬ SettledAgrees (videoProcessing.run { now := 0 } sampleReleased)) ∧
      videoProcessing.Valid { now := 0 } sampleOvertaken ∧
        ¬ SettledAgrees (videoProcessing.run { now := 0 } sampleOvertaken) := by
  have hdisagree : ∀ s : ProcessingState, s.running = [] ∧ s.opened = [] ∧ ¬ s.Agrees →
      ¬ s.SettledAgrees := fun s h hsettled => h.2.2 (hsettled h.1 h.2.1)
  refine ⟨⟨rfl, rfl, rfl, rfl, rfl, rfl⟩, ⟨by decide, ?_⟩, by decide, ?_⟩
  · exact hdisagree _ (by decide)
  · exact hdisagree _ (by decide)

end Mvision.Video
