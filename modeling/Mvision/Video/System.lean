import Mvision.Library.Machine
import Mvision.Video.Job

/-!
# Video jobs: runs of repository operations

Workers, clients and their clocks interleave at the granularity of one
transaction.  A worker that crashes or gives up issues no further operation,
so every prefix of its calls is among the runs below.

`RowChange` says once what an operation can do to a row; everything later is
derived from it.
-/

namespace Mvision.Video

open Mvision.Library
open VideoJobRepository
open VideoResultService

inductive JobOp where
  | create (job : VideoJob)
  | claimNext (workerId leaseToken : String) (leaseSeconds : Int) (maxConcurrentJobs : Nat)
  | settleExhausted
  | renewLease (jobId workerId leaseToken : String) (expiresAt : Timestamp)
  | updateProgress (jobId workerId leaseToken stage : String) (progressPercent : ℚ)
      (processedFrames : Int)
  | requestCancel (jobId : String)
  | lockOwned (jobId workerId leaseToken : String)
  | complete (jobId workerId leaseToken : String) (personCount processedFrames : Int)
  | finalize (jobId workerId leaseToken : String) (personCount processedFrames : Int)
  | fail (jobId workerId leaseToken errorCode : String)
  | markCancelled (jobId workerId leaseToken : String)
  | releaseForRetry (jobId workerId leaseToken : String) (availableAt : Timestamp)
      (errorCode : String)

/-- What the method returns to its caller. -/
inductive Outcome where
  | created
  | claimed (job : Option VideoJob)
  | settled (jobs : List (String × JobStatus))
  | wrote (ok : Bool)
  | cancelled (job : Option VideoJob)
  | locked (job : Option VideoJob)
deriving DecidableEq

def JobOp.exec (now : Timestamp) (jobs : Jobs) : JobOp → Outcome × Jobs
  | .create job => (.created, jobs.insert job)
  | .claimNext w τ lease limit =>
      (VideoJobRepository.claimNext w τ lease limit now jobs).map .claimed id
  | .settleExhausted => (VideoJobRepository.settleExhausted now jobs).map .settled id
  | .renewLease j w τ expires =>
      (VideoJobRepository.renewLease j w τ expires now jobs).map .wrote id
  | .updateProgress j w τ stage percent frames =>
      (VideoJobRepository.updateProgress j w τ stage percent frames now jobs).map .wrote id
  | .requestCancel j => (VideoJobRepository.requestCancel j now jobs).map .cancelled id
  | .lockOwned j w τ => (.locked (VideoJobRepository.lockOwned j w τ now jobs), jobs)
  | .complete j w τ persons frames =>
      (VideoJobRepository.complete j w τ persons frames now jobs).map .wrote id
  | .finalize j w τ persons frames =>
      (VideoResultService.finalize j w τ persons frames now jobs).map .wrote id
  | .fail j w τ code => (VideoJobRepository.fail j w τ code now jobs).map .wrote id
  | .markCancelled j w τ => (VideoJobRepository.markCancelled j w τ now jobs).map .wrote id
  | .releaseForRetry j w τ available code =>
      (VideoJobRepository.releaseForRetry j w τ available code jobs).map .wrote id

/-- A row as `VideoUploadService.submit` stores it: the column defaults, and a
positive number of attempts by the `video_job_attempt_check` constraint. -/
structure Submitted (job : VideoJob) : Prop where
  status : job.status = .pending
  attempts : job.attemptCount < job.maxAttempts
  cancellation : job.cancellationRequested = false
  worker : job.workerId = none
  token : job.leaseToken = none
  expiry : job.leaseExpiresAt = none

instance (job : VideoJob) : Decidable (Submitted job) :=
  decidable_of_iff
    (job.status = .pending ∧ job.attemptCount < job.maxAttempts ∧
      job.cancellationRequested = false ∧ job.workerId = none ∧ job.leaseToken = none ∧
      job.leaseExpiresAt = none)
    ⟨fun ⟨a, b, c, d, e, f⟩ => ⟨a, b, c, d, e, f⟩,
      fun ⟨a, b, c, d, e, f⟩ => ⟨a, b, c, d, e, f⟩⟩

/-- The row of `VideoUploadService.submit`; `created_at` is a server default. -/
def VideoUploadService.submit (jobId processId : String) (maxAttempts : Nat)
    (now createdAt : Timestamp) : VideoJob where
  jobId := jobId
  processId := processId
  status := .pending
  stage := "queued"
  progressPercent := 0
  cancellationRequested := false
  attemptCount := 0
  maxAttempts := maxAttempts
  availableAt := now
  workerId := none
  leaseToken := none
  leaseExpiresAt := none
  errorCode := none
  processedFrames := 0
  personCount := 0
  createdAt := createdAt
  startedAt := none
  completedAt := none
  cancelledAt := none

/-- `video_job_max_attempts` is positive, so every upload is a submitted row. -/
theorem VideoUploadService.submit_submitted (jobId processId : String) {maxAttempts : Nat}
    (h : 0 < maxAttempts) (now createdAt : Timestamp) :
    Submitted (submit jobId processId maxAttempts now createdAt) :=
  ⟨rfl, h, rfl, rfl, rfl, rfl⟩

/-- The committed table, the latest clock reading and the lease tokens drawn
so far. -/
structure JobState where
  now : Timestamp
  jobs : Jobs
  issued : List String

/-- One transaction and the time it runs at. -/
structure JobEvent where
  time : Timestamp
  op : JobOp

/-- `lease_token = new_uuid7()` is drawn before the claim. -/
def JobOp.drawn : JobOp → List String
  | .claimNext _ τ _ _ => [τ]
  | _ => []

/-- Clocks never run backwards, tokens are fresh, new rows are submitted rows. -/
def JobEvent.enabled (s : JobState) (e : JobEvent) : Prop :=
  s.now ≤ e.time ∧
    match e.op with
    | .create job => Submitted job
    | .claimNext _ τ _ _ => τ ∉ s.issued
    | _ => True

instance (s : JobState) (e : JobEvent) : Decidable (e.enabled s) := by
  unfold JobEvent.enabled
  cases e.op <;> infer_instance

def JobEvent.next (s : JobState) (e : JobEvent) : JobState where
  now := e.time
  jobs := (e.op.exec e.time s.jobs).2
  issued := e.op.drawn ++ s.issued

/-- Any population of submitted jobs, then any interleaving of transactions. -/
def jobSystem : Machine JobState JobEvent where
  init s := (∀ job ∈ s.jobs.rows, Submitted job) ∧ s.issued = []
  enabled s e := e.enabled s
  next s e := e.next s

instance (s : JobState) (e : JobEvent) : Decidable (jobSystem.enabled s e) :=
  inferInstanceAs (Decidable (e.enabled s))

/-- The empty table before the first upload. -/
def JobState.start (now : Timestamp) : JobState := ⟨now, .empty, []⟩

theorem JobState.start_reachable (now : Timestamp) :
    jobSystem.Reachable (JobState.start now) :=
  .of_init ⟨by simp [start, Table.empty], rfl⟩

@[simp] theorem jobSystem_next (s : JobState) (e : JobEvent) :
    jobSystem.next s e = e.next s := rfl

@[simp] theorem next_now (s : JobState) (e : JobEvent) : (e.next s).now = e.time := rfl

@[simp] theorem next_jobs (s : JobState) (e : JobEvent) :
    (e.next s).jobs = (e.op.exec e.time s.jobs).2 := rfl

@[simp] theorem next_issued (s : JobState) (e : JobEvent) :
    (e.next s).issued = e.op.drawn ++ s.issued := rfl

theorem enabled_time {s : JobState} {e : JobEvent} (h : jobSystem.enabled s e) :
    s.now ≤ e.time := h.1

/-! ## What an operation does to a row -/

inductive RowChange (now : Timestamp) : JobOp → VideoJob → VideoJob → Prop
  | claimed {job : VideoJob} {w τ : String} {lease : Int} {limit : Nat}
      (admits : job.claimAdmits now = true) :
      RowChange now (.claimNext w τ lease limit) job (job.claim w τ now lease)
  | settled {job : VideoJob} (selects : job.settleSelects now = true) :
      RowChange now .settleExhausted job (job.settle now)
  | renewed {job : VideoJob} {w τ : String} {expires : Timestamp}
      (owns : job.ownsActiveLease w τ now = true) :
      RowChange now (.renewLease job.jobId w τ expires) job (job.renew expires)
  | progressed {job : VideoJob} {w τ stage : String} {percent : ℚ} {frames : Int}
      (owns : job.ownsActiveLease w τ now = true) :
      RowChange now (.updateProgress job.jobId w τ stage percent frames) job
        (job.progress stage percent frames)
  | cancelled {job : VideoJob} :
      RowChange now (.requestCancel job.jobId) job (job.cancel now)
  | completed {job : VideoJob} {w τ : String} {persons frames : Int}
      (holds : job.holdsLease w τ = true) :
      RowChange now (.complete job.jobId w τ persons frames) job
        (job.completed now persons frames)
  | finalized {job : VideoJob} {w τ : String} {persons frames : Int}
      (locks : job.lockAdmits w τ now = true) :
      RowChange now (.finalize job.jobId w τ persons frames) job
        (job.completed now persons frames)
  | failed {job : VideoJob} {w τ code : String} (holds : job.holdsLease w τ = true) :
      RowChange now (.fail job.jobId w τ code) job (job.failed now code)
  | markedCancelled {job : VideoJob} {w τ : String} (holds : job.holdsLease w τ = true) :
      RowChange now (.markCancelled job.jobId w τ) job (job.markedCancelled now)
  | released {job : VideoJob} {w τ code : String} {available : Timestamp}
      (holds : job.holdsLease w τ = true) :
      RowChange now (.releaseForRetry job.jobId w τ available code) job
        (job.released available code)

/-- The row is untouched or changed in the one way the operation allows. -/
def RowStep (now : Timestamp) (op : JobOp) (job job' : VideoJob) : Prop :=
  job' = job ∨ RowChange now op job job'

section Writes

variable {id : String} {owns : VideoJob → Bool} {f : VideoJob → VideoJob}
  {hf : ∀ job, (f job).jobId = job.jobId} {jobs : Jobs}

/-- The row function of a guarded write. -/
theorem writeOwned_rows :
    (writeOwned id owns f hf jobs).2.rows =
      jobs.rows.map (fun job => if job.jobId = id ∧ owns job = true then f job else job) := by
  unfold writeOwned
  have hself : jobs.rows.map (fun job => job) = jobs.rows := List.map_id _
  cases hid : jobs.get id with
  | none =>
      refine hself.symm.trans (List.map_congr_left ?_)
      intro job hm
      simp [Table.get_eq_none_iff.mp hid job hm]
  | some row =>
      obtain ⟨hrow, hk⟩ := Table.get_eq_some_iff.mp hid
      have only : ∀ job ∈ jobs.rows, job.jobId = id → job = row := fun job hm he =>
        Table.eq_of_mem hm hrow (he.trans hk.symm)
      by_cases ho : owns row = true
      · simp only [ho, if_true, Table.update_rows]
        refine List.map_congr_left ?_
        intro job hm
        by_cases hj : job.jobId = id
        · simp [only job hm hj, hk, ho]
        · simp [hj]
      · simp only [ho]
        refine hself.symm.trans (List.map_congr_left ?_)
        intro job hm
        by_cases hj : job.jobId = id
        · simp [only job hm hj, ho]
        · simp [hj]

/-- A write that no row owns is refused and changes nothing. -/
theorem writeOwned_refused (h : ∀ job, jobs.get id = some job → owns job = false) :
    writeOwned id owns f hf jobs = (false, jobs) := by
  unfold writeOwned
  cases hid : jobs.get id with
  | none => rfl
  | some job => simp [h job hid]

end Writes

theorem finalize_eq {j w τ : String} {persons frames : Int} {now : Timestamp} (jobs : Jobs) :
    finalize j w τ persons frames now jobs =
      writeOwned j (·.lockAdmits w τ now) (·.completed now persons frames)
        (·.completed_jobId now persons frames) jobs := by
  unfold finalize lockOwned complete writeOwned
  cases hj : jobs.get j with
  | none => rfl
  | some job =>
      by_cases hl : job.lockAdmits w τ now = true
      · have hh : job.holdsLease w τ = true := by
          rw [VideoJob.lockAdmits_iff] at hl
          exact VideoJob.holdsLease_iff.mpr hl.1.2
        simp [hl, hh, Option.filter]
      · simp [hl, Option.filter]

theorem RowChange.jobId_eq {now : Timestamp} {op : JobOp} {job job' : VideoJob}
    (h : RowChange now op job job') : job'.jobId = job.jobId := by
  cases h <;> simp

theorem RowStep.jobId_eq {now : Timestamp} {op : JobOp} {job job' : VideoJob}
    (h : RowStep now op job job') : job'.jobId = job.jobId := by
  rcases h with rfl | hc
  · rfl
  · exact hc.jobId_eq

/-- The operation rewrites every row in place, each by its own step. -/
def Rewrites (now : Timestamp) (op : JobOp) (jobs jobs' : Jobs) : Prop :=
  ∃ f : VideoJob → VideoJob, jobs'.rows = jobs.rows.map f ∧
    ∀ job ∈ jobs.rows, RowStep now op job (f job)

theorem Rewrites.refl (now : Timestamp) (op : JobOp) (jobs : Jobs) :
    Rewrites now op jobs jobs :=
  ⟨id, (List.map_id _).symm, fun _ _ => Or.inl rfl⟩

/-- A write to the row of key `k` only. -/
theorem Rewrites.update {now : Timestamp} {op : JobOp} {jobs : Jobs} {k : String}
    {f : VideoJob → VideoJob} (hf : ∀ job, (f job).jobId = job.jobId)
    (h : ∀ job ∈ jobs.rows, job.jobId = k → RowStep now op job (f job)) :
    Rewrites now op jobs (jobs.update k f hf) := by
  refine ⟨_, Table.update_rows .., ?_⟩
  intro job hm
  by_cases hk : job.jobId = k
  · rw [if_pos hk]
    exact h job hm hk
  · rw [if_neg hk]
    exact Or.inl rfl

theorem Rewrites.writeOwned {now : Timestamp} {op : JobOp} {jobs : Jobs} {id : String}
    {owns : VideoJob → Bool} {f : VideoJob → VideoJob} {hf}
    (h : ∀ job : VideoJob, job.jobId = id → owns job = true → RowChange now op job (f job)) :
    Rewrites now op jobs (writeOwned id owns f hf jobs).2 := by
  refine ⟨_, writeOwned_rows, ?_⟩
  intro job _
  by_cases hc : job.jobId = id ∧ owns job = true
  · rw [if_pos hc]
    exact Or.inr (h job hc.1 hc.2)
  · rw [if_neg hc]
    exact Or.inl rfl

theorem Rewrites.claimNext {w τ : String} {lease : Int} {limit : Nat} {now : Timestamp}
    {jobs : Jobs} :
    Rewrites now (.claimNext w τ lease limit) jobs (claimNext w τ lease limit now jobs).2 := by
  unfold VideoJobRepository.claimNext
  split
  · exact .refl ..
  · cases hc : claimCandidate now jobs with
    | none => exact .refl ..
    | some pick =>
        obtain ⟨hmem, hadm⟩ := claimCandidate_spec hc
        refine .update (·.claim_jobId w τ now lease) fun job hm hk => ?_
        obtain rfl : job = pick := Table.eq_of_mem hm hmem hk
        exact Or.inr (.claimed hadm)

theorem Rewrites.settleExhausted {now : Timestamp} {jobs : Jobs} :
    Rewrites now .settleExhausted jobs (settleExhausted now jobs).2 := by
  refine ⟨settleRow now, rfl, ?_⟩
  intro job _
  unfold settleRow
  split
  · rename_i hs
    exact Or.inr (.settled hs)
  · exact Or.inl rfl

theorem Rewrites.requestCancel {now : Timestamp} {jobs : Jobs} {j : String} :
    Rewrites now (.requestCancel j) jobs (requestCancel j now jobs).2 := by
  unfold VideoJobRepository.requestCancel
  split
  · exact .refl ..
  · refine .update (·.cancel_jobId now) fun job _ hk => Or.inr ?_
    exact hk ▸ .cancelled

/-- `create` adds a row; every other operation rewrites the rows in place. -/
theorem exec_rewrites {now : Timestamp} {jobs : Jobs} {op : JobOp}
    (hop : ∀ job, op ≠ .create job) : Rewrites now op jobs (op.exec now jobs).2 := by
  cases op with
  | create row => exact absurd rfl (hop row)
  | claimNext w τ lease limit => exact .claimNext
  | settleExhausted => exact .settleExhausted
  | requestCancel j => exact .requestCancel
  | lockOwned j w τ => exact .refl ..
  | renewLease j w τ expires => exact .writeOwned fun _ hid ho => hid ▸ .renewed ho
  | updateProgress j w τ stage percent frames =>
      exact .writeOwned fun _ hid ho => hid ▸ .progressed ho
  | complete j w τ persons frames => exact .writeOwned fun _ hid ho => hid ▸ .completed ho
  | finalize j w τ persons frames =>
      simp only [JobOp.exec, finalize_eq]
      exact .writeOwned fun _ hid ho => hid ▸ .finalized ho
  | fail j w τ code => exact .writeOwned fun _ hid ho => hid ▸ .failed ho
  | markCancelled j w τ => exact .writeOwned fun _ hid ho => hid ▸ .markedCancelled ho
  | releaseForRetry j w τ available code =>
      exact .writeOwned fun _ hid ho => hid ▸ .released ho

theorem create_or_rewrites (now : Timestamp) (jobs : Jobs) (op : JobOp) :
    (∃ job, op = .create job) ∨ Rewrites now op jobs (op.exec now jobs).2 := by
  by_cases h : ∃ job, op = .create job
  · exact Or.inl h
  · exact Or.inr (exec_rewrites fun job he => h ⟨job, he⟩)

/-- A row that exists before an operation exists after it, changed in no way
other than the operation's own. -/
theorem exec_rowStep (now : Timestamp) (op : JobOp) {jobs : Jobs} {k : String}
    {job : VideoJob} (h : jobs.get k = some job) :
    ∃ job', (op.exec now jobs).2.get k = some job' ∧ RowStep now op job job' := by
  rcases create_or_rewrites now jobs op with ⟨row, rfl⟩ | ⟨f, hrows, hstep⟩
  · exact ⟨job, Table.get_insert_of_some h, Or.inl rfl⟩
  · obtain ⟨hm, hk⟩ := Table.get_eq_some_iff.mp h
    have hf := hstep job hm
    refine ⟨f job, Table.get_eq_some_iff.mpr ⟨?_, hf.jobId_eq.trans hk⟩, hf⟩
    rw [hrows]
    exact List.mem_map_of_mem hm

/-- Where a row of the next state comes from. -/
theorem exec_row_cases {now : Timestamp} {jobs : Jobs} {op : JobOp} {job' : VideoJob}
    (h : job' ∈ (op.exec now jobs).2.rows) :
    (∃ job ∈ jobs.rows, job.jobId = job'.jobId ∧ RowStep now op job job') ∨
      (op = .create job' ∧ jobs.get job'.jobId = none) := by
  rcases create_or_rewrites now jobs op with ⟨row, rfl⟩ | ⟨f, hrows, hstep⟩
  · rcases Table.mem_insert h with hm | ⟨rfl, hfresh⟩
    · exact Or.inl ⟨job', hm, rfl, Or.inl rfl⟩
    · refine Or.inr ⟨rfl, Table.get_eq_none_iff.mpr ?_⟩
      intro r hr he
      exact hfresh (List.mem_map.mpr ⟨r, hr, he⟩)
  · rw [hrows] at h
    obtain ⟨job, hm, rfl⟩ := List.mem_map.mp h
    exact Or.inl ⟨job, hm, (hstep job hm).jobId_eq.symm, hstep job hm⟩

end Mvision.Video
