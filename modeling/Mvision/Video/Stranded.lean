import Mvision.Video.Lease

/-!
# Video jobs: which runs strand a job

A live job waits either for `settle_exhausted` or for `claim_next`.  The two
filters together miss a job in exactly two shapes: `cancelling` with attempts
left, and `pending` with none.  `Recoverable` excludes both, and the two
operations that can produce them are singled out by `JobEvent.Abandons`.
-/

namespace Mvision.Video

open Mvision.Library
open VideoJobRepository

/-- `pending`, `processing` or `cancelling`. -/
def VideoJob.isLive (job : VideoJob) : Prop :=
  job.status = .pending ∨ job.status = .processing ∨ job.status = .cancelling

/-- If nothing else touches the job, a queue worker picks it up at some later time. -/
def VideoJob.NotStranded (now : Timestamp) (job : VideoJob) : Prop :=
  job.isLive → ∃ t, now ≤ t ∧ (job.settleSelects t = true ∨ job.claimAdmits t = true)

def VideoJob.Recoverable (job : VideoJob) : Prop :=
  (job.status = .pending → job.attemptCount < job.maxAttempts) ∧
    (job.status = .cancelling → job.maxAttempts ≤ job.attemptCount)

/-! ## The two filters -/

theorem Recoverable.notStranded {issued : List String} {job : VideoJob}
    (hi : RowInv issued job) (h : job.Recoverable) (now : Timestamp) :
    job.NotStranded now := by
  rintro (hp | hp | hp)
  · refine ⟨max now job.availableAt, le_max_left _ _, Or.inr ?_⟩
    rw [VideoJob.claimAdmits_iff]
    exact ⟨h.1 hp, Or.inl ⟨hp, le_max_right _ _⟩⟩
  · obtain ⟨x, hx⟩ := hi.claimed (by simp [hp])
    refine ⟨max now (x + 1), le_max_left _ _, ?_⟩
    have hlt : x < max now (x + 1) := (lt_add_one x).trans_le (le_max_right _ _)
    by_cases ha : job.attemptCount < job.maxAttempts
    · right
      rw [VideoJob.claimAdmits_iff]
      exact ⟨ha, Or.inr ⟨hp, x, hx, hlt⟩⟩
    · left
      rw [VideoJob.settleSelects_iff]
      exact ⟨Or.inl hp, ⟨x, hx, hlt⟩, by omega⟩
  · obtain ⟨x, hx⟩ := hi.claimed (by simp [hp])
    refine ⟨max now (x + 1), le_max_left _ _, Or.inl ?_⟩
    rw [VideoJob.settleSelects_iff]
    exact ⟨Or.inr hp, ⟨x, hx, (lt_add_one x).trans_le (le_max_right _ _)⟩, h.2 hp⟩

theorem NotStranded.recoverable {job : VideoJob} {now : Timestamp}
    (h : job.NotStranded now) : job.Recoverable := by
  constructor
  · intro hp
    obtain ⟨t, -, hsel | hadm⟩ := h (Or.inl hp)
    · simp [VideoJob.settleSelects_iff, hp] at hsel
    · exact (VideoJob.claimAdmits_iff.mp hadm).1
  · intro hp
    obtain ⟨t, -, hsel | hadm⟩ := h (Or.inr (Or.inr hp))
    · exact (VideoJob.settleSelects_iff.mp hsel).2.2
    · simp [VideoJob.claimAdmits_iff, hp] at hadm

/-- Under the row invariant, time plays no part in being stranded. -/
theorem notStranded_iff {issued : List String} {job : VideoJob} (hi : RowInv issued job)
    (now : Timestamp) : job.NotStranded now ↔ job.Recoverable :=
  ⟨NotStranded.recoverable, fun h => Recoverable.notStranded hi h now⟩

/-! ## The operations that strand a job -/

/-- The change strands the row it is applied to. -/
def JobOp.Strands (job : VideoJob) : JobOp → Prop
  | .requestCancel _ => job.status = .processing ∧ job.attemptCount < job.maxAttempts
  | .releaseForRetry _ _ _ _ _ => job.maxAttempts ≤ job.attemptCount
  | _ => False

/-- A cancel of a running job that has attempts left, or a retry release by
the lease holder of a job that has none. -/
def JobEvent.Abandons (s : JobState) (e : JobEvent) : Prop :=
  match e.op with
  | .requestCancel j => ∃ job, s.jobs.get j = some job ∧ job.status = .processing ∧
      job.attemptCount < job.maxAttempts
  | .releaseForRetry j w τ _ _ => ∃ job, s.jobs.get j = some job ∧
      job.holdsLease w τ = true ∧ job.maxAttempts ≤ job.attemptCount
  | _ => False

theorem RowChange.recoverable {now : Timestamp} {op : JobOp} {job job' : VideoJob}
    (h : RowChange now op job job') (hr : job.Recoverable) (hs : ¬ op.Strands job) :
    job'.Recoverable := by
  cases h with
  | claimed => exact ⟨by simp [VideoJob.claim], by simp [VideoJob.claim]⟩
  | settled =>
      unfold VideoJob.settle
      split <;> exact ⟨by simp [VideoJob.clearLease], by simp [VideoJob.clearLease]⟩
  | renewed => exact hr
  | progressed => exact hr
  | cancelled =>
      unfold VideoJob.cancel
      split
      · exact ⟨by simp, by simp⟩
      · rename_i hp
        have : ¬ job.attemptCount < job.maxAttempts := fun ha => hs ⟨hp, ha⟩
        exact ⟨by simp, fun _ => by simpa using this⟩
      · exact hr
  | completed =>
      exact ⟨by simp [VideoJob.completed, VideoJob.clearLease],
        by simp [VideoJob.completed, VideoJob.clearLease]⟩
  | finalized =>
      exact ⟨by simp [VideoJob.completed, VideoJob.clearLease],
        by simp [VideoJob.completed, VideoJob.clearLease]⟩
  | failed =>
      exact ⟨by simp [VideoJob.failed, VideoJob.clearLease],
        by simp [VideoJob.failed, VideoJob.clearLease]⟩
  | markedCancelled =>
      exact ⟨by simp [VideoJob.markedCancelled, VideoJob.clearLease],
        by simp [VideoJob.markedCancelled, VideoJob.clearLease]⟩
  | released =>
      have : job.attemptCount < job.maxAttempts := by
        simpa [JobOp.Strands] using hs
      exact ⟨fun _ => this, by simp [VideoJob.released, VideoJob.clearLease]⟩

theorem RowChange.abandons {s : JobState} {e : JobEvent} {op : JobOp}
    {job job' : VideoJob} (hop : e.op = op) (hm : job ∈ s.jobs.rows)
    (h : RowChange e.time op job job') (hs : op.Strands job) : e.Abandons s := by
  have hget : s.jobs.get job.jobId = some job := Table.get_eq_some_iff.mpr ⟨hm, rfl⟩
  unfold JobEvent.Abandons
  rw [hop]
  cases h with
  | cancelled => exact ⟨job, hget, hs⟩
  | released holds => exact ⟨job, hget, holds, hs⟩
  | _ => exact hs.elim

/-- An event that abandons a job leaves it stranded. -/
theorem Abandons.stranded {s : JobState} {e : JobEvent} (h : e.Abandons s) :
    ∃ job ∈ (e.next s).jobs.rows, ¬ job.Recoverable := by
  unfold JobEvent.Abandons at h
  cases hop : e.op with
  | requestCancel j =>
      simp only [hop] at h
      obtain ⟨job, hget, hp, ha⟩ := h
      refine ⟨job.cancel e.time, ?_, ?_⟩
      · refine (Table.get_eq_some_iff (k := j).mp ?_).1
        simp [hop, JobOp.exec, requestCancel, hget, Table.get_update]
      · intro hr
        have := hr.2 (by simp [VideoJob.cancel, hp])
        simp only [VideoJob.cancel, hp] at this
        omega
  | releaseForRetry j w τ available code =>
      simp only [hop] at h
      obtain ⟨job, hget, hh, ha⟩ := h
      refine ⟨job.released available code, ?_, ?_⟩
      · refine (Table.get_eq_some_iff (k := j).mp ?_).1
        simp only [next_jobs, hop, JobOp.exec, releaseForRetry, writeOwned, hget, hh]
        simp [Table.get_update, hget]
      · intro hr
        have : job.attemptCount < job.maxAttempts := hr.1 rfl
        omega
  | _ => simp [hop] at h

/-! ## Runs -/

def NoneStranded (s : JobState) : Prop := ∀ job ∈ s.jobs.rows, job.NotStranded s.now

theorem noneStranded_iff {s : JobState} (h : JobsInv s) :
    NoneStranded s ↔ ∀ job ∈ s.jobs.rows, job.Recoverable :=
  forall₂_congr fun job hm => notStranded_iff (h job hm) s.now

theorem noneStranded_init {s : JobState} (h : jobSystem.init s) : NoneStranded s := by
  rw [noneStranded_iff (jobsInv_init h)]
  intro job hm
  have hs := h.1 job hm
  exact ⟨fun _ => hs.attempts, by simp [hs.status]⟩

/-- The step lemma: an event strands nobody exactly if it abandons nobody. -/
theorem noneStranded_next_iff {s : JobState} {e : JobEvent} (he : jobSystem.enabled s e)
    (hi : JobsInv s) (hs : NoneStranded s) :
    NoneStranded (e.next s) ↔ ¬ e.Abandons s := by
  have hi' : JobsInv (e.next s) := jobsInv_preserved s e he hi
  rw [noneStranded_iff hi']
  rw [noneStranded_iff hi] at hs
  constructor
  · intro h ha
    obtain ⟨job, hm, hno⟩ := Abandons.stranded ha
    exact hno (h job hm)
  · intro hno job' hm
    rcases exec_row_cases hm with ⟨job, hj, -, rfl | hc⟩ | ⟨hop, -⟩
    · exact hs _ hj
    · exact hc.recoverable (hs job hj) fun hstr => hno (hc.abandons rfl hj hstr)
    · have hsub : Submitted job' := by
        have := he.2
        rw [hop] at this
        exact this
      exact ⟨fun _ => hsub.attempts, by simp [hsub.status]⟩

/-- A run keeps every live job within reach of the queue exactly if it never
cancels a running job that has attempts left and never releases one that has
none. -/
theorem noneStranded_iff_no_abandon {s : JobState} {es : List JobEvent}
    (hi : jobSystem.init s) (hv : jobSystem.Valid s es) :
    jobSystem.Always NoneStranded s es ↔
      jobSystem.Meets (fun s e => ¬ e.Abandons s) s es :=
  Machine.always_iff_meets jobsInv_preserved (fun _ _ => noneStranded_next_iff) hv
    (jobsInv_init hi) (noneStranded_init hi)

/-- A run that meets the condition: the job is claimed, finalised and done. -/
theorem noneStranded_iff_no_abandon_finalized :
    let es : List JobEvent :=
      [⟨0, .create (VideoUploadService.submit "job" "process" 3 0 0)⟩,
        ⟨1, .claimNext "worker" "lease" 10 1⟩,
        ⟨2, .finalize "job" "worker" "lease" 1 100⟩]
    jobSystem.Always NoneStranded (.start 0) es := by
  intro es
  refine (noneStranded_iff_no_abandon ⟨by simp [JobState.start, Table.empty], rfl⟩
    (by decide)).mpr ?_
  simp [es, JobEvent.Abandons]

/-- A client cancels a running job and the worker disappears: the job has
attempts left, so neither filter ever admits it. -/
theorem cancelled_job_stranded :
    ∃ s es, jobSystem.init s ∧ jobSystem.Valid s es ∧
      ∃ job ∈ (jobSystem.run s es).jobs.rows,
        job.status = .cancelling ∧ ¬ job.NotStranded (jobSystem.run s es).now := by
  refine ⟨.start 0, [⟨0, .create (VideoUploadService.submit "job" "process" 3 0 0)⟩,
    ⟨1, .claimNext "worker" "lease" 10 1⟩, ⟨2, .requestCancel "job"⟩],
    ⟨by simp [JobState.start, Table.empty], rfl⟩, by decide, ?_⟩
  refine ⟨_, List.mem_singleton.mpr rfl, rfl, ?_⟩
  intro h
  have := (NotStranded.recoverable h).2 rfl
  exact absurd this (by decide)

end Mvision.Video
