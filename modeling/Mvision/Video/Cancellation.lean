import Mvision.Video.Lease

/-!
# Video jobs: what becomes of a requested cancellation

A terminal row is out of reach of every operation, because its lease is gone.
A `cancelling` row still has its lease, and of the operations a processor
issues `fail` and `release_for_retry` ask for nothing but that lease: they are
the ones that lose the cancellation.
-/

namespace Mvision.Video

open Mvision.Library
open VideoJobRepository

def VideoJob.isTerminal (job : VideoJob) : Prop :=
  job.status = .completed ∨ job.status = .failed ∨ job.status = .cancelled

instance (job : VideoJob) : Decidable job.isTerminal := by
  unfold VideoJob.isTerminal
  infer_instance

theorem RowInv.no_holder {issued : List String} {job : VideoJob} (hi : RowInv issued job)
    (hc : job.isClaimed = false) (w τ : String) : job.holdsLease w τ = false := by
  simp [VideoJob.holdsLease, (hi.unclaimed hc).1]

theorem VideoJob.isTerminal.unclaimed {job : VideoJob} (h : job.isTerminal) :
    job.isClaimed = false := by
  rcases h with h | h | h <;> simp [VideoJob.isClaimed, h]

/-- No operation changes a terminal row. -/
theorem RowChange.of_terminal {issued : List String} {now : Timestamp} {op : JobOp}
    {job job' : VideoJob} (hc : RowChange now op job job') (hi : RowInv issued job)
    (ht : job.isTerminal) : job' = job := by
  have hun := ht.unclaimed
  have hno := hi.no_holder hun
  cases hc with
  | claimed admits =>
      have := (VideoJob.claimAdmits_iff.mp admits).2
      rcases ht with h | h | h <;> simp [h] at this
  | settled selects => simp [VideoJob.settleSelects, hun] at selects
  | renewed owns => simp [VideoJob.isActive, hun] at owns
  | progressed owns => simp [VideoJob.isActive, hun] at owns
  | cancelled =>
      unfold VideoJob.cancel
      rcases ht with h | h | h <;> simp [h]
  | completed holds => simp [hno] at holds
  | finalized locks => simp [VideoJob.isActive, hun] at locks
  | failed holds => simp [hno] at holds
  | markedCancelled holds => simp [hno] at holds
  | released holds => simp [hno] at holds

/-- One whole transaction after another, a terminal row stays as it is. -/
theorem terminal_row_kept {s : JobState} {es : List JobEvent} {j : String} {job : VideoJob}
    (hv : jobSystem.Valid s es) (hi : JobsInv s) (hj : s.jobs.get j = some job)
    (ht : job.isTerminal) : jobSystem.Always (fun s => s.jobs.get j = some job) s es := by
  induction es generalizing s with
  | nil => exact hj
  | cons e es ih =>
      have hnext : (e.next s).jobs.get j = some job := by
        obtain ⟨job', hj', rfl | hc⟩ := exec_rowStep e.time e.op hj
        · exact hj'
        · have hrow := hi job (Table.get_eq_some_iff.mp hj).1
          rwa [hc.of_terminal hrow ht] at hj'
      exact ⟨hj, ih hv.2 (jobsInv_preserved s e hv.1 hi) hnext⟩

/-! ## Operations as the processor issues them -/

/-- `VideoJobProcessor` reaches `complete` through `finalize` only. -/
def JobOp.ofProcessor : JobOp → Prop
  | .complete _ _ _ _ _ => False
  | _ => True

instance : DecidablePred JobOp.ofProcessor := fun op => by
  cases op <;> (simp only [JobOp.ofProcessor]; infer_instance)

def JobState.statusOf (s : JobState) (j : String) : Option JobStatus :=
  (s.jobs.get j).map (·.status)

/-- Job `j` is `cancelling` or `cancelled`. -/
def CancelHeld (j : String) (s : JobState) : Prop :=
  s.statusOf j = some .cancelling ∨ s.statusOf j = some .cancelled

/-- The job stays `cancelling` until it becomes `cancelled`. -/
def CancelKept (j : String) (s : JobState) (es : List JobEvent) : Prop :=
  jobSystem.Always (CancelHeld j) s es ∧
    ∀ pre post, es = pre ++ post → (jobSystem.run s pre).statusOf j = some .cancelled →
      jobSystem.Always (fun s => s.statusOf j = some .cancelled) (jobSystem.run s pre) post

/-- The lease holder of job `j` reports a failure: as the last attempt, or for
another one. -/
def JobEvent.Overrides (j : String) (s : JobState) (e : JobEvent) : Prop :=
  match e.op with
  | .fail j' w τ _ => j' = j ∧ ∃ job, s.jobs.get j = some job ∧ job.holdsLease w τ = true
  | .releaseForRetry j' w τ _ _ =>
      j' = j ∧ ∃ job, s.jobs.get j = some job ∧ job.holdsLease w τ = true
  | _ => False

theorem statusOf_eq_some {s : JobState} {j : String} {st : JobStatus} :
    s.statusOf j = some st ↔ ∃ job, s.jobs.get j = some job ∧ job.status = st := by
  simp [JobState.statusOf]

theorem cancelHeld_iff {s : JobState} {j : String} :
    CancelHeld j s ↔ ∃ job, s.jobs.get j = some job ∧
      (job.status = .cancelling ∨ job.status = .cancelled) := by
  simp only [CancelHeld, statusOf_eq_some]
  constructor
  · rintro (⟨job, hj, h⟩ | ⟨job, hj, h⟩)
    · exact ⟨job, hj, Or.inl h⟩
    · exact ⟨job, hj, Or.inr h⟩
  · rintro ⟨job, hj, h | h⟩
    · exact Or.inl ⟨job, hj, h⟩
    · exact Or.inr ⟨job, hj, h⟩

/-- What a processor's operation makes of a `cancelling` row, unless it
reports a failure. -/
theorem RowChange.cancelling {issued : List String} {now : Timestamp} {op : JobOp}
    {job job' : VideoJob} (hc : RowChange now op job job') (hi : RowInv issued job)
    (hs : job.status = .cancelling) (hop : op.ofProcessor) :
    (job'.status = .cancelling ∨ job'.status = .cancelled) ∨
      ∃ w τ, job.holdsLease w τ = true ∧
        ((∃ code, op = .fail job.jobId w τ code) ∨
          ∃ available code, op = .releaseForRetry job.jobId w τ available code) := by
  cases hc with
  | claimed admits =>
      have := (VideoJob.claimAdmits_iff.mp admits).2
      simp [hs] at this
  | settled => exact Or.inl (Or.inr (by simp [VideoJob.settle, hs, VideoJob.clearLease]))
  | renewed => exact Or.inl (Or.inl hs)
  | progressed => exact Or.inl (Or.inl hs)
  | cancelled => exact Or.inl (Or.inl (by simp [VideoJob.cancel, hs]))
  | completed => exact hop.elim
  | finalized locks => simp [hi.cancelling hs] at locks
  | failed holds => exact Or.inr ⟨_, _, holds, Or.inl ⟨_, rfl⟩⟩
  | markedCancelled => exact Or.inl (Or.inr rfl)
  | released holds => exact Or.inr ⟨_, _, holds, Or.inr ⟨_, _, rfl⟩⟩

theorem overrides_of_holder {s : JobState} {e : JobEvent} {j w τ : String} {job : VideoJob}
    (hj : s.jobs.get j = some job) (hh : job.holdsLease w τ = true)
    (hop : (∃ code, e.op = .fail j w τ code) ∨
      ∃ available code, e.op = .releaseForRetry j w τ available code) :
    e.Overrides j s := by
  unfold JobEvent.Overrides
  rcases hop with ⟨code, hop⟩ | ⟨available, code, hop⟩
  · rw [hop]
    exact ⟨rfl, job, hj, hh⟩
  · rw [hop]
    exact ⟨rfl, job, hj, hh⟩

/-- A failure report replaces the status, whatever it was. -/
theorem Overrides.lost {s : JobState} {e : JobEvent} {j : String} (h : e.Overrides j s) :
    ¬ CancelHeld j (e.next s) := by
  rw [cancelHeld_iff]
  unfold JobEvent.Overrides at h
  cases hop : e.op with
  | fail j' w τ code =>
      simp only [hop] at h
      obtain ⟨rfl, job, hj, hh⟩ := h
      have hnext : (e.next s).jobs.get j' = some (job.failed e.time code) := by
        simp only [next_jobs, hop, JobOp.exec, fail, writeOwned, hj, hh]
        simp [Table.get_update, hj]
      rw [hnext]
      rintro ⟨_, ⟨rfl⟩, hs⟩
      simp [VideoJob.failed, VideoJob.clearLease] at hs
  | releaseForRetry j' w τ available code =>
      simp only [hop] at h
      obtain ⟨rfl, job, hj, hh⟩ := h
      have hnext : (e.next s).jobs.get j' = some (job.released available code) := by
        simp only [next_jobs, hop, JobOp.exec, releaseForRetry, writeOwned, hj, hh]
        simp [Table.get_update, hj]
      rw [hnext]
      rintro ⟨_, ⟨rfl⟩, hs⟩
      simp [VideoJob.released, VideoJob.clearLease] at hs
  | _ => simp [hop] at h

/-- The step lemma: the cancellation survives exactly the events that do not
override it. -/
theorem cancelHeld_next_iff {s : JobState} {e : JobEvent} {j : String}
    (hop : e.op.ofProcessor) (hi : JobsInv s) (hs : CancelHeld j s) :
    CancelHeld j (e.next s) ↔ ¬ e.Overrides j s := by
  constructor
  · exact fun h ho => Overrides.lost ho h
  · intro hno
    obtain ⟨job, hj, hst⟩ := cancelHeld_iff.mp hs
    have hrow := hi job (Table.get_eq_some_iff.mp hj).1
    obtain ⟨job', hj', hstep⟩ := exec_rowStep e.time e.op hj
    refine cancelHeld_iff.mpr ⟨job', hj', ?_⟩
    rcases hstep with rfl | hc
    · exact hst
    rcases hst with hst | hst
    · rcases hc.cancelling hrow hst hop with hkept | ⟨w, τ, hh, hfail⟩
      · exact hkept
      · rw [(Table.get_eq_some_iff.mp hj).2] at hfail
        exact absurd (overrides_of_holder hj hh hfail) hno
    · rw [hc.of_terminal hrow (Or.inr (Or.inr hst))]
      exact Or.inr hst

theorem cancelled_absorbing {s : JobState} {es : List JobEvent} {j : String}
    (hv : jobSystem.Valid s es) (hi : JobsInv s) (hj : s.statusOf j = some .cancelled) :
    jobSystem.Always (fun s => s.statusOf j = some .cancelled) s es := by
  obtain ⟨job, hget, hst⟩ := statusOf_eq_some.mp hj
  exact (terminal_row_kept hv hi hget (Or.inr (Or.inr hst))).imp fun s h =>
    statusOf_eq_some.mpr ⟨job, h, hst⟩

/-- The state right after a `request_cancel` that found the job pending or running. -/
theorem requestCancel_held {s : JobState} {e : JobEvent} {j : String} {job : VideoJob}
    (hop : e.op = .requestCancel j) (hj : s.jobs.get j = some job)
    (hs : job.status = .pending ∨ job.status = .processing) : CancelHeld j (e.next s) := by
  refine cancelHeld_iff.mpr ⟨job.cancel e.time, ?_, ?_⟩
  · simp [hop, JobOp.exec, requestCancel, hj, Table.get_update]
  · rcases hs with hs | hs <;> simp [VideoJob.cancel, hs]

/-- After a `request_cancel` that took effect, whatever the workers do next
keeps the cancellation exactly if the lease holder never reports a failure. -/
theorem cancelKept_iff_no_override {s : JobState} {e : JobEvent} {j : String}
    {job : VideoJob} {es : List JobEvent} (hs : jobSystem.Reachable s)
    (hv : jobSystem.Valid s (e :: es)) (hop : e.op = .requestCancel j)
    (hj : s.jobs.get j = some job) (hst : job.status = .pending ∨ job.status = .processing)
    (hproc : ∀ e' ∈ es, e'.op.ofProcessor) :
    CancelKept j (e.next s) es ↔
      jobSystem.Meets (fun s e => ¬ e.Overrides j s) (e.next s) es := by
  have hi : JobsInv (e.next s) := jobsInv_preserved s e hv.1 (jobsInv_reachable hs)
  have hE := Machine.meets_and.mpr ⟨hv.2, Machine.meets_of_forall hproc⟩
  have hkept : jobSystem.Always (CancelHeld j) (e.next s) es ↔
      jobSystem.Meets (fun s e => ¬ e.Overrides j s) (e.next s) es :=
    Machine.always_iff_meets (fun s e h => jobsInv_preserved s e h.1)
      (fun _ _ h => cancelHeld_next_iff h.2) hE hi (requestCancel_held hop hj hst)
  rw [← hkept, CancelKept, and_iff_left_iff_imp]
  rintro - pre post rfl hcan
  obtain ⟨hpre, hpost⟩ := Machine.valid_append.mp hv.2
  exact cancelled_absorbing hpost (jobsInv_preserved.run hpre hi) hcan

/-- The worker sees the flag and stops: the cancellation is kept. -/
theorem cancelKept_iff_no_override_marked :
    let s := jobSystem.run (.start 0)
      [⟨0, .create (VideoUploadService.submit "job" "process" 3 0 0)⟩,
        ⟨1, .claimNext "worker" "lease" 10 1⟩]
    let e : JobEvent := ⟨2, .requestCancel "job"⟩
    CancelKept "job" (e.next s) [⟨3, .markCancelled "job" "worker" "lease"⟩] := by
  intro s e
  have hs : jobSystem.Reachable s := (JobState.start_reachable 0).run (by decide)
  refine (cancelKept_iff_no_override hs (by decide) rfl rfl (Or.inr rfl) ?_).mpr ?_
  · simp [JobOp.ofProcessor]
  · simp [JobEvent.Overrides]

/-- The native process fails while the cancellation is pending: the processor
releases the job for another attempt. -/
theorem cancellation_lost :
    ∃ s e es, jobSystem.Reachable s ∧ jobSystem.Valid s (e :: es) ∧
      (∃ j job, e.op = .requestCancel j ∧ s.jobs.get j = some job ∧
        job.status = .processing ∧
          (jobSystem.run (e.next s) es).statusOf j = some .pending) ∧
      ∀ e' ∈ es, e'.op.ofProcessor := by
  refine ⟨jobSystem.run (.start 0)
      [⟨0, .create (VideoUploadService.submit "job" "process" 3 0 0)⟩,
        ⟨1, .claimNext "worker" "lease" 10 1⟩],
    ⟨2, .requestCancel "job"⟩,
    [⟨3, .releaseForRetry "job" "worker" "lease" 30 "VIDEO_PIPELINE_ERROR"⟩],
    (JobState.start_reachable 0).run (by decide), by decide,
    ⟨"job", _, rfl, rfl, rfl, rfl⟩, by simp [JobOp.ofProcessor]⟩

end Mvision.Video
