import Mvision.Library.Fencing
import Mvision.Video.System

/-!
# Video jobs: leases fence stale workers

The row invariant ties the lease columns to the status.  From it: tokens are
fencing tokens (`jobs_fenced`), attempts are bounded, and the number of active
jobs never passes the admission limit.
-/

namespace Mvision.Video

open Mvision.Library
open VideoJobRepository
open VideoResultService

/-! ## The row invariant -/

/-- A claimed job has an expiry; any other job carries no lease at all; the
token of a lease was drawn by some claim. -/
structure RowInv (issued : List String) (job : VideoJob) : Prop where
  claimed : job.isClaimed = true → ∃ t, job.leaseExpiresAt = some t
  unclaimed : job.isClaimed = false →
    job.workerId = none ∧ job.leaseToken = none ∧ job.leaseExpiresAt = none
  attempts : job.attemptCount ≤ job.maxAttempts
  issued : ∀ τ, job.leaseToken = some τ → τ ∈ issued
  cancelling : job.status = .cancelling → job.cancellationRequested = true

theorem Submitted.rowInv {job : VideoJob} (h : Submitted job) (issued : List String) :
    RowInv issued job where
  claimed hc := by simp [h.status] at hc
  unclaimed _ := ⟨h.worker, h.token, h.expiry⟩
  attempts := h.attempts.le
  issued τ hτ := by simp [h.token] at hτ
  cancelling hc := by simp [h.status] at hc

theorem RowInv.mono {issued issued' : List String} {job : VideoJob}
    (h : RowInv issued job) (hsub : issued ⊆ issued') : RowInv issued' job where
  claimed := h.claimed
  unclaimed := h.unclaimed
  attempts := h.attempts
  issued τ hτ := hsub (h.issued τ hτ)
  cancelling := h.cancelling

/-- A job that left the claimed statuses with its lease cleared. -/
theorem RowInv.of_cleared {issued : List String} {job : VideoJob}
    (hs : job.isClaimed = false) (ha : job.attemptCount ≤ job.maxAttempts) :
    RowInv issued job.clearLease where
  claimed hc := by
    have : job.isClaimed = true := hc
    simp [hs] at this
  unclaimed _ := ⟨rfl, rfl, rfl⟩
  attempts := ha
  issued τ hτ := by cases hτ
  cancelling hc := by
    have : job.status = .cancelling := hc
    simp [VideoJob.isClaimed, this] at hs

theorem RowInv.cancel {issued : List String} {job : VideoJob} (h : RowInv issued job)
    (now : Timestamp) : RowInv issued (job.cancel now) := by
  unfold VideoJob.cancel
  split
  · rename_i hp
    have hu := h.unclaimed (by simp [VideoJob.isClaimed, hp])
    exact ⟨by simp, fun _ => hu, h.attempts, by simp [hu.2.1], by simp⟩
  · rename_i hp
    exact ⟨fun _ => h.claimed (by simp [hp]), by simp [VideoJob.isClaimed], h.attempts,
      h.issued, by simp⟩
  · exact h

theorem RowInv.settle {issued : List String} {job : VideoJob} (h : RowInv issued job)
    (now : Timestamp) : RowInv issued (job.settle now) := by
  unfold VideoJob.settle
  split
  · exact .of_cleared (by simp [VideoJob.isClaimed]) h.attempts
  · exact .of_cleared (by simp [VideoJob.isClaimed]) h.attempts

/-- The step lemma of the row invariant. -/
theorem RowInv.change {issued : List String} {now : Timestamp} {op : JobOp}
    {job job' : VideoJob} (h : RowInv issued job) (hc : RowChange now op job job') :
    RowInv (op.drawn ++ issued) job' := by
  have hsub : issued ⊆ op.drawn ++ issued := List.subset_append_right _ _
  cases hc with
  | claimed admits =>
      rw [VideoJob.claimAdmits_iff] at admits
      exact ⟨fun _ => ⟨_, rfl⟩, by simp [VideoJob.isClaimed, VideoJob.claim], admits.1,
        by simp [VideoJob.claim, JobOp.drawn], by simp [VideoJob.claim]⟩
  | settled => exact (h.settle now).mono hsub
  | renewed owns =>
      rw [VideoJob.ownsActiveLease_iff, VideoJob.isActive_iff] at owns
      refine RowInv.mono ⟨fun _ => ⟨_, rfl⟩, ?_, h.attempts, h.issued, h.cancelling⟩ hsub
      intro hu
      have : job.isClaimed = false := hu
      simp [VideoJob.isClaimed, owns.1.1] at this
  | progressed owns =>
      exact RowInv.mono ⟨h.claimed, h.unclaimed, h.attempts, h.issued, h.cancelling⟩ hsub
  | cancelled => exact (h.cancel now).mono hsub
  | completed holds =>
      exact .of_cleared (by simp [VideoJob.isClaimed]) h.attempts
  | finalized locks =>
      exact .of_cleared (by simp [VideoJob.isClaimed]) h.attempts
  | failed holds => exact .of_cleared (by simp [VideoJob.isClaimed]) h.attempts
  | markedCancelled holds => exact .of_cleared (by simp [VideoJob.isClaimed]) h.attempts
  | released holds => exact .of_cleared (by simp [VideoJob.isClaimed]) h.attempts

def JobsInv (s : JobState) : Prop := ∀ job ∈ s.jobs.rows, RowInv s.issued job

theorem jobsInv_init {s : JobState} (h : jobSystem.init s) : JobsInv s :=
  fun job hm => (h.1 job hm).rowInv s.issued

theorem jobsInv_preserved : jobSystem.Preserved JobsInv := by
  intro s e he hs job' hm
  rcases exec_row_cases hm with ⟨job, hj, -, rfl | hc⟩ | ⟨hop, -⟩
  · exact (hs _ hj).mono (List.subset_append_right _ _)
  · exact (hs job hj).change hc
  · have hsub : Submitted job' := by
      have := he.2
      rw [hop] at this
      exact this
    exact hsub.rowInv _

theorem jobsInv_reachable {s : JobState} (h : jobSystem.Reachable s) : JobsInv s :=
  jobsInv_preserved.reachable (fun _ => jobsInv_init) h

theorem attempts_bounded {s : JobState} (h : jobSystem.Reachable s) :
    ∀ job ∈ s.jobs.rows, job.attemptCount ≤ job.maxAttempts :=
  fun job hm => (jobsInv_reachable h job hm).attempts

/-! ## Stale tokens -/

/-- The token on the row of job `j`. -/
def JobState.holder (s : JobState) (j : String) : Option String :=
  (s.jobs.get j).bind (·.leaseToken)

/-- No operation but a claim puts a token on a row. -/
theorem RowChange.token {now : Timestamp} {op : JobOp} {job job' : VideoJob}
    (h : RowChange now op job job') :
    job'.leaseToken = job.leaseToken ∨ job'.leaseToken = none ∨
      ∃ τ ∈ op.drawn, job'.leaseToken = some τ := by
  cases h with
  | claimed => exact Or.inr (Or.inr ⟨_, List.mem_singleton.mpr rfl, rfl⟩)
  | settled =>
      refine Or.inr (Or.inl ?_)
      unfold VideoJob.settle
      split <;> rfl
  | cancelled =>
      left
      unfold VideoJob.cancel
      split <;> rfl
  | renewed => exact Or.inl rfl
  | progressed => exact Or.inl rfl
  | completed => exact Or.inr (Or.inl rfl)
  | finalized => exact Or.inr (Or.inl rfl)
  | failed => exact Or.inr (Or.inl rfl)
  | markedCancelled => exact Or.inr (Or.inl rfl)
  | released => exact Or.inr (Or.inl rfl)

theorem drawn_fresh {s : JobState} {e : JobEvent} (he : jobSystem.enabled s e) {τ : String}
    (h : τ ∈ e.op.drawn) : τ ∉ s.issued := by
  have he := he.2
  cases hop : e.op <;> simp only [hop, JobOp.drawn] at he h
  case claimNext => simpa [List.mem_singleton.mp h] using he
  all_goals cases h

/-- Lease tokens are fencing tokens. -/
theorem jobs_fenced :
    Fenced jobSystem JobsInv (fun s j τ => s.holder j = some τ) (fun s τ => τ ∈ s.issued) where
  preserved := jobsInv_preserved
  used_next s e τ _ h := List.mem_append_right _ h
  fresh s e j τ he _ hh := by
    obtain ⟨job', hget, htok⟩ := Option.bind_eq_some_iff.mp hh
    obtain ⟨hm, rfl⟩ := Table.get_eq_some_iff.mp hget
    rcases exec_row_cases hm with ⟨job, hj, hk, hstep⟩ | ⟨hop, -⟩
    · have hold : s.holder job'.jobId = job.leaseToken := by
        simp [JobState.holder, Table.get_eq_some_iff.mpr ⟨hj, hk⟩]
      rcases hstep with rfl | hc
      · exact Or.inl (hold.trans htok)
      · rcases hc.token with hsame | hnone | ⟨τ', hτ', hnew⟩
        · exact Or.inl (hold.trans (hsame.symm.trans htok))
        · simp [htok] at hnone
        · have : τ' = τ := Option.some.inj (hnew.symm.trans htok)
          exact Or.inr (this ▸ drawn_fresh he hτ')
    · -- a created row carries no token
      have hsub := he.2
      rw [hop] at hsub
      simp [Submitted.token hsub] at htok

/-- The lease an operation presents: job, worker and token. -/
def JobOp.presents : JobOp → Option (String × String × String)
  | .renewLease j w τ _ => some (j, w, τ)
  | .updateProgress j w τ _ _ _ => some (j, w, τ)
  | .lockOwned j w τ => some (j, w, τ)
  | .complete j w τ _ _ => some (j, w, τ)
  | .finalize j w τ _ _ => some (j, w, τ)
  | .fail j w τ _ => some (j, w, τ)
  | .markCancelled j w τ => some (j, w, τ)
  | .releaseForRetry j w τ _ _ => some (j, w, τ)
  | _ => none

/-- The method returned `False` or `None`. -/
def Outcome.Refused : Outcome → Prop
  | .wrote ok => ok = false
  | .locked job => job = none
  | _ => False

/-- An operation whose token is not on the row it names is refused. -/
theorem exec_refused {s : JobState} {op : JobOp} {j w τ : String} {now : Timestamp}
    (hp : op.presents = some (j, w, τ)) (hl : s.holder j ≠ some τ) :
    (op.exec now s.jobs).1.Refused ∧ (op.exec now s.jobs).2 = s.jobs := by
  have hrow : ∀ job, s.jobs.get j = some job → job.leaseToken ≠ some τ := by
    intro job hj ht
    exact hl (by simp [JobState.holder, hj, ht])
  have holds : ∀ job, s.jobs.get j = some job → job.holdsLease w τ = false := by
    intro job hj
    simp [VideoJob.holdsLease, hrow job hj]
  have owns : ∀ job, s.jobs.get j = some job → job.ownsActiveLease w τ now = false := by
    intro job hj
    simp [VideoJob.ownsActiveLease, hrow job hj]
  have locks : ∀ job, s.jobs.get j = some job → job.lockAdmits w τ now = false := by
    intro job hj
    simp [VideoJob.lockAdmits, owns job hj]
  cases op with
  | create => simp [JobOp.presents] at hp
  | claimNext => simp [JobOp.presents] at hp
  | settleExhausted => simp [JobOp.presents] at hp
  | requestCancel => simp [JobOp.presents] at hp
  | lockOwned j' w' τ' =>
      obtain ⟨rfl, rfl, rfl⟩ := by simpa [JobOp.presents] using hp
      refine ⟨?_, rfl⟩
      change (s.jobs.get j').filter _ = none
      cases hj : s.jobs.get j' with
      | none => rfl
      | some job => simp [Option.filter, locks job hj]
  | renewLease j' w' τ' expires =>
      obtain ⟨rfl, rfl, rfl⟩ := by simpa [JobOp.presents] using hp
      simp [JobOp.exec, renewLease, writeOwned_refused owns, Outcome.Refused]
  | updateProgress j' w' τ' stage percent frames =>
      obtain ⟨rfl, rfl, rfl⟩ := by simpa [JobOp.presents] using hp
      simp [JobOp.exec, updateProgress, writeOwned_refused owns, Outcome.Refused]
  | complete j' w' τ' persons frames =>
      obtain ⟨rfl, rfl, rfl⟩ := by simpa [JobOp.presents] using hp
      simp [JobOp.exec, complete, writeOwned_refused holds, Outcome.Refused]
  | finalize j' w' τ' persons frames =>
      obtain ⟨rfl, rfl, rfl⟩ := by simpa [JobOp.presents] using hp
      simp [JobOp.exec, finalize_eq, writeOwned_refused locks, Outcome.Refused]
  | fail j' w' τ' code =>
      obtain ⟨rfl, rfl, rfl⟩ := by simpa [JobOp.presents] using hp
      simp [JobOp.exec, fail, writeOwned_refused holds, Outcome.Refused]
  | markCancelled j' w' τ' =>
      obtain ⟨rfl, rfl, rfl⟩ := by simpa [JobOp.presents] using hp
      simp [JobOp.exec, markCancelled, writeOwned_refused holds, Outcome.Refused]
  | releaseForRetry j' w' τ' available code =>
      obtain ⟨rfl, rfl, rfl⟩ := by simpa [JobOp.presents] using hp
      simp [JobOp.exec, releaseForRetry, writeOwned_refused holds, Outcome.Refused]

/-- What a claim that returns a job has done: one row taken, all others kept. -/
theorem claimNext_some {w τ : String} {lease : Int} {limit : Nat} {now : Timestamp}
    {jobs : Jobs} {job : VideoJob}
    (h : (claimNext w τ lease limit now jobs).1 = some job) :
    (claimNext w τ lease limit now jobs).2.get job.jobId = some job ∧
      job.leaseToken = some τ ∧
        ∀ j, j ≠ job.jobId → (claimNext w τ lease limit now jobs).2.get j = jobs.get j := by
  unfold claimNext at h ⊢
  by_cases hfull : limit ≤ activeCount now jobs
  · simp [hfull] at h
  cases hc : claimCandidate now jobs with
  | none => simp [hfull, hc] at h
  | some pick =>
      obtain ⟨hm, -⟩ := claimCandidate_spec hc
      have hpick : jobs.get pick.jobId = some pick := Table.get_eq_some_iff.mpr ⟨hm, rfl⟩
      obtain rfl : pick.claim w τ now lease = job := by simpa [hfull, hc] using h
      simp only [hfull, if_false]
      refine ⟨?_, rfl, ?_⟩
      · simp [Table.get_update, hpick]
      · intro j hj
        rw [VideoJob.claim_jobId] at hj
        simp [Table.get_update, hj]

/-- The event claims job `j` for the token `τ`. -/
def JobEvent.Claims (s : JobState) (e : JobEvent) (j w τ : String) : Prop :=
  ∃ lease limit job, e.op = .claimNext w τ lease limit ∧
    (e.op.exec e.time s.jobs).1 = .claimed (some job) ∧ job.jobId = j

/-- The event ends whatever lease is on job `j`: the job is claimed again or
its lease columns are cleared. -/
def JobEvent.EndsLease (s : JobState) (e : JobEvent) (j : String) : Prop :=
  (∃ w τ, e.Claims s j w τ) ∨ (e.next s).holder j = none

theorem JobEvent.Claims.holder {s : JobState} {e : JobEvent} {j w τ : String}
    (h : e.Claims s j w τ) :
    (e.next s).holder j = some τ ∧ τ ∈ e.op.drawn ∧
      ∀ j', j' ≠ j → (e.next s).holder j' = s.holder j' := by
  obtain ⟨lease, limit, job, hop, hres, rfl⟩ := h
  rw [hop] at hres
  have hclaim : (VideoJobRepository.claimNext w τ lease limit e.time s.jobs).1 = some job := by
    simpa [JobOp.exec] using hres
  obtain ⟨hget, htok, hrest⟩ := claimNext_some hclaim
  refine ⟨?_, by simp [hop, JobOp.drawn], ?_⟩
  · simp [JobState.holder, hop, JobOp.exec, hget, htok]
  · intro j' hj'
    simp [JobState.holder, hop, JobOp.exec, hrest j' hj']

theorem issued_of_holder {s : JobState} (h : jobSystem.Reachable s) {j τ : String}
    (hh : s.holder j = some τ) : τ ∈ s.issued := by
  obtain ⟨job, hget, htok⟩ := Option.bind_eq_some_iff.mp hh
  exact (jobsInv_reachable h job (Table.get_eq_some_iff.mp hget).1).issued τ htok

/-- Once the lease of a claim has ended, its token is on no row ever again. -/
theorem ended_lease_lost {s : JobState} (hs : jobSystem.Reachable s)
    {c e : JobEvent} {mid post : List JobEvent}
    (hv : jobSystem.Valid s (c :: mid ++ e :: post)) {j w τ : String}
    (hc : c.Claims s j w τ)
    (he : e.EndsLease (jobSystem.run s (c :: mid)) j) (j' : String) :
    (jobSystem.run s (c :: mid ++ e :: post)).holder j' ≠ some τ := by
  obtain ⟨⟨hcen, hmid⟩, heen, -⟩ := Machine.valid_append.mp hv
  obtain ⟨hheld, hdrawn, hothers⟩ := hc.holder
  have hfresh : τ ∉ s.issued := drawn_fresh hcen hdrawn
  have hused : τ ∈ (c.next s).issued := List.mem_append_left _ hdrawn
  refine jobs_fenced.ended (i := j) hv (jobsInv_reachable hs) hused ?_ ?_ j'
  · intro j' hj'
    rw [jobSystem_next, hothers j' hj']
    exact fun hh => hfresh (issued_of_holder hs hh)
  · rcases he with ⟨w', τ', hagain⟩ | hcleared
    · obtain ⟨hnew, hdrawn', -⟩ := hagain.holder
      rw [jobSystem_next, hnew]
      rintro ⟨rfl⟩
      exact drawn_fresh heen hdrawn' (jobs_fenced.used_run hmid hused)
    · rw [jobSystem_next, hcleared]
      simp

/-! ## Admission -/

/-- Time alone only lets jobs drop out of the active ones. -/
theorem isActive_antitone {job : VideoJob} {t t' : Timestamp} (h : t ≤ t')
    (ha : job.isActive t' = true) : job.isActive t = true := by
  rw [VideoJob.isActive_iff] at ha ⊢
  obtain ⟨hs, x, hx, hle⟩ := ha
  exact ⟨hs, x, hx, h.trans hle⟩

theorem activeCount_antitone {jobs : Jobs} {t t' : Timestamp} (h : t ≤ t') :
    activeCount t' jobs ≤ activeCount t jobs :=
  List.countP_mono_left fun _ _ => isActive_antitone h

/-- Only a claim makes a job active. -/
theorem RowChange.active {now : Timestamp} {op : JobOp} {job job' : VideoJob}
    (h : RowChange now op job job')
    (hop : ∀ w τ lease limit, op ≠ .claimNext w τ lease limit)
    (ha : job'.isActive now = true) : job.isActive now = true := by
  cases h with
  | claimed => exact absurd rfl (hop _ _ _ _)
  | settled =>
      unfold VideoJob.settle at ha
      split at ha <;> simp [VideoJob.isActive, VideoJob.clearLease] at ha
  | renewed owns => exact (VideoJob.ownsActiveLease_iff.mp owns).1
  | progressed owns => exact (VideoJob.ownsActiveLease_iff.mp owns).1
  | cancelled =>
      unfold VideoJob.cancel at ha
      split at ha
      · simp [VideoJob.isActive, VideoJob.isClaimed] at ha
      · rename_i hp
        simpa [VideoJob.isActive, VideoJob.isClaimed, hp] using ha
      · exact ha
  | completed => simp [VideoJob.isActive, VideoJob.completed, VideoJob.clearLease] at ha
  | finalized => simp [VideoJob.isActive, VideoJob.completed, VideoJob.clearLease] at ha
  | failed => simp [VideoJob.isActive, VideoJob.failed, VideoJob.clearLease] at ha
  | markedCancelled =>
      simp [VideoJob.isActive, VideoJob.markedCancelled, VideoJob.clearLease] at ha
  | released => simp [VideoJob.isActive, VideoJob.released, VideoJob.clearLease] at ha

/-- Every claim of the run is made with the limit `M`. -/
def JobEvent.limitedTo (M : Nat) (e : JobEvent) : Prop :=
  ∀ w τ lease limit, e.op = .claimNext w τ lease limit → limit = M

theorem limitedTo_claimNext (now : Timestamp) (w τ : String) (lease : Int) (M : Nat) :
    (JobEvent.mk now (.claimNext w τ lease M)).limitedTo M := by
  rintro _ _ _ _ ⟨⟩
  rfl

def AdmissionBounded (M : Nat) (s : JobState) : Prop :=
  ∀ t, s.now ≤ t → activeCount t s.jobs ≤ M

theorem exec_activeCount_le {s : JobState} {e : JobEvent} (he : jobSystem.enabled s e)
    (hop : ∀ w τ lease limit, e.op ≠ .claimNext w τ lease limit) :
    activeCount e.time (e.next s).jobs ≤ activeCount e.time s.jobs := by
  rcases create_or_rewrites e.time s.jobs e.op with ⟨row, hrow⟩ | ⟨f, hrows, hstep⟩
  · have hsub : Submitted row := by
      have := he.2
      rw [hrow] at this
      exact this
    rw [next_jobs, hrow]
    by_cases hk : row.jobId ∈ s.jobs.rows.map VideoJob.jobId
    · simp [JobOp.exec, Table.insert_eq_self hk]
    · simp [JobOp.exec, activeCount, Table.insert_rows hk, VideoJob.isActive,
        VideoJob.isClaimed, hsub.status]
  · rw [next_jobs]
    unfold activeCount
    rw [hrows, List.countP_map]
    refine List.countP_mono_left ?_
    intro job hm ha
    rcases hstep job hm with heq | hc
    · simpa [heq] using ha
    · exact hc.active hop ha

theorem claimNext_activeCount_le {w τ : String} {lease : Int} {limit : Nat}
    {now : Timestamp} {jobs : Jobs} (h : activeCount now jobs ≤ limit) :
    activeCount now (claimNext w τ lease limit now jobs).2 ≤ limit := by
  unfold claimNext
  by_cases hfull : limit ≤ activeCount now jobs
  · simpa [hfull] using h
  cases hc : claimCandidate now jobs with
  | none => simpa [hfull] using h
  | some pick =>
      simp only [hfull, if_false]
      have hone : (jobs.update pick.jobId (·.claim w τ now lease)
            (·.claim_jobId w τ now lease)).rows.countP (VideoJob.isActive now) ≤
          jobs.rows.countP (VideoJob.isActive now) + 1 :=
        Table.countP_update_le fun _ _ h => h
      unfold activeCount at hfull ⊢
      omega

theorem admissionBounded_preserved (M : Nat) :
    jobSystem.PreservedUnder (fun _ e => e.limitedTo M) (AdmissionBounded M) := by
  intro s e he hlim hs t ht
  have hbefore : activeCount e.time s.jobs ≤ M := hs e.time (enabled_time he)
  refine (activeCount_antitone ht).trans ?_
  by_cases hclaim : ∃ w τ lease limit, e.op = .claimNext w τ lease limit
  · obtain ⟨w, τ, lease, limit, hop⟩ := hclaim
    obtain rfl := hlim w τ lease limit hop
    rw [jobSystem_next, next_now, next_jobs, hop]
    exact claimNext_activeCount_le hbefore
  · refine (exec_activeCount_le he ?_).trans hbefore
    exact fun w τ lease limit hop => hclaim ⟨w, τ, lease, limit, hop⟩

theorem admissionBounded_init {M : Nat} {s : JobState} (h : jobSystem.init s) :
    AdmissionBounded M s := by
  intro t _
  have hnone : activeCount t s.jobs = 0 := by
    unfold activeCount
    rw [List.countP_eq_zero]
    intro job hm
    simp [VideoJob.isActive, VideoJob.isClaimed, (h.1 job hm).status]
  omega

/-- Leases fence stale workers: an operation that presents an ended lease is
refused and changes nothing, attempts stay within their bound, and a common
admission limit is never passed. -/
theorem leases_fence_stale_workers :
    (∀ s, jobSystem.Reachable s → ∀ c mid e post,
      jobSystem.Valid s (c :: mid ++ e :: post) → ∀ j w τ, c.Claims s j w τ →
        e.EndsLease (jobSystem.run s (c :: mid)) j →
          ∀ (op : JobOp) j', op.presents = some (j', w, τ) → ∀ now,
            (op.exec now (jobSystem.run s (c :: mid ++ e :: post)).jobs).1.Refused ∧
              (op.exec now (jobSystem.run s (c :: mid ++ e :: post)).jobs).2 =
                (jobSystem.run s (c :: mid ++ e :: post)).jobs) ∧
    (∀ s, jobSystem.Reachable s → ∀ job ∈ s.jobs.rows,
      job.attemptCount ≤ job.maxAttempts) ∧
    (∀ M s es, jobSystem.init s → jobSystem.Valid s es →
      jobSystem.Meets (fun _ e => e.limitedTo M) s es →
        jobSystem.Always (AdmissionBounded M) s es) := by
  refine ⟨?_, fun s hs => attempts_bounded hs, ?_⟩
  · intro s hs c mid e post hv j w τ hc he op j' hp now
    exact exec_refused hp (ended_lease_lost hs hv hc he j')
  · intro M s es hi hv hm
    exact (admissionBounded_preserved M).always hv hm (admissionBounded_init hi)

/-- Two workers, one job: the first lets its lease expire, the second takes
the job over, and the result of the first is refused. -/
theorem leases_fence_stale_workers_takeover :
    let submit : JobEvent :=
      ⟨0, .create (VideoUploadService.submit "job" "process" 2 0 0)⟩
    let first : JobEvent := ⟨0, .claimNext "worker-1" "lease-1" 10 1⟩
    let second : JobEvent := ⟨timedelta 11, .claimNext "worker-2" "lease-2" 10 1⟩
    let s := jobSystem.run (.start 0) [submit]
    let s' := jobSystem.run s [first, second]
    (complete "job" "worker-1" "lease-1" 4 100 (timedelta 12) s'.jobs = (false, s'.jobs)) ∧
      (∀ job ∈ s'.jobs.rows, job.attemptCount ≤ job.maxAttempts) ∧
        activeCount (timedelta 11) s'.jobs ≤ 1 := by
  intro submit first second s s'
  obtain ⟨hstale, hattempts, hlimit⟩ := leases_fence_stale_workers
  have hsubmit : jobSystem.Valid (.start 0) [submit] := by decide
  have hs : jobSystem.Reachable s := (JobState.start_reachable 0).run hsubmit
  have hv : jobSystem.Valid s [first, second] := by decide
  have hclaim : first.Claims s "job" "worker-1" "lease-1" := ⟨10, 1, _, rfl, rfl, rfl⟩
  have hends : second.EndsLease (jobSystem.run s [first]) "job" :=
    Or.inl ⟨"worker-2", "lease-2", 10, 1, _, rfl, rfl, rfl⟩
  refine ⟨?_, hattempts s' (hs.run hv), ?_⟩
  · obtain ⟨hret, htab⟩ := hstale s hs first [] second [] hv "job" "worker-1" "lease-1"
      hclaim hends (.complete "job" "worker-1" "lease-1" 4 100) "job" rfl (timedelta 12)
    exact Prod.ext hret htab
  · have hall := hlimit 1 (.start 0) [submit, first, second]
      ⟨by simp [JobState.start, Table.empty], rfl⟩ (by decide)
      ⟨by simp [JobEvent.limitedTo, submit], limitedTo_claimNext _ _ _ _ _,
        limitedTo_claimNext _ _ _ _ _,
        trivial⟩
    exact hall.last (timedelta 11) (le_refl _)

end Mvision.Video
