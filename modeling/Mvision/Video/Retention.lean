import Mvision.Library.Machine
import Mvision.Video.Source

/-!
# Retention of the sources: `VideoJobService.cleanup_expired_sources`

Submissions, workers, requests for a source and passes of cleaning run next to each other.  A pass
claims expired rows, which stay locked up to its commit, deletes their objects one after the other
and marks the rows then.  A request reads its row first and the bytes later on.
-/

namespace Mvision.Video

open Mvision.Library

/-! ## A pass -/

/-- The columns of a row that nothing rewrites. -/
structure SourceRef where
  jobId : String
  sourceObjectKey : String
  sourceRetentionUntil : Timestamp
deriving DecidableEq, Repr

def RetainedJob.ref (job : RetainedJob) : SourceRef :=
  ⟨job.jobId, job.sourceObjectKey, job.sourceRetentionUntil⟩

/-- `source_deleted_at IS NULL AND source_retention_until <= now` -/
def RetainedJob.expired (job : RetainedJob) (now : Timestamp) : Bool :=
  decide (job.sourceDeletedAt = none ∧ job.sourceRetentionUntil ≤ now)

/-- `claim_expired_sources`, which skips the rows that are locked. -/
def claimExpiredSources (jobs : RetainedJobs) (locked : List String) (now : Timestamp)
    (limit : Nat) : List RetainedJob :=
  ((jobs.rows.filter fun job => job.expired now && !locked.contains job.jobId).insertionSort
    fun a b => a.sourceRetentionUntil ≤ b.sourceRetentionUntil).take limit

/-- How `remove_object` ends. -/
inductive Removal where
  | removed
  /-- It raises, and the object is gone. -/
  | lost
  /-- It raises, and the object is there. -/
  | refused
deriving DecidableEq, Repr

/-- `delete_video`: whether it returns, and the objects. -/
def deleteVideo (objects : String → Option (List UInt8)) (objectKey : String)
    (removal : Removal) : Bool × (String → Option (List UInt8)) :=
  if videoObjectKey objectKey = false then (false, objects)
  else
    match removal with
    | .removed => (true, Function.update objects objectKey none)
    | .lost => (false, Function.update objects objectKey none)
    | .refused => (false, objects)

/-- A pass of `cleanup_expired_sources` between its claim and its commit. -/
structure Cleanup where
  now : Timestamp
  locked : List String
  claimed : List RetainedJob
  deleted : List String
deriving DecidableEq

def Cleanup.start (now : Timestamp) (claimed : List RetainedJob) : Cleanup where
  now := now
  locked := claimed.map fun job => job.jobId
  claimed := claimed
  deleted := []

/-- One turn of the loop over the claimed rows. -/
def Cleanup.delete (cleanup : Cleanup) (objects : String → Option (List UInt8))
    (removal : Removal) : Cleanup × (String → Option (List UInt8)) :=
  match cleanup.claimed with
  | [] => (cleanup, objects)
  | job :: rest =>
      let attempt := deleteVideo objects job.sourceObjectKey removal
      ({ cleanup with
          claimed := rest
          deleted := if attempt.1 then cleanup.deleted ++ [job.jobId] else cleanup.deleted },
        attempt.2)

/-- `job.source_deleted_at = now` -/
def markDeleted (jobs : RetainedJobs) (deleted : List String) (now : Timestamp) : RetainedJobs :=
  jobs.updateWhere (fun job => decide (job.jobId ∈ deleted))
    (fun job => { job with sourceDeletedAt := some now }) fun _ => rfl

/-! ## Passes, requests and submissions next to each other -/

structure RetentionState where
  now : Timestamp
  jobs : RetainedJobs
  objects : String → Option (List UInt8)
  cleanups : List Cleanup
  opened : List OpenSource
  answers : List (OpenSource × SourceResponse)

def RetentionState.start (now : Timestamp) : RetentionState :=
  ⟨now, .empty, fun _ => none, [], [], []⟩

inductive RetentionStep where
  | wait (now : Timestamp)
  /-- `upload_video` of a submission, under its key. -/
  | store (objectKey : String)
  /-- The `finally` of a submission that has no row. -/
  | withdraw (objectKey : String)
  /-- The row of a submission. -/
  | submit (job : RetainedJob)
  /-- Any other write to the row of a job. -/
  | work (job : VideoJob)
  | claim (limit : Nat)
  | delete (index : Nat) (removal : Removal)
  | commit (index : Nat)
  /-- A pass that ends before its commit. -/
  | abort (index : Nat)
  | request (jobId : String) (rangeHeader : Option String)
  | read (index : Nat)

section System

variable (digits : Python.DecimalDigits) (uploaded : String → List UInt8)

/-- Keys are drawn for one submission, and what it stores has bytes. -/
def RetentionStep.enabled (s : RetentionState) : RetentionStep → Prop
  | .wait now => s.now ≤ now
  | .store objectKey =>
      videoObjectKey objectKey = true ∧ uploaded objectKey ≠ [] ∧
        ∀ job ∈ s.jobs.rows, job.sourceObjectKey ≠ objectKey
  | .withdraw objectKey => ∀ job ∈ s.jobs.rows, job.sourceObjectKey ≠ objectKey
  | .submit job =>
      job.sourceDeletedAt = none ∧ (s.objects job.sourceObjectKey).isSome = true ∧
        job.sourceSize = (uploaded job.sourceObjectKey).length ∧
        ∀ other ∈ s.jobs.rows, other.jobId ≠ job.jobId ∧
          other.sourceObjectKey ≠ job.sourceObjectKey
  | .delete index _ => s.cleanups[index]?.any (fun cleanup => !cleanup.claimed.isEmpty) = true
  | .commit index => s.cleanups[index]?.any (fun cleanup => cleanup.claimed.isEmpty) = true
  | .work _ | .claim _ | .abort _ | .request _ _ | .read _ => True

instance RetentionStep.decidableEnabled (s : RetentionState) (a : RetentionStep) :
    Decidable (a.enabled uploaded s) := by
  unfold RetentionStep.enabled
  cases a <;> infer_instance

def RetentionState.deleteNext (s : RetentionState) (index : Nat) (removal : Removal) :
    RetentionState :=
  match s.cleanups[index]? with
  | none => s
  | some cleanup =>
      { s with
        objects := (cleanup.delete s.objects removal).2
        cleanups := s.cleanups.set index (cleanup.delete s.objects removal).1 }

def RetentionState.commit (s : RetentionState) (index : Nat) : RetentionState :=
  match s.cleanups[index]? with
  | none => s
  | some cleanup =>
      { s with
        jobs := markDeleted s.jobs cleanup.deleted cleanup.now
        cleanups := s.cleanups.eraseIdx index }

def RetentionState.request (s : RetentionState) (jobId : String) (rangeHeader : Option String) :
    RetentionState :=
  match openSource digits s.jobs s.now jobId rangeHeader with
  | .ok opened => { s with opened := s.opened ++ [opened] }
  | .error _ => s

def RetentionState.read (s : RetentionState) (index : Nat) : RetentionState :=
  match s.opened[index]? with
  | none => s
  | some opened =>
      match opened.read s.objects with
      | .ok data =>
          { s with
            opened := s.opened.eraseIdx index
            answers := s.answers ++ [(opened, opened.respond data)] }
      | .error _ => { s with opened := s.opened.eraseIdx index }

/-- The writes of the workers leave the columns of the source alone. -/
def writeJob (jobs : RetainedJobs) (job : VideoJob) : RetainedJobs :=
  jobs.update job.jobId
    (fun row => { row with toVideoJob := { job with jobId := row.jobId } }) fun _ => rfl

def RetentionStep.next (s : RetentionState) : RetentionStep → RetentionState
  | .wait now => { s with now := now }
  | .store objectKey =>
      { s with objects := Function.update s.objects objectKey (some (uploaded objectKey)) }
  | .withdraw objectKey => { s with objects := Function.update s.objects objectKey none }
  | .submit job => { s with jobs := s.jobs.insert job }
  | .work job => { s with jobs := writeJob s.jobs job }
  | .claim limit =>
      { s with
        cleanups := s.cleanups ++
          [Cleanup.start s.now (claimExpiredSources s.jobs
            (s.cleanups.flatMap fun cleanup => cleanup.locked) s.now limit)] }
  | .delete index removal => s.deleteNext index removal
  | .commit index => s.commit index
  | .abort index => { s with cleanups := s.cleanups.eraseIdx index }
  | .request jobId rangeHeader => s.request digits jobId rangeHeader
  | .read index => s.read index

/-- The bytes under a key are those of its submission. -/
def retention : Machine RetentionState RetentionStep where
  init s := ∃ now, s = RetentionState.start now
  enabled s a := a.enabled uploaded s
  next s a := a.next digits uploaded s

instance decidableRetention (s : RetentionState) (a : RetentionStep) :
    Decidable ((retention digits uploaded).enabled s a) :=
  inferInstanceAs (Decidable (a.enabled uploaded s))

end System

/-! ## What is kept -/

/-- The bytes from `offset` to `last`. -/
def slice (content : List UInt8) (offset last : Int) : List UInt8 :=
  (content.drop offset.toNat).take (last - offset + 1).toNat

section Invariant

variable (uploaded : String → List UInt8)

/-- A row and its object. -/
structure SourceKept (now : Timestamp) (objects : String → Option (List UInt8))
    (job : RetainedJob) : Prop where
  size : job.sourceSize = (uploaded job.sourceObjectKey).length
  key : videoObjectKey job.sourceObjectKey = true
  nonempty : uploaded job.sourceObjectKey ≠ []
  kept : objects job.sourceObjectKey = none → job.sourceRetentionUntil ≤ now
  gone : ∀ deletedAt, job.sourceDeletedAt = some deletedAt →
    objects job.sourceObjectKey = none ∧ job.sourceRetentionUntil ≤ deletedAt ∧ deletedAt ≤ now

/-- A pass has claimed and deleted what was due when it began. -/
structure CleanupKept (now : Timestamp) (jobs : RetainedJobs)
    (objects : String → Option (List UInt8)) (cleanup : Cleanup) : Prop where
  past : cleanup.now ≤ now
  claimed : ∀ job ∈ cleanup.claimed, job.sourceRetentionUntil ≤ cleanup.now ∧
    ∃ row ∈ jobs.rows, row.ref = job.ref
  deleted : ∀ jobId ∈ cleanup.deleted, ∃ row ∈ jobs.rows, row.jobId = jobId ∧
    row.sourceRetentionUntil ≤ cleanup.now ∧ objects row.sourceObjectKey = none

/-- The range of a request is inside of the upload. -/
structure RequestKept (opened : OpenSource) : Prop where
  offset : 0 ≤ opened.offset
  le : opened.offset ≤ opened.last
  last : opened.last < (uploaded opened.job.sourceObjectKey).length

structure RetentionKept (s : RetentionState) : Prop where
  rows : ∀ job ∈ s.jobs.rows, SourceKept uploaded s.now s.objects job
  keys : ∀ a ∈ s.jobs.rows, ∀ b ∈ s.jobs.rows,
    a.sourceObjectKey = b.sourceObjectKey → a.jobId = b.jobId
  objects : ∀ objectKey content, s.objects objectKey = some content →
    content = uploaded objectKey ∧ content ≠ [] ∧ videoObjectKey objectKey = true
  cleanups : ∀ cleanup ∈ s.cleanups, CleanupKept s.now s.jobs s.objects cleanup
  opened : ∀ opened ∈ s.opened, RequestKept uploaded opened
  answers : ∀ answer ∈ s.answers, RequestKept uploaded answer.1 ∧
    answer.2.data = slice (uploaded answer.1.job.sourceObjectKey) answer.1.offset answer.1.last

/-- Rows stay, and what is gone of a row stays gone. -/
structure Later (s t : RetentionState) : Prop where
  now : s.now ≤ t.now
  rows : ∀ row ∈ s.jobs.rows, ∃ row' ∈ t.jobs.rows, row'.ref = row.ref
  gone : ∀ row ∈ s.jobs.rows, s.objects row.sourceObjectKey = none →
    t.objects row.sourceObjectKey = none

end Invariant

section Steps

variable {digits : Python.DecimalDigits} {uploaded : String → List UInt8}
  {s t : RetentionState} {cleanup : Cleanup} {job row : RetainedJob}

theorem ref_eq_iff :
    row.ref = job.ref ↔ row.jobId = job.jobId ∧ row.sourceObjectKey = job.sourceObjectKey ∧
      row.sourceRetentionUntil = job.sourceRetentionUntil := by
  unfold RetainedJob.ref
  rw [SourceRef.mk.injEq]

theorem CleanupKept.later (h : CleanupKept s.now s.jobs s.objects cleanup) (hlater : Later s t) :
    CleanupKept t.now t.jobs t.objects cleanup where
  past := h.past.trans hlater.now
  claimed := by
    intro job hjob
    obtain ⟨hdue, row, hrow, href⟩ := h.claimed job hjob
    obtain ⟨row', hrow', href'⟩ := hlater.rows row hrow
    exact ⟨hdue, row', hrow', href'.trans href⟩
  deleted := by
    intro jobId hjobId
    obtain ⟨row, hrow, hid, hdue, hgone⟩ := h.deleted jobId hjobId
    obtain ⟨row', hrow', href⟩ := hlater.rows row hrow
    obtain ⟨hid', hkey, huntil⟩ := ref_eq_iff.mp href
    refine ⟨row', hrow', hid'.trans hid, huntil.trans_le hdue, ?_⟩
    rw [hkey]
    exact hlater.gone row hrow hgone

theorem Later.of_rows (hnow : s.now ≤ t.now) (hjobs : t.jobs = s.jobs)
    (hgone : ∀ row ∈ s.jobs.rows, s.objects row.sourceObjectKey = none →
      t.objects row.sourceObjectKey = none) : Later s t where
  now := hnow
  rows := fun row hrow => ⟨row, hjobs ▸ hrow, rfl⟩
  gone := hgone

theorem Later.of_objects (hnow : s.now ≤ t.now) (hobjects : t.objects = s.objects)
    (hrows : ∀ row ∈ s.jobs.rows, ∃ row' ∈ t.jobs.rows, row'.ref = row.ref) : Later s t where
  now := hnow
  rows := hrows
  gone := fun _ _ h => hobjects ▸ h

/-- The row of an object that a pass may delete is due. -/
theorem SourceKept.deleted {now : Timestamp} {objects : String → Option (List UInt8)}
    (h : SourceKept uploaded now objects row) {objectKey : String}
    (hdue : row.sourceObjectKey = objectKey → row.sourceRetentionUntil ≤ now) :
    SourceKept uploaded now (Function.update objects objectKey none) row := by
  refine { h with kept := ?_, gone := ?_ }
  · intro hnone
    by_cases hkey : row.sourceObjectKey = objectKey
    · exact hdue hkey
    · rw [Function.update_of_ne hkey] at hnone
      exact h.kept hnone
  · intro deletedAt hdeleted
    obtain ⟨hgone, huntil, hpast⟩ := h.gone deletedAt hdeleted
    refine ⟨?_, huntil, hpast⟩
    by_cases hkey : row.sourceObjectKey = objectKey
    · rw [hkey, Function.update_self]
    · rw [Function.update_of_ne hkey, hgone]

/-- Objects of no row may come and go. -/
theorem SourceKept.other {now : Timestamp} {objects : String → Option (List UInt8)}
    (h : SourceKept uploaded now objects row) {objectKey : String}
    {content : Option (List UInt8)} (hkey : row.sourceObjectKey ≠ objectKey) :
    SourceKept uploaded now (Function.update objects objectKey content) row := by
  refine { h with kept := ?_, gone := ?_ }
  · rw [Function.update_of_ne hkey]
    exact h.kept
  · rw [Function.update_of_ne hkey]
    exact h.gone

theorem SourceKept.later {now now' : Timestamp} {objects : String → Option (List UInt8)}
    (h : SourceKept uploaded now objects row) (hle : now ≤ now') :
    SourceKept uploaded now' objects row := by
  refine { h with kept := ?_, gone := ?_ }
  · exact fun hnone => (h.kept hnone).trans hle
  · intro deletedAt hdeleted
    obtain ⟨hgone, huntil, hpast⟩ := h.gone deletedAt hdeleted
    exact ⟨hgone, huntil, hpast.trans hle⟩

theorem kept_wait (h : RetentionKept uploaded s) {now : Timestamp} (hle : s.now ≤ now) :
    RetentionKept uploaded { s with now := now } := by
  have hlater : Later s { s with now := now } := Later.of_rows hle rfl fun _ _ hgone => hgone
  exact { h with
    rows := fun job hjob => (h.rows job hjob).later hle
    cleanups := fun cleanup hcleanup => (h.cleanups cleanup hcleanup).later hlater }

/-- A submission writes under a key without a row. -/
theorem kept_object (h : RetentionKept uploaded s) {objectKey : String}
    {content : Option (List UInt8)} (hrow : ∀ job ∈ s.jobs.rows, job.sourceObjectKey ≠ objectKey)
    (hcontent : ∀ bytes, content = some bytes → bytes = uploaded objectKey ∧ bytes ≠ [] ∧
      videoObjectKey objectKey = true) :
    RetentionKept uploaded { s with objects := Function.update s.objects objectKey content } := by
  have hlater : Later s { s with objects := Function.update s.objects objectKey content } := by
    refine Later.of_rows le_rfl rfl fun row hmem hgone => ?_
    exact (Function.update_of_ne (hrow row hmem) content s.objects).trans hgone
  refine { h with rows := ?_, objects := ?_, cleanups := ?_ }
  · exact fun job hjob => (h.rows job hjob).other (hrow job hjob)
  · intro key bytes hbytes
    by_cases hkey : key = objectKey
    · subst hkey
      exact hcontent bytes ((Function.update_self key content s.objects).symm.trans hbytes)
    · exact h.objects key bytes ((Function.update_of_ne hkey content s.objects).symm.trans hbytes)
  · exact fun cleanup hcleanup => (h.cleanups cleanup hcleanup).later hlater

theorem kept_submit (h : RetentionKept uploaded s)
    (henabled : (RetentionStep.submit job).enabled uploaded s) :
    RetentionKept uploaded { s with jobs := s.jobs.insert job } := by
  obtain ⟨hdeleted, hobject, hsize, hfresh⟩ := henabled
  obtain ⟨content, hcontent⟩ := Option.isSome_iff_exists.mp hobject
  obtain ⟨rfl, hnonempty, hkey⟩ := h.objects _ content hcontent
  have hnew : job.jobId ∉ s.jobs.rows.map fun row => row.jobId := by
    intro hmem
    obtain ⟨other, hother, hid⟩ := List.mem_map.mp hmem
    exact (hfresh other hother).1 hid
  have hrows : (s.jobs.insert job).rows = s.jobs.rows ++ [job] := Table.insert_rows hnew
  have hlater : Later s { s with jobs := s.jobs.insert job } := by
    refine Later.of_objects le_rfl rfl fun row hrow => ⟨row, ?_, rfl⟩
    show row ∈ (s.jobs.insert job).rows
    rw [hrows]
    exact List.mem_append_left _ hrow
  refine { h with rows := ?_, keys := ?_, cleanups := ?_ }
  · intro row hrow
    rcases List.mem_append.mp (hrows ▸ hrow) with hold | hrow
    · exact h.rows row hold
    · obtain rfl := List.mem_singleton.mp hrow
      refine ⟨hsize, hkey, hnonempty, fun hnone => ?_, fun deletedAt hmarked => ?_⟩
      · rw [hcontent] at hnone
        cases hnone
      · rw [hdeleted] at hmarked
        cases hmarked
  · intro a ha b hb hab
    rcases List.mem_append.mp (hrows ▸ ha) with holdA | hnewA
    · rcases List.mem_append.mp (hrows ▸ hb) with holdB | hnewB
      · exact h.keys a holdA b holdB hab
      · rw [List.mem_singleton.mp hnewB] at hab
        exact absurd hab (hfresh a holdA).2
    · rw [List.mem_singleton.mp hnewA] at hab ⊢
      rcases List.mem_append.mp (hrows ▸ hb) with holdB | hnewB
      · exact absurd hab.symm (hfresh b holdB).2
      · rw [List.mem_singleton.mp hnewB]
  · exact fun cleanup hcleanup => (h.cleanups cleanup hcleanup).later hlater

/-- Rows may be rewritten but for the columns of their source, and be marked once the object is
gone. -/
theorem kept_map (h : RetentionKept uploaded s) {f : RetainedJob → RetainedJob}
    {jobs : RetainedJobs} (hjobs : jobs.rows = s.jobs.rows.map f)
    (href : ∀ row, (f row).ref = row.ref) (hsize : ∀ row, (f row).sourceSize = row.sourceSize)
    (hmarked : ∀ row ∈ s.jobs.rows, ∀ deletedAt, (f row).sourceDeletedAt = some deletedAt →
      s.objects row.sourceObjectKey = none ∧ row.sourceRetentionUntil ≤ deletedAt ∧
        deletedAt ≤ s.now) :
    RetentionKept uploaded { s with jobs := jobs } := by
  have hmem : ∀ row', row' ∈ jobs.rows → ∃ row ∈ s.jobs.rows, f row = row' := by
    intro row' hrow'
    rw [hjobs] at hrow'
    exact List.mem_map.mp hrow'
  have hlater : Later s { s with jobs := jobs } := by
    refine Later.of_objects le_rfl rfl fun row hrow => ⟨f row, ?_, href row⟩
    show f row ∈ jobs.rows
    rw [hjobs]
    exact List.mem_map_of_mem hrow
  refine { h with rows := ?_, keys := ?_, cleanups := ?_ }
  · intro row' hrow'
    obtain ⟨row, hrow, rfl⟩ := hmem row' hrow'
    obtain ⟨-, hkey, huntil⟩ := ref_eq_iff.mp (href row)
    have hkept := h.rows row hrow
    refine ⟨?_, ?_, ?_, ?_, ?_⟩
    · rw [hsize, hkey, hkept.size]
    · rw [hkey, hkept.key]
    · rw [hkey]
      exact hkept.nonempty
    · rw [hkey, huntil]
      exact hkept.kept
    · rw [hkey, huntil]
      exact hmarked row hrow
  · intro a' ha' b' hb' hab
    obtain ⟨a, ha, rfl⟩ := hmem a' ha'
    obtain ⟨b, hb, rfl⟩ := hmem b' hb'
    rw [(ref_eq_iff.mp (href a)).2.1, (ref_eq_iff.mp (href b)).2.1] at hab
    rw [(ref_eq_iff.mp (href a)).1, (ref_eq_iff.mp (href b)).1]
    exact h.keys a ha b hb hab
  · exact fun cleanup hcleanup => (h.cleanups cleanup hcleanup).later hlater

theorem kept_work (h : RetentionKept uploaded s) (job : VideoJob) :
    RetentionKept uploaded { s with jobs := writeJob s.jobs job } := by
  refine kept_map h (Table.update_rows s.jobs job.jobId _ _) (fun row => ?_) (fun row => ?_)
    fun row hrow deletedAt hmarked => ?_
  · split_ifs with hid
    · exact ref_eq_iff.mpr ⟨rfl, rfl, rfl⟩
    · rfl
  · split_ifs
    · rfl
    · rfl
  · apply (h.rows row hrow).gone deletedAt
    split_ifs at hmarked
    · exact hmarked
    · exact hmarked

theorem claimExpiredSources_spec {jobs : RetainedJobs} {locked : List String} {now : Timestamp}
    {limit : Nat} (h : job ∈ claimExpiredSources jobs locked now limit) :
    job ∈ jobs.rows ∧ job.sourceDeletedAt = none ∧ job.sourceRetentionUntil ≤ now := by
  have hsorted := List.mem_of_mem_take h
  rw [List.mem_insertionSort, List.mem_filter, Bool.and_eq_true] at hsorted
  exact ⟨hsorted.1, of_decide_eq_true hsorted.2.1⟩

theorem kept_claim (h : RetentionKept uploaded s) (locked : List String) (limit : Nat) :
    RetentionKept uploaded { s with
      cleanups := s.cleanups ++
        [Cleanup.start s.now (claimExpiredSources s.jobs locked s.now limit)] } := by
  refine { h with cleanups := ?_ }
  intro cleanup hcleanup
  rcases List.mem_append.mp hcleanup with hold | hnew
  · exact (h.cleanups cleanup hold).later (Later.of_rows le_rfl rfl fun _ _ hgone => hgone)
  · obtain rfl := List.mem_singleton.mp hnew
    refine ⟨le_rfl, fun job hjob => ?_, fun jobId hjobId => ?_⟩
    · obtain ⟨hrow, -, hdue⟩ := claimExpiredSources_spec hjob
      exact ⟨hdue, job, hrow, rfl⟩
    · cases hjobId

/-! ### Deletions -/

/-- `delete_video` returns only if the object is gone, and it touches no other one. -/
theorem deleteVideo_spec (objects : String → Option (List UInt8)) (objectKey : String)
    (removal : Removal) :
    ((deleteVideo objects objectKey removal).2 = objects ∨
        (deleteVideo objects objectKey removal).2 = Function.update objects objectKey none) ∧
      ((deleteVideo objects objectKey removal).1 = true →
        (deleteVideo objects objectKey removal).2 objectKey = none) := by
  unfold deleteVideo
  split_ifs
  · exact ⟨.inl rfl, fun hreturned => nomatch hreturned⟩
  · cases removal with
    | removed => exact ⟨.inr rfl, fun _ => Function.update_self objectKey none objects⟩
    | lost => exact ⟨.inr rfl, fun hreturned => nomatch hreturned⟩
    | refused => exact ⟨.inl rfl, fun hreturned => nomatch hreturned⟩

/-- The objects of a state without the one of a row that is due. -/
theorem kept_without (h : RetentionKept uploaded s) {objectKey : String}
    (hdue : ∀ row ∈ s.jobs.rows, row.sourceObjectKey = objectKey →
      row.sourceRetentionUntil ≤ s.now) :
    RetentionKept uploaded { s with objects := Function.update s.objects objectKey none } := by
  have hlater : Later s { s with objects := Function.update s.objects objectKey none } := by
    refine Later.of_rows le_rfl rfl fun row _ hgone => ?_
    by_cases hkey : row.sourceObjectKey = objectKey
    · exact hkey ▸ Function.update_self row.sourceObjectKey none s.objects
    · exact (Function.update_of_ne hkey none s.objects).trans hgone
  refine { h with rows := ?_, objects := ?_, cleanups := ?_ }
  · exact fun job hjob => (h.rows job hjob).deleted (hdue job hjob)
  · intro key bytes hbytes
    by_cases hkey : key = objectKey
    · subst hkey
      have hnone := (Function.update_self key none s.objects).symm.trans hbytes
      cases hnone
    · exact h.objects key bytes ((Function.update_of_ne hkey none s.objects).symm.trans hbytes)
  · exact fun cleanup hcleanup => (h.cleanups cleanup hcleanup).later hlater

/-- One turn of the loop deletes at most the object of a claimed row. -/
theorem Cleanup.delete_spec (cleanup : Cleanup) (objects : String → Option (List UInt8))
    (removal : Removal) :
    (cleanup.delete objects removal).1.now = cleanup.now ∧
      (∀ job ∈ (cleanup.delete objects removal).1.claimed, job ∈ cleanup.claimed) ∧
      ((cleanup.delete objects removal).2 = objects ∨ ∃ job ∈ cleanup.claimed,
        (cleanup.delete objects removal).2 =
          Function.update objects job.sourceObjectKey none) ∧
      ∀ jobId ∈ (cleanup.delete objects removal).1.deleted, jobId ∈ cleanup.deleted ∨
        ∃ job ∈ cleanup.claimed, job.jobId = jobId ∧
          (cleanup.delete objects removal).2 job.sourceObjectKey = none := by
  unfold Cleanup.delete
  split
  · exact ⟨rfl, fun job hjob => hjob, .inl rfl, fun jobId hjobId => .inl hjobId⟩
  · rename_i job rest hclaimed
    have hmem : job ∈ cleanup.claimed := by
      rw [hclaimed]
      exact List.mem_cons_self
    obtain ⟨hobjects, hreturned⟩ := deleteVideo_spec objects job.sourceObjectKey removal
    refine ⟨rfl, fun other hother => ?_, ?_, fun jobId hjobId => ?_⟩
    · rw [hclaimed]
      exact List.mem_cons_of_mem job hother
    · rcases hobjects with hsame | hgone
      · exact .inl hsame
      · exact .inr ⟨job, hmem, hgone⟩
    · dsimp only at hjobId
      split_ifs at hjobId with hok
      · rcases List.mem_append.mp hjobId with hold | hnew
        · exact .inl hold
        · obtain rfl := List.mem_singleton.mp hnew
          exact .inr ⟨job, hmem, rfl, hreturned hok⟩
      · exact .inl hjobId

theorem kept_delete (h : RetentionKept uploaded s) (index : Nat) (removal : Removal) :
    RetentionKept uploaded (s.deleteNext index removal) := by
  unfold RetentionState.deleteNext
  split
  · exact h
  · rename_i cleanup hget
    have hmem : cleanup ∈ s.cleanups := List.mem_of_getElem? hget
    obtain ⟨hnow, hclaimed, hobjects, hdeleted⟩ := cleanup.delete_spec s.objects removal
    have hkept : RetentionKept uploaded { s with
        objects := (cleanup.delete s.objects removal).2 } := by
      rcases hobjects with hsame | ⟨job, hjob, hgone⟩
      · rw [hsame]
        exact h
      · rw [hgone]
        apply kept_without h
        intro row hrow hkey
        obtain ⟨hdue, other, hother, href⟩ := (h.cleanups cleanup hmem).claimed job hjob
        obtain ⟨-, hkeys, huntil⟩ := ref_eq_iff.mp href
        obtain rfl := Table.eq_of_mem hother hrow (h.keys other hother row hrow
          (hkeys.trans hkey.symm))
        exact (huntil.trans_le hdue).trans (h.cleanups cleanup hmem).past
    have hold := hkept.cleanups cleanup hmem
    refine { hkept with cleanups := ?_ }
    intro other hother
    rcases List.mem_or_eq_of_mem_set hother with hother | rfl
    · exact hkept.cleanups other hother
    · refine ⟨hnow.trans_le hold.past, fun job hjob => ?_, fun jobId hjobId => ?_⟩
      · rw [hnow]
        exact hold.claimed job (hclaimed job hjob)
      · rw [hnow]
        rcases hdeleted jobId hjobId with hbefore | ⟨job, hjob, rfl, hgone⟩
        · exact hold.deleted jobId hbefore
        · obtain ⟨hdue, row, hrow, href⟩ := hold.claimed job hjob
          obtain ⟨hid, hkey, huntil⟩ := ref_eq_iff.mp href
          refine ⟨row, hrow, hid, huntil.trans_le hdue, ?_⟩
          rw [hkey]
          exact hgone

theorem kept_commit (h : RetentionKept uploaded s) (index : Nat) :
    RetentionKept uploaded (s.commit index) := by
  unfold RetentionState.commit
  split
  · exact h
  · rename_i cleanup hget
    have hcleanup := h.cleanups cleanup (List.mem_of_getElem? hget)
    have hmarked : RetentionKept uploaded { s with
        jobs := markDeleted s.jobs cleanup.deleted cleanup.now } := by
      refine kept_map h (Table.updateWhere_rows s.jobs _ _ _) (fun row => ?_) (fun row => ?_)
        fun row hrow deletedAt hmarked => ?_
      · split_ifs
        · rfl
        · rfl
      · split_ifs
        · rfl
        · rfl
      · split_ifs at hmarked with hdeleted
        · cases hmarked
          obtain ⟨other, hother, hid, hdue, hgone⟩ :=
            hcleanup.deleted row.jobId (of_decide_eq_true hdeleted)
          obtain rfl := Table.eq_of_mem hother hrow hid
          exact ⟨hgone, hdue, hcleanup.past⟩
        · exact (h.rows row hrow).gone deletedAt hmarked
    exact { hmarked with
      cleanups := fun other hother => hmarked.cleanups other (List.mem_of_mem_eraseIdx hother) }

theorem kept_abort (h : RetentionKept uploaded s) (index : Nat) :
    RetentionKept uploaded { s with cleanups := s.cleanups.eraseIdx index } :=
  { h with cleanups := fun other hother => h.cleanups other (List.mem_of_mem_eraseIdx hother) }

/-! ### Requests -/

theorem kept_request (h : RetentionKept uploaded s) (jobId : String)
    (rangeHeader : Option String) :
    RetentionKept uploaded (s.request digits jobId rangeHeader) := by
  unfold RetentionState.request
  split
  · rename_i opened hopened
    obtain ⟨hget, -, -, hrange, -⟩ := openSource_ok hopened
    have hkept := h.rows opened.job (Table.get_eq_some_iff.mp hget).1
    have hpos := List.length_pos_of_ne_nil hkept.nonempty
    rw [hkept.size] at hrange
    obtain ⟨hoffset, hle, hlast⟩ := parseRange_ok (by omega) hrange
    refine { h with opened := ?_ }
    intro other hother
    rcases List.mem_append.mp hother with hold | hnew
    · exact h.opened other hold
    · obtain rfl := List.mem_singleton.mp hnew
      exact ⟨hoffset, hle, hlast⟩
  · exact h

/-- What is read are bytes of the upload. -/
theorem read_eq_slice (h : RetentionKept uploaded s) {opened : OpenSource} {data : List UInt8}
    (hread : opened.read s.objects = .ok data) :
    data = slice (uploaded opened.job.sourceObjectKey) opened.offset opened.last := by
  unfold OpenSource.read readVideoRange at hread
  split at hread
  · cases hread
  · split at hread
    · cases hread
    · split at hread
      · cases hread
      · rename_i content hcontent
        split at hread
        · cases hread
        · cases hread
          rw [(h.objects _ content hcontent).1]
          rfl

theorem kept_read (h : RetentionKept uploaded s) (index : Nat) :
    RetentionKept uploaded (s.read index) := by
  have hopened : ∀ other ∈ s.opened.eraseIdx index, RequestKept uploaded other :=
    fun other hother => h.opened other (List.mem_of_mem_eraseIdx hother)
  unfold RetentionState.read
  split
  · exact h
  · rename_i opened hget
    split
    · rename_i data hread
      refine { h with opened := hopened, answers := ?_ }
      intro answer hanswer
      rcases List.mem_append.mp hanswer with hold | hnew
      · exact h.answers answer hold
      · obtain rfl := List.mem_singleton.mp hnew
        exact ⟨h.opened opened (List.mem_of_getElem? hget), read_eq_slice h hread⟩
    · exact { h with opened := hopened }

theorem kept_start (now : Timestamp) : RetentionKept uploaded (RetentionState.start now) where
  rows := fun _ h => nomatch h
  keys := fun _ h => nomatch h
  objects := fun _ _ h => nomatch h
  cleanups := fun _ h => nomatch h
  opened := fun _ h => nomatch h
  answers := fun _ h => nomatch h

theorem kept_preserved : (retention digits uploaded).Preserved (RetentionKept uploaded) := by
  intro s a henabled h
  cases a with
  | wait now => exact kept_wait h henabled
  | store objectKey =>
      obtain ⟨hkey, hnonempty, hrow⟩ := henabled
      refine kept_object h hrow fun bytes hbytes => ?_
      cases hbytes
      exact ⟨rfl, hnonempty, hkey⟩
  | withdraw objectKey => exact kept_object h henabled fun _ hbytes => nomatch hbytes
  | submit job => exact kept_submit h henabled
  | work job => exact kept_work h job
  | claim limit => exact kept_claim h _ limit
  | delete index removal => exact kept_delete h index removal
  | commit index => exact kept_commit h index
  | abort index => exact kept_abort h index
  | request jobId rangeHeader => exact kept_request h jobId rangeHeader
  | read index => exact kept_read h index

theorem kept_reachable (h : (retention digits uploaded).Reachable s) :
    RetentionKept uploaded s := by
  refine kept_preserved.reachable (fun s₀ hinit => ?_) h
  obtain ⟨now, rfl⟩ := hinit
  exact kept_start now

/-- Whatever runs next to each other, a source is there until its retention is over, a row is
marked only when the source is gone, a request that reads at once is answered, and every answer
has the bytes that were uploaded. -/
theorem sources_retained (h : (retention digits uploaded).Reachable s) :
    (∀ job ∈ s.jobs.rows, s.now < job.sourceRetentionUntil →
      job.sourceDeletedAt = none ∧
        s.objects job.sourceObjectKey = some (uploaded job.sourceObjectKey)) ∧
      (∀ job ∈ s.jobs.rows, ∀ deletedAt, job.sourceDeletedAt = some deletedAt →
        s.objects job.sourceObjectKey = none ∧ job.sourceRetentionUntil ≤ deletedAt ∧
          deletedAt ≤ s.now) ∧
      (∀ jobId rangeHeader opened,
        openSource digits s.jobs s.now jobId rangeHeader = .ok opened →
          opened.read s.objects =
            .ok (slice (uploaded opened.job.sourceObjectKey) opened.offset opened.last)) ∧
      ∀ answer ∈ s.answers, answer.2.data =
          slice (uploaded answer.1.job.sourceObjectKey) answer.1.offset answer.1.last ∧
        (answer.2.data.length : Int) = answer.1.last - answer.1.offset + 1 := by
  have hkept := kept_reachable h
  have hthere : ∀ job ∈ s.jobs.rows, s.now < job.sourceRetentionUntil →
      s.objects job.sourceObjectKey = some (uploaded job.sourceObjectKey) := by
    intro job hjob hretained
    cases hobject : s.objects job.sourceObjectKey with
    | none => exact absurd ((hkept.rows job hjob).kept hobject) (not_le.mpr hretained)
    | some content => rw [(hkept.objects _ content hobject).1]
  refine ⟨fun job hjob hretained => ⟨?_, hthere job hjob hretained⟩,
    fun job hjob => (hkept.rows job hjob).gone, fun jobId rangeHeader opened hopened => ?_,
    fun answer hanswer => ?_⟩
  · cases hdeleted : job.sourceDeletedAt with
    | none => rfl
    | some deletedAt =>
        obtain ⟨-, huntil, hpast⟩ := (hkept.rows job hjob).gone deletedAt hdeleted
        exact absurd (huntil.trans hpast) (not_le.mpr hretained)
  · obtain ⟨hget, -, hretained, hrange, -⟩ := openSource_ok hopened
    have hrow := (Table.get_eq_some_iff.mp hget).1
    have hsource := hkept.rows opened.job hrow
    have hintact : Intact s.objects opened.job (uploaded opened.job.sourceObjectKey) :=
      ⟨hsource.key, hthere opened.job hrow hretained, hsource.size, hsource.nonempty⟩
    obtain ⟨data, hread, rfl, -⟩ := opened.read_ok hintact hrange
    exact hread
  · obtain ⟨hrequest, hdata⟩ := hkept.answers answer hanswer
    refine ⟨hdata, ?_⟩
    have hle := hrequest.le
    rw [hdata, slice, length_range hrequest.offset hrequest.le hrequest.last]
    omega

end Steps

section Sample

/-- A source is uploaded, read in part, and deleted when its time is over. -/
def sampleSteps : List RetentionStep :=
  [.store sampleSource.sourceObjectKey, .submit sampleSource,
    .request sampleSource.jobId (some "bytes=1-"), .read 0, .request sampleSource.jobId none,
    .wait 10, .claim 25, .delete 0 .removed, .read 0, .commit 0]

def sampleSystem : Machine RetentionState RetentionStep :=
  retention Protocols.asciiInterpreter.toDecimalDigits fun _ => [1, 2, 3]

def sampleRetained : RetentionState := sampleSystem.run (RetentionState.start 0) sampleSteps

theorem sampleRetained_reachable : sampleSystem.Reachable sampleRetained := by
  have hvalid : (retention Protocols.asciiInterpreter.toDecimalDigits fun _ => [1, 2, 3]).Valid
      (RetentionState.start 0) sampleSteps := by decide
  exact ⟨RetentionState.start 0, sampleSteps, ⟨0, rfl⟩, hvalid, rfl⟩

theorem sample_retained :
    (sampleRetained.answers.map fun answer => answer.2.data) = [[2, 3]] ∧
      ∀ job ∈ sampleRetained.jobs.rows, ∀ deletedAt, job.sourceDeletedAt = some deletedAt →
        sampleRetained.objects job.sourceObjectKey = none ∧
          job.sourceRetentionUntil ≤ deletedAt ∧ deletedAt ≤ sampleRetained.now :=
  ⟨by decide, (sources_retained sampleRetained_reachable).2.1⟩

end Sample

end Mvision.Video
