import Mvision.Library.Batches
import Mvision.Video.Retention

/-!
# Cleaning in the long run

Workers call `cleanup_expired_sources` again and again, and submissions, workers and requests run
between two passes.  A pass takes the sources whose retention ended first, so sources that the
store refuses to delete come first in every pass.
-/

namespace Mvision.Video

open Mvision.Library

section Pass

variable (refuses : String → Bool) (limit : Nat)

/-- `delete_video` raises for the key. -/
def failing (objectKey : String) : Bool := !videoObjectKey objectKey || refuses objectKey

/-- How the store answers. -/
def removal (objectKey : String) : Removal :=
  if refuses objectKey then .refused else .removed

/-- `cleanup_expired_sources`, with no other pass next to it. -/
def passSteps (s : RetentionState) : List RetentionStep :=
  .claim limit ::
    ((claimExpiredSources s.jobs [] s.now limit).map fun job =>
      .delete 0 (removal refuses job.sourceObjectKey)) ++ [.commit 0]

/-- The objects after the loop over the claimed rows. -/
def withoutSources (claimed : List RetainedJob) (objects : String → Option (List UInt8)) :
    String → Option (List UInt8) :=
  claimed.foldl (fun objects job =>
    (deleteVideo objects job.sourceObjectKey (removal refuses job.sourceObjectKey)).2) objects

/-- The rows that the loop marks. -/
def deletedSources (claimed : List RetainedJob) : List String :=
  (claimed.filter fun job => !failing refuses job.sourceObjectKey).map fun job => job.jobId

/-- The state after a pass. -/
def afterPass (s : RetentionState) : RetentionState :=
  { s with
    jobs := markDeleted s.jobs
      (deletedSources refuses (claimExpiredSources s.jobs [] s.now limit)) s.now
    objects := withoutSources refuses (claimExpiredSources s.jobs [] s.now limit) s.objects }

variable {refuses limit} {digits : Python.DecimalDigits} {uploaded : String → List UInt8}
  {s : RetentionState}

theorem deleteVideo_removal (objects : String → Option (List UInt8)) (objectKey : String) :
    (deleteVideo objects objectKey (removal refuses objectKey)).1 =
      !failing refuses objectKey := by
  unfold deleteVideo removal failing
  cases videoObjectKey objectKey with
  | false => rfl
  | true =>
      cases refuses objectKey with
      | false => rfl
      | true => rfl

/-- The loop of a pass, as steps. -/
theorem run_deletes (claimed : List RetainedJob) (locked deleted : List String)
    (objects : String → Option (List UInt8)) :
    (retention digits uploaded).run
        { s with
          objects := objects
          cleanups := [⟨s.now, locked, claimed, deleted⟩] }
        (claimed.map fun job => .delete 0 (removal refuses job.sourceObjectKey)) =
      { s with
        objects := withoutSources refuses claimed objects
        cleanups := [⟨s.now, locked, [], deleted ++ deletedSources refuses claimed⟩] } := by
  induction claimed generalizing deleted objects with
  | nil =>
      have hnone : deleted ++ deletedSources refuses [] = deleted := List.append_nil deleted
      rw [hnone]
      rfl
  | cons job rest ih =>
      have hreturned : (deleteVideo objects job.sourceObjectKey
          (removal refuses job.sourceObjectKey)).1 = !failing refuses job.sourceObjectKey :=
        deleteVideo_removal objects job.sourceObjectKey
      have hdeleted : (if !failing refuses job.sourceObjectKey then deleted ++ [job.jobId]
          else deleted) ++ deletedSources refuses rest =
          deleted ++ deletedSources refuses (job :: rest) := by
        unfold deletedSources
        rw [List.filter_cons]
        split_ifs
        · rw [List.append_assoc]
          rfl
        · rfl
      rw [← hdeleted, ← hreturned]
      exact ih _ _

/-- The claim of a pass with no other one next to it. -/
theorem next_claim (hidle : s.cleanups = []) :
    (retention digits uploaded).next s (.claim limit) = { s with
      objects := s.objects
      cleanups := [Cleanup.start s.now (claimExpiredSources s.jobs [] s.now limit)] } := by
  show { s with cleanups := s.cleanups ++ _ } = _
  rw [hidle]
  rfl

/-- A pass is a run of the system. -/
theorem run_passSteps (hidle : s.cleanups = []) :
    (retention digits uploaded).run s (passSteps refuses limit s) = afterPass refuses limit s := by
  unfold passSteps
  rw [List.cons_append, Machine.run_cons, next_claim hidle, Machine.run_append]
  unfold Cleanup.start
  rw [run_deletes, List.nil_append]
  unfold afterPass
  rw [← hidle]
  rfl

end Pass

/-! ## Marks -/

section Marks

/-- The rows as cleaning sees them. -/
def marks (jobs : RetainedJobs) : List (SourceRef × Option Timestamp) :=
  jobs.rows.map fun job => (job.ref, job.sourceDeletedAt)

/-- The sources that the next pass may claim. -/
def waiting (s : RetentionState) : Finset SourceRef :=
  ((s.jobs.rows.filter fun job => job.expired s.now).map fun job => job.ref).toFinset

/-- The sources that the next pass claims. -/
def batch (limit : Nat) (s : RetentionState) : Finset SourceRef :=
  ((claimExpiredSources s.jobs [] s.now limit).map fun job => job.ref).toFinset

variable {refuses : String → Bool} {limit : Nat} {digits : Python.DecimalDigits}
  {uploaded : String → List UInt8} {s t : RetentionState} {jobs : RetainedJobs} {r : SourceRef}
  {deletedAt : Option Timestamp}

theorem mem_marks : (r, deletedAt) ∈ marks jobs ↔
    ∃ job ∈ jobs.rows, job.ref = r ∧ job.sourceDeletedAt = deletedAt := by
  unfold marks
  simp only [List.mem_map, Prod.mk.injEq]

/-- A job has one mark. -/
theorem marks_unique {other : SourceRef} {otherAt : Option Timestamp}
    (h : (r, deletedAt) ∈ marks jobs) (hother : (other, otherAt) ∈ marks jobs)
    (hid : r.jobId = other.jobId) : r = other ∧ deletedAt = otherAt := by
  obtain ⟨job, hjob, rfl, rfl⟩ := mem_marks.mp h
  obtain ⟨job', hjob', rfl, rfl⟩ := mem_marks.mp hother
  obtain rfl := Table.eq_of_mem hjob hjob' hid
  exact ⟨rfl, rfl⟩

theorem mem_waiting : r ∈ waiting s ↔ (r, none) ∈ marks s.jobs ∧
    r.sourceRetentionUntil ≤ s.now := by
  unfold waiting
  rw [List.mem_toFinset, List.mem_map, mem_marks]
  constructor
  · rintro ⟨job, hjob, rfl⟩
    obtain ⟨hrow, hexpired⟩ := List.mem_filter.mp hjob
    obtain ⟨hdeleted, hdue⟩ := of_decide_eq_true hexpired
    exact ⟨⟨job, hrow, rfl, hdeleted⟩, hdue⟩
  · rintro ⟨⟨job, hrow, rfl, hdeleted⟩, hdue⟩
    exact ⟨job, List.mem_filter.mpr ⟨hrow, decide_eq_true ⟨hdeleted, hdue⟩⟩, rfl⟩

theorem mem_batch : r ∈ batch limit s ↔
    ∃ job ∈ claimExpiredSources s.jobs [] s.now limit, job.ref = r := by
  unfold batch
  rw [List.mem_toFinset, List.mem_map]

theorem nodup_refs {rows : List RetainedJob} (h : rows.Sublist s.jobs.rows) :
    (rows.map fun job => job.ref).Nodup := by
  have hids : (rows.map fun job => job.jobId).Nodup := (h.map _).nodup s.jobs.nodup
  have hmap : rows.map (fun job => job.jobId) =
      (rows.map fun job => job.ref).map fun r => r.jobId := by
    rw [List.map_map]
    rfl
  rw [hmap] at hids
  exact List.Nodup.of_map _ hids

theorem claimExpiredSources_eq (jobs : RetainedJobs) (now : Timestamp) (limit : Nat) :
    claimExpiredSources jobs [] now limit =
      ((jobs.rows.filter fun job => job.expired now).insertionSort
        fun a b => a.sourceRetentionUntil ≤ b.sourceRetentionUntil).take limit := by
  unfold claimExpiredSources
  simp only [List.contains_nil, Bool.not_false, Bool.and_true]

theorem batch_subset : batch limit s ⊆ waiting s := by
  intro r hr
  obtain ⟨job, hjob, rfl⟩ := mem_batch.mp hr
  obtain ⟨hrow, hdeleted, hdue⟩ := claimExpiredSources_spec hjob
  exact mem_waiting.mpr ⟨mem_marks.mpr ⟨job, hrow, rfl, hdeleted⟩, hdue⟩

theorem card_batch : (batch limit s).card = min limit (waiting s).card := by
  have hperm := List.perm_insertionSort
    (fun a b : RetainedJob => a.sourceRetentionUntil ≤ b.sourceRetentionUntil)
    (s.jobs.rows.filter fun job => job.expired s.now)
  have hwaiting : ((s.jobs.rows.filter fun job => job.expired s.now).map
      fun job => job.ref).Nodup := nodup_refs List.filter_sublist
  have hsorted := (hperm.map fun job => job.ref).nodup_iff.mpr hwaiting
  unfold batch waiting
  rw [List.toFinset_card_of_nodup hwaiting, claimExpiredSources_eq,
    List.toFinset_card_of_nodup ((List.take_sublist limit _).map _ |>.nodup hsorted),
    List.length_map, List.length_map, List.length_take, hperm.length_eq]

/-- A pass leaves behind only what is due later. -/
theorem batch_first {other : SourceRef} (hr : r ∈ batch limit s) (hother : other ∈ waiting s)
    (hleft : other ∉ batch limit s) : r.sourceRetentionUntil ≤ other.sourceRetentionUntil := by
  obtain ⟨job, hjob, rfl⟩ := mem_batch.mp hr
  obtain ⟨hmark, hdue⟩ := mem_waiting.mp hother
  obtain ⟨row, hrow, rfl, hdeleted⟩ := mem_marks.mp hmark
  have hmem : row ∈ (s.jobs.rows.filter fun job => job.expired s.now).insertionSort
      fun a b => a.sourceRetentionUntil ≤ b.sourceRetentionUntil := by
    rw [List.mem_insertionSort, List.mem_filter]
    exact ⟨hrow, decide_eq_true ⟨hdeleted, hdue⟩⟩
  have hpairwise := List.pairwise_insertionSort
    (fun a b : RetainedJob => a.sourceRetentionUntil ≤ b.sourceRetentionUntil)
    (s.jobs.rows.filter fun job => job.expired s.now)
  rw [claimExpiredSources_eq] at hjob
  rw [← List.take_append_drop limit (List.insertionSort _ _)] at hmem hpairwise
  rcases List.mem_append.mp hmem with htaken | hdropped
  · rw [← claimExpiredSources_eq] at htaken
    exact absurd (mem_batch.mpr ⟨row, htaken, rfl⟩) hleft
  · exact (List.pairwise_append.mp hpairwise).2.2 job hjob row hdropped

/-! ## What a pass does -/

theorem mem_deletedSources {row : RetainedJob} (hrow : row ∈ s.jobs.rows) :
    row.jobId ∈ deletedSources refuses (claimExpiredSources s.jobs [] s.now limit) ↔
      row.ref ∈ batch limit s ∧ failing refuses row.sourceObjectKey = false := by
  unfold deletedSources
  rw [List.mem_map, mem_batch]
  constructor
  · rintro ⟨job, hjob, hid⟩
    obtain ⟨hclaimed, haccepts⟩ := List.mem_filter.mp hjob
    obtain rfl := Table.eq_of_mem (claimExpiredSources_spec hclaimed).1 hrow hid
    exact ⟨⟨job, hclaimed, rfl⟩, (Bool.not_eq_true' _).mp haccepts⟩
  · rintro ⟨⟨job, hclaimed, href⟩, haccepts⟩
    obtain ⟨hid, hkey, -⟩ := ref_eq_iff.mp href
    refine ⟨job, List.mem_filter.mpr ⟨hclaimed, ?_⟩, hid⟩
    rw [hkey, haccepts]
    rfl

theorem marks_markDeleted (deleted : List String) (now : Timestamp) :
    marks (markDeleted jobs deleted now) = jobs.rows.map fun job =>
      (job.ref, if job.jobId ∈ deleted then some now else job.sourceDeletedAt) := by
  unfold marks markDeleted
  rw [Table.updateWhere_rows, List.map_map]
  refine List.map_congr_left fun job _ => ?_
  by_cases hdeleted : job.jobId ∈ deleted
  · simp [hdeleted, RetainedJob.ref]
  · simp [hdeleted]

theorem mark_afterPass (h : (r, deletedAt) ∈ marks s.jobs) :
    (r, if r ∈ batch limit s ∧ failing refuses r.sourceObjectKey = false then some s.now
      else deletedAt) ∈ marks (afterPass refuses limit s).jobs := by
  obtain ⟨row, hrow, rfl, rfl⟩ := mem_marks.mp h
  have hmarked := @mem_deletedSources refuses limit s row hrow
  show _ ∈ marks (markDeleted _ _ _)
  rw [marks_markDeleted, List.mem_map]
  refine ⟨row, hrow, ?_⟩
  rw [Prod.mk.injEq]
  exact ⟨rfl, if_congr hmarked rfl rfl⟩

/-- A pass leaves the objects that it does not claim. -/
theorem withoutSources_of_ne {claimed : List RetainedJob} {objectKey : String}
    (h : ∀ job ∈ claimed, job.sourceObjectKey ≠ objectKey)
    (objects : String → Option (List UInt8)) :
    withoutSources refuses claimed objects objectKey = objects objectKey := by
  induction claimed generalizing objects with
  | nil => rfl
  | cons job rest ih =>
      have hrest := ih (fun other hother => h other (List.mem_cons_of_mem job hother))
        (deleteVideo objects job.sourceObjectKey (removal refuses job.sourceObjectKey)).2
      refine hrest.trans ?_
      obtain ⟨hsame | hgone, -⟩ := deleteVideo_spec objects job.sourceObjectKey
        (removal refuses job.sourceObjectKey)
      · rw [hsame]
      · rw [hgone, Function.update_of_ne (h job List.mem_cons_self).symm]

/-! ## What the other steps do -/

/-- The steps of a pass. -/
def RetentionStep.cleans : RetentionStep → Bool
  | .claim _ | .delete _ _ | .commit _ | .abort _ => true
  | _ => false

/-- Rows come at the end, and rows that are there keep their marks and their objects. -/
structure Beside (s t : RetentionState) : Prop where
  now : s.now ≤ t.now
  marks : marks s.jobs <+: marks t.jobs
  cleanups : t.cleanups = s.cleanups
  objects : ∀ r deletedAt, (r, deletedAt) ∈ Video.marks s.jobs →
    t.objects r.sourceObjectKey = s.objects r.sourceObjectKey

theorem Beside.refl (s : RetentionState) : Beside s s :=
  ⟨le_rfl, List.prefix_refl _, rfl, fun _ _ _ => rfl⟩

theorem Beside.trans {u : RetentionState} (h : Beside s t) (h' : Beside t u) : Beside s u where
  now := h.now.trans h'.now
  marks := h.marks.trans h'.marks
  cleanups := h'.cleanups.trans h.cleanups
  objects := fun r deletedAt hmark =>
    (h'.objects r deletedAt (h.marks.subset hmark)).trans (h.objects r deletedAt hmark)

theorem beside_object {objectKey : String} {content : Option (List UInt8)}
    (hrow : ∀ job ∈ s.jobs.rows, job.sourceObjectKey ≠ objectKey) :
    Beside s { s with objects := Function.update s.objects objectKey content } := by
  refine ⟨le_rfl, List.prefix_refl _, rfl, fun r deletedAt hmark => ?_⟩
  obtain ⟨row, hmem, rfl, -⟩ := mem_marks.mp hmark
  exact Function.update_of_ne (hrow row hmem) content s.objects

theorem beside_next {a : RetentionStep} (henabled : (retention digits uploaded).enabled s a)
    (hcleans : a.cleans = false) : Beside s ((retention digits uploaded).next s a) := by
  cases a with
  | wait now => exact ⟨henabled, List.prefix_refl _, rfl, fun _ _ _ => rfl⟩
  | store objectKey => exact beside_object henabled.2.2
  | withdraw objectKey => exact beside_object henabled
  | submit job =>
      refine ⟨le_rfl, ?_, rfl, fun _ _ _ => rfl⟩
      have hnew : job.jobId ∉ s.jobs.rows.map fun row => row.jobId := by
        intro hmem
        obtain ⟨other, hother, hid⟩ := List.mem_map.mp hmem
        exact (henabled.2.2.2 other hother).1 hid
      show marks s.jobs <+: marks (s.jobs.insert job)
      unfold marks
      rw [Table.insert_rows hnew, List.map_append]
      exact List.prefix_append _ _
  | work job =>
      refine ⟨le_rfl, ?_, rfl, fun _ _ _ => rfl⟩
      have hmarks : marks (writeJob s.jobs job) = marks s.jobs := by
        unfold marks writeJob
        rw [Table.update_rows, List.map_map]
        refine List.map_congr_left fun row _ => ?_
        rw [Function.comp_apply]
        split_ifs
        · rfl
        · rfl
      show marks s.jobs <+: marks (writeJob s.jobs job)
      rw [hmarks]
  | request jobId rangeHeader =>
      show Beside s (s.request digits jobId rangeHeader)
      unfold RetentionState.request
      split
      · exact ⟨le_rfl, List.prefix_refl _, rfl, fun _ _ _ => rfl⟩
      · exact Beside.refl s
  | read index =>
      show Beside s (s.read index)
      unfold RetentionState.read
      split
      · exact Beside.refl s
      · split
        · exact ⟨le_rfl, List.prefix_refl _, rfl, fun _ _ _ => rfl⟩
        · exact ⟨le_rfl, List.prefix_refl _, rfl, fun _ _ _ => rfl⟩
  | claim limit => cases hcleans
  | delete index removal => cases hcleans
  | commit index => cases hcleans
  | abort index => cases hcleans

theorem beside_run {others : List RetentionStep}
    (hvalid : (retention digits uploaded).Valid s others)
    (hcleans : ∀ a ∈ others, a.cleans = false) :
    Beside s ((retention digits uploaded).run s others) := by
  induction others generalizing s with
  | nil => exact Beside.refl s
  | cons a others ih =>
      have hnext := beside_next hvalid.1 (hcleans a List.mem_cons_self)
      exact hnext.trans (ih hvalid.2 fun b hb => hcleans b (List.mem_cons_of_mem a hb))

end Marks

/-! ## Passes one after the other -/

section Passes

variable (digits : Python.DecimalDigits) (uploaded : String → List UInt8)
  (refuses : String → Bool) (limit : Nat)

/-- The states before the passes: a pass, then other steps up to the next one. -/
structure Passes (states : ℕ → RetentionState) : Prop where
  reachable : (retention digits uploaded).Reachable (states 0)
  idle : (states 0).cleanups = []
  next : ∀ n, ∃ others, (∀ a ∈ others, a.cleans = false) ∧
    (retention digits uploaded).Valid (states n) (passSteps refuses limit (states n) ++ others) ∧
    states (n + 1) = (retention digits uploaded).run (states n)
      (passSteps refuses limit (states n) ++ others)

variable {digits uploaded refuses limit} {states : ℕ → RetentionState} {r : SourceRef}

theorem Passes.idle_at (h : Passes digits uploaded refuses limit states) (n : ℕ) :
    (states n).cleanups = [] := by
  induction n with
  | zero => exact h.idle
  | succ n ih =>
      obtain ⟨others, hcleans, hvalid, hnext⟩ := h.next n
      have hothers := (Machine.valid_append.mp hvalid).2
      rw [run_passSteps ih] at hothers
      rw [hnext, Machine.run_append, run_passSteps ih, (beside_run hothers hcleans).cleanups]
      exact ih

theorem Passes.beside (h : Passes digits uploaded refuses limit states) (n : ℕ) :
    Beside (afterPass refuses limit (states n)) (states (n + 1)) := by
  obtain ⟨others, hcleans, hvalid, hnext⟩ := h.next n
  have hothers := (Machine.valid_append.mp hvalid).2
  rw [run_passSteps (h.idle_at n)] at hothers
  rw [hnext, Machine.run_append, run_passSteps (h.idle_at n)]
  exact beside_run hothers hcleans

theorem Passes.reachable_at (h : Passes digits uploaded refuses limit states) (n : ℕ) :
    (retention digits uploaded).Reachable (states n) := by
  induction n with
  | zero => exact h.reachable
  | succ n ih =>
      obtain ⟨others, -, hvalid, hnext⟩ := h.next n
      rw [hnext]
      exact ih.run hvalid

theorem Passes.now_le (h : Passes digits uploaded refuses limit states) (n : ℕ) :
    (states 0).now ≤ (states n).now := by
  induction n with
  | zero => exact le_rfl
  | succ n ih => exact ih.trans (h.beside n).now

/-- A mark after the next pass. -/
theorem Passes.mark (h : Passes digits uploaded refuses limit states) {n : ℕ}
    {deletedAt : Option Timestamp} (hmark : (r, deletedAt) ∈ marks (states n).jobs) :
    (r, if r ∈ batch limit (states n) ∧ failing refuses r.sourceObjectKey = false then
      some (states n).now else deletedAt) ∈ marks (states (n + 1)).jobs :=
  (h.beside n).marks.subset (mark_afterPass hmark)

/-- The passes serve the sources in batches. -/
theorem Passes.batches (h : Passes digits uploaded refuses limit states) :
    Batches limit SourceRef.sourceRetentionUntil
      (fun r => failing refuses r.sourceObjectKey = true) (fun n => waiting (states n))
      fun n => batch limit (states n) where
  taken := fun _ => batch_subset
  full := fun _ => card_batch
  first := fun _ _ hr _ hother hleft => batch_first hr hother hleft
  stays := by
    intro n r hr hstays
    obtain ⟨hmark, hdue⟩ := mem_waiting.mp hr
    have hnext := h.mark hmark
    have hkept : ¬ (r ∈ batch limit (states n) ∧
        failing refuses r.sourceObjectKey = false) := by
      rintro ⟨htaken, haccepts⟩
      rcases hstays with hleft | hfails
      · exact hleft htaken
      · rw [haccepts] at hfails
        cases hfails
    rw [if_neg hkept] at hnext
    exact mem_waiting.mpr ⟨hnext, hdue.trans (h.beside n).now⟩
  leaves := by
    intro n r hr haccepts hmem
    obtain ⟨hmark, -⟩ := mem_waiting.mp (batch_subset hr)
    have hnext := h.mark hmark
    rw [if_pos ⟨hr, Bool.eq_false_of_not_eq_true haccepts⟩] at hnext
    have hunique := marks_unique hnext (mem_waiting.mp hmem).1 rfl
    cases hunique.2

/-- What comes to wait later is due later. -/
theorem Passes.later (h : Passes digits uploaded refuses limit states)
    (hr : r ∈ waiting (states 0))
    (hlater : ∀ n, ∀ row ∈ (states (n + 1)).jobs.rows,
      (∀ old ∈ (states n).jobs.rows, old.jobId ≠ row.jobId) →
        r.sourceRetentionUntil < row.sourceRetentionUntil) (n : ℕ) {other : SourceRef}
    (hother : other ∈ waiting (states (n + 1))) (hnew : other ∉ waiting (states n)) :
    r.sourceRetentionUntil < other.sourceRetentionUntil := by
  obtain ⟨hmark, -⟩ := mem_waiting.mp hother
  obtain ⟨row, hrow, rfl, hunmarked⟩ := mem_marks.mp hmark
  by_cases hold : ∃ old ∈ (states n).jobs.rows, old.jobId = row.jobId
  · obtain ⟨old, hmem, hid⟩ := hold
    have hbefore := mem_marks.mpr ⟨old, hmem, rfl, rfl⟩
    obtain ⟨href, hdeleted⟩ := marks_unique (h.mark hbefore) hmark hid
    rw [href] at hbefore hdeleted
    -- it was there, and not due
    have hnone : old.sourceDeletedAt = none := by
      split_ifs at hdeleted
      exact hdeleted
    rw [hnone] at hbefore
    by_contra hle
    apply hnew
    refine mem_waiting.mpr ⟨hbefore, (not_lt.mp hle).trans ?_⟩
    exact (mem_waiting.mp hr).2.trans (h.now_le n)
  · push Not at hold
    exact hlater n row hrow hold

/-- Of a source that a pass leaves behind the object stays. -/
theorem Passes.object (h : Passes digits uploaded refuses limit states) {n : ℕ}
    {deletedAt : Option Timestamp} (hmark : (r, deletedAt) ∈ marks (states n).jobs)
    (hleft : r ∉ batch limit (states n)) :
    (states (n + 1)).objects r.sourceObjectKey = (states n).objects r.sourceObjectKey := by
  rw [(h.beside n).objects r _ (mark_afterPass hmark)]
  apply withoutSources_of_ne
  intro job hclaimed hkey
  obtain ⟨row, hrow, rfl, -⟩ := mem_marks.mp hmark
  have hjob := (claimExpiredSources_spec hclaimed).1
  have hid := (kept_reachable (h.reachable_at n)).keys job hjob row hrow hkey
  obtain rfl := Table.eq_of_mem hjob hrow hid
  exact hleft (mem_batch.mpr ⟨job, hclaimed, rfl⟩)

/-- A source whose retention is over, and which the store deletes, goes with one of the passes if
the submissions in between are due later and the sources that the store refuses and that do not
come later are fewer than a pass claims; behind as many of them as a pass claims it stays for
ever. -/
theorem cleaned_or_blocked (h : Passes digits uploaded refuses limit states)
    (hr : r ∈ waiting (states 0)) (haccepts : failing refuses r.sourceObjectKey = false) :
    ((∀ n, ∀ row ∈ (states (n + 1)).jobs.rows,
        (∀ old ∈ (states n).jobs.rows, old.jobId ≠ row.jobId) →
          r.sourceRetentionUntil < row.sourceRetentionUntil) →
      ((waiting (states 0)).filter fun other => failing refuses other.sourceObjectKey = true ∧
        other.sourceRetentionUntil ≤ r.sourceRetentionUntil).card < limit →
      ∃ n deletedAt, (r, some deletedAt) ∈ marks (states n).jobs ∧
        (states n).objects r.sourceObjectKey = none) ∧
      (limit ≤ ((waiting (states 0)).filter fun other =>
          failing refuses other.sourceObjectKey = true ∧
            other.sourceRetentionUntil < r.sourceRetentionUntil).card →
        ∀ n, (r, none) ∈ marks (states n).jobs ∧
          (states n).objects r.sourceObjectKey = (states 0).objects r.sourceObjectKey) := by
  constructor
  · intro hlater hfew
    have hserves : ¬ failing refuses r.sourceObjectKey = true := by
      rw [haccepts]
      exact Bool.false_ne_true
    obtain ⟨n, hgone⟩ := h.batches.served hserves
      (fun n other hother hnew => h.later hr hlater n hother hnew) hfew
    have hmarked : ∃ deletedAt, (r, deletedAt) ∈ marks (states n).jobs := by
      clear hgone
      induction n with
      | zero => exact ⟨none, (mem_waiting.mp hr).1⟩
      | succ n ih =>
          obtain ⟨deletedAt, hmark⟩ := ih
          exact ⟨_, h.mark hmark⟩
    obtain ⟨deletedAt, hmark⟩ := hmarked
    cases deletedAt with
    | none =>
        refine absurd (mem_waiting.mpr ⟨hmark, ?_⟩) hgone
        exact (mem_waiting.mp hr).2.trans (h.now_le n)
    | some deletedAt =>
        refine ⟨n, deletedAt, hmark, ?_⟩
        obtain ⟨row, hrow, rfl, hdeleted⟩ := mem_marks.mp hmark
        exact (((kept_reachable (h.reachable_at n)).rows row hrow).gone deletedAt hdeleted).1
  · intro hmany n
    have hwaits := h.batches.blocked hr hmany
    refine ⟨(mem_waiting.mp (hwaits n)).1, ?_⟩
    induction n with
    | zero => rfl
    | succ n ih =>
        have hleft : r ∉ batch limit (states n) := by
          intro htaken
          apply h.batches.leaves n r htaken _ (hwaits (n + 1))
          rw [haccepts]
          exact Bool.false_ne_true
        rw [h.object (mem_waiting.mp (hwaits n)).1 hleft, ih]

/-! ## Passes alone -/

theorem valid_deletes {s : RetentionState} (claimed : List RetainedJob)
    (locked deleted : List String) (objects : String → Option (List UInt8)) :
    (retention digits uploaded).Valid
      { s with
        objects := objects
        cleanups := [⟨s.now, locked, claimed, deleted⟩] }
      (claimed.map fun job => .delete 0 (removal refuses job.sourceObjectKey)) := by
  induction claimed generalizing deleted objects with
  | nil => trivial
  | cons job rest ih => exact ⟨rfl, ih _ _⟩

/-- A pass can always run. -/
theorem valid_passSteps {s : RetentionState} (hidle : s.cleanups = []) :
    (retention digits uploaded).Valid s (passSteps refuses limit s) := by
  unfold passSteps
  rw [List.cons_append, Machine.valid_cons, next_claim hidle, Machine.valid_append]
  unfold Cleanup.start
  refine ⟨trivial, valid_deletes _ _ _ _, ?_⟩
  rw [run_deletes]
  exact ⟨rfl, trivial⟩

theorem passes_iterate {s : RetentionState} (hreachable : (retention digits uploaded).Reachable s)
    (hidle : s.cleanups = []) :
    Passes digits uploaded refuses limit fun n => (afterPass refuses limit)^[n] s := by
  have hidles : ∀ n, ((afterPass refuses limit)^[n] s).cleanups = [] := by
    intro n
    induction n with
    | zero => exact hidle
    | succ n ih =>
        rw [Function.iterate_succ_apply']
        exact ih
  refine ⟨hreachable, hidle, fun n => ⟨[], List.forall_mem_nil _, ?_, ?_⟩⟩
  · rw [List.append_nil]
    exact valid_passSteps (hidles n)
  · rw [List.append_nil, run_passSteps (hidles n), Function.iterate_succ_apply']

theorem afterPass_ids {s : RetentionState} {row : RetainedJob}
    (hrow : row ∈ (afterPass refuses limit s).jobs.rows) :
    ∃ old ∈ s.jobs.rows, old.jobId = row.jobId := by
  have hmapped : row ∈ (markDeleted s.jobs (deletedSources refuses
      (claimExpiredSources s.jobs [] s.now limit)) s.now).rows := hrow
  unfold markDeleted at hmapped
  rw [Table.updateWhere_rows, List.mem_map] at hmapped
  obtain ⟨old, hold, rfl⟩ := hmapped
  refine ⟨old, hold, ?_⟩
  split_ifs
  · rfl
  · rfl

end Passes

/-- A pass with other steps behind it, in front of passes that go on from there. -/
theorem Passes.cons {s : RetentionState} {others : List RetentionStep}
    (h : Passes digits uploaded refuses limit states)
    (hreachable : (retention digits uploaded).Reachable s) (hidle : s.cleanups = [])
    (hcleans : ∀ a ∈ others, a.cleans = false)
    (hvalid : (retention digits uploaded).Valid s (passSteps refuses limit s ++ others))
    (hnext : states 0 =
      (retention digits uploaded).run s (passSteps refuses limit s ++ others)) :
    Passes digits uploaded refuses limit fun n => Nat.casesOn n s states where
  reachable := hreachable
  idle := hidle
  next
    | 0 => ⟨others, hcleans, hvalid, hnext⟩
    | n + 1 => h.next n

section Sample

def retainedSource (jobId objectKey : String) (retentionUntil : Timestamp) : RetainedJob :=
  { sampleSource with
    jobId := jobId
    sourceObjectKey := objectKey
    sourceRetentionUntil := retentionUntil }

/-- A source that is due earlier than the others, which the store refuses to delete. -/
def heldSource : RetainedJob :=
  retainedSource "019b0000-0000-7000-8000-000000000011"
    "videos/019b0000-0000-7000-8000-000000000011/source" 5

/-- A source that is submitted between two passes. -/
def lateSource : RetainedJob :=
  retainedSource "019b0000-0000-7000-8000-000000000021"
    "videos/019b0000-0000-7000-8000-000000000021/source" 100

def refusesHeld (objectKey : String) : Bool := decide (objectKey = heldSource.sourceObjectKey)

/-- Two sources whose retention is over. -/
def sampleExpired : RetentionState :=
  sampleSystem.run (RetentionState.start 0)
    [.store sampleSource.sourceObjectKey, .submit sampleSource,
      .store heldSource.sourceObjectKey, .submit heldSource, .wait 10]

theorem sampleExpired_reachable : sampleSystem.Reachable sampleExpired := by
  have hvalid : (retention Protocols.asciiInterpreter.toDecimalDigits fun _ => [1, 2, 3]).Valid
      (RetentionState.start 0)
      [.store sampleSource.sourceObjectKey, .submit sampleSource,
        .store heldSource.sourceObjectKey, .submit heldSource, .wait 10] := by
    decide +kernel
  exact ⟨RetentionState.start 0, _, ⟨0, rfl⟩, hvalid, rfl⟩

/-- What comes between the first two passes. -/
def sampleBetween : List RetentionStep :=
  [.store lateSource.sourceObjectKey, .submit lateSource, .request lateSource.jobId none,
    .work sampleSource.toVideoJob, .wait 12]

/-- The states before the passes. -/
def sampleStates (limit : Nat) (n : ℕ) : RetentionState :=
  Nat.casesOn n sampleExpired fun n => (afterPass refusesHeld limit)^[n]
    (sampleSystem.run sampleExpired (passSteps refusesHeld limit sampleExpired ++ sampleBetween))

theorem passes_sampleStates {limit : Nat}
    (hvalid : (retention Protocols.asciiInterpreter.toDecimalDigits fun _ => [1, 2, 3]).Valid
      (afterPass refusesHeld limit sampleExpired) sampleBetween) :
    Passes Protocols.asciiInterpreter.toDecimalDigits (fun _ => [1, 2, 3]) refusesHeld limit
      (sampleStates limit) := by
  have hcleans : ∀ a ∈ sampleBetween, a.cleans = false := by decide
  have hpass : sampleSystem.run sampleExpired (passSteps refusesHeld limit sampleExpired) =
      afterPass refusesHeld limit sampleExpired := run_passSteps rfl
  have hsteps : sampleSystem.Valid sampleExpired
      (passSteps refusesHeld limit sampleExpired ++ sampleBetween) := by
    refine Machine.valid_append.mpr ⟨valid_passSteps rfl, ?_⟩
    rw [hpass]
    exact hvalid
  have hidle : (sampleSystem.run sampleExpired
      (passSteps refusesHeld limit sampleExpired ++ sampleBetween)).cleanups = [] := by
    rw [Machine.run_append, hpass]
    exact (beside_run hvalid hcleans).cleanups
  exact (passes_iterate (sampleExpired_reachable.run hsteps) hidle).cons sampleExpired_reachable
    rfl hcleans hsteps rfl

/-- Passes of two sources get past the one that is refused, passes of one do not. -/
theorem sample_cleaned :
    (∃ n deletedAt, (sampleSource.ref, some deletedAt) ∈ marks (sampleStates 2 n).jobs ∧
        (sampleStates 2 n).objects sampleSource.sourceObjectKey = none) ∧
      ∀ n, (sampleSource.ref, none) ∈ marks (sampleStates 1 n).jobs ∧
        (sampleStates 1 n).objects sampleSource.sourceObjectKey =
          sampleExpired.objects sampleSource.sourceObjectKey := by
  have hwaits : sampleSource.ref ∈ waiting sampleExpired := by decide
  have haccepts : failing refusesHeld sampleSource.ref.sourceObjectKey = false := by
    decide +kernel
  constructor
  · refine (cleaned_or_blocked (passes_sampleStates (by decide)) hwaits haccepts).1 ?_
      (by decide +kernel)
    intro n row hrow hnew
    cases n with
    | zero =>
        have hfirst : ∀ row ∈ (sampleStates 2 1).jobs.rows,
            (∀ old ∈ (sampleStates 2 0).jobs.rows, old.jobId ≠ row.jobId) →
              sampleSource.sourceRetentionUntil < row.sourceRetentionUntil := by
          decide
        exact hfirst row hrow hnew
    | succ n =>
        have hrow : row ∈ ((afterPass refusesHeld 2)^[n + 1] (sampleStates 2 1)).jobs.rows := hrow
        rw [Function.iterate_succ_apply'] at hrow
        obtain ⟨old, hold, hid⟩ := afterPass_ids hrow
        exact absurd hid (hnew old hold)
  · exact (cleaned_or_blocked (passes_sampleStates (by decide)) hwaits haccepts).2
      (by decide +kernel)

end Sample

end Mvision.Video
