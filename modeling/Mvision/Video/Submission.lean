import Mvision.Protocols.UntrustedInput
import Mvision.Video.Upload

/-!
# A submission as a whole

What the handlers and the `finally` clause of `submit` leave: the row, its object and a process
that has started, or none of them and a process that has failed.  The temporary file is gone in
both cases.
-/

namespace Mvision.Video

open Mvision.Library Mvision.Library.Saga

namespace UploadWorld

variable {world : UploadWorld} {s : UploadState}

/-! ## The `finally` clause -/

/-- A job has this object for its source. -/
def keepsObject (s : UploadState) (key : String) : Bool :=
  s.jobs.rows.any fun job => job.sourceObjectKey = key

/-- What the clause leaves without the temporary file. -/
def withoutFile (s : UploadState) : UploadState :=
  match s.tempPath with
  | some path => withFile s path none
  | none => s

/-- What it leaves without the object: under a key that is not valid nothing is deleted. -/
def withoutObject (s : UploadState) : UploadState :=
  match s.objectKey with
  | some key =>
      if keepsObject s key = true ∨ videoObjectKey key = false then s else withObject s key none
  | none => s

theorem withoutFile_eq (s : UploadState) :
    withoutFile s = { s with files := (withoutFile s).files } := by
  unfold withoutFile
  split <;> rfl

theorem withoutObject_eq (s : UploadState) :
    withoutObject s = { s with objects := (withoutObject s).objects } := by
  unfold withoutObject
  split
  · split <;> rfl
  · rfl

theorem deleteVideo_ok (hcleanup : ∀ step, world.cleanupRaises step = none) (key : String) :
    (tryCatch (world.deleteVideo key) fun _ => pure () : Uploading Unit) s =
      .ok () (if videoObjectKey key = false then s else withObject s key none) := by
  cases hkey : videoObjectKey key with
  | false =>
      refine tryCatch_of_error (e := .other) (t := s) ?_
      unfold deleteVideo
      rw [hkey]
      rfl
  | true =>
      refine tryCatch_of_ok (a := ()) (t := withObject s key none) ?_
      unfold deleteVideo cleanupCall
      rw [hkey, hcleanup]
      rfl

theorem removeFile_ok (hcleanup : ∀ step, world.cleanupRaises step = none) :
    world.removeFile s = .ok () (withoutFile s) := by
  show (match s.tempPath with
    | some path => world.unlink path
    | none => pure () : Uploading Unit) s = _
  unfold withoutFile
  cases s.tempPath with
  | none => rfl
  | some path => exact unlink_ok hcleanup path

theorem removeObject_ok (hcleanup : ∀ step, world.cleanupRaises step = none) :
    world.removeObject s = .ok () (withoutObject s) := by
  show (match s.objectKey with
    | some key => do
        if ← world.jobExistsForObject key then pure ()
        else tryCatch (world.deleteVideo key) fun _ => pure ()
    | none => pure () : Uploading Unit) s = _
  unfold withoutObject
  cases s.objectKey with
  | none => rfl
  | some key =>
      have hlookup : world.jobExistsForObject key s = .ok (keepsObject s key) s := by
        unfold jobExistsForObject cleanupCall
        rw [hcleanup]
        rfl
      dsimp only
      rw [bind_of_ok hlookup]
      cases keepsObject s key with
      | true => rfl
      | false =>
          rw [if_neg Bool.false_ne_true, deleteVideo_ok hcleanup]
          simp only [Bool.false_eq_true, false_or]

/-- The clause does not raise if the calls in it do not. -/
theorem finish_ok (hcleanup : ∀ step, world.cleanupRaises step = none) :
    world.finish s = .ok () (withoutObject (withoutFile s)) := by
  unfold finish
  rw [bind_of_ok (removeFile_ok hcleanup), removeObject_ok hcleanup]

/-! ## A submission -/

/-- The names that are drawn name nothing yet. -/
structure Fresh (world : UploadWorld) (s : UploadState) : Prop where
  file : s.files world.tempName = none
  object : s.objects world.objectKey = none
  job : keepsObject s world.objectKey = false

/-- Before the `finally` clause of a submission that raises: what is there can be taken back. -/
structure Underway (world : UploadWorld) (s t : UploadState) : Prop where
  jobs : t.jobs = s.jobs
  files : (t.files = s.files ∧ t.tempPath = none) ∨
    (t.tempPath = some world.tempName ∧ ∃ content,
      t.files = Function.update s.files world.tempName content)
  objects : (t.objects = s.objects ∧ ∀ key ∈ t.objectKey, key = world.objectKey) ∨
    (t.objectKey = some world.objectKey ∧ videoObjectKey world.objectKey = true ∧ ∃ content,
      t.objects = Function.update s.objects world.objectKey content)

/-- Before the `finally` clause of a submission that returns: the row and its object are stored. -/
structure Stored (world : UploadWorld) (processId : String) (s : UploadState)
    (response : SubmitResponse) (t : UploadState) (job : SourcedJob) (content : List UInt8) :
    Prop where
  rows : t.jobs.rows = s.jobs.rows ++ [job]
  jobId : job.jobId = response.jobId
  owner : job.processId = processId
  status : job.status = .pending
  key : job.sourceObjectKey = world.objectKey
  size : job.sourceSize = world.streamed.length
  complete : content.length = world.streamed.length
  objects : t.objects = Function.update s.objects world.objectKey (some content)
  processes : t.processes = s.processes

/-- The state once the `finally` clause knows the file. -/
def fileKnown (world : UploadWorld) (s : UploadState) : UploadState :=
  { withFile s world.tempName (some world.streamed) with tempPath := some world.tempName }

/-- The state once it knows the object. -/
def objectKnown (world : UploadWorld) (s : UploadState) : UploadState :=
  { world.fileKnown s with objectKey := some world.objectKey }

/-- The two outcomes of the body of the `try`. -/
theorem ends_attempt (hcleanup : ∀ step, world.cleanupRaises step = none)
    (hfresh : world.Fresh s) (htemp : s.tempPath = none) (hkey : s.objectKey = none)
    (processId : String) (request : SamplingRequest) :
    Ends
      (fun response t => ∃ job content, world.Stored processId s response t job content ∧
        t.tempPath = some world.tempName ∧ t.objectKey = some world.objectKey ∧
        t.files = Function.update s.files world.tempName (some world.streamed))
      (fun _ t => world.Underway s t ∧ t.processes = s.processes)
      (world.attempt processId request) s := by
  unfold attempt
  refine ((ends_streamUpload hcleanup hfresh.file).imp (fun _ _ h => h) ?_).bind ?_
  · rintro e t rfl
    exact ⟨⟨rfl, .inl ⟨rfl, htemp⟩, .inl ⟨rfl, by rw [hkey]; exact nofun⟩⟩, rfl⟩
  rintro ⟨path, size, sha256⟩ t ⟨rfl, rfl, rfl⟩
  -- the `finally` clause knows the file
  refine ends_modify_bind ?_
  change Ends _ _ _ (world.fileKnown s)
  have hfile : world.Underway s (world.fileKnown s) ∧
      (world.fileKnown s).processes = s.processes := by
    refine ⟨⟨rfl, .inr ⟨rfl, _, rfl⟩, .inl ⟨rfl, ?_⟩⟩, rfl⟩
    show ∀ key ∈ s.objectKey, key = world.objectKey
    rw [hkey]
    exact nofun
  refine (ends_probeVideo.imp (fun _ _ h => h) ?_).bind ?_
  · rintro e t rfl
    exact hfile
  rintro metadata t rfl
  refine ends_check_bind (fun _ => hfile) fun _ => ?_
  -- and the name of the object before there is one
  refine ends_check_bind (fun _ => hfile) fun sampling => ends_modify_bind ?_
  change Ends _ _ _ (world.objectKnown s)
  have hobject (content : Option (List UInt8))
      (h : content = none ∨ videoObjectKey world.objectKey = true) :
      world.Underway s (withObject (world.objectKnown s) world.objectKey content) ∧
        (withObject (world.objectKnown s) world.objectKey content).processes = s.processes := by
    refine ⟨⟨rfl, .inr ⟨rfl, _, rfl⟩, ?_⟩, rfl⟩
    rcases h with rfl | hvalid
    · have hnone : withObject (world.objectKnown s) world.objectKey none = world.objectKnown s :=
        withObject_self hfresh.object
      rw [hnone]
      exact .inl ⟨rfl, fun key h => (Option.some.inj h).symm⟩
    · exact .inr ⟨rfl, hvalid, content, rfl⟩
  have hnone : withObject (world.objectKnown s) world.objectKey none = world.objectKnown s :=
    withObject_self hfresh.object
  refine ends_check_bind (fun _ => hnone ▸ hobject none (.inl rfl)) fun contentType => ?_
  refine ((ends_uploadVideo (s := world.objectKnown s) hfresh.object).imp (fun _ _ h => h)
    ?_).bind ?_
  · rintro e t ⟨content, hcontent, rfl⟩
    exact hobject content hcontent
  rintro info t ⟨content, hvalid, hsize, rfl⟩
  dsimp only
  split
  · exact ends_throw_bind (hobject (some content) (.inr hvalid))
  · rename_i hequal
    refine (ends_createJob.imp (fun _ _ h => h) ?_).bind ?_
    · rintro e t rfl
      exact hobject (some content) (.inr hvalid)
    · rintro _ t ⟨hrows, hrest⟩
      refine ends_pure ⟨_, content, ⟨hrows, rfl, rfl, rfl, rfl, rfl, ?_, ?_, ?_⟩, ?_, ?_, ?_⟩
      · rw [← hsize]
        exact not_not.mp hequal
      all_goals rw [hrest]; rfl

/-- Every handler records the failure and raises. -/
theorem ends_handle (hcleanup : ∀ step, world.cleanupRaises step = none) (processId : String)
    (e : UploadError) {Q : SubmitResponse → UploadState → Prop} :
    Ends Q
      (fun _ t => ∃ errorCode, t = { s with
        processes := ProcessRecordRepository.fail processId errorCode world.now s.processes })
      (world.handle processId e) s := by
  have hfail (errorCode : String) : world.failProcess processId errorCode s = .ok () { s with
      processes := ProcessRecordRepository.fail processId errorCode world.now s.processes } := by
    unfold failProcess
    rw [hcleanup]
    rfl
  cases e with
  | videoProbeError message code =>
      rw [handle, Ends, bind_of_ok (hfail code)]
      exact ⟨code, rfl⟩
  | validationError e =>
      rw [handle, Ends, bind_of_ok (hfail e.errorCode)]
      exact ⟨e.errorCode, rfl⟩
  | videoError e =>
      rw [handle, Ends, bind_of_ok (hfail e.errorCode)]
      exact ⟨e.errorCode, rfl⟩
  | other =>
      rw [handle, Ends, bind_of_ok (hfail "VIDEO_INVALID")]
      exact ⟨"VIDEO_INVALID", rfl⟩

/-- Writing to a fresh name and removing it changes nothing. -/
theorem update_none {f : String → Option (List UInt8)} {name : String} (h : f name = none)
    (content : Option (List UInt8)) :
    Function.update (Function.update f name content) name none = f := by
  rw [Function.update_idem, ← h, Function.update_eq_self]

theorem withoutFile_files {t : UploadState} (hfresh : s.files world.tempName = none)
    (htemp : t.tempPath = some world.tempName)
    (hfiles : ∃ content, t.files = Function.update s.files world.tempName content) :
    (withoutFile t).files = s.files := by
  obtain ⟨content, hfiles⟩ := hfiles
  unfold withoutFile
  rw [htemp]
  show Function.update t.files world.tempName none = s.files
  rw [hfiles, update_none hfresh]

/-- The clause takes back what a submission that raises has left. -/
theorem finish_underway (hcleanup : ∀ step, world.cleanupRaises step = none)
    (hfresh : world.Fresh s) {t : UploadState} (h : world.Underway s t) :
    ∃ b u, world.finish t = .ok b u ∧ u.jobs = s.jobs ∧ u.files = s.files ∧
      u.objects = s.objects ∧ u.processes = t.processes := by
  have hfiles : (withoutFile t).files = s.files := by
    rcases h.files with ⟨hsame, htemp⟩ | ⟨htemp, hwritten⟩
    · unfold withoutFile
      rw [htemp]
      exact hsame
    · exact withoutFile_files hfresh.file htemp hwritten
  have hrest := withoutFile_eq t
  obtain ⟨v, hv⟩ : ∃ v, withoutFile t = v := ⟨_, rfl⟩
  rw [hv] at hfiles hrest
  have hjobs : v.jobs = s.jobs := by
    rw [hrest]
    exact h.jobs
  have hobjects : (withoutObject v).objects = s.objects := by
    have hjob : keepsObject v world.objectKey = false := by
      rw [keepsObject, hjobs]
      exact hfresh.job
    unfold withoutObject
    rcases h.objects with ⟨hsame, hkeys⟩ | ⟨hkey, hvalid, content, hstored⟩
    · -- nothing has been stored, whether the clause knows the name or not
      have hsame : v.objects = s.objects := by
        rw [hrest]
        exact hsame
      cases hkey : v.objectKey with
      | none => exact hsame
      | some key =>
          have hkey : t.objectKey = some key := by
            rw [← hkey, hrest]
          obtain rfl := hkeys key hkey
          dsimp only
          split
          · exact hsame
          · show Function.update v.objects world.objectKey none = s.objects
            rw [hsame, ← hfresh.object, Function.update_eq_self]
    · -- no job has the object, and its key is valid, so it is deleted
      have hkey : v.objectKey = some world.objectKey := by
        rw [hrest]
        exact hkey
      rw [hkey]
      dsimp only
      rw [hjob, hvalid, if_neg (by decide)]
      show Function.update v.objects world.objectKey none = s.objects
      rw [hrest]
      show Function.update t.objects world.objectKey none = s.objects
      rw [hstored, update_none hfresh.object]
  refine ⟨(), withoutObject v, by rw [finish_ok hcleanup, hv], ?_⟩
  rw [withoutObject_eq]
  exact ⟨hjobs, hfiles, hobjects, by rw [hrest]⟩

/-- The clause keeps the object of a submission that returns. -/
theorem finish_stored (hcleanup : ∀ step, world.cleanupRaises step = none)
    (hfresh : world.Fresh s) {processId : String} {response : SubmitResponse} {t : UploadState}
    {job : SourcedJob} {content : List UInt8}
    (h : world.Stored processId s response t job content) (htemp : t.tempPath = some world.tempName)
    (hkey : t.objectKey = some world.objectKey)
    (hfiles : t.files = Function.update s.files world.tempName (some world.streamed)) :
    ∃ b u, world.finish t = .ok b u ∧ world.Stored processId s response u job content ∧
      u.files = s.files := by
  -- the row that has just been committed keeps the object
  have hkept : withoutObject (withoutFile t) = withoutFile t := by
    have hjob : keepsObject (withoutFile t) world.objectKey = true := by
      rw [withoutFile_eq]
      refine List.any_eq_true.mpr ⟨job, ?_, decide_eq_true h.key⟩
      rw [h.rows]
      exact List.mem_append_right _ List.mem_cons_self
    have hname : (withoutFile t).objectKey = some world.objectKey := by
      rw [withoutFile_eq]
      exact hkey
    rw [withoutObject, hname]
    exact if_pos (.inl hjob)
  refine ⟨(), _, finish_ok hcleanup, ?_⟩
  rw [hkept]
  refine ⟨?_, withoutFile_files hfresh.file htemp ⟨_, hfiles⟩⟩
  rw [withoutFile_eq]
  exact ⟨h.rows, h.jobId, h.owner, h.status, h.key, h.size, h.complete, h.objects, h.processes⟩

/-- The process that `submit` creates. -/
def startedProcess (processId : String) : ProcessRecord :=
  { processId, processType := "video_recognize" }

/-- A submission that raises has left no row, no object and no file, and its process failed. -/
structure Withdrawn (processId : String) (s t : UploadState) : Prop where
  jobs : t.jobs = s.jobs
  objects : t.objects = s.objects
  files : t.files = s.files
  process : (t.processes.get processId).map ProcessRecord.status = some .failed

/-- A submission that returns has one row, the object of that row and a process that has started,
and no file. -/
structure Submitted (world : UploadWorld) (processId : String) (s : UploadState)
    (response : SubmitResponse) (t : UploadState) (job : SourcedJob) (content : List UInt8) :
    Prop where
  rows : t.jobs.rows = s.jobs.rows ++ [job]
  jobId : job.jobId = response.jobId
  owner : job.processId = processId
  status : job.status = .pending
  size : job.sourceSize = world.streamed.length
  complete : content.length = world.streamed.length
  objects : t.objects = Function.update s.objects job.sourceObjectKey (some content)
  files : t.files = s.files
  processes : t.processes = s.processes.insert (startedProcess processId)
  process : (t.processes.get processId).map ProcessRecord.status = some .started

theorem createProcess_ok {processId : String} {created : UploadState}
    (h : world.createProcess processId s = .ok () created) :
    s.processes.get processId = none ∧
      created = { s with
        processes := s.processes.insert (startedProcess processId)
        tempPath := none
        objectKey := none } := by
  have hends : Ends
      (fun _ t => s.processes.get processId = none ∧
        t = { s with
          processes := s.processes.insert (startedProcess processId)
          tempPath := none
          objectKey := none })
      (fun _ _ => True) (world.createProcess processId) s := by
    refine ends_call_bind (fun _ => trivial) (ends_get_bind ?_)
    split
    · exact ends_throw trivial
    · rename_i hnew
      exact ends_modify ⟨by simpa using hnew, rfl⟩
  rw [Ends, h] at hends
  exact hends

/-- Once the process exists, a submission is stored as a whole or not at all. -/
theorem submit_all_or_nothing (world : UploadWorld) (processId : String)
    (request : SamplingRequest) {s created : UploadState}
    (hcreated : world.createProcess processId s = .ok () created)
    (hcleanup : ∀ step, world.cleanupRaises step = none) (hfresh : world.Fresh s) :
    Ends
      (fun response t => ∃ job content, world.Submitted processId s response t job content)
      (fun _ t => Withdrawn processId s t) (world.submit processId request) s := by
  obtain ⟨hnew, hstate⟩ := createProcess_ok hcreated
  have hprocess : created.processes.get processId = some (startedProcess processId) := by
    rw [hstate]
    exact Table.get_insert_self hnew
  have hjobs : created.jobs = s.jobs := by rw [hstate]
  have hobjects : created.objects = s.objects := by rw [hstate]
  have hfiles : created.files = s.files := by rw [hstate]
  have hfresh : world.Fresh created := by
    refine ⟨?_, ?_, ?_⟩
    · rw [hfiles, hfresh.file]
    · rw [hobjects, hfresh.object]
    · rw [keepsObject, hjobs]
      exact hfresh.job
  have htemp : created.tempPath = none := by rw [hstate]
  have hkey : created.objectKey = none := by rw [hstate]
  have hattempt := ends_attempt hcleanup hfresh htemp hkey processId request
  refine Ends.bind (Q := fun _ t => created = t) (by rw [Ends, hcreated]) ?_
  rintro _ _ rfl
  refine (hattempt.tryCatch (F := fun _ t => world.Underway created t ∧ ∃ errorCode,
    t.processes = ProcessRecordRepository.fail processId errorCode world.now
      created.processes) ?_).tryFinally ?_ ?_
  · rintro e t ⟨⟨hjobs, hfiles, hobjects⟩, hprocesses⟩
    refine (ends_handle hcleanup processId e).imp (fun _ _ h => h) ?_
    rintro e' u ⟨errorCode, rfl⟩
    exact ⟨⟨hjobs, hfiles, hobjects⟩, errorCode, by rw [← hprocesses]⟩
  · rintro response t ⟨job, content, hstored, htemp, hkey, hwritten⟩
    obtain ⟨b, u, hu, hkept, hleft⟩ :=
      finish_stored hcleanup hfresh hstored htemp hkey hwritten
    refine ⟨b, u, hu, job, content, ?_, hkept.jobId, hkept.owner, hkept.status, hkept.size,
      hkept.complete, ?_, hleft.trans hfiles, ?_, ?_⟩
    · rw [hkept.rows, hjobs]
    · rw [hkept.objects, hobjects, hkept.key]
    · rw [hkept.processes, hstate]
    · rw [hkept.processes, hprocess]
      rfl
  · rintro e t ⟨hunderway, errorCode, hfailed⟩
    obtain ⟨b, u, hu, hsameJobs, hsameFiles, hsameObjects, hprocesses⟩ :=
      finish_underway hcleanup hfresh hunderway
    refine ⟨b, u, hu, hsameJobs.trans hjobs, hsameObjects.trans hobjects,
      hsameFiles.trans hfiles, ?_⟩
    rw [hprocesses, hfailed, ProcessRecordRepository.fail, Table.get_update, if_pos rfl, hprocess]
    rfl

/-- The tables as the processing of jobs sees them. -/
def processing (now : Timestamp) (s : UploadState) : ProcessingState where
  now
  jobs := ⟨s.jobs.rows.map SourcedJob.toVideoJob, by
    rw [List.map_map]
    exact s.jobs.nodup⟩
  processes := s.processes

/-- A submission that returns is the step of the processing that submits its job. -/
theorem Submitted.processing_eq {processId : String} {response : SubmitResponse}
    {t : UploadState} {job : SourcedJob} {content : List UInt8} (now : Timestamp)
    (h : world.Submitted processId s response t job content) :
    processing now t = (processing now s).submit job.toVideoJob := by
  have hnew : job.jobId ∉ (s.jobs.rows.map SourcedJob.toVideoJob).map VideoJob.jobId := by
    have hnodup := t.jobs.nodup
    rw [h.rows, List.map_append, List.nodup_append] at hnodup
    intro hmem
    rw [List.map_map] at hmem
    exact hnodup.2.2 _ hmem _ List.mem_cons_self rfl
  have hjobs : (processing now t).jobs = (processing now s).jobs.insert job.toVideoJob := by
    refine Table.ext ?_
    rw [Table.insert_rows hnew]
    show t.jobs.rows.map SourcedJob.toVideoJob = _
    rw [h.rows, List.map_append]
    rfl
  have hprocesses : (processing now t).processes =
      ProcessRecordRepository.create job.processId "video_recognize" s.processes := by
    rw [h.owner]
    exact h.processes
  show ProcessingState.mk now (processing now t).jobs [] (processing now t).processes [] [] [] = _
  rw [hjobs, hprocesses]
  rfl

section Sample

/-- What `ffprobe` says of a second of video. -/
def sampleDocument : Python.Value :=
  .dict [(.text "streams", .list [.dict [(.text "codec_type", .str "video"),
      (.text "codec_name", .str "h264"), (.text "avg_frame_rate", .str "25/1"),
      (.text "r_frame_rate", .str "25/1"), (.text "width", .int 640), (.text "height", .int 480),
      (.text "nb_frames", .str "25")]]),
    (.text "format", .dict [(.text "format_name", .str "mov,mp4"), (.text "duration", .str "1")])]

/-- An upload of two chunks, which the object store keeps as they are. -/
def sampleUpload : UploadWorld where
  settings := ⟨1000, 300, ["mp4"], ["h264"], 604800, "videos", "mvision-videos",
    "frames_per_second", .finite 2, 3⟩
  python := Protocols.asciiInterpreter
  loads _ := .ok sampleDocument
  chunks := [[1, 2], [3], []]
  probeRun := .exited 0 [] ""
  put := some
  sha256 _ := "digest"
  tempName := "/tmp/mvision-video-1.upload"
  jobId := "019b0000-0000-7000-8000-000000000001"
  now := 0
  raises _ := none
  cleanupRaises _ := none

def emptyStores : UploadState :=
  { files := fun _ => none, objects := fun _ => none, jobs := .empty, processes := .empty }

def sampleProcess : String := "019b0000-0000-7000-8000-000000000002"

/-- The same upload, whose last transaction raises when its object is stored. -/
def failingUpload : UploadWorld :=
  { sampleUpload with raises := fun step => if step = .transaction then some .other else none }

/-- The first submission returns, and so all of it is stored; of the other one nothing stays. -/
theorem sample_submitted :
    (∃ response t job content,
        sampleUpload.Submitted sampleProcess emptyStores response t job content ∧
        processing 0 t = (processing 0 emptyStores).submit job.toVideoJob) ∧
      ∃ t, Withdrawn sampleProcess emptyStores t := by
  have hends := @submit_all_or_nothing sampleUpload sampleProcess ⟨none, none, none⟩
    emptyStores _ rfl (fun _ => rfl) ⟨rfl, rfl, rfl⟩
  have hfails := @submit_all_or_nothing failingUpload sampleProcess ⟨none, none, none⟩
    emptyStores _ rfl (fun _ => rfl) ⟨rfl, rfl, rfl⟩
  have hreturns : (EStateM.run' (sampleUpload.submit sampleProcess ⟨none, none, none⟩)
      emptyStores).isSome = true := by
    decide +kernel
  have hraises : EStateM.run' (failingUpload.submit sampleProcess ⟨none, none, none⟩)
      emptyStores = none := by
    rw [← Option.isNone_iff_eq_none]
    decide +kernel
  obtain ⟨response, hresponse⟩ := Option.isSome_iff_exists.mp hreturns
  obtain ⟨t, job, content, ht⟩ := hends.returned hresponse
  obtain ⟨e, u, hu⟩ := hfails.raised hraises
  exact ⟨⟨response, t, job, content, ht, ht.processing_eq 0⟩, u, hu⟩

end Sample

end UploadWorld

end Mvision.Video
