import Mvision.Library.Saga
import Mvision.Live.TextFormats
import Mvision.Video.Probe
import Mvision.Video.ProcessRecord

/-!
# `VideoUploadService.submit`

A submission writes a temporary file, an object and two rows, one after the other, and its
handlers and its `finally` take back what there is.  Where a step calls something outside the
program, the environment says whether an exception is raised; a task that is cancelled is no such
exception.  The details of the process and its events are left out.
-/

namespace Mvision.Video

open Mvision.Library Mvision.Library.Saga

/-! ## Exceptions -/

structure ServiceError where
  message : String
  errorCode : String
  statusCode : Nat
  processId : Option String := none
deriving DecidableEq, Repr

/-- The classes that `submit` tells apart. -/
inductive UploadError where
  | videoProbeError (message code : String)
  | validationError (e : ServiceError)
  | videoError (e : ServiceError)
  /-- Any other `Exception`. -/
  | other
deriving DecidableEq, Repr

/-- `ValidationError(message, code)` -/
def validationError (message errorCode : String) : UploadError :=
  .validationError { message, errorCode, statusCode := 422 }

/-- `VideoError(message, code, status)` -/
def videoError (message errorCode : String) (statusCode : Nat := 422)
    (processId : Option String := none) : UploadError :=
  .videoError { message, errorCode, statusCode, processId }

/-- An exception of the language, or of `parse_probe_payload`. -/
def UploadError.ofPython (e : Python.Error) : UploadError :=
  if e.kind = .program "VideoProbeError" then .videoProbeError e.text "VIDEO_INVALID" else .other

/-! ## Sampling -/

structure SamplingRequest where
  mode : Option String
  everyNFrames : Option Int
  framesPerSecond : Option FloatValue
deriving DecidableEq, Repr

structure Sampling where
  mode : String
  requestedFramesPerSecond : FloatValue
  everyNFrames : Int
  effectiveFramesPerSecond : FloatValue
deriving DecidableEq, Repr

structure UploadSettings where
  videoMaxUploadBytes : Nat
  videoMaxDurationSeconds : Int
  videoAllowedContainerSet : List String
  videoAllowedCodecSet : List String
  videoRetentionSeconds : Int
  videoMinioPrefix : String
  videoBucket : String
  videoDefaultSamplingMode : String
  videoDefaultFramesPerSecond : FloatValue
  videoJobMaxAttempts : Nat

namespace UploadSettings

variable (settings : UploadSettings)

/-- `x / n` -/
def quotient (x : FloatValue) (n : Int) : Except UploadError FloatValue :=
  match Python.floatOfInt n with
  | .ok d => .ok (binary64.div x d)
  | .error e => .error (.ofPython e)

/-- The branches of `resolve_sampling`: the interval and the rate that was asked for. -/
def samplingInterval (sourceFps : FloatValue) (mode : String) (request : SamplingRequest) :
    Except UploadError (Int × FloatValue) := do
  if mode = "every_frame" then
    if request.everyNFrames ≠ none ∨ request.framesPerSecond ≠ none then
      throw (validationError "every_frame takes no sampling value" "INVALID_SAMPLING")
    return (1, sourceFps)
  else if mode = "every_n_frames" then
    match request.everyNFrames with
    | some everyN =>
        if everyN ≤ 0 ∨ request.framesPerSecond ≠ none then
          throw (validationError "every_n_frames requires a positive everyNFrames"
            "INVALID_SAMPLING")
        return (everyN, ← quotient sourceFps everyN)
    | none =>
        throw (validationError "every_n_frames requires a positive everyNFrames"
          "INVALID_SAMPLING")
  else if mode = "frames_per_second" then
    let requestedFps := request.framesPerSecond.getD settings.videoDefaultFramesPerSecond
    if request.everyNFrames ≠ none ∨ requestedFps.lessEq (.finite 0) ∨
        sourceFps.less requestedFps then
      throw (validationError "frames_per_second must be positive and no greater than source FPS"
        "INVALID_SAMPLING")
    match Python.roundToInt (binary64.div sourceFps requestedFps) with
    | .ok n => return (max 1 n, requestedFps)
    | .error e => throw (.ofPython e)
  else throw (validationError "Unsupported sampling mode" "INVALID_SAMPLING")

/-- `resolve_sampling`: an empty mode is the default one too. -/
def resolveSampling (sourceFps : FloatValue) (request : SamplingRequest) :
    Except UploadError Sampling := do
  let mode := (request.mode.filter (· != "")).getD settings.videoDefaultSamplingMode
  let (everyNFrames, requestedFramesPerSecond) ← settings.samplingInterval sourceFps mode request
  let effectiveFramesPerSecond ← quotient sourceFps everyNFrames
  return { mode, requestedFramesPerSecond, everyNFrames, effectiveFramesPerSecond }

/-- `_validate_metadata` -/
def validateMetadata (metadata : Probe.VideoMetadata) : Except UploadError Unit :=
  if metadata.container ∉ settings.videoAllowedContainerSet then
    .error (videoError "Unsupported video container" "VIDEO_UNSUPPORTED_CONTAINER" 415)
  else if metadata.codec ∉ settings.videoAllowedCodecSet then
    .error (videoError "Unsupported video codec" "VIDEO_UNSUPPORTED_CODEC" 415)
  else if (FloatValue.finite settings.videoMaxDurationSeconds).less metadata.durationSeconds then
    .error (videoError "Video duration exceeds configured limit" "VIDEO_DURATION_EXCEEDED")
  else .ok ()

end UploadSettings

/-- `_content_type`, or its `KeyError`. -/
def contentType (metadata : Probe.VideoMetadata) : Except UploadError String :=
  match metadata.container with
  | "mp4" => .ok "video/mp4"
  | "mov" => .ok "video/quicktime"
  | "avi" => .ok "video/x-msvideo"
  | "matroska" => .ok "video/x-matroska"
  | _ => .error .other

/-! ## The stores -/

/-- The row of a job with the columns of its source. -/
structure SourcedJob extends VideoJob where
  sourceBucket : String
  sourceObjectKey : String
  sourceContentType : String
  sourceSize : Nat
  sourceSha256 : String
  sourceRetentionUntil : Timestamp
  containerFormat : String
  videoCodec : String
  durationSeconds : FloatValue
  fps : FloatValue
  width : Int
  height : Int
  totalFrames : Int
  sampling : Sampling
deriving DecidableEq

/-- The temporary files, the objects of the bucket, the tables, and the variables of `submit` that
its `finally` reads. -/
structure UploadState where
  files : String → Option (List UInt8)
  objects : String → Option (List UInt8)
  jobs : Table fun job : SourcedJob => job.jobId
  processes : Processes
  tempPath : Option String := none
  objectKey : Option String := none

/-- Where something outside the program can raise. -/
inductive UploadStep where
  | createProcess
  /-- `NamedTemporaryFile` and the `close` of the empty file: there is a file, or there is none. -/
  | createFile
  | openFile
  | read (index : Nat)
  | write (index : Nat)
  | closeFile
  | probe
  | upload
  | stat
  | transaction
deriving DecidableEq, Repr

/-- The calls that clean up. -/
inductive CleanupStep where
  | unlink
  | failProcess
  | lookup
  | delete
deriving DecidableEq, Repr

/-- How `ffprobe` ends. -/
inductive ProbeRun where
  | timeout
  | exited (returncode : Int) (stdout : List UInt8) (diagnostic : String)
deriving DecidableEq, Repr

/-- What the calls of a submission return: the chunks of the upload up to an empty one, and what
the object store keeps of a file. -/
structure UploadWorld where
  settings : UploadSettings
  python : Python.Interpreter
  loads : List UInt8 → Except Python.LoadError Python.Value
  chunks : List (List UInt8)
  probeRun : ProbeRun
  put : List UInt8 → Option (List UInt8)
  sha256 : List UInt8 → String
  tempName : String
  jobId : String
  now : Timestamp
  raises : UploadStep → Option UploadError
  cleanupRaises : CleanupStep → Option UploadError

structure ObjectInfo where
  bucket : String
  size : Nat
deriving DecidableEq, Repr

structure SubmitResponse where
  jobId : String
  processId : String
  status : String
  statusUrl : String
  resultUrl : String
deriving DecidableEq, Repr

abbrev Uploading := Saga UploadState UploadError

/-- A part of an object key in front of the job. -/
def directory : List Char → Bool
  | [] => false
  | c :: rest =>
      (c.isAlphanum || c == '_' || c == '-') &&
        rest.all fun c => c.isAlphanum || c == '.' || c == '_' || c == '-'

/-- `VIDEO_OBJECT_KEY_PATTERN.fullmatch` -/
def videoObjectKey (objectKey : String) : Bool :=
  match (objectKey.toList.splitOn '/').reverse with
  | source :: job :: front =>
      decide (source = "source".toList) && Live.uuidText Live.hexadecimal (job.map Char.toNat) &&
        !front.isEmpty && front.all directory
  | _ => false

namespace UploadWorld

variable (world : UploadWorld)

/-- A call outside the program. -/
def call (step : UploadStep) : Uploading Unit :=
  match world.raises step with
  | some e => throw e
  | none => pure ()

def cleanupCall (step : CleanupStep) : Uploading Unit :=
  match world.cleanupRaises step with
  | some e => throw e
  | none => pure ()

def check {α : Type} : Except UploadError α → Uploading α
  | .ok a => pure a
  | .error e => throw e

/-- `path.unlink(missing_ok=True)` -/
def unlink (path : String) : Uploading Unit := do
  world.cleanupCall .unlink
  modify fun s => { s with files := Function.update s.files path none }

/-! ## `_stream_upload` -/

/-- The chunks that are read. -/
def streamed : List UInt8 := (world.chunks.takeWhile (· ≠ [])).flatten

/-- The loop over the chunks, from one of them on. -/
def writeChunks (path : String) : Nat → Nat → List (List UInt8) → Uploading Nat
  | index, size, [] => do
      world.call (.read index)
      return size
  | index, size, chunk :: rest => do
      world.call (.read index)
      if chunk = [] then return size
      else if size + chunk.length > world.settings.videoMaxUploadBytes then
        throw (videoError "Video exceeds maximum upload size" "VIDEO_TOO_LARGE" 413)
      else
        world.call (.write index)
        modify fun s => { s with
          files := Function.update s.files path (some ((s.files path).getD [] ++ chunk)) }
        writeChunks path (index + 1) (size + chunk.length) rest

/-- The body of the `try`. -/
def writeFile (path : String) : Uploading Nat := do
  world.call .openFile
  let size ← world.writeChunks path 0 0 world.chunks
  world.call .closeFile
  if size = 0 then throw (videoError "Video is empty" "VIDEO_EMPTY")
  return size

def streamUpload : Uploading (String × Nat × String) := do
  world.call .createFile
  modify fun s => { s with files := Function.update s.files world.tempName (some []) }
  let size ← tryCatch (world.writeFile world.tempName) fun e => do
    world.unlink world.tempName
    throw e
  return (world.tempName, size, world.sha256 world.streamed)

/-! ## The stages of a submission -/

/-- `probe_video` -/
def probeVideo : Uploading Probe.VideoMetadata := do
  world.call .probe
  match world.probeRun with
  | .timeout => throw (.videoProbeError "Video probe timed out" "VIDEO_PROBE_TIMEOUT")
  | .exited returncode stdout diagnostic =>
      if returncode ≠ 0 then
        throw (.videoProbeError s!"Video probe failed: {diagnostic}" "VIDEO_INVALID")
      match Probe.parseProbePayload world.python world.loads stdout with
      | .ok metadata => return metadata
      | .error e => throw (.ofPython e)

/-- `stat_video` -/
def statVideo (objectKey : String) : Uploading ObjectInfo := do
  world.call .stat
  match (← get).objects objectKey with
  | none => throw .other
  | some content => return ⟨world.settings.videoBucket, content.length⟩

/-- `upload_video`: an exception of the upload says nothing about the object. -/
def uploadVideo (objectKey path : String) : Uploading ObjectInfo := do
  if !videoObjectKey objectKey then throw .other
  match (← get).files path with
  | none => throw .other
  | some content =>
      if content.length = 0 ∨ content.length > world.settings.videoMaxUploadBytes then throw .other
      -- what has been stored stays there if the call raises after it
      modify fun s => { s with
        objects := match world.put content with
          | some stored => Function.update s.objects objectKey (some stored)
          | none => s.objects }
      world.call .upload
      world.statVideo objectKey

/-- `AsyncSessionLocal` with its commit: an exception leaves nothing of it.  The keys of a job, its
process and its object are unique. -/
def createJob (job : SourcedJob) : Uploading Unit := do
  world.call .transaction
  if (← get).jobs.rows.any fun other => other.jobId = job.jobId ∨
      other.processId = job.processId ∨ other.sourceObjectKey = job.sourceObjectKey then
    throw .other
  modify fun s => { s with jobs := s.jobs.insert job }

def objectKey : String := s!"{world.settings.videoMinioPrefix}/{world.jobId}/source"

/-- The row of `submit`. -/
def job (processId : String) (size : Nat) (sha256 : String) (metadata : Probe.VideoMetadata)
    (sampling : Sampling) (contentType : String) (stat : ObjectInfo) : SourcedJob where
  jobId := world.jobId
  processId
  status := .pending
  stage := "queued"
  progressPercent := 0
  cancellationRequested := false
  attemptCount := 0
  maxAttempts := world.settings.videoJobMaxAttempts
  availableAt := world.now
  workerId := none
  leaseToken := none
  leaseExpiresAt := none
  errorCode := none
  processedFrames := 0
  personCount := 0
  createdAt := world.now
  startedAt := none
  completedAt := none
  cancelledAt := none
  sourceBucket := stat.bucket
  sourceObjectKey := world.objectKey
  sourceContentType := contentType
  sourceSize := size
  sourceSha256 := sha256
  sourceRetentionUntil := world.now + timedelta world.settings.videoRetentionSeconds
  containerFormat := metadata.container
  videoCodec := metadata.codec
  durationSeconds := metadata.durationSeconds
  fps := metadata.fps
  width := metadata.width
  height := metadata.height
  totalFrames := metadata.totalFrames
  sampling

/-- The body of the outer `try`. -/
def attempt (processId : String) (request : SamplingRequest) : Uploading SubmitResponse := do
  let (path, size, sha256) ← world.streamUpload
  modify fun s => { s with tempPath := some path }
  let metadata ← world.probeVideo
  check (world.settings.validateMetadata metadata)
  let sampling ← check (world.settings.resolveSampling metadata.fps request)
  modify fun s => { s with objectKey := some world.objectKey }
  let contentType ← check (contentType metadata)
  let stat ← world.uploadVideo world.objectKey path
  if stat.size ≠ size then
    throw (videoError "Stored video size does not match upload" "VIDEO_INVALID")
  world.createJob (world.job processId size sha256 metadata sampling contentType stat)
  return {
    jobId := world.jobId
    processId
    status := "pending"
    statusUrl := s!"/api/v1/videos/jobs/{world.jobId}"
    resultUrl := s!"/api/v1/videos/jobs/{world.jobId}/result" }

/-! ## Handlers -/

/-- `_fail_process`, whose exceptions are passed over. -/
def failProcess (processId errorCode : String) : Uploading Unit := do
  if (world.cleanupRaises .failProcess).isSome then pure ()
  else modify fun s => { s with
    processes := ProcessRecordRepository.fail processId errorCode world.now s.processes }

/-- The `except` clauses. -/
def handle (processId : String) : UploadError → Uploading SubmitResponse
  | .videoProbeError message code => do
      world.failProcess processId code
      throw (videoError message code 422 (some processId))
  | .validationError e => do
      world.failProcess processId e.errorCode
      throw (.validationError { e with processId := some processId })
  | .videoError e => do
      world.failProcess processId e.errorCode
      throw (.videoError { e with processId := some processId })
  | .other => do
      world.failProcess processId "VIDEO_INVALID"
      throw (videoError "Video upload failed" "VIDEO_INVALID" 422 (some processId))

/-- `_job_exists_for_object` -/
def jobExistsForObject (objectKey : String) : Uploading Bool := do
  world.cleanupCall .lookup
  return (← get).jobs.rows.any fun job => job.sourceObjectKey = objectKey

/-- `delete_video` -/
def deleteVideo (objectKey : String) : Uploading Unit := do
  if !videoObjectKey objectKey then throw .other
  world.cleanupCall .delete
  modify fun s => { s with objects := Function.update s.objects objectKey none }

/-- `if temp_path is not None` -/
def removeFile : Uploading Unit := do
  match (← get).tempPath with
  | some path => world.unlink path
  | none => pure ()

/-- `if object_key is not None and …`: a deletion that raises is passed over. -/
def removeObject : Uploading Unit := do
  match (← get).objectKey with
  | some objectKey =>
      if ← world.jobExistsForObject objectKey then pure ()
      else tryCatch (world.deleteVideo objectKey) fun _ => pure ()
  | none => pure ()

/-- The `finally` clause. -/
def finish : Uploading Unit := do
  world.removeFile
  world.removeObject

/-- The first transaction of `submit`; the key of a process is unique. -/
def createProcess (processId : String) : Uploading Unit := do
  world.call .createProcess
  if ((← get).processes.get processId).isSome then throw .other
  modify fun s => { s with
    processes := ProcessRecordRepository.create processId "video_recognize" s.processes
    tempPath := none
    objectKey := none }

def submit (processId : String) (request : SamplingRequest) : Uploading SubmitResponse := do
  world.createProcess processId
  -- from here on a failure is one of the process
  tryFinally (tryCatch (world.attempt processId request) (world.handle processId)) world.finish

/-! ## What each step leaves -/

variable {world} {s : UploadState}

section Rules

variable {α β : Type} {R : β → UploadState → Prop} {E : UploadError → UploadState → Prop}

/-- A call outside the program leaves the stores as they are. -/
theorem ends_call_bind {step : UploadStep} {f : Unit → Uploading β} (herror : ∀ e, E e s)
    (h : Ends R E (f ()) s) : Ends R E (world.call step >>= f) s := by
  unfold call
  cases world.raises step with
  | none => exact h
  | some e => exact herror e

theorem ends_check_bind {x : Except UploadError α} {f : α → Uploading β}
    (herror : ∀ e, E e s) (h : ∀ a, Ends R E (f a) s) : Ends R E (check x >>= f) s := by
  cases x with
  | ok a => exact h a
  | error e => exact herror e

end Rules

theorem unlink_ok (hcleanup : ∀ step, world.cleanupRaises step = none) (path : String) :
    world.unlink path s = .ok () { s with files := Function.update s.files path none } := by
  unfold unlink cleanupCall
  rw [hcleanup]
  rfl

/-- The state with a file of this content. -/
def withFile (s : UploadState) (path : String) (content : Option (List UInt8)) : UploadState :=
  { s with files := Function.update s.files path content }

theorem withFile_withFile (path : String) (content content' : Option (List UInt8)) :
    withFile (withFile s path content) path content' = withFile s path content' := by
  unfold withFile
  rw [Function.update_idem]

theorem withFile_self {path : String} {content : Option (List UInt8)}
    (h : s.files path = content) : withFile s path content = s := by
  rw [withFile, ← h, Function.update_eq_self]

/-- The loop appends the chunks up to an empty one, or leaves a part of the file. -/
theorem ends_writeChunks {path : String} {before : List UInt8} (hbefore : s.files path = some before)
    (index size : Nat) (chunks : List (List UInt8)) :
    Ends
      (fun size' t => size' = size + (chunks.takeWhile (· ≠ [])).flatten.length ∧
        t = withFile s path (some (before ++ (chunks.takeWhile (· ≠ [])).flatten)))
      (fun _ t => ∃ content, t = withFile s path content)
      (world.writeChunks path index size chunks) s := by
  -- `before` is what the file holds, so only this file differs from `s` wherever it stops
  induction chunks generalizing s before index size with
  | nil =>
      have hstopped : ∃ content, s = withFile s path content :=
        ⟨_, (withFile_self hbefore).symm⟩
      refine ends_call_bind (fun _ => hstopped) (ends_pure ⟨rfl, ?_⟩)
      rw [List.takeWhile_nil, List.flatten_nil, List.append_nil, withFile_self hbefore]
  | cons chunk rest ih =>
      have hstopped : ∃ content, s = withFile s path content :=
        ⟨_, (withFile_self hbefore).symm⟩
      refine ends_call_bind (fun _ => hstopped) ?_
      split
      · rename_i hempty
        refine ends_pure ?_
        rw [List.takeWhile_cons_of_neg (by simpa using hempty), List.flatten_nil,
          List.append_nil, withFile_self hbefore]
        exact ⟨rfl, rfl⟩
      · rename_i hchunk
        split
        · exact ends_throw hstopped
        refine ends_call_bind (fun _ => hstopped) (ends_modify_bind ?_)
        rw [List.takeWhile_cons_of_pos (by simpa using hchunk), hbefore]
        have hnext : (withFile s path (some (before ++ chunk))).files path =
            some (before ++ chunk) :=
          Function.update_self path _ s.files
        refine (ih hnext (index + 1) (size + chunk.length)).imp ?_ ?_
        · rintro size' t ⟨rfl, rfl⟩
          rw [withFile_withFile, List.flatten_cons, List.length_append, List.append_assoc,
            Nat.add_assoc]
          exact ⟨rfl, rfl⟩
        · rintro e t ⟨content, rfl⟩
          exact ⟨content, withFile_withFile path _ content⟩

/-- The temporary file has what was streamed, or is gone. -/
theorem ends_streamUpload (hcleanup : ∀ step, world.cleanupRaises step = none)
    (hfresh : s.files world.tempName = none) :
    Ends
      (fun result t => result.1 = world.tempName ∧ result.2.1 = world.streamed.length ∧
        t = withFile s world.tempName (some world.streamed))
      (fun _ t => t = s) world.streamUpload s := by
  have hempty : (withFile s world.tempName (some [])).files world.tempName = some [] :=
    Function.update_self world.tempName _ s.files
  refine ends_call_bind (fun _ => rfl) (ends_modify_bind ?_)
  have hwrite : Ends
      (fun size t => size = world.streamed.length ∧
        t = withFile s world.tempName (some world.streamed))
      (fun _ t => ∃ content, t = withFile s world.tempName content)
      (world.writeFile world.tempName) (withFile s world.tempName (some [])) := by
    refine ends_call_bind (fun _ => ⟨_, rfl⟩) ?_
    refine ((ends_writeChunks hempty 0 0 world.chunks).imp (fun _ _ h => h) ?_).bind ?_
    · rintro e t ⟨content, rfl⟩
      exact ⟨content, withFile_withFile world.tempName _ content⟩
    · rintro size t ⟨rfl, rfl⟩
      rw [withFile_withFile, List.nil_append, Nat.zero_add]
      refine ends_call_bind (fun _ => ⟨_, rfl⟩) ?_
      split
      · exact ends_throw ⟨_, rfl⟩
      · exact ends_pure ⟨rfl, rfl⟩
  refine (hwrite.tryCatch (F := fun _ t => t = s) ?_).bind ?_
  · rintro e t ⟨content, rfl⟩
    -- the handler removes whatever the loop has left
    refine Ends.bind (Q := fun _ t => t = s) ?_ ?_
    · rw [Ends, unlink_ok hcleanup]
      show withFile (withFile s world.tempName content) world.tempName none = s
      rw [withFile_withFile, withFile_self hfresh]
    · rintro _ t rfl
      exact ends_throw rfl
  · rintro size t ⟨rfl, rfl⟩
    exact ends_pure ⟨rfl, rfl, rfl⟩

theorem ends_probeVideo : Ends (fun _ t => t = s) (fun _ t => t = s) world.probeVideo s := by
  refine ends_call_bind (fun _ => rfl) ?_
  cases world.probeRun with
  | timeout => exact ends_throw rfl
  | exited returncode stdout diagnostic =>
      dsimp only
      split
      · exact ends_throw rfl
      · cases Probe.parseProbePayload world.python world.loads stdout with
        | ok metadata => exact ends_pure rfl
        | error e => exact ends_throw rfl

/-- The state with an object of this content. -/
def withObject (s : UploadState) (key : String) (content : Option (List UInt8)) : UploadState :=
  { s with objects := Function.update s.objects key content }

theorem withObject_self {key : String} {content : Option (List UInt8)}
    (h : s.objects key = content) : withObject s key content = s := by
  rw [withObject, ← h, Function.update_eq_self]

theorem ends_statVideo {key : String} :
    Ends (fun info t => ∃ content, s.objects key = some content ∧ info.size = content.length ∧ t = s)
      (fun _ t => t = s) (world.statVideo key) s := by
  refine ends_call_bind (fun _ => rfl) (ends_get_bind ?_)
  cases hcontent : s.objects key with
  | none => exact ends_throw rfl
  | some content => exact ends_pure ⟨content, rfl, rfl, rfl⟩

/-- An object is stored under a valid key only, and is there if the upload returns. -/
theorem ends_uploadVideo {key path : String} (hfresh : s.objects key = none) :
    Ends
      (fun info t => ∃ content, videoObjectKey key = true ∧ info.size = content.length ∧
        t = withObject s key (some content))
      (fun _ t => ∃ content, (content = none ∨ videoObjectKey key = true) ∧
        t = withObject s key content)
      (world.uploadVideo key path) s := by
  have hnone : withObject s key none = s := withObject_self hfresh
  unfold uploadVideo
  split
  · exact ends_throw ⟨none, .inl rfl, hnone.symm⟩
  · rename_i hkey
    have hkey : videoObjectKey key = true := by simpa using hkey
    refine ends_get_bind ?_
    cases s.files path with
    | none => exact ends_throw ⟨none, .inl rfl, hnone.symm⟩
    | some file =>
        dsimp only
        split
        · exact ends_throw ⟨none, .inl rfl, hnone.symm⟩
        refine ends_modify_bind ?_
        have hput : { s with
            objects := match world.put file with
              | some stored => Function.update s.objects key (some stored)
              | none => s.objects } = withObject s key (world.put file) := by
          cases world.put file with
          | none => exact hnone.symm
          | some stored => rfl
        rw [hput]
        -- both calls behind the upload may raise, with the object there or not
        refine ends_call_bind (fun _ => ⟨_, .inr hkey, rfl⟩) (ends_statVideo.imp ?_ ?_)
        · rintro info t ⟨content, hcontent, hsize, rfl⟩
          have hstored : world.put file = some content := by
            rw [← hcontent]
            exact (Function.update_self key _ s.objects).symm
          exact ⟨content, hkey, hsize, by rw [hstored]⟩
        · rintro e t rfl
          exact ⟨_, .inr hkey, rfl⟩

/-- The row is added, or nothing is. -/
theorem ends_createJob {job : SourcedJob} :
    Ends (fun _ t => t.jobs.rows = s.jobs.rows ++ [job] ∧ t = { s with jobs := t.jobs })
      (fun _ t => t = s) (world.createJob job) s := by
  refine ends_call_bind (fun _ => rfl) (ends_get_bind ?_)
  split
  · exact ends_throw rfl
  · rename_i hunique
    refine ends_modify ⟨Table.insert_rows fun hmem => hunique ?_, rfl⟩
    obtain ⟨other, hother, hkey⟩ := List.mem_map.mp hmem
    exact List.any_eq_true.mpr ⟨other, hother, decide_eq_true (.inl hkey)⟩

end UploadWorld

end Mvision.Video
