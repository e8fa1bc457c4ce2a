import Mvision.Gallery.Enrollment
import Mvision.Library.Sorting
import Mvision.Video.ProcessRecord

/-!
# `RecognitionService.recognize`

A recognition matches each face of an image and keeps those that are new.  It commits at every
step: its process, the new identities and samples one by one, and last the results together with
the end of the process.  Anybody else may write between two steps.
-/

namespace Mvision.Gallery

open Mvision.Library

/-! ## Images and answers -/

/-- `_box` -/
structure BoundingBox where
  x : ℚ
  y : ℚ
  width : ℚ
  height : ℚ
deriving DecidableEq, Repr

/-- What a worker returns of a face. -/
structure Detection extends FaceDetection where
  boundingBox : BoundingBox
  detectorConfidence : ℚ
deriving DecidableEq, Repr

inductive FaceStatus where
  | known
  | anonymous
  | newAnonymous
deriving DecidableEq, Repr

def LifecycleStatus.faceStatus : LifecycleStatus → FaceStatus
  | .known => .known
  | .anonymous => .anonymous

/-- A face of the answer. -/
structure RecognizedFace where
  faceId : String
  status : FaceStatus
  name : Option String
  metadata : Option (List (String × String))
  boundingBox : BoundingBox
  confidence : ℚ
deriving DecidableEq, Repr

structure FaceSnapshot extends RecognizedFace where
  detectorConfidence : ℚ
  matchedSampleId : String
deriving DecidableEq, Repr

structure RecognizeResponse where
  processId : String
  faceCount : Nat
  faces : List RecognizedFace
deriving DecidableEq, Repr

/-- A row of `recognition_result`. -/
structure RecognitionResult where
  processId : String
  detectionOrdinal : Nat
  faceId : String
  statusSnapshot : FaceStatus
  nameSnapshot : Option String
  metadataSnapshot : List (String × String)
  boundingBox : BoundingBox
  detectorConfidence : ℚ
  matchConfidence : ℚ
  matchedSampleId : Option String
deriving DecidableEq, Repr

/-- The stores of the gallery, the processes and the results. -/
structure Recognitions where
  stores : Stores := {}
  processes : Video.Processes := .empty
  results : List RecognitionResult := []

namespace Recognitions

def withStores (s : Recognitions) (f : Stores → Stores) : Recognitions :=
  { s with stores := f s.stores }

def withProcesses (s : Recognitions) (f : Video.Processes → Video.Processes) : Recognitions :=
  { s with processes := f s.processes }

/-- `RecognitionResultRepository.get_by_process` -/
def getByProcess (s : Recognitions) (processId : String) : List RecognitionResult :=
  (s.results.filter fun row => row.processId = processId).insertionSort
    fun row row' => row.detectionOrdinal ≤ row'.detectionOrdinal

end Recognitions

/-! ## The world of a call -/

/-- The exceptions that `recognize` tells apart. -/
inductive RecognizeError where
  | gpuWorkerError
  | serviceError (errorCode : String)
  | objectStorageError (code : String)
  | vectorStoreError (code : String)
  | other
deriving DecidableEq, Repr

/-- The code that is recorded, and the one that is raised. -/
def RecognizeError.codes : RecognizeError → String × String
  | .gpuWorkerError => ("INFERENCE_ERROR", "INFERENCE_ERROR")
  | .serviceError errorCode => (errorCode, errorCode)
  | _ => ("INTERNAL_ERROR", "INFERENCE_ERROR")

inductive FaceStep where
  | search
  | ensure
  | upload
  | updateBlobReady
  | upsert
  | setActive
  | recordFailure
deriving DecidableEq, Repr

inductive RecognizeStep where
  | createProcess
  | process
  | face (ordinal : Nat) (step : FaceStep)
  | storeResults
  | fail
deriving DecidableEq, Repr

/-- The settings, what the workers, the stores and the clock answer during a call, and what others
write before each of its steps. -/
structure RecognizeWorld where
  processId : String
  recognitionThreshold : ℚ
  anonymousThreshold : ℚ
  versions : ModelVersions
  detections : List Detection
  search : Search
  now : RecognizeStep → Timestamp
  raises : RecognizeStep → Option RecognizeError
  others : RecognizeStep → Recognitions → Recognitions
  /-- An upsert that raises has stored the point. -/
  upserted : Nat → Bool
  newFaceId : Nat → String
  newSampleId : Nat → String

abbrev Recognizing := Saga Recognitions RecognizeError

namespace RecognizeWorld

variable (world : RecognizeWorld)

/-- What comes before a step, and whether it raises. -/
def call (step : RecognizeStep) : Recognizing Unit := do
  modify (world.others step)
  match world.raises step with
  | some e => throw e
  | none => pure ()

/-- A transaction; an exception rolls it back. -/
def transaction (step : RecognizeStep) (f : Recognitions → Recognitions) : Recognizing Unit := do
  world.call step
  modify f

/-- What `FaceMatcher` sees of the world. -/
def matcher : EnrollWorld where
  recognitionThreshold := world.recognitionThreshold
  anonymousThreshold := world.anonymousThreshold
  versions := world.versions
  faces := []
  search := world.search
  raises _ := none
  recordFailureRaises := false
  newFaceId := ""
  newSampleId := ""

/-- `FaceMatcher.match` -/
def matchFace (ordinal : Nat) (embedding : List ℚ) : Recognizing (Option FaceMatch) := do
  world.call (.face ordinal .search)
  let s ← get
  match world.matcher.matchFace s.stores embedding with
  | .error _ => throw .other
  | .ok found => return found

/-! ## `FaceSamplePersistenceService.persist` without `manage_process` -/

/-- `_record_failure`, whose exceptions are passed over. -/
def recordFailure (ordinal : Nat) (errorCode : String) : Recognizing Unit :=
  tryCatch
    (world.transaction (.face ordinal .recordFailure) fun s =>
      (s.withStores (·.setFailed (world.newSampleId ordinal) errorCode)).withProcesses
        (Video.ProcessRecordRepository.fail world.processId errorCode
          (world.now (.face ordinal .recordFailure))))
    fun _ => pure ()

/-- A part whose exceptions are recorded and replaced. -/
def recorded (ordinal : Nat) (failureCode : RecognizeError → String) (raised : String)
    (part : Recognizing Unit) : Recognizing Unit :=
  tryCatch part fun e => do
    world.recordFailure ordinal (failureCode e)
    throw (.serviceError raised)

def storageFailure : RecognizeError → String
  | .objectStorageError code => code
  | _ => "STORAGE_ERROR"

def vectorFailure : RecognizeError → String
  | .vectorStoreError code => code
  | _ => "VECTOR_STORE_ERROR"

/-- The identity of a new face. -/
def identity (ordinal : Nat) : FaceIdentity where
  faceId := world.newFaceId ordinal

/-- The point of its sample. -/
def point (ordinal : Nat) (vector : List ℚ) : VectorPoint where
  sampleId := world.newSampleId ordinal
  faceId := world.newFaceId ordinal
  vector := vector
  embeddingModelVersion := world.versions.modelVersion
  preprocessVersion := world.versions.preprocessVersion

def storePoint (ordinal : Nat) (vector : List ℚ) : Recognizing Unit :=
  modify fun s => s.withStores (·.upsert (world.point ordinal vector))

/-- The upsert; its answer may be lost. -/
def upsert (ordinal : Nat) (vector : List ℚ) : Recognizing Unit := do
  tryCatch (world.call (.face ordinal .upsert)) fun e =>
    if world.upserted ordinal then do
      world.storePoint ordinal vector
      throw e
    else throw e
  world.storePoint ordinal vector

/-- The last transaction of `persist`. -/
def finalize (ordinal : Nat) : Recognizing Unit := do
  world.call (.face ordinal .setActive)
  let s ← get
  if (s.stores.samples.get (world.newSampleId ordinal)).isSome then
    modify fun s => s.withStores (·.setActive (world.newSampleId ordinal))
  else do
    world.recordFailure ordinal "PG_FINALIZATION_ERROR"
    throw (.serviceError "PG_FINALIZATION_ERROR")

/-- What follows the first transaction of `persist`. -/
def persistSample (ordinal : Nat) (vector : List ℚ) : Recognizing Unit := do
  world.recorded ordinal storageFailure "STORAGE_ERROR" (world.call (.face ordinal .upload))
  world.transaction (.face ordinal .updateBlobReady)
    fun s => s.withStores (·.updateBlobReady (world.newSampleId ordinal))
  world.recorded ordinal vectorFailure "VECTOR_STORE_ERROR" (world.upsert ordinal vector)
  world.finalize ordinal

def persist (ordinal : Nat) (vector : List ℚ) : Recognizing Unit := do
  world.call (.face ordinal .ensure)
  let s ← get
  modify fun s => s.withStores
    (·.ensureIdentityAndSample (world.identity ordinal) (world.newSampleId ordinal))
  if s.stores.alreadyActive (world.newSampleId ordinal) then pure ()
  else world.persistSample ordinal vector

/-! ## `recognize` -/

/-- `require_aligned_face_evidence`, and the points that are read from the landmarks. -/
def requireEvidence (detection : Detection) : Recognizing Unit :=
  if detection.alignedJpeg = [] then throw (.serviceError "INFERENCE_ERROR")
  else if detection.landmarksXy.length < 10 then throw .other
  else pure ()

/-- The snapshot of a face that is new. -/
def newSnapshot (ordinal : Nat) (detection : Detection) : FaceSnapshot where
  faceId := world.newFaceId ordinal
  status := .newAnonymous
  name := none
  metadata := none
  boundingBox := detection.boundingBox
  confidence := 0
  detectorConfidence := detection.detectorConfidence
  matchedSampleId := world.newSampleId ordinal

end RecognizeWorld

/-- The snapshot of a face that matches. -/
def FaceMatch.snapshot (found : FaceMatch) (detection : Detection) : FaceSnapshot where
  faceId := found.identity.faceId
  status := found.identity.lifecycleStatus.faceStatus
  name := if found.identity.lifecycleStatus = .known then found.identity.name else none
  metadata := if found.identity.lifecycleStatus = .known then some found.identity.metadata else none
  boundingBox := detection.boundingBox
  confidence := found.score
  detectorConfidence := detection.detectorConfidence
  matchedSampleId := found.sampleId

/-- The row of a snapshot. -/
def FaceSnapshot.row (snapshot : FaceSnapshot) (processId : String) (ordinal : Nat) :
    RecognitionResult where
  processId := processId
  detectionOrdinal := ordinal
  faceId := snapshot.faceId
  statusSnapshot := snapshot.status
  nameSnapshot := snapshot.name
  metadataSnapshot := snapshot.metadata.getD []
  boundingBox := snapshot.boundingBox
  detectorConfidence := snapshot.detectorConfidence
  matchConfidence := snapshot.confidence
  matchedSampleId := some snapshot.matchedSampleId

namespace RecognizeWorld

variable (world : RecognizeWorld)

/-- The loop over the faces, one turn. -/
def recognizeFace (ordinal : Nat) (detection : Detection) : Recognizing FaceSnapshot := do
  match ← world.matchFace ordinal detection.embedding with
  | none =>
      requireEvidence detection
      world.persist ordinal detection.embedding
      return world.newSnapshot ordinal detection
  | some found => return found.snapshot detection

def recognizeFaces : Nat → List Detection → Recognizing (List FaceSnapshot)
  | _, [] => return []
  | ordinal, detection :: detections => do
      let snapshot ← world.recognizeFace ordinal detection
      let snapshots ← recognizeFaces (ordinal + 1) detections
      return snapshot :: snapshots

/-- The rows of all snapshots. -/
def rows (snapshots : List FaceSnapshot) : List RecognitionResult :=
  snapshots.zipIdx.map fun snapshot => snapshot.1.row world.processId snapshot.2

/-- The last transaction. -/
def storeResults (snapshots : List FaceSnapshot) : Recognizing Unit :=
  world.transaction .storeResults fun s =>
    { s with
      processes := Video.ProcessRecordRepository.complete world.processId snapshots.length
        (world.now .storeResults) s.processes
      results := s.results ++ world.rows snapshots }

/-- The body of the `try`. -/
def recognition : Recognizing RecognizeResponse := do
  world.call .process
  let snapshots ← world.recognizeFaces 0 world.detections
  world.storeResults snapshots
  return ⟨world.processId, snapshots.length, snapshots.map (·.toRecognizedFace)⟩

/-- `_fail`, whose exceptions are passed over. -/
def fail (code : String) : Recognizing Unit :=
  tryCatch
    (world.transaction .fail fun s => s.withProcesses
      (Video.ProcessRecordRepository.fail world.processId code (world.now .fail)))
    fun _ => pure ()

/-- The first transaction; the process is a key. -/
def createProcess : Recognizing Unit := do
  world.call .createProcess
  let s ← get
  if (s.processes.get world.processId).isSome then throw .other
  else modify fun s => s.withProcesses (Video.ProcessRecordRepository.create world.processId
    "recognize")

def recognize : Recognizing RecognizeResponse := do
  world.createProcess
  tryCatch world.recognition fun e => do
    world.fail e.codes.1
    throw (.serviceError e.codes.2)

/-! ## What others do -/

/-- Others leave the process and its results alone. -/
def Undisturbed : Prop :=
  ∀ step s, (world.others step s).processes.get world.processId = s.processes.get world.processId ∧
    (world.others step s).results.filter (fun row => row.processId = world.processId) =
      s.results.filter fun row => row.processId = world.processId

/-- The process has begun and is not completed, and it has no results. -/
def Open (s : Recognitions) : Prop :=
  s.results.filter (fun row => row.processId = world.processId) = [] ∧
    ∃ record, s.processes.get world.processId = some record ∧ record.status ≠ .completed

end RecognizeWorld

/-! ## Before the last transaction -/

namespace RecognizeWorld

variable {world : RecognizeWorld} {s t : Recognitions}

theorem Open.withStores (h : world.Open s) (f : Stores → Stores) : world.Open (s.withStores f) := h

theorem get_fail {processId : String} {processes : Video.Processes} {record : Video.ProcessRecord}
    (errorCode : String) (now : Timestamp) (h : processes.get processId = some record) :
    (Video.ProcessRecordRepository.fail processId errorCode now processes).get processId =
      some { record with
        status := .failed
        errorCode := some errorCode
        completedAt := some now } := by
  unfold Video.ProcessRecordRepository.fail
  rw [Table.get_update, if_pos rfl, h]
  rfl

theorem get_complete {processId : String} {processes : Video.Processes}
    {record : Video.ProcessRecord} (faceCount : Int) (now : Timestamp)
    (h : processes.get processId = some record) :
    (Video.ProcessRecordRepository.complete processId faceCount now processes).get processId =
      some { record with status := .completed, faceCount, completedAt := some now } := by
  unfold Video.ProcessRecordRepository.complete
  rw [Table.get_update, if_pos rfl, h]
  rfl

/-- A failure is recorded in a process that is open. -/
theorem Open.fail (h : world.Open s) (errorCode : String) (now : Timestamp) :
    world.Open (s.withProcesses
      (Video.ProcessRecordRepository.fail world.processId errorCode now)) := by
  obtain ⟨hrows, record, hrecord, -⟩ := h
  exact ⟨hrows, _, get_fail errorCode now hrecord, Video.ProcessStatus.noConfusion⟩

theorem open_call (hothers : world.Undisturbed) (step : RecognizeStep) :
    (world.call step).Keeps (Saga.Stays world.Open) := by
  have hmodify : (modify (world.others step) : Recognizing PUnit).Keeps
      (Saga.Stays world.Open) := by
    rintro s ⟨hrows, record, hrecord, hstatus⟩
    obtain ⟨hprocess, hresults⟩ := hothers step s
    exact ⟨hresults.trans hrows, record, hprocess.trans hrecord, hstatus⟩
  unfold call
  refine hmodify.bind fun _ => ?_
  split
  · exact Saga.Keeps.throw _
  · exact Saga.Keeps.pure _

theorem open_transaction (hothers : world.Undisturbed) {step : RecognizeStep}
    {f : Recognitions → Recognitions} (hf : ∀ s, world.Open s → world.Open (f s)) :
    (world.transaction step f).Keeps (Saga.Stays world.Open) :=
  (open_call hothers step).bind fun _ => Saga.keeps_modify hf

theorem open_recordFailure (hothers : world.Undisturbed) (ordinal : Nat) (errorCode : String) :
    (world.recordFailure ordinal errorCode).Keeps (Saga.Stays world.Open) := by
  unfold recordFailure
  refine (open_transaction hothers fun s h => ?_).tryCatch fun _ => Saga.Keeps.pure _
  exact (h.withStores _).fail _ _

theorem open_recorded (hothers : world.Undisturbed) {ordinal : Nat}
    {failureCode : RecognizeError → String} {raised : String} {part : Recognizing Unit}
    (hpart : part.Keeps (Saga.Stays world.Open)) :
    (world.recorded ordinal failureCode raised part).Keeps (Saga.Stays world.Open) :=
  hpart.tryCatch fun _ => (open_recordFailure hothers _ _).bind fun _ => Saga.Keeps.throw _

theorem open_upsert (hothers : world.Undisturbed) (ordinal : Nat) (vector : List ℚ) :
    (world.upsert ordinal vector).Keeps (Saga.Stays world.Open) := by
  have hstore : (world.storePoint ordinal vector).Keeps (Saga.Stays world.Open) :=
    Saga.keeps_modify fun s h => h.withStores _
  unfold upsert
  refine ((open_call hothers _).tryCatch fun e => ?_).bind fun _ => hstore
  split
  · exact hstore.bind fun _ => Saga.Keeps.throw e
  · exact Saga.Keeps.throw e

theorem open_persist (hothers : world.Undisturbed) (ordinal : Nat) (vector : List ℚ) :
    (world.persist ordinal vector).Keeps (Saga.Stays world.Open) := by
  unfold persist persistSample finalize
  refine (open_call hothers _).bind fun _ => Saga.Keeps.get.bind fun s => ?_
  refine (Saga.keeps_modify fun s h => h.withStores _).bind fun _ => ?_
  split
  · exact Saga.Keeps.pure _
  refine (open_recorded hothers (open_call hothers _)).bind fun _ => ?_
  refine (open_transaction hothers fun s h => h.withStores _).bind fun _ => ?_
  refine (open_recorded hothers (open_upsert hothers _ _)).bind fun _ => ?_
  refine (open_call hothers _).bind fun _ => Saga.Keeps.get.bind fun s => ?_
  split
  · exact Saga.keeps_modify fun s h => h.withStores _
  · exact (open_recordFailure hothers _ _).bind fun _ => Saga.Keeps.throw _

theorem keeps_requireEvidence {R : Recognitions → Recognitions → Prop} [Std.Refl R]
    (detection : Detection) : (requireEvidence detection).Keeps R := by
  unfold requireEvidence
  split
  · exact Saga.Keeps.throw _
  · split
    · exact Saga.Keeps.throw _
    · exact Saga.Keeps.pure _

theorem open_recognizeFace (hothers : world.Undisturbed) (ordinal : Nat) (detection : Detection) :
    (world.recognizeFace ordinal detection).Keeps (Saga.Stays world.Open) := by
  have hmatch : (world.matchFace ordinal detection.embedding).Keeps (Saga.Stays world.Open) := by
    unfold matchFace
    refine (open_call hothers _).bind fun _ => Saga.Keeps.get.bind fun s => ?_
    split
    · exact Saga.Keeps.throw _
    · exact Saga.Keeps.pure _
  unfold recognizeFace
  refine hmatch.bind fun found => ?_
  split
  · exact (keeps_requireEvidence detection).bind fun _ =>
      (open_persist hothers _ _).bind fun _ => Saga.Keeps.pure _
  · exact Saga.Keeps.pure _

theorem open_recognizeFaces (hothers : world.Undisturbed) (detections : List Detection) :
    ∀ ordinal, (world.recognizeFaces ordinal detections).Keeps (Saga.Stays world.Open) := by
  induction detections with
  | nil => exact fun _ => Saga.Keeps.pure _
  | cons detection detections ih =>
      exact fun ordinal => (open_recognizeFace hothers ordinal detection).bind fun _ =>
        (ih (ordinal + 1)).bind fun _ => Saga.Keeps.pure _

/-! ## The answer -/

/-- The face is the one that was detected. -/
def Depicts (face : FaceSnapshot) (detection : Detection) : Prop :=
  face.boundingBox = detection.boundingBox ∧
    face.detectorConfidence = detection.detectorConfidence

theorem depicts_of_ok {ordinal : Nat} {detection : Detection} {snapshot : FaceSnapshot}
    (h : world.recognizeFace ordinal detection s = .ok snapshot t) :
    Depicts snapshot detection := by
  unfold recognizeFace at h
  obtain ⟨found, u, -, h⟩ := Saga.bind_ok_iff.mp h
  cases found with
  | none =>
      obtain ⟨_, v, -, h⟩ := Saga.bind_ok_iff.mp h
      obtain ⟨_, w, -, h⟩ := Saga.bind_ok_iff.mp h
      rw [(Saga.pure_ok_iff.mp h).1]
      exact ⟨rfl, rfl⟩
  | some found =>
      rw [(Saga.pure_ok_iff.mp h).1]
      exact ⟨rfl, rfl⟩

theorem depicts_of_faces_ok {detections : List Detection} {ordinal : Nat}
    {snapshots : List FaceSnapshot}
    (h : world.recognizeFaces ordinal detections s = .ok snapshots t) :
    List.Forall₂ Depicts snapshots detections := by
  induction detections generalizing ordinal s t snapshots with
  | nil =>
      rw [(Saga.pure_ok_iff.mp h).1]
      exact .nil
  | cons detection detections ih =>
      obtain ⟨snapshot, u, hsnapshot, h⟩ := Saga.bind_ok_iff.mp h
      obtain ⟨rest, v, hrest, h⟩ := Saga.bind_ok_iff.mp h
      rw [(Saga.pure_ok_iff.mp h).1]
      exact .cons (depicts_of_ok hsnapshot) (ih hrest)

theorem processId_of_mem_rows {snapshots : List FaceSnapshot} {row : RecognitionResult}
    (h : row ∈ world.rows snapshots) : row.processId = world.processId := by
  obtain ⟨_, -, rfl⟩ := List.mem_map.mp h
  rfl

/-- The rows are in the order of their ordinals. -/
theorem pairwise_rows (snapshots : List FaceSnapshot) :
    (world.rows snapshots).Pairwise fun row row' =>
      row.detectionOrdinal ≤ row'.detectionOrdinal := by
  unfold rows
  rw [List.pairwise_map]
  have hsorted : (snapshots.zipIdx.map Prod.snd).Pairwise (· ≤ ·) := by
    rw [List.zipIdx_map_snd]
    exact List.pairwise_le_range'
  exact List.pairwise_map.mp hsorted

/-- What is read of the process after its results are stored. -/
theorem getByProcess_rows (h : s.results.filter (fun row => row.processId = world.processId) = [])
    (snapshots : List FaceSnapshot) (processes : Video.Processes) :
    ({ s with
      processes := processes
      results := s.results ++ world.rows snapshots } : Recognitions).getByProcess world.processId =
        world.rows snapshots := by
  have hall : (world.rows snapshots).filter (fun row => row.processId = world.processId) =
      world.rows snapshots :=
    List.filter_eq_self.mpr fun row hrow => decide_eq_true (processId_of_mem_rows hrow)
  unfold Recognitions.getByProcess
  rw [List.filter_append, h, List.nil_append, hall]
  exact (pairwise_rows snapshots).insertionSort_eq

/-- The process is completed, and what was answered is what can be read of it. -/
structure Answered (world : RecognizeWorld) (response : RecognizeResponse) (t : Recognitions) :
    Prop where
  record : ∃ record, t.processes.get world.processId = some record ∧
    record.status = .completed ∧ record.faceCount = response.faceCount
  faces : ∃ snapshots, List.Forall₂ Depicts snapshots world.detections ∧
    response = ⟨world.processId, snapshots.length, snapshots.map (·.toRecognizedFace)⟩ ∧
    t.getByProcess world.processId = world.rows snapshots

/-- The process has no results and is not completed.  It has failed, unless that could not be
recorded. -/
structure Refused (world : RecognizeWorld) (t : Recognitions) : Prop where
  rows : t.getByProcess world.processId = []
  record : ∀ record, t.processes.get world.processId = some record →
    record.status ≠ .completed ∧ (world.raises .fail = none → record.status = .failed)

theorem getByProcess_of_filter
    (h : s.results.filter (fun row => row.processId = world.processId) = []) :
    s.getByProcess world.processId = [] := by
  unfold Recognitions.getByProcess
  rw [h]
  rfl

/-- A step has the state that others leave it. -/
theorem ends_call (step : RecognizeStep) (s : Recognitions) :
    Saga.Ends (fun _ t => t = world.others step s ∧ world.raises step = none)
      (fun e t => t = world.others step s ∧ world.raises step = some e) (world.call step) s := by
  unfold call
  refine Saga.ends_modify_bind ?_
  cases h : world.raises step with
  | some e => exact Saga.ends_throw ⟨rfl, rfl⟩
  | none => exact Saga.ends_pure ⟨rfl, rfl⟩

theorem Open.others (hothers : world.Undisturbed) (h : world.Open s) (step : RecognizeStep) :
    world.Open (world.others step s) := by
  obtain ⟨hrows, record, hrecord, hstatus⟩ := h
  obtain ⟨hprocess, hresults⟩ := hothers step s
  exact ⟨hresults.trans hrows, record, hprocess.trans hrecord, hstatus⟩

theorem ends_storeResults (hothers : world.Undisturbed) (h : world.Open s)
    {snapshots : List FaceSnapshot} (hshown : List.Forall₂ Depicts snapshots world.detections) :
    Saga.Ends (fun _ => world.Answered
        ⟨world.processId, snapshots.length, snapshots.map (·.toRecognizedFace)⟩)
      (fun _ => world.Open) (world.storeResults snapshots) s := by
  unfold storeResults transaction
  refine ((open_call hothers .storeResults).ends s).imp (fun _ t ht => ht.2 h)
    (fun _ t ht => ht.2 h) |>.bind fun _ t ht => Saga.ends_modify ?_
  obtain ⟨hrows, record, hrecord, -⟩ := ht
  exact ⟨⟨_, get_complete snapshots.length _ hrecord, rfl, rfl⟩, snapshots, hshown, rfl,
    getByProcess_rows hrows snapshots _⟩

theorem ends_recognition (hothers : world.Undisturbed) (h : world.Open s) :
    Saga.Ends world.Answered (fun _ => world.Open) world.recognition s := by
  unfold recognition
  have hprocess := ((open_call hothers .process).ends s).imp (fun _ t ht => ht.2 h)
    fun _ t ht => ht.2 h
  refine hprocess.bind fun _ t ht => ?_
  have hfaces := (open_recognizeFaces hothers world.detections 0).ends t
  refine (hfaces.imp (fun snapshots u hu => hu) fun _ u hu => hu.2 ht).bind
    fun snapshots u hu => ?_
  exact (ends_storeResults hothers (hu.2 ht) (depicts_of_faces_ok hu.1)).bind
    fun _ v hv => Saga.ends_pure hv

theorem Open.refused (h : world.Open s) (hraises : world.raises .fail ≠ none) :
    world.Refused s := by
  obtain ⟨hrows, record, hrecord, hstatus⟩ := h
  refine ⟨getByProcess_of_filter hrows, fun other hother => ?_⟩
  obtain rfl := Option.some.inj (hrecord.symm.trans hother)
  exact ⟨hstatus, fun hnone => absurd hnone hraises⟩

/-- `_fail` does not raise, and records the failure if it can. -/
theorem ends_fail (hothers : world.Undisturbed) (h : world.Open s) (code : String) :
    Saga.Ends (fun _ => world.Refused) (fun _ _ => False) (world.fail code) s := by
  unfold fail
  suffices h : Saga.Ends (fun _ => world.Refused) (fun _ => world.Refused)
      (world.transaction .fail fun s => s.withProcesses
        (Video.ProcessRecordRepository.fail world.processId code (world.now .fail))) s from
    h.tryCatch fun _ t ht => Saga.ends_pure ht
  unfold transaction
  refine ((ends_call .fail s).imp (fun _ t ht => ht.1) fun e t ht => ?_).bind fun _ t ht => ?_
  · rw [ht.1]
    refine (h.others hothers .fail).refused ?_
    rw [ht.2]
    exact Option.some_ne_none e
  · subst ht
    obtain ⟨hrows, record, hrecord, -⟩ := h.others hothers .fail
    refine Saga.ends_modify ⟨getByProcess_of_filter hrows, fun other hother => ?_⟩
    obtain rfl := Option.some.inj ((get_fail code _ hrecord).symm.trans hother)
    exact ⟨Video.ProcessStatus.noConfusion, fun _ => rfl⟩

/-- A process that is new is open when the first transaction is through. -/
theorem ends_createProcess (hothers : world.Undisturbed)
    (hnew : s.processes.get world.processId = none)
    (hrows : s.results.filter (fun row => row.processId = world.processId) = []) :
    Saga.Ends (fun _ => world.Open) (fun _ => world.Refused) world.createProcess s := by
  obtain ⟨hprocess, hresults⟩ := hothers .createProcess s
  have habsent : (world.others .createProcess s).processes.get world.processId = none :=
    hprocess.trans hnew
  have hrefused : world.Refused (world.others .createProcess s) := by
    refine ⟨getByProcess_of_filter (hresults.trans hrows), fun record hrecord => ?_⟩
    rw [habsent] at hrecord
    cases hrecord
  unfold createProcess
  refine ((ends_call .createProcess s).imp (fun _ t ht => ht.1) fun _ t ht => ?_).bind
    fun _ t ht => Saga.ends_get_bind ?_
  · rw [ht.1]
    exact hrefused
  · subst ht
    rw [habsent, if_neg (by simp)]
    exact Saga.ends_modify ⟨hresults.trans hrows,
      ⟨world.processId, "recognize", .started, 0, none, none⟩, Table.get_insert_self habsent,
      Video.ProcessStatus.noConfusion⟩

end RecognizeWorld

/-- However the steps of a recognition end, and whatever others write in between: it returns
exactly if its process is completed, and then the results of the process are the faces of the
answer, one for each face of the image and in their order; if it raises there are no results. -/
theorem recognize_recorded {world : RecognizeWorld} (hothers : world.Undisturbed)
    {s : Recognitions} (hnew : s.processes.get world.processId = none)
    (hrows : s.results.filter (fun row => row.processId = world.processId) = []) :
    Saga.Ends world.Answered (fun _ => world.Refused) world.recognize s := by
  unfold RecognizeWorld.recognize
  refine (RecognizeWorld.ends_createProcess hothers hnew hrows).bind fun _ t hopen => ?_
  refine (RecognizeWorld.ends_recognition hothers hopen).tryCatch fun e u hu => ?_
  refine ((RecognizeWorld.ends_fail hothers hu e.codes.1).imp (fun _ v hv => hv)
    fun _ _ h => h.elim).bind fun _ v hv => Saga.ends_throw hv

/-- A gallery with a known identity. -/
def sampleGallery : Recognitions where
  stores := {
    identities := Table.empty.insert { faceId := "ada", lifecycleStatus := .known, name := "Ada" }
    samples := Table.empty.insert { sampleId := "first", faceId := "ada", lifecycleState := .active }
    vectors := Table.empty.insert {
      sampleId := "first"
      faceId := "ada"
      vector := [1, 0]
      embeddingModelVersion := "model"
      preprocessVersion := "preprocess" } }

def sampleDetectionOf (embedding : List ℚ) : Detection where
  embedding := embedding
  landmarksXy := List.replicate 10 0
  alignedJpeg := [0xff, 0xd8]
  boundingBox := ⟨0, 0, 1, 1⟩
  detectorConfidence := 1

/-- Another recognition, which has found somebody else. -/
def sampleVisitor (s : Recognitions) : Recognitions :=
  { s with
    stores := s.stores.createIdentity { faceId := "visitor" }
    results := s.results ++ [{
      processId := "other"
      detectionOrdinal := 0
      faceId := "visitor"
      statusSnapshot := .newAnonymous
      nameSnapshot := none
      metadataSnapshot := []
      boundingBox := ⟨0, 0, 1, 1⟩
      detectorConfidence := 1
      matchConfidence := 0
      matchedSampleId := none }] }

/-- A world in which two faces are detected, one of somebody who is known and one that is new,
and somebody else writes before the results are stored. -/
def RecognizeWorld.sample : RecognizeWorld where
  processId := "process"
  recognitionThreshold := 1 / 2
  anonymousThreshold := 1 / 2
  versions := ⟨"model", "preprocess"⟩
  detections := [sampleDetectionOf [1, 0], sampleDetectionOf [0, 1]]
  search points _ queries := queries.map fun query =>
    (points.filter fun point => point.vector = query).map fun point =>
      ⟨point.sampleId, point.faceId, 1⟩
  now _ := 0
  raises _ := none
  others step s := if step = .storeResults then sampleVisitor s else s
  upserted _ := false
  newFaceId ordinal := String.ofList ('f' :: List.replicate ordinal 'a')
  newSampleId ordinal := String.ofList ('s' :: List.replicate ordinal 'a')

/-- The same one, where the answer to the upsert of the new vector is lost. -/
def RecognizeWorld.failingSample : RecognizeWorld :=
  { RecognizeWorld.sample with
    raises := fun step => if step = .face 1 .upsert then some (.vectorStoreError "DOWN") else none
    upserted := fun _ => true }

/-- The names of an answer. -/
def RecognizeResponse.shown (response : RecognizeResponse) : List (String × Option String) :=
  response.faces.map fun face => (face.faceId, face.name)

theorem returned_sample :
    (EStateM.run' RecognizeWorld.sample.recognize sampleGallery).map RecognizeResponse.shown =
      some [("ada", some "Ada"), ("fa", none)] := by
  decide +kernel

theorem raised_failingSample :
    EStateM.run' RecognizeWorld.failingSample.recognize sampleGallery = none := by
  decide +kernel

theorem recognize_recorded_sample :
    (∃ response t, response.shown = [("ada", some "Ada"), ("fa", none)] ∧
        RecognizeWorld.sample.Answered response t) ∧
      ∃ t, RecognizeWorld.failingSample.Refused t := by
  have hothers : ∀ step s,
      (RecognizeWorld.sample.others step s).processes.get "process" = s.processes.get "process" ∧
        (RecognizeWorld.sample.others step s).results.filter
            (fun row => row.processId = "process") =
          s.results.filter fun row => row.processId = "process" := by
    intro step s
    show (if step = .storeResults then sampleVisitor s else s).processes.get _ = _ ∧
      (if step = .storeResults then sampleVisitor s else s).results.filter _ = _
    split
    · refine ⟨rfl, ?_⟩
      unfold sampleVisitor
      rw [List.filter_append]
      exact List.append_nil _
    · exact ⟨rfl, rfl⟩
  obtain ⟨response, hresponse, hshown⟩ := Option.map_eq_some_iff.mp returned_sample
  have hanswered := @recognize_recorded .sample hothers sampleGallery rfl rfl
  have hrefused := @recognize_recorded .failingSample hothers sampleGallery rfl rfl
  obtain ⟨t, ht⟩ := hanswered.returned hresponse
  obtain ⟨e, u, hu⟩ := hrefused.raised raised_failingSample
  exact ⟨⟨response, t, hshown, ht⟩, u, hu⟩

end Mvision.Gallery
