import Mvision.Gallery.Deletion
import Mvision.Gallery.Matching
import Mvision.Library.PythonText
import Mvision.Library.Saga

/-!
# `EnrollmentService.enroll`

An enrollment commits in several steps, and the first of them renames an identity that exists.
The rows of the process and its events are left out: the handlers of `enroll` write them and
raise again.
-/

namespace Mvision.Gallery

open Mvision.Library

/-! ## Requests and answers -/

/-- The exceptions, with the codes that are recorded. -/
inductive Raised where
  | validationError (code : String)
  | notFoundError
  | inferenceError
  | objectStorageError (code : String)
  | vectorError (code : String)
  | serviceError
  | other
deriving DecidableEq, Repr

/-- What a worker returns of a face; the bounding box is stored with the sample only. -/
structure FaceDetection where
  embedding : List ℚ
  landmarksXy : List ℚ
  alignedJpeg : List UInt8
deriving DecidableEq, Repr

structure EnrollRequest where
  name : String
  metadata : List (String × String)
  faceId : Option String
deriving DecidableEq, Repr

/-- The steps at which a store or a worker can raise. -/
inductive EnrollStep where
  | createProcess
  | process
  | lookup
  | search
  | rename
  | ensure
  | upload
  | updateBlobReady
  | upsert
  | setActive
  | storeResult
deriving DecidableEq, Repr

/-- The settings, and what the workers and the stores answer during a call. -/
structure EnrollWorld where
  recognitionThreshold : ℚ
  anonymousThreshold : ℚ
  versions : ModelVersions
  faces : List FaceDetection
  search : Search
  raises : EnrollStep → Option Raised
  recordFailureRaises : Bool
  newFaceId : String
  newSampleId : String

abbrev Enrolling := Saga Stores Raised

namespace Stores

/-- `update_known` -/
def updateKnown (s : Stores) (faceId name : String) (metadata : List (String × String)) : Stores :=
  if (s.getActiveById faceId).isSome then
    { s with
      identities := s.identities.update faceId (fun identity =>
        { identity with
          lifecycleStatus := .known
          name := some name
          metadata := metadata
          version := identity.version + 1 }) fun _ => rfl }
  else s

end Stores

namespace EnrollWorld

variable (world : EnrollWorld)

/-- A step outside the stores of the gallery. -/
def call (step : EnrollStep) : Enrolling Unit :=
  match world.raises step with
  | some e => throw e
  | none => pure ()

/-- A transaction; an exception rolls it back. -/
def transaction {α : Type} (step : EnrollStep) (f : Stores → α × Stores) : Enrolling α := do
  world.call step
  modifyGet f

/-! ## `FaceMatcher.match` -/

def threshold (candidate : FaceMatch) : ℚ :=
  match candidate.identity.lifecycleStatus with
  | .known => world.recognitionThreshold
  | .anonymous => world.anonymousThreshold

/-- `match`, or its `IndexError` if a search answers nothing. -/
def matchFace (s : Stores) (embedding : List ℚ) : Except Raised (Option FaceMatch) :=
  match s.candidatesBatch world.search world.versions [embedding] 0 with
  | [] => .error .other
  | candidates :: _ =>
      .ok (candidates.find? fun candidate => world.threshold candidate ≤ candidate.score)

/-! ## `FaceSamplePersistenceService.persist` -/

/-- `_record_failure`, whose exceptions are passed over. -/
def recordFailure (failureCode : String) : Enrolling Unit := do
  if world.recordFailureRaises then pure ()
  else modify fun s => s.setFailed world.newSampleId failureCode

/-- A part of `persist` whose exceptions are recorded and replaced. -/
def recorded (failureCode : Raised → String) (raised : Raised) (part : Enrolling Unit) :
    Enrolling Unit :=
  tryCatch part fun e => do
    world.recordFailure (failureCode e)
    throw raised

def storageFailure : Raised → String
  | .objectStorageError code => code
  | _ => "STORAGE_ERROR"

def vectorFailure : Raised → String
  | .vectorError code => code
  | _ => "VECTOR_STORE_ERROR"

/-- The last transaction of `persist`. -/
def finalize : Enrolling Unit := do
  world.call .setActive
  let s ← get
  if (s.samples.get world.newSampleId).isSome then
    modify fun s => s.setActive world.newSampleId
  else do
    world.recordFailure "PG_FINALIZATION_ERROR"
    throw .serviceError

def persist (identity : FaceIdentity) (vector : List ℚ) : Enrolling Unit := do
  let s ← get
  world.transaction .ensure fun s => ((), s.ensureIdentityAndSample identity world.newSampleId)
  if s.alreadyActive world.newSampleId then pure ()
  else do
    world.recorded storageFailure (.objectStorageError "STORAGE_ERROR") (world.call .upload)
    world.transaction .updateBlobReady fun s => ((), s.updateBlobReady world.newSampleId)
    world.recorded vectorFailure (.vectorError "VECTOR_STORE_ERROR")
      (world.transaction .upsert fun s => ((), s.upsert {
        sampleId := world.newSampleId
        faceId := identity.faceId
        vector := vector
        embeddingModelVersion := world.versions.modelVersion
        preprocessVersion := world.versions.preprocessVersion }))
    world.finalize

/-! ## `enroll` -/

/-- `_select_face` -/
def selectFace : Enrolling FaceDetection := do
  world.call .process
  match world.faces with
  | [detection] => return detection
  | [] => throw (.validationError "NO_FACE")
  | _ => throw (.validationError "MULTIPLE_FACES")

/-- The identity that is asked for, the one that matches, or a new one. -/
def selectIdentity (faceId : Option String) (embedding : List ℚ) : Enrolling String := do
  match faceId with
  | some faceId =>
      match ← world.transaction .lookup fun s => (s.getActiveById faceId, s) with
      | none => throw .notFoundError
      | some identity => return identity.faceId
  | none =>
      world.call .search
      let s ← get
      match world.matchFace s embedding with
      | .error e => throw e
      | .ok none => return world.newFaceId
      | .ok (some found) => return found.identity.faceId

def requireName (name : String) : Enrolling Unit :=
  if stripped name = "" then throw (.validationError "INVALID_NAME") else pure ()

/-- The part of `enroll` that only reads. -/
def target (request : EnrollRequest) : Enrolling (FaceDetection × String) := do
  requireName request.name
  world.call .createProcess
  let detection ← world.selectFace
  let faceId ← world.selectIdentity request.faceId detection.embedding
  return (detection, faceId)

/-- `require_aligned_face_evidence`, and the points that are read from the landmarks. -/
def requireEvidence (detection : FaceDetection) : Enrolling Unit :=
  if detection.alignedJpeg = [] then throw .inferenceError
  else if detection.landmarksXy.length < 10 then throw .other
  else pure ()

/-- The part of `enroll` after the transaction that renames. -/
def store (request : EnrollRequest) (detection : FaceDetection) (faceId : String) :
    Enrolling Unit := do
  requireEvidence detection
  world.persist
    { faceId := faceId
      lifecycleStatus := .known
      name := some (stripped request.name)
      metadata := request.metadata } detection.embedding
  world.call .storeResult

def enroll (request : EnrollRequest) : Enrolling Unit := do
  let (detection, faceId) ← world.target request
  world.transaction .rename fun s =>
    ((), s.updateKnown faceId (stripped request.name) request.metadata)
  world.store request detection faceId

end EnrollWorld

/-! ## Single steps -/

namespace EnrollWorld

variable {world : EnrollWorld} {step : EnrollStep} {s t : Stores}

theorem call_of_none (h : world.raises step = none) : world.call step s = .ok () s := by
  rw [call, h]
  rfl

theorem raises_call (h : world.raises step ≠ none) : (world.call step).Raises s := by
  obtain ⟨e, he⟩ := Option.ne_none_iff_exists'.mp h
  rw [call, he]
  exact ⟨e, s, rfl⟩

theorem transaction_of_none {α : Type} {f : Stores → α × Stores}
    (h : world.raises step = none) : world.transaction step f s = .ok (f s).1 (f s).2 :=
  Saga.bind_of_ok (call_of_none h)

theorem raises_transaction {α : Type} {f : Stores → α × Stores}
    (h : world.raises step ≠ none) : (world.transaction step f).Raises s :=
  Saga.raises_bind_of_raises (raises_call h)

theorem recorded_of_ok {failureCode : Raised → String} {raised : Raised} {part : Enrolling Unit}
    (h : part s = .ok () t) : world.recorded failureCode raised part s = .ok () t :=
  Saga.tryCatch_of_ok h

theorem raises_recorded {failureCode : Raised → String} {raised : Raised}
    {part : Enrolling Unit} (h : part.Raises s) :
    (world.recorded failureCode raised part).Raises s := by
  obtain ⟨e, t, h⟩ := h
  obtain ⟨u, hu⟩ : ∃ u, world.recordFailure (failureCode e) t = .ok () u := by
    unfold recordFailure
    split
    · exact ⟨t, rfl⟩
    · exact ⟨_, rfl⟩
  refine ⟨raised, u, ?_⟩
  unfold recorded
  rw [Saga.tryCatch_of_error h, Saga.bind_of_ok hu]
  rfl

end EnrollWorld

/-! ## What raises -/

/-- A part of `persist` after its first transaction raises. -/
def PersistRaises (world : EnrollWorld) : Prop :=
  world.raises .upload ≠ none ∨ world.raises .updateBlobReady ≠ none ∨
    world.raises .upsert ≠ none ∨ world.raises .setActive ≠ none

/-- A part of `enroll` after the transaction that renames raises. -/
def StoreRaises (world : EnrollWorld) (s : Stores) (detection : FaceDetection) : Prop :=
  detection.alignedJpeg = [] ∨ detection.landmarksXy.length < 10 ∨ world.raises .ensure ≠ none ∨
    (s.alreadyActive world.newSampleId = false ∧ PersistRaises world) ∨
    world.raises .storeResult ≠ none

namespace EnrollWorld

variable {world : EnrollWorld} {s : Stores} {identity : FaceIdentity} {vector : List ℚ}
  {detection : FaceDetection}

theorem isSome_ensureIdentityAndSample (sampleId : String) :
    ((s.ensureIdentityAndSample identity sampleId).samples.get sampleId).isSome = true := by
  obtain ⟨row, hrow, hkey⟩ :=
    Table.exists_mem_insert s.samples { sampleId := sampleId, faceId := identity.faceId }
  have hsamples : (s.ensureIdentityAndSample identity sampleId).samples =
      s.samples.insert { sampleId := sampleId, faceId := identity.faceId } := by
    unfold Stores.ensureIdentityAndSample
    split <;> rfl
  rw [hsamples, Table.get_eq_some_iff.mpr ⟨hrow, hkey⟩]
  rfl

/-- The row of the sample is there, so the last transaction raises only by itself. -/
theorem finalize_of_none (h : world.raises .setActive = none)
    (hsample : (s.samples.get world.newSampleId).isSome = true) :
    world.finalize s = .ok () (s.setActive world.newSampleId) := by
  unfold finalize
  rw [Saga.bind_of_ok (call_of_none h), Saga.bind_of_ok (Saga.get_eq s),
    if_pos hsample]
  rfl

theorem raises_persist_iff :
    (world.persist identity vector).Raises s ↔ world.raises .ensure ≠ none ∨
      s.alreadyActive world.newSampleId = false ∧ PersistRaises world := by
  unfold persist PersistRaises
  rw [Saga.raises_bind_of_ok (Saga.get_eq s)]
  by_cases hensure : world.raises .ensure = none
  swap
  · exact iff_of_true (Saga.raises_bind_of_raises (raises_transaction hensure)) (.inl hensure)
  rw [Saga.raises_bind_of_ok (transaction_of_none hensure), or_iff_right (not_not.mpr hensure)]
  cases hactive : s.alreadyActive world.newSampleId with
  | true =>
      refine iff_of_false (Saga.not_raises_of_ok rfl) ?_
      rintro ⟨⟨⟩, -⟩
  | false =>
      rw [if_neg Bool.false_ne_true, and_iff_right rfl]
      by_cases hupload : world.raises .upload = none
      swap
      · exact iff_of_true (Saga.raises_bind_of_raises (raises_recorded (raises_call hupload)))
          (.inl hupload)
      rw [Saga.raises_bind_of_ok (recorded_of_ok (call_of_none hupload)),
        or_iff_right (not_not.mpr hupload)]
      by_cases hready : world.raises .updateBlobReady = none
      swap
      · exact iff_of_true (Saga.raises_bind_of_raises (raises_transaction hready)) (.inl hready)
      rw [Saga.raises_bind_of_ok (transaction_of_none hready), or_iff_right (not_not.mpr hready)]
      by_cases hupsert : world.raises .upsert = none
      swap
      · exact iff_of_true
          (Saga.raises_bind_of_raises (raises_recorded (raises_transaction hupsert)))
          (.inl hupsert)
      rw [Saga.raises_bind_of_ok (recorded_of_ok (transaction_of_none hupsert)),
        or_iff_right (not_not.mpr hupsert)]
      by_cases hactivate : world.raises .setActive = none
      swap
      · exact iff_of_true (Saga.raises_bind_of_raises (raises_call hactivate)) hactivate
      refine iff_of_false (Saga.not_raises_of_ok (finalize_of_none hactivate ?_))
        (not_not.mpr hactivate)
      -- the row that the first transaction has made is still there
      show (((s.ensureIdentityAndSample identity world.newSampleId).updateBlobReady
        world.newSampleId).samples.get world.newSampleId).isSome = true
      rw [Stores.updateBlobReady, Stores.updateSample, Table.get_update, if_pos rfl,
        Option.isSome_map]
      exact isSome_ensureIdentityAndSample world.newSampleId

theorem raises_store_iff {request : EnrollRequest} {faceId : String} :
    (world.store request detection faceId).Raises s ↔ StoreRaises world s detection := by
  unfold store StoreRaises
  by_cases hjpeg : detection.alignedJpeg = []
  · have hevidence : (requireEvidence detection).Raises s := by
      rw [requireEvidence, if_pos hjpeg]
      exact Saga.raises_throw _
    exact iff_of_true (Saga.raises_bind_of_raises hevidence) (.inl hjpeg)
  rw [or_iff_right hjpeg]
  by_cases hshort : detection.landmarksXy.length < 10
  · have hevidence : (requireEvidence detection).Raises s := by
      rw [requireEvidence, if_neg hjpeg, if_pos hshort]
      exact Saga.raises_throw _
    exact iff_of_true (Saga.raises_bind_of_raises hevidence) (.inl hshort)
  have hevidence : requireEvidence detection s = .ok () s := by
    rw [requireEvidence, if_neg hjpeg, if_neg hshort]
    rfl
  rw [or_iff_right hshort, Saga.raises_bind_of_ok hevidence, ← or_assoc, ← raises_persist_iff]
  by_cases hpersist : (world.persist
      { faceId := faceId
        lifecycleStatus := .known
        name := some (stripped request.name)
        metadata := request.metadata } detection.embedding).Raises s
  · exact iff_of_true (Saga.raises_bind_of_raises hpersist) (.inl hpersist)
  obtain ⟨done, t, hok⟩ := Saga.exists_ok_of_not_raises hpersist
  rw [or_iff_right hpersist, Saga.raises_bind_of_ok hok]
  by_cases hresult : world.raises .storeResult = none
  · exact iff_of_false (Saga.not_raises_of_ok (call_of_none hresult)) (not_not.mpr hresult)
  · exact iff_of_true (raises_call hresult) hresult

end EnrollWorld

/-! ## What the parts of `enroll` leave -/

/-- The rows of the identities that were there are still the same. -/
def KeepsIdentities (s t : Stores) : Prop :=
  ∀ faceId identity, s.identities.get faceId = some identity →
    t.identities.get faceId = some identity

instance keepsIdentitiesRefl : Std.Refl KeepsIdentities := ⟨fun _ _ _ h => h⟩

instance keepsIdentitiesTrans : IsTrans Stores KeepsIdentities :=
  ⟨fun _ _ _ h h' faceId identity hget => h' faceId identity (h faceId identity hget)⟩

namespace EnrollWorld

variable {world : EnrollWorld} {s t : Stores} {identity : FaceIdentity} {vector : List ℚ}
  {detection : FaceDetection} {request : EnrollRequest} {faceId : String}

theorem keeps_call {R : Stores → Stores → Prop} [Std.Refl R] (step : EnrollStep) :
    (world.call step).Keeps R := by
  unfold call
  split
  · exact Saga.Keeps.throw _
  · exact Saga.Keeps.pure ()

theorem keeps_transaction {R : Stores → Stores → Prop} [Std.Refl R] [IsTrans Stores R] {α : Type}
    {step : EnrollStep} {f : Stores → α × Stores} (hf : ∀ s, R s (f s).2) :
    (world.transaction step f).Keeps R :=
  (keeps_call step).bind fun _ => hf

theorem keeps_recordFailure (failureCode : String) :
    (world.recordFailure failureCode).Keeps KeepsIdentities := by
  unfold recordFailure
  split
  · exact Saga.Keeps.pure ()
  · exact fun s faceId identity h => h

theorem keeps_recorded {failureCode : Raised → String} {raised : Raised}
    {part : Enrolling Unit} (hpart : part.Keeps KeepsIdentities) :
    (world.recorded failureCode raised part).Keeps KeepsIdentities :=
  hpart.tryCatch fun _ => (keeps_recordFailure _).bind fun _ => Saga.Keeps.throw raised

theorem keepsIdentities_ensure (s : Stores) (identity : FaceIdentity) (sampleId : String) :
    KeepsIdentities s (s.ensureIdentityAndSample identity sampleId) := by
  intro faceId row hrow
  unfold Stores.ensureIdentityAndSample
  split
  · exact Table.get_insert_of_some hrow
  · exact hrow

theorem keeps_persist : (world.persist identity vector).Keeps KeepsIdentities := by
  have hsame {α : Type} {step : EnrollStep} {f : Stores → α × Stores}
      (hf : ∀ s, (f s).2.identities = s.identities) :
      (world.transaction step f).Keeps KeepsIdentities :=
    keeps_transaction fun s faceId row hrow => (hf s).symm ▸ hrow
  unfold persist finalize
  refine Saga.Keeps.get.bind fun s => ?_
  refine (keeps_transaction fun s => keepsIdentities_ensure s identity _).bind fun _ => ?_
  split
  · exact Saga.Keeps.pure ()
  refine (keeps_recorded (keeps_call _)).bind fun _ => ?_
  refine (hsame fun _ => rfl).bind fun _ => ?_
  refine (keeps_recorded (hsame fun _ => rfl)).bind fun _ => ?_
  refine (keeps_call _).bind fun _ => Saga.Keeps.get.bind fun s => ?_
  split
  · exact fun s faceId row hrow => hrow
  · exact (keeps_recordFailure _).bind fun _ => Saga.Keeps.throw _

theorem keeps_store (world : EnrollWorld) (request : EnrollRequest) (detection : FaceDetection)
    (faceId : String) : (world.store request detection faceId).Keeps KeepsIdentities := by
  have hevidence : (requireEvidence detection).Keeps KeepsIdentities := by
    unfold requireEvidence
    split
    · exact Saga.Keeps.throw _
    · split
      · exact Saga.Keeps.throw _
      · exact Saga.Keeps.pure ()
  exact hevidence.bind fun _ => keeps_persist.bind fun _ => keeps_call _

/-- The first part of `enroll` writes nothing. -/
theorem keeps_target (world : EnrollWorld) (request : EnrollRequest) :
    (world.target request).Keeps Eq := by
  have hname : (requireName request.name).Keeps Eq := by
    unfold requireName
    split
    · exact Saga.Keeps.throw _
    · exact Saga.Keeps.pure ()
  have hface : world.selectFace.Keeps Eq := by
    refine (keeps_call _).bind fun _ => ?_
    split
    · exact Saga.Keeps.pure _
    · exact Saga.Keeps.throw _
    · exact Saga.Keeps.throw _
  have hidentity (embedding : List ℚ) :
      (world.selectIdentity request.faceId embedding).Keeps Eq := by
    unfold selectIdentity
    split
    · refine (keeps_transaction (R := Eq) fun s => rfl).bind fun found => ?_
      split
      · exact Saga.Keeps.throw _
      · exact Saga.Keeps.pure _
    · refine (keeps_call _).bind fun _ => Saga.Keeps.get.bind fun s => ?_
      split
      · exact Saga.Keeps.throw _
      · exact Saga.Keeps.pure _
      · exact Saga.Keeps.pure _
  exact hname.bind fun _ => (keeps_call _).bind fun _ => hface.bind fun detection =>
    (hidentity detection.embedding).bind fun faceId => Saga.Keeps.pure _

end EnrollWorld

/-! ## The target -/

/-- The identity of the request: the one that it asks for, one that matches, or a new one. -/
def Selects (world : EnrollWorld) (request : EnrollRequest) (s : Stores)
    (detection : FaceDetection) (faceId : String) : Prop :=
  match request.faceId with
  | some asked =>
      world.raises .lookup = none ∧ (s.getActiveById asked).isSome = true ∧ faceId = asked
  | none =>
      world.raises .search = none ∧ ∃ found, world.matchFace s detection.embedding = .ok found ∧
        faceId = (found.map fun candidate => candidate.identity.faceId).getD world.newFaceId

/-- The request comes to the transaction that renames, with this face and for this identity. -/
def Targets (world : EnrollWorld) (request : EnrollRequest) (s : Stores)
    (detection : FaceDetection) (faceId : String) : Prop :=
  stripped request.name ≠ "" ∧ world.raises .createProcess = none ∧
    world.raises .process = none ∧ world.faces = [detection] ∧
    Selects world request s detection faceId

namespace EnrollWorld

variable {world : EnrollWorld} {s t : Stores} {detection : FaceDetection}
  {request : EnrollRequest} {faceId : String}

theorem faceId_of_getActiveById {identity : FaceIdentity}
    (h : s.getActiveById faceId = some identity) : identity.faceId = faceId := by
  obtain ⟨hget, -⟩ := Option.filter_eq_some_iff.mp h
  exact (Table.get_eq_some_iff.mp hget).2

theorem call_bind_ok_iff {α : Type} {step : EnrollStep} {f : Unit → Enrolling α} {a : α} :
    (world.call step >>= f) s = .ok a t ↔ world.raises step = none ∧ f () s = .ok a t := by
  cases h : world.raises step with
  | none => rw [Saga.bind_of_ok (call_of_none h), and_iff_right rfl]
  | some e =>
      obtain ⟨raised, u, hraises⟩ := raises_call (s := s) (h ▸ Option.some_ne_none e)
      rw [Saga.bind_of_error hraises]
      exact iff_of_false (by rintro ⟨⟩) (by rintro ⟨⟨⟩, -⟩)

theorem transaction_bind_ok_iff {α β : Type} {step : EnrollStep} {f : Stores → α × Stores}
    {g : α → Enrolling β} {b : β} :
    (world.transaction step f >>= g) s = .ok b t ↔
      world.raises step = none ∧ g (f s).1 (f s).2 = .ok b t := by
  cases h : world.raises step with
  | none => rw [Saga.bind_of_ok (transaction_of_none h), and_iff_right rfl]
  | some e =>
      obtain ⟨raised, u, hraises⟩ :=
        raises_transaction (s := s) (f := f) (h ▸ Option.some_ne_none e)
      rw [Saga.bind_of_error hraises]
      exact iff_of_false (by rintro ⟨⟩) (by rintro ⟨⟨⟩, -⟩)

theorem requireName_bind_ok_iff {α : Type} {name : String} {f : Unit → Enrolling α} {a : α} :
    (requireName name >>= f) s = .ok a t ↔ stripped name ≠ "" ∧ f () s = .ok a t := by
  unfold requireName
  split
  · rename_i hempty
    exact iff_of_false Saga.throw_ne_ok fun h => h.1 hempty
  · rename_i hname
    exact (and_iff_right hname).symm

theorem selectFace_ok_iff :
    world.selectFace s = .ok detection t ↔
      world.raises .process = none ∧ world.faces = [detection] ∧ t = s := by
  unfold selectFace
  rw [call_bind_ok_iff]
  refine and_congr_right fun _ => ?_
  cases world.faces with
  | nil => exact iff_of_false Saga.throw_ne_ok (by rintro ⟨⟨⟩, -⟩)
  | cons first rest =>
      cases rest with
      | nil =>
          rw [List.cons.injEq, and_iff_left rfl]
          exact Saga.pure_ok_iff.trans (and_congr_left fun _ => eq_comm)
      | cons second rest => exact iff_of_false Saga.throw_ne_ok (by rintro ⟨⟨⟩, -⟩)

theorem selectIdentity_ok_iff :
    world.selectIdentity request.faceId detection.embedding s = .ok faceId t ↔
      Selects world request s detection faceId ∧ t = s := by
  unfold selectIdentity Selects
  cases request.faceId with
  | some asked =>
      dsimp only
      rw [transaction_bind_ok_iff, and_assoc]
      refine and_congr_right fun _ => ?_
      cases hfound : s.getActiveById asked with
      | none =>
          refine iff_of_false Saga.throw_ne_ok ?_
          rintro ⟨⟨hfound, -⟩, -⟩
          exact Bool.false_ne_true hfound
      | some identity =>
          rw [Option.isSome_some, and_iff_right rfl, ← faceId_of_getActiveById hfound]
          exact Saga.pure_ok_iff
  | none =>
      dsimp only
      rw [call_bind_ok_iff, and_assoc, Saga.bind_of_ok (Saga.get_eq s)]
      refine and_congr_right fun _ => ?_
      cases world.matchFace s detection.embedding with
      | error e =>
          refine iff_of_false Saga.throw_ne_ok ?_
          rintro ⟨⟨found, ⟨⟩, -⟩, -⟩
      | ok found =>
          simp only [Except.ok.injEq, exists_eq_left']
          cases found with
          | none => exact Saga.pure_ok_iff
          | some candidate => exact Saga.pure_ok_iff

theorem target_ok_iff :
    world.target request s = .ok (detection, faceId) t ↔
      Targets world request s detection faceId ∧ t = s := by
  unfold target Targets
  rw [requireName_bind_ok_iff, call_bind_ok_iff, Saga.bind_ok_iff]
  simp only [selectFace_ok_iff, Saga.bind_ok_iff, selectIdentity_ok_iff, Saga.pure_ok_iff,
    Prod.mk.injEq]
  constructor
  · rintro ⟨hname, hcreate, found, u, ⟨hprocess, hfaces, rfl⟩, id, v, ⟨hselects, rfl⟩,
      ⟨rfl, rfl⟩, rfl⟩
    exact ⟨⟨hname, hcreate, hprocess, hfaces, hselects⟩, rfl⟩
  · rintro ⟨⟨hname, hcreate, hprocess, hfaces, hselects⟩, rfl⟩
    exact ⟨hname, hcreate, detection, t, ⟨hprocess, hfaces, rfl⟩, faceId, t, ⟨hselects, rfl⟩,
      ⟨rfl, rfl⟩, rfl⟩

end EnrollWorld

/-! ## Failed enrollments -/

section Rename

variable {s : Stores} {faceId name : String} {metadata : List (String × String)}

theorem get_updateKnown (name : String) (metadata : List (String × String))
    {identity : FaceIdentity} (h : s.getActiveById faceId = some identity) :
    (s.updateKnown faceId name metadata).identities.get faceId = some { identity with
      lifecycleStatus := .known
      name := some name
      metadata := metadata
      version := identity.version + 1 } := by
  have hget := (Option.filter_eq_some_iff.mp h).1
  unfold Stores.updateKnown
  rw [h, Option.isSome_some, if_pos rfl]
  dsimp only
  rw [Table.get_update, if_pos rfl, hget]
  rfl

theorem updateKnown_eq_self (h : (s.getActiveById faceId).isSome = false) :
    s.updateKnown faceId name metadata = s := by
  unfold Stores.updateKnown
  rw [h, if_neg Bool.false_ne_true]

theorem alreadyActive_updateKnown (sampleId : String) :
    (s.updateKnown faceId name metadata).alreadyActive sampleId = s.alreadyActive sampleId := by
  unfold Stores.updateKnown
  split <;> rfl

theorem storeRaises_updateKnown {world : EnrollWorld} {detection : FaceDetection} :
    StoreRaises world (s.updateKnown faceId name metadata) detection ↔
      StoreRaises world s detection := by
  unfold StoreRaises
  rw [alreadyActive_updateKnown]

end Rename

/-- If the call raises, the active identities are as they were before. -/
def FailureKeepsIdentities (world : EnrollWorld) (request : EnrollRequest) (s : Stores) : Prop :=
  (world.enroll request).Raises s → ∀ identity ∈ s.identities.rows, identity.isActive = true →
    ∃ row, ((world.enroll request).after s).identities.get identity.faceId = some row ∧
      row.lifecycleStatus = identity.lifecycleStatus ∧ row.name = identity.name ∧
      row.metadata = identity.metadata ∧ row.version = identity.version

section Enroll

variable {world : EnrollWorld} {request : EnrollRequest} {s : Stores}
  {detection : FaceDetection} {faceId : String}

/-- Past the transaction that renames, the call is the part that stores. -/
theorem enroll_of_targets (htargets : Targets world request s detection faceId)
    (hrename : world.raises .rename = none) :
    world.enroll request s = world.store request detection faceId
      (s.updateKnown faceId (stripped request.name) request.metadata) := by
  unfold EnrollWorld.enroll
  rw [Saga.bind_of_ok (EnrollWorld.target_ok_iff.mpr ⟨htargets, rfl⟩)]
  exact Saga.bind_of_ok (EnrollWorld.transaction_of_none hrename)

/-- A call leaves the stores as they are, or comes to the part that stores. -/
theorem enroll_cases (world : EnrollWorld) (request : EnrollRequest) (s : Stores) :
    (world.enroll request).after s = s ∨
      ∃ detection faceId, Targets world request s detection faceId ∧
        world.raises .rename = none := by
  have hread := EnrollWorld.keeps_target world request s
  cases htarget : world.target request s with
  | error e t =>
      rw [Saga.after_of_error htarget] at hread
      obtain rfl := hread
      exact .inl (Saga.after_of_error (Saga.bind_of_error htarget))
  | ok found t =>
      obtain ⟨detection, faceId⟩ := found
      obtain ⟨htargets, rfl⟩ := EnrollWorld.target_ok_iff.mp htarget
      by_cases hrename : world.raises .rename = none
      · exact .inr ⟨detection, faceId, htargets, hrename⟩
      · obtain ⟨e, he⟩ := Option.ne_none_iff_exists'.mp hrename
        have hcall : world.call .rename t = .error e t := by
          rw [EnrollWorld.call, he]
          rfl
        refine .inl (Saga.after_of_error (e := e) ?_)
        unfold EnrollWorld.enroll
        rw [Saga.bind_of_ok htarget]
        exact Saga.bind_of_error (Saga.bind_of_error hcall)

end Enroll

/-- A failure keeps the identities exactly if it is not one of a part of the call after the
transaction that has renamed an active identity. -/
theorem failureKeepsIdentities_iff (world : EnrollWorld) (request : EnrollRequest) (s : Stores) :
    FailureKeepsIdentities world request s ↔
      ¬ ∃ detection faceId, Targets world request s detection faceId ∧
        (s.getActiveById faceId).isSome = true ∧ world.raises .rename = none ∧
        StoreRaises world s detection := by
  constructor
  · rintro hkept ⟨detection, faceId, htargets, hactive, hrename, hstore⟩
    obtain ⟨identity, hidentity⟩ := Option.isSome_iff_exists.mp hactive
    obtain ⟨hget, hactive'⟩ := Option.filter_eq_some_iff.mp hidentity
    obtain ⟨hrow, rfl⟩ := Table.get_eq_some_iff.mp hget
    have hrun := enroll_of_targets htargets hrename
    have hraises : (world.enroll request).Raises s := by
      unfold Saga.Raises
      rw [hrun]
      exact EnrollWorld.raises_store_iff.mpr (storeRaises_updateKnown.mpr hstore)
    obtain ⟨row, hafter, -, -, -, hversion⟩ := hkept hraises identity hrow hactive'
    -- the part that stores keeps the renamed row, whose version is the next one
    have hstay := EnrollWorld.keeps_store world request detection identity.faceId _ _ _
      (get_updateKnown (stripped request.name) request.metadata hidentity)
    rw [Saga.after, hrun] at hafter
    obtain rfl := Option.some.inj (hafter.symm.trans hstay)
    exact absurd hversion (Nat.succ_ne_self _)
  · intro hnot hraises identity hrow hactive
    have hget : s.identities.get identity.faceId = some identity :=
      Table.get_eq_some_iff.mpr ⟨hrow, rfl⟩
    have hsame {t : Stores} (hkeeps : KeepsIdentities s t) :
        ∃ row, t.identities.get identity.faceId = some row ∧
          row.lifecycleStatus = identity.lifecycleStatus ∧ row.name = identity.name ∧
          row.metadata = identity.metadata ∧ row.version = identity.version :=
      ⟨identity, hkeeps _ _ hget, rfl, rfl, rfl, rfl⟩
    rcases enroll_cases world request s with hafter | ⟨detection, faceId, htargets, hrename⟩
    · exact hsame (hafter.symm ▸ refl s)
    have hrun := enroll_of_targets htargets hrename
    have hstore : StoreRaises world s detection := by
      unfold Saga.Raises at hraises
      rw [hrun] at hraises
      exact storeRaises_updateKnown.mp (EnrollWorld.raises_store_iff.mp hraises)
    have hinactive : (s.getActiveById faceId).isSome = false := by
      rw [Bool.eq_false_iff]
      exact fun hactive => hnot ⟨detection, faceId, htargets, hactive, hrename, hstore⟩
    rw [updateKnown_eq_self hinactive] at hrun
    refine hsame ?_
    rw [Saga.after, hrun]
    exact EnrollWorld.keeps_store world request detection faceId s

/-- Nothing raises, but the worker returns no image of the face. -/
def worldWithoutEvidence : EnrollWorld where
  recognitionThreshold := 1
  anonymousThreshold := 1
  versions := ⟨"m", "p"⟩
  faces := [⟨[1], List.replicate 10 0, []⟩]
  search := fun _ _ queries => queries.map fun _ => []
  raises := fun _ => none
  recordFailureRaises := false
  newFaceId := "b"
  newSampleId := "c"

/-- An identity that is known under a name. -/
def known : Stores where
  identities := ⟨[{ faceId := "a", lifecycleStatus := .known, name := some "Ada" }], by decide⟩

/-- The enrollment fails, and the identity has the new name. -/
theorem failure_renames :
    ¬ FailureKeepsIdentities worldWithoutEvidence ⟨"Eve", [], some "a"⟩ known := by
  intro h
  have hfails : (match worldWithoutEvidence.enroll ⟨"Eve", [], some "a"⟩ known with
      | .ok _ _ => false
      | .error _ _ => true) = true := by
    decide
  have hraises : (worldWithoutEvidence.enroll ⟨"Eve", [], some "a"⟩).Raises known := by
    split at hfails
    · cases hfails
    · rename_i e t hrun
      exact ⟨e, t, hrun⟩
  obtain ⟨row, hrow, -, hname, -⟩ := h hraises _ List.mem_cons_self rfl
  have hafter : (((worldWithoutEvidence.enroll ⟨"Eve", [], some "a"⟩).after
      known).identities.get "a").map FaceIdentity.name = some (some "Eve") := by
    decide
  rw [hrow, Option.map_some, hname] at hafter
  exact absurd hafter (by decide)

end Mvision.Gallery
