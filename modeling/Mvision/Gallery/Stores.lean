import Mathlib.Data.Rat.Defs
import Mvision.Library.Table

/-!
# The stores of the gallery

The identities and samples of PostgreSQL and the vectors of Qdrant, with the
methods of `identity_repository.py`, `sample_repository.py` and
`qdrant_adapter.py` that write them.  Each method is one committed step.
The columns that describe where and how a sample was taken are left out.
-/

namespace Mvision.Gallery

open Mvision.Library

inductive LifecycleStatus where
  | anonymous
  | known
deriving DecidableEq, Repr

/-- A row of `face_identity`; a deleted identity is one that is not active. -/
structure FaceIdentity where
  faceId : String
  lifecycleStatus : LifecycleStatus := .anonymous
  name : Option String := none
  metadata : List (String × String) := []
  isActive : Bool := true
  version : Nat := 1
deriving DecidableEq, Repr

inductive SampleState where
  | pending
  | blobReady
  | indexed
  | active
  | inactive
  | failed
deriving DecidableEq, Repr

/-- A row of `face_sample`; `is_active` is true by default, in a pending sample too. -/
structure FaceSample where
  sampleId : String
  faceId : String
  lifecycleState : SampleState := .pending
  isActive : Bool := true
  failureCode : Option String := none
deriving DecidableEq, Repr

/-- A point of the collection and its payload. -/
structure VectorPoint where
  sampleId : String
  faceId : String
  vector : List ℚ
  active : Bool := true
  embeddingModelVersion : String := ""
  preprocessVersion : String := ""
deriving DecidableEq, Repr

structure Stores where
  identities : Table FaceIdentity.faceId := .empty
  samples : Table FaceSample.sampleId := .empty
  vectors : Table VectorPoint.sampleId := .empty
deriving DecidableEq

namespace Stores

/-! ## `FaceIdentityRepository` -/

def getActiveById (s : Stores) (faceId : String) : Option FaceIdentity :=
  (s.identities.get faceId).filter (·.isActive)

def createIdentity (s : Stores) (identity : FaceIdentity) : Stores :=
  { s with identities := s.identities.insert identity }

/-- Returns whether there was an active identity to delete. -/
def softDelete (s : Stores) (faceId : String) : Bool × Stores :=
  match s.getActiveById faceId with
  | none => (false, s)
  | some _ =>
      (true, { s with
        identities := s.identities.update faceId
          (fun identity => { identity with isActive := false, version := identity.version + 1 })
          fun _ => rfl })

/-! ## `FaceSampleRepository` -/

def createPending (s : Stores) (sampleId faceId : String) : Stores :=
  { s with samples := s.samples.insert { sampleId, faceId } }

def updateSample (s : Stores) (sampleId : String) (f : FaceSample → FaceSample)
    (hf : ∀ sample, (f sample).sampleId = sample.sampleId) : Stores :=
  { s with samples := s.samples.update sampleId f hf }

def updateBlobReady (s : Stores) (sampleId : String) : Stores :=
  s.updateSample sampleId (fun sample => { sample with lifecycleState := .blobReady }) fun _ => rfl

def setActive (s : Stores) (sampleId : String) : Stores :=
  s.updateSample sampleId
    (fun sample => { sample with lifecycleState := .active, isActive := true }) fun _ => rfl

def setFailed (s : Stores) (sampleId failureCode : String) : Stores :=
  s.updateSample sampleId (fun sample =>
    { sample with lifecycleState := .failed, failureCode := some failureCode, isActive := false })
    fun _ => rfl

/-- The samples that `list_by_face` finds with `active_only`. -/
def activeSamples (s : Stores) (faceId : String) : List String :=
  (s.samples.rows.filter fun sample => sample.faceId = faceId ∧ sample.isActive).map (·.sampleId)

/-- Returns the samples it has deactivated. -/
def deactivateByFace (s : Stores) (faceId : String) : List String × Stores :=
  (s.activeSamples faceId,
    { s with
      samples := s.samples.updateWhere (fun sample => sample.faceId = faceId ∧ sample.isActive)
        (fun sample => { sample with lifecycleState := .inactive, isActive := false })
        fun _ => rfl })

/-! ## `QdrantAdapter` -/

/-- The point replaces one with its id. -/
def upsert (s : Stores) (point : VectorPoint) : Stores :=
  { s with vectors := s.vectors.put point }

def deactivate (s : Stores) (sampleId : String) : Stores :=
  { s with
    vectors := s.vectors.update sampleId (fun point => { point with active := false })
      fun _ => rfl }

/-! ## What the methods leave alone -/

section Frame

variable (s : Stores) (faceId sampleId failureCode : String)

@[simp] theorem createIdentity_samples (identity : FaceIdentity) :
    (s.createIdentity identity).samples = s.samples := rfl

@[simp] theorem createIdentity_vectors (identity : FaceIdentity) :
    (s.createIdentity identity).vectors = s.vectors := rfl

@[simp] theorem createPending_identities :
    (s.createPending sampleId faceId).identities = s.identities := rfl

@[simp] theorem createPending_vectors :
    (s.createPending sampleId faceId).vectors = s.vectors := rfl

@[simp] theorem updateBlobReady_identities :
    (s.updateBlobReady sampleId).identities = s.identities := rfl

@[simp] theorem updateBlobReady_vectors :
    (s.updateBlobReady sampleId).vectors = s.vectors := rfl

@[simp] theorem setActive_identities : (s.setActive sampleId).identities = s.identities := rfl

@[simp] theorem setActive_vectors : (s.setActive sampleId).vectors = s.vectors := rfl

@[simp] theorem setFailed_identities :
    (s.setFailed sampleId failureCode).identities = s.identities := rfl

@[simp] theorem setFailed_vectors :
    (s.setFailed sampleId failureCode).vectors = s.vectors := rfl

@[simp] theorem deactivateByFace_identities :
    (s.deactivateByFace faceId).2.identities = s.identities := rfl

@[simp] theorem deactivateByFace_vectors :
    (s.deactivateByFace faceId).2.vectors = s.vectors := rfl

@[simp] theorem upsert_identities (point : VectorPoint) :
    (s.upsert point).identities = s.identities := rfl

@[simp] theorem upsert_samples (point : VectorPoint) :
    (s.upsert point).samples = s.samples := rfl

@[simp] theorem deactivate_identities : (s.deactivate sampleId).identities = s.identities := rfl

@[simp] theorem deactivate_samples : (s.deactivate sampleId).samples = s.samples := rfl

end Frame

theorem getActiveById_eq_some_iff {s : Stores} {faceId : String} {identity : FaceIdentity} :
    s.getActiveById faceId = some identity ↔
      s.identities.get faceId = some identity ∧ identity.isActive = true := by
  rw [getActiveById, Option.filter_eq_some_iff]

/-- A point of the collection after an upsert: the new one, or one of another sample. -/
theorem mem_upsert {s : Stores} {point other : VectorPoint}
    (h : other ∈ (s.upsert point).vectors.rows) :
    other = point ∨ (other ∈ s.vectors.rows ∧ other.sampleId ≠ point.sampleId) :=
  Table.mem_put h

/-- A point after a deactivation: one of another sample, or one that is not active. -/
theorem mem_deactivate {s : Stores} {sampleId : String} {point : VectorPoint}
    (h : point ∈ (s.deactivate sampleId).vectors.rows) :
    (point ∈ s.vectors.rows ∧ point.sampleId ≠ sampleId) ∨ point.active = false := by
  have h : point ∈ (s.vectors.update sampleId (fun point => { point with active := false })
    fun _ => rfl).rows := h
  rcases Table.mem_update.mp h with hold | ⟨old, -, -, rfl⟩
  · exact .inl hold
  · exact .inr rfl

end Stores

end Mvision.Gallery
