import Mvision.Gallery.Stores
import Mvision.Library.Machine

/-!
# Deleting an identity while samples of it are persisted

`FaceSamplePersistenceService.persist` writes in committed steps, and none of
them looks at the identity again.  `IdentityService.delete` deactivates the
samples that are active when it looks, and after its commit their vectors, one
by one.  Calls overlap in any way, fail where the code lets them, and may stop
at any point.
-/

namespace Mvision.Gallery

open Mvision.Library

/-! ## The calls -/

/-- The last committed step of a `persist` call. -/
inductive PersistPhase where
  | ensured
  | blobReady
  | upserted
deriving DecidableEq, Repr

structure PersistCall where
  faceId : String
  sampleId : String
  phase : PersistPhase
deriving DecidableEq, Repr

/-- A `delete` call after its transaction, and the samples whose vectors are left. -/
structure DeleteCall where
  faceId : String
  remaining : List String
deriving DecidableEq, Repr

namespace Stores

/-- `_ensure_identity_and_sample`, with the identity it makes when there is none. -/
def ensureIdentityAndSample (s : Stores) (identity : FaceIdentity) (sampleId : String) : Stores :=
  (if s.identities.get identity.faceId = none then s.createIdentity identity else s).createPending
    sampleId identity.faceId

/-- `not is_new and sample.lifecycle_state == "active"`. -/
def alreadyActive (s : Stores) (sampleId : String) : Bool :=
  match s.samples.get sampleId with
  | none => false
  | some sample => sample.lifecycleState = .active

/-- The identity is soft-deleted. -/
def Deleted (s : Stores) (faceId : String) : Prop :=
  ∃ identity, s.identities.get faceId = some identity ∧ identity.isActive = false

instance (s : Stores) (faceId : String) : Decidable (s.Deleted faceId) :=
  match h : s.identities.get faceId with
  | none => isFalse (by rintro ⟨identity, hget, -⟩; rw [h] at hget; cases hget)
  | some identity =>
      if hactive : identity.isActive = false then isTrue ⟨identity, h, hactive⟩
      else isFalse (by
        rintro ⟨other, hget, hfalse⟩
        rw [h] at hget
        cases hget
        exact hactive hfalse)

/-- No sample of the identity is active, and no vector of it is marked active. -/
def Spared (s : Stores) (faceId : String) : Prop :=
  (∀ sample ∈ s.samples.rows, sample.faceId = faceId → sample.isActive = false) ∧
    ∀ point ∈ s.vectors.rows, point.faceId = faceId → point.active = false

instance (s : Stores) (faceId : String) : Decidable (s.Spared faceId) :=
  inferInstanceAs (Decidable (_ ∧ _))

end Stores

structure GalleryState where
  stores : Stores
  persists : List PersistCall := []
  deletes : List DeleteCall := []

/-- A committed step of a call, or the end of one. -/
inductive GalleryStep where
  | startPersist (identity : FaceIdentity) (sampleId : String)
  | updateBlobReady (call : PersistCall)
  | upsert (call : PersistCall) (vector : List ℚ)
  | setActive (call : PersistCall)
  | recordFailure (call : PersistCall) (errorCode : String)
  | stopPersist (call : PersistCall)
  | startDelete (faceId : String)
  | deactivate (call : DeleteCall)
  | stopDelete (call : DeleteCall)
deriving DecidableEq

namespace GalleryState

/-- A `persist` call goes on to its next phase. -/
def advance (s : GalleryState) (call : PersistCall) (phase : PersistPhase) : List PersistCall :=
  { call with phase } :: s.persists.erase call

/-- A `delete` call has one vector less to deactivate, and ends with the last one. -/
def shorten (s : GalleryState) (call : DeleteCall) : List DeleteCall :=
  if call.remaining.tail = [] then s.deletes.erase call
  else { call with remaining := call.remaining.tail } :: s.deletes.erase call

/-- The transaction of `delete`; a `delete` that found no sample ends with it. -/
def startDelete (s : GalleryState) (faceId : String) : GalleryState :=
  let (deleted, stores) := s.stores.softDelete faceId
  if deleted then
    let (sampleIds, stores) := stores.deactivateByFace faceId
    { s with
      stores
      deletes := if sampleIds = [] then s.deletes else ⟨faceId, sampleIds⟩ :: s.deletes }
  else s

def next (s : GalleryState) : GalleryStep → GalleryState
  | .startPersist identity sampleId =>
      { s with
        stores := s.stores.ensureIdentityAndSample identity sampleId
        persists :=
          if s.stores.alreadyActive sampleId then s.persists
          else ⟨identity.faceId, sampleId, .ensured⟩ :: s.persists }
  | .updateBlobReady call =>
      { s with
        stores := s.stores.updateBlobReady call.sampleId
        persists := s.advance call .blobReady }
  | .upsert call vector =>
      { s with
        stores := s.stores.upsert { sampleId := call.sampleId, faceId := call.faceId, vector }
        persists := s.advance call .upserted }
  | .setActive call =>
      { s with stores := s.stores.setActive call.sampleId, persists := s.persists.erase call }
  | .recordFailure call errorCode =>
      { s with
        stores := s.stores.setFailed call.sampleId errorCode
        persists := s.persists.erase call }
  | .stopPersist call => { s with persists := s.persists.erase call }
  | .startDelete faceId => s.startDelete faceId
  | .deactivate call =>
      { s with
        stores := call.remaining.head?.elim s.stores s.stores.deactivate
        deletes := s.shorten call }
  | .stopDelete call => { s with deletes := s.deletes.erase call }

/-- A step of a call that is in progress, in the order of the code.  A failure is recorded when
the upload or the upsert raises, which it may do after the store has taken the vector, and when
`set_active` finds no sample. -/
def enabled (s : GalleryState) : GalleryStep → Prop
  | .startPersist identity _ => identity.isActive = true
  | .updateBlobReady call => call ∈ s.persists ∧ call.phase = .ensured
  | .upsert call _ => call ∈ s.persists ∧ call.phase = .blobReady
  | .setActive call => call ∈ s.persists ∧ call.phase = .upserted
  | .recordFailure call _ => call ∈ s.persists
  | .stopPersist call => call ∈ s.persists
  | .startDelete _ => True
  | .deactivate call => call ∈ s.deletes
  | .stopDelete call => call ∈ s.deletes

instance (s : GalleryState) (step : GalleryStep) : Decidable (s.enabled step) :=
  match step with
  | .startPersist _ _ => inferInstanceAs (Decidable (_ = _))
  | .updateBlobReady _ | .upsert _ _ | .setActive _ => inferInstanceAs (Decidable (_ ∧ _))
  | .recordFailure _ _ | .stopPersist _ | .deactivate _ | .stopDelete _ =>
      inferInstanceAs (Decidable (_ ∈ _))
  | .startDelete _ => inferInstanceAs (Decidable True)

/-- No `persist` or `delete` of the identity is in progress. -/
def Quiet (s : GalleryState) (faceId : String) : Prop :=
  (∀ call ∈ s.persists, call.faceId ≠ faceId) ∧ ∀ call ∈ s.deletes, call.faceId ≠ faceId

instance (s : GalleryState) (faceId : String) : Decidable (s.Quiet faceId) :=
  inferInstanceAs (Decidable (_ ∧ _))

/-- Whatever is deleted and not being worked on has no active sample and no active vector. -/
def DeletedSpared (s : GalleryState) : Prop :=
  ∀ faceId, s.Quiet faceId → s.stores.Deleted faceId → s.stores.Spared faceId

/-- The step does not activate anything of a deleted identity; the transaction of a `delete`
finds the samples of all active vectors; no `delete` stops halfway. -/
def Spares (s : GalleryState) : GalleryStep → Prop
  | .startPersist identity sampleId =>
      s.stores.samples.get sampleId = none → ¬ s.stores.Deleted identity.faceId
  | .upsert call _ => ¬ s.stores.Deleted call.faceId
  | .setActive call =>
      ∀ sample ∈ s.stores.samples.get call.sampleId, ¬ s.stores.Deleted sample.faceId
  | .startDelete faceId =>
      ∀ point ∈ s.stores.vectors.rows, point.faceId = faceId → point.active = true →
        point.sampleId ∈ s.stores.activeSamples faceId
  | .stopDelete _ => False
  | _ => True

instance (s : GalleryState) (step : GalleryStep) : Decidable (s.Spares step) :=
  match step with
  | .startPersist _ _ => inferInstanceAs (Decidable (_ → _))
  | .upsert _ _ => inferInstanceAs (Decidable (¬ _))
  | .setActive call =>
      match h : s.stores.samples.get call.sampleId with
      | none => isTrue (by intro sample hsample; rw [h] at hsample; cases hsample)
      | some sample =>
          if hdeleted : s.stores.Deleted sample.faceId then
            isFalse fun hall => hall sample (by rw [h]; exact rfl) hdeleted
          else isTrue (by
            intro other hother
            rw [h] at hother
            cases hother
            exact hdeleted)
  | .startDelete _ => inferInstanceAs (Decidable (∀ _ ∈ _, _))
  | .stopDelete _ => inferInstanceAs (Decidable False)
  | .updateBlobReady _ | .recordFailure _ _ | .stopPersist _ | .deactivate _ =>
      inferInstanceAs (Decidable True)

end GalleryState

/-- Stores in which nothing of a deleted identity is active, and no call in progress. -/
def gallery : Machine GalleryState GalleryStep where
  init s := s.persists = [] ∧ s.deletes = [] ∧
    ∀ faceId, s.stores.Deleted faceId → s.stores.Spared faceId
  enabled s step := s.enabled step
  next s step := s.next step

instance (s : GalleryState) (step : GalleryStep) : Decidable (gallery.enabled s step) :=
  inferInstanceAs (Decidable (s.enabled step))

/-! ## The invariant -/

namespace GalleryState

variable {s : GalleryState} {faceId : String}

/-- Of a deleted identity no sample is active, and an active vector is left to a `delete`. -/
structure Clearing (s : GalleryState) (faceId : String) : Prop where
  samples : ∀ sample ∈ s.stores.samples.rows, sample.faceId = faceId → sample.isActive = false
  vectors : ∀ point ∈ s.stores.vectors.rows, point.faceId = faceId → point.active = true →
    ∃ call ∈ s.deletes, call.faceId = faceId ∧ point.sampleId ∈ call.remaining

def Inv (s : GalleryState) : Prop :=
  ∀ faceId, s.stores.Deleted faceId → s.Clearing faceId

theorem Clearing.spared (h : s.Clearing faceId) (hquiet : s.Quiet faceId) :
    s.stores.Spared faceId := by
  refine ⟨h.samples, ?_⟩
  intro point hpoint hface
  rw [← Bool.not_eq_true]
  intro hactive
  obtain ⟨call, hcall, hown, -⟩ := h.vectors point hpoint hface hactive
  exact hquiet.2 call hcall hown

end GalleryState

open GalleryState Stores

theorem inv_init {s : GalleryState} (h : gallery.init s) : s.Inv := by
  obtain ⟨-, -, hspared⟩ := h
  intro faceId hdeleted
  obtain ⟨hsamples, hvectors⟩ := hspared faceId hdeleted
  refine ⟨hsamples, ?_⟩
  intro point hpoint hface hactive
  rw [hvectors point hpoint hface] at hactive
  cases hactive

/-- A step that leaves the identities and the deletes is judged by what it activates. -/
theorem Inv.of_frame {s s' : GalleryState} (h : s.Inv)
    (hidentities : ∀ faceId, s'.stores.Deleted faceId → s.stores.Deleted faceId)
    (hdeletes : s'.deletes = s.deletes)
    (hsamples : ∀ sample ∈ s'.stores.samples.rows, sample.isActive = true →
      s'.stores.Deleted sample.faceId →
        ∃ old ∈ s.stores.samples.rows, old.faceId = sample.faceId ∧ old.isActive = true)
    (hvectors : ∀ point ∈ s'.stores.vectors.rows, s'.stores.Deleted point.faceId →
      point ∈ s.stores.vectors.rows) : s'.Inv := by
  intro faceId hdeleted
  have hold := h faceId (hidentities faceId hdeleted)
  refine ⟨?_, ?_⟩
  · intro sample hsample hface
    rw [← Bool.not_eq_true]
    intro hactive
    obtain ⟨old, hmem, hsame, hwas⟩ := hsamples sample hsample hactive (hface ▸ hdeleted)
    rw [hold.samples old hmem (hsame.trans hface)] at hwas
    cases hwas
  · intro point hpoint hface hactive
    rw [hdeletes]
    exact hold.vectors point (hvectors point hpoint (hface ▸ hdeleted)) hface hactive

theorem deleted_ensure {s : Stores} {identity : FaceIdentity} {sampleId faceId : String}
    (hactive : identity.isActive = true)
    (h : (s.ensureIdentityAndSample identity sampleId).Deleted faceId) : s.Deleted faceId := by
  obtain ⟨row, hrow, hfalse⟩ := h
  unfold ensureIdentityAndSample at hrow
  rw [createPending_identities] at hrow
  split at hrow
  · by_cases hface : faceId = identity.faceId
    · rename_i hnone
      subst hface
      have hself : (s.identities.insert identity).get identity.faceId = some identity :=
        Table.get_insert_self hnone
      rw [show (s.createIdentity identity).identities = s.identities.insert identity from rfl,
        hself] at hrow
      cases hrow
      rw [hactive] at hfalse
      cases hfalse
    · refine ⟨row, ?_, hfalse⟩
      rw [← hrow]
      exact (Table.get_insert_of_ne fun h => hface h.symm).symm
  · exact ⟨row, hrow, hfalse⟩

/-- A row of the samples after an update of one of them. -/
theorem exists_of_updateSample {s : Stores} {sampleId : String} {f : FaceSample → FaceSample} {hf}
    {sample : FaceSample} (h : sample ∈ (s.updateSample sampleId f hf).samples.rows) :
    sample ∈ s.samples.rows ∨ ∃ old, s.samples.get sampleId = some old ∧ sample = f old := by
  have h : sample ∈ (s.samples.update sampleId f hf).rows := h
  rcases Table.mem_update.mp h with ⟨hold, -⟩ | ⟨old, hold, hkey, rfl⟩
  · exact .inl hold
  · exact .inr ⟨old, Table.get_eq_some_iff.mpr ⟨hold, hkey⟩, rfl⟩

/-- What the transaction of a `delete` finds and leaves. -/
theorem startDelete_cases (s : GalleryState) (faceId : String) :
    s.startDelete faceId = s ∨
      ((s.startDelete faceId).stores.identities = s.stores.identities.update faceId
          (fun identity => { identity with isActive := false, version := identity.version + 1 })
          (fun _ => rfl) ∧
        (s.startDelete faceId).stores.samples = s.stores.samples.updateWhere
          (fun sample => sample.faceId = faceId ∧ sample.isActive)
          (fun sample => { sample with lifecycleState := .inactive, isActive := false })
          (fun _ => rfl) ∧
        (s.startDelete faceId).stores.vectors = s.stores.vectors ∧
        (∀ call ∈ s.deletes, call ∈ (s.startDelete faceId).deletes) ∧
        ∀ sampleId ∈ s.stores.activeSamples faceId,
          ∃ call ∈ (s.startDelete faceId).deletes,
            call.faceId = faceId ∧ sampleId ∈ call.remaining) := by
  unfold GalleryState.startDelete softDelete
  cases s.stores.getActiveById faceId with
  | none => exact .inl rfl
  | some identity =>
      refine .inr ⟨rfl, rfl, rfl, ?_, ?_⟩
      · intro call hcall
        show call ∈ ite _ _ _
        split
        · exact hcall
        · exact List.mem_cons_of_mem _ hcall
      · intro sampleId hsample
        show ∃ call ∈ ite (s.stores.activeSamples faceId = []) _ _, _
        rw [if_neg (List.ne_nil_of_mem hsample)]
        exact ⟨_, List.mem_cons_self, rfl, hsample⟩

theorem inv_startDelete {s : GalleryState} (h : s.Inv) {faceId : String}
    (hspares : s.Spares (.startDelete faceId)) : (s.startDelete faceId).Inv := by
  rcases startDelete_cases s faceId with hsame |
      ⟨hidentities, hsamples, hvectors, hdeletes, hlisted⟩
  · rw [hsame]
    exact h
  · intro other hdeleted
    by_cases hother : other = faceId
    · subst hother
      refine ⟨?_, ?_⟩
      · intro sample hsample hface
        rw [hsamples] at hsample
        obtain ⟨old, hold, rfl⟩ := Table.mem_mapRows.mp hsample
        split at hface
        · rename_i hsel
          rw [if_pos hsel]
        · rename_i hsel
          rw [if_neg hsel]
          rw [decide_eq_true_eq, not_and, Bool.not_eq_true] at hsel
          exact hsel hface
      · intro point hpoint hface hactive
        rw [hvectors] at hpoint
        exact hlisted _ (hspares point hpoint hface hactive)
    · have hwas : s.stores.Deleted other := by
        obtain ⟨row, hrow, hfalse⟩ := hdeleted
        rw [hidentities, Table.get_update, if_neg hother] at hrow
        exact ⟨row, hrow, hfalse⟩
      have hold := h other hwas
      refine ⟨?_, ?_⟩
      · intro sample hsample hface
        rw [hsamples] at hsample
        obtain ⟨old, hmem, rfl⟩ := Table.mem_mapRows.mp hsample
        split
        · rfl
        · rename_i hsel
          rw [if_neg hsel] at hface
          exact hold.samples old hmem hface
      · intro point hpoint hface hactive
        rw [hvectors] at hpoint
        obtain ⟨call, hcall, hrest⟩ := hold.vectors point hpoint hface hactive
        exact ⟨call, hdeletes call hcall, hrest⟩

theorem inv_deactivate {s : GalleryState} (h : s.Inv) {call : DeleteCall} :
    (s.next (.deactivate call)).Inv := by
  intro faceId hdeleted
  have hidentities : (s.next (.deactivate call)).stores.identities = s.stores.identities := by
    show (call.remaining.head?.elim s.stores s.stores.deactivate).identities = _
    cases call.remaining.head? <;> rfl
  have hsamples : (s.next (.deactivate call)).stores.samples = s.stores.samples := by
    show (call.remaining.head?.elim s.stores s.stores.deactivate).samples = _
    cases call.remaining.head? <;> rfl
  have hold : s.Clearing faceId := by
    apply h
    obtain ⟨row, hrow, hfalse⟩ := hdeleted
    rw [hidentities] at hrow
    exact ⟨row, hrow, hfalse⟩
  refine ⟨?_, ?_⟩
  · rw [hsamples]
    exact hold.samples
  · intro point hpoint hface hactive
    -- the point was there and active, and it is not the one just deactivated
    have hwas : point ∈ s.stores.vectors.rows ∧ call.remaining.head? ≠ some point.sampleId := by
      have hpoint : point ∈ (call.remaining.head?.elim s.stores s.stores.deactivate).vectors.rows :=
        hpoint
      cases hhead : call.remaining.head? with
      | none =>
          rw [hhead] at hpoint
          exact ⟨hpoint, by simp⟩
      | some sampleId =>
          rw [hhead] at hpoint
          rcases mem_deactivate hpoint with ⟨hmem, hne⟩ | hoff
          · refine ⟨hmem, ?_⟩
            intro heq
            exact hne (Option.some.inj heq).symm
          · rw [hoff] at hactive
            cases hactive
    obtain ⟨owner, howner, hown, hmem⟩ := hold.vectors point hwas.1 hface hactive
    show ∃ c ∈ s.shorten call, _
    unfold shorten
    by_cases hsame : owner = call
    · subst hsame
      -- the point is not the head, so it is in the tail
      have htail : point.sampleId ∈ owner.remaining.tail := by
        cases hrem : owner.remaining with
        | nil =>
            rw [hrem] at hmem
            cases hmem
        | cons first rest =>
            rw [hrem] at hmem
            rcases List.mem_cons.mp hmem with hfirst | hrest
            · refine absurd ?_ hwas.2
              rw [hrem, List.head?_cons, hfirst]
            · exact hrest
      rw [if_neg (List.ne_nil_of_mem htail)]
      exact ⟨_, List.mem_cons_self, hown, htail⟩
    · have hkeep : owner ∈ s.deletes.erase call := (List.mem_erase_of_ne hsame).mpr howner
      split
      · exact ⟨owner, hkeep, hown, hmem⟩
      · exact ⟨owner, List.mem_cons_of_mem _ hkeep, hown, hmem⟩

theorem inv_preserved : gallery.PreservedUnder GalleryState.Spares Inv := by
  intro s step henabled hspares h
  cases step with
  | startPersist identity sampleId =>
      apply Inv.of_frame h
      · intro faceId hdeleted
        exact deleted_ensure henabled hdeleted
      · rfl
      · intro sample hsample hactive hdeleted
        have hsample : sample ∈ (((if s.stores.identities.get identity.faceId = none then
            s.stores.createIdentity identity else s.stores).samples).insert
              { sampleId, faceId := identity.faceId }).rows := hsample
        have hsame : (if s.stores.identities.get identity.faceId = none then
            s.stores.createIdentity identity else s.stores).samples = s.stores.samples := by
          split <;> rfl
        rw [hsame] at hsample
        rcases Table.mem_insert hsample with hold | ⟨rfl, hfresh⟩
        · exact ⟨sample, hold, rfl, hactive⟩
        · -- the new row is active, so its identity is not a deleted one
          refine absurd (deleted_ensure henabled hdeleted) (hspares ?_)
          rw [Table.get_eq_none_iff]
          intro row hrow hkey
          exact hfresh (List.mem_map.mpr ⟨row, hrow, hkey⟩)
      · intro point hpoint _
        have hsame : (s.stores.ensureIdentityAndSample identity sampleId).vectors =
            s.stores.vectors := by
          unfold ensureIdentityAndSample
          rw [createPending_vectors]
          split <;> rfl
        rw [← hsame]
        exact hpoint
  | updateBlobReady call =>
      apply Inv.of_frame h
      · exact fun _ hdeleted => hdeleted
      · rfl
      · intro sample hsample hactive _
        rcases exists_of_updateSample hsample with hold | ⟨old, hget, rfl⟩
        · exact ⟨sample, hold, rfl, hactive⟩
        · exact ⟨old, (Table.get_eq_some_iff.mp hget).1, rfl, hactive⟩
      · exact fun _ hpoint _ => hpoint
  | upsert call vector =>
      apply Inv.of_frame h
      · exact fun _ hdeleted => hdeleted
      · rfl
      · intro sample hsample hactive _
        exact ⟨sample, hsample, rfl, hactive⟩
      · intro point hpoint hdeleted
        rcases mem_upsert hpoint with rfl | ⟨hold, -⟩
        · exact absurd hdeleted hspares
        · exact hold
  | setActive call =>
      apply Inv.of_frame h
      · exact fun _ hdeleted => hdeleted
      · rfl
      · intro sample hsample hactive hdeleted
        rcases exists_of_updateSample hsample with hold | ⟨old, hget, rfl⟩
        · exact ⟨sample, hold, rfl, hactive⟩
        · exact absurd hdeleted (hspares old hget)
      · exact fun _ hpoint _ => hpoint
  | recordFailure call errorCode =>
      apply Inv.of_frame h
      · exact fun _ hdeleted => hdeleted
      · rfl
      · intro sample hsample hactive _
        rcases exists_of_updateSample hsample with hold | ⟨old, -, rfl⟩
        · exact ⟨sample, hold, rfl, hactive⟩
        · cases hactive
      · exact fun _ hpoint _ => hpoint
  | stopPersist call =>
      apply Inv.of_frame h
      · exact fun _ hdeleted => hdeleted
      · rfl
      · exact fun sample hsample hactive _ => ⟨sample, hsample, rfl, hactive⟩
      · exact fun _ hpoint _ => hpoint
  | startDelete faceId => exact inv_startDelete h hspares
  | deactivate call => exact inv_deactivate h
  | stopDelete call => exact absurd hspares id

/-- However the calls overlap, fail or stop: as long as nothing activates a sample or a vector
of a deleted identity, and every `delete` finds the samples of all active vectors and comes to
its end, a deleted identity is left with no active sample and no active vector. -/
theorem deleted_spared_of_spares {s : GalleryState} {steps : List GalleryStep}
    (hinit : gallery.init s) (hvalid : gallery.Valid s steps)
    (hspares : gallery.Meets GalleryState.Spares s steps) :
    gallery.Always DeletedSpared s steps := by
  have hinv := inv_preserved.always hvalid hspares (inv_init hinit)
  apply hinv.imp
  intro s h faceId hquiet hdeleted
  exact (h faceId hdeleted).spared hquiet

/-! ## Two runs -/

/-- A sample of the identity is persisted up to a phase. -/
def faceCall (phase : PersistPhase) : PersistCall := ⟨"face", "sample", phase⟩

/-- A `persist` that ends before the identity is deleted. -/
def deletedAfterwards : List GalleryStep :=
  [.startPersist { faceId := "face" } "sample", .updateBlobReady (faceCall .ensured),
    .upsert (faceCall .blobReady) [1], .setActive (faceCall .upserted), .startDelete "face",
    .deactivate ⟨"face", ["sample"]⟩]

theorem deleted_afterwards_spared :
    gallery.Always DeletedSpared { stores := {} } deletedAfterwards :=
  deleted_spared_of_spares ⟨rfl, rfl, by rintro faceId ⟨identity, hnone, -⟩; cases hnone⟩
    (by decide) (by decide)

/-- The `delete` comes and goes between the first step of a `persist` and its second one. -/
def deletedMeanwhile : List GalleryStep :=
  [.startPersist { faceId := "face" } "sample", .startDelete "face",
    .deactivate ⟨"face", ["sample"]⟩, .updateBlobReady (faceCall .ensured),
    .upsert (faceCall .blobReady) [1], .setActive (faceCall .upserted)]

theorem deleted_identity_active :
    ¬ ∀ (s : GalleryState) (steps : List GalleryStep), gallery.init s → gallery.Valid s steps →
      gallery.Always DeletedSpared s steps := by
  intro h
  have hlast := (h { stores := {} } deletedMeanwhile
    ⟨rfl, rfl, by rintro faceId ⟨identity, hnone, -⟩; cases hnone⟩ (by decide)).last
  have hspared := hlast "face" (by decide) (by decide)
  exact absurd hspared (by decide)

end Mvision.Gallery
