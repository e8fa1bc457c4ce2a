import Mvision.Gallery.Recognition

/-!
# The gallery under recognitions

A recognition adds to the gallery and changes nothing that is in it.  As long as nobody else
deletes or renames, every face of the answer is an identity of the gallery.
-/

namespace Mvision.Gallery

open Mvision.Library

/-! ## What is kept -/

/-- The identities, the active samples and the vectors are still there. -/
structure KeepsGallery (s t : Stores) : Prop where
  identities : KeepsIdentities s t
  samples : ∀ sampleId sample, s.samples.get sampleId = some sample →
    sample.lifecycleState = .active → t.samples.get sampleId = some sample
  vectors : ∀ sampleId point, s.vectors.get sampleId = some point →
    t.vectors.get sampleId = some point

theorem KeepsGallery.rfl {s : Stores} : KeepsGallery s s :=
  ⟨fun _ _ h => h, fun _ _ h _ => h, fun _ _ h => h⟩

theorem KeepsGallery.trans {s t u : Stores} (h : KeepsGallery s t) (h' : KeepsGallery t u) :
    KeepsGallery s u where
  identities _ _ hget := h'.identities _ _ (h.identities _ _ hget)
  samples _ _ hget hactive := h'.samples _ _ (h.samples _ _ hget hactive) hactive
  vectors _ _ hget := h'.vectors _ _ (h.vectors _ _ hget)

namespace RecognizeWorld

variable (world : RecognizeWorld)

/-- The ids of a face are not used. -/
structure Fresh (ordinal : Nat) (s : Stores) : Prop where
  identity : s.identities.get (world.newFaceId ordinal) = none
  sample : s.samples.get (world.newSampleId ordinal) = none
  point : s.vectors.get (world.newSampleId ordinal) = none

/-- The sample of a new face, when it is made. -/
def pending (ordinal : Nat) : FaceSample where
  sampleId := world.newSampleId ordinal
  faceId := world.newFaceId ordinal

/-- The rows of the ids of a face are the same. -/
structure SameOwn (ordinal : Nat) (s t : Stores) : Prop where
  identity : t.identities.get (world.newFaceId ordinal) =
    s.identities.get (world.newFaceId ordinal)
  sample : t.samples.get (world.newSampleId ordinal) = s.samples.get (world.newSampleId ordinal)
  point : t.vectors.get (world.newSampleId ordinal) = s.vectors.get (world.newSampleId ordinal)

/-- Others keep the gallery, and do not use the ids of this call. -/
def Spared : Prop :=
  ∀ step s, KeepsGallery s.stores (world.others step s).stores ∧
    ∀ ordinal, world.SameOwn ordinal s.stores (world.others step s).stores

/-- No id is drawn twice. -/
def DistinctIds : Prop :=
  Function.Injective world.newFaceId ∧ Function.Injective world.newSampleId

/-- A face touches nothing but the rows of its own ids. -/
structure TouchesOwn (ordinal : Nat) (s t : Stores) : Prop where
  identities : KeepsIdentities s t
  samples : ∀ sampleId sample, sampleId ≠ world.newSampleId ordinal →
    s.samples.get sampleId = some sample → sample.lifecycleState = .active →
    t.samples.get sampleId = some sample
  vectors : ∀ sampleId point, sampleId ≠ world.newSampleId ordinal →
    s.vectors.get sampleId = some point → t.vectors.get sampleId = some point
  fresh : ∀ other, other ≠ ordinal → world.Fresh other s → world.Fresh other t

/-- The relation on the whole state. -/
def Touches (ordinal : Nat) (s t : Recognitions) : Prop :=
  world.TouchesOwn ordinal s.stores t.stores

instance touchesRefl (ordinal : Nat) : Std.Refl (world.Touches ordinal) :=
  ⟨fun _ => ⟨fun _ _ h => h, fun _ _ _ h _ => h, fun _ _ _ h => h, fun _ _ h => h⟩⟩

instance touchesTrans (ordinal : Nat) : IsTrans Recognitions (world.Touches ordinal) where
  trans _ _ _ h h' := {
    identities := fun _ _ hget => h'.identities _ _ (h.identities _ _ hget)
    samples := fun _ _ hne hget hactive =>
      h'.samples _ _ hne (h.samples _ _ hne hget hactive) hactive
    vectors := fun _ _ hne hget => h'.vectors _ _ hne (h.vectors _ _ hne hget)
    fresh := fun other hne hfresh => h'.fresh other hne (h.fresh other hne hfresh) }

variable {world} {ordinal : Nat} {s t : Stores}

theorem Fresh.of_sameOwn (h : world.Fresh ordinal s) (hsame : world.SameOwn ordinal s t) :
    world.Fresh ordinal t :=
  ⟨hsame.identity.trans h.identity, hsame.sample.trans h.sample, hsame.point.trans h.point⟩

/-- What a face with new ids does keeps the gallery. -/
theorem TouchesOwn.keepsGallery (h : world.TouchesOwn ordinal s t)
    (hfresh : world.Fresh ordinal s) : KeepsGallery s t where
  identities := h.identities
  samples sampleId sample hget hactive := by
    refine h.samples sampleId sample ?_ hget hactive
    rintro rfl
    rw [hfresh.sample] at hget
    cases hget
  vectors sampleId point hget := by
    refine h.vectors sampleId point ?_ hget
    rintro rfl
    rw [hfresh.point] at hget
    cases hget

/-! ## The writes of a face -/

theorem touchesOwn_updateSample (f : FaceSample → FaceSample) (hf) :
    world.TouchesOwn ordinal s (s.updateSample (world.newSampleId ordinal) f hf) where
  identities _ _ h := h
  samples sampleId sample hne hget _ := by
    rw [Stores.updateSample, Table.get_update, if_neg hne]
    exact hget
  vectors _ _ _ h := h
  fresh other hne hfresh := by
    refine ⟨hfresh.identity, ?_, hfresh.point⟩
    rw [Stores.updateSample, Table.get_update, hfresh.sample]
    split <;> rfl

theorem touchesOwn_upsert (hids : world.DistinctIds) (vector : List ℚ) :
    world.TouchesOwn ordinal s (s.upsert (world.point ordinal vector)) where
  identities _ _ h := h
  samples _ _ _ h _ := h
  vectors sampleId point hne hget := by
    have hother : sampleId ≠ (world.point ordinal vector).sampleId := hne
    exact (Table.get_put_of_ne hother).trans hget
  fresh other hne hfresh := by
    have hother : world.newSampleId other ≠ (world.point ordinal vector).sampleId :=
      fun h => hne (hids.2 h)
    exact ⟨hfresh.identity, hfresh.sample, (Table.get_put_of_ne hother).trans hfresh.point⟩

/-- What the first transaction of a face leaves in the three tables. -/
theorem ensure_rows (world : RecognizeWorld) (ordinal : Nat) (s : Stores) :
    (s.ensureIdentityAndSample (world.identity ordinal) (world.newSampleId ordinal)).identities =
      (if s.identities.get (world.newFaceId ordinal) = none then
        s.identities.insert (world.identity ordinal) else s.identities) ∧
    (s.ensureIdentityAndSample (world.identity ordinal) (world.newSampleId ordinal)).samples =
      s.samples.insert (world.pending ordinal) ∧
    (s.ensureIdentityAndSample (world.identity ordinal) (world.newSampleId ordinal)).vectors =
      s.vectors := by
  unfold Stores.ensureIdentityAndSample
  refine ⟨?_, ?_, ?_⟩
  · show (Stores.createPending (if s.identities.get (world.newFaceId ordinal) = none then _ else _)
      _ _).identities = _
    split <;> rfl
  · split <;> rfl
  · split <;> rfl

theorem touchesOwn_ensure (hids : world.DistinctIds) :
    world.TouchesOwn ordinal s
      (s.ensureIdentityAndSample (world.identity ordinal) (world.newSampleId ordinal)) := by
  obtain ⟨hidentities, hsamples, hvectors⟩ := ensure_rows world ordinal s
  refine ⟨EnrollWorld.keepsIdentities_ensure s _ _, ?_, ?_, ?_⟩
  · intro sampleId sample _ hget _
    rw [hsamples]
    exact Table.get_insert_of_some hget
  · intro sampleId point _ hget
    rw [hvectors]
    exact hget
  · intro other hne hfresh
    have hface : (world.identity ordinal).faceId ≠ world.newFaceId other :=
      fun h => hne (hids.1 h).symm
    have hsample : (world.pending ordinal).sampleId ≠ world.newSampleId other :=
      fun h => hne (hids.2 h).symm
    refine ⟨?_, ?_, ?_⟩
    · rw [hidentities]
      split
      · exact (Table.get_insert_of_ne hface).trans hfresh.identity
      · exact hfresh.identity
    · rw [hsamples]
      exact (Table.get_insert_of_ne hsample).trans hfresh.sample
    · rw [hvectors]
      exact hfresh.point

/-! ## The steps of a face -/

/-- The rows of a new face, on the way. -/
structure Rows (world : RecognizeWorld) (ordinal : Nat) (sample : FaceSample)
    (point : Option VectorPoint) (s : Stores) : Prop where
  identity : s.identities.get (world.newFaceId ordinal) = some (world.identity ordinal)
  sample : s.samples.get (world.newSampleId ordinal) = some sample
  point : s.vectors.get (world.newSampleId ordinal) = point

/-- The face is in the gallery, with its sample and its vector. -/
def Stored (world : RecognizeWorld) (ordinal : Nat) (vector : List ℚ) : Stores → Prop :=
  world.Rows ordinal { world.pending ordinal with lifecycleState := .active, isActive := true }
    (some (world.point ordinal vector))

section Steps

variable {s t : Recognitions} {step : RecognizeStep}

theorem touches_call (hothers : world.Spared) : (world.call step).Keeps (world.Touches ordinal) := by
  have hmodify : (modify (world.others step) : Recognizing PUnit).Keeps
      (world.Touches ordinal) := by
    intro s
    obtain ⟨hkeeps, hsame⟩ := hothers step s
    exact ⟨hkeeps.identities, fun _ _ _ => hkeeps.samples _ _, fun _ _ _ => hkeeps.vectors _ _,
      fun other _ hfresh => hfresh.of_sameOwn (hsame other)⟩
  unfold call
  refine hmodify.bind fun _ => ?_
  split
  · exact Saga.Keeps.throw _
  · exact Saga.Keeps.pure _

theorem touches_modify {f : Stores → Stores} (hf : ∀ s, world.TouchesOwn ordinal s (f s)) :
    (modify fun s => s.withStores f : Recognizing PUnit).Keeps (world.Touches ordinal) :=
  fun s => hf s.stores

theorem touches_transaction (hothers : world.Spared) {f : Stores → Stores}
    (hf : ∀ s, world.TouchesOwn ordinal s (f s)) :
    (world.transaction step fun s => s.withStores f).Keeps (world.Touches ordinal) :=
  (touches_call hothers).bind fun _ => touches_modify hf

theorem touches_recordFailure (hothers : world.Spared) (errorCode : String) :
    (world.recordFailure ordinal errorCode).Keeps (world.Touches ordinal) := by
  unfold recordFailure transaction
  refine ((touches_call hothers).bind fun _ => ?_).tryCatch fun _ => Saga.Keeps.pure _
  exact fun s => touchesOwn_updateSample _ _

theorem touches_recorded (hothers : world.Spared) {failureCode : RecognizeError → String}
    {raised : String} {part : Recognizing Unit} (hpart : part.Keeps (world.Touches ordinal)) :
    (world.recorded ordinal failureCode raised part).Keeps (world.Touches ordinal) :=
  hpart.tryCatch fun _ => (touches_recordFailure hothers _).bind fun _ => Saga.Keeps.throw _

theorem touches_upsert (hothers : world.Spared) (hids : world.DistinctIds) (vector : List ℚ) :
    (world.upsert ordinal vector).Keeps (world.Touches ordinal) := by
  have hstore : (world.storePoint ordinal vector).Keeps (world.Touches ordinal) :=
    touches_modify fun _ => touchesOwn_upsert hids vector
  unfold upsert
  refine ((touches_call hothers).tryCatch fun e => ?_).bind fun _ => hstore
  split
  · exact hstore.bind fun _ => Saga.Keeps.throw e
  · exact Saga.Keeps.throw e

theorem touches_persist (hothers : world.Spared) (hids : world.DistinctIds) (vector : List ℚ) :
    (world.persist ordinal vector).Keeps (world.Touches ordinal) := by
  unfold persist persistSample finalize
  refine (touches_call hothers).bind fun _ => Saga.Keeps.get.bind fun s => ?_
  refine (touches_modify fun _ => touchesOwn_ensure hids).bind fun _ => ?_
  split
  · exact Saga.Keeps.pure _
  refine (touches_recorded hothers (touches_call hothers)).bind fun _ => ?_
  refine (touches_transaction hothers fun _ => touchesOwn_updateSample _ _).bind fun _ => ?_
  refine (touches_recorded hothers (touches_upsert hothers hids _)).bind fun _ => ?_
  refine (touches_call hothers).bind fun _ => Saga.Keeps.get.bind fun s => ?_
  split
  · exact touches_modify fun _ => touchesOwn_updateSample _ _
  · exact (touches_recordFailure hothers _).bind fun _ => Saga.Keeps.throw _

theorem touches_recognizeFace (hothers : world.Spared) (hids : world.DistinctIds)
    (detection : Detection) :
    (world.recognizeFace ordinal detection).Keeps (world.Touches ordinal) := by
  have hmatch : (world.matchFace ordinal detection.embedding).Keeps (world.Touches ordinal) := by
    unfold matchFace
    refine (touches_call hothers).bind fun _ => Saga.Keeps.get.bind fun s => ?_
    split
    · exact Saga.Keeps.throw _
    · exact Saga.Keeps.pure _
  unfold recognizeFace
  refine hmatch.bind fun found => ?_
  split
  · exact (keeps_requireEvidence detection).bind fun _ =>
      (touches_persist hothers hids _).bind fun _ => Saga.Keeps.pure _
  · exact Saga.Keeps.pure _

/-! ### A face that has been stored -/

theorem call_ok_iff : world.call step s = .ok () t ↔
    world.raises step = none ∧ t = world.others step s := by
  have hends := @ends_call world step s
  unfold Saga.Ends at hends
  constructor
  · intro h
    rw [h] at hends
    exact hends.symm
  · rintro ⟨hraises, rfl⟩
    cases hcall : world.call step s with
    | ok _ u =>
        rw [hcall] at hends
        rw [hends.1]
    | error e u =>
        rw [hcall] at hends
        rw [hends.2] at hraises
        cases hraises

/-- A part that is recorded ends well only by itself. -/
theorem ok_of_recorded {failureCode : RecognizeError → String} {raised : String}
    {part : Recognizing Unit}
    (h : world.recorded ordinal failureCode raised part s = .ok () t) : part s = .ok () t := by
  unfold recorded at h
  cases hpart : part s with
  | ok _ u =>
      rw [Saga.tryCatch_of_ok hpart] at h
      exact h
  | error e u =>
      rw [Saga.tryCatch_of_error hpart] at h
      obtain ⟨_, v, -, hthrow⟩ := Saga.bind_ok_iff.mp h
      cases hthrow

theorem ok_of_upsert {vector : List ℚ} (h : world.upsert ordinal vector s = .ok () t) :
    t = (world.others (.face ordinal .upsert) s).withStores
      (·.upsert (world.point ordinal vector)) := by
  unfold upsert at h
  obtain ⟨_, u, hu, h⟩ := Saga.bind_ok_iff.mp h
  cases hcall : world.call (.face ordinal .upsert) s with
  | ok _ v =>
      rw [Saga.tryCatch_of_ok hcall] at hu
      cases hu
      cases h
      rw [(call_ok_iff.mp hcall).2]
  | error e v =>
      rw [Saga.tryCatch_of_error hcall] at hu
      split at hu
      · obtain ⟨_, w, -, hthrow⟩ := Saga.bind_ok_iff.mp hu
        cases hthrow
      · cases hu

theorem Rows.others {sample : FaceSample} {point : Option VectorPoint} (hothers : world.Spared)
    (h : world.Rows ordinal sample point s.stores) :
    world.Rows ordinal sample point (world.others step s).stores := by
  have hsame := (hothers step s).2 ordinal
  exact ⟨hsame.identity.trans h.identity, hsame.sample.trans h.sample, hsame.point.trans h.point⟩

theorem Rows.updateSample {sample : FaceSample} {point : Option VectorPoint} {s : Stores}
    (h : world.Rows ordinal sample point s) (f : FaceSample → FaceSample) (hf) :
    world.Rows ordinal (f sample) point (s.updateSample (world.newSampleId ordinal) f hf) := by
  refine ⟨h.identity, ?_, h.point⟩
  rw [Stores.updateSample, Table.get_update, if_pos rfl, h.sample]
  rfl

theorem rows_ensure {s : Stores} (h : world.Fresh ordinal s) :
    world.Rows ordinal (world.pending ordinal) none
      (s.ensureIdentityAndSample (world.identity ordinal) (world.newSampleId ordinal)) := by
  obtain ⟨hidentities, hsamples, hvectors⟩ := ensure_rows world ordinal s
  refine ⟨?_, ?_, ?_⟩
  · rw [hidentities, if_pos h.identity]
    exact Table.get_insert_self h.identity
  · rw [hsamples]
    exact Table.get_insert_self h.sample
  · rw [hvectors]
    exact h.point

theorem rows_upsert {sample : FaceSample} {point : Option VectorPoint} {s : Stores}
    (h : world.Rows ordinal sample point s) (vector : List ℚ) :
    world.Rows ordinal sample (some (world.point ordinal vector))
      (s.upsert (world.point ordinal vector)) :=
  ⟨h.identity, h.sample, Table.get_put_self s.vectors (world.point ordinal vector)⟩

theorem rows_finalize (hothers : world.Spared) {sample : FaceSample} {point : Option VectorPoint}
    (h : world.Rows ordinal sample point s.stores) (hok : world.finalize ordinal s = .ok () t) :
    world.Rows ordinal { sample with lifecycleState := .active, isActive := true } point
      t.stores := by
  unfold finalize at hok
  obtain ⟨_, u, hcall, hok⟩ := Saga.bind_ok_iff.mp hok
  obtain ⟨-, rfl⟩ := call_ok_iff.mp hcall
  have hrows : world.Rows ordinal sample point
      (world.others (.face ordinal .setActive) s).stores := h.others hothers
  rw [Saga.bind_of_ok (Saga.get_eq _), hrows.sample, Option.isSome_some, if_pos rfl] at hok
  cases hok
  exact hrows.updateSample
    (fun sample => { sample with lifecycleState := .active, isActive := true }) fun _ => rfl

theorem stored_of_persist (hothers : world.Spared) {vector : List ℚ}
    (hfresh : world.Fresh ordinal s.stores) (h : world.persist ordinal vector s = .ok () t) :
    world.Stored ordinal vector t.stores := by
  unfold persist at h
  obtain ⟨_, u, hensure, h⟩ := Saga.bind_ok_iff.mp h
  obtain ⟨-, hu⟩ := call_ok_iff.mp hensure
  have hfresh' : world.Fresh ordinal u.stores := by
    rw [hu]
    exact hfresh.of_sameOwn ((hothers _ s).2 ordinal)
  have hnew : u.stores.alreadyActive (world.newSampleId ordinal) = false := by
    unfold Stores.alreadyActive
    rw [hfresh'.sample]
  rw [Saga.bind_of_ok (Saga.get_eq u), hnew, if_neg Bool.false_ne_true] at h
  have hpending := rows_ensure hfresh'
  -- from here on the rows of the face are known after each transaction
  unfold persistSample at h
  obtain ⟨_, v, hmade, h⟩ := Saga.bind_ok_iff.mp h
  cases hmade
  obtain ⟨_, w, hupload, h⟩ := Saga.bind_ok_iff.mp h
  obtain ⟨-, hw⟩ := call_ok_iff.mp (ok_of_recorded hupload)
  have huploaded : world.Rows ordinal (world.pending ordinal) none w.stores := by
    rw [hw]
    exact Rows.others hothers hpending
  obtain ⟨_, x, hready, h⟩ := Saga.bind_ok_iff.mp h
  obtain ⟨_, y, hcall, hready⟩ := Saga.bind_ok_iff.mp hready
  obtain ⟨-, hy⟩ := call_ok_iff.mp hcall
  cases hready
  have hstored : world.Rows ordinal { world.pending ordinal with lifecycleState := .blobReady } none
      (y.stores.updateBlobReady (world.newSampleId ordinal)) := by
    rw [hy]
    exact (huploaded.others hothers).updateSample
      (fun sample => { sample with lifecycleState := .blobReady }) fun _ => rfl
  obtain ⟨_, z, hupsert, h⟩ := Saga.bind_ok_iff.mp h
  have hz := ok_of_upsert (ok_of_recorded hupsert)
  have hindexed : world.Rows ordinal { world.pending ordinal with lifecycleState := .blobReady }
      (some (world.point ordinal vector)) z.stores := by
    rw [hz]
    exact rows_upsert (Rows.others hothers hstored) vector
  have hactive := rows_finalize hothers hindexed h
  exact hactive

/-! ### A face that is found -/

theorem ok_of_matchFace {embedding : List ℚ} {found : Option FaceMatch}
    (h : world.matchFace ordinal embedding s = .ok found t) :
    t = world.others (.face ordinal .search) s ∧ ∀ candidate, found = some candidate →
      t.stores.getActiveById candidate.identity.faceId = some candidate.identity := by
  unfold matchFace at h
  obtain ⟨_, u, hcall, h⟩ := Saga.bind_ok_iff.mp h
  obtain ⟨-, hu⟩ := call_ok_iff.mp hcall
  rw [Saga.bind_of_ok (Saga.get_eq u)] at h
  cases hmatch : world.matcher.matchFace u.stores embedding with
  | error e =>
      rw [hmatch] at h
      cases h
  | ok result =>
      rw [hmatch] at h
      cases h
      refine ⟨hu, ?_⟩
      rintro candidate rfl
      unfold EnrollWorld.matchFace at hmatch
      split at hmatch
      · cases hmatch
      · rename_i candidates groups hgroups
        have hgroup : candidates ∈ t.stores.candidatesBatch world.matcher.search
            world.matcher.versions [embedding] 0 := by
          rw [hgroups]
          exact List.mem_cons_self
        obtain ⟨answers, -, rfl⟩ := List.mem_map.mp hgroup
        have hmem := List.mem_of_find?_eq_some (Except.ok.inj hmatch)
        obtain ⟨answer, -, hactive⟩ := Stores.mem_matchesOf hmem
        rw [EnrollWorld.faceId_of_getActiveById hactive]
        exact hactive

end Steps

end RecognizeWorld

/-! ## The faces of an answer -/

/-- The face is an active identity and shown as it is; a new one can be found. -/
structure InGallery (versions : ModelVersions) (face : RecognizedFace) (s : Stores) : Prop where
  identity : ∃ identity, s.getActiveById face.faceId = some identity ∧
    (face.status = .known ↔ identity.lifecycleStatus = .known) ∧
    face.name = (if identity.lifecycleStatus = .known then identity.name else none) ∧
    face.metadata = if identity.lifecycleStatus = .known then some identity.metadata else none
  sample : face.status = .newAnonymous → ∃ sample point,
    s.samples.get sample.sampleId = some sample ∧ sample.faceId = face.faceId ∧
    sample.lifecycleState = .active ∧ s.vectors.get sample.sampleId = some point ∧
    point.faceId = face.faceId ∧ point ∈ s.searchable versions

variable {versions : ModelVersions} {face : RecognizedFace} {s t : Stores}

theorem mem_searchable {point : VectorPoint} : point ∈ s.searchable versions ↔
    point ∈ s.vectors.rows ∧ point.active = true ∧
      point.embeddingModelVersion = versions.modelVersion ∧
      point.preprocessVersion = versions.preprocessVersion := by
  unfold Stores.searchable
  rw [List.mem_filter, decide_eq_true_iff]

theorem InGallery.mono (h : InGallery versions face s) (hkeeps : KeepsGallery s t) :
    InGallery versions face t where
  identity := by
    obtain ⟨identity, hactive, hshown⟩ := h.identity
    obtain ⟨hget, hisActive⟩ := Stores.getActiveById_eq_some_iff.mp hactive
    exact ⟨identity,
      Stores.getActiveById_eq_some_iff.mpr ⟨hkeeps.identities _ _ hget, hisActive⟩, hshown⟩
  sample hnew := by
    obtain ⟨sample, point, hsample, hface, hactive, hpoint, hpointFace, hsearchable⟩ := h.sample hnew
    have hpoint' := hkeeps.vectors _ _ hpoint
    refine ⟨sample, point, hkeeps.samples _ _ hsample hactive, hface, hactive, hpoint',
      hpointFace, mem_searchable.mpr ⟨(Table.get_eq_some_iff.mp hpoint').1, ?_⟩⟩
    exact (mem_searchable.mp hsearchable).2

theorem inGallery_found {found : FaceMatch} (detection : Detection)
    (h : s.getActiveById found.identity.faceId = some found.identity) :
    InGallery versions (found.snapshot detection).toRecognizedFace s where
  identity := by
    refine ⟨found.identity, h, ?_, rfl, rfl⟩
    show found.identity.lifecycleStatus.faceStatus = .known ↔ _
    cases found.identity.lifecycleStatus <;> simp [LifecycleStatus.faceStatus]
  sample hnew := by
    have hstatus : found.identity.lifecycleStatus.faceStatus = .newAnonymous := hnew
    cases hlifecycle : found.identity.lifecycleStatus <;> rw [hlifecycle] at hstatus <;>
      cases hstatus

theorem RecognizeWorld.Stored.inGallery {world : RecognizeWorld} {ordinal : Nat}
    (detection : Detection) (h : world.Stored ordinal detection.embedding s) :
    InGallery world.versions (world.newSnapshot ordinal detection).toRecognizedFace s where
  identity := by
    have hactive := Stores.getActiveById_eq_some_iff.mpr ⟨h.identity, rfl⟩
    exact ⟨world.identity ordinal, hactive, by simp [newSnapshot, RecognizeWorld.identity], rfl, rfl⟩
  sample _ := by
    have hmem := (Table.get_eq_some_iff.mp h.point).1
    exact ⟨{ world.pending ordinal with lifecycleState := .active, isActive := true },
      world.point ordinal detection.embedding, h.sample, rfl, rfl, h.point, rfl,
      mem_searchable.mpr ⟨hmem, rfl, rfl, rfl⟩⟩

namespace RecognizeWorld

variable {world : RecognizeWorld} {ordinal : Nat}

/-- All faces are in the gallery. -/
def AllInGallery (world : RecognizeWorld) (faces : List FaceSnapshot) (s : Stores) : Prop :=
  ∀ face ∈ faces, InGallery world.versions face.toRecognizedFace s

/-- A call changes the gallery by the rows of its new faces only. -/
theorem ends_recognizeFace (hothers : world.Spared) (hids : world.DistinctIds)
    {s : Recognitions} (hfresh : world.Fresh ordinal s.stores) (detection : Detection) :
    Saga.Ends (fun snapshot t => world.Touches ordinal s t ∧
        InGallery world.versions snapshot.toRecognizedFace t.stores)
      (fun _ t => world.Touches ordinal s t) (world.recognizeFace ordinal detection) s := by
  refine ((touches_recognizeFace hothers hids detection).ends s).imp
    (fun snapshot t ht => ⟨ht.2, ?_⟩) fun _ t ht => ht.2
  have h := ht.1
  unfold recognizeFace at h
  obtain ⟨found, u, hfound, h⟩ := Saga.bind_ok_iff.mp h
  obtain ⟨hu, hactive⟩ := ok_of_matchFace hfound
  cases found with
  | some candidate =>
      obtain ⟨rfl, rfl⟩ := Saga.pure_ok_iff.mp h
      exact inGallery_found detection (hactive candidate rfl)
  | none =>
      obtain ⟨_, v, hevidence, h⟩ := Saga.bind_ok_iff.mp h
      obtain ⟨_, w, hpersist, h⟩ := Saga.bind_ok_iff.mp h
      obtain ⟨rfl, rfl⟩ := Saga.pure_ok_iff.mp h
      have hread : u = v := by
        have hkeeps := keeps_requireEvidence (R := Eq) detection u
        rwa [Saga.after_of_ok hevidence] at hkeeps
      have hstill : world.Fresh ordinal v.stores := by
        rw [← hread, hu]
        exact hfresh.of_sameOwn ((hothers _ s).2 ordinal)
      exact (stored_of_persist hothers hstill hpersist).inGallery detection

theorem ends_recognizeFaces (hothers : world.Spared) (hids : world.DistinctIds)
    {s : Recognitions} {detections : List Detection}
    (hfresh : ∀ other, ordinal ≤ other → world.Fresh other s.stores) :
    Saga.Ends (fun snapshots t => KeepsGallery s.stores t.stores ∧
        world.AllInGallery snapshots t.stores)
      (fun _ t => KeepsGallery s.stores t.stores) (world.recognizeFaces ordinal detections) s := by
  -- on the detections; the ids of those that are left stay fresh
  induction detections generalizing ordinal s with
  | nil => exact Saga.ends_pure ⟨KeepsGallery.rfl, List.forall_mem_nil _⟩
  | cons detection detections ih =>
      have hown := hfresh ordinal le_rfl
      refine ((ends_recognizeFace hothers hids hown detection).imp (fun _ t ht => ht)
        fun _ t ht => ht.keepsGallery hown).bind fun snapshot t ht => ?_
      obtain ⟨htouches, hshown⟩ := ht
      have hleft : ∀ other, ordinal + 1 ≤ other → world.Fresh other t.stores :=
        fun other hle => htouches.fresh other (by omega) (hfresh other (by omega))
      have hfirst := htouches.keepsGallery hown
      refine ((ih hleft).imp (fun _ u hu => hu) fun _ u hu => hfirst.trans hu).bind
        fun snapshots u hu => Saga.ends_pure ⟨hfirst.trans hu.1, ?_⟩
      exact List.forall_mem_cons.mpr ⟨hshown.mono hu.1, hu.2⟩

/-- The gallery is the one of others. -/
def Quiet (world : RecognizeWorld) (s t : Recognitions) : Prop :=
  KeepsGallery s.stores t.stores ∧ ∀ ordinal, world.SameOwn ordinal s.stores t.stores

instance quietRefl : Std.Refl world.Quiet :=
  ⟨fun _ => ⟨KeepsGallery.rfl, fun _ => ⟨rfl, rfl, rfl⟩⟩⟩

instance quietTrans : IsTrans Recognitions world.Quiet :=
  ⟨fun _ _ _ h h' => ⟨h.1.trans h'.1, fun ordinal =>
    ⟨(h'.2 ordinal).identity.trans (h.2 ordinal).identity,
      (h'.2 ordinal).sample.trans (h.2 ordinal).sample,
      (h'.2 ordinal).point.trans (h.2 ordinal).point⟩⟩⟩

theorem quiet_call (hothers : world.Spared) (step : RecognizeStep) :
    (world.call step).Keeps world.Quiet := by
  unfold call
  refine Saga.Keeps.bind (fun s => hothers step s) fun _ => ?_
  split
  · exact Saga.Keeps.throw _
  · exact Saga.Keeps.pure _

theorem quiet_transaction (hothers : world.Spared) {step : RecognizeStep}
    {f : Recognitions → Recognitions} (hf : ∀ s, (f s).stores = s.stores) :
    (world.transaction step f).Keeps world.Quiet := by
  refine (quiet_call hothers step).bind fun _ s => ?_
  show world.Quiet s (f s)
  unfold Quiet
  rw [hf]
  exact ⟨KeepsGallery.rfl, fun _ => ⟨rfl, rfl, rfl⟩⟩

theorem quiet_createProcess (hothers : world.Spared) :
    world.createProcess.Keeps world.Quiet := by
  unfold createProcess
  refine (quiet_call hothers _).bind fun _ => Saga.Keeps.get.bind fun s => ?_
  split
  · exact Saga.Keeps.throw _
  · exact fun s => ⟨KeepsGallery.rfl, fun _ => ⟨rfl, rfl, rfl⟩⟩

theorem quiet_fail (hothers : world.Spared) (code : String) :
    (world.fail code).Keeps world.Quiet := by
  unfold fail
  refine Saga.Keeps.tryCatch ?_ fun _ => Saga.Keeps.pure _
  exact quiet_transaction hothers fun _ => rfl

theorem ends_recognition_gallery (hothers : world.Spared) (hids : world.DistinctIds)
    {s : Recognitions} (hfresh : ∀ ordinal, world.Fresh ordinal s.stores) :
    Saga.Ends (fun response t => KeepsGallery s.stores t.stores ∧
        ∀ face ∈ response.faces, InGallery world.versions face t.stores)
      (fun _ t => KeepsGallery s.stores t.stores) world.recognition s := by
  unfold recognition
  refine (((quiet_call hothers .process).ends s).imp (fun _ t ht => ht.2)
    fun _ t ht => ht.2.1).bind fun _ t ht => ?_
  have hstill : ∀ other, 0 ≤ other → world.Fresh other t.stores :=
    fun other _ => (hfresh other).of_sameOwn (ht.2 other)
  refine ((ends_recognizeFaces hothers hids hstill).imp (fun _ u hu => hu)
    fun _ u hu => ht.1.trans hu).bind fun snapshots u hu => ?_
  have hstored : (world.storeResults snapshots).Keeps world.Quiet :=
    quiet_transaction hothers fun _ => rfl
  refine ((hstored.ends u).imp (fun _ v hv => hv.2) fun _ v hv =>
    (ht.1.trans hu.1).trans hv.2.1).bind fun _ v hv => Saga.ends_pure ?_
  refine ⟨(ht.1.trans hu.1).trans hv.1, List.forall_mem_map.mpr fun face hface => ?_⟩
  exact (hu.2 face hface).mono hv.1

end RecognizeWorld

/-- As long as others keep the gallery, so does a recognition, however it ends.  If it returns,
each face of the answer is an active identity and shown as it is, and a new one has an active
sample whose vector the next search finds. -/
theorem recognized_in_gallery {world : RecognizeWorld} (hothers : world.Spared)
    (hids : world.DistinctIds) {s : Recognitions}
    (hfresh : ∀ ordinal, world.Fresh ordinal s.stores) :
    Saga.Ends (fun response t => KeepsGallery s.stores t.stores ∧
        ∀ face ∈ response.faces, InGallery world.versions face t.stores)
      (fun _ t => KeepsGallery s.stores t.stores) world.recognize s := by
  unfold RecognizeWorld.recognize
  refine (((RecognizeWorld.quiet_createProcess hothers).ends s).imp (fun _ t ht => ht.2)
    fun _ t ht => ht.2.1).bind fun _ t ht => ?_
  have hstill : ∀ ordinal, world.Fresh ordinal t.stores :=
    fun ordinal => (hfresh ordinal).of_sameOwn (ht.2 ordinal)
  refine ((RecognizeWorld.ends_recognition_gallery hothers hids hstill).imp
    (fun _ u hu => ⟨ht.1.trans hu.1, hu.2⟩) fun _ u hu => ht.1.trans hu).tryCatch
    fun e u hu => ?_
  refine (((RecognizeWorld.quiet_fail hothers e.codes.1).ends u).imp
    (fun _ v hv => hu.trans hv.2.1) fun _ v hv => hu.trans hv.2.1).bind
    fun _ v hv => Saga.ends_throw hv

section Sample

variable (raises : RecognizeStep → Option RecognizeError) (upserted : Nat → Bool)

/-- The world of the sample, whichever of its steps raise. -/
def raisingSample : RecognizeWorld :=
  { RecognizeWorld.sample with
    raises := raises
    upserted := upserted }

theorem spared_sample : (raisingSample raises upserted).Spared := by
  intro step s
  have hface : ∀ ordinal, String.ofList ('f' :: List.replicate ordinal 'a') ≠ "visitor" := by
    intro ordinal h
    exact absurd (List.cons.inj (String.ofList_injective h)).1 (by decide)
  show KeepsGallery s.stores (if step = .storeResults then sampleVisitor s else s).stores ∧
    ∀ ordinal, (raisingSample raises upserted).SameOwn ordinal s.stores
      (if step = .storeResults then sampleVisitor s else s).stores
  split
  · refine ⟨⟨fun faceId identity hget => Table.get_insert_of_some hget, fun _ _ h _ => h,
      fun _ _ h => h⟩, fun ordinal => ⟨?_, rfl, rfl⟩⟩
    exact Table.get_insert_of_ne (hface ordinal).symm
  · exact ⟨KeepsGallery.rfl, fun _ => ⟨rfl, rfl, rfl⟩⟩

theorem distinctIds_sample : (raisingSample raises upserted).DistinctIds := by
  have hids : ∀ c : Char, Function.Injective fun ordinal =>
      String.ofList (c :: List.replicate ordinal 'a') := by
    intro c ordinal other h
    have hlength := congrArg List.length (String.ofList_injective h)
    simpa using hlength
  exact ⟨hids 'f', hids 's'⟩

theorem fresh_sample (ordinal : Nat) :
    (raisingSample raises upserted).Fresh ordinal sampleGallery.stores := by
  have hids : ∀ {c : Char} {text : String}, text.toList.head? ≠ some c →
      text ≠ String.ofList (c :: List.replicate ordinal 'a') := by
    rintro c _ hhead rfl
    rw [String.toList_ofList] at hhead
    exact hhead rfl
  refine ⟨?_, ?_, ?_⟩
  · exact (Table.get_insert_of_ne (hids (by decide))).trans rfl
  · exact (Table.get_insert_of_ne (hids (by decide))).trans rfl
  · exact (Table.get_insert_of_ne (hids (by decide))).trans rfl

end Sample

theorem recognized_in_gallery_sample :
    (∃ (response : RecognizeResponse) (t : Recognitions), response.shown = [("ada", some "Ada"), ("fa", none)] ∧
        KeepsGallery sampleGallery.stores t.stores ∧
        ∀ face ∈ response.faces, InGallery RecognizeWorld.sample.versions face t.stores) ∧
      ∃ t : Recognitions, KeepsGallery sampleGallery.stores t.stores := by
  obtain ⟨response, hresponse, hshown⟩ := Option.map_eq_some_iff.mp returned_sample
  have hkept := @recognized_in_gallery .sample (spared_sample _ _) (distinctIds_sample _ _)
    sampleGallery (fresh_sample _ _)
  have hfailing := @recognized_in_gallery .failingSample (spared_sample _ _)
    (distinctIds_sample _ _) sampleGallery (fresh_sample _ _)
  obtain ⟨t, ht⟩ := hkept.returned hresponse
  obtain ⟨e, u, hu⟩ := hfailing.raised raised_failingSample
  exact ⟨⟨response, t, hshown, ht⟩, u, hu⟩

end Mvision.Gallery
