import Mvision.Gallery.Stores
import Mvision.Live.SessionSpec
import Mvision.Live.TextFormats

/-!
# `StorageReconciliationService`

A sample whose checks find an issue is repaired: its row becomes inactive and its vector is
deleted.  That a store could not be asked is an issue like the others.
-/

namespace Mvision.Gallery

open Mvision.Library
open Mvision.Live (Json hexadecimal uuidText)

/-! ## The stores -/

/-- The columns of `face_sample` that a repair reads or writes. -/
structure StoredSample where
  sampleId : String
  faceId : String
  lifecycleState : SampleState := .active
  isActive : Bool := true
  objectKey : String
  sha256 : String
  embeddingModelVersion : String
  preprocessVersion : String
deriving DecidableEq, Repr

structure StoredPoint where
  sampleId : String
  vector : List ℚ
  payload : List (String × Json)

/-- The rows, the objects with the checksum in their metadata, and the points. -/
structure Storage where
  samples : Table StoredSample.sampleId
  objects : String → Option (Option String)
  vectors : Table StoredPoint.sampleId

/-- The samples for which a store cannot be asked. -/
structure Outages where
  stat : String → Bool
  get : String → Bool

/-- The samples for which a step of the repair raises; the exceptions are passed over. -/
structure RepairErrors where
  setInactive : String → Bool := fun _ => false
  delete : String → Bool := fun _ => false

/-- `OBJECT_KEY_PATTERN`, whose end also matches before a newline. -/
def objectKeyValid (objectKey : String) : Bool :=
  let text := codes objectKey
  decide (text.take 6 = codes "faces/") && uuidText hexadecimal ((text.drop 6).take 36) &&
    decide ((text.drop 42).take 1 = codes "/") && uuidText hexadecimal ((text.drop 43).take 36) &&
      decide (text.drop 79 = codes "/aligned" ∨ text.drop 79 = codes "/aligned\n")

inductive StatError where
  | objectNotFound
  | other
deriving DecidableEq, Repr

/-- The checksum that `stat_aligned_sample` returns. -/
def statAlignedSample (storage : Storage) (outages : Outages) (sample : StoredSample) :
    Except StatError (Option String) :=
  if objectKeyValid sample.objectKey = false then .error .other
  else if outages.stat sample.sampleId then .error .other
  else
    match storage.objects sample.objectKey with
    | none => .error .objectNotFound
    | some sha256 => .ok sha256

/-! ## `reconcile` -/

def objectIssues (storage : Storage) (outages : Outages) (sample : StoredSample) : List String :=
  match statAlignedSample storage outages sample with
  | .ok sha256 => if sha256 ≠ some sample.sha256 then ["checksum_mismatch"] else []
  | .error .objectNotFound => ["missing_object"]
  | .error .other => ["object_store_error"]

def payloadIssues (payload : List (String × Json)) (sample : StoredSample) : List String :=
  (match Json.get payload "active" with
    | .boolean true => []
    | _ => ["inactive_vector"]) ++
  (if (Json.get payload "embedding_model_version").isText sample.embeddingModelVersion then []
    else ["model_version_mismatch"]) ++
  (if (Json.get payload "preprocess_version").isText sample.preprocessVersion then []
    else ["preprocess_version_mismatch"])

def vectorIssues (storage : Storage) (outages : Outages) (sample : StoredSample) : List String :=
  if outages.get sample.sampleId then ["vector_store_error"]
  else
    match storage.vectors.get sample.sampleId with
    | none => ["missing_vector"]
    | some point => payloadIssues point.payload sample

def issues (storage : Storage) (outages : Outages) (sample : StoredSample) : List String :=
  objectIssues storage outages sample ++ vectorIssues storage outages sample

/-- What `reconcile` reports of a sample. -/
structure Mismatch where
  sampleId : String
  faceId : String
  objectKey : String
  issues : List String
deriving DecidableEq, Repr

def setInactive (storage : Storage) (sampleId : String) : Storage :=
  { storage with
    samples := storage.samples.update sampleId
      (fun sample => { sample with lifecycleState := .inactive, isActive := false }) fun _ => rfl }

def deleteVector (storage : Storage) (sampleId : String) : Storage :=
  { storage with vectors := storage.vectors.erase sampleId }

/-- `_repair` -/
def repair (errors : RepairErrors) (storage : Storage) (sampleId : String) : Storage :=
  let storage := if errors.setInactive sampleId then storage else setInactive storage sampleId
  if errors.delete sampleId then storage else deleteVector storage sampleId

/-- A round of the loop. -/
def reconcileSample (dryRun : Bool) (outages : Outages) (errors : RepairErrors)
    (state : List Mismatch × Storage) (sample : StoredSample) : List Mismatch × Storage :=
  match issues state.2 outages sample with
  | [] => state
  | found =>
      (state.1 ++ [⟨sample.sampleId, sample.faceId, sample.objectKey, found⟩],
        if dryRun then state.2 else repair errors state.2 sample.sampleId)

/-- `list_active_by_model` -/
def listActiveByModel (storage : Storage) (embeddingModelVersion preprocessVersion : String) :
    List StoredSample :=
  storage.samples.rows.filter fun sample =>
    sample.isActive ∧ sample.lifecycleState = .active ∧
      sample.embeddingModelVersion = embeddingModelVersion ∧
      sample.preprocessVersion = preprocessVersion

def reconcile (embeddingModelVersion preprocessVersion : String) (dryRun : Bool)
    (outages : Outages) (errors : RepairErrors) (storage : Storage) : List Mismatch × Storage :=
  (listActiveByModel storage embeddingModelVersion preprocessVersion).foldl
    (reconcileSample dryRun outages errors) ([], storage)

/-! ## What the checks find -/

/-- The object is there with its checksum, and the vector is there, active and of the recorded
versions. -/
def Healthy (storage : Storage) (sample : StoredSample) : Prop :=
  storage.objects sample.objectKey = some (some sample.sha256) ∧
    ∃ point, storage.vectors.get sample.sampleId = some point ∧
      Json.get point.payload "active" = .boolean true ∧
      Json.get point.payload "embedding_model_version" = .string sample.embeddingModelVersion ∧
      Json.get point.payload "preprocess_version" = .string sample.preprocessVersion

/-- The check of the object does not raise, but for an object that is not there. -/
def StatAnswers (outages : Outages) (sample : StoredSample) : Prop :=
  objectKeyValid sample.objectKey = true ∧ outages.stat sample.sampleId = false

/-- The checks of a sample do not raise. -/
def ChecksAnswer (outages : Outages) (sample : StoredSample) : Prop :=
  StatAnswers outages sample ∧ outages.get sample.sampleId = false

section Checks

variable {storage : Storage} {outages : Outages} {sample : StoredSample}

theorem statAlignedSample_ok_iff {sha256 : Option String} :
    statAlignedSample storage outages sample = .ok sha256 ↔
      StatAnswers outages sample ∧ storage.objects sample.objectKey = some sha256 := by
  unfold statAlignedSample StatAnswers
  cases objectKeyValid sample.objectKey with
  | false => simp
  | true =>
      cases outages.stat sample.sampleId with
      | true => simp
      | false => cases storage.objects sample.objectKey <;> simp

theorem objectIssues_eq_nil_iff :
    objectIssues storage outages sample = [] ↔
      StatAnswers outages sample ∧ storage.objects sample.objectKey = some (some sample.sha256) := by
  rw [← statAlignedSample_ok_iff]
  unfold objectIssues
  split
  · rename_i sha256 hstat
    rw [hstat, Except.ok.injEq]
    split
    · rename_i hdiffers
      exact iff_of_false (List.cons_ne_nil _ _) hdiffers
    · rename_i hsame
      exact iff_of_true rfl (not_not.mp hsame)
  · rename_i hstat
    rw [hstat]
    exact iff_of_false (List.cons_ne_nil _ _) (by rintro ⟨⟩)
  · rename_i hstat
    rw [hstat]
    exact iff_of_false (List.cons_ne_nil _ _) (by rintro ⟨⟩)

theorem payloadIssues_eq_nil_iff {payload : List (String × Json)} :
    payloadIssues payload sample = [] ↔
      Json.get payload "active" = .boolean true ∧
        Json.get payload "embedding_model_version" = .string sample.embeddingModelVersion ∧
        Json.get payload "preprocess_version" = .string sample.preprocessVersion := by
  have hactive : (match Json.get payload "active" with
      | .boolean true => []
      | _ => ["inactive_vector"]) = [] ↔ Json.get payload "active" = .boolean true := by
    split
    · rename_i h
      exact iff_of_true rfl h
    · rename_i h
      exact iff_of_false (List.cons_ne_nil _ _) h
  have hversion {value : Json} {text issue : String} :
      (if value.isText text = true then [] else [issue]) = [] ↔ value = .string text := by
    rw [← Json.isText_iff]
    split
    · rename_i h
      exact iff_of_true rfl h
    · rename_i h
      exact iff_of_false (List.cons_ne_nil _ _) h
  unfold payloadIssues
  rw [List.append_eq_nil_iff, List.append_eq_nil_iff, hactive, hversion, hversion, and_assoc]

/-- A sample without an issue is a healthy one whose checks were answered. -/
theorem issues_eq_nil_iff :
    issues storage outages sample = [] ↔ ChecksAnswer outages sample ∧ Healthy storage sample := by
  unfold issues vectorIssues ChecksAnswer Healthy
  rw [List.append_eq_nil_iff, objectIssues_eq_nil_iff]
  cases outages.get sample.sampleId with
  | true => simp
  | false =>
      cases storage.vectors.get sample.sampleId with
      | none => simp
      | some point =>
          simp only [Bool.false_eq_true, if_false, payloadIssues_eq_nil_iff, Option.some.injEq,
            exists_eq_left', and_true]
          exact and_assoc

end Checks

/-! ## The loop -/

/-- Two storages agree on a sample: its row, its point, and all objects. -/
structure AgreeOn (sampleId : String) (storage other : Storage) : Prop where
  samples : other.samples.get sampleId = storage.samples.get sampleId
  vectors : other.vectors.get sampleId = storage.vectors.get sampleId
  objects : other.objects = storage.objects

namespace AgreeOn

variable {sampleId : String} {storage other third : Storage}

theorem refl (storage : Storage) : AgreeOn sampleId storage storage := ⟨rfl, rfl, rfl⟩

theorem trans (h : AgreeOn sampleId storage other) (h' : AgreeOn sampleId other third) :
    AgreeOn sampleId storage third :=
  ⟨h'.samples.trans h.samples, h'.vectors.trans h.vectors, h'.objects.trans h.objects⟩

theorem issues_eq {sample : StoredSample} (h : AgreeOn sample.sampleId storage other)
    (outages : Outages) : issues other outages sample = issues storage outages sample := by
  unfold issues objectIssues vectorIssues statAlignedSample
  rw [h.vectors, h.objects]

end AgreeOn

section Loop

variable (dryRun : Bool) (outages : Outages) (errors : RepairErrors) {sampleId : String}

theorem agreeOn_repair {storage : Storage} {other : String} (hne : sampleId ≠ other) :
    AgreeOn sampleId storage (repair errors storage other) := by
  have hrow : AgreeOn sampleId storage (setInactive storage other) :=
    ⟨by rw [setInactive, Table.get_update, if_neg hne], rfl, rfl⟩
  have hpoint (storage : Storage) : AgreeOn sampleId storage (deleteVector storage other) :=
    ⟨rfl, Table.get_erase_of_ne hne, rfl⟩
  unfold repair
  dsimp only
  split <;> split
  · exact .refl storage
  · exact hrow
  · exact hpoint storage
  · exact hrow.trans (hpoint _)

/-- A round of the loop leaves the other samples alone. -/
theorem agreeOn_reconcileSample {state : List Mismatch × Storage} {sample : StoredSample}
    (hne : sampleId ≠ sample.sampleId) :
    AgreeOn sampleId state.2 (reconcileSample dryRun outages errors state sample).2 := by
  unfold reconcileSample
  split
  · exact .refl state.2
  · dsimp only
    split
    · exact .refl state.2
    · exact agreeOn_repair errors hne

theorem agreeOn_loop (state : List Mismatch × Storage) {samples : List StoredSample}
    (hne : ∀ sample ∈ samples, sampleId ≠ sample.sampleId) :
    AgreeOn sampleId state.2
      (samples.foldl (reconcileSample dryRun outages errors) state).2 := by
  induction samples generalizing state with
  | nil => exact .refl state.2
  | cons sample rest ih =>
      rw [List.forall_mem_cons] at hne
      exact (agreeOn_reconcileSample dryRun outages errors hne.1).trans (ih _ hne.2)

/-- What becomes of a sample of the loop depends on its own checks only. -/
theorem agreeOn_own_round (state : List Mismatch × Storage) {samples : List StoredSample}
    {sample : StoredSample} (hnodup : (samples.map StoredSample.sampleId).Nodup)
    (hsample : sample ∈ samples) :
    ∃ before, AgreeOn sample.sampleId state.2 before.2 ∧
      AgreeOn sample.sampleId (reconcileSample dryRun outages errors before sample).2
        (samples.foldl (reconcileSample dryRun outages errors) state).2 := by
  obtain ⟨earlier, later, rfl⟩ := List.append_of_mem hsample
  rw [List.map_append, List.map_cons, List.nodup_middle, List.nodup_cons, List.mem_append,
    not_or] at hnodup
  obtain ⟨⟨hearlier, hlater⟩, -⟩ := hnodup
  have hother {others : List StoredSample}
      (h : sample.sampleId ∉ others.map StoredSample.sampleId) :
      ∀ other ∈ others, sample.sampleId ≠ other.sampleId := fun other hmem heq =>
    h (heq ▸ List.mem_map_of_mem hmem)
  rw [List.foldl_append, List.foldl_cons]
  exact ⟨_, agreeOn_loop dryRun outages errors state (hother hearlier),
    agreeOn_loop dryRun outages errors _ (hother hlater)⟩

end Loop

/-! ## The pass -/

section Pass

variable {embeddingModelVersion preprocessVersion : String} {outages : Outages}
  {storage : Storage} {sample : StoredSample}

theorem nodup_listActiveByModel (storage : Storage) (embeddingModelVersion preprocessVersion) :
    ((listActiveByModel storage embeddingModelVersion preprocessVersion).map
      StoredSample.sampleId).Nodup :=
  storage.samples.nodup.sublist (List.filter_sublist.map _)

/-- A sample without an issue stays as it is, whatever else fails. -/
theorem agreeOn_of_no_issue (dryRun : Bool) (errors : RepairErrors)
    (hsample : sample ∈ listActiveByModel storage embeddingModelVersion preprocessVersion)
    (hissues : issues storage outages sample = []) :
    AgreeOn sample.sampleId storage
      (reconcile embeddingModelVersion preprocessVersion dryRun outages errors storage).2 := by
  obtain ⟨before, hbefore, hafter⟩ := agreeOn_own_round dryRun outages errors ([], storage)
    (nodup_listActiveByModel storage embeddingModelVersion preprocessVersion) hsample
  have hround : reconcileSample dryRun outages errors before sample = before := by
    unfold reconcileSample
    rw [hbefore.issues_eq, hissues]
  rw [hround] at hafter
  exact hbefore.trans hafter

/-- A sample with an issue ends inactive and without a vector. -/
theorem repaired_of_issue
    (hsample : sample ∈ listActiveByModel storage embeddingModelVersion preprocessVersion)
    (hissues : issues storage outages sample ≠ []) :
    (reconcile embeddingModelVersion preprocessVersion false outages {} storage).2.samples.get
        sample.sampleId = some { sample with lifecycleState := .inactive, isActive := false } ∧
      (reconcile embeddingModelVersion preprocessVersion false outages {} storage).2.vectors.get
        sample.sampleId = none := by
  obtain ⟨before, hbefore, hafter⟩ := agreeOn_own_round false outages {} ([], storage)
    (nodup_listActiveByModel storage embeddingModelVersion preprocessVersion) hsample
  have hround : (reconcileSample false outages {} before sample).2 =
      repair {} before.2 sample.sampleId := by
    unfold reconcileSample
    rw [hbefore.issues_eq]
    split
    · contradiction
    · rfl
  rw [hround] at hafter
  have hrow : storage.samples.get sample.sampleId = some sample :=
    Table.get_eq_some_iff.mpr ⟨(List.mem_filter.mp hsample).1, rfl⟩
  constructor
  · refine hafter.samples.trans ?_
    show (setInactive before.2 sample.sampleId).samples.get sample.sampleId = _
    rw [setInactive, Table.get_update, if_pos rfl, hbefore.samples]
    exact congrArg _ hrow
  · refine hafter.vectors.trans ?_
    show ((before.2.vectors).erase sample.sampleId).get sample.sampleId = none
    exact Table.get_eq_none_iff.mpr fun point hpoint => (Table.mem_erase.mp hpoint).2

end Pass

/-- A pass changes no healthy sample, and repairs the others whose checks were answered. -/
def RepairsOnlyBroken (embeddingModelVersion preprocessVersion : String) (outages : Outages)
    (storage : Storage) : Prop :=
  let after := (reconcile embeddingModelVersion preprocessVersion false outages {} storage).2
  (∀ sample ∈ storage.samples.rows, Healthy storage sample →
    after.samples.get sample.sampleId = some sample ∧
      after.vectors.get sample.sampleId = storage.vectors.get sample.sampleId) ∧
  ∀ sample ∈ listActiveByModel storage embeddingModelVersion preprocessVersion,
    ¬ Healthy storage sample → ChecksAnswer outages sample →
      (∃ row, after.samples.get sample.sampleId = some row ∧ row.lifecycleState = .inactive ∧
        row.isActive = false) ∧ after.vectors.get sample.sampleId = none

/-- A pass repairs only broken samples exactly if the checks of the healthy ones are answered. -/
theorem repairsOnlyBroken_iff (embeddingModelVersion preprocessVersion : String)
    (outages : Outages) (storage : Storage) :
    RepairsOnlyBroken embeddingModelVersion preprocessVersion outages storage ↔
      ∀ sample ∈ listActiveByModel storage embeddingModelVersion preprocessVersion,
        Healthy storage sample → ChecksAnswer outages sample := by
  constructor
  · rintro ⟨hkept, -⟩ sample hsample hhealthy
    have hmem := List.mem_filter.mp hsample
    by_contra hunanswered
    have hissues : issues storage outages sample ≠ [] := fun hnil =>
      hunanswered (issues_eq_nil_iff.mp hnil).1
    -- the sample has been active, so the repair has changed its row
    have hrow := (repaired_of_issue hsample hissues).1
    rw [(hkept sample hmem.1 hhealthy).1] at hrow
    have hinactive : sample.isActive = false :=
      congrArg StoredSample.isActive (Option.some.inj hrow)
    simp [hinactive] at hmem
  · intro hanswers
    refine ⟨fun sample hrow hhealthy => ?_, fun sample hsample hbroken hanswer => ?_⟩
    · have hget : storage.samples.get sample.sampleId = some sample :=
        Table.get_eq_some_iff.mpr ⟨hrow, rfl⟩
      rw [← hget]
      by_cases hsample : sample ∈ listActiveByModel storage embeddingModelVersion preprocessVersion
      · have hsame := agreeOn_of_no_issue false {} hsample
          (issues_eq_nil_iff.mpr ⟨hanswers sample hsample hhealthy, hhealthy⟩)
        exact ⟨hsame.samples, hsame.vectors⟩
      · have hothers : ∀ other ∈ listActiveByModel storage embeddingModelVersion preprocessVersion,
            sample.sampleId ≠ other.sampleId := by
          intro other hother heq
          obtain rfl := Table.eq_of_mem hrow (List.mem_filter.mp hother).1 heq
          exact hsample hother
        have hsame := agreeOn_loop false outages {} ([], storage) hothers
        exact ⟨hsame.samples, hsame.vectors⟩
    · have hissues : issues storage outages sample ≠ [] := fun hnil =>
        hbroken (issues_eq_nil_iff.mp hnil).2
      obtain ⟨hrow, hvector⟩ := repaired_of_issue hsample hissues
      exact ⟨⟨_, hrow, rfl, rfl⟩, hvector⟩

/-- A healthy sample. -/
def healthyStorage : Storage where
  samples := ⟨[{ sampleId := "01234567-0123-0123-0123-0123456789ab"
                 faceId := "01234567-0123-0123-0123-0123456789ab"
                 objectKey := "faces/01234567-0123-0123-0123-0123456789ab/" ++
                  "01234567-0123-0123-0123-0123456789ab/aligned"
                 sha256 := "c0"
                 embeddingModelVersion := "m"
                 preprocessVersion := "p" }], by decide⟩
  objects := fun _ => some (some "c0")
  vectors := ⟨[⟨"01234567-0123-0123-0123-0123456789ab", [1],
    [("active", .boolean true), ("embedding_model_version", .string "m"),
      ("preprocess_version", .string "p")]⟩], by simp⟩

/-- Its row is deactivated and its vector deleted while the object store is away. -/
theorem outage_deletes_vector :
    ¬ RepairsOnlyBroken "m" "p" ⟨fun _ => true, fun _ => false⟩ healthyStorage := by
  rintro ⟨hkept, -⟩
  obtain ⟨-, hvector⟩ := hkept _ List.mem_cons_self ⟨rfl, _, rfl, rfl, rfl, rfl⟩
  have hdeleted : ((reconcile "m" "p" false ⟨fun _ => true, fun _ => false⟩ {}
      healthyStorage).2.vectors.get "01234567-0123-0123-0123-0123456789ab").isSome = false := by
    decide
  rw [hvector] at hdeleted
  exact absurd hdeleted (by decide +kernel)

end Mvision.Gallery
