import Mvision.Gallery.Deletion
import Mvision.Video.Finalization

/-!
# Retrying a finalization

`FaceSamplePersistenceService.persist` commits on its own.  A `finalize` that is
interrupted leaves the identities and samples of the tracks it has passed, and
the next attempt votes on the gallery with them.  The ids are the same in both
attempts; whether an identity is new is not.
-/

namespace Mvision.Gallery

open Mvision.Library

/-- How a `persist` call ends: nothing more is committed, or the upload or the upsert raises and the
failure is recorded, or it returns. -/
inductive PersistEnd where
  | stopped (phase : PersistPhase)
  | failed (phase : PersistPhase) (errorCode : String)
  | done
deriving DecidableEq, Repr

namespace Stores

variable (s : Stores) (identity : FaceIdentity) (point : VectorPoint)

/-- The steps of `persist` up to a phase. -/
def persistTo : PersistPhase → Stores
  | .ensured => s.ensureIdentityAndSample identity point.sampleId
  | .blobReady =>
      (s.ensureIdentityAndSample identity point.sampleId).updateBlobReady point.sampleId
  | .upserted =>
      ((s.ensureIdentityAndSample identity point.sampleId).updateBlobReady
        point.sampleId).upsert point

/-- What a `persist` call commits. -/
def persist (ending : PersistEnd) : Stores :=
  if s.alreadyActive point.sampleId then s.ensureIdentityAndSample identity point.sampleId
  else
    match ending with
    | .stopped phase => s.persistTo identity point phase
    | .failed phase errorCode =>
        (s.persistTo identity point phase).setFailed point.sampleId errorCode
    | .done => (s.persistTo identity point .upserted).setActive point.sampleId

variable {s identity point}

theorem ensure_vectors (sampleId : String) :
    (s.ensureIdentityAndSample identity sampleId).vectors = s.vectors := by
  unfold ensureIdentityAndSample
  split <;> rfl

theorem ensure_identities (sampleId : String) {faceId : String} (h : faceId ≠ identity.faceId) :
    (s.ensureIdentityAndSample identity sampleId).identities.get faceId =
      s.identities.get faceId := by
  unfold ensureIdentityAndSample
  rw [createPending_identities]
  split
  · exact Table.get_insert_of_ne fun heq => h heq.symm
  · rfl

variable (s identity point) in
/-- A call puts its own vector or none. -/
theorem persist_vectors (ending : PersistEnd) :
    (s.persist identity point ending).vectors = s.vectors ∨
      (s.persist identity point ending).vectors = s.vectors.put point := by
  have hto : ∀ phase, (s.persistTo identity point phase).vectors = s.vectors ∨
      (s.persistTo identity point phase).vectors = s.vectors.put point := by
    intro phase
    cases phase with
    | ensured => exact .inl (ensure_vectors point.sampleId)
    | blobReady => exact .inl (ensure_vectors point.sampleId)
    | upserted =>
        refine .inr ?_
        show Table.put (s.ensureIdentityAndSample identity point.sampleId).vectors point = _
        rw [ensure_vectors]
  unfold persist
  split
  · exact .inl (ensure_vectors point.sampleId)
  · cases ending with
    | stopped phase => exact hto phase
    | failed phase errorCode => exact hto phase
    | done => exact hto .upserted

/-- A call creates its own identity or none. -/
theorem persist_identities (ending : PersistEnd) {faceId : String}
    (h : faceId ≠ identity.faceId) :
    (s.persist identity point ending).identities.get faceId = s.identities.get faceId := by
  have hto : ∀ phase, (s.persistTo identity point phase).identities.get faceId =
      s.identities.get faceId := by
    intro phase
    cases phase <;> exact ensure_identities point.sampleId h
  unfold persist
  split
  · exact ensure_identities point.sampleId h
  · cases ending with
    | stopped phase => exact hto phase
    | failed phase errorCode => exact hto phase
    | done => exact hto .upserted

/-- A sample that can be found still can after another call that puts a vector of these models. -/
theorem searchable_persist {versions : ModelVersions} {sampleId : String} (ending : PersistEnd)
    (hpoint : point.active ∧ point.embeddingModelVersion = versions.modelVersion ∧
      point.preprocessVersion = versions.preprocessVersion)
    (h : ∃ found ∈ s.searchable versions, found.sampleId = sampleId) :
    ∃ found ∈ (s.persist identity point ending).searchable versions,
      found.sampleId = sampleId := by
  obtain ⟨found, hfound, rfl⟩ := h
  rcases persist_vectors s identity point ending with hsame | hput
  · refine ⟨found, ?_, rfl⟩
    rw [searchable, hsame]
    exact hfound
  · rw [searchable, hput]
    obtain ⟨hrow, hfilter⟩ := List.mem_filter.mp hfound
    by_cases hid : found.sampleId = point.sampleId
    · refine ⟨point, List.mem_filter.mpr ⟨?_, by simpa using hpoint⟩, hid.symm⟩
      exact (Table.get_eq_some_iff.mp (Table.get_put_self _ _)).1
    · refine ⟨found, List.mem_filter.mpr ⟨?_, hfilter⟩, rfl⟩
      have hget : s.vectors.get found.sampleId = some found :=
        Table.get_eq_some_iff.mpr ⟨hrow, rfl⟩
      rw [← Table.get_put_of_ne hid] at hget
      exact (Table.get_eq_some_iff.mp hget).1

end Stores

end Mvision.Gallery

namespace Mvision.Video

open Mvision.Library Mvision.Gallery

/-- `VideoIdentityVotingService` with its matcher. -/
structure Voter where
  settings : VotingSettings
  log1p : Nat → ℚ
  search : Search
  versions : ModelVersions

namespace Voter

variable (voter : Voter)

/-- `resolve` -/
def vote (s : Stores) (track : CanonicalVideoTrack) : VideoIdentityDecision :=
  voter.settings.resolve voter.log1p track.sourceTemplates
    (s.candidatesBatch voter.search voter.versions (track.sourceTemplates.map (·.embedding)) 0)

/-- The tracks with the votes on them, all of which `finalize` takes first. -/
def entries (s : Stores) (tracks : List CanonicalVideoTrack) :
    List (CanonicalVideoTrack × VideoIdentityDecision) :=
  tracks.map fun track => (track, voter.vote s track)

end Voter

/-- Where an attempt is interrupted: after so many tracks, or within the `persist` of the next. -/
structure Interruption where
  finished : Nat
  within : Option PersistEnd := none
deriving DecidableEq, Repr

/-- What a retry should find again. -/
structure Recognition where
  faceId : String
  statusSnapshot : SnapshotStatus
  nameSnapshot : Option String
  representativeSampleId : String
deriving DecidableEq, Repr

def VideoTrack.recognition (track : VideoTrack) : Recognition :=
  ⟨track.faceId, track.statusSnapshot, track.nameSnapshot, track.representativeSampleId⟩

namespace FinalizationContext

variable (context : FinalizationContext)

/-- The identity that `persist` makes for a track. -/
def newIdentity (track : CanonicalVideoTrack) (ordinal : Nat) : FaceIdentity :=
  { faceId := context.deterministicId track ordinal "face" }

/-- The vector that `persist` upserts for a track. -/
def newPoint (versions : ModelVersions) (track : CanonicalVideoTrack) (ordinal : Nat) :
    VectorPoint where
  sampleId := context.deterministicId track ordinal "sample"
  faceId := context.deterministicId track ordinal "face"
  vector := track.embedding
  embeddingModelVersion := versions.modelVersion
  preprocessVersion := versions.preprocessVersion

/-- What `_identity_outcome` commits in a turn of the loop. -/
def commitTurn (versions : ModelVersions) (f : Finalizing) (s : Stores)
    (entry : CanonicalVideoTrack × VideoIdentityDecision) (ending : PersistEnd) : Stores :=
  match usableMatch f.assigned entry.1 entry.2 with
  | some _ => s
  | none =>
      s.persist (context.newIdentity entry.1 f.persisted.length)
        (context.newPoint versions entry.1 f.persisted.length) ending

/-- What the loop commits from a state on until the interruption. -/
def commitUntil (versions : ModelVersions) (within : Option PersistEnd) (f : Finalizing)
    (s : Stores) : List (CanonicalVideoTrack × VideoIdentityDecision) → Nat → Stores
  | [], _ => s
  | entry :: _, 0 => within.elim s (context.commitTurn versions f s entry)
  | entry :: rest, n + 1 =>
      commitUntil versions within (context.step f entry)
        (context.commitTurn versions f s entry .done) rest n

variable (voter : Voter) (tracks : List CanonicalVideoTrack)

/-- What an interrupted attempt leaves. -/
def interrupted (s : Stores) (interruption : Interruption) : Stores :=
  context.commitUntil voter.versions interruption.within {} s (voter.entries s tracks)
    interruption.finished

/-- What a series of interrupted attempts leaves. -/
def leftover (s : Stores) (interruptions : List Interruption) : Stores :=
  interruptions.foldl (context.interrupted voter tracks) s

/-- What a successful attempt persists of each track. -/
def recognitions (s : Stores) : List Recognition :=
  (context.finalize (voter.entries s tracks)).persisted.map (·.recognition)

/-- The attempt after the interrupted ones recognises what a first one would have. -/
def RetryAgrees (s : Stores) (interruptions : List Interruption) : Prop :=
  context.recognitions voter tracks (context.leftover voter tracks s interruptions) =
    context.recognitions voter tracks s

instance (s : Stores) (interruptions : List Interruption) :
    Decidable (context.RetryAgrees voter tracks s interruptions) :=
  inferInstanceAs (Decidable (_ = _))

/-- An id that the loop computes for one of the tracks. -/
def Computes (kind id : String) : Prop :=
  ∃ ordinal track, tracks[ordinal]? = some track ∧ id = context.deterministicId track ordinal kind

/-- The gallery has nothing of the job: no attempt has been made. -/
structure Unattempted (s : Stores) : Prop where
  identities : ∀ faceId, context.Computes tracks "face" faceId → s.identities.get faceId = none
  faces : ∀ point ∈ s.vectors.rows, ¬ context.Computes tracks "face" point.faceId

/-- The vote on a track whose own sample can be found elects the identity of that sample. -/
def FindsOwn (s : Stores) : Prop :=
  ∀ ordinal track, tracks[ordinal]? = some track →
    (∃ point ∈ s.searchable voter.versions,
      point.sampleId = context.deterministicId track ordinal "sample") →
    ∃ found, (voter.vote s track).faceMatch = some found ∧
      found.identity.faceId = context.deterministicId track ordinal "face"

/-! ## What an interrupted attempt leaves -/

variable {context voter tracks}

/-- A track that is left without a match in its turn. -/
def Unmatched (context : FinalizationContext)
    (entries : List (CanonicalVideoTrack × VideoIdentityDecision)) (ordinal : Nat)
    (track : CanonicalVideoTrack) : Prop :=
  ∃ pre decision post, entries = pre ++ (track, decision) :: post ∧ pre.length = ordinal ∧
    usableMatch (context.loop.run {} pre).assigned track decision = none

theorem length_run (f : Finalizing) (entries : List (CanonicalVideoTrack × VideoIdentityDecision)) :
    (context.loop.run f entries).persisted.length = f.persisted.length + entries.length := by
  induction entries generalizing f with
  | nil => rfl
  | cons entry rest ih =>
      rw [Machine.run_cons, ih]
      show (f.persisted ++ [_]).length + _ = _
      rw [List.length_append, List.length_singleton, List.length_cons, Nat.add_assoc,
        Nat.add_comm 1]

variable (context) in
/-- The tracks of a loop that goes on are those it had, the one in turn and more. -/
theorem persisted_run_append (pre : List (CanonicalVideoTrack × VideoIdentityDecision))
    (entry : CanonicalVideoTrack × VideoIdentityDecision)
    (post : List (CanonicalVideoTrack × VideoIdentityDecision)) :
    ∃ more, (context.finalize (pre ++ entry :: post)).persisted =
      (context.loop.run {} pre).persisted ++
        context.videoTrack entry.1 pre.length
          (context.outcome (context.loop.run {} pre).assigned entry.1 pre.length entry.2) ::
            more := by
  have hgrow : ∀ (f : Finalizing) rest, ∃ more,
      (context.loop.run f rest).persisted = f.persisted ++ more := by
    intro f rest
    induction rest generalizing f with
    | nil => exact ⟨[], (List.append_nil _).symm⟩
    | cons next rest ih =>
        obtain ⟨more, hmore⟩ := ih (context.step f next)
        exact ⟨_, hmore.trans (List.append_assoc _ _ _)⟩
  have hlength : (context.loop.run {} pre).persisted.length = pre.length := by
    rw [length_run]
    exact Nat.zero_add _
  obtain ⟨more, hmore⟩ := hgrow (context.step (context.loop.run {} pre) entry) post
  refine ⟨more, ?_⟩
  rw [finalize, Machine.run_append, Machine.run_cons]
  refine hmore.trans ?_
  unfold step
  rw [hlength, List.append_assoc]
  rfl

/-- The rule for an attempt: what each `persist` call of it keeps is kept. -/
theorem interrupted_induction {versions : ModelVersions} {within : Option PersistEnd}
    {J : Stores → Prop} {entries : List (CanonicalVideoTrack × VideoIdentityDecision)}
    (hstep : ∀ ordinal track s ending, context.Unmatched entries ordinal track → J s →
      J (s.persist (context.newIdentity track ordinal) (context.newPoint versions track ordinal)
        ending))
    {s : Stores} (hs : J s) (n : Nat) : J (context.commitUntil versions within {} s entries n) := by
  have hturn : ∀ pre entry post t ending, entries = pre ++ entry :: post → J t →
      J (context.commitTurn versions (context.loop.run {} pre) t entry ending) := by
    intro pre entry post t ending hsplit ht
    unfold commitTurn
    split
    · exact ht
    · rename_i hnone
      have hlength : (context.loop.run {} pre).persisted.length = pre.length := by
        rw [length_run]
        exact Nat.zero_add _
      rw [hlength]
      exact hstep pre.length entry.1 t ending ⟨pre, entry.2, post, hsplit, rfl, hnone⟩ ht
  -- over the tracks that are left; `pre` are those that have had their turn
  have hrest : ∀ rest pre t n, entries = pre ++ rest → J t →
      J (context.commitUntil versions within (context.loop.run {} pre) t rest n) := by
    intro rest
    induction rest with
    | nil => exact fun pre t n _ ht => ht
    | cons entry rest ih =>
        intro pre t n hsplit ht
        cases n with
        | zero =>
            show J (within.elim t _)
            cases within with
            | none => exact ht
            | some ending => exact hturn pre entry rest t ending hsplit ht
        | succ n =>
            have hnext : context.step (context.loop.run {} pre) entry =
                context.loop.run {} (pre ++ [entry]) := by
              rw [Machine.run_append]
              rfl
            show J (context.commitUntil versions within (context.step _ entry) _ rest n)
            rw [hnext]
            apply ih
            · rw [hsplit, List.append_assoc, List.singleton_append]
            · exact hturn pre entry rest t .done hsplit ht
  exact hrest entries [] s n rfl hs

theorem getElem?_of_unmatched {s : Stores} {ordinal : Nat} {track : CanonicalVideoTrack}
    (h : context.Unmatched (voter.entries s tracks) ordinal track) :
    tracks[ordinal]? = some track := by
  obtain ⟨pre, decision, post, hsplit, rfl, -⟩ := h
  have hentry : (voter.entries s tracks)[pre.length]? = some (track, decision) := by
    rw [hsplit, List.getElem?_append_right (Nat.le_refl _), Nat.sub_self]
    rfl
  rw [Voter.entries, List.getElem?_map] at hentry
  obtain ⟨other, hother, heq⟩ := Option.map_eq_some_iff.mp hentry
  cases heq
  exact hother

/-- The identities that are not of the job are those there were. -/
def Keeps (context : FinalizationContext) (tracks : List CanonicalVideoTrack) (s s' : Stores) :
    Prop :=
  ∀ faceId, ¬ context.Computes tracks "face" faceId →
    s'.identities.get faceId = s.identities.get faceId

/-- While no vector has been put, the votes are those of the first attempt. -/
theorem entries_eq {s s' : Stores} (hsound : voter.search.Sound)
    (hfresh : context.Unattempted tracks s) (hkeeps : context.Keeps tracks s s')
    (hvectors : s'.vectors = s.vectors) : voter.entries s' tracks = voter.entries s tracks := by
  apply List.map_congr_left
  intro track _
  have hactive : ∀ point ∈ s.vectors.rows,
      s'.getActiveById point.faceId = s.getActiveById point.faceId := by
    intro point hpoint
    unfold Stores.getActiveById
    rw [hkeeps point.faceId (hfresh.faces point hpoint)]
  have hcandidates := Stores.candidatesBatch_congr hsound hvectors hactive voter.versions
    (track.sourceTemplates.map (·.embedding)) 0
  unfold Voter.vote
  rw [hcandidates]

/-- The sample of a track that has no match in a first attempt can be found. -/
def Indexed (context : FinalizationContext) (voter : Voter) (tracks : List CanonicalVideoTrack)
    (s s' : Stores) : Prop :=
  ∃ ordinal track, context.Unmatched (voter.entries s tracks) ordinal track ∧
    ∃ point ∈ s'.searchable voter.versions,
      point.sampleId = context.deterministicId track ordinal "sample"

/-- What interrupted attempts leave. -/
structure Left (context : FinalizationContext) (voter : Voter) (tracks : List CanonicalVideoTrack)
    (s s' : Stores) : Prop where
  keeps : context.Keeps tracks s s'
  vectors : s'.vectors = s.vectors ∨ context.Indexed voter tracks s s'

variable (context voter) in
theorem newPoint_findable (track : CanonicalVideoTrack) (ordinal : Nat) :
    (context.newPoint voter.versions track ordinal).active ∧
      (context.newPoint voter.versions track ordinal).embeddingModelVersion =
        voter.versions.modelVersion ∧
      (context.newPoint voter.versions track ordinal).preprocessVersion =
        voter.versions.preprocessVersion :=
  ⟨rfl, rfl, rfl⟩

theorem keeps_persist {s s' : Stores} (h : context.Keeps tracks s s') {ordinal : Nat}
    {track : CanonicalVideoTrack} (htrack : tracks[ordinal]? = some track) (point : VectorPoint)
    (ending : PersistEnd) :
    context.Keeps tracks s (s'.persist (context.newIdentity track ordinal) point ending) := by
  intro faceId hforeign
  rw [Stores.persist_identities]
  · exact h faceId hforeign
  · rintro rfl
    exact hforeign ⟨ordinal, track, htrack, rfl⟩

theorem indexed_persist {s s' : Stores} (h : context.Indexed voter tracks s s') (ordinal : Nat)
    (track : CanonicalVideoTrack) (ending : PersistEnd) :
    context.Indexed voter tracks s
      (s'.persist (context.newIdentity track ordinal)
        (context.newPoint voter.versions track ordinal) ending) := by
  obtain ⟨first, own, hunmatched, hfound⟩ := h
  exact ⟨first, own, hunmatched, Stores.searchable_persist ending
    (newPoint_findable context voter track ordinal) hfound⟩

/-- One more interrupted attempt. -/
theorem left_interrupted {s s' : Stores} (hsound : voter.search.Sound)
    (hfresh : context.Unattempted tracks s) (h : context.Left voter tracks s s')
    (interruption : Interruption) :
    context.Left voter tracks s (context.interrupted voter tracks s' interruption) := by
  rcases h.vectors with hsame | hindexed
  · -- the attempt votes as the first one does, and the first vector it puts is of such a track
    unfold interrupted
    rw [entries_eq hsound hfresh h.keeps hsame]
    apply interrupted_induction (J := context.Left voter tracks s)
    · intro ordinal track t ending hunmatched ht
      refine ⟨keeps_persist ht.keeps (getElem?_of_unmatched hunmatched) _ ending, ?_⟩
      rcases ht.vectors with hnone | hsome
      · rcases Stores.persist_vectors t (context.newIdentity track ordinal)
            (context.newPoint voter.versions track ordinal) ending with hold | hput
        · exact .inl (hold.trans hnone)
        · refine .inr ⟨ordinal, track, hunmatched, context.newPoint voter.versions track ordinal,
            ?_, rfl⟩
          rw [Stores.searchable, hput]
          refine List.mem_filter.mpr ⟨?_, ?_⟩
          · exact (Table.get_eq_some_iff.mp (Table.get_put_self _ _)).1
          · simpa using newPoint_findable context voter track ordinal
      · exact .inr (indexed_persist hsome ordinal track ending)
    · exact h
  · -- whatever it votes, its vectors replace none of another track
    have hboth : context.Keeps tracks s (context.interrupted voter tracks s' interruption) ∧
        context.Indexed voter tracks s (context.interrupted voter tracks s' interruption) := by
      apply interrupted_induction
        (J := fun t => context.Keeps tracks s t ∧ context.Indexed voter tracks s t)
      · rintro ordinal track t ending hunmatched ⟨hkeeps, hsome⟩
        exact ⟨keeps_persist hkeeps (getElem?_of_unmatched hunmatched) _ ending,
          indexed_persist hsome ordinal track ending⟩
      · exact ⟨h.keeps, hindexed⟩
    exact ⟨hboth.1, .inr hboth.2⟩

theorem left_leftover {s : Stores} (hsound : voter.search.Sound)
    (hfresh : context.Unattempted tracks s) (interruptions : List Interruption) :
    context.Left voter tracks s (context.leftover voter tracks s interruptions) := by
  have hall : ∀ s', context.Left voter tracks s s' →
      context.Left voter tracks s (context.leftover voter tracks s' interruptions) := by
    induction interruptions with
    | nil => exact fun s' h => h
    | cons interruption rest ih =>
        exact fun s' h => ih _ (left_interrupted hsound hfresh h interruption)
  exact hall s ⟨fun _ _ => rfl, .inl rfl⟩

/-! ## The attempt after them -/

theorem outcome_status {assigned : Assigned} {track : CanonicalVideoTrack} {ordinal : Nat}
    {decision : VideoIdentityDecision} :
    (context.outcome assigned track ordinal decision).status = .newAnonymous ↔
      usableMatch assigned track decision = none := by
  unfold outcome
  cases usableMatch assigned track decision with
  | none => exact ⟨fun _ => rfl, fun _ => rfl⟩
  | some found =>
      constructor
      · intro h
        have h : (if found.identity.lifecycleStatus = .known then SnapshotStatus.known
          else .anonymous) = .newAnonymous := h
        split at h <;> cases h
      · rintro ⟨⟩

/-- In a first attempt no track gets an identity that a later one computes. -/
theorem face_ne_of_unattempted (hinj : Function.Injective (context.uuid5 context.jobId))
    {s : Stores} (hfresh : context.Unattempted tracks s) {track : CanonicalVideoTrack}
    {pre post : List (CanonicalVideoTrack × VideoIdentityDecision)}
    {decision : VideoIdentityDecision}
    (hsplit : voter.entries s tracks = pre ++ (track, decision) :: post) :
    ∀ other ∈ (context.loop.run {} pre).persisted,
      other.faceId ≠ context.deterministicId track pre.length "face" := by
  have hcomputes : context.Computes tracks "face"
      (context.deterministicId track pre.length "face") := by
    refine ⟨pre.length, track, ?_, rfl⟩
    have hentry := congrArg (fun entries => (entries[pre.length]?).map Prod.fst) hsplit
    simpa [Voter.entries] using hentry
  have hvotes : ∀ entry ∈ pre, ∀ found, entry.2.faceMatch = some found →
      found.identity.faceId ≠ context.deterministicId track pre.length "face" := by
    intro entry hentry found hfound heq
    have hmem : entry ∈ voter.entries s tracks := by
      rw [hsplit]
      exact List.mem_append_left _ hentry
    obtain ⟨voted, -, rfl⟩ := List.mem_map.mp hmem
    obtain ⟨group, hgroup, candidate, hcandidate, hidentity⟩ :=
      VotingSettings.resolve_from _ _ hfound
    have hrow := Stores.mem_candidatesBatch hgroup hcandidate
    rw [hidentity, heq, hfresh.identities _ hcomputes] at hrow
    cases hrow
  -- over the tracks before it; the bound is what makes their computed ids different
  have hrun : ∀ (entries : List (CanonicalVideoTrack × VideoIdentityDecision)) (f : Finalizing),
      (∀ entry ∈ entries, entry ∈ pre) →
      f.persisted.length + entries.length ≤ pre.length →
      (∀ other ∈ f.persisted,
        other.faceId ≠ context.deterministicId track pre.length "face") →
      ∀ other ∈ (context.loop.run f entries).persisted,
        other.faceId ≠ context.deterministicId track pre.length "face" := by
    intro entries
    induction entries with
    | nil => exact fun f _ _ h => h
    | cons entry rest ih =>
        intro f hsub hlength h
        rw [List.length_cons] at hlength
        apply ih
        · exact fun other hother => hsub other (List.mem_cons_of_mem _ hother)
        · show (f.persisted ++ [_]).length + _ ≤ _
          rw [List.length_append, List.length_singleton]
          omega
        · intro other hother
          rcases List.mem_append.mp hother with hold | hlast
          · exact h other hold
          · rw [List.mem_singleton.mp hlast]
            show (context.outcome f.assigned entry.1 f.persisted.length entry.2).faceId ≠ _
            unfold outcome
            cases husable : usableMatch f.assigned entry.1 entry.2 with
            | none =>
                intro heq
                have hordinal := ordinal_of_deterministicName (hinj heq)
                omega
            | some found =>
                obtain ⟨hfound, -⟩ := Option.filter_eq_some_iff.mp husable
                exact hvotes entry (hsub entry List.mem_cons_self) found hfound
  exact hrun pre {} (fun _ h => h) (Nat.zero_add _).le (by rintro other ⟨⟩)

/-- A match is blocked by a track that has its identity. -/
theorem exists_of_blocked {pre : List (CanonicalVideoTrack × VideoIdentityDecision)}
    {track : CanonicalVideoTrack} {found : FaceMatch}
    (h : blocked found track (context.loop.run {} pre).assigned = true) :
    ∃ other ∈ (context.loop.run {} pre).persisted, other.faceId = found.identity.faceId := by
  have hrecorded : Recorded (context.loop.run {} pre) :=
    Machine.run_of_forall (fun _ _ _ ht => recorded_step ht) fun _ => rfl
  unfold blocked overlapsAssigned at h
  rw [hrecorded] at h
  obtain ⟨interval, hinterval, -⟩ := List.any_eq_true.mp h
  obtain ⟨other, hother, -⟩ := List.mem_map.mp hinterval
  obtain ⟨hmem, hface⟩ := List.mem_filter.mp hother
  exact ⟨other, hmem, by simpa using hface⟩

variable (voter) in
/-- The entries of any attempt, cut at a track. -/
theorem entries_split (s : Stores) {ordinal : Nat} {track : CanonicalVideoTrack}
    (h : tracks[ordinal]? = some track) :
    ∃ pre post, voter.entries s tracks = pre ++ (track, voter.vote s track) :: post ∧
      pre.length = ordinal := by
  obtain ⟨hlt, rfl⟩ := List.getElem?_eq_some_iff.mp h
  refine ⟨voter.entries s (tracks.take ordinal), voter.entries s (tracks.drop (ordinal + 1)),
    ?_, ?_⟩
  · conv_lhs => rw [← List.take_append_drop ordinal tracks, List.drop_eq_getElem_cons hlt]
    unfold Voter.entries
    rw [List.map_append, List.map_cons]
  · rw [Voter.entries, List.length_map, List.length_take_of_le hlt.le]

/-- Two attempts that recognise the same have recognised the same before each track, and of it. -/
theorem recognitions_cut {s s' : Stores}
    (h : context.recognitions voter tracks s' = context.recognitions voter tracks s)
    {pre pre' post post' : List (CanonicalVideoTrack × VideoIdentityDecision)}
    {track track' : CanonicalVideoTrack} {decision decision' : VideoIdentityDecision}
    (hsplit : voter.entries s tracks = pre ++ (track, decision) :: post)
    (hsplit' : voter.entries s' tracks = pre' ++ (track', decision') :: post')
    (hlength : pre'.length = pre.length) :
    (context.loop.run {} pre').persisted.map (·.recognition) =
        (context.loop.run {} pre).persisted.map (·.recognition) ∧
      (context.outcome (context.loop.run {} pre').assigned track' pre'.length decision').status =
        (context.outcome (context.loop.run {} pre).assigned track pre.length decision).status := by
  obtain ⟨more, hmore⟩ := persisted_run_append context pre (track, decision) post
  obtain ⟨more', hmore'⟩ :=
    persisted_run_append context pre' (track', decision') post'
  unfold recognitions at h
  rw [hsplit, hsplit', hmore, hmore', List.map_append, List.map_append] at h
  have hcut := List.append_inj h (by
    rw [List.length_map, List.length_map, length_run, length_run, hlength])
  refine ⟨hcut.1, ?_⟩
  have hhead := List.head_eq_of_cons_eq hcut.2
  exact congrArg Recognition.statusSnapshot hhead

/-- A track whose sample has been indexed by an interrupted attempt is matched to it, so what the
retry recognises is not what a first attempt would have. -/
theorem not_retryAgrees {s : Stores} {interruptions : List Interruption}
    (hinj : Function.Injective (context.uuid5 context.jobId))
    (hfresh : context.Unattempted tracks s)
    (hown : context.FindsOwn voter tracks (context.leftover voter tracks s interruptions))
    (hindexed : context.Indexed voter tracks s (context.leftover voter tracks s interruptions)) :
    ¬ context.RetryAgrees voter tracks s interruptions := by
  intro hagrees
  obtain ⟨ordinal, track, hunmatched, hfound⟩ := hindexed
  have htrack := getElem?_of_unmatched hunmatched
  obtain ⟨found, hvote, hface⟩ := hown ordinal track htrack hfound
  obtain ⟨pre, decision, post, hsplit, rfl, hnone⟩ := hunmatched
  unfold RetryAgrees at hagrees
  generalize context.leftover voter tracks s interruptions = s' at hvote hagrees
  obtain ⟨before, after, hretry, hlength⟩ := entries_split voter s' htrack
  obtain ⟨hbefore, hstatus⟩ := recognitions_cut hagrees hsplit hretry hlength
  rw [outcome_status.mpr hnone, outcome_status] at hstatus
  -- the match is blocked, so an earlier track has the identity that this one computes
  unfold usableMatch at hstatus
  rw [hvote, Option.filter_eq_none_iff] at hstatus
  have hblocked := hstatus found rfl
  rw [Bool.not_eq_true', Bool.not_eq_false] at hblocked
  obtain ⟨other, hother, hsame⟩ := exists_of_blocked hblocked
  have hmem := List.mem_map_of_mem (f := VideoTrack.recognition) hother
  rw [hbefore] at hmem
  obtain ⟨first, hfirst, heq⟩ := List.mem_map.mp hmem
  apply face_ne_of_unattempted hinj hfresh hsplit first hfirst
  exact (congrArg Recognition.faceId heq).trans (hsame.trans hface)

/-- A retry recognises what an uninterrupted attempt would have exactly if no interrupted attempt
has put a vector. -/
theorem retryAgrees_iff {s : Stores} {interruptions : List Interruption}
    (hinj : Function.Injective (context.uuid5 context.jobId)) (hsound : voter.search.Sound)
    (hfresh : context.Unattempted tracks s)
    (hown : context.FindsOwn voter tracks (context.leftover voter tracks s interruptions)) :
    context.RetryAgrees voter tracks s interruptions ↔
      (context.leftover voter tracks s interruptions).vectors = s.vectors := by
  have hleft := left_leftover hsound hfresh interruptions
  constructor
  · intro hagrees
    rcases hleft.vectors with hsame | hindexed
    · exact hsame
    · exact absurd hagrees (not_retryAgrees hinj hfresh hown hindexed)
  · intro hsame
    unfold RetryAgrees recognitions
    rw [entries_eq hsound hfresh hleft.keeps hsame]

end FinalizationContext

/-! ### A video of one person whom nobody knows -/

/-- A collection with cosine similarity, for vectors that are equal or orthogonal. -/
def exactSearch : Search := fun points topK queries =>
  queries.map fun query =>
    ((points.map fun point =>
      (⟨point.sampleId, point.faceId, if point.vector = query then 1 else 0⟩ : Candidate)).insertionSort
        fun a b => b.score ≤ a.score).take topK

theorem exactSearch_sound : exactSearch.Sound := by
  intro points topK queries group hgroup candidate hcandidate
  obtain ⟨query, -, rfl⟩ := List.mem_map.mp hgroup
  have hsorted := List.mem_of_mem_take hcandidate
  rw [List.mem_insertionSort] at hsorted
  obtain ⟨point, hpoint, rfl⟩ := List.mem_map.mp hsorted
  exact ⟨point, hpoint, rfl, rfl⟩

/-- The default settings; `log1p` at one detection. -/
def defaultVoter : Voter where
  settings :=
    { recognitionThreshold := 55 / 100
      anonymousThreshold := 40 / 100
      videoTrackVoteCandidateFloor := 70 / 100
      videoTrackVoteMinCount := 2
      videoTrackVoteMinMargin := 5 / 100
      videoTrackVoteMinSupportRatio := 60 / 100
      eligibleLifecycleStatuses := [.known, .anonymous] }
  log1p := fun _ => 6931471805599453 / 10000000000000000
  search := exactSearch
  versions := ⟨"arcface", "v1"⟩

def stranger : CanonicalVideoTrack :=
  { trackOf 7 0 10 with embedding := [1, 0], sourceTemplates := [⟨[1, 0], 1⟩] }

/-- The sample is persisted, and the lease is lost before the job is completed. -/
def leaseLost : Interruption where
  finished := 1

/-- The upload of the sample raises. -/
def uploadFailed : Interruption where
  finished := 0
  within := some (.failed .ensured "STORAGE_ERROR")

/-- The vote on the stranger elects what the attempt has left. -/
theorem stranger_findsOwn :
    retryContext.FindsOwn defaultVoter [stranger]
      (retryContext.leftover defaultVoter [stranger] {} [uploadFailed, leaseLost]) := by
  intro ordinal track htrack _
  obtain ⟨hordinal, rfl⟩ := List.getElem?_eq_some_iff.mp htrack
  have hzero : ordinal = 0 := Nat.lt_one_iff.mp hordinal
  subst hzero
  have hvote : ((defaultVoter.vote (retryContext.leftover defaultVoter [stranger] {}
      [uploadFailed, leaseLost]) stranger).faceMatch.map fun found => found.identity.faceId) =
        some (retryContext.deterministicId stranger 0 "face") := by
    decide +kernel
  exact Option.map_eq_some_iff.mp hvote

/-- A lost lease leaves a vector, a failed upload leaves none. -/
theorem stranger_retried :
    (retryContext.RetryAgrees defaultVoter [stranger] {} [uploadFailed, leaseLost] ↔
      (retryContext.leftover defaultVoter [stranger] {} [uploadFailed, leaseLost]).vectors =
        ({} : Stores).vectors) ∧
      retryContext.RetryAgrees defaultVoter [stranger] {} [uploadFailed, uploadFailed] := by
  have hfresh : retryContext.Unattempted [stranger] ({} : Stores) :=
    ⟨fun _ _ => rfl, by rintro point ⟨⟩⟩
  have hnone : (retryContext.leftover defaultVoter [stranger] {}
      [uploadFailed, uploadFailed]).vectors.rows = [] := by
    decide
  have hown : retryContext.FindsOwn defaultVoter [stranger]
      (retryContext.leftover defaultVoter [stranger] {} [uploadFailed, uploadFailed]) := by
    rintro ordinal track - ⟨point, hpoint, -⟩
    have hrow := List.mem_of_mem_filter hpoint
    rw [hnone] at hrow
    cases hrow
  constructor
  · exact FinalizationContext.retryAgrees_iff retryContext_injective exactSearch_sound hfresh
      stranger_findsOwn
  · exact (FinalizationContext.retryAgrees_iff retryContext_injective exactSearch_sound hfresh
      hown).mpr (Table.ext hnone)

/-- A first attempt would have called the stranger new. -/
theorem stranger_not_new_again :
    ¬ retryContext.RetryAgrees defaultVoter [stranger] {} [leaseLost] := by
  decide +kernel

end Mvision.Video
