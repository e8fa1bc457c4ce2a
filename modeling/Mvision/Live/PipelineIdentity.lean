import Mvision.Library.Machine
import Mvision.Live.OsdState

/-!
# The two copies of a track's identity

`live_pipeline.cpp` keeps the identity of a track in its `TrackRuntime` and again
in the `LiveOsdState`, and applies each assignment to both.  What an assignment
can do to one copy is said once, by `apply_cases`; the discipline of a whole run
is derived from it.
-/

namespace Mvision.Live

open Mvision.Library

/-! ## What an assignment can do -/

namespace IdentityAssignmentState

/-- A rejected assignment changes nothing: the epoch is only raised by an 'unknown', which is
then accepted. -/
theorem apply_cases (s : IdentityAssignmentState) (a : IdentityAssignment) :
    s.apply a = (false, s) ∨
      (s.apply a = (true, ⟨.unknown, none, a.assignmentRevision, a.identityEpoch⟩) ∧
        s.revision < a.assignmentRevision ∧ a.identityState = .unknown ∧
        (s.identityEpoch < a.identityEpoch ∨
          s.identityEpoch = a.identityEpoch ∧ s.state ≠ .known)) ∨
      (s.apply a = (true, ⟨.known, a.faceId, a.assignmentRevision, s.identityEpoch⟩) ∧
        s.revision < a.assignmentRevision ∧ a.identityState = .known ∧ a.faceId ≠ none ∧
        a.identityEpoch = s.identityEpoch ∧ (s.state = .known → a.faceId = s.faceId)) := by
  unfold apply
  split
  · exact .inl rfl
  rename_i hrevision
  split
  · exact .inl rfl
  rename_i hepoch
  split
  · exact .inl rfl
  rename_i hstate
  split
  · exact .inl rfl
  rename_i hahead
  have hrevision := not_le.mp hrevision
  rcases (not_lt.mp hepoch).lt_or_eq with hlt | heq
  · -- a new epoch: only an 'unknown' announces it
    have hunknown : a.identityState = .unknown := by
      by_contra h
      exact hahead ⟨hlt, h⟩
    refine .inr (.inl ⟨?_, hrevision, hunknown, .inl hlt⟩)
    simp [hunknown, hlt]
  · have hsame : ¬ a.identityEpoch > s.identityEpoch := by
      rw [heq]
      exact Nat.lt_irrefl _
    rw [if_neg hsame]
    dsimp only
    split
    · exact .inl rfl
    · rename_i hkeep
      split
      · rename_i hknown
        split
        · exact .inl rfl
        · rename_i hface
          refine .inr (.inr ⟨rfl, hrevision, hknown, hface, heq.symm, ?_⟩)
          intro hs
          by_contra hother
          exact hkeep ⟨hs, .inr hother⟩
      · rename_i hnot
        have hunknown : a.identityState = .unknown := by
          by_contra h
          exact hstate ⟨hnot, h⟩
        refine .inr (.inl ⟨?_, hrevision, hunknown, .inr ⟨heq, ?_⟩⟩)
        · rw [heq]
        · intro hs
          exact hkeep ⟨hs, .inl hnot⟩

theorem apply_rejected {s : IdentityAssignmentState} {a : IdentityAssignment}
    (h : (s.apply a).1 = false) : (s.apply a).2 = s := by
  rcases s.apply_cases a with heq | ⟨heq, -⟩ | ⟨heq, -⟩
  · rw [heq]
  · rw [heq] at h
    cases h
  · rw [heq] at h
    cases h

/-- What may become of an identity: it never goes back, and a face is for its epoch. -/
structure Evolves (s s' : IdentityAssignmentState) : Prop where
  revision : s.revision ≤ s'.revision
  epoch : s.identityEpoch ≤ s'.identityEpoch
  known : s.state = .known → s'.identityEpoch = s.identityEpoch →
    s'.state = .known ∧ s'.faceId = s.faceId

theorem Evolves.refl (s : IdentityAssignmentState) : Evolves s s :=
  ⟨Nat.le_refl _, Nat.le_refl _, fun h _ => ⟨h, rfl⟩⟩

theorem Evolves.trans {s t u : IdentityAssignmentState} (h : Evolves s t) (h' : Evolves t u) :
    Evolves s u where
  revision := h.revision.trans h'.revision
  epoch := h.epoch.trans h'.epoch
  known := by
    intro hs hepoch
    -- the epoch between is the same, since it lies between
    have hmid : t.identityEpoch = s.identityEpoch :=
      Nat.le_antisymm (hepoch ▸ h'.epoch) h.epoch
    obtain ⟨ht, hface⟩ := h.known hs hmid
    obtain ⟨hu, hface'⟩ := h'.known ht (hepoch.trans hmid.symm)
    exact ⟨hu, hface'.trans hface⟩

theorem evolves_apply (s : IdentityAssignmentState) (a : IdentityAssignment) :
    Evolves s (s.apply a).2 := by
  rcases s.apply_cases a with heq | ⟨heq, hrevision, -, hepoch⟩ |
      ⟨heq, hrevision, -, -, -, hface⟩
  · rw [heq]
    exact Evolves.refl s
  · rw [heq]
    refine ⟨hrevision.le, ?_, ?_⟩
    · rcases hepoch with hlt | ⟨hsame, -⟩
      · exact hlt.le
      · exact hsame.le
    · intro hs hsame
      rcases hepoch with hlt | ⟨-, hnot⟩
      · exact absurd hsame hlt.ne'
      · exact absurd hs hnot
  · rw [heq]
    exact ⟨hrevision.le, Nat.le_refl _, fun hs _ => ⟨rfl, hface hs⟩⟩

/-- Only an accepted 'unknown' raises the epoch, to its own. -/
theorem apply_raises {s : IdentityAssignmentState} {a : IdentityAssignment}
    (h : s.identityEpoch < (s.apply a).2.identityEpoch) :
    (s.apply a).1 = true ∧ a.identityState = .unknown ∧ s.identityEpoch < a.identityEpoch := by
  rcases s.apply_cases a with heq | ⟨heq, -, hunknown, -⟩ | ⟨heq, -⟩
  · rw [heq] at h
    exact absurd h (Nat.lt_irrefl _)
  · rw [heq] at h ⊢
    exact ⟨rfl, hunknown, h⟩
  · rw [heq] at h
    exact absurd h (Nat.lt_irrefl _)

end IdentityAssignmentState

/-! ## The pipeline -/

/-- `TrackRuntime`, of which an assignment reads and writes the identity. -/
structure TrackRuntime where
  identity : IdentityAssignmentState := .fresh
deriving DecidableEq, Repr

/-- What `LivePipeline::Impl` knows of identities: `tracks` by tracker id, and `osd_state`. -/
structure PipelineIdentity where
  tracks : Nat → Option TrackRuntime := fun _ => none
  osdState : Option LiveOsdState := none

namespace PipelineIdentity

/-- `start` makes the display state of the generation, and no track. -/
def started (generation : Nat) : PipelineIdentity where
  osdState := some { generation }

/-- The identity of a track; `try_emplace` makes the track it does not find. -/
def identity (p : PipelineIdentity) (trackerId : Nat) : IdentityAssignmentState :=
  ((p.tracks trackerId).getD {}).identity

/-- `apply_assignment_on_main_context` -/
def applyAssignment (p : PipelineIdentity) (assignment : IdentityAssignment) :
    Bool × PipelineIdentity :=
  let (applied, identity) := (p.identity assignment.trackerId).apply assignment
  let tracks := Function.update p.tracks assignment.trackerId (some { identity })
  match applied, p.osdState with
  | true, some osdState =>
      let (applied, osdState) := osdState.apply assignment
      (applied, { tracks, osdState := some osdState })
  | _, osdState => (applied, { tracks, osdState })

/-- What an observation of `emit_evidence` does to the identities. -/
def observe (p : PipelineIdentity) (trackerId : Nat) (score : List ℚ → ℚ) : PipelineIdentity where
  tracks := Function.update p.tracks trackerId (some ((p.tracks trackerId).getD {}))
  osdState := p.osdState.map fun osdState => (osdState.observe trackerId score).2

/-- The identity that the display has of a track. -/
def osdIdentity (p : PipelineIdentity) (trackerId : Nat) : IdentityAssignmentState :=
  (p.osdState.map fun osdState => osdState.identity trackerId).getD .fresh

end PipelineIdentity

/-- What reaches the identities of a running pipeline. -/
inductive IdentityCall where
  | assign (assignment : IdentityAssignment)
  | observe (trackerId : Nat) (score : List ℚ → ℚ)

/-- A pipeline and the assignments of its generation. -/
def pipelineIdentity (generation : Nat) : Machine PipelineIdentity IdentityCall where
  init p := p = .started generation
  enabled _
    | .assign assignment => assignment.header.generation = generation
    | .observe _ _ => True
  next p
    | .assign assignment => (p.applyAssignment assignment).2
    | .observe trackerId score => p.observe trackerId score

/-- The state after some calls. -/
def identitiesAfter (generation : Nat) (calls : List IdentityCall) : PipelineIdentity :=
  (pipelineIdentity generation).run (.started generation) calls

/-- The discipline of the native identities over a run. -/
structure Disciplined (generation : Nat) (calls : List IdentityCall) : Prop where
  /-- Revision and epoch of a track never decrease. -/
  monotone : ∀ pre post, calls = pre ++ post → ∀ trackerId,
    ((identitiesAfter generation pre).identity trackerId).revision ≤
        ((identitiesAfter generation calls).identity trackerId).revision ∧
      ((identitiesAfter generation pre).identity trackerId).identityEpoch ≤
        ((identitiesAfter generation calls).identity trackerId).identityEpoch
  /-- A call that returns false leaves the identities, in both copies. -/
  rejected : ∀ pre a post, calls = pre ++ .assign a :: post →
    ((identitiesAfter generation pre).applyAssignment a).1 = false → ∀ trackerId,
      ((identitiesAfter generation pre).applyAssignment a).2.identity trackerId =
          (identitiesAfter generation pre).identity trackerId ∧
        ((identitiesAfter generation pre).applyAssignment a).2.osdIdentity trackerId =
          (identitiesAfter generation pre).osdIdentity trackerId
  /-- Within its epoch a known face stays. -/
  stays : ∀ pre post, calls = pre ++ post → ∀ trackerId,
    ((identitiesAfter generation pre).identity trackerId).state = .known →
    ((identitiesAfter generation calls).identity trackerId).identityEpoch =
      ((identitiesAfter generation pre).identity trackerId).identityEpoch →
    ((identitiesAfter generation calls).identity trackerId).state = .known ∧
      ((identitiesAfter generation calls).identity trackerId).faceId =
        ((identitiesAfter generation pre).identity trackerId).faceId
  /-- Another face comes only after an accepted 'unknown' of a greater epoch. -/
  replaced : ∀ pre post, calls = pre ++ post → ∀ trackerId,
    ((identitiesAfter generation pre).identity trackerId).state = .known →
    ((identitiesAfter generation calls).identity trackerId).state = .known →
    ((identitiesAfter generation calls).identity trackerId).faceId ≠
      ((identitiesAfter generation pre).identity trackerId).faceId →
    ∃ mid a rest, post = mid ++ .assign a :: rest ∧ a.trackerId = trackerId ∧
      a.identityState = .unknown ∧
      ((identitiesAfter generation (pre ++ mid)).applyAssignment a).1 = true ∧
      ((identitiesAfter generation pre).identity trackerId).identityEpoch < a.identityEpoch
  /-- The two copies are equal. -/
  copies : ∀ trackerId,
    (identitiesAfter generation calls).osdIdentity trackerId =
      (identitiesAfter generation calls).identity trackerId

/-! ## One call -/

namespace PipelineIdentity

variable {generation : Nat} {p : PipelineIdentity} {a : IdentityAssignment}

/-- The display has the generation of the pipeline and the identities of its tracks. -/
def Mirrored (generation : Nat) (p : PipelineIdentity) : Prop :=
  ∃ osdState, p.osdState = some osdState ∧ osdState.generation = generation ∧
    ∀ trackerId, osdState.identity trackerId = p.identity trackerId

theorem Mirrored.osdIdentity_eq (h : p.Mirrored generation) (trackerId : Nat) :
    p.osdIdentity trackerId = p.identity trackerId := by
  obtain ⟨osdState, hosd, -, hsame⟩ := h
  unfold osdIdentity
  rw [hosd]
  exact hsame trackerId

theorem started_mirrored (generation : Nat) : (started generation).Mirrored generation :=
  ⟨{ generation }, rfl, rfl, fun _ => rfl⟩

theorem applyAssignment_identity (trackerId : Nat) :
    (p.applyAssignment a).2.identity trackerId =
      if trackerId = a.trackerId then ((p.identity a.trackerId).apply a).2
      else p.identity trackerId := by
  have htracks : (p.applyAssignment a).2.tracks =
      Function.update p.tracks a.trackerId
        (some ⟨((p.identity a.trackerId).apply a).2⟩) := by
    unfold applyAssignment
    dsimp only
    split <;> rfl
  unfold identity at htracks ⊢
  rw [htracks]
  by_cases h : trackerId = a.trackerId
  · subst h
    rw [Function.update_self, if_pos rfl]
    rfl
  · rw [Function.update_of_ne h, if_neg h]

/-- The display answers as the track did, so the answer is that of the track. -/
theorem Mirrored.applyAssignment (h : p.Mirrored generation)
    (ha : a.header.generation = generation) :
    (p.applyAssignment a).1 = ((p.identity a.trackerId).apply a).1 ∧
      (p.applyAssignment a).2.Mirrored generation := by
  obtain ⟨osdState, hosd, hgeneration, hsame⟩ := h
  have hown : a.header.generation = osdState.generation := ha.trans hgeneration.symm
  cases happlied : ((p.identity a.trackerId).apply a).1 with
  | false =>
      have hcall : p.applyAssignment a = (false,
          { tracks := Function.update p.tracks a.trackerId
              (some ⟨((p.identity a.trackerId).apply a).2⟩)
            osdState := p.osdState }) := by
        unfold PipelineIdentity.applyAssignment
        dsimp only
        rw [happlied]
      refine ⟨congrArg Prod.fst hcall, osdState, ?_, hgeneration, fun trackerId => ?_⟩
      · rw [hcall]
        exact hosd
      · rw [applyAssignment_identity, hsame]
        split
        · rename_i ht
          rw [ht, IdentityAssignmentState.apply_rejected happlied]
        · rfl
  | true =>
      have hcall : p.applyAssignment a = ((osdState.apply a).1,
          { tracks := Function.update p.tracks a.trackerId
              (some ⟨((p.identity a.trackerId).apply a).2⟩)
            osdState := some (osdState.apply a).2 }) := by
        unfold PipelineIdentity.applyAssignment
        dsimp only
        rw [happlied, hosd]
      refine ⟨?_, (osdState.apply a).2, ?_, ?_, fun trackerId => ?_⟩
      · rw [hcall, ← happlied, ← hsame]
        exact LiveOsdState.apply_fst hown
      · rw [hcall]
      · rw [LiveOsdState.apply_generation, hgeneration]
      · rw [applyAssignment_identity, LiveOsdState.apply_identity hown, hsame, hsame]

theorem observe_identity (t : Nat) (score : List ℚ → ℚ) (trackerId : Nat) :
    (p.observe t score).identity trackerId = p.identity trackerId := by
  unfold observe identity
  dsimp only
  by_cases h : trackerId = t
  · subst h
    rw [Function.update_self]
    rfl
  · rw [Function.update_of_ne h]

theorem Mirrored.observe (h : p.Mirrored generation) (t : Nat) (score : List ℚ → ℚ) :
    (p.observe t score).Mirrored generation := by
  obtain ⟨osdState, hosd, hgeneration, hsame⟩ := h
  refine ⟨(osdState.observe t score).2, ?_, ?_, fun trackerId => ?_⟩
  · unfold PipelineIdentity.observe
    rw [hosd]
    rfl
  · rw [LiveOsdState.observe_generation, hgeneration]
  · rw [LiveOsdState.observe_identity, hsame, observe_identity]

end PipelineIdentity

/-! ## Runs -/

section Runs

open PipelineIdentity IdentityAssignmentState

variable {generation : Nat} {p : PipelineIdentity} {calls : List IdentityCall}

theorem mirrored_preserved (generation : Nat) :
    (pipelineIdentity generation).Preserved (Mirrored generation) := by
  intro p call henabled h
  cases call with
  | assign a => exact (h.applyAssignment henabled).2
  | observe trackerId score => exact h.observe trackerId score

theorem evolves_next (p : PipelineIdentity) (call : IdentityCall) (trackerId : Nat) :
    Evolves (p.identity trackerId)
      (((pipelineIdentity generation).next p call).identity trackerId) := by
  cases call with
  | assign a =>
      show Evolves _ ((p.applyAssignment a).2.identity trackerId)
      rw [applyAssignment_identity]
      split
      · rename_i h
        rw [h]
        exact evolves_apply _ a
      · exact Evolves.refl _
  | observe t score =>
      show Evolves _ ((p.observe t score).identity trackerId)
      rw [observe_identity]
      exact Evolves.refl _

theorem evolves_run (p : PipelineIdentity) (calls : List IdentityCall) (trackerId : Nat) :
    Evolves (p.identity trackerId)
      (((pipelineIdentity generation).run p calls).identity trackerId) := by
  induction calls generalizing p with
  | nil => exact Evolves.refl _
  | cons call calls ih => exact (evolves_next p call trackerId).trans (ih _)

/-- An epoch that has risen was announced by an accepted 'unknown' above it. -/
theorem exists_announcement {trackerId : Nat} (h : p.Mirrored generation)
    (hvalid : (pipelineIdentity generation).Valid p calls)
    (hrise : (p.identity trackerId).identityEpoch <
      (((pipelineIdentity generation).run p calls).identity trackerId).identityEpoch) :
    ∃ mid a rest, calls = mid ++ .assign a :: rest ∧ a.trackerId = trackerId ∧
      a.identityState = .unknown ∧
      (((pipelineIdentity generation).run p mid).applyAssignment a).1 = true ∧
      (p.identity trackerId).identityEpoch < a.identityEpoch := by
  induction calls generalizing p with
  | nil => exact absurd hrise (Nat.lt_irrefl _)
  | cons call calls ih =>
      have hnext := mirrored_preserved generation p call hvalid.1 h
      by_cases hfirst : (p.identity trackerId).identityEpoch <
          (((pipelineIdentity generation).next p call).identity trackerId).identityEpoch
      · -- the first call raises the epoch itself
        cases call with
        | observe t score =>
            have hsame : ((pipelineIdentity generation).next p (.observe t score)).identity
                trackerId = p.identity trackerId := observe_identity t score trackerId
            rw [hsame] at hfirst
            exact absurd hfirst (Nat.lt_irrefl _)
        | assign a =>
            have hidentity : ((pipelineIdentity generation).next p (.assign a)).identity
                trackerId = _ := applyAssignment_identity trackerId
            rw [hidentity] at hfirst
            split at hfirst
            · rename_i ht
              subst ht
              obtain ⟨happlied, hunknown, habove⟩ := apply_raises hfirst
              refine ⟨[], a, calls, rfl, rfl, hunknown, ?_, habove⟩
              exact (h.applyAssignment hvalid.1).1.trans happlied
            · exact absurd hfirst (Nat.lt_irrefl _)
      · have hsame : (((pipelineIdentity generation).next p call).identity
            trackerId).identityEpoch = (p.identity trackerId).identityEpoch :=
          Nat.le_antisymm (not_lt.mp hfirst) (evolves_next p call trackerId).epoch
        rw [← hsame] at hrise
        obtain ⟨mid, a, rest, hsplit, ht, hunknown, happlied, habove⟩ := ih hnext hvalid.2 hrise
        refine ⟨call :: mid, a, rest, ?_, ht, hunknown, happlied, ?_⟩
        · rw [hsplit, List.cons_append]
        · rwa [hsame] at habove

theorem identitiesAfter_append (pre post : List IdentityCall) :
    identitiesAfter generation (pre ++ post) =
      (pipelineIdentity generation).run (identitiesAfter generation pre) post :=
  Machine.run_append _ pre post

theorem identitiesAfter_mirrored
    (hvalid : (pipelineIdentity generation).Valid (.started generation) calls) :
    (identitiesAfter generation calls).Mirrored generation :=
  (mirrored_preserved generation).run hvalid (started_mirrored generation)

/-- Whatever assignments of its generation reach a pipeline, in whatever order, between
whatever observations, its identities keep their discipline. -/
theorem identities_disciplined (generation : Nat) (calls : List IdentityCall)
    (hvalid : (pipelineIdentity generation).Valid (.started generation) calls) :
    Disciplined generation calls where
  monotone := by
    rintro pre post rfl trackerId
    rw [identitiesAfter_append]
    have hevolves := @evolves_run generation (identitiesAfter generation pre) post trackerId
    exact ⟨hevolves.revision, hevolves.epoch⟩
  rejected := by
    rintro pre a post rfl hfalse trackerId
    obtain ⟨hpre, hpost⟩ := Machine.valid_append.mp hvalid
    have hmirrored := identitiesAfter_mirrored hpre
    obtain ⟨hanswer, hmirrored'⟩ := hmirrored.applyAssignment hpost.1
    have hsame : ((identitiesAfter generation pre).applyAssignment a).2.identity trackerId =
        (identitiesAfter generation pre).identity trackerId := by
      rw [applyAssignment_identity]
      split
      · rename_i ht
        rw [ht, apply_rejected (hanswer.symm.trans hfalse)]
      · rfl
    refine ⟨hsame, ?_⟩
    rw [hmirrored'.osdIdentity_eq, hmirrored.osdIdentity_eq, hsame]
  stays := by
    rintro pre post rfl trackerId hknown hepoch
    rw [identitiesAfter_append] at hepoch ⊢
    exact (evolves_run _ post trackerId).known hknown hepoch
  replaced := by
    rintro pre post rfl trackerId hknown - hother
    obtain ⟨hpre, hpost⟩ := Machine.valid_append.mp hvalid
    rw [identitiesAfter_append] at hother
    have hevolves := @evolves_run generation (identitiesAfter generation pre) post trackerId
    have hrise : ((identitiesAfter generation pre).identity trackerId).identityEpoch <
        (((pipelineIdentity generation).run (identitiesAfter generation pre) post).identity
          trackerId).identityEpoch := by
      apply lt_of_le_of_ne hevolves.epoch
      intro hsame
      exact hother (hevolves.known hknown hsame.symm).2
    obtain ⟨mid, a, rest, hsplit, ht, hunknown, happlied, habove⟩ :=
      exists_announcement (identitiesAfter_mirrored hpre) hpost hrise
    refine ⟨mid, a, rest, hsplit, ht, hunknown, ?_, habove⟩
    rw [identitiesAfter_append]
    exact happlied
  copies := by
    intro trackerId
    exact (identitiesAfter_mirrored hvalid).osdIdentity_eq trackerId

end Runs

/-- An assignment of a session that reached its native worker. -/
def nativeAssignment (trackerId revision epoch : Nat) (identityState : AssignedState)
    (faceId : Option String) : IdentityAssignment where
  header := ⟨2, .identityAssignment, "019b0000-0000-7000-8000-000000000002",
    "019b0000-0000-7000-8000-000000000001", "019b0000-0000-7000-8000-000000000003", 1, 1,
    revision + 1, "00-4bf92f3577b34da6a3ce929d0e0e4736-00f067aa0ba902b7-01", none⟩
  trackerId := trackerId
  assignmentRevision := revision
  identityEpoch := epoch
  identityState := identityState
  displayName := none
  faceId := faceId
  matchScore := none
  recognitionThreshold := none
  referenceEmbedding := none
  decisionSequence := revision

/-- A face, the refusal of another one, a new epoch and its face. -/
theorem two_faces_disciplined :
    Disciplined 1 [.assign (nativeAssignment 42 1 1 .known (some "a")),
      .assign (nativeAssignment 42 2 1 .known (some "b")),
      .assign (nativeAssignment 42 4 2 .unknown none),
      .observe 42 (fun _ => 0),
      .assign (nativeAssignment 42 5 2 .known (some "b"))] :=
  identities_disciplined 1 _ ⟨rfl, rfl, rfl, trivial, rfl, trivial⟩

end Mvision.Live
