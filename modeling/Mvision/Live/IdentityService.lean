import Mathlib.Data.List.Sort
import Mathlib.Logic.Function.Basic
import Mvision.Live.Protocol

/-!
# Identity of a live track: `LiveIdentityService`

`resolve` is one call of `LiveIdentityService._resolve`.  What the voter and
the vector store answer is an argument; `none` stands for a query that failed,
and for a reference that `_reference` could not fetch or normalize.
-/

namespace Mvision.Live

/-- The columns of a face identity that a decision reports. -/
structure FaceIdentity where
  faceId : String
  name : String
  version : Nat
deriving DecidableEq, Repr

structure FaceMatch where
  identity : FaceIdentity
  sampleId : String
  score : ℚ
deriving DecidableEq, Repr

structure VideoIdentityDecision where
  faceMatch : Option FaceMatch
  score : Option ℚ
deriving DecidableEq, Repr

inductive DecisionState where
  | known
  | pending
  | unknown
deriving DecidableEq, Repr

inductive Transition where
  | none
  | known
  | unknown
deriving DecidableEq, Repr

structure DecisionQuality where
  recognitionThreshold : ℚ
  candidateFloor : ℚ
  top2Margin : ℚ
deriving DecidableEq, Repr

structure LiveIdentityDecision where
  identityState : DecisionState
  faceMatch : Option FaceMatch
  nearestKnownScore : Option ℚ
  identityEpoch : Nat
  resetRequired : Bool
  quality : DecisionQuality
  referenceEmbedding : Option (List ℚ)
  transition : Transition
  evaluationSequence : Nat
deriving DecidableEq, Repr

/-- `_TrackIdentity` -/
structure TrackIdentity where
  identityEpoch : Nat := 1
  seenTimestamps : List Nat := []
  observations : List LiveObservation := []
  knownMatch : Option FaceMatch := none
  nearestKnownScore : Option ℚ := none
  referenceEmbedding : Option (List ℚ) := none
  candidateFaceId : Option String := none
  candidateWins : Nat := 0
  rejectedWindows : Nat := 0
  evaluationSequence : Nat := 0
deriving DecidableEq, Repr

namespace TrackIdentity

/-- One turn of the loop of `_accept_new_observations`. -/
def acceptObservation (s : TrackIdentity) (observation : LiveObservation) : TrackIdentity :=
  if observation.timestampNs ∈ s.seenTimestamps then s
  else
    let observations := s.observations ++ [observation]
    { s with
      seenTimestamps := observation.timestampNs :: s.seenTimestamps
      observations := if observations.length > 5 then observations.tail else observations }

/-- `_accept_new_observations`, in the order of the timestamps -/
def acceptNewObservations (s : TrackIdentity) (observations : List LiveObservation) :
    TrackIdentity :=
  (observations.insertionSort (fun o p => o.timestampNs ≤ p.timestampNs)).foldl
    acceptObservation s

/-- `_current_decision` -/
def currentDecision (s : TrackIdentity) (quality : DecisionQuality) : LiveIdentityDecision where
  identityState := if s.knownMatch ≠ none then .known else .pending
  faceMatch := s.knownMatch
  nearestKnownScore := s.nearestKnownScore
  identityEpoch := s.identityEpoch
  resetRequired := false
  quality := quality
  referenceEmbedding := s.referenceEmbedding
  transition := .none
  evaluationSequence := s.evaluationSequence

/-- The answer while no observation has been accepted. -/
def emptyDecision (s : TrackIdentity) (quality : DecisionQuality) : LiveIdentityDecision where
  identityState := .pending
  faceMatch := none
  nearestKnownScore := none
  identityEpoch := s.identityEpoch
  resetRequired := false
  quality := quality
  referenceEmbedding := none
  transition := .none
  evaluationSequence := s.evaluationSequence

/-- The window was rejected: the third rejection in a row gives up the face. -/
def reject (s : TrackIdentity) (score : Option ℚ) (quality : DecisionQuality) :
    LiveIdentityDecision × TrackIdentity :=
  let s := { s with
    candidateFaceId := none
    candidateWins := 0
    rejectedWindows := s.rejectedWindows + 1 }
  if s.knownMatch ≠ none ∧ s.rejectedWindows ≥ 3 then
    let s := { s with
      identityEpoch := s.identityEpoch + 1
      knownMatch := none
      referenceEmbedding := none
      rejectedWindows := 0 }
    ({ identityState := .unknown
       faceMatch := none
       nearestKnownScore := score
       identityEpoch := s.identityEpoch
       resetRequired := true
       quality := quality
       referenceEmbedding := none
       transition := .unknown
       evaluationSequence := s.evaluationSequence }, s)
  else (s.currentDecision quality, s)

/-- The match is to become the face of the track, if its reference is there. -/
def identify (s : TrackIdentity) (found : FaceMatch) (score : Option ℚ)
    (reference : Option (List ℚ)) (quality : DecisionQuality) :
    LiveIdentityDecision × TrackIdentity :=
  match reference with
  | none => (s.currentDecision quality, s)
  | some vector =>
      let replacing := s.knownMatch.isSome
      let s := { s with
        identityEpoch := if replacing then s.identityEpoch + 1 else s.identityEpoch
        knownMatch := some found
        referenceEmbedding := some vector
        candidateFaceId := none
        candidateWins := 0 }
      ({ identityState := .known
         faceMatch := some found
         nearestKnownScore := score
         identityEpoch := s.identityEpoch
         resetRequired := replacing
         quality := quality
         referenceEmbedding := some vector
         transition := .known
         evaluationSequence := s.evaluationSequence }, s)

/-- A window won by another face than the current one. -/
def contend (s : TrackIdentity) (faceId : String) : TrackIdentity :=
  { s with
    candidateWins := if s.candidateFaceId = some faceId then s.candidateWins + 1 else 1
    candidateFaceId := some faceId }

/-- The window won a match: another face has to win three windows in a row. -/
def matched (s : TrackIdentity) (found : FaceMatch) (score : Option ℚ)
    (reference : Option (List ℚ)) (quality : DecisionQuality) :
    LiveIdentityDecision × TrackIdentity :=
  let s := { s with rejectedWindows := 0 }
  let faceId := found.identity.faceId
  match s.knownMatch with
  | none => s.identify found score reference quality
  | some current =>
      if current.identity.faceId = faceId then
        let s := { s with candidateFaceId := none, candidateWins := 0 }
        (s.currentDecision quality, s)
      else
        let s := s.contend faceId
        if s.candidateWins < 3 then (s.currentDecision quality, s)
        else s.identify found score reference quality

/-- The body of `_resolve` for the state of one track. -/
def resolve (s : TrackIdentity) (quality : DecisionQuality) (observations : List LiveObservation)
    (vote : Option VideoIdentityDecision) (reference : Option (List ℚ)) :
    LiveIdentityDecision × TrackIdentity :=
  let s := s.acceptNewObservations observations
  let s := { s with evaluationSequence := s.evaluationSequence + 1 }
  if s.observations = [] then (s.emptyDecision quality, s)
  else
    match vote with
    | none => (s.currentDecision quality, s)
    | some vote =>
        let s := { s with nearestKnownScore := vote.score }
        match vote.faceMatch with
        | none => s.reject vote.score quality
        | some found => s.matched found vote.score reference quality

end TrackIdentity

/-- The key of a track: camera, run, generation and tracker. -/
structure TrackKey where
  cameraId : String
  runId : String
  generation : Nat
  trackerId : Nat
deriving DecidableEq, Repr

/-- `LiveIdentityService` with the settings it reads. -/
structure LiveIdentityService where
  quality : DecisionQuality
  tracks : TrackKey → Option TrackIdentity

namespace LiveIdentityService

/-- The state of a track, a new one where the dictionary has none. -/
def track (service : LiveIdentityService) (key : TrackKey) : TrackIdentity :=
  (service.tracks key).getD {}

/-- `LiveIdentityService._resolve` -/
def resolve (service : LiveIdentityService) (event : TrackEvidenceEvent)
    (vote : Option VideoIdentityDecision) (reference : Option (List ℚ)) :
    LiveIdentityDecision × LiveIdentityService :=
  let key : TrackKey :=
    ⟨event.header.cameraId, event.header.runId, event.header.generation, event.trackerId⟩
  let (decision, state) :=
    (service.track key).resolve service.quality event.observations vote reference
  (decision, { service with tracks := Function.update service.tracks key (some state) })

/-- `LiveIdentityService.expire` -/
def expire (service : LiveIdentityService) (event : TrackExpiredEvent) : LiveIdentityService :=
  let key : TrackKey :=
    ⟨event.header.cameraId, event.header.runId, event.header.generation, event.trackerId⟩
  { service with tracks := Function.update service.tracks key none }

end LiveIdentityService

theorem LiveIdentityService.track_update (quality : DecisionQuality)
    (tracks : TrackKey → Option TrackIdentity) (key k : TrackKey) (entry : Option TrackIdentity) :
    (LiveIdentityService.mk quality (Function.update tracks key entry)).track k =
      if k = key then entry.getD {} else (LiveIdentityService.mk quality tracks).track k := by
  show (Function.update tracks key entry k).getD {} = _
  rw [Function.update_apply]
  split <;> rfl

theorem LiveIdentityService.resolve_eq (service : LiveIdentityService)
    (event : TrackEvidenceEvent) (vote : Option VideoIdentityDecision)
    (reference : Option (List ℚ)) (key : TrackKey)
    (h : key = ⟨event.header.cameraId, event.header.runId, event.header.generation,
      event.trackerId⟩) :
    service.resolve event vote reference =
      (((service.track key).resolve service.quality event.observations vote reference).1,
        { service with
          tracks := Function.update service.tracks key
            (some ((service.track key).resolve service.quality event.observations vote
              reference).2) }) := by
  subst h
  rfl

/-! ## What a window can do to a track -/

/-- The three ways a window can end, by the transition it reports. -/
inductive Resolution (s : TrackIdentity) (decision : LiveIdentityDecision) (s' : TrackIdentity) :
    Prop where
  /-- Nothing changes; the decision reports no face but the current one. -/
  | stays (transition : decision.transition = .none)
      (epoch : decision.identityEpoch = s.identityEpoch)
      (epoch' : s'.identityEpoch = s.identityEpoch) (known : s'.knownMatch = s.knownMatch)
  /-- The face is given up in a new epoch. -/
  | gaveUp (transition : decision.transition = .unknown)
      (epoch : decision.identityEpoch = s.identityEpoch + 1)
      (epoch' : s'.identityEpoch = s.identityEpoch + 1)
      (wasKnown : s.knownMatch ≠ none) (known : s'.knownMatch = none)
  /-- The first face of an epoch. -/
  | identified (found : FaceMatch) (transition : decision.transition = .known)
      (faceMatch : decision.faceMatch = some found)
      (reference : decision.referenceEmbedding ≠ none) (reset : decision.resetRequired = false)
      (epoch : decision.identityEpoch = s.identityEpoch)
      (epoch' : s'.identityEpoch = s.identityEpoch)
      (wasUnknown : s.knownMatch = none) (known : s'.knownMatch = some found)
  /-- Another face, in a new epoch. -/
  | replaced (found : FaceMatch) (transition : decision.transition = .known)
      (faceMatch : decision.faceMatch = some found)
      (reference : decision.referenceEmbedding ≠ none) (reset : decision.resetRequired = true)
      (epoch : decision.identityEpoch = s.identityEpoch + 1)
      (epoch' : s'.identityEpoch = s.identityEpoch + 1)
      (wasKnown : s.knownMatch ≠ none) (known : s'.knownMatch = some found)

section Resolution

variable {s t : TrackIdentity} {quality : DecisionQuality} {score : Option ℚ}
  {found : FaceMatch} {reference : Option (List ℚ)}

@[simp] theorem acceptObservation_identity (s : TrackIdentity) (o : LiveObservation) :
    (s.acceptObservation o).identityEpoch = s.identityEpoch ∧
      (s.acceptObservation o).knownMatch = s.knownMatch := by
  unfold TrackIdentity.acceptObservation
  split <;> exact ⟨rfl, rfl⟩

/-- Taking in observations leaves the identity alone. -/
theorem acceptNewObservations_identity (s : TrackIdentity) (observations : List LiveObservation) :
    (s.acceptNewObservations observations).identityEpoch = s.identityEpoch ∧
      (s.acceptNewObservations observations).knownMatch = s.knownMatch := by
  unfold TrackIdentity.acceptNewObservations
  generalize observations.insertionSort (fun o p => o.timestampNs ≤ p.timestampNs) = sorted
  induction sorted generalizing s with
  | nil => exact ⟨rfl, rfl⟩
  | cons o sorted ih =>
      obtain ⟨he, hk⟩ := ih (s.acceptObservation o)
      obtain ⟨he', hk'⟩ := acceptObservation_identity s o
      exact ⟨he.trans he', hk.trans hk'⟩

/-- The current decision changes nothing, whatever counters moved. -/
theorem resolution_current (he : t.identityEpoch = s.identityEpoch)
    (hk : t.knownMatch = s.knownMatch) :
    Resolution s (t.currentDecision quality) t :=
  .stays rfl he he hk

theorem resolution_identify (he : t.identityEpoch = s.identityEpoch)
    (hk : t.knownMatch = s.knownMatch) :
    Resolution s (t.identify found score reference quality).1
      (t.identify found score reference quality).2 := by
  cases reference with
  | none => exact resolution_current he hk
  | some vector =>
      cases hs : s.knownMatch with
      | none =>
          have ht : t.knownMatch.isSome = false := by rw [hk, hs]; rfl
          refine .identified found rfl rfl (Option.some_ne_none vector) ht ?_ ?_ hs rfl
          all_goals simpa [TrackIdentity.identify, ht] using he
      | some current =>
          have ht : t.knownMatch.isSome = true := by rw [hk, hs]; rfl
          have hne : s.knownMatch ≠ none := by rw [hs]; exact Option.some_ne_none current
          refine .replaced found rfl rfl (Option.some_ne_none vector) ht ?_ ?_ hne rfl
          all_goals simpa [TrackIdentity.identify, ht] using he

theorem resolution_reject (he : t.identityEpoch = s.identityEpoch)
    (hk : t.knownMatch = s.knownMatch) :
    Resolution s (t.reject score quality).1 (t.reject score quality).2 := by
  unfold TrackIdentity.reject
  dsimp only
  split
  · rename_i h
    refine .gaveUp rfl ?_ ?_ (hk ▸ h.1) rfl
    all_goals exact congrArg (· + 1) he
  · exact resolution_current he hk

theorem resolution_matched (he : t.identityEpoch = s.identityEpoch)
    (hk : t.knownMatch = s.knownMatch) :
    Resolution s (t.matched found score reference quality).1
      (t.matched found score reference quality).2 := by
  unfold TrackIdentity.matched
  dsimp only
  split
  · exact resolution_identify he hk
  · split
    · exact resolution_current he hk
    · split
      · exact resolution_current he hk
      · exact resolution_identify he hk

/-- The specification of `_resolve`. -/
theorem resolution_resolve (s : TrackIdentity) (quality : DecisionQuality)
    (observations : List LiveObservation) (vote : Option VideoIdentityDecision)
    (reference : Option (List ℚ)) :
    Resolution s (s.resolve quality observations vote reference).1
      (s.resolve quality observations vote reference).2 := by
  obtain ⟨he, hk⟩ := acceptNewObservations_identity s observations
  unfold TrackIdentity.resolve
  dsimp only
  split
  · exact .stays rfl he he hk
  · split
    · exact resolution_current he hk
    · split
      · exact resolution_reject he hk
      · exact resolution_matched he hk

end Resolution

end Mvision.Live
