import Mvision.Library.Machine
import Mvision.Live.IdentityService

/-!
# Hysteresis of the identity of a track

A ballot is what the voter said about one window: no match, or a face.  Windows
without observations and failed queries cast none.  The counters of a track are
compared with the ballots that were cast: the face changes on the third ballot
in a row for another face at the earliest, and is given up on the third in a
row for none.
-/

namespace Mvision.Live

open Mvision.Library

inductive Ballot where
  | noMatch
  | face (faceId : String)
deriving DecidableEq, Repr

/-- The number of ballots for `b` since the last one for anything else, newest first. -/
def streak (b : Ballot) (ballots : List Ballot) : Nat :=
  (ballots.takeWhile (· = b)).length

@[simp] theorem streak_cons_self (b : Ballot) (ballots : List Ballot) :
    streak b (b :: ballots) = streak b ballots + 1 := by
  simp [streak]

@[simp] theorem streak_cons_ne {b c : Ballot} (h : c ≠ b) (ballots : List Ballot) :
    streak b (c :: ballots) = 0 := by
  simp [streak, h]

def VideoIdentityDecision.ballot (vote : VideoIdentityDecision) : Ballot :=
  match vote.faceMatch with
  | none => .noMatch
  | some found => .face found.identity.faceId

namespace TrackIdentity

/-- The current face of the track. -/
def faceId (s : TrackIdentity) : Option String := s.knownMatch.map (·.identity.faceId)

/-- The ballot that a window casts. -/
def ballot (s : TrackIdentity) (observations : List LiveObservation)
    (vote : Option VideoIdentityDecision) : Option Ballot :=
  if (s.acceptNewObservations observations).observations = [] then none
  else vote.map VideoIdentityDecision.ballot

/-- The fields that decide about the face. -/
structure Agrees (s t : TrackIdentity) : Prop where
  identityEpoch : t.identityEpoch = s.identityEpoch
  knownMatch : t.knownMatch = s.knownMatch
  candidateFaceId : t.candidateFaceId = s.candidateFaceId
  candidateWins : t.candidateWins = s.candidateWins
  rejectedWindows : t.rejectedWindows = s.rejectedWindows

theorem agrees_acceptObservation (s : TrackIdentity) (o : LiveObservation) :
    Agrees s (s.acceptObservation o) := by
  unfold acceptObservation
  split <;> exact ⟨rfl, rfl, rfl, rfl, rfl⟩

theorem Agrees.trans {s t u : TrackIdentity} (h : Agrees s t) (h' : Agrees t u) : Agrees s u where
  identityEpoch := h'.identityEpoch.trans h.identityEpoch
  knownMatch := h'.knownMatch.trans h.knownMatch
  candidateFaceId := h'.candidateFaceId.trans h.candidateFaceId
  candidateWins := h'.candidateWins.trans h.candidateWins
  rejectedWindows := h'.rejectedWindows.trans h.rejectedWindows

theorem agrees_acceptNewObservations (s : TrackIdentity) (observations : List LiveObservation) :
    Agrees s (s.acceptNewObservations observations) := by
  unfold acceptNewObservations
  generalize observations.insertionSort (fun o p => o.timestampNs ≤ p.timestampNs) = sorted
  induction sorted generalizing s with
  | nil => exact ⟨rfl, rfl, rfl, rfl, rfl⟩
  | cons o sorted ih => exact (agrees_acceptObservation s o).trans (ih _)

/-- The state in which a window is judged, with the score of the vote. -/
def judged (s : TrackIdentity) (observations : List LiveObservation) (score : Option ℚ) :
    TrackIdentity :=
  { s.acceptNewObservations observations with
    evaluationSequence := (s.acceptNewObservations observations).evaluationSequence + 1
    nearestKnownScore := score }

theorem agrees_judged (s : TrackIdentity) (observations : List LiveObservation)
    (score : Option ℚ) : Agrees s (s.judged observations score) :=
  { agrees_acceptNewObservations s observations with }

/-- A window casts no ballot and leaves the counters alone, or it is rejected, or it is
matched, each from a state that agrees with the one before. -/
theorem resolve_cases (s : TrackIdentity) (quality : DecisionQuality)
    (observations : List LiveObservation) (vote : Option VideoIdentityDecision)
    (reference : Option (List ℚ)) :
    (s.ballot observations vote = none ∧
      Agrees s (s.resolve quality observations vote reference).2) ∨
    (∃ t score, Agrees s t ∧ s.ballot observations vote = some .noMatch ∧
      s.resolve quality observations vote reference = t.reject score quality) ∨
    (∃ t found score, Agrees s t ∧
      s.ballot observations vote = some (.face found.identity.faceId) ∧
      s.resolve quality observations vote reference =
        t.matched found score reference quality) := by
  have hs := agrees_acceptNewObservations s observations
  by_cases hempty : (s.acceptNewObservations observations).observations = []
  · refine .inl ⟨by simp [ballot, hempty], ?_⟩
    simp only [resolve, hempty, if_true]
    exact { hs with }
  · cases vote with
    | none =>
        refine .inl ⟨by simp [ballot], ?_⟩
        simp only [resolve, hempty, if_false]
        exact { hs with }
    | some vote =>
        cases hm : vote.faceMatch with
        | none =>
            refine .inr (.inl ⟨s.judged observations vote.score, vote.score,
              agrees_judged s observations vote.score, ?_, ?_⟩)
            · simp [ballot, hempty, VideoIdentityDecision.ballot, hm]
            · simp only [resolve, hempty, if_false, hm]
              rfl
        | some found =>
            refine .inr (.inr ⟨s.judged observations vote.score, found, vote.score,
              agrees_judged s observations vote.score, ?_, ?_⟩)
            · simp [ballot, hempty, VideoIdentityDecision.ballot, hm]
            · simp only [resolve, hempty, if_false, hm]
              rfl

/-! ## The counters and the ballots -/

/-- The counters are what the ballots add up to. -/
structure Tallied (s : TrackIdentity) (ballots : List Ballot) : Prop where
  candidate : ∀ faceId, s.candidateFaceId = some faceId →
    s.knownMatch ≠ none ∧ s.candidateWins ≤ streak (.face faceId) ballots
  rejected : s.knownMatch ≠ none →
    s.rejectedWindows = streak .noMatch ballots ∧ s.rejectedWindows < 3

theorem Tallied.of_agrees {s t : TrackIdentity} {ballots : List Ballot} (h : s.Tallied ballots)
    (ha : Agrees s t) : t.Tallied ballots := by
  refine ⟨?_, ?_⟩
  · rw [ha.candidateFaceId, ha.knownMatch, ha.candidateWins]
    exact h.candidate
  · rw [ha.knownMatch, ha.rejectedWindows]
    exact h.rejected

theorem tallied_new (ballots : List Ballot) : ({} : TrackIdentity).Tallied ballots where
  candidate _ h := nomatch h
  rejected h := absurd rfl h

variable {s : TrackIdentity} {ballots : List Ballot} {quality : DecisionQuality}
  {score : Option ℚ} {found : FaceMatch} {reference : Option (List ℚ)}

theorem reject_of_third (quality : DecisionQuality) (score : Option ℚ)
    (hk : s.knownMatch ≠ none) (hr : 3 ≤ s.rejectedWindows + 1) :
    (s.reject score quality).2.knownMatch = none ∧
      (s.reject score quality).2.candidateFaceId = none := by
  simp [reject, hk, hr]

theorem reject_of_not_third (h : ¬ (s.knownMatch ≠ none ∧ 3 ≤ s.rejectedWindows + 1)) :
    (s.reject score quality).2 =
      { s with
        candidateFaceId := none
        candidateWins := 0
        rejectedWindows := s.rejectedWindows + 1 } := by
  simp only [reject, ge_iff_le]
  rw [if_neg h]

/-- The face is given up on the third ballot in a row for none. -/
theorem reject_spec (h : s.Tallied ballots) (quality : DecisionQuality) (score : Option ℚ) :
    (s.reject score quality).2.Tallied (.noMatch :: ballots) ∧
      ((s.reject score quality).2.knownMatch = s.knownMatch ∨
        (s.reject score quality).2.knownMatch = none) ∧
      (s.knownMatch ≠ none → ((s.reject score quality).2.knownMatch = none ↔
        streak .noMatch (.noMatch :: ballots) = 3)) := by
  by_cases hthird : s.knownMatch ≠ none ∧ 3 ≤ s.rejectedWindows + 1
  · obtain ⟨hk, hc⟩ := reject_of_third quality score hthird.1 hthird.2
    refine ⟨⟨?_, fun hne => absurd hk hne⟩, .inr hk, fun hne => iff_of_true hk ?_⟩
    · rw [hc]
      exact nofun
    · obtain ⟨hr, hlt⟩ := h.rejected hne
      rw [streak_cons_self, ← hr]
      omega
  · rw [reject_of_not_third hthird]
    refine ⟨⟨nofun, fun hne => ?_⟩, .inl rfl, fun hne => ?_⟩
    · obtain ⟨hr, hlt⟩ := h.rejected hne
      have hnot : ¬ 3 ≤ s.rejectedWindows + 1 := fun h3 => hthird ⟨hne, h3⟩
      rw [streak_cons_self, ← hr]
      exact ⟨rfl, not_le.mp hnot⟩
    · obtain ⟨hr, hlt⟩ := h.rejected hne
      have hnot : ¬ 3 ≤ s.rejectedWindows + 1 := fun h3 => hthird ⟨hne, h3⟩
      rw [streak_cons_self, ← hr]
      exact iff_of_false hne (by omega)

/-- The face is taken, or its reference is missing and nothing changes. -/
theorem identify_cases (s : TrackIdentity) (found : FaceMatch) (score : Option ℚ)
    (reference : Option (List ℚ)) (quality : DecisionQuality) :
    (s.identify found score reference quality).2 = s ∨
      (s.identify found score reference quality).2.knownMatch = some found ∧
        (s.identify found score reference quality).2.candidateFaceId = none ∧
        (s.identify found score reference quality).2.rejectedWindows = s.rejectedWindows := by
  cases reference with
  | none => exact .inl rfl
  | some vector => exact .inr ⟨rfl, rfl, rfl⟩

/-- A taken face starts with counters at zero. -/
theorem tallied_identified {t : TrackIdentity} {faceId : String}
    (hc : t.candidateFaceId = none) (hr : t.rejectedWindows = 0) :
    t.Tallied (.face faceId :: ballots) where
  candidate _ hf := by rw [hc] at hf; cases hf
  rejected _ := by
    rw [hr, streak_cons_ne (by simp)]
    exact ⟨rfl, by decide⟩

theorem contend_wins (h : ∀ faceId, s.candidateFaceId = some faceId →
      s.knownMatch ≠ none ∧ s.candidateWins ≤ streak (.face faceId) ballots) (faceId : String) :
    (s.contend faceId).candidateWins ≤ streak (.face faceId) (.face faceId :: ballots) := by
  rw [streak_cons_self]
  simp only [contend]
  split
  · rename_i hc
    have := (h faceId hc).2
    omega
  · omega

/-- The state in which a match is judged. -/
def unrejected (s : TrackIdentity) : TrackIdentity := { s with rejectedWindows := 0 }

/-- What a match does: it identifies a track without a face, confirms the face, or contends
with it and in the end identifies the track again. -/
theorem matched_cases (s : TrackIdentity) (found : FaceMatch) (score : Option ℚ)
    (reference : Option (List ℚ)) (quality : DecisionQuality) :
    (s.knownMatch = none ∧
      s.matched found score reference quality =
        s.unrejected.identify found score reference quality) ∨
    (s.knownMatch ≠ none ∧ (s.matched found score reference quality).2 =
      { s.unrejected with candidateFaceId := none, candidateWins := 0 }) ∨
    (s.knownMatch ≠ none ∧ (s.matched found score reference quality).2 =
      s.unrejected.contend found.identity.faceId) ∨
    (s.knownMatch ≠ none ∧
      3 ≤ (s.unrejected.contend found.identity.faceId).candidateWins ∧
      s.matched found score reference quality =
        (s.unrejected.contend found.identity.faceId).identify found score reference quality) := by
  unfold matched
  dsimp only
  split
  · rename_i hk
    exact .inl ⟨hk, rfl⟩
  · rename_i current hk
    have hne : s.knownMatch ≠ none := by rw [hk]; exact Option.some_ne_none current
    split
    · exact .inr (.inl ⟨hne, rfl⟩)
    · split
      · exact .inr (.inr (.inl ⟨hne, rfl⟩))
      · rename_i hthree
        exact .inr (.inr (.inr ⟨hne, not_lt.mp hthree, rfl⟩))

/-- A ballot for a face ends the rejections. -/
theorem unrejected_rejected (faceId : String) :
    0 = streak .noMatch (.face faceId :: ballots) ∧ 0 < 3 := by
  rw [streak_cons_ne (by simp)]
  exact ⟨rfl, by decide⟩

/-- The contender is counted, and nothing else moves. -/
theorem tallied_contend (h : s.Tallied ballots) (hk : s.knownMatch ≠ none) (faceId : String) :
    (s.unrejected.contend faceId).Tallied (.face faceId :: ballots) where
  candidate f hf := by
    obtain rfl : faceId = f := Option.some.inj hf
    exact ⟨hk, contend_wins (s := s.unrejected) h.candidate faceId⟩
  rejected _ := unrejected_rejected faceId

/-- Another face takes the place of the current one on the third ballot in a row for it at
the earliest. -/
theorem matched_spec (h : s.Tallied ballots) (found : FaceMatch) (score : Option ℚ)
    (reference : Option (List ℚ)) (quality : DecisionQuality) :
    (s.matched found score reference quality).2.Tallied
        (.face found.identity.faceId :: ballots) ∧
      ((s.matched found score reference quality).2.knownMatch = s.knownMatch ∨
        (s.matched found score reference quality).2.knownMatch = some found ∧
          (s.knownMatch ≠ none →
            3 ≤ streak (.face found.identity.faceId)
              (.face found.identity.faceId :: ballots))) := by
  rcases matched_cases s found score reference quality with
    ⟨hk, heq⟩ | ⟨hk, heq⟩ | ⟨hk, heq⟩ | ⟨hk, hthree, heq⟩ <;> rw [heq]
  · rcases identify_cases s.unrejected found score reference quality with hi | ⟨hm, hc, hr⟩
    · rw [hi]
      have hnone : s.unrejected.knownMatch = none := hk
      exact ⟨⟨fun f hf => absurd hk (h.candidate f hf).1, fun hne => absurd hnone hne⟩, .inl rfl⟩
    · exact ⟨tallied_identified hc hr, .inr ⟨hm, fun hne => absurd hk hne⟩⟩
  · exact ⟨⟨nofun, fun _ => unrejected_rejected _⟩, .inl rfl⟩
  · exact ⟨tallied_contend h hk _, .inl rfl⟩
  · rcases identify_cases (s.unrejected.contend found.identity.faceId) found score reference
      quality with hi | ⟨hm, hc, hr⟩
    · rw [hi]
      exact ⟨tallied_contend h hk _, .inl rfl⟩
    · refine ⟨tallied_identified hc hr, .inr ⟨hm, fun _ => ?_⟩⟩
      exact hthree.trans (contend_wins (s := s.unrejected) h.candidate _)

end TrackIdentity

/-! ## One window -/

/-- The law of one window: `s` before and `s'` after it, with its decision, the ballot it
casts and the ballots cast by then. -/
structure Hysteresis (s s' : TrackIdentity) (decision : LiveIdentityDecision)
    (ballot : Option Ballot) (ballots : List Ballot) : Prop where
  epoch : s.identityEpoch ≤ s'.identityEpoch ∧ s'.identityEpoch ≤ s.identityEpoch + 1
  reported : decision.identityEpoch = s'.identityEpoch
  /-- the face changes on the third ballot in a row for the new one at the earliest -/
  changed : ∀ a b, s.faceId = some a → s'.faceId = some b → a ≠ b →
    ballot = some (.face b) ∧ 3 ≤ streak (.face b) ballots ∧
      s'.identityEpoch = s.identityEpoch + 1 ∧ decision.resetRequired = true
  /-- the face is given up on the third ballot in a row for none, in a new epoch -/
  givenUp : s.faceId ≠ none →
    (s'.faceId = none ↔ ballot = some .noMatch ∧ streak .noMatch ballots = 3) ∧
    (s'.faceId = none → s'.identityEpoch = s.identityEpoch + 1 ∧
      decision.transition = .unknown)

namespace TrackIdentity

variable {s : TrackIdentity} {ballots : List Ballot}

theorem faceId_ne_none : s.faceId ≠ none ↔ s.knownMatch ≠ none := by
  simp [faceId]

theorem faceId_eq_none : s.faceId = none ↔ s.knownMatch = none := by
  simp [faceId]

/-- A face that stays is no other face. -/
theorem same_face {t : TrackIdentity} {a b : String} (ha : s.faceId = some a)
    (hb : t.faceId = some b) (hk : t.knownMatch = s.knownMatch) : a = b := by
  have hsame : t.faceId = s.faceId := by rw [faceId, faceId, hk]
  exact Option.some.inj (ha.symm.trans (hsame.symm.trans hb))

/-- The window and the ballots: the counters stay right, another face needs three ballots in
a row, and so does giving up the face. -/
theorem resolve_ballot (h : s.Tallied ballots) (quality : DecisionQuality)
    (observations : List LiveObservation) (vote : Option VideoIdentityDecision)
    (reference : Option (List ℚ)) :
    (s.resolve quality observations vote reference).2.Tallied
        ((s.ballot observations vote).toList ++ ballots) ∧
      (∀ a b, s.faceId = some a →
        (s.resolve quality observations vote reference).2.faceId = some b → a ≠ b →
        s.ballot observations vote = some (.face b) ∧
          3 ≤ streak (.face b) ((s.ballot observations vote).toList ++ ballots)) ∧
      (s.knownMatch ≠ none →
        ((s.resolve quality observations vote reference).2.knownMatch = none ↔
          s.ballot observations vote = some .noMatch ∧
            streak .noMatch ((s.ballot observations vote).toList ++ ballots) = 3)) := by
  rcases resolve_cases s quality observations vote reference with ⟨hb, ha⟩ |
    ⟨t, score, ha, hb, heq⟩ | ⟨t, found, score, ha, hb, heq⟩
  · rw [hb]
    refine ⟨h.of_agrees ha, fun a b hfa hfb hne => ?_, fun hk => ?_⟩
    · exact absurd (same_face hfa hfb ha.knownMatch) hne
    · rw [ha.knownMatch]
      exact iff_of_false hk (by simp)
  · obtain ⟨htally, hkept, hthird⟩ :=
      reject_spec (h.of_agrees ha) quality score
    rw [heq, hb]
    refine ⟨htally, fun a b hfa hfb hne => ?_, fun hk => ?_⟩
    · rcases hkept with hsame | hnone
      · exact absurd (same_face hfa hfb (hsame.trans ha.knownMatch)) hne
      · rw [faceId_eq_none.mpr hnone] at hfb
        cases hfb
    · rw [hthird (ha.knownMatch ▸ hk)]
      exact (and_iff_right rfl).symm
  · obtain ⟨htally, hkept⟩ := matched_spec (h.of_agrees ha) found score reference
      quality
    rw [heq, hb]
    refine ⟨htally, fun a b hfa hfb hne => ?_, fun hk => ?_⟩
    · rcases hkept with hsame | ⟨hm, hthree⟩
      · exact absurd (same_face hfa hfb (hsame.trans ha.knownMatch)) hne
      · have hface : found.identity.faceId = b := by simpa [faceId, hm] using hfb
        have hk : s.knownMatch ≠ none := faceId_ne_none.mp (by rw [hfa]; simp)
        rw [hface] at hthree
        exact ⟨by rw [hface], hface ▸ hthree (ha.knownMatch ▸ hk)⟩
    · refine iff_of_false ?_ (by simp)
      rcases hkept with hsame | ⟨hm, -⟩
      · rw [hsame, ha.knownMatch]
        exact hk
      · rw [hm]
        exact Option.some_ne_none found

/-- The specification of `_resolve` against the ballots. -/
theorem hysteresis_resolve (h : s.Tallied ballots) (quality : DecisionQuality)
    (observations : List LiveObservation) (vote : Option VideoIdentityDecision)
    (reference : Option (List ℚ)) :
    Hysteresis s (s.resolve quality observations vote reference).2
      (s.resolve quality observations vote reference).1 (s.ballot observations vote)
      ((s.ballot observations vote).toList ++ ballots) := by
  obtain ⟨-, hchanged, hgiven⟩ := resolve_ballot h quality observations vote reference
  have hres := resolution_resolve s quality observations vote reference
  refine ⟨?_, ?_, fun a b hfa hfb hne => ?_, fun hk => ⟨?_, fun hnone => ?_⟩⟩
  · cases hres <;> omega
  · cases hres with
    | stays _ epoch epoch' _ => exact epoch.trans epoch'.symm
    | gaveUp _ epoch epoch' _ _ => exact epoch.trans epoch'.symm
    | identified _ _ _ _ _ epoch epoch' _ _ => exact epoch.trans epoch'.symm
    | replaced _ _ _ _ _ epoch epoch' _ _ => exact epoch.trans epoch'.symm
  · obtain ⟨hballot, hthree⟩ := hchanged a b hfa hfb hne
    refine ⟨hballot, hthree, ?_⟩
    cases hres with
    | stays _ _ _ known => exact absurd (same_face hfa hfb known) hne
    | gaveUp _ _ _ _ known =>
        rw [faceId_eq_none.mpr known] at hfb
        cases hfb
    | identified _ _ _ _ _ _ _ wasUnknown _ =>
        rw [faceId_eq_none.mpr wasUnknown] at hfa
        cases hfa
    | replaced _ _ _ _ reset _ epoch' _ _ => exact ⟨epoch', reset⟩
  · rw [faceId_eq_none]
    exact hgiven (faceId_ne_none.mp hk)
  · have hknown := faceId_ne_none.mp hk
    have hnone := faceId_eq_none.mp hnone
    cases hres with
    | stays _ _ _ known => exact absurd (known.symm.trans hnone) hknown
    | gaveUp transition _ epoch' _ _ => exact ⟨epoch', transition⟩
    | identified _ _ _ _ _ _ _ wasUnknown _ => exact absurd wasUnknown hknown
    | replaced _ _ _ _ _ _ _ _ known =>
        rw [known] at hnone
        cases hnone

end TrackIdentity

/-! ## The events of a track -/

def TrackEvidenceEvent.identityKey (event : TrackEvidenceEvent) : TrackKey :=
  ⟨event.header.cameraId, event.header.runId, event.header.generation, event.trackerId⟩

/-- An evidence event, with what the voter and the reference store answer. -/
structure Window where
  event : TrackEvidenceEvent
  vote : Option VideoIdentityDecision
  reference : Option (List ℚ)
deriving DecidableEq

/-- The service, with the ballots of one track, newest first, and its decisions. -/
structure TrackHistory where
  service : LiveIdentityService
  ballots : List Ballot
  decisions : List LiveIdentityDecision

namespace TrackHistory

variable (key : TrackKey)

def next (s : TrackHistory) (w : Window) : TrackHistory where
  service := (s.service.resolve w.event w.vote w.reference).2
  ballots :=
    if w.event.identityKey = key then
      ((s.service.track key).ballot w.event.observations w.vote).toList ++ s.ballots
    else s.ballots
  decisions :=
    if w.event.identityKey = key then
      s.decisions ++ [(s.service.resolve w.event w.vote w.reference).1]
    else s.decisions

/-- The law of a window of the track. -/
def Steady (s : TrackHistory) (w : Window) : Prop :=
  w.event.identityKey = key →
    Hysteresis (s.service.track key) ((s.next key w).service.track key)
      (s.service.resolve w.event w.vote w.reference).1
      ((s.service.track key).ballot w.event.observations w.vote) (s.next key w).ballots

/-- The number of decisions with a transition in an epoch. -/
def transitions (s : TrackHistory) (transition : Transition) (epoch : Nat) : Nat :=
  s.decisions.countP fun d => decide (d.transition = transition ∧ d.identityEpoch = epoch)

end TrackHistory

/-- Evidence events of any tracks, the one with `key` new at the start and never expired. -/
def hysteresis (key : TrackKey) : Machine TrackHistory Window where
  init s := s.service.tracks key = none ∧ s.ballots = [] ∧ s.decisions = []
  enabled _ _ := True
  next s w := s.next key w

namespace TrackHistory

variable {key : TrackKey} {s : TrackHistory} {w : Window}

theorem next_of_key (hk : w.event.identityKey = key) :
    (s.service.resolve w.event w.vote w.reference).1 =
        ((s.service.track key).resolve s.service.quality w.event.observations w.vote
          w.reference).1 ∧
      (s.next key w).service.track key =
        ((s.service.track key).resolve s.service.quality w.event.observations w.vote
          w.reference).2 := by
  have heq := LiveIdentityService.resolve_eq s.service w.event w.vote w.reference key hk.symm
  refine ⟨by rw [heq], ?_⟩
  show (s.service.resolve w.event w.vote w.reference).2.track key = _
  rw [heq, LiveIdentityService.track_update, if_pos rfl]
  rfl

/-- The window of another track. -/
theorem next_of_ne (hk : w.event.identityKey ≠ key) :
    (s.next key w).service.track key = s.service.track key ∧
      (s.next key w).ballots = s.ballots ∧ (s.next key w).decisions = s.decisions := by
  have heq := LiveIdentityService.resolve_eq s.service w.event w.vote w.reference _ rfl
  refine ⟨?_, if_neg hk, if_neg hk⟩
  show (s.service.resolve w.event w.vote w.reference).2.track key = _
  rw [heq, LiveIdentityService.track_update]
  exact if_neg fun he => hk he.symm

/-- What every window keeps. -/
structure Voted (key : TrackKey) (s : TrackHistory) : Prop where
  tallied : (s.service.track key).Tallied s.ballots
  bounded : ∀ d ∈ s.decisions, d.identityEpoch ≤ (s.service.track key).identityEpoch
  /-- without a face, the current epoch has named none -/
  unnamed : (s.service.track key).knownMatch = none → s.transitions .known
    (s.service.track key).identityEpoch = 0
  once : ∀ epoch, s.transitions .known epoch ≤ 1 ∧ s.transitions .unknown epoch ≤ 1

theorem steady_of_voted (h : s.Voted key) : s.Steady key w := by
  intro hk
  obtain ⟨hd, ht⟩ := next_of_key (s := s) hk
  have hb : (s.next key w).ballots =
      ((s.service.track key).ballot w.event.observations w.vote).toList ++ s.ballots :=
    if_pos hk
  rw [hd, ht, hb]
  exact TrackIdentity.hysteresis_resolve h.tallied _ _ _ _

/-- No decision has reached a later epoch. -/
theorem transitions_later (h : s.Voted key) (transition : Transition) {epoch : Nat}
    (hlt : (s.service.track key).identityEpoch < epoch) : s.transitions transition epoch = 0 := by
  rw [transitions, List.countP_eq_zero]
  intro d hd
  have := h.bounded d hd
  simp only [decide_eq_true_eq, not_and]
  intro _ he
  omega

theorem transitions_next (hk : w.event.identityKey = key) (transition : Transition) (epoch : Nat) :
    (s.next key w).transitions transition epoch = s.transitions transition epoch +
      if (s.service.resolve w.event w.vote w.reference).1.transition = transition ∧
        (s.service.resolve w.event w.vote w.reference).1.identityEpoch = epoch then 1 else 0 := by
  simp [transitions, next, hk, List.countP_append, List.countP_cons]

/-- A transition that is the first of its epoch keeps the count. -/
theorem transitions_next_le (hk : w.event.identityKey = key) {transition : Transition}
    {epoch : Nat} (hle : s.transitions transition epoch ≤ 1)
    (hfirst : (s.service.resolve w.event w.vote w.reference).1.transition = transition →
      (s.service.resolve w.event w.vote w.reference).1.identityEpoch = epoch →
      s.transitions transition epoch = 0) :
    (s.next key w).transitions transition epoch ≤ 1 := by
  rw [transitions_next hk]
  split
  · rename_i h
    rw [hfirst h.1 h.2]
  · exact hle

theorem voted_window (h : s.Voted key) (hk : w.event.identityKey = key) :
    (s.next key w).Voted key := by
  obtain ⟨hd, ht⟩ := next_of_key (s := s) hk
  have hres := resolution_resolve (s.service.track key) s.service.quality w.event.observations
    w.vote w.reference
  rw [← hd, ← ht] at hres
  have hsteady := steady_of_voted h hk
  refine ⟨?_, ?_, fun hnone => ?_, fun epoch => ⟨?_, ?_⟩⟩
  · have htally := (TrackIdentity.resolve_ballot h.tallied s.service.quality w.event.observations
      w.vote w.reference).1
    rw [ht, show (s.next key w).ballots = _ from if_pos hk]
    exact htally
  · intro d hm
    rw [show (s.next key w).decisions = _ from if_pos hk] at hm
    rcases List.mem_append.mp hm with hm | hm
    · exact (h.bounded d hm).trans hsteady.epoch.1
    · rw [List.mem_singleton.mp hm]
      exact hsteady.reported.le
  · rw [transitions_next hk]
    cases hres with
    | stays transition _ epoch' known =>
        rw [known] at hnone
        rw [epoch', transition, h.unnamed hnone]
        simp
    | gaveUp transition _ epoch' _ _ =>
        rw [epoch', transition, transitions_later h _ (Nat.lt_succ_self _)]
        simp
    | identified _ _ _ _ _ _ _ _ known =>
        rw [known] at hnone
        cases hnone
    | replaced _ _ _ _ _ _ _ _ known =>
        rw [known] at hnone
        cases hnone
  · refine transitions_next_le hk (h.once epoch).1 fun hknown he => ?_
    cases hres with
    | stays transition _ _ _ => exact absurd (transition.symm.trans hknown) (by decide)
    | gaveUp transition _ _ _ _ => exact absurd (transition.symm.trans hknown) (by decide)
    | identified _ _ _ _ _ epoch _ wasUnknown _ =>
        rw [← he, epoch]
        exact h.unnamed wasUnknown
    | replaced _ _ _ _ _ epoch _ _ _ =>
        rw [← he, epoch]
        exact transitions_later h _ (Nat.lt_succ_self _)
  · refine transitions_next_le hk (h.once epoch).2 fun hunknown he => ?_
    cases hres with
    | stays transition _ _ _ => exact absurd (transition.symm.trans hunknown) (by decide)
    | gaveUp _ epoch _ _ _ =>
        rw [← he, epoch]
        exact transitions_later h _ (Nat.lt_succ_self _)
    | identified _ transition _ _ _ _ _ _ _ =>
        exact absurd (transition.symm.trans hunknown) (by decide)
    | replaced _ transition _ _ _ _ _ _ _ =>
        exact absurd (transition.symm.trans hunknown) (by decide)

theorem voted_step (key : TrackKey) : (hysteresis key).Preserved (Voted key) := by
  intro s w _ h
  by_cases hk : w.event.identityKey = key
  · exact voted_window h hk
  · obtain ⟨ht, hb, hd⟩ := next_of_ne (s := s) hk
    have htr : ∀ transition epoch,
        (s.next key w).transitions transition epoch = s.transitions transition epoch := by
      intro transition epoch
      rw [transitions, transitions, hd]
    show Voted key (s.next key w)
    refine ⟨?_, ?_, ?_, fun epoch => ?_⟩
    · rw [ht, hb]
      exact h.tallied
    · rw [ht, hd]
      exact h.bounded
    · rw [ht, htr]
      exact h.unnamed
    · rw [htr, htr]
      exact h.once epoch

theorem voted_init (hi : (hysteresis key).init s) : s.Voted key := by
  obtain ⟨hnew, hb, hd⟩ := hi
  have htrack : s.service.track key = {} := by rw [LiveIdentityService.track, hnew]; rfl
  have hzero : ∀ transition epoch, s.transitions transition epoch = 0 := by
    intro transition epoch
    rw [transitions, hd]
    rfl
  refine ⟨?_, ?_, ?_, ?_⟩
  · rw [htrack]
    exact TrackIdentity.tallied_new _
  · rw [hd]
    exact fun d hm => absurd hm List.not_mem_nil
  · exact fun _ => hzero _ _
  · intro epoch
    rw [hzero, hzero]
    exact ⟨Nat.zero_le _, Nat.zero_le _⟩

end TrackHistory

/-- The identity of a track is kept with hysteresis, in every run of evidence events: each
window obeys the law, and an epoch names and gives up at most one face. -/
theorem identity_hysteresis (key : TrackKey) {s : TrackHistory} (hi : (hysteresis key).init s)
    (windows : List Window) :
    (hysteresis key).Meets (TrackHistory.Steady key) s windows ∧
      ∀ epoch, ((hysteresis key).run s windows).transitions .known epoch ≤ 1 ∧
        ((hysteresis key).run s windows).transitions .unknown epoch ≤ 1 := by
  have hv : (hysteresis key).Valid s windows := Machine.meets_of_forall fun _ _ => trivial
  have hall := (TrackHistory.voted_step key).always hv (TrackHistory.voted_init hi)
  exact ⟨hv.of_always hall fun s w h _ => TrackHistory.steady_of_voted h, hall.last.once⟩

def votedKey : TrackKey := ⟨"camera", "run", 1, 7⟩

/-- A window of the track that the voter gives to a face. -/
def votedWindow (face : String) (time : Nat) : Window where
  event := ⟨⟨2, .trackEvidence, "session", "camera", "run", 1, 1, 0, "traceparent", none⟩, 7, 1, 0,
    time, [⟨time, [], 1, [], [], 1, 0, []⟩], []⟩
  vote := some ⟨some ⟨⟨face, face, 1⟩, face, 1⟩, some 1⟩
  reference := some [1]

def noHistory : TrackHistory := ⟨⟨⟨0, 0, 0⟩, fun _ => none⟩, [], []⟩

/-- A face, and three ballots in a row for another. -/
theorem identity_hysteresis_replaced :
    ((hysteresis votedKey).run noHistory [votedWindow "a" 1, votedWindow "b" 2,
        votedWindow "b" 3, votedWindow "b" 4]).decisions.map (fun d => d.identityEpoch) =
        [1, 1, 1, 2] ∧
      (hysteresis votedKey).Meets (TrackHistory.Steady votedKey) noHistory
        [votedWindow "a" 1, votedWindow "b" 2, votedWindow "b" 3, votedWindow "b" 4] :=
  ⟨by decide, (identity_hysteresis votedKey ⟨rfl, rfl, rfl⟩ _).1⟩

end Mvision.Live
