import Mathlib.Algebra.Order.Field.Rat
import Mathlib.Data.List.Sort
import Mathlib.Data.Prod.Lex
import Mvision.Gallery.Matching

/-!
# Identity of a track by vote: `VideoIdentityVotingService`

Each template of a track votes for the identities among its candidates.  The
dictionaries keep their order of insertion, which is the order of candidates of
equal rank.  The weight of a template is given by the function `log1p`.
-/

namespace Mvision.Video

open Mvision.Library Mvision.Gallery

structure SourceTrackTemplate where
  embedding : List ℚ
  detectionCount : Nat
deriving DecidableEq, Repr

structure VideoIdentityDecision where
  faceMatch : Option FaceMatch
  score : Option ℚ
deriving DecidableEq, Repr

/-- The settings that the vote reads, and the statuses it lets vote. -/
structure VotingSettings where
  recognitionThreshold : ℚ
  anonymousThreshold : ℚ
  videoTrackVoteCandidateFloor : ℚ
  videoTrackVoteMinCount : Nat
  videoTrackVoteMinMargin : ℚ
  videoTrackVoteMinSupportRatio : ℚ
  eligibleLifecycleStatuses : List LifecycleStatus
deriving DecidableEq, Repr

/-- `_IdentitySupport` -/
structure IdentitySupport where
  identity : FaceIdentity
  votes : Nat := 0
  weight : ℚ := 0
  weightedScore : ℚ := 0
  bestMatch : Option FaceMatch := none
  scores : List ℚ := []
deriving DecidableEq, Repr

def IdentitySupport.meanScore (item : IdentitySupport) : ℚ := item.weightedScore / item.weight

/-- The candidates of one template by the face id of their identity. -/
abbrev BestByIdentity := Table fun found : FaceMatch => found.identity.faceId

abbrev Support := Table fun item : IdentitySupport => item.identity.faceId

namespace VotingSettings

variable (settings : VotingSettings)

/-- The threshold of an identity of this status. -/
def threshold : LifecycleStatus → ℚ
  | .known => settings.recognitionThreshold
  | .anonymous => settings.anonymousThreshold

/-- The candidates that may vote at all. -/
def activeCandidates (candidates : List FaceMatch) : List FaceMatch :=
  candidates.filter fun candidate =>
    candidate.identity.lifecycleStatus ∈ settings.eligibleLifecycleStatuses

/-- One turn of the loop over the candidates of a template. -/
def keepBest (best : BestByIdentity) (candidate : FaceMatch) : BestByIdentity :=
  if candidate.score < min (settings.threshold candidate.identity.lifecycleStatus)
      settings.videoTrackVoteCandidateFloor then best
  else
    match best.get candidate.identity.faceId with
    | none => best.put candidate
    | some current => if current.score < candidate.score then best.put candidate else best

end VotingSettings

/-- One vote for an identity. -/
def IdentitySupport.add (item : IdentitySupport) (candidate : FaceMatch) (weight : ℚ) :
    IdentitySupport where
  identity := item.identity
  votes := item.votes + 1
  weight := item.weight + weight
  weightedScore := item.weightedScore + candidate.score * weight
  scores := item.scores ++ [candidate.score]
  bestMatch :=
    match item.bestMatch with
    | none => some candidate
    | some best => if best.score < candidate.score then some candidate else some best

/-- `support.setdefault(...)` and the vote. -/
def addVote (weight : ℚ) (support : Support) (candidate : FaceMatch) : Support :=
  support.put
    (((support.get candidate.identity.faceId).getD { identity := candidate.identity }).add
      candidate weight)

/-- What the loop over the templates carries. -/
structure Tally where
  support : Support := .empty
  totalWeight : ℚ := 0
  nearestActiveScore : Option ℚ := none

/-- The greater of two scores, of which one may not be there yet. -/
def nearest (score : Option ℚ) (candidates : List FaceMatch) : Option ℚ :=
  candidates.foldl (fun score candidate => some ((score.map (max candidate.score)).getD candidate.score))
    score

namespace VotingSettings

variable (settings : VotingSettings) (log1p : Nat → ℚ)

/-- One turn of the loop over the templates. -/
def tally (s : Tally) (entry : SourceTrackTemplate × List FaceMatch) : Tally :=
  let weight := 1 + log1p entry.1.detectionCount
  let active := settings.activeCandidates entry.2
  { support := (active.foldl settings.keepBest .empty).rows.foldl (addVote weight) s.support
    totalWeight := s.totalWeight + weight
    nearestActiveScore := nearest s.nearestActiveScore active }

/-- The first of the ranking and the mean score of the second. -/
def ranked (support : Support) : List IdentitySupport :=
  support.rows.insertionSort fun a b =>
    toLex (b.meanScore, b.weight) ≤ toLex (a.meanScore, a.weight)

/-- What is decided of the winner. -/
def elect (winner : IdentitySupport) (runnerScore totalWeight : ℚ) (nearest : Option ℚ) :
    VideoIdentityDecision :=
  let strong := ∃ score ∈ winner.scores,
    settings.threshold winner.identity.lifecycleStatus ≤ score
  let consensus := settings.videoTrackVoteMinCount ≤ winner.votes ∧
    settings.videoTrackVoteMinSupportRatio ≤ winner.weight / totalWeight
  if ¬ (strong ∨ consensus) then ⟨none, nearest⟩
  else if winner.meanScore - runnerScore < settings.videoTrackVoteMinMargin then
    ⟨none, some winner.meanScore⟩
  else
    let score := min 1 (max 0 winner.meanScore)
    ⟨winner.bestMatch.map fun best => ⟨winner.identity, best.sampleId, score⟩, some score⟩

/-- `VideoIdentityVotingService.resolve`, given the candidates of each template. -/
def resolve (templates : List SourceTrackTemplate) (groups : List (List FaceMatch)) :
    VideoIdentityDecision :=
  let s := (templates.zip groups).foldl (settings.tally log1p) {}
  match ranked s.support with
  | [] => ⟨none, s.nearestActiveScore⟩
  | winner :: rest =>
      settings.elect winner ((rest.head?.map (·.meanScore)).getD 0) s.totalWeight
        s.nearestActiveScore

/-! ## Whoever is elected was a candidate -/

/-- Every identity with support is the identity of a candidate of some template. -/
def FromCandidates (groups : List (List FaceMatch)) (support : Support) : Prop :=
  ∀ item ∈ support.rows, ∃ group ∈ groups, ∃ candidate ∈ group, candidate.identity = item.identity

theorem mem_of_keepBest {candidates : List FaceMatch} {best : BestByIdentity} {found : FaceMatch}
    (h : found ∈ (candidates.foldl settings.keepBest best).rows) :
    found ∈ candidates ∨ found ∈ best.rows := by
  induction candidates generalizing best with
  | nil => exact .inr h
  | cons first rest ih =>
      rw [List.foldl_cons] at h
      rcases ih h with hrest | hbest
      · exact .inl (List.mem_cons_of_mem _ hrest)
      · -- the turn of `first` keeps what was there or puts `first` there
        have hput : found ∈ best.rows ∨ found ∈ (best.put first).rows := by
          unfold keepBest at hbest
          split at hbest
          · exact .inl hbest
          · split at hbest
            · exact .inr hbest
            · split at hbest
              · exact .inr hbest
              · exact .inl hbest
        rcases hput with hold | hnew
        · exact .inr hold
        · rcases Table.mem_put hnew with rfl | ⟨hold, -⟩
          · exact .inl List.mem_cons_self
          · exact .inr hold

theorem addVote_from {groups : List (List FaceMatch)} {support : Support} {weight : ℚ}
    {candidate : FaceMatch} (h : FromCandidates groups support)
    (hcandidate : ∃ group ∈ groups, candidate ∈ group) :
    FromCandidates groups (addVote weight support candidate) := by
  intro item hitem
  rcases Table.mem_put hitem with rfl | ⟨hold, -⟩
  · cases hget : support.get candidate.identity.faceId with
    | none =>
        obtain ⟨group, hgroup, hmem⟩ := hcandidate
        exact ⟨group, hgroup, candidate, hmem, rfl⟩
    | some old => exact h old (Table.get_eq_some_iff.mp hget).1
  · exact h item hold

theorem tally_from {groups : List (List FaceMatch)} {s : Tally}
    {entry : SourceTrackTemplate × List FaceMatch} (h : FromCandidates groups s.support)
    (hentry : entry.2 ∈ groups) : FromCandidates groups (settings.tally log1p s entry).support := by
  have hvotes : ∀ candidate ∈ ((settings.activeCandidates entry.2).foldl settings.keepBest
      .empty).rows, ∃ group ∈ groups, candidate ∈ group := by
    intro candidate hcandidate
    rcases mem_of_keepBest settings hcandidate with hactive | hnone
    · exact ⟨entry.2, hentry, List.mem_of_mem_filter hactive⟩
    · cases hnone
  show FromCandidates groups (List.foldl _ s.support _)
  generalize ((settings.activeCandidates entry.2).foldl settings.keepBest .empty).rows = votes
    at hvotes
  generalize s.support = support at h
  induction votes generalizing support with
  | nil => exact h
  | cons vote votes ih =>
      rw [List.foldl_cons]
      apply ih
      · exact fun candidate hcandidate => hvotes candidate (List.mem_cons_of_mem _ hcandidate)
      · exact addVote_from h (hvotes vote List.mem_cons_self)

theorem tally_all_from {groups : List (List FaceMatch)}
    {entries : List (SourceTrackTemplate × List FaceMatch)} {s : Tally}
    (h : FromCandidates groups s.support) (hentries : ∀ entry ∈ entries, entry.2 ∈ groups) :
    FromCandidates groups (entries.foldl (settings.tally log1p) s).support := by
  induction entries generalizing s with
  | nil => exact h
  | cons entry entries ih =>
      rw [List.foldl_cons]
      apply ih
      · exact tally_from settings log1p h (hentries entry List.mem_cons_self)
      · exact fun other hother => hentries other (List.mem_cons_of_mem _ hother)

/-- The vote elects the identity of a candidate. -/
theorem resolve_from {templates : List SourceTrackTemplate} {groups : List (List FaceMatch)}
    {found : FaceMatch} (h : (settings.resolve log1p templates groups).faceMatch = some found) :
    ∃ group ∈ groups, ∃ candidate ∈ group, candidate.identity = found.identity := by
  have hfrom : FromCandidates groups
      ((templates.zip groups).foldl (settings.tally log1p) {}).support := by
    apply tally_all_from
    · intro item hitem
      cases hitem
    · intro entry hentry
      exact (List.of_mem_zip hentry).2
  unfold resolve at h
  dsimp only at h
  split at h
  · cases h
  · rename_i winner rest hranked
    have hwinner : winner ∈ ((templates.zip groups).foldl (settings.tally log1p) {}).support.rows := by
      rw [← List.mem_insertionSort fun a b : IdentitySupport =>
        toLex (b.meanScore, b.weight) ≤ toLex (a.meanScore, a.weight)]
      show winner ∈ ranked _
      rw [hranked]
      exact List.mem_cons_self
    unfold VotingSettings.elect at h
    dsimp only at h
    split at h
    · cases h
    · split at h
      · cases h
      · obtain ⟨best, -, rfl⟩ := Option.map_eq_some_iff.mp h
        exact hfrom winner hwinner

end VotingSettings

end Mvision.Video
