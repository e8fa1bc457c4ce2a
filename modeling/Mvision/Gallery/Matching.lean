import Mathlib.Algebra.Order.Ring.Rat
import Mvision.Gallery.Stores

/-!
# Matching an embedding against the gallery

`FaceMatcher.candidates_batch` of `face_matcher.py`.  The search itself is
Qdrant's: it is given the points that pass the filter of the adapter, the
number of answers and the queries.
-/

namespace Mvision.Gallery

open Mvision.Library

/-- A point that a search has found, with the `face_id` of its payload. -/
structure Candidate where
  sampleId : String
  faceId : String
  score : ℚ
deriving DecidableEq, Repr

structure FaceMatch where
  identity : FaceIdentity
  sampleId : String
  score : ℚ
deriving DecidableEq, Repr

/-- `query_batch_points`: points, `top_k` and queries. -/
abbrev Search := List VectorPoint → Nat → List (List ℚ) → List (List Candidate)

/-- A search answers with points it was given. -/
def Search.Sound (search : Search) : Prop :=
  ∀ points topK queries, ∀ group ∈ search points topK queries, ∀ candidate ∈ group,
    ∃ point ∈ points, point.sampleId = candidate.sampleId ∧ point.faceId = candidate.faceId

/-- The models whose vectors are compared. -/
structure ModelVersions where
  modelVersion : String
  preprocessVersion : String
deriving DecidableEq, Repr

namespace Stores

/-- The filter of `search_batch`. -/
def searchable (s : Stores) (versions : ModelVersions) : List VectorPoint :=
  s.vectors.rows.filter fun point =>
    point.active ∧ point.embeddingModelVersion = versions.modelVersion ∧
      point.preprocessVersion = versions.preprocessVersion

/-- The candidates whose identity is not deleted, with their scores in [0, 1]. -/
def matchesOf (s : Stores) (minimumScore : ℚ) (candidates : List Candidate) : List FaceMatch :=
  candidates.filterMap fun candidate =>
    (s.getActiveById candidate.faceId).bind fun identity =>
      let score := min 1 (max 0 candidate.score)
      if minimumScore ≤ score then some ⟨identity, candidate.sampleId, score⟩ else none

/-- `FaceMatcher.candidates_batch` -/
def candidatesBatch (s : Stores) (search : Search) (versions : ModelVersions)
    (embeddings : List (List ℚ)) (minimumScore : ℚ) : List (List FaceMatch) :=
  (search (s.searchable versions) 10 embeddings).map (s.matchesOf minimumScore)

theorem mem_matchesOf {s : Stores} {minimumScore : ℚ} {candidates : List Candidate}
    {found : FaceMatch} (h : found ∈ s.matchesOf minimumScore candidates) :
    ∃ candidate ∈ candidates, s.getActiveById candidate.faceId = some found.identity := by
  obtain ⟨candidate, hmem, hfound⟩ := List.mem_filterMap.mp h
  obtain ⟨identity, hidentity, hscore⟩ := Option.bind_eq_some_iff.mp hfound
  refine ⟨candidate, hmem, ?_⟩
  dsimp only at hscore
  split at hscore
  · cases hscore
    exact hidentity
  · cases hscore

/-- Every candidate has the identity of its face in the stores. -/
theorem mem_candidatesBatch {s : Stores} {search : Search} {versions : ModelVersions}
    {embeddings : List (List ℚ)} {minimumScore : ℚ} {group : List FaceMatch} {found : FaceMatch}
    (hgroup : group ∈ s.candidatesBatch search versions embeddings minimumScore)
    (hfound : found ∈ group) :
    s.identities.get found.identity.faceId = some found.identity := by
  obtain ⟨candidates, -, rfl⟩ := List.mem_map.mp hgroup
  obtain ⟨candidate, -, hidentity⟩ := mem_matchesOf hfound
  obtain ⟨hget, -⟩ := getActiveById_eq_some_iff.mp hidentity
  rw [(Table.get_eq_some_iff.mp hget).2]
  exact hget

/-- Stores with the same vectors, and the same identities of them, give the same candidates. -/
theorem candidatesBatch_congr {s s' : Stores} {search : Search} (hsound : search.Sound)
    (hvectors : s'.vectors = s.vectors)
    (hidentities : ∀ point ∈ s.vectors.rows,
      s'.getActiveById point.faceId = s.getActiveById point.faceId)
    (versions : ModelVersions) (embeddings : List (List ℚ)) (minimumScore : ℚ) :
    s'.candidatesBatch search versions embeddings minimumScore =
      s.candidatesBatch search versions embeddings minimumScore := by
  have hsearchable : s'.searchable versions = s.searchable versions := by
    rw [searchable, hvectors]
    rfl
  unfold candidatesBatch
  rw [hsearchable]
  apply List.map_congr_left
  intro candidates hcandidates
  apply List.filterMap_congr
  intro candidate hcandidate
  obtain ⟨point, hpoint, -, hface⟩ := hsound _ _ _ candidates hcandidates candidate hcandidate
  rw [← hface, hidentities point (List.mem_of_mem_filter hpoint)]

end Stores

end Mvision.Gallery
