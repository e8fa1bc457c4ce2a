import Mathlib.Algebra.Order.BigOperators.Group.List
import Mathlib.Tactic.Linarith
import Mvision.Video.Voting

/-!
# Who is elected

`resolve` elects the identity with the best mean of ballots, if it is good enough and far enough
ahead.  Its tables keep an order, and the order of the templates decides it; the ballots of an
identity only get permuted.
-/

namespace Mvision.Video

open Mvision.Library Mvision.Gallery

/-- The vote of a template for an identity. -/
structure Ballot where
  score : ℚ
  weight : ℚ
deriving DecidableEq, Repr

/-- A template and its candidates. -/
abbrev Entry := SourceTrackTemplate × List FaceMatch

namespace VotingSettings

variable (settings : VotingSettings) (log1p : Nat → ℚ)

/-! ## Ballots -/

/-- A candidate counts as a vote for the identity. -/
def VotesFor (faceId : String) (candidate : FaceMatch) : Prop :=
  candidate.identity.faceId = faceId ∧
    min (settings.threshold candidate.identity.lifecycleStatus)
      settings.videoTrackVoteCandidateFloor ≤ candidate.score

instance votesForDecidable (faceId : String) : DecidablePred (settings.VotesFor faceId) :=
  fun _ => inferInstanceAs (Decidable (_ ∧ _))

/-- The scores with which these candidates vote for an identity. -/
def voteScores (faceId : String) (candidates : List FaceMatch) : List ℚ :=
  (candidates.filter (settings.VotesFor faceId)).map (·.score)

/-- A template has one vote for an identity, the best of its scores. -/
def ballot (faceId : String) (entry : Entry) : Option Ballot :=
  (settings.voteScores faceId (settings.activeCandidates entry.2)).max?.map fun score =>
    ⟨score, 1 + log1p entry.1.detectionCount⟩

def ballots (entries : List Entry) (faceId : String) : List Ballot :=
  entries.filterMap (settings.ballot log1p faceId)

end VotingSettings

def totalOf (ballots : List Ballot) : ℚ := (ballots.map (·.weight)).sum

/-- The weighted mean of the scores. -/
def meanOf (ballots : List Ballot) : ℚ :=
  (ballots.map fun ballot => ballot.score * ballot.weight).sum / totalOf ballots

namespace VotingSettings

variable (settings : VotingSettings) (log1p : Nat → ℚ)

/-- The weight of all templates. -/
def totalWeight (entries : List Entry) : ℚ :=
  (entries.map fun entry => 1 + log1p entry.1.detectionCount).sum

/-- The identity is that of a candidate that may vote. -/
def Eligible (entries : List Entry) (identity : FaceIdentity) : Prop :=
  ∃ entry ∈ entries, ∃ candidate ∈ settings.activeCandidates entry.2,
    candidate.identity = identity

/-- What it takes to be elected. -/
structure Elected (entries : List Entry) (identity : FaceIdentity) : Prop where
  eligible : settings.Eligible entries identity
  supported : settings.ballots log1p entries identity.faceId ≠ []
  accepted :
    (∃ ballot ∈ settings.ballots log1p entries identity.faceId,
      settings.threshold identity.lifecycleStatus ≤ ballot.score) ∨
    (settings.videoTrackVoteMinCount ≤ (settings.ballots log1p entries identity.faceId).length ∧
      settings.videoTrackVoteMinSupportRatio ≤
        totalOf (settings.ballots log1p entries identity.faceId) / totalWeight log1p entries)
  ahead : ∀ other, other ≠ identity.faceId → settings.ballots log1p entries other ≠ [] →
    meanOf (settings.ballots log1p entries other) + settings.videoTrackVoteMinMargin ≤
      meanOf (settings.ballots log1p entries identity.faceId)
  aheadOfNobody : settings.videoTrackVoteMinMargin ≤
    meanOf (settings.ballots log1p entries identity.faceId)

/-! ## The best candidate of a template -/

theorem max?_cons_cons (a b : ℚ) (rest : List ℚ) :
    (a :: b :: rest).max? = (max a b :: rest).max? := by
  rw [List.max?_cons', List.max?_cons', List.foldl_cons]

theorem voteScores_cons (faceId : String) (candidate : FaceMatch) (rest : List FaceMatch) :
    settings.voteScores faceId (candidate :: rest) =
      if settings.VotesFor faceId candidate then
        candidate.score :: settings.voteScores faceId rest
      else settings.voteScores faceId rest := by
  unfold voteScores
  rw [List.filter_cons]
  by_cases hvotes : settings.VotesFor faceId candidate
  · rw [if_pos (decide_eq_true hvotes), if_pos hvotes, List.map_cons]
  · rw [if_neg hvotes, decide_eq_false hvotes, if_neg Bool.false_ne_true]

/-- A turn of the loop keeps the greater score for the identity of the candidate. -/
theorem get_keepBest_cases (best : BestByIdentity) (candidate : FaceMatch) (faceId : String) :
    (settings.VotesFor faceId candidate ∧
        ((settings.keepBest best candidate).get faceId).map (·.score) =
          some (((best.get faceId).map fun old => max old.score candidate.score).getD
            candidate.score)) ∨
      (¬ settings.VotesFor faceId candidate ∧
        (settings.keepBest best candidate).get faceId = best.get faceId) := by
  by_cases hlow : candidate.score < min (settings.threshold candidate.identity.lifecycleStatus)
      settings.videoTrackVoteCandidateFloor
  · exact .inr ⟨fun h => not_le.mpr hlow h.2, by rw [keepBest, if_pos hlow]⟩
  · rw [keepBest, if_neg hlow]
    by_cases hface : candidate.identity.faceId = faceId
    · subst hface
      refine .inl ⟨⟨rfl, not_lt.mp hlow⟩, ?_⟩
      have hput : (best.put candidate).get candidate.identity.faceId = some candidate :=
        Table.get_put_self best candidate
      cases hget : best.get candidate.identity.faceId with
      | none =>
          dsimp only
          rw [hput]
          rfl
      | some old =>
          dsimp only
          split
          · rename_i hgreater
            rw [hput, Option.map_some, Option.map_some, Option.getD_some,
              max_eq_right hgreater.le]
          · rename_i hnot
            rw [hget, Option.map_some, Option.map_some, Option.getD_some,
              max_eq_left (not_lt.mp hnot)]
    · have hother : (best.put candidate).get faceId = best.get faceId :=
        Table.get_put_of_ne (Ne.symm hface)
      refine .inr ⟨fun h => hface h.1, ?_⟩
      split
      · exact hother
      · split
        · exact hother
        · rfl

/-- The loop over the candidates of a template keeps the greatest score for each identity. -/
theorem get_keepBest_all (candidates : List FaceMatch) (best : BestByIdentity) (faceId : String) :
    ((candidates.foldl settings.keepBest best).get faceId).map (·.score) =
      (((best.get faceId).map (·.score)).toList ++
        settings.voteScores faceId candidates).max? := by
  induction candidates generalizing best with
  | nil =>
      cases hget : best.get faceId with
      | none => rw [List.foldl_nil, hget]; rfl
      | some found => rw [List.foldl_nil, hget]; rfl
  | cons candidate rest ih =>
      rw [List.foldl_cons, ih]
      rcases get_keepBest_cases settings best candidate faceId with ⟨hvotes, hget⟩ | ⟨hno, hget⟩
      · rw [hget, voteScores_cons, if_pos hvotes]
        cases best.get faceId with
        | none => rfl
        | some old => exact (max?_cons_cons _ _ _).symm
      · rw [hget, voteScores_cons, if_neg hno]

/-! ## Votes -/

theorem key_getD {support : Support} {candidate : FaceMatch} :
    (((support.get candidate.identity.faceId).getD { identity := candidate.identity })).identity.faceId =
      candidate.identity.faceId := by
  cases hget : support.get candidate.identity.faceId with
  | none => rfl
  | some item => exact (Table.get_eq_some_iff.mp hget).2

theorem get_addVote (weight : ℚ) (support : Support) (candidate : FaceMatch) (faceId : String) :
    (addVote weight support candidate).get faceId =
      if candidate.identity.faceId = faceId then
        some (((support.get faceId).getD { identity := candidate.identity }).add candidate weight)
      else support.get faceId := by
  let item := ((support.get candidate.identity.faceId).getD
    { identity := candidate.identity }).add candidate weight
  have hkey : item.identity.faceId = candidate.identity.faceId := key_getD
  show (support.put item).get faceId = _
  split
  · rename_i hface
    subst hface
    have hput := Table.get_put_self support item
    rw [hkey] at hput
    exact hput
  · rename_i hface
    exact Table.get_put_of_ne fun he => hface (hkey.symm.trans he.symm)

/-- The votes of one template: one at most for each identity. -/
theorem get_addVotes (weight : ℚ) (best : BestByIdentity) (support : Support) (faceId : String) :
    (best.rows.foldl (addVote weight) support).get faceId =
      match best.get faceId with
      | none => support.get faceId
      | some candidate =>
          some (((support.get faceId).getD { identity := candidate.identity }).add candidate
            weight) := by
  have hnodup := best.nodup
  show _ = match best.rows.find? (fun candidate => candidate.identity.faceId = faceId) with
    | none => support.get faceId
    | some candidate => _
  generalize best.rows = rows at hnodup
  induction rows generalizing support with
  | nil => rfl
  | cons candidate rows ih =>
      rw [List.map_cons, List.nodup_cons] at hnodup
      rw [List.foldl_cons, ih _ hnodup.2, get_addVote, List.find?_cons]
      by_cases hface : candidate.identity.faceId = faceId
      · -- no later row has the key
        have hnone : rows.find? (fun candidate => candidate.identity.faceId = faceId) = none := by
          rw [List.find?_eq_none]
          intro other hother
          rw [decide_eq_true_eq]
          intro he
          exact hnodup.1 (List.mem_map.mpr ⟨other, hother, he.trans hface.symm⟩)
        rw [hnone, if_pos hface, decide_eq_true hface]
      · rw [if_neg hface, decide_eq_false hface]

/-! ## The tally -/

/-- The support of an identity is what its ballots add up to. -/
def Backs (entries : List Entry) (ballots : List Ballot) : Option IdentitySupport → Prop
  | none => ballots = []
  | some item =>
      ballots ≠ [] ∧ item.votes = ballots.length ∧ item.weight = totalOf ballots ∧
        item.weightedScore = (ballots.map fun ballot => ballot.score * ballot.weight).sum ∧
        item.scores = ballots.map (·.score) ∧ item.bestMatch.isSome ∧
        settings.Eligible entries item.identity

theorem isSome_add (item : IdentitySupport) (candidate : FaceMatch) (weight : ℚ) :
    (item.add candidate weight).bestMatch.isSome := by
  unfold IdentitySupport.add
  dsimp only
  split
  · rfl
  · split <;> rfl

theorem totalOf_append (front back : List Ballot) :
    totalOf (front ++ back) = totalOf front + totalOf back := by
  rw [totalOf, List.map_append, List.sum_append, totalOf, totalOf]

/-- One vote more. -/
theorem backs_add {entries : List Entry} {ballots : List Ballot} {support : Option IdentitySupport}
    (h : settings.Backs entries ballots support) {candidate : FaceMatch}
    (heligible : settings.Eligible entries candidate.identity) (weight : ℚ) :
    settings.Backs entries (ballots ++ [⟨candidate.score, weight⟩])
      (some ((support.getD { identity := candidate.identity }).add candidate weight)) := by
  have hsome := isSome_add (support.getD { identity := candidate.identity }) candidate weight
  cases support with
  | none =>
      obtain rfl : ballots = [] := h
      exact ⟨by simp, rfl, by simp [IdentitySupport.add, totalOf],
        by simp [IdentitySupport.add], rfl, hsome, heligible⟩
  | some item =>
      obtain ⟨-, hvotes, hweight, hscore, hscores, -, hitem⟩ := h
      refine ⟨by simp, ?_, ?_, ?_, ?_, hsome, hitem⟩
      · show item.votes + 1 = _
        rw [hvotes, List.length_append, List.length_singleton]
      · show item.weight + weight = _
        rw [hweight, totalOf_append, totalOf, totalOf, List.map_singleton, List.sum_singleton]
      · show item.weightedScore + candidate.score * weight = _
        rw [hscore, List.map_append, List.sum_append, List.map_singleton, List.sum_singleton]
      · show item.scores ++ [candidate.score] = _
        rw [hscores, List.map_append, List.map_singleton]

theorem ballots_append_singleton (entries : List Entry) (entry : Entry) (faceId : String) :
    settings.ballots log1p (entries ++ [entry]) faceId =
      settings.ballots log1p entries faceId ++ (settings.ballot log1p faceId entry).toList := by
  rw [ballots, List.filterMap_append, ballots]
  congr 1

/-- The best candidate of a template casts its ballot. -/
theorem ballot_eq_map (entry : Entry) (faceId : String) :
    settings.ballot log1p faceId entry =
      (((settings.activeCandidates entry.2).foldl settings.keepBest .empty).get faceId).map
        fun found => ⟨found.score, 1 + log1p entry.1.detectionCount⟩ := by
  have hbest := get_keepBest_all settings (settings.activeCandidates entry.2) .empty faceId
  have hempty : (Table.empty : BestByIdentity).get faceId = none := rfl
  rw [hempty, Option.map_none, Option.toList_none, List.nil_append] at hbest
  rw [ballot, ← hbest, Option.map_map]
  rfl

/-- One turn of the loop over the templates. -/
theorem backs_tally {entries done : List Entry} {s : Tally} {entry : Entry}
    (hentry : entry ∈ entries) (faceId : String)
    (h : settings.Backs entries (settings.ballots log1p done faceId) (s.support.get faceId)) :
    settings.Backs entries (settings.ballots log1p (done ++ [entry]) faceId)
      ((settings.tally log1p s entry).support.get faceId) := by
  have hget := get_addVotes (1 + log1p entry.1.detectionCount)
    ((settings.activeCandidates entry.2).foldl settings.keepBest .empty) s.support faceId
  have hsupport : (settings.tally log1p s entry).support.get faceId = _ := hget
  rw [hsupport, ballots_append_singleton, ballot_eq_map]
  cases hbest : ((settings.activeCandidates entry.2).foldl settings.keepBest .empty).get faceId with
  | none =>
      rw [Option.map_none, Option.toList_none, List.append_nil]
      exact h
  | some candidate =>
      have hmem := (Table.get_eq_some_iff.mp hbest).1
      have hactive : candidate ∈ settings.activeCandidates entry.2 := by
        rcases mem_of_keepBest settings hmem with hactive | hnone
        · exact hactive
        · cases hnone
      rw [Option.map_some, Option.toList_some]
      exact backs_add settings h ⟨entry, hentry, candidate, hactive, rfl⟩ _

/-- The run over all templates. -/
theorem backs_tally_all {entries : List Entry} (rest : List Entry) {done : List Entry} {s : Tally}
    (hrest : ∀ entry ∈ rest, entry ∈ entries) (faceId : String)
    (h : settings.Backs entries (settings.ballots log1p done faceId) (s.support.get faceId)) :
    settings.Backs entries (settings.ballots log1p (done ++ rest) faceId)
      ((rest.foldl (settings.tally log1p) s).support.get faceId) := by
  induction rest generalizing done s with
  | nil =>
      rw [List.append_nil]
      exact h
  | cons entry rest ih =>
      rw [List.forall_mem_cons] at hrest
      have hstep := ih hrest.2 (backs_tally settings log1p hrest.1 faceId h)
      rw [List.append_assoc, List.singleton_append] at hstep
      exact hstep

theorem totalWeight_tally_all (entries : List Entry) (s : Tally) :
    (entries.foldl (settings.tally log1p) s).totalWeight =
      s.totalWeight + totalWeight log1p entries := by
  induction entries generalizing s with
  | nil => exact (add_zero _).symm
  | cons entry entries ih =>
      rw [List.foldl_cons, ih, totalWeight, totalWeight, List.map_cons, List.sum_cons]
      exact add_assoc _ _ _

/-! ## The ranking -/

theorem perm_ranked (support : Support) : (ranked support).Perm support.rows :=
  List.perm_insertionSort _ _

/-- Nobody behind in the ranking has a greater mean. -/
theorem pairwise_ranked (support : Support) :
    (ranked support).Pairwise fun a b => b.meanScore ≤ a.meanScore := by
  have htotal : Std.Total fun a b : IdentitySupport =>
      toLex (b.meanScore, b.weight) ≤ toLex (a.meanScore, a.weight) :=
    ⟨fun a b => le_total _ _⟩
  have htrans : IsTrans IdentitySupport fun a b =>
      toLex (b.meanScore, b.weight) ≤ toLex (a.meanScore, a.weight) :=
    ⟨fun _ _ _ hab hbc => le_trans hbc hab⟩
  apply (List.pairwise_insertionSort (fun a b : IdentitySupport =>
    toLex (b.meanScore, b.weight) ≤ toLex (a.meanScore, a.weight)) support.rows).imp
  intro a b hle
  rcases Prod.Lex.toLex_le_toLex.mp hle with hlt | ⟨heq, -⟩
  · exact hlt.le
  · exact heq.le

/-- What the tally holds for an identity, when all templates have voted. -/
theorem backs_resolved (entries : List Entry) (faceId : String) :
    settings.Backs entries (settings.ballots log1p entries faceId)
      ((entries.foldl (settings.tally log1p) {}).support.get faceId) := by
  have hstart : settings.Backs entries (settings.ballots log1p [] faceId)
      (({} : Tally).support.get faceId) := rfl
  exact backs_tally_all settings log1p entries (fun _ h => h) faceId hstart

theorem backs_of_mem {entries : List Entry} {item : IdentitySupport}
    (h : item ∈ (entries.foldl (settings.tally log1p) {}).support.rows) :
    settings.Backs entries (settings.ballots log1p entries item.identity.faceId) (some item) := by
  have hbacks := backs_resolved settings log1p entries item.identity.faceId
  rw [Table.get_eq_some_iff.mpr ⟨h, rfl⟩] at hbacks
  exact hbacks

theorem exists_mem_of_ballots {entries : List Entry} {faceId : String}
    (h : settings.ballots log1p entries faceId ≠ []) :
    ∃ item ∈ (entries.foldl (settings.tally log1p) {}).support.rows,
      item.identity.faceId = faceId := by
  have hbacks := backs_resolved settings log1p entries faceId
  cases hget : (entries.foldl (settings.tally log1p) {}).support.get faceId with
  | none =>
      rw [hget] at hbacks
      exact absurd hbacks h
  | some item => exact ⟨item, Table.get_eq_some_iff.mp hget⟩

theorem meanScore_of_mem {entries : List Entry} {item : IdentitySupport}
    (h : item ∈ (entries.foldl (settings.tally log1p) {}).support.rows) :
    item.meanScore = meanOf (settings.ballots log1p entries item.identity.faceId) := by
  obtain ⟨-, -, hweight, hscore, -⟩ := backs_of_mem settings log1p h
  rw [IdentitySupport.meanScore, hweight, hscore, meanOf]

/-! ## The election -/

/-- The score of a match. -/
def clamped (score : ℚ) : ℚ := min 1 (max 0 score)

theorem elect_eq_some_iff {winner : IdentitySupport} {runnerScore total : ℚ} {nearest : Option ℚ}
    (hbest : winner.bestMatch.isSome) {found : FaceIdentity × ℚ} :
    (settings.elect winner runnerScore total nearest).faceMatch.map
        (fun item => (item.identity, item.score)) = some found ↔
      ((∃ score ∈ winner.scores, settings.threshold winner.identity.lifecycleStatus ≤ score) ∨
        (settings.videoTrackVoteMinCount ≤ winner.votes ∧
          settings.videoTrackVoteMinSupportRatio ≤ winner.weight / total)) ∧
      settings.videoTrackVoteMinMargin ≤ winner.meanScore - runnerScore ∧
      found = (winner.identity, clamped winner.meanScore) := by
  obtain ⟨best, hbest⟩ := Option.isSome_iff_exists.mp hbest
  unfold elect
  dsimp only
  split
  · rename_i hno
    refine iff_of_false (by simp) ?_
    rintro ⟨hyes, -⟩
    exact hno hyes
  · rename_i hyes
    rw [not_not] at hyes
    split
    · rename_i hclose
      refine iff_of_false (by simp) ?_
      rintro ⟨-, hfar, -⟩
      exact not_lt.mpr hfar hclose
    · rename_i hfar
      rw [hbest, Option.map_some, Option.map_some, Option.some_inj, and_iff_right hyes,
        and_iff_right (not_lt.mp hfar)]
      exact eq_comm

/-- Candidates with one face id have one identity. -/
def OneIdentityPerFace (entries : List Entry) : Prop :=
  ∀ a b, settings.Eligible entries a → settings.Eligible entries b → a.faceId = b.faceId → a = b

section Election

variable {entries : List Entry}

theorem zip_entries (entries : List Entry) :
    (entries.map Prod.fst).zip (entries.map Prod.snd) = entries :=
  (List.zip_of_prod rfl rfl).symm

/-- Whoever is not the winner has at most the score of the runner. -/
theorem meanScore_le_runner {winner : IdentitySupport} {rest : List IdentitySupport}
    {support : Support} (hranked : ranked support = winner :: rest) {item : IdentitySupport}
    (hitem : item ∈ rest) : item.meanScore ≤ (rest.head?.map (·.meanScore)).getD 0 := by
  have hpairs := pairwise_ranked support
  rw [hranked] at hpairs
  cases rest with
  | nil => cases hitem
  | cons runner rest =>
      have hrest := (List.pairwise_cons.mp (List.pairwise_cons.mp hpairs).2).1
      rcases List.mem_cons.mp hitem with rfl | hmem
      · exact le_rfl
      · exact hrest item hmem

theorem meanOf_nonneg {ballots : List Ballot}
    (h : ∀ ballot ∈ ballots, 0 ≤ ballot.score ∧ 0 < ballot.weight) : 0 ≤ meanOf ballots := by
  apply div_nonneg
  · apply List.sum_nonneg
    intro product hproduct
    obtain ⟨ballot, hballot, rfl⟩ := List.mem_map.mp hproduct
    exact mul_nonneg (h ballot hballot).1 (h ballot hballot).2.le
  · apply List.sum_nonneg
    intro weight hweight
    obtain ⟨ballot, hballot, rfl⟩ := List.mem_map.mp hweight
    exact (h ballot hballot).2.le

/-- The score of a ballot is that of a candidate. -/
theorem of_mem_ballots {faceId : String} {vote : Ballot}
    (h : vote ∈ settings.ballots log1p entries faceId) :
    ∃ entry ∈ entries, vote.weight = 1 + log1p entry.1.detectionCount ∧
      ∃ candidate ∈ entry.2, candidate.score = vote.score := by
  obtain ⟨entry, hentry, hvote⟩ := List.mem_filterMap.mp h
  obtain ⟨score, hmax, rfl⟩ := Option.map_eq_some_iff.mp hvote
  obtain ⟨candidate, hcandidate, hscore⟩ := List.mem_map.mp (List.max?_mem hmax)
  exact ⟨entry, hentry, rfl, candidate,
    List.mem_of_mem_filter (List.mem_of_mem_filter hcandidate), hscore⟩

theorem mean_nonneg (hweights : ∀ count, 0 < 1 + log1p count)
    (hscores : ∀ entry ∈ entries, ∀ candidate ∈ entry.2, 0 ≤ candidate.score) (faceId : String) :
    0 ≤ meanOf (settings.ballots log1p entries faceId) := by
  apply meanOf_nonneg
  intro vote hvote
  obtain ⟨entry, hentry, hweight, candidate, hcandidate, hscore⟩ :=
    of_mem_ballots settings log1p hvote
  rw [← hscore, hweight]
  exact ⟨hscores entry hentry candidate hcandidate, hweights _⟩

/-- The winner of the ranking is elected if it is good enough and far enough ahead. -/
theorem elected_of_winner (hweights : ∀ count, 0 < 1 + log1p count)
    (hscores : ∀ entry ∈ entries, ∀ candidate ∈ entry.2, 0 ≤ candidate.score)
    {winner : IdentitySupport} {rest : List IdentitySupport}
    (hranked : ranked (entries.foldl (settings.tally log1p) {}).support = winner :: rest)
    (haccepted : (∃ score ∈ winner.scores,
        settings.threshold winner.identity.lifecycleStatus ≤ score) ∨
      (settings.videoTrackVoteMinCount ≤ winner.votes ∧
        settings.videoTrackVoteMinSupportRatio ≤ winner.weight / totalWeight log1p entries))
    (hmargin : settings.videoTrackVoteMinMargin ≤
      winner.meanScore - (rest.head?.map (·.meanScore)).getD 0) :
    settings.Elected log1p entries winner.identity := by
  have hrows : ∀ item, item ∈ winner :: rest ↔
      item ∈ (entries.foldl (settings.tally log1p) {}).support.rows := by
    intro item
    rw [← hranked, (perm_ranked _).mem_iff]
  have hwinner := (hrows winner).mp List.mem_cons_self
  obtain ⟨hsupported, hvotes, hweight, -, hitems, -, heligible⟩ :=
    backs_of_mem settings log1p hwinner
  have hmean := meanScore_of_mem settings log1p hwinner
  refine ⟨heligible, hsupported, ?_, ?_, ?_⟩
  · rcases haccepted with ⟨score, hscore, hstrong⟩ | ⟨hcount, hratio⟩
    · rw [hitems] at hscore
      obtain ⟨vote, hvote, rfl⟩ := List.mem_map.mp hscore
      exact .inl ⟨vote, hvote, hstrong⟩
    · exact .inr ⟨hvotes ▸ hcount, hweight ▸ hratio⟩
  · intro other hother hballots
    obtain ⟨item, hitem, rfl⟩ := exists_mem_of_ballots settings log1p hballots
    have hrest : item ∈ rest := by
      rcases List.mem_cons.mp ((hrows item).mpr hitem) with rfl | hrest
      · exact absurd rfl hother
      · exact hrest
    have hle := meanScore_le_runner hranked hrest
    rw [← hmean, ← meanScore_of_mem settings log1p hitem]
    linarith
  · rw [← hmean]
    -- without a runner the margin is one over zero, and no runner has a mean below zero
    have hrunner : 0 ≤ (rest.head?.map (·.meanScore)).getD 0 := by
      cases rest with
      | nil => exact le_rfl
      | cons runner rest =>
          have hmem := (hrows runner).mp (List.mem_cons_of_mem _ List.mem_cons_self)
          show 0 ≤ runner.meanScore
          rw [meanScore_of_mem settings log1p hmem]
          exact mean_nonneg settings log1p hweights hscores _
    linarith

/-- Whoever is elected is the winner of the ranking, far enough ahead. -/
theorem winner_of_elected (hpositive : 0 < settings.videoTrackVoteMinMargin)
    (hone : settings.OneIdentityPerFace entries) {identity : FaceIdentity}
    (h : settings.Elected log1p entries identity) :
    ∃ winner rest,
      ranked (entries.foldl (settings.tally log1p) {}).support = winner :: rest ∧
      winner.identity = identity ∧
      settings.videoTrackVoteMinMargin ≤
        winner.meanScore - (rest.head?.map (·.meanScore)).getD 0 := by
  obtain ⟨item, hitem, hface⟩ := exists_mem_of_ballots settings log1p h.supported
  cases hranked : ranked (entries.foldl (settings.tally log1p) {}).support with
  | nil =>
      have hmem := (perm_ranked _).mem_iff.mpr hitem
      rw [hranked] at hmem
      cases hmem
  | cons winner rest =>
      have hrows : ∀ item, item ∈ winner :: rest ↔
          item ∈ (entries.foldl (settings.tally log1p) {}).support.rows := by
        intro item
        rw [← hranked, (perm_ranked _).mem_iff]
      have hwinner := (hrows winner).mp List.mem_cons_self
      have hmean := meanScore_of_mem settings log1p hwinner
      obtain ⟨hsupported, -, -, -, -, -, heligible⟩ := backs_of_mem settings log1p hwinner
      have hsame : winner.identity.faceId = identity.faceId := by
        by_contra hother
        have hahead := h.ahead _ hother hsupported
        have hrest : item ∈ rest := by
          rcases List.mem_cons.mp ((hrows item).mpr hitem) with rfl | hrest
          · exact absurd hface hother
          · exact hrest
        have hpairs := pairwise_ranked (entries.foldl (settings.tally log1p) {}).support
        rw [hranked] at hpairs
        have hle := (List.pairwise_cons.mp hpairs).1 item hrest
        rw [hmean, meanScore_of_mem settings log1p hitem, hface] at hle
        linarith
      refine ⟨winner, rest, rfl, hone _ _ heligible h.eligible hsame, ?_⟩
      rw [hmean, hsame]
      cases rest with
      | nil =>
          have hover := h.aheadOfNobody
          show _ ≤ _ - (0 : ℚ)
          linarith
      | cons runner rest =>
          have hmem := (hrows runner).mp (List.mem_cons_of_mem _ List.mem_cons_self)
          have hnodup : ((winner :: runner :: rest).map (·.identity.faceId)).Nodup := by
            rw [← hranked]
            exact ((perm_ranked _).map _).nodup_iff.mpr
              (entries.foldl (settings.tally log1p) {}).support.nodup
          rw [List.map_cons, List.map_cons, List.nodup_cons] at hnodup
          have hother : runner.identity.faceId ≠ identity.faceId := by
            intro he
            exact hnodup.1 (List.mem_cons.mpr (.inl (hsame.trans he.symm)))
          have hahead := h.ahead _ hother (backs_of_mem settings log1p hmem).1
          show _ ≤ _ - runner.meanScore
          rw [meanScore_of_mem settings log1p hmem]
          linarith

/-- What `resolve` answers, without its tables. -/
theorem resolve_eq_some_iff (hweights : ∀ count, 0 < 1 + log1p count)
    (hscores : ∀ entry ∈ entries, ∀ candidate ∈ entry.2, 0 ≤ candidate.score)
    (hpositive : 0 < settings.videoTrackVoteMinMargin)
    (hone : settings.OneIdentityPerFace entries) (found : FaceIdentity × ℚ) :
    (settings.resolve log1p (entries.map Prod.fst) (entries.map Prod.snd)).faceMatch.map
        (fun item => (item.identity, item.score)) = some found ↔
      settings.Elected log1p entries found.1 ∧
        found.2 = clamped (meanOf (settings.ballots log1p entries found.1.faceId)) := by
  have htotal : (entries.foldl (settings.tally log1p) {}).totalWeight =
      totalWeight log1p entries :=
    (totalWeight_tally_all settings log1p entries {}).trans (zero_add _)
  unfold resolve
  dsimp only
  rw [zip_entries, htotal]
  constructor
  · intro h
    split at h
    · cases h
    · rename_i winner rest hranked
      have hmem : winner ∈ (entries.foldl (settings.tally log1p) {}).support.rows := by
        rw [← (perm_ranked _).mem_iff, hranked]
        exact List.mem_cons_self
      obtain ⟨-, -, -, -, -, hbest, -⟩ := backs_of_mem settings log1p hmem
      obtain ⟨haccepted, hmargin, rfl⟩ := (elect_eq_some_iff settings hbest).mp h
      rw [meanScore_of_mem settings log1p hmem]
      exact ⟨elected_of_winner settings log1p hweights hscores hranked haccepted hmargin, rfl⟩
  · rintro ⟨h, hscore⟩
    obtain ⟨winner, rest, hranked, hidentity, hmargin⟩ :=
      winner_of_elected settings log1p hpositive hone h
    rw [hranked]
    have hmem : winner ∈ (entries.foldl (settings.tally log1p) {}).support.rows := by
      rw [← (perm_ranked _).mem_iff, hranked]
      exact List.mem_cons_self
    obtain ⟨-, hvotes, hweight, -, hitems, hbest, -⟩ := backs_of_mem settings log1p hmem
    have hmean := meanScore_of_mem settings log1p hmem
    rw [hidentity] at hvotes hweight hitems hmean
    refine (elect_eq_some_iff settings hbest).mpr ⟨?_, hmargin, ?_⟩
    · rcases h.accepted with ⟨vote, hvote, hstrong⟩ | ⟨hcount, hratio⟩
      · refine .inl ⟨vote.score, ?_, hidentity ▸ hstrong⟩
        rw [hitems]
        exact List.mem_map_of_mem hvote
      · exact .inr ⟨hvotes ▸ hcount, hweight ▸ hratio⟩
    · exact Prod.ext hidentity.symm (by rw [hscore, hmean])

/-! ## The order of the templates -/

theorem perm_ballots {entries' : List Entry} (h : entries.Perm entries') (faceId : String) :
    (settings.ballots log1p entries faceId).Perm (settings.ballots log1p entries' faceId) :=
  h.filterMap _

theorem totalOf_perm {ballots ballots' : List Ballot} (h : ballots.Perm ballots') :
    totalOf ballots = totalOf ballots' :=
  (h.map _).sum_eq

theorem meanOf_perm {ballots ballots' : List Ballot} (h : ballots.Perm ballots') :
    meanOf ballots = meanOf ballots' := by
  rw [meanOf, totalOf_perm h, (h.map _).sum_eq, meanOf]

theorem Elected.perm {entries' : List Entry} (h : entries.Perm entries') {identity : FaceIdentity}
    (helected : settings.Elected log1p entries identity) :
    settings.Elected log1p entries' identity := by
  have hballots := perm_ballots settings log1p h
  have hempty : ∀ faceId, settings.ballots log1p entries' faceId ≠ [] →
      settings.ballots log1p entries faceId ≠ [] := by
    intro faceId hne hnil
    have hperm := hballots faceId
    rw [hnil] at hperm
    exact hne hperm.nil_eq.symm
  have hmeans : ∀ faceId, meanOf (settings.ballots log1p entries faceId) =
      meanOf (settings.ballots log1p entries' faceId) := fun faceId => meanOf_perm (hballots faceId)
  have htotal : totalWeight log1p entries = totalWeight log1p entries' := (h.map _).sum_eq
  refine ⟨?_, ?_, ?_, ?_, ?_⟩
  · obtain ⟨entry, hentry, hcandidate⟩ := helected.eligible
    exact ⟨entry, h.mem_iff.mp hentry, hcandidate⟩
  · intro hnil
    have hperm := hballots identity.faceId
    rw [hnil] at hperm
    exact helected.supported hperm.eq_nil
  · rcases helected.accepted with ⟨vote, hvote, hstrong⟩ | ⟨hcount, hratio⟩
    · exact .inl ⟨vote, (hballots _).mem_iff.mp hvote, hstrong⟩
    · rw [(hballots _).length_eq] at hcount
      rw [totalOf_perm (hballots _), htotal] at hratio
      exact .inr ⟨hcount, hratio⟩
  · intro other hother hne
    rw [← hmeans, ← hmeans]
    exact helected.ahead other hother (hempty other hne)
  · rw [← hmeans]
    exact helected.aheadOfNobody

theorem OneIdentityPerFace.perm {entries' : List Entry} (h : entries.Perm entries')
    (hone : settings.OneIdentityPerFace entries) : settings.OneIdentityPerFace entries' := by
  intro a b ha hb
  obtain ⟨entry, hentry, hcandidate⟩ := ha
  obtain ⟨other, hother, hfound⟩ := hb
  exact hone a b ⟨entry, h.mem_iff.mpr hentry, hcandidate⟩ ⟨other, h.mem_iff.mpr hother, hfound⟩

/-! ## The result -/

theorem meanOf_le_one {ballots : List Ballot}
    (h : ∀ ballot ∈ ballots, ballot.score ≤ 1 ∧ 0 < ballot.weight) : meanOf ballots ≤ 1 := by
  apply div_le_one_of_le₀
  · apply List.sum_le_sum
    intro ballot hballot
    exact mul_le_of_le_one_left (h ballot hballot).2.le (h ballot hballot).1
  · apply List.sum_nonneg
    intro weight hweight
    obtain ⟨ballot, hballot, rfl⟩ := List.mem_map.mp hweight
    exact (h ballot hballot).2.le

/-- A match comes with its score. -/
theorem resolve_score {templates : List SourceTrackTemplate} {groups : List (List FaceMatch)}
    {found : FaceMatch} (h : (settings.resolve log1p templates groups).faceMatch = some found) :
    (settings.resolve log1p templates groups).score = some found.score := by
  unfold resolve at h ⊢
  dsimp only at h ⊢
  split at h
  · cases h
  · unfold elect at h ⊢
    dsimp only at h ⊢
    split at h
    · cases h
    · split at h
      · cases h
      · rename_i haccepted hfar
        obtain ⟨best, -, rfl⟩ := Option.map_eq_some_iff.mp h
        rw [if_neg haccepted, if_neg hfar]

/-- The number of templates that vote for an identity. -/
theorem length_ballots (entries : List Entry) (faceId : String) :
    (settings.ballots log1p entries faceId).length =
      entries.countP fun entry => (settings.ballot log1p faceId entry).isSome :=
  List.length_filterMap_eq_countP

/-- The vote does not depend on the order of the templates, and whoever it elects is ahead of
all others and well enough supported, with one vote of each template at most. -/
theorem resolve_sound (hweights : ∀ count, 0 < 1 + log1p count)
    (hpositive : 0 < settings.videoTrackVoteMinMargin)
    (hscores : ∀ entry ∈ entries, ∀ candidate ∈ entry.2,
      0 ≤ candidate.score ∧ candidate.score ≤ 1)
    (hone : settings.OneIdentityPerFace entries) :
    let decision := settings.resolve log1p (entries.map Prod.fst) (entries.map Prod.snd)
    (∀ entries' : List Entry, entries.Perm entries' →
      let decision' := settings.resolve log1p (entries'.map Prod.fst) (entries'.map Prod.snd)
      decision'.faceMatch.map (·.identity.faceId) = decision.faceMatch.map (·.identity.faceId) ∧
        (decision.faceMatch.isSome → decision'.score = decision.score)) ∧
    (∀ found, decision.faceMatch = some found →
      settings.Elected log1p entries found.identity ∧
        found.score = meanOf (settings.ballots log1p entries found.identity.faceId) ∧
        decision.score = some found.score) ∧
    ∀ item ∈ (entries.foldl (settings.tally log1p) {}).support.rows,
      item.votes = (settings.ballots log1p entries item.identity.faceId).length ∧
        item.votes = entries.countP fun entry =>
          (settings.ballot log1p item.identity.faceId entry).isSome := by
  intro decision
  have hiff := resolve_eq_some_iff settings log1p hweights
    (fun entry hentry candidate hcandidate => (hscores entry hentry candidate hcandidate).1)
    hpositive hone
  refine ⟨?_, ?_, ?_⟩
  · intro entries' hperm decision'
    have hscores' : ∀ entry ∈ entries', ∀ candidate ∈ entry.2, 0 ≤ candidate.score := by
      intro entry hentry candidate hcandidate
      exact (hscores entry (hperm.mem_iff.mpr hentry) candidate hcandidate).1
    have hiff' := resolve_eq_some_iff settings log1p hweights hscores' hpositive
      (OneIdentityPerFace.perm settings hperm hone)
    -- both are the one that is elected, with its mean
    have hsame : decision'.faceMatch.map (fun item => (item.identity, item.score)) =
        decision.faceMatch.map fun item => (item.identity, item.score) := by
      apply Option.ext
      intro found
      rw [hiff', hiff, meanOf_perm (perm_ballots settings log1p hperm found.1.faceId)]
      refine and_congr_left fun _ => ⟨?_, ?_⟩
      · exact Elected.perm settings log1p hperm.symm
      · exact Elected.perm settings log1p hperm
    constructor
    · have hfaces := congrArg (Option.map fun found : FaceIdentity × ℚ => found.1.faceId) hsame
      rw [Option.map_map, Option.map_map] at hfaces
      exact hfaces
    · intro hsome
      obtain ⟨found, hfound⟩ := Option.isSome_iff_exists.mp hsome
      rw [hfound, Option.map_some, Option.map_eq_some_iff] at hsame
      obtain ⟨found', hfound', he⟩ := hsame
      rw [resolve_score settings log1p hfound, resolve_score settings log1p hfound']
      exact congrArg some (Prod.ext_iff.mp he).2
  · intro found hfound
    have hmap : decision.faceMatch.map (fun item => (item.identity, item.score)) =
        some (found.identity, found.score) := by
      rw [hfound, Option.map_some]
    obtain ⟨helected, hscore⟩ := (hiff _).mp hmap
    refine ⟨helected, ?_, resolve_score settings log1p hfound⟩
    have hvotes : ∀ vote ∈ settings.ballots log1p entries found.identity.faceId,
        (0 ≤ vote.score ∧ 0 < vote.weight) ∧ vote.score ≤ 1 := by
      intro vote hvote
      obtain ⟨entry, hentry, hweight, candidate, hcandidate, hscore⟩ :=
        of_mem_ballots settings log1p hvote
      rw [← hscore, hweight]
      have hrange := hscores entry hentry candidate hcandidate
      exact ⟨⟨hrange.1, hweights _⟩, hrange.2⟩
    have hle := meanOf_le_one fun vote hvote => ⟨(hvotes vote hvote).2, (hvotes vote hvote).1.2⟩
    have hnonneg := meanOf_nonneg fun vote hvote => (hvotes vote hvote).1
    have hclamp : found.score =
        clamped (meanOf (settings.ballots log1p entries found.identity.faceId)) := hscore
    rw [hclamp, clamped, max_eq_right hnonneg, min_eq_right hle]
  · intro item hitem
    obtain ⟨-, hvotes, -⟩ := backs_of_mem settings log1p hitem
    exact ⟨hvotes, hvotes.trans (length_ballots settings log1p entries _)⟩

end Election

/-! ## A vote of two templates -/

def usualSettings : VotingSettings where
  recognitionThreshold := 1 / 2
  anonymousThreshold := 3 / 5
  videoTrackVoteCandidateFloor := 9 / 20
  videoTrackVoteMinCount := 2
  videoTrackVoteMinMargin := 1 / 20
  videoTrackVoteMinSupportRatio := 3 / 5
  eligibleLifecycleStatuses := [.known, .anonymous]

/-- The logarithms that the two templates need, to three digits. -/
def roughLog1p (count : Nat) : ℚ := if count = 1 then 693 / 1000 else 1386 / 1000

def rachel : FaceIdentity := { faceId := "rachel", lifecycleStatus := .known, name := some "Rachel" }

def stranger : FaceIdentity := { faceId := "stranger" }

def twoTemplates : List Entry :=
  [(⟨[1], 3⟩, [⟨rachel, "a", 7 / 10⟩, ⟨stranger, "c", 1 / 2⟩, ⟨rachel, "b", 3 / 5⟩]),
    (⟨[1], 1⟩, [⟨stranger, "c", 1 / 2⟩, ⟨rachel, "b", 13 / 20⟩])]

theorem eligible_twoTemplates {identity : FaceIdentity}
    (h : usualSettings.Eligible twoTemplates identity) :
    identity = rachel ∨ identity = stranger := by
  obtain ⟨entry, hentry, candidate, hcandidate, rfl⟩ := h
  have hall : ∀ entry ∈ twoTemplates, ∀ candidate ∈ usualSettings.activeCandidates entry.2,
      candidate.identity = rachel ∨ candidate.identity = stranger := by
    decide
  exact hall entry hentry candidate hcandidate

theorem resolve_twoTemplates :
    ∃ found,
      (usualSettings.resolve roughLog1p (twoTemplates.reverse.map Prod.fst)
        (twoTemplates.reverse.map Prod.snd)).faceMatch.map (·.identity.faceId) = some "rachel" ∧
      (usualSettings.resolve roughLog1p (twoTemplates.map Prod.fst)
        (twoTemplates.map Prod.snd)).faceMatch = some found ∧
      usualSettings.Elected roughLog1p twoTemplates found.identity := by
  have hweights : ∀ count, 0 < 1 + roughLog1p count := by
    intro count
    unfold roughLog1p
    split <;> norm_num
  have hone : usualSettings.OneIdentityPerFace twoTemplates := by
    intro a b ha hb hface
    rcases eligible_twoTemplates ha with rfl | rfl <;>
      rcases eligible_twoTemplates hb with rfl | rfl
    · rfl
    · exact absurd hface (by decide)
    · exact absurd hface (by decide)
    · rfl
  obtain ⟨horder, hsound, -⟩ := resolve_sound usualSettings roughLog1p hweights
    (by decide +kernel) (by decide +kernel) hone
  let found : FaceMatch :=
    ⟨rachel, "a", meanOf (usualSettings.ballots roughLog1p twoTemplates "rachel")⟩
  have hfound : (usualSettings.resolve roughLog1p (twoTemplates.map Prod.fst)
      (twoTemplates.map Prod.snd)).faceMatch = some found := by
    decide +kernel
  refine ⟨found, ?_, hfound, (hsound found hfound).1⟩
  rw [(horder _ (List.reverse_perm twoTemplates).symm).1, hfound]
  rfl

end VotingSettings

end Mvision.Video
