import Mathlib.Data.List.Chain
import Mathlib.Data.Nat.Digits.Defs
import Mvision.Library.Float
import Mvision.Library.Machine
import Mvision.Live.PipelineIdentity

/-!
# What the label of a track shows

The label of a track is a function of the last assignment that was accepted for it and of how
the scores since then compare with the threshold.  Three in a row decide whether the name of a
known track is shown.
-/

namespace Mvision.Live

open Mvision.Library

/-! ## Numbers -/

def decimalDigit (digit : Nat) : UInt8 := UInt8.ofNat (48 + digit)

def decimal (n : Nat) : List UInt8 :=
  if n = 0 then [decimalDigit 0] else (Nat.digits 10 n).reverse.map decimalDigit

/-- A number as `std::fixed << std::setprecision(3)` writes it. -/
def fixedText (x : ℚ) : List UInt8 :=
  let n := (roundHalfEven (|x| * 1000)).toNat
  (if x < 0 then utf8 "-" else []) ++ decimal (n / 1000) ++ utf8 "." ++
    [decimalDigit (n / 100 % 10), decimalDigit (n / 10 % 10), decimalDigit (n % 10)]

def space : UInt8 := 0x20

theorem decimalDigit_ne_space {digit : Nat} (h : digit < 10) : decimalDigit digit ≠ space := by
  have hall : ∀ digit < 10, decimalDigit digit ≠ space := by decide
  exact hall digit h

theorem space_notMem_decimal (n : Nat) : space ∉ decimal n := by
  unfold decimal
  split
  · decide
  · rw [List.mem_map]
    rintro ⟨digit, hdigit, heq⟩
    exact decimalDigit_ne_space (Nat.digits_lt_base (by decide) (List.mem_reverse.mp hdigit)) heq

/-- No number has a space in it. -/
theorem space_notMem_fixedText (x : ℚ) : space ∉ fixedText x := by
  unfold fixedText
  dsimp only
  rw [List.mem_append, List.mem_append, List.mem_append]
  rintro (((hsign | hwhole) | hpoint) | hdigits)
  · split at hsign
    · exact absurd hsign (by decide)
    · cases hsign
  · exact space_notMem_decimal _ hwhole
  · exact absurd hpoint (by decide)
  · simp only [List.mem_cons, List.not_mem_nil, or_false] at hdigits
    rcases hdigits with h | h | h
    · exact decimalDigit_ne_space (Nat.mod_lt _ (by decide)) h.symm
    · exact decimalDigit_ne_space (Nat.mod_lt _ (by decide)) h.symm
    · exact decimalDigit_ne_space (Nat.mod_lt _ (by decide)) h.symm

example : fixedText (873 / 1000) = utf8 "0.873" := by decide +kernel

/-! ## The label -/

namespace LiveOsdState

/-- `entry.display_name.empty() ? "Known" : entry.display_name` -/
def shownName (displayName : List UInt8) : List UInt8 :=
  if displayName = [] then utf8 "Known" else displayName

def labelHead (entry : LiveOsdEntry) : List UInt8 :=
  if entry.identity.state = .known ∧ entry.visibleKnown then
    shownName entry.displayName ++ utf8 "  "
  else utf8 "Unknown "

def labelScore : Option ℚ → List UInt8
  | none => []
  | some score => utf8 "cos=" ++ fixedText score ++ utf8 " "

/-- `LiveOsdState::label` -/
def label (s : LiveOsdState) (trackerId : Nat) (detectorConfidence : ℚ) : List UInt8 :=
  match s.entries trackerId with
  | none => utf8 "Pending det=" ++ fixedText detectorConfidence
  | some entry =>
      if entry.identity.state = .pending then
        utf8 "Pending det=" ++ fixedText detectorConfidence
      else
        labelHead entry ++ (labelScore entry.currentScore ++
          (utf8 "det=" ++ fixedText detectorConfidence))

/-- `LiveOsdState::expire` -/
def expire (s : LiveOsdState) (generation trackerId : Nat) : LiveOsdState :=
  if generation = s.generation then
    { s with entries := Function.update s.entries trackerId none }
  else s

end LiveOsdState

/-! ## Runs -/

inductive OsdCall where
  | apply (assignment : IdentityAssignment)
  | observe (trackerId : Nat) (score : List ℚ → ℚ)
  | expire (generation trackerId : Nat)

/-- The last assignment that was accepted since the entry of the track was made, and how the
scores since then compare with the threshold, the newest first. -/
structure TrackLog where
  assignment : Option IdentityAssignment := none
  scores : List Bool := []
deriving DecidableEq

namespace LiveOsdState

def call (s : LiveOsdState) : OsdCall → LiveOsdState
  | .apply assignment => (s.apply assignment).2
  | .observe trackerId score => (s.observe trackerId score).2
  | .expire generation trackerId => s.expire generation trackerId

end LiveOsdState

namespace TrackLog

/-- Only a score that has a threshold counts. -/
def score (log : TrackLog) (score : List ℚ → ℚ) : TrackLog :=
  match log.assignment.bind (·.referenceEmbedding), log.assignment.bind (·.recognitionThreshold) with
  | some reference, some threshold =>
      { log with scores := decide (threshold ≤ score reference) :: log.scores }
  | _, _ => log

/-- What a call adds to the log of a track. -/
def note (log : TrackLog) (trackerId : Nat) (s : LiveOsdState) : OsdCall → TrackLog
  | .apply assignment =>
      if assignment.trackerId = trackerId ∧ (s.apply assignment).1 then ⟨some assignment, []⟩
      else log
  | .observe observed score => if observed = trackerId then log.score score else log
  | .expire generation expired =>
      if expired = trackerId ∧ generation = s.generation then {} else log

end TrackLog

/-- The display next to the log of one track. -/
def osdRun (generation trackerId : Nat) : Machine (LiveOsdState × TrackLog) OsdCall where
  init s := s = ({ generation }, {})
  enabled _ _ := True
  next s call := (s.1.call call, s.2.note trackerId s.1 call)

/-- How many of the newest scores are of one kind. -/
def inARow (kind : Bool) (scores : List Bool) : Nat := (scores.takeWhile (· == kind)).length

/-- Three in a row turn the name on or off. -/
def visibleAfter (start : Bool) : List Bool → Bool
  | [] => start
  | score :: earlier =>
      if (score :: earlier).take 3 = [false, false, false] then false
      else if (score :: earlier).take 3 = [true, true, true] then true
      else visibleAfter start earlier

/-! ## What the entry of a track is -/

/-- The entry of a track after an assignment and the scores since. -/
structure Follows (assignment : IdentityAssignment) (scores : List Bool) (entry : LiveOsdEntry) :
    Prop where
  told : assignment.identityState = .known ∧ entry.identity.state = .known ∨
    assignment.identityState = .unknown ∧ entry.identity.state = .unknown
  displayName : entry.displayName = LiveOsdState.sanitizeName assignment.displayName
  referenceEmbedding : entry.referenceEmbedding = assignment.referenceEmbedding
  recognitionThreshold : entry.recognitionThreshold = assignment.recognitionThreshold
  visibleKnown : entry.visibleKnown = visibleAfter (assignment.identityState = .known) scores
  consecutiveHigh : entry.consecutiveHigh = min 3 (inARow true scores)
  consecutiveLow : entry.consecutiveLow = min 3 (inARow false scores)

/-- The entry of a track is what its log says. -/
def Displayed (log : TrackLog) : Option LiveOsdEntry → Prop
  | none => log = {}
  | some entry =>
      match log.assignment with
      | none => log = {} ∧ entry = {}
      | some assignment => Follows assignment log.scores entry

namespace LiveOsdState

variable {s : LiveOsdState}

/-- An accepted assignment makes the entry anew. -/
theorem follows_accepted {identity identity' : IdentityAssignmentState} {a : IdentityAssignment}
    (h : identity.apply a = (true, identity')) :
    Follows a []
      { identity := identity'
        displayName := sanitizeName a.displayName
        referenceEmbedding := a.referenceEmbedding
        recognitionThreshold := a.recognitionThreshold
        visibleKnown := a.identityState = .known } := by
  refine ⟨?_, rfl, rfl, rfl, rfl, rfl, rfl⟩
  rcases identity.apply_cases a with heq | ⟨heq, -, hunknown, -⟩ | ⟨heq, -, hknown, -⟩
  · rw [heq] at h
    cases h
  · rw [heq] at h
    cases h
    exact .inr ⟨hunknown, rfl⟩
  · rw [heq] at h
    cases h
    exact .inl ⟨hknown, rfl⟩

/-- What `apply` does to the entry of a track. -/
theorem apply_entries_cases (a : IdentityAssignment) (trackerId : Nat) :
    (¬ (a.trackerId = trackerId ∧ (s.apply a).1 = true) ∧
        ((s.apply a).2.entries trackerId = s.entries trackerId ∨
          s.entries trackerId = none ∧ (s.apply a).2.entries trackerId = some {})) ∨
      ((a.trackerId = trackerId ∧ (s.apply a).1 = true) ∧
        ∃ entry, (s.apply a).2.entries trackerId = some entry ∧ Follows a [] entry) := by
  unfold apply
  split
  · exact .inl ⟨fun h => Bool.false_ne_true h.2, .inl rfl⟩
  · dsimp only
    by_cases htracker : a.trackerId = trackerId
    · subst htracker
      split
      · -- a rejected assignment leaves at most a fresh entry behind
        rename_i identity hrejected
        refine .inl ⟨fun h => Bool.false_ne_true h.2, ?_⟩
        have hsame := IdentityAssignmentState.apply_rejected (congrArg Prod.fst hrejected)
        rw [hrejected] at hsame
        dsimp only at hsame ⊢
        rw [Function.update_self, hsame]
        cases s.entries a.trackerId with
        | none => exact .inr ⟨rfl, rfl⟩
        | some entry => exact .inl rfl
      · rename_i identity haccepted
        exact .inr ⟨⟨rfl, rfl⟩, _, Function.update_self .., follows_accepted haccepted⟩
    · refine .inl ⟨fun h => htracker h.1, .inl ?_⟩
      split
      · exact Function.update_of_ne (Ne.symm htracker) ..
      · exact Function.update_of_ne (Ne.symm htracker) ..

end LiveOsdState

/-! ## Three in a row -/

@[simp] theorem inARow_cons_self (kind : Bool) (scores : List Bool) :
    inARow kind (kind :: scores) = inARow kind scores + 1 := by
  unfold inARow
  rw [List.takeWhile_cons, beq_self_eq_true]
  rfl

theorem inARow_cons_of_ne {kind score : Bool} (h : score ≠ kind) (scores : List Bool) :
    inARow kind (score :: scores) = 0 := by
  unfold inARow
  rw [List.takeWhile_cons, beq_eq_false_iff_ne.mpr h]
  rfl

theorem le_inARow_iff (kind : Bool) (n : Nat) (scores : List Bool) :
    n ≤ inARow kind scores ↔ scores.take n = List.replicate n kind := by
  induction n generalizing scores with
  | zero => exact iff_of_true (Nat.zero_le _) rfl
  | succ n ih =>
      cases scores with
      | nil => exact iff_of_false (Nat.not_succ_le_zero n) (by simp)
      | cons score scores =>
          rw [List.take_succ_cons, List.replicate_succ, List.cons_eq_cons]
          by_cases h : score = kind
          · subst h
            rw [inARow_cons_self, Nat.succ_le_succ_iff, ih, and_iff_right rfl]
          · rw [inARow_cons_of_ne h]
            exact iff_of_false (Nat.not_succ_le_zero n) fun he => h he.1

theorem visibleAfter_high (start : Bool) (scores : List Bool) :
    visibleAfter start (true :: scores) =
      if 3 ≤ inARow true (true :: scores) then true else visibleAfter start scores := by
  have hthree : 3 ≤ inARow true (true :: scores) ↔
      (true :: scores).take 3 = [true, true, true] := le_inARow_iff true 3 _
  rw [visibleAfter, if_neg (by simp)]
  by_cases h : 3 ≤ inARow true (true :: scores)
  · rw [if_pos h, if_pos (hthree.mp h)]
  · rw [if_neg h, if_neg fun he => h (hthree.mpr he)]

theorem visibleAfter_low (start : Bool) (scores : List Bool) :
    visibleAfter start (false :: scores) =
      if 3 ≤ inARow false (false :: scores) then false else visibleAfter start scores := by
  have hthree : 3 ≤ inARow false (false :: scores) ↔
      (false :: scores).take 3 = [false, false, false] := le_inARow_iff false 3 _
  rw [visibleAfter]
  by_cases h : 3 ≤ inARow false (false :: scores)
  · rw [if_pos h, if_pos (hthree.mp h)]
  · rw [if_neg h, if_neg fun he => h (hthree.mpr he), if_neg (by simp)]

/-- One more score. -/
theorem follows_observed {a : IdentityAssignment} {scores : List Bool} {entry : LiveOsdEntry}
    (h : Follows a scores entry) (threshold score : ℚ) :
    Follows a (decide (threshold ≤ score) :: scores)
      (LiveOsdState.observeEntry entry threshold score) := by
  have hhigh := h.consecutiveHigh
  have hlow := h.consecutiveLow
  unfold LiveOsdState.observeEntry
  split
  · rename_i hscore
    rw [decide_eq_true hscore]
    refine ⟨h.told, h.displayName, h.referenceEmbedding, h.recognitionThreshold, ?_, ?_, ?_⟩
    · dsimp only
      rw [visibleAfter_high, ← h.visibleKnown, inARow_cons_self]
      congr 1
      rw [eq_iff_iff]
      omega
    · dsimp only
      rw [inARow_cons_self]
      omega
    · rw [inARow_cons_of_ne (by decide)]
      rfl
  · rename_i hscore
    rw [decide_eq_false hscore]
    refine ⟨h.told, h.displayName, h.referenceEmbedding, h.recognitionThreshold, ?_, ?_, ?_⟩
    · dsimp only
      rw [visibleAfter_low, ← h.visibleKnown, inARow_cons_self]
      congr 1
      rw [eq_iff_iff]
      omega
    · rw [inARow_cons_of_ne (by decide)]
      rfl
    · dsimp only
      rw [inARow_cons_self]
      omega

/-! ## The run -/

theorem displayed_apply {log : TrackLog} {trackerId : Nat} {s : LiveOsdState}
    (h : Displayed log (s.entries trackerId)) (a : IdentityAssignment) :
    Displayed (log.note trackerId s (.apply a)) ((s.apply a).2.entries trackerId) := by
  unfold TrackLog.note
  dsimp only
  rcases s.apply_entries_cases a trackerId with ⟨hno, hentries⟩ | ⟨hyes, entry, hentry, hfollows⟩
  · rw [if_neg hno]
    rcases hentries with hsame | ⟨hnone, hfresh⟩
    · rw [hsame]
      exact h
    · rw [hnone] at h
      rw [hfresh]
      obtain rfl : log = {} := h
      exact ⟨rfl, rfl⟩
  · rw [if_pos hyes, hentry]
    exact hfollows

theorem displayed_some {log : TrackLog} {entry : LiveOsdEntry} (h : Displayed log (some entry)) :
    log = {} ∧ entry = {} ∨ ∃ a, log.assignment = some a ∧ Follows a log.scores entry := by
  unfold Displayed at h
  cases ha : log.assignment with
  | none =>
      rw [ha] at h
      exact .inl h
  | some a =>
      rw [ha] at h
      exact .inr ⟨a, rfl, h⟩

theorem displayed_of_follows {log : TrackLog} {entry : LiveOsdEntry} {a : IdentityAssignment}
    (ha : log.assignment = some a) (h : Follows a log.scores entry) : Displayed log (some entry) := by
  unfold Displayed
  rw [ha]
  exact h

/-- An entry after an observation of its track. -/
def scoredEntry (score : List ℚ → ℚ) (entry : LiveOsdEntry) : LiveOsdEntry :=
  match entry.referenceEmbedding, entry.recognitionThreshold with
  | some reference, some threshold =>
      LiveOsdState.observeEntry entry threshold (score reference)
  | _, _ => entry

theorem observe_entries (s : LiveOsdState) (observed trackerId : Nat) (score : List ℚ → ℚ) :
    (s.observe observed score).2.entries trackerId =
      if observed = trackerId then (s.entries trackerId).map (scoredEntry score)
      else s.entries trackerId := by
  unfold LiveOsdState.observe
  cases hentry : s.entries observed with
  | none =>
      dsimp only
      split
      · rename_i htracker
        rw [← htracker, hentry, Option.map_none]
      · rfl
  | some entry =>
      dsimp only
      by_cases htracker : observed = trackerId
      · subst htracker
        rw [if_pos rfl, hentry, Option.map_some]
        unfold scoredEntry
        cases entry.referenceEmbedding with
        | none => exact hentry
        | some reference =>
            cases entry.recognitionThreshold with
            | none => exact hentry
            | some threshold => exact Function.update_self observed _ s.entries
      · rw [if_neg htracker]
        split
        · exact Function.update_of_ne (Ne.symm htracker) ..
        · rfl

theorem displayed_scored {log : TrackLog} {entry : LiveOsdEntry} (h : Displayed log (some entry))
    (score : List ℚ → ℚ) : Displayed (log.score score) (some (scoredEntry score entry)) := by
  rcases displayed_some h with ⟨rfl, rfl⟩ | ⟨a, ha, hfollows⟩
  · exact ⟨rfl, rfl⟩
  · unfold TrackLog.score scoredEntry
    rw [ha, Option.bind_some, Option.bind_some, hfollows.referenceEmbedding,
      hfollows.recognitionThreshold]
    split
    · exact displayed_of_follows rfl (follows_observed hfollows _ _)
    · exact displayed_of_follows ha hfollows

theorem displayed_observe {log : TrackLog} {trackerId : Nat} {s : LiveOsdState}
    (h : Displayed log (s.entries trackerId)) (observed : Nat) (score : List ℚ → ℚ) :
    Displayed (log.note trackerId s (.observe observed score))
      ((s.observe observed score).2.entries trackerId) := by
  rw [observe_entries]
  show Displayed (if observed = trackerId then log.score score else log) _
  split
  · cases hentry : s.entries trackerId with
    | none =>
        rw [hentry] at h
        obtain rfl : log = {} := h
        rfl
    | some entry =>
        rw [hentry] at h
        exact displayed_scored h score
  · exact h

theorem displayed_expire {log : TrackLog} {trackerId : Nat} {s : LiveOsdState}
    (h : Displayed log (s.entries trackerId)) (generation expired : Nat) :
    Displayed (log.note trackerId s (.expire generation expired))
      ((s.expire generation expired).entries trackerId) := by
  unfold TrackLog.note LiveOsdState.expire
  dsimp only
  by_cases htracker : expired = trackerId
  · subst htracker
    by_cases hgeneration : generation = s.generation
    · rw [if_pos ⟨rfl, hgeneration⟩, if_pos hgeneration]
      dsimp only
      rw [Function.update_self]
      rfl
    · rw [if_neg fun he => hgeneration he.2, if_neg hgeneration]
      exact h
  · rw [if_neg fun he => htracker he.1]
    split
    · dsimp only
      rw [Function.update_of_ne (Ne.symm htracker)]
      exact h
    · exact h

theorem displayed_next (generation trackerId : Nat) (call : OsdCall) (s : LiveOsdState × TrackLog)
    (h : Displayed s.2 (s.1.entries trackerId)) :
    Displayed ((osdRun generation trackerId).next s call).2
      (((osdRun generation trackerId).next s call).1.entries trackerId) := by
  cases call with
  | apply assignment => exact displayed_apply h assignment
  | observe observed score => exact displayed_observe h observed score
  | expire generation expired => exact displayed_expire h generation expired

/-! ## Spaces

Only a shown name has two spaces after it. -/

/-- No two spaces in a row. -/
def Calm (bytes : List UInt8) : Prop := bytes.IsChain fun a b => a ≠ space ∨ b ≠ space

theorem calm_of_notMem {bytes : List UInt8} (h : space ∉ bytes) : Calm bytes := by
  apply List.Pairwise.isChain
  apply List.pairwise_of_forall_mem_list
  intro a ha b _
  exact .inl fun he => h (he ▸ ha)

theorem calm_append {front back : List UInt8} (hfront : space ∉ front) (hback : Calm back) :
    Calm (front ++ back) := by
  refine List.isChain_append.mpr ⟨calm_of_notMem hfront, hback, ?_⟩
  intro a ha b _
  exact .inl fun he => hfront (he ▸ List.mem_of_mem_getLast? ha)

theorem calm_space_cons {first : UInt8} {rest : List UInt8} (hfirst : first ≠ space)
    (h : Calm (first :: rest)) : Calm (space :: first :: rest) :=
  List.isChain_cons_cons.mpr ⟨.inr hfirst, h⟩

theorem not_prefix_of_calm {bytes : List UInt8} (h : Calm bytes) (name : List UInt8) :
    ¬ name ++ utf8 "  " <+: bytes := by
  rintro ⟨rest, rfl⟩
  have hspaces := (List.isChain_append.mp (List.isChain_append.mp h).1).2.1
  rcases (List.isChain_cons_cons.mp hspaces).1 with hne | hne
  · exact hne rfl
  · exact hne rfl

/-- What has no space is a prefix of a text up to its first space or of none. -/
theorem prefix_append_cons_iff {front back bytes : List UInt8} {byte : UInt8}
    (h : byte ∉ bytes) : bytes <+: front ++ byte :: back ↔ bytes <+: front := by
  constructor
  · intro hstart
    rcases List.prefix_or_prefix_of_prefix hstart (List.prefix_append front _) with hle | hge
    · exact hle
    · obtain ⟨rest, rfl⟩ := hge
      cases rest with
      | nil =>
          simp only [List.append_nil, List.prefix_rfl]
      | cons next rest =>
          obtain ⟨rfl, -⟩ := List.cons_prefix_cons.mp ((List.prefix_append_right_inj front).mp hstart)
          exact absurd (List.mem_append_right front List.mem_cons_self) h
  · exact fun hstart => hstart.trans (List.prefix_append front _)

namespace LiveOsdState

/-- The end of each label. -/
theorem calm_labelEnd (score : Option ℚ) (confidence : ℚ) :
    Calm (utf8 " " ++ (labelScore score ++ (utf8 "det=" ++ fixedText confidence))) := by
  have hdet : space ∉ utf8 "det=" ++ fixedText confidence := by
    rw [List.mem_append, not_or]
    exact ⟨by decide, space_notMem_fixedText confidence⟩
  have hend : Calm (utf8 " " ++ (utf8 "det=" ++ fixedText confidence)) :=
    calm_space_cons (by decide) (calm_of_notMem hdet)
  cases score with
  | none => exact hend
  | some score =>
      have hcos : space ∉ utf8 "cos=" ++ fixedText score := by
        rw [List.mem_append, not_or]
        exact ⟨by decide, space_notMem_fixedText score⟩
      have hcalm := calm_append hcos hend
      rw [labelScore, List.append_assoc (utf8 "cos=" ++ fixedText score)]
      exact calm_space_cons (by decide) hcalm

theorem calm_unknown (score : Option ℚ) (confidence : ℚ) :
    Calm (utf8 "Unknown " ++ (labelScore score ++ (utf8 "det=" ++ fixedText confidence))) :=
  @calm_append (utf8 "Unknown") _ (by decide) (calm_labelEnd score confidence)

theorem calm_pending (confidence : ℚ) :
    Calm (utf8 "Pending det=" ++ fixedText confidence) :=
  @calm_append (utf8 "Pending") _ (by decide) (calm_labelEnd none confidence)

end LiveOsdState

/-! ## What is shown -/

open LiveOsdState in
/-- By the log of the track, its label shows the name. -/
def Shows (log : TrackLog) (name : List UInt8) : Prop :=
  ∃ a, log.assignment = some a ∧ a.identityState = .known ∧
    visibleAfter true log.scores = true ∧ name = shownName (sanitizeName a.displayName)

namespace LiveOsdState

variable {s : LiveOsdState} {log : TrackLog} {trackerId : Nat}

/-- The three kinds of labels. -/
theorem label_cases (h : Displayed log (s.entries trackerId)) (confidence : ℚ) :
    (log.assignment = none ∧
        s.label trackerId confidence = utf8 "Pending det=" ++ fixedText confidence) ∨
      (∃ name back, Shows log name ∧
        s.label trackerId confidence = name ++ (utf8 "  " ++ back)) ∨
      (log.assignment ≠ none ∧ (∀ name, ¬ Shows log name) ∧
        ∃ score, s.label trackerId confidence =
          utf8 "Unknown " ++ (labelScore score ++ (utf8 "det=" ++ fixedText confidence))) := by
  unfold label
  cases hentry : s.entries trackerId with
  | none =>
      rw [hentry] at h
      obtain rfl : log = {} := h
      exact .inl ⟨rfl, rfl⟩
  | some entry =>
      rw [hentry] at h
      rcases displayed_some h with ⟨rfl, rfl⟩ | ⟨a, ha, hfollows⟩
      · exact .inl ⟨rfl, if_pos rfl⟩
      · right
        dsimp only
        have hassigned : log.assignment ≠ none := by
          rw [ha]
          exact Option.some_ne_none a
        rcases hfollows.told with ⟨hknown, hstate⟩ | ⟨hunknown, hstate⟩
        · have hvisible := hfollows.visibleKnown
          rw [hknown, decide_eq_true rfl] at hvisible
          rw [if_neg (by rw [hstate]; exact TrackIdentityState.noConfusion), labelHead]
          by_cases hshown : visibleAfter true log.scores = true
          · rw [if_pos ⟨hstate, hvisible.trans hshown⟩, hfollows.displayName]
            exact .inl ⟨_, _, ⟨a, ha, hknown, hshown, rfl⟩, List.append_assoc ..⟩
          · rw [if_neg fun he => hshown (hvisible.symm.trans he.2)]
            refine .inr ⟨hassigned, ?_, _, rfl⟩
            rintro name ⟨_, -, -, hyes, -⟩
            exact hshown hyes
        · rw [if_neg (by rw [hstate]; exact TrackIdentityState.noConfusion), labelHead,
            if_neg (by rw [hstate]; exact fun he => TrackIdentityState.noConfusion he.1)]
          refine .inr ⟨hassigned, ?_, _, rfl⟩
          rintro name ⟨b, hb, hknown, -⟩
          rw [ha, Option.some_inj] at hb
          rw [← hb, hunknown] at hknown
          cases hknown

theorem Shows.unique {name other : List UInt8} (h : Shows log name) (h' : Shows log other) :
    name = other := by
  obtain ⟨a, ha, -, -, rfl⟩ := h
  obtain ⟨b, hb, -, -, rfl⟩ := h'
  rw [ha, Option.some_inj] at hb
  rw [hb]

theorem label_pending_iff (h : Displayed log (s.entries trackerId)) (confidence : ℚ) :
    utf8 "Pending" <+: s.label trackerId confidence ↔
      log.assignment = none ∨ ∃ name, Shows log name ∧ utf8 "Pending" <+: name := by
  have hspace : space ∉ utf8 "Pending" := by decide
  rcases label_cases h confidence with
    ⟨hnone, hlabel⟩ | ⟨name, back, hshows, hlabel⟩ | ⟨hsome, hno, score, hlabel⟩
  · refine iff_of_true ?_ (.inl hnone)
    rw [hlabel]
    exact List.prefix_append (utf8 "Pending") (utf8 " det=" ++ fixedText confidence)
  · -- the prefix ends before the spaces after the name
    have hstart : utf8 "Pending" <+: s.label trackerId confidence ↔ utf8 "Pending" <+: name := by
      rw [hlabel]
      exact prefix_append_cons_iff hspace
    rw [hstart]
    constructor
    · intro hpending
      exact .inr ⟨name, hshows, hpending⟩
    · rintro (hnone | ⟨other, hother, hpending⟩)
      · obtain ⟨a, ha, -⟩ := hshows
        rw [hnone] at ha
        cases ha
      · rw [Shows.unique hshows hother]
        exact hpending
  · refine iff_of_false ?_ ?_
    · rw [hlabel]
      rintro ⟨rest, hrest⟩
      exact absurd (List.cons_eq_cons.mp hrest).1 (by decide)
    · rintro (hnone | ⟨name, hshows, -⟩)
      · exact hsome hnone
      · exact hno name hshows

theorem label_shows {name : List UInt8} (h : Displayed log (s.entries trackerId)) (confidence : ℚ)
    (hshows : Shows log name) : name ++ utf8 "  " <+: s.label trackerId confidence := by
  rcases label_cases h confidence with
    ⟨hnone, -⟩ | ⟨other, back, hother, hlabel⟩ | ⟨-, hno, -⟩
  · obtain ⟨a, ha, -⟩ := hshows
    rw [hnone] at ha
    cases ha
  · rw [hlabel, Shows.unique hshows hother, ← List.append_assoc]
    exact List.prefix_append _ _
  · exact absurd hshows (hno name)

theorem shows_of_label {name : List UInt8} (h : Displayed log (s.entries trackerId)) (confidence : ℚ)
    (hlabel : name ++ utf8 "  " <+: s.label trackerId confidence) : ∃ other, Shows log other := by
  rcases label_cases h confidence with ⟨-, heq⟩ | ⟨other, -, hother, -⟩ | ⟨-, -, score, heq⟩
  · rw [heq] at hlabel
    exact absurd hlabel (not_prefix_of_calm (calm_pending confidence) name)
  · exact ⟨other, hother⟩
  · rw [heq] at hlabel
    exact absurd hlabel (not_prefix_of_calm (calm_unknown score confidence) name)

theorem not_shows_of_unknown {a : IdentityAssignment} (ha : log.assignment = some a)
    (hunknown : a.identityState = .unknown) (name : List UInt8) : ¬ Shows log name := by
  rintro ⟨b, hb, hknown, -⟩
  rw [ha, Option.some_inj] at hb
  rw [← hb, hunknown] at hknown
  cases hknown

theorem label_unknown {a : IdentityAssignment} (h : Displayed log (s.entries trackerId))
    (confidence : ℚ) (ha : log.assignment = some a) (hunknown : a.identityState = .unknown) :
    utf8 "Unknown " <+: s.label trackerId confidence := by
  rcases label_cases h confidence with ⟨hnone, -⟩ | ⟨name, -, hshows, -⟩ | ⟨-, -, score, heq⟩
  · rw [ha] at hnone
    cases hnone
  · exact absurd hshows (not_shows_of_unknown ha hunknown name)
  · rw [heq]
    exact List.prefix_append _ _

/-- The counters count one kind of scores at a time. -/
theorem counters_of_displayed {entry : LiveOsdEntry} (h : Displayed log (some entry)) :
    entry.consecutiveHigh ≤ 3 ∧ entry.consecutiveLow ≤ 3 ∧
      (entry.consecutiveHigh = 0 ∨ entry.consecutiveLow = 0) := by
  rcases displayed_some h with ⟨-, rfl⟩ | ⟨a, -, hfollows⟩
  · exact ⟨Nat.zero_le 3, Nat.zero_le 3, .inl rfl⟩
  · rw [hfollows.consecutiveHigh, hfollows.consecutiveLow]
    refine ⟨min_le_left _ _, min_le_left _ _, ?_⟩
    cases log.scores with
    | nil => exact .inl rfl
    | cons score scores =>
        cases score with
        | false =>
            rw [inARow_cons_of_ne (by decide)]
            exact .inl rfl
        | true =>
            rw [@inARow_cons_of_ne false true (by decide)]
            exact .inr rfl

theorem visible_of_displayed {entry : LiveOsdEntry} (h : Displayed log (some entry))
    {a : IdentityAssignment} (ha : log.assignment = some a) :
    entry.visibleKnown = visibleAfter (a.identityState = .known) log.scores := by
  rcases displayed_some h with ⟨rfl, -⟩ | ⟨b, hb, hfollows⟩
  · cases ha
  · rw [ha, Option.some_inj] at hb
    rw [hb]
    exact hfollows.visibleKnown

end LiveOsdState

/-- The label is pending until an assignment is accepted, then it shows a name exactly while the
last one is known and visible, and the counters stay small. -/
theorem label_follows_log (generation trackerId : Nat) (calls : List OsdCall) (confidence : ℚ) :
    let s := (osdRun generation trackerId).run ({ generation }, {}) calls
    let label := s.1.label trackerId confidence
    (utf8 "Pending" <+: label ↔
        s.2.assignment = none ∨ ∃ name, Shows s.2 name ∧ utf8 "Pending" <+: name) ∧
      ((∃ name, name ++ utf8 "  " <+: label) ↔ ∃ name, Shows s.2 name) ∧
      (∀ name, Shows s.2 name → name ++ utf8 "  " <+: label) ∧
      (∀ a, s.2.assignment = some a → a.identityState = .unknown →
        utf8 "Unknown " <+: label ∧ ∀ name, ¬ name ++ utf8 "  " <+: label) ∧
      ∀ entry, s.1.entries trackerId = some entry →
        (entry.consecutiveHigh ≤ 3 ∧ entry.consecutiveLow ≤ 3 ∧
          (entry.consecutiveHigh = 0 ∨ entry.consecutiveLow = 0)) ∧
        ∀ a, s.2.assignment = some a →
          entry.visibleKnown = visibleAfter (a.identityState = .known) s.2.scores := by
  intro s label
  have hdisplayed : Displayed s.2 (s.1.entries trackerId) :=
    Machine.run_of_forall (fun call _ t => displayed_next generation trackerId call t) rfl
  refine ⟨LiveOsdState.label_pending_iff hdisplayed confidence, ⟨?_, ?_⟩, ?_, ?_, ?_⟩
  · rintro ⟨name, hname⟩
    exact LiveOsdState.shows_of_label hdisplayed confidence hname
  · rintro ⟨name, hshows⟩
    exact ⟨name, LiveOsdState.label_shows hdisplayed confidence hshows⟩
  · exact fun name hshows => LiveOsdState.label_shows hdisplayed confidence hshows
  · intro a ha hunknown
    refine ⟨LiveOsdState.label_unknown hdisplayed confidence ha hunknown, ?_⟩
    intro name hname
    obtain ⟨other, hother⟩ := LiveOsdState.shows_of_label hdisplayed confidence hname
    exact LiveOsdState.not_shows_of_unknown ha hunknown other hother
  · intro entry hentry
    rw [hentry] at hdisplayed
    exact ⟨LiveOsdState.counters_of_displayed hdisplayed,
      fun a ha => LiveOsdState.visible_of_displayed hdisplayed ha⟩

/-- The assignment of a face whose name looks like a pending label. -/
def pendingByName : IdentityAssignment where
  header :=
    { protocolVersion := 2
      messageType := .identityAssignment
      sessionId := "019b0000-0000-7000-8000-000000000001"
      cameraId := "019b0000-0000-7000-8000-000000000001"
      runId := "019b0000-0000-7000-8000-000000000002"
      generation := 1
      runtimeAttempt := 1
      sequence := 1
      traceparent := "00-4bf92f3577b34da6a3ce929d0e0e4736-00f067aa0ba902b7-01"
      tracestate := none }
  trackerId := 42
  assignmentRevision := 1
  identityEpoch := 1
  identityState := .known
  displayName := some "Pending"
  faceId := some "019b0000-0000-7000-8000-000000000003"
  matchScore := some (9 / 10)
  recognitionThreshold := some (4 / 5)
  referenceEmbedding := some (1 :: List.replicate 511 0)
  decisionSequence := 1

theorem pending_by_name :
    let s := (osdRun 1 42).run ({ generation := 1 }, {}) [.apply pendingByName]
    ¬ (utf8 "Pending" <+: s.1.label 42 (9 / 10) ↔ s.2.assignment = none) := by
  decide

end Mvision.Live
