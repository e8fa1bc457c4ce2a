import Mathlib.Data.List.Induction
import Mathlib.Order.Lattice
import Mvision.Live.Protocol

/-!
# The native identity of a track: `IdentityAssignmentState`

`apply` follows `live_track_state.cpp`.  A stream of assignments whose
revisions grow and which names at most one face for each epoch is read back
from the state it leads to: the epoch is the highest one an 'unknown' has
announced, and the face is that of the 'known' that came after it.
-/

namespace Mvision.Live

inductive TrackIdentityState where
  | pending
  | known
  | unknown
deriving DecidableEq, Repr

structure IdentityAssignmentState where
  state : TrackIdentityState
  faceId : Option String
  revision : Nat
  identityEpoch : Nat
deriving DecidableEq, Repr

namespace IdentityAssignmentState

def fresh : IdentityAssignmentState := ⟨.pending, none, 0, 1⟩

/-- `IdentityAssignmentState::apply` -/
def apply (s : IdentityAssignmentState) (assignment : IdentityAssignment) :
    Bool × IdentityAssignmentState :=
  if assignment.assignmentRevision ≤ s.revision then (false, s)
  else if assignment.identityEpoch < s.identityEpoch then (false, s)
  else if assignment.identityState ≠ .known ∧ assignment.identityState ≠ .unknown then (false, s)
  else if assignment.identityEpoch > s.identityEpoch ∧ assignment.identityState ≠ .unknown then
    (false, s)
  else
    let s := if assignment.identityEpoch > s.identityEpoch then
        { s with identityEpoch := assignment.identityEpoch, state := .pending, faceId := none }
      else s
    if s.state = .known ∧
        (assignment.identityState ≠ .known ∨ assignment.faceId ≠ s.faceId) then (false, s)
    else if assignment.identityState = .known then
      if assignment.faceId = none then (false, s)
      else (true, { s with
        state := .known, faceId := assignment.faceId, revision := assignment.assignmentRevision })
    else (true, { s with
      state := .unknown, faceId := none, revision := assignment.assignmentRevision })

/-- The state after every assignment of a stream, accepted or not. -/
def applyAll (s : IdentityAssignmentState) (stream : List IdentityAssignment) :
    IdentityAssignmentState :=
  stream.foldl (fun s assignment => (s.apply assignment).2) s

/-- What the rest of the pipeline sees of the state. -/
def identity (s : IdentityAssignmentState) : TrackIdentityState × Option String × Nat :=
  (s.state, s.faceId, s.identityEpoch)

theorem applyAll_concat (s : IdentityAssignmentState) (stream : List IdentityAssignment)
    (assignment : IdentityAssignment) :
    s.applyAll (stream ++ [assignment]) = ((s.applyAll stream).apply assignment).2 := by
  rw [applyAll, List.foldl_append]
  rfl

theorem applyAll_append (s : IdentityAssignmentState) (first second : List IdentityAssignment) :
    s.applyAll (first ++ second) = (s.applyAll first).applyAll second :=
  List.foldl_append

end IdentityAssignmentState

namespace IdentityAssignment

/-- A 'known' assignment that names its face, as the decoder demands. -/
def Known (a : IdentityAssignment) : Prop := a.identityState = .known ∧ a.faceId ≠ none

def Unknown (a : IdentityAssignment) : Prop := a.identityState = .unknown

instance (a : IdentityAssignment) : Decidable a.Known := inferInstanceAs (Decidable (_ ∧ _))

instance (a : IdentityAssignment) : Decidable a.Unknown := inferInstanceAs (Decidable (_ = _))

theorem Known.not_unknown {a : IdentityAssignment} (h : a.Known) : ¬ a.Unknown := by
  intro hu
  have : AssignedState.known = .unknown := h.1.symm.trans hu
  cases this

end IdentityAssignment

open IdentityAssignmentState

section Apply

variable {s : IdentityAssignmentState} {a : IdentityAssignment}

theorem apply_stale (h : a.identityEpoch < s.identityEpoch) : (s.apply a).2 = s := by
  unfold apply
  simp [h]

theorem apply_known_ahead (hk : a.Known) (h : s.identityEpoch < a.identityEpoch) :
    (s.apply a).2 = s := by
  unfold apply
  simp [hk.1, h]

theorem apply_unknown_ahead (hr : s.revision < a.assignmentRevision) (hu : a.Unknown)
    (h : s.identityEpoch < a.identityEpoch) :
    (s.apply a).2 = ⟨.unknown, none, a.assignmentRevision, a.identityEpoch⟩ := by
  have hu' : a.identityState = .unknown := hu
  unfold apply
  simp [hu', Nat.not_le.mpr hr, Nat.not_lt.mpr h.le, h]

/-- Once known, an epoch refuses to be unknown again. -/
theorem apply_unknown_known (hu : a.Unknown) (h : a.identityEpoch = s.identityEpoch)
    (hs : s.state = .known) : (s.apply a).2 = s := by
  have hu' : a.identityState = .unknown := hu
  unfold apply
  simp [hu', h, hs]

theorem apply_unknown_here (hr : s.revision < a.assignmentRevision) (hu : a.Unknown)
    (h : a.identityEpoch = s.identityEpoch) (hs : s.state ≠ .known) :
    (s.apply a).2 = ⟨.unknown, none, a.assignmentRevision, s.identityEpoch⟩ := by
  have hu' : a.identityState = .unknown := hu
  unfold apply
  simp [hu', Nat.not_le.mpr hr, h, hs]

theorem apply_known_here (hr : s.revision < a.assignmentRevision) (hk : a.Known)
    (h : a.identityEpoch = s.identityEpoch) (hs : s.state ≠ .known) :
    (s.apply a).2 = ⟨.known, a.faceId, a.assignmentRevision, s.identityEpoch⟩ := by
  unfold apply
  simp [hk.1, hk.2, Nat.not_le.mpr hr, h, hs]

end Apply

/-! ## Streams -/

/-- Growing revisions, 'known' and 'unknown' only, and one face an epoch. -/
structure IsStream (stream : List IdentityAssignment) : Prop where
  revisions : stream.Pairwise (fun a b => a.assignmentRevision < b.assignmentRevision)
  positive : ∀ a ∈ stream, 0 < a.assignmentRevision
  states : ∀ a ∈ stream, a.Known ∨ a.Unknown
  epochs : ∀ a ∈ stream, 1 ≤ a.identityEpoch
  oneKnown : stream.Pairwise (fun a b => a.Known → b.Known → a.identityEpoch ≠ b.identityEpoch)

theorem IsStream.sublist {part stream : List IdentityAssignment} (h : IsStream stream)
    (hsub : part.Sublist stream) : IsStream part where
  revisions := h.revisions.sublist hsub
  positive a ha := h.positive a (hsub.subset ha)
  states a ha := h.states a (hsub.subset ha)
  epochs a ha := h.epochs a (hsub.subset ha)
  oneKnown := h.oneKnown.sublist hsub

/-- The highest epoch an 'unknown' of the stream announces, at least the first. -/
def lastReset (stream : List IdentityAssignment) : Nat :=
  stream.foldl (fun epoch a => if a.Unknown then max epoch a.identityEpoch else epoch) 1

/-- A 'known' of the first epoch, or of one that an earlier 'unknown' announced. -/
def Confirms (stream : List IdentityAssignment) (k : IdentityAssignment) : Prop :=
  k.Known ∧ (k.identityEpoch = 1 ∨ ∃ u ∈ stream, u.Unknown ∧
    u.identityEpoch = k.identityEpoch ∧ u.assignmentRevision < k.assignmentRevision)

instance (stream : List IdentityAssignment) (k : IdentityAssignment) :
    Decidable (Confirms stream k) :=
  inferInstanceAs (Decidable (_ ∧ _))

theorem lastReset_concat (stream : List IdentityAssignment) (a : IdentityAssignment) :
    lastReset (stream ++ [a]) =
      if a.Unknown then max (lastReset stream) a.identityEpoch else lastReset stream := by
  rw [lastReset, List.foldl_append]
  rfl

theorem one_le_lastReset (stream : List IdentityAssignment) : 1 ≤ lastReset stream := by
  induction stream using List.reverseRecOn with
  | nil => exact Nat.le_refl 1
  | append_singleton stream a ih =>
      rw [lastReset_concat]
      split <;> omega

theorem le_lastReset {stream : List IdentityAssignment} {u : IdentityAssignment}
    (hm : u ∈ stream) (hu : u.Unknown) : u.identityEpoch ≤ lastReset stream := by
  induction stream using List.reverseRecOn with
  | nil => cases hm
  | append_singleton stream a ih =>
      rw [lastReset_concat]
      rcases List.mem_append.mp hm with h | h
      · have := ih h
        split <;> omega
      · obtain rfl := List.mem_singleton.mp h
        rw [if_pos hu]
        exact Nat.le_max_right _ _

theorem lastReset_announced (stream : List IdentityAssignment) :
    lastReset stream = 1 ∨ ∃ u ∈ stream, u.Unknown ∧ u.identityEpoch = lastReset stream := by
  induction stream using List.reverseRecOn with
  | nil => exact Or.inl rfl
  | append_singleton stream a ih =>
      rw [lastReset_concat]
      by_cases ha : a.Unknown ∧ lastReset stream < a.identityEpoch
      · refine Or.inr ⟨a, by simp, ha.1, ?_⟩
        rw [if_pos ha.1, Nat.max_eq_right ha.2.le]
      · -- the newcomer announces nothing higher
        have hsame : (if a.Unknown then max (lastReset stream) a.identityEpoch
            else lastReset stream) = lastReset stream := by
          split
          · rename_i hu
            exact Nat.max_eq_left (Nat.le_of_not_lt fun hlt => ha ⟨hu, hlt⟩)
          · rfl
        rw [hsame]
        rcases ih with h | ⟨u, hu, hrest⟩
        · exact Or.inl h
        · exact Or.inr ⟨u, List.mem_append_left _ hu, hrest⟩

theorem lastReset_mono {part stream : List IdentityAssignment} (h : part ⊆ stream) :
    lastReset part ≤ lastReset stream := by
  rcases lastReset_announced part with h1 | ⟨u, hu, hunk, he⟩
  · rw [h1]
    exact one_le_lastReset stream
  · rw [← he]
    exact le_lastReset (h hu) hunk

theorem Confirms.mono {part stream : List IdentityAssignment} (h : part ⊆ stream)
    {k : IdentityAssignment} (hk : Confirms part k) : Confirms stream k := by
  refine ⟨hk.1, hk.2.imp_right ?_⟩
  rintro ⟨u, hu, hrest⟩
  exact ⟨u, h hu, hrest⟩

/-! ## Reading the state back from the stream -/

/-- What the native state says about the stream that led to it. -/
structure Reads (stream : List IdentityAssignment) (s : IdentityAssignmentState) : Prop where
  revision : s.revision = 0 ∨ ∃ a ∈ stream, a.assignmentRevision = s.revision
  epoch : s.identityEpoch = lastReset stream
  known : s.state = .known ↔
    ∃ k ∈ stream, Confirms stream k ∧ k.identityEpoch = lastReset stream
  face : ∀ k ∈ stream, Confirms stream k → k.identityEpoch = lastReset stream →
    s.faceId = k.faceId
  noFace : s.state ≠ .known → s.faceId = none
  pending : s.state = .pending → ∀ u ∈ stream, ¬ u.Unknown
  unknown : s.state = .unknown → ∃ u ∈ stream, u.Unknown ∧ u.identityEpoch = lastReset stream

section Reads

variable {stream : List IdentityAssignment} {s : IdentityAssignmentState}
  {a : IdentityAssignment}

theorem confirms_concat {k : IdentityAssignment} (hk : k.assignmentRevision ≤ a.assignmentRevision) :
    Confirms (stream ++ [a]) k ↔ Confirms stream k := by
  refine ⟨?_, Confirms.mono (List.subset_append_left _ _)⟩
  rintro ⟨hknown, h1 | ⟨u, hu, hrest⟩⟩
  · exact ⟨hknown, Or.inl h1⟩
  · rcases List.mem_append.mp hu with h | h
    · exact ⟨hknown, Or.inr ⟨u, h, hrest⟩⟩
    · -- the newcomer is too young to have announced `k`
      obtain rfl := List.mem_singleton.mp h
      exact absurd hrest.2.2 (Nat.not_lt.mpr hk)

/-- A newcomer that decides nothing leaves the reading as it was. -/
theorem Reads.extend (h : Reads stream s)
    (hlt : ∀ b ∈ stream, b.assignmentRevision < a.assignmentRevision)
    (hreset : lastReset (stream ++ [a]) = lastReset stream)
    (hknown : a.Known → a.identityEpoch ≠ lastReset stream)
    (hpending : s.state = .pending → ¬ a.Unknown) : Reads (stream ++ [a]) s where
  revision := h.revision.imp_right fun ⟨b, hb, hrest⟩ => ⟨b, List.mem_append_left _ hb, hrest⟩
  epoch := h.epoch.trans hreset.symm
  known := by
    rw [h.known, hreset]
    constructor
    · rintro ⟨k, hk, hc, he⟩
      exact ⟨k, List.mem_append_left _ hk, (confirms_concat (hlt k hk).le).mpr hc, he⟩
    · rintro ⟨k, hk, hc, he⟩
      rcases List.mem_append.mp hk with hk | hk
      · exact ⟨k, hk, (confirms_concat (hlt k hk).le).mp hc, he⟩
      · obtain rfl := List.mem_singleton.mp hk
        exact absurd he (hknown hc.1)
  face := by
    intro k hk hc he
    rw [hreset] at he
    rcases List.mem_append.mp hk with hk | hk
    · exact h.face k hk ((confirms_concat (hlt k hk).le).mp hc) he
    · obtain rfl := List.mem_singleton.mp hk
      exact absurd he (hknown hc.1)
  noFace := h.noFace
  pending := by
    intro hp u hu
    rcases List.mem_append.mp hu with hu | hu
    · exact h.pending hp u hu
    · obtain rfl := List.mem_singleton.mp hu
      exact hpending hp
  unknown := by
    intro hs
    obtain ⟨u, hu, hrest⟩ := h.unknown hs
    exact ⟨u, List.mem_append_left _ hu, by rwa [hreset]⟩

/-- A 'known' of the current epoch is the face of the epoch. -/
theorem Reads.confirm (h : Reads stream s) (hst : IsStream (stream ++ [a]))
    (hlt : ∀ b ∈ stream, b.assignmentRevision < a.assignmentRevision) (hk : a.Known)
    (he : a.identityEpoch = lastReset stream) :
    Reads (stream ++ [a]) ⟨.known, a.faceId, a.assignmentRevision, s.identityEpoch⟩ := by
  have hreset : lastReset (stream ++ [a]) = lastReset stream := by
    rw [lastReset_concat, if_neg hk.not_unknown]
  have hmem : a ∈ stream ++ [a] := by simp
  have hconf : Confirms (stream ++ [a]) a := by
    rw [confirms_concat (Nat.le_refl _)]
    refine ⟨hk, (lastReset_announced stream).imp he.trans ?_⟩
    rintro ⟨u, hu, hunk, hue⟩
    exact ⟨u, hu, hunk, hue.trans he.symm, hlt u hu⟩
  exact {
    revision := Or.inr ⟨a, hmem, rfl⟩
    epoch := h.epoch.trans hreset.symm
    known := iff_of_true rfl ⟨a, hmem, hconf, he.trans hreset.symm⟩
    face := by
      intro k hk' hc hke
      rcases List.mem_append.mp hk' with hk' | hk'
      · -- a second 'known' of the epoch
        have hone := (List.pairwise_append.mp hst.oneKnown).2.2 k hk' a (by simp) hc.1 hk
        exact absurd (hke.trans (hreset.trans he.symm)) hone
      · rw [List.mem_singleton.mp hk']
    noFace := fun hs => absurd rfl hs
    pending := fun hs => by cases hs
    unknown := fun hs => by cases hs }

/-- An accepted 'unknown' that no 'known' of its epoch preceded. -/
theorem Reads.reset (hlt : ∀ b ∈ stream, b.assignmentRevision < a.assignmentRevision)
    (hu : a.Unknown) (he : lastReset (stream ++ [a]) = a.identityEpoch)
    (hnone : ∀ k ∈ stream, Confirms stream k → k.identityEpoch ≠ a.identityEpoch) :
    Reads (stream ++ [a]) ⟨.unknown, none, a.assignmentRevision, a.identityEpoch⟩ := by
  have hmem : a ∈ stream ++ [a] := by simp
  have hno : ∀ k ∈ stream ++ [a], Confirms (stream ++ [a]) k →
      k.identityEpoch ≠ lastReset (stream ++ [a]) := by
    intro k hk hc
    rw [he]
    rcases List.mem_append.mp hk with hk | hk
    · exact hnone k hk ((confirms_concat (hlt k hk).le).mp hc)
    · obtain rfl := List.mem_singleton.mp hk
      exact absurd hu hc.1.not_unknown
  exact {
    revision := Or.inr ⟨a, hmem, rfl⟩
    epoch := he.symm
    known := by
      refine iff_of_false (fun h => by cases h) ?_
      rintro ⟨k, hk, hc, hke⟩
      exact hno k hk hc hke
    face := fun k hk hc hke => absurd hke (hno k hk hc)
    noFace := fun _ => rfl
    pending := fun hs => by cases hs
    unknown := fun _ => ⟨a, hmem, hu, he.symm⟩ }

theorem Reads.revision_lt (h : Reads stream s)
    (hlt : ∀ b ∈ stream, b.assignmentRevision < a.assignmentRevision)
    (hpos : 0 < a.assignmentRevision) : s.revision < a.assignmentRevision := by
  rcases h.revision with h0 | ⟨b, hb, hrev⟩
  · rwa [h0]
  · rw [← hrev]
    exact hlt b hb

/-- Without an 'unknown' in the stream, the first epoch is the current one. -/
theorem lastReset_eq_one (h : ∀ u ∈ stream, ¬ u.Unknown) : lastReset stream = 1 := by
  rcases lastReset_announced stream with h1 | ⟨u, hu, hunk, -⟩
  · exact h1
  · exact absurd hunk (h u hu)

theorem Reads.apply_known (h : Reads stream s) (hst : IsStream (stream ++ [a]))
    (hlt : ∀ b ∈ stream, b.assignmentRevision < a.assignmentRevision)
    (hrev : s.revision < a.assignmentRevision) (hk : a.Known) :
    Reads (stream ++ [a]) (s.apply a).2 := by
  have hreset : lastReset (stream ++ [a]) = lastReset stream := by
    rw [lastReset_concat, if_neg hk.not_unknown]
  rcases Nat.lt_trichotomy a.identityEpoch s.identityEpoch with hlt' | heq | hgt
  · rw [apply_stale hlt']
    exact h.extend hlt hreset (fun _ => h.epoch ▸ hlt'.ne) fun _ => hk.not_unknown
  · have hs : s.state ≠ .known := by
      intro hs
      obtain ⟨k, hkm, hc, hke⟩ := h.known.mp hs
      have hone := (List.pairwise_append.mp hst.oneKnown).2.2 k hkm a (by simp) hc.1 hk
      exact hone (hke.trans (h.epoch.symm.trans heq.symm))
    rw [apply_known_here hrev hk heq hs]
    exact h.confirm hst hlt hk (heq.trans h.epoch)
  · rw [apply_known_ahead hk hgt]
    exact h.extend hlt hreset (fun _ => h.epoch ▸ hgt.ne') fun _ => hk.not_unknown

theorem Reads.apply_unknown (h : Reads stream s)
    (hlt : ∀ b ∈ stream, b.assignmentRevision < a.assignmentRevision)
    (hrev : s.revision < a.assignmentRevision) (hu : a.Unknown) (hpos : 1 ≤ a.identityEpoch) :
    Reads (stream ++ [a]) (s.apply a).2 := by
  have hreset : lastReset (stream ++ [a]) = max s.identityEpoch a.identityEpoch := by
    rw [lastReset_concat, if_pos hu, h.epoch]
  have hnk : ∀ hk : a.Known, a.identityEpoch ≠ lastReset stream :=
    fun hk => absurd hu hk.not_unknown
  rcases Nat.lt_trichotomy a.identityEpoch s.identityEpoch with hlt' | heq | hgt
  · rw [apply_stale hlt']
    rw [Nat.max_eq_left hlt'.le, h.epoch] at hreset
    refine h.extend hlt hreset hnk ?_
    -- a pending track is still in the first epoch, and nothing is below that
    intro hs
    have h1 := lastReset_eq_one (h.pending hs)
    rw [h.epoch, h1] at hlt'
    omega
  · by_cases hs : s.state = .known
    · rw [apply_unknown_known hu heq hs]
      rw [heq, Nat.max_self, h.epoch] at hreset
      exact h.extend hlt hreset hnk fun hp => by rw [hs] at hp; cases hp
    · rw [apply_unknown_here hrev hu heq hs, ← heq]
      rw [← heq, Nat.max_self] at hreset
      refine Reads.reset hlt hu hreset ?_
      intro k hk hc hke
      exact hs (h.known.mpr ⟨k, hk, hc, hke.trans (heq.trans h.epoch)⟩)
  · rw [apply_unknown_ahead hrev hu hgt]
    rw [Nat.max_eq_right hgt.le] at hreset
    refine Reads.reset hlt hu hreset ?_
    -- an epoch above the current one has not been announced before
    rintro k hk ⟨hkn, h1 | ⟨u, hum, hunk, hue, -⟩⟩ hke
    · have := one_le_lastReset stream
      rw [h.epoch] at hgt
      omega
    · have := le_lastReset hum hunk
      rw [h.epoch] at hgt
      omega

end Reads

theorem reads {stream : List IdentityAssignment} (hst : IsStream stream) :
    Reads stream (fresh.applyAll stream) := by
  induction stream using List.reverseRecOn with
  | nil =>
      exact {
        revision := Or.inl rfl
        epoch := rfl
        known := by simp [applyAll, fresh]
        face := fun k hk => by cases hk
        noFace := fun _ => rfl
        pending := fun _ u hu => by cases hu
        unknown := fun hs => by cases hs }
  | append_singleton stream a ih =>
      have h := ih (hst.sublist (List.sublist_append_left _ _))
      have hmem : a ∈ stream ++ [a] := by simp
      have hlt : ∀ b ∈ stream, b.assignmentRevision < a.assignmentRevision := fun b hb =>
        (List.pairwise_append.mp hst.revisions).2.2 b hb a (by simp)
      have hrev := h.revision_lt hlt (hst.positive a hmem)
      rw [applyAll_concat]
      rcases hst.states a hmem with hk | hu
      · exact h.apply_known hst hlt hrev hk
      · exact h.apply_unknown hlt hrev hu (hst.epochs a hmem)

end Mvision.Live
