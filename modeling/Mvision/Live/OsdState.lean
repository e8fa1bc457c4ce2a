import Mathlib.Data.Rat.Defs
import Mathlib.Logic.Function.Basic
import Mvision.Library.MessagePack
import Mvision.Live.TrackState

/-!
# The labels of the output stream: `LiveOsdState`

The display keeps its own copy of the identity of each track, beside what the
label needs.  A name is kept as the bytes of its UTF-8 form.
-/

namespace Mvision.Live

open Mvision.Library

/-- `LiveOsdState::Entry` -/
structure LiveOsdEntry where
  identity : IdentityAssignmentState := .fresh
  displayName : List UInt8 := []
  referenceEmbedding : Option (List ℚ) := none
  recognitionThreshold : Option ℚ := none
  currentScore : Option ℚ := none
  visibleKnown : Bool := false
  consecutiveHigh : Nat := 0
  consecutiveLow : Nat := 0
deriving DecidableEq, Repr

/-- The entries by tracker id. -/
structure LiveOsdState where
  generation : Nat
  entries : Nat → Option LiveOsdEntry := fun _ => none

namespace LiveOsdState

/-- The printable bytes of a name, 80 of them at most. -/
def sanitizeName : Option String → List UInt8
  | none => []
  | some name => ((utf8 name).filter fun byte => ¬ (byte < 0x20 ∨ byte = 0x7F)).take 80

/-- `LiveOsdState::apply`.  `entries_[tracker_id]` makes the entry it does not find. -/
def apply (s : LiveOsdState) (assignment : IdentityAssignment) : Bool × LiveOsdState :=
  if assignment.header.generation ≠ s.generation then (false, s)
  else
    let entry := (s.entries assignment.trackerId).getD {}
    match entry.identity.apply assignment with
    | (false, identity) =>
        (false, { s with
          entries := Function.update s.entries assignment.trackerId (some { entry with identity }) })
    | (true, identity) =>
        (true, { s with
          entries := Function.update s.entries assignment.trackerId (some
            { identity
              displayName := sanitizeName assignment.displayName
              referenceEmbedding := assignment.referenceEmbedding
              recognitionThreshold := assignment.recognitionThreshold
              visibleKnown := assignment.identityState = .known }) })

/-- The score against the threshold, with three of a kind in a row to change the label. -/
def observeEntry (entry : LiveOsdEntry) (threshold score : ℚ) : LiveOsdEntry :=
  if threshold ≤ score then
    let consecutiveHigh := min 3 (entry.consecutiveHigh + 1)
    { entry with
      currentScore := some score
      consecutiveLow := 0
      consecutiveHigh
      visibleKnown := if consecutiveHigh = 3 then true else entry.visibleKnown }
  else
    let consecutiveLow := min 3 (entry.consecutiveLow + 1)
    { entry with
      currentScore := some score
      consecutiveHigh := 0
      consecutiveLow
      visibleKnown := if consecutiveLow = 3 then false else entry.visibleKnown }

/-- `LiveOsdState::observe`, given the clamped inner product of the two embeddings. -/
def observe (s : LiveOsdState) (trackerId : Nat) (score : List ℚ → ℚ) : Bool × LiveOsdState :=
  match s.entries trackerId with
  | none => (false, s)
  | some entry =>
      match entry.referenceEmbedding, entry.recognitionThreshold with
      | some reference, some threshold =>
          (true, { s with
            entries := Function.update s.entries trackerId
              (some (observeEntry entry threshold (score reference))) })
      | _, _ => (false, s)

/-- The identity that the label of a track reads. -/
def identity (s : LiveOsdState) (trackerId : Nat) : IdentityAssignmentState :=
  ((s.entries trackerId).getD {}).identity

section Lemmas

variable {s : LiveOsdState}

theorem observeEntry_identity (entry : LiveOsdEntry) (threshold score : ℚ) :
    (observeEntry entry threshold score).identity = entry.identity := by
  unfold observeEntry
  split <;> rfl

@[simp] theorem observe_generation (trackerId : Nat) (score : List ℚ → ℚ) :
    (s.observe trackerId score).2.generation = s.generation := by
  unfold observe
  split
  · rfl
  · split <;> rfl

/-- An observation moves the label, never the identity. -/
theorem observe_identity (trackerId : Nat) (score : List ℚ → ℚ) (t : Nat) :
    (s.observe trackerId score).2.identity t = s.identity t := by
  unfold observe
  split
  · rfl
  · rename_i entry hentry
    split
    · unfold identity
      dsimp only
      by_cases h : t = trackerId
      · subst h
        rw [Function.update_self, hentry]
        exact observeEntry_identity entry _ _
      · rw [Function.update_of_ne h]
    · rfl

@[simp] theorem apply_generation (a : IdentityAssignment) :
    (s.apply a).2.generation = s.generation := by
  unfold apply
  split
  · rfl
  · dsimp only
    split <;> rfl

/-- An assignment of the generation does to its own copy what it does to any. -/
theorem apply_fst {a : IdentityAssignment} (h : a.header.generation = s.generation) :
    (s.apply a).1 = ((s.identity a.trackerId).apply a).1 := by
  unfold apply identity
  rw [if_neg (not_not.mpr h)]
  dsimp only
  split
  · rename_i identity heq
    rw [heq]
  · rename_i identity heq
    rw [heq]

theorem apply_identity {a : IdentityAssignment} (h : a.header.generation = s.generation) (t : Nat) :
    (s.apply a).2.identity t =
      if t = a.trackerId then ((s.identity a.trackerId).apply a).2 else s.identity t := by
  unfold apply identity
  rw [if_neg (not_not.mpr h)]
  dsimp only
  by_cases ht : t = a.trackerId
  · subst ht
    rw [if_pos rfl]
    split
    · rename_i identity heq
      dsimp only
      rw [heq, Function.update_self]
      rfl
    · rename_i identity heq
      dsimp only
      rw [heq, Function.update_self]
      rfl
  · rw [if_neg ht]
    split
    · dsimp only
      rw [Function.update_of_ne ht]
    · dsimp only
      rw [Function.update_of_ne ht]

end Lemmas

end LiveOsdState

end Mvision.Live
