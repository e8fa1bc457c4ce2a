import Mathlib.Data.List.Chain
import Mathlib.Tactic.Common

/-!
# Cumulative counters exported by differences

A reader of a cumulative counter that adds each rise over the value it read
last, and nothing for a fall, has added the last value and all the falls.  It
agrees with the counter exactly if it never read a fall.
-/

namespace Mvision.Library

/-- The sum of the rises of `values` from `start`; a fall counts nothing. -/
def rise : Nat → List Nat → Nat
  | _, [] => 0
  | start, value :: values => (value - start) + rise value values

/-- The sum of the falls. -/
def fall : Nat → List Nat → Nat
  | _, [] => 0
  | start, value :: values => (start - value) + fall value values

theorem rise_append_singleton (start : Nat) (values : List Nat) (value : Nat) :
    rise start (values ++ [value]) = rise start values + (value - values.getLastD start) := by
  induction values generalizing start with
  | nil => simp [rise]
  | cons first rest ih =>
      rw [List.cons_append, rise, rise, ih, List.getLastD_cons, Nat.add_assoc]

/-- What is added, and what was there, is what is there now, and the falls. -/
theorem rise_add_start (start : Nat) (values : List Nat) :
    rise start values + start = fall start values + values.getLastD start := by
  induction values generalizing start with
  | nil => rfl
  | cons first rest ih =>
      have hrest := ih first
      rw [rise, fall, List.getLastD_cons]
      omega

theorem fall_eq_zero_iff (start : Nat) (values : List Nat) :
    fall start values = 0 ↔ (start :: values).Pairwise (· ≤ ·) := by
  rw [← List.isChain_iff_pairwise]
  induction values generalizing start with
  | nil => simp [fall]
  | cons first rest ih =>
      rw [fall, Nat.add_eq_zero_iff, ih, List.isChain_cons_cons, Nat.sub_eq_zero_iff_le]

/-- The reader agrees with the counter exactly if the counter never fell. -/
theorem rise_eq_last_iff (values : List Nat) :
    rise 0 values = values.getLastD 0 ↔ values.Pairwise (· ≤ ·) := by
  have htotal := rise_add_start 0 values
  have hfall := fall_eq_zero_iff 0 values
  rw [List.pairwise_cons] at hfall
  constructor
  · intro h
    exact (hfall.mp (by omega)).2
  · intro h
    have := hfall.mpr ⟨fun value _ => Nat.zero_le value, h⟩
    omega

end Mvision.Library
