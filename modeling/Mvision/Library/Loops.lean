import Mathlib.Order.Monotone.Defs

/-!
# Loops

A pass of a loop goes on at a next state or ends the loop with a result.  A loop is run with
fuel: when a measure falls with every pass, enough of it gives the result, and more changes
nothing.
-/

namespace Mvision.Library

variable {σ ρ : Type*}

/-- What a pass of a loop does. -/
inductive Pass (σ ρ : Type*) where
  | next (s : σ)
  | done (r : ρ)
deriving DecidableEq

variable {pass : σ → Pass σ ρ} {s s' : σ} {r : ρ} {fuel : Nat}

/-- The result of the loop, if it ends within the fuel. -/
def loop (pass : σ → Pass σ ρ) : Nat → σ → Option ρ
  | 0, _ => none
  | fuel + 1, s =>
      match pass s with
      | .next s' => loop pass fuel s'
      | .done r => some r

theorem loop_next (h : pass s = .next s') : loop pass (fuel + 1) s = loop pass fuel s' := by
  rw [loop, h]

theorem loop_done (h : pass s = .done r) : loop pass (fuel + 1) s = some r := by
  rw [loop, h]

/-- More fuel gives the same result. -/
theorem loop_mono (h : loop pass fuel s = some r) {fuel' : Nat} (hle : fuel ≤ fuel') :
    loop pass fuel' s = some r := by
  -- both loops make the same passes until the shorter one ends
  induction fuel generalizing s fuel' with
  | zero => cases h
  | succ fuel ih =>
      cases fuel' with
      | zero => exact absurd hle (Nat.not_succ_le_zero fuel)
      | succ fuel' =>
          have hle := Nat.le_of_succ_le_succ hle
          cases hpass : pass s with
          | next s' =>
              rw [loop_next hpass] at h ⊢
              exact ih h hle
          | done r' =>
              rw [loop_done hpass] at h ⊢
              exact h

/-- Every pass from a state of the invariant keeps it and lowers the measure, so the loop ends
with what its last pass ends with. -/
theorem loop_total {I : σ → Prop} {Q : ρ → Prop} (measure : σ → Nat)
    (hnext : ∀ s s', I s → pass s = .next s' → I s' ∧ measure s' < measure s)
    (hdone : ∀ s r, I s → pass s = .done r → Q r) (hs : I s) (hfuel : measure s < fuel) :
    ∃ r, loop pass fuel s = some r ∧ Q r := by
  -- a pass costs one unit of fuel and at least one of the measure
  induction fuel generalizing s with
  | zero => exact absurd hfuel (Nat.not_lt_zero _)
  | succ fuel ih =>
      cases hpass : pass s with
      | next s' =>
          obtain ⟨hs', hfalls⟩ := hnext s s' hs hpass
          obtain ⟨r, hr, hQ⟩ := ih hs' (Nat.lt_of_lt_of_le hfalls (Nat.le_of_lt_succ hfuel))
          exact ⟨r, (loop_next hpass).trans hr, hQ⟩
      | done r => exact ⟨r, loop_done hpass, hdone s r hs hpass⟩

end Mvision.Library
