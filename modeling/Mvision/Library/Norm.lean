import Mathlib.Analysis.Real.Sqrt
import Mvision.Library.Vectors

/-!
# Norms of rational vectors

A norm is compared by squares, which are rational numbers.
-/

namespace Mvision.Library

/-- The norm of a vector. -/
noncomputable def euclideanNorm (v : List ℚ) : ℝ := Real.sqrt (dot v v : ℚ)

/-- The norm of a vector is between two numbers. -/
def NormWithin (least greatest : ℚ) (v : List ℚ) : Prop :=
  least ^ 2 ≤ dot v v ∧ dot v v ≤ greatest ^ 2

instance normWithinDecidable (least greatest : ℚ) (v : List ℚ) :
    Decidable (NormWithin least greatest v) :=
  inferInstanceAs (Decidable (_ ∧ _))

variable {least greatest tolerance : ℚ} {v : List ℚ}

theorem normWithin_iff (hleast : 0 ≤ least) (hgreatest : 0 ≤ greatest) :
    NormWithin least greatest v ↔ least ≤ euclideanNorm v ∧ euclideanNorm v ≤ greatest := by
  unfold NormWithin euclideanNorm
  rw [Real.le_sqrt (Rat.cast_nonneg.mpr hleast), Real.sqrt_le_left (Rat.cast_nonneg.mpr hgreatest),
    ← Rat.cast_pow, ← Rat.cast_pow, Rat.cast_le, Rat.cast_le]
  exact Rat.cast_nonneg.mpr (dot_self_nonneg v)

/-- The norm is 1 up to a tolerance. -/
theorem normWithin_one_iff (hpos : 0 ≤ tolerance) (hle : tolerance ≤ 1) :
    NormWithin (1 - tolerance) (1 + tolerance) v ↔ |euclideanNorm v - 1| ≤ tolerance := by
  rw [normWithin_iff (sub_nonneg.mpr hle) (add_nonneg zero_le_one hpos), abs_le, Rat.cast_sub,
    Rat.cast_add, Rat.cast_one]
  constructor
  · rintro ⟨hleast, hgreatest⟩
    exact ⟨by linarith, by linarith⟩
  · rintro ⟨hleast, hgreatest⟩
    exact ⟨by linarith, by linarith⟩

/-- A vector whose last component is its only one. -/
theorem euclideanNorm_last (n : Nat) {q : ℚ} (h : 0 ≤ q) :
    euclideanNorm (List.replicate n 0 ++ [q]) = q := by
  have hzeros : dot (List.replicate n 0) (List.replicate n (0 : ℚ)) = 0 :=
    dot_eq_zero_of_forall fun _ hx => List.eq_of_mem_replicate hx
  rw [euclideanNorm, dot_append rfl, hzeros, zero_add, dot_cons, dot_nil, add_zero, Rat.cast_mul]
  exact Real.sqrt_mul_self (Rat.cast_nonneg.mpr h)

end Mvision.Library
