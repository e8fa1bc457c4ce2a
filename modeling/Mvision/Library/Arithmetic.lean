import Mathlib.Algebra.BigOperators.Fin
import Mathlib.Analysis.Real.Sqrt
import Mvision.Library.FloatArith

/-!
# The arithmetic that a loop over numbers computes in

The same loop over floats and over the real numbers: what it reads, where it gives up and what it
writes where do not depend on how a sum is rounded.
-/

namespace Mvision.Library

/-- The operations of a type of numbers, some of whose values are not numbers. -/
structure Arithmetic (F : Type*) where
  zero : F
  one : F
  add : F → F → F
  mul : F → F → F
  div : F → F → F
  sqrt : F → F
  isFinite : F → Bool
  lessEq : F → F → Bool

/-- The arithmetic of a format, which rounds every result. -/
def FloatFormat.arithmetic (format : FloatFormat) : Arithmetic FloatValue where
  zero := .finite 0
  one := .finite 1
  add := format.add
  mul := format.mul
  div := format.div
  sqrt := format.sqrt
  isFinite := FloatValue.isFinite
  lessEq := FloatValue.lessEq

namespace Arithmetic

/-- The arithmetic of the real numbers; `none` is a value that is not a number. -/
noncomputable def exact : Arithmetic (Option ℝ) where
  zero := some 0
  one := some 1
  add := Option.map₂ (· + ·)
  mul := Option.map₂ (· * ·)
  div a b := a.bind fun a => b.bind fun b => if b = 0 then none else some (a / b)
  sqrt a := a.bind fun a => if a < 0 then none else some (√a)
  isFinite := Option.isSome
  lessEq a b :=
    match a, b with
    | some a, some b => decide (a ≤ b)
    | _, _ => false

variable {F : Type*} (arithmetic : Arithmetic F)

/-- The sum of the squares, from the left. -/
def squaredNorm (values : List F) : F :=
  values.foldl (fun sum value => arithmetic.add sum (arithmetic.mul value value)) arithmetic.zero

/-- A number that is positive. -/
def isPositive (value : F) : Bool :=
  arithmetic.isFinite value && !arithmetic.lessEq value arithmetic.zero

/-- A vector of numbers whose squared norm is a positive number. -/
def HasDirection {n : Nat} (values : Fin n → F) : Prop :=
  (∀ index, arithmetic.isFinite (values index) = true) ∧
    arithmetic.isPositive (arithmetic.squaredNorm (List.ofFn values)) = true

/-- The vector times the inverse of its norm. -/
def direction {n : Nat} (values : Fin n → F) : Vector F n :=
  let inverseNorm :=
    arithmetic.div arithmetic.one (arithmetic.sqrt (arithmetic.squaredNorm (List.ofFn values)))
  Vector.ofFn fun index => arithmetic.mul (values index) inverseNorm

section Exact

variable {n : Nat} (v : Fin n → ℝ)

theorem exact_foldl (values : List ℝ) (start : ℝ) :
    (values.map some).foldl (fun sum value => exact.add sum (exact.mul value value)) (some start) =
      some (start + (values.map (· ^ 2)).sum) := by
  -- the loop adds from the left, the sum of the list from the right
  induction values generalizing start with
  | nil => exact congrArg some (add_zero start).symm
  | cons value values ih =>
      rw [List.map_cons, List.foldl_cons, List.map_cons, List.sum_cons, ← add_assoc]
      have hsquare : exact.add (some start) (exact.mul (some value) (some value)) =
          some (start + value ^ 2) := by
        rw [sq]
        rfl
      rw [hsquare]
      exact ih _

theorem exact_squaredNorm :
    exact.squaredNorm (List.ofFn fun index => some (v index)) = some (∑ index, v index ^ 2) := by
  have hlist : (List.ofFn fun index => some (v index)) = (List.ofFn v).map some := by
    rw [List.map_ofFn]
    rfl
  rw [squaredNorm, hlist]
  refine (exact_foldl (List.ofFn v) 0).trans ?_
  rw [zero_add, List.map_ofFn, List.sum_ofFn]
  rfl

/-- Without rounding, every vector of numbers but zero has a direction. -/
theorem exact_hasDirection_iff {values : Fin n → Option ℝ} :
    exact.HasDirection values ↔
      ∃ v : Fin n → ℝ, (∀ index, values index = some (v index)) ∧ 0 < ∑ index, v index ^ 2 := by
  have hpositive : ∀ r : ℝ, exact.isPositive (some r) = true ↔ 0 < r := by
    intro r
    show (true && !decide (r ≤ 0)) = true ↔ 0 < r
    simp
  constructor
  · rintro ⟨hfinite, hnorm⟩
    choose v hv using fun index => Option.isSome_iff_exists.mp (hfinite index)
    obtain rfl : values = fun index => some (v index) := funext hv
    rw [exact_squaredNorm, hpositive] at hnorm
    exact ⟨v, fun _ => rfl, hnorm⟩
  · rintro ⟨v, hv, hnorm⟩
    obtain rfl : values = fun index => some (v index) := funext hv
    refine ⟨fun _ => rfl, ?_⟩
    rw [exact_squaredNorm, hpositive]
    exact hnorm

/-- The direction is the vector times the inverse of its norm. -/
theorem exact_direction (hnorm : 0 < ∑ index, v index ^ 2) :
    exact.direction (fun index => some (v index)) =
      Vector.ofFn fun index => some (v index * (√(∑ index, v index ^ 2))⁻¹) := by
  have hinverse : exact.div exact.one (exact.sqrt (some (∑ index, v index ^ 2))) =
      some (√(∑ index, v index ^ 2))⁻¹ := by
    show (if ∑ index, v index ^ 2 < 0 then none else some (√(∑ index, v index ^ 2))).bind
      (fun b => if b = 0 then none else some (1 / b)) = _
    rw [if_neg hnorm.not_gt, Option.bind_some, if_neg (Real.sqrt_pos.mpr hnorm).ne', one_div]
  unfold direction
  rw [exact_squaredNorm, hinverse]
  rfl

end Exact

end Arithmetic

end Mvision.Library
