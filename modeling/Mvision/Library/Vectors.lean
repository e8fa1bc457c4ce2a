import Mathlib.Algebra.BigOperators.Group.List.Basic
import Mathlib.Algebra.Order.Field.Basic
import Mathlib.Tactic.Ring

/-!
# Vectors as lists

Dot products of lists over an ordered field, and division by a norm.
-/

namespace Mvision.Library

variable {K : Type*}

/-- The sum of the products; the longer list is cut off. -/
def dot [Mul K] [AddMonoid K] (left right : List K) : K := (List.zipWith (· * ·) left right).sum

section Semiring

variable [CommSemiring K] {a b v : List K}

@[simp] theorem dot_nil (v : List K) : dot [] v = 0 := rfl

@[simp] theorem dot_cons (x y : K) (a b : List K) : dot (x :: a) (y :: b) = x * y + dot a b :=
  List.sum_cons

theorem dot_add_left (h : a.length = b.length) :
    dot (List.zipWith (· + ·) a b) v = dot a v + dot b v := by
  induction a generalizing b v with
  | nil =>
      obtain rfl : b = [] := List.length_eq_zero_iff.mp h.symm
      simp
  | cons x a ih =>
      cases b with
      | nil => cases h
      | cons y b =>
          cases v with
          | nil => simp [dot]
          | cons z v =>
              rw [List.zipWith_cons_cons, dot_cons, dot_cons, dot_cons, ih (Nat.succ.inj h)]
              ring

theorem dot_append (h : a.length = b.length) (c d : List K) :
    dot (a ++ c) (b ++ d) = dot a b + dot c d := by
  unfold dot
  rw [List.zipWith_append h, List.sum_append]

theorem dot_eq_zero_of_forall (h : ∀ x ∈ a, x = 0) : dot a v = 0 := by
  induction a generalizing v with
  | nil => rfl
  | cons x a ih =>
      rw [List.forall_mem_cons] at h
      cases v with
      | nil => simp [dot]
      | cons y v => rw [dot_cons, h.1, zero_mul, zero_add, ih h.2]

end Semiring

theorem dot_div_left [Semifield K] {a v : List K} (c : K) : dot (a.map (· / c)) v = dot a v / c := by
  induction a generalizing v with
  | nil => simp
  | cons x a ih =>
      cases v with
      | nil => simp [dot]
      | cons z v =>
          rw [List.map_cons, dot_cons, dot_cons, ih]
          ring

section Ordered

variable [CommRing K] [LinearOrder K] [IsStrictOrderedRing K] {a v : List K}

theorem dot_self_nonneg (a : List K) : 0 ≤ dot a a := by
  induction a with
  | nil => exact le_rfl
  | cons x a ih =>
      rw [dot_cons]
      exact add_nonneg (mul_self_nonneg x) ih

theorem dot_self_eq_zero_iff : dot a a = 0 ↔ ∀ x ∈ a, x = 0 := by
  induction a with
  | nil => exact iff_of_true rfl (List.forall_mem_nil _)
  | cons x a ih =>
      rw [dot_cons, List.forall_mem_cons, ← ih,
        add_eq_zero_iff_of_nonneg (mul_self_nonneg x) (dot_self_nonneg a), mul_self_eq_zero]

/-- A vector with a product that is not zero is not the zero vector. -/
theorem dot_self_pos_of_dot_ne_zero (h : dot a v ≠ 0) : 0 < dot a a := by
  refine lt_of_le_of_ne (dot_self_nonneg a) fun hzero => h ?_
  exact dot_eq_zero_of_forall (dot_self_eq_zero_iff.mp hzero.symm)

end Ordered

end Mvision.Library
