import Mathlib.Algebra.BigOperators.Field
import Mathlib.Algebra.Order.BigOperators.Ring.Finset
import Mathlib.Tactic.FieldSimp
import Mathlib.Tactic.Linarith

/-!
# Similarities of the plane

A similarity turns, scales and shifts the plane.  The one that brings points closest to given
ones, in the sum of the squared distances, has a closed form.  It is the only one, so it follows
the points when they are moved by another similarity.
-/

namespace Mvision.Plane

@[ext]
structure PlanePoint (K : Type*) where
  x : K
  y : K

/-- `(x, y)` goes to `(a x - b y + shiftX, b x + a y + shiftY)`. -/
@[ext]
structure Similarity (K : Type*) where
  a : K
  b : K
  shiftX : K
  shiftY : K

variable {K ι : Type*} [Field K]

namespace PlanePoint

def squaredDistance (p q : PlanePoint K) : K := (p.x - q.x) ^ 2 + (p.y - q.y) ^ 2

theorem squaredDistance_self (p : PlanePoint K) : p.squaredDistance p = 0 := by
  unfold squaredDistance
  ring

end PlanePoint

namespace Similarity

variable (m l : Similarity K)

def apply (p : PlanePoint K) : PlanePoint K :=
  ⟨m.a * p.x - m.b * p.y + m.shiftX, m.b * p.x + m.a * p.y + m.shiftY⟩

/-- The square of the scale. -/
def determinant : K := m.a * m.a + m.b * m.b

/-- The point that is brought to `q`. -/
def back (q : PlanePoint K) : PlanePoint K :=
  ⟨(m.a * (q.x - m.shiftX) + m.b * (q.y - m.shiftY)) / m.determinant,
    (-m.b * (q.x - m.shiftX) + m.a * (q.y - m.shiftY)) / m.determinant⟩

/-- First `l`, then `m`. -/
def comp : Similarity K where
  a := m.a * l.a - m.b * l.b
  b := m.b * l.a + m.a * l.b
  shiftX := m.a * l.shiftX - m.b * l.shiftY + m.shiftX
  shiftY := m.b * l.shiftX + m.a * l.shiftY + m.shiftY

variable {m l}

theorem apply_comp (p : PlanePoint K) : (m.comp l).apply p = m.apply (l.apply p) := by
  ext <;> simp only [apply, comp] <;> ring

theorem determinant_comp : (m.comp l).determinant = m.determinant * l.determinant := by
  simp only [determinant, comp]
  ring

theorem apply_back (h : m.determinant ≠ 0) (q : PlanePoint K) : m.apply (m.back q) = q := by
  have hdet : m.a ^ 2 + m.b ^ 2 ≠ 0 := by
    intro hzero
    exact h (by rw [determinant, ← hzero]; ring)
  ext <;> simp only [apply, back, determinant] <;> field_simp <;> ring

theorem back_apply (h : m.determinant ≠ 0) (p : PlanePoint K) : m.back (m.apply p) = p := by
  have hdet : m.a ^ 2 + m.b ^ 2 ≠ 0 := by
    intro hzero
    exact h (by rw [determinant, ← hzero]; ring)
  ext <;> simp only [apply, back, determinant] <;> field_simp <;> ring

theorem apply_injective (h : m.determinant ≠ 0) : Function.Injective m.apply :=
  Function.LeftInverse.injective (back_apply h)

theorem ext_apply {m m' : Similarity K} (h : ∀ p, m.apply p = m'.apply p) : m = m' := by
  have horigin := h ⟨0, 0⟩
  have hunit := h ⟨1, 0⟩
  simp only [apply, mul_zero, mul_one, sub_zero, add_zero, zero_add,
    PlanePoint.mk.injEq] at horigin hunit
  obtain ⟨hx, hy⟩ := horigin
  rw [hx, hy] at hunit
  ext
  · exact add_right_cancel hunit.1
  · exact add_right_cancel hunit.2
  · exact hx
  · exact hy

theorem back_comp (hm : m.determinant ≠ 0) (hl : l.determinant ≠ 0) (q : PlanePoint K) :
    (m.comp l).back q = l.back (m.back q) := by
  have hcomp : (m.comp l).determinant ≠ 0 := by
    rw [determinant_comp]
    exact mul_ne_zero hm hl
  apply apply_injective hcomp
  rw [apply_back hcomp, apply_comp, apply_back hl, apply_back hm]

variable (l) in
/-- The similarity back. -/
def inverse : Similarity K where
  a := l.a / l.determinant
  b := -l.b / l.determinant
  shiftX := (l.back ⟨0, 0⟩).x
  shiftY := (l.back ⟨0, 0⟩).y

theorem inverse_apply (q : PlanePoint K) : l.inverse.apply q = l.back q := by
  ext <;> simp only [apply, inverse, back] <;> ring

theorem comp_inverse_comp (hl : l.determinant ≠ 0) : (m.comp l.inverse).comp l = m := by
  apply ext_apply
  intro p
  rw [apply_comp, apply_comp, inverse_apply, back_apply hl]

end Similarity

/-! ## The closest similarity -/

section Fit

variable (s : Finset ι) (p q : ι → PlanePoint K)

def centroid : PlanePoint K :=
  ⟨(∑ i ∈ s, (p i).x) / s.card, (∑ i ∈ s, (p i).y) / s.card⟩

/-- A point seen from the centroid. -/
def centred (i : ι) : PlanePoint K := ⟨(p i).x - (centroid s p).x, (p i).y - (centroid s p).y⟩

/-- The sum of the squared distances to the centroid. -/
def spread : K := ∑ i ∈ s, ((centred s p i).x * (centred s p i).x +
  (centred s p i).y * (centred s p i).y)

def centredDot : K := ∑ i ∈ s, ((centred s p i).x * (centred s q i).x +
  (centred s p i).y * (centred s q i).y)

def centredCross : K := ∑ i ∈ s, ((centred s p i).x * (centred s q i).y -
  (centred s p i).y * (centred s q i).x)

/-- The similarity that brings the points closest. -/
def fit : Similarity K where
  a := centredDot s p q / spread s p
  b := centredCross s p q / spread s p
  shiftX := (centroid s q).x - centredDot s p q / spread s p * (centroid s p).x +
    centredCross s p q / spread s p * (centroid s p).y
  shiftY := (centroid s q).y - centredCross s p q / spread s p * (centroid s p).x -
    centredDot s p q / spread s p * (centroid s p).y

/-- The sum of the squared distances that are left. -/
def residual (m : Similarity K) : K := ∑ i ∈ s, (m.apply (p i)).squaredDistance (q i)

variable {s p q}

theorem sum_centred_x (hs : (s.card : K) ≠ 0) : ∑ i ∈ s, (centred s p i).x = 0 := by
  unfold centred
  rw [Finset.sum_sub_distrib, Finset.sum_const, nsmul_eq_mul, centroid, mul_div_cancel₀ _ hs,
    sub_self]

theorem sum_centred_y (hs : (s.card : K) ≠ 0) : ∑ i ∈ s, (centred s p i).y = 0 := by
  unfold centred
  rw [Finset.sum_sub_distrib, Finset.sum_const, nsmul_eq_mul, centroid, mul_div_cancel₀ _ hs,
    sub_self]

theorem fit_apply_centroid : (fit s p q).apply (centroid s p) = centroid s q := by
  ext <;> simp only [Similarity.apply, fit] <;> ring

/-- What is left of one point. -/
theorem squaredDistance_apply (m : Similarity K) (i : ι) :
    (m.apply (p i)).squaredDistance (q i) =
      m.determinant * ((centred s p i).x * (centred s p i).x +
        (centred s p i).y * (centred s p i).y) -
      2 * m.a * ((centred s p i).x * (centred s q i).x +
        (centred s p i).y * (centred s q i).y) -
      2 * m.b * ((centred s p i).x * (centred s q i).y -
        (centred s p i).y * (centred s q i).x) +
      (q i).squaredDistance (centroid s q) +
      (m.apply (centroid s p)).squaredDistance (centroid s q) +
      2 * ((m.apply (centroid s p)).x - (centroid s q).x) *
        (m.a * (centred s p i).x - m.b * (centred s p i).y - (centred s q i).x) +
      2 * ((m.apply (centroid s p)).y - (centroid s q).y) *
        (m.b * (centred s p i).x + m.a * (centred s p i).y - (centred s q i).y) := by
  simp only [PlanePoint.squaredDistance, Similarity.apply, Similarity.determinant, centred]
  ring

/-- What is left of all points. -/
theorem residual_eq_centred (hs : (s.card : K) ≠ 0) (m : Similarity K) :
    residual s p q m =
      m.determinant * spread s p - 2 * m.a * centredDot s p q - 2 * m.b * centredCross s p q +
        ∑ i ∈ s, (q i).squaredDistance (centroid s q) +
        s.card * (m.apply (centroid s p)).squaredDistance (centroid s q) := by
  have hx : ∑ i ∈ s, (m.a * (centred s p i).x - m.b * (centred s p i).y -
      (centred s q i).x) = 0 := by
    simp only [Finset.sum_sub_distrib, ← Finset.mul_sum, sum_centred_x hs, sum_centred_y hs,
      mul_zero, sub_zero]
  have hy : ∑ i ∈ s, (m.b * (centred s p i).x + m.a * (centred s p i).y -
      (centred s q i).y) = 0 := by
    simp only [Finset.sum_add_distrib, Finset.sum_sub_distrib, ← Finset.mul_sum,
      sum_centred_x hs, sum_centred_y hs, mul_zero, add_zero, sub_zero]
  unfold residual spread centredDot centredCross
  rw [Finset.sum_congr rfl fun i _ => @squaredDistance_apply K ι _ s p q m i]
  rw [Finset.sum_add_distrib, Finset.sum_add_distrib, Finset.sum_add_distrib,
    Finset.sum_add_distrib, Finset.sum_sub_distrib, Finset.sum_sub_distrib, ← Finset.mul_sum,
    ← Finset.mul_sum, ← Finset.mul_sum, ← Finset.mul_sum, ← Finset.mul_sum, hx, hy,
    Finset.sum_const, nsmul_eq_mul, mul_zero, mul_zero, add_zero, add_zero]

/-- Any similarity leaves as much more as it differs from the closest one. -/
theorem residual_eq_fit_add (hs : (s.card : K) ≠ 0) (hspread : spread s p ≠ 0)
    (m : Similarity K) :
    residual s p q m = residual s p q (fit s p q) +
      spread s p * ((m.a - (fit s p q).a) ^ 2 + (m.b - (fit s p q).b) ^ 2) +
      s.card * (m.apply (centroid s p)).squaredDistance (centroid s q) := by
  rw [residual_eq_centred hs, residual_eq_centred hs, fit_apply_centroid,
    PlanePoint.squaredDistance_self]
  simp only [Similarity.determinant, fit]
  field_simp
  ring

/-! ## Moved points -/

theorem centroid_apply (hs : (s.card : K) ≠ 0) (l : Similarity K) :
    centroid s (fun i => l.apply (p i)) = l.apply (centroid s p) := by
  ext
  · simp only [centroid, Similarity.apply, Finset.sum_add_distrib, Finset.sum_sub_distrib,
      ← Finset.mul_sum, Finset.sum_const, nsmul_eq_mul]
    field_simp
  · simp only [centroid, Similarity.apply, Finset.sum_add_distrib, ← Finset.mul_sum,
      Finset.sum_const, nsmul_eq_mul]
    field_simp

theorem spread_apply (hs : (s.card : K) ≠ 0) (l : Similarity K) :
    spread s (fun i => l.apply (p i)) = l.determinant * spread s p := by
  unfold spread centred
  rw [centroid_apply hs, Finset.mul_sum]
  refine Finset.sum_congr rfl fun i _ => ?_
  simp only [Similarity.apply, Similarity.determinant]
  ring

/-! ## No other is as close -/

variable [LinearOrder K] [IsStrictOrderedRing K]

theorem PlanePoint.squaredDistance_nonneg (p q : PlanePoint K) : 0 ≤ p.squaredDistance q :=
  add_nonneg (sq_nonneg _) (sq_nonneg _)

theorem PlanePoint.eq_of_squaredDistance_le_zero {p q : PlanePoint K}
    (h : p.squaredDistance q ≤ 0) : p = q := by
  have hx := sq_nonneg (p.x - q.x)
  have hy := sq_nonneg (p.y - q.y)
  unfold squaredDistance at h
  ext
  · exact sub_eq_zero.mp (pow_eq_zero_iff two_ne_zero |>.mp (by linarith))
  · exact sub_eq_zero.mp (pow_eq_zero_iff two_ne_zero |>.mp (by linarith))

theorem card_pos_of_spread (hspread : 0 < spread s p) : (0 : K) < s.card := by
  rcases s.eq_empty_or_nonempty with rfl | hs
  · exact absurd hspread (by simp [spread])
  · exact Nat.cast_pos.mpr hs.card_pos

theorem residual_fit_le (hspread : 0 < spread s p) (m : Similarity K) :
    residual s p q (fit s p q) ≤ residual s p q m := by
  have hs := card_pos_of_spread hspread
  rw [residual_eq_fit_add hs.ne' hspread.ne' m]
  have hlinear := mul_nonneg hspread.le
    (add_nonneg (sq_nonneg (m.a - (fit s p q).a)) (sq_nonneg (m.b - (fit s p q).b)))
  have hshift := mul_nonneg hs.le
    ((m.apply (centroid s p)).squaredDistance_nonneg (centroid s q))
  linarith

/-- No other similarity leaves as little. -/
theorem eq_fit_of_residual_le (hspread : 0 < spread s p) {m : Similarity K}
    (h : residual s p q m ≤ residual s p q (fit s p q)) : m = fit s p q := by
  have hs := card_pos_of_spread hspread
  rw [residual_eq_fit_add hs.ne' hspread.ne' m] at h
  have ha := sq_nonneg (m.a - (fit s p q).a)
  have hb := sq_nonneg (m.b - (fit s p q).b)
  have hlinear := mul_nonneg hspread.le (add_nonneg ha hb)
  have hshift := mul_nonneg hs.le
    ((m.apply (centroid s p)).squaredDistance_nonneg (centroid s q))
  have hzero : (m.a - (fit s p q).a) ^ 2 + (m.b - (fit s p q).b) ^ 2 ≤ 0 :=
    nonpos_of_mul_nonpos_right (by linarith) hspread
  have hcentroid : m.apply (centroid s p) = centroid s q :=
    PlanePoint.eq_of_squaredDistance_le_zero (nonpos_of_mul_nonpos_right (by linarith) hs)
  have hma : m.a = (fit s p q).a :=
    sub_eq_zero.mp (pow_eq_zero_iff two_ne_zero |>.mp (by linarith))
  have hmb : m.b = (fit s p q).b :=
    sub_eq_zero.mp (pow_eq_zero_iff two_ne_zero |>.mp (by linarith))
  -- the shift is the one that brings the centroid to its place
  have hsame : m.apply (centroid s p) = (fit s p q).apply (centroid s p) :=
    hcentroid.trans fit_apply_centroid.symm
  simp only [Similarity.apply, hma, hmb, PlanePoint.mk.injEq] at hsame
  ext
  · exact hma
  · exact hmb
  · exact add_left_cancel hsame.1
  · exact add_left_cancel hsame.2

/-- The closest similarity for moved points moves them back first. -/
theorem fit_apply_comp (hspread : 0 < spread s p) {l : Similarity K}
    (hl : 0 < l.determinant) :
    (fit s (fun i => l.apply (p i)) q).comp l = fit s p q := by
  have hmoved : ∀ m : Similarity K,
      residual s p q (m.comp l) = residual s (fun i => l.apply (p i)) q m := by
    intro m
    exact Finset.sum_congr rfl fun i _ => by rw [Similarity.apply_comp]
  apply eq_fit_of_residual_le hspread
  have hspread' : 0 < spread s fun i => l.apply (p i) := by
    rw [spread_apply (card_pos_of_spread hspread).ne']
    exact mul_pos hl hspread
  calc residual s p q ((fit s (fun i => l.apply (p i)) q).comp l)
      = residual s (fun i => l.apply (p i)) q (fit s (fun i => l.apply (p i)) q) := hmoved _
    _ ≤ residual s (fun i => l.apply (p i)) q ((fit s p q).comp l.inverse) :=
        residual_fit_le hspread' _
    _ = residual s p q (((fit s p q).comp l.inverse).comp l) := (hmoved _).symm
    _ = residual s p q (fit s p q) := by rw [Similarity.comp_inverse_comp hl.ne']

end Fit

end Mvision.Plane
