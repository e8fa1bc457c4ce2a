import Mvision.Library.FloatArith
import Mvision.Library.FloatBits
import Mvision.Library.FloatBounds

/-!
# The grid of a float format

The numbers of a format are multiples of its smallest one.  So the difference of two different
numbers is at least that one, and no rounding makes it zero.
-/

namespace Mvision.Library

namespace FloatFormat

variable (format : FloatFormat)

/-- A multiple of the smallest number of the format. -/
def OnGrid (q : ℚ) : Prop := ∃ n : Int, q = n * 2 ^ format.minExponent

/-- A value of the format is infinite, not a number or on the grid. -/
def Gridded (x : FloatValue) : Prop := ∀ q, x = .finite q → format.OnGrid q

variable {format}

theorem onGrid_zero : format.OnGrid 0 := ⟨0, by rw [Int.cast_zero, zero_mul]⟩

theorem OnGrid.neg {q : ℚ} (h : format.OnGrid q) : format.OnGrid (-q) := by
  obtain ⟨n, rfl⟩ := h
  exact ⟨-n, by rw [Int.cast_neg, neg_mul]⟩

theorem OnGrid.sub {p q : ℚ} (hp : format.OnGrid p) (hq : format.OnGrid q) :
    format.OnGrid (p - q) := by
  obtain ⟨m, rfl⟩ := hp
  obtain ⟨n, rfl⟩ := hq
  exact ⟨m - n, by rw [Int.cast_sub, sub_mul]⟩

/-- A multiple of a larger power. -/
theorem onGrid_of_le {e : Int} (h : format.minExponent ≤ e) (n : Int) :
    format.OnGrid (n * 2 ^ e) := by
  obtain ⟨d, rfl⟩ := Int.le.dest h
  refine ⟨n * 2 ^ d, ?_⟩
  rw [zpow_add₀ (by norm_num), zpow_natCast]
  push_cast
  ring

theorem onGrid_magnitude (exponent fraction : Nat) :
    format.OnGrid (format.magnitude exponent fraction) := by
  unfold magnitude
  split_ifs with hzero
  · exact ⟨fraction, by push_cast; rfl⟩
  · have hle : format.minExponent ≤ format.minExponent + exponent - 1 := by omega
    have h := onGrid_of_le hle ((2 ^ (format.precision - 1) + fraction : Nat) : Int)
    push_cast at h
    exact h

/-- What has a bit pattern is on the grid. -/
theorem Has.gridded {exponentBits : Nat} {x : FloatValue} (h : format.Has exponentBits x) :
    format.Gridded x := by
  intro q hq
  obtain ⟨negative, exponent, fraction, -, -, hparts⟩ := h.exists_parts
  unfold ofParts at hparts
  rw [hq] at hparts
  split_ifs at hparts with hspecial hfraction hnegative
  · obtain rfl := FloatValue.finite.inj hparts
    exact (onGrid_magnitude exponent fraction).neg
  · obtain rfl := FloatValue.finite.inj hparts
    exact onGrid_magnitude exponent fraction

/-- What is rounded is on the grid. -/
theorem gridded_round (q : ℚ) : format.Gridded (format.round q) := by
  intro r hr
  unfold round at hr
  split_ifs at hr with hzero
  · obtain rfl := FloatValue.finite.inj hr
    exact onGrid_zero
  · dsimp only at hr
    split_ifs at hr with hrange
    · obtain rfl := FloatValue.finite.inj hr
      exact onGrid_of_le (le_max_right _ _) _

theorem gridded_div (a b : FloatValue) : format.Gridded (format.div a b) := by
  cases a with
  | finite p =>
      cases b with
      | finite q =>
          show format.Gridded (if q = 0 then _ else _)
          split_ifs
          · intro r h; cases h
          · intro r h; cases h
          · exact gridded_round _
      | infinite t =>
          intro r h
          obtain rfl := FloatValue.finite.inj h
          exact onGrid_zero
      | nan => intro r h; cases h
  | infinite s => cases b <;> (intro r h; cases h)
  | nan => cases b <;> (intro r h; cases h)

theorem gridded_clamp {value least greatest : FloatValue} (hvalue : format.Gridded value)
    (hleast : format.Gridded least) (hgreatest : format.Gridded greatest) :
    format.Gridded (value.clamp least greatest) := by
  unfold FloatValue.clamp
  split_ifs
  · exact hleast
  · exact hgreatest
  · exact hvalue

/-- The difference of two numbers of the format, rounded, is a number above zero. -/
theorem sub_pos_of_lt (hprecision : 1 ≤ format.precision) {k : Int}
    (hleast : format.minExponent ≤ k) (hmost : k < format.maxExponent) {p q : ℚ}
    (hp : format.OnGrid p) (hq : format.OnGrid q) (hlt : q < p) (hle : p - q ≤ 2 ^ k) :
    ∃ r, format.sub (.finite p) (.finite q) = .finite r ∧ 0 < r ∧ r ≤ 2 ^ k := by
  obtain ⟨n, hn⟩ := hp.sub hq
  have hunit : (0 : ℚ) < 2 ^ format.minExponent := zpow_pos (by norm_num) _
  have hpos : 0 < p - q := sub_pos.mpr hlt
  -- at least one step of the grid lies between them
  have hstep : (2 : ℚ) ^ format.minExponent ≤ p - q := by
    have hwhole : 0 < n := by
      rw [hn] at hpos
      exact_mod_cast pos_of_mul_pos_left hpos hunit.le
    have hone : (1 : ℚ) ≤ n := by exact_mod_cast hwhole
    calc (2 : ℚ) ^ format.minExponent = 1 * 2 ^ format.minExponent := (one_mul _).symm
      _ ≤ n * 2 ^ format.minExponent := mul_le_mul_of_nonneg_right hone hunit.le
      _ = p - q := hn.symm
  have habs : |p - q| = p - q := abs_of_pos hpos
  obtain ⟨r, hr, hbound, hnonneg⟩ :=
    format.round_of_abs_le hprecision hleast hmost (habs.trans_le hle)
  have habove := format.le_abs_of_round hprecision le_rfl (hstep.trans_eq habs.symm) hr
  rw [abs_of_nonneg (hnonneg hpos.le)] at habove hbound
  refine ⟨r, ?_, hunit.trans_le habove, hbound⟩
  show format.round (p + -q) = .finite r
  rw [← sub_eq_add_neg]
  exact hr

/-- A number on the grid is moved by a small part of it. -/
theorem OnGrid.abs_round_sub_le {x r : ℚ} (hx : format.OnGrid x)
    (hr : format.round x = .finite r) : |r - x| ≤ |x| / 2 ^ format.precision := by
  by_cases hzero : x = 0
  · subst hzero
    have hround : format.round 0 = .finite 0 := if_pos rfl
    rw [hround] at hr
    obtain rfl := FloatValue.finite.inj hr
    rw [sub_zero, abs_zero, zero_div]
  rcases le_or_gt format.minExponent (Int.log 2 |x| - (format.precision - 1)) with hle | hlt
  · have hlast : format.lastBit x = Int.log 2 |x| - (format.precision - 1) := max_eq_left hle
    have hsplit : Int.log 2 |x| - ((format.precision : Int) - 1) =
        1 + Int.log 2 |x| - format.precision := by ring
    calc |r - x| ≤ 2 ^ format.lastBit x / 2 := FloatFormat.abs_round_sub_le hr
      _ = 2 ^ Int.log 2 |x| / 2 ^ format.precision := by
          rw [hlast, hsplit, zpow_sub₀ (by norm_num), zpow_add₀ (by norm_num), zpow_natCast,
            zpow_one]
          ring
      _ ≤ |x| / 2 ^ format.precision :=
          div_le_div_of_nonneg_right (two_zpow_log_le hzero) (by positivity)
  · -- below the normal numbers the grid is the unit
    obtain ⟨n, hn⟩ := hx
    have hlast : format.lastBit x = format.minExponent := max_eq_right hlt.le
    have hunit : (2 : ℚ) ^ format.minExponent ≠ 0 := zpow_ne_zero _ (by norm_num)
    have hsame : r = x := by
      unfold round at hr
      dsimp only at hr
      rw [if_neg hzero, hlast, hn, mul_div_cancel_right₀ _ hunit, roundHalfEven_whole] at hr
      split at hr
      · exact (FloatValue.finite.inj hr).symm.trans hn.symm
      · cases hr
    rw [hsame, sub_self, abs_zero]
    positivity

end FloatFormat

namespace FloatValue

/-- A value that is a number comes out of a clamp between the two bounds. -/
theorem clamp_mem {value : FloatValue} {greatest : ℚ} (hvalue : value ≠ .nan)
    (hgreatest : 0 ≤ greatest) :
    ∃ q, value.clamp (.finite 0) (.finite greatest) = .finite q ∧ 0 ≤ q ∧ q ≤ greatest := by
  unfold clamp
  cases value with
  | finite q =>
      rw [less_finite, less_finite]
      split_ifs with hlow hhigh
      · exact ⟨0, rfl, le_rfl, hgreatest⟩
      · exact ⟨greatest, rfl, hgreatest, le_rfl⟩
      · simp only [decide_eq_true_eq, not_lt] at hlow hhigh
        exact ⟨q, rfl, hlow, hhigh⟩
  | infinite negative =>
      cases negative with
      | true => exact ⟨0, rfl, le_rfl, hgreatest⟩
      | false => exact ⟨greatest, rfl, hgreatest, le_rfl⟩
  | nan => exact absurd rfl hvalue

theorem clamp_nan (least greatest : FloatValue) :
    FloatValue.nan.clamp least greatest = .nan := by
  cases greatest <;> rfl

end FloatValue

end Mvision.Library
