import Mvision.Library.FloatArith

/-!
# Bounds of rounded numbers

Rounding keeps a number between the powers of two that it lies between, and a multiple of a power
of two stays one.  So a computation of a few steps neither leaves the range of a format nor
vanishes.  A rounding moves a number by at most half of its last digit.
-/

namespace Mvision.Library

theorem roundHalfEven_le {q : ℚ} {n : Int} (h : q ≤ n) : roundHalfEven q ≤ n := by
  have hfloor : ⌊q⌋ ≤ n := by
    rw [← Int.floor_intCast (R := ℚ) n]
    exact Int.floor_le_floor h
  rcases eq_or_lt_of_le hfloor with heq | hlt
  · -- then q is whole
    have hrest : q - ⌊q⌋ < 1 / 2 := by
      rw [heq]
      linarith
    unfold roundHalfEven
    rw [if_pos hrest, heq]
  · unfold roundHalfEven
    dsimp only
    split_ifs <;> omega

theorem le_roundHalfEven {q : ℚ} {n : Int} (h : (n : ℚ) ≤ q) : n ≤ roundHalfEven q := by
  have hneg : roundHalfEven (-q) ≤ -n := by
    apply roundHalfEven_le
    push_cast
    linarith
  rw [roundHalfEven_neg] at hneg
  omega

theorem roundHalfEven_near (q : ℚ) : |(roundHalfEven q : ℚ) - q| ≤ 1 / 2 := by
  have hle := Int.floor_le q
  have hlt := Int.lt_floor_add_one q
  rw [abs_le]
  simp only [roundHalfEven]
  split_ifs
  · constructor <;> linarith
  · rw [Int.cast_add, Int.cast_one]
    constructor <;> linarith
  · constructor <;> linarith
  · rw [Int.cast_add, Int.cast_one]
    constructor <;> linarith

theorem roundHalfEven_whole (n : Int) : roundHalfEven (n : ℚ) = n :=
  le_antisymm (roundHalfEven_le le_rfl) (le_roundHalfEven le_rfl)

/-- From an even number a half more is rounded down to it. -/
theorem roundHalfEven_le_even {q : ℚ} {n : Int} (h : q ≤ 2 * n + 1 / 2) :
    roundHalfEven q ≤ 2 * n := by
  by_cases hle : q ≤ 2 * n
  · apply roundHalfEven_le
    exact_mod_cast hle
  · have hfloor : ⌊q⌋ = 2 * n := by
      rw [Int.floor_eq_iff]
      push_cast
      constructor <;> linarith
    have hrest : ¬ 1 / 2 < q - ⌊q⌋ := by
      rw [hfloor]
      push_cast
      linarith
    unfold roundHalfEven
    dsimp only
    rw [if_neg hrest, hfloor, if_pos (Int.mul_emod_right 2 n), ite_self]

namespace FloatFormat

variable (format : FloatFormat)

/-- A number within a power of two of the format stays within it. -/
theorem round_of_abs_le (hprecision : 1 ≤ format.precision) {k : Int}
    (hleast : format.minExponent ≤ k) (hmost : k < format.maxExponent) {q : ℚ}
    (h : |q| ≤ 2 ^ k) :
    ∃ r, format.round q = .finite r ∧ |r| ≤ 2 ^ k ∧ (0 ≤ q → 0 ≤ r) := by
  unfold round
  by_cases hzero : q = 0
  · rw [if_pos hzero]
    refine ⟨0, rfl, ?_, fun _ => le_rfl⟩
    rw [abs_zero]
    exact zpow_nonneg (by norm_num) k
  rw [if_neg hzero]
  dsimp only
  have hlast : format.lastBit q ≤ k := by
    have hlog : Int.log 2 |q| ≤ k := by
      have hmono := Int.log_mono_right (b := 2) (abs_pos.mpr hzero) h
      rwa [← Nat.cast_ofNat (R := ℚ), Int.log_zpow (by norm_num)] at hmono
    unfold lastBit
    omega
  have hunit : (0 : ℚ) < 2 ^ format.lastBit q := zpow_pos (by norm_num) _
  -- the power is a whole number of units
  obtain ⟨n, hn⟩ := Int.le.dest hlast
  have hpower : (2 : ℚ) ^ k = ((2 ^ n : Nat) : Int) * 2 ^ format.lastBit q := by
    rw [← hn, zpow_add₀ (by norm_num)]
    push_cast
    rw [zpow_natCast, mul_comm]
  obtain ⟨hlower, hupper⟩ := abs_le.mp h
  rw [hpower] at hlower hupper
  have habove : roundHalfEven (q / 2 ^ format.lastBit q) ≤ (2 ^ n : Nat) := by
    apply roundHalfEven_le
    rwa [div_le_iff₀ hunit]
  have hbelow : -((2 ^ n : Nat) : Int) ≤ roundHalfEven (q / 2 ^ format.lastBit q) := by
    apply le_roundHalfEven
    rw [le_div_iff₀ hunit, Int.cast_neg, neg_mul]
    exact hlower
  have hbound : |(roundHalfEven (q / 2 ^ format.lastBit q) : ℚ) * 2 ^ format.lastBit q| ≤
      2 ^ k := by
    rw [hpower, abs_mul, abs_of_pos hunit]
    apply mul_le_mul_of_nonneg_right _ hunit.le
    exact_mod_cast abs_le.mpr ⟨hbelow, habove⟩
  have hrange : (2 : ℚ) ^ k < 2 ^ format.maxExponent := zpow_lt_zpow_right₀ (by norm_num) hmost
  rw [if_pos (hbound.trans_lt hrange)]
  refine ⟨_, rfl, hbound, ?_⟩
  intro hpos
  have hwhole : 0 ≤ roundHalfEven (q / 2 ^ format.lastBit q) := by
    apply le_roundHalfEven
    rw [Int.cast_zero]
    exact div_nonneg hpos hunit.le
  exact mul_nonneg (by exact_mod_cast hwhole) hunit.le

theorem round_ne_nan (q : ℚ) : format.round q ≠ .nan := by
  unfold round
  dsimp only
  split_ifs
  · rintro ⟨⟩
  · rintro ⟨⟩
  · rintro ⟨⟩

/-- A number from a power of two on stays from it on. -/
theorem le_abs_of_round (hprecision : 1 ≤ format.precision) {k : Int}
    (hleast : format.minExponent ≤ k) {q r : ℚ} (h : 2 ^ k ≤ |q|)
    (hr : format.round q = .finite r) : 2 ^ k ≤ |r| := by
  have hpos : 0 < |q| := (zpow_pos (by norm_num) k).trans_le h
  have hk : k ≤ Int.log 2 |q| := by
    rwa [← Int.zpow_le_iff_le_log (by norm_num) hpos, Nat.cast_ofNat]
  have hpower : (2 : ℚ) ^ Int.log 2 |q| ≤ |q| := by
    have hlog := Int.zpow_log_le_self (b := 2) (by norm_num) hpos
    rwa [Nat.cast_ofNat] at hlog
  have hlast : format.lastBit q ≤ Int.log 2 |q| := by
    unfold lastBit
    omega
  have hunit : (0 : ℚ) < 2 ^ format.lastBit q := zpow_pos (by norm_num) _
  -- the leading power is a whole number of units
  obtain ⟨n, hn⟩ := Int.le.dest hlast
  have hwhole : (2 : ℚ) ^ Int.log 2 |q| = ((2 ^ n : Nat) : Int) * 2 ^ format.lastBit q := by
    rw [← hn, zpow_add₀ (by norm_num)]
    push_cast
    rw [zpow_natCast, mul_comm]
  have hrounded : ((2 ^ n : Nat) : Int) ≤ |roundHalfEven (q / 2 ^ format.lastBit q)| := by
    rw [le_abs]
    rw [hwhole] at hpower
    rcases le_abs.mp hpower with habove | hbelow
    · left
      apply le_roundHalfEven
      rwa [le_div_iff₀ hunit]
    · right
      rw [le_neg]
      apply roundHalfEven_le
      rw [div_le_iff₀ hunit, Int.cast_neg, neg_mul]
      linarith
  unfold round at hr
  rw [if_neg (abs_pos.mp hpos)] at hr
  dsimp only at hr
  split at hr
  · obtain rfl := FloatValue.finite.inj hr
    calc (2 : ℚ) ^ k ≤ 2 ^ Int.log 2 |q| := zpow_le_zpow_right₀ (by norm_num) hk
      _ = ((2 ^ n : Nat) : Int) * 2 ^ format.lastBit q := hwhole
      _ ≤ ((|roundHalfEven (q / 2 ^ format.lastBit q)| : Int) : ℚ) * 2 ^ format.lastBit q := by
          apply mul_le_mul_of_nonneg_right _ hunit.le
          exact_mod_cast hrounded
      _ = |(roundHalfEven (q / 2 ^ format.lastBit q) : ℚ) * 2 ^ format.lastBit q| := by
          rw [abs_mul, abs_of_pos hunit, Int.cast_abs]
  · cases hr

/-- A multiple of a power of two stays one. -/
theorem multiple_of_round {k n : Int} {r : ℚ} (hr : format.round (n * 2 ^ k) = .finite r) :
    ∃ m : Int, r = m * 2 ^ k := by
  unfold round at hr
  split at hr
  · obtain rfl := FloatValue.finite.inj hr
    exact ⟨0, by rw [Int.cast_zero, zero_mul]⟩
  dsimp only at hr
  split at hr
  · obtain rfl := FloatValue.finite.inj hr
    generalize format.lastBit (n * 2 ^ k) = e
    have htwo : (2 : ℚ) ≠ 0 := by norm_num
    rcases le_total k e with hle | hle
    · -- the unit is a multiple of the power
      obtain ⟨d, rfl⟩ := Int.le.dest hle
      refine ⟨roundHalfEven (n * 2 ^ k / 2 ^ (k + d)) * 2 ^ d, ?_⟩
      rw [zpow_add₀ htwo, zpow_natCast]
      push_cast
      ring
    · -- the number is a multiple of the unit
      obtain ⟨d, rfl⟩ := Int.le.dest hle
      refine ⟨n, ?_⟩
      have hquotient : (n * 2 ^ (e + d) / 2 ^ e : ℚ) = ((n * 2 ^ d : Int) : ℚ) := by
        rw [zpow_add₀ htwo, zpow_natCast, div_eq_iff (zpow_ne_zero e htwo)]
        push_cast
        ring
      rw [hquotient, roundHalfEven_whole, zpow_add₀ htwo, zpow_natCast]
      push_cast
      ring
  · cases hr

/-- The root of a number up to `4 ^ k` is a number. -/
theorem sqrt_of_le (hprecision : 1 ≤ format.precision) {k : Nat}
    (hleast : format.minExponent ≤ (k : Int) + 1) (hmost : (k : Int) + 1 < format.maxExponent)
    {q : ℚ} (hnonneg : 0 ≤ q) (h : q ≤ 4 ^ k) :
    ∃ r, format.sqrt (.finite q) = .finite r ∧ 0 ≤ r ∧ r ≤ 2 ^ (k + 1) := by
  unfold sqrt
  dsimp only
  by_cases hzero : q = 0
  · rw [if_pos hzero]
    exact ⟨0, rfl, le_rfl, by positivity⟩
  rw [if_neg hzero, if_neg (not_lt.mpr hnonneg)]
  have hpos : 0 < q := lt_of_le_of_ne hnonneg (Ne.symm hzero)
  have hlog : Int.log 2 q ≤ 2 * k := by
    have hmono := Int.log_mono_right (b := 2) hpos (h.trans_eq (b := (4 : ℚ) ^ k)
      (c := ((2 : Nat) : ℚ) ^ ((2 * k : Nat) : Int))
      (by rw [zpow_natCast, pow_mul]; norm_num))
    rw [Int.log_zpow (by norm_num)] at hmono
    omega
  generalize hscale : (2 * format.precision - Int.log 2 q / 2 : Int) = scale
  generalize hroot : Nat.sqrt ⌊q * 4 ^ scale⌋₊ = root
  have hshift : (0 : ℚ) < 2 ^ scale := zpow_pos (by norm_num) _
  have hfourth : (0 : ℚ) ≤ 4 ^ scale := zpow_nonneg (by norm_num) _
  have hfour : (4 : ℚ) ^ scale = 2 ^ scale * 2 ^ scale := by
    rw [← mul_zpow]
    norm_num
  have hsquare : (root : ℚ) * root ≤ 2 ^ k * 2 ^ scale * (2 ^ k * 2 ^ scale) := by
    have hfloor : root * root ≤ ⌊q * 4 ^ scale⌋₊ := by
      rw [← hroot]
      exact Nat.sqrt_le _
    calc (root : ℚ) * root ≤ ⌊q * 4 ^ scale⌋₊ := by exact_mod_cast hfloor
      _ ≤ q * 4 ^ scale := Nat.floor_le (mul_nonneg hnonneg hfourth)
      _ ≤ 4 ^ k * 4 ^ scale := mul_le_mul_of_nonneg_right h hfourth
      _ = 2 ^ k * 2 ^ scale * (2 ^ k * 2 ^ scale) := by
          rw [hfour, show (4 : ℚ) = 2 * 2 by norm_num, mul_pow]
          ring
  have hle : (root : ℚ) ≤ 2 ^ k * 2 ^ scale := by
    by_contra hlt
    rw [not_le] at hlt
    have hgt := mul_lt_mul'' hlt hlt (by positivity) (by positivity)
    linarith
  -- the half below the last bit is smaller than the power
  have hhalf : (1 / 2 : ℚ) ≤ 2 ^ k * 2 ^ scale := by
    rw [← zpow_natCast, ← zpow_add₀ (by norm_num)]
    calc (1 / 2 : ℚ) = 2 ^ (-1 : Int) := by norm_num
      _ ≤ 2 ^ ((k : Int) + scale) := zpow_le_zpow_right₀ (by norm_num) (by omega)
  generalize hrest : (if (root : ℚ) ^ 2 = q * 4 ^ scale then (0 : ℚ) else 1 / 2) = rest
  have hrest' : 0 ≤ rest ∧ rest ≤ 1 / 2 := by
    rw [← hrest]
    split
    · norm_num
    · norm_num
  have hnumerator : 0 ≤ (root : ℚ) + rest := by
    have hcast : (0 : ℚ) ≤ root := Nat.cast_nonneg root
    linarith [hrest'.1]
  have hquotient : 0 ≤ (root + rest) / (2 : ℚ) ^ scale := div_nonneg hnumerator hshift.le
  have hbound : |(root + rest) / (2 : ℚ) ^ scale| ≤ 2 ^ ((k : Int) + 1) := by
    rw [abs_of_nonneg hquotient, div_le_iff₀ hshift, zpow_add₀ (by norm_num), zpow_natCast,
      zpow_one]
    linarith [hrest'.2]
  obtain ⟨r, hr, habs, hsign⟩ := format.round_of_abs_le hprecision hleast hmost hbound
  refine ⟨r, hr, hsign hquotient, (le_abs_self r).trans (habs.trans_eq ?_)⟩
  exact_mod_cast rfl

/-! ## What a rounding moves -/

variable {format}

/-- Rounding moves a number by at most half a unit. -/
theorem abs_round_sub_le {x r : ℚ} (hr : format.round x = .finite r) :
    |r - x| ≤ 2 ^ format.lastBit x / 2 := by
  have hunit : (0 : ℚ) < 2 ^ format.lastBit x := zpow_pos (by norm_num) _
  unfold round at hr
  dsimp only at hr
  split_ifs at hr with hzero
  · obtain rfl := FloatValue.finite.inj hr
    subst hzero
    rw [sub_zero, abs_zero]
    exact (half_pos hunit).le
  · obtain rfl := FloatValue.finite.inj hr
    have hnear := roundHalfEven_near (x / 2 ^ format.lastBit x)
    calc |(roundHalfEven (x / 2 ^ format.lastBit x) : ℚ) * 2 ^ format.lastBit x - x|
        = |(roundHalfEven (x / 2 ^ format.lastBit x) - x / 2 ^ format.lastBit x) *
            2 ^ format.lastBit x| := by
          rw [sub_mul, div_mul_cancel₀ x hunit.ne']
      _ = |(roundHalfEven (x / 2 ^ format.lastBit x) : ℚ) - x / 2 ^ format.lastBit x| *
            2 ^ format.lastBit x := by
          rw [abs_mul, abs_of_pos hunit]
      _ ≤ 1 / 2 * 2 ^ format.lastBit x := mul_le_mul_of_nonneg_right hnear hunit.le
      _ = 2 ^ format.lastBit x / 2 := by ring

/-- A larger number has no smaller unit. -/
theorem lastBit_mono {x y : ℚ} (hx : x ≠ 0) (h : |x| ≤ |y|) :
    format.lastBit x ≤ format.lastBit y := by
  have hlog := Int.log_mono_right (b := 2) (abs_pos.mpr hx) h
  unfold lastBit
  omega

theorem two_zpow_log_le {x : ℚ} (hx : x ≠ 0) : (2 : ℚ) ^ Int.log 2 |x| ≤ |x| := by
  have hlog := Int.zpow_log_le_self (b := 2) (by norm_num) (abs_pos.mpr hx)
  rwa [Nat.cast_ofNat] at hlog

/-- What is at most half a unit above a number of the format has no larger unit. -/
theorem lastBit_le_of_lt (hprecision : 1 ≤ format.precision) {b : ℚ} (hb : 0 < b)
    (hleast : format.minExponent ≤ Int.log 2 b) {n : Int}
    (heven : b = 2 * n * 2 ^ format.lastBit b) {y : ℚ} (hy : 0 < y)
    (hle : y ≤ b + 2 ^ format.lastBit b / 2) : format.lastBit y ≤ format.lastBit b := by
  have hunit : (0 : ℚ) < 2 ^ format.lastBit b := zpow_pos (by norm_num) _
  have hlast : format.lastBit b ≤ Int.log 2 b := by
    unfold lastBit
    rw [abs_of_pos hb]
    omega
  -- the next power of two is at least a whole unit away
  have hbelow : b < 2 ^ (Int.log 2 b + 1) := by
    have hlog := Int.lt_zpow_succ_log_self (b := 2) (by norm_num) b
    rwa [Nat.cast_ofNat] at hlog
  obtain ⟨d, hd⟩ := Int.le.dest (hlast.trans (Int.le_add_one le_rfl))
  have hpower : (2 : ℚ) ^ (Int.log 2 b + 1) = ((2 ^ d : Int) : ℚ) * 2 ^ format.lastBit b := by
    rw [← hd, zpow_add₀ (by norm_num), zpow_natCast, mul_comm]
    push_cast
    rfl
  have hstep : 2 * n + 1 ≤ (2 ^ d : Int) := by
    have hlt := heven.symm.trans_lt hbelow
    rw [hpower] at hlt
    have hlt' : 2 * n < (2 ^ d : Int) := by
      exact_mod_cast lt_of_mul_lt_mul_right hlt hunit.le
    omega
  have hlt : y < 2 ^ (Int.log 2 b + 1) := by
    have hsteps : ((2 * n + 1 : Int) : ℚ) * 2 ^ format.lastBit b ≤ 2 ^ (Int.log 2 b + 1) := by
      rw [hpower]
      exact mul_le_mul_of_nonneg_right (by exact_mod_cast hstep) hunit.le
    push_cast at hsteps
    rw [add_mul, ← heven] at hsteps
    linarith
  have hlog : Int.log 2 y < Int.log 2 b + 1 := by
    rw [← Int.lt_zpow_iff_log_lt (by norm_num) hy, Nat.cast_ofNat]
    exact hlt
  unfold lastBit
  rw [abs_of_pos hy, abs_of_pos hb]
  omega

/-- A number with as few digits as the format has and an even last one: what is at most half a
unit above it is not rounded to more. -/
theorem round_le_of_even (hprecision : 1 ≤ format.precision) {b : ℚ} (hb : 0 < b)
    (hleast : format.minExponent ≤ Int.log 2 b) (hmost : b < 2 ^ format.maxExponent) {n : Int}
    (heven : b = 2 * n * 2 ^ format.lastBit b) {y : ℚ} (hy : 0 ≤ y)
    (hle : y ≤ b + 2 ^ format.lastBit b / 2) : ∃ s, format.round y = .finite s ∧ s ≤ b := by
  by_cases hzero : y = 0
  · exact ⟨0, if_pos hzero, hb.le⟩
  have hypos : 0 < y := lt_of_le_of_ne hy (Ne.symm hzero)
  have habs : |y| = y := abs_of_pos hypos
  have habs' : |b| = b := abs_of_pos hb
  have hunit : (0 : ℚ) < 2 ^ format.lastBit y := zpow_pos (by norm_num) _
  have hrounded : (roundHalfEven (y / 2 ^ format.lastBit y) : ℚ) * 2 ^ format.lastBit y ≤ b := by
    rcases lt_trichotomy (format.lastBit y) (format.lastBit b) with hlt | heq | hlt
    · -- then it is smaller, and the number is a multiple of its unit
      have hyb : y ≤ b := by
        by_contra hgt
        have hmono := @lastBit_mono format b y hb.ne' (by rw [habs, habs']; linarith)
        omega
      obtain ⟨d, hd⟩ := Int.le.dest hlt.le
      have hmultiple : b = ((2 * n * 2 ^ d : Int) : ℚ) * 2 ^ format.lastBit y := by
        rw [heven, ← hd, zpow_add₀ (by norm_num), zpow_natCast]
        push_cast
        ring
      have hround : roundHalfEven (y / 2 ^ format.lastBit y) ≤ 2 * n * 2 ^ d := by
        apply roundHalfEven_le
        rw [div_le_iff₀ hunit, ← hmultiple]
        exact hyb
      rw [hmultiple]
      apply mul_le_mul_of_nonneg_right _ hunit.le
      exact_mod_cast hround
    · have hround : roundHalfEven (y / 2 ^ format.lastBit y) ≤ 2 * n := by
        apply roundHalfEven_le_even
        rw [div_le_iff₀ hunit, heq, add_mul, ← heven]
        linarith
      rw [heven, ← heq]
      apply mul_le_mul_of_nonneg_right _ hunit.le
      exact_mod_cast hround
    · exact absurd hlt (not_lt.mpr (lastBit_le_of_lt hprecision hb hleast heven hypos hle))
  have hwhole : 0 ≤ roundHalfEven (y / 2 ^ format.lastBit y) := by
    apply le_roundHalfEven
    rw [Int.cast_zero]
    exact div_nonneg hy hunit.le
  have hnonneg : (0 : ℚ) ≤ roundHalfEven (y / 2 ^ format.lastBit y) * 2 ^ format.lastBit y :=
    mul_nonneg (by exact_mod_cast hwhole) hunit.le
  refine ⟨_, ?_, hrounded⟩
  unfold round
  dsimp only
  rw [if_neg hzero, abs_of_nonneg hnonneg, if_pos (hrounded.trans_lt hmost)]

/-- A whole number with fewer digits than the format has: what is at most half a unit above it is
not rounded to more. -/
theorem round_le_natCast (hleast : format.minExponent < 0) (hprecision : 1 ≤ format.precision)
    (hmost : (format.precision : Int) ≤ format.maxExponent) {bound : Nat} (hpos : 0 < bound)
    (hbound : bound < 2 ^ (format.precision - 1)) {y : ℚ} (hy : 0 ≤ y)
    (hle : y ≤ bound + 2 ^ format.lastBit bound / 2) :
    ∃ s, format.round y = .finite s ∧ s ≤ bound := by
  have hpos : (0 : ℚ) < bound := by exact_mod_cast hpos
  have hone : (2 : ℚ) ^ (0 : Int) ≤ bound := by
    rw [zpow_zero]
    exact_mod_cast hpos
  have hpower : (bound : ℚ) < 2 ^ ((format.precision - 1 : Nat) : Int) := by
    rw [zpow_natCast]
    exact_mod_cast hbound
  have hrange : (2 : ℚ) ^ ((format.precision - 1 : Nat) : Int) < 2 ^ format.maxExponent :=
    zpow_lt_zpow_right₀ (by norm_num) (by omega)
  have hlog0 : 0 ≤ Int.log 2 (bound : ℚ) := by
    rwa [← Int.zpow_le_iff_le_log (by norm_num) hpos, Nat.cast_ofNat]
  have hlog : Int.log 2 (bound : ℚ) < ((format.precision - 1 : Nat) : Int) := by
    rwa [← Int.lt_zpow_iff_log_lt (by norm_num) hpos, Nat.cast_ofNat]
  have hlast : format.lastBit bound < 0 := by
    unfold lastBit
    rw [abs_of_pos hpos]
    omega
  -- so it is an even number of its units
  obtain ⟨d, hd⟩ := Int.le.dest (show format.lastBit bound + 1 ≤ 0 by omega)
  have heven : (bound : ℚ) = 2 * ((bound * 2 ^ d : Nat) : Int) * 2 ^ format.lastBit bound := by
    have hcancel : (2 : ℚ) ^ d * (2 * 2 ^ format.lastBit bound) = 1 := by
      rw [← zpow_one_add₀ (by norm_num), ← zpow_natCast, ← zpow_add₀ (by norm_num),
        show (d : Int) + (1 + format.lastBit bound) = 0 by omega, zpow_zero]
    push_cast
    calc (bound : ℚ) = bound * (2 ^ d * (2 * 2 ^ format.lastBit bound)) := by
          rw [hcancel, mul_one]
      _ = 2 * (bound * 2 ^ d) * 2 ^ format.lastBit bound := by ring
  exact round_le_of_even hprecision hpos (by omega) (hpower.trans hrange) heven hy hle

/-- A side that ends at most at such a number: the rounded side, added to where it starts, does
not end behind that number. -/
theorem add_sub_le (hleast : format.minExponent < 0) (hprecision : 1 ≤ format.precision)
    (hmost : (format.precision : Int) ≤ format.maxExponent) {bound : Nat}
    (hbound : bound < 2 ^ (format.precision - 1)) {low high r : ℚ} (hlow : 0 ≤ low)
    (hlt : low < high) (hhigh : high ≤ bound)
    (hr : format.sub (.finite high) (.finite low) = .finite r) (hnonneg : 0 ≤ r) :
    ∃ s, format.add (.finite low) (.finite r) = .finite s ∧ s ≤ bound := by
  have hround : format.round (high - low) = .finite r := by
    rw [sub_eq_add_neg]
    exact hr
  have hside := sub_pos.mpr hlt
  have hpos : (0 : ℚ) < bound := (hlow.trans_lt hlt).trans_le hhigh
  -- the side is moved by at most half a unit of the bound
  have hmono : format.lastBit (high - low) ≤ format.lastBit bound := by
    apply lastBit_mono hside.ne'
    rw [abs_of_pos hside, abs_of_pos hpos]
    linarith
  have hmoved : |r - (high - low)| ≤ 2 ^ format.lastBit bound / 2 :=
    (abs_round_sub_le hround).trans
      (div_le_div_of_nonneg_right (zpow_le_zpow_right₀ (by norm_num) hmono) (by norm_num))
  have hle := (abs_le.mp hmoved).2
  exact round_le_natCast hleast hprecision hmost (by exact_mod_cast hpos) hbound
    (add_nonneg hlow hnonneg) (by linarith)

end FloatFormat

end Mvision.Library
