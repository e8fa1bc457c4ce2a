import Mvision.Library.Float

/-!
# The bits of a float

A float has a bit pattern, and is read back from it.
-/

namespace Mvision.Library

namespace FloatFormat

/-- The number of an exponent and a fraction, as `ofBits` has it. -/
def magnitude (format : FloatFormat) (exponent fraction : Nat) : ℚ :=
  if exponent = 0 then fraction * 2 ^ format.minExponent
  else (2 ^ (format.precision - 1) + fraction) *
    2 ^ (format.minExponent + exponent - 1)

/-- The pattern of a number that is not negative: the exponent of its last bit tells the
exponent, and the implicit bit of the significand adds one to it. -/
def magnitudeBits (format : FloatFormat) (q : ℚ) : Nat :=
  if q = 0 then 0
  else
    (format.lastBit q - format.minExponent).toNat * 2 ^ (format.precision - 1) +
      ⌊q / 2 ^ format.lastBit q⌋₊

def signBit (format : FloatFormat) (exponentBits : Nat) (negative : Bool) : Nat :=
  if negative then 2 ^ (format.precision - 1 + exponentBits) else 0

def toBits (format : FloatFormat) (exponentBits : Nat) : FloatValue → Nat
  | .finite q => format.signBit exponentBits (decide (q < 0)) + format.magnitudeBits |q|
  | .infinite negative =>
      format.signBit exponentBits negative +
        (2 ^ exponentBits - 1) * 2 ^ (format.precision - 1)
  | .nan => (2 ^ exponentBits - 1) * 2 ^ (format.precision - 1) + 1

/-- The values that a format has. -/
def Has (format : FloatFormat) (exponentBits : Nat) (x : FloatValue) : Prop :=
  ∃ bits, format.ofBits exponentBits bits = x

variable {format : FloatFormat} {exponentBits exponent fraction : Nat}

/-- The last bit of a significand that has all the bits the format allows. -/
theorem lastBit_eq (hprecision : 1 ≤ format.precision) {significand : Nat} {e : Int}
    (hpos : 0 < significand) (hlt : significand < 2 ^ format.precision)
    (he : format.minExponent ≤ e)
    (hfull : e = format.minExponent ∨ 2 ^ (format.precision - 1) ≤ significand) :
    format.lastBit (significand * 2 ^ e) = e := by
  have hunit : (0 : ℚ) < 2 ^ e := zpow_pos (by norm_num) e
  have hq : (0 : ℚ) < significand * 2 ^ e := mul_pos (by exact_mod_cast hpos) hunit
  have hupper : Int.log 2 ((significand : ℚ) * 2 ^ e) < format.precision + e := by
    rw [← Int.lt_zpow_iff_log_lt (by norm_num) hq, Nat.cast_ofNat,
      zpow_add₀ (by norm_num), zpow_natCast]
    apply mul_lt_mul_of_pos_right _ hunit
    exact_mod_cast hlt
  have hlower (h : 2 ^ (format.precision - 1) ≤ significand) :
      ((format.precision - 1 : Nat) : Int) + e ≤ Int.log 2 ((significand : ℚ) * 2 ^ e) := by
    rw [← Int.zpow_le_iff_le_log (by norm_num) hq, Nat.cast_ofNat,
      zpow_add₀ (by norm_num), zpow_natCast]
    apply mul_le_mul_of_nonneg_right _ hunit.le
    exact_mod_cast h
  unfold lastBit
  rw [abs_of_pos hq]
  rcases hfull with rfl | hfull
  · omega
  · have hlog := hlower hfull
    omega

theorem magnitudeBits_mul (hprecision : 1 ≤ format.precision) {significand : Nat} {e : Int}
    (hpos : 0 < significand) (hlt : significand < 2 ^ format.precision)
    (he : format.minExponent ≤ e)
    (hfull : e = format.minExponent ∨ 2 ^ (format.precision - 1) ≤ significand) :
    format.magnitudeBits (significand * 2 ^ e) =
      (e - format.minExponent).toNat * 2 ^ (format.precision - 1) + significand := by
  have hunit : (2 : ℚ) ^ e ≠ 0 := zpow_ne_zero e (by norm_num)
  have hsignificand : (significand : ℚ) ≠ 0 := by exact_mod_cast hpos.ne'
  unfold magnitudeBits
  rw [if_neg (mul_ne_zero hsignificand hunit), lastBit_eq hprecision hpos hlt he hfull,
    mul_div_cancel_right₀ _ hunit, Nat.floor_natCast]

theorem magnitudeBits_magnitude (hprecision : 1 ≤ format.precision)
    (hfraction : fraction < 2 ^ (format.precision - 1)) :
    format.magnitudeBits (format.magnitude exponent fraction) =
      exponent * 2 ^ (format.precision - 1) + fraction := by
  have hdouble : 2 ^ format.precision = 2 ^ (format.precision - 1) * 2 := by
    rw [← pow_succ, Nat.sub_add_cancel hprecision]
  unfold magnitude
  split
  · rename_i hzero
    rw [hzero, Nat.zero_mul, Nat.zero_add]
    rcases Nat.eq_zero_or_pos fraction with rfl | hpos
    · rw [magnitudeBits, if_pos (by simp)]
    · rw [magnitudeBits_mul hprecision hpos (by omega) le_rfl (.inl rfl), Int.sub_self,
        Int.toNat_zero, Nat.zero_mul, Nat.zero_add]
  · rename_i hnormal
    obtain ⟨k, rfl⟩ := Nat.exists_eq_succ_of_ne_zero hnormal
    have hsignificand : (2 : ℚ) ^ (format.precision - 1) + fraction =
        ((2 ^ (format.precision - 1) + fraction : Nat) : ℚ) := by
      push_cast
      rfl
    have hexponent : format.minExponent + ((k + 1 : Nat) : Int) - 1 = format.minExponent + k := by
      push_cast
      ring
    rw [hsignificand, hexponent, magnitudeBits_mul hprecision (by positivity) (by omega) (by omega)
      (.inr (Nat.le_add_right _ _)), add_sub_cancel_left, Int.toNat_natCast, Nat.succ_mul]
    ring

theorem magnitude_nonneg : 0 ≤ format.magnitude exponent fraction := by
  unfold magnitude
  split
  · exact mul_nonneg (Nat.cast_nonneg _) (zpow_nonneg (by norm_num) _)
  · exact mul_nonneg (by positivity) (zpow_nonneg (by norm_num) _)

/-- The value of a sign, an exponent and a fraction. -/
def ofParts (format : FloatFormat) (exponentBits : Nat) (negative : Bool)
    (exponent fraction : Nat) : FloatValue :=
  if exponent = 2 ^ exponentBits - 1 then
    if fraction = 0 then .infinite negative else .nan
  else
    .finite (if negative then -format.magnitude exponent fraction
      else format.magnitude exponent fraction)

theorem ofBits_eq_ofParts (bits : Nat) : format.ofBits exponentBits bits =
    format.ofParts exponentBits
      (decide (bits / 2 ^ (format.precision - 1 + exponentBits) % 2 = 1))
      (bits / 2 ^ (format.precision - 1) % 2 ^ exponentBits)
      (bits % 2 ^ (format.precision - 1)) := rfl

theorem ofBits_parts (negative : Bool) (hexponent : exponent < 2 ^ exponentBits)
    (hfraction : fraction < 2 ^ (format.precision - 1)) :
    format.ofBits exponentBits (format.signBit exponentBits negative +
        (exponent * 2 ^ (format.precision - 1) + fraction)) =
      format.ofParts exponentBits negative exponent fraction := by
  have hsign : format.signBit exponentBits negative =
      2 ^ (format.precision - 1) * (2 ^ exponentBits * negative.toNat) := by
    rw [signBit, ← mul_assoc, ← pow_add]
    cases negative
    · rfl
    · exact (Nat.mul_one _).symm
  have hbits : format.signBit exponentBits negative +
      (exponent * 2 ^ (format.precision - 1) + fraction) =
      fraction + 2 ^ (format.precision - 1) * (exponent + 2 ^ exponentBits * negative.toNat) := by
    rw [hsign]
    ring
  have hsmall : (exponent + 2 ^ exponentBits * negative.toNat) / 2 ^ exponentBits =
      negative.toNat := by
    rw [Nat.add_mul_div_left _ _ (by positivity), Nat.div_eq_of_lt hexponent, Nat.zero_add]
  rw [hbits, ofBits_eq_ofParts, pow_add, ← Nat.div_div_eq_div_mul,
    Nat.add_mul_div_left _ _ (by positivity), Nat.div_eq_of_lt hfraction, Nat.zero_add, hsmall,
    Nat.add_mul_mod_self_left, Nat.mod_eq_of_lt hexponent, Nat.add_mul_mod_self_left,
    Nat.mod_eq_of_lt hfraction]
  cases negative <;> rfl

theorem Has.exists_parts {x : FloatValue} (h : format.Has exponentBits x) :
    ∃ negative exponent fraction, exponent < 2 ^ exponentBits ∧
      fraction < 2 ^ (format.precision - 1) ∧
      format.ofParts exponentBits negative exponent fraction = x := by
  obtain ⟨bits, rfl⟩ := h
  exact ⟨_, _, _, Nat.mod_lt _ (by positivity), Nat.mod_lt _ (by positivity), rfl⟩

/-- Zero has no sign among the rational numbers, and its positive pattern stands for both. -/
theorem toBits_finite (hprecision : 1 ≤ format.precision) (negative : Bool)
    (hfraction : fraction < 2 ^ (format.precision - 1)) {q : ℚ}
    (hq : q = if negative then -format.magnitude exponent fraction
      else format.magnitude exponent fraction) :
    format.toBits exponentBits (.finite q) =
        format.signBit exponentBits (decide (q < 0)) +
          (exponent * 2 ^ (format.precision - 1) + fraction) ∧
      (if decide (q < 0) then -format.magnitude exponent fraction
        else format.magnitude exponent fraction) = q := by
  have hnonneg : 0 ≤ format.magnitude exponent fraction := magnitude_nonneg
  have habs : |q| = format.magnitude exponent fraction := by
    rw [hq]
    cases negative
    · exact abs_of_nonneg hnonneg
    · exact (abs_neg _).trans (abs_of_nonneg hnonneg)
  refine ⟨?_, ?_⟩
  · rw [toBits, habs, magnitudeBits_magnitude hprecision hfraction]
  · by_cases hneg : q < 0
    · rw [decide_eq_true hneg, if_pos rfl, ← habs, abs_of_neg hneg, neg_neg]
    · rw [decide_eq_false hneg, if_neg Bool.false_ne_true, ← habs, abs_of_nonneg (not_lt.mp hneg)]

/-- The pattern of a float has a sign, an exponent and a fraction that denote it. -/
theorem exists_toBits (hprecision : 2 ≤ format.precision) {x : FloatValue}
    (hx : format.Has exponentBits x) :
    ∃ negative exponent fraction, exponent < 2 ^ exponentBits ∧
      fraction < 2 ^ (format.precision - 1) ∧
      format.toBits exponentBits x = format.signBit exponentBits negative +
        (exponent * 2 ^ (format.precision - 1) + fraction) ∧
      format.ofParts exponentBits negative exponent fraction = x := by
  obtain ⟨negative, exponent, fraction, hexponent, hfraction, rfl⟩ := hx.exists_parts
  have hone : 1 < 2 ^ (format.precision - 1) := Nat.one_lt_two_pow (by omega)
  by_cases hspecial : exponent = 2 ^ exponentBits - 1
  · subst hspecial
    unfold ofParts
    by_cases hzero : fraction = 0
    · rw [if_pos rfl, if_pos hzero]
      exact ⟨negative, _, 0, hexponent, Nat.zero_lt_of_lt hone, rfl, by rw [if_pos rfl, if_pos rfl]⟩
    · rw [if_pos rfl, if_neg hzero]
      exact ⟨false, _, 1, hexponent, hone, (Nat.zero_add _).symm,
        by rw [if_pos rfl, if_neg Nat.one_ne_zero]⟩
  · unfold ofParts
    rw [if_neg hspecial]
    obtain ⟨hbits, hvalue⟩ :=
      @toBits_finite format exponentBits _ _ (by omega) negative hfraction _ rfl
    exact ⟨_, exponent, fraction, hexponent, hfraction, hbits, by rw [if_neg hspecial, hvalue]⟩

/-- A float is read back from its bits. -/
theorem ofBits_toBits (hprecision : 2 ≤ format.precision) {x : FloatValue}
    (hx : format.Has exponentBits x) :
    format.ofBits exponentBits (format.toBits exponentBits x) = x := by
  obtain ⟨negative, exponent, fraction, hexponent, hfraction, hbits, hparts⟩ :=
    exists_toBits hprecision hx
  rw [hbits, ofBits_parts negative hexponent hfraction, hparts]

theorem toBits_lt (hprecision : 2 ≤ format.precision) {x : FloatValue}
    (hx : format.Has exponentBits x) :
    format.toBits exponentBits x < 2 ^ (format.precision + exponentBits) := by
  obtain ⟨negative, exponent, fraction, hexponent, hfraction, hbits, -⟩ :=
    exists_toBits hprecision hx
  have hsign : format.signBit exponentBits negative ≤ 2 ^ (format.precision - 1 + exponentBits) := by
    rw [signBit]
    split
    · exact le_rfl
    · exact Nat.zero_le _
  have hmagnitude : exponent * 2 ^ (format.precision - 1) + fraction <
      2 ^ (format.precision - 1 + exponentBits) :=
    calc exponent * 2 ^ (format.precision - 1) + fraction
        < (exponent + 1) * 2 ^ (format.precision - 1) := by
          rw [Nat.succ_mul]
          exact Nat.add_lt_add_left hfraction _
      _ ≤ 2 ^ exponentBits * 2 ^ (format.precision - 1) := Nat.mul_le_mul_right _ hexponent
      _ = 2 ^ (format.precision - 1 + exponentBits) := by rw [← pow_add, Nat.add_comm]
  have hdouble : 2 ^ (format.precision + exponentBits) =
      2 ^ (format.precision - 1 + exponentBits) + 2 ^ (format.precision - 1 + exponentBits) := by
    rw [← two_mul, ← pow_succ']
    congr 1
    omega
  omega

end FloatFormat

end Mvision.Library
