import Mvision.Library.FloatBounds
import Mvision.Library.Packer
import Mvision.Video.Accumulator

/-!
# The norm of a mean

The embeddings are floats and the sums doubles: nothing is too large, and what is not zero does
not vanish.  So `finish` drops a track only if its mean is zero or no vector of numbers.
-/

namespace Mvision.Video.Native

open Mvision.Library

/-- A float. -/
structure Single (q : ℚ) : Prop where
  multiple : ∃ m : Int, q = m * 2 ^ (-149 : Int)
  bounded : |q| ≤ 2 ^ (128 : Int)

theorem single_of_has {q : ℚ} (h : binary32.Has 8 (.finite q)) : Single q := by
  obtain ⟨significand, e, hscaled, -⟩ := h.exists_scaled FloatFormat.spans_binary32
  refine ⟨?_, (FloatFormat.abs_lt_of_scaled hscaled).le⟩
  obtain ⟨d, hd⟩ := Int.le.dest hscaled.least
  have hpower : |q| = ((significand * 2 ^ d : Nat) : ℚ) * 2 ^ (-149 : Int) := by
    have he : e = (d : Int) + -149 := by
      rw [← hd, Int.add_comm]
      rfl
    rw [hscaled.value, he, zpow_add₀ (by norm_num), zpow_natCast]
    push_cast
    ring
  rcases eq_or_eq_neg_of_abs_eq hpower with hq | hq
  · exact ⟨(significand * 2 ^ d : Nat), by rw [hq]; norm_cast⟩
  · exact ⟨-(significand * 2 ^ d : Nat), by rw [hq]; push_cast; ring⟩

/-- The sum of floats: a multiple of the smallest one, and at most a power larger for each. -/
theorem sum_singles {values : List FloatValue} {start : ℚ} {k : Nat}
    (hvalues : ∀ value ∈ values, ∃ q, value = .finite q ∧ Single q)
    (hmultiple : ∃ m : Int, start = m * 2 ^ (-149 : Int)) (hstart : |start| ≤ 2 ^ (k : Int))
    (hk : 128 ≤ k) (hrange : k + values.length < 1024) :
    ∃ sum, values.foldl binary64.add (.finite start) = .finite sum ∧
      (∃ m : Int, sum = m * 2 ^ (-149 : Int)) ∧ |sum| ≤ 2 ^ ((k + values.length : Nat) : Int) := by
  induction values generalizing start k with
  | nil => exact ⟨start, rfl, hmultiple, hstart⟩
  | cons value values ih =>
      rw [List.length_cons] at hrange
      obtain ⟨⟨q, rfl, hq⟩, hrest⟩ := List.forall_mem_cons.mp hvalues
      obtain ⟨m, rfl⟩ := hmultiple
      obtain ⟨n, hn⟩ := hq.multiple
      have hlarge : |q| ≤ 2 ^ (k : Int) :=
        hq.bounded.trans (zpow_le_zpow_right₀ (by norm_num) (by omega))
      have hbound : |(m : ℚ) * 2 ^ (-149 : Int) + q| ≤ 2 ^ ((k + 1 : Nat) : Int) := by
        rw [Nat.cast_succ, zpow_add₀ (by norm_num), zpow_one]
        linarith [abs_add_le ((m : ℚ) * 2 ^ (-149 : Int)) q]
      obtain ⟨r, hr, hle, -⟩ := binary64.round_of_abs_le (by decide)
        (show (-1074 : Int) ≤ (k + 1 : Nat) by omega) (show ((k + 1 : Nat) : Int) < 1024 by omega)
        hbound
      have hmultiple : ∃ m : Int, r = m * 2 ^ (-149 : Int) := by
        rw [hn, ← add_mul, ← Int.cast_add] at hr
        exact binary64.multiple_of_round hr
      obtain ⟨sum, hsum, hmultiple, hle⟩ := ih hrest hmultiple hle (by omega) (by omega)
      refine ⟨sum, ?_, hmultiple, ?_⟩
      · rw [List.foldl_cons]
        show values.foldl binary64.add (binary64.round _) = _
        rw [hr, hsum]
      · rw [List.length_cons, show k + (values.length + 1) = k + 1 + values.length by omega]
        exact hle

/-- A number that is neither too large nor too small to be squared. -/
structure Moderate (q : ℚ) : Prop where
  bounded : |q| ≤ 2 ^ (133 : Int)
  apart : q = 0 ∨ 2 ^ (-152 : Int) ≤ |q|

/-- The number of embeddings, as a `double`. -/
theorem round_count {count : Nat} (hpos : 1 ≤ count) (hle : count ≤ 5) :
    ∃ q, binary64.round count = .finite q ∧ 1 ≤ q ∧ q ≤ 2 ^ (3 : Int) := by
  have hone : (1 : ℚ) ≤ count := by exact_mod_cast hpos
  have hfive : (count : ℚ) ≤ 5 := by exact_mod_cast hle
  have habs : |(count : ℚ)| = count := abs_of_nonneg (by linarith)
  obtain ⟨q, hround, hbound, hnonneg⟩ := binary64.round_of_abs_le (k := 3) (by decide)
    (by decide) (by decide) (habs.trans_le (hfive.trans (by norm_num)))
  have hleast := binary64.le_abs_of_round (k := 0) (by decide) (by decide)
    (by rw [habs, zpow_zero]; exact hone) hround
  rw [abs_of_nonneg (hnonneg (by linarith))] at hbound hleast
  rw [zpow_zero] at hleast
  exact ⟨q, hround, hleast, hbound⟩

theorem moderate_mean {values : List FloatValue} (hne : values ≠ []) (hlength : values.length ≤ 5)
    (hvalues : ∀ value ∈ values, ∃ q, value = .finite q ∧ Single q) :
    ∃ q, binary64.div (values.foldl binary64.add (.finite 0)) (binary64.round values.length) =
      .finite q ∧ Moderate q := by
  obtain ⟨sum, hsum, ⟨m, hm⟩, hle⟩ := @sum_singles _ 0 128 hvalues
    ⟨0, by rw [Int.cast_zero, zero_mul]⟩ (by rw [abs_zero]; exact zpow_nonneg (by norm_num) _)
    le_rfl (by omega)
  obtain ⟨count, hround, hone, height⟩ := round_count (List.length_pos_iff.mpr hne) hlength
  have hcountPos : 0 < count := by linarith
  have hsize : |sum / count| ≤ 2 ^ (133 : Int) := by
    rw [abs_div, abs_of_pos hcountPos, div_le_iff₀ hcountPos]
    have hsumBound : |sum| ≤ 2 ^ (133 : Int) :=
      hle.trans (zpow_le_zpow_right₀ (by norm_num) (by omega))
    exact hsumBound.trans (le_mul_of_one_le_right (zpow_nonneg (by norm_num) _) hone)
  obtain ⟨q, hq, hbounded, -⟩ := binary64.round_of_abs_le (by decide) (by decide) (by decide) hsize
  refine ⟨q, ?_, hbounded, ?_⟩
  · rw [hsum, hround, FloatFormat.div, if_neg hcountPos.ne', hq]
  · rcases eq_or_ne m 0 with rfl | hne
    · left
      rw [hm, Int.cast_zero, zero_mul, zero_div] at hq
      exact (FloatValue.finite.inj hq).symm
    · right
      apply binary64.le_abs_of_round (by decide) (by decide) _ hq
      have hwhole : (1 : ℚ) ≤ |(m : ℚ)| := by
        rw [← Int.cast_abs]
        exact_mod_cast Int.one_le_abs hne
      rw [abs_div, abs_of_pos hcountPos, le_div_iff₀ hcountPos, hm, abs_mul,
        abs_of_nonneg (zpow_nonneg (by norm_num) _ : (0 : ℚ) ≤ 2 ^ (-149 : Int))]
      calc (2 : ℚ) ^ (-152 : Int) * count ≤ 2 ^ (-152 : Int) * 2 ^ (3 : Int) :=
            mul_le_mul_of_nonneg_left height (zpow_nonneg (by norm_num) _)
        _ = 1 * 2 ^ (-149 : Int) := by norm_num
        _ ≤ |(m : ℚ)| * 2 ^ (-149 : Int) :=
            mul_le_mul_of_nonneg_right hwhole (zpow_nonneg (by norm_num) _)

/-- The square of a number apart from zero. -/
theorem square_moderate {q : ℚ} (h : Moderate q) :
    ∃ s, binary64.mul (.finite q) (.finite q) = .finite s ∧ 0 ≤ s ∧ s ≤ 2 ^ (266 : Int) ∧
      (q = 0 ↔ s = 0) ∧ (s = 0 ∨ 2 ^ (-304 : Int) ≤ s) := by
  have hnonneg : 0 ≤ q * q := mul_self_nonneg q
  have hle : |q * q| ≤ 2 ^ (266 : Int) := by
    rw [abs_mul]
    calc |q| * |q| ≤ 2 ^ (133 : Int) * 2 ^ (133 : Int) :=
          mul_le_mul h.bounded h.bounded (abs_nonneg q) (zpow_nonneg (by norm_num) _)
      _ = 2 ^ (266 : Int) := (zpow_add₀ (by norm_num : (2 : ℚ) ≠ 0) 133 133).symm
  obtain ⟨s, hs, hbound, hsign⟩ := binary64.round_of_abs_le (by decide) (by decide) (by decide) hle
  have hs0 := hsign hnonneg
  rw [abs_of_nonneg hs0] at hbound
  refine ⟨s, hs, hs0, hbound, ?_⟩
  rcases h.apart with rfl | hapart
  · rw [mul_zero] at hs
    have hzero : s = 0 := (FloatValue.finite.inj hs).symm
    exact ⟨iff_of_true rfl hzero, .inl hzero⟩
  · have hsquare : 2 ^ (-304 : Int) ≤ |q * q| := by
      rw [abs_mul]
      calc (2 : ℚ) ^ (-304 : Int) = 2 ^ (-152 : Int) * 2 ^ (-152 : Int) := by
            rw [← zpow_add₀ (by norm_num), ← two_mul, show (2 * -152 : Int) = -304 from rfl]
        _ ≤ |q| * |q| := mul_le_mul hapart hapart (zpow_nonneg (by norm_num) _) (abs_nonneg q)
    have hfar := binary64.le_abs_of_round (by decide) (by decide) hsquare hs
    rw [abs_of_nonneg hs0] at hfar
    have hpos : (0 : ℚ) < 2 ^ (-304 : Int) := zpow_pos (by norm_num) _
    have hapart0 : (0 : ℚ) < 2 ^ (-152 : Int) := zpow_pos (by norm_num) _
    refine ⟨iff_of_false ?_ ?_, .inr hfar⟩
    · rintro rfl
      rw [abs_zero] at hapart
      linarith
    · rintro rfl
      linarith

/-- The sum of squares is zero only if all are. -/
theorem sum_squares {squares : List FloatValue} {start : ℚ} {k : Nat}
    (hsquares : ∀ value ∈ squares, ∃ s, value = .finite s ∧ 0 ≤ s ∧ s ≤ 2 ^ (266 : Int) ∧
      (s = 0 ∨ 2 ^ (-304 : Int) ≤ s))
    (hstart : 0 ≤ start ∧ start ≤ 2 ^ (k : Int))
    (hapart : start = 0 ∨ 2 ^ (-304 : Int) ≤ start) (hk : 266 ≤ k)
    (hrange : k + squares.length < 1024) :
    ∃ sum, squares.foldl binary64.add (.finite start) = .finite sum ∧ 0 ≤ sum ∧
      (sum = 0 ↔ start = 0 ∧ ∀ value ∈ squares, value = .finite 0) := by
  have hpos : (0 : ℚ) < 2 ^ (-304 : Int) := zpow_pos (by norm_num) _
  induction squares generalizing start k with
  | nil => exact ⟨start, rfl, hstart.1, by simp⟩
  | cons value squares ih =>
      rw [List.length_cons] at hrange
      obtain ⟨⟨s, rfl, hs0, hs, hsApart⟩, hrest⟩ := List.forall_mem_cons.mp hsquares
      have hlarge : s ≤ 2 ^ (k : Int) := hs.trans (zpow_le_zpow_right₀ (by norm_num) (by omega))
      have hnonneg : 0 ≤ start + s := add_nonneg hstart.1 hs0
      have hbound : |start + s| ≤ 2 ^ ((k + 1 : Nat) : Int) := by
        rw [abs_of_nonneg hnonneg, Nat.cast_succ, zpow_add₀ (by norm_num), zpow_one]
        linarith [hstart.2]
      obtain ⟨r, hr, hle, hsign⟩ := binary64.round_of_abs_le (by decide)
        (show (-1074 : Int) ≤ (k + 1 : Nat) by omega) (show ((k + 1 : Nat) : Int) < 1024 by omega)
        hbound
      have hr0 := hsign hnonneg
      rw [abs_of_nonneg hr0] at hle
      have hsumApart : (start = 0 ∧ s = 0) ∨ 2 ^ (-304 : Int) ≤ |start + s| := by
        rw [abs_of_nonneg hnonneg]
        rcases hapart with hz | hfar
        · rcases hsApart with hz' | hfar
          · exact .inl ⟨hz, hz'⟩
          · right
            linarith [hstart.1]
        · right
          linarith
      have hrApart : (r = 0 ↔ start = 0 ∧ s = 0) ∧ (r = 0 ∨ 2 ^ (-304 : Int) ≤ r) := by
        rcases hsumApart with ⟨rfl, rfl⟩ | hfar
        · rw [add_zero] at hr
          have hz : r = 0 := (FloatValue.finite.inj hr).symm
          exact ⟨iff_of_true hz ⟨rfl, rfl⟩, .inl hz⟩
        · have hrFar := binary64.le_abs_of_round (by decide) (by decide) hfar hr
          rw [abs_of_nonneg hr0] at hrFar
          refine ⟨iff_of_false (by linarith) ?_, .inr hrFar⟩
          rintro ⟨rfl, rfl⟩
          rw [add_zero, abs_zero] at hfar
          linarith
      obtain ⟨sum, hsum, hsum0, hiff⟩ := ih hrest ⟨hr0, hle⟩ hrApart.2 (by omega) (by omega)
      refine ⟨sum, ?_, hsum0, ?_⟩
      · rw [List.foldl_cons]
        show squares.foldl binary64.add (binary64.round _) = _
        rw [hr, hsum]
      · rw [hiff, hrApart.1, List.forall_mem_cons, and_assoc, FloatValue.finite.injEq]

section Norm

variable {ranked : List RankedEmbedding}

/-- A component of the mean is a number only if all embeddings have one there. -/
theorem moderate_of_finite (hne : ranked ≠ []) (hlength : ranked.length ≤ 5) {index : Fin 512}
    (h : ∃ q, mean ranked index = .finite q) :
    ∃ q, mean ranked index = .finite q ∧ Moderate q := by
  obtain ⟨q, hq⟩ := h
  obtain ⟨count, hround, -⟩ := round_count (List.length_pos_iff.mpr hne) hlength
  unfold mean at hq
  rw [hround] at hq
  obtain ⟨sum, hsum⟩ := binary64.finite_of_div hq
  obtain ⟨-, hvalues⟩ := binary64.finite_of_foldl_add hsum
  have hsingles : ∀ value ∈ ranked.map fun item => item.embedding.val[index],
      ∃ q, value = .finite q ∧ Single q := by
    intro value hvalue
    obtain ⟨q, rfl⟩ := hvalues value hvalue
    obtain ⟨item, -, hitem⟩ := List.mem_map.mp hvalue
    refine ⟨q, rfl, single_of_has ?_⟩
    rw [← hitem]
    exact item.embedding.property index
  have hmean := moderate_mean (by rwa [ne_eq, List.map_eq_nil_iff])
    (by rwa [List.length_map]) hsingles
  rwa [List.length_map] at hmean

/-- The norm of a mean that is a vector of numbers. -/
theorem norm_of_finite (hne : ranked ≠ []) (hlength : ranked.length ≤ 5)
    (h : ∀ index, ∃ q, mean ranked index = .finite q) :
    ∃ sum, normSquared ranked = .finite sum ∧ 0 ≤ sum ∧
      (sum = 0 ↔ ∀ index, mean ranked index = .finite 0) := by
  have hsquares : ∀ index, ∃ s,
      binary64.mul (mean ranked index) (mean ranked index) = .finite s ∧ 0 ≤ s ∧
        s ≤ 2 ^ (266 : Int) ∧ (mean ranked index = .finite 0 ↔ s = 0) ∧
        (s = 0 ∨ 2 ^ (-304 : Int) ≤ s) := by
    intro index
    obtain ⟨q, hq, hmoderate⟩ := moderate_of_finite hne hlength (h index)
    obtain ⟨s, hs, hs0, hle, hiff, hapart⟩ := square_moderate hmoderate
    rw [hq]
    exact ⟨s, hs, hs0, hle, by rw [FloatValue.finite.injEq, hiff], hapart⟩
  have hall : ∀ value ∈ (List.finRange 512).map fun index =>
      binary64.mul (mean ranked index) (mean ranked index),
      ∃ s, value = .finite s ∧ 0 ≤ s ∧ s ≤ 2 ^ (266 : Int) ∧ (s = 0 ∨ 2 ^ (-304 : Int) ≤ s) := by
    intro value hvalue
    obtain ⟨index, -, rfl⟩ := List.mem_map.mp hvalue
    obtain ⟨s, hs, hs0, hle, -, hapart⟩ := hsquares index
    exact ⟨s, hs, hs0, hle, hapart⟩
  obtain ⟨sum, hsum, hsum0, hiff⟩ := @sum_squares _ 0 266 hall
    ⟨le_rfl, zpow_nonneg (by norm_num) _⟩ (.inl rfl) le_rfl
    (by rw [List.length_map, List.length_finRange]; decide)
  refine ⟨sum, hsum, hsum0, hiff.trans ?_⟩
  rw [List.forall_mem_map]
  constructor
  · rintro ⟨-, hall⟩ index
    obtain ⟨s, hs, -, -, hzero, -⟩ := hsquares index
    have hvalue := hall index (List.mem_finRange index)
    rw [hs] at hvalue
    exact hzero.mpr (FloatValue.finite.inj hvalue)
  · intro hall
    refine ⟨rfl, ?_⟩
    intro index _
    obtain ⟨s, hs, -, -, hzero, -⟩ := hsquares index
    rw [hs, hzero.mp (hall index)]

/-- `finish` makes a track exactly if the mean is a vector of numbers and not zero. -/
theorem norm_iff (hne : ranked ≠ []) (hlength : ranked.length ≤ 5) :
    ((normSquared ranked).lessEq (.finite 0) || !(normSquared ranked).isFinite) = false ↔
      (∀ index, (mean ranked index).isFinite = true) ∧ ∃ index, mean ranked index ≠ .finite 0 := by
  constructor
  · intro hkept
    obtain ⟨hpositive, hnumber⟩ := Bool.or_eq_false_iff.mp hkept
    rw [Bool.not_eq_false'] at hnumber
    obtain ⟨norm, hnorm⟩ := FloatValue.isFinite_iff.mp hnumber
    have hmeans : ∀ index, ∃ q, mean ranked index = .finite q := by
      intro index
      obtain ⟨-, hall⟩ := binary64.finite_of_foldl_add hnorm
      obtain ⟨s, hs⟩ := hall _ (List.mem_map_of_mem (List.mem_finRange index))
      exact binary64.finite_of_square hs
    obtain ⟨sum, hsum, -, hiff⟩ := norm_of_finite hne hlength hmeans
    refine ⟨fun index => FloatValue.isFinite_iff.mpr (hmeans index), ?_⟩
    by_contra hnone
    rw [not_exists_not] at hnone
    rw [hsum, hiff.mpr hnone] at hpositive
    cases hpositive
  · rintro ⟨hmeans, index, hindex⟩
    obtain ⟨sum, hsum, hsum0, hiff⟩ := norm_of_finite hne hlength
      fun index => FloatValue.isFinite_iff.mp (hmeans index)
    have hpos : ¬ sum ≤ 0 := by
      intro hle
      exact hindex (hiff.mp (le_antisymm hle hsum0) index)
    rw [hsum, FloatValue.lessEq_finite, decide_eq_false hpos]
    rfl

end Norm

end Mvision.Video.Native
