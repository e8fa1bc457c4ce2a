import Mathlib.Order.WithBot
import Mathlib.Tactic.Linarith
import Mvision.Library.Float

/-!
# More arithmetic of floats

Quotients, differences, and the comparisons and choices that C++ makes with floats.
-/

namespace Mvision.Library

/-! ## Rounding is odd -/

theorem roundHalfEven_neg (q : ℚ) : roundHalfEven (-q) = -roundHalfEven q := by
  have hle : (⌊q⌋ : ℚ) ≤ q := Int.floor_le q
  have hlt : q < ⌊q⌋ + 1 := Int.lt_floor_add_one q
  by_cases hwhole : (⌊q⌋ : ℚ) = q
  · have hneg : ⌊-q⌋ = -⌊q⌋ := by
      rw [← hwhole, ← Int.cast_neg, Int.floor_intCast, Int.floor_intCast]
    unfold roundHalfEven
    dsimp only
    rw [hneg, if_pos (by push_cast; linarith), if_pos (by linarith)]
  · have hgt : (⌊q⌋ : ℚ) < q := lt_of_le_of_ne hle hwhole
    have hneg : ⌊-q⌋ = -⌊q⌋ - 1 := by
      rw [Int.floor_eq_iff]
      push_cast
      exact ⟨by linarith, by linarith⟩
    unfold roundHalfEven
    dsimp only
    rw [hneg]
    push_cast
    -- the rest of -q is what the rest of q lacks to one
    by_cases hsmall : q - ⌊q⌋ < 1 / 2
    · rw [if_pos hsmall, if_neg (by linarith), if_pos (by linarith)]
      omega
    · by_cases hbig : 1 / 2 < q - ⌊q⌋
      · rw [if_neg hsmall, if_pos hbig, if_pos (by linarith)]
        omega
      · rw [if_neg hsmall, if_neg hbig, if_neg (by linarith), if_neg (by linarith)]
        split <;> split <;> omega

namespace FloatFormat

variable (format : FloatFormat)

theorem lastBit_neg (q : ℚ) : format.lastBit (-q) = format.lastBit q := by
  rw [lastBit, abs_neg, lastBit]

theorem round_neg (q : ℚ) : format.round (-q) = (format.round q).neg := by
  unfold round
  by_cases hzero : q = 0
  · rw [if_pos (neg_eq_zero.mpr hzero), if_pos hzero]
    show FloatValue.finite 0 = .finite (-0)
    rw [neg_zero]
  · rw [if_neg (neg_ne_zero.mpr hzero), if_neg hzero]
    dsimp only
    rw [lastBit_neg, neg_div, roundHalfEven_neg, Int.cast_neg, neg_mul, abs_neg]
    split
    · rfl
    · show FloatValue.infinite _ = .infinite !_
      congr 1
      rw [← decide_not, decide_eq_decide]
      constructor
      · intro h
        linarith
      · intro h
        exact neg_lt_zero.mpr (lt_of_le_of_ne (not_lt.mp h) (Ne.symm hzero))

/-- The difference of the format. -/
def sub (a b : FloatValue) : FloatValue := format.add a b.neg

/-- The quotient of the format; there is one zero here, which divides into +∞ or -∞ by the sign
of what is divided. -/
def div : FloatValue → FloatValue → FloatValue
  | .finite a, .finite b =>
      if b = 0 then
        if a = 0 then .nan else .infinite (decide (a < 0))
      else format.round (a / b)
  | .nan, _ | _, .nan => .nan
  | .infinite _, .infinite _ => .nan
  | .infinite s, .finite b => .infinite (s != decide (b < 0))
  | .finite _, .infinite _ => .finite 0

/-- A value of another format, rounded to this one. -/
def convert : FloatValue → FloatValue
  | .finite q => format.round q
  | x => x

/-- The distance of two numbers does not depend on their order. -/
theorem abs_sub_comm (a b : FloatValue) : (format.sub a b).abs = (format.sub b a).abs := by
  have habs : ∀ x : FloatValue, x.neg.abs = x.abs := by
    intro x
    cases x with
    | finite q => exact congrArg FloatValue.finite (abs_neg q)
    | infinite s => rfl
    | nan => rfl
  cases a with
  | finite a =>
      cases b with
      | finite b =>
          show (format.round (a + -b)).abs = (format.round (b + -a)).abs
          have hswap : b + -a = -(a + -b) := by ring
          rw [hswap, round_neg, habs]
      | infinite s => rfl
      | nan => rfl
  | infinite s =>
      cases b with
      | finite b => rfl
      | infinite t => cases s <;> cases t <;> rfl
      | nan => rfl
  | nan => cases b <;> rfl

/-- A number is the sum of numbers only. -/
theorem finite_of_add {a b : FloatValue} {r : ℚ} (h : format.add a b = .finite r) :
    (∃ p, a = .finite p) ∧ ∃ q, b = .finite q := by
  cases a with
  | finite p =>
      cases b with
      | finite q => exact ⟨⟨p, rfl⟩, q, rfl⟩
      | infinite t => cases h
      | nan => cases h
  | infinite s =>
      cases b with
      | finite q => cases h
      | infinite t => cases s <;> cases t <;> cases h
      | nan => cases h
  | nan => cases b <;> cases h

/-- A number is the square of a number only. -/
theorem finite_of_square {a : FloatValue} {r : ℚ} (h : format.mul a a = .finite r) :
    ∃ p, a = .finite p := by
  cases a with
  | finite p => exact ⟨p, rfl⟩
  | infinite s => cases h
  | nan => cases h

theorem finite_of_div {a : FloatValue} {b r : ℚ} (h : format.div a (.finite b) = .finite r) :
    ∃ p, a = .finite p := by
  cases a with
  | finite p => exact ⟨p, rfl⟩
  | infinite s => cases h
  | nan => cases h

/-- A number is the sum of a list of numbers only. -/
theorem finite_of_foldl_add {values : List FloatValue} {start : FloatValue} {r : ℚ}
    (h : values.foldl format.add start = .finite r) :
    (∃ p, start = .finite p) ∧ ∀ value ∈ values, ∃ q, value = .finite q := by
  induction values generalizing start with
  | nil => exact ⟨⟨r, h⟩, List.forall_mem_nil _⟩
  | cons value values ih =>
      obtain ⟨⟨s, hs⟩, hrest⟩ := ih h
      obtain ⟨hstart, hvalue⟩ := format.finite_of_add hs
      exact ⟨hstart, List.forall_mem_cons.mpr ⟨hvalue, hrest⟩⟩

end FloatFormat

namespace FloatValue

def isFinite : FloatValue → Bool
  | .finite _ => true
  | _ => false

theorem isFinite_iff {a : FloatValue} : a.isFinite = true ↔ ∃ q, a = .finite q := by
  constructor
  · intro h
    cases a with
    | finite q => exact ⟨q, rfl⟩
    | infinite s => cases h
    | nan => cases h
  · rintro ⟨q, rfl⟩
    rfl

/-- `a == b`, false for a value that is not a number. -/
def equal : FloatValue → FloatValue → Bool
  | .finite a, .finite b => decide (a = b)
  | .infinite s, .infinite t => s == t
  | _, _ => false

@[simp] theorem less_finite (a b : ℚ) : (finite a).less (finite b) = decide (a < b) := rfl

@[simp] theorem lessEq_finite (a b : ℚ) : (finite a).lessEq (finite b) = decide (a ≤ b) := rfl

@[simp] theorem equal_finite (a b : ℚ) : (finite a).equal (finite b) = decide (a = b) := rfl

/-- The place of a number among all of them, the infinite ones included. -/
def place : FloatValue → WithBot (WithTop ℚ)
  | .finite q => ((q : WithTop ℚ) : WithBot (WithTop ℚ))
  | .infinite true => ⊥
  | .infinite false => ((⊤ : WithTop ℚ) : WithBot (WithTop ℚ))
  | .nan => ⊥

theorem less_iff_place {a b : FloatValue} (ha : a ≠ .nan) (hb : b ≠ .nan) :
    a.less b = true ↔ a.place < b.place := by
  cases a with
  | finite p =>
      cases b with
      | finite q => simp [place]
      | infinite t =>
          cases t with
          | true => simp [place, less]
          | false => exact iff_of_true rfl (WithBot.coe_lt_coe.mpr (WithTop.coe_lt_top p))
      | nan => exact absurd rfl hb
  | infinite s =>
      cases b with
      | finite q => cases s <;> simp [place, less]
      | infinite t => cases s <;> cases t <;> simp [place, less]
      | nan => exact absurd rfl hb
  | nan => exact absurd rfl ha

theorem equal_iff_place {a b : FloatValue} (ha : a ≠ .nan) (hb : b ≠ .nan) :
    a.equal b = true ↔ a.place = b.place := by
  cases a with
  | finite p =>
      cases b with
      | finite q => simp [place]
      | infinite t => cases t <;> simp [place, equal]
      | nan => exact absurd rfl hb
  | infinite s =>
      cases b with
      | finite q => cases s <;> simp [place, equal]
      | infinite t => cases s <;> cases t <;> simp [place, equal]
      | nan => exact absurd rfl hb
  | nan => exact absurd rfl ha

/-- `std::max` -/
def max (a b : FloatValue) : FloatValue := if a.less b then b else a

/-- `std::min` -/
def min (a b : FloatValue) : FloatValue := if b.less a then b else a

/-- `std::clamp` -/
def clamp (value least greatest : FloatValue) : FloatValue :=
  if value.less least then least else if greatest.less value then greatest else value

end FloatValue

end Mvision.Library
