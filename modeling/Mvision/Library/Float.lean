import Mathlib.Algebra.Order.Floor.Ring
import Mathlib.Data.Int.Log
import Mathlib.Data.Rat.Floor

/-!
# Binary floating point

A float is the number it denotes.  `FloatFormat.round` is the conversion of IEEE 754
to the nearest number of a format, ties to even.
-/

namespace Mvision.Library

inductive FloatValue where
  | finite (value : ℚ)
  | infinite (negative : Bool)
  | nan
deriving DecidableEq, Repr

/-- A format with `precision` bits of significand; `2 ^ minExponent` is its smallest number
and `2 ^ maxExponent` the first power that is too large. -/
structure FloatFormat where
  precision : Nat
  minExponent : Int
  maxExponent : Int
deriving DecidableEq, Repr

def binary32 : FloatFormat := ⟨24, -149, 128⟩

def binary64 : FloatFormat := ⟨53, -1074, 1024⟩

/-- The nearest integer, and of two the even one. -/
def roundHalfEven (q : ℚ) : Int :=
  let rest := q - ⌊q⌋
  if rest < 1 / 2 then ⌊q⌋
  else if 1 / 2 < rest then ⌊q⌋ + 1
  else if ⌊q⌋ % 2 = 0 then ⌊q⌋
  else ⌊q⌋ + 1

namespace FloatFormat

/-- The exponent of the last bit that the format has for `q`. -/
def lastBit (format : FloatFormat) (q : ℚ) : Int :=
  max (Int.log 2 |q| - (format.precision - 1)) format.minExponent

def round (format : FloatFormat) (q : ℚ) : FloatValue :=
  if q = 0 then .finite 0
  else
    let unit : ℚ := 2 ^ format.lastBit q
    let rounded := roundHalfEven (q / unit) * unit
    if |rounded| < 2 ^ format.maxExponent then .finite rounded
    else .infinite (decide (q < 0))

/-- The sum of the format. -/
def add (format : FloatFormat) : FloatValue → FloatValue → FloatValue
  | .finite a, .finite b => format.round (a + b)
  | .nan, _ | _, .nan => .nan
  | .infinite s, .infinite t => if s = t then .infinite s else .nan
  | .infinite s, .finite _ | .finite _, .infinite s => .infinite s

def mul (format : FloatFormat) : FloatValue → FloatValue → FloatValue
  | .finite a, .finite b => format.round (a * b)
  | .nan, _ | _, .nan => .nan
  | .infinite s, .infinite t => .infinite (s != t)
  | .infinite s, .finite b | .finite b, .infinite s =>
      if b = 0 then .nan else .infinite (s != decide (b < 0))

/-- The square root, from a root with more bits than a format has.  The half stands for
the bits that follow it: no number of the format and no tie lies in between. -/
def sqrt (format : FloatFormat) : FloatValue → FloatValue
  | .finite q =>
      if q = 0 then .finite 0
      else if q < 0 then .nan
      else
        let scale : Int := 2 * format.precision - Int.log 2 q / 2
        let root := Nat.sqrt ⌊q * 4 ^ scale⌋₊
        let rest : ℚ := if (root : ℚ) ^ 2 = q * 4 ^ scale then 0 else 1 / 2
        format.round ((root + rest) / 2 ^ scale)
  | .infinite false => .infinite false
  | .infinite true | .nan => .nan

/-- The number of a bit pattern: a sign, `exponentBits` of exponent and the fraction. -/
def ofBits (format : FloatFormat) (exponentBits bits : Nat) : FloatValue :=
  let fractionBits := format.precision - 1
  let fraction := bits % 2 ^ fractionBits
  let exponent := bits / 2 ^ fractionBits % 2 ^ exponentBits
  let negative := decide (bits / 2 ^ (fractionBits + exponentBits) % 2 = 1)
  if exponent = 2 ^ exponentBits - 1 then
    if fraction = 0 then .infinite negative else .nan
  else
    -- the exponent 0 has no implicit bit
    let magnitude : ℚ :=
      if exponent = 0 then fraction * 2 ^ format.minExponent
      else (2 ^ fractionBits + fraction) * 2 ^ (format.minExponent + exponent - 1)
    .finite (if negative then -magnitude else magnitude)

end FloatFormat

namespace FloatValue

def neg : FloatValue → FloatValue
  | .finite q => .finite (-q)
  | .infinite s => .infinite !s
  | .nan => .nan

def abs : FloatValue → FloatValue
  | .finite q => .finite |q|
  | .infinite _ => .infinite false
  | .nan => .nan

/-- `a < b`, false for a value that is not a number. -/
def less : FloatValue → FloatValue → Bool
  | .finite a, .finite b => decide (a < b)
  | .nan, _ | _, .nan => false
  | .infinite s, .infinite t => s && !t
  | .infinite s, .finite _ => s
  | .finite _, .infinite t => !t

/-- `a ≤ b`, false for a value that is not a number. -/
def lessEq : FloatValue → FloatValue → Bool
  | .finite a, .finite b => decide (a ≤ b)
  | .nan, _ | _, .nan => false
  | .infinite s, .infinite t => s || !t
  | .infinite s, .finite _ => s
  | .finite _, .infinite t => !t

end FloatValue

end Mvision.Library
