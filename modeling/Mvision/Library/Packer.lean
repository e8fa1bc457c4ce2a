import Mathlib.Algebra.Order.BigOperators.Group.List
import Mvision.Library.MessagePackWriter

/-!
# Packers

A packer writes a header and then the values inside, so the sizes are its caller's.  A value
is kept here next to its bytes.  A packer may write a whole number as an integer, so a float
is read back as a float or as the integer that it is equal to: a number that a format has is
rounded to itself, and a double has every number of a single float.
-/

namespace Mvision.Library

theorem roundHalfEven_intCast (n : Int) : roundHalfEven (n : ℚ) = n := by
  unfold roundHalfEven
  rw [Int.floor_intCast, sub_self, if_pos (by norm_num)]

namespace FloatFormat

/-- The exponents of a format are those that fit in `exponentBits`. -/
structure Spans (format : FloatFormat) (exponentBits : Nat) : Prop where
  precision : 2 ≤ format.precision
  bits : 2 ≤ exponentBits
  exponents :
    format.maxExponent = format.minExponent + format.precision + (2 ^ exponentBits - 3)

theorem spans_binary32 : binary32.Spans 8 := ⟨by decide, by decide, by decide⟩

theorem spans_binary64 : binary64.Spans 11 := ⟨by decide, by decide, by decide⟩

/-- A significand that has a place in the format, times a power of two. -/
structure Scaled (format : FloatFormat) (q : ℚ) (significand : Nat) (e : Int) : Prop where
  value : |q| = significand * 2 ^ e
  lt : significand < 2 ^ format.precision
  least : format.minExponent ≤ e
  most : e + format.precision ≤ format.maxExponent

variable {format : FloatFormat} {exponentBits significand : Nat} {q : ℚ} {e : Int}

theorem abs_lt_of_scaled (h : format.Scaled q significand e) : |q| < 2 ^ format.maxExponent := by
  have hlt : (significand : ℚ) < 2 ^ (format.precision : Int) := by
    rw [zpow_natCast]
    exact_mod_cast h.lt
  calc |q| = significand * 2 ^ e := h.value
    _ < 2 ^ (format.precision : Int) * 2 ^ e :=
        mul_lt_mul_of_pos_right hlt (zpow_pos (by norm_num) e)
    _ = 2 ^ (format.precision + e) := (zpow_add₀ (by norm_num) _ _).symm
    _ ≤ 2 ^ format.maxExponent := zpow_le_zpow_right₀ (by norm_num) (by linarith [h.most])

/-- A number of the format has a significand with all the bits that its exponent leaves. -/
theorem Has.exists_scaled (hspans : format.Spans exponentBits)
    (h : format.Has exponentBits (.finite q)) :
    ∃ significand e, format.Scaled q significand e ∧
      (e = format.minExponent ∨ 2 ^ (format.precision - 1) ≤ significand) := by
  obtain ⟨negative, exponent, fraction, hexponent, hfraction, hparts⟩ := h.exists_parts
  have hdouble : 2 ^ format.precision = 2 ^ (format.precision - 1) * 2 := by
    rw [← pow_succ, Nat.sub_add_cancel (by linarith [hspans.precision])]
  have hfour : 2 ^ 2 ≤ 2 ^ exponentBits := Nat.pow_le_pow_right (by norm_num) hspans.bits
  have hmost := hspans.exponents
  unfold ofParts at hparts
  split at hparts
  · split at hparts <;> cases hparts
  rename_i hfinite
  have habs : |q| = format.magnitude exponent fraction := by
    obtain rfl := FloatValue.finite.inj hparts
    cases negative
    · exact abs_of_nonneg magnitude_nonneg
    · exact (abs_neg _).trans (abs_of_nonneg magnitude_nonneg)
  unfold magnitude at habs
  split at habs
  · refine ⟨fraction, format.minExponent, ⟨habs, by omega, le_rfl, ?_⟩, .inl rfl⟩
    push_cast [hmost]
    have hfour : (4 : Int) ≤ 2 ^ exponentBits := by exact_mod_cast hfour
    linarith
  · refine ⟨2 ^ (format.precision - 1) + fraction, format.minExponent + exponent - 1,
      ⟨?_, by omega, by omega, ?_⟩, .inr (Nat.le_add_right _ _)⟩
    · rw [habs]
      push_cast
      rfl
    · have hexponent : (exponent : Int) + 2 ≤ 2 ^ exponentBits := by
        have hexponent : exponent + 2 ≤ 2 ^ exponentBits := by omega
        exact_mod_cast hexponent
      rw [hmost]
      linarith

/-- A number of the format is rounded to itself. -/
theorem round_of_has (hspans : format.Spans exponentBits)
    (h : format.Has exponentBits (.finite q)) : format.round q = .finite q := by
  obtain ⟨significand, e, hscaled, hfull⟩ := h.exists_scaled hspans
  have hlt := abs_lt_of_scaled hscaled
  unfold round
  split
  · rename_i hzero
    rw [hzero]
  rename_i hne
  have hunit : (2 : ℚ) ^ e ≠ 0 := zpow_ne_zero e (by norm_num)
  have hpos : 0 < significand := by
    refine Nat.pos_of_ne_zero ?_
    rintro rfl
    have hzero := hscaled.value
    rw [Nat.cast_zero, zero_mul] at hzero
    exact hne (abs_eq_zero.mp hzero)
  have hlast : format.lastBit q = e := by
    have hlast := lastBit_eq (by linarith [hspans.precision]) hpos hscaled.lt hscaled.least hfull
    rw [← hscaled.value] at hlast
    rw [← hlast, lastBit, lastBit, abs_abs]
  obtain ⟨n, hn⟩ : ∃ n : Int, q = n * 2 ^ e := by
    rcases eq_or_eq_neg_of_abs_eq hscaled.value with hvalue | hvalue
    · exact ⟨significand, by rw [hvalue]; norm_cast⟩
    · exact ⟨-significand, by rw [hvalue]; push_cast; ring⟩
  have hrounded : (roundHalfEven (q / 2 ^ e) : ℚ) * 2 ^ e = q := by
    rw [hn, mul_div_cancel_right₀ _ hunit, roundHalfEven_intCast]
  dsimp only
  rw [hlast, hrounded, if_pos hlt]

/-- The significand is moved as far to the left as the format allows. -/
theorem exists_full (h : format.Scaled q significand e) (hpos : 0 < significand)
    (hprecision : 1 ≤ format.precision) :
    ∃ significand e, format.Scaled q significand e ∧
      (e = format.minExponent ∨ 2 ^ (format.precision - 1) ≤ significand) := by
  have hdouble : 2 ^ format.precision = 2 ^ (format.precision - 1) * 2 := by
    rw [← pow_succ, Nat.sub_add_cancel hprecision]
  -- induction on the distance to the smallest exponent
  obtain ⟨n, hn⟩ := Int.le.dest h.least
  induction n generalizing significand e with
  | zero =>
      refine ⟨significand, e, h, .inl ?_⟩
      omega
  | succ n ih =>
      by_cases hfull : 2 ^ (format.precision - 1) ≤ significand
      · exact ⟨significand, e, h, .inr hfull⟩
      · have hmoved : format.Scaled q (2 * significand) (e - 1) := by
          refine ⟨?_, by omega, by omega, by linarith [h.most]⟩
          rw [h.value, zpow_sub_one₀ (by norm_num)]
          push_cast
          ring
        exact ih hmoved (by omega) (by omega)

theorem has_of_parts (negative : Bool) {exponent fraction : Nat}
    (hexponent : exponent < 2 ^ exponentBits - 1)
    (hfraction : fraction < 2 ^ (format.precision - 1))
    (hq : q = if negative then -format.magnitude exponent fraction
      else format.magnitude exponent fraction) : format.Has exponentBits (.finite q) := by
  have hlt : exponent < 2 ^ exponentBits := by omega
  refine ⟨_, (ofBits_parts negative hlt hfraction).trans ?_⟩
  rw [ofParts, if_neg (by omega), hq]

theorem has_of_scaled (hspans : format.Spans exponentBits)
    (h : format.Scaled q significand e) : format.Has exponentBits (.finite q) := by
  have hfour : 2 ^ 2 ≤ 2 ^ exponentBits := Nat.pow_le_pow_right (by norm_num) hspans.bits
  have hdouble : 2 ^ format.precision = 2 ^ (format.precision - 1) * 2 := by
    rw [← pow_succ, Nat.sub_add_cancel (by linarith [hspans.precision])]
  have hsign : q = if decide (q < 0) then -|q| else |q| := by
    by_cases hneg : q < 0
    · rw [decide_eq_true hneg, if_pos rfl, abs_of_neg hneg, neg_neg]
    · rw [decide_eq_false hneg, if_neg Bool.false_ne_true, abs_of_nonneg (not_lt.mp hneg)]
  rcases Nat.eq_zero_or_pos significand with rfl | hpos
  · have hzero : |q| = format.magnitude 0 0 := by
      rw [h.value, magnitude, if_pos rfl]
      simp
    rw [hzero] at hsign
    exact has_of_parts _ (by omega) (by positivity) hsign
  obtain ⟨significand, e, hscaled, hfull⟩ := exists_full h hpos (by linarith [hspans.precision])
  have hlt := hscaled.lt
  by_cases hsmall : significand < 2 ^ (format.precision - 1)
  · obtain rfl : e = format.minExponent := hfull.resolve_right (by omega)
    rw [hscaled.value, show (significand : ℚ) * 2 ^ format.minExponent =
      format.magnitude 0 significand from (if_pos rfl).symm] at hsign
    exact has_of_parts _ (by omega) hsmall hsign
  · obtain ⟨k, hk⟩ := Int.le.dest hscaled.least
    obtain ⟨fraction, rfl⟩ := Nat.exists_eq_add_of_le (not_lt.mp hsmall)
    have hmagnitude : |q| = format.magnitude (k + 1) fraction := by
      rw [hscaled.value, magnitude, if_neg (Nat.succ_ne_zero k), ← hk]
      push_cast
      congr 2
      ring
    rw [hmagnitude] at hsign
    refine has_of_parts _ ?_ (by omega) hsign
    have hmost : (k : Int) + 3 ≤ 2 ^ exponentBits := by
      linarith [hscaled.most, hspans.exponents]
    have hmost : k + 3 ≤ 2 ^ exponentBits := by exact_mod_cast hmost
    omega

/-- An integer with a place in the significand, times a power of two. -/
theorem has_dyadic (hspans : format.Spans exponentBits) (n e : Int) (hq : q = n * 2 ^ e)
    (hlt : n.natAbs < 2 ^ format.precision) (hleast : format.minExponent ≤ e)
    (hmost : e + format.precision ≤ format.maxExponent) :
    format.Has exponentBits (.finite q) := by
  refine has_of_scaled hspans ⟨?_, hlt, hleast, hmost⟩
  rw [hq, abs_mul, abs_of_pos (zpow_pos (by norm_num : (0 : ℚ) < 2) e), Nat.cast_natAbs,
    Int.cast_abs]

end FloatFormat

theorem binary32_has_dyadic {q : ℚ} (n e : Int) (hq : q = n * 2 ^ e) (hlt : n.natAbs < 2 ^ 24)
    (hleast : -149 ≤ e) (hmost : e + 24 ≤ 128) : binary32.Has 8 (.finite q) :=
  FloatFormat.has_dyadic FloatFormat.spans_binary32 n e hq hlt hleast hmost

theorem has_zero : binary32.Has 8 (.finite 0) :=
  binary32_has_dyadic 0 0 (by norm_num) (by decide) (by decide) (by decide)

theorem has_one : binary32.Has 8 (.finite 1) :=
  binary32_has_dyadic 1 0 (by norm_num) (by decide) (by decide) (by decide)

/-- A single float is a double. -/
theorem binary64_has_of_binary32 {q : ℚ} (h : binary32.Has 8 (.finite q)) :
    binary64.Has 11 (.finite q) := by
  obtain ⟨significand, e, hscaled, -⟩ := h.exists_scaled FloatFormat.spans_binary32
  have hlt : significand < 2 ^ 24 := hscaled.lt
  have hleast : -149 ≤ e := hscaled.least
  have hmost : e + 24 ≤ 128 := hscaled.most
  have hdouble : binary64.Scaled q significand e → binary64.Has 11 (.finite q) :=
    FloatFormat.has_of_scaled FloatFormat.spans_binary64
  refine hdouble ⟨hscaled.value, ?_, ?_, ?_⟩
  · exact hlt.trans (by norm_num [binary64])
  · show -1074 ≤ e
    omega
  · show e + 53 ≤ 1024
    omega

theorem has_double {x : FloatValue} (hx : binary32.Has 8 x) : binary64.Has 11 x := by
  cases x with
  | finite q => exact binary64_has_of_binary32 hx
  | infinite negative =>
      refine ⟨binary64.toBits 11 (.infinite negative), ?_⟩
      cases negative <;> decide
  | nan => exact ⟨binary64.toBits 11 .nan, by decide⟩

/-- `float` -/
abbrev Single := { x : FloatValue // binary32.Has 8 x }

/-- `double` -/
abbrev Double := { x : FloatValue // binary64.Has 11 x }

/-- The float of a pattern of bits. -/
def Single.ofBits (bits : Nat) : Single := ⟨binary32.ofBits 8 bits, bits, rfl⟩

def Single.toDouble (x : Single) : Double := ⟨x.val, has_double x.property⟩

/-! ## Packers -/

/-- The numbers that a packer writes as integers. -/
structure FloatPacking where
  asInteger : ℚ → Option Int
  fits : ∀ {q n}, asInteger q = some n → Object.IntegerFits n
  exact : ∀ {q n}, asInteger q = some n → (n : ℚ) = q

namespace FloatPacking

/-- A packer that writes every float as one. -/
def plain : FloatPacking where
  asInteger _ := none
  fits h := by cases h
  exact h := by cases h

/-- A packer that writes every whole number that fits as an integer. -/
def whole : FloatPacking where
  asInteger q := if q.den = 1 ∧ Object.IntegerFits q.num then some q.num else none
  fits h := by
    obtain ⟨⟨-, hfits⟩, hnum⟩ := Option.ite_none_right_eq_some.mp h
    obtain rfl := Option.some.inj hnum
    exact hfits
  exact h := by
    obtain ⟨⟨hden, -⟩, hnum⟩ := Option.ite_none_right_eq_some.mp h
    obtain rfl := Option.some.inj hnum
    exact Rat.coe_int_num_of_den_eq_one hden

variable (packing : FloatPacking)

/-- What is read of a float. -/
def object : FloatValue → Object
  | .finite q =>
      match packing.asInteger q with
      | some n => .integer n
      | none => .float (.finite q)
  | x => .float x

/-- The bytes of a float that `write` has for one that is not written as an integer. -/
def pack (write : FloatValue → List UInt8) : FloatValue → List UInt8
  | .finite q =>
      match packing.asInteger q with
      | some n => packInteger n
      | none => write (.finite q)
  | x => write x

theorem object_of_some {q : ℚ} {n : Int} (h : packing.asInteger q = some n) :
    packing.object (.finite q) = .integer n := by
  rw [object, h]

theorem object_of_none {q : ℚ} (h : packing.asInteger q = none) :
    packing.object (.finite q) = .float (.finite q) := by
  rw [object, h]

theorem object_ne_nil (x : FloatValue) : packing.object x ≠ .nil := by
  unfold object
  split
  · split <;> rintro ⟨⟩
  · rintro ⟨⟩

theorem encodes_pack {write : FloatValue → List UInt8} {x : FloatValue}
    (h : Encodes (write x) (.float x)) : Encodes (packing.pack write x) (packing.object x) := by
  cases x with
  | finite q =>
      unfold pack object
      dsimp only
      split
      · rename_i n hn
        exact encodes_integer (packing.fits hn)
      · exact h
  | infinite negative => exact h
  | nan => exact h

end FloatPacking

/-! ## What a packer writes -/

/-- The bytes of a value and the value itself. -/
structure Packed where
  bytes : List UInt8
  object : Object

namespace Packed

/-- The bytes are an encoding of the value; lengths have a place in 32 bits. -/
def Sound (packed : Packed) : Prop :=
  packed.bytes.length < 4294967296 → Encodes packed.bytes packed.object

def nil : Packed := ⟨[0xc0], .nil⟩

def boolean (flag : Bool) : Packed := ⟨[if flag then 0xc3 else 0xc2], .boolean flag⟩

def integer (n : Int) : Packed := ⟨packInteger n, .integer n⟩

def text (bytes : List UInt8) : Packed := ⟨packText bytes, .str bytes⟩

def bin (bytes : List UInt8) : Packed := ⟨packBin bytes.length ++ bytes, .bin bytes⟩

def float (packing : FloatPacking) (write : FloatValue → List UInt8) (x : FloatValue) : Packed :=
  ⟨packing.pack write x, packing.object x⟩

def single (packing : FloatPacking) (x : Single) : Packed := float packing packFloat32 x.val

def double (packing : FloatPacking) (x : Double) : Packed := float packing packFloat64 x.val

def optional {α : Type*} (pack : α → Packed) : Option α → Packed
  | none => nil
  | some value => pack value

/-- An array whose header says `size`. -/
def array (size : Nat) (items : List Packed) : Packed :=
  ⟨packArray size ++ (items.map bytes).flatten, .array (items.map object)⟩

/-- A `std::array` of floats. -/
def singles {n : Nat} (packing : FloatPacking) (values : Vector Single n) : Packed :=
  array n (values.toList.map (single packing))

/-- A vector of bytes whose size is cast to 32 bits. -/
def binCast (bytes : List UInt8) : Packed := bin (bytes.take (bytes.length % 4294967296))

/-- A vector whose size is cast to 32 bits. -/
def arrayCast (items : List Packed) : Packed := array (items.length % 4294967296) items

/-- A map whose header says `size`. -/
def map (size : Nat) (entries : List (Packed × Packed)) : Packed :=
  ⟨packMap size ++ (entries.map fun entry => entry.1.bytes ++ entry.2.bytes).flatten,
    .map (entries.map fun entry => (entry.1.object, entry.2.object))⟩

/-- A map with texts as keys. -/
def fields (size : Nat) (entries : List (String × Packed)) : Packed :=
  map size (entries.map fun entry => (text (utf8 entry.1), entry.2))

theorem sound_nil : nil.Sound := fun _ => encodes_nil

theorem sound_boolean (flag : Bool) : (boolean flag).Sound := fun _ => encodes_boolean flag

theorem sound_integer {n : Int} (h : Object.IntegerFits n) : (integer n).Sound :=
  fun _ => encodes_integer h

theorem sound_text (bytes : List UInt8) : (text bytes).Sound := by
  intro hlength
  refine encodes_text (lt_of_le_of_lt ?_ hlength)
  rw [text, packText, List.length_append]
  exact Nat.le_add_left _ _

theorem sound_bin (bytes : List UInt8) : (bin bytes).Sound := by
  intro hlength
  refine encodes_bin (lt_of_le_of_lt ?_ hlength)
  rw [bin, List.length_append]
  exact Nat.le_add_left _ _

theorem sound_float {packing : FloatPacking} {write : FloatValue → List UInt8} {x : FloatValue}
    (h : Encodes (write x) (.float x)) : (float packing write x).Sound :=
  fun _ => packing.encodes_pack h

theorem sound_optional {α : Type*} {pack : α → Packed} {value : Option α}
    (h : ∀ a ∈ value, (pack a).Sound) : (optional pack value).Sound := by
  cases value with
  | none => exact sound_nil
  | some a => exact h a rfl

theorem bytes_ne_nil {packed : Packed} (h : packed.Sound) : packed.bytes ≠ [] := by
  intro hnil
  have hencodes := h (by rw [hnil]; decide) []
  rw [hnil] at hencodes
  cases hencodes

theorem length_le_flatten {chunks : List (List UInt8)} {chunk : List UInt8} (h : chunk ∈ chunks) :
    chunk.length ≤ chunks.flatten.length := by
  rw [List.length_flatten]
  exact List.single_le_sum (fun _ _ => Nat.zero_le _) _ (List.mem_map_of_mem h)

/-- Every chunk has a byte. -/
theorem length_le_length_flatten {chunks : List (List UInt8)} (h : ∀ chunk ∈ chunks, chunk ≠ []) :
    chunks.length ≤ chunks.flatten.length := by
  induction chunks with
  | nil => exact le_rfl
  | cons chunk chunks ih =>
      rw [List.forall_mem_cons] at h
      have hpos := List.length_pos_iff.mpr h.1
      have hrest := ih h.2
      rw [List.length_cons, List.flatten_cons, List.length_append]
      omega

theorem sound_array {size : Nat} {items : List Packed} (hsize : items.length = size)
    (h : ∀ item ∈ items, item.Sound) : (array size items).Sound := by
  intro hlength
  rw [array, List.length_append] at hlength
  have hchunks : ∀ chunk ∈ items.map bytes, chunk ≠ [] := by
    rw [List.forall_mem_map]
    exact fun item hitem => bytes_ne_nil (h item hitem)
  have hcount := length_le_length_flatten hchunks
  rw [List.length_map] at hcount
  have hitems : List.Forall₂ Encodes (items.map bytes) (items.map object) := by
    rw [List.forall₂_map_left_iff, List.forall₂_map_right_iff]
    refine List.forall₂_same.mpr fun item hitem => h item hitem ?_
    have hitem := length_le_flatten (List.mem_map_of_mem (f := bytes) hitem)
    omega
  have hencodes := encodes_array hitems (by rw [List.length_map]; omega)
  rw [List.length_map, hsize] at hencodes
  exact hencodes

/-- A size that is cast to 32 bits is not changed where the bytes have a place. -/
theorem sound_arrayCast {items : List Packed} (h : ∀ item ∈ items, item.Sound) :
    (arrayCast items).Sound := by
  intro hlength
  have hcount : items.length < 4294967296 := by
    have hchunks : ∀ chunk ∈ items.map bytes, chunk ≠ [] := by
      rw [List.forall_mem_map]
      exact fun item hitem => bytes_ne_nil (h item hitem)
    have hitems := length_le_length_flatten hchunks
    rw [List.length_map] at hitems
    rw [arrayCast, array, List.length_append] at hlength
    omega
  exact sound_array (Nat.mod_eq_of_lt hcount).symm h hlength

theorem binCast_eq {bytes : List UInt8} (h : bytes.length < 4294967296) :
    binCast bytes = bin bytes := by
  rw [binCast, Nat.mod_eq_of_lt h, List.take_length]

theorem sound_map {size : Nat} {entries : List (Packed × Packed)} (hsize : entries.length = size)
    (h : ∀ entry ∈ entries, entry.1.Sound ∧ entry.2.Sound) : (map size entries).Sound := by
  intro hlength
  rw [map, List.length_append] at hlength
  have hchunks : ∀ chunk ∈ entries.map fun entry => entry.1.bytes ++ entry.2.bytes,
      chunk ≠ [] := by
    rw [List.forall_mem_map]
    exact fun entry hentry hnil =>
      bytes_ne_nil (h entry hentry).1 (List.append_eq_nil_iff.mp hnil).1
  have hcount := length_le_length_flatten hchunks
  rw [List.length_map] at hcount
  have hentries : List.Forall₂ (fun chunk entry => Encodes chunk.1 entry.1 ∧
        Encodes chunk.2 entry.2) (entries.map fun entry => (entry.1.bytes, entry.2.bytes))
      (entries.map fun entry => (entry.1.object, entry.2.object)) := by
    rw [List.forall₂_map_left_iff, List.forall₂_map_right_iff]
    refine List.forall₂_same.mpr fun entry hentry => ?_
    have hentry' := length_le_flatten
      (List.mem_map_of_mem (f := fun entry : Packed × Packed => entry.1.bytes ++ entry.2.bytes)
        hentry)
    rw [List.length_append] at hentry'
    exact ⟨(h entry hentry).1 (by omega), (h entry hentry).2 (by omega)⟩
  have hencodes := encodes_map hentries (by rw [List.length_map]; omega)
  rw [List.length_map, hsize, List.map_map] at hencodes
  exact hencodes

theorem sound_fields {size : Nat} {entries : List (String × Packed)}
    (hsize : entries.length = size) (h : ∀ entry ∈ entries, entry.2.Sound) :
    (fields size entries).Sound := by
  refine sound_map (by rw [List.length_map, hsize]) ?_
  rw [List.forall_mem_map]
  exact fun entry hentry => ⟨sound_text _, h entry hentry⟩

theorem fields_object (size : Nat) (entries : List (String × Packed)) :
    (fields size entries).object =
      .fields (entries.map fun entry => (entry.1, entry.2.object)) := by
  show Object.map _ = Object.map _
  rw [List.map_map, List.map_map]
  rfl

end Packed

end Mvision.Library
