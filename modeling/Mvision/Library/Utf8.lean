import Mvision.Library.MessagePack

/-!
# Characters and their bytes

Bytes below 128 are characters of their own, so that such characters can be taken out of a text
byte by byte.  A text that is cut after some bytes stays a text where a character ends there.
-/

namespace Mvision.Library

/-- The bytes of characters in a row. -/
def bytesOf (chars : List Char) : List UInt8 := chars.flatMap String.utf8EncodeChar

theorem utf8_ofList (chars : List Char) : utf8 (String.ofList chars) = bytesOf chars := by
  rw [utf8, String.toList_ofList, bytesOf]

@[simp] theorem bytesOf_nil : bytesOf [] = [] := rfl

@[simp] theorem bytesOf_cons (c : Char) (chars : List Char) :
    bytesOf (c :: chars) = String.utf8EncodeChar c ++ bytesOf chars :=
  List.flatMap_cons

theorem bytesOf_append (front back : List Char) :
    bytesOf (front ++ back) = bytesOf front ++ bytesOf back :=
  List.flatMap_append

theorem le_toNat_or {byte mark : UInt8} (h : 128 ≤ mark.toNat) : 128 ≤ (byte ||| mark).toNat := by
  rw [UInt8.toNat_or]
  exact h.trans Nat.right_le_or

/-- A character is a byte below 128, or all its bytes are higher. -/
theorem ascii_or_high (c : Char) :
    (c.toNat < 128 ∧ String.utf8EncodeChar c = [UInt8.ofNat c.toNat]) ∨
      (128 ≤ c.toNat ∧ ∀ byte ∈ String.utf8EncodeChar c, 128 ≤ byte.toNat) := by
  by_cases hsize : c.utf8Size = 1
  · refine .inl ⟨?_, ?_⟩
    · exact Nat.lt_succ_of_le (UInt32.le_iff_toNat_le.mp (Char.utf8Size_eq_one_iff.mp hsize))
    · rw [String.utf8EncodeChar_eq_singleton hsize]
      rfl
  · refine .inr ⟨?_, ?_⟩
    · by_contra hlow
      apply hsize
      apply Char.utf8Size_eq_one_iff.mpr
      exact UInt32.le_iff_toNat_le.mpr (Nat.le_of_lt_succ (not_le.mp hlow))
    · have hsizes : c.utf8Size = 2 ∨ c.utf8Size = 3 ∨ c.utf8Size = 4 := by
        have hpos := c.utf8Size_pos
        have hle := c.utf8Size_le_four
        omega
      intro byte hbyte
      -- every byte of a longer character is marked in its highest bit
      rcases hsizes with h | h | h
      · rw [String.utf8EncodeChar_eq_cons_cons h] at hbyte
        simp only [List.mem_cons, List.not_mem_nil, or_false] at hbyte
        rcases hbyte with rfl | rfl <;> exact le_toNat_or (by decide)
      · rw [String.utf8EncodeChar_eq_cons_cons_cons h] at hbyte
        simp only [List.mem_cons, List.not_mem_nil, or_false] at hbyte
        rcases hbyte with rfl | rfl | rfl <;> exact le_toNat_or (by decide)
      · rw [String.utf8EncodeChar_eq_cons_cons_cons_cons h] at hbyte
        simp only [List.mem_cons, List.not_mem_nil, or_false] at hbyte
        rcases hbyte with rfl | rfl | rfl | rfl <;> exact le_toNat_or (by decide)

/-- Low bytes are taken out with their characters. -/
theorem filter_bytesOf {p : UInt8 → Bool} (hhigh : ∀ byte, 128 ≤ byte.toNat → p byte = true)
    (chars : List Char) :
    (bytesOf chars).filter p =
      bytesOf (chars.filter fun c => decide (128 ≤ c.toNat) || p (UInt8.ofNat c.toNat)) := by
  induction chars with
  | nil => rfl
  | cons c chars ih =>
      rw [bytesOf_cons, List.filter_append, ih, List.filter_cons]
      rcases ascii_or_high c with ⟨hlow, hbytes⟩ | ⟨hc, hbytes⟩
      · rw [decide_eq_false (not_le.mpr hlow), Bool.false_or, hbytes, List.filter_cons,
          List.filter_nil]
        split
        · rw [bytesOf_cons, hbytes]
        · rw [List.nil_append]
      · have hall : (String.utf8EncodeChar c).filter p = String.utf8EncodeChar c :=
          List.filter_eq_self.mpr fun byte hbyte => hhigh byte (hbytes byte hbyte)
        rw [decide_eq_true hc, Bool.true_or, if_pos rfl, hall, bytesOf_cons]

/-- The first `n` bytes of a text are whole characters if it has no more bytes, or a character
ends after `n` of them. -/
theorem exists_prefix_take_iff (n : Nat) (chars : List Char) :
    (∃ front, front <+: chars ∧ bytesOf front = (bytesOf chars).take n) ↔
      (bytesOf chars).length ≤ n ∨ ∃ front, front <+: chars ∧ (bytesOf front).length = n := by
  constructor
  · rintro ⟨front, hfront, hbytes⟩
    by_cases hlength : (bytesOf chars).length ≤ n
    · exact .inl hlength
    · refine .inr ⟨front, hfront, ?_⟩
      rw [hbytes, List.length_take]
      omega
  · rintro (hlength | ⟨front, ⟨back, rfl⟩, hlength⟩)
    · exact ⟨chars, List.prefix_refl chars, (List.take_of_length_le hlength).symm⟩
    · refine ⟨front, List.prefix_append front back, ?_⟩
      rw [bytesOf_append, ← hlength, List.take_left]

end Mvision.Library
