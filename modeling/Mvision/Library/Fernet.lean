import Mathlib.Logic.Equiv.Basic
import Mathlib.Tactic.Common

/-!
# Sealed tokens

What callers of `cryptography.fernet` rely on: a token opens to the data sealed in it, and its
length is a function of theirs.  The published format has both, whatever the block cipher and
the authentication code are: it is the URL-safe base64 text of a version, the time, an
initialization vector, the padded data in cipher and the code of all that.
-/

namespace Mvision.Library

/-- `4 * ceil((57 + 16 * (floor(n / 16) + 1)) / 3)` -/
def tokenLength (n : Nat) : Nat := 4 * ((57 + 16 * (n / 16 + 1) + 2) / 3)

/-- `Fernet`: the time and the random bytes are drawn at every call. -/
structure Fernet (Entropy : Type) where
  encrypt : Entropy → List UInt8 → List Char
  decrypt : List Char → Option (List UInt8)
  decrypt_encrypt : ∀ entropy data, decrypt (encrypt entropy data) = some data
  length_encrypt : ∀ entropy data, (encrypt entropy data).length = tokenLength data.length

/-- `MultiFernet`: the first key seals, and every key may open. -/
def Fernet.multi {Entropy : Type} (first : Fernet Entropy) (others : List (Fernet Entropy)) :
    Fernet Entropy where
  encrypt := first.encrypt
  decrypt token := (first :: others).findSome? fun fernet => fernet.decrypt token
  decrypt_encrypt entropy data := by
    rw [List.findSome?_cons, first.decrypt_encrypt]
  length_encrypt := first.length_encrypt

/-! ## Base64 -/

namespace Base64

/-- The URL-safe alphabet. -/
def alphabet : List Char :=
  "ABCDEFGHIJKLMNOPQRSTUVWXYZabcdefghijklmnopqrstuvwxyz0123456789-_".toList

def digit (n : Nat) : Char := alphabet.getD n '='

def value (c : Char) : Option Nat := alphabet.idxOf? c

theorem value_digit {n : Nat} (h : n < 64) : value (digit n) = some n := by
  have hall : ∀ n ∈ List.range 64, value (digit n) = some n := by decide +kernel
  exact hall n (List.mem_range.mpr h)

theorem digit_ne_padding {n : Nat} (h : n < 64) : digit n ≠ '=' := by
  have hall : ∀ n ∈ List.range 64, digit n ≠ '=' := by decide
  exact hall n (List.mem_range.mpr h)

/-- Three bytes are four digits; a text with less at its end is filled up. -/
def encode : List UInt8 → List Char
  | [] => []
  | [a] => [digit (a.toNat / 4), digit (a.toNat % 4 * 16), '=', '=']
  | [a, b] =>
      [digit (a.toNat / 4), digit (a.toNat % 4 * 16 + b.toNat / 16), digit (b.toNat % 16 * 4), '=']
  | a :: b :: c :: rest =>
      digit (a.toNat / 4) :: digit (a.toNat % 4 * 16 + b.toNat / 16) ::
        digit (b.toNat % 16 * 4 + c.toNat / 64) :: digit (c.toNat % 64) :: encode rest

def decode : List Char → Option (List UInt8)
  | [] => some []
  | w :: x :: y :: z :: rest =>
      (value w).bind fun w => (value x).bind fun x =>
        if y = '=' then
          if z = '=' ∧ rest = [] then some [UInt8.ofNat (w * 4 + x / 16)] else none
        else (value y).bind fun y =>
          if z = '=' then
            if rest = [] then
              some [UInt8.ofNat (w * 4 + x / 16), UInt8.ofNat (x % 16 * 16 + y / 4)]
            else none
          else (value z).bind fun z => (decode rest).map fun rest =>
            UInt8.ofNat (w * 4 + x / 16) :: UInt8.ofNat (x % 16 * 16 + y / 4) ::
              UInt8.ofNat (y % 4 * 64 + z) :: rest
  | _ => none

theorem length_encode (bytes : List UInt8) :
    (encode bytes).length = 4 * ((bytes.length + 2) / 3) := by
  induction bytes using encode.induct with
  | case1 => simp [encode]
  | case2 a => simp [encode]
  | case3 a b => simp [encode]
  | case4 a b c rest ih =>
      simp only [encode, List.length_cons, ih]
      omega

theorem ofNat_eq {n : Nat} {a : UInt8} (h : n = a.toNat) : UInt8.ofNat n = a := by
  rw [h, UInt8.ofNat_toNat]

theorem decode_encode (bytes : List UInt8) : decode (encode bytes) = some bytes := by
  -- three bytes at a time, as `encode` takes them; one or two are left at the end
  induction bytes using encode.induct with
  | case1 => rfl
  | case2 a =>
      have ha := a.toNat_lt
      rw [encode, decode, value_digit (by omega), Option.bind_some, value_digit (by omega),
        Option.bind_some, if_pos rfl, if_pos ⟨rfl, rfl⟩, ofNat_eq (a := a) (by omega)]
  | case3 a b =>
      have ha := a.toNat_lt
      have hb := b.toNat_lt
      rw [encode, decode, value_digit (by omega), Option.bind_some, value_digit (by omega),
        Option.bind_some, if_neg (digit_ne_padding (by omega)), value_digit (by omega),
        Option.bind_some, if_pos rfl, if_pos rfl, ofNat_eq (a := a) (by omega),
        ofNat_eq (a := b) (by omega)]
  | case4 a b c rest ih =>
      have ha := a.toNat_lt
      have hb := b.toNat_lt
      have hc := c.toNat_lt
      rw [encode, decode, value_digit (by omega), Option.bind_some, value_digit (by omega),
        Option.bind_some, if_neg (digit_ne_padding (by omega)), value_digit (by omega),
        Option.bind_some, if_neg (digit_ne_padding (by omega)), value_digit (by omega),
        Option.bind_some, ih, Option.map_some, ofNat_eq (a := a) (by omega),
        ofNat_eq (a := b) (by omega), ofNat_eq (a := c) (by omega)]

end Base64

/-! ## Padding -/

namespace Padding

/-- Blocks of 16 bytes: the padding is never empty, and says its own length. -/
def pad (data : List UInt8) : List UInt8 :=
  data ++ List.replicate (16 - data.length % 16) (UInt8.ofNat (16 - data.length % 16))

def unpad (padded : List UInt8) : Option (List UInt8) :=
  match padded.getLast? with
  | none => none
  | some last =>
      let kept := padded.length - last.toNat
      if 0 < last.toNat ∧ last.toNat ≤ 16 ∧ padded.drop kept = List.replicate last.toNat last then
        some (padded.take kept)
      else none

theorem length_pad (data : List UInt8) : (pad data).length = 16 * (data.length / 16 + 1) := by
  rw [pad, List.length_append, List.length_replicate]
  omega

theorem unpad_pad (data : List UInt8) : unpad (pad data) = some data := by
  have hcount : (UInt8.ofNat (16 - data.length % 16)).toNat = 16 - data.length % 16 := by
    rw [UInt8.toNat_ofNat']
    omega
  have hlast : (pad data).getLast? = some (UInt8.ofNat (16 - data.length % 16)) := by
    rw [pad, List.getLast?_append, List.getLast?_replicate, if_neg (by omega), Option.some_or]
  have hkept : (pad data).length - (16 - data.length % 16) = data.length := by
    rw [pad, List.length_append, List.length_replicate, Nat.add_sub_cancel]
  rw [unpad, hlast]
  dsimp only
  rw [hcount, hkept, pad, List.drop_left, List.take_left,
    if_pos ⟨by omega, by omega, rfl⟩]

end Padding

/-! ## The format -/

/-- AES in CBC mode under an initialization vector, and the code of a message. -/
structure TokenKey where
  cbc : List UInt8 → Equiv.Perm (List UInt8)
  mac : List UInt8 → List UInt8
  length_cbc : ∀ vector blocks, (cbc vector blocks).length = blocks.length
  length_mac : ∀ message, (mac message).length = 32

/-- What is drawn for a token: the time and the initialization vector. -/
structure TokenEntropy where
  time : List UInt8
  vector : List UInt8
  length_time : time.length = 8
  length_vector : vector.length = 16

namespace TokenKey

variable (key : TokenKey)

/-- What the code of a token covers. -/
def parts (entropy : TokenEntropy) (data : List UInt8) : List UInt8 :=
  (0x80 :: entropy.time) ++ (entropy.vector ++ key.cbc entropy.vector (Padding.pad data))

def encrypt (entropy : TokenEntropy) (data : List UInt8) : List Char :=
  Base64.encode (key.parts entropy data ++ key.mac (key.parts entropy data))

def decrypt (token : List Char) : Option (List UInt8) :=
  (Base64.decode token).bind fun bytes =>
    let parts := bytes.take (bytes.length - 32)
    if bytes.head? ≠ some 0x80 ∨ bytes.length < 9 ∨
        bytes.drop (bytes.length - 32) ≠ key.mac parts then none
    else Padding.unpad ((key.cbc ((bytes.drop 9).take 16)).symm (parts.drop 25))

variable (entropy : TokenEntropy) (data : List UInt8)

theorem length_parts : (key.parts entropy data).length = 25 + 16 * (data.length / 16 + 1) := by
  rw [parts, List.length_append, List.length_append, List.length_cons, entropy.length_time,
    entropy.length_vector, key.length_cbc, Padding.length_pad]
  omega

theorem drop_parts :
    (key.parts entropy data).drop 9 =
      entropy.vector ++ key.cbc entropy.vector (Padding.pad data) := by
  have hlength : (0x80 :: entropy.time).length = 9 := by
    rw [List.length_cons, entropy.length_time]
  rw [parts, ← hlength, List.drop_left]

theorem decrypt_encrypt : key.decrypt (key.encrypt entropy data) = some data := by
  have hlength := key.length_parts entropy data
  have hparts : (key.parts entropy data ++ key.mac (key.parts entropy data)).length - 32 =
      (key.parts entropy data).length := by
    rw [List.length_append, key.length_mac, Nat.add_sub_cancel]
  have hvector : ((key.parts entropy data ++ key.mac (key.parts entropy data)).drop 9).take 16 =
      entropy.vector := by
    rw [List.drop_append_of_le_length (by omega), drop_parts, List.append_assoc,
      ← entropy.length_vector, List.take_left]
  have hcipher : (key.parts entropy data).drop 25 =
      key.cbc entropy.vector (Padding.pad data) := by
    rw [← List.drop_drop (i := 16) (j := 9), drop_parts, ← entropy.length_vector, List.drop_left]
  rw [decrypt, encrypt, Base64.decode_encode, Option.bind_some]
  dsimp only
  -- none of the three reasons to refuse a token applies
  rw [hparts, List.take_left, List.drop_left, hvector, hcipher, Equiv.symm_apply_apply,
    Padding.unpad_pad, if_neg]
  rintro (hversion | hshort | hmac)
  · exact hversion rfl
  · rw [List.length_append] at hshort
    omega
  · exact hmac rfl

/-- The tokens of a key. -/
def fernet : Fernet TokenEntropy where
  encrypt := key.encrypt
  decrypt := key.decrypt
  decrypt_encrypt := key.decrypt_encrypt
  length_encrypt entropy data := by
    rw [encrypt, Base64.length_encode, List.length_append, length_parts, key.length_mac,
      tokenLength]
    omega

end TokenKey

end Mvision.Library
