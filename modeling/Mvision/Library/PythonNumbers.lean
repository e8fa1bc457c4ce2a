import Mathlib.Data.List.DropRight
import Mvision.Library.Float
import Mvision.Library.PythonText

/-!
# Numbers in Python texts

The texts that `int`, `float` and `int(…, 16)` read.  Digits of other scripts count as digits,
and a single underscore may stand between two digits.
-/

namespace Mvision.Library.Python

open Mvision.Library

/-- The decimal digits of all scripts: a table of the language. -/
structure DecimalDigits where
  digit : Char → Option Nat
  digit_of_ascii : ∀ c, c.toNat < 128 →
    digit c = if c.isDigit then some (c.toNat - '0'.toNat) else none

/-- A blank of ASCII.  The separators U+001C to U+001F are white space to `str`, and none here. -/
def isBlank (c : Char) : Bool := (9 ≤ c.toNat && c.toNat ≤ 13) || c == ' '

/-- The characters as numbers are read from them: the blanks of ASCII and the spaces beyond it as one,
the digits of all scripts as ASCII digits. -/
def DecimalDigits.ascii (digits : DecimalDigits) (text : String) : List Char :=
  text.toList.map fun c =>
    if c.toNat < 127 then (if isBlank c then ' ' else c)
    else if isSpace c then ' '
    else
      match digits.digit c with
      | some n => Char.ofNat ('0'.toNat + n)
      | none => '?'

/-- The bytes as characters, with the blanks as one. -/
def asciiOfBytes (bytes : List UInt8) : List Char :=
  bytes.map fun byte =>
    if isBlank (Char.ofNat byte.toNat) then ' ' else Char.ofNat byte.toNat

def trim (text : List Char) : List Char := (text.dropWhile (· == ' ')).rdropWhile (· == ' ')

/-- A sign in front. -/
def signed : List Char → Bool × List Char
  | '-' :: text => (true, text)
  | '+' :: text => (false, text)
  | text => (false, text)

/-- Digits, with single underscores between them. -/
def digitGroups (isDigit : Char → Bool) (text : List Char) : Option (List Char) :=
  let groups := text.splitOn '_'
  if groups.all fun group => !group.isEmpty && group.all isDigit then some groups.flatten else none

def isHexDigit (c : Char) : Bool :=
  c.isDigit || ('a' ≤ c && c ≤ 'f') || ('A' ≤ c && c ≤ 'F')

def digitValue (c : Char) : Nat :=
  if c.isDigit then c.toNat - '0'.toNat
  else if 'a' ≤ c then c.toNat - 'a'.toNat + 10
  else c.toNat - 'A'.toNat + 10

def natural (base : Nat) (digits : List Char) : Nat :=
  digits.foldl (fun n c => n * base + digitValue c) 0

/-- `sys.get_int_max_str_digits` -/
def maxDigits : Nat := 4300

/-- `int(text)` -/
def integerOf (text : List Char) : Option Int :=
  let (negative, rest) := signed (trim text)
  match digitGroups Char.isDigit rest with
  | some digits =>
      if maxDigits < digits.length then none
      else some (if negative then -natural 10 digits else natural 10 digits)
  | none => none

/-- A prefix of the base 16, with an underscore after it. -/
def hexDigits : List Char → List Char
  | '0' :: 'x' :: '_' :: text | '0' :: 'X' :: '_' :: text => text
  | '0' :: 'x' :: text | '0' :: 'X' :: text => text
  | text => text

/-- `int(text, 16)` -/
def hexadecimalOf (text : List Char) : Option Int :=
  let (negative, rest) := signed (trim text)
  (digitGroups isHexDigit (hexDigits rest)).map fun digits =>
    if negative then -natural 16 digits else natural 16 digits

/-- The digits before or after the point. -/
def part (text : List Char) : Option (List Char) :=
  if text = [] then some [] else digitGroups Char.isDigit text

/-- Digits with a point among them: their number, and how many stand after the point. -/
def fixedPoint (text : List Char) : Option (Nat × Nat) :=
  match text.splitOn '.' with
  | [whole] => (digitGroups Char.isDigit whole).map fun digits => (natural 10 digits, 0)
  | [whole, fraction] =>
      match part whole, part fraction with
      | some before, some after =>
          if before = [] ∧ after = [] then none
          else some (natural 10 (before ++ after), after.length)
      | _, _ => none
  | _ => none

/-- The exponent. -/
def exponentOf (text : List Char) : Option Int :=
  let (negative, rest) := signed text
  (digitGroups Char.isDigit rest).map fun digits =>
    if negative then -natural 10 digits else natural 10 digits

/-- A decimal number without a sign, in small letters. -/
def decimalOf (text : List Char) : Option ℚ :=
  match text.splitOn 'e' with
  | [mantissa] => (fixedPoint mantissa).map fun (n, places) => n / 10 ^ places
  | [mantissa, exponent] =>
      match fixedPoint mantissa, exponentOf exponent with
      | some (n, places), some e => some (n * 10 ^ (e - places))
      | _, _ => none
  | _ => none

/-- `float(text)` -/
def floatOf (text : List Char) : Option FloatValue :=
  let (negative, rest) := signed (trim text)
  let small := rest.map Char.toLower
  let magnitude : Option FloatValue :=
    if small = "inf".toList ∨ small = "infinity".toList then some (.infinite false)
    else if small = "nan".toList then some .nan
    else (decimalOf small).map binary64.round
  magnitude.map fun x => if negative then x.neg else x

/-- The text without the places where a pattern stands, from the left. -/
def removed (pattern : List Char) : Nat → List Char → List Char
  | 0, text => text
  | _, [] => []
  | fuel + 1, c :: text =>
      if pattern.isPrefixOf (c :: text) then removed pattern fuel ((c :: text).drop pattern.length)
      else c :: removed pattern fuel text

/-- `text.replace(pattern, "")` -/
def without (pattern : String) (text : List Char) : List Char :=
  removed pattern.toList text.length text

def isBrace (c : Char) : Bool := c == '\x7b' || c == '\x7d'

/-- Whether `UUID(text)` accepts a text: what is left of it without decoration has 32 characters,
and `int(…, 16)` reads a number of 128 bits in it. -/
def DecimalDigits.uuidAccepts (digits : DecimalDigits) (text : String) : Bool :=
  let hex := without "-"
    (((without "uuid:" (without "urn:" text.toList)).dropWhile isBrace).rdropWhile isBrace)
  hex.length == 32 &&
    match hexadecimalOf (digits.ascii (String.ofList hex)) with
    | some n => decide (0 ≤ n ∧ n < 2 ^ 128)
    | none => false

/-! ## The digits of a number -/

theorem isDigit_toDigits {n : Nat} {c : Char} (h : c ∈ Nat.toDigits 10 n) : c.isDigit = true :=
  Nat.isDigit_of_mem_toDigits (by decide) (by decide) h

/-- A digit is an ASCII character, and neither a blank nor a sign. -/
theorem digit_spec {c : Char} (h : c.isDigit = true) :
    c.toNat < 127 ∧ isBlank c = false ∧ c ≠ '-' ∧ c ≠ '+' ∧ c ≠ ' ' ∧ c ≠ '_' := by
  have hbounds : 48 ≤ c.toNat ∧ c.toNat ≤ 57 := by
    simp only [Char.isDigit, Bool.and_eq_true, decide_eq_true_eq] at h
    exact ⟨h.1, h.2⟩
  have hblank : c ≠ ' ' := by
    rintro rfl
    revert hbounds
    decide
  refine ⟨by omega, ?_, ?_, ?_, hblank, ?_⟩
  · simp only [isBlank, Bool.or_eq_false_iff, Bool.and_eq_false_iff, decide_eq_false_iff_not,
      beq_eq_false_iff_ne]
    exact ⟨by omega, hblank⟩
  all_goals
    rintro rfl
    revert hbounds
    decide

theorem not_isSpace_of_isDigit {c : Char} (h : c.isDigit = true) : isSpace c = false := by
  have hbounds : 48 ≤ c.toNat ∧ c.toNat ≤ 57 := by
    simp only [Char.isDigit, Bool.and_eq_true, decide_eq_true_eq] at h
    exact ⟨h.1, h.2⟩
  simp only [isSpace, Bool.or_eq_false_iff, Bool.and_eq_false_iff, decide_eq_false_iff_not,
    beq_eq_false_iff_ne]
  omega

theorem natural_toDigits (n : Nat) : natural 10 (Nat.toDigits 10 n) = n := by
  unfold natural
  calc (Nat.toDigits 10 n).foldl (fun n c => n * 10 + digitValue c) 0
      = (Nat.toDigits 10 n).foldl (fun n c => 10 * n + (c.toNat - '0'.toNat)) 0 := by
        apply List.foldl_ext
        intro sum c hc
        rw [digitValue, if_pos (isDigit_toDigits hc), Nat.mul_comm]
    _ = n := Nat.ofDigitChars_toDigits (by decide) (by decide)

theorem trim_toDigits (n : Nat) : trim (Nat.toDigits 10 n) = Nat.toDigits 10 n := by
  have hspace : ∀ c ∈ Nat.toDigits 10 n, ¬ (c == ' ') = true := by
    intro c hc h
    exact (digit_spec (isDigit_toDigits hc)).2.2.2.2.1 (beq_iff_eq.mp h)
  unfold trim
  have hfront : (Nat.toDigits 10 n).dropWhile (· == ' ') = Nat.toDigits 10 n := by
    rw [List.dropWhile_eq_self_iff]
    exact fun hpos => hspace _ (List.getElem_mem hpos)
  rw [hfront, List.rdropWhile_eq_self_iff]
  exact fun hne => hspace _ (List.getLast_mem hne)

theorem signed_toDigits (n : Nat) : signed (Nat.toDigits 10 n) = (false, Nat.toDigits 10 n) := by
  have hsign : ∀ c ∈ Nat.toDigits 10 n, c ≠ '-' ∧ c ≠ '+' := by
    intro c hc
    obtain ⟨-, -, hminus, hplus, -⟩ := digit_spec (isDigit_toDigits hc)
    exact ⟨hminus, hplus⟩
  unfold signed
  split
  · rename_i text h
    exact absurd rfl (hsign '-' (h ▸ List.mem_cons_self)).1
  · rename_i text h
    exact absurd rfl (hsign '+' (h ▸ List.mem_cons_self)).2
  · rfl

theorem digitGroups_toDigits (n : Nat) :
    digitGroups Char.isDigit (Nat.toDigits 10 n) = some (Nat.toDigits 10 n) := by
  have hsplit : (Nat.toDigits 10 n).splitOn '_' = [Nat.toDigits 10 n] := by
    apply List.splitOnP_eq_singleton
    intro c hc
    exact beq_eq_false_iff_ne.mpr (digit_spec (isDigit_toDigits hc)).2.2.2.2.2
  have hall : (Nat.toDigits 10 n).all Char.isDigit = true :=
    List.all_eq_true.mpr fun c hc => isDigit_toDigits hc
  unfold digitGroups
  simp [hsplit, hall, Nat.toDigits_ne_nil]

/-- `int(str(n))`, unless the text is too long. -/
theorem integerOf_toDigits {n : Nat} (h : (Nat.toDigits 10 n).length ≤ maxDigits) :
    integerOf (Nat.toDigits 10 n) = some (n : Int) := by
  unfold integerOf
  rw [trim_toDigits, signed_toDigits]
  simp only [digitGroups_toDigits]
  rw [if_neg (Nat.not_lt.mpr h), natural_toDigits]
  rfl

theorem DecimalDigits.digit_toDigits (digits : DecimalDigits) {n : Nat} {c : Char}
    (h : c ∈ Nat.toDigits 10 n) : digits.digit c = some (c.toNat - '0'.toNat) := by
  obtain ⟨hascii, -⟩ := digit_spec (isDigit_toDigits h)
  rw [digits.digit_of_ascii c (by omega), if_pos (isDigit_toDigits h)]

theorem DecimalDigits.ascii_toDigits (digits : DecimalDigits) (n : Nat) :
    digits.ascii (String.ofList (Nat.toDigits 10 n)) = Nat.toDigits 10 n := by
  unfold DecimalDigits.ascii
  rw [String.toList_ofList]
  conv_rhs => rw [← List.map_id (Nat.toDigits 10 n)]
  apply List.map_congr_left
  intro c hc
  obtain ⟨hascii, hblank, -⟩ := digit_spec (isDigit_toDigits hc)
  rw [if_pos hascii, hblank]
  rfl

end Mvision.Library.Python
