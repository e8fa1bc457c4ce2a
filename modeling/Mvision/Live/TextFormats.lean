import Mvision.Library.MessagePack

/-!
# Texts with a format

The patterns of the protocol, on character codes: code points on the Python side,
bytes on the native side.  Both sides spell their regular expressions alike.
-/

namespace Mvision.Live

open Mvision.Library

def lowerHexadecimal (code : Nat) : Bool :=
  ('0'.toNat ≤ code && code ≤ '9'.toNat) || ('a'.toNat ≤ code && code ≤ 'f'.toNat)

def hexadecimal (code : Nat) : Bool :=
  lowerHexadecimal code || ('A'.toNat ≤ code && code ≤ 'F'.toNat)

/-- The places of the hyphens in a UUID. -/
def hyphens : List Nat := [8, 13, 18, 23]

/-- 36 characters: hyphens at their places, and digits of `digit` elsewhere. -/
def uuidText (digit : Nat → Bool) (text : List Nat) : Bool :=
  decide (text.length = 36) && text.zipIdx.all fun (code, index) =>
    if index ∈ hyphens then code = '-'.toNat else digit code

theorem lowerHexadecimal_range {code : Nat} (h : lowerHexadecimal code = true) :
    48 ≤ code ∧ code ≤ 57 ∨ 97 ≤ code ∧ code ≤ 102 := by
  have hrange : (48 ≤ code ∧ code ≤ 57) ∨ (97 ≤ code ∧ code ≤ 102) := by
    simpa [lowerHexadecimal] using h
  exact hrange

section UuidText

variable {digit digit' : Nat → Bool} {text : List Nat}

theorem uuidText_length (h : uuidText digit text = true) : text.length = 36 := by
  rw [uuidText, Bool.and_eq_true, decide_eq_true_eq] at h
  exact h.1

theorem uuidText_mem (h : uuidText digit text = true) {code : Nat} (hc : code ∈ text) :
    code = 45 ∨ digit code = true := by
  rw [uuidText, Bool.and_eq_true, List.all_eq_true] at h
  obtain ⟨index, hindex⟩ := List.mem_iff_getElem?.mp hc
  have hat := h.2 (code, index) (List.mem_zipIdx_iff_getElem?.mpr hindex)
  dsimp only at hat
  split at hat
  · exact .inl (of_decide_eq_true hat)
  · exact .inr hat

theorem uuidText_mono (hdigit : ∀ code, digit code = true → digit' code = true)
    (h : uuidText digit text = true) : uuidText digit' text = true := by
  rw [uuidText, Bool.and_eq_true, List.all_eq_true] at h ⊢
  refine ⟨h.1, fun entry hentry => ?_⟩
  have hat := h.2 entry hentry
  dsimp only at hat ⊢
  split at hat
  · rename_i hindex
    rw [if_pos hindex]
    exact hat
  · rename_i hindex
    rw [if_neg hindex]
    exact hdigit _ hat

end UuidText

/-- The characters of a lower-case UUID: hyphens, digits and letters. -/
theorem lowerUuid_range {text : List Nat} (h : uuidText lowerHexadecimal text = true) {code : Nat}
    (hc : code ∈ text) : code = 45 ∨ 48 ≤ code ∧ code ≤ 57 ∨ 97 ≤ code ∧ code ≤ 102 :=
  (uuidText_mem h hc).imp_right lowerHexadecimal_range

/-- `^00-([0-9a-f]{32})-([0-9a-f]{16})-([0-9a-f]{2})$`: the trace id and the span id. -/
def traceparentGroups (text : List Nat) : Option (List Nat × List Nat) :=
  let traceId := (text.drop 3).take 32
  let spanId := (text.drop 36).take 16
  let flags := text.drop 53
  if text = codes "00-" ++ traceId ++ codes "-" ++ spanId ++ codes "-" ++ flags ∧
      text.length = 55 ∧ (traceId ++ spanId ++ flags).all lowerHexadecimal then
    some (traceId, spanId)
  else none

/-- A trace that W3C allows has no identifier of zeros only. -/
def traceparentValid (text : List Nat) : Bool :=
  match traceparentGroups text with
  | some (traceId, spanId) =>
      decide (traceId ≠ List.replicate 32 '0'.toNat ∧ spanId ≠ List.replicate 16 '0'.toNat)
  | none => false

/-- A text with the three parts is taken apart into them. -/
theorem traceparentGroups_append {traceId spanId flags : List Nat} (htrace : traceId.length = 32)
    (hspan : spanId.length = 16) (hflags : flags.length = 2)
    (h : (traceId ++ spanId ++ flags).all lowerHexadecimal = true) :
    traceparentGroups (codes "00-" ++ traceId ++ codes "-" ++ spanId ++ codes "-" ++ flags) =
      some (traceId, spanId) := by
  have hstart : codes "00-" = [48, 48, 45] := rfl
  have hhyphen : codes "-" = [45] := rfl
  have htraceId : ((codes "00-" ++ traceId ++ codes "-" ++ spanId ++ codes "-" ++ flags).drop
      3).take 32 = traceId := by
    simp [hstart, htrace]
  have hspanId : ((codes "00-" ++ traceId ++ codes "-" ++ spanId ++ codes "-" ++ flags).drop
      36).take 16 = spanId := by
    have hlong : traceId.drop 33 = [] := List.drop_of_length_le (by omega)
    simp [hstart, hhyphen, htrace, hspan, hlong, List.drop_append]
  have hrest : (codes "00-" ++ traceId ++ codes "-" ++ spanId ++ codes "-" ++ flags).drop 53 =
      flags := by
    have hlong : traceId.drop 50 = [] := List.drop_of_length_le (by omega)
    have hlong' : spanId.drop 17 = [] := List.drop_of_length_le (by omega)
    simp [hstart, hhyphen, htrace, hspan, hlong, hlong', List.drop_append]
  have hlength : (codes "00-" ++ traceId ++ codes "-" ++ spanId ++ codes "-" ++ flags).length =
      55 := by
    simp [hstart, hhyphen, htrace, hspan, hflags]
  unfold traceparentGroups
  dsimp only
  rw [htraceId, hspanId, hrest]
  exact if_pos ⟨rfl, hlength, h⟩

/-- `^[first][first_or_digit_or_underscore]{0,63}$` -/
def identifierText (letter : Nat → Bool) (text : List Nat) : Bool :=
  match text with
  | [] => false
  | code :: rest =>
      letter code && decide (rest.length ≤ 63) &&
        rest.all fun code => letter code ||
          ('0'.toNat ≤ code && code ≤ '9'.toNat) || code = '_'.toNat

/-- `^[a-z][a-z0-9_]{0,63}$` -/
def stableEnum : List Nat → Bool :=
  identifierText fun code => 'a'.toNat ≤ code && code ≤ 'z'.toNat

/-- `^[A-Z][A-Z0-9_]{0,63}$` -/
def stableError : List Nat → Bool :=
  identifierText fun code => 'A'.toNat ≤ code && code ≤ 'Z'.toNat

end Mvision.Live
