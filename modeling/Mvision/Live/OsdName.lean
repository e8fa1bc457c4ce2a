import Mvision.Library.Utf8
import Mvision.Live.OsdState

/-!
# Names on the display

`sanitize_name` keeps 80 bytes of a name, not whole characters.  The name stays a text exactly
where no character lies across the end.
-/

namespace Mvision.Live

open Mvision.Library

/-- The bytes that `sanitize_name` leaves out. -/
def ControlByte (byte : UInt8) : Prop := byte < 0x20 ∨ byte = 0x7F

instance controlByteDecidable : DecidablePred ControlByte := fun _ =>
  inferInstanceAs (Decidable (_ ∨ _))

/-- The characters of a name that are no control characters. -/
def printable (name : String) : List Char :=
  name.toList.filter fun c => decide (128 ≤ c.toNat) || decide (¬ ControlByte (UInt8.ofNat c.toNat))

/-- The name for the display is a text, without control characters and not too long, and the
start of the name without them. -/
structure WellSanitized (name : String) (result : List UInt8) : Prop where
  text : ∃ shown : String, utf8 shown = result
  printable : ∀ byte ∈ result, ¬ ControlByte byte
  length : result.length ≤ 80
  cut : ∃ chars, chars <+: Live.printable name ∧ bytesOf chars = result

/-- What is left of a name before it is cut. -/
theorem sanitizeName_eq_take (name : String) :
    LiveOsdState.sanitizeName (some name) = (bytesOf (printable name)).take 80 := by
  have hhigh : ∀ byte : UInt8, 128 ≤ byte.toNat → decide (¬ ControlByte byte) = true := by
    intro byte hbyte
    apply decide_eq_true
    rintro (hlow | rfl)
    · have hlow : byte.toNat < 32 := UInt8.lt_iff_toNat_lt.mp hlow
      omega
    · exact absurd hbyte (by decide)
  exact congrArg (List.take 80) (filter_bytesOf hhigh name.toList)

theorem printable_of_mem {name : String} {byte : UInt8}
    (h : byte ∈ LiveOsdState.sanitizeName (some name)) : ¬ ControlByte byte := by
  have hkept : byte ∈ (utf8 name).filter fun byte => ¬ (byte < 0x20 ∨ byte = 0x7F) :=
    List.mem_of_mem_take h
  have hkeep := (List.mem_filter.mp hkept).2
  exact of_decide_eq_true hkeep

/-- A name stays well formed if it is short enough or a character ends at byte 80. -/
theorem wellSanitized_iff (name : String) :
    WellSanitized name (LiveOsdState.sanitizeName (some name)) ↔
      (bytesOf (printable name)).length ≤ 80 ∨
        ∃ chars, chars <+: printable name ∧ (bytesOf chars).length = 80 := by
  rw [← exists_prefix_take_iff, sanitizeName_eq_take]
  constructor
  · exact fun h => h.cut
  · rintro ⟨chars, hstart, hbytes⟩
    refine ⟨⟨String.ofList chars, (utf8_ofList chars).trans hbytes⟩, ?_, ?_, chars, hstart, hbytes⟩
    · intro byte hbyte
      rw [← sanitizeName_eq_take] at hbyte
      exact printable_of_mem hbyte
    · exact List.length_take_le 80 _

/-- A name whose last character lies across the end: 79 letters and one of two bytes. -/
def longName : String := String.ofList (List.replicate 79 'a' ++ ['é'])

theorem longName_cut : ¬ WellSanitized longName (LiveOsdState.sanitizeName (some longName)) := by
  intro h
  obtain ⟨shown, hshown⟩ := h.text
  have hnone : ofUtf8 (LiveOsdState.sanitizeName (some longName)) = none := by decide +kernel
  rw [← hshown, ofUtf8_eq_some_iff.mpr rfl] at hnone
  cases hnone

end Mvision.Live
