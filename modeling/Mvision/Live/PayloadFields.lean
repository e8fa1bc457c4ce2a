import Mvision.Live.DecoderParity

/-!
# The fields of a payload that was written

A list of fields with distinct names is read as it was written, and its names tell the type of
the message.
-/

namespace Mvision.Live

open Mvision.Library Mvision.Live.Wire
open Native (readMap lookup_readMap)

/-- The names of the fields of a message. -/
abbrev names (type : MessageType) : List String := (headerChecks ++ messageChecks type).map Prod.fst

/-- The fields of a map are those of a list. -/
def Holds (values : Native.ObjectMap) (entries : List (String × Object)) : Prop :=
  ∀ entry ∈ entries, field values entry.1 = entry.2

/-- A check that has to pass. -/
theorem Native.ensures_failIf {α : Type} {P : α → Prop} {condition : Prop} [Decidable condition]
    {code : String} {next : Unit → Except String α} (h : ¬ condition → Ensures P (next ())) :
    Ensures P (Native.failIf condition code >>= next) := by
  unfold Native.failIf
  split
  · exact ensures_error code
  · rename_i hpassed
    exact h hpassed

section Fields

variable {values : Native.ObjectMap} {entries : List (String × Object)}

theorem holds_append {others : List (String × Object)} :
    Holds values (entries ++ others) ↔ Holds values entries ∧ Holds values others :=
  List.forall_mem_append

theorem lookup_of_mem (h : (entries.map Prod.fst).Nodup)
    {entry : String × Object} (hentry : entry ∈ entries) :
    entries.lookup entry.1 = some entry.2 := by
  induction entries with
  | nil => cases hentry
  | cons first rest ih =>
      rw [List.map_cons, List.nodup_cons] at h
      rcases List.mem_cons.mp hentry with rfl | hentry
      · exact List.lookup_cons_self
      · have hne : entry.1 ≠ first.1 := by
          intro hequal
          exact h.1 (hequal ▸ List.mem_map_of_mem hentry)
        rw [List.lookup_cons, beq_eq_false_iff_ne.mpr hne]
        exact ih h.2 hentry

/-- Each field of a map with distinct keys is found. -/
theorem holds_readMap (h : (entries.map Prod.fst).Nodup) : Holds (readMap entries) entries := by
  intro entry hentry
  rw [field, lookup_readMap, lookup_of_mem h hentry]
  rfl

theorem named_readMap (entries : List (String × Object)) :
    Named (entries.map Prod.fst) (readMap entries) := by
  refine ⟨fun name hname => ?_, fun entry hentry => ?_⟩
  · rw [lookup_readMap]
    intro hnone
    rw [List.lookup_eq_none_iff] at hnone
    obtain ⟨entry, hentry, rfl⟩ := List.mem_map.mp hname
    exact absurd (hnone entry hentry) (by simp)
  · obtain ⟨other, hother, rfl⟩ := List.mem_map.mp hentry
    exact List.mem_map_of_mem (List.mem_map_of_mem hother)

theorem readMap_injective : Function.Injective readMap := by
  refine List.map_injective_iff.mpr ?_
  rintro ⟨name, value⟩ ⟨name', value'⟩ h
  obtain ⟨hname, hvalue⟩ := Prod.mk.inj h
  exact Prod.ext (utf8_injective hname) hvalue

/-- A map with distinct texts as keys is the dictionary of its entries. -/
theorem dict_fields (h : (entries.map Prod.fst).Nodup) :
    Protocol.dict (.fields entries) = some (Protocol.ofTexts entries) := by
  have htexts : ∀ entry ∈ entries.map fun entry => (Object.text entry.1, entry.2),
      ∃ name, entry.1 = .text name := by
    rw [List.forall_mem_map]
    exact fun entry _ => ⟨entry.1, rfl⟩
  obtain ⟨result, hdict, hmap⟩ := Protocol.dictEntries_of_texts htexts []
  have hequal := Option.some.inj ((Object.asStringMap_fields h).symm.trans hmap)
  obtain rfl : entries = result := readMap_injective hequal
  exact hdict

theorem nodup_names (type : MessageType) : (names type).Nodup := by
  cases type <;> decide

theorem subset_of_named {expected expected' : List String} (h : Named expected values)
    (h' : Named expected' values) : expected ⊆ expected' := by
  intro name hname
  obtain ⟨value, hvalue⟩ := Option.ne_none_iff_exists'.mp (h.present name hname)
  obtain ⟨front, rest, rfl, -⟩ := List.lookup_eq_some_iff.mp hvalue
  obtain ⟨name', hname', hequal⟩ := List.mem_map.mp
    (h'.known (utf8 name, value) (List.mem_append_right _ List.mem_cons_self))
  rw [← utf8_inj.mp hequal]
  exact hname'

/-- A payload has the fields of one type only. -/
theorem named_unique {type type' : MessageType} (h : Named (names type) values)
    (h' : Named (names type') values) : type = type' := by
  have hall : ∀ type ∈ Protocol.messageTypes, ∀ type' ∈ Protocol.messageTypes,
      names type ⊆ names type' → names type' ⊆ names type → type = type' := by
    decide
  have hmem (type : MessageType) : type ∈ Protocol.messageTypes := by
    cases type <;> decide
  exact hall type (hmem type) type' (hmem type') (subset_of_named h h') (subset_of_named h' h)

end Fields

end Mvision.Live
