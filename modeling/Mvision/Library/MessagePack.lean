import Mathlib.Data.List.Nodup
import Mvision.Library.Float

/-!
# MessagePack

The value trees of MessagePack, with texts and binary data as bytes.  An integer is
one value in all its encodings, and so is a float.  `packedSize` counts the bytes of
the shortest encoding, which every packer writes.

The packages that pack and unpack are not part of the sources.  What is said here of them,
and in the reader, the writer and `unpackb`, follows the published format.
-/

namespace Mvision.Library

/-! ## Texts as bytes -/

def utf8 (text : String) : List UInt8 := text.toList.flatMap String.utf8EncodeChar

theorem toByteArray_utf8 (text : String) : (utf8 text).toByteArray = text.toByteArray := by
  conv_rhs => rw [← String.utf8Encode_toList]
  rfl

theorem utf8_injective : Function.Injective utf8 := by
  intro s t h
  apply String.toByteArray_inj.mp
  rw [← toByteArray_utf8, h, toByteArray_utf8]

@[simp] theorem utf8_inj {s t : String} : utf8 s = utf8 t ↔ s = t := utf8_injective.eq_iff

/-- The text of UTF-8 bytes. -/
def ofUtf8 (bytes : List UInt8) : Option String := String.fromUTF8? bytes.toByteArray

theorem ofUtf8_eq_some_iff {bytes : List UInt8} {text : String} :
    ofUtf8 bytes = some text ↔ utf8 text = bytes := by
  have htext : (utf8 text).toByteArray = text.toByteArray := toByteArray_utf8 text
  unfold ofUtf8 String.fromUTF8?
  constructor
  · intro h
    split at h
    · rename_i hvalid
      obtain rfl := Option.some.inj h
      exact List.toByteArray_inj.mp htext
    · cases h
  · rintro rfl
    rw [htext, dif_pos text.isValidUTF8]
    rfl

/-- The code points of a text. -/
def codes (text : String) : List Nat := text.toList.map Char.toNat

def byteCodes (bytes : List UInt8) : List Nat := bytes.map UInt8.toNat

/-- The bytes of an ASCII text are its code points. -/
theorem byteCodes_utf8 {text : String} (h : ∀ code ∈ codes text, code < 128) :
    byteCodes (utf8 text) = codes text := by
  unfold codes at h
  unfold byteCodes utf8 codes
  generalize text.toList = chars at h
  induction chars with
  | nil => rfl
  | cons c rest ih =>
      rw [List.map_cons, List.forall_mem_cons] at h
      obtain ⟨hc, hrest⟩ := h
      have hsize : c.utf8Size = 1 := by
        apply Char.utf8Size_eq_one_iff.mpr
        apply UInt32.le_iff_toNat_le.mpr
        exact Nat.le_of_lt_succ hc
      rw [List.flatMap_cons, String.utf8EncodeChar_eq_singleton hsize, List.map_append, ih hrest,
        List.map_cons, List.map_cons, List.map_nil, List.singleton_append]
      congr 1
      show c.val.toNat % 256 = c.val.toNat
      have hc : c.val.toNat < 128 := hc
      omega

/-! ## Association lists -/

section Assign

variable {κ ν : Type*} [DecidableEq κ]

/-- An assignment to a key: a new value at the place of the old one. -/
def assign (entries : List (κ × ν)) (key : κ) (value : ν) : List (κ × ν) :=
  match entries with
  | [] => [(key, value)]
  | (k, v) :: rest => if k = key then (k, value) :: rest else (k, v) :: assign rest key value

theorem assign_of_not_mem {entries : List (κ × ν)} {key : κ}
    (h : key ∉ entries.map Prod.fst) (value : ν) :
    assign entries key value = entries ++ [(key, value)] := by
  induction entries with
  | nil => rfl
  | cons entry rest ih =>
      obtain ⟨k, v⟩ := entry
      rw [List.map_cons, List.mem_cons, not_or] at h
      rw [assign, if_neg (Ne.symm h.1), ih h.2]
      rfl

theorem assign_map {κ' : Type*} [DecidableEq κ'] {f : κ → κ'} (hf : Function.Injective f)
    (entries : List (κ × ν)) (key : κ) (value : ν) :
    assign (entries.map fun entry => (f entry.1, entry.2)) (f key) value =
      (assign entries key value).map fun entry => (f entry.1, entry.2) := by
  induction entries with
  | nil => rfl
  | cons entry rest ih =>
      obtain ⟨k, v⟩ := entry
      rw [List.map_cons, assign, assign, ih]
      by_cases h : k = key
      · rw [if_pos h, if_pos (congrArg f h), List.map_cons]
      · rw [if_neg h, if_neg (hf.ne h), List.map_cons]

/-- The keys of an assignment are the new key and the old ones. -/
theorem mem_keys_assign {entries : List (κ × ν)} {key k : κ} {value : ν} :
    k ∈ (assign entries key value).map Prod.fst ↔ k = key ∨ k ∈ entries.map Prod.fst := by
  induction entries with
  | nil => simp [assign]
  | cons entry rest ih =>
      rw [assign]
      split
      · rename_i h
        rw [List.map_cons, List.mem_cons, List.map_cons, List.mem_cons, h]
        simp
      · rw [List.map_cons, List.mem_cons, ih, List.map_cons, List.mem_cons]
        exact or_left_comm

theorem length_assign_le (entries : List (κ × ν)) (key : κ) (value : ν) :
    (assign entries key value).length ≤ entries.length + 1 := by
  induction entries with
  | nil => exact le_rfl
  | cons entry rest ih =>
      rw [assign]
      split
      · exact Nat.le_succ _
      · exact Nat.succ_le_succ ih

theorem forall_mem_assign {P : ν → Prop} {entries : List (κ × ν)} (h : ∀ entry ∈ entries, P entry.2)
    (key : κ) {value : ν} (hvalue : P value) : ∀ entry ∈ assign entries key value, P entry.2 := by
  induction entries with
  | nil =>
      intro entry hentry
      rw [assign, List.mem_singleton] at hentry
      rw [hentry]
      exact hvalue
  | cons first rest ih =>
      rw [List.forall_mem_cons] at h
      rw [assign]
      split
      · exact List.forall_mem_cons.mpr ⟨hvalue, h.2⟩
      · exact List.forall_mem_cons.mpr ⟨h.1, ih h.2⟩

end Assign

/-! ## Value trees -/

inductive Object where
  | nil
  | boolean (value : Bool)
  | integer (value : Int)
  | float (value : FloatValue)
  | str (bytes : List UInt8)
  | bin (bytes : List UInt8)
  | array (items : List Object)
  | map (entries : List (Object × Object))
  | ext (type : Int) (bytes : List UInt8)
deriving Repr

namespace Object

def text (value : String) : Object := .str (utf8 value)

/-- A map with texts as keys. -/
def fields (entries : List (String × Object)) : Object :=
  .map (entries.map fun entry => (text entry.1, entry.2))

def isNil : Object → Bool
  | .nil => true
  | _ => false

def isMap : Object → Bool
  | .map _ => true
  | _ => false

/-- The number of entries of a map. -/
def mapSize : Object → Nat
  | .map entries => entries.length
  | _ => 0

/-- The bytes of a text; binary data is taken for one. -/
def asString : Object → Option (List UInt8)
  | .str bytes | .bin bytes => some bytes
  | _ => none

/-- The entries of a map with texts as keys, the last entry of a key. -/
def stringEntries (entries : List (Object × Object)) (values : List (List UInt8 × Object)) :
    Option (List (List UInt8 × Object)) :=
  match entries with
  | [] => some values
  | (key, value) :: rest =>
      match key.asString with
      | none => none
      | some name => stringEntries rest (assign values name value)

def asStringMap : Object → Option (List (List UInt8 × Object))
  | .map entries => stringEntries entries []
  | _ => none

theorem stringEntries_texts {entries values : List (List UInt8 × Object)}
    (h : (entries.map Prod.fst).Nodup)
    (hfresh : ∀ name ∈ entries.map Prod.fst, name ∉ values.map Prod.fst) :
    stringEntries (entries.map fun entry => (.str entry.1, entry.2)) values =
      some (values ++ entries) := by
  induction entries generalizing values with
  | nil => simp [stringEntries]
  | cons entry rest ih =>
      obtain ⟨name, value⟩ := entry
      rw [List.map_cons, List.nodup_cons] at h
      rw [List.map_cons, List.forall_mem_cons] at hfresh
      simp only [List.map_cons, stringEntries, asString]
      rw [assign_of_not_mem hfresh.1, ih h.2 fun other hother hm => ?_]
      · simp
      · rw [List.map_append, List.mem_append] at hm
        rcases hm with hm | hm
        · exact hfresh.2 other hother hm
        · rw [List.map_singleton, List.mem_singleton] at hm
          exact h.1 (hm ▸ hother)

/-- A map of distinct texts is read as it was written. -/
theorem asStringMap_texts {entries : List (List UInt8 × Object)}
    (h : (entries.map Prod.fst).Nodup) :
    (map (entries.map fun entry => (.str entry.1, entry.2))).asStringMap = some entries := by
  have htexts : stringEntries (entries.map fun entry => (.str entry.1, entry.2)) [] =
      some ([] ++ entries) := stringEntries_texts h fun _ _ => List.not_mem_nil
  exact htexts

theorem asStringMap_fields {entries : List (String × Object)} (h : (entries.map Prod.fst).Nodup) :
    (fields entries).asStringMap = some (entries.map fun entry => (utf8 entry.1, entry.2)) := by
  have hbytes : ((entries.map fun entry => (utf8 entry.1, entry.2)).map Prod.fst).Nodup := by
    simpa [List.map_map, Function.comp_def] using List.Nodup.map utf8_injective h
  have htexts := asStringMap_texts hbytes
  rw [List.map_map] at htexts
  exact htexts

theorem forall_mem_stringEntries {P : Object → Prop} {entries : List (Object × Object)}
    (h : ∀ entry ∈ entries, P entry.2) {values result : List (List UInt8 × Object)}
    (hvalues : ∀ entry ∈ values, P entry.2) (hresult : stringEntries entries values = some result) :
    ∀ entry ∈ result, P entry.2 := by
  induction entries generalizing values with
  | nil =>
      cases hresult
      exact hvalues
  | cons first rest ih =>
      rw [List.forall_mem_cons] at h
      rw [stringEntries] at hresult
      split at hresult
      · cases hresult
      · exact ih h.2 (forall_mem_assign hvalues _ h.1) hresult

/-- Repeated keys are counted once. -/
theorem length_stringEntries_le {entries : List (Object × Object)}
    {values result : List (List UInt8 × Object)} (h : stringEntries entries values = some result) :
    result.length ≤ values.length + entries.length := by
  induction entries generalizing values with
  | nil =>
      cases h
      exact le_rfl
  | cons first rest ih =>
      rw [stringEntries] at h
      split at h
      · cases h
      · rename_i name _
        have hassign := length_assign_le values name first.2
        have hrest := ih h
        rw [List.length_cons]
        omega

/-! ## Packing -/

/-- Bytes of the shortest encoding of an integer. -/
def integerSize (n : Int) : Nat :=
  if -32 ≤ n ∧ n < 128 then 1
  else if -128 ≤ n ∧ n < 256 then 2
  else if -32768 ≤ n ∧ n < 65536 then 3
  else if -2147483648 ≤ n ∧ n < 4294967296 then 5
  else 9

def strHeader (length : Nat) : Nat :=
  if length < 32 then 1 else if length < 256 then 2 else if length < 65536 then 3 else 5

def binHeader (length : Nat) : Nat :=
  if length < 256 then 2 else if length < 65536 then 3 else 5

/-- The header of an array or a map. -/
def containerHeader (length : Nat) : Nat :=
  if length < 16 then 1 else if length < 65536 then 3 else 5

def extHeader (length : Nat) : Nat :=
  if length ∈ [1, 2, 4, 8, 16] then 2
  else if length < 256 then 3 else if length < 65536 then 4 else 6

mutual
def packedSize : Object → Nat
  | .nil | .boolean _ => 1
  | .integer n => integerSize n
  | .float _ => 9
  | .str bytes => strHeader bytes.length + bytes.length
  | .bin bytes => binHeader bytes.length + bytes.length
  | .array items => containerHeader items.length + itemsSize items
  | .map entries => containerHeader entries.length + entriesSize entries
  | .ext _ bytes => extHeader bytes.length + bytes.length
def itemsSize : List Object → Nat
  | [] => 0
  | item :: items => item.packedSize + itemsSize items
def entriesSize : List (Object × Object) → Nat
  | [] => 0
  | (key, value) :: entries => key.packedSize + value.packedSize + entriesSize entries
end

/-- Integers have at most 64 bits, and lengths 32. -/
def IntegerFits (n : Int) : Prop := -9223372036854775808 ≤ n ∧ n < 18446744073709551616

instance (n : Int) : Decidable (IntegerFits n) := inferInstanceAs (Decidable (_ ∧ _))

mutual
def packable : Object → Bool
  | .nil | .boolean _ | .float _ => true
  | .integer n => decide (IntegerFits n)
  | .str bytes | .bin bytes | .ext _ bytes => decide (bytes.length < 4294967296)
  | .array items => decide (items.length < 4294967296) && itemsPackable items
  | .map entries => decide (entries.length < 4294967296) && entriesPackable entries
def itemsPackable : List Object → Bool
  | [] => true
  | item :: items => item.packable && itemsPackable items
def entriesPackable : List (Object × Object) → Bool
  | [] => true
  | (key, value) :: entries => key.packable && value.packable && entriesPackable entries
end

end Object

end Mvision.Library
