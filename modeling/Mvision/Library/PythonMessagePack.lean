import Mvision.Library.Packer
import Mvision.Library.PythonValues

/-!
# `unpackb`

What Python makes of MessagePack: texts are UTF-8, keys are texts or bytes, and a later entry
replaces the value of its key.  Then what it makes of the values that a packer has written.
-/

namespace Mvision.Library.Python

open Mvision.Library

/-! ## Values -/

/-- `strict_map_key` keeps all other keys out. -/
def keyOf : Object → Option Key
  | .str bytes => (ofUtf8 bytes).map .text
  | .bin bytes => some (.bytes bytes)
  | _ => none

def timestamp (seconds : Int) (nanoseconds : Nat) : Option Value :=
  if nanoseconds < 10 ^ 9 then some (.timestamp seconds nanoseconds) else none

/-- `Timestamp.from_bytes` -/
def timestampOf (data : List UInt8) : Option Value :=
  match data.length with
  | 4 => timestamp (bigEndian data) 0
  | 8 => timestamp (bigEndian data % 2 ^ 34 : Nat) (bigEndian data / 2 ^ 34)
  | 12 => timestamp (twosComplement (data.drop 4)) (bigEndian (data.take 4))
  | _ => none

/-- `ExtType(type, data)`, or a `Timestamp`. -/
def extensionOf (type : Int) (data : List UInt8) : Option Value :=
  if type = -1 then timestampOf data
  else if type < 0 then none
  else some (.ext type data)

mutual
/-- The value of a tree; none where a `ValueError` is raised. -/
def valueOf : Object → Option Value
  | .nil => some .none
  | .boolean flag => some (.bool flag)
  | .integer n => some (.int n)
  | .float x => some (.float x)
  | .str bytes => (ofUtf8 bytes).map .str
  | .bin bytes => some (.bytes bytes)
  | .array items => (valuesOf items).map .list
  | .map entries => (entriesOf entries []).map .dict
  | .ext type data => extensionOf type data
def valuesOf : List Object → Option (List Value)
  | [] => some []
  | item :: items =>
      match valueOf item, valuesOf items with
      | some value, some values => some (value :: values)
      | _, _ => none
def entriesOf : List (Object × Object) → List (Key × Value) → Option (List (Key × Value))
  | [], values => some values
  | (key, item) :: rest, values =>
      match keyOf key, valueOf item with
      | some name, some value => entriesOf rest (assign values name value)
      | _, _ => none
end

/-- `unpackb(…, raw=False)`, after the published format: the package is not part of the sources.
What it cannot read ends as `other`, whatever the reason. -/
def unpackb (input : List UInt8) : Except UnpackError Value :=
  match unpack input with
  | some (object, rest) =>
      match valueOf object with
      | some value => if rest = [] then .ok value else .error .extraData
      | none => .error .other
  | none => .error .other

/-! ## What a packer has written -/

/-- Python reads the value from the bytes. -/
structure Carries (packed : Packed) (value : Value) : Prop where
  sound : packed.Sound
  read : valueOf packed.object = some value

/-- A dictionary with texts as keys. -/
def dictOf (values : List (String × Value)) : Value :=
  .dict (values.map fun entry => (.text entry.1, entry.2))

theorem carries_integer {n : Int} (h : Object.IntegerFits n) :
    Carries (.integer n) (.int n) := ⟨Packed.sound_integer h, rfl⟩

theorem carries_text {bytes : List UInt8} {text : String} (h : ofUtf8 bytes = some text) :
    Carries (.text bytes) (.str text) := by
  refine ⟨Packed.sound_text bytes, ?_⟩
  rw [Packed.text, valueOf, h]
  rfl

theorem carries_bin (bytes : List UInt8) : Carries (.bin bytes) (.bytes bytes) :=
  ⟨Packed.sound_bin bytes, rfl⟩

theorem valuesOf_eq {items : List Object} {values : List Value}
    (h : List.Forall₂ (fun item value => valueOf item = some value) items values) :
    valuesOf items = some values := by
  induction h with
  | nil => rfl
  | cons hfirst hrest ih => rw [valuesOf, hfirst, ih]

theorem carries_array {size : Nat} {items : List Packed} {values : List Value}
    (hsize : items.length = size) (h : List.Forall₂ Carries items values) :
    Carries (.array size items) (.list values) := by
  have hsound : ∀ item ∈ items, item.Sound :=
    ((List.forall₂_and_left _ _).mp
      (h.imp fun _ _ hcarries => ⟨hcarries.sound, hcarries⟩)).1
  refine ⟨Packed.sound_array hsize hsound, ?_⟩
  rw [Packed.array, valueOf, valuesOf_eq]
  · rfl
  · rw [List.forall₂_map_left_iff]
    exact h.imp fun _ _ hcarries => hcarries.read

theorem carries_arrayCast {items : List Packed} {values : List Value}
    (h : List.Forall₂ Carries items values) : Carries (.arrayCast items) (.list values) := by
  have hsound : ∀ item ∈ items, item.Sound :=
    ((List.forall₂_and_left _ _).mp (h.imp fun _ _ hcarries => ⟨hcarries.sound, hcarries⟩)).1
  exact ⟨Packed.sound_arrayCast hsound, (carries_array rfl h).read⟩

theorem carries_binCast {bytes : List UInt8} (h : bytes.length < 4294967296) :
    Carries (.binCast bytes) (.bytes bytes) := by
  rw [Packed.binCast_eq h]
  exact carries_bin bytes

/-- Distinct texts stay as they are. -/
theorem entriesOf_eq {entries : List (String × Object)} {values others : List (String × Value)}
    (hnodup : ((others ++ values).map Prod.fst).Nodup)
    (h : List.Forall₂ (fun entry value => entry.1 = value.1 ∧ valueOf entry.2 = some value.2)
      entries values) :
    entriesOf (entries.map fun entry => (Object.text entry.1, entry.2))
        (others.map fun entry => (.text entry.1, entry.2)) =
      some ((others ++ values).map fun entry => (.text entry.1, entry.2)) := by
  induction h generalizing others with
  | nil =>
      rw [List.append_nil]
      rfl
  | @cons entry value rest values hfirst hrest ih =>
      obtain ⟨name, item⟩ := entry
      obtain ⟨name', value⟩ := value
      obtain ⟨rfl, hvalue⟩ := hfirst
      have hkey : keyOf (Object.text name) = some (.text name) := by
        rw [Object.text, keyOf, ofUtf8_eq_some_iff.mpr rfl]
        rfl
      have hfresh : (.text name : Key) ∉
          (others.map fun entry => ((.text entry.1 : Key), entry.2)).map Prod.fst := by
        rw [List.map_map]
        rintro hmem
        obtain ⟨other, hother, hname⟩ := List.mem_map.mp hmem
        have hname : other.1 = name := Key.text.inj hname
        rw [List.map_append, List.map_cons] at hnodup
        exact List.disjoint_of_nodup_append hnodup (List.mem_map_of_mem hother)
          (hname ▸ List.mem_cons_self)
      rw [List.append_cons] at hnodup
      have hrest := ih hnodup
      rw [List.map_cons, entriesOf, hkey, hvalue]
      dsimp only
      rw [assign_of_not_mem hfresh, List.append_cons others, ← hrest, List.map_append]
      rfl

theorem carries_fields {size : Nat} {entries : List (String × Packed)}
    {values : List (String × Value)} (hsize : entries.length = size)
    (hnodup : (values.map Prod.fst).Nodup)
    (h : List.Forall₂ (fun entry value => entry.1 = value.1 ∧ Carries entry.2 value.2)
      entries values) : Carries (.fields size entries) (dictOf values) := by
  have hsound : ∀ entry ∈ entries, entry.2.Sound :=
    ((List.forall₂_and_left _ _).mp (h.imp fun _ _ hcarries => ⟨hcarries.2.sound, hcarries⟩)).1
  refine ⟨Packed.sound_fields hsize hsound, ?_⟩
  have hread : List.Forall₂ (fun entry value => entry.1 = value.1 ∧ valueOf entry.2 = some value.2)
      (entries.map fun entry => (entry.1, entry.2.object)) values := by
    rw [List.forall₂_map_left_iff]
    exact h.imp fun _ _ hcarries => ⟨hcarries.1, hcarries.2.read⟩
  have hentries := @entriesOf_eq _ values [] hnodup hread
  rw [Packed.fields_object, Object.fields, valueOf]
  rw [List.map_nil, List.nil_append] at hentries
  rw [hentries]
  rfl

/-- The bytes alone are unpacked. -/
theorem unpackb_eq {packed : Packed} {value : Value} (h : Carries packed value)
    (hlength : packed.bytes.length < 4294967296) : unpackb packed.bytes = .ok value := by
  have hread := h.sound hlength []
  rw [List.append_nil] at hread
  rw [unpackb, hread]
  dsimp only
  rw [h.read]
  exact if_pos rfl

/-! ## Dictionaries -/

section Dict

variable {values : List (String × Value)} {name : String} {value : Value}

theorem lookup_texts (values : List (String × Value)) (name : String) :
    lookup (values.map fun entry => (.text entry.1, entry.2)) name = values.lookup name := by
  unfold lookup
  induction values with
  | nil => rfl
  | cons entry values ih =>
      obtain ⟨other, value⟩ := entry
      rw [List.map_cons, List.lookup_cons, List.lookup_cons, ih]
      by_cases hname : name = other
      · rw [hname, beq_self_eq_true, beq_self_eq_true]
      · have hkey : ¬ Key.text name = Key.text other := fun h => hname (Key.text.inj h)
        rw [beq_eq_false_iff_ne.mpr hname, beq_eq_false_iff_ne.mpr hkey]

theorem subscript_dictOf (h : values.lookup name = some value) :
    subscript (dictOf values) name = .ok value := by
  show entry _ name = _
  rw [entry, lookup_texts, h]

theorem get_dictOf (h : values.lookup name = some value) :
    get (dictOf values) name = .ok value := by
  show Except.ok ((lookup _ name).getD .none) = _
  rw [lookup_texts, h]
  rfl

end Dict

/-! ## Floats -/

/-- The value of a float that a packer has written, which may be an integer. -/
def written (packing : FloatPacking) : FloatValue → Value
  | .finite q =>
      match packing.asInteger q with
      | some n => .int n
      | none => .float (.finite q)
  | x => .float x

theorem valueOf_object (packing : FloatPacking) (x : FloatValue) :
    valueOf (packing.object x) = some (written packing x) := by
  cases x with
  | finite q =>
      unfold FloatPacking.object written
      dsimp only
      cases packing.asInteger q <;> rfl
  | infinite negative => rfl
  | nan => rfl

section Written

variable {packing : FloatPacking} {python : Interpreter} {x : FloatValue}

theorem carries_single (x : Single) :
    Carries (.single packing x) (written packing x.val) :=
  ⟨Packed.sound_float (encodes_float32 x.property), valueOf_object packing x.val⟩

theorem carries_double (x : Double) :
    Carries (.double packing x) (written packing x.val) :=
  ⟨Packed.sound_float (encodes_float64 x.property), valueOf_object packing x.val⟩

def floatsValue (packing : FloatPacking) (values : List Single) : Value :=
  .list (values.map fun x => written packing x.val)

theorem carries_floats {n : Nat} (values : Vector Single n) :
    Carries (Packed.singles packing values) (floatsValue packing values.toList) := by
  refine carries_array ?_ ?_
  · rw [List.length_map, Vector.length_toList]
  · rw [List.forall₂_map_left_iff, List.forall₂_map_right_iff]
    exact List.forall₂_same.mpr fun x _ => carries_single x

theorem toFloat_written (h : binary64.Has 11 x) :
    toFloat python (written packing x) = .ok x := by
  cases x with
  | finite q =>
      unfold written
      dsimp only
      split
      · rename_i n hn
        -- an integer that is a float is rounded to itself
        have hround : binary64.round (n : ℚ) = .finite q := by
          rw [packing.exact hn]
          exact FloatFormat.round_of_has FloatFormat.spans_binary64 h
        show floatOfInt n = _
        unfold floatOfInt
        rw [hround]
      · rfl
  | infinite negative => rfl
  | nan => rfl

theorem written_isNumeric : (written packing x).isNumeric = true := by
  cases x with
  | finite q =>
      unfold written
      dsimp only
      split <;> rfl
  | infinite negative => rfl
  | nan => rfl

theorem written_isBool : (written packing x).isBool = false := by
  cases x with
  | finite q =>
      unfold written
      dsimp only
      split <;> rfl
  | infinite negative => rfl
  | nan => rfl

end Written

end Mvision.Library.Python
