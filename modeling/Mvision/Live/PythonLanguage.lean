import Mvision.Live.NativeLanguage
import Mvision.Live.TraceContext

/-!
# What the Python side accepts

The decoder of `protocol.py` accepts exactly the payloads of the wire format that pass the
checks of its own.
-/

namespace Mvision.Live.Protocol

open Mvision.Library Mvision.Live.Wire
open Native (exists_failIf_ok_iff failIf_ok_iff readMap)

/-! ## Readers -/

section Readers

variable {value : Object}

theorem exists_text (hr : readable value = true) (h : Wire.Text value) :
    ∃ text, value = .text text := by
  obtain ⟨bytes, rfl⟩ := h
  obtain ⟨text, htext⟩ := Option.isSome_iff_exists.mp (show (ofUtf8 bytes).isSome = true from hr)
  exact ⟨text, congrArg Object.str (ofUtf8_eq_some_iff.mp htext).symm⟩

theorem string_ok_iff {text : String} : string value = .ok text ↔ value = .text text := by
  cases value with
  | str bytes =>
      unfold string
      dsimp only
      rw [Object.text, Object.str.injEq, eq_comm (a := bytes), ← ofUtf8_eq_some_iff]
      cases ofUtf8 bytes with
      | none => exact iff_of_false (by rintro ⟨⟩) (by rintro ⟨⟩)
      | some other => rw [Except.ok.injEq, Option.some.injEq]
  | _ => exact iff_of_false (by rintro ⟨⟩) (by rintro ⟨⟩)

theorem string_succeeds (hr : readable value = true) :
    (∃ text, string value = .ok text) ↔ Wire.Text value := by
  simp only [string_ok_iff]
  exact ⟨fun ⟨text, htext⟩ => ⟨utf8 text, htext⟩, exists_text hr⟩

theorem optionalString_succeeds (hr : readable value = true) :
    (∃ text, optionalString value = .ok text) ↔ Optional Wire.Text value := by
  unfold optionalString Optional
  split
  · exact iff_of_true ⟨none, rfl⟩ (.inl rfl)
  · rename_i hnil
    rw [exists_map_ok_iff, string_succeeds hr, or_iff_right (by exact hnil)]

theorem integer_ok_iff {minimum n : Nat} :
    integer value minimum = .ok n ↔ value = .integer n ∧ minimum ≤ n := by
  cases value with
  | integer k =>
      unfold integer
      dsimp only
      rw [Object.integer.injEq]
      split
      · rename_i hsmall
        refine iff_of_false nofun ?_
        rintro ⟨rfl, hmin⟩
        omega
      · rename_i hleast
        rw [Except.ok.injEq]
        constructor
        · rintro rfl
          omega
        · rintro ⟨rfl, -⟩
          rfl
  | _ => exact iff_of_false nofun nofun

theorem integer_succeeds (minimum : Nat) :
    (∃ n, integer value minimum = .ok n) ↔ AtLeast minimum value := by
  simp only [integer_ok_iff]
  constructor
  · rintro ⟨n, rfl, hmin⟩
    exact ⟨n, rfl, by exact_mod_cast hmin⟩
  · rintro ⟨k, rfl, hmin⟩
    obtain ⟨n, rfl⟩ := Int.eq_ofNat_of_zero_le (le_trans (Int.natCast_nonneg _) hmin)
    exact ⟨n, rfl, by exact_mod_cast hmin⟩

theorem natural_succeeds : (∃ n, integer value 0 = .ok n) ↔ AtLeast 0 value := integer_succeeds 0

theorem positive_succeeds : (∃ n, integer value 1 = .ok n) ↔ AtLeast 1 value := integer_succeeds 1

theorem finite_ok_iff {q : ℚ} : finite value = .ok q ↔ numberOf value = some q :=
  Native.finiteNumber_ok_iff

theorem finite_succeeds : (∃ q, finite value = .ok q) ↔ Number value :=
  Native.finiteNumber_succeeds

theorem optionalFinite_succeeds :
    (∃ q, optionalFinite value = .ok q) ↔ Optional Number value := by
  unfold optionalFinite Optional
  split
  · exact iff_of_true ⟨none, rfl⟩ (.inl rfl)
  · rename_i hnil
    rw [exists_map_ok_iff, finite_succeeds, or_iff_right (by exact hnil)]

theorem boolean_succeeds : (∃ flag, boolean value = .ok flag) ↔ Boolean value :=
  Native.booleanValue_succeeds

theorem uuidOf_ok_iff {text id : String} :
    uuidOf text = .ok id ↔ Native.canonicalUuid (utf8 text) = true ∧ lower text = id := by
  unfold uuidOf Native.canonicalUuid
  rw [uuidText_utf8]
  split
  · rename_i huuid
    rw [Except.ok.injEq, and_iff_right huuid]
  · rename_i huuid
    exact iff_of_false nofun fun h => huuid h.1

theorem uuid_ok_iff {id : String} :
    uuid value = .ok id ↔
      ∃ text, value = .text text ∧ Native.canonicalUuid (utf8 text) = true ∧ lower text = id := by
  cases value with
  | str bytes =>
      unfold uuid
      dsimp only
      constructor
      · intro h
        split at h
        · rename_i text htext
          exact ⟨text, congrArg Object.str (ofUtf8_eq_some_iff.mp htext).symm, uuidOf_ok_iff.mp h⟩
        · cases h
      · rintro ⟨text, htext, huuid⟩
        rw [ofUtf8_eq_some_iff.mpr (Object.str.inj htext).symm]
        exact uuidOf_ok_iff.mpr huuid
  | _ =>
      refine iff_of_false nofun ?_
      rintro ⟨text, htext, -⟩
      cases htext

theorem uuid_succeeds (hr : readable value = true) : (∃ id, uuid value = .ok id) ↔ Uuid value := by
  simp only [uuid_ok_iff]
  constructor
  · rintro ⟨id, text, rfl, huuid, -⟩
    exact ⟨utf8 text, rfl, huuid⟩
  · rintro ⟨bytes, hbytes, huuid⟩
    obtain ⟨text, rfl⟩ := exists_text hr ⟨bytes, hbytes⟩
    rw [← Object.str.inj hbytes] at huuid
    exact ⟨lower text, text, rfl, huuid, rfl⟩

end Readers

/-! ## Dictionaries -/

theorem itemsReadable_iff {items : List Object} :
    itemsReadable items = true ↔ ∀ item ∈ items, readable item = true := by
  induction items with
  | nil => simp [itemsReadable]
  | cons item items ih => rw [itemsReadable, Bool.and_eq_true, ih, List.forall_mem_cons]

theorem entriesReadable_iff {entries : List (Object × Object)} :
    entriesReadable entries = true ↔
      ∀ entry ∈ entries, (dictKey entry.1).isSome = true ∧ readable entry.2 = true := by
  induction entries with
  | nil => simp [entriesReadable]
  | cons entry entries ih =>
      rw [entriesReadable, Bool.and_eq_true, Bool.and_eq_true, ih, List.forall_mem_cons]

theorem readable_items {value : Object} (hr : readable value = true) :
    ∀ item ∈ items value, readable item = true := by
  cases value with
  | array items => exact itemsReadable_iff.mp hr
  | bin bytes =>
      intro item hitem
      obtain ⟨byte, -, rfl⟩ := List.mem_map.mp hitem
      rfl
  | _ =>
      intro item hitem
      cases hitem

theorem readable_of_asStringMap {value : Object} (hr : readable value = true)
    {values : Native.ObjectMap} (hvalues : value.asStringMap = some values) :
    ∀ entry ∈ values, readable entry.2 = true := by
  cases value with
  | map entries =>
      exact Object.forall_mem_stringEntries (P := fun value => readable value = true)
        (fun entry hentry => (entriesReadable_iff.mp hr entry hentry).2) (List.forall_mem_nil _)
        hvalues
  | _ => cases hvalues

theorem readable_field {values : Native.ObjectMap}
    (h : ∀ entry ∈ values, readable entry.2 = true) (key : String) :
    readable (field values key) = true := by
  unfold field
  cases hlookup : values.lookup (utf8 key) with
  | none => rfl
  | some value =>
      obtain ⟨front, rest, rfl, -⟩ := List.lookup_eq_some_iff.mp hlookup
      exact h (utf8 key, value) (List.mem_append_right _ List.mem_cons_self)

/-- A dictionary whose keys are all texts. -/
def ofTexts (payload : List (String × Object)) : List (DictKey × Object) :=
  payload.map fun entry => (.text entry.1, entry.2)

theorem text_injective : Function.Injective DictKey.text := fun _ _ h => DictKey.text.inj h

theorem dictKey_text (name : String) : dictKey (.text name) = some (.text name) := by
  unfold Object.text dictKey
  dsimp only
  rw [ofUtf8_eq_some_iff.mpr rfl]
  rfl

/-- A map of texts is the same dictionary for both sides. -/
theorem dictEntries_of_texts {entries : List (Object × Object)}
    (h : ∀ entry ∈ entries, ∃ name, entry.1 = .text name) (payload : List (String × Object)) :
    ∃ result, dictEntries entries (ofTexts payload) = some (ofTexts result) ∧
      Object.stringEntries entries (readMap payload) = some (readMap result) := by
  induction entries generalizing payload with
  | nil => exact ⟨payload, rfl, rfl⟩
  | cons entry rest ih =>
      obtain ⟨⟨name, hname⟩, hrest⟩ := List.forall_mem_cons.mp h
      obtain ⟨key, value⟩ := entry
      obtain rfl : key = .text name := hname
      obtain ⟨result, hdict, hmap⟩ := ih hrest (assign payload name value)
      refine ⟨result, ?_, ?_⟩
      · rw [dictEntries, dictKey_text]
        dsimp only
        rw [ofTexts, assign_map text_injective]
        exact hdict
      · rw [Object.stringEntries, Object.text, Object.asString]
        dsimp only
        rw [readMap, assign_map utf8_injective]
        exact hmap

/-- Every key of the map is one of the dictionary. -/
theorem mem_keys_dictEntries {entries : List (Object × Object)}
    {values result : List (DictKey × Object)} (h : dictEntries entries values = some result)
    {name : DictKey}
    (hname : name ∈ values.map Prod.fst ∨ ∃ entry ∈ entries, dictKey entry.1 = some name) :
    name ∈ result.map Prod.fst := by
  induction entries generalizing values with
  | nil =>
      cases h
      rcases hname with hname | ⟨entry, hentry, -⟩
      · exact hname
      · cases hentry
  | cons entry rest ih =>
      rw [dictEntries] at h
      split at h
      · cases h
      · rename_i key hkey
        apply ih h
        rw [mem_keys_assign]
        rcases hname with hname | ⟨other, hother, hname⟩
        · exact .inl (.inr hname)
        · rcases List.mem_cons.mp hother with rfl | hother
          · rw [hkey] at hname
            exact .inl (.inl (Option.some.inj hname).symm)
          · exact .inr ⟨other, hother, hname⟩

section Dict

variable {value : Object}

/-- A map with texts for keys, read by either side. -/
theorem dict_of_textKeys (hr : readable value = true) (hmap : value.isMap = true)
    (hkeys : TextKeys value) :
    ∃ payload, dict value = some (ofTexts payload) ∧
      value.asStringMap = some (readMap payload) := by
  cases value with
  | map entries =>
      apply dictEntries_of_texts _ []
      intro entry hentry
      have hreadable := (entriesReadable_iff.mp hr entry hentry).1
      obtain ⟨bytes, hbytes⟩ := hkeys entry hentry
      rw [hbytes] at hreadable
      obtain ⟨key, hkey⟩ := Option.isSome_iff_exists.mp hreadable
      obtain ⟨text, htext, -⟩ := Option.map_eq_some_iff.mp hkey
      exact ⟨text, hbytes.trans (congrArg Object.str (ofUtf8_eq_some_iff.mp htext).symm)⟩
  | _ => cases hmap

/-- A dictionary without bytes for keys is of a map without them. -/
theorem textKeys_of_dict (hr : readable value = true) {values : List (DictKey × Object)}
    (hdict : dict value = some values) (htexts : ∀ entry ∈ values, ∃ name, entry.1 = .text name) :
    TextKeys value := by
  cases value with
  | map entries =>
      intro entry hentry
      obtain ⟨key, hkey⟩ := Option.isSome_iff_exists.mp (entriesReadable_iff.mp hr entry hentry).1
      have hmem := mem_keys_dictEntries hdict (.inr ⟨entry, hentry, hkey⟩)
      obtain ⟨other, hother, rfl⟩ := List.mem_map.mp hmem
      obtain ⟨name, hname⟩ := htexts other hother
      rw [hname] at hkey
      unfold dictKey at hkey
      split at hkey
      · rename_i bytes hbytes
        exact ⟨bytes, hbytes⟩
      · cases hkey
      · cases hkey
  | _ => trivial

end Dict

/-! ## Fields -/

section Fields

variable {names : List String} {payload : List (String × Object)}

theorem subscript_eq (payload : List (String × Object)) (key : String) :
    subscript payload key = Native.required (readMap payload) key := by
  have hlookup := Native.lookup_readMap payload key
  unfold subscript Native.required
  cases h : payload.lookup key with
  | none => simp only [hlookup.trans h]
  | some value => simp only [hlookup.trans h]

theorem subscript_of_named (h : Named names (readMap payload)) {name : String}
    (hname : name ∈ names) : subscript payload name = .ok (field (readMap payload) name) := by
  rw [subscript_eq, Native.required_of_named h hname]

theorem lookup_ofTexts (payload : List (String × Object)) (key : String) :
    (ofTexts payload).lookup (.text key) = payload.lookup key := by
  induction payload with
  | nil => rfl
  | cons entry rest ih =>
      show List.lookup (.text key) ((.text entry.1, entry.2) :: ofTexts rest) = _
      rw [List.lookup_cons, List.lookup_cons, ih]
      congr 1
      rw [Bool.eq_iff_iff, beq_iff_eq, beq_iff_eq, DictKey.text.injEq]

theorem item_eq (payload : List (String × Object)) (key : String) :
    item (ofTexts payload) key = subscript payload key := by
  rw [item, subscript, lookup_ofTexts]

theorem item_of_named (h : Named names (readMap payload)) {name : String} (hname : name ∈ names) :
    item (ofTexts payload) name = .ok (field (readMap payload) name) := by
  rw [item_eq, subscript_of_named h hname]

theorem missing_iff :
    (∃ key ∈ names, (payload.lookup key).isNone = true) ↔
      ¬ ∀ name ∈ names, (readMap payload).lookup (utf8 name) ≠ none := by
  simp only [Native.lookup_readMap, not_forall, not_not, Option.isNone_iff_eq_none, exists_prop]

theorem unknown_iff :
    (∃ entry ∈ payload, entry.1 ∉ names) ↔
      ¬ ∀ entry ∈ readMap payload, entry.1 ∈ names.map utf8 := by
  unfold readMap
  rw [List.forall_mem_map]
  simp only [List.mem_map_of_injective utf8_injective, not_forall, exists_prop]

/-- The checks of the keys of an observation. -/
theorem named_ofTexts_iff :
    ((¬ ∃ key ∈ names, ((ofTexts payload).lookup (.text key)).isNone = true) ∧
        ¬ ∃ entry ∈ ofTexts payload, entry.1 ∉ names.map DictKey.text) ↔
      Named names (readMap payload) := by
  have hunknown : (∃ entry ∈ ofTexts payload, entry.1 ∉ names.map DictKey.text) ↔
      ∃ entry ∈ payload, entry.1 ∉ names := by
    simp only [ofTexts, List.mem_map, exists_exists_and_eq_and, DictKey.text.injEq,
      exists_eq_right]
  simp only [lookup_ofTexts]
  rw [hunknown, missing_iff, unknown_iff, not_not, not_not]
  exact ⟨fun h => ⟨h.1, h.2⟩, fun h => ⟨h.present, h.known⟩⟩

end Fields

/-! ## Arrays and observations -/

theorem finite_ok_iff' {value : Object} {q : ℚ} :
    finite value = .ok q ↔ Number value ∧ q = (numberOf value).getD 0 := by
  rw [finite_ok_iff]
  constructor
  · intro h
    exact ⟨⟨q, h⟩, by rw [h]; rfl⟩
  · rintro ⟨⟨r, hr⟩, rfl⟩
    rw [hr]
    rfl

/-- Arrays and binary data are read as numbers, and what else is iterated is empty. -/
theorem finiteTuple_ok_iff {value : Object} {result : List ℚ} (hne : result ≠ []) :
    finiteTuple value = .ok result ↔
      (∀ item ∈ items value, Number item) ∧ result = Wire.numbers value := by
  cases value with
  | array items => exact mapM_ok_iff fun item result => finite_ok_iff'
  | bin bytes =>
      unfold finiteTuple Wire.numbers Wire.items
      rw [List.forall_mem_map, List.map_map]
      exact mapM_ok_iff fun byte result => finite_ok_iff'
  | str bytes =>
      refine iff_of_false ?_ fun h => hne h.2
      cases bytes with
      | nil => exact fun h => hne (Except.ok.inj h).symm
      | cons byte rest => exact nofun
  | map entries =>
      refine iff_of_false ?_ fun h => hne h.2
      cases entries with
      | nil => exact fun h => hne (Except.ok.inj h).symm
      | cons entry rest => exact nofun
  | _ => exact iff_of_false nofun fun h => hne h.2

theorem length_numbers (value : Object) : (Wire.numbers value).length = (items value).length :=
  List.length_map _

theorem finiteArray_ok_iff {size : Nat} (hsize : size ≠ 0) {value : Object} {code : String}
    {result : List ℚ} :
    finiteArray size value code = .ok result ↔ Numbers size value ∧ result = Wire.numbers value := by
  unfold finiteArray
  simp only [bind_ok_iff, failIf_ok_iff, not_not]
  constructor
  · rintro ⟨values, hvalues, -, hlength, hresult⟩
    obtain rfl : values = result := Except.ok.inj hresult
    have hne : values ≠ [] := by
      rintro rfl
      exact hsize hlength.symm
    obtain ⟨hnumbers, rfl⟩ := (finiteTuple_ok_iff hne).mp hvalues
    rw [length_numbers] at hlength
    exact ⟨⟨hlength, hnumbers⟩, rfl⟩
  · rintro ⟨⟨hlength, hnumbers⟩, rfl⟩
    rw [← length_numbers] at hlength
    have hne : Wire.numbers value ≠ [] := by
      intro hnil
      rw [hnil] at hlength
      exact hsize hlength.symm
    exact ⟨_, (finiteTuple_ok_iff hne).mpr ⟨hnumbers, rfl⟩, (), hlength, rfl⟩

theorem embedding_ok_iff {value : Object} {result : List ℚ} :
    embedding value = .ok result ↔
      (Embedding value ∧ normValid (Wire.numbers value) = true) ∧ result = Wire.numbers value := by
  cases value with
  | array list =>
      unfold embedding
      simp only [bind_ok_iff, failIf_ok_iff, not_not, Bool.not_eq_false,
        mapM_ok_iff fun item result => @finite_ok_iff' item result]
      constructor
      · rintro ⟨values, ⟨hnumbers, rfl⟩, -, hlength, -, hnorm, hresult⟩
        rw [List.length_map] at hlength
        exact ⟨⟨⟨rfl, hlength, hnumbers⟩, hnorm⟩, (Except.ok.inj hresult).symm⟩
      · rintro ⟨⟨⟨-, hlength, hnumbers⟩, hnorm⟩, rfl⟩
        exact ⟨_, ⟨hnumbers, rfl⟩, (), (List.length_map _).trans hlength, (), hnorm, rfl⟩
  | ext type bytes => exact iff_of_false (by rintro ⟨⟩) fun h => Bool.noConfusion h.1.1.1
  | _ => exact iff_of_false (by rintro ⟨⟩) fun h => Bool.noConfusion h.1.1.1

theorem finiteArray_succeeds {size : Nat} (hsize : size ≠ 0) {value : Object} {code : String} :
    (∃ result, finiteArray size value code = .ok result) ↔ Numbers size value := by
  simp only [finiteArray_ok_iff hsize, exists_and_left, exists_eq, and_true]

theorem embedding_succeeds {value : Object} :
    (∃ result, embedding value = .ok result) ↔
      Embedding value ∧ normValid (Wire.numbers value) = true := by
  simp only [embedding_ok_iff, exists_and_left, exists_eq, and_true]

theorem dict_ok_iff {value : Object} {code : String} {entries : List (DictKey × Object)} :
    (dict value).elim (.error code) .ok = Except.ok entries ↔ dict value = some entries := by
  cases dict value with
  | none => exact iff_of_false nofun nofun
  | some other =>
      rw [Option.some.injEq]
      exact Except.ok.injEq other entries ▸ Iff.rfl

theorem isMap_of_dict {value : Object} {entries : List (DictKey × Object)}
    (h : dict value = some entries) : value.isMap = true := by
  cases value with
  | map items => rfl
  | _ => cases h

/-- An observation has no other keys, so all of them are texts. -/
theorem textKeys_of_observation {value : Object} (hr : readable value = true)
    {result : LiveObservation} (h : observation value = .ok result) :
    value.isMap = true ∧ TextKeys value := by
  unfold observation at h
  simp only [bind_ok_iff, dict_ok_iff, failIf_ok_iff] at h
  obtain ⟨payload, hdict, -, -, -, hknown, -⟩ := h
  refine ⟨isMap_of_dict hdict, textKeys_of_dict hr hdict fun entry hentry => ?_⟩
  by_contra hother
  apply hknown
  refine ⟨entry, hentry, fun hmem => hother ?_⟩
  obtain ⟨name, -, hname⟩ := List.mem_map.mp hmem
  exact ⟨name, hname.symm⟩

theorem observation_succeeds {value : Object} (hr : readable value = true) :
    (∃ result, observation value = .ok result) ↔
      (TextKeys value ∧
        MapOf (fun values => normValid (Wire.numbers (field values "embedding")) = true) value) ∧
      MapOf (Wire.Fields observationChecks) value := by
  by_cases hkeys : value.isMap = true ∧ TextKeys value
  · obtain ⟨payload, hdict, hmap⟩ := dict_of_textKeys hr hkeys.1 hkeys.2
    have hmapOf {P : Native.ObjectMap → Prop} : MapOf P value ↔ P (readMap payload) := by
      unfold MapOf
      rw [hmap]
      simp only [Option.some.injEq, exists_eq_left']
    rw [hmapOf, hmapOf, and_iff_right hkeys.2]
    unfold observation
    rw [hdict, Option.elim_some, ok_bind]
    simp only [exists_bind_ok_iff, exists_and_right, Native.exists_failIf_ok_iff]
    rw [← and_assoc, named_ofTexts_iff, Wire.Fields, and_left_comm]
    refine and_congr_right fun hnamed => ?_
    simp (disch := decide) only [item_of_named hnamed, Except.ok.injEq, exists_eq_left',
      exists_and_right, finiteArray_succeeds, embedding_succeeds, natural_succeeds,
      finite_succeeds, exists_pure_ok, and_true]
    simp only [observationChecks, List.forall_mem_cons, List.not_mem_nil, false_implies,
      implies_true, and_true]
    constructor
    · rintro ⟨hbbox, hlandmarks, hconfidences, ⟨hembedding, hnorm⟩, htime, hdetector, hquality,
        hmask⟩
      exact ⟨hnorm, htime, hbbox, hdetector, hlandmarks, hconfidences, hquality, hmask, hembedding⟩
    · rintro ⟨hnorm, htime, hbbox, hdetector, hlandmarks, hconfidences, hquality, hmask, hembedding⟩
      exact ⟨hbbox, hlandmarks, hconfidences, ⟨hembedding, hnorm⟩, htime, hdetector, hquality,
        hmask⟩
  · refine iff_of_false ?_ ?_
    · rintro ⟨result, hresult⟩
      exact hkeys (textKeys_of_observation hr hresult)
    · rintro ⟨⟨htexts, -⟩, values, hvalues, -⟩
      exact hkeys ⟨Native.isMap_of_asStringMap hvalues, htexts⟩

/-! ## Messages -/

/-- The checks of a payload that follow those of its header and its keys. -/
def Body (type : MessageType) (values : Native.ObjectMap) : Prop :=
  (∀ check ∈ messageChecks type, check.2 (field values check.1)) ∧
    Consistent type values ∧ PythonReads type values

/-- The keys of a message of a type. -/
abbrev Keys (type : MessageType) (payload : List (String × Object)) : Prop :=
  Named ((headerChecks ++ messageChecks type).map Prod.fst) (readMap payload)

section Messages

variable {header : ProtocolHeader} {payload : List (String × Object)}

theorem stopCommand_succeeds (hr : ∀ key, readable (field (readMap payload) key) = true)
    (hnamed : Keys .stop payload) :
    (∃ command, stopCommand header payload = .ok command) ↔ Body .stop (readMap payload) := by
  unfold stopCommand Body
  simp (disch := decide) only [subscript_of_named hnamed, ok_bind, exists_bind_ok_iff,
    exists_and_right, string_succeeds (hr _), positive_succeeds, exists_pure_ok, and_true]
  simp only [messageChecks, List.forall_mem_cons, List.not_mem_nil, false_implies,
    implies_true, and_true, Consistent, PythonReads]

theorem helloEvent_succeeds (hr : ∀ key, readable (field (readMap payload) key) = true)
    (hnamed : Keys .hello payload) :
    (∃ event, helloEvent header payload = .ok event) ↔ Body .hello (readMap payload) := by
  unfold helloEvent Body
  simp (disch := decide) only [subscript_of_named hnamed, ok_bind, exists_bind_ok_iff,
    exists_and_right, string_succeeds (hr _), exists_pure_ok, and_true]
  simp only [messageChecks, List.forall_mem_cons, List.not_mem_nil, false_implies,
    implies_true, and_true, Consistent, PythonReads]

theorem outputReadyEvent_succeeds (hr : ∀ key, readable (field (readMap payload) key) = true)
    (hnamed : Keys .outputReady payload) :
    (∃ event, outputReadyEvent header payload = .ok event) ↔
      Body .outputReady (readMap payload) := by
  unfold outputReadyEvent Body
  simp (disch := decide) only [subscript_of_named hnamed, ok_bind, exists_bind_ok_iff,
    exists_and_right, string_succeeds (hr _), exists_pure_ok, and_true]
  simp only [messageChecks, List.forall_mem_cons, List.not_mem_nil, false_implies,
    implies_true, and_true, Consistent, PythonReads]

theorem failedEvent_succeeds (hr : ∀ key, readable (field (readMap payload) key) = true)
    (hnamed : Keys .failed payload) :
    (∃ event, failedEvent header payload = .ok event) ↔ Body .failed (readMap payload) := by
  unfold failedEvent Body
  simp (disch := decide) only [subscript_of_named hnamed, ok_bind, exists_bind_ok_iff,
    exists_and_right, string_succeeds (hr _), exists_pure_ok, and_true]
  simp only [messageChecks, List.forall_mem_cons, List.not_mem_nil, false_implies,
    implies_true, and_true, Consistent, PythonReads]

theorem trackExpiredEvent_succeeds (hr : ∀ key, readable (field (readMap payload) key) = true)
    (hnamed : Keys .trackExpired payload) :
    (∃ event, trackExpiredEvent header payload = .ok event) ↔
      Body .trackExpired (readMap payload) := by
  unfold trackExpiredEvent Body
  simp (disch := decide) only [subscript_of_named hnamed, ok_bind, exists_bind_ok_iff,
    exists_and_right, string_succeeds (hr _), natural_succeeds, positive_succeeds,
    exists_pure_ok, and_true]
  simp only [messageChecks, List.forall_mem_cons, List.not_mem_nil, false_implies,
    implies_true, and_true, Consistent, PythonReads]

theorem stoppedEvent_succeeds (hr : ∀ key, readable (field (readMap payload) key) = true)
    (hnamed : Keys .stopped payload) :
    (∃ event, stoppedEvent header payload = .ok event) ↔ Body .stopped (readMap payload) := by
  unfold stoppedEvent Body
  simp (disch := decide) only [subscript_of_named hnamed, ok_bind, exists_bind_ok_iff,
    exists_and_right, string_succeeds (hr _), natural_succeeds, boolean_succeeds,
    exists_pure_ok, and_true]
  simp only [messageChecks, List.forall_mem_cons, List.not_mem_nil, false_implies,
    implies_true, and_true, Consistent, PythonReads]
  constructor
  · rintro ⟨hclean, hdecoded, hemitted, hdropped, hreason⟩
    exact ⟨hdecoded, hemitted, hdropped, hclean, hreason⟩
  · rintro ⟨hdecoded, hemitted, hdropped, hclean, hreason⟩
    exact ⟨hclean, hdecoded, hemitted, hdropped, hreason⟩

theorem exists_oneOf_iff {value : Object} {texts : List String} :
    (∃ text, string value = .ok text ∧ ¬ text ∉ texts) ↔ OneOf texts value := by
  simp only [string_ok_iff, not_not, OneOf, and_comm]

theorem runtimeState_text (state : LiveRuntimeState) : runtimeState state.text = .ok state := by
  cases state <;> decide

theorem runtimeState_ok_iff {text : String} {state : LiveRuntimeState} :
    runtimeState text = .ok state ↔ state.text = text := by
  constructor
  · intro h
    unfold runtimeState at h
    split at h
    · rename_i other hother
      obtain rfl := Except.ok.inj h
      have hfound := List.find?_some hother
      exact of_decide_eq_true hfound
    · cases h
  · rintro rfl
    exact runtimeState_text state

theorem state_succeeds {value : Object} :
    (∃ text, string value = .ok text ∧ ∃ state, runtimeState text = .ok state) ↔
      OneOf ["STARTING", "ACTIVE", "RECONNECTING", "STOPPING", "STOPPED", "FAILED"] value := by
  simp only [string_ok_iff, runtimeState_ok_iff]
  constructor
  · rintro ⟨-, rfl, state, rfl⟩
    refine ⟨state.text, ?_, rfl⟩
    cases state <;> decide
  · rintro ⟨text, htext, rfl⟩
    have hall : ∀ text ∈ ["STARTING", "ACTIVE", "RECONNECTING", "STOPPING", "STOPPED", "FAILED"],
        ∃ state ∈ runtimeStates, state.text = text := by
      decide
    obtain ⟨state, -, hstate⟩ := hall text htext
    exact ⟨text, rfl, state, hstate⟩

theorem stateEvent_succeeds (hr : ∀ key, readable (field (readMap payload) key) = true)
    (hnamed : Keys .state payload) :
    (∃ event, stateEvent header payload = .ok event) ↔ Body .state (readMap payload) := by
  unfold stateEvent Body
  simp (disch := decide) only [subscript_of_named hnamed, ok_bind, exists_bind_ok_iff,
    exists_and_right, ← and_assoc, state_succeeds, optionalString_succeeds (hr _),
    exists_pure_ok, and_true]
  simp only [messageChecks, List.forall_mem_cons, List.not_mem_nil, false_implies,
    implies_true, and_true, Consistent, PythonReads]

theorem attempts_ok_iff {value : Object} {n : Int} :
    attempts value = .ok n ↔ value = .integer n ∧ -1 ≤ n := by
  cases value with
  | integer k =>
      unfold attempts
      dsimp only
      rw [Object.integer.injEq]
      split
      · rename_i hsmall
        refine iff_of_false nofun ?_
        rintro ⟨rfl, hleast⟩
        omega
      · rename_i hleast
        rw [Except.ok.injEq]
        constructor
        · rintro rfl
          exact ⟨rfl, not_lt.mp hleast⟩
        · exact And.left
  | _ => exact iff_of_false nofun nofun

theorem attempts_succeeds {value : Object} : (∃ n, attempts value = .ok n) ↔ AtLeast (-1) value := by
  simp only [attempts_ok_iff, AtLeast]

theorem unitInterval_iff {q : ℚ} : unitInterval q = true ↔ 0 ≤ q ∧ q ≤ 1 := by
  rw [unitInterval, Bool.and_eq_true, decide_eq_true_eq, decide_eq_true_eq]

theorem startCommand_succeeds (hr : ∀ key, readable (field (readMap payload) key) = true)
    (hnamed : Keys .start payload) :
    (∃ command, startCommand header payload = .ok command) ↔ Body .start (readMap payload) := by
  unfold startCommand Body
  simp (disch := decide) only [subscript_of_named hnamed, ok_bind, exists_bind_ok_iff,
    exists_and_right, string_succeeds (hr _), natural_succeeds, positive_succeeds,
    attempts_succeeds, boolean_succeeds, Native.exists_failIf_ok_iff, exists_pure_ok, and_true]
  simp only [messageChecks, List.forall_mem_cons, List.not_mem_nil, false_implies,
    implies_true, and_true, Consistent, PythonReads, not_not, unitInterval_iff]
  constructor
  · rintro ⟨hattempts, mode, hmode, hmodes, detector, hdetector, recognition, hrecognition, margin,
      hmargin, hunits, hrecording, hannotated, huri, hgpu, hpgie, hpreprocess, hsgie, htracker,
      hmount, hudp, hrtsp, hprofile, hsample, hgap, hlatency, hinterval, htimeout⟩
    exact ⟨huri, hgpu, hpgie, hpreprocess, hsgie, htracker, hmount, hudp, hrtsp, hprofile,
      exists_oneOf_iff.mp ⟨mode, hmode, not_not.mpr hmodes⟩, hsample,
      ⟨detector, finite_ok_iff.mp hdetector, hunits.1⟩,
      ⟨recognition, finite_ok_iff.mp hrecognition, hunits.2.1⟩,
      ⟨margin, finite_ok_iff.mp hmargin, hunits.2.2⟩, hgap, hlatency, hinterval, hattempts, htimeout,
      hrecording, hannotated⟩
  · rintro ⟨huri, hgpu, hpgie, hpreprocess, hsgie, htracker, hmount, hudp, hrtsp, hprofile,
      hmode, hsample, ⟨detector, hdetector, hdetector_unit⟩,
      ⟨recognition, hrecognition, hrecognition_unit⟩, ⟨margin, hmargin, hmargin_unit⟩, hgap,
      hlatency, hinterval, hattempts, htimeout, hrecording, hannotated⟩
    obtain ⟨mode, hmode, hmodes⟩ := exists_oneOf_iff.mpr hmode
    exact ⟨hattempts, mode, hmode, not_not.mp hmodes, detector, finite_ok_iff.mpr hdetector,
      recognition, finite_ok_iff.mpr hrecognition, margin, finite_ok_iff.mpr hmargin,
      ⟨hdetector_unit, hrecognition_unit, hmargin_unit⟩, hrecording, hannotated, huri, hgpu, hpgie,
      hpreprocess, hsgie, htracker, hmount, hudp, hrtsp, hprofile, hsample, hgap, hlatency,
      hinterval, htimeout⟩

theorem list_ok_iff {value : Object} {result : List Object} :
    list value = .ok result ↔ isArray value = true ∧ result = items value := by
  cases value with
  | array items =>
      unfold list Wire.items
      dsimp only
      rw [Except.ok.injEq, eq_comm]
      exact (and_iff_right rfl).symm
  | _ => exact iff_of_false nofun nofun

/-- Both sides read an image alike. -/
theorem jpegBytes_eq (value : Object) : jpegBytes value = Native.jpegBytes value := rfl

theorem trackEvidenceEvent_succeeds (hr : ∀ key, readable (field (readMap payload) key) = true)
    (hnamed : Keys .trackEvidence payload) :
    (∃ event, trackEvidenceEvent header payload = .ok event) ↔
      Body .trackEvidence (readMap payload) := by
  unfold trackEvidenceEvent Body
  simp (disch := decide) only [subscript_of_named hnamed, ok_bind, exists_bind_ok_iff,
    exists_and_right, list_ok_iff, jpegBytes_eq, Native.jpegBytes_succeeds, natural_succeeds,
    positive_succeeds, Native.exists_failIf_ok_iff, exists_pure_ok, and_true]
  simp only [messageChecks, List.forall_mem_cons, List.not_mem_nil, false_implies,
    implies_true, and_true, Consistent, PythonReads, Observations, maxObservations, not_lt,
    gt_iff_lt]
  have hobservation (item : Object)
      (hitem : item ∈ items (field (readMap payload) "observations")) :=
    observation_succeeds (readable_items (hr _) item hitem)
  constructor
  · rintro ⟨-, ⟨harray, rfl⟩, observations, hobservations, hlength, hjpeg, htracker, hrevision,
      hfirst, hlast⟩
    rw [← (forall₂_of_mapM_ok hobservations).length_eq] at hlength
    have hitems := exists_mapM_ok_iff.mp ⟨observations, hobservations⟩
    exact ⟨⟨htracker, hrevision, hfirst, hlast, ⟨harray, hlength, fun item hitem =>
        ((hobservation item hitem).mp (hitems item hitem)).2⟩, hjpeg⟩, trivial,
      fun item hitem => ((hobservation item hitem).mp (hitems item hitem)).1⟩
  · rintro ⟨⟨htracker, hrevision, hfirst, hlast, ⟨harray, hlength, hfields⟩, hjpeg⟩, -, hreads⟩
    obtain ⟨observations, hobservations⟩ := exists_mapM_ok_iff.mpr fun item hitem =>
      (hobservation item hitem).mpr ⟨hreads item hitem, hfields item hitem⟩
    rw [(forall₂_of_mapM_ok hobservations).length_eq] at hlength
    exact ⟨_, ⟨harray, rfl⟩, observations, hobservations, hlength, hjpeg, htracker, hrevision,
      hfirst, hlast⟩

end Messages

/-! ## Maps in a message -/

section Maps

variable {α : Type} {value : Object}

/-- A check of a dictionary that no bytes as a key pass is one of the map. -/
theorem exists_dict_iff (hr : readable value = true) {P : List (DictKey × Object) → Prop}
    {Q : Native.ObjectMap → Prop}
    (htexts : ∀ entries, P entries → ∀ entry ∈ entries, ∃ name, entry.1 = .text name)
    (hchecks : ∀ payload, (∀ entry ∈ readMap payload, readable entry.2 = true) →
      (P (ofTexts payload) ↔ Q (readMap payload))) :
    (∃ entries, dict value = some entries ∧ P entries) ↔ TextKeys value ∧ MapOf Q value := by
  constructor
  · rintro ⟨entries, hdict, hP⟩
    have hkeys := textKeys_of_dict hr hdict (htexts entries hP)
    obtain ⟨payload, hdict', hmap⟩ := dict_of_textKeys hr (isMap_of_dict hdict) hkeys
    obtain rfl : entries = ofTexts payload := Option.some.inj (hdict.symm.trans hdict')
    exact ⟨hkeys, readMap payload, hmap,
      (hchecks payload (readable_of_asStringMap hr hmap)).mp hP⟩
  · rintro ⟨hkeys, values, hvalues, hQ⟩
    obtain ⟨payload, hdict, hmap⟩ :=
      dict_of_textKeys hr (Native.isMap_of_asStringMap hvalues) hkeys
    obtain rfl : values = readMap payload := Option.some.inj (hvalues.symm.trans hmap)
    exact ⟨ofTexts payload, hdict, (hchecks payload (readable_of_asStringMap hr hmap)).mpr hQ⟩

theorem text_of_textDict {read : Object → Except String α} {entries : List (DictKey × Object)}
    (h : ∃ result, textDict read entries = .ok result) :
    ∀ entry ∈ entries, ∃ name, entry.1 = .text name := by
  intro entry hentry
  obtain ⟨key, value⟩ := entry
  obtain ⟨result, hresult⟩ := exists_mapM_ok_iff.mp h _ hentry
  cases key with
  | text name => exact ⟨name, rfl⟩
  | bytes bytes => cases hresult

theorem textDict_succeeds (hr : readable value = true) (read : Object → Except String α) :
    (∃ entries, dict value = some entries ∧ ∃ result, textDict read entries = .ok result) ↔
      TextKeys value ∧ Values (fun value => ∃ result, read value = .ok result) value := by
  refine exists_dict_iff hr (fun entries => text_of_textDict) fun payload _ => ?_
  unfold textDict ofTexts readMap
  rw [exists_mapM_ok_iff, List.forall_mem_map, List.forall_mem_map]
  simp only [exists_map_ok_iff]

theorem attribute_succeeds {name : String} (hr : readable value = true) :
    (∃ result, nativeAttribute (.text name, value) = .ok result) ↔
      name ∈ nativeAttributeKeys ∧ Attribute value := by
  unfold nativeAttribute
  dsimp only
  split
  · rename_i hunknown
    exact iff_of_false nofun fun h => hunknown h.1
  rename_i hknown
  rw [and_iff_right (not_not.mp hknown)]
  cases value with
  | str bytes =>
      obtain ⟨text, htext⟩ := exists_text hr ⟨bytes, rfl⟩
      obtain rfl := Object.str.inj htext
      dsimp only
      rw [ofUtf8_eq_some_iff.mpr rfl]
      dsimp only
      split
      · rename_i hstable
        exact iff_of_true ⟨_, rfl⟩ (.inl ⟨utf8 text, rfl, (stableEnum_utf8 text).mpr hstable⟩)
      · rename_i hunstable
        refine iff_of_false nofun ?_
        rintro (⟨bytes, hbytes, hstable⟩ | ⟨n, hn⟩ | ⟨q, hq⟩)
        · rw [← Object.str.inj hbytes] at hstable
          exact hunstable ((stableEnum_utf8 text).mp hstable)
        · cases hn
        · cases hq
  | integer n => exact iff_of_true ⟨_, rfl⟩ (.inr (.inl ⟨n, rfl⟩))
  | float x =>
      cases x with
      | finite q => exact iff_of_true ⟨_, rfl⟩ (.inr (.inr ⟨q, rfl⟩))
      | _ =>
          refine iff_of_false nofun ?_
          rintro (⟨bytes, hbytes, -⟩ | ⟨n, hn⟩ | ⟨q, hq⟩)
          · cases hbytes
          · cases hn
          · cases hq
  | _ =>
      refine iff_of_false nofun ?_
      rintro (⟨bytes, hbytes, -⟩ | ⟨n, hn⟩ | ⟨q, hq⟩)
      · cases hbytes
      · cases hn
      · cases hq

theorem text_of_attributes {entries : List (DictKey × Object)}
    (h : ∃ result, entries.mapM nativeAttribute = .ok result) :
    ∀ entry ∈ entries, ∃ name, entry.1 = .text name := by
  intro entry hentry
  obtain ⟨key, value⟩ := entry
  obtain ⟨result, hresult⟩ := exists_mapM_ok_iff.mp h _ hentry
  cases key with
  | text name => exact ⟨name, rfl⟩
  | bytes bytes => cases hresult

theorem attributes_succeed (hr : readable value = true) :
    (∃ entries, dict value = some entries ∧ entries.length ≤ 16 ∧
        ∃ result, entries.mapM nativeAttribute = .ok result) ↔
      TextKeys value ∧ Attributes value := by
  refine exists_dict_iff hr (fun entries h => text_of_attributes h.2) fun payload hreadable => ?_
  rw [exists_mapM_ok_iff]
  unfold ofTexts readMap at *
  rw [List.forall_mem_map] at hreadable
  rw [List.length_map, List.length_map, List.forall_mem_map, List.forall_mem_map]
  refine and_congr_right fun _ => forall₂_congr fun entry hentry => ?_
  rw [attribute_succeeds (hreadable entry hentry), List.mem_map_of_injective utf8_injective]
  rfl

end Maps

section Messages

variable {header : ProtocolHeader} {payload : List (String × Object)}

theorem metricsEvent_succeeds (hr : ∀ key, readable (field (readMap payload) key) = true)
    (hnamed : Keys .metrics payload) :
    (∃ event, metricsEvent header payload = .ok event) ↔ Body .metrics (readMap payload) := by
  unfold metricsEvent Body
  simp (disch := decide) only [subscript_of_named hnamed, ok_bind, exists_bind_ok_iff,
    exists_and_right, dict_ok_iff, exists_pure_ok, and_true]
  simp only [messageChecks, List.forall_mem_cons, List.not_mem_nil, false_implies,
    implies_true, and_true, Consistent, PythonReads, true_and]
  have hcounters := textDict_succeeds (hr "counters") (integer · 0)
  have hgauges := textDict_succeeds (hr "gauges") finite
  simp only [natural_succeeds] at hcounters
  simp only [finite_succeeds] at hgauges
  constructor
  · rintro ⟨counterDict, hcounterDict, gaugeDict, hgaugeDict, hcounter, hgauge⟩
    obtain ⟨hcounterKeys, hcounterValues⟩ := hcounters.mp ⟨counterDict, hcounterDict, hcounter⟩
    obtain ⟨hgaugeKeys, hgaugeValues⟩ := hgauges.mp ⟨gaugeDict, hgaugeDict, hgauge⟩
    exact ⟨⟨hcounterValues, hgaugeValues⟩, hcounterKeys, hgaugeKeys⟩
  · rintro ⟨⟨hcounterValues, hgaugeValues⟩, hcounterKeys, hgaugeKeys⟩
    obtain ⟨counterDict, hcounterDict, hcounter⟩ := hcounters.mpr ⟨hcounterKeys, hcounterValues⟩
    obtain ⟨gaugeDict, hgaugeDict, hgauge⟩ := hgauges.mpr ⟨hgaugeKeys, hgaugeValues⟩
    exact ⟨counterDict, hcounterDict, gaugeDict, hgaugeDict, hcounter, hgauge⟩

theorem optionalString_ok_iff {value : Object} {text : Option String} :
    optionalString value = .ok text ↔ value = optional .text text := by
  unfold optionalString
  split
  · cases text with
    | none => exact iff_of_true rfl rfl
    | some text => exact iff_of_false nofun nofun
  · rename_i hnil
    rw [map_ok_iff]
    cases text with
    | none =>
        refine iff_of_false ?_ hnil
        rintro ⟨text, -, htext⟩
        cases htext
    | some text =>
        simp only [string_ok_iff, Option.some.injEq, exists_eq_right]
        rfl

theorem optional_eq_nil {text : Option String} : optional Object.text text = .nil ↔ text = none := by
  cases text with
  | none => exact iff_of_true rfl rfl
  | some text => exact iff_of_false nofun nofun

/-- The error code of an operation is stable. -/
theorem errorCode_valid (code : Option String) :
    (¬ ∃ text ∈ code, stableError (codes text) = false) ↔
      Optional (Matches fun bytes => stableError (byteCodes bytes)) (optional .text code) := by
  cases code with
  | none =>
      refine iff_of_true ?_ (.inl rfl)
      rintro ⟨text, htext, -⟩
      cases htext
  | some code =>
      have hmatches : Matches (fun bytes => stableError (byteCodes bytes)) (.text code) ↔
          stableError (codes code) = true := by
        rw [← stableError_utf8]
        constructor
        · rintro ⟨bytes, hbytes, hstable⟩
          rw [← Object.str.inj hbytes] at hstable
          exact hstable
        · intro hstable
          exact ⟨utf8 code, rfl, hstable⟩
      unfold Optional
      rw [or_iff_right (by exact nofun)]
      show _ ↔ Matches _ (Object.text code)
      rw [hmatches]
      simp

theorem statuses_iff {status : String} (h : status ∈ ["ok", "error"]) (code : Option String) :
    (¬ (status = "error" ∧ code = none) ∧ ¬ (status = "ok" ∧ code ≠ none)) ↔
      (code ≠ none ↔ status = "error") := by
  simp only [List.mem_cons, List.not_mem_nil, or_false] at h
  rcases h with rfl | rfl <;> simp

theorem text_inj {s t : String} : Object.text s = Object.text t ↔ s = t := by
  rw [Object.text, Object.text, Object.str.injEq, utf8_inj]

theorem ordered_iff {first last : Object} {started ended : Nat} (hstarted : first = .integer started)
    (hended : last = .integer ended) :
    ¬ ended < started ↔ ∀ s e, first = .integer s → last = .integer e → s ≤ e := by
  subst hstarted hended
  rw [not_lt]
  constructor
  · rintro hle s e hs he
    obtain rfl := Object.integer.inj hs
    obtain rfl := Object.integer.inj he
    exact_mod_cast hle
  · intro h
    exact_mod_cast h _ _ rfl rfl

theorem nativeOperationEvent_succeeds
    (hr : ∀ key, readable (field (readMap payload) key) = true)
    (hnamed : Keys .nativeOperation payload) :
    (∃ event, nativeOperationEvent header payload = .ok event) ↔
      Body .nativeOperation (readMap payload) := by
  unfold nativeOperationEvent Body
  simp (disch := decide) only [subscript_of_named hnamed, ok_bind, exists_bind_ok_iff,
    exists_and_right, Native.exists_failIf_ok_iff, exists_pure_ok, and_true]
  simp only [messageChecks, List.forall_mem_cons, List.not_mem_nil, false_implies,
    implies_true, and_true, Consistent, PythonReads, not_or]
  constructor
  · rintro ⟨operation, hoperation, status, hstatus, code, hcode, started, hstarted, ended, hended,
      ⟨hknown, hstatuses, horder, herror, hok, hstable, hsome, hsize⟩, hattributes⟩
    obtain ⟨entries, hentries⟩ := Option.ne_none_iff_exists'.mp hsome
    rw [hentries, Option.getD_some] at hsize hattributes
    obtain ⟨hkeys, hattributes⟩ :=
      (attributes_succeed (hr _)).mp ⟨entries, hentries, not_lt.mp hsize, hattributes⟩
    have hcode := optionalString_ok_iff.mp hcode
    refine ⟨⟨exists_oneOf_iff.mp ⟨operation, hoperation, hknown⟩,
      natural_succeeds.mp ⟨started, hstarted⟩, natural_succeeds.mp ⟨ended, hended⟩,
      exists_oneOf_iff.mp ⟨status, hstatus, hstatuses⟩, ?_, hattributes⟩, ⟨?_, ?_⟩, hkeys⟩
    · rw [hcode]
      exact (errorCode_valid code).mp hstable
    · exact (ordered_iff (integer_ok_iff.mp hstarted).1 (integer_ok_iff.mp hended).1).mp horder
    · rw [hcode, string_ok_iff.mp hstatus, ne_eq, optional_eq_nil, text_inj]
      exact (statuses_iff (not_not.mp hstatuses) code).mp ⟨herror, hok⟩
  · rintro ⟨⟨hoperation, hstarted, hended, hstatus, hcode, hattributes⟩, ⟨horder, herror⟩, hkeys⟩
    obtain ⟨operation, hoperation, hknown⟩ := exists_oneOf_iff.mpr hoperation
    obtain ⟨started, hstarted⟩ := natural_succeeds.mpr hstarted
    obtain ⟨ended, hended⟩ := natural_succeeds.mpr hended
    obtain ⟨status, hstatus, hstatuses⟩ := exists_oneOf_iff.mpr hstatus
    obtain ⟨entries, hentries, hsize, hattributes⟩ :=
      (attributes_succeed (hr _)).mpr ⟨hkeys, hattributes⟩
    obtain ⟨code, hcode'⟩ := (optionalString_succeeds (hr _)).mpr
      (hcode.imp_right (Exists.imp fun _ => And.left))
    rw [optionalString_ok_iff.mp hcode'] at hcode herror
    rw [string_ok_iff.mp hstatus, ne_eq, optional_eq_nil, text_inj] at herror
    obtain ⟨herror, hok⟩ := (statuses_iff (not_not.mp hstatuses) code).mpr herror
    rw [hentries, Option.getD_some]
    exact ⟨operation, hoperation, status, hstatus, code, hcode', started, hstarted, ended, hended,
      ⟨hknown, hstatuses,
        (ordered_iff (integer_ok_iff.mp hstarted).1 (integer_ok_iff.mp hended).1).mpr horder,
        herror, hok, (errorCode_valid code).mpr hcode, Option.some_ne_none entries,
        not_lt.mpr hsize⟩, hattributes⟩

/-! ### The assignment -/

theorem identityState_ok_iff {text : String} {state : AssignedState} :
    identityState text = .ok state ↔
      (text = "known" ∧ state = .known) ∨ (text = "unknown" ∧ state = .unknown) := by
  unfold identityState
  split
  · rename_i hknown
    subst hknown
    rw [Except.ok.injEq, eq_comm]
    simp
  · rename_i hother
    split
    · rename_i hunknown
      subst hunknown
      rw [Except.ok.injEq, eq_comm]
      simp
    · rename_i hneither
      refine iff_of_false nofun ?_
      rintro (⟨h, -⟩ | ⟨h, -⟩)
      · exact hother h
      · exact hneither h

theorem optionalFinite_eq_none {value : Object} {x : Option ℚ} (h : optionalFinite value = .ok x) :
    x = none ↔ value = .nil := by
  unfold optionalFinite at h
  split at h
  · obtain rfl := Except.ok.inj h
    exact iff_of_true rfl rfl
  · rename_i hnil
    obtain ⟨q, -, rfl⟩ := map_ok_iff.mp h
    exact iff_of_false nofun hnil

/-- `_uuid` of a text that may be absent. -/
def faceIdOf (text : Option String) : Except String (Option String) :=
  text.elim (.ok none) fun text => some <$> uuidOf text

theorem faceIdOf_eq_none {text id : Option String} (h : faceIdOf text = .ok id) :
    id = none ↔ text = none := by
  cases text with
  | none =>
      obtain rfl := Except.ok.inj h
      exact iff_of_true rfl rfl
  | some text =>
      obtain ⟨id, -, rfl⟩ := map_ok_iff.mp h
      exact iff_of_false nofun nofun

theorem faceIdOf_succeeds {text : Option String} :
    (∃ id, faceIdOf text = .ok id) ↔ Optional Uuid (optional .text text) := by
  cases text with
  | none => exact iff_of_true ⟨none, rfl⟩ (.inl rfl)
  | some text =>
      show (∃ id, (some <$> uuidOf text) = .ok id) ↔ Optional Uuid (.text text)
      rw [exists_map_ok_iff]
      simp only [uuidOf_ok_iff, exists_and_left, exists_eq', and_true]
      constructor
      · intro huuid
        exact .inr ⟨utf8 text, rfl, huuid⟩
      · rintro (hnil | ⟨bytes, hbytes, huuid⟩)
        · cases hnil
        · rw [← Object.str.inj hbytes] at huuid
          exact huuid

section Reference

variable {displayName faceId : Option String}
  {matchScore recognitionThreshold : Option ℚ} {reference : Object}

/-- A known face has all its fields. -/
theorem referenceEmbedding_known :
    (∃ result, referenceEmbedding .known displayName faceId matchScore recognitionThreshold
        reference = .ok result) ↔
      (displayName ≠ none ∧ faceId ≠ none ∧ matchScore ≠ none ∧ recognitionThreshold ≠ none ∧
        reference ≠ .nil) ∧ Embedding reference ∧ normValid (Wire.numbers reference) = true := by
  unfold referenceEmbedding
  rw [if_pos rfl]
  simp only [exists_bind_ok_iff, exists_and_right, Native.exists_failIf_ok_iff, exists_map_ok_iff,
    embedding_succeeds, not_or, Native.isNil_iff, ne_eq]

/-- An unknown face has none of them. -/
theorem referenceEmbedding_unknown :
    (∃ result, referenceEmbedding .unknown displayName faceId matchScore recognitionThreshold
        reference = .ok result) ↔
      displayName = none ∧ faceId = none ∧ matchScore = none ∧ recognitionThreshold = none ∧
        reference = .nil := by
  unfold referenceEmbedding
  rw [if_neg (by decide)]
  simp only [exists_bind_ok_iff, Native.exists_failIf_ok_iff, exists_pure_ok, and_true, not_or,
    Native.isNil_iff, ne_eq, not_not]

end Reference

theorem identityAssignment_succeeds
    (hr : ∀ key, readable (field (readMap payload) key) = true)
    (hnamed : Keys .identityAssignment payload) :
    (∃ command, identityAssignment header payload = .ok command) ↔
      Body .identityAssignment (readMap payload) := by
  unfold identityAssignment Body
  simp (disch := decide) only [subscript_of_named hnamed, ok_bind, exists_bind_ok_iff,
    exists_and_right, natural_succeeds, positive_succeeds, exists_pure_ok, and_true]
  simp only [messageChecks, List.forall_mem_cons, List.not_mem_nil, false_implies,
    implies_true, and_true, Consistent, PythonReads, faceFields, string_ok_iff,
    optionalString_ok_iff, identityState_ok_iff]
  constructor
  · rintro ⟨text, htext, state, hstate, face, hface, faceId, hfaceId, score, hscore, threshold,
      hthreshold, display, hdisplay, href, htracker, hrevision, hepoch, hdecision⟩
    have hface' : Optional Uuid (field (readMap payload) "face_id") := by
      rw [hface]
      exact faceIdOf_succeeds.mp ⟨faceId, hfaceId⟩
    have hdisplay' : Optional Wire.Text (field (readMap payload) "display_name") :=
      (optionalString_succeeds (hr _)).mp ⟨display, optionalString_ok_iff.mpr hdisplay⟩
    have hscore' := optionalFinite_succeeds.mp ⟨score, hscore⟩
    have hthreshold' := optionalFinite_succeeds.mp ⟨threshold, hthreshold⟩
    have hfaceNil : faceId = none ↔ field (readMap payload) "face_id" = .nil := by
      rw [faceIdOf_eq_none hfaceId, hface, optional_eq_nil]
    have hdisplayNil : display = none ↔ field (readMap payload) "display_name" = .nil := by
      rw [hdisplay, optional_eq_nil]
    rcases hstate with ⟨rfl, rfl⟩ | ⟨rfl, rfl⟩
    · rw [referenceEmbedding_known, ne_eq, hdisplayNil, ne_eq, hfaceNil, ne_eq,
        optionalFinite_eq_none hscore, ne_eq, optionalFinite_eq_none hthreshold] at href
      obtain ⟨hnil, hembedding, hnorm⟩ := href
      refine ⟨⟨htracker, hrevision, hepoch, ⟨"known", by simp, htext⟩, hdisplay', hface', hscore',
        hthreshold', .inr hembedding, hdecision⟩, ?_, fun _ => hnorm⟩
      simp only [htext, iff_true]
      exact hnil
    · rw [referenceEmbedding_unknown, hdisplayNil, hfaceNil,
        optionalFinite_eq_none hscore, optionalFinite_eq_none hthreshold] at href
      have hstate : ¬ Object.text "unknown" = .text "known" := by
        rw [text_inj]
        decide
      refine ⟨⟨htracker, hrevision, hepoch, ⟨"unknown", by simp, htext⟩, hdisplay', hface', hscore',
        hthreshold', .inl href.2.2.2.2, hdecision⟩, ?_, fun hne => absurd href.2.2.2.2 hne⟩
      simp only [htext, hstate, iff_false, ne_eq, not_not]
      exact href
  · rintro ⟨⟨htracker, hrevision, hepoch, ⟨text, htexts, htext⟩, hdisplay', hface', hscore',
      hthreshold', hreference, hdecision⟩, hnil, hnorm⟩
    obtain ⟨display, hdisplay⟩ := (optionalString_succeeds (hr _)).mpr hdisplay'
    obtain ⟨face, hface⟩ := (optionalString_succeeds (hr _)).mpr
      (hface'.imp_right (Exists.imp fun _ => And.left))
    obtain ⟨score, hscore⟩ := optionalFinite_succeeds.mpr hscore'
    obtain ⟨threshold, hthreshold⟩ := optionalFinite_succeeds.mpr hthreshold'
    have hdisplay := optionalString_ok_iff.mp hdisplay
    have hface := optionalString_ok_iff.mp hface
    rw [hface] at hface'
    obtain ⟨faceId, hfaceId⟩ := faceIdOf_succeeds.mpr hface'
    rw [htext, text_inj, hdisplay, ne_eq, optional_eq_nil, hface, ne_eq, optional_eq_nil,
      ← faceIdOf_eq_none hfaceId, ne_eq, ← optionalFinite_eq_none hscore, ne_eq,
      ← optionalFinite_eq_none hthreshold] at hnil
    obtain ⟨hdisplayNil, hfaceNil, hscoreNil, hthresholdNil, hrefNil⟩ := hnil
    simp only [List.mem_cons, List.not_mem_nil, or_false] at htexts
    rcases htexts with rfl | rfl
    · simp only [iff_true] at hdisplayNil hfaceNil hscoreNil hthresholdNil hrefNil
      exact ⟨"known", htext, .known, .inl ⟨rfl, rfl⟩, face, hface, faceId, hfaceId, score, hscore,
        threshold, hthreshold, display, hdisplay, referenceEmbedding_known.mpr
          ⟨⟨hdisplayNil, hfaceNil, hscoreNil, hthresholdNil, hrefNil⟩,
            hreference.resolve_left hrefNil, hnorm hrefNil⟩,
        htracker, hrevision, hepoch, hdecision⟩
    · simp only [String.reduceEq, iff_false, not_not, ne_eq]
        at hdisplayNil hfaceNil hscoreNil hthresholdNil hrefNil
      exact ⟨"unknown", htext, .unknown, .inr ⟨rfl, rfl⟩, face, hface, faceId, hfaceId, score, hscore,
        threshold, hthreshold, display, hdisplay, referenceEmbedding_unknown.mpr
          ⟨hdisplayNil, hfaceNil, hscoreNil, hthresholdNil, hrefNil⟩,
        htracker, hrevision, hepoch, hdecision⟩

/-! ## The header -/

theorem version_succeeds {value : Object} :
    (∃ n, integer value 1 = .ok n ∧ ¬ n ≠ 2) ↔ value = .integer 2 := by
  simp only [integer_ok_iff, not_not]
  constructor
  · rintro ⟨n, ⟨rfl, -⟩, rfl⟩
    rfl
  · rintro rfl
    exact ⟨2, ⟨rfl, by decide⟩, rfl⟩

theorem messageType_ok_iff {text : String} {type : MessageType} :
    messageType text = .ok type ↔ type.text = text := by
  constructor
  · intro h
    unfold messageType at h
    split at h
    · rename_i other hother
      obtain rfl := Except.ok.inj h
      have hfound := List.find?_some hother
      exact of_decide_eq_true hfound
    · cases h
  · rintro rfl
    cases type <;> decide

theorem messageType_succeeds {value : Object} :
    (∃ text, string value = .ok text ∧ ∃ type, messageType text = .ok type) ↔
      ∃ type : MessageType, value = .text type.text := by
  simp only [string_ok_iff, messageType_ok_iff]
  constructor
  · rintro ⟨-, rfl, type, rfl⟩
    exact ⟨type, rfl⟩
  · rintro ⟨type, rfl⟩
    exact ⟨type.text, rfl, type, rfl⟩

/-- The two validators accept the same contexts. -/
theorem traceContext_succeeds {parent state : Object} (hp : readable parent = true)
    (hs : readable state = true) :
    (∃ traceparent, string parent = .ok traceparent ∧
        ∃ tracestate, optionalString state = .ok tracestate ∧
          ∃ u, validateTraceContext traceparent tracestate = .ok u) ↔
      Matches (fun bytes => traceparentValid (byteCodes bytes)) parent ∧
        Optional (Matches Native.tracestateValid) state := by
  rw [← Native.traceContext_succeeds]
  constructor
  · rintro ⟨traceparent, hparent, tracestate, hstate, ⟨⟩, hvalid⟩
    obtain rfl := string_ok_iff.mp hparent
    obtain rfl := optionalString_ok_iff.mp hstate
    exact ⟨utf8 traceparent, Native.stringValue_text traceparent, tracestate.map utf8,
      Native.optionalString_optional tracestate, (),
      (validateTraceContext_utf8 traceparent tracestate).mpr hvalid⟩
  · rintro ⟨parentBytes, hparent, stateBytes, hstate, ⟨⟩, hvalid⟩
    obtain ⟨traceparent, rfl⟩ := exists_text hp (Native.stringValue_succeeds.mp ⟨_, hparent⟩)
    obtain ⟨tracestate, htext⟩ :=
      (optionalString_succeeds hs).mpr (Native.optionalString_succeeds.mp ⟨_, hstate⟩)
    obtain rfl := optionalString_ok_iff.mp htext
    rw [Native.stringValue_text, Except.ok.injEq] at hparent
    rw [Native.optionalString_optional, Except.ok.injEq] at hstate
    subst hparent hstate
    exact ⟨traceparent, string_ok_iff.mpr rfl, tracestate, htext, (),
      (validateTraceContext_utf8 traceparent tracestate).mp hvalid⟩

theorem header_succeeds (hr : ∀ key, readable (field (readMap payload) key) = true)
    (hread : ∀ name ∈ headerFields, subscript payload name = .ok (field (readMap payload) name)) :
    (∃ result, Protocol.header payload = .ok result) ↔
      (∃ type : MessageType, field (readMap payload) "message_type" = .text type.text) ∧
        ∀ check ∈ headerChecks, check.2 (field (readMap payload) check.1) := by
  unfold Protocol.header
  simp (disch := decide) only [hread, ok_bind, exists_bind_ok_iff, exists_and_right,
    Native.exists_failIf_ok_iff, uuid_succeeds (hr _), natural_succeeds, positive_succeeds,
    exists_pure_ok, and_true]
  simp only [← and_assoc, exists_and_right, version_succeeds, messageType_succeeds,
    traceContext_succeeds (hr _) (hr _)]
  simp only [headerChecks, List.forall_mem_cons, List.not_mem_nil, false_implies, implies_true,
    and_true]
  constructor
  · rintro ⟨⟨⟨⟨⟨⟨⟨⟨⟨hversion, type, htype⟩, hparent⟩, hstate⟩, hsession⟩, hcamera⟩, hrun⟩, hgeneration⟩,
      hattempt⟩, hsequence⟩
    exact ⟨⟨type, htype⟩, hversion, ⟨_, htype⟩, hsession, hcamera, hrun, hgeneration, hattempt,
      hsequence, hparent, hstate⟩
  · rintro ⟨htype, hversion, -, hsession, hcamera, hrun, hgeneration, hattempt, hsequence, hparent,
      hstate⟩
    exact ⟨⟨⟨⟨⟨⟨⟨⟨⟨hversion, htype⟩, hparent⟩, hstate⟩, hsession⟩, hcamera⟩, hrun⟩, hgeneration⟩,
      hattempt⟩, hsequence⟩

theorem subscript_ok_iff {name : String} {value : Object} :
    subscript payload name = .ok value ↔ payload.lookup name = some value := by
  rw [subscript_eq, Native.required_ok_iff, Native.lookup_readMap]

/-- The type of a header is the one of the payload. -/
theorem header_type (h : Protocol.header payload = .ok header) :
    field (readMap payload) "message_type" = .text header.messageType.text := by
  unfold Protocol.header at h
  simp only [bind_ok_iff, failIf_ok_iff, subscript_ok_iff, string_ok_iff, messageType_ok_iff] at h
  obtain ⟨-, -, version, -, -, -, value, hvalue, text, rfl, type, rfl, -, -, traceparent, -, -, -,
    tracestate, -, -, -, -, -, sessionId, -, -, -, cameraId, -, -, -, runId, -, -, -, generation, -,
    -, -, runtimeAttempt, -, -, -, sequence, -, hheader⟩ := h
  obtain rfl := Except.ok.inj hheader
  rw [field, Native.lookup_readMap, hvalue]
  rfl

/-! ## The payload -/

theorem decodeMessageFields_succeeds
    (hr : ∀ key, readable (field (readMap payload) key) = true) {type : MessageType}
    (htype : header.messageType = type) (hnamed : Keys type payload) :
    (∃ message, decodeMessageFields header payload = .ok message) ↔
      Body type (readMap payload) := by
  unfold decodeMessageFields
  rw [htype]
  cases type with
  | start => exact exists_map_ok_iff.trans (startCommand_succeeds hr hnamed)
  | identityAssignment => exact exists_map_ok_iff.trans (identityAssignment_succeeds hr hnamed)
  | stop => exact exists_map_ok_iff.trans (stopCommand_succeeds hr hnamed)
  | hello => exact exists_map_ok_iff.trans (helloEvent_succeeds hr hnamed)
  | state => exact exists_map_ok_iff.trans (stateEvent_succeeds hr hnamed)
  | outputReady => exact exists_map_ok_iff.trans (outputReadyEvent_succeeds hr hnamed)
  | trackEvidence => exact exists_map_ok_iff.trans (trackEvidenceEvent_succeeds hr hnamed)
  | trackExpired => exact exists_map_ok_iff.trans (trackExpiredEvent_succeeds hr hnamed)
  | metrics => exact exists_map_ok_iff.trans (metricsEvent_succeeds hr hnamed)
  | failed => exact exists_map_ok_iff.trans (failedEvent_succeeds hr hnamed)
  | stopped => exact exists_map_ok_iff.trans (stoppedEvent_succeeds hr hnamed)
  | nativeOperation => exact exists_map_ok_iff.trans (nativeOperationEvent_succeeds hr hnamed)

/-- The fields of `_MESSAGE_FIELDS` are those of the format. -/
theorem messageFields_eq (type : MessageType) :
    headerFields ++ messageFields type = (headerChecks ++ messageChecks type).map Prod.fst := by
  cases type <;> rfl

/-- The header of an accepted payload, whose type decides the keys and the branch. -/
theorem decodePayload_cases {message : LiveMessage} (h : decodePayload payload = .ok message) :
    ∃ header, Protocol.header payload = .ok header ∧ Keys header.messageType payload ∧
      decodeMessageFields header payload = .ok message := by
  unfold decodePayload at h
  simp only [bind_ok_iff, failIf_ok_iff, messageFields_eq, missing_iff, unknown_iff, not_not] at h
  obtain ⟨-, -, header, hheader, ⟨⟩, hpresent, ⟨⟩, hknown, hbody⟩ := h
  exact ⟨header, hheader, ⟨hpresent, hknown⟩, hbody⟩

/-- The Python side accepts the payloads of the wire format that pass its own checks. -/
theorem decodePayload_succeeds (hr : ∀ key, readable (field (readMap payload) key) = true) :
    (∃ message, decodePayload payload = .ok message) ↔
      ∃ type, Message type (readMap payload) ∧ PythonReads type (readMap payload) := by
  unfold decodePayload
  simp only [exists_bind_ok_iff, exists_and_right, Native.exists_failIf_ok_iff, messageFields_eq,
    missing_iff, unknown_iff, not_not]
  constructor
  · rintro ⟨-, header, hheader, hpresent, hknown, hbody⟩
    have hnamed : Keys header.messageType payload := ⟨hpresent, hknown⟩
    obtain ⟨hchecks, hconsistent, hreads⟩ :=
      (decodeMessageFields_succeeds hr rfl hnamed).mp hbody
    have hread (name : String) (hname : name ∈ headerFields) :=
      subscript_of_named hnamed (Native.header_names header.messageType name hname)
    obtain ⟨-, hheaderChecks⟩ := (header_succeeds hr hread).mp ⟨header, hheader⟩
    exact ⟨header.messageType, ⟨header_type hheader, ⟨hnamed,
      List.forall_mem_append.mpr ⟨hheaderChecks, hchecks⟩⟩, hconsistent⟩, hreads⟩
  · rintro ⟨type, ⟨hfield, ⟨hnamed, hchecks⟩, hconsistent⟩, hreads⟩
    obtain ⟨hheaderChecks, hchecks⟩ := List.forall_mem_append.mp hchecks
    have hread (name : String) (hname : name ∈ headerFields) :=
      subscript_of_named hnamed (Native.header_names type name hname)
    obtain ⟨header, hheader⟩ := (header_succeeds hr hread).mpr ⟨⟨type, hfield⟩, hheaderChecks⟩
    have htype : header.messageType = type := by
      have htext := text_inj.mp ((header_type hheader).symm.trans hfield)
      exact Except.ok.inj ((messageType_ok_iff.mpr rfl).symm.trans (messageType_ok_iff.mpr htext.symm))
    refine ⟨fun name hname => hnamed.present name (Native.header_names type name hname), header,
      hheader, ?_, ?_, (decodeMessageFields_succeeds hr htype hnamed).mpr
        ⟨hchecks, hconsistent, hreads⟩⟩
    · rw [htype]
      exact hnamed.present
    · rw [htype]
      exact hnamed.known

end Messages

end Mvision.Live.Protocol
