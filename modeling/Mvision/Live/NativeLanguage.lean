import Mvision.Library.Checks
import Mvision.Live.NativeStart
import Mvision.Live.WireFormat

/-!
# What the native worker accepts

The decoder of `live_protocol.cpp` accepts exactly the payloads of the wire format that pass
the checks of its own.
-/

namespace Mvision.Live.Native

open Mvision.Library Mvision.Live.Wire

/-! ## Readers -/

section Readers

variable {value : Object}

theorem stringValue_ok_iff {text : Native.Text} :
    stringValue value = .ok text ↔ value = .str text := by
  unfold stringValue
  split
  · rw [Except.ok.injEq, Object.str.injEq]
  · rename_i hother
    refine iff_of_false nofun ?_
    rintro rfl
    exact hother text rfl

theorem stringValue_succeeds : (∃ text, stringValue value = .ok text) ↔ Wire.Text value := by
  simp only [stringValue_ok_iff, Wire.Text]

theorem optionalString_succeeds :
    (∃ text, optionalString value = .ok text) ↔ Optional Wire.Text value := by
  unfold optionalString Optional
  split
  · exact iff_of_true ⟨none, rfl⟩ (.inl rfl)
  · rename_i hnil
    rw [exists_map_ok_iff, stringValue_succeeds, or_iff_right (by exact hnil)]

theorem unsignedInteger_ok_iff (hv : value.packable = true) {minimum n : UInt64} :
    unsignedInteger value minimum = .ok n ↔
      value = .integer n.toNat ∧ minimum.toNat ≤ n.toNat := by
  cases value with
  | integer k =>
      have hfits : Object.IntegerFits k := of_decide_eq_true hv
      unfold Object.IntegerFits at hfits
      rw [Object.integer.injEq]
      by_cases hk : k < 0
      · rw [unsignedInteger, if_pos hk]
        refine iff_of_false (by rintro ⟨⟩) ?_
        rintro ⟨rfl, -⟩
        omega
      · obtain ⟨m, rfl⟩ := Int.eq_ofNat_of_zero_le (not_lt.mp hk)
        have hm : m < 18446744073709551616 := by omega
        rw [show Object.integer (m : Int) = natural m from rfl, unsignedInteger_natural_ok_iff hm]
        have htoNat : m.toUInt64.toNat = m := Nat.mod_eq_of_lt hm
        constructor
        · rintro ⟨hmin, rfl⟩
          rw [htoNat]
          exact ⟨rfl, hmin⟩
        · rintro ⟨heq, hmin⟩
          have heq : m = n.toNat := by exact_mod_cast heq
          subst heq
          exact ⟨hmin, UInt64.ofNat_toNat⟩
  | _ => exact iff_of_false (by rintro ⟨⟩) (by rintro ⟨⟨⟩, -⟩)

theorem unsignedInteger_succeeds (hv : value.packable = true) (minimum : UInt64) :
    (∃ n, unsignedInteger value minimum = .ok n) ↔ AtLeast (minimum.toNat : Int) value := by
  simp only [unsignedInteger_ok_iff hv]
  constructor
  · rintro ⟨n, rfl, hmin⟩
    exact ⟨n.toNat, rfl, by exact_mod_cast hmin⟩
  · rintro ⟨k, rfl, hmin⟩
    have hfits : Object.IntegerFits k := of_decide_eq_true hv
    unfold Object.IntegerFits at hfits
    obtain ⟨m, rfl⟩ := Int.eq_ofNat_of_zero_le (le_trans (Int.natCast_nonneg _) hmin)
    have hm : m.toUInt64.toNat = m := Nat.mod_eq_of_lt (by omega)
    refine ⟨m.toUInt64, ?_, ?_⟩
    · rw [hm]
    · rw [hm]
      exact_mod_cast hmin

theorem unsigned_succeeds (hv : value.packable = true) :
    (∃ n, unsignedInteger value 0 = .ok n) ↔ AtLeast 0 value :=
  unsignedInteger_succeeds hv 0

theorem positive_succeeds (hv : value.packable = true) :
    (∃ n, unsignedInteger value 1 = .ok n) ↔ AtLeast 1 value :=
  unsignedInteger_succeeds hv 1

theorem finiteNumber_ok_iff {q : ℚ} : finiteNumber value = .ok q ↔ numberOf value = some q := by
  cases value with
  | float x =>
      cases x with
      | finite r =>
          show Except.ok r = Except.ok q ↔ some r = some q
          rw [Except.ok.injEq, Option.some.injEq]
      | _ => exact iff_of_false nofun nofun
  | integer n =>
      unfold finiteNumber numberOf
      dsimp only
      cases binary64.round n with
      | finite r => rw [Except.ok.injEq, Option.some.injEq]
      | _ => exact iff_of_false nofun nofun
  | _ => exact iff_of_false nofun nofun

theorem finiteNumber_succeeds : (∃ q, finiteNumber value = .ok q) ↔ Number value := by
  simp only [finiteNumber_ok_iff, Number]

theorem optionalFloat_succeeds :
    (∃ x, optionalFloat value = .ok x) ↔ Optional Number value := by
  unfold optionalFloat Optional
  split
  · exact iff_of_true ⟨none, rfl⟩ (.inl rfl)
  · rename_i hnil
    rw [exists_map_ok_iff, finiteNumber_succeeds, or_iff_right (by exact hnil)]

theorem uuidValue_succeeds : (∃ text, uuidValue value = .ok text) ↔ Uuid value := by
  unfold uuidValue
  rw [exists_bind_ok_iff]
  simp only [stringValue_ok_iff, Uuid, Matches]
  refine exists_congr fun text => and_congr_right fun _ => ?_
  split
  · rename_i hcanonical
    exact iff_of_true ⟨text, rfl⟩ hcanonical
  · rename_i hcanonical
    exact iff_of_false nofun hcanonical

theorem booleanValue_ok_iff {flag : Bool} :
    booleanValue value = .ok flag ↔ value = .boolean flag := by
  unfold booleanValue
  split
  · rw [Except.ok.injEq, Object.boolean.injEq]
  · rename_i hother
    refine iff_of_false nofun ?_
    rintro rfl
    exact hother flag rfl

theorem booleanValue_succeeds : (∃ flag, booleanValue value = .ok flag) ↔ Boolean value := by
  simp only [booleanValue_ok_iff, Boolean]

theorem exists_failIf_ok_iff {condition : Prop} [Decidable condition] {code : String} :
    (∃ u, failIf condition code = .ok u) ↔ ¬ condition := by
  constructor
  · rintro ⟨u, hu⟩
    exact failIf_ok_iff.mp hu
  · intro h
    exact ⟨(), failIf_ok_iff.mpr h⟩

end Readers

/-- A bound on an integer that was read is one on the integer of the payload. -/
theorem not_gt_iff {value : Object} (hv : value.packable = true) {minimum n bound : UInt64}
    (h : unsignedInteger value minimum = .ok n) : ¬ n > bound ↔ AtMost bound.toNat value := by
  obtain ⟨rfl, -⟩ := (unsignedInteger_ok_iff hv).mp h
  rw [gt_iff_lt, UInt64.not_lt, UInt64.le_iff_toNat_le]
  constructor
  · rintro hle k hk
    obtain rfl : (n.toNat : Int) = k := Object.integer.inj hk
    exact_mod_cast hle
  · intro hmost
    exact_mod_cast hmost n.toNat rfl

theorem attempts_succeeds {value : Object} (hv : value.packable = true) :
    (∃ n, signedInteger value = .ok n ∧ ¬ (n < -1 ∨ n > maxInt32)) ↔
      AtLeast (-1) value ∧ AtMost 2147483647 value := by
  cases value with
  | integer k =>
      have hfits : Object.IntegerFits k := of_decide_eq_true hv
      simp only [signedInteger_ok_iff, and_assoc, exists_and_left, exists_eq_left']
      rw [attempts_iff hfits]
      constructor
      · rintro ⟨hleast, hmost⟩
        refine ⟨⟨k, rfl, hleast⟩, fun n hn => ?_⟩
        obtain rfl := Object.integer.inj hn
        exact hmost
      · rintro ⟨⟨n, hn, hleast⟩, hmost⟩
        obtain rfl := Object.integer.inj hn
        exact ⟨hleast, hmost k rfl⟩
  | _ =>
      refine iff_of_false (fun h => ?_) (fun h => ?_)
      · obtain ⟨n, hn, -⟩ := h
        cases hn
      · obtain ⟨⟨n, hn, -⟩, -⟩ := h
        cases hn

theorem unitNumber_of_not_outsideUnit {value : Object} {q : ℚ} (h : finiteNumber value = .ok q)
    (hunit : ¬ outsideUnit q = true) : UnitNumber value := by
  rw [outsideUnit_iff, not_not] at hunit
  exact ⟨q, finiteNumber_ok_iff.mp h, hunit⟩

/-! ## Fields -/

section Fields

variable {names : List String} {values : ObjectMap}

theorem validateExactFields_ok_iff :
    validateExactFields values names = .ok () ↔ Named names values := by
  have hpresent : (¬ ∃ key ∈ names, (values.lookup (utf8 key)).isNone = true) ↔
      ∀ name ∈ names, values.lookup (utf8 name) ≠ none := by
    simp only [not_exists, not_and, Option.isNone_iff_eq_none, ne_eq]
  have hknown : (¬ ∃ entry ∈ values, entry.1 ∉ names.map utf8) ↔
      ∀ entry ∈ values, entry.1 ∈ names.map utf8 := by
    simp only [not_exists, not_and, not_not]
  unfold validateExactFields
  split
  · rename_i hmissing
    exact iff_of_false nofun fun h => hpresent.mpr h.present hmissing
  · rename_i hmissing
    split
    · rename_i hunknown
      exact iff_of_false nofun fun h => hknown.mpr h.known hunknown
    · rename_i hunknown
      exact iff_of_true rfl ⟨hpresent.mp hmissing, hknown.mp hunknown⟩

theorem required_of_named (h : Named names values) {name : String} (hname : name ∈ names) :
    required values name = .ok (field values name) := by
  obtain ⟨value, hvalue⟩ := Option.ne_none_iff_exists'.mp (h.present name hname)
  rw [required, field, hvalue]
  rfl

/-- A decoder that first compares the fields. -/
theorem exists_validated_iff {α : Type} {next : Unit → Except String α} :
    (∃ result, (validateExactFields values names >>= next) = .ok result) ↔
      Named names values ∧ ∃ result, next () = .ok result := by
  rw [exists_bind_ok_iff]
  constructor
  · rintro ⟨u, hu, h⟩
    exact ⟨validateExactFields_ok_iff.mp hu, h⟩
  · rintro ⟨hnamed, h⟩
    exact ⟨(), validateExactFields_ok_iff.mpr hnamed, h⟩

end Fields

/-! ## Arrays and observations -/

theorem floatArray_succeeds {size : Nat} {value : Object} {code : String} :
    (∃ floats, floatArray size value code = .ok floats) ↔
      isArray value = true ∧ Numbers size value := by
  cases value with
  | array items =>
      unfold floatArray Numbers Wire.items
      dsimp only
      split
      · rename_i hsize
        exact iff_of_false nofun fun h => hsize h.2.1
      · rename_i hsize
        rw [exists_mapM_ok_iff]
        simp only [exists_map_ok_iff, finiteNumber_succeeds]
        exact ⟨fun h => ⟨rfl, not_not.mp hsize, h⟩, fun h => h.2.2⟩
  | _ => exact iff_of_false nofun nofun

theorem floats_of_mapM {items : List Object} {result : List FloatValue}
    (h : items.mapM (fun item => toFloat <$> finiteNumber item) = .ok result) :
    result = floats (.array items) := by
  have hitems := forall₂_of_mapM_ok h
  clear h
  show result = (items.map fun item => (numberOf item).getD 0).map toFloat
  induction hitems with
  | nil => rfl
  | cons hfirst hrest ih =>
      obtain ⟨q, hq, rfl⟩ := map_ok_iff.mp hfirst
      rw [finiteNumber_ok_iff] at hq
      rw [List.map_cons, List.map_cons, hq, ← ih]
      rfl

theorem floatArray_ok {size : Nat} {value : Object} {code : String} {result : List FloatValue}
    (h : floatArray size value code = .ok result) : result = floats value := by
  cases value with
  | array items =>
      unfold floatArray at h
      dsimp only at h
      split at h
      · cases h
      · exact floats_of_mapM h
  | _ => cases h

/-- The floats of an array are those of its numbers. -/
theorem exists_floatArray_and_iff {size : Nat} {value : Object} {code : String}
    {P : List FloatValue → Prop} :
    (∃ result, floatArray size value code = .ok result ∧ P result) ↔
      (isArray value = true ∧ Numbers size value) ∧ P (floats value) := by
  rw [← @floatArray_succeeds size value code]
  constructor
  · rintro ⟨result, hresult, hP⟩
    rw [floatArray_ok hresult] at hP
    exact ⟨⟨result, hresult⟩, hP⟩
  · rintro ⟨⟨result, hresult⟩, hP⟩
    rw [← floatArray_ok hresult] at hP
    exact ⟨result, hresult, hP⟩

theorem objectMap_ok_iff {value : Object} {code : String} {values : ObjectMap} :
    objectMap value code = .ok values ↔ value.asStringMap = some values := by
  cases value with
  | map entries =>
      unfold objectMap
      dsimp only
      cases (Object.map entries).asStringMap with
      | none => exact iff_of_false nofun nofun
      | some other => rw [Except.ok.injEq, Option.some.injEq]
  | _ => exact iff_of_false nofun nofun

/-- The values of a map fit the format if the map does. -/
theorem packable_of_asStringMap {value : Object} (h : value.packable = true) {values : ObjectMap}
    (hvalues : value.asStringMap = some values) : ∀ entry ∈ values, entry.2.packable = true := by
  cases value with
  | map entries =>
      rw [Object.packable, Bool.and_eq_true, Object.mapEntriesPackable_iff] at h
      refine Object.forall_mem_stringEntries (P := fun value => value.packable = true)
        (fun entry hentry => (h.2 entry hentry).2) (List.forall_mem_nil _) hvalues
  | _ => cases hvalues

theorem packable_field {values : ObjectMap} (h : ∀ entry ∈ values, entry.2.packable = true)
    (key : String) : (field values key).packable = true := by
  unfold field
  cases hlookup : values.lookup (utf8 key) with
  | none => rfl
  | some value =>
      obtain ⟨front, rest, rfl, -⟩ := List.lookup_eq_some_iff.mp hlookup
      exact h (utf8 key, value) (List.mem_append_right _ List.mem_cons_self)

theorem mapOf_and {P Q : ObjectMap → Prop} {value : Object} :
    MapOf (fun values => P values ∧ Q values) value ↔ MapOf P value ∧ MapOf Q value := by
  constructor
  · rintro ⟨values, hvalues, hP, hQ⟩
    exact ⟨⟨values, hvalues, hP⟩, values, hvalues, hQ⟩
  · rintro ⟨⟨values, hvalues, hP⟩, values', hvalues', hQ⟩
    obtain rfl : values = values' := Option.some.inj (hvalues.symm.trans hvalues')
    exact ⟨values, hvalues, hP, hQ⟩

theorem decodeObservation_succeeds {value : Object} (hv : value.packable = true) :
    (∃ observation, decodeObservation value = .ok observation) ↔
      MapOf (Wire.Fields observationChecks) value ∧ MapOf NativeObservation value := by
  rw [← mapOf_and]
  unfold decodeObservation
  rw [exists_bind_ok_iff]
  simp only [objectMap_ok_iff]
  refine exists_congr fun values => and_congr_right fun hvalues => ?_
  have hpack := packable_field (packable_of_asStringMap hv hvalues)
  dsimp only [Wire.Fields]
  rw [exists_validated_iff, and_assoc]
  refine and_congr_right fun hnamed => ?_
  simp (disch := decide) only [required_of_named hnamed, ok_bind, exists_bind_ok_iff,
    exists_and_right, unsigned_succeeds (hpack _), finiteNumber_succeeds, floatArray_succeeds,
    exists_floatArray_and_iff, exists_failIf_ok_iff, exists_pure_ok, and_true,
    Bool.not_eq_true]
  simp only [observationChecks, List.forall_mem_cons, List.not_mem_nil, false_implies,
    implies_true, and_true, NativeObservation, Embedding]
  constructor
  · rintro ⟨htime, ⟨hbox, hbbox⟩, hdetector, ⟨hpoints, hlandmarks⟩, ⟨hlist, hconfidences⟩, hquality,
      hmask, hembedding, hnorm⟩
    exact ⟨⟨htime, hbbox, hdetector, hlandmarks, hconfidences, hquality, hmask, hembedding⟩, hbox,
      hpoints, hlist, hnorm⟩
  · rintro ⟨⟨htime, hbbox, hdetector, hlandmarks, hconfidences, hquality, hmask, hembedding⟩, hbox,
      hpoints, hlist, hnorm⟩
    exact ⟨htime, ⟨hbox, hbbox⟩, hdetector, ⟨hpoints, hlandmarks⟩, ⟨hlist, hconfidences⟩, hquality,
      hmask, hembedding, hnorm⟩

/-! ## Messages -/

/-- The checks of a payload that follow those of its header. -/
def Body (type : MessageType) (values : ObjectMap) : Prop :=
  Named ((headerChecks ++ messageChecks type).map Prod.fst) values ∧
    (∀ check ∈ messageChecks type, check.2 (field values check.1)) ∧
    Consistent type values ∧ NativeReads type values

section Messages

variable {header : ProtocolHeader} {names : List String} {values : ObjectMap}

theorem decodeStop_succeeds (hpack : ∀ key, (field values key).packable = true) :
    (∃ command, decodeStop header values = .ok command) ↔ Body .stop values := by
  unfold decodeStop validateFields Body
  rw [exists_validated_iff]
  refine and_congr_right fun hnamed => ?_
  simp (disch := decide) only [required_of_named hnamed, ok_bind, exists_bind_ok_iff,
    exists_and_right, stringValue_succeeds, positive_succeeds (hpack _), exists_pure_ok]
  simp only [messageChecks, List.forall_mem_cons, List.not_mem_nil, false_implies,
    implies_true, and_true, Consistent, NativeReads]

theorem decodeHello_succeeds :
    (∃ event, decodeHello header values = .ok event) ↔ Body .hello values := by
  unfold decodeHello validateFields Body
  rw [exists_validated_iff]
  refine and_congr_right fun hnamed => ?_
  simp (disch := decide) only [required_of_named hnamed, ok_bind, exists_bind_ok_iff,
    exists_and_right, stringValue_succeeds, exists_pure_ok]
  simp only [messageChecks, List.forall_mem_cons, List.not_mem_nil, false_implies,
    implies_true, and_true, Consistent, NativeReads]

theorem decodeOutputReady_succeeds :
    (∃ event, decodeOutputReady header values = .ok event) ↔ Body .outputReady values := by
  unfold decodeOutputReady validateFields Body
  rw [exists_validated_iff]
  refine and_congr_right fun hnamed => ?_
  simp (disch := decide) only [required_of_named hnamed, ok_bind, exists_bind_ok_iff,
    exists_and_right, stringValue_succeeds, exists_pure_ok]
  simp only [messageChecks, List.forall_mem_cons, List.not_mem_nil, false_implies,
    implies_true, and_true, Consistent, NativeReads]

theorem decodeFailed_succeeds :
    (∃ event, decodeFailed header values = .ok event) ↔ Body .failed values := by
  unfold decodeFailed validateFields Body
  rw [exists_validated_iff]
  refine and_congr_right fun hnamed => ?_
  simp (disch := decide) only [required_of_named hnamed, ok_bind, exists_bind_ok_iff,
    exists_and_right, stringValue_succeeds, exists_pure_ok]
  simp only [messageChecks, List.forall_mem_cons, List.not_mem_nil, false_implies,
    implies_true, and_true, Consistent, NativeReads]

theorem decodeTrackExpired_succeeds (hpack : ∀ key, (field values key).packable = true) :
    (∃ event, decodeTrackExpired header values = .ok event) ↔ Body .trackExpired values := by
  unfold decodeTrackExpired validateFields Body
  rw [exists_validated_iff]
  refine and_congr_right fun hnamed => ?_
  simp (disch := decide) only [required_of_named hnamed, ok_bind, exists_bind_ok_iff,
    exists_and_right, stringValue_succeeds, unsigned_succeeds (hpack _),
    positive_succeeds (hpack _), exists_pure_ok]
  simp only [messageChecks, List.forall_mem_cons, List.not_mem_nil, false_implies,
    implies_true, and_true, Consistent, NativeReads]

theorem decodeStart_succeeds (hpack : ∀ key, (field values key).packable = true) :
    (∃ command, decodeStart header values = .ok command) ↔ Body .start values := by
  unfold decodeStart validateFields Body
  rw [exists_validated_iff]
  refine and_congr_right fun hnamed => ?_
  simp (disch := decide) only [required_of_named hnamed, ok_bind, exists_bind_ok_iff,
    exists_and_right, stringValue_succeeds, unsigned_succeeds (hpack _),
    positive_succeeds (hpack _), booleanValue_succeeds, exists_failIf_ok_iff, exists_pure_ok]
  simp only [messageChecks, List.forall_mem_cons, List.not_mem_nil, false_implies,
    implies_true, and_true, Consistent, NativeReads]
  constructor
  · rintro ⟨udp, hudp, rtsp, hrtsp, profile, hprofile, sample, hsample, latency, hlatency, interval,
      hinterval, hbounds, attempts, hattempts, hrange, mode, hmode, hmodes, detector, hdetector,
      recognition, hrecognition, margin, hmargin, hunits, hrecording, hannotated, huri, hgpu, hpgie,
      hpreprocess, hsgie, htracker, hmount, hgap, htimeout⟩
    simp only [not_or, not_gt_iff (hpack _) hudp, not_gt_iff (hpack _) hrtsp,
      not_gt_iff (hpack _) hprofile, not_gt_iff (hpack _) hsample, not_gt_iff (hpack _) hlatency,
      not_gt_iff (hpack _) hinterval] at hbounds
    obtain ⟨hattempts_least, hattempts_most⟩ :=
      (attempts_succeeds (hpack _)).mp ⟨attempts, hattempts, hrange⟩
    rw [not_or, not_or] at hunits
    have hmode' : OneOf ["detect", "detectTrack", "recognize"] (field values "analytics_mode") := by
      rw [stringValue_ok_iff.mp hmode]
      simp only [not_and_or, not_not] at hmodes
      rcases hmodes with rfl | rfl | rfl
      · exact ⟨"detect", by simp, rfl⟩
      · exact ⟨"detectTrack", by simp, rfl⟩
      · exact ⟨"recognize", by simp, rfl⟩
    exact ⟨⟨huri, hgpu, hpgie, hpreprocess, hsgie, htracker, hmount,
      (positive_succeeds (hpack _)).mp ⟨udp, hudp⟩, (positive_succeeds (hpack _)).mp ⟨rtsp, hrtsp⟩,
      (positive_succeeds (hpack _)).mp ⟨profile, hprofile⟩, hmode',
      (positive_succeeds (hpack _)).mp ⟨sample, hsample⟩,
      unitNumber_of_not_outsideUnit hdetector hunits.1,
      unitNumber_of_not_outsideUnit hrecognition hunits.2.1,
      unitNumber_of_not_outsideUnit hmargin hunits.2.2, hgap,
      (unsigned_succeeds (hpack _)).mp ⟨latency, hlatency⟩,
      (unsigned_succeeds (hpack _)).mp ⟨interval, hinterval⟩, hattempts_least, htimeout, hrecording,
      hannotated⟩, trivial, hbounds.1, hbounds.2.1, hbounds.2.2.1, hbounds.2.2.2.1,
      hbounds.2.2.2.2.1, hbounds.2.2.2.2.2, hattempts_most⟩
  · rintro ⟨⟨huri, hgpu, hpgie, hpreprocess, hsgie, htracker, hmount, hudp, hrtsp, hprofile,
      ⟨mode, hmodes, hmode⟩, hsample, ⟨detector, hdetector, hdetector_unit⟩,
      ⟨recognition, hrecognition, hrecognition_unit⟩, ⟨margin, hmargin, hmargin_unit⟩, hgap,
      hlatency, hinterval, hattempts, htimeout, hrecording, hannotated⟩, -, hudp_most, hrtsp_most,
      hprofile_most, hsample_most, hlatency_most, hinterval_most, hattempts_most⟩
    obtain ⟨udp, hudp⟩ := (positive_succeeds (hpack _)).mpr hudp
    obtain ⟨rtsp, hrtsp⟩ := (positive_succeeds (hpack _)).mpr hrtsp
    obtain ⟨profile, hprofile⟩ := (positive_succeeds (hpack _)).mpr hprofile
    obtain ⟨sample, hsample⟩ := (positive_succeeds (hpack _)).mpr hsample
    obtain ⟨latency, hlatency⟩ := (unsigned_succeeds (hpack _)).mpr hlatency
    obtain ⟨interval, hinterval⟩ := (unsigned_succeeds (hpack _)).mpr hinterval
    obtain ⟨attempts, hattempts, hrange⟩ :=
      (attempts_succeeds (hpack _)).mpr ⟨hattempts, hattempts_most⟩
    refine ⟨udp, hudp, rtsp, hrtsp, profile, hprofile, sample, hsample, latency, hlatency, interval,
      hinterval, ?_, attempts, hattempts, hrange, utf8 mode, stringValue_ok_iff.mpr hmode, ?_,
      detector, finiteNumber_ok_iff.mpr hdetector, recognition,
      finiteNumber_ok_iff.mpr hrecognition, margin, finiteNumber_ok_iff.mpr hmargin, ?_, hrecording,
      hannotated, huri, hgpu, hpgie, hpreprocess, hsgie, htracker, hmount, hgap, htimeout⟩
    · simp only [not_or, not_gt_iff (hpack _) hudp, not_gt_iff (hpack _) hrtsp,
        not_gt_iff (hpack _) hprofile, not_gt_iff (hpack _) hsample, not_gt_iff (hpack _) hlatency,
        not_gt_iff (hpack _) hinterval]
      exact ⟨hudp_most, hrtsp_most, hprofile_most, hsample_most, hlatency_most, hinterval_most⟩
    · simp only [List.mem_cons, List.not_mem_nil, or_false] at hmodes
      rcases hmodes with rfl | rfl | rfl <;> simp
    · rw [not_or, not_or, outsideUnit_iff, outsideUnit_iff, outsideUnit_iff, not_not, not_not,
        not_not]
      exact ⟨hdetector_unit, hrecognition_unit, hmargin_unit⟩

theorem decodeStopped_succeeds (hpack : ∀ key, (field values key).packable = true) :
    (∃ event, decodeStopped header values = .ok event) ↔ Body .stopped values := by
  unfold decodeStopped validateFields Body
  rw [exists_validated_iff]
  refine and_congr_right fun hnamed => ?_
  simp (disch := decide) only [required_of_named hnamed, ok_bind, exists_bind_ok_iff,
    exists_and_right, stringValue_succeeds, unsigned_succeeds (hpack _), booleanValue_succeeds,
    exists_pure_ok]
  simp only [messageChecks, List.forall_mem_cons, List.not_mem_nil, false_implies,
    implies_true, and_true, Consistent, NativeReads]
  constructor
  · rintro ⟨hclean, hdecoded, hemitted, hdropped, hreason⟩
    exact ⟨hdecoded, hemitted, hdropped, hclean, hreason⟩
  · rintro ⟨hdecoded, hemitted, hdropped, hclean, hreason⟩
    exact ⟨hclean, hdecoded, hemitted, hdropped, hreason⟩

/-- A text that is one of several. -/
theorem exists_oneOf_iff {value : Object} {texts : List String} :
    (∃ text, stringValue value = .ok text ∧ ¬ text ∉ texts.map utf8) ↔ OneOf texts value := by
  simp only [stringValue_ok_iff, not_not, List.mem_map, OneOf]
  constructor
  · rintro ⟨bytes, rfl, text, htext, rfl⟩
    exact ⟨text, htext, rfl⟩
  · rintro ⟨text, htext, rfl⟩
    exact ⟨utf8 text, rfl, text, htext, rfl⟩

theorem decodeState_succeeds :
    (∃ event, decodeState header values = .ok event) ↔ Body .state values := by
  unfold decodeState validateFields Body
  rw [exists_validated_iff]
  refine and_congr_right fun hnamed => ?_
  simp (disch := decide) only [required_of_named hnamed, ok_bind, exists_bind_ok_iff,
    exists_and_right, ← and_assoc, exists_oneOf_iff, optionalString_succeeds,
    exists_failIf_ok_iff, exists_pure_ok, and_true]
  simp only [messageChecks, List.forall_mem_cons, List.not_mem_nil, false_implies,
    implies_true, and_true, Consistent, NativeReads]
  rfl

theorem mapValues_succeeds {α : Type} {read : Object → Except String α} {values : ObjectMap} :
    (∃ result, mapValues read values = .ok result) ↔
      ∀ entry ∈ values, ∃ result, read entry.2 = .ok result := by
  unfold mapValues
  rw [exists_mapM_ok_iff]
  simp only [exists_map_ok_iff]

theorem isMap_of_asStringMap {value : Object} {values : ObjectMap}
    (h : value.asStringMap = some values) : value.isMap = true := by
  cases value with
  | map entries => rfl
  | _ => cases h

theorem decodeMetrics_succeeds (hpack : ∀ key, (field values key).packable = true) :
    (∃ event, decodeMetrics header values = .ok event) ↔ Body .metrics values := by
  unfold decodeMetrics validateFields Body
  rw [exists_validated_iff]
  refine and_congr_right fun hnamed => ?_
  simp (disch := decide) only [required_of_named hnamed, ok_bind, exists_bind_ok_iff,
    exists_and_right, exists_failIf_ok_iff, objectMap_ok_iff, mapValues_succeeds,
    finiteNumber_succeeds, exists_pure_ok, and_true]
  simp only [messageChecks, List.forall_mem_cons, List.not_mem_nil, false_implies,
    implies_true, and_true, Consistent, NativeReads, Values, MapOf]
  have hcounters {entries : ObjectMap}
      (h : (field values "counters").asStringMap = some entries) (entry : Native.Text × Object)
      (hentry : entry ∈ entries) :
      (∃ n, unsignedInteger entry.2 0 = .ok n) ↔ AtLeast 0 entry.2 :=
    unsigned_succeeds (packable_of_asStringMap (hpack _) h entry hentry)
  constructor
  · rintro ⟨-, counters, hmap, hvalues, hgauges⟩
    exact ⟨⟨counters, hmap, fun entry hentry =>
      (hcounters hmap entry hentry).mp (hvalues entry hentry)⟩, hgauges⟩
  · rintro ⟨⟨counters, hmap, hvalues⟩, gauges, hgauges⟩
    refine ⟨?_, counters, hmap, fun entry hentry =>
      (hcounters hmap entry hentry).mpr (hvalues entry hentry), gauges, hgauges⟩
    rw [isMap_of_asStringMap hmap, isMap_of_asStringMap hgauges.1]
    simp

theorem observationItems_ok_iff {value : Object} {result : List Object} :
    observationItems value = .ok result ↔
      isArray value = true ∧ (Wire.items value).length ≤ 10 ∧ result = Wire.items value := by
  cases value with
  | array items =>
      unfold observationItems Wire.items
      dsimp only
      split
      · rename_i hlarge
        exact iff_of_false nofun fun h => absurd h.2.1 (not_le.mpr hlarge)
      · rename_i hsmall
        rw [Except.ok.injEq, eq_comm]
        exact ⟨fun h => ⟨rfl, not_lt.mp hsmall, h⟩, fun h => h.2.2⟩
  | _ => exact iff_of_false nofun nofun

theorem jpegBytes_ok_iff {value : Object} {bytes : List UInt8} :
    jpegBytes value = .ok bytes ↔ value = .bin bytes ∧ bytes.length ≤ 512 * 1024 := by
  cases value with
  | bin other =>
      unfold jpegBytes
      dsimp only
      rw [Object.bin.injEq]
      split
      · rename_i hlarge
        refine iff_of_false nofun ?_
        rintro ⟨rfl, hsmall⟩
        exact absurd hsmall (not_le.mpr hlarge)
      · rename_i hsmall
        rw [Except.ok.injEq]
        constructor
        · rintro rfl
          exact ⟨rfl, not_lt.mp hsmall⟩
        · exact And.left
  | _ => exact iff_of_false nofun nofun

theorem jpegBytes_succeeds {value : Object} :
    (∃ bytes, jpegBytes value = .ok bytes) ↔ Jpeg value := by
  simp only [jpegBytes_ok_iff, Jpeg]

theorem packable_items {value : Object} (h : value.packable = true) :
    ∀ item ∈ Wire.items value, item.packable = true := by
  cases value with
  | array items =>
      rw [Object.packable, Bool.and_eq_true, Object.itemsPackable_iff] at h
      exact h.2
  | bin bytes =>
      intro item hitem
      obtain ⟨byte, -, rfl⟩ := List.mem_map.mp hitem
      have hbyte := byte.toNat_lt
      rw [Object.packable, decide_eq_true_eq]
      unfold Object.IntegerFits
      omega
  | _ =>
      intro item hitem
      cases hitem

theorem decodeTrackEvidence_succeeds (hpack : ∀ key, (field values key).packable = true) :
    (∃ event, decodeTrackEvidence header values = .ok event) ↔ Body .trackEvidence values := by
  unfold decodeTrackEvidence validateFields Body
  rw [exists_validated_iff]
  refine and_congr_right fun hnamed => ?_
  simp (disch := decide) only [required_of_named hnamed, ok_bind, exists_bind_ok_iff,
    exists_and_right, observationItems_ok_iff, jpegBytes_succeeds, unsigned_succeeds (hpack _),
    positive_succeeds (hpack _), exists_mapM_ok_iff, exists_pure_ok, and_true]
  simp only [messageChecks, List.forall_mem_cons, List.not_mem_nil, false_implies,
    implies_true, and_true, Consistent, NativeReads, Observations]
  have hobservations (item : Object) (hitem : item ∈ Wire.items (field values "observations")) :
      (∃ observation, decodeObservation item = .ok observation) ↔
        MapOf (Wire.Fields observationChecks) item ∧ MapOf NativeObservation item :=
    decodeObservation_succeeds (packable_items (hpack _) item hitem)
  constructor
  · rintro ⟨items, ⟨harray, hlength, rfl⟩, hitems, hjpeg, htracker, hrevision, hfirst, hlast⟩
    exact ⟨⟨htracker, hrevision, hfirst, hlast, ⟨harray, hlength, fun item hitem =>
        ((hobservations item hitem).mp (hitems item hitem)).1⟩, hjpeg⟩, trivial,
      fun item hitem => ((hobservations item hitem).mp (hitems item hitem)).2⟩
  · rintro ⟨⟨htracker, hrevision, hfirst, hlast, ⟨harray, hlength, hitems⟩, hjpeg⟩, -, hnative⟩
    exact ⟨_, ⟨harray, hlength, rfl⟩, fun item hitem =>
      (hobservations item hitem).mpr ⟨hitems item hitem, hnative item hitem⟩, hjpeg, htracker,
      hrevision, hfirst, hlast⟩

theorem isNil_iff {value : Object} : value.isNil = true ↔ value = .nil := by
  cases value <;> simp [Object.isNil]

theorem optionalString_eq_none {value : Object} {text : Option Native.Text}
    (h : optionalString value = .ok text) : text = none ↔ value = .nil := by
  unfold optionalString at h
  split at h
  · obtain rfl := Except.ok.inj h
    exact iff_of_true rfl rfl
  · rename_i hnil
    obtain ⟨bytes, -, rfl⟩ := map_ok_iff.mp h
    exact iff_of_false nofun hnil

theorem optionalFloat_eq_none {value : Object} {x : Option FloatValue}
    (h : optionalFloat value = .ok x) : x = none ↔ value = .nil := by
  unfold optionalFloat at h
  split at h
  · obtain rfl := Except.ok.inj h
    exact iff_of_true rfl rfl
  · rename_i hnil
    obtain ⟨q, -, rfl⟩ := map_ok_iff.mp h
    exact iff_of_false nofun hnil

theorem optionalUuid_succeeds {value : Object} :
    (∃ text, optionalString value = .ok text ∧ ¬ ∃ id ∈ text, canonicalUuid id = false) ↔
      Optional Uuid value := by
  unfold optionalString Optional
  split
  · refine iff_of_true ⟨none, rfl, ?_⟩ (.inl rfl)
    rintro ⟨id, hid, -⟩
    cases hid
  · rename_i hnil
    rw [or_iff_right (by exact hnil)]
    constructor
    · rintro ⟨text, htext, huuid⟩
      obtain ⟨bytes, hbytes, rfl⟩ := map_ok_iff.mp htext
      refine ⟨bytes, stringValue_ok_iff.mp hbytes, ?_⟩
      by_contra hnot
      exact huuid ⟨bytes, rfl, Bool.not_eq_true _ ▸ hnot⟩
    · rintro ⟨bytes, rfl, hcanonical⟩
      refine ⟨some bytes, rfl, ?_⟩
      rintro ⟨id, hid, hnot⟩
      obtain rfl := Option.some.inj hid
      rw [hcanonical] at hnot
      cases hnot

section Reference

variable {state : Native.Text} {displayName faceId : Option Native.Text}
  {matchScore recognitionThreshold : Option FloatValue} {reference : Object}

/-- A known face has all its fields. -/
theorem decodeReference_known (h : state = utf8 "known") :
    (∃ result, decodeReference state displayName faceId matchScore recognitionThreshold reference =
        .ok result) ↔
      (displayName ≠ none ∧ faceId ≠ none ∧ matchScore ≠ none ∧ recognitionThreshold ≠ none ∧
        reference ≠ .nil) ∧ Embedding reference ∧
        normInvalid (floatSquares (floats reference)) = false := by
  unfold decodeReference
  rw [if_pos h]
  simp only [exists_bind_ok_iff, exists_and_right, exists_failIf_ok_iff, exists_floatArray_and_iff,
    exists_pure_ok, and_true, not_or, isNil_iff, Bool.not_eq_true, Embedding, ne_eq]

/-- An unknown face has none of them. -/
theorem decodeReference_unknown (h : state ≠ utf8 "known") :
    (∃ result, decodeReference state displayName faceId matchScore recognitionThreshold reference =
        .ok result) ↔
      displayName = none ∧ faceId = none ∧ matchScore = none ∧ recognitionThreshold = none ∧
        reference = .nil := by
  unfold decodeReference
  rw [if_neg h]
  simp only [exists_bind_ok_iff, exists_failIf_ok_iff, exists_pure_ok, and_true, not_or, isNil_iff,
    ne_eq, not_not]

end Reference

theorem decodeIdentityAssignment_succeeds (hpack : ∀ key, (field values key).packable = true) :
    (∃ command, decodeIdentityAssignment header values = .ok command) ↔
      Body .identityAssignment values := by
  unfold decodeIdentityAssignment validateFields Body
  rw [exists_validated_iff]
  refine and_congr_right fun hnamed => ?_
  simp (disch := decide) only [required_of_named hnamed, ok_bind, exists_bind_ok_iff,
    exists_and_right, unsigned_succeeds (hpack _), positive_succeeds (hpack _),
    exists_failIf_ok_iff, exists_pure_ok, and_true]
  simp only [messageChecks, List.forall_mem_cons, List.not_mem_nil, false_implies,
    implies_true, and_true, Consistent, NativeReads, faceFields]
  constructor
  · rintro ⟨state, hstate, hstates, displayName, hdisplay, faceId, hface, huuid, matchScore, hscore,
      threshold, hthreshold, href, htracker, hrevision, hepoch, hdecision⟩
    have hdisplayNil := optionalString_eq_none hdisplay
    have hfaceNil := optionalString_eq_none hface
    have hscoreNil := optionalFloat_eq_none hscore
    have hthresholdNil := optionalFloat_eq_none hthreshold
    have hdisplay' := optionalString_succeeds.mp ⟨displayName, hdisplay⟩
    have hface' := optionalUuid_succeeds.mp ⟨faceId, hface, huuid⟩
    have hscore' := optionalFloat_succeeds.mp ⟨matchScore, hscore⟩
    have hthreshold' := optionalFloat_succeeds.mp ⟨threshold, hthreshold⟩
    rw [stringValue_ok_iff.mp hstate]
    have htext : Object.str state = Object.text "known" ↔ state = utf8 "known" :=
      Object.str.injEq _ _ ▸ Iff.rfl
    rw [htext]
    by_cases hknown : state = utf8 "known"
    · rw [decodeReference_known hknown, ne_eq, ne_eq, ne_eq, ne_eq, hdisplayNil, hfaceNil, hscoreNil,
        hthresholdNil] at href
      obtain ⟨⟨hdisplayNil, hfaceNil, hscoreNil, hthresholdNil, hrefNil⟩, hembedding, hnorm⟩ := href
      refine ⟨⟨htracker, hrevision, hepoch, ⟨"known", by simp, ?_⟩, hdisplay', hface', hscore',
        hthreshold', .inr hembedding, hdecision⟩, ?_, fun _ => hnorm⟩
      · rw [hknown]
        rfl
      · simp only [hknown, iff_true]
        exact ⟨hdisplayNil, hfaceNil, hscoreNil, hthresholdNil, hrefNil⟩
    · rw [decodeReference_unknown hknown, hdisplayNil, hfaceNil, hscoreNil, hthresholdNil] at href
      obtain ⟨hdisplayNil, hfaceNil, hscoreNil, hthresholdNil, hrefNil⟩ := href
      have hunknown : state = utf8 "unknown" := by
        by_contra hother
        exact hstates ⟨hknown, hother⟩
      refine ⟨⟨htracker, hrevision, hepoch, ⟨"unknown", by simp, ?_⟩, hdisplay', hface', hscore',
        hthreshold', .inl hrefNil, hdecision⟩, ?_, fun hne => absurd hrefNil hne⟩
      · rw [hunknown]
        rfl
      · simp only [hknown, iff_false, ne_eq, not_not]
        exact ⟨hdisplayNil, hfaceNil, hscoreNil, hthresholdNil, hrefNil⟩
  · rintro ⟨⟨htracker, hrevision, hepoch, ⟨stateText, hstates, hstate⟩, hdisplay', hface', hscore',
      hthreshold', hreference, hdecision⟩, ⟨hdisplayNil, hfaceNil, hscoreNil, hthresholdNil, hrefNil⟩,
      hnorm⟩
    obtain ⟨displayName, hdisplay⟩ := optionalString_succeeds.mpr hdisplay'
    obtain ⟨faceId, hface, huuid⟩ := optionalUuid_succeeds.mpr hface'
    obtain ⟨matchScore, hscore⟩ := optionalFloat_succeeds.mpr hscore'
    obtain ⟨threshold, hthreshold⟩ := optionalFloat_succeeds.mpr hthreshold'
    have hstateText : Object.text stateText = Object.text "known" ↔ stateText = "known" := by
      rw [Object.text, Object.text, Object.str.injEq, utf8_inj]
    rw [hstate, hstateText] at hdisplayNil hfaceNil hscoreNil hthresholdNil hrefNil
    rw [ne_eq, ← optionalString_eq_none hdisplay] at hdisplayNil
    rw [ne_eq, ← optionalString_eq_none hface] at hfaceNil
    rw [ne_eq, ← optionalFloat_eq_none hscore] at hscoreNil
    rw [ne_eq, ← optionalFloat_eq_none hthreshold] at hthresholdNil
    refine ⟨utf8 stateText, stringValue_ok_iff.mpr hstate, ?_, displayName, hdisplay, faceId, hface,
      huuid, matchScore, hscore, threshold, hthreshold, ?_, htracker, hrevision, hepoch, hdecision⟩
    · simp only [List.mem_cons, List.not_mem_nil, or_false] at hstates
      rcases hstates with rfl | rfl <;> simp
    · by_cases hknown : stateText = "known"
      · rw [decodeReference_known (utf8_inj.mpr hknown)]
        simp only [hknown, iff_true] at hdisplayNil hfaceNil hscoreNil hthresholdNil hrefNil
        exact ⟨⟨hdisplayNil, hfaceNil, hscoreNil, hthresholdNil, hrefNil⟩,
          hreference.resolve_left hrefNil, hnorm hrefNil⟩
      · rw [decodeReference_unknown (mt utf8_inj.mp hknown)]
        simp only [hknown, iff_false, not_not, ne_eq] at hdisplayNil hfaceNil hrefNil
        simp only [hknown, iff_false, not_not] at hscoreNil hthresholdNil
        exact ⟨hdisplayNil, hfaceNil, hscoreNil, hthresholdNil, hrefNil⟩

theorem decodeAttribute_succeeds {entry : Native.Text × Object}
    (hv : entry.2.packable = true) :
    (∃ result, decodeAttribute entry = .ok result) ↔
      (entry.1 ∈ attributeKeys.map utf8 ∧ Attribute entry.2) ∧
        AtMost 9223372036854775807 entry.2 := by
  obtain ⟨key, value⟩ := entry
  unfold decodeAttribute
  rw [exists_bind_ok_iff]
  simp only [exists_and_right, exists_failIf_ok_iff, not_not, and_assoc]
  refine and_congr_right fun _ => ?_
  cases value with
  | str bytes =>
      rw [exists_bind_ok_iff]
      simp only [exists_failIf_ok_iff, not_not, exists_pure_ok, and_true]
      constructor
      · intro h
        refine ⟨.inl ⟨bytes, rfl, h⟩, ?_⟩
        rintro n ⟨⟩
      · rintro ⟨⟨other, hother, h⟩ | ⟨n, hn⟩ | ⟨q, hq⟩, -⟩
        · cases hother
          exact h
        · cases hn
        · cases hq
  | integer n =>
      rw [exists_bind_ok_iff]
      simp only [signedInteger_ok_iff, exists_pure_ok, and_true, exists_and_left]
      constructor
      · rintro ⟨hmost, -⟩
        refine ⟨.inr (.inl ⟨n, rfl⟩), fun k hk => ?_⟩
        obtain rfl := Object.integer.inj hk
        exact hmost
      · rintro ⟨-, hmost⟩
        exact ⟨hmost n rfl, _, rfl⟩
  | float x =>
      rw [exists_bind_ok_iff]
      simp only [finiteNumber_ok_iff, exists_pure_ok, and_true]
      cases x with
      | finite q =>
          refine iff_of_true ⟨q, rfl⟩ ⟨.inr (.inr ⟨q, rfl⟩), ?_⟩
          rintro n ⟨⟩
      | _ =>
          refine iff_of_false (by rintro ⟨q, ⟨⟩⟩) ?_
          rintro ⟨⟨other, hother, -⟩ | ⟨n, hn⟩ | ⟨q, hq⟩, -⟩
          · cases hother
          · cases hn
          · cases hq
  | _ =>
      refine iff_of_false (by rintro ⟨result, ⟨⟩⟩) ?_
      rintro ⟨⟨other, hother, -⟩ | ⟨n, hn⟩ | ⟨q, hq⟩, -⟩
      · cases hother
      · cases hn
      · cases hq

theorem length_le_mapSize {value : Object} {values : ObjectMap}
    (h : value.asStringMap = some values) : values.length ≤ value.mapSize := by
  cases value with
  | map entries =>
      have hlength := Object.length_stringEntries_le h
      rw [List.length_nil, Nat.zero_add] at hlength
      exact hlength
  | _ => cases h

/-- The loop over the attributes, with the bounds on their number and their integers. -/
theorem attributes_succeed {value : Object} (hv : value.packable = true)
    (hsize : value.mapSize ≤ 16) :
    (∃ entries, value.asStringMap = some entries ∧
        ∀ entry ∈ entries, ∃ result, decodeAttribute entry = .ok result) ↔
      Attributes value ∧ Values (AtMost 9223372036854775807) value := by
  unfold Attributes Values
  rw [← mapOf_and]
  refine exists_congr fun entries => and_congr_right fun hentries => ?_
  have hattribute (entry : Native.Text × Object) (hentry : entry ∈ entries) :=
    decodeAttribute_succeeds (packable_of_asStringMap hv hentries entry hentry)
  constructor
  · intro h
    exact ⟨⟨(length_le_mapSize hentries).trans hsize, fun entry hentry =>
        ((hattribute entry hentry).mp (h entry hentry)).1⟩,
      fun entry hentry => ((hattribute entry hentry).mp (h entry hentry)).2⟩
  · rintro ⟨⟨-, hvalid⟩, hmost⟩ entry hentry
    exact (hattribute entry hentry).mpr ⟨hvalid entry hentry, hmost entry hentry⟩

/-- The error code of an operation: a stable one, exactly of an error. -/
theorem errorCode_valid {value : Object} {code : Option Native.Text}
    (h : optionalString value = .ok code) :
    (¬ ∃ text ∈ code, stableError (byteCodes text) = false) ↔
      Optional (Matches fun bytes => stableError (byteCodes bytes)) value := by
  unfold optionalString at h
  unfold Optional
  split at h
  · obtain rfl := Except.ok.inj h
    refine iff_of_true ?_ (.inl rfl)
    rintro ⟨text, htext, -⟩
    cases htext
  · rename_i hnil
    obtain ⟨bytes, hbytes, rfl⟩ := map_ok_iff.mp h
    rw [or_iff_right (by exact hnil), stringValue_ok_iff.mp hbytes]
    constructor
    · intro hstable
      refine ⟨bytes, rfl, ?_⟩
      by_contra hnot
      exact hstable ⟨bytes, rfl, Bool.not_eq_true _ ▸ hnot⟩
    · rintro ⟨other, hother, hstable⟩ ⟨text, htext, hnot⟩
      cases hother
      cases htext
      exact Bool.noConfusion (hstable.symm.trans hnot)

theorem decodeNativeOperation_succeeds (hpack : ∀ key, (field values key).packable = true) :
    (∃ event, decodeNativeOperation header values = .ok event) ↔ Body .nativeOperation values := by
  unfold decodeNativeOperation validateFields Body
  rw [exists_validated_iff]
  refine and_congr_right fun hnamed => ?_
  simp (disch := decide) only [required_of_named hnamed, ok_bind, exists_bind_ok_iff,
    exists_and_right, exists_failIf_ok_iff, objectMap_ok_iff, exists_mapM_ok_iff, exists_pure_ok,
    and_true]
  simp only [messageChecks, List.forall_mem_cons, List.not_mem_nil, false_implies,
    implies_true, and_true, Consistent, NativeReads]
  constructor
  · rintro ⟨operation, hoperation, status, hstatus, code, hcode, started, hstarted, ended, hended,
      hvalid, hattributes⟩
    simp only [not_or] at hvalid
    obtain ⟨hknown, hstatuses, horder, herror, hok, hstable, -, hsize⟩ := hvalid
    have hsize : (field values "attributes").mapSize ≤ 16 := not_lt.mp hsize
    obtain ⟨hattributes, hmost⟩ := (attributes_succeed (hpack _) hsize).mp hattributes
    have hstatus_value := stringValue_ok_iff.mp hstatus
    have hcode_nil := optionalString_eq_none hcode
    refine ⟨⟨exists_oneOf_iff.mp ⟨operation, hoperation, hknown⟩,
      (unsigned_succeeds (hpack _)).mp ⟨started, hstarted⟩,
      (unsigned_succeeds (hpack _)).mp ⟨ended, hended⟩, ?_, (errorCode_valid hcode).mp hstable,
      hattributes⟩, ⟨?_, ?_⟩, hsize, hmost⟩
    · by_cases hstatus_ok : status = utf8 "ok"
      · exact ⟨"ok", by simp, hstatus_value.trans (congrArg _ hstatus_ok)⟩
      · refine ⟨"error", by simp, hstatus_value.trans (congrArg _ ?_)⟩
        by_contra hother
        exact hstatuses ⟨hstatus_ok, hother⟩
    · intro s e hs he
      rw [((unsignedInteger_ok_iff (hpack _)).mp hstarted).1] at hs
      rw [((unsignedInteger_ok_iff (hpack _)).mp hended).1] at he
      obtain rfl := Object.integer.inj hs
      obtain rfl := Object.integer.inj he
      rw [UInt64.not_lt, UInt64.le_iff_toNat_le] at horder
      exact_mod_cast horder
    · rw [hstatus_value, ne_eq, ← hcode_nil, Object.text, Object.str.injEq]
      constructor
      · intro hsome
        by_contra hother
        have hstatus_ok : status = utf8 "ok" := by
          by_contra hnot
          exact hstatuses ⟨hnot, hother⟩
        exact hok ⟨hstatus_ok, hsome⟩
      · intro herror_status hnone
        exact herror ⟨herror_status, hnone⟩
  · rintro ⟨⟨hoperation, hstarted, hended, ⟨statusText, hstatuses, hstatus⟩, hcode, hattributes⟩,
      ⟨horder, herror⟩, hsize, hmost⟩
    obtain ⟨operation, hoperation, hknown⟩ := exists_oneOf_iff.mpr hoperation
    obtain ⟨started, hstarted⟩ := (unsigned_succeeds (hpack _)).mpr hstarted
    obtain ⟨ended, hended⟩ := (unsigned_succeeds (hpack _)).mpr hended
    obtain ⟨entries, hentries, hvalid⟩ :=
      (attributes_succeed (hpack _) hsize).mpr ⟨hattributes, hmost⟩
    obtain ⟨code, hcode'⟩ := optionalString_succeeds.mpr
      (hcode.imp_right (Exists.imp fun _ => And.left))
    have hcode_nil := optionalString_eq_none hcode'
    rw [hstatus, ne_eq, ← hcode_nil, Object.text, Object.text, Object.str.injEq, utf8_inj] at herror
    refine ⟨operation, hoperation, utf8 statusText, stringValue_ok_iff.mpr hstatus, code, hcode',
      started, hstarted, ended, hended, ?_, entries, hentries, hvalid⟩
    simp only [not_or]
    refine ⟨hknown, ?_, ?_, ?_, ?_, (errorCode_valid hcode').mpr hcode, ?_, not_lt.mpr hsize⟩
    · simp only [List.mem_cons, List.not_mem_nil, or_false] at hstatuses
      rcases hstatuses with rfl | rfl <;> simp
    · rw [UInt64.not_lt, UInt64.le_iff_toNat_le]
      exact_mod_cast horder _ _ ((unsignedInteger_ok_iff (hpack _)).mp hstarted).1
        ((unsignedInteger_ok_iff (hpack _)).mp hended).1
    · rintro ⟨hstatus_error, hnone⟩
      exact herror.mpr (utf8_inj.mp hstatus_error) hnone
    · rintro ⟨hstatus_ok, hsome⟩
      have hstatus_error := herror.mp hsome
      rw [hstatus_error, utf8_inj] at hstatus_ok
      exact absurd hstatus_ok (by decide)
    · rw [isMap_of_asStringMap hentries]
      simp

/-! ## The header -/

theorem version_succeeds {value : Object} (hv : value.packable = true) :
    (∃ n, unsignedInteger value 1 = .ok n ∧ ¬ n ≠ liveProtocolVersion) ↔ value = .integer 2 := by
  simp only [unsignedInteger_ok_iff hv, not_not]
  constructor
  · rintro ⟨n, ⟨rfl, -⟩, rfl⟩
    rfl
  · rintro rfl
    exact ⟨2, ⟨rfl, by decide⟩, rfl⟩

theorem messageType_succeeds {value : Object} :
    (∃ text, stringValue value = .ok text ∧ ¬ text ∉ knownTypes.map utf8) ↔
      ∃ type : MessageType, value = .text type.text := by
  rw [exists_oneOf_iff]
  constructor
  · rintro ⟨text, htext, rfl⟩
    have hall : ∀ text ∈ knownTypes, ∃ type ∈ Protocol.messageTypes, type.text = text := by
      decide
    obtain ⟨type, -, rfl⟩ := hall text htext
    exact ⟨type, rfl⟩
  · rintro ⟨type, rfl⟩
    refine ⟨type.text, ?_, rfl⟩
    cases type <;> decide

theorem traceContext_succeeds {parent state : Object} :
    (∃ traceparent, stringValue parent = .ok traceparent ∧
        ∃ tracestate, optionalString state = .ok tracestate ∧
          ∃ u, validateTraceContext traceparent tracestate = .ok u) ↔
      Matches (fun bytes => traceparentValid (byteCodes bytes)) parent ∧
        Optional (Matches tracestateValid) state := by
  have hvalid (traceparent : Native.Text) (tracestate : Option Native.Text) :
      (∃ u, validateTraceContext traceparent tracestate = .ok u) ↔
        traceparentValid (byteCodes traceparent) = true ∧
          ∀ text ∈ tracestate, tracestateValid text = true := by
    unfold validateTraceContext
    split
    · rename_i hparent
      exact iff_of_false nofun fun h => hparent h.1
    · rename_i hparent
      cases tracestate with
      | none => exact iff_of_true ⟨(), rfl⟩ ⟨not_not.mp hparent, nofun⟩
      | some text =>
          dsimp only
          split
          · rename_i htext
            refine iff_of_true ⟨(), rfl⟩ ⟨not_not.mp hparent, fun other hother => ?_⟩
            rw [← Option.some.inj hother]
            exact htext
          · rename_i htext
            exact iff_of_false nofun fun h => htext (h.2 text rfl)
  simp only [hvalid]
  constructor
  · rintro ⟨traceparent, hparent, tracestate, hstate, hparent_valid, hstate_valid⟩
    refine ⟨⟨traceparent, stringValue_ok_iff.mp hparent, hparent_valid⟩, ?_⟩
    unfold optionalString at hstate
    split at hstate
    · exact .inl rfl
    · obtain ⟨text, htext, rfl⟩ := map_ok_iff.mp hstate
      exact .inr ⟨text, stringValue_ok_iff.mp htext, hstate_valid text rfl⟩
  · rintro ⟨⟨traceparent, rfl, hparent_valid⟩, rfl | ⟨text, rfl, htext⟩⟩
    · exact ⟨traceparent, rfl, none, rfl, hparent_valid, nofun⟩
    · refine ⟨traceparent, rfl, some text, rfl, hparent_valid, fun other hother => ?_⟩
      rw [← Option.some.inj hother]
      exact htext

theorem decodeHeader_succeeds
    (hread : ∀ name ∈ headerFields, required values name = .ok (field values name))
    (hpack : ∀ key, (field values key).packable = true) :
    (∃ header, decodeHeader values = .ok header) ↔
      (∃ type : MessageType, field values "message_type" = .text type.text) ∧
        ∀ check ∈ headerChecks, check.2 (field values check.1) := by
  unfold decodeHeader
  simp (disch := decide) only [hread, ok_bind, exists_bind_ok_iff, exists_and_right,
    exists_failIf_ok_iff, uuidValue_succeeds, unsigned_succeeds (hpack _),
    positive_succeeds (hpack _), exists_pure_ok, and_true]
  simp only [← and_assoc, exists_and_right, version_succeeds (hpack _), messageType_succeeds,
    traceContext_succeeds]
  simp only [headerChecks, List.forall_mem_cons, List.not_mem_nil, false_implies, implies_true,
    and_true]
  constructor
  · rintro ⟨⟨⟨⟨⟨⟨⟨⟨⟨hversion, type, htype⟩, hparent⟩, hstate⟩, hsession⟩, hcamera⟩, hrun⟩, hgeneration⟩,
      hattempt⟩, hsequence⟩
    exact ⟨⟨type, htype⟩, hversion, ⟨_, htype⟩, hsession, hcamera, hrun, hgeneration, hattempt,
      hsequence, hparent, hstate⟩
  · rintro ⟨htype, hversion, -, hsession, hcamera, hrun, hgeneration, hattempt, hsequence, hparent,
      hstate⟩
    exact ⟨⟨⟨⟨⟨⟨⟨⟨⟨hversion, htype⟩, hparent⟩, hstate⟩, hsession⟩, hcamera⟩, hrun⟩, hgeneration⟩,
      hattempt⟩, hsequence⟩

theorem required_ok_iff {name : String} {value : Object} :
    required values name = .ok value ↔ values.lookup (utf8 name) = some value := by
  unfold required
  split
  · rename_i other hother
    rw [hother, Except.ok.injEq, Option.some.injEq]
  · rename_i hnone
    rw [hnone]
    exact iff_of_false nofun nofun

/-- The type of a header is the one of the payload. -/
theorem decodeHeader_type (h : decodeHeader values = .ok header) :
    field values "message_type" = .str header.messageType ∧
      header.messageType ∈ knownTypes.map utf8 := by
  unfold decodeHeader at h
  simp only [bind_ok_iff, failIf_ok_iff, required_ok_iff, stringValue_ok_iff] at h
  obtain ⟨-, -, version, -, -, -, value, hvalue, text, rfl, -, hknown, traceparent, -, parent, -,
    tracestate, -, state, -, -, -, session, -, sessionId, -, camera, -, cameraId, -, run, -, runId,
    -, generation, -, generationNumber, -, attempt, -, attemptNumber, -, sequence, -, number, -,
    hheader⟩ := h
  obtain rfl := Except.ok.inj hheader
  rw [field, hvalue]
  exact ⟨rfl, not_not.mp hknown⟩

/-! ## The payload -/

theorem exists_known {text : Native.Text} (h : text ∈ knownTypes.map utf8) :
    ∃ type : MessageType, text = utf8 type.text := by
  obtain ⟨type, htype⟩ :=
    messageType_succeeds.mp ⟨text, stringValue_ok_iff.mpr rfl, not_not.mpr h⟩
  exact ⟨type, Object.str.inj htype⟩

/-- The branch of `decode_payload` for a type. -/
def decodeBody (type : MessageType) (header : ProtocolHeader) (values : ObjectMap) :
    Except String LiveMessage :=
  match type with
  | .start => .start <$> decodeStart header values
  | .identityAssignment => .identityAssignment <$> decodeIdentityAssignment header values
  | .stop => .stop <$> decodeStop header values
  | .hello => .hello <$> decodeHello header values
  | .state => .state <$> decodeState header values
  | .outputReady => .outputReady <$> decodeOutputReady header values
  | .trackEvidence => .trackEvidence <$> decodeTrackEvidence header values
  | .trackExpired => .trackExpired <$> decodeTrackExpired header values
  | .metrics => .metrics <$> decodeMetrics header values
  | .failed => .failed <$> decodeFailed header values
  | .stopped => .stopped <$> decodeStopped header values
  | .nativeOperation => .nativeOperation <$> decodeNativeOperation header values

theorem decodePayload_eq {type : MessageType} (hheader : decodeHeader values = .ok header)
    (htype : header.messageType = utf8 type.text) :
    decodePayload values = decodeBody type header values := by
  unfold decodePayload
  rw [hheader, ok_bind]
  dsimp only
  rw [htype]
  cases type <;> simp only [MessageType.text, utf8_inj, String.reduceEq, if_true, if_false] <;> rfl

theorem decodeBody_succeeds (hpack : ∀ key, (field values key).packable = true)
    (type : MessageType) :
    (∃ message, decodeBody type header values = .ok message) ↔ Body type values := by
  cases type with
  | start => exact exists_map_ok_iff.trans (decodeStart_succeeds hpack)
  | identityAssignment => exact exists_map_ok_iff.trans (decodeIdentityAssignment_succeeds hpack)
  | stop => exact exists_map_ok_iff.trans (decodeStop_succeeds hpack)
  | hello => exact exists_map_ok_iff.trans decodeHello_succeeds
  | state => exact exists_map_ok_iff.trans decodeState_succeeds
  | outputReady => exact exists_map_ok_iff.trans decodeOutputReady_succeeds
  | trackEvidence => exact exists_map_ok_iff.trans (decodeTrackEvidence_succeeds hpack)
  | trackExpired => exact exists_map_ok_iff.trans (decodeTrackExpired_succeeds hpack)
  | metrics => exact exists_map_ok_iff.trans (decodeMetrics_succeeds hpack)
  | failed => exact exists_map_ok_iff.trans decodeFailed_succeeds
  | stopped => exact exists_map_ok_iff.trans (decodeStopped_succeeds hpack)
  | nativeOperation => exact exists_map_ok_iff.trans (decodeNativeOperation_succeeds hpack)

/-- The header of an accepted payload, with the type that decides the branch. -/
theorem decodePayload_cases {message : LiveMessage} (h : decodePayload values = .ok message) :
    ∃ header type, decodeHeader values = .ok header ∧ header.messageType = utf8 type.text ∧
      field values "message_type" = .text type.text ∧
      decodeBody type header values = .ok message := by
  have hpayload := h
  unfold decodePayload at h
  obtain ⟨header, hheader, -⟩ := bind_ok_iff.mp h
  obtain ⟨hfield, hknown⟩ := decodeHeader_type hheader
  obtain ⟨type, htype⟩ := exists_known hknown
  rw [htype] at hfield
  exact ⟨header, type, hheader, htype, hfield, decodePayload_eq hheader htype ▸ hpayload⟩

theorem header_names (type : MessageType) :
    ∀ name ∈ headerFields, name ∈ (headerChecks ++ messageChecks type).map Prod.fst := by
  intro name hname
  rw [List.map_append, List.mem_append]
  exact .inl hname

/-- The worker accepts the payloads of the wire format that pass its own checks. -/
theorem decodePayload_succeeds (hpack : ∀ key, (field values key).packable = true) :
    (∃ message, decodePayload values = .ok message) ↔
      ∃ type, Message type values ∧ NativeReads type values := by
  constructor
  · rintro ⟨message, hmessage⟩
    obtain ⟨header, type, hheader, htype, hfield, hbody⟩ := decodePayload_cases hmessage
    obtain ⟨hnamed, hchecks, hconsistent, hnative⟩ :=
      (decodeBody_succeeds hpack type).mp ⟨message, hbody⟩
    have hread : ∀ name ∈ headerFields, required values name = .ok (field values name) :=
      fun name hname => required_of_named hnamed (header_names type name hname)
    obtain ⟨-, hheaderChecks⟩ := (decodeHeader_succeeds hread hpack).mp ⟨header, hheader⟩
    exact ⟨type, ⟨hfield, ⟨hnamed, List.forall_mem_append.mpr ⟨hheaderChecks, hchecks⟩⟩,
      hconsistent⟩, hnative⟩
  · rintro ⟨type, ⟨hfield, ⟨hnamed, hchecks⟩, hconsistent⟩, hnative⟩
    obtain ⟨hheaderChecks, hchecks⟩ := List.forall_mem_append.mp hchecks
    have hread : ∀ name ∈ headerFields, required values name = .ok (field values name) :=
      fun name hname => required_of_named hnamed (header_names type name hname)
    obtain ⟨header, hheader⟩ :=
      (decodeHeader_succeeds hread hpack).mpr ⟨⟨type, hfield⟩, hheaderChecks⟩
    have htype : header.messageType = utf8 type.text :=
      Object.str.inj ((decodeHeader_type hheader).1.symm.trans hfield)
    rw [decodePayload_eq hheader htype]
    exact (decodeBody_succeeds hpack type).mpr ⟨hnamed, hchecks, hconsistent, hnative⟩

end Messages

end Mvision.Live.Native
