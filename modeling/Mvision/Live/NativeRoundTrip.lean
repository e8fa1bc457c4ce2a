import Mvision.Live.NativeEncoder

/-!
# A struct that is encoded and decoded

What the worker reads of the fields that it has packed.  A double of an attribute that the
packer has written as an integer is read as an integer, and a JPEG from 2^32 bytes on is cut.
-/

namespace Mvision.Live.Native

open Mvision.Library Mvision.Live.Wire

/-! ## Values -/

section Values

variable {value : Object}

theorem returns_text {text : Text} (h : value = (Packed.text text).object) :
    Returns (stringValue value) text := by
  rw [h]
  exact ensures_ok rfl

theorem returns_optionalString {text : Option Text} (h : value = (packOptionalString text).object) :
    Returns (optionalString value) text := by
  rw [h]
  cases text with
  | none => exact ensures_ok rfl
  | some text => exact returns_map (returns_text rfl)

theorem returns_uuid {text : Text} (h : value = (Packed.text text).object) :
    Returns (uuidValue value) text := by
  refine returns_bind (returns_text h) ?_
  split
  · exact ensures_ok rfl
  · exact ensures_error _

theorem returns_boolean {flag : Bool} (h : value = (Packed.boolean flag).object) :
    Returns (booleanValue value) flag := by
  rw [h]
  exact ensures_ok rfl

theorem returns_unsigned {n : Nat} {u minimum : UInt64} (hn : n = u.toNat)
    (h : value = (packUnsigned n).object) : Returns (unsignedInteger value minimum) u := by
  rw [h, hn]
  intro other hother
  obtain ⟨-, hequal⟩ := (unsignedInteger_natural_ok_iff u.toNat_lt).mp hother
  rw [← hequal]
  exact UInt64.ofNat_toNat

theorem returns_uint64 {n minimum : UInt64} (h : value = (packUnsigned n.toNat).object) :
    Returns (unsignedInteger value minimum) n := returns_unsigned rfl h

theorem returns_uint32 {n : UInt32} {minimum : UInt64}
    (h : value = (packUnsigned n.toNat).object) :
    Returns (unsignedInteger value minimum) n.toUInt64 :=
  returns_unsigned (UInt32.toNat_toUInt64 n).symm h

theorem returns_uint16 {n : UInt16} {minimum : UInt64}
    (h : value = (packUnsigned n.toNat).object) :
    Returns (unsignedInteger value minimum) n.toUInt64 :=
  returns_unsigned (UInt16.toNat_toUInt64 n).symm h

theorem returns_int64 {n : Int64} (h : value = (Packed.integer n.toInt).object) :
    Returns (signedInteger value) n := by
  rw [h]
  intro other hother
  rw [← (signedInteger_ok_iff.mp hother).2]
  exact Int64.ofInt_toInt n

theorem returns_int32 {n : Int32} (h : value = (Packed.integer n.toInt).object) :
    Returns (signedInteger value) n.toInt64 :=
  returns_int64 (by rw [h, Int32.toInt_toInt64])

/-! ### Floats -/

variable {packing : FloatPacking} {x : FloatValue}

/-- The number of a float is read from the float and from the integer. -/
theorem numberOf_object {q : ℚ} (hx : binary64.Has 11 (.finite q)) :
    numberOf (packing.object (.finite q)) = some q := by
  unfold FloatPacking.object
  dsimp only
  split
  · rename_i n hn
    unfold numberOf
    dsimp only
    rw [packing.exact hn, FloatFormat.round_of_has FloatFormat.spans_binary64 hx]
  · rfl

theorem ensures_finiteNumber (hx : binary64.Has 11 x) (h : value = packing.object x) :
    Ensures (fun q => x = .finite q) (finiteNumber value) := by
  rw [h]
  intro q hq
  rw [finiteNumber_ok_iff] at hq
  cases x with
  | finite r =>
      rw [numberOf_object hx] at hq
      rw [Option.some.inj hq]
  | infinite negative => cases hq
  | nan => cases hq

theorem ensures_double (hx : binary64.Has 11 x) (h : value = (packDouble packing x).object) :
    Ensures (fun q => x = .finite q) (finiteNumber value) := ensures_finiteNumber hx h

theorem ensures_float (hx : binary32.Has 8 x) (h : value = (packFloat packing x).object) :
    Ensures (fun q => toFloat q = x) (finiteNumber value) := by
  intro q hq
  have hvalue := ensures_finiteNumber (has_double hx) h q hq
  subst hvalue
  exact FloatFormat.round_of_has FloatFormat.spans_binary32 hx

theorem returns_optionalFloat {x : Option FloatValue} (hx : ∀ y ∈ x, binary32.Has 8 y)
    (h : value = (Packed.optional (packFloat packing) x).object) :
    Returns (optionalFloat value) x := by
  rw [h]
  cases x with
  | none => exact ensures_ok rfl
  | some x =>
      have hread : Ensures (fun q => toFloat q = x)
          (finiteNumber (packFloat packing x).object) := ensures_float (hx x rfl) rfl
      show Returns (optionalFloat (packFloat packing x).object) (some x)
      unfold optionalFloat
      split
      · rename_i hnil
        exact absurd hnil (packing.object_ne_nil x)
      · exact hread.map fun _ hq => congrArg some hq

theorem returns_floatArray {size : Nat} {values : List FloatValue} {code : String}
    (hvalues : Floats size values) (h : value = (packFloatArray packing size values).object) :
    Returns (floatArray size value code) values := by
  rw [h]
  unfold floatArray packFloatArray Packed.array
  dsimp only
  split
  · exact ensures_error _
  · refine returns_mapM ?_
    rw [List.map_map, List.forall₂_map_left_iff]
    exact List.forall₂_same.mpr fun x hx => (ensures_float (hvalues.2 x hx) rfl).map fun _ hq => hq

end Values

/-! ## Maps -/

/-- The objects of a list of fields. -/
def objects (fields : List (String × Packed)) : List (String × Object) :=
  fields.map fun entry => (entry.1, entry.2.object)

theorem asStringMap_packed {size : Nat} {fields : List (String × Packed)}
    (h : ((objects fields).map Prod.fst).Nodup) :
    (Packed.fields size fields).object.asStringMap = some (readMap (objects fields)) := by
  rw [Packed.fields_object]
  exact Object.asStringMap_fields h

/-- The entries of a `std::map` are read as they were written. -/
theorem asStringMap_mapping {α : Type} {pack : α → Packed} {entries : List (Text × α)}
    (h : Mapping entries) : (packMapping pack entries).object.asStringMap =
      some (entries.map fun entry => (entry.1, (pack entry.2).object)) := by
  have hkeys : ((entries.map fun entry => (entry.1, (pack entry.2).object)).map
      Prod.fst).Nodup := by
    rw [List.map_map]
    exact h
  have htexts := Object.asStringMap_texts hkeys
  rw [List.map_map] at htexts
  show (Object.map (List.map _ (List.map _ entries))).asStringMap = _
  rw [List.map_map]
  exact htexts

theorem returns_objectMap {value : Object} {values : ObjectMap} {code : String}
    (h : value.asStringMap = some values) : Returns (objectMap value code) values := by
  rw [objectMap_ok_iff.mpr h]
  exact ensures_ok rfl

theorem ensures_mapValues {α β : Type} {read : Object → Except String β} (pack : α → Packed)
    (R : α → β → Prop) {entries : List (Text × α)}
    (h : ∀ entry ∈ entries, Ensures (R entry.2) (read (pack entry.2).object)) :
    Ensures (List.Forall₂ (fun entry result => result.1 = entry.1 ∧ R entry.2 result.2) entries)
      (mapValues read (entries.map fun entry => (entry.1, (pack entry.2).object))) := by
  refine ensures_mapM ?_
  rw [List.forall₂_map_left_iff]
  exact List.forall₂_same.mpr fun entry hentry => (h entry hentry).map fun _ hread => ⟨rfl, hread⟩

/-! ## Messages -/

/-- A double that is written as an integer is read as one. -/
def NativeAttribute.written (packing : FloatPacking) : NativeAttribute → NativeAttribute
  | .number (.finite q) =>
      match packing.asInteger q with
      | some n => .integer (Int64.ofInt n)
      | none => .number (.finite q)
  | item => item

/-- The message that the bytes of a message stand for. -/
def LiveMessage.written (packing : FloatPacking) : LiveMessage → LiveMessage
  | .trackEvidence value =>
      .trackEvidence { value with
        representativeAlignedJpeg :=
          value.representativeAlignedJpeg.take
            (value.representativeAlignedJpeg.length % 4294967296) }
  | .nativeOperation value =>
      .nativeOperation { value with
        attributes := value.attributes.map fun entry => (entry.1, entry.2.written packing) }
  | message => message

section Messages

variable {packing : FloatPacking} {values : ObjectMap} {header : ProtocolHeader}

theorem returns_header {value : ProtocolHeader}
    (hread : ∀ name ∈ headerFields, required values name = .ok (field values name))
    (hfields : Holds values (objects value.packed)) : Returns (decodeHeader values) value := by
  simp only [Holds, objects, ProtocolHeader.packed, List.forall_mem_map,
    List.forall_mem_cons] at hfields
  obtain ⟨hversion, htype, hsession, hcamera, hrun, hgeneration, hattempt, hsequence, hparent,
    hstate, -⟩ := hfields
  unfold decodeHeader
  simp (disch := decide) only [hread, ok_bind]
  refine returns_bind (returns_uint32 hversion) ?_
  refine ensures_after fun _ => ?_
  refine returns_bind (returns_text htype) ?_
  refine ensures_after fun _ => ?_
  refine returns_bind (returns_text hparent) ?_
  refine returns_bind (returns_optionalString hstate) ?_
  refine ensures_after fun _ => ?_
  refine returns_bind (returns_uuid hsession) ?_
  refine returns_bind (returns_uuid hcamera) ?_
  refine returns_bind (returns_uuid hrun) ?_
  refine returns_bind (returns_uint64 hgeneration) ?_
  refine returns_bind (returns_uint64 hattempt) ?_
  refine returns_bind (returns_uint64 hsequence) ?_
  refine ensures_pure ?_
  rw [UInt32.toUInt32_toUInt64]

theorem returns_observation {value : LiveObservation} (htyped : value.Typed) :
    Returns (decodeObservation (packObservation packing value).object) value := by
  have hnamed : Named observationFields (readMap (objects (value.packed packing))) :=
    named_readMap (objects (value.packed packing))
  have hunique : ((objects (value.packed packing)).map Prod.fst).Nodup :=
    show observationFields.Nodup by decide
  have hfields := holds_readMap hunique
  simp only [Holds, objects, LiveObservation.packed, List.forall_mem_map,
    List.forall_mem_cons] at hfields
  obtain ⟨htime, hbbox, hdetector, hlandmarks, hconfidences, hquality, hmask, hembedding, -⟩ :=
    hfields
  refine returns_bind (returns_objectMap (asStringMap_packed hunique)) ?_
  simp (disch := decide) only [required_of_named hnamed, ok_bind]
  refine ensures_after fun _ => ?_
  refine returns_bind (returns_uint64 htime) ?_
  refine returns_bind (returns_floatArray htyped.bbox hbbox) ?_
  refine (ensures_float htyped.detectorConfidence hdetector).bind fun detector hdetector => ?_
  refine returns_bind (returns_floatArray htyped.landmarks hlandmarks) ?_
  refine returns_bind (returns_floatArray htyped.landmarkConfidences hconfidences) ?_
  refine (ensures_float htyped.qualityScore hquality).bind fun quality hquality => ?_
  refine returns_bind (returns_uint64 hmask) ?_
  refine returns_bind (returns_floatArray htyped.embedding hembedding) ?_
  refine ensures_after fun _ => ?_
  refine ensures_pure ?_
  rw [hdetector, hquality]

theorem returns_attribute {key : Text} {item : NativeAttribute} (htyped : item.Typed) :
    Returns (decodeAttribute (key, (packAttribute packing item).object))
      (key, item.written packing) := by
  refine ensures_after fun _ => ?_
  cases item with
  | text value =>
      refine ensures_after fun _ => ?_
      exact ensures_pure rfl
  | integer value =>
      refine returns_bind (returns_int64 rfl) ?_
      exact ensures_pure rfl
  | number x =>
      dsimp only [packAttribute, packDouble, Packed.float]
      cases x with
      | finite q =>
          cases hwhole : packing.asInteger q with
          | some n =>
              have hwritten : (NativeAttribute.number (.finite q)).written packing =
                  .integer (Int64.ofInt n) := by
                rw [NativeAttribute.written, hwhole]
              rw [packing.object_of_some hwhole, hwritten]
              refine Ensures.bind (P := (· = Int64.ofInt n)) ?_ fun _ hn => hn ▸ ensures_pure rfl
              exact fun _ hn => (signedInteger_ok_iff.mp hn).2.symm
          | none =>
              have hwritten : (NativeAttribute.number (.finite q)).written packing =
                  .number (.finite q) := by
                rw [NativeAttribute.written, hwhole]
              rw [packing.object_of_none hwhole, hwritten]
              exact ensures_pure rfl
      | infinite negative => exact ensures_error _
      | nan => exact ensures_error _

theorem returns_start {value : StartCommand} (htyped : value.Typed)
    (hnamed : Named (names .start) values)
    (hfields : Holds values (objects (value.packed packing))) :
    Returns (decodeStart header values) { value with header := header } := by
  simp only [Holds, objects, StartCommand.packed, List.forall_mem_map,
    List.forall_mem_cons] at hfields
  obtain ⟨huri, hgpu, hpgie, hpreprocess, hsgie, htracker, hmount, hudp, hrtsp, hprofile, hmode,
    hsample, hdetector, hrecognition, hmargin, hgap, hlatency, hinterval, hattempts, htimeout,
    hrecording, hannotated, -⟩ := hfields
  unfold decodeStart
  simp (disch := decide) only [required_of_named hnamed, ok_bind]
  refine ensures_after fun _ => ?_
  refine returns_bind (returns_uint16 hudp) ?_
  refine returns_bind (returns_uint16 hrtsp) ?_
  refine returns_bind (returns_uint32 hprofile) ?_
  refine returns_bind (returns_uint32 hsample) ?_
  refine returns_bind (returns_uint32 hlatency) ?_
  refine returns_bind (returns_uint32 hinterval) ?_
  refine ensures_after fun _ => ?_
  refine returns_bind (returns_int32 hattempts) ?_
  refine ensures_after fun _ => ?_
  refine returns_bind (returns_text hmode) ?_
  refine ensures_after fun _ => ?_
  refine (ensures_double htyped.detectorThreshold hdetector).bind fun detector hdetector => ?_
  refine (ensures_double htyped.recognitionThreshold hrecognition).bind
    fun recognition hrecognition => ?_
  refine (ensures_double htyped.top2Margin hmargin).bind fun margin hmargin => ?_
  refine ensures_after fun _ => ?_
  refine returns_bind (returns_boolean hrecording) ?_
  refine returns_bind (returns_boolean hannotated) ?_
  refine returns_bind (returns_text huri) ?_
  refine returns_bind (returns_uint32 hgpu) ?_
  refine returns_bind (returns_text hpgie) ?_
  refine returns_bind (returns_text hpreprocess) ?_
  refine returns_bind (returns_text hsgie) ?_
  refine returns_bind (returns_text htracker) ?_
  refine returns_bind (returns_text hmount) ?_
  refine returns_bind (returns_uint64 hgap) ?_
  refine returns_bind (returns_uint64 htimeout) ?_
  refine ensures_pure ?_
  simp only [UInt16.toUInt16_toUInt64, UInt32.toUInt32_toUInt64, Int32.toInt32_toInt64,
    ← hdetector, ← hrecognition, ← hmargin]

theorem returns_stop {value : StopCommand} (hnamed : Named (names .stop) values)
    (hfields : Holds values (objects value.packed)) :
    Returns (decodeStop header values) { value with header := header } := by
  simp only [Holds, objects, StopCommand.packed, List.forall_mem_map,
    List.forall_mem_cons] at hfields
  obtain ⟨hreason, hdeadline, -⟩ := hfields
  unfold decodeStop
  simp (disch := decide) only [required_of_named hnamed, ok_bind]
  refine ensures_after fun _ => ?_
  refine returns_bind (returns_text hreason) ?_
  refine returns_bind (returns_uint64 hdeadline) ?_
  exact ensures_pure rfl

theorem returns_hello {value : HelloEvent} (hnamed : Named (names .hello) values)
    (hfields : Holds values (objects value.packed)) :
    Returns (decodeHello header values) { value with header := header } := by
  simp only [Holds, objects, HelloEvent.packed, List.forall_mem_map,
    List.forall_mem_cons] at hfields
  obtain ⟨hbuild, hgstreamer, hdeepstream, -⟩ := hfields
  unfold decodeHello
  simp (disch := decide) only [required_of_named hnamed, ok_bind]
  refine ensures_after fun _ => ?_
  refine returns_bind (returns_text hbuild) ?_
  refine returns_bind (returns_text hgstreamer) ?_
  refine returns_bind (returns_text hdeepstream) ?_
  exact ensures_pure rfl

theorem returns_state {value : StateEvent} (hnamed : Named (names .state) values)
    (hfields : Holds values (objects value.packed)) :
    Returns (decodeState header values) { value with header := header } := by
  simp only [Holds, objects, StateEvent.packed, List.forall_mem_map,
    List.forall_mem_cons] at hfields
  obtain ⟨hstate, hreason, -⟩ := hfields
  unfold decodeState
  simp (disch := decide) only [required_of_named hnamed, ok_bind]
  refine ensures_after fun _ => ?_
  refine returns_bind (returns_text hstate) ?_
  refine ensures_after fun _ => ?_
  refine returns_bind (returns_optionalString hreason) ?_
  exact ensures_pure rfl

theorem returns_outputReady {value : OutputReadyEvent} (hnamed : Named (names .outputReady) values)
    (hfields : Holds values (objects value.packed)) :
    Returns (decodeOutputReady header values) { value with header := header } := by
  simp only [Holds, objects, OutputReadyEvent.packed, List.forall_mem_map,
    List.forall_mem_cons] at hfields
  obtain ⟨hmount, hcodec, hcaps, -⟩ := hfields
  unfold decodeOutputReady
  simp (disch := decide) only [required_of_named hnamed, ok_bind]
  refine ensures_after fun _ => ?_
  refine returns_bind (returns_text hmount) ?_
  refine returns_bind (returns_text hcodec) ?_
  refine returns_bind (returns_text hcaps) ?_
  exact ensures_pure rfl

theorem returns_failed {value : FailedEvent} (hnamed : Named (names .failed) values)
    (hfields : Holds values (objects value.packed)) :
    Returns (decodeFailed header values) { value with header := header } := by
  simp only [Holds, objects, FailedEvent.packed, List.forall_mem_map,
    List.forall_mem_cons] at hfields
  obtain ⟨hcode, hmessage, -⟩ := hfields
  unfold decodeFailed
  simp (disch := decide) only [required_of_named hnamed, ok_bind]
  refine ensures_after fun _ => ?_
  refine returns_bind (returns_text hcode) ?_
  refine returns_bind (returns_text hmessage) ?_
  exact ensures_pure rfl

theorem returns_trackExpired {value : TrackExpiredEvent}
    (hnamed : Named (names .trackExpired) values) (hfields : Holds values (objects value.packed)) :
    Returns (decodeTrackExpired header values) { value with header := header } := by
  simp only [Holds, objects, TrackExpiredEvent.packed, List.forall_mem_map,
    List.forall_mem_cons] at hfields
  obtain ⟨htracker, hrevision, hfirst, hlast, hreason, -⟩ := hfields
  unfold decodeTrackExpired
  simp (disch := decide) only [required_of_named hnamed, ok_bind]
  refine ensures_after fun _ => ?_
  refine returns_bind (returns_uint64 htracker) ?_
  refine returns_bind (returns_uint64 hrevision) ?_
  refine returns_bind (returns_uint64 hfirst) ?_
  refine returns_bind (returns_uint64 hlast) ?_
  refine returns_bind (returns_text hreason) ?_
  exact ensures_pure rfl

theorem returns_stopped {value : StoppedEvent} (hnamed : Named (names .stopped) values)
    (hfields : Holds values (objects value.packed)) :
    Returns (decodeStopped header values) { value with header := header } := by
  simp only [Holds, objects, StoppedEvent.packed, List.forall_mem_map,
    List.forall_mem_cons] at hfields
  obtain ⟨hdecoded, hemitted, hdropped, hclean, hreason, -⟩ := hfields
  unfold decodeStopped
  simp (disch := decide) only [required_of_named hnamed, ok_bind]
  refine ensures_after fun _ => ?_
  refine returns_bind (returns_boolean hclean) ?_
  refine returns_bind (returns_uint64 hdecoded) ?_
  refine returns_bind (returns_uint64 hemitted) ?_
  refine returns_bind (returns_uint64 hdropped) ?_
  refine returns_bind (returns_text hreason) ?_
  exact ensures_pure rfl

theorem returns_items {items : List Packed} {size : Nat} {value : Object}
    (h : value = (Packed.array size items).object) :
    Returns (observationItems value) (items.map Packed.object) := by
  rw [h]
  unfold observationItems Packed.array
  dsimp only
  split
  · exact ensures_error _
  · exact ensures_ok rfl

theorem returns_jpeg {jpeg : List UInt8} {value : Object} (h : value = (packJpeg jpeg).object) :
    Returns (jpegBytes value) (jpeg.take (jpeg.length % 4294967296)) := by
  rw [h]
  unfold jpegBytes packJpeg Packed.bin
  dsimp only
  split
  · exact ensures_error _
  · exact ensures_ok rfl

theorem returns_trackEvidence {value : TrackEvidenceEvent}
    (htyped : ∀ observation ∈ value.observations, observation.Typed)
    (hnamed : Named (names .trackEvidence) values)
    (hfields : Holds values (objects (value.packed packing))) :
    Returns (decodeTrackEvidence header values) { value with
      header := header
      representativeAlignedJpeg :=
        value.representativeAlignedJpeg.take
          (value.representativeAlignedJpeg.length % 4294967296) } := by
  simp only [Holds, objects, TrackEvidenceEvent.packed, List.forall_mem_map,
    List.forall_mem_cons] at hfields
  obtain ⟨htracker, hrevision, hfirst, hlast, hobservations, hjpeg, -⟩ := hfields
  unfold decodeTrackEvidence
  simp (disch := decide) only [required_of_named hnamed, ok_bind]
  refine ensures_after fun _ => ?_
  refine returns_bind (returns_items hobservations) ?_
  refine returns_bind (a := value.observations) (returns_mapM ?_) ?_
  · rw [List.map_map, List.forall₂_map_left_iff]
    exact List.forall₂_same.mpr fun observation hobservation =>
      returns_observation (htyped observation hobservation)
  refine returns_bind (returns_jpeg hjpeg) ?_
  refine returns_bind (returns_uint64 htracker) ?_
  refine returns_bind (returns_uint64 hrevision) ?_
  refine returns_bind (returns_uint64 hfirst) ?_
  refine returns_bind (returns_uint64 hlast) ?_
  exact ensures_pure rfl

theorem returns_metrics {value : MetricsEvent} (htyped : value.Typed)
    (hnamed : Named (names .metrics) values)
    (hfields : Holds values (objects (value.packed packing))) :
    Returns (decodeMetrics header values) { value with header := header } := by
  simp only [Holds, objects, MetricsEvent.packed, List.forall_mem_map,
    List.forall_mem_cons] at hfields
  obtain ⟨hcounters, hgauges, -⟩ := hfields
  unfold decodeMetrics
  simp (disch := decide) only [required_of_named hnamed, ok_bind, hcounters, hgauges]
  refine ensures_after fun _ => ?_
  refine ensures_after fun _ => ?_
  have hcounts : Ensures (List.Forall₂ (fun entry result => result.1 = entry.1 ∧
        result.2 = entry.2) value.counters)
      (mapValues (unsignedInteger · 0)
        (value.counters.map fun entry => (entry.1, (packCount entry.2).object))) :=
    ensures_mapValues packCount (fun count read => read = count) fun _ _ => returns_uint64 rfl
  have hnumbers : Ensures (List.Forall₂ (fun entry result => result.1 = entry.1 ∧
        entry.2 = FloatValue.finite result.2) value.gauges)
      (mapValues finiteNumber
        (value.gauges.map fun entry => (entry.1, (packDouble packing entry.2).object))) :=
    ensures_mapValues (packDouble packing) (fun gauge read => gauge = .finite read)
      fun gauge hgauge => ensures_double (htyped.numbers gauge hgauge) rfl
  refine returns_bind (returns_objectMap (asStringMap_mapping htyped.counters)) ?_
  refine hcounts.bind fun counters hcounters => ?_
  refine returns_bind (returns_objectMap (asStringMap_mapping htyped.gauges)) ?_
  refine hnumbers.bind fun gauges hgauges => ?_
  refine ensures_pure ?_
  have hcount : counters = value.counters := by
    have hequal : List.Forall₂ Eq value.counters counters :=
      hcounters.imp fun _ _ h => Prod.ext h.1.symm h.2.symm
    exact (List.forall₂_eq_eq_eq ▸ hequal : value.counters = counters).symm
  have hgauge : gauges.map (fun gauge => (gauge.1, FloatValue.finite gauge.2)) = value.gauges := by
    have hequal : List.Forall₂ Eq value.gauges
        (gauges.map fun gauge => (gauge.1, FloatValue.finite gauge.2)) := by
      rw [List.forall₂_map_right_iff]
      exact hgauges.imp fun _ _ h => Prod.ext h.1.symm h.2
    exact (List.forall₂_eq_eq_eq ▸ hequal :
      value.gauges = gauges.map fun gauge => (gauge.1, FloatValue.finite gauge.2)).symm
  rw [hcount, hgauge]

theorem returns_nativeOperation {value : NativeOperationEvent} (htyped : value.Typed)
    (hnamed : Named (names .nativeOperation) values)
    (hfields : Holds values (objects (value.packed packing))) :
    Returns (decodeNativeOperation header values) { value with
      header := header
      attributes := value.attributes.map fun entry => (entry.1, entry.2.written packing) } := by
  simp only [Holds, objects, NativeOperationEvent.packed, List.forall_mem_map,
    List.forall_mem_cons] at hfields
  obtain ⟨hoperation, hstarted, hended, hstatus, hcode, hattributes, -⟩ := hfields
  unfold decodeNativeOperation
  simp (disch := decide) only [required_of_named hnamed, ok_bind, hattributes]
  refine ensures_after fun _ => ?_
  refine returns_bind (returns_text hoperation) ?_
  refine returns_bind (returns_text hstatus) ?_
  refine returns_bind (returns_optionalString hcode) ?_
  refine returns_bind (returns_uint64 hstarted) ?_
  refine returns_bind (returns_uint64 hended) ?_
  refine ensures_after fun _ => ?_
  refine returns_bind (returns_objectMap (asStringMap_mapping htyped.attributes)) ?_
  refine returns_bind (returns_mapM ?_) (ensures_pure rfl)
  rw [List.forall₂_map_left_iff, List.forall₂_map_right_iff]
  exact List.forall₂_same.mpr fun entry hentry => returns_attribute (htyped.numbers entry hentry)

/-- An absent reference is that of an unknown face, and any other one has passed the checks of
a known one. -/
theorem returns_reference {state : Text} {displayName faceId : Option Text}
    {matchScore recognitionThreshold : Option FloatValue} {value : Object}
    {reference : Option (List FloatValue)} (htyped : ∀ values ∈ reference, Floats 512 values)
    (h : value = (Packed.optional (packFloatArray packing 512) reference).object) :
    Returns (decodeReference state displayName faceId matchScore recognitionThreshold value)
      reference := by
  unfold decodeReference
  cases reference with
  | none =>
      rw [h]
      split
      · refine ensures_failIf fun hmissing => absurd ?_ hmissing
        exact .inr (.inr (.inr (.inr rfl)))
      · exact ensures_after fun _ => ensures_pure rfl
  | some values =>
      split
      · refine ensures_after fun _ => ?_
        refine returns_bind (returns_floatArray (htyped values rfl) h) ?_
        exact ensures_after fun _ => ensures_pure rfl
      · rw [h]
        refine ensures_failIf fun hpresent => absurd ?_ hpresent
        exact .inr (.inr (.inr (.inr Bool.false_ne_true)))

theorem returns_identityAssignment {value : IdentityAssignment} (htyped : value.Typed)
    (hnamed : Named (names .identityAssignment) values)
    (hfields : Holds values (objects (value.packed packing))) :
    Returns (decodeIdentityAssignment header values) { value with header := header } := by
  simp only [Holds, objects, IdentityAssignment.packed, List.forall_mem_map,
    List.forall_mem_cons] at hfields
  obtain ⟨htracker, hrevision, hepoch, hstate, hdisplay, hface, hscore, hthreshold, hreference,
    hdecision, -⟩ := hfields
  unfold decodeIdentityAssignment
  simp (disch := decide) only [required_of_named hnamed, ok_bind]
  refine ensures_after fun _ => ?_
  refine returns_bind (returns_text hstate) ?_
  refine ensures_after fun _ => ?_
  refine returns_bind (returns_optionalString hdisplay) ?_
  refine returns_bind (returns_optionalString hface) ?_
  refine ensures_after fun _ => ?_
  refine returns_bind (returns_optionalFloat htyped.matchScore hscore) ?_
  refine returns_bind (returns_optionalFloat htyped.recognitionThreshold hthreshold) ?_
  refine returns_bind (returns_reference htyped.referenceEmbedding hreference) ?_
  refine returns_bind (returns_uint64 htracker) ?_
  refine returns_bind (returns_uint64 hrevision) ?_
  refine returns_bind (returns_uint64 hepoch) ?_
  refine returns_bind (returns_uint64 hdecision) ?_
  exact ensures_pure rfl

/-! ## Frames -/

def LiveMessage.type : LiveMessage → MessageType
  | .start _ => .start
  | .identityAssignment _ => .identityAssignment
  | .stop _ => .stop
  | .hello _ => .hello
  | .state _ => .state
  | .outputReady _ => .outputReady
  | .trackEvidence _ => .trackEvidence
  | .trackExpired _ => .trackExpired
  | .metrics _ => .metrics
  | .failed _ => .failed
  | .stopped _ => .stopped
  | .nativeOperation _ => .nativeOperation

/-- The encoder packs the fields that the decoders expect. -/
theorem names_fields (packing : FloatPacking) (message : LiveMessage) :
    (objects (message.fields packing)).map Prod.fst = names message.type := by
  cases message <;> rfl

theorem holds_fields {message : LiveMessage} (h : Holds values (objects (message.fields packing))) :
    Holds values (objects message.header.packed) ∧
      Holds values (objects (message.body packing)) := by
  unfold LiveMessage.fields objects at h
  rw [List.map_append] at h
  exact holds_append.mp h

theorem returns_body {message : LiveMessage} (htyped : message.Typed)
    (hnamed : Named (names message.type) values)
    (hfields : Holds values (objects (message.body packing))) :
    Returns (decodeBody message.type message.header values) (message.written packing) := by
  cases message with
  | start value => exact returns_map (returns_start htyped hnamed hfields)
  | identityAssignment value =>
      exact returns_map (returns_identityAssignment htyped hnamed hfields)
  | stop value => exact returns_map (returns_stop hnamed hfields)
  | hello value => exact returns_map (returns_hello hnamed hfields)
  | state value => exact returns_map (returns_state hnamed hfields)
  | outputReady value => exact returns_map (returns_outputReady hnamed hfields)
  | trackEvidence value => exact returns_map (returns_trackEvidence htyped hnamed hfields)
  | trackExpired value => exact returns_map (returns_trackExpired hnamed hfields)
  | metrics value => exact returns_map (returns_metrics htyped hnamed hfields)
  | failed value => exact returns_map (returns_failed hnamed hfields)
  | stopped value => exact returns_map (returns_stopped hnamed hfields)
  | nativeOperation value => exact returns_map (returns_nativeOperation htyped hnamed hfields)

/-- The worker reads what it has written. -/
theorem decode_encode {message : LiveMessage} (htyped : message.Typed) {frame : List UInt8}
    (hframe : encodeLiveMessage packing message = .ok frame) :
    Returns (decodeLiveMessage frame) (message.written packing) := by
  intro result hresult
  have hcarries := carries_encode htyped hframe
  have hunique : ((objects (message.fields packing)).map Prod.fst).Nodup := by
    rw [names_fields]
    exact nodup_names message.type
  have hmap : (message.packed packing).object.asStringMap =
      some (readMap (objects (message.fields packing))) := asStringMap_packed hunique
  obtain ⟨value, rest, values, hcarries', hvalues, hdecode⟩ := decodeLiveMessage_ok_iff.mp hresult
  obtain ⟨rfl, -⟩ := hcarries.unique hcarries'
  obtain rfl := Option.some.inj (hmap.symm.trans hvalues)
  have hnamed := named_readMap (objects (message.fields packing))
  rw [names_fields] at hnamed
  obtain ⟨hheaderFields, hbodyFields⟩ := holds_fields (holds_readMap hunique)
  have hread (name : String) (hname : name ∈ headerFields) :=
    required_of_named hnamed (header_names message.type name hname)
  have hpack := packable_field (packable_of_asStringMap (packable_of_carries hcarries) hmap)
  obtain ⟨header, type, hheader, -, -, hbody⟩ := decodePayload_cases hdecode
  -- the payload has the fields of the type that the header names
  have htype : type = message.type :=
    named_unique ((decodeBody_succeeds hpack type).mp ⟨result, hbody⟩).1 hnamed
  rw [htype, returns_header hread hheaderFields header hheader] at hbody
  exact returns_body htyped hnamed hbodyFields result hbody

end Messages

end Mvision.Live.Native
