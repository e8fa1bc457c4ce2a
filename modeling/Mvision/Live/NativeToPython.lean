import Mvision.Live.NativeRoundTrip
import Mvision.Live.PythonRoundTrip

/-!
# A struct that is read on the Python side

What `decode_message` reads of the bytes of `encode_live_message`: the fields of the struct, a
`float` as the double of the same number and a UUID in lower case.
-/

namespace Mvision.Live

open Mvision.Library Mvision.Live.Wire
open Native (readMap objects packFloat packDouble packFloatArray packUnsigned packMapping
  packObservation packAttribute packJpeg packCount packOptionalString Floats Mapping)

/-- A `float` of a struct is the number of the dataclass. -/
def Widened (python : ℚ) (native : FloatValue) : Prop := native = .finite python

/-- The packer writes an attribute as a value of its own type. -/
def Native.NativeAttribute.Kept (packing : FloatPacking) : Native.NativeAttribute → Prop
  | .number (.finite q) => packing.asInteger q = none
  | _ => True

/-- The JPEG has a size of 32 bits, and no double of an attribute is written as an integer. -/
def Native.LiveMessage.Kept (packing : FloatPacking) : Native.LiveMessage → Prop
  | .trackEvidence value => value.representativeAlignedJpeg.length < 4294967296
  | .nativeOperation value => ∀ entry ∈ value.attributes, entry.2.Kept packing
  | _ => True

theorem take_mod_eq_iff (jpeg : List UInt8) :
    jpeg.take (jpeg.length % 4294967296) = jpeg ↔ jpeg.length < 4294967296 := by
  rw [List.take_eq_self_iff]
  omega

namespace Protocol

/-! ## Values -/

section Values

variable {value : Object}

theorem ensures_string {text : Native.Text} (h : value = (Packed.text text).object) :
    Ensures (fun python => text = utf8 python) (string value) := by
  intro python hpython
  exact Object.str.inj (h.symm.trans (string_ok_iff.mp hpython))

theorem ensures_optionalString {text : Option Native.Text}
    (h : value = (packOptionalString text).object) :
    Ensures (fun python => text = python.map utf8) (optionalString value) := by
  rw [h]
  cases text with
  | none => exact ensures_ok rfl
  | some text =>
      have hread : Ensures (fun python => text = utf8 python) (string (.str text)) :=
        ensures_string rfl
      exact hread.map fun _ hpython => congrArg some hpython

theorem ensures_uuid {text : Native.Text} (h : value = (Packed.text text).object) :
    Ensures (fun python => UuidMirrors python text) (uuid value) := by
  intro python hpython
  obtain ⟨other, hother, -, rfl⟩ := uuid_ok_iff.mp hpython
  exact ⟨other, Object.str.inj (h.symm.trans hother), rfl⟩

theorem ensures_faceId {python : Option String} {native : Option Native.Text}
    (h : native = python.map utf8) :
    Ensures (fun id => Option.Rel UuidMirrors id native) (faceIdOf python) := by
  rw [h]
  cases python with
  | none => exact ensures_ok .none
  | some text =>
      refine Ensures.map (P := fun id => id = lower text) (returns_uuidOf text) ?_
      rintro id rfl
      exact .some ⟨text, rfl, rfl⟩

theorem ensures_messageType {text : String} :
    Ensures (fun type => text = type.text) (messageType text) :=
  fun _ htype => (messageType_ok_iff.mp htype).symm

theorem ensures_runtimeState {text : String} :
    Ensures (fun state => text = state.text) (runtimeState text) := by
  intro state hstate
  exact (runtimeState_ok_iff.mp hstate).symm

theorem ensures_identityState {text : String} :
    Ensures (fun state => text = state.text) (identityState text) := by
  intro state hstate
  rcases identityState_ok_iff.mp hstate with ⟨rfl, rfl⟩ | ⟨rfl, rfl⟩ <;> rfl

variable {packing : FloatPacking} {x : FloatValue}

theorem ensures_finite (hx : binary64.Has 11 x) (h : value = packing.object x) :
    Ensures (fun q => Widened q x) (finite value) := Native.ensures_finiteNumber hx h

theorem ensures_float (hx : binary32.Has 8 x) (h : value = (packFloat packing x).object) :
    Ensures (fun q => Widened q x) (finite value) := ensures_finite (has_double hx) h

theorem ensures_optionalFloat {x : Option FloatValue} (hx : ∀ y ∈ x, binary32.Has 8 y)
    (h : value = (Packed.optional (packFloat packing) x).object) :
    Ensures (fun q => Option.Rel Widened q x) (optionalFinite value) := by
  rw [h]
  cases x with
  | none => exact ensures_ok .none
  | some x =>
      show Ensures _ (optionalFinite (packFloat packing x).object)
      unfold optionalFinite
      split
      · rename_i hnil
        exact absurd hnil (packing.object_ne_nil x)
      · exact (ensures_float (hx x rfl) rfl).map fun _ hq => .some hq

theorem ensures_floats {size : Nat} {values : List FloatValue} (hvalues : Floats size values) :
    Ensures (fun python => List.Forall₂ Widened python values)
      (((values.map (packFloat packing)).map Packed.object).mapM finite) := by
  intro python hpython
  refine (ensures_mapM (R := fun x q => Widened q x) ?_ python hpython).flip
  rw [List.map_map, List.forall₂_map_left_iff]
  exact List.forall₂_same.mpr fun x hx => ensures_float (hvalues.2 x hx) rfl

theorem ensures_array {size size' : Nat} {values : List FloatValue} {code : String}
    (hvalues : Floats size values) (h : value = (packFloatArray packing size values).object) :
    Ensures (fun python => List.Forall₂ Widened python values) (finiteArray size' value code) := by
  rw [h]
  refine (ensures_floats hvalues).bind fun python hpython => ?_
  exact ensures_after fun _ => ensures_pure hpython

theorem ensures_embedding {size : Nat} {values : List FloatValue} (hvalues : Floats size values)
    (h : value = (packFloatArray packing size values).object) :
    Ensures (fun python => List.Forall₂ Widened python values) (embedding value) := by
  rw [h]
  refine (ensures_floats hvalues).bind fun python hpython => ?_
  exact ensures_after fun _ => ensures_after fun _ => ensures_pure hpython

end Values

/-! ## Messages -/

section Messages

variable {packing : FloatPacking} {payload : List (String × Object)} {header : ProtocolHeader}

theorem mirrors_header {value : Native.ProtocolHeader}
    (hread : ∀ name ∈ headerFields, subscript payload name = .ok (field (readMap payload) name))
    (hfields : Holds (readMap payload) (objects value.packed)) :
    Ensures (fun header => HeaderMirrors header value) (Protocol.header payload) := by
  simp only [Holds, objects, Native.ProtocolHeader.packed, List.forall_mem_map,
    List.forall_mem_cons] at hfields
  obtain ⟨hversion, htype, hsession, hcamera, hrun, hgeneration, hattempt, hsequence, hparent,
    hstate, -⟩ := hfields
  unfold Protocol.header
  simp (disch := decide) only [hread, ok_bind]
  refine returns_bind (returns_integer hversion) ?_
  refine ensures_after fun _ => ?_
  refine (ensures_string htype).bind fun text htext => ?_
  refine ensures_messageType.bind fun type htype => ?_
  refine (ensures_string hparent).bind fun parent hparent => ?_
  refine (ensures_optionalString hstate).bind fun state hstate => ?_
  refine ensures_after fun _ => ?_
  refine (ensures_uuid hsession).bind fun session hsession => ?_
  refine (ensures_uuid hcamera).bind fun camera hcamera => ?_
  refine (ensures_uuid hrun).bind fun run hrun => ?_
  refine returns_bind (returns_integer hgeneration) ?_
  refine returns_bind (returns_integer hattempt) ?_
  refine returns_bind (returns_integer hsequence) ?_
  refine ensures_pure ?_
  exact {
    protocolVersion := rfl
    messageType := htype ▸ htext
    sessionId := hsession
    cameraId := hcamera
    runId := hrun
    generation := rfl
    runtimeAttempt := rfl
    sequence := rfl
    traceparent := hparent
    tracestate := hstate }

theorem mirrors_observation {value : Native.LiveObservation} (htyped : value.Typed) :
    Ensures (fun python => ObservationMirrors Widened python value)
      (observation (packObservation packing value).object) := by
  have hunique : ((objects (value.packed packing)).map Prod.fst).Nodup :=
    show observationFields.Nodup by decide
  have hnamed : Named observationFields (readMap (objects (value.packed packing))) :=
    named_readMap (objects (value.packed packing))
  have hread (name : String) (hname : name ∈ observationFields) := item_of_named hnamed hname
  have hfields := holds_readMap hunique
  simp only [Holds, objects, Native.LiveObservation.packed, List.forall_mem_map,
    List.forall_mem_cons] at hfields
  obtain ⟨htime, hbbox, hdetector, hlandmarks, hconfidences, hquality, hmask, hembedding, -⟩ :=
    hfields
  refine returns_bind (returns_dict hunique (Packed.fields_object 8 _)) ?_
  simp (disch := decide) only [hread, ok_bind]
  refine ensures_after fun _ => ?_
  refine ensures_after fun _ => ?_
  refine (ensures_array htyped.bbox hbbox).bind fun bbox hbbox => ?_
  refine (ensures_array htyped.landmarks hlandmarks).bind fun landmarks hlandmarks => ?_
  refine (ensures_array htyped.landmarkConfidences hconfidences).bind
    fun confidences hconfidences => ?_
  refine (ensures_embedding htyped.embedding hembedding).bind fun embedding hembedding => ?_
  refine returns_bind (returns_integer htime) ?_
  refine (ensures_float htyped.detectorConfidence hdetector).bind fun detector hdetector => ?_
  refine (ensures_float htyped.qualityScore hquality).bind fun quality hquality => ?_
  refine returns_bind (returns_integer hmask) ?_
  refine ensures_pure ?_
  exact {
    timestampNs := rfl
    bbox := hbbox
    detectorConfidence := hdetector
    landmarks := hlandmarks
    landmarkConfidences := hconfidences
    qualityScore := hquality
    rejectMask := rfl
    embedding := hembedding }

/-! ### Maps -/

/-- A map that can be read as a dictionary has the same keys and values in it. -/
theorem exists_dict_mapping {α : Type} {pack : α → Packed} {entries : List (Native.Text × α)}
    (hentries : Mapping entries) (hreadable : readable (packMapping pack entries).object = true) :
    ∃ names, dict (packMapping pack entries).object = some (ofTexts names) ∧
      List.Forall₂ (fun entry other => utf8 entry.1 = other.1 ∧
        entry.2 = (pack other.2).object) names entries := by
  have hkeys : Wire.TextKeys (packMapping pack entries).object := by
    intro entry hentry
    obtain ⟨packed, hpacked, rfl⟩ := List.mem_map.mp hentry
    obtain ⟨other, -, rfl⟩ := List.mem_map.mp hpacked
    exact ⟨other.1, rfl⟩
  obtain ⟨names, hdict, hmap⟩ := dict_of_textKeys hreadable rfl hkeys
  refine ⟨names, hdict, ?_⟩
  have hequal := Option.some.inj (hmap.symm.trans (Native.asStringMap_mapping hentries))
  have hpairs : List.Forall₂ Eq (readMap names)
      (entries.map fun entry => (entry.1, (pack entry.2).object)) :=
    hequal ▸ List.forall₂_same.mpr fun _ _ => rfl
  rw [readMap, List.forall₂_map_left_iff, List.forall₂_map_right_iff] at hpairs
  exact hpairs.imp fun _ _ h => Prod.mk.inj h

/-- A dictionary that is read entry by entry. -/
theorem ensures_textDict {α β : Type} {read : Object → Except String β} {pack : α → Packed}
    (R : β → α → Prop) {names : List (String × Object)} {entries : List (Native.Text × α)}
    (hnames : List.Forall₂ (fun entry other => utf8 entry.1 = other.1 ∧
      entry.2 = (pack other.2).object) names entries)
    (h : ∀ entry ∈ entries, Ensures (R · entry.2) (read (pack entry.2).object)) :
    Ensures (fun python => List.Forall₂ (fun entry other => other.1 = utf8 entry.1 ∧
      R entry.2 other.2) python entries) (textDict read (ofTexts names)) := by
  intro python hpython
  refine (ensures_mapM (R := fun (other : Native.Text × α) (result : String × β) =>
    other.1 = utf8 result.1 ∧ R result.2 other.2) ?_ python hpython).flip
  rw [ofTexts, List.forall₂_map_left_iff]
  clear hpython
  induction hnames with
  | nil => exact .nil
  | cons hfirst _ ih =>
      obtain ⟨hvalue, hrest⟩ := List.forall_mem_cons.mp h
      refine .cons ?_ (ih hrest)
      rw [hfirst.2]
      exact hvalue.map fun _ hread => ⟨hfirst.1.symm, hread⟩

/-- An attribute is read as it is unless its double was written as an integer. -/
theorem mirrors_attribute {name : String} {item : Native.NativeAttribute} (htyped : item.Typed) :
    Ensures (fun python => python.1 = name ∧ (AttributeMirrors python.2 item ↔ item.Kept packing))
      (nativeAttribute (.text name, (packAttribute packing item).object)) := by
  unfold nativeAttribute
  dsimp only
  split
  · exact ensures_error _
  cases item with
  | text value =>
      dsimp only [packAttribute, Packed.text]
      split
      · rename_i text htext
        split
        · exact ensures_ok ⟨rfl, iff_of_true (ofUtf8_eq_some_iff.mp htext).symm trivial⟩
        · exact ensures_error _
      · exact ensures_error _
  | integer value => exact ensures_ok ⟨rfl, iff_of_true rfl trivial⟩
  | number x =>
      cases x with
      | finite q =>
          dsimp only [packAttribute, packDouble, Packed.float]
          cases hwhole : packing.asInteger q with
          | some n =>
              rw [packing.object_of_some hwhole]
              refine ensures_ok ⟨rfl, iff_of_false (fun h => h) ?_⟩
              intro hkept
              exact Option.some_ne_none n (hwhole.symm.trans hkept)
          | none =>
              rw [packing.object_of_none hwhole]
              exact ensures_ok ⟨rfl, iff_of_true rfl hwhole⟩
      | infinite negative => exact ensures_error _
      | nan => exact ensures_error _

theorem forall₂_iff_forall {α β : Type} {R Q : α → β → Prop} {P : β → Prop} {python : List α}
    {native : List β}
    (h : List.Forall₂ (fun a b => R a b ∧ (Q a b ↔ P b)) python native) :
    List.Forall₂ (fun a b => R a b ∧ Q a b) python native ↔ ∀ b ∈ native, P b := by
  induction h with
  | nil => exact iff_of_true .nil (List.forall_mem_nil P)
  | cons hfirst _ ih =>
      rw [List.forall₂_cons, List.forall_mem_cons, ih, and_iff_right hfirst.1, hfirst.2]

theorem mirrors_attributes {names : List (String × Object)}
    {entries : List (Native.Text × Native.NativeAttribute)}
    (htyped : ∀ entry ∈ entries, entry.2.Typed)
    (hnames : List.Forall₂ (fun entry other => utf8 entry.1 = other.1 ∧
      entry.2 = (packAttribute packing other.2).object) names entries) :
    Ensures (fun python => List.Forall₂ (fun entry other => other.1 = utf8 entry.1 ∧
        AttributeMirrors entry.2 other.2) python entries ↔
        ∀ entry ∈ entries, entry.2.Kept packing)
      ((ofTexts names).mapM nativeAttribute) := by
  intro python hpython
  refine forall₂_iff_forall (List.Forall₂.flip (ensures_mapM
    (R := fun (other : Native.Text × Native.NativeAttribute) (result : String × NativeAttribute) =>
      other.1 = utf8 result.1 ∧ (AttributeMirrors result.2 other.2 ↔ other.2.Kept packing)) ?_
    python hpython))
  rw [ofTexts, List.forall₂_map_left_iff]
  clear hpython
  induction hnames with
  | nil => exact .nil
  | cons hfirst _ ih =>
      obtain ⟨hitem, hrest⟩ := List.forall_mem_cons.mp htyped
      refine .cons ?_ (ih hrest)
      rw [hfirst.2]
      exact Ensures.imp (mirrors_attribute hitem) fun _ hread =>
        ⟨hread.1 ▸ hfirst.1.symm, hread.2⟩

/-! ### Bodies -/

theorem mirrors_stop {value : Native.StopCommand}
    (hnamed : Keys .stop payload)
    (hfields : Holds (readMap payload) (objects value.packed))
    (hheader : HeaderMirrors header value.header) :
    Ensures (fun python => StopMirrors python value) (stopCommand header payload) := by
  simp only [Holds, objects, Native.StopCommand.packed, List.forall_mem_map,
    List.forall_mem_cons] at hfields
  obtain ⟨hreason, hdeadline, -⟩ := hfields
  unfold stopCommand
  simp (disch := decide) only [subscript_of_named hnamed, ok_bind]
  refine (ensures_string hreason).bind fun reason hreason => ?_
  refine returns_bind (returns_integer hdeadline) ?_
  refine ensures_pure ?_
  exact {
    header := hheader
    reason := hreason
    shutdownDeadlineNs := rfl }

theorem mirrors_hello {value : Native.HelloEvent}
    (hnamed : Keys .hello payload)
    (hfields : Holds (readMap payload) (objects value.packed))
    (hheader : HeaderMirrors header value.header) :
    Ensures (fun python => HelloMirrors python value) (helloEvent header payload) := by
  simp only [Holds, objects, Native.HelloEvent.packed, List.forall_mem_map,
    List.forall_mem_cons] at hfields
  obtain ⟨hbuild, hgstreamer, hdeepstream, -⟩ := hfields
  unfold helloEvent
  simp (disch := decide) only [subscript_of_named hnamed, ok_bind]
  refine (ensures_string hbuild).bind fun build hbuild => ?_
  refine (ensures_string hgstreamer).bind fun gstreamer hgstreamer => ?_
  refine (ensures_string hdeepstream).bind fun deepstream hdeepstream => ?_
  refine ensures_pure ?_
  exact {
    header := hheader
    buildId := hbuild
    gstreamerVersion := hgstreamer
    deepstreamVersion := hdeepstream }

theorem mirrors_state {value : Native.StateEvent}
    (hnamed : Keys .state payload)
    (hfields : Holds (readMap payload) (objects value.packed))
    (hheader : HeaderMirrors header value.header) :
    Ensures (fun python => StateMirrors python value) (stateEvent header payload) := by
  simp only [Holds, objects, Native.StateEvent.packed, List.forall_mem_map,
    List.forall_mem_cons] at hfields
  obtain ⟨hstate, hreason, -⟩ := hfields
  unfold stateEvent
  simp (disch := decide) only [subscript_of_named hnamed, ok_bind]
  refine (ensures_string hstate).bind fun text htext => ?_
  refine ensures_runtimeState.bind fun state hstate => ?_
  refine (ensures_optionalString hreason).bind fun reason hreason => ?_
  refine ensures_pure ?_
  exact {
    header := hheader
    state := hstate ▸ htext
    reason := hreason }

theorem mirrors_outputReady {value : Native.OutputReadyEvent}
    (hnamed : Keys .outputReady payload)
    (hfields : Holds (readMap payload) (objects value.packed))
    (hheader : HeaderMirrors header value.header) :
    Ensures (fun python => OutputReadyMirrors python value) (outputReadyEvent header payload) := by
  simp only [Holds, objects, Native.OutputReadyEvent.packed, List.forall_mem_map,
    List.forall_mem_cons] at hfields
  obtain ⟨hmount, hcodec, hcaps, -⟩ := hfields
  unfold outputReadyEvent
  simp (disch := decide) only [subscript_of_named hnamed, ok_bind]
  refine (ensures_string hmount).bind fun mount hmount => ?_
  refine (ensures_string hcodec).bind fun codec hcodec => ?_
  refine (ensures_string hcaps).bind fun caps hcaps => ?_
  refine ensures_pure ?_
  exact {
    header := hheader
    mountPath := hmount
    codec := hcodec
    caps := hcaps }

theorem mirrors_trackExpired {value : Native.TrackExpiredEvent}
    (hnamed : Keys .trackExpired payload)
    (hfields : Holds (readMap payload) (objects value.packed))
    (hheader : HeaderMirrors header value.header) :
    Ensures (fun python => TrackExpiredMirrors python value) (trackExpiredEvent header payload) := by
  simp only [Holds, objects, Native.TrackExpiredEvent.packed, List.forall_mem_map,
    List.forall_mem_cons] at hfields
  obtain ⟨htracker, hrevision, hfirst, hlast, hreason, -⟩ := hfields
  unfold trackExpiredEvent
  simp (disch := decide) only [subscript_of_named hnamed, ok_bind]
  refine returns_bind (returns_integer htracker) ?_
  refine returns_bind (returns_integer hrevision) ?_
  refine returns_bind (returns_integer hfirst) ?_
  refine returns_bind (returns_integer hlast) ?_
  refine (ensures_string hreason).bind fun reason hreason => ?_
  refine ensures_pure ?_
  exact {
    header := hheader
    trackerId := rfl
    evidenceRevision := rfl
    firstSeenNs := rfl
    lastSeenNs := rfl
    reason := hreason }

theorem mirrors_failed {value : Native.FailedEvent}
    (hnamed : Keys .failed payload)
    (hfields : Holds (readMap payload) (objects value.packed))
    (hheader : HeaderMirrors header value.header) :
    Ensures (fun python => FailedMirrors python value) (failedEvent header payload) := by
  simp only [Holds, objects, Native.FailedEvent.packed, List.forall_mem_map,
    List.forall_mem_cons] at hfields
  obtain ⟨hcode, hmessage, -⟩ := hfields
  unfold failedEvent
  simp (disch := decide) only [subscript_of_named hnamed, ok_bind]
  refine (ensures_string hcode).bind fun code hcode => ?_
  refine (ensures_string hmessage).bind fun message hmessage => ?_
  refine ensures_pure ?_
  exact {
    header := hheader
    errorCode := hcode
    message := hmessage }

theorem mirrors_stopped {value : Native.StoppedEvent}
    (hnamed : Keys .stopped payload)
    (hfields : Holds (readMap payload) (objects value.packed))
    (hheader : HeaderMirrors header value.header) :
    Ensures (fun python => StoppedMirrors python value) (stoppedEvent header payload) := by
  simp only [Holds, objects, Native.StoppedEvent.packed, List.forall_mem_map,
    List.forall_mem_cons] at hfields
  obtain ⟨hdecoded, hemitted, hdropped, hclean, hreason, -⟩ := hfields
  unfold stoppedEvent
  simp (disch := decide) only [subscript_of_named hnamed, ok_bind]
  refine returns_bind (returns_boolean hclean) ?_
  refine returns_bind (returns_integer hdecoded) ?_
  refine returns_bind (returns_integer hemitted) ?_
  refine returns_bind (returns_integer hdropped) ?_
  refine (ensures_string hreason).bind fun reason hreason => ?_
  refine ensures_pure ?_
  exact {
    header := hheader
    cleanShutdown := rfl
    decodedFrames := rfl
    emittedEvidence := rfl
    droppedEvents := rfl
    reason := hreason }

theorem mirrors_start {value : Native.StartCommand} (htyped : value.Typed)
    (hnamed : Keys .start payload)
    (hfields : Holds (readMap payload) (objects (value.packed packing)))
    (hheader : HeaderMirrors header value.header) :
    Ensures (fun python => StartMirrors python value) (startCommand header payload) := by
  simp only [Holds, objects, Native.StartCommand.packed, List.forall_mem_map,
    List.forall_mem_cons] at hfields
  obtain ⟨huri, hgpu, hpgie, hpreprocess, hsgie, htracker, hmount, hudp, hrtsp, hprofile, hmode,
    hsample, hdetector, hrecognition, hmargin, hgap, hlatency, hinterval, hattempts, htimeout,
    hrecording, hannotated, -⟩ := hfields
  unfold startCommand
  simp (disch := decide) only [subscript_of_named hnamed, ok_bind]
  refine returns_bind (returns_attempts hattempts) ?_
  refine (ensures_string hmode).bind fun mode hmode => ?_
  refine ensures_after fun _ => ?_
  refine (ensures_finite htyped.detectorThreshold hdetector).bind fun detector hdetector => ?_
  refine (ensures_finite htyped.recognitionThreshold hrecognition).bind
    fun recognition hrecognition => ?_
  refine (ensures_finite htyped.top2Margin hmargin).bind fun margin hmargin => ?_
  refine ensures_after fun _ => ?_
  refine returns_bind (returns_boolean hrecording) ?_
  refine returns_bind (returns_boolean hannotated) ?_
  refine (ensures_string huri).bind fun uri huri => ?_
  refine returns_bind (returns_integer hgpu) ?_
  refine (ensures_string hpgie).bind fun pgie hpgie => ?_
  refine (ensures_string hpreprocess).bind fun preprocess hpreprocess => ?_
  refine (ensures_string hsgie).bind fun sgie hsgie => ?_
  refine (ensures_string htracker).bind fun tracker htracker => ?_
  refine (ensures_string hmount).bind fun mount hmount => ?_
  refine returns_bind (returns_integer hudp) ?_
  refine returns_bind (returns_integer hrtsp) ?_
  refine returns_bind (returns_integer hprofile) ?_
  refine returns_bind (returns_integer hsample) ?_
  refine returns_bind (returns_integer hgap) ?_
  refine returns_bind (returns_integer hlatency) ?_
  refine returns_bind (returns_integer hinterval) ?_
  refine returns_bind (returns_integer htimeout) ?_
  refine ensures_pure ?_
  exact {
    header := hheader
    reconnectAttempts := rfl
    analyticsMode := hmode
    detectorThreshold := hdetector
    recognitionThreshold := hrecognition
    top2Margin := hmargin
    recordingEnabled := rfl
    annotatedEnabled := rfl
    uri := huri
    gpuId := rfl
    pgieConfigPath := hpgie
    preprocessConfigPath := hpreprocess
    sgieConfigPath := hsgie
    trackerConfigPath := htracker
    outputMountPath := hmount
    outputUdpPort := rfl
    outputRtspPort := rfl
    profileVersion := rfl
    sampleEveryN := rfl
    trackGapNs := rfl
    latencyMs := rfl
    reconnectIntervalSeconds := rfl
    frameTimeoutNs := rfl }

/-- An absent reference is that of an unknown face. -/
theorem ensures_reference {state : AssignedState} {displayName faceId : Option String}
    {matchScore recognitionThreshold : Option ℚ} {value : Object}
    {reference : Option (List FloatValue)} (htyped : ∀ values ∈ reference, Floats 512 values)
    (h : value = (Packed.optional (packFloatArray packing 512) reference).object) :
    Ensures (fun python => Option.Rel (List.Forall₂ Widened) python reference)
      (referenceEmbedding state displayName faceId matchScore recognitionThreshold value) := by
  unfold referenceEmbedding
  cases reference with
  | none =>
      rw [h]
      split
      · refine Native.ensures_failIf fun hmissing => absurd ?_ hmissing
        exact .inr (.inr (.inr (.inr rfl)))
      · exact ensures_after fun _ => ensures_pure .none
  | some values =>
      split
      · refine ensures_after fun _ => ?_
        exact (ensures_embedding (htyped values rfl) h).map fun _ hpython => .some hpython
      · rw [h]
        refine Native.ensures_failIf fun hpresent => absurd ?_ hpresent
        exact .inr (.inr (.inr (.inr Bool.false_ne_true)))

theorem mirrors_identityAssignment {value : Native.IdentityAssignment} (htyped : value.Typed)
    (hnamed : Keys .identityAssignment payload)
    (hfields : Holds (readMap payload) (objects (value.packed packing)))
    (hheader : HeaderMirrors header value.header) :
    Ensures (fun python => IdentityAssignmentMirrors Widened python value)
      (identityAssignment header payload) := by
  simp only [Holds, objects, Native.IdentityAssignment.packed, List.forall_mem_map,
    List.forall_mem_cons] at hfields
  obtain ⟨htracker, hrevision, hepoch, hstate, hdisplay, hface, hscore, hthreshold, hreference,
    hdecision, -⟩ := hfields
  unfold identityAssignment
  simp (disch := decide) only [subscript_of_named hnamed, ok_bind]
  refine (ensures_string hstate).bind fun text htext => ?_
  refine ensures_identityState.bind fun state hstate => ?_
  refine (ensures_optionalString hface).bind fun faceText hfaceText => ?_
  refine (ensures_faceId hfaceText).bind fun face hface => ?_
  refine (ensures_optionalFloat htyped.matchScore hscore).bind fun score hscore => ?_
  refine (ensures_optionalFloat htyped.recognitionThreshold hthreshold).bind
    fun threshold hthreshold => ?_
  refine (ensures_optionalString hdisplay).bind fun display hdisplay => ?_
  refine (ensures_reference htyped.referenceEmbedding hreference).bind
    fun reference hreference => ?_
  refine returns_bind (returns_integer htracker) ?_
  refine returns_bind (returns_integer hrevision) ?_
  refine returns_bind (returns_integer hepoch) ?_
  refine returns_bind (returns_integer hdecision) ?_
  refine ensures_pure ?_
  exact {
    header := hheader
    identityState := hstate ▸ htext
    faceId := hface
    matchScore := hscore
    recognitionThreshold := hthreshold
    displayName := hdisplay
    referenceEmbedding := hreference
    trackerId := rfl
    assignmentRevision := rfl
    identityEpoch := rfl
    decisionSequence := rfl }

/-- The observations are read as they are, and so is a JPEG of a size of 32 bits. -/
theorem mirrors_trackEvidence {value : Native.TrackEvidenceEvent}
    (htyped : ∀ observation ∈ value.observations, observation.Typed)
    (hnamed : Keys .trackEvidence payload)
    (hfields : Holds (readMap payload) (objects (value.packed packing)))
    (hheader : HeaderMirrors header value.header) :
    Ensures (fun python => TrackEvidenceMirrors Widened python value ↔
        value.representativeAlignedJpeg.length < 4294967296)
      (trackEvidenceEvent header payload) := by
  simp only [Holds, objects, Native.TrackEvidenceEvent.packed, List.forall_mem_map,
    List.forall_mem_cons] at hfields
  obtain ⟨htracker, hrevision, hfirst, hlast, hobservations, hjpeg, -⟩ := hfields
  have hread : Ensures (fun python => List.Forall₂ (ObservationMirrors Widened) python
        value.observations)
      (((value.observations.map (packObservation packing)).map Packed.object).mapM
        observation) := by
    intro python hpython
    refine (ensures_mapM (R := fun other result => ObservationMirrors Widened result other)
      ?_ python hpython).flip
    rw [List.map_map, List.forall₂_map_left_iff]
    exact List.forall₂_same.mpr fun other hother => mirrors_observation (htyped other hother)
  unfold trackEvidenceEvent
  simp (disch := decide) only [subscript_of_named hnamed, ok_bind]
  refine returns_bind (returns_list hobservations) ?_
  refine hread.bind fun observations hobservations => ?_
  refine ensures_after fun _ => ?_
  refine returns_bind (returns_jpegBytes hjpeg) ?_
  refine returns_bind (returns_integer htracker) ?_
  refine returns_bind (returns_integer hrevision) ?_
  refine returns_bind (returns_integer hfirst) ?_
  refine returns_bind (returns_integer hlast) ?_
  refine ensures_pure ?_
  rw [← take_mod_eq_iff]
  constructor
  · exact fun hmirrors => hmirrors.representativeAlignedJpeg.symm
  · intro hjpeg
    exact {
      header := hheader
      trackerId := rfl
      evidenceRevision := rfl
      firstSeenNs := rfl
      lastSeenNs := rfl
      observations := hobservations
      representativeAlignedJpeg := hjpeg.symm }

theorem mirrors_metrics {value : Native.MetricsEvent} (htyped : value.Typed)
    (hreadable : ∀ key, readable (field (readMap payload) key) = true)
    (hnamed : Keys .metrics payload)
    (hfields : Holds (readMap payload) (objects (value.packed packing)))
    (hheader : HeaderMirrors header value.header) :
    Ensures (fun python => MetricsMirrors python value) (metricsEvent header payload) := by
  simp only [Holds, objects, Native.MetricsEvent.packed, List.forall_mem_map,
    List.forall_mem_cons] at hfields
  obtain ⟨hcounters, hgauges, -⟩ := hfields
  obtain ⟨counterNames, hcounterDict, hcounterNames⟩ :=
    exists_dict_mapping htyped.counters (hcounters ▸ hreadable "counters")
  obtain ⟨gaugeNames, hgaugeDict, hgaugeNames⟩ :=
    exists_dict_mapping htyped.gauges (hgauges ▸ hreadable "gauges")
  unfold metricsEvent
  simp (disch := decide) only [subscript_of_named hnamed, ok_bind, hcounters, hgauges,
    hcounterDict, hgaugeDict, Option.elim_some]
  refine (ensures_textDict (fun count n => n.toNat = count) hcounterNames fun _ _ =>
    ?_).bind fun counters hcounters => ?_
  · exact Ensures.imp (returns_integer rfl) fun _ hread => hread.symm
  refine (ensures_textDict (fun gauge x => x = .finite gauge) hgaugeNames fun gauge hgauge =>
    ensures_finite (htyped.numbers gauge hgauge) rfl).bind fun gauges hgauges => ?_
  exact ensures_pure ⟨hheader, hcounters, hgauges⟩

/-- The attributes are read as they are if no double of them was written as an integer. -/
theorem mirrors_nativeOperation {value : Native.NativeOperationEvent} (htyped : value.Typed)
    (hreadable : ∀ key, readable (field (readMap payload) key) = true)
    (hnamed : Keys .nativeOperation payload)
    (hfields : Holds (readMap payload) (objects (value.packed packing)))
    (hheader : HeaderMirrors header value.header) :
    Ensures (fun python => NativeOperationMirrors python value ↔
        ∀ entry ∈ value.attributes, entry.2.Kept packing)
      (nativeOperationEvent header payload) := by
  simp only [Holds, objects, Native.NativeOperationEvent.packed, List.forall_mem_map,
    List.forall_mem_cons] at hfields
  obtain ⟨hoperation, hstarted, hended, hstatus, hcode, hattributes, -⟩ := hfields
  obtain ⟨names, hdict, hnames⟩ :=
    exists_dict_mapping htyped.attributes (hattributes ▸ hreadable "attributes")
  unfold nativeOperationEvent
  simp (disch := decide) only [subscript_of_named hnamed, ok_bind, hattributes, hdict]
  refine (ensures_string hoperation).bind fun operation hoperation => ?_
  refine (ensures_string hstatus).bind fun status hstatus => ?_
  refine (ensures_optionalString hcode).bind fun code hcode => ?_
  refine returns_bind (returns_integer hstarted) ?_
  refine returns_bind (returns_integer hended) ?_
  refine ensures_after fun _ => ?_
  refine (mirrors_attributes htyped.numbers hnames).bind fun attributes hkept => ?_
  refine ensures_pure ?_
  rw [← hkept]
  constructor
  · exact fun hmirrors => hmirrors.attributes
  · intro hattributes
    exact {
      header := hheader
      operation := hoperation
      startedMonotonicNs := rfl
      endedMonotonicNs := rfl
      status := hstatus
      errorCode := hcode
      attributes := hattributes }

end Messages

end Protocol

/-! ## Frames -/

section Frames

variable {packing : FloatPacking} {payload : List (String × Object)} {header : ProtocolHeader}

theorem mirrors_body {message : Native.LiveMessage} (htyped : message.Typed)
    (hreadable : ∀ key, Protocol.readable (field (readMap payload) key) = true)
    (htype : header.messageType = message.type) (hnamed : Protocol.Keys message.type payload)
    (hfields : Holds (readMap payload) (objects (message.body packing)))
    (hheader : HeaderMirrors header message.header) :
    Ensures (fun python => Mirrors Widened python message ↔ message.Kept packing)
      (Protocol.decodeMessageFields header payload) := by
  unfold Protocol.decodeMessageFields
  rw [htype]
  cases message with
  | start value =>
      exact (Protocol.mirrors_start htyped hnamed hfields hheader).map
        fun _ hmirrors => iff_of_true hmirrors trivial
  | identityAssignment value =>
      exact (Protocol.mirrors_identityAssignment htyped hnamed hfields hheader).map
        fun _ hmirrors => iff_of_true hmirrors trivial
  | stop value =>
      exact (Protocol.mirrors_stop hnamed hfields hheader).map
        fun _ hmirrors => iff_of_true hmirrors trivial
  | hello value =>
      exact (Protocol.mirrors_hello hnamed hfields hheader).map
        fun _ hmirrors => iff_of_true hmirrors trivial
  | state value =>
      exact (Protocol.mirrors_state hnamed hfields hheader).map
        fun _ hmirrors => iff_of_true hmirrors trivial
  | outputReady value =>
      exact (Protocol.mirrors_outputReady hnamed hfields hheader).map
        fun _ hmirrors => iff_of_true hmirrors trivial
  | trackEvidence value =>
      exact (Protocol.mirrors_trackEvidence htyped hnamed hfields hheader).map
        fun _ hmirrors => hmirrors
  | trackExpired value =>
      exact (Protocol.mirrors_trackExpired hnamed hfields hheader).map
        fun _ hmirrors => iff_of_true hmirrors trivial
  | metrics value =>
      exact (Protocol.mirrors_metrics htyped hreadable hnamed hfields hheader).map
        fun _ hmirrors => iff_of_true hmirrors trivial
  | failed value =>
      exact (Protocol.mirrors_failed hnamed hfields hheader).map
        fun _ hmirrors => iff_of_true hmirrors trivial
  | stopped value =>
      exact (Protocol.mirrors_stopped hnamed hfields hheader).map
        fun _ hmirrors => iff_of_true hmirrors trivial
  | nativeOperation value =>
      exact (Protocol.mirrors_nativeOperation htyped hreadable hnamed hfields hheader).map
        fun _ hmirrors => hmirrors

/-- The Python side reads the fields of a struct, if they are written as they are. -/
theorem mirrors_encode {message : Native.LiveMessage} (htyped : message.Typed)
    {frame : List UInt8} (hframe : Native.encodeLiveMessage packing message = .ok frame) :
    Ensures (fun python => Mirrors Widened python message ↔ message.Kept packing)
      (Protocol.decodeMessage frame) := by
  intro result hresult
  have hunique : ((objects (message.fields packing)).map Prod.fst).Nodup := by
    rw [Native.names_fields]
    exact nodup_names message.type
  have hcarries : Carries frame (.fields (objects (message.fields packing))) [] := by
    rw [objects, ← Packed.fields_object message.mapSize]
    exact Native.carries_encode htyped hframe
  obtain ⟨header, hheader, htype, hreadable, hnamed, hbody⟩ :=
    exists_decoded (Native.names_fields packing message) hcarries hresult
  obtain ⟨hheaderFields, hbodyFields⟩ := Native.holds_fields (holds_readMap hunique)
  have hread (name : String) (hname : name ∈ Protocol.headerFields) :=
    Protocol.subscript_of_named hnamed (Native.header_names message.type name hname)
  have hmirrors := Protocol.mirrors_header hread hheaderFields header hheader
  have hfieldReadable := Protocol.readable_field
    (Protocol.readable_of_asStringMap hreadable (Object.asStringMap_fields hunique))
  exact mirrors_body htyped hfieldReadable htype hnamed hbodyFields hmirrors result hbody

end Frames

end Mvision.Live
