import Mvision.Live.Mirroring
import Mvision.Live.PythonLanguage

/-!
# One payload read on both sides

Where both decoders accept a payload they read the same message.
-/

namespace Mvision.Live

open Mvision.Library Mvision.Live.Wire
open Protocol (readable ofTexts)
open Native (readMap)

/-! ## One value on both sides -/

section Readers

variable {value : Object}

theorem text_mirrors {python : String} {native : Native.Text}
    (hp : Protocol.string value = .ok python) (hn : Native.stringValue value = .ok native) :
    native = utf8 python := by
  rw [Protocol.string_ok_iff.mp hp, Native.stringValue_text] at hn
  exact (Except.ok.inj hn).symm

theorem optionalText_mirrors {python : Option String} {native : Option Native.Text}
    (hp : Protocol.optionalString value = .ok python)
    (hn : Native.optionalString value = .ok native) : native = python.map utf8 := by
  rw [Protocol.optionalString_ok_iff.mp hp, Native.optionalString_optional] at hn
  exact (Except.ok.inj hn).symm

theorem unsigned_mirrors (hv : value.packable = true) {least python : Nat}
    {minimum native : UInt64} (hp : Protocol.integer value least = .ok python)
    (hn : Native.unsignedInteger value minimum = .ok native) : native.toNat = python := by
  have hvalue := ((Native.unsignedInteger_ok_iff hv).mp hn).1
  rw [(Protocol.integer_ok_iff.mp hp).1, Object.integer.injEq] at hvalue
  exact_mod_cast hvalue.symm

theorem attempts_mirrors (hv : value.packable = true) {python : Int} {native : Int64}
    (hp : Protocol.attempts value = .ok python) (hn : Native.signedInteger value = .ok native) :
    native.toInt = python := by
  obtain ⟨rfl, -⟩ := Protocol.attempts_ok_iff.mp hp
  obtain ⟨hmost, rfl⟩ := Native.signedInteger_ok_iff.mp hn
  have hfits : Object.IntegerFits python := of_decide_eq_true hv
  have hmin : Int64.minValue.toInt = -9223372036854775808 := by decide
  refine Int64.toInt_ofInt_of_le ?_ ?_
  · rw [Object.IntegerFits] at hfits
    omega
  · have hmax : Int64.maxValue.toInt = 9223372036854775807 := by decide
    omega

/-- An integer of a port or of 32 bits has been compared with the largest one. -/
theorem unsigned16_mirrors (hv : value.packable = true) {least python : Nat}
    {minimum native : UInt64} (hp : Protocol.integer value least = .ok python)
    (hn : Native.unsignedInteger value minimum = .ok native) (h : ¬ native > Native.maxUInt16) :
    native.toUInt16.toNat = python := by
  rw [gt_iff_lt, UInt64.not_lt, UInt64.le_iff_toNat_le,
    show Native.maxUInt16.toNat = 65535 by decide] at h
  rw [UInt64.toNat_toUInt16, Nat.mod_eq_of_lt (by omega)]
  exact unsigned_mirrors hv hp hn

theorem unsigned32_mirrors (hv : value.packable = true) {least python : Nat}
    {minimum native : UInt64} (hp : Protocol.integer value least = .ok python)
    (hn : Native.unsignedInteger value minimum = .ok native) (h : ¬ native > Native.maxUInt32) :
    native.toUInt32.toNat = python := by
  rw [gt_iff_lt, UInt64.not_lt, UInt64.le_iff_toNat_le,
    show Native.maxUInt32.toNat = 4294967295 by decide] at h
  rw [UInt64.toNat_toUInt32, Nat.mod_eq_of_lt (by omega)]
  exact unsigned_mirrors hv hp hn

theorem attempts32_mirrors (hv : value.packable = true) {python : Int} {native : Int64}
    (hp : Protocol.attempts value = .ok python) (hn : Native.signedInteger value = .ok native)
    (h : ¬ (native < -1 ∨ native > Native.maxInt32)) : native.toInt32.toInt = python := by
  rw [not_or, gt_iff_lt, Int64.not_lt, Int64.not_lt, Int64.le_iff_toInt_le, Int64.le_iff_toInt_le,
    show (-1 : Int64).toInt = -1 by decide,
    show Native.maxInt32.toInt = 2147483647 by decide] at h
  rw [Int64.toInt_toInt32, Int.bmod_eq_of_le (by omega) (by omega)]
  exact attempts_mirrors hv hp hn

theorem number_mirrors {python native : ℚ} (hp : Protocol.finite value = .ok python)
    (hn : Native.finiteNumber value = .ok native) : native = python :=
  Except.ok.inj (hn.symm.trans hp)

theorem flag_mirrors {python native : Bool} (hp : Protocol.boolean value = .ok python)
    (hn : Native.booleanValue value = .ok native) : native = python :=
  Except.ok.inj (hn.symm.trans hp)

theorem uuid_mirrors {python : String} {native : Native.Text}
    (hp : Protocol.uuid value = .ok python) (hn : Native.uuidValue value = .ok native) :
    UuidMirrors python native := by
  obtain ⟨text, rfl, -, rfl⟩ := Protocol.uuid_ok_iff.mp hp
  refine ⟨text, ?_, rfl⟩
  unfold Native.uuidValue at hn
  rw [Native.stringValue_text, ok_bind] at hn
  split at hn
  · exact (Except.ok.inj hn).symm
  · cases hn

/-- A `float` of a struct is the double of the dataclass, rounded. -/
def Rounded (python : ℚ) (native : FloatValue) : Prop := native = Native.toFloat python

theorem rounded_map (numbers : List ℚ) :
    List.Forall₂ Rounded numbers (numbers.map Native.toFloat) := by
  rw [List.forall₂_map_right_iff]
  exact List.forall₂_same.mpr fun _ _ => rfl

theorem optionalFloat_mirrors {python : Option ℚ} {native : Option FloatValue}
    (hp : Protocol.optionalFinite value = .ok python)
    (hn : Native.optionalFloat value = .ok native) : Option.Rel Rounded python native := by
  unfold Protocol.optionalFinite at hp
  unfold Native.optionalFloat at hn
  split at hp
  · obtain rfl := Except.ok.inj hp
    obtain rfl := Except.ok.inj hn
    exact .none
  · rename_i hnil
    split at hn
    · exact absurd rfl hnil
    obtain ⟨q, hq, rfl⟩ := map_ok_iff.mp hp
    obtain ⟨r, hr, rfl⟩ := map_ok_iff.mp hn
    rw [number_mirrors hq hr]
    exact .some rfl

theorem array_mirrors {size size' : Nat} (hsize : size ≠ 0) {code code' : String}
    {python : List ℚ} {native : List FloatValue}
    (hp : Protocol.finiteArray size value code = .ok python)
    (hn : Native.floatArray size' value code' = .ok native) :
    List.Forall₂ Rounded python native := by
  rw [((Protocol.finiteArray_ok_iff hsize).mp hp).2, Native.floatArray_ok hn]
  exact rounded_map _

theorem embedding_mirrors {size : Nat} {code : String} {python : List ℚ}
    {native : List FloatValue} (hp : Protocol.embedding value = .ok python)
    (hn : Native.floatArray size value code = .ok native) :
    List.Forall₂ Rounded python native := by
  rw [(Protocol.embedding_ok_iff.mp hp).2, Native.floatArray_ok hn]
  exact rounded_map _

end Readers

/-! ## One message on both sides -/

section Messages

variable {header : ProtocolHeader} {header' : Native.ProtocolHeader}
  {payload : List (String × Object)}

theorem header_mirrors
    (hread : ∀ name ∈ Protocol.headerFields,
      Protocol.subscript payload name = .ok (field (readMap payload) name))
    (hpack : ∀ key, (field (readMap payload) key).packable = true)
    (hp : Protocol.header payload = .ok header)
    (hn : Native.decodeHeader (readMap payload) = .ok header') : HeaderMirrors header header' := by
  have hread' (name : String) (hname : name ∈ Native.headerFields) :
      Native.required (readMap payload) name = .ok (field (readMap payload) name) :=
    Protocol.subscript_eq payload name ▸ hread name hname
  unfold Protocol.header at hp
  unfold Native.decodeHeader at hn
  simp (disch := decide) only [hread, ok_bind, bind_ok_iff] at hp
  simp (disch := decide) only [hread', ok_bind, bind_ok_iff] at hn
  obtain ⟨version, hversion, -, -, text, htext, type, htype, parent, hparent, state, hstate, -, -,
    session, hsession, camera, hcamera, run, hrun, generation, hgeneration, attempt, hattempt,
    sequence, hsequence, hresult⟩ := hp
  obtain ⟨version', hversion', ⟨⟩, hsupported, text', htext', -, -, parent', hparent', state',
    hstate', -, -, session', hsession', camera', hcamera', run', hrun', generation', hgeneration',
    attempt', hattempt', sequence', hsequence', hresult'⟩ := hn
  obtain rfl := Except.ok.inj hresult
  obtain rfl := Except.ok.inj hresult'
  obtain rfl := Protocol.messageType_ok_iff.mp htype
  have hversion : version'.toNat = version := unsigned_mirrors (hpack _) hversion hversion'
  obtain rfl : version' = Native.liveProtocolVersion :=
    not_not.mp (Native.failIf_ok_iff.mp hsupported)
  exact {
    protocolVersion := hversion
    messageType := text_mirrors htext htext'
    sessionId := uuid_mirrors hsession hsession'
    cameraId := uuid_mirrors hcamera hcamera'
    runId := uuid_mirrors hrun hrun'
    generation := unsigned_mirrors (hpack _) hgeneration hgeneration'
    runtimeAttempt := unsigned_mirrors (hpack _) hattempt hattempt'
    sequence := unsigned_mirrors (hpack _) hsequence hsequence'
    traceparent := text_mirrors hparent hparent'
    tracestate := optionalText_mirrors hstate hstate' }

theorem observation_mirrors {value : Object} (hr : readable value = true)
    (hv : value.packable = true) {python : LiveObservation} {native : Native.LiveObservation}
    (hp : Protocol.observation value = .ok python)
    (hn : Native.decodeObservation value = .ok native) :
    ObservationMirrors Rounded python native := by
  obtain ⟨hmapped, hkeys⟩ := Protocol.textKeys_of_observation hr hp
  obtain ⟨entries, hdict, hmap⟩ := Protocol.dict_of_textKeys hr hmapped hkeys
  have hpack := Native.packable_field (Native.packable_of_asStringMap hv hmap)
  unfold Protocol.observation at hp
  unfold Native.decodeObservation at hn
  rw [hdict, Option.elim_some, ok_bind] at hp
  rw [Native.objectMap_ok_iff.mpr hmap, ok_bind] at hn
  obtain ⟨⟨⟩, hvalid, hn⟩ := bind_ok_iff.mp hn
  have hnamed := Native.validateExactFields_ok_iff.mp hvalid
  have hread (name : String) (hname : name ∈ Native.observationFields) :=
    Protocol.item_of_named hnamed hname
  simp (disch := decide) only [hread, ok_bind, bind_ok_iff] at hp
  simp (disch := decide) only [Native.required_of_named hnamed, ok_bind, bind_ok_iff] at hn
  obtain ⟨-, -, -, -, bbox, hbbox, landmarks, hlandmarks, confidences, hconfidences, embedding,
    hembedding, time, htime, detector, hdetector, quality, hquality, mask, hmask, hresult⟩ := hp
  obtain ⟨time', htime', bbox', hbbox', detector', hdetector', landmarks', hlandmarks', confidences',
    hconfidences', quality', hquality', mask', hmask', embedding', hembedding', -, -,
    hresult'⟩ := hn
  obtain rfl := Except.ok.inj hresult
  obtain rfl := Except.ok.inj hresult'
  exact {
    timestampNs := unsigned_mirrors (hpack _) htime htime'
    bbox := array_mirrors (by decide) hbbox hbbox'
    detectorConfidence := congrArg Native.toFloat (number_mirrors hdetector hdetector')
    landmarks := array_mirrors (by decide) hlandmarks hlandmarks'
    landmarkConfidences := array_mirrors (by decide) hconfidences hconfidences'
    qualityScore := congrArg Native.toFloat (number_mirrors hquality hquality')
    rejectMask := unsigned_mirrors (hpack _) hmask hmask'
    embedding := embedding_mirrors hembedding hembedding' }

/-- The entries of a dictionary of texts next to those of the map. -/
theorem forall₂_entries {entries : List (String × Object)}
    {R : Protocol.DictKey × Object → Native.Text × Object → Prop}
    (h : ∀ entry ∈ entries, R (.text entry.1, entry.2) (utf8 entry.1, entry.2)) :
    List.Forall₂ R (ofTexts entries) (readMap entries) := by
  unfold ofTexts readMap
  rw [List.forall₂_map_left_iff, List.forall₂_map_right_iff]
  exact List.forall₂_same.mpr h

/-- Two readings of a map, entry by entry. -/
theorem textDict_mirrors {α β : Type} {read : Object → Except String α}
    {read' : Object → Except String β} {R : α → β → Prop} {value : Object}
    (hr : readable value = true) {entries : List (Protocol.DictKey × Object)}
    {entries' : Native.ObjectMap} (hdict : Protocol.dict value = some entries)
    (hmap : value.asStringMap = some entries')
    (h : ∀ entry ∈ entries', ∀ a b, read entry.2 = .ok a → read' entry.2 = .ok b → R a b)
    {python : List (String × α)} {native : List (Native.Text × β)}
    (hp : Protocol.textDict read entries = .ok python)
    (hn : Native.mapValues read' entries' = .ok native) :
    List.Forall₂ (fun entry other => other.1 = utf8 entry.1 ∧ R entry.2 other.2)
      python native := by
  have hkeys := Protocol.textKeys_of_dict hr hdict (Protocol.text_of_textDict ⟨python, hp⟩)
  obtain ⟨payload, hdict', hmap'⟩ :=
    Protocol.dict_of_textKeys hr (Protocol.isMap_of_dict hdict) hkeys
  obtain rfl : entries = ofTexts payload := Option.some.inj (hdict.symm.trans hdict')
  obtain rfl : entries' = readMap payload := Option.some.inj (hmap.symm.trans hmap')
  refine forall₂_of_mapM_mapM (forall₂_entries fun entry hentry a b ha hb => ?_) hp hn
  obtain ⟨value, hvalue, rfl⟩ := map_ok_iff.mp ha
  obtain ⟨value', hvalue', rfl⟩ := map_ok_iff.mp hb
  exact ⟨rfl, h _ (List.mem_map_of_mem hentry) value value' hvalue hvalue'⟩

theorem attribute_mirrors {name : String} {value : Object} (hv : value.packable = true)
    {python : String × NativeAttribute} {native : Native.Text × Native.NativeAttribute}
    (hp : Protocol.nativeAttribute (.text name, value) = .ok python)
    (hn : Native.decodeAttribute (utf8 name, value) = .ok native) :
    native.1 = utf8 python.1 ∧ AttributeMirrors python.2 native.2 := by
  unfold Protocol.nativeAttribute at hp
  unfold Native.decodeAttribute at hn
  obtain ⟨-, -, hn⟩ := bind_ok_iff.mp hn
  dsimp only at hp hn
  split at hp
  · cases hp
  cases value with
  | str bytes =>
      dsimp only at hp hn
      obtain ⟨-, -, hn⟩ := bind_ok_iff.mp hn
      obtain rfl := Except.ok.inj hn
      split at hp
      · rename_i text htext
        split at hp
        · obtain rfl := Except.ok.inj hp
          exact ⟨rfl, (ofUtf8_eq_some_iff.mp htext).symm⟩
        · cases hp
      · cases hp
  | integer n =>
      dsimp only at hp hn
      obtain rfl := Except.ok.inj hp
      obtain ⟨signed, hsigned, hn⟩ := bind_ok_iff.mp hn
      obtain rfl := Except.ok.inj hn
      obtain ⟨hmost, rfl⟩ := Native.signedInteger_ok_iff.mp hsigned
      have hfits : Object.IntegerFits n := of_decide_eq_true hv
      refine ⟨rfl, Int64.toInt_ofInt_of_le hfits.1 ?_⟩
      have hmax : Int64.maxValue.toInt = 9223372036854775807 := by decide
      omega
  | float x =>
      dsimp only at hp hn
      obtain ⟨q, hq, rfl⟩ := map_ok_iff.mp hp
      obtain ⟨r, hr, hn⟩ := bind_ok_iff.mp hn
      obtain rfl := Except.ok.inj hn
      exact ⟨rfl, congrArg FloatValue.finite (number_mirrors hq hr)⟩
  | _ => cases hp

theorem attributes_mirrors {value : Object} (hr : readable value = true)
    (hv : value.packable = true) {entries : List (Protocol.DictKey × Object)}
    {entries' : Native.ObjectMap} (hdict : Protocol.dict value = some entries)
    (hmap : value.asStringMap = some entries') {python : List (String × NativeAttribute)}
    {native : List (Native.Text × Native.NativeAttribute)}
    (hp : entries.mapM Protocol.nativeAttribute = .ok python)
    (hn : entries'.mapM Native.decodeAttribute = .ok native) :
    List.Forall₂ (fun entry other => other.1 = utf8 entry.1 ∧ AttributeMirrors entry.2 other.2)
      python native := by
  have hkeys := Protocol.textKeys_of_dict hr hdict (Protocol.text_of_attributes ⟨python, hp⟩)
  obtain ⟨payload, hdict', hmap'⟩ :=
    Protocol.dict_of_textKeys hr (Protocol.isMap_of_dict hdict) hkeys
  obtain rfl : entries = ofTexts payload := Option.some.inj (hdict.symm.trans hdict')
  obtain rfl : entries' = readMap payload := Option.some.inj (hmap.symm.trans hmap')
  have hfits := Native.packable_of_asStringMap hv hmap
  exact forall₂_of_mapM_mapM (forall₂_entries fun entry hentry _ _ ha hb =>
    attribute_mirrors (hfits _ (List.mem_map_of_mem hentry)) ha hb) hp hn

theorem faceId_mirrors {value : Object} {text python : Option String}
    {native : Option Native.Text} (htext : Protocol.optionalString value = .ok text)
    (hp : Protocol.faceIdOf text = .ok python) (hn : Native.optionalString value = .ok native) :
    Option.Rel UuidMirrors python native := by
  rw [optionalText_mirrors htext hn]
  cases text with
  | none =>
      obtain rfl := Except.ok.inj hp
      exact .none
  | some text =>
      obtain ⟨id, hid, rfl⟩ := map_ok_iff.mp hp
      exact .some ⟨text, rfl, (Protocol.uuidOf_ok_iff.mp hid).2.symm⟩

theorem reference_mirrors {value : Object} {state : AssignedState} {state' : Native.Text}
    (hstate : state = .known ↔ state' = utf8 "known") {display face : Option String}
    {display' face' : Option Native.Text} {score threshold : Option ℚ}
    {score' threshold' : Option FloatValue} {python : Option (List ℚ)}
    {native : Option (List FloatValue)}
    (hp : Protocol.referenceEmbedding state display face score threshold value = .ok python)
    (hn : Native.decodeReference state' display' face' score' threshold' value = .ok native) :
    Option.Rel (List.Forall₂ Rounded) python native := by
  unfold Protocol.referenceEmbedding at hp
  unfold Native.decodeReference at hn
  by_cases hknown : state = .known
  · rw [if_pos hknown] at hp
    rw [if_pos (hstate.mp hknown)] at hn
    obtain ⟨-, -, hp⟩ := bind_ok_iff.mp hp
    obtain ⟨embedding, hembedding, rfl⟩ := map_ok_iff.mp hp
    obtain ⟨-, -, hn⟩ := bind_ok_iff.mp hn
    obtain ⟨embedding', hembedding', hn⟩ := bind_ok_iff.mp hn
    obtain ⟨-, -, hn⟩ := bind_ok_iff.mp hn
    obtain rfl := Except.ok.inj hn
    exact .some (embedding_mirrors hembedding hembedding')
  · rw [if_neg hknown] at hp
    rw [if_neg (mt hstate.mpr hknown)] at hn
    obtain ⟨-, -, hp⟩ := bind_ok_iff.mp hp
    obtain ⟨-, -, hn⟩ := bind_ok_iff.mp hn
    obtain rfl := Except.ok.inj hp
    obtain rfl := Except.ok.inj hn
    exact .none

variable (hheader : HeaderMirrors header header')
include hheader

theorem stop_mirrors (hnamed : Protocol.Keys .stop payload)
    (hpack : ∀ key, (field (readMap payload) key).packable = true) {python : StopCommand}
    {native : Native.StopCommand} (hp : Protocol.stopCommand header payload = .ok python)
    (hn : Native.decodeStop header' (readMap payload) = .ok native) :
    StopMirrors python native := by
  unfold Protocol.stopCommand at hp
  unfold Native.decodeStop at hn
  simp (disch := decide) only [Protocol.subscript_of_named hnamed, ok_bind, bind_ok_iff] at hp
  simp (disch := decide) only [Native.required_of_named hnamed, ok_bind, bind_ok_iff] at hn
  obtain ⟨reason, hreason, deadline, hdeadline, hresult⟩ := hp
  obtain ⟨-, -, reason', hreason', deadline', hdeadline', hresult'⟩ := hn
  obtain rfl := Except.ok.inj hresult
  obtain rfl := Except.ok.inj hresult'
  exact {
    header := hheader
    reason := text_mirrors hreason hreason'
    shutdownDeadlineNs := unsigned_mirrors (hpack _) hdeadline hdeadline' }

theorem hello_mirrors (hnamed : Protocol.Keys .hello payload) {python : HelloEvent}
    {native : Native.HelloEvent} (hp : Protocol.helloEvent header payload = .ok python)
    (hn : Native.decodeHello header' (readMap payload) = .ok native) :
    HelloMirrors python native := by
  unfold Protocol.helloEvent at hp
  unfold Native.decodeHello at hn
  simp (disch := decide) only [Protocol.subscript_of_named hnamed, ok_bind, bind_ok_iff] at hp
  simp (disch := decide) only [Native.required_of_named hnamed, ok_bind, bind_ok_iff] at hn
  obtain ⟨build, hbuild, gstreamer, hgstreamer, deepstream, hdeepstream, hresult⟩ := hp
  obtain ⟨-, -, build', hbuild', gstreamer', hgstreamer', deepstream', hdeepstream', hresult'⟩ := hn
  obtain rfl := Except.ok.inj hresult
  obtain rfl := Except.ok.inj hresult'
  exact {
    header := hheader
    buildId := text_mirrors hbuild hbuild'
    gstreamerVersion := text_mirrors hgstreamer hgstreamer'
    deepstreamVersion := text_mirrors hdeepstream hdeepstream' }

theorem state_mirrors (hnamed : Protocol.Keys .state payload) {python : StateEvent}
    {native : Native.StateEvent} (hp : Protocol.stateEvent header payload = .ok python)
    (hn : Native.decodeState header' (readMap payload) = .ok native) :
    StateMirrors python native := by
  unfold Protocol.stateEvent at hp
  unfold Native.decodeState at hn
  simp (disch := decide) only [Protocol.subscript_of_named hnamed, ok_bind, bind_ok_iff] at hp
  simp (disch := decide) only [Native.required_of_named hnamed, ok_bind, bind_ok_iff] at hn
  obtain ⟨text, htext, state, hstate, reason, hreason, hresult⟩ := hp
  obtain ⟨-, -, text', htext', -, -, reason', hreason', hresult'⟩ := hn
  obtain rfl := Except.ok.inj hresult
  obtain rfl := Except.ok.inj hresult'
  obtain rfl := Protocol.runtimeState_ok_iff.mp hstate
  exact {
    header := hheader
    state := text_mirrors htext htext'
    reason := optionalText_mirrors hreason hreason' }

theorem outputReady_mirrors (hnamed : Protocol.Keys .outputReady payload)
    {python : OutputReadyEvent} {native : Native.OutputReadyEvent}
    (hp : Protocol.outputReadyEvent header payload = .ok python)
    (hn : Native.decodeOutputReady header' (readMap payload) = .ok native) :
    OutputReadyMirrors python native := by
  unfold Protocol.outputReadyEvent at hp
  unfold Native.decodeOutputReady at hn
  simp (disch := decide) only [Protocol.subscript_of_named hnamed, ok_bind, bind_ok_iff] at hp
  simp (disch := decide) only [Native.required_of_named hnamed, ok_bind, bind_ok_iff] at hn
  obtain ⟨mount, hmount, codec, hcodec, caps, hcaps, hresult⟩ := hp
  obtain ⟨-, -, mount', hmount', codec', hcodec', caps', hcaps', hresult'⟩ := hn
  obtain rfl := Except.ok.inj hresult
  obtain rfl := Except.ok.inj hresult'
  exact {
    header := hheader
    mountPath := text_mirrors hmount hmount'
    codec := text_mirrors hcodec hcodec'
    caps := text_mirrors hcaps hcaps' }

theorem failed_mirrors (hnamed : Protocol.Keys .failed payload) {python : FailedEvent}
    {native : Native.FailedEvent} (hp : Protocol.failedEvent header payload = .ok python)
    (hn : Native.decodeFailed header' (readMap payload) = .ok native) :
    FailedMirrors python native := by
  unfold Protocol.failedEvent at hp
  unfold Native.decodeFailed at hn
  simp (disch := decide) only [Protocol.subscript_of_named hnamed, ok_bind, bind_ok_iff] at hp
  simp (disch := decide) only [Native.required_of_named hnamed, ok_bind, bind_ok_iff] at hn
  obtain ⟨code, hcode, text, htext, hresult⟩ := hp
  obtain ⟨-, -, code', hcode', text', htext', hresult'⟩ := hn
  obtain rfl := Except.ok.inj hresult
  obtain rfl := Except.ok.inj hresult'
  exact {
    header := hheader
    errorCode := text_mirrors hcode hcode'
    message := text_mirrors htext htext' }

theorem trackExpired_mirrors (hnamed : Protocol.Keys .trackExpired payload)
    (hpack : ∀ key, (field (readMap payload) key).packable = true) {python : TrackExpiredEvent}
    {native : Native.TrackExpiredEvent}
    (hp : Protocol.trackExpiredEvent header payload = .ok python)
    (hn : Native.decodeTrackExpired header' (readMap payload) = .ok native) :
    TrackExpiredMirrors python native := by
  unfold Protocol.trackExpiredEvent at hp
  unfold Native.decodeTrackExpired at hn
  simp (disch := decide) only [Protocol.subscript_of_named hnamed, ok_bind, bind_ok_iff] at hp
  simp (disch := decide) only [Native.required_of_named hnamed, ok_bind, bind_ok_iff] at hn
  obtain ⟨tracker, htracker, revision, hrevision, first, hfirst, last, hlast, reason, hreason,
    hresult⟩ := hp
  obtain ⟨-, -, tracker', htracker', revision', hrevision', first', hfirst', last', hlast', reason',
    hreason', hresult'⟩ := hn
  obtain rfl := Except.ok.inj hresult
  obtain rfl := Except.ok.inj hresult'
  exact {
    header := hheader
    trackerId := unsigned_mirrors (hpack _) htracker htracker'
    evidenceRevision := unsigned_mirrors (hpack _) hrevision hrevision'
    firstSeenNs := unsigned_mirrors (hpack _) hfirst hfirst'
    lastSeenNs := unsigned_mirrors (hpack _) hlast hlast'
    reason := text_mirrors hreason hreason' }

theorem stopped_mirrors (hnamed : Protocol.Keys .stopped payload)
    (hpack : ∀ key, (field (readMap payload) key).packable = true) {python : StoppedEvent}
    {native : Native.StoppedEvent} (hp : Protocol.stoppedEvent header payload = .ok python)
    (hn : Native.decodeStopped header' (readMap payload) = .ok native) :
    StoppedMirrors python native := by
  unfold Protocol.stoppedEvent at hp
  unfold Native.decodeStopped at hn
  simp (disch := decide) only [Protocol.subscript_of_named hnamed, ok_bind, bind_ok_iff] at hp
  simp (disch := decide) only [Native.required_of_named hnamed, ok_bind, bind_ok_iff] at hn
  obtain ⟨clean, hclean, decoded, hdecoded, emitted, hemitted, dropped, hdropped, reason, hreason,
    hresult⟩ := hp
  obtain ⟨-, -, clean', hclean', decoded', hdecoded', emitted', hemitted', dropped', hdropped',
    reason', hreason', hresult'⟩ := hn
  obtain rfl := Except.ok.inj hresult
  obtain rfl := Except.ok.inj hresult'
  exact {
    header := hheader
    decodedFrames := unsigned_mirrors (hpack _) hdecoded hdecoded'
    emittedEvidence := unsigned_mirrors (hpack _) hemitted hemitted'
    droppedEvents := unsigned_mirrors (hpack _) hdropped hdropped'
    cleanShutdown := flag_mirrors hclean hclean'
    reason := text_mirrors hreason hreason' }

/-- The worker narrows the number of the GPU without a check. -/
theorem start_mirrors (hnamed : Protocol.Keys .start payload)
    (hpack : ∀ key, (field (readMap payload) key).packable = true) {python : StartCommand}
    {native : Native.StartCommand} (hp : Protocol.startCommand header payload = .ok python)
    (hn : Native.decodeStart header' (readMap payload) = .ok native) :
    StartMirrors python native ↔ AtMost 4294967295 (field (readMap payload) "gpu_id") := by
  unfold Protocol.startCommand at hp
  unfold Native.decodeStart at hn
  simp (disch := decide) only [Protocol.subscript_of_named hnamed, ok_bind, bind_ok_iff] at hp
  simp (disch := decide) only [Native.required_of_named hnamed, ok_bind, bind_ok_iff,
    Native.failIf_ok_iff] at hn
  obtain ⟨attempts, hattempts, mode, hmode, -, -, detector, hdetector, recognition, hrecognition,
    margin, hmargin, -, -, recording, hrecording, annotated, hannotated, uri, huri, gpu, hgpu_id,
    pgie, hpgie, preprocess, hpreprocess, sgie, hsgie, tracker, htracker, mount, hmount, udp, hudp,
    rtsp, hrtsp, profile, hprofile, sample, hsample, gap, hgap, latency, hlatency, interval,
    hinterval, timeout, htimeout, hresult⟩ := hp
  obtain ⟨⟨⟩, -, udp', hudp', rtsp', hrtsp', profile', hprofile', sample', hsample', latency',
    hlatency', interval', hinterval', ⟨⟩, hbounds, attempts', hattempts', ⟨⟩, hrange, mode', hmode',
    ⟨⟩, -, detector', hdetector', recognition', hrecognition', margin', hmargin', ⟨⟩, -, recording',
    hrecording', annotated', hannotated', uri', huri', gpu', hgpu_id', pgie', hpgie', preprocess',
    hpreprocess', sgie', hsgie', tracker', htracker', mount', hmount', gap', hgap', timeout',
    htimeout', hresult'⟩ := hn
  obtain rfl := Except.ok.inj hresult
  obtain rfl := Except.ok.inj hresult'
  simp only [not_or] at hbounds
  obtain ⟨hudp_most, hrtsp_most, hprofile_most, hsample_most, hlatency_most, hinterval_most⟩ :=
    hbounds
  refine ⟨fun h n hn => ?_, fun hgpu => ?_⟩
  · rw [(Protocol.integer_ok_iff.mp hgpu_id).1, Object.integer.injEq] at hn
    have hbound : gpu'.toUInt32.toNat < 4294967296 := gpu'.toUInt32.toNat_lt
    have hgpu_eq : gpu'.toUInt32.toNat = gpu := h.gpuId
    omega
  have hgpu_most : ¬ gpu' > Native.maxUInt32 :=
    (Native.not_gt_iff (hpack "gpu_id") hgpu_id').mpr hgpu
  exact {
    header := hheader
    uri := text_mirrors huri huri'
    gpuId := unsigned32_mirrors (hpack _) hgpu_id hgpu_id' hgpu_most
    pgieConfigPath := text_mirrors hpgie hpgie'
    preprocessConfigPath := text_mirrors hpreprocess hpreprocess'
    sgieConfigPath := text_mirrors hsgie hsgie'
    trackerConfigPath := text_mirrors htracker htracker'
    outputMountPath := text_mirrors hmount hmount'
    outputUdpPort := unsigned16_mirrors (hpack _) hudp hudp' hudp_most
    outputRtspPort := unsigned16_mirrors (hpack _) hrtsp hrtsp' hrtsp_most
    profileVersion := unsigned32_mirrors (hpack _) hprofile hprofile' hprofile_most
    analyticsMode := text_mirrors hmode hmode'
    sampleEveryN := unsigned32_mirrors (hpack _) hsample hsample' hsample_most
    detectorThreshold := congrArg FloatValue.finite (number_mirrors hdetector hdetector')
    recognitionThreshold :=
      congrArg FloatValue.finite (number_mirrors hrecognition hrecognition')
    top2Margin := congrArg FloatValue.finite (number_mirrors hmargin hmargin')
    trackGapNs := unsigned_mirrors (hpack _) hgap hgap'
    latencyMs := unsigned32_mirrors (hpack _) hlatency hlatency' hlatency_most
    reconnectIntervalSeconds := unsigned32_mirrors (hpack _) hinterval hinterval' hinterval_most
    reconnectAttempts := attempts32_mirrors (hpack _) hattempts hattempts' hrange
    frameTimeoutNs := unsigned_mirrors (hpack _) htimeout htimeout'
    recordingEnabled := flag_mirrors hrecording hrecording'
    annotatedEnabled := flag_mirrors hannotated hannotated' }

theorem trackEvidence_mirrors (hnamed : Protocol.Keys .trackEvidence payload)
    (hr : ∀ key, readable (field (readMap payload) key) = true)
    (hpack : ∀ key, (field (readMap payload) key).packable = true) {python : TrackEvidenceEvent}
    {native : Native.TrackEvidenceEvent}
    (hp : Protocol.trackEvidenceEvent header payload = .ok python)
    (hn : Native.decodeTrackEvidence header' (readMap payload) = .ok native) :
    TrackEvidenceMirrors Rounded python native := by
  unfold Protocol.trackEvidenceEvent at hp
  unfold Native.decodeTrackEvidence at hn
  simp (disch := decide) only [Protocol.subscript_of_named hnamed, ok_bind, bind_ok_iff] at hp
  simp (disch := decide) only [Native.required_of_named hnamed, ok_bind, bind_ok_iff] at hn
  obtain ⟨items, hitems, observations, hobservations, -, -, jpeg, hjpeg, tracker, htracker,
    revision, hrevision, first, hfirst, last, hlast, hresult⟩ := hp
  obtain ⟨-, -, items', hitems', observations', hobservations', jpeg', hjpeg', tracker', htracker',
    revision', hrevision', first', hfirst', last', hlast', hresult'⟩ := hn
  obtain rfl := Except.ok.inj hresult
  obtain rfl := Except.ok.inj hresult'
  obtain ⟨-, rfl⟩ := Protocol.list_ok_iff.mp hitems
  obtain ⟨-, -, rfl⟩ := Native.observationItems_ok_iff.mp hitems'
  have hmirrors : List.Forall₂ (fun item item' => ∀ python native,
      Protocol.observation item = .ok python → Native.decodeObservation item' = .ok native →
        ObservationMirrors Rounded python native)
      (Wire.items (field (readMap payload) "observations"))
      (Wire.items (field (readMap payload) "observations")) :=
    List.forall₂_same.mpr fun item hitem python native =>
      observation_mirrors (Protocol.readable_items (hr "observations") item hitem)
        (Native.packable_items (hpack "observations") item hitem)
  exact {
    header := hheader
    trackerId := unsigned_mirrors (hpack _) htracker htracker'
    evidenceRevision := unsigned_mirrors (hpack _) hrevision hrevision'
    firstSeenNs := unsigned_mirrors (hpack _) hfirst hfirst'
    lastSeenNs := unsigned_mirrors (hpack _) hlast hlast'
    observations := forall₂_of_mapM_mapM hmirrors hobservations hobservations'
    representativeAlignedJpeg := Except.ok.inj (hjpeg'.symm.trans hjpeg) }

theorem metrics_mirrors (hnamed : Protocol.Keys .metrics payload)
    (hr : ∀ key, readable (field (readMap payload) key) = true)
    (hpack : ∀ key, (field (readMap payload) key).packable = true) {python : MetricsEvent}
    {native : Native.MetricsEvent} (hp : Protocol.metricsEvent header payload = .ok python)
    (hn : Native.decodeMetrics header' (readMap payload) = .ok native) :
    MetricsMirrors python native := by
  unfold Protocol.metricsEvent at hp
  unfold Native.decodeMetrics at hn
  simp (disch := decide) only [Protocol.subscript_of_named hnamed, ok_bind, bind_ok_iff,
    Protocol.dict_ok_iff] at hp
  simp (disch := decide) only [Native.required_of_named hnamed, ok_bind, bind_ok_iff,
    Native.objectMap_ok_iff] at hn
  obtain ⟨counterDict, hcounterDict, gaugeDict, hgaugeDict, counters, hcounters, gauges, hgauges,
    hresult⟩ := hp
  obtain ⟨-, -, -, -, counterMap, hcounterMap, counters', hcounters', gaugeMap, hgaugeMap, gauges',
    hgauges', hresult'⟩ := hn
  obtain rfl := Except.ok.inj hresult
  obtain rfl := Except.ok.inj hresult'
  have hfits := Native.packable_of_asStringMap (hpack "counters") hcounterMap
  exact {
    header := hheader
    counters := textDict_mirrors (hr "counters") hcounterDict hcounterMap
      (fun entry hentry _ _ hp hn => unsigned_mirrors (hfits entry hentry) hp hn) hcounters
      hcounters'
    gauges := by
      rw [List.forall₂_map_right_iff]
      exact textDict_mirrors (hr "gauges") hgaugeDict hgaugeMap
        (fun _ _ _ _ hp hn => congrArg FloatValue.finite (number_mirrors hp hn)) hgauges
        hgauges' }

theorem nativeOperation_mirrors (hnamed : Protocol.Keys .nativeOperation payload)
    (hr : ∀ key, readable (field (readMap payload) key) = true)
    (hpack : ∀ key, (field (readMap payload) key).packable = true)
    {python : NativeOperationEvent} {native : Native.NativeOperationEvent}
    (hp : Protocol.nativeOperationEvent header payload = .ok python)
    (hn : Native.decodeNativeOperation header' (readMap payload) = .ok native) :
    NativeOperationMirrors python native := by
  unfold Protocol.nativeOperationEvent at hp
  unfold Native.decodeNativeOperation at hn
  simp (disch := decide) only [Protocol.subscript_of_named hnamed, ok_bind, bind_ok_iff,
    Native.failIf_ok_iff, not_or] at hp
  simp (disch := decide) only [Native.required_of_named hnamed, ok_bind, bind_ok_iff,
    Native.objectMap_ok_iff] at hn
  obtain ⟨operation, hoperation, status, hstatus, code, hcode, started, hstarted, ended, hended,
    ⟨⟩, ⟨-, -, -, -, -, -, hsome, -⟩, attributes, hattributes, hresult⟩ := hp
  obtain ⟨-, -, operation', hoperation', status', hstatus', code', hcode', started', hstarted',
    ended', hended', -, -, entries', hentries', attributes', hattributes', hresult'⟩ := hn
  obtain rfl := Except.ok.inj hresult
  obtain rfl := Except.ok.inj hresult'
  obtain ⟨entries, hentries⟩ := Option.ne_none_iff_exists'.mp hsome
  rw [hentries, Option.getD_some] at hattributes
  exact {
    header := hheader
    operation := text_mirrors hoperation hoperation'
    startedMonotonicNs := unsigned_mirrors (hpack _) hstarted hstarted'
    endedMonotonicNs := unsigned_mirrors (hpack _) hended hended'
    status := text_mirrors hstatus hstatus'
    errorCode := optionalText_mirrors hcode hcode'
    attributes := attributes_mirrors (hr "attributes") (hpack "attributes") hentries hentries'
      hattributes hattributes' }

theorem identityAssignment_mirrors (hnamed : Protocol.Keys .identityAssignment payload)
    (hpack : ∀ key, (field (readMap payload) key).packable = true) {python : IdentityAssignment}
    {native : Native.IdentityAssignment}
    (hp : Protocol.identityAssignment header payload = .ok python)
    (hn : Native.decodeIdentityAssignment header' (readMap payload) = .ok native) :
    IdentityAssignmentMirrors Rounded python native := by
  unfold Protocol.identityAssignment at hp
  unfold Native.decodeIdentityAssignment at hn
  simp (disch := decide) only [Protocol.subscript_of_named hnamed, ok_bind, bind_ok_iff] at hp
  simp (disch := decide) only [Native.required_of_named hnamed, ok_bind, bind_ok_iff] at hn
  obtain ⟨text, htext, state, hstate, face, hface, faceId, hfaceId, score, hscore, threshold,
    hthreshold, display, hdisplay, reference, hreference, tracker, htracker, revision, hrevision,
    epoch, hepoch, decision, hdecision, hresult⟩ := hp
  obtain ⟨-, -, text', htext', -, -, display', hdisplay', face', hface', -, -, score', hscore',
    threshold', hthreshold', reference', hreference', tracker', htracker', revision', hrevision',
    epoch', hepoch', decision', hdecision', hresult'⟩ := hn
  obtain rfl := Except.ok.inj hresult
  obtain rfl := Except.ok.inj hresult'
  have htexts := text_mirrors htext htext'
  have hknown : state = .known ↔ text' = utf8 "known" := by
    rw [htexts, utf8_inj]
    rcases Protocol.identityState_ok_iff.mp hstate with ⟨rfl, rfl⟩ | ⟨rfl, rfl⟩ <;> decide
  have hstateText : state.text = text := by
    rcases Protocol.identityState_ok_iff.mp hstate with ⟨rfl, rfl⟩ | ⟨rfl, rfl⟩ <;> rfl
  exact {
    header := hheader
    trackerId := unsigned_mirrors (hpack _) htracker htracker'
    assignmentRevision := unsigned_mirrors (hpack _) hrevision hrevision'
    identityEpoch := unsigned_mirrors (hpack _) hepoch hepoch'
    identityState := htexts.trans (congrArg utf8 hstateText.symm)
    displayName := optionalText_mirrors hdisplay hdisplay'
    faceId := faceId_mirrors hface hfaceId hface'
    matchScore := optionalFloat_mirrors hscore hscore'
    recognitionThreshold := optionalFloat_mirrors hthreshold hthreshold'
    referenceEmbedding := reference_mirrors hknown hreference hreference'
    decisionSequence := unsigned_mirrors (hpack _) hdecision hdecision' }

theorem message_mirrors {type : MessageType} (hnamed : Protocol.Keys type payload)
    (hr : ∀ key, readable (field (readMap payload) key) = true)
    (hpack : ∀ key, (field (readMap payload) key).packable = true)
    (htype : header.messageType = type) {python : LiveMessage} {native : Native.LiveMessage}
    (hp : Protocol.decodeMessageFields header payload = .ok python)
    (hn : Native.decodeBody type header' (readMap payload) = .ok native) :
    Mirrors Rounded python native ↔
      (type = .start → AtMost 4294967295 (field (readMap payload) "gpu_id")) := by
  unfold Protocol.decodeMessageFields at hp
  rw [htype] at hp
  unfold Native.decodeBody at hn
  cases type with
  | start =>
      obtain ⟨p, hpython, rfl⟩ := map_ok_iff.mp hp
      obtain ⟨n, hnative, rfl⟩ := map_ok_iff.mp hn
      exact (start_mirrors hheader hnamed hpack hpython hnative).trans
        ⟨fun hgpu _ => hgpu, fun hgpu => hgpu rfl⟩
  | identityAssignment =>
      obtain ⟨p, hpython, rfl⟩ := map_ok_iff.mp hp
      obtain ⟨n, hnative, rfl⟩ := map_ok_iff.mp hn
      exact iff_of_true (identityAssignment_mirrors hheader hnamed hpack hpython hnative) nofun
  | stop =>
      obtain ⟨p, hpython, rfl⟩ := map_ok_iff.mp hp
      obtain ⟨n, hnative, rfl⟩ := map_ok_iff.mp hn
      exact iff_of_true (stop_mirrors hheader hnamed hpack hpython hnative) nofun
  | hello =>
      obtain ⟨p, hpython, rfl⟩ := map_ok_iff.mp hp
      obtain ⟨n, hnative, rfl⟩ := map_ok_iff.mp hn
      exact iff_of_true (hello_mirrors hheader hnamed hpython hnative) nofun
  | state =>
      obtain ⟨p, hpython, rfl⟩ := map_ok_iff.mp hp
      obtain ⟨n, hnative, rfl⟩ := map_ok_iff.mp hn
      exact iff_of_true (state_mirrors hheader hnamed hpython hnative) nofun
  | outputReady =>
      obtain ⟨p, hpython, rfl⟩ := map_ok_iff.mp hp
      obtain ⟨n, hnative, rfl⟩ := map_ok_iff.mp hn
      exact iff_of_true (outputReady_mirrors hheader hnamed hpython hnative) nofun
  | trackEvidence =>
      obtain ⟨p, hpython, rfl⟩ := map_ok_iff.mp hp
      obtain ⟨n, hnative, rfl⟩ := map_ok_iff.mp hn
      exact iff_of_true (trackEvidence_mirrors hheader hnamed hr hpack hpython hnative) nofun
  | trackExpired =>
      obtain ⟨p, hpython, rfl⟩ := map_ok_iff.mp hp
      obtain ⟨n, hnative, rfl⟩ := map_ok_iff.mp hn
      exact iff_of_true (trackExpired_mirrors hheader hnamed hpack hpython hnative) nofun
  | metrics =>
      obtain ⟨p, hpython, rfl⟩ := map_ok_iff.mp hp
      obtain ⟨n, hnative, rfl⟩ := map_ok_iff.mp hn
      exact iff_of_true (metrics_mirrors hheader hnamed hr hpack hpython hnative) nofun
  | failed =>
      obtain ⟨p, hpython, rfl⟩ := map_ok_iff.mp hp
      obtain ⟨n, hnative, rfl⟩ := map_ok_iff.mp hn
      exact iff_of_true (failed_mirrors hheader hnamed hpython hnative) nofun
  | stopped =>
      obtain ⟨p, hpython, rfl⟩ := map_ok_iff.mp hp
      obtain ⟨n, hnative, rfl⟩ := map_ok_iff.mp hn
      exact iff_of_true (stopped_mirrors hheader hnamed hpack hpython hnative) nofun
  | nativeOperation =>
      obtain ⟨p, hpython, rfl⟩ := map_ok_iff.mp hp
      obtain ⟨n, hnative, rfl⟩ := map_ok_iff.mp hn
      exact iff_of_true (nativeOperation_mirrors hheader hnamed hr hpack hpython hnative) nofun

end Messages

end Mvision.Live
