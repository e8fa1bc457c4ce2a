import Mvision.Live.PayloadFields

/-!
# A dataclass that is encoded and decoded

What `decode_message` reads of the bytes of `encode_message`: the message, with its UUIDs in
lower case.
-/

namespace Mvision.Live

open Mvision.Library Mvision.Live.Wire
open Native (readMap)

/-! ## Frames -/

/-- The entries of an observation. -/
def LiveObservation.entries (observation : LiveObservation) : List (String × Object) :=
  [("timestamp_ns", natural observation.timestampNs),
   ("bbox", numbers observation.bbox),
   ("detector_confidence", number observation.detectorConfidence),
   ("landmarks", numbers observation.landmarks),
   ("landmark_confidences", numbers observation.landmarkConfidences),
   ("quality_score", number observation.qualityScore),
   ("reject_mask", natural observation.rejectMask),
   ("embedding", numbers observation.embedding)]

/-- `encode_message`, with the bytes that `packb` writes. -/
def encodeFrame (message : LiveMessage) : Except String (List UInt8) :=
  (fun packed => frameOf packed.pack) <$> encodeMessage message

def ProtocolHeader.lowered (header : ProtocolHeader) : ProtocolHeader :=
  { header with
    sessionId := Protocol.lower header.sessionId
    cameraId := Protocol.lower header.cameraId
    runId := Protocol.lower header.runId }

/-- The message with its UUIDs in lower case. -/
def LiveMessage.lowered : LiveMessage → LiveMessage
  | .start message => .start { message with header := message.header.lowered }
  | .identityAssignment message =>
      .identityAssignment { message with
        header := message.header.lowered
        faceId := message.faceId.map Protocol.lower }
  | .stop message => .stop { message with header := message.header.lowered }
  | .hello message => .hello { message with header := message.header.lowered }
  | .state message => .state { message with header := message.header.lowered }
  | .outputReady message => .outputReady { message with header := message.header.lowered }
  | .trackEvidence message => .trackEvidence { message with header := message.header.lowered }
  | .trackExpired message => .trackExpired { message with header := message.header.lowered }
  | .metrics message => .metrics { message with header := message.header.lowered }
  | .failed message => .failed { message with header := message.header.lowered }
  | .stopped message => .stopped { message with header := message.header.lowered }
  | .nativeOperation message =>
      .nativeOperation { message with header := message.header.lowered }

/-- A dictionary has each key once. -/
def Dict {α : Type} (entries : List (String × α)) : Prop := (entries.map Prod.fst).Nodup

/-- The dictionaries have distinct keys, and a state is the first spelling of its text. -/
def LiveMessage.Proper : LiveMessage → Prop
  | .identityAssignment message => ∀ text, message.identityState = .other text →
      text ∉ ["known", "unknown"]
  | .metrics message => Dict message.counters ∧ Dict message.gauges
  | .nativeOperation message => Dict message.attributes
  | _ => True

/-- The values of a dataclass: its floats are doubles. -/
structure LiveMessage.Typed (message : LiveMessage) : Prop where
  exact : (Object.fields message.payload).Exact
  proper : message.Proper

namespace Protocol

/-! ## Values -/

section Values

variable {value : Object}

theorem returns_string {text : String} (h : value = .text text) : Returns (string value) text := by
  rw [string_ok_iff.mpr h]
  exact ensures_ok rfl

theorem returns_optionalString {text : Option String} (h : value = optional .text text) :
    Returns (optionalString value) text := by
  rw [optionalString_ok_iff.mpr h]
  exact ensures_ok rfl

theorem returns_integer {n minimum : Nat} (h : value = natural n) :
    Returns (integer value minimum) n := by
  intro other hother
  have hequal := h.symm.trans (integer_ok_iff.mp hother).1
  exact_mod_cast (Object.integer.inj hequal).symm

theorem returns_attempts {n : Int} (h : value = .integer n) : Returns (attempts value) n := by
  intro other hother
  exact (Object.integer.inj (h.symm.trans (attempts_ok_iff.mp hother).1)).symm

theorem returns_finite {q : ℚ} (h : value = number q) : Returns (finite value) q := by
  rw [h]
  exact ensures_ok rfl

theorem returns_optionalFinite {q : Option ℚ} (h : value = optional number q) :
    Returns (optionalFinite value) q := by
  rw [h]
  cases q with
  | none => exact ensures_ok rfl
  | some q => exact returns_map (returns_finite rfl)

theorem returns_boolean {flag : Bool} (h : value = .boolean flag) :
    Returns (boolean value) flag := by
  rw [h]
  exact ensures_ok rfl

theorem returns_uuidOf (text : String) : Returns (uuidOf text) (lower text) := by
  intro id hid
  exact (uuidOf_ok_iff.mp hid).2.symm

theorem returns_uuid {text : String} (h : value = .text text) :
    Returns (uuid value) (lower text) := by
  intro id hid
  obtain ⟨other, hother, -, rfl⟩ := uuid_ok_iff.mp hid
  rw [text_inj.mp (h.symm.trans hother)]

theorem returns_numbers (values : List ℚ) : Returns ((values.map number).mapM finite) values := by
  refine returns_mapM ?_
  rw [List.forall₂_map_left_iff]
  exact List.forall₂_same.mpr fun q _ => returns_finite rfl

theorem returns_finiteArray {size : Nat} {code : String} {values : List ℚ}
    (h : value = numbers values) : Returns (finiteArray size value code) values := by
  rw [h]
  refine returns_bind (returns_numbers values) ?_
  exact ensures_after fun _ => ensures_pure rfl

theorem returns_embedding {values : List ℚ} (h : value = numbers values) :
    Returns (embedding value) values := by
  rw [h]
  refine returns_bind (returns_numbers values) ?_
  exact ensures_after fun _ => ensures_after fun _ => ensures_pure rfl

theorem returns_runtimeState (state : LiveRuntimeState) :
    Returns (runtimeState state.text) state := by
  rw [runtimeState_text]
  exact ensures_ok rfl

theorem returns_messageType (type : MessageType) : Returns (messageType type.text) type := by
  rw [messageType_ok_iff.mpr rfl]
  exact ensures_ok rfl

theorem returns_identityState {state : AssignedState}
    (h : ∀ text, state = .other text → text ∉ ["known", "unknown"]) :
    Returns (identityState state.text) state := by
  intro other hother
  cases state with
  | known => exact (Except.ok.inj hother).symm
  | unknown => exact (Except.ok.inj hother).symm
  | other text =>
      have hfresh := h text rfl
      rcases identityState_ok_iff.mp hother with ⟨rfl, rfl⟩ | ⟨rfl, rfl⟩ <;>
        exact absurd (by decide) hfresh

end Values

/-! ## Maps -/

theorem returns_dict {value : Object} {code : String} {entries : List (String × Object)}
    (hunique : (entries.map Prod.fst).Nodup) (h : value = .fields entries) :
    Returns ((dict value).elim (.error code) .ok) (ofTexts entries) := by
  rw [h, dict_fields hunique]
  exact ensures_ok rfl

theorem returns_textDict {α : Type} {read : Object → Except String α} (write : α → Object)
    (h : ∀ a, Returns (read (write a)) a) (entries : List (String × α)) :
    Returns (textDict read (ofTexts (entries.map fun entry => (entry.1, write entry.2))))
      entries := by
  refine returns_mapM ?_
  rw [ofTexts, List.map_map, List.forall₂_map_left_iff]
  exact List.forall₂_same.mpr fun entry _ => (h entry.2).map fun _ ha => Prod.ext rfl ha

theorem returns_nativeAttribute (name : String) (item : NativeAttribute) :
    Returns (nativeAttribute (.text name, item.pack)) (name, item) := by
  unfold nativeAttribute
  dsimp only
  split
  · exact ensures_error _
  cases item with
  | text value =>
      dsimp only [NativeAttribute.pack, Object.text]
      rw [ofUtf8_eq_some_iff.mpr rfl]
      dsimp only
      split
      · exact ensures_ok rfl
      · exact ensures_error _
  | integer value => exact ensures_ok rfl
  | number value => exact ensures_ok rfl

theorem returns_attributes (entries : List (String × NativeAttribute)) :
    Returns ((ofTexts (entries.map fun entry => (entry.1, entry.2.pack))).mapM nativeAttribute)
      entries := by
  refine returns_mapM ?_
  rw [ofTexts, List.map_map, List.forall₂_map_left_iff]
  exact List.forall₂_same.mpr fun entry _ => returns_nativeAttribute entry.1 entry.2

/-! ## Messages -/

section Messages

variable {payload : List (String × Object)} {header : ProtocolHeader}

theorem returns_header {value : ProtocolHeader}
    (hread : ∀ name ∈ headerFields, subscript payload name = .ok (field (readMap payload) name))
    (hfields : Holds (readMap payload) value.payload) :
    Returns (Protocol.header payload) value.lowered := by
  simp only [Holds, ProtocolHeader.payload, List.forall_mem_cons] at hfields
  obtain ⟨hversion, htype, hsession, hcamera, hrun, hgeneration, hattempt, hsequence, hparent,
    hstate, -⟩ := hfields
  unfold Protocol.header
  simp (disch := decide) only [hread, ok_bind]
  refine returns_bind (returns_integer hversion) ?_
  refine ensures_after fun _ => ?_
  refine returns_bind (returns_string htype) ?_
  refine returns_bind (returns_messageType value.messageType) ?_
  refine returns_bind (returns_string hparent) ?_
  refine returns_bind (returns_optionalString hstate) ?_
  refine ensures_after fun _ => ?_
  refine returns_bind (returns_uuid hsession) ?_
  refine returns_bind (returns_uuid hcamera) ?_
  refine returns_bind (returns_uuid hrun) ?_
  refine returns_bind (returns_integer hgeneration) ?_
  refine returns_bind (returns_integer hattempt) ?_
  refine returns_bind (returns_integer hsequence) ?_
  exact ensures_pure rfl

theorem returns_observation (value : LiveObservation) :
    Returns (observation value.payload) value := by
  have hunique : (value.entries.map Prod.fst).Nodup :=
    show observationFields.Nodup by decide
  have hnamed : Named observationFields (readMap value.entries) := named_readMap value.entries
  have hread (name : String) (hname : name ∈ observationFields) := item_of_named hnamed hname
  have hfields := holds_readMap hunique
  simp only [Holds, LiveObservation.entries, List.forall_mem_cons] at hfields
  obtain ⟨htime, hbbox, hdetector, hlandmarks, hconfidences, hquality, hmask, hembedding, -⟩ :=
    hfields
  refine returns_bind (returns_dict hunique rfl) ?_
  simp (disch := decide) only [hread, ok_bind]
  refine ensures_after fun _ => ?_
  refine ensures_after fun _ => ?_
  refine returns_bind (returns_finiteArray hbbox) ?_
  refine returns_bind (returns_finiteArray hlandmarks) ?_
  refine returns_bind (returns_finiteArray hconfidences) ?_
  refine returns_bind (returns_embedding hembedding) ?_
  refine returns_bind (returns_integer htime) ?_
  refine returns_bind (returns_finite hdetector) ?_
  refine returns_bind (returns_finite hquality) ?_
  refine returns_bind (returns_integer hmask) ?_
  exact ensures_pure rfl

theorem returns_startCommand {message : StartCommand} (hnamed : Keys .start payload)
    (hfields : Holds (readMap payload) message.payload) :
    Returns (startCommand header payload) { message with header := header } := by
  simp only [Holds, StartCommand.payload, List.forall_mem_cons] at hfields
  obtain ⟨huri, hgpu, hpgie, hpreprocess, hsgie, htracker, hmount, hudp, hrtsp, hprofile, hmode,
    hsample, hdetector, hrecognition, hmargin, hgap, hlatency, hinterval, hattempts, htimeout,
    hrecording, hannotated, -⟩ := hfields
  unfold startCommand
  simp (disch := decide) only [subscript_of_named hnamed, ok_bind]
  refine returns_bind (returns_attempts hattempts) ?_
  refine returns_bind (returns_string hmode) ?_
  refine ensures_after fun _ => ?_
  refine returns_bind (returns_finite hdetector) ?_
  refine returns_bind (returns_finite hrecognition) ?_
  refine returns_bind (returns_finite hmargin) ?_
  refine ensures_after fun _ => ?_
  refine returns_bind (returns_boolean hrecording) ?_
  refine returns_bind (returns_boolean hannotated) ?_
  refine returns_bind (returns_string huri) ?_
  refine returns_bind (returns_integer hgpu) ?_
  refine returns_bind (returns_string hpgie) ?_
  refine returns_bind (returns_string hpreprocess) ?_
  refine returns_bind (returns_string hsgie) ?_
  refine returns_bind (returns_string htracker) ?_
  refine returns_bind (returns_string hmount) ?_
  refine returns_bind (returns_integer hudp) ?_
  refine returns_bind (returns_integer hrtsp) ?_
  refine returns_bind (returns_integer hprofile) ?_
  refine returns_bind (returns_integer hsample) ?_
  refine returns_bind (returns_integer hgap) ?_
  refine returns_bind (returns_integer hlatency) ?_
  refine returns_bind (returns_integer hinterval) ?_
  refine returns_bind (returns_integer htimeout) ?_
  exact ensures_pure rfl

theorem returns_faceId (faceId : Option String) :
    Returns (faceIdOf faceId) (faceId.map lower) := by
  cases faceId with
  | none => exact ensures_ok rfl
  | some text => exact returns_map (returns_uuidOf text)

/-- An absent reference is that of an unknown face, and any other one has passed the checks of
a known one. -/
theorem returns_reference {state : AssignedState} {displayName faceId : Option String}
    {matchScore recognitionThreshold : Option ℚ} {value : Object} {reference : Option (List ℚ)}
    (h : value = optional numbers reference) :
    Returns (referenceEmbedding state displayName faceId matchScore recognitionThreshold value)
      reference := by
  unfold referenceEmbedding
  cases reference with
  | none =>
      rw [h]
      split
      · refine Native.ensures_failIf fun hmissing => absurd ?_ hmissing
        exact .inr (.inr (.inr (.inr rfl)))
      · exact ensures_after fun _ => ensures_pure rfl
  | some values =>
      split
      · exact ensures_after fun _ => returns_map (returns_embedding h)
      · rw [h]
        refine Native.ensures_failIf fun hpresent => absurd ?_ hpresent
        exact .inr (.inr (.inr (.inr Bool.false_ne_true)))

theorem returns_identityAssignment {message : IdentityAssignment}
    (hstate : ∀ text, message.identityState = .other text → text ∉ ["known", "unknown"])
    (hnamed : Keys .identityAssignment payload)
    (hfields : Holds (readMap payload) (LiveMessage.identityAssignment message).body) :
    Returns (identityAssignment header payload)
      { message with header := header, faceId := message.faceId.map lower } := by
  simp only [Holds, LiveMessage.body, List.forall_mem_cons] at hfields
  obtain ⟨htracker, hrevision, hepoch, htext, hdisplay, hface, hscore, hthreshold, hreference,
    hdecision, -⟩ := hfields
  unfold identityAssignment
  simp (disch := decide) only [subscript_of_named hnamed, ok_bind]
  refine returns_bind (returns_string htext) ?_
  refine returns_bind (returns_identityState hstate) ?_
  refine returns_bind (returns_optionalString hface) ?_
  refine returns_bind (returns_faceId message.faceId) ?_
  refine returns_bind (returns_optionalFinite hscore) ?_
  refine returns_bind (returns_optionalFinite hthreshold) ?_
  refine returns_bind (returns_optionalString hdisplay) ?_
  refine returns_bind (returns_reference hreference) ?_
  refine returns_bind (returns_integer htracker) ?_
  refine returns_bind (returns_integer hrevision) ?_
  refine returns_bind (returns_integer hepoch) ?_
  refine returns_bind (returns_integer hdecision) ?_
  exact ensures_pure rfl

theorem returns_stopCommand {message : StopCommand} (hnamed : Keys .stop payload)
    (hfields : Holds (readMap payload) (LiveMessage.stop message).body) :
    Returns (stopCommand header payload) { message with header := header } := by
  simp only [Holds, LiveMessage.body, List.forall_mem_cons] at hfields
  obtain ⟨hreason, hdeadline, -⟩ := hfields
  unfold stopCommand
  simp (disch := decide) only [subscript_of_named hnamed, ok_bind]
  refine returns_bind (returns_string hreason) ?_
  refine returns_bind (returns_integer hdeadline) ?_
  exact ensures_pure rfl

theorem returns_helloEvent {message : HelloEvent} (hnamed : Keys .hello payload)
    (hfields : Holds (readMap payload) (LiveMessage.hello message).body) :
    Returns (helloEvent header payload) { message with header := header } := by
  simp only [Holds, LiveMessage.body, List.forall_mem_cons] at hfields
  obtain ⟨hbuild, hgstreamer, hdeepstream, -⟩ := hfields
  unfold helloEvent
  simp (disch := decide) only [subscript_of_named hnamed, ok_bind]
  refine returns_bind (returns_string hbuild) ?_
  refine returns_bind (returns_string hgstreamer) ?_
  refine returns_bind (returns_string hdeepstream) ?_
  exact ensures_pure rfl

theorem returns_stateEvent {message : StateEvent} (hnamed : Keys .state payload)
    (hfields : Holds (readMap payload) (LiveMessage.state message).body) :
    Returns (stateEvent header payload) { message with header := header } := by
  simp only [Holds, LiveMessage.body, List.forall_mem_cons] at hfields
  obtain ⟨hstate, hreason, -⟩ := hfields
  unfold stateEvent
  simp (disch := decide) only [subscript_of_named hnamed, ok_bind]
  refine returns_bind (returns_string hstate) ?_
  refine returns_bind (returns_runtimeState message.state) ?_
  refine returns_bind (returns_optionalString hreason) ?_
  exact ensures_pure rfl

theorem returns_outputReadyEvent {message : OutputReadyEvent}
    (hnamed : Keys .outputReady payload)
    (hfields : Holds (readMap payload) (LiveMessage.outputReady message).body) :
    Returns (outputReadyEvent header payload) { message with header := header } := by
  simp only [Holds, LiveMessage.body, List.forall_mem_cons] at hfields
  obtain ⟨hmount, hcodec, hcaps, -⟩ := hfields
  unfold outputReadyEvent
  simp (disch := decide) only [subscript_of_named hnamed, ok_bind]
  refine returns_bind (returns_string hmount) ?_
  refine returns_bind (returns_string hcodec) ?_
  refine returns_bind (returns_string hcaps) ?_
  exact ensures_pure rfl

theorem returns_list {value : Object} {items : List Object} (h : value = .array items) :
    Returns (list value) items := by
  rw [h]
  exact ensures_ok rfl

theorem returns_jpegBytes {value : Object} {bytes : List UInt8} (h : value = .bin bytes) :
    Returns (jpegBytes value) bytes := by
  rw [h]
  unfold jpegBytes
  dsimp only
  split
  · exact ensures_error _
  · exact ensures_ok rfl

theorem returns_trackEvidenceEvent {message : TrackEvidenceEvent}
    (hnamed : Keys .trackEvidence payload)
    (hfields : Holds (readMap payload) (LiveMessage.trackEvidence message).body) :
    Returns (trackEvidenceEvent header payload) { message with header := header } := by
  simp only [Holds, LiveMessage.body, List.forall_mem_cons] at hfields
  obtain ⟨htracker, hrevision, hfirst, hlast, hobservations, hjpeg, -⟩ := hfields
  unfold trackEvidenceEvent
  simp (disch := decide) only [subscript_of_named hnamed, ok_bind]
  refine returns_bind (returns_list hobservations) ?_
  refine returns_bind (a := message.observations) (returns_mapM ?_) ?_
  · rw [List.forall₂_map_left_iff]
    exact List.forall₂_same.mpr fun observation _ => returns_observation observation
  refine ensures_after fun _ => ?_
  refine returns_bind (returns_jpegBytes hjpeg) ?_
  refine returns_bind (returns_integer htracker) ?_
  refine returns_bind (returns_integer hrevision) ?_
  refine returns_bind (returns_integer hfirst) ?_
  refine returns_bind (returns_integer hlast) ?_
  exact ensures_pure rfl

theorem returns_trackExpiredEvent {message : TrackExpiredEvent}
    (hnamed : Keys .trackExpired payload)
    (hfields : Holds (readMap payload) (LiveMessage.trackExpired message).body) :
    Returns (trackExpiredEvent header payload) { message with header := header } := by
  simp only [Holds, LiveMessage.body, List.forall_mem_cons] at hfields
  obtain ⟨htracker, hrevision, hfirst, hlast, hreason, -⟩ := hfields
  unfold trackExpiredEvent
  simp (disch := decide) only [subscript_of_named hnamed, ok_bind]
  refine returns_bind (returns_integer htracker) ?_
  refine returns_bind (returns_integer hrevision) ?_
  refine returns_bind (returns_integer hfirst) ?_
  refine returns_bind (returns_integer hlast) ?_
  refine returns_bind (returns_string hreason) ?_
  exact ensures_pure rfl

theorem returns_metricsEvent {message : MetricsEvent} (hcounters : Dict message.counters)
    (hgauges : Dict message.gauges) (hnamed : Keys .metrics payload)
    (hfields : Holds (readMap payload) (LiveMessage.metrics message).body) :
    Returns (metricsEvent header payload) { message with header := header } := by
  simp only [Holds, LiveMessage.body, List.forall_mem_cons] at hfields
  obtain ⟨hcounterField, hgaugeField, -⟩ := hfields
  have hkeys {α : Type} (write : α → Object) {entries : List (String × α)} (h : Dict entries) :
      ((entries.map fun entry => (entry.1, write entry.2)).map Prod.fst).Nodup := by
    rw [List.map_map]
    exact h
  unfold metricsEvent
  simp (disch := decide) only [subscript_of_named hnamed, ok_bind]
  refine returns_bind (returns_dict (hkeys natural hcounters) hcounterField) ?_
  refine returns_bind (returns_dict (hkeys number hgauges) hgaugeField) ?_
  refine returns_bind (returns_textDict natural (fun _ => returns_integer rfl) _) ?_
  refine returns_bind (returns_textDict number (fun _ => returns_finite rfl) _) ?_
  exact ensures_pure rfl

theorem returns_failedEvent {message : FailedEvent} (hnamed : Keys .failed payload)
    (hfields : Holds (readMap payload) (LiveMessage.failed message).body) :
    Returns (failedEvent header payload) { message with header := header } := by
  simp only [Holds, LiveMessage.body, List.forall_mem_cons] at hfields
  obtain ⟨hcode, htext, -⟩ := hfields
  unfold failedEvent
  simp (disch := decide) only [subscript_of_named hnamed, ok_bind]
  refine returns_bind (returns_string hcode) ?_
  refine returns_bind (returns_string htext) ?_
  exact ensures_pure rfl

theorem returns_stoppedEvent {message : StoppedEvent} (hnamed : Keys .stopped payload)
    (hfields : Holds (readMap payload) (LiveMessage.stopped message).body) :
    Returns (stoppedEvent header payload) { message with header := header } := by
  simp only [Holds, LiveMessage.body, List.forall_mem_cons] at hfields
  obtain ⟨hdecoded, hemitted, hdropped, hclean, hreason, -⟩ := hfields
  unfold stoppedEvent
  simp (disch := decide) only [subscript_of_named hnamed, ok_bind]
  refine returns_bind (returns_boolean hclean) ?_
  refine returns_bind (returns_integer hdecoded) ?_
  refine returns_bind (returns_integer hemitted) ?_
  refine returns_bind (returns_integer hdropped) ?_
  refine returns_bind (returns_string hreason) ?_
  exact ensures_pure rfl

theorem returns_nativeOperationEvent {message : NativeOperationEvent}
    (hattributes : Dict message.attributes) (hnamed : Keys .nativeOperation payload)
    (hfields : Holds (readMap payload) (LiveMessage.nativeOperation message).body) :
    Returns (nativeOperationEvent header payload) { message with header := header } := by
  simp only [Holds, LiveMessage.body, List.forall_mem_cons] at hfields
  obtain ⟨hoperation, hstarted, hended, hstatus, hcode, hattributeField, -⟩ := hfields
  have hunique : ((message.attributes.map fun entry => (entry.1, entry.2.pack)).map
      Prod.fst).Nodup := by
    rw [List.map_map]
    exact hattributes
  unfold nativeOperationEvent
  simp (disch := decide) only [subscript_of_named hnamed, ok_bind, hattributeField,
    dict_fields hunique]
  refine returns_bind (returns_string hoperation) ?_
  refine returns_bind (returns_string hstatus) ?_
  refine returns_bind (returns_optionalString hcode) ?_
  refine returns_bind (returns_integer hstarted) ?_
  refine returns_bind (returns_integer hended) ?_
  refine ensures_after fun _ => ?_
  refine returns_bind (returns_attributes message.attributes) ?_
  exact ensures_pure rfl

end Messages

end Protocol

def LiveMessage.type : LiveMessage → MessageType
  | .start _ => .start
  | .identityAssignment _ => .identityAssignment
  | .stop _ => .stop
  | .hello _ => .hello
  | .state _ => .state
  | .outputReady _ => .outputReady
  | .trackEvidence _ => .trackEvidence
  | .trackExpired _ => .trackExpired
  | .metrics _ => .metrics
  | .failed _ => .failed
  | .stopped _ => .stopped
  | .nativeOperation _ => .nativeOperation

/-- The encoder packs the fields that the decoders expect. -/
theorem names_payload (message : LiveMessage) :
    message.payload.map Prod.fst = names message.type := by
  cases message <;> rfl

theorem returns_decodeMessageFields {message : LiveMessage} (hproper : message.Proper)
    {payload : List (String × Object)} {header : ProtocolHeader}
    (hheader : header = message.header.lowered) (htype : header.messageType = message.type)
    (hnamed : Protocol.Keys message.type payload) (hfields : Holds (readMap payload) message.body) :
    Returns (Protocol.decodeMessageFields header payload) message.lowered := by
  unfold Protocol.decodeMessageFields
  rw [htype, hheader]
  cases message with
  | start message => exact returns_map (Protocol.returns_startCommand hnamed hfields)
  | identityAssignment message =>
      exact returns_map (Protocol.returns_identityAssignment hproper hnamed hfields)
  | stop message => exact returns_map (Protocol.returns_stopCommand hnamed hfields)
  | hello message => exact returns_map (Protocol.returns_helloEvent hnamed hfields)
  | state message => exact returns_map (Protocol.returns_stateEvent hnamed hfields)
  | outputReady message => exact returns_map (Protocol.returns_outputReadyEvent hnamed hfields)
  | trackEvidence message =>
      exact returns_map (Protocol.returns_trackEvidenceEvent hnamed hfields)
  | trackExpired message => exact returns_map (Protocol.returns_trackExpiredEvent hnamed hfields)
  | metrics message =>
      exact returns_map (Protocol.returns_metricsEvent hproper.1 hproper.2 hnamed hfields)
  | failed message => exact returns_map (Protocol.returns_failedEvent hnamed hfields)
  | stopped message => exact returns_map (Protocol.returns_stoppedEvent hnamed hfields)
  | nativeOperation message =>
      exact returns_map (Protocol.returns_nativeOperationEvent hproper hnamed hfields)

/-- The bytes of a message carry its payload, with nothing after it. -/
theorem carries_encodeFrame {message : LiveMessage} (htyped : message.Typed) {frame : List UInt8}
    (hframe : encodeFrame message = .ok frame) :
    Carries frame (.fields message.payload) [] := by
  obtain ⟨packed, hpacked, rfl⟩ := map_ok_iff.mp hframe
  obtain ⟨hpackable, hsize, rfl⟩ := encodeMessage_ok_iff.mp hpacked
  rw [← Object.length_pack] at hsize
  exact carries_frameOf hsize (Object.encodes_pack hpackable htyped.exact)

/-- The dictionary that is read has the fields in the order in which they were written. -/
theorem payload_eq {entries payload : List (String × Object)}
    (hunique : (entries.map Prod.fst).Nodup)
    (hdict : Protocol.dict (.fields entries) = some (Protocol.ofTexts payload)) :
    payload = entries := by
  have hequal := Option.some.inj (hdict.symm.trans (dict_fields hunique))
  have hinjective : Function.Injective fun entry : String × Object =>
      (Protocol.DictKey.text entry.1, entry.2) := by
    rintro ⟨name, value⟩ ⟨name', value'⟩ h
    obtain ⟨hname, hvalue⟩ := Prod.mk.inj h
    exact Prod.ext (Protocol.text_injective hname) hvalue
  exact List.map_injective_iff.mpr hinjective hequal

/-- A written payload is decoded by the branch of its own type. -/
theorem exists_decoded {entries : List (String × Object)} {type : MessageType}
    (hnames : entries.map Prod.fst = names type) {frame : List UInt8}
    (hcarries : Carries frame (.fields entries) []) {result : LiveMessage}
    (hresult : Protocol.decodeMessage frame = .ok result) :
    ∃ header, Protocol.header entries = .ok header ∧ header.messageType = type ∧
      Protocol.readable (.fields entries) = true ∧ Protocol.Keys type entries ∧
      Protocol.decodeMessageFields header entries = .ok result := by
  have hunique : (entries.map Prod.fst).Nodup := hnames ▸ nodup_names type
  obtain ⟨value, payload, hcarries', hreadable, hdict, hdecode⟩ := decodeMessage_ok_iff.mp hresult
  obtain ⟨rfl, -⟩ := hcarries.unique hcarries'
  obtain rfl := payload_eq hunique hdict
  obtain ⟨header, hheader, hkeys, hbody⟩ := Protocol.decodePayload_cases hdecode
  have hnamed := named_readMap payload
  rw [hnames] at hnamed
  exact ⟨header, hheader, named_unique hkeys hnamed, hreadable, hnamed, hbody⟩

/-- The Python side reads what it has written, with UUIDs in lower case. -/
theorem decode_encodeFrame {message : LiveMessage} (htyped : message.Typed) {frame : List UInt8}
    (hframe : encodeFrame message = .ok frame) :
    Returns (Protocol.decodeMessage frame) message.lowered := by
  intro result hresult
  have hunique : (message.payload.map Prod.fst).Nodup := by
    rw [names_payload]
    exact nodup_names message.type
  obtain ⟨header, hheader, htype, -, hnamed, hbody⟩ :=
    exists_decoded (names_payload message) (carries_encodeFrame htyped hframe) hresult
  obtain ⟨hheaderFields, hbodyFields⟩ := holds_append.mp (holds_readMap hunique)
  have hread (name : String) (hname : name ∈ Protocol.headerFields) :=
    Protocol.subscript_of_named hnamed (Native.header_names message.type name hname)
  have hlowered := Protocol.returns_header hread hheaderFields header hheader
  exact returns_decodeMessageFields htyped.proper hlowered htype hnamed hbodyFields result hbody

end Mvision.Live
