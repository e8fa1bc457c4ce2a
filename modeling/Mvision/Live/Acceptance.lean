import Mvision.Live.PythonRoundTrip

/-!
# Payloads that are accepted

Fields that pass the checks of the wire format one by one make a message.  Each side accepts the
frame of such a message by what only that side checks.
-/

namespace Mvision.Live

open Mvision.Library Mvision.Live.Wire
open Native (readMap)

/-- A field has the name of a check and passes it. -/
def Passes (check : String × (Object → Prop)) (entry : String × Object) : Prop :=
  check.1 = entry.1 ∧ check.2 entry.2

section Entries

variable {checks : Checks} {entries : List (String × Object)} {type : MessageType}

theorem names_of_passes (h : List.Forall₂ Passes checks entries) :
    checks.map Prod.fst = entries.map Prod.fst := by
  induction h with
  | nil => rfl
  | cons hentry _ ih => rw [List.map_cons, List.map_cons, hentry.1, ih]

theorem exists_passed (h : List.Forall₂ Passes checks entries) :
    ∀ check ∈ checks, ∃ entry ∈ entries, Passes check entry := by
  induction h with
  | nil => exact List.forall_mem_nil _
  | @cons check entry checks entries hentry _ ih =>
      refine List.forall_mem_cons.mpr ⟨⟨entry, List.mem_cons_self, hentry⟩, fun other hother => ?_⟩
      obtain ⟨found, hfound, hpasses⟩ := ih other hother
      exact ⟨found, List.mem_cons_of_mem _ hfound, hpasses⟩

/-- A field that was written is found. -/
theorem field_of_mem (hunique : (entries.map Prod.fst).Nodup) {name : String} {value : Object}
    (h : (name, value) ∈ entries) : field (readMap entries) name = value :=
  holds_readMap hunique (name, value) h

theorem fields_of_passes (hunique : (entries.map Prod.fst).Nodup)
    (h : List.Forall₂ Passes checks entries) : Fields checks (readMap entries) := by
  refine ⟨?_, fun check hcheck => ?_⟩
  · rw [names_of_passes h]
    exact named_readMap entries
  · obtain ⟨⟨name, value⟩, hentry, hname, hvalue⟩ := exists_passed h check hcheck
    rw [hname, field_of_mem hunique hentry]
    exact hvalue

/-- A map inside of a payload. -/
theorem mapOf_fields (hunique : (entries.map Prod.fst).Nodup)
    {check : Native.ObjectMap → Prop} (h : check (readMap entries)) :
    MapOf check (.fields entries) :=
  ⟨readMap entries, Object.asStringMap_fields hunique, h⟩

theorem message_of_passes
    (h : List.Forall₂ Passes (headerChecks ++ messageChecks type) entries)
    (htype : ("message_type", Object.text type.text) ∈ entries)
    (hconsistent : Consistent type (readMap entries)) : Message type (readMap entries) := by
  have hunique : (entries.map Prod.fst).Nodup := names_of_passes h ▸ nodup_names type
  exact ⟨field_of_mem hunique htype, fields_of_passes hunique h, hconsistent⟩

/-! ## Texts and keys -/

namespace Protocol

theorem readable_text (value : String) : readable (.text value) = true := by
  show (ofUtf8 (utf8 value)).isSome = true
  rw [ofUtf8_eq_some_iff.mpr rfl]
  rfl

theorem readable_array {items : List Object} (h : ∀ item ∈ items, readable item = true) :
    readable (.array items) = true := itemsReadable_iff.mpr h

theorem readable_fields (h : ∀ entry ∈ entries, readable entry.2 = true) :
    readable (.fields entries) = true := by
  refine entriesReadable_iff.mpr (List.forall_mem_map.mpr fun entry hentry => ⟨?_, h entry hentry⟩)
  show ((ofUtf8 (utf8 entry.1)).map DictKey.text).isSome = true
  rw [ofUtf8_eq_some_iff.mpr rfl]
  rfl

end Protocol

theorem textKeys_fields (entries : List (String × Object)) : TextKeys (.fields entries) :=
  List.forall_mem_map.mpr fun entry _ => ⟨utf8 entry.1, rfl⟩

/-! ## Frames -/

/-- The checks of the wire format and those of the Python side are all that it checks. -/
theorem python_accepts {frame : List UInt8} (hcarries : Carries frame (.fields entries) [])
    (hmessage : Message type (readMap entries)) (hunique : (entries.map Prod.fst).Nodup)
    (hreadable : ∀ entry ∈ entries, Protocol.readable entry.2 = true)
    (hreads : PythonReads type (readMap entries)) :
    ∃ message, Protocol.decodeMessage frame = .ok message := by
  refine (python_accepts_iff hcarries (Object.asStringMap_fields hunique) hmessage).mpr ?_
  exact ⟨rfl, Protocol.readable_fields hreadable, textKeys_fields entries, hreads⟩

/-- The checks of the wire format and those of the worker are all that it checks. -/
theorem native_accepts {frame : List UInt8} (hcarries : Carries frame (.fields entries) [])
    (hmessage : Message type (readMap entries)) (hunique : (entries.map Prod.fst).Nodup)
    (hreads : NativeReads type (readMap entries)) :
    ∃ message, Native.decodeLiveMessage frame = .ok message :=
  (native_accepts_iff hcarries (Object.asStringMap_fields hunique) hmessage).mpr hreads

end Entries

/-! ## Messages of the Python side -/

namespace Protocol

theorem readable_optional {α : Type*} {pack : α → Object} (h : ∀ x, readable (pack x) = true)
    (value : Option α) : readable (optional pack value) = true := by
  cases value with
  | none => rfl
  | some x => exact h x

theorem readable_numbers (values : List ℚ) : readable (numbers values) = true :=
  readable_array (List.forall_mem_map.mpr fun _ _ => rfl)

theorem readable_attribute (item : NativeAttribute) : readable item.pack = true := by
  cases item with
  | text value => exact readable_text value
  | integer value => rfl
  | number value => rfl

theorem readable_observation (observation : LiveObservation) :
    readable observation.payload = true := by
  refine readable_fields ?_
  simp only [List.forall_mem_cons, readable_numbers]
  exact ⟨rfl, trivial, rfl, trivial, trivial, rfl, rfl, trivial, List.forall_mem_nil _⟩

end Protocol

section Python

open Protocol (readable_text readable_optional readable_numbers readable_fields readable_array)

theorem readable_header (header : ProtocolHeader) :
    ∀ entry ∈ header.payload, Protocol.readable entry.2 = true := by
  simp only [ProtocolHeader.payload, List.forall_mem_cons, readable_text,
    readable_optional readable_text]
  exact ⟨rfl, trivial, trivial, trivial, trivial, rfl, rfl, rfl, trivial, trivial,
    List.forall_mem_nil _⟩

/-- The texts of a message are UTF-8, and so are the keys of its dictionaries. -/
theorem readable_body (message : LiveMessage) :
    ∀ entry ∈ message.body, Protocol.readable entry.2 = true := by
  have hnumber : ∀ q, Protocol.readable (number q) = true := fun _ => rfl
  have hnatural : ∀ n, Protocol.readable (natural n) = true := fun _ => rfl
  have hinteger : ∀ n, Protocol.readable (.integer n) = true := fun _ => rfl
  have hboolean : ∀ flag, Protocol.readable (.boolean flag) = true := fun _ => rfl
  have hbin : ∀ bytes, Protocol.readable (.bin bytes) = true := fun _ => rfl
  cases message <;>
    simp only [LiveMessage.body, StartCommand.payload, List.forall_mem_cons, readable_text,
      readable_optional readable_text, readable_optional readable_numbers,
      readable_optional hnumber, hnumber, hnatural, hinteger, hboolean, hbin, true_and]
  case trackEvidence event =>
      exact ⟨readable_array (List.forall_mem_map.mpr fun observation _ =>
        Protocol.readable_observation observation), List.forall_mem_nil _⟩
  case metrics event =>
      exact ⟨readable_fields (List.forall_mem_map.mpr fun _ _ => rfl),
        readable_fields (List.forall_mem_map.mpr fun _ _ => rfl), List.forall_mem_nil _⟩
  case nativeOperation event =>
      exact ⟨readable_fields (List.forall_mem_map.mpr fun entry _ =>
        Protocol.readable_attribute entry.2), List.forall_mem_nil _⟩
  all_goals exact List.forall_mem_nil _

/-- A message that passes the checks is read as it was written, with UUIDs in lower case. -/
theorem decode_of_passes {message : LiveMessage} (htyped : message.Typed)
    (htype : message.header.messageType = message.type)
    (hpasses : List.Forall₂ Passes (headerChecks ++ messageChecks message.type) message.payload)
    (hconsistent : Consistent message.type (readMap message.payload))
    (hreads : PythonReads message.type (readMap message.payload))
    {frame : List UInt8} (hframe : encodeFrame message = .ok frame) :
    Protocol.decodeMessage frame = .ok message.lowered := by
  have hunique : (message.payload.map Prod.fst).Nodup := by
    rw [names_payload]
    exact nodup_names message.type
  have hmem : ("message_type", Object.text message.type.text) ∈ message.payload := by
    rw [← htype]
    exact List.mem_append_left _ (List.mem_cons_of_mem _ List.mem_cons_self)
  have hreadable : ∀ entry ∈ message.payload, Protocol.readable entry.2 = true :=
    List.forall_mem_append.mpr ⟨readable_header message.header, readable_body message⟩
  obtain ⟨result, hresult⟩ := python_accepts (carries_encodeFrame htyped hframe)
    (message_of_passes hpasses hmem hconsistent) hunique hreadable hreads
  rw [hresult, decode_encodeFrame htyped hframe result hresult]

theorem exact_array {items : List Object} (h : ∀ item ∈ items, item.Exact) :
    (Object.array items).Exact := by
  induction items with
  | nil => trivial
  | cons item items ih =>
      obtain ⟨hitem, hrest⟩ := List.forall_mem_cons.mp h
      exact ⟨hitem, ih hrest⟩

theorem exact_fields {entries : List (String × Object)} (h : ∀ entry ∈ entries, entry.2.Exact) :
    (Object.fields entries).Exact := by
  induction entries with
  | nil => trivial
  | cons entry entries ih =>
      obtain ⟨hentry, hrest⟩ := List.forall_mem_cons.mp h
      exact ⟨trivial, hentry, ih hrest⟩

theorem exact_header (header : ProtocolHeader) : ∀ entry ∈ header.payload, entry.2.Exact := by
  simp only [ProtocolHeader.payload, List.forall_mem_cons]
  refine ⟨trivial, trivial, trivial, trivial, trivial, trivial, trivial, trivial, trivial, ?_,
    List.forall_mem_nil _⟩
  cases header.tracestate <;> trivial

/-! ### Track evidence -/

/-- The header of a message of the protocol's version. -/
structure ProtocolHeader.Valid (header : ProtocolHeader) : Prop where
  protocolVersion : header.protocolVersion = 2
  sessionId : Uuid (.text header.sessionId)
  cameraId : Uuid (.text header.cameraId)
  runId : Uuid (.text header.runId)
  generation : 1 ≤ header.generation
  runtimeAttempt : 1 ≤ header.runtimeAttempt
  traceparent : traceparentValid (byteCodes (utf8 header.traceparent)) = true
  tracestate : ∀ state ∈ header.tracestate, Native.tracestateValid (utf8 state) = true

/-- An observation with all the numbers of its fields. -/
structure LiveObservation.Complete (observation : LiveObservation) : Prop where
  bbox : observation.bbox.length = 4
  landmarks : observation.landmarks.length = 10
  landmarkConfidences : observation.landmarkConfidences.length = 5
  embedding : observation.embedding.length = 512

/-- The floats of an observation are doubles. -/
structure LiveObservation.Typed (observation : LiveObservation) : Prop where
  bbox : ∀ q ∈ observation.bbox, binary64.Has 11 (.finite q)
  detectorConfidence : binary64.Has 11 (.finite observation.detectorConfidence)
  landmarks : ∀ q ∈ observation.landmarks, binary64.Has 11 (.finite q)
  landmarkConfidences : ∀ q ∈ observation.landmarkConfidences, binary64.Has 11 (.finite q)
  qualityScore : binary64.Has 11 (.finite observation.qualityScore)
  embedding : ∀ q ∈ observation.embedding, binary64.Has 11 (.finite q)

theorem evidence_typed {event : TrackEvidenceEvent}
    (h : ∀ observation ∈ event.observations, observation.Typed) :
    (LiveMessage.trackEvidence event).Typed := by
  have hnumbers {values : List ℚ} (hvalues : ∀ q ∈ values, binary64.Has 11 (.finite q)) :
      (numbers values).Exact := exact_array (List.forall_mem_map.mpr hvalues)
  have hobservations : ∀ item ∈ event.observations.map LiveObservation.payload, item.Exact := by
    refine List.forall_mem_map.mpr fun observation hobservation => exact_fields ?_
    have hdoubles := h observation hobservation
    simp only [List.forall_mem_cons]
    exact ⟨trivial, hnumbers hdoubles.bbox, hdoubles.detectorConfidence,
      hnumbers hdoubles.landmarks, hnumbers hdoubles.landmarkConfidences, hdoubles.qualityScore,
      trivial, hnumbers hdoubles.embedding, List.forall_mem_nil _⟩
  refine ⟨exact_fields (List.forall_mem_append.mpr ⟨exact_header event.header, ?_⟩), trivial⟩
  simp only [LiveMessage.body, List.forall_mem_cons]
  exact ⟨trivial, trivial, trivial, trivial, exact_array hobservations, trivial,
    List.forall_mem_nil _⟩

theorem atLeast_natural {minimum n : Nat} (h : minimum ≤ n) : AtLeast minimum (natural n) :=
  ⟨n, rfl, by omega⟩

theorem numbers_numbers {size : Nat} {values : List ℚ} (h : values.length = size) :
    Numbers size (numbers values) := by
  refine ⟨(List.length_map _).trans h, ?_⟩
  show ∀ item ∈ values.map number, Number item
  exact List.forall_mem_map.mpr fun q _ => ⟨q, rfl⟩

theorem ProtocolHeader.Valid.passes {header : ProtocolHeader} (h : header.Valid) :
    List.Forall₂ Passes headerChecks header.payload := by
  have hstate : Optional (Matches Native.tracestateValid) (optional .text header.tracestate) := by
    cases hstate : header.tracestate with
    | none => exact .inl rfl
    | some state => exact .inr ⟨utf8 state, rfl, h.tracestate state hstate⟩
  refine .cons ⟨rfl, congrArg natural h.protocolVersion⟩ ?_
  refine .cons ⟨rfl, utf8 header.messageType.text, rfl⟩ ?_
  refine .cons ⟨rfl, h.sessionId⟩ (.cons ⟨rfl, h.cameraId⟩ (.cons ⟨rfl, h.runId⟩ ?_))
  refine .cons ⟨rfl, atLeast_natural h.generation⟩ ?_
  refine .cons ⟨rfl, atLeast_natural h.runtimeAttempt⟩ ?_
  refine .cons ⟨rfl, atLeast_natural (Nat.zero_le _)⟩ ?_
  exact .cons ⟨rfl, utf8 header.traceparent, rfl, h.traceparent⟩ (.cons ⟨rfl, hstate⟩ .nil)

theorem nodup_entries (observation : LiveObservation) :
    (observation.entries.map Prod.fst).Nodup := by
  show ["timestamp_ns", "bbox", "detector_confidence", "landmarks", "landmark_confidences",
    "quality_score", "reject_mask", "embedding"].Nodup
  decide

theorem LiveObservation.Complete.passes {observation : LiveObservation}
    (h : observation.Complete) : List.Forall₂ Passes observationChecks observation.entries := by
  refine .cons ⟨rfl, atLeast_natural (Nat.zero_le _)⟩ (.cons ⟨rfl, numbers_numbers h.bbox⟩ ?_)
  refine .cons ⟨rfl, _, rfl⟩ (.cons ⟨rfl, numbers_numbers h.landmarks⟩ ?_)
  refine .cons ⟨rfl, numbers_numbers h.landmarkConfidences⟩ (.cons ⟨rfl, _, rfl⟩ ?_)
  refine .cons ⟨rfl, atLeast_natural (Nat.zero_le _)⟩ (.cons ⟨rfl, rfl, ?_⟩ .nil)
  exact numbers_numbers h.embedding

theorem evidence_passes {event : TrackEvidenceEvent} (hrevision : 1 ≤ event.evidenceRevision)
    (hcount : event.observations.length ≤ 10)
    (hcomplete : ∀ observation ∈ event.observations, observation.Complete)
    (hjpeg : event.representativeAlignedJpeg.length ≤ 512 * 1024) :
    List.Forall₂ Passes (messageChecks .trackEvidence) (LiveMessage.trackEvidence event).body := by
  have hobservations : Observations (.array (event.observations.map LiveObservation.payload)) := by
    refine ⟨rfl, (List.length_map _).trans_le hcount, ?_⟩
    show ∀ item ∈ event.observations.map LiveObservation.payload, _
    refine List.forall_mem_map.mpr fun observation hobservation => ?_
    have hunique := nodup_entries observation
    exact mapOf_fields hunique
      (fields_of_passes hunique (hcomplete observation hobservation).passes)
  refine .cons ⟨rfl, atLeast_natural (Nat.zero_le _)⟩ ?_
  refine .cons ⟨rfl, atLeast_natural hrevision⟩ ?_
  refine .cons ⟨rfl, atLeast_natural (Nat.zero_le _)⟩ ?_
  refine .cons ⟨rfl, atLeast_natural (Nat.zero_le _)⟩ (.cons ⟨rfl, hobservations⟩ ?_)
  exact .cons ⟨rfl, event.representativeAlignedJpeg, rfl, hjpeg⟩ .nil

theorem numbers_of_numbers (values : List ℚ) : Wire.numbers (numbers values) = values := by
  show (values.map number).map _ = values
  rw [List.map_map]
  exact List.map_id values

/-- What only the Python side checks of an event is the norm of its embeddings. -/
theorem evidence_reads {event : TrackEvidenceEvent}
    (hnorm : ∀ observation ∈ event.observations,
      Protocol.normValid observation.embedding = true) :
    PythonReads .trackEvidence (readMap (LiveMessage.trackEvidence event).payload) := by
  have hfield : field (readMap (LiveMessage.trackEvidence event).payload) "observations" =
      .array (event.observations.map LiveObservation.payload) := by
    refine field_of_mem ?_ (List.mem_append_right _ ?_)
    · rw [names_payload]
      exact nodup_names .trackEvidence
    · simp [LiveMessage.body]
  intro item hitem
  rw [hfield] at hitem
  obtain ⟨observation, hobservation, rfl⟩ := List.mem_map.mp hitem
  have hunique := nodup_entries observation
  refine ⟨textKeys_fields observation.entries, mapOf_fields hunique ?_⟩
  have hembedding : ("embedding", numbers observation.embedding) ∈ observation.entries := by
    simp [LiveObservation.entries]
  show Protocol.normValid (Wire.numbers (field _ "embedding")) = true
  rw [field_of_mem hunique hembedding, numbers_of_numbers]
  exact hnorm observation hobservation

end Python

end Mvision.Live
