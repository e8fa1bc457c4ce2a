import Mvision.Live.Acceptance
import Mvision.Live.NativeToPython

/-!
# Round trips of the live protocol

The three ways that a frame goes: from the Python side to itself, from the worker to itself and
from the worker to the Python side.  A JPEG is lost from 2^32 bytes on, and a double of an
attribute does not keep its type where the packer writes it as an integer.
-/

namespace Mvision.Live

open Mvision.Library Mvision.Live.Wire
open Native (objects packFloatArray packJpeg packObservation readMap)

/-! ## What is written as it is -/

namespace Native

variable {packing : FloatPacking}

theorem NativeAttribute.written_eq_iff {item : NativeAttribute} :
    item.written packing = item ↔ item.Kept packing := by
  cases item with
  | text value => exact iff_of_true rfl trivial
  | integer value => exact iff_of_true rfl trivial
  | number x =>
      cases x with
      | finite q =>
          unfold NativeAttribute.written NativeAttribute.Kept
          dsimp only
          cases packing.asInteger q with
          | some n => exact iff_of_false (by rintro ⟨⟩) (by rintro ⟨⟩)
          | none => exact iff_of_true rfl rfl
      | infinite negative => exact iff_of_true rfl trivial
      | nan => exact iff_of_true rfl trivial

theorem written_attributes_eq_iff {attributes : List (Text × NativeAttribute)} :
    (attributes.map fun entry => (entry.1, entry.2.written packing)) = attributes ↔
      ∀ entry ∈ attributes, entry.2.Kept packing := by
  induction attributes with
  | nil => exact iff_of_true rfl (List.forall_mem_nil _)
  | cons entry rest ih =>
      rw [List.map_cons, List.cons.injEq, ih, List.forall_mem_cons, Prod.ext_iff,
        and_iff_right rfl, NativeAttribute.written_eq_iff]

/-- A message is what its bytes stand for if it is written as it is. -/
theorem LiveMessage.written_eq_iff {message : LiveMessage} :
    message.written packing = message ↔ message.Kept packing := by
  cases message with
  | trackEvidence value =>
      unfold LiveMessage.written LiveMessage.Kept
      dsimp only
      rw [← take_mod_eq_iff, LiveMessage.trackEvidence.injEq]
      exact ⟨congrArg TrackEvidenceEvent.representativeAlignedJpeg,
        fun hjpeg => hjpeg.symm ▸ rfl⟩
  | nativeOperation value =>
      unfold LiveMessage.written LiveMessage.Kept
      dsimp only
      rw [← written_attributes_eq_iff, LiveMessage.nativeOperation.injEq]
      exact ⟨congrArg NativeOperationEvent.attributes, fun hattributes => hattributes.symm ▸ rfl⟩
  | _ => exact iff_of_true rfl trivial

end Native

/-! ## The three ways -/

/-- The Python side reads its own messages, with UUIDs in lower case.  The worker writes one
complete map, and both sides read the fields of the struct exactly if they are written as
they are. -/
theorem round_trip (packing : FloatPacking) :
    (∀ message : LiveMessage, message.Typed → ∀ frame result,
      encodeFrame message = .ok frame → Protocol.decodeMessage frame = .ok result →
      result = message.lowered) ∧
    ∀ message : Native.LiveMessage, (message.fields packing).length = message.mapSize ∧
      (message.Typed → ∀ frame, Native.encodeLiveMessage packing message = .ok frame →
        Carries frame (message.packed packing).object [] ∧
        (∀ result, Native.decodeLiveMessage frame = .ok result →
          (result = message ↔ message.Kept packing)) ∧
        ∀ result, Protocol.decodeMessage frame = .ok result →
          (Mirrors Widened result message ↔ message.Kept packing)) := by
  refine ⟨?_, fun message => ⟨Native.length_fields packing message, ?_⟩⟩
  · intro message htyped frame result hframe hresult
    exact decode_encodeFrame htyped hframe result hresult
  · intro htyped frame hframe
    refine ⟨Native.carries_encode htyped hframe, ?_, mirrors_encode htyped hframe⟩
    intro result hresult
    rw [Native.decode_encode htyped hframe result hresult]
    exact Native.LiveMessage.written_eq_iff

/-! ### Examples -/

def nativeHeader (type : String) : Native.ProtocolHeader where
  protocolVersion := 2
  messageType := utf8 type
  sessionId := utf8 "00000000-0000-4000-8000-00000000000A"
  cameraId := utf8 "00000000-0000-4000-8000-00000000000B"
  runId := utf8 "00000000-0000-4000-8000-00000000000C"
  generation := 1
  runtimeAttempt := 1
  sequence := 0
  traceparent := utf8 "00-0123456789abcdef0123456789abcdef-0123456789abcdef-01"
  tracestate := none

/-- An event without observations. -/
def snapshotOnly (jpeg : List UInt8) : Native.LiveMessage :=
  .trackEvidence {
    header := nativeHeader "track_evidence"
    trackerId := 1
    evidenceRevision := 1
    firstSeenNs := 0
    lastSeenNs := 0
    observations := []
    representativeAlignedJpeg := jpeg }

/-- An operation with one attribute. -/
def reconnected (attempt : Native.NativeAttribute) : Native.LiveMessage :=
  .nativeOperation {
    header := nativeHeader "native_operation"
    operation := utf8 "reconnect"
    startedMonotonicNs := 0
    endedMonotonicNs := 1
    status := utf8 "ok"
    errorCode := none
    attributes := [(utf8 "attempt", attempt)] }

/-- A face on one frame. -/
def sight : Native.LiveObservation where
  timestampNs := 40
  bbox := [.finite 0, .finite (1 / 2), .finite 64, .finite 48]
  detectorConfidence := .finite (3 / 4)
  landmarks := List.replicate 10 (.finite 1)
  landmarkConfidences := List.replicate 5 (.finite 1)
  qualityScore := .finite (1 / 2)
  rejectMask := 0
  embedding := List.replicate 511 (.finite 0) ++ [.finite 1]

/-- An event with an observation and the begin of a JPEG. -/
def sighted : Native.LiveMessage :=
  .trackEvidence {
    header := nativeHeader "track_evidence"
    trackerId := 7
    evidenceRevision := 1
    firstSeenNs := 40
    lastSeenNs := 40
    observations := [sight]
    representativeAlignedJpeg := [0xff, 0xd8, 0xff] }

/-- Two counters and a gauge. -/
def measured : Native.LiveMessage :=
  .metrics {
    header := nativeHeader "metrics"
    counters := [(utf8 "decoded_frames", 300), (utf8 "dropped_events", 0)]
    gauges := [(utf8 "queue_depth", .finite (5 / 2))] }

def userStop : LiveMessage :=
  .stop {
    header := {
      protocolVersion := 2
      messageType := .stop
      sessionId := "00000000-0000-4000-8000-00000000000A"
      cameraId := "00000000-0000-4000-8000-00000000000B"
      runId := "00000000-0000-4000-8000-00000000000C"
      generation := 1
      runtimeAttempt := 1
      sequence := 0
      traceparent := "00-0123456789abcdef0123456789abcdef-0123456789abcdef-01"
      tracestate := none }
    reason := "user"
    shutdownDeadlineNs := 1 }

theorem sight_dimension : sight.embedding.length = 512 := by
  show (List.replicate 511 (FloatValue.finite 0) ++ [FloatValue.finite 1]).length = 512
  rw [List.length_append, List.length_replicate, List.length_singleton]

theorem sight_typed : sight.Typed := by
  have hhalf : binary32.Has 8 (.finite (1 / 2)) :=
    binary32_has_dyadic 1 (-1) (by norm_num) (by decide) (by decide) (by decide)
  have hbbox : ∀ x ∈ sight.bbox, binary32.Has 8 x := by
    simp only [sight, List.forall_mem_cons]
    refine ⟨has_zero, hhalf, ?_, ?_, List.forall_mem_nil _⟩
    · exact binary32_has_dyadic 64 0 (by norm_num) (by decide) (by decide) (by decide)
    · exact binary32_has_dyadic 48 0 (by norm_num) (by decide) (by decide) (by decide)
  exact {
    bbox := ⟨rfl, hbbox⟩
    detectorConfidence :=
      binary32_has_dyadic 3 (-2) (by norm_num) (by decide) (by decide) (by decide)
    landmarks := ⟨List.length_replicate, List.forall_mem_replicate.mpr (.inr has_one)⟩
    landmarkConfidences := ⟨List.length_replicate, List.forall_mem_replicate.mpr (.inr has_one)⟩
    qualityScore := hhalf
    embedding := ⟨sight_dimension, List.forall_mem_append.mpr
      ⟨List.forall_mem_replicate.mpr (.inr has_zero), List.forall_mem_singleton.mpr has_one⟩⟩ }

theorem sighted_typed : sighted.Typed := List.forall_mem_singleton.mpr sight_typed

theorem measured_typed : measured.Typed where
  counters := show [utf8 "decoded_frames", utf8 "dropped_events"].Nodup by decide
  gauges := show [utf8 "queue_depth"].Nodup by decide
  numbers := List.forall_mem_singleton.mpr (binary64_has_of_binary32
    (binary32_has_dyadic 5 (-1) (by norm_num) (by decide) (by decide) (by decide)))

/-! ### They pass the checks -/

theorem userStop_valid : userStop.header.Valid where
  protocolVersion := rfl
  sessionId := ⟨_, rfl, by decide⟩
  cameraId := ⟨_, rfl, by decide⟩
  runId := ⟨_, rfl, by decide⟩
  generation := le_rfl
  runtimeAttempt := le_rfl
  traceparent := by decide
  tracestate := nofun

/-- The worker's header has the same texts. -/
theorem nativeHeader_passes (type : String) :
    List.Forall₂ Passes headerChecks (objects (nativeHeader type).packed) := by
  refine .cons ⟨rfl, rfl⟩ (.cons ⟨rfl, utf8 type, rfl⟩ ?_)
  refine .cons ⟨rfl, userStop_valid.sessionId⟩ (.cons ⟨rfl, userStop_valid.cameraId⟩ ?_)
  refine .cons ⟨rfl, userStop_valid.runId⟩ (.cons ⟨rfl, atLeast_natural le_rfl⟩ ?_)
  refine .cons ⟨rfl, atLeast_natural le_rfl⟩ (.cons ⟨rfl, atLeast_natural le_rfl⟩ ?_)
  exact .cons ⟨rfl, _, rfl, userStop_valid.traceparent⟩ (.cons ⟨rfl, .inl rfl⟩ .nil)

theorem userStop_passes :
    List.Forall₂ Passes (headerChecks ++ messageChecks .stop) userStop.payload := by
  refine List.rel_append userStop_valid.passes ?_
  exact .cons ⟨rfl, utf8 "user", rfl⟩ (.cons ⟨rfl, atLeast_natural le_rfl⟩ .nil)

/-- The array of a struct has finite numbers. -/
theorem numbers_packed {size : Nat} {values : List FloatValue} (hlength : values.length = size)
    (hfinite : ∀ x ∈ values, ∃ q, x = .finite q) :
    Numbers size (packFloatArray .plain size values).object := by
  refine ⟨?_, ?_⟩
  · show ((values.map _).map Packed.object).length = size
    rw [List.length_map, List.length_map, hlength]
  · show ∀ item ∈ (values.map _).map Packed.object, Number item
    rw [List.map_map, List.forall_mem_map]
    intro x hx
    obtain ⟨q, rfl⟩ := hfinite x hx
    exact ⟨q, rfl⟩

theorem nodup_sight : ((objects (sight.packed .plain)).map Prod.fst).Nodup := by
  show ["timestamp_ns", "bbox", "detector_confidence", "landmarks", "landmark_confidences",
    "quality_score", "reject_mask", "embedding"].Nodup
  decide

theorem sight_passes : List.Forall₂ Passes observationChecks (objects (sight.packed .plain)) := by
  have hbox : ∀ x ∈ sight.bbox, ∃ q, x = .finite q := by
    simp only [sight, List.forall_mem_cons]
    exact ⟨⟨_, rfl⟩, ⟨_, rfl⟩, ⟨_, rfl⟩, ⟨_, rfl⟩, List.forall_mem_nil _⟩
  have hones (n : Nat) : ∀ x ∈ List.replicate n (FloatValue.finite 1), ∃ q, x = .finite q :=
    List.forall_mem_replicate.mpr (.inr ⟨1, rfl⟩)
  have hembedding : ∀ x ∈ sight.embedding, ∃ q, x = .finite q :=
    List.forall_mem_append.mpr ⟨List.forall_mem_replicate.mpr (.inr ⟨0, rfl⟩),
      List.forall_mem_singleton.mpr ⟨1, rfl⟩⟩
  refine .cons ⟨rfl, atLeast_natural (Nat.zero_le _)⟩ ?_
  refine .cons ⟨rfl, numbers_packed rfl hbox⟩ (.cons ⟨rfl, _, rfl⟩ ?_)
  refine .cons ⟨rfl, numbers_packed List.length_replicate (hones 10)⟩ ?_
  refine .cons ⟨rfl, numbers_packed List.length_replicate (hones 5)⟩ (.cons ⟨rfl, _, rfl⟩ ?_)
  refine .cons ⟨rfl, atLeast_natural (Nat.zero_le _)⟩ (.cons ⟨rfl, rfl, ?_⟩ .nil)
  exact numbers_packed sight_dimension hembedding

theorem sighted_passes : List.Forall₂ Passes (headerChecks ++ messageChecks .trackEvidence)
    (objects (sighted.fields .plain)) := by
  have hobservation : MapOf (Fields observationChecks) (.fields (objects (sight.packed .plain))) :=
    mapOf_fields nodup_sight (fields_of_passes nodup_sight sight_passes)
  have hobservations : Observations (.array [.fields (objects (sight.packed .plain))]) :=
    ⟨rfl, Nat.le_of_ble_eq_true rfl, List.forall_mem_singleton.mpr hobservation⟩
  refine List.rel_append (nativeHeader_passes "track_evidence") ?_
  refine .cons ⟨rfl, atLeast_natural (Nat.zero_le _)⟩ (.cons ⟨rfl, atLeast_natural le_rfl⟩ ?_)
  refine .cons ⟨rfl, atLeast_natural (Nat.zero_le _)⟩ ?_
  refine .cons ⟨rfl, atLeast_natural (Nat.zero_le _)⟩ (.cons ⟨rfl, hobservations⟩ ?_)
  exact .cons ⟨rfl, _, rfl, Nat.le_of_ble_eq_true rfl⟩ .nil

/-- A message of the worker that both sides read as it is. -/
def Native.LiveMessage.ComesBack (packing : FloatPacking) (message : Native.LiveMessage) :
    Prop :=
  ∃ frame, Native.encodeLiveMessage packing message = .ok frame ∧
    Native.decodeLiveMessage frame = .ok message ∧
    ∃ result, Protocol.decodeMessage frame = .ok result ∧ Mirrors Widened result message

/-- The frame of a message whose fields pass the checks is accepted by both sides. -/
theorem accepted_of_passes {packing : FloatPacking} {message : Native.LiveMessage}
    (htyped : message.Typed) (htype : message.header.messageType = utf8 message.type.text)
    (hpasses : List.Forall₂ Passes (headerChecks ++ messageChecks message.type)
      (objects (message.fields packing)))
    (hconsistent : Consistent message.type (readMap (objects (message.fields packing))))
    (hreadable : ∀ entry ∈ objects (message.fields packing),
      Protocol.readable entry.2 = true)
    (hnative : NativeReads message.type (readMap (objects (message.fields packing))))
    (hpython : PythonReads message.type (readMap (objects (message.fields packing))))
    {frame : List UInt8} (hframe : Native.encodeLiveMessage packing message = .ok frame) :
    (∃ result, Native.decodeLiveMessage frame = .ok result) ∧
      ∃ result, Protocol.decodeMessage frame = .ok result := by
  have hunique : ((objects (message.fields packing)).map Prod.fst).Nodup := by
    rw [Native.names_fields]
    exact nodup_names message.type
  have hcarries : Carries frame (.fields (objects (message.fields packing))) [] := by
    rw [objects, ← Packed.fields_object message.mapSize]
    exact Native.carries_encode htyped hframe
  have hmem : ("message_type", Object.text message.type.text) ∈
      objects (message.fields packing) := by
    show ("message_type", Object.str (utf8 message.type.text)) ∈ _
    rw [← htype]
    exact List.mem_map_of_mem (List.mem_append_left _
      (List.mem_cons_of_mem _ List.mem_cons_self))
  have hmessage := message_of_passes hpasses hmem hconsistent
  exact ⟨native_accepts hcarries hmessage hunique hnative,
    python_accepts hcarries hmessage hunique hreadable hpython⟩

/-- What a frame carries comes back where both sides accept it. -/
theorem comesBack_of_accepted {packing : FloatPacking} {message : Native.LiveMessage}
    {frame : List UInt8} (hframe : Native.encodeLiveMessage packing message = .ok frame)
    (hcarried : (∀ result, Native.decodeLiveMessage frame = .ok result →
        (result = message ↔ message.Kept packing)) ∧
      ∀ result, Protocol.decodeMessage frame = .ok result →
        (Mirrors Widened result message ↔ message.Kept packing))
    (hkept : message.Kept packing)
    (haccepted : (∃ result, Native.decodeLiveMessage frame = .ok result) ∧
      ∃ result, Protocol.decodeMessage frame = .ok result) : message.ComesBack packing := by
  obtain ⟨⟨back, hback⟩, result, hresult⟩ := haccepted
  obtain ⟨hsame, hmirrors⟩ := hcarried
  rw [(hsame back hback).mpr hkept] at hback
  exact ⟨frame, hframe, hback, result, hresult, (hmirrors result hresult).mpr hkept⟩

theorem readable_nativeHeader (type : String) :
    ∀ entry ∈ objects (nativeHeader type).packed, Protocol.readable entry.2 = true := by
  have hpayload : objects (nativeHeader type).packed = ("protocol_version", natural 2) ::
      ("message_type", .text type) :: userStop.header.payload.drop 2 := rfl
  rw [hpayload, List.forall_mem_cons, List.forall_mem_cons]
  refine ⟨rfl, Protocol.readable_text type, fun entry hentry => ?_⟩
  exact readable_header userStop.header entry (List.mem_of_mem_drop hentry)

theorem readable_packed (size : Nat) (values : List FloatValue) :
    Protocol.readable (packFloatArray .plain size values).object = true := by
  refine Protocol.readable_array ?_
  rw [List.map_map, List.forall_mem_map]
  intro x _
  cases x <;> rfl

theorem readable_sight :
    ∀ entry ∈ objects (sight.packed .plain), Protocol.readable entry.2 = true := by
  simp only [objects, Native.LiveObservation.packed, List.map_cons, List.map_nil,
    List.forall_mem_cons, readable_packed]
  exact ⟨rfl, trivial, rfl, trivial, trivial, rfl, rfl, trivial, List.forall_mem_nil _⟩

/-- The fields of the observation that both sides look at once more. -/
theorem sight_fields :
    field (readMap (objects (sight.packed .plain))) "bbox" =
        (packFloatArray .plain 4 sight.bbox).object ∧
      field (readMap (objects (sight.packed .plain))) "landmarks" =
        (packFloatArray .plain 10 sight.landmarks).object ∧
      field (readMap (objects (sight.packed .plain))) "landmark_confidences" =
        (packFloatArray .plain 5 sight.landmarkConfidences).object ∧
      field (readMap (objects (sight.packed .plain))) "embedding" =
        (packFloatArray .plain 512 sight.embedding).object := by
  refine ⟨field_of_mem nodup_sight ?_, field_of_mem nodup_sight ?_, field_of_mem nodup_sight ?_,
    field_of_mem nodup_sight ?_⟩
  all_goals simp [objects, Native.LiveObservation.packed]

theorem sighted_entries : objects (sighted.fields .plain) =
    objects (nativeHeader "track_evidence").packed ++
      [("tracker_id", natural 7), ("evidence_revision", natural 1), ("first_seen_ns", natural 40),
       ("last_seen_ns", natural 40),
       ("observations", .array [.fields (objects (sight.packed .plain))]),
       ("representative_aligned_jpeg", .bin [0xff, 0xd8, 0xff])] := rfl

theorem sighted_observations :
    field (readMap (objects (sighted.fields .plain))) "observations" =
      .array [.fields (objects (sight.packed .plain))] := by
  refine field_of_mem ?_ ?_
  · rw [Native.names_fields]
    exact nodup_names .trackEvidence
  · rw [sighted_entries]
    exact List.mem_append_right _ (by simp)

theorem sighted_accepted {frame : List UInt8}
    (hframe : Native.encodeLiveMessage .plain sighted = .ok frame) :
    (∃ result, Native.decodeLiveMessage frame = .ok result) ∧
      ∃ result, Protocol.decodeMessage frame = .ok result := by
  obtain ⟨hbox, hlandmarks, hconfidences, hembedding⟩ := sight_fields
  have hreadable : ∀ entry ∈ objects (sighted.fields .plain),
      Protocol.readable entry.2 = true := by
    rw [sighted_entries, List.forall_mem_append]
    refine ⟨readable_nativeHeader "track_evidence", ?_⟩
    have hsight := Protocol.readable_array
      (List.forall_mem_singleton.mpr (Protocol.readable_fields readable_sight))
    simp only [List.forall_mem_cons, hsight]
    exact ⟨rfl, rfl, rfl, rfl, trivial, rfl, List.forall_mem_nil _⟩
  have hnative : NativeReads .trackEvidence (readMap (objects (sighted.fields .plain))) := by
    show ∀ item ∈ items (field _ "observations"), MapOf NativeObservation item
    rw [sighted_observations]
    refine List.forall_mem_singleton.mpr (mapOf_fields nodup_sight ?_)
    unfold NativeObservation
    rw [hbox, hlandmarks, hconfidences, hembedding]
    exact ⟨rfl, rfl, rfl, by decide +kernel⟩
  have hpython : PythonReads .trackEvidence (readMap (objects (sighted.fields .plain))) := by
    show ∀ item ∈ items (field _ "observations"), TextKeys item ∧ MapOf _ item
    rw [sighted_observations]
    refine List.forall_mem_singleton.mpr ⟨textKeys_fields _, mapOf_fields nodup_sight ?_⟩
    rw [hembedding]
    decide +kernel
  exact accepted_of_passes sighted_typed rfl sighted_passes trivial hreadable hnative hpython
    hframe

theorem measured_entries : objects (measured.fields .plain) =
    objects (nativeHeader "metrics").packed ++
      [("counters", .fields [("decoded_frames", natural 300), ("dropped_events", natural 0)]),
       ("gauges", .fields [("queue_depth", number (5 / 2))])] := rfl

theorem measured_accepted {frame : List UInt8}
    (hframe : Native.encodeLiveMessage .plain measured = .ok frame) :
    (∃ result, Native.decodeLiveMessage frame = .ok result) ∧
      ∃ result, Protocol.decodeMessage frame = .ok result := by
  have hcounters : Values (AtLeast 0)
      (.fields [("decoded_frames", natural 300), ("dropped_events", natural 0)]) := by
    refine mapOf_fields (by decide) ?_
    exact List.forall_mem_cons.mpr ⟨atLeast_natural (Nat.zero_le _),
      List.forall_mem_singleton.mpr (atLeast_natural le_rfl)⟩
  have hgauges : Values Number (.fields [("queue_depth", number (5 / 2))]) :=
    mapOf_fields (by decide) (List.forall_mem_singleton.mpr ⟨5 / 2, rfl⟩)
  have hpasses : List.Forall₂ Passes (headerChecks ++ messageChecks .metrics)
      (objects (measured.fields .plain)) := by
    rw [measured_entries]
    refine List.rel_append (nativeHeader_passes "metrics") ?_
    exact .cons ⟨rfl, hcounters⟩ (.cons ⟨rfl, hgauges⟩ .nil)
  have hreadable : ∀ entry ∈ objects (measured.fields .plain),
      Protocol.readable entry.2 = true := by
    rw [measured_entries, List.forall_mem_append, List.forall_mem_cons]
    refine ⟨readable_nativeHeader "metrics", Protocol.readable_fields ?_,
      List.forall_mem_singleton.mpr (Protocol.readable_fields ?_)⟩
    · exact List.forall_mem_cons.mpr ⟨rfl, List.forall_mem_singleton.mpr rfl⟩
    · exact List.forall_mem_singleton.mpr rfl
  have hpython : PythonReads .metrics (readMap (objects (measured.fields .plain))) := by
    have hunique : ((objects (measured.fields .plain)).map Prod.fst).Nodup := by
      rw [Native.names_fields]
      exact nodup_names .metrics
    show TextKeys (field _ "counters") ∧ TextKeys (field _ "gauges")
    rw [measured_entries] at hunique ⊢
    rw [field_of_mem hunique (List.mem_append_right _ List.mem_cons_self),
      field_of_mem hunique (List.mem_append_right _ (List.mem_cons_of_mem _ List.mem_cons_self))]
    exact ⟨textKeys_fields _, textKeys_fields _⟩
  exact accepted_of_passes measured_typed rfl hpasses trivial hreadable trivial hpython hframe

/-- A stop command, a face that was seen and a metrics event come back. -/
theorem round_trip_samples :
    (∃ frame, encodeFrame userStop = .ok frame ∧
      Protocol.decodeMessage frame = .ok userStop.lowered) ∧
    sighted.ComesBack .plain ∧ measured.ComesBack .plain := by
  obtain ⟨hpython, hnative⟩ := round_trip .plain
  refine ⟨?_, ?_, ?_⟩
  · have hexact : (Object.fields userStop.payload).Exact := by
      simp [Object.fields, LiveMessage.payload, userStop, ProtocolHeader.payload, Object.Exact,
        Object.EntriesExact, Object.text, natural, optional, LiveMessage.body, LiveMessage.header]
    have htyped : userStop.Typed := ⟨hexact, trivial⟩
    obtain ⟨frame, hframe⟩ := exists_ok_of_isSome (x := encodeFrame userStop) (by decide +kernel)
    obtain ⟨result, hresult⟩ : ∃ result, Protocol.decodeMessage frame = .ok result :=
      ⟨_, decode_of_passes htyped rfl userStop_passes trivial trivial hframe⟩
    rw [hpython userStop htyped frame result hframe hresult] at hresult
    exact ⟨frame, hframe, hresult⟩
  · obtain ⟨frame, hframe⟩ := exists_ok_of_isSome
      (x := Native.encodeLiveMessage .plain sighted) (by decide +kernel)
    refine comesBack_of_accepted hframe ((hnative sighted).2 sighted_typed frame hframe).2 ?_
      (sighted_accepted hframe)
    exact show [0xff, 0xd8, 0xff].length < 4294967296 by decide
  · obtain ⟨frame, hframe⟩ := exists_ok_of_isSome
      (x := Native.encodeLiveMessage .plain measured) (by decide +kernel)
    exact comesBack_of_accepted hframe ((hnative measured).2 measured_typed frame hframe).2 trivial
      (measured_accepted hframe)

/-- A JPEG whose size is cast to 0 is written as an empty one. -/
theorem encode_snapshotOnly {jpeg : List UInt8} (h : jpeg.length % 4294967296 = 0) :
    Native.encodeLiveMessage .plain (snapshotOnly jpeg) =
      Native.encodeLiveMessage .plain (snapshotOnly []) := by
  have hjpeg : packJpeg jpeg = packJpeg [] := by
    unfold packJpeg
    rw [h, List.take_zero, List.take_nil]
  have hpacked : (snapshotOnly jpeg).packed .plain = (snapshotOnly []).packed .plain := by
    simp only [snapshotOnly, Native.LiveMessage.packed, Native.LiveMessage.fields,
      Native.LiveMessage.header, Native.LiveMessage.body, Native.TrackEvidenceEvent.packed, hjpeg]
    rfl
  unfold Native.encodeLiveMessage
  rw [hpacked]

/-- A JPEG of 2^32 bytes comes back without a byte, and an attempt that was counted in a double
as an integer. -/
theorem values_lost :
    (¬ ∀ message : Native.LiveMessage, message.Typed → ∀ frame result,
      Native.encodeLiveMessage .plain message = .ok frame →
      Native.decodeLiveMessage frame = .ok result → result = message) ∧
    ¬ ∀ message : Native.LiveMessage, message.Typed → ∀ frame result,
      Native.encodeLiveMessage .whole message = .ok frame →
      Native.decodeLiveMessage frame = .ok result → result = message := by
  constructor
  · intro hall
    obtain ⟨result, hdecoded⟩ := exists_ok_of_isSome
      (x := Native.encodeLiveMessage .plain (snapshotOnly []) >>= Native.decodeLiveMessage)
      (by decide +kernel)
    obtain ⟨frame, hframe, hresult⟩ := bind_ok_iff.mp hdecoded
    have hempty := hall (snapshotOnly []) (List.forall_mem_nil _) frame result hframe hresult
    have hlong := hall (snapshotOnly (List.replicate 4294967296 0)) (List.forall_mem_nil _) frame
      result ((encode_snapshotOnly (by rw [List.length_replicate])).trans hframe) hresult
    have hjpeg : ([] : List UInt8) = List.replicate 4294967296 0 :=
      congrArg Native.TrackEvidenceEvent.representativeAlignedJpeg
        (Native.LiveMessage.trackEvidence.inj (hempty.symm.trans hlong))
    have hlength := congrArg List.length hjpeg
    rw [List.length_replicate] at hlength
    exact absurd hlength (by decide)
  · intro hall
    have hdecoded : (Native.encodeLiveMessage .whole (reconnected (.number (.finite 2))) >>=
        Native.decodeLiveMessage).toOption = some (reconnected (.integer 2)) := by
      decide +kernel
    obtain ⟨result, hok⟩ := exists_ok_of_isSome (congrArg Option.isSome hdecoded)
    obtain ⟨frame, hframe, hresult⟩ := bind_ok_iff.mp hok
    have htyped : (reconnected (.number (.finite 2))).Typed :=
      { attributes := show ([utf8 "attempt"]).Nodup by decide
        numbers := List.forall_mem_singleton.mpr (show binary64.Has 11 (.finite 2) from
          ⟨0x4000000000000000, by decide +kernel⟩) }
    have hsame := hall (reconnected (.number (.finite 2))) htyped frame result hframe hresult
    rw [hok, hsame] at hdecoded
    exact absurd hdecoded (by decide +kernel)

end Mvision.Live
