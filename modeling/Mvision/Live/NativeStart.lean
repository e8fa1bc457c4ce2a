import Mvision.Library.Checks
import Mvision.Live.NativeDecoder
import Mvision.Live.ProtocolEncoding

/-!
# A start command across the pipe

What the native worker reads of a start command that the Python side has packed:
exactly when it accepts the command, and what it then has.
-/

namespace Mvision.Live.Native

open Mvision.Library

/-! ## The readers -/

theorem failIf_ok_iff {condition : Prop} [Decidable condition] {code : String} {u : Unit} :
    failIf condition code = .ok u ↔ ¬ condition := by
  unfold failIf
  split <;> simp_all

theorem unsignedInteger_natural_ok_iff {n : Nat} {minimum u : UInt64}
    (hn : n < 18446744073709551616) :
    unsignedInteger (natural n) minimum = .ok u ↔ minimum.toNat ≤ n ∧ n.toUInt64 = u := by
  have htoNat : n.toUInt64.toNat = n := Nat.mod_eq_of_lt hn
  have hlt : (n.toUInt64 < minimum) ↔ n < minimum.toNat := by
    rw [UInt64.lt_iff_toNat_lt, htoNat]
  have hneg : ¬ ((n : Int) < 0) := by omega
  simp only [natural, unsignedInteger, if_neg hneg, Int.toNat_natCast, hlt]
  split
  · rename_i h
    exact iff_of_false (by simp) fun h' => absurd h (not_lt.mpr h'.1)
  · rename_i h
    rw [Except.ok.injEq]
    exact (and_iff_right (not_lt.mp h)).symm

/-- The map that the worker reads of a payload. -/
def readMap (entries : List (String × Object)) : ObjectMap :=
  entries.map fun entry => (utf8 entry.1, entry.2)

theorem lookup_readMap (entries : List (String × Object)) (key : String) :
    (readMap entries).lookup (utf8 key) = entries.lookup key := by
  induction entries with
  | nil => rfl
  | cons entry rest ih =>
      obtain ⟨name, value⟩ := entry
      show List.lookup (utf8 key) ((utf8 name, value) :: readMap rest) = _
      rw [List.lookup_cons, List.lookup_cons, ih]
      by_cases h : key = name
      · rw [h, beq_self_eq_true, beq_self_eq_true]
      · rw [beq_false_of_ne h, beq_false_of_ne (mt utf8_inj.mp h)]

theorem required_of_mem {entries : List (String × Object)} {key : String} {value : Object}
    (h : entries.lookup key = some value) : required (readMap entries) key = .ok value := by
  rw [required, lookup_readMap, h]

/-- A payload has the fields of its names. -/
theorem validateExactFields_readMap {entries : List (String × Object)} {expected : List String}
    (h : entries.map Prod.fst = expected) :
    validateExactFields (readMap entries) expected = .ok () := by
  subst h
  unfold validateExactFields
  rw [if_neg, if_neg]
  · rintro ⟨entry, hentry, hnot⟩
    apply hnot
    obtain ⟨field, hfield, rfl⟩ := List.mem_map.mp hentry
    exact List.mem_map_of_mem (List.mem_map_of_mem hfield)
  · rintro ⟨key, hkey, hnone⟩
    rw [lookup_readMap, Option.isNone_iff_eq_none, List.lookup_eq_none_iff] at hnone
    obtain ⟨entry, hentry, rfl⟩ := List.mem_map.mp hkey
    simpa using hnone entry hentry

@[simp] theorem stringValue_text (value : String) : stringValue (.text value) = .ok (utf8 value) :=
  rfl

@[simp] theorem finiteNumber_number (q : ℚ) : finiteNumber (number q) = .ok q := rfl

@[simp] theorem booleanValue_boolean (flag : Bool) : booleanValue (.boolean flag) = .ok flag := rfl

theorem signedInteger_ok_iff {n : Int} {attempts : Int64} :
    signedInteger (.integer n) = .ok attempts ↔
      n ≤ Int64.maxValue.toInt ∧ Int64.ofInt n = attempts := by
  unfold signedInteger
  dsimp only
  split
  · rename_i h
    rw [Except.ok.injEq]
    exact (and_iff_right h).symm
  · rename_i h
    exact iff_of_false (by simp) fun h' => h h'.1

/-! ## The command -/

/-- What the worker has of a command that it accepts. -/
def received (header : ProtocolHeader) (command : Live.StartCommand) : StartCommand where
  header := header
  uri := utf8 command.uri
  gpuId := command.gpuId.toUInt64.toUInt32
  pgieConfigPath := utf8 command.pgieConfigPath
  preprocessConfigPath := utf8 command.preprocessConfigPath
  sgieConfigPath := utf8 command.sgieConfigPath
  trackerConfigPath := utf8 command.trackerConfigPath
  outputMountPath := utf8 command.outputMountPath
  outputUdpPort := command.outputUdpPort.toUInt64.toUInt16
  outputRtspPort := command.outputRtspPort.toUInt64.toUInt16
  profileVersion := command.profileVersion.toUInt64.toUInt32
  analyticsMode := utf8 command.analyticsMode
  sampleEveryN := command.sampleEveryN.toUInt64.toUInt32
  detectorThreshold := .finite command.detectorThreshold
  recognitionThreshold := .finite command.recognitionThreshold
  top2Margin := .finite command.top2Margin
  trackGapNs := command.trackGapNs.toUInt64
  latencyMs := command.latencyMs.toUInt64.toUInt32
  reconnectIntervalSeconds := command.reconnectIntervalSeconds.toUInt64.toUInt32
  reconnectAttempts := (Int64.ofInt command.reconnectAttempts).toInt32
  frameTimeoutNs := command.frameTimeoutNs.toUInt64
  recordingEnabled := command.recordingEnabled
  annotatedEnabled := command.annotatedEnabled

/-- The integers of a command have a place in a frame. -/
structure Packs (command : Live.StartCommand) : Prop where
  gpuId : command.gpuId < 18446744073709551616
  outputUdpPort : command.outputUdpPort < 18446744073709551616
  outputRtspPort : command.outputRtspPort < 18446744073709551616
  profileVersion : command.profileVersion < 18446744073709551616
  sampleEveryN : command.sampleEveryN < 18446744073709551616
  trackGapNs : command.trackGapNs < 18446744073709551616
  latencyMs : command.latencyMs < 18446744073709551616
  reconnectIntervalSeconds : command.reconnectIntervalSeconds < 18446744073709551616
  reconnectAttempts : Object.IntegerFits command.reconnectAttempts
  frameTimeoutNs : command.frameTimeoutNs < 18446744073709551616

/-- What the worker checks of a command. -/
structure Accepts (command : Live.StartCommand) : Prop where
  outputUdpPort : 1 ≤ command.outputUdpPort ∧ command.outputUdpPort ≤ 65535
  outputRtspPort : 1 ≤ command.outputRtspPort ∧ command.outputRtspPort ≤ 65535
  profileVersion : 1 ≤ command.profileVersion ∧ command.profileVersion ≤ 4294967295
  analyticsMode : command.analyticsMode = "detect" ∨ command.analyticsMode = "detectTrack" ∨
    command.analyticsMode = "recognize"
  sampleEveryN : 1 ≤ command.sampleEveryN ∧ command.sampleEveryN ≤ 4294967295
  detectorThreshold : 0 ≤ command.detectorThreshold ∧ command.detectorThreshold ≤ 1
  recognitionThreshold : 0 ≤ command.recognitionThreshold ∧ command.recognitionThreshold ≤ 1
  top2Margin : 0 ≤ command.top2Margin ∧ command.top2Margin ≤ 1
  trackGapNs : 1 ≤ command.trackGapNs
  latencyMs : command.latencyMs ≤ 4294967295
  reconnectIntervalSeconds : command.reconnectIntervalSeconds ≤ 4294967295
  reconnectAttempts : -1 ≤ command.reconnectAttempts ∧ command.reconnectAttempts ≤ 2147483647
  frameTimeoutNs : 1 ≤ command.frameTimeoutNs

theorem toUInt64_gt_iff {n : Nat} {bound : UInt64} (hn : n < 18446744073709551616) :
    n.toUInt64 > bound ↔ bound.toNat < n := by
  have htoNat : n.toUInt64.toNat = n := Nat.mod_eq_of_lt hn
  rw [gt_iff_lt, UInt64.lt_iff_toNat_lt, htoNat]

theorem outsideUnit_iff {q : ℚ} : outsideUnit q = true ↔ ¬ (0 ≤ q ∧ q ≤ 1) := by
  rw [outsideUnit, Bool.or_eq_true, decide_eq_true_eq, decide_eq_true_eq, not_and_or, not_le,
    not_le]

/-- Attempts that have a place in 64 bits pass if they have one in 32, the sign aside. -/
theorem attempts_iff {n : Int} (hn : Object.IntegerFits n) :
    (n ≤ Int64.maxValue.toInt ∧ ¬ (Int64.ofInt n < -1 ∨ Int64.ofInt n > maxInt32)) ↔
      -1 ≤ n ∧ n ≤ 2147483647 := by
  have hmax : Int64.maxValue.toInt = 9223372036854775807 := by decide
  have hmin : Int64.minValue.toInt = -9223372036854775808 := by decide
  have hone : (-1 : Int64).toInt = -1 := by decide
  have hthirtyTwo : maxInt32.toInt = 2147483647 := by decide
  unfold Object.IntegerFits at hn
  by_cases h : n ≤ 9223372036854775807
  · have htoInt : (Int64.ofInt n).toInt = n := Int64.toInt_ofInt_of_le (by omega) (by omega)
    rw [gt_iff_lt, Int64.lt_iff_toInt_lt, Int64.lt_iff_toInt_lt, htoInt, hone, hmax, hthirtyTwo]
    omega
  · rw [hmax]
    omega

/-- The specification of the start branch of `decode_payload`. -/
theorem decodeStart_ok_iff {header : ProtocolHeader} {command : Live.StartCommand}
    (h : Packs command) {result : StartCommand} :
    decodeStart header (readMap (Live.LiveMessage.start command).payload) = .ok result ↔
      Accepts command ∧ result = received header command := by
  have hread (key : String) (value : Object)
      (hl : (Live.LiveMessage.start command).payload.lookup key = some value) :
      required (readMap (Live.LiveMessage.start command).payload) key = .ok value :=
    required_of_mem hl
  have hfields : validateFields (readMap (Live.LiveMessage.start command).payload) startFields =
      .ok () :=
    validateExactFields_readMap rfl
  unfold decodeStart
  rw [hfields, ok_bind, hread "output_udp_port" _ rfl, hread "output_rtsp_port" _ rfl,
    hread "profile_version" _ rfl, hread "sample_every_n" _ rfl, hread "latency_ms" _ rfl,
    hread "reconnect_interval_seconds" _ rfl, hread "reconnect_attempts" _ rfl,
    hread "analytics_mode" _ rfl, hread "detector_threshold" _ rfl,
    hread "recognition_threshold" _ rfl, hread "top2_margin" _ rfl,
    hread "recording_enabled" _ rfl, hread "annotated_enabled" _ rfl, hread "uri" _ rfl,
    hread "gpu_id" _ rfl, hread "pgie_config_path" _ rfl, hread "preprocess_config_path" _ rfl,
    hread "sgie_config_path" _ rfl, hread "tracker_config_path" _ rfl,
    hread "output_mount_path" _ rfl, hread "track_gap_ns" _ rfl,
    hread "frame_timeout_ns" _ rfl]
  simp only [ok_bind, bind_ok_iff, unsignedInteger_natural_ok_iff h.outputUdpPort,
    unsignedInteger_natural_ok_iff h.outputRtspPort,
    unsignedInteger_natural_ok_iff h.profileVersion,
    unsignedInteger_natural_ok_iff h.sampleEveryN, unsignedInteger_natural_ok_iff h.latencyMs,
    unsignedInteger_natural_ok_iff h.reconnectIntervalSeconds,
    unsignedInteger_natural_ok_iff h.gpuId, unsignedInteger_natural_ok_iff h.trackGapNs,
    unsignedInteger_natural_ok_iff h.frameTimeoutNs, failIf_ok_iff, signedInteger_ok_iff,
    stringValue_text, finiteNumber_number, booleanValue_boolean, and_assoc, exists_and_left,
    exists_eq_left', exists_const, toUInt64_gt_iff h.outputUdpPort,
    toUInt64_gt_iff h.outputRtspPort, toUInt64_gt_iff h.profileVersion,
    toUInt64_gt_iff h.sampleEveryN, toUInt64_gt_iff h.latencyMs,
    toUInt64_gt_iff h.reconnectIntervalSeconds, outsideUnit_iff, ne_eq, utf8_inj]
  have hattempts := attempts_iff h.reconnectAttempts
  constructor
  · rintro ⟨hudp, hrtsp, hprofile, hsample, -, -, hbounds, hplace, hbelow, hmode, hunit, -, hgap,
      htimeout, hresult⟩
    simp only [not_or, not_lt, not_not] at hbounds hunit
    simp only [not_and_or, not_not] at hmode
    obtain ⟨hudp', hrtsp', hprofile', hsample', hlatency, hinterval⟩ := hbounds
    obtain ⟨hdetector, hrecognition, hmargin⟩ := hunit
    refine ⟨?_, (Except.ok.inj hresult).symm⟩
    exact {
      outputUdpPort := ⟨hudp, hudp'⟩
      outputRtspPort := ⟨hrtsp, hrtsp'⟩
      profileVersion := ⟨hprofile, hprofile'⟩
      analyticsMode := hmode
      sampleEveryN := ⟨hsample, hsample'⟩
      detectorThreshold := hdetector
      recognitionThreshold := hrecognition
      top2Margin := hmargin
      trackGapNs := hgap
      latencyMs := hlatency
      reconnectIntervalSeconds := hinterval
      reconnectAttempts := hattempts.mp ⟨hplace, hbelow⟩
      frameTimeoutNs := htimeout }
  · rintro ⟨ha, rfl⟩
    obtain ⟨hplace, hbelow⟩ := hattempts.mpr ha.reconnectAttempts
    refine ⟨ha.outputUdpPort.1, ha.outputRtspPort.1, ha.profileVersion.1, ha.sampleEveryN.1,
      Nat.zero_le _, Nat.zero_le _, ?_, hplace, hbelow, ?_, ?_, Nat.zero_le _, ha.trackGapNs,
      ha.frameTimeoutNs, rfl⟩
    · simp only [not_or, not_lt]
      exact ⟨ha.outputUdpPort.2, ha.outputRtspPort.2, ha.profileVersion.2, ha.sampleEveryN.2,
        ha.latencyMs, ha.reconnectIntervalSeconds⟩
    · simp only [not_and_or, not_not]
      exact ha.analyticsMode
    · simp only [not_or, not_not]
      exact ⟨ha.detectorThreshold, ha.recognitionThreshold, ha.top2Margin⟩

/-! ## The header -/

@[simp] theorem optionalString_optional (value : Option String) :
    optionalString (optional .text value) = .ok (value.map utf8) := by
  cases value <;> rfl

/-- What the worker has of a header that it accepts. -/
def receivedHeader (header : Live.ProtocolHeader) : ProtocolHeader where
  protocolVersion := header.protocolVersion.toUInt64.toUInt32
  messageType := utf8 header.messageType.text
  sessionId := utf8 header.sessionId
  cameraId := utf8 header.cameraId
  runId := utf8 header.runId
  generation := header.generation.toUInt64
  runtimeAttempt := header.runtimeAttempt.toUInt64
  sequence := header.sequence.toUInt64
  traceparent := utf8 header.traceparent
  tracestate := header.tracestate.map utf8

structure HeaderPacks (header : Live.ProtocolHeader) : Prop where
  protocolVersion : header.protocolVersion < 18446744073709551616
  generation : header.generation < 18446744073709551616
  runtimeAttempt : header.runtimeAttempt < 18446744073709551616
  sequence : header.sequence < 18446744073709551616

/-- What the worker checks of a header. -/
structure HeaderAccepts (header : Live.ProtocolHeader) : Prop where
  protocolVersion : header.protocolVersion = 2
  trace : validateTraceContext (utf8 header.traceparent) (header.tracestate.map utf8) = .ok ()
  sessionId : canonicalUuid (utf8 header.sessionId) = true
  cameraId : canonicalUuid (utf8 header.cameraId) = true
  runId : canonicalUuid (utf8 header.runId) = true
  generation : 1 ≤ header.generation
  runtimeAttempt : 1 ≤ header.runtimeAttempt

theorem uuidValue_text_ok_iff {value : String} {text : Text} :
    uuidValue (.text value) = .ok text ↔ canonicalUuid (utf8 value) = true ∧ utf8 value = text := by
  rw [uuidValue, stringValue_text, ok_bind]
  split
  · rename_i h
    rw [Except.ok.injEq]
    exact (and_iff_right h).symm
  · rename_i h
    exact iff_of_false (by simp) fun h' => h h'.1

theorem text_mem_knownTypes (type : MessageType) :
    utf8 type.text ∈ knownTypes.map utf8 := by
  apply List.mem_map_of_mem
  cases type <;> decide

/-- The specification of `decode_header`. -/
theorem decodeHeader_ok_iff (message : Live.LiveMessage) (h : HeaderPacks message.header)
    (result : ProtocolHeader) :
    decodeHeader (readMap message.payload) = .ok result ↔
      HeaderAccepts message.header ∧ result = receivedHeader message.header := by
  have hread (key : String) (value : Object) (hl : message.payload.lookup key = some value) :
      required (readMap message.payload) key = .ok value :=
    required_of_mem hl
  have hversion : message.header.protocolVersion.toUInt64 = liveProtocolVersion ↔
      message.header.protocolVersion = 2 := by
    have htoNat : message.header.protocolVersion.toUInt64.toNat = message.header.protocolVersion :=
      Nat.mod_eq_of_lt h.protocolVersion
    rw [← UInt64.toNat_inj, htoNat]
    rfl
  unfold decodeHeader
  rw [hread "protocol_version" _ rfl, hread "message_type" _ rfl, hread "traceparent" _ rfl,
    hread "tracestate" _ rfl, hread "session_id" _ rfl, hread "camera_id" _ rfl,
    hread "run_id" _ rfl, hread "generation" _ rfl, hread "runtime_attempt" _ rfl,
    hread "sequence" _ rfl]
  simp only [ok_bind, bind_ok_iff, unsignedInteger_natural_ok_iff h.protocolVersion,
    unsignedInteger_natural_ok_iff h.generation, unsignedInteger_natural_ok_iff h.runtimeAttempt,
    unsignedInteger_natural_ok_iff h.sequence, failIf_ok_iff, stringValue_text,
    optionalString_optional, uuidValue_text_ok_iff, and_assoc, exists_and_left, exists_eq_left',
    exists_const, ne_eq, not_not, hversion, text_mem_knownTypes, true_and]
  constructor
  · rintro ⟨-, hversion, ⟨⟩, htrace, hsession, hcamera, hrun, hgeneration, hattempt, -, hresult⟩
    exact ⟨⟨hversion, htrace, hsession, hcamera, hrun, hgeneration, hattempt⟩,
      (Except.ok.inj hresult).symm⟩
  · rintro ⟨ha, rfl⟩
    have hone : 1 ≤ message.header.protocolVersion := by
      rw [ha.protocolVersion]
      decide
    exact ⟨hone, ha.protocolVersion, (), ha.trace, ha.sessionId, ha.cameraId, ha.runId,
      ha.generation, ha.runtimeAttempt, Nat.zero_le _, rfl⟩

/-! ## The frame -/

/-- The names of a start command are distinct. -/
theorem start_names_nodup (command : Live.StartCommand) :
    ((Live.LiveMessage.start command).payload.map Prod.fst).Nodup := by
  show (headerFields ++ startFields).Nodup
  decide

/-- The worker accepts the frame of a start command exactly if the command passes its checks,
and then has what was sent. -/
theorem decodeTree_start_ok_iff {command : Live.StartCommand}
    (htype : command.header.messageType = .start) (hheader : HeaderPacks command.header)
    (h : Packs command) {result : LiveMessage} :
    decodeTree (.fields (Live.LiveMessage.start command).payload) = .ok result ↔
      HeaderAccepts command.header ∧ Accepts command ∧
        result = .start (received (receivedHeader command.header) command) := by
  have hmap : objectMap (.fields (Live.LiveMessage.start command).payload) "INVALID_PAYLOAD" =
      .ok (readMap (Live.LiveMessage.start command).payload) := by
    have hstring := Object.asStringMap_fields (start_names_nodup command)
    unfold objectMap Object.fields
    unfold Object.fields at hstring
    simp only [hstring]
    rfl
  rw [decodeTree, hmap, ok_bind, decodePayload, bind_ok_iff]
  have hdecode := decodeHeader_ok_iff (.start command) hheader
  have hstart : (receivedHeader (Live.LiveMessage.start command).header).messageType =
      utf8 "start" := by
    rw [receivedHeader, Live.LiveMessage.header, htype]
    rfl
  constructor
  · rintro ⟨header, hdecoded, hresult⟩
    obtain ⟨ha, rfl⟩ := (hdecode header).mp hdecoded
    dsimp only at hresult
    rw [if_pos hstart] at hresult
    obtain ⟨accepted, hr, rfl⟩ := map_ok_iff.mp hresult
    obtain ⟨haccepts, rfl⟩ := (decodeStart_ok_iff h).mp hr
    exact ⟨ha, haccepts, rfl⟩
  · rintro ⟨ha, haccepts, rfl⟩
    refine ⟨_, (hdecode _).mpr ⟨ha, rfl⟩, ?_⟩
    dsimp only
    rw [if_pos hstart]
    apply map_ok_iff.mpr
    exact ⟨_, (decodeStart_ok_iff h).mpr ⟨haccepts, rfl⟩, rfl⟩

/-! ## Packing -/

theorem packs_of_packable {command : Live.StartCommand}
    (h : (Object.fields (Live.LiveMessage.start command).payload).packable = true) :
    HeaderPacks command.header ∧ Packs command := by
  have hnatural (key : String) (n : Nat)
      (hl : (Live.LiveMessage.start command).payload.lookup key = some (natural n)) :
      n < 18446744073709551616 :=
    packable_natural.mp (packable_of_lookup h hl)
  have hattempts : (Object.integer command.reconnectAttempts).packable = true := by
    have hl : (Live.LiveMessage.start command).payload.lookup "reconnect_attempts" =
        some (.integer command.reconnectAttempts) := rfl
    exact packable_of_lookup h hl
  refine ⟨?_, ?_⟩
  · exact {
      protocolVersion := hnatural "protocol_version" _ rfl
      generation := hnatural "generation" _ rfl
      runtimeAttempt := hnatural "runtime_attempt" _ rfl
      sequence := hnatural "sequence" _ rfl }
  · exact {
      gpuId := hnatural "gpu_id" _ rfl
      outputUdpPort := hnatural "output_udp_port" _ rfl
      outputRtspPort := hnatural "output_rtsp_port" _ rfl
      profileVersion := hnatural "profile_version" _ rfl
      sampleEveryN := hnatural "sample_every_n" _ rfl
      trackGapNs := hnatural "track_gap_ns" _ rfl
      latencyMs := hnatural "latency_ms" _ rfl
      reconnectIntervalSeconds := hnatural "reconnect_interval_seconds" _ rfl
      reconnectAttempts := of_decide_eq_true hattempts
      frameTimeoutNs := hnatural "frame_timeout_ns" _ rfl }

/-- A value whose length alone decides whether it fits, or one that fits. -/
def TextOrPackable (value : Object) : Prop :=
  (∃ text, value = .text text) ∨ value.packable = true

theorem TextOrPackable.text (text : String) : TextOrPackable (.text text) := .inl ⟨text, rfl⟩

theorem TextOrPackable.natural {n : Nat} (h : n < 18446744073709551616) :
    TextOrPackable (natural n) :=
  .inr (packable_natural.mpr h)

theorem header_values {header : Live.ProtocolHeader} (h : HeaderPacks header) :
    ∀ entry ∈ header.payload, TextOrPackable entry.2 := by
  have htracestate : TextOrPackable (optional Object.text header.tracestate) := by
    cases header.tracestate with
    | none => exact .inr rfl
    | some value => exact .text value
  simp only [Live.ProtocolHeader.payload, List.forall_mem_cons]
  refine ⟨.natural h.protocolVersion, .text _, .text _, .text _, .text _, .natural h.generation,
    .natural h.runtimeAttempt, .natural h.sequence, .text _, htracestate, ?_⟩
  intro entry hentry
  cases hentry

theorem start_values {command : Live.StartCommand} (h : Packs command) :
    ∀ entry ∈ command.payload, TextOrPackable entry.2 := by
  simp only [Live.StartCommand.payload, List.forall_mem_cons]
  refine ⟨.text _, .natural h.gpuId, .text _, .text _, .text _, .text _, .text _,
    .natural h.outputUdpPort, .natural h.outputRtspPort, .natural h.profileVersion, .text _,
    .natural h.sampleEveryN, .inr rfl, .inr rfl, .inr rfl, .natural h.trackGapNs,
    .natural h.latencyMs, .natural h.reconnectIntervalSeconds,
    .inr (decide_eq_true h.reconnectAttempts), .natural h.frameTimeoutNs, .inr rfl, .inr rfl, ?_⟩
  intro entry hentry
  cases hentry

theorem packable_start {command : Live.StartCommand} (hheader : HeaderPacks command.header)
    (h : Packs command)
    (hsize : (Object.fields (Live.LiveMessage.start command).payload).packedSize ≤
      maxFrameBytes) :
    (Object.fields (Live.LiveMessage.start command).payload).packable = true := by
  have hnames : ∀ name ∈ headerFields ++ startFields, (utf8 name).length < 4294967296 := by
    decide
  have hlength : (Live.LiveMessage.start command).payload.length = 32 := rfl
  refine packable_fields.mpr ⟨by omega, fun entry hentry => ⟨?_, ?_⟩⟩
  · exact hnames _ (List.mem_map_of_mem hentry)
  · have hvalues : TextOrPackable entry.2 := by
      rcases List.mem_append.mp hentry with hm | hm
      · exact header_values hheader entry hm
      · exact start_values h entry hm
    rcases hvalues with ⟨value, hvalue⟩ | hpackable
    · have hle := (packedSize_le_of_mem hentry).trans hsize
      rw [hvalue] at hle ⊢
      exact packable_text_of_size hle
    · exact hpackable

end Mvision.Live.Native
