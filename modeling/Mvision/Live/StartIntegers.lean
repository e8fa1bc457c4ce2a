import Mvision.Live.DecodeContexts
import Mvision.Live.DecoderParity

/-!
# The integers of a start command

`decode_payload` narrows the integers of a start command to the widths of its struct, and `main`
compares the number of the GPU with the one that its process was launched for.  Every narrowed
integer but this one has been compared with the largest of its width.
-/

namespace Mvision.Live.Native

open Mvision.Library Mvision.Live.Wire

/-! ## The command and the wire -/

/-- `decode_live_message`, with a context or without one. -/
def decodeIn (context : Option DecodeContext) (frame : List UInt8) : Except String LiveMessage :=
  match context with
  | none => decodeLiveMessage frame
  | some context => (context.decode frame).1

/-- What the payload of a frame has under a key, and nil without one. -/
def wireField (frame : List UInt8) (key : String) : Object :=
  match framePayload frame with
  | .error _ => .nil
  | .ok input =>
      match unpack input with
      | none => .nil
      | some (value, _) => field (value.asStringMap.getD []) key

/-- The integers of a header, by their keys. -/
def ProtocolHeader.integers (header : ProtocolHeader) : List (String × Int) :=
  [("protocol_version", header.protocolVersion.toNat),
   ("generation", header.generation.toNat),
   ("runtime_attempt", header.runtimeAttempt.toNat),
   ("sequence", header.sequence.toNat)]

/-- The integers of a command that its own fields hold, but for the number of the GPU. -/
def StartCommand.comparedIntegers (command : StartCommand) : List (String × Int) :=
  [("output_udp_port", command.outputUdpPort.toNat),
   ("output_rtsp_port", command.outputRtspPort.toNat),
   ("profile_version", command.profileVersion.toNat),
   ("sample_every_n", command.sampleEveryN.toNat),
   ("track_gap_ns", command.trackGapNs.toNat),
   ("latency_ms", command.latencyMs.toNat),
   ("reconnect_interval_seconds", command.reconnectIntervalSeconds.toNat),
   ("reconnect_attempts", command.reconnectAttempts.toInt),
   ("frame_timeout_ns", command.frameTimeoutNs.toNat)]

/-- Every integer of a command, by its key. -/
def StartCommand.integers (command : StartCommand) : List (String × Int) :=
  command.header.integers ++ ("gpu_id", (command.gpuId.toNat : Int)) :: command.comparedIntegers

/-- Every integer of the command is the one on the wire. -/
def StartCommand.Exact (command : StartCommand) (frame : List UInt8) : Prop :=
  ∀ entry ∈ command.integers, wireField frame entry.1 = .integer entry.2

/-- What `main` does with a start command: it keeps the command and makes a context of it, or
throws. -/
def acceptStart (gpuId : Int32) (start : Option StartCommand) (command : StartCommand) :
    Except String (StartCommand × DecodeContext) := do
  failIf (start.isSome ∨ command.gpuId.toInt32 ≠ gpuId) "INVALID_START"
  return (command, {
    sessionId := command.header.sessionId
    cameraId := command.header.cameraId
    runId := command.header.runId
    generation := command.header.generation
    runtimeAttempt := command.header.runtimeAttempt
    assignmentRevisions := fun _ => none })

/-! ## Narrowing -/

section Narrowing

variable {value : Object} {minimum n : UInt64}

theorem exact16 (hv : value.packable = true) (h : unsignedInteger value minimum = .ok n)
    (hmost : ¬ n > maxUInt16) : value = .integer n.toUInt16.toNat := by
  rw [gt_iff_lt, UInt64.not_lt, UInt64.le_iff_toNat_le,
    show maxUInt16.toNat = 65535 by decide] at hmost
  rw [UInt64.toNat_toUInt16, Nat.mod_eq_of_lt (by omega)]
  exact ((unsignedInteger_ok_iff hv).mp h).1

/-- An integer keeps its value in 32 bits exactly if it is below 2^32. -/
theorem exact32_iff (hv : value.packable = true) (h : unsignedInteger value minimum = .ok n) :
    value = .integer n.toUInt32.toNat ↔ AtMost 4294967295 value := by
  obtain ⟨rfl, -⟩ := (unsignedInteger_ok_iff hv).mp h
  have hnarrow : n.toUInt32.toNat = n.toNat % 4294967296 := UInt64.toNat_toUInt32 n
  rw [Object.integer.injEq, hnarrow]
  constructor
  · intro heq k hk
    obtain rfl := Object.integer.inj hk
    omega
  · intro hmost
    have hle : (n.toNat : Int) ≤ 4294967295 := hmost _ rfl
    omega

theorem exact32 (hv : value.packable = true) (h : unsignedInteger value minimum = .ok n)
    (hmost : ¬ n > maxUInt32) : value = .integer n.toUInt32.toNat :=
  (exact32_iff hv h).mpr ((not_gt_iff hv h).mp hmost)

theorem exactAttempts (hv : value.packable = true) {attempts : Int64}
    (h : signedInteger value = .ok attempts) (hrange : ¬ (attempts < -1 ∨ attempts > maxInt32)) :
    value = .integer attempts.toInt32.toInt := by
  obtain ⟨⟨k, rfl, -⟩, -⟩ := (attempts_succeeds hv).mp ⟨attempts, h, hrange⟩
  obtain ⟨hplace, rfl⟩ := signedInteger_ok_iff.mp h
  have hfits : Object.IntegerFits k := of_decide_eq_true hv
  obtain ⟨hleast, hmost⟩ := (attempts_iff hfits).mp ⟨hplace, hrange⟩
  have hwide : (Int64.ofInt k).toInt = k := by
    have hmin : Int64.minValue.toInt = -9223372036854775808 := by decide
    have hmax : Int64.maxValue.toInt = 9223372036854775807 := by decide
    exact Int64.toInt_ofInt_of_le (by omega) (by omega)
  rw [Object.integer.injEq, Int64.toInt_toInt32, hwide, Int.bmod_eq_of_le (by omega) (by omega)]

end Narrowing

/-! ## The decoder -/

section Decoder

variable {values : ObjectMap} {header : ProtocolHeader} {command : StartCommand}

/-- The integers of a header keep their widths, except for the version, which is 2. -/
theorem decodeHeader_exact (hpack : ∀ key, (field values key).packable = true)
    (h : decodeHeader values = .ok header) :
    ∀ entry ∈ header.integers, field values entry.1 = .integer entry.2 := by
  have hread {name : String} {value : Object} (hr : required values name = .ok value) :
      field values name = value := by
    rw [field, required_ok_iff.mp hr, Option.getD_some]
  unfold decodeHeader at h
  simp only [bind_ok_iff, failIf_ok_iff] at h
  obtain ⟨versionValue, hversionValue, version, hversion, -, htwo, messageType, -, text, -, -, -,
    traceparent, -, parent, -, tracestate, -, state, -, -, -, session, -, sessionId, -, camera, -,
    cameraId, -, run, -, runId, -, generationValue, hgenerationValue, generation, hgeneration,
    attemptValue, hattemptValue, attempt, hattempt, sequenceValue, hsequenceValue, sequence,
    hsequence, hheader⟩ := h
  obtain rfl := Except.ok.inj hheader
  have hnarrow : ¬ version > maxUInt32 := by
    rw [not_not.mp htwo]
    decide
  -- only the version is narrowed; the others are 64 bits wide in the struct as well
  simp only [ProtocolHeader.integers, List.forall_mem_cons]
  refine ⟨?_, ?_, ?_, ?_, List.forall_mem_nil _⟩
  · rw [← hread hversionValue] at hversion
    exact exact32 (hpack _) hversion hnarrow
  · rw [← hread hgenerationValue] at hgeneration
    exact ((unsignedInteger_ok_iff (hpack _)).mp hgeneration).1
  · rw [← hread hattemptValue] at hattempt
    exact ((unsignedInteger_ok_iff (hpack _)).mp hattempt).1
  · rw [← hread hsequenceValue] at hsequence
    exact ((unsignedInteger_ok_iff (hpack _)).mp hsequence).1

/-- The start branch keeps all integers that it compares, and the number of the GPU if that has a
place in 32 bits. -/
theorem decodeStart_exact (hpack : ∀ key, (field values key).packable = true)
    (h : decodeStart header values = .ok command) :
    command.header = header ∧
      (∀ entry ∈ command.comparedIntegers, field values entry.1 = .integer entry.2) ∧
      ∃ gpuId : UInt64, field values "gpu_id" = .integer gpuId.toNat ∧
        command.gpuId = gpuId.toUInt32 := by
  unfold decodeStart validateFields at h
  obtain ⟨u, hvalidated, h⟩ := bind_ok_iff.mp h
  have hnamed := validateExactFields_ok_iff.mp hvalidated
  simp (disch := decide) only [required_of_named hnamed, ok_bind, bind_ok_iff,
    failIf_ok_iff] at h
  obtain ⟨udp, hudp, rtsp, hrtsp, profile, hprofile, sample, hsample, latency, hlatency, interval,
    hinterval, -, hbounds, attempts, hattempts, -, hrange, mode, -, -, -, detector, -,
    recognition, -, margin, -, -, -, recording, -, annotated, -, uri, -, gpuId, hgpuId, pgie, -,
    preprocess, -, sgie, -, tracker, -, mount, -, gap, hgap, timeout, htimeout, hresult⟩ := h
  obtain rfl := Except.ok.inj hresult
  simp only [not_or] at hbounds
  obtain ⟨hudp_most, hrtsp_most, hprofile_most, hsample_most, hlatency_most, hinterval_most⟩ :=
    hbounds
  refine ⟨rfl, ?_, gpuId, ((unsignedInteger_ok_iff (hpack _)).mp hgpuId).1, rfl⟩
  simp only [StartCommand.comparedIntegers, List.forall_mem_cons]
  exact ⟨exact16 (hpack _) hudp hudp_most, exact16 (hpack _) hrtsp hrtsp_most,
    exact32 (hpack _) hprofile hprofile_most, exact32 (hpack _) hsample hsample_most,
    ((unsignedInteger_ok_iff (hpack _)).mp hgap).1, exact32 (hpack _) hlatency hlatency_most,
    exact32 (hpack _) hinterval hinterval_most, exactAttempts (hpack _) hattempts hrange,
    ((unsignedInteger_ok_iff (hpack _)).mp htimeout).1, List.forall_mem_nil _⟩

end Decoder

/-! ## Frames -/

section Frames

variable {frame : List UInt8} {command : StartCommand}

/-- A context only takes messages away. -/
theorem decodeLiveMessage_of_decodeIn {context : Option DecodeContext} {message : LiveMessage}
    (h : decodeIn context frame = .ok message) : decodeLiveMessage frame = .ok message := by
  cases context with
  | none => exact h
  | some context =>
      unfold decodeIn DecodeContext.decode at h
      cases hdecoded : decodeLiveMessage frame with
      | error e =>
          rw [hdecoded] at h
          cases h
      | ok decoded =>
          rw [hdecoded] at h
          dsimp only at h
          split at h
          · cases h
          · rename_i u hchecked
            unfold DecodeContext.accept at h
            split at h
            · dsimp only at h
              split at h
              · cases h
              · exact h
            · exact h

/-- The integers of an accepted start command: the one of the GPU has been cut to 32 bits. -/
theorem start_integers (h : decodeLiveMessage frame = .ok (.start command)) :
    (∀ entry ∈ command.header.integers ++ command.comparedIntegers,
        wireField frame entry.1 = .integer entry.2) ∧
      ∃ gpuId : UInt64, wireField frame "gpu_id" = .integer gpuId.toNat ∧
        command.gpuId = gpuId.toUInt32 := by
  obtain ⟨value, rest, values, hcarries, hvalues, hpayload⟩ := decodeLiveMessage_ok_iff.mp h
  have hpack := packable_field (packable_of_asStringMap (packable_of_carries hcarries) hvalues)
  have hfield (key : String) : wireField frame key = field values key := by
    obtain ⟨input, hinput, hunpack⟩ := hcarries
    have hinput' : framePayload frame = .ok input := hinput
    unfold wireField
    rw [hinput']
    dsimp only
    rw [hunpack]
    dsimp only
    rw [hvalues, Option.getD_some]
  obtain ⟨header, type, hheader, -, -, hbody⟩ := decodePayload_cases hpayload
  have hstart : decodeStart header values = .ok command := by
    cases type with
    | start =>
        obtain ⟨decoded, hdecoded, hsame⟩ := map_ok_iff.mp hbody
        obtain rfl := LiveMessage.start.inj hsame
        exact hdecoded
    | _ =>
        -- the other branches return other messages
        obtain ⟨decoded, -, hsame⟩ := map_ok_iff.mp hbody
        cases hsame
  obtain ⟨rfl, hcompared, gpuId, hgpuId, hnarrowed⟩ := decodeStart_exact hpack hstart
  refine ⟨?_, gpuId, (hfield _).trans hgpuId, hnarrowed⟩
  rw [List.forall_mem_append]
  exact ⟨fun entry hentry => (hfield _).trans (decodeHeader_exact hpack hheader entry hentry),
    fun entry hentry => (hfield _).trans (hcompared entry hentry)⟩

theorem exact_iff (h : decodeLiveMessage frame = .ok (.start command)) :
    command.Exact frame ↔ AtMost 4294967295 (wireField frame "gpu_id") := by
  obtain ⟨hcompared, gpuId, hwire, hnarrowed⟩ := start_integers h
  rw [List.forall_mem_append] at hcompared
  have hpack : (Object.integer gpuId.toNat).packable = true := packable_natural.mpr gpuId.toNat_lt
  have hread : unsignedInteger (.integer gpuId.toNat) 0 = .ok gpuId :=
    (unsignedInteger_ok_iff hpack).mpr ⟨rfl, Nat.zero_le _⟩
  unfold StartCommand.Exact StartCommand.integers
  rw [List.forall_mem_append, List.forall_mem_cons, and_iff_right hcompared.1,
    and_iff_left hcompared.2, hnarrowed, hwire]
  exact exact32_iff hpack hread

theorem acceptStart_ok_iff {gpuId : Int32} {start : Option StartCommand} :
    (∃ accepted, acceptStart gpuId start command = .ok accepted) ↔
      start = none ∧ command.gpuId.toInt32 = gpuId := by
  unfold acceptStart
  rw [exists_bind_ok_iff]
  simp only [failIf_ok_iff, not_or, Bool.not_eq_true, Option.isSome_eq_false_iff,
    Option.isNone_iff_eq_none, ne_eq, not_not]
  constructor
  · rintro ⟨_, haccepts, _⟩
    exact haccepts
  · intro haccepts
    exact ⟨(), haccepts, _, rfl⟩

/-- The number of the GPU has 32 bits on the wire, and is not the one that `main` takes for the
negative number of its process. -/
def GpuFits (gpuId : Int32) (start : Option StartCommand) (frame : List UInt8) : Prop :=
  AtMost 4294967295 (wireField frame "gpu_id") ∧
    (start = none → gpuId.toInt < 0 →
      wireField frame "gpu_id" ≠ .integer (gpuId.toInt + 4294967296))

/-- The struct has the integers on the wire, and `main` accepts the number of its own GPU only,
exactly if the number of the GPU fits. -/
theorem start_exact_iff {gpuId : Int32} {start : Option StartCommand}
    {context : Option DecodeContext} (h : decodeIn context frame = .ok (.start command)) :
    (command.Exact frame ∧ ∀ accepted, acceptStart gpuId start command = .ok accepted →
        wireField frame "gpu_id" = .integer gpuId.toInt) ↔
      GpuFits gpuId start frame := by
  have hdecoded := decodeLiveMessage_of_decodeIn h
  obtain ⟨-, wire, hwire, hnarrowed⟩ := start_integers hdecoded
  -- `static_cast<int>` of what is left of the number on the wire
  have hcast : command.gpuId.toInt32.toInt = (wire.toNat % 4294967296 : Int).bmod 4294967296 := by
    have htoNat : command.gpuId.toNat = wire.toNat % 4294967296 := by
      rw [hnarrowed]
      exact UInt64.toNat_toUInt32 wire
    have htoInt : command.gpuId.toInt32.toInt = (command.gpuId.toNat : Int).bmod 4294967296 :=
      BitVec.toInt_eq_toNat_bmod command.gpuId.toBitVec
    rw [htoInt, htoNat]
    rfl
  have hequal : command.gpuId.toInt32 = gpuId ↔ command.gpuId.toInt32.toInt = gpuId.toInt :=
    Int32.toInt_inj.symm
  rw [exact_iff hdecoded]
  unfold GpuFits
  refine and_congr_right fun hmost => ?_
  have hbound : (wire.toNat : Int) ≤ 4294967295 := by
    rw [hwire] at hmost
    exact hmost _ rfl
  rw [hwire, Object.integer.injEq, ne_eq, Object.integer.injEq]
  rw [Int.emod_eq_of_lt (Int.natCast_nonneg _) (by omega)] at hcast
  constructor
  · rintro honly hnone hnegative hsame
    have hwrapped : (wire.toNat : Int).bmod 4294967296 = gpuId.toInt := by
      have hleast : -2147483648 ≤ gpuId.toInt := gpuId.le_toInt
      have hshift : (gpuId.toInt + 4294967296).bmod 4294967296 = gpuId.toInt.bmod 4294967296 :=
        Int.add_bmod_right _ _
      rw [hsame, hshift]
      exact Int.bmod_eq_of_le (by omega) (by omega)
    -- so `main` accepts a number that is not its own
    obtain ⟨accepted, haccepted⟩ :=
      acceptStart_ok_iff.mpr ⟨hnone, hequal.mpr (hcast.trans hwrapped)⟩
    have := honly accepted haccepted
    omega
  · intro hother accepted haccepted
    obtain ⟨hnone, hsame⟩ := acceptStart_ok_iff.mp ⟨accepted, haccepted⟩
    have hwrapped := hcast.symm.trans (hequal.mp hsame)
    by_cases hsmall : (wire.toNat : Int) < 2147483648
    · rwa [Int.bmod_eq_of_le (by omega) (by omega)] at hwrapped
    · -- the cast of a number with the sign bit set is negative
      have hshift : (wire.toNat : Int).bmod 4294967296 = wire.toNat - 4294967296 := by
        have hsub : ((wire.toNat : Int) - 4294967296).bmod 4294967296 =
            (wire.toNat : Int).bmod 4294967296 := Int.sub_bmod_right _ _
        rw [← hsub]
        exact Int.bmod_eq_of_le (by omega) (by omega)
      rw [hshift] at hwrapped
      exact absurd (by omega) (hother hnone (by omega))

end Frames

/-! ## A number of 33 bits -/

/-- The payload of a start command for a GPU. -/
def startPayload (gpuId : Nat) : Object :=
  .fields
    [("protocol_version", .integer 2),
     ("message_type", .text "start"),
     ("session_id", .text "00000000-0000-4000-8000-000000000001"),
     ("camera_id", .text "00000000-0000-4000-8000-000000000002"),
     ("run_id", .text "00000000-0000-4000-8000-000000000003"),
     ("generation", .integer 1),
     ("runtime_attempt", .integer 1),
     ("sequence", .integer 0),
     ("traceparent", .text "00-0123456789abcdef0123456789abcdef-0123456789abcdef-01"),
     ("tracestate", .nil),
     ("uri", .text "rtsp://camera/live"),
     ("gpu_id", .integer gpuId),
     ("pgie_config_path", .text "pgie.txt"),
     ("preprocess_config_path", .text "preprocess.txt"),
     ("sgie_config_path", .text "sgie.txt"),
     ("tracker_config_path", .text "tracker.yml"),
     ("output_mount_path", .text "/live"),
     ("output_udp_port", .integer 5400),
     ("output_rtsp_port", .integer 8554),
     ("profile_version", .integer 1),
     ("analytics_mode", .text "recognize"),
     ("sample_every_n", .integer 1),
     ("detector_threshold", .integer 1),
     ("recognition_threshold", .integer 1),
     ("top2_margin", .integer 0),
     ("track_gap_ns", .integer 1000000000),
     ("latency_ms", .integer 200),
     ("reconnect_interval_seconds", .integer 5),
     ("reconnect_attempts", .integer (-1)),
     ("frame_timeout_ns", .integer 5000000000),
     ("recording_enabled", .boolean false),
     ("annotated_enabled", .boolean false)]

def startFrame (gpuId : Nat) : List UInt8 := frameOf (startPayload gpuId).pack

/-- What the worker has of such a command. -/
def startCommand (gpuId : UInt32) : StartCommand where
  header := {
    protocolVersion := 2
    messageType := utf8 "start"
    sessionId := utf8 "00000000-0000-4000-8000-000000000001"
    cameraId := utf8 "00000000-0000-4000-8000-000000000002"
    runId := utf8 "00000000-0000-4000-8000-000000000003"
    generation := 1
    runtimeAttempt := 1
    sequence := 0
    traceparent := utf8 "00-0123456789abcdef0123456789abcdef-0123456789abcdef-01"
    tracestate := none }
  uri := utf8 "rtsp://camera/live"
  gpuId := gpuId
  pgieConfigPath := utf8 "pgie.txt"
  preprocessConfigPath := utf8 "preprocess.txt"
  sgieConfigPath := utf8 "sgie.txt"
  trackerConfigPath := utf8 "tracker.yml"
  outputMountPath := utf8 "/live"
  outputUdpPort := 5400
  outputRtspPort := 8554
  profileVersion := 1
  analyticsMode := utf8 "recognize"
  sampleEveryN := 1
  detectorThreshold := .finite 1
  recognitionThreshold := .finite 1
  top2Margin := .finite 0
  trackGapNs := 1000000000
  latencyMs := 200
  reconnectIntervalSeconds := 5
  reconnectAttempts := -1
  frameTimeoutNs := 5000000000
  recordingEnabled := false
  annotatedEnabled := false

/-- What the worker makes of the number 2^32, and what the frame has. -/
theorem startFrame_wide :
    decodeIn none (startFrame 4294967296) = .ok (.start (startCommand 0)) ∧
      numberOf (wireField (startFrame 4294967296) "gpu_id") = some 4294967296 := by
  have hread : (decodeIn none (startFrame 4294967296)).toOption = some (.start (startCommand 0)) ∧
      numberOf (wireField (startFrame 4294967296) "gpu_id") = some 4294967296 := by
    decide +kernel
  exact ⟨ok_of_toOption hread.1, hread.2⟩

theorem start_exact_wide :
    ((startCommand 0).Exact (startFrame 4294967296) ∧
        ∀ accepted, acceptStart 0 none (startCommand 0) = .ok accepted →
          wireField (startFrame 4294967296) "gpu_id" = .integer (0 : Int32).toInt) ↔
      GpuFits 0 none (startFrame 4294967296) :=
  start_exact_iff startFrame_wide.1

/-- The number 2^32 becomes 0, and the process of GPU 0 accepts it. -/
theorem wide_gpu_accepted :
    ¬ ∀ (gpuId : Int32) (start : Option StartCommand) (context : Option DecodeContext)
      (frame : List UInt8) (command : StartCommand),
      decodeIn context frame = .ok (.start command) →
        command.Exact frame ∧ ∀ accepted, acceptStart gpuId start command = .ok accepted →
          wireField frame "gpu_id" = .integer gpuId.toInt := by
  intro h
  have hwire := startFrame_wide.2
  have honly := (h 0 none none _ _ startFrame_wide.1).2
  have hgpu : (startCommand 0).gpuId.toInt32 = 0 := by decide
  have hstart : (none : Option StartCommand) = none := rfl
  obtain ⟨accepted, haccepted⟩ := acceptStart_ok_iff.mpr ⟨hstart, hgpu⟩
  rw [honly accepted haccepted] at hwire
  revert hwire
  decide

end Mvision.Live.Native
