import Mathlib.Data.List.DropRight
import Mvision.Live.NativeStart
import Mvision.Live.SessionRepository
import Mvision.Live.SessionSpec

/-!
# The start command of a session

`LiveSupervisor._session_start_command`, on the row that a compiled request was stored
in.  The schema and the compiler accept what the supervisor and the worker refuse: the
sampling mode `framesPerSecond`, a sampling value that is no whole number of 32 bits,
and a track gap or a number of attempts that has no place in the command.
-/

namespace Mvision.Live

open Mvision.Library

structure LiveSettings where
  mediamtxInternalRtspOrigin : String
  liveWorkerGpuId : Nat
  livePgieConfigPath : String
  livePreprocessConfigPath : String
  liveSgieConfigPath : String
  liveTrackerConfigPath : String
  liveRtpUdpPort : Nat
  liveRtspOutputPort : Nat

/-- The row with the columns that the repository only passes on. -/
structure StoredGeneration extends LiveSessionGeneration where
  resolvedSpec : Json
  profileVersion : Int
  ingressPath : String

/-- What `secrets` draws for a trace. -/
structure TraceDraw where
  traceId : List UInt8
  spanId : List UInt8
  traceId_length : traceId.length = 16
  spanId_length : spanId.length = 8

/-- `secrets.token_hex` of the bytes that were drawn -/
def tokenHex (bytes : List UInt8) : String :=
  String.ofList (bytes.flatMap fun byte =>
    [Nat.digitChar (byte.toNat / 16), Nat.digitChar (byte.toNat % 16)])

def TraceDraw.traceparent (draw : TraceDraw) : String :=
  "00-" ++ tokenHex draw.traceId ++ "-" ++ tokenHex draw.spanId ++ "-01"

/-! ## Reading the specification -/

def resolvedSpecInvalid : String := "LIVE_RESOLVED_SPEC_INVALID"

def samplingModeUnsupported : String := "LIVE_SAMPLING_MODE_UNSUPPORTED"

def internalMediaPathInvalid : String := "LIVE_INTERNAL_MEDIA_PATH_INVALID"

def objectFields (value : Json) : Except String (List (String × Json)) :=
  match value with
  | .object fields => .ok fields
  | _ => .error resolvedSpecInvalid

/-- `section` -/
def sectionOf (resolved : List (String × Json)) (name : String) :
    Except String (List (String × Json)) :=
  objectFields (Json.get resolved name)

/-- `integer`, for a minimum that is not negative -/
def integer (values : List (String × Json)) (name : String) (minimum : Int) :
    Except String Int :=
  match Json.get values name with
  | .integer n => if n < minimum then .error resolvedSpecInvalid else .ok n
  | _ => .error resolvedSpecInvalid

def unitInterval (q : ℚ) : Except String ℚ :=
  if 0 ≤ q ∧ q ≤ 1 then .ok q else .error resolvedSpecInvalid

/-- `float` of an integer raises beyond the doubles. -/
def probability (values : List (String × Json)) (name : String) : Except String ℚ :=
  match Json.get values name with
  | .integer n =>
      match binary64.round n with
      | .finite q => unitInterval q
      | _ => .error "OverflowError"
  | .number (.finite q) => unitInterval q
  | _ => .error resolvedSpecInvalid

def flag (values : List (String × Json)) (name : String) : Except String Bool :=
  match Json.get values name with
  | .boolean value => .ok value
  | _ => .error resolvedSpecInvalid

/-- A list or a dictionary cannot be looked up in a set. -/
def analyticsMode (processing : List (String × Json)) : Except String String :=
  match Json.get processing "mode" with
  | .string mode =>
      if mode ∈ ["detect", "detectTrack", "recognize"] then .ok mode
      else .error resolvedSpecInvalid
  | .array _ | .object _ => .error "TypeError"
  | _ => .error resolvedSpecInvalid

def samplingMode (processing : List (String × Json)) : Except String Unit :=
  match Json.get processing "sampling_mode" with
  | .string mode => if mode = "everyNFrames" then .ok () else .error samplingModeUnsupported
  | _ => .error samplingModeUnsupported

def sampleEveryN (processing : List (String × Json)) : Except String Nat := do
  samplingMode processing
  match Json.get processing "sampling_value" with
  | .integer n =>
      match binary64.round n with
      | .finite q => if q < 1 then throw samplingModeUnsupported else return n.toNat
      | _ => throw "OverflowError"
  | .number (.finite q) =>
      if q < 1 ∨ q.den ≠ 1 then throw samplingModeUnsupported else return q.num.toNat
  | _ => throw samplingModeUnsupported

/-! ## The address of the stream -/

def rstrip (text : String) : String := String.ofList (text.toList.rdropWhile (· = '/'))

def strip (text : String) : String :=
  String.ofList ((text.toList.dropWhile (· = '/')).rdropWhile (· = '/'))

def startsWith (text start : String) : Bool := start.toList.isPrefixOf text.toList

def control (text : String) : Bool := text.toList.any fun character => character.toNat < 0x20

/-- The checks of an origin without its last slashes. -/
def originValid (origin : String) : Bool :=
  (startsWith origin "rtsp://" || startsWith origin "rtsps://") && !control origin

def ingressPathValid (path : String) : Bool :=
  startsWith path "ingress/" &&
    !(path.toList.splitOn '/').any (fun segment => segment ∈ [[], ['.'], ['.', '.']]) &&
    !control path

def mediaUri (origin ingressPath : String) : Except String String :=
  if originValid (rstrip origin) && ingressPathValid (strip ingressPath) then
    .ok (rstrip origin ++ "/" ++ strip ingressPath)
  else .error internalMediaPathInvalid

/-! ## The command -/

/-- The division of the source is exact for the intervals that the schema accepts. -/
def reconnectIntervalSeconds (reconnectIntervalMs : Nat) : Nat :=
  max 1 ((reconnectIntervalMs + 999) / 1000)

def sessionStartCommand (settings : LiveSettings) (run : LiveSessionRun)
    (generation : StoredGeneration) (draw : TraceDraw) : Except String StartCommand := do
  let resolved ← objectFields generation.resolvedSpec
  let processing ← sectionOf resolved "processing"
  let sourcePolicy ← sectionOf resolved "source_policy"
  let recording ← sectionOf resolved "recording"
  let annotatedStream ← sectionOf resolved "annotated_stream"
  let mode ← analyticsMode processing
  let everyN ← sampleEveryN processing
  let latencyMs ← integer sourcePolicy "latency_ms" 0
  let frameTimeoutMs ← integer sourcePolicy "frame_timeout_ms" 1
  let reconnectIntervalMs ← integer sourcePolicy "reconnect_interval_ms" 1
  let reconnectAttempts ← integer sourcePolicy "reconnect_attempts" (-1)
  let trackGapMs ← integer processing "track_gap_ms" 1
  Native.failIf (generation.profileVersion < 1) resolvedSpecInvalid
  let uri ← mediaUri settings.mediamtxInternalRtspOrigin generation.ingressPath
  let detectorThreshold ← probability processing "detector_threshold"
  let recognitionThreshold ← probability processing "recognition_threshold"
  let top2Margin ← probability processing "top2_margin"
  let recordingEnabled ← flag recording "enabled"
  let annotatedEnabled ← flag annotatedStream "enabled"
  return {
    header := {
      protocolVersion := 2
      messageType := .start
      sessionId := generation.sessionId
      cameraId := generation.sessionId
      runId := run.runId
      generation := generation.generation
      runtimeAttempt := run.runtimeAttempt
      sequence := 1
      traceparent := draw.traceparent
      tracestate := none }
    uri := uri
    gpuId := settings.liveWorkerGpuId
    pgieConfigPath := settings.livePgieConfigPath
    preprocessConfigPath := settings.livePreprocessConfigPath
    sgieConfigPath := settings.liveSgieConfigPath
    trackerConfigPath := settings.liveTrackerConfigPath
    outputMountPath := "/live/" ++ generation.sessionId
    outputUdpPort := settings.liveRtpUdpPort
    outputRtspPort := settings.liveRtspOutputPort
    profileVersion := generation.profileVersion.toNat
    analyticsMode := mode
    sampleEveryN := everyN
    detectorThreshold := detectorThreshold
    recognitionThreshold := recognitionThreshold
    top2Margin := top2Margin
    trackGapNs := trackGapMs.toNat * 1000000
    latencyMs := latencyMs.toNat
    reconnectIntervalSeconds := reconnectIntervalSeconds reconnectIntervalMs.toNat
    reconnectAttempts := reconnectAttempts
    frameTimeoutNs := frameTimeoutMs.toNat * 1000000
    recordingEnabled := recordingEnabled
    annotatedEnabled := annotatedEnabled }

/-! ## A stored request -/

/-- What the rows of a claimed session hold: the compiled request, a generated path, UUIDs, and
numbers that the columns have checked. -/
structure Generated (compiler : LiveSessionCompiler) (request : LiveSessionReconfigureRequest)
    (run : LiveSessionRun) (generation : StoredGeneration) : Prop where
  compiled : compiler.compile request = .ok (compiler.resolve request)
  resolvedSpec : generation.resolvedSpec = (compiler.resolve request).asdict
  profileVersion : generation.profileVersion = compiler.profileVersion
  profileVersion_range : 1 ≤ compiler.profileVersion ∧ compiler.profileVersion < 2147483648
  ingressPath : ∃ id, uuidText lowerHexadecimal (codes id) = true ∧
    generation.ingressPath = "ingress/" ++ id
  sessionId : uuidText lowerHexadecimal (codes generation.sessionId) = true
  runId : uuidText lowerHexadecimal (codes run.runId) = true
  generation_range : 1 ≤ generation.generation ∧ generation.generation < 2147483648
  runtimeAttempt_range : 1 ≤ run.runtimeAttempt ∧ run.runtimeAttempt < 2147483648

/-- Every n-th frame, for a whole number. -/
def LiveSampling.EveryNth (sampling : LiveSampling) (n : Nat) : Prop :=
  sampling.mode = .everyNFrames ∧ 1 ≤ n ∧ sampling.value = .finite n

/-- The command that a request asks for, for its whole sampling value. -/
def requestedCommand (settings : LiveSettings) (request : LiveSessionReconfigureRequest)
    (run : LiveSessionRun) (generation : StoredGeneration) (draw : TraceDraw) (n : Nat) :
    StartCommand where
  header := {
    protocolVersion := 2
    messageType := .start
    sessionId := generation.sessionId
    cameraId := generation.sessionId
    runId := run.runId
    generation := generation.generation
    runtimeAttempt := run.runtimeAttempt
    sequence := 1
    traceparent := draw.traceparent
    tracestate := none }
  uri := rstrip settings.mediamtxInternalRtspOrigin ++ "/" ++ generation.ingressPath
  gpuId := settings.liveWorkerGpuId
  pgieConfigPath := settings.livePgieConfigPath
  preprocessConfigPath := settings.livePreprocessConfigPath
  sgieConfigPath := settings.liveSgieConfigPath
  trackerConfigPath := settings.liveTrackerConfigPath
  outputMountPath := "/live/" ++ generation.sessionId
  outputUdpPort := settings.liveRtpUdpPort
  outputRtspPort := settings.liveRtspOutputPort
  profileVersion := generation.profileVersion.toNat
  analyticsMode := request.processing.mode.text
  sampleEveryN := n
  detectorThreshold := request.processing.detectorThreshold
  recognitionThreshold := request.processing.recognitionThreshold
  top2Margin := request.processing.top2Margin
  trackGapNs := request.processing.trackGapMs * 1000000
  latencyMs := request.sourcePolicy.latencyMs
  reconnectIntervalSeconds := reconnectIntervalSeconds request.sourcePolicy.reconnectIntervalMs
  reconnectAttempts := request.sourcePolicy.reconnectAttempts
  frameTimeoutNs := request.sourcePolicy.frameTimeoutMs * 1000000
  recordingEnabled := request.recording.enabled
  annotatedEnabled := request.annotatedStream.enabled

/-! ### The specification is read back -/

section Reading

variable {values : List (String × Json)} {name : String}

theorem integer_of_get {n minimum : Int} (h : Json.get values name = .integer n)
    (hmin : minimum ≤ n) : integer values name minimum = .ok n := by
  rw [integer, h]
  exact if_neg (not_lt.mpr hmin)

theorem probability_of_get {q : Probability} (h : Json.get values name = .number (.finite q)) :
    probability values name = .ok q := by
  rw [probability, h]
  exact if_pos q.2

theorem flag_of_get {value : Bool} (h : Json.get values name = .boolean value) :
    flag values name = .ok value := by
  rw [flag, h]

theorem analyticsMode_of_get {mode : ProcessingMode}
    (h : Json.get values "mode" = .string mode.text) : analyticsMode values = .ok mode.text := by
  rw [analyticsMode, h]
  cases mode <;> rfl

end Reading

/-- A double is taken for the whole number that it is. -/
theorem whole_ok_iff {q : ℚ} {n : Nat} :
    (if q < 1 ∨ q.den ≠ 1 then throw samplingModeUnsupported else pure q.num.toNat :
      Except String Nat) = .ok n ↔ 1 ≤ n ∧ q = n := by
  split
  · rename_i h
    refine iff_of_false (fun hn => by cases hn) ?_
    rintro ⟨hn, rfl⟩
    rcases h with hsmall | hden
    · exact absurd hsmall (not_lt.mpr (by exact_mod_cast hn))
    · exact hden (Rat.den_natCast n)
  · rename_i h
    rw [not_or, not_lt, not_not] at h
    have hq : (q.num : ℚ) = q := Rat.coe_int_num_of_den_eq_one h.2
    have hnum : 1 ≤ q.num := by
      have hone := h.1
      rw [← hq] at hone
      exact_mod_cast hone
    have htoNat : (q.num.toNat : Int) = q.num := Int.toNat_of_nonneg (by omega)
    constructor
    · intro hn
      obtain rfl : q.num.toNat = n := Except.ok.inj hn
      refine ⟨by omega, ?_⟩
      rw [← hq, ← htoNat]
      rfl
    · rintro ⟨-, hqn⟩
      have hnumn : q.num = n := by
        rw [hqn]
        exact Rat.num_natCast n
      rw [hnumn, Int.toNat_natCast]
      rfl

theorem samplingMode_of_get {values : List (String × Json)} {mode : SamplingMode}
    (h : Json.get values "sampling_mode" = .string mode.text) :
    samplingMode values =
      if mode = .everyNFrames then .ok () else .error samplingModeUnsupported := by
  rw [samplingMode, h]
  cases mode <;> rfl

/-- The sampling is supported exactly if it is every n-th frame. -/
theorem sampleEveryN_ok_iff {values : List (String × Json)} {sampling : LiveSampling}
    (hmode : Json.get values "sampling_mode" = .string sampling.mode.text)
    (hvalue : Json.get values "sampling_value" = .number sampling.value) {n : Nat} :
    sampleEveryN values = .ok n ↔ sampling.EveryNth n := by
  unfold sampleEveryN LiveSampling.EveryNth
  rw [samplingMode_of_get hmode, hvalue]
  by_cases hevery : sampling.mode = .everyNFrames
  · rw [if_pos hevery, ok_bind, and_iff_right hevery]
    cases hv : sampling.value with
    | infinite negative =>
        refine iff_of_false (fun h => ?_) (fun h => ?_)
        · cases h
        · cases h.2
    | nan =>
        refine iff_of_false (fun h => ?_) (fun h => ?_)
        · cases h
        · cases h.2
    | finite q =>
        rw [FloatValue.finite.injEq]
        exact whole_ok_iff
  · rw [if_neg hevery]
    exact iff_of_false (fun h => by cases h) fun h => hevery h.1

/-! ### The generated path -/

section GeneratedPath

variable {id : String}

/-- No character of a UUID is a slash or a control character. -/
theorem uuid_character (h : uuidText lowerHexadecimal (codes id) = true) {c : Char}
    (hc : c ∈ id.toList) : c ≠ '/' ∧ ¬ c.toNat < 0x20 := by
  have hrange := lowerUuid_range h (List.mem_map_of_mem hc)
  refine ⟨?_, by omega⟩
  rintro rfl
  have hslash : Char.toNat '/' = 47 := rfl
  omega

theorem uuid_ne_nil (h : uuidText lowerHexadecimal (codes id) = true) : id.toList ≠ [] := by
  intro hnil
  have hlength := uuidText_length h
  rw [codes, hnil] at hlength
  cases hlength

theorem strip_generated (h : uuidText lowerHexadecimal (codes id) = true) :
    strip ("ingress/" ++ id) = "ingress/" ++ id := by
  have hdrop : ("ingress/" ++ id).toList.dropWhile (· = '/') = ("ingress/" ++ id).toList := by
    rw [String.toList_append]
    exact List.dropWhile_cons_of_neg (by decide)
  have hlast : ("ingress/" ++ id).toList.rdropWhile (· = '/') = ("ingress/" ++ id).toList := by
    rw [List.rdropWhile_eq_self_iff]
    intro hne hslash
    have hc : ("ingress/" ++ id).toList.getLast hne ∈ id.toList := by
      simp only [String.toList_append]
      rw [List.getLast_append_of_ne_nil _ (uuid_ne_nil h)]
      exact List.getLast_mem _
    exact (uuid_character h hc).1 (of_decide_eq_true hslash)
  rw [strip, hdrop, hlast, String.ofList_toList]

theorem ingressPathValid_generated (h : uuidText lowerHexadecimal (codes id) = true) :
    ingressPathValid ("ingress/" ++ id) = true := by
  have hlist : ("ingress/" ++ id).toList = "ingress".toList ++ '/' :: id.toList := by
    rw [String.toList_append]
    rfl
  have hsplit : ("ingress/" ++ id).toList.splitOn '/' = ["ingress".toList, id.toList] := by
    rw [hlist, List.splitOn_append_cons_self_of_not_mem (by decide),
      List.splitOn_eq_singleton fun hm => (uuid_character h hm).1 rfl]
  have hlength : id.toList.length = 36 := by
    rw [← uuidText_length h, codes, List.length_map]
  have hid : id.toList ∉ [[], ['.'], ['.', '.']] := by
    intro hm
    simp only [List.mem_cons, List.not_mem_nil, or_false] at hm
    rcases hm with hm | hm | hm <;> rw [hm] at hlength <;> cases hlength
  have hprintable : ("ingress".toList.all fun c => decide (0x20 ≤ c.toNat)) = true := by decide
  have hcontrol : control ("ingress/" ++ id) = false := by
    rw [control, List.any_eq_false]
    intro c hc
    rw [decide_eq_true_eq]
    rw [hlist, List.mem_append, List.mem_cons] at hc
    rcases hc with hc | rfl | hc
    · exact not_lt.mpr (of_decide_eq_true (List.all_eq_true.mp hprintable c hc))
    · decide
    · exact (uuid_character h hc).2
  have hstart : startsWith ("ingress/" ++ id) "ingress/" = true := by
    rw [startsWith, String.toList_append, List.isPrefixOf_iff_prefix]
    exact List.prefix_append _ _
  rw [ingressPathValid, hstart, hcontrol, hsplit]
  simp only [List.any_cons, List.any_nil, decide_eq_false hid]
  decide

theorem mediaUri_generated {origin : String} (ho : originValid (rstrip origin) = true)
    (h : uuidText lowerHexadecimal (codes id) = true) :
    mediaUri origin ("ingress/" ++ id) =
      .ok (rstrip origin ++ "/" ++ ("ingress/" ++ id)) := by
  rw [mediaUri, strip_generated h, ho, ingressPathValid_generated h]
  rfl

end GeneratedPath

/-! ### The generated trace -/

theorem digitChar_code (n : Fin 16) :
    lowerHexadecimal (Nat.digitChar n).toNat = true ∧
      ((Nat.digitChar n).toNat = '0'.toNat ↔ n = 0) := by
  revert n
  decide

/-- The two digits of a byte. -/
theorem byte_digits (byte : UInt8) :
    (lowerHexadecimal (Nat.digitChar (byte.toNat / 16)).toNat = true ∧
      lowerHexadecimal (Nat.digitChar (byte.toNat % 16)).toNat = true) ∧
    (byte = 0 ↔ (Nat.digitChar (byte.toNat / 16)).toNat = '0'.toNat ∧
      (Nat.digitChar (byte.toNat % 16)).toNat = '0'.toNat) := by
  have hbyte := byte.toNat_lt
  have hhigh := digitChar_code ⟨byte.toNat / 16, by omega⟩
  have hlow := digitChar_code ⟨byte.toNat % 16, by omega⟩
  refine ⟨⟨hhigh.1, hlow.1⟩, ?_⟩
  rw [hhigh.2, hlow.2, Fin.ext_iff, Fin.ext_iff, ← UInt8.toNat_inj]
  show byte.toNat = 0 ↔ byte.toNat / 16 = 0 ∧ byte.toNat % 16 = 0
  omega

theorem codes_tokenHex (bytes : List UInt8) :
    codes (tokenHex bytes) = bytes.flatMap fun byte =>
      [(Nat.digitChar (byte.toNat / 16)).toNat, (Nat.digitChar (byte.toNat % 16)).toNat] := by
  rw [codes, tokenHex, String.toList_ofList, List.map_flatMap]
  rfl

theorem tokenHex_length (bytes : List UInt8) : (codes (tokenHex bytes)).length = 2 * bytes.length := by
  rw [codes_tokenHex]
  induction bytes with
  | nil => rfl
  | cons byte rest ih =>
      rw [List.flatMap_cons, List.length_append, ih, List.length_cons]
      simp only [List.length_cons, List.length_nil]
      omega

theorem tokenHex_all (bytes : List UInt8) : (codes (tokenHex bytes)).all lowerHexadecimal = true := by
  rw [codes_tokenHex, List.all_eq_true]
  intro code hcode
  obtain ⟨byte, -, hm⟩ := List.mem_flatMap.mp hcode
  simp only [List.mem_cons, List.not_mem_nil, or_false] at hm
  rcases hm with rfl | rfl
  · exact (byte_digits byte).1.1
  · exact (byte_digits byte).1.2

/-- The digits are zeros exactly if the bytes are. -/
theorem tokenHex_zeros_iff (bytes : List UInt8) {n : Nat} (h : bytes.length = n) :
    codes (tokenHex bytes) = List.replicate (2 * n) '0'.toNat ↔ bytes = List.replicate n 0 := by
  rw [List.eq_replicate_iff, List.eq_replicate_iff, tokenHex_length, h, and_iff_right rfl,
    and_iff_right rfl, codes_tokenHex]
  simp only [List.mem_flatMap, List.mem_cons, List.not_mem_nil, or_false]
  constructor
  · intro hzeros byte hbyte
    apply (byte_digits byte).2.mpr
    exact ⟨hzeros _ ⟨byte, hbyte, .inl rfl⟩, hzeros _ ⟨byte, hbyte, .inr rfl⟩⟩
  · rintro hzeros code ⟨byte, hbyte, rfl | rfl⟩
    · exact ((byte_digits byte).2.mp (hzeros byte hbyte)).1
    · exact ((byte_digits byte).2.mp (hzeros byte hbyte)).2

/-- Neither identifier of the trace has been drawn as zeros. -/
def TraceDraw.Nonzero (draw : TraceDraw) : Prop :=
  draw.traceId ≠ List.replicate 16 0 ∧ draw.spanId ≠ List.replicate 8 0

theorem codes_append (s t : String) : codes (s ++ t) = codes s ++ codes t := by
  simp [codes]

theorem traceparent_valid_iff (draw : TraceDraw) :
    traceparentValid (byteCodes (utf8 draw.traceparent)) = true ↔ draw.Nonzero := by
  have hcodes : codes draw.traceparent = codes "00-" ++ codes (tokenHex draw.traceId) ++
      codes "-" ++ codes (tokenHex draw.spanId) ++ codes "-" ++ codes "01" := by
    simp only [TraceDraw.traceparent, codes_append]
    rw [List.append_assoc _ (codes "-") (codes "01")]
    rfl
  have hall : (codes (tokenHex draw.traceId) ++ codes (tokenHex draw.spanId) ++
      codes "01").all lowerHexadecimal = true := by
    rw [List.all_append, List.all_append, tokenHex_all, tokenHex_all]
    rfl
  have hgroups := traceparentGroups_append
    (show (codes (tokenHex draw.traceId)).length = 32 by rw [tokenHex_length, draw.traceId_length])
    (show (codes (tokenHex draw.spanId)).length = 16 by rw [tokenHex_length, draw.spanId_length])
    (show (codes "01").length = 2 from rfl) hall
  have hhex (bytes : List UInt8) : ∀ code ∈ codes (tokenHex bytes), code < 128 := by
    intro code hcode
    have hrange := lowerHexadecimal_range (List.all_eq_true.mp (tokenHex_all bytes) code hcode)
    omega
  have hascii : ∀ code ∈ codes draw.traceparent, code < 128 := by
    rw [hcodes]
    simp only [List.forall_mem_append]
    exact ⟨⟨⟨⟨⟨by decide, hhex _⟩, by decide⟩, hhex _⟩, by decide⟩, by decide⟩
  rw [byteCodes_utf8 hascii, hcodes, traceparentValid, hgroups]
  dsimp only
  rw [decide_eq_true_eq, TraceDraw.Nonzero]
  exact and_congr (not_congr (tokenHex_zeros_iff _ draw.traceId_length))
    (not_congr (tokenHex_zeros_iff _ draw.spanId_length))

/-! ### The command of a stored request -/

variable {compiler : LiveSessionCompiler} {request : LiveSessionReconfigureRequest}
  {run : LiveSessionRun} {generation : StoredGeneration} {settings : LiveSettings}
  {draw : TraceDraw}

/-- The specification of `_session_start_command`: a command for every n-th frame, and an
exception for any other sampling. -/
theorem sessionStartCommand_ok_iff (hg : Generated compiler request run generation)
    (ho : originValid (rstrip settings.mediamtxInternalRtspOrigin) = true)
    {command : StartCommand} :
    sessionStartCommand settings run generation draw = .ok command ↔
      ∃ n, request.processing.sampling.EveryNth n ∧
        command = requestedCommand settings request run generation draw n := by
  obtain ⟨id, hid, hpath⟩ := hg.ingressPath
  have huri : mediaUri settings.mediamtxInternalRtspOrigin generation.ingressPath =
      .ok (rstrip settings.mediamtxInternalRtspOrigin ++ "/" ++ generation.ingressPath) := by
    rw [hpath]
    exact mediaUri_generated ho hid
  have hversion : ¬ generation.profileVersion < 1 := by
    have hrange := hg.profileVersion_range.1
    rw [hg.profileVersion]
    omega
  have hprofile : Native.failIf (generation.profileVersion < 1) resolvedSpecInvalid = .ok () :=
    if_neg hversion
  let spec := compiler.resolve request
  have hresolved : objectFields generation.resolvedSpec = .ok spec.fields := by
    rw [hg.resolvedSpec]
    rfl
  have hprocessing : sectionOf spec.fields "processing" = .ok spec.processing.fields := rfl
  have hsource : sectionOf spec.fields "source_policy" = .ok spec.sourcePolicy.fields := rfl
  have hrecording : sectionOf spec.fields "recording" = .ok spec.recording.fields := rfl
  have hannotated : sectionOf spec.fields "annotated_stream" = .ok spec.annotatedStream.fields :=
    rfl
  have hmode : analyticsMode spec.processing.fields = .ok request.processing.mode.text :=
    analyticsMode_of_get rfl
  have hsampling (n : Nat) :
      sampleEveryN spec.processing.fields = .ok n ↔ request.processing.sampling.EveryNth n :=
    sampleEveryN_ok_iff rfl rfl
  have hlatency : integer spec.sourcePolicy.fields "latency_ms" 0 =
      .ok request.sourcePolicy.latencyMs :=
    integer_of_get rfl (Int.natCast_nonneg _)
  have htimeout : integer spec.sourcePolicy.fields "frame_timeout_ms" 1 =
      .ok request.sourcePolicy.frameTimeoutMs :=
    integer_of_get rfl (Int.ofNat_le.mpr request.sourcePolicy.frameTimeoutMs_pos)
  have hinterval : integer spec.sourcePolicy.fields "reconnect_interval_ms" 1 =
      .ok request.sourcePolicy.reconnectIntervalMs :=
    integer_of_get rfl (Int.ofNat_le.mpr request.sourcePolicy.reconnectIntervalMs_pos)
  have hattempts : integer spec.sourcePolicy.fields "reconnect_attempts" (-1) =
      .ok request.sourcePolicy.reconnectAttempts :=
    integer_of_get rfl request.sourcePolicy.reconnectAttempts_ge
  have hgap : integer spec.processing.fields "track_gap_ms" 1 = .ok request.processing.trackGapMs :=
    integer_of_get rfl (Int.ofNat_le.mpr request.processing.trackGapMs_pos)
  have hdetector : probability spec.processing.fields "detector_threshold" =
      .ok request.processing.detectorThreshold :=
    probability_of_get rfl
  have hrecognition : probability spec.processing.fields "recognition_threshold" =
      .ok request.processing.recognitionThreshold :=
    probability_of_get rfl
  have hmargin : probability spec.processing.fields "top2_margin" =
      .ok request.processing.top2Margin :=
    probability_of_get rfl
  have hrecorded : flag spec.recording.fields "enabled" = .ok request.recording.enabled :=
    flag_of_get rfl
  have hannotate : flag spec.annotatedStream.fields "enabled" =
      .ok request.annotatedStream.enabled :=
    flag_of_get rfl
  unfold sessionStartCommand
  rw [hresolved, ok_bind, hprocessing, ok_bind, hsource, ok_bind, hrecording,
    ok_bind, hannotated, ok_bind, hmode, ok_bind, bind_ok_iff]
  simp only [hsampling, hlatency, htimeout, hinterval, hattempts, hgap, hprofile, huri, hdetector,
    hrecognition, hmargin, hrecorded, hannotate, ok_bind]
  constructor
  · rintro ⟨n, hn, hcommand⟩
    exact ⟨n, hn, (Except.ok.inj hcommand).symm⟩
  · rintro ⟨n, hn, rfl⟩
    exact ⟨n, hn, rfl⟩

/-! ## From the request to the worker -/

/-- The worker runs what the request asks for, with the interval rounded up to seconds. -/
structure Honors (accepted : Native.StartCommand) (request : LiveSessionReconfigureRequest) :
    Prop where
  mode : accepted.analyticsMode = utf8 request.processing.mode.text
  sampling : request.processing.sampling.EveryNth accepted.sampleEveryN.toNat
  detectorThreshold : accepted.detectorThreshold = .finite request.processing.detectorThreshold
  recognitionThreshold :
    accepted.recognitionThreshold = .finite request.processing.recognitionThreshold
  top2Margin : accepted.top2Margin = .finite request.processing.top2Margin
  trackGap : accepted.trackGapNs.toNat = request.processing.trackGapMs * 1000000
  latency : accepted.latencyMs.toNat = request.sourcePolicy.latencyMs
  frameTimeout : accepted.frameTimeoutNs.toNat = request.sourcePolicy.frameTimeoutMs * 1000000
  reconnectInterval :
    request.sourcePolicy.reconnectIntervalMs ≤ 1000 * accepted.reconnectIntervalSeconds.toNat ∧
      1000 * accepted.reconnectIntervalSeconds.toNat <
        request.sourcePolicy.reconnectIntervalMs + 1000
  reconnectAttempts : accepted.reconnectAttempts.toInt = request.sourcePolicy.reconnectAttempts

/-- A claim of the session starts the worker on what was requested. -/
def Runnable (settings : LiveSettings) (request : LiveSessionReconfigureRequest)
    (run : LiveSessionRun) (generation : StoredGeneration) (draw : TraceDraw) : Prop :=
  ∃ command frame accepted, sessionStartCommand settings run generation draw = .ok command ∧
    encodeMessage (.start command) = .ok frame ∧
    Native.decodeTree frame = .ok (.start accepted) ∧ Honors accepted request

/-- What no check of the request has asked for: a sampling that is supported, numbers that have
a place in the command, a deployment with ports, and a frame that is not too large. -/
structure Startable (settings : LiveSettings) (request : LiveSessionReconfigureRequest)
    (run : LiveSessionRun) (generation : StoredGeneration) (draw : TraceDraw) (n : Nat) :
    Prop where
  sampling : request.processing.sampling.EveryNth n
  sampling_le : n ≤ 4294967295
  trackGapMs : request.processing.trackGapMs ≤ 18446744073709
  reconnectAttempts : request.sourcePolicy.reconnectAttempts ≤ 2147483647
  gpuId : settings.liveWorkerGpuId < 18446744073709551616
  rtpUdpPort : 1 ≤ settings.liveRtpUdpPort ∧ settings.liveRtpUdpPort ≤ 65535
  rtspOutputPort : 1 ≤ settings.liveRtspOutputPort ∧ settings.liveRtspOutputPort ≤ 65535
  trace : draw.Nonzero
  frame : (Object.fields (LiveMessage.start
    (requestedCommand settings request run generation draw n)).payload).packedSize ≤ maxFrameBytes

theorem canonicalUuid_of_lower {id : String} (h : uuidText lowerHexadecimal (codes id) = true) :
    Native.canonicalUuid (utf8 id) = true := by
  have hascii : ∀ code ∈ codes id, code < 128 := by
    intro code hcode
    have hrange := lowerUuid_range h hcode
    omega
  rw [Native.canonicalUuid, byteCodes_utf8 hascii]
  apply uuidText_mono _ h
  intro code hcode
  rw [hexadecimal, hcode, Bool.true_or]

theorem requestedCommand_headerAccepts_iff (hg : Generated compiler request run generation)
    (n : Nat) : Native.HeaderAccepts
      (requestedCommand settings request run generation draw n).header ↔ draw.Nonzero := by
  have hsession := canonicalUuid_of_lower hg.sessionId
  have hrun := canonicalUuid_of_lower hg.runId
  have htrace : Native.validateTraceContext (utf8 draw.traceparent) none = .ok () ↔
      draw.Nonzero := by
    rw [← traceparent_valid_iff, Native.validateTraceContext]
    split
    · rename_i h
      exact iff_of_false (by simp) h
    · rename_i h
      exact iff_of_true rfl (not_not.mp h)
  constructor
  · intro h
    exact htrace.mp h.trace
  · intro h
    exact ⟨rfl, htrace.mpr h, hsession, hsession, hrun, hg.generation_range.1,
      hg.runtimeAttempt_range.1⟩

/-- The worker's checks of the command, on the request and the deployment. -/
theorem requestedCommand_accepts_iff (hg : Generated compiler request run generation)
    {n : Nat} (hn : 1 ≤ n) :
    Native.Accepts (requestedCommand settings request run generation draw n) ↔
      (1 ≤ settings.liveRtpUdpPort ∧ settings.liveRtpUdpPort ≤ 65535) ∧
        (1 ≤ settings.liveRtspOutputPort ∧ settings.liveRtspOutputPort ≤ 65535) ∧
        n ≤ 4294967295 ∧ request.sourcePolicy.reconnectAttempts ≤ 2147483647 := by
  have hpolicy := request.sourcePolicy.reconnectIntervalMs_le
  have htimeout := request.sourcePolicy.frameTimeoutMs_pos
  have hgap := request.processing.trackGapMs_pos
  have hlatency := request.sourcePolicy.latencyMs_le
  have hversion : generation.profileVersion.toNat = compiler.profileVersion := by
    rw [hg.profileVersion, Int.toNat_natCast]
  have hprofile := hg.profileVersion_range
  constructor
  · intro h
    exact ⟨h.outputUdpPort, h.outputRtspPort, h.sampleEveryN.2, h.reconnectAttempts.2⟩
  · rintro ⟨hudp, hrtsp, hsample, hattempts⟩
    exact {
      outputUdpPort := hudp
      outputRtspPort := hrtsp
      profileVersion := by
        show 1 ≤ generation.profileVersion.toNat ∧ generation.profileVersion.toNat ≤ 4294967295
        omega
      analyticsMode := by
        show request.processing.mode.text = "detect" ∨
          request.processing.mode.text = "detectTrack" ∨
            request.processing.mode.text = "recognize"
        cases request.processing.mode with
        | detect => exact .inl rfl
        | detectTrack => exact .inr (.inl rfl)
        | recognize => exact .inr (.inr rfl)
      sampleEveryN := ⟨hn, hsample⟩
      detectorThreshold := request.processing.detectorThreshold.2
      recognitionThreshold := request.processing.recognitionThreshold.2
      top2Margin := request.processing.top2Margin.2
      trackGapNs := by
        show 1 ≤ request.processing.trackGapMs * 1000000
        omega
      latencyMs := by
        show request.sourcePolicy.latencyMs ≤ 4294967295
        omega
      reconnectIntervalSeconds := by
        show max 1 ((request.sourcePolicy.reconnectIntervalMs + 999) / 1000) ≤ 4294967295
        omega
      reconnectAttempts := ⟨request.sourcePolicy.reconnectAttempts_ge, hattempts⟩
      frameTimeoutNs := by
        show 1 ≤ request.sourcePolicy.frameTimeoutMs * 1000000
        omega }

theorem toNat_toUInt32 {n : Nat} (h : n ≤ 4294967295) : n.toUInt64.toUInt32.toNat = n := by
  have hsmall : n.toUInt64.toNat = n := Nat.mod_eq_of_lt (by omega)
  rw [UInt64.toNat_toUInt32, hsmall]
  exact Nat.mod_eq_of_lt (by omega)

theorem toNat_toUInt64 {n : Nat} (h : n < 18446744073709551616) : n.toUInt64.toNat = n :=
  Nat.mod_eq_of_lt h

theorem toInt_toInt32 {n : Int} (hmin : -1 ≤ n) (hmax : n ≤ 2147483647) :
    (Int64.ofInt n).toInt32.toInt = n := by
  rw [Int64.toInt32_ofInt]
  exact Int32.toInt_ofInt_of_le (by omega) (by omega)

/-- An accepted command loses nothing on its way. -/
theorem honors_requested (header : Native.ProtocolHeader) {n : Nat}
    (hsampling : request.processing.sampling.EveryNth n) (hn : n ≤ 4294967295)
    (hgap : request.processing.trackGapMs ≤ 18446744073709)
    (hattempts : request.sourcePolicy.reconnectAttempts ≤ 2147483647) :
    Honors (Native.received header (requestedCommand settings request run generation draw n))
      request where
  mode := rfl
  sampling := by
    have hvalue : (Native.received header
        (requestedCommand settings request run generation draw n)).sampleEveryN.toNat = n :=
      toNat_toUInt32 hn
    rw [hvalue]
    exact hsampling
  detectorThreshold := rfl
  recognitionThreshold := rfl
  top2Margin := rfl
  trackGap := by
    apply toNat_toUInt64
    show request.processing.trackGapMs * 1000000 < 18446744073709551616
    omega
  latency := by
    have hlatency := request.sourcePolicy.latencyMs_le
    apply toNat_toUInt32
    show request.sourcePolicy.latencyMs ≤ 4294967295
    omega
  frameTimeout := by
    have htimeout := request.sourcePolicy.frameTimeoutMs_le
    apply toNat_toUInt64
    show request.sourcePolicy.frameTimeoutMs * 1000000 < 18446744073709551616
    omega
  reconnectInterval := by
    have hpos := request.sourcePolicy.reconnectIntervalMs_pos
    have hle := request.sourcePolicy.reconnectIntervalMs_le
    have hseconds : (Native.received header
        (requestedCommand settings request run generation draw n)).reconnectIntervalSeconds.toNat =
          reconnectIntervalSeconds request.sourcePolicy.reconnectIntervalMs := by
      apply toNat_toUInt32
      show max 1 ((request.sourcePolicy.reconnectIntervalMs + 999) / 1000) ≤ 4294967295
      omega
    rw [hseconds, reconnectIntervalSeconds]
    omega
  reconnectAttempts := toInt_toInt32 request.sourcePolicy.reconnectAttempts_ge hattempts

/-- The integers of the command fit exactly if the track gap, the sampling, the attempts and
the deployment do. -/
theorem requestedCommand_packs (hg : Generated compiler request run generation)
    {n : Nat} (h : Startable settings request run generation draw n) :
    Native.HeaderPacks (requestedCommand settings request run generation draw n).header ∧
      Native.Packs (requestedCommand settings request run generation draw n) := by
  have hversion : generation.profileVersion.toNat = compiler.profileVersion := by
    rw [hg.profileVersion, Int.toNat_natCast]
  have hprofile := hg.profileVersion_range
  have hgeneration := hg.generation_range
  have hattempt := hg.runtimeAttempt_range
  have hlatency := request.sourcePolicy.latencyMs_le
  have htimeout := request.sourcePolicy.frameTimeoutMs_le
  have hinterval := request.sourcePolicy.reconnectIntervalMs_le
  have hge := request.sourcePolicy.reconnectAttempts_ge
  have hle := h.reconnectAttempts
  refine ⟨?_, ?_⟩
  · constructor
    · show 2 < 18446744073709551616
      decide
    · show generation.generation < 18446744073709551616
      omega
    · show run.runtimeAttempt < 18446744073709551616
      omega
    · show 1 < 18446744073709551616
      decide
  · constructor
    · exact h.gpuId
    · exact lt_of_le_of_lt h.rtpUdpPort.2 (by decide)
    · exact lt_of_le_of_lt h.rtspOutputPort.2 (by decide)
    · show generation.profileVersion.toNat < 18446744073709551616
      omega
    · exact lt_of_le_of_lt h.sampling_le (by decide)
    · show request.processing.trackGapMs * 1000000 < 18446744073709551616
      have := h.trackGapMs
      omega
    · show request.sourcePolicy.latencyMs < 18446744073709551616
      omega
    · show max 1 ((request.sourcePolicy.reconnectIntervalMs + 999) / 1000) < 18446744073709551616
      omega
    · show Object.IntegerFits request.sourcePolicy.reconnectAttempts
      unfold Object.IntegerFits
      omega
    · show request.sourcePolicy.frameTimeoutMs * 1000000 < 18446744073709551616
      omega

/-- A session whose request was accepted is runnable exactly if its sampling is every n-th
frame for an n of 32 bits, its track gap and its attempts have a place in the command, and so
have the numbers of the deployment. -/
theorem accepted_runnable_iff (settings : LiveSettings) (compiler : LiveSessionCompiler)
    (request : LiveSessionReconfigureRequest) (run : LiveSessionRun)
    (generation : StoredGeneration) (draw : TraceDraw)
    (hg : Generated compiler request run generation)
    (ho : originValid (rstrip settings.mediamtxInternalRtspOrigin) = true) :
    Runnable settings request run generation draw ↔
      ∃ n, Startable settings request run generation draw n := by
  constructor
  · rintro ⟨command, frame, accepted, hstart, hencode, hdecode, -⟩
    obtain ⟨n, hsampling, rfl⟩ := (sessionStartCommand_ok_iff hg ho).mp hstart
    obtain ⟨hpackable, hsize, rfl⟩ := encodeMessage_ok_iff.mp hencode
    obtain ⟨hheader, hpacks⟩ := Native.packs_of_packable hpackable
    obtain ⟨hheader', haccepts, -⟩ :=
      (Native.decodeTree_start_ok_iff rfl hheader hpacks).mp hdecode
    obtain ⟨hudp, hrtsp, hn, hattempts⟩ :=
      (requestedCommand_accepts_iff hg hsampling.2.1).mp haccepts
    have hgap : request.processing.trackGapMs * 1000000 < 18446744073709551616 := hpacks.trackGapNs
    exact ⟨n, {
      sampling := hsampling
      sampling_le := hn
      trackGapMs := by omega
      reconnectAttempts := hattempts
      gpuId := hpacks.gpuId
      rtpUdpPort := hudp
      rtspOutputPort := hrtsp
      trace := (requestedCommand_headerAccepts_iff hg n).mp hheader'
      frame := hsize }⟩
  · rintro ⟨n, h⟩
    obtain ⟨hheader, hpacks⟩ := requestedCommand_packs hg h
    have haccepts : Native.Accepts (requestedCommand settings request run generation draw n) :=
      (requestedCommand_accepts_iff hg h.sampling.2.1).mpr
      ⟨h.rtpUdpPort, h.rtspOutputPort, h.sampling_le, h.reconnectAttempts⟩
    refine ⟨_, _, _, (sessionStartCommand_ok_iff hg ho).mpr ⟨n, h.sampling, rfl⟩,
      encodeMessage_ok_iff.mpr ⟨Native.packable_start hheader hpacks h.frame, h.frame, rfl⟩,
      (Native.decodeTree_start_ok_iff rfl hheader hpacks).mpr
        ⟨(requestedCommand_headerAccepts_iff hg n).mpr h.trace, haccepts, rfl⟩, ?_⟩
    exact honors_requested _ h.sampling h.sampling_le h.trackGapMs h.reconnectAttempts

/-! ### The defaults of the schema, and five frames per second -/

def defaultSettings : LiveSettings where
  mediamtxInternalRtspOrigin := "rtsp://mediamtx:8554"
  liveWorkerGpuId := 0
  livePgieConfigPath := "/workspace/configs/video_pgie_yolov8_face.txt"
  livePreprocessConfigPath := "/workspace/configs/video_preprocess_arcface.txt"
  liveSgieConfigPath := "/workspace/configs/video_sgie_arcface_r50.txt"
  liveTrackerConfigPath := "/workspace/configs/video_tracker_nvdcf.yml"
  liveRtpUdpPort := 5400
  liveRtspOutputPort := 8554

def defaultCompiler (hash : String) : LiveSessionCompiler where
  profileId := "face-recognition-v1"
  profileVersion := 1
  digest := fun _ => hash

theorem half_probability : (0 : ℚ) ≤ 1 / 2 ∧ (1 / 2 : ℚ) ≤ 1 := by norm_num

theorem margin_probability : (0 : ℚ) ≤ 1 / 16 ∧ (1 / 16 : ℚ) ≤ 1 := by norm_num

def defaultProcessing (sampling : LiveSampling) : LiveProcessing where
  mode := .recognize
  sampling := sampling
  detectorThreshold := ⟨1 / 2, half_probability⟩
  recognitionThreshold := ⟨1 / 2, half_probability⟩
  anonymousThreshold := ⟨1 / 2, half_probability⟩
  top2Margin := ⟨1 / 16, margin_probability⟩
  minimumIdentityEvidence := 3
  trackGapMs := 1500
  persistentAnonymous := false
  minimumIdentityEvidence_pos := Nat.le_add_left 1 2
  trackGapMs_pos := Nat.zero_lt_succ 1499

theorem defaultPolicy_bounds : 100 ≤ 5000 ∧ 0 < 5000 ∧ 5000 ≤ 120000 ∧ 0 < 2000 ∧
    2000 ≤ 120000 ∧ (-1 : Int) ≤ -1 := by decide

def defaultSourcePolicy : LiveSourcePolicy where
  latencyMs := 100
  frameTimeoutMs := 5000
  reconnectIntervalMs := 2000
  reconnectAttempts := -1
  latencyMs_le := defaultPolicy_bounds.1
  frameTimeoutMs_pos := defaultPolicy_bounds.2.1
  frameTimeoutMs_le := defaultPolicy_bounds.2.2.1
  reconnectIntervalMs_pos := defaultPolicy_bounds.2.2.2.1
  reconnectIntervalMs_le := defaultPolicy_bounds.2.2.2.2.1
  reconnectAttempts_ge := defaultPolicy_bounds.2.2.2.2.2

theorem defaultLineWidth_range : 1 ≤ 3 ∧ 3 ≤ 10 := by decide

/-- A request for a camera whose frames are stored. -/
def defaultRequest (sampling : LiveSampling) : LiveSessionReconfigureRequest where
  schemaVersion := 1
  profile := "face-recognition-v1"
  source := .rtspPull
  processing := defaultProcessing sampling
  sourcePolicy := defaultSourcePolicy
  jsonOutput := {
    connectorRefs := []
    persistFrames := true
    frameRetention := "24h"
    appearanceSummaryEnabled := false }
  recording := {
    enabled := false
    segmentDuration := "15m"
    retention := "7d" }
  annotatedStream := {
    enabled := false
    boundingBoxEnabled := true
    lineWidth := 3
    landmarksEnabled := false
    labelFields := ["name", "status", "recognitionConfidence"]
    lineWidth_range := defaultLineWidth_range }
  schemaVersion_eq := rfl

theorem positive_one : positive (.finite 1) = true := by decide

theorem positive_five : positive (.finite 5) = true := by decide

/-- Every frame. -/
def everyFrame : LiveSampling := ⟨.everyNFrames, .finite 1, positive_one⟩

/-- Five frames a second, a mode that the capabilities name. -/
def fivePerSecond : LiveSampling := ⟨.framesPerSecond, .finite 5, positive_five⟩

def firstRun : LiveSessionRun where
  runId := "c2b4f6de-30b8-4a56-9a2a-5b6cf1f0a1f7"
  generationId := "7d7f63e4-6f0d-4c27-8d53-0a2b8f1c9e35"
  runtimeAttempt := 1
  runtimeState := .starting
  workerId := some "live-worker-0"
  leaseToken := some "1b0f7a52-98b5-4d8c-8c3e-6f1f2ad5f8a4"
  leaseExpiresAt := some 30000000
  startedAt := 0
  stoppedAt := none
  errorCode := none

/-- The row that a request is stored in. -/
def firstGeneration (compiler : LiveSessionCompiler) (request : LiveSessionReconfigureRequest) :
    StoredGeneration where
  generationId := "7d7f63e4-6f0d-4c27-8d53-0a2b8f1c9e35"
  sessionId := "0e9cf1fb-52d4-4f5a-b7a1-3d8a4c1b2e60"
  generation := 1
  desiredState := .running
  runtimeState := .starting
  mediaState := .ready
  createdAt := 0
  startedAt := none
  stoppedAt := none
  errorCode := none
  resolvedSpec := (compiler.resolve request).asdict
  profileVersion := compiler.profileVersion
  ingressPath := "ingress/" ++ "5c1f0a1e-8d0b-4f5e-9c59-3f2f0f4c7a11"

theorem firstTrace_lengths : (List.replicate 16 (17 : UInt8)).length = 16 ∧
    (List.replicate 8 (34 : UInt8)).length = 8 := by decide

def firstTrace : TraceDraw where
  traceId := List.replicate 16 17
  spanId := List.replicate 8 34
  traceId_length := firstTrace_lengths.1
  spanId_length := firstTrace_lengths.2

/-- The stored rows are as a claim finds them, whatever the sampling. -/
theorem first_generated (hash : String) (sampling : LiveSampling) :
    Generated (defaultCompiler hash) (defaultRequest sampling) firstRun
      (firstGeneration (defaultCompiler hash) (defaultRequest sampling)) where
  compiled := rfl
  resolvedSpec := rfl
  profileVersion := rfl
  profileVersion_range := by
    show 1 ≤ 1 ∧ 1 < 2147483648
    decide
  ingressPath := ⟨"5c1f0a1e-8d0b-4f5e-9c59-3f2f0f4c7a11", by decide +kernel, rfl⟩
  sessionId := by
    show uuidText lowerHexadecimal (codes "0e9cf1fb-52d4-4f5a-b7a1-3d8a4c1b2e60") = true
    decide +kernel
  runId := by decide +kernel
  generation_range := by
    show 1 ≤ 1 ∧ 1 < 2147483648
    decide
  runtimeAttempt_range := by
    show 1 ≤ 1 ∧ 1 < 2147483648
    decide

theorem defaultOrigin_valid :
    originValid (rstrip defaultSettings.mediamtxInternalRtspOrigin) = true := by
  decide

def everyFrameHash : String := "0cd94ba77b2db006b6a66cd787a6ea25ee0605c98e8f7609226e6583cc5a376c"

def fivePerSecondHash : String :=
  "6ba88889ce8035961f13870257b995926a153be9a26c2e74d3c556dfa994cd73"

/-- A request for every frame starts. -/
theorem every_frame_runnable :
    Runnable defaultSettings (defaultRequest everyFrame) firstRun
      (firstGeneration (defaultCompiler everyFrameHash) (defaultRequest everyFrame)) firstTrace :=
  (accepted_runnable_iff defaultSettings (defaultCompiler everyFrameHash)
    (defaultRequest everyFrame) firstRun
    (firstGeneration (defaultCompiler everyFrameHash) (defaultRequest everyFrame)) firstTrace
    (first_generated _ _) defaultOrigin_valid).mpr
    ⟨1, {
      sampling := ⟨rfl, le_rfl, rfl⟩
      sampling_le := by decide
      trackGapMs := by
        show 1500 ≤ 18446744073709
        decide
      reconnectAttempts := by
        show (-1 : Int) ≤ 2147483647
        decide
      gpuId := by decide
      rtpUdpPort := by decide
      rtspOutputPort := by decide
      trace := by
        unfold TraceDraw.Nonzero
        decide
      frame := by decide +kernel }⟩

/-- An accepted request for five frames a second never starts. -/
theorem five_per_second_not_runnable :
    Generated (defaultCompiler fivePerSecondHash) (defaultRequest fivePerSecond) firstRun
        (firstGeneration (defaultCompiler fivePerSecondHash) (defaultRequest fivePerSecond)) ∧
      originValid (rstrip defaultSettings.mediamtxInternalRtspOrigin) = true ∧
      ¬ Runnable defaultSettings (defaultRequest fivePerSecond) firstRun
        (firstGeneration (defaultCompiler fivePerSecondHash) (defaultRequest fivePerSecond))
        firstTrace := by
  refine ⟨first_generated _ _, defaultOrigin_valid, ?_⟩
  rintro ⟨command, frame, accepted, hstart, -⟩
  obtain ⟨n, hsampling, -⟩ :=
    (sessionStartCommand_ok_iff (first_generated _ _) defaultOrigin_valid).mp hstart
  cases hsampling.1

end Mvision.Live
