import Mvision.Library.Float

/-!
# Session specifications

The request models of `schemas/live_sessions.py`, whose fields carry what pydantic
checks, and `LiveSessionCompiler.compile`.  A source keeps only its type: its URL and
the camera go other ways.
-/

namespace Mvision.Live

open Mvision.Library

/-- A JSON document; an object keeps the order of its fields. -/
inductive Json where
  | null
  | boolean (value : Bool)
  | integer (value : Int)
  | number (value : FloatValue)
  | string (value : String)
  | array (items : List Json)
  | object (fields : List (String × Json))

/-- `dict.get` -/
def Json.get (fields : List (String × Json)) (name : String) : Json :=
  (fields.lookup name).getD .null

/-- A comparison with a text. -/
def Json.isText : Json → String → Bool
  | .string value, text => value == text
  | _, _ => false

theorem Json.isText_iff {value : Json} {text : String} :
    value.isText text = true ↔ value = .string text := by
  cases value <;> simp [Json.isText]

/-! ## Requests -/

/-- A float with `ge=0, le=1`. -/
abbrev Probability := {q : ℚ // 0 ≤ q ∧ q ≤ 1}

inductive SamplingMode where
  | everyNFrames
  | framesPerSecond
deriving DecidableEq, Repr

def SamplingMode.text : SamplingMode → String
  | .everyNFrames => "everyNFrames"
  | .framesPerSecond => "framesPerSecond"

inductive ProcessingMode where
  | detect
  | detectTrack
  | recognize
deriving DecidableEq, Repr

def ProcessingMode.text : ProcessingMode → String
  | .detect => "detect"
  | .detectTrack => "detectTrack"
  | .recognize => "recognize"

inductive SourceType where
  | rtspPull
  | whepPull
  | whipPush
deriving DecidableEq, Repr

def SourceType.text : SourceType → String
  | .rtspPull => "rtspPull"
  | .whepPull => "whepPull"
  | .whipPush => "whipPush"

/-- `gt=0` for a float, which may be infinite. -/
def positive : FloatValue → Bool
  | .finite q => decide (0 < q)
  | .infinite negative => !negative
  | .nan => false

structure LiveSampling where
  mode : SamplingMode
  value : FloatValue
  value_pos : positive value = true

structure LiveProcessing where
  mode : ProcessingMode
  sampling : LiveSampling
  detectorThreshold : Probability
  recognitionThreshold : Probability
  anonymousThreshold : Probability
  top2Margin : Probability
  minimumIdentityEvidence : Nat
  trackGapMs : Nat
  persistentAnonymous : Bool
  minimumIdentityEvidence_pos : 1 ≤ minimumIdentityEvidence
  trackGapMs_pos : 0 < trackGapMs

structure LiveSourcePolicy where
  latencyMs : Nat
  frameTimeoutMs : Nat
  reconnectIntervalMs : Nat
  reconnectAttempts : Int
  latencyMs_le : latencyMs ≤ 5000
  frameTimeoutMs_pos : 0 < frameTimeoutMs
  frameTimeoutMs_le : frameTimeoutMs ≤ 120000
  reconnectIntervalMs_pos : 0 < reconnectIntervalMs
  reconnectIntervalMs_le : reconnectIntervalMs ≤ 120000
  reconnectAttempts_ge : -1 ≤ reconnectAttempts

/-- The connectors are UUIDs by then. -/
structure LiveJsonOutput where
  connectorRefs : List String
  persistFrames : Bool
  frameRetention : String
  appearanceSummaryEnabled : Bool

structure LiveRecordingOutput where
  enabled : Bool
  segmentDuration : String
  retention : String

structure LiveAnnotatedOutput where
  enabled : Bool
  boundingBoxEnabled : Bool
  lineWidth : Nat
  landmarksEnabled : Bool
  labelFields : List String
  lineWidth_range : 1 ≤ lineWidth ∧ lineWidth ≤ 10

structure LiveSessionReconfigureRequest where
  schemaVersion : Nat
  profile : String
  source : SourceType
  processing : LiveProcessing
  sourcePolicy : LiveSourcePolicy
  jsonOutput : LiveJsonOutput
  recording : LiveRecordingOutput
  annotatedStream : LiveAnnotatedOutput
  schemaVersion_eq : schemaVersion = 1

/-! ## The compiler -/

structure ResolvedProcessingSpec where
  mode : String
  samplingMode : String
  samplingValue : FloatValue
  detectorThreshold : ℚ
  recognitionThreshold : ℚ
  anonymousThreshold : ℚ
  top2Margin : ℚ
  minimumIdentityEvidence : Nat
  trackGapMs : Nat
  persistentAnonymous : Bool
  alignment : String

structure ResolvedSourcePolicy where
  latencyMs : Nat
  frameTimeoutMs : Nat
  reconnectIntervalMs : Nat
  reconnectAttempts : Int

structure ResolvedJsonOutput where
  connectorRefs : List String
  persistFrames : Bool
  frameRetention : String
  appearanceSummaryEnabled : Bool

structure ResolvedRecordingOutput where
  enabled : Bool
  segmentDuration : String
  retention : String

structure ResolvedAnnotatedOutput where
  enabled : Bool
  boundingBoxEnabled : Bool
  boundingBoxLineWidth : Nat
  landmarksEnabled : Bool
  labelFields : List String

structure ResolvedLiveSessionSpec where
  schemaVersion : Nat
  profileId : String
  profileVersion : Nat
  sourceType : String
  processing : ResolvedProcessingSpec
  sourcePolicy : ResolvedSourcePolicy
  json : ResolvedJsonOutput
  recording : ResolvedRecordingOutput
  annotatedStream : ResolvedAnnotatedOutput
  specHash : String

/-! ### `asdict` -/

def ResolvedProcessingSpec.fields (spec : ResolvedProcessingSpec) : List (String × Json) :=
  [("mode", .string spec.mode),
   ("sampling_mode", .string spec.samplingMode),
   ("sampling_value", .number spec.samplingValue),
   ("detector_threshold", .number (.finite spec.detectorThreshold)),
   ("recognition_threshold", .number (.finite spec.recognitionThreshold)),
   ("anonymous_threshold", .number (.finite spec.anonymousThreshold)),
   ("top2_margin", .number (.finite spec.top2Margin)),
   ("minimum_identity_evidence", .integer spec.minimumIdentityEvidence),
   ("track_gap_ms", .integer spec.trackGapMs),
   ("persistent_anonymous", .boolean spec.persistentAnonymous),
   ("alignment", .string spec.alignment)]

def ResolvedProcessingSpec.asdict (spec : ResolvedProcessingSpec) : Json := .object spec.fields

def ResolvedSourcePolicy.fields (spec : ResolvedSourcePolicy) : List (String × Json) :=
  [("latency_ms", .integer spec.latencyMs),
   ("frame_timeout_ms", .integer spec.frameTimeoutMs),
   ("reconnect_interval_ms", .integer spec.reconnectIntervalMs),
   ("reconnect_attempts", .integer spec.reconnectAttempts)]

def ResolvedSourcePolicy.asdict (spec : ResolvedSourcePolicy) : Json := .object spec.fields

def ResolvedJsonOutput.fields (spec : ResolvedJsonOutput) : List (String × Json) :=
  [("connector_refs", .array (spec.connectorRefs.map .string)),
   ("persist_frames", .boolean spec.persistFrames),
   ("frame_retention", .string spec.frameRetention),
   ("appearance_summary_enabled", .boolean spec.appearanceSummaryEnabled)]

def ResolvedJsonOutput.asdict (spec : ResolvedJsonOutput) : Json := .object spec.fields

def ResolvedRecordingOutput.fields (spec : ResolvedRecordingOutput) : List (String × Json) :=
  [("enabled", .boolean spec.enabled),
   ("segment_duration", .string spec.segmentDuration),
   ("retention", .string spec.retention)]

def ResolvedRecordingOutput.asdict (spec : ResolvedRecordingOutput) : Json := .object spec.fields

def ResolvedAnnotatedOutput.fields (spec : ResolvedAnnotatedOutput) : List (String × Json) :=
  [("enabled", .boolean spec.enabled),
   ("bounding_box_enabled", .boolean spec.boundingBoxEnabled),
   ("bounding_box_line_width", .integer spec.boundingBoxLineWidth),
   ("landmarks_enabled", .boolean spec.landmarksEnabled),
   ("label_fields", .array (spec.labelFields.map .string))]

def ResolvedAnnotatedOutput.asdict (spec : ResolvedAnnotatedOutput) : Json := .object spec.fields

def ResolvedLiveSessionSpec.fields (spec : ResolvedLiveSessionSpec) : List (String × Json) :=
  [("schema_version", .integer spec.schemaVersion),
   ("profile_id", .string spec.profileId),
   ("profile_version", .integer spec.profileVersion),
   ("source_type", .string spec.sourceType),
   ("processing", spec.processing.asdict),
   ("source_policy", spec.sourcePolicy.asdict),
   ("json", spec.json.asdict),
   ("recording", spec.recording.asdict),
   ("annotated_stream", spec.annotatedStream.asdict),
   ("spec_hash", .string spec.specHash)]

def ResolvedLiveSessionSpec.asdict (spec : ResolvedLiveSessionSpec) : Json := .object spec.fields

/-- `digest` is the SHA-256 of the canonical text of a document. -/
structure LiveSessionCompiler where
  profileId : String
  profileVersion : Nat
  digest : Json → String

namespace LiveSessionCompiler

/-- The specification that a request asks for, hash included. -/
def resolve (compiler : LiveSessionCompiler) (request : LiveSessionReconfigureRequest) :
    ResolvedLiveSessionSpec :=
  let processing : ResolvedProcessingSpec := {
    mode := request.processing.mode.text
    samplingMode := request.processing.sampling.mode.text
    samplingValue := request.processing.sampling.value
    detectorThreshold := request.processing.detectorThreshold
    recognitionThreshold := request.processing.recognitionThreshold
    anonymousThreshold := request.processing.anonymousThreshold
    top2Margin := request.processing.top2Margin
    minimumIdentityEvidence := request.processing.minimumIdentityEvidence
    trackGapMs := request.processing.trackGapMs
    persistentAnonymous := request.processing.persistentAnonymous
    alignment := "fivePoint" }
  let sourcePolicy : ResolvedSourcePolicy := {
    latencyMs := request.sourcePolicy.latencyMs
    frameTimeoutMs := request.sourcePolicy.frameTimeoutMs
    reconnectIntervalMs := request.sourcePolicy.reconnectIntervalMs
    reconnectAttempts := request.sourcePolicy.reconnectAttempts }
  let jsonOutput : ResolvedJsonOutput := {
    connectorRefs := request.jsonOutput.connectorRefs
    persistFrames := request.jsonOutput.persistFrames
    frameRetention := request.jsonOutput.frameRetention
    appearanceSummaryEnabled := request.jsonOutput.appearanceSummaryEnabled }
  let recording : ResolvedRecordingOutput := {
    enabled := request.recording.enabled
    segmentDuration := request.recording.segmentDuration
    retention := request.recording.retention }
  let annotated : ResolvedAnnotatedOutput := {
    enabled := request.annotatedStream.enabled
    boundingBoxEnabled := request.annotatedStream.boundingBoxEnabled
    boundingBoxLineWidth := request.annotatedStream.lineWidth
    landmarksEnabled := request.annotatedStream.landmarksEnabled
    labelFields := request.annotatedStream.labelFields }
  { schemaVersion := request.schemaVersion
    profileId := request.profile
    profileVersion := compiler.profileVersion
    sourceType := request.source.text
    processing := processing
    sourcePolicy := sourcePolicy
    json := jsonOutput
    recording := recording
    annotatedStream := annotated
    specHash := compiler.digest (.object
      [("schema_version", .integer request.schemaVersion),
       ("profile_id", .string request.profile),
       ("profile_version", .integer compiler.profileVersion),
       ("source_type", .string request.source.text),
       ("processing", processing.asdict),
       ("source_policy", sourcePolicy.asdict),
       ("json", jsonOutput.asdict),
       ("recording", recording.asdict),
       ("annotated_stream", annotated.asdict)]) }

def compile (compiler : LiveSessionCompiler) (request : LiveSessionReconfigureRequest) :
    Except String ResolvedLiveSessionSpec :=
  if request.profile ≠ compiler.profileId then .error "LIVE_PROFILE_NOT_FOUND"
  else if request.jsonOutput.connectorRefs = [] ∧ request.jsonOutput.persistFrames = false then
    .error "LIVE_JSON_SINK_REQUIRED"
  else if request.processing.mode ≠ .recognize ∧ request.processing.persistentAnonymous = true then
    .error "LIVE_SESSION_SPEC_INVALID"
  else .ok (compiler.resolve request)

end LiveSessionCompiler

end Mvision.Live
