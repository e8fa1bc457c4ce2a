import Mvision.Live.NativeDecoder
import Mvision.Live.ProtocolDecoding

/-!
# One message on both sides

The dataclasses of `protocol.py` and the structs of `live_protocol.hpp` field by field.  A
UUID is in lower case on the Python side, and `float` says how a `float` of a struct stands
to the double of a dataclass.
-/

namespace Mvision.Live

open Mvision.Library

def UuidMirrors (python : String) (native : Native.Text) : Prop :=
  ∃ text, native = utf8 text ∧ python = Protocol.lower text

structure HeaderMirrors (python : ProtocolHeader) (native : Native.ProtocolHeader) : Prop where
  protocolVersion : native.protocolVersion.toNat = python.protocolVersion
  messageType : native.messageType = utf8 python.messageType.text
  sessionId : UuidMirrors python.sessionId native.sessionId
  cameraId : UuidMirrors python.cameraId native.cameraId
  runId : UuidMirrors python.runId native.runId
  generation : native.generation.toNat = python.generation
  runtimeAttempt : native.runtimeAttempt.toNat = python.runtimeAttempt
  sequence : native.sequence.toNat = python.sequence
  traceparent : native.traceparent = utf8 python.traceparent
  tracestate : native.tracestate = python.tracestate.map utf8

structure StartMirrors (python : StartCommand) (native : Native.StartCommand) : Prop where
  header : HeaderMirrors python.header native.header
  uri : native.uri = utf8 python.uri
  gpuId : native.gpuId.toNat = python.gpuId
  pgieConfigPath : native.pgieConfigPath = utf8 python.pgieConfigPath
  preprocessConfigPath : native.preprocessConfigPath = utf8 python.preprocessConfigPath
  sgieConfigPath : native.sgieConfigPath = utf8 python.sgieConfigPath
  trackerConfigPath : native.trackerConfigPath = utf8 python.trackerConfigPath
  outputMountPath : native.outputMountPath = utf8 python.outputMountPath
  outputUdpPort : native.outputUdpPort.toNat = python.outputUdpPort
  outputRtspPort : native.outputRtspPort.toNat = python.outputRtspPort
  profileVersion : native.profileVersion.toNat = python.profileVersion
  analyticsMode : native.analyticsMode = utf8 python.analyticsMode
  sampleEveryN : native.sampleEveryN.toNat = python.sampleEveryN
  detectorThreshold : native.detectorThreshold = .finite python.detectorThreshold
  recognitionThreshold : native.recognitionThreshold = .finite python.recognitionThreshold
  top2Margin : native.top2Margin = .finite python.top2Margin
  trackGapNs : native.trackGapNs.toNat = python.trackGapNs
  latencyMs : native.latencyMs.toNat = python.latencyMs
  reconnectIntervalSeconds :
    native.reconnectIntervalSeconds.toNat = python.reconnectIntervalSeconds
  reconnectAttempts : native.reconnectAttempts.toInt = python.reconnectAttempts
  frameTimeoutNs : native.frameTimeoutNs.toNat = python.frameTimeoutNs
  recordingEnabled : native.recordingEnabled = python.recordingEnabled
  annotatedEnabled : native.annotatedEnabled = python.annotatedEnabled

structure StopMirrors (python : StopCommand) (native : Native.StopCommand) : Prop where
  header : HeaderMirrors python.header native.header
  reason : native.reason = utf8 python.reason
  shutdownDeadlineNs : native.shutdownDeadlineNs.toNat = python.shutdownDeadlineNs

structure HelloMirrors (python : HelloEvent) (native : Native.HelloEvent) : Prop where
  header : HeaderMirrors python.header native.header
  buildId : native.buildId = utf8 python.buildId
  gstreamerVersion : native.gstreamerVersion = utf8 python.gstreamerVersion
  deepstreamVersion : native.deepstreamVersion = utf8 python.deepstreamVersion

structure StateMirrors (python : StateEvent) (native : Native.StateEvent) : Prop where
  header : HeaderMirrors python.header native.header
  state : native.state = utf8 python.state.text
  reason : native.reason = python.reason.map utf8

structure OutputReadyMirrors (python : OutputReadyEvent) (native : Native.OutputReadyEvent) :
    Prop where
  header : HeaderMirrors python.header native.header
  mountPath : native.mountPath = utf8 python.mountPath
  codec : native.codec = utf8 python.codec
  caps : native.caps = utf8 python.caps

structure TrackExpiredMirrors (python : TrackExpiredEvent) (native : Native.TrackExpiredEvent) :
    Prop where
  header : HeaderMirrors python.header native.header
  trackerId : native.trackerId.toNat = python.trackerId
  evidenceRevision : native.evidenceRevision.toNat = python.evidenceRevision
  firstSeenNs : native.firstSeenNs.toNat = python.firstSeenNs
  lastSeenNs : native.lastSeenNs.toNat = python.lastSeenNs
  reason : native.reason = utf8 python.reason

structure MetricsMirrors (python : MetricsEvent) (native : Native.MetricsEvent) : Prop where
  header : HeaderMirrors python.header native.header
  counters : List.Forall₂ (fun counter other => other.1 = utf8 counter.1 ∧
    other.2.toNat = counter.2) python.counters native.counters
  gauges : List.Forall₂ (fun gauge other => other.1 = utf8 gauge.1 ∧ other.2 = .finite gauge.2)
    python.gauges native.gauges

structure FailedMirrors (python : FailedEvent) (native : Native.FailedEvent) : Prop where
  header : HeaderMirrors python.header native.header
  errorCode : native.errorCode = utf8 python.errorCode
  message : native.message = utf8 python.message

structure StoppedMirrors (python : StoppedEvent) (native : Native.StoppedEvent) : Prop where
  header : HeaderMirrors python.header native.header
  decodedFrames : native.decodedFrames.toNat = python.decodedFrames
  emittedEvidence : native.emittedEvidence.toNat = python.emittedEvidence
  droppedEvents : native.droppedEvents.toNat = python.droppedEvents
  cleanShutdown : native.cleanShutdown = python.cleanShutdown
  reason : native.reason = utf8 python.reason

def AttributeMirrors : NativeAttribute → Native.NativeAttribute → Prop
  | .text python, .text native => native = utf8 python
  | .integer python, .integer native => native.toInt = python
  | .number python, .number native => native = .finite python
  | _, _ => False

structure NativeOperationMirrors (python : NativeOperationEvent)
    (native : Native.NativeOperationEvent) : Prop where
  header : HeaderMirrors python.header native.header
  operation : native.operation = utf8 python.operation
  startedMonotonicNs : native.startedMonotonicNs.toNat = python.startedMonotonicNs
  endedMonotonicNs : native.endedMonotonicNs.toNat = python.endedMonotonicNs
  status : native.status = utf8 python.status
  errorCode : native.errorCode = python.errorCode.map utf8
  attributes : List.Forall₂ (fun entry other => other.1 = utf8 entry.1 ∧
    AttributeMirrors entry.2 other.2) python.attributes native.attributes

/-! ## Messages with floats -/

section Floats

variable (float : ℚ → FloatValue → Prop)

structure ObservationMirrors (python : LiveObservation) (native : Native.LiveObservation) :
    Prop where
  timestampNs : native.timestampNs.toNat = python.timestampNs
  bbox : List.Forall₂ float python.bbox native.bbox
  detectorConfidence : float python.detectorConfidence native.detectorConfidence
  landmarks : List.Forall₂ float python.landmarks native.landmarks
  landmarkConfidences : List.Forall₂ float python.landmarkConfidences native.landmarkConfidences
  qualityScore : float python.qualityScore native.qualityScore
  rejectMask : native.rejectMask.toNat = python.rejectMask
  embedding : List.Forall₂ float python.embedding native.embedding

structure TrackEvidenceMirrors (python : TrackEvidenceEvent)
    (native : Native.TrackEvidenceEvent) : Prop where
  header : HeaderMirrors python.header native.header
  trackerId : native.trackerId.toNat = python.trackerId
  evidenceRevision : native.evidenceRevision.toNat = python.evidenceRevision
  firstSeenNs : native.firstSeenNs.toNat = python.firstSeenNs
  lastSeenNs : native.lastSeenNs.toNat = python.lastSeenNs
  observations :
    List.Forall₂ (ObservationMirrors float) python.observations native.observations
  representativeAlignedJpeg :
    native.representativeAlignedJpeg = python.representativeAlignedJpeg

structure IdentityAssignmentMirrors (python : IdentityAssignment)
    (native : Native.IdentityAssignment) : Prop where
  header : HeaderMirrors python.header native.header
  trackerId : native.trackerId.toNat = python.trackerId
  assignmentRevision : native.assignmentRevision.toNat = python.assignmentRevision
  identityEpoch : native.identityEpoch.toNat = python.identityEpoch
  identityState : native.identityState = utf8 python.identityState.text
  displayName : native.displayName = python.displayName.map utf8
  faceId : Option.Rel UuidMirrors python.faceId native.faceId
  matchScore : Option.Rel float python.matchScore native.matchScore
  recognitionThreshold :
    Option.Rel float python.recognitionThreshold native.recognitionThreshold
  referenceEmbedding :
    Option.Rel (List.Forall₂ float) python.referenceEmbedding native.referenceEmbedding
  decisionSequence : native.decisionSequence.toNat = python.decisionSequence

/-- The same type of message, with equal fields. -/
def Mirrors : LiveMessage → Native.LiveMessage → Prop
  | .start python, .start native => StartMirrors python native
  | .identityAssignment python, .identityAssignment native =>
      IdentityAssignmentMirrors float python native
  | .stop python, .stop native => StopMirrors python native
  | .hello python, .hello native => HelloMirrors python native
  | .state python, .state native => StateMirrors python native
  | .outputReady python, .outputReady native => OutputReadyMirrors python native
  | .trackEvidence python, .trackEvidence native => TrackEvidenceMirrors float python native
  | .trackExpired python, .trackExpired native => TrackExpiredMirrors python native
  | .metrics python, .metrics native => MetricsMirrors python native
  | .failed python, .failed native => FailedMirrors python native
  | .stopped python, .stopped native => StoppedMirrors python native
  | .nativeOperation python, .nativeOperation native => NativeOperationMirrors python native
  | _, _ => False

end Floats

end Mvision.Live
