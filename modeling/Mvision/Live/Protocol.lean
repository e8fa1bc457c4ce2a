import Mathlib.Data.Rat.Defs

/-!
# Messages of the live protocol

The dataclasses of `protocol.py`, which the structs of `live_protocol.hpp`
mirror field by field.  A finite float is the rational number it denotes.
-/

namespace Mvision.Live

inductive MessageType where
  | start
  | identityAssignment
  | stop
  | hello
  | state
  | outputReady
  | trackEvidence
  | trackExpired
  | metrics
  | failed
  | stopped
  | nativeOperation
deriving DecidableEq, Repr

structure ProtocolHeader where
  protocolVersion : Nat
  messageType : MessageType
  sessionId : String
  cameraId : String
  runId : String
  generation : Nat
  runtimeAttempt : Nat
  sequence : Nat
  traceparent : String
  tracestate : Option String
deriving DecidableEq, Repr

/-- The states that `StateEvent` and the native lifecycle know. -/
inductive LiveRuntimeState where
  | starting
  | active
  | reconnecting
  | stopping
  | stopped
  | failed
deriving DecidableEq, Repr

structure StartCommand where
  header : ProtocolHeader
  uri : String
  gpuId : Nat
  pgieConfigPath : String
  preprocessConfigPath : String
  sgieConfigPath : String
  trackerConfigPath : String
  outputMountPath : String
  outputUdpPort : Nat
  outputRtspPort : Nat
  profileVersion : Nat
  analyticsMode : String
  sampleEveryN : Nat
  detectorThreshold : ℚ
  recognitionThreshold : ℚ
  top2Margin : ℚ
  trackGapNs : Nat
  latencyMs : Nat
  reconnectIntervalSeconds : Nat
  reconnectAttempts : Int
  frameTimeoutNs : Nat
  recordingEnabled : Bool
  annotatedEnabled : Bool
deriving DecidableEq, Repr

/-- `Literal["known", "unknown"]`; the struct of the native side is a plain string. -/
inductive AssignedState where
  | known
  | unknown
  | other (text : String)
deriving DecidableEq, Repr

structure IdentityAssignment where
  header : ProtocolHeader
  trackerId : Nat
  assignmentRevision : Nat
  identityEpoch : Nat
  identityState : AssignedState
  displayName : Option String
  faceId : Option String
  matchScore : Option ℚ
  recognitionThreshold : Option ℚ
  referenceEmbedding : Option (List ℚ)
  decisionSequence : Nat
deriving DecidableEq, Repr

structure StopCommand where
  header : ProtocolHeader
  reason : String
  shutdownDeadlineNs : Nat
deriving DecidableEq, Repr

structure HelloEvent where
  header : ProtocolHeader
  buildId : String
  gstreamerVersion : String
  deepstreamVersion : String
deriving DecidableEq, Repr

structure StateEvent where
  header : ProtocolHeader
  state : LiveRuntimeState
  reason : Option String
deriving DecidableEq, Repr

structure OutputReadyEvent where
  header : ProtocolHeader
  mountPath : String
  codec : String
  caps : String
deriving DecidableEq, Repr

structure LiveObservation where
  timestampNs : Nat
  bbox : List ℚ
  detectorConfidence : ℚ
  landmarks : List ℚ
  landmarkConfidences : List ℚ
  qualityScore : ℚ
  rejectMask : Nat
  embedding : List ℚ
deriving DecidableEq, Repr

structure TrackEvidenceEvent where
  header : ProtocolHeader
  trackerId : Nat
  evidenceRevision : Nat
  firstSeenNs : Nat
  lastSeenNs : Nat
  observations : List LiveObservation
  representativeAlignedJpeg : List UInt8
deriving DecidableEq, Repr

structure TrackExpiredEvent where
  header : ProtocolHeader
  trackerId : Nat
  evidenceRevision : Nat
  firstSeenNs : Nat
  lastSeenNs : Nat
  reason : String
deriving DecidableEq, Repr

/-- The dictionaries of a metrics event, by their entries. -/
structure MetricsEvent where
  header : ProtocolHeader
  counters : List (String × Nat)
  gauges : List (String × ℚ)
deriving DecidableEq, Repr

structure FailedEvent where
  header : ProtocolHeader
  errorCode : String
  message : String
deriving DecidableEq, Repr

structure StoppedEvent where
  header : ProtocolHeader
  decodedFrames : Nat
  emittedEvidence : Nat
  droppedEvents : Nat
  cleanShutdown : Bool
  reason : String
deriving DecidableEq, Repr

inductive NativeAttribute where
  | text (value : String)
  | integer (value : Int)
  | number (value : ℚ)
deriving DecidableEq, Repr

structure NativeOperationEvent where
  header : ProtocolHeader
  operation : String
  startedMonotonicNs : Nat
  endedMonotonicNs : Nat
  status : String
  errorCode : Option String
  attributes : List (String × NativeAttribute)
deriving DecidableEq, Repr

inductive LiveMessage where
  | start (command : StartCommand)
  | identityAssignment (command : IdentityAssignment)
  | stop (command : StopCommand)
  | hello (event : HelloEvent)
  | state (event : StateEvent)
  | outputReady (event : OutputReadyEvent)
  | trackEvidence (event : TrackEvidenceEvent)
  | trackExpired (event : TrackExpiredEvent)
  | metrics (event : MetricsEvent)
  | failed (event : FailedEvent)
  | stopped (event : StoppedEvent)
  | nativeOperation (event : NativeOperationEvent)
deriving DecidableEq, Repr

end Mvision.Live
