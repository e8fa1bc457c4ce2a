import Mvision.Datetime
import Mvision.Gallery.Deletion
import Mvision.Gallery.Enrollment
import Mvision.Gallery.Matching
import Mvision.Gallery.Recognition
import Mvision.Gallery.Recognized
import Mvision.Gallery.StorageRepair
import Mvision.Gallery.Stores
import Mvision.Images.Alignment
import Mvision.Images.BatchWorker
import Mvision.Images.Detection
import Mvision.Images.FaceObjects
import Mvision.Images.FaceResults
import Mvision.Images.NativeProtocol
import Mvision.Images.Protocol
import Mvision.Images.ProtocolFields
import Mvision.Images.RoundTrip
import Mvision.Images.Suppression
import Mvision.Images.TensorPreparation
import Mvision.Images.WorkerPool
import Mvision.Library.Arithmetic
import Mvision.Library.Batches
import Mvision.Library.ByteStreams
import Mvision.Library.Checks
import Mvision.Library.Decoder
import Mvision.Library.Fencing
import Mvision.Library.Fernet
import Mvision.Library.Filling
import Mvision.Library.FirstFault
import Mvision.Library.Float
import Mvision.Library.FloatArith
import Mvision.Library.FloatBits
import Mvision.Library.FloatBounds
import Mvision.Library.FloatGrid
import Mvision.Library.Joins
import Mvision.Library.Kernels
import Mvision.Library.LeaseLedger
import Mvision.Library.Ledger
import Mvision.Library.Loops
import Mvision.Library.Machine
import Mvision.Library.Mailbox
import Mvision.Library.MessagePack
import Mvision.Library.MessagePackWriter
import Mvision.Library.Norm
import Mvision.Library.Packer
import Mvision.Library.Pages
import Mvision.Library.Partition
import Mvision.Library.PythonFields
import Mvision.Library.PythonMessagePack
import Mvision.Library.PythonNumbers
import Mvision.Library.PythonText
import Mvision.Library.PythonValues
import Mvision.Library.Query
import Mvision.Library.Rises
import Mvision.Library.Saga
import Mvision.Library.Similarity
import Mvision.Library.Sorting
import Mvision.Library.Table
import Mvision.Library.Urls
import Mvision.Library.Utf8
import Mvision.Library.Vectors
import Mvision.Library.Window
import Mvision.Live.AssignmentStream
import Mvision.Live.CameraLeases
import Mvision.Live.Claims
import Mvision.Live.Coalescing
import Mvision.Live.CommandQueue
import Mvision.Live.DecodeContexts
import Mvision.Live.DecoderParity
import Mvision.Live.EventPages
import Mvision.Live.EventService
import Mvision.Live.EventStores
import Mvision.Live.EvidenceBank
import Mvision.Live.EvidenceQueries
import Mvision.Live.GenerationMirror
import Mvision.Live.GraphRebuild
import Mvision.Live.Hysteresis
import Mvision.Live.IdentityService
import Mvision.Live.IdentityWorker
import Mvision.Live.KnownCooldown
import Mvision.Live.Lifecycle
import Mvision.Live.MetricsExport
import Mvision.Live.MirroredReading
import Mvision.Live.Mirroring
import Mvision.Live.NativeDecoder
import Mvision.Live.NativeEncoder
import Mvision.Live.NativeFailure
import Mvision.Live.NativeLanguage
import Mvision.Live.NativeRoundTrip
import Mvision.Live.NativeRun
import Mvision.Live.NativeStart
import Mvision.Live.NativeToPython
import Mvision.Live.OsdLabel
import Mvision.Live.OsdName
import Mvision.Live.OsdState
import Mvision.Live.Outage
import Mvision.Live.PayloadFields
import Mvision.Live.PipelineIdentity
import Mvision.Live.Protocol
import Mvision.Live.ProtocolDecoding
import Mvision.Live.ProtocolEncoding
import Mvision.Live.PythonLanguage
import Mvision.Live.PythonRoundTrip
import Mvision.Live.Reconfiguration
import Mvision.Live.Redaction
import Mvision.Live.RoundTrip
import Mvision.Live.RunRepository
import Mvision.Live.SecretColumns
import Mvision.Live.SessionLeases
import Mvision.Live.SessionRepository
import Mvision.Live.SessionSpec
import Mvision.Live.SessionStart
import Mvision.Live.SessionSupervisor
import Mvision.Live.SnapshotCheck
import Mvision.Live.SnapshotKeeping
import Mvision.Live.StartIntegers
import Mvision.Live.StopRequest
import Mvision.Live.StoppedSessions
import Mvision.Live.TextFormats
import Mvision.Live.TraceContext
import Mvision.Live.TraceScan
import Mvision.Live.TrackExpiry
import Mvision.Live.TrackState
import Mvision.Live.Transitions
import Mvision.Live.WindowOrder
import Mvision.Live.WireFormat
import Mvision.Live.WorkerDelivery
import Mvision.Live.WorkerQueue
import Mvision.Media.Convergence
import Mvision.Media.Isolation
import Mvision.Media.Reconciliation
import Mvision.Media.StalePaths
import Mvision.Protocols.OneWay
import Mvision.Protocols.UntrustedInput
import Mvision.Video.Accumulator
import Mvision.Video.Appearances
import Mvision.Video.Cancellation
import Mvision.Video.Cleaning
import Mvision.Video.Election
import Mvision.Video.EmbeddingRows
import Mvision.Video.EventEncoder
import Mvision.Video.EventFields
import Mvision.Video.EventProtocol
import Mvision.Video.EventRoundTrip
import Mvision.Video.Finalization
import Mvision.Video.Interleaving
import Mvision.Video.Job
import Mvision.Video.Lease
import Mvision.Video.NativeRunner
import Mvision.Video.Probe
import Mvision.Video.ProbeFields
import Mvision.Video.ProcessRecord
import Mvision.Video.Retention
import Mvision.Video.Retry
import Mvision.Video.Source
import Mvision.Video.Stranded
import Mvision.Video.Submission
import Mvision.Video.System
import Mvision.Video.TrackMean
import Mvision.Video.TrackPartition
import Mvision.Video.TrackRetention
import Mvision.Video.Tracking
import Mvision.Video.Upload
import Mvision.Video.Voting
