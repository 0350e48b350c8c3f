import DataLifecycle.Interaction.Program
import DataLifecycle.Interaction.Pool
import DataLifecycle.Interaction.Calls
import DataLifecycle.Interaction.Machine
import DataLifecycle.Interaction.Observe
import DataLifecycle.Interaction.Trace
import DataLifecycle.Python.Text
import DataLifecycle.Python.Json
import DataLifecycle.Python.Time
import DataLifecycle.Python.IsoFormat
import DataLifecycle.Python.Dict
import DataLifecycle.Python.JsonParser
import DataLifecycle.Python.JsonRoundTrip
import DataLifecycle.Python.JsonText
import DataLifecycle.Python.Sha256
import DataLifecycle.Python.Utf8
import DataLifecycle.Python.JsonOrder
import DataLifecycle.Python.Rounding
import DataLifecycle.Python.Lines
import DataLifecycle.Python.Greatest
import DataLifecycle.Errors
import DataLifecycle.Canonical
import DataLifecycle.CanonicalEncoding
import DataLifecycle.Evidence
import DataLifecycle.Timestamp
import DataLifecycle.Raises
import DataLifecycle.Registry
import DataLifecycle.ContentDigest
import DataLifecycle.Outbox.Model
import DataLifecycle.Outbox.Transactional
import DataLifecycle.Outbox.OrderingKey
import DataLifecycle.Outbox.Redaction
import DataLifecycle.Outbox.Store
import DataLifecycle.Outbox.Steps
import DataLifecycle.Outbox.Batch
import DataLifecycle.Outbox.Lease
import DataLifecycle.Outbox.Exclusive
import DataLifecycle.Outbox.Ordering
import DataLifecycle.Outbox.Checkpoints
import DataLifecycle.Outbox.Claim
import DataLifecycle.Outbox.Digest
import DataLifecycle.Outbox.Lifecycle
import DataLifecycle.Outbox.PoisonBound
import DataLifecycle.Outbox.Work
import DataLifecycle.Outbox.Lag
import DataLifecycle.Outbox.NonInterference
import DataLifecycle.Runner.Model
import DataLifecycle.Runner.Agreement
import DataLifecycle.Runner.RunOnce
import DataLifecycle.Runner.Gate
import DataLifecycle.Runner.BatchIsolation
import DataLifecycle.Runner.VersionedTarget
import DataLifecycle.Runner.Convergence
import DataLifecycle.Runner.RunUntilIdle
import DataLifecycle.Runner.RunUntilStopped
import DataLifecycle.Migration.Model
import DataLifecycle.Migration.Executor
import DataLifecycle.Migration.Phases
import DataLifecycle.Migration.Conformance
import DataLifecycle.Migration.Recorder
import DataLifecycle.Migration.Binding
import DataLifecycle.Migration.Parts
import DataLifecycle.Migration.LockRelease
import DataLifecycle.Migration.ActivationGate
import DataLifecycle.Migration.AtMostOnce
import DataLifecycle.Migration.Log
import DataLifecycle.Migration.FailureReport
import DataLifecycle.Migration.Resume
import DataLifecycle.Migration.Interruption
import DataLifecycle.Portability.Model
import DataLifecycle.Portability.Records
import DataLifecycle.Portability.Coordinator
import DataLifecycle.Portability.Partitions
import DataLifecycle.Portability.Export
import DataLifecycle.Portability.Artifacts
import DataLifecycle.Portability.Chunking
import DataLifecycle.Portability.Import
import DataLifecycle.Portability.VerifyBeforeEffect
import DataLifecycle.Portability.Digest
import DataLifecycle.Portability.Recovery
import DataLifecycle.Portability.RoundTrip
import DataLifecycle.Portability.Verification
import DataLifecycle.Rebuild.Coordinator
import DataLifecycle.Rebuild.TraceSafety
import DataLifecycle.Cache.Model
import DataLifecycle.Cache.Backends
import DataLifecycle.Cache.CompareAndSet
import DataLifecycle.Cache.Keys
import DataLifecycle.Cache.Coordinator
import DataLifecycle.Cache.World
import DataLifecycle.Cache.Eviction
import DataLifecycle.Cache.FlightTable
import DataLifecycle.Cache.Staleness
import DataLifecycle.Cache.Transparency
import DataLifecycle.Cache.HitValue
import DataLifecycle.Cache.SingleFlight
import DataLifecycle.Cache.TimeToLive
