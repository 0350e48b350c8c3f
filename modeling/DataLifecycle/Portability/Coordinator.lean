import DataLifecycle.Interaction.Program
import DataLifecycle.Portability.Records

/-!
# The portability coordinators

`LogicalExportCoordinator.export` and `LogicalImportCoordinator.import_export` as
scripts over their hooks.  A hook that returns an iterable answers with the items
it will yield and the exception, if any, that ends it.
-/

namespace DataLifecycle.Portability

open Python Interaction

variable {F : Type} [FloatText F]

/-- `minimum or logical_id`. -/
def orText : Option Str → Str → Str
  | none, text => text
  | some known, text => if known = [] then text else known

/-- Whether an identity does not sort after the previous one. -/
def NotAfter (logicalId : Str) (previous : Option Str) : Prop :=
  ∃ earlier ∈ previous, logicalId ≤ earlier

instance (logicalId : Str) (previous : Option Str) : Decidable (NotAfter logicalId previous) :=
  inferInstanceAs (Decidable (∃ earlier ∈ previous, logicalId ≤ earlier))

/-! ## Export -/

/-- The calls that an export makes. -/
inductive ExportHook (F : Type)
  | cancelled
  | clock
  | begin (request : ExportRequest)
  | metadata (request : ExportRequest) (boundary : ExportBoundary)
  | partitionIds (request : ExportRequest) (boundary : ExportBoundary)
  | records (request : ExportRequest) (boundary : ExportBoundary) (partitionId : Str)
  | finish (request : ExportRequest) (boundary : ExportBoundary)
  | beginPartition (partitionId : Str)
  | write (handle : Nat) (chunk : Bytes)
  | finishPartition (handle : Nat) (partitionId : Str)
  | record (evidence : LifecycleEvidence F)

/-- The value that a call returns. -/
abbrev ExportHook.Answer : ExportHook F → Type
  | .cancelled => Bool
  | .clock => DateTime
  | .begin _ => ExportBoundary
  | .metadata _ _ => ExportMetadata F
  | .partitionIds _ _ => List Str
  | .records _ _ _ => Stream (List (LogicalRecord F))
  | .finish _ _ => ExportBoundary
  | .beginPartition _ => Nat
  | .write _ _ => Unit
  | .finishPartition _ _ => Str
  | .record _ => Unit

/-- A call returns a value or raises. -/
abbrev ExportHook.Response (hook : ExportHook F) : Type := Except Exc hook.Answer

/-- A part of an export. -/
abbrev Exporting (F : Type) [FloatText F] (α : Type) :=
  Script (ExportHook F) ExportHook.Response Exc Unit α

namespace Exporting

/-- Make one call. -/
def request (hook : ExportHook F) : Exporting F hook.Answer := Script.invoke hook id

/-- `token.raise_if_cancelled()`. -/
def raiseIfCancelled : Exporting F Unit := do
  let isCancelled ← request .cancelled
  Script.refuse (isCancelled = true) .operationCancelled

/-- The running values of one partition; `content` is what the digest has seen. -/
structure Progress where
  content : Bytes := []
  count : Nat := 0
  byteCount : Nat := 0
  minimum : Option Str := none
  maximum : Option Str := none
  previous : Option Str := none

/-- The body of the loop over the records of a batch. -/
def exportRecord (handle : Nat) (progress : Progress) (record : LogicalRecord F) :
    Exporting F Progress := do
  Script.refuse (NotAfter record.logicalId progress.previous)
    (.valueError "logical export records must be strictly ordered by id")
  let line ← Script.lift record.line
  request (.write handle (line ++ [10]))
  pure {
    content := progress.content ++ (line ++ [10])
    count := progress.count + 1
    byteCount := progress.byteCount + (line ++ [10]).length
    minimum := some (orText progress.minimum record.logicalId)
    maximum := some record.logicalId
    previous := some record.logicalId }

def exportRecords (handle : Nat) (progress : Progress) :
    List (LogicalRecord F) → Exporting F Progress
  | [] => pure progress
  | record :: rest => do
      let progress ← exportRecord handle progress record
      exportRecords handle progress rest

/-- The loop over the batches of a partition. -/
def exportBatches (request : ExportRequest) (handle : Nat) (progress : Progress) :
    List (List (LogicalRecord F)) → Exporting F Progress
  | [] => pure progress
  | batch :: rest => do
      Script.refuse (request.batchSize < batch.length)
        (.valueError "export source exceeded the requested batch size")
      raiseIfCancelled
      let progress ← exportRecords handle progress batch
      exportBatches request handle progress rest

/-- Raise the exception that ends an iterable. -/
def raiseFailure : Option Exc → Exporting F Unit
  | none => pure ()
  | some error => Script.raise error

/-- The body of the loop over the partitions. -/
def exportPartition (exportRequest : ExportRequest) (boundary : ExportBoundary)
    (partitionId : Str) : Exporting F PartitionManifest := do
  raiseIfCancelled
  let handle ← request (.beginPartition partitionId)
  let batches ← request (.records exportRequest boundary partitionId)
  let progress ← exportBatches exportRequest handle {} batches.items
  raiseFailure batches.failure
  let artifactRef ← request (.finishPartition handle partitionId)
  Script.lift (PartitionManifest.make partitionId artifactRef progress.count progress.byteCount
    progress.minimum progress.maximum (prefixedDigest progress.content))

def exportPartitions (exportRequest : ExportRequest) (boundary : ExportBoundary) :
    List Str → Exporting F (List PartitionManifest)
  | [] => pure []
  | partitionId :: rest => do
      let manifest ← exportPartition exportRequest boundary partitionId
      let manifests ← exportPartitions exportRequest boundary rest
      pure (manifest :: manifests)

/-- `LogicalExportCoordinator.export`. -/
def exportAll (exportRequest : ExportRequest) (exportId : Str) :
    Exporting F (LogicalExportV1 F) := do
  let boundary ← request (.begin exportRequest)
  let metadata ← request (.metadata exportRequest boundary)
  let partitionIds ← request (.partitionIds exportRequest boundary)
  Script.refuse (¬ partitionIds.Nodup)
    (.valueError "export source returned duplicate partition ids")
  let manifests ← exportPartitions exportRequest boundary partitionIds
  let finalBoundary ← request (.finish exportRequest boundary)
  Script.refuse (finalBoundary.boundaryId ≠ boundary.boundaryId)
    (.valueError "export source changed the boundary identity during export")
  Script.refuse (finalBoundary.startWatermark ≠ boundary.startWatermark)
    (.valueError "export source changed the start watermark during export")
  let createdAt ← request .clock
  let manifest ← Script.lift
    (LogicalExportV1.make metadata finalBoundary manifests exportId createdAt)
  let now ← request .clock
  let evidence ← Script.lift (LifecycleEvidence.make (str "logical-export") manifest.exportId
    (str "COMPLETED") [
      (str "exportDigest", .str manifest.digest),
      (str "partitionCount", .int manifest.partitions.length),
      (str "consistency", .str manifest.boundary.consistency.value)] now)
  request (.record evidence)
  pure manifest

end Exporting

/-! ## Artifacts -/

/-- `InMemoryLogicalArtifacts`. -/
structure InMemoryLogicalArtifacts where
  pending : Dict Nat Bytes
  artifacts : Dict Str Bytes
  nextHandle : Nat

namespace InMemoryLogicalArtifacts

/-- A new sink. -/
def empty : InMemoryLogicalArtifacts := ⟨.empty, .empty, 0⟩

/-- `KeyError`. -/
def keyError : Exc :=
  ⟨.foreign (str "KeyError") (str "builtins.KeyError") true, ⟨"unknown key", []⟩, none, false⟩

/-- `begin_partition`. -/
def beginPartition (sink : InMemoryLogicalArtifacts) : Except Exc Nat × InMemoryLogicalArtifacts :=
  (.ok (sink.nextHandle + 1), { sink with
    pending := sink.pending.set (sink.nextHandle + 1) []
    nextHandle := sink.nextHandle + 1 })

/-- `write`. -/
def write (sink : InMemoryLogicalArtifacts) (handle : Nat) (chunk : Bytes) :
    Except Exc Unit × InMemoryLogicalArtifacts :=
  match sink.pending.get? handle with
  | some content => (.ok (), { sink with pending := sink.pending.set handle (content ++ chunk) })
  | none => (.error keyError, sink)

/-- The reference of a finished artifact. -/
def reference (partitionId : Str) (content : Bytes) : Str :=
  str "logical://" ++ partitionId ++ str "/" ++ sha256Hex content

/-- `finish_partition`. -/
def finishPartition (sink : InMemoryLogicalArtifacts) (handle : Nat) (partitionId : Str) :
    Except Exc Str × InMemoryLogicalArtifacts :=
  match sink.pending.get? handle with
  | some content =>
      (.ok (reference partitionId content), { sink with
        pending := sink.pending.erase handle
        artifacts := sink.artifacts.set (reference partitionId content) content })
  | none => (.error keyError, sink)

end InMemoryLogicalArtifacts

/-! ## Import -/

/-- The calls that an import makes. -/
inductive ImportHook (F : Type) [FloatText F]
  | cancelled
  | clock
  | chunks (artifactRef : Str)
  | preflight (metadata : ExportMetadata F) (policy : MergePolicy)
  | transfer (reference : List (Str × Json F))
  | write (records : List (LogicalRecord F)) (policy : MergePolicy)
  | finalize (manifest : LogicalExportV1 F)
  | record (evidence : LifecycleEvidence F)

/-- The value that a call returns. -/
abbrev ImportHook.Answer : ImportHook F → Type
  | .cancelled => Bool
  | .clock => DateTime
  | .chunks _ => Stream Bytes
  | .preflight _ _ => Unit
  | .transfer _ => Str
  | .write _ _ => Unit
  | .finalize _ => Str
  | .record _ => Unit

/-- A call returns a value or raises. -/
abbrev ImportHook.Response (hook : ImportHook F) : Type := Except Exc hook.Answer

/-- A part of an import. -/
abbrev Importing (F : Type) [FloatText F] (α : Type) :=
  Script (ImportHook F) ImportHook.Response Exc Unit α

/-- The settings of a `LogicalImportCoordinator`: `transfers` tells whether an
object transfer hook is configured. -/
structure Importer where
  maximumRecordBytes : Nat
  transfers : Bool
  bound : 1024 ≤ maximumRecordBytes

/-- The arguments of `import_export` besides the manifest. -/
structure ImportOptions where
  policy : MergePolicy := .requireEmpty
  batchSize : Nat := 500

namespace Importing

/-- Make one call. -/
def request (hook : ImportHook F) : Importing F hook.Answer := Script.invoke hook id

/-- `token.raise_if_cancelled()`. -/
def raiseIfCancelled : Importing F Unit := do
  let isCancelled ← request .cancelled
  Script.refuse (isCancelled = true) .operationCancelled

/-- The running values of one partition; `content` is what the digest has seen. -/
structure Reading (F : Type) where
  content : Bytes := []
  byteCount : Nat := 0
  count : Nat := 0
  minimum : Option Str := none
  maximum : Option Str := none
  previous : Option Str := none
  buffer : Bytes := []
  batch : List (LogicalRecord F) := []

/-- The loop over the object references of a record. -/
def transferAll : List (List (Str × Json F)) → Importing F Unit
  | [] => pure ()
  | reference :: rest => do
      let transferred ← request (.transfer reference)
      Script.refuse (isSha256 transferred = false)
        (.integrityError "object transfer hook returned an invalid digest")
      transferAll rest

/-- Transfer what a record refers to, when a hook is configured and records are
written. -/
def transferReferences (importer : Importer) (write : Bool) (record : LogicalRecord F) :
    Importing F Unit :=
  if write && importer.transfers then transferAll record.objectReferences else pure ()

/-- The running values after one more record. -/
def Reading.take (reading : Reading F) (write : Bool) (record : LogicalRecord F) : Reading F :=
  { reading with
    previous := some record.logicalId
    minimum := some (orText reading.minimum record.logicalId)
    maximum := some record.logicalId
    count := reading.count + 1
    batch := if write then reading.batch ++ [record] else reading.batch }

/-- Hand a full batch to the target. -/
def flushFull (options : ImportOptions) (write : Bool) (reading : Reading F) :
    Importing F (Reading F) :=
  if write && reading.batch.length == options.batchSize then do
    request (.write reading.batch options.policy)
    pure { reading with batch := [] }
  else pure reading

/-- `consume`. -/
def consume (importer : Importer) (options : ImportOptions) (write : Bool) (reading : Reading F)
    (line : Bytes) : Importing F (Reading F) := do
  let record ← Script.lift (LogicalRecord.decodeLine importer.maximumRecordBytes line)
  Script.refuse (NotAfter record.logicalId reading.previous)
    (.integrityError "logical partition records are not strictly ordered")
  transferReferences importer write record
  flushFull options write (reading.take write record)

/-- A line that a chunk has completed; an empty one is skipped. -/
def consumeLine (importer : Importer) (options : ImportOptions) (write : Bool)
    (reading : Reading F) (line : Bytes) : Importing F (Reading F) :=
  if line.isEmpty then pure reading else consume importer options write reading line

/-- The loop over the lines that a chunk has completed. -/
def consumeLines (importer : Importer) (options : ImportOptions) (write : Bool)
    (reading : Reading F) : List Bytes → Importing F (Reading F)
  | [] => pure reading
  | line :: rest => do
      let reading ← consumeLine importer options write reading line
      consumeLines importer options write reading rest

/-- The body of the loop over the chunks. -/
def readChunk (importer : Importer) (options : ImportOptions) (write : Bool) (reading : Reading F)
    (chunk : Bytes) : Importing F (Reading F) := do
  raiseIfCancelled
  let scanned := scanLines [] (reading.buffer ++ chunk)
  let reading ← consumeLines importer options write { reading with
    content := reading.content ++ chunk
    byteCount := reading.byteCount + chunk.length
    buffer := scanned.2 } scanned.1
  Script.refuse (importer.maximumRecordBytes < scanned.2.length)
    (.integrityError "logical partition contains an oversized unterminated Record")
  pure reading

def readChunks (importer : Importer) (options : ImportOptions) (write : Bool)
    (reading : Reading F) : List Bytes → Importing F (Reading F)
  | [] => pure reading
  | chunk :: rest => do
      let reading ← readChunk importer options write reading chunk
      readChunks importer options write reading rest

/-- Raise the exception that ends an iterable. -/
def raiseFailure : Option Exc → Importing F Unit
  | none => pure ()
  | some error => Script.raise error

/-- Hand the rest of a partition to the target. -/
def flushRest (options : ImportOptions) (write : Bool) (reading : Reading F) : Importing F Unit :=
  if write && !reading.batch.isEmpty then request (.write reading.batch options.policy) else pure ()

/-- Whether what was read is what the manifest describes. -/
def Reading.matches (reading : Reading F) (manifest : PartitionManifest) : Bool :=
  reading.count == manifest.count && reading.byteCount == manifest.bytes &&
    reading.minimum == manifest.minimumLogicalId && reading.maximum == manifest.maximumLogicalId &&
    prefixedDigest reading.content == manifest.sha256

/-- `_records`. -/
def records (importer : Importer) (options : ImportOptions) (write : Bool)
    (manifest : PartitionManifest) : Importing F PartitionImportResult := do
  raiseIfCancelled
  let chunks ← request (.chunks manifest.artifactRef)
  let reading ← readChunks importer options write {} chunks.items
  raiseFailure chunks.failure
  Script.refuse (reading.buffer ≠ [])
    (.integrityError "logical partition must end each Record with a newline")
  flushRest options write reading
  Script.refuse (reading.matches manifest = false)
    (.integrityError "partition %r failed manifest validation" [manifest.partitionId])
  Script.lift (PartitionImportResult.make manifest.partitionId reading.count reading.byteCount
    (prefixedDigest reading.content))

/-- One pass over the partitions. -/
def readAll (importer : Importer) (options : ImportOptions) (write : Bool) :
    List PartitionManifest → Importing F (List PartitionImportResult)
  | [] => pure []
  | manifest :: rest => do
      let result ← records importer options write manifest
      let results ← readAll importer options write rest
      pure (result :: results)

/-- The report and the evidence of a finalized import. -/
def reportImport (manifest : LogicalExportV1 F) (results : List PartitionImportResult)
    (targetFingerprint : Str) : Importing F ImportReport := do
  let comparisonDigest ← Script.lift
    (sha256Digest (comparisonMaterial manifest.digest targetFingerprint results))
  let report ← Script.lift
    (ImportReport.make manifest.digest targetFingerprint results comparisonDigest)
  let now ← request .clock
  let evidence ← Script.lift (LifecycleEvidence.make (str "logical-import") manifest.exportId
    (str "COMPLETED") [
      (str "exportDigest", .str manifest.digest),
      (str "targetFingerprint", .str targetFingerprint),
      (str "comparisonDigest", .str comparisonDigest)] now)
  request (.record evidence)
  pure report

/-- `LogicalImportCoordinator.import_export`. -/
def importExport (importer : Importer) (options : ImportOptions) (manifest : LogicalExportV1 F) :
    Importing F ImportReport := do
  Script.refuse (options.batchSize < 1 ∨ 10000 < options.batchSize)
    (.valueError "import batch_size must be between 1 and 10000")
  raiseIfCancelled
  let verified ← readAll importer options false manifest.partitions
  request (.preflight manifest.metadata options.policy)
  let results ← readAll importer options true manifest.partitions
  Script.refuse (results ≠ verified)
    (.integrityError "logical artifacts changed after preflight verification")
  let targetFingerprint ← request (.finalize manifest)
  Script.refuse (isSha256 targetFingerprint = false)
    (.integrityError "import target returned an invalid fingerprint")
  reportImport manifest results targetFingerprint

end Importing

end DataLifecycle.Portability
