import DataLifecycle.Portability.Export
import DataLifecycle.Portability.VerifyBeforeEffect
import DataLifecycle.Python.JsonOrder

/-!
# The export and import round trip

Importing what an export has stored writes the exported records, in their order
and in batches of the requested size, however the stored bytes are cut into chunks.
-/

namespace DataLifecycle.Portability

open Python Interaction

variable {F : Type} [FloatText F]

/-- The same record; mappings are compared as Python compares dictionaries. -/
structure LogicalRecord.Same (first second : LogicalRecord F) : Prop where
  catalog : first.catalog = second.catalog
  space : first.space = second.space
  resource : first.resource = second.resource
  schemaRef : first.schemaRef = second.schemaRef
  logicalId : first.logicalId = second.logicalId
  version : first.version = second.version
  values : (Json.object first.values).Same (.object second.values)
  objectReferences : List.Forall₂ (fun one other => (Json.object one).Same (.object other))
    first.objectReferences second.objectReferences

/-- The stored bytes come back whole, in any chunks, and the other hooks do not fail. -/
def Rechunks (artifacts : Dict Str Bytes) : (hook : ImportHook F) → hook.Response → Prop
  | .chunks artifactRef, response =>
      match artifacts.get? artifactRef with
      | some content => ∃ stream, response = .ok stream ∧ stream.failure = none ∧
          stream.items.flatten = content
      | none => response = .error InMemoryLogicalArtifacts.keyError
  | hook, response => ∃ answer, response = .ok answer ∧ hook.Acceptable answer

/-! ## What is stored verifies -/

omit [FloatText F] in
theorem same_sortMapping {members : List (Str × Json F)}
    (distinct : (Json.object members).DistinctKeys) :
    (Json.object (LogicalRecord.sortMapping members)).Same (.object members) := by
  rw [Json.same_iff_sortKeys_eq _ _ (LogicalRecord.distinctKeys_sortMapping distinct) distinct]
  exact Json.sortKeys_sortKeys (.object members)

omit [FloatText F] in
/-- Sorting the keys of its mappings leaves a record the same. -/
theorem same_sortKeys (record : LogicalRecord F) : record.sortKeys.Same record := by
  constructor
  · rfl
  · rfl
  · rfl
  · rfl
  · rfl
  · rfl
  · exact same_sortMapping record.values_distinct
  · change List.Forall₂ _ (record.objectReferences.map LogicalRecord.sortMapping) _
    rw [List.forall₂_map_left_iff, List.forall₂_same]
    exact fun reference member => same_sortMapping (record.references_distinct reference member)

theorem decodeLines_of_lines {maximumRecordBytes : Nat} {records : List (LogicalRecord F)}
    {lines : List Bytes}
    (each : List.Forall₂ (fun record line => record.line = .ok line) records lines)
    (short : ∀ record ∈ records, ∀ line, record.line = .ok line →
      line.length ≤ maximumRecordBytes) :
    decodeLines maximumRecordBytes lines = some (records.map LogicalRecord.sortKeys) := by
  induction each with
  | nil => rfl
  | @cons record line _ _ encoded _ ih =>
      rw [List.forall_mem_cons] at short
      rw [decodeLines, if_neg (LogicalRecord.line_ne_nil encoded),
        LogicalRecord.decodeLine_line encoded (short.1 line encoded), ih short.2]
      rfl

theorem newline_notMem_of_lines {records : List (LogicalRecord F)} {lines : List Bytes}
    (each : List.Forall₂ (fun record line => record.line = .ok line) records lines) :
    ∀ line ∈ lines, (10 : UInt8) ∉ line := by
  induction each with
  | nil => exact List.forall_mem_nil _
  | cons encoded _ ih =>
      rw [List.forall_mem_cons]
      exact ⟨LogicalRecord.newline_notMem_line encoded, ih⟩

/-- The bytes of a partition decode to its records. -/
theorem decodePartition_of_linesOf {maximumRecordBytes : Nat} {records : List (LogicalRecord F)}
    {content : Bytes} (lines : LinesOf records content)
    (short : ∀ record ∈ records, ∀ line, record.line = .ok line →
      line.length ≤ maximumRecordBytes) :
    decodePartition maximumRecordBytes content = some (records.map LogicalRecord.sortKeys) := by
  obtain ⟨lines, each, rfl⟩ := lines
  rw [decodePartition, scanLines_flatMap (newline_notMem_of_lines each), if_pos rfl,
    decodeLines_of_lines each short]

/-- A stored partition passes the verification of an import. -/
theorem StoredPartition.verifies {maximumRecordBytes : Nat} {records : List (LogicalRecord F)}
    {artifacts : Dict Str Bytes} {partitionId : Str} {manifest : PartitionManifest} {content : Bytes}
    (stored : StoredPartition records artifacts partitionId manifest content)
    (short : ∀ record ∈ records, ∀ line, record.line = .ok line →
      line.length ≤ maximumRecordBytes) :
    Verifies maximumRecordBytes manifest content (records.map LogicalRecord.sortKeys) := by
  constructor
  · exact decodePartition_of_linesOf stored.lines short
  · exact List.pairwise_map.mpr stored.ordered
  · rw [List.length_map, stored.count]
  · exact stored.bytes
  · rw [List.head?_map, Option.map_map]
    exact stored.minimum
  · rw [List.getLast?_map, Option.map_map]
    exact stored.maximum
  · exact stored.sha256

/-! ## The round trip -/

/-- The batches written for one partition hold its records. -/
def WritesPartition (source : ExportSource F) (batchSize : Nat) (partitionId : Str)
    (groups : List (List (LogicalRecord F))) : Prop :=
  (∀ group ∈ groups, 1 ≤ group.length ∧ group.length ≤ batchSize) ∧
    List.Forall₂ LogicalRecord.Same groups.flatten (source.records partitionId)

/-- What a round trip has done: the report agrees with the manifest, and the writes
hold the exported records, partition by partition. -/
structure RoundTripped (source : ExportSource F) (options : ImportOptions)
    (manifest : LogicalExportV1 F) (report : ImportReport) (trace : ImportTrace F) : Prop where
  exportDigest_eq : report.exportDigest = manifest.digest
  partitions_eq : report.partitions = manifest.partitions.map Importing.resultOf
  written : ∃ parts, trace.written = parts.flatten ∧
    List.Forall₂ (WritesPartition source options.batchSize) source.partitionIds parts
  finalized : trace.finalized = true

theorem cooperative_rechunks (artifacts : Dict Str Bytes) :
    Importing.Cooperative (F := F) (Rechunks artifacts) False := by
  intro hook response notRead permitted
  right
  cases hook with
  | chunks => cases notRead
  | _ => exact permitted

theorem exists_stream_of_rechunks {artifacts : Dict Str Bytes} {artifactRef : Str} {content : Bytes}
    (stored : artifacts.get? artifactRef = some content)
    {response : (ImportHook.chunks (F := F) artifactRef).Response}
    (permitted : Rechunks artifacts (.chunks artifactRef) response) :
    ∃ stream, response = .ok stream ∧ stream.failure = none ∧ stream.items.flatten = content := by
  simpa only [Rechunks, stored] using permitted

theorem exists_stored_of_mem {source : ExportSource F} {artifacts : Dict Str Bytes}
    {partitionIds : List Str} {manifests : List PartitionManifest}
    (stored : Exporting.StoresAll source artifacts partitionIds manifests)
    {manifest : PartitionManifest} (member : manifest ∈ manifests) :
    ∃ partitionId ∈ partitionIds, ∃ content,
      StoredPartition (source.records partitionId) artifacts partitionId manifest content := by
  induction stored with
  | nil => cases member
  | @cons partitionId first _ _ held _ ih =>
      rcases List.mem_cons.mp member with rfl | later
      · exact ⟨partitionId, List.mem_cons_self, held⟩
      · obtain ⟨other, otherMem, found⟩ := ih later
        exact ⟨other, List.mem_cons_of_mem _ otherMem, found⟩

/-- The batches of an imported partition hold the exported records. -/
theorem writesPartition_of_read {source : ExportSource F} {importer : Importer}
    {options : ImportOptions} {artifacts : Dict Str Bytes} {partitionId : Str}
    {manifest : PartitionManifest} {content : Bytes}
    (stored : StoredPartition (source.records partitionId) artifacts partitionId manifest content)
    (short : ∀ record ∈ source.records partitionId, ∀ line, record.line = .ok line →
      line.length ≤ importer.maximumRecordBytes)
    {read : Str × Stream Bytes} {groups : List (List (LogicalRecord F))}
    (imported : Importing.ReadPartition importer options (Rechunks artifacts) true manifest read
      groups) :
    WritesPartition source options.batchSize partitionId groups := by
  refine ⟨imported.sized, ?_⟩
  obtain ⟨stream, streamEq, -, whole⟩ :=
    exists_stream_of_rechunks stored.stored imported.permitted
  cases streamEq
  rw [imported.batched, if_pos rfl, ImportTrace.decoded, whole,
    decodePartition_of_linesOf stored.lines short, Option.getD_some, List.forall₂_map_left_iff,
    List.forall₂_same]
  exact fun record _ => same_sortKeys record

theorem forall₂_writesPartition {source : ExportSource F} {importer : Importer}
    {options : ImportOptions} {artifacts : Dict Str Bytes} {partitionIds : List Str}
    {manifests : List PartitionManifest}
    (stored : Exporting.StoresAll source artifacts partitionIds manifests)
    (short : ∀ partitionId ∈ partitionIds, ∀ record ∈ source.records partitionId, ∀ line,
      record.line = .ok line → line.length ≤ importer.maximumRecordBytes)
    {parts : List ((Str × Stream Bytes) × List (List (LogicalRecord F)))}
    (imported : List.Forall₂ (fun manifest part => Importing.ReadPartition importer options
      (Rechunks artifacts) true manifest part.1 part.2) manifests parts) :
    List.Forall₂ (WritesPartition source options.batchSize) partitionIds (parts.map Prod.snd) := by
  induction stored generalizing parts with
  | nil =>
      cases imported
      exact .nil
  | cons partition _ ih =>
      obtain ⟨content, partition⟩ := partition
      rw [List.forall_mem_cons] at short
      cases imported with
      | cons read rest =>
          exact .cons (writesPartition_of_read partition short.1 read) (ih short.2 rest)

/-- Logical export and import round trip.  Let an export of any source into any
in-memory sink return a manifest.  Importing it, with the stored bytes cut into
chunks in any way and hooks that do not fail, returns a report that agrees with the
manifest, and its writes are the exported records: partition by partition, in
order, in calls of one to `batch_size` records. -/
theorem export_import_round_trip (source : ExportSource F) (exportRequest : ExportRequest)
    (exportId : Str) (sink final : InMemoryLogicalArtifacts) (manifest : LogicalExportV1 F)
    (exported : (Exporting.exportAll exportRequest exportId ()).Returns (Exports source) sink
      (.ok manifest, ()) final)
    (importer : Importer) (options : ImportOptions)
    (sized : 1 ≤ options.batchSize ∧ options.batchSize ≤ 10000)
    (short : ∀ partitionId ∈ source.partitionIds, ∀ record ∈ source.records partitionId, ∀ line,
      record.line = .ok line → line.length ≤ importer.maximumRecordBytes) :
    (Importing.importExport importer options manifest).Safe
      (fun before hook response after =>
        after = before.after hook response ∧ Rechunks final.artifacts hook response)
      (ImportTrace.Allows importer manifest.partitions)
      (fun report _ trace => RoundTripped source options manifest report trace)
      (fun _ _ _ => False) () {} := by
  have leaves : Exporting.Leaves source (Exporting.exportAll exportRequest exportId) _ sink :=
    Exporting.leaves_exportAll exportRequest exportId
  have stored : Exporting.StoresAll source final.artifacts source.partitionIds manifest.partitions :=
    leaves.of_returns exported
  have faithful : ∀ partition ∈ manifest.partitions,
      Importing.Faithful (F := F) importer (Rechunks final.artifacts) False partition := by
    intro partition member response permitted
    obtain ⟨partitionId, idMem, content, held⟩ := exists_stored_of_mem stored member
    obtain ⟨stream, streamEq, complete, whole⟩ := exists_stream_of_rechunks held.stored permitted
    have verifies := held.verifies (short partitionId idMem)
    rw [← whole] at verifies
    exact .inr ⟨stream, streamEq, complete, _, verifies⟩
  have repeatable : ∀ partition ∈ manifest.partitions,
      Importing.Repeatable (F := F) (Rechunks final.artifacts) partition := by
    intro partition member first second permitted repermitted _ _ _ _
    obtain ⟨partitionId, idMem, content, held⟩ := exists_stored_of_mem stored member
    obtain ⟨_, streamEq, -, whole⟩ := exists_stream_of_rechunks held.stored permitted
    obtain ⟨_, restreamEq, -, rewhole⟩ := exists_stream_of_rechunks held.stored repermitted
    cases streamEq
    cases restreamEq
    rw [whole, rewhole]
  apply Importing.runs_mono (Importing.runs_importExport (cooperative_rechunks final.artifacts)
    (.inr sized) faithful repeatable)
  intro report trace imported
  obtain ⟨parts, writtenEq, read⟩ := imported.written
  exact ⟨imported.exportDigest_eq, imported.partitions_eq,
    ⟨parts.map Prod.snd, writtenEq, forall₂_writesPartition stored short read⟩, imported.finalized⟩

/-- The sample record under another id. -/
def sampleOrder (logicalId : Str) (nonempty : logicalId ≠ []) : LogicalRecord Empty :=
  { Importing.sampleRecord with
    logicalId := logicalId
    valid := { Importing.sampleRecord.valid with logicalId_ne := nonempty } }

/-- A source with four orders in two partitions. -/
def sampleSource : ExportSource Empty where
  partitionIds := [str "orders-0", str "orders-1"]
  batches partitionId :=
    if partitionId = str "orders-0" then
      [[sampleOrder (str "order-1") (by decide)],
        [sampleOrder (str "order-2") (by decide), sampleOrder (str "order-3") (by decide)]]
    else [[sampleOrder (str "order-4") (by decide)]]

/-- The request for these orders. -/
def sampleRequest : ExportRequest where
  resources := [str "orders"]
  resources_valid := ⟨List.cons_ne_nil _ _, by decide, by decide⟩
  batchSize_valid := ⟨by decide, by decide⟩

/-- An environment of the sample source. -/
def answerExport (sink : InMemoryLogicalArtifacts) :
    (hook : ExportHook Empty) → hook.Response × InMemoryLogicalArtifacts
  | .cancelled => (.ok false, sink)
  | .clock => (.ok (.ofUtc 1000000), sink)
  | .begin _ => (.ok Importing.sampleExport.boundary, sink)
  | .metadata _ _ => (.ok Importing.sampleExport.metadata, sink)
  | .partitionIds _ _ => (.ok sampleSource.partitionIds, sink)
  | .records _ _ partitionId => (.ok ⟨sampleSource.batches partitionId, none⟩, sink)
  | .finish _ boundary => (.ok boundary, sink)
  | .beginPartition _ => sink.beginPartition
  | .write handle chunk => sink.write handle chunk
  | .finishPartition handle partitionId => sink.finishPartition handle partitionId
  | .record _ => (.ok (), sink)

theorem exports_answerExport (sink : InMemoryLogicalArtifacts) (hook : ExportHook Empty) :
    Exports sampleSource sink hook (answerExport sink hook).1 (answerExport sink hook).2 := by
  cases hook with
  | partitionIds => exact ⟨rfl, rfl⟩
  | records => exact ⟨rfl, rfl⟩
  | _ => rfl

/-- The sample export returns, and its import writes at most two records at a time. -/
theorem export_import_round_trip_sample :
    ∃ (manifest : LogicalExportV1 Empty) (final : InMemoryLogicalArtifacts),
      (Exporting.exportAll sampleRequest (str "export-1") ()).Returns (Exports sampleSource) .empty
        (.ok manifest, ()) final ∧
      manifest.partitions.map (·.count) = [3, 1] ∧
      (Importing.importExport ⟨1024, true, by decide⟩ { batchSize := 2 } manifest).Safe
        (fun before hook response after =>
          after = before.after hook response ∧ Rechunks final.artifacts hook response)
        (ImportTrace.Allows ⟨1024, true, by decide⟩ manifest.partitions)
        (fun report _ trace => RoundTripped sampleSource { batchSize := 2 } manifest report trace)
        (fun _ _ _ => False) () {} := by
  have returns := Prog.run_returns exports_answerExport
    (Exporting.exportAll sampleRequest (str "export-1") ()) .empty
  have counts : ((Exporting.exportAll sampleRequest (str "export-1") ()).run answerExport
      .empty).1.1.toOption.map (fun manifest => manifest.partitions.map (·.count)) =
        some [3, 1] := by
    decide +kernel
  have short : ∀ partitionId ∈ sampleSource.partitionIds,
      ∀ record ∈ sampleSource.records partitionId,
        (record.line.toOption.getD []).length ≤ 1024 := by
    decide +kernel
  generalize (Exporting.exportAll sampleRequest (str "export-1") ()).run answerExport .empty
    = outcome at returns counts
  obtain ⟨⟨result, _⟩, final⟩ := outcome
  cases result with
  | error => cases counts
  | ok manifest =>
      refine ⟨manifest, final, returns, Option.some.inj counts, ?_⟩
      apply export_import_round_trip sampleSource sampleRequest _ _ _ _ returns
      · exact ⟨by decide, by decide⟩
      · intro partitionId idMem record member line encoded
        have bound := short partitionId idMem record member
        rw [encoded] at bound
        exact bound

end DataLifecycle.Portability
