import DataLifecycle.Portability.Partitions

/-!
# What an export leaves behind

An export that returns has stored the lines of every partition under the reference
that its manifest names, and the manifest describes them.
-/

namespace DataLifecycle.Portability

open Python Interaction

variable {F : Type} [FloatText F]

/-- What an export source holds: its partitions, and their records in batches. -/
structure ExportSource (F : Type) where
  partitionIds : List Str
  batches : Str → List (List (LogicalRecord F))

/-- The records of a partition. -/
def ExportSource.records (source : ExportSource F) (partitionId : Str) : List (LogicalRecord F) :=
  (source.batches partitionId).flatten

/-- The calls of an export answered by the source and an in-memory sink.  The other
hooks answer anything. -/
def Exports (source : ExportSource F) (before : InMemoryLogicalArtifacts) :
    (hook : ExportHook F) → hook.Response → InMemoryLogicalArtifacts → Prop
  | .beginPartition _, response, after => (response, after) = before.beginPartition
  | .write handle chunk, response, after => (response, after) = before.write handle chunk
  | .finishPartition handle partitionId, response, after =>
      (response, after) = before.finishPartition handle partitionId
  | .partitionIds _ _, response, after => response = .ok source.partitionIds ∧ after = before
  | .records _ _ partitionId, response, after =>
      response = .ok ⟨source.batches partitionId, none⟩ ∧ after = before
  | _, _, after => after = before

/-- The bytes are the lines of the records, each with its newline. -/
def LinesOf (records : List (LogicalRecord F)) (content : Bytes) : Prop :=
  ∃ lines, List.Forall₂ (fun record line => record.line = .ok line) records lines ∧
    content = lines.flatMap (· ++ [10])

/-- The sink holds the records of a partition as its manifest says. -/
structure StoredPartition (records : List (LogicalRecord F)) (artifacts : Dict Str Bytes)
    (partitionId : Str) (manifest : PartitionManifest) (content : Bytes) : Prop where
  partitionId_eq : manifest.partitionId = partitionId
  artifactRef_eq : manifest.artifactRef = InMemoryLogicalArtifacts.reference partitionId content
  stored : artifacts.get? manifest.artifactRef = some content
  lines : LinesOf records content
  ordered : Ordered records
  count : records.length = manifest.count
  bytes : content.length = manifest.bytes
  minimum : records.head?.map (·.logicalId) = manifest.minimumLogicalId
  maximum : records.getLast?.map (·.logicalId) = manifest.maximumLogicalId
  sha256 : prefixedDigest content = manifest.sha256

/-- References of different partitions differ, whatever they hold. -/
theorem partitionId_eq_of_reference_eq {first second : Str} {firstContent secondContent : Bytes}
    (same : InMemoryLogicalArtifacts.reference first firstContent =
      InMemoryLogicalArtifacts.reference second secondContent) : first = second := by
  have lengths : (sha256Hex firstContent).length = (sha256Hex secondContent).length := by
    rw [length_sha256Hex, length_sha256Hex]
  rw [InMemoryLogicalArtifacts.reference, InMemoryLogicalArtifacts.reference] at same
  have front := (List.append_inj' same lengths).1
  exact List.append_cancel_left (List.append_cancel_right front)

namespace Exporting

section Parts

variable {source : ExportSource F} {α β : Type} {sink : InMemoryLogicalArtifacts}

/-- When the part returns, the postcondition holds of its value and the sink. -/
def Leaves (source : ExportSource F) (part : Exporting F α)
    (normal : α → InMemoryLogicalArtifacts → Prop) (sink : InMemoryLogicalArtifacts) : Prop :=
  part.Safe (Exports source) (fun _ _ => True) (fun value _ after => normal value after)
    (fun _ _ _ => True) () sink

theorem leaves_pure {normal : α → InMemoryLogicalArtifacts → Prop} {value : α}
    (holds : normal value sink) : Leaves source (pure value) normal sink :=
  holds

theorem leaves_bind {normal : α → InMemoryLogicalArtifacts → Prop} {part : Exporting F β}
    {rest : β → Exporting F α}
    (leaves : Leaves source part (fun value after => Leaves source (rest value) normal after) sink) :
    Leaves source (part >>= rest) normal sink :=
  Script.safe_bind.mpr leaves

theorem leaves_mono {normal weaker : α → InMemoryLogicalArtifacts → Prop} {part : Exporting F α}
    (leaves : Leaves source part normal sink)
    (implies : ∀ value after, normal value after → weaker value after) :
    Leaves source part weaker sink :=
  Script.Safe.mono leaves (fun value _ after => implies value after) (fun _ _ _ => id)

theorem leaves_refuse {normal : Unit → InMemoryLogicalArtifacts → Prop} {condition : Prop}
    [Decidable condition] {error : Exc} (goesOn : ¬ condition → normal () sink) :
    Leaves source (Script.refuse condition error) normal sink :=
  Script.safe_refuse.mpr ⟨fun _ => trivial, goesOn⟩

theorem leaves_lift {normal : α → InMemoryLogicalArtifacts → Prop} {result : Except Exc α}
    (goesOn : ∀ value, result = .ok value → normal value sink) :
    Leaves source (Script.lift result) normal sink := by
  cases result with
  | ok value => exact goesOn value rfl
  | error => trivial

theorem leaves_request {hook : ExportHook F} {normal : hook.Answer → InMemoryLogicalArtifacts → Prop}
    (goesOn : ∀ answer after, Exports source sink hook (.ok answer) after → normal answer after) :
    Leaves source (request hook) normal sink := by
  rw [Leaves, request, Script.safe_invoke]
  refine ⟨trivial, ?_⟩
  intro response after answered
  cases response with
  | ok answer => exact goesOn answer after answered
  | error => trivial

theorem leaves_raiseIfCancelled {normal : Unit → InMemoryLogicalArtifacts → Prop}
    (goesOn : normal () sink) : Leaves source raiseIfCancelled normal sink := by
  apply leaves_bind
  apply leaves_request
  rintro isCancelled _ rfl
  exact leaves_refuse fun _ => goesOn

/-- What has been written of a partition. -/
structure Writing (records : List (LogicalRecord F)) (handle : Nat) (artifacts : Dict Str Bytes)
    (progress : Progress) (sink : InMemoryLogicalArtifacts) : Prop where
  lines : LinesOf records progress.content
  ordered : Ordered records
  count : progress.count = records.length
  byteCount : progress.byteCount = progress.content.length
  minimum : progress.minimum = records.head?.map (·.logicalId)
  maximum : progress.maximum = records.getLast?.map (·.logicalId)
  previous : progress.previous = records.getLast?.map (·.logicalId)
  pending : sink.pending.get? handle = some progress.content
  artifacts_eq : sink.artifacts = artifacts

variable {records : List (LogicalRecord F)} {handle : Nat} {artifacts : Dict Str Bytes}
  {progress : Progress}

theorem LinesOf.append {content line : Bytes} {record : LogicalRecord F}
    (lines : LinesOf records content) (encoded : record.line = .ok line) :
    LinesOf (records ++ [record]) (content ++ (line ++ [10])) := by
  obtain ⟨before, each, rfl⟩ := lines
  refine ⟨before ++ [line], ?_, by simp⟩
  exact List.rel_append each (.cons encoded .nil)

theorem leaves_exportRecord (record : LogicalRecord F)
    (writing : Writing records handle artifacts progress sink) :
    Leaves source (exportRecord handle progress record)
      (Writing (records ++ [record]) handle artifacts) sink := by
  apply leaves_bind
  apply leaves_refuse
  intro isAfter
  apply leaves_bind
  apply leaves_lift
  intro line encoded
  apply leaves_bind
  apply leaves_request
  intro _ after answered
  apply leaves_pure
  rw [writing.previous] at isAfter
  have written : after = { sink with
      pending := sink.pending.set handle (progress.content ++ (line ++ [10])) } := by
    simp only [Exports, InMemoryLogicalArtifacts.write, writing.pending, Prod.mk.injEq] at answered
    exact answered.2
  subst written
  constructor
  · exact LinesOf.append writing.lines encoded
  · exact writing.ordered.append isAfter
  · simp [writing.count]
  · simp [writing.byteCount]
  · rw [← orText_head?, ← writing.minimum]
  · simp
  · simp
  · exact Dict.get?_set_self _ _ _
  · exact writing.artifacts_eq

theorem leaves_exportRecords (batch : List (LogicalRecord F))
    (writing : Writing records handle artifacts progress sink) :
    Leaves source (exportRecords handle progress batch)
      (Writing (records ++ batch) handle artifacts) sink := by
  induction batch generalizing records progress sink with
  | nil =>
      rw [List.append_nil]
      exact leaves_pure writing
  | cons record rest ih =>
      apply leaves_bind
      apply leaves_mono (leaves_exportRecord record writing)
      intro progress after writing
      apply leaves_mono (ih writing)
      intro progress final writing
      rwa [List.append_assoc, List.singleton_append] at writing

theorem leaves_exportBatches (exportRequest : ExportRequest)
    (batches : List (List (LogicalRecord F)))
    (writing : Writing records handle artifacts progress sink) :
    Leaves source (exportBatches exportRequest handle progress batches)
      (Writing (records ++ batches.flatten) handle artifacts) sink := by
  induction batches generalizing records progress sink with
  | nil =>
      rw [List.flatten_nil, List.append_nil]
      exact leaves_pure writing
  | cons batch rest ih =>
      apply leaves_bind
      apply leaves_refuse
      intro _
      apply leaves_bind
      apply leaves_raiseIfCancelled
      apply leaves_bind
      apply leaves_mono (leaves_exportRecords batch writing)
      intro progress after writing
      apply leaves_mono (ih writing)
      intro progress final writing
      rwa [List.append_assoc, ← List.flatten_cons] at writing

/-- The manifest that the constructor makes has the values it was given. -/
theorem make_eq_ok {partitionId artifactRef sha256 : Str} {count bytes : Nat}
    {minimum maximum : Option Str} {manifest : PartitionManifest}
    (made : PartitionManifest.make partitionId artifactRef count bytes minimum maximum sha256 =
      .ok manifest) :
    manifest.partitionId = partitionId ∧ manifest.artifactRef = artifactRef ∧
      manifest.count = count ∧ manifest.bytes = bytes ∧ manifest.minimumLogicalId = minimum ∧
      manifest.maximumLogicalId = maximum ∧ manifest.sha256 = sha256 := by
  unfold PartitionManifest.make at made
  split_ifs at made
  cases made
  exact ⟨rfl, rfl, rfl, rfl, rfl, rfl, rfl⟩

/-- One partition is stored under its reference, and nothing else changes. -/
theorem leaves_exportPartition (exportRequest : ExportRequest) (boundary : ExportBoundary)
    (partitionId : Str) :
    Leaves source (exportPartition exportRequest boundary partitionId)
      (fun manifest after => ∃ content,
        StoredPartition (source.records partitionId) after.artifacts partitionId manifest content ∧
        after.artifacts = sink.artifacts.set
          (InMemoryLogicalArtifacts.reference partitionId content) content) sink := by
  apply leaves_bind
  apply leaves_raiseIfCancelled
  apply leaves_bind
  apply leaves_request
  intro handle begun beginning
  simp only [Exports, InMemoryLogicalArtifacts.beginPartition, Prod.mk.injEq, Except.ok.injEq]
    at beginning
  obtain ⟨rfl, rfl⟩ := beginning
  apply leaves_bind
  apply leaves_request
  rintro _ _ ⟨⟨⟩, rfl⟩
  apply leaves_bind
  have started : Writing ([] : List (LogicalRecord F)) (sink.nextHandle + 1) sink.artifacts {}
      { sink with
        pending := sink.pending.set (sink.nextHandle + 1) []
        nextHandle := sink.nextHandle + 1 } := by
    constructor
    · exact ⟨[], .nil, rfl⟩
    · exact List.Pairwise.nil
    · rfl
    · rfl
    · rfl
    · rfl
    · rfl
    · exact Dict.get?_set_self _ _ _
    · rfl
  apply leaves_mono (leaves_exportBatches exportRequest (source.batches partitionId) started)
  intro progress written writing
  rw [List.nil_append, ← ExportSource.records] at writing
  apply leaves_bind
  apply leaves_pure
  apply leaves_bind
  apply leaves_request
  intro artifactRef finished finishing
  simp only [Exports, InMemoryLogicalArtifacts.finishPartition, writing.pending, Prod.mk.injEq,
    Except.ok.injEq] at finishing
  obtain ⟨rfl, rfl⟩ := finishing
  apply leaves_lift
  intro manifest made
  obtain ⟨idEq, refEq, countEq, bytesEq, minimumEq, maximumEq, sha256Eq⟩ := make_eq_ok made
  refine ⟨progress.content, ?_, by rw [← writing.artifacts_eq]⟩
  constructor
  · exact idEq
  · exact refEq
  · rw [refEq]
    exact Dict.get?_set_self _ _ _
  · exact writing.lines
  · exact writing.ordered
  · rw [countEq, writing.count]
  · rw [bytesEq, writing.byteCount]
  · rw [minimumEq, writing.minimum]
  · rw [maximumEq, writing.maximum]
  · exact sha256Eq.symm

/-- The sink keeps what it holds for other partitions. -/
def KeepsOthers (partitionIds : List Str) (before after : InMemoryLogicalArtifacts) : Prop :=
  ∀ partitionId ∉ partitionIds, ∀ content,
    after.artifacts.get? (InMemoryLogicalArtifacts.reference partitionId content) =
      before.artifacts.get? (InMemoryLogicalArtifacts.reference partitionId content)

/-- The sink holds every partition as its manifest says. -/
def StoresAll (source : ExportSource F) (artifacts : Dict Str Bytes) (partitionIds : List Str)
    (manifests : List PartitionManifest) : Prop :=
  List.Forall₂ (fun partitionId manifest => ∃ content,
    StoredPartition (source.records partitionId) artifacts partitionId manifest content)
    partitionIds manifests

/-- Every partition is stored, and none overwrites another. -/
theorem leaves_exportPartitions (exportRequest : ExportRequest) (boundary : ExportBoundary)
    {partitionIds : List Str} (nodup : partitionIds.Nodup) :
    Leaves source (exportPartitions exportRequest boundary partitionIds)
      (fun manifests after => StoresAll source after.artifacts partitionIds manifests ∧
        KeepsOthers partitionIds sink after) sink := by
  induction partitionIds generalizing sink with
  | nil => exact leaves_pure ⟨.nil, fun _ _ _ => rfl⟩
  | cons partitionId rest ih =>
      rw [List.nodup_cons] at nodup
      apply leaves_bind
      apply leaves_mono (leaves_exportPartition exportRequest boundary partitionId)
      rintro manifest middle ⟨content, stored, artifactsEq⟩
      apply leaves_bind
      apply leaves_mono (ih nodup.2)
      rintro manifests after ⟨others, keeps⟩
      apply leaves_pure
      constructor
      · refine .cons ⟨content, { stored with stored := ?_ }⟩ others
        rw [← stored.stored, stored.artifactRef_eq]
        exact keeps partitionId nodup.1 content
      · intro other otherNotMem otherContent
        rw [List.mem_cons, not_or] at otherNotMem
        rw [keeps other otherNotMem.2, artifactsEq, Dict.get?_set_of_ne]
        intro same
        exact otherNotMem.1 (partitionId_eq_of_reference_eq same).symm

omit [FloatText F] in
theorem make_partitions [FloatText F] {metadata : ExportMetadata F} {boundary : ExportBoundary}
    {partitions : List PartitionManifest} {exportId : Str} {createdAt : DateTime}
    {manifest : LogicalExportV1 F}
    (made : LogicalExportV1.make metadata boundary partitions exportId createdAt = .ok manifest) :
    manifest.partitions = partitions := by
  unfold LogicalExportV1.make at made
  split_ifs at made
  cases timeEq : ensureUtc "created_at" createdAt with
  | error error =>
      rw [timeEq] at made
      cases made
  | ok created =>
      rw [timeEq] at made
      simp only [bind, Except.bind] at made
      split at made
      · cases made
        rfl
      · cases made

/-- The whole export. -/
theorem leaves_exportAll (exportRequest : ExportRequest) (exportId : Str) :
    Leaves source (exportAll exportRequest exportId)
      (fun manifest after =>
        StoresAll source after.artifacts source.partitionIds manifest.partitions) sink := by
  apply leaves_bind
  apply leaves_request
  rintro boundary _ rfl
  apply leaves_bind
  apply leaves_request
  rintro metadata _ rfl
  apply leaves_bind
  apply leaves_request
  rintro _ _ ⟨⟨⟩, rfl⟩
  apply leaves_bind
  apply leaves_refuse
  intro nodup
  apply leaves_bind
  apply leaves_mono (leaves_exportPartitions exportRequest boundary (not_not.mp nodup))
  rintro manifests after ⟨stored, -⟩
  apply leaves_bind
  apply leaves_request
  rintro finalBoundary _ rfl
  apply leaves_bind
  apply leaves_refuse
  intro _
  apply leaves_bind
  apply leaves_refuse
  intro _
  apply leaves_bind
  apply leaves_request
  rintro createdAt _ rfl
  apply leaves_bind
  apply leaves_lift
  intro manifest made
  apply leaves_bind
  apply leaves_request
  rintro now _ rfl
  apply leaves_bind
  apply leaves_lift
  intro evidence _
  apply leaves_bind
  apply leaves_request
  rintro _ _ rfl
  apply leaves_pure
  rw [make_partitions made]
  exact stored

end Parts

end Exporting

end DataLifecycle.Portability
