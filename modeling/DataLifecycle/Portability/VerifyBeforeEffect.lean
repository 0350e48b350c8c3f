import DataLifecycle.Portability.Import

/-!
# The whole import

`import_export` verifies every partition before its first effect, and finalizes
only what it has verified, whatever the artifact source yields in either read.
-/

namespace DataLifecycle.Portability

open Python Interaction

variable {F : Type} [FloatText F]

/-! ## Evidence of an import can be encoded -/

theorem encodable_exportMaterial (manifest : LogicalExportV1 F) :
    Encodable (exportMaterial manifest.metadata manifest.boundary manifest.partitions
      manifest.exportId manifest.createdAt) :=
  encodable_of_sha256Digest manifest.digest_eq

theorem scalar_exportId (manifest : LogicalExportV1 F) :
    ∀ point ∈ manifest.exportId, isSurrogate point = false := by
  have material := encodable_exportMaterial manifest
  rw [exportMaterial, encodable_object_iff] at material
  exact encodable_str_iff.mp (material (str "exportId", .str manifest.exportId) (by simp)).2

theorem encodable_partition {manifest : LogicalExportV1 F} {partition : PartitionManifest}
    (member : partition ∈ manifest.partitions) : Encodable (partition.toMapping : Json F) := by
  have material := encodable_exportMaterial manifest
  rw [exportMaterial, encodable_object_iff] at material
  have partitions := (material (str "partitions", .array (manifest.partitions.map (·.toMapping)))
    (by simp)).2
  exact encodable_array_iff.mp partitions _ (List.mem_map_of_mem member)

omit [FloatText F] in
/-- Whether an integer can be encoded does not depend on the floats. -/
theorem encodable_int_iff {G : Type} {value : Int} :
    Encodable (.int value : Json F) ↔ Encodable (.int value : Json G) := by
  simp [Encodable, Json.intsPrintable, Json.characters]

theorem encodable_comparisonMaterial (manifest : LogicalExportV1 F) {targetFingerprint : Str}
    (valid : isSha256 targetFingerprint = true) :
    Encodable (comparisonMaterial manifest.digest targetFingerprint
      (manifest.partitions.map Importing.resultOf)) := by
  rw [comparisonMaterial, encodable_object_iff]
  simp only [List.mem_cons, List.not_mem_nil, or_false, forall_eq_or_imp, forall_eq]
  refine ⟨⟨scalar_str _, encodable_str_iff.mpr (isSurrogate_of_isSha256
    (isSha256_of_sha256Digest manifest.digest_eq))⟩, ⟨scalar_str _,
    encodable_str_iff.mpr (isSurrogate_of_isSha256 valid)⟩, scalar_str _, ?_⟩
  rw [encodable_array_iff]
  intro item member
  simp only [List.map_map, List.mem_map] at member
  obtain ⟨partition, partitionMem, rfl⟩ := member
  have mapping := encodable_partition partitionMem
  rw [PartitionManifest.toMapping, encodable_object_iff] at mapping
  simp only [List.mem_cons, List.not_mem_nil, or_false, forall_eq_or_imp, forall_eq] at mapping
  obtain ⟨⟨_, partitionId⟩, -, ⟨_, count⟩, ⟨_, bytes⟩, -, -, _, sha256⟩ := mapping
  simp only [Function.comp_apply, encodable_object_iff, List.mem_cons, List.not_mem_nil, or_false,
    forall_eq_or_imp, forall_eq]
  refine ⟨⟨scalar_str _, encodable_str_iff.mpr (encodable_str_iff.mp
    partitionId)⟩, ⟨scalar_str _, encodable_int_iff.mp count⟩,
    ⟨scalar_str _, encodable_int_iff.mp bytes⟩,
    scalar_str _, encodable_str_iff.mpr (encodable_str_iff.mp sha256)⟩

/-- The evidence of a finished import is made, given a clock that returns an aware
timestamp. -/
theorem isOk_importEvidence (manifest : LogicalExportV1 F) {targetFingerprint comparisonDigest : Str}
    (fingerprintValid : isSha256 targetFingerprint = true)
    (comparisonValid : isSha256 comparisonDigest = true) {now : DateTime}
    (aware : (ensureUtc "occurred_at" now).isOk = true) :
    ∃ evidence, LifecycleEvidence.make (F := F) (str "logical-import") manifest.exportId
      (str "COMPLETED") [
        (str "exportDigest", .str manifest.digest),
        (str "targetFingerprint", .str targetFingerprint),
        (str "comparisonDigest", .str comparisonDigest)] now = .ok evidence := by
  have encodable : Encodable (evidenceMaterial (F := F) (str "logical-import") manifest.exportId
      (str "COMPLETED") [
        (str "exportDigest", .str manifest.digest),
        (str "targetFingerprint", .str targetFingerprint),
        (str "comparisonDigest", .str comparisonDigest)]) := by
    simp only [evidenceMaterial, encodable_object_iff, List.mem_cons, List.not_mem_nil, or_false,
      forall_eq_or_imp, forall_eq, encodable_str_iff]
    refine ⟨⟨scalar_str _, scalar_str _⟩,
      ⟨scalar_str _, scalar_exportId manifest⟩,
      ⟨scalar_str _, scalar_str _⟩,
      scalar_str _, ?_⟩
    exact ⟨⟨scalar_str _, isSurrogate_of_isSha256
      (isSha256_of_sha256Digest manifest.digest_eq)⟩,
      ⟨scalar_str _, isSurrogate_of_isSha256 fingerprintValid⟩,
      scalar_str _, isSurrogate_of_isSha256 comparisonValid⟩
  have named : ¬ (str "logical-import" = [] ∨ manifest.exportId = [] ∨ str "COMPLETED" = []) := by
    rintro (empty | empty | empty)
    · exact absurd empty (by decide)
    · exact manifest.exportId_ne empty
    · exact absurd empty (by decide)
  rw [LifecycleEvidence.make, if_neg named, sha256Digest_of_encodable encodable]
  cases timeEq : ensureUtc "occurred_at" now with
  | ok instant => exact ⟨_, rfl⟩
  | error error =>
      rw [timeEq] at aware
      cases aware

namespace Importing

section Whole

variable {importer : Importer} {options : ImportOptions} {manifest : LogicalExportV1 F}
  {manifests : List PartitionManifest}
  {permits : (hook : ImportHook F) → hook.Response → Prop} {fails : Prop}
  {trace : ImportTrace F}
  {parts first second : List ((Str × Stream Bytes) × List (List (LogicalRecord F)))}

/-- Two permitted complete reads of a partition with its digest hold the same
bytes. -/
def Repeatable (permits : (hook : ImportHook F) → hook.Response → Prop)
    (manifest : PartitionManifest) : Prop :=
  ∀ first second, permits (.chunks manifest.artifactRef) (.ok first) →
    permits (.chunks manifest.artifactRef) (.ok second) →
    first.failure = none → second.failure = none →
    prefixedDigest first.items.flatten = manifest.sha256 →
    prefixedDigest second.items.flatten = manifest.sha256 →
    first.items.flatten = second.items.flatten

/-- A pass that does not write has no batches. -/
theorem batches_of_not_write
    (partitions : List.Forall₂ (fun manifest part =>
      ReadPartition importer options permits false manifest part.1 part.2) manifests parts) :
    (parts.map Prod.snd).flatten = [] := by
  induction partitions with
  | nil => rfl
  | @cons manifest part _ rest read _ ih =>
      have none : part.2 = [] := by
        apply List.eq_nil_iff_forall_not_mem.mpr
        intro group member
        have nonempty := (read.sized group member).1
        rw [List.flatten_eq_nil_iff.mp read.batched group member] at nonempty
        exact absurd nonempty (Nat.not_succ_le_zero 0)
      rw [List.map_cons, List.flatten_cons, none, List.nil_append, ih]

/-- A pass that writes writes what it decodes. -/
theorem batches_of_write
    (partitions : List.Forall₂ (fun manifest part =>
      ReadPartition importer options permits true manifest part.1 part.2) manifests parts) :
    (parts.map Prod.snd).flatten.flatten =
      (parts.map Prod.fst).flatMap (ImportTrace.decoded importer) := by
  induction partitions with
  | nil => rfl
  | cons read _ ih =>
      rw [List.map_cons, List.flatten_cons, List.flatten_append, ih, read.batched]
      rfl

/-- Both passes decode the same records. -/
theorem decoded_eq_of_repeatable {write other : Bool}
    (repeatable : ∀ manifest ∈ manifests, Repeatable permits manifest)
    (earlier : List.Forall₂ (fun manifest part =>
      ReadPartition importer options permits write manifest part.1 part.2) manifests first)
    (later : List.Forall₂ (fun manifest part =>
      ReadPartition importer options permits other manifest part.1 part.2) manifests second) :
    (first.map Prod.fst).flatMap (ImportTrace.decoded (F := F) importer) =
      (second.map Prod.fst).flatMap (ImportTrace.decoded importer) := by
  induction earlier generalizing second with
  | nil =>
      cases later
      rfl
  | @cons manifest part _ _ read _ ih =>
      cases later with
      | @cons _ again _ _ reread rest =>
          obtain ⟨found, verifies⟩ := read.verifies
          obtain ⟨refound, reverifies⟩ := reread.verifies
          have same : part.1.2.items.flatten = again.1.2.items.flatten :=
            repeatable manifest (by simp) part.1.2 again.1.2 read.permitted reread.permitted
              read.complete reread.complete verifies.sha256 reverifies.sha256
          rw [List.map_cons, List.map_cons, List.flatMap_cons, List.flatMap_cons,
            ih (fun other member => repeatable other (by simp [member])) rest, ImportTrace.decoded,
            ImportTrace.decoded, same]

/-- A complete first pass verifies the partitions. -/
theorem Passed.verified {write : Bool}
    (passed : Passed importer options permits write manifests {} trace parts) :
    trace.Verified importer manifests := by
  have lengths := passed.partitions.length_eq
  rw [ImportTrace.Verified, passed.reads_eq, List.nil_append, lengths, ← List.length_map Prod.fst,
    List.take_length, List.forall₂_map_right_iff]
  apply passed.partitions.imp
  exact fun manifest part read => ⟨read.reference, read.complete, read.verifies⟩

/-- Reporting a finalized import. -/
theorem runs_reportImport (cooperative : Cooperative permits fails) {targetFingerprint : Str}
    (valid : isSha256 targetFingerprint = true) :
    Runs importer manifest.partitions permits fails
      (reportImport manifest (manifest.partitions.map resultOf) targetFingerprint)
      (fun report after => after = trace ∧ report.exportDigest = manifest.digest ∧
        report.partitions = manifest.partitions.map resultOf) trace := by
  obtain ⟨comparisonDigest, digestEq⟩ : ∃ digest, sha256Digest (comparisonMaterial manifest.digest
      targetFingerprint (manifest.partitions.map resultOf)) = .ok digest :=
    ⟨_, sha256Digest_of_encodable (encodable_comparisonMaterial manifest valid)⟩
  have comparisonValid : isSha256 comparisonDigest = true := isSha256_of_sha256Digest digestEq
  have unique : ((manifest.partitions.map resultOf).map (·.partitionId)).Nodup := by
    rw [List.map_map]
    exact manifest.partitions_nodup
  have reportEq : ImportReport.make manifest.digest targetFingerprint
      (manifest.partitions.map resultOf) comparisonDigest =
        .ok ⟨manifest.digest, targetFingerprint, manifest.partitions.map resultOf,
          comparisonDigest⟩ := by
    rw [ImportReport.make, requireSha256, if_pos (isSha256_of_sha256Digest manifest.digest_eq),
      requireSha256, if_pos valid, requireSha256, if_pos comparisonValid]
    exact if_pos unique
  rw [reportImport, digestEq]
  apply runs_bind
  apply runs_pure
  rw [reportEq]
  apply runs_bind
  apply runs_pure
  apply runs_bind
  apply runs_request cooperative .clock rfl trivial
  intro now _ aware
  apply runs_bind
  apply runs_lift
  · intro error evidenceEq
    rcases aware with mayFail | isAware
    · exact mayFail
    · obtain ⟨evidence, made⟩ := isOk_importEvidence manifest valid comparisonValid isAware
      rw [evidenceEq] at made
      cases made
  intro evidence _
  apply runs_bind
  apply runs_request cooperative (.record evidence) rfl trivial
  intro _ _ _
  exact runs_pure ⟨rfl, rfl, rfl⟩

/-- What a finished import has done. -/
structure Imported (importer : Importer) (options : ImportOptions)
    (permits : (hook : ImportHook F) → hook.Response → Prop) (manifest : LogicalExportV1 F)
    (report : ImportReport) (trace : ImportTrace F) : Prop where
  finalized : trace.finalized = true
  exportDigest_eq : report.exportDigest = manifest.digest
  partitions_eq : report.partitions = manifest.partitions.map resultOf
  written : ∃ parts, trace.written = (parts.map Prod.snd).flatten ∧
    List.Forall₂ (fun manifest part =>
      ReadPartition importer options permits true manifest part.1 part.2) manifest.partitions parts

/-- The whole import. -/
theorem runs_importExport (cooperative : Cooperative permits fails)
    (sized : fails ∨ 1 ≤ options.batchSize ∧ options.batchSize ≤ 10000)
    (faithful : ∀ partition ∈ manifest.partitions, Faithful importer permits fails partition)
    (repeatable : ∀ partition ∈ manifest.partitions, Repeatable permits partition) :
    Runs importer manifest.partitions permits fails (importExport importer options manifest)
      (Imported importer options permits manifest) {} := by
  apply runs_bind
  apply runs_refuse
  · intro outside
    rcases sized with mayFail | inside
    · exact mayFail
    · omega
  intro notOutside
  have positive : 1 ≤ options.batchSize := by omega
  apply runs_bind
  apply runs_raiseIfCancelled cooperative
  apply runs_bind
  have notYet : Ready importer manifest.partitions false ({} : ImportTrace F) := by
    intro isWrite
    cases isWrite
  apply runs_mono (runs_readAll cooperative notYet positive faithful)
  rintro _ first ⟨rfl, parts, passed⟩
  apply runs_bind
  apply runs_request cooperative (.preflight manifest.metadata options.policy) rfl passed.verified
  intro _ _ _
  apply runs_bind
  have asked : (first.after (.preflight manifest.metadata options.policy) (.ok ())).preflighted =
      true := Bool.or_true _
  have ready : Ready importer manifest.partitions true
      (first.after (.preflight manifest.metadata options.policy) (.ok ())) :=
    fun _ => ⟨passed.verified, asked⟩
  apply runs_mono (runs_readAll cooperative ready positive faithful)
  rintro _ second ⟨rfl, again, repassed⟩
  apply runs_bind
  apply runs_refuse
  · exact fun different => absurd rfl different
  intro _
  -- the second pass adds to the first one, so its reads come behind
  have firstReads : first.reads = parts.map Prod.fst := by
    rw [passed.reads_eq, List.nil_append]
  have readsEq : second.reads = parts.map Prod.fst ++ again.map Prod.fst := by
    rw [repassed.reads_eq, ← firstReads]
    rfl
  have writtenEq : second.written = (again.map Prod.snd).flatten := by
    have nothing : first.written = [] := by
      rw [passed.written_eq, batches_of_not_write passed.partitions, List.nil_append]
    rw [repassed.written_eq]
    change first.written ++ _ = _
    rw [nothing, List.nil_append]
  have count : manifest.partitions.length = (parts.map Prod.fst).length := by
    rw [List.length_map, passed.partitions.length_eq]
  have verified : second.Verified importer manifest.partitions := by
    have before := passed.verified
    rw [ImportTrace.Verified, firstReads] at before
    rw [ImportTrace.Verified, readsEq, List.take_append_of_le_length count.le]
    exact before
  have sameRecords : second.written.flatten = second.firstRecords importer manifest.partitions := by
    rw [writtenEq, batches_of_write repassed.partitions, ImportTrace.firstRecords, readsEq, count,
      List.take_left]
    exact (decoded_eq_of_repeatable repeatable passed.partitions repassed.partitions).symm
  apply runs_bind
  apply runs_request cooperative (.finalize manifest) rfl
    ⟨verified, repassed.preflighted_eq.trans asked, sameRecords⟩
  intro fingerprint _ accepted
  apply runs_bind
  apply runs_refuse
  · intro invalid
    rcases accepted with mayFail | valid
    · exact mayFail
    · exact absurd (valid.symm.trans invalid) (by decide)
  intro notInvalid
  have fingerprintValid : isSha256 fingerprint = true := Bool.eq_true_of_not_eq_false notInvalid
  apply runs_mono (runs_reportImport cooperative fingerprintValid)
  rintro report _ ⟨rfl, exportDigestEq, partitionsEq⟩
  exact ⟨rfl, exportDigestEq, partitionsEq, again, writtenEq, repassed.partitions⟩

end Whole

/-- Every complete read yields one of the given contents. -/
def YieldsFrom (contents : Set Bytes) : (hook : ImportHook F) → hook.Response → Prop
  | .chunks _, .ok stream => stream.failure = none → stream.items.flatten ∈ contents
  | _, _ => True

/-- Whatever its hooks answer, where no two of the contents that are read collide, the
whole import makes only the calls that verify-before-effect allows, and it returns
only after finalizing. -/
theorem verify_before_effect (importer : Importer) (options : ImportOptions)
    (manifest : LogicalExportV1 F) (contents : Set Bytes)
    (collisionFree : Set.InjOn sha256Hex contents) :
    (importExport importer options manifest).Safe
      (fun before hook response after =>
        after = before.after hook response ∧ YieldsFrom contents hook response)
      (ImportTrace.Allows importer manifest.partitions)
      (fun _ _ after => after.finalized = true) (fun _ _ _ => True) () {} := by
  have repeatable : ∀ partition ∈ manifest.partitions,
      Repeatable (F := F) (YieldsFrom contents) partition := by
    intro partition _ first second yielded reyielded complete recomplete digest redigest
    apply collisionFree (yielded complete) (reyielded recomplete)
    exact List.append_cancel_left (digest.trans redigest.symm)
  have runs : Runs importer manifest.partitions (YieldsFrom contents) True
      (importExport importer options manifest)
      (Imported importer options (YieldsFrom contents) manifest) {} :=
    runs_importExport (fun _ _ _ _ => .inl trivial) (.inl trivial)
      (fun _ _ _ _ => .inl trivial) repeatable
  exact runs_mono runs fun report after imported => imported.finalized

/-- An order with one object reference. -/
def sampleRecord : LogicalRecord Empty where
  catalog := str "structured"
  space := str "shop"
  resource := str "orders"
  schemaRef := str "order@1"
  logicalId := str "order-1"
  version := .inr 7
  values := [(str "total", .int 42), (str "note", .str (str "paid"))]
  objectReferences := [[(str "digest", .str (str "sha256:aa"))]]
  valid := ⟨by decide, by decide, by decide, by decide, by decide +kernel⟩
  values_distinct := ⟨by decide +kernel, trivial, trivial, trivial⟩
  references_distinct := by
    intro reference member
    rw [List.mem_singleton.mp member]
    exact ⟨by decide +kernel, trivial, trivial⟩

/-- The artifact of a partition with that record. -/
def sampleContent : Bytes := sampleRecord.line.toOption.getD [] ++ [10]

/-- An export of one partition. -/
def sampleExport : LogicalExportV1 Empty where
  metadata := ⟨[], [], [], [], by simp⟩
  boundary := ⟨str "boundary-1", .consistentBoundary, str "w1", str "w1", by decide, by decide⟩
  partitions := [{
    partitionId := str "orders-0"
    artifactRef := str
      "logical://orders-0/a270b1153b56e12dd1173eebeaa6c5c7851729eb4cc6fbbd8efee8b715cac9ac"
    count := 1
    bytes := 200
    minimumLogicalId := some (str "order-1")
    maximumLogicalId := some (str "order-1")
    sha256 := str "sha256:a270b1153b56e12dd1173eebeaa6c5c7851729eb4cc6fbbd8efee8b715cac9ac"
    valid := ⟨by decide, by decide, by decide, by decide, by rintro _ _ ⟨⟩ ⟨⟩; rfl,
      by decide +kernel⟩ }]
  exportId := str "export-1"
  createdAt := ⟨1000000, by decide⟩
  digest := str "sha256:dbfb7f59393dc35556da64fb947f59833b30be257a7e1a767d899f81b95ca32f"
  exportId_ne := by decide
  partitions_nodup := by decide
  digest_eq := by decide +kernel

/-- The artifact may be emptied between the two reads. -/
theorem verify_before_effect_emptied :
    (importExport ⟨1024, true, by decide⟩ {} sampleExport).Safe
      (fun before hook response after => after = before.after hook response ∧
        YieldsFrom {sampleContent, []} hook response)
      (ImportTrace.Allows ⟨1024, true, by decide⟩ sampleExport.partitions)
      (fun _ _ after => after.finalized = true) (fun _ _ _ => True) () {} := by
  apply verify_before_effect
  rw [Set.injOn_pair]
  intro collides
  exact absurd collides (by decide +kernel)

end Importing

end DataLifecycle.Portability
