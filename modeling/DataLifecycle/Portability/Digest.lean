import DataLifecycle.ContentDigest
import DataLifecycle.Portability.VerifyBeforeEffect
import DataLifecycle.Timestamp

/-!
# The digest of a logical export

The digest of a `LogicalExportV1` covers its metadata, its boundary, every partition, its id and
its time.  Two exports have the same digest exactly if they have the same content, and the
constructor accepts fields under a recorded digest exactly if they are the recorded content.
-/

namespace DataLifecycle.Portability

open Python

variable {F : Type}

/-! ## The mappings of a manifest -/

theorem ExportConsistency.value_injective : Function.Injective ExportConsistency.value := by
  intro first second equal
  cases first <;> cases second <;> first | rfl | exact absurd equal (by decide)

theorem boundaryKeys_nodup :
    [str "boundaryId", str "consistency", str "startWatermark", str "endWatermark"].Nodup := by
  decide

/-- The mapping of a boundary covers each of its fields. -/
theorem ExportBoundary.same_toMapping_iff {first second : ExportBoundary} :
    (first.toMapping : Json F).Same second.toMapping ↔ first = second := by
  unfold toMapping
  refine (Json.same_object_iff ?_ ?_).trans ?_
  · simp only [List.map_cons, List.map_nil]
  · exact boundaryKeys_nodup
  · obtain ⟨boundaryId, consistency, startWatermark, endWatermark, _, _⟩ := first
    obtain ⟨otherId, otherConsistency, otherStart, otherEnd, _, _⟩ := second
    simp only [List.forall₂_cons, List.forall₂_nil_left_iff, Json.same_str_iff,
      ExportConsistency.value_injective.eq_iff, and_true, ExportBoundary.mk.injEq]

theorem same_optionalText_iff {first second : Option Str} :
    (optionalText first : Json F).Same (optionalText second) ↔ first = second := by
  cases first <;> cases second <;> simp [optionalText, Json.Same]

theorem partitionKeys_nodup : [str "partitionId", str "artifactRef", str "count", str "bytes",
    str "minimumLogicalId", str "maximumLogicalId", str "sha256"].Nodup := by
  decide

/-- The mapping of a partition covers each of its fields. -/
theorem PartitionManifest.same_toMapping_iff {first second : PartitionManifest} :
    (first.toMapping : Json F).Same second.toMapping ↔ first = second := by
  unfold toMapping
  refine (Json.same_object_iff ?_ ?_).trans ?_
  · simp only [List.map_cons, List.map_nil]
  · exact partitionKeys_nodup
  · obtain ⟨partitionId, artifactRef, count, bytes, minimum, maximum, sha256, _⟩ := first
    obtain ⟨otherId, otherRef, otherCount, otherBytes, otherMinimum, otherMaximum, otherSha256, _⟩ :=
      second
    simp only [List.forall₂_cons, List.forall₂_nil_left_iff, Json.same_str_iff, Json.same_int_iff,
      same_optionalText_iff, Nat.cast_inj, and_true, PartitionManifest.mk.injEq]

theorem PartitionManifest.distinctKeys_toMapping (manifest : PartitionManifest) :
    (manifest.toMapping : Json F).DistinctKeys := by
  refine ⟨partitionKeys_nodup, trivial, trivial, trivial, trivial, ?_, ?_, trivial, trivial⟩
  · cases manifest.minimumLogicalId <;> trivial
  · cases manifest.maximumLogicalId <;> trivial

namespace ExportMetadata

/-- The mappings of the metadata have distinct keys, as `immutable_mapping` leaves them. -/
structure Frozen (metadata : ExportMetadata F) : Prop where
  namespaces : ∀ item ∈ metadata.namespaces, (Json.object item).DistinctKeys
  schemas : ∀ item ∈ metadata.schemas, (Json.object item).DistinctKeys
  resources : ∀ item ∈ metadata.resources, (Json.object item).DistinctKeys
  extensions : (Json.object metadata.extensions).DistinctKeys

/-- The metadata is the same item by item, mappings up to the order of their members. -/
structure SameContent (first second : ExportMetadata F) : Prop where
  namespaces : List.Forall₂ (fun one other => (Json.object one).Same (.object other))
    first.namespaces second.namespaces
  schemas : List.Forall₂ (fun one other => (Json.object one).Same (.object other))
    first.schemas second.schemas
  resources : List.Forall₂ (fun one other => (Json.object one).Same (.object other))
    first.resources second.resources
  extensions : (Json.object first.extensions).Same (.object second.extensions)

theorem keys_nodup : [str "namespaces", str "schemas", str "resources", str "extensions"].Nodup := by
  decide

theorem same_toMapping_iff {first second : ExportMetadata F} :
    first.toMapping.Same second.toMapping ↔ first.SameContent second := by
  unfold toMapping
  refine (Json.same_object_iff ?_ ?_).trans ?_
  · simp only [List.map_cons, List.map_nil]
  · exact keys_nodup
  · simp only [List.forall₂_cons, List.forall₂_nil_left_iff, Json.same_array_map_iff, and_true]
    constructor
    · rintro ⟨namespaces, schemas, resources, extensions⟩
      exact ⟨namespaces, schemas, resources, extensions⟩
    · rintro ⟨namespaces, schemas, resources, extensions⟩
      exact ⟨namespaces, schemas, resources, extensions⟩

theorem Frozen.distinctKeys_toMapping {metadata : ExportMetadata F} (frozen : metadata.Frozen) :
    metadata.toMapping.DistinctKeys :=
  ⟨keys_nodup, Json.distinctKeysItems_map_iff.mpr frozen.namespaces,
    Json.distinctKeysItems_map_iff.mpr frozen.schemas,
    Json.distinctKeysItems_map_iff.mpr frozen.resources, frozen.extensions, trivial⟩

end ExportMetadata

/-! ## The digest -/

variable [FloatText F]

namespace LogicalExportV1

/-- `_digest_material`. -/
def digestMaterial (manifest : LogicalExportV1 F) : Json F :=
  exportMaterial manifest.metadata manifest.boundary manifest.partitions manifest.exportId
    manifest.createdAt

/-- Two exports have the same content. -/
structure SameContent (first second : LogicalExportV1 F) : Prop where
  metadata : first.metadata.SameContent second.metadata
  boundary : first.boundary = second.boundary
  partitions : first.partitions = second.partitions
  exportId : first.exportId = second.exportId
  createdAt : first.createdAt = second.createdAt

omit [FloatText F] in
theorem materialKeys_nodup : [str "formatVersion", str "exportId", str "createdAt", str "metadata",
    str "boundary", str "partitions"].Nodup := by
  decide

/-- The digest material covers the content. -/
theorem same_digestMaterial_iff {first second : LogicalExportV1 F} :
    first.digestMaterial.Same second.digestMaterial ↔ first.SameContent second := by
  unfold digestMaterial exportMaterial
  refine (Json.same_object_iff ?_ ?_).trans ?_
  · simp only [List.map_cons, List.map_nil]
  · exact materialKeys_nodup
  · simp only [List.forall₂_cons, List.forall₂_nil_left_iff, Json.same_str_iff,
      ExportMetadata.same_toMapping_iff, ExportBoundary.same_toMapping_iff,
      Json.same_array_map_iff_eq fun _ _ => PartitionManifest.same_toMapping_iff,
      rfc3339_injective.eq_iff, true_and, and_true]
    constructor
    · rintro ⟨exportId, createdAt, metadata, boundary, partitions⟩
      exact ⟨metadata, boundary, partitions, exportId, createdAt⟩
    · rintro ⟨metadata, boundary, partitions, exportId, createdAt⟩
      exact ⟨exportId, createdAt, metadata, boundary, partitions⟩

theorem distinctKeys_digestMaterial {manifest : LogicalExportV1 F}
    (frozen : manifest.metadata.Frozen) : manifest.digestMaterial.DistinctKeys :=
  ⟨materialKeys_nodup, trivial, trivial, trivial, frozen.distinctKeys_toMapping,
    ⟨boundaryKeys_nodup, trivial, trivial, trivial, trivial, trivial⟩,
    Json.distinctKeysItems_map_iff.mpr fun partition _ => partition.distinctKeys_toMapping,
    trivial⟩

/-- Digests agree exactly on the same content. -/
theorem digest_eq_iff {first second : LogicalExportV1 F} (firstFrozen : first.metadata.Frozen)
    (secondFrozen : second.metadata.Frozen)
    (collisionFree :
      Outbox.CollisionFree first.digestMaterial.toPy second.digestMaterial.toPy) :
    first.digest = second.digest ↔ first.SameContent second := by
  rw [← same_digestMaterial_iff]
  exact sha256Digest_eq_iff_same (distinctKeys_digestMaterial firstFrozen)
    (distinctKeys_digestMaterial secondFrozen) first.digest_eq second.digest_eq collisionFree

end LogicalExportV1

/-! ## Loading a manifest -/

/-- The arguments of the constructor of `LogicalExportV1`. -/
structure ExportArguments (F : Type) where
  metadata : ExportMetadata F
  boundary : ExportBoundary
  partitions : List PartitionManifest
  exportId : Str
  createdAt : DateTime
  digest : Str := []
  formatVersion : Str := logicalExportFormatVersion

/-- The error for content that is not what the digest says. -/
def digestMismatch : Exc :=
  .valueError "logical export digest does not match canonical content"

/-- The constructor of `LogicalExportV1`. -/
def LogicalExportV1.construct (arguments : ExportArguments F) : Except Exc (LogicalExportV1 F) := do
  refuse (arguments.formatVersion ≠ logicalExportFormatVersion)
    (.valueError "format_version must be %r" [logicalExportFormatVersion])
  let manifest ← make arguments.metadata arguments.boundary arguments.partitions arguments.exportId
    arguments.createdAt
  refuse (arguments.digest ≠ [] ∧ arguments.digest ≠ manifest.digest) digestMismatch
  pure manifest

namespace LogicalExportV1

/-- The fields of an export under a digest, as arguments. -/
def argumentsUnder (manifest : LogicalExportV1 F) (digest : Str) : ExportArguments F where
  metadata := manifest.metadata
  boundary := manifest.boundary
  partitions := manifest.partitions
  exportId := manifest.exportId
  createdAt := .ofUtc manifest.createdAt
  digest := digest

/-- The fields of an export make the export again. -/
theorem make_fields (manifest : LogicalExportV1 F) :
    make manifest.metadata manifest.boundary manifest.partitions manifest.exportId
      (.ofUtc manifest.createdAt) = .ok manifest := by
  have created : ensureUtc "created_at" (.ofUtc manifest.createdAt) = .ok manifest.createdAt := by
    rw [ensureUtc, DateTime.toUtc_ofUtc]
  unfold make
  rw [dif_neg manifest.exportId_ne, dif_pos manifest.partitions_nodup, created]
  simp only [bind, Except.bind]
  split
  next digest digested =>
    have sameDigest : digest = manifest.digest :=
      Except.ok.inj (digested.symm.trans manifest.digest_eq)
    subst sameDigest
    rfl
  next error failed =>
    rw [manifest.digest_eq] at failed
    cases failed

/-- Under a recorded digest the constructor compares it with the digest of the fields. -/
theorem construct_argumentsUnder (manifest : LogicalExportV1 F) {digest : Str}
    (recorded : digest ≠ []) :
    construct (manifest.argumentsUnder digest) =
      if digest = manifest.digest then .ok manifest else .error digestMismatch := by
  have known : (manifest.argumentsUnder digest).formatVersion = logicalExportFormatVersion := rfl
  rw [construct, refuse, if_neg (not_not.mpr known)]
  have made : make (manifest.argumentsUnder digest).metadata
      (manifest.argumentsUnder digest).boundary (manifest.argumentsUnder digest).partitions
      (manifest.argumentsUnder digest).exportId (manifest.argumentsUnder digest).createdAt =
        .ok manifest :=
    manifest.make_fields
  show (make _ _ _ _ _ >>= _) = _
  rw [made]
  show (refuse (digest ≠ [] ∧ digest ≠ manifest.digest) digestMismatch >>= fun _ => pure manifest) = _
  by_cases same : digest = manifest.digest
  · rw [if_pos same, refuse, if_neg fun both => both.2 same]
    rfl
  · rw [if_neg same, refuse, if_pos ⟨recorded, same⟩]
    rfl

theorem digest_ne (manifest : LogicalExportV1 F) : manifest.digest ≠ [] := by
  intro empty
  have form := isSha256_of_sha256Digest manifest.digest_eq
  rw [empty] at form
  exact absurd form (by decide)

end LogicalExportV1

/-- The digest of an export binds its content: two exports have the same digest exactly when their
metadata, boundary, partitions, id and time are the same, an export is loaded from its own fields
under its own digest, and other fields are loaded under that digest exactly when they are the same
content, and otherwise refused for the mismatch. -/
theorem export_digest_binds (first second : LogicalExportV1 F) (firstFrozen : first.metadata.Frozen)
    (secondFrozen : second.metadata.Frozen)
    (collisionFree :
      Outbox.CollisionFree first.digestMaterial.toPy second.digestMaterial.toPy) :
    (first.digest = second.digest ↔ first.SameContent second) ∧
      LogicalExportV1.construct (first.argumentsUnder first.digest) = .ok first ∧
      (LogicalExportV1.construct (second.argumentsUnder first.digest) = .ok second ↔
        first.SameContent second) ∧
      (LogicalExportV1.construct (second.argumentsUnder first.digest) = .error digestMismatch ↔
        ¬ first.SameContent second) := by
  have binds := LogicalExportV1.digest_eq_iff firstFrozen secondFrozen collisionFree
  have own := first.construct_argumentsUnder first.digest_ne
  have other := second.construct_argumentsUnder first.digest_ne
  refine ⟨binds, own.trans (if_pos rfl), ?_⟩
  rw [other, ← binds]
  by_cases same : first.digest = second.digest
  · simp [same]
  · simp [same]

/-- The sample export under another id. -/
def renamedExport : LogicalExportV1 Empty :=
  { Importing.sampleExport with
    exportId := str "export-2"
    digest := str "sha256:4f42e18f4579af51218f85061d061c8028e76a9aa8677975c9d4900817cf1567"
    exportId_ne := by decide
    digest_eq := by decide +kernel }

theorem sampleExport_frozen : Importing.sampleExport.metadata.Frozen := by
  constructor
  · rintro _ ⟨⟩
  · rintro _ ⟨⟩
  · rintro _ ⟨⟩
  · exact ⟨List.nodup_nil, trivial⟩

/-- The renamed export is not loaded under the digest of the sample export. -/
theorem export_digest_binds_renamed :
    LogicalExportV1.construct (renamedExport.argumentsUnder Importing.sampleExport.digest) =
      .error digestMismatch := by
  have differ : Importing.sampleExport.digest ≠ renamedExport.digest := by decide +kernel
  have distinct := LogicalExportV1.distinctKeys_digestMaterial sampleExport_frozen
  have renamedDistinct : renamedExport.digestMaterial.DistinctKeys :=
    LogicalExportV1.distinctKeys_digestMaterial sampleExport_frozen
  obtain ⟨binds, -, -, refused⟩ := export_digest_binds Importing.sampleExport renamedExport
    sampleExport_frozen sampleExport_frozen
    (collisionFree_of_ne distinct renamedDistinct Importing.sampleExport.digest_eq
      renamedExport.digest_eq differ)
  exact refused.mpr fun same => differ (binds.mpr same)

end DataLifecycle.Portability
