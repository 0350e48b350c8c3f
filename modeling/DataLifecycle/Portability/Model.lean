import DataLifecycle.Evidence
import DataLifecycle.Outbox.Model

/-!
# Logical export and import models

The frozen dataclasses of logical portability.  Each structure carries the
checks of its `__post_init__` as fields, and `make` is the constructor with its
error paths.
-/

namespace DataLifecycle.Portability

open Python

variable {F : Type}

/-- The format tag of a logical export. -/
def logicalExportFormatVersion : Str := str "meridian.logical-export.v1"

/-- The Catalogs that can be exported. -/
def exportCatalogs : List Str := Outbox.catalogNames.filter (· ≠ str "cache")

/-- `ExportConsistency`. -/
inductive ExportConsistency
  | consistentBoundary
  | liveRead
  deriving DecidableEq

def ExportConsistency.value : ExportConsistency → Str
  | .consistentBoundary => str "consistent-boundary"
  | .liveRead => str "live-read"

/-- `MergePolicy`. -/
inductive MergePolicy
  | requireEmpty
  | preserveNewer
  | replace
  deriving DecidableEq

/-! ## Records -/

/-- The checks on the identity of a record. -/
structure ValidIdentity (catalog space resource schemaRef logicalId : Str) : Prop where
  space_ne : space ≠ []
  resource_ne : resource ≠ []
  schemaRef_ne : schemaRef ≠ []
  logicalId_ne : logicalId ≠ []
  catalog_mem : catalog ∈ exportCatalogs

/-- `LogicalRecord`; `space` is its `namespace`. -/
structure LogicalRecord (F : Type) where
  catalog : Str
  space : Str
  resource : Str
  schemaRef : Str
  logicalId : Str
  version : Str ⊕ Int
  values : List (Str × Json F)
  objectReferences : List (List (Str × Json F)) := []
  valid : ValidIdentity catalog space resource schemaRef logicalId
  values_distinct : (Json.object values).DistinctKeys
  references_distinct : ∀ reference ∈ objectReferences, (Json.object reference).DistinctKeys

namespace LogicalRecord

/-- The JSON value of a version. -/
def versionJson : Str ⊕ Int → Json F
  | .inl text => .str text
  | .inr number => .int number

/-- `to_mapping`. -/
def toMapping (record : LogicalRecord F) : Json F :=
  .object [
    (str "catalog", .str record.catalog),
    (str "namespace", .str record.space),
    (str "resource", .str record.resource),
    (str "schemaRef", .str record.schemaRef),
    (str "logicalId", .str record.logicalId),
    (str "version", versionJson record.version),
    (str "values", .object record.values),
    (str "objectReferences", .array (record.objectReferences.map .object))]

/-- Freeze the object references one by one. -/
def freezeReferences : List (List (PyValue F × PyValue F)) →
    Except Exc { references : List (List (Str × Json F)) //
      ∀ reference ∈ references, (Json.object reference).DistinctKeys }
  | [] => .ok ⟨[], by simp⟩
  | items :: rest => do
      let reference ← immutableMapping items
      let references ← freezeReferences rest
      return ⟨reference.val :: references.val, by
        rintro other (_ | ⟨_, member⟩)
        · exact reference.property
        · exact references.property other member⟩

/-- The constructor, with its checks in order. -/
def make (catalog space resource schemaRef logicalId : Str) (version : Str ⊕ Int)
    (values : List (PyValue F × PyValue F)) (references : List (List (PyValue F × PyValue F))) :
    Except Exc (LogicalRecord F) :=
  if catalog = [] then .error (.valueError "%s must be non-empty" [str "catalog"])
  else if spaceNe : space = [] then .error (.valueError "%s must be non-empty" [str "namespace"])
  else if resourceNe : resource = [] then
    .error (.valueError "%s must be non-empty" [str "resource"])
  else if schemaRefNe : schemaRef = [] then
    .error (.valueError "%s must be non-empty" [str "schema_ref"])
  else if logicalIdNe : logicalId = [] then
    .error (.valueError "%s must be non-empty" [str "logical_id"])
  else if catalog = str "cache" then
    .error (.valueError "cache state is excluded from logical export")
  else if known : catalog ∈ exportCatalogs then do
    let values ← immutableMapping values
    let references ← freezeReferences references
    return {
      catalog := catalog
      space := space
      resource := resource
      schemaRef := schemaRef
      logicalId := logicalId
      version := version
      values := values.val
      objectReferences := references.val
      valid := ⟨spaceNe, resourceNe, schemaRefNe, logicalIdNe, known⟩
      values_distinct := values.property
      references_distinct := references.property }
  else .error (.valueError "unknown export Catalog %r" [catalog])

/-- The items of a sequence of mappings. -/
def mappings : List (PyValue F) → Option (List (List (PyValue F × PyValue F)))
  | [] => some []
  | .mapping items :: rest => (mappings rest).map (items :: ·)
  | _ :: _ => none

/-- A version that is a string or a non-boolean integer. -/
def versionOf : Option (PyValue F) → Option (Str ⊕ Int)
  | some (.str text) => some (.inl text)
  | some (.int number) => some (.inr number)
  | _ => none

/-- `from_mapping`. -/
def fromMapping (items : List (PyValue F × PyValue F)) : Except Exc (LogicalRecord F) :=
  let referencesError : Exc := .valueError "objectReferences must be an array of mappings"
  match getMember (str "objectReferences") items with
  | some (.sequence references) =>
      match mappings references with
      | some references =>
          match getMember (str "values") items with
          | some (.mapping values) =>
              match versionOf (getMember (str "version") items) with
              | some version =>
                  match textOf (getMember (str "catalog") items),
                      textOf (getMember (str "namespace") items),
                      textOf (getMember (str "resource") items),
                      textOf (getMember (str "schemaRef") items),
                      textOf (getMember (str "logicalId") items) with
                  | some catalog, some space, some resource, some schemaRef, some logicalId =>
                      make catalog space resource schemaRef logicalId version values references
                  | _, _, _, _, _ =>
                      .error (.valueError "logical Record identity fields must be strings")
              | none =>
                  .error (.valueError "logical Record version must be a string or integer")
          | _ => .error (.valueError "logical Record values must be a mapping")
      | none => .error referencesError
  | _ => .error referencesError

end LogicalRecord

/-! ## Manifests -/

/-- `ExportBoundary`. -/
structure ExportBoundary where
  boundaryId : Str
  consistency : ExportConsistency
  startWatermark : Str
  endWatermark : Str
  nonempty : boundaryId ≠ [] ∧ startWatermark ≠ [] ∧ endWatermark ≠ []
  consistent : consistency = .consistentBoundary → startWatermark = endWatermark

/-- `ExportBoundary.to_mapping`. -/
def ExportBoundary.toMapping (boundary : ExportBoundary) : Json F :=
  .object [
    (str "boundaryId", .str boundary.boundaryId),
    (str "consistency", .str boundary.consistency.value),
    (str "startWatermark", .str boundary.startWatermark),
    (str "endWatermark", .str boundary.endWatermark)]

/-- The Catalog of a Resource mapping is absent, null or one that can be exported. -/
def ExportableResource (resource : List (Str × Json F)) : Prop :=
  ∀ catalog, Dict.lookup (str "catalog") resource = some catalog →
    catalog = .null ∨ ∃ name ∈ exportCatalogs, catalog = .str name

/-- `ExportMetadata`. -/
structure ExportMetadata (F : Type) where
  namespaces : List (List (Str × Json F))
  schemas : List (List (Str × Json F))
  resources : List (List (Str × Json F))
  extensions : List (Str × Json F) := []
  exportable : ∀ resource ∈ resources, ExportableResource resource

/-- `ExportMetadata.to_mapping`. -/
def ExportMetadata.toMapping (metadata : ExportMetadata F) : Json F :=
  .object [
    (str "namespaces", .array (metadata.namespaces.map .object)),
    (str "schemas", .array (metadata.schemas.map .object)),
    (str "resources", .array (metadata.resources.map .object)),
    (str "extensions", .object metadata.extensions)]

/-- The checks of `PartitionManifest`. -/
structure ValidManifest (partitionId artifactRef : Str) (count bytes : Nat)
    (minimum maximum : Option Str) (sha256 : Str) : Prop where
  partitionId_ne : partitionId ≠ []
  artifactRef_ne : artifactRef ≠ []
  empty : count = 0 → minimum = none ∧ maximum = none
  bounded : 0 < count → minimum.isSome ∧ maximum.isSome ∧ 0 < bytes
  ordered : ∀ low high, minimum = some low → maximum = some high → low ≤ high
  sha256 : isSha256 sha256 = true

/-- `PartitionManifest`. -/
structure PartitionManifest where
  partitionId : Str
  artifactRef : Str
  count : Nat
  bytes : Nat
  minimumLogicalId : Option Str
  maximumLogicalId : Option Str
  sha256 : Str
  valid : ValidManifest partitionId artifactRef count bytes minimumLogicalId maximumLogicalId sha256

/-- The JSON value of an optional text. -/
def optionalText : Option Str → Json F
  | none => .null
  | some text => .str text

/-- `PartitionManifest.to_mapping`. -/
def PartitionManifest.toMapping (manifest : PartitionManifest) : Json F :=
  .object [
    (str "partitionId", .str manifest.partitionId),
    (str "artifactRef", .str manifest.artifactRef),
    (str "count", .int manifest.count),
    (str "bytes", .int manifest.bytes),
    (str "minimumLogicalId", optionalText manifest.minimumLogicalId),
    (str "maximumLogicalId", optionalText manifest.maximumLogicalId),
    (str "sha256", .str manifest.sha256)]

/-- The constructor of `PartitionManifest`, with its checks in order. -/
def PartitionManifest.make (partitionId artifactRef : Str) (count bytes : Nat)
    (minimum maximum : Option Str) (sha256 : Str) : Except Exc PartitionManifest :=
  if identified : partitionId = [] ∨ artifactRef = [] then
    .error (.valueError "partition identity and artifact reference must be non-empty")
  else if empty : count = 0 ∧ (minimum ≠ none ∨ maximum ≠ none) then
    .error (.valueError "empty partitions cannot have logical id bounds")
  else if bounded : 0 < count ∧ (minimum = none ∨ maximum = none) then
    .error (.valueError "non-empty partitions require logical id bounds")
  else if sized : 0 < count ∧ bytes = 0 then
    .error (.valueError "non-empty partitions require non-zero bytes")
  else if ordered : ∃ low ∈ minimum, ∃ high ∈ maximum, high < low then
    .error (.valueError "partition logical id bounds are reversed")
  else if digest : isSha256 sha256 = true then
    .ok ⟨partitionId, artifactRef, count, bytes, minimum, maximum, sha256, by
      constructor
      · exact fun missing => identified (.inl missing)
      · exact fun missing => identified (.inr missing)
      · intro isZero
        by_contra present
        exact empty ⟨isZero, not_and_or.mp present⟩
      · intro positive
        refine ⟨?_, ?_, ?_⟩
        · rw [Option.isSome_iff_ne_none]
          exact fun missing => bounded ⟨positive, .inl missing⟩
        · rw [Option.isSome_iff_ne_none]
          exact fun missing => bounded ⟨positive, .inr missing⟩
        · exact Nat.pos_of_ne_zero fun missing => sized ⟨positive, missing⟩
      · intro low high lowEq highEq
        exact not_lt.mp fun reversed => ordered ⟨low, lowEq, high, highEq, reversed⟩
      · exact digest⟩
  else .error (.valueError "%s must use the sha256:<lowercase hex> form" [str "partition sha256"])

/-- The mapping covered by the digest of an export. -/
def exportMaterial (metadata : ExportMetadata F) (boundary : ExportBoundary)
    (partitions : List PartitionManifest) (exportId : Str) (createdAt : Utc) : Json F :=
  .object [
    (str "formatVersion", .str logicalExportFormatVersion),
    (str "exportId", .str exportId),
    (str "createdAt", .str (rfc3339 createdAt)),
    (str "metadata", metadata.toMapping),
    (str "boundary", boundary.toMapping),
    (str "partitions", .array (partitions.map (·.toMapping)))]

variable [FloatText F]

/-- `LogicalExportV1`. -/
structure LogicalExportV1 (F : Type) [FloatText F] where
  metadata : ExportMetadata F
  boundary : ExportBoundary
  partitions : List PartitionManifest
  exportId : Str
  createdAt : Utc
  digest : Str
  exportId_ne : exportId ≠ []
  partitions_nodup : (partitions.map (·.partitionId)).Nodup
  digest_eq : sha256Digest (exportMaterial metadata boundary partitions exportId createdAt) =
    .ok digest

/-- The constructor of `LogicalExportV1` without a given digest, with its checks in
order. -/
def LogicalExportV1.make (metadata : ExportMetadata F) (boundary : ExportBoundary)
    (partitions : List PartitionManifest) (exportId : Str) (createdAt : DateTime) :
    Except Exc (LogicalExportV1 F) :=
  if exportIdNe : exportId = [] then .error (.valueError "export_id must be non-empty")
  else if nodup : (partitions.map (·.partitionId)).Nodup then do
    let created ← ensureUtc "created_at" createdAt
    match digestEq : sha256Digest (exportMaterial metadata boundary partitions exportId created) with
    | .ok digest =>
        .ok ⟨metadata, boundary, partitions, exportId, created, digest, exportIdNe, nodup, digestEq⟩
    | .error error => .error error
  else .error (.valueError "partition ids must be unique")

/-- `ExportRequest`. -/
structure ExportRequest where
  resources : List Str
  batchSize : Nat := 500
  resources_valid : resources ≠ [] ∧ (∀ resource ∈ resources, resource ≠ []) ∧ resources.Nodup
  batchSize_valid : 1 ≤ batchSize ∧ batchSize ≤ 10000

/-- `PartitionImportResult`. -/
structure PartitionImportResult where
  partitionId : Str
  count : Nat
  bytes : Nat
  sha256 : Str
  deriving DecidableEq

/-- The constructor of `PartitionImportResult`. -/
def PartitionImportResult.make (partitionId : Str) (count bytes : Nat) (sha256 : Str) :
    Except Exc PartitionImportResult :=
  if partitionId = [] then .error (.valueError "partition import result fields are invalid")
  else do
    let digest ← requireSha256 "partition import sha256" sha256
    return ⟨partitionId, count, bytes, digest⟩

/-- `ImportReport`. -/
structure ImportReport where
  exportDigest : Str
  targetFingerprint : Str
  partitions : List PartitionImportResult
  comparisonDigest : Str

/-- The constructor of `ImportReport`, with its checks in order. -/
def ImportReport.make (exportDigest targetFingerprint : Str)
    (partitions : List PartitionImportResult) (comparisonDigest : Str) : Except Exc ImportReport := do
  let _ ← requireSha256 "export_digest" exportDigest
  let _ ← requireSha256 "target_fingerprint" targetFingerprint
  let _ ← requireSha256 "comparison_digest" comparisonDigest
  if (partitions.map (·.partitionId)).Nodup then
    return ⟨exportDigest, targetFingerprint, partitions, comparisonDigest⟩
  else .error (.valueError "import report partition ids must be unique")

/-- The mapping hashed into the comparison digest. -/
def comparisonMaterial (exportDigest targetFingerprint : Str)
    (results : List PartitionImportResult) : Json Empty :=
  .object [
    (str "exportDigest", .str exportDigest),
    (str "targetFingerprint", .str targetFingerprint),
    (str "partitions", .array (results.map fun item => .object [
      (str "partitionId", .str item.partitionId),
      (str "count", .int item.count),
      (str "bytes", .int item.bytes),
      (str "sha256", .str item.sha256)]))]

end DataLifecycle.Portability
