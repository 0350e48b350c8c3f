import DataLifecycle.Canonical
import Mathlib.Data.Prod.Lex

/-!
# Outbox wire and state models

The frozen dataclasses of the transactional outbox.  Each structure carries the
checks of its `__post_init__` as fields, so a value that exists has passed them.
-/

namespace DataLifecycle.Outbox

open Python

/-- The format tag of outbox data. -/
def formatVersion : Str := str "meridian.outbox.v1"

/-- The registered Catalog names. -/
def catalogNames : List Str :=
  [str "structured", str "object", str "cache", str "evidence", str "streaming"]

/-- `OutboxState`. -/
inductive OutboxState
  | pending
  | leased
  | completed
  | retryable
  | quarantined
  deriving DecidableEq

variable {F : Type}

/-- The JSON value of an optional source version. -/
def versionJson : Option Version → Json F
  | none => .null
  | some (.text value) => .str value
  | some (.number value) => .int value
  | some (.flag value) => .bool value

/-- The JSON value of an optional mapping. -/
def mappingJson : Option (List (Str × Json F)) → Json F
  | none => .null
  | some members => .object members

/-- The normalized content of a projection intent. -/
structure OutboxFields (F : Type) where
  sourceResource : Str
  sourceSchema : Str
  sourceIdentity : Json F
  mutationKind : Str
  sourceVersion : Option Version := none
  payload : Option (List (Str × Json F)) := none
  immutableReference : Option (List (Str × Json F)) := none
  targetLabels : List Str := []
  occurredAt : Utc
  operationContext : List (Str × Str) := []
  sourceCatalog : Str := str "structured"
  eventId : Str

namespace OutboxFields

/-- The checks on the content of a projection intent. -/
structure Valid (fields : OutboxFields F) : Prop where
  sourceResource : fields.sourceResource ≠ []
  sourceSchema : fields.sourceSchema ≠ []
  mutationKind : fields.mutationKind ≠ []
  eventId : fields.eventId ≠ []
  content : fields.payload.isSome ≠ fields.immutableReference.isSome
  targetLabels : fields.targetLabels.Nodup
  sourceCatalog : fields.sourceCatalog ∈ catalogNames
  sourceVersion : ∀ value, fields.sourceVersion ≠ some (.flag value)

/-- The mapping covered by the content digest. -/
def digestMaterial (fields : OutboxFields F) : Json F :=
  .object [
    (str "formatVersion", .str formatVersion),
    (str "eventId", .str fields.eventId),
    (str "sourceCatalog", .str fields.sourceCatalog),
    (str "sourceResource", .str fields.sourceResource),
    (str "sourceSchema", .str fields.sourceSchema),
    (str "sourceIdentity", fields.sourceIdentity),
    (str "sourceVersion", versionJson fields.sourceVersion),
    (str "mutationKind", .str fields.mutationKind),
    (str "payload", mappingJson fields.payload),
    (str "immutableReference", mappingJson fields.immutableReference),
    (str "targetLabels", .array (fields.targetLabels.map .str)),
    (str "occurredAt", .str (rfc3339 fields.occurredAt)),
    (str "operationContext",
      .object (fields.operationContext.map fun member => (member.1, .str member.2)))]

/-- The mapping hashed into the ordering key of one source Data identity. -/
def partitionMaterial (fields : OutboxFields F) : Json F :=
  .object [
    (str "sourceCatalog", .str fields.sourceCatalog),
    (str "sourceResource", .str fields.sourceResource),
    (str "sourceIdentity", fields.sourceIdentity)]

/-- The ordering key is computable whenever the content digest is: its material
is a selection of the digest material. -/
theorem encodable_partitionMaterial {fields : OutboxFields F}
    (encodable : Encodable fields.digestMaterial) : Encodable fields.partitionMaterial := by
  obtain ⟨printable, scalar⟩ := encodable
  rw [digestMaterial, Json.intsPrintable, Json.intsPrintableMembers_iff] at printable
  constructor
  · rw [partitionMaterial, Json.intsPrintable, Json.intsPrintableMembers_iff]
    intro member memberMem
    apply printable member
    simp only [List.mem_cons, List.not_mem_nil, or_false] at memberMem
    rcases memberMem with rfl | rfl | rfl <;> simp only [List.mem_cons, true_or, or_true]
  · intro point pointMem
    rw [partitionMaterial, Json.characters, Json.mem_charactersMembers] at pointMem
    obtain ⟨member, memberMem, inMember⟩ := pointMem
    apply scalar point
    rw [digestMaterial, Json.characters, Json.mem_charactersMembers]
    refine ⟨member, ?_, inMember⟩
    simp only [List.mem_cons, List.not_mem_nil, or_false] at memberMem
    rcases memberMem with rfl | rfl | rfl <;> simp only [List.mem_cons, true_or, or_true]

end OutboxFields

variable [FloatText F]

/-- `OutboxDataV1`: an immutable projection intent with its content digest. -/
structure OutboxDataV1 (F : Type) [FloatText F] extends OutboxFields F where
  digest : Str
  valid : toOutboxFields.Valid
  digest_eq : sha256Digest toOutboxFields.digestMaterial = .ok digest

namespace OutboxDataV1

/-- The intent with given content; its digest is computed. -/
def ofFields (fields : OutboxFields F) (valid : fields.Valid)
    (encodable : Encodable fields.digestMaterial) : OutboxDataV1 F where
  toOutboxFields := fields
  digest := prefixedDigest (fields.digestMaterial.sortKeys.print.flatMap encodePoint)
  valid := valid
  digest_eq := sha256Digest_of_encodable encodable

/-- Stable ordering key for one source Data identity. -/
@[irreducible]
def partitionKey (data : OutboxDataV1 F) : Str :=
  prefixedDigest (data.partitionMaterial.sortKeys.print.flatMap encodePoint)

/-- The ordering key is the canonical digest of its material. -/
theorem sha256Digest_partitionMaterial (data : OutboxDataV1 F) :
    sha256Digest data.partitionMaterial = .ok data.partitionKey := by
  rw [partitionKey]
  exact sha256Digest_of_encodable
    (OutboxFields.encodable_partitionMaterial (encodable_of_sha256Digest data.digest_eq))

/-- The sort key of outbox records. -/
def sortKey (data : OutboxDataV1 F) : Utc ×ₗ Str := toLex (data.occurredAt, data.eventId)

end OutboxDataV1

/-- The content of a change to one order, for closed runs. -/
def sampleFields (eventId : Str) (occurredAt : Utc) : OutboxFields Empty where
  sourceResource := str "orders"
  sourceSchema := str "order"
  sourceIdentity := .str (str "order-1")
  mutationKind := str "upsert"
  sourceVersion := some (.number 1)
  payload := some []
  occurredAt := occurredAt
  eventId := eventId

theorem sampleFields_valid {eventId : Str} (nonempty : eventId ≠ []) (occurredAt : Utc) :
    (sampleFields eventId occurredAt).Valid where
  sourceResource := show str "orders" ≠ [] by decide
  sourceSchema := show str "order" ≠ [] by decide
  mutationKind := show str "upsert" ≠ [] by decide
  eventId := nonempty
  content := by simp [sampleFields]
  targetLabels := by simp [sampleFields]
  sourceCatalog := by simp [sampleFields, catalogNames]
  sourceVersion := by simp [sampleFields]

/-- A change to the order at microsecond 10. -/
def sampleIntent : OutboxDataV1 Empty :=
  .ofFields (sampleFields (str "order-1-b") ⟨10, by decide⟩) (sampleFields_valid (by decide) _)
    (by decide +kernel)

/-- A change to the same order at microsecond 5. -/
def earlierIntent : OutboxDataV1 Empty :=
  .ofFields (sampleFields (str "order-1-a") ⟨5, by decide⟩) (sampleFields_valid (by decide) _)
    (by decide +kernel)

/-- `OutboxLease`. -/
structure OutboxLease where
  owner : Str
  acquiredAt : Utc
  expiresAt : Utc
  attempt : Nat
  owner_ne : owner ≠ []
  attempt_pos : 0 < attempt
  acquired_lt : acquiredAt < expiresAt
  deriving DecidableEq

/-- The constructor of `OutboxLease`, with its checks in order. -/
def OutboxLease.make (owner : Str) (acquiredAt expiresAt : Utc) (attempt : Nat) :
    Except Exc OutboxLease :=
  if owner_ne : owner ≠ [] then
    if attempt_pos : 0 < attempt then
      if acquired_lt : acquiredAt < expiresAt then
        .ok ⟨owner, acquiredAt, expiresAt, attempt, owner_ne, attempt_pos, acquired_lt⟩
      else .error (.valueError "lease expiry must follow acquisition")
    else .error (.valueError "lease attempt must be positive")
  else .error (.valueError "lease owner must be non-empty")

/-- `OutboxFailure`. -/
structure OutboxFailure where
  code : Str
  redactedCause : Str
  failedAt : Utc
  nonempty : code ≠ [] ∧ redactedCause ≠ []
  deriving DecidableEq

/-- The constructor of `OutboxFailure`. -/
def OutboxFailure.make (code redactedCause : Str) (failedAt : Utc) : Except Exc OutboxFailure :=
  if nonempty : code ≠ [] ∧ redactedCause ≠ [] then .ok ⟨code, redactedCause, failedAt, nonempty⟩
  else .error (.valueError "failure code and redacted cause must be non-empty")

/-- `OutboxRecord`: an immutable view of one record. -/
structure OutboxRecord (F : Type) [FloatText F] where
  data : OutboxDataV1 F
  state : OutboxState
  attemptCount : Nat
  lease : Option OutboxLease
  failure : Option OutboxFailure
  targetFingerprint : Option Str
  completedAt : Option Utc
  lease_iff : state = .leased ↔ lease.isSome

/-- `Checkpoint`. -/
structure Checkpoint where
  partitionKey : Str
  revision : Nat
  eventId : Option Str := none
  sourceVersion : Option Version := none
  targetFingerprint : Option Str := none
  advancedAt : Option Utc := none
  partitionKey_ne : partitionKey ≠ []
  deriving DecidableEq

end DataLifecycle.Outbox
