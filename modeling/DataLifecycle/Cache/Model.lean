import DataLifecycle.CanonicalEncoding

/-!
# Cache policies

A policy is accepted by the checks of its constructor.  The key of an identity
under a policy is the list of the source resource and the values of the key
fields, in the order of the policy.
-/

namespace DataLifecycle.Cache

open Python

variable {F : Type}

/-- `SourceVersionStrategy`. -/
inductive SourceVersionStrategy
  | none
  | exact
  | atLeast
  deriving DecidableEq

/-- `CacheOutcome`. -/
inductive CacheOutcome
  | hit
  | miss
  | negativeHit
  | stale
  | bypass
  deriving DecidableEq

/-- The fields of a policy; durations are in microseconds. -/
structure PolicyFields where
  sourceResource : Str
  cacheResource : Str
  keyFields : List Str
  serializerId : Str
  schemaFingerprint : Str
  defaultTtl : Int
  maximumTtl : Int
  maximumStaleness : Int
  negativeTtl : Option Int := none
  sourceVersionStrategy : SourceVersionStrategy := .exact
  enabled : Bool := true
  fallbackToAuthoritative : Bool := true
  maximumKeyBytes : Int := 4096

namespace PolicyFields

/-- The checks on an optional TTL of negative entries. -/
def checkNegative (maximumTtl : Int) : Option Int → Except Exc Unit
  | none => .ok ()
  | some negativeTtl => do
      refuse (negativeTtl ≤ 0) (.valueError "negative_ttl must be positive")
      refuse (maximumTtl < negativeTtl) (.valueError "negative_ttl cannot exceed maximum_ttl")

/-- The checks of the constructor in order. -/
def check (policy : PolicyFields) : Except Exc Unit := do
  requireText "source_resource" policy.sourceResource
  requireText "cache_resource" policy.cacheResource
  requireText "serializer_id" policy.serializerId
  requireText "schema_fingerprint" policy.schemaFingerprint
  refuse (policy.keyFields = [] ∨ ¬ policy.keyFields.Nodup)
    (.valueError "key_fields must be non-empty and unique")
  refuse ([] ∈ policy.keyFields) (.valueError "key_fields must contain non-empty strings")
  refuse (isSha256 policy.schemaFingerprint = false)
    (.valueError "schema_fingerprint must use the sha256:<hex> form")
  refuse (policy.defaultTtl ≤ 0 ∨ policy.maximumTtl ≤ 0)
    (.valueError "cache TTLs must be positive")
  refuse (policy.maximumTtl < policy.defaultTtl)
    (.valueError "default_ttl cannot exceed maximum_ttl")
  refuse (policy.maximumStaleness < 0) (.valueError "maximum_staleness cannot be negative")
  checkNegative policy.maximumTtl policy.negativeTtl
  refuse (policy.maximumKeyBytes < 64) (.valueError "maximum_key_bytes must be at least 64")

/-- What the checks establish. -/
structure Valid (policy : PolicyFields) : Prop where
  sourceResource : policy.sourceResource ≠ []
  cacheResource : policy.cacheResource ≠ []
  serializerId : policy.serializerId ≠ []
  keyFields : policy.keyFields ≠ [] ∧ policy.keyFields.Nodup ∧ [] ∉ policy.keyFields
  schemaFingerprint : isSha256 policy.schemaFingerprint = true
  defaultTtl : 0 < policy.defaultTtl ∧ policy.defaultTtl ≤ policy.maximumTtl
  maximumStaleness : 0 ≤ policy.maximumStaleness
  negativeTtl : ∀ ttl, policy.negativeTtl = some ttl → 0 < ttl ∧ ttl ≤ policy.maximumTtl
  maximumKeyBytes : 64 ≤ policy.maximumKeyBytes

theorem checkNegative_eq_ok_iff {maximumTtl : Int} {negativeTtl : Option Int} :
    checkNegative maximumTtl negativeTtl = .ok () ↔
      ∀ ttl, negativeTtl = some ttl → 0 < ttl ∧ ttl ≤ maximumTtl := by
  cases negativeTtl with
  | none => simp [checkNegative]
  | some ttl => simp [checkNegative, check_bind_eq_ok_iff]

/-- The checks pass exactly on the valid policies. -/
theorem check_eq_ok_iff {policy : PolicyFields} : policy.check = .ok () ↔ policy.Valid := by
  simp only [check, requireText, check_bind_eq_ok_iff, refuse_eq_ok_iff, checkNegative_eq_ok_iff, not_or,
    not_not, not_le, not_lt, Bool.not_eq_false]
  constructor
  · rintro ⟨source, cache, serializer, -, ⟨fields, unique⟩, named, fingerprint, ⟨positive, -⟩,
      bounded, staleness, negative, bytes⟩
    exact ⟨source, cache, serializer, ⟨fields, unique, named⟩, fingerprint, ⟨positive, bounded⟩,
      staleness, negative, bytes⟩
  · intro valid
    exact ⟨valid.sourceResource, valid.cacheResource, valid.serializerId,
      ne_nil_of_isSha256 valid.schemaFingerprint, ⟨valid.keyFields.1, valid.keyFields.2.1⟩,
      valid.keyFields.2.2, valid.schemaFingerprint,
      ⟨valid.defaultTtl.1, valid.defaultTtl.1.trans_le valid.defaultTtl.2⟩, valid.defaultTtl.2,
      valid.maximumStaleness, valid.negativeTtl, valid.maximumKeyBytes⟩

end PolicyFields

/-- `CachePolicy`. -/
structure CachePolicy extends PolicyFields where
  valid : toPolicyFields.Valid

/-- The constructor of `CachePolicy`. -/
def CachePolicy.make (policy : PolicyFields) : Except Exc CachePolicy :=
  match checked : policy.check with
  | .ok () => .ok ⟨policy, PolicyFields.check_eq_ok_iff.mp checked⟩
  | .error error => .error error

/-- The values that a key field may not have: null, collections and bytes. -/
def isInvalidKey : PyValue F → Bool
  | .none => true
  | .mapping _ => true
  | .sequence _ => true
  | .tuple _ => true
  | .other typeName => typeName ∈ [str "set", str "bytes", str "bytearray"]
  | _ => false

/-- `", ".join(names)`. -/
def joined (names : List Str) : Str := List.intercalate (str ", ") names

namespace CachePolicy

variable [FloatText F]

/-- The key fields that an identity lacks. -/
def missing (policy : CachePolicy) (identity : Dict Str (PyValue F)) : List Str :=
  policy.keyFields.filter fun name => (identity.get? name).isNone

/-- The key fields that are not non-null scalars. -/
def invalid (policy : CachePolicy) (identity : Dict Str (PyValue F)) : List Str :=
  policy.keyFields.filter fun name => (identity.get? name).any isInvalidKey

/-- The source resource followed by the values of the key fields. -/
def keyList (policy : CachePolicy) (identity : Dict Str (PyValue F)) : PyValue F :=
  .sequence (.str policy.sourceResource :: policy.keyFields.filterMap identity.get?)

/-- `CachePolicy.key`. -/
def key (policy : CachePolicy) (identity : Dict Str (PyValue F)) : Except Exc (PyValue F) := do
  refuse (policy.missing identity ≠ [])
    (.valueError "cache identity is missing key fields: %s" [joined (policy.missing identity)])
  refuse (policy.invalid identity ≠ [])
    (.valueError "cache key fields must be non-null scalars: %s"
      [joined (policy.invalid identity)])
  let bytes ← canonicalJsonBytes (policy.keyList identity)
  refuse (policy.maximumKeyBytes < bytes.length) (.valueError "cache key exceeds maximum_key_bytes")
  return policy.keyList identity

end CachePolicy

end DataLifecycle.Cache
