import DataLifecycle.Cache.Model

/-!
# Cache entries and the in-memory backend

`CacheEntry` is the envelope of the Semantics package: frozen JSON with the
metadata that the coordinator checks.  `InMemoryCacheBackend` stores entries by
resource and key digest; every operation runs under its lock and is therefore one
step.
-/

namespace DataLifecycle.Cache

open Python

variable {F : Type}

/-- A timestamp of an entry: text or a `datetime`. -/
inductive Timestamp
  | text (value : Str)
  | datetime (value : DateTime)

/-- `CacheEntry`. -/
structure CacheEntry (F : Type) where
  key : Json F
  value : Json F
  serializerId : Str
  schemaFingerprint : Str
  createdAt : Timestamp
  expiresAt : Option Timestamp
  sourceVersion : Option Version

/-- `VersionedCacheEntry`. -/
structure VersionedCacheEntry (F : Type) where
  entry : CacheEntry F
  version : Version

/-- `InMemoryCacheBackend`. -/
structure InMemoryCacheBackend (F : Type) where
  entries : Dict (Str × Str) (VersionedCacheEntry F) := .empty
  revision : Nat := 0
  available : Bool := true

namespace InMemoryCacheBackend

def setAvailable (backend : InMemoryCacheBackend F) (available : Bool) : InMemoryCacheBackend F :=
  { backend with available := available }

/-- `_require_available`. -/
def requireAvailable (backend : InMemoryCacheBackend F) : Except Exc Unit :=
  refuse (backend.available = false)
    ⟨.runtimeError, ⟨"cache backend unavailable", []⟩, none, false⟩

/-- `_key`. -/
def storageKey [FloatText F] (resource : Str) (key : PyValue F) : Except Exc (Str × Str) := do
  let digest ← digestOf key
  return (resource, digest)

/-- The backend after `_next_version`. -/
def bumped (backend : InMemoryCacheBackend F) : InMemoryCacheBackend F :=
  { backend with revision := backend.revision + 1 }

/-- Store an entry under the version of the revision counter. -/
def store (backend : InMemoryCacheBackend F) (key : Str × Str) (entry : CacheEntry F) :
    InMemoryCacheBackend F :=
  { backend with entries := backend.entries.set key ⟨entry, .number backend.revision⟩ }

variable [FloatText F]

def get (backend : InMemoryCacheBackend F) (resource : Str) (key : PyValue F) :
    Except Exc (Option (VersionedCacheEntry F)) := do
  backend.requireAvailable
  let key ← storageKey resource key
  return backend.entries.get? key

/-- A version is issued before the key is computed. -/
def put (backend : InMemoryCacheBackend F) (resource : Str) (entry : CacheEntry F) :
    Except Exc Version × InMemoryCacheBackend F :=
  match backend.requireAvailable with
  | .error error => (.error error, backend)
  | .ok () =>
      match storageKey resource entry.key.toPy with
      | .error error => (.error error, backend.bumped)
      | .ok key => (.ok (.number backend.bumped.revision), backend.bumped.store key entry)

def putIfAbsent (backend : InMemoryCacheBackend F) (resource : Str) (entry : CacheEntry F) :
    Except Exc Bool × InMemoryCacheBackend F :=
  match backend.requireAvailable with
  | .error error => (.error error, backend)
  | .ok () =>
      match storageKey resource entry.key.toPy with
      | .error error => (.error error, backend)
      | .ok key =>
          match backend.entries.get? key with
          | some _ => (.ok false, backend)
          | none => (.ok true, backend.bumped.store key entry)

def compareAndSet (backend : InMemoryCacheBackend F) (resource : Str) (entry : CacheEntry F)
    (expectedVersion : Version) : Except Exc Bool × InMemoryCacheBackend F :=
  match backend.requireAvailable with
  | .error error => (.error error, backend)
  | .ok () =>
      match storageKey resource entry.key.toPy with
      | .error error => (.error error, backend)
      | .ok key =>
          match backend.entries.get? key with
          | none => (.ok false, backend)
          | some current =>
              if current.version.equals expectedVersion then
                (.ok true, backend.bumped.store key entry)
              else
                (.ok false, backend)

def delete (backend : InMemoryCacheBackend F) (resource : Str) (key : PyValue F) :
    Except Exc Bool × InMemoryCacheBackend F :=
  match backend.requireAvailable with
  | .error error => (.error error, backend)
  | .ok () =>
      match storageKey resource key with
      | .error error => (.error error, backend)
      | .ok key =>
          (.ok (backend.entries.get? key).isSome,
            { backend with entries := backend.entries.erase key })

/-- `selector.get("all") is True`. -/
def selectsAll (selector : Dict Str (PyValue F)) : Bool :=
  match selector.get? (str "all") with
  | some (.bool true) => true
  | _ => false

def invalidate (backend : InMemoryCacheBackend F) (resource : Str)
    (selector : Dict Str (PyValue F)) : Except Exc Int × InMemoryCacheBackend F :=
  match backend.requireAvailable with
  | .error error => (.error error, backend)
  | .ok () =>
      if selectsAll selector then
        (.ok (backend.entries.items.countP fun item => item.1.1 = resource),
          { backend with entries := backend.entries.filter fun key => key.1 ≠ resource })
      else
        (.error (.valueError "in-memory invalidation supports only \x7b'all': true\x7d"), backend)

section Available

variable {backend : InMemoryCacheBackend F} {resource digest : Str}

omit [FloatText F] in
theorem requireAvailable_eq_ok (available : backend.available = true) :
    backend.requireAvailable = .ok () := by
  simp [requireAvailable, available]

theorem storageKey_of_digestOf {key : PyValue F} (digested : digestOf key = .ok digest) :
    storageKey resource key = .ok (resource, digest) := by
  rw [storageKey, digested]
  rfl

theorem get_eq_ok (available : backend.available = true) {key : PyValue F}
    (digested : digestOf key = .ok digest) :
    backend.get resource key = .ok (backend.entries.get? (resource, digest)) := by
  rw [get, requireAvailable_eq_ok available, storageKey_of_digestOf digested]
  rfl

theorem put_eq_ok (available : backend.available = true) {entry : CacheEntry F}
    (digested : digestOf entry.key.toPy = .ok digest) :
    backend.put resource entry =
      (.ok (.number backend.bumped.revision), backend.bumped.store (resource, digest) entry) := by
  rw [put, requireAvailable_eq_ok available, storageKey_of_digestOf digested]

end Available

/-- A call that may change the backend. -/
inductive Operation (F : Type)
  | setAvailable (available : Bool)
  | put (resource : Str) (entry : CacheEntry F)
  | putIfAbsent (resource : Str) (entry : CacheEntry F)
  | compareAndSet (resource : Str) (entry : CacheEntry F) (expectedVersion : Version)
  | delete (resource : Str) (key : PyValue F)
  | invalidate (resource : Str) (selector : Dict Str (PyValue F))

/-- The backend after one call. -/
def apply (backend : InMemoryCacheBackend F) : Operation F → InMemoryCacheBackend F
  | .setAvailable available => backend.setAvailable available
  | .put resource entry => (backend.put resource entry).2
  | .putIfAbsent resource entry => (backend.putIfAbsent resource entry).2
  | .compareAndSet resource entry expectedVersion =>
      (backend.compareAndSet resource entry expectedVersion).2
  | .delete resource key => (backend.delete resource key).2
  | .invalidate resource selector => (backend.invalidate resource selector).2

/-- The backend after a sequence of calls. -/
def run (operations : List (Operation F)) : InMemoryCacheBackend F := operations.foldl apply {}

end InMemoryCacheBackend

/-! ## The Catalog backend -/

/-- `OperationResult`, as far as the backend reads it. -/
structure OperationResult (F : Type) where
  data : PyValue F
  operationFingerprint : Str

namespace MeridianCacheBackend

/-- `CACHE_ENVELOPE_FORMAT_VERSION`. -/
def cacheEnvelopeFormatVersion : Str := str "meridian.cache-envelope.v1"

/-- Whether a mapping is tagged as an envelope. -/
def isEnvelope (items : List (PyValue F × PyValue F)) : Bool :=
  textOf (getMember (str "formatVersion") items) = some cacheEnvelopeFormatVersion

/-- `_mapping`. -/
def mapping : PyValue F → Except Exc (Option (List (PyValue F × PyValue F)))
  | .none => .ok none
  | .mapping items => .ok (some items)
  | _ => .error (.valueError "cache Catalog returned non-mapping Data")

/-- The members of a mapping, and none of any other value. -/
def members : Option (PyValue F) → List (PyValue F × PyValue F)
  | some (.mapping items) => items
  | _ => []

/-- The candidate, or the envelope nested in it. -/
def unwrap (candidate : List (PyValue F × PyValue F)) :
    Except Exc (List (PyValue F × PyValue F)) :=
  let nested := members (getMember (str "value") candidate)
  if isEnvelope candidate then .ok candidate
  else if isEnvelope nested then .ok nested
  else if (getMember (str "serializerId") candidate).isSome ∧
      (getMember (str "schemaFingerprint") candidate).isSome then .ok candidate
  else .error (.valueError "cache Catalog result does not contain a Meridian cache envelope")

/-- `_entry_mapping`. -/
def entryMapping (value : List (PyValue F × PyValue F)) :
    Except Exc (List (PyValue F × PyValue F)) :=
  match getMember (str "entry") value with
  | none => unwrap value
  | some (.mapping candidate) => unwrap candidate
  | some _ => .error (.valueError "cache entry must be a mapping")

/-- The `createdAt` member. -/
def createdText : Option (PyValue F) → Except Exc Str
  | some (.str created) => .ok created
  | _ => .error (.valueError "cache entry createdAt must be an RFC 3339 string")

/-- The `expiresAt` member; empty text counts as null. -/
def expiresText : Option (PyValue F) → Except Exc (Option Str)
  | none => .ok none
  | some .none => .ok none
  | some (.str expires) => .ok (if expires = [] then none else some expires)
  | some _ => .error (.valueError "cache entry expiresAt must be an RFC 3339 string or null")

/-- The serializer and the Schema fingerprint. -/
def identifiers (serializer fingerprint : Option (PyValue F)) : Except Exc (Str × Str) :=
  match serializer, fingerprint with
  | some (.str serializer), some (.str fingerprint) => .ok (serializer, fingerprint)
  | _, _ => .error (.valueError "cache entry serializer and Schema fingerprint are required")

/-- The `sourceVersion` member. -/
def sourceVersion : Option (PyValue F) → Except Exc (Option Version)
  | none => .ok none
  | some .none => .ok none
  | some (.str version) => .ok (some (.text version))
  | some (.int version) => .ok (some (.number version))
  | some _ => .error (.valueError "cache sourceVersion must be a string, integer, or null")

/-- A timestamp that is parsed when it is present. -/
def optionalTimestamp : Option Str → Except Exc (Option Timestamp)
  | none => .ok none
  | some text => do
      let instant ← parseRfc3339 "expiresAt" text
      return some (.datetime (.ofUtc instant))

/-- `_entry`, with the constructor of the Semantics package. -/
def entry (envelope : CacheEntry F → Except Exc (CacheEntry F))
    (value : List (PyValue F × PyValue F)) : Except Exc (CacheEntry F) := do
  let created ← createdText (getMember (str "createdAt") value)
  let expires ← expiresText (getMember (str "expiresAt") value)
  let (serializer, fingerprint) ←
    identifiers (getMember (str "serializerId") value) (getMember (str "schemaFingerprint") value)
  let version ← sourceVersion (getMember (str "sourceVersion") value)
  let key ← jsonValue ((getMember (str "key") value).getD .none)
  let payload ← jsonValue ((getMember (str "value") value).getD .none)
  let createdAt ← parseRfc3339 "createdAt" created
  let expiresAt ← optionalTimestamp expires
  envelope {
    key := key
    value := payload
    serializerId := serializer
    schemaFingerprint := fingerprint
    createdAt := .datetime (.ofUtc createdAt)
    expiresAt := expiresAt
    sourceVersion := version }

/-- The first of the version members that is present, or the operation fingerprint. -/
def versionMember (result : OperationResult F) (items : List (PyValue F × PyValue F)) :
    PyValue F :=
  let candidate := members (getMember (str "entry") items)
  ((getMember (str "entryVersion") items).or
    ((getMember (str "version") items).or
      ((getMember (str "entryVersion") candidate).or
        (getMember (str "version") candidate)))).getD (.str result.operationFingerprint)

/-- The version of an entry. -/
def entryVersion : PyValue F → Except Exc Version
  | .str version => .ok (.text version)
  | .int version => .ok (.number version)
  | _ => .error (.valueError "cache entry version must be a string or integer")

/-- `mapping.get("found") is False`. -/
def isAbsent (items : List (PyValue F × PyValue F)) : Bool :=
  match getMember (str "found") items with
  | some (.bool false) => true
  | _ => false

variable [FloatText F]

/-- `MeridianCacheBackend.get`, from the result of the Catalog operation on. -/
def get (envelope : CacheEntry F → Except Exc (CacheEntry F)) (key : PyValue F)
    (result : OperationResult F) : Except Exc (Option (VersionedCacheEntry F)) := do
  match ← mapping result.data with
  | none => return none
  | some items =>
      if isAbsent items then return none
      else
        let version ← entryVersion (versionMember result items)
        let envelopeItems ← entryMapping items
        let found ← entry envelope envelopeItems
        let foundBytes ← canonicalJsonBytes found.key.toPy
        let keyBytes ← canonicalJsonBytes key
        refuse (foundBytes ≠ keyBytes)
          (.valueError "cache Catalog returned an entry for a different key")
        return some ⟨found, version⟩

end MeridianCacheBackend

end DataLifecycle.Cache
