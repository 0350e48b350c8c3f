import DataLifecycle.Cache.Keys
import DataLifecycle.Evidence
import DataLifecycle.Interaction.Program
import Mathlib.Data.Int.Log
import Mathlib.Data.Rat.Floor

/-!
# The cache coordinator

`CacheCoordinator` as scripts over the calls that it makes: the clock, the backend,
the evidence sink, the loader of a read, and the flight table with its events.  The
critical section of the flight table is one call.
-/

namespace DataLifecycle.Cache

open Python Interaction

variable {F : Type}

/-- `LoadedValue`. -/
structure LoadedValue (F : Type) where
  value : PyValue F
  sourceVersion : Option Version := none

/-- `CacheRead`. -/
structure CacheRead (F : Type) where
  value : PyValue F
  sourceVersion : Option Version
  outcome : CacheOutcome
  cacheError : Option Str := none

/-- `InvalidationResult`. -/
structure InvalidationResult where
  successful : Bool
  invalidated : Int := 0
  errorCode : Option Str := none

/-- `CacheSerializer`. -/
structure CacheSerializer (F : Type) where
  id : Str
  deterministic : Bool
  encode : PyValue F → Except Exc (PyValue F)
  decode : PyValue F → Except Exc (PyValue F)

/-- `json.loads` on canonical bytes, with its exceptions. -/
def loadsCanonical [FloatText F] (bytes : Bytes) : Except Exc (PyValue F) :=
  match loadsBytes bytes with
  | .ok value => .ok value
  | .error _ => .error (.valueError "Expecting value")

/-- `CanonicalJsonSerializer`. -/
def canonicalJsonSerializer [FloatText F] : CacheSerializer F where
  id := str "canonical-json-v1"
  deterministic := true
  encode value := do
    let json ← jsonValue value
    return json.toPy
  decode value := do
    let bytes ← canonicalJsonBytes value
    loadsCanonical bytes

/-! ## Calls -/

/-- The calls of a coordinator. -/
inductive CacheHook (F : Type)
  | clock
  | get (resource : Str) (key : PyValue F)
  | put (resource : Str) (entry : CacheEntry F) (ttlMs : Int)
  | putIfAbsent (resource : Str) (entry : CacheEntry F) (ttlMs : Int)
  | compareAndSet (resource : Str) (entry : CacheEntry F) (expectedVersion : Version) (ttlMs : Int)
  | delete (resource : Str) (key : PyValue F)
  | invalidate (resource : Str) (selector : Dict Str (PyValue F))
  | record (evidence : LifecycleEvidence F)
  | load
  | joinFlight (flightKey : Str)
  | wait (event : Nat)
  | leaveFlight (flightKey : Str)

/-- The value that a call returns.  Joining a flight returns its event and whether
the caller leads it; waiting returns whether the event was set in time. -/
abbrev CacheHook.Answer : CacheHook F → Type
  | .clock => DateTime
  | .get _ _ => Option (VersionedCacheEntry F)
  | .put _ _ _ => Version
  | .putIfAbsent _ _ _ => Bool
  | .compareAndSet _ _ _ _ => Bool
  | .delete _ _ => Bool
  | .invalidate _ _ => Int
  | .record _ => Unit
  | .load => Option (LoadedValue F)
  | .joinFlight _ => Nat × Bool
  | .wait _ => Bool
  | .leaveFlight _ => Unit

/-- A call returns a value or raises. -/
abbrev CacheHook.Response (hook : CacheHook F) : Type := Except Exc hook.Answer

/-- A call with its response. -/
abbrev CacheCall (F : Type) := Σ hook : CacheHook F, hook.Response

/-- A part of a coordinator's operation. -/
abbrev Caching (F : Type) (α : Type) := Script (CacheHook F) CacheHook.Response Exc Unit α

/-- Make one call. -/
def request (hook : CacheHook F) : Caching F hook.Answer := Script.invoke hook id

/-- `except Exception`: anything else is raised on. -/
def caught {α : Type} : Except Exc α → Except Exc (Except Exc α)
  | .ok value => .ok (.ok value)
  | .error error => if error.isException then .ok (.error error) else .error error

/-- Make one call inside `try … except Exception`. -/
def attempt (hook : CacheHook F) : Caching F (Except Exc hook.Answer) := Script.invoke hook caught

/-! ## Times to live -/

/-- The nearest double to a positive number, ties to even. -/
def nearestDouble (value : ℚ) : ℚ :=
  let unit : ℚ := 2 ^ (Int.log 2 value - 52)
  let low := ⌊value / unit⌋
  let rest := value / unit - low
  if rest < 1 / 2 ∨ rest = 1 / 2 ∧ low % 2 = 0 then low * unit else (low + 1) * unit

/-- `max(1, int(ttl.total_seconds() * 1000))` for a positive duration. -/
def ttlMilliseconds (ttl : Int) : Int :=
  max 1 ⌊nearestDouble (nearestDouble ((ttl : ℚ) / 1000000) * 1000)⌋

/-! ## The coordinator -/

/-- `CacheCoordinator`.  `envelope` is the constructor of `CacheEntry` in the Semantics
package. -/
structure CacheCoordinator (F : Type) where
  policy : CachePolicy
  serializer : CacheSerializer F
  versionComparator : Option (Version → Version → Except Exc Bool) := none
  envelope : CacheEntry F → Except Exc (CacheEntry F)
  deterministic : serializer.deterministic = true
  serializer_id : serializer.id = policy.serializerId

/-- `_NEGATIVE`. -/
def negative : Json F := .object [(str "$meridian.cache.negative", .bool true)]

/-- `_VALUE_FIELD`. -/
def valueField : Str := str "$meridian.cache.value"

/-- `value == True` for a JSON value: the numbers one are equal to it. -/
def isTrue [FloatText F] : Json F → Bool
  | .bool value => value
  | .int value => value = 1
  | .float value => FloatText.repr value = str "1.0"
  | _ => false

/-- `value == _NEGATIVE`. -/
def isNegative [FloatText F] : Json F → Bool
  | .object [(name, marker)] => name = str "$meridian.cache.negative" && isTrue marker
  | _ => false

/-- The payload of a positive entry. -/
def payload : Json F → Except Exc (PyValue F)
  | .object [(name, value)] =>
      if name = valueField then .ok value.toPy
      else .error (.valueError "cache value does not contain a tagged payload")
  | _ => .error (.valueError "cache value does not contain a tagged payload")

/-- `_error_code`. -/
def errorCode (error : Exc) : Str := error.code.getD error.cls.name

/-- `first or second` for optional text. -/
def orCode : Option Str → Option Str → Option Str
  | some (point :: rest), _ => some (point :: rest)
  | _, second => second

/-- `instant + duration`. -/
def plus (instant : Utc) (duration : Int) : Except Exc Utc :=
  match instant.add duration with
  | some later => .ok later
  | none => .error .overflowError

theorem plus_eq_ok_iff {instant later : Utc} {duration : Int} :
    plus instant duration = .ok later ↔ instant.add duration = some later := by
  unfold plus
  cases instant.add duration <;> simp

/-- A timestamp of an entry in UTC. -/
def Timestamp.toUtc (field : String) : Timestamp → Except Exc Utc
  | .text value => parseRfc3339 field value
  | .datetime value => ensureUtc field value

/-- The expiry of an entry in UTC. -/
def expiry : Option Timestamp → Except Exc (Option Utc)
  | none => .ok none
  | some value => do
      let expiresAt ← value.toUtc "expiresAt"
      return some expiresAt

/-- `expires_at is not None and expires_at <= now`. -/
def isExpired (expiresAt : Option Utc) (now : Utc) : Bool :=
  match expiresAt with
  | none => false
  | some expiresAt => expiresAt ≤ now

namespace CacheCoordinator

variable [FloatText F] (coordinator : CacheCoordinator F)

/-- `_record_failure`. -/
def recordFailure (state : String) (error : Exc) (now : Utc) : Caching F Str := do
  let evidence ← Script.lift (LifecycleEvidence.make (str "cache")
    coordinator.policy.sourceResource (str state) [(str "errorCode", .str (errorCode error))]
    (.ofUtc now))
  request (.record evidence)
  pure (errorCode error)

omit [FloatText F] in
/-- `_version_valid` once both versions are there and one is required. -/
def relates (cached required : Version) : Except Exc Bool :=
  if coordinator.policy.sourceVersionStrategy = .exact then .ok (cached.equals required)
  else
    match coordinator.versionComparator with
    | some comparator => comparator cached required
    | none =>
        match cached.asInt?, required.asInt? with
        | some cached, some required => .ok (required ≤ cached)
        | _, _ => .ok (cached.equals required)

omit [FloatText F] in
/-- `_version_valid`. -/
def versionValid (cached required : Option Version) : Except Exc Bool :=
  match required with
  | none => .ok true
  | some required =>
      if coordinator.policy.sourceVersionStrategy = .none then .ok true
      else
        match cached with
        | none => .ok false
        | some cached => coordinator.relates cached required

omit [FloatText F] in
/-- `_valid_entry`. -/
def validEntry (entry : CacheEntry F) (required : Option Version) (now : Utc) : Except Exc Bool :=
  if entry.serializerId ≠ coordinator.policy.serializerId then .ok false
  else if entry.schemaFingerprint ≠ coordinator.policy.schemaFingerprint then .ok false
  else do
    let createdAt ← entry.createdAt.toUtc "createdAt"
    let expiresAt ← expiry entry.expiresAt
    if isExpired expiresAt now then .ok false
    else do
      let limit ← plus createdAt coordinator.policy.maximumStaleness
      if limit < now then .ok false
      else coordinator.versionValid entry.sourceVersion required

/-- Delete an entry; a failure is recorded only. -/
def evict (state : String) (key : PyValue F) (now : Utc) : Caching F Unit := do
  match ← attempt (.delete coordinator.policy.cacheResource key) with
  | .ok _ => pure ()
  | .error error => do
      let _ ← coordinator.recordFailure state error now
      pure ()

/-- What `_cached` does when the backend fails. -/
def readFailed (error : Exc) (now : Utc) : Caching F (Option (CacheRead F) × Option Str) := do
  let code ← coordinator.recordFailure "READ_FAILED" error now
  Script.refuse (coordinator.policy.fallbackToAuthoritative = false)
    (.cacheUnavailable "cache read failed and fallback is disabled")
  pure (none, some code)

omit [FloatText F] in
/-- The value of a positive entry. -/
def decodeEntry (entry : CacheEntry F) : Except Exc (PyValue F) := do
  let encoded ← payload entry.value
  coordinator.serializer.decode encoded

/-- What `_cached` does with a valid entry. -/
def serve (key : PyValue F) (entry : CacheEntry F) (now : Utc) :
    Caching F (Option (CacheRead F) × Option Str) :=
  if isNegative entry.value then pure (some ⟨.none, entry.sourceVersion, .negativeHit, none⟩, none)
  else do
    match ← Script.lift (caught (coordinator.decodeEntry entry)) with
    | .ok value => pure (some ⟨value, entry.sourceVersion, .hit, none⟩, none)
    | .error error => do
        coordinator.evict "CORRUPT_DELETE_FAILED" key now
        let _ ← coordinator.recordFailure "CORRUPT" error now
        pure (none, none)

/-- What `_cached` does with an entry that the backend returned. -/
def judge (key : PyValue F) (entry : CacheEntry F) (required : Option Version) (now : Utc) :
    Caching F (Option (CacheRead F) × Option Str) := do
  match ← Script.lift (coordinator.validEntry entry required now) with
  | true => coordinator.serve key entry now
  | false => do
      coordinator.evict "STALE_DELETE_FAILED" key now
      pure (none, none)

/-- `_cached`. -/
def cached (key : PyValue F) (required : Option Version) (now : Utc) :
    Caching F (Option (CacheRead F) × Option Str) := do
  match ← attempt (.get coordinator.policy.cacheResource key) with
  | .error error => coordinator.readFailed error now
  | .ok none => pure (none, none)
  | .ok (some found) => coordinator.judge key found.entry required now

omit [FloatText F] in
/-- The envelope around an encoded value. -/
def wrap (key value : PyValue F) (ttl : Int) (sourceVersion : Option Version) (now : Utc) :
    Except Exc (CacheEntry F) := do
  let keyData ← jsonValue key
  let valueData ← jsonValue value
  let expiresAt ← plus now ttl
  coordinator.envelope {
    key := keyData
    value := valueData
    serializerId := coordinator.policy.serializerId
    schemaFingerprint := coordinator.policy.schemaFingerprint
    createdAt := .datetime (.ofUtc now)
    expiresAt := some (.datetime (.ofUtc expiresAt))
    sourceVersion := sourceVersion }

omit [FloatText F] in
/-- The envelope around a loaded value. -/
def wrapLoaded (key : PyValue F) (loaded : LoadedValue F) (ttl : Int) (now : Utc) :
    Except Exc (CacheEntry F) := do
  let encoded ← coordinator.serializer.encode loaded.value
  coordinator.wrap key (.mapping [(.str valueField, encoded)]) ttl loaded.sourceVersion now

omit [FloatText F] in
/-- `_entry`: the entry to store with its TTL, if any. -/
def entry (key : PyValue F) (loaded : Option (LoadedValue F)) (now : Utc) :
    Except Exc (Option (CacheEntry F × Int)) :=
  match loaded with
  | none =>
      match coordinator.policy.negativeTtl with
      | none => .ok none
      | some ttl => do
          let made ← coordinator.wrap key negative.toPy ttl none now
          return some (made, ttl)
  | some loaded => do
      let made ← coordinator.wrapLoaded key loaded coordinator.policy.defaultTtl now
      return some (made, coordinator.policy.defaultTtl)

/-- Store a prepared entry; a failure becomes the cache error of the read. -/
def populate (prepared : Option (CacheEntry F × Int)) (cacheError : Option Str) (now : Utc) :
    Caching F (Option Str) :=
  match prepared with
  | none => pure cacheError
  | some (made, ttl) => do
      match ← attempt (.put coordinator.policy.cacheResource made (ttlMilliseconds ttl)) with
      | .ok _ => pure cacheError
      | .error error => do
          let code ← coordinator.recordFailure "POPULATE_FAILED" error now
          pure (some code)

omit [FloatText F] in
/-- The result of a read that loaded. -/
def loadedRead (loaded : Option (LoadedValue F)) (cacheError : Option Str)
    (outcome : CacheOutcome) : CacheRead F :=
  match loaded with
  | none => ⟨.none, none, outcome, cacheError⟩
  | some loaded => ⟨loaded.value, loaded.sourceVersion, outcome, cacheError⟩

omit [FloatText F] in
/-- `CacheOutcome.BYPASS if cache_error else CacheOutcome.MISS`. -/
def missOutcome (cacheError : Option Str) : CacheOutcome :=
  if orCode cacheError none = none then .miss else .bypass

/-- `_load`. -/
def load (key : PyValue F) (cacheError : Option Str) (now : Utc) : Caching F (CacheRead F) := do
  let loaded ← request .load
  let prepared ← Script.lift (coordinator.entry key loaded now)
  let code ← coordinator.populate prepared cacheError now
  pure (loadedRead loaded code (missOutcome code))

omit [FloatText F] in
/-- `ensure_utc(self._clock(), field="now")`. -/
def sampleClock : Caching F Utc := do
  let now ← request .clock
  Script.lift (ensureUtc "now" now)

omit [FloatText F] in
/-- `ensure_utc(now or self._clock(), field="now")`. -/
def currentTime : Option DateTime → Caching F Utc
  | some now => Script.lift (ensureUtc "now" now)
  | none => sampleClock

/-- A read that joined the flight of another one. -/
def follow (key : PyValue F) (required : Option Version) (errorCode : Option Str) (event : Nat) :
    Caching F (CacheRead F) := do
  let _ ← request (.wait event)
  let now ← sampleClock
  match ← coordinator.cached key required now with
  | (some read, _) => pure read
  | (none, followerError) => do
      let later ← sampleClock
      coordinator.load key (orCode followerError errorCode) later

/-- A read that leads a flight. -/
def lead (key : PyValue F) (errorCode : Option Str) (flightKey : Str) (now : Utc) :
    Caching F (CacheRead F) :=
  Script.tryFinally (coordinator.load key errorCode now) (request (.leaveFlight flightKey))

/-- A read that did not find its entry. -/
def fly (key : PyValue F) (required : Option Version) (errorCode : Option Str) (now : Utc) :
    Caching F (CacheRead F) := do
  let flightKey ← Script.lift (digestOf key)
  match ← request (.joinFlight flightKey) with
  | (_, true) => coordinator.lead key errorCode flightKey now
  | (event, false) => coordinator.follow key required errorCode event

/-- A read with the cache switched on. -/
def readThrough (identity : Dict Str (PyValue F)) (required : Option Version) (now : Utc) :
    Caching F (CacheRead F) := do
  let key ← Script.lift (coordinator.policy.key identity)
  match ← coordinator.cached key required now with
  | (some read, _) => pure read
  | (none, errorCode) => coordinator.fly key required errorCode now

omit [FloatText F] in
/-- A read with the cache switched off. -/
def readAround : Caching F (CacheRead F) := do
  let loaded ← request .load
  pure (loadedRead loaded none .bypass)

/-- `CacheCoordinator.read`. -/
def read (identity : Dict Str (PyValue F)) (required : Option Version) (now : Option DateTime) :
    Caching F (CacheRead F) := do
  let current ← currentTime now
  if coordinator.policy.enabled then coordinator.readThrough identity required current
  else readAround

/-- `invalidate_after_commit`. -/
def invalidateAfterCommit (selector : Dict Str (PyValue F)) (now : Option DateTime) :
    Caching F InvalidationResult := do
  let current ← currentTime now
  match ← attempt (.invalidate coordinator.policy.cacheResource selector) with
  | .ok count => pure { successful := true, invalidated := count }
  | .error error => do
      let code ← coordinator.recordFailure "INVALIDATION_FAILED" error current
      pure { successful := false, errorCode := some code }

omit [FloatText F] in
/-- A TTL chosen by the caller, or the default. -/
def selectedTtl (ttl : Option Int) : Except Exc Int := do
  let selected := ttl.getD coordinator.policy.defaultTtl
  refuse (selected ≤ 0 ∨ coordinator.policy.maximumTtl < selected)
    (.valueError "explicit cache TTL is outside policy bounds")
  return selected

/-- The entry of an explicit write. -/
def explicitEntry (identity : Dict Str (PyValue F)) (value : LoadedValue F) (ttl : Int)
    (now : Utc) : Except Exc (CacheEntry F) := do
  let key ← coordinator.policy.key identity
  coordinator.wrapLoaded key value ttl now

/-- Make one call; an `Exception` becomes `CacheUnavailable`. -/
def orUnavailable {α : Type} (template : String) : Except Exc α → Except Exc α
  | .ok value => .ok value
  | .error error => if error.isException then .error (.cacheUnavailable template) else .error error

/-- `put_if_absent`. -/
def putIfAbsent (identity : Dict Str (PyValue F)) (value : LoadedValue F) (ttl : Option Int)
    (now : Option DateTime) : Caching F Bool := do
  let current ← currentTime now
  let selected ← Script.lift (coordinator.selectedTtl ttl)
  let made ← Script.lift (coordinator.explicitEntry identity value selected current)
  Script.invoke
    (.putIfAbsent coordinator.policy.cacheResource made (ttlMilliseconds selected) : CacheHook F)
    (orUnavailable "put_if_absent failed")

/-- `compare_and_set`. -/
def compareAndSet (identity : Dict Str (PyValue F)) (value : LoadedValue F)
    (expectedVersion : Version) (ttl : Option Int) (now : Option DateTime) : Caching F Bool := do
  let current ← currentTime now
  let selected ← Script.lift (coordinator.selectedTtl ttl)
  let made ← Script.lift (coordinator.explicitEntry identity value selected current)
  Script.invoke (.compareAndSet coordinator.policy.cacheResource made expectedVersion
    (ttlMilliseconds selected) : CacheHook F) (orUnavailable "compare_and_set failed")

/-- `delete`: the key is computed inside the `try` statement. -/
def delete (identity : Dict Str (PyValue F)) : Caching F Bool := do
  let key ← Script.lift (orUnavailable "cache delete failed" (coordinator.policy.key identity))
  Script.invoke (.delete coordinator.policy.cacheResource key : CacheHook F)
    (orUnavailable "cache delete failed")

/-- `inspect`. -/
def inspect (identity : Dict Str (PyValue F)) : Caching F (Option (VersionedCacheEntry F)) := do
  let key ← Script.lift (orUnavailable "cache get failed" (coordinator.policy.key identity))
  Script.invoke (.get coordinator.policy.cacheResource key : CacheHook F)
    (orUnavailable "cache get failed")

/-! ## A sample coordinator -/

omit [FloatText F] in
/-- An envelope that stores timestamps as RFC 3339 text and refuses an entry that has expired
when it is created. -/
def textEnvelope (fields : CacheEntry F) : Except Exc (CacheEntry F) := do
  let createdAt ← fields.createdAt.toUtc "createdAt"
  let expiresAt ← expiry fields.expiresAt
  refuse (isExpired expiresAt createdAt = true) (.valueError "cache entry expires before creation")
  return { fields with
    createdAt := .text (rfc3339 createdAt)
    expiresAt := expiresAt.map fun instant => .text (rfc3339 instant) }

/-- A coordinator over the sample rows with the canonical serializer. -/
def sample : CacheCoordinator Empty where
  policy := rowColumnPolicy
  serializer := canonicalJsonSerializer
  envelope := textEnvelope
  deterministic := rfl
  serializer_id := rfl

/-- The key of the sample row. -/
def sampleKey : PyValue Empty := .sequence [.str (str "rows"), .int 1, .int 2]

/-- Noon of 2026-08-25. -/
def sampleInstant : Utc := ⟨63923256000000000, by decide⟩

/-- What a loader of the sample row returns. -/
def sampleLoaded : LoadedValue Empty := ⟨.int 7, none⟩

/-- The entry of the sample row when it is loaded at noon. -/
def sampleEntry : CacheEntry Empty where
  key := .array [.str (str "rows"), .int 1, .int 2]
  value := .object [(valueField, .int 7)]
  serializerId := rowColumnPolicy.serializerId
  schemaFingerprint := rowColumnPolicy.schemaFingerprint
  createdAt := .text (str "2026-08-25T12:00:00.000000Z")
  expiresAt := some (.text (str "2026-08-25T12:00:30.000000Z"))
  sourceVersion := none

theorem entry_sample : sample.entry sampleKey (some sampleLoaded) sampleInstant =
    .ok (some (sampleEntry, 30000000)) := rfl

theorem validEntry_sampleEntry : sample.validEntry sampleEntry none sampleInstant = .ok true := by
  decide +kernel

theorem decodeEntry_sampleEntry : sample.decodeEntry sampleEntry = .ok (.int 7) :=
  rfl

end CacheCoordinator

end DataLifecycle.Cache
