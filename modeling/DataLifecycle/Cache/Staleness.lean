import DataLifecycle.Cache.World
import DataLifecycle.Timestamp

/-!
# Bounded staleness of cache hits

An entry is created with a time sample from before its load, so a hit within the
staleness bound of its creation serves content that was loaded within the bound, however
the reads, invalidations and deletions of a coordinator interleave.
-/

namespace DataLifecycle.Cache

open Python Interaction

variable {F ι : Type} [FloatText F]

/-! ## Envelopes -/

/-- What `CacheEntry` stores of the fields that it is given.  The form of its timestamps is its
own: a stored timestamp that can be read is the given instant. -/
structure CacheEntry.Stores (entry fields : CacheEntry F) : Prop where
  key : entry.key = fields.key
  value : entry.value = fields.value
  serializerId : entry.serializerId = fields.serializerId
  schemaFingerprint : entry.schemaFingerprint = fields.schemaFingerprint
  createdAt : ∀ instant, entry.createdAt.toUtc "createdAt" = .ok instant →
    fields.createdAt.toUtc "createdAt" = .ok instant
  expiresAt : ∀ expiresAt, expiry entry.expiresAt = .ok expiresAt →
    expiry fields.expiresAt = .ok expiresAt
  sourceVersion : entry.sourceVersion = fields.sourceVersion

/-- The constructor of `CacheEntry` stores the fields that it is given. -/
def Keeps (envelope : CacheEntry F → Except Exc (CacheEntry F)) : Prop :=
  ∀ fields entry, envelope fields = .ok entry → entry.Stores fields

omit [FloatText F] in
/-- A constructor that stores timestamps as text keeps them, whatever their instant. -/
theorem keeps_textEnvelope : Keeps (CacheCoordinator.textEnvelope : CacheEntry F → _) := by
  intro fields entry made
  rw [CacheCoordinator.textEnvelope, bind_eq_ok_iff] at made
  obtain ⟨created, createdAt, made⟩ := made
  rw [bind_eq_ok_iff] at made
  obtain ⟨expires, expiresAt, made⟩ := made
  rw [bind_eq_ok_iff] at made
  obtain ⟨-, -, made⟩ := made
  cases made
  refine ⟨rfl, rfl, rfl, rfl, ?_, ?_, rfl⟩
  · intro instant read
    rw [Timestamp.toUtc, parseRfc3339_rfc3339] at read
    cases read
    exact createdAt
  · intro stored read
    cases expires with
    | none =>
        cases read
        exact expiresAt
    | some instant =>
        rw [Option.map_some, expiry, Timestamp.toUtc, parseRfc3339_rfc3339] at read
        cases read
        exact expiresAt

/-- What a serializer decodes from its own encoding is the same JSON data. -/
def CacheSerializer.Faithful (serializer : CacheSerializer F) : Prop :=
  ∀ value encoded data decoded, serializer.encode value = .ok encoded →
    jsonValue encoded = .ok data → serializer.decode data.toPy = .ok decoded →
    SameData decoded value

/-- The canonical serializer is faithful. -/
theorem faithful_canonicalJsonSerializer : (canonicalJsonSerializer : CacheSerializer F).Faithful := by
  intro value encoded data decoded encodedEq dataEq decodedEq
  rw [canonicalJsonSerializer, bind_eq_ok_iff] at encodedEq
  obtain ⟨json, jsonEq, equal⟩ := encodedEq
  cases equal
  have distinct := distinctKeys_of_jsonValue value jsonEq
  rw [jsonValue_toPy json distinct, Except.ok.injEq] at dataEq
  subst data
  rw [canonicalJsonSerializer, bind_eq_ok_iff] at decodedEq
  obtain ⟨bytes, encodedBytes, loaded⟩ := decodedEq
  rw [canonicalJsonBytes, jsonValue_toPy json distinct] at encodedBytes
  rw [loadsCanonical, loadsBytes_jsonBytes encodedBytes distinct] at loaded
  cases loaded
  have sorted := Json.distinctKeys_sortKeys json distinct
  refine ⟨json.sortKeys, json, jsonValue_toPy _ sorted, jsonEq, ?_⟩
  rw [Json.same_iff_sortKeys_eq _ _ sorted distinct, Json.sortKeys_sortKeys]

namespace CacheCoordinator

variable {coordinator : CacheCoordinator F}

/-- The content of an entry that was made from a loaded content at a time. -/
structure Made (coordinator : CacheCoordinator F) (key : PyValue F)
    (content : Option (LoadedValue F)) (created : Utc) (entry : CacheEntry F) : Prop where
  key_eq : jsonValue key = .ok entry.key
  createdAt : ∀ instant, entry.createdAt.toUtc "createdAt" = .ok instant → instant = created
  expiresAt : ∃ expires, ∀ stored, expiry entry.expiresAt = .ok stored → stored = some expires
  sourceVersion : entry.sourceVersion = content.bind LoadedValue.sourceVersion
  value : match content with
    | none => entry.value = negative
    | some loaded => ∃ encoded data, coordinator.serializer.encode loaded.value = .ok encoded ∧
        jsonValue encoded = .ok data ∧ entry.value = .object [(valueField, data)]

/-- An envelope around an encoded value. -/
structure Envelops (coordinator : CacheCoordinator F) (key value : PyValue F) (ttl : Int)
    (sourceVersion : Option Version) (now : Utc) (entry : CacheEntry F) : Prop where
  key_eq : jsonValue key = .ok entry.key
  value_eq : jsonValue value = .ok entry.value
  serializerId : entry.serializerId = coordinator.policy.serializerId
  schemaFingerprint : entry.schemaFingerprint = coordinator.policy.schemaFingerprint
  createdAt : ∀ instant, entry.createdAt.toUtc "createdAt" = .ok instant → instant = now
  expiresAt : ∃ expires, now.add ttl = some expires ∧
    ∀ stored, expiry entry.expiresAt = .ok stored → stored = some expires
  sourceVersion : entry.sourceVersion = sourceVersion

omit [FloatText F] in
theorem envelops_of_wrap (keeps : Keeps coordinator.envelope) {key value : PyValue F} {ttl : Int}
    {sourceVersion : Option Version} {now : Utc} {entry : CacheEntry F}
    (wrapped : coordinator.wrap key value ttl sourceVersion now = .ok entry) :
    coordinator.Envelops key value ttl sourceVersion now entry := by
  simp only [wrap, bind_eq_ok_iff, plus_eq_ok_iff] at wrapped
  obtain ⟨keyData, keyEq, valueData, valueEq, expires, added, made⟩ := wrapped
  have stores := keeps _ _ made
  refine ⟨by rw [stores.key, keyEq], by rw [stores.value, valueEq], stores.serializerId,
    stores.schemaFingerprint, ?_, ⟨expires, added, ?_⟩, stores.sourceVersion⟩
  · intro instant read
    have given := stores.createdAt instant read
    rw [Timestamp.toUtc, ensureUtc_eq_ok_iff, DateTime.toUtc_ofUtc] at given
    exact (Except.ok.inj given).symm
  · intro stored read
    obtain ⟨instant, given, equal⟩ := bind_eq_ok_iff.mp (stores.expiresAt stored read)
    cases equal
    rw [Timestamp.toUtc, ensureUtc_eq_ok_iff, DateTime.toUtc_ofUtc] at given
    rw [Except.ok.inj given]

omit [FloatText F] in
/-- What `_entry` makes. -/
theorem made_of_entry (keeps : Keeps coordinator.envelope) {key : PyValue F}
    {content : Option (LoadedValue F)} {created : Utc} {entry : CacheEntry F} {ttl : Int}
    (prepared : coordinator.entry key content created = .ok (some (entry, ttl))) :
    coordinator.Made key content created entry := by
  cases content with
  | none =>
      rw [CacheCoordinator.entry] at prepared
      split at prepared
      · cases prepared
      · rw [bind_eq_ok_iff] at prepared
        obtain ⟨made, wrapped, equal⟩ := prepared
        cases equal
        have envelops := envelops_of_wrap keeps wrapped
        have valueEq := envelops.value_eq
        have distinct : (negative : Json F).DistinctKeys := by simp [negative, Json.DistinctKeys,
          Json.DistinctKeysMembers]
        rw [jsonValue_toPy _ distinct] at valueEq
        exact ⟨envelops.key_eq, envelops.createdAt, envelops.expiresAt.imp fun _ found => found.2,
          envelops.sourceVersion, (Except.ok.inj valueEq).symm⟩
  | some loaded =>
      rw [CacheCoordinator.entry, bind_eq_ok_iff] at prepared
      obtain ⟨made, wrapped, equal⟩ := prepared
      cases equal
      rw [wrapLoaded, bind_eq_ok_iff] at wrapped
      obtain ⟨encoded, encodedEq, wrapped⟩ := wrapped
      have envelops := envelops_of_wrap keeps wrapped
      have valueEq := envelops.value_eq
      refine ⟨envelops.key_eq, envelops.createdAt, envelops.expiresAt.imp fun _ found => found.2,
        envelops.sourceVersion, encoded, ?_⟩
      rw [jsonValue, jsonMembers] at valueEq
      cases dataEq : jsonValue encoded with
      | error error =>
          rw [dataEq] at valueEq
          contradiction
      | ok data =>
          rw [dataEq] at valueEq
          exact ⟨data, encodedEq, rfl, (Except.ok.inj valueEq).symm⟩

end CacheCoordinator

/-- The read gives a loaded content, as a hit. -/
def CacheRead.Gives (read : CacheRead F) : Option (LoadedValue F) → Prop
  | none => read.outcome = .negativeHit ∧ read.value = .none ∧ read.sourceVersion = none
  | some loaded => read.outcome = .hit ∧ SameData read.value loaded.value ∧
      read.sourceVersion = loaded.sourceVersion

namespace CacheCoordinator

variable {coordinator : CacheCoordinator F}

omit [FloatText F] in
/-- What a version that passes the check satisfies. -/
theorem relates_of_versionValid {cached required : Option Version}
    (valid : coordinator.versionValid cached required = .ok true) {version : Version}
    (isRequired : required = some version)
    (strategy : coordinator.policy.sourceVersionStrategy ≠ .none) :
    ∃ found, cached = some found ∧ coordinator.relates found version = .ok true := by
  subst isRequired
  unfold versionValid at valid
  dsimp only at valid
  rw [if_neg strategy] at valid
  cases cached with
  | none => cases valid
  | some found => exact ⟨found, rfl, valid⟩

omit [FloatText F] in
/-- What an entry that passes the validity check satisfies. -/
theorem of_validEntry {entry : CacheEntry F} {required : Option Version} {now : Utc}
    (valid : coordinator.validEntry entry required now = .ok true) :
    entry.serializerId = coordinator.policy.serializerId ∧
      entry.schemaFingerprint = coordinator.policy.schemaFingerprint ∧
      ∃ createdAt expiresAt limit, entry.createdAt.toUtc "createdAt" = .ok createdAt ∧
        expiry entry.expiresAt = .ok expiresAt ∧ isExpired expiresAt now = false ∧
        createdAt.add coordinator.policy.maximumStaleness = some limit ∧ now ≤ limit ∧
        coordinator.versionValid entry.sourceVersion required = .ok true := by
  rw [validEntry] at valid
  split at valid
  · cases valid
  next sameSerializer =>
    split at valid
    · cases valid
    next sameFingerprint =>
      rw [bind_eq_ok_iff] at valid
      obtain ⟨createdAt, created, valid⟩ := valid
      rw [bind_eq_ok_iff] at valid
      obtain ⟨expiresAt, expires, valid⟩ := valid
      split at valid
      · cases valid
      next notExpired =>
        rw [bind_eq_ok_iff] at valid
        obtain ⟨limit, added, valid⟩ := valid
        split at valid
        · cases valid
        next fresh =>
          exact ⟨not_not.mp sameSerializer, not_not.mp sameFingerprint, createdAt, expiresAt, limit,
            created, expires, by simpa using notExpired, plus_eq_ok_iff.mp added, not_lt.mp fresh,
            valid⟩

omit [FloatText F] in
/-- A valid entry that was made at a time is within the staleness bound of that time and
not expired. -/
theorem Made.bounded {key : PyValue F} {content : Option (LoadedValue F)} {created now : Utc}
    {entry : CacheEntry F} {required : Option Version}
    (made : coordinator.Made key content created entry)
    (valid : coordinator.validEntry entry required now = .ok true) :
    (now.val : Int) ≤ created.val + coordinator.policy.maximumStaleness ∧
      ∃ expires, expiry entry.expiresAt = .ok (some expires) ∧ now < expires := by
  obtain ⟨-, -, createdAt, expiresAt, limit, createdEq, expiresEq, notExpired, added, fresh, -⟩ :=
    of_validEntry valid
  obtain ⟨expires, expiresAtEq⟩ := made.expiresAt
  obtain rfl := made.createdAt createdAt createdEq
  obtain rfl := expiresAtEq expiresAt expiresEq
  constructor
  · rw [Utc.add, Utc.ofInt] at added
    split at added
    · cases added
      rw [Fin.le_def] at fresh
      change now.val ≤ (createdAt.val + coordinator.policy.maximumStaleness).toNat at fresh
      omega
    · cases added
  · refine ⟨expires, expiresEq, ?_⟩
    simpa [isExpired] using notExpired

/-- An entry is negative if nothing was loaded. -/
theorem Made.isNegative_eq {key : PyValue F} {content : Option (LoadedValue F)} {created : Utc}
    {entry : CacheEntry F} (made : coordinator.Made key content created entry) :
    isNegative entry.value = content.isNone := by
  have value := made.value
  cases content with
  | none =>
      rw [value]
      simp [isNegative, negative, isTrue]
  | some loaded =>
      obtain ⟨encoded, data, -, -, valueEq⟩ := value
      have different : valueField ≠ str "$meridian.cache.negative" := by decide
      rw [valueEq]
      simp [isNegative, different]

omit [FloatText F] in
/-- The value of a positive entry is decoded from the encoding of what was loaded. -/
theorem Made.decodeEntry_eq {key : PyValue F} {loaded : LoadedValue F} {created : Utc}
    {entry : CacheEntry F} (made : coordinator.Made key (some loaded) created entry) :
    ∃ encoded data, coordinator.serializer.encode loaded.value = .ok encoded ∧
      jsonValue encoded = .ok data ∧
      coordinator.decodeEntry entry = coordinator.serializer.decode data.toPy := by
  obtain ⟨encoded, data, encodedEq, dataEq, valueEq⟩ := made.value
  refine ⟨encoded, data, encodedEq, dataEq, ?_⟩
  rw [decodeEntry, valueEq, payload, if_pos rfl]
  rfl

/-- What is served from an entry is the content that it was made from. -/
theorem Made.served {key : PyValue F} {content : Option (LoadedValue F)} {created : Utc}
    {entry : CacheEntry F} {read : CacheRead F}
    (faithful : coordinator.serializer.Faithful)
    (made : coordinator.Made key content created entry)
    (outcome : read.outcome = .negativeHit ∧ isNegative entry.value = true ∧ read.value = .none ∨
      read.outcome = .hit ∧ isNegative entry.value = false ∧
        coordinator.decodeEntry entry = .ok read.value)
    (sourceVersion : read.sourceVersion = entry.sourceVersion) : read.Gives content := by
  rw [made.sourceVersion] at sourceVersion
  rw [made.isNegative_eq] at outcome
  cases content with
  | none =>
      rcases outcome with ⟨negativeHit, -, noValue⟩ | ⟨-, notNegative, -⟩
      · exact ⟨negativeHit, noValue, sourceVersion⟩
      · contradiction
  | some loaded =>
      rcases outcome with ⟨-, isNegative, -⟩ | ⟨hit, -, decoded⟩
      · contradiction
      · obtain ⟨encoded, data, encodedEq, dataEq, decodeEq⟩ := made.decodeEntry_eq
        rw [decodeEq] at decoded
        exact ⟨hit, faithful loaded.value encoded data read.value encodedEq dataEq decoded,
          sourceVersion⟩

end CacheCoordinator

/-! ## What a task may do -/

/-- The key that a task uses. -/
def Task.key (coordinator : CacheCoordinator F) : Task F → Option (PyValue F)
  | .read identity _ => (coordinator.policy.key identity).toOption
  | .invalidateAfterCommit _ => none
  | .delete identity => (coordinator.policy.key identity).toOption

namespace CacheCoordinator

variable (coordinator : CacheCoordinator F) (task : Task F)

/-- A task looks up its own key, and stores only the envelope of what its loader returned
since the last time sample, created at that sample.  Only a read has a loader. -/
def contract : Contract (CacheHook F) CacheHook.Response (View F) where
  allows view
    | .get resource own =>
        resource = coordinator.policy.cacheResource ∧ task.key coordinator = some own
    | .put resource made _ => resource = coordinator.policy.cacheResource ∧
        ∃ own now content ttl, task.key coordinator = some own ∧ view.sample = some now ∧
          view.loaded = some content ∧ coordinator.entry own content now = .ok (some (made, ttl))
    | .load => ∃ identity required, task = .read identity required
    | .putIfAbsent _ _ _ => False
    | .compareAndSet _ _ _ _ => False
    | _ => True
  next view hook response := view.after ⟨hook, response⟩
  answers _ _ _ := True

/-- A read returns the content of the entry that its last lookup returned and found
valid. -/
structure Serves (required : Option Version) (read : CacheRead F) (now : Utc)
    (entry : CacheEntry F) : Prop where
  valid : coordinator.validEntry entry required now = .ok true
  sourceVersion : read.sourceVersion = entry.sourceVersion
  content : read.outcome = .negativeHit ∧ isNegative entry.value = true ∧ read.value = .none ∨
    read.outcome = .hit ∧ isNegative entry.value = false ∧
      coordinator.decodeEntry entry = .ok read.value

/-- The result of a read is not from the cache, or serves what was seen. -/
def Accounts (required : Option Version) (read : CacheRead F) (view : View F) : Prop :=
  read.outcome = .hit ∨ read.outcome = .negativeHit →
    ∃ now entry, view.sample = some now ∧ view.fetched = some entry ∧
      coordinator.Serves required read now entry

variable {coordinator task} {view : View F} {α β : Type}

variable (coordinator task) in
/-- The part keeps the contract and returns with the given postcondition; it may raise
anything. -/
def Obeys (part : Caching F α) (normal : α → View F → Prop) (view : View F) : Prop :=
  part.Safe
    (fun before hook response after => True ∧ after = View.after before ⟨hook, response⟩)
    (coordinator.contract task).allows (fun value _ => normal value) (fun _ _ _ => True) () view

theorem obeys_bind {part : Caching F β} {rest : β → Caching F α} {normal : α → View F → Prop}
    (obeys : coordinator.Obeys task part (fun value => coordinator.Obeys task (rest value) normal)
      view) :
    coordinator.Obeys task (part >>= rest) normal view :=
  Script.safe_bind.mpr obeys

theorem obeys_lift {result : Except Exc α} {normal : α → View F → Prop}
    (returns : ∀ value, result = .ok value → normal value view) :
    coordinator.Obeys task (Script.lift result) normal view := by
  cases result with
  | ok value => exact returns value rfl
  | error => trivial

theorem obeys_invoke {hook : CacheHook F} {answer : hook.Response → Except Exc α}
    {normal : α → View F → Prop} (allowed : (coordinator.contract task).allows view hook)
    (returns : ∀ response value, answer response = .ok value →
      normal value (view.after ⟨hook, response⟩)) :
    coordinator.Obeys task (Script.invoke hook answer) normal view := by
  rw [Obeys, Script.safe_invoke]
  refine ⟨allowed, ?_⟩
  rintro response _ ⟨-, rfl⟩
  cases answered : answer response with
  | ok value => exact returns response value answered
  | error => trivial

theorem obeys_request {hook : CacheHook F} {normal : hook.Answer → View F → Prop}
    (allowed : (coordinator.contract task).allows view hook)
    (returns : ∀ answer, normal answer (view.after ⟨hook, .ok answer⟩)) :
    coordinator.Obeys task (request hook) normal view := by
  apply obeys_invoke allowed
  rintro response answer rfl
  exact returns answer

theorem obeys_attempt {hook : CacheHook F} {normal : Except Exc hook.Answer → View F → Prop}
    (allowed : (coordinator.contract task).allows view hook)
    (returns : ∀ response : hook.Response, normal response (view.after ⟨hook, response⟩)) :
    coordinator.Obeys task (attempt hook) normal view := by
  apply obeys_invoke allowed
  intro response value answered
  unfold caught at answered
  split at answered
  · cases answered
    exact returns _
  · split at answered
    · cases answered
      exact returns _
    · cases answered

theorem obeys_recordFailure {state : String} {error : Exc} {now : Utc}
    {normal : Str → View F → Prop} (returns : normal (errorCode error) view) :
    coordinator.Obeys task (coordinator.recordFailure state error now) normal view := by
  apply obeys_bind
  apply obeys_lift
  intro evidence _
  apply obeys_bind
  apply obeys_request
  · trivial
  · exact fun _ => returns

theorem obeys_evict {state : String} {own : PyValue F} {now : Utc}
    {normal : Unit → View F → Prop} (returns : normal () view) :
    coordinator.Obeys task (coordinator.evict state own now) normal view := by
  apply obeys_bind
  apply obeys_attempt
  · trivial
  · intro response
    cases response with
    | ok => exact returns
    | error error =>
        apply obeys_bind
        exact obeys_recordFailure returns

/-! ## Reads -/

section Read

variable {own : PyValue F} {required : Option Version} {now : Utc}

theorem obeys_cached {normal : Option (CacheRead F) × Option Str → View F → Prop}
    (keyed : task.key coordinator = some own) (sampled : view.sample = some now)
    (hit : ∀ read after entry, after.sample = some now → after.fetched = some entry →
      coordinator.Serves required read now entry → normal (some read, none) after)
    (miss : ∀ code after, after.sample = some now → normal (none, code) after) :
    coordinator.Obeys task (coordinator.cached own required now) normal view := by
  apply obeys_bind
  apply obeys_attempt
  · exact ⟨rfl, keyed⟩
  intro response
  rcases response with error | _ | found
  · apply obeys_bind
    apply obeys_recordFailure
    apply obeys_bind
    exact Script.safe_refuse.mpr ⟨fun _ => trivial, fun _ => miss _ _ sampled⟩
  · exact miss none _ sampled
  · apply obeys_bind
    apply obeys_lift
    intro valid validEq
    cases valid with
    | false =>
        apply obeys_bind
        apply obeys_evict
        exact miss none _ sampled
    | true =>
        change coordinator.Obeys task (coordinator.serve own found.entry now) normal _
        unfold serve
        cases isNegativeEq : isNegative found.entry.value with
        | true => exact hit _ _ found.entry sampled rfl ⟨validEq, rfl, .inl ⟨rfl, isNegativeEq, rfl⟩⟩
        | false =>
            apply obeys_bind
            apply obeys_lift
            intro decoded decodedEq
            cases decodedValue : coordinator.decodeEntry found.entry with
            | ok value =>
                rw [decodedValue] at decodedEq
                cases decodedEq
                exact hit _ _ found.entry sampled rfl
                  ⟨validEq, rfl, .inr ⟨rfl, isNegativeEq, decodedValue⟩⟩
            | error error =>
                rw [decodedValue, caught] at decodedEq
                split at decodedEq
                · cases decodedEq
                  apply obeys_bind
                  apply obeys_evict
                  apply obeys_bind
                  apply obeys_recordFailure
                  exact miss none _ sampled
                · cases decodedEq

theorem obeys_load {cacheError : Option Str} {normal : CacheRead F → View F → Prop}
    (isRead : ∃ identity required, task = .read identity required)
    (keyed : task.key coordinator = some own) (sampled : view.sample = some now)
    (returns : ∀ read after, ¬ (read.outcome = .hit ∨ read.outcome = .negativeHit) →
      normal read after) :
    coordinator.Obeys task (coordinator.load own cacheError now) normal view := by
  have missed : ∀ content code after, normal (loadedRead content code (missOutcome code)) after := by
    intro content code after
    apply returns
    have outcome : (loadedRead content code (missOutcome code)).outcome = missOutcome code := by
      cases content <;> rfl
    rw [outcome, missOutcome]
    split <;> simp
  apply obeys_bind
  apply obeys_request
  · exact isRead
  intro content
  apply obeys_bind
  apply obeys_lift
  intro prepared preparedEq
  apply obeys_bind
  cases prepared with
  | none => exact missed content cacheError _
  | some prepared =>
      obtain ⟨made, ttl⟩ := prepared
      apply obeys_bind
      apply obeys_attempt
      · exact ⟨rfl, own, now, content, ttl, keyed, sampled, rfl, preparedEq⟩
      intro response
      cases response with
      | ok => exact missed content cacheError _
      | error error =>
          apply obeys_bind
          apply obeys_recordFailure
          exact missed content _ _

theorem obeys_sampleClock {normal : Utc → View F → Prop}
    (returns : ∀ now after, after.sample = some now → normal now after) :
    coordinator.Obeys task sampleClock normal view := by
  apply obeys_bind
  apply obeys_request
  · trivial
  intro time
  apply obeys_lift
  intro instant converted
  apply returns
  change time.toUtc.toOption = some instant
  rw [ensureUtc_eq_ok_iff.mp converted]
  rfl

theorem obeys_readThrough {identity : Dict Str (PyValue F)} (sampled : view.sample = some now) :
    coordinator.Obeys (.read identity required) (coordinator.readThrough identity required now)
      (coordinator.Accounts required) view := by
  have isRead : ∃ own version, Task.read identity required = .read own version := ⟨_, _, rfl⟩
  have keyed : ∀ own, coordinator.policy.key identity = .ok own →
      (Task.read identity required).key coordinator = some own := by
    intro own ownEq
    rw [Task.key, ownEq]
    rfl
  apply obeys_bind
  apply obeys_lift
  intro own ownEq
  apply obeys_bind
  apply obeys_cached (keyed own ownEq) sampled
  · intro read after entry sampledAfter fetched serves _
    exact ⟨now, entry, sampledAfter, fetched, serves⟩
  · intro code after sampledAfter
    apply obeys_bind
    apply obeys_lift
    intro flightKey _
    apply obeys_bind
    apply obeys_request
    · trivial
    rintro ⟨event, leader⟩
    cases leader with
    | true =>
        apply Script.safe_tryFinally.mpr
        have loads : coordinator.Obeys (.read identity required) (coordinator.load own code now)
            (fun read _ => ¬ (read.outcome = .hit ∨ read.outcome = .negativeHit)) after :=
          obeys_load isRead (keyed own ownEq) sampledAfter fun _ _ missed => missed
        apply Script.Safe.mono loads
        · intro read _ loaded missed
          apply obeys_request
          · trivial
          · exact fun _ served => absurd served missed
        · intro error _ loaded _
          apply Script.safe_invoke.mpr
          refine ⟨trivial, ?_⟩
          rintro response _ -
          cases response <;> trivial
    | false =>
        apply obeys_bind
        apply obeys_request
        · trivial
        intro _
        apply obeys_bind
        apply obeys_sampleClock
        intro resampled woken sampledWoken
        apply obeys_bind
        apply obeys_cached (keyed own ownEq) sampledWoken
        · intro read after entry sampledAfter fetched serves _
          exact ⟨resampled, entry, sampledAfter, fetched, serves⟩
        · intro followerCode missedAgain _
          apply obeys_bind
          apply obeys_sampleClock
          intro later relooked sampledRelooked
          apply obeys_load isRead (keyed own ownEq) sampledRelooked
          exact fun read after missed served => absurd served missed

theorem obeys_read {identity : Dict Str (PyValue F)} :
    coordinator.Obeys (.read identity required) (coordinator.read identity required none)
      (coordinator.Accounts required) view := by
  apply obeys_bind
  apply obeys_sampleClock
  intro now after sampled
  cases enabled : coordinator.policy.enabled with
  | true => exact obeys_readThrough sampled
  | false =>
      apply obeys_bind
      apply obeys_request
      · exact ⟨identity, required, rfl⟩
      intro content served
      cases content <;> simp [loadedRead] at served

end Read

variable (coordinator) in
/-- The postcondition of a task. -/
def Returns (task : Task F) (outcome : Except Exc (Outcome F) × Unit) (view : View F) : Prop :=
  ∀ identity required read, task = .read identity required → outcome.1 = .ok (.read read) →
    coordinator.Accounts required read view

/-- Every task meets its contract. -/
theorem meets_script (task : Task F) :
    (task.script coordinator ()).Meets (coordinator.contract task)
      (coordinator.Returns task) {} := by
  have returned : ∀ (script : Caching F (Outcome F)) (normal : Outcome F → View F → Prop),
      coordinator.Obeys task script normal {} →
      (∀ outcome view, normal outcome view → coordinator.Returns task (.ok outcome, ()) view) →
      (script ()).Meets (coordinator.contract task) (coordinator.Returns task) {} := by
    intro script normal obeys implies
    apply Prog.Safe.mono obeys
    rintro ⟨error | outcome, _⟩ view held
    · intro identity required read _ raised
      cases raised
    · exact implies outcome view held
  cases task with
  | read identity required =>
      apply returned _ fun outcome view =>
        ∃ read, outcome = .read read ∧ coordinator.Accounts required read view
      · apply obeys_bind
        apply Script.Safe.mono obeys_read
        · intro read _ view accounts
          exact ⟨read, rfl, accounts⟩
        · exact fun _ _ _ _ => trivial
      · rintro _ view ⟨read, rfl, accounts⟩ identity other found same equal
        cases same
        cases equal
        exact accounts
  | invalidateAfterCommit selector =>
      apply returned _ fun _ _ => True
      · apply obeys_bind
        apply obeys_bind
        apply obeys_sampleClock
        intro now view _
        apply obeys_bind
        apply obeys_attempt
        · trivial
        intro response
        cases response with
        | ok => trivial
        | error error =>
            apply obeys_bind
            apply obeys_recordFailure
            trivial
      · intro outcome view _ identity required read same
        cases same
  | delete identity =>
      apply returned _ fun _ _ => True
      · apply obeys_bind
        apply obeys_bind
        apply obeys_lift
        intro own _
        apply obeys_invoke
        · trivial
        · exact fun _ _ _ => trivial
      · intro outcome view _ identity required read same
        cases same

end CacheCoordinator

/-! ## One step of the world -/

namespace World

variable {thread : ι} {world after : World F ι} {hook : CacheHook F} {response : hook.Response}
  {view : View F}

theorem Answers.views_eq (answered : Answers thread world hook response after) :
    after.views = world.views := by
  cases answered with
  | joinFlight flightKey =>
      unfold join
      split <;> rfl
  | leaveFlight flightKey =>
      unfold leave
      split <;> rfl
  | _ => rfl

theorem Answers.time_le (answered : Answers thread world hook response after) :
    world.time ≤ after.time := by
  cases answered with
  | clock _ _ _ later => exact later
  | loads _ _ later => exact later
  | raises _ _ later => exact later
  | joinFlight flightKey =>
      unfold join
      split <;> rfl
  | leaveFlight flightKey =>
      unfold leave
      split <;> rfl
  | _ => exact le_refl _

theorem Answers.loads_subset (answered : Answers thread world hook response after) :
    world.loads ⊆ after.loads := by
  cases answered with
  | loads => exact List.subset_append_left _ _
  | joinFlight flightKey =>
      unfold join
      split <;> exact List.Subset.refl _
  | leaveFlight flightKey =>
      unfold leave
      split <;> exact List.Subset.refl _
  | _ => exact List.Subset.refl _

/-- A load was logged before, or is that of the thread. -/
theorem Answers.mem_loads (answered : Answers thread world hook response after) {load : Load F ι}
    (member : load ∈ after.loads) : load ∈ world.loads ∨ hook = .load ∧ load.thread = thread := by
  cases answered with
  | loads content instant later =>
      rcases List.mem_append.mp member with earlier | isNew
      · exact .inl earlier
      · cases List.mem_singleton.mp isNew
        exact .inr ⟨rfl, rfl⟩
  | joinFlight flightKey =>
      unfold join at member
      split at member <;> exact .inl member
  | leaveFlight flightKey =>
      unfold leave at member
      split at member <;> exact .inl member
  | _ => exact .inl member

/-- A time sample is the old one, or the time of the clock. -/
theorem Answers.sample_after (answered : Answers thread world hook response after) :
    (view.after ⟨hook, response⟩).sample = view.sample ∨
      (view.after ⟨hook, response⟩).sample = some after.time ∧
        (view.after ⟨hook, response⟩).loaded = none := by
  cases answered with
  | clock time instant converted later =>
      refine .inr ⟨?_, rfl⟩
      change time.toUtc.toOption = some instant
      rw [converted]
      rfl
  | get resource key =>
      left
      cases world.backend.get resource key <;> rfl
  | _ => exact .inl rfl

/-- What a loader returned since the sample was known, or has just been logged. -/
theorem Answers.loaded_after (answered : Answers thread world hook response after)
    {content : Option (LoadedValue F)}
    (loaded : (view.after ⟨hook, response⟩).loaded = some content) :
    view.loaded = some content ∨ ∃ instant, world.time ≤ instant ∧
      (⟨thread, instant, content⟩ : Load F ι) ∈ after.loads := by
  cases answered with
  | clock => contradiction
  | get resource key =>
      left
      cases found : world.backend.get resource key with
      | ok => simpa [found, View.after] using loaded
      | error => simpa [found, View.after] using loaded
  | loads content instant later =>
      cases loaded
      exact .inr ⟨instant, later, List.mem_append_right _ (List.mem_singleton_self _)⟩
  | _ => exact .inl loaded

/-- A fetched entry was known, or has just been found by a lookup. -/
theorem Answers.fetched_after (answered : Answers thread world hook response after)
    {entry : CacheEntry F} (fetched : (view.after ⟨hook, response⟩).fetched = some entry) :
    view.fetched = some entry ∨ ∃ resource key found, hook = .get resource key ∧
      world.backend.get resource key = .ok (some found) ∧ found.entry = entry := by
  cases answered with
  | get resource key =>
      cases found : world.backend.get resource key with
      | error => simp [found, View.after] at fetched
      | ok answer =>
          cases answer with
          | none => simp [found, View.after] at fetched
          | some stored =>
              simp only [found, View.after, Option.map_some, Option.some.injEq] at fetched
              exact .inr ⟨resource, key, stored, rfl, found, fetched⟩
  | _ => exact .inl fetched

/-- What a call may store. -/
def stores : CacheHook F → Option (Str × CacheEntry F)
  | .put resource entry _ => some (resource, entry)
  | .putIfAbsent resource entry _ => some (resource, entry)
  | .compareAndSet resource entry _ _ => some (resource, entry)
  | _ => none

/-- An entry after a call was there before, or is the one that the call stores. -/
theorem Answers.accounted (answered : Answers thread world hook response after)
    {key : Str × Str} {found : VersionedCacheEntry F}
    (present : after.backend.entries.get? key = some found) :
    InMemoryCacheBackend.Accounted world.backend (stores hook) key found := by
  cases answered with
  | put resource entry ttlMs =>
      exact InMemoryCacheBackend.accounted_apply (.put resource entry) present
  | putIfAbsent resource entry ttlMs =>
      exact InMemoryCacheBackend.accounted_apply (.putIfAbsent resource entry) present
  | compareAndSet resource entry expectedVersion ttlMs =>
      exact InMemoryCacheBackend.accounted_apply
        (.compareAndSet resource entry expectedVersion) present
  | delete resource own =>
      exact InMemoryCacheBackend.accounted_apply (.delete resource own) present
  | invalidate resource selector =>
      exact InMemoryCacheBackend.accounted_apply (.invalidate resource selector) present
  | joinFlight flightKey =>
      unfold join at present
      split at present <;> exact .inl present
  | leaveFlight flightKey =>
      unfold leave at present
      split at present <;> exact .inl present
  | _ => exact .inl present

end World

/-! ## Runs -/

section Runs

variable (coordinator : CacheCoordinator F) (tasks : ι → Task F)

/-- The entry was made from what a read with the given key digest loaded, and created
no later than that load. -/
def LoadedBy (loads : List (Load F ι)) (digest : Str) (entry : CacheEntry F) : Prop :=
  ∃ load ∈ loads, ∃ identity required key created,
    tasks load.thread = .read identity required ∧ coordinator.policy.key identity = .ok key ∧
      digestOf key = .ok digest ∧ coordinator.Made key load.content created entry ∧
      created ≤ load.instant

/-- The invariant of a run.  Samples are not ahead of the clock, what a loader returned
was loaded after the sample, and every stored or fetched entry is accounted for by a
load. -/
structure Dated (phases : ι → View F) (world : World F ι) : Prop where
  views : world.views = phases
  sampled : ∀ thread now, (phases thread).sample = some now → now ≤ world.time
  loaded : ∀ thread now content, (phases thread).sample = some now →
    (phases thread).loaded = some content →
    ∃ load ∈ world.loads, load.thread = thread ∧ now ≤ load.instant ∧ load.content = content
  readers : ∀ load ∈ world.loads, ∃ identity required, tasks load.thread = .read identity required
  stored : ∀ resource digest found, world.backend.entries.get? (resource, digest) = some found →
    LoadedBy coordinator tasks world.loads digest found.entry
  fetched : ∀ thread entry, (phases thread).fetched = some entry →
    ∃ key digest, (tasks thread).key coordinator = some key ∧ digestOf key = .ok digest ∧
      LoadedBy coordinator tasks world.loads digest entry

variable {coordinator tasks}

theorem LoadedBy.mono {loads more : List (Load F ι)} {digest : Str} {entry : CacheEntry F}
    (loadedBy : LoadedBy coordinator tasks loads digest entry) (subset : loads ⊆ more) :
    LoadedBy coordinator tasks more digest entry := by
  obtain ⟨load, member, found⟩ := loadedBy
  exact ⟨load, subset member, found⟩

theorem Task.key_of_read {identity : Dict Str (PyValue F)} {required : Option Version}
    {key : PyValue F} (own : (Task.read identity required).key coordinator = some key) :
    coordinator.policy.key identity = .ok key := by
  rw [Task.key] at own
  cases keyed : coordinator.policy.key identity with
  | ok found =>
      rw [keyed] at own
      cases own
      rfl
  | error =>
      rw [keyed] at own
      cases own

variable [DecidableEq ι] {phases : ι → View F} {world after : World F ι} {thread : ι}
  {hook : CacheHook F} {response : hook.Response}

omit [DecidableEq ι] in
/-- What the contract allows a thread to store is accounted for by its load. -/
theorem Dated.loadedBy_of_put (keeps : Keeps coordinator.envelope)
    (dated : Dated coordinator tasks phases world)
    (allowed : (coordinator.contract (tasks thread)).allows (phases thread) hook)
    {resource : Str} {entry : CacheEntry F} {key : Str × Str}
    (storing : World.stores hook = some (resource, entry))
    (computed : InMemoryCacheBackend.storageKey resource entry.key.toPy = .ok key) :
    LoadedBy coordinator tasks world.loads key.2 entry := by
  cases hook with
  | put stored made ttlMs =>
      cases storing
      obtain ⟨-, own, now, content, ttl, keyed, sample, loaded, prepared⟩ := allowed
      obtain ⟨load, member, rfl, later, rfl⟩ := dated.loaded thread now content sample loaded
      obtain ⟨identity, required, isRead⟩ := dated.readers load member
      rw [isRead] at keyed
      have made := CacheCoordinator.made_of_entry keeps prepared
      refine ⟨load, member, identity, required, own, now, isRead, Task.key_of_read keyed, ?_, made,
        later⟩
      rw [← InMemoryCacheBackend.digestOf_toPy made.key_eq]
      exact (InMemoryCacheBackend.storageKey_eq_ok computed).2
  | putIfAbsent => exact allowed.elim
  | compareAndSet => exact allowed.elim
  | _ => cases storing

/-- One answer keeps the invariant. -/
theorem Dated.step (keeps : Keeps coordinator.envelope)
    (dated : Dated coordinator tasks phases world)
    (allowed : (coordinator.contract (tasks thread)).allows (phases thread) hook)
    (responds : World.Responds thread world hook response after) :
    Dated coordinator tasks
      (Function.update phases thread ((phases thread).after ⟨hook, response⟩)) after := by
  obtain ⟨answered, answers, rfl⟩ := responds
  have time := answers.time_le
  have loads := answers.loads_subset
  constructor
  · rw [World.seen, answers.views_eq, dated.views]
  · intro other now sample
    by_cases same : other = thread
    · subst same
      rw [Function.update_self] at sample
      rcases answers.sample_after with unchanged | ⟨sampled, -⟩
      · rw [unchanged] at sample
        exact (dated.sampled other now sample).trans time
      · rw [sampled] at sample
        cases sample
        exact le_refl _
    · rw [Function.update_of_ne same] at sample
      exact (dated.sampled other now sample).trans time
  · intro other now content sample loaded
    by_cases same : other = thread
    · subst same
      rw [Function.update_self] at sample loaded
      rcases answers.sample_after with unchanged | ⟨-, reset⟩
      · rw [unchanged] at sample
        rcases answers.loaded_after loaded with earlier | ⟨instant, later, logged⟩
        · obtain ⟨load, member, found⟩ := dated.loaded other now content sample earlier
          exact ⟨load, loads member, found⟩
        · exact ⟨_, logged, rfl, (dated.sampled other now sample).trans later, rfl⟩
      · rw [reset] at loaded
        contradiction
    · rw [Function.update_of_ne same] at sample loaded
      obtain ⟨load, member, found⟩ := dated.loaded other now content sample loaded
      exact ⟨load, loads member, found⟩
  · intro load member
    rcases answers.mem_loads member with earlier | ⟨rfl, own⟩
    · exact dated.readers load earlier
    · rw [own]
      exact allowed
  · intro resource digest found present
    rcases answers.accounted present with earlier | ⟨stored, entry, storing, computed, rfl⟩
    · exact (dated.stored resource digest found earlier).mono loads
    · exact (dated.loadedBy_of_put keeps allowed storing computed).mono loads
  · intro other entry fetched
    by_cases same : other = thread
    · subst same
      rw [Function.update_self] at fetched
      rcases answers.fetched_after fetched with earlier | ⟨resource, own, found, rfl, got, rfl⟩
      · obtain ⟨key, digest, keyed, digested, loadedBy⟩ := dated.fetched other entry earlier
        exact ⟨key, digest, keyed, digested, loadedBy.mono loads⟩
      · rw [InMemoryCacheBackend.get, check_bind_eq_ok_iff, bind_eq_ok_iff] at got
        obtain ⟨-, key, computed, present⟩ := got
        exact ⟨own, key.2, allowed.2, (InMemoryCacheBackend.storageKey_eq_ok computed).2,
          (dated.stored key.1 key.2 found (Except.ok.inj present)).mono loads⟩
    · rw [Function.update_of_ne same] at fetched
      obtain ⟨key, digest, keyed, digested, loadedBy⟩ := dated.fetched other entry fetched
      exact ⟨key, digest, keyed, digested, loadedBy.mono loads⟩

/-- What a hit at a time sample serves. -/
structure FreshHit (coordinator : CacheCoordinator F) (tasks : ι → Task F)
    (loads : List (Load F ι)) (identity : Dict Str (PyValue F)) (required : Option Version)
    (read : CacheRead F) (now : Utc) (entry : CacheEntry F) : Prop where
  /-- The content is that of a load for the same identity within the staleness bound. -/
  content : ∃ load ∈ loads,
    (∃ own version, tasks load.thread = .read own version ∧
      ∀ name ∈ coordinator.policy.keyFields, ∃ field ownField, identity.get? name = some field ∧
        own.get? name = some ownField ∧ SameData field ownField) ∧
    (now.val : Int) - coordinator.policy.maximumStaleness ≤ load.instant.val ∧
    read.Gives load.content
  expiresAt : ∃ expires, expiry entry.expiresAt = .ok (some expires) ∧ now < expires
  serializerId : entry.serializerId = coordinator.policy.serializerId
  schemaFingerprint : entry.schemaFingerprint = coordinator.policy.schemaFingerprint
  /-- A required version is met by a positive entry. -/
  version : ∀ version, required = some version →
    coordinator.policy.sourceVersionStrategy ≠ .none →
    read.outcome = .hit ∧ ∃ found, entry.sourceVersion = some found ∧
      read.sourceVersion = some found ∧ coordinator.relates found version = .ok true

omit [DecidableEq ι] in
/-- What is served from an entry that a load accounts for is a fresh hit. -/
theorem LoadedBy.freshHit {loads : List (Load F ι)} {identity : Dict Str (PyValue F)}
    {required : Option Version} {key : PyValue F} {digest : Str} {entry : CacheEntry F}
    {read : CacheRead F} {now : Utc} (faithful : coordinator.serializer.Faithful)
    (collisionFree : ∀ own version other, (∃ thread, tasks thread = .read own version) →
      coordinator.policy.key own = .ok other → digestOf key = digestOf other →
      canonicalJsonBytes key = canonicalJsonBytes other)
    (keyed : coordinator.policy.key identity = .ok key) (digested : digestOf key = .ok digest)
    (loadedBy : LoadedBy coordinator tasks loads digest entry)
    (serves : coordinator.Serves required read now entry) :
    FreshHit coordinator tasks loads identity required read now entry := by
  obtain ⟨load, member, own, version, other, created, isRead, ownKeyed, ownDigested, made, earlier⟩ :=
    loadedBy
  have coincide := collisionFree own version other ⟨_, isRead⟩ ownKeyed
    (digested.trans ownDigested.symm)
  have agree := agree_of_canonicalJsonBytes_eq keyed ownKeyed coincide
  obtain ⟨serializerId, schemaFingerprint, -, -, -, -, -, -, -, -, versionValid⟩ :=
    CacheCoordinator.of_validEntry serves.valid
  obtain ⟨bounded, expires⟩ := made.bounded serves.valid
  have gives := made.served faithful serves.content serves.sourceVersion
  refine ⟨⟨load, member, ⟨own, version, isRead, fun name => agree.byName rfl⟩, ?_, gives⟩, expires,
    serializerId, schemaFingerprint, ?_⟩
  · rw [Fin.le_def] at earlier
    omega
  · intro wanted isRequired strategy
    obtain ⟨found, present, relates⟩ :=
      CacheCoordinator.relates_of_versionValid versionValid isRequired strategy
    -- A negative entry has no source version.
    have positive : read.outcome = .hit := by
      cases contentEq : load.content with
      | none =>
          have absent := made.sourceVersion
          rw [contentEq, present] at absent
          cases absent
      | some loaded =>
          rw [contentEq] at gives
          exact gives.1
    exact ⟨positive, found, present, serves.sourceVersion.trans present, relates⟩

/-- Bounded staleness of cache hits.  In every interleaving of reads, invalidations and
deletions of one coordinator, a read that returns a hit serves, at the time sample of its
lookup, what a read of the same identity loaded within the staleness bound. -/
theorem hit_bounded_staleness (coordinator : CacheCoordinator F) (tasks : ι → Task F) (time : Utc)
    (keeps : Keeps coordinator.envelope) (faithful : coordinator.serializer.Faithful)
    (collisionFree : ∀ first second firstIdentity secondIdentity firstVersion secondVersion firstKey
      secondKey, tasks first = .read firstIdentity firstVersion →
      tasks second = .read secondIdentity secondVersion →
      coordinator.policy.key firstIdentity = .ok firstKey →
      coordinator.policy.key secondIdentity = .ok secondKey →
      digestOf firstKey = digestOf secondKey →
      canonicalJsonBytes firstKey = canonicalJsonBytes secondKey)
    (pool : CachePool F ι)
    (reachable : Pool.Reachable World.Responds
      (CachePool.start coordinator tasks { time := time }) pool)
    (thread : ι) (identity : Dict Str (PyValue F)) (required : Option Version) (read : CacheRead F)
    (isRead : tasks thread = .read identity required)
    (returned : pool.threads thread = .ret (.ok (.read read), ()))
    (served : read.outcome = .hit ∨ read.outcome = .negativeHit) :
    ∃ now entry, (pool.state.views thread).sample = some now ∧
      (pool.state.views thread).fetched = some entry ∧
      FreshHit coordinator tasks pool.state.loads identity required read now entry := by
  have initially : Pool.Supervised (fun thread => coordinator.contract (tasks thread))
      (fun thread => coordinator.Returns (tasks thread)) (Dated coordinator tasks) (fun _ => {})
      (CachePool.start coordinator tasks { time := time }) :=
    ⟨fun thread => CacheCoordinator.meets_script (tasks thread), rfl, nofun, nofun, nofun, nofun, nofun⟩
  obtain ⟨phases, supervised⟩ := reachable.supervised
    (fun _ _ _ _ _ _ dated allowed responds => ⟨trivial, dated.step keeps allowed responds⟩)
    initially
  have dated := supervised.invariant
  obtain ⟨now, entry, sample, fetched, serves⟩ :=
    supervised.post returned identity required read isRead rfl served
  obtain ⟨key, digest, own, digested, loadedBy⟩ := dated.fetched thread entry fetched
  rw [isRead] at own
  have keyed := Task.key_of_read own
  refine ⟨now, entry, by rw [dated.views]; exact sample, by rw [dated.views]; exact fetched,
    loadedBy.freshHit faithful ?_ keyed digested serves⟩
  rintro other version otherKey ⟨second, reads⟩ otherKeyed
  exact collisionFree thread second identity other required version key otherKey isRead reads keyed
    otherKeyed

end Runs

open CacheCoordinator in
/-- One thread loads the sample row and the other one is served the entry. -/
theorem hit_bounded_staleness_sample :
    ∃ (pool : CachePool Empty Bool) (read : CacheRead Empty) (now : Utc) (entry : CacheEntry Empty),
      Pool.Reachable World.Responds sampleStart pool ∧
      pool.threads true = .ret (.ok (.read read), ()) ∧ read.outcome = .hit ∧
      FreshHit sample sampleTask pool.state.loads (sampleIdentity 1 2) none read now entry := by
  obtain ⟨values, bytes, accepted⟩ := CachePolicy.exists_keyed rowColumnPolicy_key
  have digested : digestOf sampleKey = .ok (prefixedDigest bytes) := accepted.digestOf
  obtain ⟨world, misses, time, -, backend, -⟩ := World.read_returns_miss rfl rowColumnPolicy_key
    (show sampleStart.state.backend.available = true from rfl) digested rfl rfl entry_sample rfl
  have present : world.backend.entries.get? (sample.policy.cacheResource, prefixedDigest bytes) =
      some ⟨sampleEntry, .number 1⟩ := by
    rw [backend]
    exact Dict.get?_set_self _ _ _
  have available : world.backend.available = true := by
    rw [backend]
    rfl
  have valid : sample.validEntry sampleEntry none world.time = .ok true := by
    rw [time]
    exact validEntry_sampleEntry
  obtain ⟨final, hits⟩ := World.read_returns_hit none rfl rowColumnPolicy_key available digested
    present valid rfl decodeEntry_sampleEntry
  have loaded : Pool.Reachable World.Responds sampleStart
      ⟨Function.update sampleStart.threads false _, world⟩ :=
    CachePool.reachable_of_read .refl rfl misses
  have reachable : Pool.Reachable World.Responds sampleStart
      ⟨Function.update _ true (.ret (.ok (.read ⟨.int 7, none, .hit, none⟩), ())), final⟩ :=
    CachePool.reachable_of_read loaded (Function.update_of_ne Bool.noConfusion _ _) hits
  have collisionFree : ∀ first second firstIdentity secondIdentity firstVersion secondVersion
      firstKey secondKey, sampleTask first = .read firstIdentity firstVersion →
      sampleTask second = .read secondIdentity secondVersion →
      sample.policy.key firstIdentity = .ok firstKey →
      sample.policy.key secondIdentity = .ok secondKey →
      digestOf firstKey = digestOf secondKey →
      canonicalJsonBytes firstKey = canonicalJsonBytes secondKey := by
    intro first second _ _ _ _ firstKey secondKey firstRead secondRead firstKeyed secondKeyed _
    cases firstRead
    cases secondRead
    rw [firstKeyed] at secondKeyed
    cases secondKeyed
    rfl
  obtain ⟨now, entry, -, -, fresh⟩ := hit_bounded_staleness sample sampleTask sampleInstant
    keeps_textEnvelope faithful_canonicalJsonSerializer collisionFree _
    reachable true _ _ ⟨.int 7, none, .hit, none⟩ rfl rfl (.inl rfl)
  exact ⟨_, _, now, entry, reachable, rfl, rfl, fresh⟩

end DataLifecycle.Cache
