import DataLifecycle.Cache.Coordinator
import DataLifecycle.Raises

/-!
# Cache transparency on reads

A read with the cache and its fallback switched on is transparent when it raises only
what the loader raised, and otherwise returns what the loader returned or the content
of a valid entry.  The handlers of a read cover the calls of the backend, but neither
the validity check of an entry nor the envelope around a loaded value, so a read is
transparent exactly when these have nothing to raise.
-/

namespace DataLifecycle.Cache

open Python Interaction

variable {F : Type}

/-- What a read has been given and what it has seen so far: the calls in order, each
with the time sample in force. -/
structure Watch (F : Type) where
  given : Option DateTime
  now : Option Utc
  calls : List (Option Utc × CacheCall F) := []

/-- The time sample after a call. -/
def CacheCall.sample (now : Option Utc) : CacheCall F → Option Utc
  | ⟨.clock, .ok time⟩ => time.toUtc.toOption
  | _ => now

/-- The exception that the loader raised, if the call is one where it did. -/
def CacheCall.loadError : CacheCall F → Option Exc
  | ⟨.load, .error error⟩ => some error
  | _ => none

/-- The watch after a call. -/
def Watch.see (watch : Watch F) (call : CacheCall F) : Watch F :=
  { watch with
    now := call.sample watch.now
    calls := watch.calls ++ [(watch.now, call)] }

/-- The watch before the first call of a read. -/
def Watch.start (given : Option DateTime) : Watch F where
  given := given
  now := given.bind fun time => time.toUtc.toOption

/-- The responses that a read is meant to cope with: the backend may raise any
`Exception`, the loader may raise anything, and nothing else raises. -/
def Admissible : CacheCall F → Prop
  | ⟨.load, _⟩ => True
  | ⟨.get _ _, .error error⟩ => error.isException = true
  | ⟨.put _ _ _, .error error⟩ => error.isException = true
  | ⟨.delete _ _, .error error⟩ => error.isException = true
  | ⟨_, .error _⟩ => False
  | ⟨_, .ok _⟩ => True

/-- The environment of a read, with the watch as its state. -/
def Observes (before : Watch F) (hook : CacheHook F) (response : hook.Response)
    (after : Watch F) : Prop :=
  Admissible ⟨hook, response⟩ ∧ after = before.see ⟨hook, response⟩

/-- The error code of an exception can be recorded as evidence. -/
def Recordable (error : Exc) : Prop := ∀ point ∈ errorCode error, isSurrogate point = false

namespace CacheCoordinator

variable [FloatText F] (coordinator : CacheCoordinator F)

omit [FloatText F] in
/-- The validity check of an entry has nothing to raise: if the entry carries the ids of
the policy, its timestamps are readable; unless it is expired, its staleness limit is a
date; unless it is also stale, its version can be compared. -/
def Readable (entry : CacheEntry F) (required : Option Version) (now : Utc) : Prop :=
  entry.serializerId = coordinator.policy.serializerId →
  entry.schemaFingerprint = coordinator.policy.schemaFingerprint →
  ∃ createdAt expiresAt, entry.createdAt.toUtc "createdAt" = .ok createdAt ∧
    expiry entry.expiresAt = .ok expiresAt ∧
    (isExpired expiresAt now = false →
      ∃ limit, createdAt.add coordinator.policy.maximumStaleness = some limit ∧
        (now ≤ limit → ∃ related, coordinator.versionValid entry.sourceVersion required =
          .ok related))

/-- A valid positive entry is decoded, or its corruption can be recorded. -/
def Decodable (entry : CacheEntry F) (required : Option Version) (now : Utc) : Prop :=
  coordinator.validEntry entry required now = .ok true → isNegative entry.value = false →
    ∀ error, coordinator.decodeEntry entry = .error error →
      error.isException = true ∧ Recordable error

omit [FloatText F] in
/-- An encoded value can be put into an envelope: it is JSON data, its expiry is a date,
and the constructor of the entry accepts it. -/
def Wraps (key value : PyValue F) (ttl : Int) (sourceVersion : Option Version) (now : Utc) : Prop :=
  ∃ keyData valueData expiresAt made, jsonValue key = .ok keyData ∧
    jsonValue value = .ok valueData ∧ now.add ttl = some expiresAt ∧
    coordinator.envelope {
      key := keyData
      value := valueData
      serializerId := coordinator.policy.serializerId
      schemaFingerprint := coordinator.policy.schemaFingerprint
      createdAt := .datetime (.ofUtc now)
      expiresAt := some (.datetime (.ofUtc expiresAt))
      sourceVersion := sourceVersion } = .ok made

omit [FloatText F] in
/-- What the loader returned can be stored, as far as it is to be stored. -/
def Storable (key : PyValue F) (loaded : Option (LoadedValue F)) (now : Utc) : Prop :=
  match loaded with
  | none => ∀ ttl, coordinator.policy.negativeTtl = some ttl →
      coordinator.Wraps key negative.toPy ttl none now
  | some loaded => ∃ encoded, coordinator.serializer.encode loaded.value = .ok encoded ∧
      coordinator.Wraps key (.mapping [(.str valueField, encoded)]) coordinator.policy.defaultTtl
        loaded.sourceVersion now

/-- A response that gives the unguarded parts of a read nothing to raise. -/
def Harmless (key : PyValue F) (required : Option Version) (now : Option Utc) :
    CacheCall F → Prop
  | ⟨.clock, .ok time⟩ => ∃ instant, time.toUtc = .ok instant
  | ⟨.get _ _, .ok (some found)⟩ => ∀ instant, now = some instant →
      coordinator.Readable found.entry required instant ∧
        coordinator.Decodable found.entry required instant
  | ⟨.get _ _, .error error⟩ => Recordable error
  | ⟨.put _ _ _, .error error⟩ => Recordable error
  | ⟨.delete _ _, .error error⟩ => Recordable error
  | ⟨.load, .ok loaded⟩ => ∀ instant, now = some instant → coordinator.Storable key loaded instant
  | _ => True

/-- Everything that a read was given is harmless. -/
structure Benign (key : PyValue F) (required : Option Version) (watch : Watch F) : Prop where
  given : ∀ time, watch.given = some time → ∃ instant, time.toUtc = .ok instant
  calls : ∀ seen ∈ watch.calls, coordinator.Harmless key required seen.1 seen.2

/-- The read returns what the loader returned. -/
def FromLoader (read : CacheRead F) (watch : Watch F) : Prop :=
  ∃ now loaded, (now, (⟨.load, .ok loaded⟩ : CacheCall F)) ∈ watch.calls ∧
    read.value = (loaded.map LoadedValue.value).getD .none ∧
    read.sourceVersion = loaded.bind LoadedValue.sourceVersion

/-- The read returns the content of a valid entry that the backend returned. -/
def FromEntry (key : PyValue F) (required : Option Version) (read : CacheRead F)
    (watch : Watch F) : Prop :=
  ∃ now found, (some now,
      (⟨.get coordinator.policy.cacheResource key, .ok (some found)⟩ : CacheCall F)) ∈ watch.calls ∧
    coordinator.validEntry found.entry required now = .ok true ∧
    read.sourceVersion = found.entry.sourceVersion ∧
    (isNegative found.entry.value = true ∧ read.value = .none ∨
      coordinator.decodeEntry found.entry = .ok read.value)

/-- The outcome of a read is that of a read without a cache, or comes from a valid
entry. -/
def Transparent (key : PyValue F) (required : Option Version) (watch : Watch F) :
    Except Exc (CacheRead F) → Prop
  | .ok read => FromLoader read watch ∨ coordinator.FromEntry key required read watch
  | .error error => ∃ now, (now, (⟨.load, .error error⟩ : CacheCall F)) ∈ watch.calls

/-! ## Watches -/

/-- The loader has not raised. -/
def Quiet (watch : Watch F) : Prop := ∀ seen ∈ watch.calls, seen.2.loadError = none

omit [FloatText F] in
theorem quiet_see {watch : Watch F} {call : CacheCall F} :
    Quiet (watch.see call) ↔ Quiet watch ∧ call.loadError = none := by
  simp only [Quiet, Watch.see, List.forall_mem_append, List.forall_mem_singleton]

variable {coordinator} {key : PyValue F} {required : Option Version} {watch after : Watch F}

theorem benign_see {call : CacheCall F} :
    coordinator.Benign key required (watch.see call) ↔
      coordinator.Benign key required watch ∧ coordinator.Harmless key required watch.now call := by
  constructor
  · rintro ⟨given, calls⟩
    rw [Watch.see, List.forall_mem_append, List.forall_mem_singleton] at calls
    exact ⟨⟨given, calls.1⟩, calls.2⟩
  · rintro ⟨⟨given, calls⟩, harmless⟩
    refine ⟨given, ?_⟩
    rw [Watch.see, List.forall_mem_append, List.forall_mem_singleton]
    exact ⟨calls, harmless⟩

variable (coordinator key required) in
/-- The calls in between changed neither the time sample nor whether all is benign. -/
structure Continues (before after : Watch F) : Prop where
  now : after.now = before.now
  seen : before.calls ⊆ after.calls
  quiet : Quiet after
  benign : coordinator.Benign key required after ↔ coordinator.Benign key required before

theorem Continues.refl (quiet : Quiet watch) : coordinator.Continues key required watch watch :=
  ⟨rfl, List.Subset.refl _, quiet, Iff.rfl⟩

theorem Continues.trans {middle : Watch F}
    (first : coordinator.Continues key required watch middle)
    (second : coordinator.Continues key required middle after) :
    coordinator.Continues key required watch after :=
  ⟨second.now.trans first.now, List.Subset.trans first.seen second.seen, second.quiet,
    second.benign.trans first.benign⟩

/-- A harmless call that samples no time. -/
theorem continues_see {call : CacheCall F} (quiet : Quiet watch)
    (notRaised : call.loadError = none) (sample : call.sample watch.now = watch.now)
    (harmless : coordinator.Harmless key required watch.now call) :
    coordinator.Continues key required watch (watch.see call) where
  now := sample
  seen := List.subset_append_left _ _
  quiet := quiet_see.mpr ⟨quiet, notRaised⟩
  benign := benign_see.trans (and_iff_left harmless)

variable (coordinator key required) in
/-- Where a read may raise: the loader raised the same exception and all else is
benign, or something is not benign and the loader did not raise. -/
def Raises (error : Exc) (watch : Watch F) : Prop :=
  coordinator.Benign key required watch ∧
      (∃ now, (now, (⟨.load, .error error⟩ : CacheCall F)) ∈ watch.calls) ∨
    ¬ coordinator.Benign key required watch ∧ Quiet watch

theorem Raises.see {error : Exc} {call : CacheCall F}
    (raises : coordinator.Raises key required error watch)
    (notRaised : call.loadError = none)
    (harmless : coordinator.Harmless key required watch.now call) :
    coordinator.Raises key required error (watch.see call) := by
  rcases raises with ⟨benign, now, seen⟩ | ⟨notBenign, quiet⟩
  · exact .inl ⟨benign_see.mpr ⟨benign, harmless⟩, now, List.mem_append_left _ seen⟩
  · exact .inr ⟨fun benign => notBenign (benign_see.mp benign).1, quiet_see.mpr ⟨quiet, notRaised⟩⟩

/-- A harmful response is raised about. -/
theorem raises_see {error : Exc} {call : CacheCall F} (quiet : Quiet watch)
    (notRaised : call.loadError = none)
    (harmful : ¬ coordinator.Harmless key required watch.now call) :
    coordinator.Raises key required error (watch.see call) :=
  .inr ⟨fun benign => harmful (benign_see.mp benign).2, quiet_see.mpr ⟨quiet, notRaised⟩⟩

/-! ## Rules -/

variable (coordinator key required) in
/-- The part returns with the given postcondition, or raises where a read may. -/
def Proceeds {α : Type} (part : Caching F α) (normal : α → Watch F → Prop) (watch : Watch F) :
    Prop :=
  part.Safe Observes (fun _ _ => True) (fun value _ => normal value)
    (fun error _ => coordinator.Raises key required error) () watch

section Rules

variable {α β : Type}

theorem proceeds_bind {part : Caching F β} {rest : β → Caching F α} {normal : α → Watch F → Prop}
    (proceeds : coordinator.Proceeds key required part
      (fun value => coordinator.Proceeds key required (rest value) normal) watch) :
    coordinator.Proceeds key required (part >>= rest) normal watch :=
  Script.safe_bind.mpr proceeds

theorem Proceeds.mono {part : Caching F α} {normal weaker : α → Watch F → Prop}
    (proceeds : coordinator.Proceeds key required part normal watch)
    (implies : ∀ value after, normal value after → weaker value after) :
    coordinator.Proceeds key required part weaker watch :=
  Script.Safe.mono proceeds (fun value _ after => implies value after) (fun _ _ _ raised => raised)

theorem proceeds_lift {result : Except Exc α} {normal : α → Watch F → Prop}
    (returns : ∀ value, result = .ok value → normal value watch)
    (fails : ∀ error, result = .error error → coordinator.Raises key required error watch) :
    coordinator.Proceeds key required (Script.lift result) normal watch := by
  cases result with
  | ok value => exact returns value rfl
  | error error => exact fails error rfl

theorem proceeds_request {hook : CacheHook F} {normal : hook.Answer → Watch F → Prop}
    (returns : ∀ answer, normal answer (watch.see ⟨hook, .ok answer⟩))
    (fails : ∀ error, Admissible (⟨hook, .error error⟩ : CacheCall F) →
      coordinator.Raises key required error (watch.see ⟨hook, .error error⟩)) :
    coordinator.Proceeds key required (request hook) normal watch := by
  rw [Proceeds, request, Script.safe_invoke]
  refine ⟨trivial, ?_⟩
  rintro response _ ⟨admissible, rfl⟩
  cases response with
  | ok answer => exact returns answer
  | error error => exact fails error admissible

theorem proceeds_attempt {hook : CacheHook F} {normal : Except Exc hook.Answer → Watch F → Prop}
    (caught : ∀ error, Admissible (⟨hook, .error error⟩ : CacheCall F) → error.isException = true)
    (returns : ∀ answer, normal (.ok answer) (watch.see ⟨hook, .ok answer⟩))
    (fails : ∀ error, normal (.error error) (watch.see ⟨hook, .error error⟩)) :
    coordinator.Proceeds key required (attempt hook) normal watch := by
  rw [Proceeds, attempt, Script.safe_invoke]
  refine ⟨trivial, ?_⟩
  rintro response _ ⟨admissible, rfl⟩
  cases response with
  | ok answer => exact returns answer
  | error error =>
      rw [Cache.caught, if_pos (caught error admissible)]
      exact fails error

end Rules

/-! ## The parts of a read -/

/-- Evidence of a failure exists exactly when its error code can be recorded. -/
theorem make_eq_ok_iff {subject state : Str} (error : Exc) (now : Utc)
    (nonempty : subject ≠ [] ∧ state ≠ [])
    (subjectScalar : ∀ point ∈ subject, isSurrogate point = false)
    (stateScalar : ∀ point ∈ state, isSurrogate point = false) :
    (∃ evidence : LifecycleEvidence F, LifecycleEvidence.make (str "cache") subject state
      [(str "errorCode", .str (errorCode error))] (.ofUtc now) = .ok evidence) ↔
      Recordable error := by
  rw [LifecycleEvidence.exists_make_iff ⟨by decide, nonempty⟩ (DateTime.toUtc_ofUtc now),
    encodable_evidenceMaterial_iff (scalar_str _) stateScalar,
    and_iff_right subjectScalar, encodable_object_iff, Recordable]
  simp only [List.forall_mem_cons, List.not_mem_nil, false_implies, implies_true, and_true,
    encodable_str_iff]
  exact and_iff_right (scalar_str _)

variable (coordinator) in
/-- The source resource can be recorded. -/
def Named : Prop := ∀ point ∈ coordinator.policy.sourceResource, isSurrogate point = false

theorem proceeds_recordFailure {state : String} {error : Exc} {now : Utc}
    {normal : Str → Watch F → Prop} (named : coordinator.Named) (stateNonempty : str state ≠ [])
    (quiet : Quiet watch)
    (harmful : ¬ Recordable error → ¬ coordinator.Benign key required watch)
    (returns : Recordable error → ∀ after, coordinator.Continues key required watch after →
      normal (errorCode error) after) :
    coordinator.Proceeds key required (coordinator.recordFailure state error now) normal watch := by
  have recordable := make_eq_ok_iff (F := F) error now
    ⟨coordinator.policy.valid.sourceResource, stateNonempty⟩ named (scalar_str state)
  apply proceeds_bind
  apply proceeds_lift
  · intro evidence made
    apply proceeds_bind
    apply proceeds_request
    · intro _
      exact returns (recordable.mp ⟨evidence, made⟩) _ (continues_see quiet rfl rfl trivial)
    · exact fun _ admissible => admissible.elim
  · intro raised failed
    refine .inr ⟨harmful fun codeScalar => ?_, quiet⟩
    obtain ⟨evidence, made⟩ := recordable.mpr codeScalar
    rw [failed] at made
    contradiction

theorem proceeds_evict {state : String} {now : Utc} {normal : Unit → Watch F → Prop}
    (named : coordinator.Named) (stateNonempty : str state ≠ [])
    (quiet : Quiet watch)
    (returns : ∀ after, coordinator.Continues key required watch after → normal () after) :
    coordinator.Proceeds key required (coordinator.evict state key now) normal watch := by
  apply proceeds_bind
  apply proceeds_attempt
  · exact fun _ admissible => admissible
  · intro _
    exact returns _ (continues_see quiet rfl rfl trivial)
  · intro error
    apply proceeds_bind
    apply proceeds_recordFailure named stateNonempty
    · exact quiet_see.mpr ⟨quiet, rfl⟩
    · exact fun notRecordable benign => notRecordable (benign_see.mp benign).2
    · intro recordable after continues
      have deleted : coordinator.Continues key required watch (watch.see
          ⟨.delete coordinator.policy.cacheResource key, .error error⟩) :=
        continues_see quiet rfl rfl recordable
      exact returns after (deleted.trans continues)

omit [FloatText F] in
/-- The validity check returns exactly on readable entries. -/
theorem readable_iff {entry : CacheEntry F} {now : Utc} :
    coordinator.Readable entry required now ↔
      ∃ valid, coordinator.validEntry entry required now = .ok valid := by
  rw [Readable, validEntry]
  by_cases sameSerializer : entry.serializerId = coordinator.policy.serializerId
  · by_cases sameFingerprint : entry.schemaFingerprint = coordinator.policy.schemaFingerprint
    · simp only [sameSerializer, sameFingerprint, ne_eq, not_true_eq_false, if_false, true_implies,
        bind_eq_ok_iff]
      constructor
      · rintro ⟨createdAt, expiresAt, created, expires, goesOn⟩
        cases expired : isExpired expiresAt now with
        | true => exact ⟨false, createdAt, created, expiresAt, expires, by rw [if_pos expired]⟩
        | false =>
            obtain ⟨limit, added, compares⟩ := goesOn expired
            by_cases stale : limit < now
            · refine ⟨false, createdAt, created, expiresAt, expires, ?_⟩
              rw [if_neg (by simp [expired]), bind_eq_ok_iff]
              exact ⟨limit, plus_eq_ok_iff.mpr added, by rw [if_pos stale]⟩
            · obtain ⟨related, relatedEq⟩ := compares (not_lt.mp stale)
              refine ⟨related, createdAt, created, expiresAt, expires, ?_⟩
              rw [if_neg (by simp [expired]), bind_eq_ok_iff]
              exact ⟨limit, plus_eq_ok_iff.mpr added, by rw [if_neg stale, relatedEq]⟩
      · rintro ⟨valid, createdAt, created, expiresAt, expires, rest⟩
        refine ⟨createdAt, expiresAt, created, expires, ?_⟩
        intro notExpired
        rw [if_neg (by simp [notExpired]), bind_eq_ok_iff] at rest
        obtain ⟨limit, added, rest⟩ := rest
        refine ⟨limit, plus_eq_ok_iff.mp added, ?_⟩
        intro fresh
        rw [if_neg (not_lt.mpr fresh)] at rest
        exact ⟨valid, rest⟩
    · simp [sameSerializer, sameFingerprint]
  · simp [sameSerializer]

omit [FloatText F] in
theorem wraps_iff {value : PyValue F} {ttl : Int} {sourceVersion : Option Version} {now : Utc} :
    coordinator.Wraps key value ttl sourceVersion now ↔
      ∃ made, coordinator.wrap key value ttl sourceVersion now = .ok made := by
  simp only [Wraps, wrap, bind_eq_ok_iff, plus_eq_ok_iff]
  constructor
  · rintro ⟨keyData, valueData, expiresAt, made, keyEq, valueEq, expires, madeEq⟩
    exact ⟨made, keyData, keyEq, valueData, valueEq, expiresAt, expires, madeEq⟩
  · rintro ⟨made, keyData, keyEq, valueData, valueEq, expiresAt, expires, madeEq⟩
    exact ⟨keyData, valueData, expiresAt, made, keyEq, valueEq, expires, madeEq⟩

omit [FloatText F] in
/-- The envelope is built exactly around storable values. -/
theorem storable_iff {loaded : Option (LoadedValue F)} {now : Utc} :
    coordinator.Storable key loaded now ↔
      ∃ prepared, coordinator.entry key loaded now = .ok prepared := by
  cases loaded with
  | none =>
      simp only [Storable, entry]
      cases ttlEq : coordinator.policy.negativeTtl with
      | none => simp
      | some ttl =>
          simp only [Option.some.injEq, forall_eq', wraps_iff, bind_eq_ok_iff]
          constructor
          · rintro ⟨made, madeEq⟩
            exact ⟨_, made, madeEq, rfl⟩
          · rintro ⟨_, made, madeEq, -⟩
            exact ⟨made, madeEq⟩
  | some loaded =>
      simp only [Storable, entry, wraps_iff, wrapLoaded, bind_eq_ok_iff]
      constructor
      · rintro ⟨encoded, encodedEq, made, madeEq⟩
        exact ⟨_, made, ⟨encoded, encodedEq, madeEq⟩, rfl⟩
      · rintro ⟨_, made, ⟨encoded, encodedEq, madeEq⟩, -⟩
        exact ⟨encoded, encodedEq, made, madeEq⟩

section Lookup

variable {now : Utc} {found : VersionedCacheEntry F}
  {normal : Option (CacheRead F) × Option Str → Watch F → Prop}

/-- The watch after the backend returned an entry. -/
abbrev fetched (coordinator : CacheCoordinator F) (key : PyValue F) (watch : Watch F)
    (found : VersionedCacheEntry F) : Watch F :=
  watch.see ⟨.get coordinator.policy.cacheResource key, .ok (some found)⟩

theorem harmless_get_iff (time : watch.now = some now) :
    coordinator.Harmless key required watch.now
      ⟨.get coordinator.policy.cacheResource key, .ok (some found)⟩ ↔
      coordinator.Readable found.entry required now ∧
        coordinator.Decodable found.entry required now := by
  rw [time]
  exact ⟨fun harmless => harmless now rfl, fun both _ same => Option.some.inj same ▸ both⟩

/-- A valid entry that the backend returned is served, or evicted as corrupt. -/
theorem proceeds_serve (named : coordinator.Named) (benign : coordinator.Benign key required watch)
    (quiet : Quiet watch) (time : watch.now = some now)
    (valid : coordinator.validEntry found.entry required now = .ok true)
    (hit : ∀ read after, coordinator.Benign key required after →
      coordinator.FromEntry key required read after → normal (some read, none) after)
    (miss : ∀ after, coordinator.Benign key required after → Quiet after → after.now = some now →
      normal (none, none) after) :
    coordinator.Proceeds key required (coordinator.serve key found.entry now) normal
      (coordinator.fetched key watch found) := by
  have readable := readable_iff.mpr ⟨true, valid⟩
  have present : (some now, (⟨.get coordinator.policy.cacheResource key, .ok (some found)⟩ :
      CacheCall F)) ∈ (coordinator.fetched key watch found).calls := by
    rw [← time]
    exact List.mem_append_right _ (List.mem_singleton_self _)
  have quietAfter : Quiet (coordinator.fetched key watch found) := quiet_see.mpr ⟨quiet, rfl⟩
  unfold serve
  cases isNegativeEq : isNegative found.entry.value with
  | true =>
      apply hit
      · refine benign_see.mpr ⟨benign, (harmless_get_iff time).mpr ⟨readable, ?_⟩⟩
        intro _ notNegative
        rw [isNegativeEq] at notNegative
        contradiction
      · exact ⟨now, found, present, valid, rfl, .inl ⟨isNegativeEq, rfl⟩⟩
  | false =>
      apply proceeds_bind
      cases decoded : coordinator.decodeEntry found.entry with
      | ok value =>
          apply hit
          · refine benign_see.mpr ⟨benign, (harmless_get_iff time).mpr ⟨readable, ?_⟩⟩
            intro _ _ error failed
            rw [decoded] at failed
            contradiction
          · exact ⟨now, found, present, valid, rfl, .inr decoded⟩
      | error error =>
          have decodable : coordinator.Decodable found.entry required now ↔
              error.isException = true ∧ Recordable error := by
            constructor
            · exact fun decodable => decodable valid isNegativeEq error decoded
            · intro both _ _ other failed
              rw [decoded] at failed
              cases failed
              exact both
          have benignAfter : coordinator.Benign key required (coordinator.fetched key watch found) ↔
              error.isException = true ∧ Recordable error := by
            rw [benign_see, harmless_get_iff time, decodable]
            exact ⟨fun all => all.2.2, fun both => ⟨benign, readable, both⟩⟩
          by_cases isException : error.isException = true
          · rw [caught, if_pos isException]
            apply proceeds_bind
            apply proceeds_evict named (by decide) quietAfter
            intro evicted continues
            apply proceeds_bind
            apply proceeds_recordFailure named (by decide) continues.quiet
            · intro notRecordable stillBenign
              exact notRecordable (benignAfter.mp (continues.benign.mp stillBenign)).2
            · intro recordable after recorded
              have all := continues.trans recorded
              exact miss after (all.benign.mpr (benignAfter.mpr ⟨isException, recordable⟩)) all.quiet
                (all.now.trans time)
          · rw [caught, if_neg isException]
            exact .inr ⟨fun benign => isException (benignAfter.mp benign).1, quietAfter⟩

/-- A lookup serves a valid entry, or finds nothing and goes on. -/
theorem proceeds_cached (named : coordinator.Named)
    (fallback : coordinator.policy.fallbackToAuthoritative = true)
    (benign : coordinator.Benign key required watch) (quiet : Quiet watch)
    (time : watch.now = some now)
    (hit : ∀ read after, coordinator.Benign key required after →
      coordinator.FromEntry key required read after → normal (some read, none) after)
    (miss : ∀ code after, coordinator.Benign key required after → Quiet after →
      after.now = some now → normal (none, code) after) :
    coordinator.Proceeds key required (coordinator.cached key required now) normal watch := by
  apply proceeds_bind
  apply proceeds_attempt
  · exact fun _ admissible => admissible
  · intro answer
    cases answer with
    | none =>
        exact miss none _ (benign_see.mpr ⟨benign, trivial⟩) (quiet_see.mpr ⟨quiet, rfl⟩) time
    | some found =>
        apply proceeds_bind
        apply proceeds_lift
        · intro valid validEq
          cases valid with
          | true => exact proceeds_serve named benign quiet time validEq hit (miss none)
          | false =>
              have readable := readable_iff.mpr ⟨false, validEq⟩
              have decodable : coordinator.Decodable found.entry required now := by
                intro isValid
                rw [validEq] at isValid
                contradiction
              apply proceeds_bind
              apply proceeds_evict named (by decide)
              · exact quiet_see.mpr ⟨quiet, rfl⟩
              · intro after continues
                exact miss none after (continues.benign.mpr (benign_see.mpr ⟨benign,
                  (harmless_get_iff time).mpr ⟨readable, decodable⟩⟩)) continues.quiet
                  (continues.now.trans time)
        · intro error failed
          apply raises_see quiet rfl
          intro harmless
          obtain ⟨valid, validEq⟩ := readable_iff.mp ((harmless_get_iff time).mp harmless).1
          rw [failed] at validEq
          contradiction
  · intro error
    apply proceeds_bind
    apply proceeds_recordFailure named (by decide)
    · exact quiet_see.mpr ⟨quiet, rfl⟩
    · exact fun notRecordable benign => notRecordable (benign_see.mp benign).2
    · intro recordable after continues
      rw [fallback]
      exact miss _ after (continues.benign.mpr (benign_see.mpr ⟨benign, recordable⟩)) continues.quiet
        (continues.now.trans time)

end Lookup

section Load

variable {now : Utc}

theorem proceeds_populate {prepared : Option (CacheEntry F × Int)} {cacheError : Option Str}
    {normal : Option Str → Watch F → Prop} (named : coordinator.Named) (quiet : Quiet watch)
    (returns : ∀ code after, coordinator.Continues key required watch after → normal code after) :
    coordinator.Proceeds key required (coordinator.populate prepared cacheError now) normal
      watch := by
  cases prepared with
  | none => exact returns cacheError watch (.refl quiet)
  | some prepared =>
      obtain ⟨made, ttl⟩ := prepared
      apply proceeds_bind
      apply proceeds_attempt
      · exact fun _ admissible => admissible
      · intro _
        exact returns cacheError _ (continues_see quiet rfl rfl trivial)
      · intro error
        apply proceeds_bind
        apply proceeds_recordFailure named (by decide)
        · exact quiet_see.mpr ⟨quiet, rfl⟩
        · exact fun notRecordable benign => notRecordable (benign_see.mp benign).2
        · intro recordable after continues
          have put : coordinator.Continues key required watch (watch.see
              ⟨.put coordinator.policy.cacheResource made (ttlMilliseconds ttl), .error error⟩) :=
            continues_see quiet rfl rfl recordable
          exact returns _ after (put.trans continues)

/-- A load returns what the loader returned, or raises what it raised. -/
theorem proceeds_load {cacheError : Option Str} {normal : CacheRead F → Watch F → Prop}
    (named : coordinator.Named) (benign : coordinator.Benign key required watch)
    (quiet : Quiet watch) (time : watch.now = some now)
    (returns : ∀ read after, coordinator.Benign key required after → FromLoader read after →
      normal read after) :
    coordinator.Proceeds key required (coordinator.load key cacheError now) normal watch := by
  apply proceeds_bind
  apply proceeds_request
  · intro loaded
    have harmless : coordinator.Harmless key required watch.now ⟨.load, .ok loaded⟩ ↔
        coordinator.Storable key loaded now := by
      rw [time]
      exact ⟨fun harmless => harmless now rfl, fun storable _ same => Option.some.inj same ▸ storable⟩
    apply proceeds_bind
    apply proceeds_lift
    · intro prepared preparedEq
      apply proceeds_bind
      apply proceeds_populate named
      · exact quiet_see.mpr ⟨quiet, rfl⟩
      · intro code after continues
        apply returns
        · exact continues.benign.mpr (benign_see.mpr ⟨benign,
            harmless.mpr (storable_iff.mpr ⟨prepared, preparedEq⟩)⟩)
        · refine ⟨watch.now, loaded, continues.seen (List.mem_append_right _
            (List.mem_singleton_self _)), ?_⟩
          cases loaded <;> exact ⟨rfl, rfl⟩
    · intro error failed
      apply raises_see quiet rfl
      intro isHarmless
      obtain ⟨prepared, preparedEq⟩ := storable_iff.mp (harmless.mp isHarmless)
      rw [failed] at preparedEq
      contradiction
  · intro error _
    exact .inl ⟨benign_see.mpr ⟨benign, trivial⟩, watch.now, List.mem_append_right _
      (List.mem_singleton_self _)⟩

theorem proceeds_sampleClock {normal : Utc → Watch F → Prop}
    (benign : coordinator.Benign key required watch) (quiet : Quiet watch)
    (returns : ∀ now after, coordinator.Benign key required after → Quiet after →
      after.now = some now → normal now after) :
    coordinator.Proceeds key required sampleClock normal watch := by
  apply proceeds_bind
  apply proceeds_request
  · intro time
    apply proceeds_lift
    · intro instant converted
      rw [ensureUtc_eq_ok_iff] at converted
      apply returns
      · exact benign_see.mpr ⟨benign, instant, converted⟩
      · exact quiet_see.mpr ⟨quiet, rfl⟩
      · change time.toUtc.toOption = some instant
        rw [converted]
        rfl
    · intro error failed
      apply raises_see quiet rfl
      rintro ⟨instant, converted⟩
      rw [ensureUtc_eq_ok_iff.mpr converted] at failed
      contradiction
  · exact fun _ admissible => admissible.elim

end Load

omit [FloatText F] in
theorem FromLoader.see {read : CacheRead F} {call : CacheCall F} (fromLoader : FromLoader read watch) :
    FromLoader read (watch.see call) := by
  obtain ⟨now, loaded, seen, same⟩ := fromLoader
  exact ⟨now, loaded, List.mem_append_left _ seen, same⟩

section Read

variable {now : Utc}

variable (coordinator key required) in
/-- Where a read may return. -/
def Returned (read : CacheRead F) (watch : Watch F) : Prop :=
  coordinator.Benign key required watch ∧
    (FromLoader read watch ∨ coordinator.FromEntry key required read watch)

theorem proceeds_lead {errorCode : Option Str} {flightKey : Str} (named : coordinator.Named)
    (benign : coordinator.Benign key required watch) (quiet : Quiet watch)
    (time : watch.now = some now) :
    coordinator.Proceeds key required (coordinator.lead key errorCode flightKey now)
      (coordinator.Returned key required) watch := by
  apply Script.safe_tryFinally.mpr
  have loads : coordinator.Proceeds key required (coordinator.load key errorCode now)
      (fun read after => coordinator.Benign key required after ∧ FromLoader read after) watch :=
    proceeds_load named benign quiet time fun _ _ benign fromLoader => ⟨benign, fromLoader⟩
  apply Script.Safe.mono loads
  · rintro read _ after ⟨benignAfter, fromLoader⟩
    apply proceeds_request
    · intro _
      exact ⟨benign_see.mpr ⟨benignAfter, trivial⟩, .inl fromLoader.see⟩
    · exact fun _ admissible => admissible.elim
  · intro error _ after raises
    apply proceeds_request
    · intro _
      exact raises.see rfl trivial
    · exact fun _ admissible => admissible.elim

theorem proceeds_follow {errorCode : Option Str} {event : Nat} (named : coordinator.Named)
    (fallback : coordinator.policy.fallbackToAuthoritative = true)
    (benign : coordinator.Benign key required watch) (quiet : Quiet watch) :
    coordinator.Proceeds key required (coordinator.follow key required errorCode event)
      (coordinator.Returned key required) watch := by
  apply proceeds_bind
  apply proceeds_request
  · intro _
    apply proceeds_bind
    apply proceeds_sampleClock
    · exact benign_see.mpr ⟨benign, trivial⟩
    · exact quiet_see.mpr ⟨quiet, rfl⟩
    · intro sampled woken benignWoken quietWoken timeWoken
      apply proceeds_bind
      apply proceeds_cached named fallback benignWoken quietWoken timeWoken
      · intro read after benignAfter fromEntry
        exact ⟨benignAfter, .inr fromEntry⟩
      · intro code missed benignMissed quietMissed _
        apply proceeds_bind
        apply proceeds_sampleClock benignMissed quietMissed
        intro later resampled benignResampled quietResampled timeResampled
        apply proceeds_load named benignResampled quietResampled timeResampled
        exact fun read after benignAfter fromLoader => ⟨benignAfter, .inl fromLoader⟩
  · exact fun _ admissible => admissible.elim

theorem proceeds_readThrough {identity : Dict Str (PyValue F)}
    (fallback : coordinator.policy.fallbackToAuthoritative = true)
    (keyed : coordinator.policy.key identity = .ok key)
    (benign : coordinator.Benign key required watch) (quiet : Quiet watch)
    (time : watch.now = some now) :
    coordinator.Proceeds key required (coordinator.readThrough identity required now)
      (coordinator.Returned key required) watch := by
  obtain ⟨values, bytes, accepted⟩ := CachePolicy.exists_keyed keyed
  have named : coordinator.Named := by
    have encodable := (jsonBytes_eq_ok_iff.mp accepted.encoded).1
    rw [encodable_array_iff] at encodable
    exact encodable_str_iff.mp (encodable _ List.mem_cons_self)
  apply proceeds_bind
  rw [keyed]
  apply proceeds_bind
  apply proceeds_cached named fallback benign quiet time
  · intro read after benignAfter fromEntry
    exact ⟨benignAfter, .inr fromEntry⟩
  · intro code missed benignMissed quietMissed timeMissed
    apply proceeds_bind
    rw [accepted.digestOf]
    apply proceeds_bind
    apply proceeds_request
    · rintro ⟨event, leader⟩
      have benignJoined : coordinator.Benign key required (missed.see
          ⟨.joinFlight (prefixedDigest bytes), .ok (event, leader)⟩) :=
        benign_see.mpr ⟨benignMissed, trivial⟩
      cases leader with
      | true => exact proceeds_lead named benignJoined (quiet_see.mpr ⟨quietMissed, rfl⟩) timeMissed
      | false =>
          exact proceeds_follow named fallback benignJoined (quiet_see.mpr ⟨quietMissed, rfl⟩)
    · exact fun _ admissible => admissible.elim

variable (coordinator required) in
theorem proceeds_read {identity : Dict Str (PyValue F)} (given : Option DateTime)
    (enabled : coordinator.policy.enabled = true)
    (fallback : coordinator.policy.fallbackToAuthoritative = true)
    (keyed : coordinator.policy.key identity = .ok key) :
    coordinator.Proceeds key required (coordinator.read identity required given)
      (coordinator.Returned key required) (Watch.start given) := by
  have quiet : Quiet (Watch.start given : Watch F) := List.forall_mem_nil _
  apply proceeds_bind
  cases given with
  | none =>
      have benign : coordinator.Benign key required (Watch.start none) :=
        ⟨fun _ same => (Option.some_ne_none _ same.symm).elim, List.forall_mem_nil _⟩
      apply proceeds_sampleClock benign quiet
      intro now after benign quietAfter time
      rw [enabled]
      exact proceeds_readThrough fallback keyed benign quietAfter time
  | some time =>
      apply proceeds_lift
      · intro instant converted
        rw [ensureUtc_eq_ok_iff] at converted
        rw [enabled]
        apply proceeds_readThrough fallback keyed _ quiet
        · change time.toUtc.toOption = some instant
          rw [converted]
          rfl
        · refine ⟨?_, List.forall_mem_nil _⟩
          intro other same
          cases same
          exact ⟨instant, converted⟩
      · intro error failed
        refine .inr ⟨?_, quiet⟩
        intro benign
        obtain ⟨instant, converted⟩ := benign.given time rfl
        rw [ensureUtc_eq_ok_iff.mpr converted] at failed
        contradiction

end Read

/-- Exactly when the cache is transparent.  In every run of a read, whatever the
backend returns or raises, the read is transparent if and only if nothing that it was
given makes the validity check, the envelope around a loaded value or the recording of
a failure raise. -/
theorem read_transparent_iff (coordinator : CacheCoordinator F) (identity : Dict Str (PyValue F))
    (key : PyValue F) (required : Option Version) (given : Option DateTime)
    (enabled : coordinator.policy.enabled = true)
    (fallback : coordinator.policy.fallbackToAuthoritative = true)
    (keyed : coordinator.policy.key identity = .ok key) (outcome : Except Exc (CacheRead F))
    (watch : Watch F)
    (returns : (coordinator.read identity required given ()).Returns Observes (Watch.start given)
      (outcome, ()) watch) :
    coordinator.Transparent key required watch outcome ↔
      coordinator.Benign key required watch := by
  have reached := Prog.Safe.of_returns (proceeds_read coordinator required given enabled fallback
    keyed) returns
  cases outcome with
  | ok read => exact ⟨fun _ => reached.1, fun _ => reached.2⟩
  | error error =>
      rcases reached with ⟨benign, raised⟩ | ⟨notBenign, quiet⟩
      · exact ⟨fun _ => benign, fun _ => raised⟩
      · constructor
        · rintro ⟨now, seen⟩
          have noError := quiet _ seen
          contradiction
        · exact fun benign => absurd benign notBenign

/-! ## Closed runs -/

omit [FloatText F] in
theorem observes_ok (watch : Watch F) (hook : CacheHook F) (answer : hook.Answer) :
    Observes watch hook (.ok answer) (watch.see ⟨hook, .ok answer⟩) :=
  ⟨by cases hook <;> trivial, rfl⟩

omit [FloatText F] in
theorem attempt_returns (watch : Watch F) (hook : CacheHook F) (answer : hook.Answer) :
    (attempt hook ()).Returns Observes watch (.ok (.ok answer), ())
      (watch.see ⟨hook, .ok answer⟩) :=
  .call hook _ (.ok answer) (observes_ok watch hook answer) (.ret _ _)

omit [FloatText F] in
theorem request_returns (watch : Watch F) (hook : CacheHook F) (answer : hook.Answer) :
    (request hook ()).Returns Observes watch (.ok answer, ()) (watch.see ⟨hook, .ok answer⟩) :=
  .call hook _ (.ok answer) (observes_ok watch hook answer) (.ret _ _)

/-- An entry of the policy created at the end of the calendar. -/
def lateEntry : CacheEntry Empty where
  key := .array [.str (str "rows"), .int 1, .int 2]
  value := negative
  serializerId := rowColumnPolicy.serializerId
  schemaFingerprint := rowColumnPolicy.schemaFingerprint
  createdAt := .text (str "9999-12-31T23:59:59.999999Z")
  expiresAt := none
  sourceVersion := none

/-- What a read sees when it samples the clock. -/
def sampledWatch : Watch Empty := (Watch.start none).see ⟨.clock, .ok (.ofUtc sampleInstant)⟩

/-- What it sees when the backend then returns the late entry. -/
def lateWatch : Watch Empty :=
  sampledWatch.see
    ⟨.get rowColumnPolicy.cacheResource sampleKey, .ok (some ⟨lateEntry, .number 1⟩)⟩

theorem validEntry_lateEntry :
    sample.validEntry lateEntry none sampleInstant = .error .overflowError := by
  decide +kernel

theorem sampled_returns : (currentTime none () : Prog (CacheHook Empty) _ _).Returns Observes
    (Watch.start none) (.ok sampleInstant, ()) sampledWatch :=
  Script.returns_bind (request_returns _ .clock (.ofUtc sampleInstant))
    (Script.returns_lift (ensureUtc_eq_ok_iff.mpr (DateTime.toUtc_ofUtc sampleInstant)))

/-- The staleness limit of an entry may lie outside the calendar: the read raises
`OverflowError`, although the backend did not fail and the loader was not called. -/
theorem late_entry_raises :
    (sample.read (sampleIdentity 1 2) none none ()).Returns Observes (Watch.start none)
      (.error .overflowError, ()) lateWatch ∧
    ¬ sample.Transparent sampleKey none lateWatch (.error .overflowError) := by
  constructor
  · apply Script.returns_bind sampled_returns
    apply Script.returns_bind (Script.returns_lift rowColumnPolicy_key)
    apply Script.returns_bind_error
    apply Script.returns_bind (attempt_returns _ (.get _ _) (some ⟨lateEntry, .number 1⟩))
    exact Script.returns_bind_error (Script.returns_lift validEntry_lateEntry)
  · rintro ⟨now, seen⟩
    simp [lateWatch, sampledWatch, Watch.see, Watch.start] at seen

/-- A backend cannot be reached. -/
def outage : Exc := .cacheUnavailable "cache backend cannot be reached"

/-- What a read sees whose backend cannot be reached, neither to look up nor to store, and whose
loader returns a value. -/
def outageWatch (flightKey : Str) (lookup store : LifecycleEvidence Empty) : Watch Empty :=
  (((((((sampledWatch.see ⟨.get rowColumnPolicy.cacheResource sampleKey, .error outage⟩).see
    ⟨.record lookup, .ok ()⟩).see ⟨.joinFlight flightKey, .ok (0, true)⟩).see
    ⟨.load, .ok (some sampleLoaded)⟩).see
    ⟨.put rowColumnPolicy.cacheResource sampleEntry (ttlMilliseconds 30000000), .error outage⟩).see
    ⟨.record store, .ok ()⟩)).see ⟨.leaveFlight flightKey, .ok ()⟩

theorem recordable_outage : Recordable outage := scalar_str "MERIDIAN_CACHE_UNAVAILABLE"

omit [FloatText F] in
theorem attempt_outage (watch : Watch F) (hook : CacheHook F)
    (admissible : Admissible (⟨hook, .error outage⟩ : CacheCall F)) :
    (attempt hook ()).Returns Observes watch (.ok (.error outage), ())
      (watch.see ⟨hook, .error outage⟩) :=
  .call hook _ (.error outage) ⟨admissible, rfl⟩ (.ret _ _)

theorem recordFailure_outage {state : String} (nonempty : str state ≠ []) (watch : Watch Empty) :
    ∃ evidence, (sample.recordFailure state outage sampleInstant ()).Returns Observes watch
      (.ok (errorCode outage), ()) (watch.see ⟨.record evidence, .ok ()⟩) := by
  obtain ⟨evidence, made⟩ := (make_eq_ok_iff (F := Empty) outage sampleInstant
    ⟨rowColumnPolicy.valid.sourceResource, nonempty⟩ (scalar_str "rows")
    (scalar_str state)).mpr recordable_outage
  exact ⟨evidence, Script.returns_bind (Script.returns_lift made)
    (Script.returns_bind (request_returns _ (.record evidence) ()) (.ret _ _))⟩

/-- A read whose backend cannot be reached returns what the loader returned. -/
theorem read_transparent_iff_raised : ∃ flightKey lookup store,
    (sample.read (sampleIdentity 1 2) none none ()).Returns Observes (Watch.start none)
      (.ok ⟨.int 7, none, .bypass, some (errorCode outage)⟩, ())
      (outageWatch flightKey lookup store) ∧
    sample.Transparent sampleKey none (outageWatch flightKey lookup store)
      (.ok ⟨.int 7, none, .bypass, some (errorCode outage)⟩) := by
  obtain ⟨values, bytes, accepted⟩ := CachePolicy.exists_keyed rowColumnPolicy_key
  obtain ⟨lookup, lookupRecorded⟩ := recordFailure_outage (show str "READ_FAILED" ≠ [] by decide)
    (sampledWatch.see ⟨.get rowColumnPolicy.cacheResource sampleKey, .error outage⟩)
  obtain ⟨store, storeRecorded⟩ := recordFailure_outage (show str "POPULATE_FAILED" ≠ [] by decide)
    ((((((sampledWatch.see ⟨.get rowColumnPolicy.cacheResource sampleKey, .error outage⟩).see
      ⟨.record lookup, .ok ()⟩).see ⟨.joinFlight (prefixedDigest bytes), .ok (0, true)⟩).see
      ⟨.load, .ok (some sampleLoaded)⟩).see
      ⟨.put rowColumnPolicy.cacheResource sampleEntry (ttlMilliseconds 30000000), .error outage⟩))
  have returns : (sample.read (sampleIdentity 1 2) none none ()).Returns Observes
      (Watch.start none) (.ok ⟨.int 7, none, .bypass, some (errorCode outage)⟩, ())
      (outageWatch (prefixedDigest bytes) lookup store) := by
    apply Script.returns_bind sampled_returns
    apply Script.returns_bind (Script.returns_lift rowColumnPolicy_key)
    apply Script.returns_bind (Script.returns_bind (attempt_outage _ (.get _ _) rfl)
      (Script.returns_bind lookupRecorded (.ret _ _)))
    apply Script.returns_bind (Script.returns_lift accepted.digestOf)
    apply Script.returns_bind (request_returns _ (.joinFlight _) (0, true))
    apply Script.returns_tryFinally _ (request_returns _ (.leaveFlight _) ())
    apply Script.returns_bind (request_returns _ .load (some sampleLoaded))
    apply Script.returns_bind (Script.returns_lift entry_sample)
    exact Script.returns_bind (Script.returns_bind (attempt_outage _ (.put _ _ _) rfl)
      (Script.returns_bind storeRecorded (.ret _ _))) (.ret _ _)
  refine ⟨_, _, _, returns, (read_transparent_iff sample _ _ _ _ rfl rfl rowColumnPolicy_key _ _
    returns).mpr ?_⟩
  have start : sample.Benign sampleKey none (Watch.start none) :=
    ⟨fun _ isGiven => (by cases isGiven), fun _ member => absurd member List.not_mem_nil⟩
  have sampled : sample.Benign sampleKey none sampledWatch :=
    benign_see.mpr ⟨start, sampleInstant, DateTime.toUtc_ofUtc _⟩
  have time : sampledWatch.now = some sampleInstant :=
    congrArg Except.toOption (DateTime.toUtc_ofUtc sampleInstant)
  have stores : ∀ instant, sampledWatch.now = some instant →
      sample.Storable sampleKey (some sampleLoaded) instant := by
    intro instant same
    rw [time] at same
    rw [← Option.some.inj same]
    exact storable_iff.mpr ⟨_, entry_sample⟩
  simp only [outageWatch, benign_see]
  exact ⟨⟨⟨⟨⟨⟨⟨sampled, recordable_outage⟩, trivial⟩, trivial⟩, stores⟩, recordable_outage⟩, trivial⟩,
    trivial⟩

end CacheCoordinator

end DataLifecycle.Cache
