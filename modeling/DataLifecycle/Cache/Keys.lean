import DataLifecycle.Cache.Backends

/-!
# What a cache key determines

The canonical bytes of a key determine the source resource and the values of the
key fields by position.  The names of the key fields are not part of the key.
-/

namespace DataLifecycle.Cache

open Python

variable {F : Type}

theorem jsonItems_eq_ok_iff {items : List (PyValue F)} {values : List (Json F)} :
    jsonItems items = .ok values ↔
      List.Forall₂ (fun item value => jsonValue item = .ok value) items values := by
  induction items generalizing values with
  | nil =>
      rw [List.forall₂_nil_left_iff, jsonItems, Except.ok.injEq]
      exact eq_comm
  | cons item rest ih =>
      rw [jsonItems, List.forall₂_cons_left_iff]
      cases itemEq : jsonValue item with
      | error error => simp
      | ok value =>
          cases restEq : jsonItems rest with
          | error error =>
              simp only [reduceCtorEq, false_iff, not_exists, not_and]
              intro other others _ matched
              rw [← ih, restEq] at matched
              contradiction
          | ok others =>
              simp only [Except.ok.injEq]
              constructor
              · rintro rfl
                exact ⟨value, others, rfl, ih.mp restEq, rfl⟩
              · rintro ⟨other, found, rfl, matched, rfl⟩
                rw [← ih, restEq] at matched
                cases matched
                rfl

theorem sameItems_iff_forall₂ {first second : List (Json F)} :
    Json.SameItems first second ↔ List.Forall₂ Json.Same first second := by
  induction first generalizing second with
  | nil => cases second <;> simp [Json.SameItems]
  | cons value rest ih => cases second <;> simp [Json.SameItems, ih]

theorem forall₂_filterMap {names : List Str} {identity : Dict Str (PyValue F)}
    {values : List (Json F)} (present : ∀ name ∈ names, (identity.get? name).isSome = true)
    (converted : List.Forall₂ (fun item value => jsonValue item = .ok value)
      (names.filterMap identity.get?) values) :
    List.Forall₂ (fun name value => ∃ field, identity.get? name = some field ∧
      jsonValue field = .ok value) names values := by
  induction names generalizing values with
  | nil => simpa using converted
  | cons name rest ih =>
      obtain ⟨field, fieldEq⟩ := Option.isSome_iff_exists.mp (present name List.mem_cons_self)
      rw [List.filterMap_cons_some fieldEq, List.forall₂_cons_left_iff] at converted
      obtain ⟨value, others, valueEq, matched, rfl⟩ := converted
      exact .cons ⟨field, fieldEq, valueEq⟩
        (ih (fun other member => present other (List.mem_cons_of_mem _ member)) matched)

variable [FloatText F]

/-- The key of an identity with its JSON data and its canonical bytes. -/
structure CachePolicy.Keyed (policy : CachePolicy) (identity : Dict Str (PyValue F))
    (key : PyValue F) (values : List (Json F)) (bytes : Bytes) : Prop where
  key_eq : key = policy.keyList identity
  fields : List.Forall₂ (fun name value => ∃ field, identity.get? name = some field ∧
    jsonValue field = .ok value) policy.keyFields values
  data : jsonValue key = .ok (.array (.str policy.sourceResource :: values))
  encoded : jsonBytes (.array (.str policy.sourceResource :: values)) = .ok bytes
  size : bytes.length ≤ policy.maximumKeyBytes

/-- What an accepted key is. -/
theorem CachePolicy.exists_keyed {policy : CachePolicy} {identity : Dict Str (PyValue F)}
    {key : PyValue F} (accepted : policy.key identity = .ok key) :
    ∃ values bytes, policy.Keyed identity key values bytes := by
  rw [CachePolicy.key, check_bind_eq_ok_iff, check_bind_eq_ok_iff, bind_eq_ok_iff] at accepted
  obtain ⟨complete, -, bytes, encoded, sized⟩ := accepted
  rw [check_bind_eq_ok_iff, refuse_eq_ok_iff, not_lt] at sized
  obtain ⟨size, keyEq⟩ := sized
  cases keyEq
  rw [refuse_eq_ok_iff, not_not, missing, List.filter_eq_nil_iff] at complete
  rw [canonicalJsonBytes, keyList, jsonValue, jsonItems, jsonValue] at encoded
  cases valuesEq : jsonItems (policy.keyFields.filterMap identity.get?) with
  | error error =>
      rw [valuesEq] at encoded
      contradiction
  | ok values =>
      rw [valuesEq] at encoded
      have data : jsonValue (policy.keyList identity) =
          .ok (.array (.str policy.sourceResource :: values)) := by
        rw [keyList, jsonValue, jsonItems, jsonValue, valuesEq]
      refine ⟨values, bytes, rfl, ?_, data, encoded, size⟩
      apply forall₂_filterMap
      · intro name member
        simpa [Option.isSome_iff_ne_none] using complete name member
      · exact jsonItems_eq_ok_iff.mp valuesEq

namespace CachePolicy.Keyed

variable {policy : CachePolicy} {identity : Dict Str (PyValue F)} {key : PyValue F}
  {values : List (Json F)} {bytes : Bytes}

theorem canonicalJsonBytes (keyed : policy.Keyed identity key values bytes) :
    DataLifecycle.canonicalJsonBytes key = .ok bytes := by
  rw [DataLifecycle.canonicalJsonBytes, keyed.data]
  exact keyed.encoded

theorem digestOf (keyed : policy.Keyed identity key values bytes) :
    DataLifecycle.digestOf key = .ok (prefixedDigest bytes) := by
  rw [DataLifecycle.digestOf, keyed.data]
  change sha256Digest _ = _
  rw [sha256Digest, keyed.encoded]

theorem distinctKeys (keyed : policy.Keyed identity key values bytes) :
    (Json.array (.str policy.sourceResource :: values)).DistinctKeys :=
  distinctKeys_of_jsonValue key keyed.data

end CachePolicy.Keyed

omit [FloatText F] in
theorem forall₂_fields {firstNames secondNames : List Str}
    {firstIdentity secondIdentity : Dict Str (PyValue F)} {firstValues secondValues : List (Json F)}
    (first : List.Forall₂ (fun name value => ∃ field, firstIdentity.get? name = some field ∧
      jsonValue field = .ok value) firstNames firstValues)
    (second : List.Forall₂ (fun name value => ∃ field, secondIdentity.get? name = some field ∧
      jsonValue field = .ok value) secondNames secondValues)
    (same : List.Forall₂ Json.Same firstValues secondValues) :
    List.Forall₂ (fun firstName secondName => ∃ firstField secondField,
      firstIdentity.get? firstName = some firstField ∧
      secondIdentity.get? secondName = some secondField ∧ SameData firstField secondField)
      firstNames secondNames := by
  induction first generalizing secondNames secondValues with
  | nil =>
      cases same
      cases second
      exact .nil
  | cons firstHead _ ih =>
      cases same with
      | cons sameHead sameRest =>
          cases second with
          | cons secondHead secondRest =>
              obtain ⟨firstField, firstFound, firstData⟩ := firstHead
              obtain ⟨secondField, secondFound, secondData⟩ := secondHead
              exact .cons ⟨firstField, secondField, firstFound, secondFound, _, _, firstData,
                secondData, sameHead⟩ (ih secondRest sameRest)

/-- Two identities agree under their policies: the source resource is the same, and
so are the values of the key fields by position. -/
structure Agree (first second : CachePolicy) (firstIdentity secondIdentity : Dict Str (PyValue F)) :
    Prop where
  sourceResource : first.sourceResource = second.sourceResource
  byPosition : List.Forall₂ (fun firstName secondName => ∃ firstField secondField,
    firstIdentity.get? firstName = some firstField ∧
    secondIdentity.get? secondName = some secondField ∧ SameData firstField secondField)
    first.keyFields second.keyFields

omit [FloatText F] in
/-- Under the same key fields the identities agree on every key field. -/
theorem Agree.byName {first second : CachePolicy}
    {firstIdentity secondIdentity : Dict Str (PyValue F)}
    (agree : Agree first second firstIdentity secondIdentity)
    (sameFields : first.keyFields = second.keyFields) {name : Str} (member : name ∈ first.keyFields) :
    ∃ firstField secondField, firstIdentity.get? name = some firstField ∧
      secondIdentity.get? name = some secondField ∧ SameData firstField secondField := by
  have paired := agree.byPosition
  rw [← sameFields, List.forall₂_same] at paired
  exact paired name member

/-- Keys with the same canonical bytes belong to identities that agree. -/
theorem agree_of_canonicalJsonBytes_eq {first second : CachePolicy}
    {firstIdentity secondIdentity : Dict Str (PyValue F)} {firstKey secondKey : PyValue F}
    (firstAccepted : first.key firstIdentity = .ok firstKey)
    (secondAccepted : second.key secondIdentity = .ok secondKey)
    (coincide : canonicalJsonBytes firstKey = canonicalJsonBytes secondKey) :
    Agree first second firstIdentity secondIdentity := by
  obtain ⟨firstValues, firstBytes, firstKeyed⟩ := CachePolicy.exists_keyed firstAccepted
  obtain ⟨secondValues, secondBytes, secondKeyed⟩ := CachePolicy.exists_keyed secondAccepted
  rw [firstKeyed.canonicalJsonBytes, secondKeyed.canonicalJsonBytes, Except.ok.injEq] at coincide
  have same := (jsonBytes_eq_iff_same firstKeyed.encoded secondKeyed.encoded
    firstKeyed.distinctKeys secondKeyed.distinctKeys).mp coincide
  rw [Json.Same, Json.SameItems, Json.Same, sameItems_iff_forall₂] at same
  exact ⟨same.1, forall₂_fields firstKeyed.fields secondKeyed.fields same.2⟩

/-! ## Stored entries -/

namespace InMemoryCacheBackend

/-- Every entry is stored under the digest of its own key. -/
def Filed (backend : InMemoryCacheBackend F) : Prop :=
  ∀ resource digest found, backend.entries.get? (resource, digest) = some found →
    digestOf found.entry.key.toPy = .ok digest

theorem storageKey_eq_ok {resource : Str} {key : PyValue F} {stored : Str × Str}
    (computed : storageKey resource key = .ok stored) :
    stored.1 = resource ∧ digestOf key = .ok stored.2 := by
  rw [storageKey, bind_eq_ok_iff] at computed
  obtain ⟨digest, digested, equal⟩ := computed
  cases equal
  exact ⟨rfl, digested⟩

omit [FloatText F] in
/-- What an operation may store. -/
def Operation.stores : Operation F → Option (Str × CacheEntry F)
  | .put resource entry => some (resource, entry)
  | .putIfAbsent resource entry => some (resource, entry)
  | .compareAndSet resource entry _ => some (resource, entry)
  | _ => none

/-- An entry after an operation was there before, or is the one that the operation
stores. -/
def Accounted (backend : InMemoryCacheBackend F) (stores : Option (Str × CacheEntry F))
    (key : Str × Str) (found : VersionedCacheEntry F) : Prop :=
  backend.entries.get? key = some found ∨ ∃ resource entry, stores = some (resource, entry) ∧
    storageKey resource entry.key.toPy = .ok key ∧ found.entry = entry

theorem accounted_store {backend : InMemoryCacheBackend F} {resource : Str} {entry : CacheEntry F}
    {stored key : Str × Str} {found : VersionedCacheEntry F}
    (computed : storageKey resource entry.key.toPy = .ok stored)
    (present : (backend.bumped.store stored entry).entries.get? key = some found) :
    Accounted backend (some (resource, entry)) key found := by
  change (backend.entries.set stored _).get? key = some found at present
  rw [Dict.get?_set] at present
  split at present
  next same =>
    cases present
    subst same
    exact .inr ⟨resource, entry, rfl, computed, rfl⟩
  next => exact .inl present

/-- What the entries after an operation are. -/
theorem accounted_apply {backend : InMemoryCacheBackend F} (operation : Operation F)
    {key : Str × Str} {found : VersionedCacheEntry F}
    (present : (backend.apply operation).entries.get? key = some found) :
    Accounted backend operation.stores key found := by
  cases operation with
  | setAvailable available => exact .inl present
  | put resource entry =>
      rw [InMemoryCacheBackend.apply, put] at present
      split at present
      · exact .inl present
      · split at present
        · exact .inl present
        next computed => exact accounted_store computed present
  | putIfAbsent resource entry =>
      rw [InMemoryCacheBackend.apply, putIfAbsent] at present
      split at present
      · exact .inl present
      · split at present
        · exact .inl present
        next computed =>
          split at present
          · exact .inl present
          · exact accounted_store computed present
  | compareAndSet resource entry expectedVersion =>
      rw [InMemoryCacheBackend.apply, compareAndSet] at present
      split at present
      · exact .inl present
      · split at present
        · exact .inl present
        next computed =>
          split at present
          · exact .inl present
          · split at present
            · exact accounted_store computed present
            · exact .inl present
  | delete resource own =>
      rw [InMemoryCacheBackend.apply, delete] at present
      split at present
      · exact .inl present
      · split at present
        · exact .inl present
        · rw [Dict.get?_erase] at present
          split at present
          · contradiction
          · exact .inl present
  | invalidate resource selector =>
      rw [InMemoryCacheBackend.apply, invalidate] at present
      split at present
      · exact .inl present
      · split at present
        · rw [Dict.get?_filter] at present
          split at present
          · exact .inl present
          · contradiction
        · exact .inl present

theorem Filed.apply {backend : InMemoryCacheBackend F} (filed : backend.Filed)
    (operation : Operation F) : (backend.apply operation).Filed := by
  intro resource digest found present
  rcases accounted_apply operation present with earlier | ⟨stored, entry, -, computed, rfl⟩
  · exact filed resource digest found earlier
  · exact (storageKey_eq_ok computed).2

/-- A key and its JSON data have the same digest. -/
theorem digestOf_toPy {key : PyValue F} {data : Json F} (converted : jsonValue key = .ok data) :
    digestOf data.toPy = digestOf key := by
  rw [digestOf, digestOf, converted, jsonValue_toPy _ (distinctKeys_of_jsonValue _ converted)]

/-- The entries of every reachable backend are filed under their own keys. -/
theorem filed_run (operations : List (Operation F)) : (run operations).Filed := by
  induction operations using List.reverseRecOn with
  | nil =>
      intro resource digest found present
      contradiction
  | append_singleton earlier operation ih =>
      rw [run, List.foldl_append]
      exact Filed.apply ih operation

/-- A lookup finds an entry whose key has the digest of the key looked up. -/
theorem digestOf_of_get {operations : List (Operation F)} {resource : Str} {key : PyValue F}
    {found : VersionedCacheEntry F} (served : (run operations).get resource key = .ok (some found)) :
    digestOf found.entry.key.toPy = digestOf key := by
  rw [get, check_bind_eq_ok_iff, bind_eq_ok_iff] at served
  obtain ⟨-, stored, computed, present⟩ := served
  rw [filed_run operations stored.1 stored.2 found (Except.ok.inj present),
    (storageKey_eq_ok computed).2]

end InMemoryCacheBackend

/-- The Catalog backend serves only an entry whose key has the same canonical
bytes. -/
theorem MeridianCacheBackend.canonicalJsonBytes_of_get
    {envelope : CacheEntry F → Except Exc (CacheEntry F)} {key : PyValue F}
    {result : OperationResult F} {found : VersionedCacheEntry F}
    (served : get envelope key result = .ok (some found)) :
    canonicalJsonBytes found.entry.key.toPy = canonicalJsonBytes key := by
  rw [get, bind_eq_ok_iff] at served
  obtain ⟨items, -, continued⟩ := served
  cases items with
  | none => cases continued
  | some items =>
      dsimp only at continued
      split at continued
      · cases continued
      · rw [bind_eq_ok_iff] at continued
        obtain ⟨version, -, continued⟩ := continued
        rw [bind_eq_ok_iff] at continued
        obtain ⟨envelopeItems, -, continued⟩ := continued
        rw [bind_eq_ok_iff] at continued
        obtain ⟨entry, -, continued⟩ := continued
        rw [bind_eq_ok_iff] at continued
        obtain ⟨foundBytes, foundEncoded, continued⟩ := continued
        rw [bind_eq_ok_iff] at continued
        obtain ⟨keyBytes, keyEncoded, continued⟩ := continued
        rw [check_bind_eq_ok_iff, refuse_eq_ok_iff, not_not] at continued
        obtain ⟨same, equal⟩ := continued
        cases equal
        rw [foundEncoded, keyEncoded, same]

/-- Cache keys separate identities by position.  If two canonical keys coincide, or
an entry stored under the first key is served for the second, then the policies have
the same source resource, as many key fields, and the values agree one by one; under
the same key fields they agree on every field. -/
theorem key_separation (first second : CachePolicy)
    (firstIdentity secondIdentity : Dict Str (PyValue F)) (firstKey secondKey : PyValue F)
    (firstAccepted : first.key firstIdentity = .ok firstKey)
    (secondAccepted : second.key secondIdentity = .ok secondKey)
    (collisionFree : digestOf firstKey = digestOf secondKey →
      canonicalJsonBytes firstKey = canonicalJsonBytes secondKey)
    (shared : canonicalJsonBytes firstKey = canonicalJsonBytes secondKey ∨
      ∃ found : VersionedCacheEntry F, jsonValue firstKey = .ok found.entry.key ∧
        ((∃ operations resource,
            (InMemoryCacheBackend.run operations).get resource secondKey = .ok (some found)) ∨
          ∃ envelope result, MeridianCacheBackend.get envelope secondKey result =
            .ok (some found))) :
    Agree first second firstIdentity secondIdentity ∧
      (first.keyFields = second.keyFields → ∀ name ∈ first.keyFields, ∃ firstField secondField,
        firstIdentity.get? name = some firstField ∧ secondIdentity.get? name = some secondField ∧
          SameData firstField secondField) := by
  have coincide : canonicalJsonBytes firstKey = canonicalJsonBytes secondKey := by
    rcases shared with coincide | ⟨found, populated, ⟨operations, resource, served⟩ |
      ⟨envelope, result, served⟩⟩
    · exact coincide
    · apply collisionFree
      rw [← InMemoryCacheBackend.digestOf_of_get served,
        InMemoryCacheBackend.digestOf_toPy populated]
    · rw [← MeridianCacheBackend.canonicalJsonBytes_of_get served, canonicalJsonBytes,
        canonicalJsonBytes, populated, jsonValue_toPy _ (distinctKeys_of_jsonValue _ populated)]
  have agree := agree_of_canonicalJsonBytes_eq firstAccepted secondAccepted coincide
  exact ⟨agree, fun sameFields name member => agree.byName sameFields member⟩

/-! ## A shared key of different fields -/

/-- A policy on rows of the given key fields, for closed runs. -/
def samplePolicy (keyFields : List Str)
    (valid : keyFields ≠ [] ∧ keyFields.Nodup ∧ [] ∉ keyFields) : CachePolicy where
  sourceResource := str "rows"
  cacheResource := str "row_cache"
  keyFields := keyFields
  serializerId := str "canonical-json-v1"
  schemaFingerprint := str "sha256:" ++ List.replicate 64 97
  defaultTtl := 30000000
  maximumTtl := 300000000
  maximumStaleness := 30000000
  valid := {
    sourceResource := show str "rows" ≠ [] by decide
    cacheResource := show str "row_cache" ≠ [] by decide
    serializerId := show str "canonical-json-v1" ≠ [] by decide
    keyFields := valid
    schemaFingerprint := show isSha256 (str "sha256:" ++ List.replicate 64 97) = true by decide
    defaultTtl := show (0 : Int) < 30000000 ∧ (30000000 : Int) ≤ 300000000 by decide
    maximumStaleness := show (0 : Int) ≤ 30000000 by decide
    negativeTtl := fun _ none => by cases none
    maximumKeyBytes := show (64 : Int) ≤ 4096 by decide }

/-- An identity with the fields `a` and `b`. -/
def sampleIdentity (first second : Int) : Dict Str (PyValue Empty) where
  items := [(str "a", .int first), (str "b", .int second)]
  nodup := show [str "a", str "b"].Nodup by decide

def rowColumnPolicy : CachePolicy := samplePolicy [str "a", str "b"] (by decide)

def columnRowPolicy : CachePolicy := samplePolicy [str "b", str "a"] (by decide)

/-- Complete scalar identities with a short encodable key are accepted. -/
theorem CachePolicy.key_of_encodable {policy : CachePolicy} {identity : Dict Str (PyValue F)}
    (json : Json F) (complete : policy.missing identity = []) (scalar : policy.invalid identity = [])
    (data : jsonValue (policy.keyList identity) = .ok json) (encodable : Encodable json)
    (small : (json.sortKeys.print.flatMap encodePoint).length ≤ policy.maximumKeyBytes) :
    policy.key identity = .ok (policy.keyList identity) := by
  rw [CachePolicy.key, check_bind_eq_ok_iff, check_bind_eq_ok_iff, bind_eq_ok_iff]
  refine ⟨by simp [complete], by simp [scalar], json.sortKeys.print.flatMap encodePoint, ?_, ?_⟩
  · rw [canonicalJsonBytes, data]
    exact jsonBytes_eq_ok_iff.mpr ⟨encodable, rfl⟩
  · rw [check_bind_eq_ok_iff, refuse_eq_ok_iff, not_lt]
    exact ⟨small, rfl⟩

theorem rowColumnPolicy_key : rowColumnPolicy.key (sampleIdentity 1 2) =
    .ok (.sequence [.str (str "rows"), .int 1, .int 2]) :=
  CachePolicy.key_of_encodable (.array [.str (str "rows"), .int 1, .int 2]) rfl rfl rfl
    (by decide +kernel) (by decide +kernel)

theorem columnRowPolicy_key : columnRowPolicy.key (sampleIdentity 2 1) =
    .ok (.sequence [.str (str "rows"), .int 1, .int 2]) :=
  CachePolicy.key_of_encodable (.array [.str (str "rows"), .int 1, .int 2]) rfl rfl rfl
    (by decide +kernel) (by decide +kernel)

/-- Two policies over the same cache that list the key fields in different orders
give different rows the same key. -/
theorem key_fields_not_separated :
    rowColumnPolicy.cacheResource = columnRowPolicy.cacheResource ∧
    rowColumnPolicy.serializerId = columnRowPolicy.serializerId ∧
    rowColumnPolicy.schemaFingerprint = columnRowPolicy.schemaFingerprint ∧
    (∃ key, rowColumnPolicy.key (sampleIdentity 1 2) = .ok key ∧
      columnRowPolicy.key (sampleIdentity 2 1) = .ok key) ∧
    rowColumnPolicy.keyFields ≠ columnRowPolicy.keyFields ∧
    (sampleIdentity 1 2).get? (str "a") = some (.int 1) ∧
    (sampleIdentity 2 1).get? (str "a") = some (.int 2) :=
  ⟨rfl, rfl, rfl, ⟨_, rowColumnPolicy_key, columnRowPolicy_key⟩, by decide, rfl, rfl⟩

/-- The two rows agree by position. -/
theorem key_separation_swapped :
    Agree rowColumnPolicy columnRowPolicy (sampleIdentity 1 2) (sampleIdentity 2 1) :=
  (key_separation rowColumnPolicy columnRowPolicy (sampleIdentity 1 2) (sampleIdentity 2 1) _ _
    rowColumnPolicy_key columnRowPolicy_key (fun _ => rfl) (.inl rfl)).1

end DataLifecycle.Cache
