import DataLifecycle.CanonicalEncoding
import DataLifecycle.Outbox.Transactional

/-!
# The ordering key of an intent

The writer compares references and canonical digests.  The ordering key hashes the
text of the source resource, so two intents for the same Data have the same key only
if they spell the resource the same way.
-/

namespace DataLifecycle.Outbox

open Python

variable {F : Type} [FloatText F]

/-! ## What the writer accepts -/

theorem same_eq_ok_iff {left right : PyValue F} {equal : Bool} :
    same left right = .ok equal ↔ ∃ leftDigest rightDigest, digestOf left = .ok leftDigest ∧
      digestOf right = .ok rightDigest ∧ equal = decide (leftDigest = rightDigest) := by
  rw [same, bind_eq_ok_iff]
  constructor
  · rintro ⟨leftDigest, leftEq, rest⟩
    obtain ⟨rightDigest, rightEq, equalEq⟩ := bind_eq_ok_iff.mp rest
    exact ⟨leftDigest, rightDigest, leftEq, rightEq, (Except.ok.inj equalEq).symm⟩
  · rintro ⟨leftDigest, rightDigest, leftEq, rightEq, rfl⟩
    exact ⟨leftDigest, leftEq, bind_eq_ok_iff.mpr ⟨rightDigest, rightEq, rfl⟩⟩

theorem requireSame_eq_ok_iff {left right : PyValue F} {template : String} :
    requireSame left right template = .ok () ↔
      ∃ digest, digestOf left = .ok digest ∧ digestOf right = .ok digest := by
  rw [requireSame, bind_eq_ok_iff]
  constructor
  · rintro ⟨equal, sameEq, passed⟩
    rw [refuse_eq_ok_iff, Bool.not_eq_false] at passed
    obtain ⟨leftDigest, rightDigest, leftEq, rightEq, equalEq⟩ := same_eq_ok_iff.mp sameEq
    rw [passed] at equalEq
    rw [← of_decide_eq_true equalEq.symm] at rightEq
    exact ⟨leftDigest, leftEq, rightEq⟩
  · rintro ⟨digest, leftEq, rightEq⟩
    refine ⟨true, same_eq_ok_iff.mpr ⟨digest, digest, leftEq, rightEq, by simp⟩, ?_⟩
    simp

/-- What acceptance by `_validate_source` says. -/
structure SourceValid (snapshot : RegistrySnapshot F) (operation : Operation F)
    (result : OperationResult F) (source : ResourceRef) (intent : OutboxDataV1 F)
    (schema : SchemaRef) (fields : List Str) (record : List (PyValue F × PyValue F)) : Prop where
  catalog : operation.catalog = intent.sourceCatalog
  resources : operation.resources = [source]
  resource : ∃ resource, snapshot.resource source = .ok resource ∧ resource.schema = some schema
  names : schema.Names intent.sourceSchema
  definition : ∃ definition, snapshot.schema schema = .ok definition ∧
    identityFields definition = .ok fields
  data : recordOf result.data = .ok record
  identity : ∃ digest, digestOf (identityOf fields record) = .ok digest ∧
    digestOf intent.sourceIdentity.toPy = .ok digest

theorem sourceValid_of_validateSource {snapshot : RegistrySnapshot F} {operation : Operation F}
    {mutation : Expression F} {result : OperationResult F} {source : ResourceRef}
    {intent : OutboxDataV1 F}
    (accepted : validateSource snapshot operation mutation result source intent = .ok ()) :
    ∃ schema fields record,
      SourceValid snapshot operation result source intent schema fields record := by
  rw [validateSource, check_bind_eq_ok_iff, check_bind_eq_ok_iff, check_bind_eq_ok_iff,
    check_bind_eq_ok_iff] at accepted
  obtain ⟨catalogs, resources, -, -, accepted⟩ := accepted
  obtain ⟨resource, resourceEq, accepted⟩ := bind_eq_ok_iff.mp accepted
  obtain ⟨schema, checked, accepted⟩ := bind_eq_ok_iff.mp accepted
  obtain ⟨definition, definitionEq, accepted⟩ := bind_eq_ok_iff.mp accepted
  obtain ⟨fields, fieldsEq, accepted⟩ := bind_eq_ok_iff.mp accepted
  obtain ⟨record, recordEq, accepted⟩ := bind_eq_ok_iff.mp accepted
  rw [validateRecordData, check_bind_eq_ok_iff, check_bind_eq_ok_iff,
    requireSame_eq_ok_iff] at accepted
  obtain ⟨-, identity, -⟩ := accepted
  rw [refuse_eq_ok_iff, not_or, not_not] at catalogs resources
  have named : resource.schema = some schema ∧ schema.Names intent.sourceSchema := by
    unfold checkSchema at checked
    split at checked
    next => cases checked
    next found present =>
      split at checked
      next names =>
        cases checked
        exact ⟨present, names⟩
      next => cases checked
  exact ⟨schema, fields, record, catalogs.1, resources.1, ⟨resource, resourceEq, named.1⟩, named.2,
    ⟨definition, definitionEq, fieldsEq⟩, recordEq, identity⟩

/-! ## Ordering keys -/

omit [FloatText F] in
/-- The material of the ordering key with its members in order. -/
theorem sortKeys_partitionMaterial (fields : OutboxFields F) :
    fields.partitionMaterial.sortKeys = .object [
      (str "sourceCatalog", .str fields.sourceCatalog),
      (str "sourceIdentity", fields.sourceIdentity.sortKeys),
      (str "sourceResource", .str fields.sourceResource)] :=
  rfl

omit [FloatText F] in
theorem distinctKeys_partitionMaterial {fields : OutboxFields F}
    (frozen : fields.sourceIdentity.DistinctKeys) : fields.partitionMaterial.DistinctKeys := by
  refine ⟨?_, trivial, trivial, frozen, trivial⟩
  show [str "sourceCatalog", str "sourceResource", str "sourceIdentity"].Nodup
  decide

omit [FloatText F] in
/-- Two materials are the same data if their texts and identities are. -/
theorem same_partitionMaterial_iff {first second : OutboxFields F}
    (firstFrozen : first.sourceIdentity.DistinctKeys)
    (secondFrozen : second.sourceIdentity.DistinctKeys) :
    first.partitionMaterial.Same second.partitionMaterial ↔
      (first.sourceCatalog = second.sourceCatalog ∧ first.sourceResource = second.sourceResource) ∧
        first.sourceIdentity.Same second.sourceIdentity := by
  rw [Json.same_iff_sortKeys_eq _ _ (distinctKeys_partitionMaterial firstFrozen)
    (distinctKeys_partitionMaterial secondFrozen), Json.same_iff_sortKeys_eq _ _ firstFrozen
    secondFrozen, sortKeys_partitionMaterial, sortKeys_partitionMaterial]
  simp only [Json.object.injEq, List.cons.injEq, Prod.mk.injEq, Json.str.injEq, true_and, and_true]
  tauto

/-- SHA-256 does not collide on two values. -/
def CollisionFree (first second : PyValue F) : Prop :=
  digestOf first = digestOf second → canonicalJsonBytes first = canonicalJsonBytes second

/-- `_validate_source` accepts the intent for a mutation of the source, whose result
carries the identity.  The source identity of an intent is frozen JSON data. -/
structure Committed (parse : Str → Str → Except Exc ResourceRef) (snapshot : RegistrySnapshot F)
    (source : ResourceRef) (identity : PyValue F) (intent : OutboxDataV1 F) : Prop where
  parsed : parse intent.sourceResource intent.sourceCatalog = .ok source
  accepted : ∃ operation mutation result resource schema definition fields record,
    validateSource snapshot operation mutation result source intent = .ok () ∧
      snapshot.resource source = .ok resource ∧ resource.schema = some schema ∧
      snapshot.schema schema = .ok definition ∧ identityFields definition = .ok fields ∧
      recordOf result.data = .ok record ∧ identity = identityOf fields record
  frozen : intent.sourceIdentity.DistinctKeys

variable {parse : Str → Str → Except Exc ResourceRef} {snapshot : RegistrySnapshot F}

/-- The identity of the intent has the digest of the identity of the result. -/
theorem Committed.digestOf_eq {source : ResourceRef} {identity : PyValue F}
    {intent : OutboxDataV1 F} (committed : Committed parse snapshot source identity intent) :
    ∃ digest, digestOf identity = .ok digest ∧ digestOf intent.sourceIdentity.toPy = .ok digest := by
  obtain ⟨operation, mutation, result, resource, schema, definition, fields, record, accepted,
    resourceEq, schemaEq, definitionEq, fieldsEq, recordEq, rfl⟩ := committed.accepted
  obtain ⟨foundSchema, foundFields, foundRecord, valid⟩ := sourceValid_of_validateSource accepted
  obtain ⟨foundResource, foundResourceEq, foundSchemaEq⟩ := valid.resource
  obtain ⟨foundDefinition, foundDefinitionEq, foundFieldsEq⟩ := valid.definition
  rw [resourceEq] at foundResourceEq
  cases foundResourceEq
  rw [schemaEq] at foundSchemaEq
  cases foundSchemaEq
  rw [definitionEq] at foundDefinitionEq
  cases foundDefinitionEq
  rw [fieldsEq] at foundFieldsEq
  cases foundFieldsEq
  have sameRecord := valid.data
  rw [recordEq] at sameRecord
  cases sameRecord
  exact valid.identity

/-- The identities of the result and of the intent have the same canonical bytes. -/
theorem Committed.canonicalJsonBytes_eq {source : ResourceRef} {identity : PyValue F}
    {intent : OutboxDataV1 F} (committed : Committed parse snapshot source identity intent)
    (collisionFree : CollisionFree identity intent.sourceIdentity.toPy) :
    ∃ bytes, canonicalJsonBytes identity = .ok bytes ∧
      canonicalJsonBytes intent.sourceIdentity.toPy = .ok bytes := by
  obtain ⟨digest, identityDigest, intentDigest⟩ := committed.digestOf_eq
  have sameBytes := collisionFree (identityDigest.trans intentDigest.symm)
  obtain ⟨bytes, encoded, -⟩ := digestOf_eq_ok_iff.mp identityDigest
  exact ⟨bytes, encoded, sameBytes ▸ encoded⟩

/-- The identities of two intents are the same data if those of the results are. -/
theorem same_sourceIdentity_iff {firstSource secondSource : ResourceRef}
    {firstIdentity secondIdentity : PyValue F} {first second : OutboxDataV1 F}
    (firstCommitted : Committed parse snapshot firstSource firstIdentity first)
    (secondCommitted : Committed parse snapshot secondSource secondIdentity second)
    (firstFree : CollisionFree firstIdentity first.sourceIdentity.toPy)
    (secondFree : CollisionFree secondIdentity second.sourceIdentity.toPy) :
    first.sourceIdentity.Same second.sourceIdentity ↔ SameData firstIdentity secondIdentity := by
  obtain ⟨firstBytes, firstResult, firstIntent⟩ := firstCommitted.canonicalJsonBytes_eq firstFree
  obtain ⟨secondBytes, secondResult, secondIntent⟩ :=
    secondCommitted.canonicalJsonBytes_eq secondFree
  rw [← canonicalJsonBytes_eq_iff_sameData firstResult secondResult,
    canonicalJsonBytes_eq_iff_sameData firstIntent secondIntent,
    sameData_toPy_iff firstCommitted.frozen secondCommitted.frozen]

/-- Ordering keys are equal if the materials are the same data. -/
theorem partitionKey_eq_iff {first second : OutboxDataV1 F}
    (firstFrozen : first.sourceIdentity.DistinctKeys)
    (secondFrozen : second.sourceIdentity.DistinctKeys)
    (collisionFree : CollisionFree first.partitionMaterial.toPy second.partitionMaterial.toPy) :
    first.partitionKey = second.partitionKey ↔
      first.partitionMaterial.Same second.partitionMaterial := by
  have firstDistinct := distinctKeys_partitionMaterial firstFrozen
  have secondDistinct := distinctKeys_partitionMaterial secondFrozen
  have digested : ∀ {data : OutboxDataV1 F}, data.partitionMaterial.DistinctKeys →
      digestOf data.partitionMaterial.toPy = .ok data.partitionKey := by
    intro data distinct
    rw [digestOf, jsonValue_toPy _ distinct]
    exact data.sha256Digest_partitionMaterial
  obtain ⟨firstBytes, firstEncoded, firstKey⟩ := digestOf_eq_ok_iff.mp (digested firstDistinct)
  obtain ⟨secondBytes, secondEncoded, secondKey⟩ := digestOf_eq_ok_iff.mp (digested secondDistinct)
  have bytesIff : first.partitionKey = second.partitionKey ↔ firstBytes = secondBytes := by
    constructor
    · intro equal
      have sameBytes := collisionFree (by rw [digested firstDistinct, digested secondDistinct, equal])
      rw [firstEncoded, secondEncoded] at sameBytes
      exact Except.ok.inj sameBytes
    · rintro rfl
      rw [firstKey, secondKey]
  rw [bytesIff, canonicalJsonBytes_eq_iff_sameData firstEncoded secondEncoded,
    sameData_toPy_iff firstDistinct secondDistinct]

/-- Exactly when the ordering key is a function of the Data identity.  For two accepted
intents the keys are equal for the same Data and different for different Data if and
only if intents for the same Data have the same texts of Catalog and Resource. -/
theorem partitionKey_identifies_iff (parse : Str → Str → Except Exc ResourceRef)
    (snapshot : RegistrySnapshot F) (firstSource secondSource : ResourceRef)
    (firstIdentity secondIdentity : PyValue F) (first second : OutboxDataV1 F)
    (firstCommitted : Committed parse snapshot firstSource firstIdentity first)
    (secondCommitted : Committed parse snapshot secondSource secondIdentity second)
    (firstFree : CollisionFree firstIdentity first.sourceIdentity.toPy)
    (secondFree : CollisionFree secondIdentity second.sourceIdentity.toPy)
    (keyFree : CollisionFree first.partitionMaterial.toPy second.partitionMaterial.toPy) :
    ((firstSource = secondSource ∧ SameData firstIdentity secondIdentity →
        first.partitionKey = second.partitionKey) ∧
      (firstSource ≠ secondSource ∨ ¬ SameData firstIdentity secondIdentity →
        first.partitionKey ≠ second.partitionKey)) ↔
    (firstSource = secondSource ∧ SameData firstIdentity secondIdentity →
      first.sourceCatalog = second.sourceCatalog ∧
        first.sourceResource = second.sourceResource) := by
  have keyIff : first.partitionKey = second.partitionKey ↔
      (first.sourceCatalog = second.sourceCatalog ∧ first.sourceResource = second.sourceResource) ∧
        SameData firstIdentity secondIdentity := by
    rw [partitionKey_eq_iff firstCommitted.frozen secondCommitted.frozen keyFree,
      same_partitionMaterial_iff firstCommitted.frozen secondCommitted.frozen,
      same_sourceIdentity_iff firstCommitted secondCommitted firstFree secondFree]
  -- The same texts are parsed to the same reference.
  have parsed : first.sourceCatalog = second.sourceCatalog ∧
      first.sourceResource = second.sourceResource → firstSource = secondSource := by
    rintro ⟨catalogs, resources⟩
    have firstParsed := firstCommitted.parsed
    rw [catalogs, resources, secondCommitted.parsed] at firstParsed
    exact (Except.ok.inj firstParsed).symm
  constructor
  · rintro ⟨agrees, -⟩ sameSource
    exact (keyIff.mp (agrees sameSource)).1
  · intro spelled
    constructor
    · exact fun sameSource => keyIff.mpr ⟨spelled sameSource, sameSource.2⟩
    · rintro differs equal
      obtain ⟨texts, sameIdentity⟩ := keyIff.mp equal
      rcases differs with sources | identities
      · exact sources (parsed texts)
      · exact identities sameIdentity

/-! ## Two spellings of one resource -/

/-- `ResourceRef.parse` on `catalog:namespace.name` and `namespace.name`. -/
def sampleParse (text catalog : Str) : Except Exc ResourceRef :=
  let qualified := text.dropWhile (· ≠ 58)
  let owner := if qualified = [] then catalog else text.takeWhile (· ≠ 58)
  let logical := if qualified = [] then text else qualified.drop 1
  let dotted := logical.dropWhile (· ≠ 46)
  if dotted = [] then .error (.valueError "Resource reference must be namespace.name")
  else .ok ⟨owner, logical.takeWhile (· ≠ 46), dotted.drop 1⟩

/-- The Resource of the sample cases. -/
def sampleSource : ResourceRef := ⟨str "structured", str "investigation", str "cases"⟩

/-- The Schema of the sample cases. -/
def sampleSchema : SchemaRef := ⟨str "structured", str "investigation", str "case", str "1"⟩

/-- A registry with the sample cases, identified by `id`. -/
def sampleSnapshot : RegistrySnapshot Empty where
  fingerprint := str "registry"
  resource _ := .ok { schema := some sampleSchema }
  schema _ := .ok [(.str (str "identity"), .sequence [.str (str "id")])]
  bindingFor _ := .ok ⟨str "test", str "projection.test", str "capability"⟩

/-- The mutation of the sample case. -/
def sampleMutation : Expression Empty := ⟨str "structured", str "put", []⟩

/-- The normalized mutation. -/
def sampleOperation : Operation Empty where
  catalog := str "structured"
  resources := [sampleSource]
  readOnly := false
  operationContract := str "structured.put"
  operationVersion := str "1.0.0"
  requestFingerprint := str "request"
  input := []

/-- The result of the mutation: the case with its version. -/
def sampleResult : OperationResult Empty where
  catalog := str "structured"
  resources := [sampleSource]
  operationContract := str "structured.put"
  operationVersion := str "1.0.0"
  operationFingerprint := some (str "request")
  registryFingerprint := str "registry"
  data := .mapping [(.str (str "id"), .str (str "case-1")), (.str (str "recordVersion"), .int 1)]

/-- The content of an intent for the sample case. -/
def caseFields (sourceResource eventId : Str) : OutboxFields Empty where
  sourceResource := sourceResource
  sourceSchema := str "investigation.case@1"
  sourceIdentity := .str (str "case-1")
  mutationKind := str "put"
  sourceVersion := some (.number 1)
  payload := some []
  occurredAt := 10
  eventId := eventId

theorem caseFields_valid {sourceResource eventId : Str} (resource : sourceResource ≠ [])
    (event : eventId ≠ []) : (caseFields sourceResource eventId).Valid where
  sourceResource := resource
  sourceSchema := show str "investigation.case@1" ≠ [] by decide
  mutationKind := show str "put" ≠ [] by decide
  eventId := event
  content := by simp [caseFields]
  targetLabels := by simp [caseFields]
  sourceCatalog := by simp [caseFields, catalogNames]
  sourceVersion := by simp [caseFields]

/-- An intent that names the Resource without its Catalog. -/
def bareIntent : OutboxDataV1 Empty :=
  .ofFields (caseFields (str "investigation.cases") (str "event-1"))
    (caseFields_valid (by decide) (by decide)) (by decide +kernel)

/-- Another intent that names the Resource without its Catalog. -/
def laterIntent : OutboxDataV1 Empty :=
  .ofFields (caseFields (str "investigation.cases") (str "event-2"))
    (caseFields_valid (by decide) (by decide)) (by decide +kernel)

/-- An intent that names the Resource with its Catalog. -/
def qualifiedIntent : OutboxDataV1 Empty :=
  .ofFields (caseFields (str "structured:investigation.cases") (str "event-3"))
    (caseFields_valid (by decide) (by decide)) (by decide +kernel)

/-- The writer accepts an intent for the sample case. -/
theorem committed_of_caseFields {intent : OutboxDataV1 Empty} {sourceResource eventId : Str}
    (fields : intent.toOutboxFields = caseFields sourceResource eventId)
    (parsed : sampleParse sourceResource (str "structured") = .ok sampleSource) :
    Committed sampleParse sampleSnapshot sampleSource (.str (str "case-1")) intent := by
  obtain ⟨own, digest, valid, digestEq⟩ := intent
  cases fields
  have digested : ∀ data : Json Empty, Encodable data → data.DistinctKeys →
      ∃ digest, digestOf data.toPy = .ok digest := by
    intro data encodable distinct
    rw [digestOf, jsonValue_toPy _ distinct]
    exact ⟨_, sha256Digest_of_encodable encodable⟩
  obtain ⟨identityDigest, identityEq⟩ := digested (.str (str "case-1")) (by decide +kernel) trivial
  obtain ⟨versionDigest, versionEq⟩ := digested (.int 1) (by decide +kernel) trivial
  refine ⟨parsed, ⟨sampleOperation, sampleMutation, sampleResult, _, _, _, _, _, ?_, rfl, rfl, rfl,
    rfl, rfl, rfl⟩, trivial⟩
  iterate 4 refine check_bind_eq_ok_iff.mpr ⟨rfl, ?_⟩
  iterate 5 refine bind_eq_ok_iff.mpr ⟨_, rfl, ?_⟩
  refine check_bind_eq_ok_iff.mpr ⟨rfl, ?_⟩
  refine check_bind_eq_ok_iff.mpr ⟨requireSame_eq_ok_iff.mpr ⟨_, identityEq, identityEq⟩, ?_⟩
  refine check_bind_eq_ok_iff.mpr ⟨rfl, ?_⟩
  exact check_bind_eq_ok_iff.mpr ⟨requireSame_eq_ok_iff.mpr ⟨_, versionEq, versionEq⟩, rfl⟩

/-- Two accepted intents for the same case, with and without the Catalog in the text of
the Resource, have different ordering keys. -/
theorem spelling_changes_partitionKey :
    Committed sampleParse sampleSnapshot sampleSource (.str (str "case-1")) bareIntent ∧
    Committed sampleParse sampleSnapshot sampleSource (.str (str "case-1")) qualifiedIntent ∧
    SameData (.str (str "case-1") : PyValue Empty) (.str (str "case-1")) ∧
    bareIntent.partitionKey ≠ qualifiedIntent.partitionKey := by
  refine ⟨committed_of_caseFields rfl rfl, committed_of_caseFields rfl rfl, ⟨_, _, rfl, rfl, rfl⟩, ?_⟩
  unfold OutboxDataV1.partitionKey
  decide +kernel

/-- The event does not matter for the ordering key. -/
theorem caseFields_texts (sourceResource eventId otherId : Str) :
    (caseFields sourceResource eventId).partitionMaterial =
        (caseFields sourceResource otherId).partitionMaterial ∧
      (caseFields sourceResource eventId).sourceCatalog =
        (caseFields sourceResource otherId).sourceCatalog ∧
      (caseFields sourceResource eventId).sourceResource =
        (caseFields sourceResource otherId).sourceResource :=
  ⟨rfl, rfl, rfl⟩

/-- Intents of the sample case that name the Resource the same way have the same ordering
key. -/
theorem partitionKey_identifies_iff_sample :
    bareIntent.partitionKey = laterIntent.partitionKey := by
  have bareFields : bareIntent.toOutboxFields =
      caseFields (str "investigation.cases") (str "event-1") := rfl
  have laterFields : laterIntent.toOutboxFields =
      caseFields (str "investigation.cases") (str "event-2") := rfl
  obtain ⟨sameMaterial, sameTexts⟩ :=
    caseFields_texts (str "investigation.cases") (str "event-1") (str "event-2")
  have identified := partitionKey_identifies_iff sampleParse sampleSnapshot sampleSource sampleSource
    (.str (str "case-1")) (.str (str "case-1")) bareIntent laterIntent
    (committed_of_caseFields bareFields rfl) (committed_of_caseFields laterFields rfl)
    (by rw [bareFields]; exact fun _ => rfl) (by rw [laterFields]; exact fun _ => rfl)
    (by rw [bareFields, laterFields, sameMaterial]; exact fun _ => rfl)
  rw [bareFields, laterFields] at identified
  exact (identified.mpr fun _ => sameTexts).1 ⟨rfl, _, _, rfl, rfl, rfl⟩

end DataLifecycle.Outbox
