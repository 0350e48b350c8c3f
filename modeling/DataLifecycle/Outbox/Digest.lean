import DataLifecycle.Outbox.OrderingKey
import DataLifecycle.Outbox.Store
import DataLifecycle.Timestamp

/-!
# The digest of an intent binds its content

The constructor of `OutboxDataV1` freezes what it is given and hashes the frozen content.  Its
digest covers every field, so it agrees exactly on the same content, the constructor accepts what
it has made, and an append of a known event compares contents.
-/

namespace DataLifecycle.Outbox

open Python

variable {F : Type}

/-! ## The constructor -/

/-- The arguments of the constructor of `OutboxDataV1`. -/
structure OutboxArguments (F : Type) where
  sourceResource : Str
  sourceSchema : Str
  sourceIdentity : PyValue F
  mutationKind : Str
  sourceVersion : Option Version := none
  payload : Option (List (PyValue F × PyValue F)) := none
  immutableReference : Option (List (PyValue F × PyValue F)) := none
  targetLabels : List Str := []
  occurredAt : DateTime
  operationContext : List (PyValue F × PyValue F) := []
  sourceCatalog : Str := str "structured"
  eventId : Str
  digest : Str := []
  formatVersion : Str := Outbox.formatVersion

/-- The members of a mapping, if every key and value is a string. -/
def textMembers : List (PyValue F × PyValue F) → Option (List (Str × Str))
  | [] => some []
  | (.str key, .str value) :: rest => (textMembers rest).map ((key, value) :: ·)
  | _ :: _ => none

/-- The frozen operation context. -/
def frozenContext (items : List (PyValue F × PyValue F)) : Except Exc (List (Str × Str)) :=
  match textMembers items with
  | none => .error (.valueError "operation_context must contain only string keys and values")
  | some members => .ok (members.foldl (fun dict item => Dict.assign item.1 item.2 dict) [])

/-- An optional frozen mapping. -/
def frozenMapping : Option (List (PyValue F × PyValue F)) → Except Exc (Option (List (Str × Json F)))
  | none => .ok none
  | some items => do
      let members ← immutableMapping items
      pure (some members.val)

namespace OutboxArguments

/-- The checks of `__post_init__` that come before anything is frozen. -/
def check (arguments : OutboxArguments F) : Except Exc Unit := do
  refuse (arguments.formatVersion ≠ Outbox.formatVersion)
    (.valueError "format_version must be %r" [Outbox.formatVersion])
  requireText "source_resource" arguments.sourceResource
  requireText "source_schema" arguments.sourceSchema
  requireText "mutation_kind" arguments.mutationKind
  requireText "source_catalog" arguments.sourceCatalog
  requireText "event_id" arguments.eventId
  refuse (arguments.payload.isNone ∧ arguments.immutableReference.isNone)
    (.valueError "outbox data requires a payload or immutable reference")
  refuse (arguments.payload.isSome ∧ arguments.immutableReference.isSome)
    (.valueError "payload and immutable_reference are mutually exclusive")
  refuse (¬ arguments.targetLabels.Nodup)
    (.valueError "target_labels must not contain duplicates")
  refuse (arguments.sourceCatalog ∉ catalogNames)
    (.valueError "unknown source Catalog %r" [arguments.sourceCatalog])
  refuse (arguments.sourceVersion = some (.flag true) ∨ arguments.sourceVersion = some (.flag false))
    (.valueError "source_version cannot be boolean")
  let _ ← frozenContext arguments.operationContext

/-- The frozen content, in the order in which `__post_init__` replaces the fields. -/
def freeze (arguments : OutboxArguments F) : Except Exc (OutboxFields F) := do
  let sourceIdentity ← jsonValue arguments.sourceIdentity
  let occurredAt ← ensureUtc "occurred_at" arguments.occurredAt
  let operationContext ← frozenContext arguments.operationContext
  let payload ← frozenMapping arguments.payload
  let immutableReference ← frozenMapping arguments.immutableReference
  pure {
    sourceResource := arguments.sourceResource
    sourceSchema := arguments.sourceSchema
    sourceIdentity := sourceIdentity
    mutationKind := arguments.mutationKind
    sourceVersion := arguments.sourceVersion
    payload := payload
    immutableReference := immutableReference
    targetLabels := arguments.targetLabels
    occurredAt := occurredAt
    operationContext := operationContext
    sourceCatalog := arguments.sourceCatalog
    eventId := arguments.eventId }

theorem isSome_frozenMapping {items : Option (List (PyValue F × PyValue F))}
    {frozen : Option (List (Str × Json F))} (equal : frozenMapping items = .ok frozen) :
    frozen.isSome = items.isSome := by
  cases items with
  | none =>
      cases equal
      rfl
  | some items =>
      obtain ⟨members, -, equal⟩ := bind_eq_ok_iff.mp equal
      cases equal
      rfl

/-- What the checks say. -/
theorem check_eq_ok_iff {arguments : OutboxArguments F} :
    arguments.check = .ok () ↔
      arguments.formatVersion = Outbox.formatVersion ∧ arguments.sourceResource ≠ [] ∧
        arguments.sourceSchema ≠ [] ∧ arguments.mutationKind ≠ [] ∧ arguments.sourceCatalog ≠ [] ∧
        arguments.eventId ≠ [] ∧ arguments.payload.isSome ≠ arguments.immutableReference.isSome ∧
        arguments.targetLabels.Nodup ∧ arguments.sourceCatalog ∈ catalogNames ∧
        (∀ value, arguments.sourceVersion ≠ some (.flag value)) ∧
        ∃ context, frozenContext arguments.operationContext = .ok context := by
  have contents : ¬ (arguments.payload.isNone ∧ arguments.immutableReference.isNone) ∧
      ¬ (arguments.payload.isSome ∧ arguments.immutableReference.isSome) ↔
      arguments.payload.isSome ≠ arguments.immutableReference.isSome := by
    cases arguments.payload <;> cases arguments.immutableReference <;> simp
  have versions : ¬ (arguments.sourceVersion = some (.flag true) ∨
      arguments.sourceVersion = some (.flag false)) ↔
      ∀ value, arguments.sourceVersion ≠ some (.flag value) := by
    rw [Bool.forall_bool, not_or, and_comm]
  have contexts : (∃ context, frozenContext arguments.operationContext = .ok context ∧
      (pure () : Except Exc Unit) = .ok ()) ↔
      ∃ context, frozenContext arguments.operationContext = .ok context :=
    exists_congr fun context => and_iff_left rfl
  simp only [check, requireText, check_bind_eq_ok_iff, refuse_eq_ok_iff, ne_eq, not_not]
  rw [bind_eq_ok_iff, contexts, versions, ← and_assoc (a := ¬ (_ ∧ _)), contents]

theorem valid_of_freeze {arguments : OutboxArguments F} {fields : OutboxFields F}
    (checked : arguments.check = .ok ()) (frozen : arguments.freeze = .ok fields) :
    fields.Valid := by
  obtain ⟨-, resource, schema, kind, -, event, content, labels, catalog, version, -⟩ :=
    check_eq_ok_iff.mp checked
  simp only [freeze, bind_eq_ok_iff] at frozen
  obtain ⟨identity, -, occurredAt, -, context, -, payload, payloadEq, reference, referenceEq,
    fieldsEq⟩ := frozen
  cases fieldsEq
  refine ⟨resource, schema, kind, event, ?_, labels, catalog, version⟩
  show payload.isSome ≠ reference.isSome
  rw [isSome_frozenMapping payloadEq, isSome_frozenMapping referenceEq]
  exact content

end OutboxArguments

variable [FloatText F]

/-- The constructor of `OutboxDataV1`. -/
def OutboxDataV1.construct (arguments : OutboxArguments F) : Except Exc (OutboxDataV1 F) :=
  match checked : arguments.check with
  | .error error => .error error
  | .ok () =>
      match frozen : arguments.freeze with
      | .error error => .error error
      | .ok fields =>
          match digested : sha256Digest fields.digestMaterial with
          | .error error => .error error
          | .ok expected =>
              if arguments.digest ≠ [] ∧ arguments.digest ≠ expected then
                .error (.valueError "outbox digest does not match canonical content")
              else
                .ok ⟨fields, expected, OutboxArguments.valid_of_freeze checked frozen, digested⟩

theorem OutboxDataV1.construct_eq_ok_iff {arguments : OutboxArguments F} {data : OutboxDataV1 F} :
    construct arguments = .ok data ↔ arguments.check = .ok () ∧
      arguments.freeze = .ok data.toOutboxFields ∧
      ¬ (arguments.digest ≠ [] ∧ arguments.digest ≠ data.digest) := by
  obtain ⟨fields, digest, valid, digested⟩ := data
  unfold construct
  split
  next error checked => simp [checked]
  next checked =>
    split
    next error frozen => simp [frozen]
    next found frozen =>
      -- The content is frozen; the digest is the one of the content that is stored.
      have sameFields : arguments.freeze = .ok fields ↔ found = fields := by
        rw [frozen, Except.ok.injEq]
      show _ ↔ arguments.check = .ok () ∧ arguments.freeze = .ok fields ∧
        ¬ (arguments.digest ≠ [] ∧ arguments.digest ≠ digest)
      rw [sameFields]
      split
      next error failed =>
        constructor
        · exact nofun
        · rintro ⟨-, rfl, -⟩
          rw [digested] at failed
          cases failed
      next expected computed =>
        split
        next mismatch =>
          constructor
          · exact nofun
          · rintro ⟨-, rfl, accepted⟩
            rw [digested] at computed
            cases computed
            exact absurd mismatch accepted
        next accepted =>
          constructor
          · intro equal
            cases equal
            exact ⟨checked, rfl, accepted⟩
          · rintro ⟨-, rfl, -⟩
            rw [digested] at computed
            cases computed
            rfl

/-- Frozen content: every mapping has distinct keys. -/
structure OutboxFields.Frozen (fields : OutboxFields F) : Prop where
  sourceIdentity : fields.sourceIdentity.DistinctKeys
  payload : ∀ members, fields.payload = some members → (Json.object members).DistinctKeys
  immutableReference : ∀ members, fields.immutableReference = some members →
    (Json.object members).DistinctKeys
  operationContext : (fields.operationContext.map Prod.fst).Nodup

omit [FloatText F] in
theorem distinctKeys_of_frozenMapping {items : Option (List (PyValue F × PyValue F))}
    {frozen : Option (List (Str × Json F))} (equal : frozenMapping items = .ok frozen) :
    ∀ members, frozen = some members → (Json.object members).DistinctKeys := by
  rintro members rfl
  cases items with
  | none => cases equal
  | some items =>
      obtain ⟨found, -, equal⟩ := bind_eq_ok_iff.mp equal
      cases equal
      exact found.property

omit [FloatText F] in
theorem nodup_of_frozenContext {items : List (PyValue F × PyValue F)} {context : List (Str × Str)}
    (equal : frozenContext items = .ok context) : (context.map Prod.fst).Nodup := by
  unfold frozenContext at equal
  split at equal
  next => cases equal
  next members _ =>
    cases equal
    exact Dict.nodup_foldl_assign List.nodup_nil

omit [FloatText F] in
/-- The constructor stores frozen content. -/
theorem OutboxArguments.frozen_of_freeze {arguments : OutboxArguments F} {fields : OutboxFields F}
    (equal : arguments.freeze = .ok fields) : fields.Frozen := by
  simp only [freeze, bind_eq_ok_iff] at equal
  obtain ⟨identity, identityEq, occurredAt, -, context, contextEq, payload, payloadEq, reference,
    referenceEq, fieldsEq⟩ := equal
  cases fieldsEq
  exact ⟨distinctKeys_of_jsonValue _ identityEq, distinctKeys_of_frozenMapping payloadEq,
    distinctKeys_of_frozenMapping referenceEq, nodup_of_frozenContext contextEq⟩

/-- A value that the constructor returns. -/
def OutboxDataV1.Constructed (data : OutboxDataV1 F) : Prop :=
  ∃ arguments, construct arguments = .ok data

/-! ## Rebuilding an intent -/

/-- The fields of an intent and its digest, as arguments. -/
def OutboxDataV1.arguments (data : OutboxDataV1 F) : OutboxArguments F where
  sourceResource := data.sourceResource
  sourceSchema := data.sourceSchema
  sourceIdentity := data.sourceIdentity.toPy
  mutationKind := data.mutationKind
  sourceVersion := data.sourceVersion
  payload := data.payload.map Json.toPyMembers
  immutableReference := data.immutableReference.map Json.toPyMembers
  targetLabels := data.targetLabels
  occurredAt := .ofUtc data.occurredAt
  operationContext := data.operationContext.map fun member => (.str member.1, .str member.2)
  sourceCatalog := data.sourceCatalog
  eventId := data.eventId
  digest := data.digest

omit [FloatText F] in
theorem frozenMapping_toPyMembers {mapping : Option (List (Str × Json F))}
    (distinct : ∀ members, mapping = some members → (Json.object members).DistinctKeys) :
    frozenMapping (mapping.map Json.toPyMembers) = .ok mapping := by
  cases mapping with
  | none => rfl
  | some members =>
      rw [Option.map_some, frozenMapping, immutableMapping_toPyMembers (distinct members rfl)]
      rfl

omit [FloatText F] in
theorem textMembers_map_str (members : List (Str × Str)) :
    textMembers (members.map fun member => ((.str member.1, .str member.2) : PyValue F × PyValue F)) =
      some members := by
  induction members with
  | nil => rfl
  | cons member rest inductionHypothesis =>
      rw [List.map_cons, textMembers, inductionHypothesis]
      rfl

omit [FloatText F] in
theorem frozenContext_map_str {members : List (Str × Str)} (nodup : (members.map Prod.fst).Nodup) :
    frozenContext (members.map fun member => ((.str member.1, .str member.2) : PyValue F × PyValue F)) =
      .ok members := by
  rw [frozenContext, textMembers_map_str]
  simp only [Dict.foldl_assign_of_nodup [] members nodup, List.nil_append]

/-- The constructor accepts an intent with its digest and returns it. -/
theorem OutboxDataV1.construct_arguments {data : OutboxDataV1 F} (frozen : data.Frozen) :
    construct data.arguments = .ok data := by
  have context := frozenContext_map_str (F := F) frozen.operationContext
  have valid := data.valid
  rw [construct_eq_ok_iff, OutboxArguments.check_eq_ok_iff]
  refine ⟨⟨rfl, valid.sourceResource, valid.sourceSchema, valid.mutationKind, ?_, valid.eventId, ?_,
    valid.targetLabels, valid.sourceCatalog, valid.sourceVersion, _, context⟩, ?_, ?_⟩
  · intro empty
    have known : data.sourceCatalog ∈ catalogNames := valid.sourceCatalog
    rw [show data.sourceCatalog = [] from empty] at known
    exact absurd known (by decide)
  · rw [arguments, Option.isSome_map, Option.isSome_map]
    exact valid.content
  · simp only [OutboxArguments.freeze, arguments, bind_eq_ok_iff]
    exact ⟨_, jsonValue_toPy _ frozen.sourceIdentity, _, by rw [ensureUtc, DateTime.toUtc_ofUtc], _,
      context, _, frozenMapping_toPyMembers frozen.payload, _,
      frozenMapping_toPyMembers frozen.immutableReference, rfl⟩
  · exact fun mismatch => mismatch.2 rfl

theorem OutboxDataV1.Constructed.frozen {data : OutboxDataV1 F} (built : data.Constructed) :
    data.Frozen := by
  obtain ⟨arguments, equal⟩ := built
  exact OutboxArguments.frozen_of_freeze (construct_eq_ok_iff.mp equal).2.1

/-! ## The content that the digest covers -/

/-- The content of two intents is equal, mappings up to the order of their members. -/
structure OutboxFields.SameContent (first second : OutboxFields F) : Prop where
  sourceResource : first.sourceResource = second.sourceResource
  sourceSchema : first.sourceSchema = second.sourceSchema
  sourceIdentity : first.sourceIdentity.Same second.sourceIdentity
  mutationKind : first.mutationKind = second.mutationKind
  sourceVersion : first.sourceVersion = second.sourceVersion
  payload : (mappingJson first.payload).Same (mappingJson second.payload)
  immutableReference :
    (mappingJson first.immutableReference).Same (mappingJson second.immutableReference)
  targetLabels : first.targetLabels = second.targetLabels
  occurredAt : first.occurredAt = second.occurredAt
  operationContext : first.operationContext.Perm second.operationContext
  sourceCatalog : first.sourceCatalog = second.sourceCatalog
  eventId : first.eventId = second.eventId

omit [FloatText F] in
theorem same_versionJson_iff {first second : Option Version} :
    (versionJson first : Json F).Same (versionJson second) ↔ first = second := by
  rcases first with _ | first | first | first <;> rcases second with _ | second | second | second <;>
    simp [versionJson, Json.Same]

omit [FloatText F] in
theorem same_labels_iff {first second : List Str} :
    (Json.array (first.map .str) : Json F).Same (.array (second.map .str)) ↔ first = second := by
  rw [Json.Same]
  induction first generalizing second with
  | nil => cases second <;> simp [Json.SameItems]
  | cons label first inductionHypothesis =>
      cases second with
      | nil => simp [Json.SameItems]
      | cons other second => simp [Json.SameItems, Json.Same, inductionHypothesis]

omit [FloatText F] in
/-- Contexts are the same data if they have the same members. -/
theorem same_context_iff {first second : List (Str × Str)} (firstNodup : (first.map Prod.fst).Nodup)
    (secondNodup : (second.map Prod.fst).Nodup) :
    (Json.object (first.map fun member => (member.1, .str member.2)) : Json F).Same
      (.object (second.map fun member => (member.1, .str member.2))) ↔ first.Perm second := by
  have found : ∀ member : Str × Str, (∃ other : Json F,
      Dict.lookup member.1 (second.map fun member => (member.1, .str member.2)) = some other ∧
        (Json.str member.2).Same other) ↔ member ∈ second := by
    intro member
    have keys : ((second.map fun member => (member.1, (.str member.2 : Json F))).map
        Prod.fst).Nodup := by
      simpa [Function.comp_def] using secondNodup
    simp only [Dict.lookup_eq_some_iff keys, List.mem_map, Prod.mk.injEq]
    constructor
    · rintro ⟨other, ⟨entry, entryMem, sameKey, rfl⟩, sameValue⟩
      rwa [show member = entry from Prod.ext sameKey.symm sameValue]
    · intro memberMem
      exact ⟨.str member.2, ⟨member, memberMem, rfl, rfl⟩, rfl⟩
  rw [Json.Same, Json.sameMembers_iff]
  simp only [List.length_map, List.forall_mem_map, found]
  constructor
  · rintro ⟨lengths, subset⟩
    exact (List.Nodup.subperm (List.Nodup.of_map _ firstNodup) subset).perm_of_length_le lengths.ge
  · intro perm
    exact ⟨perm.length_eq, fun member memberMem => perm.mem_iff.mp memberMem⟩

/-- The keys of the digest material. -/
def digestKeys : List Str :=
  [str "formatVersion", str "eventId", str "sourceCatalog", str "sourceResource",
    str "sourceSchema", str "sourceIdentity", str "sourceVersion", str "mutationKind",
    str "payload", str "immutableReference", str "targetLabels", str "occurredAt",
    str "operationContext"]

theorem nodup_digestKeys : digestKeys.Nodup := by
  decide +kernel

omit [FloatText F] in
theorem OutboxFields.Frozen.distinctKeys_digestMaterial {fields : OutboxFields F}
    (frozen : fields.Frozen) : fields.digestMaterial.DistinctKeys := by
  have mappings : ∀ mapping : Option (List (Str × Json F)),
      (∀ members, mapping = some members → (Json.object members).DistinctKeys) →
      (mappingJson mapping).DistinctKeys := by
    intro mapping distinct
    cases mapping with
    | none => trivial
    | some members => exact distinct members rfl
  refine ⟨nodup_digestKeys, Json.distinctKeysMembers_iff.mpr ?_⟩
  simp only [List.forall_mem_cons]
  refine ⟨trivial, trivial, trivial, trivial, trivial, frozen.sourceIdentity, ?_, trivial,
    mappings _ frozen.payload, mappings _ frozen.immutableReference, ?_, trivial, ?_, by simp⟩
  · rcases fields.sourceVersion with _ | version | version | version <;> trivial
  · show Json.DistinctKeysItems (fields.targetLabels.map .str)
    induction fields.targetLabels with
    | nil => trivial
    | cons label rest inductionHypothesis => exact ⟨trivial, inductionHypothesis⟩
  · refine ⟨by simpa [Function.comp_def] using frozen.operationContext, ?_⟩
    rw [Json.distinctKeysMembers_iff, List.forall_mem_map]
    exact fun _ _ => trivial

omit [FloatText F] in
/-- The digest material covers every field. -/
theorem OutboxFields.Frozen.same_digestMaterial_iff {first second : OutboxFields F}
    (firstFrozen : first.Frozen) (secondFrozen : second.Frozen) :
    first.digestMaterial.Same second.digestMaterial ↔ first.SameContent second := by
  unfold digestMaterial
  refine (Json.same_object_iff ?_ ?_).trans ?_
  · simp only [List.map_cons, List.map_nil]
  · exact nodup_digestKeys
  · have texts : ∀ one other : Str, (Json.str one : Json F).Same (.str other) ↔ one = other :=
      fun _ _ => Iff.rfl
    simp only [List.forall₂_cons, List.forall₂_nil_left_iff, same_versionJson_iff, same_labels_iff,
      same_context_iff firstFrozen.operationContext secondFrozen.operationContext, texts,
      rfc3339_injective.eq_iff, true_and, and_true]
    constructor
    · rintro ⟨event, catalog, resource, schema, identity, version, kind, payload, reference, labels,
        occurredAt, context⟩
      exact ⟨resource, schema, identity, kind, version, payload, reference, labels, occurredAt,
        context, catalog, event⟩
    · rintro ⟨resource, schema, identity, kind, version, payload, reference, labels, occurredAt,
        context, catalog, event⟩
      exact ⟨event, catalog, resource, schema, identity, version, kind, payload, reference, labels,
        occurredAt, context⟩

theorem OutboxDataV1.digestOf_digestMaterial {data : OutboxDataV1 F} (frozen : data.Frozen) :
    digestOf data.digestMaterial.toPy = .ok data.digest := by
  rw [digestOf, jsonValue_toPy _ frozen.distinctKeys_digestMaterial]
  exact data.digest_eq

/-- Digests agree exactly on the same content. -/
theorem OutboxDataV1.digest_eq_iff {first second : OutboxDataV1 F} (firstFrozen : first.Frozen)
    (secondFrozen : second.Frozen)
    (collisionFree : CollisionFree first.digestMaterial.toPy second.digestMaterial.toPy) :
    first.digest = second.digest ↔ first.SameContent second.toOutboxFields := by
  have firstDistinct := firstFrozen.distinctKeys_digestMaterial
  have secondDistinct := secondFrozen.distinctKeys_digestMaterial
  obtain ⟨firstBytes, firstEncoded, firstDigest⟩ :=
    digestOf_eq_ok_iff.mp (digestOf_digestMaterial firstFrozen)
  obtain ⟨secondBytes, secondEncoded, secondDigest⟩ :=
    digestOf_eq_ok_iff.mp (digestOf_digestMaterial secondFrozen)
  rw [← firstFrozen.same_digestMaterial_iff secondFrozen,
    ← sameData_toPy_iff firstDistinct secondDistinct,
    ← canonicalJsonBytes_eq_iff_sameData firstEncoded secondEncoded]
  constructor
  · intro equal
    have sameBytes := collisionFree (by
      rw [digestOf_digestMaterial firstFrozen, digestOf_digestMaterial secondFrozen, equal])
    rw [firstEncoded, secondEncoded] at sameBytes
    exact Except.ok.inj sameBytes
  · rintro rfl
    rw [firstDigest, secondDigest]

/-! ## Appending a known event -/

/-- The conflict of an append. -/
def appendConflict (eventId : Str) : Exc :=
  .meridian .conflictError "MERIDIAN_OUTBOX_IDEMPOTENCY_CONFLICT"
    "event %r already exists with different content" [eventId]

/-- The digest of an intent binds its content: two intents have the same digest exactly when their
normalized fields are the same, the constructor accepts the fields of an intent with its digest and
returns the intent, and an append of a known event leaves the store unchanged and raises the
conflict exactly when the contents differ. -/
theorem digest_binds_content (first second : OutboxDataV1 F) (firstBuilt : first.Constructed)
    (secondBuilt : second.Constructed)
    (collisionFree : CollisionFree first.digestMaterial.toPy second.digestMaterial.toPy) :
    (first.digest = second.digest ↔ first.SameContent second.toOutboxFields) ∧
      OutboxDataV1.construct first.arguments = .ok first ∧
      ∀ (store : InMemoryOutboxStore F) (existing : MutableRecord F),
        store.records.get? second.eventId = some existing → existing.data = first →
          (store.append second).2 = store ∧
            ((store.append second).1 = .error (appendConflict second.eventId) ↔
              ¬ first.SameContent second.toOutboxFields) ∧
            ((store.append second).1 = .ok () ↔ first.SameContent second.toOutboxFields) := by
  have binds := OutboxDataV1.digest_eq_iff firstBuilt.frozen secondBuilt.frozen collisionFree
  refine ⟨binds, OutboxDataV1.construct_arguments firstBuilt.frozen, ?_⟩
  rintro store existing present rfl
  rw [InMemoryOutboxStore.append, present, ← binds]
  by_cases same : existing.data.digest = second.digest
  · simp [same]
  · simp [same, appendConflict]

/-- The sample change with another time under the same event id. -/
def redatedIntent : OutboxDataV1 Empty :=
  .ofFields (sampleFields (str "order-1-b") ⟨11, by decide⟩) (sampleFields_valid (by decide) _)
    (by decide +kernel)

theorem sampleFields_frozen (eventId : Str) (occurredAt : Utc) :
    (sampleFields eventId occurredAt).Frozen where
  sourceIdentity := trivial
  payload := by
    rintro members ⟨⟩
    exact ⟨List.nodup_nil, trivial⟩
  immutableReference := nofun
  operationContext := List.nodup_nil

/-- The store that holds the sample change refuses the other time and stays as it is. -/
theorem digest_binds_content_redated :
    let store : InMemoryOutboxStore Empty :=
      (InMemoryOutboxStore.init 5 (by decide)).setRecord (str "order-1-b") { data := sampleIntent }
    store.append redatedIntent = (.error (appendConflict (str "order-1-b")), store) := by
  intro store
  have sampleFrozen : sampleIntent.Frozen := sampleFields_frozen _ _
  have redatedFrozen : redatedIntent.Frozen := sampleFields_frozen _ _
  have differ : sampleIntent.digest ≠ redatedIntent.digest := by decide +kernel
  obtain ⟨binds, -, appends⟩ := digest_binds_content sampleIntent redatedIntent
    ⟨_, OutboxDataV1.construct_arguments sampleFrozen⟩
    ⟨_, OutboxDataV1.construct_arguments redatedFrozen⟩ (by
      intro equal
      rw [OutboxDataV1.digestOf_digestMaterial sampleFrozen,
        OutboxDataV1.digestOf_digestMaterial redatedFrozen] at equal
      exact absurd (Except.ok.inj equal) differ)
  obtain ⟨unchanged, refused, -⟩ := appends store { data := sampleIntent }
    (Dict.get?_set_self _ _ _) rfl
  exact Prod.ext (refused.mpr (mt binds.mpr differ)) unchanged

end DataLifecycle.Outbox
