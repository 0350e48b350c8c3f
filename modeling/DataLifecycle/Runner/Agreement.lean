import DataLifecycle.Outbox.OrderingKey
import DataLifecycle.Runner.Model

/-!
# The writer and the runner on one intent

The writer and the bindings check of the runner accept two spellings of a Schema, and
they compare Resources by the references that the texts are parsed to.  The record check
of the runner compares texts, so it rejects an intent that is spelt another way than
the specification.
-/

namespace DataLifecycle.Runner

open Python Outbox

variable {F : Type}

/-- What acceptance of the bindings says about the source. -/
structure SourceBound (snapshot : RegistrySnapshot F) (spec : ProjectionSpec)
    (source : ResourceRef) (schema : SchemaRef) : Prop where
  catalog : source.catalog = spec.sourceCatalog
  resource : ∃ resource, snapshot.resource source = .ok resource ∧ resource.schema = some schema
  names : schema.Names spec.sourceSchema

theorem rejecting_eq_ok_iff {α : Type} {caught : Exc → Bool} {template : String}
    {result : Except Exc α} {value : α} :
    rejecting caught template result = .ok value ↔ result = .ok value := by
  cases result with
  | error error => simp [rejecting]
  | ok found => rfl

theorem checkSpecSchema_eq_ok_iff {role : String} {found : Option SchemaRef} {name : Str}
    {schema : SchemaRef} :
    checkSpecSchema role found name = .ok schema ↔ found = some schema ∧ schema.Names name := by
  unfold checkSpecSchema
  cases found with
  | none => simp
  | some other =>
      dsimp only
      split
      next names =>
        constructor
        · rintro ⟨⟩
          exact ⟨rfl, names⟩
        · rintro ⟨⟨⟩, -⟩
          rfl
      next names =>
        constructor
        · rintro ⟨⟩
        · rintro ⟨⟨⟩, named⟩
          exact absurd named names

/-- Accepted bindings resolve the source in the snapshot and name its Schema. -/
theorem sourceBound_of_validateBindings {runtime : Runtime F} {snapshot : RegistrySnapshot F}
    {spec : ProjectionSpec} {source : ResourceRef}
    (pinned : runtime.snapshotForHandle = .ok snapshot)
    (bound : validateBindings runtime spec = .ok ())
    (parsed : runtime.parse spec.source spec.sourceCatalog = .ok source) :
    ∃ schema, SourceBound snapshot spec source schema := by
  rw [validateBindings, check_bind_eq_ok_iff, check_bind_eq_ok_iff, bind_eq_ok_iff] at bound
  obtain ⟨-, -, found, foundEq, bound⟩ := bound
  rw [pinned] at foundEq
  cases foundEq
  obtain ⟨bound, -⟩ := check_bind_eq_ok_iff.mp bound
  obtain ⟨ref, refEq, bound⟩ := bind_eq_ok_iff.mp bound
  rw [rejecting_eq_ok_iff, parsed] at refEq
  cases refEq
  obtain ⟨catalog, bound⟩ := check_bind_eq_ok_iff.mp bound
  obtain ⟨resource, resourceEq, bound⟩ := bind_eq_ok_iff.mp bound
  obtain ⟨schema, checked, -⟩ := bind_eq_ok_iff.mp bound
  rw [refuse_eq_ok_iff, not_not] at catalog
  obtain ⟨present, names⟩ := checkSpecSchema_eq_ok_iff.mp checked
  exact ⟨schema, catalog, ⟨resource, resourceEq, present⟩, names⟩

/-- The intent and the specification have the same texts of Catalog and Resource, and
both or neither have the Catalog in the text of the Schema. -/
structure SpeltAlike (snapshot : RegistrySnapshot F) (spec : ProjectionSpec)
    (source : ResourceRef) (intent : OutboxFields F) : Prop where
  catalog : intent.sourceCatalog = spec.sourceCatalog
  resource : intent.sourceResource = spec.source
  schema : ∀ resource schema, snapshot.resource source = .ok resource →
    resource.schema = some schema →
    (intent.sourceSchema = schema.text ↔ spec.sourceSchema = schema.text)

/-- Exactly when the runner accepts the record of an intent that the writer accepted for
the same source. -/
theorem validateRecord_eq_ok_iff_speltAlike [FloatText F] (runtime : Runtime F)
    (snapshot : RegistrySnapshot F) (spec : ProjectionSpec) (source : ResourceRef)
    (operation : Operation F) (mutation : Expression F) (result : OperationResult F)
    (intent : OutboxDataV1 F)
    (pinned : runtime.snapshotForHandle = .ok snapshot)
    (bound : validateBindings runtime spec = .ok ())
    (accepted : validateSource snapshot operation mutation result source intent = .ok ())
    (specParsed : runtime.parse spec.source spec.sourceCatalog = .ok source)
    (_intentParsed : runtime.parse intent.sourceResource intent.sourceCatalog = .ok source)
    (labels : spec.targetLabels ⊆ intent.targetLabels) :
    validateRecord spec intent.toOutboxFields = .ok () ↔
      SpeltAlike snapshot spec source intent.toOutboxFields := by
  obtain ⟨schema, sourceBound⟩ := sourceBound_of_validateBindings pinned bound specParsed
  obtain ⟨intentSchema, fields, record, valid⟩ := sourceValid_of_validateSource accepted
  obtain ⟨resource, resourceEq, schemaEq⟩ := sourceBound.resource
  obtain ⟨intentResource, intentResourceEq, intentSchemaEq⟩ := valid.resource
  -- Both validators look the same reference up in the same snapshot.
  rw [resourceEq] at intentResourceEq
  cases intentResourceEq
  rw [schemaEq] at intentSchemaEq
  cases intentSchemaEq
  have spellings := valid.names.eq_iff sourceBound.names
  rw [validateRecord_eq_ok_iff]
  constructor
  · rintro ⟨catalog, name, schemas, -⟩
    refine ⟨catalog, name, ?_⟩
    intro found foundSchema foundEq foundSchemaEq
    rw [resourceEq] at foundEq
    cases foundEq
    rw [schemaEq] at foundSchemaEq
    cases foundSchemaEq
    exact spellings.mp schemas
  · intro spelt
    exact ⟨spelt.catalog, spelt.resource, spellings.mpr (spelt.schema _ _ resourceEq schemaEq),
      labels⟩

/-! ## Two spellings of one Schema -/

/-- A runtime with the sample registry. -/
def sampleRuntime : Runtime Empty where
  catalog _ := .ok ()
  snapshotForHandle := .ok sampleSnapshot
  capabilityManifests :=
    Dict.empty.set (str "test") ⟨str "projection.test", str "capability"⟩
  parse := sampleParse
  capabilityViolations _ _ := .ok []

/-- A projection of the sample cases that names their Schema with the given text. -/
def sampleSpec (sourceSchema : Str) (nonempty : sourceSchema ≠ []) : ProjectionSpec where
  name := str "case-view"
  sourceCatalog := str "structured"
  source := str "investigation.cases"
  targetCatalog := str "structured"
  target := str "investigation.views"
  sourceSchema := sourceSchema
  targetSchema := str "investigation.case@1"
  name_ne := by decide
  sourceCatalog_mem := by decide
  source_ne := by decide
  targetCatalog_mem := by decide
  target_ne := by decide
  sourceSchema_ne := nonempty
  targetSchema_ne := by decide
  targetLabels_nodup := List.nodup_nil

/-- The projection that names the Schema without its Catalog. -/
def shortSpec : ProjectionSpec := sampleSpec (str "investigation.case@1") (by decide)

/-- The projection that names the Schema with its Catalog. -/
def qualifiedSpec : ProjectionSpec := sampleSpec (str "structured:investigation.case@1") (by decide)

/-- The runner accepts the bindings of a projection and the writer accepts an intent for
the same source, but the runner rejects the record of the intent. -/
theorem qualified_schema_is_rejected :
    validateBindings sampleRuntime qualifiedSpec = .ok () ∧
    (∃ operation mutation result,
      validateSource sampleSnapshot operation mutation result sampleSource bareIntent = .ok ()) ∧
    sampleRuntime.parse qualifiedSpec.source qualifiedSpec.sourceCatalog = .ok sampleSource ∧
    sampleRuntime.parse bareIntent.sourceResource bareIntent.sourceCatalog = .ok sampleSource ∧
    qualifiedSpec.targetLabels ⊆ bareIntent.targetLabels ∧
    validateRecord qualifiedSpec bareIntent.toOutboxFields =
      .error (.projectionRejected "outbox source Schema does not match projection spec") := by
  have committed : Committed sampleParse sampleSnapshot sampleSource (.str (str "case-1"))
      bareIntent := committed_of_caseFields rfl rfl
  obtain ⟨operation, mutation, result, -, -, -, -, -, accepted, -⟩ := committed.accepted
  exact ⟨rfl, ⟨operation, mutation, result, accepted⟩, rfl, rfl, List.nil_subset _, rfl⟩

/-- A projection that spells the sample case like the intent accepts its record. -/
theorem validateRecord_eq_ok_iff_speltAlike_sample :
    validateRecord shortSpec bareIntent.toOutboxFields = .ok () := by
  have committed : Committed sampleParse sampleSnapshot sampleSource (.str (str "case-1"))
      bareIntent := committed_of_caseFields rfl rfl
  obtain ⟨operation, mutation, result, -, -, -, -, -, accepted, -⟩ := committed.accepted
  apply (validateRecord_eq_ok_iff_speltAlike sampleRuntime sampleSnapshot shortSpec sampleSource
    operation mutation result bareIntent rfl rfl accepted rfl rfl (List.nil_subset _)).mpr
  exact ⟨rfl, rfl, fun _ _ _ _ => Iff.rfl⟩

end DataLifecycle.Runner
