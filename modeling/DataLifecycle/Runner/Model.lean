import DataLifecycle.Outbox.Transactional

/-!
# Projection specifications and their checks

`ProjectionSpec`, the checks that a `ProjectionRunner` makes on its bindings, on a
claimed record and on the expression of the projector, and the default acknowledgement.
-/

namespace DataLifecycle.Runner

open Python Outbox

variable {F : Type}

/-- The fields of `ProjectionSpec` that the runner reads. -/
structure ProjectionSpec where
  name : Str
  sourceCatalog : Str
  source : Str
  targetCatalog : Str
  target : Str
  sourceSchema : Str
  targetSchema : Str
  targetLabels : List Str := []
  name_ne : name ≠ []
  sourceCatalog_mem : sourceCatalog ∈ catalogNames
  source_ne : source ≠ []
  targetCatalog_mem : targetCatalog ∈ catalogNames
  target_ne : target ≠ []
  sourceSchema_ne : sourceSchema ≠ []
  targetSchema_ne : targetSchema ≠ []
  targetLabels_nodup : targetLabels.Nodup

/-! ## Bindings -/

/-- What the runner reads of a started `Meridian`. -/
structure Runtime (F : Type) where
  catalog : Str → Except Exc Unit
  snapshotForHandle : Except Exc (RegistrySnapshot F)
  capabilityManifests : Dict Str CapabilityManifest
  parse : Str → Str → Except Exc ResourceRef
  capabilityViolations : CapabilityManifest → List (PyValue F) → Except Exc (List Str)

/-- `isinstance(error, (ValueError, TypeError))`. -/
def isInvalidReference (error : Exc) : Bool :=
  match error.cls with
  | .valueError | .typeError | .unicodeEncodeError => true
  | _ => false

/-- Raise `ProjectionRejected` in place of the exceptions that the clause catches. -/
def rejecting {α : Type} (caught : Exc → Bool) (template : String) (result : Except Exc α) :
    Except Exc α :=
  match result with
  | .ok value => .ok value
  | .error error => .error (if caught error then .projectionRejected template else error)

/-- The Schema of a Resource, if the specification names it. -/
def checkSpecSchema (role : String) (schema : Option SchemaRef) (name : Str) :
    Except Exc SchemaRef :=
  match schema with
  | none => .error (.projectionRejected (role ++ " Resource Schema does not match projection spec"))
  | some schema =>
      if schema.Names name then .ok schema
      else .error (.projectionRejected (role ++ " Resource Schema does not match projection spec"))

/-- The manifest of a resolved Binding. -/
def checkManifest (role : String) (manifest : Option CapabilityManifest) (binding : BindingRecord) :
    Except Exc CapabilityManifest :=
  match manifest with
  | none => .error (.projectionRejected (role ++ " Resource Binding Capability is unresolved"))
  | some manifest =>
      if manifest.adapterId ≠ binding.adapterId ∨
          manifest.fingerprint ≠ binding.capabilityFingerprint then
        .error (.projectionRejected (role ++ " Resource Binding Capability is unresolved"))
      else .ok manifest

/-- The checks of `_validate_bindings` for one role of the projection. -/
def validateBinding (runtime : Runtime F) (snapshot : RegistrySnapshot F) (role : String)
    (catalog name schemaName : Str) : Except Exc Unit := do
  let ref ← rejecting isInvalidReference ("invalid " ++ role ++ " Resource reference")
    (runtime.parse name catalog)
  refuse (ref.catalog ≠ catalog)
    (.projectionRejected (role ++ " Resource Catalog does not match projection spec"))
  let resource ← snapshot.resource ref
  let schema ← checkSpecSchema role resource.schema schemaName
  let _ ← snapshot.schema schema
  let binding ← rejecting (fun error => error.cls = .keyError)
    (role ++ " Resource has no resolved Binding") (snapshot.bindingFor ref)
  let manifest ← checkManifest role (runtime.capabilityManifests.get? binding.bindingId) binding
  let violations ← runtime.capabilityViolations manifest resource.requirements
  refuse (violations ≠ [])
    (.projectionRejected (role ++ " Resource requires unavailable capabilities"))

/-- `_validate_bindings`. -/
def validateBindings (runtime : Runtime F) (spec : ProjectionSpec) : Except Exc Unit := do
  runtime.catalog spec.sourceCatalog
  runtime.catalog spec.targetCatalog
  let snapshot ← runtime.snapshotForHandle
  validateBinding runtime snapshot "source" spec.sourceCatalog spec.source spec.sourceSchema
  validateBinding runtime snapshot "target" spec.targetCatalog spec.target spec.targetSchema

/-! ## Records and expressions -/

/-- `_validate_record`. -/
def validateRecord (spec : ProjectionSpec) (data : OutboxFields F) : Except Exc Unit := do
  refuse (data.sourceCatalog ≠ spec.sourceCatalog)
    (.projectionRejected "outbox source Catalog does not match projection spec")
  refuse (data.sourceResource ≠ spec.source)
    (.projectionRejected "outbox source Resource does not match projection spec")
  refuse (data.sourceSchema ≠ spec.sourceSchema)
    (.projectionRejected "outbox source Schema does not match projection spec")
  refuse (¬ spec.targetLabels ⊆ data.targetLabels)
    (.projectionRejected "outbox target labels do not match projection spec")

theorem validateRecord_eq_ok_iff {spec : ProjectionSpec} {data : OutboxFields F} :
    validateRecord spec data = .ok () ↔ data.sourceCatalog = spec.sourceCatalog ∧
      data.sourceResource = spec.source ∧ data.sourceSchema = spec.sourceSchema ∧
      spec.targetLabels ⊆ data.targetLabels := by
  rw [validateRecord, check_bind_eq_ok_iff, check_bind_eq_ok_iff, check_bind_eq_ok_iff]
  simp

/-- Whether the `resource` argument of an expression names the target. -/
def namesTarget (spec : ProjectionSpec) : Option (PyValue F) → Bool
  | some (.str resource) => resource = spec.target
  | some (.mapping resource) =>
      match getMember (str "namespace") resource, getMember (str "name") resource with
      | some (.str space), some (.str name) =>
          match getMember (str "catalog") resource with
          | none => space ++ str "." ++ name = spec.target
          | some (.str catalog) =>
              catalog = spec.targetCatalog && space ++ str "." ++ name = spec.target
          | some _ => false
      | _, _ => false
  | _ => false

/-- `_validate_expression`. -/
def validateExpression (spec : ProjectionSpec) (expression : Expression F) : Except Exc Unit := do
  refuse (expression.catalog ≠ spec.targetCatalog)
    (.projectionRejected "projector returned an Expression for the wrong Catalog")
  refuse (namesTarget spec (getMember (str "resource") expression.arguments) = false)
    (.projectionRejected "projector returned an Expression for the wrong Resource")

theorem validateExpression_eq_ok_iff {spec : ProjectionSpec} {expression : Expression F} :
    validateExpression spec expression = .ok () ↔ expression.catalog = spec.targetCatalog ∧
      namesTarget spec (getMember (str "resource") expression.arguments) = true := by
  rw [validateExpression, check_bind_eq_ok_iff]
  simp

/-! ## Acknowledgement -/

/-- A candidate for the acknowledged version: a string, or an integer that is no boolean. -/
def candidate : Option (PyValue F) → Option Version
  | some (.str text) => some (.text text)
  | some (.int value) => some (.number value)
  | _ => none

/-- The first candidate among the members that may acknowledge a version. -/
def acknowledgedVersion : PyValue F → Option Version
  | .mapping data =>
      [str "acknowledgedSourceVersion", str "acknowledged_source_version",
        str "sourceVersion"].findSome? fun key => candidate (getMember key data)
  | _ => none

/-- The version that a result acknowledges for a source. -/
def acknowledgedFor (source : OutboxFields F) (data : PyValue F) : Except Exc (Option Version) :=
  match source.sourceVersion, acknowledgedVersion data with
  | none, _ => .ok none
  | some _, some version => .ok (some version)
  | some _, none =>
      .error (.projectionRejected "target result did not acknowledge the source version")

variable [FloatText F]

/-- `result.operation_fingerprint or sha256_digest(result.data)`. -/
def resultFingerprint (result : OperationResult F) : Except Exc Str :=
  match result.operationFingerprint with
  | some (point :: rest) => .ok (point :: rest)
  | _ => digestOf result.data

/-- `_default_acknowledgement`. -/
def defaultAcknowledgement (result : OperationResult F) (source : OutboxFields F) :
    Except Exc (Option Version × Str) := do
  let acknowledged ← acknowledgedFor source result.data
  let fingerprint ← resultFingerprint result
  return (acknowledged, fingerprint)

/-- What the default acknowledgement returns is the candidate, except for a source
without a version. -/
theorem version_of_defaultAcknowledgement {result : OperationResult F} {source : OutboxFields F}
    {version : Option Version} {fingerprint : Str}
    (accepted : defaultAcknowledgement result source = .ok (version, fingerprint)) :
    (source.sourceVersion = none ∧ version = none) ∨
      (source.sourceVersion ≠ none ∧ version = acknowledgedVersion result.data) := by
  obtain ⟨acknowledged, chosen, accepted⟩ := bind_eq_ok_iff.mp accepted
  obtain ⟨computed, -, returned⟩ := bind_eq_ok_iff.mp accepted
  cases returned
  unfold acknowledgedFor at chosen
  cases sourceVersion : source.sourceVersion with
  | none =>
      rw [sourceVersion] at chosen
      cases chosen
      exact .inl ⟨rfl, rfl⟩
  | some expected =>
      right
      rw [sourceVersion] at chosen
      cases found : acknowledgedVersion result.data with
      | none =>
          rw [found] at chosen
          cases chosen
      | some version =>
          rw [found] at chosen
          cases chosen
          exact ⟨Option.some_ne_none _, rfl⟩

end DataLifecycle.Runner
