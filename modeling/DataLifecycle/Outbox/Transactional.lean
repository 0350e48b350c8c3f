import DataLifecycle.Outbox.Model
import DataLifecycle.Registry

/-!
# The transactional outbox writer

`TransactionalOutboxWriter._validate_source` compares the executed mutation, its result
and the pinned registry snapshot with the intent that is committed beside it.
-/

namespace DataLifecycle.Outbox

open Python

variable {F : Type}

/-- `DataLifecycleValidationError`. -/
def invalid (template : String) : Exc :=
  .meridian .dataLifecycleValidationError "MERIDIAN_LIFECYCLE_INVALID" template

/-- The Python value of an optional source version. -/
def versionPy : Option Version → PyValue F
  | none => .none
  | some (.text value) => .str value
  | some (.number value) => .int value
  | some (.flag value) => .bool value

/-- `_record`: a mapping, or the only element of a sequence. -/
def recordOf : PyValue F → Except Exc (List (PyValue F × PyValue F))
  | .mapping items => .ok items
  | .sequence [.mapping items] => .ok items
  | .tuple [.mapping items] => .ok items
  | _ => .error (invalid "source result must identify exactly one Data value")

/-- The identity fields of a Schema definition: a list of strings. -/
def fieldNames : List (PyValue F) → Except Exc (List Str)
  | [] => .ok []
  | .str name :: rest => do
      let names ← fieldNames rest
      return name :: names
  | _ :: _ => .error (invalid "source Schema identity is invalid")

/-- `schema.definition.get("identity", ())`, checked. -/
def identityFields (definition : List (PyValue F × PyValue F)) : Except Exc (List Str) :=
  match getMember (str "identity") definition with
  | none => .ok []
  | some (.sequence items) => fieldNames items
  | some (.tuple items) => fieldNames items
  | some _ => .error (invalid "source Schema identity is invalid")

/-- `record.get(name)`. -/
def member (record : List (PyValue F × PyValue F)) (name : Str) : PyValue F :=
  (getMember name record).getD .none

/-- `values[0] if len(values) == 1 else values or None`. -/
def identityValue : List (PyValue F) → PyValue F
  | [] => .none
  | [value] => value
  | values => .tuple values

/-- The identity that a result record carries. -/
def identityOf (fields : List Str) (record : List (PyValue F × PyValue F)) : PyValue F :=
  identityValue (fields.map (member record))

/-- `value is None`. -/
def isNone : PyValue F → Bool
  | .none => true
  | _ => false

/-- `isinstance(version, bool) or not isinstance(version, (str, int, type(None)))`. -/
def isInvalidVersion : PyValue F → Bool
  | .str _ | .int _ | .none => false
  | _ => true

variable [FloatText F]

/-- `_same`: equal canonical digests. -/
def same (left right : PyValue F) : Except Exc Bool := do
  let leftDigest ← digestOf left
  let rightDigest ← digestOf right
  return leftDigest = rightDigest

/-- Raise unless two values are the same. -/
def requireSame (left right : PyValue F) (template : String) : Except Exc Unit := do
  let equal ← same left right
  refuse (equal = false) (invalid template)

/-- The identity in the Data of the mutation agrees with the result. -/
def checkSupplied (data record : List (PyValue F × PyValue F)) : List Str → Except Exc Unit
  | [] => .ok ()
  | name :: rest => do
      match getMember name data with
      | none => .ok ()
      | some value => requireSame value (member record name) "source identity differs from mutation Data"
      checkSupplied data record rest

/-- The payload of the intent agrees with the result. -/
def checkPayload (record : List (PyValue F × PyValue F)) : List (Str × Json F) → Except Exc Unit
  | [] => .ok ()
  | (name, value) :: rest => do
      match getMember name record with
      | none => .error (invalid "source payload does not match result Data")
      | some found => requireSame value.toPy found "source payload does not match result Data"
      checkPayload record rest

omit [FloatText F] in
/-- The Schema of the source Resource, if the intent names it. -/
def checkSchema (schema : Option SchemaRef) (name : Str) : Except Exc SchemaRef :=
  match schema with
  | none => .error (invalid "source Schema does not match outbox intent")
  | some schema =>
      if schema.Names name then .ok schema
      else .error (invalid "source Schema does not match outbox intent")

omit [FloatText F] in
/-- `operation.input.get("data")`, if it is a mapping. -/
def suppliedData (operation : Operation F) : List (PyValue F × PyValue F) :=
  match getMember (str "data") operation.input with
  | some (.mapping items) => items
  | _ => []

/-- The checks that compare the result record with the intent. -/
def validateRecordData (operation : Operation F) (intent : OutboxDataV1 F) (fields : List Str)
    (record : List (PyValue F × PyValue F)) : Except Exc Unit := do
  refuse ((fields.map (member record)).any isNone = true)
    (invalid "source identity does not match outbox intent")
  requireSame (identityOf fields record) intent.sourceIdentity.toPy
    "source identity does not match outbox intent"
  refuse (isInvalidVersion (member record (str "recordVersion")) = true)
    (invalid "source version is invalid")
  requireSame (member record (str "recordVersion")) (versionPy intent.sourceVersion)
    "source version does not match outbox intent"
  checkSupplied (suppliedData operation) record fields
  checkPayload record (intent.payload.getD [])

/-- `_validate_source`, in the snapshot that the transaction pins. -/
def validateSource (snapshot : RegistrySnapshot F) (operation : Operation F)
    (mutation : Expression F) (result : OperationResult F) (source : ResourceRef)
    (intent : OutboxDataV1 F) : Except Exc Unit := do
  refuse (operation.catalog ≠ intent.sourceCatalog ∨ result.catalog ≠ operation.catalog)
    (invalid "source Catalog does not match outbox intent")
  refuse (operation.resources ≠ [source] ∨ result.resources ≠ operation.resources)
    (invalid "source Resource does not match outbox intent")
  refuse (operation.readOnly = true ∨ mutation.method ≠ intent.mutationKind)
    (invalid "source mutation kind does not match outbox intent")
  refuse (result.operationContract ≠ operation.operationContract ∨
      result.operationVersion ≠ operation.operationVersion ∨
      result.operationFingerprint ≠ some operation.requestFingerprint ∨
      result.registryFingerprint ≠ snapshot.fingerprint)
    (invalid "source result does not match normalized mutation")
  let resource ← snapshot.resource source
  let schema ← checkSchema resource.schema intent.sourceSchema
  let definition ← snapshot.schema schema
  let fields ← identityFields definition
  let record ← recordOf result.data
  validateRecordData operation intent fields record

end DataLifecycle.Outbox
