import DataLifecycle.Canonical

/-!
# The registry and the operations of Core

The values of the Core package that the validators read: references, the pinned
registry snapshot, bindings, expressions and operation results.  What Core computes
(`ResourceRef.parse`, the lookups of a snapshot, the capability check) stays a
parameter.
-/

namespace DataLifecycle

open Python

variable {F : Type}

/-- `ResourceRef`. -/
structure ResourceRef where
  catalog : Str
  space : Str
  name : Str
  deriving DecidableEq

/-- `SchemaRef`. -/
structure SchemaRef where
  catalog : Str
  space : Str
  name : Str
  version : Str
  deriving DecidableEq

namespace SchemaRef

/-- `logical_name`, in the documented form of Core. -/
def logicalName (schema : SchemaRef) : Str := schema.space ++ str "." ++ schema.name

/-- The short spelling of a Schema: its logical name with the version. -/
def shortText (schema : SchemaRef) : Str := schema.logicalName ++ str "@" ++ schema.version

/-- `str(schema)`, in the documented form of Core: the spelling with the Catalog. -/
def text (schema : SchemaRef) : Str := schema.catalog ++ str ":" ++ schema.shortText

/-- The two spellings differ. -/
theorem text_ne_shortText (schema : SchemaRef) : schema.text ≠ schema.shortText := by
  intro equal
  have lengths := congrArg List.length equal
  have colon : (str ":").length = 1 := rfl
  rw [text, List.length_append, List.length_append, colon] at lengths
  omega

/-- `name in (str(schema), f"{schema.logical_name}@{schema.version}")`. -/
def Names (schema : SchemaRef) (name : Str) : Prop :=
  name = schema.text ∨ name = schema.shortText

instance (schema : SchemaRef) (name : Str) : Decidable (schema.Names name) :=
  inferInstanceAs (Decidable (_ ∨ _))

/-- Two names of a Schema are equal if both or neither have the Catalog. -/
theorem Names.eq_iff {schema : SchemaRef} {first second : Str} (firstNames : schema.Names first)
    (secondNames : schema.Names second) :
    first = second ↔ (first = schema.text ↔ second = schema.text) := by
  have different := schema.text_ne_shortText
  rcases firstNames with rfl | rfl
  · rcases secondNames with rfl | rfl
    · simp
    · simp [different, different.symm]
  · rcases secondNames with rfl | rfl
    · simp [different.symm]
    · simp

end SchemaRef

/-- A Resource of the registry. -/
structure ResourceDefinition (F : Type) where
  schema : Option SchemaRef
  requirements : List (PyValue F) := []

/-- `BindingRecord`. -/
structure BindingRecord where
  bindingId : Str
  adapterId : Str
  capabilityFingerprint : Str

/-- `CapabilityManifest`. -/
structure CapabilityManifest where
  adapterId : Str
  fingerprint : Str

/-- `RegistrySnapshot`: its lookups return a definition or raise. -/
structure RegistrySnapshot (F : Type) where
  fingerprint : Str
  resource : ResourceRef → Except Exc (ResourceDefinition F)
  schema : SchemaRef → Except Exc (List (PyValue F × PyValue F))
  bindingFor : ResourceRef → Except Exc BindingRecord

/-- `Expression`. -/
structure Expression (F : Type) where
  catalog : Str
  method : Str
  arguments : List (PyValue F × PyValue F)

/-- A normalized `Operation`. -/
structure Operation (F : Type) where
  catalog : Str
  resources : List ResourceRef
  readOnly : Bool
  operationContract : Str
  operationVersion : Str
  requestFingerprint : Str
  input : List (PyValue F × PyValue F)

/-- `OperationResult`. -/
structure OperationResult (F : Type) where
  catalog : Str
  resources : List ResourceRef
  operationContract : Str
  operationVersion : Str
  operationFingerprint : Option Str
  registryFingerprint : Str
  data : PyValue F

end DataLifecycle
