import DataLifecycle.Evidence

/-!
# Migration bundles, plans and checkpoints

The frozen dataclasses of schema migration.  As for the outbox, the structures
carry the checks of their `__post_init__`.
-/

namespace DataLifecycle.Migration

open Python

variable {F : Type} [FloatText F]

/-- The format tag of migration bundles. -/
def migrationFormatVersion : Str := str "meridian.migration-bundle.v1"

/-- `MigrationStepKind`. -/
inductive MigrationStepKind
  | addField
  | backfill
  | addOrReplaceIndex
  | tightenConstraint
  | transformRecord
  | activateSchemaVersion
  | retirePhysicalGeneration
  deriving DecidableEq

/-- The text of a step kind. -/
def MigrationStepKind.value : MigrationStepKind → Str
  | .addField => str "add-field"
  | .backfill => str "backfill"
  | .addOrReplaceIndex => str "add-or-replace-index"
  | .tightenConstraint => str "tighten-constraint"
  | .transformRecord => str "transform-record"
  | .activateSchemaVersion => str "activate-schema-version"
  | .retirePhysicalGeneration => str "retire-physical-generation"

/-- `LockClass`. -/
inductive LockClass
  | none
  | shared
  | exclusive
  deriving DecidableEq

/-- The text of a lock class. -/
def LockClass.value : LockClass → Str
  | .none => str "none"
  | .shared => str "shared"
  | .exclusive => str "exclusive"

/-- `Reversibility`. -/
inductive Reversibility
  | reversible
  | reactivateRetainedGeneration
  | restoreRequired
  deriving DecidableEq

/-- The text of a reversibility class. -/
def Reversibility.value : Reversibility → Str
  | .reversible => str "reversible"
  | .reactivateRetainedGeneration => str "reactivate-retained-generation"
  | .restoreRequired => str "restore-required"

/-- `MigrationState`. -/
inductive MigrationState
  | planned
  | applying
  | validating
  | activating
  | completed
  | failed
  deriving DecidableEq

/-- The text of a migration state. -/
def MigrationState.value : MigrationState → Str
  | .planned => str "PLANNED"
  | .applying => str "APPLYING"
  | .validating => str "VALIDATING"
  | .activating => str "ACTIVATING"
  | .completed => str "COMPLETED"
  | .failed => str "FAILED"

/-- `MigrationCondition`, with its serialized operation. -/
structure MigrationCondition (F : Type) where
  name : Str
  operation : List (Str × Json F)
  expectation : List (Str × Json F)
  name_ne : name ≠ []

/-- `MigrationCondition.to_mapping`. -/
def MigrationCondition.toMapping (condition : MigrationCondition F) : Json F :=
  .object [
    (str "name", .str condition.name),
    (str "operation", .object condition.operation),
    (str "expectation", .object condition.expectation)]

/-- `MigrationStep`. -/
structure MigrationStep (F : Type) where
  stepId : Str
  kind : MigrationStepKind
  parameters : List (Str × Json F) := []
  compilerRequirements : List Str := []
  reversibility : Reversibility := .reversible
  stepId_ne : stepId ≠ []
  compilerRequirements_nodup : [] ∉ compilerRequirements ∧ compilerRequirements.Nodup

/-- `MigrationStep.to_mapping`. -/
def MigrationStep.toMapping (step : MigrationStep F) : Json F :=
  .object [
    (str "stepId", .str step.stepId),
    (str "kind", .str step.kind.value),
    (str "parameters", .object step.parameters),
    (str "compilerRequirements", .array (step.compilerRequirements.map .str)),
    (str "reversibility", .str step.reversibility.value)]

/-- The content of a migration bundle. -/
structure BundleFields (F : Type) where
  sourceSchemaFingerprint : Str
  targetSchemaFingerprint : Str
  steps : List (MigrationStep F)
  preconditions : List (MigrationCondition F) := []
  validations : List (MigrationCondition F) := []
  postconditions : List (MigrationCondition F) := []
  compilerRequirements : List Str := []
  estimatedLockClass : LockClass := .exclusive
  reversibility : Reversibility := .restoreRequired
  bundleId : Str

namespace BundleFields

/-- The step ids in bundle order. -/
def stepIds (fields : BundleFields F) : List Str := fields.steps.map (·.stepId)

/-- The checks on the content of a bundle. -/
structure Valid (fields : BundleFields F) : Prop where
  sourceSchemaFingerprint : isSha256 fields.sourceSchemaFingerprint = true
  targetSchemaFingerprint : isSha256 fields.targetSchemaFingerprint = true
  bundleId : fields.bundleId ≠ []
  steps : fields.steps ≠ []
  stepIds : fields.stepIds.Nodup
  conditionNames : ((fields.preconditions ++ fields.validations ++ fields.postconditions).map
    (·.name)).Nodup
  compilerRequirements : [] ∉ fields.compilerRequirements ∧ fields.compilerRequirements.Nodup

/-- `_digest_material`. -/
def digestMaterial (fields : BundleFields F) : Json F :=
  .object [
    (str "formatVersion", .str migrationFormatVersion),
    (str "bundleId", .str fields.bundleId),
    (str "sourceSchemaFingerprint", .str fields.sourceSchemaFingerprint),
    (str "targetSchemaFingerprint", .str fields.targetSchemaFingerprint),
    (str "steps", .array (fields.steps.map (·.toMapping))),
    (str "preconditions", .array (fields.preconditions.map (·.toMapping))),
    (str "validations", .array (fields.validations.map (·.toMapping))),
    (str "postconditions", .array (fields.postconditions.map (·.toMapping))),
    (str "compilerRequirements", .array (fields.compilerRequirements.map .str)),
    (str "estimatedLockClass", .str fields.estimatedLockClass.value),
    (str "reversibility", .str fields.reversibility.value)]

end BundleFields

/-- `MigrationBundleV1`. -/
structure MigrationBundleV1 (F : Type) [FloatText F] extends BundleFields F where
  digest : Str
  valid : toBundleFields.Valid
  digest_eq : sha256Digest toBundleFields.digestMaterial = .ok digest

/-- The bundle with given content; its digest is computed. -/
def MigrationBundleV1.ofFields (fields : BundleFields F) (valid : fields.Valid)
    (encodable : Encodable fields.digestMaterial) : MigrationBundleV1 F where
  toBundleFields := fields
  digest := prefixedDigest (fields.digestMaterial.sortKeys.print.flatMap encodePoint)
  valid := valid
  digest_eq := sha256Digest_of_encodable encodable

/-- `BindingStateEvidence`. -/
structure BindingStateEvidence where
  logicalFingerprint : Str
  physicalFingerprint : Str
  activeGeneration : Str
  revision : Str ⊕ Int
  logicalFingerprint_sha256 : isSha256 logicalFingerprint = true
  physicalFingerprint_sha256 : isSha256 physicalFingerprint = true
  activeGeneration_ne : activeGeneration ≠ []

/-- `MigrationLock`. -/
structure MigrationLock where
  token : Str
  owner : Str
  bundleDigest : Str
  expiresAt : Utc
  nonempty : token ≠ [] ∧ owner ≠ []
  bundleDigest_sha256 : isSha256 bundleDigest = true

/-- `CompiledMigrationStep` without its opaque artifact. -/
structure CompiledMigrationStep where
  stepId : Str
  compilerId : Str
  artifactDigest : Str
  nonempty : stepId ≠ [] ∧ compilerId ≠ []
  artifactDigest_sha256 : isSha256 artifactDigest = true

/-- `evidence_mapping`. -/
def CompiledMigrationStep.evidenceMapping (step : CompiledMigrationStep) : Json F :=
  .object [
    (str "stepId", .str step.stepId),
    (str "compilerId", .str step.compilerId),
    (str "artifactDigest", .str step.artifactDigest)]

/-- The mapping covered by the digest of a plan. -/
def planMaterial (bundleDigest : Str) (steps : List CompiledMigrationStep) : Json Empty :=
  .object [
    (str "bundleDigest", .str bundleDigest),
    (str "steps", .array (steps.map (·.evidenceMapping)))]

/-- `CompiledMigrationPlan`. -/
structure CompiledMigrationPlan where
  bundleDigest : Str
  steps : List CompiledMigrationStep
  planDigest : Str
  bundleDigest_sha256 : isSha256 bundleDigest = true
  planDigest_eq : sha256Digest (planMaterial bundleDigest steps) = .ok planDigest

/-- `AppliedMigrationStep`. -/
structure AppliedMigrationStep where
  stepId : Str
  resultFingerprint : Str
  checkpointToken : Str
  nonempty : stepId ≠ [] ∧ checkpointToken ≠ []
  resultFingerprint_sha256 : isSha256 resultFingerprint = true

/-- `ValidationOutcome`. -/
structure ValidationOutcome where
  name : Str
  passed : Bool
  resultDigest : Str
  summary : Str := []
  name_ne : name ≠ []
  resultDigest_sha256 : isSha256 resultDigest = true

/-- `MigrationCheckpoint`. -/
structure MigrationCheckpoint where
  executionId : Str
  bundleDigest : Str
  state : MigrationState
  sequence : Nat
  stepId : Option Str := none
  resultFingerprint : Option Str := none
  checkpointToken : Option Str := none
  failureCode : Option Str := none
  recordedAt : Utc
  deriving DecidableEq

/-- The constructor of `MigrationCheckpoint`, with its checks in order. -/
def MigrationCheckpoint.make (executionId bundleDigest : Str) (state : MigrationState)
    (sequence : Nat) (step : Option AppliedMigrationStep) (failureCode : Option Str)
    (recordedAt : DateTime) : Except Exc MigrationCheckpoint :=
  if executionId = [] ∨ bundleDigest = [] then
    .error (.valueError "invalid migration checkpoint identity or sequence")
  else do
    let _ ← requireSha256 "bundle_digest" bundleDigest
    let recorded ← ensureUtc "recorded_at" recordedAt
    return {
      executionId := executionId
      bundleDigest := bundleDigest
      state := state
      sequence := sequence
      stepId := step.map (·.stepId)
      resultFingerprint := step.map (·.resultFingerprint)
      checkpointToken := step.map (·.checkpointToken)
      failureCode := failureCode
      recordedAt := recorded }

/-- With an execution id and a digest, only the clock reading can be at fault. -/
theorem MigrationCheckpoint.isOk_make {executionId bundleDigest : Str} {state : MigrationState}
    {sequence : Nat} {step : Option AppliedMigrationStep} {failureCode : Option Str}
    {recordedAt : DateTime} (executionIdNe : executionId ≠ [])
    (digestValid : isSha256 bundleDigest = true) :
    (make executionId bundleDigest state sequence step failureCode recordedAt).isOk =
      (ensureUtc "recorded_at" recordedAt).isOk := by
  have identified : ¬ (executionId = [] ∨ bundleDigest = []) := by
    rintro (empty | empty)
    · exact executionIdNe empty
    · exact ne_nil_of_isSha256 digestValid empty
  rw [make, if_neg identified, requireSha256, if_pos digestValid]
  cases ensureUtc "recorded_at" recordedAt <;> rfl

/-- A checkpoint that was made has the values it was made from. -/
theorem MigrationCheckpoint.make_eq_ok {executionId bundleDigest : Str} {state : MigrationState}
    {sequence : Nat} {step : Option AppliedMigrationStep} {failureCode : Option Str}
    {recordedAt : DateTime} {checkpoint : MigrationCheckpoint}
    (made : make executionId bundleDigest state sequence step failureCode recordedAt =
      .ok checkpoint) :
    checkpoint.executionId = executionId ∧ checkpoint.bundleDigest = bundleDigest ∧
      checkpoint.state = state ∧ checkpoint.sequence = sequence ∧
      checkpoint.stepId = step.map (·.stepId) := by
  unfold make at made
  split at made
  · cases made
  · cases digestEq : requireSha256 "bundle_digest" bundleDigest with
    | error error =>
        rw [digestEq] at made
        cases made
    | ok digest =>
        rw [digestEq] at made
        cases timeEq : ensureUtc "recorded_at" recordedAt with
        | error error =>
            simp only [timeEq, bind, Except.bind] at made
            cases made
        | ok recorded =>
            simp only [timeEq, bind, Except.bind, pure, Except.pure] at made
            cases made
            exact ⟨rfl, rfl, rfl, rfl, rfl⟩

/-- `ActivationResult`. -/
structure ActivationResult where
  activeGeneration : Str
  previousGeneration : Str
  targetFingerprint : Str
  sourceBoundary : Str
  nonempty : activeGeneration ≠ [] ∧ previousGeneration ≠ [] ∧ sourceBoundary ≠ []
  targetFingerprint_sha256 : isSha256 targetFingerprint = true

/-- `CutoverEvidence`. -/
structure CutoverEvidence where
  executionId : Str
  bundleDigest : Str
  sourceFingerprint : Str
  targetFingerprint : Str
  sourceBoundary : Str
  previousGeneration : Str
  activeGeneration : Str
  validationReportDigest : Str
  activatedAt : Utc
  digest : Str

/-- `CutoverEvidence._digest_material`; the digest of the value is not read. -/
def CutoverEvidence.digestMaterial (evidence : CutoverEvidence) : List (Str × Json F) :=
  [(str "executionId", .str evidence.executionId),
    (str "bundleDigest", .str evidence.bundleDigest),
    (str "sourceFingerprint", .str evidence.sourceFingerprint),
    (str "targetFingerprint", .str evidence.targetFingerprint),
    (str "sourceBoundary", .str evidence.sourceBoundary),
    (str "previousGeneration", .str evidence.previousGeneration),
    (str "activeGeneration", .str evidence.activeGeneration),
    (str "validationReportDigest", .str evidence.validationReportDigest),
    (str "activatedAt", .str (rfc3339 evidence.activatedAt))]

/-- `CutoverEvidence.to_mapping`. -/
def CutoverEvidence.toMapping (evidence : CutoverEvidence) : List (Str × Json F) :=
  evidence.digestMaterial ++ [(str "digest", .str evidence.digest)]

/-- The constructor of `CutoverEvidence` for an activated bundle. -/
def CutoverEvidence.make (executionId : Str) (bundle : MigrationBundleV1 F)
    (activation : ActivationResult) (validationReportDigest : Str) (activatedAt : DateTime) :
    Except Exc CutoverEvidence := do
  if executionId = [] then .error (.valueError "%s must be non-empty" [str "execution_id"])
  let _ ← requireSha256 "bundle_digest" bundle.digest
  let _ ← requireSha256 "validation_report_digest" validationReportDigest
  let activated ← ensureUtc "activated_at" activatedAt
  let evidence : CutoverEvidence := {
    executionId := executionId
    bundleDigest := bundle.digest
    sourceFingerprint := bundle.sourceSchemaFingerprint
    targetFingerprint := bundle.targetSchemaFingerprint
    sourceBoundary := activation.sourceBoundary
    previousGeneration := activation.previousGeneration
    activeGeneration := activation.activeGeneration
    validationReportDigest := validationReportDigest
    activatedAt := activated
    digest := [] }
  let digest ← sha256Digest (.object (evidence.digestMaterial (F := Empty)))
  return { evidence with digest := digest }

/-- The mapping hashed into the validation report digest. -/
def validationMaterial (outcomes : List ValidationOutcome) : Json Empty :=
  .array (outcomes.map fun outcome => .object [
    (str "name", .str outcome.name),
    (str "passed", .bool outcome.passed),
    (str "resultDigest", .str outcome.resultDigest)])

/-- `MigrationReport` of a completed execution. -/
structure MigrationReport where
  executionId : Str
  state : MigrationState
  bundleDigest : Str
  checkpoints : List MigrationCheckpoint
  validations : List ValidationOutcome
  cutover : Option CutoverEvidence

end DataLifecycle.Migration
