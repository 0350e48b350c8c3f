import DataLifecycle.Evidence
import DataLifecycle.Interaction.Program

/-!
# The rebuild coordinator

`RebuildCoordinator.rebuild` as a script over its hooks, with the dataclasses that
they exchange.  The local variable is `activation_attempted`.
-/

namespace DataLifecycle.Rebuild

open Python Interaction

variable {F : Type} [FloatText F]

/-! ## Models -/

/-- `RebuildPlan`; the interval is in microseconds. -/
structure RebuildPlan where
  projection : Str
  sourceResource : Str
  targetResource : Str
  batchSize : Nat := 500
  rollbackInterval : Int := 24 * 3600 * 1000000
  nonempty : projection ≠ [] ∧ sourceResource ≠ [] ∧ targetResource ≠ []
  batchSize_valid : 1 ≤ batchSize ∧ batchSize ≤ 10000
  rollbackInterval_pos : 0 < rollbackInterval

/-- `RebuildBoundary`. -/
structure RebuildBoundary where
  boundaryId : Str
  sourceFingerprint : Str
  boundaryId_ne : boundaryId ≠ []
  sourceFingerprint_valid : isSha256 sourceFingerprint = true

/-- `RebuildGeneration`. -/
structure RebuildGeneration where
  generationRef : Str
  previousGenerationRef : Str
  nonempty : generationRef ≠ [] ∧ previousGenerationRef ≠ []
  differs : generationRef ≠ previousGenerationRef

/-- `RebuildTailResult`. -/
structure RebuildTailResult where
  appliedEvents : Nat
  finalBoundary : Str
  finalBoundary_ne : finalBoundary ≠ []

/-- `RebuildValidation`. -/
structure RebuildValidation where
  passed : Bool
  sourceCount : Nat
  targetCount : Nat
  sampledDigest : Str
  reportDigest : Str
  digests_valid : isSha256 sampledDigest = true ∧ isSha256 reportDigest = true

/-- `RebuildActivation`. -/
structure RebuildActivation where
  previousGenerationRef : Str
  activeGenerationRef : Str
  targetFingerprint : Str
  nonempty : previousGenerationRef ≠ [] ∧ activeGenerationRef ≠ []
  targetFingerprint_valid : isSha256 targetFingerprint = true

/-- `RebuildEvidence`. -/
structure RebuildEvidence where
  projection : Str
  sourceBoundary : Str
  sourceFingerprint : Str
  targetFingerprint : Str
  previousGeneration : Str
  activeGeneration : Str
  validationReportDigest : Str
  appliedTailEvents : Nat
  rollbackUntil : Utc
  activatedAt : Utc
  digest : Str := []

namespace RebuildEvidence

/-- `_digest_material`. -/
def digestMaterial (evidence : RebuildEvidence) : List (Str × Json F) := [
  (str "projection", .str evidence.projection),
  (str "sourceBoundary", .str evidence.sourceBoundary),
  (str "sourceFingerprint", .str evidence.sourceFingerprint),
  (str "targetFingerprint", .str evidence.targetFingerprint),
  (str "previousGeneration", .str evidence.previousGeneration),
  (str "activeGeneration", .str evidence.activeGeneration),
  (str "validationReportDigest", .str evidence.validationReportDigest),
  (str "appliedTailEvents", .int evidence.appliedTailEvents),
  (str "rollbackUntil", .str (rfc3339 evidence.rollbackUntil)),
  (str "activatedAt", .str (rfc3339 evidence.activatedAt))]

/-- `to_mapping`. -/
def toMapping (evidence : RebuildEvidence) : List (Str × Json F) :=
  evidence.digestMaterial ++ [(str "digest", .str evidence.digest)]

/-- The checks of the constructor in order, and the digest. -/
def make (evidence : RebuildEvidence) : Except Exc RebuildEvidence := do
  requireText "projection" evidence.projection
  requireText "source_boundary" evidence.sourceBoundary
  requireText "previous_generation" evidence.previousGeneration
  requireText "active_generation" evidence.activeGeneration
  let _ ← requireSha256 "source_fingerprint" evidence.sourceFingerprint
  let _ ← requireSha256 "target_fingerprint" evidence.targetFingerprint
  let _ ← requireSha256 "validation_report_digest" evidence.validationReportDigest
  let digest ← sha256Digest (.object evidence.digestMaterial : Json Empty)
  return { evidence with digest := digest }

end RebuildEvidence

/-! ## Hooks -/

/-- The calls that a rebuild makes.  A scanned record is a Python mapping that the
coordinator hands on as it is. -/
inductive RebuildHook (F : Type)
  | cancelled
  | clock
  | captureBoundary (plan : RebuildPlan)
  | createGeneration (plan : RebuildPlan) (boundary : RebuildBoundary)
  | scan (plan : RebuildPlan) (boundary : RebuildBoundary)
  | write (plan : RebuildPlan) (generation : RebuildGeneration) (records : List (PyValue F))
  | tail (plan : RebuildPlan) (generation : RebuildGeneration) (boundary : RebuildBoundary)
  | validate (plan : RebuildPlan) (generation : RebuildGeneration) (boundary : RebuildBoundary)
  | activate (plan : RebuildPlan) (generation : RebuildGeneration) (expectedPrevious : Str)
  | retain (generationRef : Str) (deadline : Utc)
  | discard (generationRef : Str)
  | record (evidence : LifecycleEvidence F)

/-- The value that a call returns. -/
abbrev RebuildHook.Answer : RebuildHook F → Type
  | .cancelled => Bool
  | .clock => DateTime
  | .captureBoundary _ => RebuildBoundary
  | .createGeneration _ _ => RebuildGeneration
  | .scan _ _ => Stream (List (PyValue F))
  | .write _ _ _ => Unit
  | .tail _ _ _ => RebuildTailResult
  | .validate _ _ _ => RebuildValidation
  | .activate _ _ _ => RebuildActivation
  | .retain _ _ => Unit
  | .discard _ => Unit
  | .record _ => Unit

/-- A call returns a value or raises. -/
abbrev RebuildHook.Response (hook : RebuildHook F) : Type := Except Exc hook.Answer

/-- A part of a rebuild. -/
abbrev Rebuilding (F : Type) [FloatText F] (α : Type) :=
  Script (RebuildHook F) RebuildHook.Response Exc Bool α

namespace Rebuilding

/-- Make one call. -/
def request (hook : RebuildHook F) : Rebuilding F hook.Answer := Script.invoke hook id

/-- `token.raise_if_cancelled()`. -/
def raiseIfCancelled : Rebuilding F Unit := do
  let isCancelled ← request .cancelled
  Script.refuse (isCancelled = true) .operationCancelled

/-- The loop over the scanned batches. -/
def writeBatches (plan : RebuildPlan) (generation : RebuildGeneration) :
    List (List (PyValue F)) → Rebuilding F Unit
  | [] => pure ()
  | batch :: rest => do
      raiseIfCancelled
      Script.refuse (plan.batchSize < batch.length)
        (.migrationFailed "rebuild scan exceeded the configured batch size")
      request (.write plan generation batch)
      writeBatches plan generation rest

/-- Raise the exception that ends an iterable. -/
def raiseFailure : Option Exc → Rebuilding F Unit
  | none => pure ()
  | some error => Script.raise error

/-- `activated_at + plan.rollback_interval`. -/
def rollbackUntil (plan : RebuildPlan) (activatedAt : Utc) : Except Exc Utc :=
  match activatedAt.add plan.rollbackInterval with
  | some deadline => .ok deadline
  | none => .error .overflowError

/-- What follows the activation call. -/
def cutOver (plan : RebuildPlan) (boundary : RebuildBoundary) (generation : RebuildGeneration)
    (tail : RebuildTailResult) (validation : RebuildValidation) (activation : RebuildActivation) :
    Rebuilding F RebuildEvidence := do
  Script.refuse (activation.previousGenerationRef ≠ generation.previousGenerationRef)
    (.migrationConflict "rebuild activation replaced an unexpected generation")
  Script.refuse (activation.activeGenerationRef ≠ generation.generationRef)
    (.migrationConflict "rebuild activation acknowledged the wrong generation")
  let now ← request .clock
  let activatedAt ← Script.lift (ensureUtc "activated_at" now)
  let rollback ← Script.lift (rollbackUntil plan activatedAt)
  request (.retain activation.previousGenerationRef rollback)
  let cutover ← Script.lift (RebuildEvidence.make {
    projection := plan.projection
    sourceBoundary := tail.finalBoundary
    sourceFingerprint := boundary.sourceFingerprint
    targetFingerprint := activation.targetFingerprint
    previousGeneration := activation.previousGenerationRef
    activeGeneration := activation.activeGenerationRef
    validationReportDigest := validation.reportDigest
    appliedTailEvents := tail.appliedEvents
    rollbackUntil := rollback
    activatedAt := activatedAt })
  let evidence ← Script.lift (LifecycleEvidence.make (str "projection-rebuild") plan.projection
    (str "COMPLETED") cutover.toMapping (.ofUtc activatedAt))
  request (.record evidence)
  pure cutover

/-- The body of the `try` statement. -/
def replaceGeneration (plan : RebuildPlan) (boundary : RebuildBoundary)
    (generation : RebuildGeneration) : Rebuilding F RebuildEvidence := do
  let batches ← request (.scan plan boundary)
  writeBatches plan generation batches.items
  raiseFailure batches.failure
  raiseIfCancelled
  let tail ← request (.tail plan generation boundary)
  raiseIfCancelled
  let validation ← request (.validate plan generation boundary)
  Script.refuse (validation.passed = false ∨ validation.sourceCount ≠ validation.targetCount)
    (.migrationFailed "rebuild validation failed")
  Script.assign fun _ => true
  let activation ← request (.activate plan generation generation.previousGenerationRef)
  cutOver plan boundary generation tail validation activation

/-- `if not activation_attempted: self._hooks.discard(...)`. -/
def discardUnless (generation : RebuildGeneration) (attempted : Bool) : Rebuilding F Unit :=
  if attempted then pure () else request (.discard generation.generationRef)

/-- The body of the `finally` clause. -/
def discardUnactivated (generation : RebuildGeneration) : Rebuilding F Unit := do
  let attempted ← Script.locals
  discardUnless generation attempted

/-- `RebuildCoordinator.rebuild`. -/
def rebuild (plan : RebuildPlan) : Rebuilding F RebuildEvidence := do
  raiseIfCancelled
  let boundary ← request (.captureBoundary plan)
  let generation ← request (.createGeneration plan boundary)
  Script.tryFinally (replaceGeneration plan boundary generation) (discardUnactivated generation)

end Rebuilding

end DataLifecycle.Rebuild
