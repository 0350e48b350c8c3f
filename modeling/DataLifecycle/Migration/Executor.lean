import DataLifecycle.Interaction.Program
import DataLifecycle.Migration.Model

/-!
# The migration executor

`MigrationExecutor.execute` as a script over its hooks.  Every adapter, recorder,
validation and evidence call, every clock reading and every look at the
cancellation token is a request, and its response is a value or an exception.
-/

namespace DataLifecycle.Migration

open Python Interaction

variable {F : Type} [FloatText F]

/-- The calls that an execution makes. -/
inductive Hook (F : Type) [FloatText F]
  | uuid4
  | cancelled
  | clock
  | checkpoints (executionId : Str)
  | append (checkpoint : MigrationCheckpoint)
  | inspectState (bindingRef : Str)
  | runCondition (condition : MigrationCondition F)
  | acquireLock (bindingRef owner bundleDigest : Str) (leaseDuration : Int)
  | compile (bundle : MigrationBundleV1 F)
  | applyStep (lock : MigrationLock) (step : CompiledMigrationStep) (resumeToken : Option Str)
  | activate (lock : MigrationLock) (bundle : MigrationBundleV1 F) (expectedGeneration : Str)
  | releaseLock (lock : MigrationLock)
  | record (evidence : LifecycleEvidence F)

/-- The value that a call returns. -/
abbrev Hook.Answer : Hook F → Type
  | .uuid4 => { identifier : Str // identifier ≠ [] }
  | .cancelled => Bool
  | .clock => DateTime
  | .checkpoints _ => List MigrationCheckpoint
  | .append _ => Unit
  | .inspectState _ => BindingStateEvidence
  | .runCondition _ => ValidationOutcome
  | .acquireLock _ _ _ _ => MigrationLock
  | .compile _ => CompiledMigrationPlan
  | .applyStep _ _ _ => AppliedMigrationStep
  | .activate _ _ _ => ActivationResult
  | .releaseLock _ => Unit
  | .record _ => Unit

/-- A call returns a value or raises. -/
abbrev Hook.Response (hook : Hook F) : Type := Except Exc hook.Answer

/-- The local variables of an execution that its handlers read. -/
structure Locals where
  sequence : Nat := 0
  lock : Option MigrationLock := none
  validations : List ValidationOutcome := []

/-- A part of an execution. -/
abbrev Execution (F : Type) [FloatText F] (α : Type) := Script (Hook F) Hook.Response Exc Locals α

/-- Make one call. -/
def request (hook : Hook F) : Execution F hook.Answer := Script.invoke hook id

/-- `token.raise_if_cancelled()`. -/
def raiseIfCancelled : Execution F Unit := do
  let isCancelled ← request .cancelled
  Script.refuse (isCancelled = true) .operationCancelled

/-- `ensure_utc(self._clock(), field="now")`. -/
def currentUtc : Execution F Utc := do
  let now ← request .clock
  Script.lift (ensureUtc "now" now)

/-- `_checkpoint` at the current sequence. -/
def checkpoint (runId : Str) (bundle : MigrationBundleV1 F) (state : MigrationState)
    (step : Option AppliedMigrationStep := none) (failureCode : Option Str := none) :
    Execution F Unit := do
  let current ← Script.locals
  let now ← request .clock
  let made ← Script.lift (MigrationCheckpoint.make runId bundle.digest state current.sequence step
    failureCode now)
  request (.append made)

/-- `sequence += 1`. -/
def advance : Execution F Unit :=
  Script.assign fun current => { current with sequence := current.sequence + 1 }

/-- `self._evidence.record(LifecycleEvidence(kind="migration", …))`. -/
def recordEvidence (bindingRef : Str) (state : MigrationState) (details : List (Str × Json F)) :
    Execution F Unit := do
  let now ← request .clock
  let evidence ← Script.lift (LifecycleEvidence.make (str "migration") bindingRef state.value details
    now)
  request (.record evidence)

/-- `_verify_compiled`. -/
def verifyCompiled (bundle : MigrationBundleV1 F) (plan : CompiledMigrationPlan) :
    Except Exc Unit :=
  if plan.bundleDigest ≠ bundle.digest then
    .error (.migrationConflict "compiled plan references a different migration bundle")
  else if plan.steps.map (·.stepId) ≠ bundle.stepIds then
    .error (.migrationConflict "compiled plan does not preserve logical step order")
  else
    match sha256Digest (planMaterial plan.bundleDigest plan.steps) with
    | .error error => .error error
    | .ok expected =>
        if plan.planDigest ≠ expected then
          .error (.migrationConflict "compiled migration plan is not deterministic")
        else .ok ()

/-- Look at the token of the caller; a fresh token is never cancelled. -/
def checkToken (cancellable : Bool) : Execution F Unit :=
  if cancellable then raiseIfCancelled else pure ()

/-- `_run_conditions`. -/
def runConditions (cancellable : Bool) :
    List (MigrationCondition F) → Execution F (List ValidationOutcome)
  | [] => pure []
  | condition :: rest => do
      checkToken cancellable
      let outcome ← request (.runCondition condition)
      Script.refuse (outcome.passed = false)
        (.migrationFailed "migration condition %r failed" [condition.name])
      let outcomes ← runConditions cancellable rest
      pure (outcome :: outcomes)

/-- `all_validations.extend(self._run_conditions(…))`. -/
def extendValidations (cancellable : Bool) (conditions : List (MigrationCondition F)) :
    Execution F Unit := do
  let outcomes ← runConditions cancellable conditions
  Script.assign fun current => { current with validations := current.validations ++ outcomes }

/-- The sequence after the recorded checkpoints. -/
def nextSequence (existing : List MigrationCheckpoint) : Nat :=
  match existing.getLast? with
  | none => 0
  | some last => last.sequence + 1

/-- The keys of `completed_steps`: the recorded steps. -/
def completedSteps (existing : List MigrationCheckpoint) : List Str :=
  existing.filterMap fun item => if item.state = .applying then item.stepId else none

/-- The loop over the compiled steps. -/
def applySteps (runId : Str) (bundle : MigrationBundleV1 F) (lock : MigrationLock)
    (completed : List Str) : List CompiledMigrationStep → Execution F Unit
  | [] => pure ()
  | compiled :: rest => do
      raiseIfCancelled
      let now ← currentUtc
      Script.refuse (lock.expiresAt ≤ now)
        (.migrationConflict "migration lock expired while applying the plan")
      if compiled.stepId ∈ completed then applySteps runId bundle lock completed rest
      else do
        let applied ← request (.applyStep lock compiled none)
        Script.refuse (applied.stepId ≠ compiled.stepId)
          (.migrationConflict "adapter acknowledged the wrong migration step")
        checkpoint runId bundle .applying (some applied)
        advance
        applySteps runId bundle lock completed rest

/-- From the first look at the binding to a verified plan under the lock. -/
def acquire (lockDuration : Int) (bindingRef : Str) (bundle : MigrationBundleV1 F) (owner : Str) :
    Execution F (BindingStateEvidence × MigrationLock × CompiledMigrationPlan) := do
  raiseIfCancelled
  let state ← request (.inspectState bindingRef)
  Script.refuse (state.logicalFingerprint ≠ bundle.sourceSchemaFingerprint)
    (.migrationConflict "current logical fingerprint does not match bundle source")
  extendValidations true bundle.preconditions
  let lock ← request (.acquireLock bindingRef owner bundle.digest lockDuration)
  Script.assign fun current => { current with lock := some lock }
  Script.refuse (lock.owner ≠ owner ∨ lock.bundleDigest ≠ bundle.digest)
    (.migrationConflict "adapter returned a lock for a different owner or bundle")
  let now ← currentUtc
  Script.refuse (lock.expiresAt ≤ now)
    (.migrationConflict "adapter returned an expired migration lock")
  let plan ← request (.compile bundle)
  Script.lift (verifyCompiled bundle plan)
  pure (state, lock, plan)

/-- From ACTIVATING to the cutover evidence. -/
def cutOver (runId : Str) (bundle : MigrationBundleV1 F) (state : BindingStateEvidence)
    (lock : MigrationLock) : Execution F CutoverEvidence := do
  raiseIfCancelled
  let now ← currentUtc
  Script.refuse (lock.expiresAt ≤ now) (.migrationConflict "migration lock expired before activation")
  let activation ← request (.activate lock bundle state.activeGeneration)
  Script.refuse (activation.targetFingerprint ≠ bundle.targetSchemaFingerprint)
    (.migrationConflict "activation target fingerprint does not match bundle")
  -- after activation a concurrent cancellation no longer stops the validation
  extendValidations false bundle.postconditions
  let current ← Script.locals
  let digest ← Script.lift (sha256Digest (validationMaterial current.validations))
  let activatedAt ← request .clock
  Script.lift (CutoverEvidence.make runId bundle activation digest activatedAt)

/-- The guarded body of `execute`. -/
def migrate (lockDuration : Int) (bindingRef : Str) (bundle : MigrationBundleV1 F) (owner : Str)
    (runId : Str) (completed : List Str) : Execution F MigrationReport := do
  let (state, lock, plan) ← acquire lockDuration bindingRef bundle owner
  checkpoint runId bundle .planned
  advance
  recordEvidence bindingRef .planned
    [(str "bundleDigest", .str bundle.digest), (str "planDigest", .str plan.planDigest)]
  applySteps runId bundle lock completed plan.steps
  checkpoint runId bundle .validating
  advance
  extendValidations true bundle.validations
  checkpoint runId bundle .activating
  advance
  let cutover ← cutOver runId bundle state lock
  checkpoint runId bundle .completed
  recordEvidence bindingRef .completed cutover.toMapping
  let checkpoints ← request (.checkpoints runId)
  let final ← Script.locals
  pure ⟨runId, .completed, bundle.digest, checkpoints, final.validations, some cutover⟩

/-- The failure code of an exception. -/
def failureCode (error : Exc) : Str := error.code.getD error.cls.name

/-- The handler `except Exception as error`. -/
def recordFailure (bindingRef : Str) (bundle : MigrationBundleV1 F) (runId : Str) (error : Exc) :
    Execution F MigrationReport := do
  if error.isException then do
    checkpoint runId bundle .failed none (some (failureCode error))
    recordEvidence bindingRef .failed
      [(str "bundleDigest", .str bundle.digest), (str "failureCode", .str (failureCode error))]
    Script.raise error
  else Script.raise error

/-- The cleanup: release the lock if there is one. -/
def releaseHeldLock : Execution F Unit := do
  let current ← Script.locals
  match current.lock with
  | none => pure ()
  | some lock => request (.releaseLock lock)

/-- `run_id = execution_id or str(uuid4())`. -/
def chooseRunId : Option Str → Execution F Str
  | some supplied => pure supplied
  | none => do
      let identifier ← request .uuid4
      pure identifier.val

/-- `execute` once the run id is known. -/
def executeAs (lockDuration : Int) (bindingRef : Str) (bundle : MigrationBundleV1 F) (owner : Str)
    (runId : Str) : Execution F MigrationReport := do
  let existing ← request (.checkpoints runId)
  Script.refuse (existing.any (fun item => item.bundleDigest ≠ bundle.digest) = true)
    (.migrationConflict "execution id is already bound to another bundle")
  Script.refuse (existing.any (fun item => item.state = .completed) = true)
    (.migrationConflict "migration execution is already completed")
  Script.assign fun current => { current with sequence := nextSequence existing }
  Script.tryFinally
    (Script.tryExcept
      (migrate lockDuration bindingRef bundle owner runId (completedSteps existing))
      (recordFailure bindingRef bundle runId))
    releaseHeldLock

/-- `MigrationExecutor.execute`. -/
def execute (lockDuration : Int) (bindingRef : Str) (bundle : MigrationBundleV1 F) (owner : Str)
    (executionId : Option Str) : Execution F MigrationReport := do
  Script.refuse (bindingRef = [] ∨ owner = [])
    (.valueError "binding_ref and owner must be non-empty")
  Script.refuse (executionId = some [])
    (.valueError "execution_id must be non-empty when supplied")
  let runId ← chooseRunId executionId
  executeAs lockDuration bindingRef bundle owner runId

end DataLifecycle.Migration
