import DataLifecycle.Interaction.Pool
import DataLifecycle.Migration.Executor

/-!
# The phases of an execution

An automaton that says what an execution may do next: which calls it makes in
which phase, with which checkpoints, and how responses move it.  `execute`
follows the automaton whatever its hooks answer, so properties of migrations can
be proved about phases.

Between a successful `apply_step` and the attempt to record it, an execution
only reads the clock; everywhere else it may fail at any time.
-/

namespace DataLifecycle.Migration

open Python Interaction

variable {F : Type} [FloatText F]

/-- Where an execution stands.  `sequence` is its next checkpoint sequence. -/
inductive Phase
  /-- The log has not been read. -/
  | reading
  /-- The log refused the execution. -/
  | refused
  /-- The log was read with the given recorded steps; no lock yet. -/
  | unlocked (sequence : Nat) (done : List Str)
  /-- The lock is held and PLANNED is not recorded. -/
  | locked (sequence : Nat) (done : List Str)
  /-- PLANNED is recorded; these steps are left. -/
  | applying (sequence : Nat) (todo : List Str)
  /-- A step was applied and the clock is to be read. -/
  | applied (sequence : Nat) (step : Str) (todo : List Str)
  /-- A step was applied and is about to be recorded. -/
  | recording (sequence : Nat) (step : Str) (todo : List Str)
  | validating (sequence : Nat)
  | activating (sequence : Nat)
  | activated (sequence : Nat)
  | completed (sequence : Nat)
  /-- The lock is held and an exception is on its way to the handler. -/
  | aborting (sequence : Nat)
  /-- FAILED was handed to the recorder. -/
  | failed (held : Bool)
  | released

namespace Phase

/-- The lock is held. -/
def held : Phase → Bool
  | .locked _ _ => true
  | .applying _ _ => true
  | .applied _ _ _ => true
  | .recording _ _ _ => true
  | .validating _ => true
  | .activating _ => true
  | .activated _ => true
  | .completed _ => true
  | .aborting _ => true
  | .failed held => held
  | _ => false

/-- The execution is between an `apply_step` and the record of it. -/
def inFlight : Phase → Option Str
  | .applied _ step _ => some step
  | .recording _ step _ => some step
  | _ => none

/-- The execution may make calls that touch neither log nor lock nor binding. -/
def calm : Phase → Bool
  | .reading => false
  | .refused => false
  | .applied _ _ _ => false
  | .recording _ _ _ => false
  | .released => false
  | _ => true

/-- The sequence with which the execution would record its failure. -/
def failure : Phase → Option Nat
  | .unlocked sequence _ => some sequence
  | .locked sequence _ => some sequence
  | .applying sequence _ => some sequence
  | .validating sequence => some sequence
  | .activating sequence => some sequence
  | .activated sequence => some sequence
  | .completed sequence => some sequence
  | .aborting sequence => some sequence
  | _ => none

/-- State, sequence and step of the checkpoint that the execution records next if
it does not fail. -/
def due : Phase → Option (MigrationState × Nat × Option Str)
  | .locked sequence _ => some (.planned, sequence, none)
  | .applying sequence [] => some (.validating, sequence, none)
  | .recording sequence step _ => some (.applying, sequence, some step)
  | .validating sequence => some (.activating, sequence, none)
  | .activated sequence => some (.completed, sequence, none)
  | _ => none

/-- The step that the execution applies next. -/
def nextStep : Phase → Option Str
  | .applying _ (step :: _) => some step
  | _ => none

end Phase

/-- The identity of the checkpoints that an execution writes. -/
structure Writes (executionId : Option Str) (bundle : MigrationBundleV1 F) (state : MigrationState)
    (sequence : Nat) (step : Option Str) (checkpoint : MigrationCheckpoint) : Prop where
  executionId_eq : ∀ supplied, executionId = some supplied → checkpoint.executionId = supplied
  bundleDigest_eq : checkpoint.bundleDigest = bundle.digest
  state_eq : checkpoint.state = state
  sequence_eq : checkpoint.sequence = sequence
  stepId_eq : checkpoint.stepId = step

namespace Phase

/-- The checkpoints that an execution may hand to the recorder. -/
inductive MayAppend (executionId : Option Str) (bundle : MigrationBundleV1 F) (phase : Phase)
    (checkpoint : MigrationCheckpoint) : Prop
  | due {state : MigrationState} {sequence : Nat} {step : Option Str}
      (isDue : phase.due = some (state, sequence, step))
      (writes : Writes executionId bundle state sequence step checkpoint)
  | failure {sequence : Nat} (mayFail : phase.failure = some sequence)
      (writes : Writes executionId bundle .failed sequence none checkpoint)

/-- The calls of each phase. -/
def Allows (executionId : Option Str) (bundle : MigrationBundleV1 F) (phase : Phase) :
    Hook F → Prop
  | .uuid4 => phase = .reading
  | .checkpoints id =>
      (phase = .reading ∧ ∀ supplied, executionId = some supplied → id = supplied) ∨
        ∃ sequence, phase = .completed sequence
  | .append checkpoint => phase.MayAppend executionId bundle checkpoint
  | .acquireLock _ _ _ _ => ∃ sequence done, phase = .unlocked sequence done
  | .applyStep _ compiled _ => phase.nextStep = some compiled.stepId
  | .activate _ target _ => target = bundle ∧ ∃ sequence, phase = .activating sequence
  | .releaseLock _ => phase.held = true ∧ phase.inFlight = none
  | .clock => phase.calm = true ∨ ∃ sequence step todo, phase = .applied sequence step todo
  | _ => phase.calm = true

/-- Whether the log refuses an execution of the bundle. -/
def refuses (bundle : MigrationBundleV1 F) (existing : List MigrationCheckpoint) : Bool :=
  existing.any (fun item => item.bundleDigest ≠ bundle.digest) ||
    existing.any (fun item => item.state = .completed)

/-- After the log was read. -/
def afterRead (bundle : MigrationBundleV1 F) (existing : Except Exc (List MigrationCheckpoint)) :
    Phase → Phase
  | .reading =>
      match existing with
      | .ok existing =>
          if refuses bundle existing then .refused
          else .unlocked (nextSequence existing) (completedSteps existing)
      | .error _ => .refused
  | phase => phase

/-- After the recorder took or rejected a due checkpoint. -/
def afterDue (bundle : MigrationBundleV1 F) : Phase → Phase
  | .locked sequence done =>
      .applying (sequence + 1) (bundle.stepIds.filter fun step => step ∉ done)
  | .applying sequence _ => .validating (sequence + 1)
  | .recording sequence _ todo => .applying (sequence + 1) todo
  | .validating sequence => .activating (sequence + 1)
  | .activated sequence => .completed sequence
  | phase => phase

/-- After a checkpoint was handed to the recorder. -/
def afterAppend (bundle : MigrationBundleV1 F) (checkpoint : MigrationCheckpoint) (accepted : Bool)
    (phase : Phase) : Phase :=
  if checkpoint.state = .failed then .failed phase.held
  else
    match phase.due with
    | none => phase
    | some (_, sequence, _) => if accepted then phase.afterDue bundle else .aborting sequence

/-- After `acquire_lock`. -/
def afterAcquire (granted : Bool) : Phase → Phase
  | .unlocked sequence done => if granted then .locked sequence done else .unlocked sequence done
  | phase => phase

/-- After `apply_step` with the acknowledged step, if any. -/
def afterApply (acknowledged : Option Str) : Phase → Phase
  | .applying sequence (step :: todo) =>
      if acknowledged = some step then .applied sequence step todo else .aborting sequence
  | phase => phase

/-- After the clock was read with the given success. -/
def afterClock (aware : Bool) : Phase → Phase
  | .applied sequence step todo =>
      if aware then .recording sequence step todo else .aborting sequence
  | phase => phase

/-- After `activate`. -/
def afterActivate (succeeded : Bool) : Phase → Phase
  | .activating sequence => if succeeded then .activated sequence else .aborting sequence
  | phase => phase

/-- How a response moves the phase. -/
def next (bundle : MigrationBundleV1 F) (phase : Phase) : (hook : Hook F) → hook.Response → Phase
  | .checkpoints _, response => phase.afterRead bundle response
  | .append checkpoint, response => phase.afterAppend bundle checkpoint response.isOk
  | .acquireLock _ _ _ _, response => phase.afterAcquire response.isOk
  | .applyStep _ _ _, response =>
      phase.afterApply (response.toOption.map AppliedMigrationStep.stepId)
  | .activate _ _ _, response => phase.afterActivate response.isOk
  | .releaseLock _, _ => .released
  | .clock, response => phase.afterClock (response.bind (ensureUtc "recorded_at")).isOk
  | _, _ => phase

end Phase

/-- The automaton of the executions of a bundle under an execution id. -/
def executionAutomaton (executionId : Option Str) (bundle : MigrationBundleV1 F) :
    Automaton (Hook F) Hook.Response Phase where
  allows := Phase.Allows executionId bundle
  next := Phase.next bundle

end DataLifecycle.Migration
