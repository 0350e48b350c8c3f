import DataLifecycle.Interaction.Trace
import DataLifecycle.Migration.Executor
import DataLifecycle.Raises

/-!
# Rules for the parts of an execution

What an execution does is followed along its trace.  A part keeps a relation between the
variables and the trace if every call that it makes is tolerated, and every exception that it
raises by itself is absorbed.
-/

namespace DataLifecycle.Migration

open Python Interaction

variable {F : Type} [FloatText F] {α : Type}

/-- The calls of an execution so far, with their responses. -/
abbrev Trace (F : Type) [FloatText F] := List (Event (Hook F) Hook.Response)

/-- The exception that a call raised. -/
def raisedBy : Event (Hook F) Hook.Response → Option Exc
  | ⟨_, .ok _⟩ => none
  | ⟨_, .error error⟩ => some error

/-- The exceptions that the calls raised. -/
def raisedIn (trace : Trace F) : List Exc := trace.filterMap raisedBy

/-! ## Exceptions of the parts -/

theorem raisesBuiltin_checkpoint (executionId bundleDigest : Str) (state : MigrationState)
    (sequence : Nat) (step : Option AppliedMigrationStep) (failureCode : Option Str)
    (recordedAt : DateTime) :
    RaisesBuiltin (MigrationCheckpoint.make executionId bundleDigest state sequence step failureCode
      recordedAt) := by
  unfold MigrationCheckpoint.make
  split
  · exact raisesBuiltin_valueError _ _
  · exact (raisesBuiltin_requireSha256 _ _).bind fun _ =>
      (raisesBuiltin_ensureUtc _ _).bind fun _ => raisesBuiltin_ok _

theorem raisesBuiltin_cutover (executionId : Str) (bundle : MigrationBundleV1 F)
    (activation : ActivationResult) (digest : Str) (activatedAt : DateTime) :
    RaisesBuiltin (CutoverEvidence.make executionId bundle activation digest activatedAt) := by
  unfold CutoverEvidence.make
  have later : ∀ evidence : CutoverEvidence, RaisesBuiltin
      (sha256Digest (.object (evidence.digestMaterial (F := Empty))) >>= fun digest =>
        pure { evidence with digest := digest }) := fun evidence =>
    (raisesBuiltin_sha256Digest _).bind fun _ => raisesBuiltin_ok _
  dsimp only
  split
  · exact raisesBuiltin_valueError _ _
  · exact (raisesBuiltin_requireSha256 _ _).bind fun _ =>
      (raisesBuiltin_requireSha256 _ _).bind fun _ => (raisesBuiltin_ensureUtc _ _).bind fun _ =>
        later _

/-- An exception that an execution raises by itself: of the encoding, a conflict, a failed
condition or a cancellation. -/
inductive Internal : Exc → Prop
  | builtin {error : Exc} (isBuiltin : error.IsBuiltin) : Internal error
  | conflict (template : String) : Internal (.migrationConflict template)
  | failed (template : String) (arguments : List Str) : Internal (.migrationFailed template arguments)
  | cancelled : Internal .operationCancelled

/-! ## Parts -/

section Parts

variable (answers : Trace F → (hook : Hook F) → hook.Response → Prop)
  (allowed : Trace F → Hook F → Prop) (going : Locals → Trace F → Prop)
  (raised : Exc → Locals → Trace F → Prop)

/-- A part of an execution that keeps the relation. -/
abbrev Part (part : Execution F α) : Prop :=
  part.Ends (Traced answers) allowed going raised

/-- The call may be made, and each of its responses leaves the relation that it should. -/
def Tolerates (hook : Hook F) : Prop :=
  ∀ locals trace, going locals trace → allowed trace hook ∧
    ∀ response, answers trace hook response →
      match response with
      | .ok _ => going locals (trace ++ [⟨hook, response⟩])
      | .error error => raised error locals (trace ++ [⟨hook, response⟩])

/-- The exception may be raised anywhere. -/
def Absorbs (error : Exc) : Prop :=
  ∀ locals trace, going locals trace → raised error locals trace

variable {answers allowed going raised}

/-- A call on its own. -/
theorem safe_request {hook : Hook F} {normal : hook.Answer → Locals → Trace F → Prop}
    {exceptional : Exc → Locals → Trace F → Prop} {locals : Locals} {trace : Trace F}
    (permitted : allowed trace hook)
    (returned : ∀ value, answers trace hook (.ok value) →
      normal value locals (trace ++ [⟨hook, .ok value⟩]))
    (failed : ∀ error, answers trace hook (.error error) →
      exceptional error locals (trace ++ [⟨hook, .error error⟩])) :
    (request hook).Safe (Traced answers) allowed normal exceptional locals trace := by
  rw [request, Script.safe_invoke]
  refine ⟨permitted, ?_⟩
  rintro response after ⟨answered, rfl⟩
  cases response with
  | ok value => exact returned value answered
  | error error => exact failed error answered

/-- The cleanup releases the lock that is held. -/
theorem safe_releaseHeldLock {normal : Unit → Locals → Trace F → Prop}
    {exceptional : Exc → Locals → Trace F → Prop} {locals : Locals} {trace : Trace F}
    (unheld : locals.lock = none → normal () locals trace)
    (permitted : ∀ lock, locals.lock = some lock → allowed trace (.releaseLock lock))
    (returned : ∀ lock, locals.lock = some lock →
      normal () locals (trace ++ [⟨.releaseLock lock, .ok ()⟩]))
    (failed : ∀ lock error, locals.lock = some lock →
      answers trace (.releaseLock lock) (.error error) →
      exceptional error locals (trace ++ [⟨.releaseLock lock, .error error⟩])) :
    (releaseHeldLock : Execution F Unit).Safe (Traced answers) allowed normal exceptional locals
      trace := by
  rw [releaseHeldLock, Script.safe_bind, Script.safe_locals]
  cases held : locals.lock with
  | none => exact unheld held
  | some lock =>
      exact safe_request (permitted lock held) (fun _ _ => returned lock held) fun error answered =>
        failed lock error held answered

theorem part_request {hook : Hook F} (tolerates : Tolerates answers allowed going raised hook) :
    Part answers allowed going raised (request hook) := by
  intro locals trace goes
  obtain ⟨permitted, responded⟩ := tolerates locals trace goes
  exact safe_request permitted (fun value answered => responded (.ok value) answered)
    fun error answered => responded (.error error) answered

theorem part_lift {result : Except Exc α} (raises : RaisesBuiltin result)
    (builtin : ∀ error : Exc, error.IsBuiltin → Absorbs going raised error) :
    Part answers allowed going raised (Script.lift result : Execution F α) :=
  Script.ends_lift fun error failed => builtin error (raises error failed)

theorem part_raiseIfCancelled (token : Tolerates answers allowed going raised .cancelled)
    (cancelled : Absorbs going raised .operationCancelled) :
    Part answers allowed going raised (raiseIfCancelled : Execution F Unit) :=
  Script.ends_bind (part_request token) fun _ => Script.ends_refuse cancelled

theorem part_currentUtc (clock : Tolerates answers allowed going raised .clock)
    (builtin : ∀ error : Exc, error.IsBuiltin → Absorbs going raised error) :
    Part answers allowed going raised (currentUtc : Execution F Utc) :=
  Script.ends_bind (part_request clock) fun _ => part_lift (raisesBuiltin_ensureUtc _ _) builtin

theorem part_recordEvidence {bindingRef : Str} {state : MigrationState}
    {details : List (Str × Json F)} (clock : Tolerates answers allowed going raised .clock)
    (sink : ∀ evidence, Tolerates answers allowed going raised (.record evidence))
    (builtin : ∀ error : Exc, error.IsBuiltin → Absorbs going raised error) :
    Part answers allowed going raised (recordEvidence bindingRef state details) :=
  Script.ends_bind (part_request clock) fun _ =>
    Script.ends_bind (part_lift (LifecycleEvidence.raisesBuiltin_make _ _ _ _ _) builtin) fun evidence =>
      part_request (sink evidence)

theorem part_checkpoint {runId : Str} {bundle : MigrationBundleV1 F} {state : MigrationState}
    {step : Option AppliedMigrationStep} {failureCode : Option Str}
    (clock : Tolerates answers allowed going raised .clock)
    (recorder : ∀ checkpoint, Tolerates answers allowed going raised (.append checkpoint))
    (builtin : ∀ error : Exc, error.IsBuiltin → Absorbs going raised error) :
    Part answers allowed going raised (checkpoint runId bundle state step failureCode) :=
  Script.ends_bind Script.ends_locals fun _ => Script.ends_bind (part_request clock) fun _ =>
    Script.ends_bind (part_lift (raisesBuiltin_checkpoint _ _ _ _ _ _ _) builtin) fun made =>
      part_request (recorder made)

theorem part_runConditions {cancellable : Bool}
    (token : cancellable = true → Tolerates answers allowed going raised .cancelled)
    (runner : ∀ condition, Tolerates answers allowed going raised (.runCondition condition))
    (internal : ∀ error, Internal error → Absorbs going raised error)
    (conditions : List (MigrationCondition F)) :
    Part answers allowed going raised (runConditions cancellable conditions) := by
  induction conditions with
  | nil => exact Script.ends_pure _
  | cons condition rest inductionHypothesis =>
      refine Script.ends_bind ?_ fun _ => Script.ends_bind (part_request (runner condition)) fun _ =>
        Script.ends_bind (Script.ends_refuse (internal _ (.failed _ _))) fun _ =>
          Script.ends_bind inductionHypothesis fun _ => Script.ends_pure _
      cases cancellable with
      | false => exact Script.ends_pure _
      | true => exact part_raiseIfCancelled (token rfl) (internal _ .cancelled)

theorem part_extendValidations {cancellable : Bool}
    (token : cancellable = true → Tolerates answers allowed going raised .cancelled)
    (runner : ∀ condition, Tolerates answers allowed going raised (.runCondition condition))
    (internal : ∀ error, Internal error → Absorbs going raised error)
    (extended : ∀ locals trace outcomes, going locals trace →
      going { locals with validations := locals.validations ++ outcomes } trace)
    (conditions : List (MigrationCondition F)) :
    Part answers allowed going raised (extendValidations cancellable conditions) :=
  Script.ends_bind (part_runConditions token runner internal conditions) fun outcomes =>
    Script.ends_assign fun locals trace goes => extended locals trace outcomes goes

theorem part_advance (advanced : ∀ locals trace, going locals trace →
      going { locals with sequence := locals.sequence + 1 } trace) :
    Part answers allowed going raised (advance : Execution F Unit) :=
  Script.ends_assign advanced

theorem part_applySteps {runId : Str} {bundle : MigrationBundleV1 F} {lock : MigrationLock}
    {completed : List Str} (token : Tolerates answers allowed going raised .cancelled)
    (clock : Tolerates answers allowed going raised .clock)
    (applies : ∀ step, Tolerates answers allowed going raised (.applyStep lock step none))
    (recorder : ∀ checkpoint, Tolerates answers allowed going raised (.append checkpoint))
    (internal : ∀ error, Internal error → Absorbs going raised error)
    (advanced : ∀ locals trace, going locals trace →
      going { locals with sequence := locals.sequence + 1 } trace)
    (steps : List CompiledMigrationStep) :
    Part answers allowed going raised (applySteps runId bundle lock completed steps) := by
  have builtin : ∀ error : Exc, error.IsBuiltin → Absorbs going raised error := fun error isBuiltin =>
    internal error (.builtin isBuiltin)
  induction steps with
  | nil => exact Script.ends_pure _
  | cons compiled rest inductionHypothesis =>
      refine Script.ends_bind (part_raiseIfCancelled token (internal _ .cancelled)) fun _ =>
        Script.ends_bind (part_currentUtc clock builtin) fun _ =>
          Script.ends_bind (Script.ends_refuse (internal _ (.conflict _))) fun _ => ?_
      split
      · exact inductionHypothesis
      · exact Script.ends_bind (part_request (applies compiled)) fun _ =>
          Script.ends_bind (Script.ends_refuse (internal _ (.conflict _))) fun _ =>
            Script.ends_bind (part_checkpoint clock recorder builtin) fun _ =>
              Script.ends_bind (part_advance advanced) fun _ => inductionHypothesis

end Parts

end DataLifecycle.Migration
