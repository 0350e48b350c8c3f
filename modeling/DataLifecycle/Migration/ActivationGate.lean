import DataLifecycle.Migration.LockRelease

/-!
# The gate in front of activation

Every `apply_step` and the one `activate` of an execution come after the checks of the lock,
the plan, the conditions and the checkpoints, whatever the hooks answer.  Once `activate` has
been called the token of the caller is not looked at any more.
-/

namespace DataLifecycle.Migration

open Python Interaction

variable {F : Type} [FloatText F] {α : Type}

/-- Whether a call is an `activate`. -/
def isActivate : Event (Hook F) Hook.Response → Bool
  | ⟨.activate _ _ _, _⟩ => true
  | _ => false

/-- `activate` has been called. -/
def Activated (trace : Trace F) : Prop := ∃ event ∈ trace, isActivate event = true

/-- Whether a call comes before the first look at the binding. -/
def isEntry : Event (Hook F) Hook.Response → Bool
  | ⟨.uuid4, _⟩ => true
  | ⟨.checkpoints _, _⟩ => true
  | ⟨.cancelled, _⟩ => true
  | _ => false

/-- The condition was run and passed. -/
def Passed (condition : MigrationCondition F) (trace : Trace F) : Prop :=
  ∃ outcome, (⟨.runCondition condition, .ok outcome⟩ : Event (Hook F) Hook.Response) ∈ trace ∧
    outcome.passed = true

/-- The lock is one of the call, acquired before. -/
structure LockedBy (owner : Str) (bundle : MigrationBundleV1 F) (lock : MigrationLock)
    (trace : Trace F) : Prop where
  own : IsOwn owner bundle lock
  acquired : ∃ event ∈ trace, acquiredLock event = some lock

/-- The last call read the clock, and the lock had not expired. -/
def Unexpired (lock : MigrationLock) (trace : Trace F) : Prop :=
  ∃ earlier now instant, trace = earlier ++ [⟨.clock, .ok now⟩] ∧
    ensureUtc "now" now = .ok instant ∧ instant < lock.expiresAt

/-- The step has an APPLYING checkpoint, found when the log was read or appended since. -/
def StepRecorded (runId : Str) (bundle : MigrationBundleV1 F) (step : Str) (trace : Trace F) :
    Prop :=
  ∃ checkpoint : MigrationCheckpoint, checkpoint.state = .applying ∧
    checkpoint.stepId = some step ∧ checkpoint.bundleDigest = bundle.digest ∧
    ((∃ existing, (⟨.checkpoints runId, .ok existing⟩ : Event (Hook F) Hook.Response) ∈ trace ∧
      checkpoint ∈ existing) ∨
    checkpoint.executionId = runId ∧
      (⟨.append checkpoint, .ok ()⟩ : Event (Hook F) Hook.Response) ∈ trace)

/-- What an execution has established when it holds a verified plan under its lock. -/
structure Prepared (bindingRef owner : Str) (bundle : MigrationBundleV1 F)
    (state : BindingStateEvidence) (lock : MigrationLock) (plan : CompiledMigrationPlan)
    (trace : Trace F) : Prop where
  inspected : (⟨.inspectState bindingRef, .ok state⟩ : Event (Hook F) Hook.Response) ∈ trace
  preconditions : ∀ condition ∈ bundle.preconditions, Passed condition trace
  locked : LockedBy owner bundle lock trace
  compiled : (⟨.compile bundle, .ok plan⟩ : Event (Hook F) Hook.Response) ∈ trace
  verified : verifyCompiled bundle plan = .ok ()

/-- The gate in front of `activate`. -/
structure MayActivate (executionId : Option Str) (bindingRef owner : Str)
    (bundle : MigrationBundleV1 F) (trace : Trace F) (lock : MigrationLock)
    (target : MigrationBundleV1 F) (expectedGeneration : Str) : Prop where
  first : ¬ Activated trace
  target_eq : target = bundle
  unexpired : Unexpired lock trace
  prepared : ∃ state plan, Prepared bindingRef owner bundle state lock plan trace ∧
    plan.steps.map (·.stepId) = bundle.stepIds ∧ expectedGeneration = state.activeGeneration
  recorded : ∃ runId, (∀ supplied, executionId = some supplied → runId = supplied) ∧
    ∀ step ∈ bundle.stepIds, StepRecorded runId bundle step trace
  validations : ∀ condition ∈ bundle.validations, Passed condition trace

/-- The calls that the gate lets through. -/
def GateAllows (executionId : Option Str) (bindingRef owner : Str) (bundle : MigrationBundleV1 F)
    (trace : Trace F) : Hook F → Prop
  | .inspectState _ => ∀ event ∈ trace, isEntry event = true
  | .applyStep lock _ _ => LockedBy owner bundle lock trace ∧ Unexpired lock trace
  | .activate lock target generation =>
      MayActivate executionId bindingRef owner bundle trace lock target generation
  | .cancelled => ¬ Activated trace
  | _ => True

/-- The migration was activated with the target of the bundle, and the postconditions passed
after that. -/
def CutOverTo (bundle : MigrationBundleV1 F) (trace : Trace F) : Prop :=
  ∃ before lock generation activation after,
    trace = before ++ ⟨.activate lock bundle generation, .ok activation⟩ :: after ∧
    activation.targetFingerprint = bundle.targetSchemaFingerprint ∧
    ∀ condition ∈ bundle.postconditions, Passed condition after

/-- After `activate` a cancellation is raised only if a call raised it. -/
def Uncancelled (error : Exc) (trace : Trace F) : Prop :=
  error.cls = .operationCancelled → error ∈ raisedIn trace

/-! ## Growing traces -/

/-- The trace grew by calls other than `activate`. -/
structure Adds (before new after : Trace F) : Prop where
  append_eq : after = before ++ new
  inactive : ∀ event ∈ new, isActivate event = false

theorem Adds.refl (trace : Trace F) : Adds trace [] trace := ⟨(List.append_nil _).symm, by simp⟩

theorem Adds.trans {first second third new later : Trace F} (adds : Adds first new second)
    (addsLater : Adds second later third) : Adds first (new ++ later) third := by
  refine ⟨?_, ?_⟩
  · rw [addsLater.append_eq, adds.append_eq, List.append_assoc]
  · intro event member
    rcases List.mem_append.mp member with isNew | isLater
    · exact adds.inactive event isNew
    · exact addsLater.inactive event isLater

theorem Adds.mem {before new after : Trace F} (adds : Adds before new after)
    {event : Event (Hook F) Hook.Response} (member : event ∈ before) : event ∈ after := by
  rw [adds.append_eq]
  exact List.mem_append_left _ member

theorem Adds.not_activated {before new after : Trace F} (adds : Adds before new after)
    (inactive : ¬ Activated before) : ¬ Activated after := by
  rintro ⟨event, member, isActive⟩
  rw [adds.append_eq] at member
  rcases List.mem_append.mp member with earlier | isNew
  · exact inactive ⟨event, earlier, isActive⟩
  · rw [adds.inactive event isNew] at isActive
    cases isActive

theorem not_activated_of_entry {trace : Trace F} (entry : ∀ event ∈ trace, isEntry event = true) :
    ¬ Activated trace := by
  rintro ⟨event, member, isActive⟩
  have isEntry := entry event member
  rcases event with ⟨hook, response⟩
  cases hook with
  | activate => cases isEntry
  | _ => cases isActive

theorem Passed.mono {condition : MigrationCondition F} {trace larger : Trace F}
    (passed : Passed condition trace) (subset : ∀ event ∈ trace, event ∈ larger) :
    Passed condition larger := by
  obtain ⟨outcome, member, isPassed⟩ := passed
  exact ⟨outcome, subset _ member, isPassed⟩

theorem Prepared.mono {bindingRef owner : Str} {bundle : MigrationBundleV1 F}
    {state : BindingStateEvidence} {lock : MigrationLock} {plan : CompiledMigrationPlan}
    {trace larger : Trace F} (prepared : Prepared bindingRef owner bundle state lock plan trace)
    (subset : ∀ event ∈ trace, event ∈ larger) :
    Prepared bindingRef owner bundle state lock plan larger := by
  obtain ⟨event, member, acquired⟩ := prepared.locked.acquired
  exact {
    inspected := subset _ prepared.inspected
    preconditions := fun condition isPrecondition =>
      (prepared.preconditions condition isPrecondition).mono subset
    locked := ⟨prepared.locked.own, event, subset event member, acquired⟩
    compiled := subset _ prepared.compiled
    verified := prepared.verified }

theorem StepRecorded.mono {runId : Str} {bundle : MigrationBundleV1 F} {step : Str}
    {trace larger : Trace F} (recorded : StepRecorded runId bundle step trace)
    (subset : ∀ event ∈ trace, event ∈ larger) : StepRecorded runId bundle step larger := by
  obtain ⟨checkpoint, isApplying, isStep, isBundle, found | ⟨isRun, appended⟩⟩ := recorded
  · obtain ⟨existing, read, member⟩ := found
    exact ⟨checkpoint, isApplying, isStep, isBundle, .inl ⟨existing, subset _ read, member⟩⟩
  · exact ⟨checkpoint, isApplying, isStep, isBundle, .inr ⟨isRun, subset _ appended⟩⟩

/-- A verified plan has the steps of the bundle in their order. -/
theorem stepIds_of_verifyCompiled {bundle : MigrationBundleV1 F} {plan : CompiledMigrationPlan}
    (verified : verifyCompiled bundle plan = .ok ()) :
    plan.steps.map (·.stepId) = bundle.stepIds := by
  unfold verifyCompiled at verified
  split at verified
  · cases verified
  · split at verified
    · cases verified
    next same => exact not_not.mp same

/-! ## The parts of an execution -/

section Parts

variable {executionId : Option Str} {bindingRef owner : Str} {bundle : MigrationBundleV1 F}
  {start : Trace F} {cancellable : Bool}

/-- The part has only added calls other than `activate`. -/
def GoesOn (start : Trace F) (_ : Locals) (trace : Trace F) : Prop := ∃ new, Adds start new trace

/-- The part has raised.  Where the token is not looked at, a cancellation comes from a call. -/
def Stops (start : Trace F) (cancellable : Bool) (error : Exc) (_ : Locals) (trace : Trace F) :
    Prop :=
  ∃ new, Adds start new trace ∧ (cancellable = false → Uncancelled error new)

/-- A part that may be cancelled owes nothing when it stops. -/
theorem Adds.stops {start new trace : Trace F} {error : Exc} {locals : Locals}
    (adds : Adds start new trace) : Stops start true error locals trace := by
  refine ⟨new, adds, ?_⟩
  rintro ⟨⟩

/-- A part in front of or behind the gate. -/
abbrev Gated (executionId : Option Str) (bindingRef owner : Str) (bundle : MigrationBundleV1 F)
    (start : Trace F) (cancellable : Bool) (part : Execution F α) : Prop :=
  Part AnyAnswer (GateAllows executionId bindingRef owner bundle) (GoesOn start)
    (Stops start cancellable) part

theorem Adds.concat {before new after : Trace F} (adds : Adds before new after)
    (event : Event (Hook F) Hook.Response) (inactive : isActivate event = false) :
    Adds before (new ++ [event]) (after ++ [event]) :=
  adds.trans ⟨rfl, fun other member => by rw [List.mem_singleton.mp member]; exact inactive⟩

theorem mem_raisedIn_concat {hook : Hook F} {error : Exc} (new : Trace F) :
    error ∈ raisedIn (new ++ [⟨hook, .error error⟩]) := by
  rw [raisedIn, List.filterMap_append]
  exact List.mem_append_right _ List.mem_cons_self

/-- A call that the gate lets through everywhere. -/
theorem tolerates_of_allowed {hook : Hook F}
    (allowed : ∀ trace, GoesOn start ({} : Locals) trace →
      GateAllows executionId bindingRef owner bundle trace hook)
    (inactive : ∀ response : hook.Response, isActivate ⟨hook, response⟩ = false) :
    Tolerates AnyAnswer (GateAllows executionId bindingRef owner bundle) (GoesOn start)
      (Stops start cancellable) hook := by
  rintro locals trace ⟨new, adds⟩
  refine ⟨allowed trace ⟨new, adds⟩, fun response _ => ?_⟩
  cases response with
  | ok value => exact ⟨_, adds.concat _ (inactive _)⟩
  | error error => exact ⟨_, adds.concat _ (inactive _), fun _ _ => mem_raisedIn_concat new⟩

theorem absorbs_of_uncancelled {error : Exc}
    (other : cancellable = false → error.cls ≠ .operationCancelled) :
    Absorbs (GoesOn start) (Stops start cancellable) error := by
  rintro locals trace ⟨new, adds⟩
  exact ⟨new, adds, fun isFalse cancelled => absurd cancelled (other isFalse)⟩

theorem absorbs_builtin (error : Exc) (isBuiltin : error.IsBuiltin) :
    Absorbs (GoesOn start) (Stops start cancellable) error := by
  refine absorbs_of_uncancelled fun _ isCancelled => ?_
  rcases isBuiltin.2 with cls | cls | cls | cls <;> rw [cls] at isCancelled <;> cases isCancelled

theorem absorbs_internal (error : Exc) (_ : Internal error) :
    Absorbs (GoesOn start) (Stops start true) error :=
  absorbs_of_uncancelled nofun

/-- The token may be looked at in front of the gate. -/
theorem tolerates_cancelled (inactive : ¬ Activated start) :
    Tolerates AnyAnswer (GateAllows executionId bindingRef owner bundle) (GoesOn start)
      (Stops start true) .cancelled :=
  tolerates_of_allowed (fun _ ⟨_, adds⟩ => adds.not_activated inactive) fun _ => rfl

theorem gated_raiseIfCancelled (inactive : ¬ Activated start) :
    Gated executionId bindingRef owner bundle start true raiseIfCancelled :=
  part_raiseIfCancelled (tolerates_cancelled inactive) (absorbs_internal _ .cancelled)

theorem gated_checkpoint {runId : Str} {state : MigrationState} {step : Option AppliedMigrationStep}
    {failureCode : Option Str} :
    Gated executionId bindingRef owner bundle start cancellable
      (checkpoint runId bundle state step failureCode) :=
  part_checkpoint (tolerates_of_allowed (fun _ _ => trivial) fun _ => rfl)
    (fun _ => tolerates_of_allowed (fun _ _ => trivial) fun _ => rfl) absorbs_builtin

theorem gated_recordEvidence {state : MigrationState} {details : List (Str × Json F)} :
    Gated executionId bindingRef owner bundle start cancellable
      (recordEvidence bindingRef state details) :=
  part_recordEvidence (tolerates_of_allowed (fun _ _ => trivial) fun _ => rfl)
    (fun _ => tolerates_of_allowed (fun _ _ => trivial) fun _ => rfl) absorbs_builtin

theorem gated_advance :
    Gated executionId bindingRef owner bundle start cancellable (advance : Execution F Unit) :=
  part_advance fun _ _ goes => goes

/-- The conditions of a group that returns were run and passed. -/
theorem gated_runConditions (token : cancellable = true → ¬ Activated start)
    (conditions : List (MigrationCondition F)) (locals : Locals) :
    (runConditions cancellable conditions).Safe (Traced AnyAnswer)
      (GateAllows executionId bindingRef owner bundle)
      (fun _ _ after => ∃ new, Adds start new after ∧
        ∀ condition ∈ conditions, Passed condition new)
      (Stops start cancellable) locals start := by
  induction conditions generalizing start locals with
  | nil => exact ⟨[], Adds.refl start, by simp⟩
  | cons condition rest inductionHypothesis =>
      have check : Gated executionId bindingRef owner bundle start cancellable
          (checkToken cancellable) := by
        cases cancellable with
        | false => exact Script.ends_pure _
        | true => exact gated_raiseIfCancelled (token rfl)
      refine check.safe_bind ⟨[], Adds.refl start⟩ ?_ (fun _ _ _ stops => stops)
      rintro _ locals checked ⟨new, adds⟩
      rw [Script.safe_bind]
      refine safe_request trivial (fun outcome _ => ?_) (fun error _ => ?_)
      · have added : Adds start (new ++ [⟨.runCondition condition, .ok outcome⟩])
            (checked ++ [⟨.runCondition condition, .ok outcome⟩]) := adds.concat _ rfl
        rw [Script.safe_bind, Script.safe_refuse]
        refine ⟨fun _ => ⟨_, added, fun _ => nofun⟩, fun passes => ?_⟩
        have passed : outcome.passed = true := by simpa using passes
        rw [Script.safe_bind]
        refine (inductionHypothesis (fun isTrue => added.not_activated (token isTrue)) locals).mono
          ?_ ?_
        · rintro outcomes after final ⟨later, addsLater, others⟩
          refine ⟨_, added.trans addsLater, fun other member => ?_⟩
          rcases List.mem_cons.mp member with rfl | isRest
          · exact ⟨outcome, by simp, passed⟩
          · exact (others other isRest).mono fun event eventMem => List.mem_append_right _ eventMem
        · rintro error after final ⟨later, addsLater, uncancelled⟩
          refine ⟨_, added.trans addsLater, fun isFalse isCancelled => ?_⟩
          rw [raisedIn, List.filterMap_append]
          exact List.mem_append_right _ (uncancelled isFalse isCancelled)
      · exact ⟨_, adds.concat _ rfl, fun _ _ => mem_raisedIn_concat new⟩

theorem gated_extendValidations (token : cancellable = true → ¬ Activated start)
    (conditions : List (MigrationCondition F)) (locals : Locals) :
    (extendValidations cancellable conditions).Safe (Traced AnyAnswer)
      (GateAllows executionId bindingRef owner bundle)
      (fun _ _ after => ∃ new, Adds start new after ∧
        ∀ condition ∈ conditions, Passed condition new)
      (Stops start cancellable) locals start := by
  rw [extendValidations, Script.safe_bind]
  exact (gated_runConditions token conditions locals).mono (fun _ _ _ passed => passed)
    fun _ _ _ stops => stops

/-- Raising where the part began is raising there or further on. -/
theorem Stops.of_adds {middle new : Trace F} (adds : Adds start new middle) {error : Exc}
    {locals : Locals} {trace : Trace F} (stops : Stops middle cancellable error locals trace) :
    Stops start cancellable error locals trace := by
  obtain ⟨later, addsLater, uncancelled⟩ := stops
  refine ⟨_, adds.trans addsLater, fun isFalse isCancelled => ?_⟩
  rw [raisedIn, List.filterMap_append]
  exact List.mem_append_right _ (uncancelled isFalse isCancelled)

/-- The clock is the last call when its reading is used. -/
theorem gated_currentUtc (locals : Locals) :
    (currentUtc : Execution F Utc).Safe (Traced AnyAnswer)
      (GateAllows executionId bindingRef owner bundle)
      (fun instant _ after => ∃ now, after = start ++ [⟨.clock, .ok now⟩] ∧
        ensureUtc "now" now = .ok instant)
      (Stops start cancellable) locals start := by
  rw [currentUtc, Script.safe_bind]
  refine safe_request trivial (fun now _ => ?_) (fun error _ => ?_)
  · cases read : ensureUtc "now" now with
    | ok instant => exact ⟨now, rfl, read⟩
    | error error =>
        exact absorbs_builtin error (raisesBuiltin_ensureUtc "now" now error read) locals _
          ⟨_, (Adds.refl start).concat ⟨.clock, .ok now⟩ rfl⟩
  · exact ⟨_, (Adds.refl start).concat _ rfl, fun _ _ => mem_raisedIn_concat _⟩

/-- The record of an applied step. -/
theorem gated_checkpoint_applied {runId : Str} (applied : AppliedMigrationStep) (locals : Locals) :
    (checkpoint runId bundle .applying (some applied)).Safe (Traced AnyAnswer)
      (GateAllows executionId bindingRef owner bundle)
      (fun _ _ after => ∃ new, Adds start new after ∧
        StepRecorded runId bundle applied.stepId new)
      (Stops start cancellable) locals start := by
  rw [checkpoint, Script.safe_bind, Script.safe_locals, Script.safe_bind]
  refine safe_request trivial (fun now _ => ?_) (fun error _ => ?_)
  · have added : Adds start [⟨.clock, .ok now⟩] (start ++ [⟨.clock, .ok now⟩]) :=
      (Adds.refl start).concat _ rfl
    rw [Script.safe_bind]
    cases made : MigrationCheckpoint.make runId bundle.digest .applying locals.sequence
        (some applied) none now with
    | error error =>
        exact absorbs_builtin error (raisesBuiltin_checkpoint _ _ _ _ _ _ _ error made) locals _
          ⟨_, added⟩
    | ok recorded =>
        obtain ⟨isRun, isBundle, isApplying, -, isStep⟩ := MigrationCheckpoint.make_eq_ok made
        refine safe_request trivial (fun _ _ => ?_) (fun error _ => ?_)
        · exact ⟨_, added.concat _ rfl, recorded, isApplying, isStep, isBundle,
            .inr ⟨isRun, by simp⟩⟩
        · exact ⟨_, added.concat _ rfl, fun _ _ => mem_raisedIn_concat _⟩
  · exact ⟨_, (Adds.refl start).concat _ rfl, fun _ _ => mem_raisedIn_concat _⟩

/-- Every step of the plan is found among the recorded ones, or applied under the lock and
recorded. -/
theorem gated_applySteps {runId : Str} {lock : MigrationLock} {completed : List Str}
    (steps : List CompiledMigrationStep) (inactive : ¬ Activated start)
    (locked : LockedBy owner bundle lock start) (locals : Locals) :
    (applySteps runId bundle lock completed steps).Safe (Traced AnyAnswer)
      (GateAllows executionId bindingRef owner bundle)
      (fun _ _ after => ∃ new, Adds start new after ∧ ∀ step ∈ steps, step.stepId ∈ completed ∨
        StepRecorded runId bundle step.stepId new)
      (Stops start true) locals start := by
  induction steps generalizing start locals with
  | nil => exact ⟨[], Adds.refl start, by simp⟩
  | cons compiled rest inductionHypothesis =>
      refine (gated_raiseIfCancelled inactive).safe_bind ⟨[], Adds.refl start⟩ ?_
        (fun _ _ _ stops => stops)
      rintro _ locals checked ⟨new, adds⟩
      rw [Script.safe_bind]
      refine (gated_currentUtc locals).mono ?_ fun _ _ _ stops => stops.of_adds adds
      rintro instant locals _ ⟨now, rfl, read⟩
      have added := adds.concat ⟨.clock, .ok now⟩ rfl
      obtain ⟨event, acquiredMem, acquired⟩ := locked.acquired
      have relocked : ∀ {more after : Trace F}, Adds start more after →
          LockedBy owner bundle lock after := fun more =>
        ⟨locked.own, event, more.mem acquiredMem, acquired⟩
      rw [Script.safe_bind, Script.safe_refuse]
      refine ⟨fun _ => added.stops, fun unexpired => ?_⟩
      split
      next isCompleted =>
        refine (inductionHypothesis (added.not_activated inactive) (relocked added) locals).mono ?_
          fun _ _ _ stops => stops.of_adds added
        rintro _ after final ⟨later, addsLater, others⟩
        refine ⟨_, added.trans addsLater, fun step member => ?_⟩
        rcases List.mem_cons.mp member with rfl | isRest
        · exact .inl isCompleted
        · exact (others step isRest).imp_right fun recorded =>
            recorded.mono fun _ eventMem => List.mem_append_right _ eventMem
      next =>
        rw [Script.safe_bind]
        refine safe_request ⟨relocked added, checked, now, instant, rfl, read, not_le.mp unexpired⟩
          (fun applied _ => ?_) (fun error _ => ?_)
        · have applies := added.concat ⟨.applyStep lock compiled none, .ok applied⟩ rfl
          rw [Script.safe_bind, Script.safe_refuse]
          refine ⟨fun _ => applies.stops, fun acknowledged => ?_⟩
          rw [Script.safe_bind]
          refine (gated_checkpoint_applied applied locals).mono ?_
            fun _ _ _ stops => stops.of_adds applies
          rintro _ locals recordedTrace ⟨records, addsRecord, recorded⟩
          rw [Script.safe_bind, advance, Script.safe_assign]
          have together := applies.trans addsRecord
          refine (inductionHypothesis (together.not_activated inactive) (relocked together) _).mono
            ?_ fun _ _ _ stops => stops.of_adds together
          rintro _ after final ⟨later, addsLater, others⟩
          refine ⟨_, together.trans addsLater, fun step member => ?_⟩
          rcases List.mem_cons.mp member with rfl | isRest
          · rw [not_not.mp acknowledged] at recorded
            exact .inr (recorded.mono fun _ eventMem => by simp [eventMem])
          · exact (others step isRest).imp_right fun recorded =>
              recorded.mono fun _ eventMem => List.mem_append_right _ eventMem
        · exact (added.concat _ rfl).stops

/-- A verified plan under the lock has passed every check in front of it. -/
theorem gated_acquire {lockDuration : Int} (entry : ∀ event ∈ start, isEntry event = true)
    (locals : Locals) :
    (acquire lockDuration bindingRef bundle owner).Safe (Traced AnyAnswer)
      (GateAllows executionId bindingRef owner bundle)
      (fun result _ after => ∃ new, Adds start new after ∧
        Prepared bindingRef owner bundle result.1 result.2.1 result.2.2 after)
      (Stops start true) locals start := by
  have inactive : ¬ Activated start := not_activated_of_entry entry
  rw [acquire, raiseIfCancelled, Script.safe_bind, Script.safe_bind]
  refine safe_request inactive (fun isCancelled _ => ?_) (fun error _ =>
    ⟨_, (Adds.refl start).concat _ rfl, nofun⟩)
  have looked := (Adds.refl start).concat ⟨.cancelled, .ok isCancelled⟩ rfl
  have stillEntry : ∀ event ∈ start ++ [⟨.cancelled, .ok isCancelled⟩], isEntry event = true := by
    intro event member
    rcases List.mem_append.mp member with earlier | isLast
    · exact entry event earlier
    · rw [List.mem_singleton.mp isLast]
      rfl
  rw [Script.safe_refuse]
  refine ⟨fun _ => ⟨_, looked, nofun⟩, fun _ => ?_⟩
  rw [Script.safe_bind]
  refine safe_request stillEntry (fun state _ => ?_) (fun error _ => ⟨_, looked.concat _ rfl, nofun⟩)
  have inspected := looked.concat ⟨.inspectState bindingRef, .ok state⟩ rfl
  rw [Script.safe_bind, Script.safe_refuse]
  refine ⟨fun _ => ⟨_, inspected, nofun⟩, fun _ => ?_⟩
  rw [Script.safe_bind]
  refine (gated_extendValidations (fun _ => inspected.not_activated inactive) _ locals).mono ?_
    fun _ _ _ stops => stops.of_adds inspected
  rintro _ locals _ ⟨ran, ⟨rfl, ranInactive⟩, passed⟩
  have conditions := inspected.trans ⟨rfl, ranInactive⟩
  rw [Script.safe_bind]
  refine safe_request trivial (fun lock _ => ?_) (fun error _ =>
    ⟨_, conditions.concat _ rfl, nofun⟩)
  have acquired := conditions.concat
    ⟨.acquireLock bindingRef owner bundle.digest lockDuration, .ok lock⟩ rfl
  rw [Script.safe_bind, Script.safe_assign, Script.safe_bind, Script.safe_refuse]
  refine ⟨fun _ => ⟨_, acquired, nofun⟩, fun own => ?_⟩
  rw [Script.safe_bind]
  refine (gated_currentUtc _).mono ?_ fun _ _ _ stops => stops.of_adds acquired
  rintro instant locals _ ⟨now, rfl, -⟩
  have timed := acquired.concat ⟨.clock, .ok now⟩ rfl
  rw [Script.safe_bind, Script.safe_refuse]
  refine ⟨fun _ => ⟨_, timed, nofun⟩, fun _ => ?_⟩
  rw [Script.safe_bind]
  refine safe_request trivial (fun plan _ => ?_) (fun error _ => ⟨_, timed.concat _ rfl, nofun⟩)
  have compiled := timed.concat ⟨.compile bundle, .ok plan⟩ rfl
  rw [Script.safe_bind]
  cases verified : verifyCompiled bundle plan with
  | error error => exact ⟨_, compiled, nofun⟩
  | ok _ =>
      have isOwn : IsOwn owner bundle lock := by
        rw [not_or, not_not, not_not] at own
        exact own
      refine ⟨_, compiled, ?_⟩
      exact {
        inspected := by simp
        preconditions := fun condition member => (passed condition member).mono fun event eventMem =>
          by simp [eventMem]
        locked := ⟨isOwn, ⟨.acquireLock bindingRef owner bundle.digest lockDuration, .ok lock⟩,
          by simp, rfl⟩
        compiled := by simp
        verified := verified }

/-- Behind the gate the postconditions are run without a look at the token. -/
theorem gated_afterActivation {runId : Str} (activation : ActivationResult) (locals : Locals) :
    (do
      extendValidations false bundle.postconditions
      let current ← Script.locals
      let digest ← Script.lift (sha256Digest (validationMaterial current.validations))
      let activatedAt ← request .clock
      Script.lift (CutoverEvidence.make runId bundle activation digest activatedAt) :
      Execution F CutoverEvidence).Safe (Traced AnyAnswer)
      (GateAllows executionId bindingRef owner bundle)
      (fun _ _ after => ∃ new, Adds start new after ∧
        ∀ condition ∈ bundle.postconditions, Passed condition new)
      (Stops start false) locals start := by
  rw [Script.safe_bind]
  have untouched : false = true → ¬ Activated start := nofun
  refine (gated_extendValidations untouched _ locals).mono ?_ fun _ _ _ stops => stops
  rintro _ locals middle ⟨ran, adds, passed⟩
  have digested : Gated executionId bindingRef owner bundle middle false
      (do
        let current ← Script.locals
        let digest ← Script.lift (sha256Digest (validationMaterial current.validations))
        let activatedAt ← request .clock
        Script.lift (CutoverEvidence.make runId bundle activation digest activatedAt)) :=
    Script.ends_bind Script.ends_locals fun _ =>
      Script.ends_bind (part_lift (raisesBuiltin_sha256Digest _) absorbs_builtin) fun _ =>
        Script.ends_bind (part_request (tolerates_of_allowed (fun _ _ => trivial) fun _ => rfl))
          fun _ => part_lift (raisesBuiltin_cutover _ _ _ _ _) absorbs_builtin
  refine (digested locals middle ⟨[], Adds.refl _⟩).mono ?_ fun _ _ _ stops => stops.of_adds adds
  rintro _ _ after ⟨more, addsMore⟩
  refine ⟨_, adds.trans addsMore, fun condition member => ?_⟩
  exact (passed condition member).mono fun _ eventMem => List.mem_append_left _ eventMem

/-- The one `activate`, and what follows it. -/
theorem gated_cutOver {runId : Str} {state : BindingStateEvidence} {lock : MigrationLock}
    {plan : CompiledMigrationPlan} (inactive : ¬ Activated start)
    (prepared : Prepared bindingRef owner bundle state lock plan start)
    (named : ∀ supplied, executionId = some supplied → runId = supplied)
    (recorded : ∀ step ∈ bundle.stepIds, StepRecorded runId bundle step start)
    (validated : ∀ condition ∈ bundle.validations, Passed condition start) (locals : Locals) :
    (cutOver runId bundle state lock).Safe (Traced AnyAnswer)
      (GateAllows executionId bindingRef owner bundle)
      (fun _ _ after => CutOverTo bundle after)
      (fun error _ after => Activated after → Uncancelled error after) locals start := by
  have early : ∀ (error : Exc) (locals : Locals) (trace : Trace F),
      Stops start true error locals trace → Activated trace → Uncancelled error trace := by
    rintro error locals trace ⟨new, adds, -⟩ isActive
    exact absurd isActive (adds.not_activated inactive)
  refine (gated_raiseIfCancelled inactive).safe_bind ⟨[], Adds.refl start⟩ ?_ early
  rintro _ locals checked ⟨new, adds⟩
  rw [Script.safe_bind]
  refine (gated_currentUtc locals).mono ?_ fun error after trace stops =>
    early error after trace (stops.of_adds adds)
  rintro instant locals _ ⟨now, rfl, read⟩
  have timed := adds.concat ⟨.clock, .ok now⟩ rfl
  rw [Script.safe_bind, Script.safe_refuse]
  refine ⟨fun _ isActive => absurd isActive (timed.not_activated inactive), fun unexpired => ?_⟩
  have gate : MayActivate executionId bindingRef owner bundle (checked ++ [⟨.clock, .ok now⟩]) lock
      bundle state.activeGeneration :=
    { first := timed.not_activated inactive
      target_eq := rfl
      unexpired := ⟨checked, now, instant, rfl, read, not_le.mp unexpired⟩
      prepared := ⟨state, plan, prepared.mono fun _ => timed.mem,
        stepIds_of_verifyCompiled prepared.verified, rfl⟩
      recorded := ⟨runId, named, fun step member => (recorded step member).mono fun _ => timed.mem⟩
      validations := fun condition member => (validated condition member).mono fun _ => timed.mem }
  rw [Script.safe_bind]
  refine safe_request gate (fun activation _ => ?_) (fun error _ _ _ => mem_raisedIn_concat _)
  rw [Script.safe_bind, Script.safe_refuse]
  refine ⟨fun _ _ => nofun, fun matching => ?_⟩
  refine (gated_afterActivation activation locals).mono ?_ ?_
  · rintro _ _ _ ⟨ran, ⟨rfl, -⟩, passed⟩
    refine ⟨checked ++ [⟨.clock, .ok now⟩], lock, state.activeGeneration, activation, ran, ?_,
      not_not.mp matching, passed⟩
    rw [List.append_assoc _ [_] ran]
    rfl
  · rintro error _ _ ⟨ran, ⟨rfl, -⟩, uncancelled⟩ _ isCancelled
    rw [raisedIn, List.filterMap_append]
    exact List.mem_append_right _ (uncancelled rfl isCancelled)

theorem CutOverTo.append {trace : Trace F} (cut : CutOverTo bundle trace) (new : Trace F) :
    CutOverTo bundle (trace ++ new) := by
  obtain ⟨before, lock, generation, activation, after, rfl, matching, passed⟩ := cut
  refine ⟨before, lock, generation, activation, after ++ new, by simp, matching, ?_⟩
  intro condition member
  exact (passed condition member).mono fun _ eventMem => List.mem_append_left _ eventMem

theorem Uncancelled.append {error : Exc} {trace : Trace F} (uncancelled : Uncancelled error trace)
    (new : Trace F) : Uncancelled error (trace ++ new) := by
  intro isCancelled
  rw [raisedIn, List.filterMap_append]
  exact List.mem_append_left _ (uncancelled isCancelled)

/-- What is raised behind the gate. -/
theorem Stops.uncancelled {error : Exc} {locals : Locals} {trace : Trace F}
    (stops : Stops start false error locals trace) : Uncancelled error trace := by
  obtain ⟨new, ⟨rfl, -⟩, uncancelled⟩ := stops
  intro isCancelled
  rw [raisedIn, List.filterMap_append]
  exact List.mem_append_right _ (uncancelled rfl isCancelled)

/-- The recorded steps have APPLYING checkpoints in the log that was read. -/
theorem stepRecorded_of_completed {runId step : Str} {existing : List MigrationCheckpoint}
    (read : (⟨.checkpoints runId, .ok existing⟩ : Event (Hook F) Hook.Response) ∈ start)
    (sameBundle : ∀ item ∈ existing, item.bundleDigest = bundle.digest)
    (completed : step ∈ completedSteps existing) : StepRecorded runId bundle step start := by
  obtain ⟨item, member, isStep⟩ := List.mem_filterMap.mp completed
  split at isStep
  next isApplying =>
    exact ⟨item, isApplying, isStep, sameBundle item member, .inl ⟨existing, read, member⟩⟩
  next => cases isStep

/-- The body of an execution passes through the gate. -/
theorem gated_migrate {lockDuration : Int} {runId : Str} {existing : List MigrationCheckpoint}
    (entry : ∀ event ∈ start, isEntry event = true)
    (named : ∀ supplied, executionId = some supplied → runId = supplied)
    (read : (⟨.checkpoints runId, .ok existing⟩ : Event (Hook F) Hook.Response) ∈ start)
    (sameBundle : ∀ item ∈ existing, item.bundleDigest = bundle.digest) (locals : Locals) :
    (migrate lockDuration bindingRef bundle owner runId (completedSteps existing)).Safe
      (Traced AnyAnswer) (GateAllows executionId bindingRef owner bundle)
      (fun _ _ after => CutOverTo bundle after)
      (fun error _ after => Activated after → Uncancelled error after) locals start := by
  have inactive : ¬ Activated start := not_activated_of_entry entry
  have early : ∀ (error : Exc) (locals : Locals) (trace : Trace F),
      Stops start true error locals trace → Activated trace → Uncancelled error trace := by
    rintro error locals trace ⟨new, adds, -⟩ isActive
    exact absurd isActive (adds.not_activated inactive)
  rw [migrate, Script.safe_bind]
  refine (gated_acquire entry locals).mono ?_ early
  rintro ⟨state, lock, plan⟩ locals prepared ⟨new, adds, isPrepared⟩
  have before : ∀ {middle more : Trace F}, Adds start more middle → ∀ (error : Exc)
      (locals : Locals) (trace : Trace F), Stops middle true error locals trace →
      Activated trace → Uncancelled error trace := fun more error locals trace stops =>
    early error locals trace (stops.of_adds more)
  refine gated_checkpoint.safe_bind ⟨[], Adds.refl prepared⟩ (fun _ locals trace goes => ?_)
    (before adds)
  refine gated_advance.safe_bind goes (fun _ locals trace goes => ?_) (before adds)
  refine gated_recordEvidence.safe_bind goes (fun _ locals planned goes => ?_) (before adds)
  obtain ⟨planNew, addsPlan⟩ := goes
  have toPlanned := adds.trans addsPlan
  have isPlanned := isPrepared.mono fun _ => addsPlan.mem
  rw [Script.safe_bind]
  refine (gated_applySteps plan.steps (toPlanned.not_activated inactive) isPlanned.locked
    locals).mono ?_ (before toPlanned)
  rintro _ locals applied ⟨applyNew, addsApply, steps⟩
  have toApplied := toPlanned.trans addsApply
  refine gated_checkpoint.safe_bind ⟨[], Adds.refl applied⟩ (fun _ locals trace goes => ?_)
    (before toApplied)
  refine gated_advance.safe_bind goes (fun _ locals validating goes => ?_) (before toApplied)
  obtain ⟨validateNew, addsValidate⟩ := goes
  have toValidating := toApplied.trans addsValidate
  rw [Script.safe_bind]
  have unlooked : true = true → ¬ Activated validating := fun _ => toValidating.not_activated inactive
  refine (gated_extendValidations unlooked bundle.validations locals).mono ?_ (before toValidating)
  rintro _ locals validated ⟨ranNew, addsRan, passed⟩
  have toValidated := toValidating.trans addsRan
  refine gated_checkpoint.safe_bind ⟨[], Adds.refl validated⟩ (fun _ locals trace goes => ?_)
    (before toValidated)
  refine gated_advance.safe_bind goes (fun _ locals activating goes => ?_) (before toValidated)
  obtain ⟨activateNew, addsActivate⟩ := goes
  have fromApplied := addsValidate.trans (addsRan.trans addsActivate)
  have recorded : ∀ step ∈ bundle.stepIds, StepRecorded runId bundle step activating := by
    intro step member
    rw [← stepIds_of_verifyCompiled isPrepared.verified] at member
    obtain ⟨compiled, compiledMem, rfl⟩ := List.mem_map.mp member
    rcases steps compiled compiledMem with completed | isRecorded
    · exact (stepRecorded_of_completed read sameBundle completed).mono fun _ eventMem =>
        fromApplied.mem (toApplied.mem eventMem)
    · refine isRecorded.mono fun _ eventMem => fromApplied.mem ?_
      rw [addsApply.append_eq]
      exact List.mem_append_right _ eventMem
  have validatedNow : ∀ condition ∈ bundle.validations, Passed condition activating := by
    intro condition member
    refine (passed condition member).mono fun _ eventMem => addsActivate.mem ?_
    rw [addsRan.append_eq]
    exact List.mem_append_right _ eventMem
  rw [Script.safe_bind]
  refine (gated_cutOver ((toValidated.trans addsActivate).not_activated inactive)
    (isPlanned.mono fun _ eventMem => fromApplied.mem (addsApply.mem eventMem)) named recorded
    validatedNow locals).mono ?_ fun _ _ _ uncancelled => uncancelled
  intro cutover locals activated cut
  have ending : Gated executionId bindingRef owner bundle activated false (do
      checkpoint runId bundle .completed
      recordEvidence bindingRef .completed cutover.toMapping
      let checkpoints ← request (.checkpoints runId)
      let final ← Script.locals
      pure (⟨runId, .completed, bundle.digest, checkpoints, final.validations, some cutover⟩ :
        MigrationReport)) :=
    Script.ends_bind gated_checkpoint fun _ => Script.ends_bind gated_recordEvidence fun _ =>
      Script.ends_bind (part_request (tolerates_of_allowed (fun _ _ => trivial) fun _ => rfl)) fun _ =>
        Script.ends_bind Script.ends_locals fun _ => Script.ends_pure _
  refine (ending locals activated ⟨[], Adds.refl _⟩).mono ?_ fun _ _ _ stops _ => stops.uncancelled
  rintro _ _ _ ⟨more, rfl, -⟩
  exact cut.append more

/-- The handler leaves a cancellation as it is, and raises none of its own. -/
theorem gated_recordFailure {runId : Str} {error : Exc}
    (uncancelled : Activated start → Uncancelled error start) (locals : Locals) :
    (recordFailure bindingRef bundle runId error).Safe (Traced AnyAnswer)
      (GateAllows executionId bindingRef owner bundle) (fun _ _ _ => False)
      (fun error _ after => Activated after → Uncancelled error after) locals start := by
  have again : ∀ {new after : Trace F}, Adds start new after → Activated after →
      Uncancelled error after := by
    rintro new _ ⟨rfl, inactive⟩ ⟨event, member, isActive⟩
    rcases List.mem_append.mp member with earlier | isNew
    · exact (uncancelled ⟨event, earlier, isActive⟩).append new
    · rw [inactive event isNew] at isActive
      cases isActive
  have late : ∀ (error : Exc) (locals : Locals) (trace : Trace F),
      Stops start false error locals trace → Activated trace → Uncancelled error trace :=
    fun _ _ _ stops _ => stops.uncancelled
  unfold recordFailure
  split
  · refine gated_checkpoint.safe_bind ⟨[], Adds.refl start⟩ (fun _ locals trace goes => ?_) late
    refine gated_recordEvidence.safe_bind goes (fun _ locals trace goes => ?_) late
    obtain ⟨new, adds⟩ := goes
    exact again adds
  · exact uncancelled

theorem gated_releaseHeldLock {after : Trace F → Prop}
    (kept : ∀ event : Event (Hook F) Hook.Response, after (start ++ [event])) (stays : after start)
    (locals : Locals) :
    (releaseHeldLock : Execution F Unit).Safe (Traced AnyAnswer)
      (GateAllows executionId bindingRef owner bundle) (fun _ _ => after)
      (fun error _ trace => Uncancelled error trace) locals start := by
  exact safe_releaseHeldLock (fun _ => stays) (fun _ _ => trivial) (fun _ _ => kept _)
    fun _ _ _ _ _ => mem_raisedIn_concat _

end Parts

/-- In every execution, whatever the hooks answer: steps are applied and the migration is
activated only under an unexpired lock of the call; it is activated at most once, with the
generation inspected at the start, after the plan was verified, every step recorded and every
precondition and validation passed; after that the token is not looked at and a cancellation
comes only from a call that raised it; and a call that returns has activated the target of the
bundle and passed every postcondition afterwards. -/
theorem activation_gate (lockDuration : Int) (bindingRef : Str) (bundle : MigrationBundleV1 F)
    (owner : Str) (executionId : Option Str) :
    (execute lockDuration bindingRef bundle owner executionId).Safe (Traced AnyAnswer)
      (GateAllows executionId bindingRef owner bundle)
      (fun _ _ trace => CutOverTo bundle trace)
      (fun error _ trace => Activated trace → Uncancelled error trace) {} [] := by
  have concat : ∀ {trace : Trace F} {event : Event (Hook F) Hook.Response},
      (∀ event ∈ trace, isEntry event = true) → isEntry event = true →
      ∀ other ∈ trace ++ [event], isEntry other = true := by
    intro trace event entry isEntry other member
    rcases List.mem_append.mp member with earlier | isLast
    · exact entry other earlier
    · rw [List.mem_singleton.mp isLast]
      exact isEntry
  rw [execute, Script.safe_bind, Script.safe_refuse]
  refine ⟨fun _ isActive => absurd isActive (not_activated_of_entry (by simp)), fun _ => ?_⟩
  rw [Script.safe_bind, Script.safe_refuse]
  refine ⟨fun _ isActive => absurd isActive (not_activated_of_entry (by simp)), fun _ => ?_⟩
  have chosen : (chooseRunId executionId : Execution F Str).Safe (Traced AnyAnswer)
      (GateAllows executionId bindingRef owner bundle)
      (fun runId _ trace => (∀ event ∈ trace, isEntry event = true) ∧
        ∀ supplied, executionId = some supplied → runId = supplied)
      (fun error _ trace => Activated trace → Uncancelled error trace) {} [] := by
    cases executionId with
    | some supplied => exact ⟨by simp, fun other same => Option.some.inj same⟩
    | none =>
        rw [chooseRunId, Script.safe_bind]
        refine safe_request trivial (fun identifier _ => ?_) (fun error _ isActive => ?_)
        · exact ⟨concat (by simp) rfl, nofun⟩
        · exact absurd isActive (not_activated_of_entry (concat (by simp) rfl))
  rw [Script.safe_bind]
  refine chosen.mono ?_ fun _ _ _ uncancelled => uncancelled
  rintro runId locals named ⟨entry, supplied⟩
  rw [executeAs, Script.safe_bind]
  refine safe_request trivial (fun existing _ => ?_) (fun error _ isActive =>
    absurd isActive (not_activated_of_entry (concat entry rfl)))
  have entry : ∀ event ∈ named ++ [(⟨.checkpoints runId, .ok existing⟩ :
      Event (Hook F) Hook.Response)], isEntry event = true := concat entry rfl
  rw [Script.safe_bind, Script.safe_refuse]
  refine ⟨fun _ isActive => absurd isActive (not_activated_of_entry entry), fun sameBundle => ?_⟩
  rw [Script.safe_bind, Script.safe_refuse]
  refine ⟨fun _ isActive => absurd isActive (not_activated_of_entry entry), fun _ => ?_⟩
  have digests : ∀ item ∈ existing, item.bundleDigest = bundle.digest := by
    intro item member
    by_contra other
    exact sameBundle (List.any_eq_true.mpr ⟨item, member, decide_eq_true other⟩)
  rw [Script.safe_bind, Script.safe_assign, Script.safe_tryFinally, Script.safe_tryExcept]
  have raising : ∀ (error : Exc) (locals : Locals) (trace : Trace F),
      (Activated trace → Uncancelled error trace) →
      (releaseHeldLock : Execution F Unit).Safe (Traced AnyAnswer)
        (GateAllows executionId bindingRef owner bundle)
        (fun _ _ after => Activated after → Uncancelled error after)
        (fun error _ after => Activated after → Uncancelled error after) locals trace := by
    intro error locals trace uncancelled
    refine safe_releaseHeldLock (fun _ => uncancelled) (fun _ _ => trivial)
      (fun _ _ isActive => (uncancelled ?_).append _) fun _ _ _ _ _ _ => mem_raisedIn_concat _
    obtain ⟨event, member, isActivate⟩ := isActive
    rcases List.mem_append.mp member with earlier | isRelease
    · exact ⟨event, earlier, isActivate⟩
    · rw [List.mem_singleton.mp isRelease] at isActivate
      cases isActivate
  refine (gated_migrate entry supplied (by simp) digests _).mono ?_ ?_
  · intro report locals trace cut
    exact (gated_releaseHeldLock (fun event => cut.append [event]) cut locals).mono
      (fun _ _ _ kept => kept) fun _ _ _ uncancelled _ => uncancelled
  · intro error locals trace uncancelled
    exact (gated_recordFailure uncancelled locals).mono (fun _ _ _ never => never.elim) raising

end DataLifecycle.Migration
