import DataLifecycle.Migration.Phases

/-!
# Executions follow their phases

One lemma per part of `execute`, each with one postcondition for its value and
one for exceptions, then the whole.
-/

namespace DataLifecycle.Migration

open Python Interaction

variable {F : Type} [FloatText F]

/-- A part of an execution makes only the calls of its phases. -/
abbrev FollowsFrom (executionId : Option Str) (bundle : MigrationBundleV1 F) {α : Type}
    (normal : α → Locals → Phase → Prop) (exceptional : Exc → Locals → Phase → Prop)
    (part : Execution F α) (locals : Locals) (phase : Phase) : Prop :=
  part.Safe (fun before hook response after => after = Phase.next bundle before hook response)
    (Phase.Allows executionId bundle) normal exceptional locals phase

/-- The phases in which an exception may be raised inside the guarded body, with
the variables that its handlers read. -/
structure Failing (locals : Locals) (phase : Phase) : Prop where
  failure_eq : phase.failure = some locals.sequence
  held_iff : phase.held = locals.lock.isSome

/-- The phases in which the cleanup may start. -/
structure Closing (locals : Locals) (phase : Phase) : Prop where
  calm : phase.calm = true
  held_iff : phase.held = locals.lock.isSome

theorem Phase.calm_of_failure {phase : Phase} {sequence : Nat}
    (failure : phase.failure = some sequence) : phase.calm = true := by
  cases phase <;> first | rfl | cases failure

theorem Phase.inFlight_of_calm {phase : Phase} (calm : phase.calm = true) :
    phase.inFlight = none := by
  cases phase <;> first | rfl | cases calm

theorem Phase.ne_failed_of_due {phase : Phase} {state : MigrationState} {sequence : Nat}
    {step : Option Str} (isDue : phase.due = some (state, sequence, step)) : state ≠ .failed := by
  rintro rfl
  cases phase with
  | applying sequence todo => cases todo <;> cases isDue
  | _ => cases isDue

theorem Failing.calm {locals : Locals} {phase : Phase} (failing : Failing locals phase) :
    phase.calm = true :=
  Phase.calm_of_failure failing.failure_eq

theorem Failing.closing {locals : Locals} {phase : Phase} (failing : Failing locals phase) :
    Closing locals phase :=
  ⟨failing.calm, failing.held_iff⟩

/-- A call that neither touches the log nor the lock nor the binding. -/
def Hook.isNeutral : Hook F → Bool
  | .cancelled => true
  | .clock => true
  | .inspectState _ => true
  | .runCondition _ => true
  | .compile _ => true
  | .record _ => true
  | _ => false

section Parts

variable {executionId : Option Str} {bundle : MigrationBundleV1 F} {α : Type} {locals : Locals}
  {phase : Phase} {exceptional : Exc → Locals → Phase → Prop}

theorem follows_bind {β : Type} {normal : α → Locals → Phase → Prop} {part : Execution F β}
    {rest : β → Execution F α}
    (first : FollowsFrom executionId bundle
      (fun value => FollowsFrom executionId bundle normal exceptional (rest value)) exceptional part
      locals phase) :
    FollowsFrom executionId bundle normal exceptional (part >>= rest) locals phase :=
  Script.safe_bind.mpr first

theorem follows_refuse {normal : Unit → Locals → Phase → Prop} {condition : Prop}
    [Decidable condition] {error : Exc} (onValue : ¬ condition → normal () locals phase)
    (onError : condition → exceptional error locals phase) :
    FollowsFrom executionId bundle normal exceptional (Script.refuse condition error) locals
      phase :=
  Script.safe_refuse.mpr ⟨onError, onValue⟩

theorem follows_request (hook : Hook F) {normal : hook.Answer → Locals → Phase → Prop}
    (allowed : phase.Allows executionId bundle hook)
    (onValue : ∀ value, normal value locals (phase.next bundle hook (.ok value)))
    (onError : ∀ error, exceptional error locals (phase.next bundle hook (.error error))) :
    FollowsFrom executionId bundle normal exceptional (request hook) locals phase := by
  rw [FollowsFrom, request, Script.safe_invoke]
  refine ⟨allowed, ?_⟩
  rintro response after rfl
  cases response with
  | ok value => exact onValue value
  | error error => exact onError error

theorem Phase.next_of_neutral {hook : Hook F} (neutral : hook.isNeutral = true)
    (calm : phase.calm = true) (response : hook.Response) :
    phase.next bundle hook response = phase := by
  cases hook with
  | clock => cases phase <;> first | rfl | cases calm
  | _ => first | rfl | cases neutral

theorem follows_neutral {hook : Hook F} {normal : hook.Answer → Locals → Phase → Prop}
    (neutral : hook.isNeutral = true) (calm : phase.calm = true)
    (onValue : ∀ value, normal value locals phase)
    (onError : ∀ error, exceptional error locals phase) :
    FollowsFrom executionId bundle normal exceptional (request hook) locals phase := by
  apply follows_request _
  · cases hook with
    | clock => exact .inl calm
    | cancelled => exact calm
    | inspectState => exact calm
    | runCondition => exact calm
    | compile => exact calm
    | record => exact calm
    | _ => cases neutral
  · intro value
    rw [Phase.next_of_neutral neutral calm]
    exact onValue value
  · intro error
    rw [Phase.next_of_neutral neutral calm]
    exact onError error

theorem follows_lift {normal : α → Locals → Phase → Prop} {result : Except Exc α}
    (onValue : ∀ value, result = .ok value → normal value locals phase)
    (onError : ∀ error, result = .error error → exceptional error locals phase) :
    FollowsFrom executionId bundle normal exceptional (Script.lift result) locals phase := by
  cases result with
  | ok value => exact onValue value rfl
  | error error => exact onError error rfl

theorem follows_raiseIfCancelled {normal : Unit → Locals → Phase → Prop}
    (calm : phase.calm = true) (onValue : normal () locals phase)
    (onError : ∀ error, exceptional error locals phase) :
    FollowsFrom executionId bundle normal exceptional raiseIfCancelled locals phase := by
  apply follows_bind
  apply follows_neutral rfl calm
  · intro isCancelled
    exact follows_refuse (fun _ => onValue) (fun _ => onError _)
  · exact onError

theorem follows_currentUtc {normal : Utc → Locals → Phase → Prop}
    (calm : phase.calm = true) (onValue : ∀ now, normal now locals phase)
    (onError : ∀ error, exceptional error locals phase) :
    FollowsFrom executionId bundle normal exceptional currentUtc locals phase := by
  apply follows_bind
  apply follows_neutral rfl calm
  · intro now
    exact follows_lift (fun instant _ => onValue instant) (fun error _ => onError error)
  · exact onError

theorem follows_recordEvidence {normal : Unit → Locals → Phase → Prop} {bindingRef : Str}
    {state : MigrationState} {details : List (Str × Json F)}
    (calm : phase.calm = true) (onValue : normal () locals phase)
    (onError : ∀ error, exceptional error locals phase) :
    FollowsFrom executionId bundle normal exceptional (recordEvidence bindingRef state details)
      locals phase := by
  apply follows_bind
  apply follows_neutral rfl calm
  · intro now
    apply follows_bind
    apply follows_lift
    · intro evidence _
      exact follows_neutral rfl calm (fun _ => onValue) onError
    · intro error _
      exact onError error
  · exact onError

theorem follows_checkToken {normal : Unit → Locals → Phase → Prop} {cancellable : Bool}
    (calm : phase.calm = true) (onValue : normal () locals phase)
    (onError : ∀ error, exceptional error locals phase) :
    FollowsFrom executionId bundle normal exceptional (checkToken cancellable) locals phase := by
  cases cancellable with
  | true => exact follows_raiseIfCancelled calm onValue onError
  | false => exact onValue

theorem follows_runConditions {normal : List ValidationOutcome → Locals → Phase → Prop}
    {cancellable : Bool} (conditions : List (MigrationCondition F)) (calm : phase.calm = true)
    (onValue : ∀ outcomes, normal outcomes locals phase)
    (onError : ∀ error, exceptional error locals phase) :
    FollowsFrom executionId bundle normal exceptional (runConditions cancellable conditions)
      locals phase := by
  induction conditions generalizing normal with
  | nil => exact onValue []
  | cons condition rest ih =>
      apply follows_bind
      apply follows_checkToken calm
      · apply follows_bind
        apply follows_neutral rfl calm
        · intro outcome
          apply follows_bind
          apply follows_refuse
          · intro _
            apply follows_bind
            exact ih fun outcomes => onValue (outcome :: outcomes)
          · exact fun _ => onError _
        · exact onError
      · exact onError

theorem follows_extendValidations {normal : Unit → Locals → Phase → Prop} {cancellable : Bool}
    (conditions : List (MigrationCondition F)) (calm : phase.calm = true)
    (onValue : ∀ outcomes, normal () { locals with validations := outcomes } phase)
    (onError : ∀ error, exceptional error locals phase) :
    FollowsFrom executionId bundle normal exceptional (extendValidations cancellable conditions)
      locals phase := by
  apply follows_bind
  exact follows_runConditions conditions calm (fun outcomes => onValue _) onError

/-- A checkpoint hands the recorder a value with the current sequence. -/
theorem follows_checkpoint {normal : Unit → Locals → Phase → Prop} {runId : Str}
    {state : MigrationState} {step : Option AppliedMigrationStep} {failureCode : Option Str}
    (runIdEq : ∀ supplied, executionId = some supplied → runId = supplied)
    (calm : phase.calm = true)
    (may : ∀ made, Writes executionId bundle state locals.sequence (step.map (·.stepId)) made →
      phase.MayAppend executionId bundle made)
    (onValue : ∀ made : MigrationCheckpoint, made.state = state →
      normal () locals (phase.afterAppend bundle made true))
    (onReject : ∀ error, ∀ made : MigrationCheckpoint, made.state = state →
      exceptional error locals (phase.afterAppend bundle made false))
    (onError : ∀ error, exceptional error locals phase) :
    FollowsFrom executionId bundle normal exceptional
      (checkpoint runId bundle state step failureCode) locals phase := by
  apply follows_bind
  rw [FollowsFrom, Script.safe_locals]
  apply follows_bind
  apply follows_neutral rfl calm
  · intro now
    apply follows_bind
    apply follows_lift
    · intro made makes
      obtain ⟨idEq, digestEq, stateEq, sequenceEq, stepEq⟩ := MigrationCheckpoint.make_eq_ok makes
      apply follows_request (.append made)
      · exact may made ⟨fun supplied given => idEq.trans (runIdEq supplied given), digestEq, stateEq,
          sequenceEq, stepEq⟩
      · intro _
        exact onValue made stateEq
      · intro error
        exact onReject error made stateEq
    · intro error _
      exact onError error
  · exact onError

/-- An applied step is recorded, or the execution is on its way to the handler. -/
theorem follows_checkpoint_applied {normal : Unit → Locals → Phase → Prop} {runId : Str}
    {applied : AppliedMigrationStep} {todo : List Str}
    (runIdEq : ∀ supplied, executionId = some supplied → runId = supplied) (runIdNe : runId ≠ [])
    (onValue : normal () locals (.applying (locals.sequence + 1) todo))
    (onError : ∀ error, exceptional error locals (.aborting locals.sequence)) :
    FollowsFrom executionId bundle normal exceptional
      (checkpoint runId bundle .applying (some applied)) locals
      (.applied locals.sequence applied.stepId todo) := by
  apply follows_bind
  rw [FollowsFrom, Script.safe_locals]
  apply follows_bind
  apply follows_request .clock
  · exact .inr ⟨_, _, _, rfl⟩
  · intro now
    have valid := isSha256_of_sha256Digest bundle.digest_eq
    have sameSuccess : (MigrationCheckpoint.make runId bundle.digest .applying locals.sequence
        (some applied) none now).isOk = (ensureUtc "recorded_at" now).isOk :=
      MigrationCheckpoint.isOk_make runIdNe valid
    apply follows_bind
    apply follows_lift
    · intro made makes
      obtain ⟨idEq, digestEq, stateEq, sequenceEq, stepEq⟩ := MigrationCheckpoint.make_eq_ok makes
      rw [makes] at sameSuccess
      have recording : Phase.next bundle (.applied locals.sequence applied.stepId todo)
          (.clock : Hook F) (.ok now) = .recording locals.sequence applied.stepId todo := by
        simp only [Phase.next, Except.bind, ← sameSuccess]
        rfl
      rw [recording]
      have notFailed : ¬ made.state = .failed := by simp [stateEq]
      apply follows_request (.append made)
      · exact .due rfl ⟨fun supplied given => idEq.trans (runIdEq supplied given), digestEq, stateEq,
          sequenceEq, stepEq⟩
      · intro _
        simp only [Phase.next, Phase.afterAppend, notFailed, if_false]
        exact onValue
      · intro error
        simp only [Phase.next, Phase.afterAppend, notFailed, if_false]
        exact onError error
    · intro error makes
      rw [makes] at sameSuccess
      have aborting : Phase.next bundle (.applied locals.sequence applied.stepId todo)
          (.clock : Hook F) (.ok now) = .aborting locals.sequence := by
        simp only [Phase.next, Except.bind, ← sameSuccess]
        rfl
      rw [aborting]
      exact onError error
  · exact onError

/-- The checkpoint that is due, or a failure with the current sequence. -/
theorem follows_checkpoint_due {normal : Unit → Locals → Phase → Prop} {runId : Str}
    {state : MigrationState}
    (runIdEq : ∀ supplied, executionId = some supplied → runId = supplied)
    (failing : Failing locals phase) (heldPhase : phase.held = true)
    (isDue : phase.due = some (state, locals.sequence, none)) (notFailed : state ≠ .failed)
    (onValue : normal () locals (phase.afterDue bundle)) :
    FollowsFrom executionId bundle normal (fun _ => Failing) (checkpoint runId bundle state) locals
      phase := by
  apply follows_checkpoint runIdEq failing.calm
  · intro made writes
    exact .due isDue writes
  · intro made stateEq
    rw [Phase.afterAppend, if_neg (stateEq ▸ notFailed), isDue]
    exact onValue
  · intro error made stateEq
    rw [Phase.afterAppend, if_neg (stateEq ▸ notFailed), isDue]
    exact ⟨rfl, by rw [← failing.held_iff, heldPhase]; rfl⟩
  · exact fun _ => failing

theorem follows_acquire {normal : BindingStateEvidence × MigrationLock × CompiledMigrationPlan →
      Locals → Phase → Prop} {lockDuration : Int} {bindingRef owner : Str} {done : List Str}
    (unlocked : locals.lock = none)
    (onValue : ∀ state lock plan outcomes, plan.steps.map (·.stepId) = bundle.stepIds →
      normal (state, lock, plan) ⟨locals.sequence, some lock, outcomes⟩
        (.locked locals.sequence done)) :
    FollowsFrom executionId bundle normal (fun _ => Failing)
      (acquire lockDuration bindingRef bundle owner) locals (.unlocked locals.sequence done) := by
  have failing : ∀ outcomes, Failing ⟨locals.sequence, none, outcomes⟩
      (.unlocked locals.sequence done) := fun outcomes => ⟨rfl, rfl⟩
  have holding : ∀ lock outcomes, Failing ⟨locals.sequence, some lock, outcomes⟩
      (.locked locals.sequence done) := fun lock outcomes => ⟨rfl, rfl⟩
  obtain ⟨sequence, lock, validations⟩ := locals
  cases unlocked
  apply follows_bind
  apply follows_raiseIfCancelled rfl
  · apply follows_bind
    apply follows_neutral rfl rfl
    · intro state
      apply follows_bind
      apply follows_refuse
      · intro _
        apply follows_bind
        apply follows_extendValidations _ rfl
        · intro outcomes
          apply follows_bind
          apply follows_request _
          · exact ⟨_, _, rfl⟩
          · intro lock
            apply follows_bind
            rw [FollowsFrom, Script.safe_assign]
            apply follows_bind
            apply follows_refuse
            · intro _
              apply follows_bind
              apply follows_currentUtc rfl
              · intro now
                apply follows_bind
                apply follows_refuse
                · intro _
                  apply follows_bind
                  apply follows_neutral rfl rfl
                  · intro plan
                    apply follows_bind
                    apply follows_lift
                    · intro _ verified
                      apply onValue state lock plan
                      unfold verifyCompiled at verified
                      split at verified
                      · cases verified
                      · split at verified
                        · cases verified
                        · exact not_not.mp ‹_›
                    · exact fun _ _ => holding lock outcomes
                  · exact fun _ => holding lock outcomes
                · exact fun _ => holding lock outcomes
              · exact fun _ => holding lock outcomes
            · exact fun _ => holding lock outcomes
          · exact fun _ => failing outcomes
        · exact fun _ => failing validations
      · exact fun _ => failing validations
    · exact fun _ => failing validations
  · exact fun _ => failing validations

theorem follows_applySteps {normal : Unit → Locals → Phase → Prop} {runId : Str}
    {lock : MigrationLock} {completed : List Str} (steps : List CompiledMigrationStep)
    (runIdEq : ∀ supplied, executionId = some supplied → runId = supplied) (runIdNe : runId ≠ [])
    (locked : locals.lock.isSome = true)
    (onValue : ∀ sequence, normal () { locals with sequence := sequence } (.applying sequence [])) :
    FollowsFrom executionId bundle normal (fun _ => Failing)
      (applySteps runId bundle lock completed steps) locals
      (.applying locals.sequence
        ((steps.map (·.stepId)).filter fun step => step ∉ completed)) := by
  induction steps generalizing locals with
  | nil => exact onValue locals.sequence
  | cons compiled rest ih =>
      have failing : ∀ todo, Failing locals (.applying locals.sequence todo) :=
        fun todo => ⟨rfl, locked.symm⟩
      have aborting : Failing locals (.aborting locals.sequence) := ⟨rfl, locked.symm⟩
      apply follows_bind
      apply follows_raiseIfCancelled rfl
      · apply follows_bind
        apply follows_currentUtc rfl
        · intro now
          apply follows_bind
          apply follows_refuse
          · intro _
            by_cases recorded : compiled.stepId ∈ completed
            · simp only [recorded, if_true, List.map_cons, List.filter_cons, not_true_eq_false,
                decide_false, Bool.false_eq_true, if_false]
              exact ih locked onValue
            · simp only [recorded, if_false, List.map_cons, List.filter_cons, not_false_eq_true,
                decide_true, if_true]
              apply follows_bind
              apply follows_request (.applyStep lock compiled none)
              · rfl
              · intro applied
                apply follows_bind
                by_cases acknowledged : applied.stepId = compiled.stepId
                · simp only [Phase.next, Except.toOption, Option.map_some, acknowledged,
                    Phase.afterApply, if_true]
                  apply follows_refuse
                  · intro _
                    apply follows_bind
                    rw [← acknowledged]
                    apply follows_checkpoint_applied runIdEq runIdNe
                    · apply follows_bind
                      change FollowsFrom executionId bundle normal (fun _ => Failing)
                        (applySteps runId bundle lock completed rest)
                        { locals with sequence := locals.sequence + 1 } _
                      exact ih locked onValue
                    · exact fun _ => aborting
                  · exact fun wrong => absurd acknowledged wrong
                · simp only [Phase.next, Except.toOption, Option.map_some, Option.some.injEq,
                    acknowledged, Phase.afterApply, if_false]
                  apply follows_refuse
                  · intro accepted
                    exact absurd acknowledged (not_not.mpr (not_not.mp accepted))
                  · exact fun _ => aborting
              · exact fun _ => aborting
          · exact fun _ => failing _
        · exact fun _ => failing _
      · exact fun _ => failing _

theorem follows_cutOver {normal : CutoverEvidence → Locals → Phase → Prop} {runId : Str}
    {state : BindingStateEvidence} {lock : MigrationLock} (locked : locals.lock.isSome = true)
    (onValue : ∀ cutover outcomes, normal cutover { locals with validations := outcomes }
      (.activated locals.sequence)) :
    FollowsFrom executionId bundle normal (fun _ => Failing) (cutOver runId bundle state lock) locals
      (.activating locals.sequence) := by
  have activating : Failing locals (.activating locals.sequence) := ⟨rfl, locked.symm⟩
  have aborting : Failing locals (.aborting locals.sequence) := ⟨rfl, locked.symm⟩
  have activated : ∀ outcomes, Failing { locals with validations := outcomes }
      (.activated locals.sequence) := fun outcomes => ⟨rfl, locked.symm⟩
  apply follows_bind
  apply follows_raiseIfCancelled rfl
  · apply follows_bind
    apply follows_currentUtc rfl
    · intro now
      apply follows_bind
      apply follows_refuse
      · intro _
        apply follows_bind
        apply follows_request _
        · exact ⟨rfl, _, rfl⟩
        · intro activation
          apply follows_bind
          apply follows_refuse
          · intro _
            apply follows_bind
            apply follows_extendValidations _ rfl
            · intro outcomes
              apply follows_bind
              rw [FollowsFrom, Script.safe_locals]
              apply follows_bind
              apply follows_lift
              · intro digest _
                apply follows_bind
                apply follows_neutral rfl rfl
                · intro activatedAt
                  exact follows_lift (fun cutover _ => onValue cutover outcomes)
                    (fun _ _ => activated outcomes)
                · exact fun _ => activated outcomes
              · exact fun _ _ => activated outcomes
            · exact fun _ => activated locals.validations
          · exact fun _ => activated locals.validations
        · exact fun _ => aborting
      · exact fun _ => activating
    · exact fun _ => activating
  · exact fun _ => activating

theorem follows_migrate {lockDuration : Int} {bindingRef owner runId : Str} {done : List Str}
    (runIdEq : ∀ supplied, executionId = some supplied → runId = supplied) (runIdNe : runId ≠ [])
    (unlocked : locals.lock = none) :
    FollowsFrom executionId bundle (fun _ => Closing) (fun _ => Failing)
      (migrate lockDuration bindingRef bundle owner runId done) locals
      (.unlocked locals.sequence done) := by
  apply follows_bind
  apply follows_acquire unlocked
  intro state lock plan outcomes order
  apply follows_bind
  apply follows_checkpoint_due runIdEq ⟨rfl, rfl⟩ rfl rfl (by simp)
  apply follows_bind
  rw [advance, FollowsFrom, Script.safe_assign]
  apply follows_bind
  apply follows_recordEvidence rfl
  · apply follows_bind
    rw [Phase.afterDue, ← order]
    apply follows_applySteps plan.steps runIdEq runIdNe rfl
    intro sequence
    apply follows_bind
    apply follows_checkpoint_due runIdEq ⟨rfl, rfl⟩ rfl rfl (by simp)
    apply follows_bind
    rw [FollowsFrom, Script.safe_assign]
    apply follows_bind
    apply follows_extendValidations _ rfl
    · intro outcomes
      apply follows_bind
      apply follows_checkpoint_due runIdEq ⟨rfl, rfl⟩ rfl rfl (by simp)
      apply follows_bind
      rw [FollowsFrom, Script.safe_assign]
      apply follows_bind
      apply follows_cutOver rfl
      intro cutover outcomes
      apply follows_bind
      apply follows_checkpoint_due runIdEq ⟨rfl, rfl⟩ rfl rfl (by simp)
      apply follows_bind
      apply follows_recordEvidence rfl
      · apply follows_bind
        apply follows_request _
        · exact .inr ⟨_, rfl⟩
        · intro checkpoints
          apply follows_bind
          rw [FollowsFrom, Script.safe_locals]
          exact ⟨rfl, rfl⟩
        · exact fun _ => ⟨rfl, rfl⟩
      · exact fun _ => ⟨rfl, rfl⟩
    · exact fun _ => ⟨rfl, rfl⟩
  · exact fun _ => ⟨rfl, rfl⟩

theorem follows_recordFailure {bindingRef runId : Str} {error : Exc}
    (runIdEq : ∀ supplied, executionId = some supplied → runId = supplied)
    (failing : Failing locals phase) :
    FollowsFrom executionId bundle (fun _ _ _ => False) (fun _ => Closing)
      (recordFailure bindingRef bundle runId error) locals phase := by
  have failed : Closing locals (.failed phase.held) := ⟨rfl, failing.held_iff⟩
  unfold recordFailure
  split
  · apply follows_bind
    apply follows_checkpoint runIdEq failing.calm
    · intro made writes
      exact .failure failing.failure_eq writes
    · intro made stateEq
      rw [Phase.afterAppend, if_pos stateEq]
      apply follows_bind
      apply follows_recordEvidence rfl
      · exact failed
      · exact fun _ => failed
    · intro raised made stateEq
      rw [Phase.afterAppend, if_pos stateEq]
      exact failed
    · exact fun _ => failing.closing
  · exact failing.closing

theorem follows_releaseHeldLock (closing : Closing locals phase) :
    FollowsFrom executionId bundle (fun _ _ _ => True) (fun _ _ _ => True) releaseHeldLock locals
      phase := by
  apply follows_bind
  rw [FollowsFrom, Script.safe_locals]
  cases lockEq : locals.lock with
  | none => exact trivial
  | some lock =>
      apply follows_request _
      · refine ⟨?_, Phase.inFlight_of_calm closing.calm⟩
        rw [closing.held_iff, lockEq]
        rfl
      · exact fun _ => trivial
      · exact fun _ => trivial

theorem follows_executeAs {lockDuration : Int} {bindingRef owner runId : Str}
    (runIdEq : ∀ supplied, executionId = some supplied → runId = supplied) (runIdNe : runId ≠ [])
    (unlocked : locals.lock = none) :
    FollowsFrom executionId bundle (fun _ _ _ => True) (fun _ _ _ => True)
      (executeAs lockDuration bindingRef bundle owner runId) locals .reading := by
  apply follows_bind
  apply follows_request _
  · exact .inl ⟨rfl, runIdEq⟩
  · intro existing
    apply follows_bind
    apply follows_refuse
    · intro sameBundle
      apply follows_bind
      apply follows_refuse
      · intro notCompleted
        have accepted : Phase.next bundle .reading (.checkpoints runId : Hook F) (.ok existing) =
            .unlocked (nextSequence existing) (completedSteps existing) := by
          have notRefused : Phase.refuses bundle existing = false := by
            rw [Phase.refuses, Bool.or_eq_false_iff]
            exact ⟨Bool.eq_false_of_not_eq_true sameBundle, Bool.eq_false_of_not_eq_true notCompleted⟩
          simp only [Phase.next, Phase.afterRead, notRefused, Bool.false_eq_true, if_false]
        rw [accepted]
        apply follows_bind
        rw [FollowsFrom, Script.safe_assign]
        apply Script.safe_tryFinally.mpr
        apply Script.safe_tryExcept.mpr
        have migrates : FollowsFrom executionId bundle (fun _ => Closing) (fun _ => Failing)
            (migrate lockDuration bindingRef bundle owner runId (completedSteps existing))
            { locals with sequence := nextSequence existing }
            (.unlocked (nextSequence existing) (completedSteps existing)) :=
          follows_migrate runIdEq runIdNe unlocked
        apply Script.Safe.mono migrates
        · exact fun _ _ _ closing => follows_releaseHeldLock closing
        · intro error after phase failing
          apply Script.Safe.mono (follows_recordFailure runIdEq failing)
          · exact fun _ _ _ impossible => impossible.elim
          · exact fun _ _ _ closing => follows_releaseHeldLock closing
      · exact fun _ => trivial
    · exact fun _ => trivial
  · exact fun _ => trivial

end Parts

/-- Every execution follows the automaton of its bundle and execution id. -/
theorem execute_follows (lockDuration : Int) (bindingRef : Str) (bundle : MigrationBundleV1 F)
    (owner : Str) (executionId : Option Str) :
    (execute lockDuration bindingRef bundle owner executionId {}).Follows
      (executionAutomaton executionId bundle) .reading := by
  have whole : FollowsFrom executionId bundle (fun _ _ _ => True) (fun _ _ _ => True)
      (execute lockDuration bindingRef bundle owner executionId) {} .reading := by
    apply follows_bind
    apply follows_refuse
    · intro _
      apply follows_bind
      apply follows_refuse
      · intro nonempty
        apply follows_bind
        cases executionId with
        | some supplied =>
            apply follows_executeAs _ _ rfl
            · rintro _ ⟨⟩
              rfl
            · rintro rfl
              exact nonempty rfl
        | none =>
            apply follows_bind
            apply follows_request .uuid4
            · rfl
            · intro identifier
              apply follows_executeAs _ identifier.property rfl
              rintro _ ⟨⟩
            · exact fun _ => trivial
      · exact fun _ => trivial
    · exact fun _ => trivial
  exact Prog.Safe.mono whole fun _ _ _ => trivial

end DataLifecycle.Migration
