import DataLifecycle.Migration.Binding
import DataLifecycle.Migration.Parts

/-!
# Releasing the migration lock

The cleanup of an execution releases whatever lock the adapter returned.  The local variable is
assigned before the lock is compared with the owner and the bundle of the call, so the lock of
somebody else is released as well.
-/

namespace DataLifecycle.Migration

open Python Interaction

variable {F : Type} [FloatText F] {α : Type}

/-- The lock that a call acquired. -/
def acquiredLock : Event (Hook F) Hook.Response → Option MigrationLock
  | ⟨.acquireLock _ _ _ _, .ok lock⟩ => some lock
  | _ => none

/-- The lock that a call was to release. -/
def releasedLock : Event (Hook F) Hook.Response → Option MigrationLock
  | ⟨.releaseLock lock, _⟩ => some lock
  | _ => none

/-- Whether a call updates the binding under the lock. -/
def isUpdate : Event (Hook F) Hook.Response → Bool
  | ⟨.applyStep _ _ _, _⟩ => true
  | ⟨.activate _ _ _, _⟩ => true
  | _ => false

/-- The lock has the owner and the bundle of the call. -/
def IsOwn (owner : Str) (bundle : MigrationBundleV1 F) (lock : MigrationLock) : Prop :=
  lock.owner = owner ∧ lock.bundleDigest = bundle.digest

/-- A lock of the call itself is released exactly once, after the last update, and no other
lock is released. -/
structure ReleasesOwn (owner : Str) (bundle : MigrationBundleV1 F) (trace : Trace F) : Prop where
  once : ∀ event ∈ trace, ∀ lock, acquiredLock event = some lock → IsOwn owner bundle lock →
    ∃ before response after, trace = before ++ ⟨.releaseLock lock, response⟩ :: after ∧
      (∀ other ∈ before ++ after, releasedLock other ≠ some lock) ∧
      ∀ later ∈ after, isUpdate later = false
  own : ∀ event ∈ trace, ∀ lock, releasedLock event = some lock → IsOwn owner bundle lock

/-- The adapter returns no lock of somebody else. -/
def AcquiresOwn (owner : Str) (bundle : MigrationBundleV1 F) (trace : Trace F) : Prop :=
  ∀ event ∈ trace, ∀ lock, acquiredLock event = some lock → IsOwn owner bundle lock

/-- The variable holds the acquired lock and nothing is released. -/
structure Holding (held : Option MigrationLock) (locals : Locals) (trace : Trace F) : Prop where
  lock_eq : locals.lock = held
  acquired_eq : trace.filterMap acquiredLock = held.toList
  released_eq : trace.filterMap releasedLock = []

/-- The cleanup is over. -/
inductive Released : Trace F → Prop
  | nothing {trace : Trace F} (acquired : trace.filterMap acquiredLock = [])
      (released : trace.filterMap releasedLock = []) : Released trace
  | lock {before : Trace F} {lock : MigrationLock} (response : Except Exc Unit)
      (acquired : before.filterMap acquiredLock = [lock])
      (released : before.filterMap releasedLock = []) :
      Released (before ++ [⟨.releaseLock lock, response⟩])

/-- After the cleanup, only the locks of the call itself were released if the adapter returned
only such locks. -/
theorem Released.releasesOwn_iff {owner : Str} {bundle : MigrationBundleV1 F} {trace : Trace F}
    (released : Released trace) :
    ReleasesOwn owner bundle trace ↔ AcquiresOwn owner bundle trace := by
  cases released with
  | nothing acquired released =>
      have noAcquired : ∀ event ∈ trace, acquiredLock event = none :=
        List.filterMap_eq_nil_iff.mp acquired
      have noReleased : ∀ event ∈ trace, releasedLock event = none :=
        List.filterMap_eq_nil_iff.mp released
      constructor
      · intro _ event member lock found
        rw [noAcquired event member] at found
        cases found
      · intro _
        constructor
        · intro event member lock found
          rw [noAcquired event member] at found
          cases found
        · intro event member lock found
          rw [noReleased event member] at found
          cases found
  | @lock before held response acquired released =>
      have noReleased : ∀ event ∈ before, releasedLock event = none :=
        List.filterMap_eq_nil_iff.mp released
      have isHeld : ∀ event ∈ before ++ [⟨.releaseLock held, response⟩], ∀ lock,
          acquiredLock event = some lock → lock = held := by
        intro event member lock found
        rcases List.mem_append.mp member with earlier | isLast
        · have among : lock ∈ before.filterMap acquiredLock :=
            List.mem_filterMap.mpr ⟨event, earlier, found⟩
          rw [acquired] at among
          exact List.mem_singleton.mp among
        · rw [List.mem_singleton.mp isLast] at found
          cases found
      constructor
      · intro discipline event member lock found
        rw [isHeld event member lock found]
        exact discipline.own _ (List.mem_append_right _ List.mem_cons_self) held rfl
      · intro acquiresOwn
        constructor
        · intro event member lock found _
          rw [isHeld event member lock found]
          refine ⟨before, response, [], rfl, ?_, by simp⟩
          intro other otherMem
          rw [List.append_nil] at otherMem
          rw [noReleased other otherMem]
          nofun
        · intro event member lock found
          rcases List.mem_append.mp member with earlier | isLast
          · rw [noReleased event earlier] at found
            cases found
          · rw [List.mem_singleton.mp isLast] at found
            cases found
            have among : held ∈ before.filterMap acquiredLock := by
              rw [acquired]
              exact List.mem_cons_self
            obtain ⟨source, sourceMem, sourceFound⟩ := List.mem_filterMap.mp among
            exact acquiresOwn source (List.mem_append_left _ sourceMem) held sourceFound

/-! ## The parts of an execution -/

section Parts

variable {held : Option MigrationLock}

/-- Every answer is possible. -/
abbrev AnyAnswer : Trace F → (hook : Hook F) → hook.Response → Prop := fun _ _ _ => True

/-- A part that neither acquires nor releases. -/
abbrev HoldsOn (held : Option MigrationLock) (part : Execution F α) : Prop :=
  Part AnyAnswer (fun _ _ => True) (Holding held) (fun _ => Holding held) part

/-- A call that neither acquires nor releases. -/
theorem tolerates_of_neutral {hook : Hook F}
    (neutral : ∀ response : hook.Response, acquiredLock ⟨hook, response⟩ = none ∧
      releasedLock ⟨hook, response⟩ = none) :
    Tolerates AnyAnswer (fun _ _ => True) (Holding held) (fun _ => Holding held) hook := by
  intro locals trace holding
  refine ⟨trivial, fun response _ => ?_⟩
  have kept : Holding held locals (trace ++ [⟨hook, response⟩]) := by
    obtain ⟨noLock, noRelease⟩ := neutral response
    refine ⟨holding.lock_eq, ?_, ?_⟩
    · rw [List.filterMap_append, holding.acquired_eq]
      simp [noLock]
    · rw [List.filterMap_append, holding.released_eq]
      simp [noRelease]
  cases response with
  | ok value => exact kept
  | error error => exact kept

theorem absorbs_holding (error : Exc) :
    Absorbs (F := F) (Holding held) (fun _ => Holding held) error :=
  fun _ _ holding => holding

theorem holdsOn_checkpoint {runId : Str} {bundle : MigrationBundleV1 F} {state : MigrationState}
    {step : Option AppliedMigrationStep} {failureCode : Option Str} :
    HoldsOn held (checkpoint runId bundle state step failureCode) :=
  part_checkpoint (tolerates_of_neutral fun _ => ⟨rfl, rfl⟩)
    (fun _ => tolerates_of_neutral fun _ => ⟨rfl, rfl⟩) fun error _ => absorbs_holding error

theorem holdsOn_recordEvidence {bindingRef : Str} {state : MigrationState}
    {details : List (Str × Json F)} : HoldsOn held (recordEvidence bindingRef state details) :=
  part_recordEvidence (tolerates_of_neutral fun _ => ⟨rfl, rfl⟩)
    (fun _ => tolerates_of_neutral fun _ => ⟨rfl, rfl⟩) fun error _ => absorbs_holding error

theorem holdsOn_advance : HoldsOn held (advance : Execution F Unit) :=
  part_advance fun _ _ holding => ⟨holding.lock_eq, holding.acquired_eq, holding.released_eq⟩

theorem holdsOn_raiseIfCancelled : HoldsOn held (raiseIfCancelled : Execution F Unit) :=
  part_raiseIfCancelled (tolerates_of_neutral fun _ => ⟨rfl, rfl⟩) (absorbs_holding _)

theorem holdsOn_currentUtc : HoldsOn held (currentUtc : Execution F Utc) :=
  part_currentUtc (tolerates_of_neutral fun _ => ⟨rfl, rfl⟩) fun error _ => absorbs_holding error

theorem holdsOn_extendValidations {cancellable : Bool} {conditions : List (MigrationCondition F)} :
    HoldsOn held (extendValidations cancellable conditions) :=
  part_extendValidations (fun _ => tolerates_of_neutral fun _ => ⟨rfl, rfl⟩)
    (fun _ => tolerates_of_neutral fun _ => ⟨rfl, rfl⟩) (fun error _ => absorbs_holding error)
    (fun _ _ _ holding => ⟨holding.lock_eq, holding.acquired_eq, holding.released_eq⟩) conditions

theorem holdsOn_applySteps {runId : Str} {bundle : MigrationBundleV1 F} {lock : MigrationLock}
    {completed : List Str} {steps : List CompiledMigrationStep} :
    HoldsOn held (applySteps runId bundle lock completed steps) :=
  part_applySteps (tolerates_of_neutral fun _ => ⟨rfl, rfl⟩)
    (tolerates_of_neutral fun _ => ⟨rfl, rfl⟩) (fun _ => tolerates_of_neutral fun _ => ⟨rfl, rfl⟩)
    (fun _ => tolerates_of_neutral fun _ => ⟨rfl, rfl⟩) (fun error _ => absorbs_holding error)
    (fun _ _ holding => ⟨holding.lock_eq, holding.acquired_eq, holding.released_eq⟩) steps

theorem holdsOn_refuse {condition : Prop} [Decidable condition] {error : Exc} :
    HoldsOn held (Script.refuse condition error : Execution F Unit) :=
  Script.ends_refuse (absorbs_holding error)

theorem holdsOn_lift {result : Except Exc α} :
    HoldsOn held (Script.lift result : Execution F α) :=
  Script.ends_lift fun error _ => absorbs_holding error

theorem holdsOn_cutOver {runId : Str} {bundle : MigrationBundleV1 F} {state : BindingStateEvidence}
    {lock : MigrationLock} : HoldsOn held (cutOver runId bundle state lock) :=
  Script.ends_bind holdsOn_raiseIfCancelled fun _ => Script.ends_bind holdsOn_currentUtc fun _ =>
    Script.ends_bind holdsOn_refuse fun _ =>
      Script.ends_bind (part_request (tolerates_of_neutral fun _ => ⟨rfl, rfl⟩)) fun _ =>
        Script.ends_bind holdsOn_refuse fun _ => Script.ends_bind holdsOn_extendValidations fun _ =>
          Script.ends_bind Script.ends_locals fun _ => Script.ends_bind holdsOn_lift fun _ =>
            Script.ends_bind (part_request (tolerates_of_neutral fun _ => ⟨rfl, rfl⟩)) fun _ =>
              holdsOn_lift

theorem holdsOn_recordFailure {bindingRef runId : Str} {bundle : MigrationBundleV1 F} {error : Exc} :
    HoldsOn held (recordFailure bindingRef bundle runId error) := by
  unfold recordFailure
  split
  · exact Script.ends_bind holdsOn_checkpoint fun _ =>
      Script.ends_bind holdsOn_recordEvidence fun _ => Script.ends_raise (absorbs_holding error)
  · exact Script.ends_raise (absorbs_holding error)

end Parts

/-! ## Every exit path -/

section Exits

variable {lockDuration : Int} {bindingRef owner runId : Str} {bundle : MigrationBundleV1 F}
  {locals : Locals} {trace : Trace F}

/-- The variable holds the lock that was acquired, if any. -/
def Held (locals : Locals) (trace : Trace F) : Prop := ∃ held, Holding held locals trace

/-- The lock is in the variable as soon as it is acquired. -/
theorem safe_acquire (holding : Holding none locals trace) :
    (acquire lockDuration bindingRef bundle owner).Safe (Traced AnyAnswer) (fun _ _ => True)
      (fun result => Holding (some result.2.1)) (fun _ => Held) locals trace := by
  have unlocked : ∀ (error : Exc) (after : Locals) (final : Trace F),
      Holding none after final → Held after final := fun _ _ _ left => ⟨none, left⟩
  refine holdsOn_raiseIfCancelled.safe_bind holding (fun _ after final holding => ?_) unlocked
  refine Script.Ends.safe_bind (part_request (tolerates_of_neutral fun _ => ⟨rfl, rfl⟩)) holding
    (fun state after final holding => ?_) unlocked
  refine holdsOn_refuse.safe_bind holding (fun _ after final holding => ?_) unlocked
  refine holdsOn_extendValidations.safe_bind holding (fun _ after final holding => ?_) unlocked
  rw [Script.safe_bind]
  refine safe_request trivial (fun lock _ => ?_) (fun error _ => ?_)
  · have acquired : Holding (some lock) { after with lock := some lock }
        (final ++ [⟨.acquireLock bindingRef owner bundle.digest lockDuration, .ok lock⟩]) := by
      refine ⟨rfl, ?_, ?_⟩
      · rw [List.filterMap_append, holding.acquired_eq]
        rfl
      · rw [List.filterMap_append, holding.released_eq]
        rfl
    have locked : ∀ (error : Exc) (after : Locals) (final : Trace F),
        Holding (some lock) after final → Held after final := fun _ _ _ left => ⟨_, left⟩
    rw [Script.safe_bind, Script.safe_assign]
    refine holdsOn_refuse.safe_bind acquired (fun _ after final holding => ?_) locked
    refine holdsOn_currentUtc.safe_bind holding (fun _ after final holding => ?_) locked
    refine holdsOn_refuse.safe_bind holding (fun _ after final holding => ?_) locked
    refine Script.Ends.safe_bind (part_request (tolerates_of_neutral fun _ => ⟨rfl, rfl⟩)) holding
      (fun plan after final holding => ?_) locked
    exact holdsOn_lift.safe_bind holding (fun _ after final holding => holding) locked
  · refine ⟨none, holding.lock_eq, ?_, ?_⟩
    · rw [List.filterMap_append, holding.acquired_eq]
      rfl
    · rw [List.filterMap_append, holding.released_eq]
      rfl

theorem safe_migrate {completed : List Str} (holding : Holding none locals trace) :
    (migrate lockDuration bindingRef bundle owner runId completed).Safe (Traced AnyAnswer)
      (fun _ _ => True) (fun _ => Held) (fun _ => Held) locals trace := by
  rw [migrate, Script.safe_bind]
  apply (safe_acquire holding).mono
  · rintro ⟨state, lock, plan⟩ after final acquired
    have rest : HoldsOn (some lock) (do
        checkpoint runId bundle .planned
        advance
        recordEvidence bindingRef .planned
          [(str "bundleDigest", .str bundle.digest), (str "planDigest", .str plan.planDigest)]
        applySteps runId bundle lock completed plan.steps
        checkpoint runId bundle .validating
        advance
        extendValidations true bundle.validations
        checkpoint runId bundle .activating
        advance
        let cutover ← cutOver runId bundle state lock
        checkpoint runId bundle .completed
        recordEvidence bindingRef .completed cutover.toMapping
        let checkpoints ← request (.checkpoints runId)
        let final ← Script.locals
        pure (⟨runId, .completed, bundle.digest, checkpoints, final.validations, some cutover⟩ :
          MigrationReport)) :=
      Script.ends_bind holdsOn_checkpoint fun _ => Script.ends_bind holdsOn_advance fun _ =>
        Script.ends_bind holdsOn_recordEvidence fun _ =>
          Script.ends_bind holdsOn_applySteps fun _ =>
            Script.ends_bind holdsOn_checkpoint fun _ => Script.ends_bind holdsOn_advance fun _ =>
              Script.ends_bind holdsOn_extendValidations fun _ =>
                Script.ends_bind holdsOn_checkpoint fun _ =>
                  Script.ends_bind holdsOn_advance fun _ =>
                    Script.ends_bind holdsOn_cutOver fun _ =>
                      Script.ends_bind holdsOn_checkpoint fun _ =>
                        Script.ends_bind holdsOn_recordEvidence fun _ =>
                          Script.ends_bind
                            (part_request (tolerates_of_neutral fun _ => ⟨rfl, rfl⟩)) fun _ =>
                            Script.ends_bind Script.ends_locals fun _ => Script.ends_pure _
    exact (rest after final acquired).mono (fun _ _ _ left => ⟨_, left⟩) fun _ _ _ left => ⟨_, left⟩
  · exact fun _ _ _ left => left

/-- The cleanup releases the lock that the variable holds. -/
theorem released_releaseHeldLock (held : Held locals trace) :
    (releaseHeldLock : Execution F Unit).Safe (Traced AnyAnswer) (fun _ _ => True)
      (fun _ _ => Released) (fun _ _ => Released) locals trace := by
  obtain ⟨held, holding⟩ := held
  have released : ∀ lock response, locals.lock = some lock →
      Released (trace ++ [⟨.releaseLock lock, response⟩]) := by
    intro lock response isHeld
    have same : held = some lock := holding.lock_eq.symm.trans isHeld
    subst same
    exact .lock response holding.acquired_eq holding.released_eq
  refine safe_releaseHeldLock (fun unheld => ?_) (fun _ _ => trivial)
    (fun lock isHeld => released lock _ isHeld) fun lock error isHeld _ => released lock _ isHeld
  have same : held = none := holding.lock_eq.symm.trans unheld
  subst same
  exact .nothing holding.acquired_eq holding.released_eq

end Exits

/-- On every exit path of `execute`, a lock of the call itself is released exactly once after the
last update, and no lock of somebody else is released, exactly if the adapter returned no lock
of somebody else. -/
theorem releasesOwn_iff_acquiresOwn (lockDuration : Int) (bindingRef : Str)
    (bundle : MigrationBundleV1 F) (owner : Str) (executionId : Option Str) :
    (execute lockDuration bindingRef bundle owner executionId).Safe (Traced AnyAnswer)
      (fun _ _ => True)
      (fun _ _ trace => ReleasesOwn owner bundle trace ↔ AcquiresOwn owner bundle trace)
      (fun _ _ trace => ReleasesOwn owner bundle trace ↔ AcquiresOwn owner bundle trace) {} [] := by
  have atOnce : Holding none {} ([] : Trace F) := ⟨rfl, rfl, rfl⟩
  have unlocked : ∀ (error : Exc) (after : Locals) (final : Trace F), Holding none after final →
      (ReleasesOwn owner bundle final ↔ AcquiresOwn owner bundle final) := fun _ _ _ left =>
    (Released.nothing left.acquired_eq left.released_eq).releasesOwn_iff
  have choose : HoldsOn none (chooseRunId executionId : Execution F Str) := by
    cases executionId with
    | some supplied => exact Script.ends_pure _
    | none =>
        exact Script.ends_bind (part_request (tolerates_of_neutral fun _ => ⟨rfl, rfl⟩)) fun _ =>
          Script.ends_pure _
  refine holdsOn_refuse.safe_bind atOnce (fun _ after final holding => ?_) unlocked
  refine holdsOn_refuse.safe_bind holding (fun _ after final holding => ?_) unlocked
  refine choose.safe_bind holding (fun runId after final holding => ?_) unlocked
  refine Script.Ends.safe_bind (part_request (tolerates_of_neutral fun _ => ⟨rfl, rfl⟩)) holding
    (fun existing after final holding => ?_) unlocked
  refine holdsOn_refuse.safe_bind holding (fun _ after final holding => ?_) unlocked
  refine holdsOn_refuse.safe_bind holding (fun _ after final holding => ?_) unlocked
  rw [Script.safe_bind, Script.safe_assign, Script.safe_tryFinally, Script.safe_tryExcept]
  have begun : Holding none { after with sequence := nextSequence existing } final :=
    ⟨holding.lock_eq, holding.acquired_eq, holding.released_eq⟩
  have cleaned : ∀ (after : Locals) (final : Trace F), Held after final →
      (releaseHeldLock : Execution F Unit).Safe (Traced AnyAnswer) (fun _ _ => True)
        (fun _ _ trace => ReleasesOwn owner bundle trace ↔ AcquiresOwn owner bundle trace)
        (fun _ _ trace => ReleasesOwn owner bundle trace ↔ AcquiresOwn owner bundle trace)
        after final := fun after final held =>
    (released_releaseHeldLock held).mono (fun _ _ _ released => released.releasesOwn_iff)
      fun _ _ _ released => released.releasesOwn_iff
  refine (safe_migrate begun).mono (fun _ after final held => cleaned after final held) ?_
  rintro error after final ⟨lock, holding⟩
  exact (holdsOn_recordFailure after final holding).mono
    (fun _ after final left => cleaned after final ⟨lock, left⟩)
    fun _ after final left => cleaned after final ⟨lock, left⟩

/-- An adapter that returns the lock of another job. -/
def foreignAnswer (_ : Trace F) : (hook : Hook F) → hook.Response
  | .acquireLock _ _ _ _ =>
      .ok ⟨str "lock", str "job-2", Binding.uniformFingerprint 48, 2000, by decide,
        Binding.isSha256_uniformFingerprint⟩
  | hook =>
      (Binding.serve () ⟨Binding.uniformFingerprint 48, none, .empty, [], false⟩ hook).1

/-- The calls of the first job against that adapter. -/
def foreignTrace : Trace Empty :=
  ((Binding.sampleCall "job-1" "migration-1").program.run (recording foreignAnswer) []).2

/-- Whether the lock of another job is released. -/
def releasesForeign (owner : Str) (trace : Trace F) : Bool :=
  trace.any fun event =>
    match releasedLock event with
    | some lock => lock.owner != owner
    | none => false

/-- The lock of the second job is refused and then released by the first one. -/
theorem foreign_lock_is_released :
    ¬ ∀ (lockDuration : Int) (bindingRef : Str) (bundle : MigrationBundleV1 Empty) (owner : Str)
      (executionId : Option Str),
      (execute lockDuration bindingRef bundle owner executionId).Safe (Traced AnyAnswer)
        (fun _ _ => True) (fun _ _ trace => ReleasesOwn owner bundle trace)
        (fun _ _ trace => ReleasesOwn owner bundle trace) {} [] := by
  intro always
  have safe := always 900000000 (str "orders") Binding.sampleBundle (str "job-1")
    (some (str "migration-1"))
  have released : ReleasesOwn (str "job-1") Binding.sampleBundle foreignTrace := by
    have left := Prog.Safe.of_returns safe (recording_returns foreignAnswer
      (fun _ _ => trivial) _ [])
    split at left
    · exact left
    · exact left
  have foreign : releasesForeign (str "job-1") foreignTrace = true := by decide +kernel
  obtain ⟨event, member, isForeign⟩ := List.any_eq_true.mp foreign
  split at isForeign
  next lock found =>
    rw [(released.own event member lock found).1] at isForeign
    simp at isForeign
  next => cases isForeign

end DataLifecycle.Migration
