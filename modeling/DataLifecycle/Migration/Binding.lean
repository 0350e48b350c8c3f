import DataLifecycle.Migration.Recorder

/-!
# Concurrent executions on one binding

The fingerprint of a binding is read before the lock is taken.  An execution
applies steps at its source fingerprint exactly as long as the fingerprint is
still there when it gets the lock: from then on only the holder can activate.
-/

namespace DataLifecycle.Migration

open Python Interaction

variable {F : Type} [FloatText F] {ι : Type}

/-- A binding, the execution that holds its lock, and the recorder.  `applied`
lists the steps that `apply_step` has applied, and `planned` tells whether the
holder has recorded PLANNED since it got the lock. -/
structure Binding (ι : Type) where
  fingerprint : Str
  holder : Option ι
  recorder : InMemoryMigrationRecorder
  applied : List Str
  planned : Bool

/-- An adapter with one exclusive lock and an arbitrary recorder. -/
def Binding.Answers [DecidableEq ι] (thread : ι) (before : Binding ι) :
    (hook : Hook F) → hook.Response → Binding ι → Prop
  | .inspectState _, response, after =>
      after.fingerprint = before.fingerprint ∧ after.holder = before.holder ∧
        ∀ evidence, response = .ok evidence → evidence.logicalFingerprint = before.fingerprint
  | .acquireLock _ _ _ _, response, after =>
      after.fingerprint = before.fingerprint ∧
        if response.isOk then before.holder = none ∧ after.holder = some thread
        else after.holder = before.holder
  | .activate _ bundle _, response, after =>
      after.holder = before.holder ∧
        after.fingerprint =
          if response.isOk then bundle.targetSchemaFingerprint else before.fingerprint
  | .releaseLock _, response, after =>
      after.fingerprint = before.fingerprint ∧
        (after.holder = before.holder ∧ response.isOk = false ∨
          after.holder = if before.holder = some thread then none else before.holder)
  | _, _, after => after.fingerprint = before.fingerprint ∧ after.holder = before.holder

/-- When the call is granted the lock, the binding is still at the source
fingerprint of its bundle. -/
def Binding.GrantsAtSource (bundle : MigrationBundleV1 F) (before : Binding ι) :
    (hook : Hook F) → hook.Response → Prop
  | .acquireLock _ _ _ _, response =>
      response.isOk = true → before.fingerprint = bundle.sourceSchemaFingerprint
  | _, _ => True

namespace Phase

/-- The lock is held and nothing has been activated or failed. -/
def beforeActivation : Phase → Bool
  | .locked _ _ => true
  | .applying _ _ => true
  | .applied _ _ _ => true
  | .recording _ _ _ => true
  | .validating _ => true
  | .activating _ => true
  | _ => false

theorem held_of_beforeActivation {phase : Phase} (before : phase.beforeActivation = true) :
    phase.held = true := by
  cases phase <;> first | rfl | cases before

theorem beforeActivation_of_nextStep {phase : Phase} {step : Str}
    (next : phase.nextStep = some step) : phase.beforeActivation = true := by
  cases phase <;> first | rfl | cases next

theorem held_afterAppend {bundle : MigrationBundleV1 F} {checkpoint : MigrationCheckpoint}
    {accepted : Bool} {phase : Phase}
    (held : (phase.afterAppend bundle checkpoint accepted).held = true) : phase.held = true := by
  unfold afterAppend at held
  split at held
  · exact held
  · cases phase with
    | failed => exact held
    | _ => first | rfl | cases held

theorem beforeActivation_afterAppend {bundle : MigrationBundleV1 F}
    {checkpoint : MigrationCheckpoint} {accepted : Bool} {phase : Phase}
    (before : (phase.afterAppend bundle checkpoint accepted).beforeActivation = true) :
    phase.beforeActivation = true := by
  unfold afterAppend at before
  split at before
  · cases before
  · cases phase with
    | activated sequence =>
        simp only [due] at before
        split at before <;> cases before
    | _ => first | rfl | cases before

/-- Only a granted lock starts to be held. -/
theorem held_of_next {bundle : MigrationBundleV1 F} {phase : Phase} {hook : Hook F}
    {response : hook.Response} (held : (phase.next bundle hook response).held = true)
    (notAcquired : ∀ bindingRef owner digest duration,
      hook ≠ .acquireLock bindingRef owner digest duration) : phase.held = true := by
  cases hook with
  | acquireLock bindingRef owner digest duration =>
      exact absurd rfl (notAcquired bindingRef owner digest duration)
  | append checkpoint => exact held_afterAppend held
  | checkpoints =>
      cases phase with
      | reading =>
          simp only [next, afterRead] at held
          split at held
          · split at held <;> cases held
          · cases held
      | failed => exact held
      | _ => first | rfl | cases held
  | clock => cases phase <;> first | rfl | exact held
  | applyStep => cases phase <;> first | rfl | exact held
  | activate => cases phase <;> first | rfl | exact held
  | releaseLock => cases held
  | _ => exact held

/-- Only a granted lock starts the phases before activation, and activation ends
them. -/
theorem beforeActivation_of_next {bundle : MigrationBundleV1 F} {phase : Phase} {hook : Hook F}
    {response : hook.Response} (before : (phase.next bundle hook response).beforeActivation = true)
    (notAcquired : ∀ bindingRef owner digest duration,
      hook ≠ .acquireLock bindingRef owner digest duration) :
    phase.beforeActivation = true ∧ ∀ lock target generation sequence,
      hook = .activate lock target generation → phase ≠ .activating sequence := by
  cases hook with
  | acquireLock bindingRef owner digest duration =>
      exact absurd rfl (notAcquired bindingRef owner digest duration)
  | append checkpoint => exact ⟨beforeActivation_afterAppend before, by simp⟩
  | checkpoints =>
      refine ⟨?_, by simp⟩
      cases phase with
      | reading =>
          simp only [next, afterRead] at before
          split at before
          · split at before <;> cases before
          · cases before
      | _ => first | rfl | cases before
  | clock => exact ⟨by cases phase <;> first | rfl | exact before, by simp⟩
  | applyStep => exact ⟨by cases phase <;> first | rfl | exact before, by simp⟩
  | activate =>
      cases phase with
      | activating sequence =>
          simp only [next, afterActivate] at before
          split at before <;> cases before
      | _ => exact ⟨before, by simp⟩
  | releaseLock => cases before
  | _ => exact ⟨before, by simp⟩

end Phase

namespace Binding

variable [DecidableEq ι]

/-- Held phases hold the lock, and phases before activation are at the source
fingerprint. -/
structure Guarded (calls : ι → ExecuteCall F) (phases : ι → Phase) (binding : Binding ι) : Prop where
  holder : ∀ thread, (phases thread).held = true → binding.holder = some thread
  atSource : ∀ thread, (phases thread).beforeActivation = true →
    binding.fingerprint = (calls thread).bundle.sourceSchemaFingerprint

/-- The lock of a thread survives the calls of the others. -/
theorem Answers.holder_of_ne {before after : Binding ι} {thread other : ι} {hook : Hook F}
    {response : hook.Response} (answered : Answers thread before hook response after)
    (ne : other ≠ thread) (holds : before.holder = some other) : after.holder = some other := by
  have others : ¬ some other = some thread := fun same => ne (Option.some.inj same)
  cases hook with
  | acquireLock =>
      simp only [Answers] at answered
      obtain ⟨-, granted⟩ := answered
      split at granted
      · rw [granted.1] at holds
        cases holds
      · rw [granted, holds]
  | activate =>
      rw [answered.1, holds]
  | releaseLock =>
      rcases answered.2 with ⟨same, -⟩ | released
      · rw [same, holds]
      · rw [released, holds, if_neg others]
  | inspectState => rw [answered.2.1, holds]
  | _ => rw [answered.2, holds]

/-- Only the calls of the lock change its holder. -/
theorem Answers.holder_eq {before after : Binding ι} {thread : ι} {hook : Hook F}
    {response : hook.Response} (answered : Answers thread before hook response after)
    (notAcquired : ∀ bindingRef owner digest duration,
      hook ≠ .acquireLock bindingRef owner digest duration)
    (notReleased : ∀ lock, hook ≠ .releaseLock lock) : after.holder = before.holder := by
  cases hook with
  | acquireLock bindingRef owner digest duration =>
      exact absurd rfl (notAcquired bindingRef owner digest duration)
  | releaseLock lock => exact absurd rfl (notReleased lock)
  | inspectState => exact answered.2.1
  | activate => exact answered.1
  | _ => exact answered.2

/-- Only activation changes the fingerprint. -/
theorem Answers.fingerprint_eq {before after : Binding ι} {thread : ι} {hook : Hook F}
    {response : hook.Response} (answered : Answers thread before hook response after)
    (notActivate : ∀ lock bundle generation, hook ≠ .activate lock bundle generation) :
    after.fingerprint = before.fingerprint := by
  cases hook with
  | activate lock bundle generation => exact absurd rfl (notActivate lock bundle generation)
  | _ => exact answered.1

theorem Guarded.step {calls : ι → ExecuteCall F} {phases : ι → Phase} {before after : Binding ι}
    {thread : ι} {hook : Hook F} {response : hook.Response} (guarded : Guarded calls phases before)
    (allowed : (phases thread).Allows (calls thread).executionId (calls thread).bundle hook)
    (answered : Answers thread before hook response after)
    (atSource : GrantsAtSource (calls thread).bundle before hook response) :
    Guarded calls
      (Function.update phases thread ((phases thread).next (calls thread).bundle hook response))
      after := by
  -- an activation is made by the holder, so no other thread is before activation
  have unchanged : ∀ other, other ≠ thread → (phases other).beforeActivation = true →
      after.fingerprint = before.fingerprint := by
    intro other ne isBefore
    apply answered.fingerprint_eq
    rintro lock bundle generation rfl
    obtain ⟨-, sequence, activating⟩ := allowed
    have holds := guarded.holder thread (by rw [activating]; rfl)
    rw [guarded.holder other (Phase.held_of_beforeActivation isBefore)] at holds
    exact ne (Option.some.inj holds)
  -- a granted lock is the only way into the held phases
  have granted : ∀ bindingRef owner digest duration,
      hook = .acquireLock bindingRef owner digest duration →
      ((phases thread).next (calls thread).bundle hook response).held = true →
      after.holder = some thread ∧
        after.fingerprint = (calls thread).bundle.sourceSchemaFingerprint := by
    rintro bindingRef owner digest duration rfl held
    obtain ⟨sequence, done, unlocked⟩ := allowed
    simp only [Phase.next, unlocked, Phase.afterAcquire] at held
    simp only [Answers] at answered
    split at held
    next isOk =>
      rw [if_pos isOk] at answered
      rw [answered.1]
      exact ⟨answered.2.2, atSource isOk⟩
    next => cases held
  constructor
  · intro other held
    by_cases same : other = thread
    · subst other
      rw [Function.update_self] at held
      by_cases acquires : ∃ bindingRef owner digest duration,
          hook = .acquireLock bindingRef owner digest duration
      · obtain ⟨bindingRef, owner, digest, duration, hookEq⟩ := acquires
        exact (granted bindingRef owner digest duration hookEq held).1
      · simp only [not_exists] at acquires
        have wasHeld := guarded.holder thread (Phase.held_of_next held acquires)
        rw [answered.holder_eq acquires]
        · exact wasHeld
        · rintro lock rfl
          cases held
    · rw [Function.update_of_ne same] at held
      exact answered.holder_of_ne same (guarded.holder other held)
  · intro other isBefore
    by_cases same : other = thread
    · subst other
      rw [Function.update_self] at isBefore
      by_cases acquires : ∃ bindingRef owner digest duration,
          hook = .acquireLock bindingRef owner digest duration
      · obtain ⟨bindingRef, owner, digest, duration, hookEq⟩ := acquires
        exact (granted bindingRef owner digest duration hookEq
          (Phase.held_of_beforeActivation isBefore)).2
      · simp only [not_exists] at acquires
        obtain ⟨wasBefore, notActivating⟩ := Phase.beforeActivation_of_next isBefore acquires
        rw [answered.fingerprint_eq]
        · exact guarded.atSource thread wasBefore
        · rintro lock bundle generation rfl
          obtain ⟨-, sequence, activating⟩ := allowed
          exact notActivating lock bundle generation sequence rfl activating
    · rw [Function.update_of_ne same] at isBefore
      rw [unchanged other same isBefore]
      exact guarded.atSource other isBefore

/-- The pool that starts the calls on a binding. -/
def start (calls : ι → ExecuteCall F) (fingerprint : Str) :
    Pool (Hook F) Hook.Response (Except Exc MigrationReport × Locals) ι (Binding ι) :=
  ⟨fun thread => (calls thread).program, ⟨fingerprint, none, .empty, [], false⟩⟩

/-- In every interleaving of executions on one binding in which each is granted
the lock only while the binding is at the source fingerprint of its bundle, every
step is applied at that fingerprint. -/
theorem applies_at_source (calls : ι → ExecuteCall F) (fingerprint : Str)
    {pool : Pool (Hook F) Hook.Response (Except Exc MigrationReport × Locals) ι (Binding ι)}
    (reachable : Pool.Reachable (fun thread before hook response after =>
      Answers thread before hook response after ∧
        GrantsAtSource (calls thread).bundle before hook response) (start calls fingerprint) pool)
    {thread : ι} {lock : MigrationLock} {step : CompiledMigrationStep} {token : Option Str}
    {next : (Hook.applyStep lock step token : Hook F).Response → Running F}
    (applies : pool.threads thread = .call (.applyStep lock step token) next) :
    pool.state.fingerprint = (calls thread).bundle.sourceSchemaFingerprint := by
  have initially : Pool.Governed (fun thread => (calls thread).automaton) (Guarded calls)
      (fun _ => .reading) (start calls fingerprint) := by
    refine ⟨fun thread => (calls thread).follows, ?_, ?_⟩
    · intro thread held
      cases held
    · intro thread isBefore
      cases isBefore
  obtain ⟨phases, governed⟩ := reachable.governed
    (fun phases state thread hook response after guarded allowed answered =>
      guarded.step allowed answered.1 answered.2) initially
  have follows := governed.follows thread
  rw [applies] at follows
  exact governed.invariant.atSource thread (Phase.beforeActivation_of_nextStep follows.allows)

/-! ## A deterministic adapter -/

/-- The fingerprint whose digits are all the given one. -/
def uniformFingerprint (digit : CodePoint) : Str := str "sha256:" ++ List.replicate 64 digit

theorem isSha256_uniformFingerprint : isSha256 (uniformFingerprint 48) = true := by decide +kernel

/-- The plan that compiles every step to the same artifact. -/
def compileUniformly (bundle : MigrationBundleV1 F) : Except Exc CompiledMigrationPlan :=
  let steps : List CompiledMigrationStep := bundle.steps.map fun step =>
    ⟨step.stepId, str "compiler", uniformFingerprint 48, ⟨step.stepId_ne, by decide⟩,
      isSha256_uniformFingerprint⟩
  match computed : sha256Digest (planMaterial bundle.digest steps) with
  | .ok digest =>
      .ok ⟨bundle.digest, steps, digest, isSha256_of_sha256Digest bundle.digest_eq, computed⟩
  | .error error => .error error

/-- An adapter that grants the lock when it is free and never fails otherwise,
over an `InMemoryMigrationRecorder`. -/
def serve (thread : ι) (binding : Binding ι) :
    (hook : Hook F) → hook.Response × Binding ι
  | .uuid4 => (.ok ⟨str "execution", by decide⟩, binding)
  | .cancelled => (.ok false, binding)
  | .clock => (.ok (.ofUtc ⟨1000, by decide⟩), binding)
  | .checkpoints executionId => (.ok (binding.recorder.checkpoints executionId), binding)
  | .append checkpoint =>
      ((binding.recorder.append checkpoint).1, { binding with
        recorder := (binding.recorder.append checkpoint).2
        planned := binding.planned ||
          (checkpoint.state = .planned && (binding.recorder.append checkpoint).1.isOk) })
  | .inspectState _ =>
      if valid : isSha256 binding.fingerprint = true then
        (.ok ⟨binding.fingerprint, binding.fingerprint, str "g1", .inr 1, valid, valid, by decide⟩,
          binding)
      else (.error (.valueError "unknown binding"), binding)
  | .runCondition _ => (.error (.valueError "unknown condition"), binding)
  | .acquireLock _ owner digest _ =>
      if valid : owner ≠ [] ∧ isSha256 digest = true ∧ binding.holder = none then
        (.ok ⟨str "lock", owner, digest, ⟨2000, by decide⟩, ⟨by decide, valid.1⟩, valid.2.1⟩,
          { binding with holder := some thread, planned := false })
      else (.error (.migrationConflict "the lock is held"), binding)
  | .compile bundle => (compileUniformly bundle, binding)
  | .applyStep _ step _ =>
      (.ok ⟨step.stepId, uniformFingerprint 48, str "token", ⟨step.nonempty.1, by decide⟩,
        isSha256_uniformFingerprint⟩, { binding with applied := binding.applied ++ [step.stepId] })
  | .activate _ bundle _ =>
      (.ok ⟨str "g2", str "g1", bundle.targetSchemaFingerprint, str "boundary", by decide,
        bundle.valid.targetSchemaFingerprint⟩,
        { binding with fingerprint := bundle.targetSchemaFingerprint })
  | .releaseLock _ =>
      (.ok (), if binding.holder = some thread then { binding with holder := none, planned := false }
        else binding)
  | .record _ => (.ok (), binding)

theorem serve_answers (thread : ι) (binding : Binding ι) (hook : Hook F) :
    Answers thread binding hook (serve thread binding hook).1 (serve thread binding hook).2 := by
  cases hook with
  | inspectState =>
      simp only [serve]
      split
      · refine ⟨rfl, rfl, ?_⟩
        rintro evidence ⟨⟩
        rfl
      · refine ⟨rfl, rfl, ?_⟩
        rintro evidence ⟨⟩
  | acquireLock =>
      simp only [serve]
      split
      next valid => exact ⟨rfl, valid.2.2, rfl⟩
      next => exact ⟨rfl, rfl⟩
  | activate => exact ⟨rfl, rfl⟩
  | releaseLock =>
      simp only [serve]
      split
      next holds => exact ⟨rfl, .inr (if_pos holds).symm⟩
      next others => exact ⟨rfl, .inr (if_neg others).symm⟩
  | _ => exact ⟨rfl, rfl⟩

/-- A bundle of one step, for closed runs. -/
def sampleBundle : MigrationBundleV1 Empty where
  sourceSchemaFingerprint := uniformFingerprint 48
  targetSchemaFingerprint := uniformFingerprint 49
  steps := [⟨str "add-total", .addField, [], [], .reversible, by decide, by decide⟩]
  bundleId := str "orders-v2"
  digest := str "sha256:797801065f0f654488e3875b80d4700c3418acc1c3b4d5f8c51da5997568d952"
  valid :=
    { sourceSchemaFingerprint := by decide +kernel
      targetSchemaFingerprint := by decide +kernel
      bundleId := show str "orders-v2" ≠ [] by decide
      steps := List.cons_ne_nil _ _
      stepIds := by decide
      conditionNames := by decide
      compilerRequirements := by decide }
  digest_eq := by decide +kernel

/-- A call of the sample bundle. -/
def sampleCall (owner executionId : String) : ExecuteCall Empty :=
  ⟨900000000, str "orders", sampleBundle, str owner, some (str executionId)⟩

/-- Two jobs with their own execution ids. -/
def twoJobs (second : Bool) : ExecuteCall Empty :=
  if second then sampleCall "job-2" "migration-2" else sampleCall "job-1" "migration-1"

/-- The second job looks at the binding, the first one migrates it, and the second
one goes on until it is about to apply its step. -/
def overlappingJobs : Pool (Hook Empty) Hook.Response (Except Exc MigrationReport × Locals) Bool
    (Binding Bool) :=
  Pool.schedule serve (start twoJobs (uniformFingerprint 48))
    (List.replicate 3 true ++ List.replicate 40 false ++ List.replicate 9 true)

/-- The fingerprint of the binding when a thread is about to apply a step. -/
def appliesAt (pool : Pool (Hook F) Hook.Response (Except Exc MigrationReport × Locals) ι
    (Binding ι)) (thread : ι) : Option Str :=
  match pool.threads thread with
  | .call (.applyStep _ _ _) _ => some pool.state.fingerprint
  | _ => none

omit [DecidableEq ι] in
theorem appliesAt_eq_some {pool : Pool (Hook F) Hook.Response (Except Exc MigrationReport × Locals) ι
    (Binding ι)} {thread : ι} {fingerprint : Str}
    (applies : appliesAt pool thread = some fingerprint) :
    pool.state.fingerprint = fingerprint ∧ ∃ lock step token next,
      pool.threads thread = .call (.applyStep lock step token) next := by
  unfold appliesAt at applies
  split at applies
  next lock step token next requests =>
    cases applies
    exact ⟨rfl, lock, step, token, next, requests⟩
  next => cases applies

/-- The second job is about to apply its step although the binding has already
been migrated away from the source fingerprint of its bundle. -/
theorem applies_after_migration :
    ¬ ∀ pool, Pool.Reachable Answers (start twoJobs (uniformFingerprint 48)) pool →
      ∀ thread lock step token next,
        pool.threads thread = .call (.applyStep lock step token) next →
        pool.state.fingerprint = (twoJobs thread).bundle.sourceSchemaFingerprint := by
  intro always
  obtain ⟨migrated, lock, step, token, next, applies⟩ := appliesAt_eq_some
    (show appliesAt overlappingJobs true = some (uniformFingerprint 49) by decide +kernel)
  have atSource := always overlappingJobs (Pool.schedule_reachable serve_answers _ _) true lock step
    token next applies
  rw [migrated] at atSource
  exact absurd atSource (by decide +kernel)

/-- The adapter that grants a call the lock only at the source fingerprint of its
bundle. -/
def serveAtSource (calls : ι → ExecuteCall F) (thread : ι) (binding : Binding ι) (hook : Hook F) :
    hook.Response × Binding ι :=
  match hook with
  | .acquireLock bindingRef owner digest duration =>
      if binding.fingerprint = (calls thread).bundle.sourceSchemaFingerprint then
        serve thread binding (.acquireLock bindingRef owner digest duration)
      else (.error (.migrationConflict "the binding has moved on"), binding)
  | hook => serve thread binding hook

theorem serveAtSource_answers (calls : ι → ExecuteCall F) (thread : ι) (binding : Binding ι)
    (hook : Hook F) :
    Answers thread binding hook (serveAtSource calls thread binding hook).1
      (serveAtSource calls thread binding hook).2 := by
  cases hook with
  | acquireLock =>
      simp only [serveAtSource]
      split
      · exact serve_answers _ _ _
      · exact ⟨rfl, rfl⟩
  | _ => exact serve_answers _ _ _

theorem serveAtSource_grantsAtSource (calls : ι → ExecuteCall F) (thread : ι) (binding : Binding ι)
    (hook : Hook F) :
    GrantsAtSource (calls thread).bundle binding hook
      (serveAtSource calls thread binding hook).1 := by
  cases hook with
  | acquireLock =>
      simp only [GrantsAtSource, serveAtSource]
      split
      next same => exact fun _ => same
      next => intro granted; cases granted
  | _ => exact trivial

/-- The bundle that moves on from the target of the sample bundle. -/
def followingBundle : MigrationBundleV1 Empty where
  toBundleFields := { sampleBundle.toBundleFields with
    sourceSchemaFingerprint := uniformFingerprint 49
    targetSchemaFingerprint := uniformFingerprint 50
    bundleId := str "orders-v3" }
  digest := str "sha256:f3c85fb57befc3155a1c5992b5ac8d8a10bbf1f70beacae217c4f6a5c7f4761d"
  valid :=
    { sourceSchemaFingerprint := by decide +kernel
      targetSchemaFingerprint := by decide +kernel
      bundleId := show str "orders-v3" ≠ [] by decide
      steps := sampleBundle.valid.steps
      stepIds := sampleBundle.valid.stepIds
      conditionNames := sampleBundle.valid.conditionNames
      compilerRequirements := sampleBundle.valid.compilerRequirements }
  digest_eq := by decide +kernel

/-- Two jobs of the sample bundle and one of the bundle that follows it. -/
def threeJobs : Fin 3 → ExecuteCall Empty
  | 0 => sampleCall "job-1" "migration-1"
  | 1 => sampleCall "job-2" "migration-2"
  | 2 => ⟨900000000, str "orders", followingBundle, str "job-3", some (str "migration-3")⟩

/-- The second job looks at the binding and the first one migrates it, so the second
one is refused the lock; the third one goes on until it is about to apply its step. -/
def successiveJobs : Pool (Hook Empty) Hook.Response (Except Exc MigrationReport × Locals) (Fin 3)
    (Binding (Fin 3)) :=
  Pool.schedule (serveAtSource threeJobs) (start threeJobs (uniformFingerprint 48))
    (List.replicate 3 1 ++ List.replicate 30 0 ++ List.replicate 9 1 ++ List.replicate 12 2)

/-- What a thread has raised. -/
def raised (pool : Pool (Hook F) Hook.Response (Except Exc MigrationReport × Locals) ι
    (Binding ι)) (thread : ι) : Option Exc :=
  match pool.threads thread with
  | .ret (.error error, _) => some error
  | _ => none

/-- The job that is late for the lock fails, and the third job applies its step at the
fingerprint that the first one has left. -/
theorem applies_at_source_sample :
    raised successiveJobs 1 = some (.migrationConflict "the binding has moved on") ∧
      successiveJobs.state.applied ≠ [] ∧
      successiveJobs.state.fingerprint = followingBundle.sourceSchemaFingerprint := by
  have ran : (raised successiveJobs 1 = some (.migrationConflict "the binding has moved on") ∧
      successiveJobs.state.applied ≠ []) ∧
      appliesAt successiveJobs 2 = some (uniformFingerprint 49) := by decide +kernel
  obtain ⟨-, lock, step, token, next, applies⟩ := appliesAt_eq_some ran.2
  refine and_assoc.mp ⟨ran.1, ?_⟩
  apply applies_at_source threeJobs (uniformFingerprint 48) _ applies
  apply Pool.schedule_reachable
  intro thread binding hook
  exact ⟨serveAtSource_answers threeJobs thread binding hook,
    serveAtSource_grantsAtSource threeJobs thread binding hook⟩

end Binding

end DataLifecycle.Migration
