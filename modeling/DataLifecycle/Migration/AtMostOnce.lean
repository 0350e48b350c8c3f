import DataLifecycle.Migration.Binding

/-!
# Concurrent executions over one log

Executions of one bundle under one execution id share a log.  A stale execution
is stopped by the recorder when it records PLANNED, so the holder of the lock
knows exactly the recorded steps, as long as nobody without the lock gets a
checkpoint into the log while it applies its plan.
-/

namespace DataLifecycle.Migration

open Python Interaction

variable {F : Type} [FloatText F] {ι : Type} [DecidableEq ι]

namespace Binding

/-- The log of an execution id. -/
def log (binding : Binding ι) (executionId : Str) : List MigrationCheckpoint :=
  binding.recorder.checkpoints executionId

/-- An adapter with one exclusive lock whose `apply_step` succeeds, a working clock
and an `InMemoryMigrationRecorder`; all else may return or raise anything. -/
def Records (thread : ι) (before : Binding ι) :
    (hook : Hook F) → hook.Response → Binding ι → Prop
  | .checkpoints executionId, response, after =>
      response = .ok (before.recorder.checkpoints executionId) ∧ after = before
  | .append checkpoint, response, after =>
      response = (before.recorder.append checkpoint).1 ∧ after = { before with
        recorder := (before.recorder.append checkpoint).2
        planned := before.planned ||
          (checkpoint.state = .planned && (before.recorder.append checkpoint).1.isOk) }
  | .clock, response, after =>
      (∃ now, response = .ok now ∧ (ensureUtc "recorded_at" now).isOk = true) ∧ after = before
  | .acquireLock _ _ _ _, response, after =>
      if response.isOk then
        before.holder = none ∧ after = { before with holder := some thread, planned := false }
      else after = before
  | .applyStep _ step _, response, after =>
      (∃ ack, response = .ok ack ∧ ack.stepId = step.stepId) ∧
        after = { before with applied := before.applied ++ [step.stepId] }
  | .releaseLock _, response, after =>
      after = before ∧ response.isOk = false ∨
        after = if before.holder = some thread then { before with holder := none, planned := false }
          else before
  | .activate _ _ _, _, after => ∃ fingerprint, after = { before with fingerprint := fingerprint }
  | _, _, after => after = before

/-- A call without the lock gets a checkpoint into the log only while no other call
is between its PLANNED checkpoint and the record of the last step. -/
def KeepsOut (bundle : MigrationBundleV1 F) (executionId : Str) (thread : ι) (before : Binding ι) :
    Hook F → Prop
  | .append checkpoint =>
      ∀ holder, before.holder = some holder → holder ≠ thread → before.planned = true →
        InMemoryMigrationRecorder.accepts (before.log executionId) checkpoint = true →
        ∀ step ∈ bundle.stepIds, step ∈ completedSteps (before.log executionId)
  | _ => True

end Binding

/-- The steps of a bundle that a log does not record. -/
def unrecorded (stepIds : List Str) (records : List MigrationCheckpoint) : List Str :=
  stepIds.filter fun step => step ∉ completedSteps records

/-- Sequence and recorded steps were read from an earlier state of the log. -/
def ReadFrom (records : List MigrationCheckpoint) (sequence : Nat) (done : List Str) : Prop :=
  ∃ read rest, records = read ++ rest ∧ sequence = nextSequence read ∧ done = completedSteps read

/-- What the log says about an execution in a phase. -/
def Phase.Fits (stepIds : List Str) (records : List MigrationCheckpoint) (planned : Bool) :
    Phase → Prop
  | .unlocked sequence done => ReadFrom records sequence done
  | .locked sequence done => ReadFrom records sequence done
  | .applying sequence todo =>
      planned = true ∧ todo = unrecorded stepIds records ∧
        (todo ≠ [] → nextSequence records = sequence)
  | .applied sequence step todo =>
      planned = true ∧ step :: todo = unrecorded stepIds records ∧ nextSequence records = sequence
  | .recording sequence step todo =>
      planned = true ∧ step :: todo = unrecorded stepIds records ∧ nextSequence records = sequence
  | _ => True

/-- The invariant of concurrent executions over one log. -/
structure Logged (bundle : MigrationBundleV1 F) (executionId : Str) (phases : ι → Phase)
    (binding : Binding ι) : Prop where
  increasing : Increasing (binding.log executionId)
  holder : ∀ thread, (phases thread).held = true → binding.holder = some thread
  fits : ∀ thread,
    (phases thread).Fits bundle.stepIds (binding.log executionId) binding.planned
  nodup : binding.applied.Nodup
  recorded : ∀ step ∈ binding.applied,
    step ∈ completedSteps (binding.log executionId) ∨
      ∃ thread, (phases thread).inFlight = some step

/-! ## Phases and the log -/

theorem ReadFrom.append {records : List MigrationCheckpoint} {sequence : Nat} {done : List Str}
    (readFrom : ReadFrom records sequence done) (more : List MigrationCheckpoint) :
    ReadFrom (records ++ more) sequence done := by
  obtain ⟨read, rest, rfl, sequenceEq, doneEq⟩ := readFrom
  exact ⟨read, rest ++ more, List.append_assoc read rest more, sequenceEq, doneEq⟩

theorem Phase.held_of_inFlight {phase : Phase} {step : Str} (inFlight : phase.inFlight = some step) :
    phase.held = true := by
  cases phase <;> first | rfl | cases inFlight

theorem Phase.held_of_due {phase : Phase} {due : MigrationState × Nat × Option Str}
    (isDue : phase.due = some due) : phase.held = true := by
  cases phase <;> first | rfl | cases isDue

/-- The log may grow behind an execution without the lock. -/
theorem Phase.Fits.append_of_not_held {stepIds : List Str} {records : List MigrationCheckpoint}
    {planned : Bool} {phase : Phase} (fits : phase.Fits stepIds records planned)
    (notHeld : phase.held = false) (more : List MigrationCheckpoint) (planned' : Bool) :
    phase.Fits stepIds (records ++ more) planned' := by
  cases phase with
  | unlocked => exact ReadFrom.append fits more
  | _ => first | exact trivial | cases notHeld

/-- A failure of another execution does not matter once every step is recorded. -/
theorem Phase.Fits.append_of_recorded {stepIds : List Str} {records : List MigrationCheckpoint}
    {planned : Bool} {phase : Phase} (fits : phase.Fits stepIds records planned)
    {checkpoint : MigrationCheckpoint} (notApplying : checkpoint.state ≠ .applying)
    (allRecorded : planned = true → unrecorded stepIds records = []) :
    phase.Fits stepIds (records ++ [checkpoint]) planned := by
  cases phase with
  | unlocked => exact ReadFrom.append fits _
  | locked => exact ReadFrom.append fits _
  | applying sequence todo =>
      obtain ⟨isPlanned, todoEq, -⟩ := fits
      rw [allRecorded isPlanned] at todoEq
      subst todoEq
      refine ⟨isPlanned, ?_, fun nonempty => absurd rfl nonempty⟩
      rw [unrecorded, completedSteps_append_of_ne notApplying]
      exact (allRecorded isPlanned).symm
  | applied sequence step todo =>
      rw [Fits, allRecorded fits.1] at fits
      cases fits.2.1
  | recording sequence step todo =>
      rw [Fits, allRecorded fits.1] at fits
      cases fits.2.1
  | _ => exact trivial

/-- Recording the first unrecorded step leaves the others. -/
theorem unrecorded_append {stepIds todo : List Str} {step : Str}
    {records : List MigrationCheckpoint} {checkpoint : MigrationCheckpoint} (nodup : stepIds.Nodup)
    (left : step :: todo = unrecorded stepIds records) (isApplying : checkpoint.state = .applying)
    (stepEq : checkpoint.stepId = some step) :
    todo = unrecorded stepIds (records ++ [checkpoint]) := by
  have distinct : (step :: todo).Nodup := by
    rw [left]
    exact nodup.filter _
  have others : ∀ other ∈ todo, other ≠ step := by
    rintro other member rfl
    exact (List.nodup_cons.mp distinct).1 member
  have split : unrecorded stepIds (records ++ [checkpoint]) =
      (unrecorded stepIds records).filter fun other => other ≠ step := by
    rw [unrecorded, unrecorded, List.filter_filter, completedSteps_append, if_pos isApplying, stepEq]
    apply List.filter_congr
    intro other _
    simp [not_or, and_comm]
  rw [split, ← left, List.filter_cons]
  simp only [ne_eq, not_true_eq_false, decide_false, Bool.false_eq_true, if_false]
  exact (List.filter_eq_self.mpr fun other member => by simpa using others other member).symm

/-- What an execution knows after the recorder took its checkpoint. -/
theorem Phase.Fits.afterAppend_of_accepts {bundle : MigrationBundleV1 F} {executionId : Str}
    {records : List MigrationCheckpoint} {planned : Bool} {phase : Phase}
    {checkpoint : MigrationCheckpoint} (fits : phase.Fits bundle.stepIds records planned)
    (increasing : Increasing records)
    (allowed : phase.MayAppend (some executionId) bundle checkpoint)
    (accepted : nextSequence records ≤ checkpoint.sequence) :
    (phase.afterAppend bundle checkpoint true).Fits bundle.stepIds (records ++ [checkpoint])
        (planned || decide (checkpoint.state = .planned)) ∧
      ∀ step, phase.inFlight = some step → step ∈ completedSteps (records ++ [checkpoint]) := by
  cases allowed with
  | failure mayFail writes =>
      rw [Phase.afterAppend, if_pos writes.state_eq]
      refine ⟨trivial, ?_⟩
      intro step inFlight
      rw [Phase.inFlight_of_calm (Phase.calm_of_failure mayFail)] at inFlight
      cases inFlight
  | due isDue writes =>
      have notFailed : checkpoint.state ≠ .failed := by
        rw [writes.state_eq]
        exact Phase.ne_failed_of_due isDue
      rw [Phase.afterAppend, if_neg notFailed, isDue]
      cases phase with
      | locked sequence done =>
          cases isDue
          obtain ⟨read, rest, rfl, rfl, rfl⟩ := fits
          rw [writes.sequence_eq] at accepted
          obtain rfl := increasing.eq_nil_of_le accepted
          have notApplying : checkpoint.state ≠ .applying := by
            rw [writes.state_eq]
            decide
          refine ⟨⟨?_, ?_, ?_⟩, by rintro step ⟨⟩⟩
          · simp [writes.state_eq]
          · rw [unrecorded, completedSteps_append_of_ne notApplying, List.append_nil]
          · intro _
            rw [nextSequence_append, writes.sequence_eq]
      | recording sequence step todo =>
          cases isDue
          obtain ⟨isPlanned, left, sequenceEq⟩ := fits
          refine ⟨⟨?_, ?_, ?_⟩, ?_⟩
          · simp [isPlanned]
          · exact unrecorded_append bundle.valid.stepIds left writes.state_eq writes.stepId_eq
          · intro _
            rw [nextSequence_append, writes.sequence_eq]
          · rintro other ⟨⟩
            rw [completedSteps_append, if_pos writes.state_eq, writes.stepId_eq]
            simp
      | unlocked => cases isDue
      | applied => cases isDue
      | _ => exact ⟨trivial, by rintro step ⟨⟩⟩

/-- What an execution knows after the recorder rejected its checkpoint. -/
theorem Phase.Fits.afterAppend_of_rejects {bundle : MigrationBundleV1 F} {executionId : Str}
    {records : List MigrationCheckpoint} {planned : Bool} {phase : Phase}
    {checkpoint : MigrationCheckpoint} (fits : phase.Fits bundle.stepIds records planned)
    (allowed : phase.MayAppend (some executionId) bundle checkpoint)
    (rejected : ¬ nextSequence records ≤ checkpoint.sequence) :
    (phase.afterAppend bundle checkpoint false).Fits bundle.stepIds records planned ∧
      (phase.afterAppend bundle checkpoint false).inFlight = phase.inFlight := by
  cases allowed with
  | failure mayFail writes =>
      rw [Phase.afterAppend, if_pos writes.state_eq]
      exact ⟨trivial, (Phase.inFlight_of_calm (Phase.calm_of_failure mayFail)).symm⟩
  | due isDue writes =>
      have notFailed : checkpoint.state ≠ .failed := by
        rw [writes.state_eq]
        exact Phase.ne_failed_of_due isDue
      rw [Phase.afterAppend, if_neg notFailed, isDue]
      refine ⟨trivial, ?_⟩
      cases phase with
      | recording sequence step todo =>
          cases isDue
          rw [writes.sequence_eq, fits.2.2] at rejected
          exact absurd le_rfl rejected
      | applied => cases isDue
      | _ => rfl

/-! ## One step of the pool -/

section Step

variable {bundle : MigrationBundleV1 F} {executionId : Str} {phases : ι → Phase}
  {before after : Binding ι} {thread : ι}

/-- The invariant after one thread has moved. -/
theorem Logged.of_update {phase : Phase}
    (increasing : Increasing (after.log executionId))
    (holder : phase.held = true → after.holder = some thread)
    (others : ∀ other, other ≠ thread → (phases other).held = true → after.holder = some other)
    (fits : phase.Fits bundle.stepIds (after.log executionId) after.planned)
    (fitOthers : ∀ other, other ≠ thread →
      (phases other).Fits bundle.stepIds (after.log executionId) after.planned)
    (nodup : after.applied.Nodup)
    (recorded : ∀ step ∈ after.applied, step ∈ completedSteps (after.log executionId) ∨
      phase.inFlight = some step ∨
      ∃ other, other ≠ thread ∧ (phases other).inFlight = some step) :
    Logged bundle executionId (Function.update phases thread phase) after := by
  refine ⟨increasing, ?_, ?_, nodup, ?_⟩
  · intro other held
    by_cases same : other = thread
    · subst other
      rw [Function.update_self] at held
      exact holder held
    · rw [Function.update_of_ne same] at held
      exact others other same held
  · intro other
    by_cases same : other = thread
    · subst other
      rw [Function.update_self]
      exact fits
    · rw [Function.update_of_ne same]
      exact fitOthers other same
  · intro step member
    rcases recorded step member with inLog | isOwn | ⟨other, ne, inFlight⟩
    · exact .inl inLog
    · exact .inr ⟨thread, by rw [Function.update_self]; exact isOwn⟩
    · exact .inr ⟨other, by rw [Function.update_of_ne ne]; exact inFlight⟩

omit [DecidableEq ι] in
/-- Under the lock of one thread no other thread holds it. -/
theorem Logged.not_held (logged : Logged bundle executionId phases before) {other : ι}
    (held : (phases thread).held = true) (ne : other ≠ thread) : (phases other).held = false := by
  rw [← Bool.not_eq_true]
  intro otherHeld
  have same := logged.holder thread held
  rw [logged.holder other otherHeld] at same
  exact ne (Option.some.inj same)

/-- A thread moves to a phase with the same in-flight step while the shared state
stays. -/
theorem Logged.of_same {phase : Phase} (logged : Logged bundle executionId phases before)
    (held : phase.held = true → (phases thread).held = true)
    (fits : phase.Fits bundle.stepIds (before.log executionId) before.planned)
    (inFlight : phase.inFlight = (phases thread).inFlight) :
    Logged bundle executionId (Function.update phases thread phase) before := by
  apply Logged.of_update logged.increasing (fun isHeld => logged.holder thread (held isHeld))
    (fun other _ => logged.holder other) fits (fun other _ => logged.fits other) logged.nodup
  intro step member
  rcases logged.recorded step member with inLog | ⟨other, isInFlight⟩
  · exact .inl inLog
  · by_cases same : other = thread
    · subst other
      exact .inr (.inl (inFlight.trans isInFlight))
    · exact .inr (.inr ⟨other, same, isInFlight⟩)

omit [DecidableEq ι] in
/-- Only the fingerprint differs. -/
theorem Logged.of_fingerprint (logged : Logged bundle executionId phases before)
    (fingerprint : Str) :
    Logged bundle executionId phases { before with fingerprint := fingerprint } :=
  ⟨logged.increasing, logged.holder, logged.fits, logged.nodup, logged.recorded⟩

theorem Logged.read (logged : Logged bundle executionId phases before) {runId : Str}
    {response : (Hook.checkpoints runId : Hook F).Response}
    (allowed : (phases thread).Allows (some executionId) bundle (.checkpoints runId))
    (answered : Binding.Records thread before (.checkpoints runId) response after) :
    Logged bundle executionId (Function.update phases thread
      ((phases thread).next bundle (.checkpoints runId) response)) after := by
  obtain ⟨rfl, rfl⟩ := answered
  rcases allowed with ⟨reading, supplied⟩ | ⟨sequence, completed⟩
  · obtain rfl := supplied executionId rfl
    apply logged.of_same
    · simp only [reading, Phase.next, Phase.afterRead]
      split <;> exact id
    · simp only [reading, Phase.next, Phase.afterRead]
      split
      · exact trivial
      · exact ⟨_, [], (List.append_nil _).symm, rfl, rfl⟩
    · simp only [reading, Phase.next, Phase.afterRead]
      split <;> rfl
  · apply logged.of_same
    · simp only [completed, Phase.next, Phase.afterRead]
      exact id
    · simp only [completed, Phase.next, Phase.afterRead]
      exact trivial
    · simp only [completed, Phase.next, Phase.afterRead]

theorem Logged.clock (logged : Logged bundle executionId phases before)
    {response : (Hook.clock : Hook F).Response}
    (answered : Binding.Records thread before (.clock : Hook F) response after) :
    Logged bundle executionId (Function.update phases thread
      ((phases thread).next bundle .clock response)) after := by
  obtain ⟨⟨now, rfl, aware⟩, rfl⟩ := answered
  have fits := logged.fits thread
  have moved : (phases thread).next bundle .clock (.ok now) = (phases thread).afterClock true := by
    rw [← aware]
    rfl
  rw [moved]
  cases phaseEq : phases thread with
  | applied sequence step todo =>
      rw [phaseEq] at fits
      apply logged.of_same
      · intro _
        rw [phaseEq]
        rfl
      · exact fits
      · rw [phaseEq]
        rfl
  | _ =>
      rw [phaseEq] at fits
      apply logged.of_same
      · rw [phaseEq]
        exact id
      · exact fits
      · rw [phaseEq]
        rfl

theorem Logged.acquired (logged : Logged bundle executionId phases before)
    {bindingRef owner digest : Str} {duration : Int}
    {response : (Hook.acquireLock bindingRef owner digest duration : Hook F).Response}
    (allowed : (phases thread).Allows (some executionId) bundle
      (.acquireLock bindingRef owner digest duration))
    (answered : Binding.Records thread before (.acquireLock bindingRef owner digest duration : Hook F)
      response after) :
    Logged bundle executionId (Function.update phases thread
      ((phases thread).next bundle (.acquireLock bindingRef owner digest duration) response))
      after := by
  obtain ⟨sequence, done, unlocked⟩ := allowed
  have fits := logged.fits thread
  rw [unlocked] at fits
  simp only [Binding.Records] at answered
  simp only [Phase.next, unlocked, Phase.afterAcquire]
  split at answered
  next granted =>
    obtain ⟨free, rfl⟩ := answered
    have nobody : ∀ other, (phases other).held = false := by
      intro other
      rw [← Bool.not_eq_true]
      intro held
      have holds := logged.holder other held
      rw [free] at holds
      cases holds
    rw [if_pos granted]
    apply Logged.of_update
    · exact logged.increasing
    · intro _
      rfl
    · intro other _ held
      rw [nobody other] at held
      cases held
    · exact fits
    · intro other _
      have grown := (logged.fits other).append_of_not_held (nobody other) [] false
      rw [List.append_nil] at grown
      exact grown
    · exact logged.nodup
    · intro step member
      rcases logged.recorded step member with inLog | ⟨other, inFlight⟩
      · exact .inl inLog
      · have held := Phase.held_of_inFlight inFlight
        rw [nobody other] at held
        cases held
  next refused =>
    subst after
    rw [if_neg refused]
    apply logged.of_same
    · intro held
      cases held
    · exact fits
    · rw [unlocked]

theorem Logged.applied (logged : Logged bundle executionId phases before) {lock : MigrationLock}
    {compiled : CompiledMigrationStep} {token : Option Str}
    {response : (Hook.applyStep lock compiled token : Hook F).Response}
    (allowed : (phases thread).Allows (some executionId) bundle (.applyStep lock compiled token))
    (answered : Binding.Records thread before (.applyStep lock compiled token : Hook F) response
      after) :
    Logged bundle executionId (Function.update phases thread
      ((phases thread).next bundle (.applyStep lock compiled token) response)) after := by
  obtain ⟨⟨ack, rfl, acknowledges⟩, rfl⟩ := answered
  obtain ⟨sequence, todo, applying⟩ : ∃ sequence todo,
      phases thread = .applying sequence (compiled.stepId :: todo) := by
    cases phaseEq : phases thread with
    | applying sequence todo =>
        cases todo with
        | nil => simp [Phase.Allows, phaseEq, Phase.nextStep] at allowed
        | cons step todo =>
            simp only [Phase.Allows, phaseEq, Phase.nextStep, Option.some.injEq] at allowed
            exact ⟨sequence, todo, by rw [allowed]⟩
    | _ => simp [Phase.Allows, phaseEq, Phase.nextStep] at allowed
  have fits := logged.fits thread
  have isHeld : (phases thread).held = true := by
    rw [applying]
    rfl
  rw [applying] at fits
  obtain ⟨isPlanned, left, sequenceEq⟩ := fits
  -- nothing is in flight, so everything applied is recorded
  have allRecorded : ∀ step ∈ before.applied, step ∈ completedSteps (before.log executionId) := by
    intro step member
    rcases logged.recorded step member with inLog | ⟨other, inFlight⟩
    · exact inLog
    · exfalso
      by_cases same : other = thread
      · subst other
        rw [applying] at inFlight
        cases inFlight
      · have held := Phase.held_of_inFlight inFlight
        rw [logged.not_held isHeld same] at held
        cases held
  have fresh : compiled.stepId ∉ completedSteps (before.log executionId) := by
    have member : compiled.stepId ∈ unrecorded bundle.stepIds (before.log executionId) := by
      rw [← left]
      exact List.mem_cons_self
    simpa using (List.mem_filter.mp member).2
  have moved : (phases thread).next bundle (.applyStep lock compiled token) (.ok ack) =
      .applied sequence compiled.stepId todo := by
    rw [applying]
    exact if_pos (congrArg some acknowledges)
  rw [moved]
  apply Logged.of_update
  · exact logged.increasing
  · intro _
    exact logged.holder thread isHeld
  · intro other _
    exact logged.holder other
  · exact ⟨isPlanned, left, sequenceEq (List.cons_ne_nil _ _)⟩
  · intro other _
    exact logged.fits other
  · apply List.nodup_append.mpr
    refine ⟨logged.nodup, List.nodup_singleton _, ?_⟩
    rintro step member other otherMem rfl
    rw [List.mem_singleton.mp otherMem] at member
    exact fresh (allRecorded _ member)
  · intro step member
    rcases List.mem_append.mp member with earlier | isStep
    · exact .inl (allRecorded step earlier)
    · rw [List.mem_singleton.mp isStep]
      exact .inr (.inl rfl)

theorem Logged.released (logged : Logged bundle executionId phases before) {lock : MigrationLock}
    {response : (Hook.releaseLock lock : Hook F).Response}
    (allowed : (phases thread).Allows (some executionId) bundle (.releaseLock lock))
    (answered : Binding.Records thread before (.releaseLock lock : Hook F) response after) :
    Logged bundle executionId (Function.update phases thread
      ((phases thread).next bundle (.releaseLock lock) response)) after := by
  obtain ⟨isHeld, nothing⟩ := allowed
  rcases answered with ⟨rfl, -⟩ | rfl
  · apply logged.of_same
    · intro held
      cases held
    · exact trivial
    · exact nothing.symm
  · rw [if_pos (logged.holder thread isHeld)]
    apply Logged.of_update
    · exact logged.increasing
    · intro held
      cases held
    · intro other ne held
      rw [logged.not_held isHeld ne] at held
      cases held
    · exact trivial
    · intro other ne
      have grown := (logged.fits other).append_of_not_held (logged.not_held isHeld ne) [] false
      rw [List.append_nil] at grown
      exact grown
    · exact logged.nodup
    · intro step member
      rcases logged.recorded step member with inLog | ⟨other, inFlight⟩
      · exact .inl inLog
      · by_cases same : other = thread
        · subst other
          rw [nothing] at inFlight
          cases inFlight
        · exact .inr (.inr ⟨other, same, inFlight⟩)

theorem Logged.activated (logged : Logged bundle executionId phases before) {lock : MigrationLock}
    {target : MigrationBundleV1 F} {generation : Str}
    {response : (Hook.activate lock target generation : Hook F).Response}
    (allowed : (phases thread).Allows (some executionId) bundle (.activate lock target generation))
    (answered : Binding.Records thread before (.activate lock target generation) response after) :
    Logged bundle executionId (Function.update phases thread
      ((phases thread).next bundle (.activate lock target generation) response)) after := by
  obtain ⟨-, sequence, activating⟩ := allowed
  obtain ⟨fingerprint, rfl⟩ := answered
  apply Logged.of_fingerprint
  simp only [Phase.next, activating, Phase.afterActivate]
  split
  · apply logged.of_same
    · intro _
      rw [activating]
      rfl
    · exact trivial
    · rw [activating]
      rfl
  · apply logged.of_same
    · intro _
      rw [activating]
      rfl
    · exact trivial
    · rw [activating]
      rfl

omit [DecidableEq ι] in
/-- What another execution knows stays true when a checkpoint is taken. -/
theorem Logged.fits_append (logged : Logged bundle executionId phases before)
    {checkpoint : MigrationCheckpoint} {other : ι} (ne : other ≠ thread)
    (allowed : (phases thread).MayAppend (some executionId) bundle checkpoint)
    (keptOut : Binding.KeepsOut bundle executionId thread before (.append checkpoint))
    (accepted : InMemoryMigrationRecorder.accepts (before.log executionId) checkpoint = true) :
    (phases other).Fits bundle.stepIds (before.log executionId ++ [checkpoint])
      (before.planned || decide (checkpoint.state = .planned)) := by
  cases otherHeld : (phases other).held with
  | false => exact (logged.fits other).append_of_not_held otherHeld _ _
  | true =>
      have notHeld : (phases thread).held = false := logged.not_held otherHeld ne.symm
      -- without the lock only a failure can be recorded
      have isFailed : checkpoint.state = .failed := by
        cases allowed with
        | due isDue writes =>
            rw [Phase.held_of_due isDue] at notHeld
            cases notHeld
        | failure mayFail writes => exact writes.state_eq
      have allRecorded : before.planned = true →
          unrecorded bundle.stepIds (before.log executionId) = [] := by
        intro isPlanned
        apply List.filter_eq_nil_iff.mpr
        intro step member
        simpa using keptOut other (logged.holder other otherHeld) ne isPlanned accepted step member
      rw [isFailed]
      have grown := (logged.fits other).append_of_recorded
        (show checkpoint.state ≠ .applying by rw [isFailed]; decide) allRecorded
      simpa using grown

theorem Logged.appended (logged : Logged bundle executionId phases before)
    {checkpoint : MigrationCheckpoint} {response : (Hook.append checkpoint : Hook F).Response}
    (allowed : (phases thread).MayAppend (some executionId) bundle checkpoint)
    (answered : Binding.Records thread before (.append checkpoint : Hook F) response after)
    (keptOut : Binding.KeepsOut bundle executionId thread before (.append checkpoint)) :
    Logged bundle executionId (Function.update phases thread
      ((phases thread).next bundle (.append checkpoint) response)) after := by
  obtain ⟨rfl, rfl⟩ := answered
  have idEq : checkpoint.executionId = executionId := by
    cases allowed with
    | due isDue writes => exact writes.executionId_eq executionId rfl
    | failure mayFail writes => exact writes.executionId_eq executionId rfl
  subst executionId
  cases accepted : InMemoryMigrationRecorder.accepts
      (before.recorder.checkpoints checkpoint.executionId) checkpoint with
  | true =>
      obtain ⟨taken, grown⟩ := InMemoryMigrationRecorder.append_of_accepts accepted
      obtain ⟨fits, nowRecorded⟩ := (logged.fits thread).afterAppend_of_accepts logged.increasing
        allowed (accepts_iff.mp accepted)
      have kept : ∀ step ∈ completedSteps (before.log checkpoint.executionId),
          step ∈ completedSteps (before.log checkpoint.executionId ++ [checkpoint]) := by
        intro step member
        rw [completedSteps_append]
        exact List.mem_append_left _ member
      simp only [Phase.next, taken, Except.isOk, Except.toBool, Bool.and_true]
      apply Logged.of_update
      · simp only [Binding.log, grown]
        exact logged.increasing.append (accepts_iff.mp accepted)
      · intro held
        exact logged.holder thread (Phase.held_afterAppend held)
      · intro other _
        exact logged.holder other
      · simp only [Binding.log, grown]
        exact fits
      · intro other ne
        simp only [Binding.log, grown]
        exact logged.fits_append ne allowed keptOut accepted
      · exact logged.nodup
      · intro step member
        simp only [Binding.log, grown]
        rcases logged.recorded step member with inLog | ⟨other, inFlight⟩
        · exact .inl (kept step inLog)
        · by_cases same : other = thread
          · subst other
            exact .inl (nowRecorded step inFlight)
          · exact .inr (.inr ⟨other, same, inFlight⟩)
  | false =>
      obtain ⟨notTaken, same⟩ := InMemoryMigrationRecorder.append_of_rejects accepted
      obtain ⟨fits, inFlight⟩ := (logged.fits thread).afterAppend_of_rejects allowed (by
        rw [← accepts_iff, Binding.log, accepted]
        decide)
      have unchanged : Logged bundle checkpoint.executionId phases
          { before with recorder := (before.recorder.append checkpoint).2 } := by
        obtain ⟨increasing, holder, fits, nodup, recorded⟩ := logged
        refine ⟨?_, holder, ?_, nodup, ?_⟩
        · simp only [Binding.log, same]
          exact increasing
        · simp only [Binding.log, same]
          exact fits
        · simp only [Binding.log, same]
          exact recorded
      simp only [Phase.next, notTaken, Except.isOk, Except.toBool, Bool.and_false, Bool.or_false]
      apply unchanged.of_same
      · exact Phase.held_afterAppend
      · simp only [Binding.log, same]
        exact fits
      · exact inFlight

/-- Every call of an execution keeps the invariant. -/
theorem Logged.step {hook : Hook F} {response : hook.Response}
    (logged : Logged bundle executionId phases before)
    (allowed : (phases thread).Allows (some executionId) bundle hook)
    (answered : Binding.Records thread before hook response after)
    (keptOut : Binding.KeepsOut bundle executionId thread before hook) :
    Logged bundle executionId
      (Function.update phases thread ((phases thread).next bundle hook response)) after := by
  cases hook with
  | checkpoints => exact logged.read allowed answered
  | append => exact logged.appended allowed answered keptOut
  | clock => exact logged.clock answered
  | acquireLock => exact logged.acquired allowed answered
  | applyStep => exact logged.applied allowed answered
  | releaseLock => exact logged.released allowed answered
  | activate => exact logged.activated allowed answered
  | _ =>
      obtain rfl : after = before := answered
      simp only [Phase.next, Function.update_eq_self]
      exact logged

end Step

namespace Binding

/-- In every interleaving of executions of one bundle under one execution id in
which no call without the lock gets a checkpoint into the log while another call
applies its plan, no step is applied twice. -/
theorem applies_at_most_once (bundle : MigrationBundleV1 F) (executionId : Str)
    (calls : ι → ExecuteCall F)
    (same : ∀ thread, (calls thread).bundle = bundle ∧
      (calls thread).executionId = some executionId) (fingerprint : Str)
    {pool : Pool (Hook F) Hook.Response (Except Exc MigrationReport × Locals) ι (Binding ι)}
    (reachable : Pool.Reachable (fun thread before hook response after =>
      Records thread before hook response after ∧
        KeepsOut bundle executionId thread before hook) (start calls fingerprint) pool) :
    pool.state.applied.Nodup := by
  have initially : Pool.Governed (fun thread => (calls thread).automaton)
      (Logged bundle executionId) (fun _ => .reading) (start calls fingerprint) := by
    refine ⟨fun thread => (calls thread).follows, List.Pairwise.nil, ?_, ?_, List.nodup_nil, ?_⟩
    · intro thread held
      cases held
    · intro thread
      exact trivial
    · intro step member
      cases member
  obtain ⟨phases, governed⟩ := reachable.governed (fun phases state thread hook response after
    logged allowed answered => by
      obtain ⟨bundleEq, idEq⟩ := same thread
      simp only [ExecuteCall.automaton, executionAutomaton, bundleEq, idEq] at allowed ⊢
      exact logged.step allowed answered.1 answered.2) initially
  exact governed.invariant.nodup

theorem serve_records (thread : ι) (binding : Binding ι) (hook : Hook F) :
    Records thread binding hook (serve thread binding hook).1 (serve thread binding hook).2 := by
  cases hook with
  | checkpoints => exact ⟨rfl, rfl⟩
  | append => exact ⟨rfl, rfl⟩
  | clock => exact ⟨⟨_, rfl, by decide⟩, rfl⟩
  | inspectState =>
      simp only [serve]
      split <;> rfl
  | acquireLock =>
      simp only [serve]
      split
      next valid => exact ⟨valid.2.2, rfl⟩
      next => rfl
  | applyStep => exact ⟨⟨_, rfl, rfl⟩, rfl⟩
  | activate => exact ⟨_, rfl⟩
  | releaseLock => exact .inr rfl
  | _ => rfl

/-- Jobs that share an execution id. -/
def sharedJob (_ : ι) : ExecuteCall Empty := sampleCall "job" "migration-1"

/-- No other call is between its PLANNED checkpoint and the record of the last step. -/
def undisturbed (bundle : MigrationBundleV1 F) (executionId : Str) (thread : ι)
    (binding : Binding ι) : Bool :=
  match binding.holder with
  | none => true
  | some holder => decide (holder = thread) || !binding.planned ||
      bundle.stepIds.all fun step => step ∈ completedSteps (binding.log executionId)

theorem keepsOut_of_undisturbed {bundle : MigrationBundleV1 F} {executionId : Str} {thread : ι}
    {binding : Binding ι} (alone : undisturbed bundle executionId thread binding = true)
    (hook : Hook F) : KeepsOut bundle executionId thread binding hook := by
  cases hook with
  | append checkpoint =>
      intro holder holds ne isPlanned _ step member
      simp only [undisturbed, holds, isPlanned, ne, decide_false, Bool.not_true, Bool.or_self,
        Bool.false_or, List.all_eq_true, decide_eq_true_eq] at alone
      exact alone step member
  | _ => exact trivial

/-- The first job applies its step and records it.  The second one is refused the lock and
its FAILED checkpoint takes the sequence of the first job's next checkpoint, so that
the first job fails too; the third one goes on behind both without applying again. -/
theorem applies_at_most_once_sample :
    ∃ pool, Pool.Reachable Records (start (sharedJob : Fin 3 → _) (uniformFingerprint 48)) pool ∧
      (pool.state.log (str "migration-1")).map (·.state) =
        [.planned, .applying, .validating, .failed, .planned, .validating, .activating,
          .completed] ∧
      pool.state.fingerprint = uniformFingerprint 49 ∧ pool.state.applied ≠ [] ∧
      pool.state.applied.Nodup := by
  let order : List (Fin 3) :=
    List.replicate 18 0 ++ List.replicate 9 1 ++ List.replicate 5 0 ++ List.replicate 30 2
  have sound : ∀ (thread : Fin 3) (binding : Binding (Fin 3)) (hook : Hook Empty),
      undisturbed sampleBundle (str "migration-1") thread binding = true →
        Records thread binding hook (serve thread binding hook).1 (serve thread binding hook).2 ∧
          KeepsOut sampleBundle (str "migration-1") thread binding hook :=
    fun thread binding hook alone =>
      ⟨serve_records thread binding hook, keepsOut_of_undisturbed alone hook⟩
  let pool := Pool.scheduleIf (undisturbed sampleBundle (str "migration-1")) serve
    (start sharedJob (uniformFingerprint 48)) order
  have ran : (pool.state.log (str "migration-1")).map (·.state) =
      [.planned, .applying, .validating, .failed, .planned, .validating, .activating,
        .completed] ∧
      pool.state.fingerprint = uniformFingerprint 49 ∧ pool.state.applied ≠ [] := by
    decide +kernel
  refine ⟨pool, ?_, ran.1, ran.2.1, ran.2.2, ?_⟩
  · exact Pool.scheduleIf_reachable
      (fun thread binding hook alone => (sound thread binding hook alone).1) _ _
  · exact applies_at_most_once sampleBundle (str "migration-1") sharedJob (fun _ => ⟨rfl, rfl⟩)
      (uniformFingerprint 48) (Pool.scheduleIf_reachable sound _ _)

/-- The second job is refused the lock after the first one has recorded PLANNED,
and its FAILED checkpoint takes the sequence of the step that the first job
applies.  The first job cannot record the step, and the third job applies it
again. -/
theorem applies_twice_after_refused_lock :
    ¬ ∀ pool, Pool.Reachable Records (start (sharedJob : Fin 3 → _) (uniformFingerprint 48)) pool →
      pool.state.applied.Nodup := by
  intro always
  have nodup := always _ (Pool.schedule_reachable serve_records
    (start sharedJob (uniformFingerprint 48))
    (List.replicate 8 0 ++ List.replicate 8 1 ++ List.replicate 10 0 ++ List.replicate 13 2))
  revert nodup
  decide +kernel

end Binding

end DataLifecycle.Migration
