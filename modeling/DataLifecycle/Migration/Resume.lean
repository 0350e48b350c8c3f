import DataLifecycle.Migration.Binding

/-!
# Successive executions over one log

Executions with one execution id follow each other over an
`InMemoryMigrationRecorder`.  Each of them may fail at any call or die between
any two calls, and the next one resumes from the log.
-/

namespace DataLifecycle.Migration

open Python Interaction

variable {F : Type} [FloatText F]

/-- The recorder, the number of the running call, and the checkpoints of the
execution id with the calls that recorded them. -/
structure Journal where
  recorder : InMemoryMigrationRecorder
  current : Nat
  entries : List (Nat × MigrationCheckpoint)

namespace Journal

/-- The log of an execution id. -/
def log (journal : Journal) (executionId : Str) : List MigrationCheckpoint :=
  journal.recorder.checkpoints executionId

/-- A call runs over an `InMemoryMigrationRecorder`; everything else may return or
raise anything. -/
def Records (call : Nat) (before : Journal) : (hook : Hook F) → hook.Response → Journal → Prop
  | .checkpoints executionId, response, after =>
      response = .ok (before.recorder.checkpoints executionId) ∧
        after = { before with current := call }
  | .append checkpoint, response, after =>
      response = (before.recorder.append checkpoint).1 ∧ after = {
        recorder := (before.recorder.append checkpoint).2
        current := call
        entries := before.entries ++
          if (before.recorder.append checkpoint).1.isOk then [(call, checkpoint)] else [] }
  | _, _, after => after = { before with current := call }

/-- A call makes requests only while no later call has started, and a call of a
bundle with another digest only once the log is non-empty. -/
structure MayRun (bundle : MigrationBundleV1 F) (executionId : Str) (calls : Nat → ExecuteCall F)
    (call : Nat) (journal : Journal) : Prop where
  current_le : journal.current ≤ call
  log_ne : (calls call).bundle.digest ≠ bundle.digest → journal.log executionId ≠ []

/-- The pool that starts the calls over a new recorder. -/
def start (calls : Nat → ExecuteCall F) :
    Pool (Hook F) Hook.Response (Except Exc MigrationReport × Locals) Nat Journal :=
  ⟨fun call => (calls call).program, ⟨.empty, 0, []⟩⟩

/-- The invariant of the durable log. -/
structure Sound (bundle : MigrationBundleV1 F) (executionId : Str) (journal : Journal) : Prop where
  entries_eq : journal.entries.map Prod.snd = journal.log executionId
  increasing : Increasing (journal.log executionId)
  digest_eq : ∀ item ∈ journal.log executionId, item.bundleDigest = bundle.digest
  /-- The APPLYING entries record steps, in the order of the bundle. -/
  applying_eq : ((journal.log executionId).filter (·.state = .applying)).map (·.stepId) =
    (completedSteps (journal.log executionId)).map some
  ordered : completedSteps (journal.log executionId) <+: bundle.stepIds
  /-- COMPLETED is the last entry, right after ACTIVATING of the same call, and
  every step has been recorded. -/
  completed : ∀ item ∈ journal.log executionId, item.state = .completed →
    ∃ earlier call activating,
      journal.entries = earlier ++ [(call, activating), (call, item)] ∧
      activating.state = .activating ∧ (∀ entry ∈ earlier, entry.2.state ≠ .completed) ∧
      ∀ step ∈ bundle.stepIds, step ∈ completedSteps (journal.log executionId)

end Journal

/-- The log ends before the given sequence and is not completed. -/
structure Open (records : List MigrationCheckpoint) (sequence : Nat) : Prop where
  sequence_eq : nextSequence records = sequence
  unfinished : ∀ item ∈ records, item.state ≠ .completed

/-- What the log says about the running call in a phase. -/
def Phase.Resumes (bundle : MigrationBundleV1 F) (executionId : Str) (call : Nat)
    (journal : Journal) : Phase → Prop
  | .unlocked sequence done =>
      Open (journal.log executionId) sequence ∧ done = completedSteps (journal.log executionId)
  | .locked sequence done =>
      Open (journal.log executionId) sequence ∧ done = completedSteps (journal.log executionId)
  | .applying sequence todo =>
      Open (journal.log executionId) sequence ∧
        bundle.stepIds = completedSteps (journal.log executionId) ++ todo
  | .applied sequence step todo =>
      Open (journal.log executionId) sequence ∧
        bundle.stepIds = completedSteps (journal.log executionId) ++ step :: todo
  | .recording sequence step todo =>
      Open (journal.log executionId) sequence ∧
        bundle.stepIds = completedSteps (journal.log executionId) ++ step :: todo
  | .validating sequence =>
      Open (journal.log executionId) sequence ∧
        bundle.stepIds = completedSteps (journal.log executionId)
  | .activating sequence =>
      Open (journal.log executionId) sequence ∧
        bundle.stepIds = completedSteps (journal.log executionId) ∧
        ∃ earlier activating, journal.entries = earlier ++ [(call, activating)] ∧
          activating.state = .activating
  | .activated sequence =>
      Open (journal.log executionId) sequence ∧
        bundle.stepIds = completedSteps (journal.log executionId) ∧
        ∃ earlier activating, journal.entries = earlier ++ [(call, activating)] ∧
          activating.state = .activating
  | .completed sequence => nextSequence (journal.log executionId) = sequence + 1
  | .aborting sequence => Open (journal.log executionId) sequence
  | _ => True

/-- The call has not been refused by the log. -/
def Phase.engaged : Phase → Bool
  | .reading => false
  | .refused => false
  | _ => true

/-- The invariant of successive executions. -/
structure Resumed (bundle : MigrationBundleV1 F) (executionId : Str) (calls : Nat → ExecuteCall F)
    (phases : Nat → Phase) (journal : Journal) : Prop where
  sound : journal.Sound bundle executionId
  unstarted : ∀ call, journal.current < call → phases call = .reading
  resumes : (phases journal.current).Resumes bundle executionId journal.current journal
  bundle_eq : (phases journal.current).engaged = true → (calls journal.current).bundle = bundle

/-! ## The log -/

/-- Appending to an open log. -/
theorem Journal.Sound.append {bundle : MigrationBundleV1 F} {executionId : Str} {journal : Journal}
    {recorder : InMemoryMigrationRecorder} {call : Nat} {checkpoint : MigrationCheckpoint}
    (sound : journal.Sound bundle executionId)
    (grown : recorder.checkpoints executionId = journal.log executionId ++ [checkpoint])
    (isOpen : Open (journal.log executionId) checkpoint.sequence)
    (digestEq : checkpoint.bundleDigest = bundle.digest)
    (ifApplying : checkpoint.state = .applying → ∃ step todo, checkpoint.stepId = some step ∧
      bundle.stepIds = completedSteps (journal.log executionId) ++ step :: todo)
    (ifCompleted : checkpoint.state = .completed →
      bundle.stepIds = completedSteps (journal.log executionId) ∧
        ∃ earlier activating, journal.entries = earlier ++ [(call, activating)] ∧
          activating.state = .activating) :
    Journal.Sound bundle executionId
      ⟨recorder, call, journal.entries ++ [(call, checkpoint)]⟩ := by
  have logEq : Journal.log ⟨recorder, call, journal.entries ++ [(call, checkpoint)]⟩ executionId =
      journal.log executionId ++ [checkpoint] := grown
  constructor
  · rw [logEq, List.map_append, sound.entries_eq]
    rfl
  · rw [logEq]
    exact sound.increasing.append isOpen.sequence_eq.le
  · rw [logEq]
    intro item member
    rcases List.mem_append.mp member with earlier | isLast
    · exact sound.digest_eq item earlier
    · rw [List.mem_singleton.mp isLast]
      exact digestEq
  · rw [logEq, List.filter_append, List.map_append, sound.applying_eq, completedSteps_append]
    by_cases isApplying : checkpoint.state = .applying
    · obtain ⟨step, todo, stepEq, -⟩ := ifApplying isApplying
      simp [isApplying, stepEq]
    · simp [isApplying]
  · rw [logEq, completedSteps_append]
    split
    next isApplying =>
      obtain ⟨step, todo, stepEq, left⟩ := ifApplying isApplying
      rw [left, stepEq]
      exact ⟨todo, by simp⟩
    next =>
      rw [List.append_nil]
      exact sound.ordered
  · rw [logEq]
    intro item member isCompleted
    rcases List.mem_append.mp member with earlier | isLast
    · exact absurd isCompleted (isOpen.unfinished item earlier)
    · obtain rfl := List.mem_singleton.mp isLast
      obtain ⟨allRecorded, earlier, activating, entriesEq, isActivating⟩ := ifCompleted isCompleted
      refine ⟨earlier, call, activating, ?_, isActivating, ?_, ?_⟩
      · simp [entriesEq]
      · intro entry entryMem
        apply isOpen.unfinished entry.2
        rw [← sound.entries_eq, entriesEq]
        simp only [List.map_append, List.mem_append, List.mem_map]
        exact .inl ⟨entry, entryMem, rfl⟩
      · intro step stepMem
        rw [completedSteps_append, ← allRecorded]
        exact List.mem_append_left _ stepMem

theorem Open.append {records : List MigrationCheckpoint} {checkpoint : MigrationCheckpoint}
    (isOpen : Open records checkpoint.sequence) (notCompleted : checkpoint.state ≠ .completed) :
    Open (records ++ [checkpoint]) (checkpoint.sequence + 1) := by
  refine ⟨nextSequence_append records checkpoint, ?_⟩
  intro item member
  rcases List.mem_append.mp member with earlier | isLast
  · exact isOpen.unfinished item earlier
  · rw [List.mem_singleton.mp isLast]
    exact notCompleted

/-- The steps of a bundle that are not among its first ones are the others. -/
theorem filter_notMem_append {first rest : List Str} (nodup : (first ++ rest).Nodup) :
    ((first ++ rest).filter fun step => step ∉ first) = rest := by
  rw [List.filter_append]
  have none : (first.filter fun step => step ∉ first) = [] := by
    apply List.filter_eq_nil_iff.mpr
    intro step member
    simpa using member
  have all : (rest.filter fun step => step ∉ first) = rest := by
    apply List.filter_eq_self.mpr
    intro step member
    simpa using fun isFirst => (List.nodup_append.mp nodup).2.2 step isFirst step member rfl
  rw [none, all, List.nil_append]

/-! ## One step of a call -/

section Step

variable {bundle : MigrationBundleV1 F} {executionId : Str} {calls : Nat → ExecuteCall F}
  {phases : Nat → Phase} {before after : Journal} {call : Nat}

theorem Phase.engaged_of_mayAppend {phase : Phase} {checkpoint : MigrationCheckpoint}
    (mayAppend : phase.MayAppend (some executionId) bundle checkpoint) : phase.engaged = true := by
  cases mayAppend with
  | due isDue writes => cases phase <;> first | rfl | cases isDue
  | failure mayFail writes => cases phase <;> first | rfl | cases mayFail

theorem Phase.engaged_of_held {phase : Phase} (held : phase.held = true) : phase.engaged = true := by
  cases phase <;> first | rfl | cases held

/-- A failure is recorded on an open log or after COMPLETED. -/
theorem Phase.Resumes.open_or_completed {phase : Phase} {journal : Journal} {sequence : Nat}
    (resumes : phase.Resumes bundle executionId call journal)
    (mayFail : phase.failure = some sequence) :
    Open (journal.log executionId) sequence ∨
      nextSequence (journal.log executionId) = sequence + 1 := by
  cases phase <;> cases mayFail
  case completed => exact .inr resumes
  case aborting => exact .inl resumes
  all_goals exact .inl resumes.1

/-- Everything else is recorded on an open log. -/
theorem Phase.Resumes.open_of_due {phase : Phase} {journal : Journal} {state : MigrationState}
    {sequence : Nat} {step : Option Str} (resumes : phase.Resumes bundle executionId call journal)
    (isDue : phase.due = some (state, sequence, step)) :
    Open (journal.log executionId) sequence := by
  cases phase with
  | applying sequence todo =>
      cases todo with
      | nil =>
          cases isDue
          exact resumes.1
      | cons => cases isDue
  | locked =>
      cases isDue
      exact resumes.1
  | recording =>
      cases isDue
      exact resumes.1
  | validating =>
      cases isDue
      exact resumes.1
  | activated =>
      cases isDue
      exact resumes.1
  | _ => cases isDue

/-- A later call takes over. -/
theorem Resumed.takeOver (resumed : Resumed bundle executionId calls phases before)
    (currentLe : before.current ≤ call) :
    Resumed bundle executionId calls phases { before with current := call } := by
  rcases Nat.eq_or_lt_of_le currentLe with rfl | later
  · exact resumed
  · have unread : phases call = .reading := resumed.unstarted call later
    obtain ⟨entriesEq, increasing, digestEq, applyingEq, ordered, completed⟩ := resumed.sound
    refine ⟨⟨entriesEq, increasing, digestEq, applyingEq, ordered, completed⟩, ?_, ?_, ?_⟩
    · intro other isLater
      exact resumed.unstarted other (later.trans isLater)
    · change (phases call).Resumes _ _ _ _
      rw [unread]
      exact trivial
    · change (phases call).engaged = true → _
      rw [unread]
      intro engaged
      cases engaged

/-- The running call moves to another phase. -/
theorem Resumed.move {phase : Phase} (sound : after.Sound bundle executionId)
    (unstarted : ∀ other, after.current < other → phases other = .reading)
    (resumes : phase.Resumes bundle executionId after.current after)
    (bundleEq : phase.engaged = true → (calls after.current).bundle = bundle) :
    Resumed bundle executionId calls (Function.update phases after.current phase) after := by
  refine ⟨sound, ?_, ?_, ?_⟩
  · intro other isLater
    rw [Function.update_of_ne isLater.ne']
    exact unstarted other isLater
  · rw [Function.update_self]
    exact resumes
  · rw [Function.update_self]
    exact bundleEq

/-- The running call reads the log. -/
theorem Resumed.read (resumed : Resumed bundle executionId calls phases before) {runId : Str}
    (foreign : (calls before.current).bundle = bundle ∨
      (calls before.current).bundle.digest ≠ bundle.digest)
    (logNe : (calls before.current).bundle.digest ≠ bundle.digest → before.log executionId ≠ [])
    (allowed : (phases before.current).Allows (some executionId) (calls before.current).bundle
      (.checkpoints runId)) :
    Resumed bundle executionId calls (Function.update phases before.current
      ((phases before.current).next (calls before.current).bundle (.checkpoints runId)
        (.ok (before.recorder.checkpoints runId)))) before := by
  rcases allowed with ⟨reading, supplied⟩ | ⟨sequence, completed⟩
  · obtain rfl := supplied executionId rfl
    simp only [reading, Phase.next, Phase.afterRead]
    split
    · exact Resumed.move resumed.sound resumed.unstarted trivial (by intro engaged; cases engaged)
    next accepted =>
      simp only [Phase.refuses, Bool.or_eq_true, List.any_eq_true, decide_eq_true_eq, not_or,
        not_exists, not_and] at accepted
      apply Resumed.move resumed.sound resumed.unstarted
      · exact ⟨⟨rfl, accepted.2⟩, rfl⟩
      · intro _
        rcases foreign with same | other
        · exact same
        · obtain ⟨item, member⟩ := List.exists_mem_of_ne_nil _ (logNe other)
          have digestEq := resumed.sound.digest_eq item member
          exact absurd (digestEq.trans_ne other.symm) (accepted.1 item member)
  · simp only [completed, Phase.next, Phase.afterRead]
    have resumes := resumed.resumes
    have bundleEq := resumed.bundle_eq
    rw [completed] at resumes bundleEq
    exact Resumed.move resumed.sound resumed.unstarted resumes bundleEq

/-- The running call does something that does not touch the log. -/
theorem Resumed.quiet (resumed : Resumed bundle executionId calls phases before) {hook : Hook F}
    {response : hook.Response}
    (notRead : ∀ runId, hook ≠ .checkpoints runId) (notAppend : ∀ checkpoint, hook ≠ .append checkpoint)
    (allowed : (phases before.current).Allows (some executionId) (calls before.current).bundle
      hook) :
    Resumed bundle executionId calls (Function.update phases before.current
      ((phases before.current).next (calls before.current).bundle hook response)) before := by
  have resumes := resumed.resumes
  have bundleEq := resumed.bundle_eq
  cases hook with
  | checkpoints runId => exact absurd rfl (notRead runId)
  | append checkpoint => exact absurd rfl (notAppend checkpoint)
  | clock =>
      simp only [Phase.next]
      cases phaseEq : phases before.current with
      | applied sequence step todo =>
          rw [phaseEq] at resumes bundleEq
          simp only [Phase.afterClock]
          split
          · exact Resumed.move resumed.sound resumed.unstarted resumes bundleEq
          · exact Resumed.move resumed.sound resumed.unstarted resumes.1 bundleEq
      | _ =>
          rw [phaseEq] at resumes bundleEq
          exact Resumed.move resumed.sound resumed.unstarted resumes bundleEq
  | acquireLock =>
      obtain ⟨sequence, done, unlocked⟩ := allowed
      rw [unlocked] at resumes bundleEq
      simp only [unlocked, Phase.next, Phase.afterAcquire]
      split
      · exact Resumed.move resumed.sound resumed.unstarted resumes bundleEq
      · exact Resumed.move resumed.sound resumed.unstarted resumes bundleEq
  | applyStep lock compiled token =>
      simp only [Phase.next]
      cases phaseEq : phases before.current with
      | applying sequence todo =>
          rw [phaseEq] at resumes bundleEq
          cases todo with
          | nil => exact Resumed.move resumed.sound resumed.unstarted resumes bundleEq
          | cons step todo =>
              simp only [Phase.afterApply]
              split
              · exact Resumed.move resumed.sound resumed.unstarted resumes bundleEq
              · exact Resumed.move resumed.sound resumed.unstarted resumes.1 bundleEq
      | _ => simp [Phase.Allows, phaseEq, Phase.nextStep] at allowed
  | activate =>
      obtain ⟨-, sequence, activating⟩ := allowed
      rw [activating] at resumes bundleEq
      simp only [activating, Phase.next, Phase.afterActivate]
      split
      · exact Resumed.move resumed.sound resumed.unstarted resumes bundleEq
      · exact Resumed.move resumed.sound resumed.unstarted resumes.1 bundleEq
  | releaseLock =>
      exact Resumed.move resumed.sound resumed.unstarted trivial fun _ =>
        bundleEq (Phase.engaged_of_held allowed.1)
  | _ =>
      simp only [Phase.next, Function.update_eq_self]
      exact resumed

/-- The phase after a due checkpoint was taken. -/
theorem Phase.Resumes.afterDue {phase : Phase} {state : MigrationState} {sequence : Nat}
    {step : Option Str} {checkpoint : MigrationCheckpoint} {recorder : InMemoryMigrationRecorder}
    (resumes : phase.Resumes bundle executionId call before)
    (sound : before.Sound bundle executionId)
    (isDue : phase.due = some (state, sequence, step))
    (writes : Writes (some executionId) bundle state sequence step checkpoint)
    (grown : recorder.checkpoints executionId = before.log executionId ++ [checkpoint]) :
    let journal : Journal := ⟨recorder, call, before.entries ++ [(call, checkpoint)]⟩
    journal.Sound bundle executionId ∧
      (phase.afterDue bundle).Resumes bundle executionId call journal := by
  intro journal
  have logEq : journal.log executionId = before.log executionId ++ [checkpoint] := grown
  obtain ⟨-, digestEq, stateEq, sequenceEq, stepEq⟩ := writes
  -- what every due checkpoint adds to an open log
  have grow : Open (before.log executionId) sequence → state ≠ .completed →
      Open (journal.log executionId) (sequence + 1) := by
    intro isOpen notCompleted
    rw [logEq, ← sequenceEq]
    apply Open.append
    · rw [sequenceEq]
      exact isOpen
    · rw [stateEq]
      exact notCompleted
  have same : state ≠ .applying →
      completedSteps (journal.log executionId) = completedSteps (before.log executionId) := by
    intro notApplying
    rw [logEq]
    apply completedSteps_append_of_ne
    rw [stateEq]
    exact notApplying
  have soundOf : Open (before.log executionId) sequence → state ≠ .applying → state ≠ .completed →
      journal.Sound bundle executionId := by
    intro isOpen notApplying notCompleted
    apply sound.append grown
    · rw [sequenceEq]
      exact isOpen
    · exact digestEq
    · intro isApplying
      exact absurd (stateEq.symm.trans isApplying) notApplying
    · intro isCompleted
      exact absurd (stateEq.symm.trans isCompleted) notCompleted
  cases phase with
  | locked sequence done =>
      cases isDue
      obtain ⟨isOpen, rfl⟩ := resumes
      refine ⟨soundOf isOpen (by decide) (by decide), grow isOpen (by decide), ?_⟩
      rw [same (by decide)]
      obtain ⟨rest, stepIdsEq⟩ := sound.ordered
      have nodup := bundle.valid.stepIds
      rw [← stepIdsEq] at nodup ⊢
      rw [filter_notMem_append nodup]
  | applying sequence todo =>
      cases todo with
      | nil =>
          cases isDue
          obtain ⟨isOpen, left⟩ := resumes
          refine ⟨soundOf isOpen (by decide) (by decide), grow isOpen (by decide), ?_⟩
          rw [same (by decide), left, List.append_nil]
      | cons step todo => cases isDue
  | recording sequence step todo =>
      cases isDue
      obtain ⟨isOpen, left⟩ := resumes
      refine ⟨?_, grow isOpen (by decide), ?_⟩
      · apply sound.append grown
        · rw [sequenceEq]
          exact isOpen
        · exact digestEq
        · intro _
          exact ⟨step, todo, stepEq, left⟩
        · intro isCompleted
          rw [stateEq] at isCompleted
          cases isCompleted
      · rw [logEq, completedSteps_append, if_pos stateEq, stepEq, left]
        simp
  | validating sequence =>
      cases isDue
      obtain ⟨isOpen, left⟩ := resumes
      refine ⟨soundOf isOpen (by decide) (by decide), grow isOpen (by decide), ?_, ?_⟩
      · rw [same (by decide)]
        exact left
      · exact ⟨before.entries, checkpoint, rfl, stateEq⟩
  | activated sequence =>
      cases isDue
      obtain ⟨isOpen, left, activating⟩ := resumes
      constructor
      · apply sound.append grown
        · rw [sequenceEq]
          exact isOpen
        · exact digestEq
        · intro isApplying
          rw [stateEq] at isApplying
          cases isApplying
        · intro _
          exact ⟨left, activating⟩
      · change nextSequence (journal.log executionId) = sequence + 1
        rw [logEq, nextSequence_append, sequenceEq]
  | _ => cases isDue

/-- The running call hands a checkpoint to the recorder. -/
theorem Resumed.appended (resumed : Resumed bundle executionId calls phases before)
    {checkpoint : MigrationCheckpoint} {response : (Hook.append checkpoint : Hook F).Response}
    (allowed : (phases before.current).MayAppend (some executionId) (calls before.current).bundle
      checkpoint)
    (answered : Journal.Records before.current before (.append checkpoint : Hook F) response after) :
    Resumed bundle executionId calls (Function.update phases before.current
      ((phases before.current).next (calls before.current).bundle (.append checkpoint) response))
      after := by
  have engaged := Phase.engaged_of_mayAppend allowed
  have bundleEq := resumed.bundle_eq engaged
  have resumes := resumed.resumes
  rw [bundleEq] at allowed ⊢
  have idEq : checkpoint.executionId = executionId := by
    cases allowed with
    | due isDue writes => exact writes.executionId_eq executionId rfl
    | failure mayFail writes => exact writes.executionId_eq executionId rfl
  subst executionId
  obtain ⟨rfl, rfl⟩ := answered
  cases accepted : InMemoryMigrationRecorder.accepts (before.log checkpoint.executionId)
      checkpoint with
  | true =>
      obtain ⟨taken, grown⟩ := InMemoryMigrationRecorder.append_of_accepts accepted
      simp only [Phase.next, taken, Except.isOk, Except.toBool, if_true]
      cases allowed with
      | due isDue writes =>
          have notFailed : checkpoint.state ≠ .failed := by
            rw [writes.state_eq]
            exact Phase.ne_failed_of_due isDue
          rw [Phase.afterAppend, if_neg notFailed, isDue]
          obtain ⟨sound, continues⟩ := resumes.afterDue resumed.sound isDue writes grown
          apply Resumed.move sound resumed.unstarted continues
          intro _
          exact bundleEq
      | failure mayFail writes =>
          rw [Phase.afterAppend, if_pos writes.state_eq]
          have sound : Journal.Sound bundle checkpoint.executionId
              ⟨(before.recorder.append checkpoint).2, before.current,
                before.entries ++ [(before.current, checkpoint)]⟩ := by
            apply resumed.sound.append grown
            · rw [writes.sequence_eq]
              rcases resumes.open_or_completed mayFail with isOpen | completed
              · exact isOpen
              · have enough := accepts_iff.mp accepted
                rw [completed, writes.sequence_eq] at enough
                exact absurd enough (Nat.not_succ_le_self _)
            · exact writes.bundleDigest_eq
            · intro isApplying
              rw [writes.state_eq] at isApplying
              cases isApplying
            · intro isCompleted
              rw [writes.state_eq] at isCompleted
              cases isCompleted
          exact Resumed.move sound resumed.unstarted trivial fun _ => bundleEq
  | false =>
      obtain ⟨notTaken, same⟩ := InMemoryMigrationRecorder.append_of_rejects accepted
      simp only [Phase.next, notTaken, Except.isOk, Except.toBool, Bool.false_eq_true, if_false,
        List.append_nil]
      have sound : Journal.Sound bundle checkpoint.executionId
          ⟨(before.recorder.append checkpoint).2, before.current, before.entries⟩ := by
        obtain ⟨entriesEq, increasing, digestEq, applyingEq, ordered, completed⟩ := resumed.sound
        constructor <;> simp only [Journal.log, same] <;> assumption
      cases allowed with
      | due isDue writes =>
          have enough := (resumes.open_of_due isDue).sequence_eq.le
          rw [← writes.sequence_eq, ← accepts_iff, accepted] at enough
          cases enough
      | failure mayFail writes =>
          rw [Phase.afterAppend, if_pos writes.state_eq]
          exact Resumed.move sound resumed.unstarted trivial fun _ => bundleEq

/-- Every call of an execution keeps the invariant. -/
theorem Resumed.step {hook : Hook F} {response : hook.Response}
    (resumed : Resumed bundle executionId calls phases before)
    (foreign : (calls call).bundle = bundle ∨ (calls call).bundle.digest ≠ bundle.digest)
    (mayRun : Journal.MayRun bundle executionId calls call before)
    (allowed : (phases call).Allows (some executionId) (calls call).bundle hook)
    (answered : Journal.Records call before hook response after) :
    Resumed bundle executionId calls
      (Function.update phases call ((phases call).next (calls call).bundle hook response)) after := by
  have running := resumed.takeOver mayRun.current_le
  cases hook with
  | checkpoints =>
      obtain ⟨rfl, rfl⟩ := answered
      exact running.read foreign mayRun.log_ne allowed
  | append => exact running.appended allowed answered
  | _ =>
      obtain rfl := answered
      exact running.quiet (by simp) (by simp) allowed

end Step

namespace Journal

/-- A call that the log refuses only reads the log and raises. -/
theorem refused_call {call : ExecuteCall F} {executionId : Str} {journal : Journal} {number : Nat}
    (idEq : call.executionId = some executionId) (supplied : executionId ≠ [])
    (bindingRefNe : call.bindingRef ≠ []) (ownerNe : call.owner ≠ [])
    (refuses : Phase.refuses call.bundle (journal.log executionId) = true) :
    call.program.Safe (Records number) (fun _ hook => hook = .checkpoints executionId)
      (fun outcome after => (∃ reason, outcome.1 = .error (.migrationConflict reason)) ∧
        after.log executionId = journal.log executionId) journal := by
  have whole : (execute call.lockDuration call.bindingRef call.bundle call.owner
      call.executionId).Safe (Records number) (fun _ hook => hook = .checkpoints executionId)
      (fun _ _ _ => False)
      (fun error _ after => (∃ reason, error = .migrationConflict reason) ∧
        after.log executionId = journal.log executionId) {} journal := by
    rw [execute, Script.safe_bind, Script.safe_refuse]
    refine ⟨fun missing => (not_or.mpr ⟨bindingRefNe, ownerNe⟩ missing).elim, fun _ => ?_⟩
    rw [Script.safe_bind, Script.safe_refuse, idEq]
    refine ⟨fun missing => (supplied (Option.some.inj missing)).elim, fun _ => ?_⟩
    rw [Script.safe_bind, chooseRunId, Script.safe_pure, executeAs, Script.safe_bind, request,
      Script.safe_invoke]
    refine ⟨rfl, ?_⟩
    rintro _ _ ⟨rfl, rfl⟩
    simp only [id_eq]
    rw [Script.safe_bind, Script.safe_refuse]
    refine ⟨fun _ => ⟨⟨_, rfl⟩, rfl⟩, fun sameBundle => ?_⟩
    rw [Script.safe_bind, Script.safe_refuse]
    refine ⟨fun _ => ⟨⟨_, rfl⟩, rfl⟩, fun unfinished => ?_⟩
    rw [Phase.refuses, Bool.or_eq_true] at refuses
    exact (refuses.elim sameBundle unfinished).elim
  apply Prog.Safe.mono whole
  rintro ⟨error | report, final⟩ after held
  · obtain ⟨⟨reason, rfl⟩, logEq⟩ := held
    exact ⟨⟨reason, rfl⟩, logEq⟩
  · exact held.elim

/-- Successive executions with one execution id, each of which may fail at any call
or die between any two calls, keep the invariant of the durable log, never apply
a recorded step again, and are refused for another bundle and after COMPLETED. -/
theorem resumed_log (bundle : MigrationBundleV1 F) (executionId : Str) (supplied : executionId ≠ [])
    (calls : Nat → ExecuteCall F)
    (sameId : ∀ call, (calls call).executionId = some executionId)
    (sameBundle : ∀ call, (calls call).bundle = bundle ∨
      (calls call).bundle.digest ≠ bundle.digest)
    {pool : Pool (Hook F) Hook.Response (Except Exc MigrationReport × Locals) Nat Journal}
    (reachable : Pool.Reachable (fun call before hook response after =>
      MayRun bundle executionId calls call before ∧ Records call before hook response after)
      (start calls) pool) :
    pool.state.Sound bundle executionId ∧
      (((pool.state.log executionId).filter (·.state = .applying)).map (·.stepId)).Nodup ∧
      (∀ call lock step token next, pool.state.current ≤ call →
        pool.threads call = .call (.applyStep lock step token) next →
        step.stepId ∉ completedSteps (pool.state.log executionId)) ∧
      ∀ (call : ExecuteCall F) (number : Nat), call.executionId = some executionId →
        call.bindingRef ≠ [] → call.owner ≠ [] →
        (pool.state.log executionId ≠ [] ∧ call.bundle.digest ≠ bundle.digest ∨
          ∃ item ∈ pool.state.log executionId, item.state = .completed) →
        call.program.Safe (Records number) (fun _ hook => hook = .checkpoints executionId)
          (fun outcome after => (∃ reason, outcome.1 = .error (.migrationConflict reason)) ∧
            after.log executionId = pool.state.log executionId) pool.state := by
  have initially : Pool.Governed (fun call => (calls call).automaton)
      (Resumed bundle executionId calls) (fun _ => .reading) (start calls) := by
    refine ⟨fun call => (calls call).follows, ⟨?_, ?_, ?_, ?_, ?_, ?_⟩, ?_, trivial, ?_⟩
    · rfl
    · exact List.Pairwise.nil
    · intro item member
      cases member
    · rfl
    · exact List.nil_prefix
    · intro item member
      cases member
    · intro call _
      rfl
    · intro engaged
      cases engaged
  obtain ⟨phases, governed⟩ := reachable.governed (fun phases state call hook response after
    resumed allowed answered => by
      rw [ExecuteCall.automaton, executionAutomaton, sameId call] at allowed
      exact resumed.step (sameBundle call) answered.1 allowed answered.2) initially
  obtain ⟨sound, unstarted, resumes, -⟩ := governed.invariant
  refine ⟨sound, ?_, ?_, ?_⟩
  · rw [sound.applying_eq]
    exact (bundle.valid.stepIds.sublist sound.ordered.sublist).map (Option.some_injective _)
  · intro call lock step token next isRunning applies
    have follows := governed.follows call
    rw [applies] at follows
    have isNext : (phases call).nextStep = some step.stepId := follows.allows
    rcases Nat.eq_or_lt_of_le isRunning with rfl | later
    · cases phaseEq : phases pool.state.current with
      | applying sequence todo =>
          rw [phaseEq] at isNext resumes
          cases todo with
          | nil => cases isNext
          | cons first todo =>
              cases isNext
              have nodup := bundle.valid.stepIds
              rw [resumes.2] at nodup
              intro recorded
              exact (List.nodup_append.mp nodup).2.2 _ recorded _ List.mem_cons_self rfl
      | _ =>
          rw [phaseEq] at isNext
          cases isNext
    · rw [unstarted call later] at isNext
      cases isNext
  · intro call number idEq bindingRefNe ownerNe refused
    apply refused_call idEq supplied bindingRefNe ownerNe
    rw [Phase.refuses, Bool.or_eq_true, List.any_eq_true, List.any_eq_true]
    rcases refused with ⟨logNe, otherDigest⟩ | ⟨item, member, isCompleted⟩
    · obtain ⟨item, member⟩ := List.exists_mem_of_ne_nil _ logNe
      refine .inl ⟨item, member, ?_⟩
      rw [sound.digest_eq item member]
      exact decide_eq_true otherDigest.symm
    · exact .inr ⟨item, member, decide_eq_true isCompleted⟩

/-- An adapter that never fails, over the recorder of a journal. -/
def serve (call : Nat) (journal : Journal) : (hook : Hook F) → hook.Response × Journal
  | .append checkpoint =>
      ((journal.recorder.append checkpoint).1,
        { recorder := (journal.recorder.append checkpoint).2
          current := call
          entries := journal.entries ++
            if (journal.recorder.append checkpoint).1.isOk then [(call, checkpoint)] else [] })
  | hook =>
      ((Binding.serve call ⟨Binding.uniformFingerprint 48, none, journal.recorder, [], false⟩ hook).1,
        { journal with current := call })

theorem serve_records (call : Nat) (journal : Journal) (hook : Hook F) :
    Records call journal hook (serve call journal hook).1 (serve call journal hook).2 := by
  cases hook with
  | checkpoints => exact ⟨rfl, rfl⟩
  | append => exact ⟨rfl, rfl⟩
  | _ => rfl

/-- The first call dies after it has applied its step and before it records it,
the second one completes the migration, and the third one is refused. -/
theorem resumed_log_sample :
    ∃ pool : Pool (Hook Empty) Hook.Response (Except Exc MigrationReport × Locals) Nat Journal,
      (pool.state.log (str "migration-1")).map (·.state) =
        [.planned, .planned, .applying, .validating, .activating, .completed] ∧
      pool.state.current = 2 ∧ pool.state.Sound Binding.sampleBundle (str "migration-1") := by
  refine ⟨Pool.scheduleIf (fun call journal => decide (journal.current ≤ call)) serve
    (start fun _ => Binding.sampleCall "job" "migration-1")
    (List.replicate 14 0 ++ List.replicate 40 1 ++ List.replicate 2 2), and_assoc.mp ⟨?_, ?_⟩⟩
  · decide +kernel
  apply (resumed_log Binding.sampleBundle (str "migration-1") (by decide)
    (fun _ => Binding.sampleCall "job" "migration-1") (fun _ => rfl) (fun _ => .inl rfl) _).1
  apply Pool.scheduleIf_reachable
  intro call journal hook guarded
  exact ⟨⟨of_decide_eq_true guarded, fun other => absurd rfl other⟩, serve_records call journal hook⟩

end Journal

end DataLifecycle.Migration
