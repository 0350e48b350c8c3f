import DataLifecycle.Outbox.Work
import DataLifecycle.Runner.BatchIsolation

/-!
# Running until idle

`ProjectionRunner.run_until_idle` repeats cycles until one claims nothing.  Every cycle
takes work out of the outbox for each record that it claims: a completed or quarantined
record has none left, and a record that waits for a retry has used up an attempt.  So the
loop stops, and then nothing is left that could be claimed.
-/

namespace DataLifecycle.Runner

open Python Interaction Outbox

variable {F α : Type} [FloatText F]

/-- `ProjectionRun.__add__`. -/
def ProjectionRun.add (first second : ProjectionRun) : ProjectionRun where
  claimed := first.claimed + second.claimed
  completed := first.completed + second.completed
  retryable := first.retryable + second.retryable
  quarantined := first.quarantined + second.quarantined

/-! ## The loop -/

/-- The calls of the loop: the cycles of the runner, each with its own readings of the
clock. -/
inductive LoopHook
  | runOnce (runner : ProjectionRunner)

/-- A cycle returns its counters or raises. -/
abbrev LoopHook.Response (_ : LoopHook) : Type := Except Exc ProjectionRun

/-- A part of the loop.  The local variable is `total`. -/
abbrev Looping (α : Type) := Script LoopHook LoopHook.Response Exc ProjectionRun α

/-- The exception of a loop that has used up its cycles. -/
def notIdle : Exc :=
  ⟨.runtimeError, ⟨"projection did not become idle within max_cycles", []⟩, none, false⟩

namespace ProjectionRunner

/-- `for _ in range(max_cycles)`. -/
def runCycles (runner : ProjectionRunner) : Nat → Looping ProjectionRun
  | 0 => Script.raise notIdle
  | cycles + 1 => do
      let current ← Script.invoke (LoopHook.runOnce runner) id
      Script.assign fun total => total.add current
      if current.claimed = 0 then Script.locals else runCycles runner cycles

/-- `run_until_idle`. -/
def runUntilIdle (runner : ProjectionRunner) (maxCycles : Int) : Looping ProjectionRun := do
  Script.refuse (maxCycles < 1) (.valueError "max_cycles must be positive")
  Script.assign fun _ => {}
  runner.runCycles maxCycles.toNat

end ProjectionRunner

/-! ## The cycles that answer -/

/-- The outbox and the calls of each cycle. -/
structure LoopWorld (F : Type) [FloatText F] where
  store : InMemoryOutboxStore F
  cycles : List (List (RunnerCall F)) := []

/-- The first reading of the clock in a cycle is inside the lease that it starts, and
every call leaves only what evidence can record. -/
structure Regular (runner : ProjectionRunner) (log : List (RunnerCall F)) : Prop where
  reading : ∀ response, log.head? = some ⟨.clock, response⟩ → ∃ time instant expiresAt,
    response = .ok time ∧ time.toUtc = .ok instant ∧
    instant.add runner.lease = some expiresAt ∧ instant < expiresAt
  accepted : ∀ call ∈ log, Accepted call

/-- A cycle is answered by one of its runs. -/
def Loops (describe : Exc → Except Exc Str) (before : LoopWorld F) :
    (hook : LoopHook) → hook.Response → LoopWorld F → Prop
  | .runOnce runner, response, after => ∃ final world,
      (runner.runOnce none {}).Returns (Attempts describe) ⟨before.store, []⟩ (response, final)
        world ∧
      Regular runner world.log ∧ after = ⟨world.store, before.cycles ++ [world.log]⟩

/-- At the claim of a cycle that claimed nothing, the first incomplete record of every
partition waits: it is quarantined, or under a lease that has not expired. -/
def IdleAt (runner : ProjectionRunner) (store : InMemoryOutboxStore F) (log : List (RunnerCall F)) :
    Prop :=
  ∃ time, (⟨.atomicClaim runner.workerId runner.batchSize runner.lease time, .ok []⟩ :
      RunnerCall F) ∈ log ∧
    ∀ {key record}, store.records.get? key = some record → store.IsHead record →
      record.Waits time

/-! ## One cycle -/

/-- What a cycle does to the outbox. -/
structure Progress (runner : ProjectionRunner) (before after : InMemoryOutboxStore F)
    (run : ProjectionRun) (log : List (RunnerCall F)) : Prop where
  sound : after.Sound
  kept : after.NoneAbandoned
  work : after.workLeft + run.claimed ≤ before.workLeft
  counted : run.claimed = run.completed + run.retryable + run.quarantined
  completed : before.completedEvents ⊆ after.completedEvents
  completed_card : after.completedEvents.card = before.completedEvents.card + run.completed
  /-- The cycle leaves no record of its own leased. -/
  leased : ∀ {key record}, after.records.get? key = some record → record.state = .leased →
    before.records.get? key = some record
  idle : run.claimed = 0 → IdleAt runner after log

/-- What the calls since a claim have done to the records. -/
structure Moved (start : InMemoryOutboxStore F) (world : CycleWorld F) : Prop where
  sound : world.store.Sound
  poisonThreshold : world.store.poisonThreshold = start.poisonThreshold
  advances : ∀ {key record}, start.records.get? key = some record →
    ∃ later, world.store.records.get? key = some later ∧
      record.Advances start.poisonThreshold later

theorem Moved.refl {world : CycleWorld F} (sound : world.store.Sound) :
    Moved world.store world where
  sound := sound
  poisonThreshold := rfl
  advances stored := ⟨_, stored, .inl rfl⟩

/-- The outbox after a call of a runner is the outbox before it, or after a call of an
operation other than the operator's retry. -/
theorem Answers.step {describe : Exc → Except Exc Str} {store after : InMemoryOutboxStore F}
    {hook : RunnerHook F} {response : hook.Response}
    (answers : Answers describe store hook response after) :
    after = store ∨ ∃ call, after = (store.step call).2 ∧
      ∀ key result, ¬ InMemoryOutboxStore.Event.retries key (call, result) := by
  cases answers with
  | atomicClaim owner limit duration now =>
      exact .inr ⟨.atomicClaim owner limit duration (some (.ofUtc now)) unread, rfl,
        fun _ _ => not_false⟩
  | complete eventId owner version fingerprint now =>
      exact .inr ⟨.complete eventId owner version fingerprint (some now) unread, rfl,
        fun _ _ => not_false⟩
  | release eventId owner error retryable now text =>
      exact .inr ⟨.release eventId owner (errorView error text) retryable (some now) unread, rfl,
        fun _ _ => not_false⟩
  | _ => exact .inl rfl

theorem Moved.answer {describe : Exc → Except Exc Str} {start : InMemoryOutboxStore F}
    {before after : CycleWorld F} {hook : RunnerHook F} {response : hook.Response}
    (moved : Moved start before) (attempted : Attempts describe before hook response after) :
    Moved start after := by
  rcases attempted.1.step with same | ⟨call, stepped, notRetry⟩
  · exact ⟨same ▸ moved.sound, same ▸ moved.poisonThreshold, same ▸ moved.advances⟩
  · constructor
    · rw [stepped]
      exact moved.sound.step call
    · rw [stepped, InMemoryOutboxStore.poisonThreshold_step, moved.poisonThreshold]
    · intro key record stored
      obtain ⟨middle, storedMiddle, first⟩ := moved.advances stored
      have step := InMemoryOutboxStore.step_record moved.sound call key
      rw [storedMiddle, ← stepped] at step
      obtain ⟨later, storedLater, second⟩ := step.advances (notRetry key _)
      rw [moved.poisonThreshold] at second
      exact ⟨later, storedLater, first.trans second⟩

section Cycle

variable {describe : Exc → Except Exc Str} {runner : ProjectionRunner}
  {store : InMemoryOutboxStore F} {views : List (OutboxRecord F)} {current : Utc}
  {claimed after : CycleWorld F} {final : ProjectionRun} {states : List OutboxState}

/-- The record of a claimed event at the end of the cycle. -/
theorem exists_settled (leases : store.Leases current claimed.store views)
    (moved : Moved claimed.store after)
    (finished : Finished runner.spec views claimed {} final states after)
    {view : OutboxRecord F} (viewMem : view ∈ views) :
    ∃ record later, store.records.get? view.data.eventId = some record ∧
      record.Claimable current ∧ after.store.records.get? view.data.eventId = some later ∧
      IsSettled later.state ∧
      later.work store.poisonThreshold < record.work store.poisonThreshold := by
  obtain ⟨record, lease, stored, claimable, storedClaimed⟩ := leases.leased view viewMem
  obtain ⟨later, storedLater, advances⟩ := moved.advances storedClaimed
  have settled : IsSettled later.state := by
    have member : some later.state ∈ states.map some := by
      rw [← finished.states_eq]
      refine List.mem_map.mpr ⟨view, viewMem, ?_⟩
      rw [stateOf, storedLater]
      rfl
    obtain ⟨state, stateMem, same⟩ := List.mem_map.mp member
    rw [← Option.some.inj same]
    exact finished.settled state stateMem
  rw [leases.poisonThreshold] at advances
  exact ⟨record, later, stored, claimable, storedLater, settled,
    MutableRecord.work_lt_of_settled claimable advances settled⟩

/-- As many events of the batch are completed as the counters say. -/
theorem card_completed (distinct : (views.map (·.data.eventId)).Nodup)
    (finished : Finished runner.spec views claimed {} final states after) :
    ((views.map (·.data.eventId)).toFinset.filter (· ∈ after.store.completedEvents)).card =
      states.count .completed := by
  have completedIff : ∀ key, key ∈ after.store.completedEvents ↔
      stateOf after.store key = some .completed := by
    intro key
    rw [InMemoryOutboxStore.mem_completedEvents, stateOf, Option.map_eq_some_iff]
  have counted : (views.map fun view => stateOf after.store view.data.eventId).count
      (some .completed) = states.count .completed := by
    rw [finished.states_eq, List.count_map_of_injective _ _ (Option.some_injective _)]
  have listed : (views.map (·.data.eventId)).toFinset.filter (· ∈ after.store.completedEvents) =
      ((views.map (·.data.eventId)).filter fun key =>
        stateOf after.store key = some .completed).toFinset := by
    ext key
    simp [completedIff]
  rw [listed, List.toFinset_card_of_nodup (distinct.filter _), ← counted, List.count_eq_countP,
    ← List.countP_eq_length_filter, List.countP_map, List.countP_map]
  apply List.countP_congr
  intro view _
  simp

/-- A finished cycle takes work out of the outbox for every record that it claimed. -/
theorem progress_of_finished (kept : store.NoneAbandoned)
    (leases : store.Leases current claimed.store views)
    (distinct : (views.map (·.data.eventId)).Nodup) (moved : Moved claimed.store after)
    (finished : Finished runner.spec views claimed {} final states after)
    (logged : (⟨.atomicClaim runner.workerId runner.batchSize runner.lease current, .ok views⟩ :
      RunnerCall F) ∈ after.log) :
    Progress runner store after.store { final with claimed := views.length } after.log := by
  have others : ∀ key, key ∉ views.map (·.data.eventId) →
      after.store.records.get? key = store.records.get? key := by
    intro key absent
    have different : ∀ view ∈ views, view.data.eventId ≠ key := by
      rintro view viewMem rfl
      exact absent (List.mem_map_of_mem viewMem)
    rw [finished.others key different, leases.others key different]
  have settled : ∀ key ∈ views.map (·.data.eventId), ∃ record later,
      store.records.get? key = some record ∧ record.Claimable current ∧
      after.store.records.get? key = some later ∧ IsSettled later.state ∧
      later.work store.poisonThreshold < record.work store.poisonThreshold := by
    intro key member
    obtain ⟨view, viewMem, rfl⟩ := List.mem_map.mp member
    exact exists_settled leases moved finished viewMem
  have incomplete : ∀ key ∈ views.map (·.data.eventId), key ∉ store.completedEvents := by
    intro key member completed
    obtain ⟨record, later, stored, claimable, -⟩ := settled key member
    obtain ⟨other, storedOther, isCompleted⟩ := InMemoryOutboxStore.mem_completedEvents.mp completed
    rw [stored, Option.some.injEq] at storedOther
    subst storedOther
    exact claimable.ne_completed isCompleted
  have notLeased : ∀ key ∈ views.map (·.data.eventId), ∀ record,
      after.store.records.get? key = some record → record.state ≠ .leased := by
    intro key member record stored isLeased
    obtain ⟨-, later, -, -, storedLater, isSettled, -⟩ := settled key member
    rw [stored, Option.some.injEq] at storedLater
    subst storedLater
    rw [isLeased] at isSettled
    rcases isSettled with state | state | state <;> cases state
  obtain ⟨union, disjoint⟩ := InMemoryOutboxStore.completedEvents_eq_union others incomplete
  obtain ⟨completed, retryable, quarantined, total⟩ := foldl_count states finished.settled {}
  rw [← finished.counted, Nat.zero_add] at completed retryable quarantined
  constructor
  · exact moved.sound
  · intro key record stored abandoned
    by_cases member : key ∈ views.map (·.data.eventId)
    · exact absurd abandoned.1 (notLeased key member record stored)
    · rw [others key member] at stored
      exact kept stored abandoned
  · have reduced := InMemoryOutboxStore.workLeft_add_length_le distinct
      (moved.poisonThreshold.trans leases.poisonThreshold) others (by
        intro key member
        obtain ⟨record, later, stored, -, storedLater, -, less⟩ := settled key member
        exact ⟨record, later, stored, storedLater, less⟩)
    rwa [List.length_map] at reduced
  · have lengths := congrArg List.length finished.states_eq
    rw [List.length_map, List.length_map] at lengths
    dsimp only
    rw [lengths, total, completed, retryable, quarantined]
  · rw [union]
    exact Finset.subset_union_left
  · rw [union, Finset.card_union_of_disjoint disjoint, card_completed distinct finished]
    exact congrArg _ completed.symm
  · intro key record stored isLeased
    by_cases member : key ∈ views.map (·.data.eventId)
    · exact absurd isLeased (notLeased key member record stored)
    · rwa [others key member] at stored
  · intro none
    obtain rfl : views = [] := List.length_eq_zero_iff.mp none
    have same : ∀ key, after.store.records.get? key = store.records.get? key :=
      fun key => others key List.not_mem_nil
    refine ⟨current, logged, ?_⟩
    intro key record stored isHead
    rw [same] at stored
    have headBefore : store.IsHead record :=
      ⟨isHead.incomplete, fun stored => isHead.earlier ((same _).trans stored)⟩
    exact MutableRecord.waits_of_not_claimable isHead.incomplete (kept stored)
      (leases.idle rfl stored headBefore)

theorem pos_of_add {instant expiresAt : Utc} {duration : Int}
    (added : instant.add duration = some expiresAt) (inside : instant < expiresAt) :
    0 < duration := by
  rw [Utc.add, Utc.ofInt] at added
  split at added
  · cases added
    rw [Fin.lt_def] at inside
    change instant.val < (instant.val + duration).toNat at inside
    omega
  · cases added

/-- A claim inside the lease that it starts leases the first claimable heads. -/
theorem leases_of_attempts {before world : CycleWorld F} {claimTime expiresAt : Utc}
    {response : Except Exc (List (OutboxRecord F))} (sound : before.store.Sound)
    (kept : before.store.NoneAbandoned) (added : claimTime.add runner.lease = some expiresAt)
    (inside : claimTime < expiresAt)
    (attempted : Attempts describe before
      (.atomicClaim runner.workerId runner.batchSize runner.lease claimTime) response world) :
    ∃ views, response = .ok views ∧ before.store.Leases claimTime world.store views := by
  have claim := attempted.1.atomicClaim_eq
  have free : ¬ InMemoryOutboxStore.Obstructed runner.batchSize.toNat claimTime
      before.store.heads :=
    InMemoryOutboxStore.not_obstructed
      (fun item member => kept ((Dict.get?_eq_some_iff _).mpr member)) _ _
  have meets := InMemoryOutboxStore.meetsSpecification_of_not_obstructed sound runner.workerId_ne
    runner.batchSize_pos (pos_of_add added inside) (currentTime_ofUtc claimTime unread) added free
  rw [claim] at meets
  obtain ⟨views, returned, -⟩ := meets.returned
  dsimp only at returned
  subst returned
  have limitPos : 0 < runner.batchSize.toNat := by
    have positive := runner.batchSize_pos
    omega
  exact ⟨views, rfl, meets.leases sound limitPos⟩

/-- A regular cycle returns, and makes progress. -/
theorem ends_cycle (converts : ConvertsOrdinary describe) (named : Encodes runner.spec.name)
    (sound : store.Sound) (kept : store.NoneAbandoned) :
    Ends describe (runner.runOnce none)
      (fun run _ after => Regular runner after.log →
        Progress runner store after.store run after.log)
      (fun _ _ after => ¬ Regular runner after.log) {} ⟨store, []⟩ := by
  apply ends_bind
  apply ends_request
  swap
  · rintro error after ⟨-, -, logged⟩ regular
    obtain ⟨_, _, _, impossible, -⟩ := regular.reading (.error error) (by rw [logged]; rfl)
    cases impossible
  rintro time before ⟨answers, -, clocked⟩
  have sameStore : before.store = store := answers.store_eq rfl
  -- every later log begins with the reading of the clock
  have read : ∀ {log more : List (RunnerCall F)}, log = before.log ++ more →
      Regular runner log → ∃ instant expiresAt, time.toUtc = .ok instant ∧
        instant.add runner.lease = some expiresAt ∧ instant < expiresAt := by
    rintro log more extended regular
    obtain ⟨_, instant, expiresAt, ⟨⟩, facts⟩ := regular.reading (.ok time) (by
      rw [extended, clocked]
      rfl)
    exact ⟨instant, expiresAt, facts⟩
  apply ends_bind
  cases converted : ensureUtc "now" time with
  | error error =>
      intro regular
      obtain ⟨instant, expiresAt, readable, -⟩ := read (List.append_nil _).symm regular
      rw [ensureUtc_eq_ok_iff.mpr readable] at converted
      cases converted
  | ok claimTime =>
      have readable : time.toUtc = .ok claimTime := ensureUtc_eq_ok_iff.mp converted
      have claims : ∀ {response world} {log more : List (RunnerCall F)},
          Attempts describe before
            (.atomicClaim runner.workerId runner.batchSize runner.lease claimTime) response world →
          log = before.log ++ more → Regular runner log →
          ∃ views, response = .ok views ∧ store.Leases claimTime world.store views := by
        intro response world log more attempted extended regular
        obtain ⟨instant, expiresAt, instantEq, added, inside⟩ := read extended regular
        rw [readable, Except.ok.injEq] at instantEq
        subst instantEq
        rw [← sameStore] at sound kept ⊢
        exact leases_of_attempts sound kept added inside attempted
      rw [← sameStore] at sound
      apply ends_bind
      apply ends_request
      · intro views world attempted
        have logged := attempted.2.2
        have worldSound : world.store.Sound := by
          obtain ⟨calls, moved⟩ := attempted.1.run
          rw [moved]
          exact sound.run calls
        have claimed := InMemoryOutboxStore.atomicClaim_claimed sound
          (currentTime_ofUtc claimTime unread) (congrArg Prod.fst attempted.1.atomicClaim_eq)
        apply ends_bind
        apply ends_assign
        apply ends_bind
        refine Script.Safe.mono (Script.Safe.and_invariant (ends_claimed converts sound attempted)
          (Moved world.store) (fun _ _ => trivial)
          (fun _ _ _ _ moved attempted => moved.answer attempted) (.refl worldSound)) ?_ ?_
        · rintro _ last after ⟨⟨states, finished⟩, moved⟩ regular
          obtain ⟨calls, extended, -⟩ := finished.recording
          obtain ⟨_, ⟨⟩, leases⟩ := claims attempted
            (by rw [extended.1, logged, List.append_assoc]) regular
          refine progress_of_finished kept leases claimed.nodup moved finished ?_
          rw [extended.1, logged]
          simp
        · rintro error last after ⟨⟨nonempty, calls, extended, unrecorded⟩, -⟩ regular
          refine unrecorded ⟨named, ?_⟩
          intro call callMem
          apply regular.accepted
          rw [extended.1]
          exact List.mem_append_right _ callMem
      · intro error world attempted regular
        obtain ⟨_, impossible, -⟩ := claims attempted attempted.2.2 regular
        cases impossible

end Cycle

/-! ## Whole loops -/

/-- What the cycles so far have done. -/
structure Underway (start : InMemoryOutboxStore F) (total : ProjectionRun) (world : LoopWorld F) :
    Prop where
  sound : world.store.Sound
  kept : world.store.NoneAbandoned
  work : world.store.workLeft + total.claimed ≤ start.workLeft
  counted : total.claimed = total.completed + total.retryable + total.quarantined
  completed : start.completedEvents ⊆ world.store.completedEvents
  completed_card : world.store.completedEvents.card = start.completedEvents.card + total.completed
  leased : ∀ {key record}, world.store.records.get? key = some record → record.state = .leased →
    start.records.get? key = some record

theorem underway_start {store : InMemoryOutboxStore F} (sound : store.Sound)
    (kept : store.NoneAbandoned) : Underway store {} ⟨store, []⟩ where
  sound := sound
  kept := kept
  work := Nat.le_refl _
  counted := rfl
  completed := Finset.Subset.refl _
  completed_card := rfl
  leased stored _ := stored

/-- One more cycle. -/
theorem Underway.cycle {start : InMemoryOutboxStore F} {total run : ProjectionRun}
    {world after : LoopWorld F} {runner : ProjectionRunner} {log : List (RunnerCall F)}
    (underway : Underway start total world)
    (progress : Progress runner world.store after.store run log) :
    Underway start (total.add run) after where
  sound := progress.sound
  kept := progress.kept
  work := by
    have before := underway.work
    have reduced := progress.work
    change after.store.workLeft + (total.claimed + run.claimed) ≤ start.workLeft
    omega
  counted := by
    have before := underway.counted
    have counted := progress.counted
    change total.claimed + run.claimed = total.completed + run.completed +
      (total.retryable + run.retryable) + (total.quarantined + run.quarantined)
    omega
  completed := underway.completed.trans progress.completed
  completed_card := by
    rw [progress.completed_card, underway.completed_card, Nat.add_assoc]
    rfl
  leased stored isLeased := underway.leased (progress.leased stored isLeased) isLeased

section Loop

variable {describe : Exc → Except Exc Str} {runner : ProjectionRunner}

/-- A loop that has claimed something in every cycle ends idle, or has used up its
cycles. -/
theorem safe_runCycles (converts : ConvertsOrdinary describe) (named : Encodes runner.spec.name)
    {start : InMemoryOutboxStore F} (cycles : Nat) {total : ProjectionRun} {world : LoopWorld F}
    (underway : Underway start total world) (busy : world.cycles.length ≤ total.claimed) :
    (runner.runCycles cycles).Safe (Loops describe) (fun _ _ => True)
      (fun result _ after => Underway start result after ∧
        after.cycles.length ≤ 1 + result.claimed ∧
        ∃ log, after.cycles.getLast? = some log ∧ IdleAt runner after.store log)
      (fun _ _ after => after.cycles.length = world.cycles.length + cycles ∧
        after.cycles.length ≤ start.workLeft) total world := by
  induction cycles generalizing total world with
  | zero =>
      have work := underway.work
      exact ⟨rfl, by omega⟩
  | succ cycles inductionHypothesis =>
      apply Script.safe_bind.mpr
      apply Script.safe_invoke.mpr
      refine ⟨trivial, ?_⟩
      rintro response _ ⟨final, cycle, returns, regular, rfl⟩
      have ended := Prog.Safe.of_returns (ends_cycle converts named underway.sound underway.kept)
        returns
      cases response with
      | error error => exact absurd regular ended
      | ok run =>
          have progress := ended regular
          have more : Underway start (total.add run) ⟨cycle.store, world.cycles ++ [cycle.log]⟩ :=
            underway.cycle progress
          apply Script.safe_bind.mpr
          apply Script.safe_assign.mpr
          split
          next idle =>
            refine ⟨more, ?_, cycle.log, List.getLast?_concat, progress.idle idle⟩
            change (world.cycles ++ [cycle.log]).length ≤ 1 + (total.claimed + run.claimed)
            rw [List.length_append, List.length_singleton]
            omega
          next claimed =>
            have stillBusy : (world.cycles ++ [cycle.log]).length ≤ total.claimed + run.claimed := by
              rw [List.length_append, List.length_singleton]
              omega
            refine Script.Safe.mono (inductionHypothesis more stillBusy) (fun _ _ _ done => done) ?_
            rintro error final after ⟨used, bounded⟩
            refine ⟨?_, bounded⟩
            rw [used, List.length_append, List.length_singleton]
            omega

end Loop

/-- `run_until_idle` stops.  Over every outbox without a record that is LEASED without a
lease, in every run whose cycles stay inside their leases and whose callbacks raise
convertible exceptions, there is at most one cycle more than the work left, so the loop
returns if it may take as many.  When it returns, the counters add up, the first
incomplete record of every partition is quarantined or was under a lease that had not
expired at the last claim, and every record that is leased then has been so, under the same
lease, since before the loop. -/
theorem run_until_idle_stops (describe : Exc → Except Exc Str)
    (converts : ConvertsOrdinary describe) (runner : ProjectionRunner)
    (named : Encodes runner.spec.name) (store : InMemoryOutboxStore F)
    (reachable : store.Reachable) (kept : store.NoneAbandoned) (maxCycles : Int)
    (outcome : Except Exc ProjectionRun) (final : ProjectionRun) (world : LoopWorld F)
    (returns : (runner.runUntilIdle maxCycles {}).Returns (Loops describe) ⟨store, []⟩
      (outcome, final) world) :
    world.cycles.length ≤ 1 + store.workLeft ∧
    (((1 + store.workLeft : Nat) : Int) ≤ maxCycles → ∃ total, outcome = .ok total) ∧
    ∀ total, outcome = .ok total →
      (∃ log, world.cycles.getLast? = some log ∧ IdleAt runner world.store log) ∧
      (∀ key record, world.store.records.get? key = some record → record.state = .leased →
        store.records.get? key = some record) ∧
      total.claimed = total.completed + total.retryable + total.quarantined ∧
      total.completed = (world.store.completedEvents \ store.completedEvents).card := by
  have safe : (runner.runUntilIdle maxCycles).Safe (Loops describe) (fun _ _ => True)
      (fun result _ after => Underway store result after ∧
        after.cycles.length ≤ 1 + result.claimed ∧
        ∃ log, after.cycles.getLast? = some log ∧ IdleAt runner after.store log)
      (fun _ _ after => after.cycles.length ≤ store.workLeft ∧
        (after.cycles.length : Int) = max 0 maxCycles) {} ⟨store, []⟩ := by
    apply Script.safe_bind.mpr
    apply Script.safe_refuse.mpr
    constructor
    · intro refused
      refine ⟨Nat.zero_le _, ?_⟩
      change (0 : Int) = max 0 maxCycles
      omega
    · intro _
      apply Script.safe_bind.mpr
      apply Script.safe_assign.mpr
      refine Script.Safe.mono (safe_runCycles converts named maxCycles.toNat
        (underway_start reachable.sound kept) (Nat.le_refl 0)) (fun _ _ _ done => done) ?_
      rintro error final after ⟨used, bounded⟩
      refine ⟨bounded, ?_⟩
      change after.cycles.length = 0 + maxCycles.toNat at used
      omega
  have ended := Prog.Safe.of_returns safe returns
  cases outcome with
  | error error =>
      obtain ⟨bounded, used⟩ := ended
      refine ⟨by omega, ?_, nofun⟩
      intro enough
      omega
  | ok total =>
      obtain ⟨underway, few, idle⟩ := ended
      have work := underway.work
      refine ⟨by omega, fun _ => ⟨total, rfl⟩, ?_⟩
      rintro _ ⟨⟩
      refine ⟨idle, fun _ _ => underway.leased, underway.counted, ?_⟩
      rw [Finset.card_sdiff_of_subset underway.completed, underway.completed_card]
      omega

/-! ## Closed loops -/

/-- Whether the first reading of the clock is inside the lease that it starts. -/
def punctual (runner : ProjectionRunner) : List (RunnerCall F) → Bool
  | ⟨.clock, .error _⟩ :: _ => false
  | ⟨.clock, .ok time⟩ :: _ =>
      match time.toUtc with
      | .error _ => false
      | .ok instant => (instant.add runner.lease).any (instant < ·)
  | _ => true

theorem regular_of_punctual {runner : ProjectionRunner} {log : List (RunnerCall F)}
    (isPunctual : punctual runner log = true) (accepted : ∀ call ∈ log, Accepted call) :
    Regular runner log := by
  refine ⟨?_, accepted⟩
  intro response first
  obtain ⟨rest, rfl⟩ := List.head?_eq_some_iff.mp first
  cases response with
  | error error => cases isPunctual
  | ok time =>
      rw [punctual] at isPunctual
      cases converted : time.toUtc with
      | error error =>
          rw [converted] at isPunctual
          cases isPunctual
      | ok instant =>
          rw [converted, Option.any_eq_true] at isPunctual
          obtain ⟨expiresAt, added, inside⟩ := isPunctual
          exact ⟨time, instant, expiresAt, rfl, converted, added, of_decide_eq_true inside⟩

/-- The sample callbacks with a given answer of the target. -/
def targetResponse (target : Except Exc (OperationResult Empty)) (store : InMemoryOutboxStore Empty) :
    (hook : RunnerHook Empty) → hook.Response × InMemoryOutboxStore Empty
  | .execute _ => (target, store)
  | hook => sampleResponse store hook

/-- The cycle world with these callbacks. -/
def targetHandler (target : Except Exc (OperationResult Empty)) (world : CycleWorld Empty)
    (hook : RunnerHook Empty) : hook.Response × CycleWorld Empty :=
  let answer := targetResponse target world.store hook
  (answer.1, ⟨answer.2, world.log ++ [⟨hook, answer.1⟩]⟩)

/-- The answer of the target in a cycle of the sample loop: it cancels the write in the first
cycles. -/
def targetOf (cancelled : Nat) (world : LoopWorld Empty) : Except Exc (OperationResult Empty) :=
  if world.cycles.length < cancelled then .error .operationCancelled else .ok sampleAnswer

theorem targetHandler_attempts {cancelled : Nat} {loop : LoopWorld Empty}
    (world : CycleWorld Empty) (hook : RunnerHook Empty) (inside : insideLeases world hook = true) :
    Attempts (fun _ => .ok []) world hook (targetHandler (targetOf cancelled loop) world hook).1
      (targetHandler (targetOf cancelled loop) world hook).2 := by
  cases hook with
  | execute expression =>
      refine ⟨.execute expression _, ?_, rfl⟩
      show Admissible _ _ ⟨.execute expression, targetOf cancelled loop⟩
      unfold targetOf
      split
      · exact ⟨rfl, show str "MERIDIAN_LIFECYCLE_CANCELLED" ≠ [] by decide, [], rfl,
          .inr (show str "OperationCancelled" ≠ [] by decide)⟩
      · trivial
  | _ => exact sinkHandler_attempts (.inl rfl) world _ inside

/-- A cycle with a given answer of the target. -/
def sampleCycle (target : Except Exc (OperationResult Empty)) (runner : ProjectionRunner)
    (store : InMemoryOutboxStore Empty) :
    (Except Exc ProjectionRun × ProjectionRun) × CycleWorld Empty :=
  (runner.runOnce none {}).run (targetHandler target) ⟨store, []⟩

/-- The loop world whose target cancels the writes of the first cycles. -/
def loopHandler (cancelled : Nat) (world : LoopWorld Empty) :
    (hook : LoopHook) → hook.Response × LoopWorld Empty
  | .runOnce runner =>
      let cycle := sampleCycle (targetOf cancelled world) runner world.store
      (cycle.1.1, ⟨cycle.2.store, world.cycles ++ [cycle.2.log]⟩)

/-- Whether the cycle stays inside its lease and is regular. -/
def isRegular (cancelled : Nat) (world : LoopWorld Empty) : LoopHook → Bool
  | .runOnce runner =>
      let log := (sampleCycle (targetOf cancelled world) runner world.store).2.log
      (runner.runOnce none {}).passes (targetHandler (targetOf cancelled world)) insideLeases
        ⟨world.store, []⟩ && punctual runner log && decide (∀ call ∈ log, Accepted call)

/-- A regular cycle of the sample loop is one of its runs. -/
theorem returns_sampleCycle {cancelled : Nat} {world : LoopWorld Empty} {runner : ProjectionRunner}
    (regular : isRegular cancelled world (.runOnce runner) = true) :
    (runner.runOnce none {}).Returns (Attempts fun _ => .ok []) ⟨world.store, []⟩
        (sampleCycle (targetOf cancelled world) runner world.store).1
        (sampleCycle (targetOf cancelled world) runner world.store).2 ∧
      Regular runner (sampleCycle (targetOf cancelled world) runner world.store).2.log := by
  rw [isRegular, Bool.and_eq_true, Bool.and_eq_true] at regular
  obtain ⟨⟨passed, isPunctual⟩, accepted⟩ := regular
  exact ⟨Prog.run_returns_of_passes targetHandler_attempts _ _ passed,
    regular_of_punctual isPunctual (of_decide_eq_true accepted)⟩

theorem loopHandler_loops {cancelled : Nat} (world : LoopWorld Empty) (hook : LoopHook)
    (regular : isRegular cancelled world hook = true) :
    Loops (fun _ => .ok []) world hook (loopHandler cancelled world hook).1
      (loopHandler cancelled world hook).2 := by
  cases hook with
  | runOnce runner =>
      obtain ⟨returns, isRegular⟩ := returns_sampleCycle regular
      exact ⟨_, _, returns, isRegular, rfl⟩

/-- The sample loop over an outbox. -/
def sampleLoop (cancelled : Nat) (maxCycles : Int) (store : InMemoryOutboxStore Empty) :
    (Except Exc ProjectionRun × ProjectionRun) × LoopWorld Empty :=
  (sampleRunner.runUntilIdle maxCycles {}).run (loopHandler cancelled) ⟨store, []⟩

theorem sampleLoop_returns {cancelled : Nat} {maxCycles : Int} {store : InMemoryOutboxStore Empty}
    (passed : (sampleRunner.runUntilIdle maxCycles {}).passes (loopHandler cancelled)
      (isRegular cancelled) ⟨store, []⟩ = true) :
    (sampleRunner.runUntilIdle maxCycles {}).Returns (Loops fun _ => .ok []) ⟨store, []⟩
      ((sampleLoop cancelled maxCycles store).1.1, (sampleLoop cancelled maxCycles store).1.2)
      (sampleLoop cancelled maxCycles store).2 :=
  Prog.run_returns_of_passes loopHandler_loops _ _ passed

/-- The outbox with the sample case, claimed by the sample runner in a cycle that was
interrupted. -/
def interruptedOutbox : InMemoryOutboxStore Empty :=
  (sampleOutbox.run [.atomicClaim sampleRunner.workerId 10 60000000
    (some (.ofUtc 20)) unread]).1

/-- The loop becomes idle over a record that the runner itself holds: a lease is waited for,
whoever holds it. -/
theorem own_lease_leaves_idle :
    (sampleRunner.runUntilIdle 3 {}).Returns (Loops fun _ => .ok []) ⟨interruptedOutbox, []⟩
      ((sampleLoop 0 3 interruptedOutbox).1.1, (sampleLoop 0 3 interruptedOutbox).1.2)
      (sampleLoop 0 3 interruptedOutbox).2 ∧
    (sampleLoop 0 3 interruptedOutbox).1.1 = .ok {} ∧
    ∃ record lease, (sampleLoop 0 3 interruptedOutbox).2.store.records.get? (str "event-1") =
        some record ∧
      (sampleLoop 0 3 interruptedOutbox).2.store.isHead record = true ∧
      record.state = .leased ∧ record.lease = some lease ∧ lease.owner = sampleRunner.workerId := by
  refine ⟨sampleLoop_returns (by decide +kernel), by decide +kernel, ?_⟩
  have held : ((sampleLoop 0 3 interruptedOutbox).2.store.records.get? (str "event-1")).any
      (fun record => (sampleLoop 0 3 interruptedOutbox).2.store.isHead record &&
        record.state == .leased &&
        record.lease.any (·.owner = sampleRunner.workerId)) = true := by decide +kernel
  obtain ⟨record, stored, facts⟩ := Option.any_eq_true _ _ |>.mp held
  rw [Bool.and_eq_true, Bool.and_eq_true, Option.any_eq_true] at facts
  obtain ⟨⟨isHead, leased⟩, lease, leaseEq, owner⟩ := facts
  exact ⟨record, lease, stored, isHead, eq_of_beq leased, leaseEq, of_decide_eq_true owner⟩

/-- The target cancels the write of the first cycle: the sample case is retried and completed in
the second cycle, and the third one claims nothing. -/
theorem run_until_idle_stops_sample :
    sampleOutbox.workLeft = 5 ∧ ∃ total, (sampleLoop 1 6 sampleOutbox).1.1 = .ok total ∧
      total.completed = ((sampleLoop 1 6 sampleOutbox).2.store.completedEvents \
        sampleOutbox.completedEvents).card ∧
      (∀ key record, (sampleLoop 1 6 sampleOutbox).2.store.records.get? key = some record →
        record.state = .leased → sampleOutbox.records.get? key = some record) ∧
      total.claimed = 2 ∧ total.retryable = 1 ∧
      (sampleLoop 1 6 sampleOutbox).2.cycles.length = 3 := by
  have returns : (sampleRunner.runUntilIdle 6 {}).Returns (Loops fun _ => .ok [])
      ⟨sampleOutbox, []⟩ ((sampleLoop 1 6 sampleOutbox).1.1, (sampleLoop 1 6 sampleOutbox).1.2)
      (sampleLoop 1 6 sampleOutbox).2 :=
    sampleLoop_returns (by decide +kernel)
  have kept : ∀ item ∈ sampleOutbox.records.items, ¬ item.2.Abandoned := by decide +kernel
  have stops := run_until_idle_stops (fun _ => .ok []) (fun _ _ => ⟨[], rfl⟩) sampleRunner
    (show Encodes (str "case-view") by decide +kernel) sampleOutbox ⟨5, by decide, _, rfl⟩
    (fun stored => kept _ ((Dict.get?_eq_some_iff _).mp stored)) 6 _ _ _ returns
  have five : sampleOutbox.workLeft = 5 := by decide +kernel
  obtain ⟨total, outcome⟩ := stops.2.1 (by rw [five]; decide)
  obtain ⟨-, leased, -, completed⟩ := stops.2.2 total outcome
  have counted : (sampleLoop 1 6 sampleOutbox).1.1.toOption.any
      (fun total => total.claimed = 2 ∧ total.retryable = 1) = true := by
    decide +kernel
  rw [outcome] at counted
  obtain ⟨claimed, retried⟩ := of_decide_eq_true counted
  exact ⟨five, total, outcome, completed, leased, claimed, retried, by decide +kernel⟩

end DataLifecycle.Runner
