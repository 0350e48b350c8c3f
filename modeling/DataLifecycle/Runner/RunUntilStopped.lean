import DataLifecycle.Outbox.Lag
import DataLifecycle.Runner.RunUntilIdle

/-!
# Running until stopped

`ProjectionRunner.run_until_stopped` repeats cycles until an event is set, and waits after a
cycle that claimed nothing.  Other workers, appenders and operators may use the outbox
whenever the loop asks the event or waits for it.  The loop itself may not end, so it is
followed for a number of rounds.
-/

namespace DataLifecycle.Runner

open Python Interaction Outbox

variable {F : Type} [FloatText F]

/-! ## The loop -/

/-- The calls of the loop: `stop.is_set()`, a cycle, and `stop.wait(seconds)`. -/
inductive PollHook
  | isSet
  | runOnce (runner : ProjectionRunner)
  | wait (seconds : ℚ)

/-- The answer to a call.  A wait raises `OverflowError` for a time that is too long. -/
abbrev PollHook.Response : PollHook → Type
  | .isSet => Bool
  | .runOnce _ => Except Exc ProjectionRun
  | .wait _ => Except Exc Bool

/-- A part of the loop.  The local variable is `total`. -/
abbrev Polling (α : Type) := Script PollHook PollHook.Response Exc ProjectionRun α

namespace ProjectionRunner

/-- What the loop does after a cycle. -/
def pause (seconds : ℚ) (current : ProjectionRun) : Polling Unit :=
  if current.claimed = 0 then do
    let _ ← Script.invoke (.wait seconds) id
    pure ()
  else pure ()

/-- The first rounds of `while not stop.is_set()`.  The result is `none` when the loop is
still running after them. -/
def pollRounds (runner : ProjectionRunner) (seconds : ℚ) : Nat → Polling (Option ProjectionRun)
  | 0 => pure none
  | rounds + 1 => do
      let stopped ← Script.invoke .isSet .ok
      if stopped then do
        let total ← Script.locals
        pure (some total)
      else do
        let current ← Script.invoke (.runOnce runner) id
        Script.assign fun total => total.add current
        pause seconds current
        pollRounds runner seconds rounds

/-- `run_until_stopped`, for a number of rounds. -/
def runUntilStopped (runner : ProjectionRunner) (pollIntervalSeconds : ℚ) (rounds : Nat) :
    Polling (Option ProjectionRun) := do
  Script.refuse (pollIntervalSeconds < 0)
    (.valueError "poll_interval_seconds must be non-negative")
  Script.assign fun _ => {}
  runner.pollRounds pollIntervalSeconds rounds

end ProjectionRunner

/-! ## The world of the loop -/

/-- A cycle that returned: the outbox after it, its calls and its counters. -/
structure Round (F : Type) [FloatText F] where
  store : InMemoryOutboxStore F
  log : List (RunnerCall F)
  run : ProjectionRun

/-- What an observer sees of the loop. -/
inductive Moment (F : Type) [FloatText F]
  | checked (isSet : Bool)
  | cycle (round : Round F)
  | waited (seconds : ℚ)

/-- The moments of a whole round. -/
def Round.moments (seconds : ℚ) (round : Round F) : List (Moment F) :=
  .checked false :: .cycle round :: if round.run.claimed = 0 then [.waited seconds] else []

/-- The outbox, what the loop has done, and what others have done in the outbox. -/
structure PollWorld (F : Type) [FloatText F] where
  store : InMemoryOutboxStore F
  trace : List (Moment F) := []
  others : List (InMemoryOutboxStore.Event F) := []

/-- Others make some calls on the outbox. -/
def PollWorld.interfere (world : PollWorld F) (calls : List (Call F)) (moment : Moment F) :
    PollWorld F where
  store := (world.store.run calls).1
  trace := world.trace ++ [moment]
  others := world.others ++ (world.store.run calls).2

/-- The world after a cycle. -/
def PollWorld.cycle (world : PollWorld F) (after : CycleWorld F) :
    Except Exc ProjectionRun → PollWorld F
  | .ok run => { world with
      store := after.store, trace := world.trace ++ [.cycle ⟨after.store, after.log, run⟩] }
  | .error _ => { world with store := after.store }

/-- A cycle is answered by one of its runs.  While the loop asks or waits, others may make any
calls whose leases end within the calendar. -/
def Polls (describe : Exc → Except Exc Str) (before : PollWorld F) :
    (hook : PollHook) → hook.Response → PollWorld F → Prop
  | .isSet, answer, after => ∃ calls : List (Call F), (∀ call ∈ calls, call.InRange) ∧
      after = before.interfere calls (.checked answer)
  | .runOnce runner, response, after => ∃ final world,
      (runner.runOnce none {}).Returns (Attempts describe) ⟨before.store, []⟩ (response, final)
        world ∧
      Regular runner world.log ∧ after = before.cycle world response
  | .wait seconds, _, after => ∃ calls : List (Call F), (∀ call ∈ calls, call.InRange) ∧
      after = before.interfere calls (.waited seconds)

/-! ## Other workers -/

/-- A claim within the calendar abandons no record. -/
theorem noneAbandoned_step {store : InMemoryOutboxStore F} (sound : store.Sound)
    (kept : store.NoneAbandoned) {call : Call F} (inRange : call.InRange) :
    (store.step call).2.NoneAbandoned := by
  intro key record stored abandoned
  have moved := InMemoryOutboxStore.step_record sound call key
  rw [stored] at moved
  have keptBefore : ∀ earlier, store.records.get? key = some earlier → ¬ earlier.Abandoned :=
    fun earlier storedEarlier => kept storedEarlier
  generalize store.records.get? key = before at moved keptBefore
  generalize eventEq : (call, (store.step call).1) = event at moved
  generalize afterEq : some record = after at moved
  cases moved with
  | frame => exact keptBefore record afterEq.symm abandoned
  | append =>
      cases afterEq
      cases abandoned.1
  | claim =>
      cases afterEq
      cases abandoned.2
  | overflow owner limit duration now utcNow current found time head claimable outOfRange =>
      obtain ⟨rfl, -⟩ := Prod.mk.inj eventEq
      exact inRange current time outOfRange
  | complete =>
      cases afterEq
      cases abandoned.1
  | release owner error retryable now utcNow current found lease failure =>
      cases afterEq
      have state := abandoned.1
      simp only [InMemoryOutboxStore.releasedRecord] at state
      split at state <;> cases state
  | retry =>
      cases afterEq
      cases abandoned.1

theorem noneAbandoned_run {store : InMemoryOutboxStore F} (sound : store.Sound)
    (kept : store.NoneAbandoned) {calls : List (Call F)}
    (inRange : ∀ call ∈ calls, call.InRange) : (store.run calls).1.NoneAbandoned := by
  induction calls generalizing store with
  | nil => exact kept
  | cons call rest inductionHypothesis =>
      rw [List.forall_mem_cons] at inRange
      exact inductionHypothesis (sound.step call) (noneAbandoned_step sound kept inRange.1)
        inRange.2

theorem completedEvents_subset_run {store : InMemoryOutboxStore F} (sound : store.Sound)
    (calls : List (Call F)) : store.completedEvents ⊆ (store.run calls).1.completedEvents := by
  induction calls generalizing store with
  | nil => exact Finset.Subset.refl _
  | cons call rest inductionHypothesis =>
      intro key completed
      apply inductionHypothesis (sound.step call)
      exact (InMemoryOutboxStore.mem_completedEvents_step sound call key).mpr (.inl completed)

/-! ## Whole rounds -/

/-- What the rounds so far have done, over an outbox that others use too. -/
structure Polled (runner : ProjectionRunner) (start : InMemoryOutboxStore F)
    (rounds : List (Round F)) (total : ProjectionRun) (world : PollWorld F) : Prop where
  sound : world.store.Sound
  kept : world.store.NoneAbandoned
  -- the loop sleeps only where its claim found nothing to lease
  idle : ∀ round ∈ rounds, round.run.claimed = 0 → IdleAt runner round.store round.log
  total_eq : total = rounds.foldl (fun sum round => sum.add round.run) {}
  counted : total.claimed = total.completed + total.retryable + total.quarantined
  completed : start.completedEvents ⊆ world.store.completedEvents
  -- every completion is counted once, by this loop or by another worker
  completed_card : world.store.completedEvents.card = start.completedEvents.card +
    total.completed + world.others.countP InMemoryOutboxStore.Event.isCompletion

section Rounds

variable {describe : Exc → Except Exc Str} {runner : ProjectionRunner}
  {start : InMemoryOutboxStore F} {rounds : List (Round F)} {total : ProjectionRun}
  {world : PollWorld F}

theorem polled_start (sound : start.Sound) (kept : start.NoneAbandoned) :
    Polled runner start [] {} ⟨start, [], []⟩ where
  sound := sound
  kept := kept
  idle := List.forall_mem_nil _
  total_eq := rfl
  counted := rfl
  completed := Finset.Subset.refl _
  completed_card := rfl

theorem Polled.interfere (polled : Polled runner start rounds total world)
    {calls : List (Call F)} (inRange : ∀ call ∈ calls, call.InRange) (moment : Moment F) :
    Polled runner start rounds total (world.interfere calls moment) where
  sound := polled.sound.run calls
  kept := noneAbandoned_run polled.sound polled.kept inRange
  idle := polled.idle
  total_eq := polled.total_eq
  counted := polled.counted
  completed := polled.completed.trans (completedEvents_subset_run polled.sound calls)
  completed_card := by
    change (world.store.run calls).1.completedEvents.card = _ + _ +
      (world.others ++ (world.store.run calls).2).countP _
    rw [InMemoryOutboxStore.card_completedEvents_run polled.sound, polled.completed_card,
      List.countP_append, Nat.add_assoc]

theorem Polled.cycle (polled : Polled runner start rounds total world) {after : CycleWorld F}
    {run : ProjectionRun} (progress : Progress runner world.store after.store run after.log) :
    Polled runner start (rounds ++ [⟨after.store, after.log, run⟩]) (total.add run)
      (world.cycle after (.ok run)) where
  sound := progress.sound
  kept := progress.kept
  idle := by
    intro round member
    rcases List.mem_append.mp member with earlier | last
    · exact polled.idle round earlier
    · rw [List.mem_singleton.mp last]
      exact progress.idle
  total_eq := by
    rw [List.foldl_append, ← polled.total_eq]
    rfl
  counted := by
    have before := polled.counted
    have counted := progress.counted
    change total.claimed + run.claimed = total.completed + run.completed +
      (total.retryable + run.retryable) + (total.quarantined + run.quarantined)
    omega
  completed := polled.completed.trans progress.completed
  completed_card := by
    have before := polled.completed_card
    have counted := progress.completed_card
    change after.store.completedEvents.card = start.completedEvents.card +
      (total.completed + run.completed) + world.others.countP _
    omega

/-- The trace of some whole rounds. -/
def roundsTrace (seconds : ℚ) (rounds : List (Round F)) : List (Moment F) :=
  rounds.flatMap (Round.moments seconds)

theorem roundsTrace_concat (seconds : ℚ) (rounds : List (Round F)) (round : Round F) :
    roundsTrace seconds (rounds ++ [round]) =
      roundsTrace seconds rounds ++ round.moments seconds := by
  rw [roundsTrace, roundsTrace, List.flatMap_append, List.flatMap_singleton]

/-- What a loop with a number of rounds left ends with: it has seen the event after fewer
rounds, or is still running after all of them. -/
structure PolledFor (runner : ProjectionRunner) (start : InMemoryOutboxStore F) (seconds : ℚ)
    (before : List (Round F)) (more : Nat) (result : Option ProjectionRun)
    (after : PollWorld F) (later : List (Round F)) (total : ProjectionRun) : Prop where
  polled : Polled runner start (before ++ later) total after
  returned : ∀ value, result = some value → value = total ∧ later.length < more ∧
    after.trace = roundsTrace seconds (before ++ later) ++ [.checked true]
  running : result = none → later.length = more ∧
    after.trace = roundsTrace seconds (before ++ later)

/-- The rest of a loop after one more round. -/
theorem PolledFor.round {seconds : ℚ} {more : Nat} {result : Option ProjectionRun}
    {after : PollWorld F} {later : List (Round F)} {round : Round F}
    (ends : PolledFor runner start seconds (rounds ++ [round]) more result after later total) :
    PolledFor runner start seconds rounds (more + 1) result after (round :: later) total := by
  have same : rounds ++ round :: later = rounds ++ [round] ++ later := by simp
  constructor
  · rw [same]
    exact ends.polled
  · intro value valueEq
    obtain ⟨equal, few, trace⟩ := ends.returned value valueEq
    rw [same]
    exact ⟨equal, Nat.succ_lt_succ few, trace⟩
  · intro none
    obtain ⟨all, trace⟩ := ends.running none
    rw [same]
    exact ⟨congrArg Nat.succ all, trace⟩

/-- The loop goes through whole rounds until the event is set. -/
theorem safe_pollRounds (converts : ConvertsOrdinary describe) (named : Encodes runner.spec.name)
    (seconds : ℚ) (more : Nat) (polled : Polled runner start rounds total world)
    (traced : world.trace = roundsTrace seconds rounds) :
    (runner.pollRounds seconds more).Safe (Polls describe) (fun _ _ => True)
      (fun result _ after => ∃ later total,
        PolledFor runner start seconds rounds more result after later total)
      (fun _ _ after => after.trace.getLast? = some (.waited seconds)) total world := by
  induction more generalizing rounds total world with
  | zero =>
      refine ⟨[], total, ?_, nofun, fun _ => ⟨rfl, ?_⟩⟩
      · rwa [List.append_nil]
      · rwa [List.append_nil]
  | succ more inductionHypothesis =>
      apply Script.safe_bind.mpr
      apply Script.safe_invoke.mpr
      refine ⟨trivial, ?_⟩
      rintro stopped _ ⟨calls, inRange, rfl⟩
      have checked := polled.interfere inRange (.checked stopped)
      cases stopped with
      | true =>
          refine ⟨[], total, ?_, ?_, nofun⟩
          · rwa [List.append_nil]
          · rintro _ ⟨⟩
            refine ⟨rfl, Nat.succ_pos more, ?_⟩
            rw [List.append_nil, ← traced]
            rfl
      | false =>
          apply Script.safe_bind.mpr
          apply Script.safe_invoke.mpr
          refine ⟨trivial, ?_⟩
          rintro response _ ⟨final, after, returns, regular, rfl⟩
          have ended := Prog.Safe.of_returns
            (ends_cycle converts named checked.sound checked.kept) returns
          cases response with
          | error error => exact absurd regular ended
          | ok run =>
              have cycled := checked.cycle (ended regular)
              let round : Round F := ⟨after.store, after.log, run⟩
              have continued : ∀ {next : PollWorld F},
                  Polled runner start (rounds ++ [round]) (total.add run) next →
                  next.trace = roundsTrace seconds (rounds ++ [round]) →
                  (runner.pollRounds seconds more).Safe (Polls describe) (fun _ _ => True)
                    (fun result _ after => ∃ later total,
                      PolledFor runner start seconds rounds (more + 1) result after later total)
                    (fun _ _ after => after.trace.getLast? = some (.waited seconds))
                    (total.add run) next := by
                intro next polled traced
                refine Script.Safe.mono (inductionHypothesis polled traced) ?_
                  (fun _ _ _ waited => waited)
                rintro result _ last ⟨later, sum, ends⟩
                exact ⟨round :: later, sum, ends.round⟩
              apply Script.safe_bind.mpr
              apply Script.safe_assign.mpr
              apply Script.safe_bind.mpr
              unfold ProjectionRunner.pause
              split
              next idle =>
                apply Script.safe_bind.mpr
                apply Script.safe_invoke.mpr
                refine ⟨trivial, ?_⟩
                rintro answer _ ⟨calls, inRange, rfl⟩
                cases answer with
                | error error => exact List.getLast?_concat
                | ok flag =>
                    apply continued (cycled.interfere inRange _)
                    rw [roundsTrace_concat, ← traced, Round.moments, if_pos idle]
                    simp [PollWorld.interfere, PollWorld.cycle, round]
              next busy =>
                apply continued cycled
                rw [roundsTrace_concat, ← traced, Round.moments, if_neg busy]
                simp [PollWorld.interfere, PollWorld.cycle, round]

end Rounds

/-- `run_until_stopped`, in every run whose cycles stay inside their leases and whose callbacks
raise convertible exceptions, over an outbox that others use between the cycles.  The loop
goes through whole rounds: it asks the event, runs a cycle, and waits once exactly if the
cycle claimed nothing, which is when the first incomplete record of every partition is
quarantined or under a live lease.  It returns as soon as it sees the event set, and then the
counters are the sums over its cycles: every claimed record is counted once, and every
completion since the start is one of this loop or one of another worker.  Only the check of
the interval and a wait can raise. -/
theorem run_until_stopped_accounts (describe : Exc → Except Exc Str)
    (converts : ConvertsOrdinary describe) (runner : ProjectionRunner)
    (named : Encodes runner.spec.name) (store : InMemoryOutboxStore F)
    (reachable : store.Reachable) (kept : store.NoneAbandoned) (seconds : ℚ) (rounds : Nat)
    (outcome : Except Exc (Option ProjectionRun)) (final : ProjectionRun) (world : PollWorld F)
    (returns : (runner.runUntilStopped seconds rounds {}).Returns (Polls describe) ⟨store, [], []⟩
      (outcome, final) world) :
    (∀ total, outcome = .ok (some total) → ∃ past, past.length < rounds ∧
      world.trace = roundsTrace seconds past ++ [.checked true] ∧
      Polled runner store past total world) ∧
    (outcome = .ok none → ∃ past total, past.length = rounds ∧
      world.trace = roundsTrace seconds past ∧ Polled runner store past total world) ∧
    ∀ error, outcome = .error error →
      seconds < 0 ∧ world.trace = [] ∨ world.trace.getLast? = some (.waited seconds) := by
  have safe : (runner.runUntilStopped seconds rounds).Safe (Polls describe) (fun _ _ => True)
      (fun result _ after => ∃ later total,
        PolledFor runner store seconds [] rounds result after later total)
      (fun _ _ after => seconds < 0 ∧ after.trace = [] ∨
        after.trace.getLast? = some (.waited seconds)) {} ⟨store, [], []⟩ := by
    apply Script.safe_bind.mpr
    apply Script.safe_refuse.mpr
    refine ⟨fun negative => .inl ⟨negative, rfl⟩, fun _ => ?_⟩
    apply Script.safe_bind.mpr
    apply Script.safe_assign.mpr
    refine Script.Safe.mono (safe_pollRounds converts named seconds rounds
      (polled_start reachable.sound kept) rfl) (fun _ _ _ ends => ends) ?_
    exact fun _ _ _ waited => .inr waited
  have ended := Prog.Safe.of_returns safe returns
  cases outcome with
  | error error => exact ⟨nofun, nofun, fun _ _ => ended⟩
  | ok result =>
      obtain ⟨later, total, ends⟩ := ended
      have polled : Polled runner store later total world := ends.polled
      refine ⟨?_, ?_, nofun⟩
      · rintro value ⟨⟩
        obtain ⟨rfl, few, trace⟩ := ends.returned value rfl
        exact ⟨later, few, trace, polled⟩
      · rintro ⟨⟩
        obtain ⟨all, trace⟩ := ends.running rfl
        exact ⟨later, total, all, trace, polled⟩

/-! ## A closed loop -/

/-- The world of the loop with the sample callbacks: nobody else uses the outbox, and the event
is set during the first wait. -/
def pollHandler (world : PollWorld Empty) : (hook : PollHook) → hook.Response × PollWorld Empty
  | .isSet =>
      let isSet := world.trace.any fun
        | .waited _ => true
        | _ => false
      (isSet, world.interfere [] (.checked isSet))
  | .runOnce runner =>
      let cycle := sampleCycle (.ok sampleAnswer) runner world.store
      (cycle.1.1, world.cycle cycle.2 cycle.1.1)
  | .wait seconds => (.ok true, world.interfere [] (.waited seconds))

/-- Whether a cycle is regular. -/
def pollRegular (world : PollWorld Empty) : PollHook → Bool
  | .runOnce runner => isRegular 0 ⟨world.store, []⟩ (.runOnce runner)
  | _ => true

theorem pollHandler_polls (world : PollWorld Empty) (hook : PollHook)
    (regular : pollRegular world hook = true) :
    Polls (fun _ => .ok []) world hook (pollHandler world hook).1 (pollHandler world hook).2 := by
  cases hook with
  | isSet => exact ⟨[], List.forall_mem_nil _, rfl⟩
  | wait seconds => exact ⟨[], List.forall_mem_nil _, rfl⟩
  | runOnce runner =>
      obtain ⟨returns, isRegular⟩ := returns_sampleCycle regular
      exact ⟨_, _, returns, isRegular, rfl⟩

/-- The sample loop over an outbox. -/
def samplePolling (rounds : Nat) (store : InMemoryOutboxStore Empty) :
    (Except Exc (Option ProjectionRun) × ProjectionRun) × PollWorld Empty :=
  (sampleRunner.runUntilStopped 1 rounds {}).run pollHandler ⟨store, [], []⟩

theorem samplePolling_returns {rounds : Nat} {store : InMemoryOutboxStore Empty}
    (passed : (sampleRunner.runUntilStopped 1 rounds {}).passes pollHandler pollRegular
      ⟨store, [], []⟩ = true) :
    (sampleRunner.runUntilStopped 1 rounds {}).Returns (Polls fun _ => .ok []) ⟨store, [], []⟩
      ((samplePolling rounds store).1.1, (samplePolling rounds store).1.2)
      (samplePolling rounds store).2 :=
  Prog.run_returns_of_passes pollHandler_polls _ _ passed

theorem noneAbandoned_sampleOutbox : sampleOutbox.NoneAbandoned := by
  apply noneAbandoned_run InMemoryOutboxStore.sound_init
  · intro key record stored
    cases stored
  · exact List.forall_mem_singleton.mpr trivial

/-- The sample loop returns in the third round. -/
theorem run_until_stopped_accounts_sample :
    ∃ total past, (samplePolling 3 sampleOutbox).1.1 = .ok (some total) ∧
      Polled sampleRunner sampleOutbox past total (samplePolling 3 sampleOutbox).2 := by
  have returns : (sampleRunner.runUntilStopped 1 3 {}).Returns (Polls fun _ => .ok [])
      ⟨sampleOutbox, [], []⟩ ((samplePolling 3 sampleOutbox).1.1, (samplePolling 3 sampleOutbox).1.2)
      (samplePolling 3 sampleOutbox).2 :=
    samplePolling_returns (by decide +kernel)
  have accounts := run_until_stopped_accounts (fun _ => .ok []) (fun _ _ => ⟨[], rfl⟩) sampleRunner
    (show Encodes (str "case-view") from scalar_str _) sampleOutbox ⟨5, by decide, _, rfl⟩
    noneAbandoned_sampleOutbox 1 3 _ _ _ returns
  have stops : ((samplePolling 3 sampleOutbox).1.1.toOption.bind id).isSome = true := by
    decide +kernel
  cases outcome : (samplePolling 3 sampleOutbox).1.1 with
  | error error =>
      rw [outcome] at stops
      cases stops
  | ok result =>
      rw [outcome] at stops
      obtain ⟨total, rfl⟩ := Option.isSome_iff_exists.mp stops
      obtain ⟨past, -, -, polled⟩ := accounts.1 total outcome
      exact ⟨total, past, rfl, polled⟩

end DataLifecycle.Runner
