import DataLifecycle.Outbox.Lifecycle

/-!
# Bounded attempts

Attempts are counted by claims, and only a release compares the count with the poison
threshold.  A record whose worker dies is claimed again after the expiry of its lease
without that comparison.
-/

namespace DataLifecycle.Outbox.InMemoryOutboxStore

open Python

variable {F : Type} [FloatText F]

/-- A claim finds the event first in its partition, with an expired lease, and the attempts
of the event have reached the threshold. -/
def FindsExhausted (eventId : Str) (store : InMemoryOutboxStore F) : Call F → Prop
  | .atomicClaim _ _ _ now utcNow =>
      ∃ current record lease, currentTime now utcNow = .ok current ∧
        store.records.get? eventId = some record ∧ store.IsHead record ∧
        record.state = .leased ∧ record.lease = some lease ∧ lease.expiresAt ≤ current ∧
        store.poisonThreshold ≤ record.attemptCount
  | _ => False

/-- The attempts of a record are within the threshold, and below it while the record
waits for a claim. -/
def WithinThreshold (threshold : Nat) (record : MutableRecord F) : Prop :=
  record.attemptCount ≤ threshold ∧
    (record.state = .pending ∨ record.state = .retryable → record.attemptCount < threshold)

theorem poisonThreshold_step (store : InMemoryOutboxStore F) (call : Call F) :
    (store.step call).2.poisonThreshold = store.poisonThreshold := by
  cases call with
  | append data =>
      simp only [step, append, Prod.map, id]
      split
      · rfl
      · split <;> rfl
  | atomicClaim owner limit duration now utcNow =>
      simp only [step, Prod.map, id]
      rcases atomicClaim_cases store owner limit duration now utcNow with
        ⟨error, failed⟩ | ⟨current, -, -, -, -, looped⟩
      · rw [failed]
      · rw [looped]
  | complete eventId owner version fingerprint now utcNow =>
      simp only [step, Prod.map, id]
      rcases complete_cases store eventId owner version fingerprint now utcNow with
        ⟨error, failed⟩ | ⟨current, record, lease, -, -, -, -, completed⟩
      · rw [failed]
      · rw [completed]
        rfl
  | release eventId owner error retryable now utcNow =>
      simp only [step, Prod.map, id]
      rcases release_cases store eventId owner error retryable now utcNow with
        ⟨raised, failed⟩ | ⟨current, record, lease, failure, view, -, -, -, -, -, released⟩
      · rw [failed]
      · rw [released]
        rfl
  | operatorRetry eventId reason =>
      simp only [step, operatorRetry, Prod.map, id]
      split
      · rfl
      · split
        · rfl
        · split <;> rfl
  | compareAndSetCheckpoint checkpoint expectedRevision =>
      simp only [step, Prod.map, id]
      rcases compareAndSetCheckpoint_cases store checkpoint expectedRevision with
        ⟨error, failed⟩ | ⟨-, -, stored⟩
      · rw [failed]
      · rw [stored]

/-- A claimable record that the claim may lease has attempts left. -/
theorem attempts_lt_of_claimable {eventId : Str} {store : InMemoryOutboxStore F}
    {record : MutableRecord F} {owner : Str} {limit duration : Int} {now : Option DateTime}
    {utcNow current : Utc} (time : currentTime now utcNow = .ok current)
    (stored : store.records.get? eventId = some record) (head : store.IsHead record)
    (claimable : record.Claimable current)
    (fresh : ¬ FindsExhausted eventId store (.atomicClaim owner limit duration now utcNow))
    (within : WithinThreshold store.poisonThreshold record) :
    record.attemptCount < store.poisonThreshold := by
  rcases claimable with pending | retryable | ⟨leased, lease, leaseEq, expired⟩
  · exact within.2 (.inl pending)
  · exact within.2 (.inr retryable)
  · by_contra exhausted
    exact fresh ⟨current, record, lease, time, stored, head, leased, leaseEq, expired,
      not_lt.mp exhausted⟩

/-- A step keeps the attempts of the event within the threshold. -/
theorem withinThreshold_step {eventId : Str} {store : InMemoryOutboxStore F} {call : Call F}
    (sound : store.Sound) (fresh : ¬ FindsExhausted eventId store call)
    (notRetried : ∀ reason, call ≠ .operatorRetry eventId reason)
    (within : ∀ record, store.records.get? eventId = some record →
      WithinThreshold store.poisonThreshold record) :
    ∀ record, (store.step call).2.records.get? eventId = some record →
      WithinThreshold store.poisonThreshold record := by
  have moved := step_record sound call eventId
  generalize stored : store.records.get? eventId = before at moved within
  generalize (store.step call).2.records.get? eventId = after at moved
  generalize (store.step call).1 = result at moved
  rintro moved' rfl
  cases moved with
  | frame => exact within _ rfl
  | append => exact ⟨Nat.zero_le _, fun _ => store.poisonThreshold_pos⟩
  | claim owner limit duration now utcNow current _ record lease view time head step =>
      have left := attempts_lt_of_claimable time stored head step.claimable fresh (within _ rfl)
      exact ⟨left, by simp [MutableRecord.granted]⟩
  | overflow owner limit duration now utcNow current record time head claimable =>
      have left := attempts_lt_of_claimable time stored head claimable fresh (within _ rfl)
      exact ⟨left, by simp [MutableRecord.granted]⟩
  | complete => exact ⟨(within _ rfl).1, by simp [MutableRecord.completed]⟩
  | release owner error retryable now utcNow current record =>
      refine ⟨(within _ rfl).1, ?_⟩
      unfold releasedRecord
      cases poisoned : (!retryable || store.poisonThreshold ≤ record.attemptCount : Bool) with
      | true => simp
      | false =>
          rw [Bool.or_eq_false_iff, decide_eq_false_iff_not, not_le] at poisoned
          exact fun _ => poisoned.2
  | retry reason => exact absurd rfl (notRetried reason)

/-- The claims that returned an event are among its attempts. -/
theorem RecordStep.claims_le {store : InMemoryOutboxStore F} {key : Str} {event : Event F}
    {before after : Option (MutableRecord F)} (step : RecordStep store key event before after) :
    before.elim 0 (·.attemptCount) + (if event.claims key then 1 else 0) ≤
      after.elim 0 (·.attemptCount) := by
  have atMostOne : (if event.claims key then 1 else 0) ≤ 1 := by
    split
    · exact Nat.le_refl 1
    · exact Nat.zero_le 1
  cases step with
  | frame _ _ _ _ _ notReturned =>
      have notClaimed : ¬ event.claims key = true := by
        simpa [Event.claims] using notReturned
      rw [if_neg notClaimed, Nat.add_zero]
  | append => exact Nat.le_refl 0
  | claim _ _ _ _ _ _ _ record => exact Nat.add_le_add_left atMostOne record.attemptCount
  | overflow _ _ _ _ _ _ record => exact Nat.add_le_add_left atMostOne record.attemptCount
  | complete => exact Nat.le_refl _
  | release => exact Nat.le_refl _
  | retry => exact Nat.le_refl _

/-- The state of a run in which no claim takes an exhausted event, with its history. -/
structure Bounded (threshold : Nat) (eventId : Str) (store : InMemoryOutboxStore F)
    (history : List (Event F)) : Prop where
  sound : store.Sound
  threshold_eq : store.poisonThreshold = threshold
  within : ∀ record, store.records.get? eventId = some record →
    WithinThreshold store.poisonThreshold record
  claims_le : history.countP (Event.claims eventId) ≤
    (store.records.get? eventId).elim 0 (·.attemptCount)

theorem Bounded.step {threshold : Nat} {eventId : Str} {store : InMemoryOutboxStore F}
    {history : List (Event F)} {call : Call F} (fresh : ¬ FindsExhausted eventId store call)
    (notRetried : ∀ reason, call ≠ .operatorRetry eventId reason)
    (bounded : Bounded threshold eventId store history) :
    Bounded threshold eventId (store.step call).2 (history ++ [(call, (store.step call).1)]) where
  sound := bounded.sound.step call
  threshold_eq := (poisonThreshold_step store call).trans bounded.threshold_eq
  within := by
    rw [poisonThreshold_step]
    exact withinThreshold_step bounded.sound fresh notRetried bounded.within
  claims_le := by
    rw [List.countP_append, List.countP_singleton]
    exact (Nat.add_le_add_right bounded.claims_le _).trans
      (step_record bounded.sound call eventId).claims_le

theorem Bounded.claims_le_threshold {threshold : Nat} {eventId : Str}
    {store : InMemoryOutboxStore F} {history : List (Event F)}
    (bounded : Bounded threshold eventId store history) :
    history.countP (Event.claims eventId) ≤ threshold := by
  apply bounded.claims_le.trans
  cases stored : store.records.get? eventId with
  | none => exact Nat.zero_le threshold
  | some record => exact bounded.threshold_eq ▸ (bounded.within record stored).1

/-- In every run in which no claim finds the event exhausted behind an expired lease, and
no operator retries it, claims return the event at most as often as the threshold says. -/
theorem claims_le_poisonThreshold (poisonThreshold : Nat) (positive : 0 < poisonThreshold)
    (calls : List (Call F)) (eventId : Str)
    (notRetried : ∀ call ∈ calls, ∀ reason, call ≠ .operatorRetry eventId reason)
    (fresh : EveryStep (fun store call => ¬ FindsExhausted eventId store call)
      (init poisonThreshold positive) calls) :
    ((init poisonThreshold positive).run calls).2.countP (Event.claims eventId) ≤
      poisonThreshold := by
  have initially : Bounded poisonThreshold eventId
      (init poisonThreshold positive : InMemoryOutboxStore F) [] := by
    refine ⟨sound_init, rfl, ?_, Nat.zero_le _⟩
    intro record stored
    simp [init] at stored
  have bounded := (fresh.and_forall notRetried).history
    (fun _ _ _ met bounded => Bounded.step met.1 met.2 bounded) initially
  exact bounded.claims_le_threshold

/-- An event without a lease is not found exhausted. -/
theorem not_findsExhausted {eventId : Str} {store : InMemoryOutboxStore F} {call : Call F}
    (notLeased : (store.records.get? eventId).map (·.state) ≠ some .leased) :
    ¬ FindsExhausted eventId store call := by
  cases call with
  | atomicClaim owner limit duration now utcNow =>
      rintro ⟨current, record, lease, -, stored, -, leased, -⟩
      rw [stored, Option.map_some, leased] at notLeased
      exact notLeased rfl
  | _ => exact not_false

/-- The sample event, with a threshold of one, is claimed and released; the release
quarantines it, and a later claim does not return it. -/
theorem claims_le_poisonThreshold_sample :
    ((init 1 (by decide)).run [.append sampleIntent, sampleClaim "worker-1" ⟨20, by decide⟩,
      sampleRelease, sampleClaim "worker-2" ⟨200, by decide⟩]).2.countP
        (Event.claims (str "order-1-b")) ≤ 1 := by
  apply claims_le_poisonThreshold
  · simp [sampleClaim, sampleRelease]
  · exact ⟨not_false, not_findsExhausted (by decide +kernel), not_false,
      not_findsExhausted (by decide +kernel), trivial⟩

/-- A worker claims the sample event and dies.  The threshold is one, and the event is
claimed again after the expiry of the lease. -/
theorem expired_lease_is_claimed_again :
    let calls : List (Call Empty) := [.append sampleIntent,
      sampleClaim "worker-1" ⟨20, by decide⟩, sampleClaim "worker-2" ⟨200, by decide⟩]
    (∀ call ∈ calls, ∀ eventId reason, call ≠ .operatorRetry eventId reason) ∧
    ((init 1 (by decide)).run calls).2.countP (Event.claims (str "order-1-b")) = 2 := by
  refine ⟨?_, by decide +kernel⟩
  simp [sampleClaim]

end DataLifecycle.Outbox.InMemoryOutboxStore
