import DataLifecycle.Outbox.Lease

/-!
# One lease per partition

A claim leases only the first incomplete record of a partition, so two leases of
one partition can coexist only when an append has put a new record in front of a
leased one.  Runs whose appends keep behind the leased records of their
partition are exclusive.
-/

namespace DataLifecycle.Outbox.InMemoryOutboxStore

open Python

variable {F : Type} [FloatText F]

/-- At every instant, at most one record of each partition is LEASED with a lease
that expires later. -/
def Exclusive (store : InMemoryOutboxStore F) : Prop :=
  ∀ (instant : Utc) {firstKey secondKey : Str} {first second : MutableRecord F}
    {firstLease secondLease : OutboxLease},
    store.records.get? firstKey = some first → store.records.get? secondKey = some second →
    first.data.partitionKey = second.data.partitionKey →
    first.state = .leased → first.lease = some firstLease → instant < firstLease.expiresAt →
    second.state = .leased → second.lease = some secondLease → instant < secondLease.expiresAt →
    firstKey = secondKey

/-- A new event appended by the call sorts after every leased record of its
partition. -/
def AppendsBehindLeases (store : InMemoryOutboxStore F) (call : Call F) : Prop :=
  ∀ data, call = .append data → store.records.get? data.eventId = none →
    ∀ {key record lease}, store.records.get? key = some record →
      record.data.partitionKey = data.partitionKey → record.lease = some lease →
      record.data.sortKey < data.sortKey

/-- Every record with a lease is the first incomplete record of its partition. -/
def LeasesAtHeads (store : InMemoryOutboxStore F) : Prop :=
  ∀ {key otherKey record other lease}, store.records.get? key = some record →
    record.lease = some lease → store.records.get? otherKey = some other →
    other.data.partitionKey = record.data.partitionKey →
    other.data.sortKey < record.data.sortKey → other.state = .completed

/-- A lease after a step was there before, or the step gave it to the head of a
partition. -/
theorem RecordStep.lease_origin {store : InMemoryOutboxStore F} (sound : store.Sound) {key : Str}
    {call : Call F} {result : Except Exc (Reply F)} {after : MutableRecord F} {lease : OutboxLease}
    (step : RecordStep store key (call, result) (store.records.get? key) (some after))
    (leaseEq : after.lease = some lease) :
    store.records.get? key = some after ∨
      ∃ before, store.records.get? key = some before ∧ before.data = after.data ∧
        store.IsHead before ∧ ∀ data, call ≠ .append data := by
  generalize beforeEq : store.records.get? key = before at step
  cases step with
  | frame => exact .inl rfl
  | append => cases leaseEq
  | claim _ _ _ _ _ _ _ record _ _ _ head => exact .inr ⟨record, rfl, rfl, head, by simp⟩
  | overflow => cases leaseEq
  | complete => cases leaseEq
  | release => cases leaseEq
  | retry _ record _ quarantined =>
      have noLease := (sound.wellFormed beforeEq).lease_eq_none (by simp [quarantined])
      rw [MutableRecord.retried, noLease] at leaseEq
      cases leaseEq

theorem LeasesAtHeads.step {store : InMemoryOutboxStore F} {call : Call F} (sound : store.Sound)
    (behind : AppendsBehindLeases store call) (heads : store.LeasesAtHeads) :
    (store.step call).2.LeasesAtHeads := by
  intro key otherKey record other lease stored leaseEq otherStored samePartition before
  have moved := step_record sound call key
  rw [stored] at moved
  have otherMoved := step_record sound call otherKey
  rcases otherMoved.origin otherStored with
    ⟨data, callEq, otherKeyEq, absent, rfl⟩ | ⟨previous, previousStored, previousData⟩
  · -- the other record is new, so the leased one was leased before and precedes it
    rcases RecordStep.lease_origin sound moved leaseEq with wasStored | ⟨_, _, _, _, notAppend⟩
    · rw [← otherKeyEq] at absent
      have ahead := behind data callEq absent wasStored samePartition.symm leaseEq
      exact absurd before (not_lt.mpr ahead.le)
    · exact absurd callEq (notAppend data)
  · have previousCompleted : previous.state = .completed := by
      rw [← previousData] at samePartition before
      rcases RecordStep.lease_origin sound moved leaseEq with
        wasStored | ⟨claimed, claimedStored, claimedData, head, -⟩
      · exact heads wasStored leaseEq previousStored samePartition before
      · rw [← claimedData] at samePartition before
        exact head.earlier previousStored samePartition before
    have still := otherMoved.of_completed previousStored previousCompleted
    rw [otherStored] at still
    cases still
    exact previousCompleted

theorem LeasesAtHeads.exclusive {store : InMemoryOutboxStore F} (sound : store.Sound)
    (heads : store.LeasesAtHeads) : store.Exclusive := by
  intro instant firstKey secondKey first second firstLease secondLease firstStored secondStored
    samePartition firstLeased firstLeaseEq firstLive secondLeased secondLeaseEq secondLive
  rcases lt_trichotomy first.data.sortKey second.data.sortKey with before | same | after
  · have completed := heads secondStored secondLeaseEq firstStored samePartition before
    simp [firstLeased] at completed
  · exact sound.key_eq_of_sortKey_eq firstStored secondStored same
  · have completed := heads firstStored firstLeaseEq secondStored samePartition.symm after
    simp [secondLeased] at completed

/-- In every run whose appends keep behind the leased records of their partition,
every state is exclusive. -/
theorem exclusive_of_appendsBehindLeases (poisonThreshold : Nat) (positive : 0 < poisonThreshold)
    (calls : List (Call F))
    (behind : EveryStep AppendsBehindLeases (init poisonThreshold positive) calls) :
    ∀ first last, calls = first ++ last →
      ((init poisonThreshold positive).run first).1.Exclusive := by
  intro first last split
  have invariant := EveryStep.invariant (fun store => store.Sound ∧ store.LeasesAtHeads)
    (fun store call met holds => ⟨holds.1.step call, LeasesAtHeads.step holds.1 met holds.2⟩) behind
    ⟨sound_init, by intro _ _ _ _ _ stored; simp [init] at stored⟩ first last split
  exact LeasesAtHeads.exclusive invariant.1 invariant.2

/-- An append sorts after every leased record of its partition. -/
theorem appendsBehindLeases_append {store : InMemoryOutboxStore F} {data : OutboxDataV1 F}
    (behind : ∀ item ∈ store.records.items, item.2.lease.isSome = true →
      item.2.data.partitionKey = data.partitionKey → item.2.data.sortKey < data.sortKey) :
    store.AppendsBehindLeases (.append data) := by
  rintro _ ⟨⟩ - key record lease stored samePartition leaseEq
  exact behind (key, record) ((Dict.get?_eq_some_iff _).mp stored) (leaseEq ▸ rfl) samePartition

theorem appendsBehindLeases_claim (store : InMemoryOutboxStore Empty) (worker : String) (now : Utc) :
    store.AppendsBehindLeases (sampleClaim worker now) := by
  rintro _ ⟨⟩

/-- The partition, state and expiry of a stored record. -/
def leaseView (store : InMemoryOutboxStore F) (key : Str) :
    Option (Str × OutboxState × Option Utc) :=
  (store.records.get? key).map fun record =>
    (record.data.partitionKey, record.state, record.lease.map (·.expiresAt))

/-- A change is claimed, and a second change of the same order is appended behind it, before
another worker claims. -/
def followingCalls : List (Call Empty) :=
  [.append earlierIntent, sampleClaim "worker-1" 20, .append sampleIntent, sampleClaim "worker-2" 21]

/-- The second change of the order is not claimed as long as the first one is leased. -/
theorem exclusive_of_appendsBehindLeases_sample :
    ((init 5 (by decide)).run followingCalls).1.Exclusive ∧
      ((init 5 (by decide)).run followingCalls).1.leaseView (str "order-1-a") =
        some (sampleIntent.partitionKey, .leased, some ⟨120, by decide⟩) ∧
      ((init 5 (by decide)).run followingCalls).1.leaseView (str "order-1-b") =
        some (sampleIntent.partitionKey, .pending, none) := by
  refine ⟨?_, by decide +kernel, by decide +kernel⟩
  apply exclusive_of_appendsBehindLeases 5 (by decide) followingCalls ?_ _ [] (List.append_nil _).symm
  exact ⟨appendsBehindLeases_append (by decide +kernel), appendsBehindLeases_claim _ _ _,
    appendsBehindLeases_append (by decide +kernel), appendsBehindLeases_claim _ _ _, trivial⟩

/-- A change is claimed, and a second change of the same order is appended in
front of it and claimed by another worker. -/
def overtakingCalls : List (Call Empty) :=
  [.append sampleIntent, sampleClaim "worker-1" 20, .append earlierIntent, sampleClaim "worker-2" 21]

theorem leaseView_eq_some_iff {store : InMemoryOutboxStore F} {key partition : Str}
    {expiresAt : Utc} :
    store.leaseView key = some (partition, .leased, some expiresAt) ↔
      ∃ record lease, store.records.get? key = some record ∧
        record.data.partitionKey = partition ∧ record.state = .leased ∧
        record.lease = some lease ∧ lease.expiresAt = expiresAt := by
  simp only [leaseView, Option.map_eq_some_iff, Prod.mk.injEq]
  constructor
  · rintro ⟨record, stored, samePartition, leased, lease, leaseEq, expiry⟩
    exact ⟨record, lease, stored, samePartition, leased, leaseEq, expiry⟩
  · rintro ⟨record, lease, stored, samePartition, leased, leaseEq, expiry⟩
    exact ⟨record, stored, samePartition, leased, lease, leaseEq, expiry⟩

/-- Two workers hold live leases of one order. -/
theorem not_exclusive_of_overtaking_append :
    ¬ ((init 5 (by decide)).run overtakingCalls).1.Exclusive := by
  obtain ⟨late, lateLease, lateStored, latePartition, lateLeased, lateLeaseEq, lateExpiry⟩ :=
    leaseView_eq_some_iff.mp (show ((init 5 (by decide)).run overtakingCalls).1.leaseView
      (str "order-1-b") = some (sampleIntent.partitionKey, .leased, some ⟨120, by decide⟩) by
        decide +kernel)
  obtain ⟨early, earlyLease, earlyStored, earlyPartition, earlyLeased, earlyLeaseEq, earlyExpiry⟩ :=
    leaseView_eq_some_iff.mp (show ((init 5 (by decide)).run overtakingCalls).1.leaseView
      (str "order-1-a") = some (sampleIntent.partitionKey, .leased, some ⟨121, by decide⟩) by
        decide +kernel)
  intro exclusive
  have same := exclusive ⟨100, by decide⟩ lateStored earlyStored
    (latePartition.trans earlyPartition.symm) lateLeased lateLeaseEq
    (by rw [lateExpiry]; decide) earlyLeased earlyLeaseEq (by rw [earlyExpiry]; decide)
  exact absurd same (by decide)

end DataLifecycle.Outbox.InMemoryOutboxStore
