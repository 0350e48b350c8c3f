import DataLifecycle.Outbox.Claim
import DataLifecycle.Outbox.PoisonBound

/-!
# The work left in an outbox

Every incomplete record that is not quarantined may be claimed until it has used up its
attempts, and at least once.  The sum of these numbers bounds how often the records of an
outbox can be claimed before every one of them is completed or quarantined.
-/

namespace DataLifecycle.Outbox

open Python

variable {F : Type} [FloatText F]

namespace MutableRecord

/-- How often the record may still be claimed: `max(1, poison_threshold - attempt_count)`
unless it is in a final state. -/
def work (threshold : Nat) (record : MutableRecord F) : Nat :=
  match record.state with
  | .completed => 0
  | .quarantined => 0
  | _ => max 1 (threshold - record.attemptCount)

/-- A record waits at a claim: it is quarantined, or under a lease that has not expired. -/
def Waits (record : MutableRecord F) (current : Utc) : Prop :=
  record.state = .quarantined ∨ record.state = .leased ∧
    ∃ lease, record.lease = some lease ∧ current < lease.expiresAt

/-- What the calls of a worker may do to a record: take more attempts, and leave it for a
retry only if attempts are left. -/
def Advances (threshold : Nat) (before after : MutableRecord F) : Prop :=
  after = before ∨ before.attemptCount ≤ after.attemptCount ∧
    (after.state = .retryable → after.attemptCount < threshold)

variable {record later last : MutableRecord F} {threshold : Nat} {current : Utc}

theorem Claimable.le_work (claimable : record.Claimable current) :
    max 1 (threshold - record.attemptCount) ≤ record.work threshold := by
  rcases claimable with pending | retryable | ⟨leased, -⟩
  · rw [work, pending]
  · rw [work, retryable]
  · rw [work, leased]

theorem Advances.trans (first : Advances threshold record later)
    (second : Advances threshold later last) : Advances threshold record last := by
  rcases second with rfl | ⟨more, bounded⟩
  · exact first
  · rcases first with rfl | ⟨earlier, -⟩
    · exact .inr ⟨more, bounded⟩
    · exact .inr ⟨earlier.trans more, bounded⟩

/-- A claimed record that a worker has settled has less work left. -/
theorem work_lt_of_settled (claimable : record.Claimable current) {lease : OutboxLease}
    (advances : Advances threshold (record.granted (some lease)) later)
    (settled : later.state = .completed ∨ later.state = .retryable ∨ later.state = .quarantined) :
    later.work threshold < record.work threshold := by
  have before : max 1 (threshold - record.attemptCount) ≤ record.work threshold :=
    claimable.le_work
  rcases settled with completed | retryable | quarantined
  · rw [work, completed]
    dsimp only
    omega
  · rcases advances with rfl | ⟨more, bounded⟩
    · cases retryable
    · have few := bounded retryable
      change record.attemptCount + 1 ≤ later.attemptCount at more
      rw [work, retryable]
      dsimp only
      omega
  · rw [work, quarantined]
    dsimp only
    omega

/-- A record that no claim takes waits. -/
theorem waits_of_not_claimable (incomplete : record.state ≠ .completed)
    (kept : ¬ record.Abandoned) (held : ¬ record.Claimable current) : record.Waits current := by
  cases state : record.state with
  | pending => exact absurd (.inl state) held
  | retryable => exact absurd (.inr (.inl state)) held
  | completed => exact absurd state incomplete
  | quarantined => exact .inl state
  | leased =>
      cases leaseEq : record.lease with
      | none => exact absurd ⟨state, leaseEq⟩ kept
      | some lease =>
          refine .inr ⟨state, lease, leaseEq, ?_⟩
          by_contra expired
          exact held (.inr (.inr ⟨state, lease, leaseEq, not_lt.mp expired⟩))

end MutableRecord

namespace InMemoryOutboxStore

variable {store before after : InMemoryOutboxStore F}

/-- The work left in all records. -/
def workLeft (store : InMemoryOutboxStore F) : Nat :=
  (store.records.values.map (·.work store.poisonThreshold)).sum

/-- The events that are completed. -/
def completedEvents (store : InMemoryOutboxStore F) : Finset Str :=
  store.records.keySet.filter fun key =>
    (store.records.get? key).any (·.state = .completed) = true

/-- No record is LEASED without a lease. -/
def NoneAbandoned (store : InMemoryOutboxStore F) : Prop :=
  ∀ {key record}, store.records.get? key = some record → ¬ record.Abandoned

theorem mem_completedEvents {key : Str} :
    key ∈ store.completedEvents ↔
      ∃ record, store.records.get? key = some record ∧ record.state = .completed := by
  rw [completedEvents, Finset.mem_filter, Option.any_eq_true, Dict.mem_keySet]
  simp only [decide_eq_true_eq]
  constructor
  · rintro ⟨-, record, stored, completed⟩
    exact ⟨record, stored, completed⟩
  · rintro ⟨record, stored, completed⟩
    exact ⟨⟨record, stored⟩, record, stored, completed⟩

/-- If every record of a batch has less work left and the others are as before, the work
left drops by at least the size of the batch. -/
theorem workLeft_add_length_le {batch : List Str} (distinct : batch.Nodup)
    (threshold : after.poisonThreshold = before.poisonThreshold)
    (others : ∀ key, key ∉ batch → after.records.get? key = before.records.get? key)
    (reduced : ∀ key ∈ batch, ∃ record later, before.records.get? key = some record ∧
      after.records.get? key = some later ∧
      later.work before.poisonThreshold < record.work before.poisonThreshold) :
    after.workLeft + batch.length ≤ before.workLeft := by
  let weight : MutableRecord F → Nat := (·.work before.poisonThreshold)
  have drops : (batch.map fun key => (after.records.get? key).elim 0 weight).sum + batch.length ≤
      (batch.map fun key => (before.records.get? key).elim 0 weight).sum := by
    clear distinct others
    induction batch with
    | nil => exact Nat.le_refl 0
    | cons key rest inductionHypothesis =>
        rw [List.forall_mem_cons] at reduced
        obtain ⟨record, later, stored, storedLater, less⟩ := reduced.1
        have fewer := inductionHypothesis reduced.2
        simp only [List.map_cons, List.sum_cons, List.length_cons, stored, storedLater,
          Option.elim_some]
        change later.work before.poisonThreshold + _ + (rest.length + 1) ≤
          record.work before.poisonThreshold + _
        omega
  have sums := Dict.sum_values_add_sum distinct others weight
  rw [workLeft, workLeft, threshold]
  change (after.records.values.map weight).sum + batch.length ≤
    (before.records.values.map weight).sum
  omega

/-- If no record of a batch was completed and the others are as before, the completed
events are the earlier ones and those of the batch. -/
theorem completedEvents_eq_union {batch : List Str}
    (others : ∀ key, key ∉ batch → after.records.get? key = before.records.get? key)
    (incomplete : ∀ key ∈ batch, key ∉ before.completedEvents) :
    after.completedEvents =
      before.completedEvents ∪ batch.toFinset.filter (· ∈ after.completedEvents) ∧
    Disjoint before.completedEvents (batch.toFinset.filter (· ∈ after.completedEvents)) := by
  constructor
  · ext key
    rw [Finset.mem_union, Finset.mem_filter, List.mem_toFinset]
    by_cases inBatch : key ∈ batch
    · simp [inBatch, incomplete key inBatch]
    · simp only [inBatch, false_and, or_false]
      rw [mem_completedEvents, mem_completedEvents, others key inBatch]
  · rw [Finset.disjoint_left]
    intro key completed member
    rw [Finset.mem_filter, List.mem_toFinset] at member
    exact incomplete key member.1 completed

/-- Only an operator's retry moves a record otherwise. -/
theorem RecordStep.advances {key : Str} {event : Event F} {record : MutableRecord F}
    {result : Option (MutableRecord F)} (step : RecordStep store key event (some record) result)
    (notRetried : ¬ event.retries key) :
    ∃ later, result = some later ∧ record.Advances store.poisonThreshold later := by
  generalize stored : some record = start at step
  cases step with
  | frame event start => exact ⟨record, stored.symm, .inl rfl⟩
  | append => cases stored
  | claim owner limit duration now utcNow current result record lease =>
      cases stored
      exact ⟨_, rfl, .inr ⟨Nat.le_succ _, nofun⟩⟩
  | overflow owner limit duration now utcNow current record =>
      cases stored
      exact ⟨_, rfl, .inr ⟨Nat.le_succ _, nofun⟩⟩
  | complete owner version fingerprint now utcNow current record =>
      cases stored
      exact ⟨_, rfl, .inr ⟨Nat.le_refl _, nofun⟩⟩
  | release owner error retryable now utcNow current record lease failure =>
      cases stored
      refine ⟨_, rfl, .inr ⟨Nat.le_refl _, ?_⟩⟩
      intro state
      by_contra exhausted
      have full : store.poisonThreshold ≤ record.attemptCount := not_lt.mp exhausted
      simp [releasedRecord, full] at state
  | retry reason record => exact absurd rfl notRetried

/-- What a claim does to the outbox, event by event. -/
structure Leases (current : Utc) (before after : InMemoryOutboxStore F)
    (views : List (OutboxRecord F)) : Prop where
  leased : ∀ view ∈ views, ∃ record lease,
    before.records.get? view.data.eventId = some record ∧ record.Claimable current ∧
    after.records.get? view.data.eventId = some (record.granted (some lease))
  others : ∀ key, (∀ view ∈ views, view.data.eventId ≠ key) →
    after.records.get? key = before.records.get? key
  idle : views = [] → ∀ {key record}, before.records.get? key = some record →
    before.IsHead record → ¬ record.Claimable current
  poisonThreshold : after.poisonThreshold = before.poisonThreshold

/-- The views of a claim are those of the chosen records. -/
theorem Claims.leased {owner : Str} {current expiresAt : Utc}
    {chosen : List (Str × MutableRecord F)} {records final : Dict Str (MutableRecord F)}
    {views : List (OutboxRecord F)}
    (claims : Claims owner current expiresAt chosen records final views)
    (keyed : ∀ item ∈ chosen, item.2.data.eventId = item.1) :
    (∀ view ∈ views, ∃ item ∈ chosen, view.data.eventId = item.1 ∧
      ∃ lease, final.get? item.1 = some (item.2.granted (some lease))) ∧
    ∀ item ∈ chosen, ∃ view ∈ views, view.data.eventId = item.1 := by
  have claimed := claims.claimed
  clear claims
  induction claimed with
  | nil => exact ⟨List.forall_mem_nil _, List.forall_mem_nil _⟩
  | cons first rest inductionHypothesis =>
      rw [List.forall_mem_cons] at keyed
      obtain ⟨record, stored, ⟨lease, -, rfl⟩, taken⟩ := first
      obtain ⟨restViews, restItems⟩ := inductionHypothesis keyed.2
      have viewKey := congrArg (·.eventId) (MutableRecord.snapshot_eq_ok_iff.mp taken).1
      replace viewKey := viewKey.trans keyed.1
      constructor
      · rw [List.forall_mem_cons]
        refine ⟨⟨_, List.mem_cons_self, viewKey, lease, stored⟩, ?_⟩
        intro view viewMem
        obtain ⟨item, itemMem, facts⟩ := restViews view viewMem
        exact ⟨item, List.mem_cons_of_mem _ itemMem, facts⟩
      · rw [List.forall_mem_cons]
        refine ⟨⟨_, List.mem_cons_self, viewKey⟩, ?_⟩
        intro item itemMem
        obtain ⟨view, viewMem, same⟩ := restItems item itemMem
        exact ⟨view, List.mem_cons_of_mem _ viewMem, same⟩

/-- A claim that meets its specification leases the first claimable heads. -/
theorem MeetsSpecification.leases {owner : Str} {limit : Nat} {current expiresAt : Utc}
    {views : List (OutboxRecord F)} (sound : before.Sound) (limitPos : 0 < limit)
    (meets : before.MeetsSpecification owner limit current expiresAt (.ok views, after)) :
    Leases current before after views := by
  obtain ⟨_, ⟨⟩, claims⟩ := meets.returned
  have stored : ∀ item ∈ selected limit current before.heads,
      before.records.get? item.1 = some item.2 ∧ item.2.Claimable current := by
    intro item member
    have kept := List.mem_filter.mp (List.mem_of_mem_take member)
    exact ⟨stored_of_mem_heads kept.1, of_decide_eq_true kept.2⟩
  obtain ⟨ofViews, ofItems⟩ := claims.leased fun item member => sound.keyed (stored item member).1
  constructor
  · intro view viewMem
    obtain ⟨item, itemMem, keyEq, lease, storedAfter⟩ := ofViews view viewMem
    rw [keyEq]
    exact ⟨item.2, lease, (stored item itemMem).1, (stored item itemMem).2, storedAfter⟩
  · intro key absent
    apply claims.others
    intro member
    obtain ⟨item, itemMem, rfl⟩ := List.mem_map.mp member
    obtain ⟨view, viewMem, same⟩ := ofItems item itemMem
    exact absent view viewMem same
  · rintro rfl key record storedRecord isHead claimable
    have member : (key, record) ∈ before.heads :=
      List.mem_filter.mpr ⟨mem_ordered.mpr storedRecord, isHead_iff.mpr isHead⟩
    have candidate : (key, record) ∈ before.heads.filter fun item => item.2.Claimable current :=
      List.mem_filter.mpr ⟨member, decide_eq_true claimable⟩
    have nothing := List.forall₂_nil_right_iff.mp claims.claimed
    rw [selected, List.take_eq_nil_iff] at nothing
    rcases nothing with zero | empty
    · exact limitPos.ne' zero
    · rw [empty] at candidate
      cases candidate
  · exact meets.poisonThreshold

end InMemoryOutboxStore

end DataLifecycle.Outbox
