import DataLifecycle.Outbox.Exclusive
import Mathlib.Data.List.TakeWhile

/-!
# Ordered completion

When every new event sorts after the events of its partition, each partition is
a prefix of completed records, then one record in any state, then pending
records, and its checkpoint names the end of the prefix.
-/

namespace DataLifecycle.Outbox

open Python

variable {F : Type} [FloatText F]

/-- The call is a `compare_and_set_checkpoint`. -/
def Call.isCompareAndSet : Call F → Bool
  | .compareAndSetCheckpoint _ _ => true
  | _ => false

namespace InMemoryOutboxStore

/-- The records of a partition by occurrence time and event id. -/
def partitionRecords (store : InMemoryOutboxStore F) (partition : Str) : List (MutableRecord F) :=
  (store.ordered.map Prod.snd).filter fun record => record.data.partitionKey = partition

/-- A new event appended by the call sorts after all events of its partition. -/
def AppendsInOrder (store : InMemoryOutboxStore F) (call : Call F) : Prop :=
  ∀ data, call = .append data → store.records.get? data.eventId = none →
    ∀ {key record}, store.records.get? key = some record →
      record.data.partitionKey = data.partitionKey → record.data.sortKey < data.sortKey

/-- Of two records of a partition the first is completed or the second pending. -/
def InOrder (store : InMemoryOutboxStore F) : Prop :=
  ∀ {key otherKey record other}, store.records.get? key = some record →
    store.records.get? otherKey = some other →
    record.data.partitionKey = other.data.partitionKey →
    record.data.sortKey < other.data.sortKey → record.state = .completed ∨ other.state = .pending

/-- The record is the last completed one of the partition. -/
structure IsLastCompleted (store : InMemoryOutboxStore F) (partition key : Str)
    (record : MutableRecord F) : Prop where
  stored : store.records.get? key = some record
  partition_eq : record.data.partitionKey = partition
  completed : record.state = .completed
  last : ∀ {otherKey other}, store.records.get? otherKey = some other →
    other.data.partitionKey = partition → other.state = .completed →
    other.data.sortKey ≤ record.data.sortKey

/-- The checkpoint of every partition names its last completed event; a partition
without a checkpoint has none. -/
structure CheckpointsCurrent (store : InMemoryOutboxStore F) : Prop where
  absent : ∀ {partition key record}, store.checkpoints.get? partition = none →
    store.records.get? key = some record → record.data.partitionKey = partition →
    record.state ≠ .completed
  present : ∀ {partition checkpoint}, store.checkpoints.get? partition = some checkpoint →
    ∃ key record, checkpoint.eventId = some key ∧ store.IsLastCompleted partition key record

/-! ## One step -/

/-- A record that is neither pending nor completed after a step was not pending
before it, or the step gave it a lease as the head of its partition. -/
theorem RecordStep.pending_or {store : InMemoryOutboxStore F} {key : Str} {event : Event F}
    {before after : Option (MutableRecord F)} (step : RecordStep store key event before after)
    {record : MutableRecord F} (stored : after = some record) :
    record.state = .pending ∨
      ∃ previous, before = some previous ∧ previous.data = record.data ∧
        (previous.state ≠ .pending ∨ store.IsHead previous) := by
  subst stored
  cases step with
  | frame =>
      by_cases pending : record.state = .pending
      · exact .inl pending
      · exact .inr ⟨record, rfl, rfl, .inl pending⟩
  | append => exact .inl rfl
  | claim _ _ _ _ _ _ _ _ _ _ _ head => exact .inr ⟨_, rfl, rfl, .inr head⟩
  | overflow _ _ _ _ _ _ _ _ head => exact .inr ⟨_, rfl, rfl, .inr head⟩
  | complete _ _ _ _ _ _ _ _ _ _ held =>
      exact .inr ⟨_, rfl, rfl, .inl (by simp [held.leased])⟩
  | release _ _ _ _ _ _ _ _ _ _ _ held =>
      exact .inr ⟨_, rfl, rfl, .inl (by simp [held.leased])⟩
  | retry _ _ _ quarantined => exact .inr ⟨_, rfl, rfl, .inl (by simp [quarantined])⟩

/-- A record that is completed after a step was completed before it, or the step
completed it. -/
theorem RecordStep.completed_origin {store : InMemoryOutboxStore F} {key : Str} {event : Event F}
    {before after : Option (MutableRecord F)} (step : RecordStep store key event before after)
    {record : MutableRecord F} (stored : after = some record)
    (completed : record.state = .completed) : before = some record ∨ event.completes key := by
  subst stored
  cases step with
  | frame => exact .inl rfl
  | append => cases completed
  | claim => cases completed
  | overflow => cases completed
  | complete => exact .inr rfl
  | release =>
      rw [releasedRecord] at completed
      split at completed <;> cases completed
  | retry => cases completed

theorem InOrder.step {store : InMemoryOutboxStore F} {call : Call F} (sound : store.Sound)
    (appends : AppendsInOrder store call) (inOrder : store.InOrder) :
    (store.step call).2.InOrder := by
  intro key otherKey record other stored otherStored samePartition before
  have moved := step_record sound call key
  have otherMoved := step_record sound call otherKey
  rcases otherMoved.pending_or otherStored with
    pending | ⟨otherPrevious, otherWas, otherData, notPending⟩
  · exact .inr pending
  · rcases moved.origin stored with
      ⟨data, callEq, keyEq, absent, rfl⟩ | ⟨previous, wasStored, previousData⟩
    · -- a new record follows every record of its partition
      rw [← keyEq] at absent
      rw [← otherData] at samePartition before
      have ahead := appends data callEq absent otherWas samePartition.symm
      exact absurd before (not_lt.mpr ahead.le)
    · left
      rw [← previousData, ← otherData] at samePartition before
      have completed : previous.state = .completed := by
        rcases notPending with notPending | head
        · rcases inOrder wasStored otherWas samePartition before with completed | pending
          · exact completed
          · exact absurd pending notPending
        · exact head.earlier wasStored samePartition before
      have still := moved.of_completed wasStored completed
      rw [stored] at still
      cases still
      exact completed

/-- What a call other than a compare-and-set does to the checkpoints. -/
theorem step_checkpoints {store : InMemoryOutboxStore F} (sound : store.Sound) (call : Call F)
    (notCompareAndSet : call.isCompareAndSet = false) :
    ((store.step call).2.checkpoints = store.checkpoints ∧
      ∀ key, ¬ Event.completes key (call, (store.step call).1)) ∨
    ∃ key record owner current lease fingerprint,
      store.records.get? key = some record ∧ HeldBy record owner current lease ∧
      (store.step call).2.records = store.records.set key (record.completed fingerprint current) ∧
      (store.step call).2.checkpoints = store.checkpoints.set record.data.partitionKey
        (store.nextCheckpoint key record.data fingerprint current) := by
  have moved := step_advance sound call
  generalize (store.step call).2 = after at moved ⊢
  generalize (store.step call).1 = result at moved ⊢
  cases moved with
  | frame _ _ notCompleted _ same => exact .inl ⟨same, notCompleted⟩
  | complete eventId owner _ fingerprint _ _ current record lease stored held =>
      exact .inr ⟨eventId, record, owner, current, lease, fingerprint, stored, held, rfl, rfl⟩
  | set => cases notCompareAndSet

theorem CheckpointsCurrent.step {store : InMemoryOutboxStore F} {call : Call F}
    (sound : store.Sound) (inOrder : store.InOrder) (notCompareAndSet : call.isCompareAndSet = false)
    (current : store.CheckpointsCurrent) : (store.step call).2.CheckpointsCurrent := by
  have moved := step_record sound call
  rcases step_checkpoints sound call notCompareAndSet with
    ⟨same, notCompleted⟩ |
    ⟨doneKey, done, owner, time, lease, fingerprint, wasStored, held, records, checkpoints⟩
  · -- the completed records are those from before
    have was : ∀ {key record}, (store.step call).2.records.get? key = some record →
        record.state = .completed → store.records.get? key = some record := by
      intro key record stored completed
      rcases (moved key).completed_origin stored completed with was | completes
      · exact was
      · exact absurd completes (notCompleted key)
    constructor
    · intro partition key record absent stored samePartition completed
      rw [same] at absent
      exact current.absent absent (was stored completed) samePartition completed
    · intro partition checkpoint present
      rw [same] at present
      obtain ⟨key, record, eventIdEq, isLast⟩ := current.present present
      refine ⟨key, record, eventIdEq, ?_, isLast.partition_eq, isLast.completed, ?_⟩
      · exact (moved key).of_completed isLast.stored isLast.completed
      · intro otherKey other otherStored otherPartition otherCompleted
        exact isLast.last (was otherStored otherCompleted) otherPartition otherCompleted
  · -- the completed record follows every completed record of its partition
    have split : ∀ {key record}, (store.step call).2.records.get? key = some record →
        key = doneKey ∧ record = done.completed fingerprint time ∨
          key ≠ doneKey ∧ store.records.get? key = some record := by
      intro key record stored
      rw [records, Dict.get?_set] at stored
      by_cases sameKey : doneKey = key
      · rw [if_pos sameKey] at stored
        cases stored
        exact .inl ⟨sameKey.symm, rfl⟩
      · rw [if_neg sameKey] at stored
        exact .inr ⟨Ne.symm sameKey, stored⟩
    constructor
    · intro partition key record absent stored samePartition
      rw [checkpoints, Dict.get?_set] at absent
      by_cases samePart : done.data.partitionKey = partition
      · rw [if_pos samePart] at absent
        cases absent
      · rw [if_neg samePart] at absent
        rcases split stored with ⟨-, rfl⟩ | ⟨-, was⟩
        · exact absurd samePartition samePart
        · exact current.absent absent was samePartition
    · intro partition checkpoint present
      rw [checkpoints, Dict.get?_set] at present
      by_cases samePart : done.data.partitionKey = partition
      · rw [if_pos samePart] at present
        cases present
        refine ⟨doneKey, done.completed fingerprint time, rfl, ?_, samePart, rfl, ?_⟩
        · rw [records, Dict.get?_set_self]
        · intro otherKey other otherStored otherPartition otherCompleted
          rcases split otherStored with ⟨-, rfl⟩ | ⟨-, was⟩
          · exact le_rfl
          · by_contra later
            rcases inOrder wasStored was (samePart.trans otherPartition.symm) (not_le.mp later) with
              completed | pending
            · simp [held.leased] at completed
            · simp [otherCompleted] at pending
      · rw [if_neg samePart] at present
        obtain ⟨key, record, eventIdEq, isLast⟩ := current.present present
        refine ⟨key, record, eventIdEq, ?_, isLast.partition_eq, isLast.completed, ?_⟩
        · exact (moved key).of_completed isLast.stored isLast.completed
        · intro otherKey other otherStored otherPartition otherCompleted
          rcases split otherStored with ⟨-, rfl⟩ | ⟨-, was⟩
          · exact absurd otherPartition samePart
          · exact isLast.last was otherPartition otherCompleted

/-! ## Partitions as lists -/

theorem mem_partitionRecords {store : InMemoryOutboxStore F} {partition : Str}
    {record : MutableRecord F} :
    record ∈ store.partitionRecords partition ↔
      (∃ key, store.records.get? key = some record) ∧ record.data.partitionKey = partition := by
  simp only [partitionRecords, List.mem_filter, List.mem_map, decide_eq_true_eq]
  constructor
  · rintro ⟨⟨⟨key, _⟩, member, rfl⟩, samePartition⟩
    exact ⟨⟨key, mem_ordered.mp member⟩, samePartition⟩
  · rintro ⟨⟨key, stored⟩, samePartition⟩
    exact ⟨⟨(key, record), mem_ordered.mpr stored, rfl⟩, samePartition⟩

/-- The records of a partition are strictly sorted. -/
theorem pairwise_partitionRecords {store : InMemoryOutboxStore F} (sound : store.Sound)
    (partition : Str) :
    (store.partitionRecords partition).Pairwise
      fun first second => first.data.sortKey < second.data.sortKey := by
  apply List.Pairwise.filter
  rw [List.pairwise_map]
  have sorted : store.ordered.Pairwise recordLE := List.pairwise_insertionSort _ _
  have distinct := List.pairwise_map.mp store.nodup_keys_ordered
  have both := List.pairwise_and_iff.mpr ⟨sorted, distinct⟩
  apply both.imp_of_mem
  rintro ⟨firstKey, first⟩ ⟨secondKey, second⟩ firstMem secondMem ⟨le, keysNe⟩
  apply lt_of_le_of_ne le
  intro same
  exact keysNe (sound.key_eq_of_sortKey_eq (mem_ordered.mp firstMem) (mem_ordered.mp secondMem) same)

/-- The completed prefix of a partition. -/
def completedPrefix (store : InMemoryOutboxStore F) (partition : Str) : List (MutableRecord F) :=
  (store.partitionRecords partition).takeWhile fun record => record.state = .completed

/-- The records of a partition from the first incomplete one. -/
def remainder (store : InMemoryOutboxStore F) (partition : Str) : List (MutableRecord F) :=
  (store.partitionRecords partition).dropWhile fun record => record.state = .completed

theorem completedPrefix_append_remainder (store : InMemoryOutboxStore F) (partition : Str) :
    store.completedPrefix partition ++ store.remainder partition =
      store.partitionRecords partition :=
  List.takeWhile_append_dropWhile

theorem completed_of_mem_completed {store : InMemoryOutboxStore F} {partition : Str}
    {record : MutableRecord F} (member : record ∈ store.completedPrefix partition) :
    record.state = .completed := by
  have holds := List.mem_takeWhile_imp member
  exact of_decide_eq_true holds

theorem incomplete_of_remainder {store : InMemoryOutboxStore F} {partition : Str}
    {head : MutableRecord F} {tail : List (MutableRecord F)}
    (rest : store.remainder partition = head :: tail) : head.state ≠ .completed := by
  have fails := List.head?_dropWhile_not (fun record : MutableRecord F => record.state = .completed)
    (store.partitionRecords partition)
  rw [← remainder, rest] at fails
  simpa using fails

theorem lt_of_mem_tail {store : InMemoryOutboxStore F} (sound : store.Sound) {partition : Str}
    {head record : MutableRecord F} {tail : List (MutableRecord F)}
    (rest : store.remainder partition = head :: tail) (member : record ∈ tail) :
    head.data.sortKey < record.data.sortKey := by
  have sorted := pairwise_partitionRecords sound partition
  rw [← completedPrefix_append_remainder, rest] at sorted
  exact (List.pairwise_cons.mp (List.pairwise_append.mp sorted).2.1).1 record member

theorem pending_of_mem_tail {store : InMemoryOutboxStore F} (sound : store.Sound)
    (inOrder : store.InOrder) {partition : Str} {head record : MutableRecord F}
    {tail : List (MutableRecord F)} (rest : store.remainder partition = head :: tail)
    (member : record ∈ tail) : record.state = .pending := by
  have stored : ∀ {other}, other ∈ head :: tail →
      (∃ key, store.records.get? key = some other) ∧ other.data.partitionKey = partition := by
    intro other otherMem
    apply mem_partitionRecords.mp
    rw [← completedPrefix_append_remainder, rest]
    exact List.mem_append_right _ otherMem
  obtain ⟨⟨headKey, headStored⟩, headPartition⟩ := stored List.mem_cons_self
  obtain ⟨⟨key, recordStored⟩, recordPartition⟩ := stored (List.mem_cons_of_mem _ member)
  rcases inOrder headStored recordStored (headPartition.trans recordPartition.symm)
    (lt_of_mem_tail sound rest member) with completed | pending
  · exact absurd completed (incomplete_of_remainder rest)
  · exact pending

/-- The head of a partition is where its remainder starts. -/
theorem IsHead.remainder {store : InMemoryOutboxStore F} (sound : store.Sound) {key : Str}
    {record : MutableRecord F} (head : store.IsHead record)
    (stored : store.records.get? key = some record) :
    ∃ tail, store.remainder record.data.partitionKey = record :: tail := by
  have member : record ∈ store.partitionRecords record.data.partitionKey :=
    mem_partitionRecords.mpr ⟨⟨key, stored⟩, rfl⟩
  rw [← completedPrefix_append_remainder] at member
  rcases List.mem_append.mp member with inPrefix | inRest
  · exact absurd (completed_of_mem_completed inPrefix) head.incomplete
  · cases rest : store.remainder record.data.partitionKey with
    | nil => simp [rest] at inRest
    | cons first tail =>
        rw [rest] at inRest
        rcases List.mem_cons.mp inRest with rfl | inTail
        · exact ⟨tail, rfl⟩
        · have firstMem : first ∈ store.partitionRecords record.data.partitionKey := by
            rw [← completedPrefix_append_remainder, rest]
            simp
          obtain ⟨⟨firstKey, firstStored⟩, firstPartition⟩ := mem_partitionRecords.mp firstMem
          have completed := head.earlier firstStored firstPartition
            (lt_of_mem_tail sound rest inTail)
          exact absurd completed (incomplete_of_remainder rest)

/-- The last completed record of a partition ends the completed prefix. -/
theorem IsLastCompleted.getLast? {store : InMemoryOutboxStore F} (sound : store.Sound)
    (inOrder : store.InOrder) {partition key : Str} {record : MutableRecord F}
    (isLast : store.IsLastCompleted partition key record) :
    (store.completedPrefix partition).getLast? = some record := by
  have member : record ∈ store.partitionRecords partition :=
    mem_partitionRecords.mpr ⟨⟨key, isLast.stored⟩, isLast.partition_eq⟩
  rw [← completedPrefix_append_remainder] at member
  have inPrefix : record ∈ store.completedPrefix partition := by
    rcases List.mem_append.mp member with inPrefix | inRest
    · exact inPrefix
    · cases rest : store.remainder partition with
      | nil => simp [rest] at inRest
      | cons head tail =>
          rw [rest] at inRest
          rcases List.mem_cons.mp inRest with rfl | inTail
          · exact absurd isLast.completed (incomplete_of_remainder rest)
          · have pending := pending_of_mem_tail sound inOrder rest inTail
            simp [isLast.completed] at pending
  obtain ⟨before, final, split⟩ : ∃ before final, store.completedPrefix partition = before ++ [final] :=
    ⟨_, _, (List.dropLast_append_getLast (List.ne_nil_of_mem inPrefix)).symm⟩
  rw [split, List.getLast?_append, List.getLast?_singleton, Option.some_or, Option.some.injEq]
  have sorted := pairwise_partitionRecords sound partition
  rw [← completedPrefix_append_remainder, split] at sorted
  have finalMem : final ∈ store.completedPrefix partition := by simp [split]
  rw [split] at inPrefix
  rcases List.mem_append.mp inPrefix with inBefore | isFinal
  · have ahead := (List.pairwise_append.mp (List.pairwise_append.mp sorted).1).2.2 record inBefore
      final (by simp)
    have finalStored : final ∈ store.partitionRecords partition := by
      rw [← completedPrefix_append_remainder]
      exact List.mem_append_left _ finalMem
    obtain ⟨⟨finalKey, finalStored⟩, finalPartition⟩ := mem_partitionRecords.mp finalStored
    have behind := isLast.last finalStored finalPartition (completed_of_mem_completed finalMem)
    exact absurd ahead (not_lt.mpr behind)
  · exact (List.mem_singleton.mp isFinal).symm

theorem CheckpointsCurrent.eventId_eq {store : InMemoryOutboxStore F} (sound : store.Sound)
    (inOrder : store.InOrder) (current : store.CheckpointsCurrent) (partition : Str) :
    (store.checkpoints.get? partition).bind (·.eventId) =
      (store.completedPrefix partition).getLast?.map (·.data.eventId) := by
  cases found : store.checkpoints.get? partition with
  | none =>
      cases last : (store.completedPrefix partition).getLast? with
      | none => rfl
      | some record =>
          have inPrefix := List.mem_of_getLast? last
          have member : record ∈ store.partitionRecords partition := by
            rw [← completedPrefix_append_remainder]
            exact List.mem_append_left _ inPrefix
          obtain ⟨⟨key, stored⟩, samePartition⟩ := mem_partitionRecords.mp member
          exact absurd (completed_of_mem_completed inPrefix)
            (current.absent found stored samePartition)
  | some checkpoint =>
      obtain ⟨key, record, eventIdEq, isLast⟩ := current.present found
      rw [isLast.getLast? sound inOrder, Option.bind_some, Option.map_some, eventIdEq,
        sound.keyed isLast.stored]

/-! ## Whole runs -/

/-- A claim moves a record only at the head of its partition and only when that
head can be leased. -/
theorem head_of_moved_by_claim {store : InMemoryOutboxStore F} (sound : store.Sound)
    {owner key : Str} {limit duration : Int} {now : Option DateTime} {utcNow : Utc}
    {before after : MutableRecord F} (stored : store.records.get? key = some before)
    (storedAfter : (store.step (.atomicClaim owner limit duration now utcNow)).2.records.get? key
      = some after) (moved : after ≠ before) :
    store.IsHead before ∧
      ∃ current, currentTime now utcNow = .ok current ∧ before.Claimable current := by
  have step := step_record sound (.atomicClaim owner limit duration now utcNow) key
  rw [stored, storedAfter] at step
  generalize (store.step (.atomicClaim owner limit duration now utcNow)).1 = result at step
  cases step with
  | frame => exact absurd rfl moved
  | claim _ _ _ _ _ current _ _ _ _ time head claimed =>
      exact ⟨head, current, time, claimed.claimable⟩
  | overflow _ _ _ _ _ current _ time head claimable => exact ⟨head, current, time, claimable⟩

theorem CheckpointsCurrent.run {poisonThreshold : Nat} {positive : 0 < poisonThreshold}
    {calls : List (Call F)}
    (inOrder : EveryStep AppendsInOrder (init poisonThreshold positive) calls)
    (notCompareAndSet : ∀ call ∈ calls, call.isCompareAndSet = false) :
    ((init poisonThreshold positive).run calls).1.CheckpointsCurrent := by
  have initially : (init poisonThreshold positive : InMemoryOutboxStore F).CheckpointsCurrent := by
    constructor
    · intro _ _ _ _ stored
      simp [init] at stored
    · intro _ _ present
      simp [init] at present
  have invariant := EveryStep.invariant
    (fun store => store.Sound ∧ store.InOrder ∧ store.CheckpointsCurrent)
    (fun store call met holds => ⟨holds.1.step call, InOrder.step holds.1 met.1 holds.2.1,
      holds.2.2.step holds.1 holds.2.1 met.2⟩) (inOrder.and_forall notCompareAndSet)
    ⟨sound_init, by intro _ _ _ _ stored; simp [init] at stored, initially⟩ calls [] (by simp)
  exact invariant.2.2

/-- Ordered, gap-free completion.  In every state of a run whose new events sort
after the events of their partition, each partition listed in that order is a
prefix of completed records followed by one record that is not completed and
then by pending records only.  Without compare-and-set calls its checkpoint names
the last event of the prefix.  A claim moves a record of the partition only when
it is that first incomplete one and can be leased. -/
theorem ordered_gap_free_completion (poisonThreshold : Nat) (positive : 0 < poisonThreshold)
    (calls : List (Call F))
    (inOrder : EveryStep AppendsInOrder (init poisonThreshold positive) calls)
    (first last : List (Call F)) (split : calls = first ++ last) (partition : Str) :
    let store := ((init poisonThreshold positive).run first).1
    ∃ done rest, store.partitionRecords partition = done ++ rest ∧
      (∀ record ∈ done, record.state = .completed) ∧
      (∀ head tail, rest = head :: tail →
        head.state ≠ .completed ∧ ∀ record ∈ tail, record.state = .pending) ∧
      ((∀ call ∈ first, call.isCompareAndSet = false) →
        (store.checkpoints.get? partition).bind (·.eventId) =
          done.getLast?.map (·.data.eventId)) ∧
      ∀ owner limit duration now utcNow key before after,
        store.records.get? key = some before → before.data.partitionKey = partition →
        (store.step (.atomicClaim owner limit duration now utcNow)).2.records.get? key = some after →
        after ≠ before →
        (∃ tail, rest = before :: tail) ∧
          ∃ current, currentTime now utcNow = .ok current ∧ before.Claimable current := by
  intro store
  have empty : (init poisonThreshold positive : InMemoryOutboxStore F).InOrder := by
    intro _ _ _ _ stored
    simp [init] at stored
  obtain ⟨sound, ordered⟩ := EveryStep.invariant
    (fun store => store.Sound ∧ store.InOrder)
    (fun store call met holds => ⟨holds.1.step call, InOrder.step holds.1 met holds.2⟩) inOrder
    ⟨sound_init, empty⟩ first last split
  refine ⟨store.completedPrefix partition, store.remainder partition,
    (completedPrefix_append_remainder store partition).symm,
    fun record member => completed_of_mem_completed member, ?_, ?_, ?_⟩
  · intro head tail rest
    exact ⟨incomplete_of_remainder rest,
      fun record member => pending_of_mem_tail sound ordered rest member⟩
  · intro notCompareAndSet
    rw [split] at inOrder
    exact (CheckpointsCurrent.run inOrder.of_append notCompareAndSet).eventId_eq sound ordered
      partition
  · intro owner limit duration now utcNow key before after stored samePartition storedAfter moved
    obtain ⟨head, claimable⟩ := head_of_moved_by_claim sound stored storedAfter moved
    subst partition
    exact ⟨head.remainder sound stored, claimable⟩

/-- Two changes of one order appended in order, and the first of them completed. -/
def orderedCalls : List (Call Empty) :=
  [.append earlierIntent, .append sampleIntent, sampleClaim "worker-1" 20,
    .complete (str "order-1-a") (str "worker-1") (some (.number 1)) earlierIntent.digest
      (some (.ofUtc ⟨30, by decide⟩)) 0]

theorem appendsInOrder_orderedCalls :
    EveryStep AppendsInOrder (init 5 (by decide))
      (orderedCalls ++ [sampleClaim "worker-2" 40]) := by
  refine ⟨?_, ?_, ?_, ?_, ?_, trivial⟩
  · intro data callEq absent key record stored
    simp [init] at stored
  · rintro data ⟨⟩ absent key record stored samePartition
    simp only [step, append, init, Dict.get?_empty, setRecord, Prod.map, id,
      Dict.get?_set] at stored
    split at stored
    · cases stored
      decide +kernel
    · cases stored
  · rintro data ⟨⟩
  · rintro data ⟨⟩
  · rintro data ⟨⟩

/-- The first change is the completed prefix, and the second worker's claim moves the
second one, which heads the rest. -/
theorem ordered_gap_free_completion_sample :
    let store := ((init 5 (by decide)).run orderedCalls).1
    ∃ done head tail, store.partitionRecords sampleIntent.partitionKey = done ++ head :: tail ∧
      (∀ record ∈ done, record.state = .completed) ∧
      (∀ record ∈ tail, record.state = .pending) ∧
      done.getLast?.map (·.data.eventId) = some (str "order-1-a") ∧
      store.records.get? (str "order-1-b") = some head ∧
      ((store.step (sampleClaim "worker-2" 40)).2.records.get? (str "order-1-b")).map (·.state) =
        some .leased := by
  intro store
  obtain ⟨done, rest, split, completed, following, current, claims⟩ :=
    ordered_gap_free_completion 5 (by decide) _ appendsInOrder_orderedCalls orderedCalls _ rfl
      sampleIntent.partitionKey
  rw [show ((init 5 (by decide)).run orderedCalls).1 = store from rfl] at split current claims
  have pending : (store.records.get? (str "order-1-b")).map
      (fun record => (record.data.partitionKey, record.state)) =
        some (sampleIntent.partitionKey, .pending) := by decide +kernel
  have leased : ((store.step (sampleClaim "worker-2" 40)).2.records.get?
      (str "order-1-b")).map (·.state) = some .leased := by decide +kernel
  have checkpoint : (store.checkpoints.get? sampleIntent.partitionKey).bind (·.eventId) =
      some (str "order-1-a") := by decide +kernel
  -- the rest of the argument knows the store by these facts only
  clear_value store
  obtain ⟨before, stored, fields⟩ := Option.map_eq_some_iff.mp pending
  obtain ⟨samePartition, isPending⟩ := Prod.mk.inj fields
  obtain ⟨after, storedAfter, isLeased⟩ := Option.map_eq_some_iff.mp leased
  have moved : after ≠ before := by
    rintro rfl
    rw [isPending] at isLeased
    cases isLeased
  obtain ⟨⟨tail, rfl⟩, -⟩ := claims _ _ _ _ _ _ before after stored samePartition storedAfter moved
  have notCompareAndSet : ∀ call ∈ orderedCalls, call.isCompareAndSet = false := by
    simp [orderedCalls, sampleClaim, Call.isCompareAndSet]
  exact ⟨done, before, tail, split, completed, (following before tail rfl).2,
    (current notCompareAndSet).symm.trans checkpoint, stored, leased⟩

end InMemoryOutboxStore

end DataLifecycle.Outbox
