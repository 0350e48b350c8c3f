import DataLifecycle.Outbox.Ordering

/-!
# Checkpoint accounting

Completions and compare-and-sets advance the same counter.  A count over the
history of a run shows that the two never drift apart, skip or repeat.
-/

namespace DataLifecycle.Outbox.InMemoryOutboxStore

open Python

variable {F : Type} [FloatText F]

/-- A successful compare-and-set of the partition at the given revision. -/
def Event.setsAt (partition : Str) (expectedRevision : Int) : Event F → Prop
  | (.compareAndSetCheckpoint checkpoint expected, .ok _) =>
      checkpoint.partitionKey = partition ∧ expected = expectedRevision
  | _ => False

/-- The record is COMPLETED and belongs to the partition. -/
def CompletedIn (partition : Str) (record : MutableRecord F) : Prop :=
  record.state = .completed ∧ record.data.partitionKey = partition

instance (partition : Str) (record : MutableRecord F) : Decidable (CompletedIn partition record) :=
  inferInstanceAs (Decidable (_ ∧ _))

/-- The number of COMPLETED records of a partition. -/
def completedCount (store : InMemoryOutboxStore F) (partition : Str) : Nat :=
  store.records.values.countP fun record => CompletedIn partition record

/-! ## Counting completed records -/

/-- The keys of the COMPLETED records of a partition. -/
def completedKeys (store : InMemoryOutboxStore F) (partition : Str) : List Str :=
  (store.records.items.filter fun item => CompletedIn partition item.2).map Prod.fst

theorem completedCount_eq_length (store : InMemoryOutboxStore F) (partition : Str) :
    store.completedCount partition = (store.completedKeys partition).length := by
  rw [completedCount, Dict.values, List.countP_map, completedKeys, List.length_map,
    List.countP_eq_length_filter]
  rfl

theorem nodup_completedKeys (store : InMemoryOutboxStore F) (partition : Str) :
    (store.completedKeys partition).Nodup :=
  store.records.nodup.sublist (List.filter_sublist.map Prod.fst)

theorem mem_completedKeys {store : InMemoryOutboxStore F} {partition key : Str} :
    key ∈ store.completedKeys partition ↔
      ∃ record, store.records.get? key = some record ∧ CompletedIn partition record := by
  simp only [completedKeys, List.mem_map, List.mem_filter, decide_eq_true_eq,
    Dict.get?_eq_some_iff]
  constructor
  · rintro ⟨⟨_, record⟩, ⟨member, completed⟩, rfl⟩
    exact ⟨record, member, completed⟩
  · rintro ⟨record, member, completed⟩
    exact ⟨(key, record), ⟨member, completed⟩, rfl⟩

/-- Stores with the same completed keys count alike. -/
theorem completedCount_eq_of_mem_iff {first second : InMemoryOutboxStore F} {partition : Str}
    (same : ∀ key, key ∈ first.completedKeys partition ↔ key ∈ second.completedKeys partition) :
    first.completedCount partition = second.completedCount partition := by
  rw [completedCount_eq_length, completedCount_eq_length]
  exact ((List.perm_ext_iff_of_nodup (nodup_completedKeys _ _) (nodup_completedKeys _ _)).mpr
    same).length_eq

/-- A call that completes no record of a partition keeps its count. -/
theorem completedCount_eq {store : InMemoryOutboxStore F} (sound : store.Sound) {call : Call F}
    {partition : Str} (notCompleted : ∀ key record, store.records.get? key = some record →
      record.data.partitionKey = partition → ¬ Event.completes key (call, (store.step call).1)) :
    (store.step call).2.completedCount partition = store.completedCount partition := by
  apply completedCount_eq_of_mem_iff
  intro key
  rw [mem_completedKeys, mem_completedKeys]
  have moved := step_record sound call key
  constructor
  · rintro ⟨record, stored, completed, inPartition⟩
    rcases moved.completed_origin stored completed with before | completes
    · exact ⟨record, before, completed, inPartition⟩
    · rcases moved.origin stored with ⟨data, callEq, -⟩ | ⟨previous, was, sameData⟩
      · cases callEq
        exact completes.elim
      · exact absurd completes (notCompleted key previous was (sameData ▸ inPartition))
  · rintro ⟨record, stored, completed, inPartition⟩
    exact ⟨record, moved.of_completed stored completed, completed, inPartition⟩

/-- Completing a record of the partition adds one. -/
theorem completedCount_complete (store : InMemoryOutboxStore F) {eventId : Str}
    {record : MutableRecord F} (stored : store.records.get? eventId = some record)
    (leased : record.state = .leased) (fingerprint : Str) (current : Utc)
    (checkpoints : Dict Str Checkpoint) :
    ({ store.setRecord eventId (record.completed fingerprint current) with
      checkpoints := checkpoints } : InMemoryOutboxStore F).completedCount record.data.partitionKey =
      store.completedCount record.data.partitionKey + 1 := by
  have fresh : eventId ∉ store.completedKeys record.data.partitionKey := by
    rw [mem_completedKeys]
    rintro ⟨other, otherStored, completed, -⟩
    rw [stored] at otherStored
    cases otherStored
    rw [leased] at completed
    cases completed
  rw [completedCount_eq_length, completedCount_eq_length, ← List.length_cons (a := eventId)]
  apply List.Perm.length_eq
  apply (List.perm_ext_iff_of_nodup (nodup_completedKeys _ _)
    ((nodup_completedKeys _ _).cons fresh)).mpr
  intro key
  rw [List.mem_cons, mem_completedKeys, mem_completedKeys, setRecord]
  by_cases same : eventId = key
  · subst key
    rw [Dict.get?_set_self]
    constructor
    · exact fun _ => .inl rfl
    · exact fun _ => ⟨_, rfl, rfl, rfl⟩
  · rw [Dict.get?_set_of_ne _ _ same]
    constructor
    · exact .inr
    · rintro (rfl | member)
      · exact absurd rfl same
      · exact member

/-! ## Revisions -/

theorem revision_of_get? {store : InMemoryOutboxStore F} {partition : Str} {checkpoint : Checkpoint}
    (stored : store.checkpoints.get? partition = some checkpoint) :
    store.revision partition = checkpoint.revision := by
  rw [revision, stored]

theorem revision_congr {first second : InMemoryOutboxStore F} {partition : Str}
    (same : first.checkpoints.get? partition = second.checkpoints.get? partition) :
    first.revision partition = second.revision partition := by
  rw [revision, revision, same]

theorem nextCheckpoint_revision (store : InMemoryOutboxStore F) (eventId : Str)
    (data : OutboxDataV1 F) (fingerprint : Str) (current : Utc) :
    (store.nextCheckpoint eventId data fingerprint current).revision =
      store.revision data.partitionKey + 1 := by
  rw [nextCheckpoint, revision]
  cases store.checkpoints.get? data.partitionKey <;> rfl

/-- An advance of a partition: its revision grows by one and the other checkpoints
stay. -/
def Advances (partition : Str) (before after : InMemoryOutboxStore F) : Prop :=
  after.revision partition = before.revision partition + 1 ∧
    ∀ other, other ≠ partition → after.checkpoints.get? other = before.checkpoints.get? other

theorem advances_complete (store : InMemoryOutboxStore F) (eventId : Str) (data : OutboxDataV1 F)
    (fingerprint : Str) (current : Utc) (records : Dict Str (MutableRecord F)) :
    Advances data.partitionKey store { store with
      records := records
      checkpoints := store.checkpoints.set data.partitionKey
        (store.nextCheckpoint eventId data fingerprint current) } := by
  constructor
  · rw [revision_of_get? (Dict.get?_set_self _ _ _), nextCheckpoint_revision]
  · intro other different
    exact Dict.get?_set_of_ne _ _ different.symm

theorem advances_set {store : InMemoryOutboxStore F} {checkpoint : Checkpoint}
    {expectedRevision : Int}
    (expected : (store.revision checkpoint.partitionKey : Int) = expectedRevision)
    (next : (checkpoint.revision : Int) = expectedRevision + 1) :
    Advances checkpoint.partitionKey store { store with
      checkpoints := store.checkpoints.set checkpoint.partitionKey checkpoint } := by
  constructor
  · rw [revision_of_get? (Dict.get?_set_self _ _ _)]
    omega
  · intro other different
    exact Dict.get?_set_of_ne _ _ different.symm

/-- No call lowers a revision. -/
theorem revision_le_step {store : InMemoryOutboxStore F} (sound : store.Sound) (call : Call F)
    (partition : Str) : store.revision partition ≤ (store.step call).2.revision partition := by
  have moved := step_advance sound call
  have grows : ∀ {advanced after}, Advances advanced store after →
      store.revision partition ≤ after.revision partition := by
    rintro advanced after ⟨raised, others⟩
    by_cases same : partition = advanced
    · subst same
      exact raised ▸ Nat.le_succ _
    · rw [revision_congr (others partition same)]
  generalize (store.step call).2 = after at moved ⊢
  generalize (store.step call).1 = result at moved
  cases moved with
  | frame _ _ _ _ same => exact (revision_congr (congrArg (·.get? partition) same)).ge
  | complete eventId _ _ fingerprint _ _ current record =>
      exact grows (advances_complete store eventId record.data fingerprint current _)
  | set _ _ expected next => exact grows (advances_set expected next)

/-! ## Accounting over a run -/

/-- The accounts of a run with its history. -/
structure Accounted (store : InMemoryOutboxStore F) (history : List (Event F)) : Prop where
  sound : store.Sound
  balance : ∀ partition, store.revision partition =
    store.completedCount partition + history.countP (Event.sets partition)
  passed : ∀ event ∈ history, ∀ partition expectedRevision,
    event.setsAt partition expectedRevision → expectedRevision < store.revision partition
  distinct : history.Pairwise fun first second => ∀ partition expectedRevision,
    first.setsAt partition expectedRevision → ¬ second.setsAt partition expectedRevision

theorem Accounted.balance_step {store : InMemoryOutboxStore F} {history : List (Event F)}
    (accounted : Accounted store history) (call : Call F) (partition : Str) :
    (store.step call).2.revision partition = (store.step call).2.completedCount partition +
      (history ++ [(call, (store.step call).1)]).countP (Event.sets partition) := by
  have moved := step_advance accounted.sound call
  have balance := accounted.balance partition
  have counted : (∀ key record, store.records.get? key = some record →
      record.data.partitionKey = partition → ¬ Event.completes key (call, (store.step call).1)) →
      (store.step call).2.completedCount partition = store.completedCount partition :=
    completedCount_eq accounted.sound
  rw [List.countP_append, List.countP_singleton]
  generalize (store.step call).2 = after at moved counted ⊢
  generalize (store.step call).1 = result at moved counted ⊢
  cases moved with
  | frame _ _ notCompleted notSet same =>
      rw [counted fun key _ _ _ => notCompleted key, notSet]
      exact (revision_congr (congrArg (·.get? partition) same)).trans balance
  | complete eventId _ _ fingerprint _ _ current record _ stored held =>
      have advanced := advances_complete store eventId record.data fingerprint current
        (store.setRecord eventId (record.completed fingerprint current)).records
      by_cases same : partition = record.data.partitionKey
      · subst same
        rw [completedCount_complete store stored held.leased]
        apply advanced.1.trans
        rw [balance]
        exact Nat.add_right_comm _ _ _
      · rw [counted]
        · exact (revision_congr (advanced.2 partition same)).trans balance
        · rintro key other otherStored inPartition rfl
          rw [stored] at otherStored
          cases otherStored
          exact same inPartition.symm
  | set checkpoint _ expected next =>
      have advanced := advances_set expected next
      rw [counted fun _ _ _ _ => not_false]
      by_cases same : partition = checkpoint.partitionKey
      · subst same
        rw [if_pos (by simp [Event.sets])]
        apply advanced.1.trans
        rw [balance]
        exact Nat.add_assoc _ _ _
      · rw [if_neg (by simpa [Event.sets] using Ne.symm same)]
        exact (revision_congr (advanced.2 partition same)).trans balance

theorem Accounted.step {store : InMemoryOutboxStore F} {history : List (Event F)}
    (accounted : Accounted store history) (call : Call F) :
    Accounted (store.step call).2 (history ++ [(call, (store.step call).1)]) := by
  have moved := step_advance accounted.sound call
  -- a compare-and-set at a revision finds it and leaves a greater one
  have setsAt : ∀ partition expectedRevision,
      Event.setsAt partition expectedRevision (call, (store.step call).1) →
      (store.revision partition : Int) = expectedRevision ∧
        expectedRevision < (store.step call).2.revision partition := by
    intro partition expectedRevision sets
    generalize (store.step call).2 = after at moved ⊢
    generalize (store.step call).1 = result at moved sets
    cases moved with
    | frame _ _ _ notSet =>
        unfold Event.setsAt at sets
        split at sets
        next checkpoint expected _ eventEq =>
          have isSet := notSet partition
          rw [eventEq, Event.sets, sets.1] at isSet
          exact absurd isSet (by simp)
        next => exact sets.elim
    | complete => exact sets.elim
    | set checkpoint _ expected next =>
        obtain ⟨rfl, rfl⟩ := sets
        have advanced := (advances_set expected next).1
        refine ⟨expected, ?_⟩
        omega
  constructor
  · exact accounted.sound.step call
  · exact accounted.balance_step call
  · intro event member partition expectedRevision sets
    rcases List.mem_append.mp member with earlier | new
    · have before := accounted.passed event earlier partition expectedRevision sets
      have grows := revision_le_step accounted.sound call partition
      omega
    · rw [List.mem_singleton.mp new] at sets
      exact (setsAt partition expectedRevision sets).2
  · rw [List.pairwise_append]
    refine ⟨accounted.distinct, List.pairwise_singleton _ _, ?_⟩
    intro first firstMem second secondMem partition expectedRevision sets again
    rw [List.mem_singleton.mp secondMem] at again
    have before := accounted.passed first firstMem partition expectedRevision sets
    rw [← (setsAt partition expectedRevision again).1] at before
    exact lt_irrefl _ before

/-- Checkpoint accounting over every run of a new store.  A successful completion or
compare-and-set advances the checkpoint of its partition by one and leaves the
others, any other call leaves all; the revision counts the COMPLETED records and
the compare-and-sets; no two compare-and-sets of a partition succeed at one
revision; and a completion leaves a checkpoint that agrees with its record. -/
theorem checkpoint_accounting (poisonThreshold : Nat) (positive : 0 < poisonThreshold)
    (calls : List (Call F)) :
    let store : InMemoryOutboxStore F := ((init poisonThreshold positive).run calls).1
    let history : List (Event F) := ((init poisonThreshold positive).run calls).2
    (∀ eventId owner version fingerprint now utcNow reply,
      let call : Call F := .complete eventId owner version fingerprint now utcNow
      (store.step call).1 = .ok reply →
      ∃ record checkpoint, (store.step call).2.records.get? eventId = some record ∧
        record.state = .completed ∧ Advances record.data.partitionKey store (store.step call).2 ∧
        (store.step call).2.checkpoints.get? record.data.partitionKey = some checkpoint ∧
        checkpoint.eventId = some eventId ∧
        checkpoint.sourceVersion = record.data.sourceVersion ∧
        checkpoint.targetFingerprint = record.targetFingerprint ∧
        checkpoint.advancedAt = record.completedAt) ∧
    (∀ checkpoint expectedRevision reply,
      let call : Call F := .compareAndSetCheckpoint checkpoint expectedRevision
      (store.step call).1 = .ok reply →
      Advances checkpoint.partitionKey store (store.step call).2) ∧
    (∀ call, (∀ key, ¬ Event.completes key (call, (store.step call).1)) →
      (∀ partition, Event.sets partition (call, (store.step call).1) = false) →
      (store.step call).2.checkpoints = store.checkpoints) ∧
    (∀ partition, store.revision partition =
      store.completedCount partition + history.countP (Event.sets partition)) ∧
    history.Pairwise fun first second => ∀ partition expectedRevision,
      first.setsAt partition expectedRevision → ¬ second.setsAt partition expectedRevision := by
  intro store history
  have accounted : Accounted store history := by
    have preserved : ∀ store history call, True → Accounted store history →
        Accounted (store.step call).2 (history ++ [(call, (store.step call).1)]) :=
      fun _ _ (call : Call F) _ accounted => accounted.step call
    exact history_induction preserved calls (fun _ _ => trivial)
      ⟨sound_init, fun _ => rfl, List.forall_mem_nil _, List.Pairwise.nil⟩
  refine ⟨?_, ?_, ?_, accounted.balance, accounted.distinct⟩
  · intro eventId owner version fingerprint now utcNow reply call succeeded
    have moved := step_advance accounted.sound call
    generalize (store.step call).2 = after at moved ⊢
    generalize (store.step call).1 = result at moved succeeded
    subst succeeded call
    cases moved with
    | frame _ _ notCompleted => exact absurd rfl (notCompleted eventId)
    | complete _ _ _ _ _ _ current record lease stored held =>
        refine ⟨record.completed fingerprint current, _, Dict.get?_set_self _ _ _, rfl, ?_,
          Dict.get?_set_self _ _ _, rfl, rfl, rfl, rfl⟩
        exact advances_complete store eventId record.data fingerprint current _
  · intro checkpoint expectedRevision reply call succeeded
    have moved := step_advance accounted.sound call
    generalize (store.step call).2 = after at moved ⊢
    generalize (store.step call).1 = result at moved succeeded
    subst succeeded call
    cases moved with
    | frame _ _ _ notSet => exact absurd (notSet checkpoint.partitionKey) (by simp [Event.sets])
    | set _ _ expected next => exact advances_set expected next
  · intro call notCompleted notSet
    have moved := step_advance accounted.sound call
    generalize (store.step call).2 = after at moved ⊢
    generalize (store.step call).1 = result at moved notCompleted notSet
    cases moved with
    | frame _ _ _ _ same => exact same
    | complete eventId => exact absurd rfl (notCompleted eventId)
    | set checkpoint => exact absurd (notSet checkpoint.partitionKey) (by simp [Event.sets])

/-- The sample event is claimed and completed, which makes revision 1. -/
theorem checkpoint_accounting_completed :
    let calls : List (Call Empty) := [.append sampleIntent, sampleClaim "worker-1" ⟨20, by decide⟩,
      .complete (str "order-1-b") (str "worker-1") (some (.number 1)) sampleIntent.digest
        (some (.ofUtc ⟨50, by decide⟩)) ⟨0, by decide⟩]
    let final := (init 5 (by decide)).run calls
    final.1.revision sampleIntent.partitionKey = 1 ∧
      1 = final.1.completedCount sampleIntent.partitionKey +
        final.2.countP (Event.sets sampleIntent.partitionKey) := by
  intro calls final
  have first : final.1.revision sampleIntent.partitionKey = 1 := by decide +kernel
  have balance := (checkpoint_accounting 5 (by decide) calls).2.2.2.1 sampleIntent.partitionKey
  exact ⟨first, first.symm.trans balance⟩

end DataLifecycle.Outbox.InMemoryOutboxStore
