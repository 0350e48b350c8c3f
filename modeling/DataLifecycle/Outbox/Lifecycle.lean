import DataLifecycle.Outbox.Lease

/-!
# The life of a record

As long as no claim runs over the end of the calendar, the fields of every record
agree with its state and with the history of calls, and a call that raises leaves
the store as it was.  A claim that does run over the end has already counted the
attempt and dropped the old lease.
-/

namespace DataLifecycle.Outbox

open Python

variable {F : Type} [FloatText F]

/-- The lease that a claim would grant ends within the calendar. -/
def Call.InRange : Call F → Prop
  | .atomicClaim _ _ duration now utcNow =>
      ∀ current, currentTime now utcNow = .ok current → current.add duration ≠ none
  | _ => True

/-- The fields of a record agree with its state. -/
structure MutableRecord.Consistent (record : MutableRecord F) : Prop where
  pending_iff : record.state = .pending ↔ record.attemptCount = 0
  leased_iff : record.state = .leased ↔ record.lease.isSome
  lease : ∀ lease, record.lease = some lease →
    lease.attempt = record.attemptCount ∧ lease.acquiredAt < lease.expiresAt
  fingerprint_iff : record.state = .completed ↔ record.targetFingerprint.isSome
  completedAt_iff : record.state = .completed ↔ record.completedAt.isSome
  failure_of_quarantined : record.state = .quarantined → record.failure.isSome
  state_of_failure : record.failure.isSome →
    record.state = .retryable ∨ record.state = .quarantined

namespace MutableRecord.Consistent

variable {record : MutableRecord F}

theorem attemptCount_ne_zero (consistent : record.Consistent) (notPending : record.state ≠ .pending) :
    record.attemptCount ≠ 0 :=
  fun zero => notPending (consistent.pending_iff.mpr zero)

/-- A record that is not completed has no mark of a completion. -/
theorem unsettled (consistent : record.Consistent) (incomplete : record.state ≠ .completed) :
    record.targetFingerprint = none ∧ record.completedAt = none := by
  rw [ne_eq, consistent.fingerprint_iff] at incomplete
  have noTime := incomplete
  rw [← consistent.fingerprint_iff, consistent.completedAt_iff] at noTime
  exact ⟨Option.not_isSome_iff_eq_none.mp incomplete, Option.not_isSome_iff_eq_none.mp noTime⟩

theorem wellFormed (consistent : record.Consistent) : record.WellFormed :=
  consistent.leased_iff.mpr

end MutableRecord.Consistent

namespace InMemoryOutboxStore

/-- The call is a claim with acceptable arguments that finds a record to lease, and
the lease would end after the last representable time. -/
def Overflows (store : InMemoryOutboxStore F) : Call F → Prop
  | .atomicClaim owner limit duration now utcNow =>
      owner ≠ [] ∧ 1 ≤ limit ∧ 0 < duration ∧ ∃ current, currentTime now utcNow = .ok current ∧
        current.add duration = none ∧ ∃ key record, store.records.get? key = some record ∧
          store.IsHead record ∧ record.Claimable current
  | _ => False

/-- Every record agrees with its state. -/
def AllConsistent (store : InMemoryOutboxStore F) : Prop :=
  ∀ {key record}, store.records.get? key = some record → record.Consistent

/-- A claim that returned the record of the event. -/
def Event.claims (eventId : Str) (event : Event F) : Bool :=
  event.returned.any fun view => view.data.eventId = eventId

theorem not_overflows_of_inRange {store : InMemoryOutboxStore F} {call : Call F}
    (inRange : call.InRange) : ¬ store.Overflows call := by
  cases call with
  | atomicClaim owner limit duration now utcNow =>
      rintro ⟨-, -, -, current, time, outOfRange, -⟩
      exact inRange current time outOfRange
  | _ => exact not_false

/-! ## Records agree with their state -/

/-- A step that is not the overflow of a claim keeps the fields consistent. -/
theorem RecordStep.consistent {store : InMemoryOutboxStore F} {key : Str} {event : Event F}
    {before after : Option (MutableRecord F)} (step : RecordStep store key event before after)
    (consistent : ∀ record, before = some record → record.Consistent)
    (notOverflowed : ∀ record, before = some record → after ≠ some (record.granted none)) :
    ∀ record, after = some record → record.Consistent := by
  rintro moved rfl
  cases step with
  | frame => exact consistent moved rfl
  | append => constructor <;> simp
  | claim _ _ _ _ _ _ _ record lease _ _ head step =>
      cases step with
      | claim _ _ claimable _ _ _ attemptEq =>
          have unsettled := (consistent record rfl).unsettled claimable.ne_completed
          constructor
          · simp [MutableRecord.granted]
          · simp [MutableRecord.granted]
          · rintro other ⟨⟩
            exact ⟨attemptEq, lease.acquired_lt⟩
          · simp [MutableRecord.granted, unsettled.1]
          · simp [MutableRecord.granted, unsettled.2]
          · simp [MutableRecord.granted]
          · simp [MutableRecord.granted]
  | overflow _ _ _ _ _ _ record => exact absurd rfl (notOverflowed record rfl)
  | complete _ _ _ _ _ _ record _ _ _ held =>
      have tried := (consistent record rfl).attemptCount_ne_zero (by simp [held.leased])
      constructor <;> simp [MutableRecord.completed, tried]
  | release _ _ retryable _ _ _ record _ failure _ _ held =>
      have tried := (consistent record rfl).attemptCount_ne_zero (by simp [held.leased])
      have unsettled := (consistent record rfl).unsettled (by simp [held.leased])
      unfold releasedRecord
      generalize (!retryable || store.poisonThreshold ≤ record.attemptCount : Bool) = poisoned
      cases poisoned <;> constructor <;> simp [tried, unsettled.1, unsettled.2]
  | retry _ record _ quarantined =>
      have tried := (consistent record rfl).attemptCount_ne_zero (by simp [quarantined])
      have unsettled := (consistent record rfl).unsettled (by simp [quarantined])
      have noLease := (consistent record rfl).wellFormed.lease_eq_none (by simp [quarantined])
      constructor <;> simp [MutableRecord.retried, tried, unsettled.1, unsettled.2, noLease]

/-- A record that a claim over the end of the calendar has changed. -/
theorem overflows_of_granted_none {store : InMemoryOutboxStore F} (sound : store.Sound)
    {call : Call F} {key : Str} {record : MutableRecord F}
    (stored : store.records.get? key = some record)
    (granted : (store.step call).2.records.get? key = some (record.granted none)) :
    store.Overflows call := by
  have moved := step_record sound call key
  have changed : record.granted none ≠ record := by
    intro same
    exact absurd (congrArg MutableRecord.attemptCount same) (Nat.succ_ne_self _)
  rw [stored, granted] at moved
  generalize resultEq : (store.step call).1 = result at moved
  generalize beforeEq : some record = before at moved
  generalize afterEq : some (record.granted none) = after at moved
  cases moved with
  | frame => exact absurd (Option.some.inj (afterEq.trans beforeEq.symm)) changed
  | append => cases beforeEq
  | claim _ _ _ _ _ _ _ _ lease =>
      exact absurd (congrArg MutableRecord.lease (Option.some.inj afterEq)) (by
        simp [MutableRecord.granted])
  | complete =>
      exact absurd (congrArg MutableRecord.state (Option.some.inj afterEq)) (by
        simp [MutableRecord.granted, MutableRecord.completed])
  | release _ _ retryable _ _ _ found =>
      have state := congrArg MutableRecord.state (Option.some.inj afterEq)
      simp only [MutableRecord.granted, releasedRecord] at state
      split at state <;> cases state
  | retry =>
      exact absurd (congrArg MutableRecord.state (Option.some.inj afterEq)) (by
        simp [MutableRecord.granted, MutableRecord.retried])
  | overflow owner limit duration now utcNow current found time head claimable outOfRange =>
      cases beforeEq
      rcases atomicClaim_cases store owner limit duration now utcNow with
        ⟨error, failed⟩ | ⟨_, ownerNe, limitLe, positive, -, -⟩
      · simp only [step, failed, Prod.map, id] at granted
        exact absurd (Option.some.inj (granted.symm.trans stored)) changed
      · exact ⟨ownerNe, limitLe, positive, current, time, outOfRange, key, record, stored, head,
          claimable⟩

/-- A call that does not run over the end of the calendar keeps the records
consistent. -/
theorem AllConsistent.step {store : InMemoryOutboxStore F} (sound : store.Sound)
    (consistent : store.AllConsistent) {call : Call F} (inCalendar : ¬ store.Overflows call) :
    (store.step call).2.AllConsistent := by
  intro key record stored
  apply (step_record sound call key).consistent (fun _ => consistent) _ record stored
  intro before storedBefore granted
  exact inCalendar (overflows_of_granted_none sound storedBefore granted)

/-! ## Calls that raise -/

/-- A call that raises within the calendar changes nothing. -/
theorem unchanged_of_error {store : InMemoryOutboxStore F} (sound : store.Sound)
    (consistent : store.AllConsistent) {call : Call F} (inCalendar : ¬ store.Overflows call)
    {error : Exc} (failed : (store.step call).1 = .error error) : (store.step call).2 = store := by
  cases call with
  | append data =>
      simp only [step, append] at failed ⊢
      split at failed
      · cases failed
      · split at failed
        next different => simp only [if_pos different, Prod.map, id]
        · cases failed
  | atomicClaim owner limit duration now utcNow =>
      simp only [step] at failed ⊢
      rcases atomicClaim_cases store owner limit duration now utcNow with
        ⟨refusal, refused⟩ | ⟨current, ownerNe, limitLe, positive, time, looped⟩
      · rw [refused]
        rfl
      · -- the loop meets no record without its lease, and no head that it cannot lease
        rw [looped] at failed
        have wellFormed : ∀ item ∈ store.ordered, item.2.WellFormed :=
          fun item member => sound.wellFormed (mem_ordered.mp member)
        cases raised : (claimLoop owner limit current duration store.ordered [] []
            store.records).1 with
        | ok views => simp [Prod.map, raised, Except.map] at failed
        | error error =>
            rcases claimLoop_error limit current ownerNe positive _ [] [] _ wellFormed error raised
              with ⟨-, item, member, leased, missing⟩ |
                ⟨outOfRange, key, record, visited, claimable⟩
            · have present := (consistent (mem_ordered.mp member)).leased_iff.mp leased
              rw [missing] at present
              cases present
            · obtain ⟨earlier, later, split, -⟩ := visited.split
              have member : (key, record) ∈ store.ordered := by
                rw [split]
                simp
              exact absurd ⟨ownerNe, limitLe, positive, current, time, outOfRange, key, record,
                mem_ordered.mp member, visited.isHead, claimable⟩ inCalendar
  | complete eventId owner version fingerprint now utcNow =>
      simp only [step] at failed ⊢
      rcases complete_cases store eventId owner version fingerprint now utcNow with
        ⟨refusal, refused⟩ | ⟨current, record, lease, -, -, -, -, completed⟩
      · rw [refused]
        rfl
      · rw [completed] at failed
        cases failed
  | release eventId owner error retryable now utcNow =>
      simp only [step] at failed ⊢
      rcases release_cases store eventId owner error retryable now utcNow with
        ⟨refusal, refused⟩ | ⟨current, record, lease, failure, view, -, -, -, -, -, released⟩
      · rw [refused]
        rfl
      · rw [released] at failed
        cases failed
  | operatorRetry eventId reason =>
      simp only [step] at failed ⊢
      rcases operatorRetry_cases sound eventId reason with
        ⟨refusal, refused⟩ | ⟨record, view, -, -, -, retried⟩
      · rw [refused]
        rfl
      · rw [retried] at failed
        cases failed
  | compareAndSetCheckpoint checkpoint expectedRevision =>
      simp only [step] at failed ⊢
      rcases compareAndSetCheckpoint_cases store checkpoint expectedRevision with
        ⟨refusal, refused⟩ | ⟨-, -, stored⟩
      · rw [refused]
        rfl
      · rw [stored] at failed
        cases failed

/-- Over the end of the calendar, a consistent head is skipped or stops the loop. -/
theorem claimHead_of_outOfRange {owner : Str} {current : Utc} {duration : Int}
    (ownerNe : owner ≠ []) (positive : 0 < duration) (outOfRange : current.add duration = none)
    {record : MutableRecord F} (consistent : record.Consistent) :
    (¬ record.Claimable current ∧ claimHead owner current duration record = .skip) ∨
      claimHead owner current duration record = .fail .overflowError (record.granted none) := by
  have head : HeadStep owner current duration record _ :=
    claimHead_step ownerNe positive consistent.wellFormed
  generalize claimHead owner current duration record = outcome at head ⊢
  cases head with
  | skip held => exact .inl ⟨held, rfl⟩
  | corrupt leased missing =>
      have present := consistent.leased_iff.mp leased
      rw [missing] at present
      cases present
  | overflow => exact .inr rfl
  | claim _ _ _ _ _ expiresEq =>
      rw [outOfRange] at expiresEq
      cases expiresEq

/-- The first record that a loop may lease over the end of the calendar stops it. -/
theorem claimLoop_overflow {owner : Str} (limit : Int) {current : Utc} {duration : Int}
    (ownerNe : owner ≠ []) (positive : 0 < duration) (outOfRange : current.add duration = none)
    (todo : List (Str × MutableRecord F)) (seen : List Str) (claimed : List (OutboxRecord F))
    (records : Dict Str (MutableRecord F)) (consistent : ∀ item ∈ todo, item.2.Consistent)
    {key : Str} {record : MutableRecord F} (visited : VisitedHead todo seen key record)
    (claimable : record.Claimable current) :
    ∃ item ∈ todo, claimLoop owner limit current duration todo seen claimed records =
      (.error .overflowError, records.set item.1 (item.2.granted none)) := by
  induction todo generalizing seen claimed records with
  | nil =>
      obtain ⟨earlier, later, split, -⟩ := visited.split
      simp at split
  | cons item rest ih =>
      simp only [List.forall_mem_cons] at consistent
      have continued : ∀ more, VisitedHead rest more key record →
          ∃ other ∈ item :: rest, claimLoop owner limit current duration rest more claimed records =
            (.error .overflowError, records.set other.1 (other.2.granted none)) := by
        intro more visited
        obtain ⟨other, member, stopped⟩ := ih more claimed records consistent.2 visited
        exact ⟨other, List.mem_cons_of_mem _ member, stopped⟩
      have head := claimHead_of_outOfRange ownerNe positive outOfRange consistent.1
      rw [claimLoop]
      rcases visited.tail with rfl | ⟨later, done⟩
      · rw [if_neg visited.incomplete, if_neg visited.unseen]
        rcases head with ⟨held, -⟩ | stops
        · exact absurd claimable held
        · simp only [stops]
          exact ⟨_, List.mem_cons_self, rfl⟩
      · split
        next => exact continued seen later
        next incomplete =>
          split
          next => exact continued seen later
          next =>
            rcases head with ⟨-, skipped⟩ | stops
            · simp only [skipped]
              apply continued
              refine ⟨later.incomplete, ?_, later.split⟩
              intro inMore
              rcases List.mem_cons.mp inMore with samePartition | inSeen
              · exact incomplete (done samePartition.symm)
              · exact later.unseen inSeen
            · simp only [stops]
              exact ⟨item, List.mem_cons_self, rfl⟩

/-- Every head of a partition is visited by the loop over the sorted records. -/
theorem IsHead.visited {store : InMemoryOutboxStore F} (sound : store.Sound) {key : Str}
    {record : MutableRecord F} (head : store.IsHead record)
    (stored : store.records.get? key = some record) :
    VisitedHead store.ordered [] key record := by
  obtain ⟨earlier, later, split⟩ := List.append_of_mem (mem_ordered.mpr stored)
  refine ⟨head.incomplete, List.not_mem_nil, earlier, later, split, ?_⟩
  rintro ⟨otherKey, other⟩ otherMem samePartition
  have sorted : store.ordered.Pairwise recordLE := List.pairwise_insertionSort _ _
  have nodup := store.nodup_keys_ordered
  have otherStored : store.records.get? otherKey = some other := by
    apply mem_ordered.mp
    rw [split]
    exact List.mem_append_left _ otherMem
  rw [split] at sorted nodup
  have before : other.data.sortKey ≤ record.data.sortKey :=
    (List.pairwise_append.mp sorted).2.2 _ otherMem _ List.mem_cons_self
  rcases before.lt_or_eq with strictly | same
  · exact head.earlier otherStored samePartition strictly
  · have sameKey := sound.key_eq_of_sortKey_eq otherStored stored same
    rw [List.map_append, List.map_cons, List.nodup_append] at nodup
    exact absurd sameKey (nodup.2.2 otherKey (List.mem_map_of_mem otherMem) key
      List.mem_cons_self)

/-- A claim over the end of the calendar raises and changes a record. -/
theorem changed_of_overflows {store : InMemoryOutboxStore F} (sound : store.Sound)
    (consistent : store.AllConsistent) {call : Call F} (overflows : store.Overflows call) :
    ∃ error, (store.step call).1 = .error error ∧ (store.step call).2 ≠ store := by
  cases call with
  | atomicClaim owner limit duration now utcNow =>
      obtain ⟨ownerNe, limitLe, positive, current, time, outOfRange, key, record, stored, head,
        claimable⟩ := overflows
      obtain ⟨item, member, stopped⟩ := claimLoop_overflow limit ownerNe positive outOfRange
        store.ordered [] [] store.records (fun item member => consistent (mem_ordered.mp member))
        (head.visited sound stored) claimable
      have result : store.step (.atomicClaim owner limit duration now utcNow) =
          (.error .overflowError, store.setRecord item.1 (item.2.granted none)) := by
        simp only [step, atomicClaim, if_neg ownerNe, if_neg (not_lt.mpr limitLe),
          if_neg (not_le.mpr positive), time, stopped, Prod.map, Except.map, id, setRecord]
      refine ⟨_, congrArg Prod.fst result, ?_⟩
      rw [result]
      intro same
      have found := congrArg (fun store => store.records.get? item.1) same
      simp only [setRecord, Dict.get?_set_self, mem_ordered.mp member, Option.some.injEq] at found
      exact absurd (congrArg MutableRecord.attemptCount found) (Nat.succ_ne_self _)
  | append => exact overflows.elim
  | complete => exact overflows.elim
  | release => exact overflows.elim
  | operatorRetry => exact overflows.elim
  | compareAndSetCheckpoint => exact overflows.elim

/-- What a run within the calendar keeps. -/
structure Orderly (store : InMemoryOutboxStore F) : Prop where
  sound : store.Sound
  consistent : store.AllConsistent

theorem orderly_init {poisonThreshold : Nat} {positive : 0 < poisonThreshold} :
    (init poisonThreshold positive : InMemoryOutboxStore F).Orderly := by
  constructor
  · exact sound_init
  · intro key record stored
    simp [init] at stored

theorem Orderly.step {store : InMemoryOutboxStore F} (orderly : store.Orderly) {call : Call F}
    (inCalendar : ¬ store.Overflows call) : (store.step call).2.Orderly :=
  ⟨orderly.sound.step call, AllConsistent.step orderly.sound orderly.consistent inCalendar⟩

/-- After any run in which no claim runs over the end of the calendar, a call leaves
the store as it was whenever it raises, exactly when it is not such a claim. -/
theorem failed_call_changes_nothing_iff (poisonThreshold : Nat) (positive : 0 < poisonThreshold)
    (calls : List (Call F))
    (inCalendar : EveryStep (fun store call => ¬ store.Overflows call)
      (init poisonThreshold positive) calls) (call : Call F) :
    let store : InMemoryOutboxStore F := ((init poisonThreshold positive).run calls).1
    (∀ error, (store.step call).1 = .error error → (store.step call).2 = store) ↔
      ¬ store.Overflows call := by
  intro store
  have orderly : store.Orderly :=
    inCalendar.invariant Orderly (fun _ _ met orderly => orderly.step met) orderly_init calls []
      (List.append_nil calls).symm
  constructor
  · intro unchanged overflows
    obtain ⟨error, failed, changed⟩ := changed_of_overflows orderly.sound orderly.consistent overflows
    exact changed (unchanged error failed)
  · intro met error failed
    exact unchanged_of_error orderly.sound orderly.consistent met failed

/-- A worker that does not hold the lease cannot complete the sample event, and
trying changes nothing. -/
theorem failed_call_changes_nothing_iff_unleased :
    let store : InMemoryOutboxStore Empty := ((init 5 (by decide)).run [.append sampleIntent]).1
    let call : Call Empty := .complete (str "order-1-b") (str "worker-1") (some (.number 1))
      sampleIntent.digest (some (.ofUtc ⟨50, by decide⟩)) ⟨0, by decide⟩
    (store.step call).1.isOk = false ∧
      ∀ error, (store.step call).1 = .error error → (store.step call).2 = store :=
  ⟨by decide +kernel, (failed_call_changes_nothing_iff 5 (by decide) [.append sampleIntent]
    ⟨not_false, trivial⟩ _).mpr not_false⟩

/-- A claim in the last microsecond of the calendar raises `OverflowError` and leaves
the sample event LEASED without a lease. -/
theorem failed_claim_counts_attempt :
    ¬ ∀ store : InMemoryOutboxStore Empty, store.Reachable → ∀ call error,
      (store.step call).1 = .error error → (store.step call).2 = store := by
  intro unchanged
  let store : InMemoryOutboxStore Empty := ((init 5 (by decide)).run [.append sampleIntent]).1
  let call := sampleClaim "worker-1" ⟨calendarMicros - 1, by decide⟩
  have raised : (store.step call).1.isOk = false := by decide +kernel
  have attempts : ((store.step call).2.records.get? (str "order-1-b")).map
      (fun record => (record.attemptCount, record.lease)) = some (1, none) := by decide +kernel
  cases result : (store.step call).1 with
  | ok reply =>
      rw [result] at raised
      cases raised
  | error error =>
      rw [unchanged store ⟨5, by decide, _, rfl⟩ call error result] at attempts
      exact absurd attempts (by decide +kernel)

/-! ## The life of a record -/

/-- The state of a run within the calendar, with its history. -/
structure Tracked (store : InMemoryOutboxStore F) (history : List (Event F)) : Prop where
  orderly : store.Orderly
  absent : ∀ {key}, store.records.get? key = none → history.countP (Event.claims key) = 0
  attempts : ∀ {key record}, store.records.get? key = some record →
    record.attemptCount = history.countP (Event.claims key)

/-- One call counts one attempt for each record that it returns. -/
theorem RecordStep.attempts {store : InMemoryOutboxStore F} {key : Str} {event : Event F}
    {before after : Option (MutableRecord F)} (step : RecordStep store key event before after)
    (keyed : ∀ record, before = some record → record.data.eventId = key)
    (unchanged : ∀ error, event.2 = .error error → after = before) :
    (after.elim 0 (·.attemptCount)) =
      before.elim 0 (·.attemptCount) + (if event.claims key then 1 else 0) := by
  cases step with
  | frame _ _ _ _ _ notReturned =>
      have notClaimed : ¬ event.claims key = true := by
        simpa [Event.claims] using notReturned
      rw [if_neg notClaimed, Nat.add_zero]
  | append => rfl
  | claim _ _ _ _ _ _ result record lease view _ _ step resultEq =>
      have returned : view ∈ Event.returned _ := resultEq.resolve_left fun failed => by
        have same := Option.some.inj (unchanged _ failed)
        exact absurd (congrArg MutableRecord.attemptCount same) (Nat.succ_ne_self _)
      have viewKey : view.data.eventId = key := by
        cases step with
        | claim _ _ _ _ _ _ _ taken =>
            rw [(MutableRecord.snapshot_eq_ok_iff.mp taken).1]
            exact keyed record rfl
      have claimed : Event.claims key _ = true :=
        List.any_eq_true.mpr ⟨view, returned, decide_eq_true viewKey⟩
      rw [if_pos claimed]
      rfl
  | overflow _ _ _ _ _ _ record =>
      have same := Option.some.inj (unchanged _ rfl)
      exact absurd (congrArg MutableRecord.attemptCount same) (Nat.succ_ne_self _)
  | complete => rfl
  | release => rfl
  | retry => rfl

theorem Tracked.step {store : InMemoryOutboxStore F} {history : List (Event F)} {call : Call F}
    (inRange : call.InRange) (tracked : Tracked store history) :
    Tracked (store.step call).2 (history ++ [(call, (store.step call).1)]) := by
  have orderly := tracked.orderly
  have inCalendar : ¬ store.Overflows call := not_overflows_of_inRange inRange
  have counted : ∀ key, ((store.step call).2.records.get? key).elim 0 (·.attemptCount) =
      (history ++ [(call, (store.step call).1)]).countP (Event.claims key) := by
    intro key
    have moved := (step_record orderly.sound call key).attempts
      (fun _ => orderly.sound.keyed) (fun error failed => by
        rw [unchanged_of_error orderly.sound orderly.consistent inCalendar failed])
    rw [moved, List.countP_append, List.countP_singleton]
    congr 1
    cases stored : store.records.get? key with
    | none => exact (tracked.absent stored).symm
    | some record => exact tracked.attempts stored
  constructor
  · exact orderly.step inCalendar
  · intro key missing
    rw [← counted, missing]
    rfl
  · intro key record stored
    rw [← counted, stored]
    rfl

/-- A record stays with its data, and stays as it is once it is completed. -/
theorem run_keeps {store : InMemoryOutboxStore F} (sound : store.Sound) (calls : List (Call F))
    {key : Str} {record : MutableRecord F} (stored : store.records.get? key = some record) :
    ∃ after, (store.run calls).1.records.get? key = some after ∧ after.data = record.data ∧
      (record.state = .completed → after = record) := by
  induction calls generalizing store record with
  | nil => exact ⟨record, stored, rfl, fun _ => rfl⟩
  | cons call rest ih =>
      have moved := step_record sound call key
      rw [stored] at moved
      obtain ⟨next, nextStored, sameData, sameRecord⟩ : ∃ next,
          (store.step call).2.records.get? key = some next ∧ next.data = record.data ∧
            (record.state = .completed → next = record) := by
        have completed := moved.of_completed rfl
        generalize (store.step call).2.records.get? key = after at moved completed ⊢
        generalize (call, (store.step call).1) = event at moved
        have unchanged : ∀ next, after = some next → record.state = .completed → next = record := by
          rintro next rfl isCompleted
          exact Option.some.inj (completed isCompleted)
        cases moved with
        | frame => exact ⟨record, rfl, rfl, fun _ => rfl⟩
        | claim => exact ⟨_, rfl, rfl, unchanged _ rfl⟩
        | overflow => exact ⟨_, rfl, rfl, unchanged _ rfl⟩
        | complete => exact ⟨_, rfl, rfl, unchanged _ rfl⟩
        | release => exact ⟨_, rfl, rfl, unchanged _ rfl⟩
        | retry => exact ⟨_, rfl, rfl, unchanged _ rfl⟩
      obtain ⟨after, afterStored, afterData, afterSame⟩ := ih (sound.step call) nextStored
      refine ⟨after, afterStored, afterData.trans sameData, ?_⟩
      intro isCompleted
      have same := sameRecord isCompleted
      rw [afterSame (same ▸ isCompleted), same]

/-- The life of a record, over every run of a new store within the calendar.  Every
record is stored under its event id, counts the claims that returned it, is PENDING
exactly when none did, and has the fields of its state.  It keeps its data, stays
COMPLETED, and leaves QUARANTINED only by an operator retry. -/
theorem record_lifecycle (poisonThreshold : Nat) (positive : 0 < poisonThreshold)
    (calls : List (Call F)) (inRange : ∀ call ∈ calls, call.InRange) :
    let initial : InMemoryOutboxStore F := init poisonThreshold positive
    (∀ key record, (initial.run calls).1.records.get? key = some record →
      record.data.eventId = key ∧
      record.attemptCount = (initial.run calls).2.countP (Event.claims key) ∧
      (record.state = .pending ↔ ∀ event ∈ (initial.run calls).2, event.claims key = false) ∧
      record.Consistent ∧ ∃ view, record.snapshot = .ok view) ∧
    ∀ first last, calls = first ++ last → ∀ key record,
      (initial.run first).1.records.get? key = some record →
      ∃ after, (initial.run calls).1.records.get? key = some after ∧ after.data = record.data ∧
        (record.state = .completed → after.state = .completed) ∧
        (record.state = .quarantined → after.state = .quarantined ∨
          ∃ event ∈ ((initial.run first).1.run last).2, event.retries key) := by
  intro initial
  have tracked : Tracked (initial.run calls).1 (initial.run calls).2 := by
    apply history_induction (fun _ _ _ => Tracked.step) calls inRange
    refine ⟨orderly_init, fun _ => rfl, ?_⟩
    intro key record stored
    simp [initial, init] at stored
  constructor
  · intro key record stored
    have consistent := tracked.orderly.consistent stored
    refine ⟨tracked.orderly.sound.keyed stored, tracked.attempts stored, ?_, consistent,
      MutableRecord.snapshot_of_iff record consistent.leased_iff⟩
    rw [consistent.pending_iff, tracked.attempts stored, List.countP_eq_zero]
    simp only [Bool.not_eq_true]
  · rintro first last rfl key record stored
    have sound : (initial.run first).1.Sound := sound_init.run first
    obtain ⟨after, afterStored, sameData, sameRecord⟩ := run_keeps sound last stored
    rw [run_append]
    refine ⟨after, afterStored, sameData, ?_, ?_⟩
    · intro isCompleted
      rw [sameRecord isCompleted, isCompleted]
    · intro quarantined
      rcases run_survives (fun _ call => IsQuarantined.step call) last sound
        ⟨record, stored, quarantined⟩ with ⟨still, stillStored, isQuarantined⟩ | retried
      · rw [afterStored] at stillStored
        cases stillStored
        exact .inl isQuarantined
      · exact .inr retried

/-- The sample event is claimed twice and completed. -/
theorem record_lifecycle_completed :
    let calls : List (Call Empty) := [.append sampleIntent, sampleClaim "worker-1" ⟨20, by decide⟩,
      sampleRelease, sampleClaim "worker-2" ⟨40, by decide⟩,
      .complete (str "order-1-b") (str "worker-2") (some (.number 1)) sampleIntent.digest
        (some (.ofUtc ⟨50, by decide⟩)) ⟨0, by decide⟩]
    ∃ record, ((init 5 (by decide)).run calls).1.records.get? (str "order-1-b") = some record ∧
      record.state = .completed ∧ record.Consistent ∧
      2 = ((init 5 (by decide)).run calls).2.countP (Event.claims (str "order-1-b")) := by
  intro calls
  have inRange : ∀ call ∈ calls, call.InRange := by
    have claims : ∀ owner micros, micros.val < 100 → (sampleClaim owner micros).InRange := by
      intro owner micros early current time outOfRange
      rw [currentTime_ofUtc] at time
      cases time
      have inCalendar : (0 : Int) ≤ micros.val + 100 ∧ (micros.val + 100 : Int) < calendarMicros := by
        have calendar : 200 ≤ calendarMicros := by decide
        omega
      rw [Utc.add, Utc.ofInt_of_inRange inCalendar] at outOfRange
      cases outOfRange
    simp only [calls, List.mem_cons, List.not_mem_nil, or_false, forall_eq_or_imp, forall_eq]
    exact ⟨trivial, claims _ _ (by decide), trivial, claims _ _ (by decide), trivial⟩
  have found : (((init 5 (by decide)).run calls).1.records.get? (str "order-1-b")).map
      (fun record => (record.state, record.attemptCount)) = some (.completed, 2) := by
    decide +kernel
  obtain ⟨record, stored, fields⟩ := Option.map_eq_some_iff.mp found
  obtain ⟨-, attempts, -, consistent, -⟩ :=
    (record_lifecycle 5 (by decide) calls inRange).1 _ record stored
  obtain ⟨isCompleted, twice⟩ := Prod.mk.inj fields
  exact ⟨record, stored, isCompleted, consistent, twice ▸ attempts⟩

end InMemoryOutboxStore

end DataLifecycle.Outbox
