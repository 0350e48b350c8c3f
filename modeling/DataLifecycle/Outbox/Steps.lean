import DataLifecycle.Outbox.Store

/-!
# What one call does to one record

Each operation of the store is inverted once.  `RecordStep` lists every way in
which a call can move the record of one event, together with the checks that
the call made, and `step_record` shows that there is no other.  The invariants
of later modules are case analyses on it.
-/

namespace DataLifecycle.Outbox

open Python

variable {F : Type} [FloatText F]

namespace MutableRecord

/-- Only a LEASED record holds a lease. -/
def WellFormed (record : MutableRecord F) : Prop := record.lease.isSome → record.state = .leased

/-- A claim at the given time may lease the record. -/
def Claimable (record : MutableRecord F) (current : Utc) : Prop :=
  record.state = .pending ∨ record.state = .retryable ∨
    (record.state = .leased ∧ ∃ lease, record.lease = some lease ∧ lease.expiresAt ≤ current)

/-- The record after a claim: LEASED, with one more attempt. -/
def granted (record : MutableRecord F) (lease : Option OutboxLease) : MutableRecord F :=
  { record with
    attemptCount := record.attemptCount + 1, failure := none, state := .leased, lease := lease }

/-- The record after its completion. -/
def completed (record : MutableRecord F) (targetFingerprint : Str) (current : Utc) :
    MutableRecord F :=
  { record with
    state := .completed, lease := none, failure := none,
    targetFingerprint := some targetFingerprint, completedAt := some current }

/-- The record after an operator returned it to retryable state. -/
def retried (record : MutableRecord F) : MutableRecord F :=
  { record with state := .retryable, failure := none }

theorem WellFormed.lease_eq_none {record : MutableRecord F} (wellFormed : record.WellFormed)
    (notLeased : record.state ≠ .leased) : record.lease = none := by
  cases leaseEq : record.lease with
  | none => rfl
  | some lease => exact absurd (wellFormed (by simp [leaseEq])) notLeased

theorem Claimable.ne_completed {record : MutableRecord F} {current : Utc}
    (claimable : record.Claimable current) : record.state ≠ .completed := by
  rcases claimable with state | state | ⟨state, -⟩ <;> simp [state]

theorem Claimable.ne_quarantined {record : MutableRecord F} {current : Utc}
    (claimable : record.Claimable current) : record.state ≠ .quarantined := by
  rcases claimable with state | state | ⟨state, -⟩ <;> simp [state]

/-- A LEASED record is claimable only at or after the expiry of its lease. -/
theorem Claimable.expired {record : MutableRecord F} {current : Utc}
    (claimable : record.Claimable current) (leased : record.state = .leased) :
    ∃ lease, record.lease = some lease ∧ lease.expiresAt ≤ current := by
  rcases claimable with state | state | ⟨-, expired⟩
  · simp [state] at leased
  · simp [state] at leased
  · exact expired

theorem snapshot_eq_ok_iff {record : MutableRecord F} {view : OutboxRecord F} :
    record.snapshot = .ok view ↔
      view.data = record.data ∧ view.state = record.state ∧
        view.attemptCount = record.attemptCount ∧ view.lease = record.lease ∧
        view.failure = record.failure ∧ view.targetFingerprint = record.targetFingerprint ∧
        view.completedAt = record.completedAt := by
  unfold snapshot
  rcases record with ⟨data, state, attemptCount, lease, failure, targetFingerprint, completedAt⟩
  rcases view with ⟨viewData, viewState, viewAttempts, viewLease, viewFailure, viewFingerprint,
    viewCompleted, viewIff⟩
  constructor
  · intro taken
    split at taken
    · cases taken
      simp
    · contradiction
  · rintro ⟨rfl, rfl, rfl, rfl, rfl, rfl, rfl⟩
    rw [dif_pos viewIff]

theorem snapshot_of_iff (record : MutableRecord F)
    (leaseIff : record.state = .leased ↔ record.lease.isSome) :
    ∃ view, record.snapshot = .ok view := by
  unfold snapshot
  rw [dif_pos leaseIff]
  exact ⟨_, rfl⟩

end MutableRecord

namespace InMemoryOutboxStore

/-! ## The head of a partition -/

/-- The possible decisions about the first incomplete record of a partition. -/
inductive HeadStep (owner : Str) (current : Utc) (duration : Int) (record : MutableRecord F) :
    HeadOutcome F → Prop
  | skip (held : ¬ record.Claimable current) : HeadStep owner current duration record .skip
  | corrupt (leased : record.state = .leased) (missing : record.lease = none) :
      HeadStep owner current duration record (.fail .assertionError record)
  | overflow (claimable : record.Claimable current) (outOfRange : current.add duration = none) :
      HeadStep owner current duration record (.fail .overflowError (record.granted none))
  | claim (lease : OutboxLease) (view : OutboxRecord F) (claimable : record.Claimable current)
      (owner_eq : lease.owner = owner) (acquired_eq : lease.acquiredAt = current)
      (expires_eq : current.add duration = some lease.expiresAt)
      (attempt_eq : lease.attempt = record.attemptCount + 1)
      (snapshot_eq : (record.granted (some lease)).snapshot = .ok view) :
      HeadStep owner current duration record (.claim (record.granted (some lease)) view)

/-- Leasing either overflows the calendar or grants the lease; the checks on the
lease and on the snapshot cannot fail here. -/
theorem grantLease_cases {owner : Str} {current : Utc} {duration : Int} (ownerNe : owner ≠ [])
    (positive : 0 < duration) (record : MutableRecord F) (leaseNone : record.lease = none) :
    (current.add duration = none ∧
      grantLease owner current duration record = .fail .overflowError (record.granted none)) ∨
    ∃ lease view, lease.owner = owner ∧ lease.acquiredAt = current ∧
      current.add duration = some lease.expiresAt ∧ lease.attempt = record.attemptCount + 1 ∧
      (record.granted (some lease)).snapshot = .ok view ∧
      grantLease owner current duration record = .claim (record.granted (some lease)) view := by
  cases added : current.add duration with
  | none =>
      left
      refine ⟨rfl, ?_⟩
      simp only [grantLease, added, MutableRecord.granted, leaseNone]
  | some expiresAt =>
      right
      have later := Utc.lt_of_add_eq_some positive added
      let lease : OutboxLease :=
        ⟨owner, current, expiresAt, record.attemptCount + 1, ownerNe, Nat.succ_pos _, later⟩
      obtain ⟨view, taken⟩ := MutableRecord.snapshot_of_iff (record.granted (some lease))
        (by simp [MutableRecord.granted])
      refine ⟨lease, view, rfl, rfl, rfl, rfl, taken, ?_⟩
      have made : OutboxLease.make owner current expiresAt (record.attemptCount + 1) = .ok lease := by
        unfold OutboxLease.make
        rw [dif_pos ownerNe, dif_pos (Nat.succ_pos _), dif_pos later]
      have takenEq : ({ record with
          attemptCount := record.attemptCount + 1, failure := none, state := .leased,
          lease := some lease } : MutableRecord F).snapshot = .ok view := taken
      simp only [grantLease, added, made, takenEq, MutableRecord.granted]

theorem claimHead_step {owner : Str} {current : Utc} {duration : Int} (ownerNe : owner ≠ [])
    (positive : 0 < duration) {record : MutableRecord F} (wellFormed : record.WellFormed) :
    HeadStep owner current duration record (claimHead owner current duration record) := by
  -- every claimable state leases the record with its stale lease dropped
  have grant : ∀ fresh : MutableRecord F, record.Claimable current → fresh.lease = none →
      (∀ lease, fresh.granted lease = record.granted lease) →
      fresh.attemptCount = record.attemptCount →
      HeadStep owner current duration record (grantLease owner current duration fresh) := by
    intro fresh claimable leaseNone grantedEq attemptEq
    rcases grantLease_cases ownerNe positive fresh leaseNone with
      ⟨outOfRange, granted⟩ | ⟨lease, view, ownerEq, acquiredEq, expiresEq, attempt, taken, granted⟩
    · rw [granted, grantedEq]
      exact .overflow claimable outOfRange
    · rw [granted, grantedEq]
      rw [grantedEq] at taken
      rw [attemptEq] at attempt
      exact .claim lease view claimable ownerEq acquiredEq expiresEq attempt taken
  unfold claimHead
  cases stateEq : record.state with
  | pending =>
      exact grant record (.inl stateEq) (wellFormed.lease_eq_none (by simp [stateEq]))
        (fun _ => rfl) rfl
  | retryable =>
      exact grant record (.inr (.inl stateEq)) (wellFormed.lease_eq_none (by simp [stateEq]))
        (fun _ => rfl) rfl
  | leased =>
      cases leaseEq : record.lease with
      | none => exact .corrupt stateEq leaseEq
      | some lease =>
          by_cases held : current < lease.expiresAt
          · simp only [held, if_true]
            apply HeadStep.skip
            intro claimable
            obtain ⟨other, otherEq, expired⟩ := claimable.expired stateEq
            rw [leaseEq] at otherEq
            cases otherEq
            exact absurd held (not_lt.mpr expired)
          · simp only [held, if_false]
            apply grant
            · exact .inr (.inr ⟨stateEq, lease, leaseEq, not_lt.mp held⟩)
            · rfl
            · intro _
              rfl
            · rfl
  | completed => exact .skip fun claimable => claimable.ne_completed stateEq
  | quarantined => exact .skip fun claimable => claimable.ne_quarantined stateEq

/-! ## The claim loop -/

/-- The loop visits the item at the given key as the first incomplete record of
its partition. -/
structure VisitedHead (todo : List (Str × MutableRecord F)) (seen : List Str) (key : Str)
    (record : MutableRecord F) : Prop where
  incomplete : record.state ≠ .completed
  unseen : record.data.partitionKey ∉ seen
  split : ∃ earlier later, todo = earlier ++ (key, record) :: later ∧
    ∀ item ∈ earlier, item.2.data.partitionKey = record.data.partitionKey →
      item.2.state = .completed

theorem VisitedHead.cons {todo : List (Str × MutableRecord F)} {seen : List Str} {key : Str}
    {record : MutableRecord F} {item : Str × MutableRecord F}
    (head : VisitedHead todo seen key record)
    (done : item.2.data.partitionKey = record.data.partitionKey → item.2.state = .completed) :
    VisitedHead (item :: todo) seen key record := by
  obtain ⟨earlier, later, split, completed⟩ := head.split
  refine ⟨head.incomplete, head.unseen, item :: earlier, later, by rw [split]; rfl, ?_⟩
  intro other otherMem
  rcases List.mem_cons.mp otherMem with rfl | inEarlier
  · exact done
  · exact completed other inEarlier

theorem VisitedHead.mono {todo : List (Str × MutableRecord F)} {seen more : List Str} {key : Str}
    {record : MutableRecord F} (head : VisitedHead todo more key record)
    (subset : ∀ partition ∈ seen, partition ∈ more) : VisitedHead todo seen key record :=
  ⟨head.incomplete, fun inSeen => head.unseen (subset _ inSeen), head.split⟩

/-- The first record is the visited head, or the head is visited behind it. -/
theorem VisitedHead.tail {todo : List (Str × MutableRecord F)} {seen : List Str} {key : Str}
    {record : MutableRecord F} {item : Str × MutableRecord F}
    (head : VisitedHead (item :: todo) seen key record) :
    item = (key, record) ∨ VisitedHead todo seen key record ∧
      (item.2.data.partitionKey = record.data.partitionKey → item.2.state = .completed) := by
  obtain ⟨earlier, later, split, completed⟩ := head.split
  cases earlier with
  | nil =>
      left
      exact (List.cons.inj split).1
  | cons first earlier =>
      right
      obtain ⟨rfl, splitRest⟩ := List.cons.inj split
      rw [List.forall_mem_cons] at completed
      exact ⟨⟨head.incomplete, head.unseen, earlier, later, splitRest, completed.2⟩, completed.1⟩

/-- A loop over one more record visits the same heads, when that record is completed
or its partition has been seen. -/
theorem VisitedHead.cons_of_mem {todo : List (Str × MutableRecord F)} {seen more : List Str}
    {key : Str} {record : MutableRecord F} {item : Str × MutableRecord F}
    (head : VisitedHead todo more key record) (subset : ∀ partition ∈ seen, partition ∈ more)
    (done : item.2.data.partitionKey ∈ more ∨ item.2.state = .completed) :
    VisitedHead (item :: todo) seen key record := by
  apply (head.mono subset).cons
  intro samePartition
  rcases done with inMore | completed
  · rw [samePartition] at inMore
    exact absurd inMore head.unseen
  · exact completed

/-- What the claim loop does to the record at one key. -/
inductive LoopStep (owner : Str) (current : Utc) (duration : Int)
    (todo : List (Str × MutableRecord F)) (seen : List Str) (claimed : List (OutboxRecord F))
    (key : Str) (before : Option (MutableRecord F)) :
    Except Exc (List (OutboxRecord F)) → Option (MutableRecord F) → Prop
  | frame (result : Except Exc (List (OutboxRecord F)))
      (quiet : ∀ views, result = .ok views → ∀ view ∈ views,
        view ∈ claimed ∨ view.data.eventId ≠ key) :
      LoopStep owner current duration todo seen claimed key before result before
  | claim (record : MutableRecord F) (lease : OutboxLease) (view : OutboxRecord F)
      (result : Except Exc (List (OutboxRecord F))) (stored : before = some record)
      (visited : VisitedHead todo seen key record)
      (head : HeadStep owner current duration record (.claim (record.granted (some lease)) view))
      (reported : ∀ views, result = .ok views → view ∈ views) :
      LoopStep owner current duration todo seen claimed key before result
        (some (record.granted (some lease)))
  | overflow (record : MutableRecord F) (stored : before = some record)
      (visited : VisitedHead todo seen key record)
      (claimable : record.Claimable current) (outOfRange : current.add duration = none) :
      LoopStep owner current duration todo seen claimed key before (.error .overflowError)
        (some (record.granted none))

/-- A loop over fewer records with more partitions seen and more records claimed
does nothing else. -/
theorem LoopStep.cons {owner : Str} {current : Utc} {duration : Int}
    {todo : List (Str × MutableRecord F)} {seen more : List Str}
    {claimed reported : List (OutboxRecord F)} {key : Str} {before after : Option (MutableRecord F)}
    {result : Except Exc (List (OutboxRecord F))} {item : Str × MutableRecord F}
    (step : LoopStep owner current duration todo more reported key before result after)
    (subset : ∀ partition ∈ seen, partition ∈ more)
    (done : item.2.data.partitionKey ∈ more ∨ item.2.state = .completed)
    (fresh : ∀ view ∈ reported, view ∈ claimed ∨ view.data.eventId ≠ key) :
    LoopStep owner current duration (item :: todo) seen claimed key before result after := by
  cases step with
  | frame _ quiet =>
      apply LoopStep.frame
      intro views resultEq view viewMem
      rcases quiet views resultEq view viewMem with inReported | other
      · exact fresh view inReported
      · exact .inr other
  | claim record lease view _ stored visited head reported =>
      exact .claim record lease view result stored (visited.cons_of_mem subset done) head reported
  | overflow record stored visited claimable outOfRange =>
      exact .overflow record stored (visited.cons_of_mem subset done) claimable outOfRange

theorem claimLoop_reports {owner : Str} {limit : Int} {current : Utc} {duration : Int}
    (todo : List (Str × MutableRecord F)) (seen : List Str) (claimed : List (OutboxRecord F))
    (records : Dict Str (MutableRecord F)) {views : List (OutboxRecord F)}
    (finished : (claimLoop owner limit current duration todo seen claimed records).1 = .ok views) :
    ∀ view ∈ claimed, view ∈ views := by
  induction todo generalizing seen claimed records with
  | nil =>
      cases finished
      exact fun view viewMem => viewMem
  | cons item rest ih =>
      rw [claimLoop] at finished
      split at finished
      · exact ih _ _ _ finished
      · split at finished
        · exact ih _ _ _ finished
        · split at finished
          next => exact ih _ _ _ finished
          next => cases finished
          next leased snapshot _ =>
            intro view viewMem
            have added : view ∈ claimed ++ [snapshot] := List.mem_append_left _ viewMem
            split at finished
            · cases finished
              exact added
            · exact ih _ _ _ finished view added

/-- The loop touches only the keys of the records that it visits. -/
theorem LoopStep.after_eq_of_notMem {owner : Str} {current : Utc} {duration : Int}
    {todo : List (Str × MutableRecord F)} {seen : List Str} {claimed : List (OutboxRecord F)}
    {key : Str} {before after : Option (MutableRecord F)}
    {result : Except Exc (List (OutboxRecord F))}
    (step : LoopStep owner current duration todo seen claimed key before result after)
    (absent : key ∉ todo.map Prod.fst) : after = before := by
  have notVisited : ∀ record, ¬ VisitedHead todo seen key record := by
    rintro record ⟨-, -, earlier, later, split, -⟩
    apply absent
    rw [split]
    simp
  cases step with
  | frame => rfl
  | claim record _ _ _ _ visited => exact absurd visited (notVisited record)
  | overflow record _ visited => exact absurd visited (notVisited record)

/-- The claim loop moves a record only as the first incomplete record of its
partition. -/
theorem claimLoop_step {owner : Str} (limit : Int) (current : Utc) {duration : Int}
    (ownerNe : owner ≠ []) (positive : 0 < duration) (todo : List (Str × MutableRecord F))
    (seen : List Str) (claimed : List (OutboxRecord F)) (records : Dict Str (MutableRecord F))
    (nodup : (todo.map Prod.fst).Nodup)
    (stored : ∀ item ∈ todo, records.get? item.1 = some item.2)
    (keyed : ∀ item ∈ todo, item.2.data.eventId = item.1)
    (wellFormed : ∀ item ∈ todo, item.2.WellFormed) (key : Str) :
    LoopStep owner current duration todo seen claimed key (records.get? key)
      (claimLoop owner limit current duration todo seen claimed records).1
      ((claimLoop owner limit current duration todo seen claimed records).2.get? key) := by
  induction todo generalizing seen claimed records with
  | nil =>
      apply LoopStep.frame
      rintro views ⟨⟩ view viewMem
      exact .inl viewMem
  | cons item rest ih =>
      obtain ⟨itemKey, record⟩ := item
      simp only [List.map_cons, List.nodup_cons] at nodup
      simp only [List.forall_mem_cons] at stored keyed wellFormed
      have skip : ∀ more : List Str, (∀ partition ∈ seen, partition ∈ more) →
          (record.data.partitionKey ∈ more ∨ record.state = .completed) →
          LoopStep owner current duration ((itemKey, record) :: rest) seen claimed key
            (records.get? key)
            (claimLoop owner limit current duration rest more claimed records).1
            ((claimLoop owner limit current duration rest more claimed records).2.get? key) :=
        fun more subset done =>
          (ih more claimed records nodup.2 stored.2 keyed.2 wellFormed.2).cons subset done
            fun view viewMem => .inl viewMem
      rw [claimLoop]
      split
      next completed => exact skip seen (fun _ inSeen => inSeen) (.inr completed)
      next incomplete =>
        split
        next inSeen => exact skip seen (fun _ member => member) (.inl inSeen)
        next unseen =>
          have visited : VisitedHead ((itemKey, record) :: rest) seen itemKey record :=
            ⟨incomplete, unseen, [], rest, rfl, by simp⟩
          have head : HeadStep owner current duration record _ :=
            claimHead_step ownerNe positive wellFormed.1
          split
          next =>
            exact skip _ (fun _ member => List.mem_cons_of_mem _ member)
              (.inl List.mem_cons_self)
          next error failed headEq =>
            rw [headEq] at head
            by_cases same : itemKey = key
            · subst key
              rw [Dict.get?_set_self, stored.1]
              cases head with
              | corrupt => exact .frame _ (by simp)
              | overflow claimable outOfRange =>
                  exact .overflow record rfl visited claimable outOfRange
            · rw [Dict.get?_set_of_ne _ _ same]
              exact .frame _ (by simp)
          next leased view headEq =>
            rw [headEq] at head
            cases head with
            | claim lease _ claimable ownerEq acquiredEq expiresEq attemptEq taken =>
                have head : HeadStep owner current duration record
                    (.claim (record.granted (some lease)) view) :=
                  .claim lease view claimable ownerEq acquiredEq expiresEq attemptEq taken
                have viewKey : view.data.eventId = itemKey := by
                  rw [(MutableRecord.snapshot_eq_ok_iff.mp taken).1]
                  exact keyed.1
                have storedRest : ∀ other ∈ rest,
                    (records.set itemKey (record.granted (some lease))).get? other.1
                      = some other.2 := by
                  intro other otherMem
                  rw [Dict.get?_set_of_ne]
                  · exact stored.2 other otherMem
                  · rintro rfl
                    exact nodup.1 (List.mem_map_of_mem otherMem)
                by_cases same : itemKey = key
                · subst key
                  rw [stored.1]
                  split
                  · rw [Dict.get?_set_self]
                    apply LoopStep.claim record lease view _ rfl visited head
                    rintro views ⟨⟩
                    simp
                  · have step := ih (record.data.partitionKey :: seen) (claimed ++ [view])
                      (records.set itemKey (record.granted (some lease))) nodup.2 storedRest
                      keyed.2 wellFormed.2
                    rw [step.after_eq_of_notMem nodup.1, Dict.get?_set_self]
                    apply LoopStep.claim record lease view _ rfl visited head
                    intro views finished
                    exact claimLoop_reports rest _ _ _ finished view (by simp)
                · split
                  · rw [Dict.get?_set_of_ne _ _ same]
                    apply LoopStep.frame
                    rintro views ⟨⟩ other otherMem
                    rcases List.mem_append.mp otherMem with before | new
                    · exact .inl before
                    · rw [List.mem_singleton.mp new, viewKey]
                      exact .inr same
                  · have step := ih (record.data.partitionKey :: seen) (claimed ++ [view])
                      (records.set itemKey (record.granted (some lease))) nodup.2 storedRest
                      keyed.2 wellFormed.2
                    rw [Dict.get?_set_of_ne _ _ same] at step
                    apply step.cons (fun _ member => List.mem_cons_of_mem _ member)
                      (.inl List.mem_cons_self)
                    intro other otherMem
                    rcases List.mem_append.mp otherMem with before | new
                    · exact .inl before
                    · rw [List.mem_singleton.mp new, viewKey]
                      exact .inr same

/-- The loop fails at a record that is LEASED without a lease, or at a head that it
cannot lease within the calendar. -/
theorem claimLoop_error {owner : Str} (limit : Int) (current : Utc) {duration : Int}
    (ownerNe : owner ≠ []) (positive : 0 < duration) (todo : List (Str × MutableRecord F))
    (seen : List Str) (claimed : List (OutboxRecord F)) (records : Dict Str (MutableRecord F))
    (wellFormed : ∀ item ∈ todo, item.2.WellFormed) (error : Exc)
    (failed : (claimLoop owner limit current duration todo seen claimed records).1 = .error error) :
    (error = .assertionError ∧ ∃ item ∈ todo, item.2.state = .leased ∧ item.2.lease = none) ∨
      (current.add duration = none ∧ ∃ key record, VisitedHead todo seen key record ∧
        record.Claimable current) := by
  induction todo generalizing seen claimed records with
  | nil => cases failed
  | cons item rest ih =>
      simp only [List.forall_mem_cons] at wellFormed
      have continued : ∀ more claimed records, (∀ partition ∈ seen, partition ∈ more) →
          (item.2.data.partitionKey ∈ more ∨ item.2.state = .completed) →
          (claimLoop owner limit current duration rest more claimed records).1 = .error error →
          (error = .assertionError ∧
            ∃ other ∈ item :: rest, other.2.state = .leased ∧ other.2.lease = none) ∨
            (current.add duration = none ∧ ∃ key record,
              VisitedHead (item :: rest) seen key record ∧ record.Claimable current) := by
        intro more claimed records subset done failed
        rcases ih more claimed records wellFormed.2 failed with
          ⟨isAssertion, other, member, corrupt⟩ | ⟨outOfRange, key, record, visited, claimable⟩
        · exact .inl ⟨isAssertion, other, List.mem_cons_of_mem _ member, corrupt⟩
        · exact .inr ⟨outOfRange, key, record, visited.cons_of_mem subset done, claimable⟩
      have head : HeadStep owner current duration item.2 _ :=
        claimHead_step ownerNe positive wellFormed.1
      rw [claimLoop] at failed
      split at failed
      next completed => exact continued _ _ _ (fun _ member => member) (.inr completed) failed
      next incomplete =>
        split at failed
        next inSeen => exact continued _ _ _ (fun _ member => member) (.inl inSeen) failed
        next unseen =>
          have more : ∀ claimed records, (claimLoop owner limit current duration rest
              (item.2.data.partitionKey :: seen) claimed records).1 = .error error → _ :=
            fun claimed records => continued _ claimed records
              (fun _ member => List.mem_cons_of_mem _ member) (.inl List.mem_cons_self)
          split at failed
          next => exact more _ _ failed
          next headEq =>
            rw [headEq] at head
            cases failed
            cases head with
            | corrupt leased missing =>
                exact .inl ⟨rfl, item, List.mem_cons_self, leased, missing⟩
            | overflow claimable outOfRange =>
                exact .inr ⟨outOfRange, item.1, item.2,
                  ⟨incomplete, unseen, [], rest, rfl, by simp⟩, claimable⟩
          next =>
            split at failed
            · cases failed
            · exact more _ _ failed

/-! ## Records, events and steps -/

/-- Every record is stored under its event id, and only LEASED records hold a
lease. -/
structure Sound (store : InMemoryOutboxStore F) : Prop where
  keyed : ∀ {key record}, store.records.get? key = some record → record.data.eventId = key
  wellFormed : ∀ {key record}, store.records.get? key = some record → record.WellFormed

/-- The record is the first incomplete one of its partition. -/
structure IsHead (store : InMemoryOutboxStore F) (record : MutableRecord F) : Prop where
  incomplete : record.state ≠ .completed
  earlier : ∀ {key other}, store.records.get? key = some other →
    other.data.partitionKey = record.data.partitionKey →
    other.data.sortKey < record.data.sortKey → other.state = .completed

instance : Std.Total (recordLE (F := F)) :=
  ⟨fun first second => le_total first.2.data.sortKey second.2.data.sortKey⟩

instance : IsTrans (Str × MutableRecord F) recordLE :=
  ⟨fun _ _ _ => le_trans⟩

theorem mem_ordered {store : InMemoryOutboxStore F} {key : Str} {record : MutableRecord F} :
    (key, record) ∈ store.ordered ↔ store.records.get? key = some record := by
  rw [Dict.get?_eq_some_iff, ordered]
  exact (List.perm_insertionSort _ _).mem_iff

theorem nodup_keys_ordered (store : InMemoryOutboxStore F) :
    (store.ordered.map Prod.fst).Nodup :=
  ((List.perm_insertionSort recordLE store.records.items).map Prod.fst).nodup_iff.mpr
    store.records.nodup

/-- The loop over the sorted records visits exactly heads of partitions. -/
theorem VisitedHead.isHead {store : InMemoryOutboxStore F} {key : Str} {record : MutableRecord F}
    (visited : VisitedHead store.ordered [] key record) : store.IsHead record := by
  obtain ⟨earlier, later, split, completed⟩ := visited.split
  refine ⟨visited.incomplete, ?_⟩
  intro otherKey other stored samePartition before
  have sorted : store.ordered.Pairwise recordLE := List.pairwise_insertionSort _ _
  have member := mem_ordered.mpr stored
  rw [split] at sorted member
  rcases List.mem_append.mp member with inEarlier | inLater
  · exact completed _ inEarlier samePartition
  · rcases List.mem_cons.mp inLater with same | inLater
    · cases same
      exact absurd before (lt_irrefl _)
    · have following := (List.pairwise_cons.mp (List.pairwise_append.mp sorted).2.1).1 _ inLater
      exact absurd before (not_lt.mpr following)

/-- A successful `complete` of the event. -/
def Event.completes (eventId : Str) : Event F → Prop
  | (.complete key _ _ _ _ _, .ok _) => key = eventId
  | _ => False

/-- A successful `release` of the event that leaves it in the given state. -/
def Event.releasesTo (eventId : Str) (state : OutboxState) : Event F → Prop
  | (.release key _ _ _ _ _, .ok (.record view)) => key = eventId ∧ view.state = state
  | _ => False

/-- A successful `release` of the event. -/
def Event.releases (eventId : Str) (event : Event F) : Prop :=
  ∃ state, event.releasesTo eventId state

/-- A successful `operator_retry` of the event. -/
def Event.retries (eventId : Str) : Event F → Prop
  | (.operatorRetry key _, .ok _) => key = eventId
  | _ => False

/-- A successful compare-and-set of the partition. -/
def Event.sets (partition : Str) : Event F → Bool
  | (.compareAndSetCheckpoint checkpoint _, .ok _) => checkpoint.partitionKey = partition
  | _ => false

/-- The records that a claim returned. -/
def Event.returned : Event F → List (OutboxRecord F)
  | (.atomicClaim _ _ _ _ _, .ok (.records views)) => views
  | _ => []

/-- The lease under which `_leased_record` accepts a worker. -/
structure HeldBy (record : MutableRecord F) (owner : Str) (current : Utc) (lease : OutboxLease) :
    Prop where
  leased : record.state = .leased
  lease_eq : record.lease = some lease
  owner_eq : lease.owner = owner
  live : current < lease.expiresAt

/-- Everything that one call can do to the record of one event. -/
inductive RecordStep (store : InMemoryOutboxStore F) (key : Str) :
    Event F → Option (MutableRecord F) → Option (MutableRecord F) → Prop
  | frame (event : Event F) (record : Option (MutableRecord F))
      (notCompleted : ¬ event.completes key) (notReleased : ¬ event.releases key)
      (notRetried : ¬ event.retries key)
      (notReturned : ∀ view ∈ event.returned, view.data.eventId ≠ key) :
      RecordStep store key event record record
  | append (data : OutboxDataV1 F) (key_eq : data.eventId = key) :
      RecordStep store key (.append data, .ok .none) none (some { data := data })
  | claim (owner : Str) (limit duration : Int) (now : Option DateTime) (utcNow current : Utc)
      (result : Except Exc (Reply F)) (record : MutableRecord F) (lease : OutboxLease)
      (view : OutboxRecord F) (time : currentTime now utcNow = .ok current)
      (head : store.IsHead record)
      (step : HeadStep owner current duration record (.claim (record.granted (some lease)) view))
      (result_eq : result = .error .assertionError ∨
        view ∈ Event.returned (.atomicClaim owner limit duration now utcNow, result)) :
      RecordStep store key (.atomicClaim owner limit duration now utcNow, result) (some record)
        (some (record.granted (some lease)))
  | overflow (owner : Str) (limit duration : Int) (now : Option DateTime) (utcNow current : Utc)
      (record : MutableRecord F) (time : currentTime now utcNow = .ok current)
      (head : store.IsHead record) (claimable : record.Claimable current)
      (outOfRange : current.add duration = none) :
      RecordStep store key (.atomicClaim owner limit duration now utcNow, .error .overflowError)
        (some record) (some (record.granted none))
  | complete (owner : Str) (version : Option Version) (fingerprint : Str) (now : Option DateTime)
      (utcNow current : Utc) (record : MutableRecord F) (lease : OutboxLease)
      (checkpoint : Checkpoint) (time : currentTime now utcNow = .ok current)
      (held : HeldBy record owner current lease) (exact : version = record.data.sourceVersion) :
      RecordStep store key
        (.complete key owner version fingerprint now utcNow, .ok (.checkpoint checkpoint))
        (some record) (some (record.completed fingerprint current))
  | release (owner : Str) (error : ErrorView) (retryable : Bool) (now : Option DateTime)
      (utcNow current : Utc) (record : MutableRecord F) (lease : OutboxLease)
      (failure : OutboxFailure) (view : OutboxRecord F) (time : currentTime now utcNow = .ok current)
      (held : HeldBy record owner current lease)
      (redacted : redactedFailure error current = .ok failure)
      (snapshot_eq : (store.releasedRecord record failure retryable).snapshot = .ok view) :
      RecordStep store key (.release key owner error retryable now utcNow, .ok (.record view))
        (some record) (some (store.releasedRecord record failure retryable))
  | retry (reason : Str) (record : MutableRecord F) (view : OutboxRecord F)
      (quarantined : record.state = .quarantined) (snapshot_eq : record.retried.snapshot = .ok view) :
      RecordStep store key (.operatorRetry key reason, .ok (.record view)) (some record)
        (some record.retried)

theorem Event.releases_iff {eventId key owner : Str} {error : ErrorView} {retryable : Bool}
    {now : Option DateTime} {utcNow : Utc} {view : OutboxRecord F} :
    Event.releases eventId (.release key owner error retryable now utcNow, .ok (.record view)) ↔
      key = eventId := by
  simp [releases, releasesTo]

/-- A call that fails and leaves the records alone. -/
theorem RecordStep.of_error {store : InMemoryOutboxStore F} {key : Str} (call : Call F)
    (error : Exc) (record : Option (MutableRecord F)) :
    RecordStep store key (call, .error error) record record := by
  apply RecordStep.frame
  · cases call <;> exact not_false
  · rintro ⟨state, released⟩
    cases call <;> exact released
  · cases call <;> exact not_false
  · cases call <;> exact List.forall_mem_nil _

theorem append_record (store : InMemoryOutboxStore F) (data : OutboxDataV1 F) (key : Str) :
    RecordStep store key (.append data, (store.step (.append data)).1) (store.records.get? key)
      ((store.step (.append data)).2.records.get? key) := by
  have quiet : ∀ result, RecordStep store key (.append data, result) (store.records.get? key)
      (store.records.get? key) := by
    intro result
    apply RecordStep.frame
    · exact not_false
    · rintro ⟨state, released⟩
      exact released
    · exact not_false
    · exact List.forall_mem_nil _
  simp only [step, append]
  cases found : store.records.get? data.eventId with
  | none =>
      by_cases same : data.eventId = key
      · subst key
        simp only [Prod.map, Except.map, id, setRecord, found, Dict.get?_set_self]
        exact .append data rfl
      · simp only [Prod.map, Except.map, id, setRecord, Dict.get?_set_of_ne _ _ same]
        exact quiet _
  | some existing =>
      by_cases different : existing.data.digest ≠ data.digest
      · simp only [if_pos different, Prod.map, Except.map, id]
        exact quiet _
      · simp only [if_neg different, Prod.map, Except.map, id]
        exact quiet _

/-- A claim either fails and changes nothing, or runs its loop. -/
theorem atomicClaim_cases (store : InMemoryOutboxStore F) (owner : Str) (limit duration : Int)
    (now : Option DateTime) (utcNow : Utc) :
    (∃ error, store.atomicClaim owner limit duration now utcNow = (.error error, store)) ∨
    ∃ current, owner ≠ [] ∧ 1 ≤ limit ∧ 0 < duration ∧ currentTime now utcNow = .ok current ∧
      store.atomicClaim owner limit duration now utcNow =
        ((claimLoop owner limit current duration store.ordered [] [] store.records).1,
          { store with records :=
              (claimLoop owner limit current duration store.ordered [] [] store.records).2 }) := by
  unfold atomicClaim
  split
  next => exact .inl ⟨_, rfl⟩
  next ownerNe =>
    split
    next => exact .inl ⟨_, rfl⟩
    next limitNot =>
      split
      next => exact .inl ⟨_, rfl⟩
      next durationNot =>
        cases time : currentTime now utcNow with
        | error error => exact .inl ⟨error, rfl⟩
        | ok current =>
            exact .inr ⟨current, ownerNe, not_lt.mp limitNot, not_le.mp durationNot, rfl, rfl⟩

theorem atomicClaim_record {store : InMemoryOutboxStore F} (sound : store.Sound)
    (owner : Str) (limit duration : Int) (now : Option DateTime) (utcNow : Utc) (key : Str) :
    RecordStep store key
      (.atomicClaim owner limit duration now utcNow,
        (store.step (.atomicClaim owner limit duration now utcNow)).1)
      (store.records.get? key)
      ((store.step (.atomicClaim owner limit duration now utcNow)).2.records.get? key) := by
  simp only [step]
  rcases atomicClaim_cases store owner limit duration now utcNow with
    ⟨error, failed⟩ | ⟨current, ownerNe, -, positive, time, looped⟩
  · rw [failed]
    exact .of_error _ _ _
  · rw [looped]
    have wellFormed : ∀ item ∈ store.ordered, item.2.WellFormed :=
      fun item member => sound.wellFormed (mem_ordered.mp member)
    have loop := claimLoop_step limit current ownerNe positive store.ordered [] []
      store.records store.nodup_keys_ordered
      (fun item member => mem_ordered.mp member)
      (fun item member => sound.keyed (mem_ordered.mp member)) wellFormed key
    have failure := claimLoop_error limit current ownerNe positive store.ordered [] []
      store.records wellFormed
    simp only [Prod.map, id]
    generalize claimLoop owner limit current duration store.ordered [] [] store.records
      = outcome at loop failure ⊢
    obtain ⟨result, records⟩ := outcome
    simp only at loop failure ⊢
    generalize store.records.get? key = before at loop ⊢
    generalize records.get? key = after at loop ⊢
    cases loop with
    | frame _ quiet =>
        apply RecordStep.frame
        · exact not_false
        · rintro ⟨state, released⟩
          exact released
        · exact not_false
        · intro view viewMem
          cases result with
          | error => cases viewMem
          | ok views =>
              rcases quiet views rfl view viewMem with inNil | other
              · cases inNil
              · exact other
    | claim record lease view _ stored visited head reported =>
        subst stored
        apply RecordStep.claim owner limit duration now utcNow current _ record lease view
          time visited.isHead head
        cases result with
        | error error =>
            left
            rcases failure error rfl with ⟨rfl, -⟩ | ⟨outOfRange, -⟩
            · rfl
            · cases head with
              | claim _ _ _ _ _ expiresEq =>
                  rw [outOfRange] at expiresEq
                  cases expiresEq
        | ok views => exact .inr (reported views rfl)
    | overflow record stored visited claimable outOfRange =>
        subst stored
        exact .overflow owner limit duration now utcNow current record time visited.isHead
          claimable outOfRange

/-- `_leased_record` returns exactly a record held by the worker. -/
theorem leasedRecord_eq_ok_iff {store : InMemoryOutboxStore F} {eventId owner : Str} {now : Utc}
    {record : MutableRecord F} :
    store.leasedRecord eventId owner now = .ok record ↔
      store.records.get? eventId = some record ∧ ∃ lease, HeldBy record owner now lease := by
  unfold leasedRecord
  cases found : store.records.get? eventId with
  | none => simp
  | some stored =>
      simp only [Option.some.injEq]
      constructor
      · intro accepted
        split at accepted
        next lease stateEq leaseEq =>
          split at accepted
          · cases accepted
          next ownerEq =>
            split at accepted
            · cases accepted
            next live =>
              cases accepted
              exact ⟨rfl, lease, stateEq, leaseEq, not_not.mp ownerEq, not_le.mp live⟩
        next => cases accepted
      · rintro ⟨rfl, lease, leased, leaseEq, ownerEq, live⟩
        simp [leased, leaseEq, ownerEq, not_le.mpr live]

/-- A completion either fails and changes nothing, or has checked the lease and
the source version. -/
theorem complete_cases (store : InMemoryOutboxStore F) (eventId owner : Str)
    (version : Option Version) (fingerprint : Str) (now : Option DateTime) (utcNow : Utc) :
    (∃ error, store.complete eventId owner version fingerprint now utcNow = (.error error, store)) ∨
    ∃ current record lease, currentTime now utcNow = .ok current ∧
      store.records.get? eventId = some record ∧ HeldBy record owner current lease ∧
      version = record.data.sourceVersion ∧
      store.complete eventId owner version fingerprint now utcNow =
        (.ok (store.nextCheckpoint eventId record.data fingerprint current),
          { store.setRecord eventId (record.completed fingerprint current) with
            checkpoints := store.checkpoints.set record.data.partitionKey
              (store.nextCheckpoint eventId record.data fingerprint current) }) := by
  unfold complete
  cases requireSha256 "target_fingerprint" fingerprint with
  | error error => exact .inl ⟨error, rfl⟩
  | ok =>
      cases time : currentTime now utcNow with
      | error error => exact .inl ⟨error, rfl⟩
      | ok current =>
          dsimp only
          cases accepted : store.leasedRecord eventId owner current with
          | error error => exact .inl ⟨error, rfl⟩
          | ok record =>
              obtain ⟨stored, lease, held⟩ := leasedRecord_eq_ok_iff.mp accepted
              by_cases exactVersion : version = record.data.sourceVersion
              · right
                refine ⟨current, record, lease, rfl, stored, held, exactVersion, ?_⟩
                exact if_neg (not_not.mpr exactVersion)
              · left
                exact ⟨_, if_pos exactVersion⟩

/-- A release either fails and changes nothing, or has checked the lease. -/
theorem release_cases (store : InMemoryOutboxStore F) (eventId owner : Str) (error : ErrorView)
    (retryable : Bool) (now : Option DateTime) (utcNow : Utc) :
    (∃ raised, store.release eventId owner error retryable now utcNow = (.error raised, store)) ∨
    ∃ current record lease failure view, currentTime now utcNow = .ok current ∧
      store.records.get? eventId = some record ∧ HeldBy record owner current lease ∧
      redactedFailure error current = .ok failure ∧
      (store.releasedRecord record failure retryable).snapshot = .ok view ∧
      store.release eventId owner error retryable now utcNow =
        (.ok view, store.setRecord eventId (store.releasedRecord record failure retryable)) := by
  unfold release
  cases time : currentTime now utcNow with
  | error raised => exact .inl ⟨raised, rfl⟩
  | ok current =>
      dsimp only
      cases accepted : store.leasedRecord eventId owner current with
      | error raised => exact .inl ⟨raised, rfl⟩
      | ok record =>
          obtain ⟨stored, lease, held⟩ := leasedRecord_eq_ok_iff.mp accepted
          dsimp only
          cases redacted : redactedFailure error current with
          | error raised => exact .inl ⟨raised, rfl⟩
          | ok failure =>
              right
              obtain ⟨view, taken⟩ := MutableRecord.snapshot_of_iff
                (store.releasedRecord record failure retryable) (by
                  simp only [releasedRecord]
                  split <;> simp)
              refine ⟨current, record, lease, failure, view, rfl, stored, held, redacted, taken, ?_⟩
              simp only [taken]

/-- An operator retry either fails and changes nothing, or returns a quarantined
record to retryable state. -/
theorem operatorRetry_cases {store : InMemoryOutboxStore F} (sound : store.Sound)
    (eventId reason : Str) :
    (∃ error, store.operatorRetry eventId reason = (.error error, store)) ∨
    ∃ record view, store.records.get? eventId = some record ∧ record.state = .quarantined ∧
      record.retried.snapshot = .ok view ∧
      store.operatorRetry eventId reason = (.ok view, store.setRecord eventId record.retried) := by
  unfold operatorRetry
  split
  · exact .inl ⟨_, rfl⟩
  · cases stored : store.records.get? eventId with
    | none => exact .inl ⟨_, rfl⟩
    | some record =>
        by_cases quarantined : record.state = .quarantined
        · right
          have noLease := (sound.wellFormed stored).lease_eq_none (by simp [quarantined])
          obtain ⟨view, taken⟩ := MutableRecord.snapshot_of_iff record.retried
            (by simp [MutableRecord.retried, noLease])
          refine ⟨record, view, rfl, quarantined, taken, ?_⟩
          simp only [quarantined, ne_eq, not_true_eq_false, if_false]
          rw [← MutableRecord.retried, taken]
        · left
          simp only [ne_eq, quarantined, not_false_eq_true, if_true]
          exact ⟨_, rfl⟩

/-- The revision of `checkpoint(partition_key)`. -/
def revision (store : InMemoryOutboxStore F) (partition : Str) : Nat :=
  match store.checkpoints.get? partition with
  | none => 0
  | some checkpoint => checkpoint.revision

/-- A compare-and-set either fails and changes nothing, or has found the expected
revision and stores the next one. -/
theorem compareAndSetCheckpoint_cases (store : InMemoryOutboxStore F) (checkpoint : Checkpoint)
    (expectedRevision : Int) :
    (∃ error, store.compareAndSetCheckpoint checkpoint expectedRevision = (.error error, store)) ∨
    ((store.revision checkpoint.partitionKey : Int) = expectedRevision ∧
      (checkpoint.revision : Int) = expectedRevision + 1 ∧
      store.compareAndSetCheckpoint checkpoint expectedRevision = (.ok checkpoint, { store with
        checkpoints := store.checkpoints.set checkpoint.partitionKey checkpoint })) := by
  unfold compareAndSetCheckpoint
  extract_lets found
  have foundEq : found = store.revision checkpoint.partitionKey := by
    unfold found revision
    cases store.checkpoints.get? checkpoint.partitionKey <;> rfl
  rw [foundEq]
  split
  next => exact .inl ⟨_, rfl⟩
  next current =>
    split
    next => exact .inl ⟨_, rfl⟩
    next next => exact .inr ⟨not_not.mp current, not_not.mp next, rfl⟩

/-- Every call moves every record by one of the listed steps. -/
theorem step_record {store : InMemoryOutboxStore F} (sound : store.Sound) (call : Call F)
    (key : Str) :
    RecordStep store key (call, (store.step call).1) (store.records.get? key)
      ((store.step call).2.records.get? key) := by
  cases call with
  | append data => exact append_record store data key
  | atomicClaim owner limit duration now utcNow =>
      exact atomicClaim_record sound owner limit duration now utcNow key
  | complete eventId owner version fingerprint now utcNow =>
      simp only [step]
      rcases complete_cases store eventId owner version fingerprint now utcNow with
        ⟨error, failed⟩ | ⟨current, record, lease, time, stored, held, exactVersion, completed⟩
      · rw [failed]
        exact .of_error _ _ _
      · rw [completed]
        by_cases same : eventId = key
        · subst key
          simp only [Prod.map, Except.map, id, setRecord, Dict.get?_set_self, stored]
          exact .complete owner version fingerprint now utcNow current record lease _ time held
            exactVersion
        · simp only [Prod.map, Except.map, id, setRecord, Dict.get?_set_of_ne _ _ same]
          apply RecordStep.frame
          · exact same
          · rintro ⟨state, released⟩
            exact released
          · exact not_false
          · exact List.forall_mem_nil _
  | release eventId owner error retryable now utcNow =>
      simp only [step]
      rcases release_cases store eventId owner error retryable now utcNow with
        ⟨raised, failed⟩ |
        ⟨current, record, lease, failure, view, time, stored, held, redacted, taken, released⟩
      · rw [failed]
        exact .of_error _ _ _
      · rw [released]
        by_cases same : eventId = key
        · subst key
          simp only [Prod.map, Except.map, id, setRecord, Dict.get?_set_self, stored]
          exact .release owner error retryable now utcNow current record lease failure view time
            held redacted taken
        · simp only [Prod.map, Except.map, id, setRecord, Dict.get?_set_of_ne _ _ same]
          apply RecordStep.frame
          · exact not_false
          · rw [Event.releases_iff]
            exact same
          · exact not_false
          · exact List.forall_mem_nil _
  | operatorRetry eventId reason =>
      simp only [step]
      rcases operatorRetry_cases sound eventId reason with
        ⟨error, failed⟩ | ⟨record, view, stored, quarantined, taken, retried⟩
      · rw [failed]
        exact .of_error _ _ _
      · rw [retried]
        by_cases same : eventId = key
        · subst key
          simp only [Prod.map, Except.map, id, setRecord, Dict.get?_set_self, stored]
          exact .retry reason record view quarantined taken
        · simp only [Prod.map, Except.map, id, setRecord, Dict.get?_set_of_ne _ _ same]
          apply RecordStep.frame
          · exact not_false
          · rintro ⟨state, released⟩
            exact released
          · exact same
          · exact List.forall_mem_nil _
  | compareAndSetCheckpoint checkpoint expectedRevision =>
      have same : (store.compareAndSetCheckpoint checkpoint expectedRevision).2.records =
          store.records := by
        rcases compareAndSetCheckpoint_cases store checkpoint expectedRevision with
          ⟨error, failed⟩ | ⟨-, -, stored⟩
        · rw [failed]
        · rw [stored]
      simp only [step, Prod.map, id, same]
      apply RecordStep.frame
      · exact not_false
      · rintro ⟨state, released⟩
        exact released
      · exact not_false
      · exact List.forall_mem_nil _

/-- Everything that one call can do to the checkpoints. -/
inductive AdvanceStep (store : InMemoryOutboxStore F) : Event F → InMemoryOutboxStore F → Prop
  | frame (event : Event F) (after : InMemoryOutboxStore F)
      (notCompleted : ∀ key, ¬ event.completes key) (notSet : ∀ partition, event.sets partition = false)
      (checkpoints_eq : after.checkpoints = store.checkpoints) : AdvanceStep store event after
  | complete (eventId owner : Str) (version : Option Version) (fingerprint : Str)
      (now : Option DateTime) (utcNow current : Utc) (record : MutableRecord F) (lease : OutboxLease)
      (stored : store.records.get? eventId = some record)
      (held : HeldBy record owner current lease) :
      AdvanceStep store (.complete eventId owner version fingerprint now utcNow,
        .ok (.checkpoint (store.nextCheckpoint eventId record.data fingerprint current)))
        { store.setRecord eventId (record.completed fingerprint current) with
          checkpoints := store.checkpoints.set record.data.partitionKey
            (store.nextCheckpoint eventId record.data fingerprint current) }
  | set (checkpoint : Checkpoint) (expectedRevision : Int)
      (expected : (store.revision checkpoint.partitionKey : Int) = expectedRevision)
      (next : (checkpoint.revision : Int) = expectedRevision + 1) :
      AdvanceStep store (.compareAndSetCheckpoint checkpoint expectedRevision,
        .ok (.checkpoint checkpoint))
        { store with checkpoints := store.checkpoints.set checkpoint.partitionKey checkpoint }

/-- A call that fails and leaves the checkpoints alone. -/
theorem AdvanceStep.of_error {store : InMemoryOutboxStore F} (call : Call F) (error : Exc) :
    AdvanceStep store (call, .error error) store := by
  apply AdvanceStep.frame
  · intro key
    cases call <;> exact not_false
  · intro partition
    cases call <;> rfl
  · rfl

/-- Every call moves the checkpoints by one of the listed steps. -/
theorem step_advance {store : InMemoryOutboxStore F} (sound : store.Sound) (call : Call F) :
    AdvanceStep store (call, (store.step call).1) (store.step call).2 := by
  cases call with
  | append data =>
      apply AdvanceStep.frame
      · exact fun _ => not_false
      · exact fun _ => rfl
      · simp only [step, append, Prod.map, id]
        split
        · rfl
        · split <;> rfl
  | atomicClaim owner limit duration now utcNow =>
      simp only [step]
      rcases atomicClaim_cases store owner limit duration now utcNow with
        ⟨error, failed⟩ | ⟨current, -, -, -, -, looped⟩
      · rw [failed]
        exact .of_error _ _
      · rw [looped]
        exact .frame _ _ (fun _ => not_false) (fun _ => rfl) rfl
  | complete eventId owner version fingerprint now utcNow =>
      simp only [step]
      rcases complete_cases store eventId owner version fingerprint now utcNow with
        ⟨error, failed⟩ | ⟨current, record, lease, -, stored, held, -, completed⟩
      · rw [failed]
        exact .of_error _ _
      · rw [completed]
        exact .complete eventId owner version fingerprint now utcNow current record lease stored held
  | release eventId owner error retryable now utcNow =>
      simp only [step]
      rcases release_cases store eventId owner error retryable now utcNow with
        ⟨raised, failed⟩ | ⟨_, _, _, _, _, _, _, _, _, _, released⟩
      · rw [failed]
        exact .of_error _ _
      · rw [released]
        exact .frame _ _ (fun _ => not_false) (fun _ => rfl) rfl
  | operatorRetry eventId reason =>
      simp only [step]
      rcases operatorRetry_cases sound eventId reason with
        ⟨error, failed⟩ | ⟨_, _, _, _, _, retried⟩
      · rw [failed]
        exact .of_error _ _
      · rw [retried]
        exact .frame _ _ (fun _ => not_false) (fun _ => rfl) rfl
  | compareAndSetCheckpoint checkpoint expectedRevision =>
      simp only [step]
      rcases compareAndSetCheckpoint_cases store checkpoint expectedRevision with
        ⟨error, failed⟩ | ⟨expected, next, stored⟩
      · rw [failed]
        exact .of_error _ _
      · rw [stored]
        exact .set checkpoint expectedRevision expected next

/-- No step renames a record. -/
theorem RecordStep.eventId_eq {store : InMemoryOutboxStore F} {key : Str} {event : Event F}
    {before after : Option (MutableRecord F)} (step : RecordStep store key event before after)
    (keyed : ∀ record, before = some record → record.data.eventId = key) :
    ∀ record, after = some record → record.data.eventId = key := by
  rintro moved rfl
  cases step with
  | frame => exact keyed moved rfl
  | append _ keyEq => exact keyEq
  | claim _ _ _ _ _ _ _ record => exact keyed record rfl
  | overflow _ _ _ _ _ _ record => exact keyed record rfl
  | complete _ _ _ _ _ _ record => exact keyed record rfl
  | release _ _ _ _ _ _ record => exact keyed record rfl
  | retry _ record => exact keyed record rfl

/-- No step leaves a lease on a record that is not LEASED. -/
theorem RecordStep.wellFormed {store : InMemoryOutboxStore F} {key : Str} {event : Event F}
    {before after : Option (MutableRecord F)} (step : RecordStep store key event before after)
    (wellFormed : ∀ record, before = some record → record.WellFormed) :
    ∀ record, after = some record → record.WellFormed := by
  rintro moved rfl
  cases step with
  | frame => exact wellFormed moved rfl
  | append => simp [MutableRecord.WellFormed]
  | claim => exact fun _ => rfl
  | overflow => exact fun _ => rfl
  | complete => simp [MutableRecord.WellFormed, MutableRecord.completed]
  | release => simp [MutableRecord.WellFormed, releasedRecord]
  | retry _ record _ quarantined =>
      have noLease := (wellFormed record rfl).lease_eq_none (by simp [quarantined])
      simp [MutableRecord.WellFormed, MutableRecord.retried, noLease]

/-- A record after a step was appended by it, or was there with the same data. -/
theorem RecordStep.origin {store : InMemoryOutboxStore F} {key : Str} {event : Event F}
    {before after : Option (MutableRecord F)} (step : RecordStep store key event before after)
    {record : MutableRecord F} (stored : after = some record) :
    (∃ data, event.1 = .append data ∧ data.eventId = key ∧ before = none ∧
      record = { data := data }) ∨
    ∃ previous, before = some previous ∧ previous.data = record.data := by
  subst stored
  cases step with
  | append data keyEq => exact .inl ⟨data, rfl, keyEq, rfl, rfl⟩
  | _ => exact .inr ⟨_, rfl, rfl⟩

/-- Only a successful completion completes a record. -/
theorem RecordStep.completes_of {store : InMemoryOutboxStore F} {key : Str} {event : Event F}
    {record after : MutableRecord F} (step : RecordStep store key event (some record) (some after))
    (incomplete : record.state ≠ .completed) (completed : after.state = .completed) :
    event.completes key := by
  cases step with
  | frame => exact absurd completed incomplete
  | claim => simp [MutableRecord.granted] at completed
  | overflow => simp [MutableRecord.granted] at completed
  | complete => exact rfl
  | release _ _ retryable =>
      unfold releasedRecord at completed
      generalize (!retryable || store.poisonThreshold ≤ record.attemptCount : Bool) = poisoned
        at completed
      cases poisoned <;> simp at completed
  | retry => simp [MutableRecord.retried] at completed

/-- A completed record never changes again. -/
theorem RecordStep.of_completed {store : InMemoryOutboxStore F} {key : Str} {event : Event F}
    {before after : Option (MutableRecord F)} (step : RecordStep store key event before after)
    {record : MutableRecord F} (stored : before = some record)
    (completed : record.state = .completed) : after = some record := by
  subst stored
  cases step with
  | frame => rfl
  | claim _ _ _ _ _ _ _ _ _ _ _ head => exact absurd completed head.incomplete
  | overflow _ _ _ _ _ _ _ _ head => exact absurd completed head.incomplete
  | complete _ _ _ _ _ _ _ _ _ _ held => simp [held.leased] at completed
  | release _ _ _ _ _ _ _ _ _ _ _ held => simp [held.leased] at completed
  | retry _ _ _ quarantined => simp [quarantined] at completed

/-- Every call keeps the store sound. -/
theorem Sound.step {store : InMemoryOutboxStore F} (sound : store.Sound) (call : Call F) :
    (store.step call).2.Sound := by
  constructor
  · intro key record stored
    exact (step_record sound call key).eventId_eq (fun _ => sound.keyed) record stored
  · intro key record stored
    exact (step_record sound call key).wellFormed (fun _ => sound.wellFormed) record stored

/-- Records of a sound store are told apart by their sort keys. -/
theorem Sound.key_eq_of_sortKey_eq {store : InMemoryOutboxStore F} (sound : store.Sound)
    {firstKey secondKey : Str} {first second : MutableRecord F}
    (firstStored : store.records.get? firstKey = some first)
    (secondStored : store.records.get? secondKey = some second)
    (same : first.data.sortKey = second.data.sortKey) : firstKey = secondKey := by
  have sameId : first.data.eventId = second.data.eventId := (Prod.mk.inj (toLex.injective same)).2
  rw [← sound.keyed firstStored, ← sound.keyed secondStored, sameId]

theorem sound_init {poisonThreshold : Nat} {positive : 0 < poisonThreshold} :
    (init poisonThreshold positive : InMemoryOutboxStore F).Sound := by
  constructor <;> intro key record stored <;> simp [init] at stored

/-! ## Runs -/

theorem run_cons (store : InMemoryOutboxStore F) (call : Call F) (rest : List (Call F)) :
    store.run (call :: rest) =
      (((store.step call).2.run rest).1,
        (call, (store.step call).1) :: ((store.step call).2.run rest).2) :=
  rfl

theorem run_append (store : InMemoryOutboxStore F) (first second : List (Call F)) :
    store.run (first ++ second) =
      (((store.run first).1.run second).1,
        (store.run first).2 ++ ((store.run first).1.run second).2) := by
  induction first generalizing store with
  | nil => rfl
  | cons call rest ih => rw [List.cons_append, run_cons, ih, run_cons, List.cons_append]

/-- A state that calls on a new store can produce. -/
def Reachable (store : InMemoryOutboxStore F) : Prop :=
  ∃ poisonThreshold, ∃ positive : 0 < poisonThreshold, ∃ calls,
    store = ((init poisonThreshold positive).run calls).1

/-- What holds of a new store and is kept by every call holds of every reachable
state. -/
theorem run_induction {property : InMemoryOutboxStore F → Prop}
    (preserved : ∀ store call, property store → property (store.step call).2)
    (calls : List (Call F)) (store : InMemoryOutboxStore F) (initially : property store) :
    property (store.run calls).1 := by
  induction calls generalizing store with
  | nil => exact initially
  | cons call rest ih => exact ih _ (preserved store call initially)

/-- What holds of the first store with an empty history and is kept by every call
holds of the last one with the history of the run. -/
theorem history_induction {property : InMemoryOutboxStore F → List (Event F) → Prop}
    {allowed : Call F → Prop}
    (preserved : ∀ store history call, allowed call → property store history →
      property (store.step call).2 (history ++ [(call, (store.step call).1)]))
    (calls : List (Call F)) (all : ∀ call ∈ calls, allowed call) {store : InMemoryOutboxStore F}
    (initially : property store []) : property (store.run calls).1 (store.run calls).2 := by
  induction calls using List.reverseRecOn with
  | nil => exact initially
  | append_singleton calls call ih =>
      rw [run_append]
      apply preserved
      · exact all call (by simp)
      · exact ih fun other member => all other (by simp [member])

/-- Every call of the list meets the condition in the state that it is made in. -/
def EveryStep (condition : InMemoryOutboxStore F → Call F → Prop) :
    InMemoryOutboxStore F → List (Call F) → Prop
  | _, [] => True
  | store, call :: rest =>
      condition store call ∧ EveryStep condition (store.step call).2 rest

theorem EveryStep.of_append {condition : InMemoryOutboxStore F → Call F → Prop}
    {store : InMemoryOutboxStore F} {first last : List (Call F)}
    (steps : EveryStep condition store (first ++ last)) : EveryStep condition store first := by
  induction first generalizing store with
  | nil => exact trivial
  | cons call rest ih => exact ⟨steps.1, ih steps.2⟩

/-- A condition on the calls alone joins the condition on the steps. -/
theorem EveryStep.and_forall {condition : InMemoryOutboxStore F → Call F → Prop}
    {allowed : Call F → Prop} {store : InMemoryOutboxStore F} {calls : List (Call F)}
    (steps : EveryStep condition store calls) (all : ∀ call ∈ calls, allowed call) :
    EveryStep (fun store call => condition store call ∧ allowed call) store calls := by
  induction calls generalizing store with
  | nil => exact trivial
  | cons call rest ih =>
      rw [List.forall_mem_cons] at all
      exact ⟨⟨steps.1, all.1⟩, ih steps.2 all.2⟩

/-- The invariant rule for runs whose steps meet a condition: the invariant holds
in every state of the run. -/
theorem EveryStep.invariant {condition : InMemoryOutboxStore F → Call F → Prop}
    (property : InMemoryOutboxStore F → Prop)
    (preserved : ∀ store call, condition store call → property store →
      property (store.step call).2)
    {store : InMemoryOutboxStore F} {calls : List (Call F)}
    (steps : EveryStep condition store calls) (initially : property store) :
    ∀ first last, calls = first ++ last → property (store.run first).1 := by
  induction calls generalizing store with
  | nil =>
      intro first last split
      obtain ⟨rfl, rfl⟩ := List.append_eq_nil_iff.mp split.symm
      exact initially
  | cons call rest ih =>
      obtain ⟨met, later⟩ := steps
      intro first last split
      cases first with
      | nil => exact initially
      | cons head tail =>
          simp only [List.cons_append, List.cons.injEq] at split
          obtain ⟨rfl, split⟩ := split
          exact ih later (preserved store call met initially) tail last split

/-- The invariant rule for runs whose steps meet a condition, with the history. -/
theorem EveryStep.history {condition : InMemoryOutboxStore F → Call F → Prop}
    {property : InMemoryOutboxStore F → List (Event F) → Prop}
    (preserved : ∀ store history call, condition store call → property store history →
      property (store.step call).2 (history ++ [(call, (store.step call).1)]))
    {store : InMemoryOutboxStore F} {history : List (Event F)} {calls : List (Call F)}
    (steps : EveryStep condition store calls) (initially : property store history) :
    property (store.run calls).1 (history ++ (store.run calls).2) := by
  induction calls generalizing store history with
  | nil =>
      rw [run, List.append_nil]
      exact initially
  | cons call rest ih =>
      obtain ⟨met, later⟩ := steps
      have continued := ih later (preserved store history call met initially)
      rwa [List.append_assoc] at continued

theorem Sound.run {store : InMemoryOutboxStore F} (sound : store.Sound) (calls : List (Call F)) :
    (store.run calls).1.Sound :=
  run_induction (fun _ call sound => sound.step call) calls store sound

theorem Reachable.sound {store : InMemoryOutboxStore F} (reachable : store.Reachable) :
    store.Sound := by
  obtain ⟨poisonThreshold, positive, calls, rfl⟩ := reachable
  exact sound_init.run calls

end InMemoryOutboxStore

end DataLifecycle.Outbox
