import DataLifecycle.Outbox.Steps

/-!
# Lease exclusion and fencing

A lease keeps its record away from every claim whose time lies before its
expiry until a release ends it, and only the worker that made the latest claim
can complete or release the record, strictly before that expiry.  Neither part
assumes that clocks move forward.
-/

namespace DataLifecycle.Outbox.InMemoryOutboxStore

open Python

variable {F : Type} [FloatText F]

/-- The lease that a call puts on the record of an event.  Every claim of a
record counts one attempt. -/
def grants (store : InMemoryOutboxStore F) (call : Call F) (eventId : Str) : Option OutboxLease :=
  match call, store.records.get? eventId, (store.step call).2.records.get? eventId with
  | .atomicClaim _ _ _ _ _, some before, some after =>
      if after.attemptCount = before.attemptCount then none else after.lease
  | _, _, _ => none

/-- No call of the list leases the event again, completes it or releases it. -/
def Undisturbed (eventId : Str) : InMemoryOutboxStore F → List (Call F) → Prop
  | _, [] => True
  | store, call :: rest =>
      store.grants call eventId = none ∧
        ¬ Event.completes eventId (call, (store.step call).1) ∧
        ¬ Event.releases eventId (call, (store.step call).1) ∧
        Undisturbed eventId (store.step call).2 rest

/-- The call is a `complete` or a `release` of the event by the owner at the
given time. -/
inductive Settles (eventId owner : Str) (now : Option DateTime) (utcNow : Utc) : Call F → Prop
  | complete (version : Option Version) (fingerprint : Str) :
      Settles eventId owner now utcNow (.complete eventId owner version fingerprint now utcNow)
  | release (error : ErrorView) (retryable : Bool) :
      Settles eventId owner now utcNow (.release eventId owner error retryable now utcNow)

/-! ## Runs and their histories -/

/-- A property that only bad events can break either survives a run, or a bad
event is in its history. -/
theorem run_survives {property : InMemoryOutboxStore F → Prop} {bad : Event F → Prop}
    (preserved : ∀ (store : InMemoryOutboxStore F) (call : Call F), store.Sound →
      property store → ¬ bad (call, (store.step call).1) → property (store.step call).2)
    (calls : List (Call F)) {store : InMemoryOutboxStore F} (sound : store.Sound)
    (initially : property store) :
    property (store.run calls).1 ∨ ∃ event ∈ (store.run calls).2, bad event := by
  induction calls generalizing store with
  | nil => exact .inl initially
  | cons call rest ih =>
      rw [run_cons]
      by_cases broken : bad (call, (store.step call).1)
      · exact .inr ⟨_, List.mem_cons_self, broken⟩
      · rcases ih (sound.step call) (preserved store call sound initially broken) with
          held | ⟨event, member, isBad⟩
        · exact .inl held
        · exact .inr ⟨event, List.mem_cons_of_mem _ member, isBad⟩

/-- An event of a history was produced by a call of the run. -/
theorem run_history_split {store : InMemoryOutboxStore F} {calls : List (Call F)}
    {earlier later : List (Event F)} {event : Event F}
    (history : (store.run calls).2 = earlier ++ event :: later) :
    ∃ first call last, calls = first ++ call :: last ∧
      event = (call, ((store.run first).1.step call).1) ∧
      later = (((store.run first).1.step call).2.run last).2 := by
  induction calls generalizing store earlier with
  | nil => simp [run] at history
  | cons call rest ih =>
      rw [run_cons] at history
      cases earlier with
      | nil =>
          simp only [List.nil_append, List.cons.injEq] at history
          exact ⟨[], call, rest, rfl, history.1.symm, history.2.symm⟩
      | cons head tail =>
          simp only [List.cons_append, List.cons.injEq] at history
          obtain ⟨first, other, last, rfl, eventEq, laterEq⟩ := ih history.2
          exact ⟨call :: first, other, last, rfl, eventEq, laterEq⟩

/-! ## What a lease keeps away -/

/-- The event is completed, or leased at least until the given time. -/
def HeldUntil (eventId : Str) (expiresAt : Utc) (store : InMemoryOutboxStore F) : Prop :=
  ∃ record, store.records.get? eventId = some record ∧
    (record.state = .completed ∨
      record.state = .leased ∧ ∀ lease, record.lease = some lease → expiresAt ≤ lease.expiresAt)

/-- The event is quarantined. -/
def IsQuarantined (eventId : Str) (store : InMemoryOutboxStore F) : Prop :=
  ∃ record, store.records.get? eventId = some record ∧ record.state = .quarantined

theorem lt_expiresAt_of_headStep {owner : Str} {current : Utc} {duration : Int}
    {record leased : MutableRecord F} {view : OutboxRecord F} {lease : OutboxLease}
    (step : HeadStep owner current duration record (.claim leased view))
    (leaseEq : leased.lease = some lease) : current < lease.expiresAt := by
  cases step with
  | claim _ _ _ _ acquiredEq =>
      cases leaseEq
      rw [← acquiredEq]
      exact lease.acquired_lt

theorem HeadStep.claimable {owner : Str} {current : Utc} {duration : Int}
    {record leased : MutableRecord F} {view : OutboxRecord F}
    (step : HeadStep owner current duration record (.claim leased view)) :
    record.Claimable current := by
  cases step with
  | claim _ _ claimable => exact claimable

theorem le_of_claimable {record : MutableRecord F} {current expiresAt : Utc}
    (held : record.state = .completed ∨
      record.state = .leased ∧ ∀ lease, record.lease = some lease → expiresAt ≤ lease.expiresAt)
    (claimable : record.Claimable current) : expiresAt ≤ current := by
  rcases held with completed | ⟨leased, atLeast⟩
  · exact absurd completed claimable.ne_completed
  · obtain ⟨lease, leaseEq, expired⟩ := claimable.expired leased
    exact (atLeast lease leaseEq).trans expired

theorem HeldUntil.step {eventId : Str} {expiresAt : Utc} {store : InMemoryOutboxStore F}
    (call : Call F) (sound : store.Sound) (held : HeldUntil eventId expiresAt store)
    (notReleased : ¬ Event.releases eventId (call, (store.step call).1)) :
    HeldUntil eventId expiresAt (store.step call).2 := by
  obtain ⟨record, stored, held⟩ := held
  have moved := step_record sound call eventId
  rw [stored] at moved
  unfold HeldUntil
  generalize (store.step call).2.records.get? eventId = after at moved ⊢
  generalize (call, (store.step call).1) = event at moved notReleased
  cases moved with
  | frame => exact ⟨record, rfl, held⟩
  | claim _ _ _ _ _ current _ _ lease view time head step =>
      refine ⟨_, rfl, .inr ⟨rfl, ?_⟩⟩
      intro granted grantedEq
      exact (le_of_claimable held step.claimable).trans
        (lt_expiresAt_of_headStep step grantedEq).le
  | overflow =>
      refine ⟨_, rfl, .inr ⟨rfl, ?_⟩⟩
      rintro lease ⟨⟩
  | complete => exact ⟨_, rfl, .inl rfl⟩
  | release => exact absurd (Event.releases_iff.mpr rfl) notReleased
  | retry _ _ _ quarantined =>
      rcases held with completed | ⟨leased, -⟩
      · simp [quarantined] at completed
      · simp [quarantined] at leased

theorem IsQuarantined.step {eventId : Str} {store : InMemoryOutboxStore F} (call : Call F)
    (sound : store.Sound) (quarantined : IsQuarantined eventId store)
    (notRetried : ¬ Event.retries eventId (call, (store.step call).1)) :
    IsQuarantined eventId (store.step call).2 := by
  obtain ⟨record, stored, quarantined⟩ := quarantined
  have moved := step_record sound call eventId
  rw [stored] at moved
  unfold IsQuarantined
  generalize (store.step call).2.records.get? eventId = after at moved ⊢
  generalize (call, (store.step call).1) = event at moved notRetried
  cases moved with
  | frame => exact ⟨record, rfl, quarantined⟩
  | claim _ _ _ _ _ _ _ _ _ _ _ _ step =>
      exact absurd quarantined step.claimable.ne_quarantined
  | overflow _ _ _ _ _ _ _ _ _ claimable => exact absurd quarantined claimable.ne_quarantined
  | complete _ _ _ _ _ _ _ _ _ _ held => simp [held.leased] at quarantined
  | release _ _ _ _ _ _ _ _ _ _ _ held => simp [held.leased] at quarantined
  | retry => exact absurd rfl notRetried

/-- A claim returns only records that it could lease. -/
theorem claimable_of_returned {store : InMemoryOutboxStore F} (sound : store.Sound)
    {owner eventId : Str} {limit duration : Int} {now : Option DateTime} {utcNow current : Utc}
    (time : currentTime now utcNow = .ok current) {view : OutboxRecord F}
    (returned : view ∈ Event.returned (.atomicClaim owner limit duration now utcNow,
      (store.step (.atomicClaim owner limit duration now utcNow)).1))
    (viewKey : view.data.eventId = eventId) {record : MutableRecord F}
    (stored : store.records.get? eventId = some record) : record.Claimable current := by
  have moved := step_record sound (.atomicClaim owner limit duration now utcNow) eventId
  rw [stored] at moved
  generalize (store.step (.atomicClaim owner limit duration now utcNow)).2.records.get? eventId
    = after at moved
  generalize (store.step (.atomicClaim owner limit duration now utcNow)).1 = result
    at moved returned
  cases moved with
  | frame _ _ _ _ _ notReturned => exact absurd viewKey (notReturned view returned)
  | claim _ _ _ _ _ claimTime _ _ _ _ claimTimeEq _ step =>
      rw [time] at claimTimeEq
      cases claimTimeEq
      exact step.claimable
  | overflow => cases returned

/-! ## Where a lease comes from -/

/-- A grant inverted: the claim that made it, its time, and how it was reported. -/
theorem grants_eq_some {store : InMemoryOutboxStore F} (sound : store.Sound) {call : Call F}
    {eventId : Str} {lease : OutboxLease} (granted : store.grants call eventId = some lease) :
    ∃ owner limit duration now utcNow current record view,
      call = .atomicClaim owner limit duration now utcNow ∧
      currentTime now utcNow = .ok current ∧
      HeadStep owner current duration record (.claim (record.granted (some lease)) view) ∧
      (store.step call).2.records.get? eventId = some (record.granted (some lease)) ∧
      view.data.eventId = eventId ∧
      ((store.step call).1 = .error .assertionError ∨
        view ∈ Event.returned (call, (store.step call).1)) := by
  unfold grants at granted
  split at granted
  next owner limit duration now utcNow before after storedBefore storedAfter =>
    split at granted
    · cases granted
    next counted =>
      have moved := step_record sound (.atomicClaim owner limit duration now utcNow) eventId
      have keyed := sound.keyed storedBefore
      rw [storedBefore, storedAfter] at moved
      rw [storedAfter]
      generalize (store.step (.atomicClaim owner limit duration now utcNow)).1 = result at moved ⊢
      cases moved with
      | frame => exact absurd rfl counted
      | overflow => cases granted
      | claim _ _ _ _ _ current _ _ made view time _ step reported =>
          cases granted
          have viewKey : view.data.eventId = eventId := by
            cases step with
            | claim _ _ _ _ _ _ _ taken =>
                rw [(MutableRecord.snapshot_eq_ok_iff.mp taken).1]
                exact keyed
          exact ⟨owner, limit, duration, now, utcNow, current, before, view, rfl, time, step, rfl,
            viewKey, reported⟩
  next => cases granted

/-- A lease after a call was granted by the call, or was there before and the
call left it alone. -/
theorem lease_after_step {store : InMemoryOutboxStore F} (sound : store.Sound) (call : Call F)
    {eventId : Str} {after : MutableRecord F} {lease : OutboxLease}
    (stored : (store.step call).2.records.get? eventId = some after)
    (leaseEq : after.lease = some lease) :
    store.grants call eventId = some lease ∨
      ((∃ before, store.records.get? eventId = some before ∧ before.lease = some lease) ∧
        store.grants call eventId = none ∧
        ¬ Event.completes eventId (call, (store.step call).1) ∧
        ¬ Event.releases eventId (call, (store.step call).1)) := by
  have moved := step_record sound call eventId
  unfold grants
  rw [stored] at moved ⊢
  generalize beforeEq : store.records.get? eventId = before at moved ⊢
  generalize (store.step call).1 = result at moved ⊢
  cases moved with
  | frame _ _ notCompleted notReleased notRetried notReturned =>
      right
      refine ⟨⟨after, rfl, leaseEq⟩, ?_, notCompleted, notReleased⟩
      clear notRetried notReturned
      split
      next sameBefore sameAfter =>
        cases sameBefore
        cases sameAfter
        exact if_pos rfl
      next => rfl
  | append => cases leaseEq
  | claim _ _ _ _ _ _ _ record =>
      left
      cases leaseEq
      exact if_neg (Nat.succ_ne_self record.attemptCount)
  | overflow => cases leaseEq
  | complete => cases leaseEq
  | release => cases leaseEq
  | retry _ record _ quarantined =>
      have noLease := (sound.wellFormed beforeEq).lease_eq_none (by simp [quarantined])
      rw [MutableRecord.retried, noLease] at leaseEq
      cases leaseEq

theorem Undisturbed.snoc {eventId : Str} {store : InMemoryOutboxStore F} {calls : List (Call F)}
    {call : Call F} (undisturbed : Undisturbed eventId store calls)
    (notGranted : (store.run calls).1.grants call eventId = none)
    (notCompleted : ¬ Event.completes eventId (call, ((store.run calls).1.step call).1))
    (notReleased : ¬ Event.releases eventId (call, ((store.run calls).1.step call).1)) :
    Undisturbed eventId store (calls ++ [call]) := by
  induction calls generalizing store with
  | nil => exact ⟨notGranted, notCompleted, notReleased, trivial⟩
  | cons head rest ih =>
      obtain ⟨headGranted, headCompleted, headReleased, later⟩ := undisturbed
      exact ⟨headGranted, headCompleted, headReleased, ih later notGranted notCompleted notReleased⟩

/-- Every lease in the store was granted by a claim of the run that nothing has
disturbed since. -/
theorem exists_grant_of_lease {store : InMemoryOutboxStore F} (sound : store.Sound)
    (unleased : ∀ {key record}, store.records.get? key = some record → record.lease = none)
    (calls : List (Call F)) {eventId : Str} {record : MutableRecord F} {lease : OutboxLease}
    (stored : (store.run calls).1.records.get? eventId = some record)
    (leaseEq : record.lease = some lease) :
    ∃ earlier claim later, calls = earlier ++ claim :: later ∧
      (store.run earlier).1.grants claim eventId = some lease ∧
      Undisturbed eventId ((store.run earlier).1.step claim).2 later := by
  -- on the calls from the end: the last call granted the lease or left it alone
  induction calls using List.reverseRecOn generalizing record with
  | nil =>
      rw [unleased stored] at leaseEq
      cases leaseEq
  | append_singleton calls call ih =>
      rw [run_append] at stored
      rcases lease_after_step (sound.run calls) call stored leaseEq with
        granted | ⟨⟨before, storedBefore, leaseBefore⟩, notGranted, notCompleted, notReleased⟩
      · exact ⟨calls, call, [], rfl, granted, trivial⟩
      · obtain ⟨earlier, claim, later, rfl, granted, undisturbed⟩ := ih storedBefore leaseBefore
        refine ⟨earlier, claim, later ++ [call], by simp, granted, ?_⟩
        rw [run_append] at notGranted notCompleted notReleased
        exact undisturbed.snoc notGranted notCompleted notReleased

/-- A `complete` or `release` fails and changes nothing, or the worker holds the
lease at its time. -/
theorem Settles.cases {eventId owner : Str} {now : Option DateTime} {utcNow : Utc} {call : Call F}
    (settles : Settles eventId owner now utcNow call) (store : InMemoryOutboxStore F) :
    (∃ error, store.step call = (.error error, store)) ∨
      ∃ current record lease, currentTime now utcNow = .ok current ∧
        store.records.get? eventId = some record ∧ HeldBy record owner current lease := by
  cases settles with
  | complete version fingerprint =>
      simp only [InMemoryOutboxStore.step]
      rcases complete_cases store eventId owner version fingerprint now utcNow with
        ⟨error, failed⟩ | ⟨current, record, lease, time, stored, held, -⟩
      · left
        rw [failed]
        exact ⟨error, rfl⟩
      · exact .inr ⟨current, record, lease, time, stored, held⟩
  | release error retryable =>
      simp only [InMemoryOutboxStore.step]
      rcases release_cases store eventId owner error retryable now utcNow with
        ⟨raised, failed⟩ | ⟨current, record, lease, -, -, time, stored, held, -⟩
      · left
        rw [failed]
        exact ⟨raised, rfl⟩
      · exact .inr ⟨current, record, lease, time, stored, held⟩

/-! ## Exclusion and fencing -/

/-- After a claim with a lease until `expiresAt`, a claim at an earlier time
returns the event only when a release ended the lease in between, and only when
an operator retried the event after every release that quarantined it. -/
theorem released_of_returned {store : InMemoryOutboxStore F} (sound : store.Sound)
    {eventId : Str} {expiresAt : Utc} (held : HeldUntil eventId expiresAt store)
    (between : List (Call F)) {owner : Str} {limit duration : Int} {now : Option DateTime}
    {utcNow current : Utc} (time : currentTime now utcNow = .ok current)
    (early : current < expiresAt) {view : OutboxRecord F}
    (returned : view ∈ Event.returned (.atomicClaim owner limit duration now utcNow,
      ((store.run between).1.step (.atomicClaim owner limit duration now utcNow)).1))
    (viewKey : view.data.eventId = eventId) :
    (∃ event ∈ (store.run between).2, event.releases eventId) ∧
      ∀ earlier event later, (store.run between).2 = earlier ++ event :: later →
        event.releasesTo eventId .quarantined → ∃ retry ∈ later, retry.retries eventId := by
  have claimable : ∀ record, (store.run between).1.records.get? eventId = some record →
      record.Claimable current :=
    fun _ => claimable_of_returned (sound.run between) time returned viewKey
  constructor
  · rcases run_survives (fun _ call => HeldUntil.step call) between sound held with
      ⟨record, stored, still⟩ | released
    · exact absurd early (not_lt.mpr (le_of_claimable still (claimable record stored)))
    · exact released
  · intro earlier event later history quarantines
    obtain ⟨first, call, last, rfl, rfl, rfl⟩ := run_history_split history
    have soundFirst := sound.run first
    have quarantined : IsQuarantined eventId ((store.run first).1.step call).2 := by
      have moved := step_record soundFirst call eventId
      unfold IsQuarantined
      generalize (store.run first).1.records.get? eventId = before at moved
      generalize ((store.run first).1.step call).2.records.get? eventId = after at moved ⊢
      generalize (call, ((store.run first).1.step call).1) = event at moved quarantines
      cases moved with
      | frame _ _ _ notReleased => exact absurd ⟨_, quarantines⟩ notReleased
      | append => cases quarantines
      | claim => cases quarantines
      | overflow => cases quarantines
      | complete => cases quarantines
      | retry => cases quarantines
      | release _ _ _ _ _ _ _ _ _ _ _ _ _ taken =>
          refine ⟨_, rfl, ?_⟩
          rw [← (MutableRecord.snapshot_eq_ok_iff.mp taken).2.1]
          exact quarantines.2
    rcases run_survives (fun _ call => IsQuarantined.step call) last (soundFirst.step call)
      quarantined with ⟨record, stored, still⟩ | retried
    · rw [run_append, run_cons] at claimable
      exact absurd still (claimable record stored).ne_quarantined
    · exact retried

/-- Lease mutual exclusion and fencing, over every run of a new store.  First,
when a claim leases an event, no claim whose time lies before the expiry of that
lease returns the event unless a release ended the lease in between, followed by
an operator retry when it quarantined the event.  Second, a `complete` or
`release` changes nothing, or it happens strictly before the expiry of a lease
that a claim of the same owner granted and that no later call granted anew or
ended.  The granting claim returned the lease to its owner, except when it raised
at a later record that an overflowed claim had left without a lease. -/
theorem lease_exclusion_and_fencing (poisonThreshold : Nat) (positive : 0 < poisonThreshold)
    (calls : List (Call F)) (eventId : Str) :
    let initial : InMemoryOutboxStore F := init poisonThreshold positive
    (∀ claim lease, (initial.run calls).1.grants claim eventId = some lease →
      ∀ between owner limit duration now utcNow current,
        currentTime now utcNow = .ok current → current < lease.expiresAt →
        let after := ((initial.run calls).1.step claim).2.run between
        (∃ view ∈ Event.returned (.atomicClaim owner limit duration now utcNow,
            (after.1.step (.atomicClaim owner limit duration now utcNow)).1),
          view.data.eventId = eventId) →
        (∃ event ∈ after.2, event.releases eventId) ∧
          ∀ earlier event later, after.2 = earlier ++ event :: later →
            event.releasesTo eventId .quarantined → ∃ retry ∈ later, retry.retries eventId) ∧
    ∀ owner now utcNow call, Settles eventId owner now utcNow call →
      (∃ error, (initial.run calls).1.step call = (.error error, (initial.run calls).1)) ∨
      ∃ current lease earlier claim later, currentTime now utcNow = .ok current ∧
        current < lease.expiresAt ∧ calls = earlier ++ claim :: later ∧
        (∃ limit duration claimNow claimUtc,
          claim = .atomicClaim owner limit duration claimNow claimUtc) ∧
        (initial.run earlier).1.grants claim eventId = some lease ∧
        (((initial.run earlier).1.step claim).1 = .error .assertionError ∨
          ∃ view ∈ Event.returned (claim, ((initial.run earlier).1.step claim).1),
            view.data.eventId = eventId ∧ view.lease = some lease) ∧
        Undisturbed eventId ((initial.run earlier).1.step claim).2 later := by
  intro initial
  have sound : initial.Sound := sound_init
  constructor
  · intro claim lease granted between owner limit duration now utcNow current time early after
    rintro ⟨view, returned, viewKey⟩
    obtain ⟨_, _, _, _, _, _, record, _, _, _, _, stored, _⟩ :=
      grants_eq_some (sound.run calls) granted
    have held : HeldUntil eventId lease.expiresAt ((initial.run calls).1.step claim).2 := by
      refine ⟨_, stored, .inr ⟨rfl, ?_⟩⟩
      rintro other ⟨⟩
      exact le_rfl
    exact released_of_returned ((sound.run calls).step claim) held between time early returned
      viewKey
  · intro owner now utcNow call settles
    rcases settles.cases (initial.run calls).1 with
      failed | ⟨current, record, lease, time, stored, held⟩
    · exact .inl failed
    · right
      obtain ⟨earlier, claim, later, split, granted, undisturbed⟩ :=
        exists_grant_of_lease sound (by simp [initial, init]) calls stored held.lease_eq
      obtain ⟨claimOwner, limit, duration, claimNow, claimUtc, _, before, view, rfl, _, step, _,
        viewKey, reported⟩ := grants_eq_some (sound.run earlier) granted
      have viewLease : view.lease = some lease ∧ lease.owner = claimOwner := by
        cases step with
        | claim _ _ _ ownerEq _ _ _ taken =>
            exact ⟨(MutableRecord.snapshot_eq_ok_iff.mp taken).2.2.2.1, ownerEq⟩
      obtain ⟨viewLease, rfl⟩ := viewLease
      refine ⟨current, lease, earlier, _, later, time, held.live, split, ?_, granted, ?_,
        undisturbed⟩
      · rw [held.owner_eq]
        exact ⟨limit, duration, claimNow, claimUtc, rfl⟩
      · rcases reported with raised | returned
        · exact .inl raised
        · exact .inr ⟨view, returned, viewKey, viewLease⟩

/-- A worker claims for 100 microseconds at the given time. -/
def sampleClaim (owner : String) (micros : Utc) : Call Empty :=
  .atomicClaim (str owner) 10 100 (some (.ofUtc micros)) 0

/-- The first worker releases the sample event at microsecond 30. -/
def sampleRelease : Call Empty :=
  .release (str "order-1-b") (str "worker-1") ⟨none, str "ValueError", str "ValueError", str "no"⟩
    true (some (.ofUtc 30)) 0

/-- The second worker claims within the lifetime of the first lease, after its
release, and then completes. -/
theorem lease_exclusion_and_fencing_sample :
    let initial : InMemoryOutboxStore Empty := init 5 (by decide)
    let claim := sampleClaim "worker-1" ⟨20, by decide⟩
    let reclaim := sampleClaim "worker-2" ⟨40, by decide⟩
    (∃ event ∈ (((initial.run [.append sampleIntent]).1.step claim).2.run [sampleRelease]).2,
      event.releases (str "order-1-b")) ∧
    ∃ earlier later limit duration now utcNow,
      [.append sampleIntent, claim, sampleRelease, reclaim] =
        earlier ++ .atomicClaim (str "worker-2") limit duration now utcNow :: later := by
  intro initial claim reclaim
  constructor
  · have returned : str "order-1-b" ∈ (Event.returned (reclaim,
        ((((initial.run [.append sampleIntent]).1.step claim).2.run [sampleRelease]).1.step
          reclaim).1)).map (·.data.eventId) := by
      decide +kernel
    exact ((lease_exclusion_and_fencing 5 (by decide) [.append sampleIntent]
      (str "order-1-b")).1 claim
      ⟨str "worker-1", ⟨20, by decide⟩, ⟨120, by decide⟩, 1, by decide, by decide, by decide⟩
      (by decide +kernel) [sampleRelease] (str "worker-2") 10 100 _ _ ⟨40, by decide⟩
      (by decide +kernel) (by decide) (List.mem_map.mp returned)).1
  · rcases (lease_exclusion_and_fencing 5 (by decide)
      [.append sampleIntent, claim, sampleRelease, reclaim] (str "order-1-b")).2
      (str "worker-2") (some (.ofUtc ⟨50, by decide⟩)) ⟨0, by decide⟩
      (.complete (str "order-1-b") (str "worker-2") (some (.number 1)) sampleIntent.digest
        (some (.ofUtc ⟨50, by decide⟩)) ⟨0, by decide⟩) (.complete _ _) with
      ⟨error, failed⟩ | ⟨_, _, earlier, _, later, _, _, split, ⟨limit, duration, now, utcNow, rfl⟩, _⟩
    · have succeeds : ((initial.run [.append sampleIntent, claim, sampleRelease, reclaim]).1.step
          (.complete (str "order-1-b") (str "worker-2") (some (.number 1)) sampleIntent.digest
            (some (.ofUtc ⟨50, by decide⟩)) ⟨0, by decide⟩)).1.isOk = true := by
        decide +kernel
      rw [failed] at succeeds
      cases succeeds
    · exact ⟨earlier, later, limit, duration, now, utcNow, split⟩

end DataLifecycle.Outbox.InMemoryOutboxStore
