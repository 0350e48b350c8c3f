import DataLifecycle.Outbox.Redaction

/-!
# The in-memory outbox store

`InMemoryOutboxStore` with its records and checkpoints as insertion-ordered
dictionaries.  Every operation returns its result together with the store that
it leaves behind, also when it raises: a claim that overflows the calendar has
already changed the record at hand.
-/

namespace DataLifecycle.Outbox

open Python

variable {F : Type} [FloatText F]

/-- `_MutableRecord`. -/
structure MutableRecord (F : Type) [FloatText F] where
  data : OutboxDataV1 F
  state : OutboxState := .pending
  attemptCount : Nat := 0
  lease : Option OutboxLease := none
  failure : Option OutboxFailure := none
  targetFingerprint : Option Str := none
  completedAt : Option Utc := none

/-- `_MutableRecord.snapshot`. -/
def MutableRecord.snapshot (record : MutableRecord F) : Except Exc (OutboxRecord F) :=
  if lease_iff : record.state = .leased ↔ record.lease.isSome then
    .ok ⟨record.data, record.state, record.attemptCount, record.lease, record.failure,
      record.targetFingerprint, record.completedAt, lease_iff⟩
  else .error (.valueError "only a LEASED outbox record may contain a lease")

/-- `InMemoryOutboxStore`. -/
structure InMemoryOutboxStore (F : Type) [FloatText F] where
  poisonThreshold : Nat
  poisonThreshold_pos : 0 < poisonThreshold
  records : Dict Str (MutableRecord F)
  checkpoints : Dict Str Checkpoint

/-- The result of an operation and the store after it. -/
abbrev Outcome (F : Type) [FloatText F] (α : Type) := Except Exc α × InMemoryOutboxStore F

/-- `ensure_utc(now or utc_now(), field="now")`; `utcNow` is the clock reading. -/
def currentTime (now : Option DateTime) (utcNow : Utc) : Except Exc Utc :=
  match now with
  | none => .ok utcNow
  | some value => ensureUtc "now" value

theorem currentTime_ofUtc (instant utcNow : Utc) :
    currentTime (some (.ofUtc instant)) utcNow = .ok instant := by
  rw [currentTime, ensureUtc_eq_ok_iff, DateTime.toUtc_ofUtc]

namespace InMemoryOutboxStore

/-- A new store. -/
def init (poisonThreshold : Nat) (positive : 0 < poisonThreshold) : InMemoryOutboxStore F :=
  ⟨poisonThreshold, positive, .empty, .empty⟩

/-- A new store with the default poison threshold. -/
def initDefault : InMemoryOutboxStore F := init 5 (by decide)

/-- Replace the record at a key. -/
def setRecord (store : InMemoryOutboxStore F) (key : Str) (record : MutableRecord F) :
    InMemoryOutboxStore F :=
  { store with records := store.records.set key record }

/-- Append idempotently by event id and canonical digest. -/
def append (store : InMemoryOutboxStore F) (data : OutboxDataV1 F) : Outcome F Unit :=
  match store.records.get? data.eventId with
  | none => (.ok (), store.setRecord data.eventId { data := data })
  | some existing =>
      if existing.data.digest ≠ data.digest then
        (.error (.meridian .conflictError "MERIDIAN_OUTBOX_IDEMPOTENCY_CONFLICT"
          "event %r already exists with different content" [data.eventId]), store)
      else (.ok (), store)

/-! ## Claiming -/

/-- What the claim loop does with the first incomplete record of a partition. -/
inductive HeadOutcome (F : Type) [FloatText F]
  | skip
  | fail (error : Exc) (record : MutableRecord F)
  | claim (record : MutableRecord F) (snapshot : OutboxRecord F)

/-- Lease a claimable record.  The record counts the attempt and is LEASED
before its lease exists. -/
def grantLease (owner : Str) (current : Utc) (duration : Int) (record : MutableRecord F) :
    HeadOutcome F :=
  let record := { record with
    attemptCount := record.attemptCount + 1, failure := none, state := .leased }
  match current.add duration with
  | none => .fail .overflowError record
  | some expiresAt =>
      match OutboxLease.make owner current expiresAt record.attemptCount with
      | .error error => .fail error record
      | .ok lease =>
          let record := { record with lease := some lease }
          match record.snapshot with
          | .error error => .fail error record
          | .ok snapshot => .claim record snapshot

/-- Decide about the first incomplete record of a partition. -/
def claimHead (owner : Str) (current : Utc) (duration : Int) (record : MutableRecord F) :
    HeadOutcome F :=
  match record.state with
  | .leased =>
      match record.lease with
      | none => .fail .assertionError record
      | some lease =>
          if current < lease.expiresAt then .skip
          else grantLease owner current duration { record with state := .retryable, lease := none }
  | .pending => grantLease owner current duration record
  | .retryable => grantLease owner current duration record
  | _ => .skip

/-- Records in claim order. -/
abbrev recordLE (first second : Str × MutableRecord F) : Prop :=
  first.2.data.sortKey ≤ second.2.data.sortKey

/-- `sorted(self._records.values(), key=...)`, with the keys of the records. -/
def ordered (store : InMemoryOutboxStore F) : List (Str × MutableRecord F) :=
  store.records.items.insertionSort recordLE

/-- The loop of `atomic_claim` over the remaining records. -/
def claimLoop (owner : Str) (limit : Int) (current : Utc) (duration : Int) :
    List (Str × MutableRecord F) → List Str → List (OutboxRecord F) →
      Dict Str (MutableRecord F) → Except Exc (List (OutboxRecord F)) × Dict Str (MutableRecord F)
  | [], _, claimed, records => (.ok claimed, records)
  | (key, record) :: rest, seen, claimed, records =>
      if record.state = .completed then claimLoop owner limit current duration rest seen claimed records
      else if record.data.partitionKey ∈ seen then
        claimLoop owner limit current duration rest seen claimed records
      else
        match claimHead owner current duration record with
        | .skip =>
            claimLoop owner limit current duration rest (record.data.partitionKey :: seen)
              claimed records
        | .fail error record => (.error error, records.set key record)
        | .claim leased snapshot =>
            if ((claimed ++ [snapshot]).length : Int) = limit then
              (.ok (claimed ++ [snapshot]), records.set key leased)
            else
              claimLoop owner limit current duration rest (record.data.partitionKey :: seen)
                (claimed ++ [snapshot]) (records.set key leased)

/-- `atomic_claim`. -/
def atomicClaim (store : InMemoryOutboxStore F) (owner : Str) (limit : Int) (leaseDuration : Int)
    (now : Option DateTime) (utcNow : Utc) : Outcome F (List (OutboxRecord F)) :=
  if owner = [] then (.error (.valueError "owner must be non-empty"), store)
  else if limit < 1 then (.error (.valueError "limit must be positive"), store)
  else if leaseDuration ≤ 0 then (.error (.valueError "lease_duration must be positive"), store)
  else
    match currentTime now utcNow with
    | .error error => (.error error, store)
    | .ok current =>
        let (result, records) := claimLoop owner limit current leaseDuration store.ordered [] []
          store.records
        (result, { store with records := records })

/-! ## Completion, release and retry -/

/-- `_leased_record`. -/
def leasedRecord (store : InMemoryOutboxStore F) (eventId owner : Str) (now : Utc) :
    Except Exc (MutableRecord F) :=
  match store.records.get? eventId with
  | none => .error (.meridian .notFoundError "MERIDIAN_OUTBOX_NOT_FOUND"
      "outbox event %r was not found" [eventId])
  | some record =>
      match record.state, record.lease with
      | .leased, some lease =>
          if lease.owner ≠ owner then
            .error (.leaseLost "outbox event %r is leased by another owner" [eventId])
          else if lease.expiresAt ≤ now then
            .error (.leaseLost "lease for outbox event %r has expired" [eventId])
          else .ok record
      | _, _ => .error (.leaseLost "outbox event %r is not leased" [eventId])

/-- The checkpoint that a completion writes. -/
def nextCheckpoint (store : InMemoryOutboxStore F) (eventId : Str) (data : OutboxDataV1 F)
    (targetFingerprint : Str) (current : Utc) : Checkpoint where
  partitionKey := data.partitionKey
  revision :=
    match store.checkpoints.get? data.partitionKey with
    | none => 1
    | some previous => previous.revision + 1
  eventId := some eventId
  sourceVersion := data.sourceVersion
  targetFingerprint := some targetFingerprint
  advancedAt := some current
  partitionKey_ne := by
    intro empty
    have digest := isSha256_prefixedDigest
      (data.partitionMaterial.sortKeys.print.flatMap encodePoint)
    rw [← OutboxDataV1.partitionKey, empty] at digest
    simp [isSha256] at digest

/-- `complete`. -/
def complete (store : InMemoryOutboxStore F) (eventId owner : Str)
    (acknowledgedSourceVersion : Option Version) (targetFingerprint : Str)
    (now : Option DateTime) (utcNow : Utc) : Outcome F Checkpoint :=
  match requireSha256 "target_fingerprint" targetFingerprint with
  | .error error => (.error error, store)
  | .ok _ =>
      match currentTime now utcNow with
      | .error error => (.error error, store)
      | .ok current =>
          match store.leasedRecord eventId owner current with
          | .error error => (.error error, store)
          | .ok record =>
              if acknowledgedSourceVersion ≠ record.data.sourceVersion then
                (.error (.checkpointConflict
                  "target acknowledgement does not match the exact source version"), store)
              else
                let checkpoint := store.nextCheckpoint eventId record.data targetFingerprint current
                let completed := { record with
                  state := .completed, lease := none, failure := none,
                  targetFingerprint := some targetFingerprint, completedAt := some current }
                (.ok checkpoint, { store.setRecord eventId completed with
                  checkpoints := store.checkpoints.set record.data.partitionKey checkpoint })

/-- The record after a release with the given failure. -/
def releasedRecord (store : InMemoryOutboxStore F) (record : MutableRecord F)
    (failure : OutboxFailure) (retryable : Bool) : MutableRecord F :=
  { record with
    failure := some failure, lease := none,
    state := if !retryable || store.poisonThreshold ≤ record.attemptCount then .quarantined
      else .retryable }

/-- `release`. -/
def release (store : InMemoryOutboxStore F) (eventId owner : Str) (error : ErrorView)
    (retryable : Bool) (now : Option DateTime) (utcNow : Utc) : Outcome F (OutboxRecord F) :=
  match currentTime now utcNow with
  | .error error => (.error error, store)
  | .ok current =>
      match store.leasedRecord eventId owner current with
      | .error error => (.error error, store)
      | .ok record =>
          match redactedFailure error current with
          | .error error => (.error error, store)
          | .ok failure =>
              let released := store.releasedRecord record failure retryable
              (released.snapshot, store.setRecord eventId released)

/-- `operator_retry`: return one quarantined event to retryable state. -/
def operatorRetry (store : InMemoryOutboxStore F) (eventId reason : Str) :
    Outcome F (OutboxRecord F) :=
  if strip reason = [] then
    (.error (.valueError "operator retry reason must be non-empty"), store)
  else
    match store.records.get? eventId with
    | none => (.error (.meridian .notFoundError "MERIDIAN_OUTBOX_NOT_FOUND"
        "outbox event %r was not found" [eventId]), store)
    | some record =>
        if record.state ≠ .quarantined then
          (.error (.meridian .conflictError "MERIDIAN_OUTBOX_STATE_CONFLICT"
            "outbox event %r is not quarantined" [eventId]), store)
        else
          let retried := { record with state := .retryable, failure := none }
          (retried.snapshot, store.setRecord eventId retried)

/-- `compare_and_set_checkpoint`. -/
def compareAndSetCheckpoint (store : InMemoryOutboxStore F) (checkpoint : Checkpoint)
    (expectedRevision : Int) : Outcome F Checkpoint :=
  let revision : Int :=
    match store.checkpoints.get? checkpoint.partitionKey with
    | none => 0
    | some current => current.revision
  if revision ≠ expectedRevision then
    (.error (.checkpointConflict "checkpoint revision %s does not match %s"
      [Json.intText revision, Json.intText expectedRevision]), store)
  else if (checkpoint.revision : Int) ≠ expectedRevision + 1 then
    (.error (.checkpointConflict "new checkpoint revision must increment by one"), store)
  else (.ok checkpoint, { store with
    checkpoints := store.checkpoints.set checkpoint.partitionKey checkpoint })

end InMemoryOutboxStore

/-! ## Calls and runs -/

/-- One call on the store with its arguments and the clock reading that it would
take. -/
inductive Call (F : Type) [FloatText F]
  | append (data : OutboxDataV1 F)
  | atomicClaim (owner : Str) (limit leaseDuration : Int) (now : Option DateTime) (utcNow : Utc)
  | complete (eventId owner : Str) (acknowledgedSourceVersion : Option Version)
      (targetFingerprint : Str) (now : Option DateTime) (utcNow : Utc)
  | release (eventId owner : Str) (error : ErrorView) (retryable : Bool) (now : Option DateTime)
      (utcNow : Utc)
  | operatorRetry (eventId reason : Str)
  | compareAndSetCheckpoint (checkpoint : Checkpoint) (expectedRevision : Int)

/-- What a successful call returns. -/
inductive Reply (F : Type) [FloatText F]
  | none
  | records (claimed : List (OutboxRecord F))
  | checkpoint (checkpoint : Checkpoint)
  | record (record : OutboxRecord F)

namespace InMemoryOutboxStore

/-- Execute one call. -/
def step (store : InMemoryOutboxStore F) : Call F → Outcome F (Reply F)
  | .append data => (store.append data).map (·.map fun _ => .none) id
  | .atomicClaim owner limit leaseDuration now utcNow =>
      (store.atomicClaim owner limit leaseDuration now utcNow).map (·.map .records) id
  | .complete eventId owner version fingerprint now utcNow =>
      (store.complete eventId owner version fingerprint now utcNow).map (·.map .checkpoint) id
  | .release eventId owner error retryable now utcNow =>
      (store.release eventId owner error retryable now utcNow).map (·.map .record) id
  | .operatorRetry eventId reason => (store.operatorRetry eventId reason).map (·.map .record) id
  | .compareAndSetCheckpoint checkpoint expectedRevision =>
      (store.compareAndSetCheckpoint checkpoint expectedRevision).map (·.map .checkpoint) id

/-- One entry of the history of a run: a call and its result. -/
abbrev Event (F : Type) [FloatText F] := Call F × Except Exc (Reply F)

/-- Execute calls one after another: the store at the end, and the history. -/
def run (store : InMemoryOutboxStore F) : List (Call F) → InMemoryOutboxStore F × List (Event F)
  | [] => (store, [])
  | call :: rest =>
      let (result, next) := store.step call
      let (final, history) := run next rest
      (final, (call, result) :: history)

end InMemoryOutboxStore

end DataLifecycle.Outbox
