import DataLifecycle.Evidence
import DataLifecycle.Interaction.Pool
import DataLifecycle.Outbox.Steps
import DataLifecycle.Runner.Model

/-!
# One cycle of the projection runner

`ProjectionRunner.run_once` as a script over the calls that it makes: the clock, the
outbox, the source loader, the projector, the target, the acknowledgement extractor and
the evidence sink.  The local variables are the counters of the cycle.
-/

namespace DataLifecycle.Runner

open Python Interaction Outbox

variable {F : Type} [FloatText F]

/-- `ProjectionContext`. -/
structure ProjectionContext (F : Type) where
  projection : Str
  eventId : Str
  sourceCatalog : Str
  sourceResource : Str
  sourceSchema : Str
  sourceIdentity : Json F
  sourceVersion : Option Version
  mutationKind : Str
  occurredAt : Utc
  operationContext : List (Str × Str)

/-- `ProjectionRun`. -/
structure ProjectionRun where
  claimed : Nat := 0
  completed : Nat := 0
  retryable : Nat := 0
  quarantined : Nat := 0
  deriving DecidableEq

/-- `ProjectionRunner`.  The lease is in microseconds; a positive number of seconds may
round to zero.  Without a custom extractor the default acknowledgement is used. -/
structure ProjectionRunner where
  spec : ProjectionSpec
  hasSourceLoader : Bool := false
  customAcknowledgement : Bool := false
  batchSize : Int := 100
  lease : Int := 60000000
  workerId : Str
  batchSize_pos : 1 ≤ batchSize
  lease_nonneg : 0 ≤ lease
  workerId_ne : workerId ≠ []

/-! ## Calls -/

/-- The calls of a runner. -/
inductive RunnerHook (F : Type) [FloatText F]
  | clock
  | atomicClaim (owner : Str) (limit leaseDuration : Int) (now : Utc)
  | loadSource (reference : List (Str × Json F)) (sourceVersion : Option Version)
  | project (source : PyValue F) (context : ProjectionContext F)
  | execute (expression : Expression F)
  | acknowledge (result : OperationResult F) (source : OutboxDataV1 F)
  | complete (eventId owner : Str) (acknowledgedSourceVersion : Option Version)
      (targetFingerprint : Str) (now : DateTime)
  | release (eventId owner : Str) (error : Exc) (retryable : Bool) (now : DateTime)
  | record (evidence : LifecycleEvidence F)

/-- The value that a call returns.  A value of another class raises `AttributeError` where
it is first read, inside the same `try` statement as the call. -/
abbrev RunnerHook.Answer : RunnerHook F → Type
  | .clock => DateTime
  | .atomicClaim _ _ _ _ => List (OutboxRecord F)
  | .loadSource _ _ => PyValue F
  | .project _ _ => Expression F
  | .execute _ => OperationResult F
  | .acknowledge _ _ => Option Version × Str
  | .complete _ _ _ _ _ => Checkpoint
  | .release _ _ _ _ _ => OutboxRecord F
  | .record _ => Unit

/-- A call returns a value or raises. -/
abbrev RunnerHook.Response (hook : RunnerHook F) : Type := Except Exc hook.Answer

/-- A call with its response. -/
abbrev RunnerCall (F : Type) [FloatText F] := Σ hook : RunnerHook F, hook.Response

/-- A part of a cycle. -/
abbrev Running (F : Type) [FloatText F] (α : Type) :=
  Script (RunnerHook F) RunnerHook.Response Exc ProjectionRun α

/-- Make one call. -/
def request (hook : RunnerHook F) : Running F hook.Answer := Script.invoke hook id

/-! ## The cycle -/

/-- `OutboxState.value`. -/
def stateValue : OutboxState → Str
  | .pending => str "PENDING"
  | .leased => str "LEASED"
  | .completed => str "COMPLETED"
  | .retryable => str "RETRYABLE"
  | .quarantined => str "QUARANTINED"

/-- `isinstance(error, MeridianError) and error.retryable`. -/
def isRetryable (error : Exc) : Bool := error.code.isSome && error.retryable

/-- The evidence of a completed record. -/
def completedDetails (data : OutboxFields F) (targetFingerprint : Str) : List (Str × Json F) := [
  (str "eventId", .str data.eventId),
  (str "sourceVersion", versionJson data.sourceVersion),
  (str "targetFingerprint", .str targetFingerprint)]

/-- `released.failure.code if released.failure else "unknown"`. -/
def releasedCode (released : OutboxRecord F) : Str :=
  (released.failure.map OutboxFailure.code).getD (str "unknown")

/-- The evidence of a released record. -/
def releasedDetails (data : OutboxFields F) (released : OutboxRecord F) : List (Str × Json F) := [
  (str "eventId", .str data.eventId),
  (str "failureCode", .str (releasedCode released))]

/-- Count a released record. -/
def ProjectionRun.release (released : OutboxRecord F) (counters : ProjectionRun) : ProjectionRun :=
  if released.state = .quarantined then { counters with quarantined := counters.quarantined + 1 }
  else { counters with retryable := counters.retryable + 1 }

namespace ProjectionRunner

/-- `_source`. -/
def source (runner : ProjectionRunner) (data : OutboxFields F) : Running F (PyValue F) :=
  match data.payload, data.immutableReference with
  | some payload, _ => pure (Json.object payload).toPy
  | none, none => Script.raise .assertionError
  | none, some reference =>
      if runner.hasSourceLoader then request (.loadSource reference data.sourceVersion)
      else Script.raise
        (.projectionRejected "referenced outbox data requires a source version loader")

/-- `_context`. -/
def context (runner : ProjectionRunner) (data : OutboxFields F) : ProjectionContext F where
  projection := runner.spec.name
  eventId := data.eventId
  sourceCatalog := data.sourceCatalog
  sourceResource := data.sourceResource
  sourceSchema := data.sourceSchema
  sourceIdentity := data.sourceIdentity
  sourceVersion := data.sourceVersion
  mutationKind := data.mutationKind
  occurredAt := data.occurredAt
  operationContext := data.operationContext

/-- `self._acknowledgement(result, record.data)`. -/
def acknowledgement (runner : ProjectionRunner) (result : OperationResult F)
    (data : OutboxDataV1 F) : Running F (Option Version × Str) :=
  if runner.customAcknowledgement then request (.acknowledge result data)
  else Script.lift (defaultAcknowledgement result data.toOutboxFields)

/-- `self._evidence.record(LifecycleEvidence(kind="projection", …))`. -/
def recordEvidence (runner : ProjectionRunner) (state : Str) (details : List (Str × Json F)) :
    Running F Unit := do
  let now ← request .clock
  let evidence ← Script.lift (LifecycleEvidence.make (str "projection") runner.spec.name state
    details now)
  request (.record evidence)

/-- From the checks of a record to the result of the target. -/
def deliver (runner : ProjectionRunner) (data : OutboxDataV1 F) : Running F (OperationResult F) := do
  Script.lift (validateRecord runner.spec data.toOutboxFields)
  let source ← runner.source data.toOutboxFields
  let expression ← request (.project source (runner.context data.toOutboxFields))
  Script.lift (validateExpression runner.spec expression)
  request (.execute expression)

/-- The body of the `try` statement. -/
def projectRecord (runner : ProjectionRunner) (data : OutboxDataV1 F) : Running F Unit := do
  let result ← runner.deliver data
  let acknowledged ← runner.acknowledgement result data
  let now ← request .clock
  let _ ← request (.complete data.eventId runner.workerId acknowledged.1 acknowledged.2 now)
  Script.assign fun counters => { counters with completed := counters.completed + 1 }
  runner.recordEvidence (str "COMPLETED") (completedDetails data.toOutboxFields acknowledged.2)

/-- The handler `except Exception as error`. -/
def releaseRecord (runner : ProjectionRunner) (data : OutboxDataV1 F) (error : Exc) :
    Running F Unit :=
  if error.isException then do
    let now ← request .clock
    let released ← request (.release data.eventId runner.workerId error (isRetryable error) now)
    Script.assign (ProjectionRun.release released)
    runner.recordEvidence (stateValue released.state)
      (releasedDetails data.toOutboxFields released)
  else Script.raise error

/-- The loop over the claimed records. -/
def processRecords (runner : ProjectionRunner) : List (OutboxRecord F) → Running F Unit
  | [] => pure ()
  | record :: rest => do
      Script.tryExcept (runner.projectRecord record.data) (runner.releaseRecord record.data)
      processRecords runner rest

/-- `now or self._clock()`. -/
def chooseTime : Option DateTime → Running F DateTime
  | some now => pure now
  | none => request .clock

/-- `run_once`. -/
def runOnce (runner : ProjectionRunner) (now : Option DateTime) : Running F ProjectionRun := do
  let time ← chooseTime now
  let claimTime ← Script.lift (ensureUtc "now" time)
  let records ← request
    (.atomicClaim runner.workerId runner.batchSize runner.lease claimTime)
  Script.assign fun _ => {}
  runner.processRecords records
  let counters ← Script.locals
  pure { counters with claimed := records.length }

end ProjectionRunner

/-! ## The outbox that answers -/

/-- `f"{type(error).__module__}.{type(error).__qualname__}"`; the classes of this package
are subclasses of `MeridianError` and do not need it. -/
def qualifiedName : ErrorClass → Str
  | .foreign _ qualified _ => qualified
  | cls => str "builtins." ++ cls.name

/-- What a release reads of an exception; `text` is the result of `str(error)`. -/
def errorView (error : Exc) (text : Str) : ErrorView :=
  ⟨error.code, qualifiedName error.cls, error.cls.name, text⟩

/-- The reading of the clock that a call with a given time does not take. -/
def unread : Utc := 0

/-- A release in which `str(error)` raises. -/
def releaseFailure (store : InMemoryOutboxStore F) (eventId owner : Str) (now : DateTime)
    (raised : Exc) : Exc :=
  match currentTime (some now) unread with
  | .error error => error
  | .ok current =>
      match store.leasedRecord eventId owner current with
      | .error error => error
      | .ok _ => raised

/-- How the callbacks and the outbox answer a call.  The outbox computes its answer; a
callback may answer anything.  `describe` is `str(error)`. -/
inductive Answers (describe : Exc → Except Exc Str) (store : InMemoryOutboxStore F) :
    (hook : RunnerHook F) → hook.Response → InMemoryOutboxStore F → Prop
  | clock (response : Except Exc DateTime) : Answers describe store .clock response store
  | atomicClaim (owner : Str) (limit leaseDuration : Int) (now : Utc) :
      Answers describe store (.atomicClaim owner limit leaseDuration now)
        (store.atomicClaim owner limit leaseDuration (some (.ofUtc now)) unread).1
        (store.atomicClaim owner limit leaseDuration (some (.ofUtc now)) unread).2
  | loadSource (reference : List (Str × Json F)) (version : Option Version)
      (response : Except Exc (PyValue F)) :
      Answers describe store (.loadSource reference version) response store
  | project (source : PyValue F) (context : ProjectionContext F)
      (response : Except Exc (Expression F)) :
      Answers describe store (.project source context) response store
  | execute (expression : Expression F) (response : Except Exc (OperationResult F)) :
      Answers describe store (.execute expression) response store
  | acknowledge (result : OperationResult F) (data : OutboxDataV1 F)
      (response : Except Exc (Option Version × Str)) :
      Answers describe store (.acknowledge result data) response store
  | complete (eventId owner : Str) (version : Option Version) (fingerprint : Str) (now : DateTime) :
      Answers describe store (.complete eventId owner version fingerprint now)
        (store.complete eventId owner version fingerprint (some now) unread).1
        (store.complete eventId owner version fingerprint (some now) unread).2
  | release (eventId owner : Str) (error : Exc) (retryable : Bool) (now : DateTime) (text : Str)
      (described : describe error = .ok text) :
      Answers describe store (.release eventId owner error retryable now)
        (store.release eventId owner (errorView error text) retryable (some now) unread).1
        (store.release eventId owner (errorView error text) retryable (some now) unread).2
  | releaseFails (eventId owner : Str) (error raised : Exc) (retryable : Bool) (now : DateTime)
      (described : describe error = .error raised) :
      Answers describe store (.release eventId owner error retryable now)
        (.error (releaseFailure store eventId owner now raised)) store
  | record (evidence : LifecycleEvidence F) (response : Except Exc Unit) :
      Answers describe store (.record evidence) response store

/-- Whether the call is one of the outbox. -/
def RunnerHook.isOutbox : RunnerHook F → Bool
  | .atomicClaim _ _ _ _ => true
  | .complete _ _ _ _ _ => true
  | .release _ _ _ _ _ => true
  | _ => false

/-- Only calls of the outbox change it. -/
theorem Answers.store_eq {describe : Exc → Except Exc Str} {store after : InMemoryOutboxStore F}
    {hook : RunnerHook F} {response : hook.Response}
    (answers : Answers describe store hook response after) (other : hook.isOutbox = false) :
    after = store := by
  cases answers with
  | atomicClaim => cases other
  | complete => cases other
  | release => cases other
  | releaseFails => cases other
  | _ => rfl

/-- The outbox after a call is the outbox after calls of its own operations. -/
theorem Answers.run {describe : Exc → Except Exc Str} {store after : InMemoryOutboxStore F}
    {hook : RunnerHook F} {response : hook.Response}
    (answers : Answers describe store hook response after) :
    ∃ calls : List (Call F), after = (store.run calls).1 := by
  cases answers with
  | atomicClaim owner limit duration now =>
      exact ⟨[.atomicClaim owner limit duration (some (.ofUtc now)) unread], rfl⟩
  | complete eventId owner version fingerprint now =>
      exact ⟨[.complete eventId owner version fingerprint (some now) unread], rfl⟩
  | release eventId owner error retryable now text =>
      exact ⟨[.release eventId owner (errorView error text) retryable (some now) unread], rfl⟩
  | _ => exact ⟨[], rfl⟩

end DataLifecycle.Runner
