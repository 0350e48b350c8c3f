import DataLifecycle.Outbox.Batch
import DataLifecycle.Outbox.Lifecycle
import DataLifecycle.Runner.Agreement
import DataLifecycle.Runner.RunOnce

/-!
# Acknowledgement gates progress

Runners take turns at one outbox, call by call, while their callbacks answer anything.
A record becomes COMPLETED, and the checkpoint of its partition moves, only by a runner
that holds the record and whose last calls delivered it to the target, with the exact
source version acknowledged.
-/

namespace DataLifecycle.Runner

open Python Interaction Outbox

variable {F ι α β : Type} [FloatText F]

/-! ## What a runner has done before a completion -/

/-- Whether the call is a claim. -/
def isClaim : RunnerCall F → Bool
  | ⟨.atomicClaim _ _ _ _, _⟩ => true
  | _ => false

/-- The last claim of the history returned the data to the runner. -/
def InCycle (runner : ProjectionRunner) (history : List (RunnerCall F)) (data : OutboxDataV1 F) :
    Prop :=
  ∃ before time records between,
    history = before ++
      ⟨.atomicClaim runner.workerId runner.batchSize runner.lease time, .ok records⟩ :: between ∧
    (∀ call ∈ between, isClaim call = false) ∧ ∃ record ∈ records, record.data = data

/-- The history ends with the delivery of the data: the projector and the target answered,
and the clock was read. -/
def Delivered (runner : ProjectionRunner) (history : List (RunnerCall F)) (data : OutboxDataV1 F)
    (expression : Expression F) (result : OperationResult F) (now : DateTime) : Prop :=
  ∃ earlier source, InCycle runner earlier data ∧
    history = earlier ++ [
      ⟨.project source (runner.context data.toOutboxFields), .ok expression⟩,
      ⟨.execute expression, .ok result⟩,
      ⟨.clock, .ok now⟩]

/-- The expression is one for the target of the specification. -/
def ForTarget (spec : ProjectionSpec) (expression : Expression F) : Prop :=
  expression.catalog = spec.targetCatalog ∧
    namesTarget spec (getMember (str "resource") expression.arguments) = true

/-- What the runner knows when it completes an event. -/
def Acknowledged (runner : ProjectionRunner) (history : List (RunnerCall F)) (data : OutboxDataV1 F)
    (version : Option Version) (now : DateTime) : Prop :=
  validateRecord runner.spec data.toOutboxFields = .ok () ∧
    ∃ expression result, Delivered runner history data expression result now ∧
      ForTarget runner.spec expression ∧
      ((data.sourceVersion = none ∧ version = none) ∨
        (data.sourceVersion ≠ none ∧ version = acknowledgedVersion result.data))

/-- A runner completes only what its history acknowledges. -/
def gate (runner : ProjectionRunner) :
    Automaton (RunnerHook F) RunnerHook.Response (List (RunnerCall F)) where
  allows history hook :=
    match hook with
    | .complete eventId owner version _ now =>
        owner = runner.workerId ∧
          ∃ data : OutboxDataV1 F, data.eventId = eventId ∧ Acknowledged runner history data version now
    | _ => True
  next history hook response := history ++ [⟨hook, response⟩]

/-- The part of a cycle passes the gate, and ends with the postconditions. -/
def Gated (runner : ProjectionRunner) (part : Running F α)
    (normal : α → List (RunnerCall F) → Prop) (exceptional : List (RunnerCall F) → Prop)
    (history : List (RunnerCall F)) : Prop :=
  ∀ counters, part.Safe
    (fun before hook response after => after = (gate runner).next before hook response)
    (gate runner).allows (fun value _ after => normal value after) (fun _ _ after => exceptional after)
    counters history

variable {runner : ProjectionRunner} {history : List (RunnerCall F)}
  {exceptional : List (RunnerCall F) → Prop}

theorem gated_bind {part : Running F β} {rest : β → Running F α}
    {normal : α → List (RunnerCall F) → Prop}
    (gated : Gated runner part (fun value => Gated runner (rest value) normal exceptional)
      exceptional history) :
    Gated runner (part >>= rest) normal exceptional history := by
  intro counters
  rw [Script.safe_bind]
  exact (gated counters).mono (fun _ final _ continued => continued final) fun _ _ _ raised => raised

theorem Gated.mono {part : Running F α} {normal weaker : α → List (RunnerCall F) → Prop}
    {weakerExceptional : List (RunnerCall F) → Prop}
    (gated : Gated runner part normal exceptional history)
    (onValue : ∀ value after, normal value after → weaker value after)
    (onError : ∀ after, exceptional after → weakerExceptional after) :
    Gated runner part weaker weakerExceptional history :=
  fun counters => (gated counters).mono (fun value _ => onValue value) fun _ _ => onError

theorem gated_pure {value : α} {normal : α → List (RunnerCall F) → Prop}
    (returns : normal value history) :
    Gated runner (pure value : Running F α) normal exceptional history :=
  fun _ => returns

theorem gated_raise {error : Exc} {normal : α → List (RunnerCall F) → Prop}
    (raises : exceptional history) :
    Gated runner (Script.raise error : Running F α) normal exceptional history :=
  fun _ => raises

theorem gated_assign {change : ProjectionRun → ProjectionRun}
    {normal : Unit → List (RunnerCall F) → Prop} (returns : normal () history) :
    Gated runner (Script.assign change : Running F Unit) normal exceptional history :=
  fun _ => returns

theorem gated_lift {result : Except Exc α} {normal : α → List (RunnerCall F) → Prop}
    (raises : exceptional history) (returns : ∀ value, result = .ok value → normal value history) :
    Gated runner (Script.lift result : Running F α) normal exceptional history := by
  cases result with
  | error error => exact fun _ => raises
  | ok value => exact fun _ => returns value rfl

theorem gated_tryExcept {part : Running F α} {handler : Exc → Running F α}
    {normal : α → List (RunnerCall F) → Prop} {caught : List (RunnerCall F) → Prop}
    (body : Gated runner part normal caught history)
    (handles : ∀ error after, caught after → Gated runner (handler error) normal exceptional after) :
    Gated runner (Script.tryExcept part handler) normal exceptional history := by
  intro counters
  rw [Script.safe_tryExcept]
  exact (body counters).mono (fun _ _ _ returned => returned)
    fun error final after raised => handles error after raised final

theorem gated_request {hook : RunnerHook F} {normal : hook.Answer → List (RunnerCall F) → Prop}
    (allowed : (gate runner).allows history hook)
    (returns : ∀ answer, normal answer (history ++ [⟨hook, .ok answer⟩]))
    (raises : ∀ error, exceptional (history ++ [⟨hook, .error error⟩])) :
    Gated runner (request hook) normal exceptional history := by
  intro counters
  rw [request, Script.safe_invoke]
  refine ⟨allowed, ?_⟩
  rintro response after rfl
  cases response with
  | error error => exact raises error
  | ok answer => exact returns answer

/-! ## The cycle of a runner passes the gate -/

theorem InCycle.snoc {data : OutboxDataV1 F} (inCycle : InCycle runner history data)
    {call : RunnerCall F} (notClaim : isClaim call = false) :
    InCycle runner (history ++ [call]) data := by
  obtain ⟨before, time, records, between, rfl, quiet, record⟩ := inCycle
  refine ⟨before, time, records, between ++ [call], ?_, ?_, record⟩
  · rw [List.append_assoc, List.cons_append]
  · intro other otherMem
    rcases List.mem_append.mp otherMem with earlier | last
    · exact quiet other earlier
    · rw [List.mem_singleton.mp last]
      exact notClaim

/-- Every record of the batch is one of the current cycle. -/
def Batch (runner : ProjectionRunner) (records : List (OutboxRecord F))
    (history : List (RunnerCall F)) : Prop :=
  ∀ record ∈ records, InCycle runner history record.data

theorem Batch.snoc {records : List (OutboxRecord F)} (batch : Batch runner records history)
    {call : RunnerCall F} (notClaim : isClaim call = false) :
    Batch runner records (history ++ [call]) :=
  fun record recordMem => (batch record recordMem).snoc notClaim

/-- A call that is neither a claim nor a completion keeps the batch. -/
theorem gated_quiet {hook : RunnerHook F} {records : List (OutboxRecord F)}
    (allowed : (gate runner).allows history hook)
    (notClaim : ∀ response, isClaim ⟨hook, response⟩ = false) (batch : Batch runner records history) :
    Gated runner (request hook) (fun _ => Batch runner records) (Batch runner records) history :=
  gated_request allowed (fun _ => batch.snoc (notClaim _)) fun _ => batch.snoc (notClaim _)

theorem gated_recordEvidence {state : Str} {details : List (Str × Json F)}
    {records : List (OutboxRecord F)} (batch : Batch runner records history) :
    Gated runner (runner.recordEvidence state details) (fun _ => Batch runner records)
      (Batch runner records) history := by
  apply gated_bind
  apply gated_request
  · trivial
  · intro now
    have clocked : Batch runner records (history ++ [⟨.clock, .ok now⟩]) := batch.snoc rfl
    apply gated_bind
    apply gated_lift clocked
    intro evidence _
    exact gated_quiet trivial (fun _ => rfl) clocked
  · intro error
    exact batch.snoc rfl

theorem gated_source {data : OutboxFields F} {records : List (OutboxRecord F)}
    (batch : Batch runner records history) :
    Gated runner (runner.source data) (fun _ => Batch runner records) (Batch runner records)
      history := by
  unfold ProjectionRunner.source
  split
  next => exact gated_pure batch
  next => exact gated_raise batch
  next =>
    split
    · exact gated_quiet trivial (fun _ => rfl) batch
    · exact gated_raise batch

/-- The delivery of a record ends with the answers of the projector and of the target. -/
theorem gated_deliver {data : OutboxDataV1 F} {records : List (OutboxRecord F)}
    (inCycle : ∃ record ∈ records, record.data = data) (batch : Batch runner records history) :
    Gated runner (runner.deliver data)
      (fun result after => Batch runner records after ∧
        validateRecord runner.spec data.toOutboxFields = .ok () ∧
        ∃ earlier source expression, InCycle runner earlier data ∧
          ForTarget runner.spec expression ∧ after = earlier ++ [
            ⟨.project source (runner.context data.toOutboxFields), .ok expression⟩,
            ⟨.execute expression, .ok result⟩])
      (Batch runner records) history := by
  apply gated_bind
  apply gated_lift batch
  intro _ validated
  apply gated_bind
  refine (gated_source batch).mono ?_ fun _ kept => kept
  intro source earlier kept
  apply gated_bind
  apply gated_request
  · trivial
  · intro expression
    have projected : Batch runner records (earlier ++ [
        ⟨.project source (runner.context data.toOutboxFields), .ok expression⟩]) := kept.snoc rfl
    apply gated_bind
    apply gated_lift projected
    intro _ accepted
    apply gated_request
    · trivial
    · intro result
      refine ⟨projected.snoc rfl, validated, earlier, source, expression, ?_,
        validateExpression_eq_ok_iff.mp accepted, ?_⟩
      · obtain ⟨record, recordMem, rfl⟩ := inCycle
        exact kept record recordMem
      · rw [List.append_assoc]
        rfl
    · intro error
      exact projected.snoc rfl
  · intro error
    exact kept.snoc rfl

/-- The body of the loop completes a record only when the target acknowledged it. -/
theorem gated_projectRecord (isDefault : runner.customAcknowledgement = false)
    {data : OutboxDataV1 F} {records : List (OutboxRecord F)}
    (inCycle : ∃ record ∈ records, record.data = data) (batch : Batch runner records history) :
    Gated runner (runner.projectRecord data) (fun _ => Batch runner records)
      (Batch runner records) history := by
  apply gated_bind
  refine (gated_deliver inCycle batch).mono ?_ fun _ kept => kept
  rintro result after ⟨kept, validated, earlier, source, expression, inEarlier, target, rfl⟩
  unfold ProjectionRunner.acknowledgement
  rw [isDefault, if_neg Bool.false_ne_true]
  apply gated_bind
  apply gated_lift kept
  rintro ⟨version, fingerprint⟩ acknowledged
  apply gated_bind
  apply gated_request
  · trivial
  · intro now
    have clocked := kept.snoc (show isClaim (⟨.clock, .ok now⟩ : RunnerCall F) = false from rfl)
    apply gated_bind
    apply gated_request
    · refine ⟨rfl, data, rfl, validated, expression, result, ⟨earlier, source, inEarlier, ?_⟩,
        target, version_of_defaultAcknowledgement acknowledged⟩
      rw [List.append_assoc]
      rfl
    · intro checkpoint
      apply gated_bind
      apply gated_assign
      exact gated_recordEvidence (clocked.snoc rfl)
    · intro error
      exact clocked.snoc rfl
  · intro error
    exact kept.snoc rfl

theorem gated_releaseRecord {data : OutboxDataV1 F} {error : Exc}
    {records : List (OutboxRecord F)} (batch : Batch runner records history) :
    Gated runner (runner.releaseRecord data error) (fun _ => Batch runner records)
      (Batch runner records) history := by
  unfold ProjectionRunner.releaseRecord
  split
  · apply gated_bind
    apply gated_request
    · trivial
    · intro now
      have clocked := batch.snoc (show isClaim (⟨.clock, .ok now⟩ : RunnerCall F) = false from rfl)
      apply gated_bind
      apply gated_request
      · trivial
      · intro released
        apply gated_bind
        apply gated_assign
        exact gated_recordEvidence (clocked.snoc rfl)
      · intro raised
        exact clocked.snoc rfl
    · intro raised
      exact batch.snoc rfl
  · exact gated_raise batch

theorem gated_processRecords (isDefault : runner.customAcknowledgement = false)
    {records todo : List (OutboxRecord F)} (subset : todo ⊆ records)
    (batch : Batch runner records history) :
    Gated runner (runner.processRecords todo) (fun _ => Batch runner records)
      (Batch runner records) history := by
  induction todo generalizing history with
  | nil => exact gated_pure batch
  | cons record rest ih =>
      obtain ⟨recordMem, restSubset⟩ := List.cons_subset.mp subset
      apply gated_bind
      apply gated_tryExcept
      · refine (gated_projectRecord isDefault ⟨record, recordMem, rfl⟩ batch).mono ?_
          fun _ kept => kept
        exact fun _ after kept => ih restSubset kept
      · intro error after kept
        refine (gated_releaseRecord kept).mono ?_ fun _ kept => kept
        exact fun _ after kept => ih restSubset kept

/-- A cycle passes the gate from any history. -/
theorem gated_runOnce (isDefault : runner.customAcknowledgement = false) (now : Option DateTime) :
    Gated runner (runner.runOnce now) (fun _ _ => True) (fun _ => True) history := by
  have claims : ∀ time earlier, Gated runner
      ((do
        let claimTime ← Script.lift (ensureUtc "now" time)
        let records ← request
          (.atomicClaim runner.workerId runner.batchSize runner.lease claimTime)
        Script.assign fun _ => {}
        runner.processRecords records
        let counters ← Script.locals
        pure { counters with claimed := records.length }) : Running F ProjectionRun)
      (fun _ _ => True) (fun _ => True) earlier := by
    intro time earlier
    apply gated_bind
    apply gated_lift trivial
    intro claimTime _
    apply gated_bind
    apply gated_request
    · trivial
    · intro records
      have batch : Batch runner records (earlier ++ [⟨.atomicClaim runner.workerId runner.batchSize
          runner.lease claimTime, .ok records⟩]) := by
        intro record recordMem
        exact ⟨earlier, claimTime, records, [], rfl, List.forall_mem_nil _, record, recordMem, rfl⟩
      apply gated_bind
      apply gated_assign
      apply gated_bind
      refine (gated_processRecords isDefault (List.Subset.refl records) batch).mono ?_
        fun _ _ => trivial
      exact fun _ _ _ _ => trivial
    · intro error
      trivial
  apply gated_bind
  cases now with
  | some time => exact gated_pure (claims time history)
  | none =>
      apply gated_request
      · trivial
      · intro time
        exact claims time _
      · intro error
        trivial

/-- The cycles of a runner, one after the other; the host goes on after an exception. -/
def cycles (runner : ProjectionRunner) : List (Option DateTime) → Running F Unit
  | [] => pure ()
  | now :: rest => do
      Script.tryExcept
        (do
          let _ ← runner.runOnce now
          pure ())
        fun _ => pure ()
      cycles runner rest

theorem gated_cycles (isDefault : runner.customAcknowledgement = false)
    (runs : List (Option DateTime)) :
    Gated runner (cycles runner runs) (fun _ _ => True) (fun _ => True) history := by
  induction runs generalizing history with
  | nil => exact gated_pure trivial
  | cons now rest ih =>
      apply gated_bind
      apply gated_tryExcept
      · apply gated_bind
        exact (gated_runOnce isDefault now).mono (fun _ _ _ => gated_pure ih) fun _ held => held
      · exact fun error after _ => gated_pure ih

/-! ## Runners at one outbox -/

/-- The outbox that the runners share, and the calls that they have made. -/
structure RunnerWorld (F ι : Type) [FloatText F] where
  store : InMemoryOutboxStore F
  log : List (ι × RunnerCall F) := []

variable [DecidableEq ι]

namespace RunnerWorld

/-- The calls of one runner. -/
def own (world : RunnerWorld F ι) (thread : ι) : List (RunnerCall F) :=
  (world.log.filter fun entry => entry.1 = thread).map Prod.snd

omit [DecidableEq ι] in
/-- The world answers a call and logs it. -/
def Responds (describe : Exc → Except Exc Str) (thread : ι) (before : RunnerWorld F ι)
    (hook : RunnerHook F) (response : hook.Response) (after : RunnerWorld F ι) : Prop :=
  ∃ store, Answers describe before.store hook response store ∧
    after = ⟨store, before.log ++ [(thread, ⟨hook, response⟩)]⟩

theorem own_log_append (store : InMemoryOutboxStore F) (log : List (ι × RunnerCall F))
    (thread : ι) (call : RunnerCall F) :
    (⟨store, log ++ [(thread, call)]⟩ : RunnerWorld F ι).own =
      Function.update (own ⟨store, log⟩) thread (own ⟨store, log⟩ thread ++ [call]) := by
  funext other
  by_cases same : other = thread
  · subst other
    simp [own]
  · rw [Function.update_of_ne same]
    simp [own, Ne.symm same]

end RunnerWorld

/-- The runners and the outbox that they share. -/
abbrev RunnerPool (F ι : Type) [FloatText F] :=
  Pool (RunnerHook F) RunnerHook.Response (Except Exc Unit × ProjectionRun) ι (RunnerWorld F ι)

omit [DecidableEq ι] in
/-- The runners before their first cycle. -/
def RunnerPool.start (runners : ι → ProjectionRunner) (runs : ι → List (Option DateTime))
    (store : InMemoryOutboxStore F) : RunnerPool F ι :=
  ⟨fun thread => cycles (runners thread) (runs thread) {}, ⟨store, []⟩⟩

/-- The views that a call claimed. -/
def claimedViews : RunnerCall F → List (OutboxRecord F)
  | ⟨.atomicClaim _ _ _ _, .ok records⟩ => records
  | _ => []

/-- The claimed data is the stored data. -/
def Recalled (store : InMemoryOutboxStore F) (call : RunnerCall F) : Prop :=
  ∀ view ∈ claimedViews call, ∃ record,
    store.records.get? view.data.eventId = some record ∧ record.data = view.data

theorem Answers.recalled {describe : Exc → Except Exc Str} {store after : InMemoryOutboxStore F}
    {hook : RunnerHook F} {response : hook.Response}
    (answers : Answers describe store hook response after) (sound : store.Sound) :
    Recalled after ⟨hook, response⟩ := by
  cases answers with
  | atomicClaim owner limit duration now =>
      intro view viewMem
      cases returned : (store.atomicClaim owner limit duration (some (.ofUtc now)) unread).1 with
      | error error =>
          rw [returned] at viewMem
          cases viewMem
      | ok views =>
          rw [returned] at viewMem
          obtain ⟨_, -, record, _, stored, sameData, -⟩ :=
            (InMemoryOutboxStore.atomicClaim_claimed sound (currentTime_ofUtc now unread)
              returned).held view viewMem
          exact ⟨record, stored, sameData⟩
  | _ => exact List.forall_mem_nil _

/-- The histories are those of the log, and the claimed data is the stored data. -/
structure Traced (phases : ι → List (RunnerCall F)) (world : RunnerWorld F ι) : Prop where
  phases_eq : phases = world.own
  sound : world.store.Sound
  recalled : ∀ entry ∈ world.log, Recalled world.store entry.2

theorem Traced.step {describe : Exc → Except Exc Str} {phases : ι → List (RunnerCall F)}
    {world after : RunnerWorld F ι} (runner : ProjectionRunner) {thread : ι} {hook : RunnerHook F}
    {response : hook.Response} (traced : Traced phases world)
    (responds : RunnerWorld.Responds describe thread world hook response after) :
    Traced (Function.update phases thread ((gate runner).next (phases thread) hook response))
      after := by
  obtain ⟨store, answers, rfl⟩ := responds
  obtain ⟨calls, moved⟩ := answers.run
  obtain ⟨rfl, sound, recalled⟩ := traced
  constructor
  · exact (RunnerWorld.own_log_append store world.log thread ⟨hook, response⟩).symm
  · rw [moved]
    exact sound.run calls
  · intro entry entryMem
    rcases List.mem_append.mp entryMem with earlier | last
    · intro view viewMem
      obtain ⟨record, stored, sameData⟩ := recalled entry earlier view viewMem
      obtain ⟨later, laterStored, laterData, -⟩ :=
        InMemoryOutboxStore.run_keeps sound calls stored
      rw [← moved] at laterStored
      exact ⟨later, laterStored, laterData.trans sameData⟩
    · rw [List.mem_singleton.mp last]
      exact answers.recalled sound

/-- The cycles of a runner with the default acknowledgement follow its gate. -/
theorem follows_gate {runner : ProjectionRunner} (isDefault : runner.customAcknowledgement = false)
    (runs : List (Option DateTime)) (counters : ProjectionRun) :
    (cycles runner runs counters : Prog (RunnerHook F) RunnerHook.Response _).Follows (gate runner)
      [] := by
  have gated : Gated runner (cycles runner runs : Running F Unit) (fun _ _ => True) (fun _ => True)
      [] := gated_cycles isDefault runs
  exact Prog.Safe.mono (gated counters) fun _ _ _ => trivial

/-! ## The gate in every run -/

/-- A runner completes the record in this step, under its own unexpired lease.  It claimed
the record in the current cycle and validated it.  The last calls of the runner, before
the completion, projected the record to an expression for the target, executed it, and
read the clock; the first candidate in the result is the source version, if there is one. -/
structure AcknowledgedStep (runners : ι → ProjectionRunner) (before after : RunnerWorld F ι)
    (record : MutableRecord F) : Prop where
  stored : before.store.records.get? record.data.eventId = some record
  acknowledged : ∃ thread version fingerprint now checkpoint current lease,
    after.log = before.log ++ [(thread, ⟨.complete record.data.eventId (runners thread).workerId
      version fingerprint now, .ok checkpoint⟩)] ∧
    ensureUtc "now" now = .ok current ∧
    InMemoryOutboxStore.HeldBy record (runners thread).workerId current lease ∧
    validateRecord (runners thread).spec record.data.toOutboxFields = .ok () ∧
    ∃ expression result, Delivered (runners thread) (before.own thread) record.data expression
        result now ∧ ForTarget (runners thread).spec expression ∧
      (record.data.sourceVersion = none ∨
        acknowledgedVersion result.data = record.data.sourceVersion)

/-- A record that the current cycle has claimed is stored with its data. -/
theorem Traced.data_eq {phases : ι → List (RunnerCall F)} {world : RunnerWorld F ι}
    (traced : Traced phases world) {runner : ProjectionRunner} {thread : ι}
    {earlier : List (RunnerCall F)} {last : List (RunnerCall F)} {data : OutboxDataV1 F}
    (history : world.own thread = earlier ++ last) (inCycle : InCycle runner earlier data)
    {record : MutableRecord F} (stored : world.store.records.get? data.eventId = some record) :
    record.data = data := by
  obtain ⟨before, time, records, between, rfl, -, view, viewMem, rfl⟩ := inCycle
  have claimMem : (⟨.atomicClaim runner.workerId runner.batchSize runner.lease time,
      .ok records⟩ : RunnerCall F) ∈ world.own thread := by
    rw [history]
    simp
  obtain ⟨entry, entryMem, entryCall⟩ := List.mem_map.mp claimMem
  have recalled := traced.recalled entry (List.mem_of_mem_filter entryMem)
  rw [entryCall] at recalled
  obtain ⟨found, foundStored, sameData⟩ := recalled view viewMem
  rw [stored] at foundStored
  cases foundStored
  exact sameData

/-- What the gate and the outbox check together. -/
theorem acknowledgedStep_of_completes {runners : ι → ProjectionRunner}
    {phases : ι → List (RunnerCall F)} {world after : RunnerWorld F ι} (traced : Traced phases world)
    {thread : ι} {eventId owner : Str} {version : Option Version} {fingerprint : Str}
    {now : DateTime} {checkpoint : Checkpoint} {current : Utc} {record : MutableRecord F}
    {lease : OutboxLease}
    (allowed : (gate (runners thread)).allows (phases thread)
      (.complete eventId owner version fingerprint now))
    (logged : after.log = world.log ++
      [(thread, ⟨.complete eventId owner version fingerprint now, .ok checkpoint⟩)])
    (time : ensureUtc "now" now = .ok current)
    (stored : world.store.records.get? eventId = some record)
    (held : InMemoryOutboxStore.HeldBy record owner current lease)
    (exactVersion : version = record.data.sourceVersion) :
    AcknowledgedStep runners world after record := by
  obtain ⟨rfl, data, rfl, validated, expression, result, delivered, target, versions⟩ := allowed
  rw [traced.phases_eq] at delivered
  obtain ⟨earlier, source, inCycle, history⟩ := delivered
  have sameData := traced.data_eq history inCycle stored
  subst sameData
  refine ⟨stored, thread, version, fingerprint, now, checkpoint, current, lease, logged, time, held,
    validated, expression, result, ⟨earlier, source, inCycle, history⟩, target, ?_⟩
  rcases versions with ⟨unversioned, -⟩ | ⟨-, versionEq⟩
  · exact .inl unversioned
  · exact .inr (versionEq.symm.trans exactVersion)

/-- The progress of a step: what it completes and which checkpoints it moves. -/
def ProgressesBy (gate : MutableRecord F → Prop) (before after : InMemoryOutboxStore F) : Prop :=
  (∀ eventId record later, before.records.get? eventId = some record →
    record.state ≠ .completed → after.records.get? eventId = some later →
    later.state = .completed → gate record) ∧
  ∀ partition, after.checkpoints.get? partition ≠ before.checkpoints.get? partition →
    ∃ record, record.data.partitionKey = partition ∧ gate record

theorem progressesBy_self (gate : MutableRecord F → Prop) (store : InMemoryOutboxStore F) :
    ProgressesBy gate store store := by
  constructor
  · intro eventId record later stored incomplete laterStored completed
    rw [stored] at laterStored
    cases laterStored
    exact absurd completed incomplete
  · intro partition changed
    exact absurd rfl changed

/-- A call of the outbox that is no completion makes no progress. -/
theorem progressesBy_step {gate : MutableRecord F → Prop} {store : InMemoryOutboxStore F}
    (sound : store.Sound) (call : Call F)
    (notComplete : ∀ key, ¬ InMemoryOutboxStore.Event.completes key (call, (store.step call).1))
    (notSet : ∀ partition,
      InMemoryOutboxStore.Event.sets partition (call, (store.step call).1) = false) :
    ProgressesBy gate store (store.step call).2 := by
  constructor
  · intro eventId record later stored incomplete laterStored completed
    have moved := InMemoryOutboxStore.step_record sound call eventId
    rw [stored, laterStored] at moved
    exact absurd (moved.completes_of incomplete completed) (notComplete eventId)
  · intro partition changed
    have advanced := InMemoryOutboxStore.step_advance sound call
    generalize (store.step call).1 = result at notComplete notSet advanced
    generalize (store.step call).2 = after at advanced changed
    cases advanced with
    | frame _ _ _ _ same =>
        rw [same] at changed
        exact absurd rfl changed
    | complete eventId => exact absurd rfl (notComplete eventId)
    | set checkpoint =>
        have unset := notSet checkpoint.partitionKey
        simp [InMemoryOutboxStore.Event.sets] at unset

theorem progressesBy_atomicClaim {gate : MutableRecord F → Prop} {store : InMemoryOutboxStore F}
    (sound : store.Sound) (owner : Str) (limit duration : Int) (now : Utc) :
    ProgressesBy gate store
      (store.atomicClaim owner limit duration (some (.ofUtc now)) unread).2 := by
  have quiet : ProgressesBy gate store
      (store.step (.atomicClaim owner limit duration (some (.ofUtc now)) unread)).2 := by
    apply progressesBy_step sound
    · exact fun _ => not_false
    · exact fun _ => rfl
  exact quiet

/-- A completion makes progress with its own record. -/
theorem progressesBy_complete {gate : MutableRecord F → Prop} {store : InMemoryOutboxStore F}
    {eventId owner : Str} {version : Option Version} {fingerprint : Str} {now : DateTime}
    (gated : ∀ current record lease checkpoint, ensureUtc "now" now = .ok current →
      store.records.get? eventId = some record →
      InMemoryOutboxStore.HeldBy record owner current lease →
      version = record.data.sourceVersion →
      (store.complete eventId owner version fingerprint (some now) unread).1 = .ok checkpoint →
      gate record) :
    ProgressesBy gate store (store.complete eventId owner version fingerprint (some now) unread).2 := by
  rcases store.complete_cases eventId owner version fingerprint (some now) unread with
    ⟨error, failed⟩ | ⟨current, record, lease, time, stored, held, exactVersion, completed⟩
  · rw [failed]
    exact progressesBy_self gate store
  · have passes : gate record := gated current record lease _ time stored held exactVersion
      (congrArg Prod.fst completed)
    rw [completed]
    constructor
    · intro key other later otherStored incomplete laterStored laterCompleted
      by_cases same : eventId = key
      · subst key
        rw [stored] at otherStored
        cases otherStored
        exact passes
      · simp only [InMemoryOutboxStore.setRecord, Dict.get?_set_of_ne _ _ same] at laterStored
        rw [otherStored] at laterStored
        cases laterStored
        exact absurd laterCompleted incomplete
    · intro partition changed
      refine ⟨record, ?_, passes⟩
      by_contra other
      exact changed (Dict.get?_set_of_ne _ _ other)

/-- Exact acknowledgement gates progress.  In every run of any number of runners with the
default acknowledgement, a step completes a record, or moves the checkpoint of a
partition, only as an acknowledged completion of a record of that partition. -/
theorem progress_is_acknowledged (describe : Exc → Except Exc Str) (runners : ι → ProjectionRunner)
    (isDefault : ∀ thread, (runners thread).customAcknowledgement = false)
    (runs : ι → List (Option DateTime)) (store : InMemoryOutboxStore F) (sound : store.Sound)
    (pool next : RunnerPool F ι)
    (reachable : Pool.Reachable (RunnerWorld.Responds describe)
      (RunnerPool.start runners runs store) pool)
    (step : Pool.Step (RunnerWorld.Responds describe) pool next) :
    ProgressesBy (AcknowledgedStep runners pool.state next.state) pool.state.store
      next.state.store := by
  have initially : Pool.Governed (fun thread => gate (runners thread)) Traced (fun _ => [])
      (RunnerPool.start runners runs store) :=
    ⟨fun thread => follows_gate (isDefault thread) (runs thread) {},
      ⟨rfl, sound, List.forall_mem_nil _⟩⟩
  obtain ⟨phases, governed⟩ := Pool.Reachable.governed
    (fun _ _ thread _ _ _ traced _ responds => Traced.step (runners thread) traced responds)
    initially reachable
  have traced := governed.invariant
  cases step with
  | request threads world after thread hook rest response requests answered =>
      have follows : (threads thread).Follows (gate (runners thread)) (phases thread) :=
        governed.follows thread
      rw [requests] at follows
      obtain ⟨moved, answers, rfl⟩ := answered
      cases answers with
      | atomicClaim owner limit duration now =>
          exact progressesBy_atomicClaim traced.sound owner limit duration now
      | release eventId owner error retryable now text =>
          exact progressesBy_step traced.sound
            (.release eventId owner (errorView error text) retryable (some now) unread)
            (fun _ => not_false) fun _ => rfl
      | complete eventId owner version fingerprint now =>
          apply progressesBy_complete
          intro current record lease checkpoint time stored held exactVersion returned
          apply acknowledgedStep_of_completes traced follows.allows _ time stored held exactVersion
          · exact checkpoint
          · rw [returned]
      | _ => exact progressesBy_self _ _

/-! ## A run that completes -/

/-- A runner of the sample projection. -/
def sampleRunner : ProjectionRunner where
  spec := shortSpec
  workerId := str "worker-1"
  batchSize_pos := by decide
  lease_nonneg := by decide
  workerId_ne := by decide

/-- The expression of the sample projector. -/
def sampleExpression : Expression Empty :=
  ⟨str "structured", str "put", [(.str (str "resource"), .str (str "investigation.views"))]⟩

/-- The answer of the target: it acknowledges the version of the sample case. -/
def sampleAnswer : OperationResult Empty where
  catalog := str "structured"
  resources := [sampleSource]
  operationContract := str "structured.put"
  operationVersion := str "1.0.0"
  operationFingerprint := some bareIntent.digest
  registryFingerprint := str "registry"
  data := .mapping [(.str (str "sourceVersion"), .int 1)]

/-- The outbox with the sample case. -/
def sampleOutbox : InMemoryOutboxStore Empty :=
  (InMemoryOutboxStore.initDefault.run [.append bareIntent]).1

/-- Callbacks that succeed at microsecond 30. -/
def sampleResponse (store : InMemoryOutboxStore Empty) :
    (hook : RunnerHook Empty) → hook.Response × InMemoryOutboxStore Empty
  | .clock => (.ok (.ofUtc 30), store)
  | .atomicClaim owner limit duration now =>
      store.atomicClaim owner limit duration (some (.ofUtc now)) unread
  | .loadSource _ _ => (.ok .none, store)
  | .project _ _ => (.ok sampleExpression, store)
  | .execute _ => (.ok sampleAnswer, store)
  | .acknowledge _ _ => (.ok (none, []), store)
  | .complete eventId owner version fingerprint now =>
      store.complete eventId owner version fingerprint (some now) unread
  | .release eventId owner error retryable now =>
      store.release eventId owner (errorView error []) retryable (some now) unread
  | .record _ => (.ok (), store)

/-- The world with these callbacks. -/
def sampleHandler (thread : Unit) (world : RunnerWorld Empty Unit) (hook : RunnerHook Empty) :
    hook.Response × RunnerWorld Empty Unit :=
  let answer := sampleResponse world.store hook
  (answer.1, ⟨answer.2, world.log ++ [(thread, ⟨hook, answer.1⟩)]⟩)

theorem sampleHandler_responds (thread : Unit) (world : RunnerWorld Empty Unit)
    (hook : RunnerHook Empty) :
    RunnerWorld.Responds (fun _ => .ok []) thread world hook (sampleHandler thread world hook).1
      (sampleHandler thread world hook).2 := by
  cases hook with
  | release eventId owner error retryable now =>
      exact ⟨_, .release eventId owner error retryable now [] rfl, rfl⟩
  | _ => exact ⟨_, by constructor, rfl⟩

/-- The sample runner before it completes the sample case. -/
def samplePool : RunnerPool Empty Unit :=
  Pool.schedule sampleHandler
    (RunnerPool.start (fun _ => sampleRunner) (fun _ => [some (.ofUtc 20)]) sampleOutbox)
    [(), (), (), ()]

/-- The sample runner completes the sample case, and that step is acknowledged. -/
theorem progress_is_acknowledged_sample :
    ∃ record, samplePool.state.store.records.get? (str "event-1") = some record ∧
      record.state = .leased ∧
      AcknowledgedStep (fun _ => sampleRunner) samplePool.state
        (Pool.advance sampleHandler samplePool ()).state record := by
  have reachable : Pool.Reachable (RunnerWorld.Responds fun _ => .ok [])
      (RunnerPool.start (fun _ => sampleRunner) (fun _ => [some (.ofUtc ⟨20, by decide⟩)])
        sampleOutbox) samplePool :=
    Pool.schedule_reachable sampleHandler_responds _ _
  have leased : (samplePool.state.store.records.get? (str "event-1")).map (·.state) =
      some .leased := by decide +kernel
  have completed : ((Pool.advance sampleHandler samplePool ()).state.store.records.get?
      (str "event-1")).map (·.state) = some .completed := by decide +kernel
  obtain ⟨record, stored, isLeased⟩ := Option.map_eq_some_iff.mp leased
  obtain ⟨later, laterStored, isCompleted⟩ := Option.map_eq_some_iff.mp completed
  refine ⟨record, stored, isLeased, ?_⟩
  have step : Pool.Step (RunnerWorld.Responds fun _ => .ok []) samplePool
      (Pool.advance sampleHandler samplePool ()) := by
    apply Pool.step_of_advance_ne (sampleHandler_responds () samplePool.state)
    intro same
    rw [same, leased] at completed
    exact absurd completed (by decide)
  exact (progress_is_acknowledged (fun _ => .ok []) (fun _ => sampleRunner) (fun _ => rfl) _
    sampleOutbox (InMemoryOutboxStore.sound_init.run _) samplePool _ reachable step).1 _ record later
    stored (by simp [isLeased]) laterStored isCompleted

end DataLifecycle.Runner
