import DataLifecycle.Migration.Binding
import DataLifecycle.Migration.Log

/-!
# Failures are reported

When a hook, a validation or the evidence sink raises, the executor records FAILED at the
sequence that it tracks and raises the same exception again.  The sequence is the next one of
the log everywhere but after COMPLETED: there it is not advanced, the recorder refuses FAILED,
and its refusal takes the place of the exception.
-/

namespace DataLifecycle.Migration

open Python Interaction

variable {F : Type} [FloatText F] {α : Type} {start : List MigrationCheckpoint}

/-- The clock, the identifier source, the token, the recorder and the release of the lock work,
and so does the sink when it is handed the evidence of a failure.  The other hooks, the
validations and the sink may do anything. -/
def FaultAnswers (start : List MigrationCheckpoint) (trace : Trace F) :
    (hook : Hook F) → hook.Response → Prop
  | .clock, response => ∃ now instant, response = .ok now ∧ now.toUtc = .ok instant
  | .uuid4, response => ∃ identifier, response = .ok identifier
  | .cancelled, response => ∃ isCancelled, response = .ok isCancelled
  | .releaseLock _, response => response = .ok ()
  | .record evidence, response => evidence.state = MigrationState.failed.value → response = .ok ()
  | .checkpoints executionId, response => RecorderAnswers start trace (.checkpoints executionId) response
  | .append checkpoint, response => RecorderAnswers start trace (.append checkpoint) response
  | _, _ => True

/-- A call of the adapter, of a validation or of the evidence sink. -/
def Hook.isExternal : Hook F → Bool
  | .inspectState _ => true
  | .runCondition _ => true
  | .acquireLock _ _ _ _ => true
  | .compile _ => true
  | .applyStep _ _ _ => true
  | .activate _ _ _ => true
  | .record _ => true
  | _ => false

/-- The sink is handed the evidence of the completion. -/
def Hook.RecordsCompletion : Hook F → Prop
  | .record evidence => evidence.state = MigrationState.completed.value
  | _ => False

/-- The checkpoints that the calls have recorded. -/
def recordedIn (trace : Trace F) : List MigrationCheckpoint := trace.filterMap recordedBy

/-- The last checkpoint is the only FAILED one, with the code of the exception. -/
def EndsFailed (raised : Exc) (trace : Trace F) : Prop :=
  ∃ earlier last, recordedIn trace = earlier ++ [last] ∧ last.state = .failed ∧
    last.failureCode = some (failureCode raised) ∧ ∀ checkpoint ∈ earlier, checkpoint.state ≠ .failed

/-- The exception that escapes is the one raised, and FAILED was recorded last unless COMPLETED
was. -/
def Reported (raised escaped : Exc) (trace : Trace F) : Prop :=
  escaped = raised ∧
    ((∃ checkpoint ∈ recordedIn trace, checkpoint.state = .completed) ∨ EndsFailed raised trace)

/-- The exception was not raised by the sink for the evidence of the completion, and the texts
of the evidence of the failure can be encoded.  An exception that equals the one that replaces it
cannot be told apart. -/
def Reportable (bindingRef : Str) (hook : Hook F) (raised : Exc) : Prop :=
  (hook.RecordsCompletion → raised = sequenceConflict) ∧
    (¬ hook.RecordsCompletion → (∀ point ∈ bindingRef ++ failureCode raised,
      isSurrogate point = false) ∨ raised = .unicodeEncodeError)

/-- Every exception that a call has raised is reported exactly if it is reportable. -/
def ReportsFaults (bindingRef : Str) (escaped : Exc) (trace : Trace F) : Prop :=
  ∀ event ∈ trace, event.1.isExternal = true → ∀ raised, raisedBy event = some raised →
    raised.isException = true →
    (Reported raised escaped trace ↔ Reportable bindingRef event.1 raised)

/-! ## Along the body -/

/-- No call has raised. -/
def Faultless (trace : Trace F) : Prop := ∀ event ∈ trace, raisedBy event = none

/-- No call has raised, and the sequence is the next one of the log. -/
structure Proceeding (start : List MigrationCheckpoint) (locals : Locals) (trace : Trace F) :
    Prop where
  faultless : Faultless trace
  entries : ∀ checkpoint ∈ recordedIn trace, checkpoint.state ≠ .failed
  sequence : locals.sequence = nextSequence (logAfter start trace)

/-- The body has stopped before COMPLETED was recorded. -/
structure StoppedEarly (start : List MigrationCheckpoint) (error : Exc) (locals : Locals)
    (trace : Trace F) : Prop where
  entries : ∀ checkpoint ∈ recordedIn trace, checkpoint.state ≠ .failed
  sequence : locals.sequence = nextSequence (logAfter start trace)
  faults : ∀ event ∈ trace, ∀ raised, raisedBy event = some raised →
    raised = error ∧ ¬ event.1.RecordsCompletion

/-- The body has stopped after COMPLETED was recorded. -/
structure StoppedLate (start : List MigrationCheckpoint) (error : Exc) (locals : Locals)
    (trace : Trace F) : Prop where
  behind : locals.sequence < nextSequence (logAfter start trace)
  completed : ∃ checkpoint ∈ recordedIn trace, checkpoint.state = .completed
  faults : ∀ event ∈ trace, ∀ raised, raisedBy event = some raised →
    raised = error ∧ event.1.RecordsCompletion

theorem recordedIn_concat {event : Event (Hook F) Hook.Response} (unrecorded : recordedBy event = none)
    (trace : Trace F) : recordedIn (trace ++ [event]) = recordedIn trace := by
  rw [recordedIn, List.filterMap_append, List.filterMap_cons_none unrecorded, List.filterMap_nil,
    List.append_nil, recordedIn]

theorem Faultless.concat {trace : Trace F} (faultless : Faultless trace)
    {event : Event (Hook F) Hook.Response} (returned : raisedBy event = none) :
    Faultless (trace ++ [event]) := by
  intro other member
  rcases List.mem_append.mp member with earlier | isLast
  · exact faultless other earlier
  · rw [List.mem_singleton.mp isLast]
    exact returned

theorem Proceeding.concat {locals : Locals} {trace : Trace F}
    (proceeding : Proceeding start locals trace) {event : Event (Hook F) Hook.Response}
    (unrecorded : recordedBy event = none) (returned : raisedBy event = none) :
    Proceeding start locals (trace ++ [event]) := by
  constructor
  · exact proceeding.faultless.concat returned
  · rw [recordedIn_concat unrecorded]
    exact proceeding.entries
  · rw [logAfter_concat unrecorded]
    exact proceeding.sequence

/-- The exceptions raised so far, when nothing had raised before the last call. -/
theorem Faultless.faults {trace : Trace F} (faultless : Faultless trace) {hook : Hook F} {error : Exc}
    (condition : Hook F → Prop) (holds : condition hook) :
    ∀ event ∈ trace ++ [⟨hook, .error error⟩], ∀ raised, raisedBy event = some raised →
      raised = error ∧ condition event.1 := by
  intro event member raised found
  rcases List.mem_append.mp member with earlier | isLast
  · rw [faultless event earlier] at found
    cases found
  · rw [List.mem_singleton.mp isLast] at found ⊢
    cases found
    exact ⟨rfl, holds⟩

/-- The body may stop by itself anywhere. -/
theorem Proceeding.stopped {locals : Locals} {trace : Trace F}
    (proceeding : Proceeding start locals trace) (error : Exc) :
    StoppedEarly start error locals trace := by
  refine ⟨proceeding.entries, proceeding.sequence, fun event member raised found => ?_⟩
  rw [proceeding.faultless event member] at found
  cases found

/-- A part of the body before COMPLETED. -/
abbrev Tracked (start : List MigrationCheckpoint) (part : Execution F α) : Prop :=
  Part (FaultAnswers start) (fun _ _ => True) (Proceeding start) (StoppedEarly start) part

/-- Every call but a record of the completion may return or raise. -/
theorem tracked_request {hook : Hook F} (unrecorded : ∀ response, recordedBy ⟨hook, response⟩ = none)
    (notCompletion : ¬ hook.RecordsCompletion) : Tracked start (request hook) := by
  refine part_request fun locals trace proceeding => ⟨trivial, fun response _ => ?_⟩
  cases response with
  | ok value => exact proceeding.concat (unrecorded _) rfl
  | error error =>
      constructor
      · rw [recordedIn_concat (unrecorded _)]
        exact proceeding.entries
      · rw [logAfter_concat (unrecorded _)]
        exact proceeding.sequence
      · exact proceeding.faultless.faults (fun hook => ¬ hook.RecordsCompletion) notCompletion

theorem tracked_refuse {condition : Prop} [Decidable condition] {error : Exc} :
    Tracked start (Script.refuse condition error : Execution F Unit) :=
  Script.ends_refuse fun _ _ proceeding => proceeding.stopped error

theorem tracked_lift {result : Except Exc α} : Tracked start (Script.lift result : Execution F α) :=
  Script.ends_lift fun error _ _ _ proceeding => proceeding.stopped error

theorem tracked_raiseIfCancelled : Tracked start (raiseIfCancelled : Execution F Unit) :=
  Script.ends_bind (tracked_request (fun _ => rfl) id) fun _ => tracked_refuse

theorem tracked_currentUtc : Tracked start (currentUtc : Execution F Utc) :=
  Script.ends_bind (tracked_request (fun _ => rfl) id) fun _ => tracked_lift

theorem tracked_runConditions (cancellable : Bool) (conditions : List (MigrationCondition F)) :
    Tracked start (runConditions cancellable conditions) := by
  induction conditions with
  | nil => exact Script.ends_pure _
  | cons condition rest inductionHypothesis =>
      refine Script.ends_bind ?_ fun _ => Script.ends_bind (tracked_request (fun _ => rfl) id) fun _ =>
        Script.ends_bind tracked_refuse fun _ => Script.ends_bind inductionHypothesis fun _ =>
          Script.ends_pure _
      cases cancellable with
      | false => exact Script.ends_pure _
      | true => exact tracked_raiseIfCancelled

theorem tracked_assign {change : Locals → Locals}
    (same : ∀ locals, (change locals).sequence = locals.sequence) :
    Tracked start (Script.assign change : Execution F Unit) := by
  refine Script.ends_assign fun locals trace proceeding => ?_
  exact ⟨proceeding.faultless, proceeding.entries, (same locals).trans proceeding.sequence⟩

theorem tracked_extendValidations (cancellable : Bool) (conditions : List (MigrationCondition F)) :
    Tracked start (extendValidations cancellable conditions) :=
  Script.ends_bind (tracked_runConditions cancellable conditions) fun _ => tracked_assign fun _ => rfl

theorem tracked_acquire {lockDuration : Int} {bindingRef owner : Str} {bundle : MigrationBundleV1 F} :
    Tracked start (acquire lockDuration bindingRef bundle owner) :=
  Script.ends_bind tracked_raiseIfCancelled fun _ =>
    Script.ends_bind (tracked_request (fun _ => rfl) id) fun _ =>
    Script.ends_bind tracked_refuse fun _ =>
    Script.ends_bind (tracked_extendValidations _ _) fun _ =>
    Script.ends_bind (tracked_request (fun _ => rfl) id) fun _ =>
    Script.ends_bind (tracked_assign fun _ => rfl) fun _ =>
    Script.ends_bind tracked_refuse fun _ =>
    Script.ends_bind tracked_currentUtc fun _ =>
    Script.ends_bind tracked_refuse fun _ =>
    Script.ends_bind (tracked_request (fun _ => rfl) id) fun _ =>
    Script.ends_bind tracked_lift fun _ => Script.ends_pure _

theorem tracked_cutOver {runId : Str} {bundle : MigrationBundleV1 F} {state : BindingStateEvidence}
    {lock : MigrationLock} : Tracked start (cutOver runId bundle state lock) :=
  Script.ends_bind tracked_raiseIfCancelled fun _ =>
    Script.ends_bind tracked_currentUtc fun _ =>
    Script.ends_bind tracked_refuse fun _ =>
    Script.ends_bind (tracked_request (fun _ => rfl) id) fun _ =>
    Script.ends_bind tracked_refuse fun _ =>
    Script.ends_bind (tracked_extendValidations _ _) fun _ =>
    Script.ends_bind Script.ends_locals fun _ =>
    Script.ends_bind tracked_lift fun _ =>
    Script.ends_bind (tracked_request (fun _ => rfl) id) fun _ => tracked_lift

theorem records_faultAnswers :
    Records start (FaultAnswers start) (fun (_ : Trace F) _ => True) :=
  ⟨fun _ _ answered => answered, fun _ _ _ answered => answered, fun _ => trivial,
    fun _ _ => trivial⟩

section Body

variable {normal : α → Locals → Trace F → Prop} {exceptional : Exc → Locals → Trace F → Prop}
  {locals : Locals} {trace : Trace F} {runId : Str} {bundle : MigrationBundleV1 F}

/-- A checkpoint before COMPLETED is recorded, and the sequence moves with the log. -/
theorem safe_checkpointed {state : MigrationState} {step : Option AppliedMigrationStep}
    {rest : Execution F α} (proceeding : Proceeding start locals trace) (runIdNe : runId ≠ [])
    (notFailed : state ≠ .failed)
    (continues : ∀ locals trace, Proceeding start locals trace →
      rest.Safe (Traced (FaultAnswers start)) (fun _ _ => True) normal exceptional locals trace) :
    (do
      checkpoint runId bundle state step
      advance
      rest : Execution F α).Safe (Traced (FaultAnswers start)) (fun _ _ => True) normal exceptional
        locals trace := by
  refine safe_checkpoint_advance records_faultAnswers runIdNe proceeding.sequence
    fun now made isState moved => ?_
  have timed : Proceeding start locals (trace ++ [⟨.clock, .ok now⟩]) := proceeding.concat rfl rfl
  refine continues _ _ ⟨timed.faultless.concat rfl, ?_, moved⟩
  intro checkpoint member
  rw [recordedIn, List.filterMap_append] at member
  rcases List.mem_append.mp member with earlier | isLast
  · exact timed.entries checkpoint earlier
  · rw [List.mem_singleton.mp isLast, isState]
    exact notFailed

theorem tracked_applySteps {lock : MigrationLock} {completed : List Str} (runIdNe : runId ≠ [])
    (steps : List CompiledMigrationStep) :
    Tracked start (applySteps runId bundle lock completed steps) := by
  induction steps with
  | nil => exact Script.ends_pure _
  | cons compiled rest inductionHypothesis =>
      refine Script.ends_bind tracked_raiseIfCancelled fun _ =>
        Script.ends_bind tracked_currentUtc fun _ => Script.ends_bind tracked_refuse fun _ => ?_
      split
      · exact inductionHypothesis
      · refine Script.ends_bind (tracked_request (fun _ => rfl) id) fun _ =>
          Script.ends_bind tracked_refuse fun _ => ?_
        intro locals trace proceeding
        exact safe_checkpointed proceeding runIdNe (by decide) inductionHypothesis

theorem eq_completed_of_value {state : MigrationState}
    (same : state.value = MigrationState.completed.value) : state = .completed := by
  cases state <;> first | rfl | exact absurd same (by decide)

theorem tracked_recordEvidence {bindingRef : Str} {state : MigrationState}
    {details : List (Str × Json F)} (notCompleted : state ≠ .completed) :
    Tracked start (recordEvidence bindingRef state details) := by
  refine Script.ends_bind (tracked_request (fun _ => rfl) id) fun now locals trace proceeding => ?_
  rw [Script.safe_bind]
  cases made : LifecycleEvidence.make (str "migration") bindingRef state.value details now with
  | error error => exact proceeding.stopped error
  | ok evidence =>
      refine tracked_request (fun _ => rfl) (fun isCompletion => notCompleted ?_) locals trace
        proceeding
      rw [Hook.RecordsCompletion, LifecycleEvidence.state_of_make made] at isCompletion
      exact eq_completed_of_value isCompletion

/-- No call has raised, and COMPLETED is recorded at the sequence. -/
structure Finishing (start : List MigrationCheckpoint) (locals : Locals) (trace : Trace F) :
    Prop where
  faultless : Faultless trace
  behind : locals.sequence < nextSequence (logAfter start trace)
  completed : ∃ checkpoint ∈ recordedIn trace, checkpoint.state = .completed

theorem Finishing.stopped (finishing : Finishing start locals trace) (error : Exc) :
    StoppedLate start error locals trace := by
  refine ⟨finishing.behind, finishing.completed, fun event member raised found => ?_⟩
  rw [finishing.faultless event member] at found
  cases found

theorem finishing_request {hook : Hook F} (unrecorded : ∀ response, recordedBy ⟨hook, response⟩ = none)
    (raises : ∀ trace error, FaultAnswers start trace hook (.error error) → hook.RecordsCompletion) :
    Part (FaultAnswers start) (fun _ _ => True) (Finishing start) (StoppedLate start)
      (request hook) := by
  refine part_request fun locals trace finishing => ⟨trivial, fun response answered => ?_⟩
  cases response with
  | ok value =>
      constructor
      · exact finishing.faultless.concat rfl
      · rw [logAfter_concat (unrecorded _)]
        exact finishing.behind
      · rw [recordedIn_concat (unrecorded _)]
        exact finishing.completed
  | error error =>
      constructor
      · rw [logAfter_concat (unrecorded _)]
        exact finishing.behind
      · rw [recordedIn_concat (unrecorded _)]
        exact finishing.completed
      · exact finishing.faultless.faults (fun hook => hook.RecordsCompletion)
          (raises trace error answered)

theorem finishing_recordEvidence {bindingRef : Str} {details : List (Str × Json F)} :
    Part (FaultAnswers start) (fun _ _ => True) (Finishing start) (StoppedLate start)
      (recordEvidence bindingRef .completed details) := by
  refine Script.ends_bind (finishing_request (fun _ => rfl) ?_) fun now locals trace finishing => ?_
  · rintro _ _ ⟨_, _, ⟨⟩, _⟩
  · rw [Script.safe_bind]
    cases made : LifecycleEvidence.make (str "migration") bindingRef MigrationState.completed.value
        details now with
    | error error => exact finishing.stopped error
    | ok evidence =>
        have completion : (Hook.record evidence).RecordsCompletion :=
          LifecycleEvidence.state_of_make made
        exact finishing_request (fun _ => rfl) (fun _ _ _ => completion) locals trace finishing

/-- COMPLETED is recorded, and after that only the sink may raise. -/
theorem safe_complete {bindingRef : Str} {cutover : CutoverEvidence}
    (proceeding : Proceeding start locals trace) (runIdNe : runId ≠ []) :
    (do
      checkpoint runId bundle .completed
      recordEvidence bindingRef .completed cutover.toMapping
      let checkpoints ← request (.checkpoints runId)
      let final ← Script.locals
      pure ⟨runId, .completed, bundle.digest, checkpoints, final.validations, some cutover⟩ :
      Execution F MigrationReport).Safe (Traced (FaultAnswers start)) (fun _ _ => True)
        (fun _ _ trace => Faultless trace) (StoppedLate start) locals trace := by
  rw [Script.safe_bind]
  refine (safe_checkpoint records_faultAnswers runIdNe).mono ?_ ?_
  · rintro _ current _ ⟨rfl, -, now, made, rfl, -, -, isState, isSequence, -, -⟩
    have finishing : Finishing start current
        (trace ++ [⟨.clock, .ok now⟩] ++ [⟨.append made, .ok ()⟩]) := by
      constructor
      · exact (proceeding.faultless.concat rfl).concat rfl
      · rw [logAfter_append]
        change current.sequence < nextSequence (logAfter start _ ++ [made])
        rw [nextSequence_append, isSequence]
        exact Nat.lt_succ_self _
      · refine ⟨made, ?_, isState⟩
        rw [recordedIn, List.filterMap_append]
        exact List.mem_append_right _ List.mem_cons_self
    refine finishing_recordEvidence.safe_bind finishing (fun _ current trace finishing => ?_)
      fun _ _ _ stopped => stopped
    refine Script.Ends.safe_bind (finishing_request (fun _ => rfl) ?_) finishing
      (fun checkpoints current trace finishing => ?_) fun _ _ _ stopped => stopped
    · rintro _ _ ⟨_, _, ⟨⟩⟩
    · exact finishing.faultless
  · rintro _ _ _ ⟨rfl, -, behind, -⟩
    rw [proceeding.sequence] at behind
    exact absurd behind (lt_irrefl _)

/-- The body of an execution. -/
theorem safe_migrateTracked {lockDuration : Int} {bindingRef owner : Str} {completed : List Str}
    (proceeding : Proceeding start locals trace) (runIdNe : runId ≠ []) :
    (migrate lockDuration bindingRef bundle owner runId completed).Safe
      (Traced (FaultAnswers start)) (fun _ _ => True) (fun _ _ trace => Faultless trace)
      (fun error locals trace => StoppedEarly start error locals trace ∨
        StoppedLate start error locals trace) locals trace := by
  have early : ∀ (error : Exc) (locals : Locals) (trace : Trace F),
      StoppedEarly start error locals trace →
      StoppedEarly start error locals trace ∨ StoppedLate start error locals trace :=
    fun _ _ _ stopped => .inl stopped
  refine tracked_acquire.safe_bind proceeding ?_ early
  rintro ⟨state, lock, plan⟩ locals trace proceeding
  refine safe_checkpointed proceeding runIdNe (by decide) fun locals trace proceeding => ?_
  refine (tracked_recordEvidence (by decide)).safe_bind proceeding
    (fun _ locals trace proceeding => ?_) early
  refine (tracked_applySteps runIdNe plan.steps).safe_bind proceeding
    (fun _ locals trace proceeding => ?_) early
  refine safe_checkpointed proceeding runIdNe (by decide) fun locals trace proceeding => ?_
  refine (tracked_extendValidations true bundle.validations).safe_bind proceeding
    (fun _ locals trace proceeding => ?_) early
  refine safe_checkpointed proceeding runIdNe (by decide) fun locals trace proceeding => ?_
  refine tracked_cutOver.safe_bind proceeding (fun cutover locals trace proceeding => ?_) early
  exact (safe_complete proceeding runIdNe).mono (fun _ _ _ faultless => faultless)
    fun _ _ _ stopped => .inr stopped

/-! ## The handler -/

/-- The details of the evidence of a failure. -/
def failureDetails (bundle : MigrationBundleV1 F) (error : Exc) : List (Str × Json F) :=
  [(str "bundleDigest", .str bundle.digest), (str "failureCode", .str (failureCode error))]

theorem recordable_failureDetails_iff {bindingRef : Str} {error : Exc} :
    Recordable bindingRef (failureDetails bundle error) ↔
      ∀ point ∈ bindingRef ++ failureCode error, isSurrogate point = false := by
  have digest := isSurrogate_of_isSha256 (isSha256_of_sha256Digest bundle.digest_eq)
  rw [Recordable, failureDetails, List.forall_mem_append, encodable_object_iff]
  simp only [List.forall_mem_cons, List.not_mem_nil, false_implies, implies_true, and_true,
    encodable_str_iff]
  constructor
  · rintro ⟨binding, -, -, code⟩
    exact ⟨binding, code⟩
  · rintro ⟨binding, code⟩
    exact ⟨binding, ⟨scalar_str _, digest⟩, scalar_str _,
      code⟩

theorem Faultless.reportsFaults {bindingRef : Str} (faultless : Faultless trace) (escaped : Exc) :
    ReportsFaults bindingRef escaped trace := by
  intro event member _ raised found
  rw [faultless event member] at found
  cases found

theorem ReportsFaults.concat {bindingRef : Str} {escaped : Exc}
    (reports : ReportsFaults bindingRef escaped trace) {event : Event (Hook F) Hook.Response}
    (unrecorded : recordedBy event = none) (returned : raisedBy event = none) :
    ReportsFaults bindingRef escaped (trace ++ [event]) := by
  intro other member isExternal raised found isException
  rcases List.mem_append.mp member with earlier | isLast
  · rw [Reported, EndsFailed, recordedIn_concat unrecorded]
    exact reports other earlier isExternal raised found isException
  · rw [List.mem_singleton.mp isLast, returned] at found
    cases found

/-- FAILED has been recorded for the exception. -/
structure Handled (error : Exc) (trace : Trace F) : Prop where
  ends : EndsFailed error trace
  faults : ∀ event ∈ trace, ∀ raised, raisedBy event = some raised →
    raised = error ∧ ¬ event.1.RecordsCompletion

theorem Handled.concat {error : Exc} (handled : Handled error trace)
    {event : Event (Hook F) Hook.Response} (unrecorded : recordedBy event = none)
    (returned : raisedBy event = none) : Handled error (trace ++ [event]) := by
  constructor
  · rw [EndsFailed, recordedIn_concat unrecorded]
    exact handled.ends
  · intro other member raised found
    rcases List.mem_append.mp member with earlier | isLast
    · exact handled.faults other earlier raised found
    · rw [List.mem_singleton.mp isLast, returned] at found
      cases found

theorem Handled.reportsFaults {bindingRef : Str} {error escaped : Exc} (handled : Handled error trace)
    (same : escaped = error ↔ (∀ point ∈ bindingRef ++ failureCode error,
      isSurrogate point = false) ∨ error = .unicodeEncodeError) :
    ReportsFaults bindingRef escaped trace := by
  intro event member _ raised found _
  obtain ⟨rfl, notCompletion⟩ := handled.faults event member raised found
  constructor
  · rintro ⟨isRaised, -⟩
    exact ⟨fun isCompletion => absurd isCompletion notCompletion, fun _ => same.mp isRaised⟩
  · rintro ⟨-, encodes⟩
    exact ⟨same.mpr (encodes notCompletion), .inr handled.ends⟩

/-- Before COMPLETED the handler records FAILED and raises the exception again. -/
theorem StoppedEarly.safe_recordFailure {bindingRef : Str} {error : Exc}
    (stopped : StoppedEarly start error locals trace) (runIdNe : runId ≠ [])
    (bindingRefNe : bindingRef ≠ []) :
    (recordFailure bindingRef bundle runId error).Safe (Traced (FaultAnswers start))
      (fun _ _ => True) (fun _ _ _ => False)
      (fun escaped _ trace => ReportsFaults bindingRef escaped trace) locals trace := by
  unfold recordFailure
  split
  · rw [Script.safe_bind]
    refine (safe_checkpoint records_faultAnswers runIdNe).mono ?_ ?_
    · rintro _ current _ ⟨rfl, -, now, made, rfl, -, -, isState, -, -, code⟩
      have handled : Handled error (trace ++ [⟨.clock, .ok now⟩] ++ [⟨.append made, .ok ()⟩]) := by
        constructor
        · refine ⟨recordedIn trace, made, ?_, isState, code, stopped.entries⟩
          rw [recordedIn, List.filterMap_append, ← recordedIn, recordedIn_concat rfl]
          rfl
        · intro event member raised found
          simp only [List.mem_append, List.mem_singleton] at member
          rcases member with (earlier | rfl) | rfl
          · exact stopped.faults event earlier raised found
          · cases found
          · cases found
      rw [Script.safe_bind]
      refine safe_recordEvidence records_faultAnswers bindingRefNe rfl (fun now notRecordable => ?_)
        (fun _ _ => trivial) (fun now evidence recordable => ?_)
        fun now evidence refusal isFailed answered => ?_
      · refine (handled.concat rfl rfl).reportsFaults ⟨fun same => .inr same.symm, ?_⟩
        rintro (encodes | isUnicode)
        · exact absurd (recordable_failureDetails_iff.mpr encodes) notRecordable
        · exact isUnicode.symm
      · refine ((handled.concat rfl rfl).concat rfl rfl).reportsFaults ⟨fun _ => .inl ?_, fun _ => rfl⟩
        exact recordable_failureDetails_iff.mp recordable
      · cases answered isFailed
    · rintro _ _ _ ⟨rfl, -, behind, -⟩
      rw [stopped.sequence] at behind
      exact absurd behind (lt_irrefl _)
  next notException =>
    intro event member _ raised found isException
    rw [(stopped.faults event member raised found).1] at isException
    exact absurd isException notException

/-- After COMPLETED the recorder refuses FAILED, and its refusal escapes. -/
theorem StoppedLate.safe_recordFailure {bindingRef : Str} {error : Exc}
    (stopped : StoppedLate start error locals trace) (runIdNe : runId ≠ []) :
    (recordFailure bindingRef bundle runId error).Safe (Traced (FaultAnswers start))
      (fun _ _ => True) (fun _ _ _ => False)
      (fun escaped _ trace => ReportsFaults bindingRef escaped trace) locals trace := by
  unfold recordFailure
  split
  · rw [Script.safe_bind]
    refine (safe_checkpoint records_faultAnswers runIdNe).mono ?_ ?_
    · rintro _ _ _ ⟨rfl, notBehind, -⟩
      exact absurd stopped.behind (not_lt.mpr notBehind)
    · rintro _ current _ ⟨rfl, rfl, -, now, made, rfl, -⟩
      intro event member isExternal raised found isException
      simp only [List.mem_append, List.mem_singleton] at member
      rcases member with (earlier | rfl) | rfl
      · obtain ⟨rfl, isCompletion⟩ := stopped.faults event earlier raised found
        constructor
        · rintro ⟨isConflict, -⟩
          exact ⟨fun _ => isConflict.symm, fun notCompletion => absurd isCompletion notCompletion⟩
        · rintro ⟨isConflict, -⟩
          refine ⟨(isConflict isCompletion).symm, .inl ?_⟩
          obtain ⟨completed, member, isState⟩ := stopped.completed
          refine ⟨completed, ?_, isState⟩
          rw [recordedIn_concat rfl, recordedIn_concat rfl]
          exact member
      · cases found
      · cases isExternal
  next notException =>
    intro event member _ raised found isException
    rw [(stopped.faults event member raised found).1] at isException
    exact absurd isException notException

/-- The release of the lock changes nothing. -/
theorem safe_releaseAfter {bindingRef : Str} {escaped : Exc}
    (reports : ReportsFaults bindingRef escaped trace) :
    (releaseHeldLock : Execution F Unit).Safe (Traced (FaultAnswers start)) (fun _ _ => True)
      (fun _ _ trace => ReportsFaults bindingRef escaped trace)
      (fun escaped _ trace => ReportsFaults bindingRef escaped trace) locals trace := by
  refine safe_releaseHeldLock (fun _ => reports) (fun _ _ => trivial)
    (fun _ _ => reports.concat rfl rfl) fun lock error _ answered => ?_
  cases answered

theorem safe_releaseFaultless {exceptional : Exc → Locals → Trace F → Prop}
    (faultless : Faultless trace) :
    (releaseHeldLock : Execution F Unit).Safe (Traced (FaultAnswers start)) (fun _ _ => True)
      (fun _ _ trace => Faultless trace) exceptional locals trace := by
  refine safe_releaseHeldLock (fun _ => faultless) (fun _ _ => trivial)
    (fun _ _ => faultless.concat rfl) fun lock error _ answered => ?_
  cases answered

end Body

/-- In every execution over an `InMemoryMigrationRecorder` that nobody else uses for the execution
id: a call of the adapter, of a validation or of the sink that raises is the end of it, and the
exception escapes, with FAILED recorded last unless COMPLETED was, exactly if the call was not the
record of the completion and the texts of the failure can be encoded. -/
theorem reported_iff_reportable (lockDuration : Int) (bindingRef : Str)
    (bundle : MigrationBundleV1 F) (owner : Str) (executionId : Option Str)
    (start : List MigrationCheckpoint) :
    (execute lockDuration bindingRef bundle owner executionId).Safe (Traced (FaultAnswers start))
      (fun _ _ => True) (fun _ _ trace => Faultless trace)
      (fun escaped _ trace => ReportsFaults bindingRef escaped trace) {} [] := by
  have empty : Faultless ([] : Trace F) := by simp [Faultless]
  rw [execute, Script.safe_bind, Script.safe_refuse]
  refine ⟨fun _ => empty.reportsFaults _, fun named => ?_⟩
  rw [Script.safe_bind, Script.safe_refuse]
  refine ⟨fun _ => empty.reportsFaults _, fun supplied => ?_⟩
  have bindingRefNe : bindingRef ≠ [] := fun isEmpty => named (.inl isEmpty)
  have chosen : (chooseRunId executionId : Execution F Str).Safe (Traced (FaultAnswers start))
      (fun _ _ => True)
      (fun runId _ trace => runId ≠ [] ∧ Faultless trace ∧ recordedIn trace = [])
      (fun escaped _ trace => ReportsFaults bindingRef escaped trace) {} [] := by
    cases executionId with
    | some given => exact ⟨fun isEmpty => supplied (congrArg some isEmpty), empty, rfl⟩
    | none =>
        rw [chooseRunId, Script.safe_bind]
        refine safe_request trivial (fun identifier _ => ?_) fun error answered => ?_
        · exact ⟨identifier.property, empty.concat rfl, rfl⟩
        · obtain ⟨_, ⟨⟩⟩ := answered
  rw [Script.safe_bind]
  refine chosen.mono ?_ fun _ _ _ reports => reports
  rintro runId locals trace ⟨runIdNe, faultless, unrecorded⟩
  rw [executeAs, Script.safe_bind]
  refine safe_request trivial (fun existing answered => ?_) fun error answered => ?_
  · obtain ⟨recorder, holds, same⟩ := answered
    cases same
    have read : Faultless (trace ++ [⟨.checkpoints runId, .ok (recorder.checkpoints runId)⟩]) :=
      faultless.concat rfl
    rw [Script.safe_bind, Script.safe_refuse]
    refine ⟨fun _ => read.reportsFaults _, fun _ => ?_⟩
    rw [Script.safe_bind, Script.safe_refuse]
    refine ⟨fun _ => read.reportsFaults _, fun _ => ?_⟩
    rw [Script.safe_bind, Script.safe_assign, Script.safe_tryFinally, Script.safe_tryExcept]
    have proceeding : Proceeding start
        { locals with sequence := nextSequence (recorder.checkpoints runId) }
        (trace ++ [⟨.checkpoints runId, .ok (recorder.checkpoints runId)⟩]) := by
      constructor
      · exact read
      · rw [recordedIn_concat rfl, unrecorded]
        simp
      · rw [logAfter_concat rfl, ← holds]
    refine (safe_migrateTracked proceeding runIdNe).mono ?_ ?_
    · exact fun _ _ _ faultless => safe_releaseFaultless faultless
    · rintro error locals trace (early | late)
      · exact (early.safe_recordFailure runIdNe bindingRefNe).mono (fun _ _ _ never => never.elim)
          fun _ _ _ reports => safe_releaseAfter reports
      · exact (late.safe_recordFailure runIdNe).mono (fun _ _ _ never => never.elim)
          fun _ _ _ reports => safe_releaseAfter reports
  · obtain ⟨_, _, ⟨⟩⟩ := answered

/-- The exception of a sink that is down. -/
def sinkDown : Exc := ⟨.runtimeError, ⟨"the evidence sink is down", []⟩, none, false⟩

/-- An adapter that works, over an `InMemoryMigrationRecorder`, with a sink that is down when the
migration completes. -/
def sinkDownAnswer (trace : Trace F) : (hook : Hook F) → hook.Response
  | .record evidence =>
      if evidence.state = MigrationState.completed.value then .error sinkDown else .ok ()
  | .checkpoints _ => .ok (logAfter [] trace)
  | .append checkpoint =>
      if nextSequence (logAfter [] trace) ≤ checkpoint.sequence then .ok ()
      else .error sequenceConflict
  | .releaseLock _ => .ok ()
  | hook =>
      (Binding.serve () ⟨Binding.uniformFingerprint 48, none, .empty, [], false⟩ hook).1

theorem sinkDownAnswer_admitted (trace : Trace F) (hook : Hook F) :
    FaultAnswers [] trace hook (sinkDownAnswer trace hook) := by
  cases hook with
  | clock => exact ⟨_, _, rfl, DateTime.toUtc_ofUtc _⟩
  | uuid4 => exact ⟨_, rfl⟩
  | cancelled => exact ⟨_, rfl⟩
  | releaseLock => rfl
  | record evidence =>
      intro isFailed
      rw [sinkDownAnswer, isFailed, if_neg (by decide)]
  | checkpoints executionId =>
      obtain ⟨recorder, holds⟩ := exists_recorder executionId (logAfter [] trace)
      exact ⟨recorder, holds, by rw [sinkDownAnswer, holds]⟩
  | append checkpoint =>
      obtain ⟨recorder, holds⟩ := exists_recorder checkpoint.executionId (logAfter [] trace)
      have response : (recorder.append checkpoint).1 = _ := response_of_append ⟨recorder, holds, rfl⟩
      exact ⟨recorder, holds, response.symm⟩
  | _ => trivial

/-- The run of the first job against that adapter. -/
def sinkDownRun : (Except Exc MigrationReport × Locals) × Trace Empty :=
  (execute 900000000 (str "orders") Binding.sampleBundle (str "job-1")
    (some (str "migration-1")) {}).run (recording sinkDownAnswer) []

/-- Whether the sink was down and the refusal of the recorder escaped. -/
def masksFault (run : (Except Exc MigrationReport × Locals) × Trace F) : Bool :=
  run.2.any (fun event => event.1.isExternal && raisedBy event == some sinkDown) &&
    match run.1.1 with
    | .error escaped => escaped == sequenceConflict
    | .ok _ => false

/-- When the sink is down for the evidence of the completion, the refusal of FAILED escapes in
the place of its exception. -/
theorem completion_fault_is_masked :
    ¬ ∀ (lockDuration : Int) (bindingRef : Str) (bundle : MigrationBundleV1 Empty) (owner : Str)
      (executionId : Option Str),
      (execute lockDuration bindingRef bundle owner executionId).Safe (Traced (FaultAnswers []))
        (fun _ _ => True) (fun _ _ trace => Faultless trace)
        (fun escaped _ trace => ∀ event ∈ trace, event.1.isExternal = true → ∀ raised,
          raisedBy event = some raised → raised.isException = true →
          Reported raised escaped trace) {} [] := by
  intro always
  have safe := always 900000000 (str "orders") Binding.sampleBundle (str "job-1")
    (some (str "migration-1"))
  have masked : masksFault sinkDownRun = true := by decide +kernel
  obtain ⟨⟨outcome, locals⟩, trace, same, returns⟩ : ∃ value trace, sinkDownRun = (value, trace) ∧
      (execute 900000000 (str "orders") Binding.sampleBundle (str "job-1")
        (some (str "migration-1")) {}).Returns (Traced (FaultAnswers [])) [] value trace :=
    ⟨sinkDownRun.1, sinkDownRun.2, Prod.mk.eta.symm,
      recording_returns sinkDownAnswer sinkDownAnswer_admitted _ []⟩
  rw [same] at masked
  obtain ⟨isDown, escapes⟩ := (Bool.and_eq_true _ _).mp masked
  obtain ⟨event, member, external⟩ := List.any_eq_true.mp isDown
  obtain ⟨isExternal, raised⟩ := (Bool.and_eq_true _ _).mp external
  have left := Prog.Safe.of_returns safe returns
  cases outcome with
  | ok report => cases escapes
  | error escaped =>
      have reported := left event member isExternal sinkDown (beq_iff_eq.mp raised) rfl
      rw [reported.1] at escapes
      exact absurd (congrArg Exc.cls (beq_iff_eq.mp escapes)) (by decide)

end DataLifecycle.Migration
