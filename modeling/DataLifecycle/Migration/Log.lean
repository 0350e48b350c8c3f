import DataLifecycle.Migration.Parts
import DataLifecycle.Migration.Recorder

/-!
# The log of an execution

An `InMemoryMigrationRecorder` without another user of the execution id holds what was there at
the start and what the execution has appended since.  With a clock that works, a checkpoint at
the next sequence is always recorded, and one behind it never is.
-/

namespace DataLifecycle.Migration

open Python Interaction

variable {F : Type} [FloatText F] {start : List MigrationCheckpoint}

/-- The checkpoint that a call has recorded. -/
def recordedBy : Event (Hook F) Hook.Response → Option MigrationCheckpoint
  | ⟨.append checkpoint, .ok _⟩ => some checkpoint
  | _ => none

/-- The log after the calls. -/
def logAfter (start : List MigrationCheckpoint) (trace : Trace F) : List MigrationCheckpoint :=
  start ++ trace.filterMap recordedBy

/-- The recorder holds the log for the execution id, and may hold anything for others. -/
def RecorderAnswers (start : List MigrationCheckpoint) (trace : Trace F) :
    (hook : Hook F) → hook.Response → Prop
  | .checkpoints executionId, response =>
      ∃ recorder : InMemoryMigrationRecorder,
        recorder.checkpoints executionId = logAfter start trace ∧
          response = .ok (recorder.checkpoints executionId)
  | .append checkpoint, response =>
      ∃ recorder : InMemoryMigrationRecorder,
        recorder.checkpoints checkpoint.executionId = logAfter start trace ∧
          response = (recorder.append checkpoint).1
  | _, _ => True

/-- The recorder refuses a checkpoint that is not behind the recorded ones. -/
def sequenceConflict : Exc := .migrationConflict "migration checkpoint sequence must increase"

@[simp]
theorem logAfter_nil : logAfter start ([] : Trace F) = start := by
  simp [logAfter]

@[simp]
theorem logAfter_append (trace later : Trace F) :
    logAfter start (trace ++ later) = logAfter start trace ++ later.filterMap recordedBy := by
  simp [logAfter]

/-- Only appended checkpoints change the log. -/
theorem logAfter_concat {event : Event (Hook F) Hook.Response} (unrecorded : recordedBy event = none)
    (trace : Trace F) : logAfter start (trace ++ [event]) = logAfter start trace := by
  rw [logAfter_append, List.filterMap_cons_none unrecorded, List.filterMap_nil, List.append_nil]

theorem response_of_append {trace : Trace F} {checkpoint : MigrationCheckpoint}
    {response : Except Exc Unit}
    (answered : RecorderAnswers start trace (.append checkpoint) response) :
    response = if nextSequence (logAfter start trace) ≤ checkpoint.sequence then .ok ()
      else .error sequenceConflict := by
  obtain ⟨recorder, holds, rfl⟩ := answered
  split
  next behind =>
    refine (InMemoryMigrationRecorder.append_of_accepts ?_).1
    rw [holds]
    exact accepts_iff.mpr behind
  next notBehind =>
    refine (InMemoryMigrationRecorder.append_of_rejects ?_).1
    rw [holds]
    exact Bool.eq_false_iff.mpr fun accepted => notBehind (accepts_iff.mp accepted)

/-- Some recorder holds the log. -/
theorem exists_recorder (executionId : Str) (log : List MigrationCheckpoint) :
    ∃ recorder : InMemoryMigrationRecorder, recorder.checkpoints executionId = log := by
  refine ⟨⟨Dict.empty.set executionId log⟩, ?_⟩
  rw [InMemoryMigrationRecorder.checkpoints, Dict.get?_set_self]
  rfl

/-! ## Recording a checkpoint -/

section Recording

variable {answers : Trace F → (hook : Hook F) → hook.Response → Prop}
  {allowed : Trace F → Hook F → Prop} {locals : Locals} {trace : Trace F}
  {runId : Str} {bundle : MigrationBundleV1 F} {state : MigrationState}
  {step : Option AppliedMigrationStep} {failureCode : Option Str}

variable (start answers allowed) in
/-- The clock works and the recorder holds the log. -/
structure Records : Prop where
  clock : ∀ trace response, answers trace .clock response →
    ∃ now instant, response = .ok now ∧ now.toUtc = .ok instant
  recorder : ∀ trace checkpoint response, answers trace (.append checkpoint) response →
    RecorderAnswers start trace (.append checkpoint) response
  clockAllowed : ∀ trace, allowed trace .clock
  appendAllowed : ∀ trace checkpoint, allowed trace (.append checkpoint)

/-- An attempt to record a checkpoint adds a reading of the clock and the call to the trace. -/
def Attempt (runId : Str) (bundle : MigrationBundleV1 F) (sequence : Nat) (state : MigrationState)
    (step : Option AppliedMigrationStep) (failureCode : Option Str) (response : Except Exc Unit)
    (trace after : Trace F) : Prop :=
  ∃ now checkpoint, after = trace ++ [⟨.clock, .ok now⟩] ++ [⟨.append checkpoint, response⟩] ∧
    checkpoint.executionId = runId ∧ checkpoint.bundleDigest = bundle.digest ∧
    checkpoint.state = state ∧ checkpoint.sequence = sequence ∧
    checkpoint.stepId = step.map (·.stepId) ∧ checkpoint.failureCode = failureCode

theorem failureCode_of_make {executionId bundleDigest : Str} {sequence : Nat} {recordedAt : DateTime}
    {checkpoint : MigrationCheckpoint}
    (made : MigrationCheckpoint.make executionId bundleDigest state sequence step failureCode
      recordedAt = .ok checkpoint) : checkpoint.failureCode = failureCode := by
  unfold MigrationCheckpoint.make at made
  split at made
  · cases made
  · obtain ⟨_, -, made⟩ := bind_eq_ok_iff.mp made
    obtain ⟨_, -, made⟩ := bind_eq_ok_iff.mp made
    cases made
    rfl

theorem exists_checkpoint {sequence : Nat} {now : DateTime} {instant : Utc} (runIdNe : runId ≠ [])
    (aware : now.toUtc = .ok instant) :
    ∃ checkpoint, MigrationCheckpoint.make runId bundle.digest state sequence step failureCode now =
      .ok checkpoint := by
  have isOk : (MigrationCheckpoint.make runId bundle.digest state sequence step failureCode
      now).isOk = (ensureUtc "recorded_at" now).isOk :=
    MigrationCheckpoint.isOk_make runIdNe (isSha256_of_sha256Digest bundle.digest_eq)
  rw [ensureUtc, aware] at isOk
  cases made : MigrationCheckpoint.make runId bundle.digest state sequence step failureCode now with
  | ok checkpoint => exact ⟨checkpoint, rfl⟩
  | error error =>
      rw [made] at isOk
      cases isOk

/-- A checkpoint is recorded exactly if its sequence is at least the next one. -/
theorem safe_checkpoint (records : Records start answers allowed) (runIdNe : runId ≠ []) :
    (checkpoint runId bundle state step failureCode).Safe (Traced answers) allowed
      (fun _ after final => after = locals ∧
        nextSequence (logAfter start trace) ≤ locals.sequence ∧
        Attempt runId bundle locals.sequence state step failureCode (.ok ()) trace final)
      (fun error after final => after = locals ∧ error = sequenceConflict ∧
        locals.sequence < nextSequence (logAfter start trace) ∧
        Attempt runId bundle locals.sequence state step failureCode (.error sequenceConflict) trace
          final) locals trace := by
  rw [checkpoint, Script.safe_bind, Script.safe_locals, Script.safe_bind]
  refine safe_request (records.clockAllowed trace) (fun now answered => ?_) fun error answered => ?_
  · obtain ⟨_, instant, ⟨⟩, aware⟩ := records.clock _ _ answered
    obtain ⟨made, madeEq⟩ : ∃ made, MigrationCheckpoint.make runId bundle.digest state
        locals.sequence step failureCode now = .ok made := exists_checkpoint runIdNe aware
    rw [madeEq, Script.safe_bind, Script.safe_lift_ok]
    have values := MigrationCheckpoint.make_eq_ok madeEq
    have code := failureCode_of_make madeEq
    have unchanged : logAfter start (trace ++ [⟨.clock, .ok now⟩]) = logAfter start trace :=
      logAfter_concat rfl trace
    refine safe_request (records.appendAllowed _ _) (fun _ taken => ?_) fun error refused => ?_
    · have response := response_of_append (records.recorder _ _ _ taken)
      rw [unchanged, values.2.2.2.1] at response
      split at response
      next behind =>
        exact ⟨rfl, behind, now, made, rfl, values.1, values.2.1, values.2.2.1, values.2.2.2.1,
          values.2.2.2.2, code⟩
      next => cases response
    · have response := response_of_append (records.recorder _ _ _ refused)
      rw [unchanged, values.2.2.2.1] at response
      split at response
      next => cases response
      next notBehind =>
        cases response
        exact ⟨rfl, rfl, not_le.mp notBehind, now, made, rfl, values.1, values.2.1, values.2.2.1,
          values.2.2.2.1, values.2.2.2.2, code⟩
  · obtain ⟨_, _, ⟨⟩, _⟩ := records.clock _ _ answered

/-- A checkpoint at the next sequence is recorded, and the sequence moves with the log. -/
theorem safe_checkpoint_advance {α : Type} {normal : α → Locals → Trace F → Prop}
    {exceptional : Exc → Locals → Trace F → Prop} {rest : Execution F α}
    (records : Records start answers allowed) (runIdNe : runId ≠ [])
    (sequence : locals.sequence = nextSequence (logAfter start trace))
    (continues : ∀ now made, made.state = state →
      locals.sequence + 1 = nextSequence (logAfter start
        (trace ++ [⟨.clock, .ok now⟩] ++ [⟨.append made, .ok ()⟩])) →
      rest.Safe (Traced answers) allowed normal exceptional
        { locals with sequence := locals.sequence + 1 }
        (trace ++ [⟨.clock, .ok now⟩] ++ [⟨.append made, .ok ()⟩])) :
    (do
      checkpoint runId bundle state step
      advance
      rest : Execution F α).Safe (Traced answers) allowed normal exceptional locals trace := by
  rw [Script.safe_bind]
  refine (safe_checkpoint records runIdNe).mono ?_ ?_
  · rintro _ current _ ⟨rfl, -, now, made, rfl, -, -, isState, isSequence, -, -⟩
    rw [Script.safe_bind, advance, Script.safe_assign]
    refine continues now made isState ?_
    rw [logAfter_append]
    change current.sequence + 1 = nextSequence (logAfter start _ ++ [made])
    rw [nextSequence_append, isSequence]
  · rintro _ _ _ ⟨rfl, -, behind, -⟩
    rw [sequence] at behind
    exact absurd behind (lt_irrefl _)

/-! ## Evidence -/

/-- Evidence about the binding with the given details can be encoded. -/
def Recordable (bindingRef : Str) (details : List (Str × Json F)) : Prop :=
  (∀ point ∈ bindingRef, isSurrogate point = false) ∧ Encodable (.object details)

omit [FloatText F] in
theorem stateValue_text (state : MigrationState) :
    state.value ≠ [] ∧ ∀ point ∈ state.value, isSurrogate point = false := by
  cases state <;> exact ⟨by decide, scalar_str _⟩

/-- Evidence is handed to the sink if it can be encoded. -/
theorem safe_recordEvidence {bindingRef : Str} {details : List (Str × Json F)}
    {normal : Unit → Locals → Trace F → Prop} {exceptional : Exc → Locals → Trace F → Prop}
    (records : Records start answers allowed) (bindingRefNe : bindingRef ≠ [])
    (printable : (Json.object details).intsPrintable = true)
    (unencodable : ∀ now, ¬ Recordable bindingRef details →
      exceptional .unicodeEncodeError locals (trace ++ [⟨.clock, .ok now⟩]))
    (permitted : ∀ now evidence, allowed (trace ++ [⟨.clock, .ok now⟩]) (.record evidence))
    (returned : ∀ now evidence, Recordable bindingRef details →
      normal () locals (trace ++ [⟨.clock, .ok now⟩] ++ [⟨.record evidence, .ok ()⟩]))
    (failed : ∀ now evidence error, evidence.state = state.value →
      answers (trace ++ [⟨.clock, .ok now⟩]) (.record evidence) (.error error) →
      exceptional error locals (trace ++ [⟨.clock, .ok now⟩] ++ [⟨.record evidence, .error error⟩])) :
    (recordEvidence bindingRef state details).Safe (Traced answers) allowed normal exceptional locals
      trace := by
  obtain ⟨stateNe, stateScalar⟩ := stateValue_text state
  have nonempty : str "migration" ≠ [] ∧ bindingRef ≠ [] ∧ state.value ≠ [] :=
    ⟨by decide, bindingRefNe, stateNe⟩
  have encodable : Encodable (evidenceMaterial (str "migration") bindingRef state.value details) ↔
      Recordable bindingRef details :=
    encodable_evidenceMaterial_iff (scalar_str _) stateScalar
  rw [recordEvidence, Script.safe_bind]
  refine safe_request (records.clockAllowed trace) (fun now answered => ?_) fun error answered => ?_
  · obtain ⟨_, instant, ⟨⟩, aware⟩ := records.clock _ _ answered
    by_cases recordable : Recordable bindingRef details
    · obtain ⟨evidence, made⟩ :=
        (LifecycleEvidence.exists_make_iff nonempty aware).mpr (encodable.mpr recordable)
      rw [made, Script.safe_bind, Script.safe_lift_ok]
      have isState := LifecycleEvidence.state_of_make made
      exact safe_request (permitted now evidence) (fun _ _ => returned now evidence recordable)
        fun error answered => failed now evidence error isState answered
    · have shortInts : (evidenceMaterial (str "migration") bindingRef state.value
          details).intsPrintable = true := by
        simpa only [evidenceMaterial, Json.intsPrintable, Json.intsPrintableMembers, Bool.true_and,
          Bool.and_true] using printable
      rw [LifecycleEvidence.make_of_not_encodable nonempty aware shortInts
        (mt encodable.mp recordable), Script.safe_bind, Script.safe_lift_error]
      exact unencodable now recordable
  · obtain ⟨_, _, ⟨⟩, _⟩ := records.clock _ _ answered

end Recording

end DataLifecycle.Migration
