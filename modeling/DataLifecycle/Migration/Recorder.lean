import DataLifecycle.Migration.Conformance
import DataLifecycle.Python.Dict

/-!
# The in-memory recorder and calls of the executor

`InMemoryMigrationRecorder`, the arguments of one `execute` call, and what every
adapter with one exclusive lock has in common.
-/

namespace DataLifecycle.Migration

open Python Interaction

variable {F : Type} [FloatText F]

/-- `InMemoryMigrationRecorder`. -/
structure InMemoryMigrationRecorder where
  records : Dict Str (List MigrationCheckpoint)

namespace InMemoryMigrationRecorder

/-- A new recorder. -/
def empty : InMemoryMigrationRecorder := ⟨.empty⟩

/-- `checkpoints`. -/
def checkpoints (recorder : InMemoryMigrationRecorder) (executionId : Str) :
    List MigrationCheckpoint :=
  (recorder.records.get? executionId).getD []

/-- Whether `append` takes a checkpoint after the recorded ones. -/
def accepts (records : List MigrationCheckpoint) (checkpoint : MigrationCheckpoint) : Bool :=
  match records.getLast? with
  | none => true
  | some last => last.sequence < checkpoint.sequence

/-- `append`. -/
def append (recorder : InMemoryMigrationRecorder) (checkpoint : MigrationCheckpoint) :
    Except Exc Unit × InMemoryMigrationRecorder :=
  let records := recorder.checkpoints checkpoint.executionId
  if accepts records checkpoint then
    (.ok (), ⟨recorder.records.set checkpoint.executionId (records ++ [checkpoint])⟩)
  else
    (.error (.migrationConflict "migration checkpoint sequence must increase"),
      ⟨recorder.records.set checkpoint.executionId records⟩)

theorem append_of_accepts {recorder : InMemoryMigrationRecorder} {checkpoint : MigrationCheckpoint}
    (accepted : accepts (recorder.checkpoints checkpoint.executionId) checkpoint = true) :
    (recorder.append checkpoint).1 = .ok () ∧
      (recorder.append checkpoint).2.checkpoints checkpoint.executionId =
        recorder.checkpoints checkpoint.executionId ++ [checkpoint] := by
  simp only [append, accepted, if_true, true_and]
  simp only [checkpoints, Dict.get?_set_self, Option.getD_some]

theorem append_of_rejects {recorder : InMemoryMigrationRecorder} {checkpoint : MigrationCheckpoint}
    (rejected : accepts (recorder.checkpoints checkpoint.executionId) checkpoint = false) :
    (recorder.append checkpoint).1 =
        .error (.migrationConflict "migration checkpoint sequence must increase") ∧
      (recorder.append checkpoint).2.checkpoints checkpoint.executionId =
        recorder.checkpoints checkpoint.executionId := by
  simp only [append, rejected, Bool.false_eq_true, if_false, true_and]
  simp only [checkpoints, Dict.get?_set_self, Option.getD_some]

end InMemoryMigrationRecorder

/-- The log takes a checkpoint exactly when its sequence is at least the next
one. -/
theorem accepts_iff {records : List MigrationCheckpoint} {checkpoint : MigrationCheckpoint} :
    InMemoryMigrationRecorder.accepts records checkpoint = true ↔
      nextSequence records ≤ checkpoint.sequence := by
  unfold InMemoryMigrationRecorder.accepts nextSequence
  cases records.getLast? with
  | none => simp
  | some last => simp

@[simp]
theorem nextSequence_append (records : List MigrationCheckpoint) (checkpoint : MigrationCheckpoint) :
    nextSequence (records ++ [checkpoint]) = checkpoint.sequence + 1 := by
  simp [nextSequence]

theorem completedSteps_append (records : List MigrationCheckpoint)
    (checkpoint : MigrationCheckpoint) :
    completedSteps (records ++ [checkpoint]) =
      completedSteps records ++
        if checkpoint.state = .applying then checkpoint.stepId.toList else [] := by
  rw [completedSteps, List.filterMap_append, completedSteps]
  congr 1
  by_cases isApplying : checkpoint.state = .applying
  · cases stepEq : checkpoint.stepId <;> simp [isApplying, stepEq]
  · simp [isApplying]

/-- Only an APPLYING checkpoint adds a recorded step. -/
theorem completedSteps_append_of_ne {records : List MigrationCheckpoint}
    {checkpoint : MigrationCheckpoint} (notApplying : checkpoint.state ≠ .applying) :
    completedSteps (records ++ [checkpoint]) = completedSteps records := by
  rw [completedSteps_append, if_neg notApplying, List.append_nil]

/-- The sequences of a log strictly increase. -/
def Increasing (records : List MigrationCheckpoint) : Prop :=
  records.Pairwise fun first second => first.sequence < second.sequence

theorem Increasing.lt_nextSequence {records : List MigrationCheckpoint}
    (increasing : Increasing records) {item : MigrationCheckpoint} (member : item ∈ records) :
    item.sequence < nextSequence records := by
  induction records using List.reverseRecOn with
  | nil => cases member
  | append_singleton records last _ =>
      rw [nextSequence_append]
      rcases List.mem_append.mp member with earlier | isLast
      · exact Nat.lt_succ_of_lt
          ((List.pairwise_append.mp increasing).2.2 item earlier last (by simp))
      · rw [List.mem_singleton.mp isLast]
        exact Nat.lt_succ_self _

/-- What the recorder takes keeps the log increasing. -/
theorem Increasing.append {records : List MigrationCheckpoint} (increasing : Increasing records)
    {checkpoint : MigrationCheckpoint} (accepted : nextSequence records ≤ checkpoint.sequence) :
    Increasing (records ++ [checkpoint]) := by
  apply List.pairwise_append.mpr
  refine ⟨increasing, List.pairwise_singleton _ _, ?_⟩
  intro item member other otherMem
  rw [List.mem_singleton.mp otherMem]
  exact lt_of_lt_of_le (increasing.lt_nextSequence member) accepted

/-- A log that has grown takes no checkpoint with the sequence of the time it was
read. -/
theorem Increasing.eq_nil_of_le {read rest : List MigrationCheckpoint}
    (increasing : Increasing (read ++ rest))
    (accepted : nextSequence (read ++ rest) ≤ nextSequence read) : rest = [] := by
  cases rest using List.reverseRecOn with
  | nil => rfl
  | append_singleton rest last =>
      exfalso
      rw [← List.append_assoc, nextSequence_append] at accepted
      cases read using List.reverseRecOn with
      | nil => simp [nextSequence] at accepted
      | append_singleton read final =>
          rw [nextSequence_append] at accepted
          have behind := (List.pairwise_append.mp increasing).2.2 final (by simp) last (by simp)
          omega

/-- The arguments of one `execute` call. -/
structure ExecuteCall (F : Type) [FloatText F] where
  lockDuration : Int
  bindingRef : Str
  bundle : MigrationBundleV1 F
  owner : Str
  executionId : Option Str

/-- A running execution. -/
abbrev Running (F : Type) [FloatText F] :=
  Prog (Hook F) Hook.Response (Except Exc MigrationReport × Locals)

/-- The program of a call. -/
def ExecuteCall.program (call : ExecuteCall F) : Running F :=
  execute call.lockDuration call.bindingRef call.bundle call.owner call.executionId {}

/-- The automaton of a call. -/
def ExecuteCall.automaton (call : ExecuteCall F) : Automaton (Hook F) Hook.Response Phase :=
  executionAutomaton call.executionId call.bundle

theorem ExecuteCall.follows (call : ExecuteCall F) :
    call.program.Follows call.automaton .reading :=
  execute_follows call.lockDuration call.bindingRef call.bundle call.owner call.executionId

end DataLifecycle.Migration
