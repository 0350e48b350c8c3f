import DataLifecycle.Migration.FailureReport
import DataLifecycle.Migration.Resume

/-!
# Interrupted executions

An execution in which a call has raised leaves a log and a binding behind.  Called again with
the same execution id and bundle, `execute` goes on from the log, and with hooks that work it
completes as long as the binding has not been switched: after a successful `activate` the
fingerprint is the one of the target, and the entry check of the next execution refuses it.
-/

namespace DataLifecycle.Migration

open Python Interaction

variable {F : Type} [FloatText F] {α : Type}

/-- A text without lone surrogates. -/
abbrev Scalar (text : Str) : Prop := ∀ point ∈ text, isSurrogate point = false

/-- The texts that the adapter returns for an activation can be encoded. -/
structure ActivationResult.Encodes (activation : ActivationResult) : Prop where
  sourceBoundary : Scalar activation.sourceBoundary
  previousGeneration : Scalar activation.previousGeneration
  activeGeneration : Scalar activation.activeGeneration

/-- Whether a call is an `activate` that returned. -/
def switches : Event (Hook F) Hook.Response → Bool
  | ⟨.activate _ _ _, .ok _⟩ => true
  | _ => false

/-- An `activate` has returned. -/
def Switched (trace : Trace F) : Prop := ∃ event ∈ trace, switches event = true

/-- A call of the execution has raised.  An execution with an id draws no identifier. -/
def Interrupted (ran : Trace F) : Prop :=
  ∃ event ∈ ran, event.1 ≠ .uuid4 ∧ ∃ raised, raisedBy event = some raised

/-- All hooks succeed and all conditions pass, with texts that can be encoded.  The binding is at
the source fingerprint until an `activate` has returned and at the target fingerprint after it,
and every lock outlasts the deadline before which the clock is read. -/
def Succeeding (bundle : MigrationBundleV1 F) (deadline : Utc) (trace : Trace F) :
    (hook : Hook F) → hook.Response → Prop
  | .uuid4, response => ∃ identifier, response = .ok identifier
  | .cancelled, response => response = .ok false
  | .clock, response =>
      ∃ now instant, response = .ok now ∧ now.toUtc = .ok instant ∧ instant < deadline
  | .checkpoints executionId, response => RecorderAnswers [] trace (.checkpoints executionId) response
  | .append checkpoint, response => RecorderAnswers [] trace (.append checkpoint) response
  | .inspectState _, response =>
      ∃ state, response = .ok state ∧
        (Switched trace → state.logicalFingerprint = bundle.targetSchemaFingerprint) ∧
        (¬ Switched trace → state.logicalFingerprint = bundle.sourceSchemaFingerprint)
  | .runCondition _, response =>
      ∃ outcome, response = .ok outcome ∧ outcome.passed = true ∧ Scalar outcome.name
  | .acquireLock _ owner bundleDigest _, response =>
      ∃ lock, response = .ok lock ∧ lock.owner = owner ∧ lock.bundleDigest = bundleDigest ∧
        deadline ≤ lock.expiresAt
  | .compile target, response => ∃ plan, response = .ok plan ∧ verifyCompiled target plan = .ok ()
  | .applyStep _ compiled _, response =>
      ∃ applied, response = .ok applied ∧ applied.stepId = compiled.stepId
  | .activate _ target _, response =>
      ∃ activation, response = .ok activation ∧
        activation.targetFingerprint = target.targetSchemaFingerprint ∧ activation.Encodes
  | .releaseLock _, response => response = .ok ()
  | .record _, response => response = .ok ()

/-- The call does not apply a step of the list. -/
def Hook.Skips (done : List Str) : Hook F → Prop
  | .applyStep _ compiled _ => compiled.stepId ∉ done
  | _ => True

/-- Another call over the log and the binding that the history has left can be answered, and
however the hooks succeed it returns a COMPLETED report and applies no step that the log holds. -/
structure Resumes (lockDuration : Int) (bindingRef : Str) (bundle : MigrationBundleV1 F)
    (owner executionId : Str) (deadline : Utc) (history : Trace F) : Prop where
  answered : ∃ outcome final,
    (execute lockDuration bindingRef bundle owner (some executionId) {}).Returns
      (Traced (Succeeding bundle deadline)) history outcome final
  completes : (execute lockDuration bindingRef bundle owner (some executionId)).Safe
    (Traced (Succeeding bundle deadline))
    (fun _ hook => hook.Skips (completedSteps (logAfter [] history)))
    (fun report _ _ => report.state = .completed) (fun _ _ _ => False) {} history

/-- The binding has not been switched, and the texts of the evidence can be encoded. -/
structure Resumable (bindingRef executionId : Str) (history : Trace F) : Prop where
  unswitched : ¬ Switched history
  bindingRef : Scalar bindingRef
  executionId : Scalar executionId

/-! ## The interrupted execution -/

section Interruption

variable {bundle : MigrationBundleV1 F} {executionId : Option Str} {history : Trace F}

/-- An execution that the log has not refused goes on. -/
theorem Phase.engaged_next {phase : Phase} (engaged : phase.engaged = true) (hook : Hook F)
    (response : hook.Response) : (phase.next bundle hook response).engaged = true := by
  cases hook with
  | checkpoints => cases phase <;> first | rfl | cases engaged
  | append checkpoint =>
      simp only [next, afterAppend]
      split
      · rfl
      · split
        · exact engaged
        next isDue =>
          split
          · cases phase <;> first | rfl | cases engaged
          · rfl
  | clock =>
      cases phase with
      | applied =>
          simp only [next, afterClock]
          split <;> rfl
      | _ => first | rfl | cases engaged
  | acquireLock =>
      cases phase with
      | unlocked =>
          simp only [next, afterAcquire]
          split <;> rfl
      | _ => first | rfl | cases engaged
  | applyStep =>
      cases phase with
      | applying sequence todo =>
          cases todo with
          | nil => rfl
          | cons =>
              simp only [next, afterApply]
              split <;> rfl
      | _ => first | rfl | cases engaged
  | activate =>
      cases phase with
      | activating =>
          simp only [next, afterActivate]
          split <;> rfl
      | _ => first | rfl | cases engaged
  | releaseLock => rfl
  | _ => exact engaged

/-- Before the log is read an execution only draws an identifier. -/
theorem Phase.engaged_of_allows {phase : Phase} {hook : Hook F} (notDrawn : hook ≠ .uuid4)
    (notRead : ∀ runId, hook ≠ .checkpoints runId)
    (allowed : phase.Allows executionId bundle hook) : phase.engaged = true := by
  cases phase with
  | reading =>
      cases hook with
      | uuid4 => exact absurd rfl notDrawn
      | checkpoints runId => exact absurd rfl (notRead runId)
      | append =>
          cases allowed with
          | due isDue => cases isDue
          | failure mayFail => cases mayFail
      | _ => simp [Allows, calm, nextStep, held] at allowed
  | refused =>
      cases hook with
      | uuid4 => exact absurd rfl notDrawn
      | checkpoints runId => exact absurd rfl (notRead runId)
      | append =>
          cases allowed with
          | due isDue => cases isDue
          | failure mayFail => cases mayFail
      | _ => simp [Allows, calm, nextStep, held] at allowed
  | _ => rfl

/-- Once the log has been read it belongs to the bundle, and until then nothing has raised. -/
structure Belongs (bundle : MigrationBundleV1 F) (history : Trace F) (phase : Phase)
    (trace : Trace F) : Prop where
  owned : phase.engaged = true →
    ∀ checkpoint ∈ logAfter [] trace, checkpoint.bundleDigest = bundle.digest
  quiet : phase.engaged = false → ∃ ran, trace = history ++ ran ∧ ¬ Interrupted ran

theorem not_interrupted_concat {ran : Trace F} {event : Event (Hook F) Hook.Response}
    (uninterrupted : ¬ Interrupted ran)
    (harmless : event.1 = .uuid4 ∨ raisedBy event = none) : ¬ Interrupted (ran ++ [event]) := by
  rintro ⟨other, member, notDrawn, raised, found⟩
  rcases List.mem_append.mp member with earlier | isLast
  · exact uninterrupted ⟨other, earlier, notDrawn, raised, found⟩
  · obtain rfl := List.mem_singleton.mp isLast
    rcases harmless with drawn | returned
    · exact notDrawn drawn
    · rw [returned] at found
      cases found

theorem recordedBy_eq_some {hook : Hook F} {response : hook.Response} {checkpoint : MigrationCheckpoint}
    (recorded : recordedBy ⟨hook, response⟩ = some checkpoint) : hook = .append checkpoint := by
  cases hook with
  | append =>
      cases response with
      | ok =>
          cases recorded
          rfl
      | error => cases recorded
  | _ => cases recorded

/-- Every checkpoint that an execution records names its bundle. -/
theorem bundleDigest_of_recorded {phase : Phase} {hook : Hook F} {response : hook.Response}
    {checkpoint : MigrationCheckpoint} (allowed : phase.Allows executionId bundle hook)
    (recorded : recordedBy ⟨hook, response⟩ = some checkpoint) :
    checkpoint.bundleDigest = bundle.digest := by
  obtain rfl := recordedBy_eq_some recorded
  cases allowed with
  | due _ writes => exact writes.bundleDigest_eq
  | failure _ writes => exact writes.bundleDigest_eq

theorem Belongs.step {phase : Phase} {before : Trace F} {hook : Hook F} {response : hook.Response}
    (belongs : Belongs bundle history phase before)
    (allowed : phase.Allows executionId bundle hook)
    (answered : RecorderAnswers [] before hook response) :
    Belongs bundle history (phase.next bundle hook response) (before ++ [⟨hook, response⟩]) := by
  cases engaged : phase.engaged with
  | true =>
      have goesOn : (phase.next bundle hook response).engaged = true :=
        Phase.engaged_next engaged hook response
      refine ⟨fun _ checkpoint member => ?_, fun refused => ?_⟩
      · rw [logAfter_append] at member
        rcases List.mem_append.mp member with earlier | isNew
        · exact belongs.owned engaged checkpoint earlier
        · obtain ⟨event, isLast, recorded⟩ := List.mem_filterMap.mp isNew
          obtain rfl := List.mem_singleton.mp isLast
          exact bundleDigest_of_recorded allowed recorded
      · rw [goesOn] at refused
        cases refused
  | false =>
      obtain ⟨ran, rfl, uninterrupted⟩ := belongs.quiet engaged
      have extended : ∀ harmless, ∃ more, history ++ ran ++ [⟨hook, response⟩] = history ++ more ∧
          ¬ Interrupted more := fun harmless =>
        ⟨ran ++ [⟨hook, response⟩], List.append_assoc _ _ _,
          not_interrupted_concat uninterrupted harmless⟩
      by_cases drawn : hook = .uuid4
      · subst drawn
        refine ⟨fun isEngaged => ?_, fun _ => extended (.inl rfl)⟩
        change phase.engaged = true at isEngaged
        rw [engaged] at isEngaged
        cases isEngaged
      · by_cases read : ∃ runId, hook = .checkpoints runId
        · obtain ⟨runId, rfl⟩ := read
          obtain ⟨recorder, holds, rfl⟩ := answered
          refine ⟨fun isEngaged => ?_, fun _ => extended (.inr rfl)⟩
          rw [logAfter_concat rfl, ← holds]
          cases phase with
          | reading =>
              simp only [Phase.next, Phase.afterRead] at isEngaged
              split at isEngaged
              · cases isEngaged
              next accepted =>
                simp only [Phase.refuses, Bool.or_eq_true, List.any_eq_true, decide_eq_true_eq,
                  not_or, not_exists, not_and, not_not] at accepted
                exact accepted.1
          | refused => cases isEngaged
          | _ => cases engaged
        · simp only [not_exists] at read
          rw [Phase.engaged_of_allows drawn read allowed] at engaged
          cases engaged

/-- An execution in which a call has raised leaves a log of its bundle. -/
theorem owned_of_interrupted {lockDuration : Int} {bindingRef owner : Str} {ran : Trace F}
    {outcome : Except Exc MigrationReport × Locals}
    (returns : (execute lockDuration bindingRef bundle owner executionId {}).Returns
      (Traced (RecorderAnswers [])) history outcome (history ++ ran))
    (interrupted : Interrupted ran) :
    ∀ checkpoint ∈ logAfter [] (history ++ ran), checkpoint.bundleDigest = bundle.digest := by
  have initially : Belongs bundle history .reading history := by
    constructor
    · intro engaged
      cases engaged
    · refine fun _ => ⟨[], (List.append_nil _).symm, ?_⟩
      rintro ⟨event, member, -⟩
      cases member
  obtain ⟨phase, belongs⟩ := Prog.Follows.invariant (Belongs bundle history)
    (fun phase before hook response after belongs allowed answered => by
      obtain ⟨answers, rfl⟩ := answered
      exact belongs.step allowed answers)
    (execute_follows lockDuration bindingRef bundle owner executionId) returns initially
  cases engaged : phase.engaged with
  | true => exact belongs.owned engaged
  | false =>
      obtain ⟨quiet, same, uninterrupted⟩ := belongs.quiet engaged
      rw [List.append_cancel_left same] at interrupted
      exact absurd interrupted uninterrupted

/-- An execution that makes a call was given its names. -/
theorem named_of_interrupted {lockDuration : Int} {bindingRef owner runId : Str} {ran : Trace F}
    {outcome : Except Exc MigrationReport × Locals}
    (returns : (execute lockDuration bindingRef bundle owner (some runId) {}).Returns
      (Traced (RecorderAnswers [])) history outcome (history ++ ran))
    (interrupted : Interrupted ran) : bindingRef ≠ [] ∧ runId ≠ [] := by
  have safe : (execute lockDuration bindingRef bundle owner (some runId)).Safe
      (Traced (RecorderAnswers [])) (fun _ _ => True)
      (fun _ _ trace => trace = history ∨ bindingRef ≠ [] ∧ runId ≠ [])
      (fun _ _ trace => trace = history ∨ bindingRef ≠ [] ∧ runId ≠ []) {} history := by
    rw [execute, Script.safe_bind, Script.safe_refuse]
    refine ⟨fun _ => .inl rfl, fun unnamed => ?_⟩
    rw [Script.safe_bind, Script.safe_refuse]
    refine ⟨fun _ => .inl rfl, fun isEmpty => ?_⟩
    have named : bindingRef ≠ [] ∧ runId ≠ [] :=
      ⟨fun empty => unnamed (.inl empty), fun empty => isEmpty (congrArg some empty)⟩
    refine Prog.safe_of_forall (fun _ _ => trivial) ?_ _ _
    rintro ⟨result | report, locals⟩ trace
    · exact .inr named
    · exact .inr named
  have left := Prog.Safe.of_returns safe returns
  have nonempty : ran ≠ [] := by
    rintro rfl
    obtain ⟨event, member, -⟩ := interrupted
    cases member
  have named : history ++ ran = history ∨ bindingRef ≠ [] ∧ runId ≠ [] := by
    obtain ⟨result | report, locals⟩ := outcome
    · exact left
    · exact left
  exact named.resolve_left fun same => nonempty (List.append_right_eq_self.mp same)

end Interruption

/-! ## The evidence of the cutover -/

section Cutover

variable {bundle : MigrationBundleV1 F} {runId digest : Str} {activation : ActivationResult}
  {now : DateTime} {instant : Utc} {cutover : CutoverEvidence}

theorem encodable_cutover_iff {G : Type} {evidence : CutoverEvidence}
    (bundleDigest : isSha256 evidence.bundleDigest = true)
    (sourceFingerprint : isSha256 evidence.sourceFingerprint = true)
    (targetFingerprint : isSha256 evidence.targetFingerprint = true)
    (reportDigest : isSha256 evidence.validationReportDigest = true)
    (sourceBoundary : Scalar evidence.sourceBoundary)
    (previousGeneration : Scalar evidence.previousGeneration)
    (activeGeneration : Scalar evidence.activeGeneration) :
    Encodable (.object (evidence.digestMaterial : List (Str × Json G))) ↔
      Scalar evidence.executionId := by
  simp only [CutoverEvidence.digestMaterial, encodable_object_iff, encodable_str_iff,
    List.forall_mem_cons, List.not_mem_nil, false_implies, implies_true, and_true]
  constructor
  · rintro ⟨⟨-, executionId⟩, -⟩
    exact executionId
  · intro executionId
    exact ⟨⟨scalar_str _, executionId⟩,
      ⟨scalar_str _, isSurrogate_of_isSha256 bundleDigest⟩,
      ⟨scalar_str _, isSurrogate_of_isSha256 sourceFingerprint⟩,
      ⟨scalar_str _, isSurrogate_of_isSha256 targetFingerprint⟩,
      ⟨scalar_str _, sourceBoundary⟩,
      ⟨scalar_str _, previousGeneration⟩,
      ⟨scalar_str _, activeGeneration⟩,
      ⟨scalar_str _, isSurrogate_of_isSha256 reportDigest⟩,
      scalar_str _, isSurrogate_of_mem_rfc3339 evidence.activatedAt⟩

/-- The evidence of a cutover before its digest is computed. -/
def unsealed (runId : Str) (bundle : MigrationBundleV1 F) (activation : ActivationResult)
    (digest : Str) (activatedAt : Utc) : CutoverEvidence :=
  ⟨runId, bundle.digest, bundle.sourceSchemaFingerprint, bundle.targetSchemaFingerprint,
    activation.sourceBoundary, activation.previousGeneration, activation.activeGeneration, digest,
    activatedAt, []⟩

theorem make_cutover_eq (runIdNe : runId ≠ []) (isDigest : isSha256 digest = true)
    (aware : now.toUtc = .ok instant) :
    CutoverEvidence.make runId bundle activation digest now =
      (sha256Digest (.object ((unsealed runId bundle activation digest instant).digestMaterial
        (F := Empty)))).bind fun sealed =>
          .ok { unsealed runId bundle activation digest instant with digest := sealed } := by
  have time : ensureUtc "activated_at" now = .ok instant := by
    rw [ensureUtc, aware]
  have bundleDigest := isSha256_of_sha256Digest bundle.digest_eq
  rw [CutoverEvidence.make, if_neg runIdNe, requireSha256, if_pos bundleDigest, requireSha256,
    if_pos isDigest, time]
  simp only [unsealed, bind, Except.bind, pure, Except.pure]

theorem encodable_unsealed_iff {G : Type} (isDigest : isSha256 digest = true)
    (encodes : activation.Encodes) :
    Encodable (.object ((unsealed runId bundle activation digest instant).digestMaterial :
      List (Str × Json G))) ↔ Scalar runId :=
  encodable_cutover_iff (isSha256_of_sha256Digest bundle.digest_eq)
    bundle.valid.sourceSchemaFingerprint bundle.valid.targetSchemaFingerprint isDigest
    encodes.sourceBoundary encodes.previousGeneration encodes.activeGeneration

/-- The evidence of a cutover can be made exactly if the execution id can be encoded. -/
theorem exists_cutover_iff (runIdNe : runId ≠ []) (isDigest : isSha256 digest = true)
    (aware : now.toUtc = .ok instant) (encodes : activation.Encodes) :
    (∃ cutover, CutoverEvidence.make runId bundle activation digest now = .ok cutover) ↔
      Scalar runId := by
  rw [make_cutover_eq runIdNe isDigest aware]
  constructor
  · rintro ⟨cutover, made⟩
    obtain ⟨sealed, computed, -⟩ := bind_eq_ok_iff.mp made
    exact (encodable_unsealed_iff isDigest encodes).mp (encodable_of_sha256Digest computed)
  · intro scalar
    exact ⟨_, bind_eq_ok_iff.mpr ⟨_, sha256Digest_of_encodable
      ((encodable_unsealed_iff isDigest encodes).mpr scalar), rfl⟩⟩

/-- Evidence of a cutover that was made can be recorded. -/
theorem encodable_of_make_cutover (runIdNe : runId ≠ []) (isDigest : isSha256 digest = true)
    (aware : now.toUtc = .ok instant) (encodes : activation.Encodes)
    (made : CutoverEvidence.make runId bundle activation digest now = .ok cutover) :
    Encodable (.object (cutover.toMapping : List (Str × Json F))) := by
  have scalar := (exists_cutover_iff runIdNe isDigest aware encodes).mp ⟨cutover, made⟩
  rw [make_cutover_eq runIdNe isDigest aware] at made
  obtain ⟨sealed, computed, same⟩ := bind_eq_ok_iff.mp made
  cases same
  have material := encodable_object_iff.mp
    ((encodable_unsealed_iff isDigest encodes).mpr scalar : Encodable (.object
      ((unsealed runId bundle activation digest instant).digestMaterial : List (Str × Json F))))
  rw [CutoverEvidence.toMapping, encodable_object_iff, List.forall_mem_append]
  refine ⟨material, ?_⟩
  rw [List.forall_mem_singleton, encodable_str_iff]
  have key : Scalar (str "digest") := scalar_str _
  exact ⟨key, isSurrogate_of_isSha256 (isSha256_of_sha256Digest computed)⟩

omit [FloatText F] in
theorem intsPrintable_toMapping (cutover : CutoverEvidence) :
    (Json.object (cutover.toMapping : List (Str × Json F))).intsPrintable = true :=
  rfl

end Cutover

/-! ## The resumed execution -/

section Resumed

variable {bundle : MigrationBundleV1 F} {deadline : Utc} {bindingRef runId : Str} {done : List Str}
  {history trace : Trace F} {locals : Locals}

/-- The calls of an execution that applies none of the given steps.  They can all be answered. -/
def Permitted (bundle : MigrationBundleV1 F) (done : List Str) (_ : Trace F) : Hook F → Prop
  | .acquireLock _ owner bundleDigest _ => owner ≠ [] ∧ bundleDigest = bundle.digest
  | .compile target => target = bundle
  | .applyStep _ compiled _ => compiled.stepId ∉ done
  | _ => True

/-- The sequence is the next one of the log, and the validations can be reported. -/
structure Resuming (locals : Locals) (trace : Trace F) : Prop where
  sequence : locals.sequence = nextSequence (logAfter [] trace)
  validations : ∀ outcome ∈ locals.validations, Scalar outcome.name

variable (bundle deadline bindingRef runId done history) in
/-- A part of an execution that only stops if it could not be resumed. -/
abbrev Continues (result : α → Prop) (part : Execution F α) : Prop :=
  part.Yields (Traced (Succeeding bundle deadline)) (Permitted bundle done) Resuming
    (fun _ _ _ => ¬ Resumable bindingRef runId history) result

theorem records_succeeding :
    Records [] (Succeeding bundle deadline) (Permitted bundle done) := by
  refine ⟨fun _ _ answered => ?_, fun _ _ _ answered => answered, fun _ => trivial,
    fun _ _ => trivial⟩
  obtain ⟨now, instant, same, aware, -⟩ := answered
  exact ⟨now, instant, same, aware⟩

theorem Resuming.concat (resuming : Resuming locals trace) {event : Event (Hook F) Hook.Response}
    (unrecorded : recordedBy event = none) : Resuming locals (trace ++ [event]) := by
  refine ⟨?_, resuming.validations⟩
  rw [logAfter_concat unrecorded]
  exact resuming.sequence

/-- A call succeeds with a described value. -/
theorem continues_request (hook : Hook F) (result : hook.Answer → Prop)
    (unrecorded : ∀ response, recordedBy ⟨hook, response⟩ = none)
    (permitted : ∀ trace, Permitted bundle done trace hook)
    (succeeds : ∀ trace response, Succeeding bundle deadline trace hook response →
      ∃ value, response = .ok value ∧ result value) :
    Continues bundle deadline bindingRef runId done history result (request hook) := by
  intro locals trace resuming
  refine safe_request (permitted trace) (fun value answered => ?_) fun error answered => ?_
  · obtain ⟨_, ⟨⟩, described⟩ := succeeds trace _ answered
    exact ⟨resuming.concat (unrecorded _), described⟩
  · obtain ⟨_, ⟨⟩, _⟩ := succeeds trace _ answered

theorem continues_raiseIfCancelled :
    Continues bundle deadline bindingRef runId done history (fun _ => True)
      (raiseIfCancelled : Execution F Unit) := by
  refine Script.yields_bind (continues_request .cancelled (fun isCancelled => isCancelled = false)
    (fun _ => rfl) (fun _ => trivial) fun _ _ answered => ⟨false, answered, rfl⟩)
    fun isCancelled uncancelled => Script.yields_refuse ?_
  rw [uncancelled]
  exact Bool.false_ne_true

theorem continues_currentUtc :
    Continues bundle deadline bindingRef runId done history (fun now => now < deadline)
      (currentUtc : Execution F Utc) := by
  refine Script.yields_bind (continues_request .clock
    (fun now => ∃ instant, now.toUtc = .ok instant ∧ instant < deadline)
    (fun _ => rfl) (fun _ => trivial) ?_) ?_
  · rintro _ _ ⟨now, instant, same, aware, early⟩
    exact ⟨now, same, instant, aware, early⟩
  · rintro now ⟨instant, aware, early⟩
    have time : ensureUtc "now" now = .ok instant := by
      rw [ensureUtc, aware]
    rw [time]
    exact fun _ _ resuming => ⟨resuming, early⟩

theorem continues_runConditions (cancellable : Bool) (conditions : List (MigrationCondition F)) :
    Continues bundle deadline bindingRef runId done history
      (fun outcomes => ∀ outcome ∈ outcomes, Scalar outcome.name)
      (runConditions cancellable conditions) := by
  induction conditions with
  | nil => exact Script.yields_pure (by simp)
  | cons condition rest inductionHypothesis =>
      have token : Continues bundle deadline bindingRef runId done history (fun _ => True)
          (checkToken cancellable : Execution F Unit) := by
        cases cancellable with
        | false => exact Script.yields_pure trivial
        | true => exact continues_raiseIfCancelled
      refine Script.yields_bind token fun _ _ => Script.yields_bind (continues_request
        (.runCondition condition) (fun outcome => outcome.passed = true ∧ Scalar outcome.name)
        (fun _ => rfl) (fun _ => trivial) fun _ _ answered => answered) ?_
      rintro outcome ⟨passed, named⟩
      refine Script.yields_bind (Script.yields_refuse ?_) fun _ _ =>
        Script.yields_bind inductionHypothesis fun outcomes scalar => Script.yields_pure ?_
      · rw [passed]
        exact nofun
      · rw [List.forall_mem_cons]
        exact ⟨named, scalar⟩

theorem continues_extendValidations (cancellable : Bool)
    (conditions : List (MigrationCondition F)) :
    Continues bundle deadline bindingRef runId done history (fun _ => True)
      (extendValidations cancellable conditions) := by
  refine Script.yields_bind (continues_runConditions cancellable conditions) fun outcomes scalar =>
    Script.yields_assign fun locals trace resuming => ⟨resuming.sequence, ?_⟩
  intro outcome member
  rcases List.mem_append.mp member with earlier | isNew
  · exact resuming.validations outcome earlier
  · exact scalar outcome isNew

/-- The lock does not expire before the deadline. -/
theorem continues_unexpired {lock : MigrationLock} {error : Exc} {rest : Execution F α}
    {result : α → Prop} (lasts : deadline ≤ lock.expiresAt)
    (continues : Continues bundle deadline bindingRef runId done history result rest) :
    Continues bundle deadline bindingRef runId done history result (do
      let now ← currentUtc
      Script.refuse (lock.expiresAt ≤ now) error
      rest) :=
  Script.yields_bind continues_currentUtc fun _ early =>
    Script.yields_bind (Script.yields_refuse (not_le.mpr (early.trans_le lasts))) fun _ _ => continues

/-- A checkpoint before COMPLETED is recorded, and the sequence moves with the log. -/
theorem safe_recorded {state : MigrationState} {step : Option AppliedMigrationStep}
    {rest : Execution F α} {normal : α → Locals → Trace F → Prop}
    {exceptional : Exc → Locals → Trace F → Prop} (resuming : Resuming locals trace)
    (runIdNe : runId ≠ [])
    (continues : ∀ locals trace, Resuming locals trace →
      rest.Safe (Traced (Succeeding bundle deadline)) (Permitted bundle done) normal exceptional locals
        trace) :
    (do
      checkpoint runId bundle state step
      advance
      rest : Execution F α).Safe (Traced (Succeeding bundle deadline)) (Permitted bundle done) normal
        exceptional locals trace :=
  safe_checkpoint_advance records_succeeding runIdNe resuming.sequence fun _ _ _ moved =>
    continues _ _ ⟨moved, resuming.validations⟩

theorem continues_applySteps {lock : MigrationLock} (lasts : deadline ≤ lock.expiresAt)
    (runIdNe : runId ≠ []) (steps : List CompiledMigrationStep) :
    Continues bundle deadline bindingRef runId done history (fun _ => True)
      (applySteps runId bundle lock done steps) := by
  induction steps with
  | nil => exact Script.yields_pure trivial
  | cons compiled rest inductionHypothesis =>
      refine Script.yields_bind continues_raiseIfCancelled fun _ _ => continues_unexpired lasts ?_
      split
      · exact inductionHypothesis
      next isNew =>
        refine Script.yields_bind (continues_request (.applyStep lock compiled none)
          (fun applied => applied.stepId = compiled.stepId) (fun _ => rfl) (fun _ => isNew)
          fun _ _ answered => answered) fun applied acknowledged => ?_
        refine Script.yields_bind (Script.yields_refuse (not_not.mpr acknowledged)) fun _ _ => ?_
        exact fun locals trace resuming => safe_recorded resuming runIdNe inductionHypothesis

/-- The lock and the plan that a resumed execution works with. -/
structure Equipped (bundle : MigrationBundleV1 F) (deadline : Utc)
    (equipment : BindingStateEvidence × MigrationLock × CompiledMigrationPlan) : Prop where
  lasts : deadline ≤ equipment.2.1.expiresAt
  planDigest : isSha256 equipment.2.2.planDigest = true

theorem switched_concat_iff {event : Event (Hook F) Hook.Response} (kept : switches event = false) :
    Switched (trace ++ [event]) ↔ Switched trace := by
  constructor
  · rintro ⟨other, member, isSwitch⟩
    rcases List.mem_append.mp member with earlier | isLast
    · exact ⟨other, earlier, isSwitch⟩
    · rw [List.mem_singleton.mp isLast, kept] at isSwitch
      cases isSwitch
  · rintro ⟨other, member, isSwitch⟩
    exact ⟨other, List.mem_append_left _ member, isSwitch⟩

/-- The lock is taken and the plan is verified. -/
theorem continues_equip {lockDuration : Int} {owner : Str} {state : BindingStateEvidence}
    (ownerNe : owner ≠ []) :
    Continues bundle deadline bindingRef runId done history (Equipped bundle deadline) (do
      extendValidations true bundle.preconditions
      let lock ← request (.acquireLock bindingRef owner bundle.digest lockDuration)
      Script.assign fun current => { current with lock := some lock }
      Script.refuse (lock.owner ≠ owner ∨ lock.bundleDigest ≠ bundle.digest)
        (.migrationConflict "adapter returned a lock for a different owner or bundle")
      let now ← currentUtc
      Script.refuse (lock.expiresAt ≤ now)
        (.migrationConflict "adapter returned an expired migration lock")
      let plan ← request (.compile bundle)
      Script.lift (verifyCompiled bundle plan)
      pure (state, lock, plan)) := by
  refine Script.yields_bind (continues_extendValidations true bundle.preconditions) fun _ _ => ?_
  refine Script.yields_bind (continues_request (.acquireLock bindingRef owner bundle.digest lockDuration)
    (fun lock => lock.owner = owner ∧ lock.bundleDigest = bundle.digest ∧ deadline ≤ lock.expiresAt)
    (fun _ => rfl) (fun _ => ⟨ownerNe, rfl⟩) fun _ _ answered => answered) ?_
  rintro lock ⟨isOwner, isDigest, lasts⟩
  have own : ¬ (lock.owner ≠ owner ∨ lock.bundleDigest ≠ bundle.digest) := by
    rintro (other | other)
    · exact other isOwner
    · exact other isDigest
  refine Script.yields_bind (Script.yields_assign fun locals trace resuming =>
    ⟨resuming.sequence, resuming.validations⟩) fun _ _ =>
    Script.yields_bind (Script.yields_refuse own) fun _ _ => continues_unexpired lasts ?_
  refine Script.yields_bind (continues_request (.compile bundle)
    (fun plan => verifyCompiled bundle plan = .ok ()) (fun _ => rfl) (fun _ => rfl)
    fun _ _ answered => answered) fun plan verified => ?_
  rw [verified]
  have passed : Continues bundle deadline bindingRef runId done history (fun _ => True)
      (Script.lift (.ok ()) : Execution F Unit) := fun _ _ resuming => ⟨resuming, trivial⟩
  exact Script.yields_bind passed fun _ _ =>
    Script.yields_pure ⟨lasts, isSha256_of_sha256Digest plan.planDigest_eq⟩

/-- The entry check refuses a binding that has been switched, and nothing else stops before the
plan is there. -/
theorem safe_acquireResumed {lockDuration : Int} {owner : Str} (ownerNe : owner ≠ [])
    (differ : bundle.sourceSchemaFingerprint ≠ bundle.targetSchemaFingerprint)
    (resuming : Resuming locals trace) (same : Switched trace ↔ Switched history) :
    (acquire lockDuration bindingRef bundle owner).Safe (Traced (Succeeding bundle deadline))
      (Permitted bundle done)
      (fun equipment locals trace => (Resuming locals trace ∧ Equipped bundle deadline equipment) ∧
        ¬ Switched history)
      (fun _ _ _ => ¬ Resumable bindingRef runId history) locals trace := by
  rw [acquire, Script.safe_bind, raiseIfCancelled, Script.safe_bind]
  refine safe_request trivial (fun isCancelled answered => ?_) fun error answered => ?_
  · cases answered
    rw [Script.safe_refuse]
    refine ⟨fun isCancelled => absurd isCancelled Bool.false_ne_true, fun _ => ?_⟩
    have looked : Resuming locals (trace ++ [⟨.cancelled, .ok false⟩]) := resuming.concat rfl
    rw [Script.safe_bind]
    refine safe_request trivial (fun state answered => ?_) fun error answered => ?_
    · obtain ⟨_, ⟨⟩, ifSwitched, ifNot⟩ := answered
      rw [switched_concat_iff rfl, same] at ifSwitched ifNot
      rw [Script.safe_bind, Script.safe_refuse]
      constructor
      · intro mismatch resumable
        exact mismatch (ifNot resumable.unswitched)
      · intro atSource
        have unswitched : ¬ Switched history := by
          intro switched
          rw [ifSwitched switched] at atSource
          exact differ (not_not.mp atSource).symm
        refine (continues_equip ownerNe locals _ (looked.concat rfl)).mono ?_ fun _ _ _ left => left
        exact fun _ _ _ equipped => ⟨equipped, unswitched⟩
    · obtain ⟨_, ⟨⟩, _⟩ := answered
  · cases answered

/-- Validations with encodable names can be reported. -/
theorem exists_validationDigest {outcomes : List ValidationOutcome}
    (scalar : ∀ outcome ∈ outcomes, Scalar outcome.name) :
    ∃ digest, sha256Digest (validationMaterial outcomes) = .ok digest ∧ isSha256 digest = true := by
  have encodable : Encodable (validationMaterial outcomes) := by
    rw [validationMaterial, encodable_array_iff]
    intro item member
    obtain ⟨outcome, isOutcome, rfl⟩ := List.mem_map.mp member
    simp only [encodable_object_iff, encodable_str_iff, List.forall_mem_cons, List.not_mem_nil,
      false_implies, implies_true, and_true]
    have passed : Encodable (.bool outcome.passed : Json Empty) := by
      simp [Encodable, Json.intsPrintable, Json.characters]
    exact ⟨⟨scalar_str _, scalar outcome isOutcome⟩,
      ⟨scalar_str _, passed⟩, scalar_str _,
      isSurrogate_of_isSha256 outcome.resultDigest_sha256⟩
  have computed := sha256Digest_of_encodable encodable
  exact ⟨_, computed, isSha256_of_sha256Digest computed⟩

/-- The cutover succeeds exactly if its evidence can be encoded. -/
theorem continues_cutOver {state : BindingStateEvidence} {lock : MigrationLock}
    (lasts : deadline ≤ lock.expiresAt) (runIdNe : runId ≠ []) :
    Continues bundle deadline bindingRef runId done history
      (fun cutover => Scalar runId ∧ Encodable (.object (cutover.toMapping : List (Str × Json F))))
      (cutOver runId bundle state lock) := by
  refine Script.yields_bind continues_raiseIfCancelled fun _ _ => continues_unexpired lasts ?_
  refine Script.yields_bind (continues_request (.activate lock bundle state.activeGeneration)
    (fun activation => activation.targetFingerprint = bundle.targetSchemaFingerprint ∧
      activation.Encodes) (fun _ => rfl) (fun _ => trivial) fun _ _ answered => answered) ?_
  rintro activation ⟨atTarget, encodes⟩
  refine Script.yields_bind (Script.yields_refuse (not_not.mpr atTarget)) fun _ _ =>
    Script.yields_bind (continues_extendValidations false bundle.postconditions) fun _ _ => ?_
  refine Script.yields_bind (Script.yields_locals fun _ _ resuming => resuming.validations)
    fun current scalar => ?_
  obtain ⟨digest, computed, isDigest⟩ := exists_validationDigest scalar
  rw [computed]
  have reported : Continues bundle deadline bindingRef runId done history (fun value => value = digest)
      (Script.lift (.ok digest) : Execution F Str) := fun _ _ resuming => ⟨resuming, rfl⟩
  refine Script.yields_bind reported ?_
  rintro _ rfl
  refine Script.yields_bind (continues_request .clock (fun now => ∃ instant, now.toUtc = .ok instant)
    (fun _ => rfl) (fun _ => trivial) ?_) ?_
  · rintro _ _ ⟨now, instant, same, aware, -⟩
    exact ⟨now, same, instant, aware⟩
  · rintro now ⟨instant, aware⟩
    refine Script.yields_lift (fun cutover made => ⟨?_, ?_⟩) fun error failed _ _ _ resumable => ?_
    · exact (exists_cutover_iff runIdNe isDigest aware encodes).mp ⟨cutover, made⟩
    · exact encodable_of_make_cutover runIdNe isDigest aware encodes made
    · obtain ⟨cutover, made⟩ : ∃ cutover, CutoverEvidence.make runId bundle activation _ now =
          .ok cutover := (exists_cutover_iff runIdNe isDigest aware encodes).mpr resumable.executionId
      rw [made] at failed
      cases failed

/-- PLANNED is put on record exactly if the binding can be named. -/
theorem safe_recordPlanned {planDigest : Str} (isDigest : isSha256 planDigest = true)
    (bindingRefNe : bindingRef ≠ []) :
    Continues bundle deadline bindingRef runId done history (fun _ => Scalar bindingRef)
      (recordEvidence bindingRef .planned
        [(str "bundleDigest", .str bundle.digest), (str "planDigest", .str planDigest)]) := by
  have details : Encodable (.object [(str "bundleDigest", .str bundle.digest),
      (str "planDigest", .str planDigest)] : Json F) := by
    simp only [encodable_object_iff, encodable_str_iff, List.forall_mem_cons, List.not_mem_nil,
      false_implies, implies_true, and_true]
    exact ⟨⟨scalar_str _,
      isSurrogate_of_isSha256 (isSha256_of_sha256Digest bundle.digest_eq)⟩,
      scalar_str _, isSurrogate_of_isSha256 isDigest⟩
  intro locals trace resuming
  refine safe_recordEvidence records_succeeding bindingRefNe rfl (fun _ unrecordable resumable => ?_)
    (fun _ _ => trivial) (fun _ _ recordable => ?_) fun _ _ _ _ answered => ?_
  · exact unrecordable ⟨resumable.bindingRef, details⟩
  · exact ⟨(resuming.concat rfl).concat rfl, recordable.1⟩
  · cases answered

/-- COMPLETED is recorded and reported. -/
theorem safe_finish {cutover : CutoverEvidence} (resuming : Resuming locals trace)
    (runIdNe : runId ≠ []) (bindingRefNe : bindingRef ≠ [])
    (encodable : Encodable (.object (cutover.toMapping : List (Str × Json F)))) :
    (do
      checkpoint runId bundle .completed
      recordEvidence bindingRef .completed cutover.toMapping
      let checkpoints ← request (.checkpoints runId)
      let final ← Script.locals
      pure ⟨runId, .completed, bundle.digest, checkpoints, final.validations, some cutover⟩ :
      Execution F MigrationReport).Safe (Traced (Succeeding bundle deadline)) (Permitted bundle done)
        (fun report _ _ => report.state = .completed)
        (fun _ _ _ => ¬ Resumable bindingRef runId history) locals trace := by
  rw [Script.safe_bind]
  refine (safe_checkpoint records_succeeding runIdNe).mono ?_ ?_
  · rintro _ current final ⟨rfl, -⟩
    rw [Script.safe_bind]
    refine safe_recordEvidence records_succeeding bindingRefNe (intsPrintable_toMapping cutover)
      (fun _ unrecordable resumable => ?_) (fun _ _ => trivial) (fun _ _ _ => ?_)
      fun _ _ _ _ answered => ?_
    · exact unrecordable ⟨resumable.bindingRef, encodable⟩
    · rw [Script.safe_bind]
      refine safe_request trivial (fun checkpoints _ => rfl) fun error answered => ?_
      obtain ⟨_, _, ⟨⟩⟩ := answered
    · cases answered
  · rintro _ _ _ ⟨rfl, -, behind, -⟩
    rw [resuming.sequence] at behind
    exact absurd behind (lt_irrefl _)

/-- The body of a resumed execution completes exactly if it can. -/
theorem safe_migrateResumed {lockDuration : Int} {owner : Str} (ownerNe : owner ≠ [])
    (runIdNe : runId ≠ []) (bindingRefNe : bindingRef ≠ [])
    (differ : bundle.sourceSchemaFingerprint ≠ bundle.targetSchemaFingerprint)
    (resuming : Resuming locals trace) (same : Switched trace ↔ Switched history) :
    (migrate lockDuration bindingRef bundle owner runId done).Safe
      (Traced (Succeeding bundle deadline)) (Permitted bundle done)
      (fun report _ _ => report.state = .completed ∧ Resumable bindingRef runId history)
      (fun _ _ _ => ¬ Resumable bindingRef runId history) locals trace := by
  rw [migrate, Script.safe_bind]
  refine (safe_acquireResumed ownerNe differ resuming same).mono ?_ fun _ _ _ left => left
  rintro ⟨state, lock, plan⟩ locals trace ⟨⟨resuming, lasts, planDigest⟩, unswitched⟩
  refine safe_recorded resuming runIdNe fun locals trace resuming => ?_
  refine (safe_recordPlanned planDigest bindingRefNe).safe_bind resuming
    fun _ locals trace bindingRefScalar resuming => ?_
  refine (continues_applySteps lasts runIdNe plan.steps).safe_bind resuming
    fun _ locals trace _ resuming => ?_
  refine safe_recorded resuming runIdNe fun locals trace resuming => ?_
  refine (continues_extendValidations true bundle.validations).safe_bind resuming
    fun _ locals trace _ resuming => ?_
  refine safe_recorded resuming runIdNe fun locals trace resuming => ?_
  refine (continues_cutOver lasts runIdNe).safe_bind resuming
    fun cutover locals trace made resuming => ?_
  refine (safe_finish resuming runIdNe bindingRefNe made.2).mono ?_ fun _ _ _ left => left
  exact fun _ _ _ isCompleted => ⟨isCompleted, unswitched, bindingRefScalar, made.1⟩

/-- The handler makes only calls that are permitted, and raises. -/
theorem safe_recordFailureResumed {error : Exc} {stopped : Prop} (holds : stopped) :
    (recordFailure bindingRef bundle runId error).Safe (Traced (Succeeding bundle deadline))
      (Permitted bundle done) (fun _ _ _ => False) (fun _ _ _ => stopped) locals trace := by
  have tolerates : ∀ hook : Hook F, (∀ trace, Permitted bundle done trace hook) →
      Tolerates (Succeeding bundle deadline) (Permitted bundle done) (fun _ _ => stopped)
        (fun _ _ _ => stopped) hook := by
    refine fun hook permitted locals trace holds => ⟨permitted trace, fun response _ => ?_⟩
    cases response with
    | ok => exact holds
    | error => exact holds
  have absorbs : ∀ error : Exc, error.IsBuiltin →
      Absorbs (fun _ (_ : Trace F) => stopped) (fun _ _ _ => stopped) error :=
    fun _ _ _ _ holds => holds
  have clock := tolerates .clock fun _ => trivial
  unfold recordFailure
  split
  · refine Script.Ends.safe_bind (part_checkpoint clock (fun made => tolerates (.append made) fun _ =>
      trivial) absorbs) holds (fun _ locals trace holds => ?_) fun _ _ _ holds => holds
    exact Script.Ends.safe_bind (part_recordEvidence clock (fun evidence =>
      tolerates (.record evidence) fun _ => trivial) absorbs) holds (fun _ _ _ holds => holds)
      fun _ _ _ holds => holds
  · exact holds

/-- Called over a log of the bundle without COMPLETED, `execute` completes exactly if it can be
resumed, and every call that it makes is permitted. -/
theorem safe_executeResumed {lockDuration : Int} {owner : Str} (ownerNe : owner ≠ [])
    (runIdNe : runId ≠ []) (bindingRefNe : bindingRef ≠ [])
    (differ : bundle.sourceSchemaFingerprint ≠ bundle.targetSchemaFingerprint)
    (owned : ∀ checkpoint ∈ logAfter [] history, checkpoint.bundleDigest = bundle.digest)
    (unfinished : ∀ checkpoint ∈ logAfter [] history, checkpoint.state ≠ .completed) :
    (execute lockDuration bindingRef bundle owner (some runId)).Safe
      (Traced (Succeeding bundle deadline))
      (Permitted bundle (completedSteps (logAfter [] history)))
      (fun report _ _ => report.state = .completed ∧ Resumable bindingRef runId history)
      (fun _ _ _ => ¬ Resumable bindingRef runId history) {} history := by
  have named : ¬ (bindingRef = [] ∨ owner = []) := by
    rintro (empty | empty)
    · exact bindingRefNe empty
    · exact ownerNe empty
  have supplied : ¬ some runId = some [] := fun same => runIdNe (Option.some.inj same)
  rw [execute, Script.safe_bind, Script.safe_refuse]
  refine ⟨fun unnamed => absurd unnamed named, fun _ => ?_⟩
  rw [Script.safe_bind, Script.safe_refuse]
  refine ⟨fun isEmpty => absurd isEmpty supplied, fun _ => ?_⟩
  rw [chooseRunId, Script.safe_bind, Script.safe_pure, executeAs, Script.safe_bind]
  refine safe_request trivial (fun existing answered => ?_) fun error answered => ?_
  · obtain ⟨recorder, holds, same⟩ := answered
    cases same
    rw [holds]
    have foreign : ¬ ((logAfter [] history).any
        fun item => item.bundleDigest ≠ bundle.digest) = true := by
      simpa using owned
    have completed : ¬ ((logAfter [] history).any fun item => item.state = .completed) = true := by
      simpa using unfinished
    rw [Script.safe_bind, Script.safe_refuse]
    refine ⟨fun isForeign => absurd isForeign foreign, fun _ => ?_⟩
    rw [Script.safe_bind, Script.safe_refuse]
    refine ⟨fun isCompleted => absurd isCompleted completed, fun _ => ?_⟩
    rw [Script.safe_bind, Script.safe_assign, Script.safe_tryFinally, Script.safe_tryExcept]
    have resuming : Resuming { ({} : Locals) with sequence := nextSequence (logAfter [] history) }
        (history ++ [⟨.checkpoints runId, .ok (logAfter [] history)⟩]) := by
      refine ⟨?_, by simp⟩
      rw [logAfter_concat rfl]
    refine (safe_migrateResumed ownerNe runIdNe bindingRefNe differ resuming
      (switched_concat_iff rfl)).mono (fun report locals trace reported => ?_)
      fun error locals trace stopped => ?_
    · refine safe_releaseHeldLock (fun _ => reported) (fun _ _ => trivial) (fun _ _ => reported)
        fun _ _ _ answered => ?_
      cases answered
    · refine (safe_recordFailureResumed stopped).mono (fun _ _ _ never => never.elim)
        fun _ _ _ stopped => ?_
      exact safe_releaseHeldLock (fun _ => stopped) (fun _ _ => trivial) (fun _ _ => stopped)
        fun _ _ _ _ => stopped
  · obtain ⟨_, _, ⟨⟩⟩ := answered

/-! ## Answers -/

theorem scalar_stepId {step : MigrationStep F} (member : step ∈ bundle.steps) : Scalar step.stepId := by
  have material := encodable_object_iff.mp (encodable_of_sha256Digest bundle.digest_eq)
  have steps : Encodable (.array (bundle.steps.map (·.toMapping)) : Json F) :=
    (material (str "steps", .array (bundle.steps.map (·.toMapping))) (by simp)).2
  have mapping := encodable_array_iff.mp steps _ (List.mem_map_of_mem member)
  exact encodable_str_iff.mp
    (encodable_object_iff.mp mapping (str "stepId", .str step.stepId) (by simp)).2

/-- Every bundle has a plan that passes the verification. -/
theorem exists_verified (bundle : MigrationBundleV1 F) :
    ∃ plan, verifyCompiled bundle plan = .ok () := by
  have digest := Binding.isSha256_uniformFingerprint
  let compiled (step : MigrationStep F) : CompiledMigrationStep :=
    ⟨step.stepId, str "compiler", Binding.uniformFingerprint 48, ⟨step.stepId_ne, by decide⟩, digest⟩
  have encodable : Encodable (planMaterial bundle.digest (bundle.steps.map compiled)) := by
    simp only [planMaterial, encodable_object_iff, encodable_str_iff, encodable_array_iff,
      List.forall_mem_cons, List.not_mem_nil, false_implies, implies_true, and_true]
    refine ⟨⟨scalar_str _,
      isSurrogate_of_isSha256 (isSha256_of_sha256Digest bundle.digest_eq)⟩,
      scalar_str _, fun item member => ?_⟩
    simp only [List.map_map, List.mem_map, Function.comp_apply] at member
    obtain ⟨step, isStep, rfl⟩ := member
    simp only [CompiledMigrationStep.evidenceMapping, encodable_object_iff, encodable_str_iff,
      List.forall_mem_cons, List.not_mem_nil, false_implies, implies_true, and_true]
    have compiler : Scalar (str "compiler") := scalar_str _
    exact ⟨⟨scalar_str _, scalar_stepId isStep⟩,
      ⟨scalar_str _, compiler⟩,
      scalar_str _, isSurrogate_of_isSha256 digest⟩
  have computed := sha256Digest_of_encodable encodable
  refine ⟨⟨bundle.digest, bundle.steps.map compiled, _, isSha256_of_sha256Digest bundle.digest_eq,
    computed⟩, ?_⟩
  have ordered : (bundle.steps.map compiled).map (·.stepId) = bundle.stepIds := by
    rw [List.map_map]
    rfl
  rw [verifyCompiled, if_neg (not_not.mpr rfl), if_neg (not_not.mpr ordered), computed]
  exact if_neg (not_not.mpr rfl)

/-- Every call that is permitted can be answered before the deadline. -/
theorem exists_answer {instant : Utc} (early : instant < deadline) {hook : Hook F}
    (permitted : Permitted bundle done trace hook) :
    ∃ response, Succeeding bundle deadline trace hook response := by
  have scalarText : Scalar (str "text") := scalar_str _
  have textNe : str "text" ≠ [] := by decide
  have digest := Binding.isSha256_uniformFingerprint
  cases hook with
  | uuid4 => exact ⟨_, ⟨str "text", textNe⟩, rfl⟩
  | cancelled => exact ⟨_, rfl⟩
  | clock => exact ⟨_, .ofUtc instant, instant, rfl, DateTime.toUtc_ofUtc _, early⟩
  | checkpoints executionId =>
      obtain ⟨recorder, holds⟩ := exists_recorder executionId (logAfter [] trace)
      exact ⟨_, recorder, holds, rfl⟩
  | append checkpoint =>
      obtain ⟨recorder, holds⟩ := exists_recorder checkpoint.executionId (logAfter [] trace)
      exact ⟨_, recorder, holds, rfl⟩
  | inspectState =>
      by_cases switched : Switched trace
      · have valid := bundle.valid.targetSchemaFingerprint
        exact ⟨_, ⟨bundle.targetSchemaFingerprint, bundle.targetSchemaFingerprint, str "text", .inr 0,
          valid, valid, textNe⟩, rfl, fun _ => rfl, fun unswitched => absurd switched unswitched⟩
      · have valid := bundle.valid.sourceSchemaFingerprint
        exact ⟨_, ⟨bundle.sourceSchemaFingerprint, bundle.sourceSchemaFingerprint, str "text", .inr 0,
          valid, valid, textNe⟩, rfl, fun isSwitched => absurd isSwitched switched, fun _ => rfl⟩
  | runCondition =>
      exact ⟨_, ⟨str "text", true, Binding.uniformFingerprint 48, [], textNe, digest⟩, rfl, rfl,
        scalarText⟩
  | acquireLock bindingRef owner bundleDigest =>
      obtain ⟨ownerNe, rfl⟩ := permitted
      exact ⟨_, ⟨str "text", owner, bundle.digest, deadline, ⟨textNe, ownerNe⟩,
        isSha256_of_sha256Digest bundle.digest_eq⟩, rfl, rfl, rfl, le_refl _⟩
  | compile target =>
      obtain ⟨plan, verified⟩ := exists_verified target
      exact ⟨_, plan, rfl, verified⟩
  | applyStep lock compiled =>
      exact ⟨_, ⟨compiled.stepId, Binding.uniformFingerprint 48, str "text",
        ⟨compiled.nonempty.1, textNe⟩, digest⟩, rfl, rfl⟩
  | activate lock target =>
      exact ⟨_, ⟨str "text", str "text", target.targetSchemaFingerprint, str "text",
        ⟨textNe, textNe, textNe⟩, target.valid.targetSchemaFingerprint⟩, rfl, rfl,
        ⟨scalarText, scalarText, scalarText⟩⟩
  | releaseLock => exact ⟨_, rfl⟩
  | record => exact ⟨_, rfl⟩

end Resumed

section Interrupted

variable {bundle : MigrationBundleV1 F} {lockDuration nextDuration : Int}
  {bindingRef owner executionId nextOwner : Str} {history ran : Trace F}
  {outcome : Except Exc MigrationReport × Locals} {deadline : Utc}

/-- The next call over what an interrupted execution has left. -/
theorem safe_executeInterrupted
    (differ : bundle.sourceSchemaFingerprint ≠ bundle.targetSchemaFingerprint)
    (returns : (execute lockDuration bindingRef bundle owner (some executionId) {}).Returns
      (Traced (RecorderAnswers [])) history outcome (history ++ ran))
    (interrupted : Interrupted ran)
    (unfinished : ∀ checkpoint ∈ logAfter [] (history ++ ran), checkpoint.state ≠ .completed)
    (ownerNe : nextOwner ≠ []) :
    (execute nextDuration bindingRef bundle nextOwner (some executionId)).Safe
      (Traced (Succeeding bundle deadline))
      (Permitted bundle (completedSteps (logAfter [] (history ++ ran))))
      (fun report _ _ => report.state = .completed ∧
        Resumable bindingRef executionId (history ++ ran))
      (fun _ _ _ => ¬ Resumable bindingRef executionId (history ++ ran)) {} (history ++ ran) := by
  obtain ⟨bindingRefNe, executionIdNe⟩ := named_of_interrupted returns interrupted
  exact safe_executeResumed ownerNe executionIdNe bindingRefNe differ
    (owned_of_interrupted returns interrupted) unfinished

/-- An execution that resumes had not switched the binding. -/
theorem Resumes.resumable
    (resumes : Resumes nextDuration bindingRef bundle nextOwner executionId deadline history)
    (safe : (execute nextDuration bindingRef bundle nextOwner (some executionId)).Safe
      (Traced (Succeeding bundle deadline)) (Permitted bundle (completedSteps (logAfter [] history)))
      (fun report _ _ => report.state = .completed ∧ Resumable bindingRef executionId history)
      (fun _ _ _ => ¬ Resumable bindingRef executionId history) {} history) :
    Resumable bindingRef executionId history := by
  obtain ⟨⟨result, locals⟩, final, answered⟩ := resumes.answered
  have reached := Prog.Safe.of_returns safe answered
  have completed := Prog.Safe.of_returns resumes.completes answered
  cases result with
  | ok report => exact reached.2
  | error error => exact completed.elim

end Interrupted

/-- In every history that ends with an execution in which a call has raised before COMPLETED was
recorded: another call with the same execution id and bundle, with hooks that succeed and a lock
that does not expire, completes without applying a recorded step again exactly if no `activate` has
returned and the names can be encoded. -/
theorem resumes_iff_resumable (bundle : MigrationBundleV1 F)
    (differ : bundle.sourceSchemaFingerprint ≠ bundle.targetSchemaFingerprint)
    (lockDuration : Int) (bindingRef owner executionId : Str) (history ran : Trace F)
    (outcome : Except Exc MigrationReport × Locals)
    (returns : (execute lockDuration bindingRef bundle owner (some executionId) {}).Returns
      (Traced (RecorderAnswers [])) history outcome (history ++ ran))
    (interrupted : Interrupted ran)
    (unfinished : ∀ checkpoint ∈ logAfter [] (history ++ ran), checkpoint.state ≠ .completed)
    (nextDuration : Int) (nextOwner : Str) (ownerNe : nextOwner ≠ []) (instant deadline : Utc)
    (early : instant < deadline) :
    Resumes nextDuration bindingRef bundle nextOwner executionId deadline (history ++ ran) ↔
      Resumable bindingRef executionId (history ++ ran) := by
  have safe : (execute nextDuration bindingRef bundle nextOwner (some executionId)).Safe
      (Traced (Succeeding bundle deadline))
      (Permitted bundle (completedSteps (logAfter [] (history ++ ran))))
      (fun report _ _ => report.state = .completed ∧
        Resumable bindingRef executionId (history ++ ran))
      (fun _ _ _ => ¬ Resumable bindingRef executionId (history ++ ran)) {} (history ++ ran) :=
    safe_executeInterrupted differ returns interrupted unfinished ownerNe
  constructor
  · exact fun resumes => resumes.resumable safe
  · intro resumable
    constructor
    · refine Prog.Safe.exists_returns safe fun trace hook permitted => ?_
      obtain ⟨response, answers⟩ := exists_answer early permitted
      exact ⟨response, _, answers, rfl⟩
    · have completes := safe.mono (fun _ _ _ reported => reported.1)
        fun _ _ _ stopped => stopped resumable
      refine Prog.Safe.allow completes fun trace hook permitted => ?_
      cases hook with
      | applyStep => exact permitted
      | _ => exact trivial

/-! ## Closed runs -/

/-- A condition on the orders after the migration. -/
def totalsCondition : MigrationCondition Empty where
  name := str "totals"
  operation := [
    (str "formatVersion", .str (str "meridian-operation.v1")),
    (str "catalog", .str (str "structured")),
    (str "operationContract", .str (str "structured.query.v1")),
    (str "operationVersion", .str (str "1.0.0")),
    (str "resources", .array [.object [
      (str "catalog", .str (str "structured")),
      (str "namespace", .str (str "shop")),
      (str "name", .str (str "orders"))]]),
    (str "input", .object [(str "condition", .str (str "totals"))]),
    (str "requirements", .array []),
    (str "readOnly", .bool true),
    (str "idempotent", .bool true)]
  expectation := [(str "kind", .str (str "truthy"))]
  name_ne := by decide

/-- The sample bundle with a postcondition. -/
def validatedBundle : MigrationBundleV1 Empty where
  toBundleFields := { Binding.sampleBundle.toBundleFields with postconditions := [totalsCondition] }
  digest := str "sha256:81f4bcaa6fac61ec8a2d80c1d415ff536ab3effb9d50961fbb1cd6771a42d0e8"
  valid :=
    { sourceSchemaFingerprint := Binding.sampleBundle.valid.sourceSchemaFingerprint
      targetSchemaFingerprint := Binding.sampleBundle.valid.targetSchemaFingerprint
      bundleId := Binding.sampleBundle.valid.bundleId
      steps := Binding.sampleBundle.valid.steps
      stepIds := Binding.sampleBundle.valid.stepIds
      conditionNames := by decide
      compilerRequirements := Binding.sampleBundle.valid.compilerRequirements }
  digest_eq := by decide +kernel

/-- The exception of a hook that is down. -/
def hookDown : Exc := ⟨.runtimeError, ⟨"the hook is down", []⟩, none, false⟩

/-- An adapter whose validations raise, over an `InMemoryMigrationRecorder`, with hooks that are
down. -/
def interruptedAnswer (down : Hook F → Bool) (trace : Trace F) : (hook : Hook F) → hook.Response
  | .checkpoints _ => .ok (logAfter [] trace)
  | .append checkpoint =>
      if nextSequence (logAfter [] trace) ≤ checkpoint.sequence then .ok ()
      else .error sequenceConflict
  | hook =>
      if down hook then .error hookDown
      else (Binding.serve () ⟨Binding.uniformFingerprint 48, none, .empty, [], false⟩ hook).1

theorem interruptedAnswer_admitted (down : Hook F → Bool) (trace : Trace F) (hook : Hook F) :
    RecorderAnswers [] trace hook (interruptedAnswer down trace hook) := by
  cases hook with
  | checkpoints executionId =>
      obtain ⟨recorder, holds⟩ := exists_recorder executionId (logAfter [] trace)
      exact ⟨recorder, holds, by rw [interruptedAnswer, holds]⟩
  | append checkpoint =>
      obtain ⟨recorder, holds⟩ := exists_recorder checkpoint.executionId (logAfter [] trace)
      have response : (recorder.append checkpoint).1 = _ := response_of_append ⟨recorder, holds, rfl⟩
      exact ⟨recorder, holds, response.symm⟩
  | _ => trivial

/-- The run of the first job against that adapter. -/
def interruptedRun (down : Hook Empty → Bool) :
    (Except Exc MigrationReport × Locals) × Trace Empty :=
  (execute 900000000 (str "orders") validatedBundle (str "job-1") (some (str "migration-1")) {}).run
    (recording (interruptedAnswer down)) []

/-- A call of the adapter, of a validation or of the sink has raised, and COMPLETED is not
recorded. -/
structure LeavesWork (trace : Trace F) : Prop where
  raised : ∃ event ∈ trace, event.1.isExternal = true ∧ ∃ raised, raisedBy event = some raised
  unfinished : ∀ checkpoint ∈ logAfter [] trace, checkpoint.state ≠ .completed

theorem LeavesWork.interrupted {trace : Trace F} (left : LeavesWork trace) : Interrupted trace := by
  obtain ⟨event, member, isExternal, raised⟩ := left.raised
  refine ⟨event, member, fun drawn => ?_, raised⟩
  rw [drawn] at isExternal
  cases isExternal

/-- The test for `LeavesWork`. -/
def leavesWork (trace : Trace F) : Bool :=
  trace.any (fun event => event.1.isExternal && (raisedBy event).isSome) &&
    (logAfter [] trace).all fun checkpoint => checkpoint.state != .completed

theorem leavesWork_of_test {trace : Trace F} (left : leavesWork trace = true) :
    LeavesWork trace := by
  obtain ⟨found, unfinished⟩ := (Bool.and_eq_true _ _).mp left
  obtain ⟨event, member, isFault⟩ := List.any_eq_true.mp found
  obtain ⟨isExternal, raised⟩ := (Bool.and_eq_true _ _).mp isFault
  refine ⟨⟨event, member, isExternal, Option.isSome_iff_exists.mp raised⟩, fun checkpoint member => ?_⟩
  exact bne_iff_ne.mp (List.all_eq_true.mp unfinished checkpoint member)

theorem interruptedRun_returns (down : Hook Empty → Bool) : ∃ outcome trace,
    interruptedRun down = (outcome, trace) ∧
      (execute 900000000 (str "orders") validatedBundle (str "job-1")
        (some (str "migration-1")) {}).Returns (Traced (RecorderAnswers [])) [] outcome trace :=
  ⟨(interruptedRun down).1, (interruptedRun down).2, Prod.mk.eta.symm,
    recording_returns (interruptedAnswer down) (interruptedAnswer_admitted down) _ []⟩

theorem validatedBundle_differ :
    validatedBundle.sourceSchemaFingerprint ≠ validatedBundle.targetSchemaFingerprint := by
  change Binding.uniformFingerprint 48 ≠ Binding.uniformFingerprint 49
  decide +kernel

/-- Whether the adapter is down for the steps. -/
def stepsDown : Hook F → Bool
  | .applyStep _ _ _ => true
  | _ => false

/-- A job whose step has failed is resumed by another one. -/
theorem resumes_iff_resumable_after_step :
    Resumes 900000000 (str "orders") validatedBundle (str "job-2") (str "migration-1")
      ⟨2000, by decide⟩ (interruptedRun stepsDown).2 := by
  have tested : leavesWork (interruptedRun stepsDown).2 = true := by decide +kernel
  have kept : (interruptedRun stepsDown).2.all (fun event => !switches event) = true := by
    decide +kernel
  obtain ⟨outcome, trace, same, returns⟩ := interruptedRun_returns stepsDown
  rw [same] at tested kept ⊢
  have left := leavesWork_of_test tested
  have names : Scalar (str "orders") ∧ Scalar (str "migration-1") :=
    ⟨scalar_str _, scalar_str _⟩
  refine (resumes_iff_resumable validatedBundle validatedBundle_differ 900000000 (str "orders")
    (str "job-1") (str "migration-1") [] trace outcome returns left.interrupted left.unfinished
    900000000 (str "job-2") (by decide) ⟨1000, by decide⟩ ⟨2000, by decide⟩ (by decide)).mpr
    ⟨?_, names.1, names.2⟩
  rintro ⟨event, member, isSwitch⟩
  have unswitched := List.all_eq_true.mp kept event member
  rw [isSwitch] at unswitched
  cases unswitched

/-- A job whose postcondition raises after the activation is not resumed: the binding is at the
target fingerprint, and the entry check asks for the source. -/
theorem switched_binding_is_not_resumed :
    ¬ ∀ (bundle : MigrationBundleV1 Empty),
      bundle.sourceSchemaFingerprint ≠ bundle.targetSchemaFingerprint →
      ∀ (lockDuration : Int) (bindingRef owner executionId : Str) (ran : Trace Empty)
        (outcome : Except Exc MigrationReport × Locals),
      (execute lockDuration bindingRef bundle owner (some executionId) {}).Returns
        (Traced (RecorderAnswers [])) [] outcome ran →
      LeavesWork ran → ∀ instant deadline : Utc, instant < deadline →
      Resumes lockDuration bindingRef bundle owner executionId deadline ran := by
  intro always
  have tested : leavesWork (interruptedRun fun _ => false).2 = true := by decide +kernel
  have switched : (interruptedRun fun _ => false).2.any switches = true := by decide +kernel
  obtain ⟨outcome, trace, same, returns⟩ := interruptedRun_returns fun _ => false
  rw [same] at tested switched
  have left := leavesWork_of_test tested
  have resumes := always validatedBundle validatedBundle_differ _ _ _ _ trace outcome returns left
    ⟨1000, by decide⟩ ⟨2000, by decide⟩ (by decide)
  have resumable : Resumable (str "orders") (str "migration-1") ([] ++ trace) :=
    Resumes.resumable resumes (safe_executeInterrupted validatedBundle_differ returns
      left.interrupted left.unfinished (by decide))
  obtain ⟨event, member, isSwitch⟩ := List.any_eq_true.mp switched
  exact resumable.unswitched ⟨event, member, isSwitch⟩

end DataLifecycle.Migration
