import DataLifecycle.Outbox.Batch
import DataLifecycle.Outbox.Lifecycle
import DataLifecycle.Raises
import DataLifecycle.Runner.Gate

/-!
# Batch isolation

A cycle settles every record of its batch and counts it, as long as the evidence of every
outcome is recorded.  The evidence of a completed record is written inside the `try`
statement whose handler releases the record: if it fails there, the release fails too and
the rest of the batch stays leased.
-/

namespace DataLifecycle.Runner

open Python Interaction Outbox

variable {F α β : Type} [FloatText F]

/-! ## Exceptions -/

/-- The code that a release stores for an exception. -/
def failureCode (error : Exc) : Str := error.code.getD (qualifiedName error.cls)

/-- The text has no lone surrogate. -/
def Encodes (text : Str) : Prop := ∀ point ∈ text, isSurrogate point = false

instance (text : Str) : Decidable (Encodes text) :=
  decidable_of_iff ((text.all fun point => !isSurrogate point) = true) (by simp [Encodes])

/-- The exception has a non-empty code and a message that can be converted. -/
def Convertible (describe : Exc → Except Exc Str) (error : Exc) : Prop :=
  error.isException = true ∧ failureCode error ≠ [] ∧
    ∃ text, describe error = .ok text ∧ (strip (redact 0 text) ≠ [] ∨ error.cls.name ≠ [])

theorem encodes_builtin (name : String) : Encodes (str "builtins." ++ str name) :=
  List.forall_mem_append.mpr ⟨scalar_str _, scalar_str _⟩

/-- An exception of this package or of the interpreter, as the code itself raises it. -/
structure Ordinary (error : Exc) : Prop where
  own : ∀ name qualified caught, error.cls ≠ .foreign name qualified caught
  code_ne : failureCode error ≠ []
  code_encodes : Encodes (failureCode error)

theorem Ordinary.isException {error : Exc} (ordinary : Ordinary error) :
    error.isException = true := by
  unfold Exc.isException
  split
  next name qualified caught cls => exact absurd cls (ordinary.own name qualified caught)
  next => rfl

theorem Ordinary.name_ne {error : Exc} (ordinary : Ordinary error) : error.cls.name ≠ [] := by
  cases cls : error.cls with
  | foreign name qualified caught => exact absurd cls (ordinary.own name qualified caught)
  | _ => decide

theorem ordinary_of_isBuiltin {error : Exc} (builtin : error.IsBuiltin) : Ordinary error := by
  obtain ⟨code, cls⟩ := builtin
  have codeEq : failureCode error = qualifiedName error.cls := by rw [failureCode, code]; rfl
  constructor
  · intro name qualified caught
    rcases cls with cls | cls | cls | cls <;> rw [cls] <;> nofun
  · rw [codeEq]
    rcases cls with cls | cls | cls | cls <;> rw [cls] <;> decide
  · rw [codeEq]
    rcases cls with cls | cls | cls | cls <;> rw [cls] <;> exact encodes_builtin _

theorem ordinary_projectionRejected (template : String) : Ordinary (.projectionRejected template) :=
  ⟨nofun, show str "MERIDIAN_PROJECTION_REJECTED" ≠ [] by decide, scalar_str _⟩

theorem ordinary_assertionError : Ordinary .assertionError :=
  ⟨nofun, show str "builtins.AssertionError" ≠ [] by decide, encodes_builtin _⟩

theorem ordinary_leaseLost (template : String) (arguments : List Str) :
    Ordinary (.leaseLost template arguments) :=
  ⟨nofun, show str "MERIDIAN_OUTBOX_LEASE_LOST" ≠ [] by decide, scalar_str _⟩

theorem ordinary_checkpointConflict (template : String) (arguments : List Str) :
    Ordinary (.checkpointConflict template arguments) :=
  ⟨nofun, show str "MERIDIAN_CHECKPOINT_CONFLICT" ≠ [] by decide, scalar_str _⟩

theorem ordinary_notFound (template : String) (arguments : List Str) :
    Ordinary (.meridian .notFoundError "MERIDIAN_OUTBOX_NOT_FOUND" template arguments) :=
  ⟨nofun, show str "MERIDIAN_OUTBOX_NOT_FOUND" ≠ [] by decide, scalar_str _⟩

/-- Every exception of the result is an ordinary one. -/
def RaisesOrdinary (result : Except Exc α) : Prop := ∀ error, result = .error error → Ordinary error

theorem raisesOrdinary_ok (value : α) : RaisesOrdinary (.ok value) := nofun

theorem raisesOrdinary_error {error : Exc} (ordinary : Ordinary error) :
    RaisesOrdinary (.error error : Except Exc α) := by
  rintro raised ⟨⟩
  exact ordinary

theorem RaisesBuiltin.ordinary {result : Except Exc α} (builtin : RaisesBuiltin result) :
    RaisesOrdinary result :=
  fun error raised => ordinary_of_isBuiltin (builtin error raised)

theorem RaisesOrdinary.bind {first : Except Exc α} {rest : α → Except Exc β}
    (begins : RaisesOrdinary first) (continues : ∀ value, RaisesOrdinary (rest value)) :
    RaisesOrdinary (first >>= rest) := by
  cases first with
  | error error =>
      rintro raised ⟨⟩
      exact begins error rfl
  | ok value => exact continues value

theorem raisesOrdinary_refuse {condition : Prop} [Decidable condition] {error : Exc}
    (ordinary : Ordinary error) : RaisesOrdinary (refuse condition error) := by
  unfold refuse
  split
  · exact raisesOrdinary_error ordinary
  · exact raisesOrdinary_ok ()

omit [FloatText F] in
theorem raisesOrdinary_validateRecord (spec : ProjectionSpec) (data : OutboxFields F) :
    RaisesOrdinary (validateRecord spec data) :=
  (raisesOrdinary_refuse (ordinary_projectionRejected _)).bind fun _ =>
    (raisesOrdinary_refuse (ordinary_projectionRejected _)).bind fun _ =>
      (raisesOrdinary_refuse (ordinary_projectionRejected _)).bind fun _ =>
        raisesOrdinary_refuse (ordinary_projectionRejected _)

omit [FloatText F] in
theorem raisesOrdinary_validateExpression (spec : ProjectionSpec) (expression : Expression F) :
    RaisesOrdinary (validateExpression spec expression) :=
  (raisesOrdinary_refuse (ordinary_projectionRejected _)).bind fun _ =>
    raisesOrdinary_refuse (ordinary_projectionRejected _)

theorem raisesOrdinary_defaultAcknowledgement (result : OperationResult F) (data : OutboxFields F) :
    RaisesOrdinary (defaultAcknowledgement result data) := by
  have acknowledged : RaisesOrdinary (acknowledgedFor data result.data) := by
    unfold acknowledgedFor
    split
    · exact raisesOrdinary_ok _
    · exact raisesOrdinary_ok _
    · exact raisesOrdinary_error (ordinary_projectionRejected _)
  have fingerprint : RaisesOrdinary (resultFingerprint result) := by
    unfold resultFingerprint
    split
    · exact raisesOrdinary_ok _
    · exact RaisesBuiltin.ordinary (raisesBuiltin_digestOf _)
  exact acknowledged.bind fun _ => fingerprint.bind fun _ => raisesOrdinary_ok _

theorem raisesOrdinary_leasedRecord (store : InMemoryOutboxStore F) (eventId owner : Str)
    (now : Utc) : RaisesOrdinary (store.leasedRecord eventId owner now) := by
  unfold InMemoryOutboxStore.leasedRecord
  split
  · exact raisesOrdinary_error (ordinary_notFound _ _)
  · split
    · split
      · exact raisesOrdinary_error (ordinary_leaseLost _ _)
      · split
        · exact raisesOrdinary_error (ordinary_leaseLost _ _)
        · exact raisesOrdinary_ok _
    · exact raisesOrdinary_error (ordinary_leaseLost _ _)

theorem raisesOrdinary_complete (store : InMemoryOutboxStore F) (eventId owner : Str)
    (version : Option Version) (fingerprint : Str) (now : DateTime) :
    RaisesOrdinary (store.complete eventId owner version fingerprint (some now) unread).1 := by
  unfold InMemoryOutboxStore.complete
  have checked : RaisesOrdinary (requireSha256 "target_fingerprint" fingerprint) :=
    RaisesBuiltin.ordinary (raisesBuiltin_requireSha256 _ _)
  have timed : RaisesOrdinary (currentTime (some now) unread) :=
    RaisesBuiltin.ordinary (raisesBuiltin_ensureUtc _ _)
  split
  next error failed => exact raisesOrdinary_error (checked error failed)
  next =>
    split
    next error failed => exact raisesOrdinary_error (timed error failed)
    next current _ =>
      split
      next error failed =>
        exact raisesOrdinary_error (raisesOrdinary_leasedRecord store eventId owner current error failed)
      next =>
        split
        · exact raisesOrdinary_error (ordinary_checkpointConflict _ _)
        · exact raisesOrdinary_ok _

/-! ## The callbacks of a cycle -/

/-- The outbox and the calls of the cycle. -/
structure CycleWorld (F : Type) [FloatText F] where
  store : InMemoryOutboxStore F
  log : List (RunnerCall F) := []

/-- The batch that a call claimed. -/
def claimOf : RunnerCall F → Option (List (OutboxRecord F))
  | ⟨.atomicClaim _ _ _ _, .ok records⟩ => some records
  | _ => none

/-- The end of the lease of a claimed batch. -/
def LeaseEnd (log : List (RunnerCall F)) (expiresAt : Utc) : Prop :=
  ∃ owner limit duration time records,
    (⟨.atomicClaim owner limit duration time, .ok records⟩ : RunnerCall F) ∈ log ∧
      time.add duration = some expiresAt

/-- Once a batch is claimed the clock stays inside its lease, and a callback may raise any
`Exception` with a non-empty code and a convertible message. -/
def Admissible (describe : Exc → Except Exc Str) (log : List (RunnerCall F)) :
    RunnerCall F → Prop
  | ⟨.clock, response⟩ => ∀ expiresAt, LeaseEnd log expiresAt →
      ∃ time instant, response = .ok time ∧ time.toUtc = .ok instant ∧ instant < expiresAt
  | ⟨.loadSource _ _, .error error⟩ => Convertible describe error
  | ⟨.project _ _, .error error⟩ => Convertible describe error
  | ⟨.execute _, .error error⟩ => Convertible describe error
  | ⟨.acknowledge _ _, .error error⟩ => Convertible describe error
  | ⟨.record _, .error error⟩ => Convertible describe error
  | _ => True

/-- The world answers a call of the cycle and logs it. -/
def Attempts (describe : Exc → Except Exc Str) (before : CycleWorld F) (hook : RunnerHook F)
    (response : hook.Response) (after : CycleWorld F) : Prop :=
  Answers describe before.store hook response after.store ∧
    Admissible describe before.log ⟨hook, response⟩ ∧
    after.log = before.log ++ [⟨hook, response⟩]

/-- The call leaves nothing that evidence cannot record: the sink did not raise, and the
code of a raised exception can be encoded. -/
def Accepted : RunnerCall F → Prop
  | ⟨.loadSource _ _, .error error⟩ => Encodes (failureCode error)
  | ⟨.project _ _, .error error⟩ => Encodes (failureCode error)
  | ⟨.execute _, .error error⟩ => Encodes (failureCode error)
  | ⟨.acknowledge _ _, .error error⟩ => Encodes (failureCode error)
  | ⟨.record _, .error _⟩ => False
  | _ => True

/-- The world after calls that do not claim. -/
def Extends (before after : CycleWorld F) (calls : List (RunnerCall F)) : Prop :=
  after.log = before.log ++ calls ∧ ∀ call ∈ calls, claimOf call = none

theorem Extends.refl (world : CycleWorld F) : Extends world world [] :=
  ⟨(List.append_nil _).symm, List.forall_mem_nil _⟩

theorem Extends.trans {first second third : CycleWorld F} {calls more : List (RunnerCall F)}
    (begins : Extends first second calls) (continues : Extends second third more) :
    Extends first third (calls ++ more) := by
  refine ⟨by rw [continues.1, begins.1, List.append_assoc], ?_⟩
  intro call callMem
  rcases List.mem_append.mp callMem with earlier | later
  · exact begins.2 call earlier
  · exact continues.2 call later

theorem Extends.leaseEnd {before after : CycleWorld F} {calls : List (RunnerCall F)}
    (extended : Extends before after calls) {expiresAt : Utc}
    (leaseEnd : LeaseEnd before.log expiresAt) : LeaseEnd after.log expiresAt := by
  obtain ⟨owner, limit, duration, time, records, claimed, added⟩ := leaseEnd
  exact ⟨owner, limit, duration, time, records, by rw [extended.1]; simp [claimed], added⟩

/-- The world after accepted calls that do not claim. -/
def Recording (before after : CycleWorld F) : Prop :=
  ∃ calls, Extends before after calls ∧ ∀ call ∈ calls, Accepted call

theorem Recording.refl (world : CycleWorld F) : Recording world world :=
  ⟨[], .refl world, List.forall_mem_nil _⟩

theorem recording_call {before after : CycleWorld F} {call : RunnerCall F}
    (logged : after.log = before.log ++ [call]) (notClaim : claimOf call = none)
    (accepted : Accepted call) : Recording before after :=
  ⟨[call], ⟨logged, List.forall_mem_singleton.mpr notClaim⟩, List.forall_mem_singleton.mpr accepted⟩

theorem Recording.trans {first second third : CycleWorld F} (begins : Recording first second)
    (continues : Recording second third) : Recording first third := by
  obtain ⟨calls, extended, accepted⟩ := begins
  obtain ⟨more, extendedMore, acceptedMore⟩ := continues
  refine ⟨calls ++ more, extended.trans extendedMore, ?_⟩
  intro call callMem
  rcases List.mem_append.mp callMem with earlier | later
  · exact accepted call earlier
  · exact acceptedMore call later

theorem Recording.leaseEnd {before after : CycleWorld F} (recording : Recording before after)
    {expiresAt : Utc} (leaseEnd : LeaseEnd before.log expiresAt) : LeaseEnd after.log expiresAt := by
  obtain ⟨calls, extended, -⟩ := recording
  exact extended.leaseEnd leaseEnd

/-- The store is as before, and every call so far is accepted. -/
def Quiet (before after : CycleWorld F) : Prop :=
  after.store = before.store ∧ Recording before after

theorem Quiet.refl (world : CycleWorld F) : Quiet world world := ⟨rfl, .refl world⟩

theorem Quiet.trans {first second third : CycleWorld F} (begins : Quiet first second)
    (continues : Quiet second third) : Quiet first third :=
  ⟨continues.1.trans begins.1, begins.2.trans continues.2⟩

/-- An exception was raised before the store changed.  If its code cannot be encoded, a
callback raised it. -/
def Failed (describe : Exc → Except Exc Str) (before : CycleWorld F) (error : Exc)
    (after : CycleWorld F) : Prop :=
  after.store = before.store ∧ Convertible describe error ∧
    ∃ calls, Extends before after calls ∧
      ((∀ call ∈ calls, Accepted call) ↔ Encodes (failureCode error))

theorem Quiet.failed {describe : Exc → Except Exc Str} {first second third : CycleWorld F}
    {error : Exc} (begins : Quiet first second) (fails : Failed describe second error third) :
    Failed describe first error third := by
  obtain ⟨sameStore, calls, extended, accepted⟩ := begins
  obtain ⟨stillSame, convertible, more, extendedMore, acceptedIff⟩ := fails
  refine ⟨stillSame.trans sameStore, convertible, calls ++ more, extended.trans extendedMore, ?_⟩
  rw [← acceptedIff]
  constructor
  · exact fun all call callMem => all call (List.mem_append_right _ callMem)
  · intro rest call callMem
    rcases List.mem_append.mp callMem with earlier | later
    · exact accepted call earlier
    · exact rest call later

/-- The interpreter can convert the messages of ordinary exceptions. -/
def ConvertsOrdinary (describe : Exc → Except Exc Str) : Prop :=
  ∀ error, Ordinary error → ∃ text, describe error = .ok text

theorem Ordinary.failed {describe : Exc → Except Exc Str} (converts : ConvertsOrdinary describe)
    {error : Exc} (ordinary : Ordinary error) (world : CycleWorld F) :
    Failed describe world error world := by
  obtain ⟨text, described⟩ := converts error ordinary
  refine ⟨rfl, ⟨ordinary.isException, ordinary.code_ne, text, described, .inr ordinary.name_ne⟩, [],
    .refl world, ?_⟩
  exact iff_of_true (List.forall_mem_nil _) ordinary.code_encodes

/-! ## Parts of a cycle -/

/-- The part ends with one of the postconditions, whatever the callbacks answer. -/
def Ends (describe : Exc → Except Exc Str) (part : Running F α)
    (normal : α → ProjectionRun → CycleWorld F → Prop)
    (exceptional : Exc → ProjectionRun → CycleWorld F → Prop) (counters : ProjectionRun)
    (world : CycleWorld F) : Prop :=
  part.Safe (Attempts describe) (fun _ _ => True) normal exceptional counters world

section Parts

variable {describe : Exc → Except Exc Str} {counters : ProjectionRun} {start world : CycleWorld F}
  {runner : ProjectionRunner} {expiresAt : Utc}

theorem ends_bind {part : Running F β} {rest : β → Running F α}
    {normal : α → ProjectionRun → CycleWorld F → Prop}
    {exceptional : Exc → ProjectionRun → CycleWorld F → Prop}
    (ends : Ends describe part (fun value => Ends describe (rest value) normal exceptional) exceptional
      counters world) : Ends describe (part >>= rest) normal exceptional counters world :=
  Script.safe_bind.mpr ends

theorem Ends.mono {part : Running F α} {normal weaker : α → ProjectionRun → CycleWorld F → Prop}
    {exceptional weakerExceptional : Exc → ProjectionRun → CycleWorld F → Prop}
    (ends : Ends describe part normal exceptional counters world)
    (onValue : ∀ value final after, normal value final after → weaker value final after)
    (onError : ∀ error final after, exceptional error final after →
      weakerExceptional error final after) :
    Ends describe part weaker weakerExceptional counters world :=
  Script.Safe.mono ends onValue onError

theorem ends_assign {change : ProjectionRun → ProjectionRun}
    {normal : Unit → ProjectionRun → CycleWorld F → Prop}
    {exceptional : Exc → ProjectionRun → CycleWorld F → Prop}
    (returns : normal () (change counters) world) :
    Ends describe (Script.assign change : Running F Unit) normal exceptional counters world :=
  returns

theorem ends_request {hook : RunnerHook F}
    {normal : hook.Answer → ProjectionRun → CycleWorld F → Prop}
    {exceptional : Exc → ProjectionRun → CycleWorld F → Prop}
    (returns : ∀ answer after, Attempts describe world hook (.ok answer) after →
      normal answer counters after)
    (raises : ∀ error after, Attempts describe world hook (.error error) after →
      exceptional error counters after) :
    Ends describe (request hook) normal exceptional counters world := by
  rw [Ends, request, Script.safe_invoke]
  refine ⟨trivial, ?_⟩
  intro response after attempted
  cases response with
  | error error => exact raises error after attempted
  | ok answer => exact returns answer after attempted

/-- Inside the lease the clock can be read. -/
theorem ends_clock {normal : DateTime → ProjectionRun → CycleWorld F → Prop}
    {exceptional : Exc → ProjectionRun → CycleWorld F → Prop}
    (leaseEnd : LeaseEnd world.log expiresAt)
    (returns : ∀ time instant after, Quiet world after → time.toUtc = .ok instant →
      instant < expiresAt → normal time counters after) :
    Ends describe (request .clock) normal exceptional counters world := by
  apply ends_request
  · rintro time after ⟨answers, admissible, logged⟩
    obtain ⟨_, instant, ⟨⟩, converted, inside⟩ := admissible expiresAt leaseEnd
    exact returns time instant after ⟨answers.store_eq rfl, recording_call logged rfl trivial⟩
      converted inside
  · rintro error after ⟨-, admissible, -⟩
    obtain ⟨_, _, raised, -⟩ := admissible expiresAt leaseEnd
    cases raised

/-- The part leaves the store alone: it is quiet, or fails. -/
def Prepares (describe : Exc → Except Exc Str) (start : CycleWorld F) (counters : ProjectionRun)
    (part : Running F α) (normal : α → CycleWorld F → Prop) (world : CycleWorld F) : Prop :=
  Ends describe part (fun value final after => final = counters ∧ Quiet start after ∧ normal value after)
    (fun error final after => final = counters ∧ Failed describe start error after) counters world

theorem prepares_bind {part : Running F β} {rest : β → Running F α}
    {normal : α → CycleWorld F → Prop}
    (prepares : Prepares describe start counters part
      (fun value => Prepares describe start counters (rest value) normal) world) :
    Prepares describe start counters (part >>= rest) normal world := by
  apply ends_bind
  refine Ends.mono prepares ?_ fun _ _ _ failed => failed
  rintro value _ after ⟨rfl, -, continued⟩
  exact continued

theorem prepares_pure {value : α} {normal : α → CycleWorld F → Prop} (quiet : Quiet start world)
    (returns : normal value world) :
    Prepares describe start counters (pure value : Running F α) normal world :=
  ⟨rfl, quiet, returns⟩

theorem prepares_raise (converts : ConvertsOrdinary describe) {error : Exc}
    {normal : α → CycleWorld F → Prop} (quiet : Quiet start world) (ordinary : Ordinary error) :
    Prepares describe start counters (Script.raise error : Running F α) normal world :=
  ⟨rfl, quiet.failed (ordinary.failed converts world)⟩

theorem prepares_lift (converts : ConvertsOrdinary describe) {result : Except Exc α}
    {normal : α → CycleWorld F → Prop} (quiet : Quiet start world) (raises : RaisesOrdinary result)
    (returns : ∀ value, result = .ok value → normal value world) :
    Prepares describe start counters (Script.lift result : Running F α) normal world := by
  cases result with
  | error error => exact prepares_raise converts quiet (raises error rfl)
  | ok value => exact prepares_pure quiet (returns value rfl)

/-- A callback of the cycle other than the evidence sink. -/
def IsCallback : RunnerHook F → Prop
  | .loadSource _ _ => True
  | .project _ _ => True
  | .execute _ => True
  | .acknowledge _ _ => True
  | _ => False

theorem prepares_callback {hook : RunnerHook F} (callback : IsCallback hook)
    {normal : hook.Answer → CycleWorld F → Prop} (quiet : Quiet start world)
    (returns : ∀ answer after, Quiet start after → normal answer after) :
    Prepares describe start counters (request hook) normal world := by
  apply ends_request
  · rintro answer after ⟨answers, -, logged⟩
    have answered : Quiet world after := by
      cases hook with
      | clock => exact callback.elim
      | atomicClaim => exact callback.elim
      | complete => exact callback.elim
      | release => exact callback.elim
      | record => exact callback.elim
      | _ =>
          exact ⟨answers.store_eq rfl, recording_call logged rfl trivial⟩
    exact ⟨rfl, quiet.trans answered, returns answer after (quiet.trans answered)⟩
  · rintro error after ⟨answers, admissible, logged⟩
    refine ⟨rfl, quiet.failed ?_⟩
    cases hook with
    | clock => exact callback.elim
    | atomicClaim => exact callback.elim
    | complete => exact callback.elim
    | release => exact callback.elim
    | record => exact callback.elim
    | _ =>
        exact ⟨answers.store_eq rfl, admissible, _, ⟨logged, List.forall_mem_singleton.mpr rfl⟩,
          List.forall_mem_singleton⟩

theorem prepares_source (converts : ConvertsOrdinary describe) (data : OutboxFields F)
    (quiet : Quiet start world) :
    Prepares describe start counters (runner.source data) (fun _ => Quiet start) world := by
  unfold ProjectionRunner.source
  split
  · exact prepares_pure quiet quiet
  · exact prepares_raise converts quiet ordinary_assertionError
  · split
    · exact prepares_callback (by exact trivial) quiet fun _ _ answered => answered
    · exact prepares_raise converts quiet (ordinary_projectionRejected _)

theorem prepares_deliver (converts : ConvertsOrdinary describe) (data : OutboxDataV1 F)
    (quiet : Quiet start world) :
    Prepares describe start counters (runner.deliver data) (fun _ => Quiet start) world := by
  apply prepares_bind
  apply prepares_lift converts quiet (raisesOrdinary_validateRecord _ _)
  intro _ _
  apply prepares_bind
  refine Ends.mono (prepares_source converts data.toOutboxFields quiet) ?_ fun _ _ _ failed => failed
  rintro source _ after ⟨rfl, loaded, -⟩
  refine ⟨rfl, loaded, ?_⟩
  apply prepares_bind
  refine prepares_callback (by exact trivial) loaded ?_
  intro expression projected quietProjected
  apply prepares_bind
  apply prepares_lift converts quietProjected (raisesOrdinary_validateExpression _ _)
  intro _ _
  exact prepares_callback (by exact trivial) quietProjected fun _ _ answered => answered

theorem prepares_acknowledgement (converts : ConvertsOrdinary describe)
    (result : OperationResult F) (data : OutboxDataV1 F) (quiet : Quiet start world) :
    Prepares describe start counters (runner.acknowledgement result data) (fun _ => Quiet start)
      world := by
  unfold ProjectionRunner.acknowledgement
  split
  · exact prepares_callback (by exact trivial) quiet fun _ _ answered => answered
  · exact prepares_lift converts quiet (raisesOrdinary_defaultAcknowledgement _ _) fun _ _ => quiet

/-! ### Evidence -/

omit [FloatText F] in
theorem encodable_evidence_iff {subject state : Str} {details : List (Str × Json F)}
    (stateEncodes : Encodes state) :
    Encodable (evidenceMaterial (str "projection") subject state details) ↔
      Encodes subject ∧ Encodable (.object details) :=
  encodable_evidenceMaterial_iff (scalar_str _) stateEncodes

/-- The identity of stored data can be encoded. -/
theorem encodable_identity (data : OutboxDataV1 F) :
    Encodes data.eventId ∧ Encodable (versionJson data.sourceVersion : Json F) := by
  have encodable := encodable_of_sha256Digest data.digest_eq
  rw [OutboxFields.digestMaterial, encodable_object_iff] at encodable
  constructor
  · have event := (encodable (str "eventId", .str data.eventId) (by simp)).2
    rwa [encodable_str_iff] at event
  · exact (encodable (str "sourceVersion", versionJson data.sourceVersion) (by simp)).2

theorem encodable_completedDetails (data : OutboxDataV1 F) {fingerprint : Str}
    (digest : isSha256 fingerprint = true) :
    Encodable (.object (completedDetails data.toOutboxFields fingerprint) : Json F) := by
  have texts : Encodes (str "eventId") ∧ Encodes (str "sourceVersion") ∧
      Encodes (str "targetFingerprint") := ⟨scalar_str _, scalar_str _, scalar_str _⟩
  obtain ⟨event, version⟩ := encodable_identity data
  simp only [completedDetails, encodable_object_iff, encodable_str_iff, List.forall_mem_cons,
    List.not_mem_nil, false_implies, implies_true, and_true]
  exact ⟨⟨texts.1, event⟩, ⟨texts.2.1, version⟩, texts.2.2, isSurrogate_of_isSha256 digest⟩

theorem encodable_releasedDetails_iff (data : OutboxDataV1 F) (released : OutboxRecord F) :
    Encodable (.object (releasedDetails data.toOutboxFields released) : Json F) ↔
      Encodes (releasedCode released) := by
  have texts : Encodes (str "eventId") ∧ Encodes (str "failureCode") :=
    ⟨scalar_str _, scalar_str _⟩
  obtain ⟨event, -⟩ := encodable_identity data
  simp only [releasedDetails, encodable_object_iff, encodable_str_iff, List.forall_mem_cons,
    List.not_mem_nil, false_implies, implies_true, and_true]
  constructor
  · rintro ⟨-, -, code⟩
    exact code
  · intro code
    exact ⟨⟨texts.1, event⟩, texts.2, code⟩

omit [FloatText F] in
theorem stateValue_text (state : OutboxState) : stateValue state ≠ [] ∧ Encodes (stateValue state) := by
  cases state <;> exact ⟨by decide, scalar_str _⟩

/-- Evidence is recorded exactly when the material can be encoded and the sink accepts it. -/
theorem ends_recordEvidence {state : Str} {details : List (Str × Json F)}
    (leaseEnd : LeaseEnd world.log expiresAt) (nonempty : state ≠ []) :
    Ends describe (runner.recordEvidence state details)
      (fun _ final after => final = counters ∧ Quiet world after ∧
        Encodable (evidenceMaterial (str "projection") runner.spec.name state details))
      (fun error final after => final = counters ∧ error.isException = true ∧
        after.store = world.store ∧ ∃ calls, Extends world after calls ∧
          ¬ (Encodable (evidenceMaterial (str "projection") runner.spec.name state details) ∧
            ∀ call ∈ calls, Accepted call))
      counters world := by
  apply ends_bind
  apply ends_clock leaseEnd
  intro time instant clocked quiet converted _
  have made : (∃ evidence, LifecycleEvidence.make (str "projection") runner.spec.name state details
      time = .ok evidence) ↔ _ := LifecycleEvidence.exists_make_iff
    ⟨show str "projection" ≠ [] by decide, runner.spec.name_ne, nonempty⟩ converted
  have builtin := LifecycleEvidence.raisesBuiltin_make (str "projection") runner.spec.name state
    details time
  apply ends_bind
  cases result : LifecycleEvidence.make (str "projection") runner.spec.name state details time with
  | error error =>
      obtain ⟨sameStore, calls, extended, -⟩ := quiet
      refine ⟨rfl, (ordinary_of_isBuiltin (builtin error result)).isException, sameStore, calls,
        extended, ?_⟩
      rintro ⟨encodable, -⟩
      obtain ⟨evidence, madeEvidence⟩ := made.mpr encodable
      rw [result] at madeEvidence
      cases madeEvidence
  | ok evidence =>
      apply ends_request
      · rintro _ after ⟨answers, -, logged⟩
        have recorded : Quiet clocked after :=
          ⟨answers.store_eq rfl, recording_call logged rfl trivial⟩
        exact ⟨rfl, quiet.trans recorded, made.mp ⟨evidence, result⟩⟩
      · rintro error after ⟨answers, admissible, logged⟩
        obtain ⟨sameStore, calls, extended, -⟩ := quiet
        refine ⟨rfl, admissible.1, (answers.store_eq rfl).trans sameStore, _,
          extended.trans ⟨logged, List.forall_mem_singleton.mpr rfl⟩, ?_⟩
        rintro ⟨-, all⟩
        exact all _ (List.mem_append_right _ (List.mem_singleton_self _))

/-! ### One record -/

/-- The state of an event. -/
def stateOf (store : InMemoryOutboxStore F) (eventId : Str) : Option OutboxState :=
  (store.records.get? eventId).map (·.state)

/-- The event is in the given state, and no other event has changed. -/
structure Settles (eventId : Str) (state : OutboxState) (before after : InMemoryOutboxStore F) :
    Prop where
  state_eq : stateOf after eventId = some state
  others : ∀ key, key ≠ eventId → after.records.get? key = before.records.get? key

/-- A state in which a cycle may leave a record. -/
def IsSettled (state : OutboxState) : Prop :=
  state = .completed ∨ state = .retryable ∨ state = .quarantined

/-- Some evidence was not recorded: the name of the projection cannot be encoded, or a call
is not accepted. -/
def Spoiled (spec : ProjectionSpec) (before after : CycleWorld F) : Prop :=
  ∃ calls, Extends before after calls ∧ ¬ (Encodes spec.name ∧ ∀ call ∈ calls, Accepted call)

theorem Spoiled.extend {spec : ProjectionSpec} {first second third : CycleWorld F}
    {calls : List (RunnerCall F)} (spoiled : Spoiled spec first second)
    (extended : Extends second third calls) : Spoiled spec first third := by
  obtain ⟨earlier, extendedEarlier, unrecorded⟩ := spoiled
  refine ⟨earlier ++ calls, extendedEarlier.trans extended, ?_⟩
  rintro ⟨named, accepted⟩
  exact unrecorded ⟨named, fun call callMem => accepted call (List.mem_append_left _ callMem)⟩

/-- Count a record in its state. -/
def ProjectionRun.count (counters : ProjectionRun) : OutboxState → ProjectionRun
  | .completed => { counters with completed := counters.completed + 1 }
  | .quarantined => { counters with quarantined := counters.quarantined + 1 }
  | _ => { counters with retryable := counters.retryable + 1 }

/-- The record is settled and counted, and its evidence was recorded. -/
def Processed (spec : ProjectionSpec) (eventId : Str) (start : CycleWorld F)
    (counters final : ProjectionRun) (after : CycleWorld F) : Prop :=
  ∃ state, IsSettled state ∧ final = counters.count state ∧
    Settles eventId state start.store after.store ∧ Encodes spec.name ∧ Recording start after

/-- The record is completed, but its evidence was not recorded. -/
def Stranded (spec : ProjectionSpec) (eventId : Str) (start : CycleWorld F) (error : Exc)
    (after : CycleWorld F) : Prop :=
  error.isException = true ∧ stateOf after.store eventId = some .completed ∧
    Spoiled spec start after

theorem Answers.complete_eq {store after : InMemoryOutboxStore F} {eventId owner : Str}
    {version : Option Version} {fingerprint : Str} {now : DateTime}
    {response : Except Exc Checkpoint}
    (answers : Answers describe store (.complete eventId owner version fingerprint now) response
      after) : store.complete eventId owner version fingerprint (some now) unread =
        (response, after) := by
  cases answers
  rfl

theorem isSha256_of_complete {store : InMemoryOutboxStore F} {eventId owner : Str}
    {version : Option Version} {fingerprint : Str} {now : DateTime} {checkpoint : Checkpoint}
    (completed : (store.complete eventId owner version fingerprint (some now) unread).1 =
      .ok checkpoint) : isSha256 fingerprint = true := by
  by_contra invalid
  rw [InMemoryOutboxStore.complete, requireSha256, if_neg invalid] at completed
  cases completed

/-- A successful completion. -/
theorem settles_complete {store after : InMemoryOutboxStore F} {eventId owner : Str}
    {version : Option Version} {fingerprint : Str} {now : DateTime} {checkpoint : Checkpoint}
    (answers : Answers describe store (.complete eventId owner version fingerprint now)
      (.ok checkpoint) after) :
    Settles eventId .completed store after ∧ isSha256 fingerprint = true := by
  have completed := answers.complete_eq
  refine ⟨?_, isSha256_of_complete (congrArg Prod.fst completed)⟩
  rcases store.complete_cases eventId owner version fingerprint (some now) unread with
    ⟨error, failed⟩ | ⟨current, record, lease, -, -, -, -, done⟩
  · rw [failed] at completed
    cases completed
  · rw [done] at completed
    cases completed
    constructor
    · simp [stateOf, InMemoryOutboxStore.setRecord, MutableRecord.completed]
    · intro key other
      simp [InMemoryOutboxStore.setRecord, Dict.get?_set_of_ne _ _ other.symm]

/-- A completion that fails changes nothing. -/
theorem ordinary_complete {store after : InMemoryOutboxStore F} {eventId owner : Str}
    {version : Option Version} {fingerprint : Str} {now : DateTime} {error : Exc}
    (answers : Answers describe store (.complete eventId owner version fingerprint now)
      (.error error) after) : after = store ∧ Ordinary error := by
  have failed := answers.complete_eq
  refine ⟨?_, raisesOrdinary_complete store eventId owner version fingerprint now error
    (congrArg Prod.fst failed)⟩
  rcases store.complete_cases eventId owner version fingerprint (some now) unread with
    ⟨raised, unchanged⟩ | ⟨current, record, lease, -, -, -, -, done⟩
  · rw [unchanged] at failed
    cases failed
    rfl
  · rw [done] at failed
    cases failed

/-- The body of the `try` statement completes the record and records evidence, or fails
before it has changed anything, or leaves a completed record without evidence. -/
theorem ends_projectRecord (converts : ConvertsOrdinary describe)
    (leaseEnd : LeaseEnd start.log expiresAt) (data : OutboxDataV1 F) :
    Ends describe (runner.projectRecord data)
      (fun _ final after => Processed runner.spec data.eventId start counters final after)
      (fun error final after => (final = counters ∧ Failed describe start error after) ∨
        Stranded runner.spec data.eventId start error after) counters start := by
  apply ends_bind
  refine Ends.mono (prepares_deliver converts data (Quiet.refl start)) ?_ fun _ _ _ => Or.inl
  rintro result _ delivered ⟨rfl, quiet, -⟩
  apply ends_bind
  refine Ends.mono (prepares_acknowledgement converts result data quiet) ?_ fun _ _ _ => Or.inl
  rintro acknowledged _ known ⟨rfl, quiet, -⟩
  apply ends_bind
  refine ends_clock (quiet.2.leaseEnd leaseEnd) ?_
  intro now instant clocked clockedQuiet _ _
  replace quiet := quiet.trans clockedQuiet
  apply ends_bind
  apply ends_request
  · rintro checkpoint after ⟨answers, -, logged⟩
    obtain ⟨settled, digest⟩ := settles_complete answers
    have recording : Recording start after := quiet.2.trans (recording_call logged rfl trivial)
    have details := encodable_completedDetails data digest
    have encodableIff : Encodable (evidenceMaterial (str "projection") runner.spec.name
        (str "COMPLETED") (completedDetails data.toOutboxFields acknowledged.2)) ↔ _ :=
      encodable_evidence_iff (scalar_str _)
    apply ends_bind
    apply ends_assign
    refine Ends.mono (ends_recordEvidence (recording.leaseEnd leaseEnd)
      (show str "COMPLETED" ≠ [] by decide)) ?_ ?_
    · rintro _ _ recorded ⟨rfl, ⟨sameStore, recordingMore⟩, encodable⟩
      refine ⟨.completed, .inl rfl, rfl, ⟨?_, ?_⟩, (encodableIff.mp encodable).1,
        recording.trans recordingMore⟩
      · rw [sameStore]
        exact settled.state_eq
      · intro key other
        rw [sameStore, settled.others key other, quiet.1]
    · rintro error _ recorded ⟨rfl, caught, sameStore, more, extendedMore, unrecorded⟩
      obtain ⟨calls, extended, -⟩ := recording
      refine .inr ⟨caught, ?_, _, extended.trans extendedMore, ?_⟩
      · rw [sameStore]
        exact settled.state_eq
      · rintro ⟨named, all⟩
        exact unrecorded ⟨encodableIff.mpr ⟨named, details⟩,
          fun call callMem => all call (List.mem_append_right _ callMem)⟩
  · rintro error after ⟨answers, -, logged⟩
    obtain ⟨sameStore, ordinary⟩ := ordinary_complete answers
    have refused : Quiet clocked after := ⟨sameStore, recording_call logged rfl trivial⟩
    exact .inl ⟨rfl, (quiet.trans refused).failed (ordinary.failed converts after)⟩

/-! ### The handler -/

/-- The failure of a convertible exception can be stored. -/
theorem redactedFailure_of_convertible {error : Exc} {text : Str} (current : Utc)
    (code : failureCode error ≠ []) (cause : strip (redact 0 text) ≠ [] ∨ error.cls.name ≠ []) :
    ∃ failure, redactedFailure (errorView error text) current = .ok failure ∧
      failure.code = failureCode error := by
  unfold redactedFailure OutboxFailure.make
  have nonempty : ((if strip (redact 0 text) = [] then error.cls.name
      else strip (redact 0 text)).take 512) ≠ [] := by
    rw [ne_eq, List.take_eq_nil_iff]
    rintro (impossible | empty)
    · cases impossible
    · split at empty
      next blank => exact cause.elim (fun some => some blank) fun named => named empty
      next some => exact some empty
  exact ⟨_, dif_pos ⟨code, nonempty⟩, rfl⟩

/-- Inside the lease a release of the held record succeeds. -/
theorem settles_release {store after : InMemoryOutboxStore F} {view : OutboxRecord F} {error : Exc}
    {retryable : Bool} {now : DateTime} {instant : Utc} {response : Except Exc (OutboxRecord F)}
    (held : InMemoryOutboxStore.Held runner.workerId expiresAt store.records view)
    (converted : now.toUtc = .ok instant) (inside : instant < expiresAt)
    (convertible : Convertible describe error)
    (answers : Answers describe store
      (.release view.data.eventId runner.workerId error retryable now) response after) :
    ∃ released, response = .ok released ∧
      (released.state = .retryable ∨ released.state = .quarantined) ∧
      Settles view.data.eventId released.state store after ∧
      releasedCode released = failureCode error := by
  obtain ⟨-, code, text, described, cause⟩ := convertible
  obtain ⟨record, lease, stored, -, leased, leaseEq, ownerEq, rfl⟩ := held
  have time : currentTime (some now) unread = .ok instant := ensureUtc_eq_ok_iff.mpr converted
  have found : store.leasedRecord view.data.eventId runner.workerId instant = .ok record :=
    InMemoryOutboxStore.leasedRecord_eq_ok_iff.mpr
      ⟨stored, lease, leased, leaseEq, ownerEq, inside⟩
  obtain ⟨failure, redacted, failureCodeEq⟩ := redactedFailure_of_convertible instant code cause
  obtain ⟨released, taken⟩ := MutableRecord.snapshot_of_iff
    (store.releasedRecord record failure retryable) (by
      simp only [InMemoryOutboxStore.releasedRecord]
      split <;> simp)
  obtain ⟨-, stateEq, -, -, failureEq, -⟩ := MutableRecord.snapshot_eq_ok_iff.mp taken
  cases answers with
  | release _ _ _ _ _ otherText otherDescribed =>
      rw [described] at otherDescribed
      cases otherDescribed
      simp only [InMemoryOutboxStore.release, time, found, redacted]
      refine ⟨released, taken, ?_, ⟨?_, ?_⟩, ?_⟩
      · rw [stateEq]
        unfold InMemoryOutboxStore.releasedRecord
        dsimp only
        split
        · exact .inr rfl
        · exact .inl rfl
      · rw [stateOf, InMemoryOutboxStore.setRecord, Dict.get?_set_self, stateEq]
        rfl
      · intro key other
        rw [InMemoryOutboxStore.setRecord, Dict.get?_set_of_ne _ _ other.symm]
      · rw [releasedCode, failureEq]
        exact failureCodeEq
  | releaseFails _ _ _ _ _ _ otherDescribed =>
      rw [described] at otherDescribed
      cases otherDescribed

/-- A release of a completed record raises. -/
theorem release_of_completed {store after : InMemoryOutboxStore F} {eventId owner : Str}
    {error : Exc} {retryable : Bool} {now : DateTime} {response : Except Exc (OutboxRecord F)}
    (completed : stateOf store eventId = some .completed)
    (answers : Answers describe store (.release eventId owner error retryable now) response after) :
    ∃ raised, response = .error raised := by
  cases answers with
  | release _ _ _ _ _ text described =>
      rcases store.release_cases eventId owner (errorView error text) retryable (some now) unread with
        ⟨raised, failed⟩ | ⟨current, record, lease, failure, view, -, stored, held, -⟩
      · exact ⟨raised, congrArg Prod.fst failed⟩
      · rw [stateOf, stored, Option.map_some, held.leased] at completed
        cases completed
  | releaseFails => exact ⟨_, rfl⟩

/-- Counting a released record counts its state. -/
theorem release_eq_count (released : OutboxRecord F)
    (state : released.state = .retryable ∨ released.state = .quarantined) :
    ProjectionRun.release released counters = counters.count released.state := by
  rcases state with state | state
  · rw [ProjectionRun.release, state, if_neg (by decide)]
    rfl
  · rw [ProjectionRun.release, state, if_pos rfl]
    rfl

/-- The handler settles a record that failed before anything changed. -/
theorem ends_releaseRecord {view : OutboxRecord F} {error : Exc}
    (leaseEnd : LeaseEnd start.log expiresAt)
    (held : InMemoryOutboxStore.Held runner.workerId expiresAt start.store.records view)
    (failed : Failed describe start error world) :
    Ends describe (runner.releaseRecord view.data error)
      (fun _ final after => Processed runner.spec view.data.eventId start counters final after)
      (fun _ _ after => Spoiled runner.spec start after) counters world := by
  obtain ⟨sameStore, convertible, calls, extended, acceptedIff⟩ := failed
  unfold ProjectionRunner.releaseRecord
  rw [if_pos convertible.1]
  apply ends_bind
  refine ends_clock (extended.leaseEnd leaseEnd) ?_
  intro now instant clocked quiet converted inside
  rw [← sameStore, ← quiet.1] at held
  apply ends_bind
  apply ends_request
  · rintro released after ⟨answers, -, logged⟩
    obtain ⟨_, ⟨⟩, state, settled, code⟩ := settles_release held converted inside convertible answers
    have recording : Recording world after := quiet.2.trans (recording_call logged rfl trivial)
    obtain ⟨nonempty, stateEncodes⟩ := stateValue_text released.state
    have encodableIff : Encodable (evidenceMaterial (str "projection") runner.spec.name
        (stateValue released.state) (releasedDetails view.data.toOutboxFields released)) ↔
        Encodes runner.spec.name ∧ Encodes (failureCode error) := by
      rw [encodable_evidence_iff stateEncodes, encodable_releasedDetails_iff, code]
    apply ends_bind
    apply ends_assign
    refine Ends.mono (ends_recordEvidence (recording.leaseEnd (extended.leaseEnd leaseEnd))
      nonempty) ?_ ?_
    · rintro _ _ recorded ⟨rfl, ⟨stillSame, recordingMore⟩, encodable⟩
      obtain ⟨named, codeEncodes⟩ := encodableIff.mp encodable
      refine ⟨released.state, .inr state, release_eq_count released state, ⟨?_, ?_⟩, named, ?_⟩
      · rw [stillSame]
        exact settled.state_eq
      · intro key other
        rw [stillSame, settled.others key other, quiet.1, sameStore]
      · exact Recording.trans ⟨calls, extended, acceptedIff.mpr codeEncodes⟩
          (recording.trans recordingMore)
    · rintro raised _ recorded ⟨rfl, -, -, more, extendedMore, unrecorded⟩
      obtain ⟨middle, extendedMiddle, -⟩ := recording
      refine ⟨_, (extended.trans extendedMiddle).trans extendedMore, ?_⟩
      rintro ⟨named, all⟩
      have codeEncodes := acceptedIff.mp fun call callMem =>
        all call (List.mem_append_left _ (List.mem_append_left _ callMem))
      exact unrecorded ⟨encodableIff.mpr ⟨named, codeEncodes⟩,
        fun call callMem => all call (List.mem_append_right _ callMem)⟩
  · rintro raised after ⟨answers, -, -⟩
    obtain ⟨_, impossible, -⟩ := settles_release held converted inside convertible answers
    cases impossible

/-- The handler fails for a record that is completed already. -/
theorem ends_releaseRecord_stranded {data : OutboxDataV1 F} {error : Exc}
    {normal : Unit → ProjectionRun → CycleWorld F → Prop}
    (leaseEnd : LeaseEnd start.log expiresAt)
    (stranded : Stranded runner.spec data.eventId start error world) :
    Ends describe (runner.releaseRecord data error) normal
      (fun _ _ after => Spoiled runner.spec start after) counters world := by
  obtain ⟨caught, completed, spoiled⟩ := stranded
  unfold ProjectionRunner.releaseRecord
  rw [if_pos caught]
  have leaseEndNow : LeaseEnd world.log expiresAt := by
    obtain ⟨calls, extended, -⟩ := spoiled
    exact extended.leaseEnd leaseEnd
  apply ends_bind
  refine ends_clock leaseEndNow ?_
  rintro now instant clocked ⟨sameStore, calls, extended, -⟩ - -
  rw [← sameStore] at completed
  apply ends_bind
  apply ends_request
  · rintro released after ⟨answers, -, -⟩
    obtain ⟨raised, impossible⟩ := release_of_completed completed answers
    cases impossible
  · rintro raised after ⟨-, -, logged⟩
    exact (spoiled.extend extended).extend ⟨logged, List.forall_mem_singleton.mpr rfl⟩

/-- One record of the batch is settled, or its evidence was not recorded. -/
theorem ends_processRecord (converts : ConvertsOrdinary describe) {view : OutboxRecord F}
    (leaseEnd : LeaseEnd start.log expiresAt)
    (held : InMemoryOutboxStore.Held runner.workerId expiresAt start.store.records view) :
    Ends describe (Script.tryExcept (runner.projectRecord view.data) (runner.releaseRecord view.data))
      (fun _ final after => Processed runner.spec view.data.eventId start counters final after)
      (fun _ _ after => Spoiled runner.spec start after) counters start := by
  rw [Ends, Script.safe_tryExcept]
  refine Ends.mono (ends_projectRecord converts leaseEnd view.data) (fun _ _ _ done => done) ?_
  rintro error final after (⟨rfl, failed⟩ | stranded)
  · exact ends_releaseRecord leaseEnd held failed
  · exact ends_releaseRecord_stranded leaseEnd stranded

/-! ### The batch -/

/-- The records are settled and counted in order, and their evidence was recorded. -/
structure Finished (spec : ProjectionSpec) (records : List (OutboxRecord F)) (start : CycleWorld F)
    (counters final : ProjectionRun) (states : List OutboxState) (after : CycleWorld F) : Prop where
  states_eq : records.map (fun record => stateOf after.store record.data.eventId) = states.map some
  settled : ∀ state ∈ states, IsSettled state
  counted : final = states.foldl ProjectionRun.count counters
  named : records ≠ [] → Encodes spec.name
  recording : Recording start after
  others : ∀ key, (∀ record ∈ records, record.data.eventId ≠ key) →
    after.store.records.get? key = start.store.records.get? key

theorem Recording.spoiled {spec : ProjectionSpec} {first second third : CycleWorld F}
    (recording : Recording first second) (spoiled : Spoiled spec second third) :
    Spoiled spec first third := by
  obtain ⟨calls, extended, -⟩ := recording
  obtain ⟨more, extendedMore, unrecorded⟩ := spoiled
  refine ⟨_, extended.trans extendedMore, ?_⟩
  rintro ⟨named, all⟩
  exact unrecorded ⟨named, fun call callMem => all call (List.mem_append_right _ callMem)⟩

/-- The loop settles every record of the batch, or some evidence was not recorded. -/
theorem ends_processRecords (converts : ConvertsOrdinary describe)
    (records : List (OutboxRecord F)) (distinct : (records.map (·.data.eventId)).Nodup)
    (leaseEnd : LeaseEnd start.log expiresAt)
    (held : ∀ record ∈ records,
      InMemoryOutboxStore.Held runner.workerId expiresAt start.store.records record) :
    Ends describe (runner.processRecords records)
      (fun _ final after => ∃ states, Finished runner.spec records start counters final states after)
      (fun _ _ after => records ≠ [] ∧ Spoiled runner.spec start after) counters start := by
  induction records generalizing start counters with
  | nil =>
      refine ⟨[], rfl, List.forall_mem_nil _, rfl, fun nonempty => absurd rfl nonempty,
        .refl start, fun _ _ => rfl⟩
  | cons record rest ih =>
      rw [List.map_cons, List.nodup_cons] at distinct
      rw [List.forall_mem_cons] at held
      have different : ∀ other ∈ rest, other.data.eventId ≠ record.data.eventId := by
        intro other otherMem same
        exact distinct.1 (same ▸ List.mem_map_of_mem otherMem)
      apply ends_bind
      refine Ends.mono (ends_processRecord converts leaseEnd held.1) ?_ ?_
      · rintro _ middle processed ⟨state, isSettled, rfl, settled, named, recording⟩
        have stillHeld : ∀ other ∈ rest,
            InMemoryOutboxStore.Held runner.workerId expiresAt processed.store.records other := by
          intro other otherMem
          obtain ⟨stored, lease, storedEq, facts⟩ := held.2 other otherMem
          exact ⟨stored, lease, by rw [settled.others _ (different other otherMem), storedEq], facts⟩
        refine Ends.mono (ih distinct.2 (recording.leaseEnd leaseEnd) stillHeld) ?_ ?_
        · rintro _ final after ⟨states, finished⟩
          refine ⟨state :: states, ?_, ?_, ?_, fun _ => named, recording.trans finished.recording, ?_⟩
          · have kept : stateOf after.store record.data.eventId = some state := by
              rw [stateOf, finished.others _ different]
              exact settled.state_eq
            rw [List.map_cons, kept, finished.states_eq]
            rfl
          · exact List.forall_mem_cons.mpr ⟨isSettled, finished.settled⟩
          · exact finished.counted
          · intro key absent
            rw [List.forall_mem_cons] at absent
            rw [finished.others key absent.2, settled.others key absent.1.symm]
        · rintro error final after ⟨-, spoiled⟩
          exact ⟨List.cons_ne_nil _ _, recording.spoiled spoiled⟩
      · exact fun error final after spoiled => ⟨List.cons_ne_nil _ _, spoiled⟩

end Parts

/-! ## Whole cycles -/

/-- The batches that the calls claimed. -/
def batches (log : List (RunnerCall F)) : List (List (OutboxRecord F)) := log.filterMap claimOf

/-- The evidence of a cycle can be recorded: if the batch has a record, the name of the
projection can be encoded; the sink never raised; and every exception that a callback
raised has a code that can be encoded. -/
structure EvidenceRecorded (spec : ProjectionSpec) (records : List (OutboxRecord F))
    (log : List (RunnerCall F)) : Prop where
  named : records ≠ [] → Encodes spec.name
  accepted : ∀ call ∈ log, Accepted call

/-- Every event whose completion succeeded is completed. -/
def CompletionsKept (world : CycleWorld F) : Prop :=
  ∀ eventId owner version fingerprint now checkpoint,
    (⟨.complete eventId owner version fingerprint now, .ok checkpoint⟩ : RunnerCall F) ∈ world.log →
    stateOf world.store eventId = some .completed

/-- Every record of the batch is settled and counted, and a record whose completion succeeded
is completed. -/
structure Isolated (records : List (OutboxRecord F)) (outcome : Except Exc ProjectionRun)
    (world : CycleWorld F) : Prop where
  returned : ∃ run, ∃ states : List OutboxState, outcome = .ok run ∧
    records.map (fun record => stateOf world.store record.data.eventId) = states.map some ∧
    (∀ state ∈ states, IsSettled state) ∧ run.claimed = records.length ∧
    run.completed = states.count .completed ∧ run.retryable = states.count .retryable ∧
    run.quarantined = states.count .quarantined ∧
    run.claimed = run.completed + run.retryable + run.quarantined
  kept : CompletionsKept world

/-- The counters after the records in the given states. -/
theorem foldl_count (states : List OutboxState) (settled : ∀ state ∈ states, IsSettled state)
    (counters : ProjectionRun) :
    (states.foldl ProjectionRun.count counters).completed =
        counters.completed + states.count .completed ∧
      (states.foldl ProjectionRun.count counters).retryable =
        counters.retryable + states.count .retryable ∧
      (states.foldl ProjectionRun.count counters).quarantined =
        counters.quarantined + states.count .quarantined ∧
      states.length =
        states.count .completed + states.count .retryable + states.count .quarantined := by
  induction states generalizing counters with
  | nil => exact ⟨rfl, rfl, rfl, rfl⟩
  | cons state rest ih =>
      rw [List.forall_mem_cons] at settled
      obtain ⟨completed, retryable, quarantined, total⟩ := ih settled.2 (counters.count state)
      rw [List.foldl_cons, completed, retryable, quarantined, List.length_cons, total]
      rcases settled.1 with rfl | rfl | rfl <;>
        simp [ProjectionRun.count] <;> omega

theorem batches_append {log more : List (RunnerCall F)} (quiet : ∀ call ∈ more, claimOf call = none) :
    batches (log ++ more) = batches log := by
  rw [batches, List.filterMap_append, List.filterMap_eq_nil_iff.mpr quiet, List.append_nil]
  rfl

/-- A completed record stays completed. -/
theorem completionsKept_of_returns {describe : Exc → Except Exc Str}
    {program : Prog (RunnerHook F) RunnerHook.Response α} {store : InMemoryOutboxStore F}
    (sound : store.Sound) {value : α} {world : CycleWorld F}
    (returns : program.Returns (Attempts describe) ⟨store, []⟩ value world) :
    CompletionsKept world := by
  have kept : world.store.Sound ∧ CompletionsKept world := by
    refine returns.invariant (fun world => world.store.Sound ∧ CompletionsKept world) ?_
      ⟨sound, fun _ _ _ _ _ _ entryMem => nomatch entryMem⟩
    rintro before hook response after ⟨beforeSound, earlier⟩ ⟨answers, -, logged⟩
    obtain ⟨calls, moved⟩ := answers.run
    refine ⟨moved ▸ beforeSound.run calls, ?_⟩
    intro eventId owner version fingerprint now checkpoint entryMem
    rw [logged] at entryMem
    rcases List.mem_append.mp entryMem with old | new
    · obtain ⟨record, stored, completed⟩ :=
        Option.map_eq_some_iff.mp (earlier eventId owner version fingerprint now checkpoint old)
      obtain ⟨later, laterStored, -, same⟩ :=
        InMemoryOutboxStore.run_keeps beforeSound calls stored
      rw [stateOf, moved, laterStored, same completed, Option.map_some, completed]
    · cases List.mem_singleton.mp new
      exact (settles_complete answers).1.state_eq
  exact kept.2

theorem Answers.atomicClaim_eq {describe : Exc → Except Exc Str}
    {store after : InMemoryOutboxStore F} {owner : Str} {limit duration : Int} {now : Utc}
    {response : Except Exc (List (OutboxRecord F))}
    (answers : Answers describe store (.atomicClaim owner limit duration now) response after) :
    store.atomicClaim owner limit duration (some (.ofUtc now)) unread = (response, after) := by
  cases answers
  rfl

/-- The cycle from its claim on: what it does with the claimed batch. -/
theorem ends_claimed {describe : Exc → Except Exc Str} (converts : ConvertsOrdinary describe)
    {runner : ProjectionRunner} {claimTime : Utc} {records : List (OutboxRecord F)}
    {before world : CycleWorld F} (sound : before.store.Sound)
    (attempted : Attempts describe before
      (.atomicClaim runner.workerId runner.batchSize runner.lease claimTime) (.ok records) world) :
    Ends describe (runner.processRecords records)
      (fun _ final after => ∃ states, Finished runner.spec records world {} final states after)
      (fun _ _ after => records ≠ [] ∧ Spoiled runner.spec world after) {} world := by
  obtain ⟨answers, -, logged⟩ := attempted
  have claim := answers.atomicClaim_eq
  have claimed := InMemoryOutboxStore.atomicClaim_claimed sound
    (currentTime_ofUtc claimTime unread) (congrArg Prod.fst claim)
  rw [claim] at claimed
  cases added : claimTime.add runner.lease with
  | none =>
      cases records with
      | nil =>
          exact ⟨[], rfl, List.forall_mem_nil _, rfl, fun nonempty => absurd rfl nonempty,
            .refl world, fun _ _ => rfl⟩
      | cons record rest =>
          obtain ⟨expiresAt, addedSome, -⟩ := claimed.held record (List.mem_cons_self)
          rw [added] at addedSome
          cases addedSome
  | some expiresAt =>
      apply ends_processRecords converts records claimed.nodup
      · refine ⟨runner.workerId, runner.batchSize, runner.lease, claimTime, records, ?_, added⟩
        rw [logged]
        exact List.mem_append_right _ (List.mem_singleton_self _)
      · intro record recordMem
        obtain ⟨expiry, addedSome, held⟩ := claimed.held record recordMem
        rw [added] at addedSome
        cases addedSome
        exact held

/-- Nothing is claimed while the time is chosen. -/
theorem ends_chooseTime {describe : Exc → Except Exc Str} (now : Option DateTime)
    {store : InMemoryOutboxStore F} {counters : ProjectionRun} :
    Ends describe (ProjectionRunner.chooseTime now)
      (fun _ _ after => after.store = store ∧ batches after.log = [] ∧
        ∀ call ∈ after.log, Accepted call)
      (fun _ _ after => batches after.log = []) counters ⟨store, []⟩ := by
  cases now with
  | some time => exact ⟨rfl, rfl, List.forall_mem_nil _⟩
  | none =>
      apply ends_request
      · rintro time after ⟨answers, -, logged⟩
        refine ⟨answers.store_eq rfl, ?_, ?_⟩
        · rw [logged]
          rfl
        · rw [logged]
          exact List.forall_mem_singleton.mpr trivial
      · rintro error after ⟨-, -, logged⟩
        rw [logged]
        rfl

/-- How a cycle ends: before its claim, with a settled batch, or with unrecorded
evidence. -/
theorem ends_runOnce {describe : Exc → Except Exc Str} (converts : ConvertsOrdinary describe)
    (runner : ProjectionRunner) (now : Option DateTime) {store : InMemoryOutboxStore F}
    (sound : store.Sound) (counters : ProjectionRun) :
    Ends describe (runner.runOnce now)
      (fun run _ after => ∃ records states final start, batches after.log = [records] ∧
        EvidenceRecorded runner.spec records after.log ∧
        Finished runner.spec records start {} final states after ∧
        run = { final with claimed := records.length })
      (fun _ _ after => batches after.log = [] ∨ ∃ records, batches after.log = [records] ∧
        ¬ EvidenceRecorded runner.spec records after.log)
      counters ⟨store, []⟩ := by
  apply ends_bind
  refine Ends.mono (ends_chooseTime now) ?_ fun _ _ _ => Or.inl
  · rintro time final before ⟨rfl, unclaimed, accepted⟩
    apply ends_bind
    cases converted : ensureUtc "now" time with
    | error error => exact .inl unclaimed
    | ok claimTime =>
        apply ends_bind
        apply ends_request
        · intro records world attempted
          have logged := attempted.2.2
          have claimed : batches world.log = [records] := by
            rw [logged, batches, List.filterMap_append, ← batches, unclaimed]
            rfl
          have acceptedClaim : ∀ call ∈ world.log, Accepted call := by
            rw [logged]
            intro call callMem
            rcases List.mem_append.mp callMem with earlier | last
            · exact accepted call earlier
            · rw [List.mem_singleton.mp last]
              trivial
          apply ends_bind
          apply ends_assign
          apply ends_bind
          refine Ends.mono (ends_claimed converts sound attempted) ?_ ?_
          · rintro _ last after ⟨states, finished⟩
            obtain ⟨calls, extended, acceptedCalls⟩ := id finished.recording
            refine ⟨records, states, last, world, ?_, ⟨finished.named, ?_⟩, finished, rfl⟩
            · rw [extended.1, batches_append extended.2, claimed]
            · rw [extended.1]
              intro call callMem
              rcases List.mem_append.mp callMem with earlier | later
              · exact acceptedClaim call earlier
              · exact acceptedCalls call later
          · rintro error last after ⟨nonempty, calls, extended, unrecorded⟩
            refine .inr ⟨records, ?_, ?_⟩
            · rw [extended.1, batches_append extended.2, claimed]
            · intro recorded
              refine unrecorded ⟨recorded.named nonempty, ?_⟩
              intro call callMem
              apply recorded.accepted call
              rw [extended.1]
              exact List.mem_append_right _ callMem
        · rintro error after ⟨-, -, logged⟩
          left
          rw [logged, batches, List.filterMap_append, ← batches, unclaimed]
          rfl

/-- Exactly when a cycle isolates the records of its batch.  In every run of a cycle whose
callbacks raise convertible exceptions and whose clock stays inside the lease, every
claimed record is settled and counted if and only if all evidence is recorded. -/
theorem isolated_iff_evidenceRecorded (describe : Exc → Except Exc Str)
    (converts : ConvertsOrdinary describe) (runner : ProjectionRunner) (now : Option DateTime)
    (store : InMemoryOutboxStore F) (sound : store.Sound) (counters final : ProjectionRun)
    (outcome : Except Exc ProjectionRun) (world : CycleWorld F)
    (returns : (runner.runOnce now counters).Returns (Attempts describe) ⟨store, []⟩
      (outcome, final) world)
    (records : List (OutboxRecord F)) (claimed : records ∈ batches world.log) :
    Isolated records outcome world ↔ EvidenceRecorded runner.spec records world.log := by
  have ended := Prog.Safe.of_returns (ends_runOnce converts runner now sound counters) returns
  cases outcome with
  | error error =>
      rcases ended with none | ⟨batch, batchEq, unrecorded⟩
      · rw [none] at claimed
        cases claimed
      · rw [batchEq, List.mem_singleton] at claimed
        subst batch
        refine iff_of_false ?_ unrecorded
        rintro ⟨⟨run, states, impossible, -⟩, -⟩
        cases impossible
  | ok run =>
      obtain ⟨batch, states, last, start, batchEq, recorded, finished, rfl⟩ := ended
      rw [batchEq, List.mem_singleton] at claimed
      subst batch
      refine iff_of_true ⟨⟨_, states, rfl, finished.states_eq, finished.settled, rfl, ?_⟩,
        completionsKept_of_returns sound returns⟩ recorded
      obtain ⟨completed, retryable, quarantined, total⟩ := foldl_count states finished.settled {}
      have lengths : records.length = states.length := by
        have mapped := congrArg List.length finished.states_eq
        rwa [List.length_map, List.length_map] at mapped
      rw [finished.counted]
      simp only [Nat.zero_add] at completed retryable quarantined
      refine ⟨completed, retryable, quarantined, ?_⟩
      rw [lengths, total, completed, retryable, quarantined]

/-! ## Two records -/

instance (call : RunnerCall F) : Decidable (Accepted call) :=
  match call with
  | ⟨.clock, _⟩ => isTrue trivial
  | ⟨.atomicClaim _ _ _ _, _⟩ => isTrue trivial
  | ⟨.loadSource _ _, .ok _⟩ => isTrue trivial
  | ⟨.loadSource _ _, .error error⟩ => inferInstanceAs (Decidable (Encodes (failureCode error)))
  | ⟨.project _ _, .ok _⟩ => isTrue trivial
  | ⟨.project _ _, .error error⟩ => inferInstanceAs (Decidable (Encodes (failureCode error)))
  | ⟨.execute _, .ok _⟩ => isTrue trivial
  | ⟨.execute _, .error error⟩ => inferInstanceAs (Decidable (Encodes (failureCode error)))
  | ⟨.acknowledge _ _, .ok _⟩ => isTrue trivial
  | ⟨.acknowledge _ _, .error error⟩ => inferInstanceAs (Decidable (Encodes (failureCode error)))
  | ⟨.complete _ _ _ _ _, _⟩ => isTrue trivial
  | ⟨.release _ _ _ _ _, _⟩ => isTrue trivial
  | ⟨.record _, .ok _⟩ => isTrue trivial
  | ⟨.record _, .error _⟩ => isFalse not_false

/-- The outbox with two changes to the sample case that have different ordering keys. -/
def twoRecords : InMemoryOutboxStore Empty :=
  (InMemoryOutboxStore.initDefault.run [.append bareIntent, .append qualifiedIntent]).1

/-- The sample callbacks with a given evidence sink. -/
def sinkResponse (sink : Except Exc Unit) (store : InMemoryOutboxStore Empty) :
    (hook : RunnerHook Empty) → hook.Response × InMemoryOutboxStore Empty
  | .record _ => (sink, store)
  | hook => sampleResponse store hook

/-- The cycle world with these callbacks. -/
def sinkHandler (sink : Except Exc Unit) (world : CycleWorld Empty) (hook : RunnerHook Empty) :
    hook.Response × CycleWorld Empty :=
  let answer := sinkResponse sink world.store hook
  (answer.1, ⟨answer.2, world.log ++ [⟨hook, answer.1⟩]⟩)

/-- Microsecond 30 is inside every lease of the log. -/
def insideLeases (world : CycleWorld Empty) (_ : RunnerHook Empty) : Bool :=
  world.log.all fun
    | ⟨.atomicClaim _ _ duration time, .ok _⟩ => (time.add duration).all (30 < ·)
    | _ => true

/-- An exception of the sink. -/
def sinkError : Exc := ⟨.runtimeError, ⟨"evidence store unavailable", []⟩, none, false⟩

theorem sinkHandler_attempts {sink : Except Exc Unit} (failing : sink = .ok () ∨ sink = .error sinkError)
    (world : CycleWorld Empty) (hook : RunnerHook Empty)
    (inside : insideLeases world hook = true) :
    Attempts (fun _ => .ok []) world hook (sinkHandler sink world hook).1
      (sinkHandler sink world hook).2 := by
  cases hook with
  | clock =>
      refine ⟨.clock _, ?_, rfl⟩
      rintro expiresAt ⟨owner, limit, duration, time, records, claimMem, added⟩
      have checked := List.all_eq_true.mp inside _ claimMem
      simp only [added, Option.all_some, decide_eq_true_eq] at checked
      exact ⟨_, ⟨30, by decide⟩, rfl, DateTime.toUtc_ofUtc _, checked⟩
  | release eventId owner error retryable now =>
      exact ⟨.release eventId owner error retryable now [] rfl, trivial, rfl⟩
  | record evidence =>
      refine ⟨.record evidence _, ?_, rfl⟩
      rcases failing with rfl | rfl
      · trivial
      · exact ⟨rfl, show str "builtins.RuntimeError" ≠ [] by decide, [], rfl,
          .inr (show str "RuntimeError" ≠ [] by decide)⟩
  | _ => exact ⟨by constructor, trivial, rfl⟩

/-- The sample cycle over two records. -/
def sinkRun (sink : Except Exc Unit) : (Except Exc ProjectionRun × ProjectionRun) × CycleWorld Empty :=
  (sampleRunner.runOnce (some (.ofUtc 20)) {}).run (sinkHandler sink) ⟨twoRecords, []⟩

theorem sinkRun_returns {sink : Except Exc Unit} (failing : sink = .ok () ∨ sink = .error sinkError)
    (passed : (sampleRunner.runOnce (some (.ofUtc ⟨20, by decide⟩)) {}).passes (sinkHandler sink)
      insideLeases ⟨twoRecords, []⟩ = true) :
    (sampleRunner.runOnce (some (.ofUtc ⟨20, by decide⟩)) {}).Returns (Attempts fun _ => .ok [])
      ⟨twoRecords, []⟩ (sinkRun sink).1 (sinkRun sink).2 :=
  Prog.run_returns_of_passes (sinkHandler_attempts failing) _ _ passed

/-- The evidence sink raises after the first of two records is completed.  The cycle raises,
and the second record stays leased. -/
theorem failing_sink_strands_batch :
    (sampleRunner.runOnce (some (.ofUtc ⟨20, by decide⟩)) {}).Returns (Attempts fun _ => .ok [])
      ⟨twoRecords, []⟩ (sinkRun (.error sinkError)).1 (sinkRun (.error sinkError)).2 ∧
    (batches (sinkRun (.error sinkError)).2.log).map (·.map (·.data.eventId)) =
      [[str "event-1", str "event-3"]] ∧
    (sinkRun (.error sinkError)).1.1.isOk = false ∧
    stateOf (sinkRun (.error sinkError)).2.store (str "event-1") = some .completed ∧
    stateOf (sinkRun (.error sinkError)).2.store (str "event-3") = some .leased := by
  refine ⟨sinkRun_returns (.inr rfl) (by decide +kernel), ?_⟩
  decide +kernel

/-- With a sink that accepts the evidence the cycle settles and counts both records. -/
theorem isolated_iff_evidenceRecorded_sample :
    ∃ records, records.map (·.data.eventId) = [str "event-1", str "event-3"] ∧
      Isolated records (sinkRun (.ok ())).1.1 (sinkRun (.ok ())).2 := by
  have returns := sinkRun_returns (.inl rfl) (by decide +kernel)
  have batched : (batches (sinkRun (.ok ())).2.log).map (·.map (·.data.eventId)) =
      [[str "event-1", str "event-3"]] := by decide +kernel
  obtain ⟨records, claimed, events⟩ : ∃ records ∈ batches (sinkRun (.ok ())).2.log,
      records.map (·.data.eventId) = [str "event-1", str "event-3"] := by
    apply List.mem_map.mp
    rw [batched]
    exact List.mem_singleton_self _
  refine ⟨records, events, ?_⟩
  apply (isolated_iff_evidenceRecorded (fun _ => .ok []) (fun _ _ => ⟨[], rfl⟩) sampleRunner _
    twoRecords (InMemoryOutboxStore.sound_init.run _) {} _ _ _ returns records claimed).mpr
  constructor
  · intro _
    show Encodes (str "case-view")
    decide +kernel
  · decide +kernel

end DataLifecycle.Runner
