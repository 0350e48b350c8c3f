import DataLifecycle.Interaction.Trace
import DataLifecycle.Portability.Digest

/-!
# Portable recovery

`PortableRecoveryCoordinator.validate_restore` correlates the report of an import with the
manifest that an operator supplies, and asks a hook to validate the restored backup.  The evidence
that it returns names the digest of that manifest and the fingerprint of the report, and was
recorded once; the report of another export is refused before the hook is asked.
-/

namespace DataLifecycle.Portability

open Python Interaction

variable {F : Type} [FloatText F]

/-! ## The evidence -/

/-- `RestoreValidationEvidence`. -/
structure RestoreValidationEvidence where
  backupReference : Str
  exportDigest : Str
  targetFingerprint : Str
  validationDigest : Str
  validatedAt : Utc
  backupReference_ne : backupReference ≠ []
  exportDigest_sha256 : isSha256 exportDigest = true
  targetFingerprint_sha256 : isSha256 targetFingerprint = true
  validationDigest_sha256 : isSha256 validationDigest = true

namespace RestoreValidationEvidence

/-- The error of a digest of another form. -/
def invalidDigest (field : String) : Exc :=
  .valueError "%s must use the sha256:<lowercase hex> form" [str field]

/-- The constructor, with its checks in order. -/
def make (backupReference exportDigest targetFingerprint validationDigest : Str)
    (validatedAt : DateTime) : Except Exc RestoreValidationEvidence :=
  if named : backupReference = [] then
    .error (.valueError "backup_reference must be non-empty")
  else if exported : isSha256 exportDigest = true then
    if finalized : isSha256 targetFingerprint = true then
      if validated : isSha256 validationDigest = true then do
        let validatedAt ← ensureUtc "validated_at" validatedAt
        pure ⟨backupReference, exportDigest, targetFingerprint, validationDigest, validatedAt, named,
          exported, finalized, validated⟩
      else .error (invalidDigest "validation_digest")
    else .error (invalidDigest "target_fingerprint")
  else .error (invalidDigest "export_digest")

/-- `to_mapping`. -/
def toMapping (result : RestoreValidationEvidence) : List (Str × Json F) := [
  (str "backupReference", .str result.backupReference),
  (str "exportDigest", .str result.exportDigest),
  (str "targetFingerprint", .str result.targetFingerprint),
  (str "validationDigest", .str result.validationDigest),
  (str "validatedAt", .str (rfc3339 result.validatedAt))]

/-- The constructor stores its arguments and the time in UTC. -/
theorem fields_of_make {backupReference exportDigest targetFingerprint validationDigest : Str}
    {validatedAt : DateTime} {result : RestoreValidationEvidence}
    (made : make backupReference exportDigest targetFingerprint validationDigest validatedAt =
      .ok result) :
    result.backupReference = backupReference ∧ result.exportDigest = exportDigest ∧
      result.targetFingerprint = targetFingerprint ∧ result.validationDigest = validationDigest ∧
      validatedAt.toUtc = .ok result.validatedAt := by
  unfold make at made
  split at made
  next => cases made
  next =>
    split at made
    next =>
      split at made
      next =>
        split at made
        next =>
          obtain ⟨instant, utc, made⟩ := bind_eq_ok_iff.mp made
          cases made
          exact ⟨rfl, rfl, rfl, rfl, ensureUtc_eq_ok_iff.mp utc⟩
        next => cases made
      next => cases made
    next => cases made

end RestoreValidationEvidence

/-! ## The coordinator -/

/-- The calls that a restore validation makes. -/
inductive RecoveryHook (F : Type) [FloatText F]
  | validate (backupReference : Str) (manifest : LogicalExportV1 F) (report : ImportReport)
  | clock
  | record (evidence : LifecycleEvidence F)

/-- The value that a call returns. -/
abbrev RecoveryHook.Answer : RecoveryHook F → Type
  | .validate _ _ _ => Str
  | .clock => DateTime
  | .record _ => Unit

/-- A call returns a value or raises. -/
abbrev RecoveryHook.Response (hook : RecoveryHook F) : Type := Except Exc hook.Answer

/-- A part of a restore validation. -/
abbrev Recovering (F : Type) [FloatText F] (α : Type) :=
  Script (RecoveryHook F) RecoveryHook.Response Exc Unit α

namespace Recovering

/-- Make one call. -/
def request (hook : RecoveryHook F) : Recovering F hook.Answer := Script.invoke hook id

/-- `PortableRecoveryCoordinator.validate_restore`. -/
def validateRestore (backupReference : Str) (manifest : LogicalExportV1 F) (report : ImportReport) :
    Recovering F RestoreValidationEvidence := do
  Script.refuse (backupReference = []) (.valueError "backup_reference must be non-empty")
  Script.refuse (report.exportDigest ≠ manifest.digest)
    (.integrityError "import report does not reference the supplied logical export")
  let validationDigest ← request (.validate backupReference manifest report)
  Script.refuse (isSha256 validationDigest = false)
    (.integrityError "restore validation hook must return a SHA-256 digest")
  let now ← request .clock
  let result ← Script.lift (RestoreValidationEvidence.make backupReference manifest.digest
    report.targetFingerprint validationDigest now)
  let evidence ← Script.lift (LifecycleEvidence.make (str "restore-validation") backupReference
    (str "VALIDATED") result.toMapping (.ofUtc result.validatedAt))
  request (.record evidence)
  pure result

end Recovering

/-- A call and its response. -/
abbrev RecoveryEvent (F : Type) [FloatText F] := Event (RecoveryHook F) RecoveryHook.Response

/-- The calls of a validation that returned evidence: the hook validated once, and the evidence was
recorded once, with the result as its details. -/
structure Validated (backupReference : Str) (manifest : LogicalExportV1 F) (report : ImportReport)
    (result : RestoreValidationEvidence) (events : List (RecoveryEvent F)) : Prop where
  backupReference_eq : result.backupReference = backupReference
  exportDigest_eq : result.exportDigest = manifest.digest
  reported : report.exportDigest = manifest.digest
  targetFingerprint_eq : result.targetFingerprint = report.targetFingerprint
  events_eq : ∃ now evidence, events = [
      ⟨.validate backupReference manifest report, .ok result.validationDigest⟩,
      ⟨.clock, .ok now⟩, ⟨.record evidence, .ok ()⟩] ∧
    now.toUtc = .ok result.validatedAt ∧
    LifecycleEvidence.make (str "restore-validation") backupReference (str "VALIDATED")
      result.toMapping (.ofUtc result.validatedAt) = .ok evidence

namespace Recovering

variable {answers : List (RecoveryEvent F) → (hook : RecoveryHook F) → hook.Response → Prop}
  {backupReference : Str} {manifest : LogicalExportV1 F} {report : ImportReport}

/-- A call that returns is an event; one that raises ends the validation. -/
theorem safe_request {hook : RecoveryHook F} {normal : hook.Answer → Unit → List (RecoveryEvent F) → Prop}
    {exceptional : Exc → Unit → List (RecoveryEvent F) → Prop} {events : List (RecoveryEvent F)}
    (returns : ∀ answer, normal answer () (events ++ [⟨hook, .ok answer⟩]))
    (raises : ∀ error, exceptional error () (events ++ [⟨hook, .error error⟩])) :
    (request hook).Safe (Traced answers) (fun _ _ => True) normal exceptional () events := by
  rw [request, Script.safe_invoke]
  refine ⟨trivial, ?_⟩
  rintro (error | answer) after ⟨-, rfl⟩
  · exact raises error
  · exact returns answer

/-- The calls of a validation: one that returns evidence has validated and recorded it, and one of
the report of another export raises before its first call. -/
theorem safe_validateRestore :
    (validateRestore backupReference manifest report).Safe (Traced answers) (fun _ _ => True)
      (fun result _ events => Validated backupReference manifest report result events)
      (fun _ _ events => report.exportDigest ≠ manifest.digest → events = []) () [] := by
  unfold validateRestore
  simp only [Script.safe_bind, Script.safe_refuse]
  refine ⟨fun _ _ => trivial, fun _ => ⟨fun _ _ => trivial, fun reported => ?_⟩⟩
  have same : report.exportDigest = manifest.digest := not_not.mp reported
  -- From here on the report is of the supplied export, and whatever raises may have made calls.
  have raised (events : List (RecoveryEvent F)) :
      report.exportDigest ≠ manifest.digest → events = [] := fun other => absurd same other
  refine safe_request (fun validationDigest => ?_) fun _ => raised _
  rw [Script.safe_bind, Script.safe_refuse]
  refine ⟨fun _ => raised _, fun _ => ?_⟩
  rw [Script.safe_bind]
  refine safe_request (fun now => ?_) fun _ => raised _
  rw [Script.safe_bind]
  cases made : RestoreValidationEvidence.make backupReference manifest.digest
      report.targetFingerprint validationDigest now with
  | error error => exact raised _
  | ok result =>
      obtain ⟨backupEq, exportEq, fingerprintEq, validationEq, utc⟩ :=
        RestoreValidationEvidence.fields_of_make made
      rw [Script.safe_lift_ok, Script.safe_bind]
      cases evidenced : LifecycleEvidence.make (F := F) (str "restore-validation") backupReference
          (str "VALIDATED") result.toMapping (.ofUtc result.validatedAt) with
      | error error => exact raised _
      | ok evidence =>
          rw [Script.safe_lift_ok, Script.safe_bind]
          refine safe_request (fun _ => ?_) fun _ => raised _
          refine ⟨backupEq, exportEq, same, fingerprintEq, now, evidence, ?_, utc, evidenced⟩
          rw [validationEq]
          rfl

end Recovering

end DataLifecycle.Portability
