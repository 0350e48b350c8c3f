import DataLifecycle.Canonical

/-!
# Lifecycle evidence

One redacted state transition, with the fingerprint of its content.
-/

namespace DataLifecycle

open Python

variable {F : Type} [FloatText F]

/-- `LifecycleEvidence`. -/
structure LifecycleEvidence (F : Type) where
  kind : Str
  subject : Str
  state : Str
  details : List (Str × Json F)
  occurredAt : Utc
  fingerprint : Str

/-- The mapping covered by the fingerprint. -/
def evidenceMaterial (kind subject state : Str) (details : List (Str × Json F)) : Json F :=
  .object [
    (str "kind", .str kind),
    (str "subject", .str subject),
    (str "state", .str state),
    (str "details", .object details)]

/-- The constructor of `LifecycleEvidence` without a given fingerprint. -/
def LifecycleEvidence.make (kind subject state : Str) (details : List (Str × Json F))
    (occurredAt : DateTime) : Except Exc (LifecycleEvidence F) :=
  if kind = [] ∨ subject = [] ∨ state = [] then
    .error (.valueError "evidence kind, subject, and state must be non-empty")
  else do
    let occurred ← ensureUtc "occurred_at" occurredAt
    let fingerprint ← sha256Digest (evidenceMaterial kind subject state details)
    return ⟨kind, subject, state, details, occurred, fingerprint⟩

end DataLifecycle
