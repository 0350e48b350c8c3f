import DataLifecycle.Python.Text

/-!
# Exceptions

The exceptions of the package and of the Python runtime, and the exceptions
that injected hooks may raise.  A message is a template with `%r` and `%s`
places together with the values that fill them.
-/

namespace DataLifecycle

open Python

/-- A message template and its arguments. -/
structure Message where
  template : String
  arguments : List Str := []
  deriving DecidableEq

/-- The class of an exception.  `foreign` is a class that this package does not
define: its name, its qualified name, and whether `except Exception` catches it. -/
inductive ErrorClass
  | valueError
  | typeError
  | keyError
  | assertionError
  | overflowError
  | runtimeError
  | unicodeEncodeError
  | conflictError
  | notFoundError
  | dataLifecycleValidationError
  | leaseLostError
  | checkpointConflict
  | projectionRejected
  | cacheUnavailable
  | incompatibleMigration
  | migrationConflict
  | migrationFailed
  | integrityError
  | operationCancelled
  | foreign (name qualifiedName : Str) (isException : Bool)
  deriving DecidableEq

/-- `type(error).__name__`. -/
def ErrorClass.name : ErrorClass → Str
  | .valueError => str "ValueError"
  | .typeError => str "TypeError"
  | .keyError => str "KeyError"
  | .assertionError => str "AssertionError"
  | .overflowError => str "OverflowError"
  | .runtimeError => str "RuntimeError"
  | .unicodeEncodeError => str "UnicodeEncodeError"
  | .conflictError => str "ConflictError"
  | .notFoundError => str "NotFoundError"
  | .dataLifecycleValidationError => str "DataLifecycleValidationError"
  | .leaseLostError => str "LeaseLostError"
  | .checkpointConflict => str "CheckpointConflict"
  | .projectionRejected => str "ProjectionRejected"
  | .cacheUnavailable => str "CacheUnavailable"
  | .incompatibleMigration => str "IncompatibleMigration"
  | .migrationConflict => str "MigrationConflict"
  | .migrationFailed => str "MigrationFailed"
  | .integrityError => str "IntegrityError"
  | .operationCancelled => str "OperationCancelled"
  | .foreign name _ _ => name

/-- An exception object.  `code` is present exactly on a `MeridianError`. -/
structure Exc where
  cls : ErrorClass
  message : Message
  code : Option Str := none
  retryable : Bool := false
  deriving DecidableEq

namespace Exc

/-- Whether `except Exception` catches the exception. -/
def isException (error : Exc) : Bool :=
  match error.cls with
  | .foreign _ _ caught => caught
  | _ => true

def valueError (template : String) (arguments : List Str := []) : Exc :=
  ⟨.valueError, ⟨template, arguments⟩, none, false⟩

def typeError (template : String) (arguments : List Str := []) : Exc :=
  ⟨.typeError, ⟨template, arguments⟩, none, false⟩

def assertionError : Exc := ⟨.assertionError, ⟨"", []⟩, none, false⟩

def overflowError : Exc := ⟨.overflowError, ⟨"date value out of range", []⟩, none, false⟩

def unicodeEncodeError : Exc := ⟨.unicodeEncodeError, ⟨"surrogates not allowed", []⟩, none, false⟩

/-- An exception of the Meridian hierarchy. -/
def meridian (cls : ErrorClass) (code : String) (template : String) (arguments : List Str := [])
    (retryable : Bool := false) : Exc :=
  ⟨cls, ⟨template, arguments⟩, some (str code), retryable⟩

def leaseLost (template : String) (arguments : List Str := []) : Exc :=
  meridian .leaseLostError "MERIDIAN_OUTBOX_LEASE_LOST" template arguments

def checkpointConflict (template : String) (arguments : List Str := []) : Exc :=
  meridian .checkpointConflict "MERIDIAN_CHECKPOINT_CONFLICT" template arguments

def projectionRejected (template : String) : Exc :=
  meridian .projectionRejected "MERIDIAN_PROJECTION_REJECTED" template

def cacheUnavailable (template : String) : Exc :=
  meridian .cacheUnavailable "MERIDIAN_CACHE_UNAVAILABLE" template [] true

def migrationConflict (template : String) : Exc :=
  meridian .migrationConflict "MERIDIAN_MIGRATION_CONFLICT" template

def migrationFailed (template : String) (arguments : List Str := []) : Exc :=
  meridian .migrationFailed "MERIDIAN_MIGRATION_FAILED" template arguments

def integrityError (template : String) (arguments : List Str := []) : Exc :=
  meridian .integrityError "MERIDIAN_PORTABILITY_INTEGRITY" template arguments

def operationCancelled : Exc :=
  meridian .operationCancelled "MERIDIAN_LIFECYCLE_CANCELLED" "lifecycle operation cancelled" [] true

end Exc

/-- Raise when the condition holds. -/
def refuse (condition : Prop) [Decidable condition] (error : Exc) : Except Exc Unit :=
  if condition then .error error else .ok ()

@[simp]
theorem refuse_eq_ok_iff {condition : Prop} [Decidable condition] {error : Exc} :
    refuse condition error = .ok () ↔ ¬ condition := by
  unfold refuse
  split <;> simp [*]

/-- A field that must be non-empty. -/
def requireText (field : String) (value : Str) : Except Exc Unit :=
  refuse (value = []) (.valueError "%s must be non-empty" [str field])

/-- A computation in two parts returns when both parts do. -/
theorem bind_eq_ok_iff {α β : Type} {first : Except Exc α} {rest : α → Except Exc β} {result : β} :
    (first >>= rest) = .ok result ↔ ∃ value, first = .ok value ∧ rest value = .ok result := by
  cases first with
  | error error => simp [bind, Except.bind]
  | ok value => simp [bind, Except.bind]

/-- A check passes before the rest is computed. -/
theorem check_bind_eq_ok_iff {α : Type} {first : Except Exc Unit} {rest : Unit → Except Exc α}
    {result : α} : (first >>= rest) = .ok result ↔ first = .ok () ∧ rest () = .ok result := by
  rw [bind_eq_ok_iff]
  exact ⟨fun ⟨_, both⟩ => both, fun both => ⟨(), both⟩⟩

/-- What an iterable yields, and the exception that it ends with. -/
structure Stream (α : Type) where
  items : List α
  failure : Option Exc := none

end DataLifecycle
