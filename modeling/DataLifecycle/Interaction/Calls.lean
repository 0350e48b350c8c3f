import DataLifecycle.Interaction.Program

/-!
# The requests of a script

`Calls` says of which kind every request of a script is, whatever the environment
answers.  Nothing is known of the answers, but the results of pure functions are: a
request may depend on what was computed before it.
-/

namespace DataLifecycle.Interaction.Script

variable {Call : Type} {Resp : Call → Type} {α β ε ℓ : Type} {kind : Call → Prop}

/-- Every request of the script is of the kind. -/
def Calls (kind : Call → Prop) (script : Script Call Resp ε ℓ α) : Prop :=
  ∀ locals, script.Safe (fun (_ : Unit) _ _ _ => True) (fun _ request => kind request)
    (fun _ _ _ => True) (fun _ _ _ => True) locals ()

theorem calls_pure (value : α) : Calls kind (pure value : Script Call Resp ε ℓ α) :=
  fun _ => trivial

theorem calls_lift (result : Except ε α) :
    Calls kind (lift result : Script Call Resp ε ℓ α) := by
  intro locals
  cases result with
  | ok value => trivial
  | error error => trivial

theorem calls_refuse (condition : Prop) [Decidable condition] (error : ε) :
    Calls kind (refuse condition error : Script Call Resp ε ℓ Unit) :=
  fun _ => safe_refuse.mpr ⟨fun _ => trivial, fun _ => trivial⟩

theorem calls_invoke {request : Call} (isKind : kind request) (answer : Resp request → Except ε α) :
    Calls kind (invoke request answer : Script Call Resp ε ℓ α) := by
  intro locals
  apply safe_invoke.mpr
  refine ⟨isKind, fun response after _ => ?_⟩
  cases answer response with
  | ok value => trivial
  | error error => trivial

theorem calls_bind {script : Script Call Resp ε ℓ β} {rest : β → Script Call Resp ε ℓ α}
    (first : Calls kind script) (others : ∀ value, Calls kind (rest value)) :
    Calls kind (script >>= rest) := by
  intro locals
  apply safe_bind.mpr
  apply Safe.mono (first locals)
  · rintro value final ⟨⟩ -
    exact others value final
  · exact fun _ _ _ _ => trivial

/-- What follows a pure function may use its result. -/
theorem calls_lift_bind {result : Except ε β} {rest : β → Script Call Resp ε ℓ α}
    (others : ∀ value, result = .ok value → Calls kind (rest value)) :
    Calls kind (lift result >>= rest) := by
  intro locals
  apply safe_bind.mpr
  cases result with
  | ok value => exact others value rfl locals
  | error error => trivial

theorem calls_tryFinally {body : Script Call Resp ε ℓ α} {cleanup : Script Call Resp ε ℓ Unit}
    (first : Calls kind body) (last : Calls kind cleanup) :
    Calls kind (tryFinally body cleanup) := by
  intro locals
  apply safe_tryFinally.mpr
  apply Safe.mono (first locals)
  · rintro value final ⟨⟩ -
    exact last final
  · rintro error final ⟨⟩ -
    exact last final

end DataLifecycle.Interaction.Script
