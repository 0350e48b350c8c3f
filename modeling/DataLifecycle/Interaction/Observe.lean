import DataLifecycle.Interaction.Program

/-!
# Observed runs

The run of a script against an environment that computes its responses, with the exceptions
seen through a view.  Two scripts that cannot be told apart that way have the same ending.
-/

namespace DataLifecycle.Interaction

universe u

variable {Call : Type} {Resp : Call → Type} {α β δ ε κ ℓ : Type} {γ : Type u}

/-- How a run ends: with a value or with what is seen of an exception, and with the final
variables and state. -/
structure Ending (κ α ℓ : Type) (γ : Type u) where
  outcome : Except κ α
  locals : ℓ
  state : γ

namespace Ending

/-- Go on from a value; an exception stays. -/
def andThen (ending : Ending κ α ℓ γ) (rest : α → ℓ → γ → Ending κ β ℓ γ) : Ending κ β ℓ γ :=
  match ending.outcome with
  | .ok value => rest value ending.locals ending.state
  | .error seen => ⟨.error seen, ending.locals, ending.state⟩

@[simp]
theorem andThen_ok {value : α} {locals : ℓ} {state : γ}
    {rest : α → ℓ → γ → Ending κ β ℓ γ} :
    andThen ⟨.ok value, locals, state⟩ rest = rest value locals state :=
  rfl

@[simp]
theorem andThen_error {seen : κ} {locals : ℓ} {state : γ}
    {rest : α → ℓ → γ → Ending κ β ℓ γ} :
    andThen ⟨.error seen, locals, state⟩ rest = ⟨.error seen, locals, state⟩ :=
  rfl

theorem andThen_assoc (ending : Ending κ α ℓ γ) (first : α → ℓ → γ → Ending κ β ℓ γ)
    (second : β → ℓ → γ → Ending κ δ ℓ γ) :
    (ending.andThen first).andThen second =
      ending.andThen fun value locals state => (first value locals state).andThen second := by
  obtain ⟨outcome, locals, state⟩ := ending
  cases outcome with
  | ok value => rfl
  | error seen => rfl

/-- Continuations that agree everywhere give the same ending. -/
theorem andThen_congr (ending : Ending κ α ℓ γ) {first second : α → ℓ → γ → Ending κ β ℓ γ}
    (agree : ∀ value locals state, first value locals state = second value locals state) :
    ending.andThen first = ending.andThen second := by
  obtain ⟨outcome, locals, state⟩ := ending
  cases outcome with
  | ok value => exact agree value locals state
  | error seen => rfl

end Ending

theorem Prog.run_bind (handler : γ → (request : Call) → Resp request × γ)
    (program : Prog Call Resp α) (rest : α → Prog Call Resp β) (state : γ) :
    (program.bind rest).run handler state =
      (rest (program.run handler state).1).run handler (program.run handler state).2 := by
  induction program generalizing state with
  | ret value => rfl
  | call request next ih => exact ih _ _

namespace Script

/-- The ending of a run, with its exceptions seen through a view. -/
def observe (view : ε → κ) (handler : γ → (request : Call) → Resp request × γ)
    (script : Script Call Resp ε ℓ α) (locals : ℓ) (state : γ) : Ending κ α ℓ γ :=
  ⟨((script locals).run handler state).1.1.mapError view,
    ((script locals).run handler state).1.2, ((script locals).run handler state).2⟩

variable {view : ε → κ} {handler : γ → (request : Call) → Resp request × γ} {before : ℓ} {state : γ}

@[simp]
theorem observe_pure {value : α} :
    observe view handler (pure value : Script Call Resp ε ℓ α) before state =
      ⟨.ok value, before, state⟩ :=
  rfl

@[simp]
theorem observe_raise {error : ε} :
    observe view handler (raise error : Script Call Resp ε ℓ α) before state =
      ⟨.error (view error), before, state⟩ :=
  rfl

@[simp]
theorem observe_lift {result : Except ε α} :
    observe view handler (lift result : Script Call Resp ε ℓ α) before state =
      ⟨result.mapError view, before, state⟩ :=
  rfl

theorem observe_refuse {condition : Prop} [Decidable condition] {error : ε} :
    observe view handler (refuse condition error : Script Call Resp ε ℓ Unit) before state =
      if condition then ⟨.error (view error), before, state⟩ else ⟨.ok (), before, state⟩ := by
  unfold refuse
  split
  · rfl
  · rfl

@[simp]
theorem observe_invoke {request : Call} {answer : Resp request → Except ε α} :
    observe view handler (invoke request answer : Script Call Resp ε ℓ α) before state =
      ⟨(answer (handler state request).1).mapError view, before, (handler state request).2⟩ :=
  rfl

/-- Sequencing composes the endings. -/
@[simp]
theorem observe_bind {script : Script Call Resp ε ℓ β} {rest : β → Script Call Resp ε ℓ α} :
    observe view handler (script >>= rest) before state =
      (observe view handler script before state).andThen fun value =>
        observe view handler (rest value) := by
  rw [observe, show (script >>= rest) before = (script before).bind _ from rfl, Prog.run_bind]
  unfold observe
  rcases (script before).run handler state with ⟨⟨outcome, locals⟩, final⟩
  cases outcome with
  | ok value => rfl
  | error error => rfl

end Script

end DataLifecycle.Interaction
