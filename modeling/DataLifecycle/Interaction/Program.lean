import Mathlib.Logic.Function.Basic

/-!
# Programs that call their environment

A program is a tree of requests: it returns a value, or makes a request and
continues with whatever response it gets.  `Script` adds local variables and
exceptions, so that a handler or a cleanup sees the variables as they were when
the exception was raised.

`Safe` follows a program with a monitor state.  Every request must be allowed
in the state at hand, and the state moves with each response that the
environment may give.  It is a weakest precondition: the laws below compute it
through sequencing, handlers, cleanups and loops.
-/

namespace DataLifecycle.Interaction

universe u

variable {Call : Type} {Resp : Call → Type} {α β ε ℓ : Type} {γ : Type u}

/-- A program over requests of type `Call` with responses `Resp`. -/
inductive Prog (Call : Type) (Resp : Call → Type) (α : Type) : Type
  | ret (value : α)
  | call (request : Call) (next : Resp request → Prog Call Resp α)

namespace Prog

/-- Run a program and continue with its value. -/
def bind : Prog Call Resp α → (α → Prog Call Resp β) → Prog Call Resp β
  | .ret value, rest => rest value
  | .call request next, rest => .call request fun response => (next response).bind rest

theorem bind_ret (program : Prog Call Resp α) : program.bind .ret = program := by
  induction program with
  | ret value => rfl
  | call request next ih => exact congrArg (Prog.call request) (funext ih)

/-- Every request is allowed in the monitor state that it is made in, and the
postcondition holds at the end, whatever the environment answers. -/
def Safe (env : γ → (request : Call) → Resp request → γ → Prop) (allowed : γ → Call → Prop)
    (post : α → γ → Prop) : Prog Call Resp α → γ → Prop
  | .ret value, state => post value state
  | .call request next, state =>
      allowed state request ∧
        ∀ response after, env state request response after →
          Safe env allowed post (next response) after

variable {env : γ → (request : Call) → Resp request → γ → Prop} {allowed : γ → Call → Prop}

@[simp]
theorem safe_ret {post : α → γ → Prop} {value : α} {state : γ} :
    (Prog.ret value : Prog Call Resp α).Safe env allowed post state ↔ post value state :=
  Iff.rfl

theorem safe_call {post : α → γ → Prop} {request : Call}
    {next : Resp request → Prog Call Resp α} {state : γ} :
    (Prog.call request next).Safe env allowed post state ↔
      allowed state request ∧
        ∀ response after, env state request response after →
          (next response).Safe env allowed post after :=
  Iff.rfl

/-- Sequencing composes the postconditions. -/
@[simp]
theorem safe_bind {post : β → γ → Prop} {program : Prog Call Resp α}
    {rest : α → Prog Call Resp β} {state : γ} :
    (program.bind rest).Safe env allowed post state ↔
      program.Safe env allowed (fun value after => (rest value).Safe env allowed post after)
        state := by
  induction program generalizing state with
  | ret value => rfl
  | call request next ih =>
      simp only [bind, safe_call]
      constructor
      · rintro ⟨permitted, continued⟩
        exact ⟨permitted, fun response after answered => (ih response).mp
          (continued response after answered)⟩
      · rintro ⟨permitted, continued⟩
        exact ⟨permitted, fun response after answered => (ih response).mpr
          (continued response after answered)⟩

/-- A weaker postcondition is easier to reach. -/
theorem Safe.mono {post weaker : α → γ → Prop} {program : Prog Call Resp α} {state : γ}
    (safe : program.Safe env allowed post state)
    (implies : ∀ value after, post value after → weaker value after) :
    program.Safe env allowed weaker state := by
  induction program generalizing state with
  | ret value => exact implies value state safe
  | call request next ih =>
      exact ⟨safe.1, fun response after answered => ih response (safe.2 response after answered)⟩

/-- A program that is safe with fewer requests is safe with more. -/
theorem Safe.allow {more : γ → Call → Prop} {post : α → γ → Prop} {program : Prog Call Resp α}
    {state : γ} (safe : program.Safe env allowed post state)
    (implies : ∀ state request, allowed state request → more state request) :
    program.Safe env more post state := by
  induction program generalizing state with
  | ret value => exact safe
  | call request next ih =>
      exact ⟨implies state request safe.1,
        fun response after answered => ih response (safe.2 response after answered)⟩

/-- A program is safe if everything is allowed and every end is fine. -/
theorem safe_of_forall {post : α → γ → Prop} (permitted : ∀ state request, allowed state request)
    (ends : ∀ value state, post value state) (program : Prog Call Resp α) (state : γ) :
    program.Safe env allowed post state := by
  induction program generalizing state with
  | ret value => exact ends value state
  | call request next ih => exact ⟨permitted state request, fun response after _ => ih response after⟩

/-- Two postconditions hold together. -/
theorem Safe.and {post other : α → γ → Prop} {program : Prog Call Resp α} {state : γ}
    (safe : program.Safe env allowed post state) (also : program.Safe env allowed other state) :
    program.Safe env allowed (fun value after => post value after ∧ other value after) state := by
  induction program generalizing state with
  | ret value => exact ⟨safe, also⟩
  | call request next ih =>
      exact ⟨safe.1, fun response after answered =>
        ih response (safe.2 response after answered) (also.2 response after answered)⟩

/-- What every answer preserves holds at the end. -/
theorem safe_of_invariant (good : γ → Prop) (permitted : ∀ state request, allowed state request)
    (preserved : ∀ before request response after, good before → env before request response after →
      good after) (program : Prog Call Resp α) {state : γ} (starts : good state) :
    program.Safe env allowed (fun _ => good) state := by
  induction program generalizing state with
  | ret value => exact starts
  | call request next ih =>
      exact ⟨permitted state request, fun response after answered =>
        ih response (preserved state request response after starts answered)⟩

/-- A program whose requests all leave the monitor state alone ends in the state it began in. -/
theorem Safe.stays {kind : Call → Prop} {any : α → Unit → Prop} {post : α → γ → Prop}
    {program : Prog Call Resp α} {state : γ}
    (safe : program.Safe (fun _ _ _ _ => True) (fun _ request => kind request) any ())
    (permitted : ∀ request, kind request → allowed state request)
    (still : ∀ request response after, kind request → env state request response after →
      after = state)
    (ends : ∀ value, post value state) : program.Safe env allowed post state := by
  induction program with
  | ret value => exact ends value
  | call request next ih =>
      refine ⟨permitted request safe.1, fun response after answered => ?_⟩
      rw [still request response after safe.1 answered]
      exact ih response (safe.2 response () trivial)

/-- The program may return the value and leave the environment in the final state. -/
inductive Returns (env : γ → (request : Call) → Resp request → γ → Prop) :
    Prog Call Resp α → γ → α → γ → Prop
  | ret (value : α) (state : γ) : Returns env (.ret value) state value state
  | call (request : Call) (next : Resp request → Prog Call Resp α) (response : Resp request)
      {before after final : γ} {value : α} (answered : env before request response after)
      (rest : Returns env (next response) after value final) :
      Returns env (.call request next) before value final

/-- What a safe program returns meets its postcondition. -/
theorem Safe.of_returns {post : α → γ → Prop} {program : Prog Call Resp α} {state final : γ}
    {value : α} (safe : program.Safe env allowed post state)
    (returns : program.Returns env state value final) : post value final := by
  induction returns with
  | ret => exact safe
  | call _ _ response answered _ ih => exact ih (safe.2 response _ answered)

/-- A safe program has a run if the environment answers every request that is allowed. -/
theorem Safe.exists_returns {post : α → γ → Prop} {program : Prog Call Resp α} {state : γ}
    (safe : program.Safe env allowed post state)
    (answered : ∀ state request, allowed state request →
      ∃ response after, env state request response after) :
    ∃ value final, program.Returns env state value final := by
  induction program generalizing state with
  | ret value => exact ⟨value, state, .ret value state⟩
  | call request next ih =>
      obtain ⟨response, after, responded⟩ := answered state request safe.1
      obtain ⟨value, final, returns⟩ := ih response (safe.2 response after responded)
      exact ⟨value, final, .call request next response responded returns⟩

theorem Returns.bind {program : Prog Call Resp α} {rest : α → Prog Call Resp β}
    {state middle final : γ} {value : α} {result : β}
    (first : program.Returns env state value middle)
    (second : (rest value).Returns env middle result final) :
    (program.bind rest).Returns env state result final := by
  induction first with
  | ret => exact second
  | call request next response answered _ ih => exact .call request _ response answered (ih second)

/-- A run is also a run of another environment that answers the same way in the states
that the run goes through. -/
theorem Returns.mono {other : γ → (request : Call) → Resp request → γ → Prop} (good : γ → Prop)
    (implies : ∀ before request response after, good before → env before request response after →
      other before request response after ∧ good after)
    {program : Prog Call Resp α} {state final : γ} {value : α}
    (returns : program.Returns env state value final) (starts : good state) :
    program.Returns other state value final := by
  induction returns with
  | ret value state => exact .ret value state
  | call request next response answered _ ih =>
      obtain ⟨answers, stays⟩ := implies _ _ _ _ starts answered
      exact .call request next response answers (ih stays)

/-- What every answer of the environment keeps holds at the end of a run. -/
theorem Returns.invariant (good : γ → Prop)
    (preserved : ∀ before request response after, good before → env before request response after →
      good after)
    {program : Prog Call Resp α} {state final : γ} {value : α}
    (returns : program.Returns env state value final) (starts : good state) : good final := by
  induction returns with
  | ret => exact starts
  | call _ _ _ answered _ ih => exact ih (preserved _ _ _ _ starts answered)

/-- Run a program against an environment that computes its responses. -/
def run (handler : γ → (request : Call) → Resp request × γ) : Prog Call Resp α → γ → α × γ
  | .ret value, state => (value, state)
  | .call request next, state =>
      run handler (next (handler state request).1) (handler state request).2

theorem run_returns {handler : γ → (request : Call) → Resp request × γ}
    (answers : ∀ state request, env state request (handler state request).1
      (handler state request).2)
    (program : Prog Call Resp α) (state : γ) :
    program.Returns env state (program.run handler state).1 (program.run handler state).2 := by
  induction program generalizing state with
  | ret value => exact .ret value state
  | call request next ih => exact .call request next _ (answers state request) (ih _ _)

/-- Whether every request of the run passes a check in the state that it is made in. -/
def passes (handler : γ → (request : Call) → Resp request × γ) (check : γ → Call → Bool) :
    Prog Call Resp α → γ → Bool
  | .ret _, _ => true
  | .call request next, state =>
      check state request &&
        passes handler check (next (handler state request).1) (handler state request).2

/-- A run whose requests pass is a run of the environment. -/
theorem run_returns_of_passes {handler : γ → (request : Call) → Resp request × γ}
    {check : γ → Call → Bool}
    (answers : ∀ state request, check state request = true →
      env state request (handler state request).1 (handler state request).2)
    (program : Prog Call Resp α) (state : γ) (passed : program.passes handler check state = true) :
    program.Returns env state (program.run handler state).1 (program.run handler state).2 := by
  induction program generalizing state with
  | ret value => exact .ret value state
  | call request next ih =>
      obtain ⟨checked, rest⟩ := Bool.and_eq_true_iff.mp passed
      exact .call request next _ (answers state request checked) (ih _ _ rest)

end Prog

/-! ## Scripts -/

/-- A program with local variables `ℓ` and exceptions `ε`. -/
def Script (Call : Type) (Resp : Call → Type) (ε ℓ α : Type) : Type :=
  ℓ → Prog Call Resp (Except ε α × ℓ)

namespace Script

instance : Monad (Script Call Resp ε ℓ) where
  pure value := fun locals => .ret (.ok value, locals)
  bind script rest := fun locals => (script locals).bind fun
    | (.ok value, after) => rest value after
    | (.error error, after) => .ret (.error error, after)

/-- Raise an exception. -/
def raise (error : ε) : Script Call Resp ε ℓ α := fun locals => .ret (.error error, locals)

/-- Use the result of a pure function that may raise. -/
def lift (result : Except ε α) : Script Call Resp ε ℓ α := fun locals => .ret (result, locals)

/-- Read the local variables. -/
def locals : Script Call Resp ε ℓ ℓ := fun locals => .ret (.ok locals, locals)

/-- Change the local variables. -/
def assign (change : ℓ → ℓ) : Script Call Resp ε ℓ Unit :=
  fun locals => .ret (.ok (), change locals)

/-- Make a request; an error response is raised. -/
def invoke (request : Call) (answer : Resp request → Except ε α) : Script Call Resp ε ℓ α :=
  fun locals => .call request fun response => .ret (answer response, locals)

/-- Raise an exception when the condition holds. -/
def refuse (condition : Prop) [Decidable condition] (error : ε) : Script Call Resp ε ℓ Unit :=
  if condition then raise error else pure ()

/-- `try … except`: the handler runs with the variables of the failed body. -/
def tryExcept (body : Script Call Resp ε ℓ α) (handler : ε → Script Call Resp ε ℓ α) :
    Script Call Resp ε ℓ α :=
  fun locals => (body locals).bind fun
    | (.ok value, after) => .ret (.ok value, after)
    | (.error error, after) => handler error after

/-- `try … finally`: the cleanup runs after the body in either case, and an
exception of the cleanup replaces the outcome. -/
def tryFinally (body : Script Call Resp ε ℓ α) (cleanup : Script Call Resp ε ℓ Unit) :
    Script Call Resp ε ℓ α :=
  fun locals => (body locals).bind fun
    | (outcome, after) => (cleanup after).bind fun
      | (.ok _, final) => .ret (outcome, final)
      | (.error error, final) => .ret (.error error, final)

/-- `Safe` with one postcondition for values and one for exceptions. -/
def Safe (env : γ → (request : Call) → Resp request → γ → Prop) (allowed : γ → Call → Prop)
    (normal : α → ℓ → γ → Prop) (exceptional : ε → ℓ → γ → Prop) (script : Script Call Resp ε ℓ α)
    (locals : ℓ) (state : γ) : Prop :=
  (script locals).Safe env allowed
    (fun outcome after => match outcome with
      | (.ok value, final) => normal value final after
      | (.error error, final) => exceptional error final after) state

variable {env : γ → (request : Call) → Resp request → γ → Prop} {allowed : γ → Call → Prop}
  {normal : α → ℓ → γ → Prop} {exceptional : ε → ℓ → γ → Prop} {before : ℓ} {state : γ}

@[simp]
theorem safe_pure {value : α} :
    (pure value : Script Call Resp ε ℓ α).Safe env allowed normal exceptional before state ↔
      normal value before state :=
  Iff.rfl

@[simp]
theorem safe_raise {error : ε} :
    (raise error : Script Call Resp ε ℓ α).Safe env allowed normal exceptional before state ↔
      exceptional error before state :=
  Iff.rfl

@[simp]
theorem safe_lift_ok {value : α} :
    (lift (.ok value) : Script Call Resp ε ℓ α).Safe env allowed normal exceptional before state ↔
      normal value before state :=
  Iff.rfl

@[simp]
theorem safe_lift_error {error : ε} :
    (lift (.error error) : Script Call Resp ε ℓ α).Safe env allowed normal exceptional before
      state ↔ exceptional error before state :=
  Iff.rfl

@[simp]
theorem safe_locals {normal : ℓ → ℓ → γ → Prop} :
    (locals : Script Call Resp ε ℓ ℓ).Safe env allowed normal exceptional before state ↔
      normal before before state :=
  Iff.rfl

@[simp]
theorem safe_assign {normal : Unit → ℓ → γ → Prop} {change : ℓ → ℓ} :
    (assign change : Script Call Resp ε ℓ Unit).Safe env allowed normal exceptional before state ↔
      normal () (change before) state :=
  Iff.rfl

@[simp]
theorem safe_refuse {condition : Prop} [Decidable condition] {error : ε}
    {normal : Unit → ℓ → γ → Prop} :
    (refuse condition error : Script Call Resp ε ℓ Unit).Safe env allowed normal exceptional before
      state ↔
      (condition → exceptional error before state) ∧ (¬ condition → normal () before state) := by
  unfold refuse
  by_cases holds : condition
  · simp [holds]
  · simp [holds]

theorem safe_invoke {request : Call} {answer : Resp request → Except ε α} :
    (invoke request answer : Script Call Resp ε ℓ α).Safe env allowed normal exceptional before
      state ↔
      allowed state request ∧ ∀ response after, env state request response after →
        match answer response with
        | .ok value => normal value before after
        | .error error => exceptional error before after := by
  rw [Safe, invoke, Prog.safe_call]
  refine and_congr_right fun _ => forall_congr' fun response => forall_congr' fun after =>
    imp_congr_right fun _ => ?_
  rw [Prog.safe_ret]
  cases answer response <;> rfl

@[simp]
theorem safe_bind {script : Script Call Resp ε ℓ β} {rest : β → Script Call Resp ε ℓ α} :
    (script >>= rest).Safe env allowed normal exceptional before state ↔
      script.Safe env allowed
        (fun value => (rest value).Safe env allowed normal exceptional) exceptional before
        state := by
  rw [Safe, Safe]
  change ((script before).bind _).Safe env allowed _ state ↔ _
  rw [Prog.safe_bind]
  constructor
  · intro safe
    apply safe.mono
    rintro ⟨outcome | value, final⟩ after held <;> exact held
  · intro safe
    apply safe.mono
    rintro ⟨outcome | value, final⟩ after held <;> exact held

@[simp]
theorem safe_tryExcept {body : Script Call Resp ε ℓ α} {handler : ε → Script Call Resp ε ℓ α} :
    (tryExcept body handler).Safe env allowed normal exceptional before state ↔
      body.Safe env allowed normal
        (fun error => (handler error).Safe env allowed normal exceptional) before state := by
  rw [Safe, Safe, tryExcept, Prog.safe_bind]
  constructor
  · intro safe
    apply safe.mono
    rintro ⟨outcome | value, final⟩ after held <;> exact held
  · intro safe
    apply safe.mono
    rintro ⟨outcome | value, final⟩ after held <;> exact held

@[simp]
theorem safe_tryFinally {body : Script Call Resp ε ℓ α} {cleanup : Script Call Resp ε ℓ Unit} :
    (tryFinally body cleanup).Safe env allowed normal exceptional before state ↔
      body.Safe env allowed
        (fun value => cleanup.Safe env allowed (fun _ => normal value) exceptional)
        (fun error => cleanup.Safe env allowed (fun _ => exceptional error) exceptional) before
        state := by
  rw [Safe, Safe, tryFinally, Prog.safe_bind]
  constructor
  · intro safe
    apply safe.mono
    rintro ⟨outcome | value, final⟩ after held <;> rw [Prog.safe_bind] at held <;>
      apply held.mono <;> rintro ⟨raised | done, last⟩ final held <;> exact held
  · intro safe
    apply safe.mono
    rintro ⟨outcome | value, final⟩ after held <;> rw [Prog.safe_bind] <;>
      apply held.mono <;> rintro ⟨raised | done, last⟩ final held <;> exact held

/-! ### Runs of scripts -/

theorem returns_bind {script : Script Call Resp ε ℓ β} {rest : β → Script Call Resp ε ℓ α}
    {middle : ℓ} {reached final : γ} {value : β} {outcome : Except ε α × ℓ}
    (first : (script before).Returns env state (.ok value, middle) reached)
    (second : (rest value middle).Returns env reached outcome final) :
    ((script >>= rest) before).Returns env state outcome final :=
  Prog.Returns.bind first second

theorem returns_bind_error {script : Script Call Resp ε ℓ β} {rest : β → Script Call Resp ε ℓ α}
    {middle : ℓ} {reached : γ} {error : ε}
    (first : (script before).Returns env state (.error error, middle) reached) :
    ((script >>= rest) before).Returns env state (.error error, middle) reached :=
  Prog.Returns.bind first (.ret _ _)

theorem returns_invoke {request : Call} {answer : Resp request → Except ε α}
    {response : Resp request} {final : γ} (answered : env state request response final) :
    ((invoke request answer : Script Call Resp ε ℓ α) before).Returns env state
      (answer response, before) final :=
  .call request _ response answered (.ret _ _)

theorem returns_lift {result outcome : Except ε α} (equal : result = outcome) :
    ((lift result : Script Call Resp ε ℓ α) before).Returns env state (outcome, before) state :=
  equal ▸ .ret _ _

theorem returns_tryFinally {body : Script Call Resp ε ℓ α} {cleanup : Script Call Resp ε ℓ Unit}
    {middle last : ℓ} {reached final : γ} {value : α}
    (first : (body before).Returns env state (.ok value, middle) reached)
    (second : (cleanup middle).Returns env reached (.ok (), last) final) :
    ((tryFinally body cleanup) before).Returns env state (.ok value, last) final :=
  Prog.Returns.bind first (Prog.Returns.bind second (.ret _ _))

/-- Weaker postconditions are easier to reach. -/
theorem Safe.mono {weakerNormal : α → ℓ → γ → Prop} {weakerExceptional : ε → ℓ → γ → Prop}
    {script : Script Call Resp ε ℓ α}
    (safe : script.Safe env allowed normal exceptional before state)
    (onValue : ∀ value final after, normal value final after → weakerNormal value final after)
    (onError : ∀ error final after, exceptional error final after →
      weakerExceptional error final after) :
    script.Safe env allowed weakerNormal weakerExceptional before state := by
  apply Prog.Safe.mono safe
  rintro ⟨outcome | value, final⟩ after held
  · exact onError outcome final after held
  · exact onValue value final after held

/-- What every answer preserves also holds at the end. -/
theorem Safe.and_invariant {script : Script Call Resp ε ℓ α}
    (safe : script.Safe env allowed normal exceptional before state) (good : γ → Prop)
    (permitted : ∀ state request, allowed state request)
    (preserved : ∀ before request response after, good before → env before request response after →
      good after) (starts : good state) :
    script.Safe env allowed (fun value final after => normal value final after ∧ good after)
      (fun error final after => exceptional error final after ∧ good after) before state := by
  apply Prog.Safe.mono (Prog.Safe.and safe
    (Prog.safe_of_invariant good permitted preserved (script before) starts))
  rintro ⟨outcome, final⟩ after both
  cases outcome with
  | ok value => exact both
  | error error => exact both

end Script

end DataLifecycle.Interaction
