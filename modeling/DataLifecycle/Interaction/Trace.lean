import DataLifecycle.Interaction.Program

/-!
# Traces of programs

The monitor state of a program may simply be its trace: the requests made so far, each with
its response.  `Ends` is the rule for parts of a script that keep one relation between
variables and state as long as they go on, and leave another one when they raise.
-/

namespace DataLifecycle.Interaction

universe u

variable {Call : Type} {Resp : Call → Type} {α β ε ℓ : Type} {γ : Type u}

/-- A request and its response. -/
abbrev Event (Call : Type) (Resp : Call → Type) : Type := Σ request : Call, Resp request

/-- The environment gives the admitted answers, and the state is the trace. -/
def Traced (answers : List (Event Call Resp) → (request : Call) → Resp request → Prop)
    (before : List (Event Call Resp)) (request : Call) (response : Resp request)
    (after : List (Event Call Resp)) : Prop :=
  answers before request response ∧ after = before ++ [⟨request, response⟩]

/-- The handler that computes its answers from the trace. -/
def recording (answer : List (Event Call Resp) → (request : Call) → Resp request)
    (trace : List (Event Call Resp)) (request : Call) : Resp request × List (Event Call Resp) :=
  (answer trace request, trace ++ [⟨request, answer trace request⟩])

/-- The run against computed answers is a run of the environment. -/
theorem recording_returns
    {answers : List (Event Call Resp) → (request : Call) → Resp request → Prop}
    (answer : List (Event Call Resp) → (request : Call) → Resp request)
    (admitted : ∀ trace request, answers trace request (answer trace request))
    (program : Prog Call Resp α) (trace : List (Event Call Resp)) :
    program.Returns (Traced answers) trace (program.run (recording answer) trace).1
      (program.run (recording answer) trace).2 :=
  Prog.run_returns (fun state request => ⟨admitted state request, rfl⟩) program trace

namespace Script

/-- As long as the script goes on it keeps one relation, and when it raises it leaves
another one. -/
def Ends (env : γ → (request : Call) → Resp request → γ → Prop) (allowed : γ → Call → Prop)
    (going : ℓ → γ → Prop) (raised : ε → ℓ → γ → Prop) (script : Script Call Resp ε ℓ α) : Prop :=
  ∀ locals state, going locals state →
    script.Safe env allowed (fun _ => going) raised locals state

variable {env : γ → (request : Call) → Resp request → γ → Prop} {allowed : γ → Call → Prop}
  {going : ℓ → γ → Prop} {raised : ε → ℓ → γ → Prop}

theorem ends_pure (value : α) :
    (pure value : Script Call Resp ε ℓ α).Ends env allowed going raised :=
  fun _ _ goes => goes

theorem ends_locals : (locals : Script Call Resp ε ℓ ℓ).Ends env allowed going raised :=
  fun _ _ goes => goes

theorem ends_raise {error : ε} (absorbed : ∀ before state, going before state →
      raised error before state) :
    (raise error : Script Call Resp ε ℓ α).Ends env allowed going raised :=
  absorbed

theorem ends_assign {change : ℓ → ℓ} (kept : ∀ before state, going before state →
      going (change before) state) :
    (assign change : Script Call Resp ε ℓ Unit).Ends env allowed going raised :=
  kept

theorem ends_lift {result : Except ε α} (absorbed : ∀ error, result = .error error →
      ∀ before state, going before state → raised error before state) :
    (lift result : Script Call Resp ε ℓ α).Ends env allowed going raised := by
  intro before state goes
  cases result with
  | ok value => exact goes
  | error error => exact absorbed error rfl before state goes

theorem ends_refuse {condition : Prop} [Decidable condition] {error : ε}
    (absorbed : ∀ before state, going before state → raised error before state) :
    (refuse condition error : Script Call Resp ε ℓ Unit).Ends env allowed going raised := by
  intro before state goes
  exact safe_refuse.mpr ⟨fun _ => absorbed before state goes, fun _ => goes⟩

theorem ends_bind {script : Script Call Resp ε ℓ β} {rest : β → Script Call Resp ε ℓ α}
    (first : script.Ends env allowed going raised)
    (second : ∀ value, (rest value).Ends env allowed going raised) :
    (script >>= rest).Ends env allowed going raised := by
  intro before state goes
  rw [safe_bind]
  exact (first before state goes).mono (fun value after final kept => second value after final kept)
    fun _ _ _ left => left

/-- `Ends` for a script whose value is described as well. -/
def Yields (env : γ → (request : Call) → Resp request → γ → Prop) (allowed : γ → Call → Prop)
    (going : ℓ → γ → Prop) (raised : ε → ℓ → γ → Prop) (result : α → Prop)
    (script : Script Call Resp ε ℓ α) : Prop :=
  ∀ locals state, going locals state →
    script.Safe env allowed (fun value after final => going after final ∧ result value) raised locals
      state

theorem yields_pure {result : α → Prop} {value : α} (holds : result value) :
    (pure value : Script Call Resp ε ℓ α).Yields env allowed going raised result :=
  fun _ _ goes => ⟨goes, holds⟩

theorem yields_locals {result : ℓ → Prop} (holds : ∀ before state, going before state →
      result before) :
    (locals : Script Call Resp ε ℓ ℓ).Yields env allowed going raised result :=
  fun before state goes => ⟨goes, holds before state goes⟩

theorem yields_assign {change : ℓ → ℓ} (kept : ∀ before state, going before state →
      going (change before) state) :
    (assign change : Script Call Resp ε ℓ Unit).Yields env allowed going raised fun _ => True :=
  fun before state goes => ⟨kept before state goes, trivial⟩

theorem yields_lift {result : α → Prop} {outcome : Except ε α}
    (holds : ∀ value, outcome = .ok value → result value)
    (absorbed : ∀ error, outcome = .error error → ∀ before state, going before state →
      raised error before state) :
    (lift outcome : Script Call Resp ε ℓ α).Yields env allowed going raised result := by
  intro before state goes
  cases outcome with
  | ok value => exact ⟨goes, holds value rfl⟩
  | error error => exact absorbed error rfl before state goes

theorem yields_refuse {condition : Prop} [Decidable condition] {error : ε}
    (unmet : ¬ condition) :
    (refuse condition error : Script Call Resp ε ℓ Unit).Yields env allowed going raised
      fun _ => True := by
  intro before state goes
  exact safe_refuse.mpr ⟨fun met => absurd met unmet, fun _ => ⟨goes, trivial⟩⟩

theorem yields_bind {middle : β → Prop} {result : α → Prop} {script : Script Call Resp ε ℓ β}
    {rest : β → Script Call Resp ε ℓ α}
    (first : script.Yields env allowed going raised middle)
    (second : ∀ value, middle value → (rest value).Yields env allowed going raised result) :
    (script >>= rest).Yields env allowed going raised result := by
  intro before state goes
  rw [safe_bind]
  exact (first before state goes).mono (fun value after final yielded =>
    second value yielded.2 after final yielded.1) fun _ _ _ left => left

/-- A part that yields what it should, in front of a continuation. -/
theorem Yields.safe_bind {middle : β → Prop} {normal : α → ℓ → γ → Prop}
    {script : Script Call Resp ε ℓ β} {rest : β → Script Call Resp ε ℓ α} {before : ℓ} {state : γ}
    (yields : script.Yields env allowed going raised middle) (goes : going before state)
    (continues : ∀ value after final, middle value → going after final →
      (rest value).Safe env allowed normal raised after final) :
    (script >>= rest).Safe env allowed normal raised before state := by
  rw [Script.safe_bind]
  exact (yields before state goes).mono (fun value after final yielded =>
    continues value after final yielded.2 yielded.1) fun _ _ _ left => left

/-- A part that ends as it should, in front of a continuation. -/
theorem Ends.safe_bind {normal : α → ℓ → γ → Prop} {exceptional : ε → ℓ → γ → Prop}
    {script : Script Call Resp ε ℓ β} {rest : β → Script Call Resp ε ℓ α} {before : ℓ} {state : γ}
    (ends : script.Ends env allowed going raised) (goes : going before state)
    (continues : ∀ value after final, going after final →
      (rest value).Safe env allowed normal exceptional after final)
    (raises : ∀ error after final, raised error after final → exceptional error after final) :
    (script >>= rest).Safe env allowed normal exceptional before state := by
  rw [Script.safe_bind]
  exact (ends before state goes).mono continues raises

end Script

end DataLifecycle.Interaction
