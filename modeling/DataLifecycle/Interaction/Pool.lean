import DataLifecycle.Interaction.Program
import Mathlib.Data.DFinsupp.WellFounded
import Mathlib.Logic.Relation
import Mathlib.SetTheory.Cardinal.Order

/-!
# Pools of interleaved programs

Programs run as threads over one environment state and interleave at their
requests.  Each thread follows a phase automaton; an invariant of the phases and
the environment that every allowed request keeps is an invariant of the pool.
-/

namespace DataLifecycle.Interaction

universe u v

variable {Call : Type} {Resp : Call → Type} {α ι : Type} {σ : Type u} {Phase : Type v}

/-- What a program may request in each phase, and how responses move the phase. -/
structure Automaton (Call : Type) (Resp : Call → Type) (Phase : Type v) where
  allows : Phase → Call → Prop
  next : Phase → (request : Call) → Resp request → Phase

/-- The program makes only requests that the automaton allows. -/
def Prog.Follows (automaton : Automaton Call Resp Phase) (program : Prog Call Resp α)
    (phase : Phase) : Prop :=
  program.Safe (fun before request response after => after = automaton.next before request response)
    automaton.allows (fun _ _ => True) phase

theorem Prog.Follows.allows {automaton : Automaton Call Resp Phase} {phase : Phase} {request : Call}
    {next : Resp request → Prog Call Resp α}
    (follows : (Prog.call request next).Follows automaton phase) :
    automaton.allows phase request :=
  follows.1

theorem Prog.Follows.next {automaton : Automaton Call Resp Phase} {phase : Phase} {request : Call}
    {next : Resp request → Prog Call Resp α}
    (follows : (Prog.call request next).Follows automaton phase) (response : Resp request) :
    (next response).Follows automaton (automaton.next phase request response) :=
  follows.2 response _ rfl

/-- What the requests that the automaton allows keep holds at the end of a run, in some phase. -/
theorem Prog.Follows.invariant {γ : Type u} {automaton : Automaton Call Resp Phase}
    {env : γ → (request : Call) → Resp request → γ → Prop} (good : Phase → γ → Prop)
    (preserved : ∀ phase before request response after, good phase before →
      automaton.allows phase request → env before request response after →
      good (automaton.next phase request response) after)
    {program : Prog Call Resp α} {phase : Phase} {state final : γ} {value : α}
    (follows : program.Follows automaton phase)
    (returns : program.Returns env state value final) (starts : good phase state) :
    ∃ phase, good phase final := by
  induction returns generalizing phase with
  | ret => exact ⟨phase, starts⟩
  | call request next response answered _ ih =>
      exact ih (follows.next response) (preserved _ _ _ _ _ starts follows.allows answered)

/-- An automaton with the answers that a program relies on in each phase. -/
structure Contract (Call : Type) (Resp : Call → Type) (Phase : Type v) extends
    Automaton Call Resp Phase where
  answers : Phase → (request : Call) → Resp request → Prop

/-- As long as the answers are those relied on, the program makes only requests that the
contract allows and returns with the postcondition. -/
def Prog.Meets (contract : Contract Call Resp Phase) (post : α → Phase → Prop)
    (program : Prog Call Resp α) (phase : Phase) : Prop :=
  program.Safe
    (fun before request response after => contract.answers before request response ∧
      after = contract.next before request response)
    contract.allows post phase

theorem Prog.Meets.next {contract : Contract Call Resp Phase} {post : α → Phase → Prop}
    {phase : Phase} {request : Call} {next : Resp request → Prog Call Resp α}
    (meets : (Prog.call request next).Meets contract post phase) {response : Resp request}
    (relied : contract.answers phase request response) :
    (next response).Meets contract post (contract.next phase request response) :=
  meets.2 response _ ⟨relied, rfl⟩

/-- Threads and the state of their environment. -/
structure Pool (Call : Type) (Resp : Call → Type) (α ι : Type) (σ : Type u) where
  threads : ι → Prog Call Resp α
  state : σ

namespace Pool

variable [DecidableEq ι] {env : ι → σ → (request : Call) → Resp request → σ → Prop}

/-- One thread makes its next request and the environment answers. -/
inductive Step (env : ι → σ → (request : Call) → Resp request → σ → Prop) :
    Pool Call Resp α ι σ → Pool Call Resp α ι σ → Prop
  | request (threads : ι → Prog Call Resp α) (state after : σ) (thread : ι) (request : Call)
      (next : Resp request → Prog Call Resp α) (response : Resp request)
      (requests : threads thread = .call request next)
      (answered : env thread state request response after) :
      Step env ⟨threads, state⟩ ⟨Function.update threads thread (next response), after⟩

/-- The pools that interleavings of the threads can produce. -/
def Reachable (env : ι → σ → (request : Call) → Resp request → σ → Prop)
    (start pool : Pool Call Resp α ι σ) : Prop :=
  Relation.ReflTransGen (Step env) start pool

/-- Every thread is in a phase of its automaton that its remaining program
follows, and the invariant relates the phases to the environment. -/
structure Governed (automaton : ι → Automaton Call Resp Phase)
    (invariant : (ι → Phase) → σ → Prop) (phases : ι → Phase) (pool : Pool Call Resp α ι σ) :
    Prop where
  follows : ∀ thread, (pool.threads thread).Follows (automaton thread) (phases thread)
  invariant : invariant phases pool.state

/-- An invariant kept by every allowed request governs every reachable pool. -/
theorem Reachable.governed {automaton : ι → Automaton Call Resp Phase}
    {invariant : (ι → Phase) → σ → Prop} {start pool : Pool Call Resp α ι σ}
    (preserved : ∀ phases state thread request response after, invariant phases state →
      (automaton thread).allows (phases thread) request →
      env thread state request response after →
      invariant (Function.update phases thread
        ((automaton thread).next (phases thread) request response)) after)
    {phases : ι → Phase} (initially : Governed automaton invariant phases start)
    (reachable : Reachable env start pool) :
    ∃ phases, Governed automaton invariant phases pool := by
  induction reachable with
  | refl => exact ⟨phases, initially⟩
  | tail _ step ih =>
      obtain ⟨current, governed⟩ := ih
      cases step with
      | request threads state after thread request next response requests answered =>
          have follows : (threads thread).Follows (automaton thread) (current thread) :=
            governed.follows thread
          rw [requests] at follows
          refine ⟨_, ?_, preserved current state thread request response after governed.invariant
            follows.allows answered⟩
          intro other
          by_cases same : other = thread
          · subst other
            simp only [Function.update_self]
            exact follows.next response
          · simp only [Function.update_of_ne same]
            exact governed.follows other

/-- Every thread is in a phase of its contract that its remaining program meets, and the
invariant relates the phases to the environment. -/
structure Supervised (contract : ι → Contract Call Resp Phase) (post : ι → α → Phase → Prop)
    (invariant : (ι → Phase) → σ → Prop) (phases : ι → Phase) (pool : Pool Call Resp α ι σ) :
    Prop where
  meets : ∀ thread, (pool.threads thread).Meets (contract thread) (post thread) (phases thread)
  invariant : invariant phases pool.state

/-- An invariant under which the environment answers as every thread relies on, and which
every answer keeps, supervises every reachable pool. -/
theorem Reachable.supervised {contract : ι → Contract Call Resp Phase}
    {post : ι → α → Phase → Prop} {invariant : (ι → Phase) → σ → Prop}
    {start pool : Pool Call Resp α ι σ}
    (preserved : ∀ phases state thread request response after, invariant phases state →
      (contract thread).allows (phases thread) request →
      env thread state request response after →
      (contract thread).answers (phases thread) request response ∧
        invariant (Function.update phases thread
          ((contract thread).next (phases thread) request response)) after)
    {phases : ι → Phase} (initially : Supervised contract post invariant phases start)
    (reachable : Reachable env start pool) :
    ∃ phases, Supervised contract post invariant phases pool := by
  induction reachable with
  | refl => exact ⟨phases, initially⟩
  | tail _ step ih =>
      obtain ⟨current, supervised⟩ := ih
      cases step with
      | request threads state after thread request next response requests answered =>
          have meets : (threads thread).Meets (contract thread) (post thread) (current thread) :=
            supervised.meets thread
          rw [requests] at meets
          obtain ⟨relied, kept⟩ := preserved current state thread request response after
            supervised.invariant meets.1 answered
          refine ⟨_, ?_, kept⟩
          intro other
          by_cases same : other = thread
          · subst other
            simp only [Function.update_self]
            exact meets.next relied
          · simp only [Function.update_of_ne same]
            exact supervised.meets other

omit [DecidableEq ι] in
/-- A thread of a supervised pool that has returned meets its postcondition. -/
theorem Supervised.post {contract : ι → Contract Call Resp Phase} {post : ι → α → Phase → Prop}
    {invariant : (ι → Phase) → σ → Prop} {phases : ι → Phase} {pool : Pool Call Resp α ι σ}
    (supervised : Supervised contract post invariant phases pool) {thread : ι} {value : α}
    (returned : pool.threads thread = .ret value) : post thread value (phases thread) := by
  have meets := supervised.meets thread
  rw [returned] at meets
  exact meets

/-! ## Runs end -/

/-- A program continues as one of its parts. -/
inductive Continues : Prog Call Resp α → Prog Call Resp α → Prop
  | next (request : Call) (next : Resp request → Prog Call Resp α) (response : Resp request) :
      Continues (next response) (.call request next)

theorem continues_wellFounded : WellFounded (Continues : Prog Call Resp α → Prog Call Resp α → Prop) := by
  constructor
  intro program
  induction program with
  | ret value => exact ⟨_, nofun⟩
  | call request next ih =>
      constructor
      rintro _ ⟨⟩
      exact ih _

/-- Finitely many threads have no endless run. -/
theorem step_wellFounded [Finite ι] :
    WellFounded (fun after before : Pool Call Resp α ι σ => Step env before after) := by
  have lexicographic := Pi.Lex.wellFounded (WellOrderingRel : ι → ι → Prop)
    fun _ => (continues_wellFounded : WellFounded (Continues : Prog Call Resp α → _ → Prop))
  refine Subrelation.wf ?_ (InvImage.wf Pool.threads lexicographic)
  rintro _ _ ⟨threads, state, final, thread, request, next, response, requests, answered⟩
  refine ⟨thread, ?_, ?_⟩
  · intro other earlier
    have different : other ≠ thread := by
      rintro rfl
      exact irrefl _ earlier
    exact Function.update_of_ne different _ _
  · change Continues (Function.update threads thread (next response) thread) (threads thread)
    rw [Function.update_self, requests]
    exact .next request next response

/-! ## Runs of one thread -/

/-- A thread makes its next request. -/
theorem Reachable.request {start : Pool Call Resp α ι σ} {threads : ι → Prog Call Resp α}
    {state after : σ} {thread : ι} {request : Call} {next : Resp request → Prog Call Resp α}
    {response : Resp request} (reached : Reachable env start ⟨threads, state⟩)
    (answered : env thread state request response after)
    (requests : threads thread = .call request next) :
    Reachable env start ⟨Function.update threads thread (next response), after⟩ :=
  reached.tail (.request threads state after thread request next response requests answered)

/-- A thread may run the first part of its program alone. -/
theorem Reachable.of_returns_bind {β : Type} {program : Prog Call Resp β}
    {rest : β → Prog Call Resp α} {thread : ι} {state final : σ} {value : β}
    (returns : program.Returns (env thread) state value final) {threads : ι → Prog Call Resp α}
    (requests : threads thread = program.bind rest) :
    Reachable env ⟨threads, state⟩ ⟨Function.update threads thread (rest value), final⟩ := by
  induction returns generalizing threads with
  | ret value state =>
      have unchanged : Function.update threads thread (rest value) = threads := by
        change threads thread = rest value at requests
        rw [← requests, Function.update_eq_self]
      rw [unchanged]
      exact .refl
  | call request next response answered _ ih =>
      have step : Step env ⟨threads, _⟩ ⟨Function.update threads thread _, _⟩ :=
        .request threads _ _ thread request _ response requests answered
      have continued := ih (Function.update_self thread ((next response).bind rest) threads)
      rw [Function.update_idem] at continued
      exact .head step continued

/-- A thread may run to its end alone. -/
theorem Reachable.of_returns {start : Pool Call Resp α ι σ} {thread : ι} {state final : σ}
    {value : α} {threads : ι → Prog Call Resp α}
    (reached : Reachable env start ⟨threads, state⟩)
    (returns : (threads thread).Returns (env thread) state value final) :
    Reachable env start ⟨Function.update threads thread (.ret value), final⟩ :=
  .trans reached (of_returns_bind returns (Prog.bind_ret _).symm)

/-- A thread may run the first part of its script alone. -/
theorem Reachable.of_returns_script {β ε ℓ : Type} {start : Pool Call Resp (Except ε α × ℓ) ι σ}
    {script : Script Call Resp ε ℓ β} {rest : β → Script Call Resp ε ℓ α} {before after : ℓ}
    {thread : ι} {state final : σ} {value : β} {threads : ι → Prog Call Resp (Except ε α × ℓ)}
    (reached : Reachable env start ⟨threads, state⟩)
    (requests : threads thread = (script >>= rest) before)
    (returns : (script before).Returns (env thread) state (.ok value, after) final) :
    Reachable env start ⟨Function.update threads thread (rest value after), final⟩ :=
  .trans reached (of_returns_bind returns requests)

/-- A thread goes on with its script. -/
theorem Reachable.continue_script {β ε ℓ : Type} {start : Pool Call Resp (Except ε α × ℓ) ι σ}
    {script : Script Call Resp ε ℓ β} {rest : β → Script Call Resp ε ℓ α} {before after : ℓ}
    {thread : ι} {state final : σ} {value : β} {threads : ι → Prog Call Resp (Except ε α × ℓ)}
    (reached : Reachable env start ⟨Function.update threads thread ((script >>= rest) before), state⟩)
    (returns : (script before).Returns (env thread) state (.ok value, after) final) :
    Reachable env start ⟨Function.update threads thread (rest value after), final⟩ := by
  have continued := reached.of_returns_script (Function.update_self _ _ _) returns
  rwa [Function.update_idem] at continued

/-! ## Executable runs -/

/-- Let one thread make its next request to a deterministic environment. -/
def advance (handler : ι → σ → (request : Call) → Resp request × σ) (pool : Pool Call Resp α ι σ)
    (thread : ι) : Pool Call Resp α ι σ :=
  match pool.threads thread with
  | .ret _ => pool
  | .call request next =>
      let answer := handler thread pool.state request
      ⟨Function.update pool.threads thread (next answer.1), answer.2⟩

/-- Let threads advance in the given order. -/
def schedule (handler : ι → σ → (request : Call) → Resp request × σ)
    (pool : Pool Call Resp α ι σ) (order : List ι) : Pool Call Resp α ι σ :=
  order.foldl (advance handler) pool

/-- A thread that moves the pool makes a step. -/
theorem step_of_advance_ne {handler : ι → σ → (request : Call) → Resp request × σ}
    {pool : Pool Call Resp α ι σ} {thread : ι}
    (sound : ∀ request, env thread pool.state request (handler thread pool.state request).1
      (handler thread pool.state request).2)
    (moves : advance handler pool thread ≠ pool) : Step env pool (advance handler pool thread) := by
  unfold advance at moves ⊢
  split at moves
  next => exact absurd rfl moves
  next request next requests =>
    exact .request pool.threads pool.state _ thread request next _ requests (sound request)

theorem advance_reachable {handler : ι → σ → (request : Call) → Resp request × σ}
    {pool : Pool Call Resp α ι σ} {thread : ι}
    (sound : ∀ request, env thread pool.state request (handler thread pool.state request).1
      (handler thread pool.state request).2) :
    Reachable env pool (advance handler pool thread) := by
  unfold advance
  split
  · exact .refl
  next request next requests =>
    exact .single (.request pool.threads pool.state _ thread request next _ requests
      (sound request))

/-- A deterministic environment that behaves as the relation allows produces
reachable pools. -/
theorem schedule_reachable {handler : ι → σ → (request : Call) → Resp request × σ}
    (sound : ∀ thread state request,
      env thread state request (handler thread state request).1 (handler thread state request).2)
    (pool : Pool Call Resp α ι σ) (order : List ι) :
    Reachable env pool (schedule handler pool order) := by
  induction order generalizing pool with
  | nil => exact .refl
  | cons thread rest ih => exact (advance_reachable (sound thread pool.state)).trans (ih _)

/-- Let threads advance in the given order; a thread that the guard excludes does
not move. -/
def scheduleIf (guard : ι → σ → Bool) (handler : ι → σ → (request : Call) → Resp request × σ)
    (pool : Pool Call Resp α ι σ) (order : List ι) : Pool Call Resp α ι σ :=
  order.foldl (fun pool thread => if guard thread pool.state then advance handler pool thread
    else pool) pool

theorem scheduleIf_reachable {guard : ι → σ → Bool}
    {handler : ι → σ → (request : Call) → Resp request × σ}
    (sound : ∀ thread state request, guard thread state = true →
      env thread state request (handler thread state request).1 (handler thread state request).2)
    (pool : Pool Call Resp α ι σ) (order : List ι) :
    Reachable env pool (scheduleIf guard handler pool order) := by
  induction order generalizing pool with
  | nil => exact .refl
  | cons thread rest ih =>
      rw [scheduleIf, List.foldl_cons]
      cases guarded : guard thread pool.state with
      | false => exact ih pool
      | true => exact (advance_reachable (sound thread pool.state · guarded)).trans (ih _)

end Pool

end DataLifecycle.Interaction
