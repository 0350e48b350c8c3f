import Mathlib.Logic.Basic
import Mathlib.Data.List.Basic

/-!
# Runs of a shared object

A shared object answers one call after another, whoever makes them: any interleaving of its
users is a list of calls.  A run leaves a history, the calls with their replies, and every
event of a history was answered by the state that the events before it have led to.
-/

namespace DataLifecycle.Interaction

variable {State Call Reply : Type}

/-- Answer calls one after another: the state at the end, and the history. -/
def runCalls (step : State → Call → Reply × State) (state : State) :
    List Call → State × List (Call × Reply)
  | [] => (state, [])
  | call :: rest =>
      let answer := step state call
      let final := runCalls step answer.2 rest
      (final.1, (call, answer.1) :: final.2)

variable {step : State → Call → Reply × State}

theorem runCalls_cons (state : State) (call : Call) (rest : List Call) :
    runCalls step state (call :: rest) =
      ((runCalls step (step state call).2 rest).1,
        (call, (step state call).1) :: (runCalls step (step state call).2 rest).2) :=
  rfl

/-- What one more call keeps, between the history so far and the state, holds at the end of
every run. -/
theorem runCalls_induction {property : List (Call × Reply) → State → Prop}
    (preserved : ∀ history state call, property history state →
      property (history ++ [(call, (step state call).1)]) (step state call).2)
    (calls : List Call) {history : List (Call × Reply)} {state : State}
    (initially : property history state) :
    property (history ++ (runCalls step state calls).2) (runCalls step state calls).1 := by
  induction calls generalizing history state with
  | nil =>
      rw [runCalls, List.append_nil]
      exact initially
  | cons call rest inductionHypothesis =>
      have continued := inductionHypothesis (preserved history state call initially)
      rwa [List.append_assoc, List.singleton_append] at continued

/-- Every event of a history splits the run in two. -/
theorem runCalls_split {state : State} {calls : List Call} {earlier later : List (Call × Reply)}
    {event : Call × Reply} (history : (runCalls step state calls).2 = earlier ++ event :: later) :
    ∃ first last, calls = first ++ event.1 :: last ∧ (runCalls step state first).2 = earlier ∧
      (step (runCalls step state first).1 event.1).1 = event.2 ∧
      (runCalls step (step (runCalls step state first).1 event.1).2 last).2 = later := by
  induction calls generalizing state earlier with
  | nil => cases earlier <;> cases history
  | cons call rest inductionHypothesis =>
      rw [runCalls_cons] at history
      cases earlier with
      | nil =>
          obtain ⟨rfl, rest⟩ := List.cons.inj history
          exact ⟨[], _, rfl, rfl, rfl, rest⟩
      | cons first earlier =>
          obtain ⟨rfl, tail⟩ := List.cons.inj history
          obtain ⟨before, last, rfl, earlierEq, answered, laterEq⟩ := inductionHypothesis tail
          refine ⟨call :: before, last, rfl, ?_, answered, laterEq⟩
          rw [runCalls_cons, earlierEq]

end DataLifecycle.Interaction
