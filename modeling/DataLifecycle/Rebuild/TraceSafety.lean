import DataLifecycle.Rebuild.Coordinator

/-!
# Rebuild trace safety

Every exit of a rebuild either discards the new generation without having tried to
activate it, or has tried to activate it once, after everything was written and
validated, and never discards it.
-/

namespace DataLifecycle.Rebuild

open Python Interaction

variable {F : Type}

/-- A call with its response. -/
abbrev RebuildCall (F : Type) := Σ hook : RebuildHook F, hook.Response

/-- The calls of a rebuild in order, each with whatever it returned or raised. -/
def Records (before : List (RebuildCall F)) (hook : RebuildHook F) (response : hook.Response)
    (after : List (RebuildCall F)) : Prop :=
  after = before ++ [⟨hook, response⟩]

/-- The number of `activate` calls. -/
def activations (trace : List (RebuildCall F)) : Nat :=
  trace.countP fun
    | ⟨.activate _ _ _, _⟩ => true
    | _ => false

/-- The generations that `discard` was called with. -/
def discards (trace : List (RebuildCall F)) : List Str :=
  trace.filterMap fun
    | ⟨.discard generationRef, _⟩ => some generationRef
    | _ => none

/-- The generations that `create_generation` has returned. -/
def creations (trace : List (RebuildCall F)) : List RebuildGeneration :=
  trace.filterMap fun
    | ⟨.createGeneration _ _, .ok generation⟩ => some generation
    | _ => none

/-- Nothing was created, activated or discarded. -/
structure Quiet (trace : List (RebuildCall F)) : Prop where
  creations : creations trace = []
  activations : activations trace = 0
  discards : discards trace = []

/-- The calls up to the new generation. -/
def opening (plan : RebuildPlan) (boundary : RebuildBoundary) (generation : RebuildGeneration) :
    List (RebuildCall F) := [
  ⟨.cancelled, .ok false⟩,
  ⟨.captureBoundary plan, .ok boundary⟩,
  ⟨.createGeneration plan boundary, .ok generation⟩]

/-- The calls that write the scanned batches. -/
def writing (plan : RebuildPlan) (generation : RebuildGeneration)
    (batches : List (List (PyValue F))) : List (RebuildCall F) :=
  batches.flatMap fun batch => [⟨.cancelled, .ok false⟩, ⟨.write plan generation batch, .ok ()⟩]

/-- The calls before the activation: every batch is written in scan order, then the
tail is applied, then the generation is validated. -/
def preparation (plan : RebuildPlan) (boundary : RebuildBoundary) (generation : RebuildGeneration)
    (batches : List (List (PyValue F))) (tail : RebuildTailResult)
    (validation : RebuildValidation) : List (RebuildCall F) :=
  opening plan boundary generation ++ [⟨.scan plan boundary, .ok ⟨batches, none⟩⟩] ++
    writing plan generation batches ++ [
      ⟨.cancelled, .ok false⟩,
      ⟨.tail plan generation boundary, .ok tail⟩,
      ⟨.cancelled, .ok false⟩,
      ⟨.validate plan generation boundary, .ok validation⟩]

/-- The new generation was discarded, and activating it was never tried. -/
structure Abandoned (generation : RebuildGeneration) (trace : List (RebuildCall F)) : Prop where
  creations : creations trace = [generation]
  activations : activations trace = 0
  discards : discards trace = [generation.generationRef]

/-- Activating the new generation was tried once, with the given response, after a
complete and valid preparation, and it was not discarded. -/
structure Attempted (plan : RebuildPlan) (boundary : RebuildBoundary)
    (generation : RebuildGeneration) (response : Except Exc RebuildActivation)
    (rest trace : List (RebuildCall F)) : Prop where
  creations : creations trace = [generation]
  activations : activations trace = 1
  discards : discards trace = []
  prepared : ∃ batches tail validation,
    trace = preparation plan boundary generation batches tail validation ++
      ⟨.activate plan generation generation.previousGenerationRef, response⟩ :: rest ∧
    (∀ batch ∈ batches, batch.length ≤ plan.batchSize) ∧
    validation.passed = true ∧ validation.sourceCount = validation.targetCount

/-- The rest of the calls of a rebuild that returns: the previous generation is
retained, then the evidence is recorded. -/
structure CutOver (plan : RebuildPlan) (generation : RebuildGeneration)
    (activation : RebuildActivation) (rest : List (RebuildCall F)) : Prop where
  previous_eq : activation.previousGenerationRef = generation.previousGenerationRef
  active_eq : activation.activeGenerationRef = generation.generationRef
  rest_eq : ∃ now activatedAt deadline evidence,
    ensureUtc "activated_at" now = .ok activatedAt ∧
    activatedAt.add plan.rollbackInterval = some deadline ∧
    rest = [
      ⟨.clock, .ok now⟩,
      ⟨.retain generation.previousGenerationRef deadline, .ok ()⟩,
      ⟨.record evidence, .ok ()⟩]

/-! ## Traces without activation -/

theorem quiet_append {first second : List (RebuildCall F)} :
    Quiet (first ++ second) ↔ Quiet first ∧ Quiet second := by
  constructor
  · rintro ⟨created, activated, discarded⟩
    rw [creations, List.filterMap_append, List.append_eq_nil_iff] at created
    rw [activations, List.countP_append, Nat.add_eq_zero_iff] at activated
    rw [discards, List.filterMap_append, List.append_eq_nil_iff] at discarded
    exact ⟨⟨created.1, activated.1, discarded.1⟩, created.2, activated.2, discarded.2⟩
  · rintro ⟨firstQuiet, secondQuiet⟩
    constructor
    · rw [creations, List.filterMap_append, ← creations, ← creations, firstQuiet.creations,
        secondQuiet.creations, List.nil_append]
    · rw [activations, List.countP_append, ← activations, ← activations, firstQuiet.activations,
        secondQuiet.activations]
    · rw [discards, List.filterMap_append, ← discards, ← discards, firstQuiet.discards,
        secondQuiet.discards, List.nil_append]

theorem quiet_writing (plan : RebuildPlan) (generation : RebuildGeneration)
    (batches : List (List (PyValue F))) : Quiet (writing plan generation batches) := by
  induction batches with
  | nil => exact ⟨rfl, rfl, rfl⟩
  | cons batch rest ih =>
      rw [writing, List.flatMap_cons, quiet_append]
      exact ⟨⟨rfl, rfl, rfl⟩, ih⟩

/-- The calls of a preparation after its opening. -/
theorem preparation_eq (plan : RebuildPlan) (boundary : RebuildBoundary)
    (generation : RebuildGeneration) (batches : List (List (PyValue F))) (tail : RebuildTailResult)
    (validation : RebuildValidation) :
    ∃ rest, Quiet rest ∧ preparation plan boundary generation batches tail validation =
      opening plan boundary generation ++ rest := by
  refine ⟨_, ?_, by rw [preparation, List.append_assoc, List.append_assoc]⟩
  rw [quiet_append, quiet_append]
  exact ⟨⟨rfl, rfl, rfl⟩, quiet_writing plan generation batches, rfl, rfl, rfl⟩

/-- The generations created by calls that open with one and then create none. -/
theorem creations_opening (plan : RebuildPlan) (boundary : RebuildBoundary)
    (generation : RebuildGeneration) {rest : List (RebuildCall F)} (none : creations rest = []) :
    creations (opening plan boundary generation ++ rest) = [generation] := by
  rw [creations, List.filterMap_append, ← creations, ← creations, none]
  rfl

/-- Calls after the activation that neither activate nor discard. -/
theorem attempted_of_quiet {plan : RebuildPlan} {boundary : RebuildBoundary}
    {generation : RebuildGeneration} {batches : List (List (PyValue F))} {tail : RebuildTailResult}
    {validation : RebuildValidation} {response : Except Exc RebuildActivation}
    {rest : List (RebuildCall F)} (sized : ∀ batch ∈ batches, batch.length ≤ plan.batchSize)
    (passed : validation.passed = true ∧ validation.sourceCount = validation.targetCount)
    (quiet : Quiet rest) :
    Attempted plan boundary generation response rest
      (preparation plan boundary generation batches tail validation ++
        ⟨.activate plan generation generation.previousGenerationRef, response⟩ :: rest) := by
  obtain ⟨before, beforeQuiet, prepared⟩ :=
    preparation_eq plan boundary generation batches tail validation
  constructor
  · rw [prepared, List.append_assoc]
    apply creations_opening
    rw [creations, List.filterMap_append, ← creations, beforeQuiet.creations,
      List.filterMap_cons_none rfl, ← creations, quiet.creations, List.nil_append]
  · rw [prepared, activations, List.countP_append, List.countP_append, ← activations, ← activations,
      beforeQuiet.activations, List.countP_cons, ← activations, quiet.activations]
    rfl
  · rw [prepared, discards, List.filterMap_append, List.filterMap_append, ← discards, ← discards,
      beforeQuiet.discards, List.filterMap_cons_none rfl, ← discards, quiet.discards]
    rfl
  · exact ⟨batches, tail, validation, rfl, sized, passed⟩

/-- A single `discard` after calls that neither activate nor discard. -/
theorem abandoned_of_quiet (plan : RebuildPlan) (boundary : RebuildBoundary)
    (generation : RebuildGeneration) (response : Except Exc Unit) {rest : List (RebuildCall F)}
    (quiet : Quiet rest) :
    Abandoned generation (opening plan boundary generation ++
      (rest ++ [⟨.discard generation.generationRef, response⟩])) := by
  constructor
  · apply creations_opening
    rw [creations, List.filterMap_append, ← creations, quiet.creations]
    rfl
  · rw [activations, List.countP_append, List.countP_append, ← activations, ← activations,
      quiet.activations]
    rfl
  · rw [discards, List.filterMap_append, List.filterMap_append, ← discards, ← discards,
      quiet.discards]
    rfl

/-- The rebuild has its new generation and has neither activated nor discarded it. -/
def Preparing (plan : RebuildPlan) (boundary : RebuildBoundary) (generation : RebuildGeneration)
    (trace : List (RebuildCall F)) : Prop :=
  ∃ rest, Quiet rest ∧ trace = opening plan boundary generation ++ rest

theorem Preparing.append {plan : RebuildPlan} {boundary : RebuildBoundary}
    {generation : RebuildGeneration} {trace calls : List (RebuildCall F)}
    (preparing : Preparing plan boundary generation trace) (quiet : Quiet calls) :
    Preparing plan boundary generation (trace ++ calls) := by
  obtain ⟨rest, restQuiet, rfl⟩ := preparing
  exact ⟨rest ++ calls, quiet_append.mpr ⟨restQuiet, quiet⟩, List.append_assoc _ _ _⟩

/-! ## The parts of a rebuild -/

namespace Rebuilding

section Parts

variable [FloatText F] {plan : RebuildPlan} {boundary : RebuildBoundary}
  {generation : RebuildGeneration} {α β : Type} {attempted : Bool} {trace : List (RebuildCall F)}
  {ends : Bool → List (RebuildCall F) → Prop}

/-- The part returns with the given postcondition, or raises where the rebuild may
end. -/
def Proceeds (ends : Bool → List (RebuildCall F) → Prop) (part : Rebuilding F α)
    (normal : α → Bool → List (RebuildCall F) → Prop) (attempted : Bool)
    (trace : List (RebuildCall F)) : Prop :=
  part.Safe Records (fun _ _ => True) normal (fun _ => ends) attempted trace

theorem proceeds_bind {normal : α → Bool → List (RebuildCall F) → Prop} {part : Rebuilding F β}
    {rest : β → Rebuilding F α}
    (proceeds : Proceeds ends part (fun value => Proceeds ends (rest value) normal) attempted
      trace) :
    Proceeds ends (part >>= rest) normal attempted trace :=
  Script.safe_bind.mpr proceeds

theorem proceeds_refuse {normal : Unit → Bool → List (RebuildCall F) → Prop} {condition : Prop}
    [Decidable condition] {error : Exc} (mayEnd : ends attempted trace)
    (goesOn : ¬ condition → normal () attempted trace) :
    Proceeds ends (Script.refuse condition error) normal attempted trace :=
  Script.safe_refuse.mpr ⟨fun _ => mayEnd, goesOn⟩

theorem proceeds_lift {normal : α → Bool → List (RebuildCall F) → Prop} {result : Except Exc α}
    (mayEnd : ends attempted trace)
    (goesOn : ∀ value, result = .ok value → normal value attempted trace) :
    Proceeds ends (Script.lift result) normal attempted trace := by
  cases result with
  | ok value => exact goesOn value rfl
  | error => exact mayEnd

theorem proceeds_request {hook : RebuildHook F}
    {normal : hook.Answer → Bool → List (RebuildCall F) → Prop}
    (mayEnd : ∀ error, ends attempted (trace ++ [⟨hook, .error error⟩]))
    (goesOn : ∀ answer, normal answer attempted (trace ++ [⟨hook, .ok answer⟩])) :
    Proceeds ends (request hook) normal attempted trace := by
  rw [Proceeds, request, Script.safe_invoke]
  refine ⟨trivial, ?_⟩
  rintro response _ rfl
  cases response with
  | ok answer => exact goesOn answer
  | error error => exact mayEnd error

theorem proceeds_raiseIfCancelled {normal : Unit → Bool → List (RebuildCall F) → Prop}
    (mayEnd : ∀ response, ends attempted (trace ++ [⟨.cancelled, response⟩]))
    (goesOn : normal () attempted (trace ++ [⟨.cancelled, .ok false⟩])) :
    Proceeds ends raiseIfCancelled normal attempted trace := by
  apply proceeds_bind
  apply proceeds_request
  · exact fun error => mayEnd (.error error)
  · intro isCancelled
    apply proceeds_refuse
    · exact mayEnd (.ok isCancelled)
    · intro notCancelled
      rw [Bool.not_eq_true] at notCancelled
      subst notCancelled
      exact goesOn

/-- Where the body of the `try` statement may raise. -/
def Ends (plan : RebuildPlan) (boundary : RebuildBoundary) (generation : RebuildGeneration)
    (attempted : Bool) (trace : List (RebuildCall F)) : Prop :=
  if attempted then ∃ response rest, Attempted plan boundary generation response rest trace
  else Preparing plan boundary generation trace

theorem proceeds_writeBatches {normal : Unit → Bool → List (RebuildCall F) → Prop}
    {batches : List (List (PyValue F))} (preparing : Preparing plan boundary generation trace)
    (goesOn : (∀ batch ∈ batches, batch.length ≤ plan.batchSize) →
      normal () false (trace ++ writing plan generation batches)) :
    Proceeds (Ends plan boundary generation) (writeBatches plan generation batches) normal false
      trace := by
  induction batches generalizing trace with
  | nil =>
      rw [writing, List.flatMap_nil, List.append_nil] at goesOn
      exact goesOn (List.forall_mem_nil _)
  | cons batch rest ih =>
      apply proceeds_bind
      apply proceeds_raiseIfCancelled
      · exact fun response => preparing.append ⟨rfl, rfl, rfl⟩
      have looked : Preparing plan boundary generation
          (trace ++ [⟨.cancelled, .ok false⟩]) := preparing.append ⟨rfl, rfl, rfl⟩
      apply proceeds_bind
      apply proceeds_refuse
      · exact looked
      intro small
      apply proceeds_bind
      apply proceeds_request
      · exact fun error => looked.append ⟨rfl, rfl, rfl⟩
      · intro _
        apply ih (looked.append ⟨rfl, rfl, rfl⟩)
        intro sized
        have all : ∀ other ∈ batch :: rest, other.length ≤ plan.batchSize :=
          List.forall_mem_cons.mpr ⟨not_lt.mp small, sized⟩
        have written := goesOn all
        rw [writing, List.flatMap_cons, ← writing, ← List.append_assoc] at written
        rw [List.append_assoc trace]
        exact written

/-- What follows the activation call. -/
theorem proceeds_cutOver {tail : RebuildTailResult} {validation : RebuildValidation}
    {batches : List (List (PyValue F))} {activation : RebuildActivation}
    {normal : RebuildEvidence → Bool → List (RebuildCall F) → Prop}
    (sized : ∀ batch ∈ batches, batch.length ≤ plan.batchSize)
    (passed : validation.passed = true ∧ validation.sourceCount = validation.targetCount)
    (goesOn : ∀ evidence rest, Quiet rest → CutOver plan generation activation rest →
      normal evidence true (preparation plan boundary generation batches tail validation ++
        ⟨.activate plan generation generation.previousGenerationRef, .ok activation⟩ :: rest)) :
    Proceeds (Ends plan boundary generation)
      (cutOver plan boundary generation tail validation activation) normal true
      (preparation plan boundary generation batches tail validation ++
        [⟨.activate plan generation generation.previousGenerationRef, .ok activation⟩]) := by
  have ends : ∀ rest : List (RebuildCall F), Quiet rest → Ends plan boundary generation true
      (preparation plan boundary generation batches tail validation ++
        [⟨.activate plan generation generation.previousGenerationRef, .ok activation⟩] ++ rest) := by
    intro rest quiet
    rw [List.append_assoc]
    exact ⟨_, rest, attempted_of_quiet sized passed quiet⟩
  have atOnce := ends [] ⟨rfl, rfl, rfl⟩
  rw [List.append_nil] at atOnce
  apply proceeds_bind
  apply proceeds_refuse
  · exact atOnce
  intro samePrevious
  apply proceeds_bind
  apply proceeds_refuse
  · exact atOnce
  intro sameActive
  apply proceeds_bind
  apply proceeds_request
  · exact fun error => ends _ ⟨rfl, rfl, rfl⟩
  intro now
  apply proceeds_bind
  apply proceeds_lift
  · exact ends _ ⟨rfl, rfl, rfl⟩
  intro activatedAt timeEq
  apply proceeds_bind
  apply proceeds_lift
  · exact ends _ ⟨rfl, rfl, rfl⟩
  intro deadline deadlineEq
  apply proceeds_bind
  apply proceeds_request
  · intro error
    rw [List.append_assoc]
    exact ends _ ⟨rfl, rfl, rfl⟩
  intro _
  rw [List.append_assoc]
  apply proceeds_bind
  apply proceeds_lift
  · exact ends _ ⟨rfl, rfl, rfl⟩
  intro cutover _
  apply proceeds_bind
  apply proceeds_lift
  · exact ends _ ⟨rfl, rfl, rfl⟩
  intro evidence _
  apply proceeds_bind
  apply proceeds_request
  · intro error
    rw [List.append_assoc]
    exact ends _ ⟨rfl, rfl, rfl⟩
  intro _
  have deadlineAdded : activatedAt.add plan.rollbackInterval = some deadline := by
    unfold rollbackUntil at deadlineEq
    split at deadlineEq
    · cases deadlineEq
      assumption
    · cases deadlineEq
  have returned := goesOn cutover [⟨.clock, .ok now⟩,
    ⟨.retain generation.previousGenerationRef deadline, .ok ()⟩, ⟨.record evidence, .ok ()⟩]
    ⟨rfl, rfl, rfl⟩ ⟨not_not.mp samePrevious, not_not.mp sameActive, now, activatedAt, deadline, evidence,
      timeEq, deadlineAdded, rfl⟩
  rw [not_not.mp samePrevious, List.append_assoc, List.append_assoc]
  exact returned

/-- The body of the `try` statement. -/
theorem proceeds_replaceGeneration :
    Proceeds (Ends plan boundary generation) (replaceGeneration plan boundary generation)
      (fun _ attempted trace => attempted = true ∧ ∃ activation rest,
        Attempted plan boundary generation (.ok activation) rest trace ∧
        CutOver plan generation activation rest) false
      (opening plan boundary generation : List (RebuildCall F)) := by
  have begun : Preparing plan boundary generation
      (opening plan boundary generation : List (RebuildCall F)) := ⟨[], ⟨rfl, rfl, rfl⟩, by simp⟩
  apply proceeds_bind
  apply proceeds_request
  · exact fun error => begun.append ⟨rfl, rfl, rfl⟩
  intro batches
  have scanned : Preparing plan boundary generation
      (opening plan boundary generation ++ [⟨.scan plan boundary, .ok batches⟩]) :=
    begun.append ⟨rfl, rfl, rfl⟩
  apply proceeds_bind
  apply proceeds_writeBatches scanned
  intro sized
  have written := scanned.append (quiet_writing plan generation batches.items)
  obtain ⟨items, failure⟩ := batches
  apply proceeds_bind
  cases failure with
  | some error => exact written
  | none =>
      apply proceeds_bind
      apply proceeds_raiseIfCancelled
      · exact fun response => written.append ⟨rfl, rfl, rfl⟩
      have looked : Preparing plan boundary generation _ := written.append
        (⟨rfl, rfl, rfl⟩ : Quiet [(⟨.cancelled, .ok false⟩ : RebuildCall F)])
      apply proceeds_bind
      apply proceeds_request
      · exact fun error => looked.append ⟨rfl, rfl, rfl⟩
      intro tail
      have tailed : Preparing plan boundary generation _ := looked.append
        (⟨rfl, rfl, rfl⟩ : Quiet [(⟨.tail plan generation boundary, .ok tail⟩ : RebuildCall F)])
      apply proceeds_bind
      apply proceeds_raiseIfCancelled
      · exact fun response => tailed.append ⟨rfl, rfl, rfl⟩
      have relooked : Preparing plan boundary generation _ := tailed.append
        (⟨rfl, rfl, rfl⟩ : Quiet [(⟨.cancelled, .ok false⟩ : RebuildCall F)])
      apply proceeds_bind
      apply proceeds_request
      · exact fun error => relooked.append ⟨rfl, rfl, rfl⟩
      intro validation
      apply proceeds_bind
      apply proceeds_refuse
      · exact relooked.append ⟨rfl, rfl, rfl⟩
      intro valid
      rw [not_or, Bool.not_eq_false, not_not] at valid
      -- the calls so far are the preparation
      have prepared : opening plan boundary generation ++
          [⟨.scan plan boundary, .ok ⟨items, none⟩⟩] ++ writing plan generation items ++
          [⟨.cancelled, .ok false⟩] ++ [⟨.tail plan generation boundary, .ok tail⟩] ++
          [⟨.cancelled, .ok false⟩] ++ [⟨.validate plan generation boundary, .ok validation⟩] =
          preparation plan boundary generation items tail validation := by
        simp [preparation]
      rw [prepared]
      apply proceeds_bind
      change Proceeds (Ends plan boundary generation) _ _ true _
      apply proceeds_bind
      apply proceeds_request
      · exact fun error => ⟨_, [], attempted_of_quiet sized valid ⟨rfl, rfl, rfl⟩⟩
      intro activation
      apply proceeds_cutOver sized valid
      intro evidence rest quiet cutOver
      exact ⟨rfl, activation, rest, attempted_of_quiet sized valid quiet, cutOver⟩

end Parts

/-- Rebuild trace safety, for every plan and whatever the hooks answer.  A rebuild
that raises has created no generation, or has discarded it once without ever
calling `activate`, or has called `activate` once after a complete and valid
preparation and never discards.  One that returns has activated exactly the new
generation over the captured previous one, and retained the latter until the end of
the rollback interval before recording the evidence. -/
theorem rebuild_trace_safety [FloatText F] (plan : RebuildPlan) :
    (rebuild plan : Rebuilding F RebuildEvidence).Safe Records (fun _ _ => True)
      (fun _ _ trace => ∃ boundary generation activation rest,
        Attempted plan boundary generation (.ok activation) rest trace ∧
        CutOver plan generation activation rest)
      (fun _ _ trace => Quiet trace ∨ ∃ boundary generation, Abandoned generation trace ∨
        ∃ response rest, Attempted plan boundary generation response rest trace)
      false [] := by
  let ends : Bool → List (RebuildCall F) → Prop := fun _ trace =>
    Quiet trace ∨ ∃ boundary generation, Abandoned generation trace ∨
      ∃ response rest, Attempted plan boundary generation response rest trace
  change Proceeds ends (rebuild plan) _ false []
  apply proceeds_bind
  apply proceeds_raiseIfCancelled
  · exact fun response => .inl ⟨rfl, rfl, rfl⟩
  apply proceeds_bind
  apply proceeds_request
  · exact fun error => .inl ⟨rfl, rfl, rfl⟩
  intro boundary
  apply proceeds_bind
  apply proceeds_request
  · exact fun error => .inl ⟨rfl, rfl, rfl⟩
  intro generation
  apply Script.safe_tryFinally.mpr
  apply Script.Safe.mono proceeds_replaceGeneration
  · rintro evidence _ trace ⟨rfl, activation, rest, attempted, cutOver⟩
    exact ⟨boundary, generation, activation, rest, attempted, cutOver⟩
  · intro error attempted trace ended
    cases attempted with
    | true =>
        obtain ⟨response, rest, attempted⟩ := ended
        exact .inr ⟨boundary, generation, .inr ⟨response, rest, attempted⟩⟩
    | false =>
        obtain ⟨rest, quiet, rfl⟩ := ended
        have abandoned : ∀ response, ends false
            (opening plan boundary generation ++ rest ++
              [⟨.discard generation.generationRef, response⟩]) := by
          intro response
          rw [List.append_assoc]
          exact .inr ⟨boundary, generation,
            .inl (abandoned_of_quiet plan boundary generation response quiet)⟩
        change Proceeds ends (request (.discard generation.generationRef)) _ false _
        apply proceeds_request
        · exact fun error => abandoned (.error error)
        · exact fun answer => abandoned (.ok answer)

end Rebuilding

end DataLifecycle.Rebuild
