import DataLifecycle.Interaction.Machine
import DataLifecycle.Portability.Export

/-!
# Artifacts under concurrent exports

Any number of exports may share one `InMemoryLogicalArtifacts`.  Its lock makes every call
atomic, so their calls come in some interleaving.  A handle belongs to the export that began
it: what a finished artifact holds is what was written to its handle, whole and in order.
-/

namespace DataLifecycle.Portability

open Python Interaction

/-! ## Calls -/

/-- The calls on an artifact sink and source.  Handles are the integers that the sink gives
out. -/
inductive ArtifactCall
  | beginPartition (partitionId : Str)
  | write (handle : Nat) (chunk : Bytes)
  | finishPartition (handle : Nat) (partitionId : Str)
  | chunks (artifactRef : Str)

/-- What a successful call returns. -/
inductive ArtifactReply
  | none
  | handle (handle : Nat)
  | reference (artifactRef : Str)
  | chunks (chunks : List Bytes)

/-- A call with its result. -/
abbrev ArtifactEvent := ArtifactCall × Except Exc ArtifactReply

namespace InMemoryLogicalArtifacts

/-- What `chunks` yields of a stored content. -/
def yielded (content : Bytes) : List Bytes := if content = [] then [] else [content]

/-- `chunks`. -/
def chunks (sink : InMemoryLogicalArtifacts) (artifactRef : Str) : Except Exc (List Bytes) :=
  match sink.artifacts.get? artifactRef with
  | some content => .ok (yielded content)
  | none => .error keyError

/-- Execute one call. -/
def step (sink : InMemoryLogicalArtifacts) :
    ArtifactCall → Except Exc ArtifactReply × InMemoryLogicalArtifacts
  | .beginPartition _ => sink.beginPartition.map (·.map .handle) id
  | .write handle chunk => (sink.write handle chunk).map (·.map fun _ => .none) id
  | .finishPartition handle partitionId =>
      (sink.finishPartition handle partitionId).map (·.map .reference) id
  | .chunks artifactRef => ((sink.chunks artifactRef).map .chunks, sink)

end InMemoryLogicalArtifacts

/-! ## What a history says of a handle -/

namespace ArtifactEvent

/-- The call begins the handle. -/
def Begins (handle : Nat) (event : ArtifactEvent) : Prop := event.2 = .ok (.handle handle)

/-- The call finishes the handle. -/
def Finishes (handle : Nat) : ArtifactEvent → Prop
  | (.finishPartition other _, .ok _) => other = handle
  | _ => False

/-- What the call writes to the handle. -/
def chunkFor (handle : Nat) : ArtifactEvent → Bytes
  | (.write other chunk, .ok _) => if other = handle then chunk else []
  | _ => []

/-- The call needs the handle to be pending. -/
def Uses (handle : Nat) : ArtifactCall → Prop
  | .write other _ => other = handle
  | .finishPartition other _ => other = handle
  | _ => False

end ArtifactEvent

/-- Everything that a history has written to a handle. -/
def written (handle : Nat) (history : List ArtifactEvent) : Bytes :=
  history.flatMap (ArtifactEvent.chunkFor handle)

/-- The handle is begun and not finished. -/
structure Open (handle : Nat) (history : List ArtifactEvent) : Prop where
  begun : ∃ event ∈ history, ArtifactEvent.Begins handle event
  unfinished : ∀ event ∈ history, ¬ ArtifactEvent.Finishes handle event

theorem written_append (handle : Nat) (first second : List ArtifactEvent) :
    written handle (first ++ second) = written handle first ++ written handle second :=
  List.flatMap_append

theorem open_concat {handle : Nat} {history : List ArtifactEvent} {event : ArtifactEvent}
    (notBegins : ¬ ArtifactEvent.Begins handle event)
    (notFinishes : ¬ ArtifactEvent.Finishes handle event) :
    Open handle (history ++ [event]) ↔ Open handle history := by
  constructor
  · rintro ⟨⟨begin, member, begins⟩, unfinished⟩
    rw [List.forall_mem_append] at unfinished
    refine ⟨⟨begin, ?_, begins⟩, unfinished.1⟩
    rcases List.mem_append.mp member with earlier | last
    · exact earlier
    · rw [List.mem_singleton.mp last] at begins
      exact absurd begins notBegins
  · rintro ⟨⟨begin, member, begins⟩, unfinished⟩
    refine ⟨⟨begin, List.mem_append_left _ member, begins⟩, ?_⟩
    exact List.forall_mem_append.mpr ⟨unfinished, List.forall_mem_singleton.mpr notFinishes⟩

/-- The sink is what its history says. -/
structure Explained (history : List ArtifactEvent) (sink : InMemoryLogicalArtifacts) : Prop where
  -- handles that have not been given out yet
  fresh : ∀ handle, sink.nextHandle < handle →
    (∀ event ∈ history, ¬ ArtifactEvent.Begins handle event ∧
      ¬ ArtifactEvent.Finishes handle event) ∧ written handle history = []
  pending : ∀ handle content, sink.pending.get? handle = some content ↔
    Open handle history ∧ content = written handle history
  addressed : ∀ artifactRef content, sink.artifacts.get? artifactRef = some content →
    ∃ partitionId, artifactRef = InMemoryLogicalArtifacts.reference partitionId content
  stored : ∀ call artifactRef, (call, .ok (.reference artifactRef)) ∈ history →
    ∃ content, sink.artifacts.get? artifactRef = some content

theorem explained_empty : Explained [] InMemoryLogicalArtifacts.empty where
  fresh _ _ := ⟨List.forall_mem_nil _, rfl⟩
  pending handle content := by
    constructor
    · intro found
      cases found
    · rintro ⟨⟨⟨event, member, -⟩, -⟩, -⟩
      cases member
  addressed _ _ found := by cases found
  stored _ _ member := by cases member

/-- A call that leaves the sink alone, and neither begins, finishes nor writes. -/
theorem Explained.quiet {history : List ArtifactEvent} {sink : InMemoryLogicalArtifacts}
    (explained : Explained history sink) {event : ArtifactEvent}
    (notBegins : ∀ handle, ¬ ArtifactEvent.Begins handle event)
    (notFinishes : ∀ handle, ¬ ArtifactEvent.Finishes handle event)
    (silent : ∀ handle, ArtifactEvent.chunkFor handle event = [])
    (unstored : ∀ artifactRef, event.2 ≠ .ok (.reference artifactRef)) :
    Explained (history ++ [event]) sink := by
  have same : ∀ handle, written handle (history ++ [event]) = written handle history := by
    intro handle
    rw [written_append, written, written, List.flatMap_singleton, silent, List.append_nil]
  constructor
  · intro handle unused
    obtain ⟨untouched, nothing⟩ := explained.fresh handle unused
    rw [same]
    refine ⟨List.forall_mem_append.mpr ⟨untouched, List.forall_mem_singleton.mpr ?_⟩, nothing⟩
    exact ⟨notBegins handle, notFinishes handle⟩
  · intro handle content
    rw [open_concat (notBegins handle) (notFinishes handle), same]
    exact explained.pending handle content
  · exact explained.addressed
  · intro call artifactRef member
    rcases List.mem_append.mp member with earlier | last
    · exact explained.stored call artifactRef earlier
    · rw [← List.mem_singleton.mp last] at unstored
      exact absurd rfl (unstored artifactRef)

section Steps

variable {history : List ArtifactEvent} {sink : InMemoryLogicalArtifacts}

/-- A pending handle has been given out. -/
theorem Explained.le_nextHandle (explained : Explained history sink) {handle : Nat}
    {content : Bytes} (pending : sink.pending.get? handle = some content) :
    handle ≤ sink.nextHandle := by
  by_contra unused
  obtain ⟨⟨⟨event, member, begins⟩, -⟩, -⟩ := (explained.pending handle content).mp pending
  exact ((explained.fresh handle (not_le.mp unused)).1 event member).1 begins

/-- A call that raises and leaves the sink alone. -/
theorem Explained.raise (explained : Explained history sink) (call : ArtifactCall) (error : Exc) :
    Explained (history ++ [(call, .error error)]) sink := by
  apply explained.quiet
  · exact fun handle => nofun
  · intro handle
    cases call <;> exact not_false
  · intro handle
    cases call <;> rfl
  · exact fun artifactRef => nofun

theorem Explained.read (explained : Explained history sink) (artifactRef : Str)
    (chunks : List Bytes) :
    Explained (history ++ [(.chunks artifactRef, .ok (.chunks chunks))]) sink := by
  apply explained.quiet
  · rintro handle ⟨⟩
  · exact fun handle => not_false
  · exact fun handle => rfl
  · rintro other ⟨⟩

theorem Explained.begin (explained : Explained history sink) (partitionId : Str) :
    Explained (history ++ [(.beginPartition partitionId, .ok (.handle (sink.nextHandle + 1)))])
      { sink with
        pending := sink.pending.set (sink.nextHandle + 1) []
        nextHandle := sink.nextHandle + 1 } := by
  have begins : ∀ handle, ArtifactEvent.Begins handle
      (.beginPartition partitionId, .ok (.handle (sink.nextHandle + 1))) ↔
      handle = sink.nextHandle + 1 := by
    intro handle
    rw [ArtifactEvent.Begins, Except.ok.injEq, ArtifactReply.handle.injEq, eq_comm]
  have same : ∀ handle, written handle (history ++
      [(.beginPartition partitionId, .ok (.handle (sink.nextHandle + 1)))]) =
      written handle history := by
    intro handle
    rw [written_append]
    exact List.append_nil _
  obtain ⟨untouched, nothing⟩ := explained.fresh (sink.nextHandle + 1) (Nat.lt_succ_self _)
  constructor
  · intro handle unused
    change sink.nextHandle + 1 < handle at unused
    obtain ⟨others, empty⟩ := explained.fresh handle (Nat.lt_of_succ_lt unused)
    rw [same]
    refine ⟨List.forall_mem_append.mpr ⟨others, List.forall_mem_singleton.mpr ⟨?_, ?_⟩⟩, empty⟩
    · rw [begins]
      exact unused.ne'
    · exact not_false
  · intro handle content
    rw [same]
    by_cases own : handle = sink.nextHandle + 1
    · subst own
      rw [Dict.get?_set_self, Option.some.injEq, nothing, eq_comm, iff_and_self]
      rintro -
      refine ⟨⟨_, List.mem_append_right _ List.mem_cons_self, (begins _).mpr rfl⟩, ?_⟩
      refine List.forall_mem_append.mpr ⟨fun event member => (untouched event member).2, ?_⟩
      exact List.forall_mem_singleton.mpr not_false
    · rw [Dict.get?_set_of_ne _ _ (Ne.symm own), open_concat (mt (begins handle).mp own) not_false]
      exact explained.pending handle content
  · exact explained.addressed
  · intro call artifactRef member
    rcases List.mem_append.mp member with earlier | last
    · exact explained.stored call artifactRef earlier
    · cases List.mem_singleton.mp last

theorem Explained.write (explained : Explained history sink) {handle : Nat} {before : Bytes}
    (pending : sink.pending.get? handle = some before) (chunk : Bytes) :
    Explained (history ++ [(.write handle chunk, .ok .none)])
      { sink with pending := sink.pending.set handle (before ++ chunk) } := by
  have given := explained.le_nextHandle pending
  have others : ∀ other, handle ≠ other →
      written other (history ++ [(.write handle chunk, .ok .none)]) = written other history := by
    intro other different
    rw [written_append, written, written, List.flatMap_singleton, ArtifactEvent.chunkFor,
      if_neg different, List.append_nil]
  constructor
  · intro other unused
    obtain ⟨untouched, nothing⟩ := explained.fresh other unused
    rw [others other (given.trans_lt unused).ne]
    exact ⟨List.forall_mem_append.mpr ⟨untouched, List.forall_mem_singleton.mpr ⟨nofun, not_false⟩⟩,
      nothing⟩
  · intro other content
    have quiet : Open other (history ++ [(.write handle chunk, .ok .none)]) ↔
        Open other history := open_concat nofun not_false
    rw [quiet]
    by_cases own : handle = other
    · subst own
      obtain ⟨isOpen, equal⟩ := (explained.pending handle before).mp pending
      rw [Dict.get?_set_self, Option.some.injEq, written_append, ← equal, eq_comm,
        and_iff_right isOpen]
      refine Eq.congr_right (congrArg (before ++ ·) ?_)
      rw [written, List.flatMap_singleton, ArtifactEvent.chunkFor, if_pos rfl]
    · rw [Dict.get?_set_of_ne _ _ own, others other own]
      exact explained.pending other content
  · exact explained.addressed
  · intro call artifactRef member
    rcases List.mem_append.mp member with earlier | last
    · exact explained.stored call artifactRef earlier
    · cases List.mem_singleton.mp last

theorem Explained.finish (explained : Explained history sink) {handle : Nat} {content : Bytes}
    (pending : sink.pending.get? handle = some content) (partitionId : Str) :
    Explained (history ++ [(.finishPartition handle partitionId,
        .ok (.reference (InMemoryLogicalArtifacts.reference partitionId content)))])
      { sink with
        pending := sink.pending.erase handle
        artifacts := sink.artifacts.set (InMemoryLogicalArtifacts.reference partitionId content)
          content } := by
  generalize referenceEq : InMemoryLogicalArtifacts.reference partitionId content = artifactRef
  have given := explained.le_nextHandle pending
  have same : ∀ other, written other (history ++
      [(.finishPartition handle partitionId, .ok (.reference artifactRef))]) =
      written other history := by
    intro other
    rw [written_append]
    exact List.append_nil _
  constructor
  · intro other unused
    obtain ⟨untouched, nothing⟩ := explained.fresh other unused
    rw [same]
    refine ⟨List.forall_mem_append.mpr ⟨untouched, List.forall_mem_singleton.mpr ⟨nofun, ?_⟩⟩,
      nothing⟩
    exact (given.trans_lt unused).ne
  · intro other found
    rw [same, Dict.get?_erase]
    by_cases own : handle = other
    · rw [if_pos own]
      refine iff_of_false nofun ?_
      rintro ⟨⟨-, unfinished⟩, -⟩
      exact unfinished _ (List.mem_append_right _ List.mem_cons_self) own
    · have quiet : Open other (history ++
          [(.finishPartition handle partitionId, .ok (.reference artifactRef))]) ↔
          Open other history := open_concat nofun own
      rw [if_neg own, quiet]
      exact explained.pending other found
  · intro other found stored
    by_cases own : artifactRef = other
    · subst own
      rw [Dict.get?_set_self, Option.some.injEq] at stored
      subst stored
      exact ⟨partitionId, referenceEq.symm⟩
    · rw [Dict.get?_set_of_ne _ _ own] at stored
      exact explained.addressed other found stored
  · intro call other member
    rw [Dict.get?_set]
    split
    next => exact ⟨content, rfl⟩
    next different =>
      rcases List.mem_append.mp member with earlier | last
      · exact explained.stored call other earlier
      · cases List.mem_singleton.mp last
        exact absurd rfl different

/-- Every call keeps the sink what its history says. -/
theorem Explained.step (explained : Explained history sink) (call : ArtifactCall) :
    Explained (history ++ [(call, (sink.step call).1)]) (sink.step call).2 := by
  cases call with
  | beginPartition partitionId => exact explained.begin partitionId
  | write handle chunk =>
      rw [InMemoryLogicalArtifacts.step, InMemoryLogicalArtifacts.write]
      cases pending : sink.pending.get? handle with
      | none => exact explained.raise _ _
      | some before => exact explained.write pending chunk
  | finishPartition handle partitionId =>
      rw [InMemoryLogicalArtifacts.step, InMemoryLogicalArtifacts.finishPartition]
      cases pending : sink.pending.get? handle with
      | none => exact explained.raise _ _
      | some content => exact explained.finish pending partitionId
  | chunks artifactRef =>
      rw [InMemoryLogicalArtifacts.step, InMemoryLogicalArtifacts.chunks]
      cases sink.artifacts.get? artifactRef with
      | none => exact explained.raise _ _
      | some content => exact explained.read artifactRef _

theorem explained_run (explained : Explained history sink) (calls : List ArtifactCall) :
    Explained (history ++ (runCalls InMemoryLogicalArtifacts.step sink calls).2)
      (runCalls InMemoryLogicalArtifacts.step sink calls).1 :=
  runCalls_induction (fun _ _ call explained => explained.step call) calls explained

end Steps

/-! ## Whole runs -/

/-- Two contents with the same SHA-256 digest. -/
def Collides (content : Bytes) : Prop :=
  ∃ other, other ≠ content ∧ sha256Hex other = sha256Hex content

theorem content_of_reference {first second : Str} {content other : Bytes}
    (same : InMemoryLogicalArtifacts.reference first content =
      InMemoryLogicalArtifacts.reference second other) : other = content ∨ Collides content := by
  by_cases equal : other = content
  · exact .inl equal
  · refine .inr ⟨other, equal, ?_⟩
    have lengths : (sha256Hex content).length = (sha256Hex other).length := by
      rw [length_sha256Hex, length_sha256Hex]
    rw [InMemoryLogicalArtifacts.reference, InMemoryLogicalArtifacts.reference] at same
    exact (List.append_inj' same lengths).2.symm

/-- An event of a run was answered by a sink that the earlier events explain. -/
theorem exists_explained {calls : List ArtifactCall} {earlier later : List ArtifactEvent}
    {event : ArtifactEvent}
    (history : (runCalls InMemoryLogicalArtifacts.step .empty calls).2 = earlier ++ event :: later) :
    ∃ sink, Explained earlier sink ∧ (sink.step event.1).1 = event.2 := by
  obtain ⟨first, last, -, rfl, answered, -⟩ := runCalls_split history
  exact ⟨_, explained_run explained_empty first, answered⟩

/-- A handle is given out once, before anything is written to it. -/
theorem unused_of_begins {calls : List ArtifactCall} {earlier later : List ArtifactEvent}
    {event : ArtifactEvent} {handle : Nat}
    (history : (runCalls InMemoryLogicalArtifacts.step .empty calls).2 = earlier ++ event :: later)
    (begins : ArtifactEvent.Begins handle event) :
    (∀ other ∈ earlier, ¬ ArtifactEvent.Begins handle other) ∧ written handle earlier = [] := by
  obtain ⟨sink, explained, answered⟩ := exists_explained history
  rw [begins] at answered
  have given : handle = sink.nextHandle + 1 := by
    obtain ⟨call, result⟩ := event
    cases call with
    | beginPartition partitionId =>
        cases answered
        rfl
    | write other chunk =>
        simp only [InMemoryLogicalArtifacts.step, InMemoryLogicalArtifacts.write] at answered
        split at answered <;> cases answered
    | finishPartition other partitionId =>
        simp only [InMemoryLogicalArtifacts.step,
          InMemoryLogicalArtifacts.finishPartition] at answered
        split at answered <;> cases answered
    | chunks artifactRef =>
        simp only [InMemoryLogicalArtifacts.step, InMemoryLogicalArtifacts.chunks] at answered
        split at answered <;> cases answered
  obtain ⟨untouched, nothing⟩ := explained.fresh handle (by omega)
  exact ⟨fun other member => (untouched other member).1, nothing⟩

/-- The content of a handle that a call has finished. -/
theorem pending_of_finished {sink : InMemoryLogicalArtifacts} {handle : Nat}
    {partitionId artifactRef : Str}
    (finished : (sink.step (.finishPartition handle partitionId)).1 =
      .ok (.reference artifactRef)) :
    ∃ content, sink.pending.get? handle = some content ∧
      artifactRef = InMemoryLogicalArtifacts.reference partitionId content := by
  simp only [InMemoryLogicalArtifacts.step, InMemoryLogicalArtifacts.finishPartition] at finished
  split at finished
  next content pending =>
    cases finished
    exact ⟨content, pending, rfl⟩
  next => cases finished

/-- A handle that is not pending is refused. -/
theorem refused_of_notPending {sink : InMemoryLogicalArtifacts} {handle : Nat}
    (notPending : sink.pending.get? handle = none) {call : ArtifactCall}
    (uses : ArtifactEvent.Uses handle call) :
    (sink.step call).1 = .error InMemoryLogicalArtifacts.keyError := by
  cases call with
  | write other chunk =>
      cases uses
      simp only [InMemoryLogicalArtifacts.step, InMemoryLogicalArtifacts.write, notPending]
      rfl
  | finishPartition other partitionId =>
      cases uses
      simp only [InMemoryLogicalArtifacts.step, InMemoryLogicalArtifacts.finishPartition,
        notPending]
      rfl
  | _ => cases uses

/-- A finished artifact under any interleaving of exports.  Its reference names everything
that was written to its handle, in order, since the one call that began the handle.  From
then on the handle is refused and never given out again, and the reference always yields
that content, short of a collision of SHA-256. -/
theorem finished_artifact_is_whole (calls : List ArtifactCall) (handle : Nat)
    (partitionId artifactRef : Str) (earlier later : List ArtifactEvent)
    (history : (runCalls InMemoryLogicalArtifacts.step .empty calls).2 =
      earlier ++ (.finishPartition handle partitionId, .ok (.reference artifactRef)) :: later) :
    artifactRef = InMemoryLogicalArtifacts.reference partitionId (written handle earlier) ∧
    (∃ before begin between, earlier = before ++ begin :: between ∧
      ArtifactEvent.Begins handle begin ∧ written handle before = [] ∧
      ∀ event ∈ before ++ between ++ later, ¬ ArtifactEvent.Begins handle event) ∧
    (∀ event ∈ later, ArtifactEvent.Uses handle event.1 →
      event.2 = .error InMemoryLogicalArtifacts.keyError) ∧
    ∀ result, (.chunks artifactRef, result) ∈ later →
      result = .ok (.chunks (InMemoryLogicalArtifacts.yielded (written handle earlier))) ∨
        Collides (written handle earlier) := by
  obtain ⟨sink, explained, finished⟩ := exists_explained history
  obtain ⟨content, pending, referenceEq⟩ := pending_of_finished finished
  obtain ⟨isOpen, contentEq⟩ := (explained.pending handle content).mp pending
  rw [contentEq] at referenceEq
  -- the history before a later event contains the end of the handle
  have laterSplit : ∀ event ∈ later, ∃ front back,
      (runCalls InMemoryLogicalArtifacts.step .empty calls).2 = front ++ event :: back ∧
        earlier ⊆ front ∧
        (.finishPartition handle partitionId, .ok (.reference artifactRef)) ∈ front := by
    intro event member
    obtain ⟨middle, back, rfl⟩ := List.append_of_mem member
    refine ⟨earlier ++ (.finishPartition handle partitionId, .ok (.reference artifactRef)) ::
      middle, back, ?_, ?_, ?_⟩
    · rw [history, List.append_assoc, List.cons_append]
    · exact List.subset_append_left _ _
    · exact List.mem_append_right _ List.mem_cons_self
  refine ⟨referenceEq, ?_, ?_, ?_⟩
  · obtain ⟨begin, member, begins⟩ := isOpen.begun
    obtain ⟨before, between, rfl⟩ := List.append_of_mem member
    rw [List.append_assoc, List.cons_append] at history
    obtain ⟨unused, nothing⟩ := unused_of_begins history begins
    refine ⟨before, begin, between, rfl, begins, nothing, ?_⟩
    intro event eventMem again
    rw [List.mem_append, List.mem_append] at eventMem
    rcases eventMem with (inBefore | inBetween) | inLater
    · exact unused event inBefore again
    · obtain ⟨middle, back, rfl⟩ := List.append_of_mem inBetween
      rw [List.append_assoc, List.cons_append, ← List.cons_append, ← List.append_assoc] at history
      have first := (unused_of_begins history again).1 begin
      exact first (List.mem_append_right _ List.mem_cons_self) begins
    · obtain ⟨front, back, split, subset, -⟩ := laterSplit event inLater
      exact (unused_of_begins split again).1 begin (subset member) begins
  · intro event member uses
    obtain ⟨front, back, split, -, inFront⟩ := laterSplit event member
    obtain ⟨after, explainedAfter, answered⟩ := exists_explained split
    rw [← answered]
    apply refused_of_notPending _ uses
    rw [Option.eq_none_iff_forall_ne_some]
    intro found stillPending
    exact ((explainedAfter.pending handle found).mp stillPending).1.unfinished _ inFront rfl
  · intro result member
    obtain ⟨front, back, split, -, inFront⟩ := laterSplit _ member
    obtain ⟨after, explainedAfter, answered⟩ := exists_explained split
    obtain ⟨found, stored⟩ := explainedAfter.stored _ _ inFront
    obtain ⟨otherId, addressed⟩ := explainedAfter.addressed _ _ stored
    rw [← show _ = result from answered]
    simp only [InMemoryLogicalArtifacts.step, InMemoryLogicalArtifacts.chunks, stored]
    rw [referenceEq] at addressed
    rcases content_of_reference addressed with rfl | collides
    · exact .inl rfl
    · exact .inr collides

/-- Two exports take turns, and one of them writes once more after its end. -/
theorem finished_artifact_is_whole_sample :
    let content : Bytes := [1, 3]
    let earlier : List ArtifactEvent := [
      (.beginPartition (str "orders"), .ok (.handle 1)),
      (.beginPartition (str "users"), .ok (.handle 2)),
      (.write 1 [1], .ok .none), (.write 2 [2], .ok .none), (.write 1 [3], .ok .none)]
    let later : List ArtifactEvent :=
      [(.write 1 [4], .error InMemoryLogicalArtifacts.keyError), (.write 2 [5], .ok .none)]
    written 1 earlier = content ∧ ∀ event ∈ later, ArtifactEvent.Uses 1 event.1 →
      event.2 = .error InMemoryLogicalArtifacts.keyError := by
  intro content earlier later
  have history : (runCalls InMemoryLogicalArtifacts.step .empty
      [.beginPartition (str "orders"), .beginPartition (str "users"), .write 1 [1], .write 2 [2],
        .write 1 [3], .finishPartition 1 (str "orders"), .write 1 [4], .write 2 [5]]).2 =
      earlier ++ (.finishPartition 1 (str "orders"), .ok (.reference
        (InMemoryLogicalArtifacts.reference (str "orders") content))) :: later := rfl
  exact ⟨rfl, (finished_artifact_is_whole _ 1 _ _ earlier later history).2.2.1⟩

end DataLifecycle.Portability
