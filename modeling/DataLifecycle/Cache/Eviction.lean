import DataLifecycle.Cache.CompareAndSet
import DataLifecycle.Cache.World

/-!
# What a reader evicts

A read fetches an entry, judges it at its own time, and deletes what it finds stale or corrupt.
Lookup and delete are separate calls of the backend and a delete names only the key: it removes the
entry that the key has by then.  That entry is the judged one exactly when no write of the key was
accepted in between.
-/

namespace DataLifecycle.Cache

open Python Interaction

variable {F ι : Type}

/-! ## Clients of one backend -/

/-- A call of a coordinator, or a put of its backend. -/
inductive Client (F : Type)
  | read (identity : Dict Str (PyValue F)) (required : Option Version) (now : Option DateTime)
  | put (resource : Str) (entry : CacheEntry F) (ttlMs : Int)
  | putIfAbsent (identity : Dict Str (PyValue F)) (value : LoadedValue F) (ttl : Option Int)
      (now : Option DateTime)
  | compareAndSet (identity : Dict Str (PyValue F)) (value : LoadedValue F)
      (expectedVersion : Version) (ttl : Option Int) (now : Option DateTime)

/-- The script of a client. -/
def Client.script [FloatText F] (coordinator : CacheCoordinator F) : Client F → Caching F Unit
  | .read identity required now => do
      let _ ← coordinator.read identity required now
      pure ()
  | .put resource entry ttlMs => do
      let _ ← request (.put resource entry ttlMs)
      pure ()
  | .putIfAbsent identity value ttl now => do
      let _ ← coordinator.putIfAbsent identity value ttl now
      pure ()
  | .compareAndSet identity value expectedVersion ttl now => do
      let _ ← coordinator.compareAndSet identity value expectedVersion ttl now
      pure ()

/-- An entry that a lookup returned, how many writes had been accepted by then, and the last time
that the client had from its clock. -/
structure Fetch (F : Type) where
  key : Str × Str
  found : VersionedCacheEntry F
  since : Nat
  sample : Option Utc

/-- The backend, the keys of the accepted writes in order, what the last lookup of each client
returned, and the last time that each client had from its clock. -/
structure Shelf (F ι : Type) where
  backend : InMemoryCacheBackend F
  writes : List (Str × Str) := []
  fetches : ι → Option (Fetch F) := fun _ => none
  samples : ι → Option Utc := fun _ => none

/-- A call that is made neither to the clock nor to the backend. -/
def CacheHook.IsOutside : CacheHook F → Prop
  | .record _ => True
  | .load => True
  | .joinFlight _ => True
  | .wait _ => True
  | .leaveFlight _ => True
  | _ => False

namespace Shelf

variable [FloatText F]

/-- The key of an accepted write. -/
def written (accepted : Bool) (resource : Str) (entry : CacheEntry F) : List (Str × Str) :=
  match accepted, InMemoryCacheBackend.storageKey resource entry.key.toPy with
  | true, .ok key => [key]
  | _, _ => []

/-- Whether a conditional write was accepted. -/
def accepts : Except Exc Bool → Bool
  | .ok accepted => accepted
  | .error _ => false

/-- What a lookup of a client returns. -/
def fetch (shelf : Shelf F ι) (thread : ι) (resource : Str) (key : PyValue F) : Option (Fetch F) :=
  match InMemoryCacheBackend.storageKey resource key, shelf.backend.get resource key with
  | .ok storage, .ok (some found) =>
      some ⟨storage, found, shelf.writes.length, shelf.samples thread⟩
  | _, _ => none

/-- The last time of a clock after it has answered or raised. -/
def sampled (before : Option Utc) : Except Exc DateTime → Option Utc
  | .ok time => time.toUtc.toOption
  | .error _ => before

/-- The backend answers its calls; everything else may answer or raise anything, and each clock
may show any time. -/
inductive Answers [DecidableEq ι] (thread : ι) (shelf : Shelf F ι) :
    (hook : CacheHook F) → hook.Response → Shelf F ι → Prop
  | get (resource : Str) (key : PyValue F) :
      Answers thread shelf (.get resource key) (shelf.backend.get resource key)
        { shelf with
          fetches := Function.update shelf.fetches thread (shelf.fetch thread resource key) }
  | put (resource : Str) (entry : CacheEntry F) (ttlMs : Int) :
      Answers thread shelf (.put resource entry ttlMs) (shelf.backend.put resource entry).1
        { shelf with
          backend := (shelf.backend.put resource entry).2
          writes := shelf.writes ++
            written (shelf.backend.put resource entry).1.isOk resource entry }
  | putIfAbsent (resource : Str) (entry : CacheEntry F) (ttlMs : Int) :
      Answers thread shelf (.putIfAbsent resource entry ttlMs)
        (shelf.backend.putIfAbsent resource entry).1
        { shelf with
          backend := (shelf.backend.putIfAbsent resource entry).2
          writes := shelf.writes ++
            written (accepts (shelf.backend.putIfAbsent resource entry).1) resource entry }
  | compareAndSet (resource : Str) (entry : CacheEntry F) (expectedVersion : Version)
      (ttlMs : Int) :
      Answers thread shelf (.compareAndSet resource entry expectedVersion ttlMs)
        (shelf.backend.compareAndSet resource entry expectedVersion).1
        { shelf with
          backend := (shelf.backend.compareAndSet resource entry expectedVersion).2
          writes := shelf.writes ++
            written (accepts (shelf.backend.compareAndSet resource entry expectedVersion).1)
              resource entry }
  | delete (resource : Str) (key : PyValue F) :
      Answers thread shelf (.delete resource key) (shelf.backend.delete resource key).1
        { shelf with backend := (shelf.backend.delete resource key).2 }
  | clock (response : Except Exc DateTime) :
      Answers thread shelf .clock response
        { shelf with
          samples := Function.update shelf.samples thread (sampled (shelf.samples thread) response) }
  | outside (hook : CacheHook F) (response : hook.Response) (outside : hook.IsOutside) :
      Answers thread shelf hook response shelf

end Shelf

/-- The clients and the backend that they share. -/
abbrev ClientPool (F ι : Type) :=
  Pool (CacheHook F) CacheHook.Response (Except Exc Unit × Unit) ι (Shelf F ι)

/-- Clients of their own coordinators on one backend. -/
def ClientPool.start [FloatText F] (coordinators : ι → CacheCoordinator F) (clients : ι → Client F)
    (backend : InMemoryCacheBackend F) : ClientPool F ι :=
  ⟨fun thread => (clients thread).script (coordinators thread) (), { backend := backend }⟩

/-! ## One client -/

/-- The read finds the entry stale or corrupt. -/
def CacheCoordinator.Rejects [FloatText F] (coordinator : CacheCoordinator F)
    (required : Option Version) (entry : CacheEntry F) (now : Utc) : Prop :=
  coordinator.validEntry entry required now = .ok false ∨
    coordinator.validEntry entry required now = .ok true ∧ isNegative entry.value = false ∧
      ∃ error, coordinator.decodeEntry entry = .error error

/-- The time at which a read judges what it fetched: the last one from its clock or, as long as it
has not asked its clock, the one that it was given. -/
def readTime (given : Option DateTime) (sample : Option Utc) : Option Utc :=
  sample.or (given.bind fun time => time.toUtc.toOption)

/-- The client is a read that rejects the entry at its own time. -/
def Client.Rejects [FloatText F] (coordinator : CacheCoordinator F) (client : Client F)
    (entry : CacheEntry F) (sample : Option Utc) : Prop :=
  ∃ identity required given now, client = .read identity required given ∧
    readTime given sample = some now ∧ coordinator.Rejects required entry now

/-- What a client fetched last, and the last time of its clock before that. -/
structure Lookup (F : Type) where
  resource : Str
  key : PyValue F
  found : VersionedCacheEntry F
  sample : Option Utc

/-- The last time of a client's clock, and its last lookup. -/
structure Holding (F : Type) where
  sample : Option Utc := none
  lookup : Option (Lookup F) := none

/-- A client deletes a key only after it has fetched an entry of the key that it rejects. -/
def evictionAutomaton [FloatText F] (coordinator : CacheCoordinator F) (client : Client F) :
    Automaton (CacheHook F) CacheHook.Response (Holding F) where
  allows
    | holding, .delete resource key => ∃ found sample,
        holding.lookup = some ⟨resource, key, found, sample⟩ ∧
          client.Rejects coordinator found.entry sample
    | _, .invalidate _ _ => False
    | _, _ => True
  next
    | holding, .clock, response => { holding with sample := Shelf.sampled holding.sample response }
    | holding, .get resource key, .ok (some found) =>
        { holding with lookup := some ⟨resource, key, found, holding.sample⟩ }
    | holding, .get _ _, _ => { holding with lookup := none }
    | holding, _, _ => holding

section Tidy

variable [FloatText F] {coordinator : CacheCoordinator F} {client : Client F} {holding : Holding F}
  {α β : Type}

variable (coordinator client) in
/-- The part deletes only what was fetched and rejected. -/
def Tidy (part : Caching F α) (holding : Holding F) : Prop :=
  part.Safe
    (fun before hook response after =>
      after = (evictionAutomaton coordinator client).next before hook response)
    (evictionAutomaton coordinator client).allows (fun _ _ _ => True) (fun _ _ _ => True) () holding

theorem tidy_bind {part : Caching F β} {rest : β → Caching F α}
    (first : Tidy coordinator client part holding)
    (others : ∀ value after, Tidy coordinator client (rest value) after) :
    Tidy coordinator client (part >>= rest) holding := by
  apply Script.safe_bind.mpr
  apply Script.Safe.mono first
  · exact fun value _ after _ => others value after
  · exact fun _ _ _ _ => trivial

theorem tidy_lift_bind {result : Except Exc β} {rest : β → Caching F α}
    (others : ∀ value, result = .ok value → Tidy coordinator client (rest value) holding) :
    Tidy coordinator client (Script.lift result >>= rest) holding := by
  apply Script.safe_bind.mpr
  cases result with
  | ok value => exact others value rfl
  | error error => trivial

theorem tidy_lift (result : Except Exc α) :
    Tidy coordinator client (Script.lift result : Caching F α) holding := by
  cases result with
  | ok value => trivial
  | error error => trivial

theorem tidy_refuse (condition : Prop) [Decidable condition] (error : Exc) :
    Tidy coordinator client (Script.refuse condition error : Caching F Unit) holding :=
  Script.safe_refuse.mpr ⟨fun _ => trivial, fun _ => trivial⟩

theorem tidy_invoke {hook : CacheHook F} (answer : hook.Response → Except Exc α)
    (allowed : (evictionAutomaton coordinator client).allows holding hook) :
    Tidy coordinator client (Script.invoke hook answer : Caching F α) holding := by
  apply Script.safe_invoke.mpr
  refine ⟨allowed, fun response after _ => ?_⟩
  cases answer response with
  | ok value => trivial
  | error error => trivial

theorem tidy_recordFailure (state : String) (error : Exc) (now : Utc) :
    Tidy coordinator client (coordinator.recordFailure state error now) holding := by
  apply tidy_bind (tidy_lift _)
  intro evidence after
  apply tidy_bind
  · exact tidy_invoke id trivial
  · exact fun _ _ => trivial

/-- An entry is evicted after it was fetched and rejected. -/
theorem tidy_evict {found : VersionedCacheEntry F} {key : PyValue F} {sample : Option Utc}
    (state : String) (now : Utc)
    (fetched : holding.lookup = some ⟨coordinator.policy.cacheResource, key, found, sample⟩)
    (rejected : client.Rejects coordinator found.entry sample) :
    Tidy coordinator client (coordinator.evict state key now) holding := by
  apply tidy_bind
  · exact tidy_invoke caught ⟨found, sample, fetched, rejected⟩
  · intro response after
    cases response with
    | ok existed => trivial
    | error error =>
        apply tidy_bind (tidy_recordFailure state error now)
        exact fun _ _ => trivial

/-- What a read does with the entry that it fetched. -/
theorem tidy_judge {found : VersionedCacheEntry F} {key : PyValue F} {sample : Option Utc}
    {identity : Dict Str (PyValue F)} {required : Option Version} {given : Option DateTime}
    {now : Utc} (reads : client = .read identity required given)
    (time : readTime given sample = some now)
    (fetched : holding.lookup = some ⟨coordinator.policy.cacheResource, key, found, sample⟩) :
    Tidy coordinator client (coordinator.judge key found.entry required now) holding := by
  apply tidy_lift_bind
  intro valid validEq
  cases valid with
  | false =>
      apply tidy_bind
      · exact tidy_evict _ now fetched ⟨identity, required, given, now, reads, time, .inl validEq⟩
      · exact fun _ _ => trivial
  | true =>
      show Tidy coordinator client (coordinator.serve key found.entry now) _
      unfold CacheCoordinator.serve
      split
      next => trivial
      next positive =>
        apply tidy_lift_bind
        intro decoded decodedEq
        cases decoded with
        | ok value => trivial
        | error error =>
            have corrupt : ∃ error, coordinator.decodeEntry found.entry = .error error := by
              cases outcome : coordinator.decodeEntry found.entry with
              | ok value =>
                  rw [outcome] at decodedEq
                  cases decodedEq
              | error error => exact ⟨error, rfl⟩
            apply tidy_bind
            · exact tidy_evict _ now fetched ⟨identity, required, given, now, reads, time,
                .inr ⟨validEq, by simpa using positive, corrupt⟩⟩
            · intro _ after
              apply tidy_bind (tidy_recordFailure _ error now)
              exact fun _ _ => trivial

theorem tidy_cached {key : PyValue F} {identity : Dict Str (PyValue F)} {required : Option Version}
    {given : Option DateTime} {now : Utc} (reads : client = .read identity required given)
    (time : readTime given holding.sample = some now) :
    Tidy coordinator client (coordinator.cached key required now) holding := by
  apply Script.safe_bind.mpr
  apply Script.safe_invoke.mpr
  refine ⟨trivial, ?_⟩
  rintro (error | _ | found) _ rfl
  · unfold caught
    by_cases isException : error.isException = true
    · simp only [isException, if_true]
      apply tidy_bind (tidy_recordFailure _ error now)
      intro code after
      apply tidy_bind (tidy_refuse _ _)
      exact fun _ _ => trivial
    · simp only [isException]
      trivial
  · trivial
  · exact tidy_judge reads time rfl

theorem tidy_load (key : PyValue F) (code : Option Str) (now : Utc) :
    Tidy coordinator client (coordinator.load key code now) holding := by
  apply tidy_bind
  · exact tidy_invoke id trivial
  intro loaded after
  apply tidy_bind (tidy_lift _)
  intro prepared after
  apply tidy_bind
  · cases prepared with
    | none => trivial
    | some prepared =>
        apply tidy_bind
        · exact tidy_invoke caught trivial
        · intro response after
          cases response with
          | ok version => trivial
          | error error =>
              apply tidy_bind (tidy_recordFailure _ error now)
              exact fun _ _ => trivial
  · exact fun _ _ => trivial

/-- The time that a client goes on with is the one of its clock. -/
theorem tidy_sampleClock_bind {rest : Utc → Caching F α}
    (others : ∀ now after, after.sample = some now → Tidy coordinator client (rest now) after) :
    Tidy coordinator client (CacheCoordinator.sampleClock >>= rest) holding := by
  apply Script.safe_bind.mpr
  apply Script.safe_bind.mpr
  apply Script.safe_invoke.mpr
  refine ⟨trivial, ?_⟩
  rintro (error | time) _ rfl
  · trivial
  · show Script.Safe _ _ _ _ (Script.lift (ensureUtc "now" time)) () _
    cases converted : ensureUtc "now" time with
    | error error => trivial
    | ok now =>
        apply others
        exact congrArg Except.toOption (ensureUtc_eq_ok_iff.mp converted)

/-- The time of a client is its given one or that of its clock. -/
theorem tidy_currentTime_bind {given : Option DateTime} {rest : Utc → Caching F α}
    (unsampled : holding.sample = none)
    (others : ∀ now after, readTime given after.sample = some now →
      Tidy coordinator client (rest now) after) :
    Tidy coordinator client (CacheCoordinator.currentTime given >>= rest) holding := by
  cases given with
  | none =>
      apply tidy_sampleClock_bind
      intro now after sample
      exact others now after (by rw [readTime, sample, Option.some_or])
  | some time =>
      apply tidy_lift_bind
      intro now converted
      apply others now holding
      rw [readTime, unsampled, Option.none_or]
      exact congrArg Except.toOption (ensureUtc_eq_ok_iff.mp converted)

theorem tidy_lead (key : PyValue F) (code : Option Str) (flightKey : Str) (now : Utc) :
    Tidy coordinator client (coordinator.lead key code flightKey now) holding := by
  apply Script.safe_tryFinally.mpr
  apply Script.Safe.mono (tidy_load key code now)
  · exact fun _ _ _ _ => tidy_invoke id trivial
  · exact fun _ _ _ _ => tidy_invoke id trivial

theorem tidy_follow {key : PyValue F} {identity : Dict Str (PyValue F)} {required : Option Version}
    {given : Option DateTime} (reads : client = .read identity required given) (code : Option Str)
    (event : Nat) :
    Tidy coordinator client (coordinator.follow key required code event) holding := by
  apply tidy_bind
  · exact tidy_invoke id trivial
  intro _ after
  apply tidy_sampleClock_bind
  intro now after sample
  have time : readTime given after.sample = some now := by rw [readTime, sample, Option.some_or]
  apply tidy_bind (tidy_cached reads time)
  rintro ⟨_ | read, followerError⟩ after
  · apply tidy_sampleClock_bind
    exact fun later after _ => tidy_load key _ later
  · trivial

theorem tidy_read {identity : Dict Str (PyValue F)} {required : Option Version}
    {given : Option DateTime} (reads : client = .read identity required given)
    (unsampled : holding.sample = none) :
    Tidy coordinator client (coordinator.read identity required given) holding := by
  apply tidy_currentTime_bind unsampled
  intro current after time
  split
  · apply tidy_lift_bind
    intro key _
    apply tidy_bind (tidy_cached reads time)
    rintro ⟨_ | read, code⟩ after
    · apply tidy_bind (tidy_lift _)
      intro flightKey after
      apply tidy_bind
      · exact tidy_invoke id trivial
      · rintro ⟨event, _ | _⟩ after
        · exact tidy_follow reads code event
        · exact tidy_lead key code flightKey current
    · trivial
  · apply tidy_bind
    · exact tidy_invoke id trivial
    · exact fun _ _ => trivial

/-- Every client keeps to the automaton. -/
theorem follows_script (coordinator : CacheCoordinator F) (client : Client F) :
    (client.script coordinator ()).Follows (evictionAutomaton coordinator client) {} := by
  have tidy : Tidy coordinator client (client.script coordinator) {} := by
    cases client with
    | read identity required given =>
        apply tidy_bind (tidy_read rfl rfl)
        exact fun _ _ => trivial
    | put resource entry ttlMs =>
        apply tidy_bind
        · exact tidy_invoke id trivial
        · exact fun _ _ => trivial
    | putIfAbsent identity value ttl given =>
        apply tidy_bind
        · apply tidy_currentTime_bind rfl
          intro current after _
          apply tidy_bind (tidy_lift _)
          intro selected after
          apply tidy_bind (tidy_lift _)
          intro made after
          exact tidy_invoke _ trivial
        · exact fun _ _ => trivial
    | compareAndSet identity value expectedVersion ttl given =>
        apply tidy_bind
        · apply tidy_currentTime_bind rfl
          intro current after _
          apply tidy_bind (tidy_lift _)
          intro selected after
          apply tidy_bind (tidy_lift _)
          intro made after
          exact tidy_invoke _ trivial
        · exact fun _ _ => trivial
  apply Prog.Safe.mono tidy
  exact fun _ _ _ => trivial

end Tidy

/-! ## The entry of a fetched key -/

/-- As long as no write of the key is accepted after the lookup, the key has the fetched entry or
none; after one it never has an entry of the fetched version again. -/
structure Shelf.Kept (shelf : Shelf F ι) (fetch : Fetch F) : Prop where
  number : ∃ number : Nat, fetch.found.version = .number number ∧ number ≤ shelf.backend.revision
  since : fetch.since ≤ shelf.writes.length
  current : fetch.key ∉ shelf.writes.drop fetch.since → ∀ entry,
    shelf.backend.entries.get? fetch.key = some entry → entry = fetch.found
  replaced : fetch.key ∈ shelf.writes.drop fetch.since → ∀ entry,
    shelf.backend.entries.get? fetch.key = some entry → entry.version ≠ fetch.found.version

/-- What a call does to the backend and the log of writes. -/
inductive Shelf.Change (shelf after : Shelf F ι) : Prop
  | keeps (writes : after.writes = shelf.writes)
      (revision : shelf.backend.revision ≤ after.backend.revision)
      (subset : ∀ key entry, after.backend.entries.get? key = some entry →
        shelf.backend.entries.get? key = some entry)
  | stores (key : Str × Str) (entry : CacheEntry F) (writes : after.writes = shelf.writes ++ [key])
      (backend : after.backend = shelf.backend.bumped.store key entry)

namespace Shelf

variable {shelf after : Shelf F ι} {fetch : Fetch F}

theorem Kept.step (kept : shelf.Kept fetch) (change : shelf.Change after) : after.Kept fetch := by
  obtain ⟨number, version, reached⟩ := kept.number
  have since := kept.since
  cases change with
  | keeps writes revision subset =>
      refine ⟨⟨number, version, reached.trans revision⟩, ?_, ?_, ?_⟩
      · rwa [writes]
      · rw [writes]
        exact fun unwritten entry found => kept.current unwritten entry (subset _ _ found)
      · rw [writes]
        exact fun written entry found => kept.replaced written entry (subset _ _ found)
  | stores key entry writes backend =>
      have log : after.writes.drop fetch.since = shelf.writes.drop fetch.since ++ [key] := by
        rw [writes, List.drop_append_of_le_length since]
      refine ⟨⟨number, version, ?_⟩, ?_, ?_, ?_⟩
      · rw [backend]
        exact reached.trans (Nat.le_succ _)
      · rw [writes, List.length_append]
        omega
      · rw [log, List.mem_append, List.mem_singleton, not_or, backend]
        rintro ⟨unwritten, differs⟩ current found
        rcases InMemoryCacheBackend.get?_store found with ⟨same, -⟩ | ⟨-, before⟩
        · exact absurd same.symm differs
        · exact kept.current unwritten current before
      · rw [log, List.mem_append, List.mem_singleton, backend]
        intro written current found
        rcases InMemoryCacheBackend.get?_store found with ⟨-, next⟩ | ⟨differs, before⟩
        · rw [next, version, ne_eq, Version.number.injEq]
          omega
        · rcases written with earlier | same
          · exact kept.replaced earlier current before
          · exact absurd same.symm differs

/-- A call on the backend leaves its counter and versions in order. -/
theorem Change.numbered (change : shelf.Change after) (numbered : shelf.backend.Numbered) :
    after.backend.Numbered := by
  cases change with
  | keeps writes revision subset =>
      constructor
      · intro key entry found
        obtain ⟨number, version, positive, reached⟩ :=
          numbered.issued key entry (subset key entry found)
        exact ⟨number, version, positive, reached.trans revision⟩
      · intro key other entry otherEntry found otherFound
        exact numbered.unique key other entry otherEntry (subset _ _ found) (subset _ _ otherFound)
  | stores key entry writes backend =>
      exact (InMemoryCacheBackend.Effect.stores key entry backend).numbered numbered

variable [FloatText F]

theorem change_put (shelf : Shelf F ι) (resource : Str) (entry : CacheEntry F) :
    shelf.Change { shelf with
      backend := (shelf.backend.put resource entry).2
      writes := shelf.writes ++
        written (shelf.backend.put resource entry).1.isOk resource entry } := by
  unfold InMemoryCacheBackend.put
  split
  · exact .keeps (List.append_nil _) le_rfl fun _ _ found => found
  · split
    next error keyError =>
      exact .keeps (List.append_nil _) (Nat.le_succ _) fun _ _ found => found
    next key keyEq =>
      refine .stores key entry ?_ rfl
      simp [written, keyEq, Except.isOk, Except.toBool]

theorem accepts_eq_true_iff {outcome : Except Exc Bool} :
    accepts outcome = true ↔ outcome = .ok true := by
  rcases outcome with error | accepted
  · simp [accepts]
  · simp [accepts]

/-- A conditional write that is not accepted changes nothing. -/
theorem change_of_refused {accepted : Except Exc Bool} (refused : accepted ≠ .ok true)
    (resource : Str) (entry : CacheEntry F) (backend : InMemoryCacheBackend F)
    (unchanged : backend = shelf.backend) :
    shelf.Change { shelf with
      backend := backend
      writes := shelf.writes ++ written (accepts accepted) resource entry } := by
  have unaccepted : accepts accepted = false := by
    rw [← Bool.not_eq_true, accepts_eq_true_iff]
    exact refused
  subst unchanged
  rw [unaccepted]
  exact .keeps (List.append_nil _) le_rfl fun _ _ found => found

/-- A conditional write that is accepted stores its entry. -/
theorem change_of_accepted {accepted : Except Exc Bool} (success : accepted = .ok true)
    {resource : Str} {entry : CacheEntry F} {key : Str × Str} {backend : InMemoryCacheBackend F}
    (keyEq : InMemoryCacheBackend.storageKey resource entry.key.toPy = .ok key)
    (stored : backend = shelf.backend.bumped.store key entry) :
    shelf.Change { shelf with
      backend := backend
      writes := shelf.writes ++ written (accepts accepted) resource entry } := by
  refine .stores key entry ?_ stored
  rw [success]
  simp only [written, accepts, keyEq]

theorem change_putIfAbsent (shelf : Shelf F ι) (resource : Str) (entry : CacheEntry F) :
    shelf.Change { shelf with
      backend := (shelf.backend.putIfAbsent resource entry).2
      writes := shelf.writes ++
        written (accepts (shelf.backend.putIfAbsent resource entry).1) resource entry } := by
  by_cases success : (shelf.backend.putIfAbsent resource entry).1 = .ok true
  · obtain ⟨key, keyEq, stored⟩ := InMemoryCacheBackend.putIfAbsent_snd success
    exact change_of_accepted success keyEq stored
  · have unchanged : shelf.backend.apply (.putIfAbsent resource entry) = shelf.backend :=
      InMemoryCacheBackend.apply_of_refused success
    exact change_of_refused success resource entry _ unchanged

theorem change_compareAndSet (shelf : Shelf F ι) (resource : Str) (entry : CacheEntry F)
    (expectedVersion : Version) :
    shelf.Change { shelf with
      backend := (shelf.backend.compareAndSet resource entry expectedVersion).2
      writes := shelf.writes ++
        written (accepts (shelf.backend.compareAndSet resource entry expectedVersion).1) resource
          entry } := by
  by_cases success : (shelf.backend.compareAndSet resource entry expectedVersion).1 = .ok true
  · obtain ⟨key, current, keyEq, -, -, stored⟩ := InMemoryCacheBackend.compareAndSet_snd success
    exact change_of_accepted success keyEq stored
  · have unchanged : shelf.backend.apply (.compareAndSet resource entry expectedVersion) =
        shelf.backend := InMemoryCacheBackend.apply_of_refused success
    exact change_of_refused success resource entry _ unchanged

theorem change_delete (shelf : Shelf F ι) (resource : Str) (key : PyValue F) :
    shelf.Change { shelf with backend := (shelf.backend.delete resource key).2 } := by
  obtain ⟨revision, subset⟩ := InMemoryCacheBackend.delete_snd shelf.backend resource key
  exact .keeps rfl revision.ge subset

end Shelf

/-! ## All clients -/

/-- What the clients hold is what they fetched, and the backend has not lost track of it. -/
structure Shelved [FloatText F] (holdings : ι → Holding F) (shelf : Shelf F ι) : Prop where
  numbered : shelf.backend.Numbered
  sampled : ∀ thread, (holdings thread).sample = shelf.samples thread
  fetched : ∀ thread lookup, (holdings thread).lookup = some lookup →
    ∃ fetch, shelf.fetches thread = some fetch ∧
      InMemoryCacheBackend.storageKey lookup.resource lookup.key = .ok fetch.key ∧
      fetch.found = lookup.found ∧ fetch.sample = lookup.sample
  kept : ∀ thread fetch, shelf.fetches thread = some fetch → shelf.Kept fetch

section Shelved

variable [FloatText F] [DecidableEq ι] {holdings : ι → Holding F} {shelf after : Shelf F ι}
  {thread : ι}

omit [DecidableEq ι] in
/-- A call that is neither a lookup nor made to the clock keeps what the clients hold. -/
theorem Shelved.change (shelved : Shelved holdings shelf) (change : shelf.Change after)
    (fetches : after.fetches = shelf.fetches) (samples : after.samples = shelf.samples) :
    Shelved holdings after := by
  refine ⟨change.numbered shelved.numbered, ?_, ?_, ?_⟩
  · rw [samples]
    exact shelved.sampled
  · rw [fetches]
    exact shelved.fetched
  · rw [fetches]
    exact fun thread fetch found => (shelved.kept thread fetch found).step change

omit [DecidableEq ι] in
/-- A lookup that succeeds finds the entry of its key. -/
theorem get_eq_ok_some {backend : InMemoryCacheBackend F} {resource : Str} {key : PyValue F}
    {found : VersionedCacheEntry F} (returned : backend.get resource key = .ok (some found)) :
    ∃ storage, InMemoryCacheBackend.storageKey resource key = .ok storage ∧
      backend.entries.get? storage = some found := by
  rw [InMemoryCacheBackend.get, check_bind_eq_ok_iff, bind_eq_ok_iff] at returned
  obtain ⟨-, storage, keyEq, equal⟩ := returned
  exact ⟨storage, keyEq, Except.ok.inj equal⟩

omit [DecidableEq ι] in
theorem Shelf.kept_of_fetch {resource : Str} {key : PyValue F} {fetch : Fetch F}
    (numbered : shelf.backend.Numbered) (fetched : shelf.fetch thread resource key = some fetch) :
    shelf.Kept fetch := by
  unfold Shelf.fetch at fetched
  split at fetched
  next storage found keyEq returned =>
    cases fetched
    obtain ⟨other, sameKey, present⟩ := get_eq_ok_some returned
    rw [keyEq] at sameKey
    cases sameKey
    obtain ⟨number, version, -, reached⟩ := numbered.issued storage found present
    refine ⟨⟨number, version, reached⟩, le_rfl, ?_, ?_⟩
    · intro _ entry current
      rw [present] at current
      exact (Option.some.inj current).symm
    · rw [List.drop_length]
      exact nofun
  next => cases fetched

omit [FloatText F] [DecidableEq ι] in
/-- The log of writes does not depend on lookups and clocks. -/
theorem Shelf.Kept.congr {fetch : Fetch F} (kept : shelf.Kept fetch)
    (backend : after.backend = shelf.backend) (writes : after.writes = shelf.writes) :
    after.Kept fetch := by
  obtain ⟨number, since, current, replaced⟩ := kept
  rw [← backend] at number current replaced
  rw [← writes] at since current replaced
  exact ⟨number, since, current, replaced⟩

/-- A lookup is kept as it is made. -/
theorem Shelved.get (shelved : Shelved holdings shelf) (coordinator : CacheCoordinator F)
    (client : Client F) (resource : Str) (key : PyValue F) :
    Shelved (Function.update holdings thread ((evictionAutomaton coordinator client).next
        (holdings thread) (.get resource key) (shelf.backend.get resource key)))
      { shelf with
        fetches := Function.update shelf.fetches thread (shelf.fetch thread resource key) } := by
  have unsampled : ((evictionAutomaton coordinator client).next (holdings thread)
      (.get resource key) (shelf.backend.get resource key)).sample = (holdings thread).sample := by
    rcases shelf.backend.get resource key with error | _ | entry <;> rfl
  refine ⟨shelved.numbered, ?_, ?_, ?_⟩
  · intro other
    by_cases same : other = thread
    · subst other
      rw [Function.update_self, unsampled]
      exact shelved.sampled thread
    · rw [Function.update_of_ne same]
      exact shelved.sampled other
  · intro other lookup holds
    by_cases same : other = thread
    · subst other
      rw [Function.update_self] at holds
      simp only [Function.update_self]
      rcases returned : shelf.backend.get resource key with error | _ | entry
      · rw [returned] at holds
        cases holds
      · rw [returned] at holds
        cases holds
      · rw [returned] at holds
        cases holds
        obtain ⟨storage, keyEq, -⟩ := get_eq_ok_some returned
        refine ⟨⟨storage, entry, shelf.writes.length, shelf.samples thread⟩, ?_, keyEq, rfl,
          (shelved.sampled thread).symm⟩
        simp only [Shelf.fetch, keyEq, returned]
    · rw [Function.update_of_ne same] at holds
      simp only [Function.update_of_ne same]
      exact shelved.fetched other lookup holds
  · intro other fetch fetched
    by_cases same : other = thread
    · subst other
      simp only [Function.update_self] at fetched
      exact (Shelf.kept_of_fetch shelved.numbered fetched).congr rfl rfl
    · simp only [Function.update_of_ne same] at fetched
      exact (shelved.kept other fetch fetched).congr rfl rfl

/-- A clock is read. -/
theorem Shelved.clock (shelved : Shelved holdings shelf) (coordinator : CacheCoordinator F)
    (client : Client F) (response : Except Exc DateTime) :
    Shelved (Function.update holdings thread ((evictionAutomaton coordinator client).next
        (holdings thread) .clock response))
      { shelf with
        samples := Function.update shelf.samples thread
          (Shelf.sampled (shelf.samples thread) response) } := by
  refine ⟨shelved.numbered, ?_, ?_, ?_⟩
  · intro other
    by_cases same : other = thread
    · subst other
      simp only [Function.update_self]
      exact congrArg (Shelf.sampled · response) (shelved.sampled thread)
    · simp only [Function.update_of_ne same]
      exact shelved.sampled other
  · intro other lookup holds
    by_cases same : other = thread
    · subst other
      rw [Function.update_self] at holds
      exact shelved.fetched thread lookup holds
    · rw [Function.update_of_ne same] at holds
      exact shelved.fetched other lookup holds
  · exact fun other fetch fetched => (shelved.kept other fetch fetched).congr rfl rfl

/-- Every call keeps the shelf in order. -/
theorem Shelved.step {coordinator : CacheCoordinator F} {client : Client F} {hook : CacheHook F}
    {response : hook.Response} (shelved : Shelved holdings shelf)
    (answers : shelf.Answers thread hook response after) :
    Shelved (Function.update holdings thread ((evictionAutomaton coordinator client).next
      (holdings thread) hook response)) after := by
  cases answers with
  | get resource key => exact shelved.get coordinator client resource key
  | put resource entry ttlMs =>
      rw [show (evictionAutomaton coordinator client).next (holdings thread)
        (.put resource entry ttlMs) _ = holdings thread from rfl, Function.update_eq_self]
      exact shelved.change (shelf.change_put resource entry) rfl rfl
  | putIfAbsent resource entry ttlMs =>
      rw [show (evictionAutomaton coordinator client).next (holdings thread)
        (.putIfAbsent resource entry ttlMs) _ = holdings thread from rfl, Function.update_eq_self]
      exact shelved.change (shelf.change_putIfAbsent resource entry) rfl rfl
  | compareAndSet resource entry expectedVersion ttlMs =>
      rw [show (evictionAutomaton coordinator client).next (holdings thread)
        (.compareAndSet resource entry expectedVersion ttlMs) _ = holdings thread from rfl,
        Function.update_eq_self]
      exact shelved.change (shelf.change_compareAndSet resource entry expectedVersion) rfl rfl
  | delete resource key =>
      rw [show (evictionAutomaton coordinator client).next (holdings thread)
        (.delete resource key) _ = holdings thread from rfl, Function.update_eq_self]
      exact shelved.change (shelf.change_delete resource key) rfl rfl
  | clock => exact shelved.clock coordinator client _
  | outside _ _ outside =>
      have unmoved : (evictionAutomaton coordinator client).next (holdings thread) hook response =
          holdings thread := by
        cases hook <;> first | exact outside.elim | rfl
      rw [unmoved, Function.update_eq_self]
      exact shelved

end Shelved

/-- What a reader evicts.  A pending delete belongs to a read that has fetched an entry of the key
and found it stale or corrupt at its own time.  If the key has an entry by now, it is of the
fetched version exactly when no write of the key was accepted since the lookup, and in that case
it is the fetched entry. -/
theorem evicts_rejected_iff [FloatText F] [DecidableEq ι] (coordinators : ι → CacheCoordinator F)
    (clients : ι → Client F) (operations : List (InMemoryCacheBackend.Operation F))
    (pool : ClientPool F ι)
    (reachable : Pool.Reachable Shelf.Answers
      (ClientPool.start coordinators clients (InMemoryCacheBackend.run operations)) pool)
    (thread : ι) (resource : Str) (key : PyValue F)
    (next : CacheHook.Response (.delete resource key : CacheHook F) → _)
    (deletes : pool.threads thread = .call (.delete resource key) next) :
    ∃ fetch, pool.state.fetches thread = some fetch ∧
      InMemoryCacheBackend.storageKey resource key = .ok fetch.key ∧
      (clients thread).Rejects (coordinators thread) fetch.found.entry fetch.sample ∧
      ∀ removed, pool.state.backend.entries.get? fetch.key = some removed →
        (removed.version = fetch.found.version ↔
          fetch.key ∉ pool.state.writes.drop fetch.since) ∧
        (fetch.key ∉ pool.state.writes.drop fetch.since → removed = fetch.found) := by
  have initially : Pool.Governed
      (fun thread => evictionAutomaton (coordinators thread) (clients thread)) Shelved
      (fun _ => {})
      (ClientPool.start coordinators clients (InMemoryCacheBackend.run operations)) := by
    refine ⟨fun thread => follows_script (coordinators thread) (clients thread), ?_⟩
    exact ⟨InMemoryCacheBackend.numbered_foldl InMemoryCacheBackend.numbered_empty operations,
      fun _ => rfl, nofun, nofun⟩
  obtain ⟨holdings, governed⟩ := reachable.governed
    (fun holdings shelf thread hook response after shelved _ answers => shelved.step answers)
    initially
  have shelved := governed.invariant
  have follows := governed.follows thread
  rw [deletes] at follows
  obtain ⟨found, sample, holds, rejects⟩ := follows.allows
  obtain ⟨fetch, fetched, keyEq, rfl, rfl⟩ := shelved.fetched thread _ holds
  have kept := shelved.kept thread fetch fetched
  refine ⟨fetch, fetched, keyEq, rejects, ?_⟩
  intro removed present
  refine ⟨⟨?_, ?_⟩, fun unwritten => kept.current unwritten removed present⟩
  · intro same written
    exact kept.replaced written removed present same
  · intro unwritten
    rw [kept.current unwritten removed present]

/-! ## A lost update -/

section Lost

open CacheCoordinator InMemoryCacheBackend

/-- Half a minute and a second after noon. -/
def laterInstant : Utc := ⟨63923256031000000, by decide⟩

/-- The entry made at noon has expired by then. -/
theorem validEntry_sampleEntry_later : sample.validEntry sampleEntry none laterInstant = .ok false := by
  decide +kernel

/-- The entry of the sample row when it is loaded by then. -/
def laterEntry : CacheEntry Empty :=
  { sampleEntry with
    createdAt := .text (str "2026-08-25T12:00:31.000000Z")
    expiresAt := some (.text (str "2026-08-25T12:01:01.000000Z")) }

theorem validEntry_laterEntry : sample.validEntry laterEntry none laterInstant = .ok true := by
  decide +kernel

/-- One client reads the sample row, the other one sets it if it has the first version. -/
def sampleClients : Bool → Client Empty
  | false => .read (sampleIdentity 1 2) none none
  | true => .compareAndSet (sampleIdentity 1 2) sampleLoaded (.number 1) none none

/-- The clients on a backend that holds the entry made at noon. -/
def samplePool : ClientPool Empty Bool :=
  ClientPool.start (fun _ => sample) sampleClients
    (run [.put rowColumnPolicy.cacheResource sampleEntry])

/-- A clock shows an instant. -/
theorem clock_answers [FloatText F] [DecidableEq ι] (shelf : Shelf F ι) (thread : ι)
    (instant : Utc) :
    shelf.Answers thread .clock (.ok (.ofUtc instant))
      { shelf with samples := Function.update shelf.samples thread (some instant) } := by
  have answers : shelf.Answers thread .clock (.ok (.ofUtc instant)) _ := .clock _
  rwa [Shelf.sampled, DateTime.toUtc_ofUtc] at answers

/-- A lookup of a present key. -/
theorem get_answers [FloatText F] [DecidableEq ι] {shelf : Shelf F ι} {thread : ι}
    {resource digest : Str} {key : PyValue F} {found : VersionedCacheEntry F}
    (available : shelf.backend.available = true) (digested : digestOf key = .ok digest)
    (present : shelf.backend.entries.get? (resource, digest) = some found) :
    shelf.Answers thread (.get resource key) (.ok (some found))
      { shelf with
        fetches := Function.update shelf.fetches thread
          (some ⟨(resource, digest), found, shelf.writes.length, shelf.samples thread⟩) } := by
  have answers : shelf.Answers thread (.get resource key) _ _ := .get resource key
  rwa [Shelf.fetch, get_eq_ok available digested, present, storageKey_of_digestOf digested]
    at answers

/-- A delete removes the entry that the key has. -/
theorem delete_of_present [FloatText F] {backend : InMemoryCacheBackend F} {resource digest : Str}
    {key : PyValue F} {found : VersionedCacheEntry F} (available : backend.available = true)
    (digested : digestOf key = .ok digest)
    (present : backend.entries.get? (resource, digest) = some found) :
    (backend.delete resource key).1 = .ok true ∧
      (backend.delete resource key).2.entries.get? (resource, digest) = none := by
  rw [InMemoryCacheBackend.delete, requireAvailable_eq_ok available,
    storageKey_of_digestOf digested]
  simp only [present, Option.isSome_some, Dict.get?_erase, if_true, and_self]

theorem backend_samplePool {digest : Str} (digested : digestOf sampleKey = .ok digest) :
    samplePool.state.backend = ({} : InMemoryCacheBackend Empty).bumped.store
      (rowColumnPolicy.cacheResource, digest) sampleEntry := by
  have filed : digestOf sampleEntry.key.toPy = .ok digest := digested
  show (InMemoryCacheBackend.put {} _ _).2 = _
  rw [put_eq_ok rfl filed]

/-- The digest of the key of the sample row. -/
theorem exists_digestOf_sampleKey : ∃ digest, digestOf sampleKey = .ok digest := by
  obtain ⟨values, bytes, accepted⟩ := CachePolicy.exists_keyed rowColumnPolicy_key
  exact ⟨_, accepted.digestOf⟩

/-- What the reader fetched, half a minute and a second after noon. -/
def expiredFetch (digest : Str) : Fetch Empty :=
  ⟨(rowColumnPolicy.cacheResource, digest), ⟨sampleEntry, .number 1⟩, 0, some laterInstant⟩

/-- The reader has asked its clock. -/
def clockedShelf : Shelf Empty Bool :=
  { samplePool.state with
    samples := Function.update samplePool.state.samples false (some laterInstant) }

/-- The reader has fetched the entry. -/
def fetchedShelf (digest : Str) : Shelf Empty Bool :=
  { clockedShelf with
    fetches := Function.update samplePool.state.fetches false (some (expiredFetch digest)) }

theorem fetches_fetchedShelf (digest : Str) :
    (fetchedShelf digest).fetches false = some (expiredFetch digest) :=
  rfl

theorem present_samplePool {digest : Str} (digested : digestOf sampleKey = .ok digest) :
    samplePool.state.backend.available = true ∧ samplePool.state.backend.revision = 1 ∧
      samplePool.state.backend.entries.get? (rowColumnPolicy.cacheResource, digest) =
        some ⟨sampleEntry, .number 1⟩ := by
  rw [backend_samplePool digested]
  exact ⟨rfl, rfl, Dict.get?_set_self _ _ _⟩

/-- The reader has fetched the expired entry and is about to delete its key. -/
theorem reader_pending {digest : Str} (digested : digestOf sampleKey = .ok digest) :
    ∃ threads next, Pool.Reachable Shelf.Answers samplePool ⟨threads, fetchedShelf digest⟩ ∧
      threads false = .call (.delete rowColumnPolicy.cacheResource sampleKey) next ∧
      threads true = samplePool.threads true := by
  obtain ⟨available, -, present⟩ := present_samplePool digested
  have get : clockedShelf.Answers false (.get rowColumnPolicy.cacheResource sampleKey)
      (.ok (some ⟨sampleEntry, .number 1⟩)) (fetchedShelf digest) :=
    get_answers available digested present
  have begun : Pool.Reachable Shelf.Answers samplePool samplePool := .refl
  have sampled := begun.request (clock_answers samplePool.state false laterInstant) rfl
  have fetched := sampled.request get ((Function.update_self _ _ _).trans rfl)
  rw [Function.update_idem] at fetched
  exact ⟨_, _, fetched, (Function.update_self _ _ _).trans rfl, rfl⟩

/-- Nobody has written since the lookup: the reader has found the entry stale at the time of its
clock, and removes this entry. -/
theorem evicts_rejected_iff_sample :
    ∃ (pool : ClientPool Empty Bool) (fetch : Fetch Empty)
      (next : CacheHook.Response (.delete rowColumnPolicy.cacheResource sampleKey) → _),
      Pool.Reachable Shelf.Answers samplePool pool ∧
      pool.threads false = .call (.delete rowColumnPolicy.cacheResource sampleKey) next ∧
      pool.state.fetches false = some fetch ∧ fetch.sample = some laterInstant ∧
      (sampleClients false).Rejects sample fetch.found.entry fetch.sample ∧
      pool.state.backend.entries.get? fetch.key = some fetch.found := by
  obtain ⟨digest, digested⟩ := exists_digestOf_sampleKey
  obtain ⟨threads, next, reached, deletes, -⟩ := reader_pending digested
  obtain ⟨fetch, fetched, -, rejects, removes⟩ := evicts_rejected_iff (fun _ => sample) sampleClients
    [.put rowColumnPolicy.cacheResource sampleEntry] _ reached false
    rowColumnPolicy.cacheResource sampleKey next deletes
  have same : expiredFetch digest = fetch :=
    Option.some.inj ((fetches_fetchedShelf digest).symm.trans fetched)
  subst same
  obtain ⟨-, -, present⟩ := present_samplePool digested
  have unwritten := (removes _ present).2 nofun
  exact ⟨_, _, next, reached, deletes, fetched, rfl, rejects, present.trans (congrArg some unwritten)⟩

/-- The other client sets a fresh entry between the lookup and the delete: the reader removes an
entry that it never judged. -/
theorem fresh_entry_is_evicted :
    ∃ (pool : ClientPool Empty Bool) (digest : Str)
      (next : CacheHook.Response (.delete rowColumnPolicy.cacheResource sampleKey) → _),
      Pool.Reachable Shelf.Answers samplePool pool ∧
      pool.threads false = .call (.delete rowColumnPolicy.cacheResource sampleKey) next ∧
      pool.state.fetches false = some (expiredFetch digest) ∧
      sample.validEntry sampleEntry none laterInstant = .ok false ∧
      pool.state.backend.entries.get? (rowColumnPolicy.cacheResource, digest) =
        some ⟨laterEntry, .number 2⟩ ∧
      (pool.state.backend.delete rowColumnPolicy.cacheResource sampleKey).1 = .ok true ∧
      (pool.state.backend.delete rowColumnPolicy.cacheResource sampleKey).2.entries.get?
        (rowColumnPolicy.cacheResource, digest) = none ∧
      sample.validEntry laterEntry none laterInstant = .ok true := by
  obtain ⟨digest, digested⟩ := exists_digestOf_sampleKey
  obtain ⟨threads, next, reached, deletes, other⟩ := reader_pending digested
  have keyEq : storageKey rowColumnPolicy.cacheResource laterEntry.key.toPy =
      .ok (rowColumnPolicy.cacheResource, digest) :=
    storageKey_of_digestOf (show digestOf laterEntry.key.toPy = .ok digest from digested)
  obtain ⟨available, revision, current⟩ := present_samplePool digested
  have success : ((fetchedShelf digest).backend.compareAndSet rowColumnPolicy.cacheResource
      laterEntry (.number 1)).1 = .ok true :=
    compareAndSet_eq_ok_true_iff.mpr ⟨available, _, _, keyEq, current, rfl⟩
  obtain ⟨key, found, sameKey, -, -, stored⟩ := compareAndSet_snd success
  rw [keyEq] at sameKey
  cases sameKey
  have set : Shelf.Answers true { fetchedShelf digest with
      samples := Function.update (fetchedShelf digest).samples true (some laterInstant) }
      (.compareAndSet rowColumnPolicy.cacheResource laterEntry (.number 1)
        (ttlMilliseconds 30000000)) _ _ := .compareAndSet _ _ _ _
  have sampled := reached.request (clock_answers (fetchedShelf digest) true laterInstant)
    (other.trans rfl)
  have written := sampled.request set ((Function.update_self _ _ _).trans rfl)
  rw [Function.update_idem] at written
  -- The fresh entry has the second version.
  have fresh : ((fetchedShelf digest).backend.bumped.store (rowColumnPolicy.cacheResource, digest)
      laterEntry).entries.get? (rowColumnPolicy.cacheResource, digest) =
      some ⟨laterEntry, .number 2⟩ := by
    rw [store, show (fetchedShelf digest).backend.bumped.revision = 2 from
      congrArg (· + 1) revision]
    exact Dict.get?_set_self _ _ _
  have stillAvailable : ((fetchedShelf digest).backend.bumped.store
      (rowColumnPolicy.cacheResource, digest) laterEntry).available = true := available
  obtain ⟨removes, absent⟩ := delete_of_present stillAvailable digested fresh
  rw [← stored] at fresh removes absent
  refine ⟨_, digest, next, written, ?_, ?_, validEntry_sampleEntry_later, ?_, ?_, ?_,
    validEntry_laterEntry⟩
  · dsimp only
    rw [Function.update_of_ne Bool.false_ne_true]
    exact deletes
  · exact fetches_fetchedShelf digest
  · exact fresh
  · exact removes
  · exact absent

end Lost

end DataLifecycle.Cache
