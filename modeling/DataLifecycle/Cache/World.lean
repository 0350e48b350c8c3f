import DataLifecycle.Cache.Coordinator
import DataLifecycle.Interaction.Pool

/-!
# Concurrent users of a cache

Threads run calls of one coordinator over one in-memory backend and interleave at the
calls that they make.  The world holds the clock, the backend, the flight table with its
events, and what the loaders returned; beside it stands what each thread has seen.
-/

namespace DataLifecycle.Cache

open Python Interaction

variable {F ι : Type}

/-! ## Tasks -/

/-- A call of a coordinator; the current time is left to the clock. -/
inductive Task (F : Type)
  | read (identity : Dict Str (PyValue F)) (required : Option Version)
  | invalidateAfterCommit (selector : Dict Str (PyValue F))
  | delete (identity : Dict Str (PyValue F))

/-- What a task returns. -/
inductive Outcome (F : Type)
  | read (result : CacheRead F)
  | invalidated (result : InvalidationResult)
  | deleted (existed : Bool)

/-- The script of a task. -/
def Task.script [FloatText F] (coordinator : CacheCoordinator F) : Task F → Caching F (Outcome F)
  | .read identity required => do
      let result ← coordinator.read identity required none
      pure (.read result)
  | .invalidateAfterCommit selector => do
      let result ← coordinator.invalidateAfterCommit selector none
      pure (.invalidated result)
  | .delete identity => do
      let existed ← coordinator.delete identity
      pure (.deleted existed)

/-! ## Worlds -/

/-- A loader returned a content at an instant. -/
structure Load (F ι : Type) where
  thread : ι
  instant : Utc
  content : Option (LoadedValue F)

/-- What a thread has seen: its last time sample, the entry that its last lookup
returned, and what its loader has returned since the sample. -/
structure View (F : Type) where
  sample : Option Utc := none
  fetched : Option (CacheEntry F) := none
  loaded : Option (Option (LoadedValue F)) := none

/-- The view after a call. -/
def View.after (view : View F) : CacheCall F → View F
  | ⟨.clock, .ok time⟩ => { view with sample := time.toUtc.toOption, loaded := none }
  | ⟨.get _ _, .ok found⟩ => { view with fetched := found.map VersionedCacheEntry.entry }
  | ⟨.get _ _, .error _⟩ => { view with fetched := none }
  | ⟨.load, .ok content⟩ => { view with loaded := some content }
  | _ => view

/-- What the threads share, and their views. -/
structure World (F ι : Type) where
  time : Utc
  backend : InMemoryCacheBackend F := {}
  flights : Dict Str Nat := .empty
  events : Nat := 0
  finished : List Nat := []
  loads : List (Load F ι) := []
  views : ι → View F := fun _ => {}

namespace World

variable [FloatText F]

omit [FloatText F] in
/-- The response and the world after a thread enters the critical section that joins a
flight: the event of the running flight, or a new flight that the thread leads. -/
def join (world : World F ι) (flightKey : Str) : (Nat × Bool) × World F ι :=
  match world.flights.get? flightKey with
  | some event => ((event, false), world)
  | none => ((world.events, true),
      { world with
        flights := world.flights.set flightKey world.events
        events := world.events + 1 })

omit [FloatText F] in
/-- The response and the world after the critical section that ends a flight:
`self._flights.pop(flight_key)`, then its event is set. -/
def leave (world : World F ι) (flightKey : Str) : Except Exc Unit × World F ι :=
  match world.flights.get? flightKey with
  | some event => (.ok (),
      { world with
        flights := world.flights.erase flightKey
        finished := world.finished ++ [event] })
  | none => (.error ⟨.keyError, ⟨"%r", [flightKey]⟩, none, false⟩, world)

/-- How the world answers a call of a thread.  The clock never goes back, and time may
pass while a loader runs.  A wait may time out. -/
inductive Answers (thread : ι) (world : World F ι) :
    (hook : CacheHook F) → hook.Response → World F ι → Prop
  | clock (time : DateTime) (instant : Utc) (converted : time.toUtc = .ok instant)
      (later : world.time ≤ instant) :
      Answers thread world .clock (.ok time) { world with time := instant }
  | get (resource : Str) (key : PyValue F) :
      Answers thread world (.get resource key) (world.backend.get resource key) world
  | put (resource : Str) (entry : CacheEntry F) (ttlMs : Int) :
      Answers thread world (.put resource entry ttlMs) (world.backend.put resource entry).1
        { world with backend := (world.backend.put resource entry).2 }
  | putIfAbsent (resource : Str) (entry : CacheEntry F) (ttlMs : Int) :
      Answers thread world (.putIfAbsent resource entry ttlMs)
        (world.backend.putIfAbsent resource entry).1
        { world with backend := (world.backend.putIfAbsent resource entry).2 }
  | compareAndSet (resource : Str) (entry : CacheEntry F) (expectedVersion : Version)
      (ttlMs : Int) :
      Answers thread world (.compareAndSet resource entry expectedVersion ttlMs)
        (world.backend.compareAndSet resource entry expectedVersion).1
        { world with backend := (world.backend.compareAndSet resource entry expectedVersion).2 }
  | delete (resource : Str) (key : PyValue F) :
      Answers thread world (.delete resource key) (world.backend.delete resource key).1
        { world with backend := (world.backend.delete resource key).2 }
  | invalidate (resource : Str) (selector : Dict Str (PyValue F)) :
      Answers thread world (.invalidate resource selector)
        (world.backend.invalidate resource selector).1
        { world with backend := (world.backend.invalidate resource selector).2 }
  | record (evidence : LifecycleEvidence F) (response : Except Exc Unit) :
      Answers thread world (.record evidence) response world
  | loads (content : Option (LoadedValue F)) (instant : Utc) (later : world.time ≤ instant) :
      Answers thread world .load (.ok content)
        { world with
          time := instant
          loads := world.loads ++ [⟨thread, instant, content⟩] }
  | raises (error : Exc) (instant : Utc) (later : world.time ≤ instant) :
      Answers thread world .load (.error error) { world with time := instant }
  | joinFlight (flightKey : Str) :
      Answers thread world (.joinFlight flightKey) (.ok (world.join flightKey).1)
        (world.join flightKey).2
  | wait (event : Nat) :
      Answers thread world (.wait event) (.ok (decide (event ∈ world.finished))) world
  | leaveFlight (flightKey : Str) :
      Answers thread world (.leaveFlight flightKey) (world.leave flightKey).1
        (world.leave flightKey).2

variable [DecidableEq ι]

omit [FloatText F] in
/-- The thread has seen a call. -/
def seen (world : World F ι) (thread : ι) (call : CacheCall F) : World F ι :=
  { world with views := Function.update world.views thread ((world.views thread).after call) }

/-- The world answers a call and the thread sees the answer. -/
def Responds (thread : ι) (before : World F ι) (hook : CacheHook F) (response : hook.Response)
    (after : World F ι) : Prop :=
  ∃ answered, Answers thread before hook response answered ∧
    after = answered.seen thread ⟨hook, response⟩

end World

/-- The threads of a pool and the world that they share. -/
abbrev CachePool (F ι : Type) :=
  Pool (CacheHook F) CacheHook.Response (Except Exc (Outcome F) × Unit) ι (World F ι)

/-- The threads at the start of their tasks. -/
def CachePool.start [FloatText F] (coordinator : CacheCoordinator F) (tasks : ι → Task F)
    (world : World F ι) : CachePool F ι :=
  ⟨fun thread => (tasks thread).script coordinator (), world⟩

/-! ## Uncontended parts of a read -/

namespace World

variable [FloatText F] [DecidableEq ι] {thread : ι} {world after : World F ι}
  {content : Option (LoadedValue F)}

omit [FloatText F] in
/-- A loader returns the content, and a wait does not time out. -/
def Orderly (content : Option (LoadedValue F)) : (hook : CacheHook F) → hook.Response → Prop
  | .load, response => response = .ok content
  | .wait _, response => response = .ok true
  | _, _ => True

/-- The world answers in order while time stands still. -/
def Still (content : Option (LoadedValue F)) (thread : ι) (before : World F ι) (hook : CacheHook F)
    (response : hook.Response) (after : World F ι) : Prop :=
  Responds thread before hook response after ∧ after.time = before.time ∧
    Orderly content hook response

theorem Answers.still {hook : CacheHook F} {response : hook.Response}
    (answers : Answers thread world hook response after) (time : after.time = world.time)
    (orderly : Orderly content hook response) :
    Still content thread world hook response (after.seen thread ⟨hook, response⟩) :=
  ⟨⟨after, answers, rfl⟩, time, orderly⟩

theorem Answers.request_returns {hook : CacheHook F} {answer : hook.Answer}
    (answers : Answers thread world hook (.ok answer) after) (time : after.time = world.time)
    (orderly : Orderly content hook (.ok answer)) :
    (request hook ()).Returns (Still content thread) world (.ok answer, ())
      (after.seen thread ⟨hook, .ok answer⟩) :=
  Script.returns_invoke (answers.still time orderly)

theorem Answers.attempt_returns {hook : CacheHook F} {answer : hook.Answer}
    (answers : Answers thread world hook (.ok answer) after) (time : after.time = world.time)
    (orderly : Orderly content hook (.ok answer)) :
    (attempt hook ()).Returns (Still content thread) world (.ok (.ok answer), ())
      (after.seen thread ⟨hook, .ok answer⟩) :=
  .call hook _ (.ok answer) (answers.still time orderly) (.ret _ _)

/-- The clock may return the time of the world. -/
theorem sampleClock_returns :
    (CacheCoordinator.sampleClock ()).Returns (Still content thread) world (.ok world.time, ())
      (world.seen thread ⟨.clock, .ok (.ofUtc world.time)⟩) :=
  Script.returns_bind
    ((Answers.clock (.ofUtc world.time) world.time (DateTime.toUtc_ofUtc _) le_rfl).request_returns
      rfl trivial)
    (Script.returns_lift (ensureUtc_eq_ok_iff.mpr (DateTime.toUtc_ofUtc _)))

variable {coordinator : CacheCoordinator F} {key : PyValue F} {digest : Str}
  {required : Option Version} {now : Utc}

/-- A lookup that finds nothing. -/
theorem cached_returns_none (available : world.backend.available = true)
    (digested : digestOf key = .ok digest)
    (absent : world.backend.entries.get? (coordinator.policy.cacheResource, digest) = none) :
    (coordinator.cached key required now ()).Returns (Still content thread) world (.ok (none, none), ())
      (world.seen thread ⟨.get coordinator.policy.cacheResource key, .ok none⟩) := by
  have answers : Answers thread world (.get coordinator.policy.cacheResource key) _ world := .get _ _
  rw [InMemoryCacheBackend.get_eq_ok available digested, absent] at answers
  exact Script.returns_bind (answers.attempt_returns rfl trivial) (.ret _ _)

/-- A lookup that finds a valid positive entry. -/
theorem cached_returns_some (available : world.backend.available = true)
    (digested : digestOf key = .ok digest) {found : VersionedCacheEntry F} {value : PyValue F}
    (present : world.backend.entries.get? (coordinator.policy.cacheResource, digest) = some found)
    (valid : coordinator.validEntry found.entry required now = .ok true)
    (positive : isNegative found.entry.value = false)
    (decoded : coordinator.decodeEntry found.entry = .ok value) :
    (coordinator.cached key required now ()).Returns (Still content thread) world
      (.ok (some ⟨value, found.entry.sourceVersion, .hit, none⟩, none), ())
      (world.seen thread ⟨.get coordinator.policy.cacheResource key, .ok (some found)⟩) := by
  have answers : Answers thread world (.get coordinator.policy.cacheResource key) _ world := .get _ _
  rw [InMemoryCacheBackend.get_eq_ok available digested, present] at answers
  apply Script.returns_bind (answers.attempt_returns rfl trivial)
  apply Script.returns_bind (Script.returns_lift valid)
  dsimp only [CacheCoordinator.serve]
  rw [positive]
  exact Script.returns_bind (Script.returns_lift (congrArg caught decoded)) (.ret _ _)

omit [DecidableEq ι] in
theorem put_answers (available : world.backend.available = true) {made : CacheEntry F}
    (digested : digestOf made.key.toPy = .ok digest) (resource : Str) (ttlMs : Int) :
    Answers thread world (.put resource made ttlMs) (.ok (.number world.backend.bumped.revision))
      { world with backend := world.backend.bumped.store (resource, digest) made } := by
  have answers : Answers thread world (.put resource made ttlMs) _ _ := .put _ _ _
  rwa [InMemoryCacheBackend.put_eq_ok available digested] at answers

omit [DecidableEq ι] in
theorem joinFlight_answers (free : world.flights.get? digest = none) :
    Answers thread world (.joinFlight digest) (.ok (world.events, true))
      { world with
        flights := world.flights.set digest world.events
        events := world.events + 1 } := by
  have answers : Answers thread world (.joinFlight digest) _ _ := .joinFlight digest
  rwa [join, free] at answers

omit [DecidableEq ι] in
theorem leaveFlight_answers {event : Nat} (current : world.flights.get? digest = some event) :
    Answers thread world (.leaveFlight digest) (.ok ())
      { world with
        flights := world.flights.erase digest
        finished := world.finished ++ [event] } := by
  have answers : Answers thread world (.leaveFlight digest) _ _ := .leaveFlight digest
  rwa [leave, current] at answers

/-- A load whose entry is stored. -/
theorem load_returns (available : world.backend.available = true)
    {made : CacheEntry F} {ttl : Int}
    (prepared : coordinator.entry key content now = .ok (some (made, ttl)))
    (digested : digestOf made.key.toPy = .ok digest) :
    ∃ final, (coordinator.load key none now ()).Returns (Still content thread) world
        (.ok (CacheCoordinator.loadedRead content none .miss), ()) final ∧
      final.time = world.time ∧ final.flights = world.flights ∧
      final.backend = world.backend.bumped.store (coordinator.policy.cacheResource, digest) made ∧
      final.loads = world.loads ++ [⟨thread, world.time, content⟩] := by
  have loads : Answers thread world .load (.ok content) _ := .loads content world.time le_rfl
  refine ⟨_, Script.returns_bind (loads.request_returns rfl rfl) (Script.returns_bind
    (Script.returns_lift prepared) (Script.returns_bind (Script.returns_bind
      ((put_answers ?_ digested _ _).attempt_returns rfl trivial) (.ret _ _)) (.ret _ _))),
    rfl, rfl, rfl, rfl⟩
  exact available

/-- A flight that nobody else runs. -/
theorem fly_returns (available : world.backend.available = true)
    (digested : digestOf key = .ok digest) (free : world.flights.get? digest = none)
    {made : CacheEntry F} {ttl : Int}
    (prepared : coordinator.entry key content now = .ok (some (made, ttl)))
    (filed : jsonValue key = .ok made.key) :
    ∃ final, (coordinator.fly key required none now ()).Returns (Still content thread) world
        (.ok (CacheCoordinator.loadedRead content none .miss), ()) final ∧
      final.time = world.time ∧ final.flights.get? digest = none ∧
      final.backend = world.backend.bumped.store (coordinator.policy.cacheResource, digest) made ∧
      final.loads = world.loads ++ [⟨thread, world.time, content⟩] := by
  have madeDigest : digestOf made.key.toPy = .ok digest := by
    rw [InMemoryCacheBackend.digestOf_toPy filed, digested]
  have joins : ∃ joined, (request (.joinFlight digest) ()).Returns (Still content thread) world
      (.ok (world.events, true), ()) joined ∧ joined.time = world.time ∧
      joined.backend = world.backend ∧ joined.flights = world.flights.set digest world.events ∧
      joined.loads = world.loads :=
    ⟨_, (joinFlight_answers free).request_returns rfl trivial, rfl, rfl, rfl, rfl⟩
  obtain ⟨joined, joins, time, backend, flights, loads⟩ := joins
  rw [← backend] at available
  obtain ⟨landed, returns, landedTime, landedFlights, landedBackend, landedLoads⟩ :=
    load_returns available prepared madeDigest
  have current : landed.flights.get? digest = some world.events := by
    rw [landedFlights, flights, Dict.get?_set_self]
  refine ⟨_, Script.returns_bind (Script.returns_lift digested) (Script.returns_bind joins
    (Script.returns_tryFinally returns
      ((leaveFlight_answers current).request_returns rfl trivial))), ?_, ?_, ?_, ?_⟩
  · exact landedTime.trans time
  · exact (Dict.get?_erase _ _ _).trans (if_pos rfl)
  · exact landedBackend.trans (by rw [backend])
  · exact landedLoads.trans (by rw [loads, time])

/-- A read that nobody disturbs and that finds nothing. -/
theorem read_returns_miss {identity : Dict Str (PyValue F)}
    (enabled : coordinator.policy.enabled = true)
    (keyed : coordinator.policy.key identity = .ok key) (available : world.backend.available = true)
    (digested : digestOf key = .ok digest)
    (absent : world.backend.entries.get? (coordinator.policy.cacheResource, digest) = none)
    (free : world.flights.get? digest = none)
    {made : CacheEntry F} {ttl : Int}
    (prepared : coordinator.entry key content world.time = .ok (some (made, ttl)))
    (filed : jsonValue key = .ok made.key) :
    ∃ final, (coordinator.read identity required none ()).Returns (Still content thread) world
        (.ok (CacheCoordinator.loadedRead content none .miss), ()) final ∧
      final.time = world.time ∧ final.flights.get? digest = none ∧
      final.backend = world.backend.bumped.store (coordinator.policy.cacheResource, digest) made ∧
      final.loads = world.loads ++ [⟨thread, world.time, content⟩] := by
  have looks : ∃ missed, (coordinator.cached key required world.time ()).Returns (Still content thread)
      (world.seen thread ⟨.clock, .ok (.ofUtc world.time)⟩) (.ok (none, none), ()) missed ∧
      missed.time = world.time ∧ missed.backend = world.backend ∧
      missed.flights = world.flights ∧ missed.loads = world.loads :=
    ⟨_, cached_returns_none available digested absent, rfl, rfl, rfl, rfl⟩
  obtain ⟨missed, looks, time, backend, flights, loads⟩ := looks
  rw [← backend] at available
  rw [← flights] at free
  obtain ⟨final, flies, finalTime, finalFlights, finalBackend, finalLoads⟩ :=
    fly_returns available digested free prepared filed
  refine ⟨final, Script.returns_bind sampleClock_returns ?_, finalTime.trans time, finalFlights,
    by rw [finalBackend, backend], by rw [finalLoads, loads, time]⟩
  rw [enabled]
  exact Script.returns_bind (Script.returns_lift keyed) (Script.returns_bind looks flies)

variable (content) in
/-- A read that finds a valid positive entry. -/
theorem read_returns_hit {identity : Dict Str (PyValue F)}
    (enabled : coordinator.policy.enabled = true)
    (keyed : coordinator.policy.key identity = .ok key) (available : world.backend.available = true)
    (digested : digestOf key = .ok digest) {found : VersionedCacheEntry F} {value : PyValue F}
    (present : world.backend.entries.get? (coordinator.policy.cacheResource, digest) = some found)
    (valid : coordinator.validEntry found.entry required world.time = .ok true)
    (positive : isNegative found.entry.value = false)
    (decoded : coordinator.decodeEntry found.entry = .ok value) :
    ∃ final, (coordinator.read identity required none ()).Returns (Still content thread) world
      (.ok ⟨value, found.entry.sourceVersion, .hit, none⟩, ()) final := by
  have looks : ∃ served, (coordinator.cached key required world.time ()).Returns (Still content thread)
      (world.seen thread ⟨.clock, .ok (.ofUtc world.time)⟩)
      (.ok (some ⟨value, found.entry.sourceVersion, .hit, none⟩, none), ()) served := by
    refine ⟨_, cached_returns_some ?_ digested ?_ valid positive decoded⟩
    · exact available
    · exact present
  obtain ⟨served, looks⟩ := looks
  refine ⟨served, Script.returns_bind sampleClock_returns ?_⟩
  rw [enabled]
  exact Script.returns_bind (Script.returns_lift keyed) (Script.returns_bind looks (.ret _ _))

end World

/-- A thread may run its whole read alone. -/
theorem CachePool.reachable_of_read [FloatText F] [DecidableEq ι] {coordinator : CacheCoordinator F}
    {content : Option (LoadedValue F)} {start : CachePool F ι}
    {threads : ι → Prog (CacheHook F) CacheHook.Response _}
    {world after : World F ι} {thread : ι} {identity : Dict Str (PyValue F)}
    {required : Option Version} {read : CacheRead F}
    (reached : Pool.Reachable World.Responds start ⟨threads, world⟩)
    (isRead : threads thread = (Task.read identity required).script coordinator ())
    (returns : (coordinator.read identity required none ()).Returns (World.Still content thread)
      world (.ok read, ()) after) :
    Pool.Reachable World.Responds start
      ⟨Function.update threads thread (.ret (.ok (.read read), ())), after⟩ := by
  have responds := returns.mono (fun _ => True) (fun _ _ _ _ _ still => ⟨still.1, trivial⟩)
    trivial
  exact reached.of_returns_script isRead responds

/-- Two threads that read the sample row. -/
def sampleTask : Bool → Task Empty := fun _ => .read (sampleIdentity 1 2) none

/-- The two threads at noon. -/
def sampleStart : CachePool Empty Bool :=
  CachePool.start CacheCoordinator.sample sampleTask { time := CacheCoordinator.sampleInstant }

end DataLifecycle.Cache
