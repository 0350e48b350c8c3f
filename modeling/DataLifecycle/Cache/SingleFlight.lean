import DataLifecycle.Cache.Staleness

/-!
# Single-flight loading

Readers of one identity start on an empty cache.  The first to register in the flight
table loads, the others wait for it and are served its entry.  A reader that missed the
cache registers later, without looking again: if the flight has landed in between, it
leads a second one.  As long as nobody registers that late there is one load, and every
read returns what it loaded.
-/

namespace DataLifecycle.Cache

open Python Interaction

variable {F ι : Type} [FloatText F]

/-! ## Readers -/

/-- Readers of one identity.  The times of the run lie in a window in which the loaded
content can be stored, and an entry made at one time of the window is valid for every
reader at any other. -/
structure Readers (F ι : Type) [FloatText F] where
  coordinator : CacheCoordinator F
  identity : Dict Str (PyValue F)
  key : PyValue F
  digest : Str
  required : ι → Option Version
  given : ι → Option DateTime
  content : Option (LoadedValue F)
  window : Utc → Prop
  enabled : coordinator.policy.enabled = true
  keeps : Keeps coordinator.envelope
  keyed : coordinator.policy.key identity = .ok key
  digested : digestOf key = .ok digest
  inWindow : ∀ thread time, given thread = some time →
    ∃ instant, time.toUtc = .ok instant ∧ window instant
  prepares : ∀ created, window created →
    ∃ made ttl, coordinator.entry key content created = .ok (some (made, ttl))
  valid : ∀ created made ttl, window created →
    coordinator.entry key content created = .ok (some (made, ttl)) →
    ∀ thread now, window now → coordinator.validEntry made (required thread) now = .ok true
  decodes : ∀ loaded encoded data, content = some loaded →
    coordinator.serializer.encode loaded.value = .ok encoded → jsonValue encoded = .ok data →
    ∃ value, coordinator.serializer.decode data.toPy = .ok value ∧ SameData value loaded.value

/-- What a reader has done so far. -/
inductive Phase
  | looking
  | missed
  | leading
  | loaded
  | stored
  | waiting (event : Nat)
  | woken
  | served

/-- The phases of a reader that does not lead. -/
def Phase.IsBystander : Phase → Prop
  | .leading | .loaded | .stored => False
  | _ => True

namespace Readers

variable (readers : Readers F ι)

/-- The entry was made from the content. -/
def Stored (entry : CacheEntry F) : Prop :=
  ∃ created ttl, readers.window created ∧
    readers.coordinator.entry readers.key readers.content created = .ok (some (entry, ttl))

/-- The read returns the content, as loaded or from its entry. -/
def Delivers (read : CacheRead F) : Prop :=
  read = CacheCoordinator.loadedRead readers.content none .miss ∨ read.Gives readers.content

/-- A lookup of the key of the readers. -/
def Looks (resource : Str) (key : PyValue F) : Prop :=
  resource = readers.coordinator.policy.cacheResource ∧ key = readers.key

/-- A lookup found an entry of the content. -/
def Finds (response : Except Exc (Option (VersionedCacheEntry F))) : Prop :=
  ∃ found, response = .ok (some found) ∧ readers.Stored found.entry

/-- What a reader does in each phase and which answers it relies on. -/
def contract : Contract (CacheHook F) CacheHook.Response Phase where
  allows
    | .looking, .clock => True
    | .looking, .get resource key => readers.Looks resource key
    | .missed, .joinFlight flightKey => flightKey = readers.digest
    | .leading, .load => True
    | .loaded, .put resource made _ =>
        resource = readers.coordinator.policy.cacheResource ∧ readers.Stored made
    | .stored, .leaveFlight flightKey => flightKey = readers.digest
    | .waiting event, .wait other => other = event
    | .woken, .clock => True
    | .woken, .get resource key => readers.Looks resource key
    | _, _ => False
  next
    | .looking, .get _ _, .ok none => .missed
    | .looking, .get _ _, .ok (some _) => .served
    | .missed, .joinFlight _, .ok (_, true) => .leading
    | .missed, .joinFlight _, .ok (event, false) => .waiting event
    | .leading, .load, _ => .loaded
    | .loaded, .put _ _ _, _ => .stored
    | .stored, .leaveFlight _, _ => .served
    | .waiting _, .wait _, _ => .woken
    | .woken, .get _ _, _ => .served
    | phase, _, _ => phase
  answers
    | _, .clock, response =>
        ∃ time instant, response = .ok time ∧ time.toUtc = .ok instant ∧ readers.window instant
    | .looking, .get _ _, response => response = .ok none ∨ readers.Finds response
    | .woken, .get _ _, response => readers.Finds response
    | _, .joinFlight _, response => ∃ answer, response = .ok answer
    | _, .load, response => response = .ok readers.content
    | _, .put _ _ _, response => ∃ version, response = .ok version
    | _, .leaveFlight _, response => response = .ok ()
    | _, .wait _, response => ∃ set, response = .ok set
    | _, _, _ => True

/-- A reader that has returned was served the content. -/
def Post (outcome : Except Exc (CacheRead F) × Unit) (phase : Phase) : Prop :=
  ∃ read, outcome = (.ok read, ()) ∧ readers.Delivers read ∧ phase = .served

/-! ## One reader -/

/-- The part keeps the contract and returns with the given postcondition. -/
def Flies {α : Type} (part : Caching F α) (normal : α → Phase → Prop) (phase : Phase) : Prop :=
  part.Safe
    (fun before hook response after => readers.contract.answers before hook response ∧
      after = readers.contract.next before hook response)
    readers.contract.allows (fun value _ => normal value) (fun _ _ _ => False) () phase

variable {readers} {phase : Phase} {α β : Type}

theorem flies_bind {part : Caching F β} {rest : β → Caching F α} {normal : α → Phase → Prop}
    (flies : readers.Flies part (fun value => readers.Flies (rest value) normal) phase) :
    readers.Flies (part >>= rest) normal phase :=
  Script.safe_bind.mpr flies

theorem flies_lift {result : Except Exc α} {value : α} {normal : α → Phase → Prop}
    (returned : result = .ok value) (returns : normal value phase) :
    readers.Flies (Script.lift result) normal phase := by
  rw [returned]
  exact returns

theorem flies_request {hook : CacheHook F} {normal : hook.Answer → Phase → Prop}
    (allowed : readers.contract.allows phase hook)
    (returns : ∀ response, readers.contract.answers phase hook response →
      ∃ answer, response = .ok answer ∧
        normal answer (readers.contract.next phase hook (.ok answer))) :
    readers.Flies (request hook) normal phase := by
  rw [Flies, request, Script.safe_invoke]
  refine ⟨allowed, ?_⟩
  rintro response _ ⟨relied, rfl⟩
  obtain ⟨answer, rfl, held⟩ := returns response relied
  exact held

theorem flies_attempt {hook : CacheHook F} {normal : Except Exc hook.Answer → Phase → Prop}
    (allowed : readers.contract.allows phase hook)
    (returns : ∀ response, readers.contract.answers phase hook response →
      ∃ answer, response = .ok answer ∧
        normal (.ok answer) (readers.contract.next phase hook (.ok answer))) :
    readers.Flies (attempt hook) normal phase := by
  rw [Flies, attempt, Script.safe_invoke]
  refine ⟨allowed, ?_⟩
  rintro response _ ⟨relied, rfl⟩
  obtain ⟨answer, rfl, held⟩ := returns response relied
  exact held

theorem flies_tryFinally {body : Caching F α} {cleanup : Caching F Unit}
    {normal : α → Phase → Prop}
    (flies : readers.Flies body (fun value => readers.Flies cleanup fun _ => normal value) phase) :
    readers.Flies (Script.tryFinally body cleanup) normal phase := by
  apply Script.safe_tryFinally.mpr
  apply Script.Safe.mono flies
  · exact fun _ _ _ cleaned => cleaned
  · exact fun _ _ _ raised => raised.elim

/-- What a reader is served from an entry of the content. -/
theorem flies_serve {entry : CacheEntry F} {key : PyValue F} {now : Utc}
    {normal : Option (CacheRead F) × Option Str → Phase → Prop} (stored : readers.Stored entry)
    (returns : ∀ read, readers.Delivers read → normal (some read, none) phase) :
    readers.Flies (readers.coordinator.serve key entry now) normal phase := by
  obtain ⟨created, ttl, -, prepared⟩ := stored
  have made := CacheCoordinator.made_of_entry readers.keeps prepared
  have negative := made.isNegative_eq
  have sourceVersion := made.sourceVersion
  unfold CacheCoordinator.serve
  rw [negative]
  cases contentEq : readers.content with
  | none =>
      apply returns
      right
      rw [contentEq] at sourceVersion ⊢
      exact ⟨rfl, rfl, sourceVersion⟩
  | some loaded =>
      rw [contentEq] at made sourceVersion
      obtain ⟨encoded, data, encodedEq, dataEq, decodeEq⟩ := made.decodeEntry_eq
      obtain ⟨value, decoded, same⟩ := readers.decodes loaded encoded data contentEq encodedEq dataEq
      rw [← decodeEq] at decoded
      apply flies_bind
      apply flies_lift (congrArg caught decoded)
      apply returns
      right
      rw [contentEq]
      exact ⟨rfl, same, sourceVersion⟩

theorem flies_judge {thread : ι} {entry : CacheEntry F} {key : PyValue F} {now : Utc}
    {normal : Option (CacheRead F) × Option Str → Phase → Prop} (inWindow : readers.window now)
    (stored : readers.Stored entry)
    (returns : ∀ read, readers.Delivers read → normal (some read, none) phase) :
    readers.Flies (readers.coordinator.judge key entry (readers.required thread) now) normal
      phase := by
  obtain ⟨created, ttl, createdIn, prepared⟩ := stored
  apply flies_bind
  apply flies_lift (readers.valid created entry ttl createdIn prepared thread now inWindow)
  exact flies_serve ⟨created, ttl, createdIn, prepared⟩ returns

/-- The first lookup of a reader. -/
theorem flies_cached_looking {thread : ι} {now : Utc}
    {normal : Option (CacheRead F) × Option Str → Phase → Prop} (inWindow : readers.window now)
    (hit : ∀ read, readers.Delivers read → normal (some read, none) .served)
    (miss : normal (none, none) .missed) :
    readers.Flies (readers.coordinator.cached readers.key (readers.required thread) now) normal
      .looking := by
  apply flies_bind
  apply flies_attempt
  · exact ⟨rfl, rfl⟩
  rintro response (rfl | ⟨found, rfl, stored⟩)
  · exact ⟨none, rfl, miss⟩
  · exact ⟨some found, rfl, flies_judge inWindow stored hit⟩

/-- The lookup of a reader that was woken. -/
theorem flies_cached_woken {thread : ι} {now : Utc}
    {normal : Option (CacheRead F) × Option Str → Phase → Prop} (inWindow : readers.window now)
    (hit : ∀ read, readers.Delivers read → normal (some read, none) .served) :
    readers.Flies (readers.coordinator.cached readers.key (readers.required thread) now) normal
      .woken := by
  apply flies_bind
  apply flies_attempt
  · exact ⟨rfl, rfl⟩
  rintro response ⟨found, rfl, stored⟩
  exact ⟨some found, rfl, flies_judge inWindow stored hit⟩

/-- A clock sample in a phase that allows one. -/
theorem flies_sampleClock {normal : Utc → Phase → Prop}
    (allowed : readers.contract.allows phase .clock)
    (unchanged : ∀ response, readers.contract.next phase .clock response = phase)
    (returns : ∀ now, readers.window now → normal now phase) :
    readers.Flies CacheCoordinator.sampleClock normal phase := by
  apply flies_bind
  apply flies_request allowed
  intro response relied
  have sampled : ∃ time instant, response = .ok time ∧ time.toUtc = .ok instant ∧
      readers.window instant := by
    cases phase <;> exact relied
  obtain ⟨time, instant, rfl, converted, inWindow⟩ := sampled
  refine ⟨time, rfl, ?_⟩
  rw [unchanged]
  exact flies_lift (ensureUtc_eq_ok_iff.mpr converted) (returns instant inWindow)

theorem flies_lead {now : Utc} {normal : CacheRead F → Phase → Prop}
    (inWindow : readers.window now)
    (returns : ∀ read, readers.Delivers read → normal read .served) :
    readers.Flies (readers.coordinator.lead readers.key none readers.digest now) normal
      .leading := by
  obtain ⟨made, ttl, prepared⟩ := readers.prepares now inWindow
  apply flies_tryFinally
  apply flies_bind
  apply flies_request
  · trivial
  rintro response rfl
  refine ⟨readers.content, rfl, ?_⟩
  apply flies_bind
  apply flies_lift prepared
  apply flies_bind
  apply flies_bind
  apply flies_attempt
  · exact ⟨rfl, now, ttl, inWindow, prepared⟩
  rintro response ⟨version, rfl⟩
  refine ⟨version, rfl, ?_⟩
  change readers.Flies (request (.leaveFlight readers.digest)) _ .stored
  apply flies_request
  · rfl
  rintro response rfl
  exact ⟨(), rfl, returns _ (.inl rfl)⟩

theorem flies_follow {thread : ι} {event : Nat} {normal : CacheRead F → Phase → Prop}
    (returns : ∀ read, readers.Delivers read → normal read .served) :
    readers.Flies
      (readers.coordinator.follow readers.key (readers.required thread) none event) normal
      (.waiting event) := by
  apply flies_bind
  apply flies_request
  · rfl
  rintro response ⟨set, rfl⟩
  refine ⟨set, rfl, ?_⟩
  apply flies_bind
  change readers.Flies CacheCoordinator.sampleClock _ .woken
  apply flies_sampleClock
  · trivial
  · exact fun _ => rfl
  intro now inWindow
  apply flies_bind
  apply flies_cached_woken inWindow
  exact returns

theorem flies_readThrough {thread : ι} {now : Utc} {normal : CacheRead F → Phase → Prop}
    (inWindow : readers.window now)
    (returns : ∀ read, readers.Delivers read → normal read .served) :
    readers.Flies
      (readers.coordinator.readThrough readers.identity (readers.required thread) now) normal
      .looking := by
  apply flies_bind
  apply flies_lift readers.keyed
  apply flies_bind
  apply flies_cached_looking inWindow
  · exact returns
  apply flies_bind
  apply flies_lift readers.digested
  apply flies_bind
  apply flies_request
  · rfl
  rintro response ⟨⟨event, leader⟩, rfl⟩
  refine ⟨(event, leader), rfl, ?_⟩
  cases leader with
  | true => exact flies_lead inWindow returns
  | false => exact flies_follow returns

variable (readers) in
/-- The script of a reader. -/
def script (thread : ι) : Caching F (CacheRead F) :=
  readers.coordinator.read readers.identity (readers.required thread) (readers.given thread)

/-- Every reader meets its contract. -/
theorem meets_script (thread : ι) :
    (readers.script thread ()).Meets readers.contract readers.Post .looking := by
  have flies : readers.Flies (readers.script thread)
      (fun read phase => readers.Delivers read ∧ phase = .served) .looking := by
    have through : ∀ now, readers.window now → readers.Flies (if readers.coordinator.policy.enabled
        then readers.coordinator.readThrough readers.identity (readers.required thread) now
        else CacheCoordinator.readAround)
        (fun read phase => readers.Delivers read ∧ phase = .served) .looking := by
      intro now inWindow
      rw [readers.enabled]
      exact flies_readThrough inWindow fun _ delivers => ⟨delivers, rfl⟩
    apply flies_bind
    cases givenEq : readers.given thread with
    | none => exact flies_sampleClock trivial (fun _ => rfl) through
    | some time =>
        obtain ⟨instant, converted, inWindow⟩ := readers.inWindow thread time givenEq
        exact flies_lift (ensureUtc_eq_ok_iff.mpr converted) (through instant inWindow)
  apply Prog.Safe.mono flies
  rintro ⟨error | read, _⟩ phase held
  · exact held.elim
  · exact ⟨read, rfl, held⟩

end Readers

/-! ## The flight -/

/-- How far the one flight is. -/
inductive Flight (ι : Type)
  | idle
  | loading (leader : ι) (event : Nat)
  | carrying (leader : ι) (event : Nat)
  | storing (leader : ι) (event : Nat)
  | landed (event : Nat)

namespace Flight

/-- The leader and its phase. -/
def lead : Flight ι → Option (ι × Phase)
  | .idle => none
  | .loading leader _ => some (leader, .leading)
  | .carrying leader _ => some (leader, .loaded)
  | .storing leader _ => some (leader, .stored)
  | .landed _ => none

/-- The event in the flight table. -/
def running : Flight ι → Option Nat
  | .loading _ event | .carrying _ event | .storing _ event => some event
  | _ => none

/-- The event that readers may wait for. -/
def event : Flight ι → Option Nat
  | .idle => none
  | .loading _ event | .carrying _ event | .storing _ event | .landed event => some event

/-- The entry is in the cache. -/
def isStored : Flight ι → Bool
  | .storing _ _ | .landed _ => true
  | _ => false

/-- The flight has landed. -/
def isLanded : Flight ι → Bool
  | .landed _ => true
  | _ => false

/-- How often the loader has been called. -/
def loadCount : Flight ι → Nat
  | .idle | .loading _ _ => 0
  | _ => 1

/-- The events that have been set. -/
def finished : Flight ι → List Nat
  | .landed event => [event]
  | _ => []

/-- The phases of the readers other than the leader. -/
def Tolerates (flight : Flight ι) : Phase → Prop
  | .looking => True
  | .missed => True
  | .waiting event => flight.event = some event
  | .woken => flight.isLanded
  | .served => flight.isStored
  | _ => False

/-- Nobody else leads the flight. -/
def LedBy (flight : Flight ι) (thread : ι) : Prop :=
  ∀ other own, flight.lead = some (other, own) → other = thread

/-- The flight explains the phase of a reader. -/
def Explains (flight : Flight ι) (thread : ι) (phase : Phase) : Prop :=
  flight.lead = some (thread, phase) ∨
    (∀ own, flight.lead ≠ some (thread, own)) ∧ flight.Tolerates phase

variable {flight : Flight ι} {thread : ι}

theorem ledBy_loading {event : Nat} : (loading thread event).LedBy thread := by
  rintro other own ⟨⟩
  rfl

theorem ledBy_carrying {event : Nat} : (carrying thread event).LedBy thread := by
  rintro other own ⟨⟩
  rfl

theorem ledBy_storing {event : Nat} : (storing thread event).LedBy thread := by
  rintro other own ⟨⟩
  rfl

theorem Explains.loading (explains : flight.Explains thread .leading) :
    ∃ event, flight = .loading thread event := by
  rcases explains with leads | ⟨-, tolerates⟩
  · cases flight <;> simp_all [lead]
  · exact tolerates.elim

theorem Explains.carrying (explains : flight.Explains thread .loaded) :
    ∃ event, flight = .carrying thread event := by
  rcases explains with leads | ⟨-, tolerates⟩
  · cases flight <;> simp_all [lead]
  · exact tolerates.elim

theorem Explains.storing (explains : flight.Explains thread .stored) :
    ∃ event, flight = .storing thread event := by
  rcases explains with leads | ⟨-, tolerates⟩
  · cases flight <;> simp_all [lead]
  · exact tolerates.elim

theorem lead_ne_of_isBystander {phase : Phase} (bystander : phase.IsBystander) :
    flight.lead ≠ some (thread, phase) := by
  intro leads
  cases flight <;> simp [lead] at leads <;> rw [← leads.2] at bystander <;> exact bystander

theorem Explains.tolerates {phase : Phase} (explains : flight.Explains thread phase)
    (bystander : phase.IsBystander) : flight.Tolerates phase := by
  rcases explains with leads | ⟨-, tolerates⟩
  · exact absurd leads (lead_ne_of_isBystander bystander)
  · exact tolerates

end Flight

namespace Readers

variable (readers : Readers F ι)

/-- The flight explains the world. -/
structure Describes (flight : Flight ι) (world : World F ι) : Prop where
  time : readers.window world.time
  available : world.backend.available = true
  flights : world.flights.get? readers.digest = flight.running
  entry : match flight.isStored with
    | true => ∃ found, readers.Stored found.entry ∧ world.backend.entries.get?
        (readers.coordinator.policy.cacheResource, readers.digest) = some found
    | false => world.backend.entries.get?
        (readers.coordinator.policy.cacheResource, readers.digest) = none
  loads : world.loads.length = flight.loadCount
  finished : world.finished = flight.finished

/-- The invariant of a run: there is one flight, and it explains the world and the
phases of all readers. -/
structure Flown (phases : ι → Phase) (world : World F ι) (flight : Flight ι) : Prop where
  world : readers.Describes flight world
  phases : ∀ thread, flight.Explains thread (phases thread)

/-- The world answers, time stays in the window, every loader returns the content and
no wait times out. -/
def Calm [DecidableEq ι] (thread : ι) (before : World F ι) (hook : CacheHook F)
    (response : hook.Response) (after : World F ι) : Prop :=
  World.Responds thread before hook response after ∧ readers.window after.time ∧
    World.Orderly readers.content hook response

/-- A reader registers as a leader only while the cache holds no entry. -/
def Timely (before : World F ι) (hook : CacheHook F) : Prop :=
  hook = .joinFlight readers.digest → before.flights.get? readers.digest = none →
    before.backend.entries.get? (readers.coordinator.policy.cacheResource, readers.digest) = none

/-- The world answers calmly and the call is timely. -/
def Punctual [DecidableEq ι] (thread : ι) (before : World F ι) (hook : CacheHook F)
    (response : hook.Response) (after : World F ι) : Prop :=
  readers.Calm thread before hook response after ∧ readers.Timely before hook

variable {readers} [DecidableEq ι] {phases : ι → Phase} {world after : World F ι}
  {flight : Flight ι} {thread : ι}

/-- A reader other than the leader moves on, and the flight stays as it is. -/
theorem Flown.move {phase : Phase} (flown : readers.Flown phases world flight)
    (bystander : (phases thread).IsBystander) (tolerates : flight.Tolerates phase)
    (describes : readers.Describes flight after) :
    readers.Flown (Function.update phases thread phase) after flight := by
  refine ⟨describes, ?_⟩
  intro other
  by_cases same : other = thread
  · subst same
    rw [Function.update_self]
    rcases flown.phases other with leads | ⟨follows, -⟩
    · exact absurd leads (Flight.lead_ne_of_isBystander bystander)
    · exact .inr ⟨follows, tolerates⟩
  · rw [Function.update_of_ne same]
    exact flown.phases other

/-- The leader, or a reader that becomes the leader, moves on with the flight. -/
theorem Flown.advance {later : Flight ι} {phase : Phase} (flown : readers.Flown phases world flight)
    (leader : flight.LedBy thread) (explains : later.Explains thread phase)
    (laterLeader : later.LedBy thread)
    (tolerates : ∀ phase, flight.Tolerates phase → later.Tolerates phase)
    (describes : readers.Describes later after) :
    readers.Flown (Function.update phases thread phase) after later := by
  refine ⟨describes, ?_⟩
  intro other
  by_cases same : other = thread
  · subst same
    rw [Function.update_self]
    exact explains
  · rw [Function.update_of_ne same]
    rcases flown.phases other with leads | ⟨-, tolerated⟩
    · exact absurd (leader other _ leads) same
    · exact .inr ⟨fun own leads => same (laterLeader other own leads), tolerates _ tolerated⟩

/-! ## One step -/

theorem Describes.seen (describes : readers.Describes flight world) (call : CacheCall F) :
    readers.Describes flight (world.seen thread call) :=
  ⟨describes.time, describes.available, describes.flights, describes.entry, describes.loads,
    describes.finished⟩

/-- A clock sample in a phase that allows one. -/
theorem Flown.clock {response : Except Exc DateTime} (flown : readers.Flown phases world flight)
    (bystander : (phases thread).IsBystander)
    (calm : readers.Calm thread world .clock response after) :
    (∃ time instant, response = .ok time ∧ time.toUtc = .ok instant ∧ readers.window instant) ∧
      readers.Flown (Function.update phases thread (phases thread)) after flight := by
  obtain ⟨⟨answered, answers, rfl⟩, inWindow, -⟩ := calm
  cases answers with
  | clock time instant converted later =>
      refine ⟨⟨time, instant, rfl, converted, inWindow⟩, ?_⟩
      apply flown.move bystander ((flown.phases thread).tolerates bystander)
      exact ⟨inWindow, flown.world.available, flown.world.flights, flown.world.entry,
        flown.world.loads, flown.world.finished⟩

omit [DecidableEq ι] in
/-- What a lookup finds. -/
theorem Describes.get (describes : readers.Describes flight world) {resource : Str}
    {key : PyValue F} (looks : readers.Looks resource key) :
    match flight.isStored with
    | true => readers.Finds (world.backend.get resource key)
    | false => world.backend.get resource key = .ok none := by
  obtain ⟨rfl, rfl⟩ := looks
  have entry := describes.entry
  rw [InMemoryCacheBackend.get_eq_ok describes.available readers.digested]
  cases storedEq : flight.isStored with
  | true =>
      rw [storedEq] at entry
      obtain ⟨found, stored, present⟩ := entry
      exact ⟨found, by rw [present], stored⟩
  | false =>
      rw [storedEq] at entry
      dsimp only at entry ⊢
      rw [entry]

theorem Flown.get_looking {resource : Str} {key : PyValue F}
    {response : Except Exc (Option (VersionedCacheEntry F))}
    (flown : readers.Flown phases world flight) (looking : phases thread = .looking)
    (looks : readers.Looks resource key)
    (calm : readers.Calm thread world (.get resource key) response after) :
    readers.contract.answers .looking (.get resource key) response ∧
      readers.Flown (Function.update phases thread
        (readers.contract.next .looking (.get resource key) response)) after flight := by
  obtain ⟨⟨answered, answers, rfl⟩, -, -⟩ := calm
  cases answers with
  | get =>
      have found := flown.world.get looks
      have bystander : (phases thread).IsBystander := by rw [looking]; trivial
      cases storedEq : flight.isStored with
      | true =>
          rw [storedEq] at found
          refine ⟨.inr found, ?_⟩
          obtain ⟨entry, responseEq, -⟩ := found
          rw [responseEq]
          exact flown.move bystander storedEq (flown.world.seen _)
      | false =>
          rw [storedEq] at found
          refine ⟨.inl found, ?_⟩
          rw [found]
          exact flown.move bystander trivial (flown.world.seen _)

theorem Flown.get_woken {resource : Str} {key : PyValue F}
    {response : Except Exc (Option (VersionedCacheEntry F))}
    (flown : readers.Flown phases world flight) (woken : phases thread = .woken)
    (looks : readers.Looks resource key)
    (calm : readers.Calm thread world (.get resource key) response after) :
    readers.Finds response ∧ readers.Flown (Function.update phases thread .served) after flight := by
  obtain ⟨⟨answered, answers, rfl⟩, -, -⟩ := calm
  cases answers with
  | get =>
      have found := flown.world.get looks
      have bystander : (phases thread).IsBystander := by rw [woken]; trivial
      have landed := (flown.phases thread).tolerates bystander
      rw [woken] at landed
      have storedEq : flight.isStored = true := by
        cases flight with
        | landed event => rfl
        | _ => cases landed
      rw [storedEq] at found
      exact ⟨found, flown.move bystander storedEq (flown.world.seen _)⟩

/-- A reader that missed joins the running flight, or leads one if there was none. -/
theorem Flown.joinFlight {response : Except Exc (Nat × Bool)}
    (flown : readers.Flown phases world flight) (missed : phases thread = .missed)
    (calm : readers.Calm thread world (.joinFlight readers.digest) response after)
    (timely : readers.Timely world (.joinFlight readers.digest)) :
    (∃ answer, response = .ok answer) ∧ ∃ later,
      readers.Flown (Function.update phases thread
        (readers.contract.next .missed (.joinFlight readers.digest) response)) after later := by
  obtain ⟨⟨answered, answers, rfl⟩, inWindow, -⟩ := calm
  cases answers with
  | joinFlight =>
      refine ⟨⟨_, rfl⟩, ?_⟩
      have bystander : (phases thread).IsBystander := by rw [missed]; trivial
      have flights := flown.world.flights
      cases runningEq : flight.running with
      | some event =>
          rw [runningEq] at flights
          rw [World.join, flights]
          refine ⟨flight, flown.move bystander ?_ (flown.world.seen _)⟩
          cases flight with
          | landed other => cases runningEq
          | _ => exact runningEq
      | none =>
          rw [runningEq] at flights
          have absent := timely rfl flights
          have idle : flight = .idle := by
            have entry := flown.world.entry
            cases flight with
            | idle => rfl
            | landed event =>
                obtain ⟨found, -, present⟩ := entry
                rw [present] at absent
                cases absent
            | _ => cases runningEq
          subst idle
          rw [World.join, flights]
          refine ⟨.loading thread world.events,
            flown.advance ?_ (.inl rfl) Flight.ledBy_loading ?_ ?_⟩
          · rintro other own ⟨⟩
          · intro phase tolerates
            cases phase <;> trivial
          · exact ⟨flown.world.time, flown.world.available, Dict.get?_set_self _ _ _,
              flown.world.entry, flown.world.loads, flown.world.finished⟩

/-- The leader loads. -/
theorem Flown.load {response : Except Exc (Option (LoadedValue F))}
    (flown : readers.Flown phases world flight) (leading : phases thread = .leading)
    (calm : readers.Calm thread world .load response after) :
    response = .ok readers.content ∧ ∃ later,
      readers.Flown (Function.update phases thread .loaded) after later := by
  obtain ⟨⟨answered, answers, rfl⟩, inWindow, loaded⟩ := calm
  refine ⟨loaded, ?_⟩
  have explains := flown.phases thread
  rw [leading] at explains
  obtain ⟨event, rfl⟩ := explains.loading
  cases answers with
  | loads content instant later =>
      refine ⟨.carrying thread event,
        flown.advance Flight.ledBy_loading (.inl rfl) Flight.ledBy_carrying ?_ ?_⟩
      · intro phase tolerates
        cases phase <;> exact tolerates
      · refine ⟨inWindow, flown.world.available, flown.world.flights, flown.world.entry, ?_,
          flown.world.finished⟩
        change (world.loads ++ [_]).length = 1
        rw [List.length_append, flown.world.loads]
        rfl
  | raises => cases loaded

/-- The leader stores. -/
theorem Flown.put {made : CacheEntry F} {ttlMs : Int} {response : Except Exc Version}
    (flown : readers.Flown phases world flight) (loaded : phases thread = .loaded)
    (stored : readers.Stored made)
    (calm : readers.Calm thread world
      (.put readers.coordinator.policy.cacheResource made ttlMs) response after) :
    (∃ version, response = .ok version) ∧ ∃ later,
      readers.Flown (Function.update phases thread .stored) after later := by
  obtain ⟨⟨answered, answers, rfl⟩, inWindow, -⟩ := calm
  have explains := flown.phases thread
  rw [loaded] at explains
  obtain ⟨event, rfl⟩ := explains.carrying
  have digested : digestOf made.key.toPy = .ok readers.digest := by
    obtain ⟨created, ttl, -, prepared⟩ := stored
    rw [InMemoryCacheBackend.digestOf_toPy
      (CacheCoordinator.made_of_entry readers.keeps prepared).key_eq, readers.digested]
  cases answers with
  | put =>
      rw [InMemoryCacheBackend.put_eq_ok flown.world.available digested]
      refine ⟨⟨_, rfl⟩, .storing thread event,
        flown.advance Flight.ledBy_carrying (.inl rfl) Flight.ledBy_storing ?_ ?_⟩
      · intro phase tolerates
        cases phase <;> first | exact tolerates | cases tolerates
      · exact ⟨inWindow, flown.world.available, flown.world.flights,
          ⟨_, stored, Dict.get?_set_self _ _ _⟩, flown.world.loads, flown.world.finished⟩

/-- The leader ends the flight. -/
theorem Flown.leaveFlight {response : Except Exc Unit} (flown : readers.Flown phases world flight)
    (stored : phases thread = .stored)
    (calm : readers.Calm thread world (.leaveFlight readers.digest) response after) :
    response = .ok () ∧ ∃ later,
      readers.Flown (Function.update phases thread .served) after later := by
  obtain ⟨⟨answered, answers, rfl⟩, inWindow, -⟩ := calm
  have explains := flown.phases thread
  rw [stored] at explains
  obtain ⟨event, rfl⟩ := explains.storing
  cases answers with
  | leaveFlight =>
      rw [World.leave, flown.world.flights]
      refine ⟨rfl, .landed event,
        flown.advance Flight.ledBy_storing (.inr ⟨?_, rfl⟩) ?_ ?_ ?_⟩
      · rintro own ⟨⟩
      · rintro other own ⟨⟩
      · intro phase tolerates
        cases phase <;> first | exact tolerates | cases tolerates
      · refine ⟨flown.world.time, flown.world.available, ?_, flown.world.entry, flown.world.loads, ?_⟩
        · exact (Dict.get?_erase _ _ _).trans (if_pos rfl)
        · exact congrArg (· ++ [event]) flown.world.finished

/-- A reader is woken after the flight has landed. -/
theorem Flown.wait {event : Nat} {response : Except Exc Bool}
    (flown : readers.Flown phases world flight) (waiting : phases thread = .waiting event)
    (calm : readers.Calm thread world (.wait event) response after) :
    (∃ set, response = .ok set) ∧
      readers.Flown (Function.update phases thread .woken) after flight := by
  obtain ⟨⟨answered, answers, rfl⟩, -, inTime⟩ := calm
  refine ⟨⟨true, inTime⟩, ?_⟩
  cases answers with
  | wait =>
      have bystander : (phases thread).IsBystander := by rw [waiting]; trivial
      have finished : event ∈ flight.finished := by
        rw [← flown.world.finished]
        exact of_decide_eq_true (Except.ok.inj inTime)
      have landed : flight.isLanded = true := by
        cases flight with
        | landed event => rfl
        | _ => cases finished
      exact flown.move bystander landed (flown.world.seen _)

/-- One step of a timely run keeps the invariant and gives the answers that the reader
relies on. -/
theorem Flown.step {hook : CacheHook F} {response : hook.Response}
    (flown : readers.Flown phases world flight)
    (allowed : readers.contract.allows (phases thread) hook)
    (calm : readers.Calm thread world hook response after) (timely : readers.Timely world hook) :
    readers.contract.answers (phases thread) hook response ∧ ∃ later,
      readers.Flown (Function.update phases thread
        (readers.contract.next (phases thread) hook response)) after later := by
  cases phaseEq : phases thread with
  | looking =>
      rw [phaseEq] at allowed
      cases hook with
      | clock =>
          obtain ⟨relied, kept⟩ := flown.clock (by rw [phaseEq]; trivial) calm
          rw [phaseEq] at kept
          exact ⟨relied, flight, kept⟩
      | get =>
          obtain ⟨relied, kept⟩ := flown.get_looking phaseEq allowed calm
          exact ⟨relied, flight, kept⟩
      | _ => exact allowed.elim
  | missed =>
      rw [phaseEq] at allowed
      cases hook with
      | joinFlight =>
          cases allowed
          exact flown.joinFlight phaseEq calm timely
      | _ => exact allowed.elim
  | leading =>
      rw [phaseEq] at allowed
      cases hook with
      | load => exact flown.load phaseEq calm
      | _ => exact allowed.elim
  | loaded =>
      rw [phaseEq] at allowed
      cases hook with
      | put =>
          obtain ⟨rfl, stored⟩ := allowed
          exact flown.put phaseEq stored calm
      | _ => exact allowed.elim
  | stored =>
      rw [phaseEq] at allowed
      cases hook with
      | leaveFlight =>
          cases allowed
          exact flown.leaveFlight phaseEq calm
      | _ => exact allowed.elim
  | waiting event =>
      rw [phaseEq] at allowed
      cases hook with
      | wait =>
          cases allowed
          obtain ⟨relied, kept⟩ := flown.wait phaseEq calm
          exact ⟨relied, flight, kept⟩
      | _ => exact allowed.elim
  | woken =>
      rw [phaseEq] at allowed
      cases hook with
      | clock =>
          obtain ⟨relied, kept⟩ := flown.clock (by rw [phaseEq]; trivial) calm
          rw [phaseEq] at kept
          exact ⟨relied, flight, kept⟩
      | get =>
          obtain ⟨relied, kept⟩ := flown.get_woken phaseEq allowed calm
          exact ⟨relied, flight, kept⟩
      | _ => exact allowed.elim
  | served =>
      rw [phaseEq] at allowed
      cases hook <;> exact allowed.elim

/-! ## Runs -/

/-- The readers of a run and the world that they share. -/
abbrev FlightPool (_ : Readers F ι) :=
  Pool (CacheHook F) CacheHook.Response (Except Exc (CacheRead F) × Unit) ι (World F ι)

variable (readers) in
/-- The readers at the start of their reads. -/
def start (world : World F ι) : readers.FlightPool :=
  ⟨fun thread => readers.script thread (), world⟩

theorem start_reachable {env : ι → World F ι → (hook : CacheHook F) → hook.Response → World F ι → Prop} :
    Pool.Reachable env (readers.start world)
      ⟨Function.update (readers.start world).threads thread (readers.script thread ()), world⟩ := by
  have unchanged : Function.update (readers.start world).threads thread
      (readers.script thread ()) = (readers.start world).threads := Function.update_eq_self _ _
  rw [unchanged]
  exact .refl

/-- The world can answer every call but a wait for a flight that has not landed. -/
theorem exists_calm (thread : ι) (inWindow : readers.window world.time) (hook : CacheHook F)
    (landed : ∀ event, hook = .wait event → event ∈ world.finished) :
    ∃ response after, readers.Calm thread world hook response after := by
  cases hook with
  | clock =>
      exact ⟨_, _, ⟨_, .clock (.ofUtc world.time) world.time (DateTime.toUtc_ofUtc _) le_rfl, rfl⟩,
        inWindow, trivial⟩
  | get resource key => exact ⟨_, _, ⟨_, .get resource key, rfl⟩, inWindow, trivial⟩
  | put resource entry ttlMs => exact ⟨_, _, ⟨_, .put resource entry ttlMs, rfl⟩, inWindow, trivial⟩
  | putIfAbsent resource entry ttlMs =>
      exact ⟨_, _, ⟨_, .putIfAbsent resource entry ttlMs, rfl⟩, inWindow, trivial⟩
  | compareAndSet resource entry version ttlMs =>
      exact ⟨_, _, ⟨_, .compareAndSet resource entry version ttlMs, rfl⟩, inWindow, trivial⟩
  | delete resource key => exact ⟨_, _, ⟨_, .delete resource key, rfl⟩, inWindow, trivial⟩
  | invalidate resource selector =>
      exact ⟨_, _, ⟨_, .invalidate resource selector, rfl⟩, inWindow, trivial⟩
  | record evidence => exact ⟨.ok (), _, ⟨_, .record evidence _, rfl⟩, inWindow, trivial⟩
  | load => exact ⟨_, _, ⟨_, .loads readers.content world.time le_rfl, rfl⟩, inWindow, rfl⟩
  | joinFlight flightKey =>
      refine ⟨_, _, ⟨_, .joinFlight flightKey, rfl⟩, ?_, trivial⟩
      change readers.window (world.join flightKey).2.time
      unfold World.join
      split <;> exact inWindow
  | wait event =>
      refine ⟨_, _, ⟨_, .wait event, rfl⟩, inWindow, ?_⟩
      exact congrArg Except.ok (decide_eq_true (landed event rfl))
  | leaveFlight flightKey =>
      refine ⟨_, _, ⟨_, .leaveFlight flightKey, rfl⟩, ?_, trivial⟩
      change readers.window (world.leave flightKey).2.time
      unfold World.leave
      split <;> exact inWindow

omit [DecidableEq ι] in
/-- A flight in the table has a leader that has not returned. -/
theorem Flown.exists_leader {event : Nat} (flown : readers.Flown phases world flight)
    (running : flight.running = some event) : ∃ leader, ¬ (phases leader).IsBystander := by
  have leads : ∃ leader own, flight.lead = some (leader, own) ∧ ¬ own.IsBystander := by
    cases flight with
    | loading leader event => exact ⟨leader, .leading, rfl, id⟩
    | carrying leader event => exact ⟨leader, .loaded, rfl, id⟩
    | storing leader event => exact ⟨leader, .stored, rfl, id⟩
    | _ => cases running
  obtain ⟨leader, own, leads, notBystander⟩ := leads
  refine ⟨leader, ?_⟩
  rcases flown.phases leader with same | ⟨follows, -⟩
  · rw [leads] at same
    cases same
    exact notBystander
  · exact absurd leads (follows own)

/-- A supervised pool in which no step is possible has returned. -/
theorem returned_of_stuck {pool : readers.FlightPool}
    (supervised : Pool.Supervised (fun _ => readers.contract) (fun _ => readers.Post)
      (fun phases world => ∃ flight, readers.Flown phases world flight) phases pool)
    (stuck : ∀ next, ¬ Pool.Step readers.Calm pool next) (thread : ι) :
    ∃ outcome, pool.threads thread = .ret outcome := by
  obtain ⟨flight, flown⟩ := supervised.invariant
  -- A reader that has not returned waits for the flight.
  have waits : ∀ thread hook next, pool.threads thread = .call hook next →
      ∃ event, hook = .wait event ∧ event ∉ pool.state.finished := by
    intro thread hook next requests
    by_contra answered
    push Not at answered
    obtain ⟨response, after, calm⟩ := exists_calm thread flown.world.time hook answered
    exact stuck _ (.request pool.threads pool.state after thread hook next response requests calm)
  cases threadEq : pool.threads thread with
  | ret outcome => exact ⟨outcome, rfl⟩
  | call hook next =>
      exfalso
      obtain ⟨event, rfl, unfinished⟩ := waits thread hook next threadEq
      have meets := supervised.meets thread
      rw [threadEq] at meets
      have waiting : phases thread = .waiting event := by
        have allowed := meets.1
        cases phaseEq : phases thread with
        | waiting other =>
            rw [phaseEq] at allowed
            cases allowed
            rfl
        | _ =>
            rw [phaseEq] at allowed
            exact allowed.elim
      have bystander : (phases thread).IsBystander := by rw [waiting]; trivial
      have eventEq := (flown.phases thread).tolerates bystander
      rw [waiting] at eventEq
      have running : flight.running = some event := by
        cases flight with
        | landed other =>
            cases eventEq
            rw [flown.world.finished] at unfinished
            exact absurd (List.mem_singleton_self _) unfinished
        | _ => exact eventEq
      -- Its leader neither waits nor has returned.
      obtain ⟨leader, notBystander⟩ := flown.exists_leader running
      cases leaderEq : pool.threads leader with
      | ret outcome =>
          obtain ⟨read, -, -, served⟩ := supervised.post leaderEq
          rw [served] at notBystander
          exact notBystander trivial
      | call leaderHook leaderNext =>
          obtain ⟨other, rfl, -⟩ := waits leader leaderHook leaderNext leaderEq
          have leaderMeets := supervised.meets leader
          rw [leaderEq] at leaderMeets
          have allowed := leaderMeets.1
          cases phaseEq : phases leader with
          | waiting other =>
              rw [phaseEq] at notBystander
              exact notBystander trivial
          | _ =>
              rw [phaseEq] at allowed
              exact allowed.elim

/-- Single-flight loading, when nobody registers late.  In every calm run in which a
reader registers as a leader only while the cache holds no entry, the loader is called at
most once and every read that returns delivers what it loaded; when no step is left, the
loader has been called once and every read has returned.  No run is endless. -/
theorem single_flight [Finite ι] [Nonempty ι] (readers : Readers F ι) (time : Utc)
    (backend : InMemoryCacheBackend F) (inWindow : readers.window time)
    (available : backend.available = true)
    (absent : backend.entries.get? (readers.coordinator.policy.cacheResource, readers.digest) = none)
    (pool : readers.FlightPool)
    (reachable : Pool.Reachable readers.Punctual
      (readers.start { time := time, backend := backend }) pool) :
    pool.state.loads.length ≤ 1 ∧
    (∀ thread outcome, pool.threads thread = .ret outcome →
      ∃ read, outcome = (.ok read, ()) ∧ readers.Delivers read) ∧
    ((∀ next, ¬ Pool.Step readers.Calm pool next) →
      pool.state.loads.length = 1 ∧ ∀ thread, ∃ read,
        pool.threads thread = .ret (.ok read, ()) ∧ readers.Delivers read) ∧
    WellFounded fun after before : readers.FlightPool => Pool.Step readers.Calm before after := by
  have initially : Pool.Supervised (fun _ => readers.contract) (fun _ => readers.Post)
      (fun phases world => ∃ flight, readers.Flown phases world flight) (fun _ => .looking)
      (readers.start { time := time, backend := backend }) := by
    refine ⟨meets_script, .idle, ⟨inWindow, available, rfl, absent, rfl, rfl⟩, ?_⟩
    exact fun _ => .inr ⟨nofun, trivial⟩
  obtain ⟨phases, supervised⟩ := reachable.supervised
    (by
      rintro phases world thread hook response after ⟨flight, flown⟩ allowed ⟨calm, timely⟩
      exact flown.step allowed calm timely)
    initially
  obtain ⟨flight, flown⟩ := supervised.invariant
  refine ⟨?_, ?_, ?_, Pool.step_wellFounded⟩
  · rw [flown.world.loads]
    cases flight <;> simp [Flight.loadCount]
  · intro thread outcome returned
    obtain ⟨read, equal, delivers, -⟩ := supervised.post returned
    exact ⟨read, equal, delivers⟩
  · intro stuck
    have returned : ∀ thread, ∃ read, pool.threads thread = .ret (.ok read, ()) ∧
        readers.Delivers read ∧ phases thread = .served := by
      intro thread
      obtain ⟨outcome, threadEq⟩ := returned_of_stuck supervised stuck thread
      obtain ⟨read, rfl, delivers, served⟩ := supervised.post threadEq
      exact ⟨read, threadEq, delivers, served⟩
    constructor
    · obtain ⟨thread⟩ := ‹Nonempty ι›
      obtain ⟨read, -, -, served⟩ := returned thread
      have stored := flown.phases thread
      rw [served] at stored
      have isStored : flight.isStored = true := stored.tolerates trivial
      rw [flown.world.loads]
      cases flight with
      | idle => cases isStored
      | loading => cases isStored
      | _ => rfl
    · intro thread
      obtain ⟨read, threadEq, delivers, -⟩ := returned thread
      exact ⟨read, threadEq, delivers⟩

/-! ## A late leader -/

open CacheCoordinator

/-- The digest of the key of the sample row. -/
def sampleDigest : Str := (digestOf sampleKey).toOption.getD []

theorem digestOf_sampleKey : digestOf sampleKey = .ok sampleDigest := by
  obtain ⟨values, bytes, accepted⟩ := CachePolicy.exists_keyed rowColumnPolicy_key
  have digested : digestOf sampleKey = .ok (prefixedDigest bytes) := accepted.digestOf
  rw [sampleDigest, digested]
  rfl

/-- Two readers of the sample row at noon. -/
def sampleReaders : Readers Empty Bool where
  coordinator := sample
  identity := sampleIdentity 1 2
  key := sampleKey
  digest := sampleDigest
  required _ := none
  given _ := none
  content := some sampleLoaded
  window now := now = sampleInstant
  enabled := rfl
  keeps := keeps_textEnvelope
  keyed := rowColumnPolicy_key
  digested := digestOf_sampleKey
  inWindow := nofun
  prepares := by
    rintro _ rfl
    exact ⟨_, _, entry_sample⟩
  valid := by
    rintro _ made ttl rfl prepared thread _ rfl
    rw [entry_sample] at prepared
    cases prepared
    exact validEntry_sampleEntry
  decodes := by
    rintro _ _ _ ⟨⟩ ⟨⟩ ⟨⟩
    exact ⟨.int 7, rfl, .int 7, .int 7, rfl, rfl, rfl⟩

/-- The world before the sample row is read. -/
def sampleWorld : World Empty Bool := { time := sampleInstant }

/-- The world after the first reader has looked. -/
def missedWorld : World Empty Bool :=
  (sampleWorld.seen false ⟨.clock, .ok (.ofUtc sampleInstant)⟩).seen false
    ⟨.get sample.policy.cacheResource sampleKey, .ok none⟩

/-- A run while time stands still is calm. -/
theorem calm_of_still {α : Type} {program : Prog (CacheHook Empty) CacheHook.Response α}
    {thread : Bool} {world final : World Empty Bool} {value : α} (time : world.time = sampleInstant)
    (returns : program.Returns (World.Still sampleReaders.content thread) world value final) :
    program.Returns (sampleReaders.Calm thread) world value final := by
  apply returns.mono fun world => world.time = sampleInstant
  · rintro before hook response after time ⟨responds, unchanged, orderly⟩
    exact ⟨⟨responds, unchanged.trans time, orderly⟩, unchanged.trans time⟩
  · exact time

/-- The first reader misses, the second one reads undisturbed, and then the first one
registers: the loader is called twice. -/
theorem late_leader_loads_again :
    ∃ pool : sampleReaders.FlightPool,
      Pool.Reachable sampleReaders.Calm (sampleReaders.start sampleWorld) pool ∧
      (∀ thread, ∃ read, pool.threads thread = .ret (.ok read, ())) ∧
      pool.state.loads.length = 2 := by
  have begun : Pool.Reachable sampleReaders.Calm (sampleReaders.start sampleWorld)
      ⟨Function.update _ false (sampleReaders.script false ()), sampleWorld⟩ := start_reachable
  have sampled := begun.continue_script (calm_of_still rfl World.sampleClock_returns)
  have keyed := sampled.continue_script (Script.returns_lift rowColumnPolicy_key)
  have missed := keyed.continue_script
    (calm_of_still rfl (World.cached_returns_none rfl digestOf_sampleKey rfl))
  obtain ⟨landed, reads, time, free, backend, loads⟩ := World.read_returns_miss rfl
    rowColumnPolicy_key (show missedWorld.backend.available = true from rfl) digestOf_sampleKey rfl
    rfl entry_sample rfl
  have second : Pool.Reachable sampleReaders.Calm (sampleReaders.start sampleWorld)
      ⟨Function.update _ true _, landed⟩ := missed.of_returns (calm_of_still rfl reads)
  have available : landed.backend.available = true := by
    rw [backend]
    rfl
  obtain ⟨final, flies, -, -, -, finalLoads⟩ :=
    World.fly_returns available digestOf_sampleKey free entry_sample rfl
  have both : Pool.Reachable sampleReaders.Calm (sampleReaders.start sampleWorld)
      ⟨Function.update _ false _, final⟩ := second.of_returns (calm_of_still time flies)
  refine ⟨_, both, ?_, ?_⟩
  · rintro (_ | _)
    · exact ⟨_, rfl⟩
    · exact ⟨_, rfl⟩
  · rw [finalLoads, loads]
    rfl

/-- A punctual answer to a request. -/
theorem punctual_returns {thread : Bool} {world after : World Empty Bool} {hook : CacheHook Empty}
    {response : hook.Response} (answers : World.Answers thread world hook response after)
    (time : after.time = sampleInstant) (orderly : World.Orderly sampleReaders.content hook response)
    (timely : sampleReaders.Timely world hook) {α : Type} (answer : hook.Response → Except Exc α) :
    ((Script.invoke hook answer : Caching Empty α) ()).Returns (sampleReaders.Punctual thread) world
      (answer response, ()) (after.seen thread ⟨hook, response⟩) :=
  Script.returns_invoke ⟨⟨⟨after, answers, rfl⟩, time, orderly⟩, timely⟩

/-- The first reader looks and registers in time. -/
theorem single_flight_sample :
    ∃ pool : sampleReaders.FlightPool,
      Pool.Reachable sampleReaders.Punctual (sampleReaders.start sampleWorld) pool ∧
      pool.state.flights.get? sampleDigest = some 0 ∧ pool.state.loads.length ≤ 1 := by
  have begun : Pool.Reachable sampleReaders.Punctual (sampleReaders.start sampleWorld)
      ⟨Function.update _ false (sampleReaders.script false ()), sampleWorld⟩ := start_reachable
  have clock : World.Answers false sampleWorld .clock (.ok (.ofUtc sampleInstant)) sampleWorld :=
    .clock _ sampleInstant (DateTime.toUtc_ofUtc _) le_rfl
  have sampled := begun.continue_script (Script.returns_bind
    (punctual_returns clock rfl trivial nofun id)
    (Script.returns_lift (ensureUtc_eq_ok_iff.mpr (DateTime.toUtc_ofUtc sampleInstant))))
  have keyed := sampled.continue_script (Script.returns_lift rowColumnPolicy_key)
  have get : World.Answers false (sampleWorld.seen false ⟨.clock, .ok (.ofUtc sampleInstant)⟩)
      (.get sample.policy.cacheResource sampleKey) _ _ := .get _ _
  rw [InMemoryCacheBackend.get_eq_ok rfl digestOf_sampleKey] at get
  have missed := keyed.continue_script (Script.returns_bind
    (punctual_returns get rfl trivial nofun caught) (.ret _ _))
  have digested := missed.continue_script (Script.returns_lift digestOf_sampleKey)
  have registered := digested.continue_script
    (punctual_returns (World.joinFlight_answers rfl) rfl trivial (fun _ _ => rfl) id)
  exact ⟨_, registered, Dict.get?_set_self _ _ _, (single_flight sampleReaders sampleInstant {} rfl
    rfl rfl _ registered).1⟩

end Readers

end DataLifecycle.Cache
