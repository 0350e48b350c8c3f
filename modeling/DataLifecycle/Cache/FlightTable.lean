import DataLifecycle.Cache.World

/-!
# The flight table

A read registers in the flight table and leaves it in two critical sections with its load in
between.  Whatever the clock, the backend, the evidence sink and the loaders answer or raise, every
entry of the table belongs to the one read that registered it and has not left yet, so a read finds
its own event when it leaves and no follower waits for a flight that has ended.
-/

namespace DataLifecycle.Cache

open Python Interaction

variable {F ι : Type}

/-! ## Calls on the ground -/

/-- A call that does not touch the flight table. -/
def CacheHook.IsGround : CacheHook F → Prop
  | .joinFlight _ => False
  | .wait _ => False
  | .leaveFlight _ => False
  | _ => True

/-- The part calls only what does not touch the flight table. -/
def Ground {α : Type} (part : Caching F α) : Prop :=
  part.Safe (fun (_ : Unit) _ _ _ => True) (fun _ hook => hook.IsGround) (fun _ _ _ => True)
    (fun _ _ _ => True) () ()

section Ground

variable {α β : Type}

theorem ground_bind {part : Caching F β} {rest : β → Caching F α} (first : Ground part)
    (others : ∀ value, Ground (rest value)) : Ground (part >>= rest) := by
  apply Script.safe_bind.mpr
  apply Script.Safe.mono first
  · exact fun value _ _ _ => others value
  · exact fun _ _ _ _ => trivial

theorem ground_pure (value : α) : Ground (pure value : Caching F α) :=
  trivial

theorem ground_lift (result : Except Exc α) : Ground (Script.lift result : Caching F α) := by
  cases result with
  | ok value => trivial
  | error error => trivial

theorem ground_refuse (condition : Prop) [Decidable condition] (error : Exc) :
    Ground (Script.refuse condition error : Caching F Unit) :=
  Script.safe_refuse.mpr ⟨fun _ => trivial, fun _ => trivial⟩

theorem ground_invoke (hook : CacheHook F) (ground : hook.IsGround)
    (answer : hook.Response → Except Exc α) : Ground (Script.invoke hook answer : Caching F α) := by
  apply Script.safe_invoke.mpr
  refine ⟨ground, fun response after _ => ?_⟩
  cases answer response with
  | ok value => trivial
  | error error => trivial

variable [FloatText F] (coordinator : CacheCoordinator F)

theorem ground_recordFailure (state : String) (error : Exc) (now : Utc) :
    Ground (coordinator.recordFailure state error now) := by
  apply ground_bind (ground_lift _)
  intro evidence
  apply ground_bind (ground_invoke (.record evidence) trivial id)
  exact fun _ => ground_pure _

theorem ground_evict (state : String) (key : PyValue F) (now : Utc) :
    Ground (coordinator.evict state key now) := by
  apply ground_bind (ground_invoke (.delete _ _) trivial caught)
  intro response
  cases response with
  | ok existed => exact ground_pure ()
  | error error =>
      apply ground_bind (ground_recordFailure coordinator state error now)
      exact fun _ => ground_pure ()

theorem ground_readFailed (error : Exc) (now : Utc) :
    Ground (coordinator.readFailed error now) := by
  apply ground_bind (ground_recordFailure coordinator _ error now)
  intro code
  apply ground_bind (ground_refuse _ _)
  exact fun _ => ground_pure _

theorem ground_serve (key : PyValue F) (entry : CacheEntry F) (now : Utc) :
    Ground (coordinator.serve key entry now) := by
  unfold CacheCoordinator.serve
  split
  · exact ground_pure _
  · apply ground_bind (ground_lift _)
    intro decoded
    cases decoded with
    | ok value => exact ground_pure _
    | error error =>
        apply ground_bind (ground_evict coordinator _ key now)
        intro _
        apply ground_bind (ground_recordFailure coordinator _ error now)
        exact fun _ => ground_pure _

theorem ground_judge (key : PyValue F) (entry : CacheEntry F) (required : Option Version)
    (now : Utc) : Ground (coordinator.judge key entry required now) := by
  apply ground_bind (ground_lift _)
  intro valid
  cases valid with
  | true => exact ground_serve coordinator key entry now
  | false =>
      apply ground_bind (ground_evict coordinator _ key now)
      exact fun _ => ground_pure _

theorem ground_cached (key : PyValue F) (required : Option Version) (now : Utc) :
    Ground (coordinator.cached key required now) := by
  apply ground_bind (ground_invoke (.get _ _) trivial caught)
  intro response
  rcases response with error | _ | found
  · exact ground_readFailed coordinator error now
  · exact ground_pure _
  · exact ground_judge coordinator key found.entry required now

theorem ground_populate (prepared : Option (CacheEntry F × Int)) (cacheError : Option Str)
    (now : Utc) : Ground (coordinator.populate prepared cacheError now) := by
  cases prepared with
  | none => exact ground_pure _
  | some prepared =>
      apply ground_bind (ground_invoke (.put _ _ _) trivial caught)
      intro response
      cases response with
      | ok version => exact ground_pure _
      | error error =>
          apply ground_bind (ground_recordFailure coordinator _ error now)
          exact fun _ => ground_pure _

theorem ground_load (key : PyValue F) (cacheError : Option Str) (now : Utc) :
    Ground (coordinator.load key cacheError now) := by
  apply ground_bind (ground_invoke .load trivial id)
  intro loaded
  apply ground_bind (ground_lift _)
  intro prepared
  apply ground_bind (ground_populate coordinator prepared cacheError now)
  exact fun _ => ground_pure _

omit [FloatText F] in
theorem ground_sampleClock : Ground (CacheCoordinator.sampleClock : Caching F Utc) := by
  apply ground_bind (ground_invoke .clock trivial id)
  exact fun _ => ground_lift _

omit [FloatText F] in
theorem ground_currentTime (now : Option DateTime) :
    Ground (CacheCoordinator.currentTime now : Caching F Utc) := by
  cases now with
  | some now => exact ground_lift _
  | none => exact ground_sampleClock

end Ground

/-! ## Flights -/

/-- The world may answer anything where the flight table is not concerned; the table and its events
work as coded, and a wait may time out. -/
inductive World.Anyhow (world : World F ι) : (hook : CacheHook F) → hook.Response → World F ι → Prop
  | ground (hook : CacheHook F) (response : hook.Response) (after : World F ι)
      (ground : hook.IsGround) (flights : after.flights = world.flights)
      (events : after.events = world.events) (finished : after.finished = world.finished) :
      Anyhow world hook response after
  | joinFlight (flightKey : Str) :
      Anyhow world (.joinFlight flightKey) (.ok (world.join flightKey).1) (world.join flightKey).2
  | wait (event : Nat) (set : Bool) (honest : set = true → event ∈ world.finished) :
      Anyhow world (.wait event) (.ok set) world
  | leaveFlight (flightKey : Str) :
      Anyhow world (.leaveFlight flightKey) (world.leave flightKey).1 (world.leave flightKey).2

/-- The flight that a read leads after a call: it leads from its registration to its removal. -/
def leadAfter (lead : Option (Str × Nat)) : CacheCall F → Option (Str × Nat)
  | ⟨.joinFlight flightKey, .ok (event, true)⟩ => some (flightKey, event)
  | ⟨.leaveFlight _, _⟩ => none
  | _ => lead

/-- The world and the flight that each read leads. -/
structure Airspace (F ι : Type) where
  world : World F ι
  leads : ι → Option (Str × Nat) := fun _ => none

/-- The world answers a call of a read. -/
def Airspace.Responds [DecidableEq ι] (thread : ι) (before : Airspace F ι) (hook : CacheHook F)
    (response : hook.Response) (after : Airspace F ι) : Prop :=
  before.world.Anyhow hook response after.world ∧
    after.leads =
      Function.update before.leads thread (leadAfter (before.leads thread) ⟨hook, response⟩)

/-- Where a read is. -/
inductive Course
  | grounded
  | waiting (event : Nat)
  | leading (flightKey : Str) (event : Nat)

/-- The flight that a read leads. -/
def Course.lead : Course → Option (Str × Nat)
  | .leading flightKey event => some (flightKey, event)
  | _ => none

/-- What a read calls on each course. -/
def flightContract : Contract (CacheHook F) CacheHook.Response Course where
  allows
    | .grounded, hook => hook.IsGround ∨ ∃ flightKey, hook = .joinFlight flightKey
    | .waiting event, hook => hook = .wait event
    | .leading flightKey _, hook => hook.IsGround ∨ hook = .leaveFlight flightKey
  next
    | .grounded, .joinFlight flightKey, .ok (event, true) => .leading flightKey event
    | .grounded, .joinFlight _, .ok (event, false) => .waiting event
    | .waiting _, .wait _, _ => .grounded
    | .leading _ _, .leaveFlight _, _ => .grounded
    | course, _, _ => course
  answers _ _ _ := True

theorem grounded_of_joinFlight {course : Course} {flightKey : Str}
    (allowed : flightContract.allows course (.joinFlight flightKey : CacheHook F)) :
    course = .grounded := by
  cases course with
  | grounded => rfl
  | waiting event => cases allowed
  | leading otherKey event =>
      rcases allowed with ground | same
      · exact ground.elim
      · cases same

theorem waiting_of_wait {course : Course} {event : Nat}
    (allowed : flightContract.allows course (.wait event : CacheHook F)) :
    course = .waiting event := by
  cases course with
  | grounded =>
      rcases allowed with ground | ⟨flightKey, same⟩
      · exact ground.elim
      · cases same
  | waiting other =>
      cases allowed
      rfl
  | leading flightKey other =>
      rcases allowed with ground | same
      · exact ground.elim
      · cases same

theorem leading_of_leaveFlight {course : Course} {flightKey : Str}
    (allowed : flightContract.allows course (.leaveFlight flightKey : CacheHook F)) :
    ∃ event, course = .leading flightKey event := by
  cases course with
  | grounded =>
      rcases allowed with ground | ⟨otherKey, same⟩
      · exact ground.elim
      · cases same
  | waiting event => cases allowed
  | leading otherKey event =>
      rcases allowed with ground | same
      · exact ground.elim
      · cases same
        exact ⟨event, rfl⟩

/-! ## One read -/

/-- The part keeps to its course and ends with the given postconditions. -/
def Steers {α : Type} (part : Caching F α) (normal : α → Course → Prop) (raised : Course → Prop)
    (course : Course) : Prop :=
  part.Safe
    (fun before hook response after => flightContract.answers before hook response ∧
      after = flightContract.next before hook response)
    flightContract.allows (fun value _ => normal value) (fun _ _ => raised) () course

section Steers

variable {α β : Type} {course : Course} {raised : Course → Prop}

theorem next_of_isGround {hook : CacheHook F} (ground : hook.IsGround) (response : hook.Response) :
    flightContract.next course hook response = course := by
  cases hook <;> first | exact ground.elim | (cases course <;> rfl)

theorem steers_bind {part : Caching F β} {rest : β → Caching F α} {normal : α → Course → Prop}
    (steers : Steers part (fun value => Steers (rest value) normal raised) raised course) :
    Steers (part >>= rest) normal raised course :=
  Script.safe_bind.mpr steers

theorem steers_tryFinally {body : Caching F α} {cleanup : Caching F Unit}
    {normal : α → Course → Prop}
    (steers : Steers body (fun value => Steers cleanup (fun _ => normal value) raised)
      (Steers cleanup (fun _ => raised) raised) course) :
    Steers (Script.tryFinally body cleanup) normal raised course :=
  Script.safe_tryFinally.mpr steers

/-- A part on the ground stays on its course. -/
theorem Ground.steers {part : Caching F α} {normal : α → Course → Prop} (ground : Ground part)
    (permitted : ∀ hook : CacheHook F, hook.IsGround → flightContract.allows course hook)
    (returns : ∀ value, normal value course) (raises : raised course) :
    Steers part normal raised course := by
  apply Prog.Safe.stays ground
  · exact permitted
  · rintro hook response _ grounded ⟨-, rfl⟩
    exact next_of_isGround grounded response
  · rintro ⟨error | value, _⟩
    · exact raises
    · exact returns value

/-- A part on the ground, before or after a flight. -/
theorem Ground.steers_grounded {part : Caching F α} {normal : α → Course → Prop}
    (ground : Ground part) (returns : ∀ value, normal value .grounded)
    (raises : raised .grounded) : Steers part normal raised .grounded :=
  ground.steers (fun _ grounded => .inl grounded) returns raises

variable [FloatText F] (coordinator : CacheCoordinator F)

theorem steers_lead (key : PyValue F) (code : Option Str) (flightKey : Str) (event : Nat)
    (now : Utc) :
    Steers (coordinator.lead key code flightKey now) (fun _ after => after = .grounded)
      (fun after => after = .grounded) (.leading flightKey event) := by
  -- The load returns or raises on its course; the removal grounds the read in either case.
  have leaves : ∀ after : Course, after = .leading flightKey event →
      Steers (request (.leaveFlight flightKey : CacheHook F)) (fun _ after => after = .grounded)
        (fun after => after = .grounded) after := by
    rintro _ rfl
    apply Script.safe_invoke.mpr
    refine ⟨.inr rfl, ?_⟩
    rintro (error | _) _ ⟨-, rfl⟩
    · rfl
    · rfl
  apply steers_tryFinally
  apply (ground_load coordinator key code now).steers
  · exact fun hook grounded => .inl grounded
  · exact fun value => leaves _ rfl
  · exact leaves _ rfl

theorem steers_follow (key : PyValue F) (required : Option Version) (code : Option Str)
    (event : Nat) :
    Steers (coordinator.follow key required code event) (fun _ after => after = .grounded)
      (fun after => after = .grounded) (.waiting event) := by
  apply steers_bind
  apply Script.safe_invoke.mpr
  refine ⟨rfl, ?_⟩
  rintro (error | set) _ ⟨-, rfl⟩
  · rfl
  refine Ground.steers_grounded ?_ (fun _ => rfl) rfl
  apply ground_bind ground_sampleClock
  intro now
  apply ground_bind (ground_cached coordinator key required now)
  rintro ⟨_ | read, followerError⟩
  · apply ground_bind ground_sampleClock
    exact fun later => ground_load coordinator key _ later
  · exact ground_pure read

theorem steers_fly (key : PyValue F) (required : Option Version) (code : Option Str) (now : Utc) :
    Steers (coordinator.fly key required code now) (fun _ after => after = .grounded)
      (fun after => after = .grounded) .grounded := by
  apply steers_bind
  apply (ground_lift _).steers_grounded
  · intro flightKey
    apply steers_bind
    apply Script.safe_invoke.mpr
    refine ⟨.inr ⟨flightKey, rfl⟩, ?_⟩
    rintro (error | ⟨event, _ | _⟩) _ ⟨-, rfl⟩
    · rfl
    · exact steers_follow coordinator key required code event
    · exact steers_lead coordinator key code flightKey event now
  · rfl

/-- A read begins and ends on the ground. -/
theorem steers_read (identity : Dict Str (PyValue F)) (required : Option Version)
    (now : Option DateTime) :
    Steers (coordinator.read identity required now) (fun _ after => after = .grounded)
      (fun after => after = .grounded) .grounded := by
  apply steers_bind
  apply (ground_currentTime now).steers_grounded
  · intro current
    split
    · apply steers_bind
      apply (ground_lift _).steers_grounded
      · intro key
        apply steers_bind
        apply (ground_cached coordinator key required current).steers_grounded
        · rintro ⟨_ | read, code⟩
          · exact steers_fly coordinator key required code current
          · exact rfl
        · rfl
      · rfl
    · apply steers_bind
      apply (ground_invoke .load trivial id).steers_grounded
      · exact fun _ => rfl
      · rfl
  · rfl

end Steers

/-! ## All reads -/

/-- The reads and the flights that they share. -/
abbrev ReadPool (F ι : Type) :=
  Pool (CacheHook F) CacheHook.Response (Except Exc (CacheRead F) × Unit) ι (Airspace F ι)

/-- Reads of one coordinator, each with its identity, the version it requires and its time. -/
def ReadPool.start [FloatText F] (coordinator : CacheCoordinator F)
    (identity : ι → Dict Str (PyValue F)) (required : ι → Option Version)
    (given : ι → Option DateTime) (time : Utc) : ReadPool F ι :=
  ⟨fun thread => coordinator.read (identity thread) (required thread) (given thread) (),
    { world := { time := time } }⟩

/-- Every entry of the table belongs to the one read that leads its flight, and whoever waits for a
flight finds it in the table or landed. -/
structure Controlled (courses : ι → Course) (airspace : Airspace F ι) : Prop where
  leads : ∀ thread, airspace.leads thread = (courses thread).lead
  table : ∀ flightKey event, airspace.world.flights.get? flightKey = some event ↔
    ∃ thread, courses thread = .leading flightKey event
  unique : ∀ thread other flightKey event otherEvent,
    courses thread = .leading flightKey event → courses other = .leading flightKey otherEvent →
    thread = other
  distinct : ∀ thread other flightKey otherKey event,
    courses thread = .leading flightKey event → courses other = .leading otherKey event →
    thread = other
  fresh : ∀ thread flightKey event, courses thread = .leading flightKey event →
    event < airspace.world.events
  awaited : ∀ thread event, courses thread = .waiting event →
    event ∈ airspace.world.finished ∨
      ∃ flightKey, airspace.world.flights.get? flightKey = some event

section Controlled

variable [DecidableEq ι] {courses : ι → Course} {airspace after : Airspace F ι} {thread : ι}

/-- A call on the ground moves no read. -/
theorem Controlled.ground {hook : CacheHook F} {response : hook.Response}
    (controlled : Controlled courses airspace) (ground : hook.IsGround)
    (flights : after.world.flights = airspace.world.flights)
    (events : after.world.events = airspace.world.events)
    (finished : after.world.finished = airspace.world.finished)
    (leads : after.leads = Function.update airspace.leads thread
      (leadAfter (airspace.leads thread) ⟨hook, response⟩)) :
    Controlled (Function.update courses thread
      (flightContract.next (courses thread) hook response)) after := by
  have unled : leadAfter (airspace.leads thread) ⟨hook, response⟩ = airspace.leads thread := by
    cases hook <;> first | exact ground.elim | rfl
  rw [next_of_isGround ground, Function.update_eq_self]
  rw [unled, Function.update_eq_self] at leads
  constructor
  · rw [leads]
    exact controlled.leads
  · rw [flights]
    exact controlled.table
  · exact controlled.unique
  · exact controlled.distinct
  · rw [events]
    exact controlled.fresh
  · rw [finished, flights]
    exact controlled.awaited

theorem update_eq_leading_iff {course : Course} {other : ι} {flightKey : Str} {event : Nat} :
    Function.update courses thread course other = .leading flightKey event ↔
      other = thread ∧ course = .leading flightKey event ∨
        other ≠ thread ∧ courses other = .leading flightKey event := by
  by_cases same : other = thread
  · subst other
    simp
  · simp [same]

/-- A read that does not lead moves where it does not lead either. -/
theorem Controlled.divert {course : Course} (controlled : Controlled courses airspace)
    (before : (courses thread).lead = none) (unled : course.lead = none)
    (waits : ∀ event, course = .waiting event → event ∈ airspace.world.finished ∨
      ∃ flightKey, airspace.world.flights.get? flightKey = some event)
    (world : after.world = airspace.world) (leads : after.leads = airspace.leads) :
    Controlled (Function.update courses thread course) after := by
  have leading : ∀ other flightKey event,
      Function.update courses thread course other = .leading flightKey event ↔
        courses other = .leading flightKey event := by
    intro other flightKey event
    rw [update_eq_leading_iff]
    constructor
    · rintro (⟨-, rfl⟩ | ⟨-, same⟩)
      · cases unled
      · exact same
    · intro same
      right
      refine ⟨?_, same⟩
      rintro rfl
      rw [same] at before
      cases before
  constructor
  · intro other
    rw [leads, controlled.leads]
    by_cases same : other = thread
    · subst other
      rw [Function.update_self, unled, before]
    · rw [Function.update_of_ne same]
  · intro flightKey event
    simp only [world, leading]
    exact controlled.table flightKey event
  · intro one other flightKey event otherEvent
    rw [leading, leading]
    exact controlled.unique one other flightKey event otherEvent
  · intro one other flightKey otherKey event
    rw [leading, leading]
    exact controlled.distinct one other flightKey otherKey event
  · intro other flightKey event
    rw [leading, world]
    exact controlled.fresh other flightKey event
  · intro other event
    rw [world]
    by_cases same : other = thread
    · subst other
      rw [Function.update_self]
      exact waits event
    · rw [Function.update_of_ne same]
      exact controlled.awaited other event

/-- A new flight belongs to the read that registers it. -/
theorem Controlled.register {flightKey : Str} (controlled : Controlled courses airspace)
    (grounded : courses thread = .grounded)
    (free : airspace.world.flights.get? flightKey = none)
    (flights : after.world.flights = airspace.world.flights.set flightKey airspace.world.events)
    (events : after.world.events = airspace.world.events + 1)
    (finished : after.world.finished = airspace.world.finished)
    (leads : after.leads =
      Function.update airspace.leads thread (some (flightKey, airspace.world.events))) :
    Controlled (Function.update courses thread (.leading flightKey airspace.world.events))
      after := by
  -- Nobody else leads the key, and no event is as new as the registered one.
  have nobody : ∀ other event, courses other ≠ .leading flightKey event := by
    intro other event same
    have present := (controlled.table flightKey event).mpr ⟨other, same⟩
    rw [free] at present
    cases present
  have older : ∀ other otherKey, courses other ≠ .leading otherKey airspace.world.events :=
    fun other otherKey same => (controlled.fresh other otherKey _ same).false
  constructor
  · intro other
    rw [leads]
    by_cases same : other = thread
    · subst other
      simp [Course.lead]
    · rw [Function.update_of_ne same, Function.update_of_ne same]
      exact controlled.leads other
  · intro otherKey event
    rw [flights, Dict.get?_set]
    simp only [update_eq_leading_iff, Course.leading.injEq]
    by_cases same : flightKey = otherKey
    · subst otherKey
      rw [if_pos rfl, Option.some.injEq]
      constructor
      · rintro rfl
        exact ⟨thread, .inl ⟨rfl, rfl, rfl⟩⟩
      · rintro ⟨other, ⟨-, -, equal⟩ | ⟨-, leading⟩⟩
        · exact equal
        · exact absurd leading (nobody other event)
    · rw [if_neg same, controlled.table]
      constructor
      · rintro ⟨other, leading⟩
        refine ⟨other, .inr ⟨?_, leading⟩⟩
        rintro rfl
        rw [grounded] at leading
        cases leading
      · rintro ⟨other, ⟨-, equal, -⟩ | ⟨-, leading⟩⟩
        · exact absurd equal same
        · exact ⟨other, leading⟩
  · intro one other otherKey event otherEvent first second
    rcases update_eq_leading_iff.mp first with ⟨rfl, firstEq⟩ | ⟨-, firstLeads⟩
    · rcases update_eq_leading_iff.mp second with ⟨rfl, -⟩ | ⟨-, secondLeads⟩
      · rfl
      · cases firstEq
        exact absurd secondLeads (nobody other otherEvent)
    · rcases update_eq_leading_iff.mp second with ⟨rfl, secondEq⟩ | ⟨-, secondLeads⟩
      · cases secondEq
        exact absurd firstLeads (nobody one event)
      · exact controlled.unique one other otherKey event otherEvent firstLeads secondLeads
  · intro one other oneKey otherKey event first second
    rcases update_eq_leading_iff.mp first with ⟨rfl, firstEq⟩ | ⟨-, firstLeads⟩
    · rcases update_eq_leading_iff.mp second with ⟨rfl, -⟩ | ⟨-, secondLeads⟩
      · rfl
      · cases firstEq
        exact absurd secondLeads (older other otherKey)
    · rcases update_eq_leading_iff.mp second with ⟨rfl, secondEq⟩ | ⟨-, secondLeads⟩
      · cases secondEq
        exact absurd firstLeads (older one oneKey)
      · exact controlled.distinct one other oneKey otherKey event firstLeads secondLeads
  · intro other otherKey event leading
    rw [events]
    rcases update_eq_leading_iff.mp leading with ⟨rfl, equal⟩ | ⟨-, before⟩
    · cases equal
      exact Nat.lt_succ_self _
    · exact (controlled.fresh other otherKey event before).trans (Nat.lt_succ_self _)
  · intro other event waiting
    rw [finished, flights]
    by_cases same : other = thread
    · subst other
      rw [Function.update_self] at waiting
      cases waiting
    · rw [Function.update_of_ne same] at waiting
      rcases controlled.awaited other event waiting with landed | ⟨otherKey, present⟩
      · exact .inl landed
      · refine .inr ⟨otherKey, ?_⟩
        rw [Dict.get?_set_of_ne]
        · exact present
        · rintro rfl
          rw [free] at present
          cases present

/-- A read that leaves takes its own flight from the table. -/
theorem Controlled.land {flightKey : Str} {event : Nat} (controlled : Controlled courses airspace)
    (leading : courses thread = .leading flightKey event)
    (flights : after.world.flights = airspace.world.flights.erase flightKey)
    (events : after.world.events = airspace.world.events)
    (finished : after.world.finished = airspace.world.finished ++ [event])
    (leads : after.leads = Function.update airspace.leads thread none) :
    Controlled (Function.update courses thread .grounded) after := by
  have others : ∀ {other otherKey otherEvent},
      Function.update courses thread .grounded other = .leading otherKey otherEvent →
        other ≠ thread ∧ courses other = .leading otherKey otherEvent := by
    intro other otherKey otherEvent same
    rcases update_eq_leading_iff.mp same with ⟨-, equal⟩ | held
    · cases equal
    · exact held
  constructor
  · intro other
    rw [leads]
    by_cases same : other = thread
    · subst other
      simp [Course.lead]
    · rw [Function.update_of_ne same, Function.update_of_ne same]
      exact controlled.leads other
  · intro otherKey otherEvent
    rw [flights, Dict.get?_erase]
    split
    next same =>
      subst otherKey
      constructor
      · rintro ⟨⟩
      · rintro ⟨other, led⟩
        obtain ⟨differs, held⟩ := others led
        exact absurd (controlled.unique _ _ _ _ _ held leading) differs
    next differs =>
      rw [controlled.table]
      constructor
      · rintro ⟨other, held⟩
        refine ⟨other, update_eq_leading_iff.mpr (.inr ⟨?_, held⟩)⟩
        rintro rfl
        rw [leading] at held
        cases held
        exact differs rfl
      · rintro ⟨other, led⟩
        exact ⟨other, (others led).2⟩
  · intro one other otherKey oneEvent otherEvent first second
    exact controlled.unique _ _ _ _ _ (others first).2 (others second).2
  · intro one other oneKey otherKey otherEvent first second
    exact controlled.distinct _ _ _ _ _ (others first).2 (others second).2
  · intro other otherKey otherEvent led
    rw [events]
    exact controlled.fresh other otherKey otherEvent (others led).2
  · intro other otherEvent waiting
    rw [finished, flights, List.mem_append, List.mem_singleton]
    by_cases same : other = thread
    · subst other
      rw [Function.update_self] at waiting
      cases waiting
    · rw [Function.update_of_ne same] at waiting
      rcases controlled.awaited other otherEvent waiting with landed | ⟨otherKey, present⟩
      · exact .inl (.inl landed)
      · by_cases sameKey : flightKey = otherKey
        · -- The awaited flight is the one that lands.
          subst otherKey
          rw [(controlled.table flightKey event).mpr ⟨thread, leading⟩] at present
          cases present
          exact .inl (.inr rfl)
        · refine .inr ⟨otherKey, ?_⟩
          rw [Dict.get?_erase, if_neg sameKey]
          exact present

/-- Every call keeps the table in order. -/
theorem Controlled.step {hook : CacheHook F} {response : hook.Response}
    (controlled : Controlled courses airspace)
    (allowed : flightContract.allows (courses thread) hook)
    (responds : airspace.Responds thread hook response after) :
    Controlled (Function.update courses thread
      (flightContract.next (courses thread) hook response)) after := by
  obtain ⟨world, newLeads⟩ := after
  obtain ⟨answers, leads⟩ := responds
  cases answers with
  | ground _ _ _ ground flights events finished =>
      exact controlled.ground ground flights events finished leads
  | joinFlight flightKey =>
      have grounded := grounded_of_joinFlight allowed
      rw [grounded]
      unfold World.join at leads ⊢
      cases present : airspace.world.flights.get? flightKey with
      | none =>
          rw [present] at leads
          exact controlled.register grounded present rfl rfl rfl leads
      | some event =>
          rw [present] at leads
          apply controlled.divert
          · rw [grounded]
            rfl
          · rfl
          · rintro _ ⟨⟩
            exact .inr ⟨flightKey, present⟩
          · rfl
          · exact leads.trans (Function.update_eq_self _ _)
  | wait event set honest =>
      have waiting := waiting_of_wait allowed
      rw [waiting]
      apply controlled.divert
      · rw [waiting]
        rfl
      · rfl
      · exact nofun
      · rfl
      · exact leads.trans (Function.update_eq_self _ _)
  | leaveFlight flightKey =>
      obtain ⟨event, leading⟩ := leading_of_leaveFlight allowed
      have present := (controlled.table flightKey event).mpr ⟨thread, leading⟩
      rw [leading]
      unfold World.leave at leads ⊢
      rw [present] at leads ⊢
      exact controlled.land leading rfl rfl rfl leads

end Controlled

variable [DecidableEq ι] [FloatText F]

/-- A read keeps its contract. -/
theorem meets_read (coordinator : CacheCoordinator F) (identity : Dict Str (PyValue F))
    (required : Option Version) (given : Option DateTime) :
    (coordinator.read identity required given ()).Meets flightContract
      (fun _ course => course = .grounded) .grounded := by
  apply Prog.Safe.mono (steers_read coordinator identity required given)
  rintro ⟨error | value, _⟩ course ended
  · exact ended
  · exact ended

section Supervised

variable {courses : ι → Course} {pool : ReadPool F ι} {thread : ι}

omit [DecidableEq ι] [FloatText F] in
/-- A read makes only calls that its course allows. -/
theorem allows_of_calls
    (supervised : Pool.Supervised (fun _ => flightContract)
      (fun _ _ course => course = Course.grounded) Controlled courses pool)
    {hook : CacheHook F} {next : hook.Response → _}
    (calls : pool.threads thread = .call hook next) :
    flightContract.allows (courses thread) hook := by
  have meets := supervised.meets thread
  rw [calls] at meets
  exact meets.1

omit [DecidableEq ι] [FloatText F] in
/-- A read that leads has not returned and does not wait. -/
theorem calls_of_leading
    (supervised : Pool.Supervised (fun _ => flightContract)
      (fun _ _ course => course = Course.grounded) Controlled courses pool)
    {flightKey : Str} {event : Nat} (leading : courses thread = .leading flightKey event) :
    ∃ hook rest, pool.threads thread = .call hook rest ∧ ∀ other, hook ≠ .wait other := by
  cases threadEq : pool.threads thread with
  | ret outcome =>
      have grounded : courses thread = .grounded := supervised.post threadEq
      rw [leading] at grounded
      cases grounded
  | call hook rest =>
      refine ⟨hook, rest, rfl, ?_⟩
      rintro other rfl
      have waiting := waiting_of_wait (allows_of_calls supervised threadEq)
      rw [leading] at waiting
      cases waiting

end Supervised

/-- The flight table, for every interleaving of reads whose calls answer or raise anything.  A key
is in the table exactly while one read leads a flight for it; a read that leaves finds its own event
and sets it; a read that has returned leads nothing, and the table is empty when no read leads; a
follower waits for an event that is set or whose leader is running and does not wait; and no run is
endless. -/
theorem flight_table_owned (coordinator : CacheCoordinator F) (identity : ι → Dict Str (PyValue F))
    (required : ι → Option Version) (given : ι → Option DateTime) (time : Utc)
    (pool : ReadPool F ι)
    (reachable : Pool.Reachable Airspace.Responds
      (ReadPool.start coordinator identity required given time) pool) :
    (∀ flightKey, (pool.state.world.flights.get? flightKey).isSome ↔
      ∃! thread, ∃ event, pool.state.leads thread = some (flightKey, event)) ∧
    (∀ thread flightKey next, pool.threads thread = .call (.leaveFlight flightKey) next →
      ∃ event, pool.state.leads thread = some (flightKey, event) ∧
        (∀ other otherKey, pool.state.leads other = some (otherKey, event) → other = thread) ∧
        pool.state.world.leave flightKey = (.ok (),
          { pool.state.world with
            flights := pool.state.world.flights.erase flightKey
            finished := pool.state.world.finished ++ [event] })) ∧
    (∀ thread outcome, pool.threads thread = .ret outcome → pool.state.leads thread = none) ∧
    ((∀ thread, pool.state.leads thread = none) →
      ∀ flightKey, pool.state.world.flights.get? flightKey = none) ∧
    (∀ thread event next, pool.threads thread = .call (.wait event) next →
      event ∈ pool.state.world.finished ∨
        ∃ leader flightKey hook rest, pool.state.leads leader = some (flightKey, event) ∧
          pool.threads leader = .call hook rest ∧ ∀ other, hook ≠ .wait other) ∧
    (Finite ι → WellFounded fun after before : ReadPool F ι =>
      Pool.Step Airspace.Responds before after) := by
  have initially : Pool.Supervised (fun _ => flightContract)
      (fun _ _ course => course = Course.grounded) Controlled (fun _ => .grounded)
      (ReadPool.start coordinator identity required given time) := by
    refine ⟨fun thread => meets_read coordinator _ _ _, ?_⟩
    exact ⟨fun _ => rfl, fun _ _ => ⟨nofun, nofun⟩, nofun, nofun, nofun, nofun⟩
  obtain ⟨courses, supervised⟩ := reachable.supervised
    (fun courses state thread hook response after controlled allowed responds =>
      ⟨trivial, controlled.step allowed responds⟩) initially
  have controlled := supervised.invariant
  have leads : ∀ thread flightKey event, pool.state.leads thread = some (flightKey, event) ↔
      courses thread = .leading flightKey event := by
    intro thread flightKey event
    rw [controlled.leads]
    cases courses thread <;> simp [Course.lead]
  refine ⟨?_, ?_, ?_, ?_, ?_, fun _ => Pool.step_wellFounded⟩
  · intro flightKey
    simp only [Option.isSome_iff_exists, controlled.table, leads]
    constructor
    · rintro ⟨event, thread, leading⟩
      refine ⟨thread, ⟨event, leading⟩, ?_⟩
      rintro other ⟨otherEvent, otherLeading⟩
      exact controlled.unique other thread flightKey otherEvent event otherLeading leading
    · rintro ⟨thread, ⟨event, leading⟩, -⟩
      exact ⟨event, thread, leading⟩
  · intro thread flightKey next leaves
    obtain ⟨event, leading⟩ := leading_of_leaveFlight (allows_of_calls supervised leaves)
    refine ⟨event, (leads _ _ _).mpr leading, ?_, ?_⟩
    · intro other otherKey otherLeads
      exact controlled.distinct other thread otherKey flightKey event
        ((leads _ _ _).mp otherLeads) leading
    · rw [World.leave, (controlled.table flightKey event).mpr ⟨thread, leading⟩]
  · intro thread outcome returned
    have grounded : courses thread = .grounded := supervised.post returned
    rw [controlled.leads, grounded]
    rfl
  · intro nobody flightKey
    cases present : pool.state.world.flights.get? flightKey with
    | none => rfl
    | some event =>
        obtain ⟨thread, leading⟩ := (controlled.table flightKey event).mp present
        have led := nobody thread
        rw [(leads thread flightKey event).mpr leading] at led
        cases led
  · intro thread event next waits
    have waiting := waiting_of_wait (allows_of_calls supervised waits)
    rcases controlled.awaited thread event waiting with landed | ⟨flightKey, present⟩
    · exact .inl landed
    · obtain ⟨leader, leading⟩ := (controlled.table flightKey event).mp present
      obtain ⟨hook, rest, calls, busy⟩ := calls_of_leading supervised leading
      exact .inr ⟨leader, flightKey, hook, rest, (leads _ _ _).mpr leading, calls, busy⟩

open CacheCoordinator in
/-- The first of two readers of the sample row registers. -/
theorem flight_table_owned_sample :
    ∃ (pool : ReadPool Empty Bool) (digest : Str), digestOf sampleKey = .ok digest ∧
      Pool.Reachable Airspace.Responds (ReadPool.start CacheCoordinator.sample
        (fun _ => sampleIdentity 1 2) (fun _ => none) (fun _ => none) sampleInstant) pool ∧
      pool.state.world.flights.get? digest = some 0 ∧
      ∃! thread, ∃ event, pool.state.leads thread = some (digest, event) := by
  obtain ⟨values, bytes, accepted⟩ := CachePolicy.exists_keyed rowColumnPolicy_key
  have digested : digestOf sampleKey = .ok (prefixedDigest bytes) := accepted.digestOf
  generalize prefixedDigest bytes = digest at digested
  let start : ReadPool Empty Bool := ReadPool.start CacheCoordinator.sample
    (fun _ => sampleIdentity 1 2) (fun _ => none) (fun _ => none) sampleInstant
  have begun : Pool.Reachable Airspace.Responds start
      ⟨Function.update start.threads false (start.threads false), start.state⟩ := by
    rw [Function.update_eq_self]
    exact .refl
  have clock : Airspace.Responds false start.state .clock (.ok (.ofUtc sampleInstant)) start.state :=
    ⟨.ground _ _ _ trivial rfl rfl rfl, (Function.update_eq_self _ _).symm⟩
  have sampled := begun.continue_script (Script.returns_bind (Script.returns_invoke clock)
    (Script.returns_lift (ensureUtc_eq_ok_iff.mpr (DateTime.toUtc_ofUtc sampleInstant))))
  have keyed := sampled.continue_script (Script.returns_lift rowColumnPolicy_key)
  have get : Airspace.Responds false start.state (.get rowColumnPolicy.cacheResource sampleKey)
      (.ok none) start.state :=
    ⟨.ground _ _ _ trivial rfl rfl rfl, (Function.update_eq_self _ _).symm⟩
  have looked : (sample.cached sampleKey none sampleInstant ()).Returns (Airspace.Responds false)
      start.state (.ok (none, none), ()) start.state := by
    have answered : (attempt (.get rowColumnPolicy.cacheResource sampleKey) ()).Returns
        (Airspace.Responds false) start.state (.ok (.ok none), ()) start.state :=
      .call _ _ (.ok none) get (.ret _ _)
    exact Script.returns_bind answered (.ret _ _)
  have missed := keyed.continue_script looked
  have named := missed.continue_script (Script.returns_lift digested)
  have join : Airspace.Responds false start.state (.joinFlight digest) (.ok (0, true))
      ⟨(start.state.world.join digest).2,
        Function.update start.state.leads false (some (digest, 0))⟩ :=
    ⟨.joinFlight digest, rfl⟩
  have registered := named.continue_script (Script.returns_invoke join)
  have present : (start.state.world.join digest).2.flights.get? digest = some 0 :=
    Dict.get?_set_self _ _ _
  refine ⟨_, digest, digested, registered, present, ?_⟩
  have owned := (flight_table_owned CacheCoordinator.sample (fun _ => sampleIdentity 1 2)
    (fun _ => none) (fun _ => none) sampleInstant _ registered).1 digest
  exact owned.mp (Option.isSome_iff_exists.mpr ⟨0, present⟩)

end DataLifecycle.Cache
