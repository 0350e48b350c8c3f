import DataLifecycle.Cache.Staleness
import DataLifecycle.Cache.Transparency

/-!
# What a hit returns

A miss returns the object of the loader.  A hit returns it after the serializer has
encoded it, the coordinator has tagged it, and the serializer has decoded it again, which
for the canonical serializer is its JSON form.  The tags keep every loaded value apart
from the negative marker, whatever the value looks like.
-/

namespace DataLifecycle.Cache

open Python Interaction

variable {F : Type}

/-- The environment of a read: any call may be answered or raise in any way. -/
def Sees (before : Watch F) (hook : CacheHook F) (response : hook.Response) (after : Watch F) :
    Prop :=
  after = before.see ⟨hook, response⟩

/-- The loader returned the content. -/
def Watch.Loaded (watch : Watch F) (content : Option (LoadedValue F)) : Prop :=
  ∃ now, (now, (⟨.load, .ok content⟩ : CacheCall F)) ∈ watch.calls

/-- The backend stored the entry. -/
def Watch.Stored (watch : Watch F) (entry : CacheEntry F) : Prop :=
  ∃ now resource ttlMs version,
    (now, (⟨.put resource entry ttlMs, .ok version⟩ : CacheCall F)) ∈ watch.calls

/-- Values of the JSON types: `None`, booleans, numbers, strings, lists, and dictionaries
with string keys. -/
def JsonTyped (value : PyValue F) : Prop := ∃ data : Json F, data.DistinctKeys ∧ value = data.toPy

/-- Values of the JSON types that are equal: dictionaries are compared without the order
of their members. -/
def EqualData (first second : PyValue F) : Prop :=
  ∃ firstData secondData : Json F, first = firstData.toPy ∧ second = secondData.toPy ∧
    firstData.Same secondData

namespace CacheCoordinator

variable [FloatText F] (coordinator : CacheCoordinator F)

/-- A read that returned after it had stored an entry for the content of its loader. -/
structure Populates (identity : Dict Str (PyValue F)) (required : Option Version)
    (given : Option DateTime) (content : Option (LoadedValue F)) (entry : CacheEntry F)
    (read : CacheRead F) (watch : Watch F) : Prop where
  returns : (coordinator.read identity required given ()).Returns Sees (Watch.start given)
    (.ok read, ()) watch
  loaded : watch.Loaded content
  stored : watch.Stored entry

/-- A read to which the backend returned an entry that was valid at the time sample in
force. -/
structure Finds (identity : Dict Str (PyValue F)) (required : Option Version)
    (given : Option DateTime) (entry : CacheEntry F) (outcome : Except Exc (CacheRead F))
    (watch : Watch F) : Prop where
  returns : (coordinator.read identity required given ()).Returns Sees (Watch.start given)
    (outcome, ()) watch
  valid : ∃ now resource key version, (some now,
      (⟨.get resource key, .ok (some ⟨entry, version⟩)⟩ : CacheCall F)) ∈ watch.calls ∧
    coordinator.validEntry entry required now = .ok true

/-! ## Watches -/

/-- What a valid entry is answered with, unless it is corrupt. -/
def answer (entry : CacheEntry F) : Option (CacheRead F) :=
  if isNegative entry.value then some ⟨.none, entry.sourceVersion, .negativeHit, none⟩
  else
    match coordinator.decodeEntry entry with
    | .ok value => some ⟨value, entry.sourceVersion, .hit, none⟩
    | .error _ => none

/-- What a call with its time sample is answered with: the content of the valid entry
that the backend returned. -/
def served (required : Option Version) (seen : Option Utc × CacheCall F) : Option (CacheRead F) :=
  match seen.2 with
  | ⟨.get _ _, .ok (some found)⟩ => seen.1.bind fun now =>
      match coordinator.validEntry found.entry required now with
      | .ok true => coordinator.answer found.entry
      | _ => none
  | _ => none

/-- No call has returned an entry to be served. -/
def Unserved (required : Option Version) (watch : Watch F) : Prop :=
  ∀ seen ∈ watch.calls, coordinator.served required seen = none

omit [FloatText F] in
/-- Neither the loader nor the backend for storing has been called. -/
def Idle (watch : Watch F) : Prop :=
  ∀ seen ∈ watch.calls, match seen.2.1 with
    | .load => False
    | .put _ _ _ => False
    | _ => True

omit [FloatText F] in
/-- The loader returned the content only, and only entries made from it were stored. -/
structure Derives (key : PyValue F) (content : Option (LoadedValue F)) (watch : Watch F) :
    Prop where
  loaded : ∀ other, watch.Loaded other → other = content
  stored : ∀ made, watch.Stored made →
    ∃ now ttl, coordinator.entry key content now = .ok (some (made, ttl))

/-- Where a read may return: it returns what it was served, and it stored nothing or
returns what its loader returned. -/
structure Concluded (required : Option Version) (read : CacheRead F) (watch : Watch F) : Prop where
  served : ∀ seen ∈ watch.calls, ∀ other, coordinator.served required seen = some other →
    read = other
  derived : Idle watch ∨ ∃ key content, coordinator.Derives key content watch ∧
    read.value = (content.map LoadedValue.value).getD .none ∧
    read.sourceVersion = content.bind LoadedValue.sourceVersion

variable {coordinator} {key : PyValue F} {content : Option (LoadedValue F)}
  {required : Option Version} {watch after : Watch F}

theorem unserved_see {call : CacheCall F} :
    coordinator.Unserved required (watch.see call) ↔
      coordinator.Unserved required watch ∧
        coordinator.served required (watch.now, call) = none := by
  simp only [Unserved, Watch.see, List.forall_mem_append, List.forall_mem_singleton]

omit [FloatText F] in
theorem Watch.loaded_see {call : CacheCall F} :
    (watch.see call).Loaded content ↔ watch.Loaded content ∨ call = ⟨.load, .ok content⟩ := by
  simp only [Watch.Loaded, Watch.see, List.mem_append, List.mem_singleton, Prod.mk.injEq, exists_or]
  constructor
  · rintro (loaded | ⟨now, -, equal⟩)
    · exact .inl loaded
    · exact .inr equal.symm
  · rintro (loaded | equal)
    · exact .inl loaded
    · exact .inr ⟨_, rfl, equal.symm⟩

omit [FloatText F] in
theorem Watch.stored_see {call : CacheCall F} {entry : CacheEntry F} :
    (watch.see call).Stored entry ↔ watch.Stored entry ∨
      ∃ resource ttlMs version, call = ⟨.put resource entry ttlMs, .ok version⟩ := by
  constructor
  · rintro ⟨now, resource, ttlMs, version, seen⟩
    rcases List.mem_append.mp seen with earlier | last
    · exact .inl ⟨now, resource, ttlMs, version, earlier⟩
    · exact .inr ⟨resource, ttlMs, version, (Prod.mk.inj (List.mem_singleton.mp last)).2.symm⟩
  · rintro (⟨now, resource, ttlMs, version, earlier⟩ | ⟨resource, ttlMs, version, rfl⟩)
    · exact ⟨now, resource, ttlMs, version, List.mem_append_left _ earlier⟩
    · exact ⟨_, resource, ttlMs, version, List.mem_append_right _ (List.mem_singleton_self _)⟩

omit [FloatText F] in
/-- A call that neither looks up nor samples the time, and is none of the loader and the
backend for storing. -/
def Neutral : CacheHook F → Prop
  | .clock => False
  | .get _ _ => False
  | .put _ _ _ => False
  | .load => False
  | _ => True

omit [FloatText F] in
/-- Only neutral calls were made in between. -/
inductive Passes (before : Watch F) : Watch F → Prop
  | refl : Passes before before
  | see {after : Watch F} (passes : Passes before after) (hook : CacheHook F)
      (neutral : Neutral hook) (response : hook.Response) :
      Passes before (after.see ⟨hook, response⟩)

omit [FloatText F] in
theorem sample_of_neutral {hook : CacheHook F} (neutral : Neutral hook) (response : hook.Response)
    (now : Option Utc) : CacheCall.sample now ⟨hook, response⟩ = now := by
  cases hook <;> first | rfl | exact neutral.elim

theorem served_of_neutral {hook : CacheHook F} (neutral : Neutral hook) (response : hook.Response)
    (now : Option Utc) : coordinator.served required (now, ⟨hook, response⟩) = none := by
  cases hook <;> first | rfl | exact neutral.elim

omit [FloatText F] in
theorem Passes.trans {middle : Watch F} (first : Passes watch middle)
    (second : Passes middle after) : Passes watch after := by
  induction second with
  | refl => exact first
  | see _ hook neutral response inductionHypothesis =>
      exact .see inductionHypothesis hook neutral response

omit [FloatText F] in
theorem Passes.now_eq (passes : Passes watch after) : after.now = watch.now := by
  induction passes with
  | refl => rfl
  | see _ hook neutral response inductionHypothesis =>
      exact (sample_of_neutral neutral response _).trans inductionHypothesis

theorem Passes.unserved (passes : Passes watch after)
    (unserved : coordinator.Unserved required watch) : coordinator.Unserved required after := by
  induction passes with
  | refl => exact unserved
  | see _ hook neutral response inductionHypothesis =>
      exact unserved_see.mpr ⟨inductionHypothesis, served_of_neutral neutral response _⟩

omit [FloatText F] in
theorem Passes.idle (passes : Passes watch after) (idle : Idle watch) : Idle after := by
  induction passes with
  | refl => exact idle
  | see _ hook neutral response inductionHypothesis =>
      rw [Idle, Watch.see, List.forall_mem_append, List.forall_mem_singleton]
      refine ⟨inductionHypothesis, ?_⟩
      cases hook <;> trivial

omit [FloatText F] in
theorem Derives.pass (passes : Passes watch after)
    (derives : coordinator.Derives key content watch) : coordinator.Derives key content after := by
  induction passes with
  | refl => exact derives
  | see _ hook neutral response inductionHypothesis =>
      constructor
      · intro other loaded
        rcases Watch.loaded_see.mp loaded with loaded | equal
        · exact inductionHypothesis.loaded other loaded
        · cases equal
          exact neutral.elim
      · intro made stored
        rcases Watch.stored_see.mp stored with stored | ⟨_, _, _, equal⟩
        · exact inductionHypothesis.stored made stored
        · cases equal
          exact neutral.elim

omit [FloatText F] in
theorem not_loaded_of_idle (idle : Idle watch) : ¬ watch.Loaded content :=
  fun ⟨_, seen⟩ => idle _ seen

omit [FloatText F] in
theorem not_stored_of_idle {made : CacheEntry F} (idle : Idle watch) : ¬ watch.Stored made :=
  fun ⟨_, _, _, _, seen⟩ => idle _ seen

omit [FloatText F] in
/-- The loader returned its content after nothing had been loaded or stored. -/
theorem derives_load (idle : Idle watch) :
    coordinator.Derives key content (watch.see ⟨.load, .ok content⟩) where
  loaded other loaded := by
    rcases Watch.loaded_see.mp loaded with loaded | equal
    · exact (not_loaded_of_idle idle loaded).elim
    · cases equal
      rfl
  stored made stored := by
    rcases Watch.stored_see.mp stored with stored | ⟨_, _, _, equal⟩
    · exact (not_stored_of_idle idle stored).elim
    · cases equal

omit [FloatText F] in
/-- An entry that was made from the content is stored, or not. -/
theorem Derives.put {resource : Str} {made : CacheEntry F} {ttl ttlMs : Int} {now : Utc}
    {response : Except Exc Version} (derives : coordinator.Derives key content watch)
    (prepared : coordinator.entry key content now = .ok (some (made, ttl))) :
    coordinator.Derives key content (watch.see ⟨.put resource made ttlMs, response⟩) where
  loaded other loaded := by
    rcases Watch.loaded_see.mp loaded with loaded | equal
    · exact derives.loaded other loaded
    · cases equal
  stored other stored := by
    rcases Watch.stored_see.mp stored with stored | ⟨_, _, _, equal⟩
    · exact derives.stored other stored
    · cases equal
      exact ⟨now, ttl, prepared⟩

/-! ## Rules -/

variable (coordinator required) in
/-- The part returns with the given postcondition; it raises only if nothing was served. -/
def Concludes {α : Type} (part : Caching F α) (normal : α → Watch F → Prop) (watch : Watch F) :
    Prop :=
  part.Safe Sees (fun _ _ => True) (fun value _ => normal value)
    (fun _ _ => coordinator.Unserved required) () watch

section Rules

variable {α β : Type}

theorem concludes_bind {part : Caching F β} {rest : β → Caching F α} {normal : α → Watch F → Prop}
    (concludes : coordinator.Concludes required part
      (fun value => coordinator.Concludes required (rest value) normal) watch) :
    coordinator.Concludes required (part >>= rest) normal watch :=
  Script.safe_bind.mpr concludes

theorem concludes_lift {result : Except Exc α} {normal : α → Watch F → Prop}
    (unserved : coordinator.Unserved required watch)
    (returns : ∀ value, result = .ok value → normal value watch) :
    coordinator.Concludes required (Script.lift result) normal watch := by
  cases result with
  | ok value => exact returns value rfl
  | error => exact unserved

theorem concludes_request {hook : CacheHook F} {normal : hook.Answer → Watch F → Prop}
    (returns : ∀ answer, normal answer (watch.see ⟨hook, .ok answer⟩))
    (fails : ∀ error, coordinator.Unserved required (watch.see ⟨hook, .error error⟩)) :
    coordinator.Concludes required (request hook) normal watch := by
  rw [Concludes, request, Script.safe_invoke]
  refine ⟨trivial, ?_⟩
  rintro response _ rfl
  cases response with
  | ok answer => exact returns answer
  | error error => exact fails error

theorem concludes_attempt {hook : CacheHook F} {normal : Except Exc hook.Answer → Watch F → Prop}
    (fails : ∀ error, coordinator.Unserved required (watch.see ⟨hook, .error error⟩))
    (returns : ∀ response : hook.Response, normal response (watch.see ⟨hook, response⟩)) :
    coordinator.Concludes required (attempt hook) normal watch := by
  rw [Concludes, attempt, Script.safe_invoke]
  refine ⟨trivial, ?_⟩
  rintro response _ rfl
  cases response with
  | ok answer => exact returns (.ok answer)
  | error error =>
      cases isException : error.isException with
      | true =>
          rw [caught, if_pos isException]
          exact returns (.error error)
      | false =>
          rw [caught, if_neg (by simp [isException])]
          exact fails error

end Rules

/-! ## The parts of a read -/

theorem concludes_recordFailure {state : String} {error : Exc} {now : Utc}
    {normal : Str → Watch F → Prop} (unserved : coordinator.Unserved required watch)
    (returns : ∀ after, Passes watch after → normal (errorCode error) after) :
    coordinator.Concludes required (coordinator.recordFailure state error now) normal watch := by
  apply concludes_bind
  apply concludes_lift unserved
  intro evidence _
  apply concludes_bind
  apply concludes_request
  · intro _
    exact returns _ (.see .refl (.record evidence) trivial _)
  · intro _
    exact unserved_see.mpr ⟨unserved, rfl⟩

theorem concludes_evict {state : String} {now : Utc} {normal : Unit → Watch F → Prop}
    (unserved : coordinator.Unserved required watch)
    (returns : ∀ after, Passes watch after → normal () after) :
    coordinator.Concludes required (coordinator.evict state key now) normal watch := by
  apply concludes_bind
  apply concludes_attempt
  · intro _
    exact unserved_see.mpr ⟨unserved, rfl⟩
  · intro response
    have deleted : Passes watch (watch.see
        ⟨.delete coordinator.policy.cacheResource key, response⟩) :=
      .see .refl (.delete _ _) trivial response
    cases response with
    | ok => exact returns _ deleted
    | error error =>
        apply concludes_bind
        apply concludes_recordFailure (deleted.unserved unserved)
        intro after passes
        apply returns
        exact deleted.trans passes

section Read

variable {now : Utc}

theorem served_get (resource : Str) (key : PyValue F) {found : VersionedCacheEntry F}
    {valid : Bool} (time : watch.now = some now)
    (validEq : coordinator.validEntry found.entry required now = .ok valid) :
    coordinator.served required (watch.now, ⟨.get resource key, .ok (some found)⟩) =
      if valid then coordinator.answer found.entry else none := by
  rw [served, time]
  dsimp only [Option.bind_some]
  rw [validEq]
  cases valid <;> rfl

theorem concludes_serve {found : VersionedCacheEntry F}
    {normal : Option (CacheRead F) × Option Str → Watch F → Prop}
    (unserved : coordinator.answer found.entry = none → coordinator.Unserved required watch)
    (hit : ∀ read, coordinator.answer found.entry = some read → normal (some read, none) watch)
    (miss : ∀ after, coordinator.answer found.entry = none → Passes watch after →
      normal (none, none) after) :
    coordinator.Concludes required (coordinator.serve key found.entry now) normal watch := by
  rw [answer] at unserved hit miss
  unfold serve
  cases isNegativeEq : isNegative found.entry.value with
  | true =>
      apply hit
      rw [if_pos isNegativeEq]
  | false =>
      rw [if_neg (by simp [isNegativeEq])] at unserved hit miss
      apply concludes_bind
      cases decoded : coordinator.decodeEntry found.entry with
      | ok value =>
          rw [decoded] at hit
          exact hit _ rfl
      | error error =>
          rw [decoded] at unserved miss
          apply concludes_lift (unserved rfl)
          intro result caughtEq
          rw [caught] at caughtEq
          split at caughtEq
          · cases caughtEq
            apply concludes_bind
            apply concludes_evict (unserved rfl)
            intro evicted passes
            apply concludes_bind
            apply concludes_recordFailure (passes.unserved (unserved rfl))
            intro after recorded
            exact miss after rfl (passes.trans recorded)
          · cases caughtEq

/-- A lookup serves a valid entry, or finds nothing to serve. -/
theorem concludes_cached {normal : Option (CacheRead F) × Option Str → Watch F → Prop}
    (unserved : coordinator.Unserved required watch) (idle : Idle watch)
    (time : watch.now = some now)
    (hit : ∀ read after, coordinator.Concluded required read after →
      normal (some read, none) after)
    (miss : ∀ code after, coordinator.Unserved required after → Idle after →
      after.now = some now → normal (none, code) after) :
    coordinator.Concludes required (coordinator.cached key required now) normal watch := by
  have idleAfter : ∀ response, Idle (watch.see
      ⟨.get coordinator.policy.cacheResource key, response⟩) := by
    intro response
    rw [Idle, Watch.see, List.forall_mem_append, List.forall_mem_singleton]
    exact ⟨idle, trivial⟩
  apply concludes_bind
  apply concludes_attempt
  · intro _
    exact unserved_see.mpr ⟨unserved, rfl⟩
  intro response
  rcases response with error | _ | found
  · have failed : coordinator.Unserved required (watch.see
        ⟨.get coordinator.policy.cacheResource key, .error error⟩) :=
      unserved_see.mpr ⟨unserved, rfl⟩
    apply concludes_bind
    apply concludes_recordFailure failed
    intro after passes
    apply concludes_bind
    apply Script.safe_refuse.mpr
    constructor
    · intro _
      exact passes.unserved failed
    · intro _
      exact miss _ after (passes.unserved failed) (passes.idle (idleAfter _))
        (passes.now_eq.trans time)
  · exact miss none _ (unserved_see.mpr ⟨unserved, rfl⟩) (idleAfter _) time
  · apply concludes_bind
    cases validEq : coordinator.validEntry found.entry required now with
    | error error =>
        apply unserved_see.mpr ⟨unserved, _⟩
        rw [served, time]
        dsimp only [Option.bind_some]
        rw [validEq]
    | ok valid =>
        have served := served_get coordinator.policy.cacheResource key time validEq
        cases valid with
        | true =>
            rw [if_pos rfl] at served
            apply concludes_serve
            · intro corrupt
              exact unserved_see.mpr ⟨unserved, served.trans corrupt⟩
            · intro read answered
              apply hit
              refine ⟨?_, .inl (idleAfter _)⟩
              intro seen isSeen other isServed
              rcases List.mem_append.mp isSeen with earlier | last
              · rw [unserved seen earlier] at isServed
                contradiction
              · rw [List.mem_singleton.mp last, served, answered] at isServed
                exact Option.some.inj isServed
            · intro after corrupt passes
              exact miss none after (passes.unserved (unserved_see.mpr ⟨unserved,
                served.trans corrupt⟩)) (passes.idle (idleAfter _)) (passes.now_eq.trans time)
        | false =>
            have stale : coordinator.Unserved required (watch.see
                ⟨.get coordinator.policy.cacheResource key, .ok (some found)⟩) :=
              unserved_see.mpr ⟨unserved, served⟩
            apply concludes_bind
            apply concludes_evict stale
            intro after passes
            exact miss none after (passes.unserved stale) (passes.idle (idleAfter _))
              (passes.now_eq.trans time)

/-- A load stores what it makes from the content of the loader, and returns the
content. -/
theorem concludes_load {cacheError : Option Str} {normal : CacheRead F → Watch F → Prop}
    (unserved : coordinator.Unserved required watch) (idle : Idle watch)
    (returns : ∀ read after, coordinator.Unserved required after →
      coordinator.Concluded required read after → normal read after) :
    coordinator.Concludes required (coordinator.load key cacheError now) normal watch := by
  apply concludes_bind
  apply concludes_request
  swap
  · intro _
    exact unserved_see.mpr ⟨unserved, rfl⟩
  intro content
  have loaded : coordinator.Unserved required (watch.see ⟨.load, .ok content⟩) :=
    unserved_see.mpr ⟨unserved, rfl⟩
  have returns : ∀ code after, coordinator.Unserved required after →
      coordinator.Derives key content after →
      normal (loadedRead content code (missOutcome code)) after := by
    intro code after unserved derives
    apply returns _ after unserved
    constructor
    · intro seen isSeen other isServed
      rw [unserved seen isSeen] at isServed
      contradiction
    · refine .inr ⟨key, content, derives, ?_⟩
      cases content <;> exact ⟨rfl, rfl⟩
  apply concludes_bind
  apply concludes_lift loaded
  intro prepared preparedEq
  apply concludes_bind
  cases prepared with
  | none => exact returns _ _ loaded (derives_load idle)
  | some prepared =>
      obtain ⟨made, ttl⟩ := prepared
      apply concludes_bind
      apply concludes_attempt
      · intro _
        exact unserved_see.mpr ⟨loaded, rfl⟩
      · intro response
        have put : coordinator.Unserved required ((watch.see ⟨.load, .ok content⟩).see
            ⟨.put coordinator.policy.cacheResource made (ttlMilliseconds ttl), response⟩) :=
          unserved_see.mpr ⟨loaded, rfl⟩
        cases response with
        | ok => exact returns _ _ put ((derives_load idle).put preparedEq)
        | error error =>
            apply concludes_bind
            apply concludes_recordFailure put
            intro after passes
            exact returns _ after (passes.unserved put)
              (((derives_load idle).put preparedEq).pass passes)

theorem Concluded.see {read : CacheRead F} (concluded : coordinator.Concluded required read watch)
    (hook : CacheHook F) (neutral : Neutral hook) {response : hook.Response} :
    coordinator.Concluded required read (watch.see ⟨hook, response⟩) := by
  have passes : Passes watch (watch.see ⟨hook, response⟩) := .see .refl hook neutral response
  constructor
  · intro seen isSeen other isServed
    rcases List.mem_append.mp isSeen with earlier | last
    · exact concluded.served seen earlier other isServed
    · rw [List.mem_singleton.mp last, served_of_neutral neutral] at isServed
      contradiction
  · rcases concluded.derived with idle | ⟨key, content, derives, returned⟩
    · exact .inl (passes.idle idle)
    · exact .inr ⟨key, content, derives.pass passes, returned⟩

theorem concludes_sampleClock {normal : Utc → Watch F → Prop}
    (unserved : coordinator.Unserved required watch) (idle : Idle watch)
    (returns : ∀ now after, coordinator.Unserved required after → Idle after →
      after.now = some now → normal now after) :
    coordinator.Concludes required sampleClock normal watch := by
  apply concludes_bind
  apply concludes_request
  · intro time
    have sampled : coordinator.Unserved required (watch.see ⟨.clock, .ok time⟩) :=
      unserved_see.mpr ⟨unserved, rfl⟩
    apply concludes_lift sampled
    intro instant converted
    rw [ensureUtc_eq_ok_iff] at converted
    apply returns _ _ sampled
    · rw [Idle, Watch.see, List.forall_mem_append, List.forall_mem_singleton]
      exact ⟨idle, trivial⟩
    · change time.toUtc.toOption = some instant
      rw [converted]
      rfl
  · intro _
    exact unserved_see.mpr ⟨unserved, rfl⟩

theorem concludes_lead {errorCode : Option Str} {flightKey : Str}
    (unserved : coordinator.Unserved required watch) (idle : Idle watch) :
    coordinator.Concludes required (coordinator.lead key errorCode flightKey now)
      (coordinator.Concluded required) watch := by
  apply Script.safe_tryFinally.mpr
  have loads : coordinator.Concludes required (coordinator.load key errorCode now)
      (fun read after => coordinator.Unserved required after ∧
        coordinator.Concluded required read after) watch :=
    concludes_load unserved idle fun _ _ unserved concluded => ⟨unserved, concluded⟩
  apply Script.Safe.mono loads
  · rintro read _ after ⟨unservedAfter, concluded⟩
    apply concludes_request
    · intro _
      exact concluded.see (.leaveFlight flightKey) trivial
    · intro _
      exact unserved_see.mpr ⟨unservedAfter, rfl⟩
  · intro error _ after unservedAfter
    apply concludes_request
    · intro _
      exact unserved_see.mpr ⟨unservedAfter, rfl⟩
    · intro _
      exact unserved_see.mpr ⟨unservedAfter, rfl⟩

theorem concludes_follow {errorCode : Option Str} {event : Nat}
    (unserved : coordinator.Unserved required watch) (idle : Idle watch) :
    coordinator.Concludes required (coordinator.follow key required errorCode event)
      (coordinator.Concluded required) watch := by
  apply concludes_bind
  apply concludes_request
  swap
  · intro _
    exact unserved_see.mpr ⟨unserved, rfl⟩
  intro answer
  have passes : Passes watch (watch.see ⟨.wait event, .ok answer⟩) :=
    .see .refl (.wait event) trivial _
  apply concludes_bind
  apply concludes_sampleClock (passes.unserved unserved) (passes.idle idle)
  intro sampled woken unservedWoken idleWoken timeWoken
  apply concludes_bind
  apply concludes_cached unservedWoken idleWoken timeWoken
  · exact fun read after concluded => concluded
  · intro code missed unservedMissed idleMissed _
    apply concludes_bind
    apply concludes_sampleClock unservedMissed idleMissed
    intro later resampled unservedResampled idleResampled _
    apply concludes_load unservedResampled idleResampled
    exact fun read after _ concluded => concluded

theorem concludes_readThrough {identity : Dict Str (PyValue F)}
    (unserved : coordinator.Unserved required watch) (idle : Idle watch)
    (time : watch.now = some now) :
    coordinator.Concludes required (coordinator.readThrough identity required now)
      (coordinator.Concluded required) watch := by
  apply concludes_bind
  apply concludes_lift unserved
  intro key _
  apply concludes_bind
  apply concludes_cached unserved idle time
  · exact fun read after concluded => concluded
  · intro code missed unservedMissed idleMissed timeMissed
    apply concludes_bind
    apply concludes_lift unservedMissed
    intro flightKey _
    apply concludes_bind
    apply concludes_request
    · rintro ⟨event, leader⟩
      have passes : Passes missed (missed.see ⟨.joinFlight flightKey, .ok (event, leader)⟩) :=
        .see .refl (.joinFlight flightKey) trivial _
      cases leader with
      | true => exact concludes_lead (passes.unserved unservedMissed) (passes.idle idleMissed)
      | false => exact concludes_follow (passes.unserved unservedMissed) (passes.idle idleMissed)
    · intro _
      exact unserved_see.mpr ⟨unservedMissed, rfl⟩

/-- A read with the cache switched off returns what its loader returned. -/
theorem concludes_readAround (unserved : coordinator.Unserved required watch) (idle : Idle watch) :
    coordinator.Concludes required readAround (coordinator.Concluded required) watch := by
  apply concludes_bind
  apply concludes_request
  · intro content
    have loaded : coordinator.Unserved required (watch.see ⟨.load, .ok content⟩) :=
      unserved_see.mpr ⟨unserved, rfl⟩
    constructor
    · intro seen isSeen other isServed
      rw [loaded seen isSeen] at isServed
      contradiction
    · refine .inr ⟨.none, content, derives_load idle, ?_⟩
      cases content <;> exact ⟨rfl, rfl⟩
  · intro _
    exact unserved_see.mpr ⟨unserved, rfl⟩

variable (coordinator required) in
theorem concludes_read (identity : Dict Str (PyValue F)) (given : Option DateTime) :
    coordinator.Concludes required (coordinator.read identity required given)
      (coordinator.Concluded required) (Watch.start given) := by
  have unserved : coordinator.Unserved required (Watch.start given) := List.forall_mem_nil _
  have idle : Idle (Watch.start given : Watch F) := List.forall_mem_nil _
  have reads : ∀ now after, coordinator.Unserved required after → Idle after →
      after.now = some now →
      coordinator.Concludes required (if coordinator.policy.enabled then
          coordinator.readThrough identity required now else readAround)
        (coordinator.Concluded required) after := by
    intro now after unserved idle time
    split
    · exact concludes_readThrough unserved idle time
    · exact concludes_readAround unserved idle
  apply concludes_bind
  cases given with
  | none => exact concludes_sampleClock unserved idle reads
  | some time =>
      apply concludes_lift unserved
      intro instant converted
      rw [ensureUtc_eq_ok_iff] at converted
      apply reads _ _ unserved idle
      change time.toUtc.toOption = some instant
      rw [converted]
      rfl

end Read

/-- A read to which the backend returned a valid entry returns the answer to it. -/
theorem Finds.outcome_eq {identity : Dict Str (PyValue F)} {given : Option DateTime}
    {entry : CacheEntry F} {outcome : Except Exc (CacheRead F)} {read : CacheRead F}
    (finds : coordinator.Finds identity required given entry outcome watch)
    (answered : coordinator.answer entry = some read) : outcome = .ok read := by
  obtain ⟨now, resource, key, version, seen, valid⟩ := finds.valid
  have isServed : coordinator.served required (some now,
      ⟨.get resource key, .ok (some ⟨entry, version⟩)⟩) = some read := by
    rw [served]
    dsimp only [Option.bind_some]
    rw [valid]
    exact answered
  have concluded := Prog.Safe.of_returns (concludes_read coordinator required identity given)
    finds.returns
  cases outcome with
  | ok other => rw [concluded.served _ seen _ isServed]
  | error error =>
      rw [concluded _ seen] at isServed
      contradiction

/-- The entry that a read stored was made from the content of its loader, which it
returned. -/
theorem Populates.made {identity : Dict Str (PyValue F)} {given : Option DateTime}
    {entry : CacheEntry F} {read : CacheRead F} (keeps : Keeps coordinator.envelope)
    (populates : coordinator.Populates identity required given content entry read watch) :
    (∃ key now, coordinator.Made key content now entry) ∧
      read.value = (content.map LoadedValue.value).getD .none ∧
      read.sourceVersion = content.bind LoadedValue.sourceVersion := by
  have concluded := Prog.Safe.of_returns (concludes_read coordinator required identity given)
    populates.returns
  rcases concluded.derived with idle | ⟨key, other, derives, returned⟩
  · exact (not_loaded_of_idle idle populates.loaded).elim
  · obtain rfl := derives.loaded content populates.loaded
    obtain ⟨now, ttl, prepared⟩ := derives.stored entry populates.stored
    exact ⟨⟨key, now, made_of_entry keeps prepared⟩, returned⟩

/-! ## The value of a hit -/

/-- Reading the canonical bytes of a value gives its JSON form, with the members in sorted
order. -/
theorem loads_canonicalJsonBytes {value : PyValue F} {data : Json F}
    (converted : jsonValue value = .ok data) (encodable : Encodable data) :
    canonicalJsonBytes value >>= loadsCanonical = .ok data.sortKeys.toPy := by
  have encoded := jsonBytes_eq_ok_iff.mpr ⟨encodable, rfl⟩
  rw [bind_eq_ok_iff]
  refine ⟨_, canonicalJsonBytes_eq_ok_iff.mpr ⟨data, converted, encoded⟩, ?_⟩
  rw [loadsCanonical, loadsBytes_jsonBytes encoded (distinctKeys_of_jsonValue value converted)]

/-- The answer to an entry that was made from a loaded value is a hit with the JSON form
of the value. -/
theorem Made.answer_eq {populator reader : CacheCoordinator F} {loaded : LoadedValue F}
    {created : Utc} {entry : CacheEntry F} {data : Json F}
    (populatorCanonical : populator.serializer = canonicalJsonSerializer)
    (readerCanonical : reader.serializer = canonicalJsonSerializer)
    (made : populator.Made key (some loaded) created entry)
    (converted : jsonValue loaded.value = .ok data) (encodable : Encodable data) :
    reader.answer entry = some ⟨data.sortKeys.toPy, loaded.sourceVersion, .hit, none⟩ := by
  have distinct := distinctKeys_of_jsonValue loaded.value converted
  obtain ⟨encoded, stored, encodedEq, storedEq, valueEq⟩ := made.value
  rw [populatorCanonical, canonicalJsonSerializer, bind_eq_ok_iff] at encodedEq
  obtain ⟨json, jsonEq, equal⟩ := encodedEq
  cases equal
  rw [converted, Except.ok.injEq] at jsonEq
  subst jsonEq
  rw [jsonValue_toPy data distinct, Except.ok.injEq] at storedEq
  subst storedEq
  have decoded : reader.decodeEntry entry = .ok data.sortKeys.toPy := by
    rw [decodeEntry, valueEq, payload, if_pos rfl, readerCanonical]
    exact loads_canonicalJsonBytes (jsonValue_toPy data distinct) encodable
  rw [answer, made.isNegative_eq, decoded, made.sourceVersion]
  rfl

omit [FloatText F] in
/-- JSON data is equal to itself with the members in sorted order. -/
theorem equalData_sortKeys {value : PyValue F} {data : Json F} (typed : JsonTyped value)
    (converted : jsonValue value = .ok data) : EqualData data.sortKeys.toPy value := by
  obtain ⟨json, distinct, rfl⟩ := typed
  rw [jsonValue_toPy json distinct, Except.ok.injEq] at converted
  subst converted
  refine ⟨json.sortKeys, json, rfl, rfl, ?_⟩
  rw [Json.same_iff_sortKeys_eq _ _ (Json.distinctKeys_sortKeys json distinct) distinct,
    Json.sortKeys_sortKeys]

/-- A hit returns the JSON form of what the miss returned.  A read stored an entry for
the content of its loader; another one, of this or another coordinator, at any later time,
found the entry valid.  If the loader returned a value whose JSON form has a UTF-8 text,
the other read returns it as a hit, with its version: the value itself where it is of the
JSON types, whatever it looks like, and otherwise what `json.loads` makes of its canonical
text.  If the loader returned `None`, the other read is a negative hit. -/
theorem hit_returns_json_form (populator reader : CacheCoordinator F)
    (keeps : Keeps populator.envelope)
    (populatorCanonical : populator.serializer = canonicalJsonSerializer)
    (readerCanonical : reader.serializer = canonicalJsonSerializer)
    (identity otherIdentity : Dict Str (PyValue F)) (required otherRequired : Option Version)
    (given otherGiven : Option DateTime) (content : Option (LoadedValue F)) (entry : CacheEntry F)
    (first : CacheRead F) (outcome : Except Exc (CacheRead F)) (watch later : Watch F)
    (populates : populator.Populates identity required given content entry first watch)
    (finds : reader.Finds otherIdentity otherRequired otherGiven entry outcome later) :
    (content = none → outcome = .ok ⟨.none, none, .negativeHit, none⟩) ∧
    ∀ loaded, content = some loaded →
      first.value = loaded.value ∧ first.sourceVersion = loaded.sourceVersion ∧
      ∀ data, jsonValue loaded.value = .ok data → Encodable data →
        ∃ second, outcome = .ok second ∧ second.outcome = .hit ∧
          second.sourceVersion = loaded.sourceVersion ∧
          canonicalJsonBytes loaded.value >>= loadsCanonical = .ok second.value ∧
          second.value = data.sortKeys.toPy ∧
          (JsonTyped loaded.value → EqualData second.value first.value) := by
  obtain ⟨⟨key, now, made⟩, valueEq, versionEq⟩ := populates.made keeps
  constructor
  · rintro rfl
    apply finds.outcome_eq
    rw [answer, made.isNegative_eq, made.sourceVersion]
    rfl
  · rintro loaded rfl
    refine ⟨valueEq, versionEq, ?_⟩
    intro data converted encodable
    refine ⟨⟨data.sortKeys.toPy, loaded.sourceVersion, .hit, none⟩, finds.outcome_eq
      (made.answer_eq populatorCanonical readerCanonical converted encodable), rfl, rfl,
      loads_canonicalJsonBytes converted encodable, rfl, ?_⟩
    intro typed
    rw [valueEq]
    exact equalData_sortKeys typed converted

/-! ## Closed runs -/

omit [FloatText F] in
theorem sees_of_observes {α : Type} {program : Prog (CacheHook F) CacheHook.Response α}
    {value : α} (returns : program.Returns Observes watch value after) :
    program.Returns Sees watch value after :=
  returns.mono (fun _ => True) (fun _ _ _ _ _ observed => ⟨observed.2, trivial⟩) trivial

/-- What a read of the sample row sees that finds no entry, leads the flight, and stores
an entry for the content of its loader. -/
def populatedWatch (flightKey : Str) (content : Option (LoadedValue Empty))
    (entry : CacheEntry Empty) (ttl : Int) : Watch Empty :=
  ((((sampledWatch.see ⟨.get rowColumnPolicy.cacheResource sampleKey, .ok none⟩).see
    ⟨.joinFlight flightKey, .ok (0, true)⟩).see ⟨.load, .ok content⟩).see
    ⟨.put rowColumnPolicy.cacheResource entry (ttlMilliseconds ttl), .ok (.number 1)⟩).see
    ⟨.leaveFlight flightKey, .ok ()⟩

theorem exists_populates {content : Option (LoadedValue Empty)} {entry : CacheEntry Empty}
    {ttl : Int}
    (prepared : sample.entry sampleKey content sampleInstant = .ok (some (entry, ttl))) :
    ∃ flightKey, sample.Populates (sampleIdentity 1 2) none none content entry
      (loadedRead content none .miss) (populatedWatch flightKey content entry ttl) := by
  obtain ⟨values, bytes, accepted⟩ := CachePolicy.exists_keyed rowColumnPolicy_key
  refine ⟨prefixedDigest bytes, sees_of_observes ?_, ⟨some sampleInstant, ?_⟩,
    ⟨some sampleInstant, rowColumnPolicy.cacheResource, ttlMilliseconds ttl, .number 1, ?_⟩⟩
  · apply Script.returns_bind sampled_returns
    apply Script.returns_bind (Script.returns_lift rowColumnPolicy_key)
    apply Script.returns_bind (Script.returns_bind (attempt_returns _ (.get _ _) none) (.ret _ _))
    apply Script.returns_bind (Script.returns_lift accepted.digestOf)
    apply Script.returns_bind (request_returns _ (.joinFlight _) (0, true))
    apply Script.returns_tryFinally _ (request_returns _ (.leaveFlight _) ())
    apply Script.returns_bind (request_returns _ .load content)
    apply Script.returns_bind (Script.returns_lift prepared)
    exact Script.returns_bind (Script.returns_bind (attempt_returns _ (.put _ _ _) (.number 1))
      (.ret _ _)) (.ret _ _)
  · exact List.mem_append_left _ (List.mem_append_left _ (List.mem_append_right _
      (List.mem_singleton_self _)))
  · exact List.mem_append_left _ (List.mem_append_right _ (List.mem_singleton_self _))

/-- What a read of the sample row sees to which the backend returns an entry. -/
def foundWatch (entry : CacheEntry Empty) : Watch Empty :=
  sampledWatch.see
    ⟨.get rowColumnPolicy.cacheResource sampleKey, .ok (some ⟨entry, .number 1⟩)⟩

theorem finds_of_valid {entry : CacheEntry Empty} {value : PyValue Empty}
    (valid : sample.validEntry entry none sampleInstant = .ok true)
    (positive : isNegative entry.value = false)
    (decoded : sample.decodeEntry entry = .ok value) :
    sample.Finds (sampleIdentity 1 2) none none entry
      (.ok ⟨value, entry.sourceVersion, .hit, none⟩) (foundWatch entry) := by
  have looked : (sample.cached sampleKey none sampleInstant ()).Returns Observes sampledWatch
      (.ok (some ⟨value, entry.sourceVersion, .hit, none⟩, none), ()) (foundWatch entry) := by
    apply Script.returns_bind (attempt_returns _ (.get _ _) (some ⟨entry, .number 1⟩))
    apply Script.returns_bind (Script.returns_lift valid)
    rw [serve, if_neg (by simp [positive])]
    exact Script.returns_bind (Script.returns_lift (by rw [decoded]; rfl)) (.ret _ _)
  refine ⟨sees_of_observes ?_, sampleInstant, _, _, .number 1, List.mem_append_right _
    (List.mem_singleton_self _), valid⟩
  apply Script.returns_bind sampled_returns
  apply Script.returns_bind (Script.returns_lift rowColumnPolicy_key)
  exact Script.returns_bind looked (.ret _ _)

/-- An entry of the sample row with a payload, created at noon. -/
def payloadEntry (data : Json Empty) (sourceVersion : Option Version) : CacheEntry Empty :=
  { sampleEntry with
    value := .object [(valueField, data)]
    sourceVersion := sourceVersion }

theorem entry_payloadEntry {loaded : LoadedValue Empty} {data : Json Empty}
    (converted : jsonValue loaded.value = .ok data) :
    sample.entry sampleKey (some loaded) sampleInstant =
      .ok (some (payloadEntry data loaded.sourceVersion, 30000000)) := by
  have distinct := distinctKeys_of_jsonValue loaded.value converted
  have tagged : (Json.object [(valueField, data)]).DistinctKeys := by
    simpa [Json.DistinctKeys, Json.DistinctKeysMembers] using distinct
  have encoded : sample.serializer.encode loaded.value = .ok data.toPy := by
    change jsonValue loaded.value >>= _ = _
    rw [converted]
    rfl
  have valueEq := jsonValue_toPy _ tagged
  rw [Json.toPy, Json.toPyMembers, Json.toPyMembers] at valueEq
  have expires : plus sampleInstant sample.policy.defaultTtl =
      .ok ⟨63923256030000000, by decide⟩ := by
    decide +kernel
  have wrapped : sample.wrap sampleKey (.mapping [(.str valueField, data.toPy)])
      sample.policy.defaultTtl loaded.sourceVersion sampleInstant =
      .ok (payloadEntry data loaded.sourceVersion) :=
    bind_eq_ok_iff.mpr ⟨_, rfl, bind_eq_ok_iff.mpr ⟨_, valueEq, bind_eq_ok_iff.mpr
      ⟨_, expires, rfl⟩⟩⟩
  exact bind_eq_ok_iff.mpr ⟨_, bind_eq_ok_iff.mpr ⟨_, encoded, wrapped⟩, rfl⟩

/-- Both reads of a loaded value, each with what it sees. -/
theorem exists_reads (loaded : LoadedValue Empty) {data : Json Empty}
    (converted : jsonValue loaded.value = .ok data) (encodable : Encodable data)
    (valid : sample.validEntry (payloadEntry data loaded.sourceVersion) none sampleInstant =
      .ok true) :
    ∃ first second watch later,
      sample.Populates (sampleIdentity 1 2) none none (some loaded)
        (payloadEntry data loaded.sourceVersion) first watch ∧
      sample.Finds (sampleIdentity 1 2) none none (payloadEntry data loaded.sourceVersion)
        (.ok second) later ∧
      first.value = loaded.value ∧ second.value = data.sortKeys.toPy := by
  obtain ⟨flightKey, populates⟩ := exists_populates (entry_payloadEntry converted)
  have decoded : sample.decodeEntry (payloadEntry data loaded.sourceVersion) =
      .ok data.sortKeys.toPy :=
    loads_canonicalJsonBytes (jsonValue_toPy data (distinctKeys_of_jsonValue _ converted)) encodable
  have positive : isNegative (payloadEntry data loaded.sourceVersion).value = false := by
    have different : valueField ≠ str "$meridian.cache.negative" := by decide
    simp [payloadEntry, isNegative, different]
  exact ⟨_, _, _, _, populates, finds_of_valid valid positive decoded, rfl, rfl⟩

/-- The serializer turns a loaded `datetime` into text: the miss returns the `datetime`
and the hit the text, which is another value. -/
theorem datetime_hit_returns_text : ∃ entry first second watch later,
    sample.Populates (sampleIdentity 1 2) none none
      (some ⟨.datetime (.ofUtc sampleInstant), none⟩) entry first watch ∧
    sample.Finds (sampleIdentity 1 2) none none entry (.ok second) later ∧
    first.value = .datetime (.ofUtc sampleInstant) ∧
    second.value = .str (rfc3339 sampleInstant) ∧ ¬ EqualData second.value first.value := by
  have converted : jsonValue (.datetime (.ofUtc sampleInstant) : PyValue Empty) =
      .ok (.str (rfc3339 sampleInstant)) := rfl
  obtain ⟨first, second, watch, later, populates, finds, firstValue, secondValue⟩ :=
    exists_reads ⟨.datetime (.ofUtc sampleInstant), none⟩ converted (by decide)
      (by decide +kernel)
  refine ⟨_, first, second, watch, later, populates, finds, firstValue, secondValue, ?_⟩
  rintro ⟨firstData, secondData, -, equal, -⟩
  rw [firstValue] at equal
  cases secondData <;> cases equal

/-- A loaded value that looks like the negative marker is returned as a hit. -/
theorem hit_returns_json_form_marker : ∃ entry first outcome watch later,
    sample.Populates (sampleIdentity 1 2) none none
      (some ⟨(negative : Json Empty).toPy, some (.number 3)⟩) entry first watch ∧
    sample.Finds (sampleIdentity 1 2) none none entry outcome later ∧
    ∃ second, outcome = .ok second ∧ second.outcome = .hit ∧
      second.sourceVersion = some (.number 3) ∧ EqualData second.value first.value := by
  have distinct : (negative : Json Empty).DistinctKeys := by
    simp [negative, Json.DistinctKeys, Json.DistinctKeysMembers]
  have converted := jsonValue_toPy _ distinct
  obtain ⟨first, read, watch, later, populates, finds, -, -⟩ :=
    exists_reads ⟨(negative : Json Empty).toPy, some (.number 3)⟩ converted (by decide)
      (by decide +kernel)
  refine ⟨_, first, _, watch, later, populates, finds, ?_⟩
  obtain ⟨-, -, returned⟩ := (hit_returns_json_form sample sample keeps_textEnvelope rfl rfl
    _ _ _ _ _ _ _ _ _ _ _ _ populates finds).2 _ rfl
  obtain ⟨second, outcomeEq, hit, version, -, -, equal⟩ := returned _ converted (by decide)
  exact ⟨second, outcomeEq, hit, version, equal ⟨_, distinct, rfl⟩⟩

end CacheCoordinator

end DataLifecycle.Cache
