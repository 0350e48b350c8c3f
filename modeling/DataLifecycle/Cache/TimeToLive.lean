import DataLifecycle.Cache.Staleness
import DataLifecycle.Interaction.Calls
import DataLifecycle.Python.Rounding

/-!
# Times to live

A coordinator writes the expiry of an entry in two places: as a timestamp in the entry,
exact to the microsecond, and as a number of milliseconds for the backend.  The second is
computed in floating point.  This module bounds the difference, and shows that every
backend call of a coordinator stays inside its policy.
-/

namespace DataLifecycle.Cache

open Python Interaction

/-! ## Milliseconds -/

theorem nearestDouble_eq (value : ℚ) : nearestDouble value = nearestBinary 52 value := by
  rw [nearestBinary, nearestMultiple_eq]
  rfl

/-- `ttl.total_seconds() * 1000` in floating point. -/
def floatMilliseconds (ttl : Int) : ℚ :=
  nearestDouble (nearestDouble ((ttl : ℚ) / 1000000) * 1000)

theorem ttlMilliseconds_eq (ttl : Int) : ttlMilliseconds ttl = max 1 ⌊floatMilliseconds ttl⌋ :=
  rfl

theorem floatMilliseconds_mono {first second : Int} (positive : 0 < first)
    (le : first ≤ second) : floatMilliseconds first ≤ floatMilliseconds second := by
  have start : (0 : ℚ) < first / 1000000 := by positivity
  have seconds : (first : ℚ) / 1000000 ≤ second / 1000000 := by gcongr
  simp only [floatMilliseconds, nearestDouble_eq]
  apply nearestBinary_mono
  · exact mul_pos (nearestBinary_pos 52 start) (by norm_num)
  · exact mul_le_mul_of_nonneg_right (nearestBinary_mono 52 start seconds) (by norm_num)

/-- A longer time to live does not become a shorter one. -/
theorem ttlMilliseconds_mono {first second : Int} (positive : 0 < first) (le : first ≤ second) :
    ttlMilliseconds first ≤ ttlMilliseconds second :=
  max_le_max le_rfl (Int.floor_mono (floatMilliseconds_mono positive le))

/-- Two roundings change a duration by less than a part in `2 ^ 51`. -/
theorem abs_floatMilliseconds_sub_le {ttl : Int} (positive : 0 < ttl) :
    |1000 * floatMilliseconds ttl - ttl| ≤ (ttl : ℚ) / 2 ^ 51 := by
  have start : (0 : ℚ) < ttl / 1000000 := by positivity
  have seconds := abs_nearestBinary_sub_le 52 start
  have rounded := nearestBinary_pos 52 start
  have milliseconds := abs_nearestBinary_sub_le 52
    (mul_pos rounded (by norm_num : (0 : ℚ) < 1000))
  simp only [floatMilliseconds, nearestDouble_eq]
  rw [abs_le] at seconds milliseconds ⊢
  constructor <;> linarith [seconds.1, seconds.2, milliseconds.1, milliseconds.2]

/-- The milliseconds of the backend agree with a duration in microseconds: rounding down to
whole milliseconds, an error of floating point below one part in `2 ^ 51`, and at least one
millisecond. -/
structure Agrees (milliseconds lifetime : Int) : Prop where
  positive : 1 ≤ milliseconds
  no_longer : 1000 * milliseconds ≤ max 1000 (lifetime + lifetime / 2 ^ 51)
  no_shorter : lifetime ≤ 1000 * milliseconds + 1000 + lifetime / 2 ^ 51

theorem agrees_ttlMilliseconds {ttl : Int} (positive : 0 < ttl) :
    Agrees (ttlMilliseconds ttl) ttl := by
  have error := abs_le.mp (abs_floatMilliseconds_sub_le positive)
  have below := Int.floor_le (floatMilliseconds ttl)
  have above := Int.lt_floor_add_one (floatMilliseconds ttl)
  have whole : ttl / 2 ^ 51 = ⌊(ttl : ℚ) / 2 ^ 51⌋ := by
    have cast := Rat.floor_intCast_div_natCast ttl (2 ^ 51)
    push_cast at cast
    exact cast.symm
  have division := Int.lt_floor_add_one ((ttl : ℚ) / 2 ^ 51)
  rw [← whole] at division
  rw [ttlMilliseconds_eq]
  constructor
  · exact le_max_left _ _
  · rcases le_total ⌊floatMilliseconds ttl⌋ 1 with small | large
    · rw [max_eq_left small]
      exact le_max_left _ _
    · rw [max_eq_right large]
      apply le_max_of_le_right
      have inside : 1000 * ⌊floatMilliseconds ttl⌋ < ttl + ttl / 2 ^ 51 + 1 := by
        rw [← Int.cast_lt (R := ℚ)]
        push_cast
        linarith [error.2]
      omega
  · have inside : ttl < 1000 * ⌊floatMilliseconds ttl⌋ + 1000 + ttl / 2 ^ 51 + 1 := by
      rw [← Int.cast_lt (R := ℚ)]
      push_cast
      linarith [error.1]
    have atLeast := le_max_right 1 ⌊floatMilliseconds ttl⌋
    omega

/-! ## Policies -/

namespace CachePolicy

/-- `value` of the enumeration. -/
def strategyValue : SourceVersionStrategy → Str
  | .none => str "none"
  | .exact => str "exact"
  | .atLeast => str "at-least"

/-- `to_mapping`. -/
def toMapping {F : Type} (policy : CachePolicy) : List (Str × Json F) := [
  (str "sourceResource", .str policy.sourceResource),
  (str "cacheResource", .str policy.cacheResource),
  (str "keyFields", .array (policy.keyFields.map .str)),
  (str "serializerId", .str policy.serializerId),
  (str "schemaFingerprint", .str policy.schemaFingerprint),
  (str "defaultTtlMs", .int (ttlMilliseconds policy.defaultTtl)),
  (str "maximumTtlMs", .int (ttlMilliseconds policy.maximumTtl)),
  (str "maximumStalenessMs", .int ⌊floatMilliseconds policy.maximumStaleness⌋),
  (str "negativeTtlMs", match policy.negativeTtl with
    | none => .null
    | some ttl => .int (ttlMilliseconds ttl)),
  (str "sourceVersionStrategy", .str (strategyValue policy.sourceVersionStrategy)),
  (str "enabled", .bool policy.enabled),
  (str "fallbackToAuthoritative", .bool policy.fallbackToAuthoritative),
  (str "maximumKeyBytes", .int policy.maximumKeyBytes)]

/-- A lifetime that the policy permits. -/
def Permits (policy : CachePolicy) (ttl : Int) : Prop := 0 < ttl ∧ ttl ≤ policy.maximumTtl

theorem permits_defaultTtl (policy : CachePolicy) : policy.Permits policy.defaultTtl :=
  policy.valid.defaultTtl

theorem permits_negativeTtl {policy : CachePolicy} {ttl : Int}
    (negative : policy.negativeTtl = some ttl) : policy.Permits ttl :=
  policy.valid.negativeTtl ttl negative

/-- A permitted lifetime is within the maximum that the policy publishes. -/
theorem Permits.published {F : Type} {policy : CachePolicy} {ttl : Int}
    (permits : policy.Permits ttl) : ∃ maximum,
      Dict.lookup (str "maximumTtlMs") (policy.toMapping (F := F)) = some (.int maximum) ∧
        ttlMilliseconds ttl ≤ maximum :=
  ⟨_, rfl, ttlMilliseconds_mono permits.1 permits.2⟩

end CachePolicy

/-! ## The calls of a coordinator -/

/-- An entry that a coordinator writes, with its time to live. -/
structure CachePolicy.Issues {F : Type} (policy : CachePolicy) (resource : Str)
    (entry : CacheEntry F) (milliseconds : Int) : Prop where
  resource_eq : resource = policy.cacheResource
  serializerId : entry.serializerId = policy.serializerId
  schemaFingerprint : entry.schemaFingerprint = policy.schemaFingerprint
  published : ∃ maximum,
    Dict.lookup (str "maximumTtlMs") (policy.toMapping (F := F)) = some (.int maximum) ∧
      milliseconds ≤ maximum
  /-- Between the stored timestamps, which may be text. -/
  lifetime : ∀ created stored, entry.createdAt.toUtc "createdAt" = .ok created →
    expiry entry.expiresAt = .ok stored → ∃ expires, stored = some expires ∧
      policy.Permits (expires.val - created.val) ∧ Agrees milliseconds (expires.val - created.val)

/-- A backend call inside a policy. -/
def CacheHook.Within {F : Type} (policy : CachePolicy) : CacheHook F → Prop
  | .put resource entry milliseconds => policy.Issues resource entry milliseconds
  | .putIfAbsent resource entry milliseconds => policy.Issues resource entry milliseconds
  | .compareAndSet resource entry _ milliseconds => policy.Issues resource entry milliseconds
  | .get resource _ => resource = policy.cacheResource
  | .delete resource _ => resource = policy.cacheResource
  | .invalidate resource _ => resource = policy.cacheResource
  | _ => True

namespace CacheCoordinator

variable {F : Type} (coordinator : CacheCoordinator F)

/-- A part whose backend calls are inside the policy. -/
abbrev StaysWithin {α : Type} (part : Caching F α) : Prop :=
  Script.Calls (CacheHook.Within coordinator.policy) part

variable {coordinator}

theorem issues_of_wrap (keeps : Keeps coordinator.envelope) {key value : PyValue F} {ttl : Int}
    {sourceVersion : Option Version} {now : Utc} {entry : CacheEntry F}
    (permits : coordinator.policy.Permits ttl)
    (wrapped : coordinator.wrap key value ttl sourceVersion now = .ok entry) :
    coordinator.policy.Issues coordinator.policy.cacheResource entry (ttlMilliseconds ttl) := by
  have envelops := envelops_of_wrap keeps wrapped
  refine ⟨rfl, envelops.serializerId, envelops.schemaFingerprint, permits.published, ?_⟩
  intro created stored createdAt expiresAt
  obtain ⟨expires, added, stores⟩ := envelops.expiresAt
  obtain rfl := envelops.createdAt created createdAt
  have lifetime : (expires.val : Int) - created.val = ttl := by
    have later := Utc.val_of_add_eq_some added
    omega
  refine ⟨expires, stores stored expiresAt, ?_, ?_⟩
  · rw [lifetime]
    exact permits
  · rw [lifetime]
    exact agrees_ttlMilliseconds permits.1

theorem issues_of_wrapLoaded (keeps : Keeps coordinator.envelope) {key : PyValue F}
    {loaded : LoadedValue F} {ttl : Int} {now : Utc} {entry : CacheEntry F}
    (permits : coordinator.policy.Permits ttl)
    (wrapped : coordinator.wrapLoaded key loaded ttl now = .ok entry) :
    coordinator.policy.Issues coordinator.policy.cacheResource entry (ttlMilliseconds ttl) := by
  rw [wrapLoaded, bind_eq_ok_iff] at wrapped
  obtain ⟨encoded, -, wrapped⟩ := wrapped
  exact issues_of_wrap keeps permits wrapped

/-- What a load prepares may be written. -/
theorem issues_of_entry (keeps : Keeps coordinator.envelope) {key : PyValue F}
    {loaded : Option (LoadedValue F)} {now : Utc} {entry : CacheEntry F} {ttl : Int}
    (prepared : coordinator.entry key loaded now = .ok (some (entry, ttl))) :
    coordinator.policy.Issues coordinator.policy.cacheResource entry (ttlMilliseconds ttl) := by
  cases loaded with
  | none =>
      rw [CacheCoordinator.entry] at prepared
      split at prepared
      next => cases prepared
      next negativeTtl negative =>
        obtain ⟨made, wrapped, equal⟩ := bind_eq_ok_iff.mp prepared
        cases equal
        exact issues_of_wrap keeps (CachePolicy.permits_negativeTtl negative) wrapped
  | some loaded =>
      obtain ⟨made, wrapped, equal⟩ := bind_eq_ok_iff.mp prepared
      cases equal
      exact issues_of_wrapLoaded keeps coordinator.policy.permits_defaultTtl wrapped

/-- A TTL chosen by a caller is refused outside the policy. -/
theorem permits_of_selectedTtl {ttl : Option Int} {selected : Int}
    (chosen : coordinator.selectedTtl ttl = .ok selected) :
    coordinator.policy.Permits selected := by
  obtain ⟨⟨⟩, inside, equal⟩ := bind_eq_ok_iff.mp chosen
  cases equal
  have bounds := refuse_eq_ok_iff.mp inside
  rw [not_or, not_le, not_lt] at bounds
  exact bounds

theorem stays_request (hook : CacheHook F) (within : hook.Within coordinator.policy) :
    coordinator.StaysWithin (request hook) :=
  Script.calls_invoke within _

theorem stays_attempt (hook : CacheHook F) (within : hook.Within coordinator.policy) :
    coordinator.StaysWithin (attempt hook) :=
  Script.calls_invoke within _

/-! ### The parts of a read -/

section Parts

variable [FloatText F]

theorem stays_recordFailure (state : String) (error : Exc) (now : Utc) :
    coordinator.StaysWithin (coordinator.recordFailure state error now) := by
  apply Script.calls_bind (Script.calls_lift _)
  intro evidence
  apply Script.calls_bind (stays_request (.record evidence) trivial)
  exact fun _ => Script.calls_pure _

theorem stays_evict (state : String) (key : PyValue F) (now : Utc) :
    coordinator.StaysWithin (coordinator.evict state key now) := by
  apply Script.calls_bind (stays_attempt (.delete _ key) rfl)
  intro response
  cases response with
  | ok existed => exact Script.calls_pure _
  | error error =>
      apply Script.calls_bind (stays_recordFailure state error now)
      exact fun _ => Script.calls_pure _

theorem stays_readFailed (error : Exc) (now : Utc) :
    coordinator.StaysWithin (coordinator.readFailed error now) := by
  apply Script.calls_bind (stays_recordFailure _ error now)
  intro code
  apply Script.calls_bind (Script.calls_refuse _ _)
  exact fun _ => Script.calls_pure _

theorem stays_serve (key : PyValue F) (entry : CacheEntry F) (now : Utc) :
    coordinator.StaysWithin (coordinator.serve key entry now) := by
  unfold CacheCoordinator.serve
  split
  next => exact Script.calls_pure _
  next =>
    apply Script.calls_bind (Script.calls_lift _)
    intro decoded
    cases decoded with
    | ok value => exact Script.calls_pure _
    | error error =>
        apply Script.calls_bind (stays_evict _ key now)
        intro _
        apply Script.calls_bind (stays_recordFailure _ error now)
        exact fun _ => Script.calls_pure _

theorem stays_judge (key : PyValue F) (entry : CacheEntry F) (required : Option Version)
    (now : Utc) : coordinator.StaysWithin (coordinator.judge key entry required now) := by
  apply Script.calls_bind (Script.calls_lift _)
  intro valid
  cases valid with
  | true => exact stays_serve key entry now
  | false =>
      apply Script.calls_bind (stays_evict _ key now)
      exact fun _ => Script.calls_pure _

theorem stays_cached (key : PyValue F) (required : Option Version) (now : Utc) :
    coordinator.StaysWithin (coordinator.cached key required now) := by
  apply Script.calls_bind (stays_attempt (.get _ key) rfl)
  intro response
  rcases response with error | _ | found
  · exact stays_readFailed error now
  · exact Script.calls_pure _
  · exact stays_judge key found.entry required now

/-- A load writes only what `_entry` prepared. -/
theorem stays_load (keeps : Keeps coordinator.envelope) (key : PyValue F)
    (cacheError : Option Str) (now : Utc) :
    coordinator.StaysWithin (coordinator.load key cacheError now) := by
  apply Script.calls_bind (stays_request .load trivial)
  intro loaded
  apply Script.calls_lift_bind
  intro prepared preparedEq
  refine Script.calls_bind ?_ fun code => Script.calls_pure _
  cases prepared with
  | none => exact Script.calls_pure _
  | some prepared =>
      apply Script.calls_bind (stays_attempt (.put _ _ _) (issues_of_entry keeps preparedEq))
      intro response
      cases response with
      | ok version => exact Script.calls_pure _
      | error error =>
          apply Script.calls_bind (stays_recordFailure _ error now)
          exact fun _ => Script.calls_pure _

omit [FloatText F] in
theorem stays_sampleClock : coordinator.StaysWithin (sampleClock : Caching F Utc) := by
  apply Script.calls_bind (stays_request .clock trivial)
  exact fun _ => Script.calls_lift _

omit [FloatText F] in
theorem stays_currentTime (now : Option DateTime) :
    coordinator.StaysWithin (currentTime now : Caching F Utc) := by
  cases now with
  | some now => exact Script.calls_lift _
  | none => exact stays_sampleClock

theorem stays_fly (keeps : Keeps coordinator.envelope) (key : PyValue F)
    (required : Option Version) (code : Option Str) (now : Utc) :
    coordinator.StaysWithin (coordinator.fly key required code now) := by
  apply Script.calls_bind (Script.calls_lift _)
  intro flightKey
  apply Script.calls_bind (stays_request (.joinFlight flightKey) trivial)
  rintro ⟨event, leads⟩
  cases leads with
  | true =>
      exact Script.calls_tryFinally (stays_load keeps key code now)
        (stays_request (.leaveFlight flightKey) trivial)
  | false =>
      apply Script.calls_bind (stays_request (.wait event) trivial)
      intro set
      apply Script.calls_bind stays_sampleClock
      intro later
      apply Script.calls_bind (stays_cached key required later)
      rintro ⟨_ | read, followerError⟩
      · apply Script.calls_bind stays_sampleClock
        exact fun last => stays_load keeps key _ last
      · exact Script.calls_pure _

theorem stays_read (keeps : Keeps coordinator.envelope) (identity : Dict Str (PyValue F))
    (required : Option Version) (now : Option DateTime) :
    coordinator.StaysWithin (coordinator.read identity required now) := by
  apply Script.calls_bind (stays_currentTime now)
  intro current
  split
  next =>
    apply Script.calls_bind (Script.calls_lift _)
    intro key
    apply Script.calls_bind (stays_cached key required current)
    rintro ⟨_ | read, code⟩
    · exact stays_fly keeps key required code current
    · exact Script.calls_pure _
  next =>
    apply Script.calls_bind (stays_request .load trivial)
    exact fun _ => Script.calls_pure _

/-- The entry of an explicit write may be written. -/
theorem issues_of_explicitEntry (keeps : Keeps coordinator.envelope)
    {identity : Dict Str (PyValue F)} {value : LoadedValue F} {ttl : Option Int} {selected : Int}
    {now : Utc} {entry : CacheEntry F} (chosen : coordinator.selectedTtl ttl = .ok selected)
    (made : coordinator.explicitEntry identity value selected now = .ok entry) :
    coordinator.policy.Issues coordinator.policy.cacheResource entry
      (ttlMilliseconds selected) := by
  obtain ⟨key, -, wrapped⟩ := bind_eq_ok_iff.mp made
  exact issues_of_wrapLoaded keeps (permits_of_selectedTtl chosen) wrapped

end Parts

end CacheCoordinator

/-! ### All calls -/

/-- The operations of a coordinator with their arguments. -/
inductive Request (F : Type)
  | read (identity : Dict Str (PyValue F)) (required : Option Version) (now : Option DateTime)
  | invalidateAfterCommit (selector : Dict Str (PyValue F)) (now : Option DateTime)
  | putIfAbsent (identity : Dict Str (PyValue F)) (value : LoadedValue F) (ttl : Option Int)
      (now : Option DateTime)
  | compareAndSet (identity : Dict Str (PyValue F)) (value : LoadedValue F)
      (expectedVersion : Version) (ttl : Option Int) (now : Option DateTime)
  | delete (identity : Dict Str (PyValue F))
  | inspect (identity : Dict Str (PyValue F))

/-- The script of an operation; its result is dropped. -/
def Request.script {F : Type} [FloatText F] (coordinator : CacheCoordinator F) :
    Request F → Caching F Unit
  | .read identity required now => do
      let _ ← coordinator.read identity required now
  | .invalidateAfterCommit selector now => do
      let _ ← coordinator.invalidateAfterCommit selector now
  | .putIfAbsent identity value ttl now => do
      let _ ← coordinator.putIfAbsent identity value ttl now
  | .compareAndSet identity value expectedVersion ttl now => do
      let _ ← coordinator.compareAndSet identity value expectedVersion ttl now
  | .delete identity => do
      let _ ← coordinator.delete identity
  | .inspect identity => do
      let _ ← coordinator.inspect identity

/-- Whatever the backend, the loader, the evidence sink and the clock answer, every backend
call of a coordinator addresses the cache resource of its policy.  Every entry that it
writes carries the serializer and the Schema of the policy and expires within the maximum
TTL, and the milliseconds that the backend is given agree with that expiry. -/
theorem backend_calls_within_policy {F : Type} [FloatText F] (coordinator : CacheCoordinator F)
    (keeps : Keeps coordinator.envelope) (operation : Request F) :
    Script.Calls (CacheHook.Within coordinator.policy) (operation.script coordinator) := by
  cases operation with
  | read identity required now =>
      exact Script.calls_bind (CacheCoordinator.stays_read keeps identity required now)
        fun _ => Script.calls_pure _
  | invalidateAfterCommit selector now =>
      refine Script.calls_bind ?_ fun _ => Script.calls_pure _
      apply Script.calls_bind (CacheCoordinator.stays_currentTime now)
      intro current
      apply Script.calls_bind (CacheCoordinator.stays_attempt (.invalidate _ selector) rfl)
      intro response
      cases response with
      | ok count => exact Script.calls_pure _
      | error error =>
          apply Script.calls_bind (CacheCoordinator.stays_recordFailure _ error current)
          exact fun _ => Script.calls_pure _
  | putIfAbsent identity value ttl now =>
      refine Script.calls_bind ?_ fun _ => Script.calls_pure _
      apply Script.calls_bind (CacheCoordinator.stays_currentTime now)
      intro current
      apply Script.calls_lift_bind
      intro selected chosen
      apply Script.calls_lift_bind
      intro entry made
      apply Script.calls_invoke
      exact CacheCoordinator.issues_of_explicitEntry keeps chosen made
  | compareAndSet identity value expectedVersion ttl now =>
      refine Script.calls_bind ?_ fun _ => Script.calls_pure _
      apply Script.calls_bind (CacheCoordinator.stays_currentTime now)
      intro current
      apply Script.calls_lift_bind
      intro selected chosen
      apply Script.calls_lift_bind
      intro entry made
      apply Script.calls_invoke
      exact CacheCoordinator.issues_of_explicitEntry keeps chosen made
  | delete identity =>
      refine Script.calls_bind ?_ fun _ => Script.calls_pure _
      apply Script.calls_bind (Script.calls_lift _)
      intro key
      apply Script.calls_invoke
      exact (rfl : coordinator.policy.cacheResource = _)
  | inspect identity =>
      refine Script.calls_bind ?_ fun _ => Script.calls_pure _
      apply Script.calls_bind (Script.calls_lift _)
      intro key
      apply Script.calls_invoke
      exact (rfl : coordinator.policy.cacheResource = _)

theorem backend_calls_within_policy_sample :
    Script.Calls (CacheHook.Within CacheCoordinator.sample.policy)
      ((Request.putIfAbsent Dict.empty CacheCoordinator.sampleLoaded none none).script
        CacheCoordinator.sample) :=
  backend_calls_within_policy CacheCoordinator.sample keeps_textEnvelope _

end DataLifecycle.Cache
