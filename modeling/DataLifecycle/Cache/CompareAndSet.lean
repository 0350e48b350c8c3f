import DataLifecycle.Cache.Backends

/-!
# Compare-and-set never loses an update

All keys of the in-memory backend share one revision counter.  A version is taken from the counter
when an entry is stored and never again, so the version that a compare-and-set expects names one
stored entry of the whole history of the backend.
-/

namespace DataLifecycle.Cache.InMemoryCacheBackend

open Python

variable {F : Type} [FloatText F]

/-! ## What a call does -/

/-- What a call can do to the entries and the counter. -/
inductive Effect (backend after : InMemoryCacheBackend F) : Prop
  /-- Entries are removed, or nothing happens. -/
  | removes (revision : after.revision = backend.revision)
      (subset : ∀ key entry, after.entries.get? key = some entry →
        backend.entries.get? key = some entry)
  /-- A version is issued for a key that has no canonical form. -/
  | consumes (revision : after.revision = backend.revision + 1)
      (entries : after.entries = backend.entries)
  /-- An entry is stored under the next version. -/
  | stores (key : Str × Str) (entry : CacheEntry F)
      (stored : after = backend.bumped.store key entry)

theorem effect_put (backend : InMemoryCacheBackend F) (resource : Str) (entry : CacheEntry F) :
    Effect backend (backend.put resource entry).2 := by
  unfold put
  split
  · exact .removes rfl fun _ _ found => found
  · split
    · exact .consumes rfl rfl
    · exact .stores _ entry rfl

theorem effect_putIfAbsent (backend : InMemoryCacheBackend F) (resource : Str)
    (entry : CacheEntry F) : Effect backend (backend.putIfAbsent resource entry).2 := by
  unfold putIfAbsent
  split
  · exact .removes rfl fun _ _ found => found
  · split
    · exact .removes rfl fun _ _ found => found
    · split
      · exact .removes rfl fun _ _ found => found
      · exact .stores _ entry rfl

theorem effect_compareAndSet (backend : InMemoryCacheBackend F) (resource : Str)
    (entry : CacheEntry F) (expectedVersion : Version) :
    Effect backend (backend.compareAndSet resource entry expectedVersion).2 := by
  unfold compareAndSet
  split
  · exact .removes rfl fun _ _ found => found
  · split
    · exact .removes rfl fun _ _ found => found
    · split
      · exact .removes rfl fun _ _ found => found
      · split
        · exact .stores _ entry rfl
        · exact .removes rfl fun _ _ found => found

/-- A delete leaves the other entries and the counter. -/
theorem delete_snd (backend : InMemoryCacheBackend F) (resource : Str) (key : PyValue F) :
    (backend.delete resource key).2.revision = backend.revision ∧
      ∀ other entry, (backend.delete resource key).2.entries.get? other = some entry →
        backend.entries.get? other = some entry := by
  unfold delete
  split
  · exact ⟨rfl, fun _ _ found => found⟩
  · split
    · exact ⟨rfl, fun _ _ found => found⟩
    · refine ⟨rfl, fun other entry found => ?_⟩
      rw [Dict.get?_erase] at found
      split at found
      · contradiction
      · exact found

theorem effect_delete (backend : InMemoryCacheBackend F) (resource : Str) (key : PyValue F) :
    Effect backend (backend.delete resource key).2 :=
  .removes (delete_snd backend resource key).1 (delete_snd backend resource key).2

omit [FloatText F] in
theorem effect_invalidate (backend : InMemoryCacheBackend F) (resource : Str)
    (selector : Dict Str (PyValue F)) :
    Effect backend (backend.invalidate resource selector).2 := by
  unfold invalidate
  split
  · exact .removes rfl fun _ _ found => found
  · split
    · refine .removes rfl fun other entry found => ?_
      rw [Dict.get?_filter] at found
      split at found
      · exact found
      · contradiction
    · exact .removes rfl fun _ _ found => found

theorem effect_apply (backend : InMemoryCacheBackend F) (operation : Operation F) :
    Effect backend (backend.apply operation) := by
  cases operation with
  | setAvailable available => exact .removes rfl fun _ _ found => found
  | put resource entry => exact effect_put backend resource entry
  | putIfAbsent resource entry => exact effect_putIfAbsent backend resource entry
  | compareAndSet resource entry expectedVersion =>
      exact effect_compareAndSet backend resource entry expectedVersion
  | delete resource key => exact effect_delete backend resource key
  | invalidate resource selector => exact effect_invalidate backend resource selector

/-! ## When a call succeeds -/

omit [FloatText F] in
theorem requireAvailable_eq_ok_iff {backend : InMemoryCacheBackend F} :
    backend.requireAvailable = .ok () ↔ backend.available = true := by
  rw [requireAvailable, refuse_eq_ok_iff, Bool.not_eq_false]

/-- A compare-and-set succeeds exactly when the backend is available and the current entry of the
key carries the expected version. -/
theorem compareAndSet_eq_ok_true_iff {backend : InMemoryCacheBackend F} {resource : Str}
    {entry : CacheEntry F} {expectedVersion : Version} :
    (backend.compareAndSet resource entry expectedVersion).1 = .ok true ↔
      backend.available = true ∧ ∃ key current, storageKey resource entry.key.toPy = .ok key ∧
        backend.entries.get? key = some current ∧
        current.version.equals expectedVersion = true := by
  rw [← requireAvailable_eq_ok_iff]
  unfold compareAndSet
  split
  next error unavailable => simp [unavailable]
  next available =>
    split
    next error keyError => simp [keyError]
    next key keyEq =>
      split
      next absent => simp [available, keyEq, absent]
      next current found =>
        split
        next equal => simp [available, keyEq, found, equal]
        next differs => simp [available, keyEq, found, differs]

/-- A put-if-absent succeeds exactly when the backend is available and the key has no entry. -/
theorem putIfAbsent_eq_ok_true_iff {backend : InMemoryCacheBackend F} {resource : Str}
    {entry : CacheEntry F} :
    (backend.putIfAbsent resource entry).1 = .ok true ↔
      backend.available = true ∧ ∃ key, storageKey resource entry.key.toPy = .ok key ∧
        backend.entries.get? key = none := by
  rw [← requireAvailable_eq_ok_iff]
  unfold putIfAbsent
  split
  next error unavailable => simp [unavailable]
  next available =>
    split
    next error keyError => simp [keyError]
    next key keyEq =>
      split
      next current found => simp [available, keyEq, found]
      next absent => simp [available, keyEq, absent]

/-- A successful compare-and-set replaces the current entry. -/
theorem compareAndSet_snd {backend : InMemoryCacheBackend F} {resource : Str} {entry : CacheEntry F}
    {expectedVersion : Version}
    (success : (backend.compareAndSet resource entry expectedVersion).1 = .ok true) :
    ∃ key current, storageKey resource entry.key.toPy = .ok key ∧
      backend.entries.get? key = some current ∧ current.version.equals expectedVersion = true ∧
      (backend.compareAndSet resource entry expectedVersion).2 = backend.bumped.store key entry := by
  obtain ⟨available, key, current, keyEq, found, equal⟩ := compareAndSet_eq_ok_true_iff.mp success
  refine ⟨key, current, keyEq, found, equal, ?_⟩
  rw [compareAndSet, requireAvailable_eq_ok available, keyEq]
  simp only [found, equal, if_true]

/-- A successful put-if-absent stores its entry. -/
theorem putIfAbsent_snd {backend : InMemoryCacheBackend F} {resource : Str} {entry : CacheEntry F}
    (success : (backend.putIfAbsent resource entry).1 = .ok true) :
    ∃ key, storageKey resource entry.key.toPy = .ok key ∧
      (backend.putIfAbsent resource entry).2 = backend.bumped.store key entry := by
  obtain ⟨available, key, keyEq, absent⟩ := putIfAbsent_eq_ok_true_iff.mp success
  refine ⟨key, keyEq, ?_⟩
  rw [putIfAbsent, requireAvailable_eq_ok available, keyEq]
  simp only [absent]

/-- The call finds the backend unavailable. -/
def Unavailable (backend : InMemoryCacheBackend F) : Operation F → Prop
  | .setAvailable _ => False
  | _ => backend.available = false

/-- The call answers `False`, or raises from its own checks. -/
def Refused (backend : InMemoryCacheBackend F) : Operation F → Prop
  | .setAvailable _ => False
  | .put _ _ => False
  | .putIfAbsent resource entry => (backend.putIfAbsent resource entry).1 ≠ .ok true
  | .compareAndSet resource entry expectedVersion =>
      (backend.compareAndSet resource entry expectedVersion).1 ≠ .ok true
  | .delete resource key => (backend.delete resource key).1 ≠ .ok true
  | .invalidate resource selector => ∃ error, (backend.invalidate resource selector).1 = .error error

omit [FloatText F] in
theorem requireAvailable_eq_error {backend : InMemoryCacheBackend F}
    (unavailable : backend.available = false) : ∃ error, backend.requireAvailable = .error error :=
  ⟨_, if_pos unavailable⟩

/-- An unavailable backend does not change. -/
theorem apply_of_unavailable {backend : InMemoryCacheBackend F} {operation : Operation F}
    (unavailable : backend.Unavailable operation) : backend.apply operation = backend := by
  cases operation with
  | setAvailable available => exact unavailable.elim
  | put resource entry =>
      obtain ⟨error, raised⟩ := requireAvailable_eq_error unavailable
      rw [apply, put, raised]
  | putIfAbsent resource entry =>
      obtain ⟨error, raised⟩ := requireAvailable_eq_error unavailable
      rw [apply, putIfAbsent, raised]
  | compareAndSet resource entry expectedVersion =>
      obtain ⟨error, raised⟩ := requireAvailable_eq_error unavailable
      rw [apply, compareAndSet, raised]
  | delete resource key =>
      obtain ⟨error, raised⟩ := requireAvailable_eq_error unavailable
      rw [apply, delete, raised]
  | invalidate resource selector =>
      obtain ⟨error, raised⟩ := requireAvailable_eq_error unavailable
      rw [apply, invalidate, raised]

/-- A refused call does not change the backend. -/
theorem apply_of_refused {backend : InMemoryCacheBackend F} {operation : Operation F}
    (refused : backend.Refused operation) : backend.apply operation = backend := by
  cases operation with
  | setAvailable available => exact refused.elim
  | put resource entry => exact refused.elim
  | putIfAbsent resource entry =>
      simp only [Refused, apply, putIfAbsent] at refused ⊢
      split at refused
      next => rfl
      next =>
        split at refused
        next => rfl
        next =>
          split at refused
          next => rfl
          next => exact absurd rfl refused
  | compareAndSet resource entry expectedVersion =>
      simp only [Refused, apply, compareAndSet] at refused ⊢
      split at refused
      next => rfl
      next =>
        split at refused
        next => rfl
        next =>
          split at refused
          next => rfl
          next =>
            split at refused
            next => exact absurd rfl refused
            next differs => rw [if_neg differs]
  | delete resource key =>
      simp only [Refused, apply, delete] at refused ⊢
      split at refused
      next => rfl
      next =>
        split at refused
        next => rfl
        next key keyEq =>
          have absent : backend.entries.get? key = none := by
            cases found : backend.entries.get? key with
            | none => rfl
            | some current => simp [found] at refused
          simp only [Dict.erase_of_get?_eq_none absent]
  | invalidate resource selector =>
      obtain ⟨error, raised⟩ := refused
      simp only [apply, invalidate] at raised ⊢
      split at raised
      next => rfl
      next =>
        split at raised
        next => cases raised
        next differs => rw [if_neg differs]

/-! ## Versions -/

/-- The version that an entry carries after a call has stored it. -/
def storedVersion (after : InMemoryCacheBackend F) (resource : Str) (entry : CacheEntry F) :
    Option Version :=
  match storageKey resource entry.key.toPy with
  | .ok key => (after.entries.get? key).map (·.version)
  | .error _ => none

/-- The version that a call issues: the one that a put returns, and the one under which a
conditional write stores its entry. -/
def issuedVersion (backend : InMemoryCacheBackend F) : Operation F → Option Version
  | .put resource entry =>
      match backend.put resource entry with
      | (.ok version, _) => some version
      | (.error _, _) => none
  | .putIfAbsent resource entry =>
      match backend.putIfAbsent resource entry with
      | (.ok true, after) => after.storedVersion resource entry
      | _ => none
  | .compareAndSet resource entry expectedVersion =>
      match backend.compareAndSet resource entry expectedVersion with
      | (.ok true, after) => after.storedVersion resource entry
      | _ => none
  | _ => none

/-- The versions that a sequence of calls issues. -/
def issuedVersions (backend : InMemoryCacheBackend F) : List (Operation F) → List Version
  | [] => []
  | operation :: rest =>
      (backend.issuedVersion operation).toList ++ (backend.apply operation).issuedVersions rest

/-- Whether a call is a successful compare-and-set that expects the version. -/
def replaces (backend : InMemoryCacheBackend F) (version : Int) : Operation F → Bool
  | .compareAndSet resource entry expectedVersion =>
      match (backend.compareAndSet resource entry expectedVersion).1 with
      | .ok true => expectedVersion.asInt? = some version
      | _ => false
  | _ => false

/-- How many compare-and-sets that expect the version succeed. -/
def replacements (version : Int) (backend : InMemoryCacheBackend F) : List (Operation F) → Nat
  | [] => 0
  | operation :: rest =>
      (if backend.replaces version operation then 1 else 0) +
        replacements version (backend.apply operation) rest

/-- Every stored entry carries a number that the counter has reached, and no two entries carry
the same one. -/
structure Numbered (backend : InMemoryCacheBackend F) : Prop where
  issued : ∀ key entry, backend.entries.get? key = some entry →
    ∃ number : Nat, entry.version = .number number ∧ 0 < number ∧ number ≤ backend.revision
  unique : ∀ key other entry otherEntry, backend.entries.get? key = some entry →
    backend.entries.get? other = some otherEntry → entry.version = otherEntry.version → key = other

/-- The counter has reached the number and no entry carries it any more. -/
structure Retired (number : Int) (backend : InMemoryCacheBackend F) : Prop where
  reached : number ≤ backend.revision
  absent : ∀ key entry, backend.entries.get? key = some entry → entry.version ≠ .number number

omit [FloatText F] in
theorem get?_store {backend : InMemoryCacheBackend F} {key other : Str × Str}
    {entry : CacheEntry F} {found : VersionedCacheEntry F}
    (stored : (backend.bumped.store key entry).entries.get? other = some found) :
    key = other ∧ found.version = .number (backend.revision + 1) ∨
      key ≠ other ∧ backend.entries.get? other = some found := by
  rw [store, Dict.get?_set] at stored
  split at stored
  next same =>
    cases stored
    exact .inl ⟨same, by simp [bumped]⟩
  next differs => exact .inr ⟨differs, stored⟩

omit [FloatText F] in
theorem numbered_empty : Numbered ({} : InMemoryCacheBackend F) where
  issued := fun _ _ found => nomatch found
  unique := fun _ _ _ _ found => nomatch found

omit [FloatText F] in
theorem Effect.revision_le {backend after : InMemoryCacheBackend F} (effect : Effect backend after) :
    backend.revision ≤ after.revision := by
  cases effect with
  | removes revision subset => exact revision.ge
  | consumes revision entries => omega
  | stores key entry stored =>
      subst stored
      exact Nat.le_succ _

omit [FloatText F] in
theorem Effect.numbered {backend after : InMemoryCacheBackend F} (effect : Effect backend after)
    (numbered : backend.Numbered) : after.Numbered := by
  cases effect with
  | removes revision subset =>
      constructor
      · intro key entry found
        rw [revision]
        exact numbered.issued key entry (subset key entry found)
      · intro key other entry otherEntry found otherFound
        exact numbered.unique key other entry otherEntry (subset _ _ found) (subset _ _ otherFound)
  | consumes revision entries =>
      constructor
      · intro key entry found
        rw [entries] at found
        obtain ⟨number, version, positive, reached⟩ := numbered.issued key entry found
        exact ⟨number, version, positive, by omega⟩
      · rw [entries]
        exact numbered.unique
  | stores key entry stored =>
      subst stored
      -- The new entry carries the next number; the others carry earlier ones.
      have earlier : ∀ other found, backend.entries.get? other = some found →
          found.version ≠ .number (backend.revision + 1) := by
        intro other found present same
        obtain ⟨number, version, -, reached⟩ := numbered.issued other found present
        rw [version, Version.number.injEq] at same
        omega
      constructor
      · intro other found present
        rcases get?_store present with ⟨-, version⟩ | ⟨-, before⟩
        · exact ⟨backend.revision + 1, by simpa using version, by omega, le_refl _⟩
        · obtain ⟨number, version, positive, reached⟩ := numbered.issued other found before
          exact ⟨number, version, positive, reached.trans (Nat.le_succ _)⟩
      · intro one other entry otherEntry present otherPresent same
        rcases get?_store present with ⟨rfl, version⟩ | ⟨-, before⟩
        · rcases get?_store otherPresent with ⟨rfl, -⟩ | ⟨-, otherBefore⟩
          · rfl
          · exact absurd (same.symm.trans version) (earlier _ _ otherBefore)
        · rcases get?_store otherPresent with ⟨rfl, otherVersion⟩ | ⟨-, otherBefore⟩
          · exact absurd (same.trans otherVersion) (earlier _ _ before)
          · exact numbered.unique _ _ _ _ before otherBefore same

omit [FloatText F] in
theorem Effect.retired {backend after : InMemoryCacheBackend F} {number : Int}
    (effect : Effect backend after) (retired : Retired number backend) : Retired number after := by
  have reached := retired.reached
  have forward := effect.revision_le
  refine ⟨by omega, ?_⟩
  cases effect with
  | removes revision subset =>
      exact fun key entry found => retired.absent key entry (subset key entry found)
  | consumes revision entries =>
      rw [entries]
      exact retired.absent
  | stores key entry stored =>
      subst stored
      intro other found present
      rcases get?_store present with ⟨-, version⟩ | ⟨-, before⟩
      · rw [version, ne_eq, Version.number.injEq]
        omega
      · exact retired.absent other found before

/-- A call issues the next number. -/
theorem issuedVersion_eq_some {backend : InMemoryCacheBackend F} {operation : Operation F}
    {version : Version} (issued : backend.issuedVersion operation = some version) :
    version = .number (backend.revision + 1) ∧
      (backend.apply operation).revision = backend.revision + 1 := by
  have stored : ∀ (resource : Str) (entry : CacheEntry F) (key : Str × Str),
      storageKey resource entry.key.toPy = .ok key →
      (backend.bumped.store key entry).storedVersion resource entry =
        some (.number (backend.revision + 1)) := by
    intro resource entry key keyEq
    simp [storedVersion, keyEq, store, bumped]
  cases operation with
  | put resource entry =>
      simp only [issuedVersion, apply, put] at issued ⊢
      split at issued
      next returned after equal =>
        split at equal
        next => cases equal
        next =>
          split at equal
          next => cases equal
          next =>
            cases equal
            cases issued
            exact ⟨by simp [bumped], rfl⟩
      next => cases issued
  | putIfAbsent resource entry =>
      simp only [issuedVersion, apply] at issued ⊢
      split at issued
      next after equal =>
        obtain ⟨key, keyEq, storedEq⟩ := putIfAbsent_snd (congrArg Prod.fst equal)
        rw [equal] at storedEq ⊢
        subst storedEq
        rw [stored resource entry key keyEq] at issued
        exact ⟨(Option.some.inj issued).symm, rfl⟩
      next => cases issued
  | compareAndSet resource entry expectedVersion =>
      simp only [issuedVersion, apply] at issued ⊢
      split at issued
      next after equal =>
        obtain ⟨key, current, keyEq, -, -, storedEq⟩ := compareAndSet_snd (congrArg Prod.fst equal)
        rw [equal] at storedEq ⊢
        subst storedEq
        rw [stored resource entry key keyEq] at issued
        exact ⟨(Option.some.inj issued).symm, rfl⟩
      next => cases issued
  | setAvailable available => cases issued
  | delete resource key => cases issued
  | invalidate resource selector => cases issued

/-- Later calls issue later numbers. -/
theorem lt_of_mem_issuedVersions {backend : InMemoryCacheBackend F} {operations : List (Operation F)}
    {version : Version} (member : version ∈ backend.issuedVersions operations) :
    ∃ number : Nat, version = .number number ∧ backend.revision < number := by
  induction operations generalizing backend with
  | nil => cases member
  | cons operation rest inductionHypothesis =>
      rw [issuedVersions, List.mem_append, Option.mem_toList] at member
      rcases member with now | later
      · exact ⟨backend.revision + 1, by simpa using (issuedVersion_eq_some now).1, Nat.lt_succ_self _⟩
      · obtain ⟨number, equal, reached⟩ := inductionHypothesis later
        exact ⟨number, equal, (effect_apply backend operation).revision_le.trans_lt reached⟩

/-- No version is issued twice. -/
theorem nodup_issuedVersions (backend : InMemoryCacheBackend F) (operations : List (Operation F)) :
    (backend.issuedVersions operations).Nodup := by
  induction operations generalizing backend with
  | nil => exact List.nodup_nil
  | cons operation rest inductionHypothesis =>
      rw [issuedVersions]
      cases issued : backend.issuedVersion operation with
      | none => exact inductionHypothesis _
      | some version =>
          obtain ⟨equal, revision⟩ := issuedVersion_eq_some issued
          refine List.nodup_cons.mpr ⟨?_, inductionHypothesis _⟩
          intro again
          obtain ⟨number, same, later⟩ := lt_of_mem_issuedVersions again
          rw [equal, Version.number.injEq] at same
          omega

omit [FloatText F] in
/-- An expected version that equals a number is that number, or the boolean that equals it. -/
theorem number_eq_of_equals {current : VersionedCacheEntry F} {expectedVersion : Version}
    {number : Nat} {version : Int} (carries : current.version = .number number)
    (equal : current.version.equals expectedVersion = true)
    (expected : expectedVersion.asInt? = some version) : (number : Int) = version := by
  rw [carries] at equal
  cases expectedVersion with
  | text value => cases expected
  | number value =>
      cases expected
      simpa [Version.equals, Version.asInt?] using equal
  | flag value =>
      rw [← Option.some.injEq, ← expected]
      simpa [Version.equals, Version.asInt?] using equal

/-- A successful compare-and-set finds the number and retires it. -/
theorem retired_of_replaces {backend : InMemoryCacheBackend F} {version : Int}
    {operation : Operation F} (numbered : backend.Numbered)
    (replaced : backend.replaces version operation = true) :
    ¬ Retired version backend ∧ Retired version (backend.apply operation) := by
  cases operation with
  | compareAndSet resource entry expectedVersion =>
      simp only [replaces] at replaced
      split at replaced
      next success =>
        obtain ⟨key, current, keyEq, found, equal, storedEq⟩ := compareAndSet_snd success
        obtain ⟨number, carries, -, reached⟩ := numbered.issued key current found
        have expected : (number : Int) = version :=
          number_eq_of_equals carries equal (of_decide_eq_true replaced)
        subst expected
        refine ⟨fun retired => retired.absent key current found carries, ?_⟩
        rw [apply, storedEq]
        refine ⟨Int.ofNat_le.mpr (reached.trans (Nat.le_succ _)), ?_⟩
        intro other entry present same
        rcases get?_store present with ⟨-, version⟩ | ⟨differs, before⟩
        · rw [version, Version.number.injEq] at same
          omega
        · exact differs (numbered.unique key other current entry found before
            (carries.trans same.symm))
      next => cases replaced
  | _ => cases replaced

/-- No compare-and-set finds a retired number. -/
theorem replacements_of_retired {version : Int} {backend : InMemoryCacheBackend F}
    {operations : List (Operation F)} (numbered : backend.Numbered)
    (retired : Retired version backend) : replacements version backend operations = 0 := by
  induction operations generalizing backend with
  | nil => rfl
  | cons operation rest inductionHypothesis =>
      have effect := effect_apply backend operation
      have kept : backend.replaces version operation ≠ true := fun replaced =>
        (retired_of_replaces numbered replaced).1 retired
      rw [replacements, if_neg kept,
        inductionHypothesis (effect.numbered numbered) (effect.retired retired)]

/-- At most one compare-and-set that expects a number succeeds. -/
theorem replacements_le_one (version : Int) {backend : InMemoryCacheBackend F}
    (numbered : backend.Numbered) (operations : List (Operation F)) :
    replacements version backend operations ≤ 1 := by
  induction operations generalizing backend with
  | nil => exact Nat.zero_le 1
  | cons operation rest inductionHypothesis =>
      have afterNumbered := (effect_apply backend operation).numbered numbered
      rw [replacements]
      split
      next replaced =>
        rw [replacements_of_retired afterNumbered (retired_of_replaces numbered replaced).2]
      next =>
        rw [Nat.zero_add]
        exact inductionHypothesis afterNumbered

theorem numbered_foldl {backend : InMemoryCacheBackend F} (numbered : backend.Numbered)
    (operations : List (Operation F)) : (operations.foldl apply backend).Numbered := by
  induction operations generalizing backend with
  | nil => exact numbered
  | cons operation rest inductionHypothesis =>
      exact inductionHypothesis ((effect_apply backend operation).numbered numbered)

/-- Compare-and-set never loses an update: after any calls every stored entry carries a positive
number that the counter has reached, no number is issued twice, at most one compare-and-set that
expects a given number succeeds, a conditional write succeeds exactly when its condition holds of
the current entry, and a call that is refused or finds the backend unavailable changes nothing. -/
theorem compareAndSet_keeps_updates (operations : List (Operation F)) :
    (∀ key entry, (run operations).entries.get? key = some entry → ∃ number : Nat,
      entry.version = .number number ∧ 0 < number ∧ number ≤ (run operations).revision) ∧
    (issuedVersions {} operations).Nodup ∧
    (∀ version : Int, replacements version {} operations ≤ 1) ∧
    (∀ (resource : Str) (entry : CacheEntry F) (expectedVersion : Version),
      ((run operations).compareAndSet resource entry expectedVersion).1 = .ok true ↔
        (run operations).available = true ∧ ∃ key current,
          storageKey resource entry.key.toPy = .ok key ∧
          (run operations).entries.get? key = some current ∧
          current.version.equals expectedVersion = true) ∧
    (∀ (resource : Str) (entry : CacheEntry F),
      ((run operations).putIfAbsent resource entry).1 = .ok true ↔
        (run operations).available = true ∧ ∃ key, storageKey resource entry.key.toPy = .ok key ∧
          (run operations).entries.get? key = none) ∧
    ∀ operation, (run operations).Unavailable operation ∨ (run operations).Refused operation →
      (run operations).apply operation = run operations := by
  refine ⟨?_, nodup_issuedVersions _ _, fun version => replacements_le_one version numbered_empty _,
    fun _ _ _ => compareAndSet_eq_ok_true_iff, fun _ _ => putIfAbsent_eq_ok_true_iff, ?_⟩
  · exact (numbered_foldl numbered_empty operations).issued
  · rintro operation (unavailable | refused)
    · exact apply_of_unavailable unavailable
    · exact apply_of_refused refused

end DataLifecycle.Cache.InMemoryCacheBackend
