import DataLifecycle.Outbox.Lease
import DataLifecycle.Outbox.Work
import DataLifecycle.Python.Rounding
import Mathlib.Data.Rat.Floor

/-!
# The lag of a projection

`lag` reports how many records are incomplete, and for how long the oldest of them has been
waiting.  Over any run the report changes in step with the appends and the completions of
the run: a claim, a release, a quarantine or an operator's retry neither hides a record nor
makes it look younger.
-/

namespace DataLifecycle.Outbox

open Python

/-! ## Seconds -/

/-- `timedelta.total_seconds()`: the nearest double, ties to even. -/
def totalSeconds (duration : Int) : ℚ :=
  if duration < 0 then -nearestBinary 52 (-(duration : ℚ) / 1000000)
  else nearestBinary 52 ((duration : ℚ) / 1000000)

/-- `max(0.0, (current - occurred_at).total_seconds())`. -/
def ageSeconds (occurredAt current : Utc) : ℚ :=
  max 0 (totalSeconds (current.val - occurredAt.val))

theorem totalSeconds_of_nonpos {duration : Int} (nonpos : duration ≤ 0) :
    totalSeconds duration ≤ 0 := by
  rcases nonpos.lt_or_eq with negative | rfl
  · have positive : (0 : ℚ) < -duration / 1000000 := by
      have cast : (duration : ℚ) < 0 := Int.cast_lt_zero.mpr negative
      linarith
    rw [totalSeconds, if_pos negative, neg_nonpos]
    exact (nearestBinary_pos 52 positive).le
  · simp [totalSeconds, nearestBinary, nearestMultiple, nearestInt]

/-- Later than zero, seconds are rounded monotonically. -/
theorem totalSeconds_mono {first second : Int} (positive : 0 < first) (le : first ≤ second) :
    totalSeconds first ≤ totalSeconds second := by
  rw [totalSeconds, totalSeconds, if_neg positive.not_gt, if_neg (positive.trans_le le).not_gt]
  apply nearestBinary_mono
  · positivity
  · exact div_le_div_of_nonneg_right (Int.cast_le.mpr le) (by norm_num)

theorem ageSeconds_nonneg (occurredAt current : Utc) : 0 ≤ ageSeconds occurredAt current :=
  le_max_left _ _

/-- What occurred earlier is at least as old at any later time. -/
theorem ageSeconds_mono {first second current later : Utc} (earlier : first ≤ second)
    (forward : current ≤ later) : ageSeconds second current ≤ ageSeconds first later := by
  rw [Fin.le_def] at earlier forward
  apply max_le (ageSeconds_nonneg _ _)
  rcases le_or_gt ((current.val : Int) - second.val) 0 with nonpos | positive
  · exact (totalSeconds_of_nonpos nonpos).trans (ageSeconds_nonneg _ _)
  · exact (totalSeconds_mono positive (by omega)).trans (le_max_right _ _)

/-! ## The report -/

/-- `ProjectionLag`. -/
structure ProjectionLag where
  incompleteCount : Nat
  oldestIncompleteAt : Option Utc
  lagSeconds : ℚ
  targetSeconds : ℚ
  lag_nonneg : 0 ≤ lagSeconds
  target_pos : 0 < targetSeconds

namespace ProjectionLag

/-- The constructor. -/
def make (incompleteCount : Nat) (oldestIncompleteAt : Option Utc)
    (lagSeconds targetSeconds : ℚ) : Except Exc ProjectionLag :=
  if valid : 0 ≤ lagSeconds ∧ 0 < targetSeconds then
    .ok ⟨incompleteCount, oldestIncompleteAt, lagSeconds, targetSeconds, valid.1, valid.2⟩
  else .error (.valueError "projection lag counts and durations are invalid")

/-- `within_target`. -/
def withinTarget (lag : ProjectionLag) : Bool := lag.lagSeconds ≤ lag.targetSeconds

theorem make_eq_ok {incompleteCount : Nat} {oldestIncompleteAt : Option Utc}
    {lagSeconds targetSeconds : ℚ} {lag : ProjectionLag}
    (made : make incompleteCount oldestIncompleteAt lagSeconds targetSeconds = .ok lag) :
    lag.incompleteCount = incompleteCount ∧ lag.oldestIncompleteAt = oldestIncompleteAt ∧
      lag.lagSeconds = lagSeconds ∧ lag.targetSeconds = targetSeconds := by
  unfold make at made
  split at made
  · cases made
    exact ⟨rfl, rfl, rfl, rfl⟩
  · contradiction

/-- `ProjectionRunner.lag`: what the outbox observed, with the target of the projection. -/
def forProjection (eventualVisibilitySeconds : ℚ) (observed : Except Exc ProjectionLag) :
    Except Exc ProjectionLag := do
  let observed ← observed
  make observed.incompleteCount observed.oldestIncompleteAt observed.lagSeconds
    eventualVisibilitySeconds

end ProjectionLag

variable {F : Type} [FloatText F]

namespace InMemoryOutboxStore

variable {store : InMemoryOutboxStore F}

/-- The times of the records that are not completed. -/
def incompleteTimes (store : InMemoryOutboxStore F) : List Utc :=
  (store.records.values.filter fun record => record.state ≠ .completed).map (·.data.occurredAt)

/-- The age of the oldest of some times. -/
def lagOf (oldest : Option Utc) (current : Utc) : ℚ :=
  match oldest with
  | none => 0
  | some oldest => ageSeconds oldest current

/-- `lag`; the target is the one of the constructor. -/
def lag (store : InMemoryOutboxStore F) (visibilityTargetSeconds : ℚ) (now : Option DateTime)
    (utcNow : Utc) : Except Exc ProjectionLag := do
  let current ← currentTime now utcNow
  let oldest := store.incompleteTimes.min?
  ProjectionLag.make store.incompleteTimes.length oldest (lagOf oldest current)
    visibilityTargetSeconds

theorem lagOf_nonneg (oldest : Option Utc) (current : Utc) : 0 ≤ lagOf oldest current := by
  cases oldest with
  | none => exact le_rfl
  | some oldest => exact ageSeconds_nonneg oldest current

/-- The lag can be observed at any time. -/
theorem exists_lag (store : InMemoryOutboxStore F) {visibilityTargetSeconds : ℚ}
    (positive : 0 < visibilityTargetSeconds) {now : Option DateTime} {utcNow current : Utc}
    (time : currentTime now utcNow = .ok current) :
    ∃ lag, store.lag visibilityTargetSeconds now utcNow = .ok lag := by
  rw [lag, time]
  exact ⟨_, dif_pos ⟨lagOf_nonneg _ _, positive⟩⟩

/-- The runner reports what the outbox would report for the target of the projection. -/
theorem forProjection_lag {visibilityTargetSeconds : ℚ} (positive : 0 < visibilityTargetSeconds)
    (eventualVisibilitySeconds : ℚ) (now : Option DateTime) (utcNow : Utc) :
    ProjectionLag.forProjection eventualVisibilitySeconds
        (store.lag visibilityTargetSeconds now utcNow) =
      store.lag eventualVisibilitySeconds now utcNow := by
  unfold lag
  cases currentTime now utcNow with
  | error error => rfl
  | ok current =>
      change ProjectionLag.forProjection _ (ProjectionLag.make _ _ _ _) = ProjectionLag.make _ _ _ _
      rw [ProjectionLag.make, dif_pos ⟨lagOf_nonneg _ _, positive⟩]
      rfl

/-! ## Incomplete records -/

theorem mem_incompleteTimes {occurredAt : Utc} : occurredAt ∈ store.incompleteTimes ↔
    ∃ key record, store.records.get? key = some record ∧ record.state ≠ .completed ∧
      record.data.occurredAt = occurredAt := by
  simp only [incompleteTimes, Dict.values, List.mem_map, List.mem_filter, decide_eq_true_eq,
    Dict.get?_eq_some_iff]
  constructor
  · rintro ⟨record, ⟨⟨⟨key, value⟩, member, rfl⟩, incomplete⟩, time⟩
    exact ⟨key, value, member, incomplete, time⟩
  · rintro ⟨key, record, member, incomplete, time⟩
    exact ⟨record, ⟨⟨(key, record), member, rfl⟩, incomplete⟩, time⟩

/-- A record is incomplete or completed. -/
theorem length_incompleteTimes (store : InMemoryOutboxStore F) :
    store.incompleteTimes.length + store.completedEvents.card = store.records.keySet.card := by
  let isIncomplete : Str × MutableRecord F → Bool := fun item => item.2.state ≠ .completed
  have distinct : ((store.records.items.filter isIncomplete).map Prod.fst).Nodup :=
    store.records.nodup.sublist (List.filter_sublist.map _)
  have events : ((store.records.items.filter isIncomplete).map Prod.fst).toFinset =
      store.records.keySet \ store.completedEvents := by
    ext key
    simp only [List.mem_toFinset, List.mem_map, List.mem_filter, Finset.mem_sdiff,
      Dict.mem_keySet, mem_completedEvents]
    constructor
    · rintro ⟨⟨key, record⟩, ⟨member, incomplete⟩, rfl⟩
      have stored := (Dict.get?_eq_some_iff store.records).mpr member
      refine ⟨⟨record, stored⟩, ?_⟩
      rintro ⟨other, otherStored, completed⟩
      rw [stored] at otherStored
      cases otherStored
      exact of_decide_eq_true incomplete completed
    · rintro ⟨⟨record, stored⟩, incomplete⟩
      refine ⟨(key, record), ⟨(Dict.get?_eq_some_iff store.records).mp stored, ?_⟩, rfl⟩
      exact decide_eq_true fun completed => incomplete ⟨record, stored, completed⟩
  have subset : store.completedEvents ⊆ store.records.keySet := Finset.filter_subset _ _
  have count : store.incompleteTimes.length =
      ((store.records.items.filter isIncomplete).map Prod.fst).length := by
    rw [incompleteTimes, Dict.values, List.filter_map, List.length_map, List.length_map,
      List.length_map]
    rfl
  rw [count, ← List.toFinset_card_of_nodup distinct, events, Finset.card_sdiff_of_subset subset]
  exact Nat.sub_add_cancel (Finset.card_le_card subset)

/-- The lag is the age of the record that has waited longest. -/
theorem lagOf_le_iff {current : Utc} {bound : ℚ} (nonneg : 0 ≤ bound) :
    lagOf store.incompleteTimes.min? current ≤ bound ↔
      ∀ key record, store.records.get? key = some record → record.state ≠ .completed →
        ageSeconds record.data.occurredAt current ≤ bound := by
  cases least : store.incompleteTimes.min? with
  | none =>
      have empty := List.min?_eq_none_iff.mp least
      refine iff_of_true nonneg fun key record stored incomplete => ?_
      have member := mem_incompleteTimes.mpr ⟨key, record, stored, incomplete, rfl⟩
      rw [empty] at member
      cases member
  | some oldest =>
      obtain ⟨member, earliest⟩ := List.min?_eq_some_iff.mp least
      constructor
      · intro within key record stored incomplete
        have later := earliest _ (mem_incompleteTimes.mpr ⟨key, record, stored, incomplete, rfl⟩)
        exact (ageSeconds_mono later le_rfl).trans within
      · intro all
        obtain ⟨key, record, stored, incomplete, rfl⟩ := mem_incompleteTimes.mp member
        exact all key record stored incomplete

/-! ## One call -/

/-- A successful `complete`. -/
def Event.isCompletion : Event F → Bool
  | (.complete _ _ _ _ _ _, .ok _) => true
  | _ => false

/-- Exactly the event of a successful completion becomes completed. -/
theorem mem_completedEvents_step (sound : store.Sound) (call : Call F) (key : Str) :
    key ∈ (store.step call).2.completedEvents ↔
      key ∈ store.completedEvents ∨ Event.completes key (call, (store.step call).1) := by
  have moved := step_record sound call key
  rw [mem_completedEvents, mem_completedEvents]
  generalize store.records.get? key = before at moved ⊢
  generalize (store.step call).2.records.get? key = after at moved ⊢
  constructor
  · rintro ⟨record, rfl, completed⟩
    rcases moved.origin rfl with ⟨data, -, -, -, rfl⟩ | ⟨previous, rfl, -⟩
    · cases completed
    · by_cases earlier : previous.state = .completed
      · exact .inl ⟨previous, rfl, earlier⟩
      · exact .inr (moved.completes_of earlier completed)
  · rintro (⟨record, rfl, completed⟩ | completes)
    · exact ⟨record, moved.of_completed rfl completed, completed⟩
    · generalize (call, (store.step call).1) = event at moved completes
      cases moved with
      | frame _ _ notCompleted => exact absurd completes notCompleted
      | complete _ _ fingerprint _ _ current record => exact ⟨_, rfl, rfl⟩
      | _ => cases completes

theorem notMem_of_completes (sound : store.Sound) {call : Call F} {key : Str}
    (completes : Event.completes key (call, (store.step call).1)) :
    key ∉ store.completedEvents := by
  have moved := step_record sound call key
  rw [mem_completedEvents]
  generalize store.records.get? key = before at moved ⊢
  generalize (store.step call).2.records.get? key = after at moved
  generalize (call, (store.step call).1) = event at moved completes
  rintro ⟨record, rfl, completed⟩
  cases moved with
  | frame _ _ notCompleted => exact notCompleted completes
  | complete _ _ _ _ _ _ _ _ _ _ held =>
      rw [held.leased] at completed
      cases completed
  | _ => cases completes

/-- Every successful completion completes one more event. -/
theorem card_completedEvents_step (sound : store.Sound) (call : Call F) :
    (store.step call).2.completedEvents.card = store.completedEvents.card +
      if Event.isCompletion (call, (store.step call).1) then 1 else 0 := by
  by_cases completion : Event.isCompletion (call, (store.step call).1) = true
  · obtain ⟨key, completes, only⟩ : ∃ key, Event.completes key (call, (store.step call).1) ∧
        ∀ other, Event.completes other (call, (store.step call).1) → other = key := by
      generalize (store.step call).1 = result at completion ⊢
      cases call with
      | complete key =>
          cases result with
          | ok reply => exact ⟨key, rfl, fun other equal => equal.symm⟩
          | error error => cases completion
      | _ => cases completion
    have events : (store.step call).2.completedEvents = insert key store.completedEvents := by
      ext other
      rw [mem_completedEvents_step sound, Finset.mem_insert, or_comm]
      refine or_congr_left ⟨only other, ?_⟩
      rintro rfl
      exact completes
    rw [events, Finset.card_insert_of_notMem (notMem_of_completes sound completes),
      if_pos completion]
  · have events : (store.step call).2.completedEvents = store.completedEvents := by
      ext other
      rw [mem_completedEvents_step sound, or_iff_left]
      intro completes
      apply completion
      generalize (store.step call).1 = result at completes ⊢
      cases call with
      | complete key =>
          cases result with
          | ok reply => rfl
          | error error => cases completes
      | _ => cases completes
    rw [events, if_neg completion, Nat.add_zero]

/-! ## Runs -/

theorem card_completedEvents_run (sound : store.Sound) (calls : List (Call F)) :
    (store.run calls).1.completedEvents.card = store.completedEvents.card +
      (store.run calls).2.countP Event.isCompletion := by
  induction calls generalizing store with
  | nil => rfl
  | cons call rest inductionHypothesis =>
      rw [run_cons, inductionHypothesis (sound.step call), card_completedEvents_step sound,
        List.countP_cons, Nat.add_assoc, Nat.add_comm (List.countP _ _)]

/-- No call removes a record or changes its data. -/
theorem exists_get?_run (sound : store.Sound) (calls : List (Call F)) {key : Str}
    {record : MutableRecord F} (stored : store.records.get? key = some record) :
    ∃ later, (store.run calls).1.records.get? key = some later ∧ later.data = record.data := by
  let kept : InMemoryOutboxStore F → Prop := fun store => store.Sound ∧
    ∃ later, store.records.get? key = some later ∧ later.data = record.data
  have preserved : ∀ (store : InMemoryOutboxStore F) (call : Call F), kept store →
      kept (store.step call).2 := by
    rintro store call ⟨sound, later, storedLater, same⟩
    refine ⟨sound.step call, ?_⟩
    have moved := step_record sound call key
    rw [storedLater] at moved
    generalize (call, (store.step call).1) = event at moved
    generalize beforeEq : some later = before at moved
    generalize (store.step call).2.records.get? key = after at moved ⊢
    cases moved with
    | append => cases beforeEq
    | _ =>
        cases beforeEq
        exact ⟨_, rfl, same⟩
  exact (run_induction preserved calls store ⟨sound, record, stored, rfl⟩).2

theorem keySet_subset_run (sound : store.Sound) (calls : List (Call F)) :
    store.records.keySet ⊆ (store.run calls).1.records.keySet := by
  intro key member
  obtain ⟨record, stored⟩ := Dict.mem_keySet.mp member
  obtain ⟨later, storedLater, -⟩ := exists_get?_run sound calls stored
  exact Dict.mem_keySet.mpr ⟨later, storedLater⟩

/-- A successful `append` of the event. -/
def Event.appends (eventId : Str) (event : Event F) : Prop :=
  ∃ data, event = (.append data, .ok .none) ∧ data.eventId = eventId

/-- An absent event stays absent until a successful append. -/
theorem get?_run_eq_none (sound : store.Sound) (calls : List (Call F)) {key : Str}
    (absent : store.records.get? key = none) : (store.run calls).1.records.get? key = none ∨
      ∃ event ∈ (store.run calls).2, Event.appends key event := by
  have preserved : ∀ (store : InMemoryOutboxStore F) (call : Call F), store.Sound →
      store.records.get? key = none → ¬ Event.appends key (call, (store.step call).1) →
      (store.step call).2.records.get? key = none := by
    intro store call sound absent notAppended
    have moved := step_record sound call key
    rw [absent] at moved
    generalize (call, (store.step call).1) = event at moved notAppended
    generalize beforeEq : none = before at moved
    generalize (store.step call).2.records.get? key = after at moved ⊢
    cases moved with
    | frame => rfl
    | append data keyEq => exact absurd ⟨data, rfl, keyEq⟩ notAppended
    | _ => cases beforeEq
  exact run_survives preserved calls sound absent

/-- An incomplete event stays incomplete until its successful completion. -/
theorem notMem_completedEvents_run (sound : store.Sound) (calls : List (Call F)) {key : Str}
    (incomplete : key ∉ store.completedEvents) : key ∉ (store.run calls).1.completedEvents ∨
      ∃ event ∈ (store.run calls).2, Event.completes key event := by
  have preserved : ∀ (store : InMemoryOutboxStore F) (call : Call F), store.Sound →
      key ∉ store.completedEvents → ¬ Event.completes key (call, (store.step call).1) →
      key ∉ (store.step call).2.completedEvents := by
    intro store call sound incomplete notCompleted member
    rcases (mem_completedEvents_step sound call key).mp member with earlier | completes
    · exact incomplete earlier
    · exact notCompleted completes
  exact run_survives preserved calls sound incomplete

/-! ## Two observations -/

/-- The events that a run has appended. -/
def appended (before after : InMemoryOutboxStore F) : Finset Str :=
  after.records.keySet \ before.records.keySet

/-- What a run with the given history between two observations of the lag explains. -/
structure LagAccounts (before after : InMemoryOutboxStore F) (history : List (Event F))
    (current : Utc) (first last : ProjectionLag) : Prop where
  -- every event is counted until its completion
  conserved : last.incompleteCount + history.countP Event.isCompletion =
    first.incompleteCount + (appended before after).card
  -- and enters by a successful append
  entered : ∀ key ∈ appended before after, ∃ event ∈ history, Event.appends key event
  -- the lag falls below the age of a record only by its completion
  falls : ∀ key record, before.records.get? key = some record → record.state ≠ .completed →
    last.lagSeconds < ageSeconds record.data.occurredAt current →
      ∃ event ∈ history, Event.completes key event

/-- What one observation of the lag says. -/
structure Observes (store : InMemoryOutboxStore F) (current : Utc) (lag : ProjectionLag) :
    Prop where
  count : lag.incompleteCount + store.completedEvents.card = store.records.keySet.card
  lagSeconds_le_iff : ∀ {bound : ℚ}, 0 ≤ bound → (lag.lagSeconds ≤ bound ↔
    ∀ key record, store.records.get? key = some record → record.state ≠ .completed →
      ageSeconds record.data.occurredAt current ≤ bound)

theorem observes_of_lag {target : ℚ} {now : Option DateTime} {utcNow current : Utc}
    {lag : ProjectionLag} (time : currentTime now utcNow = .ok current)
    (observed : store.lag target now utcNow = .ok lag) : Observes store current lag := by
  rw [InMemoryOutboxStore.lag, time] at observed
  obtain ⟨count, -, seconds, -⟩ := ProjectionLag.make_eq_ok observed
  constructor
  · rw [count, length_incompleteTimes]
  · intro bound nonneg
    rw [seconds, lagOf_le_iff nonneg]

/-- The lag before and after any run.  The number of incomplete records changes by the events
that the run has appended and by its successful completions, and nothing else.  The lag in
seconds, observed no earlier than before, is below the age of a record that was incomplete
only if the run has completed that record.  The target is met exactly when no incomplete
record is older than it. -/
theorem lag_over_run (store : InMemoryOutboxStore F) (reachable : store.Reachable)
    (calls : List (Call F)) (target : ℚ) {now later : Option DateTime}
    {utcNow utcLater current moment : Utc} {first last : ProjectionLag}
    (firstTime : currentTime now utcNow = .ok current)
    (lastTime : currentTime later utcLater = .ok moment) (forward : current ≤ moment)
    (firstLag : store.lag target now utcNow = .ok first)
    (lastLag : (store.run calls).1.lag target later utcLater = .ok last) :
    LagAccounts store (store.run calls).1 (store.run calls).2 current first last ∧
      (last.withinTarget = true ↔ ∀ key record,
        (store.run calls).1.records.get? key = some record → record.state ≠ .completed →
          ageSeconds record.data.occurredAt moment ≤ target) := by
  have sound := reachable.sound
  have before := observes_of_lag firstTime firstLag
  have after := observes_of_lag lastTime lastLag
  refine ⟨⟨?conserved, ?entered, ?falls⟩, ?within⟩
  case conserved =>
    have completed := card_completedEvents_run sound calls
    have grown := Finset.card_sdiff_add_card_eq_card (keySet_subset_run sound calls)
    have countBefore := before.count
    have countAfter := after.count
    rw [appended]
    omega
  case entered =>
    intro key member
    obtain ⟨present, absent⟩ := Finset.mem_sdiff.mp member
    obtain ⟨record, stored⟩ := Dict.mem_keySet.mp present
    have none : store.records.get? key = none :=
      Option.eq_none_iff_forall_ne_some.mpr fun record stored =>
        absent (Dict.mem_keySet.mpr ⟨record, stored⟩)
    rcases get?_run_eq_none sound calls none with stillAbsent | appends
    · rw [stored] at stillAbsent
      cases stillAbsent
    · exact appends
  case falls =>
    intro key record stored incomplete younger
    have notCompleted : key ∉ store.completedEvents := by
      rw [mem_completedEvents]
      rintro ⟨other, otherStored, completed⟩
      rw [stored] at otherStored
      cases otherStored
      exact incomplete completed
    rcases notMem_completedEvents_run sound calls notCompleted with still | completes
    · obtain ⟨record', storedLater, same⟩ := exists_get?_run sound calls stored
      have waiting : record'.state ≠ .completed := fun completed =>
        still (mem_completedEvents.mpr ⟨record', storedLater, completed⟩)
      have bounded := (after.lagSeconds_le_iff last.lag_nonneg).mp le_rfl key record' storedLater
        waiting
      rw [same] at bounded
      have older := ageSeconds_mono (le_refl record.data.occurredAt) forward
      exact absurd younger (not_lt.mpr (older.trans bounded))
    · exact completes
  case within =>
    have targetEq : last.targetSeconds = target := by
      rw [InMemoryOutboxStore.lag, lastTime] at lastLag
      exact (ProjectionLag.make_eq_ok lastLag).2.2.2
    have positive := last.target_pos
    rw [targetEq] at positive
    rw [ProjectionLag.withinTarget, decide_eq_true_eq, targetEq]
    exact after.lagSeconds_le_iff positive.le

theorem lag_over_run_sample :
    let calls : List (Call Empty) := [.append sampleIntent, sampleClaim "worker-1" 20]
    let store : InMemoryOutboxStore Empty := initDefault
    ∃ first last, LagAccounts store (store.run calls).1 (store.run calls).2 20
      first last := by
  intro calls store
  have positive : (0 : ℚ) < 30 := by norm_num
  obtain ⟨first, firstLag⟩ := exists_lag store positive (currentTime_ofUtc 20 0)
  obtain ⟨last, lastLag⟩ := exists_lag (store.run calls).1 positive (currentTime_ofUtc 40 0)
  obtain ⟨accounts, -⟩ := lag_over_run store ⟨5, by decide, [], rfl⟩ calls 30
    (currentTime_ofUtc 20 0) (currentTime_ofUtc 40 0) (by decide) firstLag lastLag
  exact ⟨first, last, accounts⟩

end InMemoryOutboxStore

end DataLifecycle.Outbox
