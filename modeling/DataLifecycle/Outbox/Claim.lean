import DataLifecycle.Outbox.Lease

/-!
# What a claim selects

The loop of `atomic_claim` goes over all records with a set of seen partitions.  It selects the
first claimable heads of the partitions in claim order, a head being the least incomplete record
of its partition.  A head that an earlier claim has left LEASED without a lease stops the loop.
-/

namespace DataLifecycle.Outbox

open Python

variable {F : Type} [FloatText F]

namespace MutableRecord

/-- The record is LEASED without a lease: a claim ran over the end of the calendar here. -/
def Abandoned (record : MutableRecord F) : Prop := record.state = .leased ∧ record.lease = none

instance (record : MutableRecord F) (current : Utc) : Decidable (record.Claimable current) :=
  decidable_of_iff (record.state = .pending ∨ record.state = .retryable ∨
    (record.state = .leased ∧ (record.lease.any fun lease => lease.expiresAt ≤ current) = true)) (by
      simp only [Claimable, Option.any_eq_true, decide_eq_true_eq])

instance (record : MutableRecord F) : Decidable record.Abandoned :=
  inferInstanceAs (Decidable (_ ∧ _))

theorem Abandoned.not_claimable {record : MutableRecord F} (abandoned : record.Abandoned)
    (current : Utc) : ¬ record.Claimable current := by
  intro claimable
  obtain ⟨lease, held, -⟩ := claimable.expired abandoned.1
  rw [abandoned.2] at held
  cases held

end MutableRecord

namespace InMemoryOutboxStore

/-- Whether the record is the least incomplete one of its partition. -/
def isHead (store : InMemoryOutboxStore F) (record : MutableRecord F) : Bool :=
  record.state ≠ .completed ∧ ∀ other ∈ store.records.values,
    other.data.partitionKey = record.data.partitionKey →
    other.data.sortKey < record.data.sortKey → other.state = .completed

/-- The heads of the partitions in claim order. -/
def heads (store : InMemoryOutboxStore F) : List (Str × MutableRecord F) :=
  store.ordered.filter fun item => store.isHead item.2

/-- The first claimable heads. -/
def selected (limit : Nat) (current : Utc) (heads : List (Str × MutableRecord F)) :
    List (Str × MutableRecord F) :=
  (heads.filter fun item => item.2.Claimable current).take limit

/-- A new lease of the owner. -/
structure FreshLease (owner : Str) (current expiresAt : Utc) (attempt : Nat) (lease : OutboxLease) :
    Prop where
  owner_eq : lease.owner = owner
  acquiredAt_eq : lease.acquiredAt = current
  expiresAt_eq : lease.expiresAt = expiresAt
  attempt_eq : lease.attempt = attempt

/-- The stored record and the returned view after a claim: one more attempt and a new lease. -/
structure ClaimOf (owner : Str) (current expiresAt : Utc) (record after : MutableRecord F)
    (view : OutboxRecord F) : Prop where
  granted : ∃ lease, FreshLease owner current expiresAt (record.attemptCount + 1) lease ∧
    after = record.granted (some lease)
  snapshot : after.snapshot = .ok view

/-- The claim returns the given records, leased to the owner, and changes nothing else. -/
structure Claims (owner : Str) (current expiresAt : Utc) (chosen : List (Str × MutableRecord F))
    (before after : Dict Str (MutableRecord F)) (views : List (OutboxRecord F)) : Prop where
  claimed : List.Forall₂ (fun item view => ∃ record, after.get? item.1 = some record ∧
    ClaimOf owner current expiresAt item.2 record view) chosen views
  others : ∀ key, key ∉ chosen.map Prod.fst → after.get? key = before.get? key

/-- A claim does what it is specified to do. -/
structure MeetsSpecification (store : InMemoryOutboxStore F) (owner : Str) (limit : Nat)
    (current expiresAt : Utc) (outcome : Outcome F (List (OutboxRecord F))) : Prop where
  returned : ∃ views, outcome.1 = .ok views ∧ Claims owner current expiresAt
    (selected limit current store.heads) store.records outcome.2.records views
  checkpoints : outcome.2.checkpoints = store.checkpoints
  poisonThreshold : outcome.2.poisonThreshold = store.poisonThreshold

/-- The loop comes to an abandoned head: fewer than `limit` claimable heads precede it. -/
def Obstructed (limit : Nat) (current : Utc) (heads : List (Str × MutableRecord F)) : Prop :=
  ∃ earlier item later, heads = earlier ++ item :: later ∧ item.2.Abandoned ∧
    (earlier.countP fun item => item.2.Claimable current) < limit

/-! ## The loop over the heads -/

/-- The records that the loop over all records looks at. -/
def visitedHeads : List (Str × MutableRecord F) → List Str → List (Str × MutableRecord F)
  | [], _ => []
  | item :: rest, seen =>
      if item.2.state = .completed then visitedHeads rest seen
      else if item.2.data.partitionKey ∈ seen then visitedHeads rest seen
      else item :: visitedHeads rest (item.2.data.partitionKey :: seen)

/-- The loop over the heads alone. -/
def claimHeads (owner : Str) (limit : Int) (current : Utc) (duration : Int) :
    List (Str × MutableRecord F) → List (OutboxRecord F) → Dict Str (MutableRecord F) →
      Except Exc (List (OutboxRecord F)) × Dict Str (MutableRecord F)
  | [], claimed, records => (.ok claimed, records)
  | (key, record) :: rest, claimed, records =>
      match claimHead owner current duration record with
      | .skip => claimHeads owner limit current duration rest claimed records
      | .fail error record => (.error error, records.set key record)
      | .claim leased snapshot =>
          if ((claimed ++ [snapshot]).length : Int) = limit then
            (.ok (claimed ++ [snapshot]), records.set key leased)
          else
            claimHeads owner limit current duration rest (claimed ++ [snapshot])
              (records.set key leased)

theorem claimLoop_eq_claimHeads (owner : Str) (limit : Int) (current : Utc) (duration : Int)
    (todo : List (Str × MutableRecord F)) (seen : List Str) (claimed : List (OutboxRecord F))
    (records : Dict Str (MutableRecord F)) :
    claimLoop owner limit current duration todo seen claimed records =
      claimHeads owner limit current duration (visitedHeads todo seen) claimed records := by
  induction todo generalizing seen claimed records with
  | nil => rfl
  | cons item rest inductionHypothesis =>
      obtain ⟨key, record⟩ := item
      rw [claimLoop, visitedHeads]
      split
      · exact inductionHypothesis seen claimed records
      · split
        · exact inductionHypothesis seen claimed records
        · rw [claimHeads]
          cases claimHead owner current duration record with
          | skip => exact inductionHypothesis _ _ _
          | fail error failed => rfl
          | claim leased snapshot =>
              dsimp only
              split
              · rfl
              · exact inductionHypothesis _ _ _

/-! ## The heads -/

theorem isHead_iff {store : InMemoryOutboxStore F} {record : MutableRecord F} :
    store.isHead record = true ↔ store.IsHead record := by
  rw [isHead, decide_eq_true_eq]
  constructor
  · rintro ⟨incomplete, earlier⟩
    refine ⟨incomplete, fun {key other} stored => earlier other ?_⟩
    exact List.mem_map_of_mem ((Dict.get?_eq_some_iff _).mp stored)
  · rintro ⟨incomplete, earlier⟩
    refine ⟨incomplete, fun other member => ?_⟩
    obtain ⟨⟨key, record⟩, stored, rfl⟩ := List.mem_map.mp member
    exact earlier ((Dict.get?_eq_some_iff _).mpr stored)

/-- In claim order a record is a head exactly if it is incomplete and its partition has not been
seen. -/
theorem isHead_iff_unseen {store : InMemoryOutboxStore F} (sound : store.Sound)
    {earlier later : List (Str × MutableRecord F)} {item : Str × MutableRecord F}
    (split : store.ordered = earlier ++ item :: later) {seen : List Str}
    (seenIff : ∀ partition, partition ∈ seen ↔
      ∃ other ∈ earlier, other.2.state ≠ .completed ∧ other.2.data.partitionKey = partition) :
    store.IsHead item.2 ↔ item.2.state ≠ .completed ∧ item.2.data.partitionKey ∉ seen := by
  have sorted : store.ordered.Pairwise recordLE := List.pairwise_insertionSort _ _
  have distinct := store.nodup_keys_ordered
  have stored : ∀ other ∈ store.ordered, store.records.get? other.1 = some other.2 :=
    fun other member => mem_ordered.mp member
  rw [split] at sorted distinct stored
  have itemStored := stored item (by simp)
  constructor
  · intro head
    refine ⟨head.incomplete, fun inSeen => ?_⟩
    obtain ⟨other, member, incomplete, samePartition⟩ := (seenIff _).mp inSeen
    have otherStored := stored other (List.mem_append_left _ member)
    have before : other.2.data.sortKey ≤ item.2.data.sortKey :=
      (List.pairwise_append.mp sorted).2.2 other member item (by simp)
    rcases lt_or_eq_of_le before with smaller | same
    · exact incomplete (head.earlier otherStored samePartition smaller)
    · have sameKey := sound.key_eq_of_sortKey_eq otherStored itemStored same
      rw [List.map_append, List.map_cons, List.nodup_append] at distinct
      exact distinct.2.2 other.1 (List.mem_map_of_mem member) item.1 (by simp) sameKey
  · rintro ⟨incomplete, unseen⟩
    refine ⟨incomplete, fun {key other} otherStored samePartition smaller => ?_⟩
    have member := mem_ordered.mpr otherStored
    rw [split] at member
    by_contra notCompleted
    rcases List.mem_append.mp member with inEarlier | inLater
    · exact unseen ((seenIff _).mpr ⟨_, inEarlier, notCompleted, samePartition⟩)
    · rcases List.mem_cons.mp inLater with same | inLater
      · rw [← same] at smaller
        exact absurd smaller (lt_irrefl _)
      · have following := (List.pairwise_cons.mp (List.pairwise_append.mp sorted).2.1).1 _ inLater
        exact absurd smaller (not_lt.mpr following)

/-- The loop looks at the heads of the partitions. -/
theorem visitedHeads_eq_filter {store : InMemoryOutboxStore F} (sound : store.Sound)
    (todo earlier : List (Str × MutableRecord F)) (split : store.ordered = earlier ++ todo)
    {seen : List Str}
    (seenIff : ∀ partition, partition ∈ seen ↔
      ∃ other ∈ earlier, other.2.state ≠ .completed ∧ other.2.data.partitionKey = partition) :
    visitedHeads todo seen = todo.filter fun item => store.isHead item.2 := by
  induction todo generalizing earlier seen with
  | nil => rfl
  | cons item rest inductionHypothesis =>
      have headIff := isHead_iff_unseen sound split seenIff
      have splitRest : store.ordered = (earlier ++ [item]) ++ rest := by
        rw [split, List.append_assoc]
        rfl
      have known : ∀ partition, (∃ other ∈ earlier ++ [item], other.2.state ≠ .completed ∧
          other.2.data.partitionKey = partition) ↔ (partition ∈ seen ∨
            item.2.state ≠ .completed ∧ item.2.data.partitionKey = partition) := by
        intro partition
        rw [seenIff]
        simp only [List.mem_append, List.mem_singleton, or_and_right, exists_or, exists_eq_left]
      rw [visitedHeads]
      split
      next completed =>
        have notHead : ¬ store.isHead item.2 = true := fun isHead =>
          (isHead_iff.mp isHead).incomplete completed
        rw [List.filter_cons, if_neg notHead]
        refine inductionHypothesis _ splitRest fun partition => ?_
        rw [known]
        simp [completed]
      next incomplete =>
        split
        next inSeen =>
          have notHead : ¬ store.isHead item.2 = true := fun isHead =>
            (headIff.mp (isHead_iff.mp isHead)).2 inSeen
          rw [List.filter_cons, if_neg notHead]
          refine inductionHypothesis _ splitRest fun partition => ?_
          rw [known]
          constructor
          · exact .inl
          · rintro (seenBefore | ⟨-, rfl⟩)
            · exact seenBefore
            · exact inSeen
        next unseen =>
          have head : store.isHead item.2 = true := isHead_iff.mpr (headIff.mpr ⟨incomplete, unseen⟩)
          rw [List.filter_cons, if_pos head]
          congr 1
          refine inductionHypothesis _ splitRest fun partition => ?_
          rw [known, List.mem_cons, or_comm, eq_comm]
          simp [incomplete]

theorem visitedHeads_ordered {store : InMemoryOutboxStore F} (sound : store.Sound) :
    visitedHeads store.ordered [] = store.heads :=
  visitedHeads_eq_filter sound store.ordered [] rfl (by simp)

/-! ## The selection -/

theorem obstructed_cons_iff {limit : Nat} {current : Utc} {item : Str × MutableRecord F}
    {rest : List (Str × MutableRecord F)} :
    Obstructed limit current (item :: rest) ↔
      item.2.Abandoned ∧ 0 < limit ∨
        Obstructed (if item.2.Claimable current then limit - 1 else limit) current rest := by
  constructor
  · rintro ⟨earlier, abandoned, later, split, isAbandoned, few⟩
    cases earlier with
    | nil =>
        cases split
        exact .inl ⟨isAbandoned, few⟩
    | cons first earlier =>
        cases split
        refine .inr ⟨earlier, abandoned, later, rfl, isAbandoned, ?_⟩
        rw [List.countP_cons] at few
        by_cases claimable : item.2.Claimable current
        · simp only [claimable, decide_true, if_true] at few ⊢
          omega
        · simp only [claimable, decide_false, if_false, Bool.false_eq_true] at few ⊢
          omega
  · rintro (⟨isAbandoned, positive⟩ | ⟨earlier, abandoned, later, rfl, isAbandoned, few⟩)
    · exact ⟨[], item, rest, rfl, isAbandoned, positive⟩
    · refine ⟨item :: earlier, abandoned, later, rfl, isAbandoned, ?_⟩
      rw [List.countP_cons]
      by_cases claimable : item.2.Claimable current
      · simp only [claimable, decide_true, if_true] at few ⊢
        omega
      · simp only [claimable, decide_false, if_false, Bool.false_eq_true] at few ⊢
        omega

section Selection

variable {owner : Str} {limit duration : Int} {current expiresAt : Utc}
  {records : Dict Str (MutableRecord F)} {claimed : List (OutboxRecord F)}
  {heads : List (Str × MutableRecord F)}

/-- Within the calendar a claimable record is leased, and another one is skipped unless it is
abandoned. -/
inductive HeadClaim (owner : Str) (current expiresAt : Utc) (record : MutableRecord F) :
    HeadOutcome F → Prop
  | skip (held : ¬ record.Claimable current) (kept : ¬ record.Abandoned) :
      HeadClaim owner current expiresAt record .skip
  | abandoned (isAbandoned : record.Abandoned) :
      HeadClaim owner current expiresAt record (.fail .assertionError record)
  | claim (after : MutableRecord F) (view : OutboxRecord F) (claimable : record.Claimable current)
      (claimOf : ClaimOf owner current expiresAt record after view) :
      HeadClaim owner current expiresAt record (.claim after view)

theorem claimHead_claims (ownerNe : owner ≠ []) (positive : 0 < duration)
    (inRange : current.add duration = some expiresAt) {record : MutableRecord F}
    (wellFormed : record.WellFormed) :
    HeadClaim owner current expiresAt record (claimHead owner current duration record) := by
  have step : HeadStep owner current duration record (claimHead owner current duration record) :=
    claimHead_step ownerNe positive wellFormed
  generalize decided : claimHead owner current duration record = outcome at step
  cases step with
  | skip held =>
      refine .skip held fun abandoned => ?_
      rw [claimHead, abandoned.1, abandoned.2] at decided
      cases decided
  | corrupt leased missing => exact .abandoned ⟨leased, missing⟩
  | overflow _ outOfRange =>
      rw [inRange] at outOfRange
      cases outOfRange
  | claim lease view claimable ownerEq acquiredEq expiresEq attemptEq taken =>
      rw [inRange] at expiresEq
      exact .claim _ view claimable ⟨⟨lease, ⟨ownerEq, acquiredEq, (Option.some.inj expiresEq).symm,
        attemptEq⟩, rfl⟩, taken⟩

/-- An abandoned head stops the loop. -/
theorem claimHeads_of_obstructed (ownerNe : owner ≠ []) (positive : 0 < duration)
    (inRange : current.add duration = some expiresAt)
    (wellFormed : ∀ item ∈ heads, item.2.WellFormed) {left : Nat}
    (leftEq : (claimed.length : Int) + left = limit) (obstructed : Obstructed left current heads) :
    (claimHeads owner limit current duration heads claimed records).1 = .error .assertionError := by
  induction heads generalizing claimed records left with
  | nil =>
      obtain ⟨earlier, item, later, split, -⟩ := obstructed
      simp at split
  | cons item rest inductionHypothesis =>
      obtain ⟨key, record⟩ := item
      rw [List.forall_mem_cons] at wellFormed
      rw [obstructed_cons_iff] at obstructed
      have decision := claimHead_claims ownerNe positive inRange wellFormed.1
      rw [claimHeads]
      generalize claimHead owner current duration record = outcome at decision
      cases decision with
      | skip held kept =>
          rcases obstructed with ⟨abandoned, -⟩ | behind
          · exact absurd abandoned kept
          · rw [if_neg held] at behind
            exact inductionHypothesis wellFormed.2 leftEq behind
      | abandoned => rfl
      | claim after view claimable claimOf =>
          rcases obstructed with ⟨abandoned, -⟩ | behind
          · exact absurd claimable (abandoned.not_claimable current)
          · rw [if_pos claimable] at behind
            obtain ⟨_, _, _, -, -, few⟩ := id behind
            have more : ¬ ((claimed ++ [view]).length : Int) = limit := by
              rw [List.length_append, List.length_singleton]
              omega
            dsimp only
            rw [if_neg more]
            refine inductionHypothesis wellFormed.2 ?_ behind
            rw [List.length_append, List.length_singleton]
            omega

theorem Claims.cons {record after : MutableRecord F} {view : OutboxRecord F}
    {chosen : List (Str × MutableRecord F)} {final : Dict Str (MutableRecord F)}
    {views : List (OutboxRecord F)} {key : Str} (absent : key ∉ chosen.map Prod.fst)
    (claimOf : ClaimOf owner current expiresAt record after view)
    (claims : Claims owner current expiresAt chosen (records.set key after) final views) :
    Claims owner current expiresAt ((key, record) :: chosen) records final (view :: views) := by
  constructor
  · refine .cons ⟨after, ?_, claimOf⟩ claims.claimed
    rw [claims.others key absent, Dict.get?_set_self]
  · intro other notChosen
    rw [List.map_cons, List.mem_cons, not_or] at notChosen
    rw [claims.others other notChosen.2, Dict.get?_set_of_ne _ _ (Ne.symm notChosen.1)]

/-- Without an abandoned head in the way the loop claims the first claimable heads. -/
theorem claimHeads_of_not_obstructed (ownerNe : owner ≠ []) (positive : 0 < duration)
    (inRange : current.add duration = some expiresAt)
    (wellFormed : ∀ item ∈ heads, item.2.WellFormed) (distinct : (heads.map Prod.fst).Nodup)
    {left : Nat} (leftPos : 0 < left) (leftEq : (claimed.length : Int) + left = limit)
    (free : ¬ Obstructed left current heads) :
    ∃ views,
      (claimHeads owner limit current duration heads claimed records).1 = .ok (claimed ++ views) ∧
      Claims owner current expiresAt (selected left current heads) records
        (claimHeads owner limit current duration heads claimed records).2 views := by
  induction heads generalizing claimed records left with
  | nil =>
      refine ⟨[], by rw [List.append_nil]; rfl, ?_⟩
      rw [selected, List.filter_nil, List.take_nil]
      exact ⟨.nil, fun _ _ => rfl⟩
  | cons item rest inductionHypothesis =>
      obtain ⟨key, record⟩ := item
      rw [List.forall_mem_cons] at wellFormed
      rw [List.map_cons, List.nodup_cons] at distinct
      rw [obstructed_cons_iff, not_or] at free
      have decision := claimHead_claims ownerNe positive inRange wellFormed.1
      rw [claimHeads]
      generalize claimHead owner current duration record = outcome at decision
      cases decision with
      | skip held kept =>
          rw [if_neg held] at free
          have same : selected left current ((key, record) :: rest) = selected left current rest := by
            rw [selected, List.filter_cons, if_neg (by simpa using held), selected]
          rw [same]
          exact inductionHypothesis wellFormed.2 distinct.2 leftPos leftEq free.2
      | abandoned isAbandoned => exact absurd ⟨isAbandoned, leftPos⟩ free.1
      | claim after view claimable claimOf =>
          obtain ⟨fewer, rfl⟩ : ∃ fewer, left = fewer + 1 := ⟨left - 1, by omega⟩
          have first : selected (fewer + 1) current ((key, record) :: rest) =
              (key, record) :: selected fewer current rest := by
            rw [selected, List.filter_cons, if_pos (by simpa using claimable), List.take_succ_cons,
              selected]
          have absent : key ∉ (selected fewer current rest).map Prod.fst := by
            intro chosen
            obtain ⟨other, member, same⟩ := List.mem_map.mp chosen
            have inRest : other ∈ rest := List.mem_of_mem_filter (List.mem_of_mem_take member)
            exact distinct.1 (List.mem_map.mpr ⟨other, inRest, same⟩)
          rw [if_pos claimable] at free
          rw [first]
          dsimp only
          split
          next full =>
            rw [List.length_append, List.length_singleton] at full
            obtain rfl : fewer = 0 := by omega
            refine ⟨[view], rfl, ?_⟩
            exact Claims.cons absent claimOf ⟨.nil, fun _ _ => rfl⟩
          next notFull =>
            rw [List.length_append, List.length_singleton] at notFull
            have more : 0 < fewer := by omega
            have remaining : ((claimed ++ [view]).length : Int) + fewer = limit := by
              rw [List.length_append, List.length_singleton]
              omega
            obtain ⟨views, returned, claims⟩ : ∃ views,
                (claimHeads owner limit current duration rest (claimed ++ [view])
                  (records.set key after)).1 = .ok (claimed ++ [view] ++ views) ∧
                Claims owner current expiresAt (selected fewer current rest) (records.set key after)
                  (claimHeads owner limit current duration rest (claimed ++ [view])
                    (records.set key after)).2 views :=
              inductionHypothesis wellFormed.2 distinct.2 more remaining free.2
            refine ⟨view :: views, ?_, claims.cons absent claimOf⟩
            rw [returned, List.append_assoc]
            rfl

end Selection

/-- With acceptable arguments a claim is the loop over the heads. -/
theorem atomicClaim_eq {store : InMemoryOutboxStore F} (sound : store.Sound) {owner : Str}
    {limit duration : Int} {now : Option DateTime} {utcNow current : Utc} (ownerNe : owner ≠ [])
    (limitPos : 1 ≤ limit) (positive : 0 < duration) (time : currentTime now utcNow = .ok current) :
    store.atomicClaim owner limit duration now utcNow =
      ((claimHeads owner limit current duration store.heads [] store.records).1,
        { store with records :=
            (claimHeads owner limit current duration store.heads [] store.records).2 }) := by
  rw [atomicClaim, if_neg ownerNe, if_neg (not_lt.mpr limitPos), if_neg (not_le.mpr positive), time]
  dsimp only
  rw [claimLoop_eq_claimHeads, visitedHeads_ordered sound]

theorem stored_of_mem_heads {store : InMemoryOutboxStore F} {item : Str × MutableRecord F}
    (member : item ∈ store.heads) : store.records.get? item.1 = some item.2 :=
  mem_ordered.mp (List.mem_of_mem_filter member)

theorem nodup_keys_heads (store : InMemoryOutboxStore F) : (store.heads.map Prod.fst).Nodup :=
  (List.filter_sublist.map Prod.fst).nodup store.nodup_keys_ordered

/-- Without an abandoned head in the way a claim does what it is specified to do. -/
theorem meetsSpecification_of_not_obstructed {store : InMemoryOutboxStore F} (sound : store.Sound)
    {owner : Str} (ownerNe : owner ≠ []) {limit : Int} (limitPos : 1 ≤ limit) {duration : Int}
    (positive : 0 < duration) {now : Option DateTime} {utcNow current expiresAt : Utc}
    (time : currentTime now utcNow = .ok current)
    (inRange : current.add duration = some expiresAt)
    (free : ¬ Obstructed limit.toNat current store.heads) :
    store.MeetsSpecification owner limit.toNat current expiresAt
      (store.atomicClaim owner limit duration now utcNow) := by
  have left : (([] : List (OutboxRecord F)).length : Int) + limit.toNat = limit := by
    rw [List.length_nil]
    omega
  obtain ⟨views, returned, claims⟩ : ∃ views,
      (claimHeads owner limit current duration store.heads [] store.records).1 =
        .ok ([] ++ views) ∧
      Claims owner current expiresAt (selected limit.toNat current store.heads) store.records
        (claimHeads owner limit current duration store.heads [] store.records).2 views :=
    claimHeads_of_not_obstructed ownerNe positive inRange
      (fun item member => sound.wellFormed (stored_of_mem_heads member)) store.nodup_keys_heads
      (by omega) left free
  rw [atomicClaim_eq sound ownerNe limitPos positive time]
  exact ⟨⟨views, returned, claims⟩, rfl, rfl⟩

/-- In every reachable store, a claim with acceptable arguments within the calendar returns the
first claimable heads of the partitions, leased to the owner with one more attempt, and changes
nothing else, exactly if at least `limit` claimable heads precede every head that is LEASED
without a lease. -/
theorem atomicClaim_meets_iff (store : InMemoryOutboxStore F) (reachable : store.Reachable)
    (owner : Str) (ownerNe : owner ≠ []) (limit : Int) (limitPos : 1 ≤ limit) (duration : Int)
    (positive : 0 < duration) (now : Option DateTime) (utcNow current expiresAt : Utc)
    (time : currentTime now utcNow = .ok current)
    (inRange : current.add duration = some expiresAt) :
    store.MeetsSpecification owner limit.toNat current expiresAt
        (store.atomicClaim owner limit duration now utcNow) ↔
      ¬ Obstructed limit.toNat current store.heads := by
  have sound := reachable.sound
  constructor
  · rintro ⟨⟨views, returned, -⟩, -, -⟩ obstructed
    have left : (([] : List (OutboxRecord F)).length : Int) + limit.toNat = limit := by
      rw [List.length_nil]
      omega
    have raised : (claimHeads owner limit current duration store.heads [] store.records).1 =
        .error .assertionError :=
      claimHeads_of_obstructed ownerNe positive inRange
        (fun item member => sound.wellFormed (stored_of_mem_heads member)) left obstructed
    rw [atomicClaim_eq sound ownerNe limitPos positive time] at returned
    dsimp only at returned
    rw [raised] at returned
    cases returned
  · exact meetsSpecification_of_not_obstructed sound ownerNe limitPos positive time inRange

/-- A store without abandoned records obstructs no claim. -/
theorem not_obstructed {store : InMemoryOutboxStore F}
    (kept : ∀ item ∈ store.records.items, ¬ item.2.Abandoned) (limit : Nat) (current : Utc) :
    ¬ Obstructed limit current store.heads := by
  rintro ⟨earlier, item, later, split, abandoned, -⟩
  have member : item ∈ store.heads := by
    rw [split]
    simp
  exact kept item ((Dict.get?_eq_some_iff _).mp (stored_of_mem_heads member)) abandoned

/-- The content of a change to another order. -/
def otherFields : OutboxFields Empty :=
  { sampleFields (str "order-2-a") ⟨7, by decide⟩ with sourceIdentity := .str (str "order-2") }

theorem otherFields_valid : otherFields.Valid := by
  obtain ⟨⟩ := sampleFields_valid (show str "order-2-a" ≠ [] by decide) ⟨7, by decide⟩
  constructor <;> assumption

/-- A change to another order at microsecond 7. -/
def otherIntent : OutboxDataV1 Empty := .ofFields otherFields otherFields_valid (by decide +kernel)

/-- Two changes of one order, with a change of another order between them, and the first
one leased until microsecond 120. -/
def leasedStore : InMemoryOutboxStore Empty :=
  (initDefault.run [.append earlierIntent, sampleClaim "worker-1" 20, .append sampleIntent,
    .append otherIntent]).1

/-- While the first order is leased a claim gives out the other order alone; after the
lease has expired a claim of one gives out the first order again. -/
theorem atomicClaim_meets_iff_sample :
    (selected 10 ⟨21, by decide⟩ leasedStore.heads).map Prod.fst = [str "order-2-a"] ∧
      leasedStore.MeetsSpecification (str "worker-2") 10 ⟨21, by decide⟩ ⟨121, by decide⟩
        (leasedStore.atomicClaim (str "worker-2") 10 100 (some (.ofUtc ⟨21, by decide⟩))
          ⟨0, by decide⟩) ∧
      (selected 1 ⟨120, by decide⟩ leasedStore.heads).map Prod.fst = [str "order-1-a"] ∧
      leasedStore.MeetsSpecification (str "worker-2") 1 ⟨120, by decide⟩ ⟨220, by decide⟩
        (leasedStore.atomicClaim (str "worker-2") 1 100 (some (.ofUtc ⟨120, by decide⟩))
          ⟨0, by decide⟩) := by
  have reachable : leasedStore.Reachable := ⟨5, by decide, _, rfl⟩
  have kept : ∀ item ∈ leasedStore.records.items, ¬ item.2.Abandoned := by decide +kernel
  have meets : ∀ (limit : Int) (limitPos : 1 ≤ limit) (current expiresAt : Utc),
      current.add 100 = some expiresAt →
      leasedStore.MeetsSpecification (str "worker-2") limit.toNat current expiresAt
        (leasedStore.atomicClaim (str "worker-2") limit 100 (some (.ofUtc current))
          ⟨0, by decide⟩) := fun limit limitPos current expiresAt inRange =>
    (atomicClaim_meets_iff leasedStore reachable (str "worker-2") (by decide) limit limitPos 100
      (by decide) (some (.ofUtc current)) ⟨0, by decide⟩ current expiresAt
      (currentTime_ofUtc _ _) inRange).mpr (not_obstructed kept _ _)
  exact ⟨by decide +kernel, meets 10 (by decide) _ _ (by decide +kernel), by decide +kernel,
    meets 1 (by decide) _ _ (by decide +kernel)⟩

/-- After a claim in the last microsecond of the calendar has raised `OverflowError`, a claim of
another worker raises `AssertionError` and returns nothing. -/
theorem abandoned_head_stops_claim :
    ¬ ∀ store : InMemoryOutboxStore Empty, store.Reachable → ∀ owner, owner ≠ [] →
      ∀ limit : Int, 1 ≤ limit → ∀ duration, 0 < duration → ∀ now utcNow current expiresAt,
      currentTime now utcNow = .ok current → current.add duration = some expiresAt →
      store.MeetsSpecification owner limit.toNat current expiresAt
        (store.atomicClaim owner limit duration now utcNow) := by
  intro always
  let store : InMemoryOutboxStore Empty := ((init 5 (by decide)).run
    [.append sampleIntent, sampleClaim "worker-1" ⟨calendarMicros - 1, by decide⟩]).1
  have raised : (store.atomicClaim (str "worker-2") 10 100 (some (.ofUtc ⟨20, by decide⟩))
      ⟨0, by decide⟩).1.isOk = false := by decide +kernel
  have meets := always store ⟨5, by decide, _, rfl⟩ (str "worker-2") (by decide) 10 (by decide) 100
    (by decide) (some (.ofUtc ⟨20, by decide⟩)) ⟨0, by decide⟩ ⟨20, by decide⟩ ⟨120, by decide⟩
    (by decide +kernel) (by decide +kernel)
  obtain ⟨views, returned, -⟩ := meets.returned
  rw [returned] at raised
  cases raised

end InMemoryOutboxStore

end DataLifecycle.Outbox
