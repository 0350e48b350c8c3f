import DataLifecycle.Outbox.Steps

/-!
# The batch of a claim

A claim returns distinct events.  Each of them is held by the claiming worker until the
claim time plus the lease duration, with the data that was stored before.
-/

namespace DataLifecycle.Outbox.InMemoryOutboxStore

open Python

variable {F : Type} [FloatText F]

/-- The view shows a record that the owner holds until the given time. -/
def Held (owner : Str) (expiresAt : Utc) (records : Dict Str (MutableRecord F))
    (view : OutboxRecord F) : Prop :=
  ∃ record lease, records.get? view.data.eventId = some record ∧ record.data = view.data ∧
    record.state = .leased ∧ record.lease = some lease ∧ lease.owner = owner ∧
    lease.expiresAt = expiresAt

/-- Another record may change. -/
theorem Held.set {owner : Str} {expiresAt : Utc} {records : Dict Str (MutableRecord F)}
    {view : OutboxRecord F} (held : Held owner expiresAt records view) {key : Str}
    (record : MutableRecord F) (other : key ≠ view.data.eventId) :
    Held owner expiresAt (records.set key record) view := by
  obtain ⟨stored, lease, storedEq, rest⟩ := held
  exact ⟨stored, lease, by rw [Dict.get?_set_of_ne _ _ other, storedEq], rest⟩

/-- What the claim loop has claimed so far. -/
structure Claimed (owner : Str) (current : Utc) (duration : Int)
    (records : Dict Str (MutableRecord F)) (views : List (OutboxRecord F)) : Prop where
  nodup : (views.map (·.data.eventId)).Nodup
  held : ∀ view ∈ views, ∃ expiresAt, current.add duration = some expiresAt ∧
    Held owner expiresAt records view

theorem Claimed.snoc {owner : Str} {current : Utc} {duration : Int}
    {records : Dict Str (MutableRecord F)} {views : List (OutboxRecord F)}
    (claimed : Claimed owner current duration records views) {key : Str} {record leased : MutableRecord F}
    {view : OutboxRecord F} (keyed : record.data.eventId = key)
    (fresh : ∀ earlier ∈ views, earlier.data.eventId ≠ key)
    (head : HeadStep owner current duration record (.claim leased view)) :
    Claimed owner current duration (records.set key leased) (views ++ [view]) := by
  cases head with
  | claim lease view claimable ownerEq acquiredEq expiresEq attemptEq taken =>
      obtain ⟨viewData, -⟩ := MutableRecord.snapshot_eq_ok_iff.mp taken
      have viewKey : view.data.eventId = key := by
        rw [viewData]
        exact keyed
      constructor
      · rw [List.map_append, List.nodup_append]
        refine ⟨claimed.nodup, List.nodup_singleton _, ?_⟩
        intro first firstMem second secondMem
        obtain ⟨earlier, earlierMem, rfl⟩ := List.mem_map.mp firstMem
        rw [List.map_singleton, List.mem_singleton] at secondMem
        rw [secondMem, viewKey]
        exact fresh earlier earlierMem
      · intro other otherMem
        rcases List.mem_append.mp otherMem with earlier | last
        · obtain ⟨expiresAt, added, held⟩ := claimed.held other earlier
          exact ⟨expiresAt, added, held.set _ (fresh other earlier).symm⟩
        · rw [List.mem_singleton.mp last]
          refine ⟨lease.expiresAt, expiresEq, record.granted (some lease), lease, ?_, viewData.symm,
            rfl, rfl, ownerEq, rfl⟩
          rw [viewKey, Dict.get?_set_self]

/-- The loop claims distinct records. -/
theorem claimLoop_claimed {owner : Str} (limit : Int) (current : Utc) {duration : Int}
    (ownerNe : owner ≠ []) (positive : 0 < duration) (todo : List (Str × MutableRecord F))
    (seen : List Str) (claimed : List (OutboxRecord F)) (records : Dict Str (MutableRecord F))
    (nodup : (todo.map Prod.fst).Nodup)
    (keyed : ∀ item ∈ todo, item.2.data.eventId = item.1)
    (wellFormed : ∀ item ∈ todo, item.2.WellFormed)
    (fresh : ∀ view ∈ claimed, ∀ item ∈ todo, view.data.eventId ≠ item.1)
    (before : Claimed owner current duration records claimed) {views : List (OutboxRecord F)}
    (finished : (claimLoop owner limit current duration todo seen claimed records).1 = .ok views) :
    Claimed owner current duration
      (claimLoop owner limit current duration todo seen claimed records).2 views := by
  induction todo generalizing seen claimed records with
  | nil =>
      cases finished
      exact before
  | cons item rest ih =>
      obtain ⟨key, record⟩ := item
      simp only [List.map_cons, List.nodup_cons] at nodup
      simp only [List.forall_mem_cons] at keyed wellFormed fresh
      have skip : ∀ more,
          (claimLoop owner limit current duration rest more claimed records).1 = .ok views →
          Claimed owner current duration
            (claimLoop owner limit current duration rest more claimed records).2 views :=
        fun more => ih more claimed records nodup.2 keyed.2 wellFormed.2
          (fun view viewMem => (fresh view viewMem).2) before
      have head : HeadStep owner current duration record (claimHead owner current duration record) :=
        claimHead_step ownerNe positive wellFormed.1
      rw [claimLoop] at finished ⊢
      split at finished
      next completed =>
        rw [if_pos completed]
        exact skip _ finished
      next incomplete =>
        rw [if_neg incomplete]
        split at finished
        next inSeen =>
          rw [if_pos inSeen]
          exact skip _ finished
        next notSeen =>
          rw [if_neg notSeen]
          cases decided : claimHead owner current duration record with
          | skip =>
              simp only [decided] at finished ⊢
              exact skip _ finished
          | fail error failed =>
              simp only [decided] at finished
              cases finished
          | claim leased view =>
              rw [decided] at head
              have extended := before.snoc keyed.1 (fun earlier earlierMem =>
                (fresh earlier earlierMem).1) head
              simp only [decided] at finished ⊢
              split at finished
              next full =>
                rw [if_pos full]
                cases finished
                exact extended
              next more =>
                rw [if_neg more]
                refine ih _ _ _ nodup.2 keyed.2 wellFormed.2 ?_ extended finished
                intro other otherMem later laterMem
                rcases List.mem_append.mp otherMem with earlier | last
                · exact (fresh other earlier).2 later laterMem
                · -- the record just claimed is not among those that follow
                  have viewKey : view.data.eventId = key := by
                    cases head with
                    | claim lease _ _ _ _ _ _ taken =>
                        rw [(MutableRecord.snapshot_eq_ok_iff.mp taken).1]
                        exact keyed.1
                  rw [List.mem_singleton.mp last, viewKey]
                  rintro rfl
                  exact nodup.1 (List.mem_map_of_mem laterMem)

/-- The batch that a successful claim returns. -/
theorem atomicClaim_claimed {store : InMemoryOutboxStore F} (sound : store.Sound) {owner : Str}
    {limit duration : Int} {now : Option DateTime} {utcNow current : Utc}
    {views : List (OutboxRecord F)} (time : currentTime now utcNow = .ok current)
    (returned : (store.atomicClaim owner limit duration now utcNow).1 = .ok views) :
    Claimed owner current duration
      (store.atomicClaim owner limit duration now utcNow).2.records views := by
  rcases atomicClaim_cases store owner limit duration now utcNow with
    ⟨error, failed⟩ | ⟨claimTime, ownerNe, -, positive, claimTimeEq, looped⟩
  · rw [failed] at returned
    cases returned
  · rw [time] at claimTimeEq
    cases claimTimeEq
    rw [looped] at returned ⊢
    refine claimLoop_claimed limit current ownerNe positive store.ordered [] [] store.records
      store.nodup_keys_ordered (fun item member => sound.keyed (mem_ordered.mp member))
      (fun item member => sound.wellFormed (mem_ordered.mp member)) ?_ ?_ returned
    · intro view viewMem
      cases viewMem
    · exact ⟨List.nodup_nil, fun view viewMem => nomatch viewMem⟩

end DataLifecycle.Outbox.InMemoryOutboxStore
