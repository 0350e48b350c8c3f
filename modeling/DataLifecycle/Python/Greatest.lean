import DataLifecycle.Python.Dict
import Mathlib.Data.List.Induction
import Mathlib.Data.List.Sort

/-!
# Tables keyed by an identity and the greatest rows under each key

Two folds over rows.  `upsertAll` stores each row under its identity, so a later row
replaces an earlier one.  `greatest` keeps one row under each key and replaces it only by
a row of a greater version, so neither the order of the rows nor repetitions matter.
-/

namespace DataLifecycle.Python.Dict

universe u v w

variable {κ : Type u} {ρ : Type v}

theorem mem_values_iff [DecidableEq κ] (dict : Dict κ ρ) {row : ρ} :
    row ∈ dict.values ↔ ∃ key, dict.get? key = some row := by
  simp only [values, List.mem_map, get?_eq_some_iff]
  constructor
  · rintro ⟨⟨key, value⟩, member, rfl⟩
    exact ⟨key, member⟩
  · rintro ⟨key, member⟩
    exact ⟨(key, row), member, rfl⟩

/-- The items of a dictionary in the order of their keys, which are distinct. -/
theorem pairwise_lt_insertionSort_items {κ : Type u} [LinearOrder κ] (dict : Dict κ ρ) :
    (dict.items.insertionSort fun first second => first.1 ≤ second.1).Pairwise
      fun first second => first.1 < second.1 := by
  have sorted := List.pairwise_insertionSort (fun first second : κ × ρ => first.1 ≤ second.1)
    dict.items
  have distinct : (dict.items.insertionSort fun first second => first.1 ≤ second.1).Pairwise
      fun first second => first.1 ≠ second.1 :=
    List.pairwise_map.mp
      (((List.perm_insertionSort _ dict.items).map Prod.fst).nodup_iff.mpr dict.nodup)
  exact (sorted.and distinct).imp fun both => lt_of_le_of_ne both.1 both.2

section Upsert

variable [DecidableEq κ] (identity : ρ → κ)

/-- Store every row under its identity. -/
def upsertAll (rows : List ρ) : Dict κ ρ :=
  rows.foldl (fun table row => table.set (identity row) row) empty

theorem upsertAll_concat (rows : List ρ) (row : ρ) :
    upsertAll identity (rows ++ [row]) = (upsertAll identity rows).set (identity row) row := by
  rw [upsertAll, List.foldl_append]
  rfl

variable {identity}

/-- Where an identity determines the row, the table holds exactly the rows stored. -/
theorem get?_upsertAll_iff {rows : List ρ}
    (determined : ∀ first ∈ rows, ∀ second ∈ rows, identity first = identity second → first = second)
    {key : κ} {row : ρ} :
    (upsertAll identity rows).get? key = some row ↔ row ∈ rows ∧ identity row = key := by
  induction rows using List.reverseRecOn with
  | nil => simp [upsertAll]
  | append_singleton rows last inductionHypothesis =>
      have stored := inductionHypothesis fun first firstMem second secondMem =>
        determined first (List.mem_append_left _ firstMem) second (List.mem_append_left _ secondMem)
      have lastMem : last ∈ rows ++ [last] := List.mem_append_right _ List.mem_cons_self
      rw [upsertAll_concat, get?_set]
      by_cases same : identity last = key
      · rw [if_pos same]
        constructor
        · intro equal
          cases equal
          exact ⟨lastMem, same⟩
        · rintro ⟨member, keyed⟩
          rw [determined row member last lastMem (keyed.trans same.symm)]
      · rw [if_neg same, stored, List.mem_append, List.mem_singleton]
        constructor
        · rintro ⟨member, keyed⟩
          exact ⟨.inl member, keyed⟩
        · rintro ⟨member | rfl, keyed⟩
          · exact ⟨member, keyed⟩
          · exact absurd keyed same

theorem mem_values_upsertAll_iff {rows : List ρ}
    (determined : ∀ first ∈ rows, ∀ second ∈ rows, identity first = identity second → first = second)
    {row : ρ} : row ∈ (upsertAll identity rows).values ↔ row ∈ rows := by
  simp only [mem_values_iff, get?_upsertAll_iff determined]
  constructor
  · rintro ⟨key, member, -⟩
    exact member
  · intro member
    exact ⟨identity row, member, rfl⟩

end Upsert

section Greatest

variable {ν : Type w} [DecidableEq κ] [LinearOrder ν] (key : ρ → κ) (version : ρ → ν)

/-- Keep a row if its key is new or its version greater than the one kept. -/
def keepGreatest (kept : Dict κ ρ) (row : ρ) : Dict κ ρ :=
  match kept.get? (key row) with
  | none => kept.set (key row) row
  | some present => if version present < version row then kept.set (key row) row else kept

/-- The rows of the greatest version under each key. -/
def greatest (rows : List ρ) : Dict κ ρ := rows.foldl (keepGreatest key version) empty

theorem greatest_concat (rows : List ρ) (row : ρ) :
    greatest key version (rows ++ [row]) = keepGreatest key version (greatest key version rows) row := by
  rw [greatest, List.foldl_append]
  rfl

/-- A row whose version is not exceeded under its key. -/
def IsGreatest (rows : List ρ) (row : ρ) : Prop :=
  row ∈ rows ∧ ∀ other ∈ rows, key other = key row → version other ≤ version row

variable {key version}

theorem get?_keepGreatest_of_ne {kept : Dict κ ρ} {row : ρ} {place : κ} (ne : key row ≠ place) :
    (keepGreatest key version kept row).get? place = kept.get? place := by
  unfold keepGreatest
  split
  next => rw [get?_set_of_ne _ _ ne]
  next =>
    split
    next => rw [get?_set_of_ne _ _ ne]
    next => rfl

/-- Keeping a row adds nothing else. -/
theorem get?_keepGreatest {kept : Dict κ ρ} {row found : ρ} {place : κ}
    (present : (keepGreatest key version kept row).get? place = some found) :
    found = row ∨ kept.get? place = some found := by
  by_cases same : key row = place
  · subst same
    unfold keepGreatest at present
    split at present
    next =>
      rw [get?_set_self] at present
      exact .inl (Option.some.inj present).symm
    next =>
      split at present
      next =>
        rw [get?_set_self] at present
        exact .inl (Option.some.inj present).symm
      next => exact .inr present
  · rw [get?_keepGreatest_of_ne same] at present
    exact .inr present

/-- What the fold keeps under a key: nothing if no row has it, else a row of the greatest
version. -/
theorem get?_greatest_spec (rows : List ρ) (place : κ) :
    match (greatest key version rows).get? place with
    | none => ∀ row ∈ rows, key row ≠ place
    | some row => key row = place ∧ IsGreatest key version rows row := by
  induction rows using List.reverseRecOn with
  | nil => simp [greatest]
  | append_singleton rows last inductionHypothesis =>
      have lastMem : last ∈ rows ++ [last] := List.mem_append_right _ List.mem_cons_self
      rw [greatest_concat]
      by_cases same : key last = place
      · subst same
        cases found : (greatest key version rows).get? (key last) with
        | none =>
            rw [found] at inductionHypothesis
            simp only [keepGreatest, found, get?_set_self, true_and]
            refine ⟨lastMem, fun other member sameKey => ?_⟩
            rcases List.mem_append.mp member with earlier | isLast
            · exact absurd sameKey (inductionHypothesis other earlier)
            · rw [List.mem_singleton.mp isLast]
        | some present =>
            rw [found] at inductionHypothesis
            obtain ⟨keyed, member, bound⟩ := inductionHypothesis
            by_cases less : version present < version last
            · simp only [keepGreatest, found, if_pos less, get?_set_self, true_and]
              refine ⟨lastMem, fun other otherMem sameKey => ?_⟩
              rcases List.mem_append.mp otherMem with earlier | isLast
              · exact le_trans (bound other earlier (sameKey.trans keyed.symm)) (le_of_lt less)
              · rw [List.mem_singleton.mp isLast]
            · simp only [keepGreatest, found, if_neg less]
              refine ⟨keyed, List.mem_append_left _ member, fun other otherMem sameKey => ?_⟩
              rcases List.mem_append.mp otherMem with earlier | isLast
              · exact bound other earlier sameKey
              · rw [List.mem_singleton.mp isLast]
                exact not_lt.mp less
      · rw [get?_keepGreatest_of_ne same]
        cases found : (greatest key version rows).get? place with
        | none =>
            rw [found] at inductionHypothesis
            intro row member
            rcases List.mem_append.mp member with earlier | isLast
            · exact inductionHypothesis row earlier
            · rwa [List.mem_singleton.mp isLast]
        | some present =>
            rw [found] at inductionHypothesis
            obtain ⟨keyed, member, bound⟩ := inductionHypothesis
            refine ⟨keyed, List.mem_append_left _ member, fun other otherMem sameKey => ?_⟩
            rcases List.mem_append.mp otherMem with earlier | isLast
            · exact bound other earlier sameKey
            · rw [List.mem_singleton.mp isLast] at sameKey
              exact absurd (sameKey.trans keyed) same

/-- Where key and version determine the row, the fold keeps exactly the greatest rows. -/
theorem get?_greatest_iff {rows : List ρ}
    (determined : ∀ first ∈ rows, ∀ second ∈ rows, key first = key second →
      version first = version second → first = second) {place : κ} {row : ρ} :
    (greatest key version rows).get? place = some row ↔
      key row = place ∧ IsGreatest key version rows row := by
  have spec := @get?_greatest_spec _ _ _ _ _ key version rows place
  cases found : (greatest key version rows).get? place with
  | none =>
      rw [found] at spec
      constructor
      · intro absent
        cases absent
      · rintro ⟨keyed, member, -⟩
        exact absurd keyed (spec row member)
  | some kept =>
      rw [found] at spec
      obtain ⟨keptKeyed, keptMem, keptBound⟩ := spec
      constructor
      · intro equal
        cases equal
        exact ⟨keptKeyed, keptMem, keptBound⟩
      · rintro ⟨keyed, member, bound⟩
        have sameKey := keptKeyed.trans keyed.symm
        have sameVersion := le_antisymm (bound kept keptMem sameKey)
          (keptBound row member sameKey.symm)
        rw [determined kept keptMem row member sameKey sameVersion]

end Greatest

end DataLifecycle.Python.Dict
