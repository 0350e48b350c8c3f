import Mathlib.Algebra.BigOperators.Group.Finset.Basic
import Mathlib.Algebra.Ring.Nat
import Mathlib.Data.List.Nodup

/-!
# Insertion-ordered dictionaries

A Python `dict` keeps its items in insertion order and its keys distinct.  The
structure carries the second fact as a field; assignment to an existing key
replaces the value in place, assignment to a new key appends.
-/

namespace DataLifecycle.Python

universe u v

/-- A Python `dict`. -/
structure Dict (κ : Type u) (υ : Type v) where
  items : List (κ × υ)
  nodup : (items.map Prod.fst).Nodup

namespace Dict

variable {κ : Type u} {υ : Type v}

/-- The empty dictionary. -/
def empty : Dict κ υ := ⟨[], List.nodup_nil⟩

/-- `dict.values()`. -/
def values (dict : Dict κ υ) : List υ := dict.items.map Prod.snd

variable [DecidableEq κ]

/-- The first item of a list with the given key. -/
def lookup (key : κ) : List (κ × υ) → Option υ
  | [] => none
  | item :: rest => if item.1 = key then some item.2 else lookup key rest

/-- `dict.get(key)`. -/
def get? (dict : Dict κ υ) (key : κ) : Option υ := lookup key dict.items

/-- Replace the value at a key in place, or append a new item. -/
def assign (key : κ) (value : υ) : List (κ × υ) → List (κ × υ)
  | [] => [(key, value)]
  | item :: rest =>
      if item.1 = key then (key, value) :: rest else item :: assign key value rest

theorem mem_keys_assign {key other : κ} {value : υ} {items : List (κ × υ)} :
    other ∈ (assign key value items).map Prod.fst ↔
      other = key ∨ other ∈ items.map Prod.fst := by
  induction items with
  | nil => simp [assign]
  | cons item rest ih =>
      by_cases same : item.1 = key
      · simp [assign, same]
      · simp only [assign, same, if_false, List.map_cons, List.mem_cons, ih]
        tauto

theorem nodup_assign {key : κ} {value : υ} {items : List (κ × υ)}
    (nodup : (items.map Prod.fst).Nodup) :
    ((assign key value items).map Prod.fst).Nodup := by
  induction items with
  | nil => simp [assign]
  | cons item rest ih =>
      simp only [List.map_cons, List.nodup_cons] at nodup
      by_cases same : item.1 = key
      · subst key
        rw [assign, if_pos rfl, List.map_cons, List.nodup_cons]
        exact nodup
      · rw [assign, if_neg same, List.map_cons, List.nodup_cons, mem_keys_assign]
        exact ⟨fun member => member.elim same nodup.1, ih nodup.2⟩

/-- Assignment adds nothing but the new item. -/
theorem mem_assign {key : κ} {value : υ} {items : List (κ × υ)} {item : κ × υ}
    (member : item ∈ assign key value items) : item = (key, value) ∨ item ∈ items := by
  induction items with
  | nil => exact .inl (List.mem_singleton.mp member)
  | cons first rest ih =>
      rw [assign] at member
      split at member
      · rcases List.mem_cons.mp member with isNew | later
        · exact .inl isNew
        · exact .inr (List.mem_cons_of_mem _ later)
      · rcases List.mem_cons.mp member with rfl | later
        · exact .inr List.mem_cons_self
        · rcases ih later with isNew | earlier
          · exact .inl isNew
          · exact .inr (List.mem_cons_of_mem _ earlier)

/-- `dict[key] = value`. -/
def set (dict : Dict κ υ) (key : κ) (value : υ) : Dict κ υ :=
  ⟨assign key value dict.items, nodup_assign dict.nodup⟩

/-- `del dict[key]`, if the key is present. -/
def erase (dict : Dict κ υ) (key : κ) : Dict κ υ :=
  ⟨dict.items.filter fun item => item.1 ≠ key,
    dict.nodup.sublist (List.filter_sublist.map Prod.fst)⟩

/-- The items whose keys are kept. -/
def filter (dict : Dict κ υ) (keep : κ → Bool) : Dict κ υ :=
  ⟨dict.items.filter fun item => keep item.1,
    dict.nodup.sublist (List.filter_sublist.map Prod.fst)⟩

@[simp]
theorem get?_empty (key : κ) : (empty : Dict κ υ).get? key = none :=
  rfl

theorem lookup_assign (key other : κ) (value : υ) (items : List (κ × υ)) :
    lookup other (assign key value items) =
      if key = other then some value else lookup other items := by
  induction items with
  | nil => simp [assign, lookup]
  | cons item rest ih =>
      by_cases same : item.1 = key
      · by_cases equal : key = other <;> simp [assign, lookup, same, equal]
      · by_cases equal : key = other
        · subst other
          simpa [assign, lookup, same] using ih
        · rw [assign, if_neg same, if_neg equal, lookup, lookup, ih, if_neg equal]

theorem get?_set (dict : Dict κ υ) (key other : κ) (value : υ) :
    (dict.set key value).get? other = if key = other then some value else dict.get? other :=
  lookup_assign key other value dict.items

@[simp]
theorem get?_set_self (dict : Dict κ υ) (key : κ) (value : υ) :
    (dict.set key value).get? key = some value := by
  simp [get?_set]

theorem get?_set_of_ne (dict : Dict κ υ) {key other : κ} (value : υ) (ne : key ≠ other) :
    (dict.set key value).get? other = dict.get? other := by
  simp [get?_set, ne]

theorem lookup_eq_some_iff {key : κ} {value : υ} {items : List (κ × υ)}
    (nodup : (items.map Prod.fst).Nodup) :
    lookup key items = some value ↔ (key, value) ∈ items := by
  induction items with
  | nil => simp [lookup]
  | cons item rest ih =>
      simp only [List.map_cons, List.nodup_cons] at nodup
      rcases item with ⟨itemKey, itemValue⟩
      by_cases same : itemKey = key
      · subst itemKey
        have absent : (key, value) ∉ rest := fun member =>
          nodup.1 (List.mem_map.mpr ⟨(key, value), member, rfl⟩)
        simp [lookup, absent, eq_comm]
      · simp [lookup, same, ih nodup.2, Ne.symm same]

/-- Lookup finds exactly the stored items. -/
theorem get?_eq_some_iff (dict : Dict κ υ) {key : κ} {value : υ} :
    dict.get? key = some value ↔ (key, value) ∈ dict.items :=
  lookup_eq_some_iff dict.nodup

theorem get?_filter (dict : Dict κ υ) (keep : κ → Bool) (key : κ) :
    (dict.filter keep).get? key = if keep key then dict.get? key else none := by
  apply Option.ext
  intro value
  rw [get?_eq_some_iff, filter, List.mem_filter, ← get?_eq_some_iff]
  by_cases kept : keep key = true <;> simp [kept]

theorem get?_erase (dict : Dict κ υ) (key other : κ) :
    (dict.erase key).get? other = if key = other then none else dict.get? other := by
  apply Option.ext
  intro value
  rw [get?_eq_some_iff, erase, List.mem_filter, ← get?_eq_some_iff]
  by_cases same : key = other
  · simp [same]
  · simp [same, Ne.symm same]

/-- Deleting an absent key changes nothing. -/
theorem erase_of_get?_eq_none {dict : Dict κ υ} {key : κ} (absent : dict.get? key = none) :
    dict.erase key = dict := by
  obtain ⟨items, nodup⟩ := dict
  have kept : items.filter (fun item => item.1 ≠ key) = items := by
    rw [List.filter_eq_self]
    intro item member
    rw [decide_eq_true_eq]
    rintro rfl
    have found := (lookup_eq_some_iff nodup).mpr member
    rw [get?, found] at absent
    contradiction
  simp only [erase, kept]

theorem assign_of_notMem {key : κ} {value : υ} {items : List (κ × υ)}
    (absent : key ∉ items.map Prod.fst) : assign key value items = items ++ [(key, value)] := by
  induction items with
  | nil => rfl
  | cons item rest ih =>
      simp only [List.map_cons, List.mem_cons, not_or] at absent
      rw [assign, if_neg (Ne.symm absent.1), ih absent.2, List.cons_append]

/-- Assigning items with fresh distinct keys one after another appends them. -/
theorem foldl_assign_of_nodup (items added : List (κ × υ))
    (nodup : ((items ++ added).map Prod.fst).Nodup) :
    added.foldl (fun dict item => assign item.1 item.2 dict) items = items ++ added := by
  induction added generalizing items with
  | nil => simp
  | cons item rest ih =>
      have absent : item.1 ∉ items.map Prod.fst := by
        intro member
        rw [List.map_append, List.nodup_append] at nodup
        exact nodup.2.2 item.1 member item.1 (by simp) rfl
      rw [List.foldl_cons, assign_of_notMem absent, ih (items ++ [item]) (by simpa using nodup)]
      simp

/-- Assigning items one after another keeps the keys distinct. -/
theorem nodup_foldl_assign {items added : List (κ × υ)} (nodup : (items.map Prod.fst).Nodup) :
    ((added.foldl (fun dict item => assign item.1 item.2 dict) items).map Prod.fst).Nodup := by
  induction added generalizing items with
  | nil => exact nodup
  | cons item rest ih => exact ih (nodup_assign nodup)

/-! ## Sums over the values -/

/-- The set of keys. -/
def keySet (dict : Dict κ υ) : Finset κ := (dict.items.map Prod.fst).toFinset

theorem mem_keySet {dict : Dict κ υ} {key : κ} :
    key ∈ dict.keySet ↔ ∃ value, dict.get? key = some value := by
  simp [keySet, get?_eq_some_iff]

/-- A sum over the values is one over the keys, in any order. -/
theorem sum_values (dict : Dict κ υ) (weight : υ → Nat) :
    (dict.values.map weight).sum = ∑ key ∈ dict.keySet, (dict.get? key).elim 0 weight := by
  rw [keySet, List.sum_toFinset _ dict.nodup, values, List.map_map, List.map_map]
  congr 1
  apply List.map_congr_left
  intro item member
  rw [Function.comp_apply, Function.comp_apply, (get?_eq_some_iff dict).mpr member]
  rfl

/-- Two dictionaries that agree outside a list of distinct keys differ in a sum over the
values by what these keys contribute. -/
theorem sum_values_add_sum {before after : Dict κ υ} {changed : List κ} (distinct : changed.Nodup)
    (others : ∀ key, key ∉ changed → after.get? key = before.get? key) (weight : υ → Nat) :
    (after.values.map weight).sum + (changed.map fun key => (before.get? key).elim 0 weight).sum =
      (before.values.map weight).sum +
        (changed.map fun key => (after.get? key).elim 0 weight).sum := by
  let all := before.keySet ∪ after.keySet ∪ changed.toFinset
  have covers : ∀ dict : Dict κ υ, dict.keySet ⊆ all →
      (dict.values.map weight).sum = ∑ key ∈ all, (dict.get? key).elim 0 weight := by
    intro dict subset
    rw [sum_values]
    apply Finset.sum_subset subset
    intro key _ absent
    rw [mem_keySet, not_exists] at absent
    rw [Option.eq_none_iff_forall_ne_some.mpr absent]
    rfl
  have changedSubset : changed.toFinset ⊆ all := Finset.subset_union_right
  have sumBefore := covers before (fun key member => by simp [all, member])
  have sumAfter := covers after (fun key member => by simp [all, member])
  rw [← Finset.sum_sdiff changedSubset] at sumBefore sumAfter
  have unchanged : ∑ key ∈ all \ changed.toFinset, (after.get? key).elim 0 weight =
      ∑ key ∈ all \ changed.toFinset, (before.get? key).elim 0 weight := by
    apply Finset.sum_congr rfl
    intro key member
    rw [Finset.mem_sdiff, List.mem_toFinset] at member
    rw [others key member.2]
  rw [← List.sum_toFinset _ distinct, ← List.sum_toFinset _ distinct, sumBefore, sumAfter,
    unchanged, Nat.add_right_comm]

end Dict

end DataLifecycle.Python
