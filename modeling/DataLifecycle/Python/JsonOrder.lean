import DataLifecycle.Python.Dict
import DataLifecycle.Python.Json
import Mathlib.Data.List.Perm.Subperm

/-!
# JSON data up to the order of members

Python compares dictionaries by their items, not by the order of insertion.
`Same` is that comparison with types told apart, and sorting the keys gives every
class of it one representative.
-/

namespace DataLifecycle.Python.Json

variable {F : Type}

mutual

/-- The same typed data up to the order of object members. -/
def Same : Json F → Json F → Prop
  | .null, .null => True
  | .bool first, .bool second => first = second
  | .int first, .int second => first = second
  | .float first, .float second => first = second
  | .str first, .str second => first = second
  | .array first, .array second => SameItems first second
  | .object first, .object second => first.length = second.length ∧ SameMembers first second
  | _, _ => False

def SameItems : List (Json F) → List (Json F) → Prop
  | [], [] => True
  | first :: firstRest, second :: secondRest => Same first second ∧ SameItems firstRest secondRest
  | _, _ => False

/-- Every member has a counterpart under its key. -/
def SameMembers : List (Str × Json F) → List (Str × Json F) → Prop
  | [], _ => True
  | (key, value) :: rest, second =>
      (∃ other, Dict.lookup key second = some other ∧ Same value other) ∧ SameMembers rest second

end

theorem sameMembers_iff {first second : List (Str × Json F)} :
    SameMembers first second ↔ ∀ member ∈ first, ∃ other,
      Dict.lookup member.1 second = some other ∧ Same member.2 other := by
  induction first with
  | nil => simp [SameMembers]
  | cons member rest ih => simp [SameMembers, ih]

/-- Objects with the same keys in the same order are the same data member by member. -/
theorem same_object_iff {first second : List (Str × Json F)}
    (keys : first.map Prod.fst = second.map Prod.fst) (nodup : (first.map Prod.fst).Nodup) :
    (object first).Same (.object second) ↔
      List.Forall₂ (fun member other => member.2.Same other.2) first second := by
  induction first generalizing second with
  | nil =>
      rw [List.map_nil, List.nil_eq, List.map_eq_nil_iff] at keys
      simp [keys, Same, SameMembers]
  | cons member first inductionHypothesis =>
      cases second with
      | nil => simp at keys
      | cons other second =>
          obtain ⟨key, value⟩ := member
          obtain ⟨otherKey, otherValue⟩ := other
          simp only [List.map_cons, List.cons.injEq] at keys
          obtain ⟨rfl, keys⟩ := keys
          rw [List.map_cons, List.nodup_cons] at nodup
          -- The other members have other keys.
          have rest : SameMembers first ((key, otherValue) :: second) ↔
              SameMembers first second := by
            rw [sameMembers_iff, sameMembers_iff]
            apply forall₂_congr
            intro found foundMem
            have differs : key ≠ found.1 := by
              rintro rfl
              exact nodup.1 (List.mem_map.mpr ⟨found, foundMem, rfl⟩)
            rw [Dict.lookup, if_neg differs]
          rw [List.forall₂_cons, ← inductionHypothesis keys nodup.2]
          simp only [Same, SameMembers, rest, Dict.lookup, if_true, Option.some.injEq,
            exists_eq_left', List.length_cons, Nat.add_right_cancel_iff]
          tauto

theorem mem_sortMembers_iff {members : List (Str × Json F)} {key : Str} {sorted : Json F} :
    (key, sorted) ∈ sortMembers members ↔
      ∃ value, (key, value) ∈ members ∧ sortKeys value = sorted := by
  induction members with
  | nil => simp [sortMembers]
  | cons member rest ih =>
      obtain ⟨first, value⟩ := member
      rw [sortMembers, List.mem_cons, ih]
      constructor
      · rintro (equal | ⟨found, member, rfl⟩)
        · cases equal
          exact ⟨value, List.mem_cons_self, rfl⟩
        · exact ⟨found, List.mem_cons_of_mem _ member, rfl⟩
      · rintro ⟨found, member, rfl⟩
        rcases List.mem_cons.mp member with equal | later
        · cases equal
          exact .inl rfl
        · exact .inr ⟨found, later, rfl⟩

theorem length_sortMembers (members : List (Str × Json F)) :
    (sortMembers members).length = members.length := by
  have keys := congrArg List.length (sortMembers_keys members)
  rwa [List.length_map, List.length_map] at keys

/-- Sorted members are determined by what they are, not by where they stood. -/
theorem insertionSort_eq_iff_perm {first second : List (Str × Json F)}
    (distinct : (first.map Prod.fst).Nodup) :
    first.insertionSort keyLE = second.insertionSort keyLE ↔ first.Perm second := by
  constructor
  · intro equal
    exact (List.perm_insertionSort keyLE first).symm.trans
      (equal ▸ List.perm_insertionSort keyLE second)
  · intro perm
    apply List.Perm.eq_of_pairwise _ (List.pairwise_insertionSort keyLE first)
      (List.pairwise_insertionSort keyLE second)
      ((List.perm_insertionSort keyLE first).trans
        (perm.trans (List.perm_insertionSort keyLE second).symm))
    intro one other oneMem otherMem oneLE otherLE
    rw [(List.perm_insertionSort keyLE first).mem_iff] at oneMem
    rw [(List.perm_insertionSort keyLE second).mem_iff, ← perm.mem_iff] at otherMem
    exact List.inj_on_of_nodup_map distinct oneMem otherMem (le_antisymm oneLE otherLE)

theorem perm_sortMembers_iff {first second : List (Str × Json F)}
    (firstDistinct : (first.map Prod.fst).Nodup) (secondDistinct : (second.map Prod.fst).Nodup)
    (same : ∀ member ∈ first, ∀ other ∈ second,
      (Same member.2 other.2 ↔ sortKeys member.2 = sortKeys other.2)) :
    (sortMembers first).Perm (sortMembers second) ↔
      first.length = second.length ∧ SameMembers first second := by
  rw [sameMembers_iff]
  constructor
  · intro perm
    have lengths := perm.length_eq
    rw [length_sortMembers, length_sortMembers] at lengths
    refine ⟨lengths, ?_⟩
    rintro ⟨key, value⟩ member
    have inSecond := perm.mem_iff.mp (mem_sortMembers member)
    obtain ⟨other, otherMem, equal⟩ := mem_sortMembers_iff.mp inSecond
    exact ⟨other, (Dict.lookup_eq_some_iff secondDistinct).mpr otherMem,
      (same _ member _ otherMem).mpr equal.symm⟩
  · rintro ⟨lengths, counterparts⟩
    have nodup : (sortMembers first).Nodup := by
      apply List.Nodup.of_map Prod.fst
      rw [sortMembers_keys]
      exact firstDistinct
    have subset : sortMembers first ⊆ sortMembers second := by
      rintro ⟨key, sorted⟩ member
      obtain ⟨value, valueMem, rfl⟩ := mem_sortMembers_iff.mp member
      obtain ⟨other, found, isSame⟩ := counterparts _ valueMem
      have otherMem := (Dict.lookup_eq_some_iff secondDistinct).mp found
      exact mem_sortMembers_iff.mpr ⟨other, otherMem, ((same _ valueMem _ otherMem).mp isSame).symm⟩
    apply (List.Nodup.subperm nodup subset).perm_of_length_le
    rw [length_sortMembers, length_sortMembers]
    exact lengths.ge

mutual

/-- Data is the same exactly when it is sorted to the same data. -/
theorem same_iff_sortKeys_eq : ∀ (first second : Json F), first.DistinctKeys → second.DistinctKeys →
    (Same first second ↔ sortKeys first = sortKeys second)
  | .null, second, _, _ => by cases second <;> simp [Same, sortKeys]
  | .bool _, second, _, _ => by cases second <;> simp [Same, sortKeys]
  | .int _, second, _, _ => by cases second <;> simp [Same, sortKeys]
  | .float _, second, _, _ => by cases second <;> simp [Same, sortKeys]
  | .str _, second, _, _ => by cases second <;> simp [Same, sortKeys]
  | .array first, second, distinct, otherDistinct => by
      cases second with
      | array second =>
          simp only [Same, sortKeys, Json.array.injEq]
          exact sameItems_iff_sortItems_eq first second distinct otherDistinct
      | _ => simp [Same, sortKeys]
  | .object first, second, distinct, otherDistinct => by
      cases second with
      | object second =>
          simp only [Same, sortKeys, Json.object.injEq]
          rw [insertionSort_eq_iff_perm (by rw [sortMembers_keys]; exact distinct.1),
            perm_sortMembers_iff distinct.1 otherDistinct.1]
          intro member memberMem other otherMem
          exact same_iff_of_mem first distinct.2 member memberMem other.2
            (distinctKeysMembers_iff.mp otherDistinct.2 other otherMem)
      | _ => simp [Same, sortKeys]

theorem sameItems_iff_sortItems_eq : ∀ (first second : List (Json F)), DistinctKeysItems first →
    DistinctKeysItems second → (SameItems first second ↔ sortItems first = sortItems second)
  | [], second, _, _ => by cases second <;> simp [SameItems, sortItems]
  | value :: rest, second, distinct, otherDistinct => by
      cases second with
      | nil => simp [SameItems, sortItems]
      | cons other others =>
          simp only [SameItems, sortItems, List.cons.injEq]
          rw [same_iff_sortKeys_eq value other distinct.1 otherDistinct.1,
            sameItems_iff_sortItems_eq rest others distinct.2 otherDistinct.2]

theorem same_iff_of_mem : ∀ (first : List (Str × Json F)), DistinctKeysMembers first →
    ∀ member ∈ first, ∀ second : Json F, second.DistinctKeys →
      (Same member.2 second ↔ sortKeys member.2 = sortKeys second)
  | [], _, _, member, _, _ => by cases member
  | (_, value) :: rest, distinct, other, member, second, otherDistinct => by
      rcases List.mem_cons.mp member with rfl | later
      · exact same_iff_sortKeys_eq value second distinct.1 otherDistinct
      · exact same_iff_of_mem rest distinct.2 other later second otherDistinct

end

end DataLifecycle.Python.Json
