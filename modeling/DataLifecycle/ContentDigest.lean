import DataLifecycle.Outbox.OrderingKey

/-!
# Digests of documents

The digest of a canonical JSON document identifies the document, mappings up to the order of
their members.  The lemmas say what that is for the documents that the dataclasses hash:
objects with fixed keys, and arrays of encoded values.
-/

namespace DataLifecycle

open Python

variable {F : Type} {α : Type}

namespace Python.Json

/-- Arrays of encoded values are the same item by item. -/
theorem same_array_map_iff {encode : α → Json F} {first second : List α} :
    (array (first.map encode)).Same (.array (second.map encode)) ↔
      List.Forall₂ (fun one other => (encode one).Same (encode other)) first second := by
  rw [Same]
  induction first generalizing second with
  | nil => cases second <;> simp [SameItems]
  | cons one first inductionHypothesis =>
      cases second with
      | nil => simp [SameItems]
      | cons other second => simp [SameItems, inductionHypothesis]

/-- Where encodings identify the values, they identify the arrays. -/
theorem same_array_map_iff_eq {encode : α → Json F}
    (identifies : ∀ one other, (encode one).Same (encode other) ↔ one = other)
    {first second : List α} :
    (array (first.map encode)).Same (.array (second.map encode)) ↔ first = second := by
  simp only [same_array_map_iff, identifies, List.forall₂_eq_eq_eq]

theorem distinctKeysItems_map_iff {encode : α → Json F} {items : List α} :
    DistinctKeysItems (items.map encode) ↔ ∀ item ∈ items, (encode item).DistinctKeys := by
  induction items with
  | nil => simp [DistinctKeysItems]
  | cons item rest inductionHypothesis => simp [DistinctKeysItems, inductionHypothesis]

theorem same_str_iff {first second : Str} : (str first : Json F).Same (.str second) ↔
    first = second :=
  Iff.rfl

theorem same_int_iff {first second : Int} : (int first : Json F).Same (.int second) ↔
    first = second :=
  Iff.rfl

end Python.Json

variable [FloatText F]

/-- The digest of JSON data as a Python value. -/
theorem digestOf_toPy {value : Json F} (distinct : value.DistinctKeys) :
    digestOf value.toPy = sha256Digest value := by
  rw [digestOf, jsonValue_toPy _ distinct]
  rfl

/-- Documents with different digests do not collide. -/
theorem collisionFree_of_ne {first second : Json F} {firstDigest secondDigest : Str}
    (firstDistinct : first.DistinctKeys) (secondDistinct : second.DistinctKeys)
    (firstDigested : sha256Digest first = .ok firstDigest)
    (secondDigested : sha256Digest second = .ok secondDigest) (differ : firstDigest ≠ secondDigest) :
    Outbox.CollisionFree first.toPy second.toPy := by
  intro equal
  rw [digestOf_toPy firstDistinct, digestOf_toPy secondDistinct, firstDigested,
    secondDigested] at equal
  exact absurd (Except.ok.inj equal) differ

/-- Documents have the same digest exactly if they are the same data. -/
theorem sha256Digest_eq_iff_same {first second : Json F} {firstDigest secondDigest : Str}
    (firstDistinct : first.DistinctKeys) (secondDistinct : second.DistinctKeys)
    (firstDigested : sha256Digest first = .ok firstDigest)
    (secondDigested : sha256Digest second = .ok secondDigest)
    (collisionFree : Outbox.CollisionFree first.toPy second.toPy) :
    firstDigest = secondDigest ↔ first.Same second := by
  have firstOf : digestOf first.toPy = .ok firstDigest :=
    (digestOf_toPy firstDistinct).trans firstDigested
  have secondOf : digestOf second.toPy = .ok secondDigest :=
    (digestOf_toPy secondDistinct).trans secondDigested
  obtain ⟨firstBytes, firstEncoded, firstEq⟩ := digestOf_eq_ok_iff.mp firstOf
  obtain ⟨secondBytes, secondEncoded, secondEq⟩ := digestOf_eq_ok_iff.mp secondOf
  rw [← sameData_toPy_iff firstDistinct secondDistinct,
    ← canonicalJsonBytes_eq_iff_sameData firstEncoded secondEncoded]
  constructor
  · intro equal
    have sameBytes := collisionFree (by rw [firstOf, secondOf, equal])
    rw [firstEncoded, secondEncoded] at sameBytes
    exact Except.ok.inj sameBytes
  · rintro rfl
    rw [firstEq, secondEq]

end DataLifecycle
