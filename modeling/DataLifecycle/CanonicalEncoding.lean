import DataLifecycle.Canonical
import DataLifecycle.Python.JsonOrder

/-!
# Canonical JSON is a faithful encoding

Canonical bytes determine the data that they encode up to the order of object
members.  Every digest, ordering key, cache key and record line rests on this.
-/

namespace DataLifecycle

open Python

variable {F : Type} [FloatText F]

/-- Data with the same canonical bytes sorts to the same data. -/
theorem sortKeys_eq_of_jsonBytes_eq {first second : Json F} {bytes : Bytes}
    (firstEncoded : jsonBytes first = .ok bytes) (secondEncoded : jsonBytes second = .ok bytes)
    (firstDistinct : first.DistinctKeys) (secondDistinct : second.DistinctKeys) :
    first.sortKeys = second.sortKeys := by
  have firstRead := loadsBytes_jsonBytes firstEncoded firstDistinct
  have secondRead := loadsBytes_jsonBytes secondEncoded secondDistinct
  have sameRead : first.sortKeys.toPy = second.sortKeys.toPy :=
    Except.ok.inj (firstRead.symm.trans secondRead)
  have firstBack := jsonValue_toPy _ (Json.distinctKeys_sortKeys first firstDistinct)
  have secondBack := jsonValue_toPy _ (Json.distinctKeys_sortKeys second secondDistinct)
  rw [sameRead, secondBack] at firstBack
  exact (Except.ok.inj firstBack).symm

/-- Canonical bytes agree exactly on the same data. -/
theorem jsonBytes_eq_iff_same {first second : Json F} {firstBytes secondBytes : Bytes}
    (firstEncoded : jsonBytes first = .ok firstBytes)
    (secondEncoded : jsonBytes second = .ok secondBytes)
    (firstDistinct : first.DistinctKeys) (secondDistinct : second.DistinctKeys) :
    firstBytes = secondBytes ↔ first.Same second := by
  rw [Json.same_iff_sortKeys_eq first second firstDistinct secondDistinct]
  constructor
  · rintro rfl
    exact sortKeys_eq_of_jsonBytes_eq firstEncoded secondEncoded firstDistinct secondDistinct
  · intro sorted
    rw [(jsonBytes_eq_ok_iff.mp firstEncoded).2, (jsonBytes_eq_ok_iff.mp secondEncoded).2, sorted]

/-- Canonical JSON is a faithful encoding that does not depend on the order of
members: supported values have canonical bytes, the bytes agree exactly when the
values are the same JSON data, parsing them yields that data, and they hold no
newline. -/
theorem canonicalJsonBytes_faithful (first second : PyValue F) (firstData secondData : Json F)
    (firstSupported : jsonValue first = .ok firstData)
    (secondSupported : jsonValue second = .ok secondData)
    (firstEncodable : Encodable firstData) (secondEncodable : Encodable secondData) :
    ∃ firstBytes secondBytes, canonicalJsonBytes first = .ok firstBytes ∧
      canonicalJsonBytes second = .ok secondBytes ∧
      (firstBytes = secondBytes ↔ firstData.Same secondData) ∧
      (∃ parsed : Json F, loadsBytes firstBytes = .ok parsed.toPy ∧ parsed.Same firstData) ∧
      (10 : UInt8) ∉ firstBytes := by
  have firstDistinct := distinctKeys_of_jsonValue first firstSupported
  have secondDistinct := distinctKeys_of_jsonValue second secondSupported
  have firstEncoded := jsonBytes_eq_ok_iff.mpr ⟨firstEncodable, rfl⟩
  have secondEncoded := jsonBytes_eq_ok_iff.mpr ⟨secondEncodable, rfl⟩
  refine ⟨_, _, ?_, ?_, jsonBytes_eq_iff_same firstEncoded secondEncoded firstDistinct
    secondDistinct, ⟨firstData.sortKeys, loadsBytes_jsonBytes firstEncoded firstDistinct, ?_⟩, ?_⟩
  · rw [canonicalJsonBytes, firstSupported]
    exact firstEncoded
  · rw [canonicalJsonBytes, secondSupported]
    exact secondEncoded
  · rw [Json.same_iff_sortKeys_eq _ _ (Json.distinctKeys_sortKeys _ firstDistinct) firstDistinct,
      Json.sortKeys_sortKeys]
  · exact fun member => absurd (le_of_mem_jsonBytes firstEncoded member) (by decide)

/-- Two spellings of one mapping, with members in different orders. -/
theorem canonicalJsonBytes_faithful_reordered :
    let first : PyValue Empty :=
      .mapping [(.str (str "id"), .int 1), (.str (str "tags"), .sequence [.bool true, .none])]
    let second : PyValue Empty :=
      .mapping [(.str (str "tags"), .sequence [.bool true, .none]), (.str (str "id"), .int 1)]
    ∃ bytes, canonicalJsonBytes first = .ok bytes ∧ canonicalJsonBytes second = .ok bytes ∧
      (10 : UInt8) ∉ bytes := by
  intro first second
  obtain ⟨firstBytes, secondBytes, firstEncoded, secondEncoded, agree, -, noNewline⟩ :=
    canonicalJsonBytes_faithful first second
      (.object [(str "id", .int 1), (str "tags", .array [.bool true, .null])])
      (.object [(str "tags", .array [.bool true, .null]), (str "id", .int 1)]) rfl rfl
      (by decide +kernel) (by decide +kernel)
  have same : firstBytes = secondBytes :=
    agree.mpr ⟨rfl, ⟨_, rfl, rfl⟩, ⟨_, rfl, rfl, trivial, trivial⟩, trivial⟩
  subst same
  exact ⟨firstBytes, firstEncoded, secondEncoded, noNewline⟩

/-- Two Python values that the encoder converts to the same JSON data. -/
def SameData (first second : PyValue F) : Prop :=
  ∃ firstData secondData, jsonValue first = .ok firstData ∧ jsonValue second = .ok secondData ∧
    firstData.Same secondData

theorem canonicalJsonBytes_eq_ok_iff {value : PyValue F} {bytes : Bytes} :
    canonicalJsonBytes value = .ok bytes ↔
      ∃ data, jsonValue value = .ok data ∧ jsonBytes data = .ok bytes := by
  unfold canonicalJsonBytes
  cases jsonValue value <;> simp

theorem digestOf_eq_ok_iff {value : PyValue F} {digest : Str} :
    digestOf value = .ok digest ↔
      ∃ bytes, canonicalJsonBytes value = .ok bytes ∧ digest = prefixedDigest bytes := by
  rw [digestOf, bind_eq_ok_iff]
  constructor
  · rintro ⟨data, supported, digested⟩
    unfold sha256Digest at digested
    split at digested
    next bytes encoded =>
      cases digested
      exact ⟨bytes, canonicalJsonBytes_eq_ok_iff.mpr ⟨data, supported, encoded⟩, rfl⟩
    next => cases digested
  · rintro ⟨bytes, encoded, rfl⟩
    obtain ⟨data, supported, encoded⟩ := canonicalJsonBytes_eq_ok_iff.mp encoded
    refine ⟨data, supported, ?_⟩
    rw [sha256Digest, encoded]

omit [FloatText F] in
theorem sameData_toPy_iff {first second : Json F} (firstDistinct : first.DistinctKeys)
    (secondDistinct : second.DistinctKeys) :
    SameData first.toPy second.toPy ↔ first.Same second := by
  constructor
  · rintro ⟨firstData, secondData, firstEq, secondEq, same⟩
    rw [jsonValue_toPy _ firstDistinct] at firstEq
    rw [jsonValue_toPy _ secondDistinct] at secondEq
    cases firstEq
    cases secondEq
    exact same
  · intro same
    exact ⟨first, second, jsonValue_toPy _ firstDistinct, jsonValue_toPy _ secondDistinct, same⟩

/-- Values with canonical bytes have the same bytes if they are the same JSON data. -/
theorem canonicalJsonBytes_eq_iff_sameData {first second : PyValue F} {firstBytes secondBytes : Bytes}
    (firstEncoded : canonicalJsonBytes first = .ok firstBytes)
    (secondEncoded : canonicalJsonBytes second = .ok secondBytes) :
    firstBytes = secondBytes ↔ SameData first second := by
  obtain ⟨firstData, firstSupported, firstEncoded⟩ := canonicalJsonBytes_eq_ok_iff.mp firstEncoded
  obtain ⟨secondData, secondSupported, secondEncoded⟩ :=
    canonicalJsonBytes_eq_ok_iff.mp secondEncoded
  rw [jsonBytes_eq_iff_same firstEncoded secondEncoded
    (distinctKeys_of_jsonValue first firstSupported)
    (distinctKeys_of_jsonValue second secondSupported)]
  constructor
  · exact fun same => ⟨firstData, secondData, firstSupported, secondSupported, same⟩
  · rintro ⟨firstFound, secondFound, firstEq, secondEq, same⟩
    rw [firstSupported] at firstEq
    rw [secondSupported] at secondEq
    cases firstEq
    cases secondEq
    exact same

end DataLifecycle
