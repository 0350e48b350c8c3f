import DataLifecycle.Portability.Model
import DataLifecycle.Python.Lines

/-!
# Record lines

A record travels as one canonical JSON line.  Reading the line of a record gives
the record back, with the keys of its mappings in order.
-/

namespace DataLifecycle.Portability

open Python

variable {F : Type} [FloatText F]

namespace LogicalRecord

/-- `canonical_json_bytes(record.to_mapping())`. -/
def line (record : LogicalRecord F) : Except Exc Bytes := jsonBytes record.toMapping

/-- The part of `consume` that turns a line into a record. -/
def decodeLine (maximumRecordBytes : Nat) (line : Bytes) : Except Exc (LogicalRecord F) :=
  if maximumRecordBytes < line.length then
    .error (.integrityError "logical Record exceeds maximum_record_bytes")
  else
    match loadsBytes line with
    | .error .decode => .error (.integrityError "logical partition contains invalid NDJSON")
    | .error .intLimit => .error (.valueError "Exceeds the limit for integer string conversion")
    | .ok (.mapping items) => do
        let record ← fromMapping items
        let encoded ← record.line
        if encoded ≠ line then
          .error (.integrityError "logical partition Record is not canonical JSON")
        else return record
    | .ok _ => .error (.integrityError "logical partition line must be a JSON object")

/-- The members of a mapping in the order of their keys. -/
def sortMapping (members : List (Str × Json F)) : List (Str × Json F) :=
  (Json.sortMembers members).insertionSort Json.keyLE

omit [FloatText F] in
theorem distinctKeys_sortMapping {members : List (Str × Json F)}
    (distinct : (Json.object members).DistinctKeys) :
    (Json.object (sortMapping members)).DistinctKeys :=
  Json.distinctKeys_sortKeys (.object members) distinct

/-- The same record; its mappings list their keys in order. -/
def sortKeys (record : LogicalRecord F) : LogicalRecord F :=
  { record with
    values := sortMapping record.values
    objectReferences := record.objectReferences.map sortMapping
    values_distinct := distinctKeys_sortMapping record.values_distinct
    references_distinct := by
      intro reference member
      obtain ⟨original, originalMem, rfl⟩ := List.mem_map.mp member
      exact distinctKeys_sortMapping (record.references_distinct original originalMem) }

omit [FloatText F] in
theorem distinctKeys_toMapping (record : LogicalRecord F) : record.toMapping.DistinctKeys := by
  have references : ∀ references : List (List (Str × Json F)),
      (∀ reference ∈ references, (Json.object reference).DistinctKeys) →
      Json.DistinctKeysItems (references.map .object) := by
    intro references distinct
    induction references with
    | nil => trivial
    | cons reference rest ih =>
        exact ⟨distinct reference (by simp), ih fun other member => distinct other (by simp [member])⟩
  have keys : [str "catalog", str "namespace", str "resource", str "schemaRef", str "logicalId",
      str "version", str "values", str "objectReferences"].Nodup := by decide +kernel
  refine ⟨keys, ?_⟩
  rw [Json.distinctKeysMembers_iff]
  intro member memberMem
  simp only [List.mem_cons, List.not_mem_nil, or_false] at memberMem
  rcases memberMem with rfl | rfl | rfl | rfl | rfl | rfl | rfl | rfl
  case inr.inr.inr.inr.inr.inl => cases record.version <;> trivial
  case inr.inr.inr.inr.inr.inr.inl => exact record.values_distinct
  case inr.inr.inr.inr.inr.inr.inr => exact references _ record.references_distinct
  all_goals trivial

omit [FloatText F] in
theorem sortItems_objects (references : List (List (Str × Json F))) :
    Json.sortItems (references.map .object) = (references.map sortMapping).map .object := by
  induction references with
  | nil => rfl
  | cons reference rest ih =>
      rw [List.map_cons, Json.sortItems, ih]
      rfl

omit [FloatText F] in
/-- Sorting the keys of a record does not change its canonical form. -/
theorem sortKeys_toMapping (record : LogicalRecord F) :
    record.sortKeys.toMapping.sortKeys = record.toMapping.sortKeys := by
  have values : (Json.object (sortMapping record.values)).sortKeys =
      (Json.object record.values).sortKeys :=
    Json.sortKeys_sortKeys (.object record.values)
  have references :
      (Json.array ((record.objectReferences.map sortMapping).map .object)).sortKeys =
        (Json.array (record.objectReferences.map .object)).sortKeys := by
    rw [← sortItems_objects]
    exact Json.sortKeys_sortKeys (.array (record.objectReferences.map .object))
  simp only [toMapping, sortKeys, Json.sortKeys, Json.sortMembers] at values references ⊢
  rw [values, references]

/-- Sorting the keys of a record does not change its line. -/
theorem line_sortKeys (record : LogicalRecord F) : record.sortKeys.line = record.line := by
  have same := sortKeys_toMapping record
  have printable : record.sortKeys.toMapping.intsPrintable = record.toMapping.intsPrintable := by
    rw [← Json.intsPrintable_sortKeys, same, Json.intsPrintable_sortKeys]
  rw [line, line, jsonBytes, jsonBytes, same, printable]

/-! ## Reading a line back -/

omit [FloatText F] in
theorem mappings_toPyItems (references : List (List (Str × Json F))) :
    mappings (Json.toPyItems (references.map .object)) = some (references.map Json.toPyMembers) := by
  induction references with
  | nil => rfl
  | cons reference rest ih =>
      rw [List.map_cons, Json.toPyItems, Json.toPy, mappings, ih]
      rfl

omit [FloatText F] in
theorem freezeReferences_toPyMembers (references : List (List (Str × Json F)))
    (distinct : ∀ reference ∈ references, (Json.object reference).DistinctKeys) :
    freezeReferences (references.map Json.toPyMembers) = .ok ⟨references, distinct⟩ := by
  induction references with
  | nil => rfl
  | cons reference rest ih =>
      rw [List.map_cons, freezeReferences, immutableMapping_toPyMembers (distinct reference (by simp)),
        ih fun other member => distinct other (by simp [member])]
      rfl

omit [FloatText F] in
/-- The constructor takes the content of a record as it is. -/
theorem make_eq_ok (record : LogicalRecord F) :
    make record.catalog record.space record.resource record.schemaRef record.logicalId
      record.version (Json.toPyMembers record.values)
      (record.objectReferences.map Json.toPyMembers) = .ok record := by
  obtain ⟨spaceNe, resourceNe, schemaRefNe, logicalIdNe, known⟩ := record.valid
  have catalogNe : record.catalog ≠ [] := by
    intro empty
    rw [empty] at known
    exact absurd known (by decide +kernel)
  have notCache : record.catalog ≠ str "cache" := by
    intro cache
    rw [cache] at known
    exact absurd known (by decide +kernel)
  rw [make, if_neg catalogNe, dif_neg spaceNe, dif_neg resourceNe, dif_neg schemaRefNe,
    dif_neg logicalIdNe, if_neg notCache, dif_pos known,
    immutableMapping_toPyMembers record.values_distinct,
    freezeReferences_toPyMembers _ record.references_distinct]
  rfl

omit [FloatText F] in
/-- A member of the canonical mapping of a record. -/
theorem getMember_canonical (record : LogicalRecord F) {name : Str} {value : Json F}
    {members : List (Str × Json F)} (membersEq : record.toMapping = .object members)
    (member : (name, value) ∈ members) :
    getMember name (Json.toPyMembers (sortMapping members)) = some value.sortKeys.toPy := by
  have distinct := distinctKeys_toMapping record
  rw [membersEq] at distinct
  have inSorted : (name, value.sortKeys) ∈ sortMapping members := by
    apply (Json.perm_insertionSort_sortMembers members).mem_iff.mpr
    exact Json.mem_sortMembers member
  rw [getMember_toPyMembers,
    (Dict.lookup_eq_some_iff (distinctKeys_sortMapping distinct).1).mpr inSorted]
  rfl

omit [FloatText F] in
/-- Reading the canonical mapping of a record. -/
theorem fromMapping_canonical (record : LogicalRecord F) {members : List (Str × Json F)}
    (membersEq : record.toMapping = .object members) :
    fromMapping (Json.toPyMembers (sortMapping members)) = .ok record.sortKeys := by
  have member : ∀ (name : Str) (value : Json F), (name, value) ∈ members →
      getMember name (Json.toPyMembers (sortMapping members)) = some value.sortKeys.toPy :=
    fun _ _ inMembers => getMember_canonical record membersEq inMembers
  cases membersEq
  have version : versionOf (some (versionJson record.version : Json F).sortKeys.toPy) =
      some record.version := by
    cases record.version <;> rfl
  have references : (Json.array (record.objectReferences.map .object)).sortKeys.toPy =
      .sequence (Json.toPyItems (record.sortKeys.objectReferences.map .object)) := by
    rw [Json.sortKeys, sortItems_objects, Json.toPy]
    rfl
  have values : (Json.object record.values).sortKeys.toPy =
      .mapping (Json.toPyMembers record.sortKeys.values) := by
    rw [Json.sortKeys, Json.toPy]
    rfl
  rw [fromMapping, member (str "objectReferences")
    (.array (record.objectReferences.map .object)) (by simp), references]
  simp only [mappings_toPyItems]
  rw [member (str "values") (.object record.values) (by simp), values]
  simp only
  rw [member (str "version") (versionJson record.version) (by simp), version,
    member (str "catalog") (.str record.catalog) (by simp),
    member (str "namespace") (.str record.space) (by simp),
    member (str "resource") (.str record.resource) (by simp),
    member (str "schemaRef") (.str record.schemaRef) (by simp),
    member (str "logicalId") (.str record.logicalId) (by simp)]
  exact make_eq_ok record.sortKeys

/-- The text of a record's line. -/
theorem line_eq_ok_iff {record : LogicalRecord F} {line : Bytes} :
    record.line = .ok line ↔ Encodable record.toMapping ∧
      line = record.toMapping.sortKeys.print.flatMap encodePoint :=
  jsonBytes_eq_ok_iff

omit [FloatText F] in
/-- The canonical mapping is a non-empty object. -/
theorem sortKeys_toMapping_eq (record : LogicalRecord F) :
    ∃ key value rest, record.toMapping.sortKeys = .object ((key, value) :: rest) := by
  obtain ⟨members, membersEq⟩ : ∃ members, record.toMapping = .object members := ⟨_, rfl⟩
  rw [membersEq, Json.sortKeys]
  have nonempty : (Json.sortMembers members).insertionSort Json.keyLE ≠ [] := by
    rw [ne_eq, ← List.length_eq_zero_iff, List.length_insertionSort]
    cases membersEq
    simp [Json.sortMembers]
  obtain ⟨⟨key, value⟩, rest, sortedEq⟩ := List.exists_cons_of_ne_nil nonempty
  exact ⟨key, value, rest, by rw [sortedEq]⟩

/-- Reading the line of a record gives the record back. -/
theorem decodeLine_line {record : LogicalRecord F} {line : Bytes} {maximumRecordBytes : Nat}
    (encoded : record.line = .ok line) (short : line.length ≤ maximumRecordBytes) :
    decodeLine maximumRecordBytes line = .ok record.sortKeys := by
  obtain ⟨members, membersEq⟩ : ∃ members, record.toMapping = .object members := ⟨_, rfl⟩
  have read : fromMapping (Json.toPyMembers (sortMapping members)) = .ok record.sortKeys :=
    fromMapping_canonical record membersEq
  have object : record.toMapping.sortKeys.toPy =
      .mapping (Json.toPyMembers (sortMapping members)) := by
    rw [membersEq, Json.sortKeys, Json.toPy]
    rfl
  rw [decodeLine, if_neg (not_lt.mpr short), loadsBytes_jsonBytes encoded (distinctKeys_toMapping record), object]
  simp only [read, bind, Except.bind, line_sortKeys, encoded, ne_eq, not_true_eq_false, if_false]
  rfl

/-- A line holds no newline. -/
theorem newline_notMem_line {record : LogicalRecord F} {line : Bytes}
    (encoded : record.line = .ok line) : (10 : UInt8) ∉ line :=
  fun member => absurd (le_of_mem_jsonBytes encoded member) (by decide)

theorem line_ne_nil {record : LogicalRecord F} {line : Bytes} (encoded : record.line = .ok line) :
    line ≠ [] := by
  obtain ⟨-, rfl⟩ := line_eq_ok_iff.mp encoded
  obtain ⟨key, value, rest, objectEq⟩ := sortKeys_toMapping_eq record
  rw [objectEq, Json.print]
  exact List.cons_ne_nil _ _

/-- What a line decodes to has that line. -/
theorem line_of_decodeLine {record : LogicalRecord F} {line : Bytes} {maximumRecordBytes : Nat}
    (decoded : decodeLine maximumRecordBytes line = .ok record) : record.line = .ok line := by
  unfold decodeLine at decoded
  split at decoded
  · cases decoded
  · split at decoded
    · cases decoded
    · cases decoded
    next items _ =>
      cases readEq : (fromMapping items : Except Exc (LogicalRecord F)) with
      | error error => simp [readEq, bind, Except.bind] at decoded
      | ok found =>
          cases lineEq : found.line with
          | error error => simp [readEq, lineEq, bind, Except.bind] at decoded
          | ok encoded =>
              simp only [readEq, lineEq, bind, Except.bind] at decoded
              split at decoded
              · cases decoded
              next same =>
                cases decoded
                rw [lineEq, not_not.mp same]
    · cases decoded

end LogicalRecord

end DataLifecycle.Portability
