import DataLifecycle.Portability.Coordinator

/-!
# What a partition holds

The records of a partition as a function of its bytes, independent of how the
bytes arrive, and what it means that bytes are those a manifest describes.
-/

namespace DataLifecycle.Portability

open Python

variable {F : Type} [FloatText F] {maximumRecordBytes : Nat}

/-- The records of the given lines; empty lines are skipped. -/
def decodeLines (maximumRecordBytes : Nat) : List Bytes → Option (List (LogicalRecord F))
  | [] => some []
  | line :: rest =>
      if line = [] then decodeLines maximumRecordBytes rest
      else
        match LogicalRecord.decodeLine maximumRecordBytes line with
        | .ok record => (decodeLines maximumRecordBytes rest).map (record :: ·)
        | .error _ => none

/-- Strictly ordered by identity. -/
def Ordered (records : List (LogicalRecord F)) : Prop :=
  records.Pairwise fun first second => first.logicalId < second.logicalId

/-- The records of a partition, if its bytes are well-formed. -/
def decodePartition (maximumRecordBytes : Nat) (content : Bytes) :
    Option (List (LogicalRecord F)) :=
  if (scanLines [] content).2 = [] then decodeLines maximumRecordBytes (scanLines [] content).1
  else none

/-- The bytes are the ones that the manifest describes, and hold the given records. -/
structure Verifies (maximumRecordBytes : Nat) (manifest : PartitionManifest) (content : Bytes)
    (records : List (LogicalRecord F)) : Prop where
  decoded : decodePartition maximumRecordBytes content = some records
  ordered : Ordered records
  count : records.length = manifest.count
  bytes : content.length = manifest.bytes
  minimum : records.head?.map (·.logicalId) = manifest.minimumLogicalId
  maximum : records.getLast?.map (·.logicalId) = manifest.maximumLogicalId
  sha256 : prefixedDigest content = manifest.sha256

/-! ## Lines -/

theorem decodeLines_append (first second : List Bytes) :
    decodeLines (F := F) maximumRecordBytes (first ++ second) =
      (decodeLines maximumRecordBytes first).bind fun records =>
        (decodeLines maximumRecordBytes second).map (records ++ ·) := by
  induction first with
  | nil =>
      simp only [List.nil_append, decodeLines, Option.bind_some]
      cases decodeLines (F := F) maximumRecordBytes second <;> rfl
  | cons line rest ih =>
      rw [List.cons_append, decodeLines, decodeLines, ih]
      split
      · rfl
      · split
        next record _ =>
          cases decodeLines (F := F) maximumRecordBytes rest with
          | none => rfl
          | some records =>
              simp only [Option.bind_some, Option.map_some, Option.map_map]
              rfl
        next => rfl

/-- The records of a prefix of the lines. -/
theorem decodeLines_of_append {first second : List Bytes} {all : List (LogicalRecord F)}
    (decoded : decodeLines maximumRecordBytes (first ++ second) = some all) :
    ∃ records rest, decodeLines maximumRecordBytes first = some records ∧
      decodeLines maximumRecordBytes second = some rest ∧ all = records ++ rest := by
  rw [decodeLines_append] at decoded
  obtain ⟨records, recordsEq, restEq⟩ := Option.bind_eq_some_iff.mp decoded
  obtain ⟨rest, isRest, rfl⟩ := Option.map_eq_some_iff.mp restEq
  exact ⟨records, rest, recordsEq, isRest, rfl⟩

/-- A decoded line is not too long. -/
theorem length_le_of_decodeLines {lines : List Bytes} {records : List (LogicalRecord F)}
    (decoded : decodeLines maximumRecordBytes lines = some records) :
    ∀ line ∈ lines, line.length ≤ maximumRecordBytes := by
  induction lines generalizing records with
  | nil =>
      intro line member
      cases member
  | cons first rest ih =>
      rw [decodeLines] at decoded
      split at decoded
      next empty =>
        intro line member
        rcases List.mem_cons.mp member with rfl | later
        · rw [empty]
          exact Nat.zero_le _
        · exact ih decoded line later
      next =>
        split at decoded
        next record recordEq =>
          obtain ⟨records, recordsEq, -⟩ := Option.map_eq_some_iff.mp decoded
          intro line member
          rcases List.mem_cons.mp member with rfl | later
          · by_contra long
            rw [LogicalRecord.decodeLine, if_pos (not_le.mp long)] at recordEq
            cases recordEq
          · exact ih recordsEq line later
        next => cases decoded

/-- An unterminated rest that is terminated later is the start of a line. -/
theorem exists_line_of_scanLines {pending bytes : Bytes} (complete : (scanLines pending bytes).2 = [])
    (nonempty : pending ≠ []) : ∃ line ∈ (scanLines pending bytes).1, pending <+: line := by
  induction bytes generalizing pending with
  | nil => exact absurd complete nonempty
  | cons byte rest ih =>
      rw [scanLines] at complete ⊢
      split
      · exact ⟨pending, List.mem_cons_self, List.prefix_refl pending⟩
      next other =>
        rw [if_neg other] at complete
        obtain ⟨line, member, starts⟩ := ih complete (by simp)
        exact ⟨line, member, (List.prefix_append pending [byte]).trans starts⟩

/-! ## Order -/

omit [FloatText F] in
/-- The running minimum is the identity of the first record. -/
theorem orText_head? {records : List (LogicalRecord F)} (record : LogicalRecord F) :
    some (orText (records.head?.map (·.logicalId)) record.logicalId) =
      (records ++ [record]).head?.map (·.logicalId) := by
  cases records with
  | nil => rfl
  | cons first rest => exact congrArg some (if_neg first.valid.logicalId_ne)

omit [FloatText F] in
theorem Ordered.append {records : List (LogicalRecord F)} {record : LogicalRecord F}
    (ordered : Ordered records)
    (after : ¬ NotAfter record.logicalId (records.getLast?.map (·.logicalId))) :
    Ordered (records ++ [record]) := by
  apply List.pairwise_append.mpr
  refine ⟨ordered, List.pairwise_singleton _ _, ?_⟩
  intro earlier earlierMem last lastMem
  rw [List.mem_singleton.mp lastMem]
  have nonempty : records ≠ [] := List.ne_nil_of_mem earlierMem
  have behind : (records.getLast nonempty).logicalId < record.logicalId := by
    by_contra notBehind
    apply after
    rw [List.getLast?_eq_some_getLast nonempty]
    exact ⟨_, rfl, not_lt.mp notBehind⟩
  have split := List.dropLast_append_getLast nonempty
  rw [← split] at earlierMem ordered
  rcases List.mem_append.mp earlierMem with before | isLast
  · exact lt_trans ((List.pairwise_append.mp ordered).2.2 earlier before _ (by simp)) behind
  · rw [List.mem_singleton.mp isLast]
    exact behind

omit [FloatText F] in
theorem Ordered.after {records rest : List (LogicalRecord F)} {record : LogicalRecord F}
    (ordered : Ordered (records ++ record :: rest)) :
    ¬ NotAfter record.logicalId (records.getLast?.map (·.logicalId)) := by
  rintro ⟨earlier, isEarlier, notAfter⟩
  obtain ⟨last, lastEq, rfl⟩ := Option.map_eq_some_iff.mp isEarlier
  have member : last ∈ records := List.mem_of_getLast? lastEq
  have behind := (List.pairwise_append.mp ordered).2.2 last member record List.mem_cons_self
  exact absurd notAfter (not_le.mpr behind)

end DataLifecycle.Portability
