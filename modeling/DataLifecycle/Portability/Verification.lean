import DataLifecycle.Portability.Chunking
import DataLifecycle.Portability.RoundTrip
import DataLifecycle.Raises

/-!
# What the verification pass accepts and raises

The verification pass looks at the lines of a partition one by one and stops at the first one
that is not the canonical line of a record behind the others.  This tells which bytes it
accepts, and which exceptions leave it.
-/

namespace DataLifecycle.Portability

open Python Interaction Importing

variable {F : Type} [FloatText F] {maximumRecordBytes : Nat}

/-- The lines that are not empty are the canonical lines of the records, none too long, and the
records are strictly ordered. -/
structure CanonicalLines (maximumRecordBytes : Nat) (records : List (LogicalRecord F))
    (lines : List Bytes) : Prop where
  each : List.Forall₂ (fun record line => record.line = .ok line ∧ line.length ≤ maximumRecordBytes)
    records (lines.filter (· ≠ []))
  ordered : Ordered records

/-- The fault that the pass meets first, behind records that it has already taken: a line that
does not decode. -/
def Faulty (maximumRecordBytes : Nat) (taken : List (LogicalRecord F)) (lines : List Bytes)
    (error : Exc) : Prop :=
  ∃ earlier line later more, lines = earlier ++ line :: later ∧ line ≠ [] ∧
    decodeLines maximumRecordBytes earlier = some more ∧ Ordered (taken ++ more) ∧
    (LogicalRecord.decodeLine maximumRecordBytes line : Except Exc (LogicalRecord F)) = .error error

/-! ## Lines -/

theorem decodeLines_blank (rest : List Bytes) :
    decodeLines (F := F) maximumRecordBytes ([] :: rest) = decodeLines maximumRecordBytes rest := by
  rw [decodeLines, if_pos rfl]

theorem decodeLines_error {line : Bytes} {error : Exc} (rest : List Bytes) (nonempty : line ≠ [])
    (failed : (LogicalRecord.decodeLine maximumRecordBytes line : Except Exc (LogicalRecord F)) =
      .error error) :
    decodeLines (F := F) maximumRecordBytes (line :: rest) = none := by
  rw [decodeLines, if_neg nonempty, failed]

theorem decodeLines_ok {line : Bytes} {record : LogicalRecord F} (rest : List Bytes)
    (nonempty : line ≠ [])
    (decoded : LogicalRecord.decodeLine maximumRecordBytes line = .ok record) :
    decodeLines maximumRecordBytes (line :: rest) =
      (decodeLines maximumRecordBytes rest).map (record :: ·) := by
  rw [decodeLines, if_neg nonempty, decoded]

theorem not_faulty_nil {taken : List (LogicalRecord F)} {error : Exc} :
    ¬ Faulty maximumRecordBytes taken [] error := by
  rintro ⟨earlier, line, later, more, split, -⟩
  exact absurd split (by simp)

theorem faulty_blank_iff {taken : List (LogicalRecord F)} {rest : List Bytes} {error : Exc} :
    Faulty maximumRecordBytes taken ([] :: rest) error ↔
      Faulty maximumRecordBytes taken rest error := by
  constructor
  · rintro ⟨earlier, line, later, more, split, nonempty, decoded, others⟩
    cases earlier with
    | nil => exact absurd (List.cons.inj split).1.symm nonempty
    | cons first earlier =>
        obtain ⟨rfl, rfl⟩ := List.cons.inj split
        rw [decodeLines_blank] at decoded
        exact ⟨earlier, line, later, more, rfl, nonempty, decoded, others⟩
  · rintro ⟨earlier, line, later, more, rfl, nonempty, decoded, others⟩
    refine ⟨[] :: earlier, line, later, more, rfl, nonempty, ?_, others⟩
    rw [decodeLines_blank]
    exact decoded

theorem faulty_error_iff {taken : List (LogicalRecord F)} {line : Bytes} {rest : List Bytes}
    {found error : Exc} (ordered : Ordered taken) (nonempty : line ≠ [])
    (failed : (LogicalRecord.decodeLine maximumRecordBytes line : Except Exc (LogicalRecord F)) =
      .error found) :
    Faulty maximumRecordBytes taken (line :: rest) error ↔ error = found := by
  constructor
  · rintro ⟨earlier, faulty, later, more, split, -, decoded, -, failing⟩
    cases earlier with
    | nil =>
        obtain ⟨rfl, rfl⟩ := List.cons.inj split
        rw [failed] at failing
        cases failing
        rfl
    | cons first earlier =>
        obtain ⟨rfl, rfl⟩ := List.cons.inj split
        rw [decodeLines_error _ nonempty failed] at decoded
        cases decoded
  · rintro rfl
    refine ⟨[], line, rest, [], rfl, nonempty, rfl, ?_, failed⟩
    rw [List.append_nil]
    exact ordered

theorem faulty_ok_iff {taken : List (LogicalRecord F)} {line : Bytes} {rest : List Bytes}
    {record : LogicalRecord F} {error : Exc} (nonempty : line ≠ [])
    (decodes : LogicalRecord.decodeLine maximumRecordBytes line = .ok record) :
    Faulty maximumRecordBytes taken (line :: rest) error ↔
      Faulty maximumRecordBytes (taken ++ [record]) rest error := by
  constructor
  · rintro ⟨earlier, faulty, later, more, split, isLine, decoded, ordered, failing⟩
    cases earlier with
    | nil =>
        obtain ⟨rfl, rfl⟩ := List.cons.inj split
        rw [decodes] at failing
        cases failing
    | cons first earlier =>
        obtain ⟨rfl, rfl⟩ := List.cons.inj split
        rw [decodeLines_ok _ nonempty decodes] at decoded
        obtain ⟨others, found, rfl⟩ := Option.map_eq_some_iff.mp decoded
        refine ⟨earlier, faulty, later, others, rfl, isLine, found, ?_, failing⟩
        rw [List.append_assoc, List.singleton_append]
        exact ordered
  · rintro ⟨earlier, faulty, later, more, rfl, isLine, decoded, ordered, failing⟩
    refine ⟨line :: earlier, faulty, later, record :: more, rfl, isLine, ?_, ?_, failing⟩
    · rw [decodeLines_ok _ nonempty decodes, decoded]
      rfl
    · rw [List.append_assoc, List.singleton_append] at ordered
      exact ordered

omit [FloatText F] in
theorem Ordered.of_append {records more : List (LogicalRecord F)}
    (ordered : Ordered (records ++ more)) : Ordered records :=
  (List.pairwise_append.mp ordered).1

theorem not_faulty_of_not_ordered {taken : List (LogicalRecord F)} {lines : List Bytes} {error : Exc}
    (unordered : ¬ Ordered taken) : ¬ Faulty maximumRecordBytes taken lines error := by
  rintro ⟨earlier, line, later, more, -, -, -, ordered, -⟩
  exact unordered ordered.of_append

/-! ## The pass -/

section Pass

variable {importer : Importer} {options : ImportOptions}
  {react : Effects F → (hook : ImportHook F) → hook.Response}

/-- The running values after the records. -/
structure Taken (records : List (LogicalRecord F)) (reading : Reading F) : Prop where
  count : reading.count = records.length
  minimum : reading.minimum = records.head?.map (·.logicalId)
  maximum : reading.maximum = records.getLast?.map (·.logicalId)
  previous : reading.previous = records.getLast?.map (·.logicalId)

omit [FloatText F] in
theorem Taken.take {records : List (LogicalRecord F)} {reading : Reading F}
    (taken : Taken records reading) (record : LogicalRecord F) :
    Taken (records ++ [record]) (reading.take false record) := by
  constructor
  · simp [Reading.take, taken.count]
  · rw [← orText_head?, ← taken.minimum]
    rfl
  · simp [Reading.take]
  · simp [Reading.take]

/-- Consuming a line in the verification pass. -/
theorem seen_consume (reading : Reading F) (line : Bytes) (served : Served F) :
    seen react (consume importer options false reading line) served =
      match LogicalRecord.decodeLine importer.maximumRecordBytes line with
      | .error error => ⟨.error error.cls, (), served⟩
      | .ok record =>
          if NotAfter record.logicalId reading.previous then ⟨.error .integrityError, (), served⟩
          else ⟨.ok (reading.take false record), (), served⟩ := by
  rw [consume, seen_bind]
  cases LogicalRecord.decodeLine (F := F) importer.maximumRecordBytes line with
  | error error => rfl
  | ok record =>
      change (seen react (do
        Script.refuse (NotAfter record.logicalId reading.previous) _
        transferReferences importer false record
        flushFull options false (reading.take false record)) served) = _
      rw [seen_bind, seen, Script.observe_refuse]
      dsimp only
      split
      · rfl
      · rfl

/-- How the pass goes over the lines: it takes all of them, or stops at the first that does not
decode, or at one that is out of order. -/
inductive Outcome (maximumRecordBytes : Nat) (taken : List (LogicalRecord F)) (lines : List Bytes)
    (served : Served F) : Ending ErrorClass (Reading F) Unit (Served F) → Prop
  | done (more : List (LogicalRecord F)) (reading : Reading F)
      (decoded : decodeLines maximumRecordBytes lines = some more)
      (ordered : Ordered (taken ++ more)) (values : Taken (taken ++ more) reading)
      (faultless : ∀ error, ¬ Faulty maximumRecordBytes taken lines error) :
      Outcome maximumRecordBytes taken lines served ⟨.ok reading, (), served⟩
  | fault (error : Exc) (undecoded : decodeLines (F := F) maximumRecordBytes lines = none)
      (first : ∀ other, Faulty maximumRecordBytes taken lines other ↔ other = error) :
      Outcome maximumRecordBytes taken lines served ⟨.error error.cls, (), served⟩
  | disorder
      (unordered : ∀ more, decodeLines maximumRecordBytes lines = some more →
        ¬ Ordered (taken ++ more))
      (faultless : ∀ error, ¬ Faulty maximumRecordBytes taken lines error) :
      Outcome maximumRecordBytes taken lines served ⟨.error .integrityError, (), served⟩

theorem Outcome.blank {taken : List (LogicalRecord F)} {rest : List Bytes} {served : Served F}
    {ending : Ending ErrorClass (Reading F) Unit (Served F)}
    (outcome : Outcome maximumRecordBytes taken rest served ending) :
    Outcome maximumRecordBytes taken ([] :: rest) served ending := by
  have lines : decodeLines (F := F) maximumRecordBytes ([] :: rest) =
      decodeLines maximumRecordBytes rest := decodeLines_blank rest
  cases outcome with
  | done more reading decoded ordered values faultless =>
      refine .done more reading (lines.trans decoded) ordered values fun error faulty => ?_
      exact faultless error (faulty_blank_iff.mp faulty)
  | fault error undecoded first =>
      exact .fault error (lines.trans undecoded) fun other => faulty_blank_iff.trans (first other)
  | disorder unordered faultless =>
      refine .disorder (fun more decoded => ?_) fun error faulty => ?_
      · exact unordered more (lines.symm.trans decoded)
      · exact faultless error (faulty_blank_iff.mp faulty)

theorem Outcome.record {taken : List (LogicalRecord F)} {line : Bytes} {rest : List Bytes}
    {record : LogicalRecord F} {served : Served F}
    {ending : Ending ErrorClass (Reading F) Unit (Served F)} (nonempty : line ≠ [])
    (decodes : LogicalRecord.decodeLine maximumRecordBytes line = .ok record)
    (outcome : Outcome maximumRecordBytes (taken ++ [record]) rest served ending) :
    Outcome maximumRecordBytes taken (line :: rest) served ending := by
  have lines := decodeLines_ok rest nonempty decodes
  cases outcome with
  | done more reading decoded ordered values faultless =>
      rw [List.append_assoc, List.singleton_append] at ordered values
      refine .done (record :: more) reading ?_ ordered values fun error faulty => ?_
      · rw [lines, decoded]
        rfl
      · exact faultless error ((faulty_ok_iff nonempty decodes).mp faulty)
  | fault error undecoded first =>
      refine .fault error ?_ fun other => (faulty_ok_iff nonempty decodes).trans (first other)
      rw [lines, undecoded]
      rfl
  | disorder unordered faultless =>
      refine .disorder (fun all decoded ordered => ?_) fun error faulty => ?_
      · rw [lines] at decoded
        obtain ⟨more, found, rfl⟩ := Option.map_eq_some_iff.mp decoded
        refine unordered more found ?_
        rw [List.append_assoc, List.singleton_append]
        exact ordered
      · exact faultless error ((faulty_ok_iff nonempty decodes).mp faulty)

theorem seen_consumeLines (lines : List Bytes) {taken : List (LogicalRecord F)} {reading : Reading F}
    (values : Taken taken reading) (ordered : Ordered taken) (served : Served F) :
    Outcome importer.maximumRecordBytes taken lines served
      (seen react (consumeLines importer options false reading lines) served) := by
  induction lines generalizing taken reading with
  | nil =>
      refine .done [] reading rfl ?_ ?_ fun _ => not_faulty_nil
      · rw [List.append_nil]
        exact ordered
      · rw [List.append_nil]
        exact values
  | cons line rest ih =>
      rw [consumeLines, seen_bind, consumeLine]
      by_cases empty : line = []
      · subst empty
        exact (ih values ordered).blank
      · rw [if_neg (mt List.isEmpty_iff.mp empty), seen_consume]
        cases decodes : LogicalRecord.decodeLine (F := F) importer.maximumRecordBytes line with
        | error error =>
            exact .fault error (decodeLines_error rest empty decodes) fun other =>
              faulty_error_iff ordered empty decodes
        | ok record =>
            dsimp only
            split
            next behind =>
              rw [values.previous] at behind
              refine .disorder (fun all decoded isOrdered => ?_) fun error faulty => ?_
              · rw [decodeLines_ok rest empty decodes] at decoded
                obtain ⟨more, -, rfl⟩ := Option.map_eq_some_iff.mp decoded
                exact isOrdered.after behind
              · rw [faulty_ok_iff empty decodes] at faulty
                exact not_faulty_of_not_ordered (fun isOrdered => isOrdered.after behind) faulty
            next after =>
              have behind := after
              rw [values.previous] at behind
              exact .record empty decodes (ih (values.take record) (ordered.append behind))

/-- What is left to do when all lines have been taken. -/
theorem seen_conclude (manifest : PartitionManifest) (reading : Reading F) (served : Served F) :
    seen react (conclude options false manifest reading) served =
      if reading.buffer ≠ [] ∨ reading.matches manifest = false then
        ⟨.error .integrityError, (), served⟩
      else ⟨.ok ⟨manifest.partitionId, reading.count, reading.byteCount,
        prefixedDigest reading.content⟩, (), served⟩ := by
  have made : PartitionImportResult.make manifest.partitionId reading.count reading.byteCount
      (prefixedDigest reading.content) = .ok ⟨manifest.partitionId, reading.count,
        reading.byteCount, prefixedDigest reading.content⟩ := by
    rw [PartitionImportResult.make, if_neg manifest.valid.partitionId_ne, requireSha256,
      if_pos (isSha256_prefixedDigest _)]
    rfl
  rw [conclude, made, seen_bind, seen, Script.observe_refuse]
  by_cases unterminated : reading.buffer ≠ []
  · rw [if_pos unterminated, if_pos (.inl unterminated)]
    rfl
  · rw [if_neg unterminated, Ending.andThen_ok]
    change seen react (do
      Script.refuse (reading.matches manifest = false) _
      Script.lift _) served = _
    rw [seen_bind, seen, Script.observe_refuse]
    by_cases different : reading.matches manifest = false
    · rw [if_pos different, if_pos (.inr different)]
      rfl
    · rw [if_neg different, if_neg (not_or.mpr ⟨unterminated, different⟩)]
      rfl

/-- The running values match the manifest exactly when the bytes are the ones it describes. -/
theorem matches_iff_verifies {manifest : PartitionManifest} {records : List (LogicalRecord F)}
    {reading : Reading F} {content : Bytes} (values : Taken records reading)
    (decoded : decodeLines importer.maximumRecordBytes (scanLines [] content).1 = some records)
    (ordered : Ordered records) (complete : (scanLines [] content).2 = []) :
    (reading.placed content content.length []).matches manifest = true ↔
      ∃ found : List (LogicalRecord F),
        Verifies importer.maximumRecordBytes manifest content found := by
  have partition : decodePartition importer.maximumRecordBytes content = some records := by
    rw [decodePartition, if_pos complete, decoded]
  simp only [Reading.matches, Reading.placed, Bool.and_eq_true, beq_iff_eq, values.count,
    values.minimum, values.maximum]
  constructor
  · rintro ⟨⟨⟨⟨count, bytes⟩, minimum⟩, maximum⟩, sha256⟩
    exact ⟨records, partition, ordered, count, bytes, minimum, maximum, sha256⟩
  · rintro ⟨found, verifies⟩
    have same : records = found := Option.some.inj (partition.symm.trans verifies.decoded)
    subst same
    exact ⟨⟨⟨⟨verifies.count, verifies.bytes⟩, verifies.minimum⟩, verifies.maximum⟩, verifies.sha256⟩

/-- How the verification pass ends: it accepts what the manifest describes, it finds that the
bytes are not that, or it raises what the first faulty line raises. -/
inductive PassEnds (F : Type) [FloatText F] (importer : Importer) (manifest : PartitionManifest)
    (content : Bytes) : Except ErrorClass PartitionImportResult → Prop
  | accepts (result : PartitionImportResult)
      (verifies : ∃ records : List (LogicalRecord F),
        Verifies importer.maximumRecordBytes manifest content records)
      (faultless : ∀ error,
        ¬ Faulty (F := F) importer.maximumRecordBytes [] (scanLines [] content).1 error) :
      PassEnds F importer manifest content (.ok result)
  | refuses
      (unverified : ¬ ∃ records : List (LogicalRecord F),
        Verifies importer.maximumRecordBytes manifest content records)
      (faultless : ∀ error,
        ¬ Faulty (F := F) importer.maximumRecordBytes [] (scanLines [] content).1 error) :
      PassEnds F importer manifest content (.error .integrityError)
  | raises (error : Exc)
      (unverified : ¬ ∃ records : List (LogicalRecord F),
        Verifies importer.maximumRecordBytes manifest content records)
      (first : ∀ other,
        Faulty (F := F) importer.maximumRecordBytes [] (scanLines [] content).1 other ↔
          other = error) :
      PassEnds F importer manifest content (.error error.cls)

theorem not_verifies_of_undecoded {manifest : PartitionManifest} {content : Bytes}
    (undecoded : ∀ records : List (LogicalRecord F),
      decodeLines maximumRecordBytes (scanLines [] content).1 = some records → ¬ Ordered records) :
    ¬ ∃ records : List (LogicalRecord F), Verifies maximumRecordBytes manifest content records := by
  rintro ⟨records, verifies⟩
  have decoded := verifies.decoded
  rw [decodePartition] at decoded
  split at decoded
  · exact undecoded records decoded verifies.ordered
  · cases decoded

theorem not_verifies_of_unterminated {manifest : PartitionManifest} {content : Bytes}
    (unterminated : (scanLines [] content).2 ≠ []) :
    ¬ ∃ records : List (LogicalRecord F), Verifies maximumRecordBytes manifest content records := by
  rintro ⟨records, verifies⟩
  have decoded := verifies.decoded
  rw [decodePartition, if_neg unterminated] at decoded
  cases decoded

theorem pass_ends (importer : Importer) (options : ImportOptions) (manifest : PartitionManifest)
    (react : Effects F → (hook : ImportHook F) → hook.Response) (chunks : List Bytes) :
    PassEnds F importer manifest chunks.flatten
      (pass importer options false manifest react chunks).outcome := by
  have outcome : Outcome importer.maximumRecordBytes [] (scanLines [] chunks.flatten).1 ⟨[], []⟩
      (seen react (consumeLines importer options false {}
        (scanLines ({} : Reading F).buffer chunks.flatten).1) ⟨[], []⟩) :=
    seen_consumeLines _ ⟨rfl, rfl, rfl, rfl⟩ List.Pairwise.nil _
  rw [pass_eq, readWhole]
  generalize seen react (consumeLines importer options false {}
    (scanLines ({} : Reading F).buffer chunks.flatten).1) ⟨[], []⟩ = ending at outcome ⊢
  cases outcome with
  | fault error undecoded first =>
      refine .raises error (not_verifies_of_undecoded fun records decoded => ?_) first
      rw [undecoded] at decoded
      cases decoded
  | disorder unordered faultless =>
      exact .refuses (not_verifies_of_undecoded unordered) faultless
  | done records reading decoded ordered values faultless =>
      rw [List.nil_append] at ordered values
      rw [Ending.andThen_ok]
      split
      next long =>
        refine .refuses (not_verifies_of_unterminated fun empty => ?_) faultless
        change importer.maximumRecordBytes < (scanLines [] chunks.flatten).2.length at long
        rw [empty] at long
        exact absurd long (Nat.not_lt_zero _)
      next =>
        rw [Ending.andThen_ok, seen_conclude]
        have placed : reading.placed (({} : Reading F).content ++ chunks.flatten)
            (({} : Reading F).byteCount + chunks.flatten.length)
            (scanLines ({} : Reading F).buffer chunks.flatten).2 =
            reading.placed chunks.flatten chunks.flatten.length (scanLines [] chunks.flatten).2 := by
          rw [List.nil_append, Nat.zero_add]
        rw [placed]
        by_cases complete : (scanLines [] chunks.flatten).2 = []
        · have verifies : _ ↔ ∃ found : List (LogicalRecord F), Verifies importer.maximumRecordBytes
              manifest chunks.flatten found := matches_iff_verifies values decoded ordered complete
          rw [complete]
          split
          next different =>
            refine .refuses (fun found => ?_) faultless
            rcases different with unterminated | different
            · exact unterminated rfl
            · rw [verifies.mpr found] at different
              cases different
          next same =>
            refine .accepts _ (verifies.mp ?_) faultless
            exact Bool.eq_true_of_not_eq_false (not_or.mp same).2
        · rw [if_pos (.inl complete)]
          exact .refuses (not_verifies_of_unterminated complete) faultless

end Pass

/-! ## What is accepted -/

theorem decodeLines_filter (lines : List Bytes) :
    decodeLines (F := F) maximumRecordBytes (lines.filter (· ≠ [])) =
      decodeLines maximumRecordBytes lines := by
  induction lines with
  | nil => rfl
  | cons line rest ih =>
      by_cases empty : line = []
      · subst empty
        rw [List.filter_cons_of_neg (by simp), ih, decodeLines_blank]
      · rw [List.filter_cons_of_pos (by simpa using empty), decodeLines, decodeLines, ih]

theorem forall₂_of_decodeLines {lines : List Bytes} {records : List (LogicalRecord F)}
    (decoded : decodeLines maximumRecordBytes lines = some records) :
    List.Forall₂ (fun record line => record.line = .ok line ∧ line.length ≤ maximumRecordBytes)
      records (lines.filter (· ≠ [])) := by
  have short := length_le_of_decodeLines decoded
  induction lines generalizing records with
  | nil =>
      cases decoded
      exact .nil
  | cons line rest ih =>
      rw [List.forall_mem_cons] at short
      by_cases empty : line = []
      · subst empty
        rw [decodeLines_blank] at decoded
        rw [List.filter_cons_of_neg (by simp)]
        exact ih decoded short.2
      · rw [List.filter_cons_of_pos (by simpa using empty)]
        cases decodes : LogicalRecord.decodeLine (F := F) maximumRecordBytes line with
        | error error =>
            rw [decodeLines_error rest empty decodes] at decoded
            cases decoded
        | ok record =>
            rw [decodeLines_ok rest empty decodes] at decoded
            obtain ⟨others, found, rfl⟩ := Option.map_eq_some_iff.mp decoded
            exact .cons ⟨LogicalRecord.line_of_decodeLine decodes, short.1⟩ (ih found short.2)

namespace CanonicalLines

variable {records : List (LogicalRecord F)} {lines : List Bytes}

theorem encoded (canonical : CanonicalLines maximumRecordBytes records lines) :
    List.Forall₂ (fun record line => record.line = .ok line) records (lines.filter (· ≠ [])) :=
  canonical.each.imp fun _ _ both => both.1

/-- The canonical lines decode to the records, with the keys of their mappings in order. -/
theorem decoded (canonical : CanonicalLines maximumRecordBytes records lines) :
    decodeLines maximumRecordBytes lines = some (records.map LogicalRecord.sortKeys) := by
  have bounded : List.Forall₂ (fun record line =>
      (∀ found, record.line = .ok found → found.length ≤ maximumRecordBytes) ∧
        record.line = .ok line) records (lines.filter (· ≠ [])) := by
    refine canonical.each.imp fun record line ⟨encodes, short⟩ => ⟨fun found encodesTo => ?_, encodes⟩
    rw [encodes] at encodesTo
    cases encodesTo
    exact short
  rw [← decodeLines_filter]
  exact decodeLines_of_lines canonical.encoded ((List.forall₂_and_left _ _).mp bounded).1

theorem sorted (canonical : CanonicalLines maximumRecordBytes records lines) :
    Ordered (records.map LogicalRecord.sortKeys) :=
  List.pairwise_map.mpr canonical.ordered

theorem newline_notMem (canonical : CanonicalLines maximumRecordBytes records lines) :
    ∀ line ∈ lines, (10 : UInt8) ∉ line := by
  intro line member
  by_cases empty : line = []
  · rw [empty]
    exact List.not_mem_nil
  · exact newline_notMem_of_lines canonical.encoded line
      (List.mem_filter.mpr ⟨member, by simpa using empty⟩)

end CanonicalLines

/-- The bytes hold the records as the manifest says, with empty lines anywhere between them. -/
structure HoldsRecords (maximumRecordBytes : Nat) (manifest : PartitionManifest) (content : Bytes)
    (records : List (LogicalRecord F)) : Prop where
  lines : ∃ lines : List Bytes, content = lines.flatMap (· ++ [10]) ∧
    CanonicalLines maximumRecordBytes records lines
  count : manifest.count = records.length
  bytes : manifest.bytes = content.length
  minimum : manifest.minimumLogicalId = records.head?.map (·.logicalId)
  maximum : manifest.maximumLogicalId = records.getLast?.map (·.logicalId)
  sha256 : manifest.sha256 = prefixedDigest content

/-- Bytes that verify hold records. -/
theorem Verifies.holdsRecords {manifest : PartitionManifest} {content : Bytes}
    {records : List (LogicalRecord F)}
    (verifies : Verifies maximumRecordBytes manifest content records) :
    HoldsRecords maximumRecordBytes manifest content records := by
  have decoded := verifies.decoded
  rw [decodePartition] at decoded
  split at decoded
  next complete =>
    have joined := flatMap_scanLines [] content
    rw [complete, List.append_nil, List.nil_append] at joined
    exact {
      lines := ⟨(scanLines [] content).1, joined.symm, forall₂_of_decodeLines decoded,
        verifies.ordered⟩
      count := verifies.count.symm
      bytes := verifies.bytes.symm
      minimum := verifies.minimum.symm
      maximum := verifies.maximum.symm
      sha256 := verifies.sha256.symm }
  next => cases decoded

/-- Bytes that hold records verify. -/
theorem HoldsRecords.verifies {manifest : PartitionManifest} {content : Bytes}
    {records : List (LogicalRecord F)}
    (holds : HoldsRecords maximumRecordBytes manifest content records) :
    Verifies maximumRecordBytes manifest content (records.map LogicalRecord.sortKeys) := by
  obtain ⟨lines, contentEq, canonical⟩ := holds.lines
  have scanned : scanLines [] content = (lines, []) := by
    rw [contentEq]
    exact scanLines_flatMap canonical.newline_notMem
  constructor
  · rw [decodePartition, scanned, if_pos rfl]
    exact canonical.decoded
  · exact canonical.sorted
  · rw [List.length_map, holds.count]
  · exact holds.bytes.symm
  · rw [List.head?_map, Option.map_map, holds.minimum]
    rfl
  · rw [List.getLast?_map, Option.map_map, holds.maximum]
    rfl
  · exact holds.sha256.symm

/-- The verification pass accepts exactly the bytes that verify. -/
theorem accepts_iff_verifies (importer : Importer) (options : ImportOptions)
    (manifest : PartitionManifest) (react : Effects F → (hook : ImportHook F) → hook.Response)
    (chunks : List Bytes) :
    (∃ result, (pass importer options false manifest react chunks).outcome = .ok result) ↔
      ∃ records : List (LogicalRecord F),
        Verifies importer.maximumRecordBytes manifest chunks.flatten records := by
  have ends := pass_ends importer options manifest react chunks
  generalize (pass importer options false manifest react chunks).outcome = outcome at ends
  cases ends with
  | accepts result verifies _ => exact ⟨fun _ => verifies, fun _ => ⟨result, rfl⟩⟩
  | refuses unverified _ =>
      refine ⟨?_, fun verifies => absurd verifies unverified⟩
      rintro ⟨result, ⟨⟩⟩
  | raises error unverified _ =>
      refine ⟨?_, fun verifies => absurd verifies unverified⟩
      rintro ⟨result, ⟨⟩⟩

/-- The lines that are not empty. -/
def nonemptyLines (content : Bytes) : List Bytes := (scanLines [] content).1.filter (· ≠ [])

/-- The records determine the lines that are not empty. -/
theorem HoldsRecords.encoded {manifest : PartitionManifest} {content : Bytes}
    {records : List (LogicalRecord F)}
    (holds : HoldsRecords maximumRecordBytes manifest content records) :
    List.Forall₂ (fun record line => record.line = .ok line) records (nonemptyLines content) := by
  obtain ⟨lines, contentEq, canonical⟩ := holds.lines
  rw [nonemptyLines, contentEq, scanLines_flatMap canonical.newline_notMem]
  exact canonical.encoded

/-- The verification pass accepts the bytes exactly when they are the canonical lines of strictly
ordered records, with empty lines anywhere between them, and the manifest describes them.  The
records determine all lines that are not empty. -/
theorem accepts_iff_holdsRecords (importer : Importer) (options : ImportOptions)
    (manifest : PartitionManifest) (react : Effects F → (hook : ImportHook F) → hook.Response)
    (chunks : List Bytes) :
    ((∃ result, (pass importer options false manifest react chunks).outcome = .ok result) ↔
      ∃ records : List (LogicalRecord F),
        HoldsRecords importer.maximumRecordBytes manifest chunks.flatten records) ∧
    ∀ (records : List (LogicalRecord F)) (otherManifest : PartitionManifest) (other : Bytes),
      HoldsRecords importer.maximumRecordBytes manifest chunks.flatten records →
      HoldsRecords importer.maximumRecordBytes otherManifest other records →
      nonemptyLines chunks.flatten = nonemptyLines other := by
  constructor
  · rw [accepts_iff_verifies]
    constructor
    · rintro ⟨records, verifies⟩
      exact ⟨records, verifies.holdsRecords⟩
    · rintro ⟨records, holds⟩
      exact ⟨_, holds.verifies⟩
  · intro records otherManifest other holds otherHolds
    refine List.right_unique_forall₂' (fun record first second isFirst isSecond => ?_) holds.encoded
      otherHolds.encoded
    exact Except.ok.inj (isFirst.symm.trans isSecond)

/-- The manifest and the bytes are those that an export makes of the records. -/
def IsExport (maximumRecordBytes : Nat) (manifest : PartitionManifest) (content : Bytes)
    (records : List (LogicalRecord F)) : Prop :=
  LinesOf records content ∧ Ordered records ∧
    (∀ record ∈ records, ∀ line, record.line = .ok line → line.length ≤ maximumRecordBytes) ∧
    manifest.count = records.length ∧ manifest.bytes = content.length ∧
    manifest.minimumLogicalId = records.head?.map (·.logicalId) ∧
    manifest.maximumLogicalId = records.getLast?.map (·.logicalId) ∧
    manifest.sha256 = prefixedDigest content

/-- A blank line alone is accepted as a partition without records, and no export makes it. -/
theorem blank_line_is_accepted :
    ¬ ((∃ result, (pass ⟨1024, true, le_rfl⟩ {} false blankManifest succeeding [[10]]).outcome =
        .ok result) ↔
      ∃ records : List (LogicalRecord Empty),
        IsExport 1024 blankManifest ([[10]] : List Bytes).flatten records) := by
  have holds : HoldsRecords 1024 blankManifest [10] ([] : List (LogicalRecord Empty)) :=
    { lines := ⟨[[]], rfl, .nil, List.Pairwise.nil⟩
      count := rfl
      bytes := rfl
      minimum := rfl
      maximum := rfl
      sha256 := rfl }
  intro exact
  obtain ⟨records, ⟨lines, each, contentEq⟩, -, -, count, -⟩ :=
    exact.mp ((accepts_iff_verifies _ _ _ _ _).mpr ⟨_, holds.verifies⟩)
  have none : records = [] := List.length_eq_zero_iff.mp count.symm
  subst none
  cases each
  cases contentEq

/-! ## What is raised -/

/-- The line is read as JSON with an integer that is too long, or as an object that
`from_mapping` refuses or that has no canonical encoding. -/
def Unreadable (F : Type) [FloatText F] (maximumRecordBytes : Nat) (line : Bytes) : Prop :=
  line.length ≤ maximumRecordBytes ∧
    ((loadsBytes line : Except JsonError (PyValue F)) = .error .intLimit ∨
      ∃ items, (loadsBytes line : Except JsonError (PyValue F)) = .ok (.mapping items) ∧
        ¬ ∃ record : LogicalRecord F, LogicalRecord.fromMapping items = .ok record ∧
          Encodable record.toMapping)

/-- Every line in front of which there are only canonical lines of ordered records can be read. -/
def Readable (F : Type) [FloatText F] (maximumRecordBytes : Nat) (content : Bytes) : Prop :=
  ∀ earlier line later, (scanLines [] content).1 = earlier ++ line :: later → line ≠ [] →
    (∃ records : List (LogicalRecord F), CanonicalLines maximumRecordBytes records earlier) →
    ¬ Unreadable F maximumRecordBytes line

namespace LogicalRecord

omit [FloatText F] in
theorem raisesBuiltin_freezeReferences (references : List (List (PyValue F × PyValue F))) :
    RaisesBuiltin (freezeReferences references) := by
  induction references with
  | nil => exact raisesBuiltin_ok _
  | cons items rest ih =>
      exact (raisesBuiltin_immutableMapping items).bind fun _ => ih.bind fun _ => raisesBuiltin_ok _

omit [FloatText F] in
theorem raisesBuiltin_make (catalog space resource schemaRef logicalId : Str) (version : Str ⊕ Int)
    (values : List (PyValue F × PyValue F)) (references : List (List (PyValue F × PyValue F))) :
    RaisesBuiltin (make catalog space resource schemaRef logicalId version values references) := by
  unfold make
  split_ifs
  all_goals first
    | exact raisesBuiltin_valueError _ _
    | exact (raisesBuiltin_immutableMapping values).bind fun _ =>
        (raisesBuiltin_freezeReferences references).bind fun _ => raisesBuiltin_ok _

omit [FloatText F] in
theorem raisesBuiltin_fromMapping (items : List (PyValue F × PyValue F)) :
    RaisesBuiltin (fromMapping items) := by
  unfold fromMapping
  dsimp only
  repeat' split
  all_goals first
    | exact raisesBuiltin_valueError _ _
    | exact raisesBuiltin_make _ _ _ _ _ _ _ _

end LogicalRecord

theorem cls_ne_of_isBuiltin {error : Exc} (isBuiltin : error.IsBuiltin) :
    error.cls ≠ .integrityError := by
  intro isIntegrity
  rcases isBuiltin.2 with cls | cls | cls | cls <;> rw [cls] at isIntegrity <;> cases isIntegrity

/-- An object is refused with something else than an `IntegrityError` exactly when it is no
record or has no canonical encoding. -/
theorem mapping_unreadable_iff {items : List (PyValue F × PyValue F)} {line : Bytes} :
    (¬ ∃ record : LogicalRecord F, LogicalRecord.fromMapping items = .ok record ∧
        Encodable record.toMapping) ↔
      ∃ error : Exc, (do
        let record : LogicalRecord F ← LogicalRecord.fromMapping items
        let encoded ← record.line
        if encoded ≠ line then
          .error (.integrityError "logical partition Record is not canonical JSON")
        else return record) = .error error ∧ error.cls ≠ .integrityError := by
  cases read : (LogicalRecord.fromMapping items : Except Exc (LogicalRecord F)) with
  | error error =>
      have builtin := LogicalRecord.raisesBuiltin_fromMapping items error read
      exact ⟨fun _ => ⟨error, rfl, cls_ne_of_isBuiltin builtin⟩, fun _ ⟨_, found, _⟩ => nomatch found⟩
  | ok record =>
      cases encodes : record.line with
      | error error =>
          have builtin := raisesBuiltin_jsonBytes record.toMapping error encodes
          refine ⟨fun _ => ⟨error, ?_, cls_ne_of_isBuiltin builtin⟩, ?_⟩
          · simp only [bind, Except.bind, encodes]
          · rintro _ ⟨found, same, encodable⟩
            cases same
            rw [LogicalRecord.line_eq_ok_iff.mpr ⟨encodable, rfl⟩] at encodes
            cases encodes
      | ok encoded =>
          have encodable := (LogicalRecord.line_eq_ok_iff.mp encodes).1
          refine ⟨fun none => absurd ⟨record, rfl, encodable⟩ none, ?_⟩
          rintro ⟨error, raised, other⟩
          simp only [bind, Except.bind, encodes] at raised
          split at raised
          · cases raised
            exact absurd rfl other
          · cases raised

/-- A line that cannot be read raises something else than an `IntegrityError`. -/
theorem unreadable_iff {line : Bytes} :
    Unreadable F maximumRecordBytes line ↔
      ∃ error : Exc, (LogicalRecord.decodeLine maximumRecordBytes line :
        Except Exc (LogicalRecord F)) = .error error ∧ error.cls ≠ .integrityError := by
  unfold Unreadable LogicalRecord.decodeLine
  by_cases long : maximumRecordBytes < line.length
  · rw [if_pos long]
    refine ⟨fun both => absurd both.1 (not_le.mpr long), ?_⟩
    rintro ⟨error, ⟨⟩, other⟩
    exact absurd rfl other
  · rw [if_neg long, and_iff_right (not_lt.mp long)]
    split
    next found =>
      rw [found]
      refine ⟨fun readable => by simp at readable, ?_⟩
      rintro ⟨error, ⟨⟩, other⟩
      exact absurd rfl other
    next found =>
      rw [found]
      exact ⟨fun _ => ⟨_, rfl, nofun⟩, fun _ => .inl rfl⟩
    next items found =>
      rw [← mapping_unreadable_iff, found]
      constructor
      · rintro (⟨⟨⟩⟩ | ⟨_, ⟨⟩, refused⟩)
        exact refused
      · exact fun refused => .inr ⟨items, rfl, refused⟩
    next value notMapping found =>
      rw [found]
      refine ⟨?_, ?_⟩
      · rintro (⟨⟨⟩⟩ | ⟨items, isMapping, -⟩)
        exact absurd (Except.ok.inj isMapping) (notMapping items)
      · rintro ⟨error, ⟨⟩, other⟩
        exact absurd rfl other

theorem readable_iff_faulty {content : Bytes} :
    Readable F maximumRecordBytes content ↔ ∀ error,
      Faulty (F := F) maximumRecordBytes [] (scanLines [] content).1 error →
        error.cls = .integrityError := by
  constructor
  · rintro readable error ⟨earlier, line, later, more, split, nonempty, decoded, ordered, failing⟩
    by_contra other
    exact readable earlier line later split nonempty ⟨more, forall₂_of_decodeLines decoded, ordered⟩
      (unreadable_iff.mpr ⟨error, failing, other⟩)
  · rintro integrity earlier line later split nonempty ⟨records, canonical⟩ unreadable
    obtain ⟨error, failing, other⟩ := unreadable_iff.mp unreadable
    exact other (integrity error ⟨earlier, line, later, _, split, nonempty, canonical.decoded,
      canonical.sorted, failing⟩)

/-- The verification pass returns or raises an `IntegrityError` exactly when every line that it
gets to can be read. -/
theorem raises_integrityError_iff_readable (importer : Importer) (options : ImportOptions)
    (manifest : PartitionManifest) (react : Effects F → (hook : ImportHook F) → hook.Response)
    (chunks : List Bytes) :
    ((∃ result, (pass importer options false manifest react chunks).outcome = .ok result) ∨
      (pass importer options false manifest react chunks).outcome = .error .integrityError) ↔
      Readable F importer.maximumRecordBytes chunks.flatten := by
  rw [readable_iff_faulty]
  have ends := pass_ends importer options manifest react chunks
  generalize (pass importer options false manifest react chunks).outcome = outcome at ends ⊢
  cases ends with
  | accepts result _ faultless =>
      exact ⟨fun _ error faulty => absurd faulty (faultless error), fun _ => .inl ⟨result, rfl⟩⟩
  | refuses _ faultless =>
      exact ⟨fun _ error faulty => absurd faulty (faultless error), fun _ => .inr rfl⟩
  | raises error _ first =>
      constructor
      · rintro (⟨result, ⟨⟩⟩ | isIntegrity) other faulty
        rw [(first other).mp faulty]
        exact Except.error.inj isIntegrity
      · intro integrity
        exact .inr (congrArg Except.error (integrity error ((first error).mpr rfl)))

/-- An object without the fields of a record leaves the pass as a `ValueError`. -/
theorem empty_object_raises_valueError :
    ¬ ((∃ result, (pass ⟨1024, true, le_rfl⟩ {} false blankManifest succeeding
        [[123, 125, 10]]).outcome = .ok result) ∨
      (pass ⟨1024, true, le_rfl⟩ {} false blankManifest succeeding [[123, 125, 10]]).outcome =
        .error .integrityError) := by
  have raised : (pass ⟨1024, true, le_rfl⟩ {} false blankManifest succeeding
      [[123, 125, 10]]).outcome = .error .valueError := rfl
  rw [raised]
  rintro (⟨result, ⟨⟩⟩ | isIntegrity)
  exact absurd (Except.error.inj isIntegrity) (by decide)

end DataLifecycle.Portability
