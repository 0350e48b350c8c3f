import DataLifecycle.Portability.Partitions

/-!
# Verify before effect

What an import does to its environment, as a trace: the reads of artifacts, the
preflight, the object transfers and the writes.  One lemma per part of
`import_export` says what the part adds to the trace when it returns.
-/

namespace DataLifecycle.Portability

open Python Interaction

variable {F : Type} [FloatText F]

/-- What an import has done. -/
structure ImportTrace (F : Type) where
  /-- Every read with its reference and what the artifact source yielded. -/
  reads : List (Str × Stream Bytes) := []
  preflighted : Bool := false
  transferred : List (List (Str × Json F)) := []
  /-- The records of every write call. -/
  written : List (List (LogicalRecord F)) := []
  finalized : Bool := false

namespace ImportTrace

/-- The trace after a call. -/
def after (trace : ImportTrace F) : (hook : ImportHook F) → hook.Response → ImportTrace F
  | .chunks artifactRef, .ok stream => { trace with reads := trace.reads ++ [(artifactRef, stream)] }
  | .chunks artifactRef, .error error =>
      { trace with reads := trace.reads ++ [(artifactRef, ⟨[], some error⟩)] }
  | .preflight _ _, response => { trace with preflighted := trace.preflighted || response.isOk }
  | .transfer reference, .ok digest =>
      if isSha256 digest then { trace with transferred := trace.transferred ++ [reference] }
      else trace
  | .write records _, _ => { trace with written := trace.written ++ [records] }
  | .finalize _, _ => { trace with finalized := true }
  | _, _ => trace

/-- The first reads are complete reads of the partitions, and passed verification. -/
def Verified (importer : Importer) (partitions : List PartitionManifest) (trace : ImportTrace F) :
    Prop :=
  List.Forall₂ (fun manifest read => read.1 = manifest.artifactRef ∧ read.2.failure = none ∧
      ∃ records : List (LogicalRecord F),
        Verifies importer.maximumRecordBytes manifest read.2.items.flatten records)
    partitions (trace.reads.take partitions.length)

/-- The records decoded from a read. -/
def decoded (importer : Importer) (read : Str × Stream Bytes) : List (LogicalRecord F) :=
  (decodePartition importer.maximumRecordBytes read.2.items.flatten).getD []

/-- The records decoded in the first read of the partitions. -/
def firstRecords (importer : Importer) (partitions : List PartitionManifest)
    (trace : ImportTrace F) : List (LogicalRecord F) :=
  (trace.reads.take partitions.length).flatMap (decoded importer)

/-- The calls that verify-before-effect allows. -/
def Allows (importer : Importer) (partitions : List PartitionManifest) (trace : ImportTrace F) :
    ImportHook F → Prop
  | .preflight _ _ => trace.Verified importer partitions
  | .transfer _ => trace.Verified importer partitions
  | .write records _ =>
      trace.Verified importer partitions ∧ trace.preflighted = true ∧
        (importer.transfers = true → ∀ record ∈ records,
          ∀ reference ∈ record.objectReferences, reference ∈ trace.transferred)
  | .finalize _ =>
      trace.Verified importer partitions ∧ trace.preflighted = true ∧
        trace.written.flatten = trace.firstRecords importer partitions
  | _ => True

end ImportTrace

/-- A read of an artifact. -/
def ImportHook.isRead : ImportHook F → Bool
  | .chunks _ => true
  | _ => false

/-- An answer with which an import goes on. -/
def ImportHook.Acceptable : (hook : ImportHook F) → hook.Answer → Prop
  | .cancelled, isCancelled => isCancelled = false
  | .clock, now => (ensureUtc "occurred_at" now).isOk = true
  | .transfer _, digest => isSha256 digest = true
  | .finalize _, fingerprint => isSha256 fingerprint = true
  | _, _ => True

namespace Importing

section Parts

/- `permits` says which responses the environment may give, and `fails` what is
known when an exception is raised. -/
variable {importer : Importer} {options : ImportOptions} {partitions : List PartitionManifest}
  {permits : (hook : ImportHook F) → hook.Response → Prop} {fails : Prop}
  {α β : Type} {trace : ImportTrace F}

/-- The part returns with the given postcondition, or raises when failing is possible,
and makes only allowed calls. -/
def Runs (importer : Importer) (partitions : List PartitionManifest)
    (permits : (hook : ImportHook F) → hook.Response → Prop) (fails : Prop)
    (part : Importing F α) (normal : α → ImportTrace F → Prop) (trace : ImportTrace F) : Prop :=
  part.Safe (fun before hook response after =>
      after = before.after hook response ∧ permits hook response)
    (ImportTrace.Allows importer partitions) (fun value _ after => normal value after)
    (fun _ _ _ => fails) () trace

/-- Apart from reads, everything that is permitted is acceptable, unless failing is
possible. -/
def Cooperative (permits : (hook : ImportHook F) → hook.Response → Prop) (fails : Prop) : Prop :=
  ∀ hook response, hook.isRead = false → permits hook response →
    fails ∨ ∃ answer, response = .ok answer ∧ hook.Acceptable answer

/-- What is permitted for a read of a partition is a complete stream of the bytes
that its manifest describes, unless failing is possible. -/
def Faithful (importer : Importer) (permits : (hook : ImportHook F) → hook.Response → Prop)
    (fails : Prop) (manifest : PartitionManifest) : Prop :=
  ∀ response, permits (.chunks manifest.artifactRef) response →
    fails ∨ ∃ stream, response = .ok stream ∧ stream.failure = none ∧
      ∃ records : List (LogicalRecord F),
        Verifies importer.maximumRecordBytes manifest stream.items.flatten records

theorem runs_pure {normal : α → ImportTrace F → Prop} {value : α} (holds : normal value trace) :
    Runs importer partitions permits fails (pure value) normal trace :=
  holds

theorem runs_bind {normal : α → ImportTrace F → Prop} {part : Importing F β}
    {rest : β → Importing F α}
    (runs : Runs importer partitions permits fails part
      (fun value after => Runs importer partitions permits fails (rest value) normal after) trace) :
    Runs importer partitions permits fails (part >>= rest) normal trace :=
  Script.safe_bind.mpr runs

theorem runs_mono {normal weaker : α → ImportTrace F → Prop} {part : Importing F α}
    (runs : Runs importer partitions permits fails part normal trace)
    (implies : ∀ value after, normal value after → weaker value after) :
    Runs importer partitions permits fails part weaker trace :=
  Script.Safe.mono runs (fun value _ after => implies value after) (fun _ _ _ => id)

theorem runs_refuse {normal : Unit → ImportTrace F → Prop} {condition : Prop} [Decidable condition]
    {error : Exc} (refused : condition → fails) (goesOn : ¬ condition → normal () trace) :
    Runs importer partitions permits fails (Script.refuse condition error) normal trace :=
  Script.safe_refuse.mpr ⟨refused, goesOn⟩

theorem runs_lift {normal : α → ImportTrace F → Prop} {result : Except Exc α}
    (refused : ∀ error, result = .error error → fails)
    (goesOn : ∀ value, result = .ok value → normal value trace) :
    Runs importer partitions permits fails (Script.lift result) normal trace := by
  cases result with
  | ok value => exact goesOn value rfl
  | error error => exact refused error rfl

theorem runs_request (cooperative : Cooperative permits fails) (hook : ImportHook F)
    {normal : hook.Answer → ImportTrace F → Prop} (notRead : hook.isRead = false)
    (allowed : trace.Allows importer partitions hook)
    (goesOn : ∀ answer, permits hook (.ok answer) → (fails ∨ hook.Acceptable answer) →
      normal answer (trace.after hook (.ok answer))) :
    Runs importer partitions permits fails (request hook) normal trace := by
  rw [Runs, request, Script.safe_invoke]
  refine ⟨allowed, ?_⟩
  rintro response _ ⟨rfl, permitted⟩
  have accepted := cooperative hook response notRead permitted
  cases response with
  | ok answer =>
      apply goesOn answer permitted
      rcases accepted with mayFail | ⟨found, equal, acceptable⟩
      · exact .inl mayFail
      · cases equal
        exact .inr acceptable
  | error error =>
      rcases accepted with mayFail | ⟨found, equal, -⟩
      · exact mayFail
      · cases equal

theorem runs_chunks {manifest : PartitionManifest}
    (faithful : Faithful importer permits fails manifest)
    {normal : Stream Bytes → ImportTrace F → Prop}
    (goesOn : ∀ stream, permits (.chunks manifest.artifactRef) (.ok stream) →
      (fails ∨ stream.failure = none ∧ ∃ records : List (LogicalRecord F),
        Verifies importer.maximumRecordBytes manifest stream.items.flatten records) →
      normal stream { trace with reads := trace.reads ++ [(manifest.artifactRef, stream)] }) :
    Runs importer partitions permits fails (request (.chunks manifest.artifactRef)) normal trace := by
  rw [Runs, request, Script.safe_invoke]
  refine ⟨trivial, ?_⟩
  rintro response _ ⟨rfl, permitted⟩
  have described := faithful response permitted
  cases response with
  | ok stream =>
      apply goesOn stream permitted
      rcases described with mayFail | ⟨found, equal, complete⟩
      · exact .inl mayFail
      · cases equal
        exact .inr complete
  | error error =>
      rcases described with mayFail | ⟨found, equal, -⟩
      · exact mayFail
      · cases equal

theorem runs_raiseIfCancelled (cooperative : Cooperative permits fails)
    {normal : Unit → ImportTrace F → Prop} (goesOn : normal () trace) :
    Runs importer partitions permits fails raiseIfCancelled normal trace := by
  apply runs_bind
  apply runs_request cooperative .cancelled rfl trivial
  intro isCancelled _ accepted
  apply runs_refuse
  · rintro rfl
    rcases accepted with mayFail | notCancelled
    · exact mayFail
    · cases notCancelled
  · exact fun _ => goesOn

theorem runs_transferAll (cooperative : Cooperative permits fails)
    {normal : Unit → ImportTrace F → Prop} {references : List (List (Str × Json F))}
    (verified : trace.Verified importer partitions)
    (goesOn : normal () { trace with transferred := trace.transferred ++ references }) :
    Runs importer partitions permits fails (transferAll references) normal trace := by
  induction references generalizing trace with
  | nil =>
      rw [List.append_nil] at goesOn
      exact goesOn
  | cons reference rest ih =>
      apply runs_bind
      apply runs_request cooperative (.transfer reference) rfl verified
      intro digest _ accepted
      apply runs_bind
      apply runs_refuse
      · intro invalid
        rcases accepted with mayFail | valid
        · exact mayFail
        · exact absurd (valid.symm.trans invalid) (by decide)
      · intro valid
        have moved : trace.after (.transfer reference) (.ok digest) =
            { trace with transferred := trace.transferred ++ [reference] } :=
          if_pos (Bool.eq_true_of_not_eq_false valid)
        rw [moved]
        apply ih
        · exact verified
        · rw [List.append_assoc, List.singleton_append]
          exact goesOn

/-- What has been consumed of a partition since `start`: the lines, their records
and the batches written. -/
structure Consumed (importer : Importer) (options : ImportOptions) (write : Bool)
    (start : ImportTrace F) (lines : List Bytes) (records : List (LogicalRecord F))
    (groups : List (List (LogicalRecord F))) (reading : Reading F) (trace : ImportTrace F) : Prop where
  decoded : decodeLines importer.maximumRecordBytes lines = some records
  ordered : Ordered records
  count : reading.count = records.length
  minimum : reading.minimum = records.head?.map (·.logicalId)
  maximum : reading.maximum = records.getLast?.map (·.logicalId)
  previous : reading.previous = records.getLast?.map (·.logicalId)
  written : trace.written = start.written ++ groups
  batched : groups.flatten ++ reading.batch = if write then records else []
  sized : ∀ group ∈ groups, 1 ≤ group.length ∧ group.length ≤ options.batchSize
  transferred : importer.transfers = true → ∀ record ∈ reading.batch,
    ∀ reference ∈ record.objectReferences, reference ∈ trace.transferred
  reads : trace.reads = start.reads
  preflighted : trace.preflighted = start.preflighted
  finalized : trace.finalized = start.finalized

/-- A pass may write once the first reads are verified and the target has been
asked. -/
def Ready (importer : Importer) (partitions : List PartitionManifest) (write : Bool)
    (trace : ImportTrace F) : Prop :=
  write = true → trace.Verified importer partitions ∧ trace.preflighted = true

theorem Ready.of_same {write : Bool} {start : ImportTrace F}
    (ready : Ready importer partitions write start) (reads : trace.reads = start.reads)
    (preflighted : trace.preflighted = start.preflighted) :
    Ready importer partitions write trace := by
  intro isWrite
  obtain ⟨verified, asked⟩ := ready isWrite
  rw [ImportTrace.Verified, reads, preflighted]
  exact ⟨verified, asked⟩

section Consume

variable {write : Bool} {start : ImportTrace F} {lines : List Bytes}
  {records : List (LogicalRecord F)} {groups : List (List (LogicalRecord F))} {reading : Reading F}

/-- The reading after one more record, before a full batch is handed on. -/
theorem Consumed.take
    (consumed : Consumed importer options write start lines records groups reading trace)
    {line : Bytes} {record : LogicalRecord F} {after : ImportTrace F} (nonempty : line ≠ [])
    (decoded : LogicalRecord.decodeLine importer.maximumRecordBytes line = .ok record)
    (notBefore : ¬ NotAfter record.logicalId reading.previous)
    (afterEq : after = { trace with transferred := trace.transferred ++
      if write && importer.transfers then record.objectReferences else [] }) :
    Consumed importer options write start (lines ++ [line]) (records ++ [record]) groups
      (reading.take write record) after := by
  subst after
  rw [consumed.previous] at notBefore
  constructor
  · rw [decodeLines_append, consumed.decoded, decodeLines, if_neg nonempty, decoded]
    rfl
  · exact consumed.ordered.append notBefore
  · simp [Reading.take, consumed.count]
  · rw [← orText_head?, ← consumed.minimum]
    rfl
  · simp [Reading.take]
  · simp [Reading.take]
  · exact consumed.written
  · have batched := consumed.batched
    cases write with
    | false => exact batched
    | true =>
        simp only [Reading.take, if_true] at batched ⊢
        rw [← List.append_assoc, batched]
  · exact consumed.sized
  · intro transfers member memberMem reference referenceMem
    have earlier := consumed.transferred transfers
    cases write with
    | false => exact List.mem_append_left _ (earlier member memberMem reference referenceMem)
    | true =>
        simp only [Reading.take, if_true, List.mem_append, List.mem_singleton] at memberMem
        rcases memberMem with before | rfl
        · exact List.mem_append_left _ (earlier member before reference referenceMem)
        · simp only [transfers, Bool.and_self, if_true]
          exact List.mem_append_right _ referenceMem
  · exact consumed.reads
  · exact consumed.preflighted
  · exact consumed.finalized

/-- The bytes of the reading have not moved. -/
structure SameBytes (before after : Reading F) : Prop where
  content : after.content = before.content
  byteCount : after.byteCount = before.byteCount
  buffer : after.buffer = before.buffer

omit [FloatText F] in
theorem SameBytes.trans {first second third : Reading F} (earlier : SameBytes first second)
    (later : SameBytes second third) : SameBytes first third :=
  ⟨later.content.trans earlier.content, later.byteCount.trans earlier.byteCount,
    later.buffer.trans earlier.buffer⟩

/-- The lines have been consumed, no full batch is waiting, and the bytes have not
moved since `before`. -/
structure Settled (importer : Importer) (options : ImportOptions) (write : Bool)
    (start : ImportTrace F) (lines : List Bytes) (before reading : Reading F)
    (trace : ImportTrace F) : Prop where
  consumed : ∃ records groups, Consumed importer options write start lines records groups reading
    trace
  short : reading.batch.length < options.batchSize
  same : SameBytes before reading

theorem runs_flushFull (cooperative : Cooperative permits fails)
    (ready : Ready importer partitions write start) (positive : 1 ≤ options.batchSize)
    (consumed : Consumed importer options write start lines records groups reading trace)
    (notOver : reading.batch.length ≤ options.batchSize) :
    Runs importer partitions permits fails (flushFull options write reading)
      (Settled importer options write start lines reading) trace := by
  unfold flushFull
  split
  next full =>
    obtain ⟨isWrite, isFull⟩ := (Bool.and_eq_true _ _).mp full
    have sizeEq : reading.batch.length = options.batchSize := beq_iff_eq.mp isFull
    obtain ⟨verified, asked⟩ := ready.of_same consumed.reads consumed.preflighted isWrite
    apply runs_bind
    apply runs_request cooperative (.write reading.batch options.policy) rfl
      ⟨verified, asked, consumed.transferred⟩
    intro _ _ _
    apply runs_pure
    refine ⟨⟨records, groups ++ [reading.batch], ?_⟩, positive, ⟨rfl, rfl, rfl⟩⟩
    constructor
    · exact consumed.decoded
    · exact consumed.ordered
    · exact consumed.count
    · exact consumed.minimum
    · exact consumed.maximum
    · exact consumed.previous
    · simp [ImportTrace.after, consumed.written]
    · rw [← consumed.batched]
      simp
    · intro group member
      rcases List.mem_append.mp member with earlier | isLast
      · exact consumed.sized group earlier
      · rw [List.mem_singleton.mp isLast, sizeEq]
        exact ⟨positive, le_rfl⟩
    · intro _ record member
      cases member
    · exact consumed.reads
    · exact consumed.preflighted
    · exact consumed.finalized
  next notFull =>
    refine runs_pure ⟨⟨records, groups, consumed⟩, ?_, ⟨rfl, rfl, rfl⟩⟩
    cases write with
    | false =>
        have none := (List.append_eq_nil_iff.mp consumed.batched).2
        rw [none]
        exact positive
    | true =>
        apply lt_of_le_of_ne notOver
        intro same
        exact notFull (beq_iff_eq.mpr same)

/-- Consuming one line. -/
theorem runs_consume (cooperative : Cooperative permits fails)
    (ready : Ready importer partitions write start) (positive : 1 ≤ options.batchSize)
    (consumed : Consumed importer options write start lines records groups reading trace)
    (short : reading.batch.length < options.batchSize) {line : Bytes} (nonempty : line ≠ [])
    (good : fails ∨ ∃ all : List (LogicalRecord F),
      decodeLines importer.maximumRecordBytes (lines ++ [line]) = some all ∧ Ordered all) :
    Runs importer partitions permits fails (consume importer options write reading line)
      (Settled importer options write start (lines ++ [line]) reading) trace := by
  -- a line that should be there decodes to a record behind the others
  have expected : fails ∨ ∃ record : LogicalRecord F,
      LogicalRecord.decodeLine importer.maximumRecordBytes line = .ok record ∧
        ¬ NotAfter record.logicalId reading.previous := by
    rcases good with mayFail | ⟨all, decoded, ordered⟩
    · exact .inl mayFail
    · right
      rw [decodeLines_append, consumed.decoded, decodeLines, if_neg nonempty] at decoded
      cases lineEq : LogicalRecord.decodeLine (F := F) importer.maximumRecordBytes line with
      | error error =>
          rw [lineEq] at decoded
          cases decoded
      | ok record =>
          rw [lineEq] at decoded
          cases decoded
          refine ⟨record, rfl, ?_⟩
          rw [consumed.previous]
          exact Ordered.after ordered
  apply runs_bind
  apply runs_lift
  · intro error lineEq
    rcases expected with mayFail | ⟨record, found, -⟩
    · exact mayFail
    · rw [lineEq] at found
      cases found
  intro record lineEq
  apply runs_bind
  apply runs_refuse
  · intro notAfter
    rcases expected with mayFail | ⟨other, found, isAfter⟩
    · exact mayFail
    · rw [lineEq] at found
      cases found
      exact absurd notAfter isAfter
  intro isAfter
  have notOver : (reading.take write record).batch.length ≤ options.batchSize := by
    cases write with
    | false => exact short.le
    | true => simpa [Reading.take] using short
  apply runs_bind
  unfold transferReferences
  split
  next transfers =>
    obtain ⟨isWrite, -⟩ := (Bool.and_eq_true _ _).mp transfers
    apply runs_transferAll cooperative
      (ready.of_same consumed.reads consumed.preflighted isWrite).1
    have taken := consumed.take nonempty lineEq isAfter rfl
    rw [if_pos transfers] at taken
    apply runs_mono (runs_flushFull cooperative ready positive taken notOver)
    exact fun _ _ settled => ⟨settled.consumed, settled.short,
      ⟨settled.same.content, settled.same.byteCount, settled.same.buffer⟩⟩
  next noTransfers =>
    have taken := consumed.take nonempty lineEq isAfter rfl
    rw [if_neg noTransfers, List.append_nil] at taken
    apply runs_pure
    apply runs_mono (runs_flushFull cooperative ready positive taken notOver)
    exact fun _ _ settled => ⟨settled.consumed, settled.short,
      ⟨settled.same.content, settled.same.byteCount, settled.same.buffer⟩⟩

/-- Consuming the lines that a chunk has completed. -/
theorem runs_consumeLines (cooperative : Cooperative permits fails)
    (ready : Ready importer partitions write start) (positive : 1 ≤ options.batchSize)
    {before : Reading F} (settled : Settled importer options write start lines before reading trace)
    {more : List Bytes}
    (good : fails ∨ ∃ all : List (LogicalRecord F),
      decodeLines importer.maximumRecordBytes (lines ++ more) = some all ∧ Ordered all) :
    Runs importer partitions permits fails (consumeLines importer options write reading more)
      (Settled importer options write start (lines ++ more) before) trace := by
  induction more generalizing lines reading trace with
  | nil =>
      rw [List.append_nil]
      exact settled
  | cons line rest ih =>
      obtain ⟨⟨records, groups, consumed⟩, short, same⟩ := settled
      have together : lines ++ line :: rest = lines ++ [line] ++ rest := by simp
      rw [together] at good ⊢
      rw [consumeLines]
      apply runs_bind
      by_cases empty : line = []
      · subst line
        apply runs_pure
        have skipped : decodeLines importer.maximumRecordBytes (lines ++ [[]]) = some records := by
          rw [decodeLines_append, consumed.decoded]
          simp [decodeLines]
        exact ih ⟨⟨records, groups, { consumed with decoded := skipped }⟩, short, same⟩ good
      · have notEmpty : ¬ line.isEmpty = true := by simpa using empty
        rw [consumeLine, if_neg notEmpty]
        have lineGood : fails ∨ ∃ all : List (LogicalRecord F),
            decodeLines importer.maximumRecordBytes (lines ++ [line]) = some all ∧ Ordered all := by
          rcases good with mayFail | ⟨all, decoded, ordered⟩
          · exact .inl mayFail
          · obtain ⟨first, later, firstEq, -, rfl⟩ := decodeLines_of_append decoded
            exact .inr ⟨first, firstEq, (List.pairwise_append.mp ordered).1⟩
        apply runs_mono (runs_consume cooperative ready positive consumed short empty lineGood)
        intro reading' trace' settled'
        exact ih ⟨settled'.consumed, settled'.short, same.trans settled'.same⟩ good

end Consume

section Read

variable {write : Bool} {start : ImportTrace F} {reading : Reading F}

/-- The bytes read so far have been consumed up to the unterminated rest. -/
structure Read (importer : Importer) (options : ImportOptions) (write : Bool)
    (start : ImportTrace F) (content : Bytes) (reading : Reading F) (trace : ImportTrace F) :
    Prop where
  consumed : ∃ records groups, Consumed importer options write start (scanLines [] content).1 records
    groups reading trace
  short : reading.batch.length < options.batchSize
  content_eq : reading.content = content
  byteCount_eq : reading.byteCount = content.length
  buffer_eq : reading.buffer = (scanLines [] content).2

/-- The bytes of a stream, of which some have been read, are well-formed. -/
def WellFormed (F : Type) [FloatText F] (importer : Importer) (content : Bytes) : Prop :=
  ∃ all : List (LogicalRecord F), decodePartition importer.maximumRecordBytes content = some all ∧
    Ordered all

theorem WellFormed.lines {first second : Bytes} (wellFormed : WellFormed F importer (first ++ second)) :
    ∃ all : List (LogicalRecord F),
      decodeLines importer.maximumRecordBytes (scanLines [] first).1 = some all ∧ Ordered all := by
  obtain ⟨all, decoded, ordered⟩ := wellFormed
  rw [decodePartition] at decoded
  split at decoded
  · rw [scanLines_append] at decoded
    obtain ⟨records, rest, recordsEq, -, rfl⟩ := decodeLines_of_append decoded
    exact ⟨records, recordsEq, (List.pairwise_append.mp ordered).1⟩
  · cases decoded

/-- The unterminated rest of well-formed bytes is short. -/
theorem WellFormed.length_le {first second : Bytes}
    (wellFormed : WellFormed F importer (first ++ second)) :
    (scanLines [] first).2.length ≤ importer.maximumRecordBytes := by
  obtain ⟨all, decoded, -⟩ := wellFormed
  by_cases empty : (scanLines [] first).2 = []
  · rw [empty]
    exact Nat.zero_le _
  · rw [decodePartition] at decoded
    split at decoded
    next complete =>
      rw [scanLines_append] at complete decoded
      obtain ⟨line, member, starts⟩ := exists_line_of_scanLines complete empty
      exact starts.length_le.trans
        (length_le_of_decodeLines decoded line (List.mem_append_right _ member))
    next => cases decoded

theorem runs_readChunk (cooperative : Cooperative permits fails)
    (ready : Ready importer partitions write start) (positive : 1 ≤ options.batchSize)
    {content chunk rest : Bytes} (read : Read importer options write start content reading trace)
    (good : fails ∨ WellFormed F importer (content ++ chunk ++ rest)) :
    Runs importer partitions permits fails (readChunk importer options write reading chunk)
      (Read importer options write start (content ++ chunk)) trace := by
  obtain ⟨⟨records, groups, consumed⟩, short, contentEq, byteCountEq, bufferEq⟩ := read
  have scanned : scanLines [] (content ++ chunk) =
      ((scanLines [] content).1 ++ (scanLines [] (reading.buffer ++ chunk)).1,
        (scanLines [] (reading.buffer ++ chunk)).2) := by
    rw [scanLines_append, scanLines_pending (newline_notMem_scanLines (by simp) content), bufferEq]
  apply runs_bind
  apply runs_raiseIfCancelled cooperative
  apply runs_bind
  have advanced : Settled importer options write start (scanLines [] content).1
      { reading with
        content := reading.content ++ chunk
        byteCount := reading.byteCount + chunk.length
        buffer := (scanLines [] (reading.buffer ++ chunk)).2 }
      { reading with
        content := reading.content ++ chunk
        byteCount := reading.byteCount + chunk.length
        buffer := (scanLines [] (reading.buffer ++ chunk)).2 } trace := by
    exact ⟨⟨records, groups, { consumed with }⟩, short, ⟨rfl, rfl, rfl⟩⟩
  have linesGood : fails ∨ ∃ all : List (LogicalRecord F),
      decodeLines importer.maximumRecordBytes
        ((scanLines [] content).1 ++ (scanLines [] (reading.buffer ++ chunk)).1) = some all ∧
        Ordered all := by
    rcases good with mayFail | wellFormed
    · exact .inl mayFail
    · have lines := wellFormed.lines
      rw [scanned] at lines
      exact .inr lines
  apply runs_mono (runs_consumeLines cooperative ready positive advanced linesGood)
  intro reading' trace' settled
  apply runs_bind
  apply runs_refuse
  · intro oversized
    rcases good with mayFail | wellFormed
    · exact mayFail
    · have bound := wellFormed.length_le
      rw [scanned] at bound
      exact absurd bound (not_le.mpr oversized)
  · intro _
    apply runs_pure
    constructor
    · rw [scanned]
      exact settled.consumed
    · exact settled.short
    · rw [settled.same.content, contentEq]
    · rw [settled.same.byteCount, byteCountEq, List.length_append]
    · rw [scanned, settled.same.buffer]

theorem runs_readChunks (cooperative : Cooperative permits fails)
    (ready : Ready importer partitions write start) (positive : 1 ≤ options.batchSize)
    {content : Bytes} {chunks : List Bytes}
    (read : Read importer options write start content reading trace)
    (good : fails ∨ WellFormed F importer (content ++ chunks.flatten)) :
    Runs importer partitions permits fails (readChunks importer options write reading chunks)
      (Read importer options write start (content ++ chunks.flatten)) trace := by
  induction chunks generalizing content reading trace with
  | nil =>
      rw [List.flatten_nil, List.append_nil]
      exact read
  | cons chunk rest ih =>
      rw [List.flatten_cons, ← List.append_assoc] at good ⊢
      rw [readChunks]
      apply runs_bind
      apply runs_mono (runs_readChunk cooperative ready positive read good)
      exact fun _ _ read' => ih read' good

theorem Read.nil (positive : 1 ≤ options.batchSize) :
    Read importer options write trace [] ({} : Reading F) trace := by
  refine ⟨⟨[], [], ?_⟩, positive, rfl, rfl, rfl⟩
  constructor
  · rfl
  · exact List.Pairwise.nil
  · rfl
  · rfl
  · rfl
  · rfl
  · exact (List.append_nil _).symm
  · cases write <;> rfl
  · intro group member
    cases member
  · intro _ record member
    cases member
  · rfl
  · rfl
  · rfl

/-- The rest of a partition is handed on. -/
theorem runs_flushRest (cooperative : Cooperative permits fails)
    (ready : Ready importer partitions write start) {content : Bytes}
    (read : Read importer options write start content reading trace) :
    Runs importer partitions permits fails (flushRest options write reading)
      (fun _ after => ∃ records groups,
        Consumed importer options write start (scanLines [] content).1 records groups
          { reading with batch := [] } after) trace := by
  obtain ⟨⟨records, groups, consumed⟩, short, -⟩ := read
  unfold flushRest
  split
  next waiting =>
    obtain ⟨isWrite, notEmpty⟩ := (Bool.and_eq_true _ _).mp waiting
    obtain ⟨verified, asked⟩ := ready.of_same consumed.reads consumed.preflighted isWrite
    apply runs_request cooperative (.write reading.batch options.policy) rfl
      ⟨verified, asked, consumed.transferred⟩
    intro _ _ _
    refine ⟨records, groups ++ [reading.batch], { consumed with
      written := ?_, batched := ?_, sized := ?_, transferred := ?_ }⟩
    · simp [ImportTrace.after, consumed.written]
    · rw [← consumed.batched]
      simp
    · intro group member
      rcases List.mem_append.mp member with earlier | isLast
      · exact consumed.sized group earlier
      · rw [List.mem_singleton.mp isLast]
        have nonempty : reading.batch ≠ [] := by simpa using notEmpty
        exact ⟨List.length_pos_iff.mpr nonempty, short.le⟩
    · intro _ record member
      cases member
  next nothing =>
    have empty : reading.batch = [] := by
      cases write with
      | false => exact (List.append_eq_nil_iff.mp consumed.batched).2
      | true => simpa using nothing
    refine runs_pure ⟨records, groups, { consumed with batched := ?_, transferred := ?_ }⟩
    · rw [← consumed.batched, empty]
    · intro _ record member
      cases member

end Read

section Records

variable {write : Bool} {start : ImportTrace F}

/-- The result of a partition that was read as its manifest describes it. -/
def resultOf (manifest : PartitionManifest) : PartitionImportResult :=
  ⟨manifest.partitionId, manifest.count, manifest.bytes, manifest.sha256⟩

/-- A partition was read completely and verified, and written in batches. -/
structure ReadPartition (importer : Importer) (options : ImportOptions)
    (permits : (hook : ImportHook F) → hook.Response → Prop) (write : Bool)
    (manifest : PartitionManifest) (read : Str × Stream Bytes)
    (groups : List (List (LogicalRecord F))) : Prop where
  reference : read.1 = manifest.artifactRef
  complete : read.2.failure = none
  permitted : permits (.chunks manifest.artifactRef) (.ok read.2)
  verifies : ∃ records : List (LogicalRecord F),
    Verifies importer.maximumRecordBytes manifest read.2.items.flatten records
  batched : groups.flatten = if write then ImportTrace.decoded importer read else []
  sized : ∀ group ∈ groups, 1 ≤ group.length ∧ group.length ≤ options.batchSize

/-- What a pass over partitions adds to the trace: for each partition its read and
the batches written. -/
structure Passed (importer : Importer) (options : ImportOptions)
    (permits : (hook : ImportHook F) → hook.Response → Prop) (write : Bool)
    (manifests : List PartitionManifest) (before after : ImportTrace F)
    (parts : List ((Str × Stream Bytes) × List (List (LogicalRecord F)))) : Prop where
  reads_eq : after.reads = before.reads ++ parts.map Prod.fst
  written_eq : after.written = before.written ++ (parts.map Prod.snd).flatten
  preflighted_eq : after.preflighted = before.preflighted
  finalized_eq : after.finalized = before.finalized
  partitions : List.Forall₂ (fun manifest part =>
    ReadPartition importer options permits write manifest part.1 part.2) manifests parts

theorem verified_append {reads : List (Str × Stream Bytes)}
    (verified : trace.Verified importer partitions) :
    ({ trace with reads := trace.reads ++ reads } : ImportTrace F).Verified importer partitions := by
  have enough : partitions.length ≤ trace.reads.length := by
    have lengths := verified.length_eq
    rw [List.length_take] at lengths
    omega
  rw [ImportTrace.Verified, List.take_append_of_le_length enough]
  exact verified

theorem verifies_of_matches {manifest : PartitionManifest} {reading : Reading F}
    {records : List (LogicalRecord F)} {groups : List (List (LogicalRecord F))} {content : Bytes}
    (consumed : Consumed importer options write start (scanLines [] content).1 records groups
      reading trace)
    (contentEq : reading.content = content) (byteCountEq : reading.byteCount = content.length)
    (complete : (scanLines [] content).2 = []) (isMatch : reading.matches manifest = true) :
    Verifies importer.maximumRecordBytes manifest content records := by
  simp only [Reading.matches, Bool.and_eq_true, beq_iff_eq] at isMatch
  obtain ⟨⟨⟨⟨count, bytes⟩, minimum⟩, maximum⟩, sha256⟩ := isMatch
  constructor
  · rw [decodePartition, if_pos complete]
    exact consumed.decoded
  · exact consumed.ordered
  · rw [← consumed.count, count]
  · rw [← byteCountEq, bytes]
  · rw [← consumed.minimum, minimum]
  · rw [← consumed.maximum, maximum]
  · rw [← contentEq, sha256]

theorem matches_of_verifies {manifest : PartitionManifest} {reading : Reading F}
    {records : List (LogicalRecord F)} {groups : List (List (LogicalRecord F))} {content : Bytes}
    {found : List (LogicalRecord F)}
    (consumed : Consumed importer options write start (scanLines [] content).1 records groups
      reading trace)
    (contentEq : reading.content = content) (byteCountEq : reading.byteCount = content.length)
    (verifies : Verifies importer.maximumRecordBytes manifest content found) :
    reading.matches manifest = true := by
  have same : found = records := by
    have decoded := verifies.decoded
    rw [decodePartition] at decoded
    split at decoded
    · rw [consumed.decoded] at decoded
      exact (Option.some.inj decoded).symm
    · cases decoded
  subst found
  simp only [Reading.matches, Bool.and_eq_true, beq_iff_eq]
  rw [consumed.count, verifies.count, byteCountEq, verifies.bytes, consumed.minimum,
    verifies.minimum, consumed.maximum, verifies.maximum, contentEq, verifies.sha256]
  exact ⟨⟨⟨⟨rfl, rfl⟩, rfl⟩, rfl⟩, rfl⟩

theorem Ready.append_read (ready : Ready importer partitions write trace)
    (read : Str × Stream Bytes) :
    Ready importer partitions write { trace with reads := trace.reads ++ [read] } := by
  intro isWrite
  obtain ⟨verified, asked⟩ := ready isWrite
  exact ⟨verified_append verified, asked⟩

/-- Reading one partition. -/
theorem runs_records (cooperative : Cooperative permits fails)
    (ready : Ready importer partitions write trace) (positive : 1 ≤ options.batchSize)
    {manifest : PartitionManifest} (faithful : Faithful importer permits fails manifest) :
    Runs importer partitions permits fails (records importer options write manifest)
      (fun result after => result = resultOf manifest ∧
        ∃ read groups, after.reads = trace.reads ++ [read] ∧
          after.written = trace.written ++ groups ∧ after.preflighted = trace.preflighted ∧
          after.finalized = trace.finalized ∧
          ReadPartition importer options permits write manifest read groups) trace := by
  apply runs_bind
  apply runs_raiseIfCancelled cooperative
  apply runs_bind
  apply runs_chunks faithful
  intro stream permitted described
  have good : fails ∨ WellFormed F importer stream.items.flatten := by
    rcases described with mayFail | ⟨-, found, verifies⟩
    · exact .inl mayFail
    · exact .inr ⟨found, verifies.decoded, verifies.ordered⟩
  have opened : Ready importer partitions write
      { trace with reads := trace.reads ++ [(manifest.artifactRef, stream)] } :=
    ready.append_read _
  apply runs_bind
  apply runs_mono (runs_readChunks cooperative opened positive (Read.nil positive) good)
  intro reading after read
  rw [List.nil_append] at read
  apply runs_bind
  have ended : Runs importer partitions permits fails (raiseFailure stream.failure)
      (fun _ final => final = after ∧ stream.failure = none) after := by
    cases failure : stream.failure with
    | none => exact runs_pure ⟨rfl, rfl⟩
    | some error =>
        rcases described with mayFail | ⟨complete, -⟩
        · exact mayFail
        · exact absurd (failure.symm.trans complete) (by simp)
  apply runs_mono ended
  rintro _ _ ⟨rfl, noFailure⟩
  apply runs_bind
  apply runs_refuse
  · intro unterminated
    rcases good with mayFail | ⟨found, decoded, -⟩
    · exact mayFail
    · rw [decodePartition] at decoded
      split at decoded
      next complete => exact absurd (read.buffer_eq.trans complete) unterminated
      next => cases decoded
  intro complete
  rw [not_not, read.buffer_eq] at complete
  apply runs_bind
  apply runs_mono (runs_flushRest cooperative opened read)
  rintro _ final ⟨found, groups, consumed⟩
  apply runs_bind
  apply runs_refuse
  · intro different
    rcases described with mayFail | ⟨-, expected, verifies⟩
    · exact mayFail
    · have same : ({ reading with batch := [] } : Reading F).matches manifest = true :=
        matches_of_verifies consumed read.content_eq read.byteCount_eq verifies
      exact absurd (different.symm.trans same) (by decide)
  intro notDifferent
  have isMatch : reading.matches manifest = true := Bool.eq_true_of_not_eq_false notDifferent
  have unbatched : ({ reading with batch := [] } : Reading F).matches manifest = true := isMatch
  have verifies : Verifies importer.maximumRecordBytes manifest stream.items.flatten found :=
    verifies_of_matches consumed read.content_eq read.byteCount_eq complete unbatched
  have result : PartitionImportResult.make manifest.partitionId reading.count reading.byteCount
      (prefixedDigest reading.content) = .ok (resultOf manifest) := by
    simp only [Reading.matches, Bool.and_eq_true, beq_iff_eq] at isMatch
    obtain ⟨⟨⟨⟨count, bytes⟩, -⟩, -⟩, sha256⟩ := isMatch
    rw [PartitionImportResult.make, if_neg manifest.valid.partitionId_ne, requireSha256,
      if_pos (isSha256_prefixedDigest _), count, bytes, sha256]
    rfl
  rw [result]
  apply runs_pure
  refine ⟨rfl, (manifest.artifactRef, stream), groups, consumed.reads, consumed.written,
    consumed.preflighted, consumed.finalized, rfl, noFailure, permitted, ⟨found, verifies⟩, ?_,
    consumed.sized⟩
  have batched := consumed.batched
  rw [List.append_nil] at batched
  rw [batched, ImportTrace.decoded, verifies.decoded]
  rfl

/-- One pass over partitions. -/
theorem runs_readAll (cooperative : Cooperative permits fails)
    (ready : Ready importer partitions write trace) (positive : 1 ≤ options.batchSize)
    {manifests : List PartitionManifest}
    (faithful : ∀ manifest ∈ manifests, Faithful importer permits fails manifest) :
    Runs importer partitions permits fails (readAll importer options write manifests)
      (fun results after => results = manifests.map resultOf ∧
        ∃ parts, Passed importer options permits write manifests trace after parts) trace := by
  induction manifests generalizing trace with
  | nil =>
      apply runs_pure
      exact ⟨rfl, [], (List.append_nil _).symm, (List.append_nil _).symm, rfl, rfl, .nil⟩
  | cons manifest rest ih =>
      rw [readAll]
      apply runs_bind
      apply runs_mono (runs_records cooperative ready positive (faithful manifest (by simp)))
      rintro _ middle ⟨rfl, read, groups, readsEq, writtenEq, preflightedEq, finalizedEq, part⟩
      have stillReady : Ready importer partitions write middle :=
        (ready.append_read read).of_same readsEq preflightedEq
      apply runs_bind
      apply runs_mono (ih stillReady fun other member => faithful other (by simp [member]))
      rintro _ after ⟨rfl, parts, passed⟩
      apply runs_pure
      refine ⟨rfl, (read, groups) :: parts, ?_⟩
      constructor
      · rw [passed.reads_eq, readsEq, List.append_assoc]
        rfl
      · rw [passed.written_eq, writtenEq, List.append_assoc]
        rfl
      · rw [passed.preflighted_eq, preflightedEq]
      · rw [passed.finalized_eq, finalizedEq]
      · exact .cons part passed.partitions

end Records

end Parts

end Importing

end DataLifecycle.Portability
