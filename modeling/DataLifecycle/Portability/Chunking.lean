import DataLifecycle.Interaction.Observe
import DataLifecycle.Portability.Partitions

/-!
# Chunks do not matter

One pass over a partition ends the same way, and makes the same transfers and writes, however
the bytes of the partition are cut into chunks.  Reading chunk by chunk is reading all lines of
the whole content and then looking at the unterminated rest.
-/

namespace DataLifecycle.Portability

open Python Interaction

variable {F : Type} [FloatText F]

/-- The calls of a pass other than the ones to its source and its token, with their answers. -/
abbrev Effects (F : Type) [FloatText F] := List (Σ hook : ImportHook F, hook.Response)

/-- What the source has yet to deliver, and the calls made so far. -/
structure Served (F : Type) [FloatText F] where
  pending : List Bytes
  effects : Effects F := []

/-- Nobody cancels, the source delivers its chunks, and the other hooks answer as the calls made
so far decide. -/
def serving (react : Effects F → (hook : ImportHook F) → hook.Response) (served : Served F) :
    (hook : ImportHook F) → hook.Response × Served F
  | .cancelled => (.ok false, served)
  | .chunks _ => (.ok ⟨served.pending, none⟩, { served with pending := [] })
  | hook => (react served.effects hook,
      { served with effects := served.effects ++ [⟨hook, react served.effects hook⟩] })

/-- One pass over the chunks of a partition: its result or the class of its exception, and the
calls it made. -/
def pass (importer : Importer) (options : ImportOptions) (write : Bool)
    (manifest : PartitionManifest) (react : Effects F → (hook : ImportHook F) → hook.Response)
    (chunks : List Bytes) : Ending ErrorClass PartitionImportResult Unit (Served F) :=
  (Importing.records importer options write manifest).observe (·.cls) (serving react) ()
    { pending := chunks }

namespace Importing

section Parts

variable {importer : Importer} {options : ImportOptions} {write : Bool}
  {react : Effects F → (hook : ImportHook F) → hook.Response} {α : Type}

/-- The ending of a part of the pass. -/
abbrev seen (react : Effects F → (hook : ImportHook F) → hook.Response) (part : Importing F α)
    (served : Served F) : Ending ErrorClass α Unit (Served F) :=
  part.observe (·.cls) (serving react) () served

/-- The reading with other bytes. -/
def Reading.placed (reading : Reading F) (content : Bytes) (byteCount : Nat) (buffer : Bytes) :
    Reading F :=
  { reading with content := content, byteCount := byteCount, buffer := buffer }

/-- The ending with its reading at other bytes. -/
def moved (content : Bytes) (byteCount : Nat) (buffer : Bytes)
    (ending : Ending ErrorClass (Reading F) Unit (Served F)) :
    Ending ErrorClass (Reading F) Unit (Served F) :=
  ending.andThen fun reading locals served =>
    ⟨.ok (reading.placed content byteCount buffer), locals, served⟩

theorem seen_bind {β : Type} (part : Importing F β) (rest : β → Importing F α)
    (served : Served F) :
    seen react (part >>= rest) served =
      (seen react part served).andThen fun value _ => seen react (rest value) :=
  Script.observe_bind

theorem seen_raiseIfCancelled (served : Served F) :
    seen react raiseIfCancelled served = ⟨.ok (), (), served⟩ :=
  rfl

/-! ## Lines -/

theorem seen_flushFull_placed (reading : Reading F) (content buffer : Bytes) (byteCount : Nat)
    (served : Served F) :
    seen react (flushFull options write (reading.placed content byteCount buffer)) served =
      moved content byteCount buffer (seen react (flushFull options write reading) served) := by
  unfold flushFull
  change seen react (if write && reading.batch.length == options.batchSize then _ else _) served = _
  split
  · rw [seen_bind, seen_bind, moved, Ending.andThen_assoc]
    exact Ending.andThen_congr _ fun _ _ _ => rfl
  · rfl

/-- Consuming a line does not look at the bytes read so far. -/
theorem seen_consumeLine_placed (reading : Reading F) (content buffer : Bytes) (byteCount : Nat)
    (line : Bytes) (served : Served F) :
    seen react (consumeLine importer options write (reading.placed content byteCount buffer) line)
        served =
      moved content byteCount buffer
        (seen react (consumeLine importer options write reading line) served) := by
  unfold consumeLine
  split
  · rfl
  · unfold consume
    rw [seen_bind, seen_bind, moved, Ending.andThen_assoc]
    refine Ending.andThen_congr _ fun record _ served => ?_
    rw [seen_bind, seen_bind, Ending.andThen_assoc]
    refine Ending.andThen_congr _ fun _ _ served => ?_
    rw [seen_bind, seen_bind, Ending.andThen_assoc]
    exact Ending.andThen_congr _ fun _ _ served =>
      seen_flushFull_placed (reading.take write record) content buffer byteCount served

theorem seen_consumeLines_placed (lines : List Bytes) (reading : Reading F)
    (content buffer : Bytes) (byteCount : Nat) (served : Served F) :
    seen react (consumeLines importer options write (reading.placed content byteCount buffer) lines)
        served =
      moved content byteCount buffer
        (seen react (consumeLines importer options write reading lines) served) := by
  induction lines generalizing reading served with
  | nil => rfl
  | cons line rest ih =>
      rw [consumeLines, consumeLines, seen_bind, seen_bind, seen_consumeLine_placed, moved, moved,
        Ending.andThen_assoc, Ending.andThen_assoc]
      exact Ending.andThen_congr _ fun reading _ served => ih reading served

theorem seen_consumeLines_append (first second : List Bytes) (reading : Reading F)
    (served : Served F) :
    seen react (consumeLines importer options write reading (first ++ second)) served =
      (seen react (consumeLines importer options write reading first) served).andThen
        fun reading _ => seen react (consumeLines importer options write reading second) := by
  induction first generalizing reading served with
  | nil => rfl
  | cons line rest ih =>
      rw [List.cons_append, consumeLines, consumeLines, seen_bind, seen_bind, Ending.andThen_assoc]
      exact Ending.andThen_congr _ fun reading _ served => ih reading served

/-! ## Chunks -/

/-- The lines that an unterminated start ends in: it is still unterminated, or it starts the
first line. -/
theorem scanLines_starts (pending bytes : Bytes) :
    ((scanLines pending bytes).1 = [] ∧ pending <+: (scanLines pending bytes).2) ∨
      ∃ line rest, (scanLines pending bytes).1 = line :: rest ∧ pending <+: line := by
  induction bytes generalizing pending with
  | nil => exact .inl ⟨rfl, List.prefix_refl pending⟩
  | cons byte rest ih =>
      rw [scanLines]
      split
      · exact .inr ⟨pending, _, rfl, List.prefix_refl pending⟩
      · rcases ih (pending ++ [byte]) with ⟨none, starts⟩ | ⟨line, more, found, starts⟩
        · exact .inl ⟨none, (List.prefix_append pending [byte]).trans starts⟩
        · exact .inr ⟨line, more, found, (List.prefix_append pending [byte]).trans starts⟩

/-- The lines of the content are consumed, and the rest must not be too long. -/
def readWhole (importer : Importer) (options : ImportOptions) (write : Bool)
    (react : Effects F → (hook : ImportHook F) → hook.Response) (reading : Reading F)
    (content : Bytes) (served : Served F) : Ending ErrorClass (Reading F) Unit (Served F) :=
  (seen react (consumeLines importer options write reading (scanLines reading.buffer content).1)
      served).andThen fun consumed locals served =>
    if importer.maximumRecordBytes < (scanLines reading.buffer content).2.length then
      ⟨.error .integrityError, locals, served⟩
    else
      ⟨.ok (consumed.placed (reading.content ++ content) (reading.byteCount + content.length)
        (scanLines reading.buffer content).2), locals, served⟩

/-- A line that is too long is refused when it ends, before anything is done for it, and so is
one that does not end. -/
theorem readWhole_of_long {reading : Reading F} (content : Bytes) (served : Served F)
    (long : importer.maximumRecordBytes < reading.buffer.length) :
    readWhole importer options write react reading content served =
      ⟨.error .integrityError, (), served⟩ := by
  rcases scanLines_starts reading.buffer content with ⟨none, starts⟩ | ⟨line, rest, found, starts⟩
  · rw [readWhole, none]
    exact if_pos (lt_of_lt_of_le long starts.length_le)
  · have tooLong : importer.maximumRecordBytes < line.length := lt_of_lt_of_le long starts.length_le
    have nonempty : ¬ line.isEmpty = true := by
      intro empty
      rw [List.isEmpty_iff.mp empty] at tooLong
      exact absurd tooLong (Nat.not_lt_zero _)
    rw [readWhole, found, consumeLines, consumeLine, if_neg nonempty, consume, LogicalRecord.decodeLine,
      if_pos tooLong]
    rfl

/-- Reading the first part of the content and then the second is reading both. -/
theorem readWhole_append (reading : Reading F) (first second : Bytes) (served : Served F) :
    readWhole importer options write react reading (first ++ second) served =
      (readWhole importer options write react reading first served).andThen fun reading _ =>
        readWhole importer options write react reading second := by
  rw [readWhole, readWhole, scanLines_append, seen_consumeLines_append, Ending.andThen_assoc,
    Ending.andThen_assoc]
  refine Ending.andThen_congr _ fun consumed _ served => ?_
  have later : readWhole importer options write react (consumed.placed (reading.content ++ first)
      (reading.byteCount + first.length) (scanLines reading.buffer first).2) second served =
      (seen react (consumeLines importer options write consumed
        (scanLines (scanLines reading.buffer first).2 second).1) served).andThen
        fun consumed locals served =>
          if importer.maximumRecordBytes <
              (scanLines (scanLines reading.buffer first).2 second).2.length then
            ⟨.error .integrityError, locals, served⟩
          else ⟨.ok (consumed.placed (reading.content ++ (first ++ second))
            (reading.byteCount + (first ++ second).length)
            (scanLines (scanLines reading.buffer first).2 second).2), locals, served⟩ := by
    rw [readWhole, seen_consumeLines_placed, moved, Ending.andThen_assoc, ← List.append_assoc,
      List.length_append, ← Nat.add_assoc]
    rfl
  rw [← later]
  split
  next long => exact readWhole_of_long second served long
  next => rfl

/-- One chunk is read as a whole. -/
theorem seen_readChunk {reading : Reading F} (noNewline : (10 : UInt8) ∉ reading.buffer)
    (chunk : Bytes) (served : Served F) :
    seen react (readChunk importer options write reading chunk) served =
      readWhole importer options write react reading chunk served := by
  have placed : seen react (consumeLines importer options write { reading with
        content := reading.content ++ chunk
        byteCount := reading.byteCount + chunk.length
        buffer := (scanLines reading.buffer chunk).2 } (scanLines reading.buffer chunk).1) served =
      moved _ _ _ _ :=
    seen_consumeLines_placed _ reading _ _ _ served
  rw [readChunk, seen_bind, seen_raiseIfCancelled, Ending.andThen_ok, ← scanLines_pending noNewline,
    seen_bind, placed, moved, readWhole, Ending.andThen_assoc]
  refine Ending.andThen_congr _ fun consumed _ served => ?_
  rw [Ending.andThen_ok, seen_bind, seen, Script.observe_refuse]
  split
  · rfl
  · rfl

/-- Reading chunk by chunk is reading the whole content. -/
theorem seen_readChunks (chunks : List Bytes) {reading : Reading F}
    (noNewline : (10 : UInt8) ∉ reading.buffer)
    (short : reading.buffer.length ≤ importer.maximumRecordBytes) (served : Served F) :
    seen react (readChunks importer options write reading chunks) served =
      readWhole importer options write react reading chunks.flatten served := by
  induction chunks generalizing reading served with
  | nil =>
      have same : readWhole importer options write react reading [] served =
          if importer.maximumRecordBytes < reading.buffer.length then
            ⟨.error .integrityError, (), served⟩
          else ⟨.ok (reading.placed (reading.content ++ []) reading.byteCount reading.buffer), (),
            served⟩ := rfl
      rw [List.flatten_nil, same, if_neg (not_lt.mpr short), List.append_nil]
      rfl
  | cons chunk rest ih =>
      rw [List.flatten_cons, readWhole_append, readChunks, seen_bind, seen_readChunk noNewline,
        readWhole, Ending.andThen_assoc, Ending.andThen_assoc]
      refine Ending.andThen_congr _ fun consumed _ served => ?_
      split
      · rfl
      next fits =>
        rw [Ending.andThen_ok, Ending.andThen_ok]
        exact ih (newline_notMem_scanLines noNewline chunk) (not_lt.mp fits) served

/-- What follows the chunks of a partition. -/
def conclude (options : ImportOptions) (write : Bool) (manifest : PartitionManifest)
    (reading : Reading F) : Importing F PartitionImportResult := do
  Script.refuse (reading.buffer ≠ [])
    (.integrityError "logical partition must end each Record with a newline")
  flushRest options write reading
  Script.refuse (reading.matches manifest = false)
    (.integrityError "partition %r failed manifest validation" [manifest.partitionId])
  Script.lift (PartitionImportResult.make manifest.partitionId reading.count reading.byteCount
    (prefixedDigest reading.content))

end Parts

end Importing

open Importing

/-- A pass reads the whole content and concludes. -/
theorem pass_eq (importer : Importer) (options : ImportOptions) (write : Bool)
    (manifest : PartitionManifest) (react : Effects F → (hook : ImportHook F) → hook.Response)
    (chunks : List Bytes) :
    pass importer options write manifest react chunks =
      (readWhole importer options write react {} chunks.flatten ⟨[], []⟩).andThen fun reading _ =>
        seen react (conclude options write manifest reading) := by
  have empty : ([] : Bytes).length ≤ importer.maximumRecordBytes := Nat.zero_le _
  rw [← seen_readChunks chunks List.not_mem_nil empty, pass, Importing.records]
  change seen react _ _ = _
  have delivered : seen react (request (.chunks manifest.artifactRef)) { pending := chunks } =
      ⟨.ok ⟨chunks, none⟩, (), ⟨[], []⟩⟩ := rfl
  rw [seen_bind, seen_raiseIfCancelled, Ending.andThen_ok, seen_bind, delivered, Ending.andThen_ok,
    seen_bind]
  rfl

/-- One pass ends the same way, with the same transfers and writes, for any two ways of cutting
the bytes of a partition. -/
theorem chunking_independent (importer : Importer) (options : ImportOptions) (write : Bool)
    (manifest : PartitionManifest) (react : Effects F → (hook : ImportHook F) → hook.Response)
    (first second : List Bytes) (same : first.flatten = second.flatten) :
    pass importer options write manifest react first =
      pass importer options write manifest react second := by
  rw [pass_eq, pass_eq, same]

/-- The manifest of a partition that holds one blank line. -/
def blankManifest : PartitionManifest where
  partitionId := str "part"
  artifactRef := str "artifact"
  count := 0
  bytes := 1
  minimumLogicalId := none
  maximumLogicalId := none
  sha256 := prefixedDigest [10]
  valid := {
    partitionId_ne := by decide
    artifactRef_ne := by decide
    empty := fun _ => ⟨rfl, rfl⟩
    bounded := fun positive => absurd positive (Nat.lt_irrefl 0)
    ordered := nofun
    sha256 := isSha256_prefixedDigest [10] }

/-- Hooks that always succeed. -/
def succeeding (_ : Effects Empty) : (hook : ImportHook Empty) → hook.Response
  | .transfer _ => .ok (prefixedDigest [])
  | .write _ _ => .ok ()
  | _ => .error .operationCancelled

/-- The bytes of one character may come in different chunks. -/
theorem chunking_independent_in_character :
    ([[0xc3], [0xa9, 10]] : List Bytes).flatten = [[0xc3, 0xa9], [], [10]].flatten ∧
      pass ⟨1024, true, le_rfl⟩ {} true blankManifest succeeding [[0xc3], [0xa9, 10]] =
        pass ⟨1024, true, le_rfl⟩ {} true blankManifest succeeding [[0xc3, 0xa9], [], [10]] :=
  ⟨rfl, chunking_independent _ _ _ _ _ _ _ rfl⟩

end DataLifecycle.Portability
