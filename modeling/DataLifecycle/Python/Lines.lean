import DataLifecycle.Python.Text

/-!
# Newline framing

Splitting bytes at newlines, as repeated `buffer.partition(b"\n")` does, does not
depend on how the bytes arrive in chunks.
-/

namespace DataLifecycle.Python

/-- The lines that end in the given bytes, and the unterminated rest.  `pending`
is the part of the first line that has already arrived. -/
def scanLines (pending : Bytes) : Bytes → List Bytes × Bytes
  | [] => ([], pending)
  | byte :: rest =>
      if byte = 10 then (pending :: (scanLines [] rest).1, (scanLines [] rest).2)
      else scanLines (pending ++ [byte]) rest

/-- Scanning continues with the unterminated rest of the bytes before. -/
theorem scanLines_append (pending first second : Bytes) :
    scanLines pending (first ++ second) =
      ((scanLines pending first).1 ++ (scanLines (scanLines pending first).2 second).1,
        (scanLines (scanLines pending first).2 second).2) := by
  induction first generalizing pending with
  | nil => rfl
  | cons byte rest ih =>
      rw [List.cons_append, scanLines, scanLines]
      split
      · rw [ih]
        rfl
      · exact ih (pending ++ [byte])

/-- The part of a line that has arrived may be put in front again. -/
theorem scanLines_pending {pending : Bytes} (noNewline : (10 : UInt8) ∉ pending) (bytes : Bytes) :
    scanLines pending bytes = scanLines [] (pending ++ bytes) := by
  have alone : ∀ earlier : Bytes, (10 : UInt8) ∉ earlier → ∀ before,
      scanLines before earlier = ([], before ++ earlier) := by
    intro earlier absent
    induction earlier with
    | nil =>
        intro before
        simp [scanLines]
    | cons byte rest ih =>
        intro before
        have notHere : byte ≠ 10 := fun same => absent (by simp [same])
        rw [scanLines, if_neg notHere, ih fun later => absent (by simp [later])]
        simp
  rw [scanLines_append, alone pending noNewline, List.nil_append, List.nil_append]

/-- A line without a newline is one line when its newline arrives. -/
theorem scanLines_line {line : Bytes} (noNewline : (10 : UInt8) ∉ line) (pending rest : Bytes) :
    scanLines pending (line ++ 10 :: rest) =
      ((pending ++ line) :: (scanLines [] rest).1, (scanLines [] rest).2) := by
  induction line generalizing pending with
  | nil => simp [scanLines]
  | cons byte line ih =>
      have notHere : byte ≠ 10 := fun same => noNewline (by simp [same])
      rw [List.cons_append, scanLines, if_neg notHere, ih fun later => noNewline (by simp [later])]
      simp

/-- Joining lines with newlines and splitting them again. -/
theorem scanLines_flatMap {lines : List Bytes} (noNewline : ∀ line ∈ lines, (10 : UInt8) ∉ line) :
    scanLines [] (lines.flatMap (· ++ [10])) = (lines, []) := by
  induction lines with
  | nil => rfl
  | cons line lines ih =>
      rw [List.flatMap_cons, List.append_assoc, List.singleton_append,
        scanLines_line (noNewline line (by simp)), ih fun other member =>
        noNewline other (by simp [member])]
      simp

/-- The lines with their newlines and the unterminated rest are the bytes. -/
theorem flatMap_scanLines (pending bytes : Bytes) :
    (scanLines pending bytes).1.flatMap (· ++ [10]) ++ (scanLines pending bytes).2 =
      pending ++ bytes := by
  induction bytes generalizing pending with
  | nil => simp [scanLines]
  | cons byte rest ih =>
      rw [scanLines]
      split
      next isNewline =>
        subst isNewline
        rw [List.flatMap_cons, List.append_assoc, ih]
        simp
      next =>
        rw [ih]
        simp

/-- The unterminated rest holds no newline. -/
theorem newline_notMem_scanLines {pending : Bytes} (noNewline : (10 : UInt8) ∉ pending)
    (bytes : Bytes) : (10 : UInt8) ∉ (scanLines pending bytes).2 := by
  induction bytes generalizing pending with
  | nil => exact noNewline
  | cons byte rest ih =>
      rw [scanLines]
      split
      · exact ih (List.not_mem_nil)
      next other =>
        apply ih
        rw [List.mem_append, List.mem_singleton]
        rintro (earlier | rfl)
        · exact noNewline earlier
        · exact other rfl

end DataLifecycle.Python
