import DataLifecycle.Python.Text

/-!
# Text encodings

`encodeUtf8` is `str.encode("utf-8")`: it refuses lone surrogates.  `decodeText`
is the decoding step of `json.loads` on bytes, which guesses the encoding from
the first bytes and reads lone surrogates with the `surrogatepass` handler.
-/

namespace DataLifecycle.Python

/-! ## UTF-8 -/

/-- A surrogate code point. -/
def isSurrogate (point : CodePoint) : Bool := 0xd800 ≤ point.val && point.val ≤ 0xdfff

/-- A Lean string has no surrogates. -/
theorem scalar_str (text : String) : ∀ point ∈ str text, isSurrogate point = false := by
  intro point member
  obtain ⟨character, -, rfl⟩ := List.mem_map.mp member
  have valid : character.toNat < 0xd800 ∨ 0xdfff < character.toNat ∧ character.toNat < 0x110000 :=
    character.valid
  have code : (Fin.ofNat 0x110000 character.toNat).val = character.toNat := by
    rw [Fin.val_ofNat, Nat.mod_eq_of_lt]
    omega
  simp only [isSurrogate, code, Bool.and_eq_false_iff, decide_eq_false_iff_not]
  omega

/-- The UTF-8 bytes of one code point. -/
def encodePoint (point : CodePoint) : Bytes :=
  let code := point.val
  if code < 0x80 then [UInt8.ofNat code]
  else if code < 0x800 then [UInt8.ofNat (0xc0 + code / 64), UInt8.ofNat (0x80 + code % 64)]
  else if code < 0x10000 then
    [UInt8.ofNat (0xe0 + code / 4096), UInt8.ofNat (0x80 + code / 64 % 64),
      UInt8.ofNat (0x80 + code % 64)]
  else
    [UInt8.ofNat (0xf0 + code / 262144), UInt8.ofNat (0x80 + code / 4096 % 64),
      UInt8.ofNat (0x80 + code / 64 % 64), UInt8.ofNat (0x80 + code % 64)]

/-- `text.encode("utf-8")`; `none` stands for `UnicodeEncodeError`. -/
def encodeUtf8 (text : Str) : Option Bytes :=
  if text.any isSurrogate then none else some (text.flatMap encodePoint)

/-- Decode UTF-8 with the `surrogatepass` handler.  The arguments before the
bytes describe an unfinished character: how many bytes it still needs, the bits
read so far, and the least code point its length may encode. -/
def decodeUtf8 : Nat → Nat → Nat → Bytes → Option Str
  | 0, _, _, [] => some []
  | _ + 1, _, _, [] => none
  | 0, _, _, byte :: rest =>
      let code := byte.toNat
      if code < 0x80 then (decodeUtf8 0 0 0 rest).map (Fin.ofNat 0x110000 code :: ·)
      else if 0xc2 ≤ code ∧ code ≤ 0xdf then decodeUtf8 1 (code - 0xc0) 0x80 rest
      else if 0xe0 ≤ code ∧ code ≤ 0xef then decodeUtf8 2 (code - 0xe0) 0x800 rest
      else if 0xf0 ≤ code ∧ code ≤ 0xf4 then decodeUtf8 3 (code - 0xf0) 0x10000 rest
      else none
  | needed + 1, value, least, byte :: rest =>
      let code := byte.toNat
      if 0x80 ≤ code ∧ code ≤ 0xbf then
        let value := value * 64 + (code - 0x80)
        if needed = 0 then
          if least ≤ value ∧ value < 0x110000 then
            (decodeUtf8 0 0 0 rest).map (Fin.ofNat 0x110000 value :: ·)
          else none
        else decodeUtf8 needed value least rest
      else none

theorem toNat_ofNat_of_lt {n : Nat} (small : n < 256) : (UInt8.ofNat n).toNat = n := by
  simp [Nat.mod_eq_of_lt small]

/-- Decoding reads one encoded code point at a time. -/
theorem decodeUtf8_encodePoint_append (point : CodePoint) (rest : Bytes) :
    decodeUtf8 0 0 0 (encodePoint point ++ rest) = (decodeUtf8 0 0 0 rest).map (point :: ·) := by
  have bound := point.isLt
  have ofVal : ∀ value, value = point.val → Fin.ofNat 0x110000 value = point := by
    rintro value rfl
    exact Fin.ext (Nat.mod_eq_of_lt point.isLt)
  unfold encodePoint
  by_cases one : point.val < 0x80
  · simp only [one, if_true, List.cons_append, List.nil_append, decodeUtf8,
      toNat_ofNat_of_lt (show point.val < 256 by omega), ofVal point.val rfl]
  by_cases two : point.val < 0x800
  · simp only [one, two, if_false, if_true, List.cons_append, List.nil_append]
    rw [decodeUtf8, toNat_ofNat_of_lt (by omega), if_neg (by omega), if_pos (by omega), decodeUtf8,
      toNat_ofNat_of_lt (by omega), if_pos (by omega), if_pos rfl, if_pos (by omega),
      ofVal _ (by omega)]
  by_cases three : point.val < 0x10000
  · simp only [one, two, three, if_false, if_true, List.cons_append, List.nil_append]
    rw [decodeUtf8, toNat_ofNat_of_lt (by omega), if_neg (by omega), if_neg (by omega),
      if_pos (by omega), decodeUtf8, toNat_ofNat_of_lt (by omega), if_pos (by omega),
      if_neg (by omega), decodeUtf8, toNat_ofNat_of_lt (by omega), if_pos (by omega), if_pos rfl,
      if_pos (by omega), ofVal _ (by omega)]
  · simp only [one, two, three, if_false, List.cons_append, List.nil_append]
    rw [decodeUtf8, toNat_ofNat_of_lt (by omega), if_neg (by omega), if_neg (by omega),
      if_neg (by omega), if_pos (by omega), decodeUtf8, toNat_ofNat_of_lt (by omega),
      if_pos (by omega), if_neg (by omega), decodeUtf8, toNat_ofNat_of_lt (by omega),
      if_pos (by omega), if_neg (by omega), decodeUtf8, toNat_ofNat_of_lt (by omega),
      if_pos (by omega), if_pos rfl, if_pos (by omega), ofVal _ (by omega)]

/-- Decoding inverts the concatenation of encoded code points. -/
theorem decodeUtf8_flatMap_encodePoint (text : Str) :
    decodeUtf8 0 0 0 (text.flatMap encodePoint) = some text := by
  induction text with
  | nil => rfl
  | cons point text ih =>
      rw [List.flatMap_cons, decodeUtf8_encodePoint_append, ih]
      rfl

/-- Only an ASCII code point produces an ASCII byte. -/
theorem mem_encodePoint_ascii {point : CodePoint} {byte : UInt8} (member : byte ∈ encodePoint point)
    (ascii : byte.toNat < 0x80) : point.val = byte.toNat := by
  have bound := point.isLt
  unfold encodePoint at member
  dsimp only at member
  split at member
  · simp only [List.mem_singleton] at member
    subst member
    rw [toNat_ofNat_of_lt (by omega)]
  · exfalso
    split at member
    · simp only [List.mem_cons, List.not_mem_nil, or_false] at member
      rcases member with rfl | rfl <;> rw [toNat_ofNat_of_lt (by omega)] at ascii <;> omega
    · split at member
      · simp only [List.mem_cons, List.not_mem_nil, or_false] at member
        rcases member with rfl | rfl | rfl <;> rw [toNat_ofNat_of_lt (by omega)] at ascii <;> omega
      · simp only [List.mem_cons, List.not_mem_nil, or_false] at member
        rcases member with rfl | rfl | rfl | rfl <;>
          rw [toNat_ofNat_of_lt (by omega)] at ascii <;> omega

/-! ## The encodings that `json.loads` detects -/

/-- A supplementary code point of a UTF-16 surrogate pair. -/
def joinUtf16 (high low : Nat) : CodePoint :=
  Fin.ofNat 0x110000 (0x10000 + (high - 0xd800) * 0x400 + (low - 0xdc00))

/-- Read UTF-16 code units, joining surrogate pairs and passing lone surrogates.
The first argument is a high surrogate still waiting for its partner. -/
def joinCodeUnits : Option Nat → List Nat → Str
  | none, [] => []
  | some high, [] => [Fin.ofNat 0x110000 high]
  | none, unit :: rest =>
      if 0xd800 ≤ unit ∧ unit ≤ 0xdbff then joinCodeUnits (some unit) rest
      else Fin.ofNat 0x110000 unit :: joinCodeUnits none rest
  | some high, unit :: rest =>
      if 0xdc00 ≤ unit ∧ unit ≤ 0xdfff then joinUtf16 high unit :: joinCodeUnits none rest
      else if 0xd800 ≤ unit ∧ unit ≤ 0xdbff then
        Fin.ofNat 0x110000 high :: joinCodeUnits (some unit) rest
      else Fin.ofNat 0x110000 high :: Fin.ofNat 0x110000 unit :: joinCodeUnits none rest

/-- Byte order of a multi-byte encoding. -/
inductive Endian
  | big
  | little
  deriving DecidableEq

/-- The number written by bytes in a given order. -/
def numberOf (endian : Endian) (bytes : Bytes) : Nat :=
  match endian with
  | .big => bytes.foldl (fun value byte => value * 256 + byte.toNat) 0
  | .little => bytes.foldr (fun byte value => value * 256 + byte.toNat) 0

/-- Group bytes into numbers of a fixed width; a truncated group fails.  The
second argument collects the bytes of the current group. -/
def groupBytes (endian : Endian) (width : Nat) : Bytes → Bytes → Option (List Nat)
  | [], [] => some []
  | _ :: _, [] => none
  | pending, byte :: rest =>
      if (pending ++ [byte]).length = width then
        (groupBytes endian width [] rest).map (numberOf endian (pending ++ [byte]) :: ·)
      else groupBytes endian width (pending ++ [byte]) rest

def decodeUtf16 (endian : Endian) (content : Bytes) : Option Str :=
  (groupBytes endian 2 [] content).map (joinCodeUnits none)

def decodeUtf32 (endian : Endian) (content : Bytes) : Option Str :=
  match groupBytes endian 4 [] content with
  | none => none
  | some codes =>
      if codes.all (· < 0x110000) then some (codes.map (Fin.ofNat 0x110000)) else none

/-- `s.decode(detect_encoding(s), "surrogatepass")`. -/
def decodeText (content : Bytes) : Option Str :=
  match content with
  | 0x00 :: 0x00 :: 0xfe :: 0xff :: rest => decodeUtf32 .big rest
  | 0xff :: 0xfe :: 0x00 :: 0x00 :: rest => decodeUtf32 .little rest
  | 0xfe :: 0xff :: rest => decodeUtf16 .big rest
  | 0xff :: 0xfe :: rest => decodeUtf16 .little rest
  | 0xef :: 0xbb :: 0xbf :: rest => decodeUtf8 0 0 0 rest
  | a :: b :: c :: d :: _ =>
      if a = 0 then
        if b = 0 then decodeUtf32 .big content else decodeUtf16 .big content
      else if b = 0 then
        if c = 0 ∧ d = 0 then decodeUtf32 .little content else decodeUtf16 .little content
      else decodeUtf8 0 0 0 content
  | [a, b] =>
      if a = 0 then decodeUtf16 .big content
      else if b = 0 then decodeUtf16 .little content
      else decodeUtf8 0 0 0 content
  | _ => decodeUtf8 0 0 0 content

set_option linter.auxLemma false in
/-- Bytes without NUL that start with an ASCII character are read as UTF-8. -/
theorem decodeText_of_nonzero {first : UInt8} {rest : Bytes} (ascii : first.toNat < 0x80)
    (nonzero : ∀ byte ∈ first :: rest, byte ≠ 0) :
    decodeText (first :: rest) = decodeUtf8 0 0 0 (first :: rest) := by
  have firstNonzero : first ≠ 0 := nonzero first List.mem_cons_self
  have notMark : first ≠ 0xff ∧ first ≠ 0xfe ∧ first ≠ 0xef := by
    refine ⟨?_, ?_, ?_⟩
    · rintro rfl
      exact absurd ascii (by decide)
    · rintro rfl
      exact absurd ascii (by decide)
    · rintro rfl
      exact absurd ascii (by decide)
  -- the match tests the first byte against each byte-order mark in turn
  unfold decodeText decodeText.match_1
  apply (dif_neg firstNonzero).trans
  apply (dif_neg notMark.1).trans
  apply (dif_neg notMark.2.1).trans
  apply (dif_neg notMark.2.2).trans
  rcases rest with _ | ⟨second, _ | ⟨third, _ | ⟨fourth, rest⟩⟩⟩
  · rfl
  · exact (if_neg firstNonzero).trans (if_neg (nonzero second (by simp)))
  · rfl
  · exact (if_neg firstNonzero).trans (if_neg (nonzero second (by simp)))

end DataLifecycle.Python
