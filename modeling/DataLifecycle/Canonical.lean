import DataLifecycle.Errors
import DataLifecycle.Python.IsoFormat
import DataLifecycle.Python.JsonText
import DataLifecycle.Python.Sha256
import DataLifecycle.Python.Utf8

/-!
# Canonical serialization

The shared deterministic encoding of `_canonical.py`: timestamp normalization,
the conversion of Python values to JSON values, canonical bytes with sorted
keys, and prefixed SHA-256 digests.
-/

namespace DataLifecycle

open Python

variable {F : Type}

/-- A source version as Python passes it around.  Booleans are kept apart from
integers because completion compares types. -/
inductive Version
  | text (value : Str)
  | number (value : Int)
  | flag (value : Bool)
  deriving DecidableEq

/-- The number that a Python integer or boolean is. -/
def Version.asInt? : Version → Option Int
  | .text _ => none
  | .number value => some value
  | .flag value => some (if value then 1 else 0)

/-- `first == second`: a boolean is the integer 0 or 1. -/
def Version.equals : Version → Version → Bool
  | .text first, .text second => first = second
  | first, second => first.asInt?.isSome && first.asInt? = second.asInt?

/-! ## Timestamps -/

/-- Validate and normalize an aware timestamp. -/
def ensureUtc (field : String) (value : DateTime) : Except Exc Utc :=
  match value.toUtc with
  | .ok instant => .ok instant
  | .error .naive => .error (.valueError "%s must be timezone-aware" [str field])
  | .error .outOfRange => .error .overflowError

theorem ensureUtc_eq_ok_iff {field : String} {time : DateTime} {instant : Utc} :
    ensureUtc field time = .ok instant ↔ time.toUtc = .ok instant := by
  unfold ensureUtc
  split <;> simp_all

/-- Month and day of a zero-based day of the year. -/
def monthDay : List Nat → Nat → Nat → Nat × Nat
  | [], month, day => (month, day + 1)
  | length :: rest, month, day =>
      if day < length then (month, day + 1) else monthDay rest (month + 1) (day - length)

/-- Year, month and day of a zero-based day number. -/
def civilDate (days : Nat) : Nat × Nat × Nat :=
  let inCycle := days % 146097
  let centuries := inCycle / 36524
  let inCentury := inCycle % 36524
  let quads := inCentury / 1461
  let inQuad := inCentury % 1461
  let years := inQuad / 365
  let year := days / 146097 * 400 + centuries * 100 + quads * 4 + years + 1
  if years = 4 ∨ centuries = 4 then (year - 1, 12, 31)
  else
    let leap := decide (years = 3 ∧ (quads ≠ 24 ∨ centuries = 3))
    (year, monthDay (monthLengths leap) 1 (inQuad % 365))

/-- Decimal digits padded with zeros to a fixed width. -/
def padded (width n : Nat) : Str :=
  ((List.range width).map fun i => Json.digitPoint (n / 10 ^ i % 10)).reverse

/-- The Meridian UTC representation of a timestamp. -/
def rfc3339 (instant : Utc) : Str :=
  let seconds := instant.val / 1000000
  let (year, month, day) := civilDate (seconds / 86400)
  padded 4 year ++ str "-" ++ padded 2 month ++ str "-" ++ padded 2 day ++ str "T" ++
    padded 2 (seconds / 3600 % 24) ++ str ":" ++ padded 2 (seconds / 60 % 60) ++ str ":" ++
    padded 2 (seconds % 60) ++ str "." ++ padded 6 (instant.val % 1000000) ++ str "Z"

/-- Parse a timestamp and normalize it to UTC. -/
def parseRfc3339 (field : String) (value : Str) : Except Exc Utc :=
  match fromisoformat (value.flatMap fun point => if point = 90 then str "+00:00" else [point]) with
  | some parsed => ensureUtc field parsed
  | none => .error (.valueError "%s must be an RFC 3339 timestamp" [str field])

/-! ## JSON values -/

/-- The dictionary with the given assignments. -/
def normalized (members : List (Str × Json F)) : List (Str × Json F) :=
  members.foldl (fun dict member => Dict.assign member.1 member.2 dict) []

theorem normalized_of_distinctKeys {members : List (Str × Json F)}
    (distinct : (Json.object members).DistinctKeys) : normalized members = members := by
  rw [normalized, Dict.foldl_assign_of_nodup [] members distinct.1, List.nil_append]

mutual

/-- `_json_value`: convert a supported Python value to JSON data.  A mapping inside a dataclass
is a `dict` (`dataclasses.asdict` raises `TypeError` at a `MappingProxyType`). -/
def jsonValue : PyValue F → Except Exc (Json F)
  | .none => .ok .null
  | .bool value => .ok (.bool value)
  | .int value => .ok (.int value)
  | .str value => .ok (.str value)
  | .float (.finite value) => .ok (.float value)
  | .float _ => .error (.valueError "non-finite floating-point values are not canonical JSON")
  | .datetime value =>
      match ensureUtc "timestamp" value with
      | .ok instant => .ok (.str (rfc3339 instant))
      | .error error => .error error
  | .enum value => jsonValue value
  | .dataclass fields =>
      match jsonFields fields with
      | .ok members => .ok (.object (normalized members))
      | .error error => .error error
  | .mapping items =>
      match jsonMembers items with
      | .ok members => .ok (.object (normalized members))
      | .error error => .error error
  | .sequence items =>
      match jsonItems items with
      | .ok items => .ok (.array items)
      | .error error => .error error
  | .tuple items =>
      match jsonItems items with
      | .ok items => .ok (.array items)
      | .error error => .error error
  | .other typeName => .error (.typeError "unsupported canonical JSON value: %s" [typeName])

def jsonItems : List (PyValue F) → Except Exc (List (Json F))
  | [] => .ok []
  | item :: rest =>
      match jsonValue item with
      | .error error => .error error
      | .ok item =>
          match jsonItems rest with
          | .error error => .error error
          | .ok rest => .ok (item :: rest)

def jsonFields : List (Str × PyValue F) → Except Exc (List (Str × Json F))
  | [] => .ok []
  | (key, item) :: rest =>
      match jsonValue item with
      | .error error => .error error
      | .ok item =>
          match jsonFields rest with
          | .error error => .error error
          | .ok rest => .ok ((key, item) :: rest)

def jsonMembers : List (PyValue F × PyValue F) → Except Exc (List (Str × Json F))
  | [] => .ok []
  | (.str key, item) :: rest =>
      match jsonValue item with
      | .error error => .error error
      | .ok item =>
          match jsonMembers rest with
          | .error error => .error error
          | .ok rest => .ok ((key, item) :: rest)
  | (_, _) :: _ => .error (.typeError "canonical JSON object keys must be strings")

end

mutual

/-- JSON data is already normalized. -/
theorem jsonValue_toPy : ∀ (value : Json F), value.DistinctKeys → jsonValue value.toPy = .ok value
  | .null, _ => rfl
  | .bool _, _ => rfl
  | .int _, _ => rfl
  | .float _, _ => rfl
  | .str _, _ => rfl
  | .array items, distinct => by
      rw [Json.toPy, jsonValue, jsonItems_toPyItems items distinct]
  | .object members, distinct => by
      rw [Json.toPy, jsonValue, jsonMembers_toPyMembers members distinct.2]
      simp only [normalized_of_distinctKeys distinct]

theorem jsonItems_toPyItems : ∀ (items : List (Json F)), Json.DistinctKeysItems items →
    jsonItems (Json.toPyItems items) = .ok items
  | [], _ => rfl
  | item :: rest, distinct => by
      rw [Json.toPyItems, jsonItems, jsonValue_toPy item distinct.1]
      simp only [jsonItems_toPyItems rest distinct.2]

theorem jsonMembers_toPyMembers : ∀ (members : List (Str × Json F)),
    Json.DistinctKeysMembers members → jsonMembers (Json.toPyMembers members) = .ok members
  | [], _ => rfl
  | (key, value) :: rest, distinct => by
      rw [Json.toPyMembers, jsonMembers, jsonValue_toPy value distinct.1]
      simp only [jsonMembers_toPyMembers rest distinct.2]

end

theorem foldl_assign_distinct {added : List (Str × Json F)}
    (distinct : Json.DistinctKeysMembers added) {members : List (Str × Json F)}
    (valid : (Json.object members).DistinctKeys) :
    (Json.object (added.foldl (fun dict member => Dict.assign member.1 member.2 dict)
      members)).DistinctKeys := by
  induction added generalizing members with
  | nil => exact valid
  | cons member rest ih =>
      apply ih distinct.2
      refine ⟨Dict.nodup_assign valid.1, ?_⟩
      rw [Json.distinctKeysMembers_iff]
      intro other otherMem
      rcases Dict.mem_assign otherMem with rfl | earlier
      · exact distinct.1
      · exact Json.distinctKeysMembers_iff.mp valid.2 other earlier

theorem distinctKeys_normalized {members : List (Str × Json F)}
    (distinct : Json.DistinctKeysMembers members) :
    (Json.object (normalized members)).DistinctKeys :=
  foldl_assign_distinct distinct ⟨List.nodup_nil, trivial⟩

mutual

/-- The keys of normalized data are distinct. -/
theorem distinctKeys_of_jsonValue : ∀ (value : PyValue F) {json : Json F},
    jsonValue value = .ok json → json.DistinctKeys
  | .none, _, equal => by cases equal; trivial
  | .bool _, _, equal => by cases equal; trivial
  | .int _, _, equal => by cases equal; trivial
  | .str _, _, equal => by cases equal; trivial
  | .float (.finite _), _, equal => by cases equal; trivial
  | .float (.infinity _), _, equal => by cases equal
  | .float .nan, _, equal => by cases equal
  | .datetime value, _, equal => by
      simp only [jsonValue] at equal
      split at equal <;> cases equal
      trivial
  | .enum value, _, equal => distinctKeys_of_jsonValue value equal
  | .dataclass fields, _, equal => by
      simp only [jsonValue] at equal
      split at equal
      next members membersEq =>
        cases equal
        exact distinctKeys_normalized (distinctKeys_of_jsonFields fields membersEq)
      next => cases equal
  | .mapping items, _, equal => by
      simp only [jsonValue] at equal
      split at equal
      next members membersEq =>
        cases equal
        exact distinctKeys_normalized (distinctKeys_of_jsonMembers items membersEq)
      next => cases equal
  | .sequence items, _, equal => by
      simp only [jsonValue] at equal
      split at equal
      next values valuesEq =>
        cases equal
        exact distinctKeys_of_jsonItems items valuesEq
      next => cases equal
  | .tuple items, _, equal => by
      simp only [jsonValue] at equal
      split at equal
      next values valuesEq =>
        cases equal
        exact distinctKeys_of_jsonItems items valuesEq
      next => cases equal
  | .other _, _, equal => by cases equal

theorem distinctKeys_of_jsonItems : ∀ (items : List (PyValue F)) {values : List (Json F)},
    jsonItems items = .ok values → Json.DistinctKeysItems values
  | [], _, equal => by cases equal; trivial
  | item :: rest, _, equal => by
      simp only [jsonItems] at equal
      split at equal
      next => cases equal
      next value valueEq =>
        split at equal
        next => cases equal
        next values valuesEq =>
          cases equal
          exact ⟨distinctKeys_of_jsonValue item valueEq, distinctKeys_of_jsonItems rest valuesEq⟩

theorem distinctKeys_of_jsonFields : ∀ (fields : List (Str × PyValue F))
    {members : List (Str × Json F)}, jsonFields fields = .ok members →
    Json.DistinctKeysMembers members
  | [], _, equal => by cases equal; trivial
  | (key, item) :: rest, _, equal => by
      simp only [jsonFields] at equal
      split at equal
      next => cases equal
      next value valueEq =>
        split at equal
        next => cases equal
        next members membersEq =>
          cases equal
          exact ⟨distinctKeys_of_jsonValue item valueEq, distinctKeys_of_jsonFields rest membersEq⟩

theorem distinctKeys_of_jsonMembers : ∀ (items : List (PyValue F × PyValue F))
    {members : List (Str × Json F)}, jsonMembers items = .ok members →
    Json.DistinctKeysMembers members
  | [], _, equal => by cases equal; trivial
  | (key, item) :: rest, _, equal => by
      cases key with
      | str key =>
          simp only [jsonMembers] at equal
          split at equal
          next => cases equal
          next value valueEq =>
            split at equal
            next => cases equal
            next members membersEq =>
              cases equal
              exact ⟨distinctKeys_of_jsonValue item valueEq,
                distinctKeys_of_jsonMembers rest membersEq⟩
      | _ => cases equal

end

/-- `immutable_mapping`: a frozen canonical copy of a mapping. -/
def immutableMapping (items : List (PyValue F × PyValue F)) :
    Except Exc { members : List (Str × Json F) // (Json.object members).DistinctKeys } :=
  match equal : jsonMembers items with
  | .ok members => .ok ⟨normalized members,
      distinctKeys_normalized (distinctKeys_of_jsonMembers items equal)⟩
  | .error error => .error error

/-- JSON data is frozen as it is. -/
theorem immutableMapping_toPyMembers {members : List (Str × Json F)}
    (distinct : (Json.object members).DistinctKeys) :
    immutableMapping (Json.toPyMembers members) = .ok ⟨members, distinct⟩ := by
  unfold immutableMapping
  split
  next found equal =>
    rw [jsonMembers_toPyMembers members distinct.2] at equal
    cases equal
    congr
    exact normalized_of_distinctKeys distinct
  next error equal =>
    rw [jsonMembers_toPyMembers members distinct.2] at equal
    cases equal

/-! ## Members of Python mappings -/

/-- `value.get(name)` on a mapping of Python objects. -/
def getMember (name : Str) : List (PyValue F × PyValue F) → Option (PyValue F)
  | [] => none
  | (.str key, value) :: rest => if key = name then some value else getMember name rest
  | _ :: rest => getMember name rest

/-- A string member. -/
def textOf : Option (PyValue F) → Option Str
  | some (.str text) => some text
  | _ => none

theorem getMember_toPyMembers (name : Str) (members : List (Str × Json F)) :
    getMember name (Json.toPyMembers members) = (Dict.lookup name members).map Json.toPy := by
  induction members with
  | nil => rfl
  | cons member rest ih =>
      obtain ⟨key, value⟩ := member
      rw [Json.toPyMembers, getMember, Dict.lookup, ih]
      by_cases same : key = name <;> simp [same]

/-! ## Canonical bytes and digests -/

variable [FloatText F]

/-- Canonical UTF-8 bytes of JSON data. -/
def jsonBytes (value : Json F) : Except Exc Bytes :=
  if value.intsPrintable then
    match encodeUtf8 value.sortKeys.print with
    | some bytes => .ok bytes
    | none => .error .unicodeEncodeError
  else
    .error (.valueError "Exceeds the limit for integer string conversion")

omit [FloatText F] in
/-- JSON data that canonical encoding accepts: short integers and no lone
surrogate in any string or key. -/
def Encodable (value : Json F) : Prop :=
  value.intsPrintable = true ∧ ∀ point ∈ value.characters, isSurrogate point = false

instance (value : Json F) : Decidable (Encodable value) :=
  decidable_of_iff
    ((value.intsPrintable && value.characters.all fun point => !isSurrogate point) = true)
    (by simp [Encodable])

omit [FloatText F] in
theorem encodable_object_iff {members : List (Str × Json F)} :
    Encodable (.object members) ↔ ∀ member ∈ members,
      (∀ point ∈ member.1, isSurrogate point = false) ∧ Encodable member.2 := by
  simp only [Encodable, Json.intsPrintable, Json.intsPrintableMembers_iff, Json.characters,
    Json.mem_charactersMembers]
  constructor
  · rintro ⟨printable, scalar⟩ member memberMem
    exact ⟨fun point inKey => scalar point ⟨member, memberMem, .inl inKey⟩,
      printable member memberMem, fun point inValue => scalar point ⟨member, memberMem, .inr inValue⟩⟩
  · intro each
    refine ⟨fun member memberMem => (each member memberMem).2.1, ?_⟩
    rintro point ⟨member, memberMem, inKey | inValue⟩
    · exact (each member memberMem).1 point inKey
    · exact (each member memberMem).2.2 point inValue

omit [FloatText F] in
theorem encodable_array_iff {items : List (Json F)} :
    Encodable (.array items) ↔ ∀ item ∈ items, Encodable item := by
  simp only [Encodable, Json.intsPrintable, Json.characters]
  induction items with
  | nil => simp [Json.intsPrintableItems, Json.charactersItems]
  | cons item rest ih =>
      simp only [Json.intsPrintableItems, Json.charactersItems, Bool.and_eq_true, List.mem_append,
        List.mem_cons, forall_eq_or_imp, ← ih]
      constructor
      · rintro ⟨⟨first, others⟩, scalar⟩
        exact ⟨⟨first, fun point member => scalar point (.inl member)⟩, others,
          fun point member => scalar point (.inr member)⟩
      · rintro ⟨⟨first, firstScalar⟩, others, scalar⟩
        exact ⟨⟨first, others⟩, fun point member => member.elim (firstScalar point) (scalar point)⟩

omit [FloatText F] in
theorem encodable_str_iff {text : Str} :
    Encodable (.str text : Json F) ↔ ∀ point ∈ text, isSurrogate point = false := by
  simp [Encodable, Json.intsPrintable, Json.characters]

theorem any_isSurrogate_print (value : Json F) :
    value.sortKeys.print.any isSurrogate = true ↔
      ∃ point ∈ value.characters, isSurrogate point = true := by
  rw [List.any_eq_true]
  constructor
  · rintro ⟨point, member, surrogate⟩
    refine ⟨point, ?_, surrogate⟩
    rcases Json.mem_print value.sortKeys point member with printable | ⟨inText, _⟩
    · simp only [isSurrogate, Bool.and_eq_true, decide_eq_true_eq] at surrogate
      have ascii := printable.2
      omega
    · exact (Json.mem_characters_sortKeys value point).mp inText
  · rintro ⟨point, member, surrogate⟩
    refine ⟨point, ?_, surrogate⟩
    simp only [isSurrogate, Bool.and_eq_true, decide_eq_true_eq] at surrogate
    exact Json.mem_print_of_mem_characters value.sortKeys point
      ((Json.mem_characters_sortKeys value point).mpr member) (by omega)

/-- Encoding succeeds exactly on encodable data, with the printed text as UTF-8. -/
theorem jsonBytes_eq_ok_iff {value : Json F} {bytes : Bytes} :
    jsonBytes value = .ok bytes ↔
      Encodable value ∧ bytes = value.sortKeys.print.flatMap encodePoint := by
  have surrogates := any_isSurrogate_print value
  rw [jsonBytes, encodeUtf8, Encodable]
  by_cases printable : value.intsPrintable = true
  · by_cases surrogate : value.sortKeys.print.any isSurrogate = true
    · obtain ⟨point, member, isSurrogate⟩ := surrogates.mp surrogate
      simp only [printable, surrogate, if_true, reduceCtorEq, true_and, false_iff, not_and]
      intro none
      rw [none point member] at isSurrogate
      contradiction
    · have none : ∀ point ∈ value.characters, isSurrogate point = false := by
        intro point member
        by_contra present
        exact surrogate (surrogates.mpr ⟨point, member, by simpa using present⟩)
      simp only [printable, surrogate, if_true, Bool.false_eq_true, if_false, Except.ok.injEq,
        true_and]
      exact ⟨fun equal => ⟨none, equal.symm⟩, fun both => both.2.symm⟩
  · simp [printable]

/-- Canonical UTF-8 bytes with sorted object keys. -/
def canonicalJsonBytes (value : PyValue F) : Except Exc Bytes :=
  match jsonValue value with
  | .ok json => jsonBytes json
  | .error error => .error error

/-- `json.loads` on bytes. -/
def loadsBytes (line : Bytes) : Except JsonError (PyValue F) :=
  match decodeText line with
  | some text => Json.loads text
  | none => .error .decode

/-- A byte below 32 does not occur in canonical bytes. -/
theorem le_of_mem_jsonBytes {value : Json F} {bytes : Bytes} (encoded : jsonBytes value = .ok bytes)
    {byte : UInt8} (member : byte ∈ bytes) : 32 ≤ byte.toNat := by
  obtain ⟨-, rfl⟩ := jsonBytes_eq_ok_iff.mp encoded
  obtain ⟨point, pointMem, byteMem⟩ := List.mem_flatMap.mp member
  have visible := Json.le_of_mem_print pointMem
  by_contra control
  rw [mem_encodePoint_ascii byteMem (by omega)] at visible
  exact control visible

/-- Canonical bytes are read back as the data they encode, with its keys in order. -/
theorem loadsBytes_jsonBytes {value : Json F} {bytes : Bytes} (encoded : jsonBytes value = .ok bytes)
    (distinct : value.DistinctKeys) : loadsBytes bytes = .ok value.sortKeys.toPy := by
  obtain ⟨encodable, bytesEq⟩ := jsonBytes_eq_ok_iff.mp encoded
  have text : decodeText bytes = some value.sortKeys.print := by
    obtain ⟨first, rest, printed, -, -, -, ascii⟩ := Json.print_head value.sortKeys
    have starts : bytes = UInt8.ofNat first.val :: rest.flatMap encodePoint := by
      rw [bytesEq, printed, List.flatMap_cons, encodePoint, if_pos ascii]
      rfl
    have nonzero : ∀ byte ∈ bytes, byte ≠ 0 := by
      rintro byte member rfl
      exact absurd (le_of_mem_jsonBytes encoded member) (by decide)
    rw [starts] at nonzero
    rw [starts, decodeText_of_nonzero _ nonzero, ← starts, bytesEq, decodeUtf8_flatMap_encodePoint]
    rw [toNat_ofNat_of_lt (by omega)]
    exact ascii
  rw [loadsBytes, text]
  apply Json.loads_print
  · rw [Json.intsPrintable_sortKeys]
    exact encodable.1
  · exact Json.distinctKeys_sortKeys _ distinct

/-- A digest with its algorithm prefix. -/
def prefixedDigest (content : Bytes) : Str := str "sha256:" ++ sha256Hex content

/-- The prefixed SHA-256 digest of a canonical value. -/
def sha256Digest (value : Json F) : Except Exc Str :=
  match jsonBytes value with
  | .ok bytes => .ok (prefixedDigest bytes)
  | .error error => .error error

/-- `sha256_digest` of a Python value. -/
def digestOf (value : PyValue F) : Except Exc Str := do
  let json ← jsonValue value
  sha256Digest json

theorem sha256Digest_of_encodable {value : Json F} (encodable : Encodable value) :
    sha256Digest value =
      .ok (prefixedDigest (value.sortKeys.print.flatMap encodePoint)) := by
  rw [sha256Digest, jsonBytes_eq_ok_iff.mpr ⟨encodable, rfl⟩]

theorem encodable_of_sha256Digest {value : Json F} {digest : Str}
    (computed : sha256Digest value = .ok digest) : Encodable value := by
  rw [sha256Digest] at computed
  cases bytesEq : jsonBytes value with
  | ok bytes => exact (jsonBytes_eq_ok_iff.mp bytesEq).1
  | error error =>
      rw [bytesEq] at computed
      contradiction

/-- Whether a text is a prefixed lowercase SHA-256 digest. -/
def isSha256 (value : Str) : Bool :=
  value.take 7 == str "sha256:" && (value.drop 7).length == 64 && (value.drop 7).all isLowerHex

/-- Validate one canonical prefixed digest. -/
def requireSha256 (field : String) (value : Str) : Except Exc Str :=
  if isSha256 value then .ok value
  else .error (.valueError "%s must use the sha256:<lowercase hex> form" [str field])

/-- A computed digest passes its own check. -/
theorem isSha256_prefixedDigest (content : Bytes) : isSha256 (prefixedDigest content) = true := by
  have prefixLength : (str "sha256:").length = 7 := by decide
  have taken : (prefixedDigest content).take 7 = str "sha256:" := by
    rw [prefixedDigest, List.take_append_of_le_length (by omega), List.take_of_length_le (by omega)]
  have dropped : (prefixedDigest content).drop 7 = sha256Hex content := by
    rw [prefixedDigest, List.drop_append_of_le_length (by omega), List.drop_of_length_le (by omega)]
    rfl
  have hexadecimal : (sha256Hex content).all isLowerHex = true := by
    rw [List.all_eq_true]
    intro point member
    exact isLowerHex_of_mem_sha256Hex member
  simp [isSha256, taken, dropped, length_sha256Hex, hexadecimal]

theorem isSha256_of_sha256Digest {value : Json F} {digest : Str}
    (computed : sha256Digest value = .ok digest) : isSha256 digest = true := by
  rw [sha256Digest] at computed
  cases bytesEq : jsonBytes value with
  | ok bytes =>
      rw [bytesEq] at computed
      cases computed
      exact isSha256_prefixedDigest bytes
  | error error =>
      rw [bytesEq] at computed
      contradiction

/-- A digest is ASCII text. -/
theorem isSurrogate_of_isSha256 {digest : Str} (valid : isSha256 digest = true) :
    ∀ point ∈ digest, isSurrogate point = false := by
  simp only [isSha256, Bool.and_eq_true, beq_iff_eq, List.all_eq_true] at valid
  obtain ⟨⟨algorithm, -⟩, hexadecimal⟩ := valid
  have named : ∀ point ∈ str "sha256:", isSurrogate point = false := scalar_str _
  intro point member
  rw [← List.take_append_drop 7 digest] at member
  rcases List.mem_append.mp member with inName | inDigits
  · rw [algorithm] at inName
    exact named point inName
  · have lower := hexadecimal point inDigits
    simp only [isLowerHex, Bool.or_eq_true, Bool.and_eq_true, decide_eq_true_eq] at lower
    simp only [isSurrogate, Bool.and_eq_false_iff, decide_eq_false_iff_not]
    left
    omega

/-- A timestamp is ASCII text. -/
theorem isSurrogate_of_mem_rfc3339 (instant : Utc) :
    ∀ point ∈ rfc3339 instant, isSurrogate point = false := by
  have digits : ∀ digit < 10, isSurrogate (Json.digitPoint digit) = false := by decide
  have numbers : ∀ width n, ∀ point ∈ padded width n, isSurrogate point = false := by
    intro width n point member
    rw [padded, List.mem_reverse, List.mem_map] at member
    obtain ⟨place, -, rfl⟩ := member
    exact digits _ (Nat.mod_lt _ (by decide))
  rw [rfc3339]
  obtain ⟨year, month, day⟩ := civilDate (instant.val / 1000000 / 86400)
  simp only [List.forall_mem_append]
  refine ⟨⟨⟨⟨⟨⟨⟨⟨⟨⟨⟨⟨⟨numbers _ _, ?_⟩, numbers _ _⟩, ?_⟩, numbers _ _⟩, ?_⟩, numbers _ _⟩, ?_⟩,
    numbers _ _⟩, ?_⟩, numbers _ _⟩, ?_⟩, numbers _ _⟩, ?_⟩ <;> exact scalar_str _

theorem ne_nil_of_isSha256 {digest : Str} (valid : isSha256 digest = true) : digest ≠ [] := by
  rintro rfl
  simp [isSha256] at valid

end DataLifecycle
