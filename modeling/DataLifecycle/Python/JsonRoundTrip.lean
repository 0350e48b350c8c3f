import DataLifecycle.Python.JsonParser
import Mathlib.Data.Nat.Digits.Lemmas

/-!
# Printed JSON is read back

The scanner inverts the printer.  Tokens come first: digits, number tokens and
string escapes.  The value theorem is one induction over values, array tails and
object tails in which the remaining input is arbitrary up to a delimiter.
-/

namespace DataLifecycle.Python.Json

variable {F : Type}

/-! ## Digits -/

/-- A text that cannot continue a number. -/
def Delimited (text : Str) : Prop :=
  ∀ point rest, text = point :: rest →
    isDigit point = false ∧ point ≠ 46 ∧ point ≠ 101 ∧ point ≠ 69

theorem delimited_nil : Delimited [] := by
  intro point rest equal
  cases equal

theorem delimited_cons {point : CodePoint} {rest : Str} (digit : isDigit point = false)
    (dot : point ≠ 46) (lower : point ≠ 101) (upper : point ≠ 69) : Delimited (point :: rest) := by
  intro other tail equal
  cases equal
  exact ⟨digit, dot, lower, upper⟩

/-- A text that does not start with a digit. -/
def NoDigit (text : Str) : Prop := ∀ point rest, text = point :: rest → isDigit point = false

theorem Delimited.noDigit {text : Str} (delimited : Delimited text) : NoDigit text :=
  fun point rest equal => (delimited point rest equal).1

theorem takeWhile_digits_append {digits text : Str} (all : ∀ digit ∈ digits, isDigit digit = true)
    (stop : NoDigit text) : (digits ++ text).takeWhile isDigit = digits := by
  rw [List.takeWhile_append_of_pos all]
  cases text with
  | nil => simp
  | cons point rest => simp [stop point rest rfl]

theorem dropWhile_digits_append {digits text : Str} (all : ∀ digit ∈ digits, isDigit digit = true)
    (stop : NoDigit text) : (digits ++ text).dropWhile isDigit = text := by
  rw [List.dropWhile_append_of_pos all]
  cases text with
  | nil => rfl
  | cons point rest => simp [stop point rest rfl]

theorem isDigit_digitPoint {digit : Nat} (small : digit < 10) : isDigit (digitPoint digit) = true := by
  have all : ∀ digit < 10, isDigit (digitPoint digit) = true := by decide
  exact all digit small

theorem digitPoint_val {digit : Nat} (small : digit < 10) : (digitPoint digit).val = 48 + digit := by
  have all : ∀ digit < 10, (digitPoint digit).val = 48 + digit := by decide
  exact all digit small

/-- Reading the decimal digits of a number gives the number. -/
theorem natOfText_natText (n : Nat) : natOfText (natText n) = n := by
  by_cases zero : n = 0
  · subst n
    rfl
  · have digitsValue : ∀ digits : List Nat, (∀ digit ∈ digits, digit < 10) →
        natOfText ((digits.map digitPoint).reverse) = Nat.ofDigits 10 digits := by
      intro digits small
      induction digits with
      | nil => rfl
      | cons digit rest ih =>
          have restValue := ih fun other member => small other (List.mem_cons_of_mem digit member)
          have value := digitPoint_val (small digit List.mem_cons_self)
          simp only [natOfText] at restValue
          simp only [natOfText, List.map_cons, List.reverse_cons, List.foldl_append,
            List.foldl_cons, List.foldl_nil, restValue, value, Nat.ofDigits_cons]
          omega
    rw [natText, if_neg zero, digitsValue _ fun digit member => Nat.digits_lt_base (by omega) member]
    exact Nat.ofDigits_digits 10 n

/-- The decimal text of a number is a valid integer part. -/
theorem isWhole_natText (n : Nat) : IsWhole (natText n) := by
  by_cases zero : n = 0
  · exact Or.inl (by rw [natText, if_pos zero])
  · right
    have nonempty : Nat.digits 10 n ≠ [] := Nat.digits_ne_nil_iff_ne_zero.mpr zero
    have lastNonzero := Nat.getLast_digit_ne_zero 10 zero
    have lastSmall : (Nat.digits 10 n).getLast nonempty < 10 :=
      Nat.digits_lt_base (by omega) (List.getLast_mem nonempty)
    refine ⟨digitPoint ((Nat.digits 10 n).getLast nonempty),
      (((Nat.digits 10 n).dropLast).map digitPoint).reverse, ?_, ?_, ?_, ?_⟩
    · rw [natText, if_neg zero]
      conv_lhs => rw [← List.dropLast_append_getLast nonempty]
      simp
    · rw [digitPoint_val lastSmall]
      omega
    · rw [digitPoint_val lastSmall]
      omega
    · intro digit member
      rw [List.mem_reverse] at member
      obtain ⟨value, valueMem, rfl⟩ := List.mem_map.mp member
      exact isDigit_digitPoint (Nat.digits_lt_base (by omega) (List.mem_of_mem_dropLast valueMem))

theorem length_natText_le {n : Nat} (short : (Nat.digits 10 n).length ≤ maxStrDigits) :
    (natText n).length ≤ maxStrDigits := by
  by_cases zero : n = 0
  · simp [natText, zero, maxStrDigits]
  · simpa [natText, zero] using short

/-! ## Strings -/

/-- How a printed character is read: control characters without a letter of
their own come back from a `\\u` escape. -/
def unitOf (point : CodePoint) : StringUnit :=
  (decide (point.val < 32 ∧ point ∉ [8, 12, 10, 13, 9]), point)

/-- The two significant digits of a control character's escape. -/
theorem hexValue_control : ∀ code < 32,
    hexValue (Fin.ofNat 0x110000 (48 + code / 16)) = some (code / 16) ∧
      hexValue (Fin.ofNat 0x110000
        (if code % 16 < 10 then 48 + code % 16 else 87 + code % 16)) = some (code % 16) := by
  decide

/-- One printed character is read as one unit. -/
theorem scanUnits_escape (point : CodePoint) (text : Str) :
    scanUnits .plain (escape point ++ text) = consUnit (unitOf point) (scanUnits .plain text) := by
  by_cases special : point ∈ [34, 92, 8, 12, 10, 13, 9]
  · simp only [List.mem_cons, List.not_mem_nil, or_false] at special
    rcases special with rfl | rfl | rfl | rfl | rfl | rfl | rfl <;> rfl
  · simp only [List.mem_cons, List.not_mem_nil, or_false, not_or] at special
    obtain ⟨quoteMark, backslash, backspace, formFeed, lineFeed, carriage, tab⟩ := special
    by_cases control : point.val < 32
    · have unit : unitOf point = (true, point) := by
        simp [unitOf, control, backspace, formFeed, lineFeed, carriage, tab]
      have zero : hexValue 48 = some 0 := by decide
      obtain ⟨high, low⟩ := hexValue_control point.val control
      have code : Fin.ofNat 0x110000 (((0 * 16 + 0) * 16 + point.val / 16) * 16 + point.val % 16) =
          point := by
        apply Fin.ext
        rw [Fin.val_ofNat, Nat.mod_eq_of_lt (by omega)]
        omega
      rw [escape, if_neg quoteMark, if_neg backslash, if_neg backspace, if_neg formFeed,
        if_neg lineFeed, if_neg carriage, if_neg tab, if_pos control, unit]
      simp only [List.cons_append, List.nil_append]
      rw [scanUnits, if_neg (by decide), if_pos rfl, scanUnits, if_pos rfl]
      simp only [scanUnits, zero, high, low, code, Nat.reduceAdd, Nat.reduceEqDiff, if_false, if_true]
    · have unit : unitOf point = (false, point) := by
        simp [unitOf, control]
      rw [escape, if_neg quoteMark, if_neg backslash, if_neg backspace, if_neg formFeed,
        if_neg lineFeed, if_neg carriage, if_neg tab, if_neg control, unit, List.cons_append,
        List.nil_append, scanUnits, if_neg quoteMark, if_neg backslash, if_neg control]

theorem scanUnits_flatMap_escape (text rest : Str) :
    scanUnits .plain (text.flatMap escape ++ 34 :: rest) = .ok (text.map unitOf, rest) := by
  induction text with
  | nil => simp [scanUnits]
  | cons point text ih =>
      rw [List.flatMap_cons, List.append_assoc, scanUnits_escape, ih]
      rfl

/-- Printed text contains no escaped surrogates, so nothing is joined. -/
theorem joinUnits_map_unitOf (text : Str) : joinUnits none (text.map unitOf) = text := by
  induction text with
  | nil => rfl
  | cons point text ih =>
      have notHigh : ((unitOf point).1 && isHighSurrogate point) = false := by
        by_cases control : point.val < 32
        · have low : isHighSurrogate point = false := by
            simp only [isHighSurrogate, Bool.and_eq_false_iff, decide_eq_false_iff_not]
            omega
          simp [low]
        · simp [unitOf, control]
      rw [List.map_cons, show unitOf point = ((unitOf point).1, point) from rfl, joinUnits, notHigh]
      simp [ih]

/-- The scanner reads back every quoted string. -/
theorem scanString_quote (text rest : Str) :
    scanString (text.flatMap escape ++ 34 :: rest) = .ok (text, rest) := by
  rw [scanString, scanUnits_flatMap_escape]
  simp only [joinUnits_map_unitOf]

/-! ## Number tokens -/

theorem scanWhole_append {whole text : Str} (isWhole : IsWhole whole) (stop : NoDigit text) :
    scanWhole (whole ++ text) = some (whole, text) := by
  rcases isWhole with rfl | ⟨first, rest, rfl, low, high, digits⟩
  · simp [scanWhole]
  · have nonzero : first ≠ 48 := by
      rintro rfl
      exact absurd low (by decide)
    rw [List.cons_append, scanWhole, if_neg nonzero, if_pos ⟨low, high⟩,
      takeWhile_digits_append digits stop, dropWhile_digits_append digits stop]

theorem scanFraction_append {fraction text : Str} (isFraction : IsFraction fraction)
    (stop : NoDigit text) (dot : ∀ rest, text ≠ 46 :: rest) :
    scanFraction (fraction ++ text) = (fraction, text) := by
  rcases isFraction with rfl | ⟨digits, rfl, nonempty, all⟩
  · rw [List.nil_append]
    unfold scanFraction
    split
    · exact absurd rfl (dot _)
    · rfl
  · have taken := takeWhile_digits_append all stop
    rw [List.cons_append, scanFraction]
    simp only [taken, dropWhile_digits_append all stop]
    rw [if_neg (by simpa using nonempty)]

theorem scanExponent_append {exponent text : Str} (isExponent : IsExponent exponent)
    (stop : Delimited text) : scanExponent (exponent ++ text) = (exponent, text) := by
  rcases isExponent with rfl | ⟨sign, digits, rfl, isSign, nonempty, all⟩
  · cases text with
    | nil => rfl
    | cons point rest =>
        obtain ⟨_, _, lower, upper⟩ := stop point rest rfl
        simp [scanExponent, lower, upper]
  · have taken := takeWhile_digits_append all stop.noDigit
    have dropped := dropWhile_digits_append all stop.noDigit
    have scanned : scanSign (sign :: (digits ++ text)) = ([sign], digits ++ text) := by
      rw [scanSign, if_pos isSign]
    rw [List.cons_append, List.cons_append, scanExponent, if_pos (Or.inl rfl), scanned]
    simp only [taken, dropped]
    rw [if_neg (by simpa using nonempty)]
    rfl

theorem noDigit_append_of_isExponent {exponent text : Str} (isExponent : IsExponent exponent)
    (stop : Delimited text) : NoDigit (exponent ++ text) ∧ ∀ rest, exponent ++ text ≠ 46 :: rest := by
  rcases isExponent with rfl | ⟨sign, digits, rfl, _⟩
  · refine ⟨stop.noDigit, ?_⟩
    intro rest equal
    exact (stop 46 rest equal).2.1 rfl
  · constructor
    · intro point rest equal
      cases equal
      rfl
    · intro rest equal
      cases equal

theorem noDigit_append_of_isFraction {fraction text : Str} (isFraction : IsFraction fraction)
    (stop : NoDigit text) : NoDigit (fraction ++ text) := by
  rcases isFraction with rfl | ⟨digits, rfl, _⟩
  · exact stop
  · intro point rest equal
    cases equal
    rfl

/-- The head of an integer part is a digit. -/
theorem head_of_isWhole {whole : Str} (isWhole : IsWhole whole) :
    ∃ first rest, whole = first :: rest ∧ isDigit first = true := by
  rcases isWhole with rfl | ⟨first, rest, rfl, low, high, _⟩
  · exact ⟨48, [], rfl, rfl⟩
  · refine ⟨first, rest, rfl, ?_⟩
    simp only [isDigit, Bool.and_eq_true, decide_eq_true_eq]
    omega

variable [FloatText F]

/-- Reading the magnitude of an integer. -/
theorem scanMagnitude_natText (sign : Str) {n : Nat} {text : Str}
    (short : (natText n).length ≤ maxStrDigits) (stop : Delimited text) :
    scanMagnitude (F := F) sign (natText n ++ text) =
      .ok (.int (if sign.isEmpty then n else -n), text) := by
  have noFraction : scanFraction text = ([], text) := by
    simpa using scanFraction_append (Or.inl rfl) stop.noDigit
      (fun rest equal => (stop 46 rest equal).2.1 rfl)
  have noExponent : scanExponent text = ([], text) := by
    simpa using scanExponent_append (Or.inl rfl) stop
  rw [scanMagnitude, scanWhole_append (isWhole_natText n) stop.noDigit]
  simp only [noFraction, noExponent, List.isEmpty_nil, Bool.and_self, if_true, short,
    natOfText_natText]

theorem dropWord_infinity_of_digit {first : CodePoint} (rest : Str) (digit : isDigit first = true) :
    dropWord [73, 110, 102, 105, 110, 105, 116, 121] (first :: rest) = none := by
  have different : (73 : CodePoint) ≠ first := by
    rintro rfl
    exact absurd digit (by decide)
  simp [dropWord, different]

/-- Every printed integer is read back. -/
theorem scanNumber_intText {value : Int} {text : Str}
    (short : (Nat.digits 10 value.natAbs).length ≤ maxStrDigits) (stop : Delimited text) :
    scanNumber (F := F) (intText value ++ text) = .ok (.int value, text) := by
  have shortText := length_natText_le short
  obtain ⟨first, rest, wholeEq, digit⟩ := head_of_isWhole (isWhole_natText value.natAbs)
  by_cases negative : value < 0
  · rw [intText, if_pos negative, List.cons_append, scanNumber, if_pos rfl, wholeEq,
      List.cons_append, dropWord_infinity_of_digit _ digit]
    have scanned := scanMagnitude_natText (F := F) [45] shortText stop
    rw [wholeEq, List.cons_append] at scanned
    simp only [scanned, List.isEmpty_cons, Bool.false_eq_true, if_false]
    congr 3
    omega
  · have notMinus : first ≠ 45 := by
      rintro rfl
      exact absurd digit (by decide)
    have scanned := scanMagnitude_natText (F := F) [] shortText stop
    rw [wholeEq, List.cons_append] at scanned
    rw [intText, if_neg negative, wholeEq, List.cons_append, scanNumber, if_neg notMinus, scanned]
    simp only [List.isEmpty_nil, if_true]
    congr 3
    omega

/-- Every printed float is read back. -/
theorem scanNumber_repr (value : F) {text : Str} (stop : Delimited text) :
    scanNumber (FloatText.repr value ++ text) = .ok (.float (.finite value), text) := by
  have parsed := FloatText.parse_repr value
  obtain ⟨sign, whole, fraction, exponent, tokenEq, isSign, isWhole, isFraction, isExponent, real⟩ :=
    FloatText.isFloatToken_repr value
  rw [tokenEq] at parsed ⊢
  have afterFraction := noDigit_append_of_isExponent isExponent stop
  have magnitude : scanMagnitude (F := F) sign (whole ++ (fraction ++ (exponent ++ text))) =
      .ok (.float (.finite value), text) := by
    rw [scanMagnitude, scanWhole_append isWhole (noDigit_append_of_isFraction isFraction afterFraction.1)]
    simp only [scanFraction_append isFraction afterFraction.1 afterFraction.2,
      scanExponent_append isExponent stop, parsed]
    rw [if_neg]
    simp only [Bool.and_eq_true, List.isEmpty_iff, not_and]
    intro noFraction
    exact real.resolve_left fun present => present noFraction
  obtain ⟨first, rest, wholeEq, digit⟩ := head_of_isWhole isWhole
  simp only [List.append_assoc]
  rcases isSign with rfl | rfl
  · have notMinus : first ≠ 45 := by
      rintro rfl
      exact absurd digit (by decide)
    rw [wholeEq] at magnitude ⊢
    rw [List.nil_append, List.cons_append, scanNumber, if_neg notMinus]
    exact magnitude
  · rw [wholeEq] at magnitude ⊢
    rw [List.cons_append, List.nil_append, scanNumber, if_pos rfl, List.cons_append,
      dropWord_infinity_of_digit _ digit]
    exact magnitude

/-! ## Values -/

/-- The first character of a printed value: an ASCII character other than whitespace
and closing brackets and braces. -/
theorem print_head (value : Json F) :
    ∃ first rest, print value = first :: rest ∧ isWhitespace first = false ∧
      first ≠ 93 ∧ first ≠ 125 ∧ first.val < 128 := by
  have ofDigit : ∀ first : CodePoint, isDigit first = true →
      isWhitespace first = false ∧ first ≠ 93 ∧ first ≠ 125 ∧ first.val < 128 := by
    intro first digit
    simp only [isDigit, Bool.and_eq_true, decide_eq_true_eq] at digit
    simp only [isWhitespace, Bool.or_eq_false_iff, beq_eq_false_iff_ne]
    refine ⟨⟨⟨⟨?_, ?_⟩, ?_⟩, ?_⟩, ?_, ?_, by omega⟩ <;> rintro rfl <;> revert digit <;> decide
  have minus : isWhitespace 45 = false ∧ (45 : CodePoint) ≠ 93 ∧ (45 : CodePoint) ≠ 125 ∧
      (45 : CodePoint).val < 128 := by decide
  cases value with
  | null => exact ⟨110, _, by rw [print], by decide⟩
  | bool value => cases value <;> exact ⟨_, _, by rw [print], by decide⟩
  | int value =>
      rw [print, intText]
      obtain ⟨first, rest, wholeEq, digit⟩ := head_of_isWhole (isWhole_natText value.natAbs)
      split
      · exact ⟨45, _, rfl, minus⟩
      · exact ⟨first, rest, wholeEq, ofDigit first digit⟩
  | float value =>
      rw [print]
      obtain ⟨sign, whole, fraction, exponent, tokenEq, isSign, isWhole, _⟩ :=
        FloatText.isFloatToken_repr value
      obtain ⟨first, rest, wholeEq, digit⟩ := head_of_isWhole isWhole
      rcases isSign with rfl | rfl
      · exact ⟨first, rest ++ fraction ++ exponent, by simp [tokenEq, wholeEq], ofDigit first digit⟩
      · exact ⟨45, whole ++ fraction ++ exponent, by simp [tokenEq], minus⟩
  | str value => exact ⟨34, _, by rw [print]; rfl, by decide⟩
  | array items =>
      cases items with
      | nil => exact ⟨91, _, by rw [print], by decide⟩
      | cons item rest => exact ⟨91, _, by rw [print, List.cons_append], by decide⟩
  | object members =>
      cases members with
      | nil => exact ⟨123, _, by rw [print], by decide⟩
      | cons member rest => exact ⟨123, _, by rw [print, List.cons_append, List.cons_append], by decide⟩

theorem skipWhitespace_print_append (value : Json F) (text : Str) :
    skipWhitespace (print value ++ text) = print value ++ text := by
  obtain ⟨first, rest, printEq, notSpace, _⟩ := print_head value
  simp [skipWhitespace, printEq, notSpace]

/-- The text of an array behind its opening bracket. -/
def joinItems : List (Json F) → Str
  | [] => [93]
  | item :: rest => print item ++ printItems rest

/-- The text of an object behind its opening brace. -/
def joinMembers : List (Str × Json F) → Str
  | [] => [125]
  | (key, value) :: rest => quote key ++ 58 :: print value ++ printMembers rest

theorem printItems_eq (items : List (Json F)) :
    printItems items = if items = [] then [93] else 44 :: joinItems items := by
  cases items with
  | nil => rw [printItems, if_pos rfl]
  | cons item rest => rw [printItems, if_neg (by simp), joinItems, List.cons_append]

theorem printMembers_eq (members : List (Str × Json F)) :
    printMembers members = if members = [] then [125] else 44 :: joinMembers members := by
  cases members with
  | nil => rw [printMembers, if_pos rfl]
  | cons member rest =>
      obtain ⟨key, value⟩ := member
      rw [printMembers, if_neg (by simp), joinMembers]
      simp

theorem length_print_pos (value : Json F) : 0 < (print value).length := by
  obtain ⟨first, rest, printEq, _⟩ := print_head value
  simp [printEq]

omit [FloatText F] in
theorem scanWord_append (word text : Str) (value : PyValue F) :
    scanWord word value (word ++ text) = .ok (value, text) := by
  have dropped : ∀ word : Str, dropWord word (word ++ text) = some text := by
    intro word
    induction word with
    | nil => rfl
    | cons point word ih => simp [dropWord, ih]
  simp [scanWord, dropped]

/-- A value whose first character is that of a number is scanned as one. -/
theorem scanOnce_number {fuel : Nat} {first : CodePoint} {rest : Str}
    (start : isDigit first = true ∨ first = 45) :
    scanOnce (F := F) (fuel + 1) (first :: rest) = scanNumber (first :: rest) := by
  have different : ∀ other : CodePoint, isDigit other = false → other ≠ 45 → first ≠ other := by
    rintro other notDigit notMinus rfl
    rcases start with digit | minus
    · rw [digit] at notDigit
      contradiction
    · exact notMinus minus
  rw [scanOnce, if_neg (different 34 (by decide) (by decide)),
    if_neg (different 123 (by decide) (by decide)), if_neg (different 91 (by decide) (by decide)),
    if_neg (different 110 (by decide) (by decide)), if_neg (different 116 (by decide) (by decide)),
    if_neg (different 102 (by decide) (by decide)), if_neg (different 78 (by decide) (by decide)),
    if_neg (different 73 (by decide) (by decide))]

omit [FloatText F] in
theorem toPyMembers_eq_map (members : List (Str × Json F)) :
    toPyMembers members = members.map fun member => (.str member.1, toPy member.2) := by
  induction members with
  | nil => rfl
  | cons member rest ih => simp [toPyMembers, ih]

omit [FloatText F] in
/-- Scanned pairs with distinct keys become the members in their order. -/
theorem buildObject_of_nodup (members : List (Str × Json F))
    (nodup : (members.map Prod.fst).Nodup) :
    buildObject (members.map fun member => (member.1, toPy member.2)) =
      .mapping (toPyMembers members) := by
  rw [buildObject, Dict.foldl_assign_of_nodup _ _ (by simpa [Function.comp_def] using nodup),
    toPyMembers_eq_map]
  simp

mutual

/-- The scanner reads back every printed value. -/
theorem scanOnce_print : ∀ (value : Json F) (fuel : Nat) (text : Str),
    (print value).length ≤ fuel → intsPrintable value = true → DistinctKeys value →
    Delimited text → scanOnce fuel (print value ++ text) = .ok (toPy value, text)
  | value, 0, _, enough, _, _, _ => by
      have positive := length_print_pos value
      omega
  | .null, fuel + 1, text, _, _, _, _ => by
      rw [print, List.cons_append, scanOnce]
      exact scanWord_append [117, 108, 108] text .none
  | .bool true, fuel + 1, text, _, _, _, _ => by
      rw [print, List.cons_append, scanOnce]
      exact scanWord_append [114, 117, 101] text (.bool true)
  | .bool false, fuel + 1, text, _, _, _, _ => by
      rw [print, List.cons_append, scanOnce]
      exact scanWord_append [97, 108, 115, 101] text (.bool false)
  | .int value, fuel + 1, text, _, printable, _, delimited => by
      have scanned := scanNumber_intText (F := F) (of_decide_eq_true printable) delimited
      obtain ⟨first, rest, textEq, start⟩ : ∃ first rest, intText value = first :: rest ∧
          (isDigit first = true ∨ first = 45) := by
        obtain ⟨first, rest, wholeEq, digit⟩ := head_of_isWhole (isWhole_natText value.natAbs)
        rw [intText]
        split
        · exact ⟨45, _, rfl, Or.inr rfl⟩
        · exact ⟨first, rest, wholeEq, Or.inl digit⟩
      rw [textEq, List.cons_append] at scanned
      rw [print, textEq, List.cons_append, scanOnce_number start, scanned, toPy]
  | .float value, fuel + 1, text, _, _, _, delimited => by
      have scanned := scanNumber_repr value delimited
      obtain ⟨first, rest, textEq, start⟩ : ∃ first rest, FloatText.repr value = first :: rest ∧
          (isDigit first = true ∨ first = 45) := by
        obtain ⟨sign, whole, fraction, exponent, tokenEq, isSign, isWhole, _⟩ :=
          FloatText.isFloatToken_repr value
        obtain ⟨first, rest, wholeEq, digit⟩ := head_of_isWhole isWhole
        rcases isSign with rfl | rfl
        · exact ⟨first, rest ++ fraction ++ exponent, by simp [tokenEq, wholeEq], Or.inl digit⟩
        · exact ⟨45, whole ++ fraction ++ exponent, by simp [tokenEq], Or.inr rfl⟩
      rw [textEq, List.cons_append] at scanned
      rw [print, textEq, List.cons_append, scanOnce_number start, scanned, toPy]
  | .str value, fuel + 1, text, _, _, _, _ => by
      rw [print, quote, List.cons_append, List.cons_append, scanOnce, if_pos rfl,
        List.append_assoc, List.cons_append, List.nil_append, scanString_quote]
      rfl
  | .array [], fuel + 1, text, _, _, _, _ => by
      rw [print]
      rfl
  | .array (item :: rest), fuel + 1, text, enough, printable, distinct, _ => by
      have shorter : (joinItems (item :: rest)).length ≤ fuel := by
        simpa [print, joinItems] using enough
      have scanned := scanItems_print (item :: rest) fuel text (by simp) shorter printable distinct
      obtain ⟨first, tail, printEq, notSpace, notBracket, _⟩ := print_head item
      rw [joinItems, printEq, List.cons_append, List.cons_append] at scanned
      rw [print, printEq, List.cons_append, List.cons_append, List.cons_append, List.cons_append,
        scanOnce, if_neg (by decide), if_neg (by decide), if_pos rfl]
      have skipped : skipWhitespace (first :: (tail ++ printItems rest ++ text)) =
          first :: (tail ++ printItems rest ++ text) := by
        simp [skipWhitespace, notSpace]
      rw [skipped]
      split
      · rename_i after equal
        cases equal
        exact absurd rfl notBracket
      · rw [scanned, toPy]
  | .object [], fuel + 1, text, _, _, _, _ => by
      rw [print]
      rfl
  | .object ((key, value) :: rest), fuel + 1, text, enough, printable, distinct, _ => by
      have shorter : (joinMembers ((key, value) :: rest)).length ≤ fuel := by
        simpa [print, joinMembers] using enough
      have scanned := scanMembers_print ((key, value) :: rest) fuel text (by simp) shorter
        printable distinct.2
      rw [joinMembers] at scanned
      rw [print, List.cons_append, List.cons_append, List.cons_append, scanOnce,
        if_neg (by decide), if_pos rfl]
      have quoted : ∀ after, skipWhitespace (quote key ++ after) = quote key ++ after := by
        intro after
        rfl
      simp only [List.append_assoc] at scanned ⊢
      rw [quoted]
      split
      · rename_i after equal
        exact absurd (List.cons.inj equal).1 (by decide)
      · rw [scanned, toPy]
        simp only [buildObject_of_nodup _ distinct.1]

theorem scanItems_print : ∀ (items : List (Json F)) (fuel : Nat) (text : Str), items ≠ [] →
    (joinItems items).length ≤ fuel → intsPrintableItems items = true → DistinctKeysItems items →
    scanItems fuel (joinItems items ++ text) = .ok (toPyItems items, text)
  | [], _, _, nonempty, _, _, _ => absurd rfl nonempty
  | item :: rest, 0, _, _, enough, _, _ => by
      have positive := length_print_pos item
      simp only [joinItems, List.length_append] at enough
      omega
  | item :: rest, fuel + 1, text, _, enough, printable, distinct => by
      rw [joinItems, List.length_append] at enough
      have positive := length_print_pos item
      have printableBoth := (Bool.and_eq_true _ _).mp printable
      by_cases last : rest = []
      · subst rest
        have scanned := scanOnce_print item fuel (93 :: text)
          (by simp only [printItems, List.length_singleton] at enough; omega)
          printableBoth.1 distinct.1
          (delimited_cons (by decide) (by decide) (by decide) (by decide))
        rw [joinItems, printItems, List.append_assoc, List.singleton_append, scanItems, scanned]
        rfl
      · have tailText : printItems rest = 44 :: joinItems rest := by
          rw [printItems_eq, if_neg last]
        rw [tailText, List.length_cons] at enough
        have scanned := scanOnce_print item fuel (44 :: (joinItems rest ++ text)) (by omega)
          printableBoth.1 distinct.1
          (delimited_cons (by decide) (by decide) (by decide) (by decide))
        have scannedRest := scanItems_print rest fuel text last (by omega) printableBoth.2 distinct.2
        have skipped : skipWhitespace (joinItems rest ++ text) = joinItems rest ++ text := by
          cases rest with
          | nil => exact absurd rfl last
          | cons next rest => rw [joinItems, List.append_assoc, skipWhitespace_print_append]
        have comma : skipWhitespace (44 :: (joinItems rest ++ text)) =
            44 :: (joinItems rest ++ text) := rfl
        rw [joinItems, tailText, List.append_assoc, List.cons_append, scanItems, scanned]
        simp only [comma, skipped, scannedRest, toPyItems]

theorem scanMembers_print : ∀ (members : List (Str × Json F)) (fuel : Nat) (text : Str),
    members ≠ [] → (joinMembers members).length ≤ fuel →
    intsPrintableMembers members = true → DistinctKeysMembers members →
    scanMembers fuel (joinMembers members ++ text) =
      .ok (members.map fun member => (member.1, toPy member.2), text)
  | [], _, _, nonempty, _, _, _ => absurd rfl nonempty
  | (key, value) :: rest, 0, _, _, enough, _, _ => by
      have positive := length_print_pos value
      simp only [joinMembers, List.length_append, List.length_cons] at enough
      omega
  | (key, value) :: rest, fuel + 1, text, _, enough, printable, distinct => by
      rw [joinMembers, List.length_append, List.length_append, List.length_cons] at enough
      have positive := length_print_pos value
      have printableBoth := (Bool.and_eq_true _ _).mp printable
      have colon : ∀ after, skipWhitespace (58 :: after) = 58 :: after := fun _ => rfl
      by_cases last : rest = []
      · subst rest
        have scanned := scanOnce_print value fuel (125 :: text)
          (by simp only [printMembers, List.length_singleton] at enough; omega)
          printableBoth.1 distinct.1
          (delimited_cons (by decide) (by decide) (by decide) (by decide))
        have brace : skipWhitespace (125 :: text) = 125 :: text := rfl
        rw [joinMembers, printMembers, quote]
        simp only [List.append_assoc, List.cons_append, List.nil_append]
        rw [scanMembers]
        simp only [scanString_quote, colon, skipWhitespace_print_append, scanned, brace,
          List.map_cons, List.map_nil]
      · have tailText : printMembers rest = 44 :: joinMembers rest := by
          rw [printMembers_eq, if_neg last]
        rw [tailText, List.length_cons] at enough
        have scanned := scanOnce_print value fuel (44 :: (joinMembers rest ++ text)) (by omega)
          printableBoth.1 distinct.1
          (delimited_cons (by decide) (by decide) (by decide) (by decide))
        have scannedRest := scanMembers_print rest fuel text last (by omega) printableBoth.2
          distinct.2
        have skipped : skipWhitespace (joinMembers rest ++ text) = joinMembers rest ++ text := by
          cases rest with
          | nil => exact absurd rfl last
          | cons next rest => rfl
        have comma : skipWhitespace (44 :: (joinMembers rest ++ text)) =
            44 :: (joinMembers rest ++ text) := rfl
        rw [joinMembers, tailText, quote]
        simp only [List.append_assoc, List.cons_append, List.nil_append]
        rw [scanMembers]
        simp only [scanString_quote, colon, skipWhitespace_print_append, scanned, comma, skipped,
          scannedRest, List.map_cons]

end

/-- `json.loads` inverts the printer on every value with distinct keys. -/
theorem loads_print (value : Json F) (printable : intsPrintable value = true)
    (distinct : DistinctKeys value) : loads (print value) = .ok (toPy value) := by
  have scanned := scanOnce_print value ((print value).length + 1) [] (by omega) printable distinct
    delimited_nil
  have skipped := skipWhitespace_print_append value []
  rw [List.append_nil] at scanned skipped
  obtain ⟨first, rest, printEq, _, _, _, ascii⟩ := print_head value
  unfold loads
  split
  · rename_i after equal
    rw [printEq] at equal
    rw [(List.cons.inj equal).1] at ascii
    exact absurd ascii (by decide)
  · simp only [skipped, scanned]
    rfl

end DataLifecycle.Python.Json
