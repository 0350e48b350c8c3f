import DataLifecycle.Canonical
import DataLifecycle.Python.JsonRoundTrip

/-!
# The text of a timestamp determines it

`rfc3339` prints the civil date, the time of day and six digits of microseconds, each at a fixed
width.  The day number is read back from the civil date, so no two timestamps share a text, and
`parseRfc3339` reads every text of `rfc3339` back as the timestamp it was printed from.
-/

namespace DataLifecycle

open Python

/-! ## Fixed-width numbers -/

theorem length_padded (width n : Nat) : (padded width n).length = width := by
  simp [padded]

/-- One more digit in front. -/
theorem padded_succ (width n : Nat) :
    padded (width + 1) n = Json.digitPoint (n / 10 ^ width % 10) :: padded width n := by
  simp [padded, List.range_succ]

/-- Padded digits determine the number that fits. -/
theorem padded_injective {width first second : Nat}
    (equal : padded width first = padded width second) :
    first % 10 ^ width = second % 10 ^ width := by
  induction width with
  | zero => simp [Nat.mod_one]
  | succ width inductionHypothesis =>
      rw [padded_succ, padded_succ, List.cons.injEq] at equal
      have lower := inductionHypothesis equal.2
      have small : ∀ n : Nat, n % 10 < 10 := fun n => Nat.mod_lt n (by decide)
      have digit := congrArg Fin.val equal.1
      rw [Json.digitPoint_val (small _), Json.digitPoint_val (small _)] at digit
      have sameDigit : first / 10 ^ width % 10 = second / 10 ^ width % 10 := by omega
      rw [pow_succ, Nat.mod_mul, Nat.mod_mul, lower, sameDigit]

/-! ## Civil dates -/

/-- The day of the year is read back from the month and the day, and the day lies in the month. -/
theorem monthDay_spec (lengths : List Nat) (month day : Nat) (small : day < lengths.sum) :
    ∃ before length, (monthDay lengths month day).1 = month + before ∧
      lengths[before]? = some length ∧ 0 < (monthDay lengths month day).2 ∧
      (monthDay lengths month day).2 ≤ length ∧
      (lengths.take before).sum + ((monthDay lengths month day).2 - 1) = day := by
  induction lengths generalizing month day with
  | nil => simp at small
  | cons length rest inductionHypothesis =>
      rw [monthDay]
      split
      next inMonth => exact ⟨0, length, rfl, rfl, Nat.succ_pos day, inMonth, by simp⟩
      next =>
        rw [List.sum_cons] at small
        obtain ⟨before, found, monthEq, inYear, positive, inMonth, total⟩ :=
          inductionHypothesis (month + 1) (day - length) (by omega)
        refine ⟨before + 1, found, by omega, by simpa using inYear, positive, inMonth, ?_⟩
        rw [List.take_succ_cons, List.sum_cons]
        omega

/-- The number of days before a civil date. -/
def dayNumber (date : Nat × Nat × Nat) : Nat :=
  IsoFormat.daysBeforeYear date.1 +
    ((monthLengths (IsoFormat.isLeap date.1)).take (date.2.1 - 1)).sum + (date.2.2 - 1)

/-- A date of the calendar, whatever its year. -/
def IsDate (date : Nat × Nat × Nat) : Prop :=
  ∃ length, (monthLengths (IsoFormat.isLeap date.1))[date.2.1 - 1]? = some length ∧
    1 ≤ date.1 ∧ 1 ≤ date.2.1 ∧ 1 ≤ date.2.2 ∧ date.2.2 ≤ length

/-- The days before a year, by its place in the cycles of 400, 100 and 4 years. -/
theorem daysBeforeYear_cycles (cycles centuries quads years : Nat) (centuriesLt : centuries < 4)
    (quadsLt : quads < 25) (yearsLt : years < 4) :
    IsoFormat.daysBeforeYear (cycles * 400 + centuries * 100 + quads * 4 + years + 1) =
      cycles * 146097 + centuries * 36524 + quads * 1461 + years * 365 := by
  rw [IsoFormat.daysBeforeYear]
  omega

theorem isLeap_cycles (cycles centuries quads years : Nat) (centuriesLt : centuries < 4)
    (quadsLt : quads < 25) (yearsLt : years < 4) :
    IsoFormat.isLeap (cycles * 400 + centuries * 100 + quads * 4 + years + 1) =
      decide (years = 3 ∧ (quads ≠ 24 ∨ centuries = 3)) := by
  rw [IsoFormat.isLeap, decide_eq_decide]
  omega

theorem sum_monthLengths (leap : Bool) : (monthLengths leap).sum = if leap then 366 else 365 := by
  cases leap <;> rfl

theorem daysBeforeYear_succ {year : Nat} (positive : 0 < year) :
    IsoFormat.daysBeforeYear (year + 1) =
      IsoFormat.daysBeforeYear year + if IsoFormat.isLeap year then 366 else 365 := by
  obtain ⟨before, rfl⟩ : ∃ before, year = before + 1 := ⟨year - 1, by omega⟩
  have ordered : before / 100 ≤ before / 4 := Nat.div_le_div_left (by decide) (by decide)
  have fours : 100 ∣ before + 1 → 4 ∣ before + 1 := (show 4 ∣ 100 by decide).trans
  have hundreds : 400 ∣ before + 1 → 100 ∣ before + 1 := (show 100 ∣ 400 by decide).trans
  simp only [IsoFormat.daysBeforeYear, IsoFormat.isLeap, Nat.add_sub_cancel, decide_eq_true_eq,
    ne_eq, ← Nat.dvd_iff_mod_eq_zero, Nat.succ_div]
  generalize before / 4 = quads at ordered ⊢
  generalize before / 100 = centuries at ordered ⊢
  by_cases four : 4 ∣ before + 1
  · by_cases hundred : 100 ∣ before + 1
    · by_cases cycle : 400 ∣ before + 1
      · simp only [four, hundred, cycle, if_true, not_true, or_true, and_true]
        omega
      · simp only [four, hundred, cycle, if_true, if_false, not_true, or_self, and_false]
        omega
    · have noCycle : ¬ 400 ∣ before + 1 := mt hundreds hundred
      simp only [four, hundred, noCycle, if_true, if_false, not_false_iff, and_true, or_false]
      omega
  · have noHundred : ¬ 100 ∣ before + 1 := mt fours four
    have noCycle : ¬ 400 ∣ before + 1 := mt hundreds noHundred
    simp only [four, noHundred, noCycle, if_false, not_false_iff, and_true, or_false]
    omega

theorem monthLengths_lt (leap : Bool) : ∀ length ∈ monthLengths leap, length < 100 := by
  cases leap <;> decide

/-- The last of December is the day before the next year. -/
theorem dayNumber_lastDay {year : Nat} (positive : 0 < year) :
    dayNumber (year, 12, 31) + 1 = IsoFormat.daysBeforeYear (year + 1) := by
  rw [daysBeforeYear_succ positive, dayNumber]
  cases IsoFormat.isLeap year with
  | true => rfl
  | false => rfl

theorem isDate_lastDay {year : Nat} (positive : 0 < year) : IsDate (year, 12, 31) := by
  refine ⟨31, ?_, positive, ?_, ?_, le_rfl⟩
  rotate_left
  · exact Nat.succ_pos 11
  · exact Nat.succ_pos 30
  cases IsoFormat.isLeap year with
  | true => rfl
  | false => rfl

/-- The civil date of a day number is a date of the calendar, and the day number is read back. -/
theorem civilDate_spec (days : Nat) :
    IsDate (civilDate days) ∧ dayNumber (civilDate days) = days := by
  rw [civilDate]
  simp only
  generalize cycles : days / 146097 = cycle
  generalize centuries : days % 146097 / 36524 = century
  generalize quads : days % 146097 % 36524 / 1461 = quad
  generalize years : days % 146097 % 36524 % 1461 / 365 = year
  -- The last century of a cycle and the last quad of a century are one day short or long.
  have bounds : century ≤ 4 ∧ quad < 25 ∧ year ≤ 4 ∧ (century = 4 → quad = 0 ∧ year = 0) ∧
      (year = 4 → quad < 24) := by omega
  have total : days = cycle * 146097 + century * 36524 + quad * 1461 + year * 365 +
      days % 146097 % 36524 % 1461 % 365 := by omega
  split
  next last =>
    have positive : 0 < cycle * 400 + century * 100 + quad * 4 + year := by omega
    have lastDay := dayNumber_lastDay positive
    rw [Nat.add_sub_cancel]
    refine ⟨isDate_lastDay positive, ?_⟩
    rcases last with rfl | rfl
    · have next := daysBeforeYear_cycles cycle century (quad + 1) 0 (by omega) (by omega) (by omega)
      have sameYear : cycle * 400 + century * 100 + (quad + 1) * 4 + 0 =
          cycle * 400 + century * 100 + quad * 4 + 4 := by omega
      rw [sameYear] at next
      omega
    · obtain ⟨rfl, rfl⟩ := bounds.2.2.2.1 rfl
      have next := daysBeforeYear_cycles (cycle + 1) 0 0 0 (by omega) (by omega) (by omega)
      have sameYear : (cycle + 1) * 400 + 0 * 100 + 0 * 4 + 0 =
          cycle * 400 + 4 * 100 + 0 * 4 + 0 := by omega
      rw [sameYear] at next
      omega
  next inside =>
    rw [not_or] at inside
    have before := daysBeforeYear_cycles cycle century quad year (by omega) (by omega) (by omega)
    have leap := isLeap_cycles cycle century quad year (by omega) (by omega) (by omega)
    obtain ⟨months, length, monthEq, found, positive, inMonth, sum⟩ := monthDay_spec
      (monthLengths (decide (year = 3 ∧ (quad ≠ 24 ∨ century = 3)))) 1
      (days % 146097 % 36524 % 1461 % 365) (by rw [sum_monthLengths]; split <;> omega)
    refine ⟨⟨length, ?_, Nat.succ_pos _, ?_, positive, inMonth⟩, ?_⟩
    · simpa only [leap, monthEq, Nat.add_sub_cancel_left] using found
    · exact monthEq ▸ Nat.le_add_right 1 months
    · rw [dayNumber]
      simp only [before, leap, monthEq, Nat.add_sub_cancel_left]
      omega

theorem IsDate.bounds {date : Nat × Nat × Nat} (isDate : IsDate date) :
    date.2.1 < 100 ∧ date.2.2 < 100 := by
  obtain ⟨length, found, -, -, -, inMonth⟩ := isDate
  have inYear : date.2.1 - 1 < 12 := (List.getElem?_eq_some_iff.mp found).1
  have short := monthLengths_lt _ length (List.mem_of_getElem? found)
  omega

theorem year_lt {days : Nat} (inRange : days < 3652059) : (civilDate days).1 < 10000 := by
  rw [civilDate]
  simp only
  split
  next last =>
    show _ - 1 < 10000
    omega
  next inside =>
    show _ + 1 < 10000
    omega

/-- Every part of a civil date in the calendar fits its width. -/
theorem civilDate_bounds {days : Nat} (inRange : days < 3652059) :
    (civilDate days).1 < 10000 ∧ (civilDate days).2.1 < 100 ∧ (civilDate days).2.2 < 100 :=
  ⟨year_lt inRange, (civilDate_spec days).1.bounds⟩

theorem IsDate.calendarDay {date : Nat × Nat × Nat} (isDate : IsDate date) :
    IsoFormat.calendarDay date.1 date.2.1 date.2.2 = some (dayNumber date) := by
  obtain ⟨length, found, positive⟩ := isDate
  rw [IsoFormat.calendarDay, found]
  simp [guard, positive, dayNumber]

/-! ## Timestamps -/

theorem eq_of_padded_eq {width first second : Nat} (equal : padded width first = padded width second)
    (firstFits : first < 10 ^ width) (secondFits : second < 10 ^ width) : first = second := by
  have same := padded_injective equal
  rwa [Nat.mod_eq_of_lt firstFits, Nat.mod_eq_of_lt secondFits] at same

/-- The day of a timestamp lies in the calendar. -/
theorem Utc.day_lt (instant : Utc) : instant.val / 1000000 / 86400 < 3652059 := by
  have small : instant.val < 3652059 * 86400 * 1000000 := instant.isLt
  omega

/-- No two timestamps have the same text. -/
theorem rfc3339_injective : Function.Injective rfc3339 := by
  intro first second equal
  have splits : ∀ {left right : Str} {width firstNumber secondNumber : Nat},
      left ++ padded width firstNumber = right ++ padded width secondNumber →
      left = right ∧ padded width firstNumber = padded width secondNumber := by
    intro left right width firstNumber secondNumber same
    exact List.append_inj' same (by rw [length_padded, length_padded])
  have firstBounds := civilDate_bounds (Utc.day_lt first)
  have secondBounds := civilDate_bounds (Utc.day_lt second)
  rw [rfc3339, rfc3339] at equal
  simp only [List.append_cancel_right_eq] at equal
  obtain ⟨equal, micros⟩ := splits equal
  simp only [List.append_cancel_right_eq] at equal
  obtain ⟨equal, seconds⟩ := splits equal
  simp only [List.append_cancel_right_eq] at equal
  obtain ⟨equal, minutes⟩ := splits equal
  simp only [List.append_cancel_right_eq] at equal
  obtain ⟨equal, hours⟩ := splits equal
  simp only [List.append_cancel_right_eq] at equal
  obtain ⟨equal, dates⟩ := splits equal
  simp only [List.append_cancel_right_eq] at equal
  obtain ⟨equal, months⟩ := splits equal
  simp only [List.append_cancel_right_eq] at equal
  have sameDate : civilDate (first.val / 1000000 / 86400) = civilDate (second.val / 1000000 / 86400) :=
    Prod.ext (eq_of_padded_eq equal firstBounds.1 secondBounds.1)
      (Prod.ext (eq_of_padded_eq months firstBounds.2.1 secondBounds.2.1)
        (eq_of_padded_eq dates firstBounds.2.2 secondBounds.2.2))
  have sameDay := congrArg dayNumber sameDate
  rw [(civilDate_spec _).2, (civilDate_spec _).2] at sameDay
  have sameMicros := eq_of_padded_eq micros (by omega) (by omega)
  have sameSeconds := eq_of_padded_eq seconds (by omega) (by omega)
  have sameMinutes := eq_of_padded_eq minutes (by omega) (by omega)
  have sameHours := eq_of_padded_eq hours (by omega) (by omega)
  apply Fin.ext
  omega

/-! ## Reading a timestamp back -/

/-- `YYYY-MM-DD`. -/
def dateText (date : Nat × Nat × Nat) : Str :=
  padded 4 date.1 ++ 45 :: (padded 2 date.2.1 ++ 45 :: padded 2 date.2.2)

/-- `HH:MM:SS.ffffff`. -/
def clockText (hour minute second micros : Nat) : Str :=
  padded 2 hour ++ 58 :: (padded 2 minute ++ 58 :: (padded 2 second ++ 46 :: padded 6 micros))

/-- The parts of the text of a timestamp. -/
theorem rfc3339_eq (instant : Utc) :
    rfc3339 instant = dateText (civilDate (instant.val / 1000000 / 86400)) ++
      84 :: clockText (instant.val / 1000000 / 3600 % 24) (instant.val / 1000000 / 60 % 60)
        (instant.val / 1000000 % 60) (instant.val % 1000000) ++ str "Z" := by
  simp [rfc3339, dateText, clockText, str]

/-- Padded digits are read back, whatever follows them. -/
theorem digits_padded (width n : Nat) (rest : Str) :
    IsoFormat.digits width (padded width n ++ rest) = some (n % 10 ^ width, rest) := by
  induction width with
  | zero => simp [padded, IsoFormat.digits, Nat.mod_one]
  | succ width inductionHypothesis =>
      have small : n / 10 ^ width % 10 < 10 := Nat.mod_lt _ (by decide)
      rw [padded_succ, List.cons_append, IsoFormat.digits, if_pos (Json.isDigit_digitPoint small),
        inductionHypothesis, Option.map_some, Json.digitPoint_val small, Nat.add_sub_cancel_left,
        pow_succ, Nat.mod_mul, Nat.mul_comm, Nat.add_comm]

theorem digits_padded_of_lt {width n : Nat} (fits : n < 10 ^ width) (rest : Str) :
    IsoFormat.digits width (padded width n ++ rest) = some (n, rest) := by
  rw [digits_padded, Nat.mod_eq_of_lt fits]

theorem isDigit_of_mem_padded {width n : Nat} {point : CodePoint} (member : point ∈ padded width n) :
    isDigit point = true := by
  rw [padded, List.mem_reverse] at member
  obtain ⟨i, -, rfl⟩ := List.mem_map.mp member
  exact Json.isDigit_digitPoint (Nat.mod_lt _ (by decide))

/-- A number does not start with a letter or a mark. -/
theorem literal_padded {expected : CodePoint} (mark : isDigit expected = false) (width n : Nat)
    (rest : Str) : IsoFormat.literal expected (padded (width + 1) n ++ rest) = none := by
  rw [padded_succ, List.cons_append, IsoFormat.literal, if_neg]
  rintro rfl
  rw [Json.isDigit_digitPoint (Nat.mod_lt _ (by decide))] at mark
  contradiction

theorem literal_cons (point : CodePoint) (rest : Str) :
    IsoFormat.literal point (point :: rest) = some rest :=
  if_pos rfl

theorem date_dateText {days : Nat} (inRange : days < 3652059) (rest : Str) :
    IsoFormat.date (dateText (civilDate days) ++ rest) = some (days, rest) := by
  obtain ⟨yearFits, monthFits, dayFits⟩ := civilDate_bounds inRange
  have number := (civilDate_spec days).1.calendarDay
  rw [(civilDate_spec days).2] at number
  have year := @digits_padded_of_lt 4 _ yearFits
  have month := @digits_padded_of_lt 2 _ monthFits
  have day := @digits_padded_of_lt 2 _ dayFits
  have noWeek := @literal_padded 87 rfl 1 (civilDate days).2.1
  simp [dateText, IsoFormat.date, IsoFormat.separator, literal_cons, year, noWeek, month, day,
    number]

theorem fraction_printed {micros : Nat} (fits : micros < 10 ^ 6) :
    IsoFormat.fraction (padded 6 micros) = some micros := by
  have nonempty : padded 6 micros ≠ [] := List.ne_nil_of_length_eq_add_one (length_padded 6 micros)
  have allDigits : (padded 6 micros).all isDigit = true :=
    List.all_eq_true.mpr fun _ member => isDigit_of_mem_padded member
  have read := digits_padded_of_lt fits []
  rw [List.append_nil] at read
  rw [IsoFormat.fraction, List.take_left' (length_padded 6 micros), read]
  simp [guard, nonempty, allDigits]

theorem timeOfDay_clockText {hour minute second micros : Nat} (hourFits : hour < 24)
    (minuteFits : minute < 60) (secondFits : second < 60) (microsFit : micros < 1000000) :
    IsoFormat.timeOfDay (clockText hour minute second micros) =
      some (((hour * 60 + minute) * 60 + second) * 1000000 + micros) := by
  have read : ∀ {n : Nat}, n < 60 → ∀ rest,
      IsoFormat.digits 2 (padded 2 n ++ rest) = some (n, rest) :=
    fun fits rest => digits_padded_of_lt (fits.trans (by decide)) rest
  have clock : IsoFormat.clock (clockText hour minute second micros) =
      some (hour, minute, second, micros) := by
    simp [clockText, IsoFormat.clock, IsoFormat.seconds, IsoFormat.separator, literal_cons,
      read (hourFits.trans (by decide)), read minuteFits, read secondFits,
      fraction_printed microsFit]
  rw [IsoFormat.timeOfDay, clock]
  simp [guard, hourFits, minuteFits, secondFits]

theorem mem_clockText {point : CodePoint} {hour minute second micros : Nat}
    (member : point ∈ clockText hour minute second micros) :
    isDigit point = true ∨ point = 58 ∨ point = 46 := by
  simp only [clockText, List.mem_append, List.mem_cons] at member
  rcases member with member | rfl | member | rfl | member | rfl | member
  all_goals first
    | exact .inl (isDigit_of_mem_padded member)
    | exact .inr (.inl rfl)
    | exact .inr (.inr rfl)

theorem mem_dateText {point : CodePoint} {date : Nat × Nat × Nat}
    (member : point ∈ dateText date) : isDigit point = true ∨ point = 45 := by
  simp only [dateText, List.mem_append, List.mem_cons] at member
  rcases member with member | rfl | member | rfl | member
  all_goals first
    | exact .inl (isDigit_of_mem_padded member)
    | exact .inr rfl

theorem isZoneMark_of_isDigit {point : CodePoint} (digit : isDigit point = true) :
    IsoFormat.isZoneMark point = false := by
  simp only [IsoFormat.isZoneMark, Bool.or_eq_false_iff, decide_eq_false_iff_not]
  refine ⟨⟨?_, ?_⟩, ?_⟩ <;> rintro rfl <;> contradiction

/-- The time of day is what stands before the offset. -/
theorem time_printed {clock : Str} {micros : Nat}
    (noMark : ∀ point ∈ clock, IsoFormat.isZoneMark point = false)
    (read : IsoFormat.timeOfDay clock = some micros) :
    IsoFormat.time (clock ++ str "+00:00") = some (micros, some 0) := by
  have before : ∀ point ∈ clock, (!IsoFormat.isZoneMark point) = true :=
    fun point member => by rw [noMark point member, Bool.not_false]
  have zone : IsoFormat.offset (str "+00:00") = some (some 0) := by decide +kernel
  rw [IsoFormat.time, List.takeWhile_append_of_pos before, List.dropWhile_append_of_pos before]
  show (do
    let micros ← IsoFormat.timeOfDay (clock ++ [])
    let zone ← IsoFormat.offset (str "+00:00")
    pure (micros, zone)) = _
  rw [List.append_nil, read, zone]
  rfl

/-- The suffix `Z` is spelt as an offset, and no other character changes. -/
theorem flatMap_zulu {text : Str} (absent : ∀ point ∈ text, point ≠ 90) :
    (text ++ str "Z").flatMap (fun point => if point = 90 then str "+00:00" else [point]) =
      text ++ str "+00:00" := by
  have fixed : ∀ point ∈ text, (if point = 90 then str "+00:00" else [point]) = [point] :=
    fun point member => if_neg (absent point member)
  have last : (str "Z").flatMap (fun point => if point = 90 then str "+00:00" else [point]) =
      str "+00:00" := rfl
  rw [List.flatMap_append, List.flatMap_congr fixed, List.flatMap_singleton', last]

/-- A date, any separator and a time are read one after the other. -/
theorem fromisoformat_eq_some {text rest : Str} {mark : CodePoint} {days micros : Nat}
    {zone : Option Int} {wall : Utc} (dateRead : IsoFormat.date text = some (days, mark :: rest))
    (timeRead : IsoFormat.time rest = some (micros, zone))
    (inRange : Utc.ofInt (days * 86400000000 + micros) = some wall) :
    fromisoformat text = some ⟨wall, zone⟩ := by
  rw [fromisoformat, dateRead, Option.bind_eq_bind, Option.bind_some]
  show (IsoFormat.time rest).bind _ = _
  rw [timeRead, Option.bind_some]
  show (Utc.ofInt (days * 86400000000 + micros)).bind _ = _
  rw [inRange]
  rfl

theorem fromisoformat_printed (instant : Utc) :
    fromisoformat (dateText (civilDate (instant.val / 1000000 / 86400)) ++
      84 :: clockText (instant.val / 1000000 / 3600 % 24) (instant.val / 1000000 / 60 % 60)
        (instant.val / 1000000 % 60) (instant.val % 1000000) ++ str "+00:00") =
      some (DateTime.ofUtc instant) := by
  have hour : instant.val / 1000000 / 3600 % 24 < 24 := Nat.mod_lt _ (by decide)
  have minute : instant.val / 1000000 / 60 % 60 < 60 := Nat.mod_lt _ (by decide)
  have second : instant.val / 1000000 % 60 < 60 := Nat.mod_lt _ (by decide)
  have micros : instant.val % 1000000 < 1000000 := Nat.mod_lt _ (by omega)
  have timeRead := time_printed
    (fun point member => (mem_clockText member).elim isZoneMark_of_isDigit
      fun mark => by rcases mark with rfl | rfl <;> rfl)
    (timeOfDay_clockText hour minute second micros)
  have total : ((instant.val / 1000000 / 86400 : Nat) : Int) * 86400000000 +
      (((instant.val / 1000000 / 3600 % 24 * 60 + instant.val / 1000000 / 60 % 60) * 60 +
        instant.val / 1000000 % 60) * 1000000 + instant.val % 1000000 : Nat) =
      instant.val + 0 := by
    omega
  rw [List.append_assoc, List.cons_append]
  exact fromisoformat_eq_some (date_dateText (Utc.day_lt instant) _) timeRead
    ((congrArg Utc.ofInt total).trans (Utc.add_zero instant))

/-- A timestamp is read back from its text. -/
theorem parseRfc3339_rfc3339 (field : String) (instant : Utc) :
    parseRfc3339 field (rfc3339 instant) = .ok instant := by
  rw [parseRfc3339, rfc3339_eq, flatMap_zulu, fromisoformat_printed]
  · exact ensureUtc_eq_ok_iff.mpr (DateTime.toUtc_ofUtc instant)
  · intro point member
    simp only [List.mem_append, List.mem_cons] at member
    rintro rfl
    rcases member with inDate | zulu | inClock
    · exact absurd (mem_dateText inDate) (by decide)
    · exact absurd zulu (by decide)
    · exact absurd (mem_clockText inClock) (by decide)

end DataLifecycle
