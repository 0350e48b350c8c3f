import DataLifecycle.Python.Json
import DataLifecycle.Python.Time

/-!
# Reading ISO 8601 timestamps

`datetime.fromisoformat` as its documentation has it: calendar and week dates in the
basic and the extended format, any one character as the separator, a time down to a
decimal fraction of a second, and an offset from UTC.  Digits beyond microseconds are
dropped.  Fractions of an hour or a minute are refused, which some releases of the
interpreter let through.
-/

namespace DataLifecycle.Python

namespace IsoFormat

/-- A number of exactly the given count of digits. -/
def digits : Nat → Str → Option (Nat × Str)
  | 0, text => some (0, text)
  | _ + 1, [] => none
  | count + 1, point :: rest =>
      if isDigit point then
        (digits count rest).map fun (value, rest) => ((point.val - 48) * 10 ^ count + value, rest)
      else
        none

/-- A given character. -/
def literal (expected : CodePoint) : Str → Option Str
  | [] => none
  | point :: rest => if point = expected then some rest else none

/-- The separator of an extended format, or nothing in a basic one. -/
def separator (extended : Bool) (expected : CodePoint) (text : Str) : Option Str :=
  if extended then literal expected text else some text

def isLeap (year : Nat) : Bool := year % 4 = 0 ∧ (year % 100 ≠ 0 ∨ year % 400 = 0)

/-- Days before the first of January. -/
def daysBeforeYear (year : Nat) : Nat :=
  (year - 1) * 365 + (year - 1) / 4 - (year - 1) / 100 + (year - 1) / 400

/-- The zero-based day number of a calendar date. -/
def calendarDay (year month day : Nat) : Option Nat := do
  let length ← (monthLengths (isLeap year))[month - 1]?
  guard (1 ≤ year ∧ 1 ≤ month ∧ 1 ≤ day ∧ day ≤ length)
  pure (daysBeforeYear year + ((monthLengths (isLeap year)).take (month - 1)).sum + (day - 1))

/-- The day number of the Monday that starts the first ISO week of a year.  It may
lie before the first of January of year 1. -/
def firstMonday (year : Nat) : Int :=
  let newYear : Int := daysBeforeYear year
  let weekday := newYear % 7
  if weekday ≤ 3 then newYear - weekday else newYear + (7 - weekday)

/-- The zero-based day number of an ISO week date. -/
def weekDay (year week day : Nat) : Option Nat := do
  guard (1 ≤ year ∧ 1 ≤ week ∧ 1 ≤ day ∧ day ≤ 7)
  guard (firstMonday year + 7 * week ≤ firstMonday (year + 1))
  let number := firstMonday year + 7 * (week - 1) + (day - 1)
  guard (0 ≤ number ∧ number < 3652059)
  pure number.toNat

/-- Whether a weekday follows the number of an ISO week.  Any character may separate the time
from the date.  A hyphen before two digits is taken for that separator, and so is the first of an
odd number of digits, unless it is the only one, since the digits of a time come in pairs. -/
def hasWeekday (extended : Bool) (text : Str) : Bool :=
  if extended then
    !(text.drop 2).head?.any isDigit
  else
    let count := (text.takeWhile isDigit).length
    count = 1 ∨ count % 2 = 0

/-- The day of an ISO week, which is Monday when it is left out. -/
def optionalDay (extended : Bool) (text : Str) : Nat × Str :=
  if hasWeekday extended text then
    match separator extended 45 text >>= digits 1 with
    | some found => found
    | none => (1, text)
  else
    (1, text)

/-- A date and what follows it. -/
def date (text : Str) : Option (Nat × Str) := do
  let (year, rest) ← digits 4 text
  let extended := rest.head? == some 45
  let rest ← separator extended 45 rest
  match literal 87 rest with
  | some rest => do
      let (week, rest) ← digits 2 rest
      let (day, rest) := optionalDay extended rest
      let number ← weekDay year week day
      pure (number, rest)
  | none => do
      let (month, rest) ← digits 2 rest
      let rest ← separator extended 45 rest
      let (day, rest) ← digits 2 rest
      let number ← calendarDay year month day
      pure (number, rest)

/-- The decimal fraction of a second in microseconds. -/
def fraction (text : Str) : Option Nat := do
  guard (text ≠ [] ∧ text.all isDigit = true)
  let (value, _) ← digits 6 ((text ++ List.replicate 6 48).take 6)
  pure value

/-- Seconds with their fraction, at the end of a clock text. -/
def seconds (text : Str) : Option (Nat × Nat) := do
  let (second, rest) ← digits 2 text
  match rest with
  | [] => pure (second, 0)
  | mark :: rest => do
      guard (mark = 46 ∨ mark = 44)
      let micros ← fraction rest
      pure (second, micros)

/-- Hours, minutes, seconds and microseconds of `HH[:MM[:SS[.f…]]]` or of the same
without colons. -/
def clock (text : Str) : Option (Nat × Nat × Nat × Nat) := do
  let (hour, rest) ← digits 2 text
  if rest = [] then pure (hour, 0, 0, 0)
  else do
    let extended := rest.head? == some 58
    let rest ← separator extended 58 rest
    let (minute, rest) ← digits 2 rest
    if rest = [] then pure (hour, minute, 0, 0)
    else do
      let rest ← separator extended 58 rest
      let (second, micros) ← seconds rest
      pure (hour, minute, second, micros)

/-- The microseconds of a time of day. -/
def timeOfDay (text : Str) : Option Nat := do
  let (hour, minute, second, micros) ← clock text
  guard (hour < 24 ∧ minute < 60 ∧ second < 60)
  pure (((hour * 60 + minute) * 60 + second) * 1000000 + micros)

/-- An offset from UTC, which is less than a day. -/
def offset : Str → Option (Option Int)
  | [] => some none
  | sign :: rest =>
      if sign = 90 then
        if rest = [] then some (some 0) else none
      else do
        let (hour, minute, second, micros) ← clock rest
        let size : Int := ((hour * 60 + minute) * 60 + second) * 1000000 + micros
        guard (size < 86400000000)
        pure (some (if sign = 45 then -size else size))

/-- The start of an offset. -/
def isZoneMark (point : CodePoint) : Bool := point = 43 || point = 45 || point = 90

/-- The microseconds of the day and the offset. -/
def time (text : Str) : Option (Nat × Option Int) := do
  let micros ← timeOfDay (text.takeWhile fun point => !isZoneMark point)
  let zone ← offset (text.dropWhile fun point => !isZoneMark point)
  pure (micros, zone)

end IsoFormat

/-- `datetime.fromisoformat`. -/
def fromisoformat (text : Str) : Option DateTime := do
  let (day, rest) ← IsoFormat.date text
  let (micros, zone) ← match rest with
    | [] => some (0, none)
    | _ :: rest => IsoFormat.time rest
  let wall ← Utc.ofInt (day * 86400000000 + micros)
  pure ⟨wall, zone⟩

example : fromisoformat (str "20260102T020405,0000069+0100") =
    fromisoformat (str "2026-W01-5 02:04:05.000006+01:00") := by
  decide +kernel

example : fromisoformat (str "2026-W01-12:30") = fromisoformat (str "2026W01112:30") := by
  decide +kernel

end DataLifecycle.Python
