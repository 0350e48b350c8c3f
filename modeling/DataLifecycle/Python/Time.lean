import Mathlib.Algebra.Ring.Nat
import Mathlib.Order.Fin.Basic

/-!
# Python timestamps

`datetime` covers the proleptic Gregorian years 1 to 9999 with microsecond
resolution.  An aware UTC timestamp is therefore a number of microseconds below
a fixed bound, and every addition that leaves the range fails the way Python
raises `OverflowError`.
-/

namespace DataLifecycle.Python

/-- Microseconds in the representable range: 3652059 days of 86400 seconds. -/
def calendarMicros : Nat := 3652059 * 86400 * 1000000

/-- Lengths of the months of a year. -/
def monthLengths (leap : Bool) : List Nat :=
  [31, if leap then 29 else 28, 31, 30, 31, 30, 31, 31, 30, 31, 30, 31]

/-- An aware timestamp normalized to UTC. -/
abbrev Utc := Fin calendarMicros

instance calendarMicros_neZero : NeZero calendarMicros := ⟨by decide⟩

/-- A `datetime` value: wall-clock fields and, for an aware value, the offset
of its zone from UTC. -/
structure DateTime where
  wall : Utc
  offset : Option Int
  deriving DecidableEq

/-- Why a timestamp cannot be normalized. -/
inductive TimeError
  | naive
  | outOfRange
  deriving DecidableEq

/-- The timestamp at a signed number of microseconds, when it is in range. -/
def Utc.ofInt (micros : Int) : Option Utc :=
  if inRange : 0 ≤ micros ∧ micros < calendarMicros then
    some ⟨micros.toNat, by omega⟩
  else
    none

/-- `datetime + timedelta`, the duration being given in microseconds. -/
def Utc.add (instant : Utc) (duration : Int) : Option Utc :=
  Utc.ofInt (instant.val + duration)

theorem Utc.ofInt_of_inRange {micros : Int} (inRange : 0 ≤ micros ∧ micros < calendarMicros) :
    Utc.ofInt micros = some ⟨micros.toNat, by omega⟩ :=
  dif_pos inRange

@[simp]
theorem Utc.add_zero (instant : Utc) : instant.add 0 = some instant := by
  have inRange : (0 : Int) ≤ instant.val ∧ (instant.val : Int) < calendarMicros := by omega
  rw [Utc.add, Int.add_zero, Utc.ofInt_of_inRange inRange]
  simp

theorem Utc.val_of_add_eq_some {instant later : Utc} {duration : Int}
    (added : instant.add duration = some later) : (later.val : Int) = instant.val + duration := by
  unfold Utc.add Utc.ofInt at added
  split at added
  next inRange =>
    cases added
    exact Int.toNat_of_nonneg inRange.1
  next => contradiction

/-- A successful addition of a positive duration moves strictly forward. -/
theorem Utc.lt_of_add_eq_some {instant later : Utc} {duration : Int}
    (positive : 0 < duration) (added : instant.add duration = some later) :
    instant < later := by
  unfold Utc.add Utc.ofInt at added
  split at added
  · cases added
    rw [Fin.lt_def]
    change instant.val < (instant.val + duration).toNat
    omega
  · contradiction

namespace DateTime

/-- The aware value whose zone is UTC. -/
def ofUtc (instant : Utc) : DateTime := ⟨instant, some 0⟩

/-- `value.astimezone(UTC)` for an aware value. -/
def toUtc (value : DateTime) : Except TimeError Utc :=
  match value.offset with
  | none => .error .naive
  | some offset => (value.wall.add (-offset)).elim (.error .outOfRange) .ok

@[simp]
theorem toUtc_ofUtc (instant : Utc) : (ofUtc instant).toUtc = .ok instant := by
  simp [toUtc, ofUtc]

end DateTime

end DataLifecycle.Python
