import Mathlib.Algebra.Order.Round
import Mathlib.Data.Int.Log
import Mathlib.Tactic.Linarith
import Mathlib.Tactic.Positivity
import Mathlib.Tactic.Ring

/-!
# Rounding to a binary format

A binary format with a fixed number of fraction digits keeps, of every positive
number, the nearest multiple of a unit that depends on the magnitude of the
number only.  Rounding is monotone, keeps the numbers of the format, and is off
by at most half a unit.  No exponent range is considered.
-/

namespace DataLifecycle.Python

variable {α : Type*} [Field α] [LinearOrder α] [IsStrictOrderedRing α] [FloorRing α]

/-- The nearest integer, ties to even. -/
def nearestInt (value : α) : Int :=
  let rest := Int.fract value
  if rest < 1 / 2 ∨ rest = 1 / 2 ∧ ⌊value⌋ % 2 = 0 then ⌊value⌋ else ⌊value⌋ + 1

omit [IsStrictOrderedRing α] in
theorem floor_le_nearestInt (value : α) : ⌊value⌋ ≤ nearestInt value := by
  unfold nearestInt
  dsimp only
  split <;> omega

omit [IsStrictOrderedRing α] in
theorem nearestInt_le_floor_add_one (value : α) : nearestInt value ≤ ⌊value⌋ + 1 := by
  unfold nearestInt
  dsimp only
  split <;> omega

/-- The nearest integer is at most half a unit away. -/
theorem abs_nearestInt_sub_le (value : α) : |(nearestInt value : α) - value| ≤ 1 / 2 := by
  have below := Int.fract_nonneg value
  have above := Int.fract_lt_one value
  have whole := Int.floor_add_fract value
  unfold nearestInt
  dsimp only
  split
  next down =>
    have small : Int.fract value ≤ 1 / 2 := by
      rcases down with less | ⟨tie, -⟩
      · exact less.le
      · exact tie.le
    rw [abs_le]
    constructor <;> linarith
  next up =>
    have large : 1 / 2 ≤ Int.fract value := not_lt.mp fun less => up (.inl less)
    rw [Int.cast_add, Int.cast_one, abs_le]
    constructor <;> linarith

@[simp]
theorem nearestInt_intCast (n : Int) : nearestInt (n : α) = n := by
  unfold nearestInt
  rw [Int.fract_intCast, Int.floor_intCast]
  exact if_pos (.inl (by positivity))

/-- Rounding to an integer is monotone. -/
theorem nearestInt_mono {first second : α} (le : first ≤ second) :
    nearestInt first ≤ nearestInt second := by
  rcases (Int.floor_mono le).lt_or_eq with less | same
  · have upper := nearestInt_le_floor_add_one first
    have lower := floor_le_nearestInt second
    omega
  · have fracts : Int.fract first ≤ Int.fract second := by
      have firstWhole := Int.floor_add_fract first
      have secondWhole := Int.floor_add_fract second
      rw [same] at firstWhole
      linarith
    unfold nearestInt
    dsimp only
    rw [same]
    split
    next => split <;> omega
    next up =>
      rw [if_neg]
      rintro (less | ⟨tie, even⟩)
      · exact up (.inl (fracts.trans_lt less))
      · rcases fracts.lt_or_eq with less | equal
        · exact up (.inl (tie ▸ less))
        · exact up (.inr ⟨equal.trans tie, even⟩)

/-! ## Multiples of a unit -/

/-- The nearest multiple of a unit, ties to even multiples. -/
def nearestMultiple (unit value : α) : α := nearestInt (value / unit) * unit

omit [IsStrictOrderedRing α] in
theorem nearestMultiple_eq (unit value : α) :
    nearestMultiple unit value =
      if Int.fract (value / unit) < 1 / 2 ∨
          Int.fract (value / unit) = 1 / 2 ∧ ⌊value / unit⌋ % 2 = 0 then
        ⌊value / unit⌋ * unit
      else
        (⌊value / unit⌋ + 1) * unit := by
  unfold nearestMultiple nearestInt
  dsimp only
  split
  next => rfl
  next => rw [Int.cast_add, Int.cast_one]

theorem abs_nearestMultiple_sub_le {unit : α} (positive : 0 < unit) (value : α) :
    |nearestMultiple unit value - value| ≤ unit / 2 := by
  have near := abs_nearestInt_sub_le (value / unit)
  have scaled : nearestMultiple unit value - value =
      (nearestInt (value / unit) - value / unit) * unit := by
    rw [nearestMultiple, sub_mul, div_mul_cancel₀ _ positive.ne']
  rw [scaled, abs_mul, abs_of_pos positive]
  calc |(nearestInt (value / unit) : α) - value / unit| * unit
      ≤ 1 / 2 * unit := mul_le_mul_of_nonneg_right near positive.le
    _ = unit / 2 := by ring

/-- A multiple of the unit is kept. -/
theorem nearestMultiple_of_multiple {unit : α} (positive : 0 < unit) (n : Int) :
    nearestMultiple unit (n * unit) = n * unit := by
  rw [nearestMultiple, mul_div_assoc, div_self positive.ne', mul_one, nearestInt_intCast]

theorem nearestMultiple_mono {unit : α} (positive : 0 < unit) :
    Monotone (nearestMultiple unit) := by
  intro first second le
  have quotients : first / unit ≤ second / unit := div_le_div_of_nonneg_right le positive.le
  exact mul_le_mul_of_nonneg_right (Int.cast_le.mpr (nearestInt_mono quotients)) positive.le

/-! ## Binary formats -/

/-- The unit of a positive number with the given number of fraction digits. -/
def binaryUnit (digits : Nat) (value : α) : α := 2 ^ (Int.log 2 value - digits)

/-- The nearest number of the format, ties to even. -/
def nearestBinary (digits : Nat) (value : α) : α :=
  nearestMultiple (binaryUnit digits value) value

theorem binaryUnit_pos (digits : Nat) (value : α) : 0 < binaryUnit digits value :=
  zpow_pos two_pos _

/-- Half a unit is small against the number. -/
theorem binaryUnit_le (digits : Nat) {value : α} (positive : 0 < value) :
    binaryUnit digits value ≤ value / 2 ^ digits := by
  rw [binaryUnit, zpow_sub₀ two_ne_zero, zpow_natCast]
  have lower : (2 : α) ^ Int.log 2 value ≤ value := by
    exact_mod_cast Int.zpow_log_le_self (R := α) one_lt_two positive
  exact div_le_div_of_nonneg_right lower (by positivity)

/-- Rounding changes a number by a fixed fraction of it at most. -/
theorem abs_nearestBinary_sub_le (digits : Nat) {value : α} (positive : 0 < value) :
    |nearestBinary digits value - value| ≤ value / 2 ^ (digits + 1) := by
  have near := abs_nearestMultiple_sub_le (binaryUnit_pos digits value) value
  have unit := binaryUnit_le digits positive
  have halves : value / 2 ^ digits / 2 = value / 2 ^ (digits + 1) := by
    rw [div_div, pow_succ]
  change |nearestMultiple (binaryUnit digits value) value - value| ≤ _
  linarith

/-- Powers of two from the unit on are kept. -/
theorem nearestMultiple_zpow (digits : Nat) (value : α) {exponent : Int}
    (large : Int.log 2 value ≤ exponent + digits) :
    nearestMultiple (binaryUnit digits value) (2 ^ exponent) = 2 ^ exponent := by
  obtain ⟨count, countEq⟩ := Int.eq_ofNat_of_zero_le
    (show 0 ≤ exponent - (Int.log 2 value - digits) by omega)
  have multiple : (2 : α) ^ exponent = ((2 ^ count : Int) : α) * binaryUnit digits value := by
    rw [binaryUnit, Int.cast_pow, Int.cast_ofNat, ← zpow_natCast, ← zpow_add₀ two_ne_zero]
    congr 1
    omega
  rw [multiple, nearestMultiple_of_multiple (binaryUnit_pos digits value)]

theorem nearestBinary_le_zpow (digits : Nat) (value : α) :
    nearestBinary digits value ≤ 2 ^ (Int.log 2 value + 1) := by
  have upper : value ≤ (2 : α) ^ (Int.log 2 value + 1) := by
    exact_mod_cast (Int.lt_zpow_succ_log_self one_lt_two value).le
  rw [← nearestMultiple_zpow digits value (by omega)]
  exact nearestMultiple_mono (binaryUnit_pos digits value) upper

theorem zpow_le_nearestBinary (digits : Nat) {value : α} (positive : 0 < value) :
    2 ^ Int.log 2 value ≤ nearestBinary digits value := by
  have lower : (2 : α) ^ Int.log 2 value ≤ value := by
    exact_mod_cast Int.zpow_log_le_self (R := α) one_lt_two positive
  rw [← nearestMultiple_zpow digits value (by omega)]
  exact nearestMultiple_mono (binaryUnit_pos digits value) lower

/-- Rounding is monotone.  Numbers of different magnitude are kept apart by a power of two. -/
theorem nearestBinary_mono (digits : Nat) {first second : α} (positive : 0 < first)
    (le : first ≤ second) : nearestBinary digits first ≤ nearestBinary digits second := by
  rcases (Int.log_mono_right (b := 2) positive le).lt_or_eq with less | same
  · calc nearestBinary digits first
        ≤ 2 ^ (Int.log 2 first + 1) := nearestBinary_le_zpow digits first
      _ ≤ 2 ^ Int.log 2 second := zpow_le_zpow_right₀ one_le_two (by omega)
      _ ≤ nearestBinary digits second := zpow_le_nearestBinary digits (positive.trans_le le)
  · have units : binaryUnit digits first = binaryUnit digits second := by
      rw [binaryUnit, binaryUnit, same]
    rw [nearestBinary, nearestBinary, units]
    exact nearestMultiple_mono (binaryUnit_pos digits second) le

theorem nearestBinary_pos (digits : Nat) {value : α} (positive : 0 < value) :
    0 < nearestBinary digits value :=
  (zpow_pos two_pos _).trans_le (zpow_le_nearestBinary digits positive)

end DataLifecycle.Python
