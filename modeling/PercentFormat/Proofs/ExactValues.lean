import PercentFormat.Proofs.DoubleRange
import PercentFormat.Proofs.ReadBack

/-! # The exact values of numbers

A finite number is a rational number: a whole number is itself, and a magnitude is its number of
units over that of one. The tests and the whole part of a number are said here of this value.

* **`Magnitude.toRat`**, **`Double.toRat`**, **`Number.toRat`** — the exact value.
* **`Number.isNegative_iff`** — a number is negative if its exact value is below zero.
* **`Number.wholePart_eq_floor`** — the whole part is the floor of the absolute value.
* **`Number.truncate_eq_signed`** — the whole number towards zero is this part with the sign. -/

namespace PercentFormat

/-- A power of two as a rational number. -/
theorem cast_pow2 (n : ℕ) : (pow2 n : ℚ) = 2 ^ n := Nat.cast_pow 2 n

/-- One has a positive number of units. -/
theorem unitsPerOne_pos : 0 < unitsPerOne := pow2_pos 1074

namespace Magnitude

/-- The **exact value** of a magnitude. -/
def toRat (x : Magnitude) : ℚ := x.units / unitsPerOne

/-- The exact value of a whole number of at most 53 binary digits times a power of two. -/
theorem toRat_scaleBinary (m e : ℕ) (small : m < pow2 53) (bounded : e ≤ 2045) :
    (scaleBinary m e small bounded).toRat = m * 2 ^ (e - 1074 : ℤ) := by
  rw [toRat, scaleBinary, unitsPerOne, Nat.cast_mul, cast_pow2, cast_pow2, mul_div_assoc,
    zpow_sub₀ two_ne_zero, zpow_natCast, zpow_ofNat]

/-- A magnitude is not below zero. -/
theorem toRat_nonneg (x : Magnitude) : 0 ≤ x.toRat := by
  unfold toRat
  positivity

/-- A magnitude is zero if it has no units. -/
theorem toRat_eq_zero_iff {x : Magnitude} : x.toRat = 0 ↔ x.units = 0 := by
  have one : (unitsPerOne : ℚ) ≠ 0 := Nat.cast_ne_zero.2 unitsPerOne_pos.ne'
  rw [toRat, div_eq_zero_iff, or_iff_left one, Nat.cast_eq_zero]

/-- A magnitude is known by its exact value. -/
theorem toRat_injective : Function.Injective toRat := by
  rintro ⟨units, fits⟩ ⟨others, fits'⟩ same
  have one : (unitsPerOne : ℚ) ≠ 0 := Nat.cast_ne_zero.2 unitsPerOne_pos.ne'
  rw [toRat, toRat, div_left_inj' one, Nat.cast_inj] at same
  subst same
  rfl

/-- The whole part of a magnitude is the floor of its exact value. -/
theorem floor_toRat (x : Magnitude) : ⌊x.toRat⌋₊ = x.floor := Nat.floor_div_eq_div ..

end Magnitude

/-- The **exact value** of a double; zero for what is not finite. -/
def Double.toRat : Double → ℚ
  | finite negative x => if negative then -x.toRat else x.toRat
  | _ => 0

namespace Double

/-- Without its sign a finite double is its magnitude. -/
@[simp] theorem abs_toRat_finite (negative : Bool) (x : Magnitude) :
    |(finite negative x).toRat| = x.toRat := by
  have notBelow := abs_of_nonneg x.toRat_nonneg
  cases negative
  · exact notBelow
  · exact (abs_neg x.toRat).trans notBelow

/-- A finite double is below zero if it has a minus and is not zero. -/
theorem toRat_finite_neg_iff {negative : Bool} {x : Magnitude} :
    (finite negative x).toRat < 0 ↔ negative = true ∧ x.units ≠ 0 := by
  have notBelow := x.toRat_nonneg
  cases negative
  · simp [toRat, notBelow]
  · simp [toRat, notBelow.lt_iff_ne', Magnitude.toRat_eq_zero_iff]

end Double

namespace Number

/-- The **exact value** of a number; zero for what is not finite. -/
def toRat : Number → ℚ
  | whole n => n
  | double x => x.toRat

/-- A finite number is negative if its exact value is below zero. -/
theorem isNegative_iff {n : Number} (finite : n.isFinite = true) :
    n.isNegative = true ↔ n.toRat < 0 := by
  cases n with
  | whole n => simp [isNegative, toRat]
  | double x =>
    cases x with
    | finite negative x =>
      rw [toRat, Double.toRat_finite_neg_iff]
      simp [isNegative, Double.isNegative]
    | infinite negative => contradiction
    | nan => contradiction

/-- The whole part of a number is the floor of its absolute value. -/
theorem wholePart_eq_floor (n : Number) : wholePart n = ⌊|n.toRat|⌋₊ := by
  cases n with
  | whole n =>
    have absolute : |(whole n).toRat| = (n.natAbs : ℚ) := by
      rw [toRat, Nat.cast_natAbs, Int.cast_abs]
    rw [absolute, Nat.floor_natCast]
    rfl
  | double x =>
    cases x with
    | finite negative x =>
      rw [toRat, Double.abs_toRat_finite, Magnitude.floor_toRat]
      cases negative
      · rfl
      · exact Int.natAbs_neg x.floor
    -- what is not finite counts for zero on both sides
    | infinite negative => simp [wholePart, truncate, Double.truncate, toRat, Double.toRat]
    | nan => simp [wholePart, truncate, Double.truncate, toRat, Double.toRat]

/-- The whole number towards zero is the whole part with the sign of the number. -/
theorem truncate_eq_signed (n : Number) : n.truncate = signed n.isNegative (wholePart n) := by
  cases n with
  | whole n => exact (signed_natAbs n).symm
  | double x =>
    cases x with
    | finite negative x =>
      cases negative
      · simp [truncate, Double.truncate, isNegative, Double.isNegative, wholePart, signed]
      · -- a zero with a minus truncates to zero, as one without a minus does
        by_cases zero : x.units = 0
        · have none : x.floor = 0 := by rw [Magnitude.floor, zero, Nat.zero_div]
          simp [truncate, Double.truncate, wholePart, signed, none]
        · simp [truncate, Double.truncate, isNegative, Double.isNegative, wholePart, signed, zero]
    | infinite negative => simp [truncate, Double.truncate, wholePart, signed]
    | nan => rfl

end Number

end PercentFormat
