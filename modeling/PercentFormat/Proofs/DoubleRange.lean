import Mathlib
import PercentFormat.Number

/-! # The range of doubles

A quotient is rounded to a double unless it lies at or beyond the middle between the greatest double
and the first power of two that is too large. The middle itself is a tie, and the even one of its
two neighbours is the one that is too large.

* **`le_roundHalfEven_iff`** — the quotients that are rounded to an even number or a greater one.
* **`overflowBound`** — the least number that is too large for a double.
* **`Magnitude.ofRatio?_eq_none_iff`** — the quotients that have no nearest double.
* **`Number.FitsDouble`** — the numbers that have a nearest double, with
  **`Number.isFinite_toDouble_iff`**. -/

namespace PercentFormat

/-! ## Rounding to an even number -/

/-- A quotient is rounded to an even number `m` or a greater one from `m - 1/2` on: the tie there
goes to `m`. -/
theorem le_roundHalfEven_iff {num den m : Nat} (positive : 0 < den) (even : m % 2 = 0) :
    m ≤ roundHalfEven num den ↔ 2 * (m * den) ≤ 2 * num + den := by
  have below := roundHalfEven_mul_le num den
  have above := two_mul_le_roundHalfEven num positive
  constructor
  · intro reached
    have products : m * den ≤ roundHalfEven num den * den := Nat.mul_le_mul_right den reached
    rw [Nat.mul_assoc] at below
    omega
  · intro high
    by_contra short
    -- what is rounded to less than `m` lies below the tie or on it
    obtain ⟨k, rfl⟩ : ∃ k, m = k + 1 := ⟨m - 1, by omega⟩
    have least : roundHalfEven num den ≤ k := by omega
    have products : roundHalfEven num den * den ≤ k * den := Nat.mul_le_mul_right den least
    rw [Nat.add_mul, Nat.mul_assoc, Nat.one_mul] at above
    rw [Nat.add_mul, Nat.one_mul] at high
    have tie : 2 * num = 2 * (k * den) + den := by omega
    have floor : num / den = k := by
      refine Nat.div_eq_of_lt_le (by omega) ?_
      rw [Nat.add_mul, Nat.one_mul]
      omega
    have rest : 2 * (num % den) = den := by
      have whole := Nat.div_add_mod num den
      rw [floor, Nat.mul_comm] at whole
      omega
    have rounded := roundHalfEven_even_of_tie rest
    have same : roundHalfEven num den = k := by
      have := div_le_roundHalfEven num den
      omega
    omega

/-! ## Quotients that are too large -/

/-- The least number that is too large for a double: the middle between the greatest double and
`2 ^ 1024`. -/
def overflowBound : Nat := pow2 1024 - pow2 970

/-- The powers of two up to `2 ^ 970` are below the bound. -/
theorem pow2_lt_overflowBound : pow2 970 < overflowBound := by
  have next : pow2 971 = pow2 970 * 2 := pow2_succ 970
  have second : pow2 972 = pow2 971 * 2 := pow2_succ 971
  have less : pow2 972 ≤ pow2 1024 := pow2_le_pow2 (by decide)
  have positive := pow2_pos 970
  rw [overflowBound]
  omega

namespace Magnitude

/-- The overflow bound in units. -/
def overflowUnits : Nat := pow2 2098 - pow2 2044

/-- Below the last binary order of doubles, all quotients are rounded to doubles. -/
theorem nearestUnits_lt_of_log2_lt {num den : Nat} (small : (num / den).log2 < 2097) :
    nearestUnits num den < unitsBound := by
  have rounded := roundHalfEven_spacing_le num den
  calc nearestUnits num den
      ≤ pow2 53 * pow2 ((num / den).log2 - 52) := Nat.mul_le_mul_right _ rounded
    _ = pow2 (53 + ((num / den).log2 - 52)) := (pow2_add ..).symm
    _ ≤ pow2 2097 := pow2_le_pow2 (by omega)
    _ < unitsBound := by
      have next : unitsBound = pow2 2097 * 2 := pow2_succ 2097
      have positive := pow2_pos 2097
      omega

/-- In the last binary order of doubles, the quotients from the middle above the greatest double on
are rounded to what is too large. -/
theorem unitsBound_le_nearestUnits_iff_of_log2_eq {num den : Nat} (positive : 0 < den)
    (last : (num / den).log2 = 2097) :
    unitsBound ≤ nearestUnits num den ↔ overflowUnits * den ≤ num := by
  have bound : unitsBound = pow2 53 * pow2 2045 := pow2_add 53 2045
  have even : pow2 53 % 2 = 0 := by decide
  have twice : pow2 2098 * den = pow2 53 * (den * pow2 2045) := by
    rw [Nat.mul_comm den, ← Nat.mul_assoc, ← pow2_add]
  have half : den * pow2 2045 = 2 * (pow2 2044 * den) := by
    rw [pow2_succ, Nat.mul_comm den, Nat.mul_comm (pow2 2044), Nat.mul_assoc]
  have spacing : (num / den).log2 - 52 = 2045 := by omega
  rw [nearestUnits, spacing, bound]
  rw [Nat.mul_le_mul_right_iff (pow2_pos _),
    le_roundHalfEven_iff (Nat.mul_pos positive (pow2_pos _)) even, overflowUnits, Nat.sub_mul,
    twice]
  omega

/-- Beyond the last binary order of doubles, all quotients are too large. -/
theorem unitsBound_le_nearestUnits_of_lt_log2 {num den : Nat} (large : 2097 < (num / den).log2) :
    unitsBound ≤ nearestUnits num den := by
  have nonzero : num / den ≠ 0 := by
    intro zero
    rw [zero] at large
    simp at large
  have leading : pow2 (num / den).log2 ≤ num / den := Nat.log2_self_le nonzero
  have whole : pow2 52 ≤ num / (den * pow2 ((num / den).log2 - 52)) := by
    rw [← Nat.div_div_eq_div_mul, Nat.le_div_iff_mul_le (pow2_pos _), ← pow2_add]
    exact Nat.le_trans (pow2_le_pow2 (by omega)) leading
  calc unitsBound ≤ pow2 (52 + ((num / den).log2 - 52)) := pow2_le_pow2 (by omega)
    _ = pow2 52 * pow2 ((num / den).log2 - 52) := pow2_add ..
    _ ≤ nearestUnits num den :=
      Nat.mul_le_mul_right _ (Nat.le_trans whole (div_le_roundHalfEven _ _))

/-- A quotient is too large for a double from the overflow bound on. -/
theorem unitsBound_le_nearestUnits_iff {num den : Nat} (positive : 0 < den) :
    unitsBound ≤ nearestUnits num den ↔ overflowUnits * den ≤ num := by
  have below : pow2 2097 ≤ overflowUnits := by
    have next : pow2 2098 = pow2 2097 * 2 := pow2_succ 2097
    have less : pow2 2044 ≤ pow2 2097 := pow2_le_pow2 (by decide)
    rw [overflowUnits]
    omega
  rcases Nat.lt_trichotomy (num / den).log2 2097 with small | last | large
  · -- the quotient lies below a power of two that is below the bound
    have less : num < overflowUnits * den := by
      refine Nat.lt_of_lt_of_le ?_ (Nat.mul_le_mul_right den below)
      rw [← Nat.div_lt_iff_lt_mul positive]
      exact Nat.lt_of_lt_of_le (lt_pow2_log2 _) (pow2_le_pow2 small)
    have fits := nearestUnits_lt_of_log2_lt small
    omega
  · exact unitsBound_le_nearestUnits_iff_of_log2_eq positive last
  · have more : overflowUnits * den ≤ num := by
      rw [← Nat.le_div_iff_mul_le positive]
      have nonzero : num / den ≠ 0 := by
        intro zero
        rw [zero] at large
        simp at large
      calc overflowUnits ≤ pow2 2098 := Nat.sub_le _ _
        _ ≤ pow2 (num / den).log2 := pow2_le_pow2 large
        _ ≤ num / den := Nat.log2_self_le nonzero
    exact iff_of_true (unitsBound_le_nearestUnits_of_lt_log2 large) more

/-- **A quotient has no nearest double** if and only if it is not below the overflow bound. -/
theorem ofRatio?_eq_none_iff (num : Nat) {den : Nat} (positive : 0 < den) :
    ofRatio? num den = none ↔ overflowBound * den ≤ num := by
  have units : overflowUnits * den = overflowBound * den * unitsPerOne := by
    have first : pow2 2098 = pow2 1024 * unitsPerOne := by rw [unitsPerOne, ← pow2_add]
    have second : pow2 2044 = pow2 970 * unitsPerOne := by rw [unitsPerOne, ← pow2_add]
    rw [overflowUnits, first, second, ← Nat.sub_mul (pow2 1024) (pow2 970) unitsPerOne,
      ← overflowBound, Nat.mul_right_comm]
  have none : ofRatio? num den = none ↔ unitsBound ≤ nearestUnits (num * unitsPerOne) den := by
    rw [ofRatio?, nearest?]
    split
    · rename_i small
      simpa using small
    · rename_i large
      simpa using large
  rw [none, unitsBound_le_nearestUnits_iff positive, units,
    Nat.mul_le_mul_right_iff (show 0 < unitsPerOne from pow2_pos _)]

end Magnitude

/-! ## Numbers that have a nearest double -/

/-- A number **fits** the doubles if it is a whole number below the overflow bound, whatever its
sign, or a finite double. -/
def Number.FitsDouble : Number → Prop
  | whole n => n.natAbs < overflowBound
  | double x => x.isFinite = true

/-- The nearest double of a number is finite if and only if the number fits the doubles. -/
theorem Number.isFinite_toDouble_iff (n : Number) :
    n.toDouble.isFinite = true ↔ n.FitsDouble := by
  cases n with
  | double x => rfl
  | whole n =>
    have none := Magnitude.ofRatio?_eq_none_iff n.natAbs (show 0 < 1 by decide)
    rw [Nat.mul_one] at none
    rw [toDouble, Double.ofInt, Double.ofRatio, FitsDouble, ← Nat.not_le, ← none]
    cases Magnitude.ofRatio? n.natAbs 1 with
    | none => simp [Double.ofMagnitude, Double.isFinite]
    | some x => simp [Double.ofMagnitude, Double.isFinite]

end PercentFormat
