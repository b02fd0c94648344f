import PercentFormat.Proofs.ExactValues

/-! # Rounding to the nearest, ties to even

A quotient is rounded to the nearest whole number, and halfway between two to the even one. A number
is rounded to a double in the same way: no magnitude is nearer, and where another one is equally
near the last binary digit of the chosen one is zero.

* **`IsNearestEven`** — a whole number nearest to a rational number.
* **`isNearestEven_roundHalfEven`** — the rounding of quotients goes there.
* **`Magnitude.IsNearest`** — a magnitude nearest to a rational number.
* **`Magnitude.isNearest_of_ofRatio?`** — the rounding to doubles goes there.
* **`Number.exists_toDouble_eq`** — so does the double of a number that fits the doubles. -/

namespace PercentFormat

/-! ## Whole numbers -/

/-- A whole number is **the nearest one** to `q`: none is nearer, and it is even where another one
is equally near. -/
structure IsNearestEven (q : ℚ) (m : ℕ) : Prop where
  /-- No whole number is nearer. -/
  nearest : ∀ k : ℤ, |q - m| ≤ |q - k|
  /-- Where another one is equally near, this one is even. -/
  even : ∀ k : ℤ, k ≠ m → |q - k| = |q - m| → Even m

namespace IsNearestEven

variable {q : ℚ} {m k : ℕ}

/-- From a whole number on, the nearest whole number is not below it. -/
theorem le_of_le (near : IsNearestEven q m) (below : (k : ℚ) ≤ q) : k ≤ m := by
  have nearest := near.nearest k
  rw [Int.cast_natCast, abs_of_nonneg (sub_nonneg.2 below)] at nearest
  have least := (le_abs_self _).trans nearest
  exact Nat.cast_le.1 (by linarith : (k : ℚ) ≤ m)

/-- Up to a whole number, the nearest whole number is not above it. -/
theorem ge_of_ge (near : IsNearestEven q m) (above : q ≤ k) : m ≤ k := by
  have nearest := near.nearest k
  rw [Int.cast_natCast, abs_of_nonpos (sub_nonpos.2 above)] at nearest
  have most := (neg_le_abs _).trans nearest
  exact Nat.cast_le.1 (by linarith : (m : ℚ) ≤ k)

/-- What lies beyond a whole number is no nearer than the nearest whole number is. -/
theorem abs_sub_le (near : IsNearestEven q m) {y : ℚ}
    (beyond : (k : ℚ) ≤ q ∧ y ≤ k ∨ q ≤ k ∧ k ≤ y) : |q - m| ≤ |q - y| := by
  refine (near.nearest k).trans ?_
  rw [Int.cast_natCast]
  rcases beyond with ⟨start, below⟩ | ⟨stop, above⟩
  · rw [abs_of_nonneg (sub_nonneg.2 start), abs_of_nonneg (sub_nonneg.2 (below.trans start))]
    linarith
  · rw [abs_of_nonpos (sub_nonpos.2 stop), abs_of_nonpos (sub_nonpos.2 (stop.trans above))]
    linarith

end IsNearestEven

/-- A quotient and the whole number that it is rounded to are at most half a unit apart. -/
theorem abs_sub_roundHalfEven_le (num : ℕ) {den : ℕ} (positive : 0 < den) :
    |(num / den : ℚ) - roundHalfEven num den| ≤ 1 / 2 := by
  have unit : (0 : ℚ) < den := Nat.cast_pos.2 positive
  have above : (2 * num : ℚ) ≤ (2 * roundHalfEven num den + 1) * den := by
    exact_mod_cast two_mul_le_roundHalfEven num positive
  have below : (2 * roundHalfEven num den * den : ℚ) ≤ 2 * num + den := by
    exact_mod_cast roundHalfEven_mul_le num den
  have quotient : (num / den : ℚ) * den = num := div_mul_cancel₀ _ unit.ne'
  rw [abs_le]
  constructor
  · refine le_of_mul_le_mul_right ?_ unit
    rw [sub_mul, quotient]
    linarith
  · refine le_of_mul_le_mul_right ?_ unit
    rw [sub_mul, quotient]
    linarith

/-- Half a unit off, the remainder of a quotient is half of the divisor. -/
theorem two_mul_mod_eq_of_tie {num den : ℕ} (positive : 0 < den)
    (tie : |(num / den : ℚ) - roundHalfEven num den| = 1 / 2) : 2 * (num % den) = den := by
  have unit : (den : ℚ) ≠ 0 := Nat.cast_ne_zero.2 positive.ne'
  have quotient : (num / den : ℚ) * den = num := div_mul_cancel₀ _ unit
  have whole := Nat.div_add_mod num den
  have less := Nat.mod_lt num positive
  -- the tie, said of whole numbers: the quotient lies half a divisor above or below
  have sides : 2 * num = 2 * (den * roundHalfEven num den) + den
      ∨ 2 * num + den = 2 * (den * roundHalfEven num den) := by
    rcases (abs_eq (by norm_num)).1 tie with above | below
    · left
      have same : (2 * num : ℚ) = 2 * (den * roundHalfEven num den) + den := by
        linear_combination 2 * den * above - 2 * quotient
      exact_mod_cast same
    · right
      have same : (2 * num + den : ℚ) = 2 * (den * roundHalfEven num den) := by
        linear_combination 2 * den * below - 2 * quotient
      exact_mod_cast same
  rcases roundHalfEven_eq_or num den with down | up
  · rw [down] at sides
    omega
  · rw [up, Nat.mul_add, Nat.mul_one] at sides
    omega

/-- **Quotients are rounded to the nearest whole number**, ties to even. -/
theorem isNearestEven_roundHalfEven (num : ℕ) {den : ℕ} (positive : 0 < den) :
    IsNearestEven (num / den) (roundHalfEven num den) := by
  have near := abs_sub_roundHalfEven_le num positive
  -- two whole numbers are at least one apart, so that another one is at least half a unit off
  have far {k : ℤ} (other : k ≠ roundHalfEven num den) : 1 / 2 ≤ |(num / den : ℚ) - k| := by
    have apart : (1 : ℚ) ≤ |(k : ℚ) - roundHalfEven num den| := by
      exact_mod_cast Int.one_le_abs (sub_ne_zero.2 other)
    have triangle := abs_sub_le (k : ℚ) (num / den) (roundHalfEven num den)
    rw [abs_sub_comm (k : ℚ) (num / den)] at triangle
    linarith
  refine ⟨fun k => ?_, fun k other same => ?_⟩
  · by_cases other : k = roundHalfEven num den
    · rw [other, Int.cast_natCast]
    · exact near.trans (far other)
  · have tie : |(num / den : ℚ) - roundHalfEven num den| = 1 / 2 :=
      le_antisymm near ((far other).trans same.le)
    exact Nat.even_iff.2 (roundHalfEven_even_of_tie (two_mul_mod_eq_of_tie positive tie))

/-! ## Magnitudes -/

namespace Magnitude

/-- The last binary digit of a magnitude is zero. -/
def IsEven (x : Magnitude) : Prop := x.toBits % 2 = 0

/-- A magnitude is **the nearest one** to `q`: none is nearer, and its last binary digit is zero
where another one is equally near. -/
structure IsNearest (x : Magnitude) (q : ℚ) : Prop where
  /-- No magnitude is nearer. -/
  nearest : ∀ y : Magnitude, |q - x.toRat| ≤ |q - y.toRat|
  /-- Where another one is equally near, the last binary digit of this one is zero. -/
  even : ∀ y : Magnitude, y ≠ x → |q - y.toRat| = |q - x.toRat| → x.IsEven

/-- A magnitude is the nearest one to itself. -/
theorem isNearest_toRat (x : Magnitude) : x.IsNearest x.toRat := by
  refine ⟨fun y => ?_, fun y other same => ?_⟩
  · rw [sub_self, abs_zero]
    exact abs_nonneg _
  · rw [sub_self, abs_zero, abs_eq_zero, sub_eq_zero] at same
    exact absurd (toRat_injective same.symm) other

/-! ### Magnitudes on a grid -/

/-- Magnitudes are multiples of a power of two, unless they lie below `2 ^ 52` times this power. -/
theorem dvd_or_lt_of_fitsDouble {units : ℕ} (fits : FitsDouble units) (k : ℕ) :
    pow2 k ∣ units ∨ units < pow2 (52 + k) := by
  obtain ⟨-, m, e, bounded, rfl⟩ := fits
  by_cases coarse : k ≤ e
  · exact .inl (Dvd.dvd.mul_left (pow_dvd_pow 2 coarse) m)
  · -- the finer grid ends at the power itself, which is a multiple
    have fine : m * pow2 e ≤ pow2 (52 + k) := by
      calc m * pow2 e ≤ pow2 53 * pow2 e := Nat.mul_le_mul_right _ bounded
        _ = pow2 (53 + e) := (pow2_add ..).symm
        _ ≤ pow2 (52 + k) := pow2_le_pow2 (by omega)
    rcases fine.lt_or_eq with less | last
    · exact .inr less
    · rw [last]
      exact .inl (pow_dvd_pow 2 (by omega))

/-- A number of 53 binary digits, or of fewer where the power is one, is what is left of its product
with a power of two when the digits behind the first 53 are dropped. -/
theorem log2_mul_pow2_sub {m k : ℕ} (bounded : m < pow2 53) (long : k = 0 ∨ pow2 52 ≤ m) :
    (m * pow2 k).log2 - 52 = k := by
  by_cases zero : m = 0
  · -- zero has no first digit, and its logarithm is zero as well
    subst zero
    have few : ¬ pow2 52 ≤ 0 := Nat.not_le.2 (pow2_pos 52)
    rw [Nat.zero_mul, Nat.log2_zero]
    omega
  · have nonzero : m * pow2 k ≠ 0 := Nat.mul_ne_zero zero (pow2_pos k).ne'
    have below : m * pow2 k < pow2 (53 + k) := by
      rw [pow2_add]
      exact Nat.mul_lt_mul_of_pos_right bounded (pow2_pos k)
    have most : (m * pow2 k).log2 < 53 + k := (Nat.log2_lt nonzero).2 below
    rcases long with rfl | long
    · omega
    · have above : pow2 (52 + k) ≤ m * pow2 k := by
        rw [pow2_add]
        exact Nat.mul_le_mul_right _ long
      have least : 52 + k ≤ (m * pow2 k).log2 := (Nat.le_log2 nonzero).2 above
      omega

/-- The bits of a magnitude are those of its number of units over a power of two, with the power in
front, if 53 binary digits are left, or the power is one. Where rounding has led to one binary digit
more, which are zeros then, the bits are the same. -/
theorem toBits_eq {x : Magnitude} {m k : ℕ} (units : x.units = m * pow2 k)
    (bounded : m ≤ pow2 53) (long : k = 0 ∨ pow2 52 ≤ m) : x.toBits = k * pow2 52 + m := by
  rcases bounded.lt_or_eq with less | last
  · rw [toBits, units, log2_mul_pow2_sub less long]
    rw [Nat.mul_div_cancel _ (pow2_pos k)]
  · -- the first digit is carried to the next power
    have twice : pow2 53 = pow2 52 * 2 := pow2_succ 52
    have less : pow2 52 < pow2 53 := by decide
    have next : x.units = pow2 52 * pow2 (k + 1) := by
      rw [units, last, twice, pow2_succ k, Nat.mul_assoc, Nat.mul_comm 2]
    rw [toBits, next, log2_mul_pow2_sub less (.inr le_rfl), Nat.mul_div_cancel _ (pow2_pos _), last,
      twice, Nat.succ_mul]
    omega

/-- The last binary digit of a magnitude is that of its number of units over a power of two. -/
theorem isEven_iff {x : Magnitude} {m k : ℕ} (units : x.units = m * pow2 k)
    (bounded : m ≤ pow2 53) (long : k = 0 ∨ pow2 52 ≤ m) : x.IsEven ↔ Even m := by
  have twice : pow2 52 = pow2 51 * 2 := pow2_succ 51
  rw [IsEven, toBits_eq units bounded long, twice, ← Nat.mul_assoc, Nat.mul_add_mod_self_right,
    Nat.even_iff]

/-- Distances to a magnitude on a grid are whole distances, times the grid's spacing. -/
theorem abs_sub_toRat {x : Magnitude} {m k : ℕ} (units : x.units = m * pow2 k) (q : ℚ) :
    |q * (pow2 k / unitsPerOne) - x.toRat| = |q - m| * (pow2 k / unitsPerOne) := by
  have spacing : (0 : ℚ) ≤ pow2 k / unitsPerOne :=
    div_nonneg (Nat.cast_nonneg _) (Nat.cast_nonneg _)
  have value : x.toRat = m * (pow2 k / unitsPerOne) := by
    rw [toRat, units, Nat.cast_mul, mul_div_assoc]
  rw [value, ← sub_mul, abs_mul, abs_of_nonneg spacing]

section Grid

variable {x : Magnitude} {m k : ℕ} {q : ℚ}

/-- Where a grid starts at `2 ^ 52` of its spacings, the magnitudes off the grid are farther away
than the nearest one on the grid is. -/
theorem abs_sub_toRat_lt (units : x.units = m * pow2 k) (near : IsNearestEven q m)
    (long : k = 0 ∨ (pow2 52 : ℚ) ≤ q) {y : Magnitude} (off : ¬ pow2 k ∣ y.units) :
    |q * (pow2 k / unitsPerOne) - x.toRat| < |q * (pow2 k / unitsPerOne) - y.toRat| := by
  have one : (0 : ℚ) < unitsPerOne := Nat.cast_pos.2 unitsPerOne_pos
  have step : (0 : ℚ) < pow2 k / unitsPerOne := div_pos (Nat.cast_pos.2 (pow2_pos k)) one
  have start : (pow2 52 : ℚ) ≤ q := by
    refine long.resolve_left ?_
    rintro rfl
    exact off (one_dvd y.units)
  -- such a magnitude lies below the start of the grid, which is no nearer than `m` is
  have below : y.toRat < pow2 52 * (pow2 k / unitsPerOne) := by
    have less := (dvd_or_lt_of_fitsDouble y.fits k).resolve_left off
    rw [toRat, ← mul_div_assoc, div_lt_div_iff_of_pos_right one, ← Nat.cast_mul, ← pow2_add]
    exact Nat.cast_lt.2 less
  have least : |q - m| ≤ q - pow2 52 := by
    have nearest := near.nearest (pow2 52)
    rwa [Int.cast_natCast, abs_of_nonneg (sub_nonneg.2 start)] at nearest
  calc |q * (pow2 k / unitsPerOne) - x.toRat|
      = |q - m| * (pow2 k / unitsPerOne) := abs_sub_toRat units q
    _ ≤ (q - pow2 52) * (pow2 k / unitsPerOne) := mul_le_mul_of_nonneg_right least step.le
    _ = q * (pow2 k / unitsPerOne) - pow2 52 * (pow2 k / unitsPerOne) := sub_mul ..
    _ < q * (pow2 k / unitsPerOne) - y.toRat := sub_lt_sub_left below _
    _ ≤ |q * (pow2 k / unitsPerOne) - y.toRat| := le_abs_self _

/-- On a grid that starts at `2 ^ 52` of its spacings, or that of the finest spacing, the nearest
whole number of spacings is the nearest magnitude. -/
theorem isNearest_of_isNearestEven (units : x.units = m * pow2 k) (near : IsNearestEven q m)
    (bounded : m ≤ pow2 53) (long : k = 0 ∨ (pow2 52 : ℚ) ≤ q) :
    x.IsNearest (q * (pow2 k / unitsPerOne)) := by
  have one : (0 : ℚ) < unitsPerOne := Nat.cast_pos.2 unitsPerOne_pos
  have step : (0 : ℚ) < pow2 k / unitsPerOne := div_pos (Nat.cast_pos.2 (pow2_pos k)) one
  refine ⟨fun y => ?_, fun y other same => ?_⟩
  · by_cases off : pow2 k ∣ y.units
    · obtain ⟨j, grid⟩ := off
      rw [abs_sub_toRat units, abs_sub_toRat (grid.trans (Nat.mul_comm ..))]
      exact mul_le_mul_of_nonneg_right (near.nearest j) step.le
    · exact (abs_sub_toRat_lt units near long off).le
  · by_cases off : pow2 k ∣ y.units
    · obtain ⟨j, grid⟩ := off
      rw [abs_sub_toRat units, abs_sub_toRat (grid.trans (Nat.mul_comm ..)),
        mul_left_inj' step.ne'] at same
      have apart : (j : ℤ) ≠ m := by
        intro equal
        rw [Nat.cast_inj] at equal
        subst equal
        have units' : y.units = x.units := by rw [grid, units, Nat.mul_comm]
        exact other (toRat_injective (by rw [toRat, toRat, units']))
      -- on the grid a tie between magnitudes is one between whole numbers
      have digits : k = 0 ∨ pow2 52 ≤ m := long.imp_right near.le_of_le
      exact (isEven_iff units bounded digits).2 (near.even j apart same)
    · exact absurd same (abs_sub_toRat_lt units near long off).ne'

end Grid

/-- The number of units that a quotient of units is rounded to is that of the nearest magnitude, if
it is that of a magnitude. -/
theorem isNearest_of_nearestUnits {num den : ℕ} {x : Magnitude} (positive : 0 < den)
    (units : x.units = nearestUnits num den) : x.IsNearest (num / den / unitsPerOne) := by
  have bounded := roundHalfEven_spacing_le num den
  change x.units = roundHalfEven num (den * pow2 ((num / den).log2 - 52))
    * pow2 ((num / den).log2 - 52) at units
  have digits : (num / den).log2 - 52 = 0 ∨ pow2 (52 + ((num / den).log2 - 52)) ≤ num / den := by
    by_cases few : (num / den).log2 ≤ 52
    · exact .inl (Nat.sub_eq_zero_of_le few)
    · right
      have nonzero : num / den ≠ 0 := by
        intro zero
        rw [zero, Nat.log2_zero] at few
        omega
      rw [show 52 + ((num / den).log2 - 52) = (num / den).log2 by omega]
      exact Nat.log2_self_le nonzero
  -- from here on the spacing is any power of two that satisfies these bounds
  generalize (num / den).log2 - 52 = k at units bounded digits
  have near := isNearestEven_roundHalfEven num (Nat.mul_pos positive (pow2_pos k))
  have divisor : (den : ℚ) ≠ 0 := Nat.cast_ne_zero.2 positive.ne'
  have power : (pow2 k : ℚ) ≠ 0 := Nat.cast_ne_zero.2 (pow2_pos k).ne'
  have scaled : (num / den / unitsPerOne : ℚ)
      = num / (den * pow2 k : ℕ) * (pow2 k / unitsPerOne) := by
    rw [Nat.cast_mul]
    generalize (unitsPerOne : ℚ) = one
    generalize (pow2 k : ℚ) = p at power
    field_simp
  rw [scaled]
  refine isNearest_of_isNearestEven units near bounded (digits.imp_right fun start => ?_)
  have above : pow2 52 * (den * pow2 k) ≤ num := by
    rw [pow2_add, Nat.le_div_iff_mul_le positive] at start
    rwa [Nat.mul_comm den, ← Nat.mul_assoc]
  rw [le_div_iff₀ (Nat.cast_pos.2 (Nat.mul_pos positive (pow2_pos k))), ← Nat.cast_mul]
  exact Nat.cast_le.2 above

/-- **Quotients are rounded to the nearest magnitude**, ties to even. -/
theorem isNearest_of_ofRatio? {num den : ℕ} {x : Magnitude} (positive : 0 < den)
    (rounded : ofRatio? num den = some x) : x.IsNearest (num / den) := by
  have units : x.units = nearestUnits (num * unitsPerOne) den := by
    rw [ofRatio?, nearest?] at rounded
    split at rounded
    · rw [← Option.some.inj rounded]
    · contradiction
  have near := isNearest_of_nearestUnits positive units
  have one : (unitsPerOne : ℚ) ≠ 0 := Nat.cast_ne_zero.2 unitsPerOne_pos.ne'
  rwa [Nat.cast_mul, div_right_comm, mul_div_cancel_right₀ _ one] at near

end Magnitude

/-! ## Numbers -/

/-- **The double of a number** that fits the doubles is the nearest one to it: a finite double is
its own, and a whole number is rounded to the nearest magnitude, ties to even. -/
theorem Number.exists_toDouble_eq {n : Number} (fits : n.FitsDouble) :
    ∃ negative x, n.toDouble = .finite negative x ∧ x.IsNearest |n.toRat| := by
  cases n with
  | double x =>
    cases x with
    | finite negative x =>
      refine ⟨negative, x, rfl, ?_⟩
      rw [toRat, Double.abs_toRat_finite]
      exact x.isNearest_toRat
    | infinite negative => contradiction
    | nan => contradiction
  | whole n =>
    have some := (Magnitude.ofRatio?_eq_none_iff n.natAbs Nat.one_pos).not.2
      (by rw [Nat.mul_one]; exact Nat.not_le.2 fits)
    obtain ⟨x, rounded⟩ := Option.ne_none_iff_exists'.1 some
    refine ⟨n < 0, x, ?_, ?_⟩
    · rw [toDouble, Double.ofInt, Double.ofRatio, rounded]
      rfl
    · have near := Magnitude.isNearest_of_ofRatio? Nat.one_pos rounded
      rwa [Nat.cast_one, div_one, Nat.cast_natAbs, Int.cast_abs] at near

/-- The double of a finite number that does not fit the doubles is an infinity. -/
theorem Number.exists_toDouble_eq_infinite {n : Number} (finite : n.isFinite = true)
    (large : ¬ n.FitsDouble) : ∃ negative, n.toDouble = .infinite negative := by
  cases n with
  | double x => exact absurd finite large
  | whole n =>
    have none := (Magnitude.ofRatio?_eq_none_iff n.natAbs Nat.one_pos).2
      (by rw [Nat.mul_one]; exact Nat.not_lt.1 large)
    refine ⟨n < 0, ?_⟩
    rw [toDouble, Double.ofInt, Double.ofRatio, none]
    rfl

end PercentFormat
