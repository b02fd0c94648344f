import PercentFormat.Proofs.SignificantDigits

/-! # The nearest magnitude

A rational number has only one nearest magnitude: where two are equally near, they are neighbours,
and the last binary digit of just one of them is zero. So what a quotient or a decimal is rounded to
depends on nothing but its value, however it is written.

* **`Magnitude.IsNearest.unique`** — there is only one nearest magnitude.
* **`Magnitude.ofRatio?_eq_some_iff`** — what a quotient is rounded to.
* **`Magnitude.ofDecimal?_eq_some_iff`**, **`Magnitude.ofDecimal?_eq_none_iff`** — what a decimal is
  rounded to, also where this is settled by its exponent. -/

namespace PercentFormat

namespace Magnitude

/-! ## Neighbours -/

/-- A magnitude is a multiple of a power of two, by a number of 53 binary digits unless the power is
one. -/
theorem exists_units_eq (x : Magnitude) :
    ∃ m k, x.units = m * pow2 k ∧ m < pow2 53 ∧ (k = 0 ∨ pow2 52 ≤ m) := by
  let k := x.units.log2 - 52
  have below : x.units < pow2 53 * pow2 k := by
    rw [← pow2_add]
    exact Nat.lt_of_lt_of_le (lt_pow2_log2 _) (pow2_le_pow2 (by omega))
  have long : k = 0 ∨ pow2 52 * pow2 k ≤ x.units := by
    by_cases few : x.units.log2 ≤ 52
    · exact .inl (Nat.sub_eq_zero_of_le few)
    · have nonzero : x.units ≠ 0 := by
        intro zero
        rw [zero, Nat.log2_zero] at few
        omega
      rw [← pow2_add, show 52 + k = x.units.log2 by omega]
      exact .inr (Nat.log2_self_le nonzero)
  have divides : pow2 k ∣ x.units := by
    rcases long with zero | long
    · rw [zero]
      exact one_dvd _
    · refine (dvd_or_lt_of_fitsDouble x.fits k).resolve_right (Nat.not_lt.2 ?_)
      rwa [pow2_add]
  obtain ⟨m, units⟩ := divides
  rw [Nat.mul_comm] at units
  refine ⟨m, k, units, ?_, long.imp_right fun long => ?_⟩
  · exact Nat.lt_of_mul_lt_mul_right (units ▸ below)
  · exact Nat.le_of_mul_le_mul_right (units ▸ long) (pow2_pos k)

section Next

variable {x y : Magnitude} {m k : ℕ}

/-- Greater magnitudes lie at least one spacing above. -/
theorem next_units_le (units : x.units = m * pow2 k) (long : k = 0 ∨ pow2 52 ≤ m)
    (less : x.units < y.units) : (m + 1) * pow2 k ≤ y.units := by
  have divides : pow2 k ∣ y.units := by
    rcases long with rfl | long
    · exact one_dvd _
    · refine (dvd_or_lt_of_fitsDouble y.fits k).resolve_right (Nat.not_lt.2 ?_)
      rw [pow2_add]
      exact (Nat.mul_le_mul_right _ long).trans (units ▸ less.le)
  obtain ⟨j, grid⟩ := divides
  rw [units, grid, Nat.mul_comm (pow2 k)] at less
  rw [grid, Nat.mul_comm (pow2 k)]
  exact Nat.mul_le_mul_right _ (Nat.lt_of_mul_lt_mul_right less)

/-- Where no magnitude lies between two of them, the last binary digit of one of them is not
zero. -/
theorem not_isEven_of_next (units : x.units = m * pow2 k) (bounded : m < pow2 53)
    (long : k = 0 ∨ pow2 52 ≤ m) (next : y.units = (m + 1) * pow2 k) (even : x.IsEven) :
    ¬ y.IsEven := by
  rw [isEven_iff units bounded.le long] at even
  rw [isEven_iff next bounded (long.imp_right Nat.le_succ_of_le)]
  exact Nat.not_even_iff_odd.2 even.add_one

end Next

/-- Magnitudes are ordered as their units are. -/
theorem toRat_lt_toRat_iff {x y : Magnitude} : x.toRat < y.toRat ↔ x.units < y.units := by
  rw [toRat, toRat, div_lt_div_iff_of_pos_right (Nat.cast_pos.2 unitsPerOne_pos), Nat.cast_lt]

namespace IsNearest

variable {x y : Magnitude} {q : ℚ}

/-- Two nearest magnitudes, one of which is the greater one, cannot be. -/
theorem not_toRat_lt (first : x.IsNearest q) (second : y.IsNearest q) : ¬ x.toRat < y.toRat := by
  intro less
  have apart : y ≠ x := by
    rintro rfl
    exact lt_irrefl _ less
  have same : |q - x.toRat| = |q - y.toRat| := le_antisymm (first.nearest y) (second.nearest x)
  -- the number lies in the middle between them
  have middle : q - x.toRat = y.toRat - q := by
    rcases abs_eq_abs.1 same with equal | opposite
    · linarith
    · rw [opposite, neg_sub]
  obtain ⟨m, k, units, bounded, long⟩ := x.exists_units_eq
  have above := toRat_lt_toRat_iff.1 less
  have step := next_units_le units long above
  let z : Magnitude := ⟨(m + 1) * pow2 k, step.trans_lt y.fits.1, m + 1, k, bounded, rfl⟩
  have next : y.units = (m + 1) * pow2 k := by
    refine step.lt_or_eq.resolve_left (fun between => ?_) |>.symm
    -- a magnitude between them would be nearer than both
    have lower : x.toRat < z.toRat := by
      rw [toRat_lt_toRat_iff, units]
      exact Nat.mul_lt_mul_of_pos_right (Nat.lt_succ_self m) (pow2_pos k)
    have upper : z.toRat < y.toRat := toRat_lt_toRat_iff.2 between
    have distance : |q - x.toRat| = q - x.toRat := abs_of_nonneg (by linarith)
    have nearer : |q - z.toRat| < |q - x.toRat| := by
      rw [distance, abs_lt]
      exact ⟨by linarith, by linarith⟩
    exact absurd (first.nearest z) (not_le.2 nearer)
  exact not_isEven_of_next units bounded long next (first.even y apart same.symm)
    (second.even x apart.symm same)

/-- There is **only one nearest magnitude**. -/
theorem unique (first : x.IsNearest q) (second : y.IsNearest q) : x = y := by
  refine toRat_injective (le_antisymm ?_ ?_)
  · exact le_of_not_gt (second.not_toRat_lt first)
  · exact le_of_not_gt (first.not_toRat_lt second)

/-- What lies between a number and its nearest magnitude has the same nearest magnitude. -/
theorem of_between {r : ℚ} (near : x.IsNearest q) (between : r ∈ Set.uIcc q x.toRat) :
    x.IsNearest r := by
  have split : |q - x.toRat| = |q - r| + |r - x.toRat| := by
    rcases Set.mem_uIcc.1 between with ⟨low, high⟩ | ⟨low, high⟩
    · rw [abs_of_nonpos (sub_nonpos.2 low), abs_of_nonpos (sub_nonpos.2 high),
        abs_of_nonpos (sub_nonpos.2 (low.trans high))]
      ring
    · rw [abs_of_nonneg (sub_nonneg.2 low), abs_of_nonneg (sub_nonneg.2 high),
        abs_of_nonneg (sub_nonneg.2 (low.trans high))]
      ring
  have triangle (y : Magnitude) : |q - y.toRat| ≤ |q - r| + |r - y.toRat| := abs_sub_le _ _ _
  refine ⟨fun y => ?_, fun y other same => near.even y other (le_antisymm ?_ (near.nearest y))⟩
  · have nearest := near.nearest y
    have detour := triangle y
    linarith
  · have detour := triangle y
    linarith

end IsNearest

/-! ## Distances -/

/-- The greater of two magnitudes is at most `2 ^ 53` times their distance. -/
theorem units_le_mul_sub {x y : Magnitude} (less : x.units < y.units) :
    y.units ≤ pow2 53 * (y.units - x.units) := by
  obtain ⟨m, k, units, bounded, long⟩ := x.exists_units_eq
  have step := next_units_le units long less
  rw [Nat.succ_mul, ← units] at step
  have lower : x.units + pow2 k ≤ pow2 53 * pow2 k := by
    rw [units, ← Nat.succ_mul]
    exact Nat.mul_le_mul_right _ bounded
  obtain ⟨more, above⟩ := Nat.exists_eq_add_of_le step
  have apart : y.units - x.units = pow2 k + more := by omega
  have most : more ≤ pow2 53 * more := Nat.le_mul_of_pos_left _ (pow2_pos 53)
  rw [apart, Nat.mul_add]
  omega

/-- A magnitude is at most `2 ^ 53` times its distance to any other one. -/
theorem toRat_le_mul_abs_sub {x y : Magnitude} (other : y ≠ x) :
    x.toRat ≤ 2 ^ 53 * |x.toRat - y.toRat| := by
  have power : ((pow2 53 : ℕ) : ℚ) = 2 ^ 53 := Nat.cast_pow 2 53
  have cast {a b : Magnitude} (less : a.units < b.units) :
      b.toRat ≤ 2 ^ 53 * (b.toRat - a.toRat) := by
    have bound : (b.units : ℚ) ≤ 2 ^ 53 * (b.units - a.units) := by
      rw [← power, ← Nat.cast_sub less.le]
      exact_mod_cast units_le_mul_sub less
    rw [toRat, toRat, ← sub_div, ← mul_div_assoc]
    exact div_le_div_of_nonneg_right bound (Nat.cast_nonneg _)
  rcases lt_trichotomy x.toRat y.toRat with less | same | more
  · rw [abs_sub_comm, abs_of_pos (sub_pos.2 less)]
    exact less.le.trans (cast (toRat_lt_toRat_iff.1 less))
  · exact absurd (toRat_injective same).symm other
  · rw [abs_of_pos (sub_pos.2 more)]
    exact cast (toRat_lt_toRat_iff.1 more)

/-- What is so near to a magnitude, compared with its value, is rounded to it. -/
theorem isNearest_of_mul_abs_sub_lt {x : Magnitude} {q : ℚ}
    (near : 2 ^ 54 * |q - x.toRat| < x.toRat) : x.IsNearest q := by
  have farther {y : Magnitude} (other : y ≠ x) : |q - x.toRat| < |q - y.toRat| := by
    have apart := toRat_le_mul_abs_sub other
    have detour := abs_sub_le x.toRat q y.toRat
    rw [abs_sub_comm x.toRat q] at detour
    linarith
  refine ⟨fun y => ?_, fun y other same => absurd same (farther other).ne'⟩
  by_cases other : y = x
  · rw [other]
  · exact (farther other).le

/-! ## Quotients -/

/-- **What a quotient is rounded to** is the nearest magnitude, unless it is too large. -/
theorem ofRatio?_eq_some_iff {num den : ℕ} {x : Magnitude} (positive : 0 < den) :
    ofRatio? num den = some x ↔ x.IsNearest (num / den) ∧ (num / den : ℚ) < overflowBound := by
  have fits : (num / den : ℚ) < overflowBound ↔ ofRatio? num den ≠ none := by
    rw [Ne, ofRatio?_eq_none_iff num positive, Nat.not_le, div_lt_iff₀ (Nat.cast_pos.2 positive)]
    exact_mod_cast Iff.rfl
  rw [fits]
  constructor
  · intro rounded
    exact ⟨isNearest_of_ofRatio? positive rounded, by simp [rounded]⟩
  · rintro ⟨nearest, some⟩
    obtain ⟨y, rounded⟩ := Option.ne_none_iff_exists'.1 some
    rw [rounded, (isNearest_of_ofRatio? positive rounded).unique nearest]

/-! ## Decimals -/

/-- A decimal is the quotient that it is rounded as. -/
theorem cast_decimal (digits : ℕ) (exponent : ℤ) :
    ((digits * pow10 exponent.toNat : ℕ) / (pow10 (-exponent).toNat : ℕ) : ℚ)
      = digits * 10 ^ exponent := by
  rw [Nat.cast_mul, mul_div_assoc, pow10_toNat_div]

/-- Zero is zero. -/
@[simp] theorem toRat_zero : zero.toRat = 0 := toRat_eq_zero_iff.2 rfl

/-- The magnitude without units is zero. -/
theorem eq_zero_of_units_eq_zero {x : Magnitude} (none : x.units = 0) : x = zero :=
  toRat_injective ((toRat_eq_zero_iff.2 none).trans toRat_zero.symm)

/-- What is less than half a unit is rounded to zero. -/
theorem isNearest_zero {q : ℚ} (notBelow : 0 ≤ q) (small : 2 * q * unitsPerOne < 1) :
    zero.IsNearest q := by
  -- any other magnitude is at least one unit
  have farther {y : Magnitude} (other : y ≠ zero) : |q - zero.toRat| < |q - y.toRat| := by
    have some : y.units ≠ 0 := mt eq_zero_of_units_eq_zero other
    have one : (0 : ℚ) < unitsPerOne := Nat.cast_pos.2 unitsPerOne_pos
    have least : 2 * q < y.toRat := by
      rw [toRat, lt_div_iff₀ one]
      exact small.trans_le (Nat.one_le_cast.2 (Nat.pos_of_ne_zero some))
    rw [toRat_zero, sub_zero, abs_of_nonneg notBelow, abs_sub_comm, lt_abs]
    exact .inl (by linarith)
  refine ⟨fun y => ?_, fun y other same => absurd same (farther other).ne'⟩
  by_cases other : y = zero
  · rw [other]
  · exact (farther other).le

/-- The overflow bound is not below one. -/
theorem one_le_overflowBound : (1 : ℚ) ≤ overflowBound :=
  Nat.one_le_cast.2 (Nat.one_le_of_lt pow2_lt_overflowBound)

/-- What is rounded to zero is below the overflow bound. -/
theorem lt_overflowBound_of_small {q : ℚ} (notBelow : 0 ≤ q) (small : 2 * q * unitsPerOne < 1) :
    q < overflowBound := by
  have one : (1 : ℚ) ≤ unitsPerOne := Nat.one_le_cast.2 unitsPerOne_pos
  calc q ≤ 2 * q := by linarith
    _ ≤ 2 * q * unitsPerOne := le_mul_of_one_le_right (by linarith) one
    _ < 1 := small
    _ ≤ overflowBound := one_le_overflowBound

/-- The overflow bound has no more than 400 digits. -/
theorem overflowBound_le_pow10 : overflowBound ≤ pow10 400 :=
  calc overflowBound ≤ pow2 1024 := Nat.sub_le (pow2 1024) (pow2 970)
    _ ≤ pow2 (3 * 400) := pow2_le_pow2 (by decide)
    _ ≤ pow10 (1 * 400) := pow2_mul_le_pow10_mul (by decide) 400

/-- A whole number that is too long for text is too large for a double. -/
theorem overflowBound_le_pow10_maxDigits : overflowBound ≤ pow10 maxDigits :=
  overflowBound_le_pow10.trans (pow10_le_pow10 (by decide))

/-- A decimal whose exponent is far above those of doubles is too large. -/
theorem overflowBound_mul_le_of_lt {digits : ℕ} {exponent : ℤ} (some : digits ≠ 0)
    (large : 400 < exponent) :
    overflowBound * pow10 (-exponent).toNat ≤ digits * pow10 exponent.toNat := by
  rw [Int.toNat_of_nonpos (by omega : -exponent ≤ 0), pow10_zero, Nat.mul_one]
  calc overflowBound ≤ pow10 400 := overflowBound_le_pow10
    _ ≤ pow10 exponent.toNat := pow10_le_pow10 (by omega)
    _ ≤ digits * pow10 exponent.toNat := Nat.le_mul_of_pos_left _ (Nat.pos_of_ne_zero some)

/-- A decimal whose exponent is far below those of doubles is less than half a unit. -/
theorem two_mul_mul_unitsPerOne_lt_of_lt {digits : ℕ} {exponent : ℤ}
    (small : exponent < -(digits.log2 + 400 : ℕ)) :
    2 * ((digits : ℚ) * 10 ^ exponent) * unitsPerOne < 1 := by
  have most : (digits : ℚ) ≤ 10 ^ ((digits.log2 + 1 : ℕ) : ℤ) := by
    have power : digits ≤ pow10 (digits.log2 + 1) :=
      (lt_pow2_log2 digits).le.trans (Nat.pow_le_pow_left (by decide) _)
    rw [zpow_natCast, ← cast_pow10]
    exact Nat.cast_le.2 power
  have one : (unitsPerOne : ℚ) ≤ 10 ^ ((324 : ℕ) : ℤ) := by
    rw [zpow_natCast, ← cast_pow10]
    exact Nat.cast_le.2 unitsPerOne_le_pow10
  have least : (0 : ℚ) ≤ unitsPerOne := Nat.cast_nonneg _
  generalize (unitsPerOne : ℚ) = units at one least ⊢
  calc 2 * ((digits : ℚ) * 10 ^ exponent) * units
      ≤ 2 * (10 ^ ((digits.log2 + 1 : ℕ) : ℤ) * 10 ^ exponent) * 10 ^ ((324 : ℕ) : ℤ) := by
        gcongr
    _ = 2 * 10 ^ (((digits.log2 + 1 : ℕ) : ℤ) + exponent + (324 : ℕ)) := by
        rw [zpow10_add (_ + _), zpow10_add _ exponent, mul_assoc]
    _ ≤ 2 * 10 ^ (-1 : ℤ) :=
        mul_le_mul_of_nonneg_left (zpow10_le_zpow10 (by omega)) zero_le_two
    _ < 1 := by norm_num

/-- A decimal is rounded as the quotient that it is, also where its exponent settles this. -/
theorem ofDecimal?_eq_ofRatio? (digits : ℕ) (exponent : ℤ) :
    ofDecimal? digits exponent
      = ofRatio? (digits * pow10 exponent.toNat) (pow10 (-exponent).toNat) := by
  have positive := pow10_pos (-exponent).toNat
  have notBelow : (0 : ℚ) ≤ digits * 10 ^ exponent :=
    mul_nonneg (Nat.cast_nonneg _) (zpow10_pos exponent).le
  -- what is less than half a unit is rounded to zero
  have rounded (small : 2 * ((digits : ℚ) * 10 ^ exponent) * unitsPerOne < 1) :
      some zero = ofRatio? (digits * pow10 exponent.toNat) (pow10 (-exponent).toNat) := by
    refine ((ofRatio?_eq_some_iff positive).2 ?_).symm
    rw [cast_decimal]
    exact ⟨isNearest_zero notBelow small, lt_overflowBound_of_small notBelow small⟩
  rw [ofDecimal?]
  split
  · rename_i none
    refine rounded ?_
    rw [none, Nat.cast_zero, zero_mul, mul_zero, zero_mul]
    exact one_pos
  · rename_i some
    split
    · rename_i large
      exact ((ofRatio?_eq_none_iff _ positive).2 (overflowBound_mul_le_of_lt some large)).symm
    · split
      · rename_i small
        exact rounded (two_mul_mul_unitsPerOne_lt_of_lt small)
      · rfl

/-- **What a decimal is rounded to** is the nearest magnitude, unless it is too large. -/
theorem ofDecimal?_eq_some_iff {digits : ℕ} {exponent : ℤ} {x : Magnitude} :
    ofDecimal? digits exponent = some x
      ↔ x.IsNearest (digits * 10 ^ exponent) ∧ (digits * 10 ^ exponent : ℚ) < overflowBound := by
  rw [ofDecimal?_eq_ofRatio?, ofRatio?_eq_some_iff (pow10_pos _), cast_decimal]

/-- A decimal is **too large for a double** from the overflow bound on. -/
theorem ofDecimal?_eq_none_iff {digits : ℕ} {exponent : ℤ} :
    ofDecimal? digits exponent = none ↔ (overflowBound : ℚ) ≤ digits * 10 ^ exponent := by
  have positive : (0 : ℚ) < pow10 (-exponent).toNat := Nat.cast_pos.2 (pow10_pos _)
  rw [ofDecimal?_eq_ofRatio?, ofRatio?_eq_none_iff _ (pow10_pos _), ← cast_decimal,
    le_div_iff₀ positive]
  exact_mod_cast Iff.rfl

end Magnitude

end PercentFormat
