import PercentFormat.Proofs.NearestEven

/-! # Rounding magnitudes to decimal digits

A magnitude is rounded to a number of places behind the point, or to a number of significant digits.
For the latter the exponent of its first digit is found, the digits are rounded as a whole number,
and digits that round up to a power of ten give it a higher exponent.

* **`Magnitude.isNearestEven_atPlaces`** — rounding to places goes to the nearest whole number.
* **`Magnitude.pow_decimalExponent_bounds`** — the exponent of the first digit.
* **`IsSignificant`** — the significant digits of a number, and their exponent.
* **`Magnitude.isSignificant_significant`** — rounding to significant digits goes there. -/

namespace PercentFormat

/-! ## Powers of ten -/

/-- A power of ten is one. -/
theorem pow10_eq (n : ℕ) : pow10 n = 10 ^ n := rfl

/-- A power of ten, as a rational number. -/
theorem cast_pow10 (n : ℕ) : (pow10 n : ℚ) = 10 ^ n := Nat.cast_pow 10 n

/-- A power of two that is not above a power of ten stays so when both exponents are multiplied. -/
theorem pow2_mul_le_pow10_mul {m n : ℕ} (le : pow2 m ≤ pow10 n) (k : ℕ) :
    pow2 (m * k) ≤ pow10 (n * k) :=
  calc pow2 (m * k) = pow2 m ^ k := Nat.pow_mul 2 m k
    _ ≤ pow10 n ^ k := Nat.pow_le_pow_left le k
    _ = pow10 (n * k) := (Nat.pow_mul 10 n k).symm

/-- A power of ten is a quotient of powers with natural exponents, one of which is zero. -/
theorem pow10_toNat_div (places : ℤ) :
    (pow10 places.toNat / pow10 (-places).toNat : ℚ) = 10 ^ places := by
  rw [cast_pow10, cast_pow10]
  obtain ⟨n, rfl | rfl⟩ := places.eq_nat_or_neg
  · simp
  · simp

/-- Powers of ten grow with their exponents. -/
theorem zpow10_le_zpow10 {e f : ℤ} (le : e ≤ f) : (10 : ℚ) ^ e ≤ 10 ^ f :=
  zpow_le_zpow_right₀ (by norm_num) le

/-- A power of ten is positive. -/
theorem zpow10_pos (e : ℤ) : (0 : ℚ) < 10 ^ e := zpow_pos (by norm_num) e

/-- Powers of ten multiply by adding their exponents. -/
theorem zpow10_add (e f : ℤ) : (10 : ℚ) ^ (e + f) = 10 ^ e * 10 ^ f := zpow_add₀ (by norm_num) e f

/-- The quotient of two powers of ten. -/
theorem pow10_div_pow10 (m n : ℕ) : (pow10 m / pow10 n : ℚ) = 10 ^ (m - n : ℤ) := by
  rw [cast_pow10, cast_pow10, zpow_sub₀ (by norm_num), zpow_natCast, zpow_natCast]

/-- The number of digits of a positive number says between which powers of ten it lies. -/
theorem Numeral.exists_digitCount_eq {n : ℕ} (positive : 0 < n) :
    ∃ count, digitCount n = count + 1 ∧ pow10 count ≤ n ∧ n < pow10 (count + 1) := by
  obtain ⟨count, digits⟩ : ∃ count, digitCount n = count + 1 :=
    Nat.exists_eq_add_one.2 (List.length_pos_iff.2 (decimal_ne_nil n))
  refine ⟨count, digits, ?_, (length_decimal_le_iff (Nat.succ_pos count)).1 digits.le⟩
  by_cases single : count = 0
  · subst single
    exact positive
  · have more := (length_decimal_le_iff (n := n) (Nat.pos_of_ne_zero single)).not.1
      (by rw [← digitCount, digits]; omega)
    exact Nat.le_of_not_lt more

namespace Magnitude

/-! ## Places behind the point -/

/-- A magnitude with the decimal point moved, as a quotient. -/
theorem scaled_div (x : Magnitude) (places : ℤ) :
    ((x.scaled places).1 / (x.scaled places).2 : ℚ) = x.toRat * 10 ^ places := by
  rw [scaled, Nat.cast_mul, Nat.cast_mul, ← pow10_toNat_div, toRat, div_mul_div_comm]

/-- A magnitude is rounded to places by the nearest whole number, ties to even. -/
theorem isNearestEven_atPlaces (x : Magnitude) (places : ℤ) :
    IsNearestEven (x.toRat * 10 ^ places) (x.atPlaces places) := by
  rw [← x.scaled_div]
  exact isNearestEven_roundHalfEven (x.scaled places).1
    (Nat.mul_pos unitsPerOne_pos (pow10_pos (-places).toNat))

/-! ## The exponent of the first digit -/

/-- Moved 324 places to the right, the least magnitude is above one. -/
theorem unitsPerOne_le_pow10 : unitsPerOne ≤ pow10 324 := by
  -- the power 93 of two is one of those that are just below a power of ten
  have near : pow2 93 ≤ pow10 28 := by decide
  calc unitsPerOne = pow2 (93 * 11) * pow2 51 := pow2_add (93 * 11) 51
    _ ≤ pow10 (28 * 11) * pow10 16 := Nat.mul_le_mul (pow2_mul_le_pow10_mul near 11) (by decide)
    _ = pow10 324 := (pow10_add (28 * 11) 16).symm

/-- A magnitude other than zero lies between the power of ten of its exponent and the next one. -/
theorem pow_decimalExponent_bounds {x : Magnitude} (nonzero : x.units ≠ 0) :
    (10 : ℚ) ^ x.decimalExponent ≤ x.toRat ∧ x.toRat < 10 ^ (x.decimalExponent + 1) := by
  have positive : 0 < x.units * pow10 324 / unitsPerOne := by
    refine Nat.div_pos (unitsPerOne_le_pow10.trans ?_) unitsPerOne_pos
    exact Nat.le_mul_of_pos_left _ (Nat.pos_of_ne_zero nonzero)
  obtain ⟨count, digits, least, less⟩ := Numeral.exists_digitCount_eq positive
  have exponent : x.decimalExponent = count - (324 : ℕ) := by
    rw [decimalExponent, digits]
    omega
  rw [Nat.le_div_iff_mul_le unitsPerOne_pos] at least
  rw [Nat.div_lt_iff_lt_mul unitsPerOne_pos] at less
  have one : (0 : ℚ) < unitsPerOne := Nat.cast_pos.2 unitsPerOne_pos
  have shift : (0 : ℚ) < pow10 324 := Nat.cast_pos.2 (pow10_pos 324)
  constructor
  · rw [exponent, ← pow10_div_pow10, toRat, div_le_div_iff₀ shift one]
    exact_mod_cast least
  · rw [exponent, sub_add_eq_add_sub, ← Nat.cast_succ, ← pow10_div_pow10, toRat,
      div_lt_div_iff₀ one shift]
    exact_mod_cast less

end Magnitude

/-! ## Significant digits -/

/-- The whole number `m` holds the **significant digits** of `a`, of which `further` follow the
first one, and `e` is the exponent of the first one.

Behind the first digit of `a` as many are kept, rounded to the nearest whole number and ties to
even. What rounds up to a power of ten loses its last zero and raises the exponent. So no number
with as many digits is nearer to `a`. -/
structure IsSignificant (a : ℚ) (further m : ℕ) (e : ℤ) : Prop where
  /-- There are no fewer digits. -/
  le : 10 ^ further ≤ m
  /-- There are no more digits. -/
  lt : m < 10 ^ (further + 1)
  /-- No number with as many digits is nearer. -/
  nearest : ∀ (k : ℕ) (f : ℤ), 10 ^ further ≤ k → k < 10 ^ (further + 1) →
    |a - m * 10 ^ (e - further)| ≤ |a - k * 10 ^ (f - further)|
  /-- The digits are rounded at the exponent of `a`, ties to even. -/
  rounded : ∃ (first : ℤ) (r : ℕ), (10 : ℚ) ^ first ≤ a ∧ a < 10 ^ (first + 1)
    ∧ IsNearestEven (a * 10 ^ (further - first)) r
    ∧ (r < 10 ^ (further + 1) ∧ m = r ∧ e = first
      ∨ r = 10 ^ (further + 1) ∧ m = 10 ^ further ∧ e = first + 1)

section Significant

variable {a : ℚ} {further r : ℕ} {first : ℤ}

variable (further) in
/-- Moved to its exponent, a number has as many digits in front of the point as are kept. -/
theorem moved_bounds (least : (10 : ℚ) ^ first ≤ a) (less : a < 10 ^ (first + 1)) :
    (10 ^ further : ℚ) ≤ a * 10 ^ (further - first)
      ∧ a * 10 ^ (further - first) < 10 ^ (further + 1) := by
  have power := zpow10_pos (further - first)
  constructor
  · calc (10 ^ further : ℚ) = 10 ^ first * 10 ^ (further - first) := by
          rw [← zpow10_add, add_sub_cancel, zpow_natCast]
      _ ≤ a * 10 ^ (further - first) := mul_le_mul_of_nonneg_right least power.le
  · calc a * 10 ^ (further - first) < 10 ^ (first + 1) * 10 ^ (further - first) :=
          mul_lt_mul_of_pos_right less power
      _ = 10 ^ (further + 1) := by
          rw [← zpow10_add, ← zpow_natCast]
          congr 1
          push_cast
          ring

/-- Among the numbers of as many digits as `q` has in front of the point, none is nearer to `q` than
the nearest whole number is. Those with another exponent lie beyond the whole numbers of that many
digits. -/
theorem IsNearestEven.abs_sub_le_of_digits {q : ℚ} (near : IsNearestEven q r)
    (start : (10 ^ further : ℚ) ≤ q) (stop : q < 10 ^ (further + 1)) {k : ℕ}
    (le : 10 ^ further ≤ k) (lt : k < 10 ^ (further + 1)) (e : ℤ) :
    |q - r| ≤ |q - k * 10 ^ e| := by
  have least : (10 ^ further : ℚ) ≤ k := by exact_mod_cast le
  have less : (k : ℚ) < 10 ^ (further + 1) := by exact_mod_cast lt
  -- a lower exponent leads below the least number of so many digits, a higher one above the greatest
  rcases lt_trichotomy e 0 with lower | rfl | higher
  · refine near.abs_sub_le (k := 10 ^ further) (.inl ⟨by exact_mod_cast start, ?_⟩)
    have tenth : (10 : ℚ) ^ e ≤ 10 ^ (-1 : ℤ) := zpow10_le_zpow10 (by omega)
    calc (k : ℚ) * 10 ^ e ≤ 10 ^ (further + 1) * 10 ^ (-1 : ℤ) :=
          mul_le_mul less.le tenth (zpow10_pos _).le (by positivity)
      _ = (10 ^ further : ℕ) := by
          push_cast
          rw [pow_succ, mul_assoc]
          norm_num
  · have same := near.nearest k
    rwa [zpow_zero, mul_one]
  · refine near.abs_sub_le (k := 10 ^ (further + 1)) (.inr ⟨by exact_mod_cast stop.le, ?_⟩)
    have ten : (10 : ℚ) ^ (1 : ℤ) ≤ 10 ^ e := zpow10_le_zpow10 (by omega)
    calc ((10 ^ (further + 1) : ℕ) : ℚ) = 10 ^ further * 10 ^ (1 : ℤ) := by
          push_cast
          rw [pow_succ]
      _ ≤ k * 10 ^ e := mul_le_mul least ten (zpow10_pos _).le (by positivity)

/-- At the exponent of a number, the nearest whole number of the digits that are kept is no farther
away than any number with as many digits. -/
theorem abs_sub_le_of_isNearestEven (least : (10 : ℚ) ^ first ≤ a) (less : a < 10 ^ (first + 1))
    (near : IsNearestEven (a * 10 ^ (further - first)) r) {k : ℕ} (le : 10 ^ further ≤ k)
    (lt : k < 10 ^ (further + 1)) (f : ℤ) :
    |a - r * 10 ^ (first - further)| ≤ |a - k * 10 ^ (f - further)| := by
  obtain ⟨start, stop⟩ := moved_bounds further least less
  have closer := near.abs_sub_le_of_digits start stop le lt (f - first)
  have power := zpow10_pos (first - further)
  have moved : a * 10 ^ (further - first) * 10 ^ (first - further) = a := by
    rw [mul_assoc, ← zpow10_add, sub_add_sub_cancel, sub_self, zpow_zero, mul_one]
  have other : (k : ℚ) * 10 ^ (f - first) * 10 ^ (first - further) = k * 10 ^ (f - further) := by
    rw [mul_assoc, ← zpow10_add, sub_add_sub_cancel]
  -- distances keep their order when both are moved back by the same power
  have scaled := mul_le_mul_of_nonneg_right closer power.le
  rwa [← abs_of_pos power, ← abs_mul, ← abs_mul, sub_mul, sub_mul, moved, other] at scaled

/-- The digits that are kept, rounded at the exponent of a number, are its significant digits once
a power of ten has lost its last zero. -/
theorem isSignificant_of_isNearestEven (least : (10 : ℚ) ^ first ≤ a) (less : a < 10 ^ (first + 1))
    (near : IsNearestEven (a * 10 ^ (further - first)) r) :
    (r = 10 ^ (further + 1) → IsSignificant a further (10 ^ further) (first + 1))
      ∧ (r ≠ 10 ^ (further + 1) → IsSignificant a further r first) := by
  obtain ⟨start, stop⟩ := moved_bounds further least less
  have le : 10 ^ further ≤ r := near.le_of_le (by exact_mod_cast start)
  have ge : r ≤ 10 ^ (further + 1) := near.ge_of_ge (by exact_mod_cast stop.le)
  refine ⟨fun carry => ?_, fun noCarry => ?_⟩
  · -- the carry denotes the same number, with one digit less and at the next exponent
    have same : ((10 ^ further : ℕ) : ℚ) * 10 ^ (first + 1 - further)
        = r * 10 ^ (first - further) := by
      rw [carry, add_sub_right_comm, zpow10_add, zpow_one]
      push_cast
      ring
    refine ⟨le_rfl, Nat.pow_lt_pow_right (by decide) (Nat.lt_succ_self further), ?_,
      first, r, least, less, near, .inr ⟨carry, rfl, rfl⟩⟩
    intro k f le' lt'
    rw [same]
    exact abs_sub_le_of_isNearestEven least less near le' lt' f
  · have lt : r < 10 ^ (further + 1) := Nat.lt_of_le_of_ne ge noCarry
    exact ⟨le, lt, fun k f le' lt' => abs_sub_le_of_isNearestEven least less near le' lt' f,
      first, r, least, less, near, .inl ⟨lt, rfl, rfl⟩⟩

end Significant

/-- **A magnitude** other than zero **is rounded to its significant digits**. -/
theorem Magnitude.isSignificant_significant {x : Magnitude} (nonzero : x.units ≠ 0)
    (further : ℕ) :
    IsSignificant x.toRat further (x.significant further).1 (x.significant further).2 := by
  obtain ⟨least, less⟩ := pow_decimalExponent_bounds nonzero
  obtain ⟨carried, kept⟩ := isSignificant_of_isNearestEven least less
    (x.isNearestEven_atPlaces (further - x.decimalExponent))
  simp only [significant, if_neg nonzero]
  by_cases carry : x.atPlaces (further - x.decimalExponent) = pow10 (further + 1)
  · simp only [if_pos carry]
    exact carried (carry.trans (pow10_eq _))
  · simp only [if_neg carry]
    exact kept fun same => carry (same.trans (pow10_eq _).symm)

end PercentFormat
