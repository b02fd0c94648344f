import PercentFormat.Proofs.ConvertedPieces
import PercentFormat.Proofs.SignificantDigits

/-! # Numbers in fixed notation

In fixed notation a number has the digits that its precision asks for behind the point, and without
such digits no point. With these digits taken for a whole number, it is the one nearest to the
double of the number.

* **`PointNumeral`** — digits with a point, and the number that they denote.
* **`PointNumeral.ofScaled`** — the numeral of a whole number over a power of ten.
* **`Layout.fixed_eq_text`** — this is what is written.
* **`Value.pieces_fixed`** — a number in fixed notation. -/

namespace PercentFormat

/-! ## Numerals with a point -/

/-- A **numeral with a point**: decimal digits in front of the point, and others behind it. -/
structure PointNumeral where
  /-- The digits in front of the point. -/
  whole : Text
  /-- The digits behind the point. -/
  fraction : Text
  /-- All are ASCII digits. -/
  isDigit : ∀ c ∈ whole ++ fraction, c.isDigit = true
  /-- There is a digit in front of the point. -/
  nonempty : whole ≠ []
  /-- A zero at the front is the only digit there. -/
  head : whole.head? = some '0' → whole = ['0']

namespace PointNumeral

/-- The text of a numeral. There is no point without digits behind it. -/
def text (f : PointNumeral) : Text :=
  f.whole ++ if f.fraction = [] then [] else '.' :: f.fraction

/-- The number that a numeral **denotes**: that of the digits in front of the point, and that of the
digits behind it over a power of ten. -/
def value (f : PointNumeral) : ℚ :=
  Written.number f.whole + Written.number f.fraction / 10 ^ f.fraction.length

/-- A numeral holds digits and a point. -/
theorem isDigit_or_eq_of_mem_text {f : PointNumeral} {c : Char} (member : c ∈ f.text) :
    c.isDigit = true ∨ c = '.' := by
  rw [text, List.mem_append] at member
  rcases member with front | behind
  · exact .inl (f.isDigit c (List.mem_append_left _ front))
  · split at behind
    · contradiction
    · rcases List.mem_cons.1 behind with point | digit
      · exact .inr point
      · exact .inl (f.isDigit c (List.mem_append_right _ digit))

/-- A numeral is the same in either case. -/
theorem inCase_text (f : PointNumeral) (upper : Bool) : f.text.inCase upper = f.text := by
  refine Text.inCase_eq_self fun c member => ?_
  rcases isDigit_or_eq_of_mem_text member with digit | rfl
  · exact toUpper_of_isDigit digit
  · rfl

end PointNumeral

/-! ## Digits with zeros in front -/

namespace Numeral

/-- A padded numeral holds ASCII digits only. -/
theorem isDigit_of_mem_padded {length n : ℕ} {c : Char} (member : c ∈ padded length n) :
    c.isDigit = true := by
  rcases List.mem_append.1 member with zero | digit
  · rw [List.eq_of_mem_replicate zero]
    rfl
  · exact Nat.isDigit_of_mem_toDigits (by decide) (by decide) digit

/-- A padded numeral of a number of few digits has the length that is asked for. -/
theorem length_padded {length n : ℕ} (positive : 0 < length) (few : n < pow10 length) :
    (padded length n).length = length := by
  have short : (inBase 10 n).length ≤ length := by
    rw [← decimal_eq_inBase]
    exact (length_decimal_le_iff positive).2 few
  simp only [padded, List.length_append, Text.length_zeros]
  omega

/-- A padded numeral denotes its number. -/
theorem number_padded (length n : ℕ) : Written.number (padded length n) = n := by
  rw [padded, Written.number_zeros, ← decimal_eq_inBase, Written.number_decimal]

/-- The numeral of zero. -/
theorem decimal_zero : decimal 0 = ['0'] := by
  rw [decimal_eq_inBase, inBase_zero]

/-- A zero at the front of a numeral is its only digit. -/
theorem decimal_eq_of_head? {n : ℕ} (zero : (decimal n).head? = some '0') : decimal n = ['0'] := by
  rcases Nat.eq_zero_or_pos n with rfl | positive
  · exact decimal_zero
  · exact absurd zero (head?_decimal positive)

end Numeral

/-! ## Whole numbers over powers of ten -/

/-- The numeral of `m / 10 ^ places`, with as many digits behind the point. -/
def PointNumeral.ofScaled (m places : ℕ) : PointNumeral where
  whole := Numeral.decimal (m / pow10 places)
  fraction := if places = 0 then [] else Numeral.padded places (m % pow10 places)
  isDigit := by
    intro c member
    rcases List.mem_append.1 member with front | behind
    · exact Numeral.isDigit_of_mem_decimal front
    · split at behind
      · contradiction
      · exact Numeral.isDigit_of_mem_padded behind
  nonempty := Numeral.decimal_ne_nil _
  head := Numeral.decimal_eq_of_head?

namespace PointNumeral

/-- The whole part of a quotient stands in front of the point. -/
theorem whole_ofScaled (m places : ℕ) :
    (ofScaled m places).whole = Numeral.decimal (m / pow10 places) := rfl

/-- The remainder of a quotient stands behind the point. -/
theorem fraction_ofScaled (m places : ℕ) :
    (ofScaled m places).fraction
      = if places = 0 then [] else Numeral.padded places (m % pow10 places) := rfl

/-- There are as many digits behind the point as are asked for. -/
theorem length_fraction_ofScaled (m places : ℕ) : (ofScaled m places).fraction.length = places := by
  rw [fraction_ofScaled]
  split
  · rename_i none
    exact none.symm
  · rename_i some
    exact Numeral.length_padded (Nat.pos_of_ne_zero some) (Nat.mod_lt m (pow10_pos places))

/-- The numeral of a quotient denotes the quotient. -/
theorem value_ofScaled (m places : ℕ) : (ofScaled m places).value = m / 10 ^ places := by
  have fraction : Written.number (ofScaled m places).fraction = m % pow10 places := by
    by_cases none : places = 0
    · -- without places there is no remainder
      subst none
      rw [pow10_zero, Nat.mod_one]
      rfl
    · rw [fraction_ofScaled, if_neg none, Numeral.number_padded]
  have power : (pow10 places : ℚ) ≠ 0 := Nat.cast_ne_zero.2 (pow10_pos places).ne'
  have whole : ((pow10 places * (m / pow10 places) + m % pow10 places : ℕ) : ℚ) = m := by
    rw [Nat.div_add_mod]
  rw [value, fraction, length_fraction_ofScaled, whole_ofScaled, Written.number_decimal,
    ← cast_pow10, eq_div_iff power, add_mul, div_mul_cancel₀ _ power, ← whole]
  push_cast
  ring

end PointNumeral

/-- **The layout with a fixed number of places** is the numeral of the quotient. -/
theorem Layout.fixed_eq_text (m places : ℕ) :
    fixed m places = (PointNumeral.ofScaled m places).text := by
  rw [fixed, PointNumeral.text, PointNumeral.whole_ofScaled, PointNumeral.fraction_ofScaled]
  by_cases none : places = 0
  · simp [none]
  · have nonempty : Numeral.padded places (m % pow10 places) ≠ [] := by
      rw [← List.length_pos_iff, Numeral.length_padded (Nat.pos_of_ne_zero none)
        (Nat.mod_lt m (pow10_pos places))]
      exact Nat.pos_of_ne_zero none
    simp only [if_neg none, if_neg nonempty]
    simp only [Numeral.padded, Numeral.decimal_eq_inBase, List.append_assoc, List.cons_append]

/-! ## Fixed notation -/

/-- **A number in fixed notation** with a precision, if it fits the doubles.

Its double has the magnitude `x` nearest to the absolute value, ties to even. The body is a numeral
with as many digits behind the point as the precision asks for, and denotes `m / 10 ^ places`, where
`m` is the whole number nearest to `x * 10 ^ places`, ties to even. -/
theorem Value.pieces_fixed {v : Value} {n : Number} (number : v.toNumber = .ok n)
    (fits : n.FitsDouble) {precision : Value} {places : ℕ}
    (asked : precision.precision = .ok places) (s : Settings) (upper : Bool) (flags : Flags) :
    ∃ (p : Pieces) (negative : Bool) (x : Magnitude) (m : ℕ) (f : PointNumeral),
      v.pieces s ⟨.real .fixed, upper⟩ flags (some precision) = .ok p
      ∧ n.toDouble = .finite negative x ∧ x.IsNearest |n.toRat|
      ∧ IsNearestEven (x.toRat * 10 ^ places) m
      ∧ p.body = f.text ∧ f.fraction.length = places ∧ f.value = m / 10 ^ places := by
  obtain ⟨negative, x, double, nearest⟩ := n.exists_toDouble_eq fits
  have effective : RealStyle.fixed.precisionInEffect s (some precision) = some precision := rfl
  have pieces := pieces_of_finite number double effective asked upper flags
  have whole := x.isNearestEven_atPlaces places
  rw [zpow_natCast] at whole
  refine ⟨_, negative, x, x.atPlaces places, .ofScaled (x.atPlaces places) places, pieces, double,
    nearest, whole, ?_, PointNumeral.length_fraction_ofScaled .., PointNumeral.value_ofScaled ..⟩
  change (Layout.fixed (x.atPlaces places) places).inCase upper = _
  rw [Layout.fixed_eq_text, PointNumeral.inCase_text]

/-- A whole number halfway between two doubles goes to the one whose last binary digit is zero. -/
theorem Value.pieces_fixed_halfway :
    let n : ℤ := 9007199254740993
    (whole n).toNumber = .ok (.whole n) ∧ (Number.whole n).FitsDouble
      ∧ (whole 1).precision = .ok 1
      ∧ ∃ (negative : Bool) (x : Magnitude) (m : ℕ) (f : PointNumeral),
          (whole n).pieces Settings.initial ⟨.real .fixed, false⟩ (Flags.ofText []) (some (whole 1))
            = .ok ⟨[], [], f.text, []⟩
          ∧ (Number.whole n).toDouble = .finite negative x ∧ x.IsNearest |(Number.whole n).toRat|
          ∧ IsNearestEven (x.toRat * 10 ^ 1) m
          ∧ f.text = Text.ofString "9007199254740992.0" ∧ f.value = m / 10 ^ 1 := by
  intro n
  have fits : (Number.whole n).FitsDouble := by
    calc n.natAbs < pow2 54 := by decide
      _ ≤ pow2 970 := pow2_le_pow2 (by decide)
      _ < overflowBound := pow2_lt_overflowBound
  have asked : (whole 1).precision = .ok 1 := rfl
  obtain ⟨p, negative, x, m, f, pieces, double, nearest, rounded, body, -, value⟩ :=
    Value.pieces_fixed (v := whole n) rfl fits asked Settings.initial false (Flags.ofText [])
  have written : (whole n).pieces Settings.initial ⟨.real .fixed, false⟩ (Flags.ofText [])
      (some (whole 1)) = .ok ⟨[], [], Text.ofString "9007199254740992.0", []⟩ := by
    decide +kernel
  obtain rfl := Except.ok.inj (pieces.symm.trans written)
  exact ⟨rfl, fits, asked, negative, x, m, f, body ▸ written, double, nearest, rounded, body.symm,
    value⟩

end PercentFormat
