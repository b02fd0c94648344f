import PercentFormat.Proofs.FixedNotation

/-! # Numbers in exponent notation

In exponent notation a number has one digit in front of the point, the digits that its precision
asks for behind it, and an exponent. The digits are the significant ones of the double of the
number; only zero starts with the digit zero.

* **`ExponentNumeral`** — an exponent as it is written, and the whole number that it denotes.
* **`Layout.exponentPart_eq_text`** — this is what is written.
* **`ShowsExponential`** — a number in exponent notation; of zero it says so digit by digit.
* **`Value.pieces_exponent`** — a number in exponent notation. -/

namespace PercentFormat

/-! ## Exponents -/

/-- An **exponent as it is written**: its sign and at least two digits. -/
structure ExponentNumeral where
  /-- The sign is a minus. -/
  negative : Bool
  /-- The digits. -/
  digits : Text
  /-- All are ASCII digits. -/
  isDigit : ∀ c ∈ digits, c.isDigit = true
  /-- There are at least two. -/
  two : 2 ≤ digits.length
  /-- Where there are more, no zero stands at the front. -/
  head : 2 < digits.length → digits.head? ≠ some '0'
  /-- Zero has a plus. -/
  plus : negative = true → Written.number digits ≠ 0

namespace ExponentNumeral

/-- The text of an exponent, behind the letter that tells it from the other digits. -/
def text (e : ExponentNumeral) (upper : Bool) : Text :=
  (if upper then 'E' else 'e') :: (if e.negative then '-' else '+') :: e.digits

/-- The whole number that an exponent **denotes**. -/
def value (e : ExponentNumeral) : ℤ := signed e.negative (Written.number e.digits)

/-- The letter of an exponent gets the case that is asked for. -/
theorem inCase_text (e : ExponentNumeral) (upper : Bool) :
    (e.text false).inCase upper = e.text upper := by
  cases upper
  · rfl
  · have digits : e.digits.inCase true = e.digits :=
      Text.inCase_eq_self fun c member => toUpper_of_isDigit (e.isDigit c member)
    change _ :: _ :: e.digits.inCase true = _
    rw [digits]
    cases negative : e.negative <;> simp [text, negative]

end ExponentNumeral

namespace Numeral

/-- A padded numeral has at least the length that is asked for. -/
theorem le_length_padded (length n : ℕ) : length ≤ (padded length n).length := by
  simp only [padded, List.length_append, Text.length_zeros]
  omega

/-- A padded numeral that is longer than asked for starts with no zero. -/
theorem head?_padded {length n : ℕ} (positive : 0 < length)
    (long : length < (padded length n).length) : (padded length n).head? ≠ some '0' := by
  -- only a number of more digits makes it longer, and then there are no zeros in front
  have many : pow10 length ≤ n := by
    by_contra few
    exact long.ne' (length_padded positive (Nat.lt_of_not_le few))
  have none : length - (inBase 10 n).length = 0 := by
    have digits := (length_decimal_le_iff positive).not.2 (Nat.not_lt.2 many)
    rw [decimal_eq_inBase] at digits
    omega
  have numeral : padded length n = decimal n := by
    rw [padded, none, decimal_eq_inBase]
    rfl
  rw [numeral]
  exact head?_decimal (Nat.lt_of_lt_of_le (pow10_pos length) many)

end Numeral

/-- The exponent of a whole number as it is written. -/
def ExponentNumeral.ofInt (e : ℤ) : ExponentNumeral where
  negative := e < 0
  digits := Numeral.padded 2 e.natAbs
  isDigit _ := Numeral.isDigit_of_mem_padded
  two := Numeral.le_length_padded ..
  head := Numeral.head?_padded (by decide)
  plus below := by
    rw [Numeral.number_padded, Int.natAbs_ne_zero]
    exact (of_decide_eq_true below).ne

/-- What is written for an exponent denotes it. -/
theorem ExponentNumeral.value_ofInt (e : ℤ) : (ofInt e).value = e := by
  rw [value, ofInt, Numeral.number_padded, signed_natAbs]

/-- **The layout of an exponent** is its numeral. -/
theorem Layout.exponentPart_eq_text (e : ℤ) :
    exponentPart e = (ExponentNumeral.ofInt e).text false := by
  simp [exponentPart, ExponentNumeral.text, ExponentNumeral.ofInt]

/-! ## Digits in front of the exponent -/

namespace PointNumeral

variable {m further : ℕ}

/-- A whole number of so many digits has one in front of the point. -/
theorem length_whole_ofScaled (lt : m < pow10 (further + 1)) :
    (ofScaled m further).whole.length = 1 := by
  have digit : m / pow10 further < pow10 1 := by
    rw [Nat.div_lt_iff_lt_mul (pow10_pos further), ← pow10_add, Nat.add_comm]
    exact lt
  have most := (Numeral.length_decimal_le_iff Nat.one_pos).2 digit
  have least := List.length_pos_iff.2 (Numeral.decimal_ne_nil (m / pow10 further))
  exact le_antisymm most least

/-- A whole number of no fewer digits has another digit than zero in front of the point. -/
theorem whole_ofScaled_ne (le : pow10 further ≤ m) : (ofScaled m further).whole ≠ ['0'] := by
  intro zero
  have front := Numeral.head?_decimal (Nat.div_pos le (pow10_pos further))
  rw [← whole_ofScaled, zero] at front
  exact front rfl

/-- The numeral of zero has zeros only. -/
theorem eq_of_mem_ofScaled_zero {c : Char}
    (member : c ∈ (ofScaled 0 further).whole ++ (ofScaled 0 further).fraction) : c = '0' := by
  rcases List.mem_append.1 member with front | behind
  · rw [whole_ofScaled, Nat.zero_div, Numeral.decimal_zero] at front
    exact List.mem_singleton.1 front
  · rw [fraction_ofScaled, Nat.zero_mod] at behind
    split at behind
    · contradiction
    · rw [Numeral.padded, Numeral.inBase_zero] at behind
      rcases List.mem_append.1 behind with zero | last
      · exact List.eq_of_mem_replicate zero
      · exact List.mem_singleton.1 last

end PointNumeral

/-! ## Exponent notation -/

/-- A magnitude in exponent notation is the numeral of its significant digits, and their
exponent. -/
theorem Magnitude.exponential_eq_text (x : Magnitude) (places : ℕ) :
    x.exponential places = (PointNumeral.ofScaled (x.significant places).1 places).text
      ++ (ExponentNumeral.ofInt (x.significant places).2).text false := by
  rw [exponential, ← Layout.fixed_eq_text, ← Layout.exponentPart_eq_text]

/-- A text **shows** a number `a` that is not below zero **in exponent notation**, with so many
places behind the point: it is a numeral with one digit in front of the point and as many behind it,
and an exponent.

* If `a` is zero, all digits are zeros and the exponent is `+00`.
* Otherwise the first digit is not zero, and the text denotes the significant digits of `a` at their
  exponent. -/
def ShowsExponential (a : ℚ) (places : ℕ) (upper : Bool) (t : Text) : Prop :=
  ∃ (f : PointNumeral) (e : ExponentNumeral),
    t = f.text ++ e.text upper ∧ f.whole.length = 1 ∧ f.fraction.length = places
    ∧ (a = 0 →
        (∀ c ∈ f.whole ++ f.fraction, c = '0') ∧ e.negative = false ∧ e.digits = ['0', '0'])
    ∧ (0 < a → f.whole ≠ ['0'] ∧ ∃ m, IsSignificant a places m e.value
        ∧ f.value * 10 ^ e.value = m * 10 ^ (e.value - places))

/-- The significant digits of zero are zeros. -/
theorem Magnitude.significant_of_units_eq_zero {x : Magnitude} (none : x.units = 0)
    (further : ℕ) : x.significant further = (0, 0) := by
  rw [significant, if_pos none]

/-- There are no more significant digits than are asked for. -/
theorem Magnitude.significant_lt (x : Magnitude) (further : ℕ) :
    (x.significant further).1 < pow10 (further + 1) := by
  by_cases none : x.units = 0
  · rw [significant_of_units_eq_zero none]
    exact pow10_pos _
  · exact (isSignificant_significant none further).lt

/-- A magnitude in exponent notation is shown so. -/
theorem Magnitude.showsExponential_exponential (x : Magnitude) (places : ℕ) (upper : Bool) :
    ShowsExponential x.toRat places upper ((x.exponential places).inCase upper) := by
  refine ⟨.ofScaled (x.significant places).1 places, .ofInt (x.significant places).2, ?_,
    PointNumeral.length_whole_ofScaled (x.significant_lt places),
    PointNumeral.length_fraction_ofScaled .., fun none => ?_, fun positive => ?_⟩
  · rw [x.exponential_eq_text, Text.inCase_append, PointNumeral.inCase_text,
      ExponentNumeral.inCase_text]
  · -- zero has no first digit other than zero, so its exponent is chosen
    rw [significant_of_units_eq_zero (toRat_eq_zero_iff.1 none)]
    exact ⟨fun c => PointNumeral.eq_of_mem_ofScaled_zero, rfl, rfl⟩
  · have significant := isSignificant_significant (toRat_eq_zero_iff.not.1 positive.ne') places
    refine ⟨PointNumeral.whole_ofScaled_ne significant.le, (x.significant places).1, ?_, ?_⟩
    · rw [ExponentNumeral.value_ofInt]
      exact significant
    · rw [PointNumeral.value_ofScaled, zpow_sub₀ (by norm_num), zpow_natCast, div_mul_eq_mul_div,
        mul_div_assoc]

/-- **A finite number in exponent notation**, with the precision that is given, or else with that of
the variable. If the number fits the doubles, its double has the magnitude `x` nearest to its
absolute value, ties to even, and the body shows `x` in exponent notation. A number that is too
large for a double is shown as an infinity. -/
theorem Value.pieces_exponent {v : Value} {n : Number} (number : v.toNumber = .ok n)
    (finite : n.isFinite = true) {s : Settings} {precision : Option Value} {places : ℕ}
    (asked : (precision.getD (s .exponentPrecision)).precision = .ok places) (upper : Bool)
    (flags : Flags) :
    ∃ p : Pieces, v.pieces s ⟨.real .exponent, upper⟩ flags precision = .ok p
      ∧ (n.FitsDouble → ∃ negative x, n.toDouble = .finite negative x ∧ x.IsNearest |n.toRat|
          ∧ ShowsExponential x.toRat places upper p.body)
      ∧ (¬ n.FitsDouble → p.body = (Text.ofString "inf").inCase upper) := by
  by_cases fits : n.FitsDouble
  · obtain ⟨negative, x, double, nearest⟩ := n.exists_toDouble_eq fits
    exact ⟨_, pieces_of_finite number double rfl asked upper flags,
      fun _ => ⟨negative, x, double, nearest, x.showsExponential_exponential places upper⟩,
      (absurd fits ·)⟩
  · obtain ⟨negative, double⟩ := n.exists_toDouble_eq_infinite finite fits
    exact ⟨_, pieces_of_infinite number double rfl upper flags, (absurd · fits), fun _ => rfl⟩

/-- A tie that goes to the even power of ten gives its digit a higher exponent. -/
theorem Value.pieces_exponent_carry :
    let x : Magnitude := .scaleBinary 19 1073 (by decide) (by decide)
    let n : Number := .double (.finite true x)
    let s : Settings := Function.update Settings.initial .exponentPrecision (whole 0)
    (Value.double (.finite true x)).toNumber = .ok n ∧ n.isFinite = true ∧ n.FitsDouble
      ∧ (s .exponentPrecision).precision = .ok 0
      ∧ (Value.double (.finite true x)).pieces s ⟨.real .exponent, true⟩ (Flags.ofText []) none
          = .ok ⟨['-'], [], Text.ofString "1E+01", []⟩
      ∧ x.IsNearest |n.toRat| ∧ ShowsExponential x.toRat 0 true (Text.ofString "1E+01") := by
  intro x n s
  have fits : n.FitsDouble := rfl
  have asked : (Option.getD none (s .exponentPrecision)).precision = .ok 0 := rfl
  obtain ⟨p, pieces, finite, -⟩ :=
    Value.pieces_exponent (v := .double (.finite true x)) (n := n) rfl rfl asked true
      (Flags.ofText [])
  have written : (Value.double (.finite true x)).pieces s ⟨.real .exponent, true⟩ (Flags.ofText [])
      none = .ok ⟨['-'], [], Text.ofString "1E+01", []⟩ := by
    decide +kernel
  obtain rfl := Except.ok.inj (pieces.symm.trans written)
  obtain ⟨negative, y, double, nearest, shows⟩ := finite fits
  obtain ⟨-, rfl⟩ := Double.finite.inj double
  exact ⟨rfl, rfl, fits, asked, written, nearest, shows⟩

end PercentFormat
