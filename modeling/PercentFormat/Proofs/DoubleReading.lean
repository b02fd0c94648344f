import PercentFormat.Proofs.ExponentNotation
import PercentFormat.Proofs.NearestMagnitude
import PercentFormat.Proofs.TrimmedNumerals

/-! # Numerals read as doubles

A numeral, with or without a point and an exponent, is read as the nearest double to the number that
it denotes.

* **`Double.IsNearest`** — the nearest double, an infinity beyond the overflow bound.
* **`SpellsWhole.readDouble?_eq`** — a whole number of any length, read as a double.
* **`PointNumeral.readDouble?_append`** — a numeral with a point, read as a double. -/

namespace PercentFormat

/-! ## Doubles -/

namespace Double

/-- A double with a sign **is the nearest one** to an absolute value: an infinity from the overflow
bound on, and otherwise the nearest magnitude, ties to even. -/
def IsNearest (x : Double) (negative : Bool) (q : ℚ) : Prop :=
  overflowBound ≤ q ∧ x = infinite negative
    ∨ q < overflowBound ∧ ∃ m : Magnitude, x = finite negative m ∧ m.IsNearest q

/-- A decimal is rounded to the nearest double. -/
theorem isNearest_ofDecimal (negative : Bool) (digits : ℕ) (exponent : ℤ) :
    (ofDecimal negative digits exponent).IsNearest negative (digits * 10 ^ exponent) := by
  rw [ofDecimal]
  cases rounded : Magnitude.ofDecimal? digits exponent with
  | none => exact .inl ⟨Magnitude.ofDecimal?_eq_none_iff.1 rounded, rfl⟩
  | some m =>
    obtain ⟨nearest, fits⟩ := Magnitude.ofDecimal?_eq_some_iff.1 rounded
    exact .inr ⟨fits, m, rfl, nearest⟩

/-- There is only one nearest double of a sign. -/
theorem IsNearest.unique {x y : Double} {negative : Bool} {q : ℚ} (first : x.IsNearest negative q)
    (second : y.IsNearest negative q) : x = y := by
  rcases first with ⟨large, rfl⟩ | ⟨small, m, rfl, nearest⟩
  · rcases second with ⟨-, rfl⟩ | ⟨small, -⟩
    · rfl
    · exact absurd large (not_le.2 small)
  · rcases second with ⟨large, -⟩ | ⟨-, m', rfl, nearest'⟩
    · exact absurd large (not_le.2 small)
    · rw [nearest.unique nearest']

end Double

/-! ## Whole numbers read as doubles -/

/-- A digit is no upper-case letter. -/
theorem toLower_of_digitValue?_eq_some {c : Char} {d : ℕ} (digit : digitValue? c = some d) :
    c.toLower = c := by
  have zeros : ∀ z ∈ digitZeros, z + 10 ≤ 65 ∨ 90 < z := by decide
  obtain ⟨z, found, -⟩ := Option.map_eq_some_iff.1 digit
  have range := List.find?_some found
  simp only [Bool.and_eq_true, decide_eq_true_eq] at range
  have outside := zeros z (List.mem_of_find?_eq_some found)
  rw [Char.toLower, dif_neg]
  rintro ⟨low, high⟩
  have least : 65 ≤ c.toNat := low
  have most : c.toNat ≤ 90 := high
  omega

/-- What starts with a digit is no name. -/
theorem readName?_of_digit {c : Char} {d : ℕ} (digit : digitValue? c = some d) (negative : Bool)
    (rest : Text) : readName? negative (c :: rest) = none := by
  have notN : c ≠ 'n' := ne_of_digitValue?_eq_some digit (by decide)
  have notI : c ≠ 'i' := ne_of_digitValue?_eq_some digit (by decide)
  simp [readName?, Text.ofString, toLower_of_digitValue?_eq_some digit, notN, notI]

/-- **A whole number of any length** is read as the decimal that it is. -/
theorem SpellsWhole.readDouble?_eq {t : Text} {negative : Bool} {digits : List ℕ}
    (spelled : SpellsWhole t negative digits) :
    readDouble? t = some (Double.ofDecimal negative (Numeral.value digits) 0) := by
  obtain ⟨sign, run, rfl, isSign, isRun⟩ := spelled
  obtain ⟨c, d, others, rfl, digit⟩ := isRun.exists_eq_cons
  have signRead := isSign.readSign_append digit others
  have read := isRun.readDigits_eq
  have nonempty := isRun.digits_ne_nil
  simp [readDouble?, signRead, readName?_of_digit digit, readDecimal?, read, readFraction?,
    readExponent?, nonempty]

/-! ## Numerals with a point read as doubles -/

/-- An exponent is read as the whole number that it denotes. -/
theorem ExponentNumeral.readExponent?_text (e : ExponentNumeral) (upper : Bool) :
    readExponent? (e.text upper) = some e.value := by
  have nonempty : e.digits ≠ [] := List.ne_nil_of_length_pos (by have := e.two; omega)
  have decimal : ∀ c ∈ e.digits, isDecimalDigit c = true := fun c member =>
    isDecimalDigit_of_isDigit (e.isDigit c member)
  have isRun := isDigitRun_of_forall nonempty decimal
  have isSign : readSign ((if e.negative then '-' else '+') :: e.digits)
      = (e.negative, e.digits) := by
    cases e.negative <;> rfl
  have letter : (if upper then 'E' else 'e') = 'e' ∨ (if upper then 'E' else 'e') = 'E' := by
    cases upper <;> simp
  have read := isRun.readDigits_eq
  obtain ⟨d, digits, values⟩ := List.exists_cons_of_ne_nil isRun.digits_ne_nil
  rw [values] at read
  have number : Written.number e.digits = Numeral.value (d :: digits) := congrArg _ values
  rw [text, readExponent?, if_pos letter, isSign]
  simp only [read, value, number]

namespace PointNumeral

/-- What may follow a numeral: it continues no run of digits, and is no point. -/
def EndsBefore (rest : Text) : Prop := StartsOutside (fun c => continuesRun c || c == '.') rest

/-- Nothing may follow a numeral. -/
theorem endsBefore_nil : EndsBefore [] := fun _ first => nomatch first

/-- An exponent may follow a numeral. -/
theorem endsBefore_exponent (e : ExponentNumeral) (upper : Bool) : EndsBefore (e.text upper) := by
  refine startsOutside_cons ?_
  cases upper <;> decide

/-- A numeral is read as its digits at the place of the last one, which an exponent behind it
moves. -/
theorem readDecimal?_append (f : PointNumeral) {rest : Text} (outside : EndsBefore rest) :
    readDecimal? (f.text ++ rest) = (readExponent? rest).map fun exponent =>
      ⟨Written.number (f.whole ++ f.fraction), exponent - f.fraction.length⟩ := by
  have stops : StartsOutside continuesRun rest := fun c first =>
    (Bool.or_eq_false_iff.1 (outside c first)).1
  have whole := isDigitRun_of_forall f.nonempty fun c => f.isDecimalDigit_of_mem_whole
  have some := whole.digits_ne_nil
  by_cases none : f.fraction = []
  · -- no point follows
    have noPoint : readFraction? rest = Option.none := by
      cases rest with
      | nil => rfl
      | cons c rest =>
        have other := (Bool.or_eq_false_iff.1 (outside c rfl)).2
        rw [beq_eq_false_iff_ne] at other
        rw [readFraction?]
        rintro _ ⟨⟩
        exact other rfl
    have text : f.text = f.whole := by simp [text, none]
    simp [readDecimal?, text, whole.readDigits_append stops, noPoint, some, none, Written.number]
  · have fraction := isDigitRun_of_forall none fun c => f.isDecimalDigit_of_mem_fraction
    have point : StartsOutside continuesRun ('.' :: (f.fraction ++ rest)) :=
      startsOutside_cons (by decide)
    have text : f.text ++ rest = f.whole ++ '.' :: (f.fraction ++ rest) := by
      simp [text, none]
    have places := length_filterMap_digitValue? fun c => f.isDecimalDigit_of_mem_fraction (c := c)
    simp [readDecimal?, text, whole.readDigits_append point, readFraction?,
      fraction.readDigits_append stops, some, places, Written.number]

/-- The digits of a numeral at the place of the last one denote its number. -/
theorem number_mul_pow (f : PointNumeral) (exponent : ℤ) :
    (Written.number (f.whole ++ f.fraction) : ℚ) * 10 ^ (exponent - f.fraction.length)
      = f.value * 10 ^ exponent := by
  have power : (10 ^ f.fraction.length : ℚ) ≠ 0 := by positivity
  rw [Written.number_append f.whole fun c => f.isDecimalDigit_of_mem_fraction, value,
    zpow_sub₀ (by norm_num), zpow_natCast]
  push_cast
  field_simp

/-- **A numeral is read** as the nearest double to the number that it denotes, with the sign in
front and the exponent behind it. -/
theorem readDouble?_append (f : PointNumeral) {sign rest : Text} {negative : Bool} {exponent : ℤ}
    (isSign : IsSign sign negative) (outside : EndsBefore rest)
    (read : readExponent? rest = some exponent) :
    ∃ x, readDouble? (sign ++ (f.text ++ rest)) = some x
      ∧ x.IsNearest negative (f.value * 10 ^ exponent) := by
  have nearest := Double.isNearest_ofDecimal negative (Written.number (f.whole ++ f.fraction))
    (exponent - f.fraction.length)
  rw [number_mul_pow] at nearest
  refine ⟨_, ?_, nearest⟩
  have decimal := f.readDecimal?_append outside
  rw [read] at decimal
  -- the first digit keeps the numeral from being a name
  obtain ⟨c, whole, first⟩ := List.exists_cons_of_ne_nil f.nonempty
  have text : ∃ others, f.text ++ rest = c :: others := ⟨_, by
    rw [PointNumeral.text, first, List.cons_append, List.cons_append]⟩
  obtain ⟨others, text⟩ := text
  have digit := digitValue?_of_isDigit c (f.isDigit c (by simp [first]))
  rw [text] at decimal ⊢
  simp [readDouble?, isSign.readSign_append digit, readName?_of_digit digit, decimal]

end PointNumeral

end PercentFormat
