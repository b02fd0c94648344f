import PercentFormat.Proofs.FixedNotation

/-! # Numerals without zeros at the end

Zeros at the end of a fraction change nothing of what a numeral with a point denotes. Without them a
numeral has a point if and only if the number is no whole number.

* **`Written.number_append`** — digits behind others.
* **`PointNumeral.Trimmed`** — numerals without zeros at the end of their fractions.
* **`PointNumeral.trim`** — a numeral without these zeros, with **`PointNumeral.value_trim`**.
* **`Layout.trimFraction_text`** — this is what the layout leaves of a numeral.
* **`PointNumeral.Trimmed.exists_value_eq_iff`** — the numerals of whole numbers.
* **`PointNumeral.significant`** — the digits of a numeral from the first one on that is no zero,
  with **`PointNumeral.significant_ofScaled`**. -/

namespace PercentFormat

/-! ## Digits behind others -/

namespace Written

/-- Digits behind others move these to higher places. -/
theorem number_append (front : Text) {behind : Text}
    (digits : ∀ c ∈ behind, isDecimalDigit c = true) :
    number (front ++ behind) = number front * 10 ^ behind.length + number behind := by
  have places := length_filterMap_digitValue? digits
  rw [number, List.filterMap_append, Numeral.value_eq_ofDigits, List.reverse_append,
    Nat.ofDigits_append, List.length_reverse, places, ← Numeral.value_eq_ofDigits,
    ← Numeral.value_eq_ofDigits, Nat.mul_comm, Nat.add_comm]
  rfl

/-- So many digits denote less than the power of ten of their number. -/
theorem number_lt {run : Text} (digits : ∀ c ∈ run, isDecimalDigit c = true) :
    number run < 10 ^ run.length := by
  have below : ∀ d ∈ (run.filterMap digitValue?).reverse, d < 10 := by
    intro d member
    obtain ⟨c, -, value⟩ := List.mem_filterMap.1 (List.mem_reverse.1 member)
    exact digitValue?_lt value
  have bound := Nat.ofDigits_lt_base_pow_length (by decide) below
  rwa [List.length_reverse, length_filterMap_digitValue? digits, ← Numeral.value_eq_ofDigits]
    at bound

/-- A zero behind digits moves them by one place. -/
theorem number_concat_zero (run : Text) : number (run ++ ['0']) = number run * 10 := by
  refine number_append run fun c member => ?_
  rw [List.mem_singleton.1 member]
  exact isDecimalDigit_of_isDigit rfl

end Written

namespace PointNumeral

variable {f : PointNumeral}

/-- The digits behind the point are decimal digits. -/
theorem isDecimalDigit_of_mem_fraction {c : Char} (member : c ∈ f.fraction) :
    isDecimalDigit c = true :=
  isDecimalDigit_of_isDigit (f.isDigit c (List.mem_append_right _ member))

/-- The digits in front of the point are decimal digits. -/
theorem isDecimalDigit_of_mem_whole {c : Char} (member : c ∈ f.whole) :
    isDecimalDigit c = true :=
  isDecimalDigit_of_isDigit (f.isDigit c (List.mem_append_left _ member))

/-! ## Trimming -/

/-- A numeral is **trimmed** if no zero stands at the end of its fraction. -/
def Trimmed (f : PointNumeral) : Prop := f.fraction.getLast? ≠ some '0'

/-- A numeral **without the zeros** at the end of its fraction. -/
def trim (f : PointNumeral) : PointNumeral where
  whole := f.whole
  fraction := f.fraction.rdropWhile (· = '0')
  isDigit c member := by
    refine f.isDigit c ?_
    rcases List.mem_append.1 member with front | behind
    · exact List.mem_append_left _ front
    · exact List.mem_append_right _ ((List.rdropWhile_prefix _ _).subset behind)
  nonempty := f.nonempty
  head := f.head

/-- The digits in front of the point stay. -/
@[simp] theorem whole_trim (f : PointNumeral) : f.trim.whole = f.whole := rfl

/-- The zeros behind the last other digit go. -/
theorem fraction_trim (f : PointNumeral) :
    f.trim.fraction = f.fraction.rdropWhile (· = '0') := rfl

/-- Without these zeros a numeral is trimmed. -/
theorem trimmed_trim (f : PointNumeral) : f.trim.Trimmed := by
  intro zero
  rw [fraction_trim] at zero
  have nonempty : f.fraction.rdropWhile (· = '0') ≠ [] := by
    intro empty
    rw [empty] at zero
    contradiction
  refine List.rdropWhile_last_not _ _ nonempty (decide_eq_true ?_)
  exact Option.some.inj ((List.getLast?_eq_some_getLast nonempty).symm.trans zero)

/-- Zeros at the end of a fraction do not change the fraction. -/
theorem number_rdropWhile_div (run : Text) :
    (Written.number (run.rdropWhile (· = '0')) / 10 ^ (run.rdropWhile (· = '0')).length : ℚ)
      = Written.number run / 10 ^ run.length := by
  induction run using List.reverseRecOn with
  | nil => rfl
  | append_singleton run c ih =>
    by_cases zero : c = '0'
    · subst zero
      rw [List.rdropWhile_concat_pos _ _ _ rfl, ih, Written.number_concat_zero, List.length_append,
        List.length_singleton, pow_succ, Nat.cast_mul, Nat.cast_ofNat,
        mul_div_mul_right _ _ (by norm_num)]
    · rw [List.rdropWhile_concat_neg _ _ _ (by simpa using zero)]

/-- Without the zeros at its end a numeral **denotes the same number**. -/
theorem value_trim (f : PointNumeral) : f.trim.value = f.value := by
  rw [value, whole_trim, fraction_trim, number_rdropWhile_div]
  rfl

/-- A numeral has a point if and only if there are digits behind it. -/
theorem point_mem_text_iff : '.' ∈ f.text ↔ f.fraction ≠ [] := by
  have noDigit : '.' ∉ f.whole := fun member =>
    absurd (f.isDigit '.' (List.mem_append_left _ member)) (by decide)
  by_cases none : f.fraction = []
  · simp [text, none, noDigit]
  · simp [text, none]

/-! ## Whole numbers -/

/-- A trimmed fraction is not zero. -/
theorem Trimmed.number_fraction_pos (trimmed : f.Trimmed) (some : f.fraction ≠ []) :
    0 < Written.number f.fraction := by
  obtain ⟨front, last, digits⟩ := (List.eq_nil_or_concat f.fraction).resolve_left some
  rw [List.concat_eq_append] at digits
  have ascii : last.isDigit = true := f.isDigit last (by simp [digits])
  have other : last ≠ '0' := by
    rintro rfl
    exact trimmed (by simp [digits])
  have value : digitValue? last = .some (last.toNat - 48) := digitValue?_of_isDigit last ascii
  -- the last digit is greater than zero
  have least : 48 ≤ last.toNat := by
    simp only [Char.isDigit, Bool.and_eq_true, decide_eq_true_eq] at ascii
    exact ascii.1
  have more : last.toNat ≠ 48 := fun zero => other (Char.ext (UInt32.toNat_inj.1 zero))
  rw [Written.number, digits, List.filterMap_append, List.filterMap_cons_some value,
    List.filterMap_nil, Numeral.value_concat]
  omega

/-- A trimmed numeral **denotes a whole number** if and only if it has no digits behind the
point. -/
theorem Trimmed.exists_value_eq_iff (trimmed : f.Trimmed) :
    (∃ k : ℤ, f.value = k) ↔ f.fraction = [] := by
  constructor
  · rintro ⟨k, same⟩
    by_contra some
    have positive := trimmed.number_fraction_pos some
    have less := Written.number_lt fun c => f.isDecimalDigit_of_mem_fraction (c := c)
    have power : (10 ^ f.fraction.length : ℚ) ≠ 0 := by positivity
    -- the fraction would be a multiple of the power of ten that it lies below
    have multiple : (Written.number f.fraction : ℤ)
        = (k - Written.number f.whole) * 10 ^ f.fraction.length := by
      rw [value, ← eq_sub_iff_add_eq', div_eq_iff power] at same
      exact_mod_cast same
    have divides : (10 ^ f.fraction.length : ℤ) ∣ Written.number f.fraction := ⟨_, by
      rw [multiple, mul_comm]⟩
    exact absurd (Nat.le_of_dvd positive (by exact_mod_cast divides)) (Nat.not_le.2 less)
  · intro none
    refine ⟨Written.number f.whole, ?_⟩
    rw [value, none]
    simp [Written.number]

/-! ## Cutting off zeros -/

/-- What is left of zeros at the end of a fraction, in reverse. -/
theorem dropWhile_reverse_fraction (f : PointNumeral) (rest : Text) :
    ((f.fraction.reverse ++ '.' :: rest).dropWhile (· = '0'))
      = f.trim.fraction.reverse ++ '.' :: rest := by
  have kept : f.trim.fraction.reverse = f.fraction.reverse.dropWhile (· = '0') :=
    List.reverse_reverse _
  rw [kept, List.dropWhile_append]
  split
  · rename_i none
    rw [List.isEmpty_iff.1 none]
    rfl
  · rfl

end PointNumeral

/-- **What the layout leaves of a numeral** is the numeral without the zeros at its end. -/
theorem Layout.trimFraction_text (f : PointNumeral) : trimFraction f.text = f.trim.text := by
  by_cases none : f.fraction = []
  · -- a numeral without a point stays as it is
    have same : f.trim.text = f.text := by
      simp [PointNumeral.text, PointNumeral.fraction_trim, none]
    rw [same, trimFraction, if_neg (PointNumeral.point_mem_text_iff.not.2 (not_not.2 none))]
  · have reversed : f.text.reverse = f.fraction.reverse ++ '.' :: f.whole.reverse := by
      simp [PointNumeral.text, none]
    rw [trimFraction, if_pos (PointNumeral.point_mem_text_iff.2 none), reversed,
      f.dropWhile_reverse_fraction]
    -- the point stays if there is a digit behind it
    rcases List.eq_nil_or_concat f.trim.fraction with empty | ⟨front, last, digits⟩
    · simp [PointNumeral.text, empty]
    · have other : last ≠ '.' := by
        rintro rfl
        have digit := f.trim.isDigit '.' (by simp [digits])
        contradiction
      simp [PointNumeral.text, digits, other]

/-! ## Significant digits -/

namespace PointNumeral

/-- The **significant digits** of a numeral: those from the first one on that is no zero. -/
def significant (f : PointNumeral) : Text := (f.whole ++ f.fraction).dropWhile (· = '0')

/-- The digits of a quotient are those of the number that is divided, behind zeros. -/
theorem exists_whole_append_fraction (m places : ℕ) :
    ∃ k, (ofScaled m places).whole ++ (ofScaled m places).fraction
      = Text.zeros k ++ Numeral.decimal m := by
  rw [whole_ofScaled, fraction_ofScaled]
  by_cases none : places = 0
  · subst none
    exact ⟨0, by simp [Text.zeros]⟩
  · rw [if_neg none]
    by_cases small : m < pow10 places
    · -- the numeral of the quotient's whole part is one more zero
      rw [Nat.div_eq_of_lt small, Nat.mod_eq_of_lt small, Numeral.decimal_zero]
      refine ⟨places - (Numeral.inBase 10 m).length + 1, ?_⟩
      rw [Numeral.padded, Numeral.decimal_eq_inBase, Text.zeros, Text.zeros, List.replicate_succ]
      rfl
    · have high : 0 < m / pow10 places := Nat.div_pos (Nat.le_of_not_lt small) (pow10_pos places)
      have digits := Numeral.inBase_append_padded (Nat.pos_of_ne_zero none) high
        (Nat.mod_lt m (pow10_pos places))
      rw [Nat.mul_comm, Nat.div_add_mod] at digits
      exact ⟨0, by rw [Numeral.decimal_eq_inBase, Numeral.decimal_eq_inBase, digits]; rfl⟩

/-- The significant digits of a quotient are **those of the number that is divided**, wherever the
point stands. -/
theorem significant_ofScaled {m : ℕ} (positive : 0 < m) (places : ℕ) :
    (ofScaled m places).significant = Numeral.decimal m := by
  obtain ⟨k, digits⟩ := exists_whole_append_fraction m places
  rw [significant, digits]
  refine dropWhile_append_of_startsOutside (fun c member => ?_) fun c first => ?_
  · exact decide_eq_true (List.eq_of_mem_replicate member)
  · refine decide_eq_false ?_
    rintro rfl
    exact Numeral.head?_decimal positive first

end PointNumeral

end PercentFormat
