import PercentFormat.Proofs.DoubleReading

/-! # Whole numbers and ratios as numbers

A whole number in a text, of any length and in digits of any script, stands for itself as long as it
has at most `maxDigits` digits, and otherwise for the nearest double. A ratio stands for the nearest
double as well, and is refused where a text would give an infinity.

* **`Number.ofText_of_short`**, **`Number.ofText_of_long`** — what the texts of whole numbers stand
  for.
* **`Number.ofText_positional_of_lt`**, **`Number.ofText_positional_of_le`** — the numeral of a
  whole number, read back.
* **`Value.toNumber_ratio_of_lt`**, **`Value.toNumber_ratio_of_le`** — what a ratio stands for.
* **`Value.toNumber_spelled`** — all of this, and that no text is refused. -/

namespace PercentFormat

/-! ## Texts of whole numbers -/

namespace Number

variable {t : Text} {negative : Bool} {digits : List ℕ}

/-- A whole number of few digits stands for itself. -/
theorem ofText_of_short (spelled : SpellsWhole t.trim negative digits)
    (short : digits.length ≤ maxDigits) :
    ofText t = whole (signed negative (Nat.ofDigits 10 digits.reverse)) := by
  rw [ofText, spelled.readWhole?_eq, if_pos short, ← Numeral.value_eq_ofDigits]

/-- A whole number of more digits stands for **the nearest double**. -/
theorem ofText_of_long (spelled : SpellsWhole t.trim negative digits)
    (long : maxDigits < digits.length) :
    ∃ x, ofText t = double x ∧ x.IsNearest negative (Nat.ofDigits 10 digits.reverse : ℕ) := by
  have nearest := Double.isNearest_ofDecimal negative (Numeral.value digits) 0
  rw [zpow_zero, mul_one, Numeral.value_eq_ofDigits] at nearest
  refine ⟨_, ?_, nearest⟩
  rw [ofText, spelled.readWhole?_eq, if_neg (Nat.not_le.2 long), spelled.readDouble?_eq,
    Numeral.value_eq_ofDigits]
  rfl

end Number

/-! ## Numerals read back -/

/-- The decimal numeral of a whole number **spells it**, with no blanks at its ends. -/
theorem Number.spellsWhole_positional (n : ℤ) :
    ∃ digits, SpellsWhole (whole n).positional.trim (n < 0) digits
      ∧ Numeral.value digits = n.natAbs ∧ digits.length = (Numeral.decimal n.natAbs).length := by
  have ascii : ∀ c ∈ Numeral.decimal n.natAbs, c.isDigit = true := fun c =>
    Numeral.isDigit_of_mem_decimal
  have decimal : ∀ c ∈ Numeral.decimal n.natAbs, isDecimalDigit c = true := fun c member =>
    isDecimalDigit_of_isDigit (ascii c member)
  have isSign := isSign_ite (n < 0)
  refine ⟨(Numeral.decimal n.natAbs).filterMap digitValue?, ?_, Written.number_decimal _,
    length_filterMap_digitValue? decimal⟩
  rw [positional, isSign.trim_append (Numeral.decimal_ne_nil _) fun c member =>
    isBlank_of_isDigit (ascii c member)]
  exact ⟨_, _, rfl, isSign, isDigitRun_of_forall (Numeral.decimal_ne_nil _) decimal⟩

namespace Number

variable {n : ℤ}

/-- A numeral of few digits reads back as its number. -/
theorem ofText_positional_of_lt (few : n.natAbs < pow10 maxDigits) :
    ofText (whole n).positional = whole n := by
  obtain ⟨digits, spelled, value, length⟩ := spellsWhole_positional n
  have short : digits.length ≤ maxDigits := by
    rw [length]
    exact (Numeral.length_decimal_le_iff (by decide)).2 few
  rw [ofText_of_short spelled short, ← Numeral.value_eq_ofDigits, value, signed_natAbs]

/-- A numeral of more digits reads back as an infinity. -/
theorem ofText_positional_of_le (many : pow10 maxDigits ≤ n.natAbs) :
    ofText (whole n).positional = double (.infinite (n < 0)) := by
  obtain ⟨digits, spelled, value, length⟩ := spellsWhole_positional n
  have long : maxDigits < digits.length := by
    rw [length, ← Nat.not_le, Numeral.length_decimal_le_iff (by decide)]
    exact Nat.not_lt.2 many
  obtain ⟨x, read, nearest⟩ := ofText_of_long spelled long
  rw [← Numeral.value_eq_ofDigits, value] at nearest
  have large : (overflowBound : ℚ) ≤ n.natAbs :=
    Nat.cast_le.2 (Magnitude.overflowBound_le_pow10_maxDigits.trans many)
  rcases nearest with ⟨-, infinite⟩ | ⟨small, -⟩
  · rw [read, infinite]
  · exact absurd large (not_le.2 small)

end Number

/-! ## Ratios -/

namespace Value

variable {q : ℚ}

/-- The absolute value of a ratio is the quotient that is rounded. -/
theorem natAbs_num_div_den (q : ℚ) : (q.num.natAbs / q.den : ℚ) = |q| := by
  rw [Nat.cast_natAbs, Int.cast_abs, ← Nat.abs_cast q.den, ← abs_div, Rat.num_div_den]

/-- A ratio below the overflow bound stands for **the nearest double**. -/
theorem toNumber_ratio_of_lt (fits : |q| < overflowBound) :
    ∃ m : Magnitude, (ratio q).toNumber = .ok (.double (.finite (q < 0) m))
      ∧ m.IsNearest |q| := by
  have some : Magnitude.ofRatio? q.num.natAbs q.den ≠ none := by
    rw [Ne, Magnitude.ofRatio?_eq_none_iff _ q.den_pos, Nat.not_le]
    rw [← natAbs_num_div_den, div_lt_iff₀ (Nat.cast_pos.2 q.den_pos)] at fits
    exact_mod_cast fits
  obtain ⟨m, rounded⟩ := Option.ne_none_iff_exists'.1 some
  have nearest := Magnitude.isNearest_of_ofRatio? q.den_pos rounded
  rw [natAbs_num_div_den] at nearest
  refine ⟨m, ?_, nearest⟩
  rw [toNumber, rounded, ofNearest]
  simp only [Rat.num_neg]

/-- Any other ratio **is refused**. -/
theorem toNumber_ratio_of_le (large : overflowBound ≤ |q|) :
    (ratio q).toNumber = .error .ratioTooLarge := by
  have none : Magnitude.ofRatio? q.num.natAbs q.den = Option.none := by
    rw [Magnitude.ofRatio?_eq_none_iff _ q.den_pos]
    rw [← natAbs_num_div_den, le_div_iff₀ (Nat.cast_pos.2 q.den_pos)] at large
    exact_mod_cast large
  rw [toNumber, none, ofNearest]

/-! ## Texts and ratios as numbers -/

/-- **Texts and ratios as numbers.**

* A text that spells a whole number, blanks at its ends left aside, stands for it if it has at most
  `maxDigits` digits, and otherwise for the double that is nearest to it.
* So the numeral of a whole number reads back as the number if and only if the number has at most
  `maxDigits` digits, and otherwise as an infinity.
* A ratio stands for the nearest double. It is refused if and only if it is not below the overflow
  bound.
* No text is refused, whatever it holds. -/
theorem toNumber_spelled :
    (∀ t negative digits, SpellsWhole (Text.trim t) negative digits →
      (digits.length ≤ maxDigits → (text t).toNumber
          = .ok (.whole (signed negative (Nat.ofDigits 10 digits.reverse))))
      ∧ (maxDigits < digits.length → ∃ x, (text t).toNumber = .ok (.double x)
          ∧ x.IsNearest negative (Nat.ofDigits 10 digits.reverse : ℕ)))
    ∧ (∀ n : ℤ,
      ((text (Number.whole n).positional).toNumber = .ok (.whole n) ↔ n.natAbs < pow10 maxDigits)
      ∧ (pow10 maxDigits ≤ n.natAbs →
          (text (Number.whole n).positional).toNumber = .ok (.double (.infinite (n < 0)))))
    ∧ (∀ q : ℚ,
      (|q| < overflowBound → ∃ m : Magnitude,
          (ratio q).toNumber = .ok (.double (.finite (q < 0) m)) ∧ m.IsNearest |q|)
      ∧ ((∃ fault, (ratio q).toNumber = .error fault ∧ fault.kind = .overflow)
          ↔ overflowBound ≤ |q|))
    ∧ ∀ t, ∃ n, (text t).toNumber = .ok n := by
  have ofText (t : Text) : (text t).toNumber = .ok (Number.ofText t) := rfl
  refine ⟨fun t negative digits spelled => ⟨fun short => ?_, fun long => ?_⟩,
    fun n => ⟨⟨fun read => ?_, fun few => ?_⟩, fun many => ?_⟩,
    fun q => ⟨toNumber_ratio_of_lt, fun ⟨fault, refused, _⟩ => ?_, fun large => ?_⟩,
    fun t => ⟨_, ofText t⟩⟩
  · rw [ofText, Number.ofText_of_short spelled short]
  · obtain ⟨x, read, nearest⟩ := Number.ofText_of_long spelled long
    exact ⟨x, by rw [ofText, read], nearest⟩
  · by_contra many
    rw [ofText, Number.ofText_positional_of_le (Nat.not_lt.1 many)] at read
    cases read
  · rw [ofText, Number.ofText_positional_of_lt few]
  · rw [ofText, Number.ofText_positional_of_le many]
  · by_contra small
    obtain ⟨m, number, -⟩ := toNumber_ratio_of_lt (not_le.1 small)
    cases number.symm.trans refused
  · exact ⟨_, toNumber_ratio_of_le large, rfl⟩

/-- Digits of two scripts with an underscore between them, a minus in front of 4301 zeros, the least
whole number of 4301 digits, and the least ratio that is refused. -/
theorem toNumber_spelled_padded :
    let t : Text := [' ', '\u0662', '_', '5', '\n']
    let zeros : Text := '-' :: Text.zeros 4301
    SpellsWhole t.trim false [2, 5] ∧ (text t).toNumber = .ok (.whole 25)
      ∧ SpellsWhole zeros.trim true (List.replicate 4301 0)
      ∧ (text zeros).toNumber = .ok (.double (.finite true .zero))
      ∧ (text (Number.whole (pow10 maxDigits)).positional).toNumber
          = .ok (.double (.infinite false))
      ∧ |(1 / 3 : ℚ)| < overflowBound
      ∧ (∃ m : Magnitude, (ratio (1 / 3)).toNumber = .ok (.double (.finite false m))
          ∧ m.IsNearest |1 / 3|)
      ∧ ∃ fault, (ratio overflowBound).toNumber = .error fault ∧ fault.kind = .overflow := by
  intro t zeros
  obtain ⟨texts, numerals, ratios, -⟩ := toNumber_spelled
  have scripts : SpellsWhole t.trim false [2, 5] :=
    ⟨[], ['\u0662', '_', '5'], by decide, .none, .underscore (by decide) (.last (by decide))⟩
  have short := (texts t false [2, 5] scripts).1 (by decide)
  have digit : digitValue? '0' = some 0 := by decide
  have run : IsDigitRun (Text.zeros 4301) (List.replicate 4301 0) := by
    have decimal : ∀ c ∈ Text.zeros 4301, isDecimalDigit c = true := fun c member =>
      isDecimalDigit_of_isDigit (by rw [List.eq_of_mem_replicate member]; rfl)
    have nonempty : Text.zeros 4301 ≠ [] := List.cons_ne_nil _ _
    have run := isDigitRun_of_forall nonempty decimal
    rwa [Text.zeros, List.filterMap_replicate_of_some digit] at run
  have padded : SpellsWhole zeros.trim true (List.replicate 4301 0) := by
    have trimmed : zeros.trim = ['-'] ++ Text.zeros 4301 :=
      IsSign.minus.trim_append (List.cons_ne_nil _ _) fun c member =>
        isBlank_of_isDigit (by rw [List.eq_of_mem_replicate member]; rfl)
    exact ⟨['-'], _, trimmed, .minus, run⟩
  -- the nearest double to zero is zero
  obtain ⟨x, read, nearest⟩ := (texts zeros true _ padded).2
    (by rw [List.length_replicate]; decide)
  rw [List.reverse_replicate, Nat.ofDigits_replicate_zero, Nat.cast_zero] at nearest
  have itself : Double.IsNearest (.finite true .zero) true 0 := by
    have small : 2 * (0 : ℚ) * unitsPerOne < 1 := by
      rw [mul_zero, zero_mul]
      exact one_pos
    exact .inr ⟨Magnitude.lt_overflowBound_of_small le_rfl small, _, rfl,
      Magnitude.isNearest_zero le_rfl small⟩
  rw [nearest.unique itself] at read
  have large := (numerals (pow10 maxDigits)).2 (Int.natAbs_natCast _).ge
  rw [decide_eq_false (Int.not_lt.2 (Int.natCast_nonneg _))] at large
  have third : |(1 / 3 : ℚ)| < overflowBound :=
    lt_of_lt_of_le (by norm_num) Magnitude.one_le_overflowBound
  obtain ⟨m, number, nearest⟩ := (ratios (1 / 3)).1 third
  rw [decide_eq_false (by norm_num)] at number
  have refused := (ratios overflowBound).2.2 (le_abs_self _)
  exact ⟨scripts, short, padded, read, large, third, ⟨m, number, nearest⟩, refused⟩

end Value

end PercentFormat
