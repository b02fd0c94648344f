import PercentFormat.Proofs.DoubleReading
import PercentFormat.Proofs.GeneralNotation
import PercentFormat.Proofs.ShortestDecimals

/-! # Doubles without an exponent

The ordinary text of a double is its shortest decimal, with or without an exponent. Written without
one in any case, it is a numeral that denotes the same number, and that is read as the same double.

* **`Decimal.positional_eq_text`** — a decimal without an exponent is a numeral with a point.
* **`Denotes`** — texts and the numbers that they denote, with or without an exponent.
* **`Magnitude.denotes_text`** — the ordinary text of a magnitude denotes its shortest decimal.
* **`Magnitude.positional_text_iff`** — which ordinary texts have no exponent.
* **`Number.positional_of_magnitude`** — a double without an exponent. -/

namespace PercentFormat

/-! ## Decimals as numerals -/

namespace Decimal

/-- The numeral of a decimal, with as many places as its exponent demands. -/
def pointNumeral (d : Decimal) : PointNumeral :=
  .ofScaled (d.digits * pow10 d.exponent.toNat) (-d.exponent).toNat

/-- The numeral of a decimal denotes it. -/
theorem value_pointNumeral (d : Decimal) : d.pointNumeral.value = d.toRat := by
  rw [pointNumeral, PointNumeral.value_ofScaled, ← cast_pow10, Magnitude.cast_decimal, toRat]

/-- Zeros behind the numeral of a positive number are those of a power of ten. -/
theorem numeral_append_zeros {m : ℕ} (positive : 0 < m) (k : ℕ) :
    Numeral.decimal m ++ Text.zeros k = Numeral.decimal (m * pow10 k) := by
  induction k with
  | zero => rw [pow10_zero, Nat.mul_one, Text.zeros, List.replicate_zero, List.append_nil]
  | succ k ih =>
    have power : 0 < m * pow10 k := Nat.mul_pos positive (pow10_pos k)
    have last := Numeral.inBase_append_digit power (show 0 < 10 by decide)
    rw [Numeral.inBase_zero, Nat.add_zero] at last
    rw [Text.zeros, List.replicate_succ', ← List.append_assoc, ← Text.zeros, ih, pow10_succ,
      ← Nat.mul_assoc, Nat.mul_comm _ 10, Numeral.decimal_eq_inBase, Numeral.decimal_eq_inBase,
      last]

variable {digits places : ℕ}

/-- Digits that all stand behind the point. -/
theorem positional_of_lt (some : 0 < places) (few : digits < pow10 places) :
    Layout.positional (Numeral.decimal digits) ((Numeral.decimal digits).length - (places : ℤ))
      = (PointNumeral.ofScaled digits places).text := by
  have short := (Numeral.length_decimal_le_iff some).2 few
  have zeros : (-(((Numeral.decimal digits).length : ℤ) - places)).toNat
      = places - (Numeral.decimal digits).length := by omega
  rw [Layout.positional, if_pos (by omega), zeros, ← Layout.fixed_eq_text, Layout.fixed,
    if_neg some.ne', Nat.div_eq_of_lt few, Nat.mod_eq_of_lt few, Numeral.decimal_zero]
  rfl

/-- Digits on both sides of the point. -/
theorem positional_of_le (some : 0 < places) (many : pow10 places ≤ digits) :
    Layout.positional (Numeral.decimal digits) ((Numeral.decimal digits).length - (places : ℤ))
      = (PointNumeral.ofScaled digits places).text := by
  have less := Nat.mod_lt digits (pow10_pos places)
  have split := Numeral.inBase_append_padded some (Nat.div_pos many (pow10_pos places)) less
  have behind := Numeral.length_padded some less
  rw [Nat.mul_comm, Nat.div_add_mod, ← Numeral.decimal_eq_inBase, ← Numeral.decimal_eq_inBase]
    at split
  have front := List.length_pos_iff.2 (Numeral.decimal_ne_nil (digits / pow10 places))
  have nonempty : Numeral.padded places (digits % pow10 places) ≠ [] :=
    List.length_pos_iff.1 (some.trans_eq behind.symm)
  rw [PointNumeral.text, PointNumeral.whole_ofScaled, PointNumeral.fraction_ofScaled,
    if_neg some.ne', if_neg nonempty, split]
  generalize Numeral.decimal (digits / pow10 places) = whole at front ⊢
  generalize Numeral.padded places (digits % pow10 places) = fraction at behind ⊢
  subst behind
  have point : ((whole ++ fraction).length - (fraction.length : ℤ)) = whole.length := by
    rw [List.length_append]
    omega
  rw [point, Layout.positional, if_neg (by omega), Int.toNat_natCast,
    if_neg (by rw [List.length_append]; omega), List.take_left, List.drop_left]

/-- **A decimal without an exponent** is its numeral. -/
theorem positional_eq_text (d : Decimal) (nonzero : d.digits ≠ 0 ∨ d.exponent = 0) :
    Layout.positional d.numeral d.point = d.pointNumeral.text := by
  obtain ⟨digits, exponent⟩ := d
  have least := List.length_pos_iff.2 (Numeral.decimal_ne_nil digits)
  simp only [pointNumeral, point, numeral] at nonzero ⊢
  by_cases whole : 0 ≤ exponent
  · -- zeros stand behind the digits, and no point
    obtain ⟨k, rfl⟩ := Int.eq_ofNat_of_zero_le whole
    have zeros : ((Numeral.decimal digits).length + (k : ℤ)).toNat
        - (Numeral.decimal digits).length = k := by omega
    rw [Layout.positional, if_neg (by omega), if_pos (by omega), zeros, Int.toNat_natCast,
      Int.toNat_of_nonpos (by omega), ← Layout.fixed_eq_text, Layout.fixed, if_pos rfl]
    rcases nonzero with some | none
    · exact numeral_append_zeros (Nat.pos_of_ne_zero some) k
    · obtain rfl : k = 0 := by omega
      rw [pow10_zero, Nat.mul_one, Text.zeros, List.replicate_zero, List.append_nil]
  · obtain ⟨places, rfl⟩ : ∃ places : ℕ, exponent = -places := ⟨exponent.natAbs, by omega⟩
    have some : 0 < places := by omega
    rw [Int.toNat_of_nonpos (by omega), pow10_zero, Nat.mul_one, neg_neg, Int.toNat_natCast,
      ← sub_eq_add_neg]
    rcases Nat.lt_or_ge digits (pow10 places) with few | many
    · exact positional_of_lt some few
    · exact positional_of_le some many

/-- The numeral of a reduced decimal is trimmed. -/
theorem IsReduced.trimmed {d : Decimal} (reduced : d.IsReduced) : d.pointNumeral.Trimmed := by
  intro zero
  rw [pointNumeral, PointNumeral.fraction_ofScaled] at zero
  split at zero
  · contradiction
  · rename_i some
    have below : d.exponent < 0 := by omega
    rw [Int.toNat_of_nonpos below.le, pow10_zero, Nat.mul_one] at zero
    obtain ⟨k, places⟩ := Nat.exists_eq_succ_of_ne_zero some
    -- a zero at the end would be the last digit of the decimal
    obtain ⟨front, text⟩ := List.getLast?_eq_some_iff.1 zero
    have last := congrArg Written.number text
    rw [Numeral.number_padded, Written.number_concat_zero, places, Nat.succ_eq_add_one,
      pow10_succ] at last
    have ten : d.digits % 10 = 0 := by
      rw [← Nat.mod_mul_left_mod, last, Nat.mul_mod_left]
    rcases reduced with other | rfl
    · exact other ten
    · exact absurd below (lt_irrefl 0)

/-- The numeral of a decimal without digits behind the point is that of a whole number. -/
theorem exists_text_eq_decimal {d : Decimal} (none : d.pointNumeral.fraction = []) :
    ∃ w : ℕ, d.toRat = w ∧ d.pointNumeral.text = Numeral.decimal w := by
  have places : (-d.exponent).toNat = 0 := by
    have length := PointNumeral.length_fraction_ofScaled (d.digits * pow10 d.exponent.toNat)
      (-d.exponent).toNat
    rw [← length]
    exact List.length_eq_zero_iff.2 none
  refine ⟨d.digits * pow10 d.exponent.toNat, ?_, ?_⟩
  · rw [← d.value_pointNumeral, pointNumeral, places, PointNumeral.value_ofScaled, pow_zero,
      div_one]
  · rw [pointNumeral, places, ← Layout.fixed_eq_text, Layout.fixed, if_pos rfl]

/-- The digits of a reduced decimal are zero only at the exponent zero. -/
theorem IsReduced.nonzero {d : Decimal} (reduced : d.IsReduced) :
    d.digits ≠ 0 ∨ d.exponent = 0 := by
  rcases reduced with other | rfl
  · refine .inl fun zero => other ?_
    rw [zero]
  · exact .inr rfl

end Decimal

/-! ## Texts that denote numbers -/

/-- A text **denotes** a number: it is a numeral with a point, either alone or with an exponent. -/
inductive Denotes : Text → ℚ → Prop where
  /-- Without an exponent. -/
  | plain (f : PointNumeral) : Denotes f.text f.value
  /-- With an exponent. -/
  | scaled (f : PointNumeral) (e : ExponentNumeral) :
    Denotes (f.text ++ e.text false) (f.value * 10 ^ e.value)

namespace Denotes

variable {t : Text} {q : ℚ}

/-- A text that denotes a number is **read as the nearest double** to it, with the sign in front. -/
theorem exists_readDouble?_eq (denotes : Denotes t q) {sign : Text} {negative : Bool}
    (isSign : IsSign sign negative) :
    ∃ x, readDouble? (sign ++ t) = some x ∧ x.IsNearest negative q := by
  cases denotes with
  | plain f =>
    have read := f.readDouble?_append isSign PointNumeral.endsBefore_nil rfl
    rwa [List.append_nil, zpow_zero, mul_one] at read
  | scaled f e =>
    exact f.readDouble?_append isSign (PointNumeral.endsBefore_exponent e false)
      (e.readExponent?_text false)

/-- A text denotes **only one number**. -/
theorem unique {p : ℚ} (first : Denotes t p) (second : Denotes t q) : p = q := by
  -- a reader takes the text for one decimal, which is the number
  have read {q : ℚ} (denotes : Denotes t q) : ∃ d, readDecimal? t = some d ∧ d.toRat = q := by
    cases denotes with
    | plain f =>
      have decimal := f.readDecimal?_append PointNumeral.endsBefore_nil
      rw [List.append_nil] at decimal
      refine ⟨_, decimal, ?_⟩
      have value := f.number_mul_pow 0
      rwa [zpow_zero, mul_one] at value
    | scaled f e =>
      have decimal := f.readDecimal?_append (PointNumeral.endsBefore_exponent e false)
      rw [e.readExponent?_text] at decimal
      exact ⟨_, decimal, f.number_mul_pow e.value⟩
  obtain ⟨d, decimal, rfl⟩ := read first
  obtain ⟨d', decimal', rfl⟩ := read second
  rw [Option.some.inj (decimal.symm.trans decimal')]

end Denotes

/-- A numeral without a fraction, with a zero behind a point. -/
def PointNumeral.withZero (f : PointNumeral) : PointNumeral where
  whole := f.whole
  fraction := ['0']
  isDigit c member := by
    rcases List.mem_append.1 member with front | behind
    · exact f.isDigit c (List.mem_append_left _ front)
    · rw [List.mem_singleton.1 behind]
      rfl
  nonempty := f.nonempty
  head := f.head

/-- A zero behind the point does not change a number. -/
theorem PointNumeral.denotes_append_zero {f : PointNumeral} (none : f.fraction = []) :
    Denotes (f.text ++ ['.', '0']) f.value := by
  have text : f.withZero.text = f.text ++ ['.', '0'] := by
    simp [PointNumeral.text, withZero, none]
  have value : f.withZero.value = f.value := by
    have zero : Written.number ['0'] = 0 := by decide
    rw [PointNumeral.value, PointNumeral.value, none, withZero, zero]
    simp [Written.number]
  rw [← text, ← value]
  exact .plain f.withZero

namespace Magnitude

/-- A magnitude without an exponent is the numeral of its shortest decimal. -/
theorem positional_eq_text (x : Magnitude) : x.positional = x.shortest.pointNumeral.text :=
  x.shortest.positional_eq_text x.isReduced_shortest.nonzero

/-- **The ordinary text** of a magnitude denotes its shortest decimal. -/
theorem denotes_text (x : Magnitude) : Denotes x.text x.shortest.toRat := by
  have reduced := x.isReduced_shortest
  rw [text]
  generalize x.shortest = d at reduced ⊢
  split
  · -- without an exponent, a fraction is written also where it is zero
    rw [d.positional_eq_text reduced.nonzero, ← d.value_pointNumeral]
    by_cases point : '.' ∈ d.pointNumeral.text
    · rw [if_pos point]
      exact .plain d.pointNumeral
    · rw [if_neg point]
      rw [PointNumeral.point_mem_text_iff, not_not] at point
      exact PointNumeral.denotes_append_zero point
  · -- with an exponent, the point stands behind the first digit
    let first : Decimal := ⟨d.digits, 1 - d.numeral.length⟩
    have point : first.point = 1 := by
      change (d.numeral.length : ℤ) + (1 - d.numeral.length) = 1
      omega
    have nonzero : first.digits ≠ 0 ∨ first.exponent = 0 := by
      by_cases zero : d.digits = 0
      · -- the numeral of zero has one digit
        have one : d.numeral.length = 1 := by
          rw [Decimal.numeral, zero, Numeral.decimal_zero, List.length_singleton]
        exact .inr (by simp [first, one])
      · exact .inl zero
    have numeral := first.positional_eq_text nonzero
    rw [point] at numeral
    have value : d.toRat
        = first.pointNumeral.value * 10 ^ (ExponentNumeral.ofInt (d.point - 1)).value := by
      rw [ExponentNumeral.value_ofInt, first.value_pointNumeral, Decimal.toRat, Decimal.toRat,
        mul_assoc, ← zpow10_add, Decimal.point]
      congr 2
      change _ = 1 - (d.numeral.length : ℤ) + _
      omega
    rw [value, Layout.exponentPart_eq_text]
    exact numeral ▸ .scaled first.pointNumeral _

/-- A magnitude is the only one nearest to its shortest decimal, which is not too large. -/
theorem isNearest_shortest (x : Magnitude) :
    x.IsNearest x.shortest.toRat ∧ x.shortest.toRat < overflowBound :=
  Decimal.readsBack_iff.1 x.readsBack_shortest

/-- What denotes the shortest decimal of a magnitude is read as the magnitude. -/
theorem readDouble?_of_denotes {x : Magnitude} {t sign : Text} {negative : Bool}
    (denotes : Denotes t x.shortest.toRat) (isSign : IsSign sign negative) :
    readDouble? (sign ++ t) = some (.finite negative x) := by
  obtain ⟨y, read, nearest⟩ := denotes.exists_readDouble?_eq isSign
  obtain ⟨itself, fits⟩ := x.isNearest_shortest
  rw [read, nearest.unique (.inr ⟨fits, x, rfl, itself⟩)]

end Magnitude

/-! ## Which texts have an exponent -/

/-- The point of a decimal says between which powers of ten it lies. -/
theorem Decimal.pow_point_bounds {d : Decimal} (some : d.digits ≠ 0) :
    (10 : ℚ) ^ (d.point - 1) ≤ d.toRat ∧ d.toRat < 10 ^ d.point := by
  obtain ⟨count, length, le, lt⟩ := Numeral.exists_digitCount_eq (Nat.pos_of_ne_zero some)
  have point : d.point = (count + 1 : ℕ) + d.exponent :=
    congrArg (· + d.exponent) (congrArg Nat.cast length)
  have power := zpow10_pos d.exponent
  rw [point, Nat.cast_succ, add_right_comm, add_sub_cancel_right, add_right_comm, toRat]
  constructor
  · rw [zpow10_add, zpow_natCast, ← cast_pow10]
    exact mul_le_mul_of_nonneg_right (Nat.cast_le.2 le) power.le
  · rw [zpow10_add, ← Nat.cast_succ, zpow_natCast, ← cast_pow10]
    exact mul_lt_mul_of_pos_right (Nat.cast_lt.2 lt) power

/-- The point of a decimal is behind a power of ten if and only if the decimal is not below it. -/
theorem Decimal.lt_point_iff {d : Decimal} (some : d.digits ≠ 0) {k : ℤ} :
    k < d.point ↔ (10 : ℚ) ^ k ≤ d.toRat := by
  obtain ⟨least, less⟩ := Decimal.pow_point_bounds some
  constructor
  · intro behind
    exact (zpow10_le_zpow10 (by omega)).trans least
  · intro le
    by_contra before
    exact absurd (le.trans_lt less) (not_lt.2 (zpow10_le_zpow10 (by omega)))

namespace Magnitude

variable {x : Magnitude} {k : ℤ}

/-- A power of ten between a magnitude and its shortest decimal is this decimal, since it has one
digit. -/
theorem shortest_eq_of_between (between : (10 : ℚ) ^ k ∈ Set.uIcc x.shortest.toRat x.toRat) :
    x.shortest.toRat = 10 ^ k := by
  have one : (⟨1, k⟩ : Decimal).toRat = 10 ^ k := by rw [Decimal.toRat, Nat.cast_one, one_mul]
  have rounded : Decimal.ReadsBack ⟨1, k⟩ x := by
    refine x.readsBack_shortest.of_between ?_
    rwa [one]
  have single : (⟨1, k⟩ : Decimal).numeral.length = 1 := by
    rw [Decimal.numeral, Numeral.decimal_eq_inBase]
    exact Numeral.length_inBase_of_lt (show 1 < 10 by decide)
  have digit := List.length_pos_iff.2 (Numeral.decimal_ne_nil x.shortest.digits)
  have nearer := (x.shortest_fewest rounded).2 (single.trans_le digit)
  rw [one] at nearer
  rcases Set.mem_uIcc.1 between with ⟨low, high⟩ | ⟨low, high⟩
  · rw [abs_of_nonneg (sub_nonneg.2 (low.trans high)), abs_of_nonneg (sub_nonneg.2 high)] at nearer
    linarith
  · rw [abs_of_nonpos (sub_nonpos.2 (low.trans high)), abs_of_nonpos (sub_nonpos.2 low)] at nearer
    linarith

/-- From a power of ten on, the shortest decimal is not below it. -/
theorem pow10_le_shortest (le : (10 : ℚ) ^ k ≤ x.toRat) : 10 ^ k ≤ x.shortest.toRat := by
  by_contra less
  have below := not_le.1 less
  exact below.ne (shortest_eq_of_between (Set.mem_uIcc_of_le below.le le))

/-- Up to a power of ten, the shortest decimal is not above it. -/
theorem shortest_le_pow10 (le : x.toRat ≤ (10 : ℚ) ^ k) : x.shortest.toRat ≤ 10 ^ k := by
  by_contra more
  have above := not_le.1 more
  exact above.ne' (shortest_eq_of_between (Set.mem_uIcc_of_ge le above.le))

/-- The shortest decimal is below ten to the power 16, which is a magnitude, if and only if the
magnitude is. -/
theorem shortest_lt_iff : x.shortest.toRat < 10 ^ (16 : ℤ) ↔ x.toRat < 10 ^ (16 : ℤ) := by
  constructor
  · intro less
    by_contra more
    exact absurd (pow10_le_shortest (not_lt.1 more)) (not_le.2 less)
  · intro less
    refine lt_of_le_of_ne (shortest_le_pow10 less.le) fun same => less.ne ?_
    let power : Magnitude := .scaleBinary 152587890625 1090 (by decide) (by decide)
    have value : power.toRat = 10 ^ (16 : ℤ) := by
      rw [toRat_scaleBinary]
      norm_num
    have nearest := x.isNearest_shortest.1
    rw [same, ← value] at nearest
    rw [nearest.unique power.isNearest_toRat, value]

/-- The shortest decimal is below ten to the power -4, to which the nearest magnitude is greater, if
and only if the magnitude is. -/
theorem le_shortest_iff :
    (10 : ℚ) ^ (-4 : ℤ) ≤ x.shortest.toRat ↔ (10 : ℚ) ^ (-4 : ℤ) ≤ x.toRat := by
  refine ⟨fun le => ?_, pow10_le_shortest⟩
  by_contra less
  have same := le_antisymm (shortest_le_pow10 (not_le.1 less).le) le
  let power : Magnitude := .scaleBinary 7378697629483821 1008 (by decide) (by decide)
  have value : power.toRat = 7378697629483821 * 2 ^ (-66 : ℤ) := by
    rw [toRat_scaleBinary]
    norm_num
  have greater : (10 : ℚ) ^ (-4 : ℤ) ≤ power.toRat := by
    rw [value]
    norm_num
  have near : power.IsNearest (10 ^ (-4 : ℤ)) := by
    refine isNearest_of_mul_abs_sub_lt ?_
    rw [abs_of_nonpos (sub_nonpos.2 greater), value]
    norm_num
  have nearest := x.isNearest_shortest.1
  rw [same] at nearest
  rw [nearest.unique near] at less
  exact less greater

/-- An ordinary text has no exponent if and only if the point of the decimal is moderate. -/
theorem positional_text_iff_point {x : Magnitude} :
    x.text.Positional ↔ -4 < x.shortest.point ∧ x.shortest.point ≤ 16 := by
  rw [text]
  split
  · rename_i moderate
    refine iff_of_true ?_ moderate
    have numeral := x.positional_eq_text
    rw [positional] at numeral
    simp only [numeral]
    have plain : x.shortest.pointNumeral.text.Positional := fun c =>
      PointNumeral.isDigit_or_eq_of_mem_text
    split
    · exact plain
    · intro c member
      rcases List.mem_append.1 member with front | behind
      · exact plain c front
      · rcases List.mem_cons.1 behind with point | zero
        · exact .inr point
        · exact .inl (List.mem_singleton.1 zero ▸ rfl)
  · rename_i immoderate
    refine iff_of_false (fun plain => ?_) immoderate
    rw [Layout.exponentPart_eq_text] at plain
    exact ExponentNumeral.not_positional_text _ false fun c member =>
      plain c (List.mem_append_right _ member)

/-- **Which ordinary texts have no exponent**: those of zero and of the magnitudes from ten to the
power -4 up to less than ten to the power 16. -/
theorem positional_text_iff {x : Magnitude} :
    x.text.Positional ↔ x = zero ∨ (10 : ℚ) ^ (-4 : ℤ) ≤ x.toRat ∧ x.toRat < 10 ^ (16 : ℤ) := by
  rw [positional_text_iff_point]
  by_cases none : x.units = 0
  · have point : (⟨0, 0⟩ : Decimal).point = 1 := by
      rw [Decimal.point, Decimal.numeral, Numeral.decimal_zero]
      rfl
    rw [shortest_of_units_eq_zero none, point]
    exact iff_of_true (by decide) (.inl (eq_zero_of_units_eq_zero none))
  · have some := digits_ne_zero_of_readsBack none x.readsBack_shortest
    have nonzero : x ≠ zero := by
      rintro rfl
      exact none rfl
    rw [or_iff_right nonzero, ← not_lt, Decimal.lt_point_iff some, Decimal.lt_point_iff some,
      not_le, le_shortest_iff, shortest_lt_iff]

end Magnitude

/-! ## Doubles without an exponent -/

/-- **A double that is not below zero, without an exponent.** It is a numeral that holds digits and
at most one point, with no zeros at its end. It denotes the same number as the ordinary text of the
double, the double is the only one nearest to it, ties to even, and a reader of it gets the double
back. It has no point if and only if this number is a whole number. -/
theorem Number.positional_of_magnitude (x : Magnitude) :
    ∃ f : PointNumeral, (Number.double (.finite false x)).positional = f.text ∧ f.Trimmed
      ∧ (∀ c ∈ f.text, c.isDigit = true ∨ c = '.')
      ∧ (∀ q, Denotes (Double.finite false x).text q ↔ q = f.value)
      ∧ f.value < overflowBound ∧ (∀ y : Magnitude, y.IsNearest f.value ↔ y = x)
      ∧ readDouble? f.text = some (.finite false x)
      ∧ ('.' ∉ f.text ↔ ∃ k : ℤ, f.value = k) := by
  have value := x.shortest.value_pointNumeral
  obtain ⟨nearest, fits⟩ := x.isNearest_shortest
  have denotes : Denotes (Double.finite false x).text x.shortest.pointNumeral.value := by
    rw [value]
    exact x.denotes_text
  have trimmed := x.isReduced_shortest.trimmed
  have plain : Denotes x.shortest.pointNumeral.text x.shortest.toRat := value ▸ .plain _
  have read := Magnitude.readDouble?_of_denotes plain .none
  rw [List.nil_append] at read
  refine ⟨x.shortest.pointNumeral, x.positional_eq_text, trimmed,
    fun c => PointNumeral.isDigit_or_eq_of_mem_text, fun q => ⟨fun other => ?_, ?_⟩,
    value ▸ fits, fun y => ⟨fun other => ?_, ?_⟩, read, ?_⟩
  · exact other.unique denotes
  · rintro rfl
    exact denotes
  · exact other.unique (value ▸ nearest)
  · rintro rfl
    exact value ▸ nearest
  · rw [trimmed.exists_value_eq_iff, PointNumeral.point_mem_text_iff, not_not]

end PercentFormat
