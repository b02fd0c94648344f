import PercentFormat.Proofs.DefaultPrecisions
import PercentFormat.Proofs.ExponentNotation
import PercentFormat.Proofs.TrimmedNumerals

/-! # Numbers in general notation

In general notation a number has the value that exponent notation gives it with as many significant
digits, and so it has the same exponent. Where this exponent is moderate, the point stands in its
place among the digits. Otherwise the exponent is written behind them. The alternate form keeps all
significant digits and the point, and the other one keeps neither zeros at the end nor a point
there.

* **`ExponentNumeral.Moderate`** — the exponents that are not written.
* **`PointNumeral.textIn`** — the digits in either form, with **`PointNumeral.finish_text`**.
* **`IsGeneral`** — digits in general notation, with the value and the exponent that they show.
* **`Magnitude.isGeneral_general`** — a magnitude is written so.
* **`Value.pieces_general`** — a number in general notation. -/

namespace PercentFormat

/-! ## The two forms of the digits -/

/-- A text is **positional** if it holds digits and points only, and so no exponent. -/
def Text.Positional (t : Text) : Prop := ∀ c ∈ t, c.isDigit = true ∨ c = '.'

/-- An exponent is **moderate** for a number of significant digits if it is from -4 up to less than
this number. -/
def ExponentNumeral.Moderate (e : ExponentNumeral) (count : ℕ) : Prop :=
  -4 ≤ e.value ∧ e.value < count

instance (e : ExponentNumeral) (count : ℕ) : Decidable (e.Moderate count) :=
  inferInstanceAs (Decidable (_ ∧ _))

/-- An exponent is not positional. -/
theorem ExponentNumeral.not_positional_text (e : ExponentNumeral) (upper : Bool) :
    ¬ (e.text upper).Positional := by
  intro positional
  have letter := positional _ List.mem_cons_self
  cases upper <;> exact absurd letter (by decide)

/-- An exponent has no point. -/
theorem ExponentNumeral.count_point_text (e : ExponentNumeral) (upper : Bool) :
    (e.text upper).count '.' = 0 := by
  refine List.count_eq_zero.2 fun member => ?_
  rcases List.mem_cons.1 member with letter | member
  · cases upper <;> exact absurd letter (by decide)
  · rcases List.mem_cons.1 member with sign | digit
    · cases negative : e.negative <;> simp [negative] at sign
    · exact absurd (e.isDigit '.' digit) (by decide)

namespace PointNumeral

variable {f : PointNumeral} {alternate : Bool}

/-- The text of a numeral **in a form**: the alternate form has a point, also where no digits stand
behind it. -/
def textIn (f : PointNumeral) (alternate : Bool) : Text :=
  if alternate then f.whole ++ '.' :: f.fraction else f.text

/-- In either form a numeral is positional. -/
theorem positional_textIn (f : PointNumeral) (alternate : Bool) :
    (f.textIn alternate).Positional := by
  intro c member
  cases alternate with
  | false => exact isDigit_or_eq_of_mem_text member
  | true =>
    rcases List.mem_append.1 member with front | behind
    · exact .inl (f.isDigit c (List.mem_append_left _ front))
    · rcases List.mem_cons.1 behind with point | digit
      · exact .inr point
      · exact .inl (f.isDigit c (List.mem_append_right _ digit))

/-- In either form a numeral is the same in either case. -/
theorem inCase_textIn (f : PointNumeral) (alternate upper : Bool) :
    (f.textIn alternate).inCase upper = f.textIn alternate := by
  refine Text.inCase_eq_self fun c member => ?_
  rcases f.positional_textIn alternate c member with digit | rfl
  · exact toUpper_of_isDigit digit
  · rfl

/-- There is no point among the digits in front of the point and among those behind it. -/
theorem count_point_digits (f : PointNumeral) :
    f.whole.count '.' = 0 ∧ f.fraction.count '.' = 0 := by
  have none {run : Text} (digits : ∀ c ∈ run, c ∈ f.whole ++ f.fraction) : run.count '.' = 0 :=
    List.count_eq_zero.2 fun member => absurd (f.isDigit '.' (digits '.' member)) (by decide)
  exact ⟨none fun c => List.mem_append_left f.fraction,
    none fun c => List.mem_append_right f.whole⟩

/-- In the alternate form there is one point. -/
theorem count_point_textIn (f : PointNumeral) : (f.textIn true).count '.' = 1 := by
  obtain ⟨front, behind⟩ := f.count_point_digits
  simp [textIn, front, behind]

/-- The numeral whose text stands in a form: only the alternate form keeps zeros at the end. -/
def finish (f : PointNumeral) (alternate : Bool) : PointNumeral := if alternate then f else f.trim

/-- **What the layout makes of a numeral** in a form is the text of this numeral. -/
theorem finish_text (f : PointNumeral) (alternate : Bool) :
    (if alternate then Layout.withPoint else Layout.trimFraction) f.text
      = (f.finish alternate).textIn alternate := by
  cases alternate with
  | false => exact Layout.trimFraction_text f
  | true =>
    change Layout.withPoint f.text = f.whole ++ '.' :: f.fraction
    rw [Layout.withPoint]
    split
    · rename_i point
      rw [text, if_neg (point_mem_text_iff.1 point)]
    · rename_i noPoint
      have none := not_not.1 (point_mem_text_iff.not.1 noPoint)
      simp [text, none]

/-- In either form a numeral denotes the same number. -/
@[simp] theorem value_finish (f : PointNumeral) (alternate : Bool) :
    (f.finish alternate).value = f.value := by
  cases alternate with
  | false => exact value_trim f
  | true => rfl

/-- In either form a numeral has the same digits in front of the point. -/
@[simp] theorem whole_finish (f : PointNumeral) (alternate : Bool) :
    (f.finish alternate).whole = f.whole := by
  cases alternate <;> rfl

end PointNumeral

/-! ## General notation -/

/-- The digits `f` and the text `t` **show** the value `q` and its exponent `e` **in general
notation** with `count` significant digits. -/
structure IsGeneral (q : ℚ) (e : ExponentNumeral) (count : ℕ) (alternate upper : Bool)
    (f : PointNumeral) (t : Text) : Prop where
  /-- The exponent stands behind the digits unless it is moderate. -/
  text : t = f.textIn alternate ++ if e.Moderate count then [] else e.text upper
  /-- Digits and exponent denote the value. -/
  value : f.value * 10 ^ (if e.Moderate count then 0 else e.value) = q
  /-- In front of an exponent, one digit stands in front of the point. -/
  single : ¬ e.Moderate count → f.whole.length = 1
  /-- But for the alternate form, no zero stands at the end of the fraction. -/
  trimmed : alternate = false → f.Trimmed
  /-- The alternate form shows all significant digits. -/
  significant : alternate = true → q ≠ 0 → f.significant.length = count
  /-- Of zero it shows as many zeros. -/
  zero : alternate = true → q = 0 → f.whole = ['0'] ∧ f.fraction = Text.zeros (count - 1)

namespace IsGeneral

variable {q : ℚ} {e : ExponentNumeral} {count : ℕ} {alternate upper : Bool} {f : PointNumeral}
  {t : Text}

/-- A number in general notation is positional if and only if its exponent is moderate. -/
theorem positional_iff (general : IsGeneral q e count alternate upper f t) :
    t.Positional ↔ e.Moderate count := by
  rw [general.text]
  by_cases moderate : e.Moderate count
  · rw [if_pos moderate, List.append_nil]
    exact iff_of_true (f.positional_textIn alternate) moderate
  · rw [if_neg moderate]
    refine iff_of_false (fun positional => e.not_positional_text upper ?_) moderate
    exact fun c member => positional c (List.mem_append_right _ member)

/-- In the alternate form a number in general notation has one point. -/
theorem count_point (general : IsGeneral q e count alternate upper f t)
    (form : alternate = true) : t.count '.' = 1 := by
  have single := f.count_point_textIn
  rw [general.text, form, List.count_append, single]
  split
  · rfl
  · rw [e.count_point_text]

end IsGeneral

/-! ## Magnitudes in general notation -/

namespace Numeral

/-- A number between two powers of ten has as many digits as they say. -/
theorem length_decimal_eq {m further : ℕ} (le : 10 ^ further ≤ m) (lt : m < 10 ^ (further + 1)) :
    (decimal m).length = further + 1 := by
  refine le_antisymm ((length_decimal_le_iff (Nat.succ_pos further)).2 lt) ?_
  by_cases single : further = 0
  · subst single
    exact List.length_pos_iff.2 (decimal_ne_nil m)
  · have more := (length_decimal_le_iff (n := m) (Nat.pos_of_ne_zero single)).not.2
      (Nat.not_lt.2 le)
    omega

/-- A padded zero is a run of zeros. -/
theorem padded_zero {length : ℕ} (positive : 0 < length) : padded length 0 = Text.zeros length := by
  obtain ⟨k, rfl⟩ := Nat.exists_eq_add_one.2 positive
  rw [padded, inBase_zero, Text.zeros, Text.zeros, List.replicate_succ']
  rfl

end Numeral

/-- The numeral of zero with places has zeros there. -/
theorem PointNumeral.ofScaled_zero (places : ℕ) :
    (ofScaled 0 places).whole = ['0'] ∧ (ofScaled 0 places).fraction = Text.zeros places := by
  rw [whole_ofScaled, fraction_ofScaled, Nat.zero_div, Nat.zero_mod, Numeral.decimal_zero]
  refine ⟨rfl, ?_⟩
  split
  · rename_i none
    rw [none]
    rfl
  · rename_i some
    exact Numeral.padded_zero (Nat.pos_of_ne_zero some)

/-- The exponent of a number is moderate if its numeral is. -/
theorem ExponentNumeral.moderate_ofInt {e : ℤ} {count : ℕ} :
    (ofInt e).Moderate count ↔ -4 ≤ e ∧ e < count := by
  rw [Moderate, value_ofInt]

namespace Magnitude

/-- The number of places that general notation leaves behind the point, for an exponent and a number
of significant digits behind the first one. -/
def generalPlaces (e : ℤ) (further : ℕ) : ℕ :=
  if (ExponentNumeral.ofInt e).Moderate (further + 1) then (further - e).toNat else further

/-- A magnitude in general notation is the numeral of its significant digits in the form that is
asked for, and their exponent unless it is moderate. -/
theorem general_eq_text (x : Magnitude) {places further : ℕ} (count : max places 1 = further + 1)
    (alternate : Bool) :
    x.general places alternate
      = ((PointNumeral.ofScaled (x.significant further).1
            (generalPlaces (x.significant further).2 further)).finish alternate).textIn alternate
        ++ if (ExponentNumeral.ofInt (x.significant further).2).Moderate (further + 1) then []
            else (ExponentNumeral.ofInt (x.significant further).2).text false := by
  rw [general]
  dsimp only
  rw [count, Nat.add_sub_cancel, generalPlaces]
  obtain ⟨digits, exponent⟩ := x.significant further
  dsimp only
  simp only [ExponentNumeral.moderate_ofInt, Layout.fixed_eq_text, PointNumeral.finish_text,
    Layout.exponentPart_eq_text]
  split
  · rw [Nat.cast_succ, add_sub_cancel_right, List.append_nil]
  · rfl

/-- Wherever the point stands, the digits of general notation denote the same number. -/
theorem value_generalPlaces (m : ℕ) (e : ℤ) (further : ℕ) :
    (PointNumeral.ofScaled m (generalPlaces e further)).value
        * 10 ^ (if (ExponentNumeral.ofInt e).Moderate (further + 1) then 0 else e)
      = (PointNumeral.ofScaled m further).value * 10 ^ e := by
  rw [generalPlaces]
  split
  · rename_i moderate
    -- the point is moved by the exponent
    have below := (ExponentNumeral.moderate_ofInt.1 moderate).2
    have places : ((further - e).toNat : ℤ) = further - e := Int.toNat_of_nonneg (by omega)
    rw [zpow_zero, mul_one, PointNumeral.value_ofScaled, PointNumeral.value_ofScaled,
      ← zpow_natCast, places, zpow_sub₀ (by norm_num), zpow_natCast, div_div_eq_mul_div,
      div_mul_eq_mul_div]
  · rfl

/-- Digits over a power of ten, at an exponent, denote zero if and only if they are zero. -/
theorem value_ofScaled_mul_eq_zero_iff (m further : ℕ) (e : ℤ) :
    (PointNumeral.ofScaled m further).value * 10 ^ e = 0 ↔ m = 0 := by
  have power : (10 ^ further : ℚ) ≠ 0 := by positivity
  rw [PointNumeral.value_ofScaled, mul_eq_zero, or_iff_left (zpow10_pos e).ne', div_eq_zero_iff,
    or_iff_left power, Nat.cast_eq_zero]

/-- A magnitude other than zero has all its significant digits, and no others have zeros only. -/
theorem significant_cases (x : Magnitude) (further : ℕ) :
    (x.significant further = (0, 0))
      ∨ 10 ^ further ≤ (x.significant further).1
        ∧ (x.significant further).1 < 10 ^ (further + 1) := by
  by_cases none : x.units = 0
  · exact .inl (significant_of_units_eq_zero none further)
  · have significant := isSignificant_significant none further
    exact .inr ⟨significant.le, significant.lt⟩

/-- **A magnitude in general notation** shows the value and the exponent that exponent notation
gives it with as many significant digits. -/
theorem isGeneral_general (x : Magnitude) {places further : ℕ} (count : max places 1 = further + 1)
    (alternate upper : Bool) :
    ∃ f, IsGeneral
      ((PointNumeral.ofScaled (x.significant further).1 further).value
        * 10 ^ (ExponentNumeral.ofInt (x.significant further).2).value)
      (.ofInt (x.significant further).2) (further + 1) alternate upper f
      ((x.general places alternate).inCase upper) := by
  let m := (x.significant further).1
  let e := (x.significant further).2
  refine ⟨(PointNumeral.ofScaled m (generalPlaces e further)).finish alternate, ?_, ?_, ?_, ?_, ?_,
    ?_⟩
  · rw [x.general_eq_text count, Text.inCase_append, PointNumeral.inCase_textIn]
    split
    · rw [Text.inCase_nil]
    · rw [ExponentNumeral.inCase_text]
  · rw [PointNumeral.value_finish, ExponentNumeral.value_ofInt]
    exact value_generalPlaces m e further
  · intro large
    rw [PointNumeral.whole_finish, generalPlaces, if_neg large]
    exact PointNumeral.length_whole_ofScaled (x.significant_lt further)
  · rintro rfl
    exact PointNumeral.trimmed_trim _
  · rintro rfl nonzero
    rw [ExponentNumeral.value_ofInt, Ne, value_ofScaled_mul_eq_zero_iff] at nonzero
    obtain ⟨le, lt⟩ :=
      (x.significant_cases further).resolve_left fun zero => nonzero (congrArg Prod.fst zero)
    have digits := PointNumeral.significant_ofScaled (Nat.pos_of_ne_zero nonzero)
      (generalPlaces e further)
    exact (congrArg List.length digits).trans (Numeral.length_decimal_eq le lt)
  · rintro rfl zero
    rw [ExponentNumeral.value_ofInt, value_ofScaled_mul_eq_zero_iff] at zero
    -- zero has the exponent zero, so that the point stands behind its first digit
    have pair : x.significant further = (0, 0) := by
      refine (x.significant_cases further).resolve_right fun ⟨le, _⟩ => ?_
      rw [zero] at le
      exact absurd le (Nat.not_le.2 (by positivity))
    have moderate : (ExponentNumeral.ofInt 0).Moderate (further + 1) :=
      ExponentNumeral.moderate_ofInt.2 ⟨by decide, by omega⟩
    have places : generalPlaces e further = further := by
      change generalPlaces (x.significant further).2 further = further
      rw [pair, generalPlaces, if_pos moderate, sub_zero, Int.toNat_natCast]
    have digits : m = 0 := zero
    rw [places, digits]
    exact PointNumeral.ofScaled_zero further

end Magnitude

/-- The alternate form has a point, so that none is added. -/
theorem pointFor_general (flags : Flags) (x : Magnitude) {places further : ℕ}
    (count : max places 1 = further + 1) :
    pointFor flags (x.general places flags.alternate) = [] := by
  obtain ⟨f, general⟩ := x.isGeneral_general count flags.alternate false
  refine if_neg fun ⟨form, noPoint⟩ => noPoint (List.count_pos_iff.1 ?_)
  have single := general.count_point form
  change (x.general places flags.alternate).count '.' = 1 at single
  rw [single]
  exact Nat.one_pos

/-! ## Numbers in general notation -/

namespace Value

/-- **A finite number in general notation**, with the precision that is given, or else with that of
the variable; `P` is this precision, and at least one.

If the number fits the doubles, it has the value and the exponent `e` that exponent notation shows
with precision `P - 1`. It is positional if and only if `-4 ≤ e < P`, and in the alternate form it
has one point and `P` significant digits. No point is added behind the digits. A number that is too
large for a double is shown as an infinity in both notations. -/
theorem pieces_general {v : Value} {n : Number} (number : v.toNumber = .ok n)
    (finite : n.isFinite = true) {s : Settings} {precision : Option Value} {places : ℕ}
    (asked : (precision.getD (s .generalPrecision)).precision = .ok places) (upper : Bool)
    (flags : Flags) :
    ∃ shown p : Pieces,
      v.pieces s ⟨.real .exponent, upper⟩ flags (some (whole (max places 1 - 1 : ℕ))) = .ok shown
      ∧ v.pieces s ⟨.real .general, upper⟩ flags precision = .ok p ∧ p.tail = []
      ∧ (n.FitsDouble → ∃ (f g : PointNumeral) (e : ExponentNumeral),
          shown.body = f.text ++ e.text upper ∧ f.whole.length = 1
          ∧ f.fraction.length = max places 1 - 1
          ∧ IsGeneral (f.value * 10 ^ e.value) e (max places 1) flags.alternate upper g p.body
          ∧ (p.body.Positional ↔ e.Moderate (max places 1))
          ∧ (flags.alternate = true → p.body.count '.' = 1))
      ∧ (¬ n.FitsDouble → shown.body = (Text.ofString "inf").inCase upper
          ∧ p.body = (Text.ofString "inf").inCase upper) := by
  obtain ⟨further, count⟩ : ∃ further, max places 1 = further + 1 :=
    Nat.exists_eq_add_one.2 (by omega)
  have bound := precision_lt asked
  have one : (1 : ℤ) < precisionBound := by decide
  have exponentAsked : (whole (further : ℕ)).precision = .ok further :=
    precision_natCast (by omega)
  rw [count, Nat.add_sub_cancel]
  by_cases fits : n.FitsDouble
  · obtain ⟨negative, x, double, -⟩ := n.exists_toDouble_eq fits
    obtain ⟨g, general⟩ := x.isGeneral_general count flags.alternate upper
    refine ⟨_, _, pieces_of_finite number double rfl exponentAsked upper flags,
      pieces_of_finite number double rfl asked upper flags, ?_, fun _ => ?_, (absurd fits ·)⟩
    · change (pointFor flags (x.general places flags.alternate)).inCase upper = []
      rw [pointFor_general flags x count, Text.inCase_nil]
    · refine ⟨_, g, _, ?_, PointNumeral.length_whole_ofScaled (x.significant_lt further),
        PointNumeral.length_fraction_ofScaled .., general, general.positional_iff,
        general.count_point⟩
      change (x.exponential further).inCase upper = _
      rw [x.exponential_eq_text, Text.inCase_append, PointNumeral.inCase_text,
        ExponentNumeral.inCase_text]
  · obtain ⟨negative, double⟩ := n.exists_toDouble_eq_infinite finite fits
    exact ⟨_, _, pieces_of_infinite number double rfl upper flags,
      pieces_of_infinite number double rfl upper flags, rfl, (absurd · fits), fun _ => ⟨rfl, rfl⟩⟩

/-- Rounding to six significant digits leads to an exponent that is no longer moderate. -/
theorem pieces_general_carry :
    let x : Magnitude := .scaleBinary 1999999 1073 (by decide) (by decide)
    let n : Number := .double (.finite true x)
    let flags := Flags.ofText ['#']
    (Value.double (.finite true x)).toNumber = .ok n ∧ n.isFinite = true ∧ n.FitsDouble
      ∧ (Settings.initial .generalPrecision).precision = .ok 6
      ∧ (Value.double (.finite true x)).pieces Settings.initial ⟨.real .general, true⟩ flags none
          = .ok ⟨['-'], [], Text.ofString "1.00000E+06", []⟩
      ∧ ∃ (f g : PointNumeral) (e : ExponentNumeral),
          f.text ++ e.text true = Text.ofString "1.00000E+06" ∧ ¬ e.Moderate 6
          ∧ IsGeneral (f.value * 10 ^ e.value) e 6 true true g (Text.ofString "1.00000E+06") := by
  intro x n flags
  have fits : n.FitsDouble := rfl
  have asked : (Option.getD none (Settings.initial .generalPrecision)).precision = .ok 6 := rfl
  obtain ⟨shown, p, exponential, pieces, -, finite, -⟩ :=
    Value.pieces_general (v := .double (.finite true x)) (n := n) rfl rfl asked true flags
  have written : (Value.double (.finite true x)).pieces Settings.initial ⟨.real .general, true⟩
      flags none = .ok ⟨['-'], [], Text.ofString "1.00000E+06", []⟩ := by
    decide +kernel
  have writtenExponential : (Value.double (.finite true x)).pieces Settings.initial
      ⟨.real .exponent, true⟩ flags (some (whole (max 6 1 - 1 : ℕ)))
        = .ok ⟨['-'], [], Text.ofString "1.00000E+06", []⟩ := by
    decide +kernel
  obtain rfl := Except.ok.inj (pieces.symm.trans written)
  obtain rfl := Except.ok.inj (exponential.symm.trans writtenExponential)
  obtain ⟨f, g, e, body, -, -, general, positional, -⟩ := finite fits
  refine ⟨rfl, rfl, fits, asked, written, f, g, e, body.symm, ?_, general⟩
  rw [show (6 : ℕ) = max 6 1 from rfl, ← positional]
  intro digits
  exact absurd (digits 'E' (by decide)) (by decide)

end Value

end PercentFormat
