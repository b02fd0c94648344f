import PercentFormat.Proofs.ExponentNotation
import PercentFormat.Proofs.WholeNotation

/-! # Whole numbers beyond the doubles

A whole number of any size can be converted. The notations of whole numbers and fixed notation
without a precision write it to its last digit. All others write the nearest double, and from the
overflow bound on this is an infinity, which is written by its name and nothing but its sign.

* **`Style.FromDouble`** — the notations that write the nearest double.
* **`Text.Nameless`** — texts that hold no letter N, as the names of what is not finite do.
* **`RealStyle.nameless_digits`** — the digits of a magnitude are no name.
* **`Value.pieces_of_int`** — a whole number of any size in any notation. -/

namespace PercentFormat

/-! ## Texts that are no names -/

/-- A text **names nothing** if it holds no letter N, in neither case. -/
def Text.Nameless (t : Text) : Prop := ∀ c ∈ t, c.toUpper ≠ 'N'

/-- A digit is no letter N. -/
theorem toUpper_ne_of_isDigit {c : Char} (ascii : c.isDigit = true) : c.toUpper ≠ 'N' := by
  rw [toUpper_of_isDigit ascii]
  rintro rfl
  contradiction

namespace Text.Nameless

variable {s t : Text}

/-- Texts that name nothing name nothing together. -/
theorem append (first : Nameless s) (second : Nameless t) : Nameless (s ++ t) := by
  intro c member
  rcases List.mem_append.1 member with front | behind
  · exact first c front
  · exact second c behind

/-- A text that names nothing is not the name of an infinity, in either case. -/
theorem inCase_ne (nameless : Nameless t) (upper : Bool) :
    t.inCase upper ≠ (ofString "inf").inCase upper := by
  intro same
  -- the name holds an N in the case of the form
  have letter : (if upper then 'N' else 'n') ∈ t.inCase upper := by
    rw [same]
    cases upper <;> decide
  rw [inCase_eq_map] at letter
  obtain ⟨c, member, equal⟩ := List.mem_map.1 letter
  refine nameless c member ?_
  cases upper
  · rw [show c = 'n' from equal]
    rfl
  · exact equal

end Text.Nameless

/-- A numeral with a point names nothing. -/
theorem PointNumeral.nameless_text (f : PointNumeral) : f.text.Nameless := by
  intro c member
  rcases isDigit_or_eq_of_mem_text member with digit | rfl
  · exact toUpper_ne_of_isDigit digit
  · decide

/-- An exponent names nothing. -/
theorem ExponentNumeral.nameless_text (e : ExponentNumeral) : (e.text false).Nameless := by
  intro c member
  rcases List.mem_cons.1 member with rfl | member
  · decide
  · rcases List.mem_cons.1 member with rfl | digit
    · cases e.negative <;> decide
    · exact toUpper_ne_of_isDigit (e.isDigit c digit)

/-- Zeros and a point that are cut off do not make a name. -/
theorem Layout.nameless_trimFraction {t : Text} (nameless : t.Nameless) :
    (trimFraction t).Nameless := by
  intro c member
  refine nameless c ?_
  rw [trimFraction] at member
  split at member
  · have kept : c ∈ t.reverse.dropWhile (· = '0') := by
      rw [List.mem_reverse] at member
      split at member
      · exact List.mem_of_mem_tail member
      · exact member
    exact List.mem_reverse.1 ((List.dropWhile_suffix _).subset kept)
  · exact member

/-- A point behind a text does not make a name. -/
theorem Layout.nameless_withPoint {t : Text} (nameless : t.Nameless) : (withPoint t).Nameless := by
  rw [withPoint]
  split
  · exact nameless
  · refine nameless.append fun c member => ?_
    rw [List.mem_singleton.1 member]
    decide

/-- The digits of a magnitude with a precision name nothing, in all notations. -/
theorem RealStyle.nameless_digits (style : RealStyle) (flags : Flags) (places : ℕ)
    (x : Magnitude) : Text.Nameless (style.digits flags places x) := by
  have point (m k : ℕ) : Text.Nameless (Layout.fixed m k) := by
    rw [Layout.fixed_eq_text]
    exact PointNumeral.nameless_text _
  have power (e : ℤ) : Text.Nameless (Layout.exponentPart e) := by
    rw [Layout.exponentPart_eq_text]
    exact ExponentNumeral.nameless_text _
  cases style with
  | fixed => exact point _ _
  | exponent => exact (point _ _).append (power _)
  | general =>
    have finished (m k : ℕ) : Text.Nameless
        ((if flags.alternate then Layout.withPoint else Layout.trimFraction)
          (Layout.fixed m k)) := by
      split
      · exact Layout.nameless_withPoint (point m k)
      · exact Layout.nameless_trimFraction (point m k)
    rw [digits, Magnitude.general]
    dsimp only
    split
    · exact finished _ _
    · exact (finished _ _).append (power _)

/-- A canonical numeral names nothing. -/
theorem Numeral.IsCanonical.nameless {base n : ℕ} {t : Text} (canonical : IsCanonical base n t)
    (small : base ≤ 16) : t.Nameless := by
  obtain ⟨digits, makeUp, rfl⟩ := canonical
  intro c member
  obtain ⟨d, digit, rfl⟩ := List.mem_map.1 member
  have below : d < 16 := Nat.lt_of_lt_of_le (makeUp.below d digit) small
  interval_cases d <;> decide

/-! ## Whole numbers in all notations -/

namespace Style

/-- A notation **writes the nearest double**: exponent and general notation do, and fixed notation
does with a precision. -/
def FromDouble (precision : Option Value) : Style → Prop
  | whole _ => False
  | real .fixed => precision.isSome = true
  | real .exponent => True
  | real .general => True

/-- The number of digits of the base in which a notation writes. -/
def radix : Style → ℕ
  | whole base => base.radix
  | real _ => 10

variable {s : Settings} {precision : Option Value} {style : Style}

/-- A notation that writes the nearest double has a precision in effect. -/
theorem FromDouble.exists_precisionInEffect (fromDouble : style.FromDouble precision) :
    ∃ real inEffect, style = .real real ∧ real.precisionInEffect s precision = some inEffect := by
  cases style with
  | whole base => contradiction
  | real style =>
    cases style with
    | fixed =>
      obtain ⟨w, rfl⟩ := Option.isSome_iff_exists.1 fromDouble
      exact ⟨.fixed, w, rfl, rfl⟩
    | exponent => exact ⟨.exponent, _, rfl, rfl⟩
    | general => exact ⟨.general, _, rfl, rfl⟩

end Style

/-- A precision in effect can be used if the one that is given and those of the variables can. -/
theorem RealStyle.exists_precision {s : Settings} {precision : Option Value} {inEffect : Value}
    {style : RealStyle} (effective : style.precisionInEffect s precision = some inEffect)
    (given : ∀ w ∈ precision, ∃ places, w.precision = .ok places)
    (exponent : ∃ places, (s .exponentPrecision).precision = .ok places)
    (general : ∃ places, (s .generalPrecision).precision = .ok places) :
    ∃ places, inEffect.precision = .ok places := by
  cases precision with
  | some w =>
    have same : inEffect = w := by
      cases style <;> exact (Option.some.inj effective).symm
    rw [same]
    exact given w rfl
  | none =>
    cases style with
    | fixed => contradiction
    | exponent =>
      obtain rfl := Option.some.inj effective
      exact exponent
    | general =>
      obtain rfl := Option.some.inj effective
      exact general

/-- A whole number that is not written from its double is written to its last digit. -/
theorem Value.exists_pieces_of_not_fromDouble (n : ℤ) (s : Settings) {form : NumberForm}
    (flags : Flags) {precision : Option Value} (exact : ¬ form.style.FromDouble precision) :
    ∃ p t, (whole n).pieces s form flags precision = .ok p
      ∧ Numeral.IsCanonical form.style.radix n.natAbs t ∧ p.body = t.inCase form.upper
      ∧ p.sign = signOf flags (.whole n) := by
  obtain ⟨style, upper⟩ := form
  cases style with
  | whole base =>
    exact ⟨_, _, pieces_of_base rfl rfl s base upper flags precision,
      base.isCanonical_numeral n.natAbs, rfl, rfl⟩
  | real style =>
    cases style with
    | exponent => exact absurd trivial exact
    | general => exact absurd trivial exact
    | fixed =>
      obtain rfl := Option.not_isSome_iff_eq_none.1 exact
      -- in fixed notation a whole number is its decimal numeral
      refine ⟨_, _, pieces_of_exact rfl rfl s upper flags,
        Base.isCanonical_numeral .decimal n.natAbs, ?_, rfl⟩
      have natural : ¬ ((n.natAbs : ℤ) < 0) := Int.not_lt.2 (Int.natCast_nonneg _)
      simp only [Number.abs, Number.positional, if_neg natural, List.nil_append,
        Int.natAbs_natCast]
      rfl

/-- **A whole number of any size**, in any notation, with any precision that can be used.

* It is written, and the name of an infinity is its body if and only if the notation writes the
  nearest double and the number is not below the overflow bound.
* In this case it gets its sign, and neither a mark in front nor a point behind.
* The notations that do not write the nearest double write the canonical numeral of the absolute
  value. -/
theorem Value.pieces_of_int (n : ℤ) {s : Settings} (form : NumberForm) (flags : Flags)
    {precision : Option Value} (given : ∀ w ∈ precision, ∃ places, w.precision = .ok places)
    (exponent : ∃ places, (s .exponentPrecision).precision = .ok places)
    (general : ∃ places, (s .generalPrecision).precision = .ok places) :
    ∃ p : Pieces, (whole n).pieces s form flags precision = .ok p
      ∧ (p.sign = ['-'] ↔ n < 0)
      ∧ (p.body = (Text.ofString "inf").inCase form.upper
          ↔ form.style.FromDouble precision ∧ overflowBound ≤ n.natAbs)
      ∧ (form.style.FromDouble precision → overflowBound ≤ n.natAbs →
          p = ⟨signOf flags (.whole n), [], (Text.ofString "inf").inCase form.upper, []⟩)
      ∧ (¬ form.style.FromDouble precision →
          ∃ t, Numeral.IsCanonical form.style.radix n.natAbs t ∧ p.body = t.inCase form.upper) := by
  have minus : signOf flags (.whole n) = ['-'] ↔ n < 0 := by
    rw [signOf_eq_minus_iff]
    exact decide_eq_true_iff
  by_cases fromDouble : form.style.FromDouble precision
  · obtain ⟨style, upper⟩ := form
    obtain ⟨real, inEffect, same, effective⟩ := fromDouble.exists_precisionInEffect (s := s)
    dsimp only at same
    subst same
    obtain ⟨places, asked⟩ := RealStyle.exists_precision effective given exponent general
    by_cases fits : n.natAbs < overflowBound
    · obtain ⟨negative, x, double, -⟩ := Number.exists_toDouble_eq (n := .whole n) fits
      refine ⟨_, pieces_of_finite rfl double effective asked upper flags, minus,
        iff_of_false ?_ ?_, fun _ large => absurd large (Nat.not_le.2 fits), (absurd fromDouble ·)⟩
      · exact (real.nameless_digits flags places x).inCase_ne upper
      · exact fun large => Nat.not_le.2 fits large.2
    · obtain ⟨negative, double⟩ := Number.exists_toDouble_eq_infinite (n := .whole n) rfl fits
      exact ⟨_, pieces_of_infinite rfl double effective upper flags, minus,
        iff_of_true rfl ⟨fromDouble, Nat.not_lt.1 fits⟩, fun _ _ => rfl, (absurd fromDouble ·)⟩
  · obtain ⟨p, t, pieces, canonical, body, sign⟩ :=
      exists_pieces_of_not_fromDouble n s flags fromDouble
    have small : form.style.radix ≤ 16 := by
      cases form.style with
      | whole base => exact base.radix_le
      | real style => exact (by decide : 10 ≤ 16)
    refine ⟨p, pieces, sign ▸ minus, iff_of_false ?_ fun large => fromDouble large.1,
      (absurd · fromDouble), fun _ => ⟨t, canonical, body⟩⟩
    rw [body]
    exact (canonical.nameless small).inCase_ne form.upper

/-- Below zero, the overflow bound is an infinity in exponent notation, and one less is not. -/
theorem Value.pieces_of_int_overflow :
    let s := Settings.initial
    let form : NumberForm := ⟨.real .exponent, true⟩
    let flags := Flags.ofText ['#']
    (∀ w ∈ some (whole 2), ∃ places, w.precision = .ok places)
      ∧ (∃ places, (s .exponentPrecision).precision = .ok places)
      ∧ (∃ places, (s .generalPrecision).precision = .ok places)
      ∧ (whole (-overflowBound)).pieces s form flags (some (whole 2))
          = .ok ⟨['-'], [], ['I', 'N', 'F'], []⟩
      ∧ ∃ p, (whole (1 - overflowBound)).pieces s form flags (some (whole 2)) = .ok p
          ∧ p.sign = ['-'] ∧ p.body ≠ ['I', 'N', 'F'] := by
  intro s form flags
  have given : ∀ w ∈ some (whole 2), ∃ places, w.precision = .ok places := by
    intro w member
    rw [← Option.mem_some.1 member]
    exact ⟨2, rfl⟩
  have exponent : ∃ places, (s .exponentPrecision).precision = .ok places := ⟨21, rfl⟩
  have general : ∃ places, (s .generalPrecision).precision = .ok places := ⟨6, rfl⟩
  obtain ⟨p, pieces, -, -, large, -⟩ :=
    Value.pieces_of_int (-overflowBound) form flags given exponent general
  obtain ⟨q, pieces', sign, name, -, -⟩ :=
    Value.pieces_of_int (1 - overflowBound) form flags given exponent general
  have least : overflowBound ≤ (-overflowBound : ℤ).natAbs := by omega
  have positive : 1 < overflowBound := Nat.lt_of_le_of_lt (pow2_pos 970) pow2_lt_overflowBound
  have negative : (Number.whole (-overflowBound)).isNegative = true := by
    simp only [Number.isNegative, decide_eq_true_eq]
    omega
  have infinite : p = ⟨['-'], [], ['I', 'N', 'F'], []⟩ := by
    have written := large trivial least
    rw [signOf_eq_minus_iff.2 negative] at written
    exact written
  refine ⟨given, exponent, general, infinite ▸ pieces, q, pieces', sign.2 (by omega), ?_⟩
  exact fun infinite => absurd (name.1 infinite).2 (by omega)

end PercentFormat
