import PercentFormat.Proofs.ConvertedPieces
import PercentFormat.Proofs.ExactValues

/-! # Numbers in the notations of whole numbers

Of a finite number the notations of whole numbers write the whole part of its absolute value, with
the sign of the number. What they write reads back as the whole number towards zero, which is also
what a number counts for as a width or a precision.

* **`letterValue`** — the value of a digit in either case.
* **`Numeral.IsCanonical.value_inCase`** — the digits of a numeral denote its number.
* **`Pieces.wholeValue`** — the whole number that sign and digits denote.
* **`Value.pieces_whole`** — a finite number in the notation of whole numbers in a base. -/

namespace PercentFormat

/-! ## Digits in either case -/

/-- The **value of a digit** of a base of at most sixteen, in either case. -/
def letterValue (c : Char) : Nat := if c.isDigit then c.toNat - 48 else c.toLower.toNat - 87

/-- The digit of a value has this value, in either case. -/
theorem letterValue_digitChar {d : Nat} (below : d < 16) (upper : Bool) :
    letterValue (if upper then (Nat.digitChar d).toUpper else Nat.digitChar d) = d := by
  cases upper <;> interval_cases d <;> decide

/-- A base has more than one digit. -/
theorem Base.one_lt_radix (base : Base) : 1 < base.radix := by
  cases base <;> decide

/-- A base has at most sixteen digits. -/
theorem Base.radix_le (base : Base) : base.radix ≤ 16 := by
  cases base <;> decide

/-- The numeral of a number in a base is the canonical one. -/
theorem Base.isCanonical_numeral (base : Base) (n : Nat) :
    Numeral.IsCanonical base.radix n (base.numeral n) := by
  have numeral : base.numeral n = Numeral.inBase base.radix n := by
    cases base with
    | decimal => exact Numeral.decimal_eq_inBase n
    | octal => rfl
    | hex => rfl
  rw [numeral]
  exact Numeral.isCanonical_inBase base.one_lt_radix n

/-- The digits of a canonical numeral, in either case, denote its number by their places. -/
theorem Numeral.IsCanonical.value_inCase {base n : Nat} {t : Text}
    (canonical : IsCanonical base n t) (small : base ≤ 16) (upper : Bool) :
    Nat.ofDigits base ((t.inCase upper).map letterValue).reverse = n := by
  obtain ⟨digits, makeUp, rfl⟩ := canonical
  have values : (Text.inCase upper (digits.map Nat.digitChar)).map letterValue = digits := by
    rw [Text.inCase_eq_map, List.map_map, List.map_map]
    refine (List.map_congr_left fun d member => ?_).trans (List.map_id' digits)
    exact letterValue_digitChar (Nat.lt_of_lt_of_le (makeUp.below d member) small) upper
  rw [values, makeUp.value]

/-! ## Whole numbers in pieces -/

/-- The **whole number that pieces denote** in a base: that of their digits, with a minus if one is
their sign. -/
def Pieces.wholeValue (base : Base) (p : Pieces) : Int :=
  signed (p.sign = ['-']) (Nat.ofDigits base.radix (p.body.map letterValue).reverse)

/-- **A finite number in the notation of whole numbers** in a base, with any flags, under all
settings, and whatever precision is given.

* The body is the canonical numeral of the floor of the absolute value, in the case of the form.
* The mark of the base stands in front if the flags ask for it and this floor is not zero. Nothing
  stands behind.
* The sign is a minus if and only if the number is below zero, also where its whole part is zero.
* Sign and body denote the whole number towards zero that the value counts for as a parameter. -/
theorem Value.pieces_whole {v : Value} {n : Number} (number : v.toNumber = .ok n)
    (finite : n.isFinite = true) (base : Base) (upper : Bool) (flags : Flags) :
    ∃ p : Pieces,
      (∀ s precision, v.pieces s ⟨.whole base, upper⟩ flags precision = .ok p)
      ∧ (∃ t, Numeral.IsCanonical base.radix ⌊|n.toRat|⌋₊ t ∧ p.body = t.inCase upper)
      ∧ p.mark = (if flags.alternate ∧ 0 < ⌊|n.toRat|⌋₊ then base.mark.inCase upper else [])
      ∧ p.tail = []
      ∧ (p.sign = ['-'] ↔ n.toRat < 0)
      ∧ v.toInteger = .ok (p.wholeValue base)
      ∧ Parameter.fromArgument.number v = .ok (some (p.wholeValue base)) := by
  have canonical := base.isCanonical_numeral (wholePart n)
  have sign : signOf flags n = ['-'] ↔ n.isNegative = true := signOf_eq_minus_iff
  let p : Pieces := ⟨signOf flags n, (wholePieces flags base (wholePart n)).mark.inCase upper,
    (base.numeral (wholePart n)).inCase upper, []⟩
  have value : p.wholeValue base = n.truncate := by
    rw [Pieces.wholeValue, canonical.value_inCase base.radix_le upper, Number.truncate_eq_signed]
    congr 1
    simp [p, sign]
  have integer : v.toInteger = .ok (p.wholeValue base) := by
    rw [toInteger, number, value]
    rfl
  rw [← n.wholePart_eq_floor, ← n.isNegative_iff finite]
  refine ⟨p, fun s => pieces_of_base number finite s base upper flags, ⟨_, canonical, rfl⟩, ?_, rfl,
    sign, integer, ?_⟩
  · change (wholePieces flags base (wholePart n)).mark.inCase upper = _
    rw [wholePieces]
    simp only [Nat.pos_iff_ne_zero]
    split
    · rfl
    · exact Text.inCase_nil
  · rw [Parameter.number, integer]
    rfl

/-- A half is dropped from a number below zero, and a hexadecimal numeral gets its mark. -/
theorem Value.pieces_whole_half :
    let x : Double := .finite true (.scaleBinary 511 1073 (by decide) (by decide))
    let flags := Flags.ofText ['#', '+']
    (Value.double x).toNumber = .ok (.double x) ∧ (Number.double x).isFinite = true
      ∧ (∃ p : Pieces, (∀ s precision,
            (Value.double x).pieces s ⟨.whole .hex, true⟩ flags precision = .ok p)
          ∧ p.text = Text.ofString "-0XFF" ∧ p.wholeValue .hex = -255)
      ∧ (Value.double x).toInteger = .ok (-255) := by
  intro x flags
  obtain ⟨p, pieces, -, -, -, -, integer, -⟩ :=
    Value.pieces_whole (v := .double x) (n := .double x) rfl rfl .hex true flags
  have written : (Value.double x).pieces Settings.initial ⟨.whole .hex, true⟩ flags none
      = .ok ⟨['-'], ['0', 'X'], ['F', 'F'], []⟩ := by
    decide +kernel
  obtain rfl := Except.ok.inj ((pieces Settings.initial none).symm.trans written)
  have value : Pieces.wholeValue .hex ⟨['-'], ['0', 'X'], ['F', 'F'], []⟩ = -255 := by decide
  rw [value] at integer
  exact ⟨rfl, rfl, ⟨_, pieces, by decide, value⟩, integer⟩

end PercentFormat
