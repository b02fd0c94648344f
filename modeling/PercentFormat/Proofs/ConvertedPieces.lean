import PercentFormat.Proofs.Causes

/-! # The pieces of converted numbers

A number is converted without its sign and in lower case. Then it gets the sign that the flags ask
for, and its letters get the case of its form.

* **`Text.inCase`** — a text in upper case, or as it is.
* **`signOf_eq_minus_iff`** — the numbers that get a minus.
* **`Value.pieces_eq`** — the pieces of a value, from those of its number without its sign.
* **`Value.pieces_of_base`**, **`Value.pieces_of_exact`** — what is written to the last digit.
* **`Value.pieces_of_finite`**, **`Value.pieces_of_infinite`** — what is written from the nearest
  double, with the precision in effect. -/

namespace PercentFormat

/-! ## Signs and cases -/

/-- A text **in the case** of a form: in upper case, or as it is. -/
def Text.inCase (upper : Bool) (t : Text) : Text := if upper then t.upper else t

namespace Text

variable {upper : Bool} {s t : Text}

/-- Nothing is nothing in either case. -/
@[simp] theorem inCase_nil : inCase upper [] = [] := by
  cases upper <;> rfl

/-- Texts get their case one by one. -/
@[simp] theorem inCase_append : (s ++ t).inCase upper = s.inCase upper ++ t.inCase upper := by
  cases upper
  · rfl
  · exact List.map_append

/-- The characters of a text in its case are those of the text, in upper case or as they are. -/
theorem inCase_eq_map :
    t.inCase upper = t.map fun c => if upper then c.toUpper else c := by
  cases upper
  · exact (List.map_id' t).symm
  · rfl

/-- A text that has no lower-case letters is the same in either case. -/
theorem inCase_eq_self (same : ∀ c ∈ t, c.toUpper = c) : t.inCase upper = t := by
  cases upper
  · rfl
  · exact (List.map_congr_left same).trans (List.map_id' t)

end Text

/-- A digit has no case. -/
theorem toUpper_of_isDigit {c : Char} (ascii : c.isDigit = true) : c.toUpper = c := by
  simp only [Char.isDigit, Bool.and_eq_true, decide_eq_true_eq] at ascii
  have high : c.toNat ≤ 57 := ascii.2
  rw [Char.toUpper, dif_neg]
  rintro ⟨letter, -⟩
  have low : 97 ≤ c.toNat := letter
  omega

/-- A sign has no case. -/
theorem upper_signOf (flags : Flags) (n : Number) : (signOf flags n).upper = signOf flags n := by
  unfold signOf
  split
  · rfl
  · split
    · rfl
    · split <;> rfl

/-- A number gets a minus if it is negative. -/
theorem signOf_eq_minus_iff {flags : Flags} {n : Number} :
    signOf flags n = ['-'] ↔ n.isNegative = true := by
  unfold signOf
  split
  · rename_i negative
    simp [negative]
  · rename_i other
    refine iff_of_false ?_ other
    split
    · decide
    · split <;> decide

/-! ## Pieces -/

/-- The pieces of a value are those of its number without its sign, with the sign that the flags ask
for and in the case of the form. -/
theorem Value.pieces_eq {v : Value} {n : Number} (number : v.toNumber = .ok n) (s : Settings)
    (form : NumberForm) (flags : Flags) (precision : Option Value) :
    v.pieces s form flags precision
      = (unsignedPieces s form.style flags precision n).map fun p =>
          ⟨signOf flags n, p.mark.inCase form.upper, p.body.inCase form.upper,
            p.tail.inCase form.upper⟩ := by
  obtain ⟨style, upper⟩ := form
  rw [pieces, number]
  change Number.pieces s ⟨style, upper⟩ flags precision n = _
  rw [Number.pieces]
  cases unsignedPieces s style flags precision n with
  | error fault => rfl
  | ok p =>
    cases upper
    · rfl
    · change Except.ok (Pieces.upper _) = _
      rw [Pieces.upper, upper_signOf]
      rfl

/-- A finite number in the notation of whole numbers is written by its whole part, whatever
precision is given. -/
theorem Value.pieces_of_base {v : Value} {n : Number} (number : v.toNumber = .ok n)
    (finite : n.isFinite = true) (s : Settings) (base : Base) (upper : Bool) (flags : Flags)
    (precision : Option Value) :
    v.pieces s ⟨.whole base, upper⟩ flags precision
      = .ok ⟨signOf flags n, (wholePieces flags base (wholePart n)).mark.inCase upper,
          (base.numeral (wholePart n)).inCase upper, []⟩ := by
  have unsigned : unsignedPieces s (.whole base) flags precision n
      = .ok (wholePieces flags base (wholePart n)) := by
    rw [unsignedPieces, exactPieces, if_pos finite]
  rw [pieces_eq number, unsigned]
  simp only [Except.map, wholePieces, Text.inCase_nil]

/-- A finite number in fixed notation without a precision is written to its last digit. -/
theorem Value.pieces_of_exact {v : Value} {n : Number} (number : v.toNumber = .ok n)
    (finite : n.isFinite = true) (s : Settings) (upper : Bool) (flags : Flags) :
    v.pieces s ⟨.real .fixed, upper⟩ flags none
      = .ok ⟨signOf flags n, [], n.abs.positional.inCase upper,
          (pointFor flags n.abs.positional).inCase upper⟩ := by
  have unsigned : unsignedPieces s (.real .fixed) flags none n
      = .ok (pointedPieces flags n.abs.positional) := by
    rw [unsignedPieces, exactPieces, if_pos finite]
  rw [pieces_eq number, unsigned]
  simp only [Except.map, pointedPieces, Text.inCase_nil]

/-- A number with a fraction is written from the nearest double, with the precision in effect. -/
theorem unsignedPieces_real {s : Settings} {style : RealStyle} {flags : Flags}
    {precision : Option Value} {inEffect : Value}
    (effective : style.precisionInEffect s precision = some inEffect) (n : Number) :
    unsignedPieces s (.real style) flags precision n
      = doublePieces flags style inEffect n.toDouble := by
  cases style with
  | fixed =>
    obtain rfl : precision = some inEffect := effective
    rfl
  | exponent =>
    obtain rfl := Option.some.inj effective
    cases precision <;> rfl
  | general =>
    obtain rfl := Option.some.inj effective
    cases precision <;> rfl

/-- A number whose nearest double is finite is written with the digits of its magnitude, as many as
the precision in effect asks for. -/
theorem Value.pieces_of_finite {v : Value} {n : Number} (number : v.toNumber = .ok n)
    {negative : Bool} {x : Magnitude} (double : n.toDouble = .finite negative x) {s : Settings}
    {style : RealStyle} {precision : Option Value} {inEffect : Value}
    (effective : style.precisionInEffect s precision = some inEffect) {places : Nat}
    (asked : inEffect.precision = .ok places) (upper : Bool) (flags : Flags) :
    v.pieces s ⟨.real style, upper⟩ flags precision
      = .ok ⟨signOf flags n, [], (style.digits flags places x).inCase upper,
          (pointFor flags (style.digits flags places x)).inCase upper⟩ := by
  rw [pieces_eq number, unsignedPieces_real effective, double, doublePieces, asked]
  simp only [Except.map, pointedPieces, Text.inCase_nil]

/-- A number whose nearest double is infinite is written by its name, whatever the precision is. -/
theorem Value.pieces_of_infinite {v : Value} {n : Number} (number : v.toNumber = .ok n)
    {negative : Bool} (double : n.toDouble = .infinite negative) {s : Settings}
    {style : RealStyle} {precision : Option Value} {inEffect : Value}
    (effective : style.precisionInEffect s precision = some inEffect) (upper : Bool)
    (flags : Flags) :
    v.pieces s ⟨.real style, upper⟩ flags precision
      = .ok ⟨signOf flags n, [], (Text.ofString "inf").inCase upper, []⟩ := by
  rw [pieces_eq number, unsignedPieces_real effective, double]
  simp only [doublePieces, Except.map, Pieces.ofBody, Text.inCase_nil, Double.abs, Double.text]

end PercentFormat
