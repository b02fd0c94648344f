import PercentFormat.Proofs.HugeNumbers
import PercentFormat.Proofs.PositionalDoubles

/-! # The shape of converted numbers

Whatever number is converted, in any notation, with any flags and any precision that can be used,
its pieces have one shape. Padding relies on it: zeros go between the mark and the body, and so
neither a sign nor a space may stand in front of the body.

* **`Double.neg`**, **`Number.neg`** — the number with the other sign, with
  **`unsignedPieces_neg`**: all pieces but the sign are the same for both.
* **`RealNumeral`** — a numeral with a point, and an exponent or none.
* **`Style.Writes`** — the texts of finite numbers in a notation.
* **`Pieces.WellShaped`** — the shape of the pieces of a number.
* **`Value.pieces_wellShaped`** — the pieces of every value have it. -/

namespace PercentFormat

/-! ## Numbers with the other sign -/

/-- The double **with the other sign**. -/
def Double.neg : Double → Double
  | nan => nan
  | infinite negative => infinite (!negative)
  | finite negative x => finite (!negative) x

/-- The number **with the other sign**. -/
def Number.neg : Number → Number
  | whole n => whole (-n)
  | double x => double x.neg

namespace Double

/-- With the other sign a double has the opposite value. -/
theorem toRat_neg (x : Double) : x.neg.toRat = -x.toRat := by
  cases x with
  | nan => exact neg_zero.symm
  | infinite negative => exact neg_zero.symm
  | finite negative x => cases negative <;> simp [neg, toRat]

/-- A double with the other sign is the same without its sign. -/
theorem abs_neg (x : Double) : x.neg.abs = x.abs := by
  cases x <;> rfl

/-- A correctly rounded quotient without its sign is the one with a plus. -/
theorem abs_ofRatio (negative : Bool) (num den : ℕ) :
    (ofRatio negative num den).abs = ofRatio false num den := by
  rw [ofRatio, ofRatio]
  cases Magnitude.ofRatio? num den <;> rfl

end Double

namespace Number

variable (n : Number)

/-- With the other sign a number has the opposite value. -/
theorem toRat_neg : n.neg.toRat = -n.toRat := by
  cases n with
  | whole n => exact Int.cast_neg n
  | double x => exact x.toRat_neg

/-- A number with the other sign is the same without its sign. -/
theorem abs_neg : n.neg.abs = n.abs := by
  cases n with
  | whole n => rw [neg, abs, abs, Int.natAbs_neg]
  | double x => rw [neg, abs, abs, x.abs_neg]

/-- A number with the other sign is finite if the number is. -/
theorem isFinite_neg : n.neg.isFinite = n.isFinite := by
  cases n with
  | whole n => rfl
  | double x => cases x <;> rfl

/-- The double nearest to a number with the other sign is the same without its sign. -/
theorem abs_toDouble_neg : n.neg.toDouble.abs = n.toDouble.abs := by
  cases n with
  | whole n =>
    rw [neg, toDouble, toDouble, Double.ofInt, Double.ofInt, Double.abs_ofRatio,
      Double.abs_ofRatio, Int.natAbs_neg]
  | double x => exact x.abs_neg

end Number

/-- A number with the other sign has the same whole part. -/
theorem wholePart_neg (n : Number) : wholePart n.neg = wholePart n := by
  rw [n.neg.wholePart_eq_floor, n.wholePart_eq_floor, n.toRat_neg, abs_neg]

/-- The sign of a double does not matter for its other pieces. -/
theorem doublePieces_abs (flags : Flags) (style : RealStyle) (precision : Value) (x : Double) :
    doublePieces flags style precision x.abs = doublePieces flags style precision x := by
  cases x <;> rfl

/-- **The sign of a number** does not matter for its other pieces. -/
theorem unsignedPieces_neg (s : Settings) (style : Style) (flags : Flags)
    (precision : Option Value) (n : Number) :
    unsignedPieces s style flags precision n.neg = unsignedPieces s style flags precision n := by
  have exact (finite : Pieces) : exactPieces n.neg finite = exactPieces n finite := by
    rw [exactPieces, exactPieces, n.isFinite_neg, n.abs_toDouble_neg]
  have double (real : RealStyle) (w : Value) :
      doublePieces flags real w n.neg.toDouble = doublePieces flags real w n.toDouble := by
    rw [← doublePieces_abs, n.abs_toDouble_neg, doublePieces_abs]
  cases style with
  | whole base => rw [unsignedPieces, unsignedPieces, exact, wholePart_neg]
  | real real =>
    cases real with
    | fixed =>
      cases precision with
      | none => rw [unsignedPieces, unsignedPieces, exact, n.abs_neg]
      | some w => exact double .fixed w
    | exponent => exact double .exponent _
    | general => exact double .general _

/-! ## The numbers that are written -/

namespace Number

/-- A number is **below zero** if its exact value is, or if it is the infinity with a minus. The
zero with a minus is not below zero, and what is no number is not. -/
def BelowZero (n : Number) : Prop := n.toRat < 0 ∨ n = double (.infinite true)

instance (n : Number) : Decidable n.BelowZero := inferInstanceAs (Decidable (_ ∨ _))

/-- The test for numbers below zero tells them. -/
theorem isNegative_iff_belowZero (n : Number) : n.isNegative = true ↔ n.BelowZero := by
  by_cases finite : n.isFinite = true
  · rw [isNegative_iff finite, BelowZero, or_iff_left]
    rintro rfl
    contradiction
  · cases n with
    | whole n => exact absurd rfl finite
    | double x =>
      cases x with
      | nan => simp [isNegative, Double.isNegative, BelowZero, toRat, Double.toRat]
      | infinite negative =>
        cases negative <;> simp [isNegative, Double.isNegative, BelowZero, toRat, Double.toRat]
      | finite negative x => exact absurd rfl finite

/-- Neither what is no number nor the zero with a minus is below zero. -/
example : ¬ (double .nan).BelowZero ∧ ¬ (double (.finite true .zero)).BelowZero := by
  decide +kernel

end Number

instance (precision : Option Value) (style : Style) : Decidable (style.FromDouble precision) :=
  match style with
  | .whole _ => inferInstanceAs (Decidable False)
  | .real .fixed => inferInstanceAs (Decidable (_ = true))
  | .real .exponent => inferInstanceAs (Decidable True)
  | .real .general => inferInstanceAs (Decidable True)

/-- The number **that a notation writes**: the nearest double where it writes this, and otherwise
the number itself. -/
def Style.written (style : Style) (precision : Option Value) (n : Number) : Number :=
  if style.FromDouble precision then .double n.toDouble else n

/-! ## The texts of finite numbers -/

/-- The digits of a base, in a case. -/
def Base.digits (base : Base) (upper : Bool) : Text :=
  Text.inCase upper ((Text.ofString "0123456789abcdef").take base.radix)

/-- A **number with a fraction as it is written**: a numeral with a point, in either form, and an
exponent or none. -/
structure RealNumeral where
  /-- The numeral with a point. -/
  numeral : PointNumeral
  /-- The point is written also where no digits stand behind it. -/
  alternate : Bool
  /-- The exponent, if there is one. -/
  exponent? : Option ExponentNumeral

namespace RealNumeral

/-- The text of a number, with the letter of its exponent in a case. -/
def text (r : RealNumeral) (upper : Bool) : Text :=
  r.numeral.textIn r.alternate ++ (r.exponent?.map fun e => e.text upper).getD []

/-- A number **suits** a notation: fixed notation has no exponent, and exponent notation has one. -/
def Suits (r : RealNumeral) : RealStyle → Prop
  | .fixed => r.exponent? = none
  | .exponent => r.exponent?.isSome = true
  | .general => True

variable (r : RealNumeral) (upper : Bool)

/-- A number gets its case by the letter of its exponent. -/
theorem inCase_text : (r.text false).inCase upper = r.text upper := by
  rw [text, Text.inCase_append, PointNumeral.inCase_textIn, text]
  cases r.exponent? with
  | none => rw [Option.map_none, Option.getD_none, Text.inCase_nil, Option.map_none,
      Option.getD_none]
  | some e => rw [Option.map_some, Option.getD_some, e.inCase_text, Option.map_some,
      Option.getD_some]

/-- A number starts with a digit. -/
theorem exists_text_eq_cons : ∃ c t, r.text upper = c :: t ∧ c.isDigit = true := by
  obtain ⟨c, digits, whole⟩ := List.exists_cons_of_ne_nil r.numeral.nonempty
  have digit : c.isDigit = true :=
    r.numeral.isDigit c (List.mem_append_left _ (whole ▸ List.mem_cons_self))
  rw [text, PointNumeral.textIn, PointNumeral.text, whole]
  cases r.alternate <;> exact ⟨c, _, rfl, digit⟩

/-- A number has its points in front of its exponent. -/
theorem count_point_text :
    (r.text upper).count '.' = (r.numeral.textIn r.alternate).count '.' := by
  have exponent : ((r.exponent?.map fun e => e.text upper).getD []).count '.' = 0 := by
    cases r.exponent? with
    | none => rfl
    | some e => exact e.count_point_text upper
  rw [text, List.count_append, exponent, Nat.add_zero]

/-- A number has at most one point. -/
theorem count_point_text_le : (r.text upper).count '.' ≤ 1 := by
  obtain ⟨front, behind⟩ := r.numeral.count_point_digits
  rw [count_point_text, PointNumeral.textIn, PointNumeral.text]
  split
  · simp [front, behind]
  · split <;> simp [front, behind]

end RealNumeral

/-- A text **is written** in a notation, in a case. -/
def Style.Writes (upper : Bool) (t : Text) : Style → Prop
  | whole base => t ≠ [] ∧ ∀ c ∈ t, c ∈ base.digits upper
  | real style => ∃ r : RealNumeral, r.Suits style ∧ t = r.text upper

/-- The numeral of a whole number is written in the notation of its base. -/
theorem Base.writes_numeral (base : Base) (upper : Bool) (n : ℕ) :
    (Style.whole base).Writes upper ((base.numeral n).inCase upper) := by
  obtain ⟨values, makeUp, numeral⟩ := base.isCanonical_numeral n
  rw [numeral, Text.inCase_eq_map, List.map_map]
  refine ⟨List.map_eq_nil_iff.not.2 makeUp.nonempty, fun c member => ?_⟩
  obtain ⟨d, digit, rfl⟩ := List.mem_map.1 member
  have below := makeUp.below d digit
  cases base <;> cases upper <;> simp only [radix] at below <;> interval_cases d <;> decide

/-! ## Texts that can be a body -/

/-- A text **can be a body**: padding may go in front of it, and its letters have a case. -/
structure Text.IsBody (upper : Bool) (t : Text) : Prop where
  /-- It is not empty. -/
  nonempty : t ≠ []
  /-- No sign and no space stands at its front. -/
  front : ∀ c ∈ t.head?, c ∉ ['-', '+', ' ']
  /-- It holds no letter of the other case. -/
  cased : ∀ c ∈ t, (if upper then c.toUpper else c.toLower) = c
  /-- It has at most one point. -/
  onePoint : t.count '.' ≤ 1

/-- Digits and points have no case. -/
theorem Text.Positional.cased {t : Text} (positional : t.Positional) (upper : Bool) :
    ∀ c ∈ t, (if upper then c.toUpper else c.toLower) = c := by
  intro c member
  rcases positional c member with digit | rfl
  · cases upper
    · exact toLower_of_digitValue?_eq_some (digitValue?_of_isDigit c digit)
    · exact toUpper_of_isDigit digit
  · cases upper <;> rfl

/-- An exponent has its letter in the case that is asked for. -/
theorem ExponentNumeral.cased_text (e : ExponentNumeral) (upper : Bool) :
    ∀ c ∈ e.text upper, (if upper then c.toUpper else c.toLower) = c := by
  intro c member
  rcases List.mem_cons.1 member with rfl | member
  · cases upper <;> rfl
  · rcases List.mem_cons.1 member with rfl | digit
    · cases upper <;> cases e.negative <;> rfl
    · exact Text.Positional.cased (fun c digit => .inl (e.isDigit c digit)) upper c digit

/-- A number with a fraction can be a body. -/
theorem RealNumeral.isBody_text (r : RealNumeral) (upper : Bool) : (r.text upper).IsBody upper := by
  obtain ⟨first, rest, text, digit⟩ := r.exists_text_eq_cons upper
  refine ⟨?_, fun c head => ?_, fun c member => ?_, r.count_point_text_le upper⟩
  · rw [text]
    exact List.cons_ne_nil first rest
  · rw [text] at head
    obtain rfl := Option.some.inj head
    intro mark
    simp only [List.mem_cons, List.not_mem_nil, or_false] at mark
    rcases mark with rfl | rfl | rfl <;> contradiction
  · rcases List.mem_append.1 member with front | behind
    · exact (r.numeral.positional_textIn r.alternate).cased upper c front
    · cases exponent : r.exponent? with
      | none =>
        rw [exponent] at behind
        contradiction
      | some e =>
        rw [exponent] at behind
        exact e.cased_text upper c behind

/-- Digits of a base can be a body. -/
theorem Base.isBody_of_digits {base : Base} {upper : Bool} {t : Text} (nonempty : t ≠ [])
    (digits : ∀ c ∈ t, c ∈ base.digits upper) : t.IsBody upper := by
  have letters : ∀ c ∈ base.digits upper, c ∉ ['-', '+', ' ', '.']
      ∧ (if upper then c.toUpper else c.toLower) = c := by
    cases base <;> cases upper <;>
      simp [Base.digits, Text.ofString, Text.inCase, Text.upper, Base.radix]
  refine ⟨nonempty, fun c head mark => ?_, fun c member => (letters c (digits c member)).2, ?_⟩
  · have front := (letters c (digits c (List.mem_of_mem_head? head))).1
    exact front (List.mem_append_left ['.'] mark)
  · have none : t.count '.' = 0 := List.count_eq_zero.2 fun member =>
      (letters '.' (digits '.' member)).1 (by decide)
    rw [none]
    exact Nat.zero_le 1

/-- What is written in a notation can be a body. -/
theorem Style.Writes.isBody {upper : Bool} {t : Text} {style : Style}
    (writes : style.Writes upper t) : t.IsBody upper := by
  cases style with
  | whole base => exact Base.isBody_of_digits writes.1 writes.2
  | real style =>
    obtain ⟨r, -, rfl⟩ := writes
    exact r.isBody_text upper

/-! ## Numbers without their signs -/

/-- The digits of a magnitude with a precision are a number that suits the notation. -/
theorem RealStyle.exists_digits_eq (style : RealStyle) (flags : Flags) (places : ℕ)
    (x : Magnitude) :
    ∃ r : RealNumeral, r.Suits style ∧ style.digits flags places x = r.text false := by
  cases style with
  | fixed =>
    refine ⟨⟨.ofScaled (x.atPlaces places) places, false, none⟩, rfl, ?_⟩
    exact (Layout.fixed_eq_text _ _).trans (List.append_nil _).symm
  | exponent =>
    exact ⟨⟨.ofScaled _ places, false, some (.ofInt _)⟩, rfl, x.exponential_eq_text places⟩
  | general =>
    obtain ⟨further, count⟩ : ∃ further, max places 1 = further + 1 :=
      Nat.exists_eq_add_one.2 (by omega)
    change ∃ r : RealNumeral, _ ∧ x.general places flags.alternate = _
    rw [x.general_eq_text count]
    split
    · exact ⟨⟨_, flags.alternate, none⟩, trivial, rfl⟩
    · exact ⟨⟨_, flags.alternate, some _⟩, trivial, rfl⟩

/-- A finite number without an exponent is a numeral with a point. -/
theorem Number.exists_positional_eq {n : Number} (finite : n.isFinite = true) :
    ∃ f : PointNumeral, n.abs.positional = f.text := by
  cases n with
  | whole n =>
    have natural : ¬ ((n.natAbs : ℤ) < 0) := Int.not_lt.2 (Int.natCast_nonneg _)
    refine ⟨.ofScaled n.natAbs 0, ?_⟩
    rw [← Layout.fixed_eq_text, Layout.fixed, if_pos rfl, abs, positional, if_neg natural,
      List.nil_append, Int.natAbs_natCast]
  | double x =>
    cases x with
    | nan => contradiction
    | infinite negative => contradiction
    | finite negative x => exact ⟨_, x.positional_eq_text⟩

/-- The name of a number that is not finite. -/
def Number.name (n : Number) : Text := Text.ofString (if n = .double .nan then "nan" else "inf")

/-- The name of a number can be a body. -/
theorem Number.isBody_name (n : Number) (upper : Bool) :
    Text.IsBody upper (n.name.inCase upper) := by
  rw [name]
  split
  · constructor <;> cases upper <;> simp [Text.inCase, Text.upper, Text.ofString]
  · constructor <;> cases upper <;> simp [Text.inCase, Text.upper, Text.ofString]

/-- The **pieces of a number without its sign**, in lower case, by what its notation writes. -/
inductive Pieces.Unsigned (flags : Flags) (precision : Option Value) (n : Number) :
    Style → Pieces → Prop where
  /-- What is not finite is nothing but its name. -/
  | named {style : Style} (infinite : (style.written precision n).isFinite = false) :
    Unsigned flags precision n style (ofBody n.name)
  /-- The whole part in a base. -/
  | whole {base : Base} (finite : ((Style.whole base).written precision n).isFinite = true) :
    Unsigned flags precision n (.whole base) (wholePieces flags base (wholePart n))
  /-- Digits with a point. -/
  | real {style : RealStyle} {r : RealNumeral} (suits : r.Suits style)
      (finite : ((Style.real style).written precision n).isFinite = true) :
    Unsigned flags precision n (.real style) (pointedPieces flags (r.text false))

/-- Only what is no number has a nearest double that is none. -/
theorem Number.eq_nan_of_toDouble {n : Number} (nan : n.toDouble = .nan) : n = .double .nan := by
  cases n with
  | whole n =>
    rw [toDouble, Double.ofInt, Double.ofRatio] at nan
    generalize Magnitude.ofRatio? n.natAbs 1 = rounded at nan
    cases rounded <;> contradiction
  | double x => exact congrArg double nan

namespace Pieces.Unsigned

variable {s : Settings} {flags : Flags} {precision : Option Value} {n : Number} {style : Style}
  {u : Pieces}

/-- Pieces of the number itself. -/
theorem of_exactPieces {finite : Pieces} (exact : ¬ style.FromDouble precision)
    (ofFinite : (style.written precision n).isFinite = true →
      Unsigned flags precision n style finite) :
    Unsigned flags precision n style (exactPieces n finite) := by
  have itself : style.written precision n = n := if_neg exact
  rw [itself] at ofFinite
  rw [exactPieces]
  split
  · rename_i isFinite
    exact ofFinite isFinite
  · rename_i infinite
    have name : n.toDouble.abs.text = n.name := by
      cases n with
      | whole n => exact absurd rfl infinite
      | double x =>
        cases x with
        | nan => rfl
        | infinite negative => rfl
        | finite negative x => exact absurd rfl infinite
    rw [name]
    exact .named (by rw [itself]; exact Bool.eq_false_of_not_eq_true infinite)

/-- Pieces of the nearest double. -/
theorem of_doublePieces {real : RealStyle} {w : Value}
    (fromDouble : (Style.real real).FromDouble precision)
    (converted : doublePieces flags real w n.toDouble = .ok u) :
    Unsigned flags precision n (.real real) u := by
  have nearest : (Style.real real).written precision n = .double n.toDouble := if_pos fromDouble
  cases double : n.toDouble with
  | finite negative x =>
    rw [double, doublePieces, map_eq_ok_iff] at converted
    obtain ⟨places, -, rfl⟩ := converted
    obtain ⟨r, suits, digits⟩ := real.exists_digits_eq flags places x
    rw [digits]
    exact .real suits (by rw [nearest, double]; rfl)
  | infinite negative =>
    have name : n.name = Text.ofString "inf" := by
      rw [Number.name, if_neg]
      rintro rfl
      contradiction
    have same : doublePieces flags real w (.infinite negative) = .ok (ofBody n.name) := by
      rw [name]
      rfl
    rw [double, same] at converted
    obtain rfl := Except.ok.inj converted
    exact .named (by rw [nearest, double]; rfl)
  | nan =>
    have name : n.name = Text.ofString "nan" := by
      rw [Number.name, if_pos (n.eq_nan_of_toDouble double)]
    have same : doublePieces flags real w .nan = .ok (ofBody n.name) := by
      rw [name]
      rfl
    rw [double, same] at converted
    obtain rfl := Except.ok.inj converted
    exact .named (by rw [nearest, double]; rfl)

/-- **What a number is converted to** without its sign. -/
theorem of_unsignedPieces (converted : unsignedPieces s style flags precision n = .ok u) :
    Unsigned flags precision n style u := by
  cases style with
  | whole base =>
    obtain rfl := Except.ok.inj converted
    exact of_exactPieces id .whole
  | real real =>
    cases real with
    | fixed =>
      cases precision with
      | none =>
        obtain rfl := Except.ok.inj converted
        refine of_exactPieces Bool.false_ne_true fun finite => ?_
        obtain ⟨f, positional⟩ := Number.exists_positional_eq (n := n) finite
        have numeral : n.abs.positional = (RealNumeral.mk f false none).text false :=
          positional.trans (List.append_nil _).symm
        rw [numeral]
        exact .real rfl finite
      | some w => exact of_doublePieces rfl converted
    | exponent => exact of_doublePieces trivial converted
    | general => exact of_doublePieces trivial converted

end Pieces.Unsigned

/-! ## The shape of pieces -/

/-- Pieces are **well shaped** for a number in a form, with flags and a precision. -/
structure Pieces.WellShaped (form : NumberForm) (flags : Flags) (precision : Option Value)
    (n : Number) (p : Pieces) : Prop where
  /-- A number below zero has a minus. Any other has the sign that the flags ask for, if any. -/
  sign : p.sign = if n.BelowZero then ['-'] else if flags.plus then ['+']
    else if flags.space then [' '] else []
  /-- The body can be one. -/
  body : p.body.IsBody form.upper
  /-- What is not finite is written by its name, and nothing but its sign stands beside it. -/
  named : (form.style.written precision n).isFinite = false →
    p.body = n.name.inCase form.upper ∧ p.mark = [] ∧ p.tail = []
  /-- The body of a finite number is written in the notation. -/
  written : (form.style.written precision n).isFinite = true →
    form.style.Writes form.upper p.body
  /-- Behind the body of a finite number stands a point, if the flags ask for one, the notation is
  one of fractions, and the body has none. -/
  tail_iff : (form.style.written precision n).isFinite = true →
    (p.tail = ['.'] ↔ flags.alternate = true ∧ (∃ real, form.style = .real real) ∧ '.' ∉ p.body)
  /-- Nothing else stands behind it. -/
  tail : p.tail = [] ∨ p.tail = ['.']
  /-- So there is one point where the flags ask for it. -/
  point : (form.style.written precision n).isFinite = true → flags.alternate = true →
    (∃ real, form.style = .real real) → (p.body ++ p.tail).count '.' = 1
  /-- Where they do not, nothing stands behind the body. -/
  plain : flags.alternate = false → p.tail = []

/-- A number gets a minus if it is below zero, and otherwise the sign that the flags ask for. -/
theorem signOf_eq (flags : Flags) (n : Number) :
    signOf flags n = if n.BelowZero then ['-'] else if flags.plus then ['+']
      else if flags.space then [' '] else [] := by
  rw [signOf]
  simp only [n.isNegative_iff_belowZero]

section Points

variable {flags : Flags} {body : Text}

/-- A body gets a point if the flags ask for one and it has none. -/
theorem pointFor_eq_point_iff :
    pointFor flags body = ['.'] ↔ flags.alternate = true ∧ '.' ∉ body := by
  unfold pointFor
  split
  · rename_i missing
    exact iff_of_true rfl missing
  · rename_i other
    exact iff_of_false (List.cons_ne_nil _ _).symm other

/-- A body gets a point or nothing. -/
theorem pointFor_eq_or : pointFor flags body = [] ∨ pointFor flags body = ['.'] := by
  unfold pointFor
  split
  · exact .inr rfl
  · exact .inl rfl

/-- Where the flags ask for a point, a body of at most one point has one with what it gets. -/
theorem count_point_append_pointFor (onePoint : body.count '.' ≤ 1)
    (asked : flags.alternate = true) : (body ++ pointFor flags body).count '.' = 1 := by
  rw [List.count_append, pointFor]
  by_cases point : '.' ∈ body
  · rw [if_neg fun missing => missing.2 point]
    exact le_antisymm onePoint (List.count_pos_iff.2 point)
  · rw [if_pos ⟨asked, point⟩, List.count_eq_zero.2 point]
    rfl

/-- The point for a number does not depend on the case of its exponent. -/
theorem RealNumeral.pointFor_text (r : RealNumeral) (flags : Flags) (upper : Bool) :
    (pointFor flags (r.text false)).inCase upper = pointFor flags (r.text upper) := by
  have same : '.' ∈ r.text false ↔ '.' ∈ r.text upper := by
    rw [← List.count_pos_iff, ← List.count_pos_iff, r.count_point_text, r.count_point_text]
  simp only [pointFor, same]
  split
  · cases upper <;> rfl
  · exact Text.inCase_nil

end Points

/-- **The shape of what a number is converted to**, with its sign and in its case. -/
theorem Pieces.Unsigned.wellShaped {form : NumberForm} {flags : Flags} {precision : Option Value}
    {n : Number} {u : Pieces} (unsigned : Unsigned flags precision n form.style u) :
    WellShaped form flags precision n
      ⟨signOf flags n, u.mark.inCase form.upper, u.body.inCase form.upper,
        u.tail.inCase form.upper⟩ := by
  obtain ⟨style, upper⟩ := form
  cases unsigned with
  | named infinite =>
    have notFinite : ¬ (style.written precision n).isFinite = true := by simp [infinite]
    exact ⟨signOf_eq flags n, n.isBody_name upper,
      fun _ => ⟨rfl, Text.inCase_nil, Text.inCase_nil⟩, (absurd · notFinite), (absurd · notFinite),
      .inl Text.inCase_nil, (absurd · notFinite), fun _ => Text.inCase_nil⟩
  | @whole base finite =>
    have writes := base.writes_numeral upper (wholePart n)
    have noTail : Text.inCase upper [] = [] := Text.inCase_nil
    refine ⟨signOf_eq flags n, writes.isBody, fun infinite => ?_, fun _ => writes, fun _ => ?_,
      .inl noTail, fun _ _ isReal => ?_, fun _ => noTail⟩
    · rw [finite] at infinite
      contradiction
    · refine iff_of_false ?_ fun ⟨_, ⟨other, same⟩, _⟩ => absurd same (by simp)
      change Text.inCase upper [] ≠ ['.']
      rw [noTail]
      exact (List.cons_ne_nil _ _).symm
    · obtain ⟨other, same⟩ := isReal
      contradiction
  | real suits finite =>
    rename_i style r
    have writes : (Style.real style).Writes upper (r.text upper) := ⟨r, suits, rfl⟩
    change WellShaped _ flags precision n ⟨_, Text.inCase upper [], (r.text false).inCase upper,
      (pointFor flags (r.text false)).inCase upper⟩
    rw [Text.inCase_nil, r.inCase_text, r.pointFor_text]
    refine ⟨signOf_eq flags n, writes.isBody, fun infinite => ?_, fun _ => writes, fun _ => ?_,
      pointFor_eq_or, fun _ asked _ => count_point_append_pointFor writes.isBody.onePoint asked,
      fun unasked => ?_⟩
    · rw [finite] at infinite
      contradiction
    · rw [pointFor_eq_point_iff]
      exact and_congr_right fun _ => (and_iff_right ⟨style, rfl⟩).symm
    · exact if_neg fun missing => Bool.false_ne_true (unasked.symm.trans missing.1)

/-- **All pieces are well shaped.** Let a value stand for a number, and let it be converted without
a fault: in any notation and case, with any flags, with any precision that can be used, and under
any settings. Then its pieces are well shaped for the number. A value that stands for the number
with the other sign is converted as well, and to the same pieces but for the sign. -/
theorem Value.pieces_wellShaped {v : Value} {n : Number} (number : v.toNumber = .ok n)
    {s : Settings} {form : NumberForm} {flags : Flags} {precision : Option Value} {p : Pieces}
    (converted : v.pieces s form flags precision = .ok p) :
    p.WellShaped form flags precision n
      ∧ ∀ w : Value, w.toNumber = .ok n.neg →
        ∃ q, w.pieces s form flags precision = .ok q ∧ q.WellShaped form flags precision n.neg
          ∧ q.mark = p.mark ∧ q.body = p.body ∧ q.tail = p.tail := by
  rw [pieces_eq number, map_eq_ok_iff] at converted
  obtain ⟨u, unsigned, rfl⟩ := converted
  refine ⟨(Pieces.Unsigned.of_unsignedPieces unsigned).wellShaped, fun w opposite => ?_⟩
  -- without its sign the opposite number has the same pieces
  have same : unsignedPieces s form.style flags precision n.neg = .ok u := by
    rw [unsignedPieces_neg, unsigned]
  refine ⟨_, ?_, (Pieces.Unsigned.of_unsignedPieces same).wellShaped, rfl, rfl, rfl⟩
  rw [pieces_eq opposite, same]
  rfl

/-- A tie is rounded to a power of ten. The precision leaves no digits behind the point, so the point
that is asked for stands behind the exponent. The opposite number has a plus. -/
theorem Value.pieces_wellShaped_point :
    let form : NumberForm := ⟨.real .exponent, true⟩
    let flags := Flags.ofText ['#', '+']
    let p : Pieces := ⟨['-'], [], Text.ofString "1E+02", ['.']⟩
    (Value.whole (-95)).toNumber = .ok (.whole (-95))
      ∧ (Value.whole (-95)).pieces Settings.initial form flags (some (.whole 0)) = .ok p
      ∧ p.WellShaped form flags (some (.whole 0)) (.whole (-95))
      ∧ (Value.whole 95).toNumber = .ok (Number.whole (-95)).neg
      ∧ ∃ q : Pieces, (Value.whole 95).pieces Settings.initial form flags (some (.whole 0)) = .ok q
        ∧ q.text = Text.ofString "+1E+02." := by
  intro form flags p
  have converted : (Value.whole (-95)).pieces Settings.initial form flags (some (.whole 0))
      = .ok p := by
    decide +kernel
  obtain ⟨shape, opposite⟩ :=
    Value.pieces_wellShaped (v := .whole (-95)) (n := .whole (-95)) rfl converted
  obtain ⟨q, pieces, qShape, mark, body, tail⟩ := opposite (.whole 95) rfl
  have sign : q.sign = ['+'] := qShape.sign.trans (by decide)
  refine ⟨rfl, converted, shape, rfl, q, pieces, ?_⟩
  rw [Pieces.text, sign, mark, body, tail]
  rfl

end PercentFormat
