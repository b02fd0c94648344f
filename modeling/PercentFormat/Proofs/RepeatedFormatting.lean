import PercentFormat.Proofs.LiteralParameters
import PercentFormat.Proofs.PositionalDoubles
import PercentFormat.Proofs.SpelledNumbers

/-! # Texts of numbers that are formatted again

In fixed notation without a precision a number is written to its last digit. The text may be read as
another number, since a double without a fraction comes back as a whole number, but this one has the
same text.

* **`Number.exactText`** — the text of a number, written to its last digit.
* **`Number.exactText_ofText`** — the number that the text is read as has the same text.
* **`sprintf_fixed`** — this is the text that `%f` is formatted to.
* **`sprintf_fixed_again`** — formatting the text again gives the same text. -/

namespace PercentFormat

/-! ## Numerals with a point are no whole numbers -/

/-- A numeral with digits behind the point is not read as a whole number. -/
theorem PointNumeral.readWhole?_eq_none {f : PointNumeral} (some : f.fraction ≠ []) {sign : Text}
    {negative : Bool} (isSign : IsSign sign negative) : readWhole? (sign ++ f.text) = none := by
  have text : f.text = f.whole ++ '.' :: f.fraction := by simp [PointNumeral.text, some]
  have isRun := isDigitRun_of_forall f.nonempty fun c => f.isDecimalDigit_of_mem_whole
  have point : StartsOutside continuesRun ('.' :: f.fraction) := startsOutside_cons (by decide)
  have read := isRun.readDigits_append point
  obtain ⟨c, d, others, first, digit⟩ := isRun.exists_eq_cons
  obtain ⟨value, values, digits⟩ := List.exists_cons_of_ne_nil isRun.digits_ne_nil
  rw [digits, first] at read
  rw [text, first]
  have signRead := isSign.readSign_append digit (others ++ '.' :: f.fraction)
  simp only [readWhole?, List.cons_append, signRead] at read ⊢
  simp only [read]

namespace Number

/-! ## Numbers written to their last digit -/

/-- The **exact text** of a number: its sign and its numeral, or the name of what is not finite. -/
def exactText (n : Number) : Text :=
  signOf (Flags.ofText []) n
    ++ if n.isFinite then n.abs.positional else n.toDouble.abs.text

/-- Without flags only what is negative has a sign. -/
theorem signOf_plain (n : Number) :
    signOf (Flags.ofText []) n = if n.isNegative then ['-'] else [] := by
  simp [signOf, Flags.ofText]

/-- The sign that is written for a number is read as such. -/
theorem isSign_signOf_plain (n : Number) :
    IsSign (signOf (Flags.ofText []) n) n.isNegative := by
  have sign := isSign_ite (n.isNegative = true)
  rwa [Bool.decide_eq_true, ← signOf_plain] at sign

/-- The exact text of a whole number is its numeral. -/
theorem exactText_whole (n : ℤ) : (whole n).exactText = (whole n).positional := by
  have numeral : (whole n).abs.positional = Numeral.decimal n.natAbs := by
    rw [abs, positional, Int.natAbs_natCast, if_neg (Int.not_lt.2 (Int.natCast_nonneg _)),
      List.nil_append]
  rw [exactText, signOf_plain, if_pos (show (whole n).isFinite = true from rfl), numeral,
    isNegative, positional]
  simp only [decide_eq_true_eq]

/-- The exact text of a finite double is a sign and the numeral of its shortest decimal. -/
theorem exactText_finite (negative : Bool) (x : Magnitude) :
    (double (.finite negative x)).exactText
      = signOf (Flags.ofText []) (double (.finite negative x))
        ++ x.shortest.pointNumeral.text := by
  rw [← x.positional_eq_text]
  rfl

/-- A numeral without a fraction is that of a whole number, with the sign of its double. -/
theorem exists_exactText_eq_positional {negative : Bool} {x : Magnitude}
    (none : x.shortest.pointNumeral.fraction = []) :
    ∃ k : ℤ, k.natAbs < pow10 maxDigits
      ∧ (double (.finite negative x)).exactText = (whole k).positional := by
  obtain ⟨w, value, text⟩ := x.shortest.exists_text_eq_decimal none
  obtain ⟨nearest, fits⟩ := x.isNearest_shortest
  rw [value] at nearest fits
  have few : w < pow10 maxDigits :=
    (Nat.cast_lt.1 fits).trans_le Magnitude.overflowBound_le_pow10_maxDigits
  rw [exactText_finite, text, signOf_plain]
  cases sign : (double (.finite negative x)).isNegative with
  | false =>
    refine ⟨w, few, ?_⟩
    rw [positional, if_neg Bool.false_ne_true, if_neg (by omega), Int.natAbs_natCast]
  | true =>
    -- a number below zero is not zero, and so its numeral is not
    have some : x.units ≠ 0 := by
      simp only [isNegative, Double.isNegative, Bool.and_eq_true, bne_iff_ne] at sign
      exact sign.2
    have positive : 0 < w := by
      refine Nat.pos_of_ne_zero fun zero => some ?_
      rw [zero, Nat.cast_zero, ← Magnitude.toRat_zero] at nearest
      rw [nearest.unique Magnitude.zero.isNearest_toRat]
      rfl
    refine ⟨-w, ?_, ?_⟩
    · rwa [Int.natAbs_neg, Int.natAbs_natCast]
    · rw [positional, if_pos rfl, if_pos (by omega), Int.natAbs_neg, Int.natAbs_natCast]

/-- A double below zero keeps its sign. -/
theorem isNegative_finite_isNegative (negative : Bool) (x : Magnitude) :
    (double (.finite (double (.finite negative x)).isNegative x)).isNegative
      = (double (.finite negative x)).isNegative := by
  simp [isNegative, Double.isNegative]

/-- A numeral with a fraction reads back as its double, unless this is a negative zero. -/
theorem ofText_of_fraction_ne_nil {negative : Bool} {x : Magnitude}
    (some : x.shortest.pointNumeral.fraction ≠ []) :
    ofText (double (.finite negative x)).exactText
      = double (.finite (double (.finite negative x)).isNegative x) := by
  have isSign := isSign_signOf_plain (double (.finite negative x))
  have nonempty : x.shortest.pointNumeral.text ≠ [] :=
    List.append_ne_nil_of_left_ne_nil x.shortest.pointNumeral.nonempty _
  have denotes : Denotes x.shortest.pointNumeral.text x.shortest.toRat :=
    x.shortest.value_pointNumeral ▸ .plain _
  have visible : ∀ c ∈ x.shortest.pointNumeral.text, isBlank c = false := by
    intro c member
    rcases PointNumeral.isDigit_or_eq_of_mem_text member with digit | rfl
    · exact isBlank_of_isDigit digit
    · decide
  rw [exactText_finite, ofText, isSign.trim_append nonempty visible,
    PointNumeral.readWhole?_eq_none some isSign, Magnitude.readDouble?_of_denotes denotes isSign]
  rfl

/-- **The number that an exact text is read as** has the same exact text, if the number has not too
many digits to be read. -/
theorem exactText_ofText {n : Number} (few : ∀ k, n = whole k → k.natAbs < pow10 maxDigits) :
    (ofText n.exactText).exactText = n.exactText := by
  match n with
  | whole k => rw [exactText_whole, ofText_positional_of_lt (few k rfl), exactText_whole]
  | double .nan => decide
  | double (.infinite true) => decide
  | double (.infinite false) => decide
  | double (.finite negative x) =>
    by_cases none : x.shortest.pointNumeral.fraction = []
    · obtain ⟨k, few, text⟩ := exists_exactText_eq_positional none
      rw [text, ofText_positional_of_lt few, exactText_whole]
    · rw [ofText_of_fraction_ne_nil none, exactText_finite, exactText_finite, signOf_plain,
        signOf_plain, isNegative_finite_isNegative]

end Number

/-! ## Formatting -/

/-- A field without a width or a precision is the text of its pieces. -/
theorem Directive.field_of_absent {d : Directive} (width : d.width = .absent)
    (precision : d.precision = .absent) {form : NumberForm}
    (role : d.specifier.role = .number form) (s : Settings) (v' v'' v : Value) :
    d.field s v' v'' v = (v.pieces s form d.flags none).map Pieces.text := by
  have number : d.width.number v' = .ok none := by rw [width]; rfl
  have number' : d.precision.number v'' = .ok none := by rw [precision]; rfl
  have converted : d.convert s none v = v.pieces s form d.flags none := by rw [convert, role]; rfl
  rw [field, number, number']
  change d.padded s none none v = _
  rw [padded, Option.filter_none, converted]
  cases v.pieces s form d.flags none with
  | error fault => rfl
  | ok p =>
    change (if d.specifier.role = .ignored then _ else _) = _
    rw [if_neg (by rw [role]; simp)]
    exact p.justify_of_nonpos d.flags (Int.le_refl 0)

/-- Without flags and without a precision, the pieces in fixed notation make up the exact text. -/
theorem Value.pieces_exactText {v : Value} {n : Number} (number : v.toNumber = .ok n)
    (s : Settings) :
    (v.pieces s ⟨.real .fixed, false⟩ (Flags.ofText []) none).map Pieces.text
      = .ok n.exactText := by
  rw [pieces_eq number, unsignedPieces, exactPieces, Number.exactText]
  cases n.isFinite <;>
    simp [Except.map, Pieces.text, pointedPieces, Pieces.ofBody, pointFor, Text.inCase,
      Flags.ofText]

/-- **`%f` is formatted to the exact text** of the number that a value stands for. -/
theorem sprintf_fixed {v : Value} {n : Number} (number : v.toNumber = .ok n) (s : Settings) :
    (sprintf s (.text (Text.ofString "%f")) [v]).result = .ok n.exactText := by
  let spelling : Spelling := ⟨[], .absent, .absent, none, .fixed⟩
  have allowed : spelling.Grammatical := ⟨by simp [spelling], trivial, trivial⟩
  have read := readTemplate_append_directive .nil (numbersShort_of_length_le (Nat.zero_le _))
    allowed ⟨trivial, trivial⟩
  have empty : (readTemplate []).tokens = [] := by rw [readTemplate, readFrom_nil]
  rw [empty, List.nil_append, List.nil_append] at read
  refine sprintf_of_directive (c := (Cursor.ofList [v]).advance 1) read ?_
  rw [Directive.run_render]
  refine Prod.ext ?_ rfl
  exact (Directive.field_of_absent rfl rfl rfl s _ _ v).trans (Value.pieces_exactText number s)

/-- **Formatting again changes nothing.** The text that `%f` is formatted to, for a value that
stands for any double or for a whole number of at most `maxDigits` digits, is formatted to
itself. -/
theorem sprintf_fixed_again {v : Value} {n : Number} (number : v.toNumber = .ok n)
    (few : ∀ k, n = .whole k → k.natAbs < pow10 maxDigits) (s : Settings) :
    ∃ text, (sprintf s (.text (Text.ofString "%f")) [v]).result = .ok text
      ∧ (sprintf s (.text (Text.ofString "%f")) [.text text]).result = .ok text := by
  refine ⟨n.exactText, sprintf_fixed number s, ?_⟩
  have again : (Value.text n.exactText).toNumber = .ok (.ofText n.exactText) := rfl
  rw [sprintf_fixed again, Number.exactText_ofText few]

/-- The text of a double without a fraction is read as a whole number that differs from the
double. -/
theorem sprintf_fixed_again_whole :
    let x : Magnitude := .scaleBinary 5960464477539062 1098 (by decide) (by decide)
    let n : Number := .double (.finite false x)
    let text := Text.ofString "100000000000000000000000"
    (Value.double (.finite false x)).toNumber = .ok n
      ∧ (∀ k, n = .whole k → k.natAbs < pow10 maxDigits)
      ∧ (sprintf Settings.initial (.text (Text.ofString "%f")) [.double (.finite false x)]).result
          = .ok text
      ∧ (Value.text text).toNumber = .ok (.whole (10 ^ 23)) ∧ n.toRat ≠ (10 ^ 23 : ℕ)
      ∧ (sprintf Settings.initial (.text (Text.ofString "%f")) [.text text]).result
          = .ok text := by
  intro x n text
  have few : ∀ k, n = .whole k → k.natAbs < pow10 maxDigits := fun k whole => nomatch whole
  obtain ⟨written, first, second⟩ :=
    sprintf_fixed_again (v := .double (.finite false x)) (n := n) rfl few Settings.initial
  have exact : n.exactText = text := by decide +kernel
  have formatted := sprintf_fixed (v := .double (.finite false x)) (n := n) rfl Settings.initial
  rw [exact] at formatted
  obtain rfl := Except.ok.inj (first.symm.trans formatted)
  have read : (Value.text text).toNumber = .ok (.whole (10 ^ 23)) := by decide
  have value : n.toRat = x.toRat := rfl
  have differs : n.toRat ≠ (10 ^ 23 : ℕ) := by
    rw [value, Magnitude.toRat_scaleBinary]
    norm_num
  exact ⟨rfl, few, formatted, read, differs, second⟩

end PercentFormat
