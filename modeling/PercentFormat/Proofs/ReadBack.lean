import PercentFormat.Printf
import PercentFormat.Proofs.DigitRuns
import PercentFormat.Proofs.RemainingValues
import PercentFormat.Proofs.Spelling

/-! # Fields of whole numbers read back

A whole number that is written in decimal stands in its field with a sign, with zeros in front of
its numeral, and with spaces on either side. A reader of numbers leaves the spaces aside and takes
the rest for the number that was written, as long as no more than `maxDigits` digits stand there.

* **`Written.number_zeros`** — zeros in front of digits change nothing.
* **`WholeField`** — the layout of a whole number in its field.
* **`WholeField.ofText_text`** — a field is read as its number.
* **`exists_wholeField`** — however a decimal conversion is padded, it is such a field.
* **`Directive.toNumber_render`** — what a decimal directive writes for a number reads back. -/

namespace PercentFormat

/-! ## Zeros in front of digits -/

/-- Zeros in front of digits do not change what they denote. -/
theorem Written.number_zeros (k : Nat) (run : Text) :
    number (Text.zeros k ++ run) = number run := by
  induction k with
  | zero => rfl
  | succ k ih => exact ih

/-! ## Fields -/

/-- A text **is a sign of** a whole number if a reader takes it for its sign. -/
inductive IsSignOf : Text → Int → Prop where
  /-- A minus in front of a number below zero. -/
  | minus {n : Int} (below : n < 0) : IsSignOf ['-'] n
  /-- A plus in front of any other number. -/
  | plus {n : Int} (notBelow : 0 ≤ n) : IsSignOf ['+'] n
  /-- No sign in front of any other number. -/
  | none {n : Int} (notBelow : 0 ≤ n) : IsSignOf [] n

/-- The sign that the flags ask for is a sign of the number, possibly behind a space. -/
theorem exists_isSignOf (flags : Flags) (n : Int) :
    ∃ i sign, signOf flags (.whole n) = Text.spaces i ++ sign ∧ IsSignOf sign n := by
  rw [signOf]
  by_cases below : n < 0
  · exact ⟨0, ['-'], by simp [Number.isNegative, below, Text.spaces], .minus below⟩
  · have notBelow : 0 ≤ n := Int.not_lt.1 below
    rw [if_neg (by simpa [Number.isNegative] using notBelow)]
    by_cases plus : flags.plus = true
    · exact ⟨0, ['+'], by rw [if_pos plus]; rfl, .plus notBelow⟩
    · rw [if_neg plus]
      by_cases space : flags.space = true
      · exact ⟨1, [], by rw [if_pos space]; rfl, .none notBelow⟩
      · exact ⟨0, [], by rw [if_neg space]; rfl, .none notBelow⟩

/-- A sign of a number is a minus if the number is below zero. -/
theorem IsSignOf.isSign {sign : Text} {n : Int} (isSign : IsSignOf sign n) :
    IsSign sign (n < 0) := by
  cases isSign with
  | minus below =>
    rw [decide_eq_true below]
    exact .minus
  | plus notBelow =>
    rw [decide_eq_false (Int.not_lt.2 notBelow)]
    exact .plus
  | none notBelow =>
    rw [decide_eq_false (Int.not_lt.2 notBelow)]
    exact .none

/-- A whole number is its absolute value with its sign. -/
theorem signed_natAbs (n : Int) : signed (decide (n < 0)) n.natAbs = n := by
  unfold signed
  split
  · rename_i below
    have := of_decide_eq_true below
    omega
  · rename_i notBelow
    have : ¬ n < 0 := fun below => notBelow (decide_eq_true below)
    omega

/-- The **field** of a whole number: spaces, a sign, zeros, its numeral, and spaces. -/
structure WholeField (n : Int) where
  /-- The number of spaces in front. -/
  before : Nat
  /-- The sign. -/
  sign : Text
  /-- The number of zeros behind the sign. -/
  zeros : Nat
  /-- The number of spaces behind. -/
  behind : Nat
  /-- The sign is one of the number. -/
  isSign : IsSignOf sign n

namespace WholeField

variable {n : Int}

/-- The digits of a field. -/
def digits (f : WholeField n) : Text := Text.zeros f.zeros ++ Numeral.decimal n.natAbs

/-- The text of a field. -/
def text (f : WholeField n) : Text :=
  Text.spaces f.before ++ (f.sign ++ f.digits) ++ Text.spaces f.behind

/-- The digits of a field are ASCII digits. -/
theorem isDigit_of_mem {f : WholeField n} {c : Char} (member : c ∈ f.digits) :
    c.isDigit = true := by
  rcases List.mem_append.1 member with zero | numeral
  · rw [List.eq_of_mem_replicate zero]
    decide
  · exact Numeral.isDigit_of_mem_decimal numeral

/-- A field has digits. -/
theorem digits_ne_nil (f : WholeField n) : f.digits ≠ [] :=
  List.append_ne_nil_of_right_ne_nil _ (Numeral.decimal_ne_nil n.natAbs)

/-- The digits of a field denote the absolute value. -/
theorem number_digits (f : WholeField n) : Written.number f.digits = n.natAbs := by
  rw [digits, Written.number_zeros, Written.number_decimal]

/-- Trimming leaves the sign and the digits of a field. -/
theorem trim_text (f : WholeField n) : f.text.trim = f.sign ++ f.digits :=
  f.isSign.isSign.trim_spaces f.digits_ne_nil
    (fun _ member => isBlank_of_isDigit (isDigit_of_mem member)) f.before f.behind

/-- The sign and the digits of a field are read as its number. -/
theorem readWhole?_eq {f : WholeField n} (few : f.digits.length ≤ maxDigits) :
    readWhole? (f.sign ++ f.digits) = some n := by
  have decimal : ∀ c ∈ f.digits, isDecimalDigit c = true := fun c member =>
    isDecimalDigit_of_isDigit (isDigit_of_mem member)
  have spelled : SpellsWhole (f.sign ++ f.digits) (n < 0) (f.digits.filterMap digitValue?) :=
    ⟨_, _, rfl, f.isSign.isSign, isDigitRun_of_forall f.digits_ne_nil decimal⟩
  have denoted : Numeral.value (f.digits.filterMap digitValue?) = n.natAbs := f.number_digits
  rw [spelled.readWhole?_eq, length_filterMap_digitValue? decimal, if_pos few, denoted,
    signed_natAbs]

/-- **A field is read as its number**, unless it holds too many digits. -/
theorem ofText_text {f : WholeField n} (few : f.digits.length ≤ maxDigits) :
    Number.ofText f.text = .whole n := by
  rw [Number.ofText, f.trim_text, readWhole?_eq few]

end WholeField

/-! ## Padding makes fields -/

/-- The pieces of a whole number in decimal. -/
def decimalPieces (flags : Flags) (n : Int) : Pieces :=
  ⟨signOf flags (.whole n), [], Numeral.decimal n.natAbs, []⟩

/-- A value that stands for a whole number is written with these pieces in decimal. -/
theorem Value.pieces_decimal {v : Value} {n : Int} (number : v.toNumber = .ok (.whole n))
    (s : Settings) (flags : Flags) (precision : Option Value) :
    v.pieces s ⟨.whole .decimal, false⟩ flags precision = .ok (decimalPieces flags n) := by
  have unmarked : (wholePieces flags .decimal (wholePart (.whole n)))
      = ⟨[], [], Numeral.decimal n.natAbs, []⟩ := by
    simp only [wholePieces, Base.mark, ite_self]
    rfl
  have unsigned : unsignedPieces s (.whole .decimal) flags precision (.whole n)
      = .ok ⟨[], [], Numeral.decimal n.natAbs, []⟩ := by
    rw [← unmarked]
    cases precision <;> rfl
  rw [pieces, number]
  change Number.pieces s ⟨.whole .decimal, false⟩ flags precision (.whole n) = _
  rw [Number.pieces, unsigned]
  rfl

/-- Pieces can be padded to every width of at most `maxDigits` characters. If this takes any
padding, they take up no more than the width with it. -/
theorem Pieces.exists_justify_eq_pad (p : Pieces) (flags : Flags) {width : Int}
    (narrow : width ≤ maxDigits) :
    ∃ padding, p.justify flags width = .ok (p.pad flags padding)
      ∧ (padding = 0 ∨ (p.length + padding : Int) ≤ width) := by
  have bound : (maxDigits : Int) < paddingBound := by decide
  refine ⟨(width - p.length).toNat, ?_, by omega⟩
  rw [justify_eq, if_pos (by omega)]

/-- **Padded pieces are a field.** What was padded adds to its digits at most. -/
theorem exists_wholeField (flags : Flags) (n : Int) (padding : Nat) :
    ∃ f : WholeField n, f.text = (decimalPieces flags n).pad flags padding
      ∧ f.digits.length ≤ (Numeral.decimal n.natAbs).length + padding := by
  obtain ⟨i, sign, written, isSign⟩ := exists_isSignOf flags n
  have joined : (decimalPieces flags n).text
      = Text.spaces i ++ (sign ++ Numeral.decimal n.natAbs) := by
    simp [decimalPieces, Pieces.text, written]
  rw [Pieces.pad]
  by_cases left : flags.left = true
  · refine ⟨⟨i, sign, 0, padding, isSign⟩, ?_, by simp [WholeField.digits]⟩
    simp [left, joined, WholeField.text, WholeField.digits, Text.zeros]
  · rw [if_neg left]
    by_cases zero : flags.zero = true
    · -- the zeros stand between the sign and the numeral, and count as digits
      refine ⟨⟨i, sign, padding, 0, isSign⟩, ?_, by simp [WholeField.digits, Nat.add_comm]⟩
      simp [zero, decimalPieces, written, WholeField.text, WholeField.digits, Text.spaces]
    · refine ⟨⟨padding + i, sign, 0, 0, isSign⟩, ?_, by simp [WholeField.digits]⟩
      simp [zero, joined, WholeField.text, WholeField.digits, Text.spaces, Text.zeros,
        ← List.append_assoc, List.replicate_append_replicate]

/-! ## Directives -/

/-- A template of one directive is formatted to the text of the directive. -/
theorem sprintf_of_directive {s : Settings} {t text : Text} {o : Occurrence} {args : List Value}
    {c : Cursor} (read : readTemplate t = ⟨[.directive o], .finished⟩)
    (run : (o.directive.render s).run (Cursor.ofList args) = (.ok text, c)) :
    (sprintf s (.text t) args).result = .ok text := by
  have template : Template.ofText t = .ok ⟨t, [.directive o], none⟩ :=
    Template.ofText_eq_ok_iff.2 ⟨rfl, read⟩
  have rendered : renderTokens s [.directive o] (Cursor.ofList args) = ⟨[text], c, none⟩ :=
    renderTokens_cons_of_ok [] (show ((Token.directive o).render s).run _ = _ from run)
  rw [sprintf, format_of_complete template rfl (by rw [rendered]), rendered]
  simp [Progress.text]

/-- What a decimal directive writes for a number of at most `maxDigits` digits, in a field of at
most `maxDigits` characters, reads back as the number. -/
theorem Directive.field_reads_back {s : Settings} {d : Directive} {width precision v : Value}
    {w p : Option Int} {n : Int} (decimal : d.specifier.role = .number ⟨.whole .decimal, false⟩)
    (widthNumber : d.width.number width = .ok w)
    (precisionNumber : d.precision.number precision = .ok p) (number : v.toNumber = .ok (.whole n))
    (narrow : w.getD 0 ≤ maxDigits) (few : n.natAbs < pow10 maxDigits) :
    ∃ text, d.field s width precision v = .ok text
      ∧ (Value.text text).toNumber = .ok (.whole n) := by
  have converted : d.convert s (p.filter (0 ≤ ·)) v = .ok (decimalPieces d.flags n) := by
    rw [convert, decimal]
    exact Value.pieces_decimal number s d.flags _
  have digits : (Numeral.decimal n.natAbs).length ≤ maxDigits :=
    (Numeral.length_decimal_le_iff (by decide)).2 few
  obtain ⟨padding, justified, fits⟩ :=
    (decimalPieces d.flags n).exists_justify_eq_pad d.flags narrow
  obtain ⟨f, text, length⟩ := exists_wholeField d.flags n padding
  refine ⟨f.text, field_eq_ok_iff.2 ⟨w, widthNumber, p, precisionNumber, ?_⟩, ?_⟩
  · rw [padded, converted, text]
    change (if d.specifier.role = .ignored then _ else _) = _
    rw [if_neg (by rw [decimal]; simp)]
    exact justified
  · -- padded digits take up no more than the width, and others are those of the numeral
    have numeral : (Numeral.decimal n.natAbs).length ≤ (decimalPieces d.flags n).length := by
      simp [decimalPieces, Pieces.length]
    have short : f.digits.length ≤ maxDigits := by omega
    exact congrArg Except.ok (WholeField.ofText_text short)

/-- A width of at most `maxDigits` characters, with the values that it takes. -/
inductive Parameter.Narrow : Parameter → List Value → Prop where
  /-- No width. -/
  | absent : Narrow .absent []
  /-- A width that is given in the directive. -/
  | given {k : Nat} (positive : 1 ≤ k) (bound : k ≤ maxDigits) : Narrow (.given k) []
  /-- A width that is the next argument; it may be negative. -/
  | fromArgument {w : Int} (bound : w ≤ maxDigits) : Narrow .fromArgument [.whole w]

/-- A narrow width takes its values, and is a number of few characters for them. -/
theorem Parameter.Narrow.exists_number {p : Parameter} {before : List Value}
    (narrow : p.Narrow before) (rest : List Value) :
    before.length = p.demand
      ∧ ∃ w, p.number ((before ++ rest).getD 0 .missing) = .ok w ∧ w.getD 0 ≤ maxDigits := by
  cases narrow with
  | absent => exact ⟨rfl, none, rfl, by decide⟩
  | given positive bound => exact ⟨rfl, some _, rfl, Int.ofNat_le.2 bound⟩
  | fromArgument bound => exact ⟨rfl, some _, rfl, bound⟩

namespace Directive

/-- The specifiers of decimal whole numbers. -/
def IsDecimal (d : Directive) : Prop :=
  d.specifier = .decimal ∨ d.specifier = .integer ∨ d.specifier = .unsigned

/-- These specifiers write a number as a whole one in decimal. -/
theorem IsDecimal.role {d : Directive} (decimal : d.IsDecimal) :
    d.specifier.role = .number ⟨.whole .decimal, false⟩ := by
  rcases decimal with specifier | specifier | specifier <;> rw [specifier] <;> rfl

variable {d : Directive} {before : List Value} {n : Int}

/-- A decimal directive is rendered to a text that reads back, for the values that are left. -/
theorem exists_run_render (s : Settings) (decimal : d.IsDecimal) (narrow : d.width.Narrow before)
    (plain : d.precision = .absent) (few : n.natAbs < pow10 maxDigits) {c : Cursor}
    {rest : List Value} (left : c.left = before ++ .whole n :: rest) :
    ∃ text, (d.render s).run c = (.ok text, c.advance d.demand)
      ∧ (Value.text text).toNumber = .ok (.whole n) := by
  obtain ⟨taken, w, width, bound⟩ := narrow.exists_number (.whole n :: rest)
  have precision (v : Value) : d.precision.number v = .ok none := by rw [plain]; rfl
  have none : d.precision.demand = 0 := by rw [plain]; rfl
  have own : c.valueAt (c.consumed + d.width.demand + d.precision.demand) = .whole n := by
    rw [none, Nat.add_zero, c.valueAt_add, left, ← taken]
    simp
  have first : c.valueAt c.consumed = (before ++ .whole n :: rest).getD 0 .missing := by
    rw [← left]
    exact c.valueAt_add 0
  rw [← first] at width
  obtain ⟨text, field, reads⟩ := field_reads_back (s := s) decimal.role width
    (precision (c.valueAt (c.consumed + d.width.demand))) (v := .whole n) rfl bound few
  refine ⟨text, ?_, reads⟩
  rw [run_render, own, field, taken_of_field_eq_ok field]

/-- **Fields of whole numbers read back.** In any template, a decimal directive of any flags and any
narrow width, without a precision, writes a text for a whole number of at most `maxDigits` digits,
and this text stands for just that number. The text of such a directive, however it is spelled, is
a template by itself that is formatted to such a text. -/
theorem toNumber_render (s : Settings) (decimal : d.IsDecimal) (narrow : d.width.Narrow before)
    (plain : d.precision = .absent) (few : n.natAbs < pow10 maxDigits) :
    (∀ c rest, c.left = before ++ .whole n :: rest →
      ∃ text, (d.render s).run c = (.ok text, c.advance d.demand)
        ∧ (Value.text text).toNumber = .ok (.whole n))
    ∧ ∀ spelling : Spelling, spelling.Grammatical → spelling.canonical.Short →
      spelling.canonical.denoted = d →
      ∃ text, (sprintf s (.text spelling.text) (before ++ [.whole n])).result = .ok text
        ∧ (Value.text text).toNumber = .ok (.whole n) := by
  refine ⟨fun c rest left => exists_run_render s decimal narrow plain few left,
    fun spelling allowed short denoted => ?_⟩
  -- the text is a template of this directive alone
  have read := readTemplate_append_directive .nil (numbersShort_of_length_le (Nat.zero_le _))
    allowed short
  have empty : (readTemplate []).tokens = [] := by rw [readTemplate, readFrom_nil]
  rw [denoted, empty, List.nil_append] at read
  obtain ⟨text, run, reads⟩ := exists_run_render s decimal narrow plain few
    (Cursor.left_ofList (before ++ [.whole n]))
  exact ⟨text, sprintf_of_directive read run, reads⟩

/-- Zeros up to a width that is given by an argument, behind a minus sign. -/
theorem toNumber_render_zeros :
    let spelling : Spelling := ⟨['+', '0'], .star, .absent, none, .decimal⟩
    let d : Directive := ⟨Flags.ofText ['+', '0'], .fromArgument, .absent, none, .decimal⟩
    let c := Cursor.ofList [.whole 6, .whole (-42), .null]
    spelling.text = Text.ofString "%+0*d"
      ∧ (d.render Settings.initial).run c = (.ok (Text.ofString "-00042"), c.advance 2)
      ∧ (Value.text (Text.ofString "-00042")).toNumber = .ok (.whole (-42))
      ∧ ∃ text, (sprintf Settings.initial (.text spelling.text) [.whole 6, .whole (-42)]).result
          = .ok text
        ∧ (Value.text text).toNumber = .ok (.whole (-42)) := by
  intro spelling d c
  have few : (-42 : Int).natAbs < pow10 maxDigits :=
    Nat.lt_of_lt_of_le (by decide) (pow10_le_pow10 (show 2 ≤ maxDigits by decide))
  have narrow : d.width.Narrow [.whole 6] := .fromArgument (by decide)
  have allowed : spelling.Grammatical := ⟨by simp [spelling, Flags.letters], trivial, trivial⟩
  obtain ⟨rendered, spelled⟩ := toNumber_render (d := d) Settings.initial (.inl rfl) narrow rfl few
  obtain ⟨text, run, reads⟩ := rendered c [.null] (Cursor.left_ofList _)
  have pieces : decimalPieces d.flags (-42) = ⟨['-'], [], ['4', '2'], []⟩ := by
    simp only [decimalPieces, Numeral.decimal_eq_inBase]
    decide
  have converted := Value.pieces_decimal (v := .whole (-42)) rfl Settings.initial d.flags none
  rw [pieces] at converted
  have field : d.padded Settings.initial (some 6) none (.whole (-42))
      = .ok (Text.ofString "-00042") := by
    change (Value.pieces _ _ _ none _ >>= _) = _
    rw [converted]
    rfl
  have written : d.field Settings.initial (.whole 6) (.whole (-42)) (.whole (-42))
      = .ok (Text.ofString "-00042") := field_eq_ok_iff.2 ⟨some 6, rfl, none, rfl, field⟩
  have whole : (d.render Settings.initial).run c = (.ok (Text.ofString "-00042"), c.advance 2) := by
    rw [run_render]
    exact Prod.ext written rfl
  rw [whole] at run
  obtain rfl := Except.ok.inj (Prod.mk.inj run).1
  exact ⟨by decide, whole, reads, spelled spelling allowed ⟨trivial, trivial⟩ rfl⟩

end Directive

end PercentFormat
