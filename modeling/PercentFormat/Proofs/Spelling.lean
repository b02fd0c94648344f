import PercentFormat.Proofs.Numerals
import PercentFormat.Proofs.Reading

/-! # What a written directive stands for

A width or a precision stands for the number that its digits denote by their places, whatever
scripts they are from. The ASCII zeros in front of a width are flags and no digits of it. A
directive that is written behind a well-formed text is read as one token, with the parts that were
written.

* **`Written.denoted`**, **`Spelling.denoted`** — what is denoted by the parts of a directive.
* **`Spelling.directive?_eq`** — a short spelling stands for what its parts denote.
* **`readTemplate_append_directive`** — a directive behind a well-formed text is read as one token.
* **`Parameter.written`**, **`Spelling.ofParts`** — the parts of a directive, written in decimal.
* **`readTemplate_append_spelling`** — the parts of a directive are read back. -/

namespace PercentFormat

/-! ## Denoted directives -/

/-- What a width or a precision **denotes**. A run of digits denotes the sum of their values, each
times the power of ten of its place. -/
def Written.denoted : Written → Parameter
  | absent => .absent
  | star => .fromArgument
  | digits run => .given (Nat.ofDigits 10 (run.filterMap digitValue?).reverse)

/-- The directive that the parts of a spelling denote, taken as they are. -/
def Spelling.denoted (s : Spelling) : Directive :=
  ⟨Flags.ofText s.flags, s.width.denoted, s.precision.denoted, s.length, s.specifier⟩

/-- A short width or precision stands for what it denotes. -/
theorem Written.parameter?_eq {w : Written} (short : w.Short) : w.parameter? = some w.denoted := by
  cases w with
  | absent => rfl
  | star => rfl
  | digits run =>
    have few : run.length ≤ maxDigits := short
    rw [parameter?, if_pos few, number, Numeral.value_eq_ofDigits, denoted]

/-- A short spelling stands for the directive that its parts denote. -/
theorem Spelling.directive?_eq {s : Spelling} (short : s.Short) :
    s.directive? = some s.denoted := by
  rw [directive?, Written.parameter?_eq short.1, Written.parameter?_eq short.2]
  rfl

/-! ## Directives behind a text -/

/-- A directive behind other tokens is joined to none of them. -/
theorem joinTokens_directive (tokens : List Token) (o : Occurrence) :
    joinTokens tokens [.directive o] = tokens ++ [.directive o] := by
  induction tokens with
  | nil => rfl
  | cons token tokens ih =>
    by_cases more : tokens = []
    · subst more
      cases token <;> rfl
    · rw [joinTokens_cons_of_ne_nil token more, ih, List.cons_append]

/-- **A directive behind a well-formed text** is read as one token. Zeros in front of its width are
flags, and its width and its precision are what the remaining digits denote. -/
theorem readTemplate_append_directive {u : Text} {s : Spelling} (first : WellFormed u)
    (short : NumbersShort u) (allowed : s.Grammatical) (few : s.canonical.Short) :
    readTemplate (u ++ s.text)
      = ⟨(readTemplate u).tokens ++ [.directive ⟨s.canonical.denoted, s.text, u.length,
          u.length + s.text.length⟩], .finished⟩ := by
  have done := first.finished short u 0
  have valid := allowed.valid_canonical
  -- the text is that of the canonical spelling, which is scanned back whole
  have last : readFrom (u ++ s.text) (0 + u.length) s.text
      = ⟨[.directive ⟨s.canonical.denoted, s.text, u.length, u.length + s.text.length⟩],
          .finished⟩ := by
    have read := readFrom_directive_append valid (Spelling.directive?_eq few) (u ++ s.text)
      (0 + u.length) []
    rw [List.append_nil, s.text_canonical, readFrom_nil, Nat.zero_add] at read
    rw [Nat.zero_add]
    exact read
  rw [readTemplate, readFrom_append done, last, joinTokens_directive]
  rfl

/-! ## Directives written in decimal -/

/-- A width or a precision as it is written: a number by its canonical decimal numeral. -/
def Parameter.written : Parameter → Written
  | absent => .absent
  | given n => .digits (Numeral.decimal n)
  | fromArgument => .star

/-- The spelling of a directive with a run of flags, and with numbers in decimal. -/
def Spelling.ofParts (flags : Text) (width precision : Parameter) (length : Option Length)
    (specifier : Specifier) : Spelling :=
  ⟨flags, width.written, precision.written, length, specifier⟩

/-- A number below a bound, if the width or the precision is given by one. -/
def Parameter.Below (bound : Nat) : Parameter → Prop
  | given n => n < bound
  | _ => True

/-- A width or a precision in decimal may be written. -/
theorem Parameter.valid_written (p : Parameter) : p.written.Valid := by
  cases p with
  | absent => trivial
  | given n => exact Written.valid_decimal n
  | fromArgument => trivial

/-- Decimal numerals of numbers below the bound are short. -/
theorem Parameter.short_written {p : Parameter} (below : p.Below (pow10 maxDigits)) :
    p.written.Short := by
  cases p with
  | absent => trivial
  | given n => exact (Numeral.length_decimal_le_iff (by decide)).2 below
  | fromArgument => trivial

/-- A width or a precision in decimal denotes itself. -/
theorem Parameter.denoted_written (p : Parameter) : p.written.denoted = p := by
  cases p with
  | absent => rfl
  | given n =>
    rw [written, Written.denoted, ← Numeral.value_eq_ofDigits]
    exact congrArg given (Written.number_decimal n)
  | fromArgument => rfl

/-- A width in decimal starts with no zero unless it is zero. -/
theorem Parameter.head?_written {p : Parameter} (positive : p ≠ .given 0) :
    p.written.text.head? ≠ some '0' := by
  cases p with
  | absent => simp [written]
  | given n =>
    refine Numeral.head?_decimal (Nat.pos_of_ne_zero fun zero => positive ?_)
    rw [zero]
  | fromArgument => simp [written]

namespace Spelling

variable {flags : Text} {width precision : Parameter}

/-- A run of flags and numbers in decimal make up a valid spelling. -/
theorem valid_ofParts (letters : ∀ c ∈ flags, c ∈ Flags.letters) (positive : width ≠ .given 0)
    (precision : Parameter) (length : Option Length) (specifier : Specifier) :
    (ofParts flags width precision length specifier).Valid where
  flags := letters
  width := width.valid_written
  precision := precision.valid_written
  widthHead := Parameter.head?_written positive

/-- Decimal numerals of numbers below the bound make up a short spelling. -/
theorem short_ofParts (widthBelow : width.Below (pow10 maxDigits))
    (precisionBelow : precision.Below (pow10 maxDigits)) (flags : Text) (length : Option Length)
    (specifier : Specifier) : (ofParts flags width precision length specifier).Short :=
  ⟨Parameter.short_written widthBelow, Parameter.short_written precisionBelow⟩

/-- The parts of a directive, written in decimal, denote themselves. -/
theorem denoted_ofParts (flags : Text) (width precision : Parameter) (length : Option Length)
    (specifier : Specifier) :
    (ofParts flags width precision length specifier).denoted
      = ⟨Flags.ofText flags, width, precision, length, specifier⟩ := by
  rw [denoted, ofParts, width.denoted_written, precision.denoted_written]

/-- No zeros are left to be taken for flags in a valid spelling. -/
theorem canonical_of_valid {s : Spelling} (valid : s.Valid) : s.canonical = s := by
  have scanned := scan?_text_append valid []
  have again := scan?_text_append valid.valid_canonical []
  rw [s.text_canonical, scanned] at again
  exact (Prod.mk.inj (Option.some.inj again)).1.symm

end Spelling

/-- **The parts of a directive are read back.** Behind a well-formed text with short numbers, or
alone, a run of flags, a positive width, a precision, a length modifier and a specifier, with
numbers of few digits written in decimal, are read as one directive with just these parts. Where the
width and the precision are written with decimal digits of any scripts, they are read as what the
digits denote by their places, and ASCII zeros in front of the width as flags. -/
theorem readTemplate_append_spelling {u : Text} (first : WellFormed u) (short : NumbersShort u) :
    (∀ flags width precision length specifier, (∀ c ∈ flags, c ∈ Flags.letters) →
      width ≠ .given 0 → width.Below (pow10 maxDigits) → precision.Below (pow10 maxDigits) →
      readTemplate (u ++ (Spelling.ofParts flags width precision length specifier).text)
        = ⟨(readTemplate u).tokens
            ++ [.directive ⟨⟨Flags.ofText flags, width, precision, length, specifier⟩,
              (Spelling.ofParts flags width precision length specifier).text, u.length,
              u.length + (Spelling.ofParts flags width precision length specifier).text.length⟩],
          .finished⟩)
    ∧ ∀ s : Spelling, s.Grammatical → s.canonical.Short →
      readTemplate (u ++ s.text)
        = ⟨(readTemplate u).tokens ++ [.directive ⟨s.canonical.denoted, s.text, u.length,
            u.length + s.text.length⟩], .finished⟩ := by
  constructor
  · intro flags width precision length specifier letters positive widthBelow precisionBelow
    have valid := Spelling.valid_ofParts letters positive precision length specifier
    have few := Spelling.short_ofParts widthBelow precisionBelow flags length specifier
    have same := Spelling.canonical_of_valid valid
    have read := readTemplate_append_directive first short valid.toGrammatical
      (by rw [same]; exact few)
    rw [same, Spelling.denoted_ofParts] at read
    exact read
  · intro s allowed few
    exact readTemplate_append_directive first short allowed few

/-- Flags in any order behind a percent sign, and a width of digits from two scripts. -/
theorem readTemplate_append_spelling_two_scripts :
    let u := Text.ofString "a%%"
    let percent : Occurrence :=
      ⟨⟨Flags.ofText [], .absent, .absent, none, .percent⟩, Text.ofString "%%", 1, 3⟩
    let s : Spelling := ⟨[], .digits ['0', '\u0663', '0'], .digits ['0', '2'], none, .fixed⟩
    readTemplate (u ++ Text.ofString "%0-012.*lf")
        = ⟨[.literal ['a'], .directive percent,
            .directive ⟨⟨Flags.ofText ['0', '-'], .given 12, .fromArgument, some .long, .fixed⟩,
              Text.ofString "%0-012.*lf", 3, 13⟩], .finished⟩
      ∧ readTemplate (u ++ s.text)
        = ⟨[.literal ['a'], .directive percent,
            .directive ⟨⟨Flags.ofText ['0'], .given 30, .given 2, none, .fixed⟩, s.text, 3, 11⟩],
          .finished⟩ := by
  intro u percent s
  have first : WellFormed u := (unread_eq_nil_iff u).1 (by cbv)
  have short : NumbersShort u := numbersShort_of_length_le (by decide)
  have before : (readTemplate u).tokens = [.literal ['a'], .directive percent] := by cbv
  obtain ⟨decimal, scripts⟩ := readTemplate_append_spelling first short
  rw [before] at decimal scripts
  have text : (Spelling.ofParts ['0', '-', '0'] (.given 12) .fromArgument (some .long) .fixed).text
      = Text.ofString "%0-012.*lf" := by
    simp only [Spelling.ofParts, Parameter.written, Numeral.decimal_eq_inBase]
    decide
  have below : 12 < pow10 maxDigits :=
    Nat.lt_of_lt_of_le (by decide) (pow10_le_pow10 (show 2 ≤ maxDigits by decide))
  have read := decimal ['0', '-', '0'] (.given 12) .fromArgument (some .long) .fixed
    (by simp [Flags.letters]) (by simp) below trivial
  rw [text] at read
  have allowed : s.Grammatical :=
    ⟨by simp [s], ⟨by simp, List.all_eq_true.1 (by decide)⟩,
      ⟨by simp, List.all_eq_true.1 (by decide)⟩⟩
  have few : s.canonical.Short :=
    ⟨show 2 ≤ maxDigits by decide, show 2 ≤ maxDigits by decide⟩
  exact ⟨read, scripts s allowed few⟩

/-- Behind a well-formed text with a precision of too many digits no directive is read. -/
theorem readTemplate_append_spelling_long :
    let long : Spelling := ⟨[], .absent, .digits (Text.zeros maxDigits ++ ['1']), none, .decimal⟩
    let u := long.text
    let d := (Spelling.ofParts [] .absent .absent none .decimal).text
    WellFormed u ∧ readTemplate (u ++ d) = ⟨[], .tooManyDigits⟩ := by
  intro long u d
  have digits : ∀ c ∈ Text.zeros maxDigits ++ ['1'], isDecimalDigit c = true := by
    intro c member
    rcases List.mem_append.1 member with zero | one
    · rw [List.eq_of_mem_replicate zero]
      decide
    · rw [List.mem_singleton.1 one]
      decide
  have valid : long.Valid := ⟨⟨by simp [long], trivial, ⟨by simp, digits⟩⟩, by simp [long]⟩
  have unknown : long.directive? = none := by
    have many : ¬ (Text.zeros maxDigits ++ ['1']).length ≤ maxDigits := by
      rw [List.length_append, Text.length_zeros, List.length_singleton]
      omega
    simp only [long, Spelling.directive?, Written.parameter?, if_neg many]
  constructor
  · rw [← List.append_nil u]
    exact .directive valid.isDirective .nil
  · exact readFrom_tooManyDigits_append valid unknown (u ++ d) 0 d

end PercentFormat
