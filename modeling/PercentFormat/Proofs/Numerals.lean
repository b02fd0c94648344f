import Mathlib
import PercentFormat.Directive.Grammar

/-! # Decimal numerals and what they denote

The decimal numeral of a number is a run of ASCII digits. It is no longer than the number demands,
it starts with no zero unless the number is zero, and a reader of digits gets the number back. There
is no other text of which this holds, however the numeral was put together.

* **`Numeral.length_decimal_le_iff`** — the numbers of few digits.
* **`Numeral.head?_decimal`** — no zero stands at the front of a numeral.
* **`Numeral.value_eq_ofDigits`** — digits count by their places.
* **`Written.number_decimal`** — a numeral denotes its number.
* **`Numeral.IsCanonical`** — the canonical numeral of a number in a base, said by its digits.
* **`Numeral.decimal_iff_isCanonical`** — the decimal numeral is the canonical one, also where it is
  made up of blocks. -/

namespace PercentFormat

namespace Numeral

/-- A decimal numeral holds ASCII digits only. -/
theorem isDigit_of_mem_decimal {n : Nat} {c : Char} (member : c ∈ decimal n) :
    c.isDigit = true := by
  rw [decimal_eq_inBase] at member
  exact Nat.isDigit_of_mem_toDigits (by decide) (by decide) member

/-- A decimal numeral is not empty. -/
theorem decimal_ne_nil (n : Nat) : decimal n ≠ [] := by
  rw [decimal_eq_inBase]
  exact Nat.toDigits_ne_nil

/-- The numbers whose numerals have at most `k` digits are those below `10 ^ k`. -/
theorem length_decimal_le_iff {n k : Nat} (positive : 0 < k) :
    (decimal n).length ≤ k ↔ n < pow10 k := by
  rw [decimal_eq_inBase]
  exact Nat.length_toDigits_le_iff (by decide) positive

/-- The numeral of a number with several digits starts like that of its high part. -/
theorem head?_decimal_div {n : Nat} (several : 10 ≤ n) :
    (decimal n).head? = (decimal (n / 10)).head? := by
  have digits := Nat.toDigits_of_base_le (show 1 < 10 by decide) several
  rw [decimal_eq_inBase, decimal_eq_inBase, inBase, digits, List.head?_append_of_ne_nil]
  · rfl
  · exact Nat.toDigits_ne_nil

/-- No zero stands at the front of the numeral of a number other than zero. -/
theorem head?_decimal {n : Nat} (positive : 0 < n) : (decimal n).head? ≠ some '0' := by
  induction n using Nat.strongRecOn with
  | _ n ih =>
    by_cases several : 10 ≤ n
    · rw [head?_decimal_div several]
      exact ih (n / 10) (by omega) (by omega)
    · -- one digit is left, and it is none of the smaller ones
      have single : n < 10 := Nat.lt_of_not_le several
      rw [decimal_eq_inBase, inBase, Nat.toDigits_of_lt_base single]
      interval_cases n <;> decide

/-- Digits denote the sum of their values, each times the power of ten of its place. -/
theorem value_eq_ofDigits (digits : List Nat) : value digits = Nat.ofDigits 10 digits.reverse := by
  induction digits using List.reverseRecOn with
  | nil => rfl
  | append_singleton digits d ih =>
    rw [value_concat, ih, List.reverse_append, List.reverse_singleton, List.singleton_append,
      Nat.ofDigits_cons]
    omega

end Numeral

namespace Written

/-- A run of ASCII digits denotes the number that it is the numeral of. -/
theorem number_eq_ofDigitChars {run : Text} (ascii : ∀ c ∈ run, c.isDigit = true) :
    number run = Nat.ofDigitChars 10 run 0 := by
  induction run using List.reverseRecOn with
  | nil => rfl
  | append_singleton run c ih =>
    have last : digitValue? c = some (c.toNat - 48) :=
      digitValue?_of_isDigit c (ascii c (by simp))
    have before := ih fun d member => ascii d (by simp [member])
    rw [number] at before ⊢
    rw [List.filterMap_append, List.filterMap_cons_some last, List.filterMap_nil,
      Numeral.value_concat, before]
    simp [Nat.ofDigitChars]

/-- A decimal numeral denotes its number. -/
theorem number_decimal (n : Nat) : number (Numeral.decimal n) = n := by
  rw [number_eq_ofDigitChars fun c => Numeral.isDigit_of_mem_decimal, Numeral.decimal_eq_inBase]
  exact Nat.ofDigitChars_toDigits (by decide) (by decide)

end Written

/-- An ASCII digit is a decimal digit. -/
theorem isDecimalDigit_of_isDigit {c : Char} (ascii : c.isDigit = true) :
    isDecimalDigit c = true := by
  rw [isDecimalDigit, digitValue?_of_isDigit c ascii]
  rfl

/-- A numeral may be written as a width or a precision. -/
theorem Written.valid_decimal (n : Nat) : (digits (Numeral.decimal n)).Valid :=
  ⟨Numeral.decimal_ne_nil n, fun _ member =>
    isDecimalDigit_of_isDigit (Numeral.isDigit_of_mem_decimal member)⟩

/-! ## Canonical numerals -/

namespace Numeral

/-- Digit values, the most significant one first, **make up** a number in a base if they denote it
by their places, and no zero stands in front of others. -/
structure MakeUp (base n : Nat) (digits : List Nat) : Prop where
  /-- There is a digit. -/
  nonempty : digits ≠ []
  /-- All digits are below the base. -/
  below : ∀ d ∈ digits, d < base
  /-- A zero in front is the only digit. -/
  head : digits.head? = some 0 → digits = [0]
  /-- The number is the sum of the digits, each times the power of the base of its place. -/
  value : Nat.ofDigits base digits.reverse = n

/-- A text **is the canonical numeral** of a number in a base of at most sixteen if its characters
are the digits that make up the number. -/
def IsCanonical (base n : Nat) (t : Text) : Prop :=
  ∃ digits, MakeUp base n digits ∧ t = digits.map Nat.digitChar

variable {base n : Nat}

/-- The digits of a positive number are the remainders that are left when it is divided by the base
again and again. -/
theorem MakeUp.reverse_eq {digits : List Nat} (makeUp : MakeUp base n digits) (one : 1 < base)
    (head : digits.head? ≠ some 0) : digits.reverse = Nat.digits base n := by
  have below : ∀ d ∈ digits.reverse, d < base := fun d member =>
    makeUp.below d (List.mem_reverse.1 member)
  have last (nonempty : digits.reverse ≠ []) : digits.reverse.getLast nonempty ≠ 0 := by
    intro zero
    rw [List.getLast_reverse] at zero
    refine head ?_
    rw [List.head?_eq_some_head makeUp.nonempty, zero]
  rw [← makeUp.value, Nat.digits_ofDigits base one _ below last]

/-- A number is made up of its digits in one way only. -/
theorem MakeUp.unique {digits others : List Nat} (one : 1 < base) (first : MakeUp base n digits)
    (second : MakeUp base n others) : digits = others := by
  -- digits with a zero in front make up zero, and no others do
  have zero {digits : List Nat} (makeUp : MakeUp base n digits) :
      digits.head? = some 0 ↔ n = 0 := by
    constructor
    · intro head
      rw [← makeUp.value, makeUp.head head]
      rfl
    · rintro rfl
      by_contra head
      have none := makeUp.reverse_eq one head
      rw [Nat.digits_zero, List.reverse_eq_nil_iff] at none
      exact makeUp.nonempty none
  by_cases head : n = 0
  · rw [first.head ((zero first).2 head), second.head ((zero second).2 head)]
  · rw [← List.reverse_inj, first.reverse_eq one ((zero first).not.2 head),
      second.reverse_eq one ((zero second).not.2 head)]

/-- The numeral in a base is canonical. -/
theorem isCanonical_inBase (one : 1 < base) (n : Nat) : IsCanonical base n (inBase base n) := by
  induction n using Nat.strongRecOn with
  | _ n ih =>
    by_cases single : n < base
    · refine ⟨[n], ⟨by simp, by simpa using single, by simp, by simp⟩, ?_⟩
      rw [inBase, Nat.toDigits_of_lt_base single, List.map_singleton]
    · -- the last digit stands behind those of the high part, which is not zero
      have several : base ≤ n := Nat.le_of_not_lt single
      have high : 0 < n / base := Nat.div_pos several (by omega)
      obtain ⟨digits, makeUp, text⟩ := ih (n / base) (Nat.div_lt_self (by omega) one)
      refine ⟨digits ++ [n % base], ⟨by simp, ?_, ?_, ?_⟩, ?_⟩
      · intro d member
        rcases List.mem_append.1 member with before | last
        · exact makeUp.below d before
        · rw [List.mem_singleton.1 last]
          exact Nat.mod_lt n (by omega)
      · intro zero
        rw [List.head?_append_of_ne_nil _ makeUp.nonempty] at zero
        have none := makeUp.value
        rw [makeUp.head zero] at none
        exact absurd none (Nat.ne_of_lt high)
      · rw [List.reverse_append, List.reverse_singleton, List.singleton_append, Nat.ofDigits_cons,
          makeUp.value]
        exact Nat.mod_add_div n base
      · rw [inBase, Nat.toDigits_of_base_le one several, List.map_append, List.map_singleton,
          ← text]
        rfl

/-- The canonical numeral of a number in a base is the only one. -/
theorem isCanonical_iff (one : 1 < base) {t : Text} :
    IsCanonical base n t ↔ t = inBase base n := by
  constructor
  · rintro ⟨digits, makeUp, rfl⟩
    obtain ⟨others, makeUp', text⟩ := isCanonical_inBase one n
    rw [text, makeUp.unique one makeUp']
  · rintro rfl
    exact isCanonical_inBase one n

/-- **The decimal numeral of a number**, however many digits it has, consists of ASCII digits, and
it is the canonical numeral and the only one. The blocks of a positive number make up the same
numeral, whatever zeros they hold or start with. -/
theorem decimal_iff_isCanonical (n : Nat) :
    (∀ c ∈ decimal n, c.isDigit = true) ∧ (∀ t, IsCanonical 10 n t ↔ t = decimal n)
      ∧ (0 < n → ofBlocks (divideOff [] n) = decimal n) := by
  refine ⟨fun c => isDigit_of_mem_decimal, fun t => ?_, fun positive => ?_⟩
  · rw [decimal_eq_inBase]
    exact isCanonical_iff (by decide)
  · rw [decimal_eq_inBase]
    exact ofBlocks_divideOff_nil positive

/-- A number of 5001 digits. Its inner blocks are zero, and its lowest one starts with zeros. -/
theorem decimal_iff_isCanonical_inner_zeros :
    let n := pow10 5000 + 7
    tooLong n = true ∧ ofBlocks (divideOff [] n) = '1' :: Text.zeros 4999 ++ ['7']
      ∧ IsCanonical 10 n ('1' :: Text.zeros 4999 ++ ['7']) := by
  intro n
  have long : pow10 maxDigits ≤ n :=
    Nat.le_trans (pow10_le_pow10 (by decide)) (Nat.le_add_right _ 7)
  have numeral : decimal n = '1' :: Text.zeros 4999 ++ ['7'] := by
    have low : 7 < pow10 5000 :=
      Nat.lt_of_lt_of_le (by decide) (pow10_le_pow10 (show 1 ≤ 5000 by decide))
    have digits := inBase_append_padded (show 0 < 5000 by decide) Nat.one_pos low
    rw [Nat.one_mul] at digits
    rw [decimal_eq_inBase, digits]
    rfl
  obtain ⟨-, canonical, blocks⟩ := decimal_iff_isCanonical n
  refine ⟨decide_eq_true long, ?_, (canonical _).2 numeral.symm⟩
  rw [blocks (Nat.lt_of_lt_of_le (pow10_pos maxDigits) long), numeral]

end Numeral

end PercentFormat
