import PercentFormat.Number
import PercentFormat.Unicode.Blank
import PercentFormat.Unicode.DecimalDigit

/-! # Reading numbers from text

A text is read as a whole number if it is one of at most `maxDigits` digits, else as a double,
and what is neither is not a number. Digits of every script count, and a single underscore may
stand between two digits.

* **`readDigits`** — the run of digits at the front of a text.
* **`readWhole?`** — a whole number: a sign and digits.
* **`readDouble?`** — a double: a sign, digits with a decimal point, an exponent; or the name of
  an infinity or of what is not a number.
* **`Number.ofText`** — the number that a text denotes. -/

namespace PercentFormat

/-! ## Runs of digits -/

/-- The digits that continue a run, each possibly after one underscore, and what follows. -/
def readDigitsAfter : Text → List Nat × Text
  | [] => ([], [])
  | [c] =>
    match digitValue? c with
    | some d => ([d], [])
    | none => ([], [c])
  | c :: next :: rest =>
    match digitValue? c with
    | some d =>
      let (digits, left) := readDigitsAfter (next :: rest)
      (d :: digits, left)
    | none =>
      -- an underscore belongs to the run only if a digit follows
      match if c = '_' then digitValue? next else none with
      | some d =>
        let (digits, left) := readDigitsAfter rest
        (d :: digits, left)
      | none => ([], c :: next :: rest)

/-- The run of digits at the front of a text, and what follows it. A run starts with a digit. -/
def readDigits : Text → List Nat × Text
  | [] => ([], [])
  | c :: rest =>
    match digitValue? c with
    | some d =>
      let (digits, left) := readDigitsAfter rest
      (d :: digits, left)
    | none => ([], c :: rest)

/-- The sign at the front of a text, true for a minus, and what follows it. -/
def readSign : Text → Bool × Text
  | '-' :: rest => (true, rest)
  | '+' :: rest => (false, rest)
  | t => (false, t)

/-! ## Whole numbers -/

/-- A whole number with the given sign. -/
def signed (negative : Bool) (n : Nat) : Int := if negative then -(n : Int) else n

/-- The whole number that a text denotes, when it is one with at most `maxDigits` digits. -/
def readWhole? (t : Text) : Option Int :=
  let (negative, rest) := readSign t
  match readDigits rest with
  | ([], _) => none
  | (digits, []) =>
    if digits.length ≤ maxDigits then some (signed negative (Numeral.value digits)) else none
  | (_, _ :: _) => none

/-! ## Doubles -/

/-- The fraction at the front of a text: a point and the digits behind it, if any. The result
is nothing where there is no point. -/
def readFraction? : Text → Option (List Nat × Text)
  | '.' :: rest => some (readDigits rest)
  | _ => none

/-- The exponent that makes up a whole text; the empty text stands for zero. -/
def readExponent? : Text → Option Int
  | [] => some 0
  | c :: rest =>
    if c = 'e' ∨ c = 'E' then
      let (negative, rest) := readSign rest
      match readDigits rest with
      | (d :: digits, []) => some (signed negative (Numeral.value (d :: digits)))
      | _ => none
    else none

/-- The digits of an unsigned decimal as one number, with its power of ten. There must be a
digit before or behind the point. -/
def readDecimal? (t : Text) : Option Decimal :=
  let (whole, rest) := readDigits t
  let (fraction, rest) := (readFraction? rest).getD ([], rest)
  if whole = [] ∧ fraction = [] then none
  else (readExponent? rest).map fun exponent =>
    ⟨Numeral.value (whole ++ fraction), exponent - fraction.length⟩

/-- The names of what is not finite, in any case. -/
def readName? (negative : Bool) (t : Text) : Option Double :=
  let name := t.map Char.toLower
  if name = Text.ofString "nan" then some .nan
  else if name = Text.ofString "inf" ∨ name = Text.ofString "infinity" then
    some (.infinite negative)
  else none

/-- The double that a text denotes. -/
def readDouble? (t : Text) : Option Double :=
  let (negative, rest) := readSign t
  match readName? negative rest with
  | some x => some x
  | none => (readDecimal? rest).map fun d => Double.ofDecimal negative d.digits d.exponent

/-- The number that a text denotes, blanks at its ends left aside. -/
def Number.ofText (t : Text) : Number :=
  match readWhole? t.trim with
  | some n => .whole n
  | none => .double ((readDouble? t.trim).getD .nan)

end PercentFormat
