import PercentFormat.Double.Significant

/-! # The shortest decimal of a double

* **`Decimal`** — a number written as digits times a power of ten.
* **`Magnitude.shortest`** — the decimal with the fewest digits that rounds to the magnitude,
  and of those with equally few digits the nearest one. -/

namespace PercentFormat

/-- A decimal number, `digits * 10 ^ exponent`. -/
structure Decimal where
  /-- The digits, as one number. -/
  digits : Nat
  /-- The power of ten of the last digit. -/
  exponent : Int
  deriving DecidableEq

namespace Decimal

/-- The same number without zeros at the end of its digits. -/
def dropZeros (d : Decimal) : Decimal :=
  if h : d.digits ≠ 0 ∧ d.digits % 10 = 0 then dropZeros ⟨d.digits / 10, d.exponent + 1⟩ else d
termination_by d.digits
decreasing_by exact Nat.div_lt_self (by omega) (by decide)

/-- The numeral of the digits. -/
def numeral (d : Decimal) : Text := Numeral.decimal d.digits

/-- The number of digits in front of the decimal point; negative when zeros follow the point. -/
def point (d : Decimal) : Int := d.numeral.length + d.exponent

/-- The decimal rounds to the magnitude. -/
def ReadsBack (d : Decimal) (x : Magnitude) : Prop :=
  Magnitude.ofDecimal? d.digits d.exponent = some x

instance (d : Decimal) (x : Magnitude) : Decidable (d.ReadsBack x) :=
  inferInstanceAs (Decidable (_ = _))

end Decimal

namespace Magnitude

/-- The magnitude as a decimal, to the last digit: a unit has 1074 decimal places. -/
def exactDecimal (x : Magnitude) : Decimal := ⟨x.units * (pow10 1074 / unitsPerOne), -1074⟩

/-- The two decimals with the given number of places between which the magnitude lies, the
nearer one first; of two equally near ones the one with the even last digit. -/
def neighbours (x : Magnitude) (places : Int) : List Decimal :=
  let floor := (x.scaled places).1 / (x.scaled places).2
  let nearer := x.atPlaces places
  let other := if nearer = floor then floor + 1 else floor
  [⟨nearer, -places⟩, ⟨other, -places⟩]

/-- The first of the two neighbours with the given number of places that rounds to the
magnitude. -/
def readingBack? (x : Magnitude) (places : Int) : Option Decimal :=
  (x.neighbours places).find? fun d => d.ReadsBack x

/-- The shortest decimal that rounds to the magnitude: one significant digit is tried, then
two, and so on. Seventeen digits always suffice; the exact decimal stands behind them. -/
def shortest (x : Magnitude) : Decimal :=
  if x.units = 0 then ⟨0, 0⟩
  else
    let exponent := x.decimalExponent
    -- `further` digits stand behind the leading one
    let found := (List.range 17).findSome? fun further : Nat =>
      x.readingBack? ((further : Int) - exponent)
    (found.getD x.exactDecimal).dropZeros

end Magnitude

end PercentFormat
